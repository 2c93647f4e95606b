import AppScaffold.Model.Config
import AppScaffold.Model.Prompt
import AppScaffold.Spec.Decode
import AppScaffold.Spec.Validation

namespace AppScaffold

open Json Text

structure CompletionRequest where
  model : String
  systemInstruction : String
  prompt : String
  mimeType : String
  schema : Value
  temperature : Sampling
  topK : Nat
  topP : Sampling

def ProducerConfig.request (c : ProducerConfig) (prompt : String) : CompletionRequest :=
  { model := c.model, systemInstruction, prompt, mimeType := "application/json"
    schema := responseSchema, temperature := c.temperature, topK := c.topK, topP := c.topP }

/-- The request as a document. Its sampling values keep their single precision. -/
def CompletionRequest.json (r : CompletionRequest) : String :=
  let members : List (String × String) :=
    [("model", writeString r.model), ("systemInstruction", writeString r.systemInstruction),
      ("prompt", writeString r.prompt), ("responseMimeType", writeString r.mimeType),
      ("responseSchema", r.schema.compact), ("temperature", r.temperature.documentText),
      ("topK", toString r.topK), ("topP", r.topP.documentText)]
  "\x7b" ++ ",".intercalate (members.map fun (k, v) => writeString k ++ ":" ++ v) ++ "\x7d"

inductive CompletionError
  | empty
  | notAnObject
  | invalidJson (e : Json.Error)
  | schemaMismatch (e : SpecError)

def CompletionError.message : CompletionError → String
  | empty => "received an empty response from the model, try refining the prompt"
  | notAnObject => "model did not return a JSON object"
  | invalidJson e => "model returned invalid JSON: " ++ e.message
  | schemaMismatch e => "model output does not match the specification schema: " ++ e.message

def looksLikeObject (cs : List Char) : Bool := cs.head? == some '{' && cs.getLast? == some '}'

/-- The specification in an answer. White space around it does not matter. -/
def decodeCompletion (answer : String) : Except CompletionError AppSpecification :=
  let cs := trimChars answer.toList
  if cs.isEmpty then .error .empty
  else if !looksLikeObject cs then .error .notAnObject
  else
    match Value.parse (String.ofList cs) with
    | .error e => .error (.invalidJson e)
    | .ok v => (AppSpecification.ofValue v).mapError fun e => .schemaMismatch (.json e)

end AppScaffold

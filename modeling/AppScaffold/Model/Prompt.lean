import AppScaffold.Json.Writer
import AppScaffold.Spec.Encode

namespace AppScaffold

open Json

inductive PromptKind
  | generation
  | modification
  deriving DecidableEq

namespace PromptKind

def name : PromptKind → String
  | generation => "generation"
  | modification => "modification"

def limits : PromptKind → Nat × Nat
  | generation => (10, 5000)
  | modification => (5, 2000)

def admits (kind : PromptKind) (length : Nat) : Bool :=
  kind.limits.1 ≤ length && length ≤ kind.limits.2

end PromptKind

/-- A prompt of `length` characters, which are too few or too many. -/
structure PromptError where
  kind : PromptKind
  length : Nat
  deriving DecidableEq

def PromptError.message (e : PromptError) : String :=
  e.kind.name ++ " prompt must be " ++ toString e.kind.limits.1 ++ " to " ++
    toString e.kind.limits.2 ++ " characters, got " ++ toString e.length

def PromptKind.check (kind : PromptKind) (prompt : String) : Except PromptError Unit :=
  if kind.admits prompt.length then .ok () else .error ⟨kind, prompt.length⟩

def kindGuide : List (ComponentKind × List String) :=
  let style := "style?: object"
  let children := "children: AppComponent[]"
  [(.title, ["content: string", style]),
    (.text, ["content: string", style]),
    (.button, ["content: string", "navigateTo?: string", "onPress?: string", style]),
    (.list, ["content: string[]", style]),
    (.textInput, ["placeholder: string", "value?: string", "onChangeText?: string", style]),
    (.image, ["source: string", "alt?: string", style]),
    (.card, [children, style]),
    (.scrollView, [children, style]),
    (.view, [children, style]),
    (.touchableOpacity, [children, "onPress?: string", style]),
    (.flatList, ["data: any[]", "renderItem: string", "keyExtractor?: string", style]),
    (.safeAreaView, [children, style])]

def guideLine (n : Nat) (kind : ComponentKind) (properties : List String) : String :=
  toString n ++ ". " ++ kind.name ++ ": \x7b " ++
    ", ".intercalate (("type: \"" ++ kind.name ++ "\"") :: properties) ++ " \x7d"

def guideLines (n : Nat) : List (ComponentKind × List String) → List String
  | [] => []
  | (kind, properties) :: rest => guideLine n kind properties :: guideLines (n + 1) rest

def systemInstruction : String :=
  Text.unlines <|
    ["You generate React Native app specifications from user descriptions.",
      "",
      "Respond only with JSON matching the provided schema. " ++
        "Do not add explanations or any other text.",
      "",
      "Supported component types and their properties:"] ++
    guideLines 1 kindGuide ++
    ["",
      "Use navigateTo with a screen name for navigation. " ++
        "Declare screen state with useState bindings and side effects with useEffect blocks " ++
        "where the app needs interactivity, and reference them from event handlers.",
      "",
      "Produce realistic, functional apps with working state and navigation."]

def typed (name : String) (more : List (String × Value)) : Value :=
  .object (("type", .string name) :: more)

def textSchema : Value := typed "string" []

def listSchema (item : Value) : Value := typed "array" [("items", item)]

def anyListSchema : Value := typed "array" []

def objectSchema (properties : List (String × Value)) (required : List String) : Value :=
  typed "object" <|
    ("properties", .object properties) ::
      if required.isEmpty then [] else [("required", .array (required.map .string))]

def contentSchema : Value := .object [("oneOf", .array [textSchema, listSchema textSchema])]

def componentSchema : Value :=
  objectSchema
    [("type", textSchema), ("content", contentSchema), ("navigateTo", textSchema),
      ("onPress", textSchema), ("placeholder", textSchema), ("value", textSchema),
      ("onChangeText", textSchema), ("source", textSchema), ("alt", textSchema),
      ("children", anyListSchema), ("data", anyListSchema), ("renderItem", textSchema),
      ("keyExtractor", textSchema), ("style", typed "object" [])]
    ["type"]

def stateSchema : Value :=
  objectSchema [("name", textSchema), ("initialValue", .object []), ("type", textSchema)] []

def effectSchema : Value := objectSchema [("dependencies", anyListSchema), ("code", textSchema)] []

def screenSchema : Value :=
  objectSchema
    [("name", textSchema), ("path", textSchema), ("components", listSchema componentSchema),
      ("state", listSchema stateSchema), ("effects", listSchema effectSchema)]
    ["name", "path", "components"]

def responseSchema : Value :=
  objectSchema
    [("appName", textSchema), ("dependencies", listSchema textSchema),
      ("screens", listSchema screenSchema)]
    ["appName", "dependencies", "screens"]

/-- The prompt that asks for a change to a specification. -/
def AppSpecification.iterationPrompt (spec : AppSpecification) (modification : String) : String :=
  "Original App Specification:\n" ++ spec.toValue.pretty ++ "\n\nModification Request:\n" ++
    modification ++ "\n\n" ++
    "Modify the app specification according to the request above. " ++
    "Keep the existing structure and change only what is necessary.\n"

end AppScaffold

import AppScaffold.Log.Entry
import AppScaffold.Model.Completion

namespace AppScaffold

open Log

/-- Why a producer or its model fails. `ε` has the failures of a model that a producer cannot meet
on its own; a producer passes on whatever failure its model has. -/
inductive ProducerError (ε : Type := String)
  | prompt (e : PromptError)
  | completion (e : CompletionError)
  | backend (e : ε)

def ProducerError.message : ProducerError → String
  | prompt e => e.message
  | completion e => e.message
  | backend reason => "completion backend error: " ++ reason

/-- A language model with a state `σ`. It answers a request, or fails. -/
structure Backend (σ : Type) (ε : Type := String) where
  complete : CompletionRequest → σ → Except (ProducerError ε) String × σ
  shutdown : σ → Except (ProducerError ε) Unit × σ

structure Producer (σ : Type) (ε : Type := String) where
  config : ProducerConfig
  backend : Backend σ ε
  state : σ

structure Outcome (σ α : Type) (ε : Type := String) where
  result : Except (ProducerError ε) α
  producer : Producer σ ε
  notes : List Event := []

namespace Producer

variable {σ ε : Type}

def readyNote (config : ProducerConfig) : Event :=
  ⟨.producer, .info, "specification producer ready", [⟨"model", config.model⟩]⟩

def requestNote (r : CompletionRequest) : Event :=
  ⟨.producer, .debug, "requesting completion",
    [⟨"model", r.model⟩, .count "prompt_len" r.prompt.utf8ByteSize]⟩

def rejectedNote (e : CompletionError) : Event :=
  ⟨.producer, .warn, "completion rejected", [⟨"error", e.message⟩]⟩

def producedNote (spec : AppSpecification) : Event :=
  ⟨.producer, .debug, "specification produced",
    [⟨"app", spec.appName⟩, .count "screens" spec.screens.length]⟩

def shutdownNote : Event := ⟨.producer, .info, "specification producer shutting down", []⟩

def complete (p : Producer σ ε) (prompt : String) : Outcome σ AppSpecification ε :=
  let request := p.config.request prompt
  let (answer, state) := p.backend.complete request p.state
  let producer := { p with state }
  match answer with
  | .error e => ⟨.error e, producer, [requestNote request]⟩
  | .ok text =>
    match decodeCompletion text with
    | .error e => ⟨.error (.completion e), producer, [requestNote request, rejectedNote e]⟩
    | .ok spec => ⟨.ok spec, producer, [requestNote request, producedNote spec]⟩

def produce (p : Producer σ ε) (prompt : String) : Outcome σ AppSpecification ε :=
  match PromptKind.generation.check prompt with
  | .error e => ⟨.error (.prompt e), p, []⟩
  | .ok () => p.complete prompt

/-- A changed specification. The limits are those of the change, not of the whole prompt. -/
def iterate (p : Producer σ ε) (spec : AppSpecification) (modification : String) :
    Outcome σ AppSpecification ε :=
  match PromptKind.modification.check modification with
  | .error e => ⟨.error (.prompt e), p, []⟩
  | .ok () => p.complete (spec.iterationPrompt modification)

def shutdown (p : Producer σ ε) : Outcome σ Unit ε :=
  let (result, state) := p.backend.shutdown p.state
  ⟨result, { p with state }, [shutdownNote]⟩

end Producer

/-- Answers prepared in advance, each a text or a failure, and the requests that have come so
far. -/
structure Script (φ : Type := String) where
  answers : List (Except φ String)
  shutdown : Except φ Unit := .ok ()
  asked : List CompletionRequest := []

section Script

variable {φ ε : Type} (fail : φ → ProducerError ε) (spent : ProducerError ε)

/-- A model that gives the answers of a script one after another, and fails with `spent` behind the
last of them. A failure in the script stands for the error that `fail` makes of it. -/
def Script.backend : Backend (Script φ) ε where
  complete request script :=
    let answer := (script.answers.head?.map (·.mapError fail)).getD (.error spent)
    (answer, { script with answers := script.answers.tail, asked := script.asked ++ [request] })
  shutdown script := (script.shutdown.mapError fail, script)

def Producer.scripted (config : ProducerConfig) (script : Script φ) : Producer (Script φ) ε :=
  ⟨config, Script.backend fail spent, script⟩

end Script

def Producer.ofScript (config : ProducerConfig) (script : Script) : Producer Script :=
  .scripted .backend (.backend "no more answers") config script

end AppScaffold

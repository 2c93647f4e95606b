import AppScaffold.Model.Producer
import AppScaffold.Store.Basic
import Mathlib.Data.List.Forall2

/-! Calls of a producer one after another. The model is asked once for every call whose text has an
admitted length and never for any other, so that the answers meet the calls in their order and no
failure reaches beyond its own call. -/

namespace AppScaffold

/-- A call that wants a specification. -/
inductive ProducerCall
  | produce (prompt : String)
  | iterate (original : AppSpecification) (modification : String)

namespace ProducerCall

def kind : ProducerCall → PromptKind
  | produce _ => .generation
  | iterate _ _ => .modification

def text : ProducerCall → String
  | produce prompt => prompt
  | iterate _ modification => modification

def Admitted : ProducerCall → Prop
  | produce prompt => 10 ≤ prompt.length ∧ prompt.length ≤ 5000
  | iterate _ modification => 5 ≤ modification.length ∧ modification.length ≤ 2000

instance : DecidablePred Admitted
  | produce _ => inferInstanceAs (Decidable (_ ∧ _))
  | iterate _ _ => inferInstanceAs (Decidable (_ ∧ _))

def question : ProducerCall → String
  | produce prompt => prompt
  | iterate original modification => original.iterationPrompt modification

structure Sends (config : ProducerConfig) (c : ProducerCall) (r : CompletionRequest) : Prop where
  prompt : r.prompt = c.question
  model : r.model = config.model
  temperature : r.temperature = config.temperature
  topK : r.topK = config.topK
  topP : r.topP = config.topP

theorem sends_request (config : ProducerConfig) (c : ProducerCall) :
    c.Sends config (config.request c.question) := ⟨rfl, rfl, rfl, rfl, rfl⟩

/-- What an answer makes of the call that gets it. A failure is passed on unchanged. -/
def settle {ε : Type} :
    Except (ProducerError ε) String → Except (ProducerError ε) AppSpecification
  | .error e => .error e
  | .ok answer => (decodeCompletion answer).mapError .completion

theorem check_text (c : ProducerCall) : c.kind.check c.text =
    if c.Admitted then .ok () else .error ⟨c.kind, c.text.length⟩ := by
  have same : c.kind.admits c.text.length = true ↔ c.Admitted := by
    rw [PromptKind.admits, Bool.and_eq_true, decide_eq_true_eq, decide_eq_true_eq]
    cases c <;> rfl
  rw [PromptKind.check]
  exact if_congr same rfl rfl

end ProducerCall

namespace Script

variable {φ ε : Type} (fail : φ → ProducerError ε) (spent : ProducerError ε)

def answer (script : Script φ) (n : Nat) : Except (ProducerError ε) String :=
  (script.answers[n]?.map (·.mapError fail)).getD (.error spent)

def behind (script : Script φ) (r : CompletionRequest) : Script φ :=
  { script with answers := script.answers.tail, asked := script.asked ++ [r] }

theorem complete_backend (script : Script φ) (r : CompletionRequest) :
    (backend fail spent).complete r script = (script.answer fail spent 0, script.behind r) := by
  rw [answer, ← List.head?_eq_getElem?]
  rfl

theorem answer_behind (script : Script φ) (r : CompletionRequest) (n : Nat) :
    (script.behind r).answer fail spent n = script.answer fail spent (n + 1) := by
  rw [answer, answer, behind, List.getElem?_tail]

end Script

namespace Producer

variable {σ φ ε : Type}

def call (p : Producer σ ε) : ProducerCall → Outcome σ AppSpecification ε
  | .produce prompt => p.produce prompt
  | .iterate original modification => p.iterate original modification

def run (p : Producer σ ε) :
    List ProducerCall → List (Except (ProducerError ε) AppSpecification) × Producer σ ε
  | [] => ([], p)
  | c :: cs =>
    let first := p.call c
    let rest := first.producer.run cs
    (first.result :: rest.1, rest.2)

theorem call_eq (p : Producer σ ε) (c : ProducerCall) : p.call c =
    match c.kind.check c.text with
    | .error e => ⟨.error (.prompt e), p, []⟩
    | .ok () => p.complete c.question := by
  cases c <;> rfl

theorem call_of_refused {c : ProducerCall} (refused : ¬ c.Admitted) (p : Producer σ ε) :
    p.call c = ⟨.error (.prompt ⟨c.kind, c.text.length⟩), p, []⟩ := by
  rw [call_eq, c.check_text, if_neg refused]

theorem call_of_admitted {c : ProducerCall} (admitted : c.Admitted) (p : Producer σ ε) :
    p.call c = p.complete c.question := by
  rw [call_eq, c.check_text, if_pos admitted]

section Scripted

variable (fail : φ → ProducerError ε) (spent : ProducerError ε)

theorem complete_scripted (config : ProducerConfig) (script : Script φ) (prompt : String) :
    ((scripted fail spent config script).complete prompt).result =
        ProducerCall.settle (script.answer fail spent 0) ∧
      ((scripted fail spent config script).complete prompt).producer =
        scripted fail spent config (script.behind (config.request prompt)) := by
  have answered := script.complete_backend fail spent (config.request prompt)
  rw [complete]
  simp only [scripted, answered]
  cases script.answer fail spent 0 with
  | error e => exact ⟨rfl, rfl⟩
  | ok answer =>
    simp only [ProducerCall.settle]
    cases decodeCompletion answer <;> exact ⟨rfl, rfl⟩

/-- What a run over a script comes to. -/
structure Served (config : ProducerConfig) (script : Script φ) (calls : List ProducerCall)
    (results : List (Except (ProducerError ε) AppSpecification))
    (after : Producer (Script φ) ε) : Prop where
  settings : after.config = config
  backend : after.backend = Script.backend fail spent
  asked : ∃ requests, after.state.asked = script.asked ++ requests ∧
    List.Forall₂ (ProducerCall.Sends config) (calls.filter (·.Admitted)) requests
  answers : after.state.answers = script.answers.drop (calls.countP (·.Admitted))
  length : results.length = calls.length
  /-- An admitted call gets the answer that no admitted call before it has got. -/
  result : ∀ (before : List ProducerCall) (c : ProducerCall) (rest : List ProducerCall),
    calls = before ++ c :: rest → results[before.length]? =
      some (if c.Admitted then
          ProducerCall.settle (script.answer fail spent (before.countP (·.Admitted)))
        else .error (.prompt ⟨c.kind, c.text.length⟩))

variable {config : ProducerConfig} {script : Script φ} {c : ProducerCall}
  {calls : List ProducerCall}
  {results : List (Except (ProducerError ε) AppSpecification)} {after : Producer (Script φ) ε}

theorem Served.nil :
    Served fail spent config script [] [] (scripted fail spent config script) where
  settings := rfl
  backend := rfl
  asked := ⟨[], (List.append_nil _).symm, .nil⟩
  answers := rfl
  length := rfl
  result := fun before c rest split => absurd split (by simp)

theorem Served.refused (refused : ¬ c.Admitted)
    (served : Served fail spent config script calls results after) :
    Served fail spent config script (c :: calls)
      (.error (.prompt ⟨c.kind, c.text.length⟩) :: results) after where
  settings := served.settings
  backend := served.backend
  asked := by simpa [refused] using served.asked
  answers := by simpa [refused] using served.answers
  length := by simp [served.length]
  result := by
    intro before d rest split
    cases before with
    | nil =>
      obtain ⟨rfl, -⟩ := List.cons.inj split
      rw [if_neg refused]
      rfl
    | cons b before =>
      obtain ⟨rfl, later⟩ := List.cons.inj split
      simpa [refused] using served.result before d rest later

theorem Served.admitted (admitted : c.Admitted)
    (served : Served fail spent config (script.behind (config.request c.question)) calls results
      after) :
    Served fail spent config script (c :: calls)
      (ProducerCall.settle (script.answer fail spent 0) :: results) after where
  settings := served.settings
  backend := served.backend
  asked := by
    obtain ⟨requests, asked, sent⟩ := served.asked
    refine ⟨config.request c.question :: requests, ?_, ?_⟩
    · simpa [Script.behind] using asked
    · rw [List.filter_cons_of_pos (by simpa using admitted)]
      exact .cons (c.sends_request config) sent
  answers := by simpa [Script.behind, admitted, List.drop_tail] using served.answers
  length := by simp [served.length]
  result := by
    intro before d rest split
    cases before with
    | nil =>
      obtain ⟨rfl, -⟩ := List.cons.inj split
      rw [if_pos admitted]
      rfl
    | cons b before =>
      obtain ⟨rfl, later⟩ := List.cons.inj split
      simpa [admitted, Script.answer_behind] using served.result before d rest later

theorem Served.prompts (served : Served fail spent config script calls results after) :
    after.state.asked.map (·.prompt) =
      script.asked.map (·.prompt) ++ (calls.filter (·.Admitted)).map ProducerCall.question := by
  obtain ⟨requests, asked, sent⟩ := served.asked
  rw [asked, List.map_append]
  congr 1
  generalize calls.filter (·.Admitted) = admitted at sent
  clear asked
  induction sent with
  | nil => rfl
  | cons first _ rest => rw [List.map_cons, List.map_cons, first.prompt, rest]

/-- A producer over a script asks for every admitted call once and in order. The call gets the next
answer, be it a failure of any kind, which it returns unchanged, or a text to be decoded; any other
call is told its length and takes no answer. -/
theorem run_script (config : ProducerConfig) (script : Script φ) (calls : List ProducerCall) :
    Served fail spent config script calls ((scripted fail spent config script).run calls).1
      ((scripted fail spent config script).run calls).2 := by
  induction calls generalizing script with
  | nil => exact .nil fail spent
  | cons c calls ih =>
    rw [run]
    by_cases admitted : c.Admitted
    · obtain ⟨result, producer⟩ := complete_scripted fail spent config script c.question
      rw [call_of_admitted admitted, result, producer]
      exact .admitted fail spent admitted (ih _)
    · rw [call_of_refused admitted]
      exact .refused fail spent admitted (ih script)

end Scripted

def trialCalls : List ProducerCall :=
  let plants : AppSpecification := { appName := "Plants" }
  [.produce "an app for plants", .iterate plants "bees", .iterate plants "show the bees",
    .produce "an app for bees"]

def trialScript : Script (ProducerError StoreError) where
  answers := [.error (.backend (.notFound 7)), .ok "no idea", .error (.prompt ⟨.generation, 3⟩),
    .ok "unread"]

theorem run_script_trialCalls :
    let spent : ProducerError StoreError := .completion .empty
    let ran := (scripted id spent { apiKey := "key" } trialScript).run trialCalls
    ran.1[0]? = some (.error (.backend (.notFound 7))) ∧
      ran.1[1]? = some (.error (.prompt ⟨.modification, 4⟩)) ∧
      ran.1[2]? = some (.error (.completion .notAnObject)) ∧
      ran.1[3]? = some (.error (.prompt ⟨.generation, 3⟩)) ∧
      ran.2.state.answers = [.ok "unread"] ∧
      ran.2.state.asked.map (·.prompt) =
        [trialCalls[0].question, trialCalls[2].question, trialCalls[3].question] := by
  intro spent ran
  have served := run_script id spent { apiKey := "key" } trialScript trialCalls
  refine ⟨?_, ?_, ?_, ?_, ?_, ?_⟩
  · exact (served.result [] _ _ rfl).trans rfl
  · exact (served.result [_] _ _ rfl).trans rfl
  · exact (served.result [_, _] _ _ rfl).trans rfl
  · exact (served.result [_, _, _] _ _ rfl).trans rfl
  · exact served.answers.trans rfl
  · exact (served.prompts id spent).trans rfl

end Producer

end AppScaffold

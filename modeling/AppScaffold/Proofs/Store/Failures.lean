import AppScaffold.Proofs.Store.Assignments

namespace AppScaffold

namespace StoreCall

/-- Something given with the call is outside its limits; the error tells of it. -/
inductive Exceeds : StoreCall → StoreError → Prop
  | newName {new : NewProject} (outside : ¬ (1 ≤ new.name.length ∧ new.name.length ≤ 100)) :
    Exceeds (.create new) (.name new.name.length)
  | newDescription {new : NewProject} {d : String} (given : new.description = some d)
      (outside : ¬ d.length ≤ 500) : Exceeds (.create new) (.description d.length)
  | newPrompt {new : NewProject}
      (outside : ¬ (10 ≤ new.prompt.length ∧ new.prompt.length ≤ 5000)) :
    Exceeds (.create new) (.prompt ⟨.generation, new.prompt.length⟩)
  | name {id : Nat} {u : ProjectUpdate} {name : String} (given : u.name = some name)
      (outside : ¬ (1 ≤ name.length ∧ name.length ≤ 100)) :
    Exceeds (.update id u) (.name name.length)
  | description {id : Nat} {u : ProjectUpdate} {d : String} (given : u.description = some d)
      (outside : ¬ d.length ≤ 500) : Exceeds (.update id u) (.description d.length)
  | prompt {id : Nat} {prompt : String} {spec : AppSpecification}
      (outside : ¬ (5 ≤ prompt.length ∧ prompt.length ≤ 2000)) :
    Exceeds (.iterate id prompt spec) (.prompt ⟨.modification, prompt.length⟩)

def id? : StoreCall → Option Nat
  | create _ | list _ => none
  | get id | update id _ | iterate id _ _ | iterations id | delete id => some id

def check : StoreCall → Except StoreError Unit
  | create new => new.check
  | update _ u => u.check
  | iterate _ prompt _ => checkPrompt .modification prompt
  | get _ | list _ | iterations _ | delete _ => .ok ()

end StoreCall

theorem checkName_eq_error {s : String} {e : StoreError} (refused : checkName s = .error e) :
    ¬ (1 ≤ s.length ∧ s.length ≤ 100) ∧ e = .name s.length := by
  constructor
  · intro fits
    rw [checkName_eq_ok_iff.mpr fits] at refused
    cases refused
  · rw [checkName] at refused
    split at refused
    · cases refused
    · exact (Except.error.inj refused).symm

theorem checkDescription_eq_error {d : Option String} {e : StoreError}
    (refused : checkDescription d = .error e) :
    ∃ s, d = some s ∧ ¬ s.length ≤ 500 ∧ e = .description s.length := by
  cases d with
  | none => cases refused
  | some s =>
    rw [checkDescription] at refused
    split at refused
    · cases refused
    · rename_i outside
      exact ⟨s, rfl, outside, (Except.error.inj refused).symm⟩

theorem checkPrompt_eq_error {kind : PromptKind} {s : String} {e : StoreError}
    (refused : checkPrompt kind s = .error e) :
    ¬ (kind.limits.1 ≤ s.length ∧ s.length ≤ kind.limits.2) ∧ e = .prompt ⟨kind, s.length⟩ := by
  constructor
  · intro fits
    rw [checkPrompt_eq_ok_iff.mpr fits] at refused
    cases refused
  · obtain ⟨d, length, rfl⟩ := mapError_eq_error_iff.mp refused
    rw [PromptKind.check] at length
    split at length
    · cases length
    · rw [Except.error.inj length]

namespace StoreCall

variable {call : StoreCall} {e : StoreError}

theorem exceeds_of_check (refused : call.check = .error e) : call.Exceeds e := by
  cases call with
  | create new =>
    rcases check_bind_eq_error_iff.mp refused with name | ⟨-, refused⟩
    · obtain ⟨outside, rfl⟩ := checkName_eq_error name
      exact .newName outside
    rcases check_bind_eq_error_iff.mp refused with description | ⟨-, prompt⟩
    · obtain ⟨d, given, outside, rfl⟩ := checkDescription_eq_error description
      exact .newDescription given outside
    · obtain ⟨outside, rfl⟩ := checkPrompt_eq_error prompt
      exact .newPrompt outside
  | update id u =>
    have description (refused : checkDescription u.description = .error e) :
        Exceeds (.update id u) e := by
      obtain ⟨d, given, outside, rfl⟩ := checkDescription_eq_error refused
      exact .description given outside
    rw [check, ProjectUpdate.check] at refused
    split at refused
    · rename_i name given
      rcases check_bind_eq_error_iff.mp refused with refused | ⟨-, refused⟩
      · obtain ⟨outside, rfl⟩ := checkName_eq_error refused
        exact .name given outside
      · exact description refused
    · exact description refused
  | iterate id prompt spec =>
    obtain ⟨outside, rfl⟩ := checkPrompt_eq_error refused
    exact .prompt outside
  | get | list | iterations | delete => cases refused

theorem not_exceeds_of_check (passed : call.check = .ok ()) : ¬ call.Exceeds e := by
  intro exceeds
  cases exceeds with
  | newName outside => exact outside (NewProject.check_eq_ok_iff.mp passed).1
  | newDescription given outside =>
    exact outside ((NewProject.check_eq_ok_iff.mp passed).2.1 _ given)
  | newPrompt outside => exact outside (NewProject.check_eq_ok_iff.mp passed).2.2
  | name given outside => exact outside ((ProjectUpdate.check_eq_ok_iff.mp passed).1 _ given)
  | description given outside =>
    exact outside ((ProjectUpdate.check_eq_ok_iff.mp passed).2 _ given)
  | prompt outside => exact outside (checkPrompt_eq_ok_iff.mp passed)

theorem exists_exceeds_iff : (∃ e, call.Exceeds e) ↔ call.check ≠ .ok () := by
  constructor
  · rintro ⟨e, exceeds⟩ passed
    exact not_exceeds_of_check passed exceeds
  · intro refused
    cases result : call.check with
    | ok _ => exact absurd result refused
    | error e => exact ⟨e, exceeds_of_check result⟩

end StoreCall

namespace ProjectStore

variable {s : ProjectStore} {call : StoreCall} {e : StoreError}

theorem get_eq_error_iff {id : Nat} : s.get id = .error e ↔ id ∉ s.ids ∧ e = .notFound id := by
  have stored : id ∈ s.ids ↔ ∃ p, s.projects.get? id = some p := Table.mem_keys_iff
  rw [stored, get]
  cases s.projects.get? id <;> simp [eq_comm]

theorem replyChange_eq_error_iff {result : Except StoreError Change} :
    (s.replyChange result).answer = .error e ↔ result = .error e := by
  cases result <;> simp [replyChange, reply]

/-- A call fails where its check does, and else where its project is not stored. -/
theorem answer_eq_error_iff :
    (s.apply call).answer = .error e ↔
      call.check = .error e ∨ call.check = .ok () ∧ ∃ id ∈ call.id?, s.get id = .error e := by
  cases call with
  | create new =>
    rw [apply, replyChange_eq_error_iff, create, check_bind_eq_error_iff]
    simp [StoreCall.check, StoreCall.id?, pure_ne_error]
  | list r => simp [apply, reply, StoreCall.check, StoreCall.id?]
  | get id =>
    rw [apply, reply, map_eq_error_iff]
    simp [StoreCall.check, StoreCall.id?]
  | update id u =>
    rw [apply, replyChange_eq_error_iff, update, check_bind_eq_error_iff, bind_eq_error_iff]
    simp [StoreCall.check, StoreCall.id?, pure_ne_error]
  | iterate id prompt spec =>
    rw [apply, replyChange_eq_error_iff, iterate, check_bind_eq_error_iff, bind_eq_error_iff]
    simp [StoreCall.check, StoreCall.id?, pure_ne_error]
  | iterations id =>
    rw [apply, reply, map_eq_error_iff, iterations, bind_eq_error_iff]
    simp [StoreCall.check, StoreCall.id?, pure_ne_error]
  | delete id =>
    rw [apply, delete]
    cases held : s.get id <;>
      simp [StoreCall.check, StoreCall.id?, held, bind, Except.bind, reply, pure, Except.pure]

theorem exists_error_iff :
    (∃ e, (s.apply call).answer = .error e) ↔
      (∃ e, call.Exceeds e) ∨ ∃ id ∈ call.id?, id ∉ s.ids := by
  rw [StoreCall.exists_exceeds_iff]
  simp only [answer_eq_error_iff, get_eq_error_iff]
  cases call.check with
  | error e => simp
  | ok _ =>
    constructor
    · rintro ⟨e, refused | ⟨-, id, named, missing, -⟩⟩
      · cases refused
      · exact .inr ⟨id, named, missing⟩
    · rintro (refused | ⟨id, named, missing⟩)
      · exact absurd rfl refused
      · exact ⟨.notFound id, .inr ⟨rfl, id, named, missing, rfl⟩⟩

theorem store_of_error (failed : (s.apply call).answer = .error e) : (s.apply call).store = s := by
  have step := s.apply_step call
  rw [failed] at step
  generalize (s.apply call).store = t at step
  cases step
  rfl

/-- A call on a store behind a run fails exactly where something given with it is outside its limits
or its project is not stored, and the limit is what the error tells of where both is so. Nothing
that the call has assigned is left then: the next call to create a project gets the number it would
have got, and every page is listed as before. -/
theorem failed_call (options : GeneratorOptions) (calls : List StoreCall) (call : StoreCall) :
    let s := run { options } calls
    ((∃ e, (s.apply call).answer = .error e) ↔
        (∃ e, call.Exceeds e) ∨ ∃ id ∈ call.id?, id ∉ s.ids) ∧
      ∀ e, (s.apply call).answer = .error e →
        (call.Exceeds e ∨
          (∀ d, ¬ call.Exceeds d) ∧ ∃ id ∈ call.id?, id ∉ s.ids ∧ e = .notFound id) ∧
        StoreSteps.exec call.steps s = (.error e, s) ∧
        (s.apply call).store = s ∧
        (∀ new, ((s.apply call).store.apply (.create new)).answer =
          (s.apply (.create new)).answer) ∧
        ∀ r, (s.apply call).store.list r = s.list r := by
  intro s
  refine ⟨exists_error_iff, fun e failed => ?_⟩
  have unchanged := store_of_error failed
  have steps := (consistent_run options calls).exec_steps call
  rw [failed, unchanged] at steps
  have reason : call.Exceeds e ∨
      (∀ d, ¬ call.Exceeds d) ∧ ∃ id ∈ call.id?, id ∉ s.ids ∧ e = .notFound id := by
    rcases answer_eq_error_iff.mp failed with refused | ⟨passed, id, named, missing⟩
    · exact .inl (StoreCall.exceeds_of_check refused)
    · refine .inr ⟨fun d => StoreCall.not_exceeds_of_check passed, id, named, ?_⟩
      exact get_eq_error_iff.mp missing
  rw [unchanged]
  exact ⟨reason, steps, rfl, fun new => rfl, fun r => rfl⟩

theorem failed_call_sampleCalls :
    let s := run {} sampleCalls
    let call : StoreCall := .iterate 2 "no" { appName := "Todo" }
    s.created = 2 ∧ s.ids = [1] ∧
      (s.apply call).answer = .error (.prompt ⟨.modification, 2⟩) ∧
      StoreSteps.exec call.steps s = (.error (.prompt ⟨.modification, 2⟩), s) := by
  have failed : ((run {} sampleCalls).apply (.iterate 2 "no" { appName := "Todo" })).answer =
      .error (.prompt ⟨.modification, 2⟩) := by
    rfl
  exact ⟨by decide, by decide, failed, ((failed_call {} sampleCalls _).2 _ failed).2.1⟩

end ProjectStore

end AppScaffold

import AppScaffold.Proofs.Store.Failures
import AppScaffold.Proofs.Store.Versions

namespace AppScaffold

/-- A change that is asked of one project. -/
inductive ProjectCall
  | update (u : ProjectUpdate)
  | iterate (prompt : String) (spec : AppSpecification)
  | delete

namespace ProjectCall

def Fits : ProjectCall → Prop
  | update u =>
    (∀ name ∈ u.name, 1 ≤ name.length ∧ name.length ≤ 100) ∧ ∀ d ∈ u.description, d.length ≤ 500
  | iterate prompt _ => 5 ≤ prompt.length ∧ prompt.length ≤ 2000
  | delete => True

instance : DecidablePred Fits
  | update u => inferInstanceAs (Decidable
      ((∀ name ∈ u.name, 1 ≤ name.length ∧ name.length ≤ 100) ∧ ∀ d ∈ u.description, d.length ≤ 500))
  | iterate prompt _ => inferInstanceAs (Decidable (5 ≤ prompt.length ∧ prompt.length ≤ 2000))
  | delete => inferInstanceAs (Decidable True)

def on (id : Nat) : ProjectCall → StoreCall
  | update u => .update id u
  | iterate prompt spec => .iterate id prompt spec
  | delete => .delete id

end ProjectCall

def StoreCall.on? (id : Nat) : StoreCall → Option ProjectCall
  | update k u => if k = id then some (.update u) else none
  | iterate k prompt spec => if k = id then some (.iterate prompt spec) else none
  | delete k => if k = id then some .delete else none
  | create _ | get _ | list _ | iterations _ => none

theorem StoreCall.on?_eq_some_iff {id : Nat} {call : StoreCall} {c : ProjectCall} :
    call.on? id = some c ↔ call = c.on id := by
  constructor
  · intro asked
    cases call with
    | update k u | iterate k prompt spec | delete k =>
      by_cases same : k = id
      · rw [on?, if_pos same] at asked
        obtain rfl := Option.some.inj asked
        rw [same]
        rfl
      · rw [on?, if_neg same] at asked
        cases asked
    | create | get | list | iterations => cases asked
  · rintro rfl
    cases c <;> exact if_pos rfl

theorem ProjectCall.on?_on_of_ne {id k : Nat} (other : k ≠ id) (c : ProjectCall) :
    (c.on k).on? id = none := by
  cases c <;> exact if_neg other

theorem ProjectCall.fits_iff {id : Nat} {c : ProjectCall} : c.Fits ↔ (c.on id).check = .ok () := by
  cases c with
  | update u => exact ProjectUpdate.check_eq_ok_iff.symm
  | iterate prompt spec => exact (@checkPrompt_eq_ok_iff .modification prompt).symm
  | delete => exact iff_of_true trivial rfl

/-- A project that is kept without a store. -/
structure LoneProject where
  project : StoredProject
  past : List Iteration

namespace LoneProject

def start (options : GeneratorOptions) (id : Nat) (new : NewProject) : LoneProject where
  project :=
    { id, name := new.name, description := new.description, prompt := new.prompt
      specification := new.specification, files := options.generate new.specification, version := 1 }
  past := []

def change (options : GeneratorOptions) (l : LoneProject) : ProjectCall → Option LoneProject
  | .update u =>
    let p := l.project
    some { l with project :=
      { p with name := u.name.getD p.name, description := u.description <|> p.description } }
  | .iterate prompt spec =>
    let p := l.project
    let version := p.version + 1
    let files := options.generate spec
    some
      { project := { p with specification := spec, files, version }
        past := l.past ++ [⟨p.id, version, prompt, spec, files⟩] }
  | .delete => none

def next (options : GeneratorOptions) (l : LoneProject) (call : ProjectCall) :
    Option LoneProject :=
  if call.Fits then l.change options call else some l

def run (options : GeneratorOptions) (l : LoneProject) (calls : List ProjectCall) :
    Option LoneProject :=
  calls.foldlM (next options) l

def get (id : Nat) : Option LoneProject → Except StoreError StoredProject
  | some l => .ok l.project
  | none => .error (.notFound id)

def iterations (id : Nat) : Option LoneProject → Except StoreError (List Iteration)
  | some l => .ok l.past
  | none => .error (.notFound id)

end LoneProject

namespace ProjectStore

variable {s t : ProjectStore} {id : Nat} {p : StoredProject} {past : List Iteration}

def lone? (s : ProjectStore) (id : Nat) : Option LoneProject :=
  (s.projects.get? id).map fun p => ⟨p, s.past id⟩

theorem lone?_of_held (held : s.get id = .ok p) : s.lone? id = some ⟨p, s.past id⟩ := by
  rw [lone?, get_eq_ok_iff.mp held, Option.map_some]

theorem lone?_of_missing (missing : id ∉ s.ids) : s.lone? id = none := by
  have free : s.projects.get? id = none := by
    rw [Option.eq_none_iff_forall_ne_some]
    exact fun p found => missing (Table.mem_keys_iff.mpr ⟨p, found⟩)
  rw [lone?, free, Option.map_none]

/-- What the store tells of the project is what is told of it on its own. -/
def Tells (s : ProjectStore) (id : Nat) (l : Option LoneProject) : Prop :=
  s.get id = LoneProject.get id l ∧ s.iterations id = LoneProject.iterations id l

theorem tells_lone (s : ProjectStore) (id : Nat) : s.Tells id (s.lone? id) := by
  constructor
  · rw [get, lone?]
    cases s.projects.get? id <;> rfl
  · rw [iterations, get, lone?]
    cases s.projects.get? id <;> rfl

theorem told_of_lone (same : t.lone? id = s.lone? id) :
    t.get id = s.get id ∧ t.iterations id = s.iterations id := by
  obtain ⟨project, past⟩ := t.tells_lone id
  rw [same] at project past
  exact ⟨project.trans (s.tells_lone id).1.symm, past.trans (s.tells_lone id).2.symm⟩

theorem Records.lone?_self (records : s.Records t p past) : t.lone? p.id = some ⟨p, past⟩ := by
  rw [lone?_of_held records.get_self, records.past_self]

theorem Records.lone?_other (records : s.Records t p past) (other : id ≠ p.id) :
    t.lone? id = s.lone? id := by
  rw [lone?, lone?, records.projects_eq, Table.get?_put_of_ne _ _ other, records.past_other id other]

theorem lone?_without_self (s : ProjectStore) (id : Nat) : (s.without id).lone? id = none := by
  rw [lone?, without, Table.get?_erase, if_pos rfl, Option.map_none]

theorem lone?_without_other {k : Nat} (other : id ≠ k) : (s.without k).lone? id = s.lone? id := by
  rw [lone?, lone?, past_without other, without, Table.get?_erase, if_neg other]

theorem next_of_error {c : ProjectCall} {e : StoreError}
    (failed : (s.apply (c.on id)).answer = .error e) :
    (s.lone? id).bind (LoneProject.next s.options · c) = s.lone? id := by
  rcases answer_eq_error_iff.mp failed with refused | ⟨-, k, named, missing⟩
  · have misfits : ¬ c.Fits := by
      rw [ProjectCall.fits_iff, refused]
      exact nofun
    simp only [LoneProject.next, if_neg misfits, Option.bind_fun_some]
  · obtain rfl : id = k := by
      cases c <;> exact Option.some.inj named
    rw [lone?_of_missing (get_eq_error_iff.mp missing).1, Option.bind_none]

theorem lone?_of_change {k : Nat} {c : ProjectCall} (held : s.get k = .ok p) (fits : c.Fits)
    (self : t.lone? k = (LoneProject.mk p (s.past k)).change s.options c)
    (others : ∀ id, id ≠ k → t.lone? id = s.lone? id) (id : Nat) :
    t.lone? id =
      match (c.on k).on? id with
      | some c => (s.lone? id).bind (LoneProject.next s.options · c)
      | none => s.lone? id := by
  by_cases same : k = id
  · subst same
    rw [StoreCall.on?_eq_some_iff.mpr rfl, self, lone?_of_held held]
    exact (if_pos fits).symm
  · rw [ProjectCall.on?_on_of_ne same]
    exact others id (Ne.symm same)

theorem Step.lone?_eq {call : StoreCall} {answer : Except StoreError StoreAnswer}
    (step : Step s call answer t) (consistent : s.Consistent) (known : id ≤ s.created)
    (succeeded : ∀ e, answer ≠ .error e) :
    t.lone? id =
      match call.on? id with
      | some c => (s.lone? id).bind (LoneProject.next s.options · c)
      | none => s.lone? id := by
  cases step with
  | failed call e => exact absurd rfl (succeeded e)
  | shown | listed | told => rfl
  | @created new =>
    have older : id ≠ s.created + 1 := by omega
    exact (withFirst_records new consistent.fresh).lone?_other older
  | @renamed k u p valid held =>
    obtain rfl := consistent.id_eq held
    have records := record_records s (p.renamed u)
    refine lone?_of_change (c := .update u) held (ProjectUpdate.check_eq_ok_iff.mp valid) ?_
      (fun id other => records.lone?_other other) id
    exact records.lone?_self
  | @revised k prompt spec p valid held =>
    obtain rfl := consistent.id_eq held
    have records := withRevised_records s prompt (p.revised s.options spec)
    refine lone?_of_change (c := .iterate prompt spec) held (checkPrompt_eq_ok_iff.mp valid) ?_
      (fun id other => records.lone?_other other) id
    exact records.lone?_self
  | @deleted k p held =>
    refine lone?_of_change (c := .delete) held trivial ?_
      (fun id other => lone?_without_other other) id
    exact lone?_without_self s k

theorem Consistent.lone?_apply (consistent : s.Consistent) (known : id ≤ s.created)
    (call : StoreCall) :
    (s.apply call).store.lone? id =
      match call.on? id with
      | some c => (s.lone? id).bind (LoneProject.next s.options · c)
      | none => s.lone? id := by
  -- A call for the project that fails in the store fails on the project alone as well.
  by_cases failed : ∃ e, (s.apply call).answer = .error e
  · obtain ⟨e, failed⟩ := failed
    rw [store_of_error failed]
    cases asked : call.on? id with
    | none => rfl
    | some c =>
      obtain rfl := StoreCall.on?_eq_some_iff.mp asked
      exact (next_of_error failed).symm
  · exact (s.apply_step call).lone?_eq consistent known (not_exists.mp failed)

theorem Consistent.lone?_run (consistent : s.Consistent) (known : id ≤ s.created)
    (calls : List StoreCall) :
    (s.run calls).lone? id =
      (s.lone? id).bind (LoneProject.run s.options · (calls.filterMap (·.on? id))) := by
  induction calls generalizing s with
  | nil => exact (Option.bind_fun_some _).symm
  | cons call calls ih =>
    have step := s.apply_step call
    have rest := ih (consistent.step step) (Nat.le_trans known step.created_mono)
    rw [step.options_eq] at rest
    calc (s.run (call :: calls)).lone? id
      _ = ((s.apply call).store.run calls).lone? id := rfl
      _ = _ := rest
      _ = _ := by
        rw [consistent.lone?_apply known call, List.filterMap_cons]
        cases call.on? id with
        | none => rfl
        | some c =>
          rw [Option.bind_assoc]
          rfl

end ProjectStore

/-- The list holds the elements of two lists, those of each in their order. -/
inductive Interleaves {α : Type} : List α → List α → List α → Prop
  | nil : Interleaves [] [] []
  | left {a : α} {xs ys zs : List α} : Interleaves xs ys zs → Interleaves (a :: xs) ys (a :: zs)
  | right {a : α} {xs ys zs : List α} : Interleaves xs ys zs → Interleaves xs (a :: ys) (a :: zs)

theorem Interleaves.filterMap_on? {id k : Nat} {mine theirs : List ProjectCall}
    {calls : List StoreCall}
    (interleaves : Interleaves (mine.map (·.on id)) (theirs.map (·.on k)) calls)
    (other : k ≠ id) : calls.filterMap (·.on? id) = mine := by
  generalize own : mine.map (·.on id) = xs at interleaves
  generalize foreign : theirs.map (·.on k) = ys at interleaves
  induction interleaves generalizing mine theirs with
  | nil => exact (List.map_eq_nil_iff.mp own).symm
  | left _ ih =>
    obtain ⟨c, mine, rfl, rfl, rest⟩ := List.map_eq_cons_iff.mp own
    rw [List.filterMap_cons, StoreCall.on?_eq_some_iff.mpr rfl]
    exact congrArg (c :: ·) (ih rest foreign)
  | right _ ih =>
    obtain ⟨c, theirs, rfl, rfl, rest⟩ := List.map_eq_cons_iff.mp foreign
    rw [List.filterMap_cons, ProjectCall.on?_on_of_ne other]
    exact ih own rest

namespace ProjectStore

variable {s t : ProjectStore} {p : StoredProject} {new : NewProject}

theorem Step.of_create (step : Step s (.create new) (.ok (.project p)) t) :
    p = .first s.options (s.created + 1) new ∧ t = s.withFirst new := by
  cases step
  exact ⟨rfl, rfl⟩

theorem Consistent.lone?_created (consistent : s.Consistent)
    (created : (s.apply (.create new)).answer = .ok (.project p)) :
    p.id ≤ (s.apply (.create new)).store.created ∧
      (s.apply (.create new)).store.lone? p.id = some (.start s.options p.id new) := by
  have step := s.apply_step (.create new)
  rw [created] at step
  obtain ⟨rfl, behind⟩ := step.of_create
  rw [behind]
  exact ⟨Nat.le_refl _, (withFirst_records new consistent.fresh).lone?_self⟩

/-- Behind a run, a project that was created in it is told of as if it had been kept on its own and
only the later changes asked of it had been made. No call that asks nothing of it and none that
fails changes what is told of it, so that a client gets what it gets alone, however its changes
interleave with those of a client that works on another project. -/
theorem tells_alone (options : GeneratorOptions) (front later : List StoreCall) (new : NewProject)
    (p : StoredProject)
    (created : ((run { options } front).apply (.create new)).answer = .ok (.project p)) :
    let s := run { options } (front ++ .create new :: later)
    let alone := (LoneProject.start options p.id new).run options
    s.Tells p.id (alone (later.filterMap (·.on? p.id))) ∧
      (∀ call : StoreCall, (call.on? p.id = none ∨ ∃ e, (s.apply call).answer = .error e) →
        (s.apply call).store.get p.id = s.get p.id ∧
          (s.apply call).store.iterations p.id = s.iterations p.id) ∧
      ∀ (k : Nat) (mine theirs : List ProjectCall), k ≠ p.id →
        Interleaves (mine.map (·.on p.id)) (theirs.map (·.on k)) later →
        s.Tells p.id (alone mine) := by
  intro s alone
  have consistent := consistent_run options front
  have step := (run { options } front).apply_step (.create new)
  obtain ⟨known, first⟩ := consistent.lone?_created created
  have split : s = ((run { options } front).apply (.create new)).store.run later :=
    run_append { options } front (.create new :: later)
  have lone : s.lone? p.id = alone (later.filterMap (·.on? p.id)) := by
    rw [split, (consistent.step step).lone?_run known later, first, Option.bind_some,
      step.options_eq, run_options]
  have reachable : s.Consistent := consistent_run options _
  have still_known : p.id ≤ s.created := by
    rw [split]
    exact Nat.le_trans known (created_le_run _ later)
  refine ⟨lone ▸ s.tells_lone p.id, fun call apart => told_of_lone ?_, ?_⟩
  · rcases apart with elsewhere | ⟨e, failed⟩
    · rw [reachable.lone?_apply still_known call, elsewhere]
    · rw [store_of_error failed]
  · intro k mine theirs other interleaves
    have own := interleaves.filterMap_on? other
    rw [own] at lone
    exact lone ▸ s.tells_lone p.id

def mixedCalls : List StoreCall :=
  let todo : AppSpecification := { appName := "Todo" }
  [.create ⟨"Notes", none, "A place for my notes", todo⟩,
    .iterate 1 "Add a screen" (todo.withScreen { name := "Home", path := "index" }),
    .iterate 2 "Add a screen" todo, .update 1 { name := some "Chores" },
    .update 1 { name := some "" }, .delete 2, .iterate 1 "Remove it again" todo]

theorem tells_alone_mixedCalls :
    let new : NewProject := ⟨"Todo", none, "A simple todo list app", { appName := "Todo" }⟩
    ∃ p, ((run {} []).apply (.create new)).answer = .ok (.project p) ∧ p.id = 1 ∧
      let s := run {} ([] ++ .create new :: mixedCalls)
      let alone := (LoneProject.start {} p.id new).run {}
      (s.get p.id).toOption.map (·.name) = some "Chores" ∧
        (s.iterations p.id).toOption.map (·.length) = some 2 ∧
        s.Tells p.id (alone (mixedCalls.filterMap (·.on? p.id))) := by
  have created : ((run {} []).apply
      (.create ⟨"Todo", none, "A simple todo list app", { appName := "Todo" }⟩)).answer =
      .ok (.project (.first {} 1 _)) := rfl
  exact ⟨_, created, rfl, by decide, by decide, (tells_alone {} [] mixedCalls _ _ created).1⟩

end ProjectStore

end AppScaffold

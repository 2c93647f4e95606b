import AppScaffold.Proofs.Except
import AppScaffold.Store.Call

namespace AppScaffold

theorem checkName_eq_ok_iff {s : String} :
    checkName s = .ok () ↔ 1 ≤ s.length ∧ s.length ≤ 100 := by
  simp only [checkName, Bool.and_eq_true, decide_eq_true_eq]
  split
  · rename_i fits
    exact iff_of_true rfl fits
  · rename_i misfits
    exact iff_of_false nofun misfits

theorem checkDescription_eq_ok_iff {s : Option String} :
    checkDescription s = .ok () ↔ ∀ d ∈ s, d.length ≤ 500 := by
  cases s with
  | none => simp [checkDescription]
  | some d =>
    by_cases fits : d.length ≤ 500 <;> simp [checkDescription, StoreError.maxDescription, fits]

theorem checkPrompt_eq_ok_iff {kind : PromptKind} {s : String} :
    checkPrompt kind s = .ok () ↔ kind.limits.1 ≤ s.length ∧ s.length ≤ kind.limits.2 := by
  rw [checkPrompt, mapError_eq_ok_iff]
  simp only [PromptKind.check, PromptKind.admits, Bool.and_eq_true, decide_eq_true_eq]
  split
  · rename_i fits
    exact iff_of_true rfl fits
  · rename_i misfits
    exact iff_of_false nofun misfits

theorem NewProject.check_eq_ok_iff {p : NewProject} :
    p.check = .ok () ↔ (1 ≤ p.name.length ∧ p.name.length ≤ 100) ∧
      (∀ d ∈ p.description, d.length ≤ 500) ∧ 10 ≤ p.prompt.length ∧ p.prompt.length ≤ 5000 := by
  rw [NewProject.check, check_bind_eq_ok_iff, check_bind_eq_ok_iff, checkName_eq_ok_iff,
    checkDescription_eq_ok_iff, checkPrompt_eq_ok_iff]
  rfl

theorem ProjectUpdate.check_eq_ok_iff {u : ProjectUpdate} :
    u.check = .ok () ↔ (∀ name ∈ u.name, 1 ≤ name.length ∧ name.length ≤ 100) ∧
      ∀ d ∈ u.description, d.length ≤ 500 := by
  rw [ProjectUpdate.check, ← checkDescription_eq_ok_iff]
  cases u.name with
  | none => simp [check_bind_eq_ok_iff]
  | some name => simp [check_bind_eq_ok_iff, checkName_eq_ok_iff]

namespace StoredProject

def first (options : GeneratorOptions) (id : Nat) (p : NewProject) : StoredProject :=
  { id, name := p.name, description := p.description, prompt := p.prompt
    specification := p.specification, files := options.generate p.specification, version := 1 }

def renamed (p : StoredProject) (u : ProjectUpdate) : StoredProject :=
  { p with name := u.name.getD p.name, description := u.description <|> p.description }

def revised (options : GeneratorOptions) (p : StoredProject) (spec : AppSpecification) :
    StoredProject :=
  { p with specification := spec, files := options.generate spec, version := p.version + 1 }

end StoredProject

/-- What the history keeps of the revision that led to a project. -/
def Iteration.of (id : Nat) (prompt : String) (p : StoredProject) : Iteration :=
  ⟨id, p.version, prompt, p.specification, p.files⟩

namespace ProjectStore

def past (s : ProjectStore) (id : Nat) : List Iteration := (s.history.get? id).getD []

theorem get_eq_ok_iff {s : ProjectStore} {id : Nat} {p : StoredProject} :
    s.get id = .ok p ↔ s.projects.get? id = some p := by
  rw [get]
  cases s.projects.get? id <;> simp

def withFirst (s : ProjectStore) (p : NewProject) : ProjectStore :=
  { s with created := s.created + 1 }.record (.first s.options (s.created + 1) p)

def withRevised (s : ProjectStore) (id : Nat) (prompt : String) (p : StoredProject) :
    ProjectStore :=
  { s with history := s.history.put id (s.past id ++ [Iteration.of id prompt p]) }.record p

def without (s : ProjectStore) (id : Nat) : ProjectStore :=
  { s with
    projects := s.projects.erase id
    history := s.history.erase id
    touched := s.touched.erase id }

/-- What a call on a store answers and leaves behind. -/
inductive Step (s : ProjectStore) : StoreCall → Except StoreError StoreAnswer → ProjectStore → Prop
  | failed (call : StoreCall) (e : StoreError) : Step s call (.error e) s
  | shown {id : Nat} {p : StoredProject} (stored : s.get id = .ok p) :
    Step s (.get id) (.ok (.project p)) s
  | listed (r : PageRequest) : Step s (.list r) (.ok (.page (s.list r))) s
  | told {id : Nat} {p : StoredProject} (stored : s.get id = .ok p) :
    Step s (.iterations id) (.ok (.iterations (s.past id))) s
  | created {p : NewProject} (valid : p.check = .ok ()) :
    Step s (.create p) (.ok (.project (.first s.options (s.created + 1) p))) (s.withFirst p)
  | renamed {id : Nat} {u : ProjectUpdate} {p : StoredProject} (valid : u.check = .ok ())
      (stored : s.get id = .ok p) :
    Step s (.update id u) (.ok (.project (p.renamed u))) (s.record (p.renamed u))
  | revised {id : Nat} {prompt : String} {spec : AppSpecification} {p : StoredProject}
      (valid : checkPrompt .modification prompt = .ok ()) (stored : s.get id = .ok p) :
    Step s (.iterate id prompt spec) (.ok (.project (p.revised s.options spec)))
      (s.withRevised id prompt (p.revised s.options spec))
  | deleted {id : Nat} {p : StoredProject} (stored : s.get id = .ok p) :
    Step s (.delete id) (.ok .deleted) (s.without id)

theorem replyChange_step {s : ProjectStore} {call : StoreCall} {result : Except StoreError Change}
    (step : ∀ change, result = .ok change →
      Step s call (.ok (.project change.project)) change.store) :
    Step s call (s.replyChange result).answer (s.replyChange result).store := by
  cases result with
  | error e => exact .failed call e
  | ok change => exact step change rfl

theorem apply_step (s : ProjectStore) (call : StoreCall) :
    Step s call (s.apply call).answer (s.apply call).store := by
  cases call with
  | create p =>
    refine replyChange_step fun change done => ?_
    obtain ⟨_, valid, rest⟩ := bind_eq_ok_iff.mp done
    obtain rfl := pure_eq_ok_iff.mp rest
    exact .created valid
  | get id =>
    simp only [apply, reply]
    cases stored : s.get id with
    | error e => exact .failed _ e
    | ok p => exact .shown stored
  | list r => exact .listed r
  | update id u =>
    refine replyChange_step fun change done => ?_
    obtain ⟨_, valid, rest⟩ := bind_eq_ok_iff.mp done
    obtain ⟨p, stored, rest⟩ := bind_eq_ok_iff.mp rest
    obtain rfl := pure_eq_ok_iff.mp rest
    exact .renamed valid stored
  | iterate id prompt spec =>
    refine replyChange_step fun change done => ?_
    obtain ⟨_, valid, rest⟩ := bind_eq_ok_iff.mp done
    obtain ⟨p, stored, rest⟩ := bind_eq_ok_iff.mp rest
    obtain rfl := pure_eq_ok_iff.mp rest
    exact .revised valid stored
  | iterations id =>
    simp only [apply, reply, iterations]
    cases stored : s.get id with
    | error e => exact .failed _ e
    | ok p => exact .told stored
  | delete id =>
    simp only [apply, delete]
    cases stored : s.get id with
    | error e => exact .failed _ e
    | ok p => exact .deleted stored

theorem run_append (s : ProjectStore) (front back : List StoreCall) :
    s.run (front ++ back) = (s.run front).run back :=
  List.foldl_append

theorem run_concat (s : ProjectStore) (calls : List StoreCall) (call : StoreCall) :
    s.run (calls ++ [call]) = ((s.run calls).apply call).store :=
  s.run_append calls [call]

/-- What holds of a store and is kept by every step holds behind every run. -/
theorem run_keeps {P : ProjectStore → Prop} {s : ProjectStore} (start : P s)
    (kept : ∀ {s t call answer}, P s → Step s call answer t → P t) (calls : List StoreCall) :
    P (s.run calls) := by
  induction calls generalizing s with
  | nil => exact start
  | cons call calls ih => exact ih (kept start (s.apply_step call))

end ProjectStore

end AppScaffold

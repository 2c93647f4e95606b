import AppScaffold.Proofs.Store.Consistency

/-! The calls of a store as steps that look something up, assign a field or fail, one after the
other. What a step has assigned stays assigned when a later step fails, so that a call that assigns
before all its checks are done would leave a trace of its failure. Between calls of a run the steps
of a call do exactly what the call does. -/

namespace AppScaffold

namespace Table

variable {α : Type}

theorem eq_of_entries {t u : Table α} (same : t.entries = u.entries) : t = u := by
  cases t
  cases u
  cases same
  rfl

theorem putEntry_putEntry (id : Nat) (v w : α) (es : List (Nat × α)) :
    putEntry id w (putEntry id v es) = putEntry id w es := by
  induction es with
  | nil => simp [putEntry]
  | cons e es ih =>
    by_cases before : id < e.1
    · simp [putEntry, before]
    · by_cases same : id = e.1
      · simp [putEntry, ← same]
      · simp [putEntry, before, same, ih]

theorem putEntry_of_lookup {id : Nat} {v : α} {es : List (Nat × α)}
    (sorted : es.Pairwise (·.1 < ·.1)) (found : es.lookup id = some v) :
    putEntry id v es = es := by
  induction es with
  | nil => cases found
  | cons e es ih =>
    obtain ⟨first, rest⟩ := List.pairwise_cons.mp sorted
    rw [lookup_entry] at found
    by_cases same : id = e.1
    · rw [if_pos same] at found
      obtain rfl := Option.some.inj found
      simp [putEntry, same]
    · rw [if_neg same] at found
      obtain ⟨d, member, key⟩ := List.mem_map.mp (mem_map_fst_iff_lookup.mpr ⟨v, found⟩)
      have behind : e.1 < id := key ▸ first d member
      have after : ¬ id < e.1 := by omega
      rw [putEntry, if_neg after, if_neg same, ih rest found]

@[simp] theorem put_put (t : Table α) (id : Nat) (v w : α) :
    (t.put id v).put id w = t.put id w :=
  eq_of_entries (putEntry_putEntry id v w t.entries)

theorem put_of_get? {t : Table α} {id : Nat} {v : α} (found : t.get? id = some v) :
    t.put id v = t :=
  eq_of_entries (putEntry_of_lookup t.sorted found)

theorem erase_of_not_mem {t : Table α} {id : Nat} (absent : id ∉ t.keys) : t.erase id = t := by
  apply eq_of_entries
  apply List.filter_eq_self.mpr
  intro e member
  have other : e.1 ≠ id := fun same => absent (same ▸ List.mem_map_of_mem member)
  simpa using other

end Table

/-- Steps on a store. The store that a step leaves is kept when a later one fails. -/
abbrev StoreSteps := ExceptT StoreError (StateM ProjectStore)

namespace StoreSteps

variable {α β : Type} {s t : ProjectStore}

def exec (steps : StoreSteps α) (s : ProjectStore) : Except StoreError α × ProjectStore :=
  (steps.run.run s : Id _)

theorem exec_bind (steps : StoreSteps α) (next : α → StoreSteps β) (s : ProjectStore) :
    exec (steps >>= next) s =
      match exec steps s with
      | (.ok a, t) => exec (next a) t
      | (.error e, t) => (.error e, t) := by
  simp only [exec, bind, ExceptT.run, ExceptT.bind, ExceptT.mk, ExceptT.bindCont, StateT.run,
    StateT.bind]
  cases steps s with
  | mk result t => cases result <;> rfl

theorem exec_bind_of_ok {steps : StoreSteps α} {a : α} (ends : exec steps s = (.ok a, t))
    (next : α → StoreSteps β) : exec (steps >>= next) s = exec (next a) t := by
  rw [exec_bind, ends]

def demand (check : Except StoreError α) : StoreSteps α := ExceptT.mk (pure check)

def assign (change : ProjectStore → ProjectStore) : StoreSteps Unit := modify change

def current : StoreSteps ProjectStore := get

@[simp] theorem exec_demand (check : Except StoreError α) (s : ProjectStore) :
    exec (demand check) s = (check, s) := rfl

@[simp] theorem exec_assign (change : ProjectStore → ProjectStore) (s : ProjectStore) :
    exec (assign change) s = (.ok (), change s) := rfl

@[simp] theorem exec_current (s : ProjectStore) : exec current s = (.ok s, s) := rfl

@[simp] theorem exec_pure (a : α) (s : ProjectStore) :
    exec (pure a : StoreSteps α) s = (.ok a, s) := rfl

theorem exec_map (f : α → β) (steps : StoreSteps α) (s : ProjectStore) :
    exec (f <$> steps) s = ((exec steps s).1.map f, (exec steps s).2) := by
  rw [← bind_pure_comp, exec_bind]
  cases exec steps s with
  | mk result t => cases result <;> rfl

def stored (id : Nat) : StoreSteps StoredProject := do demand ((← current).get id)

def revise (id : Nat) (change : StoredProject → StoredProject) : StoreSteps Unit := do
  let p ← stored id
  assign fun s => { s with projects := s.projects.put id (change p) }

def touch (id : Nat) : StoreSteps Unit := do
  assign fun s => { s with clock := s.clock + 1 }
  assign fun s => { s with touched := s.touched.put id s.clock }

def create (new : NewProject) : StoreSteps StoredProject := do
  demand new.check
  assign fun s => { s with created := s.created + 1 }
  let s ← current
  let p := StoredProject.first s.options s.created new
  assign fun s => { s with projects := s.projects.put p.id p }
  touch p.id
  pure p

def reviseGiven (id : Nat) (change : α → StoredProject → StoredProject) : Option α → StoreSteps Unit
  | some a => revise id (change a)
  | none => pure ()

def update (id : Nat) (u : ProjectUpdate) : StoreSteps StoredProject := do
  demand u.check
  let _ ← stored id
  reviseGiven id (fun name p => { p with name }) u.name
  reviseGiven id (fun d p => { p with description := some d }) u.description
  let p ← stored id
  touch id
  pure p

def iterate (id : Nat) (prompt : String) (spec : AppSpecification) : StoreSteps StoredProject := do
  demand (checkPrompt .modification prompt)
  let p ← stored id
  let files := (← current).options.generate spec
  let version := p.version + 1
  assign fun s =>
    { s with history := s.history.put id (s.past id ++ [⟨id, version, prompt, spec, files⟩]) }
  revise id fun p => { p with specification := spec }
  revise id fun p => { p with files }
  revise id fun p => { p with version }
  let p ← stored id
  touch id
  pure p

def iterations (id : Nat) : StoreSteps (List Iteration) := do
  let _ ← stored id
  pure ((← current).past id)

/-- The project is taken out before it is known whether there was one. -/
def delete (id : Nat) : StoreSteps Unit := do
  let removed := (← current).get id
  assign fun s => { s with projects := s.projects.erase id }
  let _ ← demand removed
  assign fun s => { s with history := s.history.erase id }
  assign fun s => { s with touched := s.touched.erase id }

end StoreSteps

open StoreSteps in
def StoreCall.steps : StoreCall → StoreSteps StoreAnswer
  | create new => .project <$> StoreSteps.create new
  | get id => .project <$> stored id
  | list r => do pure (.page ((← current).list r))
  | update id u => .project <$> StoreSteps.update id u
  | iterate id prompt spec => .project <$> StoreSteps.iterate id prompt spec
  | iterations id => .iterations <$> StoreSteps.iterations id
  | delete id => (fun _ => .deleted) <$> StoreSteps.delete id

namespace StoreSteps

variable {s : ProjectStore} {id : Nat} {p : StoredProject}

theorem exec_stored (id : Nat) (s : ProjectStore) : exec (stored id) s = (s.get id, s) := rfl

def withProject (s : ProjectStore) (id : Nat) (p : StoredProject) : ProjectStore :=
  { s with projects := s.projects.put id p }

theorem get_withProject (s : ProjectStore) (id : Nat) (p : StoredProject) :
    (withProject s id p).get id = .ok p := by
  rw [ProjectStore.get_eq_ok_iff, withProject, Table.get?_put_self]

theorem exec_revise (held : s.get id = .ok p) (change : StoredProject → StoredProject) :
    exec (revise id change) s = (.ok (), withProject s id (change p)) := by
  rw [revise, exec_bind_of_ok ((exec_stored id s).trans (by rw [held]))]
  rfl

theorem withProject_withProject (s : ProjectStore) (id : Nat) (p q : StoredProject) :
    withProject (withProject s id p) id q = withProject s id q := by
  rw [withProject, withProject, withProject, Table.put_put]

theorem exec_revise_again (s : ProjectStore) (id : Nat) (p : StoredProject)
    (change : StoredProject → StoredProject) :
    exec (revise id change) (withProject s id p) = (.ok (), withProject s id (change p)) := by
  rw [exec_revise (get_withProject s id p), withProject_withProject]

theorem withProject_of_held (held : s.get id = .ok p) : withProject s id p = s := by
  rw [withProject, Table.put_of_get? (ProjectStore.get_eq_ok_iff.mp held)]

theorem exec_reviseGiven {α : Type} (change : α → StoredProject → StoredProject)
    (held : s.get id = .ok p) (o : Option α) :
    exec (reviseGiven id change o) s =
      (.ok (), withProject s id (o.elim p fun a => change a p)) := by
  cases o with
  | none =>
    rw [Option.elim_none, withProject_of_held held]
    rfl
  | some a => exact exec_revise held (change a)

theorem exec_finish (s : ProjectStore) (p : StoredProject) :
    exec (do
      let q ← stored p.id
      touch p.id
      pure q) (withProject s p.id p) = (.ok p, s.record p) := by
  rw [exec_bind, exec_stored, get_withProject]
  rfl

theorem exec_create (new : NewProject) (s : ProjectStore) :
    exec (create new) s =
      match new.check with
      | .ok () => (.ok (.first s.options (s.created + 1) new), s.withFirst new)
      | .error e => (.error e, s) := by
  rw [create, exec_bind, exec_demand]
  cases new.check <;> rfl

theorem exec_update (u : ProjectUpdate) (named : ∀ p, s.get id = .ok p → p.id = id) :
    exec (update id u) s =
      match u.check, s.get id with
      | .ok (), .ok p => (.ok (p.renamed u), s.record (p.renamed u))
      | .ok (), .error e => (.error e, s)
      | .error e, _ => (.error e, s) := by
  rw [update, exec_bind, exec_demand]
  cases u.check with
  | error e => rfl
  | ok _ =>
    simp only
    rw [exec_bind, exec_stored]
    cases held : s.get id with
    | error e => rfl
    | ok p =>
      obtain rfl := named p held
      let q : StoredProject := u.name.elim p fun name => { p with name }
      have first := exec_reviseGiven (fun name p => { p with name }) held u.name
      have second := exec_reviseGiven (fun d p => { p with description := some d })
        (get_withProject s p.id q) u.description
      have both : (u.description.elim q fun d => { q with description := some d }) =
          p.renamed u := by
        cases named : u.name <;> cases described : u.description <;>
          simp [q, StoredProject.renamed, named, described]
      rw [withProject_withProject, both] at second
      simp only
      rw [exec_bind_of_ok first, exec_bind_of_ok second]
      exact exec_finish s (p.renamed u)

theorem exec_iterate (prompt : String) (spec : AppSpecification)
    (named : ∀ p, s.get id = .ok p → p.id = id) :
    exec (iterate id prompt spec) s =
      match checkPrompt .modification prompt, s.get id with
      | .ok (), .ok p =>
        (.ok (p.revised s.options spec), s.withRevised id prompt (p.revised s.options spec))
      | .ok (), .error e => (.error e, s)
      | .error e, _ => (.error e, s) := by
  rw [iterate, exec_bind, exec_demand]
  cases checkPrompt .modification prompt with
  | error e => rfl
  | ok _ =>
    simp only
    rw [exec_bind, exec_stored]
    cases held : s.get id with
    | error e => rfl
    | ok p =>
      obtain rfl := named p held
      simp only
      let files := s.options.generate spec
      let past := s.past p.id ++ [⟨p.id, p.version + 1, prompt, spec, files⟩]
      let t : ProjectStore := { s with history := s.history.put p.id past }
      have held : t.get p.id = .ok p := held
      rw [exec_bind_of_ok (exec_current s), exec_bind_of_ok (exec_assign _ s)]
      have first := exec_revise held fun p => { p with specification := spec }
      rw [exec_bind_of_ok first, exec_bind_of_ok (exec_revise_again ..),
        exec_bind_of_ok (exec_revise_again ..)]
      exact exec_finish t (p.revised s.options spec)

theorem exec_delete (id : Nat) (s : ProjectStore) :
    exec (delete id) s =
      match s.get id with
      | .ok _ => (.ok (), s.without id)
      | .error e => (.error e, s) := by
  rw [delete, exec_bind_of_ok (exec_current s), exec_bind_of_ok (exec_assign _ s), exec_bind,
    exec_demand]
  cases held : s.get id with
  | ok p => rfl
  | error e =>
    -- What is taken out was not there.
    have absent : id ∉ s.projects.keys := by
      intro member
      obtain ⟨p, found⟩ := Table.mem_keys_iff.mp member
      rw [ProjectStore.get_eq_ok_iff.mpr found] at held
      cases held
    simp only [Table.erase_of_not_mem absent]

end StoreSteps

namespace ProjectStore

/-- The steps of a call answer what the call answers and leave the store that it leaves. -/
theorem Consistent.exec_steps {s : ProjectStore} (consistent : s.Consistent) (call : StoreCall) :
    StoreSteps.exec call.steps s = ((s.apply call).answer, (s.apply call).store) := by
  have named : ∀ {id : Nat} p, s.get id = .ok p → p.id = id := fun p held => consistent.id_eq held
  cases call with
  | create new =>
    rw [StoreCall.steps, StoreSteps.exec_map, StoreSteps.exec_create, apply, create]
    cases new.check <;> rfl
  | get id =>
    rw [StoreCall.steps, StoreSteps.exec_map, StoreSteps.exec_stored]
    rfl
  | list r => rfl
  | update id u =>
    rw [StoreCall.steps, StoreSteps.exec_map, StoreSteps.exec_update u named, apply, update]
    cases u.check with
    | error e => rfl
    | ok _ => cases s.get id <;> rfl
  | iterate id prompt spec =>
    rw [StoreCall.steps, StoreSteps.exec_map, StoreSteps.exec_iterate prompt spec named, apply,
      iterate]
    cases checkPrompt .modification prompt with
    | error e => rfl
    | ok _ => cases s.get id <;> rfl
  | iterations id =>
    rw [StoreCall.steps, StoreSteps.exec_map, StoreSteps.iterations, StoreSteps.exec_bind,
      StoreSteps.exec_stored, apply, iterations]
    cases s.get id <;> rfl
  | delete id =>
    rw [StoreCall.steps, StoreSteps.exec_map, StoreSteps.exec_delete, apply, delete]
    cases s.get id <;> rfl

end ProjectStore

end AppScaffold

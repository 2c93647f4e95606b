import AppScaffold.Proofs.Store.Consistency
import Mathlib.Data.List.Induction

/-! Which versions of a project can still be read. The current version stands in the project, and
every later version than the first stands in the history. The first version has no iteration, so it
is lost as soon as the project is iterated. -/

namespace AppScaffold

open ProjectStore

/-- Of `q`, a former state of the project `p`, its specification and files are still kept: in `p`,
if they are of one version, and in the history, if an iteration led to `q`. -/
structure StoredProject.Recalls (p : StoredProject) (past : List Iteration) (q : StoredProject) :
    Prop where
  version_le : q.version ≤ p.version
  current : q.version = p.version → q.specification = p.specification ∧ q.files = p.files
  kept : 2 ≤ q.version → ∃ i, past[q.version - 2]? = some i ∧
    i.specification = q.specification ∧ i.files = q.files

namespace StoredProject

variable {options : GeneratorOptions} {id : Nat} {p q : StoredProject} {past : List Iteration}

theorem Sound.recalls_self (sound : p.Sound options id past) : p.Recalls past p := by
  refine ⟨Nat.le_refl _, fun _ => ⟨rfl, rfl⟩, fun iterated => ?_⟩
  have version := sound.version_eq
  have last : past.getLast? = past[p.version - 2]? := by
    rw [List.getLast?_eq_getElem?, version]
    rfl
  have inside : p.version - 2 < past.length := by omega
  refine ⟨past[p.version - 2], List.getElem?_eq_getElem inside, ?_⟩
  apply sound.latest
  rw [last, List.getElem?_eq_getElem inside, Option.mem_some_iff]

theorem Recalls.renamed (recalls : p.Recalls past q) (u : ProjectUpdate) :
    (p.renamed u).Recalls past q :=
  ⟨recalls.version_le, recalls.current, recalls.kept⟩

theorem Recalls.revised (recalls : p.Recalls past q) (spec : AppSpecification) (i : Iteration) :
    (p.revised options spec).Recalls (past ++ [i]) q := by
  have version_le := recalls.version_le
  refine ⟨Nat.le_succ_of_le version_le, fun same => ?_, fun iterated => ?_⟩
  · have : q.version = p.version + 1 := same
    omega
  · obtain ⟨j, found, same⟩ := recalls.kept iterated
    have inside := (List.getElem?_eq_some_iff.mp found).1
    exact ⟨j, (List.getElem?_append_left inside).trans found, same⟩

theorem Sound.find?_version (sound : p.Sound options id past) (v : Nat) :
    past.find? (·.version == v) = if 2 ≤ v then past[v - 2]? else none := by
  cases found : past.find? (·.version == v) with
  | some i =>
    have version : i.version = v := by simpa using List.find?_some found
    obtain ⟨k, place⟩ := List.getElem?_of_mem (List.mem_of_find?_eq_some found)
    have counted := (sound.counted k i place).1
    rw [if_pos (by omega), show v - 2 = k by omega, place]
  | none =>
    split
    · rename_i iterated
      cases place : past[v - 2]? with
      | none => rfl
      | some i =>
        have counted := (sound.counted _ i place).1
        have other := List.find?_eq_none.mp found i (List.mem_of_getElem? place)
        simp only [beq_iff_eq] at other
        omega
    · rfl

end StoredProject

namespace ProjectStore

variable {s t : ProjectStore} {call : StoreCall} {answer : Except StoreError StoreAnswer}

theorem Records.get_self {p : StoredProject} {past : List Iteration}
    (records : s.Records t p past) : t.get p.id = .ok p := by
  rw [get_eq_ok_iff, records.projects_eq, Table.get?_put_self]

theorem Records.get_other {p : StoredProject} {past : List Iteration} {id : Nat}
    (records : s.Records t p past) (other : id ≠ p.id) : t.get id = s.get id := by
  rw [get, records.projects_eq, Table.get?_put_of_ne _ _ other, get]

/-- A project behind a step is new and at its first version, or it was there before, at most one
version earlier, and what was recalled of it still is. -/
def Carries (s t : ProjectStore) (id : Nat) (p : StoredProject) : Prop :=
  s.created < id ∧ p.version = 1 ∨
    ∃ o, s.get id = .ok o ∧ p.version ≤ o.version + 1 ∧
      ∀ q, o.Recalls (s.past id) q → p.Recalls (t.past id) q

theorem carries_self {id : Nat} {p : StoredProject} (stored : s.get id = .ok p) :
    s.Carries s id p :=
  .inr ⟨p, stored, Nat.le_succ _, fun _ recalls => recalls⟩

theorem Records.carries {id : Nat} {p r : StoredProject} {past : List Iteration}
    (records : s.Records t r past) (recorded : s.Carries t r.id r) (stored : t.get id = .ok p) :
    s.Carries t id p := by
  by_cases same : id = r.id
  · subst same
    rw [records.get_self] at stored
    obtain rfl := Except.ok.inj stored
    exact recorded
  · rw [records.get_other same] at stored
    refine .inr ⟨p, stored, Nat.le_succ _, fun q recalls => ?_⟩
    rwa [records.past_other id same]

theorem Step.carries {id : Nat} {p : StoredProject} (step : Step s call answer t)
    (consistent : s.Consistent) (stored : t.get id = .ok p) : s.Carries t id p := by
  cases step with
  | failed | shown | listed | told => exact carries_self stored
  | @created new =>
    have records := withFirst_records new consistent.fresh
    exact records.carries (.inl ⟨Nat.lt_succ_self _, rfl⟩) stored
  | @renamed k u o _ found =>
    obtain rfl := consistent.id_eq found
    have records := record_records s (o.renamed u)
    refine records.carries (.inr ⟨o, found, Nat.le_succ _, fun q recalls => ?_⟩) stored
    rw [records.past_self]
    exact recalls.renamed u
  | @revised k prompt spec o _ found =>
    obtain rfl := consistent.id_eq found
    have records := withRevised_records s prompt (o.revised s.options spec)
    refine records.carries (.inr ⟨o, found, Nat.le_refl _, fun q recalls => ?_⟩) stored
    rw [records.past_self]
    exact recalls.revised spec _
  | @deleted k =>
    have kept : id ≠ k := by
      rintro rfl
      rw [get_eq_ok_iff, without, Table.get?_erase, if_pos rfl] at stored
      cases stored
    have before : s.get id = .ok p := by
      rwa [get_eq_ok_iff, without, Table.get?_erase, if_neg kept, ← get_eq_ok_iff] at stored
    have past : (s.without k).past id = s.past id := by
      show ((s.history.erase k).get? id).getD [] = _
      rw [Table.get?_erase, if_neg kept, ProjectStore.past]
    refine .inr ⟨p, before, Nat.le_succ _, fun q recalls => ?_⟩
    rwa [past]

theorem Step.created_mono (step : Step s call answer t) : s.created ≤ t.created := by
  cases step <;> first | exact Nat.le_refl _ | exact Nat.le_succ _

theorem created_le_run (s : ProjectStore) (calls : List StoreCall) :
    s.created ≤ (s.run calls).created :=
  run_keeps (P := fun t => s.created ≤ t.created) (Nat.le_refl _)
    (fun below step => Nat.le_trans below step.created_mono) calls

/-- At some time of a run on an empty store the project `q` was stored under the number. -/
def HeldDuring (options : GeneratorOptions) (calls : List StoreCall) (id : Nat)
    (q : StoredProject) : Prop :=
  ∃ front, front <+: calls ∧ (run { options } front).get id = .ok q

variable {options : GeneratorOptions} {calls : List StoreCall} {id : Nat} {p q : StoredProject}

theorem heldDuring_now (stored : (run { options } calls).get id = .ok p) :
    HeldDuring options calls id p :=
  ⟨calls, List.prefix_refl calls, stored⟩

theorem HeldDuring.concat (held : HeldDuring options calls id q) (call : StoreCall) :
    HeldDuring options (calls ++ [call]) id q := by
  obtain ⟨front, part, stored⟩ := held
  exact ⟨front, part.trans (List.prefix_append _ _), stored⟩

theorem HeldDuring.id_le (held : HeldDuring options calls id q) :
    id ≤ (run { options } calls).created := by
  obtain ⟨front, ⟨back, rfl⟩, stored⟩ := held
  have range := (consistent_run options front).stored_range (get_eq_ok_iff.mp stored)
  rw [run_append]
  exact Nat.le_trans range.2 (created_le_run _ back)

theorem HeldDuring.recalls (held : HeldDuring options calls id q)
    (stored : (run { options } calls).get id = .ok p) :
    p.Recalls ((run { options } calls).past id) q := by
  induction calls using List.reverseRecOn generalizing p with
  | nil => cases stored
  | append_singleton calls call ih =>
    obtain ⟨front, part, then_stored⟩ := held
    -- It is what the last call left, or it was held before that call, and no call forgets it.
    rcases List.prefix_concat_iff.mp part with rfl | earlier
    · rw [stored] at then_stored
      obtain rfl := Except.ok.inj then_stored
      exact ((consistent_run options _).sound id p (get_eq_ok_iff.mp stored)).recalls_self
    · have held : HeldDuring options calls id q := ⟨front, earlier, then_stored⟩
      rw [run_concat] at stored ⊢
      have step := (run { options } calls).apply_step call
      rcases step.carries (consistent_run options calls) stored with ⟨new, -⟩ | ⟨o, old, -, keeps⟩
      · exact absurd held.id_le (Nat.not_le.mpr new)
      · exact keeps q (ih held old)

theorem exists_heldDuring {v : Nat} (stored : (run { options } calls).get id = .ok p)
    (positive : 1 ≤ v) (le : v ≤ p.version) :
    ∃ q, HeldDuring options calls id q ∧ q.version = v := by
  induction calls using List.reverseRecOn generalizing p with
  | nil => cases stored
  | append_singleton calls call ih =>
    -- A call raises the version by one at most, so that none is left out.
    rcases Nat.eq_or_lt_of_le le with rfl | earlier
    · exact ⟨p, heldDuring_now stored, rfl⟩
    · rw [run_concat] at stored
      have step := (run { options } calls).apply_step call
      rcases step.carries (consistent_run options calls) stored with ⟨-, first⟩ | ⟨o, old, le, -⟩
      · omega
      · obtain ⟨q, held, version⟩ := ih old (by omega)
        exact ⟨q, held.concat call, version⟩

/-- The specification and the files of a version: those of the project, if it is the current one,
and else those of the iteration that led to it. -/
def readVersion (s : ProjectStore) (id v : Nat) : Option (AppSpecification × Project) :=
  match s.get id, s.iterations id with
  | .ok p, .ok past =>
    if v = p.version then some (p.specification, p.files)
    else (past.find? (·.version == v)).map fun i => (i.specification, i.files)
  | _, _ => none

theorem readVersion_of_stored (stored : s.get id = .ok p) (v : Nat) :
    s.readVersion id v =
      if v = p.version then some (p.specification, p.files)
      else ((s.past id).find? (·.version == v)).map fun i => (i.specification, i.files) := by
  have told : s.iterations id = .ok (s.past id) := by
    rw [iterations, stored]
    rfl
  rw [readVersion, stored, told]

/-- A stored project has been at every version up to its own, and what it was at a version can be
read from the store, unless that is the first version and no longer the current one. -/
theorem readVersion_run {v : Nat} (stored : (run { options } calls).get id = .ok p)
    (positive : 1 ≤ v) (le : v ≤ p.version) :
    (∃ q, HeldDuring options calls id q ∧ q.version = v) ∧
      ∀ q, HeldDuring options calls id q → q.version = v →
        (run { options } calls).readVersion id v =
          if v = 1 ∧ p.version ≠ 1 then none else some (q.specification, q.files) := by
  refine ⟨exists_heldDuring stored positive le, ?_⟩
  rintro q held rfl
  have sound := (consistent_run options calls).sound id p (get_eq_ok_iff.mp stored)
  have recalls := held.recalls stored
  rw [readVersion_of_stored stored, sound.find?_version]
  -- A version is told as the current one or by its iteration, and the first version has none.
  by_cases current : q.version = p.version
  · obtain ⟨specification, files⟩ := recalls.current current
    rw [if_pos current, if_neg (by omega), specification, files]
  · rw [if_neg current]
    by_cases iterated : 2 ≤ q.version
    · obtain ⟨i, found, specification, files⟩ := recalls.kept iterated
      rw [if_pos iterated, found, if_neg (by omega), ← specification, ← files]
      rfl
    · rw [if_neg iterated, if_pos (by omega)]
      rfl

theorem readVersion_sampleCalls :
    ∃ p, (run {} sampleCalls).get 1 = .ok p ∧ 1 ≤ 2 ∧ 2 ≤ p.version ∧
      (∃ q, HeldDuring {} sampleCalls 1 q ∧ q.version = 2) ∧
      ∀ q, HeldDuring {} sampleCalls 1 q → q.version = 2 →
        (run {} sampleCalls).readVersion 1 2 =
          if 2 = 1 ∧ p.version ≠ 1 then none else some (q.specification, q.files) :=
  ⟨_, rfl, by decide, by decide, readVersion_run rfl (by decide) (by decide)⟩

/-- The project was stored at its first version, and nothing of that version can be read now. -/
theorem first_version_lost :
    ∃ p q, (run {} sampleCalls).get 1 = .ok p ∧ p.version = 2 ∧
      HeldDuring {} sampleCalls 1 q ∧ q.version = 1 ∧
      (run {} sampleCalls).readVersion 1 1 = none ∧
      (run {} sampleCalls).readVersion 1 1 ≠ some (q.specification, q.files) := by
  have held : HeldDuring {} sampleCalls 1 _ := ⟨_, List.take_prefix 1 sampleCalls, rfl⟩
  have lost : (run {} sampleCalls).readVersion 1 1 = none := rfl
  exact ⟨_, _, rfl, rfl, held, rfl, lost, lost ▸ nofun⟩

end ProjectStore

end AppScaffold

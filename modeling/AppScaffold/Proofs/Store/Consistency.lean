import AppScaffold.Proofs.Store.Step
import Mathlib.Algebra.Group.Nat.Defs

/-! What holds of a store between calls. The tables of a store have the same projects; every project
agrees with its history, and its files are those of its specification. The numbers of a store stay
within machine words as long as the run does not make too many changes. -/

namespace AppScaffold

/-- How a project agrees with the history kept for it. -/
structure StoredProject.Sound (options : GeneratorOptions) (id : Nat) (p : StoredProject)
    (past : List Iteration) : Prop where
  id_eq : p.id = id
  version_eq : p.version = past.length + 1
  /-- The first version has no iteration; that of version `k + 2` stands at place `k`. -/
  counted : ∀ k i, past[k]? = some i → i.version = k + 2 ∧ i.projectId = id
  latest : ∀ i ∈ past.getLast?, i.specification = p.specification ∧ i.files = p.files
  files_eq : p.files = options.generate p.specification
  past_files_eq : ∀ i ∈ past, i.files = options.generate i.specification
  name_length : 1 ≤ p.name.length ∧ p.name.length ≤ 100
  description_length : ∀ d ∈ p.description, d.length ≤ 500
  prompt_length : 10 ≤ p.prompt.length ∧ p.prompt.length ≤ 5000
  modification_length :
    ∀ i ∈ past, 5 ≤ i.modificationPrompt.length ∧ i.modificationPrompt.length ≤ 2000

namespace StoredProject

variable {options : GeneratorOptions} {id : Nat} {p : StoredProject} {past : List Iteration}

theorem Sound.of_first {new : NewProject} (valid : new.check = .ok ()) :
    (first options id new).Sound options id [] := by
  obtain ⟨name, description, prompt⟩ := NewProject.check_eq_ok_iff.mp valid
  exact {
    id_eq := rfl
    version_eq := rfl
    counted := by simp
    latest := by simp
    files_eq := rfl
    past_files_eq := by simp
    name_length := name
    description_length := description
    prompt_length := prompt
    modification_length := by simp }

theorem Sound.renamed {u : ProjectUpdate} (sound : p.Sound options id past)
    (valid : u.check = .ok ()) : (p.renamed u).Sound options id past := by
  obtain ⟨name, description⟩ := ProjectUpdate.check_eq_ok_iff.mp valid
  refine { sound with name_length := ?_, description_length := ?_ }
  · show 1 ≤ (u.name.getD p.name).length ∧ (u.name.getD p.name).length ≤ 100
    cases given : u.name with
    | none => exact sound.name_length
    | some s => exact name s given
  · show ∀ d ∈ (u.description <|> p.description), d.length ≤ 500
    cases given : u.description with
    | none => exact sound.description_length
    | some s => simpa using description s given

theorem Sound.revised {prompt : String} (sound : p.Sound options id past)
    (spec : AppSpecification) (valid : checkPrompt .modification prompt = .ok ()) :
    (p.revised options spec).Sound options id
      (past ++ [Iteration.of id prompt (p.revised options spec)]) := by
  have version : (p.revised options spec).version = past.length + 2 := by
    show p.version + 1 = _
    rw [sound.version_eq]
  have modification := checkPrompt_eq_ok_iff.mp valid
  refine { sound with version_eq := ?_, counted := ?_, latest := ?_, files_eq := rfl,
                      past_files_eq := ?_, modification_length := ?_ }
  · rw [version, List.length_append, List.length_singleton]
  · intro k i found
    rcases Nat.lt_trichotomy k past.length with before | rfl | behind
    · rw [List.getElem?_append_left before] at found
      exact sound.counted k i found
    · rw [List.getElem?_append_right (Nat.le_refl _), Nat.sub_self] at found
      obtain rfl := Option.some.inj found
      exact ⟨version, rfl⟩
    · have outside : (past ++ [Iteration.of id prompt (p.revised options spec)]).length ≤ k := by
        rw [List.length_append, List.length_singleton]
        omega
      rw [List.getElem?_eq_none outside] at found
      cases found
  · intro i last
    rw [List.getLast?_concat, Option.mem_some_iff] at last
    subst last
    exact ⟨rfl, rfl⟩
  · intro i member
    rcases List.mem_append.mp member with old | new
    · exact sound.past_files_eq i old
    · obtain rfl := List.mem_singleton.mp new
      rfl
  · intro i member
    rcases List.mem_append.mp member with old | new
    · exact sound.modification_length i old
    · obtain rfl := List.mem_singleton.mp new
      exact modification

end StoredProject

namespace ProjectStore

structure Consistent (s : ProjectStore) : Prop where
  touched_iff : ∀ id, id ∈ s.touched.keys ↔ id ∈ s.projects.keys
  history_keys : ∀ id ∈ s.history.keys, id ∈ s.projects.keys
  id_range : ∀ id ∈ s.projects.keys, 1 ≤ id ∧ id ≤ s.created
  sound : ∀ id p, s.projects.get? id = some p → p.Sound s.options id (s.past id)
  stamp_range : ∀ id t, s.touched.get? id = some t → 1 ≤ t ∧ t ≤ s.clock
  stamp_distinct : ∀ i j t, s.touched.get? i = some t → s.touched.get? j = some t → i = j

/-- The store `t` is `s` after `p` has become the latest change; `past` is its history now. -/
structure Records (s t : ProjectStore) (p : StoredProject) (past : List Iteration) : Prop where
  options_eq : t.options = s.options
  created_le : s.created ≤ t.created
  projects_eq : t.projects = s.projects.put p.id p
  touched_eq : t.touched = s.touched.put p.id (s.clock + 1)
  clock_eq : t.clock = s.clock + 1
  past_self : t.past p.id = past
  past_other : ∀ id, id ≠ p.id → t.past id = s.past id
  history_keys : ∀ id ∈ t.history.keys, id = p.id ∨ id ∈ s.history.keys

variable {s t : ProjectStore} {p : StoredProject} {past : List Iteration}

theorem past_of_not_mem {id : Nat} (absent : id ∉ s.history.keys) : s.past id = [] := by
  cases found : s.history.get? id with
  | none => rw [past, found, Option.getD_none]
  | some is => exact absurd (Table.mem_keys_iff.mpr ⟨is, found⟩) absent

theorem withFirst_records (new : NewProject) (fresh : s.created + 1 ∉ s.history.keys) :
    s.Records (s.withFirst new) (.first s.options (s.created + 1) new) [] := by
  refine ⟨rfl, Nat.le_succ _, rfl, rfl, rfl, ?_, fun _ _ => rfl, fun _ member => .inr member⟩
  exact past_of_not_mem fresh

theorem record_records (s : ProjectStore) (p : StoredProject) :
    s.Records (s.record p) p (s.past p.id) :=
  ⟨rfl, Nat.le_refl _, rfl, rfl, rfl, rfl, fun _ _ => rfl, fun _ member => .inr member⟩

theorem withRevised_records (s : ProjectStore) (prompt : String) (p : StoredProject) :
    s.Records (s.withRevised p.id prompt p) p (s.past p.id ++ [Iteration.of p.id prompt p]) := by
  refine ⟨rfl, Nat.le_refl _, rfl, rfl, rfl, ?_, ?_, ?_⟩
  · show ((s.history.put p.id _).get? p.id).getD [] = _
    rw [Table.get?_put_self, Option.getD_some]
  · intro id other
    show ((s.history.put p.id _).get? id).getD [] = _
    rw [Table.get?_put_of_ne _ _ other, past]
  · intro id member
    exact Table.mem_keys_put.mp member

theorem Consistent.empty (options : GeneratorOptions) : Consistent { options } := by
  constructor <;> intros <;> simp_all [Table.keys, Table.empty, Table.get?]

theorem Records.stamp (records : s.Records t p past) {id n : Nat}
    (found : t.touched.get? id = some n) :
    id = p.id ∧ n = s.clock + 1 ∨ s.touched.get? id = some n := by
  rw [records.touched_eq, Table.get?_put] at found
  by_cases same : id = p.id
  · rw [if_pos same] at found
    exact .inl ⟨same, (Option.some.inj found).symm⟩
  · rw [if_neg same] at found
    exact .inr found

theorem Consistent.unstamped (consistent : s.Consistent) (id : Nat) :
    s.touched.get? id ≠ some (s.clock + 1) := by
  intro found
  have := (consistent.stamp_range id _ found).2
  omega

theorem Consistent.of_records (consistent : s.Consistent) (records : s.Records t p past)
    (sound : p.Sound s.options p.id past) (range : 1 ≤ p.id ∧ p.id ≤ t.created) :
    t.Consistent := by
  constructor
  case touched_iff =>
    intro id
    rw [records.touched_eq, records.projects_eq, Table.mem_keys_put, Table.mem_keys_put,
      consistent.touched_iff]
  case history_keys =>
    intro id member
    rw [records.projects_eq, Table.mem_keys_put]
    exact (records.history_keys id member).imp_right (consistent.history_keys id)
  case id_range =>
    intro id member
    rw [records.projects_eq, Table.mem_keys_put] at member
    rcases member with rfl | old
    · exact range
    · have := consistent.id_range id old
      exact ⟨this.1, Nat.le_trans this.2 records.created_le⟩
  case sound =>
    intro id q stored
    rw [records.projects_eq, Table.get?_put] at stored
    rw [records.options_eq]
    by_cases same : id = p.id
    · rw [if_pos same] at stored
      obtain rfl := Option.some.inj stored
      rw [same, records.past_self]
      exact sound
    · rw [if_neg same] at stored
      rw [records.past_other id same]
      exact consistent.sound id q stored
  case stamp_range =>
    intro id n found
    rw [records.clock_eq]
    rcases records.stamp found with ⟨-, rfl⟩ | old
    · exact ⟨Nat.le_add_left 1 _, Nat.le_refl _⟩
    · have := consistent.stamp_range id n old
      exact ⟨this.1, Nat.le_succ_of_le this.2⟩
  case stamp_distinct =>
    intro i j n foundI foundJ
    rcases records.stamp foundI with ⟨rfl, rfl⟩ | oldI
    · rcases records.stamp foundJ with ⟨rfl, -⟩ | oldJ
      · rfl
      · exact absurd oldJ (consistent.unstamped j)
    · rcases records.stamp foundJ with ⟨-, rfl⟩ | oldJ
      · exact absurd oldI (consistent.unstamped i)
      · exact consistent.stamp_distinct i j n oldI oldJ

theorem stamp_of_without {id k n : Nat} (found : (s.without id).touched.get? k = some n) :
    s.touched.get? k = some n := by
  rw [ProjectStore.without, Table.get?_erase] at found
  split at found
  · cases found
  · exact found

theorem past_without {id k : Nat} (other : k ≠ id) : (s.without id).past k = s.past k := by
  rw [past, ProjectStore.without, Table.get?_erase, if_neg other, past]

theorem Consistent.without (consistent : s.Consistent) (id : Nat) : (s.without id).Consistent := by
  constructor
  case touched_iff =>
    intro k
    rw [ProjectStore.without, Table.mem_keys_erase, Table.mem_keys_erase, consistent.touched_iff]
  case history_keys =>
    intro k member
    rw [ProjectStore.without, Table.mem_keys_erase] at member ⊢
    exact ⟨member.1, consistent.history_keys k member.2⟩
  case id_range =>
    intro k member
    exact consistent.id_range k (Table.mem_keys_erase.mp member).2
  case sound =>
    intro k p stored
    rw [ProjectStore.without, Table.get?_erase] at stored
    by_cases same : k = id
    · rw [if_pos same] at stored
      cases stored
    · rw [if_neg same] at stored
      rw [past_without same]
      exact consistent.sound k p stored
  case stamp_range =>
    intro k n found
    exact consistent.stamp_range k n (stamp_of_without found)
  case stamp_distinct =>
    intro i j n foundI foundJ
    exact consistent.stamp_distinct i j n (stamp_of_without foundI) (stamp_of_without foundJ)

theorem Consistent.fresh (consistent : s.Consistent) : s.created + 1 ∉ s.history.keys := by
  intro member
  have := (consistent.id_range _ (consistent.history_keys _ member)).2
  omega

theorem Consistent.stored_range (consistent : s.Consistent) {id : Nat}
    (stored : s.projects.get? id = some p) : 1 ≤ id ∧ id ≤ s.created :=
  consistent.id_range id (Table.mem_keys_iff.mpr ⟨p, stored⟩)

theorem Consistent.id_eq (consistent : s.Consistent) {id : Nat} (held : s.get id = .ok p) :
    p.id = id :=
  (consistent.sound id p (get_eq_ok_iff.mp held)).id_eq

theorem Consistent.step {call : StoreCall} {answer : Except StoreError StoreAnswer}
    (consistent : s.Consistent) (step : Step s call answer t) : t.Consistent := by
  cases step with
  | failed | shown | listed | told => exact consistent
  | created valid =>
    refine consistent.of_records (withFirst_records _ consistent.fresh) (.of_first valid) ?_
    exact ⟨Nat.le_add_left 1 _, Nat.le_refl _⟩
  | @renamed id u p valid stored =>
    obtain rfl := consistent.id_eq stored
    have stored := get_eq_ok_iff.mp stored
    have sound := (consistent.sound p.id p stored).renamed valid
    exact consistent.of_records (record_records s _) sound (consistent.stored_range stored)
  | @revised id prompt spec p valid stored =>
    obtain rfl := consistent.id_eq stored
    have stored := get_eq_ok_iff.mp stored
    have sound := (consistent.sound p.id p stored).revised spec valid
    exact consistent.of_records (withRevised_records s prompt _) sound
      (consistent.stored_range stored)
  | deleted => exact consistent.without _

theorem consistent_run (options : GeneratorOptions) (calls : List StoreCall) :
    (run { options } calls).Consistent :=
  run_keeps (.empty options) Consistent.step calls

end ProjectStore

namespace StoreCall

def changes : StoreCall → Bool
  | create _ | update .. | iterate .. => true
  | _ => false

def iterates (id : Nat) : StoreCall → Bool
  | iterate k _ _ => k == id
  | _ => false

end StoreCall

namespace ProjectStore

def success (pick : StoreCall → Bool) (call : StoreCall)
    (answer : Except StoreError StoreAnswer) : Nat :=
  if pick call && answer.isOk then 1 else 0

def successes (pick : StoreCall → Bool) (s : ProjectStore) : List StoreCall → Nat
  | [] => 0
  | call :: calls =>
    success pick call (s.apply call).answer + successes pick (s.apply call).store calls

/-- The numbers of a store as far as they are kept in machine words. -/
structure FitsWords (s : ProjectStore) : Prop where
  created_lt : s.created < 2 ^ 64
  clock_lt : s.clock < 2 ^ 64
  version_lt : ∀ id p, s.projects.get? id = some p → p.version < 2 ^ 32
  past_version_lt : ∀ id, ∀ i ∈ s.past id, i.version < 2 ^ 32

/-- What a step raises by at most one, and only where a picked call succeeds, is raised by a run at
most as often as such calls succeed. -/
theorem run_le_successes {pick : StoreCall → Bool} (count : ProjectStore → Nat)
    (raised : ∀ {s t call answer}, Step s call answer t →
      count t ≤ count s + success pick call answer) (s : ProjectStore) (calls : List StoreCall) :
    count (s.run calls) ≤ count s + successes pick s calls := by
  induction calls generalizing s with
  | nil => exact Nat.le_refl _
  | cons call calls ih =>
    have first := raised (s.apply_step call)
    have rest := ih (s.apply call).store
    show count ((s.apply call).store.run calls) ≤ _
    rw [successes]
    omega

theorem Step.clock_le {s t : ProjectStore} {call : StoreCall}
    {answer : Except StoreError StoreAnswer} (step : Step s call answer t) :
    t.clock ≤ s.clock + success StoreCall.changes call answer := by
  cases step <;> first | exact Nat.le_refl _ | exact Nat.le_add_right _ _

theorem Step.created_le {s t : ProjectStore} {call : StoreCall}
    {answer : Except StoreError StoreAnswer} (step : Step s call answer t) :
    t.created ≤ s.created + success StoreCall.changes call answer := by
  cases step <;> first | exact Nat.le_refl _ | exact Nat.le_add_right _ _

theorem Step.past_length_le {s t : ProjectStore} {call : StoreCall}
    {answer : Except StoreError StoreAnswer} (step : Step s call answer t) (id : Nat) :
    (t.past id).length ≤ (s.past id).length + success (StoreCall.iterates id) call answer := by
  cases step with
  | failed | shown | listed | told | created | renamed => exact Nat.le_add_right _ _
  | @revised k prompt spec p =>
    show (((s.history.put k _).get? id).getD []).length ≤ _
    rw [Table.get?_put]
    by_cases same : id = k
    · subst same
      simp [success, StoreCall.iterates, Except.isOk, Except.toBool]
    · rw [if_neg same]
      exact Nat.le_add_right _ _
  | @deleted k =>
    show (((s.history.erase k).get? id).getD []).length ≤ _
    rw [Table.get?_erase]
    split
    · exact Nat.zero_le _
    · exact Nat.le_add_right _ _

theorem Consistent.version_lt {s : ProjectStore} {id limit : Nat} {p : StoredProject}
    (consistent : s.Consistent) (stored : s.projects.get? id = some p)
    (few : (s.past id).length < limit) : p.version < limit + 1 := by
  have := (consistent.sound id p stored).version_eq
  omega

theorem Consistent.past_version_lt {s : ProjectStore} {id limit : Nat} {i : Iteration}
    (consistent : s.Consistent) (member : i ∈ s.past id) (few : (s.past id).length < limit) :
    i.version < limit + 1 := by
  by_cases known : id ∈ s.history.keys
  · obtain ⟨p, stored⟩ := Table.mem_keys_iff.mp (consistent.history_keys id known)
    obtain ⟨k, found⟩ := List.getElem?_of_mem member
    have counted := ((consistent.sound id p stored).counted k i found).1
    have inside := (List.getElem?_eq_some_iff.mp found).1
    omega
  · rw [past_of_not_mem known] at member
    cases member

theorem Step.options_eq {s t : ProjectStore} {call : StoreCall}
    {answer : Except StoreError StoreAnswer} (step : Step s call answer t) :
    t.options = s.options := by
  cases step <;> rfl

theorem run_options (s : ProjectStore) (calls : List StoreCall) :
    (s.run calls).options = s.options :=
  run_keeps (P := fun t => t.options = s.options) rfl
    (fun same step => step.options_eq.trans same) calls

/-- A run of calls on an empty store leaves its tables consistent. As long as no project is iterated
too often and not too much is changed, all its numbers fit machine words. -/
theorem run_consistent (options : GeneratorOptions) (calls : List StoreCall)
    (fewIterations : ∀ id, successes (StoreCall.iterates id) { options } calls < 2 ^ 32 - 1)
    (fewChanges : successes StoreCall.changes { options } calls < 2 ^ 64) :
    (run { options } calls).options = options ∧ (run { options } calls).Consistent ∧
      (run { options } calls).FitsWords := by
  have consistent := consistent_run options calls
  have created := run_le_successes created Step.created_le { options } calls
  have clock := run_le_successes clock Step.clock_le { options } calls
  have few : ∀ id, ((run { options } calls).past id).length < 2 ^ 32 - 1 := by
    intro id
    have raised := run_le_successes (fun s => (s.past id).length)
      (fun step => step.past_length_le id) { options } calls
    have start : (past { options } id).length = 0 := rfl
    rw [start, Nat.zero_add] at raised
    exact Nat.lt_of_le_of_lt raised (fewIterations id)
  refine ⟨run_options _ calls, consistent, ?_, ?_, ?_, ?_⟩
  · simp only [Nat.zero_add] at created
    exact Nat.lt_of_le_of_lt created fewChanges
  · simp only [Nat.zero_add] at clock
    exact Nat.lt_of_le_of_lt clock fewChanges
  · exact fun id p stored => consistent.version_lt stored (few id)
  · exact fun id i member => consistent.past_version_lt member (few id)

theorem successes_le_length (pick : StoreCall → Bool) (s : ProjectStore) (calls : List StoreCall) :
    successes pick s calls ≤ calls.length := by
  induction calls generalizing s with
  | nil => exact Nat.le_refl _
  | cons call calls ih =>
    have rest := ih (s.apply call).store
    have first : success pick call (s.apply call).answer ≤ 1 := by
      unfold success
      split <;> omega
    rw [successes, List.length_cons]
    omega

def sampleCalls : List StoreCall :=
  let todo : AppSpecification := { appName := "Todo" }
  [.create ⟨"Todo", none, "A simple todo list app", todo⟩,
    .create ⟨"", none, "A simple todo list app", todo⟩,
    .iterate 1 "Add a screen" (todo.withScreen { name := "Home", path := "index" }),
    .create ⟨"Notes", some "Short notes", "A place for my notes", todo⟩,
    .update 1 { name := some "Chores" }, .delete 2, .iterate 2 "Add a screen" todo, .list {}]

theorem run_consistent_sampleCalls :
    (∀ id, successes (StoreCall.iterates id) {} sampleCalls < 2 ^ 32 - 1) ∧
      successes StoreCall.changes {} sampleCalls < 2 ^ 64 ∧
      (run {} sampleCalls).ids = [1] ∧ (run {} sampleCalls).created = 2 ∧
      (run {} sampleCalls).options = {} ∧ (run {} sampleCalls).Consistent ∧
      (run {} sampleCalls).FitsWords := by
  have few : ∀ pick, successes pick {} sampleCalls ≤ 8 := fun pick =>
    successes_le_length pick {} sampleCalls
  have fewIterations : ∀ id, successes (StoreCall.iterates id) {} sampleCalls < 2 ^ 32 - 1 :=
    fun id => Nat.lt_of_le_of_lt (few _) (by decide)
  have fewChanges : successes StoreCall.changes {} sampleCalls < 2 ^ 64 :=
    Nat.lt_of_le_of_lt (few _) (by decide)
  exact ⟨fewIterations, fewChanges, by decide, by decide,
    run_consistent {} sampleCalls fewIterations fewChanges⟩

end ProjectStore

end AppScaffold

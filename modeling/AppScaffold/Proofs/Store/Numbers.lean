import AppScaffold.Proofs.Store.Failures

namespace AppScaffold

def StoreCall.creates : StoreCall → Bool
  | create _ => true
  | _ => false

def StoreCall.givenId? : StoreCall → Except StoreError StoreAnswer → Option Nat
  | create _, .ok (.project p) => some p.id
  | _, _ => none

namespace ProjectStore

def givenIds (s : ProjectStore) : List StoreCall → List Nat
  | [] => []
  | call :: calls =>
    (call.givenId? (s.apply call).answer).toList ++ givenIds (s.apply call).store calls

/-- The number has been given to a project that is no longer stored. -/
structure Retired (s : ProjectStore) (id : Nat) : Prop where
  given : id ≤ s.created
  missing : id ∉ s.ids

/-- No call finds a project of that number, and none is made with it. -/
structure Forgets (s : ProjectStore) (id : Nat) : Prop where
  get : (s.apply (.get id)).answer = .error (.notFound id)
  iterations : (s.apply (.iterations id)).answer = .error (.notFound id)
  delete : (s.apply (.delete id)).answer = .error (.notFound id)
  update : ∀ u, ∃ e, (s.apply (.update id u)).answer = .error e
  iterate : ∀ prompt spec, ∃ e, (s.apply (.iterate id prompt spec)).answer = .error e
  ids : id ∉ s.ids
  pages : ∀ r, ∀ p ∈ (s.list r).projects, p.id ≠ id
  create : ∀ new p, (s.apply (.create new)).answer = .ok (.project p) → p.id ≠ id

variable {s t : ProjectStore} {call : StoreCall} {answer : Except StoreError StoreAnswer} {id : Nat}

theorem Step.created_eq (step : Step s call answer t) :
    t.created = s.created + success StoreCall.creates call answer := by
  cases step with
  | failed => simp [success, Except.isOk, Except.toBool]
  | _ => rfl

theorem Step.givenId? (step : Step s call answer t) :
    (call.givenId? answer).toList =
      List.range' (s.created + 1) (success StoreCall.creates call answer) := by
  cases step with
  | failed => cases call <;> simp [StoreCall.givenId?, success, Except.isOk, Except.toBool]
  | _ => rfl

theorem givenIds_eq (s : ProjectStore) (calls : List StoreCall) :
    s.givenIds calls = List.range' (s.created + 1) (successes StoreCall.creates s calls) := by
  induction calls generalizing s with
  | nil => rfl
  | cons call calls ih =>
    have step := s.apply_step call
    have next : (s.apply call).store.created + 1 =
        s.created + 1 + 1 * success StoreCall.creates call (s.apply call).answer := by
      rw [step.created_eq]
      omega
    rw [givenIds, step.givenId?, ih, next, List.range'_append, successes]

theorem Retired.of_records {p : StoredProject} {past : List Iteration} (retired : s.Retired id)
    (records : s.Records t p past) (other : id ≠ p.id) : t.Retired id := by
  constructor
  · exact Nat.le_trans retired.given records.created_le
  · intro member
    rw [ids, records.projects_eq, Table.mem_keys_put] at member
    rcases member with same | old
    · exact other same
    · exact retired.missing old

theorem Retired.ne_of_stored {k : Nat} {p : StoredProject} (retired : s.Retired id)
    (consistent : s.Consistent) (stored : s.get k = .ok p) : id ≠ p.id := by
  rintro rfl
  rw [consistent.id_eq stored] at retired
  apply retired.missing
  rw [ids, Table.mem_keys_iff]
  exact ⟨p, get_eq_ok_iff.mp stored⟩

theorem Retired.step (retired : s.Retired id) (consistent : s.Consistent)
    (step : Step s call answer t) : t.Retired id := by
  cases step with
  | failed | shown | listed | told => exact retired
  | created =>
    apply retired.of_records (withFirst_records _ consistent.fresh)
    have given := retired.given
    show id ≠ s.created + 1
    omega
  | @renamed k u p _ stored =>
    have other : id ≠ p.id := retired.ne_of_stored consistent stored
    exact retired.of_records (record_records s (p.renamed u)) other
  | @revised k prompt spec p _ stored =>
    have other := retired.ne_of_stored consistent stored
    obtain rfl := consistent.id_eq stored
    exact retired.of_records (withRevised_records s prompt _) other
  | deleted =>
    constructor
    · exact retired.given
    · intro member
      exact retired.missing (Table.mem_keys_erase.mp member).2

theorem Retired.run (retired : s.Retired id) (consistent : s.Consistent) (calls : List StoreCall) :
    (s.run calls).Retired id := by
  have kept := run_keeps (P := fun s => s.Consistent ∧ s.Retired id) ⟨consistent, retired⟩
    (fun held step => ⟨held.1.step step, held.2.step held.1 step⟩) calls
  exact kept.2

theorem Consistent.retired_of_delete (consistent : s.Consistent)
    (deleted : (s.apply (.delete id)).answer = .ok .deleted) :
    (s.apply (.delete id)).store.Retired id := by
  have step := s.apply_step (.delete id)
  rw [deleted] at step
  generalize (s.apply (.delete id)).store = t at step
  cases step with
  | deleted stored =>
    constructor
    · exact (consistent.stored_range (get_eq_ok_iff.mp stored)).2
    · intro member
      exact (Table.mem_keys_erase.mp member).1 rfl

theorem Consistent.id_of_mem_list (consistent : s.Consistent) {r : PageRequest}
    {p : ProjectSummary} (listed : p ∈ (s.list r).projects) : p.id ∈ s.ids := by
  obtain ⟨k, -, shown⟩ := List.mem_filterMap.mp listed
  obtain ⟨q, stored, rfl⟩ := Option.map_eq_some_iff.mp shown
  have own : q.id = k := (consistent.sound k q stored).id_eq
  show q.id ∈ s.projects.keys
  rw [own, Table.mem_keys_iff]
  exact ⟨q, stored⟩

theorem Retired.forgets (retired : s.Retired id) (consistent : s.Consistent) : s.Forgets id := by
  have missing : s.get id = .error (.notFound id) :=
    get_eq_error_iff.mpr ⟨retired.missing, rfl⟩
  have fails : ∀ call : StoreCall, call.id? = some id → ∃ e, (s.apply call).answer = .error e := by
    intro call named
    exact exists_error_iff.mpr (.inr ⟨id, named, retired.missing⟩)
  have notFound : ∀ call : StoreCall, call.check = .ok () → call.id? = some id →
      (s.apply call).answer = .error (.notFound id) := by
    intro call passed named
    exact answer_eq_error_iff.mpr (.inr ⟨passed, id, named, missing⟩)
  constructor
  case get => exact notFound _ rfl rfl
  case iterations => exact notFound _ rfl rfl
  case delete => exact notFound _ rfl rfl
  case update => exact fun u => fails _ rfl
  case iterate => exact fun prompt spec => fails _ rfl
  case ids => exact retired.missing
  case pages =>
    intro r p listed same
    rw [← same] at retired
    exact retired.missing (consistent.id_of_mem_list listed)
  case create =>
    intro new p created
    have step := s.apply_step (.create new)
    rw [created] at step
    generalize (s.apply (.create new)).store = t at step
    cases step with
    | created =>
      have given := retired.given
      show s.created + 1 ≠ id
      omega

/-- The projects of a run on an empty store are numbered from one in the order of their creation,
whatever fails or is deleted in between. Once a project has been deleted, no later call finds it or
makes another one of its number. -/
theorem forgets_run (options : GeneratorOptions) (calls : List StoreCall)
    (few : successes StoreCall.creates { options } calls < 2 ^ 64) :
    givenIds { options } calls =
        List.range' 1 (successes StoreCall.creates { options } calls) ∧
      (∀ id ∈ givenIds { options } calls, id < 2 ^ 64) ∧
      ∀ front later id, calls = front ++ .delete id :: later →
        ((run { options } front).apply (.delete id)).answer = .ok .deleted →
        (run { options } calls).Forgets id := by
  have given := givenIds_eq { options } calls
  refine ⟨given, ?_, ?_⟩
  · intro id member
    rw [given, List.mem_range'_1] at member
    have inside : id < 1 + successes StoreCall.creates { options } calls := member.2
    omega
  · intro front later id split deleted
    have before := consistent_run options front
    have behind := before.step ((run { options } front).apply_step (.delete id))
    have rest : run { options } calls =
        ((run { options } front).apply (.delete id)).store.run later := by
      rw [split]
      exact run_append { options } front (.delete id :: later)
    have retired : (run { options } calls).Retired id := by
      rw [rest]
      exact (before.retired_of_delete deleted).run behind later
    exact retired.forgets (consistent_run options calls)

def renumberedCalls : List StoreCall :=
  sampleCalls ++
    [.create ⟨"Shop", none, "A shop for old books", { appName := "Shop" }⟩,
      .iterate 2 "Add a screen" { appName := "Notes" }]

theorem forgets_renumberedCalls :
    successes StoreCall.creates {} renumberedCalls < 2 ^ 64 ∧
      givenIds {} renumberedCalls = [1, 2, 3] ∧
      renumberedCalls = sampleCalls.take 5 ++ .delete 2 :: renumberedCalls.drop 6 ∧
      ((run {} (sampleCalls.take 5)).apply (.delete 2)).answer = .ok .deleted ∧
      (run {} renumberedCalls).ids = [1, 3] ∧ (run {} renumberedCalls).Forgets 2 := by
  have few : successes StoreCall.creates {} renumberedCalls < 2 ^ 64 :=
    Nat.lt_of_le_of_lt (successes_le_length _ {} renumberedCalls) (by decide)
  have split : renumberedCalls = sampleCalls.take 5 ++ .delete 2 :: renumberedCalls.drop 6 := rfl
  have deleted : ((run {} (sampleCalls.take 5)).apply (.delete 2)).answer = .ok .deleted := rfl
  have run := forgets_run {} renumberedCalls few
  exact ⟨few, by decide, split, deleted, by decide, run.2.2 _ _ 2 split deleted⟩

end ProjectStore

end AppScaffold

import AppScaffold.Proofs.Store.Consistency
import Mathlib.Data.List.Nodup

/-! The order in which a store lists its projects. A plain list is kept beside a run, and every
change moves its project to the front of it. The pages of the store are that list cut into
pieces. -/

namespace AppScaffold

/-- The list with the number at its front, where it stood before or not. -/
def toFront (id : Nat) (order : List Nat) : List Nat := id :: order.filter (· != id)

/-- What a call does to the list of the projects, the one changed last first. -/
def StoreCall.reorder (order : List Nat) :
    StoreCall → Except StoreError StoreAnswer → List Nat
  | create _, .ok (.project p) => toFront p.id order
  | update id _, .ok _ => toFront id order
  | iterate id _ _, .ok _ => toFront id order
  | delete id, .ok _ => order.filter (· != id)
  | _, _ => order

namespace ProjectStore

def followed (s : ProjectStore) (order : List Nat) : List StoreCall → List Nat
  | [] => order
  | call :: calls =>
    followed (s.apply call).store (call.reorder order (s.apply call).answer) calls

/-- The list has the projects of the store, and those changed later stand before the others. -/
structure Follows (s : ProjectStore) (order : List Nat) : Prop where
  mem_iff : ∀ id, id ∈ order ↔ id ∈ s.projects.keys
  latest : order.Pairwise fun a b => s.lastChange b < s.lastChange a

variable {s t : ProjectStore} {p : StoredProject} {past : List Iteration} {order : List Nat}

theorem Records.lastChange_self (records : s.Records t p past) :
    t.lastChange p.id = s.clock + 1 := by
  rw [lastChange, records.touched_eq, Table.get?_put_self, Option.getD_some]

theorem Records.lastChange_other (records : s.Records t p past) {id : Nat} (other : id ≠ p.id) :
    t.lastChange id = s.lastChange id := by
  rw [lastChange, lastChange, records.touched_eq, Table.get?_put_of_ne _ _ other]

theorem Consistent.lastChange_le (consistent : s.Consistent) (id : Nat) :
    s.lastChange id ≤ s.clock := by
  rw [lastChange]
  cases stamp : s.touched.get? id with
  | none => exact Nat.zero_le _
  | some n => exact (consistent.stamp_range id n stamp).2

theorem Follows.empty (options : GeneratorOptions) : Follows { options } [] :=
  ⟨fun id => by simp [Table.keys, Table.empty], .nil⟩

theorem Follows.of_records (follows : s.Follows order) (consistent : s.Consistent)
    (records : s.Records t p past) : t.Follows (toFront p.id order) := by
  constructor
  · intro id
    rw [records.projects_eq, Table.mem_keys_put, toFront, List.mem_cons, List.mem_filter,
      follows.mem_iff]
    by_cases same : id = p.id <;> simp [same]
  · rw [toFront, List.pairwise_cons]
    constructor
    · intro id member
      have other : id ≠ p.id := by simpa using (List.mem_filter.mp member).2
      have before := consistent.lastChange_le id
      rw [records.lastChange_self, records.lastChange_other other]
      omega
    · refine (follows.latest.filter _).imp_of_mem fun {a b} first second earlier => ?_
      have a_other : a ≠ p.id := by simpa using (List.mem_filter.mp first).2
      have b_other : b ≠ p.id := by simpa using (List.mem_filter.mp second).2
      rwa [records.lastChange_other a_other, records.lastChange_other b_other]

theorem Follows.without (follows : s.Follows order) (id : Nat) :
    (s.without id).Follows (order.filter (· != id)) := by
  have kept : ∀ k, k ≠ id → (s.without id).lastChange k = s.lastChange k := by
    intro k other
    rw [lastChange, lastChange, ProjectStore.without, Table.get?_erase, if_neg other]
  constructor
  · intro k
    rw [ProjectStore.without, Table.mem_keys_erase, List.mem_filter, follows.mem_iff]
    simp [and_comm]
  · refine (follows.latest.filter _).imp_of_mem fun {a b} first second earlier => ?_
    have a_other : a ≠ id := by simpa using (List.mem_filter.mp first).2
    have b_other : b ≠ id := by simpa using (List.mem_filter.mp second).2
    rwa [kept a a_other, kept b b_other]

theorem Follows.step {call : StoreCall} {answer : Except StoreError StoreAnswer}
    (follows : s.Follows order) (consistent : s.Consistent) (step : Step s call answer t) :
    t.Follows (call.reorder order answer) := by
  cases step with
  | failed => cases call <;> exact follows
  | shown | listed | told => exact follows
  | created => exact follows.of_records consistent (withFirst_records _ consistent.fresh)
  | @renamed id u p _ stored =>
    obtain rfl := consistent.id_eq stored
    have moved := follows.of_records consistent (record_records s (p.renamed u))
    exact moved
  | @revised id prompt spec p _ stored =>
    obtain rfl := consistent.id_eq stored
    have records := withRevised_records s prompt (p.revised s.options spec)
    have moved := follows.of_records consistent records
    exact moved
  | deleted => exact follows.without _

theorem Follows.run (follows : s.Follows order) (consistent : s.Consistent)
    (calls : List StoreCall) : (s.run calls).Follows (s.followed order calls) := by
  induction calls generalizing s order with
  | nil => exact follows
  | cons call calls ih =>
    have step := s.apply_step call
    exact ih (follows.step consistent step) (consistent.step step)

theorem Follows.nodup (follows : s.Follows order) : order.Nodup :=
  follows.latest.imp fun {a b} earlier same => by
    rw [same] at earlier
    exact Nat.lt_irrefl _ earlier

theorem nodup_ids (s : ProjectStore) : s.ids.Nodup :=
  List.pairwise_map.mpr (s.projects.sorted.imp Nat.ne_of_lt)

theorem Follows.perm (follows : s.Follows order) : s.ids.Perm order :=
  (List.perm_ext_iff_of_nodup s.nodup_ids follows.nodup).mpr fun id => (follows.mem_iff id).symm

theorem Follows.lastChange_inj (follows : s.Follows order) {a b : Nat} (first : a ∈ order)
    (second : b ∈ order) (same : s.lastChange a = s.lastChange b) : a = b := by
  have distinct : (order.map s.lastChange).Nodup :=
    List.pairwise_map.mpr (follows.latest.imp fun {a b} earlier => Nat.ne_of_gt earlier)
  exact List.inj_on_of_nodup_map distinct first second same

theorem Follows.recent_eq (follows : s.Follows order) : s.recent = order := by
  have perm : s.recent.Perm order := (List.mergeSort_perm _ _).trans follows.perm
  have sorted : s.recent.Pairwise fun a b => s.lastChange b ≤ s.lastChange a := by
    have stamps : s.recent.Pairwise fun a b => decide (s.lastChange b ≤ s.lastChange a) := by
      apply List.pairwise_mergeSort
      · intro a b c first second
        simp only [decide_eq_true_eq] at first second ⊢
        exact Nat.le_trans second first
      · intro a b
        simp only [Bool.or_eq_true, decide_eq_true_eq]
        exact Nat.le_total _ _
    simpa using stamps
  refine perm.eq_of_pairwise ?_ sorted (follows.latest.imp Nat.le_of_lt)
  intro a b first second later earlier
  exact follows.lastChange_inj (perm.mem_iff.mp first) second (Nat.le_antisymm earlier later)

def pages (s : ProjectStore) (limit count : Nat) : List ProjectSummary :=
  (List.range count).flatMap fun k => (s.list ⟨k + 1, limit⟩).projects

theorem take_mul_eq_flatMap {α : Type} (xs : List α) (width count : Nat) :
    xs.take (count * width) =
      (List.range count).flatMap fun k => (xs.drop (k * width)).take width := by
  induction count with
  | zero => simp
  | succ count ih =>
    rw [Nat.succ_mul, List.take_add, ih, List.range_succ, List.flatMap_append]
    simp

theorem le_mul_totalPages (page : ProjectPage) {limit : Nat} (positive : 1 ≤ limit) :
    page.total ≤ page.totalPages limit * limit := by
  have split := Nat.div_add_mod (page.total + limit - 1) limit
  have rest := Nat.mod_lt (page.total + limit - 1) positive
  rw [ProjectPage.totalPages, if_neg (by omega), Nat.mul_comm]
  omega

theorem mul_lt_of_lt_totalPages {page : ProjectPage} {limit k : Nat}
    (inside : k < page.totalPages limit) : k * limit < page.total := by
  by_cases none : limit = 0
  · rw [ProjectPage.totalPages, if_pos none] at inside
    omega
  · rw [ProjectPage.totalPages, if_neg none, Nat.lt_iff_add_one_le,
      Nat.le_div_iff_mul_le (by omega), Nat.succ_mul] at inside
    omega

def summaries (s : ProjectStore) (ids : List Nat) : List ProjectSummary :=
  ids.filterMap fun id => (s.projects.get? id).map StoredProject.summary

theorem map_ok_summaries {ids : List Nat} (stored : ∀ id ∈ ids, id ∈ s.projects.keys) :
    (s.summaries ids).map .ok = ids.map fun id => (s.get id).map StoredProject.summary := by
  induction ids with
  | nil => rfl
  | cons id ids ih =>
    have rest := ih fun k member => stored k (List.mem_cons_of_mem _ member)
    obtain ⟨p, found⟩ := Table.mem_keys_iff.mp (stored id List.mem_cons_self)
    have shown : s.get id = .ok p := get_eq_ok_iff.mpr found
    have first : s.summaries (id :: ids) = p.summary :: s.summaries ids := by
      simp [summaries, found]
    rw [first, List.map_cons, List.map_cons, rest, shown]
    rfl

theorem Follows.total_eq (follows : s.Follows order) (r : PageRequest) :
    (s.list r).total = order.length := by
  rw [← follows.perm.length_eq, ids, Table.keys, List.length_map]
  rfl

theorem Follows.projects_eq (follows : s.Follows order) (r : PageRequest) :
    (s.list r).projects = s.summaries ((order.drop r.offset).take r.limit) := by
  rw [list, follows.recent_eq, summaries]

theorem offset_succ (k limit : Nat) : PageRequest.offset ⟨k + 1, limit⟩ = min (k * limit) maxWord := by
  simp [PageRequest.offset]

variable {limit : Nat}

theorem Follows.pages_eq (follows : s.Follows order) (positive : 1 ≤ limit)
    (fits : s.size ≤ maxWord) (r : PageRequest) :
    s.pages limit ((s.list r).totalPages limit) = s.summaries order := by
  let last := (s.list r).totalPages limit
  have total : (s.list r).total ≤ maxWord := fits
  have page : ∀ k ∈ List.range last,
      (s.list ⟨k + 1, limit⟩).projects = s.summaries ((order.drop (k * limit)).take limit) := by
    intro k member
    have inside := mul_lt_of_lt_totalPages (List.mem_range.mp member)
    rw [follows.projects_eq, offset_succ, Nat.min_eq_left (by omega)]
  have all : order.length ≤ last * limit := by
    rw [← follows.total_eq r]
    exact le_mul_totalPages _ positive
  calc
    s.pages limit last =
        (List.range last).flatMap fun k => s.summaries ((order.drop (k * limit)).take limit) :=
      List.flatMap_congr page
    _ = s.summaries (order.take (last * limit)) := by
      rw [take_mul_eq_flatMap, summaries, List.filterMap_flatMap]
      rfl
    _ = s.summaries order := by rw [List.take_of_length_le all]

theorem Follows.projects_eq_nil (follows : s.Follows order) (positive : 1 ≤ limit)
    (fits : s.size ≤ maxWord) {r : PageRequest} {k : Nat}
    (above : (s.list r).totalPages limit < k) : (s.list ⟨k, limit⟩).projects = [] := by
  obtain ⟨j, rfl⟩ := Nat.exists_eq_add_one_of_ne_zero (Nat.ne_zero_of_lt above)
  have total : (s.list r).total ≤ maxWord := fits
  have all := le_mul_totalPages (s.list r) positive
  have further := Nat.mul_le_mul_right limit (Nat.le_of_lt_succ above)
  have outside : order.length ≤ min (j * limit) maxWord := by
    rw [← follows.total_eq r]
    omega
  rw [follows.projects_eq, offset_succ, List.drop_of_length_le outside, List.take_nil]
  rfl

/-- The pages of a store are the list kept beside its run, cut into pieces: every project stands on
one of them, as it is now, and nothing stands on the pages behind the last. A store has no more
projects than a machine word can count. -/
theorem list_run (options : GeneratorOptions) (calls : List StoreCall) (limit : Nat)
    (positive : 1 ≤ limit) (fits : (run { options } calls).size ≤ maxWord) :
    let s := run { options } calls
    let order := followed { options } [] calls
    let last := (s.list ⟨1, limit⟩).totalPages limit
    order.Nodup ∧
      (s.pages limit last).map .ok = order.map (fun id => (s.get id).map StoredProject.summary) ∧
      (∀ r, (s.list r).total = order.length) ∧
      (∀ k, last < k → (s.list ⟨k, limit⟩).projects = []) ∧
      s.list ⟨0, limit⟩ = s.list ⟨1, limit⟩ := by
  intro s order last
  have follows : s.Follows order := (Follows.empty options).run (.empty options) calls
  have stored : ∀ id ∈ order, id ∈ s.projects.keys := fun id => (follows.mem_iff id).mp
  refine ⟨follows.nodup, ?_, follows.total_eq, ?_, rfl⟩
  · rw [follows.pages_eq positive fits, map_ok_summaries stored]
  · exact fun k above => follows.projects_eq_nil positive fits above

def listedCalls : List StoreCall :=
  let todo : AppSpecification := { appName := "Todo" }
  [.create ⟨"Todo", none, "A simple todo list app", todo⟩,
    .create ⟨"Notes", none, "A place for my notes", todo⟩,
    .create ⟨"Shop", none, "A shop for old books", todo⟩,
    .update 1 { name := some "Chores" }, .update 2 { name := some "" }, .get 2]

theorem list_listedCalls :
    let s := run {} listedCalls
    let order := followed {} [] listedCalls
    let last := (s.list ⟨1, 2⟩).totalPages 2
    1 ≤ 2 ∧ s.size ≤ maxWord ∧ order = [1, 3, 2] ∧ last = 2 ∧ order.Nodup ∧
      (s.pages 2 last).map .ok = order.map (fun id => (s.get id).map StoredProject.summary) ∧
      (∀ r, (s.list r).total = order.length) ∧
      (∀ k, last < k → (s.list ⟨k, 2⟩).projects = []) ∧
      s.list ⟨0, 2⟩ = s.list ⟨1, 2⟩ := by
  have size : (run {} listedCalls).size ≤ maxWord := by decide
  exact ⟨by decide, size, by decide, by decide, list_run {} listedCalls 2 (by decide) size⟩

end ProjectStore

end AppScaffold

namespace AppScaffold

variable {α : Type}

/-- A value put under a number. What was under it before is replaced. -/
def putEntry (id : Nat) (v : α) : List (Nat × α) → List (Nat × α)
  | [] => [(id, v)]
  | e :: es =>
    if id < e.1 then (id, v) :: e :: es
    else if id = e.1 then (id, v) :: es
    else e :: putEntry id v es

theorem mem_putEntry {id : Nat} {v : α} {es : List (Nat × α)} {e : Nat × α}
    (member : e ∈ putEntry id v es) : e = (id, v) ∨ e ∈ es := by
  induction es with
  | nil => simpa [putEntry] using member
  | cons d ds ih =>
    simp only [putEntry] at member
    split at member
    · simpa using member
    · split at member
      · rcases List.mem_cons.mp member with new | old
        · exact Or.inl new
        · exact Or.inr (List.mem_cons_of_mem _ old)
      · rcases List.mem_cons.mp member with first | later
        · exact Or.inr (List.mem_cons.mpr (Or.inl first))
        · exact (ih later).imp (fun new => new) (List.mem_cons_of_mem _)

theorem putEntry_sorted {id : Nat} {v : α} {es : List (Nat × α)}
    (sorted : es.Pairwise (·.1 < ·.1)) : (putEntry id v es).Pairwise (·.1 < ·.1) := by
  induction es with
  | nil => simp [putEntry]
  | cons d ds ih =>
    obtain ⟨first, rest⟩ := List.pairwise_cons.mp sorted
    simp only [putEntry]
    split
    · rename_i before
      refine List.pairwise_cons.mpr ⟨fun e member => ?_, sorted⟩
      rcases List.mem_cons.mp member with rfl | later
      · exact before
      · exact Nat.lt_trans before (first e later)
    · split
      · rename_i same
        exact List.pairwise_cons.mpr ⟨fun e member => by simpa [same] using first e member, rest⟩
      · refine List.pairwise_cons.mpr ⟨fun e member => ?_, ih rest⟩
        rcases mem_putEntry member with rfl | old
        · show d.1 < id
          omega
        · exact first e old

theorem lookup_entry (k : Nat) (e : Nat × α) (es : List (Nat × α)) :
    (e :: es).lookup k = if k = e.1 then some e.2 else es.lookup k := by
  obtain ⟨first, v⟩ := e
  by_cases same : k = first
  · simp [same]
  · simp [List.lookup_cons, same, beq_eq_false_iff_ne.mpr same]

theorem lookup_putEntry (id k : Nat) (v : α) (es : List (Nat × α)) :
    (putEntry id v es).lookup k = if k = id then some v else es.lookup k := by
  induction es with
  | nil => exact lookup_entry k (id, v) []
  | cons d ds ih =>
    simp only [putEntry]
    split
    · exact lookup_entry k (id, v) (d :: ds)
    · split
      · rename_i same
        rw [lookup_entry, lookup_entry, same]
        split <;> rfl
      · rename_i other
        rw [lookup_entry, lookup_entry, ih]
        split
        · rename_i first
          rw [if_neg (first ▸ Ne.symm other)]
        · rfl

theorem lookup_filter_ne (id k : Nat) (es : List (Nat × α)) :
    (es.filter (·.1 != id)).lookup k = if k = id then none else es.lookup k := by
  induction es with
  | nil => simp
  | cons d ds ih =>
    by_cases removed : d.1 = id
    · rw [List.filter_cons_of_neg (by simpa using removed), ih, lookup_entry, removed]
      split <;> rfl
    · rw [List.filter_cons_of_pos (by simpa using removed), lookup_entry, lookup_entry, ih]
      split
      · rename_i first
        rw [if_neg (first ▸ removed)]
      · rfl

theorem mem_map_fst_iff_lookup {k : Nat} {es : List (Nat × α)} :
    k ∈ es.map (·.1) ↔ ∃ v, es.lookup k = some v := by
  induction es with
  | nil => simp
  | cons d ds ih =>
    rw [List.map_cons, List.mem_cons, lookup_entry, ih]
    by_cases same : k = d.1 <;> simp [same]

structure Table (α : Type) where
  entries : List (Nat × α)
  sorted : entries.Pairwise (·.1 < ·.1)

namespace Table

def empty : Table α := ⟨[], .nil⟩

def get? (t : Table α) (id : Nat) : Option α := t.entries.lookup id

def put (t : Table α) (id : Nat) (v : α) : Table α :=
  ⟨putEntry id v t.entries, putEntry_sorted t.sorted⟩

def erase (t : Table α) (id : Nat) : Table α :=
  ⟨t.entries.filter (·.1 != id), t.sorted.filter _⟩

def keys (t : Table α) : List Nat := t.entries.map (·.1)

def size (t : Table α) : Nat := t.entries.length

def isEmpty (t : Table α) : Bool := t.entries.isEmpty

@[simp] theorem get?_empty (id : Nat) : (empty : Table α).get? id = none := rfl

theorem get?_put (t : Table α) (id k : Nat) (v : α) :
    (t.put id v).get? k = if k = id then some v else t.get? k :=
  lookup_putEntry id k v t.entries

@[simp] theorem get?_put_self (t : Table α) (id : Nat) (v : α) :
    (t.put id v).get? id = some v := by
  rw [get?_put, if_pos rfl]

theorem get?_put_of_ne (t : Table α) {id k : Nat} (v : α) (other : k ≠ id) :
    (t.put id v).get? k = t.get? k := by
  rw [get?_put, if_neg other]

theorem get?_erase (t : Table α) (id k : Nat) :
    (t.erase id).get? k = if k = id then none else t.get? k :=
  lookup_filter_ne id k t.entries

theorem mem_keys_iff {t : Table α} {id : Nat} : id ∈ t.keys ↔ ∃ v, t.get? id = some v :=
  mem_map_fst_iff_lookup

theorem mem_keys_put {t : Table α} {id k : Nat} {v : α} :
    k ∈ (t.put id v).keys ↔ k = id ∨ k ∈ t.keys := by
  rw [mem_keys_iff, mem_keys_iff, get?_put]
  by_cases same : k = id <;> simp [same]

theorem mem_keys_erase {t : Table α} {id k : Nat} :
    k ∈ (t.erase id).keys ↔ k ≠ id ∧ k ∈ t.keys := by
  rw [mem_keys_iff, mem_keys_iff, get?_erase]
  by_cases same : k = id <;> simp [same]

end Table

end AppScaffold

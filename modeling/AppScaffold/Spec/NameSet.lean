namespace AppScaffold

structure NameSet where
  names : List String
  nodup : names.Nodup
  deriving DecidableEq

namespace NameSet

def empty : NameSet := ⟨[], by simp⟩

def insert (s : NameSet) (name : String) : NameSet :=
  if present : name ∈ s.names then s
  else ⟨s.names ++ [name], by
    rw [List.nodup_append]
    exact ⟨s.nodup, by simp, fun a member b same => by
      have : b = name := by simpa using same
      rintro rfl
      exact present (this ▸ member)⟩⟩

def insertAll (s : NameSet) (names : List String) : NameSet := names.foldl insert s

def ofList (names : List String) : NameSet := empty.insertAll names

theorem names_insert_of_not_mem {s : NameSet} {name : String} (absent : name ∉ s.names) :
    (s.insert name).names = s.names ++ [name] := by
  rw [insert, dif_neg absent]

theorem names_insertAll {s : NameSet} {names : List String}
    (distinct : (s.names ++ names).Nodup) : (s.insertAll names).names = s.names ++ names := by
  induction names generalizing s with
  | nil => exact (List.append_nil _).symm
  | cons name names ih =>
    rw [List.append_cons] at distinct
    have absent : name ∉ s.names := by
      intro present
      have apart := (List.nodup_append.mp (List.nodup_append.mp distinct).1).2.2
      exact apart name present name List.mem_cons_self rfl
    rw [← names_insert_of_not_mem absent] at distinct
    show ((s.insert name).insertAll names).names = _
    rw [ih distinct, names_insert_of_not_mem absent, ← List.append_cons]

theorem ofList_names (s : NameSet) : ofList s.names = s := by
  have same : (ofList s.names).names = s.names := names_insertAll (s := empty) s.nodup
  cases h : ofList s.names
  cases s
  simpa [h] using same

end NameSet

end AppScaffold

import AppScaffold.Json.Writer

namespace AppScaffold

open Json

theorem mem_keys_setMember {α : Type} {key k : String} {v : α} {members : List (String × α)}
    (present : k ∈ (setMember key v members).map Prod.fst) :
    k = key ∨ k ∈ members.map Prod.fst := by
  induction members with
  | nil => simpa [setMember] using present
  | cons m ms ih =>
    obtain ⟨l, w⟩ := m
    simp only [setMember] at present
    split at present
    · exact Or.inr present
    · rcases List.mem_cons.mp present with same | later
      · exact Or.inr (List.mem_cons.mpr (Or.inl same))
      · rcases ih later with same | old
        · exact Or.inl same
        · exact Or.inr (List.mem_cons.mpr (Or.inr old))

theorem nodup_keys_setMember {α : Type} {key : String} {v : α} {members : List (String × α)}
    (nodup : (members.map Prod.fst).Nodup) : ((setMember key v members).map Prod.fst).Nodup := by
  induction members with
  | nil => simp [setMember]
  | cons m ms ih =>
    obtain ⟨l, w⟩ := m
    rw [List.map_cons, List.nodup_cons] at nodup
    simp only [setMember]
    split
    · exact List.nodup_cons.mpr nodup
    · rename_i other
      refine List.nodup_cons.mpr ⟨fun present => ?_, ih nodup.2⟩
      rcases mem_keys_setMember present with same | old
      · exact other same
      · exact nodup.1 old

structure Project where
  files : List (String × String)
  nodup : (files.map Prod.fst).Nodup
  deriving DecidableEq

namespace Project

def empty : Project := ⟨[], by simp⟩

/-- A file put in again replaces the earlier one in its place. -/
def insert (p : Project) (path content : String) : Project :=
  ⟨setMember path content p.files, nodup_keys_setMember p.nodup⟩

def ofList (files : List (String × String)) : Project :=
  files.foldl (fun p (path, content) => p.insert path content) empty

def paths (p : Project) : List String := p.files.map Prod.fst
def get? (p : Project) (path : String) : Option String := p.files.lookup path
def contains (p : Project) (path : String) : Bool := p.paths.contains path
def size (p : Project) : Nat := p.files.length
def isEmpty (p : Project) : Bool := p.files.isEmpty

def toValue (p : Project) : Value := .object (p.files.map fun (path, s) => (path, .string s))

end Project

end AppScaffold

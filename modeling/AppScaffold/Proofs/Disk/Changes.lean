import AppScaffold.Proofs.Disk.Destination
import AppScaffold.Proofs.Except
import AppScaffold.Proofs.Project.Files

namespace AppScaffold

namespace Node

def isDirectory : Node → Bool
  | .directory _ => true
  | _ => false

/-- The file or the device at a place. -/
def object? (n : Node) (place : Place) : Option Node := (n.get? place).filter (!·.isDirectory)

theorem get?_append (n : Node) (place rest : Place) :
    n.get? (place ++ rest) = (n.get? place).bind fun m => m.get? rest := by
  induction place generalizing n with
  | nil => rfl
  | cons name place ih =>
    rw [List.cons_append, get?, get?]
    cases n.entry? name with
    | none => rfl
    | some m => exact ih m

theorem object?_append {n m : Node} {place : Place} (here : n.get? place = some m) (rest : Place) :
    n.object? (place ++ rest) = m.object? rest := by
  rw [object?, get?_append, here]
  rfl

theorem object?_append_of_free {n : Node} {place : Place} (free : n.get? place = none)
    (rest : Place) : n.object? (place ++ rest) = none := by
  rw [object?, get?_append, free]
  rfl

theorem object?_eq_none {m : Node} {place : Place} (object : ∀ entries, m ≠ directory entries)
    (more : place ≠ []) : m.object? place = none := by
  cases place with
  | nil => exact absurd rfl more
  | cons name place =>
    cases m with
    | directory entries => exact absurd rfl (object entries)
    | _ => rfl

@[simp] theorem object?_empty (place : Place) : empty.object? place = none := by
  cases place <;> rfl

theorem object?_directory_cons (entries : List (String × Node)) (name : String) (place : Place) :
    (directory entries).object? (name :: place) =
      ((entries.lookup name).getD empty).object? place := by
  rw [object?, get?, entry?]
  cases entries.lookup name with
  | none => exact (object?_empty place).symm
  | some m => rfl

variable {n m : Node}

theorem object?_put_of_not_prefix {place q : Place} (apart : ¬ place <+: q) :
    (m.put place n).object? q = n.object? q := by
  induction place generalizing n q with
  | nil => exact absurd List.nil_prefix apart
  | cons name place ih =>
    cases n with
    | directory entries =>
      cases q with
      | nil => rfl
      | cons k q =>
        rw [put, object?_directory_cons, object?_directory_cons, lookup_setMember]
        split
        · rename_i same
          subst same
          exact ih fun within => apart (List.cons_prefix_cons.mpr ⟨rfl, within⟩)
        · rfl
    | _ => rfl

theorem object?_put_append (place rest : Place) :
    (m.put place n).object? (place ++ rest) = m.object? rest ∨
      (m.put place n).object? (place ++ rest) = n.object? (place ++ rest) := by
  induction place generalizing n with
  | nil => exact .inl rfl
  | cons name place ih =>
    cases n with
    | directory entries =>
      rw [put, List.cons_append, object?_directory_cons, object?_directory_cons, lookup_setMember,
        if_pos rfl]
      exact ih
    | _ => exact .inr rfl

theorem object?_put_empty {place : Place} (free : n.get? place = none) (q : Place) :
    (empty.put place n).object? q = n.object? q := by
  by_cases within : place <+: q
  · obtain ⟨rest, rfl⟩ := within
    have nothing : n.object? (place ++ rest) = none := object?_append_of_free free rest
    rcases object?_put_append (n := n) (m := empty) place rest with same | same
    · rw [same, object?_empty, nothing]
    · exact same
  · exact object?_put_of_not_prefix within

theorem object?_put_file {place q : Place} {content : String} (free : ∀ entries,
    n.get? place ≠ some (directory entries)) (apart : q ≠ place) :
    ((file content).put place n).object? q = n.object? q := by
  by_cases within : place <+: q
  · obtain ⟨rest, rfl⟩ := within
    have more : rest ≠ [] := by
      rintro rfl
      exact apart (List.append_nil place)
    have nothing : n.object? (place ++ rest) = none := by
      cases here : n.get? place with
      | none => exact object?_append_of_free here rest
      | some m =>
        rw [object?_append here]
        exact object?_eq_none (fun entries same => free entries (same ▸ here)) more
    rcases object?_put_append (n := n) (m := file content) place rest with same | same
    · rw [same, nothing]
      exact object?_eq_none nofun more
    · exact same
  · exact object?_put_of_not_prefix within

end Node

namespace Disk

def object? (d : Disk) (place : Place) : Option Node := d.root.object? place

/-- Outside the given places every file is the same as before. -/
structure ChangesOnly (places : Place → Prop) (before after : Disk) : Prop where
  working : after.working = before.working
  elsewhere : ∀ place, ¬ places place → after.object? place = before.object? place

namespace ChangesOnly

variable {places others : Place → Prop} {d before after last : Disk}

theorem refl (places : Place → Prop) (d : Disk) : ChangesOnly places d d := ⟨rfl, fun _ _ => rfl⟩

theorem trans (first : ChangesOnly places before after) (second : ChangesOnly places after last) :
    ChangesOnly places before last where
  working := second.working.trans first.working
  elsewhere := fun place outside =>
    (second.elsewhere place outside).trans (first.elsewhere place outside)

theorem mono (changes : ChangesOnly places before after) (within : ∀ p, places p → others p) :
    ChangesOnly others before after where
  working := changes.working
  elsewhere := fun place outside =>
    changes.elsewhere place fun inside => outside (within place inside)

end ChangesOnly

theorem ChangesOnly.destination {places : Place → Prop} {before after : Disk}
    (changes : ChangesOnly places before after) (path : String) :
    after.destination path = before.destination path := by
  rw [Disk.destination, Disk.destination, start, start, changes.working]

theorem changesOnly_makeDirectories (d : Disk) (place : Place) (ps : List String) :
    ChangesOnly (fun _ => False) d (d.makeDirectories place ps).2 := by
  induction ps generalizing d place with
  | nil => exact .refl _ d
  | cons p ps ih =>
    rw [makeDirectories]
    split
    · exact .refl _ d
    · rename_i next _
      split
      · rename_i free
        have made : ChangesOnly (fun _ => False) d (d.put next .empty) :=
          ⟨rfl, fun q _ => Node.object?_put_empty free q⟩
        exact made.trans (ih _ next)
      · exact ih d next
      · exact .refl _ d

theorem changesOnly_createDirectories (d : Disk) (path : String) :
    ChangesOnly (fun _ => False) d (d.createDirectories path).2 := by
  rw [createDirectories]
  split
  · exact .refl _ d
  · split
    · exact .refl _ d
    · exact changesOnly_makeDirectories d _ _

theorem changesOnly_write {d after : Disk} {path content : String}
    (written : d.write path content = .ok after) :
    ChangesOnly (· = d.destination path) d after := by
  obtain ⟨place, leads, put⟩ := bind_eq_ok_iff.mp written
  rw [← eq_destination_of_locate leads]
  split at put
  · cases put
  · rw [← Except.ok.inj put]
    exact .refl _ d
  · rename_i notDirectory _
    rw [← Except.ok.inj put]
    exact ⟨rfl, fun q apart => Node.object?_put_file notDirectory apart⟩

end Disk

end AppScaffold

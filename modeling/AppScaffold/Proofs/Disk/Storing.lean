import AppScaffold.Proofs.Disk.Directories

namespace AppScaffold

namespace Disk

/-- The content of the last file that leads to the place. -/
def lastContent? (d : Disk) (files : List (String × String)) (place : Place) : Option String :=
  (files.reverse.find? fun file => d.destination file.1 == place).map Prod.snd

def Plain (d : Disk) (files : List (String × String)) : Prop :=
  ∀ file ∈ files, ∀ bytes, d.object? (d.destination file.1) ≠ some (.device bytes)

/-- The files have been written one after the other: their paths lead to their places, and there the
last of them is found. -/
structure Stores (files : List (String × String)) (before after : Disk) : Prop where
  keeps : Keeps before after
  leads : ∀ file ∈ files, after.locate file.1 = .ok (before.destination file.1)
  found : ∀ place, after.object? place =
    ((before.lastContent? files place).map Node.file).or (before.object? place)

theorem lastContent?_append (d : Disk) (files more : List (String × String)) (place : Place) :
    d.lastContent? (files ++ more) place =
      (d.lastContent? more place).or (d.lastContent? files place) := by
  rw [lastContent?, List.reverse_append, List.find?_append, Option.map_or]
  rfl

theorem lastContent?_singleton (d : Disk) (path content : String) (place : Place) :
    d.lastContent? [(path, content)] place =
      if d.destination path = place then some content else none := by
  by_cases same : d.destination path = place <;> simp [lastContent?, same]

theorem mem_of_lastContent? {d : Disk} {files : List (String × String)} {place : Place}
    {content : String} (last : d.lastContent? files place = some content) :
    ∃ path, (path, content) ∈ files ∧ d.destination path = place := by
  obtain ⟨⟨path, _⟩, found, rfl⟩ := Option.map_eq_some_iff.mp last
  have there := List.find?_some found
  exact ⟨path, List.mem_reverse.mp (List.mem_of_find?_eq_some found), eq_of_beq there⟩

theorem exists_lastContent? (d : Disk) {files : List (String × String)} {file : String × String}
    (member : file ∈ files) :
    ∃ content, d.lastContent? files (d.destination file.1) = some content := by
  rw [← Option.isSome_iff_exists, lastContent?, Option.isSome_map, List.find?_isSome]
  exact ⟨file, List.mem_reverse.mpr member, beq_self_eq_true _⟩

namespace Stores

variable {files more : List (String × String)} {d before middle after : Disk}

theorem nil (d : Disk) : Stores [] d d := ⟨.refl d, nofun, fun _ => rfl⟩

theorem append (first : Stores files before middle) (second : Stores more middle after) :
    Stores (files ++ more) before after where
  keeps := first.keeps.trans second.keeps
  leads := by
    intro file member
    rcases List.mem_append.mp member with earlier | later
    · exact second.keeps.locate (first.leads file earlier)
    · rw [second.leads file later, first.keeps.destination]
  found := by
    intro place
    have same : middle.lastContent? more place = before.lastContent? more place := by
      simp only [lastContent?, first.keeps.destination]
    rw [second.found, first.found, same, lastContent?_append, Option.map_or, Option.or_assoc]

theorem plain (stores : Stores files before after) (plain : before.Plain more) :
    after.Plain more := by
  intro file member bytes device
  rw [stores.keeps.destination, stores.found] at device
  cases last : before.lastContent? files (before.destination file.1) with
  | none =>
    rw [last] at device
    exact plain file member bytes device
  | some content =>
    rw [last] at device
    cases device

theorem read (stores : Stores files before after) {file : String × String} (member : file ∈ files)
    {content : String}
    (last : before.lastContent? files (before.destination file.1) = some content) :
    after.read file.1 = .ok content := by
  apply read_of_object? (stores.leads file member)
  rw [stores.found, last]
  rfl

/-- Every file is found as it was written if those at one place have one content, and only then. -/
theorem read_iff (stores : Stores files before after) :
    (∀ file ∈ files, after.read file.1 = .ok file.2) ↔
      ∀ f ∈ files, ∀ g ∈ files, before.destination f.1 = before.destination g.1 → f.2 = g.2 := by
  constructor
  · intro reads f member g among same
    obtain ⟨content, last⟩ := before.exists_lastContent? member
    have first := stores.read member last
    have second := stores.read among (same ▸ last)
    rw [reads f member] at first
    rw [reads g among] at second
    exact (Except.ok.inj first).trans (Except.ok.inj second).symm
  · intro agree file member
    obtain ⟨content, last⟩ := before.exists_lastContent? member
    obtain ⟨path, among, same⟩ := mem_of_lastContent? last
    rw [stores.read member last]
    exact congrArg Except.ok (agree _ among _ member same)

end Stores

theorem stores_write {d made after : Disk} {path content : String} (keeps : Keeps d made)
    (changes : ChangesOnly (fun _ => False) d made)
    (plain : d.Plain [(path, content)]) (written : made.write path content = .ok after) :
    Stores [(path, content)] d after where
  keeps := keeps.trans (keeps_write written)
  leads := by
    intro file member
    rw [List.mem_singleton.mp member, ← keeps.destination]
    exact (keeps_write written).locate (locate_of_write written)
  found := by
    intro place
    have before (place : Place) : made.object? place = d.object? place :=
      changes.elsewhere place id
    rw [lastContent?_singleton, ← keeps.destination]
    by_cases here : made.destination path = place
    · subst here
      rw [if_pos rfl, object?_of_write written]
      · rfl
      · rw [keeps.destination]
        intro bytes
        rw [before]
        exact plain _ List.mem_cons_self bytes
    · rw [if_neg here, (changesOnly_write written).elsewhere place (Ne.symm here), before]
      rfl

end Disk

end AppScaffold

import AppScaffold.Proofs.Disk.Changes

/-! The directories of a disk. A path leads somewhere as long as the directories on its way are
there, and none of them is ever lost; so what has been written under a path can be read under it
later. -/

namespace AppScaffold

namespace Node

def HasDirectory (n : Node) (place : Place) : Prop :=
  ∃ entries, n.get? place = some (.directory entries)

variable {n m : Node} {entries : List (String × Node)} {name : String} {place rest q : Place}

theorem hasDirectory_nil : (directory entries).HasDirectory [] := ⟨entries, rfl⟩

theorem hasDirectory_cons : (directory entries).HasDirectory (name :: rest) ↔
    ∃ m, entries.lookup name = some m ∧ m.HasDirectory rest := by
  rw [HasDirectory, get?, entry?]
  cases entries.lookup name <;> simp [HasDirectory]

theorem HasDirectory.eq_directory (there : n.HasDirectory place) :
    ∃ entries, n = directory entries := by
  cases n with
  | directory entries => exact ⟨entries, rfl⟩
  | _ =>
    obtain ⟨entries, found⟩ := there
    cases place <;> cases found

theorem HasDirectory.of_append (there : n.HasDirectory (place ++ rest)) : n.HasDirectory place := by
  obtain ⟨entries, found⟩ := there
  rw [get?_append] at found
  obtain ⟨m, here, inside⟩ := Option.bind_eq_some_iff.mp found
  obtain ⟨others, rfl⟩ := HasDirectory.eq_directory ⟨entries, inside⟩
  exact ⟨others, here⟩

theorem put_append {k : String} :
    m.put (k :: place ++ [name]) (directory entries) =
      directory (Json.setMember k (m.put (place ++ [name]) ((entries.lookup k).getD empty))
        entries) := rfl

theorem get?_directory_setMember {k j : String} :
    (directory (Json.setMember k m entries)).get? (j :: q) =
      if j = k then m.get? q else (directory entries).get? (j :: q) := by
  rw [get?, get?, entry?, entry?, lookup_setMember]
  by_cases same : j = k
  · rw [if_pos same, if_pos same]
  · rw [if_neg same, if_neg same]

theorem get?_put_append (parent : n.HasDirectory place) (rest : Place) :
    (m.put (place ++ [name]) n).get? (place ++ [name] ++ rest) = m.get? rest := by
  induction place generalizing n with
  | nil =>
    obtain ⟨entries, rfl⟩ := parent.eq_directory
    exact get?_directory_setMember.trans (if_pos rfl)
  | cons k place ih =>
    obtain ⟨entries, rfl⟩ := parent.eq_directory
    obtain ⟨inner, found, there⟩ := hasDirectory_cons.mp parent
    rw [put_append, found]
    exact (get?_directory_setMember.trans (if_pos rfl)).trans (ih there)

theorem get?_put (parent : n.HasDirectory place) :
    (m.put (place ++ [name]) n).get? (place ++ [name]) = some m := by
  have whole : (m.put (place ++ [name]) n).get? (place ++ [name] ++ []) = m.get? [] :=
    get?_put_append parent []
  rwa [List.append_nil] at whole

theorem hasDirectory_put_elsewhere (parent : n.HasDirectory place)
    (apart : ¬ place ++ [name] <+: q) :
    (m.put (place ++ [name]) n).HasDirectory q ↔ n.HasDirectory q := by
  induction place generalizing n q with
  | nil =>
    obtain ⟨entries, rfl⟩ := parent.eq_directory
    cases q with
    | nil => exact iff_of_true hasDirectory_nil hasDirectory_nil
    | cons j q =>
      have other : j ≠ name := by
        rintro rfl
        exact apart (List.prefix_append [j] q)
      rw [HasDirectory, HasDirectory, List.nil_append, put, get?_directory_setMember, if_neg other]
  | cons k place ih =>
    obtain ⟨entries, rfl⟩ := parent.eq_directory
    obtain ⟨inner, found, there⟩ := hasDirectory_cons.mp parent
    rw [put_append, found]
    cases q with
    | nil => exact iff_of_true hasDirectory_nil hasDirectory_nil
    | cons j q =>
      rw [HasDirectory, get?_directory_setMember]
      by_cases same : j = k
      · subst same
        have inside : ¬ place ++ [name] <+: q := fun within =>
          apart (List.cons_prefix_cons.mpr ⟨rfl, within⟩)
        rw [if_pos rfl, hasDirectory_cons, found]
        refine (ih there inside).trans ⟨fun within => ⟨inner, rfl, within⟩, ?_⟩
        rintro ⟨other, same, within⟩
        obtain rfl := Option.some.inj same
        exact within
      · rw [if_neg same, HasDirectory]

theorem hasDirectory_put_iff (parent : n.HasDirectory place)
    (free : ¬ n.HasDirectory (place ++ [name])) (leaf : ∀ rest, m.HasDirectory rest → rest = []) :
    (m.put (place ++ [name]) n).HasDirectory q ↔
      n.HasDirectory q ∨ q = place ++ [name] ∧ m.HasDirectory [] := by
  by_cases within : place ++ [name] <+: q
  · obtain ⟨rest, rfl⟩ := within
    have before : ¬ n.HasDirectory (place ++ [name] ++ rest) := fun there => free there.of_append
    rw [or_iff_right before, HasDirectory, get?_put_append parent]
    constructor
    · intro there
      obtain rfl := leaf rest there
      exact ⟨List.append_nil _, there⟩
    · rintro ⟨same, there⟩
      obtain rfl := List.append_right_eq_self.mp same
      exact there
  · rw [hasDirectory_put_elsewhere parent within, or_iff_left]
    rintro ⟨rfl, -⟩
    exact within (List.prefix_refl _)

theorem hasDirectory_empty : empty.HasDirectory rest ↔ rest = [] := by
  cases rest with
  | nil => exact iff_of_true hasDirectory_nil rfl
  | cons name rest => simp [empty, hasDirectory_cons]

theorem not_hasDirectory_file {content : String} : ¬ (file content).HasDirectory rest := by
  intro there
  obtain ⟨entries, same⟩ := there.eq_directory
  cases same

end Node

namespace Disk

open AppScaffold.Path

variable {d : Disk} {place next final : Place} {piece : String}

def HasDirectory (d : Disk) (place : Place) : Prop := d.root.HasDirectory place

theorem hasDirectory_iff : d.HasDirectory place ↔
    ∃ entries, d.node? place = some (.directory entries) := Iff.rfl

/-- Names have their limit everywhere, but it matters to no idle piece and no step up. -/
theorem step_eq_ok_iff : d.step place piece = .ok next ↔
    d.HasDirectory place ∧ piece.utf8ByteSize ≤ maxName ∧ next = follow place piece := by
  rw [step, hasDirectory_iff, follow]
  cases found : d.node? place with
  | none => simp
  | some n =>
    cases n with
    | directory entries =>
      have idle : isIdle piece = true → piece.utf8ByteSize ≤ maxName := by
        intro idle
        simp only [isIdle, Bool.or_eq_true, beq_iff_eq] at idle
        rcases idle with rfl | rfl <;> decide
      have parent : piece = ".." → piece.utf8ByteSize ≤ maxName := by
        rintro rfl
        decide
      simp only [Option.some.injEq, Node.directory.injEq, exists_eq', true_and]
      by_cases first : isIdle piece = true
      · simp [first, idle first, eq_comm]
      · by_cases second : piece = ".."
        · have fits := parent second
          rw [if_neg first, if_pos (beq_iff_eq.mpr second), if_neg first, if_pos second,
            and_iff_right fits, Except.ok.injEq, eq_comm]
        · rw [if_neg first, if_neg (fun same => second (eq_of_beq same)), if_neg first,
            if_neg second]
          split
          · rename_i long
            refine iff_of_false (fun same => ?_) fun fits => absurd fits.1 (Nat.not_le.mpr long)
            cases same
          · rename_i fits
            rw [and_iff_right (Nat.not_lt.mp fits), Except.ok.injEq, eq_comm]
    | _ => simp

/-- A directory is at the place, or around it. -/
def Reaches (d : Disk) (place : Place) : Prop :=
  d.HasDirectory place ∨ ∃ parent name, place = parent ++ [name] ∧ d.HasDirectory parent

theorem reaches_of_step (leads : d.step place piece = .ok next) : d.Reaches next := by
  obtain ⟨there, -, rfl⟩ := step_eq_ok_iff.mp leads
  rw [follow]
  split
  · exact .inl there
  · split
    · obtain ⟨rest, same⟩ := List.dropLast_prefix place
      rw [← same] at there
      exact .inl there.of_append
    · exact .inr ⟨place, piece, rfl, there⟩

theorem reaches_of_locate {path : String} (leads : d.locate path = .ok place) :
    d.Reaches place := by
  obtain ⟨-, -, led⟩ := bind_eq_ok_iff.mp leads
  obtain ⟨front, last, split⟩ :=
    (List.eq_nil_or_concat (pieces path)).resolve_left (pieces_ne_nil path)
  rw [split, List.concat_eq_append, List.foldlM_append] at led
  obtain ⟨parent, -, step⟩ := bind_eq_ok_iff.mp led
  obtain ⟨next, step, same⟩ := bind_eq_ok_iff.mp step
  cases same
  exact reaches_of_step step

structure Keeps (before after : Disk) : Prop where
  working : after.working = before.working
  directories : ∀ place, before.HasDirectory place → after.HasDirectory place

namespace Keeps

variable {before after last : Disk}

theorem refl (d : Disk) : Keeps d d := ⟨rfl, fun _ => id⟩

theorem trans (first : Keeps before after) (second : Keeps after last) : Keeps before last where
  working := second.working.trans first.working
  directories := fun place there => second.directories place (first.directories place there)

theorem step (keeps : Keeps before after) (leads : before.step place piece = .ok next) :
    after.step place piece = .ok next := by
  obtain ⟨there, rest⟩ := step_eq_ok_iff.mp leads
  exact step_eq_ok_iff.mpr ⟨keeps.directories place there, rest⟩

theorem foldlM_step {ps : List String} (keeps : Keeps before after)
    (leads : ps.foldlM before.step place = .ok final) :
    ps.foldlM after.step place = .ok final := by
  induction ps generalizing place with
  | nil => exact leads
  | cons p ps ih =>
    obtain ⟨next, step, rest⟩ := bind_eq_ok_iff.mp leads
    exact bind_eq_ok_iff.mpr ⟨next, keeps.step step, ih rest⟩

theorem start (keeps : Keeps before after) (path : String) :
    after.start path = before.start path := by
  rw [Disk.start, Disk.start, keeps.working]

theorem destination (keeps : Keeps before after) (path : String) :
    after.destination path = before.destination path := by
  rw [Disk.destination, Disk.destination, keeps.start]

theorem locate {path : String} (keeps : Keeps before after)
    (leads : before.locate path = .ok place) : after.locate path = .ok place := by
  obtain ⟨sound, checked, led⟩ := bind_eq_ok_iff.mp leads
  refine bind_eq_ok_iff.mpr ⟨sound, checked, ?_⟩
  rw [keeps.start]
  exact keeps.foldlM_step led

end Keeps

theorem keeps_put {m : Node} {name : String} (parent : d.HasDirectory place)
    (free : ¬ d.HasDirectory (place ++ [name])) (leaf : ∀ rest, m.HasDirectory rest → rest = []) :
    Keeps d (d.put (place ++ [name]) m) :=
  ⟨rfl, fun _ there => (Node.hasDirectory_put_iff parent free leaf).mpr (.inl there)⟩

theorem not_hasDirectory_of_node? (free : ∀ entries, d.node? place ≠ some (.directory entries)) :
    ¬ d.HasDirectory place := fun ⟨entries, found⟩ => free entries found

theorem keeps_makeDirectories (d : Disk) (place : Place) (ps : List String) :
    Keeps d (d.makeDirectories place ps).2 := by
  induction ps generalizing d place with
  | nil => exact .refl d
  | cons p ps ih =>
    rw [makeDirectories]
    split
    · exact .refl d
    · rename_i next leads
      split
      · rename_i nothing
        have free : ¬ d.HasDirectory next := not_hasDirectory_of_node? (by simp [nothing])
        obtain ⟨parent, name, rfl, there⟩ := (reaches_of_step leads).resolve_left free
        have leaf : ∀ rest, Node.empty.HasDirectory rest → rest = [] := fun rest =>
          Node.hasDirectory_empty.mp
        exact (keeps_put there free leaf).trans (ih _ _)
      · exact ih d next
      · exact .refl d

theorem keeps_createDirectories (d : Disk) (path : String) :
    Keeps d (d.createDirectories path).2 := by
  rw [createDirectories]
  split
  · exact .refl d
  · split
    · exact .refl d
    · exact keeps_makeDirectories d _ _

theorem keeps_of_createDirectories {made : Disk} {path : String} {result : Except DiskError Unit}
    (creates : d.createDirectories path = (result, made)) : Keeps d made := by
  have keeps := keeps_createDirectories d path
  rwa [creates] at keeps

section Write

variable {after : Disk} {path content : String}

theorem locate_of_write (written : d.write path content = .ok after) :
    d.locate path = .ok (d.destination path) := by
  obtain ⟨place, leads, -⟩ := bind_eq_ok_iff.mp written
  rw [leads, eq_destination_of_locate leads]

theorem write_cases (written : d.write path content = .ok after) :
    (∃ bytes, d.object? (d.destination path) = some (.device bytes) ∧ after = d) ∨
      (∃ parent name, d.destination path = parent ++ [name] ∧ d.HasDirectory parent ∧
        ¬ d.HasDirectory (parent ++ [name]) ∧
        after = d.put (parent ++ [name]) (.file content)) := by
  obtain ⟨place, leads, put⟩ := bind_eq_ok_iff.mp written
  have reaches := reaches_of_locate leads
  obtain rfl := eq_destination_of_locate leads
  split at put
  · cases put
  · rename_i bytes found
    refine .inl ⟨bytes, ?_, (Except.ok.inj put).symm⟩
    rw [object?, Node.object?]
    exact congrArg (Option.filter _) found
  · rename_i notDirectory _
    have free := not_hasDirectory_of_node? notDirectory
    obtain ⟨parent, name, same, there⟩ := reaches.resolve_left free
    rw [same] at free put
    exact .inr ⟨parent, name, same, there, free, (Except.ok.inj put).symm⟩

theorem keeps_write (written : d.write path content = .ok after) : Keeps d after := by
  rcases write_cases written with ⟨bytes, -, rfl⟩ | ⟨parent, name, -, there, free, rfl⟩
  · exact .refl after
  · exact keeps_put there free fun rest inside => absurd inside Node.not_hasDirectory_file

/-- What is written is at the place of its path, if no device is there. -/
theorem object?_of_write (written : d.write path content = .ok after)
    (plain : ∀ bytes, d.object? (d.destination path) ≠ some (.device bytes)) :
    after.object? (d.destination path) = some (.file content) := by
  rcases write_cases written with ⟨bytes, device, -⟩ | ⟨parent, name, same, there, -, rfl⟩
  · exact absurd device (plain bytes)
  · have found : (d.put (parent ++ [name]) (.file content)).node? (parent ++ [name]) =
        some (.file content) :=
      Node.get?_put there
    rw [same]
    exact congrArg (Option.filter _) found

theorem read_of_object? (leads : d.locate path = .ok place)
    (found : d.object? place = some (.file content)) : d.read path = .ok content := by
  obtain ⟨here, -⟩ := Option.filter_eq_some_iff.mp found
  have node : d.node? place = some (.file content) := here
  refine bind_eq_ok_iff.mpr ⟨place, leads, ?_⟩
  rw [node]

end Write

end Disk

end AppScaffold

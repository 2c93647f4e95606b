import AppScaffold.Proofs.Disk.Directories

namespace AppScaffold

namespace Disk

open AppScaffold.Path

variable {d made : Disk} {place next middle : Place} {piece : String} {ps qs : List String}

theorem makeDirectories_of_step (step : d.step place piece = .ok next)
    (there : d.HasDirectory next) (ps : List String) :
    d.makeDirectories place (piece :: ps) = d.makeDirectories next ps := by
  obtain ⟨entries, found⟩ := there
  have node : d.node? next = some (.directory entries) := found
  rw [makeDirectories, step]
  dsimp only
  rw [node]

theorem makeDirectories_of_free (step : d.step place piece = .ok next)
    (free : d.node? next = none) (ps : List String) :
    d.makeDirectories place (piece :: ps) = (d.put next .empty).makeDirectories next ps := by
  rw [makeDirectories, step]
  dsimp only
  rw [free]

theorem makeDirectories_cons (makes : d.makeDirectories place (piece :: ps) = (.ok (), made)) :
    ∃ next first, d.step place piece = .ok next ∧ first.HasDirectory next ∧
      (d.HasDirectory next → first = d) ∧
      ∀ qs, d.makeDirectories place (piece :: qs) = first.makeDirectories next qs := by
  rw [makeDirectories] at makes
  split at makes
  · cases makes
  · rename_i next step
    split at makes
    · rename_i nothing
      have free : ¬ d.HasDirectory next := not_hasDirectory_of_node? (by simp [nothing])
      have all := makeDirectories_of_free step nothing
      obtain ⟨parent, name, rfl, around⟩ := (reaches_of_step step).resolve_left free
      exact ⟨_, _, step, ⟨[], Node.get?_put around⟩, fun there => absurd there free, all⟩
    · rename_i entries found
      have there : d.HasDirectory next := ⟨entries, found⟩
      exact ⟨next, d, step, there, fun _ => rfl, makeDirectories_of_step step there⟩
    · cases makes

theorem hasDirectory_of_makeDirectories (makes : d.makeDirectories place ps = (.ok (), made))
    (some : ps ≠ []) : d.HasDirectory place := by
  cases ps with
  | nil => exact absurd rfl some
  | cons p ps =>
    obtain ⟨next, first, step, -⟩ := makeDirectories_cons makes
    exact (step_eq_ok_iff.mp step).1

theorem foldlM_of_makeDirectories (makes : d.makeDirectories place ps = (.ok (), made))
    (there : d.HasDirectory place) :
    ∃ middle, ps.foldlM made.step place = .ok middle ∧ made.HasDirectory middle := by
  induction ps generalizing d place with
  | nil =>
    cases makes
    exact ⟨place, rfl, there⟩
  | cons p ps ih =>
    have keeps := keeps_makeDirectories d place (p :: ps)
    rw [makes] at keeps
    obtain ⟨next, first, step, here, -, all⟩ := makeDirectories_cons makes
    rw [all] at makes
    obtain ⟨middle, leads, inside⟩ := ih makes here
    exact ⟨middle, bind_eq_ok_iff.mpr ⟨next, keeps.step step, leads⟩, inside⟩

theorem makeDirectories_of_append_idle (idle : ∀ q ∈ qs, isIdle q = true)
    (makes : d.makeDirectories place (ps ++ qs) = (.ok (), made)) :
    d.makeDirectories place ps = (.ok (), made) := by
  induction ps generalizing d place with
  | nil =>
    induction qs generalizing d place with
    | nil => exact makes
    | cons q qs ih =>
      rw [List.forall_mem_cons] at idle
      obtain ⟨next, first, step, -, same, all⟩ := makeDirectories_cons makes
      obtain ⟨there, -, rfl⟩ := step_eq_ok_iff.mp step
      have stays : follow place q = place := by rw [follow, if_pos idle.1]
      rw [stays] at same all
      rw [List.nil_append, all, same there] at makes
      exact ih idle.2 makes
  | cons p ps ih =>
    obtain ⟨next, first, -, -, -, all⟩ := makeDirectories_cons makes
    rw [List.cons_append, all] at makes
    rw [all]
    exact ih makes

theorem hasDirectory_of_foldlM (leads : ps.foldlM d.step place = .ok middle)
    (there : d.HasDirectory middle) : d.HasDirectory place := by
  cases ps with
  | nil =>
    cases leads
    exact there
  | cons p ps =>
    obtain ⟨next, step, -⟩ := bind_eq_ok_iff.mp leads
    exact (step_eq_ok_iff.mp step).1

/-- On the way to a directory nothing is made. -/
theorem makeDirectories_append (leads : ps.foldlM d.step place = .ok middle)
    (there : d.HasDirectory middle) :
    d.makeDirectories place (ps ++ qs) = d.makeDirectories middle qs := by
  induction ps generalizing place with
  | nil =>
    cases leads
    rfl
  | cons p ps ih =>
    obtain ⟨next, step, rest⟩ := bind_eq_ok_iff.mp leads
    rw [List.cons_append, makeDirectories_of_step step (hasDirectory_of_foldlM rest there)]
    exact ih rest

/-- A name that may be made: it stays, goes down, and is not too long. -/
structure Fits (name : String) : Prop where
  some : isIdle name = false
  child : name ≠ ".."
  short : name.utf8ByteSize ≤ maxName

theorem step_of_fits {name : String} (there : d.HasDirectory place) (fits : Fits name) :
    d.step place name = .ok (place ++ [name]) := by
  refine step_eq_ok_iff.mpr ⟨there, fits.short, ?_⟩
  rw [follow, if_neg (by simp [fits.some]), if_neg fits.child]

theorem foldlM_step_names {front : List String} {name : String}
    (there : d.HasDirectory (place ++ front)) (fits : ∀ n ∈ front ++ [name], Fits n) :
    (front ++ [name]).foldlM d.step place = .ok (place ++ (front ++ [name])) := by
  induction front generalizing place with
  | nil =>
    rw [List.append_nil] at there
    have step := step_of_fits there (fits name (List.mem_singleton_self name))
    exact bind_eq_ok_iff.mpr ⟨_, step, rfl⟩
  | cons n front ih =>
    rw [List.cons_append, List.forall_mem_cons] at fits
    have deeper : d.HasDirectory (place ++ [n] ++ front) := by simpa using there
    have rest := ih deeper fits.2
    refine bind_eq_ok_iff.mpr ⟨_, step_of_fits there.of_append fits.1, ?_⟩
    simpa using rest

theorem makeDirectories_names {names : List String} (there : d.HasDirectory place)
    (fits : ∀ n ∈ names, Fits n)
    (clear : ∀ q, q <+: names → d.object? (place ++ q) = none) :
    ∃ made, d.makeDirectories place names = (.ok (), made) ∧
      made.HasDirectory (place ++ names) ∧
      ∀ q, made.HasDirectory q →
        d.HasDirectory q ∨ ∃ r, r <+: names ∧ r ≠ [] ∧ q = place ++ r := by
  induction names generalizing d place with
  | nil => exact ⟨d, rfl, by rwa [List.append_nil], fun q inside => .inl inside⟩
  | cons n names ih =>
    rw [List.forall_mem_cons] at fits
    have first : [n] <+: n :: names := ⟨names, rfl⟩
    have inside (q : List String) : place ++ [n] ++ q = place ++ n :: q := by simp
    have free : ∀ q, q <+: names → d.object? (place ++ [n] ++ q) = none := fun q within =>
      inside q ▸ clear (n :: q) (List.cons_prefix_cons.mpr ⟨rfl, within⟩)
    have deeper {q : Place} : (∃ r, r <+: names ∧ r ≠ [] ∧ q = place ++ [n] ++ r) →
        ∃ r, r <+: n :: names ∧ r ≠ [] ∧ q = place ++ r := by
      rintro ⟨r, within, -, rfl⟩
      exact ⟨n :: r, List.cons_prefix_cons.mpr ⟨rfl, within⟩, List.cons_ne_nil _ _, inside r⟩
    have step := step_of_fits there fits.1
    -- The name is free or leads into a directory, as no object is on the way.
    cases found : d.node? (place ++ [n]) with
    | none =>
      have apart : ¬ d.HasDirectory (place ++ [n]) := not_hasDirectory_of_node? (by simp [found])
      have leaf : ∀ rest, Node.empty.HasDirectory rest → rest = [] := fun rest =>
        Node.hasDirectory_empty.mp
      obtain ⟨made, makes, there', only⟩ := ih (d := d.put (place ++ [n]) .empty)
        ⟨[], Node.get?_put there⟩ fits.2
        fun q within => (Node.object?_put_empty found _).trans (free q within)
      rw [makeDirectories_of_free step found]
      refine ⟨made, makes, inside names ▸ there', fun q inner => ?_⟩
      rcases only q inner with before | below
      · rcases (Node.hasDirectory_put_iff there apart leaf).mp before with old | ⟨rfl, -⟩
        · exact .inl old
        · exact .inr ⟨[n], first, List.cons_ne_nil _ _, rfl⟩
      · exact .inr (deeper below)
    | some m =>
      cases m with
      | directory entries =>
        obtain ⟨made, makes, there', only⟩ := ih ⟨entries, found⟩ fits.2 free
        rw [makeDirectories_of_step step ⟨entries, found⟩]
        exact ⟨made, makes, inside names ▸ there', fun q inner => (only q inner).imp_right deeper⟩
      | _ =>
        have nothing := clear [n] first
        rw [object?, Node.object?, ← node?, found] at nothing
        cases nothing

section Directory

variable {path name : String} {base front init : List String}

theorem checkPath_eq_ok_iff : checkPath path = .ok () ↔
    '\x00' ∉ path.toList ∧ path ≠ "" ∧ path.utf8ByteSize ≤ maxPath := by
  rw [checkPath]
  split
  · rename_i null
    exact iff_of_false nofun fun sound => sound.1 (List.contains_iff_mem.mp null)
  · rename_i sound
    rw [and_iff_right (fun null => sound (List.contains_iff_mem.mpr null))]
    split
    · rename_i empty
      exact iff_of_false nofun fun some => some.1 (String.isEmpty_iff.mp empty)
    · rename_i some
      rw [and_iff_right (fun empty => some (String.isEmpty_iff.mpr empty))]
      split
      · rename_i long
        exact iff_of_false nofun (Nat.not_le.mpr long)
      · rename_i short
        exact iff_of_true rfl (Nat.not_lt.mp short)

theorem checkPath_of_append {a b : String} (some : a ≠ "")
    (checked : checkPath (a ++ b) = .ok ()) : checkPath a = .ok () := by
  rw [checkPath_eq_ok_iff, String.toList_append, List.mem_append, String.utf8ByteSize_append]
    at checked
  rw [checkPath_eq_ok_iff]
  exact ⟨fun null => checked.1 (.inl null), some, by omega⟩

theorem makeDirectories_root : d.makeDirectories [] ["", ""] = d.makeDirectories [] [""] := by
  cases step : d.step [] "" with
  | error e => rw [makeDirectories, makeDirectories, step]
  | ok next =>
    obtain ⟨there, -, rfl⟩ := step_eq_ok_iff.mp step
    exact makeDirectories_of_step step there [""]

theorem createDirectories_directory (checked : checkPath path = .ok ())
    (split : pieces path = init ++ [name]) (some : isIdle name = false) :
    d.createDirectories (directory path) = d.makeDirectories (d.start path) (trim init) := by
  obtain ⟨idles, tail, -⟩ := exists_trim init
  generalize kept : trim init = ps at tail
  rw [directory_eq split some, kept]
  by_cases none : ps = []
  · subst none
    rfl
  have whole : pieces path = ps ++ (idles ++ [name]) := by rw [split, tail, List.append_assoc]
  have text : path = "/".intercalate ps ++ ("/" ++ "/".intercalate (idles ++ [name])) := by
    rw [← intercalate_pieces path, whole, String.intercalate_append_of_ne_nil none (by simp),
      String.append_assoc]
  by_cases root : ps = [""]
  · subst root
    have start : d.start path = [] := by
      have nothing : "/".intercalate [""] = "" := rfl
      rw [text, nothing, Disk.start, if_pos (by simp)]
    rw [if_pos rfl, start]
    exact makeDirectories_root
  · have own : pieces ("/".intercalate ps) = ps :=
      pieces_intercalate none fun p member =>
        slash_not_mem_pieces (whole ▸ List.mem_append_left _ member)
    have filled : "/".intercalate ps ≠ "" := by
      intro empty
      rw [empty] at own
      exact root own.symm
    have sound : checkPath ("/".intercalate ps) = .ok () :=
      checkPath_of_append filled (text ▸ checked)
    rw [if_neg root, createDirectories, if_neg (by simpa [String.isEmpty_iff] using filled), sound,
      own, text, start_append filled]

/-- Behind a directory that is there it is the names below it that are made. -/
theorem makeDirectories_trim (leads : base.foldlM d.step place = .ok middle)
    (there : d.HasDirectory middle) (fits : ∀ n ∈ front, Fits n) :
    d.makeDirectories place (trim (base ++ front)) = d.makeDirectories middle front := by
  rcases List.eq_nil_or_concat front with rfl | ⟨front, name, rfl⟩
  · obtain ⟨idles, split, -⟩ := exists_trim base
    rw [split, List.foldlM_append] at leads
    obtain ⟨last, first, rest⟩ := bind_eq_ok_iff.mp leads
    have same : d.makeDirectories place (trim base ++ []) = d.makeDirectories last [] :=
      makeDirectories_append first (hasDirectory_of_foldlM rest there)
    rw [List.append_nil] at same
    rw [List.append_nil, same]
    rfl
  · rw [List.concat_eq_append] at fits ⊢
    have name := (fits name (by simp)).some
    rw [← List.append_assoc, trim_concat name, List.append_assoc]
    exact makeDirectories_append leads there

theorem makeDirectories_of_createDirectories (some : path ≠ "")
    (creates : d.createDirectories path = (.ok (), made)) :
    d.makeDirectories (d.start path) (pieces path) = (.ok (), made) := by
  rw [createDirectories, if_neg (by simpa [String.isEmpty_iff] using some)] at creates
  split at creates
  · cases creates
  · exact creates

end Directory

end Disk

end AppScaffold

import AppScaffold.Proofs.Disk.Making

/-! A directory that is filled file by file. As long as no file stands where another one has to go
through, every write below a directory that was empty succeeds. -/

namespace AppScaffold.Disk

open AppScaffold.Path

variable {d made : Disk} {place : Place} {known written : List Place} {front : List String}
  {name : String}

def Vacant (d : Disk) (place : Place) : Prop :=
  d.node? place = none ∨ d.node? place = some .empty

theorem Vacant.object?_eq_none (vacant : d.Vacant place) (q : Place) :
    d.object? (place ++ q) = none := by
  rcases vacant with free | empty
  · exact Node.object?_append_of_free free q
  · exact (Node.object?_append empty q).trans (Node.object?_empty q)

theorem node?_eq_none (free : ¬ d.HasDirectory place) (nothing : d.object? place = none) :
    d.node? place = none := by
  cases found : d.node? place with
  | none => rfl
  | some m =>
    rw [object?, Node.object?, ← node?, found] at nothing
    cases m with
    | directory entries => exact absurd ⟨entries, found⟩ free
    | _ => cases nothing

/-- Below the directory at a place there are only directories around the known places, and files at
the written ones. -/
structure Holds (d : Disk) (place : Place) (known written : List Place) : Prop where
  there : d.HasDirectory place
  directories : ∀ q, q ≠ [] → d.HasDirectory (place ++ q) → ∃ w ∈ known, q <+: w ∧ q ≠ w
  objects : ∀ q, d.object? (place ++ q) ≠ none → q ∈ written

theorem holds_nil (empty : d.node? place = some .empty) : Holds d place [] [] where
  there := ⟨[], empty⟩
  directories := by
    rintro q more ⟨entries, found⟩
    have within : d.root.get? place = some .empty := empty
    rw [Node.get?_append, within] at found
    exact absurd (Node.hasDirectory_empty.mp ⟨entries, found⟩) more
  objects := fun q some => absurd (Vacant.object?_eq_none (.inr empty) q) some

theorem Holds.makeDirectories (holds : Holds d place known written) (name : String)
    (fits : ∀ n ∈ front, Fits n) (clear : ∀ w ∈ written, ¬ w <+: front) :
    ∃ made, d.makeDirectories place front = (.ok (), made) ∧
      made.HasDirectory (place ++ front) ∧
      Holds made place ((front ++ [name]) :: known) written := by
  have free : ∀ q, q <+: front → d.object? (place ++ q) = none := by
    intro q within
    by_contra some
    exact clear q (holds.objects q some) within
  obtain ⟨made, makes, inside, only⟩ := makeDirectories_names holds.there fits free
  have keeps := keeps_makeDirectories d place front
  have changes := changesOnly_makeDirectories d place front
  rw [makes] at keeps changes
  refine ⟨made, makes, inside, keeps.directories place holds.there, ?_, ?_⟩
  · intro q more there
    rcases only _ there with before | ⟨r, within, -, same⟩
    · obtain ⟨w, member, around⟩ := holds.directories q more before
      exact ⟨w, List.mem_cons_of_mem _ member, around⟩
    · obtain rfl := List.append_cancel_left same
      have around : q <+: front ++ [name] := within.trans (List.prefix_append front [name])
      refine ⟨_, List.mem_cons_self, around, ?_⟩
      rintro rfl
      exact absurd within.length_le (by simp)
  · intro q some
    rw [changes.elsewhere _ id] at some
    exact holds.objects q some

theorem Holds.write {path : String} (holds : Holds d place known written) (content : String)
    (leads : d.locate path = .ok (place ++ (front ++ [name])))
    (inside : d.HasDirectory (place ++ front)) (new : front ++ [name] ∉ written)
    (apart : ∀ w ∈ known, front ++ [name] <+: w → front ++ [name] = w) :
    ∃ after, d.write path content = .ok after ∧
      Holds after place known ((front ++ [name]) :: written) := by
  have split : place ++ (front ++ [name]) = place ++ front ++ [name] := by simp
  have free : ¬ d.HasDirectory (place ++ (front ++ [name])) := by
    intro there
    obtain ⟨w, member, within, other⟩ := holds.directories _ (by simp) there
    exact other (apart w member within)
  have nothing : d.object? (place ++ (front ++ [name])) = none := by
    by_contra some
    exact new (holds.objects _ some)
  have puts : d.write path content =
      .ok (d.put (place ++ (front ++ [name])) (.file content)) := by
    refine bind_eq_ok_iff.mpr ⟨_, leads, ?_⟩
    rw [node?_eq_none free nothing]
  refine ⟨_, puts, ?_, ?_, ?_⟩
  · exact (keeps_write puts).directories place holds.there
  · intro q more there
    rw [split] at free there
    have leaf : ∀ rest, (Node.file content).HasDirectory rest → rest = [] :=
      fun rest inner => absurd inner Node.not_hasDirectory_file
    rcases (Node.hasDirectory_put_iff inside free leaf).mp there with before | ⟨-, itself⟩
    · exact holds.directories q more before
    · exact absurd itself Node.not_hasDirectory_file
  · intro q some
    by_cases here : q = front ++ [name]
    · exact here ▸ List.mem_cons_self
    · have elsewhere : place ++ q ≠ d.destination path := by
        rw [← eq_destination_of_locate leads]
        exact fun same => here (List.append_cancel_left same)
      rw [(changesOnly_write puts).elsewhere _ elsewhere] at some
      exact List.mem_cons_of_mem _ (holds.objects q some)

def Beside (v w : Place) : Prop := ¬ v <+: w ∧ ¬ w <+: v

theorem Holds.store {path : String} {base : List String} {w : Place}
    (holds : Holds d place written written) (content : String) (checked : checkPath path = .ok ())
    (split : pieces path = base ++ w) (leads : base.foldlM d.step (d.start path) = .ok place)
    (more : w ≠ []) (fits : ∀ n ∈ w, Fits n)
    (apart : ∀ v ∈ written, Beside v w) :
    ∃ made after, d.createDirectories (directory path) = (.ok (), made) ∧
      made.write path content = .ok after ∧ Keeps d after ∧
      Holds after place (w :: written) (w :: written) := by
  obtain ⟨front, name, rfl⟩ := (List.eq_nil_or_concat w).resolve_left more
  rw [List.concat_eq_append] at *
  have fitsFront : ∀ n ∈ front, Fits n := fun n member => fits n (List.mem_append_left _ member)
  have named : isIdle name = false := (fits name (by simp)).some
  have clear : ∀ v ∈ written, ¬ v <+: front := fun v member within =>
    (apart v member).1 (within.trans (List.prefix_append front [name]))
  obtain ⟨made, makes, inside, before⟩ := holds.makeDirectories name fitsFront clear
  have creates : d.createDirectories (directory path) = (.ok (), made) := by
    rw [createDirectories_directory checked (by rw [split, List.append_assoc]) named,
      makeDirectories_trim leads holds.there fitsFront, makes]
  have keeps := keeps_of_createDirectories creates
  have led : made.locate path = .ok (place ++ (front ++ [name])) := by
    refine bind_eq_ok_iff.mpr ⟨(), checked, ?_⟩
    rw [split, keeps.start, List.foldlM_append, keeps.foldlM_step leads]
    exact foldlM_step_names inside fits
  have new : front ++ [name] ∉ written := fun member =>
    (apart _ member).1 (List.prefix_refl _)
  have known : ∀ v ∈ (front ++ [name]) :: written, front ++ [name] <+: v → front ++ [name] = v := by
    rw [List.forall_mem_cons]
    exact ⟨fun _ => rfl, fun v member within => absurd within (apart v member).2⟩
  obtain ⟨after, writes, last⟩ := before.write content led inside new known
  exact ⟨made, after, creates, writes, keeps.trans (keeps_write writes), last⟩

/-- The directory that paths are joined to is there, and holds the written files only. -/
structure Filled (base : List String) (out : String) (d : Disk) (written : List Place) : Prop where
  leads : base.foldlM d.step (d.start (join out ".")) = .ok (d.destination out)
  holds : Holds d (d.destination out) written written

/-- A file may be put below the directory under the path. -/
structure Accepts (out path : String) : Prop where
  stays : leaves path = false
  plain : names path = pieces path
  checked : checkPath (join out path) = .ok ()
  short : ∀ name ∈ pieces path, name.utf8ByteSize ≤ maxName

theorem Accepts.fits {out path : String} (accepts : Accepts out path) :
    ∀ n ∈ names path, Fits n := by
  intro n member
  have among : n ∈ pieces path := accepts.plain ▸ member
  refine ⟨by simpa using (List.mem_filter.mp member).2, ?_, accepts.short n among⟩
  rintro rfl
  exact parent_not_mem_pieces accepts.stays among

theorem Filled.store {base : List String} {out path : String} (filled : Filled base out d written)
    (precedes : Precedes base out) (accepts : Accepts out path)
    (apart : ∀ v ∈ written, Beside v (names path)) (content : String) :
    ∃ made after, d.createDirectories (directory (join out path)) = (.ok (), made) ∧
      made.write (join out path) content = .ok after ∧
      Filled base out after (names path :: written) := by
  have inner := head?_ne_slash_of_stays accepts.stays
  have split : pieces (join out path) = base ++ names path := by
    rw [precedes.pieces path inner, accepts.plain]
  have leads : base.foldlM d.step (d.start (join out path)) = .ok (d.destination out) := by
    rw [precedes.start d path inner]
    exact filled.leads
  have more : names path ≠ [] := accepts.plain ▸ pieces_ne_nil path
  obtain ⟨made, after, creates, writes, keeps, holds⟩ :=
    filled.holds.store content accepts.checked split leads more accepts.fits apart
  refine ⟨made, after, creates, writes, ?_, ?_⟩
  · rw [keeps.start, keeps.destination]
    exact keeps.foldlM_step filled.leads
  · rw [keeps.destination]
    exact holds

/-- There is room for the files: their directory can be made and is empty then, and no path is wrong
as a text. -/
structure Takes (d : Disk) (out : String) (paths : List String) : Prop where
  directory : ∃ made, d.createDirectories (join out ".") = (.ok (), made) ∧
    made.node? (d.destination out) = some .empty
  checked : ∀ path ∈ paths, checkPath (join out path) = .ok ()
  short : ∀ path ∈ paths, ∀ name ∈ pieces path, name.utf8ByteSize ≤ maxName

section Root

variable {base : List String} {out : String}

theorem makeDirectories_dot (precedes : Precedes base out)
    (creates : d.createDirectories (join out ".") = (.ok (), made)) :
    d.makeDirectories (d.start (join out ".")) (base ++ ["."]) = (.ok (), made) := by
  have dot : pieces (join out ".") = base ++ ["."] := precedes.pieces "." (by decide)
  have some : join out "." ≠ "" := by
    intro nothing
    have last := congrArg List.getLast? dot
    rw [nothing, List.getLast?_concat] at last
    exact absurd last (by decide)
  rw [← dot]
  exact makeDirectories_of_createDirectories some creates

theorem makeDirectories_base (precedes : Precedes base out)
    (creates : d.createDirectories (join out ".") = (.ok (), made)) :
    d.makeDirectories (d.start (join out ".")) (trim base) = (.ok (), made) := by
  have makes := makeDirectories_dot precedes creates
  obtain ⟨idles, tail, idle⟩ := exists_trim base
  rw [tail, List.append_assoc] at makes
  refine makeDirectories_of_append_idle (fun q member => ?_) makes
  rcases List.mem_append.mp member with among | last
  · exact idle q among
  · rw [List.mem_singleton.mp last]
    decide

theorem leads_of_createDirectories (precedes : Precedes base out)
    (creates : d.createDirectories (join out ".") = (.ok (), made)) :
    base.foldlM made.step (d.start (join out ".")) = .ok (d.destination out) := by
  have makes := makeDirectories_dot precedes creates
  obtain ⟨final, leads, -⟩ := foldlM_of_makeDirectories makes
    (hasDirectory_of_makeDirectories makes (by simp))
  rw [List.foldlM_append] at leads
  obtain ⟨place, led, -⟩ := bind_eq_ok_iff.mp leads
  obtain rfl : place = d.destination out :=
    (eq_foldl_follow led).trans (precedes.destination d)
  exact led

theorem filled_of_createDirectories {name : String} (precedes : Precedes base out)
    (accepts : Accepts out name) (single : pieces name = [name])
    (creates : d.createDirectories (join out ".") = (.ok (), made))
    (empty : made.node? (d.destination out) = some .empty) :
    Filled base out made [] ∧
      d.createDirectories (directory (join out name)) = (.ok (), made) ∧
      made.createDirectories (directory (join out name)) = (.ok (), made) := by
  have inner := head?_ne_slash_of_stays accepts.stays
  have named : isIdle name = false := by
    have member : name ∈ names name := by rw [accepts.plain, single]; exact List.mem_cons_self
    exact (accepts.fits name member).some
  have split : pieces (join out name) = base ++ [name] := by
    rw [precedes.pieces name inner, single]
  have keeps := keeps_of_createDirectories creates
  have leads := leads_of_createDirectories precedes creates
  have there : made.HasDirectory (d.destination out) := ⟨[], empty⟩
  refine ⟨⟨?_, ?_⟩, ?_, ?_⟩
  · rw [keeps.start, keeps.destination]
    exact leads
  · rw [keeps.destination]
    exact holds_nil empty
  · rw [createDirectories_directory accepts.checked split named, precedes.start d name inner]
    exact makeDirectories_base precedes creates
  · have same : made.makeDirectories (d.start (join out ".")) (trim (base ++ [])) =
        (.ok (), made) :=
      makeDirectories_trim leads there nofun
    rw [List.append_nil] at same
    rw [createDirectories_directory accepts.checked split named, precedes.start made name inner,
      keeps.start, same]

end Root

end AppScaffold.Disk

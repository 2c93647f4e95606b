import AppScaffold.Disk.Basic
import AppScaffold.Proofs.Disk.Path
import AppScaffold.Proofs.Except

/-! Where paths lead. A disk has no links, so that the text of a path and the working directory say
where it leads if it leads anywhere; a path that stays, joined to a directory, leads below it. -/

namespace AppScaffold.Disk

open AppScaffold.Path

def follow (place : Place) (piece : String) : Place :=
  if isIdle piece then place else if piece = ".." then place.dropLast else place ++ [piece]

/-- Where a path leads if it leads anywhere. -/
def destination (d : Disk) (path : String) : Place := (pieces path).foldl follow (d.start path)

variable {d : Disk}

theorem eq_follow_of_step {place next : Place} {piece : String}
    (leads : d.step place piece = .ok next) : next = follow place piece := by
  rw [step] at leads
  rw [follow]
  split at leads
  · cases leads
  · split at leads
    · rename_i idle
      rw [if_pos idle]
      exact (Except.ok.inj leads).symm
    · rename_i name
      rw [if_neg name]
      split at leads
      · rename_i parent
        rw [if_pos (eq_of_beq parent)]
        exact (Except.ok.inj leads).symm
      · rename_i child
        rw [if_neg (fun same => child (beq_iff_eq.mpr same))]
        split at leads
        · cases leads
        · exact (Except.ok.inj leads).symm
  · cases leads

theorem eq_foldl_follow {place final : Place} {ps : List String}
    (leads : ps.foldlM d.step place = .ok final) : final = ps.foldl follow place := by
  induction ps generalizing place with
  | nil => exact (Except.ok.inj leads).symm
  | cons p ps ih =>
    obtain ⟨next, step, rest⟩ := bind_eq_ok_iff.mp leads
    rw [List.foldl_cons, ← eq_follow_of_step step]
    exact ih rest

theorem eq_destination_of_locate {path : String} {place : Place}
    (leads : d.locate path = .ok place) : place = d.destination path := by
  obtain ⟨-, -, led⟩ := bind_eq_ok_iff.mp leads
  exact eq_foldl_follow led

theorem foldl_follow {ps : List String} (below : ".." ∉ ps) (place : Place) :
    ps.foldl follow place = place ++ ps.filter (!isIdle ·) := by
  induction ps generalizing place with
  | nil => simp
  | cons p ps ih =>
    rw [List.mem_cons, not_or] at below
    have child : p ≠ ".." := fun same => below.1 same.symm
    rw [List.foldl_cons, ih below.2, follow]
    cases idle : isIdle p <;> simp [idle, child]

theorem start_append {a : String} (some : a ≠ "") (b : String) : d.start (a ++ b) = d.start a := by
  rw [start, start, String.toList_append]
  cases chars : a.toList with
  | nil => exact absurd (String.toList_eq_nil_iff.mp chars) some
  | cons c cs => rfl

theorem pieces_append_slash (a : String) : pieces (a ++ "/") = pieces a ++ [""] := by
  have split := pieces_append a ""
  rwa [String.append_empty] at split

theorem destination_append_slash {a : String} (some : a ≠ "") :
    d.destination (a ++ "/") = d.destination a := by
  rw [destination, pieces_append_slash, List.foldl_append, start_append some]
  rfl

theorem head?_ne_slash_of_stays {path : String} (stays : leaves path = false) :
    path.toList.head? ≠ some '/' := by
  intro slash
  rcases leaves_eq_false_iff.mp stays with rfl | ⟨first, rest, split, name, -⟩
  · cases slash
  · obtain ⟨cs, chars⟩ := List.head?_eq_some_iff.mp slash
    have empty : first = "" := by
      have pieces : pieces path = "" :: (Text.splitWhere (· == '/') cs).map String.ofList := by
        rw [Path.pieces, chars]
        rfl
      rw [pieces] at split
      exact (List.cons.inj split).1.symm
    exact (isIdle_eq_false_iff.mp name).1 empty

/-- A directory puts the same pieces in front of all paths that are joined to it, and they lead
to it. -/
structure Precedes (base : List String) (out : String) : Prop where
  pieces : ∀ path : String, path.toList.head? ≠ some '/' →
    Path.pieces (join out path) = base ++ Path.pieces path
  start : ∀ (d : Disk) (path : String), path.toList.head? ≠ some '/' →
    d.start (join out path) = d.start (join out ".")
  destination : ∀ d : Disk, base.foldl follow (d.start (join out ".")) = d.destination out

theorem precedes_empty : Precedes [] "" := by
  have same (path : String) (inner : path.toList.head? ≠ some '/') : join "" path = path := by
    rw [join, if_neg (by simpa using inner), if_pos (by rfl), String.empty_append]
  refine ⟨fun path inner => ?_, fun d path inner => ?_, fun d => rfl⟩
  · rw [same path inner]
    rfl
  · rw [same path inner, start, if_neg (by simpa using inner)]
    rfl

theorem exists_join_eq {out : String} (some : out ≠ "") :
    ∃ front, (out = front ++ "/" ∨ out = front) ∧
      ∀ path : String, path.toList.head? ≠ .some '/' → join out path = front ++ "/" ++ path := by
  by_cases slash : out.toList.getLast? = .some '/'
  · obtain ⟨front, chars⟩ := List.getLast?_eq_some_iff.mp slash
    have ends : out = String.ofList front ++ "/" := by
      apply String.toList_injective
      rw [chars, String.toList_append, String.toList_ofList]
      rfl
    refine ⟨.ofList front, .inl ends, fun path inner => ?_⟩
    rw [join, if_neg (by simpa using inner), if_pos (by simp [slash]), ends]
  · refine ⟨out, .inr rfl, fun path inner => ?_⟩
    rw [join, if_neg (by simpa using inner), if_neg (by simp [String.isEmpty_iff, some, slash])]

theorem exists_precedes (out : String) : ∃ base, Precedes base out := by
  by_cases nothing : out = ""
  · exact ⟨[], nothing ▸ precedes_empty⟩
  obtain ⟨front, ends, same⟩ := exists_join_eq nothing
  have filled : front ++ "/" ≠ "" := by simp
  have dot : join out "." = front ++ "/" ++ "." := same "." (by decide)
  refine ⟨pieces front, fun path inner => ?_, fun d path inner => ?_, fun d => ?_⟩
  · rw [same path inner, pieces_append]
  · rw [same path inner, dot, start_append filled, start_append filled]
  · rw [dot, start_append filled]
    have slash : (pieces front).foldl follow (d.start (front ++ "/")) =
        d.destination (front ++ "/") := by
      rw [destination, pieces_append_slash, List.foldl_append]
      rfl
    rcases ends with rfl | rfl
    · exact slash
    · rw [slash, destination_append_slash nothing]

/-- The names of a path that stays lead on from the directory that it is joined to. -/
theorem destination_join {path : String} (stays : leaves path = false) (out : String) :
    d.destination (join out path) = d.destination out ++ names path := by
  have inner : path.toList.head? ≠ some '/' := head?_ne_slash_of_stays stays
  obtain ⟨base, precedes⟩ := exists_precedes out
  rw [destination, precedes.pieces path inner, precedes.start d path inner, List.foldl_append,
    precedes.destination, foldl_follow (parent_not_mem_pieces stays), names]

def Below (directory place : Place) : Prop := ∃ names, names ≠ [] ∧ place = directory ++ names

theorem below_destination_join {path : String} (stays : leaves path = false) (some : path ≠ "")
    (out : String) : Below (d.destination out) (d.destination (join out path)) := by
  refine ⟨(pieces path).filter (!isIdle ·), ?_, destination_join stays out⟩
  rcases leaves_eq_false_iff.mp stays with empty | ⟨first, rest, split, name, -⟩
  · exact absurd empty some
  · simp [split, name]

end AppScaffold.Disk

import AppScaffold.Disk.Path
import AppScaffold.Proofs.Text.Lines

namespace AppScaffold.Path

open Text

theorem pieces_ne_nil (path : String) : pieces path ≠ [] := by
  simp [pieces, splitWhere_ne_nil]

theorem intercalate_pieces (path : String) : "/".intercalate (pieces path) = path := by
  apply String.toList_injective
  have same : String.toList ∘ String.ofList = id := by
    funext cs
    exact String.toList_ofList
  rw [String.toList_intercalate, pieces, List.map_map, same, List.map_id]
  exact intercalate_splitWhere '/' path.toList

theorem pieces_append (a b : String) : pieces (a ++ "/" ++ b) = pieces a ++ pieces b := by
  have chars : (a ++ "/" ++ b).toList = a.toList ++ '/' :: b.toList := by
    rw [String.toList_append, String.toList_append, List.append_assoc]
    rfl
  have split := splitWhere_append_cons (p := (· == '/')) (beq_self_eq_true '/') a.toList b.toList
  rw [pieces, chars, split, List.map_append]
  rfl

theorem pieces_of_whole {name : String} (whole : '/' ∉ name.toList) : pieces name = [name] := by
  have one : splitWhere (· == '/') name.toList = [name.toList] := by
    refine splitWhere_of_whole (p := (· == '/')) fun c member => ?_
    rw [beq_eq_false_iff_ne]
    rintro rfl
    exact whole member
  rw [pieces, one, List.map_singleton, String.ofList_toList]

theorem isIdle_eq_false_iff {piece : String} : isIdle piece = false ↔ piece ≠ "" ∧ piece ≠ "." := by
  simp [isIdle]

theorem innerPart?_eq_name {piece : String} (name : isIdle piece = false) (child : piece ≠ "..") :
    innerPart? piece = some (.name piece) := by
  simp [innerPart?, name, child]

theorem all_isName_filterMap_iff {ps : List String} :
    (ps.filterMap innerPart?).all Part.isName = true ↔ ".." ∉ ps := by
  induction ps with
  | nil => simp
  | cons p ps ih =>
    rw [List.filterMap_cons, List.mem_cons, not_or]
    by_cases parent : p = ".."
    · subst parent
      have part : innerPart? ".." = some .parent := by decide
      rw [part, List.all_cons]
      simp [Part.isName]
    · have apart : ".." ≠ p := fun same => parent same.symm
      cases idle : isIdle p with
      | true =>
        have part : innerPart? p = none := by simp [innerPart?, idle]
        rw [part, ih, and_iff_right apart]
      | false =>
        rw [innerPart?_eq_name idle parent, List.all_cons, Part.isName, Bool.true_and, ih,
          and_iff_right apart]

theorem leaves_iff {path : String} :
    leaves path = true ↔ ∃ part ∈ parts path, part.isName = false := by
  rw [leaves, Bool.not_eq_true', List.all_eq_false]
  simp only [Bool.not_eq_true]

/-- The paths that stay: the empty one, and those that begin with a name and never go up. -/
theorem leaves_eq_false_iff {path : String} :
    leaves path = false ↔
      path = "" ∨ ∃ first rest, pieces path = first :: rest ∧ isIdle first = false ∧
        ".." ∉ first :: rest := by
  have nothing : path = "" ↔ pieces path = [""] := by
    constructor
    · rintro rfl
      rfl
    · intro one
      rw [← intercalate_pieces path, one]
      rfl
  rw [nothing, leaves, Bool.not_eq_false', parts]
  split
  · rename_i none
    exact absurd none (pieces_ne_nil path)
  · rename_i one
    simp [one]
  · rename_i rest more pieces
    have some : rest ≠ [] := more
    rw [pieces]
    simp [Part.isName, isIdle, some]
  · rename_i rest pieces
    rw [pieces]
    simp [Part.isName, isIdle]
  · rename_i first rest _ notRoot notCurrent pieces
    have name : isIdle first = false := isIdle_eq_false_iff.mpr ⟨notRoot, notCurrent⟩
    have staying : ((innerPart? first).toList ++ rest.filterMap innerPart?).all Part.isName = true ↔
        ".." ∉ first :: rest := by
      rw [← all_isName_filterMap_iff, List.filterMap_cons]
      cases innerPart? first <;> rfl
    have filled : first :: rest ≠ [""] := fun one => notRoot (List.cons.inj one).1
    rw [pieces, staying, or_iff_right filled]
    constructor
    · exact fun below => ⟨first, rest, rfl, name, below⟩
    · rintro ⟨p, ps, same, -, below⟩
      rwa [same]

theorem parent_not_mem_pieces {path : String} (stays : leaves path = false) :
    ".." ∉ pieces path := by
  rcases leaves_eq_false_iff.mp stays with rfl | ⟨first, rest, split, -, below⟩
  · decide
  · rwa [split]

def names (path : String) : List String := (pieces path).filter (!isIdle ·)

theorem pieces_append_text (a b : String) :
    ∃ front last first rest, pieces a = front ++ [last] ∧ pieces b = first :: rest ∧
      pieces (a ++ b) = front ++ (last ++ first) :: rest := by
  obtain ⟨front, last, first, rest, left, right, whole⟩ :=
    Text.splitWhere_append (· == '/') a.toList b.toList
  refine ⟨front.map .ofList, .ofList last, .ofList first, rest.map .ofList, ?_, ?_, ?_⟩
  · rw [pieces, left, List.map_append, List.map_singleton]
  · rw [pieces, right, List.map_cons]
  · rw [pieces, String.toList_append, whole, List.map_append, List.map_cons, String.ofList_append]

theorem names_append_slash (a b : String) : names (a ++ "/" ++ b) = names a ++ names b := by
  rw [names, pieces_append, List.filter_append]
  rfl

theorem names_of_whole {name : String} (whole : '/' ∉ name.toList) (some : isIdle name = false) :
    names name = [name] := by
  simp [names, pieces_of_whole whole, some]

section Pieces

variable {path name : String} {ps init : List String}

theorem slash_not_mem_pieces (member : name ∈ pieces path) : '/' ∉ name.toList := by
  obtain ⟨piece, among, rfl⟩ := List.mem_map.mp member
  rw [String.toList_ofList]
  intro slash
  exact absurd (Text.eq_false_of_mem_splitWhere among _ slash) (by decide)

theorem pieces_intercalate (some : ps ≠ []) (whole : ∀ p ∈ ps, '/' ∉ p.toList) :
    pieces ("/".intercalate ps) = ps := by
  induction ps with
  | nil => exact absurd rfl some
  | cons p ps ih =>
    rw [List.forall_mem_cons] at whole
    by_cases none : ps = []
    · subst none
      exact pieces_of_whole whole.1
    · rw [String.intercalate_cons_of_ne_nil none, pieces_append, pieces_of_whole whole.1,
        ih none whole.2]
      rfl

/-- Pieces without the idle ones at their end, down to the first. -/
def trim (ps : List String) : List String := (dropIdle ps.reverse).reverse

theorem dropIdle_cons_of_name (some : isIdle name = false) :
    dropIdle (name :: ps) = name :: ps := by
  cases ps <;> simp [dropIdle, some]

theorem exists_dropIdle (ps : List String) :
    ∃ idles, ps = idles ++ dropIdle ps ∧ ∀ i ∈ idles, isIdle i = true := by
  induction ps with
  | nil => exact ⟨[], rfl, nofun⟩
  | cons p ps ih =>
    cases ps with
    | nil => exact ⟨[], rfl, nofun⟩
    | cons q qs =>
      rw [dropIdle]
      split
      · rename_i idle
        obtain ⟨idles, split, all⟩ := ih
        exact ⟨p :: idles, congrArg (p :: ·) split, List.forall_mem_cons.mpr ⟨idle, all⟩⟩
      · exact ⟨[], rfl, nofun⟩

theorem exists_trim (ps : List String) :
    ∃ idles, ps = trim ps ++ idles ∧ ∀ i ∈ idles, isIdle i = true := by
  obtain ⟨idles, split, all⟩ := exists_dropIdle ps.reverse
  refine ⟨idles.reverse, ?_, fun i member => all i (List.mem_reverse.mp member)⟩
  rw [trim, ← List.reverse_append, ← split, List.reverse_reverse]

theorem trim_concat (some : isIdle name = false) : trim (ps ++ [name]) = ps ++ [name] := by
  rw [trim, List.reverse_append, List.reverse_singleton, List.singleton_append,
    dropIdle_cons_of_name some]
  simp

theorem directory_eq (split : pieces path = init ++ [name]) (some : isIdle name = false) :
    directory path = if trim init = [""] then "/" else "/".intercalate (trim init) := by
  rw [directory, split, List.reverse_append, List.reverse_singleton, List.singleton_append,
    dropIdle_cons_of_name some, List.tail_cons, trim]
  split <;> simp_all

end Pieces

end AppScaffold.Path

import AppScaffold.Proofs.Markup.Reading
import AppScaffold.Screen.Element

namespace AppScaffold

namespace Markup

/-- The text of a literal behind its opening quote, and what follows its closing quote. A backslash
that begins no escape stands for itself. -/
def scanText : List Char → Option (List Char × List Char)
  | [] => none
  | '\'' :: rest => some ([], rest)
  | '\\' :: c :: rest =>
    match unescape? c with
    | some d => (scanText rest).map fun (s, after) => (d :: s, after)
    | none => (scanText (c :: rest)).map fun (s, after) => ('\\' :: s, after)
  | c :: rest => (scanText rest).map fun (s, after) => (c :: s, after)

def scanLiteral : List Char → Option (List Char × List Char)
  | '\'' :: cs => scanText cs
  | _ => none

theorem scanText_of_readLiteral {cs s after : List Char}
    (read : readLiteral cs = some (s, after)) : scanText cs = some (s, after) := by
  induction cs using readLiteral.induct generalizing s with
  | case1 => cases read
  | case2 rest => exact read
  | case3 c rest ih =>
    rw [readLiteral] at read
    obtain ⟨⟨t, behind⟩, inner, outer⟩ := Option.bind_eq_some_iff.mp read
    obtain ⟨d, known, same⟩ := Option.bind_eq_some_iff.mp outer
    cases same
    rw [scanText, known, ih inner]
    rfl
  | case4 => cases read
  | case5 c rest quote escape alone ih =>
    rw [readLiteral] at read
    · obtain ⟨⟨t, behind⟩, inner, outer⟩ := Option.bind_eq_some_iff.mp read
      cases outer
      rw [scanText.eq_def]
      split
      all_goals simp_all
    all_goals simp_all

theorem scanText_escape (s rest : List Char) :
    scanText (s.flatMap escape ++ '\'' :: rest) = some (s, rest) :=
  scanText_of_readLiteral (readLiteral_escape s rest)

/-- The texts of the literals of a program text. Where one has begun, `taken` holds what was read of
it so far, the last character first. A literal that does not end is none. -/
def literalsFrom : Option (List Char) → List Char → List (List Char)
  | _, [] => []
  | none, c :: cs => literalsFrom (if c = '\'' then some [] else none) cs
  | some taken, '\'' :: cs => taken.reverse :: literalsFrom none cs
  | some taken, '\\' :: c :: cs =>
    match unescape? c with
    | some d => literalsFrom (some (d :: taken)) cs
    | none => literalsFrom (some ('\\' :: taken)) (c :: cs)
  | some taken, c :: cs => literalsFrom (some (c :: taken)) cs

def literals (cs : List Char) : List (List Char) := literalsFrom none cs

theorem literalsFrom_some {cs s after : List Char} (scanned : scanText cs = some (s, after))
    (taken : List Char) : literalsFrom (some taken) cs = (taken.reverse ++ s) :: literals after := by
  induction cs using scanText.induct generalizing s taken with
  | case1 => cases scanned
  | case2 rest =>
    cases scanned
    rw [literalsFrom, List.append_nil]
    rfl
  | case3 c rest d known ih =>
    rw [scanText, known] at scanned
    obtain ⟨⟨t, behind⟩, inner, same⟩ := Option.map_eq_some_iff.mp scanned
    cases same
    rw [literalsFrom, known]
    simpa using ih inner (d :: taken)
  | case4 c rest unknown ih =>
    rw [scanText, unknown] at scanned
    obtain ⟨⟨t, behind⟩, inner, same⟩ := Option.map_eq_some_iff.mp scanned
    cases same
    rw [literalsFrom, unknown]
    simpa using ih inner ('\\' :: taken)
  | case5 c rest quote escape ih =>
    rw [scanText] at scanned
    · obtain ⟨⟨t, behind⟩, inner, same⟩ := Option.map_eq_some_iff.mp scanned
      cases same
      rw [literalsFrom]
      · simpa using ih inner (c :: taken)
      · exact quote
      · exact escape
    · exact quote
    · exact escape

theorem literals_append_of_quiet {front : List Char} (quiet : '\'' ∉ front) (rest : List Char) :
    literals (front ++ rest) = literals rest := by
  induction front with
  | nil => rfl
  | cons c front ih =>
    rw [List.mem_cons, not_or] at quiet
    rw [List.cons_append, literals, literalsFrom, if_neg (Ne.symm quiet.1)]
    exact ih quiet.2

theorem literals_of_quiet {cs : List Char} (quiet : '\'' ∉ cs) : literals cs = [] := by
  have whole := literals_append_of_quiet quiet []
  rw [List.append_nil] at whole
  rw [whole, literals, literalsFrom]

theorem literals_literal_append (s : String) (rest : List Char) :
    literals ((literal s).toList ++ rest) = s.toList :: literals rest := by
  have split : (literal s).toList ++ rest = '\'' :: (s.toList.flatMap escape ++ '\'' :: rest) := by
    simp [toList_literal]
  rw [split, literals, literalsFrom, if_pos rfl,
    literalsFrom_some (scanText_escape s.toList rest) []]
  rfl

theorem literals_enclosed {front back : String} (before : '\'' ∉ front.toList)
    (behind : '\'' ∉ back.toList) (s : String) :
    literals (front ++ literal s ++ back).toList = [s.toList] := by
  rw [String.toList_append, String.toList_append, List.append_assoc,
    literals_append_of_quiet before, literals_literal_append, literals_of_quiet behind]

theorem literals_intercalate {sep : String} (quiet : '\'' ∉ sep.toList) (rows : List String)
    (rest : List Char) :
    literals ((sep.intercalate (rows.map literal)).toList ++ rest) =
      rows.map String.toList ++ literals rest := by
  induction rows with
  | nil => simp
  | cons row rows ih =>
    by_cases last : rows = []
    · subst last
      simp [literals_literal_append]
    · have more : rows.map literal ≠ [] := by simpa using last
      rw [List.map_cons, String.intercalate_cons_of_ne_nil more, String.toList_append,
        String.toList_append, List.append_assoc, List.append_assoc, literals_literal_append,
        literals_append_of_quiet quiet, ih]
      rfl

end Markup

open Markup

/-- A literal is read as the text that it was made of, up to its own closing quote, and stays on one
line. So the route of a press, the rows of a list, the source of a picture and a text that is quoted
are each one literal, with their own text and no other. -/
theorem literals_closed :
    (∀ (s : String) (rest : List Char),
      scanLiteral ((literal s).toList ++ rest) = some (s.toList, rest) ∧
        '\n' ∉ (literal s).toList ∧ '\r' ∉ (literal s).toList) ∧
    (∀ route onPress, literals (pressHandler (some route) onPress).toList = [route.toList]) ∧
    (∀ (c : Component) rows, ∃ body more,
      c.rowsElement rows = .block "FlatList" (.code "data" body :: more) ∧
        literals body.toList = rows.map String.toList) ∧
    (∀ c : Component, ∃ body more,
      c.imageElement = .block "Image" (.code "source" body :: more) ∧
        literals body.toList = [((nonEmpty c.source).getD placeholderImage).toList]) ∧
    ∀ s, (s.toList.any isSpecial = false ∧ bodyText s = s) ∨
      literals (bodyText s).toList = [s.toList] := by
  refine ⟨fun s rest => ⟨?_, not_mem_literal (.inl rfl) s, not_mem_literal (.inr (.inl rfl)) s⟩,
    fun route onPress => ?_, fun c rows => ?_, fun c => ?_, fun s => ?_⟩
  · rw [toList_literal, List.cons_append, List.append_assoc]
    exact scanText_escape s.toList rest
  · exact literals_enclosed (by decide) (by decide) route
  · refine ⟨_, _, rfl, ?_⟩
    rw [String.toList_append, String.toList_append, List.append_assoc,
      literals_append_of_quiet (by decide), literals_intercalate (by decide),
      literals_of_quiet (by decide), List.append_nil]
  · exact ⟨_, _, rfl, literals_enclosed (by decide) (by decide) _⟩
  · rw [bodyText]
    split
    · exact .inr (literals_enclosed (by decide) (by decide) s)
    · rename_i plain
      exact .inl ⟨by simpa using plain, rfl⟩

end AppScaffold

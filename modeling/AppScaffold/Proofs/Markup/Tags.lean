import AppScaffold.Proofs.Text.Names

/-! Tags and the elements that they leave open. A scan of a text keeps the names of the open
elements: a tag opens one, and a tag that closes an element must close the last that was opened. A
character that goes on with no tag cuts a text into two that are scanned one after the other; so a
text is scanned line by line, and where it is cut into lines no tag gets lost. -/

namespace AppScaffold.Markup

open Text

/-- A tag as far as it tells which elements are open. -/
inductive Tag
  | opened (name : String)
  | closed (name : String)
  | ended
  deriving DecidableEq

def tagAt? : List Char → Option Tag
  | '<' :: '/' :: cs =>
    if (cs.dropWhile isNameChar).head? = some '>' then (nameAt? cs).map .closed else none
  | '<' :: cs => (nameAt? cs).map .opened
  | '/' :: '>' :: _ => some .ended
  | _ => none

/-- The open elements, the innermost first, behind a tag if there is one. A tag that closes another
element than the innermost is an error. -/
def turn : Option Tag → List String → Option (List String)
  | none, stack => some stack
  | some (.opened name), stack => some (name :: stack)
  | some (.closed name), top :: stack => if name = top then some stack else none
  | some .ended, _ :: stack => some stack
  | some _, [] => none

def scan : List Char → List String → Option (List String)
  | [], stack => some stack
  | c :: cs, stack => (turn (tagAt? (c :: cs)) stack).bind (scan cs)

/-- Every tag of the text closes the element that was opened last, and in the end none is open. -/
def WellNested (text : String) : Prop := scan text.toList [] = some []

instance (text : String) : Decidable (WellNested text) :=
  inferInstanceAs (Decidable (_ = _))

theorem tagAt?_closing (cs : List Char) :
    tagAt? ('<' :: '/' :: cs) =
      if (cs.dropWhile isNameChar).head? = some '>' then (nameAt? cs).map .closed else none := rfl

theorem tagAt?_opening {cs : List Char} (opening : cs.head? ≠ some '/') :
    tagAt? ('<' :: cs) = (nameAt? cs).map .opened := by
  cases cs with
  | nil => rfl
  | cons c cs =>
    have other : c ≠ '/' := by simpa using opening
    simp [tagAt?, other]

theorem tagAt?_slash (cs : List Char) :
    tagAt? ('/' :: cs) = if cs.head? = some '>' then some .ended else none := by
  cases cs with
  | nil => rfl
  | cons c cs =>
    by_cases ends : c = '>'
    · simp [tagAt?, ends]
    · simp [tagAt?, ends]

theorem tagAt?_of_ne {c : Char} (opening : c ≠ '<') (ending : c ≠ '/') (cs : List Char) :
    tagAt? (c :: cs) = none := by
  simp [tagAt?, opening, ending]

theorem head?_dropWhile_append_cons {p : Char → Bool} {x : Char} (stops : p x = false)
    (a b : List Char) :
    ((a ++ x :: b).dropWhile p).head? = some (((a.dropWhile p).head?).getD x) := by
  induction a with
  | nil => simp [stops]
  | cons c cs ih =>
    rw [List.cons_append, List.dropWhile_cons, List.dropWhile_cons]
    split
    · exact ih
    · rfl

section Cut

variable {x : Char} (stops : isNameChar x = false) (slash : x ≠ '/')
include stops slash

theorem tagAt?_append_cons (c : Char) (a b : List Char) :
    tagAt? (c :: (a ++ x :: b)) = tagAt? (c :: (a ++ [x])) := by
  by_cases opening : c = '<'
  · subst opening
    by_cases closing : a.head? = some '/'
    · obtain ⟨rest, rfl⟩ := List.head?_eq_some_iff.mp closing
      rw [List.cons_append, List.cons_append, tagAt?_closing, tagAt?_closing,
        head?_dropWhile_append_cons stops, head?_dropWhile_append_cons stops,
        nameAt?_append_cons stops, nameAt?_append_cons stops]
    · have first (b : List Char) : (a ++ x :: b).head? ≠ some '/' := by
        cases a with
        | nil => simpa using slash
        | cons d ds => simpa using closing
      rw [tagAt?_opening (first b), tagAt?_opening (first []), nameAt?_append_cons stops,
        nameAt?_append_cons stops]
  · by_cases ending : c = '/'
    · subst ending
      rw [tagAt?_slash, tagAt?_slash]
      cases a <;> rfl
    · rw [tagAt?_of_ne opening ending, tagAt?_of_ne opening ending]

theorem tagAt?_append_singleton (bracket : x ≠ '>') (c : Char) (a : List Char) :
    tagAt? (c :: (a ++ [x])) = tagAt? (c :: a) := by
  by_cases opening : c = '<'
  · subst opening
    by_cases closing : a.head? = some '/'
    · obtain ⟨rest, rfl⟩ := List.head?_eq_some_iff.mp closing
      rw [List.cons_append, tagAt?_closing, tagAt?_closing, head?_dropWhile_append_cons stops,
        nameAt?_append_cons stops]
      cases (rest.dropWhile isNameChar).head? with
      | none => simp [bracket]
      | some d => rfl
    · have first : (a ++ [x]).head? ≠ some '/' := by
        cases a with
        | nil => simpa using slash
        | cons d ds => simpa using closing
      rw [tagAt?_opening first, tagAt?_opening closing, nameAt?_append_cons stops]
  · by_cases ending : c = '/'
    · subst ending
      rw [tagAt?_slash, tagAt?_slash]
      cases a with
      | nil => simp [bracket]
      | cons d ds => rfl
    · rw [tagAt?_of_ne opening ending, tagAt?_of_ne opening ending]

end Cut

theorem scan_cons_of_ne {c : Char} (opening : c ≠ '<') (ending : c ≠ '/') (cs : List Char)
    (stack : List String) : scan (c :: cs) stack = scan cs stack := by
  rw [scan, tagAt?_of_ne opening ending]
  rfl

section Cut

variable {x : Char} (stops : isNameChar x = false) (slash : x ≠ '/')
include stops slash

theorem scan_append_cons_of_end (opening : x ≠ '<') (a b : List Char) (stack : List String) :
    scan (a ++ x :: b) stack = (scan (a ++ [x]) stack).bind (scan b) := by
  induction a generalizing stack with
  | nil =>
    rw [List.nil_append, List.nil_append, scan_cons_of_ne opening slash,
      scan_cons_of_ne opening slash]
    rfl
  | cons c cs ih =>
    rw [List.cons_append, List.cons_append, scan, scan, tagAt?_append_cons stops slash]
    cases turn (tagAt? (c :: (cs ++ [x]))) stack with
    | none => rfl
    | some after => exact ih after

theorem scan_append_cons_of_begin (bracket : x ≠ '>') (a b : List Char) (stack : List String) :
    scan (a ++ x :: b) stack = (scan a stack).bind (scan (x :: b)) := by
  induction a generalizing stack with
  | nil => rfl
  | cons c cs ih =>
    rw [List.cons_append, scan, scan, tagAt?_append_cons stops slash,
      tagAt?_append_singleton stops slash bracket]
    cases turn (tagAt? (c :: cs)) stack with
    | none => rfl
    | some after => exact ih after

end Cut

theorem scan_append_of_plain {a : List Char} (plain : ∀ c ∈ a, c ≠ '<' ∧ c ≠ '/') (b : List Char)
    (stack : List String) : scan (a ++ b) stack = scan b stack := by
  induction a with
  | nil => rfl
  | cons c cs ih =>
    rw [List.forall_mem_cons] at plain
    rw [List.cons_append, scan_cons_of_ne plain.1.1 plain.1.2, ih plain.2]

theorem plain_of_isBlankText {s : String} (blank : isBlankText s = true) :
    ∀ c ∈ s.toList, c ≠ '<' ∧ c ≠ '/' := by
  intro c member
  have dark := List.all_eq_true.mp blank c member
  constructor
  all_goals
    rintro rfl
    exact absurd dark (by decide)

theorem scan_blank_append {a : String} (blank : isBlankText a = true) (b : String)
    (stack : List String) : scan (a ++ b).toList stack = scan b.toList stack := by
  rw [String.toList_append]
  exact scan_append_of_plain (plain_of_isBlankText blank) _ _

theorem scan_of_avoids {cs : List Char} (tags : ¬ "<".toList <:+: cs)
    (endings : ¬ "/>".toList <:+: cs) (stack : List String) : scan cs stack = some stack := by
  induction cs with
  | nil => rfl
  | cons c cs ih =>
    rw [List.infix_cons_iff, not_or] at tags endings
    have opening : c ≠ '<' := by
      rintro rfl
      exact tags.1 (List.cons_prefix_cons.mpr ⟨rfl, List.nil_prefix⟩)
    have none : tagAt? (c :: cs) = none := by
      by_cases slash : c = '/'
      · subst slash
        rw [tagAt?_slash, if_neg]
        intro bracket
        obtain ⟨rest, rfl⟩ := List.head?_eq_some_iff.mp bracket
        exact endings.1 ⟨rest, rfl⟩
      · exact tagAt?_of_ne opening slash cs
    rw [scan, none]
    exact ih tags.2 endings.2

/-- Elements around those that a tag finds open do not matter to it. -/
theorem turn_append {tag : Option Tag} {before after : List String}
    (turned : turn tag before = some after) (stack : List String) :
    turn tag (before ++ stack) = some (after ++ stack) := by
  cases tag with
  | none =>
    rw [← Option.some.inj turned]
    rfl
  | some tag =>
    cases tag with
    | opened name =>
      rw [← Option.some.inj turned]
      rfl
    | closed name =>
      cases before with
      | nil => cases turned
      | cons top before =>
        rw [turn] at turned
        split at turned
        · rename_i same
          rw [List.cons_append, turn, if_pos same, Option.some.inj turned]
        · cases turned
    | ended =>
      cases before with
      | nil => cases turned
      | cons top before =>
        rw [← Option.some.inj turned]
        rfl

theorem scan_append_stack {cs : List Char} {before after : List String}
    (scanned : scan cs before = some after) (stack : List String) :
    scan cs (before ++ stack) = some (after ++ stack) := by
  induction cs generalizing before with
  | nil =>
    rw [← Option.some.inj scanned]
    rfl
  | cons c cs ih =>
    obtain ⟨between, turned, rest⟩ := Option.bind_eq_some_iff.mp scanned
    rw [scan, turn_append turned, Option.bind_some]
    exact ih rest

def scanLines (ls : List String) (stack : List String) : Option (List String) :=
  ls.foldlM (fun stack l => scan l.toList stack) stack

theorem scan_unlines (ls : List String) (stack : List String) :
    scan (unlines ls).toList stack = scanLines ls stack := by
  induction ls generalizing stack with
  | nil => rfl
  | cons l ls ih =>
    cases ls with
    | nil => simp [unlines, scanLines]
    | cons k ls =>
      have split : (unlines (l :: k :: ls)).toList =
          l.toList ++ '\n' :: (unlines (k :: ls)).toList := by
        rw [unlines_cons l (List.cons_ne_nil k ls), String.toList_append, String.toList_append,
          List.append_assoc]
        rfl
      rw [split, scan_append_cons_of_begin (by decide) (by decide) (by decide), scanLines,
        List.foldlM_cons]
      cases scan l.toList stack with
      | none => rfl
      | some after =>
        exact (scan_cons_of_ne (c := '\n') (by decide) (by decide) _ _).trans (ih after)

theorem scan_dropReturn (line : List Char) (stack : List String) :
    scan (dropReturn line) stack = scan line stack := by
  rw [dropReturn]
  split
  · rename_i last
    obtain ⟨front, rfl⟩ := List.getLast?_eq_some_iff.mp last
    rw [List.dropLast_concat, scan_append_cons_of_begin (by decide) (by decide) (by decide)]
    cases scan front stack <;> rfl
  · rfl

theorem scanLines_append (ls ks : List String) (stack : List String) :
    scanLines (ls ++ ks) stack = (scanLines ls stack).bind (scanLines ks) :=
  List.foldlM_append

theorem scanLines_lines (s : String) (stack : List String) :
    scanLines (lines s) stack = scan s.toList stack := by
  have whole := unlines_splitWhere s
  have some := splitWhere_ne_nil (· == '\n') s.toList
  rw [lines, lineChars]
  generalize splitWhere (· == '\n') s.toList = pieces at whole some
  rcases List.eq_nil_or_concat pieces with rfl | ⟨front, last, rfl⟩
  · exact absurd rfl some
  · have body (stack : List String) : scanLines ((front.map dropReturn).map String.ofList) stack =
        scanLines (front.map String.ofList) stack := by
      simp only [scanLines, List.foldlM_map, String.toList_ofList, scan_dropReturn]
    have ending (stack : List String) :
        scanLines ((if last.isEmpty then [] else [last]).map String.ofList) stack =
          scanLines ([last].map String.ofList) stack := by
      cases last with
      | nil => rfl
      | cons c cs => rfl
    rw [← whole, scan_unlines]
    simp only [List.concat_eq_append, List.dropLast_concat, List.getLast?_concat,
      Option.getD_some, List.map_append, scanLines_append, body]
    congr 1
    funext after
    exact ending after

end AppScaffold.Markup

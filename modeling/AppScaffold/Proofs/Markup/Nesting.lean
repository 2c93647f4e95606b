import AppScaffold.Proofs.Markup.Mentions
import AppScaffold.Proofs.Markup.Tags

/-! Elements nest. However an element is laid out in lines, its tags close what they open, as long
as its attributes and its body do so: behind it the elements around it are open as before. -/

namespace AppScaffold.Markup

open Text

/-- A text that replaces the innermost open elements `before` by `after`, whatever is around
them. -/
def Turns (before : List String) (s : String) (after : List String) : Prop :=
  ∀ stack, scan s.toList (before ++ stack) = some (after ++ stack)

/-- A text whose tags close what they open and nothing else. -/
abbrev Steady (s : String) : Prop := Turns [] s []

def endsApart (s : String) : Bool :=
  s.toList.getLast?.any fun c => !isNameChar c && c != '/' && c != '<'

def beginsApart (s : String) : Bool :=
  s.toList.head?.any fun c => !isNameChar c && c != '/' && c != '>'

theorem endsApart_append (a : String) {b : String} (apart : endsApart b = true) :
    endsApart (a ++ b) = true := by
  obtain ⟨c, last, fits⟩ := (Option.any_eq_true _ _).mp apart
  rw [endsApart, getLast?_toList_append a last]
  exact fits

namespace Turns

variable {before between after : List String} {a b s : String}

theorem append_of_ends (first : Turns before a between) (second : Turns between b after)
    (apart : endsApart a = true) : Turns before (a ++ b) after := by
  intro stack
  obtain ⟨c, last, fits⟩ := (Option.any_eq_true _ _).mp apart
  obtain ⟨front, chars⟩ := List.getLast?_eq_some_iff.mp last
  simp only [Bool.and_eq_true, Bool.not_eq_true', bne_iff_ne, ne_eq] at fits
  rw [String.toList_append, chars, List.append_assoc, List.singleton_append,
    scan_append_cons_of_end fits.1.1 fits.1.2 fits.2, ← chars, first stack]
  exact second stack

theorem append_of_begins (first : Turns before a between) (second : Turns between b after)
    (apart : beginsApart b = true) : Turns before (a ++ b) after := by
  intro stack
  obtain ⟨c, head, fits⟩ := (Option.any_eq_true _ _).mp apart
  obtain ⟨back, chars⟩ := List.head?_eq_some_iff.mp head
  simp only [Bool.and_eq_true, Bool.not_eq_true', bne_iff_ne, ne_eq] at fits
  rw [String.toList_append, chars, scan_append_cons_of_begin fits.1.1 fits.1.2 fits.2, ← chars,
    first stack]
  exact second stack

theorem inside (steady : Steady s) (around : List String) : Turns around s around :=
  fun stack => steady (around ++ stack)

theorem blank_append (blank : isBlankText a = true) (turns : Turns before s after) :
    Turns before (a ++ s) after := by
  intro stack
  rw [scan_blank_append blank]
  exact turns stack

end Turns

theorem steady_of_avoids {s : String} (tags : Avoids "<" s) (endings : Avoids "/>" s) : Steady s :=
  fun stack => scan_of_avoids tags endings stack

theorem steady_iff_wellNested {s : String} : Steady s ↔ WellNested s :=
  ⟨fun steady => steady [], fun nested stack => scan_append_stack nested stack⟩

theorem plain_of_isWord {s : String} (word : isWord s = true) :
    ∀ c ∈ s.toList, c ≠ '<' ∧ c ≠ '/' := by
  intro c member
  have name := List.all_eq_true.mp word c member
  constructor
  all_goals
    rintro rfl
    exact absurd name (by decide)

theorem steady_word {s : String} (word : isWord s = true) : Steady s := by
  intro stack
  have whole := scan_append_of_plain (plain_of_isWord word) [] stack
  rwa [List.append_nil] at whole

def IsTag (tag : String) : Prop := nameAt? tag.toList = some tag

instance (tag : String) : Decidable (IsTag tag) := inferInstanceAs (Decidable (_ = _))

section Tag

variable {tag : String} (named : IsTag tag)
include named

theorem IsTag.parts : ∃ c cs, tag.toList = c :: cs ∧ isNameStart c = true ∧ isWord tag = true := by
  rw [IsTag] at named
  cases chars : tag.toList with
  | nil =>
    rw [chars] at named
    cases named
  | cons c cs =>
    rw [chars, nameAt?] at named
    split at named
    · rename_i start
      have whole := congrArg String.toList (Option.some.inj named)
      rw [String.toList_ofList, chars, List.cons_inj_right] at whole
      have first : isNameChar c = true := (Bool.and_eq_true_iff.mp start).1
      refine ⟨c, cs, rfl, start, ?_⟩
      rw [isWord, chars, List.all_cons, first, ← whole]
      simp
    · cases named

theorem IsTag.plain : ∀ c ∈ tag.toList, c ≠ '<' ∧ c ≠ '/' := by
  obtain ⟨_, _, -, -, word⟩ := named.parts
  exact plain_of_isWord word

theorem IsTag.head?_append (rest : List Char) : (tag.toList ++ rest).head? ≠ some '/' := by
  obtain ⟨c, cs, chars, -, -⟩ := named.parts
  have other := (named.plain c (by simp [chars])).2
  simpa [chars] using other

theorem IsTag.opening {t : String} {after : List String}
    (stops : t.toList.head?.all (!isNameChar ·) = true) (behind : Turns [tag] t after) :
    Turns [] ("<" ++ tag ++ t) after := by
  intro stack
  have chars : ("<" ++ tag ++ t).toList = '<' :: (tag.toList ++ t.toList) := by
    rw [String.toList_append, String.toList_append, List.append_assoc]
    rfl
  have name : nameAt? (tag.toList ++ t.toList) = some tag := by
    cases rest : t.toList with
    | nil =>
      rw [List.append_nil]
      exact named
    | cons x xs =>
      have stop : isNameChar x = false := by simpa [rest] using stops
      rw [nameAt?_append_cons stop]
      exact named
  rw [chars, scan, tagAt?_opening (named.head?_append _), name]
  change scan (tag.toList ++ t.toList) (tag :: stack) = _
  rw [scan_append_of_plain named.plain]
  exact behind stack

theorem IsTag.closing : Turns [tag] (closeTag tag) [] := by
  intro stack
  have chars : (closeTag tag).toList = '<' :: '/' :: (tag.toList ++ ['>']) := by
    rw [closeTag, String.toList_append, String.toList_append, List.append_assoc]
    rfl
  obtain ⟨c, cs, front, start, word⟩ := named.parts
  have bracket : ((tag.toList ++ ['>']).dropWhile isNameChar).head? = some '>' := by
    rw [List.dropWhile_append_of_pos (List.all_eq_true.mp word)]
    rfl
  have slash : tagAt? ('/' :: (tag.toList ++ ['>'])) = none := by
    have other : c ≠ '>' := by
      rintro rfl
      exact absurd start (by decide)
    rw [tagAt?_slash, if_neg]
    simpa [front] using other
  rw [chars, scan, tagAt?_closing, if_pos bracket, nameAt?_append_cons (by decide), named]
  change (if tag = tag then some stack else none).bind _ = _
  rw [if_pos rfl, Option.bind_some, scan, slash]
  change scan (tag.toList ++ ['>']) stack = _
  rw [scan_append_of_plain named.plain]
  rfl

end Tag

theorem steady_assignment {key opening closing body : String} (word : isWord key = true)
    (starts : beginsApart opening = true ∧ endsApart opening = true ∧ Steady opening)
    (ends : beginsApart closing = true ∧ Steady closing) (steady : Steady body) :
    Steady (key ++ opening ++ body ++ closing) := by
  have front : Steady (key ++ opening) := (steady_word word).append_of_begins starts.2.2 starts.1
  have inner := front.append_of_ends steady (endsApart_append key starts.2.1)
  exact inner.append_of_begins ends.2 ends.1

theorem steady_written {a : Attribute} (word : isWord a.name = true) (steady : Steady a.body) :
    Steady a.written := by
  have plain {s : String} (free : Avoids "<" s ∧ Avoids "/>" s) : Steady s :=
    steady_of_avoids free.1 free.2
  cases a with
  | code key body =>
    exact steady_assignment word ⟨by decide, by decide, plain (by decide)⟩
      ⟨by decide, plain (by decide)⟩ steady
  | quoted key body =>
    exact steady_assignment word ⟨by decide, by decide, plain (by decide)⟩
      ⟨by decide, plain (by decide)⟩ steady

theorem endsApart_written (a : Attribute) : endsApart a.written = true := by
  cases a with
  | code key body => exact endsApart_append _ (by decide)
  | quoted key body => exact endsApart_append _ (by decide)

def SteadyBodies (attributes : List Attribute) : Prop :=
  ∀ a ∈ attributes, isWord a.name = true ∧ Steady a.body

theorem Turns.spaced_append {attributes : List Attribute} {before after : List String} {t : String}
    (steady : SteadyBodies attributes) (turns : Turns before t after) :
    Turns before (spaced attributes ++ t) after := by
  induction attributes with
  | nil =>
    rw [show spaced [] = "" by rfl, String.empty_append]
    exact turns
  | cons a attributes ih =>
    rw [SteadyBodies, List.forall_mem_cons] at steady
    have first : Steady (" " ++ a.written) :=
      (steady_written steady.1.1 steady.1.2).blank_append (by decide)
    rw [spaced, List.map_cons, String.join_cons, String.append_assoc]
    exact (first.inside before).append_of_ends (ih steady.2)
      (endsApart_append " " (endsApart_written a))

theorem IsTag.opening_spaced {tag t : String} {attributes : List Attribute} {after : List String}
    (named : IsTag tag) (steady : SteadyBodies attributes)
    (stops : t.toList.head?.all (!isNameChar ·) = true) (behind : Turns [tag] t after) :
    Turns [] ("<" ++ tag ++ spaced attributes ++ t) after := by
  rw [String.append_assoc]
  apply named.opening _ (behind.spaced_append steady)
  cases attributes with
  | nil =>
    rw [show spaced [] = "" by rfl, String.empty_append]
    exact stops
  | cons a attributes => simp [spaced, isNameChar]

theorem turns_openTag {tag : String} {attributes : List Attribute} (named : IsTag tag)
    (steady : SteadyBodies attributes) : Turns [] (openTag tag attributes) [tag] :=
  named.opening_spaced steady (by decide) fun _ => rfl

def LinesTurn (before : List String) (ls : List String) (after : List String) : Prop :=
  ∀ stack, scanLines ls (before ++ stack) = some (after ++ stack)

namespace LinesTurn

variable {before between after : List String} {ls ks : List String}

theorem append (first : LinesTurn before ls between) (second : LinesTurn between ks after) :
    LinesTurn before (ls ++ ks) after := by
  intro stack
  rw [scanLines_append, first stack]
  exact second stack

theorem cons {l : String} (first : Turns before l between) (second : LinesTurn between ls after) :
    LinesTurn before (l :: ls) after := by
  intro stack
  rw [scanLines, List.foldlM_cons, first stack]
  exact second stack

theorem nil (around : List String) : LinesTurn around [] around := fun _ => rfl

theorem single {l : String} (turns : Turns before l after) : LinesTurn before [l] after :=
  cons turns (nil after)

theorem inside (steady : LinesTurn [] ls []) (around : List String) : LinesTurn around ls around :=
  fun stack => steady (around ++ stack)

theorem of_forall (steady : ∀ l ∈ ls, Steady l) : LinesTurn [] ls [] := by
  induction ls with
  | nil => exact nil []
  | cons l ls ih =>
    rw [List.forall_mem_cons] at steady
    exact cons steady.1 (ih steady.2)

theorem steady_unlines (steady : LinesTurn [] ls []) : Steady (unlines ls) := by
  intro stack
  rw [scan_unlines]
  exact steady stack

end LinesTurn

theorem scan_attributeLine (level : Nat) (line : String) (stack : List String) :
    scan (attributeLine level line).toList stack = scan line.toList stack := by
  rw [attributeLine]
  split
  · rename_i empty
    rw [String.isEmpty_iff.mp empty]
  · rw [String.append_assoc, indent, scan_blank_append (isBlankText_spaces _),
      scan_blank_append (by decide)]

theorem linesTurn_attributeLines (level : Nat) {attributes : List Attribute}
    (steady : SteadyBodies attributes) :
    LinesTurn [] (attributes.flatMap fun a => (lines a.written).map (attributeLine level)) [] := by
  induction attributes with
  | nil => exact .nil []
  | cons a attributes ih =>
    rw [SteadyBodies, List.forall_mem_cons] at steady
    have first : LinesTurn [] ((lines a.written).map (attributeLine level)) [] := by
      intro stack
      have written := steady_written steady.1.1 steady.1.2 stack
      rw [← scanLines_lines] at written
      simpa only [scanLines, List.foldlM_map, scan_attributeLine] using written
    exact first.append (ih steady.2)

theorem linesTurn_enclosed (level : Nat) {tag : String} {attributes : List Attribute}
    (named : IsTag tag) (steady : SteadyBodies attributes) {inner : List String}
    (within : LinesTurn [] inner []) : LinesTurn [] (enclosed level tag attributes inner) [] := by
  have opening : Turns [] (indent level ++ openTag tag attributes) [tag] :=
    (turns_openTag named steady).blank_append (isBlankText_spaces _)
  have closing : Turns [tag] (indent level ++ closeTag tag) [] :=
    named.closing.blank_append (isBlankText_spaces _)
  exact (LinesTurn.cons opening (within.inside [tag])).append (.single closing)

mutual

/-- The tags of an element have names, and its attributes and its body close what they open. -/
def Element.Tidy : Element → Prop
  | .inline tag attributes body => (IsTag tag ∧ ∀ a ∈ attributes, Steady a.body) ∧ Steady body
  | .block tag attributes => IsTag tag ∧ ∀ a ∈ attributes, Steady a.body
  | .nested tag attributes children =>
    (IsTag tag ∧ ∀ a ∈ attributes, Steady a.body) ∧ ForestTidy children

def ForestTidy : List Element → Prop
  | [] => True
  | e :: es => e.Tidy ∧ ForestTidy es

end

mutual

theorem Element.linesTurn (level : Nat) (e : Element) (named : e.Named) (tidy : e.Tidy) :
    LinesTurn [] (e.lines level) [] := by
  match e with
  | .inline tag attributes body =>
    obtain ⟨⟨tagged, bodies⟩, within⟩ := tidy
    have steady : SteadyBodies attributes := fun a member => ⟨named.2 a member, bodies a member⟩
    have opening : Turns [] (indent level ++ openTag tag attributes) [tag] :=
      (turns_openTag tagged steady).blank_append (isBlankText_spaces _)
    have ends : endsApart (indent level ++ openTag tag attributes) = true :=
      endsApart_append _ (endsApart_append _ (by decide))
    have inner := opening.append_of_ends (within.inside [tag]) ends
    have begins : beginsApart (closeTag tag) = true := by
      simp [beginsApart, closeTag, isNameChar]
    rw [Element.lines]
    exact .single (inner.append_of_begins tagged.closing begins)
  | .block tag attributes =>
    obtain ⟨tagged, bodies⟩ := tidy
    have steady : SteadyBodies attributes := fun a member => ⟨named.2 a member, bodies a member⟩
    have front : Turns [] ("<" ++ tag ++ "") [tag] := tagged.opening (by decide) fun _ => rfl
    have first : Turns [] (indent level ++ "<" ++ tag) [tag] := by
      rw [String.append_empty] at front
      rw [String.append_assoc]
      exact front.blank_append (isBlankText_spaces _)
    have last : Turns [tag] (indent level ++ "/>") [] :=
      Turns.blank_append (isBlankText_spaces _) fun _ => rfl
    rw [Element.lines]
    exact (LinesTurn.cons first ((linesTurn_attributeLines level steady).inside [tag])).append
      (.single last)
  | .nested tag attributes children =>
    obtain ⟨⟨tagged, bodies⟩, within⟩ := tidy
    have steady : SteadyBodies attributes := fun a member => ⟨named.1.2 a member, bodies a member⟩
    rw [Element.lines]
    split
    · have alone : Turns [] ("<" ++ tag ++ spaced attributes ++ " />") [] :=
        tagged.opening_spaced steady (by decide) fun _ => rfl
      have line := alone.blank_append (isBlankText_spaces (2 * level))
      simp only [← String.append_assoc] at line
      exact .single line
    · exact linesTurn_enclosed level tagged steady
        (linesTurn_forestLines (level + 1) children named.2 within)

theorem linesTurn_forestLines (level : Nat) (es : List Element) (named : ForestNamed es)
    (tidy : ForestTidy es) : LinesTurn [] (forestLines level es) [] := by
  match es with
  | [] => exact .nil []
  | e :: es =>
    exact (e.linesTurn level named.1 tidy.1).append
      (linesTurn_forestLines level es named.2 tidy.2)

end

end AppScaffold.Markup

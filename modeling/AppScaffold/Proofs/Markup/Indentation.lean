import AppScaffold.Proofs.Markup.Mentions
import AppScaffold.Proofs.Text.Indentation

/-! The indentation of elements. Every line of an element stands behind the indentation of its
level, but only the lines of attributes are cut where their text has line feeds: texts on the lines
of tags go on with rows that are indented as they make themselves. An element whose lines are all
solid moves with its level as a whole. -/

namespace AppScaffold.Markup

open Text

theorem lineFeed_not_mem_word {s : String} (word : isWord s = true) : '\n' ∉ s.toList :=
  fun member => absurd (List.all_eq_true.mp word _ member) (by decide)

mutual

/-- The texts on the lines of tags: what attributes hold there, and what stands between two tags. -/
def Element.tagTexts : Element → List String
  | .inline _ attributes body => attributes.map Attribute.body ++ [body]
  | .block _ _ => []
  | .nested _ attributes children => attributes.map Attribute.body ++ forestTagTexts children

def forestTagTexts : List Element → List String
  | [] => []
  | e :: es => e.tagTexts ++ forestTagTexts es

end

mutual

def Element.lineAttributes : Element → List Attribute
  | .inline _ _ _ => []
  | .block _ attributes => attributes
  | .nested _ _ children => forestLineAttributes children

def forestLineAttributes : List Element → List Attribute
  | [] => []
  | e :: es => e.lineAttributes ++ forestLineAttributes es

end

mutual

theorem Element.isWord_of_mem_lineAttributes (e : Element) (named : e.Named) :
    ∀ a ∈ e.lineAttributes, isWord a.name = true := by
  match e with
  | .inline tag attributes body => exact List.forall_mem_nil _
  | .block tag attributes => exact named.2
  | .nested tag attributes children => exact isWord_of_mem_forestLineAttributes children named.2

theorem isWord_of_mem_forestLineAttributes (es : List Element) (named : ForestNamed es) :
    ∀ a ∈ forestLineAttributes es, isWord a.name = true := by
  match es with
  | [] => exact List.forall_mem_nil _
  | e :: es =>
    rw [forestLineAttributes, List.forall_mem_append]
    exact ⟨e.isWord_of_mem_lineAttributes named.1, isWord_of_mem_forestLineAttributes es named.2⟩

end

section Rows

variable {n : Nat}

theorem hanging_written_append {a : Attribute} (word : isWord a.name = true) (t : String) :
    Hanging n (a.written ++ t) ↔ Hangs n a.body ∧ Hanging n t := by
  have enclosed {opening closing body : String} (before : '\n' ∉ opening.toList)
      (seen : closing.toList.head?.any (!isBlank ·) = true) (behind : '\n' ∉ closing.toList) :
      Hanging n (a.name ++ opening ++ body ++ closing ++ t) ↔ Hangs n body ∧ Hanging n t := by
    have more : (closing ++ t).toList.head?.any (!isBlank ·) = true := by
      obtain ⟨c, head, ink⟩ := (Option.any_eq_true _ _).mp seen
      rw [String.toList_append, List.head?_append, head]
      exact ink
    rw [String.append_assoc, String.append_assoc, String.append_assoc,
      hanging_append_left (lineFeed_not_mem_word word), hanging_append_left before,
      hanging_append _ more, hanging_append_left behind]
  cases a with
  | code name body => exact enclosed (by decide) (by decide) (by decide)
  | quoted name body => exact enclosed (by decide) (by decide) (by decide)

theorem hanging_spaced_append {attributes : List Attribute}
    (words : ∀ a ∈ attributes, isWord a.name = true) (t : String) :
    Hanging n (spaced attributes ++ t) ↔
      (∀ u ∈ attributes.map Attribute.body, Hangs n u) ∧ Hanging n t := by
  induction attributes with
  | nil => simp [spaced]
  | cons a attributes ih =>
    rw [List.forall_mem_cons] at words
    have split :
        spaced (a :: attributes) ++ t = " " ++ (a.written ++ (spaced attributes ++ t)) := by
      simp [spaced, String.join_cons, String.append_assoc]
    rw [split, hanging_append_left (by decide), hanging_written_append words.1, ih words.2,
      List.map_cons, List.forall_mem_cons, and_assoc]

theorem hanging_opening {tag : String} {attributes : List Attribute} (word : isWord tag = true)
    (words : ∀ a ∈ attributes, isWord a.name = true) (t : String) :
    Hanging n ("<" ++ tag ++ spaced attributes ++ t) ↔
      (∀ u ∈ attributes.map Attribute.body, Hangs n u) ∧ Hanging n t := by
  rw [String.append_assoc, String.append_assoc, hanging_append_left (by decide),
    hanging_append_left (lineFeed_not_mem_word word), hanging_spaced_append words]

theorem lineFeed_not_mem_closeTag {tag : String} (word : isWord tag = true) :
    '\n' ∉ (closeTag tag).toList := by
  simp [closeTag, lineFeed_not_mem_word word]

theorem linesIndented_append {ls ks : List String} :
    LinesIndented n (ls ++ ks) ↔ LinesIndented n ls ∧ LinesIndented n ks :=
  List.forall_mem_append

theorem linesIndented_singleton {l : String} : LinesIndented n [l] ↔ Indented n l :=
  List.forall_mem_singleton

theorem linesIndented_attributeLines {level : Nat} (fits : n ≤ 2 * level)
    (attributes : List Attribute) :
    LinesIndented n (attributes.flatMap fun a => (lines a.written).map (attributeLine level)) := by
  intro l member
  obtain ⟨a, -, written⟩ := List.mem_flatMap.mp member
  obtain ⟨line, among, rfl⟩ := List.mem_map.mp written
  have single := lineFeed_not_mem_of_mem_lines among
  rw [attributeLine]
  split
  · exact indented_empty n
  · rw [indent, String.append_assoc, indented_spaces_append_iff fits]
    exact hanging_of_single (by simp [single])

theorem linesIndented_enclosed {level : Nat} (fits : n ≤ 2 * level) {tag : String}
    {attributes : List Attribute} (word : isWord tag = true)
    (words : ∀ a ∈ attributes, isWord a.name = true) (inner : List String) :
    LinesIndented n (enclosed level tag attributes inner) ↔
      (∀ u ∈ attributes.map Attribute.body, Hangs n u) ∧ LinesIndented n inner := by
  have opening : Indented n (indent level ++ openTag tag attributes) ↔
      ∀ u ∈ attributes.map Attribute.body, Hangs n u := by
    rw [indent, indented_spaces_append_iff fits, openTag, hanging_opening word words]
    exact and_iff_left (hanging_of_single (by decide))
  have closing : Indented n (indent level ++ closeTag tag) := by
    rw [indent, indented_spaces_append_iff fits]
    exact hanging_of_single (lineFeed_not_mem_closeTag word)
  calc
    _ ↔ (Indented n (indent level ++ openTag tag attributes) ∧ LinesIndented n inner) ∧
        Indented n (indent level ++ closeTag tag) := by
      rw [enclosed, linesIndented_append, linesIndented_singleton, LinesIndented,
        List.forall_mem_cons]
      rfl
    _ ↔ _ := by rw [opening, and_iff_left closing]

mutual

/-- An element is indented where the texts on the lines of its tags are. -/
theorem Element.linesIndented_iff (e : Element) (level : Nat) (fits : n ≤ 2 * level)
    (named : e.Named) : LinesIndented n (e.lines level) ↔ ∀ u ∈ e.tagTexts, Hangs n u := by
  match e with
  | .inline tag attributes body =>
    have seen : (closeTag tag).toList.head?.any (!isBlank ·) = true := by
      simp [closeTag, isBlank]
    have closed : Hanging n (closeTag tag) := hanging_of_single (lineFeed_not_mem_closeTag named.1)
    have split : indent level ++ openTag tag attributes ++ body ++ closeTag tag =
        spaces (2 * level) ++
          ("<" ++ tag ++ spaced attributes ++ (">" ++ (body ++ closeTag tag))) := by
      simp only [openTag, indent, String.append_assoc]
    rw [Element.lines, linesIndented_singleton, split, indented_spaces_append_iff fits,
      hanging_opening named.1 named.2, hanging_append_left (by decide), hanging_append body seen,
      and_iff_left closed, Element.tagTexts, List.forall_mem_append, List.forall_mem_singleton]
  | .block tag attributes =>
    have opening : Indented n (indent level ++ "<" ++ tag) := by
      rw [indent, String.append_assoc, indented_spaces_append_iff fits]
      exact hanging_of_single (by simp [lineFeed_not_mem_word named.1])
    have closing : Indented n (indent level ++ "/>") := by
      rw [indent, indented_spaces_append_iff fits]
      exact hanging_of_single (by decide)
    have all : LinesIndented n ((Element.block tag attributes).lines level) := by
      rw [Element.lines, linesIndented_append, linesIndented_singleton]
      exact ⟨List.forall_mem_cons.mpr ⟨opening, linesIndented_attributeLines fits attributes⟩,
        closing⟩
    exact iff_of_true all nofun
  | .nested tag attributes children =>
    rw [Element.lines, Element.tagTexts, List.forall_mem_append]
    split
    · rename_i bare
      have closed : Hanging n " />" := hanging_of_single (by decide)
      rw [List.isEmpty_iff.mp bare, linesIndented_singleton, indent, String.append_assoc,
        String.append_assoc, String.append_assoc, indented_spaces_append_iff fits,
        ← String.append_assoc, ← String.append_assoc, hanging_opening named.1.1 named.1.2]
      exact and_congr_right fun _ => iff_of_true closed nofun
    · rw [linesIndented_enclosed fits named.1.1 named.1.2,
        linesIndented_forestLines children (level + 1) (by omega) named.2]

theorem linesIndented_forestLines (es : List Element) (level : Nat) (fits : n ≤ 2 * level)
    (named : ForestNamed es) :
    LinesIndented n (forestLines level es) ↔ ∀ u ∈ forestTagTexts es, Hangs n u := by
  match es with
  | [] => simp [forestLines, forestTagTexts, LinesIndented]
  | e :: es =>
    rw [forestLines, forestTagTexts, linesIndented_append, List.forall_mem_append,
      e.linesIndented_iff level fits named.1, linesIndented_forestLines es level fits named.2]

end

end Rows

theorem Element.lines_ne_nil (level : Nat) (e : Element) : e.lines level ≠ [] := by
  cases e with
  | inline => simp [Element.lines]
  | block => simp [Element.lines]
  | nested =>
    rw [Element.lines]
    split <;> simp [enclosed]

def shiftLine (k : Nat) (line : String) : String := if line.isEmpty then "" else spaces k ++ line

theorem spaces_append_spaces (m n : Nat) : spaces m ++ spaces n = spaces (m + n) := by
  rw [spaces, spaces, spaces, ← String.ofList_append, List.replicate_append_replicate]

theorem shiftLine_indent_append (m n : Nat) {s : String} (some : s ≠ "") :
    shiftLine (2 * n) (indent m ++ s) = indent (m + n) ++ s := by
  have filled : (indent m ++ s).isEmpty = false := by
    simp [some]
  rw [shiftLine, filled, if_neg Bool.false_ne_true, indent, indent, ← String.append_assoc,
    spaces_append_spaces]
  congr 2
  omega

theorem shiftLine_attributeLine (m n : Nat) (line : String) :
    shiftLine (2 * n) (attributeLine m line) = attributeLine (m + n) line := by
  rw [attributeLine, attributeLine]
  split
  · rfl
  · rw [String.append_assoc, String.append_assoc]
    exact shiftLine_indent_append m n (by simp)

section Lines

variable {tag : String} {attributes : List Attribute}

theorem openTag_ne_empty : openTag tag attributes ≠ "" := by simp [openTag]

theorem closeTag_ne_empty : closeTag tag ≠ "" := by simp [closeTag]

theorem map_shiftLine_enclosed (m n : Nat) (inner : List String) :
    (enclosed m tag attributes inner).map (shiftLine (2 * n)) =
      enclosed (m + n) tag attributes (inner.map (shiftLine (2 * n))) := by
  simp only [enclosed, List.map_append, List.map_cons, List.map_nil,
    shiftLine_indent_append m n openTag_ne_empty, shiftLine_indent_append m n closeTag_ne_empty]

end Lines

mutual

/-- The lines of an element move with its level. -/
theorem Element.lines_add (e : Element) (m n : Nat) :
    e.lines (m + n) = (e.lines m).map (shiftLine (2 * n)) := by
  match e with
  | .inline tag attributes body =>
    simp only [Element.lines, List.map_cons, List.map_nil, String.append_assoc]
    rw [shiftLine_indent_append m n (by simp [openTag_ne_empty])]
  | .block tag attributes =>
    simp only [Element.lines, List.map_append, List.map_cons, List.map_nil, List.map_flatMap,
      List.map_map, String.append_assoc]
    rw [shiftLine_indent_append m n (by simp), shiftLine_indent_append m n (by simp)]
    congr 3
    funext a
    exact List.map_congr_left fun line _ => (shiftLine_attributeLine m n line).symm
  | .nested tag attributes children =>
    rw [Element.lines, Element.lines]
    split
    · simp only [List.map_cons, List.map_nil, String.append_assoc]
      rw [shiftLine_indent_append m n (by simp)]
    · rw [map_shiftLine_enclosed, ← forestLines_add children (m + 1) n, Nat.add_right_comm]

theorem forestLines_add (es : List Element) (m n : Nat) :
    forestLines (m + n) es = (forestLines m es).map (shiftLine (2 * n)) := by
  match es with
  | [] => rfl
  | e :: es =>
    rw [forestLines, forestLines, List.map_append, e.lines_add m n, forestLines_add es m n]

end

theorem solid_attributeLine {level : Nat} {line : String} (solid : Solid line) :
    Solid (attributeLine level line) := by
  have filled : line.isEmpty = false := by
    simpa using solid.ne_empty
  have inner : Solid ("  " ++ line) := solid.spaces_append 2
  rw [attributeLine, filled, if_neg Bool.false_ne_true, String.append_assoc]
  exact inner.spaces_append _

theorem lineFeed_not_mem_written {a : Attribute} (word : isWord a.name = true)
    (single : '\n' ∉ a.body.toList) : '\n' ∉ a.written.toList := by
  have name := lineFeed_not_mem_word word
  cases a with
  | code key body =>
    have own : '\n' ∉ body.toList := single
    have key : '\n' ∉ key.toList := name
    simp [Attribute.written, key, own]
  | quoted key body =>
    have own : '\n' ∉ body.toList := single
    have key : '\n' ∉ key.toList := name
    simp [Attribute.written, key, own]

theorem lineFeed_not_mem_spaced {attributes : List Attribute}
    (words : ∀ a ∈ attributes, isWord a.name = true)
    (single : ∀ u ∈ attributes.map Attribute.body, '\n' ∉ u.toList) :
    '\n' ∉ (spaced attributes).toList := by
  have written : ∀ a ∈ attributes, '\n' ∉ a.written.toList := fun a member =>
    lineFeed_not_mem_written (words a member) (single _ (List.mem_map_of_mem member))
  simpa [spaced] using written

theorem solid_lines_written {a : Attribute} (word : isWord a.name = true)
    (single : '\n' ∉ a.body.toList) : ∀ l ∈ lines a.written, Solid l := by
  have whole := lineFeed_not_mem_written word single
  have ends : Solid a.written := by
    have brace : isBlank '\x7d' = false := by decide
    have quote : isBlank '"' = false := by decide
    cases a with
    | code key body => exact .of_getLast? whole (getLast?_toList_append _ rfl) brace
    | quoted key body => exact .of_getLast? whole (getLast?_toList_append _ rfl) quote
  rw [lines_of_single whole ends.ne_empty, List.forall_mem_singleton]
  exact ends

/-- A line that begins with a tag and ends in `>` is solid. -/
theorem solid_opening (level : Nat) {tag t : String} {attributes : List Attribute}
    (word : isWord tag = true) (words : ∀ a ∈ attributes, isWord a.name = true)
    (single : ∀ u ∈ attributes.map Attribute.body, '\n' ∉ u.toList)
    (rest : '\n' ∉ t.toList) (last : t.toList.getLast? = some '>') :
    Solid (indent level ++ ("<" ++ tag ++ spaced attributes ++ t)) := by
  have name := lineFeed_not_mem_word word
  have values := lineFeed_not_mem_spaced words single
  have whole : '\n' ∉ ("<" ++ tag ++ spaced attributes ++ t).toList := by
    simp [name, values, rest]
  exact (Solid.of_getLast? whole (getLast?_toList_append _ last) (by decide)).spaces_append _

theorem solid_closeTag {level : Nat} {tag : String} (word : isWord tag = true) :
    Solid (indent level ++ closeTag tag) := by
  have last : (closeTag tag).toList.getLast? = some '>' := getLast?_toList_append _ rfl
  exact (Solid.of_getLast? (lineFeed_not_mem_closeTag word) last (by decide)).spaces_append _

theorem solid_tagFront {level : Nat} {tag : String} (word : isWord tag = true) :
    Solid (indent level ++ "<" ++ tag) := by
  have name := lineFeed_not_mem_word word
  have front : Solid ("<" ++ tag) := by
    refine ⟨⟨by simp [name], fun last => ?_⟩, by simp [isBlankText, isBlank]⟩
    have member := List.mem_of_getLast? last
    rw [String.toList_append, List.mem_append] at member
    cases member with
    | inl sign => exact absurd sign (by decide)
    | inr inside => exact absurd (List.all_eq_true.mp word _ inside) (by decide)
  rw [String.append_assoc]
  exact front.spaces_append _

mutual

theorem Element.solid_lines (e : Element) (level : Nat) (named : e.Named)
    (single : ∀ u ∈ e.tagTexts, '\n' ∉ u.toList)
    (solid : ∀ a ∈ e.lineAttributes, ∀ l ∈ lines a.written, Solid l) :
    ∀ l ∈ e.lines level, Solid l := by
  match e with
  | .inline tag attributes body =>
    rw [Element.tagTexts, List.forall_mem_append, List.forall_mem_singleton] at single
    have closed := lineFeed_not_mem_closeTag named.1
    have last : (">" ++ body ++ closeTag tag).toList.getLast? = some '>' :=
      getLast?_toList_append _ (getLast?_toList_append _ rfl)
    have line := solid_opening level named.1 named.2 single.1
      (by simp [single.2, closed]) last
    rw [Element.lines, List.forall_mem_singleton]
    simpa only [openTag, String.append_assoc] using line
  | .block tag attributes =>
    have closing : Solid (indent level ++ "/>") :=
      (Solid.of_getLast? (by decide) (c := '>') rfl (by decide)).spaces_append _
    rw [Element.lines, List.forall_mem_append, List.forall_mem_cons, List.forall_mem_singleton]
    refine ⟨⟨solid_tagFront named.1, ?_⟩, closing⟩
    intro l member
    obtain ⟨a, among, written⟩ := List.mem_flatMap.mp member
    obtain ⟨line, inside, rfl⟩ := List.mem_map.mp written
    exact solid_attributeLine (solid a among line inside)
  | .nested tag attributes children =>
    rw [Element.tagTexts, List.forall_mem_append] at single
    have opening {t : String} (rest : '\n' ∉ t.toList) (last : t.toList.getLast? = some '>') :=
      solid_opening level named.1.1 named.1.2 single.1 rest last
    rw [Element.lines]
    split
    · rw [List.forall_mem_singleton]
      simpa only [String.append_assoc] using opening (t := " />") (by decide) rfl
    · rw [enclosed, List.forall_mem_append, List.forall_mem_cons, List.forall_mem_singleton]
      have inner := solid_forestLines children (level + 1) named.2 single.2 solid
      exact ⟨⟨opening (by decide) rfl, inner⟩, solid_closeTag named.1.1⟩

theorem solid_forestLines (es : List Element) (level : Nat) (named : ForestNamed es)
    (single : ∀ u ∈ forestTagTexts es, '\n' ∉ u.toList)
    (solid : ∀ a ∈ forestLineAttributes es, ∀ l ∈ lines a.written, Solid l) :
    ∀ l ∈ forestLines level es, Solid l := by
  match es with
  | [] => exact List.forall_mem_nil _
  | e :: es =>
    rw [forestTagTexts, List.forall_mem_append] at single
    rw [forestLineAttributes, List.forall_mem_append] at solid
    rw [forestLines, List.forall_mem_append]
    exact ⟨e.solid_lines level named.1 single.1 solid.1,
      solid_forestLines es level named.2 single.2 solid.2⟩

end

end AppScaffold.Markup

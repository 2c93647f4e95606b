import AppScaffold.Markup.Element
import AppScaffold.Proofs.Markup.Literal
import AppScaffold.Proofs.Text.Names

namespace AppScaffold.Markup

open Json Text

/-- What stands before the name of a primitive, and before that of a style rule. -/
inductive Mark
  | tag | style

namespace Mark

def text : Mark → String
  | tag => "<"
  | style => "styles."

def names (m : Mark) (s : String) : List String := namesAfter m.text s

theorem marked (m : Mark) : m.text ≠ "" := by
  cases m <;> decide

theorem inked (m : Mark) : Inked m.text := by
  cases m <;> decide

theorem quote (m : Mark) : Outside m.text "'" := by
  cases m <;> decide

theorem foreign (m : Mark) : Foreign m.text where
  marked := m.marked
  outside := by cases m <;> decide
  numeral := by cases m <;> decide
  words := by cases m <;> decide
  start := by cases m <;> decide

end Mark

def isGap (c : Char) : Bool := !isNameChar c && c != '.' && c != '<'

def endsInGap (s : String) : Bool := s.toList.getLast?.any isGap

def beginsInGap (s : String) : Bool := s.toList.head?.any fun c => isGap c || c == '<'

def isWord (s : String) : Bool := s.toList.all isNameChar

theorem endsInGap_append (a : String) {b : String} (gap : endsInGap b = true) :
    endsInGap (a ++ b) = true := by
  obtain ⟨c, last, isGap⟩ := (Option.any_eq_true _ _).mp gap
  rw [endsInGap, getLast?_toList_append a last]
  exact isGap

namespace Mark

variable (m : Mark)

theorem mem_text {c : Char} (member : c ∈ m.text.toList) :
    isNameChar c = true ∨ c = '.' ∨ c = '<' := by
  have all : m.text.toList.all (fun c => isNameChar c || c == '.' || c == '<') = true := by
    cases m <;> decide
  simpa [or_assoc] using List.all_eq_true.mp all c member

theorem parts {c : Char} (gap : isGap c = true) : Parts m.text c := by
  simp only [isGap, Bool.and_eq_true, Bool.not_eq_true', bne_iff_ne, ne_eq] at gap
  refine ⟨gap.1.1, fun member => ?_⟩
  rcases m.mem_text member with name | point | opening
  · rw [name] at gap
    cases gap.1.1
  · exact gap.1.2 point
  · exact gap.2 opening

theorem cuts_opening : Cuts m.text '<' := by
  cases m <;> exact ⟨by decide, by decide⟩

theorem names_append_of_endsInGap {a : String} (gap : endsInGap a = true) (b : String) :
    m.names (a ++ b) = m.names a ++ m.names b := by
  obtain ⟨c, last, isGap⟩ := (Option.any_eq_true _ _).mp gap
  exact namesAfter_append_of_getLast (m.parts isGap) m.marked last b

theorem names_append_of_beginsInGap (a : String) {b : String} (gap : beginsInGap b = true) :
    m.names (a ++ b) = m.names a ++ m.names b := by
  obtain ⟨c, first, fits⟩ := (Option.any_eq_true _ _).mp gap
  rw [Bool.or_eq_true, beq_iff_eq] at fits
  rcases fits with isGap | rfl
  · exact namesAfter_append_of_head (m.parts isGap).cuts a first
  · exact namesAfter_append_of_head m.cuts_opening a first

theorem names_blank_append {a : String} (blank : isBlankText a = true) (b : String) :
    m.names (a ++ b) = m.names b :=
  namesAfter_blank_append m.inked m.marked blank b

theorem names_gaps {s : String} (gaps : s.toList.all isGap = true) : m.names s = [] := by
  apply namesAfter_eq_nil
  apply Avoids.of_outside m.marked
  intro c member
  exact (m.parts (List.all_eq_true.mp gaps c member)).2

theorem avoids_word {s : String} (word : isWord s = true) : Avoids m.text s := by
  have sign : m.text.toList.all isNameChar = false := by
    cases m <;> decide
  intro occurs
  have all : m.text.toList.all isNameChar = true :=
    List.all_eq_true.mpr fun c member => List.all_eq_true.mp word c (occurs.subset member)
  rw [sign] at all
  cases all

theorem names_word {s : String} (word : isWord s = true) : m.names s = [] :=
  namesAfter_eq_nil (m.avoids_word word)

theorem names_behind {opening : String} (ends : endsInGap opening = true)
    (quiet : m.names opening = []) (s : String) : m.names (opening ++ s) = m.names s := by
  rw [m.names_append_of_endsInGap ends, quiet, List.nil_append]

theorem names_before {closing : String} (begins : beginsInGap closing = true)
    (quiet : m.names closing = []) (s : String) : m.names (s ++ closing) = m.names s := by
  rw [m.names_append_of_beginsInGap s begins, quiet, List.append_nil]

end Mark

def Attribute.name : Attribute → String
  | .code name _ | .quoted name _ => name

@[simp] theorem Attribute.name_code (key body : String) : (code key body).name = key := rfl

@[simp] theorem Attribute.name_quoted (key body : String) : (quoted key body).name = key := rfl

def Attribute.body : Attribute → String
  | .code _ body | .quoted _ body => body

@[simp] theorem Attribute.body_code (key body : String) : (code key body).body = body := rfl

@[simp] theorem Attribute.body_quoted (key body : String) : (quoted key body).body = body := rfl

mutual

def Element.Named : Element → Prop
  | .inline tag attributes _ | .block tag attributes =>
    isWord tag = true ∧ ∀ a ∈ attributes, isWord a.name = true
  | .nested tag attributes children =>
    (isWord tag = true ∧ ∀ a ∈ attributes, isWord a.name = true) ∧ ForestNamed children

def ForestNamed : List Element → Prop
  | [] => True
  | e :: es => e.Named ∧ ForestNamed es

end

def openingNames (m : Mark) (tag : String) (attributes : List Attribute) : List String :=
  m.names ("<" ++ tag) ++ attributes.flatMap fun a => m.names a.body

mutual

/-- The names in an element, in the order of the text. -/
def Element.mentions (m : Mark) : Element → List String
  | .inline tag attributes body => openingNames m tag attributes ++ m.names body
  | .block tag attributes => openingNames m tag attributes
  | .nested tag attributes children => openingNames m tag attributes ++ forestMentions m children

def forestMentions (m : Mark) : List Element → List String
  | [] => []
  | e :: es => e.mentions m ++ forestMentions m es

end

variable (m : Mark)

theorem names_assignment {key opening closing : String} (word : isWord key = true)
    (starts : beginsInGap opening = true ∧ endsInGap opening = true ∧
      opening.toList.all isGap = true)
    (ends : beginsInGap closing = true ∧ closing.toList.all isGap = true) (body : String) :
    m.names (key ++ opening ++ body ++ closing) = m.names body := by
  have front : m.names (key ++ opening) = [] := by
    rw [m.names_before starts.1 (m.names_gaps starts.2.2), m.names_word word]
  rw [m.names_before ends.1 (m.names_gaps ends.2),
    m.names_behind (endsInGap_append key starts.2.1) front]

theorem names_written {a : Attribute} (word : isWord a.name = true) :
    m.names a.written = m.names a.body := by
  cases a with
  | code key body => exact names_assignment m word (by decide) (by decide) body
  | quoted key body => exact names_assignment m word (by decide) (by decide) body

theorem endsInGap_written (a : Attribute) : endsInGap a.written = true := by
  cases a with
  | code key body => exact endsInGap_append _ (by decide)
  | quoted key body => exact endsInGap_append _ (by decide)

theorem names_spaced {attributes : List Attribute}
    (words : ∀ a ∈ attributes, isWord a.name = true) :
    m.names (spaced attributes) = attributes.flatMap fun a => m.names a.body := by
  induction attributes with
  | nil => rfl
  | cons a attributes ih =>
    rw [List.forall_mem_cons] at words
    have first : m.names (" " ++ a.written) = m.names a.body := by
      rw [m.names_blank_append (by decide), names_written m words.1]
    have rest := ih words.2
    rw [spaced] at rest ⊢
    rw [List.map_cons, String.join_cons,
      m.names_append_of_endsInGap (endsInGap_append " " (endsInGap_written a)), first, rest,
      List.flatMap_cons]

theorem names_opening (tag : String) {attributes : List Attribute}
    (words : ∀ a ∈ attributes, isWord a.name = true) :
    m.names ("<" ++ tag ++ spaced attributes) = openingNames m tag attributes := by
  rw [openingNames, ← names_spaced m words]
  cases attributes with
  | nil =>
    rw [show spaced [] = "" by rfl, String.append_empty]
    exact (List.append_nil _).symm
  | cons a attributes =>
    exact m.names_append_of_beginsInGap _ (by simp [beginsInGap, spaced, isGap, isNameChar])

theorem names_openTag (tag : String) {attributes : List Attribute}
    (words : ∀ a ∈ attributes, isWord a.name = true) :
    m.names (openTag tag attributes) = openingNames m tag attributes := by
  rw [openTag, m.names_append_of_beginsInGap _ (show beginsInGap ">" = true by decide),
    names_opening m tag words, m.names_gaps (by decide), List.append_nil]

theorem names_closeTag {tag : String} (word : isWord tag = true) : m.names (closeTag tag) = [] := by
  have opening : m.names "</" = [] := by
    cases m <;> decide
  rw [closeTag, m.names_append_of_beginsInGap _ (show beginsInGap ">" = true by decide),
    m.names_append_of_endsInGap (show endsInGap "</" = true by decide), opening, m.names_word word,
    m.names_gaps (by decide)]
  rfl

theorem names_indent_append (level : Nat) (s : String) : m.names (indent level ++ s) = m.names s :=
  namesAfter_spaces_append m.inked m.marked (2 * level) s

theorem names_attributeLine (level : Nat) (line : String) :
    m.names (attributeLine level line) = m.names line := by
  rw [attributeLine]
  split
  · rename_i empty
    rw [String.isEmpty_iff.mp empty]
  · rw [String.append_assoc, names_indent_append, m.names_blank_append (by decide)]

theorem names_attributeLines (level : Nat) {attributes : List Attribute}
    (words : ∀ a ∈ attributes, isWord a.name = true) :
    (attributes.flatMap fun a => (lines a.written).map (attributeLine level)).flatMap m.names =
      attributes.flatMap fun a => m.names a.body := by
  induction attributes with
  | nil => rfl
  | cons a attributes ih =>
    rw [List.forall_mem_cons] at words
    have first : ((lines a.written).map (attributeLine level)).flatMap m.names =
        m.names a.body := by
      rw [List.flatMap_map, ← names_written m words.1]
      simp only [names_attributeLine]
      exact namesAfter_lines m.inked m.marked a.written
    rw [List.flatMap_cons, List.flatMap_append, first, ih words.2, List.flatMap_cons]

theorem names_enclosed (level : Nat) {tag : String} {attributes : List Attribute}
    (word : isWord tag = true) (words : ∀ a ∈ attributes, isWord a.name = true)
    (inner : List String) :
    (enclosed level tag attributes inner).flatMap m.names =
      openingNames m tag attributes ++ inner.flatMap m.names := by
  rw [enclosed, List.cons_append, List.flatMap_cons, List.flatMap_append, List.flatMap_cons,
    names_indent_append, names_openTag m tag words, names_indent_append, names_closeTag m word,
    List.flatMap_nil, List.append_nil, List.append_nil]

mutual

theorem Element.names_lines (level : Nat) (e : Element) (named : e.Named) :
    (e.lines level).flatMap m.names = e.mentions m := by
  match e with
  | .inline tag attributes body =>
    have opening := names_openTag m tag named.2
    have closing := names_closeTag m named.1
    have ends : endsInGap (indent level ++ openTag tag attributes) = true :=
      endsInGap_append _ (endsInGap_append _ (by decide))
    rw [Element.lines, List.flatMap_singleton,
      m.names_append_of_beginsInGap _ (by simp [beginsInGap, closeTag]),
      m.names_append_of_endsInGap ends, names_indent_append, opening, closing, List.append_nil]
    rfl
  | .block tag attributes =>
    rw [Element.lines, List.cons_append, List.flatMap_cons, List.flatMap_append,
      names_attributeLines m level named.2, List.flatMap_singleton, String.append_assoc,
      names_indent_append, names_indent_append, m.names_gaps (s := "/>") (by decide),
      List.append_nil]
    rfl
  | .nested tag attributes children =>
    have opening := names_opening m tag named.1.2
    rw [Element.lines]
    split
    · rename_i empty
      rw [List.isEmpty_iff.mp empty, List.flatMap_singleton,
        m.names_append_of_beginsInGap _ (show beginsInGap " />" = true by decide),
        m.names_gaps (s := " />") (by decide), String.append_assoc, String.append_assoc,
        names_indent_append, ← String.append_assoc, opening]
      rfl
    · have inner := names_forestLines (level + 1) children named.2
      rw [names_enclosed m level named.1.1 named.1.2, inner]
      rfl

theorem names_forestLines (level : Nat) (es : List Element) (named : ForestNamed es) :
    (forestLines level es).flatMap m.names = forestMentions m es := by
  match es with
  | [] => rfl
  | e :: es =>
    rw [forestLines, List.flatMap_append, forestMentions, e.names_lines level named.1,
      names_forestLines level es named.2]

end

end AppScaffold.Markup

import AppScaffold.Proofs.Json.Compact
import AppScaffold.Proofs.Markup.Indentation
import AppScaffold.Proofs.Screen.Openings
import AppScaffold.Proofs.Screen.Placement

/-! The indentation of components. A component brings line feeds into its markup with the strings
that are written as they are. Those in attributes on lines of their own are indented with their
lines; shown texts and the program texts of presses are not, so that the rows behind their line
feeds begin as the strings make them. Without line feeds in any of these strings, markup moves with
its level. -/

namespace AppScaffold

open Json Markup Text

namespace Component

def shownTexts (c : Component) : List String :=
  match c.kind with
  | .title | .text | .button => c.content.toList.map Content.displayText
  | .list =>
    match c.content with
    | some (.text s) => [s]
    | _ => []
  | .unknown name => [name]
  | _ => []

def pressCode (c : Component) : List String :=
  match c.kind with
  | .button => if c.navigationTarget?.isNone then (nonEmpty c.onPress).toList else []
  | .touchableOpacity => (nonEmpty c.onPress).toList
  | _ => []

/-- The strings on the lines of tags that are written as they are: texts without signs of markup,
and program text. -/
def pasted (c : Component) : List String :=
  c.shownTexts.filter (fun s => !s.toList.any isSpecial) ++ c.pressCode

/-- The strings in attributes on lines of their own that are written as they are, quotes aside. -/
def reindented (c : Component) : List String :=
  match c.kind with
  | .textInput =>
    c.placeholder.toList ++ (nonEmpty c.value).toList ++ (nonEmpty c.onChangeText).toList
  | .image => (nonEmpty c.alt).toList
  | .flatList => (nonEmpty c.renderItem).toList ++ (nonEmpty c.keyExtractor).toList
  | _ => []

/-- The strings of a component that can bring line feeds into its markup. -/
def verbatim (c : Component) : List String := c.pasted ++ c.reindented

theorem tagTexts_elementAround (c : Component) (children : List Element) :
    (c.elementAround children).tagTexts =
      (c.elementAround []).tagTexts ++
        if c.kind.isContainer then forestTagTexts children else [] := by
  cases container : c.kind.isContainer with
  | false =>
    rw [elementAround_of_leaf container children [], if_neg Bool.false_ne_true, List.append_nil]
  | true =>
    obtain ⟨tag, attributes, element⟩ := elementAround_of_container container
    simp [element, Element.tagTexts, forestTagTexts]

theorem lineAttributes_elementAround (c : Component) (children : List Element) :
    (c.elementAround children).lineAttributes =
      (c.elementAround []).lineAttributes ++
        if c.kind.isContainer then forestLineAttributes children else [] := by
  cases container : c.kind.isContainer with
  | false =>
    rw [elementAround_of_leaf container children [], if_neg Bool.false_ne_true, List.append_nil]
  | true =>
    obtain ⟨tag, attributes, element⟩ := elementAround_of_container container
    simp [element, Element.lineAttributes, forestLineAttributes]

end Component

theorem forestTagTexts_forestElements (cs : List Component) :
    forestTagTexts (forestElements cs) =
      (walkForest .rendered cs).flatMap fun d => (d.elementAround []).tagTexts := by
  induction cs using forest_induction with
  | nil => rfl
  | cons c cs below behind =>
    rw [forestElements, forestTagTexts, walkForest, List.flatMap_append, behind, c.walk_eq,
      c.element_eq, c.tagTexts_elementAround, List.flatMap_cons, below]
    cases container : c.kind.isContainer with
    | true => simp [Extent.enters, container]
    | false => simp [Extent.enters, container, walkForest]

theorem forestLineAttributes_forestElements (cs : List Component) :
    forestLineAttributes (forestElements cs) =
      (walkForest .rendered cs).flatMap fun d => (d.elementAround []).lineAttributes := by
  induction cs using forest_induction with
  | nil => rfl
  | cons c cs below behind =>
    rw [forestElements, forestLineAttributes, walkForest, List.flatMap_append, behind, c.walk_eq,
      c.element_eq, c.lineAttributes_elementAround, List.flatMap_cons, below]
    cases container : c.kind.isContainer with
    | true => simp [Extent.enters, container]
    | false => simp [Extent.enters, container, walkForest]

theorem lineFeed_not_mem_reference (rule : StyleRule) : '\n' ∉ rule.reference.toList := by
  cases rule <;> decide

theorem lineFeed_not_mem_ruleStyle (rule : StyleRule) (own : Option Value) :
    '\n' ∉ (ruleStyle rule own).body.toList := by
  have reference := lineFeed_not_mem_reference rule
  cases own with
  | none => exact reference
  | some v =>
    have value := v.lineFeed_not_mem_compact
    simp [ruleStyle, styleAttribute, reference, value]

theorem lineFeed_not_mem_ownStyle (own : Option Value) :
    ∀ u ∈ (ownStyle own).map Attribute.body, '\n' ∉ u.toList := by
  cases own with
  | none => exact nofun
  | some v => simp [ownStyle, styleAttribute, v.lineFeed_not_mem_compact]

section Trailing

variable {P : String → Prop} (trailing : Trailing P)
include trailing

theorem trailing_bodyText (s : String) :
    P (bodyText s) ↔ (s.toList.any isSpecial = false → P s) := by
  cases special : s.toList.any isSpecial with
  | true =>
    have single := lineFeed_not_mem_bodyText (s := s) (by simp [special])
    exact iff_of_true (trailing.of_single single) nofun
  | false =>
    rw [bodyText, special, if_neg Bool.false_ne_true]
    simp

theorem trailing_body (c : Component) :
    P c.body ↔ ∀ u ∈ (c.content.toList.map Content.displayText).filter
      (fun s => !s.toList.any isSpecial), P u := by
  cases shown : c.content with
  | none =>
    rw [Component.body, shown]
    exact iff_of_true (trailing.of_single (by decide)) (List.forall_mem_nil _)
  | some content =>
    rw [Component.body, shown]
    exact (trailing_bodyText trailing content.displayText).trans (by simp [List.mem_filter])

theorem trailing_press (c : Component) (route : Option String) :
    P (c.pressAttribute route).body ↔
      ∀ u ∈ (if route.isNone then (nonEmpty c.onPress).toList else []), P u := by
  cases route with
  | some target =>
    have single : '\n' ∉ ("() => navigation.navigate(" ++ literal target ++ ")").toList := by
      simp [lineFeed_not_mem_literal]
    exact iff_of_true (trailing.of_single single) (List.forall_mem_nil _)
  | none =>
    have arrow : '\n' ∉ "() => ".toList := by decide
    rw [Component.pressAttribute, Attribute.body_code, Option.isNone_none, if_pos rfl]
    cases given : nonEmpty c.onPress with
    | none => exact iff_of_true (trailing.of_single (by decide)) (List.forall_mem_nil _)
    | some code => exact (trailing.append_left arrow code).trans (by simp)

theorem forall_tagTexts_iff (c : Component) :
    (∀ u ∈ (c.elementAround []).tagTexts, P u) ↔ ∀ u ∈ c.pasted, P u := by
  have ruled (rule : StyleRule) (own : Option Value) : P (ruleStyle rule own).body :=
    trailing.of_single (lineFeed_not_mem_ruleStyle rule own)
  have own : ∀ u ∈ (ownStyle c.style).map Attribute.body, P u := fun u member =>
    trailing.of_single (lineFeed_not_mem_ownStyle c.style u member)
  have shown (rule : StyleRule) : (∀ u ∈ (c.textElement rule).tagTexts, P u) ↔
      ∀ u ∈ (c.content.toList.map Content.displayText).filter
        (fun s => !s.toList.any isSpecial), P u := by
    rw [← trailing_body trailing c, Component.textElement, Element.tagTexts]
    simp [ruled]
  rw [Component.elementAround, Component.pasted, Component.shownTexts, Component.pressCode]
  cases kind : c.kind with
  | title => simpa using shown .title
  | text => simpa using shown .text
  | button =>
    have route := trailing_press trailing c c.navigationTarget?
    have label := trailing_body trailing c
    simp only [Component.buttonElement, Element.tagTexts, forestTagTexts, List.map_cons,
      List.map_nil, List.forall_mem_append, List.forall_mem_cons, route, label, ruled]
    simp [and_comm]
  | list =>
    cases given : c.content with
    | none => simp [Component.listElement, Component.rowsElement, given, Element.tagTexts]
    | some content =>
      cases content with
      | text s => simpa [Component.listElement, given, Content.displayText] using shown .text
      | items rows => simp [Component.listElement, Component.rowsElement, given, Element.tagTexts]
  | textInput => simp [Component.inputElement, Element.tagTexts]
  | image => simp [Component.imageElement, Element.tagTexts]
  | flatList => simp [Component.flatListElement, Element.tagTexts]
  | card => simpa [Element.tagTexts, forestTagTexts] using ruled .card c.style
  | scrollView => simpa [Element.tagTexts, forestTagTexts] using own
  | view => simpa [Element.tagTexts, forestTagTexts] using own
  | touchableOpacity =>
    have press := trailing_press trailing c none
    simp only [Element.tagTexts, forestTagTexts, List.map_append, List.map_cons, List.map_nil,
      List.forall_mem_append, List.forall_mem_cons, press]
    simpa using fun _ => own
  | safeAreaView => simpa [Element.tagTexts, forestTagTexts] using ruled .container c.style
  | unknown name =>
    have label : P ("Unsupported component: " ++ bodyText name) ↔ P (bodyText name) :=
      trailing.append_left (by decide) _
    have texts : (Component.unknownElement name).tagTexts =
        [(ruleStyle .text none).body, "Unsupported component: " ++ bodyText name] := rfl
    simp [texts, ruled, label, trailing_bodyText trailing]

end Trailing

theorem solid_lines_listRow :
    ∀ l ∈ lines (Attribute.code "renderItem" listRow).written, Solid l := by
  decide +kernel

theorem lineFeed_not_mem_filled {o : Option String} (other : String)
    (plain : '\n' ∉ other.toList) (single : ∀ u ∈ (nonEmpty o).toList, '\n' ∉ u.toList) :
    '\n' ∉ ((nonEmpty o).getD other).toList := by
  cases given : nonEmpty o with
  | none => exact plain
  | some u => exact single u (by simp [given])

theorem lineFeed_not_mem_rows (rows : List String) :
    '\n' ∉ ("[" ++ ", ".intercalate (rows.map literal) ++ "]").toList := by
  have items : Avoids "\n" (", ".intercalate (rows.map literal)) := by
    refine .intercalate (by decide) (by decide) (by decide) fun u member => ?_
    obtain ⟨row, -, rfl⟩ := List.mem_map.mp member
    exact avoids_lineFeed_iff.mpr (lineFeed_not_mem_literal row)
  exact avoids_lineFeed_iff.mp (.enclosed (by decide) (by decide) (by decide) items)

def Attribute.Settled (a : Attribute) : Prop :=
  '\n' ∉ a.body.toList ∨ a = .code "renderItem" listRow

theorem settled_ownStyle (own : Option Value) : ∀ a ∈ ownStyle own, Attribute.Settled a :=
  fun _ member => .inl (lineFeed_not_mem_ownStyle own _ (List.mem_map_of_mem member))

theorem settled_rowsElement (rows : List String) (c : Component) :
    ∀ a ∈ (c.rowsElement rows).lineAttributes, Attribute.Settled a := by
  have key : '\n' ∉ defaultKeyExtractor.toList := by decide
  simp only [Component.rowsElement, Element.lineAttributes, List.forall_mem_append,
    List.forall_mem_cons]
  exact ⟨⟨.inl (lineFeed_not_mem_rows rows), .inr rfl, .inl key, List.forall_mem_nil _⟩,
    settled_ownStyle c.style⟩

section Strings

variable {c : Component} (single : ∀ u ∈ c.reindented, '\n' ∉ u.toList)
include single

theorem settled_inputElement (kind : c.kind = .textInput) :
    ∀ a ∈ c.inputElement.lineAttributes, Attribute.Settled a := by
  simp only [Component.reindented, kind, List.forall_mem_append] at single
  obtain ⟨⟨placeholder, value⟩, change⟩ := single
  have shown : '\n' ∉ (c.placeholder.getD "").toList := by
    cases given : c.placeholder with
    | none => decide
    | some u => exact placeholder u (by simp [given])
  have style := lineFeed_not_mem_ruleStyle .input c.style
  have text := lineFeed_not_mem_attributeText shown
  have entered := lineFeed_not_mem_filled "''" (by decide) value
  have changed := lineFeed_not_mem_filled defaultChangeHandler (by decide) change
  simp only [Component.inputElement, Element.lineAttributes, List.forall_mem_cons]
  exact ⟨.inl style, .inl text, .inl entered, .inl changed, List.forall_mem_nil _⟩

theorem settled_imageElement (kind : c.kind = .image) :
    ∀ a ∈ c.imageElement.lineAttributes, Attribute.Settled a := by
  simp only [Component.reindented, kind] at single
  have source : '\n' ∉ ("\x7b uri: " ++ literal ((nonEmpty c.source).getD placeholderImage) ++
      " \x7d").toList := by
    simp [lineFeed_not_mem_literal]
  have style := lineFeed_not_mem_ruleStyle .image c.style
  have mode : '\n' ∉ "cover".toList := by decide
  simp only [Component.imageElement, Element.lineAttributes, List.forall_mem_append,
    List.forall_mem_cons, List.forall_mem_map]
  exact ⟨⟨.inl source, .inl style, .inl mode, List.forall_mem_nil _⟩, fun alt given =>
    .inl (lineFeed_not_mem_attributeText (single alt given))⟩

theorem settled_flatListElement (kind : c.kind = .flatList) :
    ∀ a ∈ c.flatListElement.lineAttributes, Attribute.Settled a := by
  simp only [Component.reindented, kind, List.forall_mem_append] at single
  have data := (Value.array (c.data.getD [])).lineFeed_not_mem_compact
  have item := lineFeed_not_mem_filled defaultRenderItem (by decide) single.1
  have key := lineFeed_not_mem_filled defaultKeyExtractor (by decide) single.2
  simp only [Component.flatListElement, Element.lineAttributes, List.forall_mem_append,
    List.forall_mem_cons]
  exact ⟨⟨.inl data, .inl item, .inl key, List.forall_mem_nil _⟩, settled_ownStyle c.style⟩

theorem settled_lineAttributes :
    ∀ a ∈ (c.elementAround []).lineAttributes, Attribute.Settled a := by
  rw [Component.elementAround]
  cases kind : c.kind with
  | list =>
    show ∀ a ∈ c.listElement.lineAttributes, _
    rw [Component.listElement]
    split
    · exact List.forall_mem_nil _
    · exact settled_rowsElement _ c
    · exact settled_rowsElement [] c
  | textInput => exact settled_inputElement single kind
  | image => exact settled_imageElement single kind
  | flatList => exact settled_flatListElement single kind
  | _ => exact List.forall_mem_nil _

theorem solid_lineAttributes :
    ∀ a ∈ (c.elementAround []).lineAttributes, ∀ l ∈ lines a.written, Solid l := by
  intro a member
  cases settled_lineAttributes single a member with
  | inl body =>
    have named : (c.elementAround []).Named := named_elementAround c trivial
    exact solid_lines_written (Element.isWord_of_mem_lineAttributes _ named a member) body
  | inr row =>
    rw [row]
    exact solid_lines_listRow

end Strings

theorem Component.forall_tagTexts_element {P : String → Prop} (trailing : Trailing P)
    (c : Component) :
    (∀ u ∈ c.element.tagTexts, P u) ↔ ∀ d ∈ c.walk .rendered, ∀ u ∈ d.pasted, P u := by
  have texts := forestTagTexts_forestElements [c]
  simp only [forestElements, forestTagTexts, walkForest, List.append_nil] at texts
  rw [texts, List.forall_mem_flatMap]
  exact forall₂_congr fun d _ => forall_tagTexts_iff trailing d

theorem Component.solid_lines_element {c : Component}
    (single : ∀ d ∈ c.walk .rendered, ∀ u ∈ d.verbatim, '\n' ∉ u.toList) (level : Nat) :
    ∀ l ∈ c.element.lines level, Solid l := by
  have pasted : ∀ d ∈ c.walk .rendered, ∀ u ∈ d.pasted, '\n' ∉ u.toList := fun d member u among =>
    single d member u (List.mem_append_left _ among)
  have reindented : ∀ d ∈ c.walk .rendered, ∀ u ∈ d.reindented, '\n' ∉ u.toList :=
    fun d member u among => single d member u (List.mem_append_right _ among)
  have attributes := forestLineAttributes_forestElements [c]
  simp only [forestElements, forestLineAttributes, walkForest, List.append_nil] at attributes
  apply c.element.solid_lines level c.named_element
  · exact (c.forall_tagTexts_element trailing_single).mpr pasted
  · rw [attributes, List.forall_mem_flatMap]
    exact fun d member => solid_lineAttributes (reindented d member)

/-- The rows of a component's markup are indented for its level exactly where those are that the
strings on the lines of tags bring with them. -/
theorem indented_render_iff (c : Component) (level : Nat) :
    Indented (2 * level) (c.render level) ↔
      ∀ d ∈ c.walk .rendered, ∀ u ∈ d.pasted, Hangs (2 * level) u := by
  rw [Component.render, indented_unlines_iff (c.element.lines_ne_nil level),
    c.element.linesIndented_iff level (Nat.le_refl _) c.named_element]
  exact c.forall_tagTexts_element (trailing_hangs _)

def twoRowTitle : Component := { kind := .title, content := some (.text "Hello\nworld") }

theorem not_indented_twoRowTitle : ¬ Indented 2 (twoRowTitle.render 1) := by
  decide +kernel

/-- Markup without line feeds from the strings of its components moves with its level: every line of
it has two more spaces in front of it for every further level. -/
theorem render_add (c : Component)
    (single : ∀ d ∈ c.walk .rendered, ∀ u ∈ d.verbatim, '\n' ∉ u.toList) (m n : Nat) :
    Text.lines (c.render (m + n)) = (Text.lines (c.render m)).map (spaces (2 * n) ++ ·) ∧
      c.render (m + n) = indentLines (c.render m) (2 * n) := by
  have solid := Component.solid_lines_element single
  have moved : c.element.lines (m + n) = (c.element.lines m).map (spaces (2 * n) ++ ·) := by
    rw [c.element.lines_add]
    refine List.map_congr_left fun l member => ?_
    have filled : l.isEmpty = false := by
      simpa using (solid m l member).ne_empty
    rw [shiftLine, filled, if_neg Bool.false_ne_true]
  constructor
  · rw [Component.render, Component.render, lines_unlines_of_solid (solid (m + n)),
      lines_unlines_of_solid (solid m), moved]
  · rw [Component.render, Component.render, indentLines_unlines (solid m), moved]

def scatteredCard : Component where
  kind := .card
  style := some (.object [("note", .string "one\ntwo")])
  children :=
    [{ kind := .list, content := some (.items ["Tea\nor coffee", "Cake"]) },
      { kind := .text, content := some (.text "1 > 0\nand 2 > 1") },
      { kind := .button, content := some (.text "More"), navigateTo := some "Next\nscreen",
        onPress := some "never(\n)" },
      { kind := .view, children := [{ kind := .textInput, placeholder := some "Name\r" }] },
      { kind := .title, children := [{ kind := .text, content := some (.text "not\nshown") }] }]

theorem render_add_scatteredCard :
    (∀ d ∈ scatteredCard.walk .rendered, ∀ u ∈ d.verbatim, '\n' ∉ u.toList) ∧
      Text.lines (scatteredCard.render (1 + 2)) =
        (Text.lines (scatteredCard.render 1)).map (spaces (2 * 2) ++ ·) ∧
      scatteredCard.render (1 + 2) = indentLines (scatteredCard.render 1) (2 * 2) := by
  have single : ∀ d ∈ scatteredCard.walk .rendered, ∀ u ∈ d.verbatim, '\n' ∉ u.toList := by
    decide +kernel
  exact ⟨single, render_add scatteredCard single 1 2⟩

end AppScaffold

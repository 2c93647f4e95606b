import AppScaffold.Proofs.Screen.Attributes
import AppScaffold.Proofs.Spec.Walk
import AppScaffold.Screen.Imports

namespace AppScaffold

open Json Markup Text

/-- A primitive that is opened, and the style rule in its opening tag. -/
abbrev Opening := NativePrimitive × Option StyleRule

def Opening.mentions (m : Mark) (o : Opening) : List String :=
  m.names ("<" ++ o.1.name) ++ o.2.toList.flatMap fun rule => m.names rule.reference

/-- What the element of a component opens, its children left aside. -/
def Component.openings (c : Component) : List Opening :=
  match c.kind with
  | .title => [(.text, some .title)]
  | .text | .unknown _ => [(.text, some .text)]
  | .button => [(.touchableOpacity, some .button), (.text, some .buttonText)]
  | .list =>
    match c.content with
    | some (.text _) => [(.text, some .text)]
    | _ => [(.flatList, none), (.view, some .listItem), (.text, some .listItemText)]
  | .textInput => [(.textInput, some .input)]
  | .image => [(.image, some .image)]
  | .card => [(.view, some .card)]
  | .view => [(.view, none)]
  | .scrollView => [(.scrollView, none)]
  | .touchableOpacity => [(.touchableOpacity, none)]
  | .flatList => (.flatList, none) :: if (nonEmpty c.renderItem).isNone then [(.text, none)] else []
  | .safeAreaView => [(.safeAreaView, some .container)]

theorem Component.map_fst_openings (c : Component) : c.openings.map Prod.fst = c.primitives := by
  rw [openings, primitives]
  cases c.kind with
  | list =>
    cases c.content with
    | none => rfl
    | some content => cases content <;> rfl
  | flatList =>
    dsimp only
    split <;> rfl
  | _ => rfl

section Names

variable (m : Mark)

theorem names_eq_nil {s : String} (avoids : Text.Avoids m.text s) : m.names s = [] :=
  namesAfter_eq_nil avoids

variable {c : Component} (avoids : c.Avoids m.text)
include avoids

theorem names_ownValue {v : Value} (own : c.style = some v) : m.names v.compact = [] :=
  names_eq_nil m (avoids_ownValue (Sign.of m).barred avoids own)

theorem names_ruleStyle (rule : StyleRule) :
    m.names (ruleStyle rule c.style).body = m.names rule.reference := by
  cases own : c.style with
  | none => rfl
  | some v =>
    have opened : endsInGap ("[" ++ rule.reference ++ ", ") = true :=
      endsInGap_append _ (by decide)
    rw [ruleStyle, styleAttribute, Attribute.body,
      m.names_append_of_beginsInGap _ (show beginsInGap "]" = true by decide),
      m.names_append_of_endsInGap opened,
      m.names_append_of_beginsInGap _ (show beginsInGap ", " = true by decide),
      m.names_append_of_endsInGap (show endsInGap "[" = true by decide),
      names_ownValue m avoids own, m.names_gaps (s := "[") (by decide),
      m.names_gaps (s := ", ") (by decide), m.names_gaps (s := "]") (by decide)]
    simp

theorem names_ownStyle : ((ownStyle c.style).flatMap fun a => m.names a.body) = [] := by
  cases own : c.style with
  | none => rfl
  | some v =>
    have inner := names_ownValue m avoids own
    rw [ownStyle, Option.toList_some, List.map_singleton, List.flatMap_singleton]
    exact inner

theorem names_body : m.names c.body = [] := names_eq_nil m (avoids_body (Sign.of m).barred avoids)

theorem names_press (route : Option String) (free : ∀ u, route = some u → Text.Avoids m.text u) :
    m.names (c.pressAttribute route).body = [] :=
  names_eq_nil m <| avoids_press (Sign.of m).barred avoids route fun u given =>
    (Sign.of m).avoids_call (free u given)

omit avoids in
theorem names_listRow :
    m.names listRow = Opening.mentions m (.view, some .listItem) ++
      Opening.mentions m (.text, some .listItemText) := by
  change namesAfter m.text (unlines _) = _
  rw [namesAfter_unlines m.inked m.marked]
  cases m <;> decide +kernel

omit avoids in
theorem names_defaultRenderItem :
    m.names defaultRenderItem = Opening.mentions m (.text, none) := by
  cases m <;> decide +kernel

theorem mentions_textElement (rule : StyleRule) :
    (c.textElement rule).mentions m = Opening.mentions m (.text, some rule) := by
  have style := names_ruleStyle m avoids rule
  have body := names_body m avoids
  simp only [Component.textElement, Element.mentions, openingNames, List.flatMap_cons,
    List.flatMap_nil, style, body, List.append_nil]
  simp [Opening.mentions, NativePrimitive.name]

theorem mentions_rowsElement (rows : List String) (free : ∀ u ∈ rows, Text.Avoids m.text u) :
    (c.rowsElement rows).mentions m = Opening.mentions m (.flatList, none) ++
      (Opening.mentions m (.view, some .listItem) ++
        Opening.mentions m (.text, some .listItemText)) := by
  have own := names_ownStyle m avoids
  have data : m.names ("[" ++ ", ".intercalate (rows.map literal) ++ "]") = [] :=
    names_eq_nil m (avoids_rows (Sign.of m).barred free)
  have key : m.names defaultKeyExtractor = [] :=
    names_eq_nil m (avoids_defaultKeyExtractor (Sign.of m).barred)
  simp only [Component.rowsElement, Element.mentions, openingNames, List.flatMap_append,
    List.flatMap_cons, List.flatMap_nil, Attribute.body_code, own, data, key, names_listRow,
    List.append_nil, List.nil_append]
  simp [Opening.mentions, NativePrimitive.name]

theorem mentions_buttonElement :
    c.buttonElement.mentions m = Opening.mentions m (.touchableOpacity, some .button) ++
      Opening.mentions m (.text, some .buttonText) := by
  have style := names_ruleStyle m avoids .button
  have inner : m.names (ruleStyle .buttonText none).body = m.names StyleRule.buttonText.reference :=
    rfl
  have press := names_press m avoids c.navigationTarget? fun _ target =>
    avoids _ (Component.mem_strings_of_target target)
  have body := names_body m avoids
  simp only [Component.buttonElement, Element.mentions, forestMentions, openingNames,
    List.flatMap_cons, List.flatMap_nil, style, inner, press, body, List.append_nil]
  simp [Opening.mentions, NativePrimitive.name]

theorem mentions_inputElement :
    c.inputElement.mentions m = Opening.mentions m (.textInput, some .input) := by
  have style := names_ruleStyle m avoids .input
  have placeholder : m.names (attributeText (c.placeholder.getD "")) = [] :=
    names_eq_nil m (avoids_placeholder (Sign.of m).barred avoids)
  have value : m.names ((nonEmpty c.value).getD "''") = [] :=
    names_eq_nil m (avoids_value (Sign.of m).barred avoids)
  have change : m.names ((nonEmpty c.onChangeText).getD defaultChangeHandler) = [] :=
    names_eq_nil m (avoids_changeHandler (Sign.of m).barred avoids)
  simp only [Component.inputElement, Element.mentions, openingNames, List.flatMap_cons,
    List.flatMap_nil, Attribute.body_code, Attribute.body_quoted, style, placeholder, value, change,
    List.append_nil]
  simp [Opening.mentions, NativePrimitive.name]

theorem mentions_imageElement :
    c.imageElement.mentions m = Opening.mentions m (.image, some .image) := by
  have style := names_ruleStyle m avoids .image
  have source : m.names
      ("\x7b uri: " ++ literal ((nonEmpty c.source).getD placeholderImage) ++ " \x7d") = [] :=
    names_eq_nil m (avoids_source (Sign.of m).barred avoids)
  have mode : m.names "cover" = [] := m.names_word (by decide)
  have label : (((nonEmpty c.alt).toList.map fun alt =>
      Attribute.quoted "accessibilityLabel" (attributeText alt)).flatMap fun a =>
        m.names a.body) = [] := by
    cases given : nonEmpty c.alt with
    | none => rfl
    | some u => simpa using names_eq_nil m (avoids_label (Sign.of m).barred avoids given)
  simp only [Component.imageElement, Element.mentions, openingNames, List.flatMap_append,
    List.flatMap_cons, List.flatMap_nil, Attribute.body_code, Attribute.body_quoted, style, source,
    mode, label, List.append_nil]
  simp [Opening.mentions, NativePrimitive.name]

theorem mentions_flatListElement :
    c.flatListElement.mentions m = Opening.mentions m (.flatList, none) ++
      if (nonEmpty c.renderItem).isNone then Opening.mentions m (.text, none) else [] := by
  have own := names_ownStyle m avoids
  have data : m.names (Value.array (c.data.getD [])).compact = [] :=
    names_eq_nil m (avoids_data (Sign.of m).barred avoids)
  have item : m.names ((nonEmpty c.renderItem).getD defaultRenderItem) =
      if (nonEmpty c.renderItem).isNone then Opening.mentions m (.text, none) else [] := by
    cases given : nonEmpty c.renderItem with
    | none => exact names_defaultRenderItem m
    | some u =>
      exact names_eq_nil m (avoids.nonEmpty (by simp [Component.attributes]) given)
  have key : m.names ((nonEmpty c.keyExtractor).getD defaultKeyExtractor) = [] :=
    names_eq_nil m (avoids_keyExtractor (Sign.of m).barred avoids)
  simp only [Component.flatListElement, Element.mentions, openingNames, List.flatMap_append,
    List.flatMap_cons, List.flatMap_nil, Attribute.body_code, own, data, item, key,
    List.append_nil, List.nil_append]
  simp [Opening.mentions, NativePrimitive.name]

omit avoids in
theorem mentions_unknownElement {name : String} (free : Text.Avoids m.text name) :
    (Component.unknownElement name).mentions m = Opening.mentions m (.text, some .text) := by
  have style : m.names (ruleStyle .text none).body = m.names StyleRule.text.reference := rfl
  have body : m.names ("Unsupported component: " ++ bodyText name) = [] :=
    names_eq_nil m (avoids_unknown (Sign.of m).barred free)
  simp only [Component.unknownElement, Element.mentions, openingNames, List.flatMap_cons,
    List.flatMap_nil, style, body, List.append_nil]
  simp [Opening.mentions, NativePrimitive.name]

theorem mentions_ruledElement (p : NativePrimitive) (rule : StyleRule) (children : List Element) :
    (Element.nested p.name [ruleStyle rule c.style] children).mentions m =
      Opening.mentions m (p, some rule) ++ forestMentions m children := by
  have style := names_ruleStyle m avoids rule
  simp only [Element.mentions, openingNames, List.flatMap_cons, List.flatMap_nil, style]
  simp [Opening.mentions]

theorem mentions_ownElement (p : NativePrimitive) (others : List Attribute)
    (quiet : (others.flatMap fun a => m.names a.body) = []) (children : List Element) :
    (Element.nested p.name (ownStyle c.style ++ others) children).mentions m =
      Opening.mentions m (p, none) ++ forestMentions m children := by
  have own := names_ownStyle m avoids
  simp only [Element.mentions, openingNames, List.flatMap_append, own, quiet]
  simp [Opening.mentions]

theorem mentions_elementAround (children : List Element) :
    (c.elementAround children).mentions m = c.openings.flatMap (Opening.mentions m) ++
      if c.kind.isContainer then forestMentions m children else [] := by
  have own := names_ownStyle m avoids
  rw [Component.elementAround, Component.openings]
  cases kind : c.kind with
  | title => simpa [ComponentKind.isContainer] using mentions_textElement m avoids .title
  | text => simpa [ComponentKind.isContainer] using mentions_textElement m avoids .text
  | button => simpa [ComponentKind.isContainer] using mentions_buttonElement m avoids
  | list =>
    cases shown : c.content with
    | none =>
      have rows := mentions_rowsElement m avoids [] (by simp)
      simpa [ComponentKind.isContainer, Component.listElement, shown] using rows
    | some content =>
      cases content with
      | text s =>
        have single := mentions_textElement m avoids .text
        simpa [ComponentKind.isContainer, Component.listElement, shown] using single
      | items rows =>
        have list := mentions_rowsElement m avoids rows (avoids.content shown)
        simpa [ComponentKind.isContainer, Component.listElement, shown] using list
  | textInput => simpa [ComponentKind.isContainer] using mentions_inputElement m avoids
  | image => simpa [ComponentKind.isContainer] using mentions_imageElement m avoids
  | card =>
    have card := mentions_ruledElement m avoids .view .card children
    simpa [ComponentKind.isContainer, NativePrimitive.name] using card
  | scrollView =>
    have around := mentions_ownElement m avoids .scrollView [] rfl children
    simpa [ComponentKind.isContainer, NativePrimitive.name] using around
  | view =>
    have around := mentions_ownElement m avoids .view [] rfl children
    simpa [ComponentKind.isContainer, NativePrimitive.name] using around
  | touchableOpacity =>
    have press := names_press m avoids none (by simp)
    have around := mentions_ownElement m avoids .touchableOpacity [c.pressAttribute none]
      (by simpa using press) children
    simpa [ComponentKind.isContainer, NativePrimitive.name] using around
  | flatList =>
    have list := mentions_flatListElement m avoids
    cases given : nonEmpty c.renderItem with
    | none => simpa [ComponentKind.isContainer, given] using list
    | some u => simpa [ComponentKind.isContainer, given] using list
  | safeAreaView =>
    have around := mentions_ruledElement m avoids .safeAreaView .container children
    simpa [ComponentKind.isContainer, NativePrimitive.name] using around
  | unknown name =>
    have unknown := mentions_unknownElement m (avoids.kind kind)
    simpa [ComponentKind.isContainer] using unknown

end Names

section Named

@[simp] theorem name_ruleStyle (rule : StyleRule) (own : Option Value) :
    (ruleStyle rule own).name = "style" := rfl

@[simp] theorem name_pressAttribute (route : Option String) (c : Component) :
    (c.pressAttribute route).name = "onPress" := rfl

theorem isWord_ownStyle (own : Option Value) : ∀ a ∈ ownStyle own, isWord a.name = true := by
  intro a member
  obtain ⟨v, -, rfl⟩ := List.mem_map.mp member
  exact show isWord "style" = true by decide

theorem isWord_label (alt : Option String) :
    ∀ a ∈ alt.toList.map fun alt => Attribute.quoted "accessibilityLabel" (attributeText alt),
      isWord a.name = true := by
  intro a member
  obtain ⟨v, -, rfl⟩ := List.mem_map.mp member
  exact show isWord "accessibilityLabel" = true by decide

theorem named_rowsElement (rows : List String) (c : Component) : (c.rowsElement rows).Named := by
  refine ⟨by decide, List.forall_mem_append.mpr ⟨?_, isWord_ownStyle c.style⟩⟩
  simp +decide

theorem named_listElement (c : Component) : c.listElement.Named := by
  rw [Component.listElement]
  split
  · simp +decide [Component.textElement, Element.Named]
  · exact named_rowsElement _ c
  · exact named_rowsElement [] c

theorem named_elementAround (c : Component) {children : List Element}
    (named : ForestNamed children) : (c.elementAround children).Named := by
  have own := isWord_ownStyle c.style
  rw [Component.elementAround]
  cases c.kind with
  | title => simp +decide [Component.textElement, Element.Named]
  | text => simp +decide [Component.textElement, Element.Named]
  | button => simp +decide [Component.buttonElement, Element.Named, ForestNamed]
  | list => exact named_listElement c
  | textInput => simp +decide [Component.inputElement, Element.Named]
  | image =>
    refine ⟨by decide, List.forall_mem_append.mpr ⟨?_, isWord_label (nonEmpty c.alt)⟩⟩
    simp +decide
  | card => simp +decide [Element.Named, named]
  | scrollView => exact ⟨⟨by decide, own⟩, named⟩
  | view => exact ⟨⟨by decide, own⟩, named⟩
  | touchableOpacity =>
    refine ⟨⟨by decide, List.forall_mem_append.mpr ⟨own, ?_⟩⟩, named⟩
    simp +decide
  | flatList =>
    refine ⟨by decide, List.forall_mem_append.mpr ⟨?_, own⟩⟩
    simp +decide
  | safeAreaView => simp +decide [Element.Named, named]
  | unknown name => simp +decide [Component.unknownElement, Element.Named]

end Named

section Trees

variable (m : Mark)

mutual

theorem Component.named_element (c : Component) : c.element.Named := by
  match c with
  | { children, .. } =>
    rw [Component.element]
    exact named_elementAround _ (named_forestElements children)

theorem named_forestElements (cs : List Component) : ForestNamed (forestElements cs) := by
  match cs with
  | [] => trivial
  | c :: cs => exact ⟨c.named_element, named_forestElements cs⟩

end

mutual

theorem Component.mentions_element (c : Component)
    (avoids : ∀ d ∈ c.walk .rendered, d.Avoids m.text) :
    c.element.mentions m =
      (c.walk .rendered).flatMap fun d => d.openings.flatMap (Opening.mentions m) := by
  match c with
  | { kind, children, .. } =>
    rw [Component.walk, List.forall_mem_cons] at avoids
    rw [Component.element, mentions_elementAround m avoids.1, Component.walk, List.flatMap_cons]
    by_cases container : kind.isContainer = true
    · have inner := mentions_forestElements children
        (by simpa [Extent.enters, container] using avoids.2)
      simp only [Extent.enters, container, if_true, inner]
    · simp only [Extent.enters, container]
      rfl

theorem mentions_forestElements (cs : List Component)
    (avoids : ∀ d ∈ walkForest .rendered cs, d.Avoids m.text) :
    forestMentions m (forestElements cs) =
      (walkForest .rendered cs).flatMap fun d => d.openings.flatMap (Opening.mentions m) := by
  match cs with
  | [] => rfl
  | c :: cs =>
    rw [walkForest, List.forall_mem_append] at avoids
    rw [forestElements, forestMentions, walkForest, List.flatMap_append,
      c.mentions_element avoids.1, mentions_forestElements cs avoids.2]

end

end Trees

end AppScaffold

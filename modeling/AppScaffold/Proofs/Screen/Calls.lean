import AppScaffold.Proofs.Markup.Places
import AppScaffold.Proofs.Screen.Attributes
import AppScaffold.Proofs.Screen.Indentation

namespace AppScaffold

open Json Markup Text

inductive Call
  | state | effect | accessor | navigate
  deriving DecidableEq

namespace Call

def text : Call → String
  | state => "useState("
  | effect => "useEffect("
  | accessor => "useNavigation"
  | navigate => "navigation.navigate("

end Call

/-- The front of a call that a line feed would complete, were it written as an escape. -/
def escapedCall : String := "\navigation.navigate("

/-- What the strings of a screen have to leave to its module. -/
def reserved : List String :=
  ["useState", "useEffect", "useNavigation", "navigation.", escapedCall]

def Unreserved (u : String) : Prop := ∀ r ∈ reserved, Text.Avoids r u

instance (u : String) : Decidable (Unreserved u) :=
  inferInstanceAs (Decidable (∀ r ∈ reserved, Text.Avoids r u))

theorem unreserved_of_stems {u : String} (free : Text.Avoids "use" u ∧ Text.Avoids "navigat" u) :
    Unreserved u := by
  have stemmed : ∀ r ∈ reserved,
      "use".toList <:+: r.toList ∨ "navigat".toList <:+: r.toList := by
    decide
  intro r known occurs
  cases stemmed r known with
  | inl stem => exact free.1 (stem.trans occurs)
  | inr stem => exact free.2 (stem.trans occurs)

def markupLabels : List String :=
  ["Text", "TouchableOpacity", "FlatList", "TextInput", "Image", "View", "ScrollView",
    "SafeAreaView", "style", "onPress", "data", "renderItem", "keyExtractor", "placeholder",
    "value", "onChangeText", "source", "resizeMode", "accessibilityLabel"]

def markupTexts : List String :=
  ["cover", listRow, defaultRenderItem, placeholderImage] ++ markupLabels ++ elementTexts ++
    StyleRule.all.map StyleRule.reference

theorem unreserved_markupTexts : ∀ t ∈ markupTexts, Unreserved t := by
  have plain : ∀ t ∈ markupTexts, Text.Avoids "use" t ∧ Text.Avoids "navigat" t := by
    decide +kernel
  exact fun t known => unreserved_of_stems (plain t known)

/-- What stands for a character is the character itself, or what a table has for it behind `lead`. -/
def Tabled (lead : Char) (table : List (Char × List Char)) (f : Char → List Char) : Prop :=
  ∀ c, f c = [c] ∨ ∃ rest, f c = lead :: rest ∧ (c, rest) ∈ table

def valueEscapes : List (Char × List Char) :=
  [('"', ['"']), ('\\', ['\\']), ('\x08', ['b']), ('\x0c', ['f']), ('\n', ['n']), ('\r', ['r']),
    ('\t', ['t'])] ++
  (List.range 32).map fun n =>
    (Char.ofNat n, ['u', '0', '0', hexDigit (n / 16), hexDigit (n % 16)])

def literalEscapes : List (Char × List Char) :=
  [('\\', ['\\']), ('\'', ['\'']), ('\n', ['n']), ('\r', ['r']), ('\t', ['t'])]

def attributeEscapes : List (Char × List Char) := [('"', ['q', 'u', 'o', 't', ';'])]

theorem tabled_escapeChar : Tabled '\\' valueEscapes escapeChar := by
  intro c
  unfold escapeChar
  split
  case h_8 =>
    split
    · rename_i control
      have small : c.toNat < 32 := control
      refine .inr ⟨_, rfl, List.mem_append_right _ (List.mem_map.mpr ⟨c.toNat, ?_, ?_⟩)⟩
      · exact List.mem_range.mpr small
      · rw [Char.ofNat_toNat]
    · exact .inl rfl
  all_goals exact .inr ⟨_, rfl, List.mem_append_left _ (by decide)⟩

theorem tabled_escape : Tabled '\\' literalEscapes escape := by
  intro c
  unfold escape
  split
  case h_6 => exact .inl rfl
  all_goals exact .inr ⟨_, rfl, by decide⟩

theorem tabled_attributeChar : Tabled '&' attributeEscapes attributeChar := by
  intro c
  unfold attributeChar
  split
  · exact .inr ⟨_, rfl, by decide⟩
  · exact .inl rfl

theorem Tabled.spells {lead : Char} {table : List (Char × List Char)} {f : Char → List Char}
    {mark : List Char} {sources : List (List Char)} (tabled : Tabled lead table f)
    (apart : lead ∉ mark)
    (each : ∀ e ∈ table, ¬ mark <:+: e.2 ∧
      ∀ t ∈ e.2.tails, t ≠ [] → t <+: mark → e.1 :: mark.drop t.length ∈ sources) :
    Spells mark sources f := by
  intro c
  cases tabled c with
  | inl same => exact .inl same
  | inr replaced =>
    obtain ⟨rest, written, known⟩ := replaced
    have entry := each (c, rest) known
    exact .inr ⟨lead, rest, written, apart, entry.1, fun t some ends =>
      entry.2 t ((List.mem_tails _ _).mpr ends) some⟩

namespace Call

variable (m : Call)

theorem spells_escapeChar : Spells m.text.toList [escapedCall.toList] escapeChar :=
  tabled_escapeChar.spells (by cases m <;> decide) (by cases m <;> decide)

theorem spells_escape : Spells m.text.toList [escapedCall.toList] escape :=
  tabled_escape.spells (by cases m <;> decide) (by cases m <;> decide)

theorem spells_attributeChar : Spells m.text.toList [escapedCall.toList] attributeChar :=
  tabled_attributeChar.spells (by cases m <;> decide) (by cases m <;> decide)

theorem marked : m.text ≠ "" := by
  cases m <;> decide

theorem inked : Inked m.text := by
  cases m <;> decide

theorem verbal : Verbal m.text where
  marked := m.marked
  inked := m.inked
  outside := by cases m <;> decide

theorem avoids_of_unreserved {u : String} (free : Unreserved u) : Text.Avoids m.text u := by
  have begun : ∃ r ∈ reserved, r.toList <:+: m.text.toList := by
    cases m <;> decide
  obtain ⟨r, known, front⟩ := begun
  exact fun occurs => free r known (front.trans occurs)

theorem avoids_markupTexts : ∀ t ∈ markupTexts, Text.Avoids m.text t :=
  fun t known => m.avoids_of_unreserved (unreserved_markupTexts t known)

theorem avoids_spelt {f : Char → List Char}
    (spells : Spells m.text.toList [escapedCall.toList] f) {u : String} (free : Unreserved u) :
    Text.Avoids m.text (String.ofList (u.toList.flatMap f)) := by
  refine (m.avoids_of_unreserved free).flatMap_of_spells spells ?_
  rw [List.forall_mem_singleton]
  exact free escapedCall (by simp [reserved])

theorem unwritten : Unwritten m.text where
  marked := m.marked
  outside := by cases m <;> decide
  numeral := by cases m <;> decide
  words := by cases m <;> decide

theorem barred : Barred m.text Unreserved where
  unwritten := m.unwritten
  outside := by cases m <;> decide
  plain := m.avoids_of_unreserved
  inValue free := by
    have quote := m.unwritten.punctuated (show "\"" ≠ "" by decide) (by decide)
    exact .enclosed m.marked quote quote (m.avoids_spelt m.spells_escapeChar free)
  inLiteral free := by
    have quote : "'" ≠ "" ∧ Outside m.text "'" := by
      cases m <;> decide
    exact .enclosed m.marked quote quote (m.avoids_spelt m.spells_escape free)
  inAttribute := m.avoids_spelt m.spells_attributeChar
  joined free := by
    have comma : ∀ r ∈ reserved, r ≠ "" ∧ Outside r ", " := by
      decide
    intro r known
    exact .intercalate (comma r known).1 (by decide) (comma r known).2 fun u member =>
      free u member r known
  fixed t known := m.avoids_markupTexts t (by simp [markupTexts, known])
  placeholder := unreserved_markupTexts _ (by simp [markupTexts])

theorem avoids_reference (rule : StyleRule) : Text.Avoids m.text rule.reference :=
  m.avoids_markupTexts _ (by cases rule <;> simp [markupTexts, StyleRule.all])

theorem places_call {k : Call} (called : k ≠ accessor) {a b : String}
    (before : Text.Avoids m.text a) (ends : endsOutside m.text a = true)
    (behind : Text.Avoids m.text b) :
    places m.text (a ++ (k.text ++ b)) = if m = k then [(a, b)] else [] := by
  have front : Unjoined m.text a (k.text ++ b) := .of_ends ends _
  have back : Unjoined m.text k.text b := by
    apply Unjoined.of_inits
    cases k with
    | accessor => exact absurd rfl called
    | _ => cases m <;> decide
  split
  · rename_i same
    subst same
    exact Placed.single m.marked (by cases m <;> decide) before behind front back
  · rename_i other
    have free : Text.Avoids m.text k.text := by
      cases m <;> cases k <;> first | exact absurd rfl other | decide +kernel
    rw [places_append front, places_append back, (places_eq_nil_iff m.marked).mpr before,
      (places_eq_nil_iff m.marked).mpr free, (places_eq_nil_iff m.marked).mpr behind]
    rfl

end Call

theorem label_ownStyle (own : Option Value) :
    ∀ l ∈ (ownStyle own).map Attribute.name, l ∈ markupLabels := by
  cases own with
  | none => exact List.forall_mem_nil _
  | some v => exact List.forall_mem_singleton.mpr (show "style" ∈ markupLabels by decide)

theorem label_rowsElement (rows : List String) (c : Component) :
    ∀ l ∈ (c.rowsElement rows).labels, l ∈ markupLabels := by
  have own := label_ownStyle c.style
  simp only [Component.rowsElement, Element.labels, List.map_append, List.forall_mem_cons,
    List.forall_mem_append]
  exact ⟨by decide, by simp +decide, own⟩

theorem label_elementAround (c : Component) {children : List Element}
    (known : ∀ l ∈ forestLabels children, l ∈ markupLabels) :
    ∀ l ∈ (c.elementAround children).labels, l ∈ markupLabels := by
  have own := label_ownStyle c.style
  rw [Component.elementAround]
  cases c.kind with
  | title => simp +decide [Component.textElement, Element.labels]
  | text => simp +decide [Component.textElement, Element.labels]
  | button => simp +decide [Component.buttonElement, Element.labels, forestLabels]
  | list =>
    show ∀ l ∈ c.listElement.labels, l ∈ markupLabels
    rw [Component.listElement]
    split
    · simp +decide [Component.textElement, Element.labels]
    · exact label_rowsElement _ c
    · exact label_rowsElement [] c
  | textInput => simp +decide [Component.inputElement, Element.labels]
  | image =>
    have alt : ∀ l ∈ ((nonEmpty c.alt).toList.map fun alt =>
        Attribute.quoted "accessibilityLabel" (attributeText alt)).map Attribute.name,
        l ∈ markupLabels := by
      simp +decide
    simp only [Component.imageElement, Element.labels, List.map_append, List.forall_mem_cons,
      List.forall_mem_append]
    exact ⟨by decide, by simp +decide, alt⟩
  | flatList =>
    simp only [Component.flatListElement, Element.labels, List.map_append, List.forall_mem_cons,
      List.forall_mem_append]
    exact ⟨by decide, by simp +decide, own⟩
  | card => simpa +decide [Element.labels] using known
  | safeAreaView => simpa +decide [Element.labels] using known
  | scrollView | view =>
    simp only [Element.labels, List.cons_append, List.forall_mem_cons, List.forall_mem_append]
    exact ⟨by decide, own, known⟩
  | touchableOpacity =>
    simp only [Element.labels, List.map_append, List.cons_append, List.forall_mem_cons,
      List.forall_mem_append]
    exact ⟨by decide, ⟨own, by simp +decide⟩, known⟩
  | unknown name => simp +decide [Component.unknownElement, Element.labels]

theorem label_forestElements (cs : List Component) :
    ∀ l ∈ forestLabels (forestElements cs), l ∈ markupLabels := by
  induction cs using forest_induction with
  | nil => exact List.forall_mem_nil _
  | cons c cs below behind =>
    rw [forestElements, forestLabels, List.forall_mem_append, c.element_eq]
    exact ⟨label_elementAround c below, behind⟩

def aroundRoute (target : String) : String × String := ("() => ", literal target ++ ")")

/-- What stands around the calls in the markup of a component, its children left aside. -/
def Component.calls (m : Call) (c : Component) : List (String × String) :=
  if m = .navigate then c.navigationTarget?.toList.map aroundRoute else []

section Components

variable (m : Call)

theorem places_route {target : String} (free : Unreserved target) :
    places m.text ("() => navigation.navigate(" ++ literal target ++ ")") =
      if m = .navigate then [aroundRoute target] else [] := by
  have arrow : Text.Avoids m.text "() => " ∧ endsOutside m.text "() => " = true := by
    cases m <;> decide
  have closing : Text.Avoids m.text ")" ∧ beginsOutside m.text ")" = true := by
    cases m <;> decide
  have split : "() => navigation.navigate(" ++ literal target ++ ")" =
      "() => " ++ (Call.navigate.text ++ (literal target ++ ")")) := by
    apply String.toList_injective
    simp [Call.text]
  rw [split]
  exact m.places_call (by decide) arrow.1 arrow.2
    ((m.barred.inLiteral free).append_of_begins closing.1 closing.2)

variable {c : Component} (free : ∀ u ∈ c.strings, Unreserved u)
include free

theorem avoids_bodies_ownStyle : ∀ a ∈ ownStyle c.style, Text.Avoids m.text a.body := by
  intro a member
  obtain ⟨v, own, rfl⟩ := List.mem_map.mp member
  exact avoids_ownValue m.barred free (Option.mem_toList.mp own)

theorem avoids_bodies_rowsElement {rows : List String} (shown : ∀ u ∈ rows, Unreserved u) :
    ∀ a ∈ (c.rowsElement rows).lineAttributes, Text.Avoids m.text a.body := by
  have row : Text.Avoids m.text listRow := m.avoids_markupTexts _ (by simp [markupTexts])
  simp only [Component.rowsElement, Element.lineAttributes, List.forall_mem_append,
    List.forall_mem_cons]
  exact ⟨⟨avoids_rows m.barred shown, row, avoids_defaultKeyExtractor m.barred,
    List.forall_mem_nil _⟩, avoids_bodies_ownStyle m free⟩

theorem avoids_lineAttributes :
    ∀ a ∈ (c.elementAround []).lineAttributes, Text.Avoids m.text a.body := by
  have ruled (rule : StyleRule) : Text.Avoids m.text (ruleStyle rule c.style).body :=
    avoids_ruleStyle m.barred free rule (m.avoids_reference rule)
  have own := avoids_bodies_ownStyle m free
  rw [Component.elementAround]
  cases kind : c.kind with
  | list =>
    show ∀ a ∈ c.listElement.lineAttributes, _
    rw [Component.listElement]
    split
    · exact List.forall_mem_nil _
    · rename_i rows shown
      exact avoids_bodies_rowsElement m free fun u member =>
        free u (Component.mem_strings_of_content shown member)
    · exact avoids_bodies_rowsElement m free (List.forall_mem_nil _)
  | textInput =>
    simp only [Component.inputElement, Element.lineAttributes, List.forall_mem_cons]
    exact ⟨ruled .input, avoids_placeholder m.barred free, avoids_value m.barred free,
      avoids_changeHandler m.barred free, List.forall_mem_nil _⟩
  | image =>
    have mode : Text.Avoids m.text "cover" := m.avoids_markupTexts _ (by simp [markupTexts])
    simp only [Component.imageElement, Element.lineAttributes, List.forall_mem_append,
      List.forall_mem_cons, List.forall_mem_map]
    exact ⟨⟨avoids_source m.barred free, ruled .image, mode, List.forall_mem_nil _⟩,
      fun alt given => avoids_label m.barred free (Option.mem_toList.mp given)⟩
  | flatList =>
    have item : Text.Avoids m.text defaultRenderItem :=
      m.avoids_markupTexts _ (by simp [markupTexts])
    simp only [Component.flatListElement, Element.lineAttributes, List.forall_mem_append,
      List.forall_mem_cons]
    exact ⟨⟨avoids_data m.barred free,
      avoids_filled m.barred free (by simp [Component.attributes]) item,
      avoids_keyExtractor m.barred free, List.forall_mem_nil _⟩, own⟩
  | _ => exact List.forall_mem_nil _

theorem avoids_tagTexts (other : c.kind ≠ .button) :
    ∀ u ∈ (c.elementAround []).tagTexts, Text.Avoids m.text u := by
  have ruled (rule : StyleRule) : Text.Avoids m.text (ruleStyle rule c.style).body :=
    avoids_ruleStyle m.barred free rule (m.avoids_reference rule)
  have own : ∀ u ∈ (ownStyle c.style).map Attribute.body, Text.Avoids m.text u := by
    rw [List.forall_mem_map]
    exact avoids_bodies_ownStyle m free
  have shown (rule : StyleRule) : ∀ u ∈ (c.textElement rule).tagTexts, Text.Avoids m.text u := by
    simp only [Component.textElement, Element.tagTexts, List.map_cons, List.map_nil,
      List.cons_append, List.nil_append, List.forall_mem_cons]
    exact ⟨ruled rule, avoids_body m.barred free, List.forall_mem_nil _⟩
  rw [Component.elementAround]
  cases kind : c.kind with
  | title => exact shown .title
  | text => exact shown .text
  | button => exact absurd kind other
  | list =>
    show ∀ u ∈ c.listElement.tagTexts, _
    rw [Component.listElement]
    split
    · exact shown .text
    · exact List.forall_mem_nil _
    · exact List.forall_mem_nil _
  | textInput | image | flatList => exact List.forall_mem_nil _
  | card => simpa [Element.tagTexts, forestTagTexts] using ruled .card
  | safeAreaView => simpa [Element.tagTexts, forestTagTexts] using ruled .container
  | scrollView | view => simpa [Element.tagTexts, forestTagTexts] using own
  | touchableOpacity =>
    have press : Text.Avoids m.text (c.pressAttribute none).body :=
      avoids_press m.barred free none fun u given => absurd given.symm (Option.some_ne_none u)
    simp only [Element.tagTexts, forestTagTexts, List.map_append, List.map_cons, List.map_nil,
      List.append_nil, List.forall_mem_append, List.forall_mem_singleton]
    exact ⟨own, press⟩
  | unknown name =>
    have label := avoids_unknown m.barred (free name (Component.mem_strings_of_kind kind))
    simp only [Component.unknownElement, Element.tagTexts, List.map_cons, List.map_nil,
      List.cons_append, List.nil_append, List.forall_mem_cons]
    exact ⟨m.avoids_reference .text, label, List.forall_mem_nil _⟩

theorem places_press :
    places m.text (c.pressAttribute c.navigationTarget?).body = c.calls m := by
  rw [Component.calls]
  cases target : c.navigationTarget? with
  | none =>
    have quiet := avoids_press m.barred free none nofun
    simpa using (places_eq_nil_iff m.marked).mpr quiet
  | some route => exact places_route m (free route (Component.mem_strings_of_target target))

theorem places_tagTexts :
    (c.elementAround []).tagTexts.flatMap (places m.text) = c.calls m := by
  have quiet {s : String} (avoids : Text.Avoids m.text s) : places m.text s = [] :=
    (places_eq_nil_iff m.marked).mpr avoids
  by_cases kind : c.kind = .button
  · have ruled := quiet (avoids_ruleStyle m.barred free .button (m.avoids_reference .button))
    have label : places m.text (ruleStyle .buttonText none).body = [] :=
      quiet (m.avoids_reference .buttonText)
    have body := quiet (avoids_body m.barred free)
    rw [Component.elementAround, kind]
    simp only [Component.buttonElement, Element.tagTexts, forestTagTexts, List.map_cons,
      List.map_nil, List.flatMap_append, List.flatMap_cons, List.flatMap_nil, ruled, label, body,
      places_press m free, List.append_nil, List.nil_append]
  · have none : c.navigationTarget? = none := by
      rw [Component.navigationTarget?]
      split
      · contradiction
      · rfl
    rw [Component.calls, none, Option.toList_none, List.map_nil, ite_self,
      List.flatMap_eq_nil_iff]
    exact fun u member => quiet (avoids_tagTexts m free kind u member)

end Components

theorem placed_forestElements (m : Call) {cs : List Component} (level : Nat)
    (free : ∀ d ∈ walkForest .rendered cs, ∀ u ∈ d.strings, Unreserved u) :
    Placed m.text (unlines (forestLines level (forestElements cs)))
      ((walkForest .rendered cs).flatMap (Component.calls m)) := by
  have labels : ∀ l ∈ forestLabels (forestElements cs), Text.Avoids m.text l := by
    intro l member
    exact m.avoids_markupTexts l (by simp [markupTexts, label_forestElements cs l member])
  have bodies : ∀ a ∈ forestLineAttributes (forestElements cs), Text.Avoids m.text a.body := by
    rw [forestLineAttributes_forestElements, List.forall_mem_flatMap]
    exact fun d member => avoids_lineAttributes m (free d member)
  have texts : (forestTagTexts (forestElements cs)).flatMap (places m.text) =
      (walkForest .rendered cs).flatMap (Component.calls m) := by
    rw [forestTagTexts_forestElements, List.flatMap_assoc]
    exact List.flatMap_congr fun d member => places_tagTexts m (free d member)
  rw [← texts]
  exact placed_forestLines m.verbal _ level labels bodies

end AppScaffold

import AppScaffold.Proofs.Markup.Nesting
import AppScaffold.Proofs.Screen.Frame
import AppScaffold.Proofs.Screen.Openings

namespace AppScaffold

open Json Markup Text

/-- No string of the component holds the front of a tag, or the end of one that closes itself. -/
structure Component.Untagged (c : Component) : Prop where
  openings : c.Avoids "<"
  endings : c.Avoids "/>"

instance (c : Component) : Decidable c.Untagged :=
  decidable_of_iff (c.Avoids "<" ∧ c.Avoids "/>") ⟨fun h => ⟨h.1, h.2⟩, fun h => ⟨h.1, h.2⟩⟩

structure Screen.Untagged (s : Screen) : Prop where
  openings : s.Avoids "<"
  endings : s.Avoids "/>"

instance (s : Screen) : Decidable s.Untagged :=
  decidable_of_iff (s.Avoids "<" ∧ s.Avoids "/>") ⟨fun h => ⟨h.1, h.2⟩, fun h => ⟨h.1, h.2⟩⟩

theorem steady_listRow : Steady listRow := by
  rw [steady_iff_wellNested]
  decide +kernel

theorem steady_defaultRenderItem : Steady defaultRenderItem := by
  rw [steady_iff_wellNested]
  decide +kernel

theorem isTag_name (p : NativePrimitive) : IsTag p.name := by
  cases p <;> decide +kernel

theorem avoids_reference (rule : StyleRule) :
    Text.Avoids "<" rule.reference ∧ Text.Avoids "/>" rule.reference := by
  cases rule <;> decide +kernel

theorem tidy_plainText (rule : StyleRule) {body : String} (steady : Steady body) :
    (Element.inline "Text" [ruleStyle rule none] body).Tidy := by
  obtain ⟨openings, endings⟩ := avoids_reference rule
  refine ⟨⟨isTag_name .text, ?_⟩, steady⟩
  simp only [List.forall_mem_cons]
  exact ⟨steady_of_avoids openings endings, List.forall_mem_nil _⟩

section Elements

variable {c : Component} (untagged : c.Untagged)
include untagged

theorem Component.Untagged.steady {s : String}
    (avoids : ∀ g : Sign, c.Avoids g.text → Text.Avoids g.text s) : Steady s :=
  steady_of_avoids (avoids (.of .tag) untagged.openings) (avoids .ending untagged.endings)

theorem steady_ruleStyle (rule : StyleRule) : Steady (ruleStyle rule c.style).body := by
  obtain ⟨openings, endings⟩ := avoids_reference rule
  exact steady_of_avoids (avoids_ruleStyle (Sign.of .tag).barred untagged.openings rule openings)
    (avoids_ruleStyle Sign.ending.barred untagged.endings rule endings)

theorem steady_ownStyle : ∀ a ∈ ownStyle c.style, Steady a.body := by
  intro a member
  obtain ⟨v, own, rfl⟩ := List.mem_map.mp member
  exact untagged.steady fun g avoids => avoids_ownValue g.barred avoids (Option.mem_toList.mp own)

theorem tidy_textElement (rule : StyleRule) : (c.textElement rule).Tidy := by
  refine ⟨⟨isTag_name .text, ?_⟩, untagged.steady fun g => avoids_body g.barred⟩
  simp only [List.forall_mem_cons]
  exact ⟨steady_ruleStyle untagged rule, List.forall_mem_nil _⟩

theorem tidy_rowsElement {rows : List String}
    (free : ∀ g : Sign, c.Avoids g.text → ∀ u ∈ rows, Text.Avoids g.text u) :
    (c.rowsElement rows).Tidy := by
  have data : Steady ("[" ++ ", ".intercalate (rows.map literal) ++ "]") :=
    untagged.steady fun g avoids => avoids_rows g.barred (free g avoids)
  have key : Steady defaultKeyExtractor := untagged.steady fun g _ => avoids_defaultKeyExtractor g.barred
  refine ⟨isTag_name .flatList, List.forall_mem_append.mpr ⟨?_, steady_ownStyle untagged⟩⟩
  simp only [List.forall_mem_cons]
  exact ⟨data, steady_listRow, key, List.forall_mem_nil _⟩

theorem tidy_listElement : c.listElement.Tidy := by
  rw [Component.listElement]
  split
  · exact tidy_textElement untagged .text
  · rename_i rows shown
    exact tidy_rowsElement untagged fun g avoids => avoids.content shown
  · exact tidy_rowsElement untagged fun g _ => List.forall_mem_nil _

theorem tidy_buttonElement : c.buttonElement.Tidy := by
  have press : Steady (c.pressAttribute c.navigationTarget?).body :=
    untagged.steady fun g avoids => avoids_press g.barred avoids _ fun u target =>
      g.avoids_call (avoids u (Component.mem_strings_of_target target))
  have label := tidy_plainText .buttonText (untagged.steady fun g => avoids_body g.barred)
  refine ⟨⟨isTag_name .touchableOpacity, ?_⟩, label, trivial⟩
  simp only [List.forall_mem_cons]
  exact ⟨steady_ruleStyle untagged .button, press, List.forall_mem_nil _⟩

theorem tidy_inputElement : c.inputElement.Tidy := by
  refine ⟨isTag_name .textInput, ?_⟩
  simp only [List.forall_mem_cons]
  exact ⟨steady_ruleStyle untagged .input, untagged.steady fun g => avoids_placeholder g.barred,
    untagged.steady fun g => avoids_value g.barred, untagged.steady fun g => avoids_changeHandler g.barred,
    List.forall_mem_nil _⟩

theorem tidy_imageElement : c.imageElement.Tidy := by
  have mode : Steady "cover" := steady_word (by decide)
  refine ⟨isTag_name .image, List.forall_mem_append.mpr ⟨?_, ?_⟩⟩
  · simp only [List.forall_mem_cons]
    exact ⟨untagged.steady fun g => avoids_source g.barred, steady_ruleStyle untagged .image, mode,
      List.forall_mem_nil _⟩
  · intro a member
    obtain ⟨alt, given, rfl⟩ := List.mem_map.mp member
    exact untagged.steady fun g avoids => avoids_label g.barred avoids (Option.mem_toList.mp given)

theorem tidy_flatListElement : c.flatListElement.Tidy := by
  have item : Steady ((nonEmpty c.renderItem).getD defaultRenderItem) := by
    cases given : nonEmpty c.renderItem with
    | none => exact steady_defaultRenderItem
    | some u =>
      exact untagged.steady fun g avoids => avoids.nonEmpty (by simp [Component.attributes]) given
  refine ⟨isTag_name .flatList, List.forall_mem_append.mpr ⟨?_, steady_ownStyle untagged⟩⟩
  simp only [List.forall_mem_cons]
  exact ⟨untagged.steady fun g => avoids_data g.barred, item,
    untagged.steady fun g => avoids_keyExtractor g.barred, List.forall_mem_nil _⟩

theorem tidy_elementAround {children : List Element}
    (inner : c.kind.isContainer = true → ForestTidy children) :
    (c.elementAround children).Tidy := by
  have own := steady_ownStyle untagged
  have ruled (rule : StyleRule) : ∀ a ∈ [ruleStyle rule c.style], Steady a.body := by
    simp only [List.forall_mem_cons]
    exact ⟨steady_ruleStyle untagged rule, List.forall_mem_nil _⟩
  rw [Component.elementAround]
  cases kind : c.kind with
  | title => exact tidy_textElement untagged .title
  | text => exact tidy_textElement untagged .text
  | button => exact tidy_buttonElement untagged
  | list => exact tidy_listElement untagged
  | textInput => exact tidy_inputElement untagged
  | image => exact tidy_imageElement untagged
  | flatList => exact tidy_flatListElement untagged
  | card => exact ⟨⟨isTag_name .view, ruled .card⟩, inner (by rw [kind]; rfl)⟩
  | scrollView => exact ⟨⟨isTag_name .scrollView, own⟩, inner (by rw [kind]; rfl)⟩
  | view => exact ⟨⟨isTag_name .view, own⟩, inner (by rw [kind]; rfl)⟩
  | touchableOpacity =>
    have press : ∀ a ∈ [c.pressAttribute none], Steady a.body := by
      simp only [List.forall_mem_cons]
      exact ⟨untagged.steady fun g avoids => avoids_press g.barred avoids none (by simp),
        List.forall_mem_nil _⟩
    exact ⟨⟨isTag_name .touchableOpacity, List.forall_mem_append.mpr ⟨own, press⟩⟩,
      inner (by rw [kind]; rfl)⟩
  | safeAreaView => exact ⟨⟨isTag_name .safeAreaView, ruled .container⟩, inner (by rw [kind]; rfl)⟩
  | unknown name =>
    exact tidy_plainText .text
      (untagged.steady fun g avoids => avoids_unknown g.barred (avoids.kind kind))

end Elements

mutual

theorem Component.tidy_element (c : Component) (untagged : ∀ d ∈ c.walk .rendered, d.Untagged) :
    c.element.Tidy := by
  match c with
  | { kind, children, .. } =>
    rw [Component.walk, List.forall_mem_cons] at untagged
    rw [Component.element]
    apply tidy_elementAround untagged.1
    intro container
    have entered : kind.isContainer = true := container
    exact tidy_forestElements children (by simpa [Extent.enters, entered] using untagged.2)

theorem tidy_forestElements (cs : List Component)
    (untagged : ∀ d ∈ walkForest .rendered cs, d.Untagged) : ForestTidy (forestElements cs) := by
  match cs with
  | [] => trivial
  | c :: cs =>
    rw [walkForest, List.forall_mem_append] at untagged
    exact ⟨c.tidy_element untagged.1, tidy_forestElements cs untagged.2⟩

end

theorem linesTurn_markupLines {s : Screen} (untagged : s.Untagged) :
    LinesTurn [] s.markupLines [] := by
  have components : ∀ d ∈ walkForest .rendered s.components, d.Untagged := fun d member =>
    ⟨untagged.openings.rendered member, untagged.endings.rendered member⟩
  have inner := linesTurn_forestLines 4 _ (named_forestElements s.components)
    (tidy_forestElements s.components components)
  have steady {name : String} {rule : StyleRule} (word : isWord name = true) :
      SteadyBodies [.code name rule.reference] := by
    obtain ⟨openings, endings⟩ := avoids_reference rule
    simp only [SteadyBodies, List.forall_mem_cons]
    exact ⟨⟨word, steady_of_avoids openings endings⟩, List.forall_mem_nil _⟩
  have container : SteadyBodies [styleAttribute StyleRule.container.reference] :=
    steady (by decide)
  have content : SteadyBodies [.code "contentContainerStyle" StyleRule.content.reference] :=
    steady (by decide)
  exact linesTurn_enclosed 2 (isTag_name .safeAreaView) container
    (linesTurn_enclosed 3 (isTag_name .scrollView) content inner)

theorem linesTurn_of_avoids {ls : List String} (openings : ∀ l ∈ ls, Text.Avoids "<" l)
    (endings : ∀ l ∈ ls, Text.Avoids "/>" l) : LinesTurn [] ls [] :=
  .of_forall fun l member => steady_of_avoids (openings l member) (endings l member)

/-- The tags in the module of a screen nest, and so do those in the markup of a component, at
whatever level it stands. -/
theorem wellNested_markup :
    (∀ s : Screen, s.Untagged → WellNested s.moduleText) ∧
      ∀ c : Component, (∀ d ∈ c.walk .rendered, d.Untagged) →
        ∀ level, WellNested (c.render level) := by
  constructor
  · intro s untagged
    have above := linesTurn_of_avoids (avoids_linesAbove (.of .tag) untagged.openings)
      (avoids_linesAbove .ending untagged.endings)
    have below := linesTurn_of_avoids (avoids_linesBelow (.of .tag)) (avoids_linesBelow .ending)
    rw [← steady_iff_wellNested, Screen.moduleText, s.lines_eq]
    exact ((above.append (linesTurn_markupLines untagged)).append below).steady_unlines
  · intro c untagged level
    rw [← steady_iff_wellNested, Component.render]
    exact (c.element.linesTurn level c.named_element (c.tidy_element untagged)).steady_unlines

def crowdedCard : Component where
  kind := .card
  children :=
    [{ kind := .text, content := some (.text "1 > 0") },
      { kind := .list, content := some (.items ["Tea", "and/or"]) }, { kind := .flatList },
      { kind := .view }]

def crowdedScreen : Screen where
  name := "Shop"
  path := "/shop"
  components := [crowdedCard, { kind := .button, onPress := some "half(x /\n> 2)" }]
  state := [{ name := "count", initialValue := .array [.string ">"] }]

theorem wellNested_crowdedScreen :
    crowdedScreen.Untagged ∧ (∀ d ∈ crowdedCard.walk .rendered, d.Untagged) ∧
      WellNested crowdedScreen.moduleText ∧ WellNested (crowdedCard.render 3) := by
  have screen : crowdedScreen.Untagged := by
    decide +kernel
  have card : ∀ d ∈ crowdedCard.walk .rendered, d.Untagged := by
    decide +kernel
  exact ⟨screen, card, wellNested_markup.1 crowdedScreen screen,
    wellNested_markup.2 crowdedCard card 3⟩

end AppScaffold

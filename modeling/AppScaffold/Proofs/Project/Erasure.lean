import AppScaffold.Project.Generate
import AppScaffold.Proofs.Screen.Placement

/-! What a project does not depend on. A specification is erased to the attributes that the kinds of
its components use, and its project stays the same, file by file. -/

namespace AppScaffold

open Log

/-- The attributes that the kind of a component uses, around the given children. An empty string
is left out like one that is not given. -/
def Component.essence (c : Component) (children : List Component) : Component :=
  match c.kind with
  | .title | .text | .list => { kind := c.kind, content := c.content, style := c.style }
  | .button =>
    { kind := c.kind, content := c.content, style := c.style
      navigateTo := nonEmpty c.navigateTo, onPress := nonEmpty c.onPress }
  | .textInput =>
    { kind := c.kind, style := c.style, placeholder := nonEmpty c.placeholder
      value := nonEmpty c.value, onChangeText := nonEmpty c.onChangeText }
  | .image =>
    { kind := c.kind, style := c.style, source := nonEmpty c.source, alt := nonEmpty c.alt }
  | .flatList =>
    { kind := c.kind, style := c.style, data := c.data, renderItem := nonEmpty c.renderItem
      keyExtractor := nonEmpty c.keyExtractor }
  | .touchableOpacity =>
    { kind := c.kind, style := c.style, onPress := nonEmpty c.onPress, children }
  | .card | .scrollView | .view | .safeAreaView => { kind := c.kind, style := c.style, children }
  | .unknown _ => { kind := c.kind }

mutual

def Component.erase (c : Component) : Component :=
  match c with
  | { children, .. } => c.essence (eraseForest children)

def eraseForest : List Component → List Component
  | [] => []
  | c :: cs => c.erase :: eraseForest cs

end

/-- The screen without its path, the types of its state and what its components do not use. -/
def Screen.erase (s : Screen) : Screen :=
  { s with
    path := "", components := eraseForest s.components
    state := s.state.map fun b => { b with type := "" } }

def AppSpecification.erase (spec : AppSpecification) : AppSpecification :=
  { spec with screens := spec.screens.map Screen.erase }

@[simp] theorem nonEmpty_nonEmpty (s : Option String) : nonEmpty (nonEmpty s) = nonEmpty s := by
  simp [nonEmpty]

@[simp] theorem getD_nonEmpty (s : Option String) : (nonEmpty s).getD "" = s.getD "" := by
  cases s with
  | none => rfl
  | some s => by_cases empty : s = "" <;> simp [nonEmpty, Option.filter, empty]

namespace Component

theorem erase_eq (c : Component) : c.erase = c.essence (eraseForest c.children) := by
  cases c
  rw [erase]

@[simp] theorem kind_essence (c : Component) (children : List Component) :
    (c.essence children).kind = c.kind := by
  unfold essence
  split <;> rfl

theorem children_essence (c : Component) (children : List Component) :
    (c.essence children).children = if c.kind.isContainer then children else [] := by
  unfold essence
  cases c.kind <;> rfl

@[simp] theorem navigationTarget?_essence (c : Component) (children : List Component) :
    (c.essence children).navigationTarget? = c.navigationTarget? := by
  cases kind : c.kind <;> simp [essence, navigationTarget?, kind]

@[simp] theorem primitives_essence (c : Component) (children : List Component) :
    (c.essence children).primitives = c.primitives := by
  cases kind : c.kind <;> simp [essence, primitives, kind]

@[simp] theorem notes_essence (c : Component) (children : List Component) :
    (c.essence children).notes = c.notes := by
  cases kind : c.kind <;> simp [essence, notes, kind]

theorem notesAround_essence (c : Component) (children : List Component) (inner : List Event) :
    (c.essence children).notesAround inner = c.notesAround inner := by
  rw [notesAround, notesAround, kind_essence, notes_essence]

theorem elementAround_essence (c : Component) (children : List Component)
    (elements : List Markup.Element) :
    (c.essence children).elementAround elements = c.elementAround elements := by
  cases kind : c.kind with
  | title | text => simp [essence, elementAround, kind, textElement, body]
  | button =>
    have target := navigationTarget?_essence c children
    simp [essence, kind] at target
    simp [essence, elementAround, kind, buttonElement, pressAttribute, body, target]
  | list => simp [essence, elementAround, kind, listElement, textElement, rowsElement, body]
  | textInput => simp [essence, elementAround, kind, inputElement]
  | image => simp [essence, elementAround, kind, imageElement]
  | flatList => simp [essence, elementAround, kind, flatListElement]
  | touchableOpacity => simp [essence, elementAround, kind, pressAttribute]
  | card | scrollView | view | safeAreaView => simp [essence, elementAround, kind]
  | unknown name => simp [essence, elementAround, kind]

theorem notesAround_of_leaf {c : Component} (leaf : c.kind.isContainer = false)
    (first second : List Event) : c.notesAround first = c.notesAround second := by
  cases kind : c.kind <;> simp_all [notesAround, ComponentKind.isContainer]

theorem renderNotes_eq (c : Component) : c.renderNotes = c.notesAround (forestNotes c.children) := by
  cases c
  rw [renderNotes]

@[simp] theorem kind_erase (c : Component) : c.erase.kind = c.kind := by
  rw [erase_eq, kind_essence]

@[simp] theorem navigationTarget?_erase (c : Component) :
    c.erase.navigationTarget? = c.navigationTarget? := by
  rw [erase_eq, navigationTarget?_essence]

@[simp] theorem primitives_erase (c : Component) : c.erase.primitives = c.primitives := by
  rw [erase_eq, primitives_essence]

end Component

theorem forestElements_eraseForest (cs : List Component) :
    forestElements (eraseForest cs) = forestElements cs := by
  induction cs using forest_induction with
  | nil => rfl
  | cons r rs below behind =>
    have first : r.erase.element = r.element := by
      rw [r.erase_eq, Component.element_eq, r.element_eq, Component.elementAround_essence,
        Component.children_essence]
      by_cases container : r.kind.isContainer = true
      · rw [if_pos container, below]
      · apply Component.elementAround_of_leaf
        simpa using container
    rw [eraseForest, forestElements, forestElements, first, behind]

theorem forestNotes_eraseForest (cs : List Component) :
    forestNotes (eraseForest cs) = forestNotes cs := by
  induction cs using forest_induction with
  | nil => rfl
  | cons r rs below behind =>
    have first : r.erase.renderNotes = r.renderNotes := by
      rw [r.erase_eq, Component.renderNotes_eq, r.renderNotes_eq, Component.notesAround_essence,
        Component.children_essence]
      by_cases container : r.kind.isContainer = true
      · rw [if_pos container, below]
      · apply Component.notesAround_of_leaf
        simpa using container
    rw [eraseForest, forestNotes, forestNotes, first, behind]

theorem walkForest_eraseForest (cs : List Component) :
    walkForest .rendered (eraseForest cs) = (walkForest .rendered cs).map Component.erase := by
  induction cs using forest_induction with
  | nil => rfl
  | cons r rs below behind =>
    rw [eraseForest, walkForest, walkForest, List.map_append, behind, Component.walk_eq, r.walk_eq,
      List.map_cons]
    congr 2
    simp only [Extent.enters, Component.kind_erase]
    rw [r.erase_eq, Component.children_essence]
    by_cases container : r.kind.isContainer = true
    · simpa only [container, if_true] using below
    · simp [container, walkForest]

namespace Screen

variable (s : Screen)

@[simp] theorem walkRendered_erase : s.erase.walkRendered = s.walkRendered.map Component.erase := by
  rw [walkRendered_eq, walkRendered_eq]
  exact walkForest_eraseForest s.components

@[simp] theorem targets_erase : s.erase.targets = s.targets := by
  have same : Component.navigationTarget? ∘ Component.erase = Component.navigationTarget? :=
    funext Component.navigationTarget?_erase
  rw [targets, targets, walkRendered_erase, List.filterMap_map, same]

@[simp] theorem usesNavigation_erase : s.erase.usesNavigation = s.usesNavigation := by
  rw [usesNavigation, usesNavigation, targets_erase]

@[simp] theorem imports_erase : s.erase.imports = s.imports := by
  simp only [imports, walkRendered_erase, List.flatMap_map, Component.primitives_erase]

@[simp] theorem declarations_erase : s.erase.declarations = s.declarations := by
  have state : s.erase.state.map StateBinding.declaration = s.state.map StateBinding.declaration :=
    List.map_map
  rw [declarations, declarations, usesNavigation_erase, state]

@[simp] theorem importLines_erase : s.erase.importLines = s.importLines := by
  have state : s.erase.hasState = s.hasState := by
    simp [hasState, erase]
  have hooks : s.erase.hooks = s.hooks := by
    rw [Screen.hooks, Screen.hooks, state]
    rfl
  rw [importLines, importLines, importList, importList, hooks, imports_erase, usesNavigation_erase]

@[simp] theorem markupLines_erase : s.erase.markupLines = s.markupLines := by
  rw [markupLines, markupLines]
  simp only [erase, forestElements_eraseForest]

theorem moduleText_erase : s.erase.moduleText = s.moduleText := by
  have function : s.erase.functionLines = s.functionLines := by
    rw [functionLines, functionLines, declarations_erase, markupLines_erase]
    rfl
  rw [moduleText, moduleText, lines, lines, importLines_erase, function]

end Screen

namespace AppSpecification

variable (spec : AppSpecification)

theorem isNone_screen?_erase (name : String) :
    (spec.erase.screen? name).isNone = (spec.screen? name).isNone := by
  have same : (fun s : Screen => s.name == name) ∘ Screen.erase = fun s => s.name == name := rfl
  rw [screen?, screen?, erase, List.find?_map, same, Option.isNone_map]

theorem screenNotes_erase (s : Screen) : spec.erase.screenNotes s.erase = spec.screenNotes s := by
  have targets : spec.erase.targetNotes s.erase = spec.targetNotes s := by
    simp only [targetNotes, Screen.targets_erase, isNone_screen?_erase]
    rfl
  have inner : forestNotes s.erase.components = forestNotes s.components :=
    forestNotes_eraseForest s.components
  simp only [screenNotes, targets, inner, Screen.importList, Screen.imports_erase]
  rfl

theorem screenDraft_erase (s : Screen) : spec.erase.screenDraft s.erase = spec.screenDraft s := by
  rw [screenDraft, screenDraft, s.moduleText_erase, screenNotes_erase]
  rfl

theorem rootText_erase : spec.erase.rootText = spec.rootText := by
  have imports : spec.erase.rootImports = spec.rootImports := by
    simp only [rootImports, erase, List.map_map]
    rfl
  have route : spec.erase.initialRoute = spec.initialRoute := by
    simp only [initialRoute, initialScreen?, erase, List.head?_map]
    cases spec.screens.head? <;> rfl
  have registrations : spec.erase.screens.flatMap Screen.registration =
      spec.screens.flatMap Screen.registration := by
    rw [erase, List.flatMap_map]
    rfl
  rw [rootText, rootText, rootLines, rootLines, imports, route, registrations]

theorem usesCards_erase : spec.erase.usesCards = spec.usesCards := by
  simp only [usesCards, erase, List.any_map, Function.comp_def, Screen.walkRendered_erase,
    Component.kind_erase]

theorem drafts_erase (options : GeneratorOptions) :
    options.drafts spec.erase = options.drafts spec := by
  have screens : spec.erase.screens.map spec.erase.screenDraft =
      spec.screens.map spec.screenDraft := by
    rw [erase, List.map_map]
    exact List.map_congr_left fun s _ => spec.screenDraft_erase s
  rw [GeneratorOptions.drafts, GeneratorOptions.drafts, rootText_erase, usesCards_erase, screens]
  rfl

/-- A project depends on nothing but the essence of its components. -/
theorem generate_erase (options : GeneratorOptions) :
    options.generate spec.erase = options.generate spec := by
  rw [GeneratorOptions.generate, GeneratorOptions.generate, drafts_erase]

end AppSpecification

end AppScaffold

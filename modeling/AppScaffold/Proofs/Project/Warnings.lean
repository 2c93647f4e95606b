import Mathlib.Data.List.Flatten
import AppScaffold.Proofs.Project.Erasure
import AppScaffold.Proofs.Project.Shape
import AppScaffold.Proofs.Spec.Report

namespace AppScaffold

open Log

namespace Log

namespace Event

def isWarning (e : Event) : Bool := e.level = .warn

def lostTarget (screen target : String) : Event :=
  ⟨.screen, .warn, "navigation target names no screen", [⟨"screen", screen⟩, ⟨"target", target⟩]⟩

def unknownKind (name : String) : Event :=
  ⟨.element, .warn, "unsupported component kind", [⟨"kind", name⟩]⟩

def replacedFile (path : String) : Event :=
  ⟨.project, .warn, "duplicate output path, earlier file replaced", [⟨"path", path⟩]⟩

def lostTarget? (e : Event) : Option (String × String) :=
  if e.message = "navigation target names no screen" then
    match e.fields with
    | [screen, target] => some (screen.value, target.value)
    | _ => none
  else none

end Event

def warnings (log : List Entry) : List Event := (events log).filter Event.isWarning

end Log

def Issue.lostTarget? : Issue → Option (String × String)
  | unknownTarget screen target => some (screen, target)
  | _ => none

def Component.unknownKind? (c : Component) : Option String :=
  match c.kind with
  | .unknown name => some name
  | _ => none

namespace AppSpecification

def lostTarget? (spec : AppSpecification) (c : Component) : Option String :=
  match c.kind, c.navigateTo with
  | .button, some target =>
    if target = "" ∨ target ∈ spec.screens.map Screen.name then none else some target
  | _, _ => none

/-- What a screen is warned of that stands behind the screens `earlier`. -/
def warningsOf (spec : AppSpecification) (earlier : List Screen) (s : Screen) : List Event :=
  (s.walkRendered.filterMap spec.lostTarget?).map (.lostTarget s.name) ++
    (s.walkRendered.filterMap Component.unknownKind?).map .unknownKind ++
    if s.name ∈ earlier.map Screen.name then [.replacedFile (screenPath s.name)] else []

def warningsBehind (spec : AppSpecification) (earlier : List Screen) : List Screen → List Event
  | [] => []
  | s :: ss => spec.warningsOf earlier s ++ spec.warningsBehind (earlier ++ [s]) ss

end AppSpecification

theorem Component.notesAround_eq (c : Component) (inner : List Event) :
    c.notesAround inner = c.notes ++ if c.kind.isContainer then inner else [] := by
  cases kind : c.kind <;> simp [notesAround, notes, kind, ComponentKind.isContainer]

/-- What is noted by the recursion that renders a forest is noted of the components that are walked
as rendered, in their order. -/
theorem forestNotes_eq (cs : List Component) :
    forestNotes cs = (walkForest .rendered cs).flatMap Component.notes := by
  induction cs using forest_induction with
  | nil => rfl
  | cons r rs below behind =>
    rw [forestNotes, walkForest, List.flatMap_append, behind, r.renderNotes_eq, r.notesAround_eq,
      below, r.walk_eq, List.flatMap_cons]
    cases container : r.kind.isContainer <;> simp [Extent.enters, container, walkForest]

theorem Component.warnings_notes (c : Component) :
    c.notes.filter Event.isWarning = (c.unknownKind?.map Event.unknownKind).toList := by
  rw [notes, unknownKind?]
  cases c.kind with
  | list =>
    cases c.content with
    | none => rfl
    | some content => cases content <;> rfl
  | _ => rfl

theorem warnings_flatMap_notes (cs : List Component) :
    (cs.flatMap Component.notes).filter Event.isWarning =
      (cs.filterMap Component.unknownKind?).map .unknownKind := by
  induction cs with
  | nil => rfl
  | cons c cs ih =>
    rw [List.flatMap_cons, List.filter_append, ih, c.warnings_notes, List.filterMap_cons]
    cases c.unknownKind? <;> rfl

namespace AppSpecification

variable (spec : AppSpecification)

theorem isNone_screen?_iff {name : String} :
    (spec.screen? name).isNone = true ↔ name ∉ spec.screens.map Screen.name := by
  simp [screen?]

theorem filterMap_lostTarget? (cs : List Component) :
    (cs.filterMap Component.navigationTarget?).filter (fun t => (spec.screen? t).isNone) =
      cs.filterMap spec.lostTarget? := by
  rw [List.filter_filterMap]
  apply List.filterMap_congr
  intro c _
  rw [Component.navigationTarget?, lostTarget?]
  cases c.kind with
  | button =>
    cases c.navigateTo with
    | none => rfl
    | some target =>
      by_cases empty : target = ""
      · simp [nonEmpty, empty]
      · by_cases known : target ∈ spec.screens.map Screen.name
        · have found : spec.screen? target ≠ none := by
            rw [ne_eq, ← Option.isNone_iff_eq_none, isNone_screen?_iff]
            exact not_not_intro known
          simp [nonEmpty, empty, known, found]
        · have lost := (spec.isNone_screen?_iff).mpr known
          simp [nonEmpty, empty, known, lost]
  | _ => rfl

theorem warnings_screenNotes (s : Screen) :
    (spec.screenNotes s).filter Event.isWarning =
      (s.walkRendered.filterMap spec.lostTarget?).map (.lostTarget s.name) ++
        (s.walkRendered.filterMap Component.unknownKind?).map .unknownKind := by
  have targets : spec.targetNotes s =
      (s.walkRendered.filterMap spec.lostTarget?).map (.lostTarget s.name) := by
    rw [targetNotes, Screen.targets, filterMap_lostTarget?]
    rfl
  have graves : (spec.targetNotes s).filter Event.isWarning = spec.targetNotes s := by
    rw [List.filter_eq_self, targets]
    intro e member
    obtain ⟨target, -, rfl⟩ := List.mem_map.mp member
    rfl
  have rendered := warnings_flatMap_notes s.walkRendered
  have plain : Event.isWarning ⟨.screen, .debug, "rendering screen",
      [⟨"screen", s.name⟩, ⟨"imports", s.importList⟩]⟩ = false := rfl
  rw [screenNotes, List.filter_append, List.filter_append, graves, targets, forestNotes_eq,
    ← s.walkRendered_eq, rendered]
  simp [plain]

end AppSpecification

theorem draftNotes_append (seen : List String) (first second : List Draft) :
    draftNotes seen (first ++ second) =
      draftNotes seen first ++ draftNotes ((first.map Draft.path).reverse ++ seen) second := by
  induction first generalizing seen with
  | nil => rfl
  | cons d ds ih =>
    rw [List.cons_append, draftNotes, draftNotes, ih, List.map_cons, List.reverse_cons]
    simp only [List.append_assoc, List.singleton_append]

theorem replacementNotes_of_not_mem {seen : List String} {path : String} (fresh : path ∉ seen) :
    replacementNotes seen path = [] := by
  rw [replacementNotes, if_neg (by simpa using fresh)]

theorem draftNotes_of_fresh {seen : List String} {ds : List Draft}
    (silent : ∀ d ∈ ds, d.notes = []) (fresh : Fresh seen (ds.map Draft.path)) :
    draftNotes seen ds = [] := by
  induction ds generalizing seen with
  | nil => rfl
  | cons d ds ih =>
    rw [List.forall_mem_cons] at silent
    rw [List.map_cons, fresh_cons] at fresh
    rw [draftNotes, silent.1, replacementNotes_of_not_mem fresh.1, ih silent.2 fresh.2]
    rfl

namespace AppSpecification

variable (spec : AppSpecification)

/-- Behind the root and other screens, a screen replaces a file if one of these has its name. -/
theorem replacementNotes_screen (earlier : List Screen) (name : String) :
    replacementNotes ((earlier.map Screen.filePath).reverse ++ ["App.js"]) (screenPath name) =
      if name ∈ earlier.map Screen.name then [.replacedFile (screenPath name)] else [] := by
  have paths : earlier.map Screen.filePath = (earlier.map Screen.name).map screenPath := by
    rw [List.map_map]
    rfl
  have root : screenPath name ≠ "App.js" := by
    intro same
    exact screenPath_not_mem_fixedPaths name (same ▸ List.mem_cons_self)
  have member : screenPath name ∈ (earlier.map Screen.filePath).reverse ++ ["App.js"] ↔
      name ∈ earlier.map Screen.name := by
    rw [List.mem_append, List.mem_reverse, List.mem_singleton, paths,
      List.mem_map_of_injective screenPath_injective]
    simp [root]
  rw [replacementNotes]
  simp only [List.contains_eq_mem, member, decide_eq_true_eq]
  rfl

theorem warnings_screens (earlier ss : List Screen) :
    (draftNotes ((earlier.map Screen.filePath).reverse ++ ["App.js"])
        (ss.map spec.screenDraft)).filter Event.isWarning =
      spec.warningsBehind earlier ss := by
  induction ss generalizing earlier with
  | nil => rfl
  | cons s ss ih =>
    have next : s.filePath :: ((earlier.map Screen.filePath).reverse ++ ["App.js"]) =
        ((earlier ++ [s]).map Screen.filePath).reverse ++ ["App.js"] := by
      simp
    have replaced : (replacementNotes ((earlier.map Screen.filePath).reverse ++ ["App.js"])
        s.filePath).filter Event.isWarning =
        if s.name ∈ earlier.map Screen.name then [.replacedFile (screenPath s.name)] else [] := by
      have notes := replacementNotes_screen earlier s.name
      rw [show s.filePath = screenPath s.name from rfl, notes]
      split <;> rfl
    have rest := ih (earlier ++ [s])
    rw [← next] at rest
    rw [warningsBehind, warningsOf, ← warnings_screenNotes, ← replaced, ← rest,
      ← List.filter_append, ← List.filter_append]
    rfl

end AppSpecification

namespace GeneratorOptions

variable (options : GeneratorOptions) (spec : AppSpecification)

def closingDrafts : List Draft :=
  (if options.extractShared && spec.usesCards then [{ path := cardPath, content := cardText }]
    else []) ++
  [{ path := "app.json", content := spec.appManifestText },
    { path := "babel.config.js", content := babelConfig },
    { path := "package.json", content := spec.packageText options.versionMarker }]

theorem draftNotes_closing : draftNotes
    ((spec.screens.map Screen.filePath).reverse ++ ["App.js"])
      (options.closingDrafts spec) = [] := by
  have paths : (options.closingDrafts spec).map Draft.path =
      (options.closingFiles spec).map Prod.fst := by
    rw [map_fst_closingFiles, closingDrafts]
    split <;> rfl
  have sublist := options.closingPaths_sublist spec
  have distinct : fixedPaths.Nodup := by
    decide +kernel
  apply draftNotes_of_fresh
  · intro d member
    rw [closingDrafts] at member
    split at member
    all_goals
      simp only [List.nil_append, List.cons_append, List.mem_cons, List.not_mem_nil,
        or_false] at member
      rcases member with rfl | rfl | rfl | rfl <;> rfl
  · rw [paths]
    constructor
    · exact sublist.nodup (distinct.sublist (List.tail_sublist _))
    · intro path member seen
      have fixed := sublist.subset member
      rcases List.mem_append.mp seen with screen | root
      · obtain ⟨s, -, rfl⟩ := List.mem_map.mp (List.mem_reverse.mp screen)
        exact screenPath_not_mem_fixedPaths s.name (List.mem_of_mem_tail fixed)
      · rw [List.mem_singleton.mp root] at fixed
        exact (List.nodup_cons.mp distinct).1 fixed

theorem events_log : events (options.log spec) = draftNotes [] (options.drafts spec) ++
    [⟨.project, .debug, "project generated", [.count "files" (options.generate spec).size]⟩] := by
  simp [GeneratorOptions.log, events]

theorem warnings_eq : Log.warnings (options.log spec) = spec.warningsBehind [] spec.screens := by
  let root : Draft := { path := "App.js", content := spec.rootText }
  have drafts : options.drafts spec =
      [root] ++ (spec.screens.map spec.screenDraft ++ options.closingDrafts spec) := by
    rw [GeneratorOptions.drafts, closingDrafts]
    simp only [List.append_assoc]
    rfl
  have paths : (spec.screens.map spec.screenDraft).map Draft.path =
      spec.screens.map Screen.filePath := by
    rw [List.map_map]
    rfl
  -- No file in front of the screens or behind them replaces another one.
  have notes : draftNotes [] (options.drafts spec) =
      draftNotes ["App.js"] (spec.screens.map spec.screenDraft) := by
    have first : draftNotes [] [root] = [] := rfl
    have seen : ([root].map Draft.path).reverse ++ [] = ["App.js"] := rfl
    rw [drafts, draftNotes_append, first, draftNotes_append, paths, seen, draftNotes_closing,
      List.append_nil, List.nil_append]
  have screens := spec.warnings_screens [] spec.screens
  have done : [Event.mk .project .debug "project generated"
      [.count "files" (options.generate spec).size]].filter Event.isWarning = [] := rfl
  rw [Log.warnings, events_log, List.filter_append, notes, done, List.append_nil]
  exact screens

end GeneratorOptions

namespace AppSpecification

variable (spec : AppSpecification)

def lostTargets (s : Screen) (cs : List Component) : List (String × String) :=
  (cs.filterMap spec.lostTarget?).map fun target => (s.name, target)

theorem lostTargets_warningsOf (earlier : List Screen) (s : Screen) :
    (spec.warningsOf earlier s).filterMap Event.lostTarget? =
      spec.lostTargets s s.walkRendered := by
  have lost : Event.lostTarget? ∘ Event.lostTarget s.name =
      some ∘ fun target => (s.name, target) := by
    funext target
    rfl
  have unknown : Event.lostTarget? ∘ Event.unknownKind = fun _ => none := by
    funext name
    rfl
  have replaced : (if s.name ∈ earlier.map Screen.name then [Event.replacedFile (screenPath s.name)]
      else []).filterMap Event.lostTarget? = [] := by
    split <;> rfl
  rw [warningsOf, List.filterMap_append, List.filterMap_append, replaced, List.append_nil,
    List.filterMap_map, List.filterMap_map, lost, unknown, List.filterMap_eq_map]
  simp [lostTargets]

theorem lostTargets_warningsBehind (earlier ss : List Screen) :
    (spec.warningsBehind earlier ss).filterMap Event.lostTarget? =
      ss.flatMap fun s => spec.lostTargets s s.walkRendered := by
  induction ss generalizing earlier with
  | nil => rfl
  | cons s ss ih =>
    rw [warningsBehind, List.filterMap_append, lostTargets_warningsOf, ih, List.flatMap_cons]

theorem lostTargets_targetIssues (s : Screen) :
    (spec.targetIssues s).filterMap Issue.lostTarget? = spec.lostTargets s s.walk := by
  have lost : Issue.lostTarget? ∘ Issue.unknownTarget s.name =
      some ∘ fun target => (s.name, target) := by
    funext target
    rfl
  rw [targetIssues, filterMap_lostTarget?, List.filterMap_map, lost, List.filterMap_eq_map]
  rfl

theorem lostTargets_validate :
    spec.validate.issues.filterMap Issue.lostTarget? =
      spec.screens.flatMap fun s => spec.lostTargets s s.walk := by
  have issues : spec.validate.issues = spec.faults ++ spec.screens.flatMap spec.targetIssues := rfl
  have faults : spec.faults.filterMap Issue.lostTarget? = [] := by
    rw [List.filterMap_eq_nil_iff]
    intro i member
    have error := spec.errors_faults i member
    cases i with
    | unknownTarget screen target => cases error
    | _ => rfl
  rw [issues, List.filterMap_append, faults, List.nil_append, List.filterMap_flatMap]
  simp only [lostTargets_targetIssues]

/-- The warnings of a generation are, screen by screen: one for every button on it that is rendered
and leads nowhere, one for every component of an unknown kind, and one if an earlier screen has its
name. The lost targets that they tell of are some of those that validation finds, in its order, and
all of them where no component but a container has children. -/
theorem warnings_generate (options : GeneratorOptions) :
    Log.warnings (options.log spec) = spec.warningsBehind [] spec.screens ∧
      ((Log.warnings (options.log spec)).filterMap Event.lostTarget?).Sublist
        (spec.validate.issues.filterMap Issue.lostTarget?) ∧
      ((∀ s ∈ spec.screens, ∀ c ∈ s.walk, c.kind.isContainer = false → c.children = []) →
        (Log.warnings (options.log spec)).filterMap Event.lostTarget? =
          spec.validate.issues.filterMap Issue.lostTarget?) := by
  have warned := options.warnings_eq spec
  rw [warned, lostTargets_warningsBehind, lostTargets_validate]
  refine ⟨rfl, ?_, ?_⟩
  · apply List.Sublist.flatMap_right
    intro s _
    exact (s.walkRendered_sublist.filterMap _).map _
  · intro bare
    apply List.flatMap_congr
    intro s member
    have leaves := bare s member
    rw [s.walk_eq] at leaves
    rw [s.walkRendered_eq, s.walk_eq, walkForest_rendered_of_bare leaves]

def carelessScreens : List Screen :=
  let lost : Component := { kind := .button, navigateTo := some "Cellar" }
  [{ name := "Home", path := "/", components :=
      [{ kind := .view, children := [lost, { kind := .unknown "Chart" }] },
        { kind := .button, navigateTo := some "Home" }] },
    { name := "Home", path := "/again", components :=
      [{ kind := .list, content := some (.text "None") }, lost] }]

theorem warnings_carelessScreens :
    let spec : AppSpecification := { appName := "House", screens := carelessScreens }
    let warnings := Log.warnings (GeneratorOptions.log {} spec)
    warnings = [.lostTarget "Home" "Cellar", .unknownKind "Chart", .lostTarget "Home" "Cellar",
      .replacedFile "screens/HomeScreen.js"] ∧
    (∀ s ∈ spec.screens, ∀ c ∈ s.walk, c.kind.isContainer = false → c.children = []) ∧
    warnings.filterMap Event.lostTarget? = spec.validate.issues.filterMap Issue.lostTarget? := by
  intro spec warnings
  have general := warnings_generate spec {}
  have bare : ∀ s ∈ spec.screens, ∀ c ∈ s.walk, c.kind.isContainer = false → c.children = [] := by
    decide +kernel
  exact ⟨general.1.trans rfl, bare, general.2.2 bare⟩

end AppSpecification

end AppScaffold

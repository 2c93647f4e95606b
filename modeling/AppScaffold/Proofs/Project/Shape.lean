import AppScaffold.Proofs.Project.References
import AppScaffold.Proofs.Spec.Walk

namespace AppScaffold

def screenPath (name : String) : String := "screens/" ++ (name ++ "Screen") ++ ".js"

theorem screenPath_injective : Function.Injective screenPath := by
  intro a b same
  simpa only [screenPath, String.append_left_inj, String.append_right_inj] using same

def fixedPaths : List String :=
  ["App.js", "components/Card.js", "app.json", "babel.config.js", "package.json"]

theorem screenPath_not_mem_fixedPaths (name : String) : screenPath name ∉ fixedPaths := by
  have first : (screenPath name).toList.head? = some 's' := by
    simp [screenPath]
  have others : ∀ path ∈ fixedPaths, path.toList.head? ≠ some 's' := by
    decide +kernel
  exact fun member => others _ member first

namespace AppSpecification

/-- On some screen there is a card below containers only. -/
def ShowsCard (spec : AppSpecification) : Prop :=
  ∃ s ∈ spec.screens, ∃ ancestors c, Stands s.components ancestors c ∧ c.kind = .card ∧
    ∀ a ∈ ancestors, a.kind.isContainer = true

theorem usesCards_iff {spec : AppSpecification} : spec.usesCards = true ↔ spec.ShowsCard := by
  simp only [usesCards, ShowsCard, List.any_eq_true, beq_iff_eq, Screen.walkRendered_eq,
    mem_walkForest_iff]
  constructor
  · rintro ⟨s, screen, c, ⟨ancestors, stands, entered⟩, card⟩
    exact ⟨s, screen, ancestors, c, stands, card, entered⟩
  · rintro ⟨s, screen, ancestors, c, stands, card, entered⟩
    exact ⟨s, screen, c, ⟨ancestors, stands, entered⟩, card⟩

def lastScreen? (spec : AppSpecification) (name : String) : Option Screen :=
  spec.screens.reverse.find? (·.name == name)

end AppSpecification

/-- The project has the files that the specification calls for, in their order. -/
structure GeneratorOptions.Shapes (options : GeneratorOptions) (spec : AppSpecification)
    (project : Project) : Prop where
  paths : project.paths =
    ["App.js"] ++ (spec.screens.map Screen.name).eraseDups.map screenPath ++
      (if options.extractShared && spec.usesCards then ["components/Card.js"] else []) ++
      ["app.json", "babel.config.js", "package.json"]
  distinct : project.paths.Nodup
  cards : spec.usesCards = true ↔ spec.ShowsCard
  modules : ∀ name, project.get? (screenPath name) = (spec.lastScreen? name).map Screen.moduleText
  apart : ∀ name, screenPath name ∉ fixedPaths
  root : project.get? "App.js" = some spec.rootText
  card : options.extractShared = true → spec.usesCards = true →
    project.get? "components/Card.js" = some cardText
  appManifest : project.get? "app.json" = some spec.appManifestText
  babelConfig : project.get? "babel.config.js" = some babelConfig
  package : project.get? "package.json" = some (spec.packageText options.versionMarker)

namespace GeneratorOptions

variable {options : GeneratorOptions} {spec : AppSpecification}

def closingFiles (options : GeneratorOptions) (spec : AppSpecification) : List (String × String) :=
  (if options.extractShared && spec.usesCards then [("components/Card.js", cardText)] else []) ++
    [("app.json", spec.appManifestText), ("babel.config.js", babelConfig),
      ("package.json", spec.packageText options.versionMarker)]

theorem generate_eq (options : GeneratorOptions) (spec : AppSpecification) :
    options.generate spec =
      .ofList ([("App.js", spec.rootText)] ++
        spec.screens.map (fun s => (screenPath s.name, s.moduleText)) ++
        options.closingFiles spec) := by
  have screens : (spec.screens.map spec.screenDraft).map (fun d => (d.path, d.content)) =
      spec.screens.map fun s => (screenPath s.name, s.moduleText) := by
    rw [List.map_map]
    rfl
  rw [generate, drafts, closingFiles]
  simp only [List.map_append, screens, List.append_assoc]
  congr 2
  split <;> rfl

theorem map_fst_closingFiles : (options.closingFiles spec).map Prod.fst =
    (if options.extractShared && spec.usesCards then ["components/Card.js"] else []) ++
      ["app.json", "babel.config.js", "package.json"] := by
  rw [closingFiles, List.map_append]
  split <;> rfl

theorem closingPaths_sublist (options : GeneratorOptions) (spec : AppSpecification) :
    ((options.closingFiles spec).map Prod.fst).Sublist fixedPaths.tail := by
  rw [map_fst_closingFiles]
  split <;> decide +kernel

theorem paths_generate (options : GeneratorOptions) (spec : AppSpecification) :
    (options.generate spec).paths =
      ["App.js"] ++ (spec.screens.map Screen.name).eraseDups.map screenPath ++
        (options.closingFiles spec).map Prod.fst := by
  let closing := (options.closingFiles spec).map Prod.fst
  have screens : (spec.screens.map fun s => (screenPath s.name, s.moduleText)).map Prod.fst =
      (spec.screens.map Screen.name).map screenPath := by
    rw [List.map_map, List.map_map]
    rfl
  have sublist : closing.Sublist fixedPaths.tail := options.closingPaths_sublist spec
  obtain ⟨root, tail⟩ : "App.js" ∉ fixedPaths.tail ∧ fixedPaths.tail.Nodup := by
    decide +kernel
  have screensApart : ∀ path ∈ (spec.screens.map Screen.name).map screenPath,
      path ∉ ["App.js"] := by
    intro path member among
    obtain ⟨name, -, rfl⟩ := List.mem_map.mp member
    exact screenPath_not_mem_fixedPaths name (List.mem_singleton.mp among ▸ List.mem_cons_self)
  have closingApart : ∀ path ∈ closing,
      path ∉ ["App.js"] ++ (spec.screens.map Screen.name).map screenPath := by
    intro path member among
    have fixed := sublist.subset member
    rcases List.mem_append.mp among with first | screen
    · exact root (List.mem_singleton.mp first ▸ fixed)
    · obtain ⟨name, -, rfl⟩ := List.mem_map.mp screen
      exact screenPath_not_mem_fixedPaths name (List.mem_of_mem_tail fixed)
  rw [generate_eq, Project.paths_ofList, List.map_append, List.map_append, screens,
    List.map_singleton, eraseDups_append_of_disjoint closingApart,
    eraseDups_append_of_disjoint screensApart, eraseDups_map screenPath_injective,
    eraseDups_of_nodup (sublist.nodup tail)]
  rfl

theorem find?_of_apart {files : List (String × String)} {path : String}
    (apart : path ∉ files.map Prod.fst) : files.reverse.find? (·.1 == path) = none := by
  rw [List.find?_eq_none]
  intro file member
  have other : file.1 ≠ path := fun same =>
    apart (same ▸ List.mem_map_of_mem (List.mem_reverse.mp member))
  simpa using other

theorem get?_screenPath (options : GeneratorOptions) (spec : AppSpecification) (name : String) :
    (options.generate spec).get? (screenPath name) =
      (spec.lastScreen? name).map Screen.moduleText := by
  have closing : screenPath name ∉ (options.closingFiles spec).map Prod.fst := fun member =>
    screenPath_not_mem_fixedPaths name
      (List.mem_of_mem_tail ((options.closingPaths_sublist spec).subset member))
  have root : screenPath name ∉ [("App.js", spec.rootText)].map Prod.fst := fun member =>
    screenPath_not_mem_fixedPaths name (List.mem_singleton.mp member ▸ List.mem_cons_self)
  have same (s : Screen) : (screenPath s.name == screenPath name) = (s.name == name) := by
    rw [Bool.eq_iff_iff, beq_iff_eq, beq_iff_eq, screenPath_injective.eq_iff]
  rw [generate_eq, Project.get?_ofList_eq, List.reverse_append, List.reverse_append,
    List.find?_append, List.find?_append, find?_of_apart closing, find?_of_apart root,
    Option.none_or, Option.or_none, ← List.map_reverse, List.find?_map, Option.map_map,
    AppSpecification.lastScreen?]
  simp only [Function.comp_def, same]

theorem get?_of_mem_closingFiles {path content : String}
    (member : (path, content) ∈ options.closingFiles spec) :
    (options.generate spec).get? path = some content := by
  have sublist := options.closingPaths_sublist spec
  have fixed : path ∈ fixedPaths.tail := sublist.subset (List.mem_map_of_mem member)
  obtain ⟨root, tail⟩ : "App.js" ∉ fixedPaths.tail ∧ fixedPaths.tail.Nodup := by
    decide +kernel
  rw [generate_eq]
  apply Project.get?_ofList
  · exact List.mem_append_right _ member
  · intro other among
    simp only [List.append_assoc, List.mem_append, List.mem_singleton, List.mem_map] at among
    rcases among with first | ⟨s, -, screen⟩ | closing
    · exact absurd ((Prod.mk.inj first).1 ▸ fixed) root
    · have screen := (Prod.mk.inj screen).1
      exact absurd (screen ▸ List.mem_of_mem_tail fixed) (screenPath_not_mem_fixedPaths s.name)
    · have same := List.inj_on_of_nodup_map (sublist.nodup tail) closing member rfl
      exact (Prod.mk.inj same).2

theorem shapes_generate (options : GeneratorOptions) (spec : AppSpecification) :
    options.Shapes spec (options.generate spec) where
  paths := by rw [paths_generate, map_fst_closingFiles, ← List.append_assoc]
  distinct := (options.generate spec).nodup
  cards := AppSpecification.usesCards_iff
  modules := get?_screenPath options spec
  apart := screenPath_not_mem_fixedPaths
  root := get?_root options spec
  card := by
    intro extracted cards
    apply get?_of_mem_closingFiles
    rw [closingFiles, extracted, cards]
    exact List.mem_cons_self
  appManifest := get?_of_mem_closingFiles (List.mem_append_right _ (.head _))
  babelConfig := get?_of_mem_closingFiles (List.mem_append_right _ (.tail _ (.head _)))
  package := get?_of_mem_closingFiles (List.mem_append_right _ (.tail _ (.tail _ (.head _))))

end GeneratorOptions

/-- Every project has the shape that its specification calls for; where the specification is valid,
every screen has a file of its own. -/
theorem AppSpecification.shape_generate (spec : AppSpecification) (options : GeneratorOptions) :
    options.Shapes spec (options.generate spec) ∧
      (spec.validate.isValid = true →
        (options.generate spec).size =
          4 + spec.screens.length + if options.extractShared && spec.usesCards then 1 else 0) := by
  have shapes := options.shapes_generate spec
  refine ⟨shapes, fun valid => ?_⟩
  have names := (isValid_iff.mp valid).names_nodup
  have count : (options.generate spec).size = (options.generate spec).paths.length :=
    (List.length_map _).symm
  rw [count, shapes.paths, eraseDups_of_nodup names]
  simp only [List.length_append, List.length_map, List.length_cons, List.length_nil]
  split <;> simp <;> omega

def revisedApp : AppSpecification where
  appName := "Shop"
  screens :=
    [{ name := "Home", path := "/", components :=
        [{ kind := .view, children := [{ kind := .card }] }] },
      { name := "Cart", path := "/cart", components := [{ kind := .textInput }] },
      { name := "Home", path := "/new", components := [{ kind := .flatList }] }]

theorem AppSpecification.shape_generate_revisedApp :
    let first := { revisedApp with screens := revisedApp.screens.take 2 }
    (GeneratorOptions.generate {} revisedApp).paths =
        ["App.js", "screens/HomeScreen.js", "screens/CartScreen.js", "components/Card.js",
          "app.json", "babel.config.js", "package.json"] ∧
      (GeneratorOptions.generate {} revisedApp).get? "screens/HomeScreen.js" =
        revisedApp.screens.getLast?.map Screen.moduleText ∧
      first.validate.isValid = true ∧ (GeneratorOptions.generate {} first).size = 7 := by
  intro first
  have shapes := (shape_generate revisedApp {}).1
  have valid : first.validate.isValid = true := by decide +kernel
  exact ⟨shapes.paths.trans (by decide +kernel), (shapes.modules "Home").trans rfl, valid,
    ((shape_generate first {}).2 valid).trans (by decide +kernel)⟩

end AppScaffold

import AppScaffold.Project.Generate
import AppScaffold.Proofs.Project.Files
import AppScaffold.Proofs.Project.Root
import AppScaffold.Proofs.Screen.Placement
import Mathlib.Data.List.Nodup

namespace AppScaffold

open Markup Text

theorem escape_of_isIdentifierPart {c : Char} (part : isIdentifierPart c = true) :
    escape c = [c] := by
  unfold escape
  split
  all_goals first | rfl | exact absurd part (by decide)

theorem literal_of_isIdentifier {name : String} (identifier : isIdentifier name = true) :
    literal name = "'" ++ name ++ "'" := by
  have same : name.toList.flatMap escape = name.toList := by
    calc name.toList.flatMap escape
      _ = name.toList.flatMap (fun c => [c]) :=
        List.flatMap_congr fun c member =>
          escape_of_isIdentifierPart (isIdentifierPart_of_mem identifier member)
      _ = name.toList := List.flatMap_singleton' _
  rw [literal, same, String.ofList_toList]

namespace Screen

theorem filePath_inj {s t : Screen} : s.filePath = t.filePath ↔ s.name = t.name := by
  simp only [filePath, componentName, String.append_left_inj, String.append_right_inj]

theorem filePath_ne {s : Screen} {path : List Char} (other : path.head? ≠ some 's') :
    s.filePath ≠ String.ofList path := by
  intro same
  rw [← String.toList_inj, String.toList_ofList] at same
  simp [← same, filePath] at other

theorem export_mem_lines {s : Screen} (name : isIdentifier s.name = true) :
    "export default function " ++ s.componentName ++ "() \x7b" ∈ Text.lines s.moduleText := by
  have split : s.lines = (s.importLines ++ [""]) ++
      ("export default function " ++ s.componentName ++ "() \x7b") ::
        (blocks (s.declarations :: s.effects.map Effect.block) ++ ["  return ("] ++ s.markupLines ++
          ["  );", "\x7d"] ++ [""] ++ stylesheetLines StyleRule.all ++ [""]) := by
    simp only [lines, functionLines, List.append_assoc, List.cons_append, List.nil_append]
  have whole : Whole ("export default function " ++ s.componentName ++ "() \x7b") :=
    .append (by simp [componentName, lineFeed_not_mem_name name]) (by decide +kernel)
      (by decide +kernel)
  rw [moduleText, split]
  exact mem_lines_unlines whole _ (by simp)

end Screen

/-- The element of a button that does on a press what the handler says. -/
def Component.pressedElement (c : Component) (handler : String) : Element :=
  .nested "TouchableOpacity" [ruleStyle .button c.style, .code "onPress" handler]
    [.inline "Text" [ruleStyle .buttonText none] c.body]

/-- The element of a button that leads to a screen of the given name. -/
def Component.leadingElement (c : Component) (name : String) : Element :=
  c.pressedElement ("() => navigation.navigate('" ++ name ++ "')")

theorem Component.element_of_button {c : Component} (button : c.kind = .button) :
    c.element = c.pressedElement (pressHandler c.navigationTarget? (nonEmpty c.onPress)) := by
  cases c
  rw [element, elementAround, button]
  rfl

theorem Component.element_of_target {c : Component} {target : String}
    (leads : c.navigationTarget? = some target) (identifier : isIdentifier target = true) :
    c.element = c.leadingElement target := by
  have button : c.kind = .button := by
    cases kind : c.kind <;> simp [navigationTarget?, kind] at leads ⊢
  have handler : pressHandler (some target) (nonEmpty c.onPress) =
      "() => navigation.navigate('" ++ target ++ "')" := by
    calc pressHandler (some target) (nonEmpty c.onPress)
      _ = "() => navigation.navigate(" ++ literal target ++ ")" := rfl
      _ = "() => navigation.navigate(" ++ ("'" ++ target ++ "'") ++ ")" := by
        rw [literal_of_isIdentifier identifier]
      _ = "() => navigation.navigate('" ++ target ++ "')" := by
        apply String.toList_injective
        simp
  rw [element_of_button button, leads, handler, leadingElement]

theorem Component.element_of_no_target {c : Component} (button : c.kind = .button)
    (stays : c.navigationTarget? = none) :
    c.element = c.pressedElement ("() => " ++ (nonEmpty c.onPress).getD "\x7b\x7d") := by
  rw [element_of_button button, stays]
  cases nonEmpty c.onPress <;> rfl

/-- The text is a root that imports and registers the screens and starts at the first. -/
structure AppSpecification.RootMatches (spec : AppSpecification) (root : String) : Prop where
  imports : (lines root).filterMap imported? = spec.screens.map fun s => s.name ++ "Screen"
  distinct : (spec.screens.map fun s => s.name ++ "Screen").Nodup
  registrations :
    registrations (lines root) = spec.screens.map fun s => ([s.name], [s.name ++ "Screen"])
  start : ∃ first rest, spec.screens = first :: rest ∧
    (lines root).filterMap initialRoute? = [first.name]

/-- The text is a module that exports the function of the screen. Its buttons with a target lead to
screens of the app, and the others do what they are given to do, if anything. -/
structure AppSpecification.ModuleMatches (spec : AppSpecification) (s : Screen) (text : String) :
    Prop where
  exports : "export default function " ++ (s.name ++ "Screen") ++ "() \x7b" ∈ lines text
  buttons : ∀ c ∈ s.walkRendered, ∀ target, c.navigationTarget? = some target →
    ∃ r ∈ spec.screens, c.element = c.leadingElement r.name ∧
      ∃ level, (c.render level).toList <:+: text.toList
  others : ∀ c ∈ s.walkRendered, c.kind = .button → c.navigationTarget? = none →
    c.element = c.pressedElement ("() => " ++ (nonEmpty c.onPress).getD "\x7b\x7d") ∧
      ∃ level, (c.render level).toList <:+: text.toList

/-- The files of the project refer to each other by the names of the screens. -/
structure AppSpecification.Coherent (spec : AppSpecification) (project : Project) : Prop where
  root : ∃ root, project.get? "App.js" = some root ∧ spec.RootMatches root
  modules : ∀ s ∈ spec.screens, ∃ text,
    project.get? ("screens/" ++ (s.name ++ "Screen") ++ ".js") = some text ∧
      spec.ModuleMatches s text

namespace AppSpecification

variable {spec : AppSpecification}

theorem rootMatches_rootText (wellFormed : spec.WellFormed) : spec.RootMatches spec.rootText where
  imports := imported_rootText wellFormed
  distinct := by
    have injective : Function.Injective fun name : String => name ++ "Screen" := fun a b same =>
      (String.append_left_inj "Screen").mp same
    have names := wellFormed.names_nodup.map injective
    rwa [List.map_map] at names
  registrations := registrations_rootText wellFormed
  start := by
    cases screens : spec.screens with
    | nil => exact absurd screens wellFormed.screens_some
    | cons first rest =>
      refine ⟨first, rest, rfl, ?_⟩
      rw [initialRoute_rootText wellFormed, initialScreen?, screens]
      rfl

theorem moduleMatches_moduleText (wellFormed : spec.WellFormed) {s : Screen}
    (member : s ∈ spec.screens) (reaches : spec.Reaches s) :
    spec.ModuleMatches s s.moduleText where
  exports := Screen.export_mem_lines (wellFormed.screens s member).name_identifier
  buttons := by
    intro c rendered target leads
    have walked : c ∈ s.walk := s.walkRendered_sublist.subset rendered
    obtain ⟨r, screen, rfl⟩ := reaches c walked target leads
    exact ⟨r, screen,
      Component.element_of_target leads (wellFormed.screens r screen).name_identifier,
      Screen.exists_render_infix rendered⟩
  others := fun c rendered button stays =>
    ⟨Component.element_of_no_target button stays, Screen.exists_render_infix rendered⟩

end AppSpecification

namespace GeneratorOptions

variable {spec : AppSpecification}

theorem mem_files {options : GeneratorOptions} {path content : String}
    (member : (path, content) ∈ (options.drafts spec).map fun d => (d.path, d.content)) :
    (path = "App.js" ∧ content = spec.rootText) ∨
      (∃ s ∈ spec.screens, path = s.filePath ∧ content = s.moduleText) ∨
      path ∈ [cardPath, "app.json", "babel.config.js", "package.json"] := by
  obtain ⟨d, draft, same⟩ := List.mem_map.mp member
  obtain ⟨rfl, rfl⟩ := Prod.mk.inj same
  simp only [drafts, List.mem_append, List.mem_map, List.mem_singleton] at draft
  rcases draft with ((rfl | ⟨s, screen, rfl⟩) | card) | manifest
  · exact .inl ⟨rfl, rfl⟩
  · exact .inr (.inl ⟨s, screen, rfl, rfl⟩)
  · split at card
    · rw [List.mem_singleton.mp card]
      exact .inr (.inr List.mem_cons_self)
    · cases card
  · simp only [List.mem_cons, List.not_mem_nil, or_false] at manifest
    rcases manifest with rfl | rfl | rfl
    all_goals exact .inr (.inr (by simp))

theorem get?_root (options : GeneratorOptions) (spec : AppSpecification) :
    (options.generate spec).get? "App.js" = some spec.rootText := by
  apply Project.get?_ofList
  · simp [drafts]
  · intro c member
    rcases mem_files member with ⟨-, same⟩ | ⟨s, -, path, -⟩ | other
    · exact same
    · exact absurd path.symm (Screen.filePath_ne (by decide))
    · exact absurd other (by decide +kernel)

theorem get?_filePath (options : GeneratorOptions) (nodup : (spec.screens.map Screen.name).Nodup)
    {s : Screen} (screen : s ∈ spec.screens) :
    (options.generate spec).get? s.filePath = some s.moduleText := by
  apply Project.get?_ofList
  · have draft : spec.screenDraft s ∈ options.drafts spec := by
      simp only [drafts, List.mem_append]
      exact .inl (.inl (.inr (List.mem_map_of_mem screen)))
    exact List.mem_map.mpr ⟨_, draft, rfl⟩
  · intro c member
    rcases mem_files member with ⟨path, -⟩ | ⟨r, among, path, same⟩ | other
    · exact absurd path (Screen.filePath_ne (by decide))
    · rw [same, List.inj_on_of_nodup_map nodup among screen (Screen.filePath_inj.mp path.symm)]
    · simp only [List.mem_cons, List.not_mem_nil, or_false] at other
      rcases other with card | app | babel | package
      · exact absurd card (Screen.filePath_ne (by decide))
      · exact absurd app (Screen.filePath_ne (by decide))
      · exact absurd babel (Screen.filePath_ne (by decide))
      · exact absurd package (Screen.filePath_ne (by decide))

end GeneratorOptions

/-- Where validation finds nothing, the files of the project refer to each other consistently. -/
theorem AppSpecification.coherent_generate {spec : AppSpecification}
    (clean : spec.validate.issues = []) (options : GeneratorOptions) :
    spec.Coherent (options.generate spec) := by
  obtain ⟨wellFormed, reaches⟩ := issues_eq_nil_iff.mp clean
  constructor
  · exact ⟨spec.rootText, options.get?_root spec, rootMatches_rootText wellFormed⟩
  · intro s screen
    exact ⟨s.moduleText, options.get?_filePath wellFormed.names_nodup screen,
      moduleMatches_moduleText wellFormed screen (reaches s screen)⟩

def linkedApp : AppSpecification where
  appName := "Tasks"
  screens :=
    [{ name := "Home", path := "/home",
       components :=
         [{ kind := .card, children := [{ kind := .button, navigateTo := some "Details" }] }] },
      { name := "Details", path := "/details" }]

theorem AppSpecification.coherent_linkedApp :
    linkedApp.validate.issues = [] ∧
      linkedApp.screens.map Screen.targets = [["Details"], []] ∧
      linkedApp.Coherent (GeneratorOptions.generate {} linkedApp) := by
  have clean : linkedApp.validate.issues = [] := by
    decide +kernel
  exact ⟨clean, by decide +kernel, coherent_generate clean {}⟩

end AppScaffold

import AppScaffold.Log.Entry
import AppScaffold.Project.AppRoot
import AppScaffold.Project.Card
import AppScaffold.Project.Files
import AppScaffold.Project.Manifest
import AppScaffold.Spec.Decode
import AppScaffold.Spec.Validation

/-! Specifications as projects. Every specification has a project, valid or not; what is odd about
it is noted in the log. -/

namespace AppScaffold

open Log

structure GeneratorOptions where
  versionMarker : String := "*"
  extractShared : Bool := true
  deriving DecidableEq

/-- A file on its way into a project, and what is noted while it is made. -/
structure Draft where
  path : String
  content : String
  notes : List Event := []

/-- What is noted while the element of a component is made, its children left aside. -/
def Component.notes (c : Component) : List Event :=
  match c.kind, c.content with
  | .unknown name, _ => [⟨.element, .warn, "unsupported component kind", [⟨"kind", name⟩]⟩]
  | .list, some (.text _) =>
    [⟨.element, .debug, "List content is not an array, rendering as text", []⟩]
  | _, _ => []

/-- What is noted while a component is rendered around its children, of which `inner` is noted. -/
def Component.notesAround (c : Component) (inner : List Event) : List Event :=
  match c.kind with
  | .card | .scrollView | .view | .touchableOpacity | .safeAreaView => inner
  | _ => c.notes

mutual

def Component.renderNotes (c : Component) : List Event :=
  match c with
  | { children, .. } => c.notesAround (forestNotes children)

def forestNotes : List Component → List Event
  | [] => []
  | c :: cs => c.renderNotes ++ forestNotes cs

end

namespace AppSpecification

def targetNotes (spec : AppSpecification) (s : Screen) : List Event :=
  (s.targets.filter fun target => (spec.screen? target).isNone).map fun target =>
    ⟨.screen, .warn, "navigation target names no screen",
      [⟨"screen", s.name⟩, ⟨"target", target⟩]⟩

def screenNotes (spec : AppSpecification) (s : Screen) : List Event :=
  spec.targetNotes s ++
    [⟨.screen, .debug, "rendering screen", [⟨"screen", s.name⟩, ⟨"imports", s.importList⟩]⟩] ++
    forestNotes s.components

def screenDraft (spec : AppSpecification) (s : Screen) : Draft :=
  { path := s.filePath, content := s.moduleText, notes := spec.screenNotes s }

end AppSpecification

namespace GeneratorOptions

def drafts (options : GeneratorOptions) (spec : AppSpecification) : List Draft :=
  [{ path := "App.js", content := spec.rootText }] ++
    spec.screens.map spec.screenDraft ++
    (if options.extractShared && spec.usesCards then [{ path := cardPath, content := cardText }]
      else []) ++
    [{ path := "app.json", content := spec.appManifestText },
      { path := "babel.config.js", content := babelConfig },
      { path := "package.json", content := spec.packageText options.versionMarker }]

def generate (options : GeneratorOptions) (spec : AppSpecification) : Project :=
  .ofList ((options.drafts spec).map fun d => (d.path, d.content))

end GeneratorOptions

def replacementNotes (seen : List String) (path : String) : List Event :=
  if seen.contains path then
    [⟨.project, .warn, "duplicate output path, earlier file replaced", [⟨"path", path⟩]⟩]
  else []

/-- What is noted while drafts are put into a project that has the paths `seen`. -/
def draftNotes (seen : List String) : List Draft → List Event
  | [] => []
  | d :: ds => d.notes ++ replacementNotes seen d.path ++ draftNotes (d.path :: seen) ds

def GeneratorOptions.log (options : GeneratorOptions) (spec : AppSpecification) : List Entry :=
  let span : Span :=
    ⟨.project, .debug, "generate",
      [⟨"app", spec.appName⟩, .count "screens" spec.screens.length]⟩
  let done : Event :=
    ⟨.project, .debug, "project generated", [.count "files" (options.generate spec).size]⟩
  [.opened span] ++ (draftNotes [] (options.drafts spec) ++ [done]).map .event ++ [.closed]

/-- Why a text gives no project: it is no usable specification, or a document that has to be read
on the way is no JSON. -/
inductive GenerateError
  | spec (e : SpecError)
  | json (e : Json.Error)

def GenerateError.message : GenerateError → String
  | spec e => e.message
  | json e => "JSON error: " ++ e.message

/-- The specification that a text writes, if nothing is wrong with it. -/
def AppSpecification.parseValid (text : String) : Except SpecError AppSpecification := do
  let spec ← (AppSpecification.parse text).mapError SpecError.json
  spec.validate.check
  pure spec

def generateText (text : String) : Except GenerateError Project := do
  let spec ← (AppSpecification.parseValid text).mapError GenerateError.spec
  pure (GeneratorOptions.generate {} spec)

end AppScaffold

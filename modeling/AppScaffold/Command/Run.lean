import AppScaffold.Command.Arguments
import AppScaffold.Command.Failure
import AppScaffold.Log.Entry

namespace AppScaffold

open Log

/-- What a command needs of the machine that it runs on. -/
structure Machine (m : Type → Type) where
  readInput : m (Except DiskError String)
  readFile : String → m (Except DiskError String)
  createDirectories : String → m (Except DiskError Unit)
  writeFile : (path content : String) → m (Except DiskError Unit)
  print : String → m Unit
  note : Entry → m Unit

abbrev Run (m : Type → Type) (α : Type) := ExceptT CommandError m α

namespace Machine

variable {m : Type → Type} [Monad m]

def perform {α : Type} (action : m (Except DiskError α)) (failure : DiskError → CommandError) :
    Run m α :=
  ExceptT.mk do
    match ← action with
    | .ok a => pure (.ok a)
    | .error e => pure (.error (failure e))

def settled {ε α : Type} (result : Except ε α) (failure : ε → CommandError) : Run m α :=
  ExceptT.mk (pure (result.mapError failure))

def say (h : Machine m) (s : String) : Run m Unit := ExceptT.lift (h.print s)

def log (h : Machine m) (entries : List Entry) : Run m Unit :=
  ExceptT.lift (entries.forM h.note)

def logEvent (h : Machine m) (e : Event) : Run m Unit := h.log [.event e]

/-- The text of a source. A lone hyphen stands for the input. -/
def readSource (h : Machine m) (source : String) : Run m String :=
  if Path.parts source = [.name "-"] then perform h.readInput .readInput
  else perform (h.readFile source) (.readFile source)

def loadSpec (h : Machine m) (source : String) : Run m AppSpecification := do
  let text ← h.readSource source
  settled (AppSpecification.parse text) (.decode source)

def writeBelow (h : Machine m) (out path content : String) : Run m String := do
  let target := Path.join out path
  let directory := Path.directory target
  perform (h.createDirectories directory) (.createDirectory directory)
  perform (h.writeFile target content) (.writeFile target)
  h.logEvent
    ⟨.output, .debug, "wrote file", [⟨"path", target⟩, .count "bytes" content.utf8ByteSize]⟩
  pure target

def writeAll (h : Machine m) (out : String) : List (String × String) → Run m (List String)
  | [] => pure []
  | (path, content) :: rest => do
    let target ← h.writeBelow out path content
    pure (target :: (← h.writeAll out rest))

/-- Nothing is written if any path leaves the directory. -/
def writeProject (h : Machine m) (out : String) (p : Project) : Run m (List String) :=
  match p.paths.find? Path.leaves with
  | some path => throw (.outside path)
  | none => h.writeAll out p.files

/-- Errors end the command, unless it is forced; warnings are noted. -/
def gate (h : Machine m) (report : Report) (force : Bool) : Run m Unit := do
  h.log (report.warnings.map fun i => .event ⟨.command, .warn, i.message, []⟩)
  if !report.isValid then
    if force then
      h.logEvent
        ⟨.command, .warn,
          "generating despite validation errors: " ++ Issue.summary report.errors, []⟩
    else throw (.invalid report.errors)

def generate (h : Machine m) (source out : String) (options : GeneratorOptions) (force : Bool) :
    Run m Unit := do
  let spec ← h.loadSpec source
  h.gate spec.validate force
  h.log (options.log spec)
  let written ← h.writeProject out (options.generate spec)
  let readme ← h.writeBelow out "README.md" spec.readmeText
  let targets := written ++ [readme]
  h.say (String.join (targets.map (· ++ "\n")))
  h.logEvent
    ⟨.command, .info, "project written", [.count "files" targets.length, ⟨"out", out⟩]⟩

def check (h : Machine m) (source : String) : Run m Unit := do
  let spec ← h.loadSpec source
  let report := spec.validate
  h.say (String.join (report.errors.map fun i => "error: " ++ i.message ++ "\n"))
  h.say (String.join (report.warnings.map fun i => "warning: " ++ i.message ++ "\n"))
  if report.errors.isEmpty then
    h.say ("ok: " ++ toString spec.screens.length ++ " screen(s)\n")
  else throw (.issues report.errors.length)

/-- The length of the change is checked before the source is read. -/
def iteratePrompt (h : Machine m) (source modification : String) : Run m Unit := do
  settled (PromptKind.modification.check modification) .prompt
  let spec ← h.loadSpec source
  h.say (spec.iterationPrompt modification)

def run (h : Machine m) : Command → Run m Unit
  | .generate source out options force => h.generate source out options force
  | .check source => h.check source
  | .schema => h.say (responseSchema.pretty ++ "\n")
  | .iteratePrompt source modification => h.iteratePrompt source modification

end Machine

end AppScaffold

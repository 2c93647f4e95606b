import AppScaffold.Command.Run
import AppScaffold.Log.Line

namespace AppScaffold

def diskError : IO.Error → DiskError
  | .noFileOrDirectory .. => .notFound
  | .alreadyExists .. => .fileExists
  | .inappropriateType _ 20 _ => .notDirectory
  | .inappropriateType _ 21 _ => .isDirectory
  | .permissionDenied _ code details | .resourceExhausted _ code details
  | .invalidArgument _ code details | .inappropriateType _ code details
  | .noSuchThing _ code details => .other (DiskError.numbered details code.toNat)
  | e => .other (toString e)

def guarded {α : Type} (action : IO α) : IO (Except DiskError α) :=
  try
    return .ok (← action)
  catch e => return .error (diskError e)

partial def readRest (input : IO.FS.Stream) (taken : ByteArray) : IO ByteArray := do
  let chunk ← input.read 65536
  if chunk.isEmpty then return taken
  readRest input (taken ++ chunk)

def readText (bytes : IO ByteArray) : IO (Except DiskError String) :=
  return (← guarded bytes).bind decodeText

partial def ensureDirectory (path : String) : IO (Except DiskError Unit) := do
  if path.isEmpty then return .ok ()
  match ← guarded (IO.FS.createDir path) with
  | .ok () => return .ok ()
  | .error .notFound =>
    match ← ensureDirectory (Path.directory path) with
    | .ok () => guarded (IO.FS.createDirAll path)
    | .error e => return .error e
  | .error .fileExists =>
    match ← guarded (IO.FS.createDirAll path) with
    | .ok () => return .ok ()
    | .error _ => return .error .fileExists
  | .error e => return .error e

/-- The machine that the program is started on. `scopes` holds the open spans of its log. -/
def systemMachine (filter : Log.Filter) (scopes : IO.Ref (List Log.Scope)) : Machine IO where
  readInput := readText (do readRest (← IO.getStdin) .empty)
  readFile path := readText (IO.FS.readBinFile path)
  createDirectories := ensureDirectory
  writeFile path content := guarded (IO.FS.writeFile path content)
  print := IO.print
  note entry := do
    let (after, line) := Log.advance filter (← scopes.get) entry
    scopes.set after
    IO.eprint line

def usage : String :=
  "Usage: appgen generate <SPEC> --out <OUT> [--version-marker <VERSION_MARKER>] " ++
    "[--no-shared-components] [--force]\n" ++
  "       appgen check <SPEC>\n" ++
  "       appgen schema\n" ++
  "       appgen iterate-prompt <SPEC> <MODIFICATION>\n"

/-- A call of the program. The result is 0 for a success, 1 for a failure, and 2 for arguments that
give no command. -/
def call (arguments : List String) : IO UInt32 := do
  match Command.ofArguments arguments with
  | none =>
    IO.eprint usage
    return 2
  | some c =>
    let filter := Log.Filter.ofSetting (← IO.getEnv "RUST_LOG")
    match ← ((systemMachine filter (← IO.mkRef [])).run c).run with
    | .ok () => return 0
    | .error e =>
      IO.eprint e.text
      return 1

end AppScaffold

def main (arguments : List String) : IO UInt32 := AppScaffold.call arguments

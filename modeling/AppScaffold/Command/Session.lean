import AppScaffold.Command.Run
import AppScaffold.Log.Line

/-! Commands run on a disk that is a value, and what such a run shows. -/

namespace AppScaffold

open Log

/-- A disk, and what has been printed and noted so far. The input is a device of the disk. -/
structure Session where
  disk : Disk
  printed : String := ""
  log : List Entry := []

namespace Session

def machine : Machine (StateM Session) where
  readInput := do pure ((← get).disk.read Disk.inputPath)
  readFile path := do pure ((← get).disk.read path)
  createDirectories path := modifyGet fun s =>
    let (result, disk) := s.disk.createDirectories path
    (result, { s with disk })
  writeFile path content := modifyGet fun s =>
    match s.disk.write path content with
    | .ok disk => (.ok (), { s with disk })
    | .error e => (.error e, s)
  print text := modify fun s => { s with printed := s.printed ++ text }
  note entry := modify fun s => { s with log := s.log ++ [entry] }

/-- A command's result, and the session behind it. -/
def run (s : Session) (c : Command) : Except CommandError Unit × Session :=
  ((machine.run c).run.run s : Id _)

end Session

structure Transcript where
  code : Nat
  printed : String
  complaints : String
  disk : Disk

/-- A call of the program. Arguments that give no command are answered with the code 2. -/
def Session.call (s : Session) (arguments : List String) (filter : Filter) : Transcript :=
  match Command.ofArguments arguments with
  | none => ⟨2, "", "", s.disk⟩
  | some c =>
    match s.run c with
    | (.ok (), after) => ⟨0, after.printed, Log.text filter after.log, after.disk⟩
    | (.error e, after) =>
      ⟨1, after.printed, Log.text filter after.log ++ e.text, after.disk⟩

end AppScaffold

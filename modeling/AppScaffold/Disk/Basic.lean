import AppScaffold.Disk.Error
import AppScaffold.Disk.Node
import AppScaffold.Disk.Path

/-! A disk: a tree of files and directories, without links, and the directory in it at which paths
begin. -/

namespace AppScaffold

structure Disk where
  root : Node := .empty
  /-- Where the paths begin that do not begin at the root. -/
  working : Place := []

namespace Disk

def node? (d : Disk) (place : Place) : Option Node := d.root.get? place

def put (d : Disk) (place : Place) (n : Node) : Disk := { d with root := n.put place d.root }

def files (d : Disk) : List (Place × String) := ((d.node? d.working).map Node.files).getD []

def maxName : Nat := 255

def maxPath : Nat := 4095

def step (d : Disk) (place : Place) (piece : String) : Except DiskError Place :=
  match d.node? place with
  | none => .error .notFound
  | some (.directory _) =>
    if Path.isIdle piece then .ok place
    else if piece == ".." then .ok place.dropLast
    else if maxName < piece.utf8ByteSize then .error .nameTooLong
    else .ok (place ++ [piece])
  | some _ => .error .notDirectory

def checkPath (path : String) : Except DiskError Unit :=
  if path.toList.contains '\x00' then .error .nullInName
  else if path.isEmpty then .error .notFound
  else if maxPath < path.utf8ByteSize then .error .nameTooLong
  else .ok ()

def start (d : Disk) (path : String) : Place :=
  if path.toList.head? == some '/' then [] else d.working

def locate (d : Disk) (path : String) : Except DiskError Place := do
  checkPath path
  (Path.pieces path).foldlM d.step (d.start path)

def read (d : Disk) (path : String) : Except DiskError String := do
  match d.node? (← d.locate path) with
  | none => .error .notFound
  | some (.directory _) => .error .isDirectory
  | some (.file content) => .ok content
  | some (.device bytes) => decodeText bytes

def write (d : Disk) (path content : String) : Except DiskError Disk := do
  let place ← d.locate path
  match d.node? place with
  | some (.directory _) => .error .isDirectory
  | some (.device _) => .ok d
  | _ => .ok (d.put place (.file content))

/-- The directories of the pieces, made from `place` on where there are none. What is made before a
failure stays. -/
def makeDirectories (d : Disk) (place : Place) : List String → Except DiskError Unit × Disk
  | [] => (.ok (), d)
  | piece :: rest =>
    match d.step place piece with
    | .error e => (.error e, d)
    | .ok next =>
      match d.node? next with
      | none => (d.put next .empty).makeDirectories next rest
      | some (.directory _) => d.makeDirectories next rest
      | some _ => (.error (if rest.isEmpty then .fileExists else .notDirectory), d)

/-- The disk with the directory and those that it is in. The empty path names no directory. -/
def createDirectories (d : Disk) (path : String) : Except DiskError Unit × Disk :=
  if path.isEmpty then (.ok (), d)
  else match checkPath path with
    | .error e => (.error e, d)
    | .ok () => d.makeDirectories (d.start path) (Path.pieces path)

def addFile (d : Disk) (path content : String) : Disk :=
  let d := (d.createDirectories (Path.directory path)).2
  (d.write path content).toOption.getD d

def inputPath : String := "/dev/stdin"

/-- A disk with its usual directories, the devices of a call with the input, and a working directory
that holds the files. -/
def ofFiles (files : List (String × String)) (input : ByteArray) : Disk :=
  let devices := [("null", Node.device .empty), ("stdin", Node.device input)]
  let system := ["bin", "etc", "home", "lib", "opt", "proc", "root", "run", "sbin", "sys", "usr",
    "var"].map fun name => (name, Node.empty)
  let work := ("tmp", Node.directory [("work", .empty)])
  let d : Disk := ⟨.directory (("dev", .directory devices) :: work :: system), ["tmp", "work"]⟩
  files.foldl (fun d (path, content) => d.addFile path content) d

end Disk

end AppScaffold

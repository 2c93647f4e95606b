import AppScaffold.Json.Value

namespace AppScaffold

inductive Node
  | file (content : String)
  /-- A device reads as its bytes, whatever is written to it. -/
  | device (bytes : ByteArray)
  | directory (entries : List (String × Node))

/-- A place in a tree: the names that lead to it from the root. -/
abbrev Place := List String

namespace Node

def empty : Node := .directory []

def entry? : Node → String → Option Node
  | .directory entries, name => entries.lookup name
  | _, _ => none

def get? (n : Node) : Place → Option Node
  | [] => some n
  | name :: rest =>
    match n.entry? name with
    | some m => m.get? rest
    | none => none

/-- The tree with a node at the place. Directories on the way are made where there is nothing; where
there is something else, nothing is put. -/
def put (m : Node) : Place → Node → Node
  | [], _ => m
  | name :: rest, .directory entries =>
    .directory (Json.setMember name (m.put rest ((entries.lookup name).getD empty)) entries)
  | _ :: _, n => n

mutual

def files : Node → List (Place × String)
  | .file content => [([], content)]
  | .device _ => []
  | .directory entries => filesOf entries

def filesOf : List (String × Node) → List (Place × String)
  | [] => []
  | (name, n) :: rest => (n.files.map fun (place, s) => (name :: place, s)) ++ filesOf rest

end

end Node

end AppScaffold

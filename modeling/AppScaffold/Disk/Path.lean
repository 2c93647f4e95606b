import AppScaffold.Text.Blank

namespace AppScaffold.Path

inductive Part
  | root | current | parent
  | name (s : String)
  deriving DecidableEq

def Part.isName : Part → Bool
  | .name _ => true
  | _ => false

def pieces (path : String) : List String :=
  (Text.splitWhere (· == '/') path.toList).map String.ofList

def isIdle (piece : String) : Bool := piece == "" || piece == "."

def innerPart? (piece : String) : Option Part :=
  if isIdle piece then none else if piece == ".." then some .parent else some (.name piece)

/-- The parts of a path. The root and the same directory count only at its front. -/
def parts (path : String) : List Part :=
  match pieces path with
  | [] | [""] => []
  | "" :: rest => .root :: rest.filterMap innerPart?
  | "." :: rest => .current :: rest.filterMap innerPart?
  | first :: rest => (innerPart? first).toList ++ rest.filterMap innerPart?

/-- Whether a path may lead out of the directory that it starts in, or is written as if. -/
def leaves (path : String) : Bool := !(parts path).all Part.isName

/-- A path below a directory. An absolute path stays what it is. -/
def join (directory path : String) : String :=
  if path.toList.head? == some '/' then path
  else if directory.isEmpty || directory.toList.getLast? == some '/' then directory ++ path
  else directory ++ "/" ++ path

/-- Idle pieces at the end dropped, down to the first piece; the pieces are in reverse order. -/
def dropIdle : List String → List String
  | piece :: first :: rest =>
    if isIdle piece then dropIdle (first :: rest) else piece :: first :: rest
  | rest => rest

def directory (path : String) : String :=
  match (dropIdle (dropIdle (pieces path).reverse).tail).reverse with
  | [""] => "/"
  | rest => "/".intercalate rest

end AppScaffold.Path

import AppScaffold.Project.Generate

namespace AppScaffold

inductive Command
  | generate (source out : String) (options : GeneratorOptions) (force : Bool)
  | check (source : String)
  | schema
  | iteratePrompt (source modification : String)
  deriving DecidableEq

structure Arguments where
  places : List String := []
  values : List (String × String) := []
  flags : List String := []

namespace Arguments

/-- Whether an argument is a name or a flag. A lone hyphen is neither. -/
def isOption (s : String) : Bool := s.toList.head? == some '-' && s != "-"

def splitOption (s : String) : String × Option String :=
  let cs := s.toList
  let name := String.ofList (cs.takeWhile (· != '='))
  match cs.dropWhile (· != '=') with
  | [] => (name, none)
  | _ :: value => (name, some (String.ofList value))

def addPlace (s : String) (a : Arguments) : Option Arguments :=
  some { a with places := s :: a.places }

def addValue (name value : String) (a : Arguments) : Option Arguments :=
  if (a.values.lookup name).isSome then none
  else some { a with values := (name, value) :: a.values }

def addFlag (name : String) (a : Arguments) : Option Arguments :=
  if a.flags.contains name then none else some { a with flags := name :: a.flags }

/-- Arguments sorted by the names that take a value and those that take none. Two hyphens end the
options. -/
def sort (valued flags : List String) : List String → Option Arguments
  | [] => some {}
  | "--" :: rest => some { places := rest }
  | s :: rest =>
    if isOption s then
      match splitOption s with
      | (name, some value) =>
        if valued.contains name then (sort valued flags rest).bind (addValue name value) else none
      | (name, none) =>
        if flags.contains name then (sort valued flags rest).bind (addFlag name)
        else if valued.contains name then
          match rest with
          | value :: rest =>
            if isOption value then none else (sort valued flags rest).bind (addValue name value)
          | [] => none
        else none
    else (sort valued flags rest).bind (addPlace s)

end Arguments

namespace Command

open Arguments

def path? (s : String) : Option String := if s.isEmpty then none else some s

def generate? (a : Arguments) : Option Command :=
  match a.places, a.values.lookup "--out" with
  | [source], some out => do
    let options : GeneratorOptions :=
      { versionMarker := (a.values.lookup "--version-marker").getD "*"
        extractShared := !a.flags.contains "--no-shared-components" }
    pure (.generate (← path? source) (← path? out) options (a.flags.contains "--force"))
  | _, _ => none

def ofArguments : List String → Option Command
  | "generate" :: rest =>
    (sort ["--out", "--version-marker"] ["--no-shared-components", "--force"] rest).bind generate?
  | "check" :: rest => do
    match (← sort [] [] rest).places with
    | [source] => pure (.check (← path? source))
    | _ => none
  | "schema" :: rest => do
    match (← sort [] [] rest).places with
    | [] => pure .schema
    | _ => none
  | "iterate-prompt" :: rest => do
    match (← sort [] [] rest).places with
    | [source, modification] => pure (.iteratePrompt (← path? source) modification)
    | _ => none
  | _ => none

end Command

end AppScaffold

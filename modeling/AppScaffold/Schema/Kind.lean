import AppScaffold.Json.Value

namespace AppScaffold.Schema

open Json

-- Powers of numbers are those of the core library.
attribute [local instance (high)] instPowNat

inductive Record
  | specification | screen | component | binding | effect
  | summary | page | project | iteration
  deriving DecidableEq

inductive Kind
  | text
  | any
  | word (name : String) (limit : Nat)
  | list (item : Kind)
  | set
  | table
  | record (r : Record)
  deriving DecidableEq

def Kind.word32 : Kind := .word "u32" (2 ^ (32 : Nat))
def Kind.word64 : Kind := .word "u64" (2 ^ (64 : Nat))
def Kind.size : Kind := .word "usize" (2 ^ (64 : Nat))

structure Field where
  key : String
  kind : Kind
  /-- What a null stands for, where it stands for something. -/
  ifNull : Option Value := none
  /-- What stands for the field where a record lacks it. -/
  ifAbsent : Option Value := none
  /-- Whether a record given as a list may end before this field. -/
  mayEnd : Bool := false

namespace Field

def required (key : String) (kind : Kind) : Field := { key, kind }

def defaulted (key : String) (kind : Kind) (v : Value) : Field :=
  { key, kind, ifAbsent := some v, mayEnd := true }

def optional (key : String) (kind : Kind) : Field :=
  { key, kind, ifNull := some .null, ifAbsent := some .null, mayEnd := true }

def listOrNull (key : String) (item : Kind) : Field :=
  { key, kind := .list item, ifNull := some (.array []), ifAbsent := some (.array []),
    mayEnd := true }

end Field

namespace Record

open AppScaffold.Schema.Field

def name : Record → String
  | .specification => "AppSpecification"
  | .screen => "Screen"
  | .component => "RawComponent"
  | .binding => "StateBinding"
  | .effect => "Effect"
  | .summary => "ProjectSummary"
  | .page => "ProjectPage"
  | .project => "StoredProject"
  | .iteration => "Iteration"

def fields : Record → List Field
  | .specification =>
    [required "appName" .text, required "dependencies" .set,
      required "screens" (.list (.record .screen))]
  | .screen =>
    [required "name" .text, required "path" .text,
      required "components" (.list (.record .component)),
      listOrNull "state" (.record .binding), listOrNull "effects" (.record .effect)]
  | .component =>
    [defaulted "type" .text (.string ""), optional "content" .any, optional "navigateTo" .text,
      optional "onPress" .text, optional "placeholder" .text, optional "value" .text,
      optional "onChangeText" .text, optional "source" .text, optional "alt" .text,
      listOrNull "children" (.record .component), optional "data" .any,
      optional "renderItem" .text, optional "keyExtractor" .text, optional "style" .any]
  | .binding =>
    [required "name" .text, defaulted "initialValue" .any .null,
      defaulted "type" .text (.string "")]
  | .effect => [listOrNull "dependencies" .text, required "code" .text]
  | .summary =>
    [required "id" .word64, required "name" .text,
      { optional "description" .text with mayEnd := false }, required "version" .word32]
  | .page => [required "projects" (.list (.record .summary)), required "total" .size]
  | .project =>
    [required "id" .word64, required "name" .text,
      { optional "description" .text with mayEnd := false }, required "originalPrompt" .text,
      required "specification" (.record .specification), required "files" .table,
      required "version" .word32]
  | .iteration =>
    [required "projectId" .word64, required "version" .word32,
      required "modificationPrompt" .text, required "specification" (.record .specification),
      required "files" .table]

def wanted (r : Record) : String := "struct " ++ r.name

def wantedElements (r : Record) : String :=
  let n := r.fields.length
  r.wanted ++ " with " ++ toString n ++ if n = 1 then " element" else " elements"

end Record

def Kind.wanted : Kind → String
  | .text => "a string"
  | .any => "any value"
  | .word name _ => name
  | .list _ => "a sequence"
  | .set => "a set"
  | .table => "a map"
  | .record r => r.wanted

end AppScaffold.Schema

namespace AppScaffold.Log

inductive Level
  | error | warn | info | debug | trace
  deriving DecidableEq

namespace Level

def name : Level → String
  | error => "ERROR"
  | warn => "WARN"
  | info => "INFO"
  | debug => "DEBUG"
  | trace => "TRACE"

def rank : Level → Nat
  | error => 0
  | warn => 1
  | info => 2
  | debug => 3
  | trace => 4

end Level

inductive Origin
  | element | screen | project | producer | store | command | output
  deriving DecidableEq

def Origin.name : Origin → String
  | element => "appgen_codegen::component"
  | screen => "appgen_codegen::screen"
  | project => "appgen_codegen::project"
  | producer => "appgen_pipeline::producer"
  | store => "appgen_pipeline::store"
  | command => "appgen"
  | output => "appgen::output"

structure Field where
  name : String
  value : String
  deriving DecidableEq

def Field.count (name : String) (n : Nat) : Field := ⟨name, toString n⟩

structure Event where
  origin : Origin
  level : Level
  message : String
  fields : List Field := []
  deriving DecidableEq

structure Span where
  origin : Origin
  level : Level
  name : String
  fields : List Field := []
  deriving DecidableEq

/-- A step of the log. Spans close in the order opposite to that of their opening. -/
inductive Entry
  | event (e : Event)
  | opened (s : Span)
  | closed
  deriving DecidableEq

def events (log : List Entry) : List Event :=
  log.filterMap fun
    | .event e => some e
    | _ => none

end AppScaffold.Log

import AppScaffold.Log.Filter
import AppScaffold.Text.Lines
import AppScaffold.Text.Quoted

namespace AppScaffold.Log

/-- A character of a message. Those that steer a terminal are shown by their numbers. -/
def visible (c : Char) : String :=
  match c with
  | '\x07' => "\\x07"
  | '\x08' => "\\x08"
  | '\x0c' => "\\x0c"
  | '\x1b' => "\\x1b"
  | '\x7f' => "\\x7f"
  | c =>
    if 0x80 ≤ c.toNat && c.toNat ≤ 0x9f then "\\u\x7b" ++ Text.hex c.toNat ++ "\x7d"
    else c.toString

def Field.text (f : Field) : String := f.name ++ "=" ++ f.value

def Span.text (s : Span) : String :=
  let fields :=
    if s.fields.isEmpty then "" else "\x7b" ++ " ".intercalate (s.fields.map Field.text) ++ "\x7d"
  s.name ++ fields ++ ":"

def Event.line (spans : List Span) (e : Event) : String :=
  Text.spaces (5 - e.level.name.length) ++ e.level.name ++ " " ++
    String.join (spans.map Span.text) ++ (if spans.isEmpty then "" else " ") ++
    String.join (e.message.toList.map visible) ++
    String.join (e.fields.map fun f => " " ++ f.text) ++ "\n"

/-- What an entry shows, and the scopes that are open behind it, the innermost first. -/
def advance (f : Filter) (scopes : List Scope) : Entry → List Scope × String
  | .opened s => (f.scope scopes s :: scopes, "")
  | .closed => (scopes.tail, "")
  | .event e =>
    (scopes, if f.showsEvent scopes e then e.line (scopes.reverse.filterMap Scope.span) else "")

def linesFrom (f : Filter) (scopes : List Scope) : List Entry → String
  | [] => ""
  | e :: es =>
    let (scopes, line) := advance f scopes e
    line ++ linesFrom f scopes es

def text (f : Filter) (log : List Entry) : String := linesFrom f [] log

end AppScaffold.Log

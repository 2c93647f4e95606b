import AppScaffold.Json.Value
import AppScaffold.Numeral.Shortest
import AppScaffold.Text.Lines

namespace AppScaffold.Json

open Numeral

def hexDigit (n : Nat) : Char := (Nat.digitChar n)

/-- A character as it stands in a string. Only quotes, backslashes and controls are escaped. -/
def escapeChar (c : Char) : List Char :=
  match c with
  | '"' => ['\\', '"']
  | '\\' => ['\\', '\\']
  | '\x08' => ['\\', 'b']
  | '\x0c' => ['\\', 'f']
  | '\n' => ['\\', 'n']
  | '\r' => ['\\', 'r']
  | '\t' => ['\\', 't']
  | c =>
    if c < ' ' then ['\\', 'u', '0', '0', hexDigit (c.toNat / 16), hexDigit (c.toNat % 16)]
    else [c]

def writeString (s : String) : String := "\"" ++ String.ofList (s.toList.flatMap escapeChar) ++ "\""

def Number.text : Number → String
  | .natural n => toString n
  | .negative n => "-" ++ toString n
  | .float x => x.text documentDouble

mutual

def Value.compact : Value → String
  | .null => "null"
  | .bool b => toString b
  | .number n => n.text
  | .string s => writeString s
  | .array items => "[" ++ ",".intercalate (compactItems items) ++ "]"
  | .object members => "\x7b" ++ ",".intercalate (compactMembers members) ++ "\x7d"

def Value.compactItems : List Value → List String
  | [] => []
  | v :: vs => v.compact :: compactItems vs

def Value.compactMembers : List (String × Value) → List String
  | [] => []
  | (k, v) :: ms => (writeString k ++ ":" ++ v.compact) :: compactMembers ms

end

/-- Parts between brackets, each on a line of its own; without parts the brackets touch. -/
def bracketed (opening closing : String) (level : Nat) (parts : List String) : String :=
  if parts.isEmpty then opening ++ closing
  else
    opening ++ "\n" ++ ",\n".intercalate (parts.map (Text.indent (level + 1) ++ ·)) ++ "\n" ++
      Text.indent level ++ closing

mutual

def Value.prettyAt (level : Nat) : Value → String
  | .null => "null"
  | .bool b => toString b
  | .number n => n.text
  | .string s => writeString s
  | .array items => bracketed "[" "]" level (prettyItems (level + 1) items)
  | .object members => bracketed "\x7b" "\x7d" level (prettyMembers (level + 1) members)

def Value.prettyItems (level : Nat) : List Value → List String
  | [] => []
  | v :: vs => v.prettyAt level :: prettyItems level vs

def Value.prettyMembers (level : Nat) : List (String × Value) → List String
  | [] => []
  | (k, v) :: ms => (writeString k ++ ": " ++ v.prettyAt level) :: prettyMembers level ms

end

def Value.pretty (v : Value) : String := v.prettyAt 0

end AppScaffold.Json

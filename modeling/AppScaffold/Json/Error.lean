import AppScaffold.Json.Value
import AppScaffold.Numeral.Shortest
import AppScaffold.Text.Quoted

namespace AppScaffold.Json

open Numeral

inductive Flaw
  | endOfList | endOfObject | endOfString | endOfValue
  | colonExpected | listCommaExpected | objectCommaExpected | wordExpected | valueExpected
  | badEscape | badNumber | numberTooLarge | controlCharacter | keyNotString
  | loneSurrogate | brokenSurrogatePair | trailingComma | trailingCharacters | tooDeep
  deriving DecidableEq

def Flaw.message : Flaw → String
  | .endOfList => "EOF while parsing a list"
  | .endOfObject => "EOF while parsing an object"
  | .endOfString => "EOF while parsing a string"
  | .endOfValue => "EOF while parsing a value"
  | .colonExpected => "expected `:`"
  | .listCommaExpected => "expected `,` or `]`"
  | .objectCommaExpected => "expected `,` or `\x7d`"
  | .wordExpected => "expected ident"
  | .valueExpected => "expected value"
  | .badEscape => "invalid escape"
  | .badNumber => "invalid number"
  | .numberTooLarge => "number out of range"
  | .controlCharacter => "control character (\\u0000-\\u001F) found while parsing a string"
  | .keyNotString => "key must be a string"
  | .loneSurrogate => "lone leading surrogate in hex escape"
  | .brokenSurrogatePair => "unexpected end of hex escape"
  | .trailingComma => "trailing comma"
  | .trailingCharacters => "trailing characters"
  | .tooDeep => "recursion limit exceeded"

inductive Found
  | null | bool (b : Bool) | number (n : Number) | string (s : String) | sequence | map
  deriving DecidableEq

def Found.ofValue : Value → Found
  | .null => .null
  | .bool b => .bool b
  | .number n => .number n
  | .string s => .string s
  | .array _ => .sequence
  | .object _ => .map

def Found.text : Found → String
  | .null => "null"
  | .bool b => "boolean `" ++ toString b ++ "`"
  | .number (.natural n) => "integer `" ++ toString n ++ "`"
  | .number (.negative n) => "integer `-" ++ toString n ++ "`"
  | .number (.float x) => "floating point `" ++ x.text documentDouble ++ "`"
  | .string s => "string " ++ Text.quote s
  | .sequence => "sequence"
  | .map => "map"

inductive Mismatch
  | type (found : Found) (wanted : String)
  | range (found : Found) (wanted : String)
  | length (count : Nat) (wanted : String)
  | missing (key : String)
  | duplicate (key : String)
  | noVariant (name : String)
  deriving DecidableEq

def Mismatch.message : Mismatch → String
  | .type found wanted => "invalid type: " ++ found.text ++ ", expected " ++ wanted
  | .range found wanted => "invalid value: " ++ found.text ++ ", expected " ++ wanted
  | .length count wanted => "invalid length " ++ toString count ++ ", expected " ++ wanted
  | .missing key => "missing field `" ++ key ++ "`"
  | .duplicate key => "duplicate field `" ++ key ++ "`"
  | .noVariant name => "data did not match any variant of untagged enum " ++ name

inductive Cause
  | flaw (f : Flaw)
  | mismatch (m : Mismatch)
  deriving DecidableEq

def Cause.message : Cause → String
  | .flaw f => f.message
  | .mismatch m => m.message

structure Position where
  line : Nat
  column : Nat
  deriving DecidableEq

/-- The position behind `offset` bytes of a text, from a line that began at `start`; the text
follows `seen` bytes. -/
def Position.locate (offset line start seen : Nat) : List Char → Position
  | [] => ⟨line, offset - start⟩
  | c :: cs =>
    if offset ≤ seen then ⟨line, offset - start⟩
    else
      let next := seen + c.utf8Size
      if c = '\n' then locate offset (line + 1) next next cs else locate offset line start next cs

def Position.after (text : List Char) (offset : Nat) : Position := locate offset 1 0 0 text

/-- A document that is no text has no position. -/
structure Error where
  cause : Cause
  position : Option Position
  deriving DecidableEq

def Error.message (e : Error) : String :=
  match e.position with
  | none => e.cause.message
  | some p =>
    e.cause.message ++ " at line " ++ toString p.line ++ " column " ++ toString p.column

end AppScaffold.Json

namespace AppScaffold.Markup

def escape : Char → List Char
  | '\\' => ['\\', '\\']
  | '\'' => ['\\', '\'']
  | '\n' => ['\\', 'n']
  | '\r' => ['\\', 'r']
  | '\t' => ['\\', 't']
  | c => [c]

def literal (s : String) : String := "'" ++ String.ofList (s.toList.flatMap escape) ++ "'"

def unescape? : Char → Option Char
  | '\\' => some '\\'
  | '\'' => some '\''
  | 'n' => some '\n'
  | 'r' => some '\r'
  | 't' => some '\t'
  | _ => none

/-- The text of a literal behind its opening quote, and what follows its closing quote. -/
def readLiteral : List Char → Option (List Char × List Char)
  | [] => none
  | '\'' :: rest => some ([], rest)
  | '\\' :: c :: rest => do
    let (s, after) ← readLiteral rest
    pure ((← unescape? c) :: s, after)
  | ['\\'] => none
  | c :: rest => do
    let (s, after) ← readLiteral rest
    pure (c :: s, after)

def isSpecial (c : Char) : Bool := c == '{' || c == '}' || c == '<' || c == '>'

/-- Text between tags. Where a character of it would be read as markup, it becomes an expression. -/
def bodyText (s : String) : String :=
  if s.toList.any isSpecial then "\x7b" ++ literal s ++ "\x7d" else s

def attributeChar : Char → List Char
  | '"' => ['&', 'q', 'u', 'o', 't', ';']
  | c => [c]

def attributeText (s : String) : String := String.ofList (s.toList.flatMap attributeChar)

end AppScaffold.Markup

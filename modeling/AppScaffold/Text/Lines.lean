import AppScaffold.Text.Blank

namespace AppScaffold.Text

/-- A line that ends in a line feed loses the carriage return before it. -/
def dropReturn (line : List Char) : List Char :=
  if line.getLast? = some '\r' then line.dropLast else line

/-- The lines of a text. A line feed ends a line; after the last one nothing is a line. -/
def lineChars (cs : List Char) : List (List Char) :=
  let pieces := splitWhere (· == '\n') cs
  let last := pieces.getLast?.getD []
  pieces.dropLast.map dropReturn ++ if last.isEmpty then [] else [last]

def lines (s : String) : List String := (lineChars s.toList).map String.ofList

def unlines (ls : List String) : String := "\n".intercalate ls

def spaces (n : Nat) : String := String.ofList (List.replicate n ' ')

def indent (level : Nat) : String := spaces (2 * level)

/-- A line moved to the right; a blank line becomes empty. -/
def indentLine (n : Nat) (line : String) : String :=
  if isBlankText line then "" else spaces n ++ line

def indentLines (text : String) (n : Nat) : String :=
  unlines ((lines text).map (indentLine n))

end AppScaffold.Text

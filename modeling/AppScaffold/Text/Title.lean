import AppScaffold.Text.Case
import AppScaffold.Text.Grapheme

namespace AppScaffold.Text.Title

/-- An upper-case cluster is one that has a lower case and is its own upper case. -/
def isUpper (g : String) : Bool := upper g != lower g && g == upper g
def isLower (g : String) : Bool := upper g != lower g && g == lower g
def isDigit (g : String) : Bool := g.toList.all Char.isDigit

/-- Hyphen, underscore and space part words and are dropped. -/
def isDelimiter (g : String) : Bool := g == "-" || g == "_" || g == " "

/-- Whether a word begins at `g`, between the clusters `p` and `next`. -/
def startsWord (p g : String) (next : Option String) : Bool :=
  (isLower p && isUpper g) || (isUpper p && isDigit g) || (isDigit p && isUpper g) ||
    (isDigit p && isLower g) || (isLower p && isDigit g) ||
    (isUpper p && isUpper g && next.any isLower)

def wordsFrom (previous : Option String) (word : List String) : List String → List (List String)
  | [] => [word.reverse]
  | g :: gs =>
    if isDelimiter g then word.reverse :: wordsFrom (some g) [] gs
    else if previous.any (startsWord · g gs.head?) then
      word.reverse :: wordsFrom (some g) [g] gs
    else wordsFrom (some g) (g :: word) gs

def capitalize (word : String) : String :=
  match word.toList with
  | [] => ""
  | c :: cs => String.ofList (upperChar c) ++ lower (String.ofList cs)

def title (s : String) : String :=
  " ".intercalate <|
    (((wordsFrom none [] (clusters s)).map String.join).filter (!·.isEmpty)).map capitalize

end AppScaffold.Text.Title

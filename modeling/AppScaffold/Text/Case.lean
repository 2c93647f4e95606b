import AppScaffold.Text.CaseTable

namespace AppScaffold.Text

def upperChar (c : Char) : List Char :=
  match CaseRange.find? c.toNat upperTable with
  | some n => [Char.ofNat n]
  | none =>
    match upperSequences.find? (·.1 == c.toNat) with
    | some (_, ns) => ns.map Char.ofNat
    | none => [c]

/-- The lower case of a character by itself. Only `İ` becomes two characters. -/
def lowerChar (c : Char) : List Char :=
  match CaseRange.find? c.toNat lowerTable with
  | some n => [Char.ofNat n]
  | none => if c == 'İ' then ['i', '\u0307'] else [c]

def isCased (c : Char) : Bool := inRanges c.toNat casedRanges
def isCaseIgnorable (c : Char) : Bool := inRanges c.toNat caseIgnorableRanges

/-- Whether the first character that is not case-ignorable is a cased one. -/
def meetsCased (cs : List Char) : Bool :=
  match cs.dropWhile isCaseIgnorable with
  | c :: _ => isCased c
  | [] => false

/-- The lower case of `cs` behind the reversed text `before`. A sigma is final where a cased
letter precedes and none follows. -/
def lowerFrom (before : List Char) : List Char → List Char
  | [] => []
  | c :: cs =>
    (if c == 'Σ' then [if meetsCased before && !meetsCased cs then 'ς' else 'σ']
      else lowerChar c) ++ lowerFrom (c :: before) cs

def lower (s : String) : String := String.ofList (lowerFrom [] s.toList)
def upper (s : String) : String := String.ofList (s.toList.flatMap upperChar)

def upperFirst (s : String) : String :=
  match s.toList with
  | [] => ""
  | c :: cs => String.ofList (upperChar c ++ cs)

end AppScaffold.Text

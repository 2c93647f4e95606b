import AppScaffold.Json.Scan

namespace AppScaffold.Json

/-- A value that is neither array nor object. -/
def readScalar : Reader Value
  | [] => .error (Fault.here .endOfValue [])
  | c :: cs =>
    if c = 'n' then do
      let ((), cs) ← readWord ['u', 'l', 'l'] cs
      pure (.null, cs)
    else if c = 't' then do
      let ((), cs) ← readWord ['r', 'u', 'e'] cs
      pure (.bool true, cs)
    else if c = 'f' then do
      let ((), cs) ← readWord ['a', 'l', 's', 'e'] cs
      pure (.bool false, cs)
    else if c = '"' then do
      let (s, cs) ← readString cs
      pure (.string s, cs)
    else if c = '-' then do
      let (n, cs) ← readNumber true cs
      pure (.number n, cs)
    else if (digit? c).isSome then do
      let (n, cs) ← readNumber false (c :: cs)
      pure (.number n, cs)
    else .error (Fault.next .valueExpected (c :: cs))

/-- To the next element of an array body, or behind the bracket that closes it. -/
def nextElement (first : Bool) : Reader Bool := fun cs =>
  match skipSpace cs with
  | [] => .error (Fault.here .endOfList [])
  | c :: cs =>
    if c = ']' then pure (false, cs)
    else if first then pure (true, c :: cs)
    else if c = ',' then
      match skipSpace cs with
      | [] => .error (Fault.here .endOfValue [])
      | d :: cs =>
        if d = ']' then .error (Fault.next .trailingComma (d :: cs)) else pure (true, d :: cs)
    else .error (Fault.next .listCommaExpected (c :: cs))

def nextKey (first : Bool) : Reader (Option String) := fun cs =>
  let key (cs : List Char) := do
    let (k, cs) ← readString cs
    pure (some k, cs)
  match skipSpace cs with
  | [] => .error (Fault.here .endOfObject [])
  | c :: cs =>
    if c = '\x7d' then pure (none, cs)
    else if first then
      if c = '"' then key cs else .error (Fault.next .keyNotString (c :: cs))
    else if c = ',' then
      match skipSpace cs with
      | [] => .error (Fault.here .endOfValue [])
      | d :: cs =>
        if d = '"' then key cs
        else if d = '\x7d' then .error (Fault.next .trailingComma (d :: cs))
        else .error (Fault.next .keyNotString (d :: cs))
    else .error (Fault.next .objectCommaExpected (c :: cs))

def elementStep {α : Type} (item : Reader α) (taken : List α) : Reader (Step (List α) (List α)) :=
  fun cs => do
    let (more, cs) ← nextElement taken.isEmpty cs
    if more then
      let (a, cs) ← item cs
      pure (.more (a :: taken), cs)
    else pure (.done taken.reverse, cs)

def readElements {α : Type} (item : Reader α) : Reader (List α) := iterate (elementStep item) []

def memberStep {σ : Type} (member : σ → String → Reader σ) (state : Bool × σ) :
    Reader (Step (Bool × σ) σ) := fun cs => do
  match ← nextKey state.1 cs with
  | (some key, cs) =>
    let (s, cs) ← member state.2 key cs
    pure (.more (false, s), cs)
  | (none, cs) => pure (.done state.2, cs)

def readMembers {σ : Type} (member : σ → String → Reader σ) (s : σ) : Reader σ :=
  iterate (memberStep member) (true, s)

def readColon : Reader Unit := fun cs =>
  match skipSpace cs with
  | [] => .error (Fault.here .endOfObject [])
  | c :: cs => if c = ':' then pure ((), cs) else .error (Fault.next .colonExpected (c :: cs))

def setStep (value : Reader Value) (members : List (String × Value)) (key : String) :
    Reader (List (String × Value)) := fun cs => do
  let ((), cs) ← readColon cs
  let (v, cs) ← value cs
  pure (setMember key v members, cs)

/-- A value with at most `depth` arrays and objects inside one another. -/
def readValue : Nat → Reader Value
  | 0, cs =>
    match skipSpace cs with
    | '[' :: rest => .error (Fault.next .tooDeep ('[' :: rest))
    | '\x7b' :: rest => .error (Fault.next .tooDeep ('\x7b' :: rest))
    | cs => readScalar cs
  | depth + 1, cs =>
    match skipSpace cs with
    | '[' :: rest => do
      let (items, rest) ← readElements (readValue depth) rest
      pure (.array items, rest)
    | '\x7b' :: rest => do
      let (members, rest) ← readMembers (setStep (readValue depth)) [] rest
      pure (.object members, rest)
    | cs => readScalar cs

def maxDepth : Nat := 127

/-- A reader applied to a whole text, behind which only white space may stand. -/
def readDocument {α : Type} (reader : Reader α) (text : String) : Except Error α :=
  let cs := text.toList
  match reader cs with
  | .error f => .error (f.toError cs)
  | .ok (a, rest) =>
    match skipSpace rest with
    | [] => .ok a
    | rest => .error ((Fault.next .trailingCharacters rest).toError cs)

def Value.parse (text : String) : Except Error Value := readDocument (readValue maxDepth) text

end AppScaffold.Json

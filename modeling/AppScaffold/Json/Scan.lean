import AppScaffold.Json.Error

/-! The words, strings and numbers of a JSON text. A reader takes a text from its front and leaves
the rest; a failed one tells where it stood. -/

namespace AppScaffold.Json

open Numeral

-- Powers of numbers and the zero of a sum are those of the core library.
attribute [local instance (high)] instPowNat Zero.ofOfNat0

/-- Reading failed `ahead` bytes into `rest`, the part of the text not taken. -/
structure Fault where
  cause : Cause
  rest : List Char
  ahead : Nat

abbrev Reader (α : Type) := List Char → Except Fault (α × List Char)

def Fault.here (f : Flaw) (cs : List Char) : Fault := ⟨.flaw f, cs, 0⟩

def Fault.next (f : Flaw) (cs : List Char) : Fault := ⟨.flaw f, cs, if cs.isEmpty then 0 else 1⟩

def Fault.shape (m : Mismatch) (cs : List Char) : Fault := ⟨.mismatch m, cs, 0⟩

def utf8Length (cs : List Char) : Nat := (cs.map Char.utf8Size).sum

def Fault.toError (text : List Char) (f : Fault) : Error :=
  ⟨f.cause, some (Position.after text (utf8Length text - utf8Length f.rest + f.ahead))⟩

def isSpace (c : Char) : Bool := c == ' ' || c == '\n' || c == '\t' || c == '\r'

def skipSpace (cs : List Char) : List Char := cs.dropWhile isSpace

inductive Step (σ α : Type)
  | more (state : σ)
  | done (result : α)

def loop {σ α : Type} (step : σ → Reader (Step σ α)) : Nat → σ → Reader α
  | 0, _, cs => .error (Fault.here .endOfValue cs)
  | fuel + 1, s, cs => do
    match ← step s cs with
    | (.more s, rest) => loop step fuel s rest
    | (.done a, rest) => pure (a, rest)

/-- Steps until one is done. Each step that is not done takes a character, so the characters
bound the steps. -/
def iterate {σ α : Type} (step : σ → Reader (Step σ α)) (s : σ) : Reader α :=
  fun cs => loop step (cs.length + 1) s cs

/-! Words -/

def readWord : List Char → Reader Unit
  | [], cs => pure ((), cs)
  | _ :: _, [] => .error (Fault.here .endOfValue [])
  | w :: word, c :: cs =>
    if c = w then readWord word cs else .error (Fault.next .wordExpected (c :: cs))

/-! Strings -/

def hexDigit? (c : Char) : Option Nat :=
  if '0' ≤ c ∧ c ≤ '9' then some (c.toNat - '0'.toNat)
  else if 'a' ≤ c ∧ c ≤ 'f' then some (c.toNat - 'a'.toNat + 10)
  else if 'A' ≤ c ∧ c ≤ 'F' then some (c.toNat - 'A'.toNat + 10)
  else none

/-- Four hexadecimal digits. Four bytes count as taken when they are something else. -/
def readUnit : Reader Nat := fun cs =>
  if utf8Length (cs.take 4) < 4 then .error (Fault.here .endOfString [])
  else
    match cs.take 4 |>.mapM hexDigit? with
    | some ds => pure (ds.foldl (fun n d => n * 16 + d) 0, cs.drop 4)
    | none => .error ⟨.flaw .badEscape, cs, 4⟩

def isLeading (n : Nat) : Bool := 0xd800 ≤ n && n ≤ 0xdbff
def isTrailing (n : Nat) : Bool := 0xdc00 ≤ n && n ≤ 0xdfff

/-- What follows `\u`: one unit, or a leading and a trailing one with `\u` between. -/
def readUnicode : Reader Char := fun cs => do
  let (n, cs) ← readUnit cs
  if isTrailing n then .error (Fault.here .loneSurrogate cs)
  else if !isLeading n then pure (Char.ofNat n, cs)
  else match cs with
    | '\\' :: 'u' :: rest => do
      let (m, rest) ← readUnit rest
      if isTrailing m then
        pure (Char.ofNat (0x10000 + (n - 0xd800) * 0x400 + (m - 0xdc00)), rest)
      else .error (Fault.here .loneSurrogate rest)
    | [] | ['\\'] => .error (Fault.here .endOfString [])
    | '\\' :: rest => .error (Fault.next .brokenSurrogatePair rest)
    | _ => .error (Fault.next .brokenSurrogatePair cs)

def plainEscape? : Char → Option Char
  | '"' => some '"'
  | '\\' => some '\\'
  | '/' => some '/'
  | 'b' => some '\x08'
  | 'f' => some '\x0c'
  | 'n' => some '\n'
  | 'r' => some '\r'
  | 't' => some '\t'
  | _ => none

def readEscape : Reader Char
  | [] => .error (Fault.here .endOfString [])
  | c :: cs =>
    if c = 'u' then readUnicode cs
    else match plainEscape? c with
      | some d => pure (d, cs)
      | none => .error (Fault.next .badEscape (c :: cs))

def stringStep (taken : List Char) : Reader (Step (List Char) String)
  | [] => .error (Fault.here .endOfString [])
  | c :: cs =>
    if c = '"' then pure (.done (String.ofList taken.reverse), cs)
    else if c = '\\' then do
      let (d, cs) ← readEscape cs
      pure (.more (d :: taken), cs)
    else if c < ' ' then .error (Fault.next .controlCharacter (c :: cs))
    else pure (.more (c :: taken), cs)

def readString : Reader String := iterate stringStep []

/-! Numbers -/

def digit? (c : Char) : Option Nat :=
  if '0' ≤ c ∧ c ≤ '9' then some (c.toNat - '0'.toNat) else none

def startsDigit (cs : List Char) : Bool := cs.head?.any (digit? · |>.isSome)

def dropDigits (cs : List Char) : List Char := cs.dropWhile (digit? · |>.isSome)

/-- A significand is taken as far as it fits a word of 64 bits. -/
def appendDigit? (significand digit : Nat) : Option Nat :=
  if significand * 10 + digit < 2 ^ (64 : Nat) then some (significand * 10 + digit) else none

/-- The digits of a whole part: the significand, the number of digits that did not fit into it,
and the rest. -/
def readWhole (significand : Nat) : List Char → Nat × Nat × List Char
  | [] => (significand, 0, [])
  | c :: cs =>
    match digit? c with
    | none => (significand, 0, c :: cs)
    | some d =>
      match appendDigit? significand d with
      | some n => readWhole n cs
      | none =>
        let rest := dropDigits (c :: cs)
        (significand, (c :: cs).length - rest.length, rest)

/-- The digits of a fraction: the significand, the number of digits that went into it, and the
rest. Digits that do not fit are dropped. -/
def readFraction (significand taken : Nat) : List Char → Nat × Nat × List Char
  | [] => (significand, taken, [])
  | c :: cs =>
    match digit? c with
    | none => (significand, taken, c :: cs)
    | some d =>
      match appendDigit? significand d with
      | some n => readFraction n (taken + 1) cs
      | none => (significand, taken, dropDigits (c :: cs))

/-- The digits of an exponent as far as it fits a signed word of 32 bits, and the rest, which
begins with a digit if the exponent does not fit. -/
def readPower (power : Nat) : List Char → Nat × List Char
  | [] => (power, [])
  | c :: cs =>
    match digit? c with
    | none => (power, c :: cs)
    | some d => if power * 10 + d < 2 ^ (31 : Nat) then readPower (power * 10 + d) cs else (power, c :: cs)

def makeFloat (negative : Bool) (significand : Nat) (exponent : Int) : Reader Number := fun cs =>
  match Binary.ofDecimal? negative significand exponent with
  | some x => pure (.float x, cs)
  | none => .error (Fault.here .numberTooLarge cs)

def readExponent (negative : Bool) (significand : Nat) (scale : Int) : Reader Number := fun cs =>
  let (down, cs) := match cs with
    | '+' :: cs => (false, cs)
    | '-' :: cs => (true, cs)
    | cs => (false, cs)
  match cs with
  | [] => .error (Fault.here .endOfValue [])
  | c :: rest =>
    match digit? c with
    | none => .error (Fault.next .badNumber (c :: rest))
    | some d =>
      let (power, rest) := readPower d rest
      if startsDigit rest then
        if significand ≠ 0 ∧ down = false then .error (Fault.next .numberTooLarge rest)
        else makeFloat negative 0 0 (dropDigits rest)
      else makeFloat negative significand (if down then scale - power else scale + power) rest

def readFloatTail (negative : Bool) (significand : Nat) (scale : Int) : Reader Number
  | 'e' :: cs | 'E' :: cs => readExponent negative significand scale cs
  | cs => makeFloat negative significand scale cs

def readDecimal (negative : Bool) (significand : Nat) (scale : Int) : Reader Number := fun cs =>
  if startsDigit cs then
    let (significand, taken, rest) := readFraction significand 0 cs
    readFloatTail negative significand (scale - taken) rest
  else .error (Fault.next (if cs.isEmpty then .endOfValue else .badNumber) cs)

def readNumber (negative : Bool) : Reader Number
  | [] => .error (Fault.here .endOfValue [])
  | c :: cs =>
    match digit? c with
    | none => .error (Fault.next .badNumber (c :: cs))
    | some d =>
      if d = 0 ∧ startsDigit cs then .error (Fault.next .badNumber cs)
      else
        let (significand, dropped, rest) := readWhole d cs
        match rest with
        | '.' :: rest => readDecimal negative significand dropped rest
        | 'e' :: rest | 'E' :: rest => readExponent negative significand dropped rest
        | rest =>
          if dropped ≠ 0 then makeFloat negative significand dropped rest
          else if negative = false then pure (.natural significand, rest)
          else if significand = 0 ∨ 2 ^ (63 : Nat) < significand then makeFloat true significand 0 rest
          else pure (.negative significand, rest)

end AppScaffold.Json

import AppScaffold.Json.Reader

/-! Passing over a value that nobody wants. It is looked at less closely than a value that is read:
its depth is not limited, its numbers have no range, and its escapes name no characters. -/

namespace AppScaffold.Json

def skipEscape : Reader Unit
  | [] => .error (Fault.here .endOfString [])
  | c :: cs =>
    if c = 'u' then do
      let (_, cs) ← readUnit cs
      pure ((), cs)
    else if (plainEscape? c).isSome then pure ((), cs)
    else .error (Fault.next .badEscape (c :: cs))

def skipStringStep (_ : Unit) : Reader (Step Unit Unit)
  | [] => .error (Fault.here .endOfString [])
  | c :: cs =>
    if c = '"' then pure (.done (), cs)
    else if c = '\\' then do
      let ((), cs) ← skipEscape cs
      pure (.more (), cs)
    else if c < ' ' then .error (Fault.here .controlCharacter (c :: cs))
    else pure (.more (), cs)

def skipString : Reader Unit := iterate skipStringStep ()

def skipExponent : Reader Unit := fun cs =>
  let cs := match cs with
    | '+' :: cs | '-' :: cs => cs
    | cs => cs
  if startsDigit cs then pure ((), dropDigits cs) else .error (Fault.next .badNumber cs)

def skipExponent? : Reader Unit
  | 'e' :: cs | 'E' :: cs => skipExponent cs
  | cs => pure ((), cs)

def skipNumber : Reader Unit
  | [] => .error (Fault.here .badNumber [])
  | c :: cs =>
    match digit? c with
    | none => .error (Fault.next .badNumber (c :: cs))
    | some d =>
      if d = 0 ∧ startsDigit cs then .error (Fault.next .badNumber cs)
      else
        match (if d = 0 then cs else dropDigits cs) with
        | '.' :: cs =>
          if startsDigit cs then skipExponent? (dropDigits cs)
          else .error (Fault.next .badNumber cs)
        | cs => skipExponent? cs

def skipScalar : Reader Unit
  | [] => .error (Fault.here .endOfValue [])
  | c :: cs =>
    if c = 'n' then readWord ['u', 'l', 'l'] cs
    else if c = 't' then readWord ['r', 'u', 'e'] cs
    else if c = 'f' then readWord ['a', 'l', 's', 'e'] cs
    else if c = '"' then skipString cs
    else if c = '-' then skipNumber cs
    else if (digit? c).isSome then skipNumber (c :: cs)
    else .error (Fault.next .valueExpected (c :: cs))

inductive Bracket
  | list | object
  deriving DecidableEq

def Bracket.closing : Bracket → Char
  | .list => ']'
  | .object => '\x7d'

def Bracket.ended : Bracket → Flaw
  | .list => .endOfList
  | .object => .endOfObject

def Bracket.commaExpected : Bracket → Flaw
  | .list => .listCommaExpected
  | .object => .objectCommaExpected

/-- The key and colon before the next value inside a bracket. -/
def Bracket.lead : Bracket → Reader Unit
  | .list, cs => pure ((), cs)
  | .object, cs =>
    match skipSpace cs with
    | [] => .error (Fault.here .endOfObject [])
    | c :: cs =>
      if c = '"' then do
        let ((), cs) ← skipString cs
        readColon cs
      else .error (Fault.next .keyNotString (c :: cs))

/-- From behind a value, or from behind the innermost open bracket when `first`, to the next value
or to the end of the outermost bracket. -/
def skipBetween (first : Bool) : List Bracket → Reader (Step (List Bracket) Unit)
  | [], cs => pure (.done (), cs)
  | b :: bs, cs =>
    match skipSpace cs with
    | [] => .error (Fault.here b.ended [])
    | c :: cs =>
      if c = b.closing then skipBetween false bs cs
      else if first then do
        let ((), cs) ← b.lead (c :: cs)
        pure (.more (b :: bs), cs)
      else if c = ',' then do
        let ((), cs) ← b.lead cs
        pure (.more (b :: bs), cs)
      else .error (Fault.next b.commaExpected (c :: cs))

/-- One scalar or opening bracket, and what follows it up to the next value. -/
def skipStep (open_ : List Bracket) : Reader (Step (List Bracket) Unit) := fun cs =>
  match skipSpace cs with
  | '[' :: cs => skipBetween true (.list :: open_) cs
  | '\x7b' :: cs => skipBetween true (.object :: open_) cs
  | cs => do
    let ((), cs) ← skipScalar cs
    skipBetween false open_ cs

def skipValue : Reader Unit := iterate skipStep []

end AppScaffold.Json

import AppScaffold.Json.Skip
import AppScaffold.Schema.Check

/-! Reading a text straight into the form of a kind. The reader knows what is wanted, so it finds a
value of another kind before what is wrong behind it, and passes over what no field asks for. -/

namespace AppScaffold.Schema

open Json

/-- A value that is not of the wanted kind. A list or an object is not looked into. -/
def readOther {α : Type} (wanted : String) : Reader α := fun cs =>
  match skipSpace cs with
  | '[' :: rest => .error (Fault.shape (.type .sequence wanted) ('[' :: rest))
  | '\x7b' :: rest => .error (Fault.shape (.type .map wanted) ('\x7b' :: rest))
  | cs => do
    let (v, rest) ← readScalar cs
    .error (Fault.shape (.type (Found.ofValue v) wanted) rest)

def readText : Reader Value := fun cs =>
  match skipSpace cs with
  | '"' :: rest => do
    let (s, rest) ← readString rest
    pure (.string s, rest)
  | cs => readOther Kind.text.wanted cs

def readFitted (fit : Number → Except Mismatch Value) (negative : Bool) : Reader Value :=
  fun cs => do
    let (n, rest) ← readNumber negative cs
    match fit n with
    | .ok v => pure (v, rest)
    | .error m => .error (Fault.shape m rest)

def readWordOf (name : String) (limit : Nat) : Reader Value := fun cs =>
  match skipSpace cs with
  | '-' :: rest => readFitted (fitWord name limit) true rest
  | cs => if startsDigit cs then readFitted (fitWord name limit) false cs else readOther name cs

def endElements : Reader Unit := fun cs =>
  match skipSpace cs with
  | [] => .error (Fault.here .endOfList [])
  | ']' :: rest => pure ((), rest)
  | ',' :: rest =>
    match skipSpace rest with
    | ']' :: rest => .error (Fault.next .trailingComma (']' :: rest))
    | rest => .error (Fault.next .trailingCharacters rest)
  | cs => .error (Fault.next .trailingCharacters cs)

def closeObject (cs : List Char) : List Char :=
  match skipSpace cs with
  | '\x7d' :: rest => rest
  | cs => cs

def readField (read : Kind → Reader Value) (f : Field) : Reader Value := fun cs =>
  match f.ifNull, skipSpace cs with
  | some v, 'n' :: rest => do
    let ((), rest) ← readWord ['u', 'l', 'l'] rest
    pure (v, rest)
  | _, cs => read f.kind cs

def readFields (read : Kind → Reader Value) (r : Record) (index : Nat) :
    List Field → Reader (List Value)
  | [], cs => do
    let ((), cs) ← endElements cs
    pure ([], cs)
  | f :: fs, cs => do
    let (more, cs) ← nextElement (index == 0) cs
    if more then
      let (v, cs) ← readField read f cs
      let (vs, cs) ← readFields read r (index + 1) fs cs
      pure (v :: vs, cs)
    else
      match fitEnd r index (f :: fs) with
      | .ok vs => pure (vs, cs)
      | .error m => .error (Fault.shape m cs)

/-- What follows a key of a record: a field not seen before, or something to pass over. -/
def fieldStep (read : Kind → Reader Value) (r : Record) (found : List (String × Value))
    (key : String) : Reader (List (String × Value)) := fun cs =>
  match r.field? key with
  | none => do
    let ((), cs) ← readColon cs
    let ((), cs) ← skipValue cs
    pure (found, cs)
  | some f =>
    if found.any (·.1 == key) then .error (Fault.shape (.duplicate key) (closeObject cs))
    else do
      let ((), cs) ← readColon cs
      let (v, cs) ← readField read f cs
      pure ((key, v) :: found, cs)

def readRecord (read : Kind → Reader Value) (r : Record) : Reader Value := fun cs => do
  let (found, cs) ← readMembers (fieldStep read r) [] cs
  match r.assemble found with
  | .ok v => pure (v, cs)
  | .error m => .error (Fault.shape m cs)

/-- A bracket, then what `body` reads with the reader for what is inside, if that is allowed. -/
def readInside (inner : Option (Kind → Reader Value)) (bracket : Char)
    (body : (Kind → Reader Value) → Reader Value) : Reader Value := fun cs =>
  match inner with
  | none => .error (Fault.next .tooDeep (bracket :: cs))
  | some read => body read cs

/-- A value of the kind, with `inner` for what its brackets hold and `value` for any value. -/
def readShape (inner : Option (Kind → Reader Value)) (value : Reader Value) (k : Kind) :
    Reader Value := fun cs =>
  let elements (item : Kind) := readInside inner '[' fun read cs => do
    let (items, cs) ← readElements (read item) cs
    pure (.array items, cs)
  match k with
  | .any => value cs
  | .text => readText cs
  | .word name limit => readWordOf name limit cs
  | .list item =>
    match skipSpace cs with
    | '[' :: rest => elements item rest
    | cs => readOther k.wanted cs
  | .set =>
    match skipSpace cs with
    | '[' :: rest => elements .text rest
    | cs => readOther k.wanted cs
  | .table =>
    match skipSpace cs with
    | '\x7b' :: rest => readInside inner '\x7b' (fun _ cs => do
        let (members, cs) ← readMembers (setStep readText) [] cs
        pure (.object members, cs)) rest
    | cs => readOther k.wanted cs
  | .record r =>
    match skipSpace cs with
    | '[' :: rest => readInside inner '[' (fun read cs => do
        let (vs, cs) ← readFields read r 0 r.fields cs
        pure (.array vs, cs)) rest
    | '\x7b' :: rest => readInside inner '\x7b' (fun read => readRecord read r) rest
    | cs => readOther k.wanted cs

def Kind.read : Nat → Kind → Reader Value
  | 0 => readShape none (readValue 0)
  | depth + 1 => readShape (some (Kind.read depth)) (readValue (depth + 1))

def Kind.parse (k : Kind) (text : String) : Except Error Value :=
  readDocument (k.read maxDepth) text

end AppScaffold.Schema

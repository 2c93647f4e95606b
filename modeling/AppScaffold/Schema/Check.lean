import AppScaffold.Json.Error
import AppScaffold.Schema.Kind

/-! Fitting a JSON value to a kind. What fits is brought to one form: each record becomes the list
of its fields in their order, with what is absent filled in. Records may be given in that form
too. -/

namespace AppScaffold.Schema

open Json

def fitWord (name : String) (limit : Nat) : Number → Except Mismatch Value
  | .natural n =>
    if n < limit then .ok (.number (.natural n)) else .error (.range (.number (.natural n)) name)
  | .negative n => .error (.range (.number (.negative n)) name)
  | .float x => .error (.type (.number (.float x)) name)

/-- The values of fields that a list of fields ends before. `index` is the place of the first. -/
def fitEnd (r : Record) (index : Nat) : List Field → Except Mismatch (List Value)
  | [] => .ok []
  | f :: fs =>
    match f.mayEnd, f.ifAbsent with
    | true, some v => do pure (v :: (← fitEnd r (index + 1) fs))
    | _, _ => .error (.length index r.wantedElements)

/-- The value found under a field's key, or what its absence means. -/
def Field.take (found : List (String × Value)) (f : Field) : Except Mismatch Value :=
  match found.lookup f.key, f.ifAbsent with
  | some v, _ => .ok v
  | none, some v => .ok v
  | none, none => .error (.missing f.key)

def Record.assemble (r : Record) (found : List (String × Value)) : Except Mismatch Value := do
  pure (.array (← r.fields.mapM (Field.take found)))

def Record.field? (r : Record) (key : String) : Option Field := r.fields.find? (·.key == key)

def Field.orNull (f : Field) (v : Value) (fitted : Except Mismatch Value) :
    Except Mismatch Value :=
  match v, f.ifNull with
  | .null, some w => .ok w
  | _, _ => fitted

mutual

def Kind.fit (k : Kind) : Value → Except Mismatch Value
  | .null =>
    match k with
    | .any => .ok .null
    | k => .error (.type .null k.wanted)
  | .bool b =>
    match k with
    | .any => .ok (.bool b)
    | k => .error (.type (.bool b) k.wanted)
  | .number n =>
    match k with
    | .any => .ok (.number n)
    | .word name limit => fitWord name limit n
    | k => .error (.type (.number n) k.wanted)
  | .string s =>
    match k with
    | .any | .text => .ok (.string s)
    | k => .error (.type (.string s) k.wanted)
  | .array items =>
    match k with
    | .any => .ok (.array items)
    | .list item => do pure (.array (← Kind.fitItems item items))
    | .set => do pure (.array (← Kind.fitItems .text items))
    | .record r => do pure (.array (← Kind.fitFields r 0 r.fields items))
    | k => .error (.type .sequence k.wanted)
  | .object members =>
    match k with
    | .any => .ok (.object members)
    | .table => do pure (.object (← Kind.fitEntries members))
    | .record r => do r.assemble (← Kind.fitMembers r members)
    | k => .error (.type .map k.wanted)

def Kind.fitItems (k : Kind) : List Value → Except Mismatch (List Value)
  | [] => .ok []
  | v :: vs => do
    let w ← Kind.fit k v
    pure (w :: (← Kind.fitItems k vs))

def Kind.fitFields (r : Record) (index : Nat) (fields : List Field) :
    List Value → Except Mismatch (List Value)
  | [] => fitEnd r index fields
  | v :: vs =>
    match fields with
    | [] => .error (.length (index + vs.length + 1) "fewer elements in array")
    | f :: fs => do
      let w ← f.orNull v (Kind.fit f.kind v)
      pure (w :: (← Kind.fitFields r (index + 1) fs vs))

def Kind.fitMembers (r : Record) : List (String × Value) → Except Mismatch (List (String × Value))
  | [] => .ok []
  | (key, v) :: ms =>
    match r.field? key with
    | none => Kind.fitMembers r ms
    | some f => do
      let w ← f.orNull v (Kind.fit f.kind v)
      pure ((key, w) :: (← Kind.fitMembers r ms))

def Kind.fitEntries : List (String × Value) → Except Mismatch (List (String × Value))
  | [] => .ok []
  | (key, v) :: ms => do
    let w ← Kind.fit .text v
    pure ((key, w) :: (← Kind.fitEntries ms))

end

/-- A value in the form of the kind. -/
def Kind.ofValue (k : Kind) (v : Value) : Except Error Value :=
  (k.fit v).mapError fun m => ⟨.mismatch m, none⟩

end AppScaffold.Schema

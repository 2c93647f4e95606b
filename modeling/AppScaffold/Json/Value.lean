import AppScaffold.Numeral.Binary

namespace AppScaffold.Json

open Numeral

inductive Number
  | natural (n : Nat)
  /-- The number `-n`. -/
  | negative (n : Nat)
  | float (x : Binary binary64)
  deriving DecidableEq

def Number.double? : Number → Option (Binary binary64)
  | natural n => Binary.ofRank? false (binary64.nearest n 1)
  | negative n => Binary.ofRank? true (binary64.nearest n 1)
  | float x => some x

inductive Value
  | null
  | bool (b : Bool)
  | number (n : Number)
  | string (s : String)
  | array (items : List Value)
  | object (members : List (String × Value))

instance : Inhabited Value := ⟨.null⟩

/-- A member that is set again keeps its place. -/
def setMember {α : Type} (key : String) (v : α) : List (String × α) → List (String × α)
  | [] => [(key, v)]
  | (k, w) :: rest => if k = key then (k, v) :: rest else (k, w) :: setMember key v rest

mutual

def Value.decEq : (v w : Value) → Decidable (v = w)
  | .null, w => match w with
    | .null => isTrue rfl
    | .bool _ | .number _ | .string _ | .array _ | .object _ => isFalse nofun
  | .bool a, w => match w with
    | .bool b => decidable_of_iff (a = b) (by simp)
    | .null | .number _ | .string _ | .array _ | .object _ => isFalse nofun
  | .number a, w => match w with
    | .number b => decidable_of_iff (a = b) (by simp)
    | .null | .bool _ | .string _ | .array _ | .object _ => isFalse nofun
  | .string a, w => match w with
    | .string b => decidable_of_iff (a = b) (by simp)
    | .null | .bool _ | .number _ | .array _ | .object _ => isFalse nofun
  | .array a, w => match w with
    | .array b =>
      have := Value.decEqItems a b
      decidable_of_iff (a = b) (by simp)
    | .null | .bool _ | .number _ | .string _ | .object _ => isFalse nofun
  | .object a, w => match w with
    | .object b =>
      have := Value.decEqMembers a b
      decidable_of_iff (a = b) (by simp)
    | .null | .bool _ | .number _ | .string _ | .array _ => isFalse nofun

def Value.decEqItems : (v w : List Value) → Decidable (v = w)
  | [], [] => isTrue rfl
  | [], _ :: _ | _ :: _, [] => isFalse nofun
  | v :: vs, w :: ws =>
    have := Value.decEq v w
    have := Value.decEqItems vs ws
    decidable_of_iff (v = w ∧ vs = ws) (by simp)

def Value.decEqMembers : (v w : List (String × Value)) → Decidable (v = w)
  | [], [] => isTrue rfl
  | [], _ :: _ | _ :: _, [] => isFalse nofun
  | (k, v) :: vs, (l, w) :: ws =>
    have := Value.decEq v w
    have := Value.decEqMembers vs ws
    decidable_of_iff (k = l ∧ v = w ∧ vs = ws) (by simp [and_assoc])

end

instance : DecidableEq Value := Value.decEq

end AppScaffold.Json

import AppScaffold.Json.Writer
import AppScaffold.Proofs.Text.Marks

namespace AppScaffold.Json

open Numeral Text

mutual

def Value.strings : Value → List String
  | .null | .bool _ | .number _ => []
  | .string s => [s]
  | .array items => itemStrings items
  | .object members => memberStrings members

def itemStrings : List Value → List String
  | [] => []
  | v :: vs => v.strings ++ itemStrings vs

def memberStrings : List (String × Value) → List String
  | [] => []
  | (key, v) :: ms => key :: v.strings ++ memberStrings ms

end

def punctuation : String := "\"\\[]\x7b\x7d,:"

def escapeTails : String := "\"\\bfnrtu0123456789abcdef"

def isNumeral (c : Char) : Bool := c.isDigit || c == '-' || c == '+' || c == '.' || c == 'e'

/-- A mark that is no part of a value unless it is in a string or a key as that is written. -/
structure Unwritten (mark : String) : Prop where
  marked : mark ≠ ""
  outside : Outside mark punctuation
  numeral : mark.toList.all isNumeral = false
  words : Avoids mark "null" ∧ Avoids mark "true" ∧ Avoids mark "false"

structure Foreign (mark : String) : Prop where
  marked : mark ≠ ""
  outside : Outside mark punctuation
  numeral : mark.toList.all isNumeral = false
  words : Avoids mark "null" ∧ Avoids mark "true" ∧ Avoids mark "false"
  start : Unstarted mark escapeTails

def Numerals (s : String) : Prop := ∀ c ∈ s.toList, isNumeral c = true

instance (s : String) : Decidable (Numerals s) :=
  decidable_of_iff (s.toList.all isNumeral) (by simp [Numerals])

theorem Numerals.append {a b : String} (first : Numerals a) (second : Numerals b) :
    Numerals (a ++ b) := by
  intro c member
  rw [String.toList_append, List.mem_append] at member
  rcases member with left | right
  · exact first c left
  · exact second c right

theorem Numerals.ofList {digits : List Char} (digit : ∀ c ∈ digits, isNumeral c = true) :
    Numerals (String.ofList digits) := by
  intro c member
  rw [String.toList_ofList] at member
  exact digit c member

theorem isNumeral_of_mem_toDigits {n : Nat} {c : Char} (member : c ∈ Nat.toDigits 10 n) :
    isNumeral c = true := by
  have digit := Nat.isDigit_of_mem_toDigits (by decide) (by decide) member
  simp [isNumeral, digit]

theorem numerals_toString (n : Nat) : Numerals (toString n) := by
  rw [Nat.toString_eq_ofList_toDigits]
  exact .ofList fun c member => isNumeral_of_mem_toDigits member

theorem numerals_write {l : Layout} {digits : List Char} (exponent : Int) (plus : Numerals l.plus)
    (digit : ∀ c ∈ digits, isNumeral c = true) : Numerals (l.write digits exponent) := by
  have front (n : Nat) : Numerals (String.ofList (digits.take n)) :=
    .ofList fun c member => digit c (List.mem_of_mem_take member)
  have back (n : Nat) : Numerals (String.ofList (digits.drop n)) :=
    .ofList fun c member => digit c (List.mem_of_mem_drop member)
  have zeros (n : Nat) : Numerals (String.ofList (List.replicate n '0')) := by
    refine .ofList fun c member => ?_
    rw [List.eq_of_mem_replicate member]
    rfl
  rw [Layout.write]
  split
  · split
    · rw [String.ofList_append]
      exact ((Numerals.ofList digit).append (zeros _)).append ((by decide : Numerals ".0"))
    · split
      · exact ((front _).append ((by decide : Numerals "."))).append (back _)
      · rw [String.ofList_append]
        exact ((by decide : Numerals "0.")).append ((zeros _).append (.ofList digit))
  · refine ((((front 1).append ?_).append ((by decide : Numerals "e"))).append ?_).append
      (numerals_toString exponent.natAbs)
    · split
      · exact (by decide : Numerals "")
      · exact ((by decide : Numerals ".")).append (back 1)
    · split
      · exact (by decide : Numerals "-")
      · exact plus

theorem numerals_text {f : Format} (l : Layout) (plus : Numerals l.plus) (x : Binary f) :
    Numerals (x.text l) := by
  have sign : Numerals (if x.negative then "-" else "") := by
    split
    · exact by decide
    · exact by decide
  rw [Binary.text]
  split
  · exact sign.append (by decide)
  · refine sign.append (numerals_write _ plus fun c member => ?_)
    rw [List.mem_reverse] at member
    have among := (List.dropWhile_sublist _).subset member
    exact isNumeral_of_mem_toDigits (List.mem_reverse.mp among)

theorem Number.numerals_text (n : Number) : Numerals n.text := by
  cases n with
  | natural n => exact numerals_toString n
  | negative n =>
    exact Numerals.append (by decide) (numerals_toString n)
  | float x =>
    exact Json.numerals_text documentDouble (by decide) x

variable {mark : String}

theorem Unwritten.avoids_numerals (unwritten : Unwritten mark) {s : String}
    (numerals : Numerals s) : Avoids mark s := by
  intro occurs
  have all : mark.toList.all isNumeral = true :=
    List.all_eq_true.mpr fun c member => numerals c (occurs.subset member)
  rw [unwritten.numeral] at all
  cases all

theorem Unwritten.punctuated (unwritten : Unwritten mark) {s : String} (present : s ≠ "")
    (known : s.toList.all punctuation.toList.contains = true) : s ≠ "" ∧ Outside mark s := by
  refine ⟨present, fun c member => unwritten.outside c ?_⟩
  simpa using List.all_eq_true.mp known c member

theorem Foreign.unwritten (foreign : Foreign mark) : Unwritten mark :=
  ⟨foreign.marked, foreign.outside, foreign.numeral, foreign.words⟩

theorem Foreign.punctuated (foreign : Foreign mark) {s : String} (present : s ≠ "")
    (known : s.toList.all punctuation.toList.contains = true) : s ≠ "" ∧ Outside mark s :=
  foreign.unwritten.punctuated present known

theorem hexDigit_mem {n : Nat} (bound : n < 16) : hexDigit n ∈ escapeTails.toList := by
  revert n
  decide

theorem Foreign.escapes (foreign : Foreign mark) : Escapes mark.toList escapeChar := by
  intro c
  have escaped (rest : List Char) (known : ∀ d ∈ rest, d ∈ escapeTails.toList) :
      ∃ x tail, '\\' :: rest = x :: tail ∧ x ∉ mark.toList ∧
        ∀ d ∈ tail, mark.toList.head? ≠ some d :=
    ⟨'\\', rest, rfl, foreign.outside '\\' (by decide),
      fun d member => foreign.start d (known d member)⟩
  unfold escapeChar
  split
  case h_8 =>
    split
    · rename_i control
      have small : c.toNat < 32 := control
      have high := hexDigit_mem (show c.toNat / 16 < 16 by omega)
      have low := hexDigit_mem (show c.toNat % 16 < 16 by omega)
      refine .inr (escaped _ fun d member => ?_)
      simp only [List.mem_cons, List.not_mem_nil, or_false] at member
      rcases member with rfl | rfl | rfl | rfl | rfl
      · decide
      · decide
      · decide
      · exact high
      · exact low
    · exact .inl rfl
  all_goals exact .inr (escaped _ (by simp [escapeTails]))

theorem Foreign.avoids_writeString (foreign : Foreign mark) {s : String} (avoids : Avoids mark s) :
    Avoids mark (writeString s) := by
  have quote := foreign.punctuated (show "\"" ≠ "" by decide) (by decide)
  exact .enclosed foreign.marked quote quote (avoids.flatMap foreign.escapes)

mutual

/-- A mark is not in a value if it is not in its strings and keys as they are written. -/
theorem Value.avoids_compact_of_written (unwritten : Unwritten mark) (v : Value)
    (avoids : ∀ u ∈ v.strings, Avoids mark (writeString u)) : Avoids mark v.compact := by
  match v with
  | .null => exact unwritten.words.1
  | .bool true => exact unwritten.words.2.1
  | .bool false => exact unwritten.words.2.2
  | .number n => exact unwritten.avoids_numerals n.numerals_text
  | .string s => exact avoids s List.mem_cons_self
  | .array items =>
    have comma := unwritten.punctuated (show "," ≠ "" by decide) (by decide)
    have inner := itemStrings_avoid unwritten items avoids
    rw [Value.compact]
    exact .enclosed unwritten.marked (unwritten.punctuated (by decide) (by decide))
      (unwritten.punctuated (by decide) (by decide))
      (.intercalate unwritten.marked comma.1 comma.2 inner)
  | .object members =>
    have comma := unwritten.punctuated (show "," ≠ "" by decide) (by decide)
    have inner := memberStrings_avoid unwritten members avoids
    rw [Value.compact]
    exact .enclosed unwritten.marked (unwritten.punctuated (by decide) (by decide))
      (unwritten.punctuated (by decide) (by decide))
      (.intercalate unwritten.marked comma.1 comma.2 inner)

theorem itemStrings_avoid (unwritten : Unwritten mark) (items : List Value)
    (avoids : ∀ u ∈ itemStrings items, Avoids mark (writeString u)) :
    ∀ s ∈ Value.compactItems items, Avoids mark s := by
  match items with
  | [] => exact fun s member => absurd member (by simp [Value.compactItems])
  | v :: vs =>
    rw [itemStrings, List.forall_mem_append] at avoids
    rw [Value.compactItems, List.forall_mem_cons]
    exact ⟨v.avoids_compact_of_written unwritten avoids.1,
      itemStrings_avoid unwritten vs avoids.2⟩

theorem memberStrings_avoid (unwritten : Unwritten mark) (members : List (String × Value))
    (avoids : ∀ u ∈ memberStrings members, Avoids mark (writeString u)) :
    ∀ s ∈ Value.compactMembers members, Avoids mark s := by
  match members with
  | [] => exact fun s member => absurd member (by simp [Value.compactMembers])
  | (key, v) :: ms =>
    rw [memberStrings, List.cons_append, List.forall_mem_cons, List.forall_mem_append] at avoids
    have colon := unwritten.punctuated (show ":" ≠ "" by decide) (by decide)
    rw [Value.compactMembers, List.forall_mem_cons]
    refine ⟨?_, memberStrings_avoid unwritten ms avoids.2.2⟩
    exact (avoids_append_iff colon.1 colon.2 _ _).mpr
      ⟨avoids.1, v.avoids_compact_of_written unwritten avoids.2.1⟩

end

theorem Value.avoids_compact (foreign : Foreign mark) (v : Value)
    (avoids : ∀ u ∈ v.strings, Avoids mark u) : Avoids mark v.compact :=
  v.avoids_compact_of_written foreign.unwritten fun u member =>
    foreign.avoids_writeString (avoids u member)

theorem lineFeed_not_mem_writeString (s : String) : '\n' ∉ (writeString s).toList := by
  have digits : ∀ n : Fin 16, hexDigit n ≠ '\n' := by
    decide
  have escaped : ∀ c, '\n' ∉ escapeChar c := by
    intro c
    unfold escapeChar
    split
    case h_8 =>
      rename_i feed _ _
      split
      · rename_i control
        have small : c.toNat < 32 := control
        have high := digits ⟨c.toNat / 16, by omega⟩
        have low := digits ⟨c.toNat % 16, by omega⟩
        simp [high.symm, low.symm]
      · exact fun member => feed (List.mem_singleton.mp member).symm
    all_goals decide
  simp [writeString, escaped]

/-- A value is written on one line. -/
theorem Value.lineFeed_not_mem_compact (v : Value) : '\n' ∉ v.compact.toList := by
  have unwritten : Unwritten "\n" :=
    { marked := by decide
      outside := by decide
      numeral := by decide
      words := by decide }
  have written (u : String) : Avoids "\n" (writeString u) := by
    refine .of_outside (by decide) fun c member feed => ?_
    rw [List.mem_singleton.mp feed] at member
    exact lineFeed_not_mem_writeString u member
  intro member
  exact v.avoids_compact_of_written unwritten (fun u _ => written u) (singleton_infix_of_mem member)

end AppScaffold.Json

import AppScaffold.Proofs.Json.Compact
import AppScaffold.Proofs.Json.Quoting
import AppScaffold.Proofs.Numeral.Decimal

namespace AppScaffold.Json

open Numeral Text

theorem toList_toString (n : Nat) : (toString n).toList = Nat.toDigits 10 n := by
  rw [Nat.toString_eq_ofList_toDigits, String.toList_ofList]

theorem toString_inj {m n : Nat} (same : toString m = toString n) : m = n := by
  rw [← digitsValue_toDigits m, ← toList_toString, same, toList_toString, digitsValue_toDigits]

namespace Number

inductive Form
  | whole | negative | fractional
  deriving DecidableEq

def form : Number → Form
  | .natural _ => .whole
  | .negative _ => .negative
  | .float _ => .fractional

def formOf (cs : List Char) : Form :=
  if '.' ∈ cs ∨ 'e' ∈ cs then .fractional else if '-' ∈ cs then .negative else .whole

theorem formOf_text (n : Number) : formOf n.text.toList = n.form := by
  cases n with
  | natural n =>
    have digits := allDigits_toDigits n
    rw [text, toList_toString, formOf,
      if_neg (not_or_intro (digits.not_mem rfl) (digits.not_mem rfl)), if_neg (digits.not_mem rfl)]
    rfl
  | negative n =>
    have digits := allDigits_toDigits n
    have sign : ("-" ++ toString n).toList = '-' :: Nat.toDigits 10 n := by
      rw [String.toList_append, toList_toString]
      rfl
    have unmarked : ¬ ('.' ∈ '-' :: Nat.toDigits 10 n ∨ 'e' ∈ '-' :: Nat.toDigits 10 n) := by
      simp [digits.not_mem (c := '.') rfl, digits.not_mem (c := 'e') rfl]
    rw [text, sign, formOf, if_neg unmarked, if_pos List.mem_cons_self]
    rfl
  | float x =>
    obtain ⟨cs, names, split⟩ := x.exists_names (l := documentDouble) (by decide)
      (by decide +kernel) (.inr rfl)
    have marked := names.marked.imp (List.mem_append_right (if x.negative then ['-'] else []))
      (List.mem_append_right (if x.negative then ['-'] else []))
    rw [← split] at marked
    rw [text, formOf, if_pos marked]
    rfl

theorem text_injective {m n : Number} (same : m.text = n.text) : m = n := by
  have form : m.form = n.form := by
    rw [← formOf_text, same, formOf_text]
  cases m with
  | natural m =>
    cases n with
    | natural n => rw [toString_inj same]
    | negative => cases form
    | float => cases form
  | negative m =>
    cases n with
    | natural => cases form
    | negative n => rw [toString_inj ((String.append_right_inj "-").mp same)]
    | float => cases form
  | float x =>
    cases n with
    | natural => cases form
    | negative => cases form
    | float y => rw [Binary.text_injective (by decide) (by decide +kernel) (.inr rfl) same]

end Number

/-- No number goes on with the text. -/
def Closed (cs : List Char) : Prop := ∀ c, cs.head? = some c → isNumeral c = false

theorem closed_cons {c : Char} (other : isNumeral c = false) (cs : List Char) :
    Closed (c :: cs) := by
  rintro d first
  obtain rfl := Option.some.inj first
  exact other

/-- The text tells `a` from everything else, and where it ends. -/
def Legible {α : Type} (write : α → String) (a : α) : Prop :=
  ∀ (b : α) (r s : List Char), Closed r → Closed s →
    (write a).toList ++ r = (write b).toList ++ s → a = b ∧ r = s

theorem takeWhile_numerals {s : String} (numerals : Numerals s) {r : List Char}
    (closed : Closed r) : (s.toList ++ r).takeWhile isNumeral = s.toList := by
  rw [List.takeWhile_append_of_pos numerals]
  cases r with
  | nil => simp
  | cons c r => simp [closed c rfl]

theorem Number.toList_text_ne_nil (n : Number) : n.text.toList ≠ [] := by
  intro empty
  cases n with
  | natural n =>
    rw [text, toList_toString] at empty
    exact Nat.toDigits_ne_nil empty
  | negative n =>
    rw [text, String.toList_append] at empty
    cases (List.append_eq_nil_iff.mp empty).1
  | float x =>
    have marked := formOf_text (.float x)
    rw [empty] at marked
    cases marked

theorem Number.legible (n : Number) : Legible Number.text n := by
  intro m r s before behind same
  have texts : n.text.toList = m.text.toList := by
    rw [← takeWhile_numerals n.numerals_text before, same,
      takeWhile_numerals m.numerals_text behind]
  rw [texts] at same
  exact ⟨Number.text_injective (String.toList_inj.mp texts), List.append_cancel_left same⟩

variable {α : Type} {write : α → String} {closing : String} {level : Nat}

def behindPart (closing : String) (level : Nat) : List String → List Char → List Char
  | [], rest => '\n' :: ((indent level).toList ++ (closing.toList ++ rest))
  | p :: ps, rest =>
    ',' :: '\n' :: ((indent (level + 1)).toList ++ (p.toList ++ behindPart closing level ps rest))

theorem closed_behindPart (ps : List String) (rest : List Char) :
    Closed (behindPart closing level ps rest) := by
  cases ps with
  | nil => exact closed_cons rfl _
  | cons p ps => exact closed_cons rfl _

theorem toList_bracketed_nil (opening : String) (rest : List Char) :
    (bracketed opening closing level []).toList ++ rest =
      opening.toList ++ (closing.toList ++ rest) := by
  simp [bracketed]

theorem toList_intercalate_parts (p : String) (ps : List String) (rest : List Char) :
    (",\n".intercalate ((p :: ps).map (indent (level + 1) ++ ·))).toList ++
        '\n' :: ((indent level).toList ++ (closing.toList ++ rest)) =
      (indent (level + 1)).toList ++ (p.toList ++ behindPart closing level ps rest) := by
  induction ps generalizing p with
  | nil => simp [behindPart]
  | cons q ps ih =>
    rw [List.map_cons, List.map_cons, String.intercalate_cons_cons, ← List.map_cons,
      String.toList_append, String.toList_append, List.append_assoc, List.append_assoc, ih q,
      String.toList_append, List.append_assoc]
    rfl

theorem toList_bracketed_cons (opening p : String) (ps : List String) (rest : List Char) :
    (bracketed opening closing level (p :: ps)).toList ++ rest =
      opening.toList ++ '\n' ::
        ((indent (level + 1)).toList ++ (p.toList ++ behindPart closing level ps rest)) := by
  rw [← toList_intercalate_parts, bracketed, if_neg (by simp)]
  simp only [String.toList_append, List.append_assoc]
  rfl

theorem behindPart_inj {as bs : List α} {r s : List Char}
    (legible : ∀ a ∈ as, Legible write a)
    (same : behindPart closing level (as.map write) r =
      behindPart closing level (bs.map write) s) : as = bs ∧ r = s := by
  induction as generalizing bs with
  | nil =>
    cases bs with
    | nil =>
      have rest := List.append_cancel_left (List.cons.inj same).2
      exact ⟨rfl, List.append_cancel_left rest⟩
    | cons b bs => cases (List.cons.inj same).1
  | cons a as ih =>
    cases bs with
    | nil => cases (List.cons.inj same).1
    | cons b bs =>
      have rest := List.append_cancel_left (List.cons.inj (List.cons.inj same).2).2
      obtain ⟨rfl, later⟩ := legible a List.mem_cons_self b _ _ (closed_behindPart _ _)
        (closed_behindPart _ _) rest
      obtain ⟨rfl, ends⟩ := ih (fun c member => legible c (List.mem_cons_of_mem a member)) later
      exact ⟨rfl, ends⟩

theorem bracketed_inj {opening : String} {c : Char} {cs : List Char}
    (closes : closing.toList = c :: cs) (visible : c ≠ '\n') {as bs : List α} {r s : List Char}
    (legible : ∀ a ∈ as, Legible write a)
    (same : (bracketed opening closing level (as.map write)).toList ++ r =
      (bracketed opening closing level (bs.map write)).toList ++ s) : as = bs ∧ r = s := by
  cases as with
  | nil =>
    cases bs with
    | nil => exact ⟨rfl, List.append_cancel_left same⟩
    | cons b bs =>
      rw [List.map_nil, List.map_cons, toList_bracketed_nil, toList_bracketed_cons, closes] at same
      exact absurd (List.cons.inj (List.append_cancel_left same)).1 visible
  | cons a as =>
    cases bs with
    | nil =>
      rw [List.map_nil, List.map_cons, toList_bracketed_nil, toList_bracketed_cons, closes] at same
      exact absurd (List.cons.inj (List.append_cancel_left same)).1.symm visible
    | cons b bs =>
      rw [List.map_cons, List.map_cons, toList_bracketed_cons, toList_bracketed_cons] at same
      have rest := List.append_cancel_left same
      have parts := List.append_cancel_left (List.cons.inj rest).2
      obtain ⟨rfl, later⟩ := legible a List.mem_cons_self b _ _ (closed_behindPart _ _)
        (closed_behindPart _ _) parts
      obtain ⟨rfl, ends⟩ :=
        behindPart_inj (fun c member => legible c (List.mem_cons_of_mem a member)) later
      exact ⟨rfl, ends⟩

namespace Value

theorem prettyItems_eq (level : Nat) (items : List Value) :
    prettyItems level items = items.map (prettyAt level) := by
  induction items with
  | nil => rfl
  | cons v items ih => rw [prettyItems, ih, List.map_cons]

def prettyMember (level : Nat) (m : String × Value) : String :=
  writeString m.1 ++ ": " ++ m.2.prettyAt level

theorem prettyMembers_eq (level : Nat) (members : List (String × Value)) :
    prettyMembers level members = members.map (prettyMember level) := by
  induction members with
  | nil => rfl
  | cons m members ih =>
    obtain ⟨key, v⟩ := m
    rw [prettyMembers, ih, List.map_cons, prettyMember]

theorem legible_prettyMember {level : Nat} {m : String × Value}
    (legible : Legible (prettyAt level) m.2) : Legible (prettyMember level) m := by
  rintro ⟨key, w⟩ r s before behind same
  obtain ⟨key', v⟩ := m
  simp only [prettyMember, String.toList_append, List.append_assoc] at same
  obtain ⟨rfl, rest⟩ := writeString_inj same
  obtain ⟨rfl, ends⟩ := legible w r s before behind (List.append_cancel_left rest)
  exact ⟨rfl, ends⟩

inductive Form
  | null | bool | number | string | array | object
  deriving DecidableEq

def form : Value → Form
  | .null => .null
  | .bool _ => .bool
  | .number _ => .number
  | .string _ => .string
  | .array _ => .array
  | .object _ => .object

def formOf (c : Char) : Form :=
  match c with
  | 'n' => .null
  | 't' | 'f' => .bool
  | '"' => .string
  | '[' => .array
  | '\x7b' => .object
  | _ => .number

theorem formOf_of_isNumeral {c : Char} (numeral : isNumeral c = true) : formOf c = .number := by
  unfold formOf
  split
  case h_7 => rfl
  all_goals exact absurd numeral (by decide)

theorem head?_bracketed {opening closing : String} {c : Char} (opens : opening.toList = [c])
    (level : Nat) (parts : List String) :
    (bracketed opening closing level parts).toList.head? = some c := by
  rw [bracketed]
  split <;> simp [opens]

theorem exists_first (v : Value) (level : Nat) :
    ∃ c, (v.prettyAt level).toList.head? = some c ∧ formOf c = v.form := by
  cases v with
  | null => exact ⟨'n', by rw [prettyAt]; rfl, rfl⟩
  | bool b =>
    cases b with
    | false => exact ⟨'f', by rw [prettyAt]; rfl, rfl⟩
    | true => exact ⟨'t', by rw [prettyAt]; rfl, rfl⟩
  | number n =>
    obtain ⟨c, cs, split⟩ := List.exists_cons_of_ne_nil n.toList_text_ne_nil
    refine ⟨c, by rw [prettyAt, split]; rfl, formOf_of_isNumeral (n.numerals_text c ?_)⟩
    rw [split]
    exact List.mem_cons_self
  | string s => exact ⟨'"', by rw [prettyAt, writeString]; simp, rfl⟩
  | array items => exact ⟨'[', by rw [prettyAt]; exact head?_bracketed rfl _ _, rfl⟩
  | object members => exact ⟨'\x7b', by rw [prettyAt]; exact head?_bracketed rfl _ _, rfl⟩

theorem form_eq_of_prettyAt {v w : Value} {level : Nat} {r s : List Char}
    (same : (v.prettyAt level).toList ++ r = (w.prettyAt level).toList ++ s) :
    v.form = w.form := by
  obtain ⟨c, first, form_v⟩ := v.exists_first level
  obtain ⟨d, second, form_w⟩ := w.exists_first level
  have heads := congrArg List.head? same
  rw [List.head?_append, List.head?_append, first, second] at heads
  rw [← form_v, ← form_w, Option.some.inj heads]

theorem prettyAt_bool_inj {a b : Bool} {level : Nat} {r s : List Char}
    (same : (prettyAt level (.bool a)).toList ++ r = (prettyAt level (.bool b)).toList ++ s) :
    a = b ∧ r = s := by
  rw [prettyAt, prettyAt] at same
  cases a with
  | false =>
    cases b with
    | false => exact ⟨rfl, List.append_cancel_left same⟩
    | true => cases (List.cons.inj same).1
  | true =>
    cases b with
    | false => cases (List.cons.inj same).1
    | true => exact ⟨rfl, List.append_cancel_left same⟩

theorem legible_of_parts {v : Value} {level : Nat}
    (items : ∀ us, v = .array us → ∀ u ∈ us, Legible (prettyAt (level + 1)) u)
    (members : ∀ ms, v = .object ms → ∀ m ∈ ms, Legible (prettyAt (level + 1)) m.2) :
    Legible (prettyAt level) v := by
  intro w r s before behind same
  have form := form_eq_of_prettyAt same
  cases v with
  | null =>
    cases w with
    | null => exact ⟨rfl, List.append_cancel_left same⟩
    | _ => cases form
  | bool a =>
    cases w with
    | bool b =>
      obtain ⟨rfl, ends⟩ := prettyAt_bool_inj same
      exact ⟨rfl, ends⟩
    | _ => cases form
  | number m =>
    cases w with
    | number n =>
      rw [prettyAt, prettyAt] at same
      obtain ⟨rfl, ends⟩ := m.legible n r s before behind same
      exact ⟨rfl, ends⟩
    | _ => cases form
  | string a =>
    cases w with
    | string b =>
      rw [prettyAt, prettyAt] at same
      obtain ⟨rfl, ends⟩ := writeString_inj same
      exact ⟨rfl, ends⟩
    | _ => cases form
  | array us =>
    cases w with
    | array others =>
      rw [prettyAt, prettyAt, prettyItems_eq, prettyItems_eq] at same
      obtain ⟨rfl, ends⟩ := bracketed_inj rfl (by decide) (items us rfl) same
      exact ⟨rfl, ends⟩
    | _ => cases form
  | object ms =>
    cases w with
    | object others =>
      have each : ∀ m ∈ ms, Legible (prettyMember (level + 1)) m := fun m member =>
        legible_prettyMember (members ms rfl m member)
      rw [prettyAt, prettyAt, prettyMembers_eq, prettyMembers_eq] at same
      obtain ⟨rfl, ends⟩ := bracketed_inj rfl (by decide) each same
      exact ⟨rfl, ends⟩
    | _ => cases form

/-- A value that is laid out can be told from every other. -/
theorem legible_prettyAt (v : Value) (level : Nat) : Legible (prettyAt level) v :=
  legible_of_parts (fun _ _ u _ => u.legible_prettyAt (level + 1))
    fun _ _ m _ => m.2.legible_prettyAt (level + 1)
termination_by sizeOf v
decreasing_by
  · rename_i shape member
    have smaller := List.sizeOf_lt_of_mem member
    simp only [shape, array.sizeOf_spec]
    omega
  · rename_i shape member
    have smaller := List.sizeOf_lt_of_mem member
    have part : sizeOf m.2 < sizeOf m := by
      cases m
      simp
    simp only [shape, object.sizeOf_spec]
    omega

end Value

end AppScaffold.Json

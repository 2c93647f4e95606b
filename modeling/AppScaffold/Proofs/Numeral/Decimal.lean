import AppScaffold.Proofs.Numeral.Rounding
import Mathlib.Data.List.TakeWhile

namespace AppScaffold.Numeral

-- Powers of numbers are those of the core library.
attribute [local instance (high)] instPowNat

def before (mark : Char) (cs : List Char) : List Char := cs.takeWhile (· ≠ mark)

def behind (mark : Char) (cs : List Char) : List Char := (cs.dropWhile (· ≠ mark)).tail

variable {mark : Char} {cs : List Char}

theorem before_of_not_mem (absent : mark ∉ cs) : before mark cs = cs := by
  rw [before, List.takeWhile_eq_self_iff]
  intro c member
  simpa using ne_of_mem_of_not_mem member absent

theorem behind_of_not_mem (absent : mark ∉ cs) : behind mark cs = [] := by
  have all : cs.dropWhile (· ≠ mark) = [] := by
    rw [List.dropWhile_eq_nil_iff]
    intro c member
    simpa using ne_of_mem_of_not_mem member absent
  rw [behind, all, List.tail_nil]

theorem before_append_cons (absent : mark ∉ cs) (rest : List Char) :
    before mark (cs ++ mark :: rest) = cs := by
  have other : ∀ c ∈ cs, (c ≠ mark : Bool) = true := fun c member => by
    simpa using ne_of_mem_of_not_mem member absent
  rw [before, List.takeWhile_append_of_pos other]
  simp

theorem behind_append_cons (absent : mark ∉ cs) (rest : List Char) :
    behind mark (cs ++ mark :: rest) = rest := by
  have other : ∀ c ∈ cs, (c ≠ mark : Bool) = true := fun c member => by
    simpa using ne_of_mem_of_not_mem member absent
  rw [behind, List.dropWhile_append_of_pos other]
  simp

def digitsValue (cs : List Char) : Nat := Nat.ofDigitChars 10 cs 0

def significandValue (cs : List Char) : ℚ :=
  (digitsValue (before '.' cs ++ behind '.' cs) : ℚ) / 10 ^ (behind '.' cs).length

def exponentValue : List Char → Int
  | '-' :: cs => -(digitsValue cs : Int)
  | '+' :: cs => digitsValue cs
  | cs => digitsValue cs

/-- The number that a decimal without a sign stands for. -/
def decimalValue (cs : List Char) : ℚ :=
  significandValue (before 'e' cs) * 10 ^ exponentValue (behind 'e' cs)

def AllDigits (cs : List Char) : Prop := ∀ c ∈ cs, c.isDigit = true

theorem AllDigits.append {a b : List Char} (first : AllDigits a) (second : AllDigits b) :
    AllDigits (a ++ b) :=
  List.forall_mem_append.mpr ⟨first, second⟩

theorem allDigits_zeros (n : Nat) : AllDigits (List.replicate n '0') := by
  intro c member
  rw [List.eq_of_mem_replicate member]
  rfl

theorem allDigits_toDigits (n : Nat) : AllDigits (Nat.toDigits 10 n) := fun _ member =>
  Nat.isDigit_of_mem_toDigits (by decide) (by decide) member

theorem AllDigits.not_mem {c : Char} (digits : AllDigits cs) (other : c.isDigit = false) :
    c ∉ cs := fun member => by
  rw [digits c member] at other
  cases other

theorem digitsValue_append (a b : List Char) :
    digitsValue (a ++ b) = digitsValue a * 10 ^ b.length + digitsValue b := by
  rw [digitsValue, Nat.ofDigitChars_append, Nat.ofDigitChars_eq_ofDigitChars_zero, Nat.mul_comm]
  rfl

theorem digitsValue_zeros (n : Nat) : digitsValue (List.replicate n '0') = 0 := by
  rw [digitsValue, Nat.ofDigitChars_replicate_zero, Nat.mul_zero]

theorem digitsValue_toDigits (n : Nat) : digitsValue (Nat.toDigits 10 n) = n :=
  Nat.ofDigitChars_ten_toDigits

theorem significandValue_point {whole fraction : List Char} (first : AllDigits whole) :
    significandValue (whole ++ '.' :: fraction) =
      (digitsValue (whole ++ fraction) : ℚ) / 10 ^ fraction.length := by
  have point := first.not_mem (c := '.') rfl
  rw [significandValue, before_append_cons point, behind_append_cons point]

theorem significandValue_of_allDigits (digits : AllDigits cs) :
    significandValue cs = digitsValue cs := by
  have point := digits.not_mem (c := '.') rfl
  rw [significandValue, before_of_not_mem point, behind_of_not_mem point]
  simp

theorem decimalValue_plain {whole fraction : List Char} (first : AllDigits whole)
    (second : AllDigits fraction) :
    decimalValue (whole ++ '.' :: fraction) =
      (digitsValue (whole ++ fraction) : ℚ) / 10 ^ fraction.length := by
  have plain : 'e' ∉ whole ++ '.' :: fraction := by
    simp [first.not_mem (c := 'e') rfl, second.not_mem (c := 'e') rfl]
  rw [decimalValue, before_of_not_mem plain, behind_of_not_mem plain, significandValue_point first]
  simp [exponentValue, digitsValue]

theorem exponentValue_of_allDigits (digits : AllDigits cs) : exponentValue cs = digitsValue cs := by
  unfold exponentValue
  split
  · cases digits '-' List.mem_cons_self
  · cases digits '+' List.mem_cons_self
  · rfl

theorem exponentValue_sign {plus : String} (signs : plus = "" ∨ plus = "+") (e : Int) :
    exponentValue ((if e < 0 then "-" else plus).toList ++ Nat.toDigits 10 e.natAbs) = e := by
  have digits := digitsValue_toDigits e.natAbs
  split
  · rename_i negative
    show -(digitsValue (Nat.toDigits 10 e.natAbs) : Int) = e
    omega
  · rename_i positive
    rcases signs with rfl | rfl
    · rw [String.toList_empty, List.nil_append, exponentValue_of_allDigits (allDigits_toDigits _)]
      omega
    · show (digitsValue (Nat.toDigits 10 e.natAbs) : Int) = e
      omega

theorem decimalValue_scientific {significand exponent : List Char}
    (digits : ∀ c ∈ significand, c.isDigit = true ∨ c = '.') :
    decimalValue (significand ++ 'e' :: exponent) =
      significandValue significand * 10 ^ exponentValue exponent := by
  have plain : 'e' ∉ significand := fun member => by
    simpa using digits 'e' member
  rw [decimalValue, before_append_cons plain, behind_append_cons plain]

/-- A layout whose exponents can be read. -/
def Layout.Signs (l : Layout) : Prop := l.plus = "" ∨ l.plus = "+"

theorem AllDigits.take {digits : List Char} (all : AllDigits digits) (n : Nat) :
    AllDigits (digits.take n) := fun c member => all c (List.mem_of_mem_take member)

theorem AllDigits.drop {digits : List Char} (all : AllDigits digits) (n : Nat) :
    AllDigits (digits.drop n) := fun c member => all c (List.mem_of_mem_drop member)

theorem digitsValue_append_zeros (digits : List Char) (n : Nat) :
    digitsValue (digits ++ List.replicate n '0') = digitsValue digits * 10 ^ n := by
  rw [digitsValue_append, digitsValue_zeros, List.length_replicate, Nat.add_zero]

theorem digitsValue_zeros_append (n : Nat) (digits : List Char) :
    digitsValue (List.replicate n '0' ++ digits) = digitsValue digits := by
  rw [digitsValue_append, digitsValue_zeros, Nat.zero_mul, Nat.zero_add]

theorem decimalValue_whole {digits : List Char} (all : AllDigits digits) (n : Nat) :
    decimalValue (digits ++ List.replicate n '0' ++ ['.', '0']) =
      (digitsValue digits : ℚ) * 10 ^ n := by
  have value : digitsValue (digits ++ List.replicate n '0' ++ ['0']) =
      digitsValue digits * 10 ^ n * 10 := by
    rw [← digitsValue_append_zeros]
    exact digitsValue_append_zeros _ 1
  have plain := decimalValue_plain (all.append (allDigits_zeros n)) (allDigits_zeros 1)
  rw [List.replicate_one, value, List.length_singleton, pow_one] at plain
  rw [plain]
  push_cast
  rw [mul_div_assoc, div_self (by norm_num), mul_one]

theorem decimalValue_inner {digits : List Char} (all : AllDigits digits) (n : Nat) :
    decimalValue (digits.take n ++ '.' :: digits.drop n) =
      (digitsValue digits : ℚ) / 10 ^ (digits.length - n) := by
  rw [decimalValue_plain (all.take n) (all.drop n), List.take_append_drop, List.length_drop]

theorem decimalValue_fraction {digits : List Char} (all : AllDigits digits) (n : Nat) :
    decimalValue ('0' :: '.' :: (List.replicate n '0' ++ digits)) =
      (digitsValue digits : ℚ) / 10 ^ (n + digits.length) := by
  have value : digitsValue (['0'] ++ (List.replicate n '0' ++ digits)) = digitsValue digits := by
    rw [← List.append_assoc]
    exact digitsValue_zeros_append (n + 1) digits
  show decimalValue (List.replicate 1 '0' ++ '.' :: (List.replicate n '0' ++ digits)) = _
  rw [decimalValue_plain (allDigits_zeros 1) ((allDigits_zeros n).append all),
    List.replicate_one, value, List.length_append, List.length_replicate]

def pointed (digits : List Char) : List Char :=
  digits.take 1 ++ if digits.length = 1 then [] else '.' :: digits.drop 1

theorem significandValue_pointed {digits : List Char} (all : AllDigits digits) :
    significandValue (pointed digits) = (digitsValue digits : ℚ) / 10 ^ (digits.length - 1) := by
  rw [pointed]
  split
  · rename_i single
    rw [List.append_nil, List.take_of_length_le single.le, significandValue_of_allDigits all,
      single]
    simp
  · rw [significandValue_point (all.take 1), List.take_append_drop, List.length_drop]

theorem digit_or_point_of_mem_pointed {digits : List Char} (all : AllDigits digits) :
    ∀ c ∈ pointed digits, c.isDigit = true ∨ c = '.' := by
  intro c member
  rw [pointed, List.mem_append] at member
  rcases member with first | others
  · exact .inl (all.take 1 c first)
  · split at others
    · cases others
    · rcases List.mem_cons.mp others with point | rest
      · exact .inr point
      · exact .inl (all.drop 1 c rest)

theorem decimalValue_pointed {digits exponent : List Char} (all : AllDigits digits) :
    decimalValue (pointed digits ++ 'e' :: exponent) =
      (digitsValue digits : ℚ) / 10 ^ (digits.length - 1) * 10 ^ exponentValue exponent := by
  rw [decimalValue_scientific (digit_or_point_of_mem_pointed all), significandValue_pointed all]

/-- How digits can be written with an exponent. -/
inductive Layout.Written (l : Layout) (digits : List Char) (e : Int) : List Char → Prop
  | whole (n : Nat) (shift : e = n + (digits.length - 1 : Nat)) :
      Written l digits e (digits ++ List.replicate n '0' ++ ['.', '0'])
  | inner (n : Nat) (shift : e = n) (short : n + 1 < digits.length) :
      Written l digits e (digits.take (n + 1) ++ '.' :: digits.drop (n + 1))
  | fraction (n : Nat) (shift : e = -(n + 1)) :
      Written l digits e ('0' :: '.' :: (List.replicate n '0' ++ digits))
  | scientific : Written l digits e (pointed digits ++
      'e' :: ((if e < 0 then "-" else l.plus).toList ++ Nat.toDigits 10 e.natAbs))

theorem Layout.written_write (l : Layout) {digits : List Char} (nonempty : digits ≠ []) (e : Int) :
    l.Written digits e (l.write digits e).toList := by
  have count : 0 < digits.length := List.length_pos_iff.mpr nonempty
  rw [write]
  dsimp only
  split
  · split
    · rename_i long
      obtain ⟨n, shift⟩ := Int.eq_ofNat_of_zero_le (show 0 ≤ e - (digits.length - 1 : Nat) by omega)
      have zeros : (e - digits.length + 1).toNat = n := by omega
      simpa [zeros] using Written.whole (l := l) n (by omega)
    · split
      · rename_i short inner
        obtain ⟨n, rfl⟩ := Int.eq_ofNat_of_zero_le inner
        have text : (String.ofList (digits.take (n + 1)) ++ "." ++
            String.ofList (digits.drop (n + 1))).toList =
            digits.take (n + 1) ++ '.' :: digits.drop (n + 1) := by simp
        rw [show ((n : Int) + 1).toNat = n + 1 from rfl, text]
        exact .inner n rfl (by omega)
      · rename_i short outer
        obtain ⟨n, below⟩ := Int.eq_ofNat_of_zero_le (show 0 ≤ -e - 1 by omega)
        have text : ("0." ++ String.ofList (List.replicate n '0' ++ digits)).toList =
            '0' :: '.' :: (List.replicate n '0' ++ digits) := by simp
        rw [below, Int.toNat_natCast, text]
        exact .fraction n (by omega)
  · have others : (if (digits.length : Int) = 1 then ""
        else "." ++ String.ofList (digits.drop 1)).toList =
        if digits.length = 1 then [] else '.' :: digits.drop 1 := by
      rw [apply_ite String.toList]
      simp
    have text : (String.ofList (digits.take 1) ++
        (if (digits.length : Int) = 1 then "" else "." ++ String.ofList (digits.drop 1)) ++ "e" ++
        (if e < 0 then "-" else l.plus) ++ toString e.natAbs).toList =
        pointed digits ++
          'e' :: ((if e < 0 then "-" else l.plus).toList ++ Nat.toDigits 10 e.natAbs) := by
      simp only [String.toList_append, String.toList_ofList, others, pointed,
        Nat.toString_eq_ofList_toDigits, List.append_assoc]
      rfl
    rw [text]
    exact .scientific

namespace Layout.Written

variable {l : Layout} {digits : List Char} {e : Int}

theorem decimalValue_eq (signs : l.Signs) (all : AllDigits digits) (nonempty : digits ≠ [])
    (written : l.Written digits e cs) :
    decimalValue cs = digitsValue digits * 10 ^ (e - (digits.length - 1 : Nat)) := by
  have count : 0 < digits.length := List.length_pos_iff.mpr nonempty
  cases written with
  | whole n shift =>
    rw [decimalValue_whole all, shift, Int.add_sub_cancel, zpow_natCast]
  | inner n shift short =>
    have places : e - (digits.length - 1 : Nat) = -(digits.length - (n + 1) : Nat) := by omega
    rw [decimalValue_inner all, places, zpow_neg, zpow_natCast, div_eq_mul_inv]
  | fraction n shift =>
    have places : e - (digits.length - 1 : Nat) = -(n + digits.length : Nat) := by omega
    rw [decimalValue_fraction all, places, zpow_neg, zpow_natCast, div_eq_mul_inv]
  | scientific =>
    rw [decimalValue_pointed all, exponentValue_sign signs, div_mul_eq_mul_div,
      mul_div_assoc, ← zpow_natCast, ← zpow_sub₀ (by norm_num)]

/-- What is written begins with a digit. -/
theorem exists_head (all : AllDigits digits) (nonempty : digits ≠ [])
    (written : l.Written digits e cs) : ∃ c, cs.head? = some c ∧ c.isDigit = true := by
  obtain ⟨d, ds, rfl⟩ := List.exists_cons_of_ne_nil nonempty
  have digit : d.isDigit = true := all d List.mem_cons_self
  cases written with
  | whole => exact ⟨d, rfl, digit⟩
  | inner => exact ⟨d, rfl, digit⟩
  | fraction => exact ⟨'0', rfl, rfl⟩
  | scientific => exact ⟨d, rfl, digit⟩

theorem marked (written : l.Written digits e cs) : '.' ∈ cs ∨ 'e' ∈ cs := by
  cases written with
  | whole => exact .inl (by simp)
  | inner => exact .inl (by simp)
  | fraction => exact .inl (by simp)
  | scientific => exact .inr (by simp)

end Layout.Written

/-- A decimal without a sign that stands for a magnitude. -/
structure Format.Names (f : Format) (rank : Nat) (cs : List Char) : Prop where
  rounds : f.Rounds rank (decimalValue cs)
  head : ∃ c, cs.head? = some c ∧ c.isDigit = true
  marked : '.' ∈ cs ∨ 'e' ∈ cs

def stripped (digits : List Char) : List Char := (digits.reverse.dropWhile (· == '0')).reverse

theorem exists_zeros (digits : List Char) :
    ∃ n, digits = stripped digits ++ List.replicate n '0' := by
  have zeros : ∀ c ∈ digits.reverse.takeWhile (· == '0'), c = '0' := fun c member => by
    simpa using List.mem_takeWhile_imp member
  refine ⟨(digits.reverse.takeWhile (· == '0')).length, ?_⟩
  rw [← List.reverse_inj, List.reverse_append, stripped, List.reverse_reverse,
    List.reverse_replicate, ← List.eq_replicate_of_mem zeros, List.takeWhile_append_dropWhile]

theorem AllDigits.stripped {digits : List Char} (all : AllDigits digits) :
    AllDigits (stripped digits) := by
  intro c member
  refine all c ?_
  rw [Numeral.stripped, List.mem_reverse] at member
  exact List.mem_reverse.mp ((List.dropWhile_sublist _).subset member)

variable {f : Format} {l : Layout}

/-- The decimal found for a magnitude, in the way it is written, names it. -/
theorem Format.names_shortest (narrow : f.precision ≤ 52) (deep : 2 ^ f.scale ≤ 10 ^ 400)
    (signs : l.Signs) {rank : Nat} (nonzero : rank ≠ 0) {c : Nat} {t : Int}
    (found : f.shortest rank = (c, t)) :
    f.Names rank (l.write (stripped (Nat.toDigits 10 c))
      (t + ((Nat.toDigits 10 c).length - 1))).toList := by
  have rounds := rounds_shortest narrow deep nonzero
  rw [found] at rounds
  have positive : c ≠ 0 := by
    rintro rfl
    have reached := rounds.le.1
    rw [Nat.cast_zero, zero_mul, zero_mul, ← Nat.cast_zero, Nat.cast_le] at reached
    have magnitude := f.units_pos nonzero
    omega
  obtain ⟨n, split⟩ := exists_zeros (Nat.toDigits 10 c)
  have all : AllDigits (stripped (Nat.toDigits 10 c)) := (allDigits_toDigits c).stripped
  generalize stripped (Nat.toDigits 10 c) = digits at *
  have value : c = digitsValue digits * 10 ^ n := by
    rw [← digitsValue_append_zeros, ← split, digitsValue_toDigits]
  have nonempty : digits ≠ [] := by
    rintro rfl
    exact positive (value.trans (Nat.zero_mul _))
  have count : 0 < digits.length := List.length_pos_iff.mpr nonempty
  have written := l.written_write nonempty (t + ((Nat.toDigits 10 c).length - 1))
  refine ⟨?_, written.exists_head all nonempty, written.marked⟩
  have places : t + ((Nat.toDigits 10 c).length - 1) - (digits.length - 1 : Nat) = n + t := by
    rw [split, List.length_append, List.length_replicate]
    omega
  rw [written.decimalValue_eq signs all nonempty, places, zpow_add₀ (by norm_num), zpow_natCast,
    ← mul_assoc]
  convert rounds using 2
  rw [value]
  push_cast
  rfl

theorem Binary.exists_names (narrow : f.precision ≤ 52) (deep : 2 ^ f.scale ≤ 10 ^ 400)
    (signs : l.Signs) (x : Binary f) :
    ∃ cs, f.Names x.rank cs ∧ (x.text l).toList = (if x.negative then ['-'] else []) ++ cs := by
  have sign : (if x.negative then "-" else "").toList = if x.negative then ['-'] else [] := by
    rw [apply_ite String.toList]
    rfl
  rw [text]
  split
  · rename_i zero
    refine ⟨['0', '.', '0'], ⟨?_, ⟨'0', rfl, rfl⟩, .inl (by simp)⟩, ?_⟩
    · have value : decimalValue ['0', '.', '0'] = 0 := by
        have plain := decimalValue_plain (allDigits_zeros 1) (allDigits_zeros 1)
        rw [digitsValue_zeros_append, digitsValue_zeros, Nat.cast_zero, zero_div] at plain
        exact plain
      rw [value, zero]
      exact f.rounds_zero
    · rw [String.toList_append, sign]
      rfl
  · rename_i nonzero
    cases found : f.shortest x.rank with
    | mk c t =>
      refine ⟨_, f.names_shortest narrow deep signs nonzero found, ?_⟩
      rw [String.toList_append, sign]
      rfl

theorem signed_inj {a b : Bool} {cs ds : List Char}
    (first : ∃ c, cs.head? = some c ∧ c.isDigit = true)
    (second : ∃ c, ds.head? = some c ∧ c.isDigit = true)
    (same : (if a then ['-'] else []) ++ cs = (if b then ['-'] else []) ++ ds) :
    a = b ∧ cs = ds := by
  have unsigned {cs ds : List Char} (first : ∃ c, cs.head? = some c ∧ c.isDigit = true) :
      cs ≠ '-' :: ds := by
    rintro rfl
    obtain ⟨_, same, digit⟩ := first
    cases same
    cases digit
  cases a with
  | false =>
    cases b with
    | false => exact ⟨rfl, same⟩
    | true => exact absurd same (unsigned first)
  | true =>
    cases b with
    | false => exact absurd same.symm (unsigned second)
    | true => exact ⟨rfl, (List.cons.inj same).2⟩

/-- No two numbers are written alike. -/
theorem Binary.text_injective (narrow : f.precision ≤ 52) (deep : 2 ^ f.scale ≤ 10 ^ 400)
    (signs : l.Signs) {x y : Binary f} (same : x.text l = y.text l) : x = y := by
  obtain ⟨cs, names, left⟩ := x.exists_names narrow deep signs
  obtain ⟨ds, others, right⟩ := y.exists_names narrow deep signs
  rw [same, right] at left
  obtain ⟨sign, rfl⟩ := signed_inj others.head names.head left
  have rank := names.rounds.unique others.rounds
  cases x
  cases y
  dsimp only at sign rank
  subst sign rank
  rfl

end AppScaffold.Numeral

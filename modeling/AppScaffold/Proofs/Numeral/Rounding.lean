import AppScaffold.Numeral.Shortest
import Mathlib.Algebra.Order.Field.Power
import Mathlib.Algebra.Order.Field.Rat
import Mathlib.Data.Nat.Cast.Order.Field
import Mathlib.Tactic.Linarith
import Mathlib.Tactic.Positivity
import Mathlib.Tactic.Ring

/-! Rounding to the magnitudes of a format. The reals that round to a magnitude reach half-way to
its neighbours, so that no real rounds to two of them; seventeen digits are enough to find a decimal
among them. -/

namespace AppScaffold.Numeral

-- Powers of numbers are those of the core library.
attribute [local instance (high)] instPowNat

namespace Format

variable {f : Format} {rank other : Nat}

def gap (f : Format) (rank : Nat) : Nat := 2 ^ (rank / 2 ^ f.precision - 1)

theorem gap_pos : 0 < f.gap rank := Nat.two_pow_pos _

theorem units_eq (f : Format) {exponent fraction : Nat} (bound : fraction < 2 ^ f.precision) :
    f.units (2 ^ f.precision * exponent + fraction) =
      if exponent = 0 then fraction
      else (2 ^ f.precision + fraction) * 2 ^ (exponent - 1) := by
  have quotient : (2 ^ f.precision * exponent + fraction) / 2 ^ f.precision = exponent := by
    rw [Nat.mul_add_div (Nat.two_pow_pos _), Nat.div_eq_of_lt bound, Nat.add_zero]
  have remainder : (2 ^ f.precision * exponent + fraction) % 2 ^ f.precision = fraction := by
    rw [Nat.mul_add_mod, Nat.mod_eq_of_lt bound]
  simp only [units, quotient, remainder]

theorem units_succ (f : Format) (rank : Nat) :
    f.units (rank + 1) = f.units rank + f.gap rank := by
  have positive : 0 < 2 ^ f.precision := Nat.two_pow_pos _
  have bound := Nat.mod_lt rank positive
  have split := Nat.div_add_mod rank (2 ^ f.precision)
  rw [gap]
  generalize rank / 2 ^ f.precision = e at *
  generalize rank % 2 ^ f.precision = r at *
  rw [← split, units_eq f bound, Nat.add_assoc]
  by_cases last : r + 1 = 2 ^ f.precision
  · -- The first magnitude with the next exponent.
    rw [last, ← Nat.mul_add_one, ← Nat.add_zero (_ * (e + 1)), units_eq f positive,
      if_neg e.succ_ne_zero, ← last]
    cases e with
    | zero => simp
    | succ e =>
      simp only [Nat.add_one_ne_zero, ↓reduceIte, Nat.add_one_sub_one, Nat.pow_succ]
      ring
  · rw [units_eq f (by omega)]
    split
    · rename_i small
      simp [small]
    · rw [← Nat.add_assoc, Nat.add_one_mul]

theorem units_strictMono (f : Format) : StrictMono f.units :=
  strictMono_nat_of_lt_succ fun rank => by
    rw [units_succ]
    exact Nat.lt_add_of_pos_right gap_pos

theorem units_zero (f : Format) : f.units 0 = 0 := by
  simp [units]

theorem units_pos (nonzero : rank ≠ 0) : 0 < f.units rank := by
  rw [← units_zero f]
  exact f.units_strictMono (Nat.pos_of_ne_zero nonzero)

/-- The real is no further from the magnitude than half-way to the next ones. The half-way points
count for even ranks. -/
def Rounds (f : Format) (rank : Nat) (x : ℚ) : Prop :=
  let below : ℚ := (f.units (rank - 1) + f.units rank : Nat)
  let above : ℚ := (f.units rank + f.units (rank + 1) : Nat)
  let scaled := x * 2 ^ (f.scale + 1)
  if rank % 2 = 0 then below ≤ scaled ∧ scaled ≤ above else below < scaled ∧ scaled < above

theorem Rounds.le {x : ℚ} (rounds : f.Rounds rank x) :
    ((f.units (rank - 1) + f.units rank : Nat) : ℚ) ≤ x * 2 ^ (f.scale + 1) ∧
      x * 2 ^ (f.scale + 1) ≤ (f.units rank + f.units (rank + 1) : Nat) := by
  unfold Rounds at rounds
  split at rounds
  · exact rounds
  · exact ⟨rounds.1.le, rounds.2.le⟩

theorem Rounds.lt {x : ℚ} (rounds : f.Rounds rank x) (odd : rank % 2 = 1) :
    ((f.units (rank - 1) + f.units rank : Nat) : ℚ) < x * 2 ^ (f.scale + 1) ∧
      x * 2 ^ (f.scale + 1) < (f.units rank + f.units (rank + 1) : Nat) := by
  unfold Rounds at rounds
  rwa [if_neg (by omega)] at rounds

theorem rounds_zero (f : Format) : f.Rounds 0 0 := by
  simp [Rounds, units_zero]

theorem Rounds.not_below {x : ℚ} (low : f.Rounds rank x) (high : f.Rounds other x) :
    ¬ rank < other := by
  intro less
  have inside : f.units rank + f.units (rank + 1) ≤ f.units (other - 1) + f.units other :=
    Nat.add_le_add (f.units_strictMono.monotone (by omega)) (f.units_strictMono.monotone less)
  have reached : ((f.units (other - 1) + f.units other : Nat) : ℚ) ≤
      (f.units rank + f.units (rank + 1) : Nat) :=
    high.le.1.trans low.le.2
  -- Both can only reach the point half-way between neighbours, and one of those is odd.
  have next : other = rank + 1 := by
    by_contra apart
    have beyond : f.units rank + f.units (rank + 1) < f.units (other - 1) + f.units other :=
      Nat.add_lt_add_of_lt_of_le (f.units_strictMono (by omega))
        (f.units_strictMono.monotone less)
    exact absurd (Nat.cast_le.mp reached) (Nat.not_le.mpr beyond)
  rcases Nat.mod_two_eq_zero_or_one rank with even | odd
  · have strict := (high.lt (by omega)).1
    exact absurd (strict.trans_le low.le.2) (not_lt.mpr (Nat.cast_le.mpr inside))
  · have strict := (low.lt odd).2
    exact absurd (high.le.1.trans_lt strict) (not_lt.mpr (Nat.cast_le.mpr inside))

theorem Rounds.unique {x : ℚ} (first : f.Rounds rank x) (second : f.Rounds other x) :
    rank = other :=
  Nat.le_antisymm (Nat.not_lt.mp (second.not_below first)) (Nat.not_lt.mp (first.not_below second))

/-- The distance of the multiples of `10 ^ t`, with both sides stretched to whole numbers. -/
def grid (f : Format) (t : Int) : Nat := 2 ^ (f.scale + 1) * 10 ^ t.toNat

def stretch (t : Int) : Nat := 10 ^ (-t).toNat

theorem stretch_pos (t : Int) : 0 < stretch t := Nat.pow_pos (by decide)

/-- The test that a decimal has to pass on its grid. -/
def passes (f : Format) (rank : Nat) (t : Int) (c : Nat) : Bool :=
  let below := (f.units (rank - 1) + f.units rank) * stretch t
  let above := (f.units rank + f.units (rank + 1)) * stretch t
  if rank % 2 = 0 then below ≤ c * f.grid t && c * f.grid t ≤ above
  else below < c * f.grid t && c * f.grid t < above

theorem onGrid_eq (f : Format) (rank : Nat) (t : Int) :
    f.onGrid rank t =
      let value := 2 * f.units rank * stretch t
      let floor := value / f.grid t
      let excess := 2 * (value % f.grid t)
      match f.passes rank t floor, f.passes rank t (floor + 1) with
      | true, true =>
        if excess < f.grid t ∨ (excess = f.grid t ∧ floor % 2 = 0) then some floor
        else some (floor + 1)
      | true, false => some floor
      | false, true => some (floor + 1)
      | false, false => none :=
  rfl

theorem scaled_mul_stretch (f : Format) (c : Nat) (t : Int) :
    (c : ℚ) * 10 ^ t * 2 ^ (f.scale + 1) * (stretch t : Nat) = (c * f.grid t : Nat) := by
  have powers : (10 : ℚ) ^ t * 10 ^ (-t).toNat = 10 ^ t.toNat := by
    rw [← zpow_natCast, ← zpow_natCast, ← zpow_add₀ (by norm_num)]
    congr 1
    omega
  rw [stretch, grid]
  push_cast
  rw [← powers]
  ring

theorem passes_iff {c : Nat} {t : Int} : f.passes rank t c = true ↔ f.Rounds rank (c * 10 ^ t) := by
  have positive : (0 : ℚ) < (stretch t : Nat) := Nat.cast_pos.mpr (stretch_pos t)
  have reached (b : Nat) : b * stretch t ≤ c * f.grid t ↔
      (b : ℚ) ≤ c * 10 ^ t * 2 ^ (f.scale + 1) := by
    rw [← mul_le_mul_iff_left₀ positive, scaled_mul_stretch]
    norm_cast
  have kept (b : Nat) : c * f.grid t ≤ b * stretch t ↔
      (c : ℚ) * 10 ^ t * 2 ^ (f.scale + 1) ≤ b := by
    rw [← mul_le_mul_iff_left₀ positive, scaled_mul_stretch]
    norm_cast
  unfold passes Rounds
  split
  · rw [Bool.and_eq_true, decide_eq_true_iff, decide_eq_true_iff, reached, kept]
  · rw [Bool.and_eq_true, decide_eq_true_iff, decide_eq_true_iff, ← not_le, ← not_le (b := _ * _),
      reached, kept, not_le, not_le]

theorem rounds_of_onGrid {c : Nat} {t : Int} (found : f.onGrid rank t = some c) :
    f.Rounds rank (c * 10 ^ t) := by
  rw [← passes_iff]
  rw [onGrid_eq] at found
  dsimp only at found
  split at found
  · rename_i first second
    split at found
    · obtain rfl := Option.some.inj found
      exact first
    · obtain rfl := Option.some.inj found
      exact second
  · rename_i first _
    obtain rfl := Option.some.inj found
    exact first
  · rename_i _ second
    obtain rfl := Option.some.inj found
    exact second
  · cases found

theorem passes_of_lt {c : Nat} {t : Int}
    (below : (f.units (rank - 1) + f.units rank) * stretch t < c * f.grid t)
    (above : c * f.grid t < (f.units rank + f.units (rank + 1)) * stretch t) :
    f.passes rank t c = true := by
  simp [passes, below, above, below.le, above.le]

/-- A grid that is finer than the reals that round to a magnitude holds one of them. -/
theorem exists_onGrid {t : Int}
    (fine : f.grid t + f.units (rank - 1) * stretch t < f.units (rank + 1) * stretch t) :
    ∃ c, f.onGrid rank t = some c := by
  let value := 2 * f.units rank * stretch t
  have positive : 0 < f.grid t := Nat.mul_pos (Nat.two_pow_pos _) (Nat.pow_pos (by decide))
  have floor_le : value / f.grid t * f.grid t ≤ value := Nat.div_mul_le_self _ _
  have lt_next : value < (value / f.grid t + 1) * f.grid t := by
    rw [Nat.mul_comm]
    exact Nat.lt_mul_div_succ value positive
  have previous : f.units (rank - 1) * stretch t ≤ f.units rank * stretch t :=
    Nat.mul_le_mul_right _ (f.units_strictMono.monotone (Nat.sub_le rank 1))
  have following : f.units rank * stretch t < f.units (rank + 1) * stretch t :=
    Nat.mul_lt_mul_of_pos_right (f.units_strictMono rank.lt_add_one) (stretch_pos t)
  have value_eq : value = f.units rank * stretch t + f.units rank * stretch t := by
    rw [← Nat.two_mul, ← Nat.mul_assoc]
  -- The half-way points on both sides of the value are further apart than two points of the grid.
  have either : f.passes rank t (value / f.grid t) = true ∨
      f.passes rank t (value / f.grid t + 1) = true := by
    by_cases low : (f.units (rank - 1) + f.units rank) * stretch t < value / f.grid t * f.grid t
    · refine .inl (passes_of_lt low ?_)
      rw [Nat.add_mul]
      omega
    · refine .inr (passes_of_lt ?_ ?_)
      · rw [Nat.add_mul]
        omega
      · rw [Nat.add_one_mul, Nat.add_mul]
        rw [Nat.add_mul] at low
        omega
  rw [onGrid_eq]
  dsimp only
  split
  · split
    · exact ⟨_, rfl⟩
    · exact ⟨_, rfl⟩
  · exact ⟨_, rfl⟩
  · exact ⟨_, rfl⟩
  · rename_i first second
    rcases either with passed | passed
    · cases passed.symm.trans first
    · cases passed.symm.trans second

theorem units_lt (f : Format) (rank : Nat) :
    f.units rank < 2 ^ (f.precision + 1) * f.gap rank := by
  have bound := Nat.mod_lt rank (Nat.two_pow_pos f.precision)
  rw [units, gap]
  split
  · rename_i small
    rw [small, Nat.pow_succ]
    omega
  · refine Nat.mul_lt_mul_of_pos_right ?_ (Nat.two_pow_pos _)
    rw [Nat.pow_succ]
    omega

theorem units_le_of_mod_eq_zero (whole : rank % 2 ^ f.precision = 0) :
    f.units rank ≤ 2 ^ f.precision * f.gap rank := by
  rw [units, gap, whole]
  split
  · exact Nat.zero_le _
  · rfl

theorem gap_succ_of_mod_ne_zero (inner : (rank + 1) % 2 ^ f.precision ≠ 0) :
    f.gap (rank + 1) = f.gap rank := by
  rw [gap, gap, Nat.succ_div_of_not_dvd fun whole => inner (Nat.mod_eq_zero_of_dvd whole)]

theorem units_narrow (narrow : f.precision ≤ 52) (nonzero : rank ≠ 0) :
    2 * f.units rank + 10 ^ 16 * f.units (rank - 1) < 10 ^ 16 * f.units (rank + 1) := by
  obtain ⟨k, rfl⟩ := Nat.exists_eq_add_one_of_ne_zero nonzero
  have power : 2 ^ f.precision ≤ 2 ^ 52 := Nat.pow_le_pow_right (by decide) narrow
  have positive : 0 < f.gap (k + 1) := gap_pos
  rw [Nat.add_sub_cancel, units_succ f (k + 1)]
  by_cases whole : (k + 1) % 2 ^ f.precision = 0
  · have bound := (units_le_of_mod_eq_zero whole).trans (Nat.mul_le_mul_right _ power)
    have previous := f.units_strictMono k.lt_add_one
    omega
  · have bound := (f.units_lt (k + 1)).trans_le
      (Nat.mul_le_mul_right _ (Nat.pow_le_pow_right (by decide) (Nat.succ_le_succ narrow)))
    have same := gap_succ_of_mod_ne_zero whole
    have step := units_succ f k
    omega

theorem ten_pow_length_toDigits_le {n : Nat} (positive : 0 < n) :
    10 ^ ((Nat.toDigits 10 n).length - 1) ≤ n := by
  by_contra less
  rcases Nat.eq_zero_or_pos ((Nat.toDigits 10 n).length - 1) with single | more
  · rw [single] at less
    omega
  · have short := (Nat.length_toDigits_le_iff (by decide) more).mpr (Nat.not_le.mp less)
    omega

theorem ten_pow_leadingExponent_le (deep : 2 ^ f.scale ≤ 10 ^ 400) (nonzero : rank ≠ 0) :
    (10 : ℚ) ^ f.leadingExponent rank * 2 ^ f.scale ≤ f.units rank := by
  let n := f.units rank * 10 ^ 400 / 2 ^ f.scale
  let length := (Nat.toDigits 10 n).length
  have magnitude : 1 ≤ f.units rank := units_pos nonzero
  have positive : 0 < n :=
    Nat.div_pos (deep.trans (Nat.le_mul_of_pos_left _ magnitude)) (Nat.two_pow_pos _)
  have digits : 0 < length := Nat.length_toDigits_pos
  have whole : 10 ^ (length - 1) * 2 ^ f.scale ≤ f.units rank * 10 ^ 400 :=
    (Nat.mul_le_mul_right _ (ten_pow_length_toDigits_le positive)).trans (Nat.div_mul_le_self _ _)
  have exponent : f.leadingExponent rank = (length - 1 : Nat) - (400 : Nat) := by
    unfold leadingExponent
    change (length : Int) - 401 = _
    omega
  rw [exponent, zpow_sub₀ (by norm_num), zpow_natCast, zpow_natCast, div_mul_eq_mul_div,
    div_le_iff₀ (by positivity)]
  exact_mod_cast whole

theorem exists_onGrid_seventeenth (narrow : f.precision ≤ 52) (deep : 2 ^ f.scale ≤ 10 ^ 400)
    (nonzero : rank ≠ 0) : ∃ c, f.onGrid rank (f.leadingExponent rank - (16 : Nat)) = some c := by
  generalize seventeenth : f.leadingExponent rank - (16 : Nat) = t
  have apart : (2 * f.units rank + 10 ^ 16 * f.units (rank - 1) : ℚ) <
      10 ^ 16 * f.units (rank + 1) := by
    exact_mod_cast units_narrow narrow nonzero
  have leading : (10 : ℚ) ^ 16 * 10 ^ t * 2 ^ f.scale ≤ f.units rank := by
    have shift : (10 : ℚ) ^ 16 * 10 ^ t = 10 ^ f.leadingExponent rank := by
      rw [← zpow_natCast, ← zpow_add₀ (by norm_num)]
      congr 1
      omega
    rw [shift]
    exact ten_pow_leadingExponent_le deep nonzero
  have positive : (0 : ℚ) < stretch t := Nat.cast_pos.mpr (stretch_pos t)
  have grid_eq : (f.grid t : ℚ) = 10 ^ t * 2 ^ (f.scale + 1) * stretch t := by
    simpa using (scaled_mul_stretch f 1 t).symm
  apply exists_onGrid
  rw [← Nat.cast_lt (α := ℚ)]
  push_cast
  rw [grid_eq, ← add_mul, mul_lt_mul_iff_left₀ positive, pow_succ]
  linarith

/-- The decimal that stands for a magnitude rounds to it. -/
theorem rounds_shortest (narrow : f.precision ≤ 52) (deep : 2 ^ f.scale ≤ 10 ^ 400)
    (nonzero : rank ≠ 0) :
    f.Rounds rank ((f.shortest rank).1 * 10 ^ (f.shortest rank).2) := by
  let top := f.leadingExponent rank
  let find (n : Nat) := (f.onGrid rank (top - n)).map fun digits => (digits, top - (n : Int))
  obtain ⟨c, last⟩ := exists_onGrid_seventeenth narrow deep nonzero
  have found : ((List.range 17).findSome? find).isSome = true := by
    rw [List.findSome?_isSome_iff]
    refine ⟨16, by simp, ?_⟩
    simp only [find]
    rw [last]
    rfl
  obtain ⟨⟨digits, t⟩, first⟩ := Option.isSome_iff_exists.mp found
  obtain ⟨n, -, stands⟩ := List.exists_of_findSome?_eq_some first
  obtain ⟨_, grid, same⟩ := Option.map_eq_some_iff.mp stands
  have shortest : f.shortest rank = (digits, t) := by
    rw [Format.shortest]
    exact congrArg (Option.getD · (0, 0)) first
  cases same
  rw [shortest]
  exact rounds_of_onGrid grid

end Format

end AppScaffold.Numeral

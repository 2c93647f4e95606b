/-! Finite binary floating-point numbers. A number is a sign and the rank of its magnitude among the
magnitudes of its format, so that neighbouring ranks are neighbouring numbers. -/

namespace AppScaffold.Numeral

-- Powers of numbers are those of the core library, whatever instances a library adds.
attribute [local instance (high)] instPowNat

structure Format where
  precision : Nat
  /-- Magnitudes are multiples of `2 ^ -scale`. -/
  scale : Nat
  /-- The number of finite magnitudes, zero included. -/
  ranks : Nat

def binary64 : Format := ⟨52, 1074, 2047 * 2 ^ (52 : Nat)⟩
def binary32 : Format := ⟨23, 149, 255 * 2 ^ (23 : Nat)⟩

structure Binary (f : Format) where
  negative : Bool
  rank : Nat
  finite : rank < f.ranks
  deriving DecidableEq

def Format.units (f : Format) (rank : Nat) : Nat :=
  let exponent := rank / 2 ^ f.precision
  let fraction := rank % 2 ^ f.precision
  if exponent = 0 then fraction else (2 ^ f.precision + fraction) * 2 ^ (exponent - 1)

def roundHalfEven (num den : Nat) : Nat :=
  let q := num / den
  let r := num % den
  if den < 2 * r ∨ (2 * r = den ∧ q % 2 = 1) then q + 1 else q

/-- The rank of the magnitude nearest to `num / den`, of two equally near the even one. A rank
that is not below `ranks` stands for infinity. -/
def Format.nearest (f : Format) (num den : Nat) : Nat :=
  let scaled := num * 2 ^ f.scale
  let shift := (scaled / den).log2 - f.precision
  shift * 2 ^ f.precision + roundHalfEven scaled (den * 2 ^ shift)

def Binary.ofRank? {f : Format} (negative : Bool) (rank : Nat) : Option (Binary f) :=
  if finite : rank < f.ranks then some ⟨negative, rank, finite⟩ else none

def Binary.convert? {f : Format} (g : Format) (x : Binary f) : Option (Binary g) :=
  Binary.ofRank? x.negative (g.nearest (f.units x.rank) (2 ^ f.scale))

def tenTo (k : Nat) : Nat := binary64.nearest (10 ^ k) 1

/-- `significand * 10 ^ exponent`, reckoned in floating point: the significand is rounded, and so
is its product or quotient with each power of ten. A power stays within `10 ^ 308`; a
significand below `2 ^ 64` vanishes when two such powers divide it. -/
def Binary.ofDecimal? (negative : Bool) (significand : Nat) (exponent : Int) :
    Option (Binary binary64) :=
  let s := binary64.nearest significand 1
  let divide (rank power : Nat) :=
    binary64.nearest (binary64.units rank) (binary64.units (tenTo power))
  if significand = 0 then Binary.ofRank? negative 0
  else if 308 < exponent then none
  else if 0 ≤ exponent then
    Binary.ofRank? negative <| binary64.nearest
      (binary64.units s * binary64.units (tenTo exponent.toNat)) (2 ^ (2 * binary64.scale))
  else if -308 ≤ exponent then Binary.ofRank? negative (divide s (-exponent).toNat)
  else if -616 ≤ exponent then
    Binary.ofRank? negative (divide (divide s 308) (-exponent - 308).toNat)
  else Binary.ofRank? negative 0

end AppScaffold.Numeral

import AppScaffold.Numeral.Binary

/-! The shortest decimal that reads back as a given floating-point number, and how it is written. -/

namespace AppScaffold.Numeral

-- Powers of numbers are those of the core library.
attribute [local instance (high)] instPowNat

/-- The multiple of `10 ^ t` nearest to the magnitude, of two equally near the even one, among
those that round to it. The reals that round to a magnitude reach half-way to its neighbours;
the half-way points are included when the rank is even. -/
def Format.onGrid (f : Format) (rank : Nat) (t : Int) : Option Nat :=
  let grid := 2 ^ (f.scale + 1) * 10 ^ t.toNat
  let stretch := 10 ^ (-t).toNat
  let below := (f.units (rank - 1) + f.units rank) * stretch
  let value := 2 * f.units rank * stretch
  let above := (f.units rank + f.units (rank + 1)) * stretch
  let rounds (c : Nat) : Bool :=
    if rank % 2 = 0 then below ≤ c * grid && c * grid ≤ above
    else below < c * grid && c * grid < above
  let floor := value / grid
  let excess := 2 * (value % grid)
  match rounds floor, rounds (floor + 1) with
  | true, true =>
    if excess < grid ∨ (excess = grid ∧ floor % 2 = 0) then some floor else some (floor + 1)
  | true, false => some floor
  | false, true => some (floor + 1)
  | false, false => none

def Format.leadingExponent (f : Format) (rank : Nat) : Int :=
  (Nat.toDigits 10 (f.units rank * 10 ^ (400 : Nat) / 2 ^ f.scale)).length - 401

/-- Digits, and the exponent of the last of them: the first grid that holds a decimal which reads
back. Seventeen digits always suffice. -/
def Format.shortest (f : Format) (rank : Nat) : Nat × Int :=
  let top := f.leadingExponent rank
  ((List.range 17).findSome? fun (n : Nat) =>
    (f.onGrid rank (top - n)).map fun digits => (digits, top - n)).getD (0, 0)

structure Layout where
  plainFrom : Int
  plainTo : Int
  plus : String

/-- `digits` with the first before the point, times `10 ^ exponent`. A plain number always has a
fraction. -/
def Layout.write (l : Layout) (digits : List Char) (exponent : Int) : String :=
  let zeros (n : Int) := List.replicate n.toNat '0'
  let count : Int := digits.length
  if l.plainFrom ≤ exponent ∧ exponent ≤ l.plainTo then
    if count - 1 ≤ exponent then String.ofList (digits ++ zeros (exponent - count + 1)) ++ ".0"
    else if 0 ≤ exponent then
      String.ofList (digits.take (exponent + 1).toNat) ++ "." ++
        String.ofList (digits.drop (exponent + 1).toNat)
    else "0." ++ String.ofList (zeros (-exponent - 1) ++ digits)
  else
    String.ofList (digits.take 1) ++
      (if count = 1 then "" else "." ++ String.ofList (digits.drop 1)) ++
      "e" ++ (if exponent < 0 then "-" else l.plus) ++ toString exponent.natAbs

def Binary.text {f : Format} (l : Layout) (x : Binary f) : String :=
  let sign := if x.negative then "-" else ""
  if x.rank = 0 then sign ++ "0.0"
  else
    let (digits, last) := f.shortest x.rank
    let written := Nat.toDigits 10 digits
    sign ++ l.write (written.reverse.dropWhile (· == '0')).reverse (last + (written.length - 1))

def documentDouble : Layout := ⟨-5, 15, "+"⟩

def documentSingle : Layout := ⟨-6, 12, "+"⟩

def messageSingle : Layout := ⟨-4, 15, ""⟩

end AppScaffold.Numeral

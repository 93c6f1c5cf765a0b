import FluentSql.Numeral.Binary64

/-!
# FluentSql.Numeral.Shortest — the shortest decimal that reads back

* `Rounding.holds`: a decimal lies in the interval of numbers that round to a given double.
* `shortest`: the first number of digits, from one up, for which one of the two decimals beside the double reads
  back; of two such decimals the nearer one.
-/

namespace FluentSql
namespace Numeral

/-- `digits * 10 ^ exponent` -/
structure Decimal10 where
  digits : Nat
  exponent : Int
  deriving DecidableEq, Repr

/-- Which of two decimals at equal distance is taken. -/
inductive Tie where
  | upper
  | even
  deriving DecidableEq, Repr

/-! ## Comparison of a decimal with a double -/

/-- Compares `c * 10 ^ k` with `a * 2 ^ p` exactly. -/
def compareScaled (c : Nat) (k : Int) (a : Nat) (p : Int) : Ordering :=
  compare (c * Nat.pow 10 k.toNat * Nat.pow 2 (-p).toNat) (a * Nat.pow 2 p.toNat * Nat.pow 10 (-k).toNat)

/-- Four times the significand, and the two ends of the interval that rounds to it, on the same scale. -/
structure Rounding where
  lower : Nat
  middle : Nat
  upper : Nat
  closed : Bool
  exponent : Int

/-- The interval of a finite, non-zero double. Below a power of two the numbers lie twice as dense. -/
def Rounding.of (x : Binary64) : Rounding :=
  let m := x.significand
  { lower := if x.fraction = 0 ∧ 1 < x.exponentField then 4 * m - 1 else 4 * m - 2
    middle := 4 * m
    upper := 4 * m + 2
    closed := m % 2 = 0
    exponent := x.exponent - 2 }

/-- `c * 10 ^ k` rounds to the double of the interval. -/
def Rounding.holds (r : Rounding) (c : Nat) (k : Int) : Bool :=
  let low := compareScaled c k r.lower r.exponent
  let high := compareScaled c k r.upper r.exponent
  if r.closed then low != .lt && high != .gt else low == .gt && high == .lt

/-- Whether `(c + 1) * 10 ^ k` is to be taken over `c * 10 ^ k` when both read back. -/
def Rounding.prefersUpper (r : Rounding) (tie : Tie) (c : Nat) (k : Int) : Bool :=
  match compareScaled (2 * c + 1) k (2 * r.middle) r.exponent with
  | .lt => true
  | .gt => false
  | .eq =>
    match tie with
    | .upper => true
    | .even => c % 2 = 1

/-! ## The search -/

/-- The largest `c` with `c * 10 ^ k ≤ a * 2 ^ p`. -/
def floorScaled (a : Nat) (p : Int) (k : Int) : Nat :=
  (a * Nat.pow 2 p.toNat * Nat.pow 10 (-k).toNat) / (Nat.pow 10 k.toNat * Nat.pow 2 (-p).toNat)

/-- The decimal with `c` or `c + 1` steps of `10 ^ k` that reads back, if there is one. -/
def Rounding.onGrid (r : Rounding) (tie : Tie) (k : Int) : Option Decimal10 :=
  let c := floorScaled r.middle r.exponent k
  match r.holds c k, r.holds (c + 1) k with
  | true, true => some ⟨if r.prefersUpper tie c k then c + 1 else c, k⟩
  | true, false => some ⟨c, k⟩
  | false, true => some ⟨c + 1, k⟩
  | false, false => none

/-- The exponent of the leading decimal digit of `a * 2 ^ p`, for `a` not zero. -/
def leadingExponent (a : Nat) (p : Int) : Int :=
  if 0 ≤ p then ((Nat.toDigits 10 (a * Nat.pow 2 p.toNat)).length : Int) - 1
  else
    -- Scaling by a power of ten beyond the bits of the fraction leaves an integer part with all leading digits.
    let shift := (-p).toNat
    ((Nat.toDigits 10 (a * Nat.pow 10 shift / Nat.pow 2 shift)).length : Int) - 1 - shift

/-- Removes trailing zeros from the digits. -/
def Decimal10.trimmed (d : Decimal10) : Decimal10 :=
  if d.digits ≠ 0 ∧ d.digits % 10 = 0 then Decimal10.trimmed ⟨d.digits / 10, d.exponent + 1⟩ else d
termination_by d.digits
decreasing_by omega

/-- The first of the grids `10 ^ top`, `10 ^ (top - 1)`, … that has a decimal which reads back. -/
def Rounding.search (r : Rounding) (tie : Tie) : Nat → Int → Option Decimal10
  | 0, _ => none
  | n + 1, k =>
    match r.onGrid tie k with
    | some d => some d
    | none => r.search tie n (k - 1)

/-- The shortest decimal that reads back as the absolute value of a finite, non-zero double. Seventeen digits
always suffice, so the exact middle is only a formal last resort. -/
def shortest (tie : Tie) (x : Binary64) : Decimal10 :=
  let r := Rounding.of x
  let top := leadingExponent r.middle r.exponent
  let d := (r.search tie 18 top).getD ⟨floorScaled r.middle r.exponent (top - 17), top - 17⟩
  d.trimmed

end Numeral
end FluentSql

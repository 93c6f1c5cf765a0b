/-!
# FluentSql.Numeral.Binary64 — double precision numbers as bit patterns

* `Binary64`: the 64 bits of a double: sign, 11 bits of exponent, 52 bits of fraction.
* `Binary64.significand`, `Binary64.exponent`: a finite double has the absolute value `significand * 2 ^ exponent`.
* `Binary64.ofBinary32`: the double of the same value as a single precision number; the payload of a NaN is kept.
-/

namespace FluentSql

/-- A double precision number, given by its bits. -/
structure Binary64 where
  bits : UInt64
  deriving DecidableEq, Repr, Inhabited

namespace Binary64

/-! ## Fields -/

/-- The sign bit. -/
def isNegative (x : Binary64) : Bool :=
  Nat.pow 2 63 ≤ x.bits.toNat

/-- The 11 bits of the exponent. -/
def exponentField (x : Binary64) : Nat :=
  x.bits.toNat / Nat.pow 2 52 % Nat.pow 2 11

/-- The 52 bits of the fraction. -/
def fraction (x : Binary64) : Nat :=
  x.bits.toNat % Nat.pow 2 52

/-- Not a number. -/
def isNaN (x : Binary64) : Bool :=
  x.exponentField == 2047 && x.fraction != 0

/-- Plus or minus infinity. -/
def isInfinite (x : Binary64) : Bool :=
  x.exponentField == 2047 && x.fraction == 0

/-- Plus or minus zero. -/
def isZero (x : Binary64) : Bool :=
  x.exponentField == 0 && x.fraction == 0

/-! ## Value -/

/-- The integer significand of a finite double. -/
def significand (x : Binary64) : Nat :=
  if x.exponentField = 0 then x.fraction else Nat.pow 2 52 + x.fraction

/-- The power of two that belongs to `significand`. -/
def exponent (x : Binary64) : Int :=
  if x.exponentField = 0 then -1074 else (x.exponentField : Int) - 1075

/-! ## Widening -/

/-- A double from its three fields. -/
def ofFields (negative : Bool) (exponentField fraction : Nat) : Binary64 :=
  ⟨UInt64.ofNat ((if negative then Nat.pow 2 63 else 0) + exponentField * Nat.pow 2 52 + fraction)⟩

/-- The double with the value of a single precision number, given by its 32 bits. -/
def ofBinary32 (bits : UInt32) : Binary64 :=
  let negative : Bool := Nat.pow 2 31 ≤ bits.toNat
  let e := bits.toNat / Nat.pow 2 23 % Nat.pow 2 8
  let f := bits.toNat % Nat.pow 2 23
  if e = 255 then
    if f = 0 then ofFields negative 2047 0 else ofFields negative 2047 (Nat.pow 2 51 + f % Nat.pow 2 22 * Nat.pow 2 29)
  else if e = 0 then
    if f = 0 then ofFields negative 0 0
    else
      let top := f.log2
      ofFields negative (top + 874) ((f - Nat.pow 2 top) * Nat.pow 2 (52 - top))
  else ofFields negative (e + 896) (f * Nat.pow 2 29)

end Binary64
end FluentSql

import FluentSql.Numeral.Shortest

/-!
# FluentSql.Numeral.FloatText — doubles as text

* `FloatStyle`: the decisions of a format: which magnitudes are written without an exponent, whether an integer
  keeps `.0`, whether a positive exponent has a sign, and how ties go.
* `FloatStyle.write`: the shortest decimal that reads back, laid out in a style.
-/

namespace FluentSql
namespace Numeral

/-- The decisions of a format for doubles. -/
structure FloatStyle where
  /-- Exponents of the leading digit that are written positionally. -/
  positional : Int → Bool
  /-- A positional integer ends in `.0`. -/
  pointZero : Bool
  /-- A positive exponent is written with `+`. -/
  plusSign : Bool
  /-- Which of two equally near decimals is written. -/
  tie : Tie

/-- Positional layout of a decimal. -/
def Decimal10.positional (d : Decimal10) (pointZero : Bool) : String :=
  let ds := Nat.toDigits 10 d.digits
  let lead := d.exponent + ds.length - 1
  String.ofList <|
    if 0 ≤ d.exponent then
      ds ++ List.replicate d.exponent.toNat '0' ++ (if pointZero then ['.', '0'] else [])
    else if 0 ≤ lead then
      ds.take (lead.toNat + 1) ++ '.' :: ds.drop (lead.toNat + 1)
    else '0' :: '.' :: (List.replicate (-lead - 1).toNat '0' ++ ds)

/-- Layout of a decimal with one digit before the point and an exponent. -/
def Decimal10.exponential (d : Decimal10) (plusSign : Bool) : String :=
  let ds := Nat.toDigits 10 d.digits
  let lead := d.exponent + ds.length - 1
  let point := if ds.length ≤ 1 then [] else ['.']
  let sign := if lead < 0 then ['-'] else if plusSign then ['+'] else []
  String.ofList (ds.take 1 ++ point ++ ds.drop 1 ++ 'e' :: (sign ++ Nat.toDigits 10 lead.natAbs))

/-- A decimal in a style. -/
def FloatStyle.layOut (style : FloatStyle) (d : Decimal10) : String :=
  if style.positional (d.exponent + (Nat.toDigits 10 d.digits).length - 1) then d.positional style.pointZero
  else d.exponential style.plusSign

/-- A double in a style. The sign of zero is kept, that of a NaN is not. -/
def FloatStyle.write (style : FloatStyle) (x : Binary64) : String :=
  if x.isNaN then "NaN"
  else
    let magnitude :=
      if x.isInfinite then "inf"
      else if x.isZero then style.layOut ⟨0, 0⟩
      else style.layOut (shortest style.tie x)
    if x.isNegative then "-" ++ magnitude else magnitude

end Numeral
end FluentSql

/-!
# FluentSql.Numeral.Digits — numbers as digits

* `padded`, `hexPadded`: a natural number with at least `width` digits, in decimal or in lower case hexadecimal.
* `hexDigit?`, `ofDigits`: the number written in digits of either case.
-/

namespace FluentSql
namespace Numeral

/-! ## Writing -/

/-- `n` in decimal, filled with zeros on the left up to `width` digits. -/
def padded (width n : Nat) : String :=
  String.ofList ((Nat.toDigits 10 n).leftpad width '0')

/-- `n` in lower case hexadecimal, filled with zeros on the left up to `width` digits. -/
def hexPadded (width n : Nat) : String :=
  String.ofList ((Nat.toDigits 16 n).leftpad width '0')

/-! ## Reading -/

/-- The value of a hexadecimal digit. -/
def hexDigit? (c : Char) : Option Nat :=
  if c.isDigit then some (c.toNat - '0'.toNat)
  else if 'a' ≤ c ∧ c ≤ 'f' then some (c.toNat - 'a'.toNat + 10)
  else if 'A' ≤ c ∧ c ≤ 'F' then some (c.toNat - 'A'.toNat + 10)
  else none

/-- The number written in digits. -/
def ofDigits (base : Nat) (cs : List Char) : Nat :=
  cs.foldl (fun n c => n * base + (hexDigit? c).getD 0) 0

/-- The number written in the first `n` characters, if they are hexadecimal digits, and the text behind them. -/
def readHex (n : Nat) (cs : List Char) : Option (Nat × List Char) :=
  let ds := cs.take n
  if ds.length = n ∧ ds.all (fun c => (hexDigit? c).isSome) then some (ofDigits 16 ds, cs.drop n) else none

theorem length_of_readHex {n v : Nat} {cs rest : List Char} (h : readHex n cs = some (v, rest)) :
    rest.length ≤ cs.length := by
  simp only [readHex] at h
  split at h
  · simp at h; simp [← h.2]
  · simp at h

end Numeral
end FluentSql

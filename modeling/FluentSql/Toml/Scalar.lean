import FluentSql.Numeral.Digits
import FluentSql.Toml.Basic

/-!
# FluentSql.Toml.Scalar — texts, numbers and dates of TOML documents

Lines end in a line feed here, and there are no other control characters than tabs; see `Toml.normalize`.

* `readLine`, `readBlock`: quoted texts on one line or over several lines, with or without escapes.
* `number?`: integers and floats. Integers fit into 128 bits, floats into double precision.
* `isMoment`: dates, times of day, and both together with or without an offset.
* `ofBare`: the value of an unquoted text.
-/

namespace FluentSql
namespace Toml

open Numeral (hexDigit? ofDigits readHex length_of_readHex)

/-! ## Characters -/

/-- A space or a tab. -/
def isGap (c : Char) : Bool :=
  c == ' ' || c == '\t'

/-- A space, a tab or the end of a line. -/
def isGapOrEnd (c : Char) : Bool :=
  isGap c || c == '\n'

/-! ## Quoted texts -/

/-- The character with `n` hexadecimal digits as its number. -/
def readCodePoint (n : Nat) (cs : List Char) : Option (Char × List Char) :=
  match readHex n cs with
  | some (v, rest) => if v.isValidChar then some (Char.ofNat v, rest) else none
  | none => none

/-- The character that a letter behind a backslash stands for. -/
def escaped? : Char → Option Char
  | 'b' => some '\x08'
  | 't' => some '\t'
  | 'n' => some '\n'
  | 'f' => some '\x0c'
  | 'r' => some '\r'
  | 'e' => some '\x1b'
  | '"' => some '"'
  | '\\' => some '\\'
  | _ => none

/-- Reads what follows a backslash. -/
def readEscape : List Char → Option (Char × List Char)
  | 'x' :: r => readCodePoint 2 r
  | 'u' :: r => readCodePoint 4 r
  | 'U' :: r => readCodePoint 8 r
  | c :: r => (escaped? c).map fun d => (d, r)
  | [] => none

/-- The rest after a backslash at the end of a line: everything up to the next visible character is left out. -/
def joinLines? (cs : List Char) : Option (List Char) :=
  match cs.dropWhile isGap with
  | '\n' :: r => some (r.dropWhile isGapOrEnd)
  | _ => none

theorem length_of_readCodePoint {n : Nat} {cs rest : List Char} {c : Char}
    (h : readCodePoint n cs = some (c, rest)) : rest.length ≤ cs.length := by
  unfold readCodePoint at h
  split at h
  · rename_i v r hr
    split at h <;> simp at h
    rw [← h.2]
    exact length_of_readHex hr
  · simp at h

theorem length_of_readEscape {cs rest : List Char} {c : Char} (h : readEscape cs = some (c, rest)) :
    rest.length < cs.length := by
  unfold readEscape at h
  split at h
  · exact Nat.lt_succ_of_le (length_of_readCodePoint h)
  · exact Nat.lt_succ_of_le (length_of_readCodePoint h)
  · exact Nat.lt_succ_of_le (length_of_readCodePoint h)
  · obtain ⟨d, _, hd⟩ := Option.map_eq_some_iff.1 h
    simp at hd
    simp [← hd.2]
  · simp at h

theorem length_of_joinLines? {cs rest : List Char} (h : joinLines? cs = some rest) : rest.length < cs.length := by
  unfold joinLines? at h
  split at h
  · rename_i r hr
    have h1 := (List.dropWhile_suffix isGap (l := cs)).length_le
    have h2 := (List.dropWhile_suffix isGapOrEnd (l := r)).length_le
    simp only [hr, List.length_cons] at h1
    simp at h
    rw [← h]
    omega
  · simp at h

/-- Puts a character in front of what is read after it. -/
def consRead (c : Char) (x : Option (List Char × List Char)) : Option (List Char × List Char) :=
  x.map fun (cs, rest) => (c :: cs, rest)

/-- Reads a text on one line up to the closing quote. -/
def readLine (quote : Char) (escapes : Bool) (cs : List Char) : Option (List Char × List Char) :=
  match cs with
  | [] => none
  | '\n' :: _ => none
  | c :: r =>
    if c = quote then some ([], r)
    else if c = '\\' ∧ escapes then
      match _h : readEscape r with
      | none => none
      | some (d, r') => consRead d (readLine quote escapes r')
    else consRead c (readLine quote escapes r)
termination_by cs.length
decreasing_by
  · have := length_of_readEscape _h; simp; omega
  · simp

/-- Reads a text over several lines up to three closing quotes; one or two more quotes before them belong to the
text. -/
def readBlock (quote : Char) (escapes : Bool) (cs : List Char) : Option (List Char × List Char) :=
  match cs with
  | [] => none
  | c :: r =>
    if (c :: r).take 3 = List.replicate 3 quote then
      let extra := min 2 ((r.drop 2).takeWhile (· == quote)).length
      some (List.replicate extra quote, r.drop (2 + extra))
    else if c = '\\' ∧ escapes then
      match _hj : joinLines? r with
      | some r' => readBlock quote escapes r'
      | none =>
        match _he : readEscape r with
        | none => none
        | some (d, r') => consRead d (readBlock quote escapes r')
    else consRead c (readBlock quote escapes r)
termination_by cs.length
decreasing_by
  · have := length_of_joinLines? _hj; simp; omega
  · have := length_of_readEscape _he; simp; omega
  · simp

/-- The text behind three opening quotes: an end of line right behind them does not belong to it. -/
def skipFirstEnd : List Char → List Char
  | '\n' :: r => r
  | cs => cs

/-- Reads a quoted text of any form. -/
def readQuoted : List Char → Option (List Char × List Char)
  | '"' :: '"' :: '"' :: r => readBlock '"' true (skipFirstEnd r)
  | '\'' :: '\'' :: '\'' :: r => readBlock '\'' false (skipFirstEnd r)
  | '"' :: r => readLine '"' true r
  | '\'' :: r => readLine '\'' false r
  | _ => none

/-! ## Numbers -/

/-- The digits of a text in which underscores may stand between two digits. -/
def ungrouped (isDigit : Char → Bool) (afterDigit : Bool) : List Char → Option (List Char)
  | [] => if afterDigit then some [] else none
  | c :: r =>
    if c = '_' ∧ afterDigit then ungrouped isDigit false r
    else if isDigit c then (ungrouped isDigit true r).map (c :: ·)
    else none

/-- The digits of a decimal number, which does not start with a needless zero. -/
def decimalDigits? (cs : List Char) : Option (List Char) := do
  let ds ← ungrouped Char.isDigit false cs
  if ds.length > 1 ∧ ds.head? = some '0' then none else some ds

/-- A sign, and the text behind it. -/
def signed : List Char → Bool × List Char
  | '-' :: r => (true, r)
  | '+' :: r => (false, r)
  | cs => (false, cs)

/-- An integer that fits into 128 bits, with or without a sign. -/
def bounded (n : Int) : Option Toml :=
  if -(Nat.pow 2 127 : Nat) ≤ n ∧ n < (Nat.pow 2 128 : Nat) then some (integer n) else none

/-- An integer. -/
def integer? : List Char → Option Toml
  | '0' :: 'x' :: r => do bounded (ofDigits 16 (← ungrouped (fun c => (hexDigit? c).isSome) false r))
  | '0' :: 'o' :: r => do bounded (ofDigits 8 (← ungrouped (fun c => '0' ≤ c ∧ c ≤ '7') false r))
  | '0' :: 'b' :: r => do bounded (ofDigits 2 (← ungrouped (fun c => c = '0' ∨ c = '1') false r))
  | cs => do
    let (negative, r) := signed cs
    let n : Int := ofDigits 10 (← decimalDigits? r)
    bounded (if negative then -n else n)

/-- The number `significand * 10 ^ exponent` rounds to a finite double. -/
def fitsDouble (significand : Nat) (exponent : Int) : Bool :=
  let bound := (Nat.pow 2 54 - 1) * Nat.pow 2 970
  let size := (Nat.toDigits 10 significand).length
  if significand = 0 ∨ size + exponent < 0 then true
  else if size + exponent > 400 then false
  else if 0 ≤ exponent then significand * Nat.pow 10 exponent.toNat < bound
  else significand < bound * Nat.pow 10 exponent.natAbs

/-- The fraction behind the whole part of a float, and the text behind it. -/
def fraction? : List Char → Option (List Char × List Char)
  | '.' :: r => do
    let isFraction := fun c => c != 'e' && c != 'E'
    return (← ungrouped Char.isDigit false (r.takeWhile isFraction), r.dropWhile isFraction)
  | cs => some ([], cs)

/-- The exponent at the end of a float. -/
def exponent? : List Char → Option Int
  | [] => some 0
  | c :: r =>
    if c = 'e' ∨ c = 'E' then do
      let (negative, r) := signed r
      let n : Int := ofDigits 10 (← ungrouped Char.isDigit false r)
      return if negative then -n else n
    else none

/-- A float: a number with a fraction, an exponent or both, or one of the special values. -/
def float? (cs : List Char) : Option Toml :=
  let (negative, r) := signed cs
  let isWhole := fun c => c != '.' && c != 'e' && c != 'E'
  if r = "inf".toList then some (float (.infinite negative))
  else if r = "nan".toList then some (float .nan)
  else if r.all isWhole then none
  else do
    let whole ← decimalDigits? (r.takeWhile isWhole)
    let (places, r) ← fraction? (r.dropWhile isWhole)
    let significand := ofDigits 10 (whole ++ places)
    let exponent := (← exponent? r) - places.length
    if fitsDouble significand exponent then some (float (.finite negative significand exponent)) else none

/-- A number. -/
def number? (cs : List Char) : Option Toml :=
  (integer? cs).or (float? cs)

/-! ## Dates and times -/

/-- Reads `n` digits of a number in a range. -/
def readField (n lo hi : Nat) (cs : List Char) : Option (Nat × List Char) :=
  let ds := cs.take n
  let v := ofDigits 10 ds
  if ds.length = n ∧ ds.all Char.isDigit ∧ lo ≤ v ∧ v ≤ hi then some (v, cs.drop n) else none

/-- Reads one expected character. -/
def readMark (marks : List Char) : List Char → Option (List Char)
  | c :: r => if marks.contains c then some r else none
  | [] => none

/-- The number of days of a month. -/
def daysOfMonth (year month : Nat) : Nat :=
  if month = 2 then (if year % 4 = 0 ∧ (year % 100 ≠ 0 ∨ year % 400 = 0) then 29 else 28)
  else if month = 4 ∨ month = 6 ∨ month = 9 ∨ month = 11 then 30
  else 31

/-- Reads a date and gives the text behind it. -/
def readDate (cs : List Char) : Option (List Char) := do
  let (year, r) ← readField 4 0 9999 cs
  let (month, r) ← readField 2 1 12 (← readMark ['-'] r)
  let (_, r) ← readField 2 1 (daysOfMonth year month) (← readMark ['-'] r)
  return r

/-- Reads the places behind a decimal point, if there is one. -/
def readPlaces : List Char → Option (List Char)
  | '.' :: r => if r.head?.any Char.isDigit then some (r.dropWhile Char.isDigit) else none
  | cs => some cs

/-- Reads a time of day, with or without seconds, and gives the text behind it. -/
def readTime (cs : List Char) : Option (List Char) := do
  let (_, r) ← readField 2 0 23 cs
  let (_, r) ← readField 2 0 59 (← readMark [':'] r)
  match readMark [':'] r with
  | none => return r
  | some r => do
    let (_, r) ← readField 2 0 60 r
    readPlaces r

/-- An offset from universal time, or none. -/
def isOffset (cs : List Char) : Bool :=
  cs.isEmpty || cs == ['Z'] || cs == ['z'] ||
    (do
      let (_, r) ← readField 2 0 23 (← readMark ['+', '-'] cs)
      let (_, r) ← readField 2 0 59 (← readMark [':'] r)
      return r) == some []

/-- A date, a time of day, or both. -/
def isMoment (cs : List Char) : Bool :=
  match readDate cs with
  | none => readTime cs == some []
  | some [] => true
  | some r => ((readMark ['T', 't', ' '] r).bind readTime).any isOffset

/-! ## Unquoted values -/

/-- A character that ends an unquoted value. -/
def endsBare (c : Char) : Bool :=
  isGapOrEnd c || ['#', ',', '=', '[', ']', '\x7b', '\x7d', '"', '\''].contains c

/-- Reads an unquoted text; a date may be followed by one space and a time of day. -/
def readBare (cs : List Char) : List Char × List Char :=
  let word := cs.takeWhile (!endsBare ·)
  let rest := cs.dropWhile (!endsBare ·)
  match readDate word, rest with
  | some [], ' ' :: d :: r =>
    if d.isDigit then (word ++ ' ' :: (d :: r).takeWhile (!endsBare ·), (d :: r).dropWhile (!endsBare ·))
    else (word, rest)
  | _, _ => (word, rest)

/-- The value of an unquoted text. -/
def ofBare (cs : List Char) : Option Toml :=
  if cs = "true".toList then some (boolean true)
  else if cs = "false".toList then some (boolean false)
  else if isMoment cs then some (moment (String.ofList cs))
  else number? cs

end Toml
end FluentSql

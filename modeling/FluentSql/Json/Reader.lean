import FluentSql.Json

/-!
# FluentSql.Json.Reader — reading documents

* `readText`: a quoted text; characters beyond the first 65536 may be escaped as two surrogates.
* `readNumber`: a number. Without point and exponent it is an integer if it fits into 64 bits, and a double otherwise.
* `readValue`: a document in which arrays and objects stand inside each other up to a given depth.
* `Json.parse`: the document that a text consists of.
-/

namespace FluentSql
namespace Json

open Numeral (ofDigits readHex length_of_readHex)

/-! ## Texts -/

/-- A character that may stand between the parts of a document. -/
def isFiller (c : Char) : Bool :=
  c == ' ' || c == '\n' || c == '\t' || c == '\r'

/-- The character that a letter behind a backslash stands for. -/
def escaped? : Char → Option Char
  | 'b' => some '\x08'
  | 't' => some '\t'
  | 'n' => some '\n'
  | 'f' => some '\x0c'
  | 'r' => some '\r'
  | '"' => some '"'
  | '\\' => some '\\'
  | '/' => some '/'
  | _ => none

/-- The second of two surrogates, and the text behind it. -/
def readLowSurrogate : List Char → Option (Nat × List Char)
  | '\\' :: 'u' :: r => readHex 4 r
  | _ => none

/-- Reads the digits of an escaped character. -/
def readCodeUnits (cs : List Char) : Option (Char × List Char) :=
  match readHex 4 cs with
  | none => none
  | some (high, r) =>
    if 0xd800 ≤ high ∧ high < 0xdc00 then
      match readLowSurrogate r with
      | none => none
      | some (low, r') =>
        if 0xdc00 ≤ low ∧ low < 0xe000 then
          some (Char.ofNat (0x10000 + (high - 0xd800) * 0x400 + (low - 0xdc00)), r')
        else none
    else if high.isValidChar then some (Char.ofNat high, r)
    else none

/-- Reads what follows a backslash. -/
def readEscape : List Char → Option (Char × List Char)
  | 'u' :: r => readCodeUnits r
  | c :: r => (escaped? c).map fun d => (d, r)
  | [] => none

theorem length_of_readLowSurrogate {cs rest : List Char} {v : Nat} (h : readLowSurrogate cs = some (v, rest)) :
    rest.length ≤ cs.length := by
  unfold readLowSurrogate at h
  split at h
  · have := length_of_readHex h
    simp; omega
  · simp at h

theorem length_of_readCodeUnits {cs rest : List Char} {c : Char} (h : readCodeUnits cs = some (c, rest)) :
    rest.length ≤ cs.length := by
  unfold readCodeUnits at h
  split at h
  · simp at h
  · rename_i high r hr
    have h1 := length_of_readHex hr
    split at h
    · split at h
      · simp at h
      · rename_i low r' hl
        have h2 := length_of_readLowSurrogate hl
        split at h <;> simp at h
        rw [← h.2]; omega
    · split at h <;> simp at h
      rw [← h.2]; exact h1

theorem length_of_readEscape {cs rest : List Char} {c : Char} (h : readEscape cs = some (c, rest)) :
    rest.length < cs.length := by
  unfold readEscape at h
  split at h
  · exact Nat.lt_succ_of_le (length_of_readCodeUnits h)
  · obtain ⟨d, _, hd⟩ := Option.map_eq_some_iff.1 h
    simp at hd
    simp [← hd.2]
  · simp at h

/-- Reads a text up to its closing quote. -/
def readText (cs : List Char) : Option (List Char × List Char) :=
  match cs with
  | [] => none
  | '"' :: r => some ([], r)
  | '\\' :: r =>
    match _h : readEscape r with
    | none => none
    | some (d, r') => (readText r').map fun (text, rest) => (d :: text, rest)
  | c :: r => if c.toNat < 0x20 then none else (readText r).map fun (text, rest) => (c :: text, rest)
termination_by cs.length
decreasing_by
  · have := length_of_readEscape _h; simp; omega
  · simp

/-! ## Numbers -/

/-- The number `f * 10 ^ exponent`, scaled by at most 308 places at a time. -/
def scaled (f : Float) (exponent : Int) : Float :=
  if f == 0.0 then f
  else if 0 ≤ exponent then f * Float.ofScientific 1 false exponent.natAbs
  else if exponent.natAbs ≤ 308 then f / Float.ofScientific 1 false exponent.natAbs
  else scaled (f / 1e308) (exponent + 308)
termination_by exponent.natAbs

/-- The double next to `significand * 10 ^ exponent`, up to the error of one division or multiplication. -/
def double (negative : Bool) (significand : Nat) (exponent : Int) : JsonNumber :=
  let f := scaled (UInt64.ofNat significand).toFloat exponent
  .double ⟨(if negative then -f else f).toBits⟩

/-- Appends digits to a significand while it fits into 64 bits; gives also the number of digits left out. -/
def appendDigits (start : Nat) (ds : List Char) : Nat × Nat :=
  ds.foldl (fun (s, skipped) d =>
    let t := ofDigits 10 [d] + s * 10
    if skipped = 0 ∧ t < Nat.pow 2 64 then (t, 0) else (s, skipped + 1)) (start, 0)

/-- The number of a whole part without fraction and exponent. -/
def ofWhole (negative : Bool) (whole : List Char) : JsonNumber :=
  let (s, skipped) := appendDigits 0 whole
  if skipped > 0 then double negative s skipped
  else if !negative then .natural (UInt64.ofNat s)
  else if s = 0 ∨ s > Nat.pow 2 63 then double true s 0
  else .negative (Int64.ofInt (-s))

/-- The number of a whole part, a fraction and an exponent. -/
def ofParts (negative : Bool) (whole fraction : List Char) (exponent : Int) : JsonNumber :=
  let (s, skipped) := appendDigits 0 whole
  if skipped > 0 then double negative s (exponent + skipped)
  else
    let (s', lost) := appendDigits s fraction
    double negative s' (exponent - (fraction.length - lost : Nat))

/-- A sign, and the text behind it. -/
def readSign (plus : Bool) : List Char → Bool × List Char
  | '-' :: r => (true, r)
  | '+' :: r => if plus then (false, r) else (false, '+' :: r)
  | cs => (false, cs)

/-- At least one digit, and the text behind the digits. -/
def readDigits (cs : List Char) : Option (List Char × List Char) :=
  let ds := cs.takeWhile Char.isDigit
  if ds.isEmpty then none else some (ds, cs.dropWhile Char.isDigit)

/-- The digits behind a point, if there is one. -/
def readFraction : List Char → Option (Option (List Char) × List Char)
  | '.' :: r => do
    let (ds, r) ← readDigits r
    return (some ds, r)
  | cs => some (none, cs)

/-- An exponent, if there is one. -/
def readExponent : List Char → Option (Option Int × List Char)
  | c :: r =>
    if c = 'e' ∨ c = 'E' then do
      let (negative, r) := readSign true r
      let (ds, r) ← readDigits r
      let n : Int := ofDigits 10 ds
      return (some (if negative then -n else n), r)
    else some (none, c :: r)
  | [] => some (none, [])

/-- Reads a number. -/
def readNumber (cs : List Char) : Option (JsonNumber × List Char) := do
  let (negative, r) := readSign false cs
  let (whole, r) ← readDigits r
  if whole.length > 1 ∧ whole.head? = some '0' then none
  let (fraction, r) ← readFraction r
  let (exponent, r) ← readExponent r
  match fraction, exponent with
  | none, none => return (ofWhole negative whole, r)
  | _, _ => return (ofParts negative whole (fraction.getD []) (exponent.getD 0), r)

/-! ## Documents -/

/-- Reads items with commas between them, up to a closing mark. -/
def readItems {β : Type} (item : List Char → Option (β × List Char)) (closing : Char) (cs : List Char) :
    Option (List β × List Char) :=
  match item cs with
  | none => none
  | some (x, r) =>
    match r.dropWhile isFiller with
    | [] => none
    | c :: r' =>
      if c = closing then some ([x], r')
      else if c = ',' ∧ r'.length < cs.length then
        (readItems item closing r').map fun (xs, rest) => (x :: xs, rest)
      else none
termination_by cs.length

/-- Reads items up to a closing mark, or none. -/
def readItemsOrNone {β : Type} (item : List Char → Option (β × List Char)) (closing : Char) (cs : List Char) :
    Option (List β × List Char) :=
  match cs.dropWhile isFiller with
  | [] => none
  | c :: r => if c = closing then some ([], r) else readItems item closing (c :: r)

/-- Reads a name and its value. -/
def readMember (value : List Char → Option (Json × List Char)) (cs : List Char) :
    Option ((String × Json) × List Char) :=
  match cs.dropWhile isFiller with
  | '"' :: r => do
    let (name, r) ← readText r
    match r.dropWhile isFiller with
    | ':' :: r => do
      let (v, r) ← value r
      return ((String.ofList name, v), r)
    | _ => none
  | _ => none

/-- Reads a document in which at most `depth` arrays and objects stand inside each other. -/
def readValue : Nat → List Char → Option (Json × List Char)
  | depth, cs =>
    match cs.dropWhile isFiller with
    | 'n' :: 'u' :: 'l' :: 'l' :: r => some (null, r)
    | 't' :: 'r' :: 'u' :: 'e' :: r => some (bool true, r)
    | 'f' :: 'a' :: 'l' :: 's' :: 'e' :: r => some (bool false, r)
    | '"' :: r => (readText r).map fun (text, rest) => (string (String.ofList text), rest)
    | '[' :: r =>
      match depth with
      | 0 => none
      | depth + 1 => (readItemsOrNone (readValue depth) ']' r).map fun (items, rest) => (array items, rest)
    | '\x7b' :: r =>
      match depth with
      | 0 => none
      | depth + 1 =>
        (readItemsOrNone (readMember (readValue depth)) '\x7d' r).map fun (ms, rest) => (ofMembers ms, rest)
    | r => (readNumber r).map fun (n, rest) => (number n, rest)

/-- The document that a text consists of. -/
def parse (s : String) : Option Json := do
  let (j, rest) ← readValue s.length s.toList
  if rest.all isFiller then some j else none

end Json
end FluentSql

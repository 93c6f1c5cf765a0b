import FluentSql.Text.CaseTable

/-!
# FluentSql.Text.LetterCase — letter case in all scripts

* `isUpper`, `isLower`: the case of a letter.
* `lowerChar`, `upperChar`: the mappings of one character, which may take several.
* `lowerText`, `upperText`: the mappings of a whole text; a sigma at the end of a word takes its final form.
* `lowerWord`, `upperWord`, `capitalize`: the mappings of one word, where only a last sigma is final.
-/

namespace FluentSql
namespace Text

/-! ## The case of a letter -/

/-- Membership in a list of runs. -/
def inRuns (runs : List (Nat × Nat × Nat)) (n : Nat) : Bool :=
  runs.any fun (lo, hi, step) => lo ≤ n && n ≤ hi && (n - lo) % step == 0

/-- An upper case letter. -/
def isUpper (c : Char) : Bool :=
  if c.toNat < 0x80 then c.isUpper else inRuns uppercase c.toNat

/-- A lower case letter. -/
def isLower (c : Char) : Bool :=
  if c.toNat < 0x80 then c.isLower else inRuns lowercase c.toNat

/-- A letter of upper, lower or title case. -/
def isCased (c : Char) : Bool :=
  isUpper c || isLower c || inRuns titlecase c.toNat

/-! ## Mappings of one character -/

/-- The image of `n` under a list of shifted runs, `n` itself outside them. -/
def shifted (runs : List (Nat × Nat × Nat × Nat)) (n : Nat) : Nat :=
  match runs.find? fun (lo, hi, step, _) => lo ≤ n && n ≤ hi && (n - lo) % step == 0 with
  | some (lo, _, _, image) => image + (n - lo)
  | none => n

/-- The image of a character: an expansion if it has one, else its shift. -/
def mapped (expansions : List (Nat × List Nat)) (runs : List (Nat × Nat × Nat × Nat)) (c : Char) : List Char :=
  match expansions.find? fun (n, _) => n == c.toNat with
  | some (_, image) => image.map Char.ofNat
  | none => [Char.ofNat (shifted runs c.toNat)]

/-- The lower case form of a character. -/
def lowerChar (c : Char) : List Char :=
  if c.toNat < 0x80 then [c.toLower] else mapped lowerExpansions lowerShifts c

/-- The upper case form of a character. -/
def upperChar (c : Char) : List Char :=
  if c.toNat < 0x80 then [c.toUpper] else mapped upperExpansions upperShifts c

/-! ## Mappings of a text -/

/-- The first character that is not skipped when looking for a cased letter is one. -/
def meetsCased (cs : List Char) : Bool :=
  match cs.dropWhile fun c => inRuns caseIgnorable c.toNat with
  | c :: _ => isCased c
  | [] => false

/-- Lower case, with the characters already passed in reverse order. -/
def lowerFrom (passed : List Char) : List Char → List Char
  | [] => []
  | c :: r =>
    let image := if c = 'Σ' then [if meetsCased passed && !meetsCased r then 'ς' else 'σ'] else lowerChar c
    image ++ lowerFrom (c :: passed) r

/-- The lower case form of a text. -/
def lowerText (s : String) : String :=
  String.ofList (lowerFrom [] s.toList)

/-- The upper case form of a text. -/
def upperText (s : String) : String :=
  String.ofList (s.toList.flatMap upperChar)

/-! ## Mappings of a word -/

/-- The lower case form of a word: a sigma is final exactly at its end. -/
def lowerWord : List Char → List Char
  | [] => []
  | ['Σ'] => ['ς']
  | c :: r => lowerChar c ++ lowerWord r

/-- The upper case form of a word. -/
def upperWord (cs : List Char) : List Char :=
  cs.flatMap upperChar

/-- The first character in upper case, the rest in lower case. -/
def capitalize : List Char → List Char
  | [] => []
  | c :: r => upperChar c ++ lowerWord r

end Text
end FluentSql

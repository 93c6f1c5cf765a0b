/-!
# FluentSql.Ident — dotted identifiers and their back-tick quoted form

* `Ident.parse`: reads parts separated by dots; a part is a run of plain characters or stands in back-ticks, where a
  back-tick is written twice.
* `Ident.quoted`: one part, taken as it is.
* `Ident.sql`: every part in back-ticks.
* `IdentFault`: why a text is no identifier; `IdentFault.message` is its wording.
-/

namespace FluentSql

/-- A column, table or schema name, possibly dotted. -/
structure Ident where
  parts : List String
  deriving DecidableEq, Repr

/-- Why a text is no identifier. -/
inductive IdentFault where
  /-- There is no text at all. -/
  | empty
  /-- The text contains the character NUL. -/
  | nul
  /-- There is nothing between two back-ticks. -/
  | emptyQuoted
  /-- Nothing follows the last dot. -/
  | trailingDot
  /-- Something other than a dot follows a part. -/
  | missingDot (found : Char)
  /-- A back-tick is not closed. -/
  | unclosedQuote
  /-- A character outside back-ticks is not plain. -/
  | invalidChar (found : Char)
  /-- There is nothing between two dots. -/
  | emptySegment
  deriving DecidableEq, Repr

/-- The wording of a fault of `text`. -/
def IdentFault.message (text : String) : IdentFault → String
  | .empty => "identifier cannot be empty"
  | .nul => "identifier cannot contain NUL character"
  | .emptyQuoted => "empty quoted identifier"
  | .trailingDot => s!"trailing '.' in `{text}`"
  | .missingDot found => s!"expected '.' between parts of `{text}`, got '{found}'"
  | .unclosedQuote => s!"unclosed quote in `{text}`"
  | .invalidChar found => s!"invalid character '{found}' in `{text}`"
  | .emptySegment => s!"empty identifier segment in `{text}`"

namespace Ident

/-! ## Reading -/

/-- A character that may stand outside back-ticks: ASCII letters and digits, `_`, `$` and everything beyond ASCII. -/
def isPlain (c : Char) : Bool :=
  c == '_' || c == '$' || c.isAlphanum || 0x80 ≤ c.toNat

/-- Reads to the closing back-tick. A doubled back-tick stands for one. -/
def readQuoted : List Char → Except IdentFault (List Char × List Char)
  | [] => .error .unclosedQuote
  | '`' :: '`' :: r => (readQuoted r).map fun (name, rest) => ('`' :: name, rest)
  | '`' :: r => .ok ([], r)
  | c :: r => (readQuoted r).map fun (name, rest) => (c :: name, rest)

/-- Reads plain characters up to a dot or the end. -/
def readPlain : List Char → Except IdentFault (List Char × List Char)
  | [] => .ok ([], [])
  | '.' :: r => .ok ([], '.' :: r)
  | c :: r => if isPlain c then (readPlain r).map fun (name, rest) => (c :: name, rest) else .error (.invalidChar c)

/-- Reads one part, which is not empty. -/
def readPart : List Char → Except IdentFault (List Char × List Char)
  | '`' :: r => do
    let (name, rest) ← readQuoted r
    if name.isEmpty then .error .emptyQuoted else .ok (name, rest)
  | cs => do
    let (name, rest) ← readPlain cs
    if name.isEmpty then .error .emptySegment else .ok (name, rest)

theorem ok_of_map {ε α β : Type} {f : α → β} {x : Except ε α} {b : β} (h : x.map f = .ok b) :
    ∃ a, x = .ok a ∧ f a = b := by
  cases x with
  | error e => cases h
  | ok a => exact ⟨a, rfl, Except.ok.inj h⟩

theorem length_of_readQuoted (cs name rest : List Char) (h : readQuoted cs = .ok (name, rest)) :
    rest.length ≤ cs.length := by
  fun_induction readQuoted cs generalizing name with
  | case1 => cases h
  | case2 r ih =>
    obtain ⟨⟨inner, behind⟩, hr, hp⟩ := ok_of_map h
    cases hp
    exact Nat.le_trans (ih inner hr) (by simp; omega)
  | case3 r =>
    cases h
    simp
  | case4 c r _ _ ih =>
    obtain ⟨⟨inner, behind⟩, hr, hp⟩ := ok_of_map h
    cases hp
    exact Nat.le_succ_of_le (ih inner hr)

theorem length_of_readPlain (cs name rest : List Char) (h : readPlain cs = .ok (name, rest)) :
    rest.length ≤ cs.length := by
  fun_induction readPlain cs generalizing name with
  | case1 =>
    cases h
    exact Nat.le_refl _
  | case2 r =>
    cases h
    exact Nat.le_refl _
  | case3 c r _ _ ih =>
    obtain ⟨⟨inner, behind⟩, hr, hp⟩ := ok_of_map h
    cases hp
    exact Nat.le_succ_of_le (ih inner hr)
  | case4 => cases h

theorem length_of_readPart {cs name rest : List Char} (h : readPart cs = .ok (name, rest)) :
    rest.length ≤ cs.length := by
  unfold readPart at h
  split at h
  · rename_i r
    cases hr : readQuoted r with
    | error e => rw [hr] at h; cases h
    | ok p =>
      rw [hr] at h
      simp only [bind, Except.bind] at h
      split at h
      · cases h
      · cases h
        exact Nat.le_succ_of_le (length_of_readQuoted r p.1 p.2 hr)
  · cases hr : readPlain cs with
    | error e => rw [hr] at h; cases h
    | ok p =>
      rw [hr] at h
      simp only [bind, Except.bind] at h
      split at h
      · cases h
      · cases h
        exact length_of_readPlain cs p.1 p.2 hr

/-- Reads parts separated by dots, up to the end. -/
def readParts (cs : List Char) : Except IdentFault (List (List Char)) :=
  match _h : readPart cs with
  | .error e => .error e
  | .ok (name, []) => .ok [name]
  | .ok (_, ['.']) => .error .trailingDot
  | .ok (name, '.' :: r) => (readParts r).map (name :: ·)
  | .ok (_, c :: _) => .error (.missingDot c)
termination_by cs.length
decreasing_by
  have := length_of_readPart _h
  simp at this
  omega

/-- Reads a dotted identifier. -/
def parse (s : String) : Except IdentFault Ident :=
  if s.isEmpty then .error .empty
  else if s.toList.contains '\x00' then .error .nul
  else (readParts s.toList).map fun parts => ⟨parts.map String.ofList⟩

/-- An identifier of one part, dots and all. -/
def quoted (name : String) : Except IdentFault Ident :=
  if name.isEmpty then .error .emptyQuoted
  else if name.toList.contains '\x00' then .error .nul
  else .ok ⟨[name]⟩

/-! ## Writing -/

/-- A back-tick is written twice. -/
def doubled : List Char → List Char
  | [] => []
  | c :: r => if c = '`' then '`' :: '`' :: doubled r else c :: doubled r

/-- One part in back-ticks. -/
def partSql (part : String) : String :=
  String.ofList ('`' :: (doubled part.toList ++ ['`']))

/-- Every part in back-ticks, joined by dots. -/
def sql (i : Ident) : String :=
  ".".intercalate (i.parts.map partSql)

end Ident
end FluentSql

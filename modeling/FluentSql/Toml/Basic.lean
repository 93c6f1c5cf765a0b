/-!
# FluentSql.Toml.Basic — TOML documents and how their tables grow

* `Toml`: the values of a document; a table remembers how it came about, which decides how it may be extended.
* `Toml.addPair`: adds a value under a dotted key; a key stands only once.
* `Toml.openTable`, `Toml.openElement`: what the headers `[a.b]` and `[[a.b]]` do.
* `Toml.inTable`: changes the table that a header opened last.
-/

namespace FluentSql

/-! ## Values -/

/-- How a table came about. -/
inductive TableOrigin where
  /-- By a header of its own. -/
  | header
  /-- As a part of the path of a header. -/
  | implied
  /-- As a part of a dotted key. -/
  | dotted
  /-- In braces; it cannot be extended. -/
  | inline
  deriving DecidableEq, Repr

/-- A floating-point literal. -/
inductive TomlFloat where
  | nan
  | infinite (negative : Bool)
  /-- The number `significand * 10 ^ exponent`, with its sign. -/
  | finite (negative : Bool) (significand : Nat) (exponent : Int)
  deriving DecidableEq, Repr

/-- A value of a document. -/
inductive Toml where
  | string (s : String)
  | integer (n : Int)
  | float (x : TomlFloat)
  | boolean (b : Bool)
  /-- A date, a time of day or both, as it is written. -/
  | moment (text : String)
  | array (items : List Toml)
  | table (origin : TableOrigin) (members : List (String × Toml))
  /-- The tables of headers in double brackets. -/
  | tables (elements : List (List (String × Toml)))
  deriving Repr

namespace Toml

/-- The members of a table. -/
abbrev Members : Type :=
  List (String × Toml)

/-- The value under a name. -/
def Members.get? (ms : Members) (name : String) : Option Toml :=
  (ms.find? (·.1 == name)).map (·.2)

/-! ## Changing a member -/

/-- Changes the value under a name, or adds one at the end. -/
def alter (name : String) (change : Option Toml → Option Toml) : Members → Option Members
  | [] => do return [(name, ← change none)]
  | (other, v) :: ms =>
    if other = name then do return (name, ← change (some v)) :: ms
    else do return (other, v) :: (← alter name change ms)

/-- A table on the way to a member, and the value it becomes when its members change. -/
structure Passage where
  members : Members
  origin : TableOrigin
  rebuild : Members → Toml

/-- The passage through a value: a table, or the last one of several. -/
def passage (missing : TableOrigin) : Option Toml → Option Passage
  | none => some ⟨[], missing, table missing⟩
  | some (table origin ms) => some ⟨ms, origin, table origin⟩
  | some (tables es) => do
    let last ← es.getLast?
    return ⟨last, .header, fun ms => tables (es.dropLast ++ [ms])⟩
  | some _ => none

/-- The passage of a header, which may go through any table that is not in braces. -/
def headerPassage (v : Option Toml) : Option Passage := do
  let p ← passage .implied v
  if p.origin = .inline then none else some p

/-- The passage of a dotted key, which may not go through a table that is defined elsewhere. -/
def dottedPassage (v : Option Toml) : Option Passage := do
  let p ← passage .dotted v
  match v, p.origin with
  | some (table _ _), .header | some (table _ _), .inline => none
  | _, _ => some p

/-! ## Pairs and headers -/

/-- A new value, where there is none yet. -/
def fresh (v : Toml) : Option Toml → Option Toml
  | none => some v
  | some _ => none

/-- Adds a value under the key that is left after a dotted prefix; `allowed` says whether the table reached so far
may hold it. -/
def addUnder (allowed : Bool) : List String → Toml → Members → Option Members
  | [], _, _ => none
  | [name], v, ms => if allowed then alter name (fresh v) ms else none
  | name :: key, v, ms =>
    alter name (fun old => do
      let p ← dottedPassage old
      return p.rebuild (← addUnder (p.origin = .dotted) key v p.members)) ms

/-- Adds a value under a dotted key. -/
def addPair (key : List String) (v : Toml) (ms : Members) : Option Members :=
  addUnder true key v ms

/-- Changes the table at the end of a path of headers. -/
def inTable : List String → (Members → Option Members) → Members → Option Members
  | [], change, ms => change ms
  | name :: path, change, ms =>
    alter name (fun old => do
      let p ← headerPassage old
      return p.rebuild (← inTable path change p.members)) ms

/-- Defines a table that no header has defined before. -/
def define : Option Toml → Option Toml
  | none => some (table .header [])
  | some (table .implied ms) => some (table .header ms)
  | some _ => none

/-- Adds one more table to those of a header in double brackets. -/
def extend : Option Toml → Option Toml
  | none => some (tables [[]])
  | some (tables es) => some (tables (es ++ [[]]))
  | some _ => none

/-- Changes the value at the end of a header. -/
def atHeader (change : Option Toml → Option Toml) (path : List String) (ms : Members) : Option Members := do
  let name ← path.getLast?
  inTable path.dropLast (alter name change) ms

/-- The header `[path]`. -/
def openTable (path : List String) (ms : Members) : Option Members :=
  atHeader define path ms

/-- The header `[[path]]`. -/
def openElement (path : List String) (ms : Members) : Option Members :=
  atHeader extend path ms

end Toml
end FluentSql

import FluentSql.Numeral.Digits
import FluentSql.Numeral.FloatText

/-!
# FluentSql.Json — embedded documents

* `Json`: a document; the members of an object stand in ascending order of their names, each name once.
* `Json.text`: the compact text of a document.
-/

namespace FluentSql

/-- A number of a document: integers of 64 bits and doubles are told apart. -/
inductive JsonNumber where
  | natural (n : UInt64)
  | negative (n : Int64)
  | double (x : Binary64)
  deriving DecidableEq, Repr

/-- A document. -/
inductive Json where
  | null
  | bool (b : Bool)
  | number (n : JsonNumber)
  | string (s : String)
  | array (items : List Json)
  | object (members : List (String × Json))
  deriving Repr, Inhabited

namespace Json

/-! ## Text -/

/-- Doubles keep a point or an exponent, so that they read back as doubles. -/
def floatStyle : Numeral.FloatStyle :=
  { positional := fun e => -5 ≤ e ∧ e ≤ 15, pointZero := true, plusSign := true, tie := .even }

/-- The text of a number. -/
def numberText : JsonNumber → String
  | .natural n => toString n.toNat
  | .negative n => toString n.toInt
  | .double x => floatStyle.write x

/-- One character inside a quoted text; only quotes, backslashes and controls are escaped. -/
def escapeChar (c : Char) : String :=
  if c = '"' then "\\\""
  else if c = '\\' then "\\\\"
  else if c = '\n' then "\\n"
  else if c = '\r' then "\\r"
  else if c = '\t' then "\\t"
  else if c.toNat = 8 then "\\b"
  else if c.toNat = 12 then "\\f"
  else if c.toNat < 32 then "\\u" ++ Numeral.hexPadded 4 c.toNat
  else c.toString

/-- A quoted text. -/
def quoted (s : String) : String :=
  "\"" ++ String.join (s.toList.map escapeChar) ++ "\""

mutual

/-- The compact text of a document. -/
def text : Json → String
  | .null => "null"
  | .bool b => if b then "true" else "false"
  | .number n => numberText n
  | .string s => quoted s
  | .array items => "[" ++ ",".intercalate (itemTexts items) ++ "]"
  | .object members => "\x7b" ++ ",".intercalate (memberTexts members) ++ "\x7d"

/-- The texts of the items of an array. -/
def itemTexts : List Json → List String
  | [] => []
  | j :: js => text j :: itemTexts js

/-- The texts of the members of an object. -/
def memberTexts : List (String × Json) → List String
  | [] => []
  | (name, j) :: ms => (quoted name ++ ":" ++ text j) :: memberTexts ms

end

/-! ## Objects -/

/-- Puts a member in its place by name; a member of the same name is replaced. -/
def insertMember {α : Type} (name : String) (a : α) : List (String × α) → List (String × α)
  | [] => [(name, a)]
  | (other, b) :: ms =>
    if name < other then (name, a) :: (other, b) :: ms
    else if name = other then (name, a) :: ms
    else (other, b) :: insertMember name a ms

/-- Members in ascending order of their names; the last one of a name counts. -/
def sortMembers {α : Type} (ms : List (String × α)) : List (String × α) :=
  ms.foldl (fun sorted (name, a) => insertMember name a sorted) []

/-- The object of a list of members in any order; the last one of a name counts. -/
def ofMembers (ms : List (String × Json)) : Json :=
  .object (sortMembers ms)

/-- The document `null`. -/
def isNull : Json → Bool
  | .null => true
  | _ => false

end Json
end FluentSql

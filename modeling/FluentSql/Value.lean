import FluentSql.Calendar
import FluentSql.Json

/-!
# FluentSql.Value — values bound to a statement

* `Value`: what stands behind one `?` of a compiled statement.
* `ValueKind`: the kind of a value, by which fields are kept in a patch.
* `Value.isZero`: the zero or empty value of its kind.
* `Value.ofJson`: the value of a member of a document.
* `Uuid`, `FixedDecimal`: identifiers of 128 bits and decimals of fixed scale, with their texts.
-/

namespace FluentSql

/-! ## Identifiers of 128 bits and decimals -/

/-- A universally unique identifier. -/
structure Uuid where
  bits : BitVec 128
  deriving DecidableEq, Repr

/-- Lower case hexadecimal digits in groups of 8, 4, 4, 4 and 12. -/
def Uuid.text (u : Uuid) : String :=
  let ds := (Nat.toDigits 16 u.bits.toNat).leftpad 32 '0'
  let group (start size : Nat) := String.ofList ((ds.drop start).take size)
  "-".intercalate [group 0 8, group 8 4, group 12 4, group 16 4, group 20 12]

/-- The decimal `mantissa / 10 ^ scale`. -/
structure FixedDecimal where
  mantissa : Int
  scale : Nat
  deriving DecidableEq, Repr

/-- All digits of the scale are written, zeros included. -/
def FixedDecimal.text (d : FixedDecimal) : String :=
  let ds := (Nat.toDigits 10 d.mantissa.natAbs).leftpad (d.scale + 1) '0'
  let whole := ds.take (ds.length - d.scale)
  let places := ds.drop (ds.length - d.scale)
  (if d.mantissa < 0 then "-" else "") ++ String.ofList (if places.isEmpty then whole else whole ++ '.' :: places)

/-! ## Values -/

/-- A value bound to a statement. -/
inductive Value where
  | null
  | bool (b : Bool)
  | int (n : Int64)
  | uint (n : UInt64)
  | float (x : Binary64)
  | text (s : String)
  | bytes (bs : List UInt8)
  | date (d : Date)
  | time (t : TimeOfDay)
  | dateTime (d : Date) (t : TimeOfDay)
  | timestamp (i : Instant)
  | uuid (u : Uuid)
  | json (j : Json)
  | decimal (d : FixedDecimal)
  deriving Repr

/-- The kind of a value. -/
inductive ValueKind where
  | null
  | bool
  | int
  | uint
  | float
  | text
  | bytes
  | date
  | time
  | dateTime
  | timestamp
  | uuid
  | json
  | decimal
  deriving DecidableEq, Repr

namespace ValueKind

/-- The name of a kind. -/
def name : ValueKind → String
  | .null => "Null"
  | .bool => "Bool"
  | .int => "Int"
  | .uint => "UInt"
  | .float => "Float"
  | .text => "Text"
  | .bytes => "Bytes"
  | .date => "Date"
  | .time => "Time"
  | .dateTime => "DateTime"
  | .timestamp => "Timestamp"
  | .uuid => "Uuid"
  | .json => "Json"
  | .decimal => "Decimal"

end ValueKind

namespace Value

/-- The kind of a value. -/
def kind : Value → ValueKind
  | .null => .null
  | .bool _ => .bool
  | .int _ => .int
  | .uint _ => .uint
  | .float _ => .float
  | .text _ => .text
  | .bytes _ => .bytes
  | .date _ => .date
  | .time _ => .time
  | .dateTime _ _ => .dateTime
  | .timestamp _ => .timestamp
  | .uuid _ => .uuid
  | .json _ => .json
  | .decimal _ => .decimal

/-- The zero or empty value of its kind. Dates and instants are zero at the start of 1970, times at midnight,
documents when `null`; a zero double may have either sign. -/
def isZero : Value → Bool
  | .null => true
  | .bool b => !b
  | .int n => n == 0
  | .uint n => n == 0
  | .float x => x.isZero
  | .text s => s.isEmpty
  | .bytes bs => bs.isEmpty
  | .date d => d == ⟨1970, 1, 1⟩
  | .time t => t == ⟨0, 0, 0, 0⟩
  | .dateTime d t => d == ⟨1970, 1, 1⟩ && t == ⟨0, 0, 0, 0⟩
  | .timestamp i => i == ⟨0, 0⟩
  | .uuid u => u.bits == 0
  | .json j => j.isNull
  | .decimal d => d.mantissa == 0

/-- The value `NULL`. -/
def isNull : Value → Bool
  | .null => true
  | _ => false

/-- The value of a member of a document: numbers become signed integers if they fit, then unsigned ones, then
doubles; arrays and objects stay documents. -/
def ofJson : Json → Value
  | .null => .null
  | .bool b => .bool b
  | .number (.natural n) => if n.toNat < Nat.pow 2 63 then .int (Int64.ofNat n.toNat) else .uint n
  | .number (.negative n) => .int n
  | .number (.double x) => .float x
  | .string s => .text s
  | j => .json j

/-- The text of a text value. -/
def text? : Value → Option String
  | .text s => some s
  | _ => none

end Value
end FluentSql

import FluentSql.Error
import FluentSql.Value

/-!
# FluentSql.Schema.Literal — values written into a table definition

Nothing of a table definition is bound, so values stand in its text.

* `stringLiteral`: a text between single quotes, quotes doubled and backslashes escaped.
* `Value.literal`: the literal of a value; bytes have none.
-/

namespace FluentSql

/-! ## Text -/

/-- The inside of a string literal. -/
def literalBody : List Char → List Char
  | [] => []
  | c :: r =>
    if c = '\'' then '\'' :: '\'' :: literalBody r
    else if c = '\\' then '\\' :: '\\' :: literalBody r
    else c :: literalBody r

/-- A text between single quotes. -/
def stringLiteral (s : String) : String :=
  String.ofList ('\'' :: (literalBody s.toList ++ ['\'']))

/-! ## Values -/

/-- Doubles in a table definition never have an exponent, nor a point without places. -/
def literalFloat : Numeral.FloatStyle :=
  { positional := fun _ => true, pointZero := false, plusSign := false, tie := .upper }

/-- The literal of a value. Numbers stand by themselves, dates and documents as texts. -/
def Value.literal : Value → Except SqlError String
  | .null => .ok "NULL"
  | .bool b => .ok (if b then "1" else "0")
  | .int n => .ok (toString n.toInt)
  | .uint n => .ok (toString n.toNat)
  | .float x => .ok (literalFloat.write x)
  | .text s => .ok (stringLiteral s)
  | .bytes _ => .error (.schema "binary defaults cannot be inlined")
  | .date d => .ok (stringLiteral d.text)
  | .time t => .ok (stringLiteral t.text)
  | .dateTime d t => .ok (stringLiteral (secondText d t))
  | .timestamp i => .ok (stringLiteral (secondText i.date i.time))
  | .uuid u => .ok (stringLiteral u.text)
  | .json j => .ok (stringLiteral j.text)
  | .decimal d => .ok d.text

end FluentSql

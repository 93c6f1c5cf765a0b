import FluentSql.Numeral.Digits
import FluentSql.Text.Printable

/-!
# FluentSql.Text.Escaped — texts quoted for a message

* `escapeChar`: quotes, backslashes and characters that are not shown as themselves are written with a backslash.
* `inQuotes`: a text between double quotes, escaped.
-/

namespace FluentSql
namespace Text

/-- One character of a quoted text. -/
def escapeChar (c : Char) : String :=
  if c = '"' then "\\\""
  else if c = '\\' then "\\\\"
  else if c = '\n' then "\\n"
  else if c = '\r' then "\\r"
  else if c = '\t' then "\\t"
  else if c.toNat = 0 then "\\0"
  else if isPrintable c then c.toString
  else "\\u\x7b" ++ Numeral.hexPadded 1 c.toNat ++ "\x7d"

/-- A text between double quotes. -/
def inQuotes (s : String) : String :=
  "\"" ++ String.join (s.toList.map escapeChar) ++ "\""

/-- Items between brackets. -/
def inBrackets (items : List String) : String :=
  "[" ++ ", ".intercalate items ++ "]"

end Text
end FluentSql

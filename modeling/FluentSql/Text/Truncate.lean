/-!
# FluentSql.Text.Truncate — cutting a text to a number of bytes

* `takeBytes`: the longest prefix whose UTF-8 encoding fits into a number of bytes.
* `abbreviate`: a text that fits unchanged, any other one cut and marked with `...`.
-/

namespace FluentSql
namespace Text

/-- The longest prefix of a character list that takes at most `n` bytes in UTF-8. -/
def takeChars : Nat → List Char → List Char
  | _, [] => []
  | n, c :: r => if c.utf8Size ≤ n then c :: takeChars (n - c.utf8Size) r else []

/-- The longest prefix of a text that takes at most `n` bytes; no character is cut. -/
def takeBytes (n : Nat) (s : String) : String :=
  String.ofList (takeChars n s.toList)

/-- A text of at most `limit` bytes unchanged, a longer one cut to `limit` bytes and followed by `...`. -/
def abbreviate (limit : Nat) (s : String) : String :=
  if s.utf8ByteSize ≤ limit then s else takeBytes limit s ++ "..."

end Text
end FluentSql

/-!
# FluentSql.Text.Blank — blanks, words and the normal form of keywords

* `isBlank`: the white-space characters.
* `trim`: a text without the blanks at its ends.
* `words`: the maximal blank-free runs of a text.
* `keywordForm`: words joined by one space, ASCII letters in upper case; the form in which keywords are compared.
-/

namespace FluentSql
namespace Text

/-! ## Blanks -/

/-- White space: the tab-to-return controls, the spaces, the line and paragraph separators. -/
def isBlank (c : Char) : Bool :=
  let n := c.toNat
  (0x9 ≤ n && n ≤ 0xd) || n == 0x20 || n == 0x85 || n == 0xa0 || n == 0x1680 || (0x2000 ≤ n && n ≤ 0x200a) ||
    n == 0x2028 || n == 0x2029 || n == 0x202f || n == 0x205f || n == 0x3000

/-- Drops the blanks at both ends of a character list. -/
def trimChars (cs : List Char) : List Char :=
  ((cs.dropWhile isBlank).reverse.dropWhile isBlank).reverse

/-- A text without the blanks at its ends. -/
def trim (s : String) : String :=
  String.ofList (trimChars s.toList)

/-! ## Words -/

/-- Cuts a list at every element that satisfies `p`; the cutting elements are lost, empty parts are kept. -/
def splitWhere (p : Char → Bool) : List Char → List (List Char)
  | [] => [[]]
  | c :: r =>
    if p c then [] :: splitWhere p r
    else
      match splitWhere p r with
      | [] => [[c]]
      | w :: ws => (c :: w) :: ws

/-- Cutting a list loses only the elements at which it is cut. -/
theorem flatten_splitWhere (p : Char → Bool) (cs : List Char) :
    (splitWhere p cs).flatten = cs.filter fun c => !p c := by
  induction cs with
  | nil => rfl
  | cons c cs ih =>
    rw [splitWhere]
    by_cases hc : p c = true
    · simp [hc, ih]
    · have hkept : (c :: cs).filter (fun c => !p c) = c :: (splitWhere p cs).flatten := by simp [hc, ih]
      rw [if_neg hc, hkept]
      cases splitWhere p cs <;> rfl

/-- Joining parts with a separator loses nothing. -/
theorem mem_intercalate {separator w : List Char} {ws : List (List Char)} {c : Char} (hw : w ∈ ws) (hc : c ∈ w) :
    c ∈ separator.intercalate ws := by
  induction ws with
  | nil => exact absurd hw List.not_mem_nil
  | cons v ws ih =>
    cases ws with
    | nil => rwa [List.intercalate_singleton, ← List.mem_singleton.1 hw]
    | cons u ws =>
      rw [List.intercalate_cons_cons, List.mem_append, List.mem_append]
      rcases List.mem_cons.1 hw with rfl | hw
      · exact .inl (.inl hc)
      · exact .inr (ih hw)

/-- The maximal blank-free runs of a text, in order. -/
def words (s : String) : List String :=
  ((splitWhere isBlank s.toList).filter (!·.isEmpty)).map String.ofList

/-- A text with its ASCII letters in upper case. -/
def upperAscii (s : String) : String :=
  String.ofList (s.toList.map Char.toUpper)

/-- The form in which keywords are compared: single spaces, no blanks at the ends, ASCII upper case. -/
def keywordForm (s : String) : String :=
  upperAscii (" ".intercalate (words s))

end Text
end FluentSql

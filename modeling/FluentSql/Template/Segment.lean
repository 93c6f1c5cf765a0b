/-!
# FluentSql.Template.Segment — templates cut at their markers

A template carries `?` where a value is bound and `??` where an identifier is quoted. Markers inside quoted text do
not count.

* `Quoting`: where a scan stands: outside quoted text, inside it, or after a backslash inside it. A doubled quote
  closes the text and opens it again at once, so it needs no state of its own.
* `segments`: a template as text and markers.
* `countMarkers`: the number of markers of a template.
-/

namespace FluentSql
namespace Template

/-! ## Quoted text -/

/-- Where a scan of a text stands. -/
inductive Quoting where
  | outside
  | inside (quote : Char)
  | escaped (quote : Char)
  deriving DecidableEq, Repr

/-- A character that opens and closes quoted text. -/
def isQuote (c : Char) : Bool :=
  c == '\'' || c == '"' || c == '`'

/-- Passes one character. A backslash escapes the next character, except between back-ticks. -/
def Quoting.step : Quoting → Char → Quoting
  | .outside, c => if isQuote c then .inside c else .outside
  | .inside quote, c =>
    if c = '\\' ∧ quote ≠ '`' then .escaped quote else if c = quote then .outside else .inside quote
  | .escaped quote, _ => .inside quote

/-- Where a scan stands after a whole text. -/
def Quoting.after (q : Quoting) (cs : List Char) : Quoting :=
  cs.foldl Quoting.step q

/-! ## Segments -/

/-- One piece of a template. -/
inductive Segment where
  | text (cs : List Char)
  /-- `??` -/
  | escape
  /-- `?` -/
  | placeholder
  deriving DecidableEq, Repr

/-- A piece that takes an argument. -/
def Segment.isMarker : Segment → Bool
  | .text _ => false
  | _ => true

@[simp] theorem Segment.isMarker_text (cs : List Char) : (Segment.text cs).isMarker = false := rfl

@[simp] theorem Segment.isMarker_escape : Segment.escape.isMarker = true := rfl

@[simp] theorem Segment.isMarker_placeholder : Segment.placeholder.isMarker = true := rfl

/-- Puts a character in front, joining it to a text that stands there. -/
def consText (c : Char) : List Segment → List Segment
  | .text cs :: r => .text (c :: cs) :: r
  | r => .text [c] :: r

/-- The segments of a text that is read from a state on. -/
def segmentsFrom : Quoting → List Char → List Segment
  | _, [] => []
  | .outside, '?' :: '?' :: r => .escape :: segmentsFrom .outside r
  | .outside, '?' :: r => .placeholder :: segmentsFrom .outside r
  | q, c :: r => consText c (segmentsFrom (q.step c) r)

/-- The segments of a template. -/
def segments (template : String) : List Segment :=
  segmentsFrom .outside template.toList

/-- The number of markers of a template. -/
def countMarkers (template : String) : Nat :=
  (segments template).countP Segment.isMarker

end Template
end FluentSql

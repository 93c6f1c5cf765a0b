import FluentSql.Toml.Scalar

/-!
# FluentSql.Toml.Reader — reading TOML documents

* `normalize`: line ends become line feeds; a document with other control characters than tabs is refused.
* `readKey`: a dotted key of at most 80 parts.
* `readValue`: a value; at most 80 arrays and inline tables stand inside each other.
* `readPair`: a key and its value; in braces, lines may end on either side of the equals sign.
* `Document.read`: all lines of a document, one after the other.
* `Toml.parse`: the members of the root table.
-/

namespace FluentSql
namespace Toml

/-- How many arrays and inline tables may stand inside each other, and how many parts a key may have. -/
def maxDepth : Nat := 80

/-! ## Lines -/

/-- Line feeds at the ends of lines; none if there is another control character than a tab. -/
def normalize : List Char → Option (List Char)
  | [] => some []
  | '\r' :: '\n' :: r => (normalize r).map ('\n' :: ·)
  | c :: r =>
    if c == '\n' || c == '\t' || (0x20 ≤ c.toNat && c.toNat ≠ 0x7f) then (normalize r).map (c :: ·) else none

/-- Passes over blanks, ends of lines and comments; `comment` says that a comment has started. -/
def skipFiller (comment : Bool) : List Char → List Char
  | [] => []
  | c :: r =>
    if comment then skipFiller (c != '\n') r
    else if isGapOrEnd c then skipFiller false r
    else if c = '#' then skipFiller true r
    else c :: r

/-- Ends a line, which may have a comment. -/
def endLine (cs : List Char) : Option (List Char) :=
  match cs.dropWhile isGap with
  | [] => some []
  | '\n' :: r => some r
  | '#' :: r => some (r.dropWhile (· != '\n'))
  | _ => none

/-! ## Keys -/

/-- A character of a key without quotes. -/
def isKeyChar (c : Char) : Bool :=
  c.isAlphanum || c == '_' || c == '-'

/-- Reads one part of a key. -/
def readKeyPart : List Char → Option (List Char × List Char)
  | '"' :: r => readLine '"' true r
  | '\'' :: r => readLine '\'' false r
  | cs => if (cs.takeWhile isKeyChar).isEmpty then none else some (cs.takeWhile isKeyChar, cs.dropWhile isKeyChar)

/-- Reads the parts of a dotted key, blanks at its ends included. -/
def readKeyParts (cs : List Char) : Option (List String × List Char) :=
  match readKeyPart (cs.dropWhile isGap) with
  | none => none
  | some (part, r) =>
    match r.dropWhile isGap with
    | '.' :: r' =>
      if r'.length < cs.length then
        (readKeyParts r').map fun (key, rest) => (String.ofList part :: key, rest)
      else none
    | r' => some ([String.ofList part], r')
termination_by cs.length

/-- Reads a dotted key that is not too long. -/
def readKey (cs : List Char) : Option (List String × List Char) := do
  let (key, r) ← readKeyParts cs
  if key.length ≤ maxDepth then some (key, r) else none

/-! ## Values -/

/-- Reads items up to a closing mark, with commas between them and maybe one behind the last. -/
def readItems {β : Type} (item : List Char → Option (β × List Char)) (closing : Char) (cs : List Char) :
    Option (List β × List Char) :=
  match skipFiller false cs with
  | [] => none
  | c :: r =>
    if c = closing then some ([], r)
    else
      match item (c :: r) with
      | none => none
      | some (x, r') =>
        match skipFiller false r' with
        | [] => none
        | d :: r'' =>
          if d = closing then some ([x], r'')
          else if d = ',' ∧ r''.length < cs.length then
            (readItems item closing r'').map fun (xs, rest) => (x :: xs, rest)
          else none
termination_by cs.length

/-- Reads a key and its value; `skip` passes over what may stand on either side of the equals sign. -/
def readPair (skip : List Char → List Char) (value : List Char → Option (Toml × List Char)) (cs : List Char) :
    Option ((List String × Toml) × List Char) := do
  let (key, r) ← readKey cs
  let r ← readMark ['='] (skip r)
  let (v, r) ← value (skip r)
  return ((key, v), r)

/-- The table of pairs in braces. -/
def inlineTable (pairs : List (List String × Toml)) : Option Toml := do
  let ms ← pairs.foldlM (fun ms (key, v) => addPair key v ms) []
  return table .inline ms

/-- Reads a value in which at most `depth` arrays and inline tables stand inside each other. -/
def readValue : Nat → List Char → Option (Toml × List Char)
  | depth, cs =>
    match cs with
    | '[' :: r =>
      match depth with
      | 0 => none
      | depth + 1 => do
        let (items, r) ← readItems (readValue depth) ']' r
        return (array items, r)
    | '\x7b' :: r =>
      match depth with
      | 0 => none
      | depth + 1 => do
        let (pairs, r) ← readItems (readPair (skipFiller false) (readValue depth)) '\x7d' r
        return (← inlineTable pairs, r)
    | '"' :: _ | '\'' :: _ => do
      let (text, r) ← readQuoted cs
      return (string (String.ofList text), r)
    | _ => do
      let (text, r) := readBare cs
      return (← ofBare text, r)

/-! ## Documents -/

/-- A document read so far: its root table, and the path of its last header. -/
structure Document where
  root : Members := []
  path : List String := []

namespace Document

/-- Reads one header or pair, up to the end of its line. -/
def readEntry (d : Document) : List Char → Option (Document × List Char)
  | '[' :: '[' :: r => do
    let (path, r) ← readKey r
    let r ← readMark [']'] (← readMark [']'] r)
    return (⟨← openElement path d.root, path⟩, ← endLine r)
  | '[' :: r => do
    let (path, r) ← readKey r
    let r ← readMark [']'] r
    return (⟨← openTable path d.root, path⟩, ← endLine r)
  | cs => do
    let ((key, v), r) ← readPair (List.dropWhile isGap) (readValue maxDepth) cs
    return ({ d with root := ← inTable d.path (addPair key v) d.root }, ← endLine r)

/-- Reads all headers and pairs. -/
def read (d : Document) (cs : List Char) : Option Document :=
  match skipFiller false cs with
  | [] => some d
  | c :: r =>
    match d.readEntry (c :: r) with
    | none => none
    | some (d', rest) => if rest.length < cs.length then d'.read rest else none
termination_by cs.length

end Document

/-- The text behind a byte order mark. -/
def skipMark : List Char → List Char
  | '\ufeff' :: r => r
  | cs => cs

/-- The root table of a document. -/
def parse (s : String) : Option Members := do
  let d ← Document.read {} (← normalize (skipMark s.toList))
  return d.root

end Toml
end FluentSql

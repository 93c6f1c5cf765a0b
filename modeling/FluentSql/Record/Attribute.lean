import FluentSql.Naming

/-!
# FluentSql.Record.Attribute — annotations on record types and their fields

* `RenameRule`: the conventions that a record type can choose for its columns.
* `AttributeItem`, `AttributeToken`: the items of an annotation and the tokens they are written in.
* `Attribute`: one annotation; `RecordSettings`: what all annotations of a type or field together say.
* `RecordSettings.read`: reads the tokens of one annotation, separated by commas; a last comma is allowed.
* `RecordSettings.ofAttributes`: reads annotations in order; the last rename counts, and one `skip` is enough.
* `AnnotationFault`: why annotations cannot be read.
-/

namespace FluentSql

/-! ## Rename rules -/

/-- The conventions that a record type can choose for its columns. -/
inductive RenameRule where
  | snake
  | camel
  | pascal
  | screamingSnake
  | kebab
  | lower
  | upper
  deriving DecidableEq, Repr

namespace RenameRule

/-- The rule of a name. -/
def ofText? : String → Option RenameRule
  | "snake_case" => some snake
  | "camelCase" => some camel
  | "PascalCase" => some pascal
  | "SCREAMING_SNAKE_CASE" => some screamingSnake
  | "kebab-case" => some kebab
  | "lowercase" => some lower
  | "UPPERCASE" => some upper
  | _ => none

/-- The column of a field name. -/
def apply : RenameRule → String → String
  | snake, name => Naming.snakeCase name
  | camel, name => Naming.camelCase name
  | pascal, name => Naming.pascalCase name
  | screamingSnake, name => Naming.screamingSnakeCase name
  | kebab, name => Naming.kebabCase name
  | lower, name => Text.lowerText name
  | upper, name => Text.upperText name

end RenameRule

/-! ## Annotations -/

/-- A token of an annotation. -/
inductive AttributeToken where
  | word (name : String)
  | text (s : String)
  /-- A literal that is no text. -/
  | literal
  | equals
  | comma
  deriving DecidableEq, Repr

/-- What is assigned to an item. -/
inductive AttributeValue where
  | text (s : String)
  /-- A literal that is no text. -/
  | literal
  deriving DecidableEq, Repr

/-- An item of an annotation: a word, or a word with a value. -/
structure AttributeItem where
  name : String
  value : Option AttributeValue := none
  deriving DecidableEq, Repr

/-- The tokens of an item. -/
def AttributeItem.tokens (i : AttributeItem) : List AttributeToken :=
  match i.value with
  | none => [.word i.name]
  | some (.text s) => [.word i.name, .equals, .text s]
  | some .literal => [.word i.name, .equals, .literal]

/-- The tokens of items with a separator between them. -/
def AttributeItem.joined (separator : List AttributeToken) (items : List AttributeItem) : List AttributeToken :=
  separator.intercalate (items.map tokens)

/-- One annotation of a type or a field. -/
inductive Attribute where
  /-- An annotation for records, with tokens in parentheses. -/
  | items (tokens : List AttributeToken)
  /-- An annotation for records without parentheses. -/
  | bare
  /-- An annotation for something else. -/
  | unrelated
  deriving DecidableEq, Repr

/-! ## Faults -/

/-- Why a record type cannot be derived. -/
inductive AnnotationFault where
  | unknownRule (name : String)
  | unknownItem (name : String)
  | reservedWord (name : String)
  | expectedWord
  | expectedEquals
  | expectedText
  /-- The annotation ends where a text is expected. -/
  | endsBeforeText
  | expectedComma
  | expectedParentheses
  /-- The type is no structure. -/
  | noStructure
  /-- The fields of the structure have no names. -/
  | unnamedFields
  /-- `skip` or `rename` on the type itself. -/
  | fieldItemOnType
  /-- `rename_all` on a field. -/
  | typeItemOnField
  deriving DecidableEq, Repr

/-- The wording of a fault. -/
def AnnotationFault.message : AnnotationFault → String
  | unknownRule name => s!"unknown rename_all rule `{name}`"
  | unknownItem name => s!"unknown record attribute `{name}`"
  | reservedWord name => s!"expected identifier, found keyword `{name}`"
  | expectedWord => "expected identifier"
  | expectedEquals => "expected `=`"
  | expectedText => "expected string literal"
  | endsBeforeText => "unexpected end of input, expected string literal"
  | expectedComma => "expected `,`"
  | expectedParentheses => "expected #[record(...)]"
  | noStructure => "Record can only be derived for structs"
  | unnamedFields => "Record can only be derived for structs with named fields"
  | fieldItemOnType => "`skip` and `rename` apply to fields; use `rename_all` on the struct"
  | typeItemOnField => "`rename_all` applies to the struct"

/-- Why a name has no text, by the tokens behind it. -/
def AnnotationFault.ofUnassigned : List AttributeToken → AnnotationFault
  | [.equals] => endsBeforeText
  | .equals :: _ => expectedText
  | _ => expectedEquals

/-! ## Settings -/

/-- What annotations say of a type or a field. -/
structure RecordSettings where
  skip : Bool := false
  rename : Option String := none
  renameAll : Option RenameRule := none
  deriving DecidableEq, Repr

/-- Words that cannot name an item. -/
def reservedWords : List String :=
  ["_", "abstract", "as", "async", "await", "become", "box", "break", "const", "continue", "crate", "do", "dyn", "else",
    "enum", "extern", "false", "final", "fn", "for", "if", "impl", "in", "let", "loop", "macro", "match", "mod", "move",
    "mut", "override", "priv", "pub", "ref", "return", "Self", "self", "static", "struct", "super", "trait", "true",
    "try", "type", "typeof", "unsafe", "unsized", "use", "virtual", "where", "while", "yield"]

namespace RecordSettings

mutual

/-- Reads items from the start of an item on. -/
def read (s : RecordSettings) : List AttributeToken → Except AnnotationFault RecordSettings
  | [] => .ok s
  | .word "skip" :: r => readNext { s with skip := true } r
  | .word "rename" :: .equals :: .text column :: r => readNext { s with rename := some column } r
  | .word "rename_all" :: .equals :: .text name :: r =>
    match RenameRule.ofText? name with
    | some rule => readNext { s with renameAll := some rule } r
    | none => .error (.unknownRule name)
  | .word name :: r =>
    if reservedWords.contains name then .error (.reservedWord name)
    else if name = "rename" ∨ name = "rename_all" then .error (.ofUnassigned r)
    else .error (.unknownItem name)
  | _ :: _ => .error .expectedWord

/-- Reads items from the end of an item on. -/
def readNext (s : RecordSettings) : List AttributeToken → Except AnnotationFault RecordSettings
  | [] => .ok s
  | .comma :: r => read s r
  | _ :: _ => .error .expectedComma

end

/-- Adds what a later annotation says. -/
def merge (s later : RecordSettings) : RecordSettings :=
  { skip := s.skip || later.skip
    rename := later.rename.or s.rename
    renameAll := later.renameAll.or s.renameAll }

/-- Adds one annotation. -/
def addAttribute (s : RecordSettings) : Attribute → Except AnnotationFault RecordSettings
  | .unrelated => .ok s
  | .bare => .error .expectedParentheses
  | .items tokens => return s.merge (← read {} tokens)

/-- What annotations say together. -/
def ofAttributes (attributes : List Attribute) : Except AnnotationFault RecordSettings :=
  attributes.foldlM addAttribute {}

end RecordSettings
end FluentSql

import FluentSql.Record
import FluentSql.Record.Attribute

/-!
# FluentSql.Record.Declaration — records of the values of a declared type

* `Declaration`: a type with annotations, and its fields if it has named ones.
* `FieldPush`: how one field goes into the record: its name, the member it comes from, its column.
* `Declaration.pushes`: the fields that go into the record of a value, in the order of their declaration.
* `Declaration.record`: the record of a value.
-/

namespace FluentSql

/-! ## Declarations -/

/-- A named field of a type. -/
structure DeclaredField where
  name : String
  attributes : List Attribute := []
  deriving DecidableEq, Repr

/-- The forms of a type. -/
inductive DeclaredShape where
  | named (fields : List DeclaredField)
  | tuple
  | unit
  | enumeration
  deriving DecidableEq, Repr

/-- A type that is to have records. -/
structure Declaration where
  attributes : List Attribute := []
  shape : DeclaredShape
  deriving DecidableEq, Repr

/-! ## Pushes -/

/-- How one field goes into the record. -/
structure FieldPush where
  name : String
  member : String
  column : Option String
  deriving DecidableEq, Repr

/-- The name of a field as data: the mark of a raw name does not belong to it. -/
def DeclaredField.plainName (f : DeclaredField) : String :=
  match f.name.toList with
  | 'r' :: '#' :: r => String.ofList r
  | _ => f.name

/-- How a field goes into the record, unless it is skipped. A column of its own counts more than the rule of the
type. -/
def DeclaredField.push? (rule : Option RenameRule) (f : DeclaredField) : Except AnnotationFault (Option FieldPush) := do
  let settings ← RecordSettings.ofAttributes f.attributes
  if settings.renameAll.isSome then .error .typeItemOnField
  else if settings.skip then .ok none
  else
    .ok (some { name := f.plainName, member := f.name
                column := settings.rename.or (rule.map (·.apply f.plainName)) })

/-- The fields that go into the record. -/
def Declaration.pushes (d : Declaration) : Except AnnotationFault (List FieldPush) :=
  match d.shape with
  | .enumeration => .error .noStructure
  | .tuple | .unit => .error .unnamedFields
  | .named fields => do
    let settings ← RecordSettings.ofAttributes d.attributes
    if settings.skip ∨ settings.rename.isSome then .error .fieldItemOnType
    else return (← fields.mapM (DeclaredField.push? settings.renameAll)).filterMap id

/-! ## Records -/

/-- The field of a push, for a value with the given members. -/
def FieldPush.field {α : Type} (members : String → α) (p : FieldPush) : Field α :=
  { name := p.name, value := members p.member, rename := p.column }

/-- The record of a value with the given members. -/
def Declaration.record {α : Type} (d : Declaration) (members : String → α) :
    Except AnnotationFault (Record α) := do
  return Record.ofFields ((← d.pushes).map (FieldPush.field members))

end FluentSql

import FluentSql.Config
import FluentSql.Members
import FluentSql.Value

/-!
# FluentSql.Record — payloads of named values

* `Field`: a named value with the column it writes to.
* `Record`: fields in the order in which their names came first; a name stands once, with its last field.
* `Exclusions`: fields that a patch keeps although they are zero.
* `Record.map`, `Record.mapSmaller`: change the values, without or with the fact that they are smaller.
-/

namespace FluentSql

/-! ## Fields -/

/-- One named value of a payload. -/
structure Field (α : Type) where
  name : String
  value : α
  /-- The column, where the name does not give it. The empty text and `-` drop the field. -/
  rename : Option String := none
  dropped : Bool := false

namespace Field

variable {α : Type}

/-- The column a field writes to, if it is not dropped. -/
def column (naming : ColumnNaming) (f : Field α) : Option String :=
  if f.dropped then none
  else
    match f.rename with
    | none => some (naming.apply f.name)
    | some column => if column = "" ∨ column = "-" then none else some column

end Field

/-! ## Records -/

/-- An ordered payload. No two fields have the same name. -/
structure Record (α : Type) where
  fields : List (Field α) := []

namespace Record

variable {α : Type}

/-- Replaces the field of the same name in place, or adds the field at the end. -/
def putInto (f : Field α) : List (Field α) → List (Field α)
  | [] => [f]
  | g :: gs => if g.name = f.name then f :: gs else g :: putInto f gs

/-- Sets a field; one of the same name keeps its place. -/
def put (r : Record α) (f : Field α) : Record α :=
  ⟨putInto f r.fields⟩

/-- Sets a plain field. -/
def set (r : Record α) (name : String) (value : α) : Record α :=
  r.put { name, value }

/-- A record of fields in the order given. -/
def ofFields (fs : List (Field α)) : Record α :=
  fs.foldl put {}

/-- A record of pairs in the order given. -/
def ofPairs (ps : List (String × α)) : Record α :=
  ps.foldl (fun r (name, value) => r.set name value) {}

/-- A record of a map from names: in ascending order of the names, with the last value of each. -/
def ofMap (ps : List (String × α)) : Record α :=
  ofPairs (Json.sortMembers ps)

/-- The value under a name. -/
def get? (r : Record α) (name : String) : Option α :=
  (r.fields.find? (·.name == name)).map (·.value)

/-- The number of fields. -/
def size (r : Record α) : Nat :=
  r.fields.length

end Record

/-! ## Exclusions -/

/-- Fields that a patch keeps although they are zero, by name or by kind of value. -/
structure Exclusions where
  fields : List String := []
  kinds : List ValueKind := []
  deriving DecidableEq, Repr

/-- A field is kept for its column, its name or the kind of its value. -/
def Exclusions.keeps (ex : Exclusions) (column name : String) (kind : Option ValueKind) : Bool :=
  ex.fields.any (fun f => f == column || f == name) || kind.any ex.kinds.contains

/-! ## Changing the values -/

section Map

variable {α β : Type}

/-- Changes the value of a field. -/
def Field.map (f : α → β) (x : Field α) : Field β :=
  { name := x.name, value := f x.value, rename := x.rename, dropped := x.dropped }

/-- Changes the values of a record. -/
def Record.map (f : α → β) (r : Record α) : Record β :=
  ⟨r.fields.map (Field.map f)⟩

end Map

section MapSmaller

variable {α β : Type} [SizeOf α]

/-- `Field.map` with a smaller value. -/
def Field.mapSmaller (x : Field α) (f : (a : α) → sizeOf a < sizeOf x → β) : Field β :=
  { name := x.name, value := f x.value (by cases x; simp; omega), rename := x.rename, dropped := x.dropped }

/-- `Record.map` with smaller values. -/
def Record.mapSmaller (r : Record α) (f : (a : α) → sizeOf a < sizeOf r → β) : Record β :=
  ⟨mapMembers r.fields fun x h => x.mapSmaller fun a h' => f a (by cases r; simp at *; omega)⟩

theorem Field.mapSmaller_eq_map (x : Field α) (f : α → β) : (x.mapSmaller fun a _ => f a) = x.map f :=
  rfl

theorem Record.mapSmaller_eq_map (r : Record α) (f : α → β) : (r.mapSmaller fun a _ => f a) = r.map f := by
  unfold Record.mapSmaller Record.map
  rw [← mapMembers_eq_map]
  rfl

end MapSmaller
end FluentSql

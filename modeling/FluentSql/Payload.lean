import FluentSql.Statement.Basic

/-!
# FluentSql.Payload — records as columns and groups of values

* `PayloadRules`: what is left out of a payload and how its columns are named and ordered.
* `Record.entries`: one record as pairs of a column and a value, after renames, omissions and patch rules.
* `Payload.ofRecords`: the columns of the first record, and for each record one group with a value for each of them.
-/

namespace FluentSql

/-- What is left out of a payload and how its columns are named and ordered. -/
structure PayloadRules where
  omitted : List String
  exclusions : Exclusions
  config : Config
  /-- Zero values are left out unless they are excluded from this rule. -/
  patch : Bool

section Entries

variable {α : Type}

/-- The entry of a field, if it has one. `arg` gives the argument that a value stands for. -/
def Field.entry? (arg : α → Arg) (rules : PayloadRules) (f : Field α) : Option (String × α) :=
  match f.column rules.config.columnNaming with
  | none => none
  | some column =>
    if rules.omitted.any (fun o => o == column || o == f.name) then none
    else if rules.patch && (arg f.value).isZero && !rules.exclusions.keeps column f.name (arg f.value).kind? then none
    else some (column, f.value)

/-- The entries of a record. Sorting keeps the order of equal columns. -/
def Record.entries (arg : α → Arg) (rules : PayloadRules) (r : Record α) : List (String × α) :=
  let es := r.fields.filterMap (Field.entry? arg rules)
  if rules.config.orderColumns then es.mergeSort fun a b => !(b.1 < a.1) else es

end Entries

/-- Columns shared by all groups of values. -/
structure Payload (α : Type) where
  columns : List String := []
  groups : List (List α) := []

namespace Payload

variable {α : Type}

/-- The group of a later record: for each column its first value there, or `absent`. -/
def alignedGroup (absent : α) (columns : List String) (entries : List (String × α)) : List α :=
  columns.map fun column => ((entries.find? fun e => e.1 == column).map (·.2)).getD absent

/-- Columns and groups of a list of records; `absent` stands for a column that a later record lacks. -/
def ofRecords (arg : α → Arg) (absent : α) (rules : PayloadRules) : List (Record α) → Payload α
  | [] => {}
  | first :: rest =>
    let head := first.entries arg rules
    let columns := head.map (·.1)
    { columns := columns
      groups := head.map (·.2) :: rest.map fun r => alignedGroup absent columns (r.entries arg rules) }

end Payload
end FluentSql

import FluentSql.Payload
import Mathlib

/-!
# FluentSql.Proofs.Columns — payloads whose values are changed

* `Record.entries_map`, `Payload.ofRecords_map`: changing the values of records changes the values of their entries
  and groups; the columns stay.
-/

namespace FluentSql

variable {α β : Type}

/-- Changes the values of a payload. -/
def Payload.map (f : α → β) (p : Payload α) : Payload β :=
  { columns := p.columns, groups := p.groups.map (List.map f) }

theorem Field.column_map (f : α → β) (naming : ColumnNaming) (x : Field α) :
    (x.map f).column naming = x.column naming := rfl

theorem Field.entry?_map (f : α → β) (arg : β → Arg) (rules : PayloadRules) (x : Field α) :
    Field.entry? arg rules (x.map f) = (Field.entry? (arg ∘ f) rules x).map (Prod.map id f) := by
  unfold Field.entry?
  rw [Field.column_map]
  cases x.column rules.config.columnNaming with
  | none => rfl
  | some column =>
    simp only [apply_ite (Option.map (Prod.map id f)), Option.map_none, Option.map_some]
    rfl

/-- The entries of a record keep their columns when its values are changed. -/
theorem Record.entries_map (f : α → β) (arg : β → Arg) (rules : PayloadRules) (r : Record α) :
    (r.map f).entries arg rules = (r.entries (arg ∘ f) rules).map (Prod.map id f) := by
  have h : (r.map f).fields.filterMap (Field.entry? arg rules) =
      (r.fields.filterMap (Field.entry? (arg ∘ f) rules)).map (Prod.map id f) := by
    simp only [Record.map, List.filterMap_map, List.map_filterMap]
    exact congrArg (List.filterMap · r.fields) (funext fun x => Field.entry?_map f arg rules x)
  simp only [Record.entries, h]
  split_ifs
  · rw [List.map_mergeSort]
    simp
  · rfl

theorem Payload.alignedGroup_map (f : α → β) (absent : α) (columns : List String) (es : List (String × α)) :
    alignedGroup (f absent) columns (es.map (Prod.map id f)) = (alignedGroup absent columns es).map f := by
  unfold alignedGroup
  rw [List.map_map]
  refine List.map_congr_left fun column _ => ?_
  simp only [List.find?_map, Function.comp_def, Prod.map_fst, id_eq, Option.map_map]
  cases es.find? fun e => e.1 == column <;> rfl

/-- A payload keeps its columns when the values of its records are changed. -/
theorem Payload.ofRecords_map (f : α → β) (arg : β → Arg) (absent : α) (rules : PayloadRules)
    (rows : List (Record α)) :
    ofRecords arg (f absent) rules (rows.map (Record.map f)) = (ofRecords (arg ∘ f) absent rules rows).map f := by
  cases rows with
  | nil => rfl
  | cons first rest =>
    simp only [List.map_cons, ofRecords, Payload.map, Record.entries_map, List.map_map]
    refine congrArg₂ Payload.mk (by simp [Function.comp_def]) ?_
    refine congrArg₂ List.cons (by simp [Function.comp_def]) ?_
    refine List.map_congr_left fun r _ => ?_
    simp only [Function.comp_apply, Record.entries_map]
    rw [← Payload.alignedGroup_map]
    simp [Function.comp_def]

end FluentSql

/-!
# FluentSql.Members — mapping over parts that are known to be smaller

* `mapMembers`, `mapValue`: map over a list or an option, where each member comes with the fact that it is smaller
  than the whole. Recursion over nested data goes through them.
* `mapMembers_eq_map`, `mapValue_eq_map`: without that fact they are the usual maps.
-/

namespace FluentSql

variable {α β : Type} [SizeOf α]

/-- Changes the members of a list, each with the fact that it is one. -/
def mapMembers (xs : List α) (f : (a : α) → sizeOf a < sizeOf xs → β) : List β :=
  xs.attach.map fun a => f a.1 (List.sizeOf_lt_of_mem a.2)

/-- Changes the value of an option, with the fact that it is smaller. -/
def mapValue (x : Option α) (f : (a : α) → sizeOf a < sizeOf x → β) : Option β :=
  match x with
  | none => none
  | some a => some (f a (by simp))

theorem mapMembers_eq_map (xs : List α) (f : α → β) : mapMembers xs (fun a _ => f a) = xs.map f := by
  simp [mapMembers]

theorem mapValue_eq_map (x : Option α) (f : α → β) : mapValue x (fun a _ => f a) = x.map f := by
  cases x <;> rfl

end FluentSql

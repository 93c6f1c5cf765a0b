import FluentSql.Statement.Basic

/-!
# FluentSql.Proofs.Nesting — induction over nested statements

* `Clauses.map_map`, `Clauses.map_id`: the laws of changing the parts of clauses.
* `Clauses.mapSmaller_map`: a change behind one that knows the sizes.
* `nested_induction`: what holds of every argument and of every statement. The hypotheses of the induction come
  inside the clauses: each part stands there with the fact that the property holds of it.
-/

namespace FluentSql

variable {α β γ σ τ υ : Type}

/-! ## Two changes in a row -/

section MapMap

variable (f : α → β) (f' : β → γ) (g : σ → τ) (g' : τ → υ)

@[simp] theorem Field.map_map (x : Field α) : (x.map f).map f' = x.map (f' ∘ f) := rfl

@[simp] theorem Record.map_map (r : Record α) : (r.map f).map f' = r.map (f' ∘ f) := by
  simp [Record.map, Function.comp_def]

@[simp] theorem Condition.map_map (c : Condition α) : (c.map f).map f' = c.map (f' ∘ f) := by
  simp [Condition.map]

@[simp] theorem TableRef.map_map (t : TableRef σ) : (t.map g).map g' = t.map (g' ∘ g) := by
  cases t <;> rfl

@[simp] theorem Projection.map_map (p : Projection α) : (p.map f).map f' = p.map (f' ∘ f) := by
  cases p <;> rfl

@[simp] theorem Join.map_map (j : Join α σ) : (j.map f g).map f' g' = j.map (f' ∘ f) (g' ∘ g) := by
  simp [Join.map, Function.comp_def]

@[simp] theorem Union.map_map (u : Union σ) : (u.map g).map g' = u.map (g' ∘ g) := rfl

@[simp] theorem Operation.map_map (o : Operation α σ) : (o.map f g).map f' g' = o.map (f' ∘ f) (g' ∘ g) := by
  cases o <;> simp [Operation.map, Function.comp_def]

/-- A change of the parts keeps the kind. -/
theorem Operation.kind_map (o : Operation α σ) : (o.map f g).kind = o.kind := by
  cases o <;> rfl

/-- Two changes of clauses are one. -/
theorem Clauses.map_map (c : Clauses α σ) : (c.map f g).map f' g' = c.map (f' ∘ f) (g' ∘ g) := by
  simp [Clauses.map, Function.comp_def]

end MapMap

/-! ## No change -/

@[simp] theorem Record.map_id (r : Record α) : r.map id = r := by
  have h : Field.map (id : α → α) = id := by funext x; rfl
  simp [Record.map, h]

@[simp] theorem Condition.map_id (c : Condition α) : c.map id = c := by
  simp [Condition.map]

@[simp] theorem TableRef.map_id (t : TableRef σ) : t.map id = t := by
  cases t <;> rfl

@[simp] theorem Projection.map_id (p : Projection α) : p.map id = p := by
  cases p <;> rfl

theorem Operation.map_id (o : Operation α σ) : o.map id id = o := by
  have h : Record.map (id : α → α) = id := by funext r; simp
  cases o <;> simp [Operation.map, h]

/-- Changing nothing leaves the clauses as they are. -/
theorem Clauses.map_id (c : Clauses α σ) : c.map id id = c := by
  have hr : Record.map (id : α → α) = id := by funext r; simp
  have hc : Condition.map (id : α → α) = id := by funext w; simp
  have ht : TableRef.map (id : σ → σ) = id := by funext t; simp
  have hp : Projection.map (id : α → α) = id := by funext p; simp
  have hu : Union.map (id : σ → σ) = id := by funext u; rfl
  have hj : Join.map (id : α → α) (id : σ → σ) = id := by
    funext j
    simp [Join.map, hc]
  simp [Clauses.map, Operation.map_id, hr, hc, ht, hp, hu, hj]

/-! ## A change behind one that knows the sizes -/

section MapSmaller

variable [SizeOf α] [SizeOf σ]

theorem map_mapMembers (xs : List α) (f : (a : α) → sizeOf a < sizeOf xs → β) (f' : β → γ) :
    (mapMembers xs f).map f' = mapMembers xs fun a h => f' (f a h) := by
  simp [mapMembers]

theorem map_mapValue (x : Option α) (f : (a : α) → sizeOf a < sizeOf x → β) (f' : β → γ) :
    (mapValue x f).map f' = mapValue x fun a h => f' (f a h) := by
  cases x <;> rfl

theorem Field.map_mapSmaller (x : Field α) (f : (a : α) → sizeOf a < sizeOf x → β) (f' : β → γ) :
    (x.mapSmaller f).map f' = x.mapSmaller fun a h => f' (f a h) := rfl

theorem Record.map_mapSmaller (r : Record α) (f : (a : α) → sizeOf a < sizeOf r → β) (f' : β → γ) :
    (r.mapSmaller f).map f' = r.mapSmaller fun a h => f' (f a h) := by
  simp only [Record.mapSmaller, Record.map, map_mapMembers, Field.map_mapSmaller]

theorem Condition.map_mapSmaller (c : Condition α) (f : (a : α) → sizeOf a < sizeOf c → β) (f' : β → γ) :
    (c.mapSmaller f).map f' = c.mapSmaller fun a h => f' (f a h) := by
  simp only [Condition.mapSmaller, Condition.map, map_mapMembers]

theorem TableRef.map_mapSmaller (t : TableRef σ) (g : (q : σ) → sizeOf q < sizeOf t → τ) (g' : τ → υ) :
    (t.mapSmaller g).map g' = t.mapSmaller fun q h => g' (g q h) := by
  cases t <;> rfl

theorem Projection.map_mapSmaller (p : Projection α) (f : (a : α) → sizeOf a < sizeOf p → β) (f' : β → γ) :
    (p.mapSmaller f).map f' = p.mapSmaller fun a h => f' (f a h) := by
  cases p <;> rfl

theorem Join.map_mapSmaller (j : Join α σ) (f : (a : α) → sizeOf a < sizeOf j → β)
    (g : (q : σ) → sizeOf q < sizeOf j → τ) (f' : β → γ) (g' : τ → υ) :
    (j.mapSmaller f g).map f' g' = j.mapSmaller (fun a h => f' (f a h)) fun q h => g' (g q h) := by
  simp only [Join.mapSmaller, Join.map, TableRef.map_mapSmaller, map_mapMembers, Condition.map_mapSmaller]

theorem Operation.map_mapSmaller (o : Operation α σ) (f : (a : α) → sizeOf a < sizeOf o → β)
    (g : (q : σ) → sizeOf q < sizeOf o → τ) (f' : β → γ) (g' : τ → υ) :
    (o.mapSmaller f g).map f' g' = o.mapSmaller (fun a h => f' (f a h)) fun q h => g' (g q h) := by
  cases o <;> simp only [Operation.mapSmaller, Operation.map, Record.map_mapSmaller, map_mapMembers]

theorem Clauses.map_mapSmaller (c : Clauses α σ) (f : (a : α) → sizeOf a < sizeOf c → β)
    (g : (q : σ) → sizeOf q < sizeOf c → τ) (f' : β → γ) (g' : τ → υ) :
    (c.mapSmaller f g).map f' g' = c.mapSmaller (fun a h => f' (f a h)) fun q h => g' (g q h) := by
  simp only [Clauses.mapSmaller, Clauses.map, Operation.map_mapSmaller, TableRef.map_mapSmaller,
    Projection.map_mapSmaller, Condition.map_mapSmaller, Join.map_mapSmaller, Record.map_mapSmaller,
    map_mapMembers, map_mapValue, Union.mapSmaller, Union.map]

end MapSmaller

/-! ## Induction -/

section Induction

variable {P : Arg → Prop} {Q : Statement → Prop}

/-- Clauses whose parts are smaller than a bound below which `P` and `Q` hold are clauses over parts with that
fact. -/
theorem Clauses.exists_subtype (c : Clauses Arg Statement) (hP : ∀ a : Arg, sizeOf a < sizeOf c → P a)
    (hQ : ∀ q : Statement, sizeOf q < sizeOf c → Q q) :
    ∃ k : Clauses {a // P a} {q // Q q}, k.map Subtype.val Subtype.val = c := by
  refine ⟨c.mapSmaller (fun a h => ⟨a, hP a h⟩) (fun q h => ⟨q, hQ q h⟩), ?_⟩
  rw [Clauses.map_mapSmaller]
  exact (Clauses.mapSmaller_eq_map c id id).trans c.map_id

/-- **Induction over nested statements.** -/
theorem nested_induction (value : ∀ v, P (.value v)) (null : P .null)
    (raw : ∀ template (args : List {a // P a}), P (.raw template (args.map Subtype.val)))
    (query : ∀ s, Q s → P (.query s)) (ident : ∀ name, P (.ident name)) (seq : ∀ items, P (.seq items))
    (mk : ∀ c : Clauses {a // P a} {q // Q q}, Q (.mk (c.map Subtype.val Subtype.val))) :
    (∀ a, P a) ∧ ∀ s, Q s := by
  -- on a bound for the size, as the parts of a statement lie in lists and records
  have key : ∀ n, (∀ a : Arg, sizeOf a < n → P a) ∧ ∀ s : Statement, sizeOf s < n → Q s := by
    intro n
    induction n with
    | zero => exact ⟨fun a h => absurd h (Nat.not_lt_zero _), fun s h => absurd h (Nat.not_lt_zero _)⟩
    | succ n ih =>
      obtain ⟨ihP, ihQ⟩ := ih
      refine ⟨fun a h => ?_, fun s h => ?_⟩
      · cases a with
        | value v => exact value v
        | null => exact null
        | raw template args =>
          have hargs : ∀ a ∈ args, P a := fun a ha => ihP a (by
            have := List.sizeOf_lt_of_mem ha
            simp at h
            omega)
          have := raw template (args.attach.map fun a => ⟨a.1, hargs a.1 a.2⟩)
          simpa using this
        | query s => exact query s (ihQ s (by simp at h; omega))
        | ident name => exact ident name
        | seq items => exact seq items
      · cases s with
        | mk c =>
          obtain ⟨k, rfl⟩ := c.exists_subtype (P := P) (Q := Q) (fun a ha => ihP a (by simp at h; omega))
            (fun q hq => ihQ q (by simp at h; omega))
          exact mk k
  exact ⟨fun a => (key _).1 a (Nat.lt_succ_self _), fun s => (key _).2 s (Nat.lt_succ_self _)⟩

end Induction
end FluentSql

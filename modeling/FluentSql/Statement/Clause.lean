import FluentSql.Record
import FluentSql.Statement.Kind

/-!
# FluentSql.Statement.Clause — the clauses of a statement

A clause is stated over its arguments `α` and the statements `σ` nested in it, so that the same shapes hold the
arguments of a caller and the renderings of a compiler.

* `Condition`, `TableRef`, `Projection`, `Join`, `Union`, `Order`, `Limit`: the single clauses.
* `Operation`: what a statement does, with the data that only this operation has.
* `Clauses`: everything a statement holds.
* `Clauses.map`: changes all arguments and nested statements.
* `Clauses.mapSmaller`: the same, where each argument comes with the fact that it is smaller than the clauses; every
  recursion over nested statements goes through it. `Clauses.mapSmaller_eq_map` says that it changes nothing else.
-/

namespace FluentSql

/-! ## Conditions -/

/-- How a condition joins the one before it. -/
inductive Connector where
  | and
  | or
  deriving DecidableEq, Repr, Inhabited

/-- The keyword of a connector. -/
def Connector.sql : Connector → String
  | .and => "AND"
  | .or => "OR"

/-- One entry of a WHERE, HAVING or ON list: a template and its arguments. -/
structure Condition (α : Type) where
  connector : Connector
  template : String
  args : List α

/-! ## Sources and joins -/

/-- A table name, written as it is, or a derived table. -/
inductive TableRef (σ : Type) where
  | name (text : String)
  | query (q : σ)

/-- One entry of a projection: text, written as it is, or an argument. -/
inductive Projection (α : Type) where
  | column (text : String)
  | arg (a : α)

/-- The ways to join a table. -/
inductive JoinKind where
  | join
  | left
  | right
  | inner
  | natural
  | cross
  deriving DecidableEq, Repr

/-- The keywords of a join. -/
def JoinKind.sql : JoinKind → String
  | .join => "JOIN"
  | .left => "LEFT JOIN"
  | .right => "RIGHT JOIN"
  | .inner => "INNER JOIN"
  | .natural => "NATURAL JOIN"
  | .cross => "CROSS JOIN"

/-- A joined table and its ON list. -/
structure Join (α σ : Type) where
  kind : JoinKind
  table : TableRef σ
  conditions : List (Condition α)

/-- A further query of a union. -/
structure Union (σ : Type) where
  all : Bool
  query : σ

/-! ## Order and limit -/

/-- One term of an ORDER BY list: text, or a column with the values that rank it. -/
inductive Order where
  | term (text : String)
  | field (column : String) (values : List Value)
  deriving Repr

/-- A row limit. -/
inductive Limit where
  | count (n : UInt64)
  | range (offset count : UInt64)
  | offset (count offset : UInt64)
  deriving DecidableEq, Repr

/-! ## Operations and clauses -/

/-- What a statement does. -/
inductive Operation (α σ : Type) where
  | unset
  | select
  | insert (rows : List (Record α))
  | replace (rows : List (Record α))
  | update (row : Record α)
  | patch (row : Record α)
  | delete
  | existence
  | insertSelect (source : σ) (columns : List String)
  | raw (template : String) (args : List α)

/-- The kind of an operation. -/
def Operation.kind {α σ : Type} : Operation α σ → StatementKind
  | .unset => .unset
  | .select => .select
  | .insert _ => .insert
  | .replace _ => .replace
  | .update _ => .update
  | .patch _ => .patch
  | .delete => .delete
  | .existence => .existence
  | .insertSelect _ _ => .insertSelect
  | .raw _ _ => .raw

/-- The clauses of a statement. -/
structure Clauses (α σ : Type) where
  operation : Operation α σ := .unset
  table : Option (TableRef σ) := none
  aliasName : Option String := none
  columns : List (Projection α) := []
  wheres : List (Condition α) := []
  havings : List (Condition α) := []
  joins : List (Join α σ) := []
  groups : List String := []
  orders : List Order := []
  limit : Option Limit := none
  options : List String := []
  duplicate : Option (Record α) := none
  omitted : List String := []
  exclusions : Exclusions := {}
  unions : List (Union σ) := []
  config : Config := {}

/-! ## Changing arguments and nested statements -/

section Map

variable {α β σ τ : Type}

/-- Changes the arguments of a condition. -/
def Condition.map (f : α → β) (c : Condition α) : Condition β :=
  { connector := c.connector, template := c.template, args := c.args.map f }

/-- Changes a derived table. -/
def TableRef.map (g : σ → τ) : TableRef σ → TableRef τ
  | .name text => .name text
  | .query q => .query (g q)

/-- Changes a projected argument. -/
def Projection.map (f : α → β) : Projection α → Projection β
  | .column text => .column text
  | .arg a => .arg (f a)

/-- Changes the table and the arguments of a join. -/
def Join.map (f : α → β) (g : σ → τ) (j : Join α σ) : Join β τ :=
  { kind := j.kind, table := j.table.map g, conditions := j.conditions.map (Condition.map f) }

/-- Changes the query of a union. -/
def Union.map (g : σ → τ) (u : Union σ) : Union τ :=
  { all := u.all, query := g u.query }

/-- Changes the data of an operation. -/
def Operation.map (f : α → β) (g : σ → τ) : Operation α σ → Operation β τ
  | .unset => .unset
  | .select => .select
  | .insert rows => .insert (rows.map (Record.map f))
  | .replace rows => .replace (rows.map (Record.map f))
  | .update row => .update (row.map f)
  | .patch row => .patch (row.map f)
  | .delete => .delete
  | .existence => .existence
  | .insertSelect source columns => .insertSelect (g source) columns
  | .raw template args => .raw template (args.map f)

/-- Changes all arguments and nested statements. -/
def Clauses.map (f : α → β) (g : σ → τ) (c : Clauses α σ) : Clauses β τ :=
  { operation := c.operation.map f g
    table := c.table.map (TableRef.map g)
    aliasName := c.aliasName
    columns := c.columns.map (Projection.map f)
    wheres := c.wheres.map (Condition.map f)
    havings := c.havings.map (Condition.map f)
    joins := c.joins.map (Join.map f g)
    groups := c.groups
    orders := c.orders
    limit := c.limit
    options := c.options
    duplicate := c.duplicate.map (Record.map f)
    omitted := c.omitted
    exclusions := c.exclusions
    unions := c.unions.map (Union.map g)
    config := c.config }

end Map

/-! ## The same with the fact that each part is smaller -/

section MapSmaller

variable {α β σ τ : Type} [SizeOf α] [SizeOf σ]

/-- `Condition.map` with smaller arguments. -/
def Condition.mapSmaller (c : Condition α) (f : (a : α) → sizeOf a < sizeOf c → β) : Condition β :=
  { connector := c.connector, template := c.template
    args := mapMembers c.args fun a h => f a (by cases c; simp at *; omega) }

/-- `TableRef.map` with a smaller query. -/
def TableRef.mapSmaller (t : TableRef σ) (g : (q : σ) → sizeOf q < sizeOf t → τ) : TableRef τ :=
  match t with
  | .name text => .name text
  | .query q => .query (g q (by simp))

/-- `Projection.map` with a smaller argument. -/
def Projection.mapSmaller (p : Projection α) (f : (a : α) → sizeOf a < sizeOf p → β) : Projection β :=
  match p with
  | .column text => .column text
  | .arg a => .arg (f a (by simp))

/-- `Join.map` with smaller parts. -/
def Join.mapSmaller (j : Join α σ) (f : (a : α) → sizeOf a < sizeOf j → β) (g : (q : σ) → sizeOf q < sizeOf j → τ) :
    Join β τ :=
  { kind := j.kind
    table := j.table.mapSmaller fun q h => g q (by cases j; simp at *; omega)
    conditions := mapMembers j.conditions fun c h => c.mapSmaller fun a h' => f a (by cases j; simp at *; omega) }

/-- `Union.map` with a smaller query. -/
def Union.mapSmaller (u : Union σ) (g : (q : σ) → sizeOf q < sizeOf u → τ) : Union τ :=
  { all := u.all, query := g u.query (by cases u; simp) }

/-- `Operation.map` with smaller parts. -/
def Operation.mapSmaller (o : Operation α σ) (f : (a : α) → sizeOf a < sizeOf o → β)
    (g : (q : σ) → sizeOf q < sizeOf o → τ) : Operation β τ :=
  match o with
  | .unset => .unset
  | .select => .select
  | .insert rows => .insert (mapMembers rows fun r h => r.mapSmaller fun a h' => f a (by simp at *; omega))
  | .replace rows => .replace (mapMembers rows fun r h => r.mapSmaller fun a h' => f a (by simp at *; omega))
  | .update row => .update (row.mapSmaller fun a h => f a (by simp at *; omega))
  | .patch row => .patch (row.mapSmaller fun a h => f a (by simp at *; omega))
  | .delete => .delete
  | .existence => .existence
  | .insertSelect source columns => .insertSelect (g source (by simp; omega)) columns
  | .raw template args => .raw template (mapMembers args fun a h => f a (by simp at *; omega))

/-- `Clauses.map` with smaller parts. -/
def Clauses.mapSmaller (c : Clauses α σ) (f : (a : α) → sizeOf a < sizeOf c → β)
    (g : (q : σ) → sizeOf q < sizeOf c → τ) : Clauses β τ :=
  { operation := c.operation.mapSmaller (fun a h => f a (by cases c; simp at *; omega))
      (fun q h => g q (by cases c; simp at *; omega))
    table := mapValue c.table fun t h => t.mapSmaller fun q h' => g q (by cases c; simp at *; omega)
    aliasName := c.aliasName
    columns := mapMembers c.columns fun p h => p.mapSmaller fun a h' => f a (by cases c; simp at *; omega)
    wheres := mapMembers c.wheres fun w h => w.mapSmaller fun a h' => f a (by cases c; simp at *; omega)
    havings := mapMembers c.havings fun w h => w.mapSmaller fun a h' => f a (by cases c; simp at *; omega)
    joins := mapMembers c.joins fun j h => j.mapSmaller (fun a h' => f a (by cases c; simp at *; omega))
      (fun q h' => g q (by cases c; simp at *; omega))
    groups := c.groups
    orders := c.orders
    limit := c.limit
    options := c.options
    duplicate := mapValue c.duplicate fun r h => r.mapSmaller fun a h' => f a (by cases c; simp at *; omega)
    omitted := c.omitted
    exclusions := c.exclusions
    unions := mapMembers c.unions fun u h => u.mapSmaller fun q h' => g q (by cases c; simp at *; omega)
    config := c.config }

/-! ## Without the facts on sizes -/

theorem Condition.mapSmaller_eq_map (c : Condition α) (f : α → β) : (c.mapSmaller fun a _ => f a) = c.map f := by
  unfold Condition.mapSmaller Condition.map
  rw [← mapMembers_eq_map]

theorem TableRef.mapSmaller_eq_map (t : TableRef σ) (g : σ → τ) : (t.mapSmaller fun q _ => g q) = t.map g := by
  cases t <;> rfl

theorem Projection.mapSmaller_eq_map (p : Projection α) (f : α → β) : (p.mapSmaller fun a _ => f a) = p.map f := by
  cases p <;> rfl

theorem Join.mapSmaller_eq_map (j : Join α σ) (f : α → β) (g : σ → τ) :
    (j.mapSmaller (fun a _ => f a) fun q _ => g q) = j.map f g := by
  unfold Join.mapSmaller Join.map
  simp only [TableRef.mapSmaller_eq_map, Condition.mapSmaller_eq_map, mapMembers_eq_map]

theorem Operation.mapSmaller_eq_map (o : Operation α σ) (f : α → β) (g : σ → τ) :
    (o.mapSmaller (fun a _ => f a) fun q _ => g q) = o.map f g := by
  cases o <;> simp only [Operation.mapSmaller, Operation.map, Record.mapSmaller_eq_map, mapMembers_eq_map]

/-- Recursion over nested statements changes the clauses as the plain map does. -/
theorem Clauses.mapSmaller_eq_map (c : Clauses α σ) (f : α → β) (g : σ → τ) :
    (c.mapSmaller (fun a _ => f a) fun q _ => g q) = c.map f g := by
  unfold Clauses.mapSmaller Clauses.map
  simp only [Operation.mapSmaller_eq_map, TableRef.mapSmaller_eq_map, Projection.mapSmaller_eq_map,
    Condition.mapSmaller_eq_map, Join.mapSmaller_eq_map, Record.mapSmaller_eq_map, mapMembers_eq_map,
    mapValue_eq_map, Union.mapSmaller]
  rfl

end MapSmaller
end FluentSql

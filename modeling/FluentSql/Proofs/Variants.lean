import FluentSql.Proofs.Columns
import FluentSql.Proofs.LockStep
import FluentSql.Proofs.Nesting
import FluentSql.Proofs.Shorthand
import Mathlib

/-!
# FluentSql.Proofs.Variants — statements that differ in their bound values

Two statements have the same leaves: the places of their bound values. Each leaf has a content in the one statement and
a content in the other.

* `Arg.Alike`, `Statement.Alike`: arguments and statements that are equal but for the contents of their leaves. What
  names an identifier or an operator is equal, and what is patched keeps its kind and whether it is zero.
* `alike_refl`: every statement is alike to itself.
* `Rendering.Alike`: renderings with the same text, or the same error, and the same leaves.
* `build_of_alike`: two such statements fail with the same error or have the same text; their bound values are the
  contents of the same leaves in the same order.
-/

namespace FluentSql

open Rendering

/-! ## What must be equal -/

section Same

variable {κ μ : Type} (f g : κ → Arg)

/-- The arguments of `??` are equal, where each argument has its marker. -/
def Template.SameIdents (template : String) (args : List κ) : Prop :=
  countMarkers template = args.length →
    ∀ p ∈ ((segments template).filter Segment.isMarker).zip args, p.1 = .escape → f p.2 = g p.2

/-- The arguments of `??` are equal, and so is the operator behind a column. -/
structure Condition.SameNames (c : Condition κ) : Prop where
  idents : Template.SameIdents f g c.template c.args
  operator : Template.countMarkers c.template = 0 → isColumnRef (Text.trim c.template) = true →
    ∀ op x xs, c.args = op :: x :: xs → f op = g op

/-- Values that are patched are of the same kind, and zero in both statements or in none. -/
def Record.SameZeros (row : Record κ) : Prop :=
  ∀ x ∈ row.fields, (f x.value).isZero = (g x.value).isZero ∧ (f x.value).kind? = (g x.value).kind?

/-- The names in a raw template are equal, and a patch leaves out the same fields. -/
def Operation.SameNames : Operation κ μ → Prop
  | .raw template args => Template.SameIdents f g template args
  | .patch row => row.SameZeros f g
  | _ => True

/-- All names are equal, and a patch leaves out the same fields. -/
structure Clauses.SameNames (c : Clauses κ μ) : Prop where
  operation : c.operation.SameNames f g
  wheres : ∀ w ∈ c.wheres, w.SameNames f g
  havings : ∀ w ∈ c.havings, w.SameNames f g
  joins : ∀ j ∈ c.joins, ∀ w ∈ j.conditions, w.SameNames f g

end Same

/-! ## Statements with the same leaves -/

/-- A term of an ORDER BY list whose values are leaves. -/
inductive OrderForm (Λ : Type) where
  | term (text : String)
  | field (column : String) (leaves : List Λ)

/-- The term with the contents of its leaves. -/
def OrderForm.order {Λ : Type} (content : Λ → Value) : OrderForm Λ → Order
  | term text => .term text
  | field column leaves => .field column (leaves.map content)

/-- Clauses over other parts and with another ORDER BY list. -/
def Clauses.filled {κ μ α σ : Type} (c : Clauses κ μ) (f : κ → α) (g : μ → σ) (orders : List Order) : Clauses α σ :=
  { c.map f g with orders := orders }

theorem Clauses.map_filled {κ μ α β σ τ : Type} (c : Clauses κ μ) (f : κ → α) (g : μ → σ) (f' : α → β) (g' : σ → τ)
    (orders : List Order) : (c.filled f g orders).map f' g' = c.filled (f' ∘ f) (g' ∘ g) orders := by
  show { (c.map f g).map f' g' with orders := orders } = c.filled (f' ∘ f) (g' ∘ g) orders
  rw [Clauses.map_map]
  rfl

section Alike

variable {Λ : Type} (left right : Λ → Value)

mutual

/-- Arguments that are equal but for the contents of their leaves. -/
inductive Arg.Alike : Arg → Arg → Prop
  | value (leaf : Λ) : Arg.Alike (.value (left leaf)) (.value (right leaf))
  | null : Arg.Alike .null .null
  | raw {κ : Type} (template : String) (args : List κ) (f g : κ → Arg) (parts : ∀ x, Arg.Alike (f x) (g x))
      (names : Template.SameIdents f g template args) :
      Arg.Alike (.raw template (args.map f)) (.raw template (args.map g))
  | query {s t : Statement} (parts : Statement.Alike s t) : Arg.Alike (.query s) (.query t)
  | ident (name : String) : Arg.Alike (.ident name) (.ident name)
  | seq (leaves : List Λ) : Arg.Alike (.seq (leaves.map left)) (.seq (leaves.map right))

/-- Statements that are equal but for the contents of their leaves. -/
inductive Statement.Alike : Statement → Statement → Prop
  | mk {κ μ : Type} (c : Clauses κ μ) (f g : κ → Arg) (f' g' : μ → Statement) (orders : List (OrderForm Λ))
      (args : ∀ x, Arg.Alike (f x) (g x)) (queries : ∀ y, Statement.Alike (f' y) (g' y)) (names : c.SameNames f g) :
      Statement.Alike (.mk (c.filled f f' (orders.map (OrderForm.order left))))
        (.mk (c.filled g g' (orders.map (OrderForm.order right))))

end

/-- The term with its values as leaves. -/
def Order.form : Order → OrderForm Value
  | term text => .term text
  | field column values => .field column values

theorem Order.order_form (o : Order) : o.form.order id = o := by
  cases o with
  | term text => rfl
  | field column values => exact congrArg (field column) (List.map_id values)

/-- Every statement is alike to itself, and so is every argument: the leaves are its values. -/
theorem alike_refl : (∀ a : Arg, a.Alike id id a) ∧ ∀ s : Statement, s.Alike id id s := by
  apply nested_induction
  case value => exact fun v => .value v
  case null => exact .null
  case query => exact fun s hs => .query hs
  case ident => exact fun name => .ident name
  case seq =>
    intro items
    have hseq : (Arg.seq (items.map id)).Alike id id (.seq (items.map id)) := .seq items
    rwa [List.map_id] at hseq
  case raw => exact fun template args => .raw template args _ _ (fun a => a.2) fun _ _ _ _ => rfl
  case mk =>
    intro c
    have horders : (c.orders.map Order.form).map (OrderForm.order id) = c.orders := by
      rw [List.map_map]
      exact List.map_id'' Order.order_form c.orders
    -- with the same values on both sides no condition on names or zeros says anything
    have hoperation : c.operation.SameNames Subtype.val Subtype.val := by
      cases c.operation with
      | raw template args => exact fun _ _ _ _ => rfl
      | patch row => exact fun _ _ => ⟨rfl, rfl⟩
      | _ => exact trivial
    have hcondition : ∀ w : Condition {a : Arg // a.Alike id id a}, w.SameNames Subtype.val Subtype.val := fun w =>
      ⟨fun _ _ _ _ => rfl, fun _ _ _ _ _ _ => rfl⟩
    have hmk := Statement.Alike.mk c Subtype.val Subtype.val Subtype.val Subtype.val (c.orders.map Order.form)
      (fun a => a.2) (fun q => q.2)
      ⟨hoperation, fun w _ => hcondition w, fun w _ => hcondition w, fun _ _ w _ => hcondition w⟩
    rw [horders] at hmk
    exact hmk

/-! ## Renderings with the same leaves -/

/-- Literal text, or a leaf. -/
inductive PieceForm (Λ : Type) where
  | text (s : String)
  | leaf (l : Λ)

/-- The piece with the content of its leaf. -/
def PieceForm.piece {Λ : Type} (content : Λ → Value) : PieceForm Λ → Piece
  | text s => .text s
  | leaf l => .value (content l)

/-- Renderings with the same error, or with the same text and the same leaves. -/
def Rendering.Alike (a b : Rendering) : Prop :=
  ∃ r : Except SqlError (List (PieceForm Λ)),
    a = r.map (List.map (PieceForm.piece left)) ∧ b = r.map (List.map (PieceForm.piece right))

namespace Rendering.Alike

variable {left right}

theorem error (e : SqlError) : Alike left right (.error e) (.error e) :=
  ⟨.error e, rfl, rfl⟩

theorem nil : Alike left right (.ok []) (.ok []) :=
  ⟨.ok [], rfl, rfl⟩

theorem text (s : String) : Alike left right (text s) (text s) :=
  ⟨.ok [.text s], rfl, rfl⟩

theorem leaf (l : Λ) : Alike left right (value (left l)) (value (right l)) :=
  ⟨.ok [.leaf l], rfl, rfl⟩

theorem append {a b a' b' : Rendering} (ha : Alike left right a a') (hb : Alike left right b b') :
    Alike left right (a ++ b) (a' ++ b') := by
  obtain ⟨ra, rfl, rfl⟩ := ha
  obtain ⟨rb, rfl, rfl⟩ := hb
  refine ⟨ra.bind fun ps => rb.map fun qs => ps ++ qs, ?_, ?_⟩ <;> cases ra <;> cases rb <;>
    simp [Except.map, Except.bind]

/-- The same computation in front. -/
theorem bind {β : Type} (x : Except SqlError β) {k k' : β → Rendering}
    (h : ∀ b, x = .ok b → Alike left right (k b) (k' b)) : Alike left right (x.bind k) (x.bind k') := by
  cases x with
  | error e => exact error e
  | ok b => exact h b rfl

theorem map {β : Type} {f g : β → Rendering} (xs : List β) (h : ∀ x ∈ xs, Alike left right (f x) (g x)) :
    List.Forall₂ (Alike left right) (xs.map f) (xs.map g) :=
  List.forall₂_map_left_iff.2 (List.forall₂_map_right_iff.2 (List.forall₂_same.2 h))

theorem concat {rs ss : List Rendering} (h : List.Forall₂ (Alike left right) rs ss) :
    Alike left right (concat rs) (concat ss) := by
  induction h with
  | nil => exact nil
  | cons hr _ ih => exact hr.append ih

theorem join {rs ss : List Rendering} (separator : String) (h : List.Forall₂ (Alike left right) rs ss) :
    Alike left right (join separator rs) (join separator ss) := by
  induction h with
  | nil => exact nil
  | cons hr hrest ih =>
    cases hrest with
    | nil => exact hr
    | cons _ _ => exact hr.append ((text separator).append ih)

end Rendering.Alike

/-- Rendered arguments with the same leaves. -/
structure RenderedArg.Alike (a b : RenderedArg) : Prop where
  isListLike : a.arg.isListLike = b.arg.isListLike
  pieces : ∀ position context, Rendering.Alike left right (a.pieces position context) (b.pieces position context)

/-- Rendered statements with the same leaves. -/
structure RenderedQuery.Alike (q r : RenderedQuery) : Prop where
  aliasName : q.aliasName = r.aliasName
  pieces : ∀ withAlias, Rendering.Alike left right (q.pieces withAlias) (r.pieces withAlias)

variable {left right}

theorem RenderedQuery.Alike.placed {q r : RenderedQuery} (h : q.Alike left right r) (position : Position) :
    Rendering.Alike left right (q.placed position) (r.placed position) := by
  unfold RenderedQuery.placed
  cases position with
  | bare => exact h.pieces true
  | value => exact (Alike.text _).append ((h.pieces true).append (Alike.text _))
  | source =>
    rw [h.aliasName]
    exact (Alike.text _).append ((h.pieces false).append (Alike.text _))

/-! ## Templates and conditions -/

section Parts

variable {κ μ : Type} {f g : κ → RenderedArg} {f' g' : μ → RenderedQuery}

namespace Template

/-- The identifiers of a template are equal. -/
theorem identifiers_same (template : String) :
    ∀ (segs : List Segment) (args : List κ),
      (∀ p ∈ (segs.filter Segment.isMarker).zip args, p.1 = .escape → (f p.2).arg = (g p.2).arg) →
      identifiers template segs (args.map f) = identifiers template segs (args.map g)
  | [], args, _ => by cases args <;> rfl
  | .text cs :: segs, args, h => by simpa [identifiers] using identifiers_same template segs args h
  | .escape :: segs, [], _ => rfl
  | .placeholder :: segs, [], _ => rfl
  | .placeholder :: segs, a :: args, h => by
    have ih := identifiers_same template segs args fun p hp => h p (by simp [List.filter_cons, hp])
    simpa [identifiers] using ih
  | .escape :: segs, a :: args, h => by
    have ih := identifiers_same template segs args fun p hp => h p (by simp [List.filter_cons, hp])
    have ha : (f a).arg = (g a).arg := h (.escape, a) (by simp [List.filter_cons]) rfl
    simp only [List.map_cons, identifiers, ha, ih]

theorem filled_alike (hf : ∀ x, (f x).Alike left right (g x)) (template : String) (position : Position) :
    ∀ (segs : List Segment) (args : List κ),
      (∀ p ∈ (segs.filter Segment.isMarker).zip args, p.1 = .escape → (f p.2).arg = (g p.2).arg) →
      Alike left right (concat (filled template position segs (args.map f)))
        (concat (filled template position segs (args.map g)))
  | [], args, _ => by cases args <;> exact Alike.nil
  | .text cs :: segs, args, h => (Alike.text _).append (filled_alike hf template position segs args h)
  | .escape :: segs, [], _ => Alike.nil
  | .placeholder :: segs, [], _ => Alike.nil
  | .placeholder :: segs, a :: args, h => by
    have ih := filled_alike hf template position segs args fun p hp => h p (by simp [List.filter_cons, hp])
    exact ((hf a).pieces position template).append ih
  | .escape :: segs, a :: args, h => by
    have ih := filled_alike hf template position segs args fun p hp => h p (by simp [List.filter_cons, hp])
    have ha : (f a).arg = (g a).arg := h (.escape, a) (by simp [List.filter_cons]) rfl
    have hident : Alike left right (identifier template (f a).arg) (identifier template (g a).arg) := by
      rw [ha]
      exact Alike.bind _ fun _ _ => Alike.text _
    exact hident.append ih

theorem pieces_alike (hf : ∀ x, (f x).Alike left right (g x)) (template : String) (args : List κ)
    (h : SameIdents (fun x => (f x).arg) (fun x => (g x).arg) template args) (position : Position) :
    Alike left right (pieces template (args.map f) position) (pieces template (args.map g) position) := by
  unfold pieces
  simp only [List.length_map]
  split_ifs with hcount hzero
  · exact Alike.error _
  · exact Alike.text _
  · have hsame := h (not_not.1 hcount)
    rw [identifiers_same template _ args hsame]
    exact Alike.bind _ fun _ _ => filled_alike hf template position _ args hsame

end Template

namespace Condition

/-- The operands of a list-like operator only count by their number, and by being lists. -/
theorem operatorTemplate_same {f g : κ → Arg} (hlike : ∀ x, (f x).isListLike = (g x).isListLike)
    (column op : String) (operands : List κ) :
    operatorTemplate column op (operands.map f) = operatorTemplate column op (operands.map g) := by
  unfold operatorTemplate
  cases Operator.ofText? op with
  | none => rfl
  | some o =>
    match o, operands with
    | .membership, [x] => simp only [List.map_cons, List.map_nil, hlike]
    | .membership, [] | .between, [] | .compare, [] => rfl
    | .between, [_] | .compare, [_] => rfl
    | .between, [_, _] | .compare, [_, _] => rfl
    | .between, _ :: _ :: _ :: _ | .compare, _ :: _ :: _ :: _ => rfl
    | .membership, _ :: _ :: _ => simp

/-- The shape of a condition does not depend on the contents of its leaves. -/
theorem shape_same {f g : κ → Arg} (hlike : ∀ x, (f x).isListLike = (g x).isListLike) (c : Condition κ)
    (h : c.SameNames f g) : (c.map f).shape = (c.map g).shape := by
  obtain ⟨connector, template, args⟩ := c
  simp only [Condition.map, shape, List.length_map, List.isEmpty_map]
  split_ifs with hasis hcolumn
  · rfl
  · rfl
  · obtain _ | ⟨op, _ | ⟨x, xs⟩⟩ := args
    · rfl
    · rfl
    · have hop : f op = g op := h.operator (Nat.eq_zero_of_not_pos (hasis ∘ .inr)) (by simpa using hcolumn) op x xs rfl
      have htemplate : ∀ o, operatorTemplate (Text.trim template) o ((x :: xs).map f) =
          operatorTemplate (Text.trim template) o ((x :: xs).map g) := fun o =>
        operatorTemplate_same hlike (Text.trim template) o (x :: xs)
      simp only [List.map_cons] at htemplate
      simp only [List.map_cons, hop, htemplate]

theorem pieces_alike (hf : ∀ x, (f x).Alike left right (g x)) (c : Condition κ)
    (h : c.SameNames (fun x => (f x).arg) fun x => (g x).arg) :
    Alike left right (c.map f).pieces (c.map g).pieces := by
  have hshape : (c.map (RenderedArg.arg ∘ f)).shape = (c.map (RenderedArg.arg ∘ g)).shape :=
    shape_same (fun x => (hf x).isListLike) c h
  unfold pieces
  rw [Condition.map_map, Condition.map_map, ← hshape]
  refine Alike.bind _ fun shape hs => ?_
  have hdrop : ∀ k : κ → RenderedArg, (c.map k).args.drop shape.used = (c.args.drop shape.used).map k := fun k =>
    List.map_drop.symm
  rw [hdrop, hdrop]
  refine Template.pieces_alike hf shape.template _ ?_ .value
  rcases shape_cases hs with ⟨-, rfl⟩ | ⟨-, hcarries⟩
  · exact h.idents
  · -- what is written behind a column has no `??`
    intro _ p hp hescape
    have hmem : .escape ∈ (Template.segments shape.template).filter Template.Segment.isMarker :=
      hescape ▸ (List.of_mem_zip hp).1
    rcases hcarries with ⟨n, hn⟩ | hzero
    · exact absurd (List.mem_filter.1 hmem).1 hn.segments_spec.1
    · rw [List.filter_eq_nil_iff.2 (List.countP_eq_zero.1 hzero)] at hmem
      exact nomatch hmem

theorem allPieces_alike (hf : ∀ x, (f x).Alike left right (g x)) (cs : List (Condition κ))
    (h : ∀ c ∈ cs, c.SameNames (fun x => (f x).arg) fun x => (g x).arg) :
    Alike left right (allPieces (cs.map (Condition.map f))) (allPieces (cs.map (Condition.map g))) := by
  cases cs with
  | nil => exact Alike.nil
  | cons c cs =>
    have hnext : Alike left right (concat ((cs.map (Condition.map f)).map nextPieces))
        (concat ((cs.map (Condition.map g)).map nextPieces)) := by
      rw [List.map_map, List.map_map]
      exact Alike.concat (Alike.map cs fun d hd =>
        (Alike.text _).append (pieces_alike hf d (h d (List.mem_cons_of_mem c hd))))
    exact (pieces_alike hf c (h c List.mem_cons_self)).append hnext

end Condition

/-! ## Records -/

/-- The entries of a record only depend on what a patch looks at. -/
theorem Record.entries_same {f g : κ → Arg} (rules : PayloadRules) (row : Record κ)
    (h : rules.patch = true → row.SameZeros f g) : row.entries f rules = row.entries g rules := by
  have hentry : ∀ x ∈ row.fields, Field.entry? f rules x = Field.entry? g rules x := by
    intro x hx
    unfold Field.entry?
    cases hp : rules.patch with
    | false => simp only [Bool.false_and]
    | true =>
      obtain ⟨hzero, hkind⟩ := h hp x hx
      rw [hzero, hkind]
  have hentries : row.fields.filterMap (Field.entry? f rules) = row.fields.filterMap (Field.entry? g rules) :=
    List.filterMap_congr hentry
  simp only [entries, hentries]

/-- The columns and groups of records that are not patched do not depend on their values. -/
theorem Payload.ofRecords_same {f g : κ → Arg} (absent : κ) (rules : PayloadRules) (rows : List (Record κ))
    (h : rules.patch = false) : ofRecords f absent rules rows = ofRecords g absent rules rows := by
  have hentries : ∀ row : Record κ, row.entries f rules = row.entries g rules := fun row =>
    row.entries_same rules fun hp => absurd (h.symm.trans hp) Bool.false_ne_true
  cases rows with
  | nil => rfl
  | cons first rest => simp only [ofRecords, hentries]

/-! ## Clauses -/

namespace Clauses

variable (hf : ∀ x, (f x).Alike left right (g x)) (hf' : ∀ y, (f' y).Alike left right (g' y))
  (c : Clauses κ μ) (os os' : List Order)

include hf

theorem projectionPieces_alike (p : Projection κ) :
    Alike left right (projectionPieces (p.map f)) (projectionPieces (p.map g)) := by
  cases p with
  | column s => exact Alike.text s
  | arg x => exact (hf x).pieces .source "SELECT"

theorem projection_alike (ps : List (Projection κ)) :
    Alike left right
      (if (ps.map (Projection.map f)).isEmpty then Rendering.text "*"
        else join ", " ((ps.map (Projection.map f)).map projectionPieces))
      (if (ps.map (Projection.map g)).isEmpty then Rendering.text "*"
        else join ", " ((ps.map (Projection.map g)).map projectionPieces)) := by
  simp only [List.isEmpty_map]
  split_ifs
  · exact Alike.text _
  · rw [List.map_map, List.map_map]
    exact Alike.join _ (Alike.map ps fun p _ => projectionPieces_alike hf p)

theorem groupPieces_alike (group : List κ) : Alike left right (groupPieces (group.map f)) (groupPieces (group.map g)) := by
  unfold groupPieces
  rw [List.map_map, List.map_map]
  have hvalues := Alike.join ", " (Alike.map group fun x _ => (hf x).pieces .value "VALUES")
  exact (Alike.text _).append (hvalues.append (Alike.text _))

theorem assignmentsPieces_alike (rules : PayloadRules) (context : String) (row : Record κ)
    (h : rules.patch = true → row.SameZeros (fun x => (f x).arg) fun x => (g x).arg) :
    Alike left right ((c.filled f f' os).assignmentsPieces rules context (row.map f))
      ((c.filled g g' os').assignmentsPieces rules context (row.map g)) := by
  have hkind : (c.filled f f' os).operation.kind = (c.filled g g' os').operation.kind :=
    (Operation.kind_map f f' _).trans (Operation.kind_map g g' _).symm
  have hentries : row.entries (RenderedArg.arg ∘ f) rules = row.entries (RenderedArg.arg ∘ g) rules :=
    row.entries_same rules h
  unfold assignmentsPieces
  rw [Record.entries_map, Record.entries_map, hentries, hkind]
  simp only [List.isEmpty_map]
  split_ifs
  · exact Alike.error _
  · rw [List.map_map, List.map_map]
    exact Alike.join _ (Alike.map _ fun e _ => (Alike.text _).append ((hf e.2).pieces .value context))

/-- A column that a later record lacks is NULL in both statements. -/
theorem valuesPieces_alike (rows : List (Record κ)) :
    Alike left right ((c.filled f f' os).valuesPieces (rows.map (Record.map f)))
      ((c.filled g g' os').valuesPieces (rows.map (Record.map g))) := by
  let withNull (k : κ → RenderedArg) (x : Option κ) : RenderedArg := x.elim RenderedArg.null k
  have hnull : ∀ x, (withNull f x).Alike left right (withNull g x) := fun x => by
    cases x with
    | none => exact ⟨rfl, fun _ _ => Alike.text _⟩
    | some x => exact hf x
  -- missing values are `none` first, so that the payload is made of the same cells on both sides
  have hpayload : ∀ k : κ → RenderedArg,
      Payload.ofRecords RenderedArg.arg RenderedArg.null (c.payloadRules false) (rows.map (Record.map k)) =
        (Payload.ofRecords (RenderedArg.arg ∘ withNull k) none (c.payloadRules false)
          (rows.map (Record.map some))).map (withNull k) := by
    intro k
    have hk : withNull k ∘ some = k := rfl
    rw [← Payload.ofRecords_map, List.map_map]
    simp only [Function.comp_def, Record.map_map]
    rfl
  have hsame : Payload.ofRecords (RenderedArg.arg ∘ withNull f) none (c.payloadRules false) (rows.map (Record.map some)) =
      Payload.ofRecords (RenderedArg.arg ∘ withNull g) none (c.payloadRules false) (rows.map (Record.map some)) :=
    Payload.ofRecords_same _ _ _ rfl
  have hf' : (c.filled f f' os).payloadRules false = c.payloadRules false := rfl
  have hg' : (c.filled g g' os').payloadRules false = c.payloadRules false := rfl
  unfold valuesPieces
  rw [hf', hg', hpayload f, hpayload g, hsame]
  generalize Payload.ofRecords _ _ _ _ = payload
  simp only [Payload.map, List.isEmpty_map]
  refine (Alike.text _).append ?_
  split_ifs
  · exact Alike.text _
  · rw [List.map_map, List.map_map]
    exact Alike.join _ (Alike.map _ fun group _ => groupPieces_alike hnull group)

include hf'

omit hf in
theorem tablePieces_alike : Alike left right (c.filled f f' os).tablePieces (c.filled g g' os').tablePieces := by
  have hleft : (c.filled f f' os).table = c.table.map (TableRef.map f') := rfl
  have hright : (c.filled g g' os').table = c.table.map (TableRef.map g') := rfl
  have hkind : (c.filled f f' os).operation.kind = (c.filled g g' os').operation.kind :=
    (Operation.kind_map f f' _).trans (Operation.kind_map g g' _).symm
  unfold tablePieces
  rw [hleft, hright, hkind]
  obtain _ | s | q := c.table
  · exact Alike.error _
  · exact Alike.text s
  · exact (Alike.text _).append (((hf' q).pieces false).append (Alike.text _))

theorem headPieces_alike (leading : List String)
    (h : c.operation.SameNames (fun x => (f x).arg) fun x => (g x).arg) :
    Alike left right ((c.filled f f' os).headPieces leading) ((c.filled g g' os').headPieces leading) := by
  have htable := tablePieces_alike hf' (f := f) (g := g) c os os'
  have hleft : (c.filled f f' os).operation = c.operation.map f f' := rfl
  have hright : (c.filled g g' os').operation = c.operation.map g g' := rfl
  have hnopatch : ∀ row : Record κ, (c.payloadRules false).patch = true →
      row.SameZeros (fun x => (f x).arg) fun x => (g x).arg := fun _ hp => (nomatch hp)
  unfold headPieces
  rw [hleft, hright]
  -- which values are zero matters to a patch only
  cases hop : c.operation with
  | select =>
    exact (Alike.text _).append ((projection_alike hf c.columns).append ((Alike.text _).append htable))
  | insert rows =>
    exact (Alike.text _).append (htable.append ((Alike.text _).append (valuesPieces_alike hf c os os' rows)))
  | replace rows =>
    exact (Alike.text _).append (htable.append ((Alike.text _).append (valuesPieces_alike hf c os os' rows)))
  | update row =>
    exact (Alike.text _).append (htable.append ((Alike.text _).append
      (assignmentsPieces_alike hf c os os' _ "SET" row (hnopatch row))))
  | patch row =>
    rw [hop] at h
    exact (Alike.text _).append (htable.append ((Alike.text _).append
      (assignmentsPieces_alike hf c os os' _ "SET" row fun _ => h)))
  | delete => exact (Alike.text _).append htable
  | insertSelect source columns =>
    exact (Alike.text _).append (htable.append ((Alike.text _).append ((hf' source).pieces true)))
  | unset => exact Alike.error _
  | existence => exact Alike.error _
  | raw template args => exact Alike.error _

omit hf in
theorem aliasPieces_alike (withAlias : Bool) :
    List.Forall₂ (Alike left right) ((c.filled f f' os).aliasPieces withAlias)
      ((c.filled g g' os').aliasPieces withAlias) := by
  have hleft : (c.filled f f' os).table = c.table.map (TableRef.map f') := rfl
  have hright : (c.filled g g' os').table = c.table.map (TableRef.map g') := rfl
  have hname : (c.filled f f' os).aliasName = (c.filled g g' os').aliasName := rfl
  have htext : ∀ name : Option String,
      List.Forall₂ (Alike left right) (name.map fun s => Rendering.text ("AS " ++ s)).toList
        (name.map fun s => Rendering.text ("AS " ++ s)).toList := fun name => by
    cases name with
    | none => exact .nil
    | some s => exact .cons (Alike.text _) .nil
  unfold aliasPieces
  rw [hleft, hright, hname]
  obtain _ | s | q := c.table
  · exact htext _
  · exact htext _
  · simp only [Option.map_some, TableRef.map, (hf' q).aliasName]
    exact htext _

omit hf' in
theorem duplicatePieces_alike :
    List.Forall₂ (Alike left right) (c.filled f f' os).duplicatePieces (c.filled g g' os').duplicatePieces := by
  have hleft : (c.filled f f' os).duplicate = c.duplicate.map (Record.map f) := rfl
  have hright : (c.filled g g' os').duplicate = c.duplicate.map (Record.map g) := rfl
  unfold duplicatePieces
  rw [hleft, hright]
  cases c.duplicate with
  | none => exact .nil
  | some row =>
    refine .cons ((Alike.text _).append ?_) .nil
    exact assignmentsPieces_alike hf c os os' _ "ON DUPLICATE" row (fun hp => (nomatch hp))

omit hf in
theorem unionPieces_alike (u : Union μ) : Alike left right (unionPieces (u.map f')) (unionPieces (u.map g')) :=
  (Alike.text _).append ((hf' u.query).pieces true)

theorem joinPieces_alike (j : Join κ μ)
    (h : ∀ w ∈ j.conditions, w.SameNames (fun x => (f x).arg) fun x => (g x).arg) :
    Alike left right (joinPieces (j.map f f')) (joinPieces (j.map g g')) := by
  obtain ⟨kind, table, conditions⟩ := j
  have htable : Alike left right (joinedTablePieces (table.map f')) (joinedTablePieces (table.map g')) := by
    cases table with
    | name s => exact Alike.text s
    | query q => exact (hf' q).placed .source
  refine (Alike.text _).append (htable.append ?_)
  simp only [Join.map, List.isEmpty_map]
  split_ifs
  · exact Alike.nil
  · exact (Alike.text _).append ((Condition.allPieces_alike hf conditions h).append (Alike.text _))

omit hf' in
theorem conditionsPieces_alike (keyword : String) (cs : List (Condition κ))
    (h : ∀ w ∈ cs, w.SameNames (fun x => (f x).arg) fun x => (g x).arg) :
    List.Forall₂ (Alike left right) (conditionsPieces keyword (cs.map (Condition.map f)))
      (conditionsPieces keyword (cs.map (Condition.map g))) := by
  simp only [conditionsPieces, List.isEmpty_map]
  split_ifs
  · exact .nil
  · exact .cons ((Alike.text _).append (Condition.allPieces_alike hf cs h)) .nil

end Clauses

end Parts

/-! ## Orders -/

theorem leaves_alike (leaves : List Λ) :
    List.Forall₂ (Alike left right) ((leaves.map left).map value) ((leaves.map right).map value) := by
  rw [List.map_map, List.map_map]
  exact Alike.map leaves fun l _ => Alike.leaf l

theorem Clauses.orderPieces_alike (o : OrderForm Λ) :
    Alike left right (orderPieces (o.order left)) (orderPieces (o.order right)) := by
  cases o with
  | term s => exact Alike.text s
  | field column leaves =>
    simp only [OrderForm.order, orderPieces, List.isEmpty_map]
    split_ifs
    · exact Alike.error _
    · have hleaves : List.Forall₂ (Alike left right) (Rendering.text column :: (leaves.map left).map value)
          (Rendering.text column :: (leaves.map right).map value) := .cons (Alike.text column) (leaves_alike leaves)
      exact (Alike.text _).append ((Alike.join ", " hleaves).append (Alike.text _))

theorem Clauses.ordersPieces_alike (os : List (OrderForm Λ)) :
    List.Forall₂ (Alike left right) (ordersPieces (os.map (OrderForm.order left)))
      (ordersPieces (os.map (OrderForm.order right))) := by
  simp only [ordersPieces, List.isEmpty_map]
  split_ifs
  · exact .nil
  · have horders : List.Forall₂ (Alike left right) ((os.map (OrderForm.order left)).map orderPieces)
        ((os.map (OrderForm.order right)).map orderPieces) := by
      rw [List.map_map, List.map_map]
      exact Alike.map os fun o _ => orderPieces_alike o
    exact .cons ((Alike.text _).append (Alike.join ", " horders)) .nil

/-! ## Whole statements -/

namespace Clauses

variable {κ μ : Type} {f g : κ → RenderedArg} {f' g' : μ → RenderedQuery} (hf : ∀ x, (f x).Alike left right (g x))
  (hf' : ∀ y, (f' y).Alike left right (g' y)) (c : Clauses κ μ) (os : List (OrderForm Λ))

include hf hf'

theorem parts_alike (withAlias : Bool) (options : Options) (h : c.SameNames (fun x => (f x).arg) fun x => (g x).arg) :
    List.Forall₂ (Alike left right) ((c.filled f f' (os.map (OrderForm.order left))).parts withAlias options)
      ((c.filled g g' (os.map (OrderForm.order right))).parts withAlias options) := by
  have hhead := headPieces_alike hf hf' c (os.map (OrderForm.order left)) (os.map (OrderForm.order right))
    options.leading h.operation
  have hunions : List.Forall₂ (Alike left right) ((c.unions.map (Union.map f')).map unionPieces)
      ((c.unions.map (Union.map g')).map unionPieces) := by
    rw [List.map_map, List.map_map]
    exact Alike.map c.unions fun u _ => unionPieces_alike hf' u
  have hjoins : List.Forall₂ (Alike left right) ((c.joins.map (Join.map f f')).map joinPieces)
      ((c.joins.map (Join.map g g')).map joinPieces) := by
    rw [List.map_map, List.map_map]
    exact Alike.map c.joins fun j hj => joinPieces_alike hf hf' j (h.joins j hj)
  have htexts : ∀ ss : List String,
      List.Forall₂ (Alike left right) (ss.map Rendering.text) (ss.map Rendering.text) := fun ss =>
    Alike.map ss fun s _ => Alike.text s
  unfold parts
  -- in the order in which the parts are written
  refine List.rel_append (List.rel_append (List.rel_append (List.rel_append (List.rel_append (List.rel_append
    (List.rel_append (List.rel_append (List.rel_append (List.rel_append (.cons hhead .nil) ?_) ?_) hunions) hjoins)
    ?_) ?_) ?_) (htexts c.groupClause)) (htexts c.limitClause)) (htexts options.trailing)
  · exact aliasPieces_alike hf' c _ _ withAlias
  · exact duplicatePieces_alike hf c _ _
  · exact conditionsPieces_alike hf "WHERE" c.wheres h.wheres
  · exact conditionsPieces_alike hf "HAVING" c.havings h.havings
  · exact ordersPieces_alike os

theorem clausePieces_alike (withAlias : Bool) (h : c.SameNames (fun x => (f x).arg) fun x => (g x).arg) :
    Alike left right ((c.filled f f' (os.map (OrderForm.order left))).clausePieces withAlias)
      ((c.filled g g' (os.map (OrderForm.order right))).clausePieces withAlias) :=
  Alike.bind (Options.ofList c.options) fun options _ => Alike.join " " (parts_alike hf hf' c os withAlias options h)

theorem pieces_alike (withAlias : Bool) (h : c.SameNames (fun x => (f x).arg) fun x => (g x).arg) :
    Alike left right ((c.filled f f' (os.map (OrderForm.order left))).pieces withAlias)
      ((c.filled g g' (os.map (OrderForm.order right))).pieces withAlias) := by
  have hleft : (c.filled f f' (os.map (OrderForm.order left))).operation = c.operation.map f f' := rfl
  have hright : (c.filled g g' (os.map (OrderForm.order right))).operation = c.operation.map g g' := rfl
  have hclauses := clausePieces_alike hf hf' c os withAlias h
  unfold pieces
  rw [hleft, hright]
  cases hop : c.operation with
  | unset => exact Alike.error _
  | raw template args =>
    have hnames := h.operation
    rw [hop] at hnames
    exact Template.pieces_alike hf template args hnames .bare
  | existence =>
    have hselect := clausePieces_alike hf hf' { c with operation := .select } os withAlias
      ⟨trivial, h.wheres, h.havings, h.joins⟩
    exact (Alike.text _).append (hselect.append (Alike.text _))
  | _ => exact hclauses

end Clauses

/-! ## All arguments and statements -/

theorem Arg.Alike.isListLike {a b : Arg} (h : a.Alike left right b) : a.isListLike = b.isListLike := by
  cases h <;> rfl

mutual

/-- Arguments with the same leaves are rendered with the same leaves. -/
theorem Arg.Alike.rendered : ∀ {a b : Arg}, a.Alike left right b → a.rendered.Alike left right b.rendered
  | _, _, .value leaf => by
    rw [Arg.rendered, Arg.rendered]
    exact ⟨rfl, fun _ _ => Alike.leaf leaf⟩
  | _, _, .null => by
    rw [Arg.rendered]
    exact ⟨rfl, fun _ _ => Alike.text _⟩
  | _, _, .raw template args f g parts names => by
    have hparts : ∀ x, (f x).rendered.Alike left right (g x).rendered := fun x => (parts x).rendered
    rw [Arg.rendered_raw, Arg.rendered_raw, List.map_map, List.map_map]
    refine ⟨rfl, fun _ _ => Template.pieces_alike hparts template args ?_ .bare⟩
    simpa only [Arg.arg_rendered] using names
  | _, _, .query parts => by
    rw [Arg.rendered, Arg.rendered]
    exact ⟨rfl, fun position _ => parts.rendered.placed position⟩
  | _, _, .ident name => by
    rw [Arg.rendered]
    exact ⟨rfl, fun _ _ => Alike.bind _ fun _ _ => Alike.text _⟩
  | _, _, .seq leaves => by
    rw [Arg.rendered, Arg.rendered]
    refine ⟨rfl, fun _ context => ?_⟩
    simp only [sequencePieces, List.isEmpty_map]
    split_ifs
    · exact Alike.error _
    · exact (Alike.text _).append ((Alike.join ", " (leaves_alike leaves)).append (Alike.text _))

/-- Statements with the same leaves are rendered with the same leaves. -/
theorem Statement.Alike.rendered : ∀ {s t : Statement}, s.Alike left right t → s.rendered.Alike left right t.rendered
  | _, _, .mk c f g f' g' orders args queries names => by
    have hargs : ∀ x, (f x).rendered.Alike left right (g x).rendered := fun x => (args x).rendered
    have hqueries : ∀ y, (f' y).rendered.Alike left right (g' y).rendered := fun y => (queries y).rendered
    rw [Statement.rendered_mk, Statement.rendered_mk]
    refine ⟨rfl, fun withAlias => ?_⟩
    rw [Clauses.map_filled, Clauses.map_filled]
    exact c.pieces_alike hargs hqueries orders withAlias (by simpa only [Arg.arg_rendered] using names)

end

/-! ## Building -/

theorem sqlOf_forms (content content' : Λ → Value) (ps : List (PieceForm Λ)) :
    sqlOf (ps.map (PieceForm.piece content)) = sqlOf (ps.map (PieceForm.piece content')) := by
  unfold sqlOf
  rw [List.map_map, List.map_map]
  refine congrArg String.join (List.map_congr_left fun p _ => ?_)
  cases p <;> rfl

/-- The leaf of a form. -/
def PieceForm.leaf? : PieceForm Λ → Option Λ
  | text _ => none
  | leaf l => some l

theorem valuesOf_forms (content : Λ → Value) (ps : List (PieceForm Λ)) :
    valuesOf (ps.map (PieceForm.piece content)) = (ps.filterMap PieceForm.leaf?).map content := by
  unfold valuesOf
  rw [List.filterMap_map, List.map_filterMap]
  refine congrArg (List.filterMap · ps) (funext fun p => ?_)
  cases p <;> rfl

/-- **Values stay out of the text.** Two statements that are equal but for the contents of their leaves fail with the
same error, or have the same text; their bound values are the contents of the same leaves in the same order. -/
theorem build_of_alike {s t : Statement} (h : s.Alike left right t) :
    (∃ e, s.build = .error e ∧ t.build = .error e) ∨
      ∃ (sql : String) (leaves : List Λ), s.build = .ok ⟨sql, leaves.map left⟩ ∧ t.build = .ok ⟨sql, leaves.map right⟩ := by
  have hs : s.build = (s.rendered.pieces true).map BuiltQuery.ofPieces := s.standalone_eq true
  have ht : t.build = (t.rendered.pieces true).map BuiltQuery.ofPieces := t.standalone_eq true
  obtain ⟨r, hleft, hright⟩ := h.rendered.pieces true
  rw [hs, ht, hleft, hright]
  cases r with
  | error e => exact .inl ⟨e, rfl, rfl⟩
  | ok ps =>
    refine .inr ⟨sqlOf (ps.map (PieceForm.piece left)), ps.filterMap PieceForm.leaf?, ?_, ?_⟩
    · simp only [Except.map, BuiltQuery.ofPieces, valuesOf_forms]
    · simp only [Except.map, BuiltQuery.ofPieces, valuesOf_forms, sqlOf_forms left right]

end Alike

/-- A selection by name, with an identifier and a value in its condition. -/
def selectByName (v : Value) : Statement :=
  .mk { operation := .select, table := some (.name "users"),
        wheres := [⟨.and, "?? = ?", [.ident "name", .value v]⟩] }

/-- Selections by two names have the same leaf. -/
theorem selectByName_alike (v w : Value) : (selectByName v).Alike Prod.fst Prod.snd (selectByName w) := by
  let c : Clauses Bool Empty :=
    { operation := .select, table := some (.name "users"), wheres := [⟨.and, "?? = ?", [true, false]⟩] }
  let part (v : Value) (b : Bool) : Arg := if b then .ident "name" else .value v
  have hparts : ∀ b, (part v b).Alike Prod.fst Prod.snd (part w b)
    | true => .ident "name"
    | false => .value (v, w)
  have hmarkers : (Template.segments "?? = ?").filter Template.Segment.isMarker = [.escape, .placeholder] := by decide
  have hcondition : Condition.SameNames (part v) (part w) ⟨.and, "?? = ?", [true, false]⟩ := by
    refine ⟨fun _ p hp hescape => ?_, fun hzero => absurd hzero (by decide)⟩
    rw [hmarkers] at hp
    rcases List.mem_cons.1 hp with rfl | hp
    · rfl
    · obtain rfl := List.mem_singleton.1 hp
      exact nomatch hescape
  have hnames : c.SameNames (part v) (part w) :=
    ⟨trivial, fun u hu => List.mem_singleton.1 hu ▸ hcondition, fun _ hu => (nomatch hu), fun _ hj => (nomatch hj)⟩
  exact Statement.Alike.mk c (part v) (part w) Empty.elim Empty.elim [] hparts (fun q => q.elim) hnames

/-- The name that is selected stays out of the text. -/
theorem build_selectByName :
    (∃ e, (selectByName (.text "o'hara")).build = .error e ∧ (selectByName (.text "?")).build = .error e) ∨
      ∃ (sql : String) (leaves : List (Value × Value)),
        (selectByName (.text "o'hara")).build = .ok ⟨sql, leaves.map Prod.fst⟩ ∧
          (selectByName (.text "?")).build = .ok ⟨sql, leaves.map Prod.snd⟩ :=
  build_of_alike (selectByName_alike _ _)

end FluentSql

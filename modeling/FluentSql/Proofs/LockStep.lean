import FluentSql.Proofs.Columns
import FluentSql.Proofs.Nesting
import FluentSql.Proofs.Pieces

/-!
# FluentSql.Proofs.LockStep — text and bound values are written in lock-step

* `Rendering.emit`: writes the text of pieces and binds their values behind those already bound.
* `Arg.operand_eq`, `Statement.subquery_eq`: compiling an argument or a statement is emitting its pieces.
* `build_eq_pieces`: the text of a built statement joins its pieces, its parameters are their values. No part of a
  statement looks at the values bound before it.
-/

namespace FluentSql

open Rendering

/-! ## Emitting pieces -/

@[simp] theorem Binder.fail_bind {β γ : Type} (e : SqlError) (k : β → Binder γ) :
    (Binder.fail e : Binder β) >>= k = Binder.fail e := rfl

theorem Binder.lift_bind {β γ : Type} (b : β) (k : β → Binder γ) :
    (liftM (Except.ok b : Except SqlError β) : Binder β) >>= k = k b := rfl

namespace Rendering

/-- Writes the text of pieces and binds their values behind those already bound. -/
def emit (r : Rendering) : Binder String := fun bound =>
  r.map fun ps => (sqlOf ps, bound ++ valuesOf ps)

@[simp] theorem emit_error (e : SqlError) : emit (.error e) = Binder.fail e := rfl

@[simp] theorem emit_nil : emit (.ok []) = pure "" := by
  funext bound
  simp [emit, sqlOf, valuesOf, Except.map, pure, StateT.pure, Except.pure]

@[simp] theorem emit_text (s : String) : emit (text s) = pure s := by
  funext bound
  simp [emit, text, sqlOf, valuesOf, Except.map, Piece.sql, Piece.value?, pure, StateT.pure, Except.pure]

@[simp] theorem emit_value (v : Value) : emit (value v) = Binder.bindValue v := by
  funext bound
  simp [emit, value, sqlOf, valuesOf, Except.map, Piece.sql, Piece.value?, Binder.bindValue]
  rfl

/-- Two parts in a row are written in a row. -/
@[simp] theorem emit_append (a b : Rendering) : emit (a ++ b) = (do return (← emit a) ++ (← emit b)) := by
  funext bound
  cases a with
  | error e => rfl
  | ok ps =>
    cases b with
    | error e => rfl
    | ok qs =>
      show Except.ok (sqlOf (ps ++ qs), bound ++ valuesOf (ps ++ qs)) =
        Except.ok (sqlOf ps ++ sqlOf qs, (bound ++ valuesOf ps) ++ valuesOf qs)
      rw [sqlOf_append, valuesOf_append, List.append_assoc]

@[simp] theorem emit_concat (rs : List Rendering) :
    emit (concat rs) = (do return String.join (← rs.mapM emit)) := by
  induction rs with
  | nil => simp [concat]
  | cons r rs ih => simp [concat, ih, String.join_cons]

@[simp] theorem emit_join (separator : String) (rs : List Rendering) :
    emit (join separator rs) = (do return separator.intercalate (← rs.mapM emit)) := by
  induction rs with
  | nil => simp [join]
  | cons r rs ih =>
    cases rs with
    | nil => simp [join]
    | cons s rs => simp [join, ih, String.intercalate_cons_cons, String.append_assoc]

theorem standalone_emit (r : Rendering) : Binder.standalone (emit r) = r.map BuiltQuery.ofPieces := by
  cases r <;> rfl

/-- Nothing is lost when a part is compiled by itself and spliced in. -/
@[simp] theorem spliced_emit (r : Rendering) : Binder.spliced (emit r) = emit r := by
  funext bound
  cases r <;> rfl

end Rendering

/-! ## Rendered parts as parts of the compiler -/

/-- A rendered argument as an operand. -/
def RenderedArg.operand (a : RenderedArg) : Operand :=
  ⟨a.arg, fun position context => emit (a.pieces position context)⟩

/-- A rendered query as a nested statement. -/
def RenderedQuery.subquery (q : RenderedQuery) : Subquery :=
  ⟨q.aliasName, fun withAlias => emit (q.pieces withAlias)⟩

@[simp] theorem RenderedArg.operand_null : RenderedArg.null.operand = Operand.null := by
  simp [RenderedArg.operand, RenderedArg.null, Operand.null]

@[simp] theorem RenderedArg.arg_operand (a : RenderedArg) : a.operand.arg = a.arg := rfl

@[simp] theorem RenderedArg.render_operand (a : RenderedArg) (position : Position) (context : String) :
    a.operand.render position context = emit (a.pieces position context) := rfl

theorem RenderedArg.arg_comp_operand : Operand.arg ∘ RenderedArg.operand = RenderedArg.arg := rfl

@[simp] theorem RenderedQuery.render_subquery (q : RenderedQuery) (position : Position) :
    q.subquery.render position = emit (q.placed position) := by
  cases position with
  | bare => simp [Subquery.render, RenderedQuery.placed, RenderedQuery.subquery]
  | value =>
    simp [Subquery.render, RenderedQuery.placed, RenderedQuery.subquery, Subquery.parenthesized, String.append_assoc]
  | source =>
    cases h : q.aliasName <;>
      simp [Subquery.render, RenderedQuery.placed, RenderedQuery.subquery, Subquery.parenthesized, h,
        String.append_assoc, -String.reduceAppend]

@[simp] theorem RenderedQuery.derived_subquery (q : RenderedQuery) : q.subquery.derived = emit q.derived := by
  simp [Subquery.derived, RenderedQuery.derived, RenderedQuery.subquery, Subquery.parenthesized, String.append_assoc]

/-! ## Templates and conditions -/

namespace Template

/-- Identifiers are written before values: the slots of a template are there when all its identifiers are, and then
they render to the segments that are filled one by one. -/
theorem resolve_operands (template : String) (mismatch : SqlError) (position : Position) :
    ∀ (segs : List Segment) (os : List RenderedArg), segs.countP Segment.isMarker = os.length →
      -- either both passes stop at the same identifier, or the slots render what is filled in
      (∃ e, concat (identifiers template segs os) = .error e ∧
        resolve template mismatch segs (os.map RenderedArg.operand) = .error e) ∨
      ∃ ps slots, concat (identifiers template segs os) = .ok ps ∧
        resolve template mismatch segs (os.map RenderedArg.operand) = .ok slots ∧
        slots.mapM (Slot.render template position) = (filled template position segs os).mapM emit
  | [], os, _ => .inr ⟨[], [], by cases os <;> rfl, by cases os <;> rfl, by cases os <;> rfl⟩
  | .text cs :: segs, os, h => by
    obtain ⟨e, h1, h2⟩ | ⟨ps, slots, h1, h2, h3⟩ :=
      resolve_operands template mismatch position segs os (by simpa [List.countP_cons] using h)
    · exact .inl ⟨e, by simpa [identifiers] using h1, by rw [resolve, h2]; rfl⟩
    · refine .inr ⟨ps, .text (String.ofList cs) :: slots, by simpa [identifiers] using h1, ?_, ?_⟩
      · rw [resolve, h2]
        rfl
      · simp [filled, Slot.render, h3]
  | .escape :: segs, [], h => by simp at h
  | .placeholder :: segs, [], h => by simp at h
  | .placeholder :: segs, o :: os, h => by
    obtain ⟨e, h1, h2⟩ | ⟨ps, slots, h1, h2, h3⟩ :=
      resolve_operands template mismatch position segs os (by simpa [List.countP_cons] using h)
    · exact .inl ⟨e, by simpa [identifiers] using h1, by rw [List.map_cons, resolve, h2]; rfl⟩
    · refine .inr ⟨ps, .operand o.operand :: slots, by simpa [identifiers] using h1, ?_, ?_⟩
      · rw [List.map_cons, resolve, h2]
        rfl
      · simp [filled, Slot.render, h3]
  | .escape :: segs, o :: os, h => by
    cases hname : escapeText template o.arg with
    | error e =>
      refine .inl ⟨e, by simp [identifiers, identifier, hname, concat]; rfl, ?_⟩
      rw [List.map_cons, resolve, RenderedArg.arg_operand, hname]
      rfl
    | ok name =>
      have hcons : concat (identifiers template (.escape :: segs) (o :: os)) =
          text name ++ concat (identifiers template segs os) := by
        simp [identifiers, identifier, hname, concat]
        rfl
      rw [hcons, List.map_cons, resolve, RenderedArg.arg_operand, hname]
      obtain ⟨e, h1, h2⟩ | ⟨ps, slots, h1, h2, h3⟩ :=
        resolve_operands template mismatch position segs os (by simpa [List.countP_cons] using h)
      · rw [h1, h2]
        exact .inl ⟨e, rfl, rfl⟩
      · rw [h1, h2]
        refine .inr ⟨.text name :: ps, .text name :: slots, rfl, rfl, ?_⟩
        have hemit : emit (identifier template o.arg) = pure name := by
          rw [identifier, hname]
          exact emit_text name
        simp [filled, Slot.render, h3, hemit]

/-- The text of a template is emitted from its pieces. -/
@[simp] theorem expand_operands (template : String) (os : List RenderedArg) (position : Position) :
    expand template (os.map RenderedArg.operand) position = emit (pieces template os position) := by
  unfold expand pieces
  simp only [List.length_map, countMarkers]
  by_cases hlen : (segments template).countP Segment.isMarker = os.length
  · by_cases hzero : os.length = 0
    · simp [hlen, hzero]
    · obtain ⟨e, h1, h2⟩ | ⟨ps, slots, h1, h2, h3⟩ :=
        resolve_operands template (.placeholderMismatch template os.length os.length) position _ _ hlen
      · simp [hlen, hzero, h1, h2, Except.bind]
        rfl
      · simp only [hlen, hzero, h1, h2, Except.bind, ne_eq, not_true_eq_false, if_false, emit_concat, ← h3]
        rfl
  · simp [hlen]

end Template

namespace Condition

@[simp] theorem compile_operands (c : Condition RenderedArg) : (c.map RenderedArg.operand).compile = emit c.pieces := by
  unfold compile pieces
  rw [Condition.map_map, RenderedArg.arg_comp_operand]
  cases (c.map RenderedArg.arg).shape with
  | error e => rfl
  | ok shape =>
    show Template.expand shape.template ((c.args.map RenderedArg.operand).drop shape.used) .value = _
    rw [← List.map_drop, Template.expand_operands]
    rfl

@[simp] theorem compileNext_operands (c : Condition RenderedArg) :
    (c.map RenderedArg.operand).compileNext = emit c.nextPieces := by
  unfold compileNext nextPieces
  rw [compile_operands]
  simp [Condition.map]

@[simp] theorem compileAll_operands (cs : List (Condition RenderedArg)) :
    compileAll (cs.map (Condition.map RenderedArg.operand)) = emit (allPieces cs) := by
  cases cs with
  | nil => simp [compileAll, allPieces]
  | cons c cs => simp [compileAll, allPieces, Function.comp_def]

end Condition

/-! ## Clauses -/

namespace Clauses

/-- Clauses with the operands of the compiler in place of rendered parts. -/
def operands (c : Clauses RenderedArg RenderedQuery) : Clauses Operand Subquery :=
  c.map RenderedArg.operand RenderedQuery.subquery

variable (c : Clauses RenderedArg RenderedQuery)

theorem kind_operands : c.operands.operation.kind = c.operation.kind :=
  Operation.kind_map _ _ c.operation

theorem payloadRules_operands (patch : Bool) : c.operands.payloadRules patch = c.payloadRules patch := rfl

@[simp] theorem tableText_operands : c.operands.tableText = emit c.tablePieces := by
  have htable : c.operands.table = c.table.map (TableRef.map RenderedQuery.subquery) := rfl
  unfold tableText tablePieces
  rw [htable, kind_operands]
  obtain _ | s | q := c.table
  · rfl
  · simp [TableRef.map]
  · simp [TableRef.map]

@[simp] theorem projectionEntry_operands (p : Projection RenderedArg) :
    projectionEntry (p.map RenderedArg.operand) = emit (projectionPieces p) := by
  cases p <;> simp [projectionEntry, projectionPieces, Projection.map]

theorem projectionText_operands :
    c.operands.projectionText =
      emit (if c.columns.isEmpty then text "*" else join ", " (c.columns.map projectionPieces)) := by
  cases h : c.columns with
  | nil => simp [projectionText, operands, map, h]
  | cons p ps => simp [projectionText, operands, map, h, Function.comp_def]

@[simp] theorem groupText_operands (group : List RenderedArg) :
    groupText (group.map RenderedArg.operand) = emit (groupPieces group) := by
  simp [groupText, groupPieces, Function.comp_def, String.append_assoc]

theorem valuesText_operands (rows : List (Record RenderedArg)) :
    c.operands.valuesText (rows.map (Record.map RenderedArg.operand)) = emit (c.valuesPieces rows) := by
  unfold valuesText valuesPieces
  rw [← RenderedArg.operand_null, Payload.ofRecords_map, RenderedArg.arg_comp_operand, payloadRules_operands]
  generalize Payload.ofRecords _ _ _ rows = payload
  cases h : payload.groups with
  | nil => simp [Payload.map, h]
  | cons g gs => simp [Payload.map, h, Function.comp_def]

@[simp] theorem assignment_operands (context : String) (e : String × RenderedArg) :
    assignment context (Prod.map id RenderedArg.operand e) = emit (assignmentPieces context e) := by
  simp [assignment, assignmentPieces]

theorem assignmentsText_operands (rules : PayloadRules) (context : String) (row : Record RenderedArg) :
    c.operands.assignmentsText rules context (row.map RenderedArg.operand) =
      emit (c.assignmentsPieces rules context row) := by
  unfold assignmentsText assignmentsPieces
  rw [Record.entries_map, RenderedArg.arg_comp_operand, kind_operands]
  cases h : row.entries RenderedArg.arg rules with
  | nil => rfl
  | cons e es => simp [Function.comp_def]

/-- The table comes before the payload in the text and in the order of compiling. -/
theorem insertHead_operands (verb : String) (leading : List String) (rows : List (Record RenderedArg)) :
    c.operands.insertHead verb leading (rows.map (Record.map RenderedArg.operand)) =
      emit (text (verb ++ " " ++ optionsText leading ++ "INTO ") ++
        (c.tablePieces ++ (text " " ++ c.valuesPieces rows))) := by
  simp only [insertHead, tableText_operands, valuesText_operands, emit_append, emit_text, bind_assoc, pure_bind,
    String.append_assoc]

theorem updateHead_operands (leading : List String) (patch : Bool) (row : Record RenderedArg) :
    c.operands.updateHead leading patch (row.map RenderedArg.operand) =
      emit (text ("UPDATE " ++ optionsText leading) ++
        (c.tablePieces ++ (text " SET " ++ c.assignmentsPieces (c.payloadRules patch) "SET" row))) := by
  simp only [updateHead, tableText_operands, payloadRules_operands, assignmentsText_operands, emit_append, emit_text,
    bind_assoc, pure_bind, String.append_assoc]

theorem insertSelectHead_operands (leading : List String) (source : RenderedQuery) (columns : List String) :
    c.operands.insertSelectHead leading source.subquery columns =
      emit (text ("INSERT " ++ optionsText leading ++ "INTO ") ++ (c.tablePieces ++
        (text (" " ++ if columns.isEmpty then "" else "(" ++ ", ".intercalate columns ++ ") ") ++
          source.pieces true))) := by
  simp only [insertSelectHead, tableText_operands, RenderedQuery.render_subquery, RenderedQuery.placed, emit_append,
    emit_text, bind_assoc, pure_bind, String.append_assoc]

theorem head_operands (leading : List String) : c.operands.head leading = emit (c.headPieces leading) := by
  have hop : c.operands.operation = c.operation.map RenderedArg.operand RenderedQuery.subquery := rfl
  unfold head headPieces
  rw [hop]
  cases c.operation with
  | select =>
    simp only [Operation.map, projectionText_operands, tableText_operands, emit_append, emit_text, bind_assoc,
      pure_bind, String.append_assoc]
  | insert rows => exact c.insertHead_operands "INSERT" leading rows
  | replace rows => exact c.insertHead_operands "REPLACE" leading rows
  | update row => exact c.updateHead_operands leading false row
  | patch row => exact c.updateHead_operands leading true row
  | delete => simp only [Operation.map, tableText_operands, emit_append, emit_text, pure_bind, String.append_assoc]
  | insertSelect source columns => exact c.insertSelectHead_operands leading source columns
  | unset => rfl
  | existence => rfl
  | raw template args => rfl

/-! ## The clauses behind the head -/

theorem aliasClause_operands (withAlias : Bool) :
    pure (c.operands.aliasClause withAlias) = (c.aliasPieces withAlias).mapM emit := by
  have htable : c.operands.table = c.table.map (TableRef.map RenderedQuery.subquery) := rfl
  have halias : c.operands.aliasName = c.aliasName := rfl
  unfold aliasClause aliasPieces
  rw [htable, halias]
  obtain _ | s | q := c.table
  · cases h : (if withAlias then c.aliasName else none).or none <;> simp [h]
  · cases h : (if withAlias then c.aliasName else none).or none <;> simp [h, TableRef.map]
  · cases h : (if withAlias then c.aliasName else none).or q.aliasName <;>
      simp [h, TableRef.map, RenderedQuery.subquery]

theorem duplicateClause_operands : c.operands.duplicateClause = c.duplicatePieces.mapM emit := by
  have hdup : c.operands.duplicate = c.duplicate.map (Record.map RenderedArg.operand) := rfl
  unfold duplicateClause duplicatePieces
  rw [hdup]
  cases c.duplicate with
  | none => simp
  | some row => simp [payloadRules_operands, assignmentsText_operands]

@[simp] theorem unionClause_operands (u : Union RenderedQuery) :
    unionClause (u.map RenderedQuery.subquery) = emit (unionPieces u) := by
  cases h : u.all <;> simp [unionClause, unionPieces, Union.map, RenderedQuery.placed, h]

@[simp] theorem joinClause_operands (j : Join RenderedArg RenderedQuery) :
    joinClause (j.map RenderedArg.operand RenderedQuery.subquery) = emit (joinPieces j) := by
  obtain ⟨kind, table, conditions⟩ := j
  cases conditions with
  | nil => cases table <;> simp [joinClause, joinPieces, joinedTablePieces, Join.map, TableRef.map]
  | cons w ws =>
    have hall := Condition.compileAll_operands (w :: ws)
    rw [List.map_cons] at hall
    cases table <;>
      simp [joinClause, joinPieces, joinedTablePieces, Join.map, TableRef.map, hall, String.append_assoc]

theorem conditionsClause_operands (keyword : String) (cs : List (Condition RenderedArg)) :
    conditionsClause keyword (cs.map (Condition.map RenderedArg.operand)) =
      (conditionsPieces keyword cs).mapM emit := by
  unfold conditionsClause conditionsPieces
  rw [Condition.compileAll_operands]
  cases cs <;> simp [String.append_assoc]

@[simp] theorem orderTerm_eq (o : Order) : orderTerm o = emit (orderPieces o) := by
  cases o with
  | term s => simp [orderTerm, orderPieces]
  | field column values =>
    unfold orderTerm orderPieces
    cases values with
    | nil => rfl
    | cons v vs => simp [Function.comp_def, String.append_assoc]

theorem orderClause_operands : c.operands.orderClause = (ordersPieces c.orders).mapM emit := by
  have horders : c.operands.orders = c.orders := rfl
  unfold orderClause ordersPieces
  rw [horders, show orderTerm = fun o => emit (orderPieces o) from funext orderTerm_eq]
  cases c.orders <;> simp [Function.comp_def]

/-! ## Whole statements -/

theorem mapM_emit_text (ss : List String) : (ss.map text).mapM emit = pure ss := by
  induction ss with
  | nil => rfl
  | cons s ss ih => simp_all

theorem assembleClauses_operands (withAlias : Bool) :
    c.operands.assembleClauses withAlias = emit (c.clausePieces withAlias) := by
  have hoptions : c.operands.options = c.options := rfl
  have hwheres : conditionsClause "WHERE" c.operands.wheres = (conditionsPieces "WHERE" c.wheres).mapM emit :=
    conditionsClause_operands "WHERE" c.wheres
  have hhavings : conditionsClause "HAVING" c.operands.havings = (conditionsPieces "HAVING" c.havings).mapM emit :=
    conditionsClause_operands "HAVING" c.havings
  have hunions : c.operands.unions.mapM unionClause = (c.unions.map unionPieces).mapM emit := by
    simp [operands, map, Function.comp_def]
  have hjoins : c.operands.joins.mapM joinClause = (c.joins.map joinPieces).mapM emit := by
    simp [operands, map, Function.comp_def]
  have hgroups : c.operands.groupClause = c.groupClause := rfl
  have hlimit : c.operands.limitClause = c.limitClause := rfl
  unfold assembleClauses clausePieces
  rw [hoptions, hwheres, hhavings, hunions, hjoins, hgroups, hlimit]
  -- the options are read first, and nothing is bound before that
  cases Options.ofList c.options with
  | error e => rfl
  | ok options =>
    show (liftM (Except.ok options) >>= _) = emit (join " " (c.parts withAlias options))
    rw [Binder.lift_bind]
    simp only [head_operands, duplicateClause_operands, orderClause_operands, parts, emit_join, List.mapM_append,
      mapM_emit_text, ← aliasClause_operands, List.mapM_cons, List.mapM_nil, bind_assoc, pure_bind]

/-- Compiling clauses is emitting their pieces. -/
theorem assemble_operands (withAlias : Bool) : c.operands.assemble withAlias = emit (c.pieces withAlias) := by
  have hselect : ({ c.operands with operation := .select } : Clauses Operand Subquery) =
      ({ c with operation := .select } : Clauses RenderedArg RenderedQuery).operands := rfl
  have hop : c.operands.operation = c.operation.map RenderedArg.operand RenderedQuery.subquery := rfl
  unfold assemble pieces
  rw [hop, hselect, assembleClauses_operands, assembleClauses_operands]
  cases c.operation with
  | raw template args => exact Template.expand_operands template args .bare
  | existence => simp only [Operation.map, emit_append, emit_text, bind_assoc, pure_bind, String.append_assoc]
  | _ => rfl

end Clauses

/-! ## All arguments and statements -/

theorem mapM_emit_value (items bound : List Value) :
    (items.map value).mapM emit bound = .ok (List.replicate items.length "?", bound ++ items) := by
  induction items generalizing bound with
  | nil => simp [pure, StateT.pure, Except.pure]
  | cons v vs ih =>
    have hv : emit (value v) bound = .ok ("?", bound ++ [v]) := by rw [emit_value]; rfl
    simp only [List.map_cons, List.mapM_cons, bind, StateT.bind, Except.bind, hv, ih]
    simp [pure, StateT.pure, Except.pure, List.replicate_succ]

/-- A sequence is emitted from its elements, one by one. -/
theorem bindAll_eq (context : String) (items : List Value) :
    Binder.bindAll context items = emit (sequencePieces context items) := by
  unfold Binder.bindAll sequencePieces
  cases items with
  | nil => rfl
  | cons v vs =>
    funext bound
    simp only [List.isEmpty_cons, Bool.false_eq_true, if_false, emit_append, emit_text, emit_join, bind_assoc, pure_bind]
    simp only [bind, StateT.bind, Except.bind, mapM_emit_value]
    simp [placeholders, modify, modifyGet, MonadStateOf.modifyGet, StateT.modifyGet, pure, StateT.pure, Except.pure,
      String.append_assoc]

/-- Compiling an argument or a statement is emitting its pieces, by induction over nested statements. -/
theorem operand_and_subquery_eq :
    (∀ a : Arg, a.operand = a.rendered.operand) ∧ ∀ s : Statement, s.subquery = s.rendered.subquery := by
  refine nested_induction ?_ ?_ ?_ ?_ ?_ ?_ ?_
  · intro v
    simp [Arg.operand, Arg.rendered, RenderedArg.operand]
  · simp [Arg.operand, Arg.rendered]
  · intro template args
    have hargs : (args.map Subtype.val).map Arg.operand =
        ((args.map Subtype.val).map Arg.rendered).map RenderedArg.operand := by
      simp only [List.map_map]
      exact List.map_congr_left fun a _ => a.2
    rw [Arg.operand_raw, Arg.rendered_raw, hargs, Template.expand_operands]
    rfl
  · intro s hs
    simp [Arg.operand, Arg.rendered, RenderedArg.operand, hs]
  · intro name
    simp only [Arg.operand, Arg.rendered, RenderedArg.operand]
    cases quoteIdent name with
    | error e => rfl
    | ok sql => exact congrArg (Operand.mk _) (funext fun _ => funext fun _ => (emit_text sql).symm)
  · intro items
    simp only [Arg.operand, Arg.rendered, RenderedArg.operand, bindAll_eq]
  · intro c
    -- the parts carry their hypotheses, so mapping over them uses these
    have hc : (c.map Subtype.val Subtype.val).map Arg.operand Statement.subquery =
        ((c.map Subtype.val Subtype.val).map Arg.rendered Statement.rendered).operands := by
      have ha : Arg.operand ∘ Subtype.val = RenderedArg.operand ∘ Arg.rendered ∘ Subtype.val :=
        funext fun a : {a : Arg // a.operand = a.rendered.operand} => a.2
      have hq : Statement.subquery ∘ Subtype.val = RenderedQuery.subquery ∘ Statement.rendered ∘ Subtype.val :=
        funext fun q : {s : Statement // s.subquery = s.rendered.subquery} => q.2
      simp only [Clauses.operands, Clauses.map_map, ha, hq]
    rw [Statement.subquery_mk, Statement.rendered_mk, hc]
    exact congrArg (Subquery.mk _) (funext fun withAlias => Clauses.assemble_operands _ withAlias)

theorem Arg.operand_eq (a : Arg) : a.operand = a.rendered.operand :=
  operand_and_subquery_eq.1 a

theorem Statement.subquery_eq (s : Statement) : s.subquery = s.rendered.subquery :=
  operand_and_subquery_eq.2 s

theorem Arg.operand_comp : Arg.operand = RenderedArg.operand ∘ Arg.rendered :=
  funext Arg.operand_eq

/-- Clauses of a statement with the renderings of its arguments and nested statements. -/
def Statement.operands (s : Statement) : Clauses Operand Subquery :=
  s.clauses.map Arg.operand Statement.subquery

theorem Statement.build_eq (s : Statement) : s.build = Binder.standalone (s.operands.assemble true) := by
  obtain ⟨c⟩ := s
  rw [build, subquery_mk]
  rfl

/-- A statement with or without its alias, compiled by itself. -/
theorem Statement.standalone_eq (s : Statement) (withAlias : Bool) :
    Binder.standalone (s.subquery.assemble withAlias) = (s.rendered.pieces withAlias).map BuiltQuery.ofPieces := by
  rw [Statement.subquery_eq]
  exact standalone_emit _

/-! ## Lock-step -/

/-- The values bound before a part stay in front, and nothing else of it depends on them: neither its text, nor its
error, nor the values that it binds itself. -/
def Binder.Framed (b : Binder String) : Prop :=
  ∀ bound, b.run bound = (b.run []).map fun r => (r.1, bound ++ r.2)

theorem Rendering.emit_framed (r : Rendering) : Binder.Framed (emit r) := by
  intro bound
  cases r with
  | error e => rfl
  | ok ps =>
    show Except.ok (sqlOf ps, bound ++ valuesOf ps) = Except.ok (sqlOf ps, bound ++ ([] ++ valuesOf ps))
    rw [List.nil_append]

/-- **Lock-step**: a statement builds to the text of its pieces with the values of its pieces, or fails as they do,
and every part of the compiler binds its values behind those already bound without looking at them. -/
theorem build_eq_pieces :
    (∀ s : Statement, s.build = s.pieces.map BuiltQuery.ofPieces) ∧
    (∀ cs : List (Condition Arg), Binder.Framed (Condition.compileAll (cs.map (Condition.map Arg.operand)))) ∧
    (∀ template (args : List Arg) position,
      Binder.Framed (Template.expand template (args.map Arg.operand) position)) ∧
    (∀ (a : Arg) position context, Binder.Framed (a.operand.render position context)) ∧
    (∀ (s : Statement) position, Binder.Framed (s.subquery.render position)) ∧
    ∀ s : Statement, Binder.Framed s.subquery.derived := by
  refine ⟨fun s => s.standalone_eq true, fun cs => ?_, fun template args position => ?_, fun a position context => ?_,
    fun s position => ?_, fun s => ?_⟩
  · have hcs : cs.map (Condition.map Arg.operand) =
        (cs.map (Condition.map Arg.rendered)).map (Condition.map RenderedArg.operand) := by
      simp [Arg.operand_comp, Function.comp_def]
    rw [hcs, Condition.compileAll_operands]
    exact emit_framed _
  · rw [Arg.operand_comp, ← List.map_map, Template.expand_operands]
    exact emit_framed _
  · rw [Arg.operand_eq]
    exact emit_framed _
  · rw [Statement.subquery_eq, RenderedQuery.render_subquery]
    exact emit_framed _
  · rw [Statement.subquery_eq, RenderedQuery.derived_subquery]
    exact emit_framed _

end FluentSql

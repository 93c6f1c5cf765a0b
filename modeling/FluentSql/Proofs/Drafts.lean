import FluentSql.Compile.Build
import FluentSql.Statement.Fluent
import Mathlib

/-!
# FluentSql.Proofs.Drafts — statements as records of independent fields

A statement can be kept as a kind with fields for the data of all kinds side by side. A field keeps what it holds when
the kind changes, so that a kind could stand without its data, and a compiler of such drafts has branches for that.
No draft that was made step by step reaches them.

* `Draft`: a kind, a payload, a source and an expression, each by itself; `Draft.statement`: the statement it stands for.
* `Start`, `Call`: how a statement starts and what changes it, on drafts and on statements.
* `Draft.Sound`: the data of its kind is there; one call keeps this (`Draft.Sound.onDraft`), and so does a run
  (`Draft.Sound.run`).
* `Fallback`, `Draft.assemble`: compiles a draft, with anything at all in the branches for missing data.
* `subquery_run`: what a run makes is compiled as the statement, whatever these branches do, and calls that leave a raw
  statement raw do not change what it compiles to.
-/

namespace FluentSql

/-! ## Drafts -/

/-- A statement with the data of all kinds side by side. The operation of `rest` is not looked at. -/
structure Draft where
  kind : StatementKind := .unset
  payload : List (Record Arg) := []
  source : Option (Statement × List String) := none
  expression : Option Expr := none
  rest : Clauses Arg Statement := {}

namespace Draft

/-- The operation of a draft, none where the data of its kind is missing. -/
def operation (d : Draft) : Operation Arg Statement :=
  match d.kind with
  | .unset => .unset
  | .select => .select
  | .insert => .insert d.payload
  | .replace => .replace d.payload
  | .update => .update (d.payload.headD {})
  | .patch => .patch (d.payload.headD {})
  | .delete => .delete
  | .existence => .existence
  | .insertSelect =>
    match d.source with
    | some (source, columns) => .insertSelect source columns
    | none => .unset
  | .raw =>
    match d.expression with
    | some e => .raw e.template e.args
    | none => .unset

/-- The clauses of a draft. -/
def clauses (d : Draft) : Clauses Arg Statement :=
  { d.rest with operation := d.operation }

/-- The statement that a draft stands for. -/
def statement (d : Draft) : Statement :=
  .mk d.clauses

/-- The data of the kind of a draft is there. -/
structure Sound (d : Draft) : Prop where
  expression : d.kind = .raw → d.expression.isSome
  source : d.kind = .insertSelect → d.source.isSome
  payload : d.kind = .update ∨ d.kind = .patch → d.payload.length = 1

theorem Sound.kind_statement {d : Draft} (h : d.Sound) : d.statement.kind = d.kind := by
  show d.operation.kind = d.kind
  unfold operation
  cases hkind : d.kind with
  | insertSelect =>
    obtain ⟨⟨source, columns⟩, hsource⟩ := Option.isSome_iff_exists.1 (h.source hkind)
    simp only [hsource]
    rfl
  | raw =>
    obtain ⟨e, hexpression⟩ := Option.isSome_iff_exists.1 (h.expression hkind)
    simp only [hexpression]
    rfl
  | _ => rfl

end Draft

/-! ## Calls -/

/-- Where a statement starts. -/
inductive Start where
  | onTable (name : String)
  | onTableAs (name aliasName : String)
  | onQuery (q : Statement)
  | raw (template : String) (args : List Arg)
  | empty

namespace Start

/-- A new statement. -/
def statement : Start → Statement
  | onTable name => .onTable name
  | onTableAs name aliasName => .onTableAs name aliasName
  | onQuery q => .onQuery q
  | raw template args => .raw template args
  | empty => .empty

/-- A new draft. -/
def draft : Start → Draft
  | onTable name => { rest := { table := some (.name name) } }
  | onTableAs name aliasName => { rest := { table := some (.name name), aliasName := some aliasName } }
  | onQuery q => { rest := { table := some (.query q) } }
  | raw template args => { kind := .raw, expression := some ⟨template, args⟩ }
  | empty => {}

theorem statement_draft (start : Start) : start.draft.statement = start.statement := by
  cases start <;> rfl

theorem sound_draft (start : Start) : start.draft.Sound := by
  cases start <;> constructor <;> simp [draft]

end Start

/-- What chooses the operation of a statement. -/
inductive OperationCall where
  | select
  | selectColumns (columns : List String)
  | selectArg (a : Arg)
  | selectOne
  | selectExistence
  | insert (row : Record Arg)
  | insertMany (rows : List (Record Arg))
  | replace (row : Record Arg)
  | replaceMany (rows : List (Record Arg))
  | update (row : Record Arg)
  | patch (row : Record Arg)
  | delete
  | insertSelect (source : Statement) (columns : List String)

namespace OperationCall

/-- The changed statement. -/
def onStatement (s : Statement) : OperationCall → Statement
  | select => s.select
  | selectColumns columns => s.selectColumns columns
  | selectArg a => s.selectArg a
  | selectOne => s.selectOne
  | selectExistence => s.selectExistence
  | insert row => s.insert row
  | insertMany rows => s.insertMany rows
  | replace row => s.replace row
  | replaceMany rows => s.replaceMany rows
  | update row => s.update row
  | patch row => s.patch row
  | delete => s.delete
  | insertSelect source columns => s.insertSelect source columns

/-- The changed draft. What the new kind does not need stays where it is. -/
def onDraft (d : Draft) : OperationCall → Draft
  | select => { d with kind := .select }
  | selectColumns columns => { d with kind := .select, rest := { d.rest with columns := columns.map .column } }
  | selectArg a => { d with kind := .select, rest := { d.rest with columns := d.rest.columns ++ [.arg a] } }
  | selectOne => { d with kind := .select, rest := { d.rest with limit := some (.count 1) } }
  | selectExistence => { d with kind := .existence }
  | insert row => { d with kind := .insert, payload := [row] }
  | insertMany rows => { d with kind := .insert, payload := rows }
  | replace row => { d with kind := .replace, payload := [row] }
  | replaceMany rows => { d with kind := .replace, payload := rows }
  | update row => { d with kind := .update, payload := [row] }
  | patch row => { d with kind := .patch, payload := [row] }
  | delete => { d with kind := .delete }
  | insertSelect source columns => { d with kind := .insertSelect, source := some (source, columns) }

theorem statement_onDraft (d : Draft) (call : OperationCall) :
    (call.onDraft d).statement = call.onStatement d.statement := by
  cases call <;> rfl

theorem kind_ne_raw (s : Statement) (call : OperationCall) : (call.onStatement s).kind ≠ .raw := by
  cases call <;> nofun

end OperationCall

/-- What extends or replaces one clause of a statement. -/
inductive ClauseCall where
  | addWhere (w : Condition Arg)
  | addHaving (h : Condition Arg)
  | addJoin (kind : JoinKind) (table : TableRef Statement) (on : String) (args : List Arg)
  | addJoinCondition (w : Condition Arg)
  | addOrder (o : Order)
  | groupBy (column : String)
  /-- `limit`, `limitRange`, `limitOffset`, `paginate` and `clearLimit`. -/
  | setLimit (l : Option Limit)
  /-- Also `distinct`, `forUpdate` and `lockInShareMode`. -/
  | setOption (option : String)
  | onDuplicate (row : Record Arg)
  | omitColumns (columns : List String)
  | keepFields (names : List String)
  | keepKinds (kinds : List ValueKind)
  | named (aliasName : String)
  | addUnion (all : Bool) (query : Statement)
  | configure (config : Config)

namespace ClauseCall

/-- The changed statement. -/
def onStatement (s : Statement) : ClauseCall → Statement
  | addWhere w => s.addWhere w
  | addHaving h => s.addHaving h
  | addJoin kind table on args => s.addJoin kind table on args
  | addJoinCondition w => s.addJoinCondition w
  | addOrder o => s.addOrder o
  | groupBy column => s.groupBy column
  | setLimit l => s.setLimit l
  | setOption option => s.setOption option
  | onDuplicate row => s.onDuplicate row
  | omitColumns columns => s.omitColumns columns
  | keepFields names => s.keepFields names
  | keepKinds kinds => s.keepKinds kinds
  | named aliasName => s.named aliasName
  | addUnion all query => s.addUnion all query
  | configure config => s.configure config

/-- The changed draft: only its clauses change. -/
def onDraft (d : Draft) (call : ClauseCall) : Draft :=
  { d with rest := (call.onStatement (.mk d.rest)).clauses }

theorem statement_onDraft (d : Draft) (call : ClauseCall) :
    (call.onDraft d).statement = call.onStatement d.statement := by
  cases call with
  | setOption option =>
    generalize hoptions : Statement.insertOption option = insert
    simp only [onDraft, onStatement, Statement.setOption, hoptions]
    rfl
  | _ => rfl

/-- No clause changes the operation. -/
theorem operation_onStatement (s : Statement) (call : ClauseCall) :
    (call.onStatement s).clauses.operation = s.clauses.operation := by
  cases call with
  | setOption option =>
    generalize hoptions : Statement.insertOption option = insert
    simp only [onStatement, Statement.setOption, hoptions]
    rfl
  | _ => rfl

end ClauseCall

/-- One step of making a statement. -/
inductive Call where
  | operation (call : OperationCall)
  | clause (call : ClauseCall)

namespace Call

/-- The changed statement. -/
def onStatement (s : Statement) : Call → Statement
  | operation call => call.onStatement s
  | clause call => call.onStatement s

/-- The changed draft. -/
def onDraft (d : Draft) : Call → Draft
  | operation call => call.onDraft d
  | clause call => call.onDraft d

theorem statement_onDraft (d : Draft) (call : Call) : (call.onDraft d).statement = call.onStatement d.statement := by
  cases call with
  | operation call => exact call.statement_onDraft d
  | clause call => exact call.statement_onDraft d

end Call

/-! ## Runs -/

/-- A statement after some calls. -/
def Statement.run (s : Statement) (calls : List Call) : Statement :=
  calls.foldl Call.onStatement s

/-- A draft after some calls. -/
def Draft.run (d : Draft) (calls : List Call) : Draft :=
  calls.foldl Call.onDraft d

namespace Draft

/-- One call keeps the data of the kind. -/
theorem Sound.onDraft {d : Draft} (h : d.Sound) (call : Call) : (call.onDraft d).Sound := by
  cases call with
  | operation call => cases call <;> constructor <;> simp [Call.onDraft, OperationCall.onDraft]
  | clause call => exact ⟨h.expression, h.source, h.payload⟩

theorem Sound.run {d : Draft} (h : d.Sound) (calls : List Call) : (d.run calls).Sound := by
  induction calls generalizing d with
  | nil => exact h
  | cons call calls ih => exact ih (h.onDraft call)

/-- A draft goes with the statement through all calls. -/
theorem statement_run (d : Draft) (calls : List Call) : (d.run calls).statement = d.statement.run calls := by
  induction calls generalizing d with
  | nil => rfl
  | cons call calls ih =>
    show ((call.onDraft d).run calls).statement = (call.onStatement d.statement).run calls
    rw [ih, Call.statement_onDraft]

end Draft

/-! ## Compiling drafts -/

/-- All clauses of a statement behind a given head. -/
def Clauses.assembleBehind (c : Clauses Operand Subquery) (head : List String → Binder String) (withAlias : Bool) :
    Binder String := do
  let options ← Options.ofList c.options
  let head ← head options.leading
  let duplicate ← c.duplicateClause
  let unions ← c.unions.mapM unionClause
  let joins ← c.joins.mapM joinClause
  let wheres ← conditionsClause "WHERE" c.wheres
  let havings ← conditionsClause "HAVING" c.havings
  let orders ← c.orderClause
  return " ".intercalate
    ([head] ++ c.aliasClause withAlias ++ duplicate ++ unions ++ joins ++ wheres ++ havings ++ orders ++
      c.groupClause ++ c.limitClause ++ options.trailing)

theorem Clauses.assembleClauses_eq (c : Clauses Operand Subquery) (withAlias : Bool) :
    c.assembleClauses withAlias = c.assembleBehind c.head withAlias :=
  rfl

/-- What a compiler of drafts does where data is missing: a raw statement without an expression, an insert without its
source, and a head for a kind that has none. -/
structure Fallback where
  expression : Binder String
  source : Binder String
  head : Binder String

namespace Draft

/-- The clauses of a draft with the renderings of its arguments and nested statements. -/
def rendered (d : Draft) : Clauses Operand Subquery :=
  d.clauses.map Arg.operand Statement.subquery

/-- The head of a draft. -/
def head (fallback : Fallback) (d : Draft) (leading : List String) : Binder String :=
  match d.kind, d.source with
  | .insertSelect, none => do
    let _ ← d.rendered.tableText
    fallback.source
  | .unset, _ | .existence, _ | .raw, _ => fallback.head
  | _, _ => d.rendered.head leading

/-- Compiles a draft that has a head. -/
def assembleClauses (fallback : Fallback) (d : Draft) (withAlias : Bool) : Binder String :=
  d.rendered.assembleBehind (d.head fallback) withAlias

/-- Compiles a draft. -/
def assemble (fallback : Fallback) (d : Draft) (withAlias : Bool) : Binder String :=
  match d.kind, d.expression with
  | .unset, _ => Binder.fail .unsetKind
  | .raw, some e => Template.expand e.template (e.args.map Arg.operand) .bare
  | .raw, none => fallback.expression
  | .existence, _ => do
    let sql ← { d with kind := .select }.assembleClauses fallback withAlias
    return "SELECT EXISTS(" ++ sql ++ ")"
  | _, _ => d.assembleClauses fallback withAlias

/-- The head of a sound draft is the head of its statement. -/
theorem Sound.head_eq {d : Draft} (h : d.Sound) (fallback : Fallback)
    (hkind : d.kind ≠ .unset ∧ d.kind ≠ .existence ∧ d.kind ≠ .raw) : d.head fallback = d.rendered.head := by
  obtain ⟨hunset, hexistence, hraw⟩ := hkind
  funext leading
  unfold head
  cases hcases : d.kind with
  | unset => exact absurd hcases hunset
  | existence => exact absurd hcases hexistence
  | raw => exact absurd hcases hraw
  | insertSelect =>
    obtain ⟨source, hsource⟩ := Option.isSome_iff_exists.1 (h.source hcases)
    simp only [hsource]
  | _ => rfl

theorem Sound.assembleClauses_eq {d : Draft} (h : d.Sound) (fallback : Fallback)
    (hkind : d.kind ≠ .unset ∧ d.kind ≠ .existence ∧ d.kind ≠ .raw) :
    d.assembleClauses fallback = d.rendered.assembleClauses := by
  funext withAlias
  rw [assembleClauses, h.head_eq fallback hkind, Clauses.assembleClauses_eq]

/-- A sound draft is compiled as its statement, whatever happens where data is missing. -/
theorem Sound.assemble_eq {d : Draft} (h : d.Sound) (fallback : Fallback) :
    d.assemble fallback = d.rendered.assemble := by
  have hoperation : d.rendered.operation = d.operation.map Arg.operand Statement.subquery := rfl
  have hclauses (hkind : d.kind ≠ .unset ∧ d.kind ≠ .existence ∧ d.kind ≠ .raw) (withAlias : Bool) :
      d.assembleClauses fallback withAlias = d.rendered.assembleClauses withAlias :=
    congrFun (h.assembleClauses_eq fallback hkind) withAlias
  funext withAlias
  unfold assemble Clauses.assemble
  rw [hoperation]
  unfold operation
  -- each kind finds its own parts in a sound draft and never asks for the fallback
  cases hkind : d.kind with
  | unset => rfl
  | raw =>
    obtain ⟨e, hexpression⟩ := Option.isSome_iff_exists.1 (h.expression hkind)
    simp only [hexpression]
    rfl
  | existence =>
    have hselect : ({ d with kind := .select } : Draft).Sound := ⟨nofun, nofun, nofun⟩
    have hinner := hselect.assembleClauses_eq fallback ⟨nofun, nofun, nofun⟩
    simp only [hinner]
    rfl
  | insertSelect =>
    obtain ⟨source, hsource⟩ := Option.isSome_iff_exists.1 (h.source hkind)
    simp only [hsource]
    exact hclauses (by simp [hkind]) withAlias
  | _ => exact hclauses (by simp [hkind]) withAlias

/-- What a statement compiles to, as a nested statement, is what its draft compiles to. -/
theorem Sound.subquery_statement {d : Draft} (h : d.Sound) (fallback : Fallback) :
    d.statement.subquery = ⟨d.statement.aliasName, d.assemble fallback⟩ := by
  rw [h.assemble_eq fallback, statement, Statement.subquery_mk]
  rfl

end Draft

/-! ## Raw statements -/

/-- What a raw statement compiles to depends on its operation only. -/
theorem build_of_raw {s t : Statement} {template : String} {args : List Arg}
    (hs : s.clauses.operation = .raw template args) (ht : t.clauses.operation = .raw template args) :
    t.build = s.build := by
  have hbuild (u : Statement) (hu : u.clauses.operation = .raw template args) :
      u.build = Binder.standalone (Template.expand template (args.map Arg.operand) .bare) := by
    cases u with
    | mk c =>
      have hoperation : (c.map Arg.operand Statement.subquery).operation = .raw template (args.map Arg.operand) := by
        show c.operation.map _ _ = _
        rw [show c.operation = .raw template args from hu]
        rfl
      rw [Statement.build, Statement.subquery_mk]
      show Binder.standalone ((c.map Arg.operand Statement.subquery).assemble true) = _
      unfold Clauses.assemble
      rw [hoperation]
  rw [hbuild s hs, hbuild t ht]

/-- No call makes a statement raw, and one that leaves it raw leaves its operation as it is. -/
theorem Call.operation_of_raw {s : Statement} {call : Call} (h : (call.onStatement s).kind = .raw) :
    (call.onStatement s).clauses.operation = s.clauses.operation := by
  cases call with
  | operation call => exact absurd h (call.kind_ne_raw s)
  | clause call => exact call.operation_onStatement s

theorem Statement.operation_run_of_raw {s : Statement} {calls : List Call} (h : (s.run calls).kind = .raw) :
    (s.run calls).clauses.operation = s.clauses.operation := by
  induction calls using List.reverseRecOn with
  | nil => rfl
  | append_singleton calls call ih =>
    have hrun : s.run (calls ++ [call]) = call.onStatement (s.run calls) := by
      rw [run, List.foldl_append]
      rfl
    rw [hrun] at h ⊢
    have hoperation := Call.operation_of_raw h
    have hkind : (s.run calls).kind = .raw := by
      rw [← h, kind, kind, hoperation]
    rw [hoperation, ih hkind]

/-- Calls that leave a raw statement raw do not change what it compiles to. -/
theorem Statement.build_run_of_raw {s : Statement} {calls : List Call} (h : (s.run calls).kind = .raw) :
    (s.run calls).build = s.build := by
  have hoperation := operation_run_of_raw h
  cases hcases : s.clauses.operation with
  | raw template args => exact build_of_raw hcases (hoperation.trans hcases)
  | _ =>
    rw [kind, hoperation, hcases] at h
    nomatch h

/-! ## Statements made by runs -/

/-- **No branch for missing data is taken.** What a run of calls makes has the data of its kind: a raw statement its
expression, an insert of a query its source, an update or patch exactly one record. It is compiled in the same way
whatever the compiler does where data is missing, by itself and nested: tables, unions, joins and sources are compiled
through `Statement.subquery`, arguments through `Arg.operand`. As long as a raw statement stays raw, no call changes
what it compiles to, also one whose clause does not compile. -/
theorem subquery_run (start : Start) (calls : List Call) :
    (start.draft.run calls).statement = start.statement.run calls ∧
      (start.draft.run calls).kind = (start.statement.run calls).kind ∧
      (start.draft.run calls).Sound ∧
      (∀ fallback, (start.statement.run calls).subquery =
        ⟨(start.statement.run calls).aliasName, (start.draft.run calls).assemble fallback⟩) ∧
      (∀ fallback position context, (Arg.query (start.statement.run calls)).operand.render position context =
        Subquery.render ⟨(start.statement.run calls).aliasName, (start.draft.run calls).assemble fallback⟩ position) ∧
      ∀ more, ((start.statement.run calls).run more).kind = .raw →
        ((start.statement.run calls).run more).build = (start.statement.run calls).build := by
  have hstatement : (start.draft.run calls).statement = start.statement.run calls := by
    rw [Draft.statement_run, Start.statement_draft]
  have hsound : (start.draft.run calls).Sound := start.sound_draft.run calls
  have hsubquery (fallback : Fallback) : (start.statement.run calls).subquery =
      ⟨(start.statement.run calls).aliasName, (start.draft.run calls).assemble fallback⟩ := by
    rw [← hstatement]
    exact hsound.subquery_statement fallback
  refine ⟨hstatement, ?_, hsound, hsubquery, fun fallback position context => ?_,
    fun more => Statement.build_run_of_raw⟩
  · rw [← hstatement, hsound.kind_statement]
  · rw [Arg.operand, hsubquery fallback]

/-- A raw statement compiles to the same although it got an ORDER BY term that does not compile. -/
theorem subquery_run_emptyOrder :
    ((Start.raw "SELECT ?" [.value (.int 1)]).statement.run [.clause (.addOrder (.field "rank" []))]).kind = .raw ∧
      (Clauses.orderTerm (.field "rank" [])).run [] = .error (.emptySequence "FIELD (rank)") ∧
      ((Start.raw "SELECT ?" [.value (.int 1)]).statement.run [.clause (.addOrder (.field "rank" []))]).build =
        (Start.raw "SELECT ?" [.value (.int 1)]).statement.build :=
  ⟨rfl, rfl, (subquery_run (.raw "SELECT ?" [.value (.int 1)]) []).2.2.2.2.2 [.clause (.addOrder (.field "rank" []))] rfl⟩

end FluentSql

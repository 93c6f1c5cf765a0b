import FluentSql.Proofs.Drafts
import FluentSql.Proofs.LockStep

/-!
# FluentSql.Proofs.AliasLifting — where the alias of a nested statement is written

A statement that stands alone writes its alias behind its head clause. A nested one does so as a value and in a raw
expression; as a source its alias is lifted out of its parentheses, and as a table it is written by the statement on it.

* `Statement.unnamed`: a statement without its alias. Compiling without the alias is compiling this statement.
* `Statement.placed`: what a statement comes to at a position, in terms of building statements by themselves.
* `Clauses.withTable`: clauses over another table and with another alias; calls other than `named` leave both alone.
* `Clauses.assemble_eq_around`: a statement is its head clause, its alias clause, and what stands behind.
* `Statement.ComesTo`: what a statement on a derived table comes to, with its alias apart.
* `Statement.NamedAlike`: two statements that write one alias, and one that writes none.
* `lifted_alias`: every position writes what `placed` says; the alias of a derived table and the alias of the statement
  on it come to the same clause.
-/

namespace FluentSql

/-! ## Statements without their alias -/

/-- A statement without its alias. -/
def Statement.unnamed (s : Statement) : Statement :=
  s.change fun c => { c with aliasName := none }

theorem Clauses.assemble_unnamed (c : Clauses Operand Subquery) (withAlias : Bool) :
    ({ c with aliasName := none } : Clauses Operand Subquery).assemble withAlias = c.assemble false := by
  cases withAlias <;> rfl

/-- Without its alias a statement is compiled as where its alias is left to the statement around it. -/
theorem Statement.assemble_unnamed (s : Statement) (withAlias : Bool) :
    s.unnamed.subquery.assemble withAlias = s.subquery.assemble false := by
  obtain ⟨c⟩ := s
  show (Statement.mk { c with aliasName := none }).subquery.assemble withAlias = _
  rw [subquery_mk, subquery_mk]
  exact Clauses.assemble_unnamed (c.map Arg.operand Statement.subquery) withAlias

theorem Statement.assemble_named (s : Statement) (name : String) :
    (s.named name).subquery.assemble false = s.subquery.assemble false := by
  rw [← s.assemble_unnamed false, ← (s.named name).assemble_unnamed false]
  rfl

theorem Statement.aliasName_subquery (s : Statement) : s.subquery.aliasName = s.aliasName := by
  obtain ⟨c⟩ := s
  rw [subquery_mk]
  rfl

/-! ## Positions -/

/-- A finished query as a part of another: its text in place, its values behind those already bound. -/
def Binder.ofBuilt (x : Except SqlError BuiltQuery) : Binder String := do
  let q ← x
  modify (· ++ q.params)
  return q.sql

/-- The text around a finished query is written with it. -/
theorem Binder.ofBuilt_map (x : Except SqlError BuiltQuery) (f : String → String) :
    Binder.ofBuilt (x.map fun q => ⟨f q.sql, q.params⟩) = (do return f (← Binder.ofBuilt x)) := by
  cases x <;> rfl

/-- The alias behind the parentheses of a source. -/
def aliasSuffix : Option String → String
  | none => ""
  | some name => " AS " ++ name

/-- What a statement comes to at a position. As a source it is built without its alias, which follows the parentheses;
as a value it stands in parentheses with its alias inside; in a raw expression it stands as it is. -/
def Statement.placed (s : Statement) : Position → Except SqlError BuiltQuery
  | .source => s.unnamed.build.map fun q => ⟨"(" ++ q.sql ++ ")" ++ aliasSuffix s.aliasName, q.params⟩
  | .value => s.build.map fun q => ⟨"(" ++ q.sql ++ ")", q.params⟩
  | .bare => s.build

/-- A nested statement is written as its position says. -/
theorem Statement.render_subquery (s : Statement) (position : Position) :
    s.subquery.render position = Binder.ofBuilt (s.placed position) := by
  cases position with
  | bare => rfl
  | value => exact (Binder.ofBuilt_map s.build fun sql => "(" ++ sql ++ ")").symm
  | source =>
    have hspliced : Binder.spliced (s.subquery.assemble false) = Binder.ofBuilt s.unnamed.build := by
      rw [build, s.assemble_unnamed true]
      rfl
    have hplaced := Binder.ofBuilt_map s.unnamed.build fun sql => "(" ++ sql ++ ")" ++ aliasSuffix s.aliasName
    rw [placed, hplaced, Subquery.render, hspliced, aliasName_subquery]
    cases s.aliasName with
    | none => simp only [aliasSuffix, String.append_empty, Subquery.parenthesized]
    | some name => simp only [aliasSuffix, String.append_assoc, Subquery.parenthesized]

theorem Arg.render_query (s : Statement) (position : Position) (context : String) :
    (Arg.query s).operand.render position context = Binder.ofBuilt (s.placed position) := by
  rw [Arg.operand]
  exact s.render_subquery position

/-! ## Calls that leave the alias alone -/

section WithTable

variable {α σ : Type}

/-- Clauses over another table and with another alias. -/
def Clauses.withTable (c : Clauses α σ) (table : TableRef σ) (aliasName : Option String) : Clauses α σ :=
  { c with table := some table, aliasName := aliasName }

theorem Clauses.operation_withTable (c : Clauses α σ) (table : TableRef σ) (name : Option String) :
    (c.withTable table name).operation = c.operation := rfl

end WithTable

/-- A call that does not name the statement. -/
def Call.KeepsAlias : Call → Prop
  | .clause (.named _) => False
  | _ => True

/-- Such a call changes neither the table nor the alias, and does the same over any others. -/
theorem Call.onStatement_withTable {call : Call} (h : call.KeepsAlias) (c : Clauses Arg Statement)
    (table : TableRef Statement) (name : Option String) :
    call.onStatement (.mk (c.withTable table name)) =
      .mk ((call.onStatement (.mk c)).clauses.withTable table name) := by
  cases call with
  | operation call => cases call <;> rfl
  | clause call =>
    cases call with
    | named other => exact absurd h id
    | setOption option =>
      generalize hoptions : Statement.insertOption option = insert
      simp only [onStatement, ClauseCall.onStatement, Statement.setOption, hoptions]
      rfl
    | _ => rfl

/-- A run over a table and an alias is the run without them, put over both. -/
theorem Statement.run_withTable {calls : List Call} (h : ∀ call ∈ calls, call.KeepsAlias) (c : Clauses Arg Statement)
    (table : TableRef Statement) (name : Option String) :
    (Statement.mk (c.withTable table name)).run calls =
      .mk (((Statement.mk c).run calls).clauses.withTable table name) := by
  induction calls generalizing c with
  | nil => rfl
  | cons call calls ih =>
    obtain ⟨hcall, hcalls⟩ := List.forall_mem_cons.1 h
    show (call.onStatement (.mk (c.withTable table name))).run calls =
      .mk (((call.onStatement (.mk c)).run calls).clauses.withTable table name)
    rw [Call.onStatement_withTable hcall]
    obtain ⟨c'⟩ := call.onStatement (.mk c)
    exact ih hcalls c'

/-! ## Steps of the compiler -/

namespace Binder

variable {β γ : Type} {x : Binder β} {f : β → Binder γ} {bound first values : List Value}

/-- A part that succeeds does so from its first step on. -/
theorem of_bind_ok {c : γ} (h : (x >>= f).run bound = .ok (c, values)) :
    ∃ b first, x.run bound = .ok (b, first) ∧ (f b).run first = .ok (c, values) := by
  rw [StateT.run_bind] at h
  cases hx : x.run bound with
  | error e =>
    rw [hx] at h
    nomatch h
  | ok r =>
    rw [hx] at h
    exact ⟨r.1, r.2, rfl, h⟩

theorem of_pure_ok {b c : β} (h : (pure b : Binder β).run bound = .ok (c, values)) : b = c :=
  congrArg Prod.fst (Except.ok.inj h)

theorem bind_ok {b : β} {c : γ} (hx : x.run bound = .ok (b, first))
    (hf : (f b).run first = .ok (c, values)) :
    (x >>= f).run bound = .ok (c, values) := by
  rw [StateT.run_bind, hx]
  exact hf

end Binder

/-! ## Head clause, alias clause, rest -/

/-- A first text and others behind a separator. -/
theorem intercalate_cons_eq_join (separator s : String) (ss : List String) :
    separator.intercalate (s :: ss) = s ++ String.join (ss.map (separator ++ ·)) := by
  induction ss generalizing s with
  | nil => simp
  | cons t ss ih =>
    rw [String.intercalate_cons_cons, ih, List.map_cons, String.join_cons, String.append_assoc, String.append_assoc]

namespace Clauses

variable (c : Clauses Operand Subquery)

/-- The head of the clauses, behind the check of their options. -/
def clausesHead : Binder String := do
  let options ← Options.ofList c.options
  c.head options.leading

/-- The clauses behind the alias, each with a space in front. -/
def clausesBehind (options : Options) : Binder String := do
  let duplicate ← c.duplicateClause
  let unions ← c.unions.mapM unionClause
  let joins ← c.joins.mapM joinClause
  let wheres ← conditionsClause "WHERE" c.wheres
  let havings ← conditionsClause "HAVING" c.havings
  let orders ← c.orderClause
  return String.join ((duplicate ++ unions ++ joins ++ wheres ++ havings ++ orders ++
    c.groupClause ++ c.limitClause ++ options.trailing).map (" " ++ ·))

/-- The head of the clauses, and what stands behind the alias. -/
def clausesAround : Binder (String × String) := do
  let options ← Options.ofList c.options
  let head ← c.head options.leading
  let behind ← c.clausesBehind options
  return (head, behind)

/-- The head clause of a statement. A test for existence has that of its selection. -/
def headClause : Binder String :=
  match c.operation with
  | .existence => do return "SELECT EXISTS(" ++ (← { c with operation := .select }.clausesHead)
  | _ => c.clausesHead

/-- The head clause of a statement, and what stands behind its alias. -/
def around : Binder (String × String) :=
  match c.operation with
  | .unset => Binder.fail .unsetKind
  | .existence => do
    let (head, behind) ← { c with operation := .select }.clausesAround
    return ("SELECT EXISTS(" ++ head, behind ++ ")")
  | _ => c.clausesAround

/-- The alias clause with a space in front, nothing where there is none. -/
def aliasText (withAlias : Bool) : String :=
  String.join ((c.aliasClause withAlias).map (" " ++ ·))

theorem aliasText_eq {c : Clauses Operand Subquery} {withAlias : Bool} {name : Option String}
    (h : c.aliasClause withAlias = (name.map ("AS " ++ ·)).toList) : c.aliasText withAlias = aliasSuffix name := by
  rw [aliasText, h]
  cases name with
  | none => rfl
  | some name => simp [aliasSuffix, ← String.append_assoc]

theorem assembleClauses_eq_around (withAlias : Bool) :
    c.assembleClauses withAlias =
      (do let (head, behind) ← c.clausesAround
          return head ++ (c.aliasText withAlias ++ behind)) := by
  unfold assembleClauses clausesAround clausesBehind aliasText
  simp only [bind_assoc, pure_bind, List.append_assoc, List.nil_append, List.cons_append, intercalate_cons_eq_join,
    List.map_append, String.join_append]

/-- A statement that is put together from clauses: its head clause, its alias clause, and what stands behind. -/
theorem assemble_eq_around (withAlias : Bool) (hraw : c.operation.kind ≠ .raw) :
    c.assemble withAlias =
      (do let (head, behind) ← c.around
          return head ++ (c.aliasText withAlias ++ behind)) := by
  unfold assemble around
  cases hop : c.operation with
  | unset => rfl
  | raw template args => exact absurd (congrArg Operation.kind hop) hraw
  | existence =>
    have halias : ({ c with operation := .select } : Clauses Operand Subquery).aliasText withAlias =
        c.aliasText withAlias := rfl
    simp only [assembleClauses_eq_around, halias, bind_assoc, pure_bind, String.append_assoc]
  | _ => exact c.assembleClauses_eq_around withAlias

/-- The head is compiled before what stands behind the alias. -/
theorem clausesHead_of_around {bound values : List Value} {head behind : String}
    (h : c.clausesAround.run bound = .ok ((head, behind), values)) :
    ∃ first, c.clausesHead.run bound = .ok (head, first) := by
  unfold clausesAround at h
  unfold clausesHead
  cases hoptions : Options.ofList c.options with
  | error e =>
    rw [hoptions] at h
    nomatch h
  | ok options =>
    rw [hoptions, Binder.lift_bind] at h
    obtain ⟨head', first, hhead, hrest⟩ := Binder.of_bind_ok h
    obtain ⟨behind', last, -, hpair⟩ := Binder.of_bind_ok hrest
    obtain ⟨heq, -⟩ := Prod.mk.inj (Binder.of_pure_ok hpair)
    exact ⟨first, heq ▸ hhead⟩

theorem headClause_of_around {bound values : List Value} {head behind : String}
    (h : c.around.run bound = .ok ((head, behind), values)) : ∃ first, c.headClause.run bound = .ok (head, first) := by
  unfold around at h
  unfold headClause
  cases hop : c.operation with
  | unset =>
    rw [hop] at h
    nomatch h
  | existence =>
    simp only [hop] at h
    obtain ⟨⟨inner, rest⟩, last, haround, hpair⟩ := Binder.of_bind_ok h
    obtain ⟨heq, -⟩ := Prod.mk.inj (Binder.of_pure_ok hpair)
    obtain ⟨first, hfirst⟩ := clausesHead_of_around _ haround
    exact ⟨first, heq ▸ Binder.bind_ok hfirst rfl⟩
  | _ =>
    simp only [hop] at h
    exact c.clausesHead_of_around h

/-! ## Clauses over a derived table -/

/-- What stands around the alias depends on a derived table only through its text without an alias. -/
theorem around_withTable {q q' : Subquery} (h : q.assemble false = q'.assemble false) (name name' : Option String) :
    (c.withTable (.query q) name).around = (c.withTable (.query q') name').around := by
  have hderived : q.derived = q'.derived := by
    unfold Subquery.derived
    rw [h]
  -- for any operation, because a test for existence is put together from its selection
  have htable (o : Operation Operand Subquery) :
      ({ c.withTable (.query q) name with operation := o } : Clauses Operand Subquery).tableText =
        ({ c.withTable (.query q') name' with operation := o } : Clauses Operand Subquery).tableText := hderived
  have hhead (o : Operation Operand Subquery) (leading : List String) :
      ({ c.withTable (.query q) name with operation := o } : Clauses Operand Subquery).head leading =
        ({ c.withTable (.query q') name' with operation := o } : Clauses Operand Subquery).head leading := by
    cases o <;> simp only [head, insertHead, updateHead, insertSelectHead, htable] <;> rfl
  have hclauses (o : Operation Operand Subquery) :
      ({ c.withTable (.query q) name with operation := o } : Clauses Operand Subquery).clausesAround =
        ({ c.withTable (.query q') name' with operation := o } : Clauses Operand Subquery).clausesAround := by
    unfold clausesAround
    simp only [hhead]
    rfl
  unfold around
  rw [operation_withTable, operation_withTable]
  cases c.operation with
  | unset => rfl
  | existence => simp only [hclauses]
  | _ => exact hclauses c.operation

/-- The alias of a statement on a derived table is its own, unless it is left out, else the one that the table brings. -/
theorem aliasClause_onDerived {c : Clauses Operand Subquery} {q : Subquery} (htable : c.table = some (.query q))
    (withAlias : Bool) : c.aliasClause withAlias =
      (((if withAlias then c.aliasName else none).or q.aliasName).map ("AS " ++ ·)).toList := by
  unfold aliasClause
  rw [htable]
  cases h : (if withAlias then c.aliasName else none).or q.aliasName <;> simp [h]

/-- The alias behind the head is the name of the statement, else the one that its derived table brings. -/
theorem aliasClause_withTable (q : Subquery) (name : Option String) :
    (c.withTable (.query q) name).aliasClause true = ((name.or q.aliasName).map ("AS " ++ ·)).toList :=
  aliasClause_onDerived rfl true

end Clauses

namespace Statement

/-- A statement comes to its head clause and what stands behind, with an alias between. -/
structure ComesTo (x : Except SqlError ((String × String) × List Value)) (aliasName : Option String) (s : Statement) :
    Prop where
  around : s.operands.around.run [] = x
  aliasClause : s.operands.aliasClause true = (aliasName.map ("AS " ++ ·)).toList
  build : s.build = x.map fun r => ⟨r.1.1 ++ (aliasSuffix aliasName ++ r.1.2), r.2⟩

/-- A statement on a derived table. Its alias is its own, or the one that the table brings. -/
theorem comesTo_withTable (k : Clauses Arg Statement) (q : Statement) (name : Option String)
    (hraw : k.operation.kind ≠ .raw) {x : Except SqlError ((String × String) × List Value)}
    (hx : (mk (k.withTable (.query q) name)).operands.around.run [] = x) :
    ComesTo x (name.or q.aliasName) (mk (k.withTable (.query q) name)) := by
  set s := mk (k.withTable (.query q) name)
  have hkind : s.operands.operation.kind = k.operation.kind := Operation.kind_map _ _ _
  have hclause : s.operands.aliasClause true = ((name.or q.aliasName).map ("AS " ++ ·)).toList := by
    rw [← aliasName_subquery]
    exact Clauses.aliasClause_withTable (k.map Arg.operand subquery) q.subquery name
  refine ⟨hx, hclause, ?_⟩
  rw [build_eq, Clauses.assemble_eq_around _ true (hkind ▸ hraw), Clauses.aliasText_eq hclause, Binder.standalone,
    StateT.run_bind, hx]
  cases x with
  | error e => rfl
  | ok r => rfl

/-! ## Two places for one alias -/

/-- Two statements on a derived table write its alias once, right behind the head clause, and both build to the same;
without the alias the same statement builds to the same text with nothing there. -/
structure NamedAlike (aliasName : String) (s t bare : Statement) : Prop where
  build_eq : s.build = t.build
  clause_left : s.operands.aliasClause true = ["AS " ++ aliasName]
  clause_right : t.operands.aliasClause true = ["AS " ++ aliasName]
  clause_bare : bare.operands.aliasClause true = []
  error_iff : ∀ e, s.build = .error e ↔ bare.build = .error e
  behind_head : ∀ built, s.build = .ok built → ∃ head behind,
    (∀ u ∈ [s, t, bare], ∃ first, u.operands.headClause.run [] = .ok (head, first)) ∧
      built.sql = head ++ " AS " ++ aliasName ++ behind ∧ bare.build = .ok ⟨head ++ behind, built.params⟩

/-- Statements that come to the same besides the alias. -/
theorem ComesTo.namedAlike {x : Except SqlError ((String × String) × List Value)} {name : String}
    {s t bare : Statement} (hs : ComesTo x (some name) s) (ht : ComesTo x (some name) t) (hbare : ComesTo x none bare) :
    NamedAlike name s t bare := by
  refine ⟨hs.build.trans ht.build.symm, hs.aliasClause, ht.aliasClause, hbare.aliasClause, ?_, ?_⟩
  · intro e
    rw [hs.build, hbare.build]
    cases x with
    | error e' => rfl
    | ok r => exact ⟨nofun, nofun⟩
  · intro built hbuilt
    rw [hs.build] at hbuilt
    cases x with
    | error e => nomatch hbuilt
    | ok r =>
      obtain ⟨⟨head, behind⟩, values⟩ := r
      obtain rfl := Except.ok.inj hbuilt
      -- one cut for all three, since the text around the alias does not read it
      refine ⟨head, behind, ?_, ?_, ?_⟩
      · intro u hu
        have haround : u.operands.around.run [] = .ok ((head, behind), values) := by
          rcases List.mem_cons.1 hu with rfl | hu
          · exact hs.around
          rcases List.mem_cons.1 hu with rfl | hu
          · exact ht.around
          · exact List.mem_singleton.1 hu ▸ hbare.around
        exact u.operands.headClause_of_around haround
      · show head ++ ((" AS " ++ name) ++ behind) = _
        simp only [String.append_assoc]
      · rw [hbare.build]
        show Except.ok (BuiltQuery.mk (head ++ ("" ++ behind)) values) = _
        rw [String.empty_append]

/-- No run from a derived table makes a raw statement. -/
theorem kind_run_ne_raw (calls : List Call) : ((mk {}).run calls).kind ≠ .raw := by
  intro h
  have hoperation := operation_run_of_raw h
  rw [kind, hoperation] at h
  cases h

/-- A derived table brings its alias, or the statement on it has the name. -/
theorem namedAlike_onQuery (q : Statement) (name : String) {calls : List Call} (h : ∀ call ∈ calls, call.KeepsAlias) :
    NamedAlike name ((onQuery (q.named name)).run calls) (((onQuery q.unnamed).named name).run calls)
      ((onQuery q.unnamed).run calls) := by
  -- the calls do the same over any table and alias, so the three statements agree in all other clauses
  set k := ((mk {}).run calls).clauses
  have hrun (q' : Statement) (name' : Option String) :
      (mk (({} : Clauses Arg Statement).withTable (.query q') name')).run calls = mk (k.withTable (.query q') name') :=
    run_withTable h {} (.query q') name'
  have hleft : (onQuery (q.named name)).run calls = mk (k.withTable (.query (q.named name)) none) := hrun _ none
  have hright : ((onQuery q.unnamed).named name).run calls = mk (k.withTable (.query q.unnamed) (some name)) :=
    hrun _ (some name)
  have hbare : (onQuery q.unnamed).run calls = mk (k.withTable (.query q.unnamed) none) := hrun _ none
  have haround (name' : Option String) : (mk (k.withTable (.query q.unnamed) name')).operands.around.run [] =
      (mk (k.withTable (.query (q.named name)) none)).operands.around.run [] := by
    have hassemble : q.unnamed.subquery.assemble false = (q.named name).subquery.assemble false := by
      rw [assemble_unnamed, assemble_named]
    exact congrArg (·.run []) (Clauses.around_withTable (k.map Arg.operand subquery) hassemble name' none)
  have hraw : k.operation.kind ≠ .raw := kind_run_ne_raw calls
  rw [hleft, hright, hbare]
  exact ComesTo.namedAlike (comesTo_withTable k (q.named name) none hraw rfl)
    (comesTo_withTable k q.unnamed (some name) hraw (haround _)) (comesTo_withTable k q.unnamed none hraw (haround _))

end Statement

/-! ## Lifting -/

/-- **Alias lifting.** A nested statement is written as its position says: as a source built without its alias, in
parentheses and with the alias behind them, as a value built with it, in parentheses, and in a raw expression as it is
built; joins and projections are sources, and an argument of a raw expression stands in it as such. The alias of a
derived table and the name of the statement on it build to the same, with one alias clause right behind the head
clause, whatever calls follow that do not name the statement. -/
theorem lifted_alias :
    (∀ (s : Statement) position context,
      (Arg.query s).operand.render position context = Binder.ofBuilt (s.placed position)) ∧
    (∀ (s : Statement) kind (conditions : List (Condition Operand)),
      Clauses.joinClause ⟨kind, .query s.subquery, conditions⟩ =
        (do Clauses.joinClause ⟨kind, .name (← Binder.ofBuilt (s.placed .source)), conditions⟩)) ∧
    (∀ s : Statement, Clauses.projectionEntry (.arg (Arg.query s).operand) = Binder.ofBuilt (s.placed .source)) ∧
    (∀ template (args : List Arg) position context, (Arg.raw template args).operand.render position context =
      Template.expand template (args.map Arg.operand) .bare) ∧
    ∀ (q : Statement) aliasName (calls : List Call), (∀ call ∈ calls, call.KeepsAlias) →
      Statement.NamedAlike aliasName ((Statement.onQuery (q.named aliasName)).run calls)
        (((Statement.onQuery q.unnamed).named aliasName).run calls) ((Statement.onQuery q.unnamed).run calls) := by
  refine ⟨Arg.render_query, fun s kind conditions => ?_, fun s => ?_, fun template args position context => ?_,
    fun q aliasName calls h => q.namedAlike_onQuery aliasName h⟩
  · unfold Clauses.joinClause
    simp only [s.render_subquery, pure_bind]
  · exact Arg.render_query s .source "SELECT"
  · rw [Arg.operand_raw]

/-- A named table of a filtered statement. -/
theorem lifted_alias_filtered :
    (∀ call ∈ [Call.operation .select, .clause (.addWhere ⟨.and, "a = 1", []⟩)], call.KeepsAlias) ∧
      Statement.NamedAlike "x"
        ((Statement.onQuery ((Statement.onTable "T").select.named "x")).run
          [.operation .select, .clause (.addWhere ⟨.and, "a = 1", []⟩)])
        (((Statement.onQuery (Statement.onTable "T").select.unnamed).named "x").run
          [.operation .select, .clause (.addWhere ⟨.and, "a = 1", []⟩)])
        ((Statement.onQuery (Statement.onTable "T").select.unnamed).run
          [.operation .select, .clause (.addWhere ⟨.and, "a = 1", []⟩)]) ∧
      ((Statement.onQuery ((Statement.onTable "T").select.named "x")).run
          [.operation .select, .clause (.addWhere ⟨.and, "a = 1", []⟩)]).build =
        .ok ⟨"SELECT * FROM (SELECT * FROM T) AS x WHERE a = 1", []⟩ := by
  have hcalls : ∀ call ∈ [Call.operation .select, .clause (.addWhere ⟨.and, "a = 1", []⟩)], call.KeepsAlias := by
    simp [Call.KeepsAlias]
  refine ⟨hcalls, lifted_alias.2.2.2.2 (Statement.onTable "T").select "x" _ hcalls, ?_⟩
  have hq : ((Statement.onTable "T").select.named "x").subquery =
    ⟨some "x", Clauses.assemble { operation := .select, table := some (.name "T"), aliasName := some "x" }⟩ :=
      Statement.subquery_mk _
  rw [Statement.build_eq]
  show Binder.standalone (Clauses.assemble
    { operation := .select, table := some (.query ((Statement.onTable "T").select.named "x").subquery),
      wheres := [⟨.and, "a = 1", []⟩] } true) = _
  rw [hq]
  rfl

end FluentSql

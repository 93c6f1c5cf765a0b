import FluentSql.Proofs.HookProtocol
import FluentSql.Proofs.Identifiers
import Mathlib

/-!
# FluentSql.Proofs.Bracketing — transactions and savepoints are well bracketed

* `namesFrom`: the names of the savepoints that have none, in order; `nodup_namesFrom`: they differ.
* `World.later`: the world after more moments and more names.
* `Brackets`: the commands that open and close a block; `Brackets.Around`: what they add around a body.
* `Block.Bracketed`: what a block adds to a run; `Code.Bracketed`: what code adds to a run.
* `Run.Performs`: a computation adds what such a relation says.
* `Executor.control_adds`, `Action.run_sendsOnce`, `Block.run_performs`, `Code.run_performs`: what each part of a
  program adds to a run.
* `run_bracketed`: every run of every program is bracketed.
-/

namespace FluentSql

variable {ρ β : Type}

/-! ## Names of savepoints -/

/-- The names of a number of savepoints that have none, from a counter on. -/
def namesFrom (start : UInt64) (count : Nat) : List String :=
  (List.range count).map fun k => savepointName (start + UInt64.ofNat k)

theorem namesFrom_add (start : UInt64) (m n : Nat) :
    namesFrom start (m + n) = namesFrom start m ++ namesFrom (start + UInt64.ofNat m) n := by
  simp only [namesFrom, List.range_add, List.map_append, List.map_map]
  congr 1
  refine List.map_congr_left fun k _ => ?_
  rw [Function.comp_apply, UInt64.ofNat_add, ← UInt64.add_assoc]

theorem append_eq_namesFrom {start : UInt64} {names more : List String} (h : names = namesFrom start names.length)
    (hmore : more = namesFrom (start + UInt64.ofNat names.length) more.length) :
    names ++ more = namesFrom start (names ++ more).length := by
  rw [List.length_append, namesFrom_add, ← h, ← hmore]

theorem toString_nat_injective {m n : Nat} (h : toString m = toString n) : m = n := by
  have hdigits : Nat.toDigits 10 m = Nat.toDigits 10 n := by
    have hlist : (toString m).toList = (toString n).toList := congrArg String.toList h
    simpa [Nat.toString_eq_ofList_toDigits] using hlist
  rw [← Nat.ofDigitChars_ten_toDigits (n := m), hdigits, Nat.ofDigitChars_ten_toDigits]

theorem savepointName_injective {m n : UInt64} (h : savepointName m = savepointName n) : m = n :=
  UInt64.toNat_inj.1 (toString_nat_injective ((String.append_right_inj _).1 h))

/-- Names differ as long as the counter has not come round. -/
theorem nodup_namesFrom (start : UInt64) {count : Nat} (h : count ≤ 2 ^ 64) : (namesFrom start count).Nodup := by
  refine List.Nodup.map_on (fun i hi j hj hij => ?_) List.nodup_range
  have hk : UInt64.ofNat i = UInt64.ofNat j := by
    simpa using savepointName_injective hij
  have hi' := List.mem_range.1 hi
  have hj' := List.mem_range.1 hj
  have hnat := congrArg UInt64.toNat hk
  rw [UInt64.toNat_ofNat', UInt64.toNat_ofNat'] at hnat
  omega

/-- A name made of a number is an identifier of one part. -/
theorem parse_savepointName (n : UInt64) : Ident.parse (savepointName n) = .ok ⟨[savepointName n]⟩ := by
  have hfixed : ∀ c ∈ "sqlweave_sp_".toList, Ident.PlainChar c := Ident.plainChars_of_all (by decide)
  refine Ident.parse_of_plain (fun h => ?_) fun c hc => ?_
  · have hempty : "sqlweave_sp_".toList ++ (toString n.toNat).toList = [] := by
      rw [← String.toList_append]
      exact congrArg String.toList h
    cases hempty
  · rw [savepointName, String.toList_append, List.mem_append] at hc
    rcases hc with htext | hnumber
    · exact hfixed c htext
    · have hmem : c ∈ Nat.toDigits 10 n.toNat := by simpa using hnumber
      have hdigit : c.isDigit = true := Nat.isDigit_of_mem_toDigits (by decide) (by decide) hmem
      refine Ident.isPlain_iff.1 ?_
      simp [Ident.isPlain, Char.isAlphanum, hdigit]

/-! ## Worlds -/

namespace World

/-- The world after more moments and more savepoints with names of their own. -/
def later (w : World ρ) (ms : List (Moment ρ)) (names : List String) : World ρ :=
  { history := w.history ++ ms, savepoints := w.savepoints + UInt64.ofNat names.length }

theorem later_nil (w : World ρ) (ms : List (Moment ρ)) : w.later ms [] = w.after ms := by
  simp [later, after]

theorem later_later (w : World ρ) (ms ms' : List (Moment ρ)) (names names' : List String) :
    (w.later ms names).later ms' names' = w.later (ms ++ ms') (names ++ names') := by
  simp [later, UInt64.ofNat_add, UInt64.add_assoc]

end World

namespace Run

theorem Adds.bind_reaches {γ : Type} {x : Run ρ β} {f : β → Run ρ γ} {w w' : World ρ} {ms : List (Moment ρ)} {b : β}
    {c : γ} (hx : x.Adds w ms b) (hf : (f b).Reaches (w.after ms) w' c) : (x >>= f).Reaches w w' c :=
  Reaches.bind hx hf

theorem Adds.reaches {x : Run ρ β} {w : World ρ} {ms : List (Moment ρ)} {b : β} (h : x.Adds w ms b) :
    x.Reaches w (w.later ms []) b := by
  rw [World.later_nil]
  exact h

end Run

/-! ## Control commands -/

/-- A control command is sent. -/
def controlSent (sql : String) : Moment ρ :=
  .logged (.sent { sql, params := [], mode := .execute })

/-- The answer of a connection to a control command after some moments. -/
def Connection.controlAnswer (c : Connection ρ) (past : List (Moment ρ)) (sql : String) : Except SqlError UInt64 :=
  c.affected (sentCommands past) { sql, params := [], mode := .execute }

/-- A control command adds nothing but itself, whatever monitors there are. -/
theorem Executor.control_adds {ctl : Control} {sql : String} (h : ctl.sql = .ok sql) (e : Executor ρ) (w : World ρ) :
    (e.control ctl).Adds w [controlSent sql] ((e.connection.controlAnswer w.history sql).map fun _ => ()) := by
  rw [control, h]
  exact .bind_nil (send_adds Ask.affected e.connection _ w) (Run.adds_pure _ _)

theorem Executor.control_refused {ctl : Control} {err : SqlError} (h : ctl.sql = .error err) (e : Executor ρ)
    (w : World ρ) : (e.control ctl).Adds w [] (.error err) := by
  rw [control, h]
  exact Run.adds_pure _ _

/-- A control command, and behind it what adds nothing and yields a value by the answer. -/
theorem Executor.control_bind_adds {ctl : Control} {sql : String} (h : ctl.sql = .ok sql) (e : Executor ρ)
    (w : World ρ) {rest : Except SqlError Unit → Run ρ β} {value : Except SqlError UInt64 → β}
    (hrest : ∀ answer w', (rest (answer.map fun _ => ())).Adds w' [] (value answer)) :
    (e.control ctl >>= rest).Adds w [controlSent sql] (value (e.connection.controlAnswer w.history sql)) :=
  .bind_nil (e.control_adds h w) (hrest _ _)

/-! ## Blocks -/

/-- The commands around the body of a block, and the name of its failed end in error texts. -/
structure Brackets where
  opening : String
  closing : String
  undoing : String
  label : String

namespace Brackets

/-- The commands of a transaction. -/
def transaction : Brackets :=
  { opening := "START TRANSACTION", closing := "COMMIT", undoing := "ROLLBACK", label := "rollback" }

/-- The commands of a savepoint with a quoted name. -/
def savepoint (quotedName : String) : Brackets :=
  { opening := "SAVEPOINT " ++ quotedName
    closing := "RELEASE SAVEPOINT " ++ quotedName
    undoing := "ROLLBACK TO SAVEPOINT " ++ quotedName
    label := "savepoint rollback" }

/-- The command that ends a block, by the result of its body. -/
def ending (k : Brackets) : Except SqlError β → String
  | .ok _ => k.closing
  | .error _ => k.undoing

/-- How a block ends, by the result of its body and the answer to the command that ends it. -/
def exit (k : Brackets) : Except SqlError β → Except SqlError UInt64 → Exit β
  | .ok b, .ok _ => .value (.ok b)
  | .ok _, .error err => .leave err
  | .error err, .ok _ => .value (.error err)
  | .error err, .error second => .value (.error (.execution s!"{err.message} ({k.label} failed: {second.message})"))

/-- What stands between the brackets of a block adds to a run, together with the brackets. The body is given by what
it adds: moments, new names of savepoints, and a result. -/
inductive Around (c : Connection ρ) (body : World ρ → List (Moment ρ) → List String → Except SqlError β → Prop)
    (k : Brackets) (w : World ρ) : List (Moment ρ) → List String → Exit β → Prop
  /-- The opening command fails, and nothing more is sent. -/
  | unopened {err : SqlError} (opening : c.controlAnswer w.history k.opening = .error err) :
      Around c body k w [controlSent k.opening] [] (.leave err)
  /-- The body runs, and a single command ends it, by its result. -/
  | closed {n : UInt64} {ms : List (Moment ρ)} {names : List String} {r : Except SqlError β}
      (opening : c.controlAnswer w.history k.opening = .ok n)
      (inside : body (w.after [controlSent k.opening]) ms names r) :
      Around c body k w (controlSent k.opening :: (ms ++ [controlSent (k.ending r)])) names
        (k.exit r (c.controlAnswer (w.history ++ controlSent k.opening :: ms) (k.ending r)))

end Brackets

/-- What a block adds to a run. -/
inductive Block.Bracketed (c : Connection ρ)
    (body : World ρ → List (Moment ρ) → List String → Except SqlError β → Prop) (w : World ρ) :
    Block → List (Moment ρ) → List String → Exit β → Prop
  | transaction {ms : List (Moment ρ)} {names : List String} {exit : Exit β}
      (around : Brackets.transaction.Around c body w ms names exit) : Bracketed c body w .transaction ms names exit
  | named {name : String} {i : Ident} {ms : List (Moment ρ)} {names : List String} {exit : Exit β}
      (read : Ident.parse name = .ok i) (around : (Brackets.savepoint i.sql).Around c body w ms names exit) :
      Bracketed c body w (.savepoint (some name)) ms names exit
  /-- The name is no identifier: nothing is sent, and the body does not run. -/
  | refused {name : String} {fault : IdentFault} (read : Ident.parse name = .error fault) :
      Bracketed c body w (.savepoint (some name)) [] [] (.leave (.invalidIdentifier (fault.message name)))
  /-- A savepoint without a name gets the next one. -/
  | anonymous {ms : List (Moment ρ)} {names : List String} {exit : Exit β}
      (around : (Brackets.savepoint (Ident.partSql (savepointName w.savepoints))).Around c body
        (w.later [] [savepointName w.savepoints]) ms names exit) :
      Bracketed c body w (.savepoint none) ms (savepointName w.savepoints :: names) exit

/-- A computation adds what this relation says, and the names it makes up are the next ones. -/
def Run.Performs (x : Run ρ β) (body : World ρ → List (Moment ρ) → List String → β → Prop) : Prop :=
  ∀ w, ∃ ms names b, x.Reaches w (w.later ms names) b ∧ body w ms names b ∧
    names = namesFrom w.savepoints names.length

theorem bracket_performs (e : Executor ρ) (k : Brackets) (opening closing undoing : Control)
    (hopening : opening.sql = .ok k.opening) (hclosing : closing.sql = .ok k.closing)
    (hundoing : undoing.sql = .ok k.undoing) {x : Run ρ (Except SqlError β)}
    {body : World ρ → List (Moment ρ) → List String → Except SqlError β → Prop} (hx : x.Performs body) :
    (bracket e opening closing undoing k.label x).Performs (k.Around e.connection body) := by
  intro w
  have hopen := e.control_adds hopening w
  cases hanswer : e.connection.controlAnswer w.history k.opening with
  | error err =>
    rw [hanswer] at hopen
    have hrun : (bracket e opening closing undoing k.label x).Adds w [controlSent k.opening] (.leave err) :=
      .bind_nil hopen (Run.adds_pure _ _)
    exact ⟨_, [], _, hrun.reaches, .unopened hanswer, rfl⟩
  | ok n =>
    rw [hanswer] at hopen
    obtain ⟨ms, names, r, hrun, hbody, hnames⟩ := hx (w.after [controlSent k.opening])
    refine ⟨_, names, _, ?_, .closed hanswer hbody, hnames⟩
    -- the answer to the last command depends on what the body left behind
    let atEnd : World ρ := (w.after [controlSent k.opening]).later ms names
    have hworld : w.later (controlSent k.opening :: (ms ++ [controlSent (k.ending r)])) names =
        atEnd.after [controlSent (k.ending r)] := by
      simp [atEnd, World.later, World.after]
    have hhistory : w.history ++ controlSent k.opening :: ms = atEnd.history := by
      simp [atEnd, World.later, World.after]
    rw [hworld, hhistory]
    refine hopen.bind_reaches (hrun.bind ?_)
    cases r with
    | ok b =>
      refine e.control_bind_adds hclosing atEnd fun answer w' => ?_
      cases answer with
      | ok n => exact Run.adds_pure _ w'
      | error err => exact Run.adds_pure _ w'
    | error err =>
      refine e.control_bind_adds hundoing atEnd fun answer w' => ?_
      cases answer with
      | ok n => exact Run.adds_pure _ w'
      | error second => exact Run.adds_pure _ w'

/-- The control commands of a savepoint whose name is an identifier. -/
theorem savepoint_performs (e : Executor ρ) {name : String} {i : Ident} (h : Ident.parse name = .ok i)
    {x : Run ρ (Except SqlError β)} {body : World ρ → List (Moment ρ) → List String → Except SqlError β → Prop}
    (hx : x.Performs body) : (savepoint e name x).Performs ((Brackets.savepoint i.sql).Around e.connection body) := by
  have hquoted := quoteIdent_of_parse h
  have hopening : (Control.savepoint name).sql = .ok (Brackets.savepoint i.sql).opening := by
    rw [Control.sql, hquoted]
    rfl
  have hclosing : (Control.release name).sql = .ok (Brackets.savepoint i.sql).closing := by
    rw [Control.sql, hquoted]
    rfl
  have hundoing : (Control.rollbackTo name).sql = .ok (Brackets.savepoint i.sql).undoing := by
    rw [Control.sql, hquoted]
    rfl
  exact bracket_performs e (Brackets.savepoint i.sql) _ _ _ hopening hclosing hundoing hx

/-- A savepoint whose name is no identifier. -/
theorem savepoint_refused (e : Executor ρ) {name : String} {fault : IdentFault} (h : Ident.parse name = .error fault)
    (x : Run ρ (Except SqlError β)) (w : World ρ) :
    (savepoint e name x).Adds w [] (.leave (.invalidIdentifier (fault.message name))) := by
  have hquoted : quoteIdent name = .error (.invalidIdentifier (fault.message name)) := by
    rw [quoteIdent, h]
  have hopening : (Control.savepoint name).sql = .error (.invalidIdentifier (fault.message name)) := by
    rw [Control.sql, hquoted]
    rfl
  exact .bind_nil (e.control_refused hopening w) (Run.adds_pure _ _)

/-- Running a block performs what blocks perform around such a body. -/
theorem Block.run_performs (e : Executor ρ) {x : Run ρ (Except SqlError β)}
    {body : World ρ → List (Moment ρ) → List String → Except SqlError β → Prop} (hx : x.Performs body) (b : Block) :
    (b.run e x).Performs fun w => Block.Bracketed e.connection body w b := by
  intro w
  cases b with
  | transaction =>
    obtain ⟨ms, names, exit, hrun, haround, hnames⟩ :=
      bracket_performs e .transaction .begin .commit .rollback rfl rfl rfl hx w
    exact ⟨ms, names, exit, hrun, .transaction haround, hnames⟩
  | savepoint name? =>
    cases name? with
    | some name =>
      cases hread : Ident.parse name with
      | ok i =>
        obtain ⟨ms, names, exit, hrun, haround, hnames⟩ := savepoint_performs e hread hx w
        exact ⟨ms, names, exit, hrun, .named hread haround, hnames⟩
      | error fault => exact ⟨[], [], _, (savepoint_refused e hread x w).reaches, .refused hread, rfl⟩
    | none =>
      -- the number is taken before anything is sent, also when the savepoint then fails to open
      let name := savepointName w.savepoints
      have hfresh : Run.freshSavepoint.Reaches w (w.later [] [name]) name := by
        rw [World.later, List.append_nil]
        rfl
      obtain ⟨ms, names, exit, hrun, haround, hnames⟩ :=
        savepoint_performs e (parse_savepointName w.savepoints) hx (w.later [] [name])
      rw [World.later_later] at hrun
      refine ⟨ms, name :: names, exit, hfresh.bind hrun, .anonymous haround, ?_⟩
      have hone : [name] = namesFrom w.savepoints 1 := by simp [namesFrom, name]
      exact append_eq_namesFrom hone hnames

/-! ## Actions -/

/-- A computation only adds moments, and sends at most one command. -/
def Run.SendsOnce (x : Run ρ β) : Prop :=
  ∀ w, ∃ ms b, x.Adds w ms b ∧ (sentCommands ms).length ≤ 1

namespace Run.SendsOnce

theorem pure (b : β) : (Pure.pure b : Run ρ β).SendsOnce :=
  fun w => ⟨[], b, adds_pure b w, Nat.zero_le 1⟩

theorem map {γ : Type} {x : Run ρ (Except SqlError β)} (h : x.SendsOnce) (f : β → γ) :
    SendsOnce (do return (← x).map f) := by
  intro w
  obtain ⟨ms, r, hx, hone⟩ := h w
  exact ⟨ms, r.map f, .bind_nil hx (adds_pure _ _), hone⟩

theorem perform (e : Executor ρ) (ask : Ask ρ β) (sql : String) (params : List Value) :
    (e.perform ask sql params).SendsOnce := by
  intro w
  obtain ⟨ms, r, hx, hone, -⟩ := e.perform_once ask params sql w
  exact ⟨ms, r, hx, hone⟩

theorem queryOptional (e : Executor ρ) (sql : String) (params : List Value) :
    (e.queryOptional sql params).SendsOnce := by
  intro w
  obtain ⟨ms, r, hx, hone⟩ := perform e Ask.rows sql params w
  exact ⟨ms, _, Executor.queryOptional_adds hx, hone⟩

theorem queryOne (e : Executor ρ) (sql : String) (params : List Value) : (e.queryOne sql params).SendsOnce := by
  intro w
  obtain ⟨ms, r, hx, hone⟩ := perform e Ask.rows sql params w
  exact ⟨ms, _, Executor.queryOne_adds hx, hone⟩

theorem control (e : Executor ρ) (ctl : Control) : (e.control ctl).SendsOnce := by
  intro w
  cases hsql : ctl.sql with
  | ok sql => exact ⟨_, _, e.control_adds hsql w, Nat.le_refl 1⟩
  | error err => exact ⟨_, _, e.control_refused hsql w, Nat.zero_le 1⟩

theorem built {s : Statement} {next : String → List Value → Run ρ (Except SqlError (Reply ρ))}
    (h : ∀ sql params, (next sql params).SendsOnce) : (built s next).SendsOnce := by
  intro w
  cases hbuild : s.build with
  | ok q =>
    obtain ⟨ms, r, hrest, hone⟩ := h q.sql q.params (w.after [buildNote s])
    exact ⟨_, r, built_adds hbuild hrest, hone⟩
  | error err => exact ⟨_, _, built_refused hbuild w, Nat.zero_le 1⟩

end Run.SendsOnce

theorem Action.run_sendsOnce (e : Executor ρ) (a : Action) : (a.run e).SendsOnce := by
  cases a with
  | fetch s => exact .built fun sql params => (Run.SendsOnce.perform e Ask.rows sql params).map _
  | fetchOne s => exact .built fun sql params => (Run.SendsOnce.queryOne e sql params).map _
  | fetchOptional s => exact .built fun sql params => (Run.SendsOnce.queryOptional e sql params).map _
  | executeStatement s => exact .built fun sql params => (Run.SendsOnce.perform e Ask.affected sql params).map _
  | query sql params => exact (Run.SendsOnce.perform e Ask.rows sql params).map _
  | queryOne sql params => exact (Run.SendsOnce.queryOne e sql params).map _
  | queryOptional sql params => exact (Run.SendsOnce.queryOptional e sql params).map _
  | execute sql params => exact (Run.SendsOnce.perform e Ask.affected sql params).map _
  | control ctl => exact (Run.SendsOnce.control e ctl).map _
  | fail message => exact .pure _

/-! ## Code -/

/-- What a run of code adds, with the names it makes up for savepoints and its result. -/
def Code.Bracketed (e : Executor ρ) :
    Code ρ → World ρ → List (Moment ρ) → List String → Except SqlError (Reply ρ) → Prop
  | done result, _, ms, names, r => ms = [] ∧ names = [] ∧ r = result
  | act a next, w, ms, names, r => ∃ first rest answer, ms = first ++ rest ∧
      (a.run e).Adds w first answer ∧ (sentCommands first).length ≤ 1 ∧
      (next answer).Bracketed e (w.after first) rest names r
  | block b isFunction body next, w, ms, names, r => ∃ first rest fresh more exit,
      ms = first ++ rest ∧ names = fresh ++ more ∧
      b.Bracketed e.connection (body.Bracketed e) w first fresh exit ∧
      match exit, isFunction with
      | .leave err, false => rest = [] ∧ more = [] ∧ r = .error err
      | exit, _ => (next exit.result).Bracketed e (w.later first fresh) rest more r
  | log label result next, w, ms, names, r => ∃ rest, ms = .logged (.finished label result) :: rest ∧
      next.Bracketed e (w.after [.logged (.finished label result)]) rest names r

/-- A run of code is bracketed. The induction is on the code; the names are made up in the order in which the parts of
the code run. -/
theorem Code.run_performs (e : Executor ρ) (code : Code ρ) : (code.run e).Performs (code.Bracketed e) := by
  induction code with
  | done result =>
    intro w
    exact ⟨[], [], result, (Run.adds_pure _ w).reaches, ⟨rfl, rfl, rfl⟩, rfl⟩
  | act a next ih =>
    intro w
    obtain ⟨first, answer, hact, hone⟩ := a.run_sendsOnce e w
    obtain ⟨rest, names, r, hnext, hrest, hnames⟩ := ih answer (w.after first)
    have hrun : (Code.run e (.act a next)).Reaches w ((w.after first).later rest names) r := hact.bind_reaches hnext
    rw [← World.later_nil, World.later_later] at hrun
    exact ⟨first ++ rest, names, r, hrun, ⟨first, rest, answer, rfl, hact, hone, hrest⟩, hnames⟩
  | log label result next ih =>
    intro w
    obtain ⟨rest, names, r, hnext, hrest, hnames⟩ := ih (w.after [.logged (.finished label result)])
    have hrun : (Code.run e (.log label result next)).Reaches w
        ((w.after [.logged (.finished label result)]).later rest names) r :=
      (Run.adds_emit _ w).bind_reaches hnext
    rw [← World.later_nil, World.later_later] at hrun
    exact ⟨_, names, r, hrun, ⟨rest, rfl, hrest⟩, hnames⟩
  | block b isFunction body next ihbody ihnext =>
    intro w
    obtain ⟨first, fresh, exit, hblock, hbracketed, hfresh⟩ := b.run_performs e ihbody w
    obtain ⟨rest, more, r, hnext, hrest, hmore⟩ := ihnext exit.result (w.later first fresh)
    have hnames : fresh ++ more = namesFrom w.savepoints (fresh ++ more).length := append_eq_namesFrom hfresh hmore
    cases exit with
    | value value =>
      have hrun : (Code.run e (.block b isFunction body next)).Reaches w ((w.later first fresh).later rest more) r := by
        rw [Code.run]
        exact hblock.bind hnext
      rw [World.later_later] at hrun
      refine ⟨first ++ rest, fresh ++ more, r, hrun, ?_, hnames⟩
      rw [Code.Bracketed]
      exact ⟨first, rest, fresh, more, _, rfl, rfl, hbracketed, hrest⟩
    | leave err =>
      cases isFunction with
      | true =>
        have hrun : (Code.run e (.block b true body next)).Reaches w ((w.later first fresh).later rest more) r := by
          rw [Code.run]
          exact hblock.bind hnext
        rw [World.later_later] at hrun
        refine ⟨first ++ rest, fresh ++ more, r, hrun, ?_, hnames⟩
        rw [Code.Bracketed]
        exact ⟨first, rest, fresh, more, _, rfl, rfl, hbracketed, hrest⟩
      | false =>
        -- a command of the block itself failed: what stands behind the block does not run
        have hrun : (Code.run e (.block b false body next)).Reaches w (w.later first fresh) (.error err) := by
          rw [Code.run]
          exact hblock.bind (Run.reaches_pure _ _)
        refine ⟨first, fresh, .error err, hrun, ?_, hfresh⟩
        rw [Code.Bracketed]
        exact ⟨first, [], fresh, [], _, by simp, by simp, hbracketed, rfl, rfl, rfl⟩

/-! ## Programs -/

/-- **Bracketing.** Take any program, any connection, and any monitors around it.

* What a run adds is bracketed: a transaction or savepoint either fails to open and sends nothing more, or its opening
  command is followed by what its body adds and by one closing command, chosen by the result of the body. A savepoint
  whose name is no identifier sends nothing.
* The names that are made up for savepoints are the next ones, and they differ as long as there are fewer than
  `2 ^ 64` of them.
* The log of a list of steps is the log of such a run.
* A control command adds no more than itself, and does what it does without any monitors. -/
theorem run_bracketed :
    (∀ (e : Executor ρ) (code : Code ρ) (w : World ρ), ∃ ms names r,
      (code.run e).run w = (r, { history := w.history ++ ms, savepoints := w.savepoints + UInt64.ofNat names.length }) ∧
        code.Bracketed e w ms names r ∧ names = namesFrom w.savepoints names.length ∧
        (names.length < 2 ^ 64 → names.Nodup)) ∧
    (∀ (e : Executor ρ) (program : List Step), ∃ ms names r,
      Step.logOf e program = ms.filterMap Moment.event? ∧ (Step.programCode program).Bracketed e {} ms names r) ∧
    ∀ (e : Executor ρ) (ctl : Control) (w : World ρ), ∃ ms r, (e.control ctl).Adds w ms r ∧
      ((Executor.direct e.connection).control ctl).Adds w ms r ∧
      (ms = [] ∨ ∃ sql, ctl.sql = .ok sql ∧ ms = [controlSent sql]) := by
  refine ⟨fun e code w => ?_, fun e program => ?_, fun e ctl w => ?_⟩
  · obtain ⟨ms, names, r, hrun, hbracketed, hnames⟩ := code.run_performs e w
    refine ⟨ms, names, r, hrun, hbracketed, hnames, fun hfew => ?_⟩
    rw [hnames]
    exact nodup_namesFrom _ (Nat.le_of_lt hfew)
  · obtain ⟨ms, names, r, hrun, hbracketed, -⟩ := (Step.programCode program).run_performs e {}
    refine ⟨ms, names, r, ?_, hbracketed⟩
    have hworld : (((Step.programCode program).run e).run {}).2 = World.later {} ms names := congrArg Prod.snd hrun
    rw [Step.logOf, hworld]
    rfl
  · cases hsql : ctl.sql with
    | ok sql =>
      exact ⟨_, _, e.control_adds hsql w, Executor.control_adds hsql (.direct e.connection) w, .inr ⟨sql, rfl, rfl⟩⟩
    | error err =>
      exact ⟨[], _, e.control_refused hsql w, Executor.control_refused hsql (.direct e.connection) w, .inl rfl⟩

/-- A connection that opens one transaction only: the one inside fails to open and leaves the outer one, which is
rolled back. -/
example (c : Connection ρ) :
    (Code.run
      (.direct { c with affected := fun past _ => if past.length = 1 then .error (.execution "open") else .ok 0 })
      (.block .transaction true (.block .transaction false (.done (.ok .done)) .done) .done)).run {} =
    (.error (.execution "open"),
      { history := [controlSent "START TRANSACTION", controlSent "START TRANSACTION", controlSent "ROLLBACK"] }) := by
  cbv

end FluentSql

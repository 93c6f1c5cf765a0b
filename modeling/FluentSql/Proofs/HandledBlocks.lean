import FluentSql.Proofs.Bracketing
import Mathlib

/-!
# FluentSql.Proofs.HandledBlocks — blocks whose results are handled

The code around a block can handle the block's result. A failed ROLLBACK is part of that result. A failed command that
opens or closes the block, or a name that cannot be quoted, is part of it only where the block stands in a function of
its own; otherwise the code around the block ends there.

* `Code.run_block`: what runs behind a block, by how the block ends.
* `Step.code_handled`: a handled step is logged, and the code behind it runs.
* `Step.run_handled`: a list of handled steps runs to its end, so that a transaction around them is committed.
-/

namespace FluentSql

variable {ρ : Type}

/-- Behind a block runs the code for its result, unless a command of its own failed and it does not stand in a function
of its own. -/
theorem Code.run_block (e : Executor ρ) (b : Block) (isFunction : Bool) (body : Code ρ)
    (next : Except SqlError (Reply ρ) → Code ρ) (w : World ρ) : ∃ ms names exit,
    b.Bracketed e.connection (body.Bracketed e) w ms names exit ∧ names = namesFrom w.savepoints names.length ∧
      ((Code.block b isFunction body next).run e).run w =
        match exit, isFunction with
        | .leave err, false => (.error err, w.later ms names)
        | exit, _ => ((next exit.result).run e).run (w.later ms names) := by
  obtain ⟨ms, names, exit, hrun, hbracketed, hnames⟩ := b.run_performs e (body.run_performs e) w
  refine ⟨ms, names, exit, hbracketed, hnames, ?_⟩
  rw [Code.run, StateT.run_bind, show (b.run e (body.run e)).run w = (exit, w.later ms names) from hrun]
  cases exit <;> cases isFunction <;> rfl

/-- A connection on which the second command fails. -/
def failingSecond : Connection Unit where
  delay := fun _ => 0
  rows := fun _ _ => .ok []
  affected := fun past _ => if past.length = 1 then .error (.execution "refused") else .ok 0

/-- A savepoint fails to open and does not stand in a function of its own. The code behind it handles any result of it
and ends without a failure, but does not run: the transaction around the savepoint is rolled back. -/
example :
    ((Code.block .transaction true
      (.block (.savepoint (some "a")) false (.done (.ok .done)) fun _ => .done (.ok .done)) .done).run
        (.direct failingSecond)).run {} =
    (.error (.execution "refused"),
      { history := [controlSent "START TRANSACTION", controlSent "SAVEPOINT `a`", controlSent "ROLLBACK"] }) := by
  cbv

namespace Step

/-- A step whose failure is handled, and whose block, if it is one, stands in a function of its own. -/
def Handled (s : Step) : Prop :=
  s.handling.caught = true ∧ s.handling.isFunction = true

/-- A handled step is logged with its result, and the code behind it runs. -/
theorem code_handled (e : Executor ρ) {s : Step} (h : s.Handled) (w : World ρ) : ∃ ms names r,
    names = namesFrom w.savepoints names.length ∧ ∀ (rest : Code ρ),
      ((s.code s.handling rest).run e).run w =
        (rest.run e).run ((w.later ms names).after [.logged (.finished s.handling.label r)]) := by
  obtain ⟨hcaught, hfunction⟩ := h
  have hsettle (r : Except SqlError (Reply ρ)) (rest : Code ρ) (w' : World ρ) :
      ((s.handling.settle r rest).run e).run w' =
        (rest.run e).run (w'.after [.logged (.finished s.handling.label r)]) := by
    have hrest : s.handling.settle r rest = .log s.handling.label r rest := by
      unfold Handling.settle
      rw [hcaught]
      cases r <;> rfl
    rw [hrest]
    rfl
  -- transactions and savepoints differ in their commands only
  have hblock (b : Block) (body : List Step) (hcode : ∀ rest : Code ρ, s.code s.handling rest =
      .block b true (bodyCode body) fun r => s.handling.settle r rest) : ∃ ms names r,
      names = namesFrom w.savepoints names.length ∧ ∀ (rest : Code ρ),
        ((s.code s.handling rest).run e).run w =
          (rest.run e).run ((w.later ms names).after [.logged (.finished s.handling.label r)]) := by
    obtain ⟨ms, names, exit, hrun, -, hnames⟩ := b.run_performs e ((bodyCode body).run_performs e) w
    refine ⟨ms, names, exit.result, hnames, fun rest => ?_⟩
    rw [hcode, Code.run, StateT.run_bind,
      show (b.run e ((bodyCode body).run e)).run w = (exit, w.later ms names) from hrun, ← hsettle]
    cases exit <;> rfl
  cases s with
  | act handling a =>
    obtain ⟨ms, r, hact, -⟩ := a.run_sendsOnce e w
    refine ⟨ms, [], r, rfl, fun rest => ?_⟩
    rw [World.later_nil, ← hsettle, code, Code.run, StateT.run_bind, show (a.run e).run w = (r, w.after ms) from hact]
    rfl
  | transaction handling body =>
    exact hblock .transaction body fun rest => by rw [code, hfunction]
  | savepoint handling name body =>
    exact hblock (.savepoint name) body fun rest => by rw [code, hfunction]

/-- What a list of handled steps adds: for each of them some moments, and its result at their end. -/
inductive Listed : List Step → List (Moment ρ) → Prop
  | nil : Listed [] []
  | cons {s : Step} {ss : List Step} {ms rest : List (Moment ρ)} (r : Except SqlError (Reply ρ))
      (tail : Listed ss rest) : Listed (s :: ss) (ms ++ .logged (.finished s.handling.label r) :: rest)

/-- Handled steps all run, whatever fails in them, and end without a failure. -/
theorem run_handled (e : Executor ρ) {ss : List Step} (h : ∀ s ∈ ss, s.Handled) :
    ((bodyCode ss : Code ρ).run e).Performs fun _ ms _ r => r = .ok .done ∧ Listed ss ms := by
  induction ss with
  | nil =>
    intro w
    exact ⟨[], [], .ok .done, (Run.adds_pure _ w).reaches, ⟨rfl, .nil⟩, rfl⟩
  | cons s ss ih =>
    obtain ⟨hs, hss⟩ := List.forall_mem_cons.1 h
    intro w
    obtain ⟨ms, names, r, hnames, hstep⟩ := code_handled (ρ := ρ) e hs w
    obtain ⟨rest, more, result, hrun, ⟨hresult, hlisted⟩, hmore⟩ :=
      ih hss ((w.later ms names).after [.logged (.finished s.handling.label r)])
    have hworld : ((w.later ms names).after [.logged (.finished s.handling.label r)]).later rest more =
        w.later (ms ++ .logged (.finished s.handling.label r) :: rest) (names ++ more) := by
      rw [← World.later_nil, World.later_later, World.later_later]
      simp
    rw [hworld] at hrun
    exact ⟨_, _, result, (hstep (bodyCode ss)).trans hrun, ⟨hresult, .cons r hlisted⟩, append_eq_namesFrom hnames hmore⟩

/-- A transaction around handled steps fails to open, or all its steps run and it is committed. -/
theorem transaction_handled (e : Executor ρ) {ss : List Step} (h : ∀ s ∈ ss, s.Handled) :
    (Block.transaction.run e ((bodyCode ss : Code ρ).run e)).Performs fun w ms _ exit =>
      (∃ err, ms = [controlSent "START TRANSACTION"] ∧ exit = .leave err) ∨
        ∃ inner, Listed ss inner ∧ ms = controlSent "START TRANSACTION" :: (inner ++ [controlSent "COMMIT"]) ∧
          exit = Brackets.transaction.exit (.ok .done)
            (e.connection.controlAnswer (w.history ++ controlSent "START TRANSACTION" :: inner) "COMMIT") := by
  intro w
  obtain ⟨ms, names, exit, hrun, hbracketed, hnames⟩ := Block.run_performs e (run_handled e h) .transaction w
  refine ⟨ms, names, exit, hrun, ?_, hnames⟩
  cases hbracketed with
  | transaction around =>
    cases around with
    | unopened opening => exact .inl ⟨_, rfl, rfl⟩
    | closed opening inside =>
      obtain ⟨rfl, hlisted⟩ := inside
      exact .inr ⟨_, hlisted, rfl, rfl⟩

end Step

end FluentSql

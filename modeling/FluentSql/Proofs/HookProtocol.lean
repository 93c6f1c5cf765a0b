import FluentSql.Proofs.HookViews
import FluentSql.Proofs.Runs

/-!
# FluentSql.Proofs.HookProtocol — what a monitor does with a query

* `Moment.isFacing`: the moments a monitor takes part in: calls of the executor inside it and of its own hooks.
* `Moment.Within`, `Moment.OfHooks`: the moments during a call of an executor, and those that hooks cause.
* `Faithful`: what moments say about hooks is what the hooks at those places do.
* `Questions`, `reports`: the calls of hooks before and after a query.
* `Monitor.consult_adds`, `Monitor.report_adds`, `Executor.call_adds`: what each part of a call adds to a run.
* `MonitoredCall`: a call that a hook refuses, that ends, or that is cut off from outside.
* `hook_protocol`: every call of a monitored executor is one of these, and statements are sent by one such call.
-/

namespace FluentSql

variable {ρ β : Type}

/-! ## Moments -/

namespace Moment

/-- The moments that a monitor around an executor of this level takes part in: calls of the executor, and calls of
the hooks of the monitor. -/
def isFacing (level : Nat) : Moment ρ → Bool
  | logged _ => false
  | called l _ => l == level
  | asked l _ _ _ => l == level + 1
  | told l _ _ _ => l == level + 1

/-- The moments that may follow while a call of an executor of this level goes on. -/
def Within (level : Nat) : Moment ρ → Prop
  | logged _ => True
  | called l _ => l < level
  | asked l _ _ _ => l ≤ level
  | told l _ _ _ => l ≤ level

/-- Calls of the hooks of a level, and what hooks leave in the log. -/
def OfHooks (level : Nat) : Moment ρ → Prop
  | logged (.notice _) => True
  | asked l _ _ _ => l = level
  | told l _ _ _ => l = level
  | _ => False

theorem Within.isFacing {level : Nat} {x : Moment ρ} (h : x.Within level) : x.isFacing level = false := by
  cases x with
  | logged e => rfl
  | called l c => exact beq_false_of_ne (Nat.ne_of_lt h)
  | asked l place ctx action => exact beq_false_of_ne (Nat.ne_of_lt (Nat.lt_succ_of_le h))
  | told l place ctx outcome => exact beq_false_of_ne (Nat.ne_of_lt (Nat.lt_succ_of_le h))

theorem Within.succ {level : Nat} {x : Moment ρ} (h : x.Within level) : x.Within (level + 1) := by
  cases x with
  | logged e => trivial
  | called l c => exact Nat.lt_succ_of_lt h
  | asked l place ctx action => exact Nat.le_succ_of_le h
  | told l place ctx outcome => exact Nat.le_succ_of_le h

theorem OfHooks.within {level : Nat} {x : Moment ρ} (h : x.OfHooks level) : x.Within level := by
  cases x with
  | logged e => trivial
  | called l c => exact h.elim
  | asked l place ctx action => exact Nat.le_of_eq h
  | told l place ctx outcome => exact Nat.le_of_eq h

theorem OfHooks.command? {level : Nat} {x : Moment ρ} (h : x.OfHooks level) : x.command? = none := by
  cases x with
  | logged e =>
    cases e with
    | notice n => rfl
    | sent c => exact h.elim
    | finished label result => exact h.elim
  | called l c => exact h.elim
  | asked l place ctx action => rfl
  | told l place ctx outcome => rfl

theorem ofHooks_of_mem_noted {level : Nat} {ns : List Notice} {x : Moment ρ} (h : x ∈ noted ns) :
    x.OfHooks level := by
  obtain ⟨n, -, rfl⟩ := List.mem_map.1 h
  trivial

theorem isFacing_asked (level place : Nat) (ctx : QueryContext) (action : HookAction) :
    (asked (level + 1) place ctx action : Moment ρ).isFacing level = true :=
  beq_self_eq_true (level + 1)

theorem isFacing_told (level place : Nat) (ctx : QueryContext) (outcome : QueryOutcome) :
    (told (level + 1) place ctx outcome : Moment ρ).isFacing level = true :=
  beq_self_eq_true (level + 1)

theorem isFacing_called (level : Nat) (c : Command) : (called level c : Moment ρ).isFacing level = true :=
  beq_self_eq_true level

@[simp] theorem filter_isFacing_noted (level : Nat) (ns : List Notice) :
    (noted ns : List (Moment ρ)).filter (isFacing level) = [] := by
  rw [List.filter_eq_nil_iff]
  intro x hx
  obtain ⟨n, -, rfl⟩ := List.mem_map.1 hx
  exact Bool.false_ne_true

end Moment

theorem filter_isFacing_of_within {level : Nat} {ms : List (Moment ρ)} (h : ∀ x ∈ ms, x.Within level) :
    ms.filter (Moment.isFacing level) = [] :=
  List.filter_eq_nil_iff.2 fun x hx => ne_true_of_eq_false (h x hx).isFacing

@[simp] theorem sentCommands_append (ms ms' : List (Moment ρ)) :
    sentCommands (ms ++ ms') = sentCommands ms ++ sentCommands ms' :=
  List.filterMap_append

theorem sentCommands_of_ofHooks {level : Nat} {ms : List (Moment ρ)} (h : ∀ x ∈ ms, x.OfHooks level) :
    sentCommands ms = [] :=
  List.filterMap_eq_nil_iff.2 fun x hx => (h x hx).command?

/-! ## Hooks and the moments about them -/

/-- What a moment says about a hook is what the hook at its place does in a run with this past and this future: the
hook's answer is the one recorded, and the hook's notices come next. -/
def Moment.Heard (level : Nat) (hooks : List (Hook ρ)) (past future : List (Moment ρ)) : Moment ρ → Prop
  | asked l place ctx action => l = level → ∃ hook notices, hooks[place]? = some hook ∧
      hook.before past ctx = (action, notices) ∧ noted notices <+: future
  | told l place ctx outcome => l = level → ∃ hook, hooks[place]? = some hook ∧
      noted (hook.after past ctx outcome) <+: future
  | _ => True

theorem Moment.Heard.append {level : Nat} {hooks : List (Hook ρ)} {past future : List (Moment ρ)} {x : Moment ρ}
    (h : x.Heard level hooks past future) (more : List (Moment ρ)) : x.Heard level hooks past (future ++ more) := by
  cases x with
  | logged e => trivial
  | called l c => trivial
  | asked l place ctx action =>
    intro hl
    obtain ⟨hook, notices, hhook, hbefore, hnotices⟩ := h hl
    exact ⟨hook, notices, hhook, hbefore, hnotices.trans (List.prefix_append future more)⟩
  | told l place ctx outcome =>
    intro hl
    obtain ⟨hook, hhook, hnotices⟩ := h hl
    exact ⟨hook, hhook, hnotices.trans (List.prefix_append future more)⟩

/-- What moments say about the hooks of a level is what these hooks do, from a given past on. -/
def Faithful (level : Nat) (hooks : List (Hook ρ)) : List (Moment ρ) → List (Moment ρ) → Prop
  | _, [] => True
  | past, x :: ms => x.Heard level hooks past ms ∧ Faithful level hooks (past ++ [x]) ms

section Faithful

variable {level : Nat} {hooks : List (Hook ρ)}

theorem Faithful.append {past ms ms' : List (Moment ρ)} (h : Faithful level hooks past ms)
    (h' : Faithful level hooks (past ++ ms) ms') : Faithful level hooks past (ms ++ ms') := by
  induction ms generalizing past with
  | nil => rwa [List.append_nil] at h'
  | cons x ms ih =>
    refine ⟨h.1.append ms', ih h.2 ?_⟩
    rwa [List.append_assoc, List.singleton_append]

theorem faithful_noted (past : List (Moment ρ)) (ns : List Notice) :
    Faithful level hooks past (Moment.noted ns) := by
  induction ns generalizing past with
  | nil => trivial
  | cons n ns ih => exact ⟨trivial, ih _⟩

/-- Moments of lower levels say nothing about the hooks of a level. -/
theorem faithful_of_within {l : Nat} (hl : l < level) {ms : List (Moment ρ)} (h : ∀ x ∈ ms, x.Within l)
    (past : List (Moment ρ)) : Faithful level hooks past ms := by
  induction ms generalizing past with
  | nil => trivial
  | cons x ms ih =>
    refine ⟨?_, ih (fun y hy => h y (List.mem_cons_of_mem x hy)) _⟩
    have hx : x.Within l := h x List.mem_cons_self
    cases x with
    | logged e => trivial
    | called l' c => trivial
    | asked l' place ctx action => exact fun heq => absurd (heq ▸ hx) (Nat.not_le_of_lt hl)
    | told l' place ctx outcome => exact fun heq => absurd (heq ▸ hx) (Nat.not_le_of_lt hl)

end Faithful

/-! ## Asking hooks -/

namespace HookAction

/-- The text of a query after an answer. -/
def textAfter (sql : String) : HookAction → String
  | .rewrite text => text
  | _ => sql

/-- The answer lets the query pass. -/
def Passes : HookAction → Prop
  | .abort _ => False
  | _ => True

theorem passes_or_aborts (a : HookAction) : a.Passes ∨ ∃ reason, a = .abort reason := by
  cases a with
  | proceed => exact .inl trivial
  | rewrite sql => exact .inl trivial
  | abort reason => exact .inr ⟨reason, rfl⟩

end HookAction

/-- The text of a query after all answers. -/
def textAfterAll (sql : String) (answers : List HookAction) : String :=
  answers.foldl HookAction.textAfter sql

/-- Hooks asked in order, the first of them at a given place, with these answers. Each sees the text left by those
before it, as the context of a new query with this text. -/
def questions (level paramCount : Nat) : Nat → String → List HookAction → List (Moment ρ)
  | _, _, [] => []
  | place, sql, a :: as =>
    .asked level place (.ofSql sql paramCount) a :: questions level paramCount (place + 1) (a.textAfter sql) as

/-- Hooks are asked in order, the first of them at a given place, and give these answers. Each is shown the text left by
those before it, the number of values and the type of this text. -/
inductive Questions (level paramCount : Nat) : Nat → String → List HookAction → List (Moment ρ) → Prop
  | none (place : Nat) (sql : String) : Questions level paramCount place sql [] []
  | next {place : Nat} {sql : String} {a : HookAction} {as : List HookAction} {ctx : QueryContext}
      {ms : List (Moment ρ)} (shown : ctx.Shows sql paramCount)
      (later : Questions level paramCount (place + 1) (a.textAfter sql) as ms) :
      Questions level paramCount place sql (a :: as) (.asked level place ctx a :: ms)

theorem questions_shown (level paramCount place : Nat) (sql : String) (answers : List HookAction) :
    Questions level paramCount place sql answers (questions level paramCount place sql answers : List (Moment ρ)) := by
  induction answers generalizing place sql with
  | nil => exact .none place sql
  | cons a answers ih => exact .next (QueryContext.shows_ofSql sql paramCount) (ih (place + 1) (a.textAfter sql))

/-- Hooks told in order, from a given place on, how a query ended. -/
def reports (level place count : Nat) (ctx : QueryContext) (outcome : QueryOutcome) : List (Moment ρ) :=
  (List.range' place count).map fun p => .told level p ctx outcome

/-- What comes of asking hooks: all let the query pass, or the last one asked refuses it. -/
inductive Verdict (count : Nat) (sql : String) (paramCount : Nat) :
    List HookAction → Except SqlError QueryContext → Prop
  | passed {answers : List HookAction} (all : answers.length = count) (pass : ∀ a ∈ answers, a.Passes) :
      Verdict count sql paramCount answers (.ok (.ofSql (textAfterAll sql answers) paramCount))
  | refused (answers : List HookAction) {reason : String} (fewer : answers.length < count)
      (pass : ∀ a ∈ answers, a.Passes) :
      Verdict count sql paramCount (answers ++ [.abort reason])
        (.error (.execution s!"query aborted by hook: {reason}"))

theorem Verdict.cons {count paramCount : Nat} {sql : String} {answers : List HookAction}
    {result : Except SqlError QueryContext} {a : HookAction} (ha : a.Passes)
    (h : Verdict count (a.textAfter sql) paramCount answers result) :
    Verdict (count + 1) sql paramCount (a :: answers) result := by
  cases h with
  | passed all pass => exact .passed (congrArg (· + 1) all) (List.forall_mem_cons.2 ⟨ha, pass⟩)
  | refused earlier fewer pass =>
    exact .refused (a :: earlier) (Nat.succ_lt_succ fewer) (List.forall_mem_cons.2 ⟨ha, pass⟩)

/-- What hooks of a monitor around an executor of a level add to a run when they are asked. -/
structure Consultation (level paramCount place : Nat) (hooks : List (Hook ρ)) (past : List (Moment ρ)) (sql : String)
    (answers : List HookAction) (ms : List (Moment ρ)) : Prop where
  questions : ms.filter (Moment.isFacing level) = questions (level + 1) paramCount place sql answers
  ofHooks : ∀ x ∈ ms, x.OfHooks (level + 1)
  faithful : Faithful (level + 1) hooks past ms

/-- What one hook adds when it is asked. -/
theorem Consultation.single (level : Nat) {paramCount place : Nat} {hooks : List (Hook ρ)} {past : List (Moment ρ)}
    {sql : String} {hook : Hook ρ} {action : HookAction} {notices : List Notice} (hhook : hooks[place]? = some hook)
    (hbefore : hook.before past (.ofSql sql paramCount) = (action, notices)) :
    Consultation level paramCount place hooks past sql [action]
      (.asked (level + 1) place (.ofSql sql paramCount) action :: Moment.noted notices) where
  questions := by
    rw [List.filter_cons_of_pos (Moment.isFacing_asked level place _ action), Moment.filter_isFacing_noted]
    rfl
  ofHooks := List.forall_mem_cons.2 ⟨rfl, fun _ hx => Moment.ofHooks_of_mem_noted hx⟩
  faithful := ⟨fun _ => ⟨hook, notices, hhook, hbefore, List.prefix_rfl⟩, faithful_noted _ notices⟩

/-- One hook, and those behind it. -/
theorem Consultation.cons {level paramCount place : Nat} {hooks : List (Hook ρ)} {past ms ms' : List (Moment ρ)}
    {sql : String} {action : HookAction} {answers : List HookAction}
    (h : Consultation level paramCount place hooks past sql [action] ms)
    (h' : Consultation level paramCount (place + 1) hooks (past ++ ms) (action.textAfter sql) answers ms') :
    Consultation level paramCount place hooks past sql (action :: answers) (ms ++ ms') where
  questions := by
    rw [List.filter_append, h.questions, h'.questions]
    rfl
  ofHooks := List.forall_mem_append.2 ⟨h.ofHooks, h'.ofHooks⟩
  faithful := h.faithful.append h'.faithful

/-- The first of the hooks from a place on stands at this place. -/
theorem first_of_drop {hooks rest : List (Hook ρ)} {hook : Hook ρ} {place : Nat}
    (h : hooks.drop place = hook :: rest) : hooks[place]? = some hook ∧ hooks.drop (place + 1) = rest := by
  constructor
  · rw [← List.head?_drop, h, List.head?_cons]
  · rw [← List.tail_drop, h, List.tail_cons]

namespace Monitor

/-- Asking hooks of which the first gives a known answer. -/
theorem consult_cons (level place : Nat) {hook : Hook ρ} (rest : List (Hook ρ)) {ctx : QueryContext} {w : World ρ}
    {action : HookAction} {notices : List Notice} (hbefore : hook.before w.history ctx = (action, notices))
    {ms : List (Moment ρ)} {result : Except SqlError QueryContext}
    (hrest : Run.Adds
      (match action with
        | .proceed => consult level (place + 1) rest ctx
        | .rewrite sql => consult level (place + 1) rest (ctx.rewrite sql)
        | .abort reason => pure (.error (.execution s!"query aborted by hook: {reason}")))
      (w.after (.asked level place ctx action :: Moment.noted notices)) ms result) :
    (consult level place (hook :: rest) ctx).Adds w (.asked level place ctx action :: Moment.noted notices ++ ms)
      result := by
  rw [consult]
  refine .history_bind ?_
  rw [hbefore]
  exact .record_notify hrest

/-- Asking hooks of which the first lets the query pass. -/
theorem consult_pass (level place paramCount : Nat) {hook : Hook ρ} (rest : List (Hook ρ)) {sql : String} {w : World ρ}
    {action : HookAction} {notices : List Notice}
    (hbefore : hook.before w.history (.ofSql sql paramCount) = (action, notices)) (hpass : action.Passes)
    {ms : List (Moment ρ)} {result : Except SqlError QueryContext}
    (hrest : (consult level (place + 1) rest (.ofSql (action.textAfter sql) paramCount)).Adds
      (w.after (.asked level place (.ofSql sql paramCount) action :: Moment.noted notices)) ms result) :
    (consult level place (hook :: rest) (.ofSql sql paramCount)).Adds w
      (.asked level place (.ofSql sql paramCount) action :: Moment.noted notices ++ ms) result := by
  refine consult_cons level place rest hbefore ?_
  cases action with
  | proceed => exact hrest
  | rewrite text => exact hrest
  | abort reason => exact hpass.elim

/-- Asking hooks of which the first refuses the query. -/
theorem consult_abort (level place : Nat) {hook : Hook ρ} (rest : List (Hook ρ)) {ctx : QueryContext} {w : World ρ}
    {reason : String} {notices : List Notice} (hbefore : hook.before w.history ctx = (.abort reason, notices)) :
    (consult level place (hook :: rest) ctx).Adds w
      (.asked level place ctx (.abort reason) :: Moment.noted notices)
      (.error (.execution s!"query aborted by hook: {reason}")) := by
  have hadds := consult_cons level place rest hbefore (Run.adds_pure _ _)
  rwa [List.append_nil] at hadds

/-- Asking the hooks from a place on. The induction is on these hooks; the place says where they stand in the whole
list, so that each answer can be traced to its hook. -/
theorem consult_adds {hooks : List (Hook ρ)} (level paramCount : Nat) (rest : List (Hook ρ)) (place : Nat)
    (hrest : hooks.drop place = rest) (sql : String) (w : World ρ) :
    ∃ ms answers result, (consult (level + 1) place rest (.ofSql sql paramCount)).Adds w ms result ∧
      Consultation level paramCount place hooks w.history sql answers ms ∧
      Verdict rest.length sql paramCount answers result := by
  induction rest generalizing place sql w with
  | nil => exact ⟨[], [], _, Run.adds_pure _ w, ⟨rfl, by simp, trivial⟩, .passed rfl (by simp)⟩
  | cons hook rest ih =>
    obtain ⟨hhook, hnext⟩ := first_of_drop hrest
    obtain ⟨action, notices, hbefore⟩ : ∃ action notices,
        hook.before w.history (.ofSql sql paramCount) = (action, notices) := ⟨_, _, rfl⟩
    have hfirst := Consultation.single level hhook hbefore
    obtain hpass | ⟨reason, rfl⟩ := action.passes_or_aborts
    · obtain ⟨ms, answers, result, hadds, hms, hresult⟩ := ih (place + 1) hnext (action.textAfter sql) _
      exact ⟨_, _, result, consult_pass _ _ _ _ hbefore hpass hadds, hfirst.cons hms, hresult.cons hpass⟩
    · exact ⟨_, _, _, consult_abort _ _ _ hbefore, hfirst, .refused [] (Nat.succ_pos _) (by simp)⟩

end Monitor

/-! ## Telling hooks -/

/-- What hooks of a monitor around an executor of a level add to a run when they are told how a query ended. -/
structure Telling (level place count : Nat) (hooks : List (Hook ρ)) (past : List (Moment ρ)) (ctx : QueryContext)
    (outcome : QueryOutcome) (ms : List (Moment ρ)) : Prop where
  reports : ms.filter (Moment.isFacing level) = reports (level + 1) place count ctx outcome
  ofHooks : ∀ x ∈ ms, x.OfHooks (level + 1)
  faithful : Faithful (level + 1) hooks past ms

namespace Monitor

/-- Telling the hooks from a place on. -/
theorem tell_adds {hooks : List (Hook ρ)} (level : Nat) (ctx : QueryContext) (outcome : QueryOutcome)
    (rest : List (Hook ρ)) (place : Nat) (hrest : hooks.drop place = rest) (w : World ρ) :
    ∃ ms, (tell (level + 1) ctx outcome place rest).Adds w ms () ∧
      Telling level place rest.length hooks w.history ctx outcome ms := by
  induction rest generalizing place w with
  | nil => exact ⟨[], Run.adds_pure _ w, rfl, by simp, trivial⟩
  | cons hook rest ih =>
    obtain ⟨hhook, hnext⟩ := first_of_drop hrest
    let notices := hook.after w.history ctx outcome
    let first : List (Moment ρ) := .told (level + 1) place ctx outcome :: Moment.noted notices
    obtain ⟨ms, hadds, hms⟩ := ih (place + 1) hnext (w.after first)
    refine ⟨first ++ ms, ?_, ?_, ?_, ?_⟩
    · rw [tell]
      exact .history_bind (.record_notify hadds)
    · rw [List.filter_append, List.filter_cons_of_pos (Moment.isFacing_told level place ctx outcome),
        Moment.filter_isFacing_noted, hms.reports]
      rfl
    · refine List.forall_mem_append.2 ⟨List.forall_mem_cons.2 ⟨rfl, ?_⟩, hms.ofHooks⟩
      exact fun _ hx => Moment.ofHooks_of_mem_noted hx
    · have hfirst : Faithful (level + 1) hooks w.history first :=
        ⟨fun _ => ⟨hook, hhook, List.prefix_rfl⟩, faithful_noted _ notices⟩
      exact hfirst.append hms.faithful

/-- Telling all hooks, and reporting a slow query. -/
theorem report_adds (m : Monitor ρ) (level : Nat) (ctx : QueryContext) (outcome : QueryOutcome) (w : World ρ) :
    ∃ ms, (m.report (level + 1) ctx outcome).Adds w ms () ∧
      Telling level 0 m.hooks.length m.hooks w.history ctx outcome ms := by
  obtain ⟨ms, hadds, hms⟩ := tell_adds level ctx outcome m.hooks 0 rfl w
  obtain ⟨ns, hns⟩ : ∃ ns : List Notice, Run.Adds (do
      if m.reportsSlow && m.isSlow (← Run.history) ctx then Run.notify [.message (.slow ctx)]) (w.after ms)
      (Moment.noted ns) () := by
    cases hslow : m.reportsSlow && m.isSlow (w.after ms).history ctx with
    | true =>
      refine ⟨[.message (.slow ctx)], .history_bind ?_⟩
      rw [if_pos hslow]
      exact Run.adds_notify _ _
    | false =>
      refine ⟨[], .history_bind ?_⟩
      rw [if_neg (ne_true_of_eq_false hslow)]
      exact Run.adds_pure _ _
  refine ⟨ms ++ Moment.noted ns, hadds.bind hns, ?_, ?_, hms.faithful.append (faithful_noted _ ns)⟩
  · rw [List.filter_append, Moment.filter_isFacing_noted, List.append_nil, hms.reports]
  · exact List.forall_mem_append.2 ⟨hms.ofHooks, fun _ hx => Moment.ofHooks_of_mem_noted hx⟩

end Monitor

/-! ## Calls -/

/-- What a call of an executor of a level adds after its start, and how it ends. -/
structure Executor.InCall (level : Nat) (deadline : Option Nat) (ms : List (Moment ρ)) (c : Completion β) : Prop where
  within : ∀ x ∈ ms, x.Within level
  sentOnce : (sentCommands ms).length ≤ 1
  limited : c = .cut → deadline ≠ none

/-- How a monitor ends the call inside it: with its answer, or at the monitor's own limit. -/
inductive Monitor.Settles (m : Monitor ρ) : Completion β → Except SqlError β → Prop
  | answered (r : Except SqlError β) : Settles m (.finished r) r
  | overdue {limit : Nat} (h : m.timeout = some limit) : Settles m .cut (.error (.timeout limit))

/-- What a call of a monitor around an executor adds after its start, and how it ends; what is counted of an answer is
given. -/
inductive MonitoredCall (ask : Ask ρ β) (counted : β → QueryOutcome) (params : List Value) (m : Monitor ρ)
    (inner : Executor ρ) (deadline : Option Nat) (sql : String) (w : World ρ) :
    List (Moment ρ) → Completion β → Prop
  /-- A hook refuses the query. It is the last that is asked, and nothing else is called. -/
  | refused {asking : List (Moment ρ)} {answers : List HookAction} {reason : String}
      (fewer : answers.length < m.hooks.length) (pass : ∀ a ∈ answers, a.Passes)
      (before : Questions (inner.level + 1) params.length 0 sql (answers ++ [.abort reason])
        (asking.filter (Moment.isFacing inner.level))) :
      MonitoredCall ask counted params m inner deadline sql w asking
        (.finished (.error (.execution s!"query aborted by hook: {reason}")))
  /-- All hooks let the query pass. The executor is called once, and all hooks are told what is returned. -/
  | ended {asking during reporting : List (Moment ρ)} {answers : List HookAction} {c : Completion β}
      {r : Except SqlError β} {ctx : QueryContext} {outcome : QueryOutcome} (all : answers.length = m.hooks.length)
      (pass : ∀ a ∈ answers, a.Passes)
      (before : Questions (inner.level + 1) params.length 0 sql answers
        (asking.filter (Moment.isFacing inner.level)))
      (call : (inner.call ask params (m.deadline deadline) (textAfterAll sql answers)).Adds (w.after asking) during c)
      (once : during.filter (Moment.isFacing inner.level) =
        [.called inner.level { sql := textAfterAll sql answers, params, mode := ask.mode }])
      (settled : m.Settles c r) (shown : ctx.Shows (textAfterAll sql answers) params.length)
      (told : outcome.Tells counted r)
      (after : reporting.filter (Moment.isFacing inner.level) =
        reports (inner.level + 1) 0 m.hooks.length ctx outcome) :
      MonitoredCall ask counted params m inner deadline sql w (asking ++ (during ++ reporting)) (.finished r)
  /-- The query is given up from outside while the executor is at work. -/
  | cut {asking during : List (Moment ρ)} {answers : List HookAction} (all : answers.length = m.hooks.length)
      (pass : ∀ a ∈ answers, a.Passes)
      (before : Questions (inner.level + 1) params.length 0 sql answers
        (asking.filter (Moment.isFacing inner.level)))
      (call : (inner.call ask params (m.deadline deadline) (textAfterAll sql answers)).Adds (w.after asking) during
        .cut)
      (once : during.filter (Moment.isFacing inner.level) =
        [.called inner.level { sql := textAfterAll sql answers, params, mode := ask.mode }])
      (limited : deadline ≠ none) :
      MonitoredCall ask counted params m inner deadline sql w (asking ++ during) .cut

theorem Monitor.exists_timeout_of_endsFirst {m : Monitor ρ} {deadline : Option Nat}
    (h : m.endsFirst deadline = true) : ∃ limit, m.timeout = some limit := by
  cases htimeout : m.timeout with
  | none => simp [endsFirst, htimeout] at h
  | some limit => exact ⟨limit, rfl⟩

namespace Executor

namespace InCall

variable {level : Nat} {deadline : Option Nat} {ms hooked : List (Moment ρ)} {c : Completion β}

theorem of_ofHooks (h : ∀ x ∈ hooked, x.OfHooks level) (hlimited : c = .cut → deadline ≠ none) :
    InCall level deadline hooked c where
  within x hx := (h x hx).within
  sentOnce := by
    rw [sentCommands_of_ofHooks h]
    exact Nat.zero_le 1
  limited := hlimited

theorem hooks_append (h : InCall level deadline ms c) (hhooked : ∀ x ∈ hooked, x.OfHooks level) :
    InCall level deadline (hooked ++ ms) c where
  within := List.forall_mem_append.2 ⟨fun x hx => (hhooked x hx).within, h.within⟩
  sentOnce := by
    rw [sentCommands_append, sentCommands_of_ofHooks hhooked]
    exact h.sentOnce
  limited := h.limited

theorem append_hooks (h : InCall level deadline ms c) (hhooked : ∀ x ∈ hooked, x.OfHooks level) :
    InCall level deadline (ms ++ hooked) c where
  within := List.forall_mem_append.2 ⟨h.within, fun x hx => (hhooked x hx).within⟩
  sentOnce := by
    rw [sentCommands_append, sentCommands_of_ofHooks hhooked, List.append_nil]
    exact h.sentOnce
  limited := h.limited

/-- A call inside a call one level up, which may end in another way. -/
theorem called (h : InCall level deadline ms c) (command : Command) {outer : Option Nat} {c' : Completion β}
    (hlimited : c' = .cut → outer ≠ none) : InCall (level + 1) outer (.called level command :: ms) c' where
  within := List.forall_mem_cons.2 ⟨Nat.lt_succ_self level, fun x hx => (h.within x hx).succ⟩
  sentOnce := h.sentOnce
  limited := hlimited

end InCall

/-- Sending a command adds this to a run, and the answer depends on the commands before it. -/
theorem send_adds (ask : Ask ρ β) (conn : Connection ρ) (c : Command) (w : World ρ) :
    (conn.send ask c).Adds w [.logged (.sent c)] (ask.answer conn (sentCommands w.history) c) :=
  .history_bind <| .record_bind <| Run.adds_pure _ _

/-- A call of a connection. -/
theorem direct_call (ask : Ask ρ β) (params : List Value) (conn : Connection ρ) (deadline : Option Nat) (sql : String)
    (w : World ρ) : ∃ ms c,
      (call ask params (.direct conn) deadline sql).Adds w (.called 0 { sql, params, mode := ask.mode } :: ms) c ∧
        InCall 0 deadline ms c := by
  let command : Command := { sql, params, mode := ask.mode }
  have hlimited (time : Nat) (h : deadline.any (· < time) = true) : deadline ≠ none := by
    rintro rfl
    cases h
  -- before the command is sent, or after
  cases hearly : deadline.any (· < conn.delay command) with
  | true =>
    refine ⟨[], .cut, ?_, by simp, by simp [sentCommands], fun _ => hlimited _ hearly⟩
    rw [call]
    refine .record_bind ?_
    rw [if_pos hearly]
    exact Run.adds_pure _ _
  | false =>
    let past := (w.after [.called 0 command]).history
    let answer := ask.answer conn (sentCommands past) command
    let isLate := deadline.any (· < conn.delay command + conn.answerDelay (sentCommands past) command)
    have hend (w' : World ρ) : ∃ c : Completion β,
        Run.Adds (if isLate then pure .cut else pure (.finished answer)) w' [] c ∧ (c = .cut → deadline ≠ none) := by
      cases hlate : isLate with
      | true => exact ⟨.cut, Run.adds_pure _ _, fun _ => hlimited _ hlate⟩
      | false => exact ⟨.finished answer, Run.adds_pure _ _, fun h => by cases h⟩
    obtain ⟨c, hc, hlimit⟩ := hend ((w.after [.called 0 command]).after [.logged (.sent command)])
    refine ⟨[.logged (.sent command)], c, ?_, by simp [Moment.Within], by simp [sentCommands, Moment.command?], hlimit⟩
    rw [call]
    refine .record_bind ?_
    rw [if_neg (ne_true_of_eq_false hearly)]
    exact .history_bind (.bind (send_adds ask conn command _) hc)

/-- A call that a hook refuses. -/
theorem call_of_refused (ask : Ask ρ β) (params : List Value) (m : Monitor ρ) (inner : Executor ρ)
    (deadline : Option Nat) (sql : String) {w : World ρ} {asking : List (Moment ρ)} {e : SqlError} :
    let start : Moment ρ := .called (inner.level + 1) { sql, params, mode := ask.mode }
    (Monitor.consult (inner.level + 1) 0 m.hooks (.ofSql sql params.length)).Adds (w.after [start]) asking (.error e) →
    (call ask params (.monitored m inner) deadline sql).Adds w (start :: asking) (.finished (.error e)) := by
  intro start hconsult
  rw [call]
  exact .record_bind (.bind_nil hconsult (Run.adds_pure _ _))

/-- A call that all hooks let pass: what is returned is reported to them, be it the answer or the monitor's own limit,
unless the deadline from outside is over first. -/
theorem call_of_passed (ask : Ask ρ β) (params : List Value) (m : Monitor ρ) (inner : Executor ρ)
    (deadline : Option Nat) (sql : String) {w : World ρ} {asking during : List (Moment ρ)} {ctx : QueryContext}
    {c : Completion β} :
    let start : Moment ρ := .called (inner.level + 1) { sql, params, mode := ask.mode }
    (Monitor.consult (inner.level + 1) 0 m.hooks (.ofSql sql params.length)).Adds (w.after [start]) asking (.ok ctx) →
    (call ask params inner (m.deadline deadline) ctx.sql).Adds ((w.after [start]).after asking) during c →
    (c = .cut → m.deadline deadline ≠ none) →
    (∃ reporting r, m.Settles c r ∧
      Telling inner.level 0 m.hooks.length m.hooks (((w.after [start]).after asking).after during).history ctx
        (outcomeOf ask r) reporting ∧
      (call ask params (.monitored m inner) deadline sql).Adds w (start :: (asking ++ (during ++ reporting)))
        (.finished r)) ∨
    (c = .cut ∧ deadline ≠ none ∧
      (call ask params (.monitored m inner) deadline sql).Adds w (start :: (asking ++ during)) .cut) := by
  intro start hconsult hcall hlimited
  have hreport (r : Except SqlError β) :=
    m.report_adds inner.level ctx (outcomeOf ask r) (((w.after [start]).after asking).after during)
  -- a call that is cut off ends here only if this deadline is the first to end
  cases c with
  | finished r =>
    obtain ⟨reporting, hreporting, htelling⟩ := hreport r
    refine .inl ⟨reporting, r, .answered r, htelling, ?_⟩
    rw [call]
    exact .record_bind (.bind hconsult (.bind hcall (.bind_nil hreporting (Run.adds_pure _ _))))
  | cut =>
    cases hends : m.endsFirst deadline with
    | true =>
      obtain ⟨limit, hlimit⟩ := Monitor.exists_timeout_of_endsFirst hends
      obtain ⟨reporting, hreporting, htelling⟩ := hreport (.error (.timeout limit))
      refine .inl ⟨reporting, _, .overdue hlimit, htelling, ?_⟩
      rw [call]
      refine .record_bind (.bind hconsult (.bind hcall ?_))
      rw [hends, hlimit]
      exact .bind_nil hreporting (Run.adds_pure _ _)
    | false =>
      have houter : deadline ≠ none := by
        have h := hlimited rfl
        rwa [Monitor.deadline, if_neg (ne_true_of_eq_false hends)] at h
      refine .inr ⟨rfl, houter, ?_⟩
      rw [call]
      refine .record_bind (.bind hconsult (.bind_nil hcall ?_))
      rw [hends]
      exact Run.adds_pure _ _

/-- A call of a monitor around an executor whose own calls are known. -/
theorem monitored_call (ask : Ask ρ β) (params : List Value) {inner : Executor ρ}
    (hinner : ∀ deadline sql w, ∃ ms c,
      (call ask params inner deadline sql).Adds w (.called inner.level { sql, params, mode := ask.mode } :: ms) c ∧
        InCall inner.level deadline ms c)
    (m : Monitor ρ) (deadline : Option Nat) (sql : String) (w : World ρ) :
    let start : Moment ρ := .called (inner.level + 1) { sql, params, mode := ask.mode }
    ∃ ms c, (call ask params (.monitored m inner) deadline sql).Adds w (start :: ms) c ∧
      MonitoredCall ask ask.outcome params m inner deadline sql (w.after [start]) ms c ∧
      Faithful (inner.level + 1) m.hooks (w.history ++ [start]) ms ∧ InCall (inner.level + 1) deadline ms c := by
  intro start
  obtain ⟨asking, answers, result, hconsult, hasking, hverdict⟩ :=
    Monitor.consult_adds inner.level params.length m.hooks 0 rfl sql (w.after [start])
  have hbefore : Questions (inner.level + 1) params.length 0 sql answers
      (asking.filter (Moment.isFacing inner.level)) := by
    rw [hasking.questions]
    exact questions_shown (inner.level + 1) params.length 0 sql answers
  -- either a hook aborts, and nothing is sent, or the executor below is called once
  cases hverdict with
  | refused answers fewer pass =>
    exact ⟨asking, _, call_of_refused ask params m inner deadline sql hconsult, .refused fewer pass hbefore,
      hasking.faithful, .of_ofHooks hasking.ofHooks (fun h => by cases h)⟩
  | passed all pass =>
    let sql' := textAfterAll sql answers
    obtain ⟨during, c, hcall, hduring⟩ := hinner (m.deadline deadline) sql' ((w.after [start]).after asking)
    let whole : List (Moment ρ) := .called inner.level { sql := sql', params, mode := ask.mode } :: during
    have honce : whole.filter (Moment.isFacing inner.level) =
        [.called inner.level { sql := sql', params, mode := ask.mode }] := by
      rw [List.filter_cons_of_pos (Moment.isFacing_called inner.level _), filter_isFacing_of_within hduring.within]
    have hwhole : Faithful (inner.level + 1) m.hooks (w.history ++ [start] ++ asking) whole :=
      ⟨trivial, faithful_of_within (Nat.lt_succ_self inner.level) hduring.within _⟩
    obtain ⟨reporting, r, hsettled, hreporting, hrun⟩ | ⟨rfl, hlimited, hrun⟩ :=
      call_of_passed ask params m inner deadline sql hconsult hcall hduring.limited
    · have hin : InCall (inner.level + 1) deadline whole (.finished r) := hduring.called _ (fun h => by cases h)
      exact ⟨_, _, hrun, .ended all pass hbefore hcall honce hsettled (QueryContext.shows_ofSql sql' params.length)
          (outcomeOf_tells ask r) hreporting.reports,
        hasking.faithful.append (hwhole.append hreporting.faithful),
        (hin.append_hooks hreporting.ofHooks).hooks_append hasking.ofHooks⟩
    · have hin : InCall (inner.level + 1) deadline whole (.cut : Completion β) := hduring.called _ fun _ => hlimited
      exact ⟨asking ++ whole, .cut, hrun, .cut all pass hbefore hcall honce hlimited,
        hasking.faithful.append hwhole, hin.hooks_append hasking.ofHooks⟩

/-- A call of any executor. -/
theorem call_adds (ask : Ask ρ β) (params : List Value) (e : Executor ρ) (deadline : Option Nat) (sql : String)
    (w : World ρ) : ∃ ms c,
      (call ask params e deadline sql).Adds w (.called e.level { sql, params, mode := ask.mode } :: ms) c ∧
        InCall e.level deadline ms c := by
  induction e generalizing deadline sql w with
  | direct conn => exact direct_call ask params conn deadline sql w
  | monitored m inner ih =>
    obtain ⟨ms, c, hcall, -, -, hin⟩ := monitored_call ask params ih m deadline sql w
    exact ⟨ms, c, hcall, hin⟩

/-- A call that no deadline limits is answered. -/
theorem perform_adds {ask : Ask ρ β} {params : List Value} {e : Executor ρ} {sql : String} {w : World ρ}
    {ms : List (Moment ρ)} {r : Except SqlError β} (h : (call ask params e none sql).Adds w ms (.finished r)) :
    (e.perform ask sql params).Adds w ms r :=
  .bind_nil h (Run.adds_pure _ _)

/-- Performing a query calls the executor once and gives its answer. -/
theorem perform_once (ask : Ask ρ β) (params : List Value) (e : Executor ρ) (sql : String) (w : World ρ) : ∃ ms r,
    (e.perform ask sql params).Adds w ms r ∧ (sentCommands ms).length ≤ 1 ∧
      ms.filter (Moment.isFacing e.level) = [.called e.level { sql, params, mode := ask.mode }] := by
  obtain ⟨ms, c, hcall, hin⟩ := call_adds ask params e none sql w
  cases c with
  | cut => exact absurd rfl (hin.limited rfl)
  | finished r =>
    refine ⟨_, r, perform_adds hcall, hin.sentOnce, ?_⟩
    rw [List.filter_cons_of_pos (Moment.isFacing_called e.level _), filter_isFacing_of_within hin.within]

end Executor

/-! ## Statements -/

/-- The first of the rows that a query gave. -/
def firstRow (sql : String) : Except SqlError (List ρ) → Except SqlError ρ
  | .ok (r :: _) => .ok r
  | .ok [] => .error (.notFound s!"no row returned by `{sql}`")
  | .error e => .error e

/-- What is logged when a statement is compiled. -/
def buildNote (s : Statement) : Moment ρ :=
  .logged (.notice (.message (.ofBuild s.kind s.build)))

theorem Executor.queryOptional_adds {e : Executor ρ} {sql : String} {params : List Value} {w : World ρ}
    {ms : List (Moment ρ)} {r : Except SqlError (List ρ)} (h : (e.query sql params).Adds w ms r) :
    (e.queryOptional sql params).Adds w ms (r.map (·.head?)) :=
  .bind_nil h (Run.adds_pure _ _)

theorem Executor.queryOne_adds {e : Executor ρ} {sql : String} {params : List Value} {w : World ρ}
    {ms : List (Moment ρ)} {r : Except SqlError (List ρ)} (h : (e.query sql params).Adds w ms r) :
    (e.queryOne sql params).Adds w ms (firstRow sql r) := by
  refine .bind_nil (queryOptional_adds h) ?_
  cases r with
  | error err => exact Run.adds_pure _ _
  | ok rows =>
    cases rows with
    | nil => exact Run.adds_pure _ _
    | cons row rows => exact Run.adds_pure _ _

section Built

variable {s : Statement} {next : String → List Value → Run ρ (Except SqlError (Reply ρ))}

/-- Compiling a statement leaves a note, and the run goes on with the text and the values. -/
theorem built_adds {q : BuiltQuery} (hbuild : s.build = .ok q) {w : World ρ} {ms : List (Moment ρ)}
    {r : Except SqlError (Reply ρ)} (h : (next q.sql q.params).Adds (w.after [buildNote s]) ms r) :
    (built s next).Adds w (buildNote s :: ms) r := by
  rw [buildNote, hbuild] at h ⊢
  rw [built, hbuild]
  exact .record_bind h

/-- A statement that does not compile leaves a note only. -/
theorem built_refused {err : SqlError} (hbuild : s.build = .error err) (w : World ρ) :
    (built s next).Adds w [buildNote s] (.error err) := by
  rw [buildNote, built, hbuild]
  exact .record_bind (Run.adds_pure _ _)

end Built

/-- What a statement does in a run. If it does not compile, nothing is called, and the error of compiling it is
returned. If it compiles, the executor is called once with the compiled text and values, and what is returned follows
from its answer. -/
def SingleCall (e : Executor ρ) (s : Statement) (w : World ρ) : Prop :=
  match s.build with
  | .error err =>
    ((Action.fetch s).run e).Adds w [buildNote s] (.error err) ∧
    ((Action.fetchOne s).run e).Adds w [buildNote s] (.error err) ∧
    ((Action.fetchOptional s).run e).Adds w [buildNote s] (.error err) ∧
    ((Action.executeStatement s).run e).Adds w [buildNote s] (.error err)
  | .ok q =>
    (∃ ms r, (e.query q.sql q.params).Adds (w.after [buildNote s]) ms r ∧
      ms.filter (Moment.isFacing e.level) = [.called e.level { sql := q.sql, params := q.params, mode := .query }] ∧
      ((Action.fetch s).run e).Adds w (buildNote s :: ms) (r.map .rows) ∧
      ((Action.fetchOne s).run e).Adds w (buildNote s :: ms) ((firstRow q.sql r).map .row) ∧
      ((Action.fetchOptional s).run e).Adds w (buildNote s :: ms) ((r.map (·.head?)).map .optionalRow)) ∧
    ∃ ms r, (e.execute q.sql q.params).Adds (w.after [buildNote s]) ms r ∧
      ms.filter (Moment.isFacing e.level) = [.called e.level { sql := q.sql, params := q.params, mode := .execute }] ∧
      ((Action.executeStatement s).run e).Adds w (buildNote s :: ms) (r.map .affected)

theorem singleCall (e : Executor ρ) (s : Statement) (w : World ρ) : SingleCall e s w := by
  unfold SingleCall
  cases hbuild : s.build with
  | error err =>
    refine ⟨?_, ?_, ?_, ?_⟩
    all_goals
      rw [Action.run]
      exact built_refused hbuild w
  | ok q =>
    have hbuilt {β : Type} (run : String → List Value → Run ρ (Except SqlError β)) (reply : β → Reply ρ)
        {ms : List (Moment ρ)} {r : Except SqlError β} (h : (run q.sql q.params).Adds (w.after [buildNote s]) ms r) :
        (built s fun sql params => do return (← run sql params).map reply).Adds w (buildNote s :: ms)
          (r.map reply) :=
      built_adds hbuild (.bind_nil h (Run.adds_pure _ _))
    obtain ⟨ms, r, hquery, -, honce⟩ := e.perform_once Ask.rows q.params q.sql (w.after [buildNote s])
    obtain ⟨ms', r', hexecute, -, honce'⟩ := e.perform_once Ask.affected q.params q.sql (w.after [buildNote s])
    exact ⟨⟨ms, r, hquery, honce, hbuilt e.query .rows hquery,
      hbuilt e.queryOne .row (Executor.queryOne_adds hquery),
      hbuilt e.queryOptional .optionalRow (Executor.queryOptional_adds hquery)⟩,
      ms', r', hexecute, honce', hbuilt e.execute .affected hexecute⟩

/-! ## The protocol -/

/-- These moments are a call of a monitor around an executor that keeps to the protocol, from a world on. -/
def HookProtocol (ask : Ask ρ β) (counted : β → QueryOutcome) (params : List Value) (m : Monitor ρ)
    (inner : Executor ρ) (deadline : Option Nat) (sql : String) (w : World ρ) (ms : List (Moment ρ))
    (c : Completion β) : Prop :=
  let start : Moment ρ := .called (inner.level + 1) { sql, params, mode := ask.mode }
  ∃ rest, ms = start :: rest ∧ MonitoredCall ask counted params m inner deadline sql (w.after [start]) rest c ∧
    Faithful (inner.level + 1) m.hooks (w.history ++ [start]) rest

theorem Executor.call_protocol (ask : Ask ρ β) (params : List Value) (m : Monitor ρ) (inner : Executor ρ)
    (deadline : Option Nat) (sql : String) (w : World ρ) : ∃ ms c,
      (call ask params (.monitored m inner) deadline sql).Adds w ms c ∧
        HookProtocol ask ask.outcome params m inner deadline sql w ms c := by
  obtain ⟨ms, c, hcall, hprotocol, hfaithful, -⟩ :=
    monitored_call ask params (call_adds ask params inner) m deadline sql w
  exact ⟨_, c, hcall, ms, rfl, hprotocol, hfaithful⟩

theorem Executor.perform_protocol (ask : Ask ρ β) (params : List Value) (m : Monitor ρ) (inner : Executor ρ)
    (sql : String) (w : World ρ) : ∃ ms r, (perform (.monitored m inner) ask sql params).Adds w ms r ∧
      HookProtocol ask ask.outcome params m inner none sql w ms (.finished r) := by
  obtain ⟨ms, c, hcall, hprotocol⟩ := call_protocol ask params m inner none sql w
  cases c with
  | finished r => exact ⟨ms, r, perform_adds hcall, hprotocol⟩
  | cut =>
    obtain ⟨rest, -, hrest, -⟩ := hprotocol
    cases hrest with
    | cut _ _ _ _ _ limited => exact absurd rfl limited

/-- **Hook protocol.** Take any monitor around any executor, whatever its hooks do. Each call, be it from another
monitor with a deadline or a query of its own, asks the hooks in order up to the first that refuses, each about the text
left by those before it, with its type and the number of values. If one refuses, nothing else is called and an execution
error is returned. Otherwise the executor is called once, with the text left and the same values, and then every hook is
told in order about this text and what is returned: the number of rows, the number of affected rows, or up to 512 bytes
of the text of the error, be it the executor's or that of the time limit. Only a deadline set from outside can cut this
off. Statements make one such call with their compiled text and values, and none when they do not compile. -/
theorem hook_protocol :
    (∀ (m : Monitor ρ) (inner : Executor ρ) params deadline sql w, ∃ ms c,
      (Executor.call Ask.rows params (.monitored m inner) deadline sql).Adds w ms c ∧
        HookProtocol Ask.rows (fun rs => .rows rs.length) params m inner deadline sql w ms c) ∧
    (∀ (m : Monitor ρ) (inner : Executor ρ) params deadline sql w, ∃ ms c,
      (Executor.call Ask.affected params (.monitored m inner) deadline sql).Adds w ms c ∧
        HookProtocol Ask.affected (fun n => .affected n) params m inner deadline sql w ms c) ∧
    (∀ (m : Monitor ρ) (inner : Executor ρ) params sql w, ∃ ms r,
      (Executor.query (.monitored m inner) sql params).Adds w ms r ∧
        HookProtocol Ask.rows (fun rs => .rows rs.length) params m inner none sql w ms (.finished r)) ∧
    (∀ (m : Monitor ρ) (inner : Executor ρ) params sql w, ∃ ms r,
      (Executor.execute (.monitored m inner) sql params).Adds w ms r ∧
        HookProtocol Ask.affected (fun n => .affected n) params m inner none sql w ms (.finished r)) ∧
    ∀ (e : Executor ρ) (s : Statement) (w : World ρ), SingleCall e s w :=
  ⟨fun m inner params => Executor.call_protocol Ask.rows params m inner,
    fun m inner params => Executor.call_protocol Ask.affected params m inner,
    fun m inner params => Executor.perform_protocol Ask.rows params m inner,
    fun m inner params => Executor.perform_protocol Ask.affected params m inner, singleCall⟩

/-- A rewritten query is refused by the second hook, which sees it as a deletion; the third hook is never asked. -/
example (third : Hook ρ) (c : Connection ρ) :
    (Executor.query (.monitored { hooks := [.prepend none "DELETE ", .abort (some .delete) "no", third] } (.direct c))
        "1" []).Adds {}
      [.called 1 { sql := "1", params := [], mode := .query },
        .asked 1 0 { sql := "1", paramCount := 0, queryType := .other } (.rewrite "DELETE 1"),
        .asked 1 1 { sql := "DELETE 1", paramCount := 0, queryType := .delete } (.abort "no")]
      (.error (.execution "query aborted by hook: no")) := by
  rfl

/-- The hook of a monitor whose limit is reached first is told so. -/
example (rows : List Command → Command → Except SqlError (List ρ))
    (affected : List Command → Command → Except SqlError UInt64) :
    let ctx : QueryContext := { sql := "SELECT 1", paramCount := 0, queryType := .select }
    (Executor.query (.monitored { hooks := [{}], timeout := some 5 } (.direct { delay := fun _ => 7, rows, affected }))
        "SELECT 1" []).Adds {}
      [.called 1 { sql := "SELECT 1", params := [], mode := .query }, .asked 1 0 ctx .proceed,
        .called 0 { sql := "SELECT 1", params := [], mode := .query },
        .told 1 0 ctx (.failed "query timeout after 5ns")]
      (.error (.timeout 5)) := by
  rfl

end FluentSql

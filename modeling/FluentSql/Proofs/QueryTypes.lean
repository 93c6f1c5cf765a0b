import FluentSql.Proofs.HookProtocol

/-!
# FluentSql.Proofs.QueryTypes — queries with a tag in front

A query keeps its type behind blanks and opening parentheses, but not behind a comment. What a hook puts in front of
queries changes the types that other hooks see only as far as it changes the type of a text.

* `Preamble`: what may stand in front of the leading keyword, of which comments are not passed over.
* `QueryType.ofSql_append_iff`: which preambles keep the type of every query.
* `Hook.Respects`: a hook that makes no difference between related texts.
* `Monitor.consult_respects`, `Monitor.consult_tagged`: hooks asked about related texts; hooks asked with a tagging hook
  among them and without it.
* `TagUnseen`: a call with a tagging hook and without it, as far as types are seen.
* `types_behind_tag`: which preambles keep the types of queries, and which tagging hooks are not seen.
-/

namespace FluentSql

variable {ρ β : Type}

/-! ## In front of the leading keyword -/

/-- Blanks, opening parentheses and complete comments. -/
inductive Preamble : List Char → Prop where
  | nil : Preamble []
  | skipped {c : Char} {p : List Char} (h : QueryType.isSkipped c = true) (rest : Preamble p) : Preamble (c :: p)
  | comment {body p : List Char} (h : ¬ ['*', '/'] <:+: body) (rest : Preamble p) :
      Preamble ('/' :: '*' :: (body ++ '*' :: '/' :: p))

/-- A preamble is passed over, or up to its first comment. -/
theorem Preamble.skipped_or_comment {p : List Char} (h : Preamble p) :
    (∀ c ∈ p, QueryType.isSkipped c = true) ∨
      ∃ a rest, (∀ c ∈ a, QueryType.isSkipped c = true) ∧ p = a ++ '/' :: rest := by
  induction h with
  | nil => exact .inl (List.forall_mem_nil _)
  | skipped hc _ ih =>
    obtain hp | ⟨a, rest, ha, rfl⟩ := ih
    · exact .inl (List.forall_mem_cons.2 ⟨hc, hp⟩)
    · exact .inr ⟨_ :: a, rest, List.forall_mem_cons.2 ⟨hc, ha⟩, rfl⟩
  | comment _ _ _ => exact .inr ⟨[], _, List.forall_mem_nil _, rfl⟩

@[simp] theorem QueryContext.queryType_ofSql (sql : String) (paramCount : Nat) :
    (QueryContext.ofSql sql paramCount).queryType = QueryType.ofSql sql :=
  rfl

namespace QueryType

theorem ofSql_append_of_skipped {p : String} (h : ∀ c ∈ p.toList, isSkipped c = true) (s : String) :
    ofSql (p ++ s) = ofSql s := by
  have hrest : (p ++ s).toList.dropWhile isSkipped = s.toList.dropWhile isSkipped := by
    rw [String.toList_append, List.dropWhile_append_of_pos h]
  have hkeyword : keyword (p ++ s) = keyword s := by rw [keyword_eq, hrest, keyword_eq]
  rw [ofSql, hkeyword, ofSql]

/-- No keyword starts with a slash. -/
theorem ofSql_of_slash {p : String} {a rest : List Char} (ha : ∀ c ∈ a, isSkipped c = true)
    (hp : p.toList = a ++ '/' :: rest) (s : String) : ofSql (p ++ s) = .other := by
  have hrest : (p ++ s).toList.dropWhile isSkipped = '/' :: (rest ++ s.toList) := by
    rw [String.toList_append, hp, List.append_assoc, List.dropWhile_append_of_pos ha]
    rfl
  have hkeyword : keyword (p ++ s) = "" := by
    rw [keyword_eq, hrest]
    rfl
  rw [ofSql, hkeyword]
  rfl

/-- A query keeps its type behind a preamble without comments; behind a comment it has none of the types with a keyword
of their own. -/
theorem ofSql_append_iff {p : String} (h : Preamble p.toList) (s : String) :
    ofSql (p ++ s) = ofSql s ↔ (∀ c ∈ p.toList, isSkipped c = true) ∨ ofSql s = .other := by
  constructor
  · intro hsame
    obtain hp | ⟨a, rest, ha, hp⟩ := h.skipped_or_comment
    · exact .inl hp
    · exact .inr (hsame.symm.trans (ofSql_of_slash ha hp s))
  · rintro (hp | hother)
    · exact ofSql_append_of_skipped hp s
    · obtain hp | ⟨a, rest, ha, hp⟩ := h.skipped_or_comment
      · exact ofSql_append_of_skipped hp s
      · rw [ofSql_of_slash ha hp, hother]

end QueryType

/-! ## Hooks that see the type only -/

/-- Two answers, each to a query with its own text, come to the same: both let pass and leave related texts, or both
refuse for the same reason. -/
inductive HookAction.Alike (R : String → String → Prop) (x y : String) : HookAction → HookAction → Prop
  | passed {a b : HookAction} (ha : a.Passes) (hb : b.Passes) (h : R (a.textAfter x) (b.textAfter y)) : Alike R x y a b
  | refused (reason : String) : Alike R x y (.abort reason) (.abort reason)

/-- In a run with this past, a hook makes no difference between related texts, whatever was asked about the query
before it. -/
def Hook.Respects (hook : Hook ρ) (R : String → String → Prop) (past : List (Moment ρ)) (paramCount : Nat) : Prop :=
  ∀ (asked asked' : List (Moment ρ)) (x y : String), R x y →
    HookAction.Alike R x y (hook.before (past ++ asked) (.ofSql x paramCount)).1
      (hook.before (past ++ asked') (.ofSql y paramCount)).1

/-- A hook that only puts a text in front of queries. -/
def Hook.Tags (hook : Hook ρ) (p : String) : Prop :=
  ∀ past ctx, (hook.before past ctx).1 = .rewrite (p ++ ctx.sql)

theorem Hook.tags_prepend (p : String) : (Hook.prepend none p : Hook ρ).Tags p :=
  fun _ _ => rfl

/-- The types of the query that hooks of a level are asked about. -/
def askedTypes (level : Nat) (ms : List (Moment ρ)) : List QueryType :=
  ms.filterMap fun
    | .asked l _ ctx _ => if l = level then some ctx.queryType else none
    | _ => none

/-- The types of the query that hooks of a level are told about. -/
def toldTypes (level : Nat) (ms : List (Moment ρ)) : List QueryType :=
  ms.filterMap fun
    | .told l _ ctx _ => if l = level then some ctx.queryType else none
    | _ => none

@[simp] theorem askedTypes_append (level : Nat) (ms ms' : List (Moment ρ)) :
    askedTypes level (ms ++ ms') = askedTypes level ms ++ askedTypes level ms' :=
  List.filterMap_append

@[simp] theorem toldTypes_append (level : Nat) (ms ms' : List (Moment ρ)) :
    toldTypes level (ms ++ ms') = toldTypes level ms ++ toldTypes level ms' :=
  List.filterMap_append

theorem askedTypes_asked (level place : Nat) (ctx : QueryContext) (action : HookAction) (notices : List Notice) :
    askedTypes level (.asked level place ctx action :: Moment.noted notices : List (Moment ρ)) = [ctx.queryType] := by
  have hnoted : askedTypes level (Moment.noted notices : List (Moment ρ)) = [] := by
    refine List.filterMap_eq_nil_iff.2 fun x hx => ?_
    obtain ⟨n, -, rfl⟩ := List.mem_map.1 hx
    rfl
  rw [askedTypes] at hnoted
  rw [askedTypes, List.filterMap_cons, hnoted]
  simp

namespace Monitor

/-- What comes of asking hooks about related texts: both pass with related texts, or both are refused with the same
error. -/
inductive SameVerdict (R : String → String → Prop) (paramCount : Nat) :
    Except SqlError QueryContext → Except SqlError QueryContext → Prop
  | passed {x y : String} (h : R x y) : SameVerdict R paramCount (.ok (.ofSql x paramCount)) (.ok (.ofSql y paramCount))
  | refused (e : SqlError) : SameVerdict R paramCount (.error e) (.error e)

section Consulting

variable {R : String → String → Prop} (hR : ∀ x y, R x y → QueryType.ofSql x = QueryType.ofSql y)
  (level paramCount : Nat)

include hR

/-- Hooks that make no difference between related texts see the same types for both. -/
theorem consult_respects {past : List (Moment ρ)} (hooks : List (Hook ρ))
    (hrespect : ∀ hook ∈ hooks, hook.Respects R past paramCount) (place place' : Nat) {x y : String} (hxy : R x y)
    {w v : World ρ} (hw : past <+: w.history) (hv : past <+: v.history) : ∃ ms ms' result result',
      (consult level place hooks (.ofSql x paramCount)).Adds w ms result ∧
      (consult level place' hooks (.ofSql y paramCount)).Adds v ms' result' ∧
      askedTypes level ms' = askedTypes level ms ∧ SameVerdict R paramCount result result' := by
  -- each hook keeps the relation between the two texts, and the relation keeps the type
  induction hooks generalizing place place' x y w v with
  | nil => exact ⟨[], [], _, _, Run.adds_pure _ w, Run.adds_pure _ v, rfl, .passed hxy⟩
  | cons hook hooks ih =>
    obtain ⟨hhook, hhooks⟩ := List.forall_mem_cons.1 hrespect
    obtain ⟨asked, hasked⟩ := hw
    obtain ⟨asked', hasked'⟩ := hv
    obtain ⟨a, notices, ha⟩ : ∃ a notices, hook.before w.history (.ofSql x paramCount) = (a, notices) := ⟨_, _, rfl⟩
    obtain ⟨b, notices', hb⟩ : ∃ b notices, hook.before v.history (.ofSql y paramCount) = (b, notices) := ⟨_, _, rfl⟩
    have halike := hhook asked asked' x y hxy
    rw [hasked, hasked', ha, hb] at halike
    have htype : (QueryContext.ofSql y paramCount).queryType = (QueryContext.ofSql x paramCount).queryType := by
      rw [QueryContext.queryType_ofSql, QueryContext.queryType_ofSql, hR x y hxy]
    cases halike with
    | passed hapass hbpass hnext =>
      obtain ⟨ms, ms', result, result', hms, hms', htypes, hverdict⟩ := ih hhooks (place + 1) (place' + 1) hnext
        (w := w.after (.asked level place (.ofSql x paramCount) a :: Moment.noted notices))
        (v := v.after (.asked level place' (.ofSql y paramCount) b :: Moment.noted notices'))
        ((List.prefix_append past asked).trans (hasked ▸ List.prefix_append _ _))
        ((List.prefix_append past asked').trans (hasked' ▸ List.prefix_append _ _))
      refine ⟨_, _, result, result', consult_pass level place paramCount hooks ha hapass hms,
        consult_pass level place' paramCount hooks hb hbpass hms', ?_, hverdict⟩
      rw [askedTypes_append, askedTypes_append, askedTypes_asked, askedTypes_asked, htypes, htype]
    | refused reason =>
      refine ⟨_, _, _, _, consult_abort level place hooks ha, consult_abort level place' hooks hb, ?_, .refused _⟩
      rw [askedTypes_asked, askedTypes_asked, htype]

/-- Hooks asked with a tagging hook among them see the types that they see without it. The induction is on the hooks in
front of it, to which both runs are the same. -/
theorem consult_tagged {past : List (Moment ρ)} {tag : Hook ρ} {p : String} (htag : tag.Tags p)
    (hp : ∀ x, R x (p ++ x)) (front later : List (Hook ρ))
    (hrespect : ∀ hook ∈ later, hook.Respects R past paramCount) (place : Nat) (x : String) {w : World ρ}
    (hw : past <+: w.history) : ∃ ms ms' result result',
      (consult level place (front ++ later) (.ofSql x paramCount)).Adds w ms result ∧
      (consult level place (front ++ tag :: later) (.ofSql x paramCount)).Adds w ms' result' ∧
      (askedTypes level ms').eraseIdx front.length = askedTypes level ms ∧ SameVerdict R paramCount result result' := by
  induction front generalizing place x w with
  | nil =>
    obtain ⟨notices, hnotices⟩ : ∃ notices,
        tag.before w.history (.ofSql x paramCount) = (.rewrite (p ++ x), notices) :=
      ⟨_, Prod.ext (htag w.history (.ofSql x paramCount)) rfl⟩
    obtain ⟨ms, ms', result, result', hms, hms', htypes, hverdict⟩ :=
      consult_respects hR level paramCount later hrespect place (place + 1) (hp x) hw
        (v := w.after (.asked level place (.ofSql x paramCount) (.rewrite (p ++ x)) :: Moment.noted notices))
        (hw.trans (List.prefix_append _ _))
    refine ⟨ms, _, result, result', hms, consult_pass level place paramCount later hnotices trivial hms', ?_, hverdict⟩
    rw [askedTypes_append, askedTypes_asked]
    exact htypes
  -- hooks before the tagging one see the same text, as long as none of them aborts
  | cons hook front ih =>
    obtain ⟨a, notices, ha⟩ : ∃ a notices, hook.before w.history (.ofSql x paramCount) = (a, notices) := ⟨_, _, rfl⟩
    obtain hpass | ⟨reason, rfl⟩ := a.passes_or_aborts
    · obtain ⟨ms, ms', result, result', hms, hms', htypes, hverdict⟩ := ih (place + 1) (a.textAfter x)
        (w := w.after (.asked level place (.ofSql x paramCount) a :: Moment.noted notices))
        (hw.trans (List.prefix_append _ _))
      refine ⟨_, _, result, result', consult_pass level place paramCount _ ha hpass hms,
        consult_pass level place paramCount _ ha hpass hms', ?_, hverdict⟩
      rw [askedTypes_append, askedTypes_append, askedTypes_asked, List.singleton_append, List.singleton_append,
        List.length_cons, List.eraseIdx_cons_succ, htypes]
    · refine ⟨_, _, _, _, consult_abort level place _ ha, consult_abort level place _ ha, ?_, .refused _⟩
      rw [askedTypes_asked]
      rfl

end Consulting

end Monitor

/-! ## Calls -/

section Facing

variable (level : Nat)

/-- Hooks of a monitor are asked and told in moments that the monitor takes part in. -/
theorem askedTypes_filter (ms : List (Moment ρ)) :
    askedTypes (level + 1) (ms.filter (Moment.isFacing level)) = askedTypes (level + 1) ms := by
  rw [askedTypes, askedTypes, List.filterMap_filter]
  refine List.filterMap_congr fun x _ => ?_
  cases x <;> simp [Moment.isFacing]

theorem toldTypes_filter (ms : List (Moment ρ)) :
    toldTypes (level + 1) (ms.filter (Moment.isFacing level)) = toldTypes (level + 1) ms := by
  rw [toldTypes, toldTypes, List.filterMap_filter]
  refine List.filterMap_congr fun x _ => ?_
  cases x <;> simp [Moment.isFacing]

theorem toldTypes_questions (paramCount place : Nat) (sql : String) (answers : List HookAction) :
    toldTypes level (questions level paramCount place sql answers : List (Moment ρ)) = [] := by
  induction answers generalizing place sql with
  | nil => rfl
  | cons a answers ih => exact ih (place + 1) (a.textAfter sql)

theorem askedTypes_reports (place count : Nat) (ctx : QueryContext) (outcome : QueryOutcome) :
    askedTypes level (reports level place count ctx outcome : List (Moment ρ)) = [] := by
  refine List.filterMap_eq_nil_iff.2 fun x hx => ?_
  obtain ⟨p, -, rfl⟩ := List.mem_map.1 hx
  rfl

theorem toldTypes_reports (place count : Nat) (ctx : QueryContext) (outcome : QueryOutcome) :
    ∀ t ∈ toldTypes level (reports level place count ctx outcome : List (Moment ρ)), t = ctx.queryType := by
  intro t ht
  obtain ⟨x, hx, hxt⟩ := List.mem_filterMap.1 ht
  obtain ⟨p, -, rfl⟩ := List.mem_map.1 hx
  simpa using hxt.symm

end Facing

/-- A call of a monitor around an executor of a level is refused: the executor is not called. -/
def IsRefused (level : Nat) (e : SqlError) (ms : List (Moment ρ)) (c : Completion β) : Prop :=
  c = .finished (.error e) ∧ ∀ command, .called level command ∉ ms

/-- A call of a monitor around an executor of a level passes with a text of this type, which is the one that hooks are
told. -/
def IsSentAs (level : Nat) (t : QueryType) (ms : List (Moment ρ)) : Prop :=
  (∃ command, .called level command ∈ ms ∧ QueryType.ofSql command.sql = t) ∧ ∀ u ∈ toldTypes (level + 1) ms, u = t

/-- How a call goes on from what came of asking the hooks. -/
def EndsAs (level : Nat) (ms : List (Moment ρ)) (c : Completion β) : Except SqlError QueryContext → Prop
  | .error e => IsRefused level e ms c
  | .ok ctx => IsSentAs level ctx.queryType ms

/-- A call goes on from what came of asking the hooks, which are not asked again. -/
theorem Executor.call_ends (ask : Ask ρ β) (params : List Value) (m : Monitor ρ) (inner : Executor ρ)
    (deadline : Option Nat) (sql : String) {w : World ρ} {asking : List (Moment ρ)}
    {result : Except SqlError QueryContext}
    (hconsult : (Monitor.consult (inner.level + 1) 0 m.hooks (.ofSql sql params.length)).Adds
      (w.after [.called (inner.level + 1) { sql, params, mode := ask.mode }]) asking result) :
    ∃ ms c, (call ask params (.monitored m inner) deadline sql).Adds w ms c ∧
      askedTypes (inner.level + 1) ms = askedTypes (inner.level + 1) asking ∧ EndsAs inner.level ms c result := by
  let start : Moment ρ := .called (inner.level + 1) { sql, params, mode := ask.mode }
  obtain ⟨asking', answers, result', hconsult', hasking, hverdict⟩ :=
    Monitor.consult_adds inner.level params.length m.hooks 0 rfl sql (w.after [start])
  obtain ⟨rfl, rfl⟩ := hconsult.unique hconsult'
  cases hverdict with
  | refused answers fewer pass =>
    refine ⟨_, _, call_of_refused ask params m inner deadline sql hconsult, rfl, rfl, fun command hcommand => ?_⟩
    obtain hstart | hmem := List.mem_cons.1 hcommand
    · exact absurd (Moment.called.inj hstart).1 (Nat.ne_of_lt (Nat.lt_succ_self inner.level))
    · exact hasking.ofHooks _ hmem
  | passed all pass =>
    let sql' := textAfterAll sql answers
    let command : Command := { sql := sql', params, mode := ask.mode }
    obtain ⟨during, c, hcall, hduring⟩ :=
      call_adds ask params inner (m.deadline deadline) sql' ((w.after [start]).after asking)
    let ctx : QueryContext := .ofSql sql' params.length
    -- a call that is cut off is one in which no hook is told
    have hends (reporting : List (Moment ρ)) (count : Nat) (outcome : QueryOutcome)
        (hreporting : reporting.filter (Moment.isFacing inner.level) =
          reports (inner.level + 1) 0 count ctx outcome) (c' : Completion β) :
        let ms := start :: (asking ++ (.called inner.level command :: during ++ reporting))
        askedTypes (inner.level + 1) ms = askedTypes (inner.level + 1) asking ∧
          EndsAs inner.level ms c' (.ok ctx) := by
      intro ms
      have hfacing : ms.filter (Moment.isFacing inner.level) =
          questions (inner.level + 1) params.length 0 sql answers ++
            (.called inner.level command :: reports (inner.level + 1) 0 count ctx outcome) := by
        have hstart : ¬ start.isFacing inner.level = true := by simp [start, Moment.isFacing]
        rw [List.filter_cons_of_neg hstart, List.filter_append, hasking.questions, List.cons_append,
          List.filter_cons_of_pos (Moment.isFacing_called inner.level _), List.filter_append,
          filter_isFacing_of_within hduring.within, hreporting, List.nil_append]
      refine ⟨?_, ⟨command, by simp [ms], (QueryContext.queryType_ofSql sql' params.length).symm⟩, fun t ht => ?_⟩
      · rw [← askedTypes_filter, hfacing, askedTypes_append, ← hasking.questions, askedTypes_filter]
        show _ ++ askedTypes (inner.level + 1) (reports (inner.level + 1) 0 count ctx outcome) = _
        rw [askedTypes_reports, List.append_nil]
      · rw [← toldTypes_filter, hfacing, toldTypes_append, toldTypes_questions, List.nil_append] at ht
        exact toldTypes_reports (inner.level + 1) 0 count ctx outcome t ht
    obtain ⟨reporting, r, -, hreporting, hrun⟩ | ⟨rfl, -, hrun⟩ :=
      call_of_passed ask params m inner deadline sql hconsult hcall hduring.limited
    · exact ⟨_, _, hrun, hends reporting _ _ hreporting.reports _⟩
    · rw [← List.append_nil (Moment.called inner.level command :: during)] at hrun
      exact ⟨_, _, hrun, hends [] 0 (.rows 0) rfl _⟩

/-! ## Tags -/

/-- A hook that refuses queries of a type makes no difference between texts that are related, if these have the same
type. -/
theorem Hook.respects_abort {R : String → String → Prop} (hR : ∀ x y, R x y → QueryType.ofSql x = QueryType.ofSql y)
    (on : Option QueryType) (reason : String) (past : List (Moment ρ)) (paramCount : Nat) :
    (Hook.abort on reason).Respects R past paramCount := by
  intro asked asked' x y hxy
  have htype : (QueryContext.ofSql x paramCount).queryType = (QueryContext.ofSql y paramCount).queryType := by
    rw [QueryContext.queryType_ofSql, QueryContext.queryType_ofSql, hR x y hxy]
  show HookAction.Alike R x y
    (if on.all (· == (QueryContext.ofSql x paramCount).queryType) then .abort reason else .proceed)
    (if on.all (· == (QueryContext.ofSql y paramCount).queryType) then .abort reason else .proceed)
  rw [htype]
  split_ifs with h
  · exact .refused reason
  · exact .passed trivial trivial hxy

/-- A call of a monitor with a tagging hook among its hooks, and the same call without it: the other hooks are asked
about the same types, and both calls are refused with one error, or both pass with texts of one type, which hooks are
told. -/
def TagUnseen (front later : List (Hook ρ)) (tag : Hook ρ) (m : Monitor ρ) (inner : Executor ρ) (ask : Ask ρ β)
    (params : List Value) (deadline : Option Nat) (sql : String) (w : World ρ) : Prop :=
  ∃ ms c ms' c',
    (Executor.call ask params (.monitored { m with hooks := front ++ later } inner) deadline sql).Adds w ms c ∧
    (Executor.call ask params (.monitored { m with hooks := front ++ tag :: later } inner) deadline sql).Adds w ms' c' ∧
    (askedTypes (inner.level + 1) ms').eraseIdx front.length = askedTypes (inner.level + 1) ms ∧
    ((∃ e, IsRefused inner.level e ms c ∧ IsRefused inner.level e ms' c') ∨
      ∃ t, IsSentAs inner.level t ms ∧ IsSentAs inner.level t ms')

theorem tagUnseen_of_respects {R : String → String → Prop}
    (hR : ∀ x y, R x y → QueryType.ofSql x = QueryType.ofSql y) {tag : Hook ρ} {p : String} (htag : tag.Tags p)
    (hp : ∀ x, R x (p ++ x)) (front : List (Hook ρ)) {later : List (Hook ρ)} (m : Monitor ρ) (inner : Executor ρ)
    (ask : Ask ρ β) (params : List Value) (deadline : Option Nat) (sql : String) (w : World ρ)
    (hrespect : ∀ hook ∈ later, hook.Respects R w.history params.length) :
    TagUnseen front later tag m inner ask params deadline sql w := by
  obtain ⟨asking, asking', result, result', hconsult, hconsult', htypes, hverdict⟩ :=
    Monitor.consult_tagged hR (inner.level + 1) params.length htag hp front later hrespect 0 sql
      (w := w.after [.called (inner.level + 1) { sql, params, mode := ask.mode }]) (List.prefix_append _ _)
  obtain ⟨ms, c, hcall, hasked, hends⟩ :=
    Executor.call_ends ask params { m with hooks := front ++ later } inner deadline sql hconsult
  obtain ⟨ms', c', hcall', hasked', hends'⟩ :=
    Executor.call_ends ask params { m with hooks := front ++ tag :: later } inner deadline sql hconsult'
  refine ⟨ms, c, ms', c', hcall, hcall', by rw [hasked, hasked', htypes], ?_⟩
  cases hverdict with
  | refused e => exact .inl ⟨e, hends, hends'⟩
  | @passed x y hxy =>
    have hsame : (QueryContext.ofSql y params.length).queryType = (QueryContext.ofSql x params.length).queryType := by
      rw [QueryContext.queryType_ofSql, QueryContext.queryType_ofSql, hR x y hxy]
    rw [EndsAs, hsame] at hends'
    exact .inr ⟨_, hends, hends'⟩

/-- What a preamble does to the type of a query, and what a tagging hook does to a monitor. A preamble keeps the type of
a query exactly when it has no comment, or the query is one of those without a keyword of their own. A hook that puts a
text in front of queries, anywhere among the hooks of a monitor, stays unseen if the hooks behind it make no difference
between related texts, related texts have the same type, and each text is related to the one with the tag. If the tag
has no comment, this holds for hooks that refuse queries by their type. -/
theorem types_behind_tag :
    (∀ p s : String, Preamble p.toList →
      (QueryType.ofSql (p ++ s) = QueryType.ofSql s ↔
        (∀ c ∈ p.toList, QueryType.isSkipped c = true) ∨ QueryType.ofSql s = .other)) ∧
    ∀ (front : List (Hook ρ)) (tag : Hook ρ) (p : String) (m : Monitor ρ) (inner : Executor ρ) (ask : Ask ρ β)
      (params : List Value) (deadline : Option Nat) (sql : String) (w : World ρ), tag.Tags p →
      (∀ (R : String → String → Prop) (later : List (Hook ρ)),
        (∀ x y, R x y → QueryType.ofSql x = QueryType.ofSql y) → (∀ x, R x (p ++ x)) →
        (∀ hook ∈ later, hook.Respects R w.history params.length) →
        TagUnseen front later tag m inner ask params deadline sql w) ∧
      ∀ denied : List (Option QueryType × String), (∀ c ∈ p.toList, QueryType.isSkipped c = true) →
        TagUnseen front (denied.map fun (on, reason) => .abort on reason) tag m inner ask params deadline sql w := by
  refine ⟨fun p s h => QueryType.ofSql_append_iff h s, ?_⟩
  intro front tag p m inner ask params deadline sql w htag
  refine ⟨fun R later hR hp hrespect =>
    tagUnseen_of_respects hR htag hp front m inner ask params deadline sql w hrespect, fun denied hskipped => ?_⟩
  refine tagUnseen_of_respects (fun _ _ h => h) htag (fun x => (QueryType.ofSql_append_of_skipped hskipped x).symm)
    front m inner ask params deadline sql w ?_
  rintro hook hhook
  obtain ⟨⟨on, reason⟩, -, rfl⟩ := List.mem_map.1 hhook
  exact Hook.respects_abort (fun _ _ h => h) on reason _ _

/-- A tag without comments in front of a hook that refuses deletions. -/
theorem types_behind_tag_bracket :
    QueryType.ofSql (" (" ++ "DELETE FROM Users") = QueryType.ofSql "DELETE FROM Users" ∧
    let conn : Connection Unit := { delay := fun _ => 0, rows := fun _ _ => .ok [], affected := fun _ _ => .ok 3 }
    TagUnseen [] [.abort (some .delete) "deletes are disabled"] (.prepend none " (") {} (.direct conn) .affected [] none
      "DELETE FROM Users" {} := by
  have hskipped : ∀ c ∈ " (".toList, QueryType.isSkipped c = true :=
    List.forall_mem_cons.2 ⟨rfl, List.forall_mem_singleton.2 rfl⟩
  obtain ⟨hpreamble, htag⟩ := @types_behind_tag Unit UInt64
  exact ⟨(hpreamble " (" "DELETE FROM Users" (.skipped rfl (.skipped rfl .nil))).2 (.inl hskipped),
    (htag [] (.prepend none " (") " (" {} _ .affected [] none "DELETE FROM Users" {} (Hook.tags_prepend _)).2
      [(some .delete, "deletes are disabled")] hskipped⟩

/-- Behind a comment a deletion is no longer seen as one, and a hook that refuses deletions lets it pass. -/
theorem type_behind_comment :
    let conn : Connection Unit := { delay := fun _ => 0, rows := fun _ _ => .ok [], affected := fun _ _ => .ok 3 }
    let deny : Hook Unit := .abort (some .delete) "deletes are disabled"
    Preamble "/* app */ ".toList ∧
    QueryType.ofSql ("/* app */ " ++ "DELETE FROM Users") ≠ QueryType.ofSql "DELETE FROM Users" ∧
    ((Executor.execute (.monitored { hooks := [deny] } (.direct conn)) "DELETE FROM Users" []).run {}).1 =
      .error (.execution "query aborted by hook: deletes are disabled") ∧
    ((Executor.execute (.monitored { hooks := [.prepend none "/* app */ ", deny] } (.direct conn))
      "DELETE FROM Users" []).run {}).1 = .ok 3 := by
  have hbody : ¬ ['*', '/'] <:+: [' ', 'a', 'p', 'p', ' '] := by decide
  exact ⟨.comment hbody (.skipped rfl .nil), by decide, rfl, rfl⟩

end FluentSql

import FluentSql.Proofs.LockStep
import FluentSql.Proofs.Shorthand

/-!
# FluentSql.Proofs.WellFormed — which statements can be built

* `Template.WellFormed`, `Condition.WellFormed`, `Clauses.WellFormed`: what templates, conditions and statements need,
  stated over arguments and nested statements that come with whether they are well formed themselves.
* `Arg.checked`, `Statement.WellFormed`: the same for all arguments and statements.
* `Rendering.SucceedsIff`: a rendering succeeds under exactly one condition, and its errors lie in how the statement
  was put together. Renderings in a row succeed when each of them does.
* `build_isOk_iff_wellFormed`: a statement builds exactly when it is well formed.
-/

namespace FluentSql

open Rendering

/-! ## What arguments need -/

/-- An argument, and whether it may stand behind a `?`. -/
structure CheckedArg where
  arg : Arg
  fits : Prop

/-- The keyword NULL always fits. -/
def CheckedArg.null : CheckedArg :=
  ⟨.null, True⟩

/-- A text that reads as an identifier. -/
def IsIdentText (name : String) : Prop :=
  ∃ i, Ident.parse name = .ok i

/-- An argument of `??`: a text that reads as an identifier. -/
def Arg.NamesIdent (a : Arg) : Prop :=
  ∃ name, a.text? = some name ∧ IsIdentText name

/-! ## What templates and conditions need -/

/-- What the argument behind a marker needs. -/
def Template.MarkerFits : Segment × CheckedArg → Prop
  | (.escape, a) => a.arg.NamesIdent
  | (_, a) => a.fits

/-- A template has a marker for each argument, and each argument fits its marker. -/
def Template.WellFormed (template : String) (args : List CheckedArg) : Prop :=
  countMarkers template = args.length ∧
    ∀ p ∈ ((segments template).filter Segment.isMarker).zip args, MarkerFits p

/-- A condition has a shape, and the template of the shape is well formed. -/
def Condition.WellFormed (c : Condition CheckedArg) : Prop :=
  ∃ shape, (c.map CheckedArg.arg).shape = .ok shape ∧
    Template.WellFormed shape.template (c.args.drop shape.used)

/-! ## What clauses need -/

/-- A table name, or a nested statement that is well formed. -/
def TableRef.WellFormed : TableRef Prop → Prop
  | .name _ => True
  | .query ok => ok

/-- A projected text, or an argument that fits. -/
def Projection.WellFormed : Projection CheckedArg → Prop
  | .column _ => True
  | .arg a => a.fits

/-- A join of a well-formed table on well-formed conditions. -/
def Join.WellFormed (j : Join CheckedArg Prop) : Prop :=
  j.table.WellFormed ∧ ∀ w ∈ j.conditions, w.WellFormed

/-- A term, or a list of values that is not empty. -/
def Order.WellFormed : Order → Prop
  | .term _ => True
  | .field _ values => values ≠ []

/-- An option that is written somewhere. -/
def SupportedOption (option : String) : Prop :=
  option ∈ leadingOptions ∨ option ∈ trailingOptions

instance : DecidablePred SupportedOption :=
  fun option => inferInstanceAs (Decidable (option ∈ leadingOptions ∨ option ∈ trailingOptions))

/-- A list of assignments that is not empty and whose values fit. -/
def AssignmentsWellFormed (rules : PayloadRules) (row : Record CheckedArg) : Prop :=
  row.entries CheckedArg.arg rules ≠ [] ∧ ∀ e ∈ row.entries CheckedArg.arg rules, e.2.fits

namespace Clauses

/-- What the head of a statement needs besides its table. -/
def HeadWellFormed (c : Clauses CheckedArg Prop) : Prop :=
  match c.operation with
  | .select | .existence => ∀ p ∈ c.columns, p.WellFormed
  | .insert rows | .replace rows =>
    ∀ g ∈ (Payload.ofRecords CheckedArg.arg CheckedArg.null (c.payloadRules false) rows).groups, ∀ a ∈ g, a.fits
  | .update row => AssignmentsWellFormed (c.payloadRules false) row
  | .patch row => AssignmentsWellFormed (c.payloadRules true) row
  | .delete => True
  | .insertSelect source _ => source
  | .unset | .raw _ _ => False

/-- What a statement needs that is put together from clauses. -/
structure Complete (c : Clauses CheckedArg Prop) : Prop where
  options : ∀ o ∈ c.options, SupportedOption o
  table : ∃ t, c.table = some t ∧ t.WellFormed
  head : c.HeadWellFormed
  /-- Columns left out of the payload are kept here. -/
  duplicate : ∀ row, c.duplicate = some row →
    AssignmentsWellFormed { c.payloadRules false with omitted := [] } row
  unions : ∀ u ∈ c.unions, u.query
  joins : ∀ j ∈ c.joins, j.WellFormed
  wheres : ∀ w ∈ c.wheres, w.WellFormed
  havings : ∀ w ∈ c.havings, w.WellFormed
  orders : ∀ o ∈ c.orders, o.WellFormed

/-- What a statement needs. Of a raw one nothing but its template counts. -/
def WellFormed (c : Clauses CheckedArg Prop) : Prop :=
  match c.operation with
  | .unset => False
  | .raw template args => Template.WellFormed template args
  | _ => c.Complete

end Clauses

/-! ## All arguments and statements -/

mutual

/-- An argument with whether it may stand behind a `?`. -/
def Arg.checked : Arg → CheckedArg
  | .value v => ⟨.value v, True⟩
  | .null => CheckedArg.null
  | .raw template args => ⟨.raw template args, Template.WellFormed template (mapMembers args fun a _ => a.checked)⟩
  | .query s => ⟨.query s, s.WellFormed⟩
  | .ident name => ⟨.ident name, IsIdentText name⟩
  | .seq items => ⟨.seq items, items ≠ []⟩
termination_by a => sizeOf a
decreasing_by all_goals (simp_all; try omega)

/-- A statement that can be built. -/
def Statement.WellFormed : Statement → Prop
  | .mk c => (c.mapSmaller (fun a _ => a.checked) (fun q _ => q.WellFormed)).WellFormed
termination_by s => sizeOf s
decreasing_by all_goals (simp_all; try omega)

end

theorem Arg.checked_raw (template : String) (args : List Arg) :
    (Arg.raw template args).checked = ⟨.raw template args, Template.WellFormed template (args.map Arg.checked)⟩ := by
  rw [Arg.checked, mapMembers_eq_map]

theorem Statement.wellFormed_mk (c : Clauses Arg Statement) :
    (Statement.mk c).WellFormed = (c.map Arg.checked Statement.WellFormed).WellFormed := by
  rw [Statement.WellFormed, Clauses.mapSmaller_eq_map]

@[simp] theorem Arg.arg_checked (a : Arg) : a.checked.arg = a := by
  cases a <;> simp [Arg.checked, CheckedArg.null]

/-! ## Renderings that succeed under one condition -/

/-- The error lies in how a statement was put together, and an option that it calls unknown is written nowhere. -/
def SqlError.isStatementFault : SqlError → Bool
  | .unknownOption o => !(leadingOptions.contains o || trailingOptions.contains o)
  | e => e.isContractViolation

/-- A computation succeeds exactly when `p` holds, and its errors lie in how the statement was put together. -/
def SucceedsIff {β : Type} : Except SqlError β → Prop → Prop
  | .ok _, p => p
  | .error e, p => ¬ p ∧ e.isStatementFault = true

namespace SucceedsIff

variable {β γ : Type} {p q : Prop}

theorem ok_iff {x : Except SqlError β} (h : SucceedsIff x p) : (∃ b, x = .ok b) ↔ p := by
  cases x with
  | ok b => exact ⟨fun _ => h, fun _ => ⟨b, rfl⟩⟩
  | error e => exact ⟨fun ⟨_, hb⟩ => (nomatch hb), fun hp => absurd hp h.1⟩

theorem isContractViolation {x : Except SqlError β} (h : SucceedsIff x p) {e : SqlError} (he : x = .error e) :
    e.isContractViolation = true := by
  subst he
  have hfault : e.isStatementFault = true := h.2
  cases e <;> first | rfl | exact hfault

/-- An option that is called unknown is written nowhere. -/
theorem not_supported {x : Except SqlError β} (h : SucceedsIff x p) {o : String} (ho : x = .error (.unknownOption o)) :
    ¬ SupportedOption o := by
  subst ho
  have hfault : (!(leadingOptions.contains o || trailingOptions.contains o)) = true := h.2
  simpa [SupportedOption] using hfault

theorem congr {x : Except SqlError β} (h : SucceedsIff x p) (hpq : p ↔ q) : SucceedsIff x q := by
  cases x with
  | ok b => exact hpq.1 h
  | error e => exact ⟨fun hq => h.1 (hpq.2 hq), h.2⟩

theorem ok (b : β) : SucceedsIff (.ok b) True := trivial

theorem error {e : SqlError} (he : e.isStatementFault = true) : SucceedsIff (.error e : Except SqlError β) False :=
  ⟨id, he⟩

theorem map (f : β → γ) {x : Except SqlError β} (h : SucceedsIff x p) : SucceedsIff (x.map f) p := by
  cases x <;> exact h

theorem bind {x : Except SqlError β} {k : β → Except SqlError γ} (hx : SucceedsIff x p)
    (hk : ∀ b, x = .ok b → SucceedsIff (k b) q) : SucceedsIff (x.bind k) (p ∧ q) := by
  cases x with
  | ok b => exact (hk b rfl).congr ⟨fun hq => ⟨hx, hq⟩, And.right⟩
  | error e => exact ⟨fun hpq => hx.1 hpq.1, hx.2⟩

/-- Renderings in a row succeed when both do. -/
theorem append {a b : Rendering} (ha : SucceedsIff a p) (hb : SucceedsIff b q) : SucceedsIff (a ++ b) (p ∧ q) :=
  ha.bind fun _ _ => hb.map _

/-- Literal text in front changes nothing. -/
theorem text_append {s : String} {a : Rendering} (h : SucceedsIff a p) : SucceedsIff (text s ++ a) p :=
  ((ok _).append h).congr (iff_of_eq (true_and p))

theorem append_text {s : String} {a : Rendering} (h : SucceedsIff a p) : SucceedsIff (a ++ text s) p :=
  (h.append (ok _)).congr (iff_of_eq (and_true p))

theorem concat_map {f : β → Rendering} {P : β → Prop} {xs : List β} (h : ∀ x ∈ xs, SucceedsIff (f x) (P x)) :
    SucceedsIff (concat (xs.map f)) (∀ x ∈ xs, P x) := by
  induction xs with
  | nil => exact (ok _).congr (by simp)
  | cons x xs ih =>
    have hx := h x List.mem_cons_self
    have hxs := ih fun y hy => h y (List.mem_cons_of_mem x hy)
    exact (hx.append hxs).congr (by simp)

theorem concat_append {rs ss : List Rendering} (hr : SucceedsIff (concat rs) p) (hs : SucceedsIff (concat ss) q) :
    SucceedsIff (concat (rs ++ ss)) (p ∧ q) := by
  rw [Rendering.concat_append]
  exact hr.append hs

/-- A separator changes nothing. -/
theorem join {separator : String} {rs : List Rendering} (h : SucceedsIff (concat rs) p) :
    SucceedsIff (join separator rs) p := by
  have key : (Rendering.join separator rs).map (fun _ => ()) = (concat rs).map (fun _ => ()) := by
    clear h
    induction rs with
    | nil => rfl
    | cons r rs ih =>
      cases rs with
      | nil => cases r <;> simp [Rendering.join, concat]
      | cons s rs =>
        have hcat : concat (r :: s :: rs) = r ++ concat (s :: rs) := rfl
        rw [Rendering.join, hcat]
        revert ih
        cases r <;> cases Rendering.join separator (s :: rs) <;> cases concat (s :: rs) <;>
          simp [text, Except.map]
  have hunit := h.map fun _ => ()
  rw [← key] at hunit
  revert hunit
  cases Rendering.join separator rs <;> exact id

end SucceedsIff

/-! ## Parts that succeed under one condition -/

/-- An argument with its pieces and the condition under which there are any. -/
structure JudgedArg where
  rendered : RenderedArg
  fits : Prop
  succeeds : ∀ position context, SucceedsIff (rendered.pieces position context) fits

/-- A nested statement with its pieces and the condition under which there are any. -/
structure JudgedQuery where
  rendered : RenderedQuery
  fits : Prop
  succeeds : ∀ withAlias, SucceedsIff (rendered.pieces withAlias) fits

namespace JudgedArg

/-- The argument and the condition. -/
def checked (a : JudgedArg) : CheckedArg :=
  ⟨a.rendered.arg, a.fits⟩

/-- The keyword NULL always succeeds. -/
def null : JudgedArg :=
  ⟨RenderedArg.null, True, fun _ _ => SucceedsIff.ok _⟩

end JudgedArg

theorem JudgedQuery.placed_succeeds (q : JudgedQuery) (position : Position) :
    SucceedsIff (q.rendered.placed position) q.fits := by
  cases position with
  | bare => exact q.succeeds true
  | value => exact (q.succeeds true).append_text.text_append
  | source => exact (q.succeeds false).append_text.text_append

/-! ## Templates and conditions -/

theorem quoteIdent_succeeds (name : String) : SucceedsIff (quoteIdent name) (IsIdentText name) := by
  unfold quoteIdent
  cases h : Ident.parse name with
  | ok i => exact ⟨i, h⟩
  | error fault => exact ⟨fun ⟨i, hi⟩ => (nomatch h.symm.trans hi), rfl⟩

namespace Template

theorem identifier_succeeds (template : String) (a : Arg) : SucceedsIff (identifier template a) a.NamesIdent := by
  unfold identifier escapeText
  refine SucceedsIff.map _ ?_
  cases h : a.text? with
  | none => exact ⟨fun ⟨name, hname, _⟩ => (nomatch h.symm.trans hname), rfl⟩
  | some name =>
    refine (quoteIdent_succeeds name).congr ⟨fun hi => ⟨name, h, hi⟩, fun ⟨name', hname, hi⟩ => ?_⟩
    rw [h] at hname
    exact Option.some.inj hname ▸ hi

/-- The identifiers of a template are all there when each argument of `??` names one. -/
theorem identifiers_succeed (template : String) :
    ∀ (segs : List Segment) (os : List JudgedArg), segs.countP Segment.isMarker = os.length →
      SucceedsIff (concat (identifiers template segs (os.map JudgedArg.rendered)))
        (∀ p ∈ (segs.filter Segment.isMarker).zip (os.map JudgedArg.checked), p.1 = .escape → p.2.arg.NamesIdent)
  | [], os, _ => by
    cases os <;> exact (SucceedsIff.ok _).congr (by simp)
  | .text cs :: segs, os, h => by
    have ih := identifiers_succeed template segs os (by simpa [List.countP_cons] using h)
    simpa [identifiers] using ih
  | .escape :: segs, [], h => by simp at h
  | .placeholder :: segs, [], h => by simp at h
  | .placeholder :: segs, o :: os, h => by
    have ih := identifiers_succeed template segs os (by simpa [List.countP_cons] using h)
    exact ih.congr (by simp [List.filter_cons])
  | .escape :: segs, o :: os, h => by
    have ih := identifiers_succeed template segs os (by simpa [List.countP_cons] using h)
    exact ((identifier_succeeds template o.rendered.arg).append ih).congr
      (by simp [List.filter_cons, JudgedArg.checked])

/-- The segments of a template are all there when each argument fits its marker. -/
theorem filled_succeeds (template : String) (position : Position) :
    ∀ (segs : List Segment) (os : List JudgedArg), segs.countP Segment.isMarker = os.length →
      SucceedsIff (concat (filled template position segs (os.map JudgedArg.rendered)))
        (∀ p ∈ (segs.filter Segment.isMarker).zip (os.map JudgedArg.checked), MarkerFits p)
  -- each marker takes the next argument, on both sides
  | [], os, _ => by
    cases os <;> exact (SucceedsIff.ok _).congr (by simp)
  | .text cs :: segs, os, h => by
    have ih := filled_succeeds template position segs os (by simpa [List.countP_cons] using h)
    exact ih.text_append.congr (by simp)
  | .escape :: segs, [], h => by simp at h
  | .placeholder :: segs, [], h => by simp at h
  | .placeholder :: segs, o :: os, h => by
    have ih := filled_succeeds template position segs os (by simpa [List.countP_cons] using h)
    exact ((o.succeeds position template).append ih).congr (by simp [List.filter_cons, MarkerFits, JudgedArg.checked])
  | .escape :: segs, o :: os, h => by
    have ih := filled_succeeds template position segs os (by simpa [List.countP_cons] using h)
    exact ((identifier_succeeds template o.rendered.arg).append ih).congr
      (by simp [List.filter_cons, MarkerFits, JudgedArg.checked])

theorem pieces_succeed (template : String) (os : List JudgedArg) (position : Position) :
    SucceedsIff (pieces template (os.map JudgedArg.rendered) position)
      (WellFormed template (os.map JudgedArg.checked)) := by
  unfold pieces WellFormed
  simp only [List.length_map]
  -- markers are counted first, then every `??` is read, and only then is anything filled in
  by_cases hlen : countMarkers template = os.length
  · by_cases hzero : countMarkers template = 0
    · have hos : os = [] := List.length_eq_zero_iff.1 (hlen ▸ hzero)
      subst hos
      simp only [hzero]
      exact (SucceedsIff.ok _).congr (by simp)
    · simp only [hlen, ne_eq, not_true_eq_false, if_false, true_and]
      rw [if_neg (hlen ▸ hzero)]
      refine ((identifiers_succeed template _ os hlen).bind
        fun _ _ => filled_succeeds template position _ os hlen).congr ⟨And.right, fun h => ⟨fun p hp he => ?_, h⟩⟩
      have := h p hp
      obtain ⟨m, a⟩ := p
      obtain rfl : m = .escape := he
      exact this
  · rw [if_pos hlen]
    exact (SucceedsIff.error rfl).congr ⟨False.elim, fun h => hlen h.1⟩

end Template

namespace Condition

theorem pieces_succeed (c : Condition JudgedArg) :
    SucceedsIff (c.map JudgedArg.rendered).pieces (c.map JudgedArg.checked).WellFormed := by
  have harg : CheckedArg.arg ∘ JudgedArg.checked = RenderedArg.arg ∘ JudgedArg.rendered := rfl
  unfold pieces WellFormed
  rw [Condition.map_map, Condition.map_map, harg]
  generalize hshape : (c.map (RenderedArg.arg ∘ JudgedArg.rendered)).shape = x
  cases x with
  | error e => exact ⟨fun ⟨_, hs, _⟩ => (nomatch hs), (shape_error hshape) ▸ rfl⟩
  | ok shape =>
    have hdrop : ∀ {β : Type} (f : JudgedArg → β), (c.map f).args.drop shape.used = (c.args.drop shape.used).map f :=
      fun f => List.map_drop.symm
    show SucceedsIff (Template.pieces shape.template ((c.map JudgedArg.rendered).args.drop shape.used) .value) _
    rw [hdrop]
    refine (Template.pieces_succeed shape.template (c.args.drop shape.used) .value).congr
      ⟨fun h => ⟨shape, rfl, by rwa [hdrop]⟩, fun ⟨shape', hs, h⟩ => ?_⟩
    cases hs
    rwa [hdrop] at h

theorem allPieces_succeed (cs : List (Condition JudgedArg)) :
    SucceedsIff (allPieces (cs.map (Condition.map JudgedArg.rendered)))
      (∀ w ∈ cs.map (Condition.map JudgedArg.checked), w.WellFormed) := by
  cases cs with
  | nil => exact (SucceedsIff.ok _).congr (by simp)
  | cons c cs =>
    have hnext : SucceedsIff (concat ((cs.map (Condition.map JudgedArg.rendered)).map nextPieces))
        (∀ w ∈ cs, (w.map JudgedArg.checked).WellFormed) := by
      rw [List.map_map]
      exact SucceedsIff.concat_map fun w _ => (pieces_succeed w).text_append
    exact ((pieces_succeed c).append hnext).congr (by simp)

end Condition

/-! ## Clauses -/

namespace Clauses

variable (c : Clauses JudgedArg JudgedQuery)

/-- The pieces of all parts. -/
def rendered : Clauses RenderedArg RenderedQuery :=
  c.map JudgedArg.rendered JudgedQuery.rendered

/-- The conditions of all parts. -/
def checked : Clauses CheckedArg Prop :=
  c.map JudgedArg.checked JudgedQuery.fits

theorem tablePieces_succeed :
    SucceedsIff c.rendered.tablePieces (∃ t, c.checked.table = some t ∧ t.WellFormed) := by
  have hr : c.rendered.table = c.table.map (TableRef.map JudgedQuery.rendered) := rfl
  have hc : c.checked.table = c.table.map (TableRef.map JudgedQuery.fits) := rfl
  unfold tablePieces
  rw [hr, hc]
  obtain _ | s | q := c.table
  · exact ⟨fun ⟨t, ht, _⟩ => (nomatch ht), rfl⟩
  · exact ⟨_, rfl, trivial⟩
  · refine (q.succeeds false).append_text.text_append.congr ⟨fun h => ⟨_, rfl, h⟩, fun ⟨t, ht, h⟩ => ?_⟩
    cases ht
    exact h

theorem projectionPieces_succeed (p : Projection JudgedArg) :
    SucceedsIff (projectionPieces (p.map JudgedArg.rendered)) (p.map JudgedArg.checked).WellFormed := by
  cases p with
  | column s => exact SucceedsIff.ok _
  | arg a => exact a.succeeds .source "SELECT"

theorem projection_succeeds (ps : List (Projection JudgedArg)) :
    SucceedsIff
      (if (ps.map (Projection.map JudgedArg.rendered)).isEmpty then text "*"
        else join ", " ((ps.map (Projection.map JudgedArg.rendered)).map projectionPieces))
      (∀ p ∈ ps.map (Projection.map JudgedArg.checked), p.WellFormed) := by
  cases ps with
  | nil => exact (SucceedsIff.ok _).congr (by simp)
  | cons p ps =>
    rw [if_neg (by simp), List.map_map]
    exact (SucceedsIff.concat_map fun p _ => projectionPieces_succeed p).join.congr (by simp)

theorem groupPieces_succeed (group : List JudgedArg) :
    SucceedsIff (groupPieces (group.map JudgedArg.rendered)) (∀ a ∈ group.map JudgedArg.checked, a.fits) := by
  unfold groupPieces
  rw [List.map_map]
  exact (SucceedsIff.concat_map fun a _ => a.succeeds .value "VALUES").join.append_text.text_append.congr
    (by simp [JudgedArg.checked])

theorem valuesPieces_succeed (rows : List (Record JudgedArg)) :
    SucceedsIff (c.rendered.valuesPieces (rows.map (Record.map JudgedArg.rendered)))
      (∀ g ∈ (Payload.ofRecords CheckedArg.arg CheckedArg.null (c.payloadRules false)
        (rows.map (Record.map JudgedArg.checked))).groups, ∀ a ∈ g, a.fits) := by
  have hr : RenderedArg.null = JudgedArg.rendered JudgedArg.null := rfl
  have hc : CheckedArg.null = JudgedArg.checked JudgedArg.null := rfl
  have hrules : c.rendered.payloadRules false = c.payloadRules false := rfl
  have harg : CheckedArg.arg ∘ JudgedArg.checked = RenderedArg.arg ∘ JudgedArg.rendered := rfl
  unfold valuesPieces
  rw [hr, hc, hrules, Payload.ofRecords_map, Payload.ofRecords_map, harg]
  generalize Payload.ofRecords _ _ _ rows = payload
  obtain ⟨columns, groups⟩ := payload
  simp only [Payload.map]
  cases groups with
  | nil => exact (SucceedsIff.ok _).congr (by simp)
  | cons g gs =>
    simp only [List.map_cons, List.isEmpty_cons, Bool.false_eq_true, if_false]
    rw [← List.map_cons, ← List.map_cons, List.map_map]
    exact (SucceedsIff.concat_map fun g _ => groupPieces_succeed g).join.text_append.congr (by simp)

theorem assignmentsPieces_succeed (rules : PayloadRules) (context : String) (row : Record JudgedArg) :
    SucceedsIff (c.rendered.assignmentsPieces rules context (row.map JudgedArg.rendered))
      (AssignmentsWellFormed rules (row.map JudgedArg.checked)) := by
  have harg : CheckedArg.arg ∘ JudgedArg.checked = RenderedArg.arg ∘ JudgedArg.rendered := rfl
  unfold assignmentsPieces AssignmentsWellFormed
  rw [Record.entries_map, Record.entries_map, harg]
  cases row.entries (RenderedArg.arg ∘ JudgedArg.rendered) rules with
  | nil => exact ⟨fun h => h.1 rfl, rfl⟩
  | cons e es =>
    simp only [List.map_cons, List.isEmpty_cons, Bool.false_eq_true, if_false]
    rw [← List.map_cons, ← List.map_cons, ← List.map_cons, List.map_map]
    exact (SucceedsIff.concat_map fun e _ => (e.2.succeeds .value context).text_append).join.congr
      ⟨fun h => ⟨by simp, List.forall_mem_map.2 h⟩, fun h e he => h.2 _ (List.mem_map_of_mem he)⟩

/-- The head of a statement that is no test of existence. Such a test is compiled as a selection. -/
theorem headPieces_succeed (leading : List String) (hkind : c.operation.kind ≠ .existence) :
    SucceedsIff (c.rendered.headPieces leading)
      ((∃ t, c.checked.table = some t ∧ t.WellFormed) ∧ c.checked.HeadWellFormed) := by
  have hr : c.rendered.operation = c.operation.map JudgedArg.rendered JudgedQuery.rendered := rfl
  have hc : c.checked.operation = c.operation.map JudgedArg.checked JudgedQuery.fits := rfl
  unfold headPieces HeadWellFormed
  rw [hr, hc]
  cases hop : c.operation with
  | select =>
    exact ((projection_succeeds c.columns).append c.tablePieces_succeed.text_append).text_append.congr And.comm
  | insert rows => exact (c.tablePieces_succeed.append (c.valuesPieces_succeed rows).text_append).text_append
  | replace rows => exact (c.tablePieces_succeed.append (c.valuesPieces_succeed rows).text_append).text_append
  | update row => exact (c.tablePieces_succeed.append (c.assignmentsPieces_succeed _ "SET" row).text_append).text_append
  | patch row => exact (c.tablePieces_succeed.append (c.assignmentsPieces_succeed _ "SET" row).text_append).text_append
  | delete => exact c.tablePieces_succeed.text_append.congr ⟨fun h => ⟨h, trivial⟩, And.left⟩
  | insertSelect source columns =>
    exact (c.tablePieces_succeed.append (source.succeeds true).text_append).text_append
  | unset => exact ⟨And.right, rfl⟩
  | existence => exact absurd (congrArg Operation.kind hop) hkind
  | raw template args => exact ⟨And.right, rfl⟩

theorem duplicatePieces_succeed :
    SucceedsIff (concat c.rendered.duplicatePieces)
      (∀ row, c.checked.duplicate = some row →
        AssignmentsWellFormed { c.payloadRules false with omitted := [] } row) := by
  have hr : c.rendered.duplicate = c.duplicate.map (Record.map JudgedArg.rendered) := rfl
  have hc : c.checked.duplicate = c.duplicate.map (Record.map JudgedArg.checked) := rfl
  unfold duplicatePieces
  rw [hr, hc]
  cases c.duplicate with
  | none => exact (SucceedsIff.ok _).congr (by simp)
  | some row =>
    have h := (c.assignmentsPieces_succeed { c.payloadRules false with omitted := [] } "ON DUPLICATE" row).text_append
      (s := "ON DUPLICATE KEY UPDATE ")
    exact (h.append (SucceedsIff.ok _)).congr (by simp)

theorem unionPieces_succeed (u : Union JudgedQuery) :
    SucceedsIff (unionPieces (u.map JudgedQuery.rendered)) u.query.fits :=
  (u.query.succeeds true).text_append

theorem joinPieces_succeed (j : Join JudgedArg JudgedQuery) :
    SucceedsIff (joinPieces (j.map JudgedArg.rendered JudgedQuery.rendered))
      (j.map JudgedArg.checked JudgedQuery.fits).WellFormed := by
  obtain ⟨kind, table, conditions⟩ := j
  have htable : SucceedsIff (joinedTablePieces (table.map JudgedQuery.rendered))
      (table.map JudgedQuery.fits).WellFormed := by
    cases table with
    | name s => exact SucceedsIff.ok _
    | query q => exact q.placed_succeeds .source
  refine SucceedsIff.text_append (htable.append ?_)
  cases conditions with
  | nil => exact (SucceedsIff.ok _).congr (by simp [Join.map])
  | cons w ws => exact (Condition.allPieces_succeed (w :: ws)).append_text.text_append

theorem conditionsPieces_succeed (keyword : String) (cs : List (Condition JudgedArg)) :
    SucceedsIff (concat (conditionsPieces keyword (cs.map (Condition.map JudgedArg.rendered))))
      (∀ w ∈ cs.map (Condition.map JudgedArg.checked), w.WellFormed) := by
  cases cs with
  | nil => exact (SucceedsIff.ok _).congr (by simp)
  | cons w ws =>
    have h := (Condition.allPieces_succeed (w :: ws)).text_append (s := keyword ++ " ")
    exact (h.append (SucceedsIff.ok _)).congr (and_true _ ▸ Iff.rfl)

theorem orderPieces_succeed (o : Order) : SucceedsIff (orderPieces o) o.WellFormed := by
  cases o with
  | term s => exact SucceedsIff.ok _
  | field column values =>
    cases values with
    | nil => exact ⟨fun h => h rfl, rfl⟩
    | cons v vs =>
      have h : SucceedsIff (concat ((v :: vs).map value)) True :=
        (SucceedsIff.concat_map fun _ _ => SucceedsIff.ok _).congr (by simp)
      have hlist : SucceedsIff (concat (text column :: (v :: vs).map value)) True := h.text_append
      exact hlist.join.append_text.text_append.congr (by simp [Order.WellFormed])

theorem ordersPieces_succeed (os : List Order) :
    SucceedsIff (concat (ordersPieces os)) (∀ o ∈ os, o.WellFormed) := by
  cases os with
  | nil => exact (SucceedsIff.ok _).congr (by simp)
  | cons o os =>
    have h := (SucceedsIff.concat_map fun o _ => orderPieces_succeed o : SucceedsIff _ (∀ o' ∈ o :: os, _))
    exact (h.join.text_append.append (SucceedsIff.ok _)).congr (and_true _ ▸ Iff.rfl)

/-! ## Whole statements -/

theorem optionsOfList_succeeds (options : List String) :
    SucceedsIff (Options.ofList options) (∀ o ∈ options, SupportedOption o) := by
  unfold Options.ofList
  cases h : options.find? fun o => !(leadingOptions.contains o || trailingOptions.contains o) with
  | none =>
    intro o ho
    have := List.find?_eq_none.1 h o ho
    simpa [SupportedOption, or_iff_not_imp_left] using this
  | some o =>
    have hbad := List.find?_some h
    refine ⟨fun hall => ?_, hbad⟩
    have hgood := hall o (List.mem_of_find?_eq_some h)
    simp [SupportedOption] at hbad hgood
    exact hgood.elim hbad.1 hbad.2

theorem texts_succeed (ss : List String) : SucceedsIff (concat (ss.map text)) True :=
  (SucceedsIff.concat_map fun _ _ => SucceedsIff.ok _).congr (by simp)

theorem aliasPieces_succeed (k : Clauses RenderedArg RenderedQuery) (withAlias : Bool) :
    SucceedsIff (concat (k.aliasPieces withAlias)) True := by
  simp only [aliasPieces]
  generalize (if withAlias then k.aliasName else none).or _ = name
  cases name <;> exact SucceedsIff.ok _

/-- The parts of a statement succeed one by one. -/
theorem parts_succeed (withAlias : Bool) (options : Options) (hkind : c.operation.kind ≠ .existence)
    (hoptions : ∀ o ∈ c.options, SupportedOption o) :
    SucceedsIff (concat (c.rendered.parts withAlias options)) c.checked.Complete := by
  have hhead : SucceedsIff (concat [c.rendered.headPieces options.leading]) _ :=
    (c.headPieces_succeed options.leading hkind).append (SucceedsIff.ok _)
  have hunions : SucceedsIff (concat (c.rendered.unions.map unionPieces)) (∀ u ∈ c.checked.unions, u.query) := by
    have h := SucceedsIff.concat_map fun u (_ : u ∈ c.unions) => unionPieces_succeed u
    simpa [rendered, checked, map, Union.map, Function.comp_def] using h
  have hjoins : SucceedsIff (concat (c.rendered.joins.map joinPieces)) (∀ j ∈ c.checked.joins, j.WellFormed) := by
    have h := SucceedsIff.concat_map fun j (_ : j ∈ c.joins) => joinPieces_succeed j
    simpa [rendered, checked, map, Function.comp_def] using h
  -- a list of parts succeeds when each part does, in the order of the clauses
  have h := ((((((((((hhead.concat_append (aliasPieces_succeed c.rendered withAlias)).concat_append
    c.duplicatePieces_succeed).concat_append hunions).concat_append hjoins).concat_append
    (conditionsPieces_succeed "WHERE" c.wheres)).concat_append
    (conditionsPieces_succeed "HAVING" c.havings)).concat_append
    (ordersPieces_succeed c.orders)).concat_append (texts_succeed c.groupClause)).concat_append
    (texts_succeed c.limitClause)).concat_append (texts_succeed options.trailing))
  refine h.congr ⟨?_, fun hc => ?_⟩
  · rintro ⟨⟨⟨⟨⟨⟨⟨⟨⟨⟨⟨⟨ht, hh⟩, -⟩, -⟩, hd⟩, hu⟩, hj⟩, hw⟩, hv⟩, ho⟩, -⟩, -⟩, -⟩
    exact ⟨hoptions, ht, hh, hd, hu, hj, hw, hv, ho⟩
  · exact ⟨⟨⟨⟨⟨⟨⟨⟨⟨⟨⟨⟨hc.table, hc.head⟩, trivial⟩, trivial⟩, hc.duplicate⟩, hc.unions⟩, hc.joins⟩, hc.wheres⟩,
      hc.havings⟩, hc.orders⟩, trivial⟩, trivial⟩, trivial⟩

theorem clausePieces_succeed (withAlias : Bool) (hkind : c.operation.kind ≠ .existence) :
    SucceedsIff (c.rendered.clausePieces withAlias) c.checked.Complete := by
  have hoptions := optionsOfList_succeeds c.options
  have hparts : ∀ options, Options.ofList c.options = .ok options →
      SucceedsIff (Rendering.join " " (c.rendered.parts withAlias options)) c.checked.Complete := fun options ho =>
    (c.parts_succeed withAlias options hkind (hoptions.ok_iff.1 ⟨options, ho⟩)).join
  exact (hoptions.bind hparts).congr ⟨And.right, fun h => ⟨h.options, h⟩⟩

/-- A test of existence needs what the selection in it needs. -/
theorem complete_select {k : Clauses CheckedArg Prop} (hop : k.operation = .existence) :
    { k with operation := .select }.Complete ↔ k.Complete := by
  have hhead : { k with operation := .select }.HeadWellFormed ↔ k.HeadWellFormed := by
    simp only [HeadWellFormed, hop]
  exact ⟨fun h => ⟨h.options, h.table, hhead.1 h.head, h.duplicate, h.unions, h.joins, h.wheres, h.havings, h.orders⟩,
    fun h => ⟨h.options, h.table, hhead.2 h.head, h.duplicate, h.unions, h.joins, h.wheres, h.havings, h.orders⟩⟩

/-- A statement succeeds exactly when its clauses are well formed. -/
theorem pieces_succeed (withAlias : Bool) : SucceedsIff (c.rendered.pieces withAlias) c.checked.WellFormed := by
  have hr : c.rendered.operation = c.operation.map JudgedArg.rendered JudgedQuery.rendered := rfl
  have hc : c.checked.operation = c.operation.map JudgedArg.checked JudgedQuery.fits := rfl
  have hclauses := c.clausePieces_succeed withAlias
  unfold pieces WellFormed
  rw [hr, hc]
  cases hop : c.operation with
  | unset => exact ⟨id, rfl⟩
  | raw template args => exact Template.pieces_succeed template args .bare
  | existence =>
    have hselect := ({ c with operation := .select } : Clauses JudgedArg JudgedQuery).clausePieces_succeed withAlias
      (fun h => by cases h)
    exact hselect.append_text.text_append.congr (complete_select (k := c.checked) (by rw [hc, hop, Operation.map]))
  | _ =>
    rw [hop] at hclauses
    exact hclauses (fun h => by cases h)

end Clauses

/-! ## All statements -/

theorem sequencePieces_succeeds (context : String) (items : List Value) :
    SucceedsIff (sequencePieces context items) (items ≠ []) := by
  cases items with
  | nil => exact ⟨fun h => h rfl, rfl⟩
  | cons v vs =>
    have h : SucceedsIff (concat ((v :: vs).map value)) True :=
      (SucceedsIff.concat_map fun _ _ => SucceedsIff.ok _).congr (by simp)
    exact h.join.append_text.text_append.congr (by simp)

/-- An argument that succeeds where it fits. -/
def JudgedArg.ofArg (a : {a : Arg // ∀ position context, SucceedsIff (a.rendered.pieces position context)
    a.checked.fits}) : JudgedArg :=
  ⟨a.1.rendered, a.1.checked.fits, a.2⟩

theorem JudgedArg.checked_comp_ofArg : JudgedArg.checked ∘ ofArg = Arg.checked ∘ Subtype.val := by
  funext a
  have harg : a.1.checked.arg = a.1.rendered.arg := by rw [Arg.arg_checked, Arg.arg_rendered]
  show CheckedArg.mk a.1.rendered.arg a.1.checked.fits = a.1.checked
  rw [← harg]

/-- A statement that succeeds where it is well formed. -/
def JudgedQuery.ofStatement (s : {s : Statement // ∀ withAlias, SucceedsIff (s.rendered.pieces withAlias)
    s.WellFormed}) : JudgedQuery :=
  ⟨s.1.rendered, s.1.WellFormed, s.2⟩

/-- Every argument succeeds where it fits, and every statement where it is well formed. -/
theorem rendered_succeeds :
    (∀ a : Arg, ∀ position context, SucceedsIff (a.rendered.pieces position context) a.checked.fits) ∧
      ∀ s : Statement, ∀ withAlias, SucceedsIff (s.rendered.pieces withAlias) s.WellFormed := by
  -- arguments and statements at once, since each can hold the other
  apply nested_induction
  case value =>
    intro v _ _
    rw [Arg.rendered, Arg.checked]
    exact SucceedsIff.ok _
  case null =>
    intro _ _
    rw [Arg.rendered, Arg.checked]
    exact SucceedsIff.ok _
  case query =>
    intro s hs position _
    rw [Arg.rendered, Arg.checked]
    exact JudgedQuery.placed_succeeds ⟨s.rendered, s.WellFormed, hs⟩ position
  case ident =>
    intro name _ _
    rw [Arg.rendered, Arg.checked]
    exact (quoteIdent_succeeds name).map _
  case seq =>
    intro items _ context
    rw [Arg.rendered, Arg.checked]
    exact sequencePieces_succeeds context items
  case raw =>
    intro template args _ _
    have h := Template.pieces_succeed template (args.map JudgedArg.ofArg) .bare
    rw [List.map_map, List.map_map, JudgedArg.checked_comp_ofArg] at h
    rw [Arg.rendered_raw, Arg.checked_raw, List.map_map, List.map_map]
    exact h
  case mk =>
    intro c withAlias
    have h := (c.map JudgedArg.ofArg JudgedQuery.ofStatement).pieces_succeed withAlias
    rw [Clauses.rendered, Clauses.checked, Clauses.map_map, Clauses.map_map, JudgedArg.checked_comp_ofArg] at h
    rw [Statement.rendered_mk, Statement.wellFormed_mk, Clauses.map_map, Clauses.map_map]
    exact h

/-- A statement that is compiled by itself succeeds exactly when it is well formed. -/
theorem Statement.standalone_succeeds (s : Statement) (withAlias : Bool) :
    SucceedsIff (Binder.standalone (s.subquery.assemble withAlias)) s.WellFormed := by
  rw [Statement.standalone_eq]
  exact (rendered_succeeds.2 s withAlias).map _

/-! ## Templates with an operand for each marker -/

/-- With an operand for each marker, no operand is ever missing. -/
theorem Template.resolve_mismatch_irrelevant (template : String) (e e' : SqlError) :
    ∀ (segs : List Segment) (os : List Operand), segs.countP Segment.isMarker = os.length →
      resolve template e segs os = resolve template e' segs os
  | [], _, _ => by simp only [resolve]
  | .text cs :: segs, os, h => by
    rw [resolve, resolve, resolve_mismatch_irrelevant template e e' segs os (by simpa [List.countP_cons] using h)]
  | .escape :: segs, [], h => by simp at h
  | .placeholder :: segs, [], h => by simp at h
  | .escape :: segs, o :: os, h => by
    rw [resolve, resolve, resolve_mismatch_irrelevant template e e' segs os (by simpa [List.countP_cons] using h)]
  | .placeholder :: segs, o :: os, h => by
    rw [resolve, resolve, resolve_mismatch_irrelevant template e e' segs os (by simpa [List.countP_cons] using h)]

/-! ## Building -/

/-- **Exactly the well-formed statements build**, on their own or nested in another one; every other one fails with
an error in how it was put together. Filling a template never runs out of operands. -/
theorem build_isOk_iff_wellFormed :
    (∀ s : Statement, ((∃ q, s.build = .ok q) ↔ s.WellFormed) ∧
      (∀ e, s.build = .error e → e.isContractViolation = true) ∧
      ∀ withAlias, (∃ q, Binder.standalone (s.subquery.assemble withAlias) = .ok q) ↔ s.WellFormed) ∧
      ∀ template e e' os, Template.countMarkers template = os.length →
        Template.resolve template e (Template.segments template) os =
          Template.resolve template e' (Template.segments template) os := by
  refine ⟨fun s => ?_, fun template e e' os h => Template.resolve_mismatch_irrelevant template e e' _ os h⟩
  have hnested := s.standalone_succeeds
  exact ⟨(hnested true).ok_iff, fun e he => (hnested true).isContractViolation he, fun b => (hnested b).ok_iff⟩

end FluentSql

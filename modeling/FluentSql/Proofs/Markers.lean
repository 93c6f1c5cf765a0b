import FluentSql.Proofs.Columns
import FluentSql.Proofs.LockStep
import FluentSql.Proofs.Nesting
import FluentSql.Proofs.Shorthand

/-!
# FluentSql.Proofs.Markers — the markers of a finished text

* `Template.Closed`, `Template.Inert`: templates end outside quoted text; what is written as it is has no marker either.
* `Arg.closed`, `Statement.Closed`: every template that is compiled is closed, and every text that is written as it is
  is inert. Nothing is said about values, about identifiers, or about columns that conditions only name.
* `Rendering.Marked`: the text has one placeholder for each value, no escape, and ends outside quoted text.
* `build_markers`: the text of a closed statement has no escape and one placeholder for each bound value.
-/

namespace FluentSql

open Rendering Template

/-! ## Inert texts -/

namespace Template.Inert

/-- Inside back-ticks, where each back-tick is doubled, nothing is a marker. -/
theorem scan_doubled (cs : List Char) :
    CarriesFrom (.inside '`') 0 (Ident.doubled cs ++ ['`']) := by
  have hopen : Quoting.step .outside '`' = .inside '`' := by decide
  have hclose : Quoting.step (.inside '`') '`' = .outside := by decide
  induction cs with
  | nil => exact ⟨by decide, by decide⟩
  | cons c cs ih =>
    have hinside : ∀ d, Quoting.inside '`' = .outside → d ≠ '?' := fun d hq => (nomatch hq)
    rw [Ident.doubled]
    by_cases hc : c = '`'
    · rw [if_pos hc]
      refine ⟨?_, ?_⟩
      · rw [List.cons_append, markersFrom_cons (hinside '`'), hclose, List.cons_append,
          markersFrom_cons (fun _ => by decide), hopen]
        exact ih.markers
      · exact ih.outside
    · have hstay : Quoting.step (.inside '`') c = .inside '`' := by simp [Quoting.step, hc]
      rw [if_neg hc]
      refine ⟨?_, ?_⟩
      · rw [List.cons_append, markersFrom_cons (hinside c), hstay]
        exact ih.markers
      · show Quoting.after (Quoting.step (.inside '`') c) (Ident.doubled cs ++ ['`']) = .outside
        rw [hstay]
        exact ih.outside

theorem partSql (part : String) : Inert (Ident.partSql part) := by
  unfold Inert Carries Ident.partSql
  rw [String.toList_ofList]
  have hscan := scan_doubled part.toList
  refine ⟨?_, hscan.outside⟩
  rw [markersFrom_cons fun _ => by decide]
  exact hscan.markers

/-- An identifier is quoted, whatever it contains. -/
theorem quoteIdent {name sql : String} (h : quoteIdent name = .ok sql) : Inert sql := by
  unfold FluentSql.quoteIdent at h
  split at h
  · rw [← Except.ok.inj h, Ident.sql]
    refine Inert.intercalate (by decide) fun s hs => ?_
    obtain ⟨part, -, rfl⟩ := List.mem_map.1 hs
    exact partSql part
  · nomatch h

theorem toString (n : Nat) : Inert (toString n) := by
  refine Inert.of_bare fun c hc => ?_
  have hmem : c ∈ Nat.toDigits 10 n := by simpa using hc
  have hdigit : c.isDigit = true := Nat.isDigit_of_mem_toDigits (by decide) (by decide) hmem
  rcases isBare_or (c := c) with hbare | rfl | rfl | rfl | rfl
  · exact hbare
  all_goals exact absurd hdigit (by decide)

/-- A list of columns in parentheses, and the text behind it. -/
theorem columnList {columns : List String} {behind : String} (h : ∀ s ∈ columns, Inert s) (hbehind : Inert behind) :
    Inert ("(" ++ ", ".intercalate columns ++ behind) := by
  have hopen : Inert "(" := by decide
  have hnames : Inert (", ".intercalate columns) := Inert.intercalate (by decide) h
  exact (hopen.append hnames).append hbehind

theorem optionsText {leading : List String} (h : ∀ o ∈ leading, Inert o) : Inert (Clauses.optionsText leading) := by
  unfold Clauses.optionsText
  induction leading with
  | nil => exact Carries.empty
  | cons o leading ih =>
    rw [List.map_cons, String.join_cons]
    have hrest := ih fun p hp => h p (List.mem_cons_of_mem o hp)
    exact ((h o List.mem_cons_self).append (by decide)).append hrest

theorem options {options : List String} {o : Options} (h : Options.ofList options = .ok o) :
    Inert (Clauses.optionsText o.leading) ∧ ∀ s ∈ o.trailing, Inert s := by
  have hleading : ∀ s ∈ leadingOptions, Inert s := by decide
  have htrailing : ∀ s ∈ trailingOptions, Inert s := by decide
  unfold Options.ofList at h
  split at h
  · nomatch h
  · rw [← Except.ok.inj h]
    refine ⟨optionsText fun s hs => ?_, fun s hs => ?_⟩
    · exact hleading s (List.contains_iff_mem.1 (List.mem_filter.1 hs).2)
    · exact htrailing s (List.contains_iff_mem.1 (List.mem_filter.1 hs).2)

end Template.Inert

/-! ## Closed statements -/

/-- An argument, and whether what is compiled of it at a position is closed. -/
structure ClosedArg where
  arg : Arg
  closed : Position → Prop

/-- A nested statement: its alias, and whether what is compiled of it with or without that alias is closed. -/
structure ClosedQuery where
  aliasName : Option String
  closed : Bool → Prop

/-- The keyword NULL is closed. -/
def ClosedArg.null : ClosedArg :=
  ⟨.null, fun _ => True⟩

/-- A nested statement at a position. In source position its alias stands behind the parentheses. -/
def ClosedQuery.placed (q : ClosedQuery) : Position → Prop
  | .bare | .value => q.closed true
  | .source => q.closed false ∧ ∀ name ∈ q.aliasName, Inert name

/-- A condition whose template stands as it is has a closed template. A column that is only named may be any. -/
def Condition.Closed (w : Condition ClosedArg) : Prop :=
  (w.args = [] ∨ 0 < countMarkers w.template → Template.Closed w.template) ∧ ∀ a ∈ w.args, a.closed .value

/-- An inert name, or a closed derived table. -/
def TableRef.Closed : TableRef ClosedQuery → Prop
  | .name s => Inert s
  | .query q => q.closed false

/-- An inert text, or a closed argument. -/
def Projection.Closed : Projection ClosedArg → Prop
  | .column s => Inert s
  | .arg a => a.closed .source

/-- A join of a closed table on closed conditions. -/
def Join.Closed (j : Join ClosedArg ClosedQuery) : Prop :=
  (match j.table with
    | .name s => Inert s
    | .query q => q.placed .source) ∧ ∀ w ∈ j.conditions, w.Closed

/-- An inert term, or an inert column. -/
def Order.Closed : Order → Prop
  | .term s => Inert s
  | .field column _ => Inert column

/-- Assignments to inert columns of closed values. -/
def AssignmentsClosed (rules : PayloadRules) (row : Record ClosedArg) : Prop :=
  ∀ e ∈ row.entries ClosedArg.arg rules, Inert e.1 ∧ e.2.closed .value

/-- Inert columns and closed values. -/
def Payload.Closed (p : Payload ClosedArg) : Prop :=
  (∀ column ∈ p.columns, Inert column) ∧ ∀ group ∈ p.groups, ∀ a ∈ group, a.closed .value

namespace Clauses

/-- The head of a statement is closed besides its table. -/
def HeadClosed (c : Clauses ClosedArg ClosedQuery) : Prop :=
  match c.operation with
  | .select | .existence => ∀ p ∈ c.columns, p.Closed
  | .insert rows | .replace rows =>
    (Payload.ofRecords ClosedArg.arg ClosedArg.null (c.payloadRules false) rows).Closed
  | .update row => AssignmentsClosed (c.payloadRules false) row
  | .patch row => AssignmentsClosed (c.payloadRules true) row
  | .insertSelect source columns => source.closed true ∧ ∀ column ∈ columns, Inert column
  | .delete | .unset | .raw _ _ => True

/-- The alias that is written behind the head. -/
def headAlias (c : Clauses ClosedArg ClosedQuery) (withAlias : Bool) : Option String :=
  (if withAlias then c.aliasName else none).or
    (match c.table with
      | some (.query q) => q.aliasName
      | _ => none)

/-- A statement that is put together from clauses is closed. -/
structure PartsClosed (c : Clauses ClosedArg ClosedQuery) (withAlias : Bool) : Prop where
  table : ∀ t ∈ c.table, t.Closed
  head : c.HeadClosed
  named : ∀ name ∈ c.headAlias withAlias, Inert name
  duplicate : ∀ row ∈ c.duplicate, AssignmentsClosed { c.payloadRules false with omitted := [] } row
  unions : ∀ u ∈ c.unions, u.query.closed true
  joins : ∀ j ∈ c.joins, j.Closed
  wheres : ∀ w ∈ c.wheres, w.Closed
  havings : ∀ w ∈ c.havings, w.Closed
  orders : ∀ o ∈ c.orders, o.Closed
  groups : ∀ g ∈ c.groups, Inert g

/-- A statement is closed. Of a raw one only its template and its arguments are compiled. -/
def Closed (c : Clauses ClosedArg ClosedQuery) (withAlias : Bool) : Prop :=
  match c.operation with
  | .unset => True
  | .raw template args => Template.Closed template ∧ ∀ a ∈ args, a.closed .bare
  | _ => c.PartsClosed withAlias

end Clauses

mutual

/-- An argument with whether what is compiled of it is closed. -/
def Arg.closed : Arg → ClosedArg
  | .value v => ⟨.value v, fun _ => True⟩
  | .null => ClosedArg.null
  | .raw template args =>
    ⟨.raw template args, fun _ => Template.Closed template ∧ ∀ a ∈ mapMembers args fun a _ => a.closed, a.closed .bare⟩
  | .query s => ⟨.query s, s.closed.placed⟩
  | .ident name => ⟨.ident name, fun _ => True⟩
  | .seq items => ⟨.seq items, fun _ => True⟩
termination_by a => sizeOf a
decreasing_by all_goals (simp_all; try omega)

/-- A statement with whether what is compiled of it is closed. -/
def Statement.closed : Statement → ClosedQuery
  | .mk c => ⟨c.aliasName, (c.mapSmaller (fun a _ => a.closed) (fun q _ => q.closed)).Closed⟩
termination_by s => sizeOf s
decreasing_by all_goals (simp_all; try omega)

end

/-- What is compiled of a whole statement is closed. -/
def Statement.Closed (s : Statement) : Prop :=
  s.closed.closed true

theorem Arg.closed_raw (template : String) (args : List Arg) :
    (Arg.raw template args).closed =
      ⟨.raw template args, fun _ => Template.Closed template ∧ ∀ a ∈ args.map Arg.closed, a.closed .bare⟩ := by
  rw [Arg.closed, mapMembers_eq_map]

theorem Statement.closed_mk (c : Clauses Arg Statement) :
    (Statement.mk c).closed = ⟨c.aliasName, (c.map Arg.closed Statement.closed).Closed⟩ := by
  rw [Statement.closed, Clauses.mapSmaller_eq_map]

@[simp] theorem Arg.arg_closed (a : Arg) : a.closed.arg = a := by
  cases a <;> simp [Arg.closed, ClosedArg.null]

/-! ## Renderings with as many placeholders as values -/

/-- The text has one placeholder for each value, no escape, and ends outside quoted text. -/
def Rendering.Marked (r : Rendering) : Prop :=
  ∀ ps, r = .ok ps → Carries (valuesOf ps).length (sqlOf ps)

namespace Rendering.Marked

variable {a b r : Rendering} {s : String}

theorem error (e : SqlError) : Marked (.error e) :=
  fun _ h => nomatch h

theorem nil : Marked (.ok []) := by
  rintro ps h
  obtain rfl := Except.ok.inj h
  exact Carries.empty

theorem text (hs : Inert s) : Marked (text s) := by
  rintro ps h
  obtain rfl := Except.ok.inj h
  rw [sqlOf_text]
  exact hs

theorem value (v : Value) : Marked (value v) := by
  rintro ps h
  obtain rfl := Except.ok.inj h
  rw [sqlOf_value, valuesOf_value]
  exact Carries.mark

/-- What succeeds of two renderings behind each other. -/
theorem exists_of_append {ps : List Piece} (h : a ++ b = .ok ps) :
    ∃ qs rs, a = .ok qs ∧ b = .ok rs ∧ ps = qs ++ rs := by
  cases a with
  | error e => nomatch h
  | ok qs =>
    cases b with
    | error e => nomatch h
    | ok rs => exact ⟨qs, rs, rfl, rfl, (Except.ok.inj h).symm⟩

theorem text_append (hs : Inert s) (h : Marked r) : Marked (Rendering.text s ++ r) := by
  rintro ps hps
  obtain ⟨qs, rs, hq, hr, rfl⟩ := exists_of_append hps
  obtain rfl := Except.ok.inj hq
  rw [sqlOf_append, valuesOf_append]
  simpa using Carries.inert_append hs (h rs hr)

theorem append_text (h : Marked r) (hs : Inert s) : Marked (r ++ Rendering.text s) := by
  rintro ps hps
  obtain ⟨qs, rs, hq, hr, rfl⟩ := exists_of_append hps
  obtain rfl := Except.ok.inj hr
  rw [sqlOf_append, valuesOf_append]
  simpa using (h qs hq).append_inert hs

/-- Two renderings with an inert text between them. -/
theorem append_between (ha : Marked a) (hs : Inert s) (hne : s ≠ "") (hb : Marked b) :
    Marked (a ++ (Rendering.text s ++ b)) := by
  rintro ps hps
  obtain ⟨qs, rs, hq, hr, rfl⟩ := exists_of_append hps
  obtain ⟨ts, us, ht, hu, rfl⟩ := exists_of_append hr
  obtain rfl := Except.ok.inj ht
  rw [sqlOf_append, sqlOf_append, valuesOf_append, valuesOf_append]
  simpa using (ha qs hq).append_between hs hne (hb us hu)

theorem bind {β : Type} {x : Except SqlError β} {k : β → Rendering} (h : ∀ b, x = .ok b → Marked (k b)) :
    Marked (x.bind k) := by
  cases x with
  | error e => exact error e
  | ok b => exact h b rfl

theorem join {separator : String} (hs : Inert separator) (hne : separator ≠ "") {rs : List Rendering}
    (h : ∀ r ∈ rs, Marked r) : Marked (join separator rs) := by
  induction rs with
  | nil => exact nil
  | cons r rs ih =>
    have hr := h r List.mem_cons_self
    cases rs with
    | nil => exact hr
    | cons t rs =>
      have hrest := ih fun u hu => h u (List.mem_cons_of_mem r hu)
      exact hr.append_between hs hne hrest

/-- Renderings with commas between them. -/
theorem commas {rs : List Rendering} (h : ∀ r ∈ rs, Marked r) : Marked (Rendering.join ", " rs) :=
  join (by decide) (by decide) h

/-- A rendering in parentheses. -/
theorem parenthesized (h : Marked r) : Marked (Rendering.text "(" ++ (r ++ Rendering.text ")")) :=
  text_append (by decide) (h.append_text (by decide))

/-- A row of renderings, each with its own text in front. -/
theorem append_concat {β : Type} {before : β → String} {f : β → Rendering} {xs : List β} (ha : Marked a)
    (h : ∀ x ∈ xs, Inert (before x) ∧ before x ≠ "" ∧ Marked (f x)) :
    Marked (a ++ concat (xs.map fun x => Rendering.text (before x) ++ f x)) := by
  induction xs generalizing a with
  | nil => exact (Rendering.append_nil a).symm ▸ ha
  | cons x xs ih =>
    obtain ⟨hs, hne, hx⟩ := h x List.mem_cons_self
    have hfirst := ha.append_between hs hne hx
    have hrest := ih hfirst fun y hy => h y (List.mem_cons_of_mem x hy)
    rw [Rendering.append_assoc] at hrest
    exact hrest

end Rendering.Marked

/-! ## Parts with as many placeholders as values -/

/-- An argument with its pieces, which are marked where it is closed. -/
structure MarkedArg where
  rendered : RenderedArg
  closed : Position → Prop
  marked : ∀ position context, closed position → (rendered.pieces position context).Marked

/-- A nested statement with its pieces, which are marked where it is closed. -/
structure MarkedQuery where
  rendered : RenderedQuery
  closed : Bool → Prop
  marked : ∀ withAlias, closed withAlias → (rendered.pieces withAlias).Marked

/-- The argument and where it is closed. -/
def MarkedArg.judged (a : MarkedArg) : ClosedArg :=
  ⟨a.rendered.arg, a.closed⟩

/-- The alias and where the statement is closed. -/
def MarkedQuery.judged (q : MarkedQuery) : ClosedQuery :=
  ⟨q.rendered.aliasName, q.closed⟩

/-- The keyword NULL is marked. -/
def MarkedArg.null : MarkedArg :=
  ⟨RenderedArg.null, fun _ => True, fun _ _ _ => Marked.text (by decide)⟩

theorem MarkedQuery.derived_marked (q : MarkedQuery) (h : q.closed false) : q.rendered.derived.Marked :=
  (q.marked false h).parenthesized

theorem MarkedQuery.placed_marked (q : MarkedQuery) (position : Position) (h : q.judged.placed position) :
    (q.rendered.placed position).Marked := by
  cases position with
  | bare => exact q.marked true h
  | value => exact (q.marked true h).parenthesized
  | source =>
    obtain ⟨hclosed, hname⟩ := h
    have hbehind : Inert (")" ++ (q.rendered.aliasName.map (" AS " ++ ·)).getD "") := by
      refine Inert.append (by decide) ?_
      cases hn : q.rendered.aliasName with
      | none => exact Carries.empty
      | some name => exact Inert.append (by decide) (hname name hn)
    exact Marked.text_append (by decide) (Marked.append_text (q.marked false hclosed) hbehind)

/-! ## Templates and conditions -/

namespace Template

theorem inert_of_identifier {template : String} {a : Arg} {ps : List Piece} (h : identifier template a = .ok ps) :
    ∃ name, ps = [.text name] ∧ Inert name := by
  obtain ⟨name, hname, rfl⟩ := Ident.ok_of_map h
  refine ⟨name, rfl, ?_⟩
  unfold escapeText at hname
  split at hname
  · exact Inert.quoteIdent hname
  · nomatch hname

/-- What stands behind a placeholder does not start with a question mark. -/
theorem head?_filled_ne_mark {template : String} {position : Position} {segs : List Segment} {os : List RenderedArg}
    {ps : List Piece} (hsegs : Lexed .outside segs) (hhead : ∀ s ∈ segs.head?, s.isMarker = false)
    (h : concat (filled template position segs os) = .ok ps) : (sqlOf ps).toList.head? ≠ some '?' := by
  cases segs with
  | nil =>
    obtain rfl : [] = ps := by cases os <;> exact Except.ok.inj h
    simp [sqlOf]
  | cons s segs =>
    cases s with
    | escape => cases hhead _ rfl
    | placeholder => cases hhead _ rfl
    | text cs =>
      obtain ⟨hne, hquiet, -⟩ := hsegs
      obtain ⟨qs, rs, hq, -, rfl⟩ := Marked.exists_of_append h
      obtain rfl := Except.ok.inj hq
      obtain ⟨c, cs, rfl⟩ := List.exists_cons_of_ne_nil hne
      rw [sqlOf_append, sqlOf_text, String.toList_append, String.toList_ofList]
      exact fun hc => ne_mark_of_quiet hquiet rfl (Option.some.inj hc)

/-- The segments of a closed template with the pieces of its arguments in place. -/
theorem filled_carries (template : String) (position : Position) :
    ∀ (segs : List Segment) (os : List MarkedArg) (q : Quoting) (ps : List Piece), Lexed q segs →
      segs.countP Segment.isMarker = os.length → (∀ o ∈ os, o.closed position) →
      concat (filled template position segs (os.map MarkedArg.rendered)) = .ok ps →
      CarriesFrom q (valuesOf ps).length (sqlOf ps).toList
  -- on the segments; the quoting behind each and the arguments left go along
  | [], os, q, ps, hsegs, _, _, h => by
    obtain rfl : [] = ps := by cases os <;> exact Except.ok.inj h
    obtain rfl : q = .outside := hsegs
    exact CarriesFrom.nil
  | .text cs :: segs, os, q, ps, hsegs, hlen, hos, h => by
    obtain ⟨-, hquiet, hrest⟩ := hsegs
    obtain ⟨qs, rs, hq, hr, rfl⟩ := Marked.exists_of_append h
    obtain rfl := Except.ok.inj hq
    have ih := filled_carries template position segs os _ rs hrest (by simpa [List.countP_cons] using hlen) hos hr
    rw [sqlOf_append, valuesOf_append, sqlOf_text, valuesOf_text, String.toList_append, String.toList_ofList]
    exact CarriesFrom.quiet_append hquiet ih
  | .escape :: segs, [], _, _, _, hlen, _, _ => by simp at hlen
  | .placeholder :: segs, [], _, _, _, hlen, _, _ => by simp at hlen
  | .escape :: segs, o :: os, q, ps, hsegs, hlen, hos, h => by
    obtain ⟨rfl, hrest⟩ := hsegs
    obtain ⟨qs, rs, hq, hr, rfl⟩ := Marked.exists_of_append h
    obtain ⟨name, rfl, hname⟩ := inert_of_identifier hq
    have ih := filled_carries template position segs os _ rs hrest (by simpa [List.countP_cons] using hlen)
      (fun p hp => hos p (List.mem_cons_of_mem o hp)) hr
    rw [sqlOf_append, valuesOf_append, sqlOf_text, valuesOf_text, String.toList_append]
    exact CarriesFrom.quiet_append hname.markers (hname.outside.symm ▸ ih)
  | .placeholder :: segs, o :: os, q, ps, hsegs, hlen, hos, h => by
    obtain ⟨rfl, hhead, hrest⟩ := hsegs
    obtain ⟨qs, rs, hq, hr, rfl⟩ := Marked.exists_of_append h
    have ho := o.marked position template (hos o List.mem_cons_self) qs hq
    have ih := filled_carries template position segs os _ rs hrest (by simpa [List.countP_cons] using hlen)
      (fun p hp => hos p (List.mem_cons_of_mem o hp)) hr
    rw [sqlOf_append, valuesOf_append, String.toList_append, List.length_append]
    -- what follows does not start with a question mark, so the seam makes no escape
    exact CarriesFrom.append ho ih (head?_filled_ne_mark hrest hhead hr)

theorem pieces_marked (template : String) (os : List MarkedArg) (position : Position)
    (h : countMarkers template = os.length → Closed template) (hos : ∀ o ∈ os, o.closed position) :
    (pieces template (os.map MarkedArg.rendered) position).Marked := by
  unfold pieces
  simp only [List.length_map]
  split_ifs with hcount hzero
  · exact Marked.error _
  · exact Marked.text (inert_iff.2 ⟨hzero, h (not_not.1 hcount)⟩)
  · have hlen : countMarkers template = os.length := not_not.1 hcount
    refine Marked.bind fun _ _ ps hps => ?_
    exact filled_carries template position _ os .outside ps (lexed_segmentsFrom .outside _ (h hlen)) hlen hos hps

end Template

namespace Condition

theorem pieces_marked (w : Condition MarkedArg) (h : (w.map MarkedArg.judged).Closed) :
    (w.map MarkedArg.rendered).pieces.Marked := by
  obtain ⟨htemplate, hargs⟩ := h
  unfold pieces
  rw [Condition.map_map]
  refine Marked.bind fun shape hs => ?_
  have hdrop : (w.map MarkedArg.rendered).args.drop shape.used =
      (w.args.drop shape.used).map MarkedArg.rendered := List.map_drop.symm
  rw [hdrop]
  refine Template.pieces_marked shape.template _ .value (fun hlen => ?_) fun o ho =>
    hargs o.judged (List.mem_map_of_mem (List.mem_of_mem_drop ho))
  rcases shape_cases hs with ⟨hasis, rfl⟩ | ⟨hleft, ⟨n, hcarries⟩ | hzero⟩
  · exact htemplate (by simpa [Condition.map] using hasis)
  · exact hcarries.outside
  · -- open back-ticks hide all markers, but there are arguments left
    have hused : w.args.length ≤ shape.used := by
      rw [hzero, List.length_drop] at hlen
      omega
    exact absurd (by simpa [Condition.map] using hused) hleft

theorem allPieces_marked (ws : List (Condition MarkedArg)) (h : ∀ w ∈ ws.map (Condition.map MarkedArg.judged), w.Closed) :
    (allPieces (ws.map (Condition.map MarkedArg.rendered))).Marked := by
  cases ws with
  | nil => exact Marked.nil
  | cons w ws =>
    have hw := pieces_marked w (h _ List.mem_cons_self)
    refine Marked.append_concat hw fun v hv => ?_
    obtain ⟨u, hu, rfl⟩ := List.mem_map.1 hv
    refine ⟨?_, ?_, pieces_marked u (h _ (List.mem_cons_of_mem _ (List.mem_map_of_mem hu)))⟩
    · cases hc : (u.map MarkedArg.rendered).connector <;> decide
    · cases hc : (u.map MarkedArg.rendered).connector <;> decide

end Condition

/-! ## Clauses -/

namespace Clauses

variable (c : Clauses MarkedArg MarkedQuery)

/-- The pieces of all parts. -/
def markedPieces : Clauses RenderedArg RenderedQuery :=
  c.map MarkedArg.rendered MarkedQuery.rendered

/-- Where all parts are closed. -/
def judged : Clauses ClosedArg ClosedQuery :=
  c.map MarkedArg.judged MarkedQuery.judged

theorem tablePieces_marked (h : ∀ t ∈ c.judged.table, t.Closed) : c.markedPieces.tablePieces.Marked := by
  have hr : c.markedPieces.table = c.table.map (TableRef.map MarkedQuery.rendered) := rfl
  have hc : c.judged.table = c.table.map (TableRef.map MarkedQuery.judged) := rfl
  unfold tablePieces
  rw [hr]
  rw [hc] at h
  generalize c.table = table at h
  obtain _ | s | q := table
  · exact Marked.error _
  · exact Marked.text (h (.name s) rfl)
  · exact q.derived_marked (h (.query q.judged) rfl)

theorem projectionPieces_marked (p : Projection MarkedArg) (h : (p.map MarkedArg.judged).Closed) :
    (projectionPieces (p.map MarkedArg.rendered)).Marked := by
  cases p with
  | column s => exact Marked.text h
  | arg a => exact a.marked .source "SELECT" h

theorem projection_marked (ps : List (Projection MarkedArg))
    (h : ∀ p ∈ ps.map (Projection.map MarkedArg.judged), p.Closed) :
    (if (ps.map (Projection.map MarkedArg.rendered)).isEmpty then text "*"
      else join ", " ((ps.map (Projection.map MarkedArg.rendered)).map projectionPieces)).Marked := by
  split_ifs
  · exact Marked.text (by decide)
  · refine Marked.commas fun r hr => ?_
    rw [List.map_map] at hr
    obtain ⟨p, hp, rfl⟩ := List.mem_map.1 hr
    exact projectionPieces_marked p (h _ (List.mem_map_of_mem hp))

theorem groupPieces_marked (group : List MarkedArg) (h : ∀ a ∈ group.map MarkedArg.judged, a.closed .value) :
    (groupPieces (group.map MarkedArg.rendered)).Marked := by
  have hvalues : (join ", " ((group.map MarkedArg.rendered).map fun a => a.pieces .value "VALUES")).Marked := by
    refine Marked.commas fun r hr => ?_
    rw [List.map_map] at hr
    obtain ⟨a, ha, rfl⟩ := List.mem_map.1 hr
    exact a.marked .value "VALUES" (h _ (List.mem_map_of_mem ha))
  exact hvalues.parenthesized

theorem valuesPieces_marked (rows : List (Record MarkedArg))
    (h : (Payload.ofRecords ClosedArg.arg ClosedArg.null (c.payloadRules false)
      (rows.map (Record.map MarkedArg.judged))).Closed) :
    (c.markedPieces.valuesPieces (rows.map (Record.map MarkedArg.rendered))).Marked := by
  have hr : RenderedArg.null = MarkedArg.rendered MarkedArg.null := rfl
  have hc : ClosedArg.null = MarkedArg.judged MarkedArg.null := rfl
  have hrules : c.markedPieces.payloadRules false = c.payloadRules false := rfl
  have harg : ClosedArg.arg ∘ MarkedArg.judged = RenderedArg.arg ∘ MarkedArg.rendered := rfl
  rw [hc, Payload.ofRecords_map, harg] at h
  unfold valuesPieces
  rw [hr, hrules, Payload.ofRecords_map]
  generalize Payload.ofRecords _ _ _ rows = payload at h
  obtain ⟨hcolumns, hgroups⟩ := h
  have hlist : Inert ("(" ++ ", ".intercalate payload.columns ++ ") VALUES ") :=
    Inert.columnList hcolumns (by decide)
  refine Marked.text_append hlist (Marked.commas fun r hmem => ?_)
  -- without any group, `()` stands for the rows
  split_ifs at hmem
  · obtain rfl := List.mem_singleton.1 hmem
    exact Marked.text (by decide)
  · obtain ⟨g, hg, rfl⟩ := List.mem_map.1 hmem
    obtain ⟨group, hgroup, rfl⟩ := List.mem_map.1 hg
    exact groupPieces_marked group (hgroups _ (List.mem_map_of_mem hgroup))

theorem assignmentsPieces_marked (rules : PayloadRules) (context : String) (row : Record MarkedArg)
    (h : AssignmentsClosed rules (row.map MarkedArg.judged)) :
    (c.markedPieces.assignmentsPieces rules context (row.map MarkedArg.rendered)).Marked := by
  have harg : ClosedArg.arg ∘ MarkedArg.judged = RenderedArg.arg ∘ MarkedArg.rendered := rfl
  unfold AssignmentsClosed at h
  rw [Record.entries_map, harg] at h
  unfold assignmentsPieces
  rw [Record.entries_map]
  simp only
  split_ifs
  · exact Marked.error _
  · refine Marked.commas fun r hr => ?_
    rw [List.map_map] at hr
    obtain ⟨e, he, rfl⟩ := List.mem_map.1 hr
    obtain ⟨hcolumn, hvalue⟩ := h _ (List.mem_map_of_mem he)
    exact Marked.text_append (Inert.append hcolumn (by decide)) (e.2.marked .value context hvalue)

theorem headPieces_marked (leading : List String) (hleading : Inert (optionsText leading))
    (htable : ∀ t ∈ c.judged.table, t.Closed) (h : c.judged.HeadClosed) :
    (c.markedPieces.headPieces leading).Marked := by
  have hr : c.markedPieces.operation = c.operation.map MarkedArg.rendered MarkedQuery.rendered := rfl
  have hc : c.judged.operation = c.operation.map MarkedArg.judged MarkedQuery.judged := rfl
  have ht := c.tablePieces_marked htable
  have hverb : ∀ verb keyword : String, Inert verb → Inert keyword →
      Inert (verb ++ optionsText leading ++ keyword) := fun verb keyword hv hk => (Inert.append hv hleading).append hk
  unfold HeadClosed at h
  unfold headPieces
  rw [hr]
  rw [hc] at h
  -- words without markers around the table and around what the operation is given
  cases hop : c.operation with
  | select =>
    rw [hop] at h
    exact Marked.text_append (Inert.append (by decide) hleading)
      (Marked.append_between (projection_marked c.columns h) (by decide) (by decide) ht)
  | insert rows =>
    rw [hop] at h
    exact Marked.text_append (hverb _ _ (by decide) (by decide))
      (Marked.append_between ht (by decide) (by decide) (c.valuesPieces_marked rows h))
  | replace rows =>
    rw [hop] at h
    exact Marked.text_append (hverb _ _ (by decide) (by decide))
      (Marked.append_between ht (by decide) (by decide) (c.valuesPieces_marked rows h))
  | update row =>
    rw [hop] at h
    exact Marked.text_append (Inert.append (by decide) hleading)
      (Marked.append_between ht (by decide) (by decide) (c.assignmentsPieces_marked _ "SET" row h))
  | patch row =>
    rw [hop] at h
    exact Marked.text_append (Inert.append (by decide) hleading)
      (Marked.append_between ht (by decide) (by decide) (c.assignmentsPieces_marked _ "SET" row h))
  | delete => exact Marked.text_append (hverb _ _ (by decide) (by decide)) ht
  | insertSelect source columns =>
    rw [hop] at h
    obtain ⟨hsource, hcolumns⟩ := h
    have hlist : Inert (" " ++ if columns.isEmpty then "" else "(" ++ ", ".intercalate columns ++ ") ") := by
      refine Inert.append (by decide) ?_
      split_ifs
      · exact Carries.empty
      · exact Inert.columnList hcolumns (by decide)
    -- the blank keeps the table and the source apart even when no columns are named
    have hne : (" " ++ if columns.isEmpty then "" else "(" ++ ", ".intercalate columns ++ ") ") ≠ "" := fun he =>
      absurd (String.append_eq_empty_iff.1 he).1 (by decide)
    exact Marked.text_append (hverb _ _ (by decide) (by decide))
      (Marked.append_between ht hlist hne (source.marked true hsource))
  | unset => exact Marked.error _
  | existence => exact Marked.error _
  | raw template args => exact Marked.error _

theorem aliasPieces_marked (withAlias : Bool) (h : ∀ name ∈ c.judged.headAlias withAlias, Inert name) :
    ∀ r ∈ c.markedPieces.aliasPieces withAlias, r.Marked := by
  have hr : c.markedPieces.table = c.table.map (TableRef.map MarkedQuery.rendered) := rfl
  have hc : c.judged.table = c.table.map (TableRef.map MarkedQuery.judged) := rfl
  have halias : c.markedPieces.aliasPieces withAlias =
      ((c.judged.headAlias withAlias).map fun name => text ("AS " ++ name)).toList := by
    unfold aliasPieces headAlias
    rw [hr, hc]
    obtain _ | s | q := c.table <;> rfl
  intro r hmem
  rw [halias] at hmem
  cases hname : c.judged.headAlias withAlias with
  | none => simp [hname] at hmem
  | some name =>
    obtain rfl : r = text ("AS " ++ name) := by simpa [hname] using hmem
    exact Marked.text (Inert.append (by decide) (h name hname))

theorem duplicatePieces_marked
    (h : ∀ row ∈ c.judged.duplicate, AssignmentsClosed { c.judged.payloadRules false with omitted := [] } row) :
    ∀ r ∈ c.markedPieces.duplicatePieces, r.Marked := by
  have hr : c.markedPieces.duplicate = c.duplicate.map (Record.map MarkedArg.rendered) := rfl
  have hc : c.judged.duplicate = c.duplicate.map (Record.map MarkedArg.judged) := rfl
  intro r hmem
  unfold duplicatePieces at hmem
  rw [hr] at hmem
  rw [hc] at h
  generalize c.duplicate = duplicate at h hmem
  cases duplicate with
  | none => exact nomatch hmem
  | some row =>
    obtain rfl := List.mem_singleton.1 hmem
    exact Marked.text_append (by decide) (c.assignmentsPieces_marked _ "ON DUPLICATE" row (h _ rfl))

theorem unionPieces_marked (u : Union MarkedQuery) (h : u.query.closed true) :
    (unionPieces (u.map MarkedQuery.rendered)).Marked := by
  refine Marked.text_append ?_ (u.query.marked true h)
  cases hu : (u.map MarkedQuery.rendered).all <;> decide

theorem joinPieces_marked (j : Join MarkedArg MarkedQuery) (h : (j.map MarkedArg.judged MarkedQuery.judged).Closed) :
    (joinPieces (j.map MarkedArg.rendered MarkedQuery.rendered)).Marked := by
  obtain ⟨kind, table, conditions⟩ := j
  obtain ⟨htable, hconditions⟩ := h
  have hkind : Inert (kind.sql ++ " ") := by cases kind <;> decide
  have hjoined : (joinedTablePieces (table.map MarkedQuery.rendered)).Marked := by
    cases table with
    | name s => exact Marked.text htable
    | query q => exact q.placed_marked .source htable
  refine Marked.text_append hkind ?_
  cases conditions with
  | nil => exact (Rendering.append_nil _).symm ▸ hjoined
  | cons w ws =>
    have hall := Condition.allPieces_marked (w :: ws) hconditions
    exact Marked.append_between hjoined (by decide) (by decide) (Marked.append_text hall (by decide))

theorem conditionsPieces_marked {keyword : String} (hkeyword : Inert (keyword ++ " ")) (ws : List (Condition MarkedArg))
    (h : ∀ w ∈ ws.map (Condition.map MarkedArg.judged), w.Closed) :
    ∀ r ∈ conditionsPieces keyword (ws.map (Condition.map MarkedArg.rendered)), r.Marked := by
  intro r hmem
  unfold conditionsPieces at hmem
  split_ifs at hmem
  · nomatch hmem
  · obtain rfl := List.mem_singleton.1 hmem
    exact Marked.text_append hkeyword (Condition.allPieces_marked ws h)

theorem orderPieces_marked (o : Order) (h : o.Closed) : (orderPieces o).Marked := by
  cases o with
  | term s => exact Marked.text h
  | field column values =>
    simp only [orderPieces]
    split_ifs
    · exact Marked.error _
    · have hlist : (join ", " (text column :: values.map value)).Marked := by
        refine Marked.commas fun r hr => ?_
        rcases List.mem_cons.1 hr with rfl | hr
        · exact Marked.text h
        · obtain ⟨v, -, rfl⟩ := List.mem_map.1 hr
          exact Marked.value v
      exact Marked.text_append (by decide) (Marked.append_text hlist (by decide))

theorem ordersPieces_marked (os : List Order) (h : ∀ o ∈ os, o.Closed) : ∀ r ∈ ordersPieces os, r.Marked := by
  intro r hmem
  unfold ordersPieces at hmem
  split_ifs at hmem
  · nomatch hmem
  · obtain rfl := List.mem_singleton.1 hmem
    refine Marked.text_append (by decide) (Marked.commas fun s hs => ?_)
    obtain ⟨o, ho, rfl⟩ := List.mem_map.1 hs
    exact orderPieces_marked o (h o ho)

theorem inert_of_groupClause {s : String} (h : ∀ g ∈ c.groups, Inert g) (hs : s ∈ c.groupClause) : Inert s := by
  unfold groupClause at hs
  split_ifs at hs
  · nomatch hs
  · obtain rfl := List.mem_singleton.1 hs
    exact Inert.append (by decide) (Inert.intercalate (by decide) h)

theorem inert_of_limitClause {s : String} (hs : s ∈ c.limitClause) : Inert s := by
  unfold limitClause at hs
  split at hs
  · nomatch hs
  · obtain rfl := List.mem_singleton.1 hs
    exact Inert.append (by decide) (Inert.toString _)
  · obtain rfl := List.mem_singleton.1 hs
    exact ((Inert.append (by decide) (Inert.toString _)).append (by decide)).append (Inert.toString _)
  · obtain rfl := List.mem_singleton.1 hs
    exact ((Inert.append (by decide) (Inert.toString _)).append (by decide)).append (Inert.toString _)

/-! ## Whole statements -/

theorem clausePieces_marked (withAlias : Bool) (h : c.judged.PartsClosed withAlias) :
    (c.markedPieces.clausePieces withAlias).Marked := by
  refine Marked.bind fun options ho => Marked.join (by decide) (by decide) fun r hr => ?_
  obtain ⟨hleading, htrailing⟩ := Inert.options ho
  simp only [parts, List.mem_append] at hr
  -- one case for each part, in the order in which the parts are written
  rcases hr with (((((((((hhead | halias) | hduplicate) | hunion) | hjoin) | hwhere) | hhaving) | horder) | hgroup) |
    hlimit) | hoption
  · obtain rfl := List.mem_singleton.1 hhead
    exact c.headPieces_marked options.leading hleading h.table h.head
  · exact c.aliasPieces_marked withAlias h.named r halias
  · exact c.duplicatePieces_marked h.duplicate r hduplicate
  · obtain ⟨u, hu, rfl⟩ := List.mem_map.1 hunion
    obtain ⟨v, hv, rfl⟩ := List.mem_map.1 hu
    exact unionPieces_marked v (h.unions _ (List.mem_map_of_mem hv))
  · obtain ⟨j, hj, rfl⟩ := List.mem_map.1 hjoin
    obtain ⟨k, hk, rfl⟩ := List.mem_map.1 hj
    exact joinPieces_marked k (h.joins _ (List.mem_map_of_mem hk))
  · exact conditionsPieces_marked (by decide) c.wheres h.wheres r hwhere
  · exact conditionsPieces_marked (by decide) c.havings h.havings r hhaving
  · exact ordersPieces_marked c.orders h.orders r horder
  · obtain ⟨s, hs, rfl⟩ := List.mem_map.1 hgroup
    exact Marked.text (c.inert_of_groupClause h.groups hs)
  · obtain ⟨s, hs, rfl⟩ := List.mem_map.1 hlimit
    exact Marked.text (c.inert_of_limitClause hs)
  · obtain ⟨s, hs, rfl⟩ := List.mem_map.1 hoption
    exact Marked.text (htrailing s hs)

theorem pieces_marked (withAlias : Bool) (h : c.judged.Closed withAlias) : (c.markedPieces.pieces withAlias).Marked := by
  have hr : c.markedPieces.operation = c.operation.map MarkedArg.rendered MarkedQuery.rendered := rfl
  have hc : c.judged.operation = c.operation.map MarkedArg.judged MarkedQuery.judged := rfl
  have hclauses := c.clausePieces_marked withAlias
  unfold Closed at h
  unfold pieces
  rw [hr]
  rw [hc] at h
  cases hop : c.operation with
  | unset => exact Marked.error _
  | raw template args =>
    rw [hop] at h
    obtain ⟨htemplate, hargs⟩ := h
    exact Template.pieces_marked template args .bare (fun _ => htemplate) fun a ha =>
      hargs a.judged (List.mem_map_of_mem ha)
  | existence =>
    rw [hop] at h
    -- it is compiled as a selection with the same clauses
    have hhead : ({ c with operation := .select } : Clauses MarkedArg MarkedQuery).judged.HeadClosed := by
      have hcolumns := h.head
      unfold HeadClosed at hcolumns
      rw [hc, hop] at hcolumns
      exact hcolumns
    have hselect := ({ c with operation := .select } : Clauses MarkedArg MarkedQuery).clausePieces_marked withAlias
      ⟨h.table, hhead, h.named, h.duplicate, h.unions, h.joins, h.wheres, h.havings, h.orders, h.groups⟩
    exact Marked.text_append (by decide) (Marked.append_text hselect (by decide))
  | _ =>
    rw [hop] at h
    exact hclauses h

end Clauses

/-! ## All arguments and statements -/

theorem sequencePieces_marked (context : String) (items : List Value) : (sequencePieces context items).Marked := by
  unfold sequencePieces
  split_ifs
  · exact Marked.error _
  · have hlist : (join ", " (items.map value)).Marked := by
      refine Marked.commas fun r hr => ?_
      obtain ⟨v, -, rfl⟩ := List.mem_map.1 hr
      exact Marked.value v
    exact hlist.parenthesized

/-- An argument that is marked where it is closed. -/
def MarkedArg.ofArg (a : {a : Arg // ∀ position context, a.closed.closed position →
    (a.rendered.pieces position context).Marked}) : MarkedArg :=
  ⟨a.1.rendered, a.1.closed.closed, a.2⟩

theorem MarkedArg.judged_comp_ofArg : MarkedArg.judged ∘ ofArg = Arg.closed ∘ Subtype.val := by
  funext a
  have harg : a.1.closed.arg = a.1.rendered.arg := by rw [Arg.arg_closed, Arg.arg_rendered]
  show ClosedArg.mk a.1.rendered.arg a.1.closed.closed = a.1.closed
  rw [← harg]

theorem Statement.aliasName_closed (s : Statement) : s.closed.aliasName = s.rendered.aliasName := by
  obtain ⟨c⟩ := s
  rw [Statement.closed_mk, Statement.rendered_mk]

/-- A statement that is marked where it is closed. -/
def MarkedQuery.ofStatement (s : {s : Statement // ∀ withAlias, s.closed.closed withAlias →
    (s.rendered.pieces withAlias).Marked}) : MarkedQuery :=
  ⟨s.1.rendered, s.1.closed.closed, s.2⟩

theorem MarkedQuery.judged_comp_ofStatement :
    MarkedQuery.judged ∘ ofStatement = Statement.closed ∘ Subtype.val := by
  funext s
  show ClosedQuery.mk s.1.rendered.aliasName s.1.closed.closed = s.1.closed
  rw [← Statement.aliasName_closed]

/-- Every closed argument and every closed statement is marked. -/
theorem rendered_marked :
    (∀ a : Arg, ∀ position context, a.closed.closed position → (a.rendered.pieces position context).Marked) ∧
      ∀ s : Statement, ∀ withAlias, s.closed.closed withAlias → (s.rendered.pieces withAlias).Marked := by
  -- arguments hold statements and statements hold arguments, so both at once
  apply nested_induction
  case value =>
    intro v _ _ _
    rw [Arg.rendered]
    exact Marked.value v
  case null =>
    intro _ _ _
    rw [Arg.rendered]
    exact Marked.text (by decide)
  case ident =>
    intro name _ _ _
    rw [Arg.rendered]
    rintro ps hps
    obtain ⟨sql, hsql, rfl⟩ := Ident.ok_of_map hps
    exact Marked.text (Inert.quoteIdent hsql) _ rfl
  case seq =>
    intro items _ context _
    rw [Arg.rendered]
    exact sequencePieces_marked context items
  case query =>
    intro s hs position context h
    rw [Arg.closed] at h
    rw [Arg.rendered]
    have hplaced := MarkedQuery.placed_marked (MarkedQuery.ofStatement ⟨s, hs⟩) position
    rw [show (MarkedQuery.ofStatement ⟨s, hs⟩).judged = s.closed from
      congrFun MarkedQuery.judged_comp_ofStatement ⟨s, hs⟩] at hplaced
    exact hplaced h
  case raw =>
    intro template args _ _ h
    rw [Arg.closed_raw, List.map_map, ← MarkedArg.judged_comp_ofArg, ← List.map_map] at h
    rw [Arg.rendered_raw, List.map_map]
    obtain ⟨htemplate, hargs⟩ := h
    have hpieces := Template.pieces_marked template (args.map MarkedArg.ofArg) .bare (fun _ => htemplate) fun o ho =>
      hargs o.judged (List.mem_map_of_mem ho)
    rw [List.map_map] at hpieces
    exact hpieces
  case mk =>
    intro c withAlias h
    rw [Statement.closed_mk, Clauses.map_map, ← MarkedArg.judged_comp_ofArg,
      ← MarkedQuery.judged_comp_ofStatement] at h
    have hpieces := (c.map MarkedArg.ofArg MarkedQuery.ofStatement).pieces_marked withAlias
    rw [Clauses.markedPieces, Clauses.judged, Clauses.map_map, Clauses.map_map] at hpieces
    rw [Statement.rendered_mk, Clauses.map_map]
    exact hpieces h

/-! ## Building -/

/-- **The markers of a finished text.** Where what is compiled is closed, the text has no escape, and one placeholder
for each bound value. -/
theorem build_markers {s : Statement} (hs : s.Closed) {q : BuiltQuery} (h : s.build = .ok q) :
    Segment.escape ∉ segments q.sql ∧ (segments q.sql).count .placeholder = q.params.length := by
  have hbuild : s.build = (s.rendered.pieces true).map BuiltQuery.ofPieces := s.standalone_eq true
  rw [hbuild] at h
  obtain ⟨ps, hps, rfl⟩ := Ident.ok_of_map h
  exact (rendered_marked.2 s true hs ps hps).segments_spec

/-- A selection of a column in back-ticks, by a template with a quoted question mark and by a column. -/
def selectQuoted (v w : Value) : Statement :=
  .mk { operation := .select, table := some (.name "users"), columns := [.column "`is?`"],
        wheres := [⟨.and, "note <> '?' OR id = ?", [.value v]⟩, ⟨.and, "age", [.value w]⟩] }

theorem selectQuoted_closed (v w : Value) : (selectQuoted v w).Closed := by
  have hvalue : ∀ u, (Arg.value u).closed = ⟨.value u, fun _ => True⟩ := fun u => by rw [Arg.closed]
  have htemplate : Template.Closed "note <> '?' OR id = ?" := by decide
  have hnote : Condition.Closed ⟨.and, "note <> '?' OR id = ?", [⟨.value v, fun _ => True⟩]⟩ :=
    ⟨fun _ => htemplate, by simp⟩
  have hunmarked : countMarkers "age" = 0 := by decide
  have hage : Condition.Closed ⟨.and, "age", [⟨.value w, fun _ => True⟩]⟩ :=
    ⟨by simp [hunmarked], by simp⟩
  have husers : Inert "users" := by decide
  have hcolumn : Inert "`is?`" := by decide
  unfold Statement.Closed selectQuoted
  rw [Statement.closed_mk]
  refine ⟨?_, ?_, ?_, ?_, ?_, ?_, ?_, ?_, ?_, ?_⟩ <;>
    simp [Clauses.map, Operation.map, Condition.map, Projection.map, TableRef.map, TableRef.Closed, Projection.Closed,
      Clauses.HeadClosed, Clauses.headAlias, hvalue, hnote, hage, husers, hcolumn]

theorem build_selectQuoted (v w : Value) : (selectQuoted v w).build =
    .ok ⟨"SELECT `is?` FROM users WHERE note <> '?' OR id = ? AND age = ?", [v, w]⟩ := by
  have hvalue : ∀ u, (Arg.value u).rendered = ⟨.value u, fun _ _ => value u⟩ := fun u => by rw [Arg.rendered]
  have hnote : Condition.pieces ⟨.and, "note <> '?' OR id = ?", [⟨.value v, fun _ _ => value v⟩]⟩ =
      .ok [.text "note <> '?' OR id = ", .value v] := by
    have hmarked : countMarkers "note <> '?' OR id = ?" = 1 := by decide
    simp only [Condition.pieces, Condition.shape, Condition.map, hmarked]
    rfl
  have hage : Condition.nextPieces ⟨.and, "age", [⟨.value w, fun _ _ => value w⟩]⟩ =
      .ok [.text " AND ", .text "age = ", .value w] := by
    have hunmarked : countMarkers "age" = 0 := by decide
    have htrim : Text.trim "age" = "age" := by decide
    have hcolumn : isColumnRef "age" = true := by decide
    simp only [Condition.nextPieces, Condition.pieces, Condition.shape, Condition.map, hunmarked, htrim, hcolumn]
    rfl
  have hbuild : (selectQuoted v w).build = _ := (selectQuoted v w).standalone_eq true
  rw [hbuild, selectQuoted, Statement.rendered_mk]
  simp only [Clauses.map, Operation.map, Projection.map, TableRef.map, Condition.map, hvalue, Clauses.pieces,
    Clauses.clausePieces, Clauses.parts, Clauses.conditionsPieces, Condition.allPieces, hnote, hage,
    Clauses.headPieces, concat, List.map_cons, List.map_nil, Option.map_some]
  rfl

/-- Quoted question marks are no markers; there is one placeholder for each of the two values. -/
theorem build_markers_selectQuoted :
    Segment.escape ∉ segments "SELECT `is?` FROM users WHERE note <> '?' OR id = ? AND age = ?" ∧
      (segments "SELECT `is?` FROM users WHERE note <> '?' OR id = ? AND age = ?").count .placeholder = 2 :=
  build_markers (selectQuoted_closed (.bool true) .null) (build_selectQuoted (.bool true) .null)

end FluentSql

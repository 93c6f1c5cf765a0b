import FluentSql.Proofs.Identifiers
import FluentSql.Proofs.Markers
import FluentSql.Proofs.Relexing
import FluentSql.Proofs.WellFormed

/-!
# FluentSql.Proofs.Substitution — arguments written into their templates

An argument that is text can be written into the template in place of its marker. The new template is scanned again, and
takes the arguments that are left.

* `EndsAlike`, `Rendering.SameEnd`: the same result, or the same kind of error.
* `Template.pieces_filled`: a template with its identifiers is its segments filled one by one. It does not matter how
  its texts are cut (`Template.filled_joined`), nor which text its errors name (`Arg.pieces_elsewhere`).
* `Template.IdentsFirst`: the segments of a template with all identifiers written, and the arguments that are left.
* `expand_identsFirst`: identifiers may be written first.
* `expand_inlined`: a raw expression may be written first, with its own arguments in place.
-/

namespace FluentSql

open Rendering

/-! ## Ends that are alike -/

/-- Both succeed with the same, or both fail with the same kind of error, whose texts may differ. -/
def EndsAlike {β : Type} : Except SqlError β → Except SqlError β → Prop
  | .ok b, .ok b' => b = b'
  | .error e, .error e' => e.ctorIdx = e'.ctorIdx
  | _, _ => False

namespace EndsAlike

variable {β : Type} {x y z : Except SqlError β}

theorem refl (x : Except SqlError β) : EndsAlike x x := by
  cases x <;> rfl

theorem symm (h : EndsAlike x y) : EndsAlike y x := by
  cases x <;> cases y <;> first | exact h.elim | exact Eq.symm h

theorem trans (hxy : EndsAlike x y) (hyz : EndsAlike y z) : EndsAlike x z := by
  cases x <;> cases y <;> cases z <;> first | exact hxy.elim | exact hyz.elim | exact Eq.trans hxy hyz

theorem eq_ok {b : β} (h : EndsAlike (.ok b) y) : y = .ok b := by
  cases y with
  | error e => exact h.elim
  | ok b' => exact congrArg Except.ok (Eq.symm h)

end EndsAlike

namespace Rendering

/-- Both give the same text with the same values, or fail with the same kind of error. -/
def SameEnd (r s : Rendering) : Prop :=
  EndsAlike (r.map BuiltQuery.ofPieces) (s.map BuiltQuery.ofPieces)

namespace SameEnd

variable {a b c a' b' : Rendering}

theorem refl (a : Rendering) : SameEnd a a :=
  EndsAlike.refl _

theorem symm (h : SameEnd a b) : SameEnd b a :=
  EndsAlike.symm h

theorem trans (hab : SameEnd a b) (hbc : SameEnd b c) : SameEnd a c :=
  EndsAlike.trans hab hbc

theorem error {e e' : SqlError} (h : e.ctorIdx = e'.ctorIdx) : SameEnd (.error e) (.error e') := h

theorem of_pieces {ps qs : List Piece} (hsql : sqlOf ps = sqlOf qs) (hvalues : valuesOf ps = valuesOf qs) :
    SameEnd (.ok ps) (.ok qs) := by
  show BuiltQuery.ofPieces ps = BuiltQuery.ofPieces qs
  rw [BuiltQuery.ofPieces, BuiltQuery.ofPieces, hsql, hvalues]

/-- Both succeed with the same text and the same values, or both fail. -/
theorem cases_on (h : SameEnd a b) :
    (∃ ps qs, a = .ok ps ∧ b = .ok qs ∧ sqlOf ps = sqlOf qs ∧ valuesOf ps = valuesOf qs) ∨
      ∃ e e', a = .error e ∧ b = .error e' ∧ e.ctorIdx = e'.ctorIdx := by
  cases a with
  | error e =>
    cases b with
    | error e' => exact .inr ⟨e, e', rfl, rfl, h⟩
    | ok qs => exact h.elim
  | ok ps =>
    cases b with
    | error e' => exact h.elim
    | ok qs =>
      have heq : BuiltQuery.ofPieces ps = BuiltQuery.ofPieces qs := h
      exact .inl ⟨ps, qs, rfl, rfl, congrArg BuiltQuery.sql heq, congrArg BuiltQuery.params heq⟩

theorem exists_ok {ps : List Piece} (h : SameEnd (.ok ps) b) : ∃ qs, b = .ok qs := by
  rcases h.cases_on with ⟨-, qs, -, hq, -⟩ | ⟨e, -, he, -⟩
  · exact ⟨qs, hq⟩
  · nomatch he

theorem append (ha : SameEnd a a') (hb : SameEnd b b') : SameEnd (a ++ b) (a' ++ b') := by
  rcases ha.cases_on with ⟨ps, qs, rfl, rfl, hsql, hvalues⟩ | ⟨e, e', rfl, rfl, he⟩
  · rcases hb.cases_on with ⟨ps', qs', rfl, rfl, hsql', hvalues'⟩ | ⟨e, e', rfl, rfl, he⟩
    · refine of_pieces ?_ ?_
      · rw [sqlOf_append, sqlOf_append, hsql, hsql']
      · rw [valuesOf_append, valuesOf_append, hvalues, hvalues']
    · exact error he
  · exact error he

/-- Two texts are one. -/
theorem text_append (s t : String) : SameEnd (text s ++ text t) (text (s ++ t)) := by
  refine of_pieces ?_ rfl
  rw [sqlOf_append, sqlOf_text, sqlOf_text, sqlOf_text]

/-- An empty text is nothing. -/
theorem empty_append (a : Rendering) : SameEnd (text "" ++ a) a := by
  cases a with
  | error e => exact refl _
  | ok ps => exact of_pieces (by rw [sqlOf_append, sqlOf_text, String.empty_append]) rfl

/-- What is written is alike, whatever is bound before. -/
theorem run_emit (h : SameEnd a b) (bound : List Value) : EndsAlike ((emit a).run bound) ((emit b).run bound) := by
  rcases h.cases_on with ⟨ps, qs, rfl, rfl, hsql, hvalues⟩ | ⟨e, e', rfl, rfl, he⟩
  · show (sqlOf ps, bound ++ valuesOf ps) = (sqlOf qs, bound ++ valuesOf qs)
    rw [hsql, hvalues]
  · exact he

end SameEnd
end Rendering

/-! ## Arguments elsewhere -/

/-- The template that an argument stands in is only named in errors, and the position decides on nested statements
only. -/
theorem Arg.pieces_elsewhere {position position' : Position} (a : Arg)
    (h : position = position' ∨ ∀ s, a ≠ .query s) (context context' : String) :
    SameEnd (a.rendered.pieces position context) (a.rendered.pieces position' context') := by
  cases a with
  | value v => simpa only [Arg.rendered] using SameEnd.refl (Rendering.value v)
  | null => simpa only [Arg.rendered, RenderedArg.null] using SameEnd.refl (text "NULL")
  | raw template args =>
    rw [Arg.rendered_raw]
    exact SameEnd.refl _
  | query s =>
    rcases h with rfl | h
    · simpa only [Arg.rendered] using SameEnd.refl (s.rendered.placed position)
    · exact absurd rfl (h s)
  | ident name =>
    simp only [Arg.rendered]
    exact SameEnd.refl _
  | seq items =>
    simp only [Arg.rendered, sequencePieces]
    split_ifs
    · exact SameEnd.error rfl
    · exact SameEnd.refl _

namespace Template

theorem identifier_elsewhere (template template' : String) (a : Arg) :
    SameEnd (identifier template a) (identifier template' a) := by
  unfold identifier escapeText
  split
  · exact SameEnd.refl _
  · exact SameEnd.error rfl

theorem identifier_error {template : String} {a : Arg} {e : SqlError} (h : identifier template a = .error e) :
    ∃ reason, e = .invalidIdentifier reason := by
  unfold identifier escapeText quoteIdent at h
  split at h
  · split at h
    · nomatch h
    · exact ⟨_, (Except.error.inj h).symm⟩
  · exact ⟨_, (Except.error.inj h).symm⟩

/-! ## Segments filled one by one -/

/-- Segments and their arguments behind each other are filled behind each other. -/
theorem filled_append (template : String) (position : Position) (more : List Segment) (rest : List RenderedArg) :
    ∀ (segs : List Segment) (os : List RenderedArg), segs.countP Segment.isMarker = os.length →
      filled template position (segs ++ more) (os ++ rest) =
        filled template position segs os ++ filled template position more rest
  | [], [], _ => rfl
  | [], _ :: _, h => by simp at h
  | .text cs :: segs, os, h => by
    have ih := filled_append template position more rest segs os (by simpa [List.countP_cons] using h)
    simpa [filled] using ih
  | .escape :: segs, [], h => by simp at h
  | .placeholder :: segs, [], h => by simp at h
  | .escape :: segs, o :: os, h => by
    have ih := filled_append template position more rest segs os (by simpa [List.countP_cons] using h)
    simpa [filled] using ih
  | .placeholder :: segs, o :: os, h => by
    have ih := filled_append template position more rest segs os (by simpa [List.countP_cons] using h)
    simpa [filled] using ih

/-- Segments in another template and at another position. -/
theorem filled_elsewhere {position position' : Position} (template template' : String) :
    ∀ (segs : List Segment) (args : List Arg), (position = position' ∨ ∀ s, .query s ∉ args) →
      SameEnd (concat (filled template position segs (args.map Arg.rendered)))
        (concat (filled template' position' segs (args.map Arg.rendered)))
  | [], args, _ => by cases args <;> exact SameEnd.refl _
  | .text cs :: segs, args, h => (SameEnd.refl _).append (filled_elsewhere template template' segs args h)
  | .escape :: _, [], _ => SameEnd.refl _
  | .placeholder :: _, [], _ => SameEnd.refl _
  | .escape :: segs, a :: args, h => by
    have hrest := filled_elsewhere template template' segs args
      (h.imp_right fun h s hs => h s (List.mem_cons_of_mem a hs))
    exact (identifier_elsewhere template template' a.rendered.arg).append hrest
  | .placeholder :: segs, a :: args, h => by
    have hrest := filled_elsewhere template template' segs args
      (h.imp_right fun h s hs => h s (List.mem_cons_of_mem a hs))
    exact (a.pieces_elsewhere (h.imp_right fun h s hs => h s (hs ▸ List.mem_cons_self)) template template').append hrest

/-- A character in front of segments is written in front of them. -/
theorem filled_consText (template : String) (position : Position) (c : Char) (segs : List Segment)
    (os : List RenderedArg) :
    SameEnd (concat (filled template position (consText c segs) os))
      (text (String.singleton c) ++ concat (filled template position segs os)) := by
  have hone (segs : List Segment) : concat (filled template position (.text [c] :: segs) os) =
      text (String.singleton c) ++ concat (filled template position segs os) := rfl
  cases segs with
  | nil => exact SameEnd.refl _
  | cons s segs =>
    cases s with
    | text cs =>
      show SameEnd (text (String.ofList (c :: cs)) ++ _) (text (String.singleton c) ++ (text (String.ofList cs) ++ _))
      rw [← append_assoc]
      rw [String.ofList_cons]
      exact (SameEnd.text_append _ _).symm.append (SameEnd.refl _)
    | escape => exact SameEnd.refl _
    | placeholder => exact SameEnd.refl _

/-- A text in front of segments, character by character. -/
theorem filled_foldr_consText (template : String) (position : Position) (cs : List Char) (segs : List Segment)
    (os : List RenderedArg) :
    SameEnd (concat (filled template position (cs.foldr consText segs) os))
      (text (String.ofList cs) ++ concat (filled template position segs os)) := by
  induction cs with
  | nil => exact (SameEnd.empty_append _).symm
  | cons c cs ih =>
    have hfirst := filled_consText template position c (cs.foldr consText segs) os
    have hall := hfirst.trans ((SameEnd.refl _).append ih)
    rw [← append_assoc] at hall
    rw [String.ofList_cons]
    exact hall.trans ((SameEnd.text_append _ _).append (SameEnd.refl _))

/-- Neighbouring texts may be made one. -/
theorem filled_joined (template : String) (position : Position) :
    ∀ (segs : List Segment) (os : List RenderedArg),
      SameEnd (concat (filled template position (joined segs) os)) (concat (filled template position segs os))
  | [], _ => SameEnd.refl _
  | .text cs :: segs, os => by
    have hrest := filled_joined template position segs os
    exact (filled_foldr_consText template position cs (joined segs) os).trans ((SameEnd.refl _).append hrest)
  | .escape :: _, [] => SameEnd.refl _
  | .placeholder :: _, [] => SameEnd.refl _
  | .escape :: segs, o :: os => (SameEnd.refl _).append (filled_joined template position segs os)
  | .placeholder :: segs, o :: os => (SameEnd.refl _).append (filled_joined template position segs os)

/-- Segments without markers are their text. -/
theorem filled_of_quiet (template : String) (position : Position) (os : List RenderedArg) :
    ∀ segs : List Segment, segs.countP Segment.isMarker = 0 →
      SameEnd (text (String.ofList (written segs))) (concat (filled template position segs os))
  | [], _ => by
    cases os <;> exact SameEnd.of_pieces (sqlOf_text "") rfl
  | .text cs :: segs, h => by
    have ih := filled_of_quiet template position os segs (by simpa [List.countP_cons] using h)
    rw [written_cons, Segment.chars, String.ofList_append]
    exact (SameEnd.text_append _ _).symm.trans ((SameEnd.refl _).append ih)
  | .escape :: segs, h => by simp at h
  | .placeholder :: segs, h => by simp at h

theorem identifiers_nil (template : String) (segs : List Segment) : identifiers template segs [] = [] := by
  induction segs with
  | nil => rfl
  | cons s segs ih => cases s <;> first | rfl | exact ih

/-- What identifiers are written for. -/
theorem identifiers_of_no_escape {template : String} {segs : List Segment} (os : List RenderedArg)
    (h : .escape ∉ segs) : identifiers template segs os = [] := by
  induction segs generalizing os with
  | nil => cases os <;> rfl
  | cons s segs ih =>
    obtain ⟨hne, hrest⟩ := not_or.1 (List.mem_cons.not.1 h)
    cases s with
    | text cs => exact ih os hrest
    | escape => exact absurd rfl hne
    | placeholder =>
      cases os with
      | nil => rfl
      | cons o os => exact ih os hrest

/-- Each identifier stands among the segments. -/
theorem identifiers_of_filled {template : String} {position : Position} :
    ∀ (segs : List Segment) (os : List RenderedArg) {ps : List Piece},
      concat (filled template position segs os) = .ok ps → ∃ ids, concat (identifiers template segs os) = .ok ids
  | [], os, _, _ => ⟨[], by cases os <;> rfl⟩
  | .text cs :: segs, os, ps, h => by
    obtain ⟨-, rs, -, hrs, -⟩ := Marked.exists_of_append h
    exact identifiers_of_filled segs os hrs
  | .escape :: _, [], _, _ => ⟨[], rfl⟩
  | .placeholder :: _, [], _, _ => ⟨[], rfl⟩
  | .escape :: segs, o :: os, ps, h => by
    obtain ⟨qs, rs, hq, hrs, -⟩ := Marked.exists_of_append h
    obtain ⟨ids, hids⟩ := identifiers_of_filled segs os hrs
    exact ⟨qs ++ ids, by rw [identifiers, concat, hq, hids]; rfl⟩
  | .placeholder :: segs, o :: os, ps, h => by
    obtain ⟨-, rs, -, hrs, -⟩ := Marked.exists_of_append h
    exact identifiers_of_filled segs os hrs

/-- With its identifiers, a template is its segments filled one by one. -/
theorem pieces_filled {template : String} {os : List RenderedArg} {ids : List Piece} (position : Position)
    (hlen : countMarkers template = os.length) (hids : concat (identifiers template (segments template) os) = .ok ids) :
    SameEnd (pieces template os position) (concat (filled template position (segments template) os)) := by
  unfold pieces
  rw [if_neg (not_not.2 hlen)]
  by_cases hzero : countMarkers template = 0
  · rw [if_pos hzero]
    have htext := filled_of_quiet template position os (segments template) hzero
    rwa [written_segments] at htext
  · rw [if_neg hzero, hids]
    exact SameEnd.refl _

/-- A template that is filled has an argument for each marker, and its identifiers are there. -/
theorem of_pieces_ok {template : String} {os : List RenderedArg} {position : Position} {ps : List Piece}
    (h : pieces template os position = .ok ps) :
    countMarkers template = os.length ∧ ∃ ids, concat (identifiers template (segments template) os) = .ok ids := by
  unfold pieces at h
  dsimp only at h
  split_ifs at h with hlen hzero
  · refine ⟨not_not.1 hlen, [], ?_⟩
    have hos : os = [] := List.length_eq_zero_iff.1 ((not_not.1 hlen).symm.trans hzero)
    rw [hos, identifiers_nil]
    rfl
  · refine ⟨not_not.1 hlen, ?_⟩
    cases hids : concat (identifiers template (segments template) os) with
    | error e =>
      rw [hids] at h
      nomatch h
    | ok ids => exact ⟨ids, rfl⟩

/-- Compiling a template is emitting its pieces. -/
theorem expand_args (template : String) (args : List Arg) (position : Position) :
    expand template (args.map Arg.operand) position = emit (pieces template (args.map Arg.rendered) position) := by
  rw [Arg.operand_comp, ← List.map_map, expand_operands]

/-- The segments of a template that is written from segments. -/
theorem segments_written {segs : List Segment} (h : Scanned .outside segs) :
    segments (String.ofList (written segs)) = joined segs := by
  rw [segments, String.toList_ofList, segmentsFrom_written h]

theorem countMarkers_written {segs : List Segment} (h : Scanned .outside segs) :
    countMarkers (String.ofList (written segs)) = segs.countP Segment.isMarker := by
  rw [countMarkers, segments_written h, List.countP_eq_length_filter, filter_joined, List.countP_eq_length_filter]

/-- Such a template is these segments filled one by one. -/
theorem pieces_written {segs : List Segment} {os : List RenderedArg} {ids : List Piece} (position : Position)
    (h : Scanned .outside segs) (hlen : segs.countP Segment.isMarker = os.length)
    (hids : concat (identifiers (String.ofList (written segs)) (joined segs) os) = .ok ids) :
    SameEnd (pieces (String.ofList (written segs)) os position)
      (concat (filled (String.ofList (written segs)) position segs os)) := by
  have hfilled := pieces_filled position ((countMarkers_written h).trans hlen) (segments_written h ▸ hids)
  rw [segments_written h] at hfilled
  exact hfilled.trans (filled_joined _ position segs os)

/-! ## Identifiers first -/

/-- The segments of a template with every `??` replaced by the quoted text of its argument, and the arguments that are
left for the other markers. -/
inductive IdentsFirst : List Segment → List Arg → List Segment → List Arg → Prop
  | nil : IdentsFirst [] [] [] []
  | text {segs segs' : List Segment} {args left : List Arg} (cs : List Char) (rest : IdentsFirst segs args segs' left) :
      IdentsFirst (.text cs :: segs) args (.text cs :: segs') left
  | escape {segs segs' : List Segment} {args left : List Arg} {a : Arg} {name sql : String}
      (hname : a.text? = some name) (hsql : quoteIdent name = .ok sql) (rest : IdentsFirst segs args segs' left) :
      IdentsFirst (.escape :: segs) (a :: args) (.text sql.toList :: segs') left
  | placeholder {segs segs' : List Segment} {args left : List Arg} (a : Arg) (rest : IdentsFirst segs args segs' left) :
      IdentsFirst (.placeholder :: segs) (a :: args) (.placeholder :: segs') (a :: left)

namespace IdentsFirst

variable {segs segs' : List Segment} {args left : List Arg}

/-- No escape is left, and all other markers are. -/
theorem filter_isMarker (h : IdentsFirst segs args segs' left) :
    segs'.filter Segment.isMarker = segs.filter (· == .placeholder) := by
  induction h with
  | nil => rfl
  | text cs rest ih => exact ih
  | escape hname hsql rest ih => exact ih
  | placeholder a rest ih => exact congrArg (Segment.placeholder :: ·) ih

theorem countP_isMarker (h : IdentsFirst segs args segs' left) : segs'.countP Segment.isMarker = left.length := by
  induction h with
  | nil => rfl
  | text cs rest ih => simpa [List.countP_cons] using ih
  | escape hname hsql rest ih => simpa [List.countP_cons] using ih
  | placeholder a rest ih => simpa [List.countP_cons] using ih

/-- What stands behind a placeholder does not start with a question mark afterwards either: an identifier takes the
place of question marks. -/
theorem head?_ne_mark (h : IdentsFirst segs args segs' left) (hhead : (written segs).head? ≠ some '?') :
    (written segs').head? ≠ some '?' := by
  induction h with
  | nil => exact hhead
  | text cs rest ih =>
    cases cs with
    | nil => exact ih hhead
    | cons c cs => exact hhead
  | escape hname hsql rest ih => exact absurd rfl hhead
  | placeholder a rest ih => exact absurd rfl hhead

/-- The segments are found again: identifiers are in back-ticks, whatever they contain. -/
theorem scanned (h : IdentsFirst segs args segs' left) {q : Quoting} (hscan : Scanned q segs) : Scanned q segs' := by
  induction h generalizing q with
  | nil => trivial
  | text cs rest ih => exact ⟨hscan.1, ih hscan.2⟩
  | escape hname hsql rest ih =>
    obtain ⟨rfl, hrest⟩ := hscan
    have hinert := Inert.quoteIdent hsql
    refine ⟨hinert.markers, ?_⟩
    rw [hinert.outside]
    exact ih hrest
  | placeholder a rest ih =>
    obtain ⟨rfl, hhead, hrest⟩ := hscan
    exact ⟨rfl, rest.head?_ne_mark hhead, ih hrest⟩

theorem identifiers_ok (h : IdentsFirst segs args segs' left) (template : String) :
    ∃ ids, concat (identifiers template segs (args.map Arg.rendered)) = .ok ids := by
  induction h with
  | nil => exact ⟨[], rfl⟩
  | text cs rest ih => exact ih
  | @escape _ _ _ _ a name sql hname hsql rest ih =>
    obtain ⟨ids, hids⟩ := ih
    refine ⟨.text sql :: ids, ?_⟩
    rw [List.map_cons, identifiers, concat, hids, identifier, Arg.arg_rendered, escapeText, hname]
    show (quoteIdent name).map _ ++ _ = _
    rw [hsql]
    rfl
  | placeholder a rest ih => exact ih

/-- Written identifiers change no argument of a `?`. -/
theorem filled_sameEnd (h : IdentsFirst segs args segs' left) (template template' : String) (position : Position) :
    SameEnd (concat (filled template position segs (args.map Arg.rendered)))
      (concat (filled template' position segs' (left.map Arg.rendered))) := by
  induction h with
  | nil => exact SameEnd.refl _
  | text cs rest ih => exact (SameEnd.refl _).append ih
  | @escape _ _ _ _ a name sql hname hsql rest ih =>
    have hident : identifier template a.rendered.arg = Rendering.text (String.ofList sql.toList) := by
      rw [identifier, Arg.arg_rendered, escapeText, hname]
      show (quoteIdent name).map _ = _
      rw [hsql, String.ofList_toList]
      rfl
    show SameEnd (identifier template a.rendered.arg ++ _) _
    rw [hident]
    exact (SameEnd.refl _).append ih
  | placeholder a rest ih => exact (a.pieces_elsewhere (.inl rfl) template template').append ih

/-- The identifiers of a template can be written when each is acceptable. -/
theorem exists_of_namesIdent : ∀ (segs : List Segment) (args : List Arg), segs.countP Segment.isMarker = args.length →
    (∀ p ∈ (segs.filter Segment.isMarker).zip args, p.1 = .escape → p.2.NamesIdent) →
      ∃ segs' left, IdentsFirst segs args segs' left
  | [], [], _, _ => ⟨[], [], .nil⟩
  | [], _ :: _, hlen, _ => by simp at hlen
  | .text cs :: segs, args, hlen, h => by
    obtain ⟨segs', left, rest⟩ := exists_of_namesIdent segs args (by simpa [List.countP_cons] using hlen) h
    exact ⟨_, _, .text cs rest⟩
  | .escape :: _, [], hlen, _ => by simp at hlen
  | .placeholder :: _, [], hlen, _ => by simp at hlen
  | .escape :: segs, a :: args, hlen, h => by
    obtain ⟨ha, hargs⟩ := List.forall_mem_cons.1 h
    obtain ⟨segs', left, rest⟩ := exists_of_namesIdent segs args (by simpa [List.countP_cons] using hlen) hargs
    obtain ⟨name, hname, i, hi⟩ := ha rfl
    have hsql : quoteIdent name = .ok i.sql := by rw [quoteIdent, hi]
    exact ⟨_, _, .escape hname hsql rest⟩
  | .placeholder :: segs, a :: args, hlen, h => by
    obtain ⟨-, hargs⟩ := List.forall_mem_cons.1 h
    obtain ⟨segs', left, rest⟩ := exists_of_namesIdent segs args (by simpa [List.countP_cons] using hlen) hargs
    exact ⟨_, _, .placeholder a rest⟩

end IdentsFirst

/-- The first identifier that is not acceptable is the error. -/
theorem identifiers_error (template : String) : ∀ (segs : List Segment) (args : List Arg),
    (∃ p ∈ (segs.filter Segment.isMarker).zip args, p.1 = .escape ∧ ¬ p.2.NamesIdent) →
      ∃ reason, concat (identifiers template segs (args.map Arg.rendered)) = .error (.invalidIdentifier reason)
  | [], args, h => by simp at h
  | .text cs :: segs, args, h => identifiers_error template segs args h
  | .escape :: _, [], h => by simp at h
  | .placeholder :: _, [], h => by simp at h
  | .placeholder :: segs, a :: args, h => by
    obtain ⟨p, hp, hescape, hname⟩ := h
    rcases List.mem_cons.1 hp with rfl | hp
    · nomatch hescape
    · exact identifiers_error template segs args ⟨p, hp, hescape, hname⟩
  | .escape :: segs, a :: args, h => by
    show ∃ reason, identifier template a.rendered.arg ++ _ = _
    -- either this one is no identifier, or a later one is to blame
    cases hident : identifier template a.rendered.arg with
    | error e =>
      obtain ⟨reason, rfl⟩ := identifier_error hident
      exact ⟨reason, rfl⟩
    | ok ps =>
      have ha : a.NamesIdent := by
        have hsucceeds := (identifier_succeeds template a.rendered.arg).ok_iff.1 ⟨ps, hident⟩
        rwa [Arg.arg_rendered] at hsucceeds
      obtain ⟨p, hp, hescape, hname⟩ := h
      rcases List.mem_cons.1 hp with rfl | hp
      · exact absurd ha hname
      · obtain ⟨reason, hrest⟩ := identifiers_error template segs args ⟨p, hp, hescape, hname⟩
        rw [hrest]
        exact ⟨reason, rfl⟩

/-- **Identifiers first.** A template with as many arguments as markers fails with an invalid identifier when some `??`
has an argument that is no acceptable identifier. Otherwise all identifiers can be written before the template is
scanned: what is found then are the `?` of the template, no `??`, and the template with the arguments that are left
comes to the same text and values at every position, or fails with the same kind of error. -/
theorem expand_identsFirst {template : String} {args : List Arg} (h : countMarkers template = args.length)
    (position : Position) :
    ((∃ p ∈ ((segments template).filter Segment.isMarker).zip args, p.1 = .escape ∧ ¬ p.2.NamesIdent) →
      ∃ reason, ∀ bound, (expand template (args.map Arg.operand) position).run bound =
        .error (.invalidIdentifier reason)) ∧
    ((∀ p ∈ ((segments template).filter Segment.isMarker).zip args, p.1 = .escape → p.2.NamesIdent) →
      ∃ segs left, IdentsFirst (segments template) args segs left) ∧
    ∀ segs left, IdentsFirst (segments template) args segs left →
      (segments (String.ofList (written segs))).filter Segment.isMarker =
        (segments template).filter (· == .placeholder) ∧
      ∀ bound, EndsAlike ((expand template (args.map Arg.operand) position).run bound)
        ((expand (String.ofList (written segs)) (left.map Arg.operand) position).run bound) := by
  have hlen : countMarkers template = (args.map Arg.rendered).length := by rw [h, List.length_map]
  refine ⟨fun hnone => ?_, IdentsFirst.exists_of_namesIdent _ args h, fun segs left hfirst => ?_⟩
  · obtain ⟨reason, hids⟩ := identifiers_error template (segments template) args hnone
    -- a template without markers would be passed on as it is
    have hmarkers : countMarkers template ≠ 0 := by
      rintro hzero
      obtain ⟨p, hp, -⟩ := hnone
      rw [countMarkers, List.countP_eq_length_filter, List.length_eq_zero_iff] at hzero
      simp [hzero] at hp
    refine ⟨reason, fun bound => ?_⟩
    rw [expand_args, pieces, if_neg (not_not.2 hlen), if_neg hmarkers, hids]
    rfl
  · have hscan : Scanned .outside segs := hfirst.scanned (scanned_segmentsFrom .outside template.toList)
    have hmarkers : (joined segs).filter Segment.isMarker = (segments template).filter (· == .placeholder) :=
      (filter_joined segs).trans hfirst.filter_isMarker
    refine ⟨by rw [segments_written hscan, hmarkers], fun bound => ?_⟩
    -- every escape is text by now, so only placeholders are filled behind it
    have hescape : .escape ∉ joined segs := by
      intro hmem
      have hfound := List.mem_filter.2 ⟨hmem, Segment.isMarker_escape⟩
      rw [hmarkers] at hfound
      exact absurd (List.mem_filter.1 hfound).2 (by decide)
    have hleft : segs.countP Segment.isMarker = (left.map Arg.rendered).length := by
      rw [hfirst.countP_isMarker, List.length_map]
    obtain ⟨ids, hids⟩ := hfirst.identifiers_ok template
    have hbefore := pieces_filled position hlen hids
    have hbehind := pieces_written position hscan hleft (by rw [identifiers_of_no_escape _ hescape]; rfl)
    rw [expand_args, expand_args]
    exact (hbefore.trans ((hfirst.filled_sameEnd template _ position).trans hbehind.symm)).run_emit bound

/-- Three question marks and a quote that is not closed: the identifier contains a question mark and stands before the
placeholder. -/
theorem expand_identsFirst_adjacent :
    countMarkers "???'?" = [Arg.ident "`a?`", .value (.int 1)].length ∧
      (segments "`a?`?'?").filter Segment.isMarker = [.placeholder] ∧
      EndsAlike ((expand "???'?" ([.ident "`a?`", .value (.int 1)].map Arg.operand) .value).run [])
        ((expand "`a?`?'?" ([.value (.int 1)].map Arg.operand) .value).run []) := by
  have hmarkers : countMarkers "???'?" = [Arg.ident "`a?`", .value (.int 1)].length := by decide
  have hname : quoteIdent "`a?`" = .ok "`a?`" := by
    have hitems : Ident.QuotedText "a?".toList "a?".toList := .char (by decide) (.char (by decide) .nil)
    have hpart : Ident.Part "`a?`".toList "a?".toList := .quoted (by decide) hitems
    rw [quoteIdent, Ident.parse_eq_ok_iff (i := ⟨["a?"]⟩) |>.2 ⟨by decide, .one hpart⟩]
    rfl
  have hsegs : segments "???'?" = [.escape, .placeholder, .text "'?".toList] := by decide
  have hfirst : IdentsFirst (segments "???'?") [.ident "`a?`", .value (.int 1)]
      [.text "`a?`".toList, .placeholder, .text "'?".toList] [.value (.int 1)] := by
    rw [hsegs]
    exact .escape rfl hname (.placeholder _ (.text _ .nil))
  obtain ⟨hfound, hsame⟩ := (expand_identsFirst hmarkers .value).2.2 _ _ hfirst
  rw [hsegs] at hfound
  exact ⟨hmarkers, hfound, hsame []⟩

/-! ## Raw expressions in place -/

/-- A text that ends outside quoted text is found in place of a placeholder. -/
theorem scanned_inlined {template inner : String} {before after : List Segment}
    (hsegs : segments template = before ++ .placeholder :: after) (hclosed : Closed inner) :
    Scanned .outside (before ++ (segments inner ++ after)) := by
  have hscan : Scanned .outside (before ++ .placeholder :: after) :=
    hsegs ▸ scanned_segmentsFrom .outside template.toList
  obtain ⟨-, hhead, hafter, hinstead⟩ := hscan.instead
  have hinner : Scanned .outside (segments inner) := scanned_segmentsFrom .outside inner.toList
  refine hinstead (hinner.append ?_ hhead)
  have hend : Quoting.after .outside (written (segments inner)) = .outside := by
    rw [segments, written_segmentsFrom]
    exact hclosed
  rwa [hend]

/-- A raw expression that can be written is written as its segments are, there and in the template around it. -/
theorem raw_sameEnd {inner : String} {innerArgs : List Arg} {position : Position} {context : String} {ps : List Piece}
    (template : String) (position' : Position) (hposition : position' = .bare ∨ ∀ s, .query s ∉ innerArgs)
    (h : (Arg.raw inner innerArgs).rendered.pieces position context = .ok ps) :
    countMarkers inner = (innerArgs.map Arg.rendered).length ∧
      SameEnd (.ok ps) (concat (filled template position' (segments inner) (innerArgs.map Arg.rendered))) := by
  rw [Arg.rendered_raw] at h
  have hpieces : pieces inner (innerArgs.map Arg.rendered) .bare = .ok ps := h
  obtain ⟨hlen, ids, hids⟩ := of_pieces_ok hpieces
  have hfilled := pieces_filled .bare hlen hids
  rw [hpieces] at hfilled
  exact ⟨hlen, hfilled.trans (filled_elsewhere inner template _ innerArgs (hposition.imp_left Eq.symm))⟩

/-- Segments that are written with a raw expression among their arguments are written with its segments in its place,
and there are as many arguments as markers again. -/
theorem filled_inlined {template inner : String} {before after : List Segment} {args innerArgs more : List Arg}
    {position : Position} {ps : List Piece} (template' : String)
    (hbefore : before.countP Segment.isMarker = (args.map Arg.rendered).length)
    (hposition : position = .bare ∨ ∀ s, .query s ∉ innerArgs)
    (h : SameEnd (.ok ps) (concat (filled template position (before ++ .placeholder :: after)
      ((args ++ .raw inner innerArgs :: more).map Arg.rendered)))) :
    countMarkers inner = (innerArgs.map Arg.rendered).length ∧
      SameEnd (.ok ps) (concat (filled template' position (before ++ (segments inner ++ after))
        ((args ++ (innerArgs ++ more)).map Arg.rendered))) := by
  rw [List.map_append, filled_append _ _ _ _ _ _ hbefore, concat_append] at h
  obtain ⟨qs, hqs⟩ := h.exists_ok
  obtain ⟨-, rs, -, hrs, -⟩ := Marked.exists_of_append hqs
  change (Arg.raw inner innerArgs).rendered.pieces position template ++ _ = _ at hrs
  obtain ⟨ts, -, hraw, -, -⟩ := Marked.exists_of_append hrs
  obtain ⟨hlen, hinner⟩ := raw_sameEnd template' position hposition hraw
  refine ⟨hlen, ?_⟩
  rw [List.map_append, List.map_append, filled_append _ _ _ _ _ _ hbefore, filled_append _ _ _ _ _ _ hlen,
    concat_append, concat_append]
  refine h.trans ((filled_elsewhere template template' before args (.inl rfl)).append ?_)
  show SameEnd ((Arg.raw inner innerArgs).rendered.pieces position template ++ _) _
  rw [hraw]
  exact hinner.append (filled_elsewhere template template' after more (.inl rfl))

/-- A template that can be written has the same pieces with a raw expression in place. -/
theorem pieces_inlined {template inner : String} {before after : List Segment} {args innerArgs more : List Arg}
    {position : Position} {ps : List Piece} (hsegs : segments template = before ++ .placeholder :: after)
    (hbefore : before.countP Segment.isMarker = args.length) (hclosed : Closed inner)
    (hposition : position = .bare ∨ ∀ s, .query s ∉ innerArgs)
    (h : pieces template ((args ++ .raw inner innerArgs :: more).map Arg.rendered) position = .ok ps) :
    SameEnd (.ok ps) (pieces (String.ofList (written (before ++ (segments inner ++ after))))
      ((args ++ (innerArgs ++ more)).map Arg.rendered) position) := by
  have hscan := scanned_inlined hsegs hclosed
  obtain ⟨hlen, ids, hids⟩ := of_pieces_ok h
  have hfilled := pieces_filled position hlen hids
  rw [h, hsegs] at hfilled
  obtain ⟨hinner, hsame⟩ := filled_inlined (String.ofList (written (before ++ (segments inner ++ after))))
    (by rw [hbefore, List.length_map]) hposition hfilled
  have hlen' : (before ++ (segments inner ++ after)).countP Segment.isMarker =
      ((args ++ (innerArgs ++ more)).map Arg.rendered).length := by
    rw [countMarkers, hsegs, List.countP_append, List.countP_cons_of_pos Segment.isMarker_placeholder, hbefore] at hlen
    rw [countMarkers] at hinner
    simp only [List.length_map, List.length_append, List.length_cons] at hlen hinner ⊢
    rw [List.countP_append, List.countP_append, hbefore, hinner]
    omega
  -- the identifiers of the new template are there because they stand among its segments, which are all written
  obtain ⟨us, hus⟩ := (hsame.trans (filled_joined _ position _ _).symm).exists_ok
  obtain ⟨ids', hids'⟩ := identifiers_of_filled _ _ hus
  exact hsame.trans (pieces_written position hscan hlen' hids').symm

/-- **Raw expressions are inlining.** Where a `?` of a template takes a raw expression that ends outside quoted text,
the text of the expression may stand in place of that `?`, and its arguments in place of it. What the template comes to
stays the same: in a raw expression always, elsewhere as long as no argument of the expression is a nested statement. -/
theorem expand_inlined {template inner : String} {before after : List Segment} {args innerArgs more : List Arg}
    {position : Position} {bound : List Value} {result : String × List Value}
    (hsegs : segments template = before ++ .placeholder :: after)
    (hbefore : before.countP Segment.isMarker = args.length) (hclosed : Closed inner)
    (hposition : position = .bare ∨ ∀ s, .query s ∉ innerArgs)
    (h : (expand template ((args ++ .raw inner innerArgs :: more).map Arg.operand) position).run bound = .ok result) :
    template = String.ofList (written before) ++ "?" ++ String.ofList (written after) ∧
      (expand (String.ofList (written before) ++ inner ++ String.ofList (written after))
        ((args ++ innerArgs ++ more).map Arg.operand) position).run bound = .ok result := by
  have htemplate : template = String.ofList (written before) ++ "?" ++ String.ofList (written after) := by
    rw [← written_segments template, hsegs, written_append, written_cons, String.ofList_append, String.ofList_append,
      String.append_assoc]
    rfl
  have hinlined : String.ofList (written before) ++ inner ++ String.ofList (written after) =
      String.ofList (written (before ++ (segments inner ++ after))) := by
    rw [written_append, written_append, String.ofList_append, String.ofList_append, written_segments,
      String.append_assoc]
  refine ⟨htemplate, ?_⟩
  rw [expand_args] at h
  rw [hinlined, expand_args, List.append_assoc]
  -- what is bound before does not matter, so the pieces of both are compared
  cases hpieces : pieces template ((args ++ .raw inner innerArgs :: more).map Arg.rendered) position with
  | error e =>
    rw [hpieces] at h
    nomatch h
  | ok ps =>
    have hend := (pieces_inlined hsegs hbefore hclosed hposition hpieces).run_emit bound
    rw [hpieces] at h
    rw [h] at hend
    exact hend.eq_ok

/-- A raw expression behind an identifier: the three question marks are an escape and a placeholder before, and two
escapes around a placeholder behind. -/
theorem expand_inlined_comparison :
    (expand "???" ([.ident "a", .raw " = ? - ??" [.value (.int 1), .ident "b"]].map Arg.operand) .value).run [] =
        .ok ("`a` = ? - `b`", [.int 1]) ∧
      (expand "?? = ? - ??" ([.ident "a", .value (.int 1), .ident "b"].map Arg.operand) .value).run [] =
        .ok ("`a` = ? - `b`", [.int 1]) := by
  have hident (name : String) : (Arg.ident name).rendered =
      ⟨.ident name, fun _ _ => (quoteIdent name).map ([.text ·])⟩ := by
    rw [Arg.rendered]
  have hvalue (v : Value) : (Arg.value v).rendered = ⟨.value v, fun _ _ => value v⟩ := by
    rw [Arg.rendered]
  have ha : quoteIdent "a" = .ok "`a`" := by
    rw [quoteIdent, Ident.parse_of_plain (by decide) (Ident.plainChars_of_all (by decide))]
    rfl
  have hb : quoteIdent "b" = .ok "`b`" := by
    rw [quoteIdent, Ident.parse_of_plain (by decide) (Ident.plainChars_of_all (by decide))]
    rfl
  have h : (expand "???" ([.ident "a", .raw " = ? - ??" [.value (.int 1), .ident "b"]].map Arg.operand) .value).run [] =
      .ok ("`a` = ? - `b`", [.int 1]) := by
    rw [expand_args]
    simp only [List.map_cons, List.map_nil, Arg.rendered_raw, hident, hvalue]
    have houter : segments "???" = [.escape, .placeholder] := by decide
    have hinner : segments " = ? - ??" = [.text " = ".toList, .placeholder, .text " - ".toList, .escape] := by decide
    simp only [pieces, countMarkers, houter, hinner, identifiers, filled, identifier, escapeText, Arg.text?, ha, hb]
    rfl
  have hsegs : segments "???" = [.escape] ++ .placeholder :: [] := by decide
  have hsplit : (expand "???" (([.ident "a"] ++ .raw " = ? - ??" [.value (.int 1), .ident "b"] :: [] : List Arg).map
      Arg.operand) .value).run [] = .ok ("`a` = ? - `b`", [.int 1]) := h
  exact ⟨h, (expand_inlined hsegs rfl (by decide) (.inr (by simp)) hsplit).2⟩

end Template
end FluentSql

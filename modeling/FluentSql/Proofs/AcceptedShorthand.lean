import FluentSql.Proofs.Keywords
import FluentSql.Proofs.Predicates
import FluentSql.Proofs.Substitution

/-!
# FluentSql.Proofs.AcceptedShorthand — which shorthand is accepted, and that it can be compiled

* `Operator.SpelledAs`: a text is an operator of a class, in any letter case and with any blanks between its words.
* `Condition.IsShorthand`: the arguments that may stand behind a column.
* `Template.expand_error_of_carries`: a template with a placeholder for each argument fails only where an argument does.
* `Condition.shape_of_shorthand`: what is accepted, and what is known of the template that is written for it.
-/

namespace FluentSql

open Rendering Template

/-! ## Operators in any spelling -/

/-- A text is an operator of a class: its words are those of a spelling, in any letter case. -/
def Operator.SpelledAs (o : Operator) (op : String) : Prop :=
  ∃ s ∈ o.spellings, (Text.words op).map Text.upperAscii = Text.words s

/-- Only words and their letters count, not the blanks around and between them. -/
theorem Operator.ofText?_trim_iff {op : String} {o : Operator} :
    ofText? (Text.trim op) = some o ↔ o.SpelledAs op := by
  have hspaced : ∀ o : Operator, (o.spellings.all fun s => " ".intercalate (Text.words s) == s) = true := by
    rintro (_ | _ | _) <;> decide
  rw [ofText?_eq_some_iff]
  constructor
  · intro h
    refine ⟨_, h, ?_⟩
    rw [Text.words_keywordForm, Text.words_trim]
  · rintro ⟨s, hs, hwords⟩
    have hform : Text.keywordForm (Text.trim op) = s := by
      rw [Text.keywordForm_eq, Text.words_trim, hwords]
      exact beq_iff_eq.1 (List.all_eq_true.1 (hspaced o) s hs)
    rwa [hform]

/-! ## Failures of a template -/

/-- Where renderings in a row fail, one of them does. -/
theorem Rendering.mem_of_concat_error {rs : List Rendering} {e : SqlError} (h : concat rs = .error e) :
    .error e ∈ rs := by
  induction rs with
  | nil => cases h
  | cons r rs ih =>
    rw [concat] at h
    cases r with
    | error e' =>
      rw [error_append] at h
      exact h ▸ List.mem_cons_self
    | ok ps =>
      cases hrs : concat rs with
      | error e' =>
        rw [hrs, ok_append_error] at h
        exact List.mem_cons_of_mem _ (ih (hrs.trans h))
      | ok qs =>
        rw [hrs, ok_append_ok] at h
        cases h

theorem Rendering.run_emit_error {r : Rendering} {bound : List Value} {e : SqlError} :
    (emit r).run bound = .error e ↔ r = .error e := by
  cases r with
  | error e' => exact ⟨fun h => congrArg _ (Except.error.inj h), fun h => congrArg _ (Except.error.inj h)⟩
  | ok ps => exact ⟨fun h => (nomatch h), fun h => (nomatch h)⟩

namespace Template

/-- Without escapes there are only texts and arguments. -/
theorem mem_filled {template : String} {position : Position} {r : Rendering} :
    ∀ (segs : List Segment) (os : List RenderedArg), Segment.escape ∉ segs → r ∈ filled template position segs os →
      (∃ s, r = text s) ∨ ∃ o ∈ os, r = o.pieces position template
  | [], os, _, h => by cases os <;> exact absurd h List.not_mem_nil
  | .text cs :: segs, os, hescape, h => by
    obtain rfl | h := List.mem_cons.1 h
    · exact .inl ⟨_, rfl⟩
    · exact mem_filled segs os (fun hm => hescape (List.mem_cons_of_mem _ hm)) h
  | .escape :: _, _, hescape, _ => absurd List.mem_cons_self hescape
  | .placeholder :: _, [], _, h => absurd h List.not_mem_nil
  | .placeholder :: segs, o :: os, hescape, h => by
    obtain rfl | h := List.mem_cons.1 h
    · exact .inr ⟨o, List.mem_cons_self, rfl⟩
    · exact (mem_filled segs os (fun hm => hescape (List.mem_cons_of_mem _ hm)) h).imp_right
        fun ⟨o', ho', hr⟩ => ⟨o', List.mem_cons_of_mem o ho', hr⟩

/-- A template with a placeholder for each argument fails only where an argument does. -/
theorem pieces_error_of_carries {template : String} {os : List RenderedArg} {position : Position} {e : SqlError}
    (hcarries : Carries os.length template) (h : pieces template os position = .error e) :
    ∃ o ∈ os, o.pieces position template = .error e := by
  have hescape := hcarries.segments_spec.1
  unfold pieces at h
  rw [if_neg (not_not.2 hcarries.countMarkers_eq), identifiers_of_no_escape os hescape] at h
  split_ifs at h
  · nomatch h
  · obtain ⟨s, hs⟩ | ⟨o, ho, hr⟩ := mem_filled (segments template) os hescape (mem_of_concat_error h)
    · nomatch hs
    · exact ⟨o, ho, hr.symm⟩

theorem expand_error_of_carries {template : String} {args : List Arg} {position : Position} {bound : List Value}
    {e : SqlError} (hcarries : Carries args.length template)
    (h : (expand template (args.map Arg.operand) position).run bound = .error e) :
    ∃ a ∈ args, ∀ bound', (a.operand.render position template).run bound' = .error e := by
  have hlength : (args.map Arg.rendered).length = args.length := List.length_map Arg.rendered
  rw [expand_args, run_emit_error] at h
  obtain ⟨o, ho, he⟩ := pieces_error_of_carries (hlength.symm ▸ hcarries) h
  obtain ⟨a, ha, rfl⟩ := List.mem_map.1 ho
  refine ⟨a, ha, fun bound' => ?_⟩
  rw [Arg.operand_eq, RenderedArg.render_operand, run_emit_error]
  exact he

end Template

/-! ## Shorthand that is accepted -/

namespace Condition

/-- The arguments that may stand behind a column: one value, or an operator with as many operands as it takes. -/
inductive IsShorthand : List Arg → Prop
  | value (a : Arg) : IsShorthand [a]
  | operator {a : Arg} {op : String} {o : Operator} {operands : List Arg} (htext : a.text? = some op)
      (hop : o.SpelledAs op) (htakes : o.Takes operands.length) : IsShorthand (a :: operands)

/-- Something is written for exactly these arguments. -/
theorem exists_expands_iff {column : String} {args : List Arg} :
    (∃ shape, Expands column args shape) ↔ IsShorthand args := by
  constructor
  · rintro ⟨shape, _ | ⟨htext, hop, htakes⟩⟩
    · exact .value _
    · exact .operator htext (Operator.ofText?_trim_iff.1 hop) htakes
  · rintro (_ | ⟨htext, hop, htakes⟩)
    · exact ⟨_, .value _⟩
    · exact ⟨_, .operator htext (Operator.ofText?_trim_iff.2 hop) htakes⟩

/-- The column equals a value, or a text of operator characters stands behind it, and marks for the operands. -/
theorem Expands.cases_text {column : String} {args : List Arg} {shape : Shape} (h : Expands column args shape) :
    (∃ a, args = [a] ∧ shape = ⟨column ++ " = ?", 0⟩) ∨
      ∃ a op o operands, args = a :: operands ∧ a.text? = some op ∧ o.SpelledAs op ∧
        shape = ⟨column ++ (" " ++ Text.trim op ++ Operator.marks o operands), 1⟩ ∧
        ∀ ch ∈ (Text.trim op).toList, Operator.IsChar ch := by
  cases h with
  | value a => exact .inl ⟨a, rfl, rfl⟩
  | operator htext hop htakes =>
    exact .inr ⟨_, _, _, _, rfl, htext, Operator.ofText?_trim_iff.1 hop, rfl, Operator.isChar_of_ofText? hop⟩

/-- **What the shorthand accepts.** A template without markers that has arguments is refused only as ambiguous. It is
accepted exactly if it names a column and its arguments are one value, or an operator in some spelling and as many
operands as it takes. All arguments but the operator are left, in order, and what is written of the operator is made of
letters, blanks and comparison signs. Behind a column with balanced back-ticks there is one placeholder for each argument
that is left and no escape. So the number of markers is never a fault: the condition fails only where an argument does. -/
theorem shape_of_shorthand (c : Condition Arg) (hunmarked : countMarkers c.template = 0) (hargs : c.args ≠ []) :
    (∀ e, c.shape = .error e → e = .ambiguousCondition c.template c.args.length) ∧
    ((∃ shape, c.shape = .ok shape) ↔ isColumnRef (Text.trim c.template) = true ∧ IsShorthand c.args) ∧
    ∀ shape, c.shape = .ok shape →
      ((∃ a, c.args = [a] ∧ shape = ⟨Text.trim c.template ++ " = ?", 0⟩) ∨
        ∃ a op o operands, c.args = a :: operands ∧ a.text? = some op ∧ o.SpelledAs op ∧
          shape = ⟨Text.trim c.template ++ (" " ++ Text.trim op ++ Operator.marks o operands), 1⟩ ∧
          ∀ ch ∈ (Text.trim op).toList, Operator.IsChar ch) ∧
      (Even ((Text.trim c.template).toList.count '`') →
        (segments shape.template).count .placeholder = (c.args.drop shape.used).length ∧
        Segment.escape ∉ segments shape.template ∧
        ∀ bound e, ((c.map Arg.operand).compile).run bound = .error e →
          ∃ a ∈ c.args.drop shape.used, ∀ bound', (a.operand.render .value shape.template).run bound' = .error e) := by
  have hshape (shape : Shape) : c.shape = .ok shape ↔
      isColumnRef (Text.trim c.template) = true ∧ Expands (Text.trim c.template) c.args shape :=
    shape_eq_ok_iff hunmarked hargs
  refine ⟨fun e => shape_error, ?_, fun shape h => ?_⟩
  · simp only [hshape, exists_and_left, exists_expands_iff]
  · obtain ⟨hcolumn, hexpands⟩ := (hshape shape).1 h
    obtain ⟨-, tail, htail, htemplate⟩ := hexpands.tail
    refine ⟨hexpands.cases_text, fun hticks => ?_⟩
    have hcarries : Carries (c.args.drop shape.used).length shape.template :=
      htemplate ▸ Carries.inert_append (inert_of_isColumnRef hcolumn hticks) htail.2
    obtain ⟨hescape, hcount⟩ := hcarries.segments_spec
    refine ⟨hcount, hescape, fun bound e he => ?_⟩
    rw [compile_of_shape h] at he
    exact expand_error_of_carries hcarries he

/-- A column with blanks around it, and an operator in a spelling of its own. -/
def outsideRange : Condition Arg :=
  ⟨.or, "\tt.`é` ", [.ident " not  Between", .value (.int 1), .null]⟩

/-- The column keeps its back-ticks, and the operator its spelling. -/
theorem shape_of_shorthand_outsideRange :
    countMarkers outsideRange.template = 0 ∧ outsideRange.args ≠ [] ∧
      Even ((Text.trim outsideRange.template).toList.count '`') ∧
      outsideRange.shape = .ok ⟨"t.`é` not  Between ? AND ?", 1⟩ ∧
      (segments "t.`é` not  Between ? AND ?").count .placeholder = (outsideRange.args.drop 1).length := by
  have hunmarked : countMarkers outsideRange.template = 0 := by decide
  have hargs : outsideRange.args ≠ [] := List.cons_ne_nil _ _
  have htrim : Text.trim outsideRange.template = "t.`é`" := by decide
  have hcolumn : isColumnRef "t.`é`" = true := by decide
  have hticks : Even ("t.`é`".toList.count '`') := by decide
  have hop : Text.trim " not  Between" = "not  Between" := by decide
  have hclass : Operator.ofText? "not  Between" = some .between := by decide
  have hexpands := @Expands.operator "t.`é`" (.ident " not  Between") " not  Between" .between
    [.value (.int 1), .null] rfl (hop ▸ hclass) rfl
  rw [hop] at hexpands
  have hshape : outsideRange.shape = .ok ⟨"t.`é` not  Between ? AND ?", 1⟩ :=
    (shape_eq_ok_iff hunmarked hargs).2 (htrim ▸ ⟨hcolumn, hexpands⟩)
  obtain ⟨-, -, hlawful⟩ := shape_of_shorthand outsideRange hunmarked hargs
  obtain ⟨hcount, -, -⟩ := (hlawful _ hshape).2 (htrim ▸ hticks)
  exact ⟨hunmarked, hargs, htrim ▸ hticks, hshape, hcount⟩

end Condition
end FluentSql

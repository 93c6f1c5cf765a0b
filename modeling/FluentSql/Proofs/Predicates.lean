import FluentSql.Proofs.ColumnOrder
import FluentSql.Proofs.Shorthand
import FluentSql.Statement.Predicate

/-!
# FluentSql.Proofs.Predicates — predicates and the shorthand for them

* `Condition.Interchangeable`: two conditions that can stand for each other in WHERE and HAVING of any statement.
* `Condition.Interchangeable.of_compile_eq`: it is enough that they join and compile alike.
* `Template.inert_of_isColumnRef`: a column with balanced back-ticks hides no marker behind it.
* `Condition.interchangeable_shorthand`: a column, an operator and arguments, and the template that is written for them.
* `Condition.predicates_interchangeable`: every predicate and its shorthand.
-/

namespace FluentSql

open Template

/-! ## Conditions that compile alike -/

namespace Condition

theorem compileAll_replace {w w' : Condition Operand} (hconnector : w.connector = w'.connector)
    (hcompile : w.compile = w'.compile) (before after : List (Condition Operand)) :
    compileAll (before ++ w :: after) = compileAll (before ++ w' :: after) := by
  have hnext : w.compileNext = w'.compileNext := by
    unfold compileNext
    rw [hconnector, hcompile]
  cases before with
  | nil => simp only [List.nil_append, compileAll, hcompile]
  | cons first before => simp only [List.cons_append, compileAll, List.mapM_append, List.mapM_cons, hnext]

end Condition

namespace Clauses

variable (c : Clauses Operand Subquery)

theorem conditionsClause_replace {w w' : Condition Operand} (hconnector : w.connector = w'.connector)
    (hcompile : w.compile = w'.compile) (keyword : String) (before after : List (Condition Operand)) :
    conditionsClause keyword (before ++ w :: after) = conditionsClause keyword (before ++ w' :: after) := by
  have hnonempty (w : Condition Operand) : (before ++ w :: after).isEmpty = false := by
    cases before <;> rfl
  unfold conditionsClause
  rw [hnonempty, hnonempty, Condition.compileAll_replace hconnector hcompile]

/-- The text of a statement depends on its conditions only through its WHERE and HAVING clauses. -/
theorem assemble_conditions {wheres wheres' havings havings' : List (Condition Operand)}
    (hwheres : conditionsClause "WHERE" wheres = conditionsClause "WHERE" wheres')
    (hhavings : conditionsClause "HAVING" havings = conditionsClause "HAVING" havings') :
    ({ c with wheres := wheres, havings := havings } : Clauses Operand Subquery).assemble =
      ({ c with wheres := wheres', havings := havings' } : Clauses Operand Subquery).assemble := by
  funext withAlias
  -- for any operation, because a test for existence is put together from its selection
  have hclauses (o : Operation Operand Subquery) :
      ({ c with operation := o, wheres := wheres, havings := havings } : Clauses Operand Subquery).assembleClauses
          withAlias =
        ({ c with operation := o, wheres := wheres', havings := havings' } : Clauses Operand Subquery).assembleClauses
          withAlias := by
    unfold assembleClauses
    simp only [hwheres, hhavings]
    rfl
  unfold assemble
  cases hop : c.operation with
  | unset => rfl
  | raw template args => rfl
  | existence => simp only [hclauses]
  | _ => exact hclauses _

end Clauses

/-! ## Interchangeable conditions -/

namespace Condition

variable {w w' : Condition Arg}

/-- Two conditions can stand for each other: every statement with one among its conditions builds to the same text and
the same values, or to the same error, with the other, and is compiled alike inside of others. -/
structure Interchangeable (w w' : Condition Arg) : Prop where
  wheres : ∀ (c : Clauses Arg Statement) before after,
    (Statement.mk { c with wheres := before ++ w :: after }).subquery =
      (Statement.mk { c with wheres := before ++ w' :: after }).subquery
  havings : ∀ (c : Clauses Arg Statement) before after,
    (Statement.mk { c with havings := before ++ w :: after }).subquery =
      (Statement.mk { c with havings := before ++ w' :: after }).subquery

theorem Interchangeable.of_compile_eq (hconnector : w.connector = w'.connector)
    (hcompile : (w.map Arg.operand).compile = (w'.map Arg.operand).compile) : Interchangeable w w' := by
  have hclause (keyword : String) (before after : List (Condition Arg)) :
      Clauses.conditionsClause keyword ((before ++ w :: after).map (Condition.map Arg.operand)) =
        Clauses.conditionsClause keyword ((before ++ w' :: after).map (Condition.map Arg.operand)) := by
    simp only [List.map_append, List.map_cons]
    exact Clauses.conditionsClause_replace hconnector hcompile keyword _ _
  refine ⟨fun c before after => ?_, fun c before after => ?_⟩
  · rw [Statement.subquery_mk, Statement.subquery_mk]
    exact congrArg (Subquery.mk c.aliasName) (Clauses.assemble_conditions (c.map Arg.operand Statement.subquery)
      (hclause "WHERE" before after) rfl)
  · rw [Statement.subquery_mk, Statement.subquery_mk]
    exact congrArg (Subquery.mk c.aliasName) (Clauses.assemble_conditions (c.map Arg.operand Statement.subquery)
      rfl (hclause "HAVING" before after))

end Condition

/-! ## Columns with balanced back-ticks -/

namespace Template

/-- The back-ticks of a column open and close. -/
theorem after_column {cs : List Char} (h : ∀ c ∈ cs, c ≠ '?' ∧ (isQuote c = true → c = '`')) :
    ∀ q : Quoting, q = .outside ∨ q = .inside '`' →
      (q.after cs = .outside ↔ (q = .outside ↔ Even (cs.count '`'))) := by
  induction cs with
  | nil => rintro q (rfl | rfl) <;> simp [Quoting.after]
  | cons c cs ih =>
    have htick := (h c List.mem_cons_self).2
    have hrest := ih fun d hd => h d (List.mem_cons_of_mem c hd)
    rintro q hq
    show (q.step c).after cs = .outside ↔ _
    by_cases hc : c = '`'
    · subst hc
      -- a back-tick moves the scan to the other state
      rw [List.count_cons_self, Nat.even_add_one]
      obtain rfl | rfl := hq
      · have hstep : Quoting.step .outside '`' = .inside '`' := by decide
        rw [hstep, hrest _ (.inr rfl)]
        simp
      · have hstep : Quoting.step (.inside '`') '`' = .outside := by decide
        rw [hstep, hrest _ (.inl rfl)]
        simp
    · have hstep : q.step c = q := by
        obtain rfl | rfl := hq
        · exact if_neg fun hquote => hc (htick hquote)
        · simp [Quoting.step, hc]
      rw [hstep, hrest q hq, List.count_cons_of_ne hc]

/-- A column with balanced back-ticks hides no marker behind it. -/
theorem inert_of_isColumnRef {column : String} (hcolumn : isColumnRef column = true)
    (hticks : Even (column.toList.count '`')) : Inert column := by
  have hchars := columnRef_chars hcolumn
  have hclosed := (after_column hchars .outside (.inl rfl)).2 (by simpa using hticks)
  exact ⟨(scan_column hchars .outside (.inl rfl)).1, hclosed⟩

theorem Carries.countMarkers_eq {n : Nat} {s : String} (h : Carries n s) : countMarkers s = n := by
  rw [countMarkers, segments, countP_eq_length_markersFrom, h.markers, List.length_replicate]

/-- A text and one placeholder behind it. -/
theorem expand_inert_mark {s : String} (h : Inert s) (hne : s ≠ "") (o : Operand) (position : Position) :
    expand (s ++ "?") [o] position = (do return s ++ (← o.render position (s ++ "?"))) := by
  have hsegments : segments (s ++ "?") = [.text s.toList, .placeholder] := by
    rw [segments, String.toList_append, segmentsFrom_append_of_quiet h.markers, h.outside]
    have hmarker : ∀ t ∈ [Segment.placeholder].head?, t.isMarker = true := by simp
    exact foldr_consText hmarker (by simpa using hne)
  have hresolve (mismatch : SqlError) : resolve (s ++ "?") mismatch [.text s.toList, .placeholder] [o] =
      .ok [.text s, .operand o] := by
    simp only [resolve, String.ofList_toList]
    rfl
  unfold expand
  simp only [hsegments, hresolve]
  simp [Binder.lift_bind, Slot.render]

/-- One placeholder is its operand. -/
theorem expand_mark (o : Operand) (position : Position) : expand "?" [o] position = o.render position "?" := by
  have hresolve (mismatch : SqlError) : resolve "?" mismatch [.placeholder] [o] = .ok [.operand o] := rfl
  have hsegments : segments "?" = [.placeholder] := by decide
  unfold expand
  simp only [hsegments, hresolve]
  simp [Binder.lift_bind, Slot.render]

/-- Without operands a template without markers stands as it is, and any other is a mismatch. -/
theorem expand_nil (template : String) (position : Position) :
    expand template [] position =
      if countMarkers template = 0 then pure template
      else Binder.fail (.placeholderMismatch template (countMarkers template) 0) := by
  unfold expand countMarkers
  by_cases h : (segments template).countP Segment.isMarker = 0
  · simp [h]
  · simp [h]

end Template

/-! ## Shapes of the shorthand -/

namespace Condition

/-- A template with markers stands as it is. -/
theorem shape_of_carries {w : Condition Arg} {n : Nat} (h : Carries (n + 1) w.template) :
    w.shape = .ok ⟨w.template, 0⟩ := by
  have hmarkers : 0 < countMarkers w.template := by
    rw [h.countMarkers_eq]
    exact n.succ_pos
  exact if_pos (.inr hmarkers)

/-- A column with an operator and its operands. -/
theorem shape_shorthand (connector : Connector) {column op template : String} {a : Arg} {operands : List Arg}
    (hcolumn : isColumnRef column = true) (hinert : Inert column) (htrim : Text.trim column = column)
    (hop : a.text? = some op) (hoperands : operands ≠ [])
    (htemplate : operatorTemplate column (Text.trim op) operands = some template) :
    (⟨connector, column, a :: operands⟩ : Condition Arg).shape = .ok ⟨template, 1⟩ := by
  have hmarkers : countMarkers column = 0 := (inert_iff.1 hinert).1
  have hexpands : Expands column (a :: operands) ⟨template, 1⟩ :=
    (expands_operator_iff hoperands).2 ⟨by rw [hop, Option.bind_some, htemplate], rfl⟩
  refine (shape_eq_ok_iff hmarkers (List.cons_ne_nil a operands)).2 ?_
  show isColumnRef (Text.trim column) = true ∧ Expands (Text.trim column) (a :: operands) ⟨template, 1⟩
  rw [htrim]
  exact ⟨hcolumn, hexpands⟩

/-- The arguments of a rendered condition are those of the condition. -/
theorem arg_map_operand (w : Condition Arg) : (w.map Arg.operand).map Operand.arg = w := by
  obtain ⟨connector, template, args⟩ := w
  show (⟨connector, template, (args.map Arg.operand).map Operand.arg⟩ : Condition Arg) = _
  rw [List.map_map, Arg.arg_comp_operand, List.map_id]

theorem compile_of_shape {w : Condition Arg} {shape : Shape} (h : w.shape = .ok shape) :
    (w.map Arg.operand).compile = Template.expand shape.template ((w.args.drop shape.used).map Arg.operand) .value := by
  unfold compile
  rw [arg_map_operand, h, List.map_drop]
  rfl

/-- A column, an operator and its operands, and the template that is written for them. -/
theorem interchangeable_shorthand (connector : Connector) (n : Nat) {column op template : String} {a : Arg}
    {operands : List Arg} (hcolumn : isColumnRef column = true) (hinert : Inert column)
    (htrim : Text.trim column = column) (hop : a.text? = some op) (hoperands : operands ≠ [])
    (hcarries : Carries (n + 1) template)
    (htemplate : operatorTemplate column (Text.trim op) operands = some template) :
    Interchangeable ⟨connector, template, operands⟩ ⟨connector, column, a :: operands⟩ := by
  refine .of_compile_eq rfl ?_
  rw [compile_of_shape (shape_of_carries hcarries),
    compile_of_shape (shape_shorthand connector hcolumn hinert htrim hop hoperands htemplate)]
  rfl

/-! ## Predicates and their shorthand -/

section Operators

variable (column : String) {op : String}

theorem operatorTemplate_membership (h : Operator.ofText? op = some .membership) (a : Arg) :
    operatorTemplate column op [a] = some (column ++ " " ++ op ++ if a.isListLike then " ?" else " (?)") := by
  unfold operatorTemplate
  rw [h]

theorem operatorTemplate_between (h : Operator.ofText? op = some .between) (low high : Arg) :
    operatorTemplate column op [low, high] = some (column ++ " " ++ op ++ " ? AND ?") := by
  unfold operatorTemplate
  rw [h]

theorem operatorTemplate_compare (h : Operator.ofText? op = some .compare) (a : Arg) :
    operatorTemplate column op [a] = some (column ++ " " ++ op ++ " ?") := by
  unfold operatorTemplate
  rw [h]

end Operators

section Column

variable (connector : Connector) (negated : Bool) {column : String} (hcolumn : isColumnRef column = true)
  (hinert : Inert column) (htrim : Text.trim column = column) {op : Arg}

include hcolumn hinert htrim

/-- A predicate is a keyword, negated or not, and a text with markers behind it. -/
theorem interchangeable_keyword (word rest : String) (n : Nat) {operands : List Arg}
    (hop : op.text? = some (negation negated ++ word)) (hoperands : operands ≠ [])
    (hword : ∀ negated, Text.trim (negation negated ++ word) = negation negated ++ word)
    (hcarries : ∀ negated, Carries (n + 1) (" " ++ (negation negated ++ word) ++ rest))
    (htemplate : operatorTemplate column (negation negated ++ word) operands =
      some (column ++ " " ++ (negation negated ++ word) ++ rest)) :
    Interchangeable ⟨connector, column ++ " " ++ negation negated ++ (word ++ rest), operands⟩
      ⟨connector, column, op :: operands⟩ := by
  have htext : column ++ " " ++ negation negated ++ (word ++ rest) =
      column ++ (" " ++ (negation negated ++ word) ++ rest) := by
    simp only [String.append_assoc]
  refine interchangeable_shorthand connector n hcolumn hinert htrim hop hoperands ?_ ?_
  · rw [htext]
    exact Carries.inert_append hinert (hcarries negated)
  · rw [hword negated, htemplate]
    simp only [String.append_assoc]

theorem interchangeable_inList (hop : op.text? = some (negation negated ++ "IN")) (values : Arg) :
    Interchangeable (inList connector negated column values) ⟨connector, column, [op, values]⟩ := by
  have hclass : ∀ negated, Operator.ofText? (negation negated ++ "IN") = some .membership := by decide
  have hmembership := operatorTemplate_membership column (hclass negated) values
  -- what stands behind the keyword depends on the values, in both texts alike
  set rest := if values.isListLike then " ?" else " (?)" with hrest
  have htemplate : inList connector negated column values =
      ⟨connector, column ++ " " ++ negation negated ++ ("IN" ++ rest), [values]⟩ := by
    rw [hrest]
    unfold inList
    cases values.isListLike <;> simp [String.append_assoc]
  have hcarries : ∀ negated, Carries 1 (" " ++ (negation negated ++ "IN") ++ rest) := by
    rw [hrest]
    cases values.isListLike <;> decide
  rw [htemplate]
  exact interchangeable_keyword connector negated hcolumn hinert htrim "IN" rest 0 hop (List.cons_ne_nil values [])
    (by decide) hcarries hmembership

theorem interchangeable_between (hop : op.text? = some (negation negated ++ "BETWEEN")) (low high : Arg) :
    Interchangeable (between connector negated column low high) ⟨connector, column, [op, low, high]⟩ := by
  have hclass : ∀ negated, Operator.ofText? (negation negated ++ "BETWEEN") = some .between := by decide
  have htemplate : between connector negated column low high =
      ⟨connector, column ++ " " ++ negation negated ++ ("BETWEEN" ++ " ? AND ?"), [low, high]⟩ := by
    simp [between, String.append_assoc]
  rw [htemplate]
  exact interchangeable_keyword connector negated hcolumn hinert htrim "BETWEEN" " ? AND ?" 1 hop
    (List.cons_ne_nil low [high]) (by decide) (by decide) (operatorTemplate_between column (hclass negated) low high)

theorem interchangeable_like (hop : op.text? = some (negation negated ++ "LIKE")) (pattern : Arg) :
    Interchangeable (like connector negated column pattern) ⟨connector, column, [op, pattern]⟩ := by
  have hclass : ∀ negated, Operator.ofText? (negation negated ++ "LIKE") = some .compare := by decide
  have htemplate : like connector negated column pattern =
      ⟨connector, column ++ " " ++ negation negated ++ ("LIKE" ++ " ?"), [pattern]⟩ := by
    simp [like, String.append_assoc]
  rw [htemplate]
  exact interchangeable_keyword connector negated hcolumn hinert htrim "LIKE" " ?" 0 hop
    (List.cons_ne_nil pattern []) (by decide) (by decide) (operatorTemplate_compare column (hclass negated) pattern)

/-- The operator of a test for NULL. -/
def isOperator (negated : Bool) : String :=
  if negated then "IS NOT" else "IS"

theorem interchangeable_isNull (hop : op.text? = some (isOperator negated)) :
    Interchangeable (isNull connector negated column) ⟨connector, column, [op, .null]⟩ := by
  have hclass : ∀ negated, Operator.ofText? (isOperator negated) = some .compare := by decide
  have htrimmed : ∀ negated, Text.trim (isOperator negated) = isOperator negated := by decide
  have hfront : ∀ negated, Inert (" " ++ isOperator negated ++ " ") := by decide
  -- both come to the column, the operator and the keyword
  set front := column ++ (" " ++ isOperator negated ++ " ")
  have hinertFront : Inert front := hinert.append (hfront negated)
  have htemplate : (isNull connector negated column).template = front ++ "NULL" := by
    have htext : " IS " ++ (negation negated ++ "NULL") = " " ++ (isOperator negated ++ (" " ++ "NULL")) := by
      cases negated <;> rfl
    simp only [isNull, front, String.append_assoc, htext]
  have hnull : countMarkers (front ++ "NULL") = 0 := (inert_iff.1 (hinertFront.append (by decide))).1
  have hplain : (isNull connector negated column).shape = .ok ⟨front ++ "NULL", 0⟩ := htemplate ▸ if_pos (.inl rfl)
  have hmark : operatorTemplate column (Text.trim (isOperator negated)) [.null] = some (front ++ "?") := by
    have htext : (" ?" : String) = " " ++ "?" := rfl
    rw [htrimmed, operatorTemplate_compare column (hclass negated), htext]
    simp only [front, String.append_assoc]
  have hshape := shape_shorthand connector hcolumn hinert htrim hop (List.cons_ne_nil Arg.null []) hmark
  refine .of_compile_eq rfl ?_
  rw [compile_of_shape hplain, compile_of_shape hshape]
  show expand (front ++ "NULL") [] .value = expand (front ++ "?") [Arg.null.operand] .value
  rw [expand_nil, if_pos hnull, expand_inert_mark hinertFront (by simp [front]), Arg.operand]
  rfl

end Column

theorem interchangeable_columns (connector : Connector) (left op right : String) :
    Interchangeable (columns connector left op right) (ofExpr connector (Expr.columns left op right)) := by
  have hplain : (columns connector left op right).shape = .ok ⟨s!"{left} {op} {right}", 0⟩ := if_pos (.inl rfl)
  have hmark : (ofExpr connector (Expr.columns left op right)).shape = .ok ⟨"?", 0⟩ := shape_of_carries Carries.mark
  refine .of_compile_eq rfl ?_
  rw [compile_of_shape hplain, compile_of_shape hmark]
  show expand s!"{left} {op} {right}" [] .value = expand "?" [(Expr.columns left op right).arg.operand] .value
  rw [expand_mark, Expr.arg, Arg.operand_raw, expand_nil]
  exact (expand_nil _ .bare).symm

/-- **Predicates are their shorthand.** For a column without blanks around it and with balanced back-ticks, the
predicates stand for the shorthand of the column, the operator and the arguments, whatever the arguments are. A
comparison of columns stands for the raw expression of its three texts, whatever they are. -/
theorem predicates_interchangeable :
    (∀ connector negated column, isColumnRef column = true → Text.trim column = column →
      Even (column.toList.count '`') → ∀ op : Arg,
        (op.text? = some (negation negated ++ "IN") → ∀ values,
          Interchangeable (inList connector negated column values) ⟨connector, column, [op, values]⟩) ∧
        (op.text? = some (negation negated ++ "BETWEEN") → ∀ low high,
          Interchangeable (between connector negated column low high) ⟨connector, column, [op, low, high]⟩) ∧
        (op.text? = some (negation negated ++ "LIKE") → ∀ pattern,
          Interchangeable (like connector negated column pattern) ⟨connector, column, [op, pattern]⟩) ∧
        (op.text? = some (isOperator negated) →
          Interchangeable (isNull connector negated column) ⟨connector, column, [op, .null]⟩)) ∧
    ∀ connector left op right,
      Interchangeable (columns connector left op right) (ofExpr connector (Expr.columns left op right)) := by
  refine ⟨fun connector negated column hcolumn htrim hticks op => ?_, interchangeable_columns⟩
  have hinert := inert_of_isColumnRef hcolumn hticks
  exact ⟨fun hop => interchangeable_inList connector negated hcolumn hinert htrim hop,
    fun hop => interchangeable_between connector negated hcolumn hinert htrim hop,
    fun hop => interchangeable_like connector negated hcolumn hinert htrim hop,
    fun hop => interchangeable_isNull connector negated hcolumn hinert htrim hop⟩

/-- A column in back-ticks and a negated list. -/
theorem predicates_interchangeable_quoted :
    isColumnRef "t.`é`" = true ∧ Text.trim "t.`é`" = "t.`é`" ∧ Even ("t.`é`".toList.count '`') ∧
      (Arg.value (.text "NOT IN")).text? = some (negation true ++ "IN") ∧
      ∀ values, ((Statement.onTable "T").select.addWhere (inList .or true "t.`é`" values)).build =
        ((Statement.onTable "T").select.addWhere ⟨.or, "t.`é`", [.value (.text "NOT IN"), values]⟩).build := by
  have hcolumn : isColumnRef "t.`é`" = true := by decide
  have htrim : Text.trim "t.`é`" = "t.`é`" := by decide
  have hticks : Even ("t.`é`".toList.count '`') := by decide
  have hop : (Arg.value (.text "NOT IN")).text? = some (negation true ++ "IN") := rfl
  refine ⟨hcolumn, htrim, hticks, hop, fun values => ?_⟩
  have hsame := (predicates_interchangeable.1 .or true "t.`é`" hcolumn htrim hticks _).1 hop values
  exact congrArg (fun q : Subquery => Binder.standalone (q.assemble true))
    (hsame.wheres (Statement.onTable "T").select.clauses [] [])

end Condition
end FluentSql

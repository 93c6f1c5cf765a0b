import FluentSql.Proofs.Scanning
import FluentSql.Statement.Shorthand

/-!
# FluentSql.Proofs.Shorthand — the shapes of conditions

* `Operator.ofText?_eq_some_iff`: an operator is known by its normal form, and so it is bare.
* `Condition.shape_eq_ok_iff`: a template without markers that has arguments is a column, and its shape is what
  `Condition.Expands` says is written for the two.
* `Condition.shape_cases`: a shape is the template itself, or it is written behind a column and has no escape.
* `Condition.shape_error`: a condition without a shape is ambiguous.
-/

namespace FluentSql

open Template

/-! ## Operators -/

/-- The characters that are not bare. -/
theorem Template.isBare_or {c : Char} : isBare c = true ∨ c = '?' ∨ c = '\'' ∨ c = '"' ∨ c = '`' := by
  by_cases hmark : c = '?'
  · exact .inr (.inl hmark)
  · cases hq : isQuote c with
    | false => exact .inl (isBare_iff.2 ⟨hmark, hq⟩)
    | true =>
      simp only [isQuote, Bool.or_eq_true, beq_iff_eq, or_assoc] at hq
      exact .inr (.inr hq)

namespace Text

/-- The normal form of a keyword keeps every character that is no blank, in upper case. -/
theorem mem_keywordForm {s : String} {c : Char} (hc : c ∈ s.toList) (hb : isBlank c = false) :
    c.toUpper ∈ (keywordForm s).toList := by
  have hkept : c ∈ (splitWhere isBlank s.toList).flatten := by
    rw [flatten_splitWhere]
    exact List.mem_filter.2 ⟨hc, by simp [hb]⟩
  obtain ⟨w, hw, hcw⟩ := List.mem_flatten.1 hkept
  have hword : String.ofList w ∈ words s :=
    List.mem_map_of_mem (List.mem_filter.2 ⟨hw, by simp [List.ne_nil_of_mem hcw]⟩)
  have hmem : c ∈ (" ".intercalate (words s)).toList := by
    rw [String.toList_intercalate]
    exact mem_intercalate (List.mem_map_of_mem hword) (by simpa using hcw)
  rw [keywordForm, upperAscii, String.toList_ofList]
  exact List.mem_map_of_mem hmem

end Text

namespace Operator

/-- How the operators of a class are written, in normal form. -/
def spellings : Operator → List String
  | compare => comparisons
  | membership => ["IN", "NOT IN"]
  | between => ["BETWEEN", "NOT BETWEEN"]

/-- An operator is known by its normal form. -/
theorem ofText?_eq_some_iff {op : String} {o : Operator} : ofText? op = some o ↔ Text.keywordForm op ∈ o.spellings := by
  -- no spelling belongs to two operators, so the order of the tests does not matter
  have hfirst : ∀ s ∈ between.spellings, ¬ (s = "IN" ∨ s = "NOT IN") := by decide
  have hlast : ∀ s ∈ compare.spellings, ¬ (s = "IN" ∨ s = "NOT IN") ∧ ¬ (s = "BETWEEN" ∨ s = "NOT BETWEEN") := by decide
  simp only [ofText?]
  constructor
  · intro h
    split_ifs at h with hin hbetween hcompare
    · obtain rfl := Option.some.inj h
      simpa [spellings] using hin
    · obtain rfl := Option.some.inj h
      simpa [spellings] using hbetween
    · obtain rfl := Option.some.inj h
      exact List.contains_iff_mem.1 hcompare
  · intro h
    cases o with
    | membership => exact if_pos (by simpa [spellings] using h)
    | between => rw [if_neg (hfirst _ h), if_pos (by simpa [spellings] using h)]
    | compare =>
      obtain ⟨hin, hbetween⟩ := hlast _ h
      rw [if_neg hin, if_neg hbetween]
      exact if_pos (List.contains_iff_mem.2 h)

/-- The characters of operators: letters, blanks and comparison signs. -/
def IsChar (c : Char) : Prop :=
  c.isAlpha = true ∨ Text.isBlank c = true ∨ c ∈ ['=', '!', '<', '>']

theorem isChar_of_ofText? {op : String} {o : Operator} (h : ofText? op = some o) : ∀ c ∈ op.toList, IsChar c := by
  have hall : ∀ o : Operator,
      (o.spellings.all fun s => s.toList.all fun c => c.isAlpha || c ∈ [' ', '=', '!', '<', '>']) = true := by
    rintro (_ | _ | _) <;> decide
  intro c hc
  cases hblank : Text.isBlank c with
  | true => exact .inr (.inl hblank)
  | false =>
    have hform := List.all_eq_true.1 (hall o) _ (ofText?_eq_some_iff.1 h)
    have hupper := List.all_eq_true.1 hform _ (Text.mem_keywordForm hc hblank)
    rw [Char.isAlpha_toUpper_eq_isAlpha, Bool.or_eq_true, decide_eq_true_iff] at hupper
    cases halpha : c.isAlpha with
    | true => exact .inl halpha
    | false =>
      -- what is no letter is the same in upper case
      have hsame : c.toUpper = c := Char.toUpper_eq_of_not_isLower fun hlower => by simp [Char.isAlpha, hlower] at halpha
      rw [hsame, halpha] at hupper
      obtain rfl | hsign := List.mem_cons.1 (hupper.resolve_left Bool.false_ne_true)
      · exact absurd hblank (by decide)
      · exact .inr (.inr hsign)

theorem isBare_of_isChar {c : Char} (h : IsChar c) : isBare c = true := by
  rcases isBare_or (c := c) with hbare | rfl | rfl | rfl | rfl
  · exact hbare
  all_goals exact absurd h (by unfold IsChar; decide)

/-- An operator has neither question marks nor quotes. -/
theorem bare_of_ofText? {op : String} {o : Operator} (h : ofText? op = some o) : ∀ c ∈ op.toList, isBare c = true :=
  fun c hc => isBare_of_isChar (isChar_of_ofText? h c hc)

/-- How many operands an operator takes. -/
def Takes : Operator → Nat → Prop
  | compare, n => n = 1
  | between, n => n = 2
  | membership, n => 1 ≤ n

theorem not_takes_zero (o : Operator) : ¬ o.Takes 0 := by
  cases o <;> simp [Takes]

/-- What is written behind an operator. -/
def marks : Operator → List Arg → String
  | compare, _ => " ?"
  | between, _ => " ? AND ?"
  | membership, [a] => if a.isListLike then " ?" else " (?)"
  | membership, operands => " (" ++ placeholders operands.length ++ ")"

end Operator

/-- A template is written for an operator and as many operands as it takes. -/
theorem operatorTemplate_eq_some_iff {column op template : String} {operands : List Arg} (hne : operands ≠ []) :
    operatorTemplate column op operands = some template ↔
      ∃ o, Operator.ofText? op = some o ∧ o.Takes operands.length ∧
        template = column ++ (" " ++ op ++ o.marks operands) := by
  unfold operatorTemplate
  cases hop : Operator.ofText? op with
  | none => simp
  | some o =>
    simp only [Option.some.injEq, exists_eq_left']
    -- the number of operands decides, and for one member of a list also whether it is a list itself
    cases o with
    | membership =>
      match operands, hne with
      | [a], _ => cases ha : a.isListLike <;> simp [Operator.Takes, Operator.marks, ha, String.append_assoc, eq_comm]
      | a :: b :: operands, _ => simp [Operator.Takes, Operator.marks, String.append_assoc, eq_comm]
    | between =>
      match operands, hne with
      | [a], _ => simp [Operator.Takes]
      | [a, b], _ => simp [Operator.Takes, Operator.marks, String.append_assoc, eq_comm]
      | a :: b :: c :: operands, _ => simp [Operator.Takes]
    | compare =>
      match operands, hne with
      | [a], _ => simp [Operator.Takes, Operator.marks, String.append_assoc, eq_comm]
      | a :: b :: operands, _ => simp [Operator.Takes]

/-! ## Texts behind a column -/

namespace Template

/-- A column may open back-ticks and leave them open; it has no marker. -/
theorem scan_column {cs : List Char} (h : ∀ c ∈ cs, c ≠ '?' ∧ (isQuote c = true → c = '`')) :
    ∀ q, q = .outside ∨ q = .inside '`' →
      markersFrom q cs = [] ∧ (q.after cs = .outside ∨ q.after cs = .inside '`') := by
  induction cs with
  | nil => exact fun q hq => ⟨markersFrom_nil q, hq⟩
  | cons c cs ih =>
    intro q hq
    obtain ⟨hmark, htick⟩ := h c List.mem_cons_self
    -- a column has no other quotes than back-ticks, so only these two states are reached
    have hnext : q.step c = .outside ∨ q.step c = .inside '`' := by
      rcases hq with rfl | rfl
      · cases hc : isQuote c with
        | false => exact .inl (by simp [Quoting.step, hc])
        | true => exact .inr (by rw [Quoting.step, if_pos hc, htick hc])
      · by_cases hc : c = '`'
        · exact .inl (by simp [Quoting.step, hc])
        · exact .inr (by simp [Quoting.step, hc])
    rw [markersFrom_cons fun _ => hmark]
    exact ih (fun d hd => h d (List.mem_cons_of_mem c hd)) _ hnext

/-- Within back-ticks that are never closed there is no marker. -/
theorem markersFrom_inside {cs : List Char} (h : '`' ∉ cs) : markersFrom (.inside '`') cs = [] := by
  induction cs with
  | nil => rfl
  | cons c cs ih =>
    have hc : c ≠ '`' := fun hc => h (hc ▸ List.mem_cons_self)
    have hstep : Quoting.step (.inside '`') c = .inside '`' := by simp [Quoting.step, hc]
    have hinside : Quoting.inside '`' = .outside → c ≠ '?' := fun hq => by cases hq
    rw [markersFrom_cons hinside, hstep]
    exact ih fun hm => h (List.mem_cons_of_mem c hm)

/-- A text behind a column: it has no back-tick and carries placeholders. -/
def IsTail (n : Nat) (s : String) : Prop :=
  '`' ∉ s.toList ∧ Carries n s

/-- A column has no question marks, and of the quotes only back-ticks. -/
theorem columnRef_chars {column : String} (h : isColumnRef column = true) :
    ∀ c ∈ column.toList, c ≠ '?' ∧ (isQuote c = true → c = '`') := by
  intro c hc
  simp only [isColumnRef, Bool.and_eq_true, List.all_eq_true] at h
  have hc := h.2 c hc
  rcases isBare_or (c := c) with hbare | rfl | rfl | rfl | rfl
  · obtain ⟨hmark, hquote⟩ := isBare_iff.1 hbare
    exact ⟨hmark, fun hq => absurd (hquote.symm.trans hq) Bool.false_ne_true⟩
  · exact absurd hc (by decide)
  · exact absurd hc (by decide)
  · exact absurd hc (by decide)
  · exact ⟨by decide, fun _ => rfl⟩

/-- What is written behind a column: it carries placeholders, or the column's back-ticks are open and hide them. -/
theorem column_append_tail {column tail : String} {n : Nat} (hcolumn : isColumnRef column = true)
    (htail : IsTail n tail) : Carries n (column ++ tail) ∨ countMarkers (column ++ tail) = 0 := by
  obtain ⟨hquiet, hafter⟩ := scan_column (columnRef_chars hcolumn) .outside (.inl rfl)
  rcases hafter with hafter | hafter
  · refine .inl ?_
    unfold Carries
    rw [String.toList_append]
    exact CarriesFrom.quiet_append hquiet (hafter.symm ▸ htail.2)
  · refine .inr ?_
    rw [countMarkers, segments, countP_eq_length_markersFrom, String.toList_append,
      markersFrom_append_of_quiet hquiet, hafter, markersFrom_inside htail.1]
    rfl

theorem isTail_placeholders : ∀ n, IsTail n (placeholders n)
  | 0 => ⟨by decide, Carries.empty⟩
  | 1 => ⟨by decide, Carries.mark⟩
  | n + 2 => by
    have ih := isTail_placeholders (n + 1)
    have heq : placeholders (n + 2) = "?" ++ (", " ++ placeholders (n + 1)) := by
      simp only [placeholders, List.replicate_succ, String.intercalate_cons_cons, String.append_assoc]
    rw [heq]
    refine ⟨?_, ?_⟩
    · simpa using ih.1
    · rw [Nat.add_comm (n + 1) 1]
      exact Carries.mark.append_between (by decide) (by decide) ih.2

/-- A text around an operator behind a column. -/
theorem isTail_operator {op rest : String} {n : Nat} {o : Operator} (hop : Operator.ofText? op = some o)
    (hrest : IsTail n rest) : IsTail n (" " ++ op ++ rest) := by
  have hbare := Operator.bare_of_ofText? hop
  refine ⟨?_, ?_⟩
  · have htick : '`' ∉ op.toList := fun hm => absurd (hbare _ hm) (by decide)
    simpa [htick] using hrest.1
  · have hblank : Inert " " := by decide
    exact Carries.inert_append (hblank.append (Inert.of_bare hbare)) hrest.2

/-- What is written behind an operator carries one placeholder for each operand. -/
theorem isTail_marks {o : Operator} {operands : List Arg} (h : o.Takes operands.length) :
    IsTail operands.length (o.marks operands) := by
  have hone : IsTail 1 " ?" := ⟨by decide, by decide⟩
  have htwo : IsTail 2 " ? AND ?" := ⟨by decide, by decide⟩
  have hlist : ∀ n, IsTail n (" (" ++ placeholders n ++ ")") := by
    intro n
    have hn := isTail_placeholders n
    have hopen : Inert " (" := by decide
    exact ⟨by simpa using hn.1, (Carries.inert_append hopen hn.2).append_inert (by decide)⟩
  cases o with
  | compare => exact (show operands.length = 1 from h) ▸ hone
  | between => exact (show operands.length = 2 from h) ▸ htwo
  -- a single list brings its own brackets
  | membership =>
    match operands with
    | [] => exact hlist 0
    | [a] =>
      show IsTail 1 (if a.isListLike then " ?" else " (?)")
      cases a.isListLike
      · exact hlist 1
      · exact hone
    | a :: b :: operands => exact hlist _

end Template

/-! ## Shapes -/

namespace Condition

/-- What is written for a column and arguments: the column equals the one argument, or an operator stands between the
column and its operands. -/
inductive Expands (column : String) : List Arg → Shape → Prop
  | value (a : Arg) : Expands column [a] ⟨column ++ " = ?", 0⟩
  | operator {a : Arg} {op : String} {o : Operator} {operands : List Arg} (htext : a.text? = some op)
      (hop : Operator.ofText? (Text.trim op) = some o) (htakes : o.Takes operands.length) :
      Expands column (a :: operands) ⟨column ++ (" " ++ Text.trim op ++ o.marks operands), 1⟩

/-- Something is written behind the column that carries one placeholder for each argument that is left. -/
theorem Expands.tail {column : String} {args : List Arg} {shape : Shape} (h : Expands column args shape) :
    args.drop shape.used ≠ [] ∧
      ∃ tail, IsTail (args.drop shape.used).length tail ∧ shape.template = column ++ tail := by
  cases h with
  | value a =>
    have hequals : IsTail 1 " = ?" := ⟨by decide, by decide⟩
    exact ⟨List.cons_ne_nil _ _, _, hequals, rfl⟩
  | operator htext hop htakes =>
    refine ⟨fun hnil => ?_, _, isTail_operator hop (isTail_marks htakes), rfl⟩
    rw [List.drop_one, List.tail_cons] at hnil
    rw [hnil] at htakes
    exact Operator.not_takes_zero _ htakes

theorem expands_value_iff {column : String} {a : Arg} {shape : Shape} :
    Expands column [a] shape ↔ shape = ⟨column ++ " = ?", 0⟩ := by
  constructor
  · rintro (_ | ⟨-, -, htakes⟩)
    · rfl
    · exact absurd htakes (Operator.not_takes_zero _)
  · rintro rfl
    exact .value a

/-- An operator is used up exactly where something is written for it. -/
theorem expands_operator_iff {column : String} {a : Arg} {operands : List Arg} {shape : Shape} (hne : operands ≠ []) :
    Expands column (a :: operands) shape ↔
      (a.text?.bind fun op => operatorTemplate column (Text.trim op) operands) = some shape.template ∧
        shape.used = 1 := by
  simp only [Option.bind_eq_some_iff, operatorTemplate_eq_some_iff hne]
  constructor
  · rintro (_ | ⟨htext, hop, htakes⟩)
    · exact absurd rfl hne
    · exact ⟨⟨_, htext, _, hop, htakes, rfl⟩, rfl⟩
  · obtain ⟨template, used⟩ := shape
    rintro ⟨⟨op, htext, o, hop, htakes, rfl⟩, rfl⟩
    exact .operator htext hop htakes

/-- The shape of a template without markers that has arguments. -/
theorem shape_eq_ok_iff {c : Condition Arg} {shape : Shape} (hunmarked : countMarkers c.template = 0)
    (hargs : c.args ≠ []) :
    c.shape = .ok shape ↔
      isColumnRef (Text.trim c.template) = true ∧ Expands (Text.trim c.template) c.args shape := by
  obtain ⟨connector, template, args⟩ := c
  obtain ⟨a, operands, rfl⟩ := List.exists_cons_of_ne_nil hargs
  have hmarkers : countMarkers template = 0 := hunmarked
  unfold Condition.shape
  cases hcolumn : isColumnRef (Text.trim template) with
  | false => simp [hmarkers, hcolumn]
  | true =>
    -- one argument is a value; of several, the first is the operator
    cases operands with
    | nil => simp [hmarkers, hcolumn, expands_value_iff, eq_comm]
    | cons b operands =>
      rw [expands_operator_iff (List.cons_ne_nil b operands)]
      obtain ⟨written, used⟩ := shape
      cases hwritten : a.text?.bind fun op => operatorTemplate (Text.trim template) (Text.trim op) (b :: operands) <;>
        simp [hmarkers, hcolumn, hwritten, eq_comm]

/-- **The two kinds of shapes.** The template of a condition stands as it is, or something is written behind its
column: then an argument is left, and the text carries placeholders unless open back-ticks hide them. -/
theorem shape_cases {c : Condition Arg} {shape : Shape} (h : c.shape = .ok shape) :
    ((c.args = [] ∨ 0 < countMarkers c.template) ∧ shape = ⟨c.template, 0⟩) ∨
      (c.args.drop shape.used ≠ [] ∧
        ((∃ n, Carries n shape.template) ∨ countMarkers shape.template = 0)) := by
  -- kept as it is, or expanded behind the column
  by_cases hasis : c.args = [] ∨ 0 < countMarkers c.template
  · rw [Condition.shape, if_pos (by simpa using hasis)] at h
    exact .inl ⟨hasis, (Except.ok.inj h).symm⟩
  · obtain ⟨hargs, hunmarked⟩ := not_or.1 hasis
    obtain ⟨hcolumn, hexpands⟩ := (shape_eq_ok_iff (Nat.eq_zero_of_not_pos hunmarked) hargs).1 h
    obtain ⟨hleft, tail, htail, htemplate⟩ := hexpands.tail
    rw [htemplate]
    exact .inr ⟨hleft, (column_append_tail hcolumn htail).imp (fun h => ⟨_, h⟩) id⟩

/-- A condition without a shape is ambiguous. -/
theorem shape_error {c : Condition Arg} {e : SqlError} (h : c.shape = .error e) :
    e = .ambiguousCondition c.template c.args.length := by
  simp only [shape] at h
  split_ifs at h
  · exact (Except.error.inj h).symm
  -- not a column, or an operator that does not take so many operands
  · split at h
    · cases h
    · split at h
      · cases h
      · exact (Except.error.inj h).symm
    · cases h

end Condition
end FluentSql

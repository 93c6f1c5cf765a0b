import FluentSql.Proofs.LockStep
import FluentSql.Statement.Fluent

/-!
# FluentSql.Proofs.Framing — what stands around the clauses of a statement

Leading options stand behind the verb. The limit and the trailing options stand at the end. What is between them does
not depend on either.

* `Rendering.output`: the text and the values of a rendering; `BuiltQuery.within`: a query with text around it.
* `Clauses.core`, `Statement.core`: a statement without its verb, options and limit.
* `Statement.build_framed`: a statement is its core between the verb with the leading options and the limit with the
  trailing ones.
-/

namespace FluentSql

open Rendering

/-! ## Text around a query -/

/-- A query with text around it. -/
def BuiltQuery.within (before behind : String) (q : BuiltQuery) : BuiltQuery :=
  { q with sql := before ++ q.sql ++ behind }

@[simp] theorem BuiltQuery.within_within (a b c d : String) (q : BuiltQuery) :
    (q.within a b).within c d = q.within (c ++ a) (b ++ d) := by
  simp [within, String.append_assoc]

namespace Rendering

/-- The text and the values of a rendering. -/
def output (r : Rendering) : Except SqlError BuiltQuery :=
  r.map BuiltQuery.ofPieces

/-- The text and the values of two renderings come from those of each. -/
theorem output_append (a b : Rendering) : output (a ++ b) =
    (output a).bind fun p => (output b).map fun q => ⟨p.sql ++ q.sql, p.params ++ q.params⟩ := by
  cases a with
  | error e => rfl
  | ok ps =>
    cases b with
    | error e => rfl
    | ok qs =>
      show Except.ok (BuiltQuery.ofPieces (ps ++ qs)) = _
      rw [BuiltQuery.ofPieces, sqlOf_append, valuesOf_append]
      rfl

theorem output_text_append (s : String) (r : Rendering) :
    output (text s ++ r) = (output r).map (BuiltQuery.within s "") := by
  rw [output_append]
  cases r with
  | error e => rfl
  | ok ps =>
    show Except.ok (BuiltQuery.mk (sqlOf [.text s] ++ sqlOf ps) ([] ++ valuesOf ps)) =
      Except.ok (BuiltQuery.mk (s ++ sqlOf ps ++ "") (valuesOf ps))
    rw [sqlOf_text, String.append_empty, List.nil_append]

theorem output_append_text (r : Rendering) (s : String) :
    output (r ++ text s) = (output r).map (BuiltQuery.within "" s) := by
  rw [output_append]
  cases r with
  | error e => rfl
  | ok ps =>
    show Except.ok (BuiltQuery.mk (sqlOf ps ++ sqlOf [.text s]) (valuesOf ps ++ [])) =
      Except.ok (BuiltQuery.mk ("" ++ sqlOf ps ++ s) (valuesOf ps))
    rw [sqlOf_text, String.empty_append, List.append_nil]

/-- Two texts in front are one. -/
theorem output_texts_append (s t : String) (r : Rendering) :
    output (text (s ++ t) ++ r) = output (text s ++ (text t ++ r)) := by
  rw [output_text_append, output_text_append, output_text_append]
  cases output r with
  | error e => rfl
  | ok q => simp [Except.map]

theorem output_append_congr {a a' : Rendering} (h : output a = output a') (b : Rendering) :
    output (a ++ b) = output (a' ++ b) := by
  rw [output_append, output_append, h]

/-- Renderings in a row, and one more. -/
theorem join_concat (separator : String) {rs : List Rendering} (hne : rs ≠ []) (r : Rendering) :
    join separator (rs ++ [r]) = join separator rs ++ (text separator ++ r) := by
  induction rs with
  | nil => exact absurd rfl hne
  | cons s rs ih =>
    cases rs with
    | nil => rfl
    | cons t rs =>
      show s ++ (text separator ++ join separator (t :: rs ++ [r])) =
        (s ++ (text separator ++ join separator (t :: rs))) ++ (text separator ++ r)
      rw [ih (List.cons_ne_nil t rs), append_assoc, append_assoc]

/-- Texts at the end of a row stand behind what is in front of them. -/
theorem output_join_texts {rs : List Rendering} (hne : rs ≠ []) (ss : List String) :
    output (join " " (rs ++ ss.map text)) =
      (output (join " " rs)).map (BuiltQuery.within "" (String.join (ss.map (" " ++ ·)))) := by
  induction ss generalizing rs with
  | nil =>
    rw [List.map_nil, List.append_nil]
    cases output (join " " rs) with
    | error e => rfl
    | ok q => simp [Except.map, BuiltQuery.within]
  | cons s ss ih =>
    have hmore : rs ++ (s :: ss).map text = (rs ++ [text s]) ++ ss.map text := by simp
    rw [hmore, ih (by simp), join_concat " " hne, ← append_assoc, output_append_text, output_append_text]
    cases output (join " " rs) with
    | error e => rfl
    | ok q => simp [Except.map, String.append_assoc]

/-- Text in front of the first of a row stands in front of the row. -/
theorem output_join_cons {a b : Rendering} {s : String} (h : output a = output (text s ++ b)) (rs : List Rendering) :
    output (join " " (a :: rs)) = (output (join " " (b :: rs))).map (BuiltQuery.within s "") := by
  rw [← output_text_append]
  cases rs with
  | nil => exact h
  | cons r rs =>
    show output (a ++ (text " " ++ join " " (r :: rs))) = output (text s ++ (b ++ (text " " ++ join " " (r :: rs))))
    rw [← append_assoc (text s)]
    exact output_append_congr h _

end Rendering

/-! ## Options and verbs -/

/-- Options that are all known are sorted by their place. -/
theorem Options.eq_of_ofList {options : List String} {sorted : Options} (h : ofList options = .ok sorted) :
    sorted = ⟨options.filter leadingOptions.contains, options.filter trailingOptions.contains⟩ := by
  unfold ofList at h
  split at h
  · nomatch h
  · exact (Except.ok.inj h).symm

namespace StatementKind

/-- What a statement that is put together from clauses starts with. -/
def opening : StatementKind → String
  | select => "SELECT "
  | insert | insertSelect => "INSERT "
  | replace => "REPLACE "
  | update | patch => "UPDATE "
  | delete => "DELETE "
  | existence => "SELECT EXISTS(SELECT "
  | unset | raw => ""

/-- What such a statement ends with, behind the trailing options. -/
def closing : StatementKind → String
  | existence => ")"
  | _ => ""

end StatementKind

/-! ## Clauses without verb, options and limit -/

namespace Clauses

/-- The head behind the verb and the leading options. -/
def headRest (c : Clauses RenderedArg RenderedQuery) : Rendering :=
  match c.operation with
  | .select =>
    (if c.columns.isEmpty then text "*" else join ", " (c.columns.map projectionPieces)) ++
      (text " FROM " ++ c.tablePieces)
  | .insert rows | .replace rows => text "INTO " ++ (c.tablePieces ++ (text " " ++ c.valuesPieces rows))
  | .update row => c.tablePieces ++ (text " SET " ++ c.assignmentsPieces (c.payloadRules false) "SET" row)
  | .patch row => c.tablePieces ++ (text " SET " ++ c.assignmentsPieces (c.payloadRules true) "SET" row)
  | .delete => text "FROM " ++ c.tablePieces
  | .insertSelect source columns =>
    let list := if columns.isEmpty then "" else "(" ++ ", ".intercalate columns ++ ") "
    text "INTO " ++ (c.tablePieces ++ (text (" " ++ list) ++ source.pieces true))
  | .unset | .existence | .raw _ _ => .error .unsetKind

/-- The clauses without verb, options and limit. -/
def core (c : Clauses RenderedArg RenderedQuery) (withAlias : Bool) : Rendering :=
  join " " ([c.headRest] ++ c.aliasPieces withAlias ++ c.duplicatePieces ++ c.unions.map unionPieces ++
    c.joins.map joinPieces ++ conditionsPieces "WHERE" c.wheres ++ conditionsPieces "HAVING" c.havings ++
    ordersPieces c.orders ++ c.groupClause.map text)

/-- Leading options stand right behind the verb. -/
theorem output_headPieces (c : Clauses RenderedArg RenderedQuery) (leading : List String)
    (hkind : c.operation.kind ≠ .existence) :
    output (c.headPieces leading) = output (text (c.operation.kind.opening ++ optionsText leading) ++ c.headRest) := by
  unfold headPieces headRest
  cases hop : c.operation with
  | select => rfl
  | insert rows => exact output_texts_append _ _ _
  | replace rows => exact output_texts_append _ _ _
  | update row => rfl
  | patch row => rfl
  | delete => exact output_texts_append _ _ _
  | insertSelect source columns => exact output_texts_append _ _ _
  | unset => rfl
  | existence => exact absurd (congrArg Operation.kind hop) hkind
  | raw template args => rfl

/-- Clauses are their core between the verb with the leading options and the limit with the trailing ones. -/
theorem output_clausePieces (c : Clauses RenderedArg RenderedQuery) (withAlias : Bool)
    (hkind : c.operation.kind ≠ .existence) :
    output (c.clausePieces withAlias) = (Options.ofList c.options).bind fun options =>
      (output (c.core withAlias)).map (BuiltQuery.within (c.operation.kind.opening ++ optionsText options.leading)
        (String.join ((c.limitClause ++ options.trailing).map (" " ++ ·)))) := by
  unfold clausePieces
  cases Options.ofList c.options with
  | error e => rfl
  | ok options =>
    -- everything between the rest of the head and LIMIT
    let front := c.aliasPieces withAlias ++ c.duplicatePieces ++ c.unions.map unionPieces ++
      c.joins.map joinPieces ++ conditionsPieces "WHERE" c.wheres ++ conditionsPieces "HAVING" c.havings ++
      ordersPieces c.orders ++ c.groupClause.map text
    have hparts : c.parts withAlias options =
        (c.headPieces options.leading :: front) ++ (c.limitClause ++ options.trailing).map text := by
      simp [parts, front, List.append_assoc]
    have hcore : c.core withAlias = join " " (c.headRest :: front) := by
      simp [core, front, List.append_assoc]
    show output (join " " (c.parts withAlias options)) = (output (c.core withAlias)).map _
    rw [hparts, hcore, output_join_texts (List.cons_ne_nil _ _),
      output_join_cons (c.output_headPieces options.leading hkind)]
    cases output (join " " (c.headRest :: front)) with
    | error e => rfl
    | ok q => simp [Except.map]

/-- The clauses that are compiled: a test of existence is compiled as a selection. -/
def compiled (c : Clauses RenderedArg RenderedQuery) : Clauses RenderedArg RenderedQuery :=
  match c.operation with
  | .existence => { c with operation := .select }
  | _ => c

/-- The core does not depend on options and limit. -/
theorem core_compiled_change (c : Clauses RenderedArg RenderedQuery) (options : List String) (limit : Option Limit)
    (withAlias : Bool) :
    ({ c with options, limit } : Clauses RenderedArg RenderedQuery).compiled.core withAlias =
      c.compiled.core withAlias := by
  obtain ⟨operation⟩ := c
  cases operation <;> rfl

/-- The text and the values of a statement that is put together from clauses. -/
theorem output_pieces (c : Clauses RenderedArg RenderedQuery) (withAlias : Bool) (hunset : c.operation.kind ≠ .unset)
    (hraw : c.operation.kind ≠ .raw) :
    output (c.pieces withAlias) = (Options.ofList c.options).bind fun options =>
      (output (c.compiled.core withAlias)).map
        (BuiltQuery.within (c.operation.kind.opening ++ optionsText options.leading)
          (String.join ((c.limitClause ++ options.trailing).map (" " ++ ·)) ++ c.operation.kind.closing)) := by
  have hplain (hpieces : c.pieces withAlias = c.clausePieces withAlias) (hcompiled : c.compiled = c)
      (hkind : c.operation.kind ≠ .existence) (hclosing : c.operation.kind.closing = "") :
      output (c.pieces withAlias) = (Options.ofList c.options).bind fun options =>
        (output (c.compiled.core withAlias)).map
          (BuiltQuery.within (c.operation.kind.opening ++ optionsText options.leading)
            (String.join ((c.limitClause ++ options.trailing).map (" " ++ ·)) ++ c.operation.kind.closing)) := by
    rw [hpieces, hcompiled, hclosing, c.output_clausePieces withAlias hkind]
    simp only [String.append_empty]
  -- only an existence check has words around its clauses
  cases hop : c.operation with
  | unset => exact absurd (congrArg Operation.kind hop) hunset
  | raw template args => exact absurd (congrArg Operation.kind hop) hraw
  | existence =>
    have hpieces : c.pieces withAlias =
        text "SELECT EXISTS(" ++ ({ c with operation := .select }.clausePieces withAlias ++ text ")") := by
      simp only [pieces, hop]
    have hcompiled : c.compiled = { c with operation := .select } := by
      simp only [compiled, hop]
    have hselect := ({ c with operation := .select } : Clauses _ _).output_clausePieces withAlias nofun
    rw [hpieces, hcompiled, output_text_append, output_append_text, hselect]
    show Except.map _ (Except.map _ ((Options.ofList c.options).bind _)) = (Options.ofList c.options).bind _
    cases Options.ofList c.options with
    | error e => rfl
    | ok options =>
      show Except.map _ (Except.map _ (Except.map _ _)) = Except.map _ _
      cases output (({ c with operation := .select } : Clauses _ _).core withAlias) with
      | error e => rfl
      | ok q =>
        have hopening : "SELECT EXISTS(" ++ ("" ++ ("SELECT " ++ optionsText options.leading)) =
            "SELECT EXISTS(SELECT " ++ optionsText options.leading := by
          rw [String.empty_append, ← String.append_assoc]
          rfl
        simp only [Except.map, BuiltQuery.within_within, String.append_empty]
        exact congrArg (fun before => Except.ok (BuiltQuery.within before _ q)) hopening
  | _ =>
    have h := hplain (by simp only [pieces, hop]) (by simp only [compiled, hop]) (by rw [hop]; nofun) (by rw [hop]; rfl)
    rwa [hop] at h

end Clauses

/-! ## Statements -/

namespace Statement

/-- A statement without its verb, options and limit. -/
def core (s : Statement) : Except SqlError BuiltQuery :=
  output ((s.clauses.map Arg.rendered Statement.rendered).compiled.core true)

theorem core_change (s : Statement) (options : List String) (limit : Option Limit) :
    (s.change fun c => { c with options, limit }).core = s.core := by
  have hclauses : (s.change fun c => { c with options, limit }).clauses.map Arg.rendered Statement.rendered =
      { s.clauses.map Arg.rendered Statement.rendered with options, limit } := rfl
  rw [core, hclauses, Clauses.core_compiled_change, core]

/-- A statement that is put together from clauses is its core between the verb with the leading options and the limit
with the trailing ones; an unknown option counts before anything in its core. -/
theorem build_framed {s : Statement} (hunset : s.kind ≠ .unset) (hraw : s.kind ≠ .raw) :
    s.build = (Options.ofList s.clauses.options).bind fun options =>
      s.core.map (BuiltQuery.within (s.kind.opening ++ Clauses.optionsText options.leading)
        (String.join ((s.clauses.limitClause ++ options.trailing).map (" " ++ ·)) ++ s.kind.closing)) := by
  obtain ⟨k⟩ := s
  let c := k.map Arg.rendered Statement.rendered
  have hkind : c.operation.kind = k.operation.kind := Operation.kind_map _ _ k.operation
  have hbuild : (Statement.mk k).build = output (c.pieces true) := by
    rw [build, standalone_eq, Statement.rendered_mk]
    rfl
  have hpieces := c.output_pieces true (by rwa [hkind]) (by rwa [hkind])
  rw [hkind] at hpieces
  rw [hbuild, hpieces]
  rfl

end Statement
end FluentSql

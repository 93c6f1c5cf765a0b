import FluentSql.Compile.Assemble

/-!
# FluentSql.Compile.Build — compiling statements

* `Arg.operand`, `Statement.subquery`: the rendering of an argument and of a nested statement. They call each other
  only on smaller parts; `Arg.operand_raw` and `Statement.subquery_mk` say what they are without sizes.
* `Statement.build`: the text of a statement and its bound values, or the first error.
-/

namespace FluentSql

mutual

/-- An argument with its rendering. -/
def Arg.operand : Arg → Operand
  | .value v => ⟨.value v, fun _ _ => Binder.bindValue v⟩
  | .null => Operand.null
  | .raw template args =>
    ⟨.raw template args, fun _ _ => Template.expand template (mapMembers args fun a _ => a.operand) .bare⟩
  | .query s => ⟨.query s, fun position _ => s.subquery.render position⟩
  | .ident name => ⟨.ident name, fun _ _ => quoteIdent name⟩
  | .seq items => ⟨.seq items, fun _ context => Binder.bindAll context items⟩
termination_by a => sizeOf a
decreasing_by all_goals simp_all <;> omega

/-- A statement with its rendering. -/
def Statement.subquery : Statement → Subquery
  | .mk c =>
    ⟨c.aliasName, (c.mapSmaller (fun a _ => a.operand) (fun q _ => q.subquery)).assemble⟩
termination_by s => sizeOf s
decreasing_by
  all_goals
    simp_all
    omega

end

theorem Arg.operand_raw (template : String) (args : List Arg) :
    (Arg.raw template args).operand =
      ⟨.raw template args, fun _ _ => Template.expand template (args.map Arg.operand) .bare⟩ := by
  rw [Arg.operand, mapMembers_eq_map]

/-- A statement is compiled from its clauses, with the renderings of its arguments and nested statements. -/
theorem Statement.subquery_mk (c : Clauses Arg Statement) :
    (Statement.mk c).subquery = ⟨c.aliasName, (c.map Arg.operand Statement.subquery).assemble⟩ := by
  rw [Statement.subquery, Clauses.mapSmaller_eq_map]

namespace Statement

/-- Compiles a statement. -/
def build (s : Statement) : Except SqlError BuiltQuery :=
  Binder.standalone (s.subquery.assemble true)

end Statement
end FluentSql

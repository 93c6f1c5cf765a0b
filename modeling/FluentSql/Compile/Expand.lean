import FluentSql.Compile.Binder

/-!
# FluentSql.Compile.Expand — templates filled with operands

* `Template.resolve`: pairs the markers of a template with operands and writes the identifiers of all `??`.
* `Template.expand`: the text of a template, its `?` operands rendered in order.
* `Condition.compile`, `Condition.compileAll`: a condition, and a list of them joined by their connectors.
-/

namespace FluentSql
namespace Template

/-- A piece of a template whose identifiers are written. -/
inductive Slot where
  | text (s : String)
  | operand (o : Operand)

/-- The identifier text of an argument of `??`, quoted. -/
def escapeText (template : String) (a : Arg) : Except SqlError String :=
  match a.text? with
  | some name => quoteIdent name
  | none => .error (.invalidIdentifier s!"`??` in `{template}` needs identifier text, got {a.describe}")

/-- Gives each marker the next operand and writes the identifiers. A missing operand is a mismatch. -/
def resolve (template : String) (mismatch : SqlError) : List Segment → List Operand → Except SqlError (List Slot)
  | [], _ => .ok []
  | .text cs :: r, os => do
    return .text (String.ofList cs) :: (← resolve template mismatch r os)
  | .escape :: r, o :: os => do
    let name ← escapeText template o.arg
    return .text name :: (← resolve template mismatch r os)
  | .placeholder :: r, o :: os => do
    return .operand o :: (← resolve template mismatch r os)
  | _ :: _, [] => .error mismatch

/-- The text of one slot. -/
def Slot.render (template : String) (position : Position) : Slot → Binder String
  | .text s => return s
  | .operand o => o.render position template

/-- The text of a template. All identifiers are written before the first value is bound. -/
def expand (template : String) (operands : List Operand) (position : Position) : Binder String := do
  let pieces := segments template
  let markers := pieces.countP Segment.isMarker
  let mismatch := SqlError.placeholderMismatch template markers operands.length
  if markers ≠ operands.length then Binder.fail mismatch
  if markers = 0 then return template
  let slots ← resolve template mismatch pieces operands
  return String.join (← slots.mapM (Slot.render template position))

end Template

namespace Condition

/-- The text of a condition. -/
def compile (c : Condition Operand) : Binder String := do
  let shape ← (c.map Operand.arg).shape
  Template.expand shape.template (c.args.drop shape.used) .value

/-- The text of a condition behind others. -/
def compileNext (c : Condition Operand) : Binder String := do
  return " " ++ c.connector.sql ++ " " ++ (← c.compile)

/-- The text of a list of conditions. -/
def compileAll : List (Condition Operand) → Binder String
  | [] => return ""
  | c :: cs => do
    let first ← c.compile
    return first ++ String.join (← cs.mapM compileNext)

end Condition
end FluentSql

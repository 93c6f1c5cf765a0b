import FluentSql.Ident
import FluentSql.Statement.Kind

/-!
# FluentSql.Error — why a statement fails

* `SqlError`: the causes of a failure while compiling or running a statement.
* `SqlError.message`: the wording of each cause.
* `SqlError.isContractViolation`: the causes that lie in how a statement was put together.
* `durationText`: a duration in the largest unit that it reaches.
-/

namespace FluentSql

/-! ## Durations -/

/-- `whole` and the fraction `rest / 10 ^ places`, without trailing zeros. -/
def fractionalText (whole rest places : Nat) : String :=
  let ds := ((Nat.toDigits 10 rest).leftpad places '0').reverse.dropWhile (· == '0') |>.reverse
  toString whole ++ String.ofList (if rest = 0 then [] else '.' :: ds)

/-- A duration in seconds, milliseconds, microseconds or nanoseconds: the largest unit that it reaches. -/
def durationText (nanoseconds : Nat) : String :=
  if 1000000000 ≤ nanoseconds then
    fractionalText (nanoseconds / 1000000000) (nanoseconds % 1000000000) 9 ++ "s"
  else if 1000000 ≤ nanoseconds then fractionalText (nanoseconds / 1000000) (nanoseconds % 1000000) 6 ++ "ms"
  else if 1000 ≤ nanoseconds then fractionalText (nanoseconds / 1000) (nanoseconds % 1000) 3 ++ "µs"
  else toString nanoseconds ++ "ns"

/-! ## Causes -/

/-- Why a statement cannot be compiled, or failed when it ran. -/
inductive SqlError where
  /-- No operation was declared. -/
  | unsetKind
  /-- The operation needs a table and there is none. -/
  | missingTable (kind : StatementKind)
  /-- A template has more or fewer markers than arguments. -/
  | placeholderMismatch (template : String) (markers args : Nat)
  /-- A template without markers was given arguments that make no shorthand. -/
  | ambiguousCondition (template : String) (args : Nat)
  /-- A sequence without elements. -/
  | emptySequence (template : String)
  /-- Nothing is assigned. -/
  | emptyAssignments (kind : StatementKind)
  /-- A text that cannot be quoted as an identifier. -/
  | invalidIdentifier (reason : String)
  /-- An execution option outside the supported ones. -/
  | unknownOption (option : String)
  /-- A table definition that cannot be written. -/
  | schema (reason : String)
  /-- A configuration that cannot be read. -/
  | config (reason : String)
  /-- The executor reported a failure. -/
  | execution (reason : String)
  /-- No row. -/
  | notFound (reason : String)
  /-- A query ran longer than allowed. -/
  | timeout (nanoseconds : Nat)
  deriving DecidableEq, Repr

namespace SqlError

/-- The wording of an error. -/
def message : SqlError → String
  | unsetKind => "statement has no operation (call select/insert/update/... before building)"
  | missingTable kind => s!"{kind.name} statement has no table"
  | placeholderMismatch template markers args =>
    s!"template `{template}` has {markers} marker(s) but {args} argument(s)"
  | ambiguousCondition template args => s!"ambiguous condition `{template}` with {args} argument(s)"
  | emptySequence template => s!"empty sequence bound in `{template}`"
  | emptyAssignments kind => s!"{kind.name} statement has no column to assign"
  | invalidIdentifier reason => s!"invalid identifier: {reason}"
  | unknownOption option => s!"unknown query option: {option}"
  | schema reason => s!"invalid table definition: {reason}"
  | config reason => s!"configuration error: {reason}"
  | execution reason => s!"execution error: {reason}"
  | notFound reason => s!"not found: {reason}"
  | timeout nanoseconds => "query timeout after " ++ durationText nanoseconds

/-- The error lies in how a statement was put together. -/
def isContractViolation : SqlError → Bool
  | unsetKind | missingTable _ | placeholderMismatch .. | ambiguousCondition .. | emptySequence _
  | emptyAssignments _ | invalidIdentifier _ | unknownOption _ => true
  | _ => false

/-- A row was asked for and there was none. -/
def isNotFound : SqlError → Bool
  | notFound _ => true
  | _ => false

/-- A query ran longer than allowed. -/
def isTimeout : SqlError → Bool
  | timeout _ => true
  | _ => false

end SqlError

/-! ## Quoting -/

/-- The back-tick quoted form of an identifier text. -/
def quoteIdent (s : String) : Except SqlError String :=
  match Ident.parse s with
  | .ok i => .ok i.sql
  | .error fault => .error (.invalidIdentifier (fault.message s))

end FluentSql

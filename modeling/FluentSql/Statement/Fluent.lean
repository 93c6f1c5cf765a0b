import FluentSql.Statement.Basic
import FluentSql.Text.Blank

/-!
# FluentSql.Statement.Fluent — building a statement step by step

Each step takes a statement and returns the changed one; a statement that two others start from is shared safely.

* `select`, `insert`, `update`, `patch`, …: choose the operation. The projection survives a change of operation.
* `addWhere`, `addHaving`, `addJoin`, `addJoinCondition`, `addOrder`, `groupBy`, `addUnion`: extend a clause.
* `limit`, `limitRange`, `limitOffset`, `paginate`, `clearLimit`: the last limit counts.
* `setOption`: options are kept in normal form, each once, in the order of their first call.
-/

namespace FluentSql
namespace Statement

/-- Changes the clauses of a statement. -/
def change (s : Statement) (f : Clauses Arg Statement → Clauses Arg Statement) : Statement :=
  mk (f s.clauses)

/-! ## Operations -/

/-- Changes the operation. -/
def setOperation (s : Statement) (o : Operation Arg Statement) : Statement :=
  s.change fun c => { c with operation := o }

/-- All columns, or the projection set so far. -/
def select (s : Statement) : Statement :=
  s.setOperation .select

/-- These columns instead of any projection. -/
def selectColumns (s : Statement) (columns : List String) : Statement :=
  (s.change fun c => { c with columns := columns.map .column }).select

/-- One more projected argument. -/
def selectArg (s : Statement) (a : Arg) : Statement :=
  (s.change fun c => { c with columns := c.columns ++ [.arg a] }).select

/-- Whether the statement has a row at all. -/
def selectExistence (s : Statement) : Statement :=
  s.setOperation .existence

/-- Inserts one record. -/
def insert (s : Statement) (row : Record Arg) : Statement :=
  s.setOperation (.insert [row])

/-- Inserts one row for each record; the first record gives the columns. -/
def insertMany (s : Statement) (rows : List (Record Arg)) : Statement :=
  s.setOperation (.insert rows)

/-- Replaces one record. -/
def replace (s : Statement) (row : Record Arg) : Statement :=
  s.setOperation (.replace [row])

/-- Replaces one row for each record. -/
def replaceMany (s : Statement) (rows : List (Record Arg)) : Statement :=
  s.setOperation (.replace rows)

/-- Assigns all fields of a record. -/
def update (s : Statement) (row : Record Arg) : Statement :=
  s.setOperation (.update row)

/-- Assigns the fields of a record that are not zero, or are excluded from this rule. -/
def patch (s : Statement) (row : Record Arg) : Statement :=
  s.setOperation (.patch row)

/-- Deletes rows. -/
def delete (s : Statement) : Statement :=
  s.setOperation .delete

/-- Inserts the rows of another statement. -/
def insertSelect (s source : Statement) (columns : List String) : Statement :=
  s.setOperation (.insertSelect source columns)

/-! ## Conditions and joins -/

/-- One more WHERE condition. -/
def addWhere (s : Statement) (w : Condition Arg) : Statement :=
  s.change fun c => { c with wheres := c.wheres ++ [w] }

/-- One more HAVING condition. -/
def addHaving (s : Statement) (h : Condition Arg) : Statement :=
  s.change fun c => { c with havings := c.havings ++ [h] }

/-- Joins a table. A blank ON template without arguments is no condition. -/
def addJoin (s : Statement) (kind : JoinKind) (table : TableRef Statement) (on : String) (args : List Arg) :
    Statement :=
  let conditions := if (Text.trim on).isEmpty ∧ args.isEmpty then [] else [⟨.and, on, args⟩]
  s.change fun c => { c with joins := c.joins ++ [⟨kind, table, conditions⟩] }

/-- Adds a condition to the last join. -/
def extendLastJoin (w : Condition Arg) : List (Join Arg Statement) → List (Join Arg Statement)
  | [] => []
  | [j] => [{ j with conditions := j.conditions ++ [w] }]
  | j :: js => j :: extendLastJoin w js

/-- One more condition of the last join; without a join it is dropped. -/
def addJoinCondition (s : Statement) (w : Condition Arg) : Statement :=
  s.change fun c => { c with joins := extendLastJoin w c.joins }

/-! ## Order, groups and limits -/

/-- One more ORDER BY term. -/
def addOrder (s : Statement) (o : Order) : Statement :=
  s.change fun c => { c with orders := c.orders ++ [o] }

/-- One more GROUP BY column. -/
def groupBy (s : Statement) (column : String) : Statement :=
  s.change fun c => { c with groups := c.groups ++ [column] }

/-- Sets the limit. -/
def setLimit (s : Statement) (l : Option Limit) : Statement :=
  s.change fun c => { c with limit := l }

/-- The first `count` rows. -/
def limit (s : Statement) (count : UInt64) : Statement :=
  s.setLimit (some (.count count))

/-- `LIMIT offset, count` -/
def limitRange (s : Statement) (offset count : UInt64) : Statement :=
  s.setLimit (some (.range offset count))

/-- `LIMIT count OFFSET offset` -/
def limitOffset (s : Statement) (count offset : UInt64) : Statement :=
  s.setLimit (some (.offset count offset))

/-- The difference of two words, which stops at 0. -/
def saturatingSub (a b : UInt64) : UInt64 :=
  if b ≤ a then a - b else 0

/-- The product of two words, which stops at the largest word. -/
def saturatingMul (a b : UInt64) : UInt64 :=
  if a.toNat * b.toNat < UInt64.size then a * b else UInt64.ofNat (UInt64.size - 1)

/-- The number of rows before a page. Pages start at 1, and page 0 counts as page 1. -/
def pageOffset (page perPage : UInt64) : UInt64 :=
  saturatingMul (saturatingSub (max page 1) 1) perPage

/-- One page of `perPage` rows. -/
def paginate (s : Statement) (page perPage : UInt64) : Statement :=
  s.limitRange (pageOffset page perPage) perPage

/-- No limit. -/
def clearLimit (s : Statement) : Statement :=
  s.setLimit none

/-- The first row. -/
def selectOne (s : Statement) : Statement :=
  (s.limit 1).select

/-! ## Options -/

/-- Adds an option in normal form, unless it is blank or already there. -/
def insertOption (option : String) (options : List String) : List String :=
  let normal := Text.keywordForm option
  if normal.isEmpty ∨ options.contains normal then options else options ++ [normal]

/-- Sets an execution option. -/
def setOption (s : Statement) (option : String) : Statement :=
  s.change fun c => { c with options := insertOption option c.options }

/-- Different rows only. -/
def distinct (s : Statement) : Statement :=
  s.setOption "DISTINCT"

/-- Locks the rows for writing. -/
def forUpdate (s : Statement) : Statement :=
  s.setOption "FOR UPDATE"

/-- Locks the rows for reading. -/
def lockInShareMode (s : Statement) : Statement :=
  s.setOption "LOCK IN SHARE MODE"

/-! ## Payload rules, alias, unions and settings -/

/-- What to assign to a row that is already there. -/
def onDuplicate (s : Statement) (row : Record Arg) : Statement :=
  s.change fun c => { c with duplicate := some row }

/-- Leaves columns out of the payload. -/
def omitColumns (s : Statement) (columns : List String) : Statement :=
  s.change fun c => { c with omitted := c.omitted ++ columns }

/-- Keeps fields in a patch although they are zero. -/
def keepFields (s : Statement) (names : List String) : Statement :=
  s.change fun c => { c with exclusions := { c.exclusions with fields := c.exclusions.fields ++ names } }

/-- Keeps values of these kinds in a patch although they are zero. -/
def keepKinds (s : Statement) (kinds : List ValueKind) : Statement :=
  s.change fun c => { c with exclusions := { c.exclusions with kinds := c.exclusions.kinds ++ kinds } }

/-- Names the statement. -/
def named (s : Statement) (aliasName : String) : Statement :=
  s.change fun c => { c with aliasName := some aliasName }

/-- One more query of a union. -/
def addUnion (s : Statement) (all : Bool) (query : Statement) : Statement :=
  s.change fun c => { c with unions := c.unions ++ [⟨all, query⟩] }

/-- Replaces the settings. -/
def configure (s : Statement) (config : Config) : Statement :=
  s.change fun c => { c with config := config }

end Statement
end FluentSql

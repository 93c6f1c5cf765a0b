import FluentSql.Text.Alphanumeric
import FluentSql.Text.Blank
import FluentSql.Text.LetterCase

/-!
# FluentSql.Naming — the words of a name and the conventions built from them

* `nameWords`: a name is cut at everything that is no letter or number, and each part at its case changes.
* `snakeCase`, `kebabCase`, `screamingSnakeCase`, `camelCase`, `pascalCase`: the words joined by one convention.
* `ColumnNaming`: the convention that turns field names into column names.
-/

namespace FluentSql

/-! ## Words -/

namespace Naming

/-- The case of the last cased character of the word so far. -/
inductive LastCase where
  | uncased
  | lower
  | upper
  deriving DecidableEq, Repr

/-- The case after `c`, if no word ends there. -/
def LastCase.after (mode : LastCase) (c : Char) : LastCase :=
  if Text.isLower c then .lower else if Text.isUpper c then .upper else mode

/-- Puts a character in front of the first word. -/
def consWord (c : Char) : List (List Char) → List (List Char)
  | [] => [[c]]
  | w :: ws => (c :: w) :: ws

/-- Cuts an alphanumeric part at its case changes. A word ends after a lower case letter that an upper case one
follows, and before an upper case letter that stands between an upper and a lower case one. -/
def caseWords (mode : LastCase) : List Char → List (List Char)
  | [] => []
  | [c] => [[c]]
  | c :: next :: r =>
    if mode.after c = .lower ∧ Text.isUpper next then [c] :: caseWords .uncased (next :: r)
    else if mode = .upper ∧ Text.isUpper c ∧ Text.isLower next then
      [] :: consWord c (caseWords .uncased (next :: r))
    else consWord c (caseWords (mode.after c) (next :: r))

/-- The words of a name. -/
def nameWords (s : String) : List (List Char) :=
  (Text.splitWhere (!Text.isAlphanumeric ·) s.toList).flatMap (caseWords .uncased)

/-! ## Conventions -/

/-- Words joined by a separator. -/
def joinWords (separator : List Char) (ws : List (List Char)) : String :=
  String.ofList (separator.intercalate ws)

/-- `user_name` -/
def snakeCase (s : String) : String :=
  joinWords ['_'] ((nameWords s).map Text.lowerWord)

/-- `user-name` -/
def kebabCase (s : String) : String :=
  joinWords ['-'] ((nameWords s).map Text.lowerWord)

/-- `USER_NAME` -/
def screamingSnakeCase (s : String) : String :=
  joinWords ['_'] ((nameWords s).map Text.upperWord)

/-- `UserName` -/
def pascalCase (s : String) : String :=
  joinWords [] ((nameWords s).map Text.capitalize)

/-- `userName` -/
def camelCase (s : String) : String :=
  match nameWords s with
  | [] => ""
  | w :: ws => joinWords [] (Text.lowerWord w :: ws.map Text.capitalize)

end Naming

/-! ## Column naming -/

/-- How field names without an explicit column become column names. -/
inductive ColumnNaming where
  | asIs
  | snakeCase
  | camelCase
  | pascalCase
  deriving DecidableEq, Repr, Inhabited

namespace ColumnNaming

/-- The column name of a field name. -/
def apply : ColumnNaming → String → String
  | .asIs, name => name
  | .snakeCase, name => Naming.snakeCase name
  | .camelCase, name => Naming.camelCase name
  | .pascalCase, name => Naming.pascalCase name

end ColumnNaming
end FluentSql

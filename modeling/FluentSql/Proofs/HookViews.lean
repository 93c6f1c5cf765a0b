import FluentSql.Execution.Executor
import FluentSql.Proofs.Truncation

/-!
# FluentSql.Proofs.HookViews — what hooks see of a query and are told of its end

* `QueryType.LedBy`: the word that a query starts with, behind blanks and opening parentheses.
* `QueryType.words`, `QueryType.Describes`: the words of a type, and the type of a query by the word it starts with.
* `QueryType.ofSql_eq_iff`: every query has one type, and `ofSql` finds it.
* `QueryContext.Shows`: a context shows the text of a query, the number of its values and its type.
* `QueryOutcome.Tells`: an outcome tells what is returned: a count, or the text of an error up to 512 bytes.
-/

namespace FluentSql

variable {ρ β : Type}

/-! ## Types -/

namespace QueryType

/-- A character that is passed over in front of the leading keyword. -/
def isSkipped (c : Char) : Bool :=
  Text.isBlank c || c == '('

/-- A query starts with a word: what stands in front of the word is passed over, and the word has as many letters as
there are. -/
def LedBy (word sql : String) : Prop :=
  ∃ passed rest, sql.toList = passed ++ (word.toList ++ rest) ∧ (∀ c ∈ passed, isSkipped c = true) ∧
    (∀ c ∈ (word.toList ++ rest).head?, isSkipped c = false) ∧ (∀ c ∈ word.toList, c.isAlpha = true) ∧
    ∀ c ∈ rest.head?, c.isAlpha = false

/-- The words of a type, in upper case. -/
def words : QueryType → List String
  | select => ["SELECT"]
  | insert => ["INSERT", "REPLACE"]
  | update => ["UPDATE"]
  | delete => ["DELETE"]
  | other => []

/-- The type of a query: it starts with one of the words of the type, in any letter case, or with no word of any. -/
inductive Describes (sql : String) : QueryType → Prop
  | named {word : String} {t : QueryType} (led : LedBy word sql) (known : Text.upperAscii word ∈ t.words) :
      Describes sql t
  | unnamed {word : String} (led : LedBy word sql) (unknown : ∀ t : QueryType, Text.upperAscii word ∉ t.words) :
      Describes sql .other

theorem keyword_eq (s : String) : keyword s =
    String.ofList (((s.toList.dropWhile isSkipped).takeWhile Char.isAlpha).map Char.toUpper) :=
  rfl

theorem head?_dropWhile_eq_false {p : Char → Bool} {cs : List Char} : ∀ c ∈ (cs.dropWhile p).head?, p c = false := by
  intro c hc
  have hnot := List.head?_dropWhile_not p cs
  rw [hc] at hnot
  simpa using hnot

/-- Every query starts with a word, if only with the empty one. -/
theorem exists_ledBy (sql : String) : ∃ word, LedBy word sql := by
  let behind := sql.toList.dropWhile isSkipped
  have hbehind : behind.takeWhile Char.isAlpha ++ behind.dropWhile Char.isAlpha = behind :=
    List.takeWhile_append_dropWhile
  refine ⟨String.ofList (behind.takeWhile Char.isAlpha), sql.toList.takeWhile isSkipped,
    behind.dropWhile Char.isAlpha, ?_, ?_, ?_, ?_, head?_dropWhile_eq_false⟩
  · rw [String.toList_ofList, hbehind]
    exact List.takeWhile_append_dropWhile.symm
  · exact fun c => List.mem_takeWhile_imp
  · rw [String.toList_ofList, hbehind]
    exact head?_dropWhile_eq_false
  · rw [String.toList_ofList]
    exact fun c => List.mem_takeWhile_imp

/-- The keyword of a query is the word that it starts with, in upper case. -/
theorem keyword_of_ledBy {word sql : String} (h : LedBy word sql) : keyword sql = Text.upperAscii word := by
  obtain ⟨passed, rest, hsql, hpassed, hstart, hletters, hend⟩ := h
  -- both scans stop where the next character says so
  have hstop {p : Char → Bool} {cs : List Char} (hcs : ∀ c ∈ cs.head?, p c = false) :
      cs.dropWhile p = cs ∧ cs.takeWhile p = [] := by
    cases cs with
    | nil => exact ⟨rfl, rfl⟩
    | cons c cs => simp [hcs c rfl]
  rw [keyword_eq, hsql, List.dropWhile_append_of_pos hpassed, (hstop hstart).1, List.takeWhile_append_of_pos hletters,
    (hstop hend).2, List.append_nil, Text.upperAscii]

theorem Describes.of_ledBy {word sql : String} (hled : LedBy word sql) : Describes sql (ofSql sql) := by
  unfold ofSql
  rw [keyword_of_ledBy hled]
  dsimp only
  split_ifs with hselect hinsert hupdate hdelete
  · exact .named hled (List.mem_singleton.2 hselect)
  · exact .named hled (List.mem_pair.2 hinsert)
  · exact .named hled (List.mem_singleton.2 hupdate)
  · exact .named hled (List.mem_singleton.2 hdelete)
  · refine .unnamed hled fun t => ?_
    cases t with
    | select => exact mt List.mem_singleton.1 hselect
    | insert => exact mt List.mem_pair.1 hinsert
    | update => exact mt List.mem_singleton.1 hupdate
    | delete => exact mt List.mem_singleton.1 hdelete
    | other => exact List.not_mem_nil

/-- No word belongs to two types. -/
theorem eq_of_mem_words {word : String} {t u : QueryType} (ht : word ∈ t.words) (hu : word ∈ u.words) : t = u := by
  have happart : ∀ t u : QueryType, ∀ word ∈ t.words, word ∈ u.words → t = u := by
    intro t u
    cases t <;> cases u <;> decide
  exact happart t u word ht hu

/-- A query starts with one word only. -/
theorem upperAscii_eq_of_ledBy {word word' sql : String} (h : LedBy word sql) (h' : LedBy word' sql) :
    Text.upperAscii word = Text.upperAscii word' :=
  (keyword_of_ledBy h).symm.trans (keyword_of_ledBy h')

/-- A query is of one type only. -/
theorem Describes.unique {sql : String} {t u : QueryType} (ht : Describes sql t) (hu : Describes sql u) : t = u := by
  rcases ht with ⟨hled, hknown⟩ | ⟨hled, hunknown⟩ <;> rcases hu with ⟨hled', hknown'⟩ | ⟨hled', hunknown'⟩
  · exact eq_of_mem_words hknown (upperAscii_eq_of_ledBy hled hled' ▸ hknown')
  · exact absurd (upperAscii_eq_of_ledBy hled hled' ▸ hknown) (hunknown' _)
  · exact absurd (upperAscii_eq_of_ledBy hled hled' ▸ hknown') (hunknown _)
  · rfl

/-- Every query has one type, and it is found. -/
theorem ofSql_eq_iff {sql : String} {t : QueryType} : ofSql sql = t ↔ Describes sql t := by
  obtain ⟨word, hled⟩ := exists_ledBy sql
  constructor
  · rintro rfl
    exact .of_ledBy hled
  · exact (Describes.of_ledBy hled).unique

end QueryType

/-! ## Contexts -/

/-- A context shows the text of a query, the number of its values, and its type. -/
structure QueryContext.Shows (sql : String) (paramCount : Nat) (ctx : QueryContext) : Prop where
  text : ctx.sql = sql
  count : ctx.paramCount = paramCount
  type : QueryType.Describes sql ctx.queryType

theorem QueryContext.shows_ofSql (sql : String) (paramCount : Nat) : Shows sql paramCount (.ofSql sql paramCount) :=
  ⟨rfl, rfl, QueryType.ofSql_eq_iff.1 rfl⟩

/-! ## Outcomes -/

/-- An outcome tells what is returned: of an answer what is counted, of a failure the text up to 512 bytes. -/
inductive QueryOutcome.Tells (counted : β → QueryOutcome) : Except SqlError β → QueryOutcome → Prop
  | answered (b : β) : Tells counted (.ok b) (counted b)
  | failed {e : SqlError} {shown : String} (h : Text.ShownUpTo 512 e.message shown) :
      Tells counted (.error e) (.failed shown)

theorem Executor.outcomeOf_tells (ask : Ask ρ β) (r : Except SqlError β) :
    QueryOutcome.Tells ask.outcome r (outcomeOf ask r) := by
  cases r with
  | ok b => exact .answered b
  | error e => exact .failed (Text.abbreviate_shown 512 e.message)

end FluentSql

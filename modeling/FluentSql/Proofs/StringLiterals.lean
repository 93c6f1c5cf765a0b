import FluentSql.Proofs.QuotedText
import FluentSql.Proofs.TableLayout
import FluentSql.Schema.Table
import Mathlib

/-!
# FluentSql.Proofs.StringLiterals — string literals are read back

* `unescaped_literalBody`, `quotedLength_literalBody`: what a string literal says, and how far it reaches.
* `memberList_inj`: members are known from their list.
* `Around`: computations that write one text of their argument once, and do not depend on it in anything else.
* `TableDefinition.TextPlace`, `TableDefinition.build_around`: a table definition is written around the string literal
  of any of its defaults, members and comments.
* `stringLiteral_read`: a string literal is passed as a whole, and read back.
-/

namespace FluentSql

open Template

/-! ## String literals -/

theorem toList_stringLiteral (s : String) :
    (stringLiteral s).toList = '\'' :: (literalBody s.toList ++ ['\'']) := by
  rw [stringLiteral, String.toList_ofList]

/-- What a string literal says. -/
theorem unescaped_literalBody (cs : List Char) : unescaped (escapeIn '\'') '\'' (literalBody cs) = cs := by
  induction cs with
  | nil => rfl
  | cons c cs ih =>
    rw [literalBody]
    split_ifs with hquote hslash
    · rw [unescaped, if_neg (by decide), if_pos ⟨rfl, rfl⟩, ih, hquote]
    · rw [unescaped, if_pos (by decide), ih, hslash]
    · have hescape : escapeIn '\'' ≠ some c := fun h => hslash (escapeIn_eq_some_iff.1 h).1
      rw [unescaped_pass hescape hquote, ih]

/-- How far a string literal reaches, in front of anything but a quote. -/
theorem quotedLength_literalBody (cs : List Char) {r : List Char} (hr : r.head? ≠ some '\'') :
    quotedLength (escapeIn '\'') '\'' (literalBody cs ++ '\'' :: r) = (literalBody cs).length + 1 := by
  induction cs with
  | nil => exact quotedLength_close (by decide) hr
  | cons c cs ih =>
    rw [literalBody]
    split_ifs with hquote hslash
    · rw [List.cons_append, List.cons_append, quotedLength, if_neg (by decide), if_pos rfl, if_pos rfl, ih]
      rfl
    · rw [List.cons_append, List.cons_append, quotedLength, if_pos (by decide), ih]
      rfl
    · have hescape : escapeIn '\'' ≠ some c := fun h => hslash (escapeIn_eq_some_iff.1 h).1
      rw [List.cons_append, quotedLength_pass hescape hquote, ih]
      rfl

/-- A string literal ends where it is read to end, so that it is known from a text that starts with it. -/
theorem stringLiteral_append_inj {s t : String} {x y : List Char} (hx : x.head? ≠ some '\'')
    (hy : y.head? ≠ some '\'') (h : (stringLiteral s).toList ++ x = (stringLiteral t).toList ++ y) : s = t ∧ x = y := by
  have hform (u : String) (z : List Char) :
      (stringLiteral u).toList ++ z = '\'' :: (literalBody u.toList ++ '\'' :: z) := by
    rw [toList_stringLiteral, List.cons_append, List.append_assoc]
    rfl
  rw [hform, hform] at h
  have htail := (List.cons.inj h).2
  have hlength := quotedLength_literalBody s.toList hx
  rw [htail, quotedLength_literalBody t.toList hy] at hlength
  obtain ⟨hbody, hrest⟩ := List.append_inj htail (Nat.succ.inj hlength).symm
  refine ⟨String.toList_inj.1 ?_, (List.cons.inj hrest).2⟩
  rw [← unescaped_literalBody s.toList, hbody, unescaped_literalBody]

theorem stringLiteral_inj {s t : String} (h : stringLiteral s = stringLiteral t) : s = t :=
  (stringLiteral_append_inj (x := []) (y := []) (by simp) (by simp) (by rw [h])).1

/-- What follows the first member of a list. -/
def moreMembers : List String → List Char
  | [] => []
  | m :: ms => ", ".toList ++ (", ".intercalate ((m :: ms).map stringLiteral)).toList

theorem toList_members (m : String) (ms : List String) :
    (", ".intercalate ((m :: ms).map stringLiteral)).toList = (stringLiteral m).toList ++ moreMembers ms := by
  cases ms with
  | nil => simp [moreMembers]
  | cons n ms =>
    rw [List.map_cons, List.map_cons, String.intercalate_cons_cons, String.toList_append, String.toList_append,
      List.append_assoc]
    rfl

theorem head?_moreMembers (ms : List String) : (moreMembers ms).head? ≠ some '\'' := by
  cases ms with
  | nil => simp [moreMembers]
  | cons m ms => simp [moreMembers]

theorem members_inj {m n : String} {ms ns : List String}
    (h : ", ".intercalate ((m :: ms).map stringLiteral) = ", ".intercalate ((n :: ns).map stringLiteral)) :
    m :: ms = n :: ns := by
  induction ms generalizing m n ns with
  | nil =>
    have hchars := congrArg String.toList h
    rw [toList_members, toList_members] at hchars
    obtain ⟨rfl, hmore⟩ := stringLiteral_append_inj (head?_moreMembers _) (head?_moreMembers _) hchars
    cases ns with
    | nil => rfl
    | cons n' ns => simp [moreMembers] at hmore
  | cons m' ms ih =>
    have hchars := congrArg String.toList h
    rw [toList_members, toList_members] at hchars
    obtain ⟨rfl, hmore⟩ := stringLiteral_append_inj (head?_moreMembers _) (head?_moreMembers _) hchars
    cases ns with
    | nil => simp [moreMembers] at hmore
    | cons n' ns => rw [ih (String.toList_inj.1 (List.append_cancel_left hmore))]

/-- Members are known from their list. -/
theorem memberList_inj {keyword : String} {ms ns : List String} (h : memberList keyword ms = memberList keyword ns) :
    ms = ns := by
  cases ms with
  | nil =>
    cases ns with
    | nil => rfl
    | cons n ns => nomatch h
  | cons m ms =>
    cases ns with
    | nil => nomatch h
    | cons n ns => exact members_inj (Except.ok.inj h)

/-! ## Outcomes around a text -/

theorem append_append_inj {front behind a b : String} (h : front ++ a ++ behind = front ++ b ++ behind) : a = b := by
  simp only [← String.toList_inj, String.toList_append] at h
  exact String.toList_inj.1 (List.append_cancel_left (List.append_cancel_right h))

/-- A computation that writes one text of its argument once, and does not depend on the argument in anything else. -/
def Around {ε α : Type} (text : α → String) (f : α → Except ε String) : Prop :=
  ∃ frame : Except ε (String × String), ∀ a, f a = frame.map fun p => p.1 ++ text a ++ p.2

namespace Around

variable {ε α β : Type} {text : α → String}

theorem written {g : α → String} (front behind : String) (h : ∀ a, g a = front ++ text a ++ behind) :
    Around text fun a => (.ok (g a) : Except ε String) :=
  ⟨.ok (front, behind), fun a => congrArg Except.ok (h a)⟩

/-- Behind a computation that does not depend on the argument. -/
theorem after (x : Except ε β) {f : β → α → Except ε String} (h : ∀ b, Around text (f b)) :
    Around text fun a => x >>= fun b => f b a := by
  cases x with
  | error e => exact ⟨.error e, fun _ => rfl⟩
  | ok b => exact h b

/-- Written into another text. -/
theorem within {f : α → Except ε String} (h : Around text f) {g : String → Except ε String} (hg : Around id g) :
    Around text fun a => f a >>= g := by
  obtain ⟨frame, hframe⟩ := h
  obtain ⟨outer, houter⟩ := hg
  -- what fails without reading the text fails for all texts
  cases frame with
  | error e =>
    refine ⟨.error e, fun a => ?_⟩
    show f a >>= g = _
    rw [hframe]
    rfl
  | ok inner =>
    refine ⟨outer.map fun p => (p.1 ++ inner.1, inner.2 ++ p.2), fun a => ?_⟩
    have hinner : f a = .ok (inner.1 ++ text a ++ inner.2) := hframe a
    show f a >>= g = _
    rw [hinner]
    show g (inner.1 ++ text a ++ inner.2) = _
    rw [houter]
    cases outer with
    | error e => rfl
    | ok p => exact congrArg Except.ok (by simp [String.append_assoc])

/-- Equal results are written around equal texts. -/
theorem text_eq {f : α → Except ε String} (h : Around text f) {a b : α} {sql : String} (ha : f a = .ok sql)
    (hb : f b = .ok sql) : text a = text b := by
  obtain ⟨frame, hframe⟩ := h
  rw [hframe] at ha hb
  cases frame with
  | error e => nomatch ha
  | ok p => exact append_append_inj (Except.ok.inj (ha.trans hb.symm))

end Around

/-- One of several texts with a separator between them. -/
theorem intercalate_split (separator : String) (before behind : List String) :
    ∃ front rest, ∀ s, separator.intercalate (before ++ s :: behind) = front ++ s ++ rest := by
  induction before with
  | nil =>
    cases behind with
    | nil => exact ⟨"", "", fun s => by simp⟩
    | cons t behind =>
      refine ⟨"", separator ++ separator.intercalate (t :: behind), fun s => ?_⟩
      rw [List.nil_append, String.intercalate_cons_cons, String.append_assoc, String.empty_append]
  | cons t before ih =>
    obtain ⟨front, rest, h⟩ := ih
    refine ⟨t ++ separator ++ front, rest, fun s => ?_⟩
    have hne : before ++ s :: behind ≠ [] := by simp
    rw [List.cons_append, String.intercalate_cons_of_ne_nil hne, h, String.append_assoc, String.append_assoc]
    simp [String.append_assoc]

/-! ## Places of string literals in a table definition -/

/-- Where a text stands in a column. -/
inductive Column.TextPlace where
  | default
  | comment
  | enumMember (before behind : List String)
  | setMember (before behind : List String)

/-- A column with a text at a place. -/
def Column.put (c : Column) : Column.TextPlace → String → Column
  | .default, s => { c with default := some (.literal (.text s)) }
  | .comment, s => { c with comment := some s }
  | .enumMember before behind, s => { c with type := .enum (before ++ s :: behind) }
  | .setMember before behind, s => { c with type := .set (before ++ s :: behind) }

/-- Where a text stands in a table definition. -/
inductive TableDefinition.TextPlace where
  | comment
  | column (before : List Column) (c : Column) (place : Column.TextPlace) (behind : List Column)

/-- A table definition with a text at a place. -/
def TableDefinition.put (t : TableDefinition) : TableDefinition.TextPlace → String → TableDefinition
  | .comment, s => { t with comment := some s }
  | .column before c place behind, s => { t with columns := before ++ c.put place s :: behind }

theorem memberList_around (keyword : String) (before behind : List String) :
    Around stringLiteral fun s => memberList keyword (before ++ s :: behind) := by
  obtain ⟨front, rest, h⟩ := intercalate_split ", " (before.map stringLiteral) (behind.map stringLiteral)
  have hmembers (s : String) : memberList keyword (before ++ s :: behind) =
      .ok (", ".intercalate (before.map stringLiteral ++ stringLiteral s :: behind.map stringLiteral)) := by
    rw [memberList, if_neg (by simp), List.map_append, List.map_cons]
  simp only [hmembers]
  exact .written front rest fun s => h (stringLiteral s)

namespace Column

/-- The definition of a column around its type, its default and its comment. -/
def assembled (c : Column) (type default : Except SqlError String) (comment : String) : Except SqlError String := do
  let name ← quoteIdent c.name
  let type ← type
  let default ← default
  return name ++ " " ++ type ++ modifier c.unsigned " UNSIGNED" ++ modifier (!c.nullable) " NOT NULL" ++ default ++
    modifier c.autoIncrement " AUTO_INCREMENT" ++ modifier c.primary " PRIMARY KEY" ++ modifier c.unique " UNIQUE" ++
    comment

/-- The COMMENT modifier. -/
def commentSql (c : Column) : String :=
  (c.comment.map fun text => " COMMENT " ++ stringLiteral text).getD ""

theorem sql_eq_assembled (c : Column) : c.sql = c.assembled c.type.sql c.defaultSql c.commentSql :=
  rfl

variable {text : String → String}

theorem assembled_type (c : Column) {type : String → Except SqlError String} (h : Around text type)
    (default : Except SqlError String) (comment : String) :
    Around text fun s => c.assembled (type s) default comment := by
  unfold assembled
  refine .after _ fun name => .within h (.after _ fun default => ?_)
  refine .written (name ++ " ") (modifier c.unsigned " UNSIGNED" ++ modifier (!c.nullable) " NOT NULL" ++ default ++
    modifier c.autoIncrement " AUTO_INCREMENT" ++ modifier c.primary " PRIMARY KEY" ++ modifier c.unique " UNIQUE" ++
    comment) fun type => ?_
  simp only [id, String.append_assoc]

theorem assembled_default (c : Column) (type : Except SqlError String) {default : String → Except SqlError String}
    (h : Around text default) (comment : String) : Around text fun s => c.assembled type (default s) comment := by
  unfold assembled
  refine .after _ fun name => .after _ fun type => .within h ?_
  refine .written (name ++ " " ++ type ++ modifier c.unsigned " UNSIGNED" ++ modifier (!c.nullable) " NOT NULL")
    (modifier c.autoIncrement " AUTO_INCREMENT" ++ modifier c.primary " PRIMARY KEY" ++
      modifier c.unique " UNIQUE" ++ comment) fun default => ?_
  simp only [id, String.append_assoc]

theorem assembled_comment (c : Column) (type default : Except SqlError String) (keywords : String) :
    Around text fun s => c.assembled type default (keywords ++ text s) := by
  unfold assembled
  refine .after _ fun name => .after _ fun type => .after _ fun default => ?_
  refine .written (name ++ " " ++ type ++ modifier c.unsigned " UNSIGNED" ++ modifier (!c.nullable) " NOT NULL" ++
    default ++ modifier c.autoIncrement " AUTO_INCREMENT" ++ modifier c.primary " PRIMARY KEY" ++
      modifier c.unique " UNIQUE" ++ keywords) "" fun s => ?_
  simp only [String.append_assoc, String.append_empty]

/-- The definition of a column, with a text at one of its places. -/
theorem sql_around (c : Column) (place : TextPlace) : Around stringLiteral fun s => (c.put place s).sql := by
  simp only [sql_eq_assembled]
  cases place with
  | default => exact c.assembled_default c.type.sql (.written " DEFAULT " "" fun s => by simp) c.commentSql
  | comment => exact c.assembled_comment c.type.sql c.defaultSql " COMMENT "
  | enumMember before behind =>
    exact c.assembled_type (.within (memberList_around "ENUM" before behind) (.written "ENUM(" ")" fun _ => rfl))
      c.defaultSql c.commentSql
  | setMember before behind =>
    exact c.assembled_type (.within (memberList_around "SET" before behind) (.written "SET(" ")" fun _ => rfl))
      c.defaultSql c.commentSql

theorem primary_put (c : Column) (place : TextPlace) (s : String) : (c.put place s).primary = c.primary := by
  cases place <;> rfl

/-- The keys of a column do not depend on its texts. -/
theorem keys_put (c : Column) (place : TextPlace) (s : String) :
    (c.put place s).name = c.name ∧ (c.put place s).index = c.index ∧ (c.put place s).references = c.references := by
  cases place <;> exact ⟨rfl, rfl, rfl⟩

end Column

namespace TableDefinition

/-- The items of a table without its columns. -/
def keyItems (t : TableDefinition) : List Item :=
  t.primary.toList.map .primary ++ t.uniques.map .unique ++ (t.columns.filter (·.index)).map .indexed ++
    t.indexes.map .index ++ (t.columns.filterMap fun c => c.references.map (Item.reference c)) ++
    t.foreign.map .foreign

theorem definitions_eq_keyItems (t : TableDefinition) : t.definitions = do
    let columns ← t.columns.mapM Column.sql
    let keys ← (t.keyItems.map Item.sql).mapM id
    return columns ++ keys := by
  have hitems : t.items = t.columns.map .column ++ t.keyItems := by
    simp only [items, keyItems, List.append_assoc]
  rw [definitions_eq, hitems, List.mapM_append, List.mapM_map, List.mapM_map]
  rfl

theorem keyItems_put (t : TableDefinition) (before behind : List Column) (c : Column) (place : Column.TextPlace)
    (s : String) : (t.put (.column before c place behind) s).keyItems.map Item.sql =
      { t with columns := before ++ c :: behind : TableDefinition }.keyItems.map Item.sql := by
  obtain ⟨hname, hindex, hreferences⟩ := c.keys_put place s
  have hindexed : Item.sql (.indexed (c.put place s)) = Item.sql (.indexed c) := by
    simp only [Item.sql, indexDefinition, hname]
  have hreference (target : String) :
      Item.sql (.reference (c.put place s) target) = Item.sql (.reference c target) := by
    simp only [Item.sql, referenceDefinition, hname]
  have hindexes : (((before ++ c.put place s :: behind).filter (·.index)).map Item.indexed).map Item.sql =
      (((before ++ c :: behind).filter (·.index)).map Item.indexed).map Item.sql := by
    rw [List.filter_append, List.filter_append, List.filter_cons, List.filter_cons, hindex]
    split_ifs <;> simp [hindexed]
  have hreferring : ((before ++ c.put place s :: behind).filterMap fun c => c.references.map (Item.reference c)).map
      Item.sql = ((before ++ c :: behind).filterMap fun c => c.references.map (Item.reference c)).map Item.sql := by
    rw [List.filterMap_append, List.filterMap_append, List.filterMap_cons, List.filterMap_cons, hreferences]
    cases c.references <;> simp [hreference]
  simp only [keyItems, TableDefinition.put, List.map_append, hindexes, hreferring]

/-- There are columns, and a primary key is declared in one way. -/
def fits (t : TableDefinition) : Except SqlError Unit := do
  if t.columns.isEmpty then throw (.schema s!"table `{t.name}` has no columns")
  if t.primary.isSome && t.columns.any (·.primary) then
    throw (.schema s!"table `{t.name}` declares both a column and a composite primary key")

/-- The statement around the definitions and the comment. -/
def assembled (t : TableDefinition) (definitions : Except SqlError String) (comment : String) :
    Except SqlError String := do
  let definitions ← definitions
  let name ← quoteIdent t.name
  return "CREATE TABLE IF NOT EXISTS " ++ name ++ " (" ++ definitions ++ ") ENGINE=" ++ t.engine.sql ++ comment

/-- The COMMENT option. -/
def commentSql (t : TableDefinition) : String :=
  (t.comment.map fun text => ", COMMENT=" ++ stringLiteral text).getD ""

theorem build_eq_assembled (t : TableDefinition) : t.build = t.fits >>= fun _ =>
    t.assembled (t.definitions >>= fun ds => .ok (", ".intercalate ds)) t.commentSql := by
  unfold build fits assembled commentSql
  split_ifs <;> simp only [bind_assoc] <;> rfl

theorem fits_put (t : TableDefinition) (before behind : List Column) (c : Column) (place : Column.TextPlace)
    (s : String) : (t.put (.column before c place behind) s).fits =
      { t with columns := before ++ c :: behind : TableDefinition }.fits := by
  simp [fits, TableDefinition.put, Column.primary_put]

/-- The definitions of a table with commas between them, with a text in one of its columns. -/
theorem definitions_around (t : TableDefinition) (before behind : List Column) (c : Column) (place : Column.TextPlace) :
    Around stringLiteral fun s =>
      (t.put (.column before c place behind) s).definitions >>= fun ds => .ok (", ".intercalate ds) := by
  have hcolumns (s : String) : (t.put (.column before c place behind) s).columns.mapM Column.sql = do
      let ds ← before.mapM Column.sql
      let d ← (c.put place s).sql
      let es ← behind.mapM Column.sql
      return ds ++ d :: es := by
    simp only [TableDefinition.put, List.mapM_append, List.mapM_cons, bind_assoc, pure_bind]
  simp only [definitions_eq_keyItems, keyItems_put, hcolumns, bind_assoc, pure_bind]
  refine .after _ fun ds => .within (c.sql_around place) (.after _ fun es => .after _ fun keys => ?_)
  obtain ⟨front, rest, h⟩ := intercalate_split ", " ds (es ++ keys)
  refine .written front rest fun d => ?_
  rw [List.append_assoc, List.cons_append, h]
  rfl

/-- The statement that creates a table, with a text at one of its places. -/
theorem build_around (t : TableDefinition) (place : TextPlace) :
    Around stringLiteral fun s => (t.put place s).build := by
  simp only [build_eq_assembled]
  -- the literal is the last thing written, or lies within one of the definitions
  cases place with
  | comment =>
    show Around stringLiteral fun s => t.fits >>= fun _ =>
      t.assembled (t.definitions >>= fun ds => .ok (", ".intercalate ds)) (", COMMENT=" ++ stringLiteral s)
    refine .after _ fun _ => .after _ fun definitions => .after _ fun name => ?_
    refine .written ("CREATE TABLE IF NOT EXISTS " ++ name ++ " (" ++ definitions ++ ") ENGINE=" ++ t.engine.sql ++
      ", COMMENT=") "" fun s => ?_
    simp only [String.append_assoc, String.append_empty]
  | column before c place behind =>
    simp only [fits_put]
    refine .after _ fun _ => ?_
    show Around stringLiteral fun s => t.assembled
      ((t.put (.column before c place behind) s).definitions >>= fun ds => .ok (", ".intercalate ds)) t.commentSql
    refine .within (t.definitions_around before behind c place) (.after _ fun name => ?_)
    refine .written ("CREATE TABLE IF NOT EXISTS " ++ name ++ " (") (") ENGINE=" ++ t.engine.sql ++ t.commentSql)
      fun definitions => ?_
    simp only [String.append_assoc]
    rfl

end TableDefinition

/-! ## Reading a literal back -/

/-- Members are known from the text of their type. -/
theorem ColumnType.members_inj {keyword front behind : String} {ms ns : List String}
    (h : (memberList keyword ms >>= fun list => .ok (front ++ list ++ behind)) =
      memberList keyword ns >>= fun list => .ok (front ++ list ++ behind)) : ms = ns := by
  apply @memberList_inj keyword
  cases hms : memberList keyword ms <;> cases hns : memberList keyword ns <;> rw [hms, hns] at h
  case error.error => exact h
  case ok.ok => exact congrArg Except.ok (append_append_inj (Except.ok.inj h))
  all_goals nomatch h

theorem toList_around_stringLiteral (s before r : String) : (before ++ stringLiteral s ++ r).toList =
    before.toList ++ '\'' :: (literalBody s.toList ++ '\'' :: r.toList) := by
  simp only [String.toList_append, toList_stringLiteral, List.append_assoc, List.cons_append, List.nil_append]

theorem skipQuoted_stringLiteral (s before : String) {r : String} (hr : r.toList.head? ≠ some '\'') :
    skipQuoted (escapeIn '\'') '\'' (before ++ stringLiteral s ++ r).toList before.length =
      before.length + (stringLiteral s).length := by
  have hlength : (stringLiteral s).length = (literalBody s.toList).length + 2 := by
    rw [← String.length_toList, toList_stringLiteral, List.length_cons, List.length_append]
    rfl
  rw [toList_around_stringLiteral, ← String.length_toList, skipQuoted_append, quotedLength_literalBody s.toList hr,
    hlength]
  omega

theorem skipQuoted_bytes_stringLiteral (s before : String) {r : String} (hr : r.toList.head? ≠ some '\'') :
    skipQuoted ((escapeIn '\'').map Char.toUInt8) '\''.toUInt8 (bytes (before ++ stringLiteral s ++ r))
      before.utf8ByteSize = before.utf8ByteSize + (stringLiteral s).utf8ByteSize := by
  have hescape : ∀ e ∈ escapeIn '\'', e.toNat < 128 := by
    intro e he
    rw [(escapeIn_eq_some_iff.1 he).1]
    decide
  have hquote : '\''.toNat < 128 := by decide
  have htake : (before ++ stringLiteral s ++ r).toList.take (before.length + (stringLiteral s).length) =
      (before ++ stringLiteral s).toList := by
    rw [String.toList_append, ← String.length_append, ← String.length_toList, List.take_left]
  have hbytes := skipQuoted_utf8 hescape hquote before.toList (literalBody s.toList ++ '\'' :: r.toList)
  rw [← toList_around_stringLiteral, String.length_toList, skipQuoted_stringLiteral s before hr, htake,
    ← bytes_eq_utf8, ← bytes_eq_utf8, ← bytes_eq_utf8, length_bytes, length_bytes,
    String.utf8ByteSize_append] at hbytes
  exact hbytes

/-- For a scan for markers a string literal is text. -/
theorem segmentsFrom_stringLiteral (s : String) {r : String} (hr : r.toList.head? ≠ some '\'') :
    segmentsFrom .outside (stringLiteral s ++ r).toList =
      (stringLiteral s).toList.foldr consText (segmentsFrom .outside r.toList) := by
  have hopen : Quoting.step .outside '\'' = .inside '\'' := by decide
  have hmark : Quoting.outside = .outside → '\'' ≠ '?' := fun _ => by decide
  have hbody : literalBody s.toList ++ '\'' :: r.toList = literalBody s.toList ++ ['\''] ++ r.toList := by
    rw [List.append_assoc]
    rfl
  have hlength : (literalBody s.toList).length + 1 = (literalBody s.toList ++ ['\'']).length := by
    rw [List.length_append]
    rfl
  rw [String.toList_append, toList_stringLiteral, List.cons_append, List.append_assoc]
  show segmentsFrom .outside ('\'' :: (literalBody s.toList ++ '\'' :: r.toList)) = _
  rw [segmentsFrom_cons hmark, hopen, segmentsFrom_inside (by decide), quotedLength_literalBody s.toList hr, hbody,
    hlength, List.take_left, List.drop_left, List.foldr_cons]

/-- A string literal is passed as a whole, in characters and in bytes, wherever it stands and whatever follows it, but
for a quote; what it says is the text that it was made from; and so texts are known from their literals, members from
the text of their type, and the text at one place of a table definition from the whole statement. -/
theorem stringLiteral_read (s before r : String) (hr : r.toList.head? ≠ some '\'') :
    skipQuoted (escapeIn '\'') '\'' (before ++ stringLiteral s ++ r).toList before.length =
        before.length + (stringLiteral s).length ∧
      skipQuoted ((escapeIn '\'').map Char.toUInt8) '\''.toUInt8 (bytes (before ++ stringLiteral s ++ r))
        before.utf8ByteSize = before.utf8ByteSize + (stringLiteral s).utf8ByteSize ∧
      segmentsFrom .outside (stringLiteral s ++ r).toList =
        (stringLiteral s).toList.foldr consText (segmentsFrom .outside r.toList) ∧
      (∃ body, (stringLiteral s).toList = '\'' :: (body ++ ['\'']) ∧
        unescaped (escapeIn '\'') '\'' body = s.toList) ∧
      (∀ t, stringLiteral s = stringLiteral t → s = t) ∧
      (∀ ms ns, (ColumnType.enum ms).sql = (ColumnType.enum ns).sql → ms = ns) ∧
      (∀ ms ns, (ColumnType.set ms).sql = (ColumnType.set ns).sql → ms = ns) ∧
      ∀ (t : TableDefinition) (place : TableDefinition.TextPlace) (text sql : String),
        (t.put place s).build = .ok sql → (t.put place text).build = .ok sql → s = text := by
  refine ⟨skipQuoted_stringLiteral s before hr, skipQuoted_bytes_stringLiteral s before hr,
    segmentsFrom_stringLiteral s hr, ⟨_, toList_stringLiteral s, unescaped_literalBody s.toList⟩,
    fun t h => stringLiteral_inj h, fun ms ns h => ColumnType.members_inj h,
    fun ms ns h => ColumnType.members_inj h, ?_⟩
  intro t place text sql hs htext
  exact stringLiteral_inj ((t.build_around place).text_eq hs htext)

theorem stringLiteral_read_accented :
    ")".toList.head? ≠ some '\'' ∧ stringLiteral "é'\\" = "'é''\\\\'" ∧
      skipQuoted (escapeIn '\'') '\'' ("ENUM(" ++ stringLiteral "é'\\" ++ ")").toList 5 = 12 ∧
      skipQuoted ((escapeIn '\'').map Char.toUInt8) '\''.toUInt8 (bytes ("ENUM(" ++ stringLiteral "é'\\" ++ ")")) 5 =
        13 := by
  have hr : ")".toList.head? ≠ some '\'' := by decide
  have hliteral : stringLiteral "é'\\" = "'é''\\\\'" := by decide
  obtain ⟨hchars, hbytes, -⟩ := stringLiteral_read "é'\\" "ENUM(" ")" hr
  have hlength : "ENUM(".length + (stringLiteral "é'\\").length = 12 := by
    rw [hliteral]
    decide
  have hsize : "ENUM(".utf8ByteSize + (stringLiteral "é'\\").utf8ByteSize = 13 := by
    rw [hliteral]
    decide
  exact ⟨hr, hliteral, hchars.trans hlength, hbytes.trans hsize⟩

end FluentSql

import FluentSql.Proofs.LockStep
import FluentSql.Statement.Fluent
import Mathlib

/-!
# FluentSql.Proofs.ColumnOrder — payloads from maps

A map has no order of its own: its pairs come in any order. Sorting the columns makes up for this as long as no two
different values are written to one column.

* `Record.fields_ofPairs`: the fields of a map, one for each pair.
* `written`: the columns that the pairs of a map are written to, with their values.
* `Record.entries_ofPairs_perm`: sorted entries do not depend on the order of the pairs.
* `PayloadUse`: the ways in which a statement takes a record.
* `build_of_reordered`: with sorted columns, a statement does not depend on the order of the pairs of its payload.
* `build_of_meeting_names`: where two names meet in one column, it does.
-/

namespace FluentSql

variable {α : Type}

/-! ## Records of maps -/

namespace Record

/-- A pair as a field. -/
def fieldOfPair (p : String × α) : Field α :=
  { name := p.1, value := p.2 }

theorem putInto_of_new {f : Field α} {fs : List (Field α)} (h : ∀ g ∈ fs, g.name ≠ f.name) :
    putInto f fs = fs ++ [f] := by
  induction fs with
  | nil => rfl
  | cons g gs ih =>
    obtain ⟨hg, hgs⟩ := List.forall_mem_cons.1 h
    rw [putInto, if_neg hg, ih hgs, List.cons_append]

/-- Pairs with different names become fields in their order. -/
theorem fields_ofPairs {ps : List (String × α)} (h : (ps.map Prod.fst).Nodup) :
    (ofPairs ps).fields = ps.map fieldOfPair := by
  induction ps using List.reverseRecOn with
  | nil => rfl
  | append_singleton ps p ih =>
    rw [List.map_append, List.nodup_append] at h
    obtain ⟨hps, -, hnew⟩ := h
    have hstep : (ofPairs (ps ++ [p])).fields = putInto (fieldOfPair p) (ofPairs ps).fields := by
      rw [ofPairs, List.foldl_append]
      rfl
    rw [hstep, ih hps, putInto_of_new, List.map_append]
    · rfl
    · intro g hg
      obtain ⟨q, hq, rfl⟩ := List.mem_map.1 hg
      exact hnew _ (List.mem_map_of_mem hq) _ (List.mem_singleton.2 rfl)

end Record

/-! ## Entries -/

/-- What the pairs of a map are written to under rules: columns with values, in the order of the pairs. -/
def written (rules : PayloadRules) (ps : List (String × Arg)) : List (String × Arg) :=
  ps.filterMap fun p => Field.entry? id rules (Record.fieldOfPair p)

/-- With the names as columns, a pair is written as it is or left out. -/
theorem written_sublist {rules : PayloadRules} (h : rules.config.columnNaming = .asIs) (ps : List (String × Arg)) :
    (written rules ps).Sublist ps := by
  induction ps with
  | nil => exact .slnil
  | cons p ps ih =>
    rw [written, List.filterMap_cons]
    cases hentry : Field.entry? id rules (Record.fieldOfPair p) with
    | none => exact ih.cons p
    | some entry =>
      have hname : (Record.fieldOfPair p).column rules.config.columnNaming = some p.1 := by
        rw [h]
        rfl
      -- names are kept as they are, so an entry that is written is the pair itself
      have hsame : entry = p := by
        rw [Field.entry?, hname] at hentry
        dsimp only at hentry
        split_ifs at hentry
        cases hentry
        rfl
      rw [hsame]
      exact ih.cons_cons p

/-- The order in which entries are sorted: by column. -/
def columnLe (a b : String × α) : Bool :=
  !(b.1 < a.1)

theorem columnLe_iff {a b : String × α} : columnLe a b = true ↔ a.1 ≤ b.1 := by
  rw [columnLe, Bool.not_eq_true', decide_eq_false_iff_not, String.not_lt]

theorem columnLe_trans (a b c : String × α) (hab : columnLe a b = true) (hbc : columnLe b c = true) :
    columnLe a c = true :=
  columnLe_iff.2 (String.le_trans (columnLe_iff.1 hab) (columnLe_iff.1 hbc))

theorem columnLe_total (a b : String × α) : (columnLe a b || columnLe b a) = true := by
  rw [Bool.or_eq_true, columnLe_iff, columnLe_iff]
  exact String.le_total a.1 b.1

theorem pairwise_mergeSort_columnLe (es : List (String × α)) :
    (es.mergeSort columnLe).Pairwise fun a b => columnLe a b = true :=
  List.pairwise_mergeSort columnLe_trans columnLe_total es

/-- Entries with one value for each column are sorted in one way only. -/
theorem mergeSort_columnLe_perm {es fs : List (String × α)} (hperm : es.Perm fs)
    (hcolumns : ∀ a ∈ es, ∀ b ∈ es, a.1 = b.1 → a = b) : es.mergeSort columnLe = fs.mergeSort columnLe := by
  have hsorted : (es.mergeSort columnLe).Perm (fs.mergeSort columnLe) :=
    (es.mergeSort_perm columnLe).trans (hperm.trans (fs.mergeSort_perm columnLe).symm)
  refine hsorted.eq_of_pairwise (fun a b ha hb hab hba => ?_) (pairwise_mergeSort_columnLe es)
    (pairwise_mergeSort_columnLe fs)
  have ha' : a ∈ es := (es.mergeSort_perm columnLe).mem_iff.1 ha
  have hb' : b ∈ es := hperm.mem_iff.2 ((fs.mergeSort_perm columnLe).mem_iff.1 hb)
  -- neither comes first by its column, so both are the same entry, and it does not matter how ties are sorted
  have hcolumn : a.1 = b.1 := String.le_antisymm (columnLe_iff.1 hab) (columnLe_iff.1 hba)
  exact hcolumns a ha' b hb' hcolumn

/-- The entries of a map are what is written, sorted. -/
theorem Record.entries_ofPairs {ps : List (String × Arg)} (hkeys : (ps.map Prod.fst).Nodup) {rules : PayloadRules}
    (horder : rules.config.orderColumns = true) :
    (ofPairs ps).entries id rules = (written rules ps).mergeSort columnLe := by
  rw [entries, fields_ofPairs hkeys, List.filterMap_map, if_pos horder]
  rfl

/-- Sorted entries do not depend on the order of the pairs of a map, as long as no two values meet in one column. -/
theorem Record.entries_ofPairs_perm {ps qs : List (String × Arg)} (hperm : ps.Perm qs)
    (hkeys : (ps.map Prod.fst).Nodup) {rules : PayloadRules} (horder : rules.config.orderColumns = true)
    (hcolumns : ∀ a ∈ written rules ps, ∀ b ∈ written rules ps, a.1 = b.1 → a = b) :
    (ofPairs ps).entries id rules = (ofPairs qs).entries id rules := by
  have hkeys' : (qs.map Prod.fst).Nodup := (hperm.map Prod.fst).nodup_iff.1 hkeys
  rw [entries_ofPairs hkeys horder, entries_ofPairs hkeys' horder]
  exact mergeSort_columnLe_perm (hperm.filterMap _) hcolumns

/-! ## Statements with equal entries -/

theorem Arg.arg_comp_operand : Operand.arg ∘ Arg.operand = id := by
  funext a
  rw [Function.comp_apply, Arg.operand_eq, RenderedArg.arg_operand, Arg.arg_rendered, id]

/-- Records with the same entries have the same entries once their arguments are rendered. -/
theorem Record.entries_operand {r r' : Record Arg} {rules : PayloadRules}
    (h : r.entries id rules = r'.entries id rules) :
    (r.map Arg.operand).entries Operand.arg rules = (r'.map Arg.operand).entries Operand.arg rules := by
  rw [entries_map, entries_map, Arg.arg_comp_operand, h]

namespace Clauses

variable (c : Clauses Operand Subquery) {r r' : Record Operand}

/-- Assignments depend on a record only through its entries. -/
theorem assignmentsText_congr {rules : PayloadRules} (context : String)
    (h : r.entries Operand.arg rules = r'.entries Operand.arg rules) :
    c.assignmentsText rules context r = c.assignmentsText rules context r' := by
  unfold assignmentsText
  rw [h]

/-- Values depend on a record only through its entries. -/
theorem valuesText_congr
    (h : r.entries Operand.arg (c.payloadRules false) = r'.entries Operand.arg (c.payloadRules false)) :
    c.valuesText [r] = c.valuesText [r'] := by
  unfold valuesText
  rw [Payload.ofRecords, Payload.ofRecords, h]

theorem insertHead_congr (verb : String) (leading : List String)
    (h : r.entries Operand.arg (c.payloadRules false) = r'.entries Operand.arg (c.payloadRules false)) :
    c.insertHead verb leading [r] = c.insertHead verb leading [r'] := by
  unfold insertHead
  rw [c.valuesText_congr h]

theorem updateHead_congr (leading : List String) (patch : Bool)
    (h : r.entries Operand.arg (c.payloadRules patch) = r'.entries Operand.arg (c.payloadRules patch)) :
    c.updateHead leading patch r = c.updateHead leading patch r' := by
  unfold updateHead
  rw [c.assignmentsText_congr "SET" h]

/-- Clauses that differ only in what the head and the duplicate clause write. -/
theorem assembleClauses_congr {o o' : Operation Operand Subquery} {d d' : Option (Record Operand)}
    (hhead : ∀ leading, { c with operation := o, duplicate := d }.head leading =
      { c with operation := o', duplicate := d' }.head leading)
    (hduplicate : { c with operation := o, duplicate := d }.duplicateClause =
      { c with operation := o', duplicate := d' }.duplicateClause) (withAlias : Bool) :
    { c with operation := o, duplicate := d }.assembleClauses withAlias =
      { c with operation := o', duplicate := d' }.assembleClauses withAlias := by
  unfold assembleClauses
  simp only [hhead, hduplicate]
  rfl

end Clauses

/-! ## Uses of a record -/

/-- The ways in which a statement takes a record. -/
inductive PayloadUse where
  | insert
  | replace
  | update
  | patch
  | onDuplicate
  deriving DecidableEq, Repr

namespace PayloadUse

variable {α σ : Type}

/-- Clauses that take a record. -/
def takeInto (c : Clauses α σ) (row : Record α) : PayloadUse → Clauses α σ
  | insert => { c with operation := .insert [row] }
  | replace => { c with operation := .replace [row] }
  | update => { c with operation := .update row }
  | patch => { c with operation := .patch row }
  | onDuplicate => { c with duplicate := some row }

/-- A statement that takes a record. -/
def take (s : Statement) (row : Record Arg) : PayloadUse → Statement
  | insert => s.insert row
  | replace => s.replace row
  | update => s.update row
  | patch => s.patch row
  | onDuplicate => s.onDuplicate row

/-- The rules under which clauses read the record. -/
def rules (c : Clauses α σ) : PayloadUse → PayloadRules
  | patch => c.payloadRules true
  | onDuplicate => { c.payloadRules false with omitted := [] }
  | _ => c.payloadRules false

theorem take_eq (use : PayloadUse) (s : Statement) (row : Record Arg) :
    use.take s row = .mk (use.takeInto s.clauses row) := by
  cases use <;> rfl

theorem takeInto_map (use : PayloadUse) (c : Clauses Arg Statement) (row : Record Arg) :
    (use.takeInto c row).map Arg.operand Statement.subquery =
      use.takeInto (c.map Arg.operand Statement.subquery) (row.map Arg.operand) := by
  cases use <;> rfl

theorem rules_map (use : PayloadUse) (c : Clauses Arg Statement) :
    use.rules (c.map Arg.operand Statement.subquery) = use.rules c := by
  cases use <;> rfl

/-- Clauses depend on the record they take only through its entries. -/
theorem assemble_takeInto (use : PayloadUse) (c : Clauses Operand Subquery) {r r' : Record Operand}
    (h : r.entries Operand.arg (use.rules c) = r'.entries Operand.arg (use.rules c)) (withAlias : Bool) :
    (use.takeInto c r).assemble withAlias = (use.takeInto c r').assemble withAlias := by
  cases use with
  | insert =>
    let k : Clauses Operand Subquery := { c with operation := .insert [r] }
    have hhead (leading : List String) : k.head leading = { c with operation := .insert [r'] }.head leading :=
      k.insertHead_congr "INSERT" leading h
    exact c.assembleClauses_congr hhead rfl withAlias
  | replace =>
    let k : Clauses Operand Subquery := { c with operation := .replace [r] }
    have hhead (leading : List String) : k.head leading = { c with operation := .replace [r'] }.head leading :=
      k.insertHead_congr "REPLACE" leading h
    exact c.assembleClauses_congr hhead rfl withAlias
  | update =>
    let k : Clauses Operand Subquery := { c with operation := .update r }
    have hhead (leading : List String) : k.head leading = { c with operation := .update r' }.head leading :=
      k.updateHead_congr leading false h
    exact c.assembleClauses_congr hhead rfl withAlias
  | patch =>
    let k : Clauses Operand Subquery := { c with operation := .patch r }
    have hhead (leading : List String) : k.head leading = { c with operation := .patch r' }.head leading :=
      k.updateHead_congr leading true h
    exact c.assembleClauses_congr hhead rfl withAlias
  | onDuplicate =>
    -- the assignments stand beside any operation; a raw statement and one without an operation do not look at them
    have hclauses (o : Operation Operand Subquery) :
        { c with operation := o, duplicate := some r }.assembleClauses withAlias =
          { c with operation := o, duplicate := some r' }.assembleClauses withAlias := by
      refine c.assembleClauses_congr (fun leading => by cases o <;> rfl) ?_ withAlias
      let k : Clauses Operand Subquery := { c with operation := o, duplicate := some r }
      let written (x : Binder String) : Binder (List String) := do return ["ON DUPLICATE KEY UPDATE " ++ (← x)]
      exact congrArg written (k.assignmentsText_congr "ON DUPLICATE" h)
    show Clauses.assemble { c with operation := c.operation, duplicate := some r } withAlias =
      Clauses.assemble { c with operation := c.operation, duplicate := some r' } withAlias
    cases c.operation with
    | unset => rfl
    | raw template args => rfl
    | existence =>
      unfold Clauses.assemble
      simp only [hclauses .select]
    | select => exact hclauses _
    | insert rows => exact hclauses _
    | replace rows => exact hclauses _
    | update row => exact hclauses _
    | patch row => exact hclauses _
    | delete => exact hclauses _
    | insertSelect source columns => exact hclauses _

/-- A statement depends on the record it takes only through the entries. -/
theorem build_take (use : PayloadUse) (s : Statement) {r r' : Record Arg}
    (h : r.entries id (use.rules s.clauses) = r'.entries id (use.rules s.clauses)) :
    (use.take s r).build = (use.take s r').build := by
  have hbuild (row : Record Arg) : (use.take s row).build = Binder.standalone
      ((use.takeInto (s.clauses.map Arg.operand Statement.subquery) (row.map Arg.operand)).assemble true) := by
    rw [take_eq, Statement.build, Statement.subquery_mk, takeInto_map]
  have hrendered := Record.entries_operand h
  rw [← rules_map] at hrendered
  rw [hbuild, hbuild, assemble_takeInto use _ hrendered]

end PayloadUse

/-! ## Maps in any order -/

/-- **Sorted columns.** A statement with sorted columns takes the pairs of a map in any order and compiles to the same
text and values, or fails in the same way, as long as no two different values are written to one column. With the
names as columns this is always so. -/
theorem build_of_reordered {ps qs : List (String × Arg)} (hperm : ps.Perm qs) (hkeys : (ps.map Prod.fst).Nodup)
    (use : PayloadUse) (s : Statement) (horder : s.clauses.config.orderColumns = true)
    (hcolumns : s.clauses.config.columnNaming = .asIs ∨
      ∀ a ∈ written (use.rules s.clauses) ps, ∀ b ∈ written (use.rules s.clauses) ps, a.1 = b.1 → a = b) :
    (use.take s (.ofPairs ps)).build = (use.take s (.ofPairs qs)).build := by
  have hconfig : (use.rules s.clauses).config = s.clauses.config := by
    cases use <;> rfl
  have horder' : (use.rules s.clauses).config.orderColumns = true := by
    rw [hconfig, horder]
  refine use.build_take s (Record.entries_ofPairs_perm hperm hkeys horder' ?_)
  rcases hcolumns with hnaming | hcolumns
  · intro a ha b hb hab
    have hpairs : (written (use.rules s.clauses) ps).Sublist ps := written_sublist (by rw [hconfig, hnaming]) ps
    exact List.inj_on_of_nodup_map hkeys (hpairs.subset ha) (hpairs.subset hb) hab
  · exact hcolumns

/-- A statement with sorted columns in snake case. -/
def sortedTable : Statement :=
  (Statement.onTable "T").configure { columnNaming := .snakeCase, orderColumns := true }

/-- Two of the names stand for one column, but a patch leaves out the zero value of one of them. -/
theorem build_of_reversed :
    (PayloadUse.patch.take sortedTable
        (.ofPairs [("userName", .value (.int 1)), ("user_name", .value (.int 0)), ("age", .value (.int 2))])).build =
      (PayloadUse.patch.take sortedTable
        (.ofPairs [("age", .value (.int 2)), ("user_name", .value (.int 0)), ("userName", .value (.int 1))])).build := by
  refine build_of_reordered (List.reverse_perm _).symm (by decide) .patch sortedTable rfl (.inr ?_)
  show ∀ a ∈ [("user_name", Arg.value (.int 1)), ("age", .value (.int 2))],
    ∀ b ∈ [("user_name", Arg.value (.int 1)), ("age", .value (.int 2))], a.1 = b.1 → a = b
  simp

/-- An update from a map. -/
def sortedUpdate (ps : List (String × Arg)) : Statement :=
  PayloadUse.update.take sortedTable (.ofPairs ps)

section Meeting

variable {a b : String} (hab : a ≠ b) (ha : ColumnNaming.snakeCase.apply a = "user_name")
  (hb : ColumnNaming.snakeCase.apply b = "user_name") (v w : Value)

include hab ha hb

/-- Sorting leaves the values of one column in the order of the map. -/
theorem entries_of_one_column :
    Record.entries id (PayloadUse.update.rules sortedTable.clauses) (.ofPairs [(a, .value v), (b, .value w)]) =
      [("user_name", .value v), ("user_name", .value w)] := by
  have hkeys : ([(a, Arg.value v), (b, Arg.value w)].map Prod.fst).Nodup := by simp [hab]
  have hentry (name : String) (u : Value) (hname : ColumnNaming.snakeCase.apply name = "user_name") :
      Field.entry? id (PayloadUse.update.rules sortedTable.clauses) (Record.fieldOfPair (name, .value u)) =
        some ("user_name", .value u) := by
    have hcolumn : (Record.fieldOfPair (name, Arg.value u)).column .snakeCase = some "user_name" := congrArg some hname
    rw [Field.entry?, show (PayloadUse.update.rules sortedTable.clauses).config.columnNaming = .snakeCase from rfl,
      hcolumn]
    rfl
  have hwritten : written (PayloadUse.update.rules sortedTable.clauses) [(a, .value v), (b, .value w)] =
      [("user_name", .value v), ("user_name", .value w)] := by
    rw [written, List.filterMap_cons, List.filterMap_cons, hentry a v ha, hentry b w hb]
    rfl
  rw [Record.entries_ofPairs hkeys rfl, hwritten]
  exact List.mergeSort_of_pairwise (List.pairwise_pair.2 (columnLe_iff.2 (String.le_refl "user_name")))

/-- Two names that meet in one column are assigned in the order of the map. -/
theorem build_of_one_column : (sortedUpdate [(a, .value v), (b, .value w)]).build =
    .ok ⟨"UPDATE T SET user_name = ?, user_name = ?", [v, w]⟩ := by
  let row : Record Operand := Record.map Arg.operand (.ofPairs [(a, .value v), (b, .value w)])
  let c : Clauses Operand Subquery :=
    PayloadUse.update.takeInto (sortedTable.clauses.map Arg.operand Statement.subquery) row
  have hvalue (u : Value) : (Arg.value u).operand = ⟨.value u, fun _ _ => Binder.bindValue u⟩ := by rw [Arg.operand]
  have hentries : row.entries Operand.arg (PayloadUse.update.rules sortedTable.clauses) =
      [("user_name", ⟨.value v, fun _ _ => Binder.bindValue v⟩),
        ("user_name", ⟨.value w, fun _ _ => Binder.bindValue w⟩)] := by
    rw [Record.entries_map, Arg.arg_comp_operand, entries_of_one_column hab ha hb, ← hvalue, ← hvalue]
    rfl
  have hbuild : (sortedUpdate [(a, .value v), (b, .value w)]).build = Binder.standalone (c.assembleClauses true) := by
    rw [sortedUpdate, PayloadUse.take_eq, Statement.build, Statement.subquery_mk, PayloadUse.takeInto_map]
    rfl
  have hhead (leading : List String) : c.head leading = (do
      let pairs ← c.assignmentsText (PayloadUse.update.rules sortedTable.clauses) "SET" row
      return "UPDATE " ++ Clauses.optionsText leading ++ "T" ++ " SET " ++ pairs) := rfl
  rw [hbuild, Clauses.assembleClauses]
  simp only [hhead, Clauses.assignmentsText, hentries]
  rfl

end Meeting

/-- Two different names that meet in one column: the values are bound in the order of the map, so that the two orders
of one map compile to different queries although the columns are sorted. -/
theorem build_of_meeting_names :
    [("userName", Arg.value (.int 1)), ("user_name", .value (.int 2))].Perm
        [("user_name", .value (.int 2)), ("userName", .value (.int 1))] ∧
      ([("userName", Arg.value (.int 1)), ("user_name", .value (.int 2))].map Prod.fst).Nodup ∧
      (sortedUpdate [("userName", .value (.int 1)), ("user_name", .value (.int 2))]).build =
        .ok ⟨"UPDATE T SET user_name = ?, user_name = ?", [.int 1, .int 2]⟩ ∧
      (sortedUpdate [("user_name", .value (.int 2)), ("userName", .value (.int 1))]).build =
        .ok ⟨"UPDATE T SET user_name = ?, user_name = ?", [.int 2, .int 1]⟩ := by
  refine ⟨.swap _ _ _, by decide, ?_, ?_⟩
  · exact build_of_one_column (by decide) (by decide) (by decide) _ _
  · exact build_of_one_column (by decide) (by decide) (by decide) _ _

end FluentSql

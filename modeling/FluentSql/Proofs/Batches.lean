import FluentSql.Proofs.ColumnOrder

/-!
# FluentSql.Proofs.Batches — several records under the columns of the first

A statement that inserts or replaces several records takes the columns of the first one. The other records are looked
up by column, so that each value stands under its own column whatever the order of the fields.

* `Field.WritesTo`, `Record.valueUnder`: the column of a field, and the first value of a record there.
* `Record.HasColumns`: the columns of a record are those that its fields write to, in their order or sorted.
* `Record.find?_entries`: looking up a column among the entries is looking up the field. Sorting does not matter,
  because equal columns keep their order (`find?_mergeSort_columnLe`).
* `Statement.batch`: columns and groups of a batch. `Payload.valueGroups`, `Payload.rows`: the groups as they are
  written, and the columns with the values of each.
* `Record.Rearranged`: what may differ between two later records.
* `batch_aligned`: a batch is rectangular and aligned by column.
-/

namespace FluentSql

/-! ## Fields by column -/

section WritesTo

variable {α : Type} {rules : PayloadRules}

/-- A field writes to a column: its name or its rename comes to that column, and neither is left out. -/
def Field.WritesTo (rules : PayloadRules) (column : String) (f : Field α) : Prop :=
  f.column rules.config.columnNaming = some column ∧ column ∉ rules.omitted ∧ f.name ∉ rules.omitted

instance (column : String) (f : Field α) : Decidable (f.WritesTo rules column) :=
  inferInstanceAs (Decidable (_ ∧ _))

/-- The value of the first field that writes to a column. -/
def Record.valueUnder (rules : PayloadRules) (r : Record α) (column : String) : Option α :=
  (r.fields.find? fun f => decide (f.WritesTo rules column)).map (·.value)

/-- Where zero values are kept, a field has an entry for the column that it writes to. -/
theorem Field.entry?_eq_some_iff (hpatch : rules.patch = false) {arg : α → Arg} {f : Field α} {column : String}
    {value : α} : f.entry? arg rules = some (column, value) ↔ f.WritesTo rules column ∧ f.value = value := by
  unfold entry? WritesTo
  cases f.column rules.config.columnNaming with
  | none => simp
  | some c =>
    simp only [hpatch, Bool.false_and, Bool.false_eq_true, if_false, List.any_eq_true, Bool.or_eq_true, beq_iff_eq]
    constructor
    · intro h
      split_ifs at h with homitted
      obtain ⟨rfl, rfl⟩ := Prod.mk.inj (Option.some.inj h)
      exact ⟨⟨rfl, fun hc => homitted ⟨_, hc, .inl rfl⟩, fun hn => homitted ⟨_, hn, .inr rfl⟩⟩, rfl⟩
    · rintro ⟨⟨hc, hcolumn, hname⟩, rfl⟩
      obtain rfl := Option.some.inj hc
      rw [if_neg]
      rintro ⟨o, ho, rfl | rfl⟩
      · exact hcolumn ho
      · exact hname ho

theorem Field.any_entry? (hpatch : rules.patch = false) (arg : α → Arg) (f : Field α) (column : String) :
    ((f.entry? arg rules).any fun e => e.1 == column) = decide (f.WritesTo rules column) := by
  rw [Bool.eq_iff_iff, decide_eq_true_iff, Option.any_eq_true]
  constructor
  · rintro ⟨⟨c, value⟩, hentry, hc⟩
    obtain rfl := beq_iff_eq.1 hc
    exact ((entry?_eq_some_iff hpatch).1 hentry).1
  · intro h
    exact ⟨(column, f.value), (entry?_eq_some_iff hpatch).2 ⟨h, rfl⟩, beq_self_eq_true column⟩

/-- These are the columns that fields write to: one for each field that is not left out, in the order of the fields. -/
inductive WritesColumns (rules : PayloadRules) : List (Field α) → List String → Prop
  | nil : WritesColumns rules [] []
  | written {f : Field α} {fs : List (Field α)} {column : String} {columns : List String}
      (h : f.WritesTo rules column) (rest : WritesColumns rules fs columns) :
      WritesColumns rules (f :: fs) (column :: columns)
  | leftOut {f : Field α} {fs : List (Field α)} {columns : List String} (h : ∀ column, ¬ f.WritesTo rules column)
      (rest : WritesColumns rules fs columns) : WritesColumns rules (f :: fs) columns

/-- These are the columns of a record: those that its fields write to, in the order of the fields, or sorted. -/
def Record.HasColumns (rules : PayloadRules) (r : Record α) (columns : List String) : Prop :=
  ∃ written, WritesColumns rules r.fields written ∧
    if rules.config.orderColumns then columns.Perm written ∧ columns.Pairwise (· ≤ ·) else columns = written

theorem writesColumns_entries (hpatch : rules.patch = false) (arg : α → Arg) (fs : List (Field α)) :
    WritesColumns rules fs ((fs.filterMap (Field.entry? arg rules)).map Prod.fst) := by
  induction fs with
  | nil => exact .nil
  | cons f fs ih =>
    rw [List.filterMap_cons]
    cases hentry : f.entry? arg rules with
    | none =>
      refine .leftOut (fun column hwrites => ?_) ih
      rw [(Field.entry?_eq_some_iff hpatch).2 ⟨hwrites, rfl⟩] at hentry
      cases hentry
    | some e => exact .written ((Field.entry?_eq_some_iff hpatch).1 hentry).1 ih

/-- The columns of the entries of a record are the columns of the record. -/
theorem Record.hasColumns_entries (hpatch : rules.patch = false) (arg : α → Arg) (r : Record α) :
    r.HasColumns rules ((r.entries arg rules).map Prod.fst) := by
  refine ⟨_, writesColumns_entries hpatch arg r.fields, ?_⟩
  unfold entries
  split_ifs
  · refine ⟨(List.mergeSort_perm _ _).map Prod.fst, List.pairwise_map.2 ?_⟩
    exact (pairwise_mergeSort_columnLe _).imp columnLe_iff.1
  · rfl

/-- Sorting by column does not change which entry of a column comes first. -/
theorem find?_mergeSort_columnLe (es : List (String × α)) (column : String) :
    ((es.mergeSort columnLe).find? fun e => e.1 == column) = es.find? fun e => e.1 == column := by
  -- the entries of one column are in order as they stand, so they keep their order in the sorted list
  have hsorted : (es.filter fun e => e.1 == column).Pairwise fun a b => columnLe a b = true := by
    refine List.pairwise_of_forall_mem_list fun a ha b hb => columnLe_iff.2 ?_
    rw [beq_iff_eq.1 (List.mem_filter.1 ha).2, beq_iff_eq.1 (List.mem_filter.1 hb).2]
  have hsub : (es.filter fun e => e.1 == column).Sublist ((es.mergeSort columnLe).filter fun e => e.1 == column) := by
    have hall := (List.sublist_mergeSort columnLe_trans columnLe_total hsorted List.filter_sublist).filter
      fun e => e.1 == column
    rwa [List.filter_filter, show (fun e : String × α => e.1 == column && e.1 == column) = fun e => e.1 == column from
      funext fun e => Bool.and_self _] at hall
  have hlength : (es.filter fun e => e.1 == column).length =
      ((es.mergeSort columnLe).filter fun e => e.1 == column).length :=
    (((es.mergeSort_perm columnLe).filter _).length_eq).symm
  rw [← List.head?_filter, ← List.head?_filter, hsub.eq_of_length hlength]

/-- The first entry of a column is the first field that writes to it. -/
theorem Record.find?_entries (hpatch : rules.patch = false) (arg : α → Arg) (r : Record α) (column : String) :
    ((r.entries arg rules).find? fun e => e.1 == column).map (·.2) = r.valueUnder rules column := by
  have hfields : ((r.fields.filterMap (Field.entry? arg rules)).find? fun e => e.1 == column).map (·.2) =
      r.valueUnder rules column := by
    rw [List.find?_filterMap, valueUnder]
    simp only [Field.any_entry? hpatch]
    cases hfind : r.fields.find? fun f => decide (f.WritesTo rules column) with
    | none => rfl
    | some f =>
      have hwrites := List.find?_some (p := fun f => decide (Field.WritesTo rules column f)) hfind
      rw [decide_eq_true_iff] at hwrites
      rw [Option.bind_some, (Field.entry?_eq_some_iff hpatch).2 ⟨hwrites, rfl⟩]
      rfl
  rw [← hfields, entries]
  split_ifs
  · exact congrArg (Option.map _) (find?_mergeSort_columnLe _ column)
  · rfl

end WritesTo

/-! ## Groups -/

namespace Payload

variable {α : Type} {rules : PayloadRules}

/-- The groups of values as they are written: at least one. -/
def valueGroups (p : Payload α) : List (List α) :=
  if p.groups.isEmpty then [[]] else p.groups

/-- The columns with the values of each group. -/
def rows (p : Payload α) : List (List (String × α)) :=
  p.groups.map p.columns.zip

theorem alignedGroup_eq (hpatch : rules.patch = false) (arg : α → Arg) (absent : α) (columns : List String)
    (r : Record α) : alignedGroup absent columns (r.entries arg rules) =
      columns.map fun column => (r.valueUnder rules column).getD absent := by
  refine List.map_congr_left fun column _ => ?_
  rw [r.find?_entries hpatch]

/-- Entries with different columns, looked up by their columns. -/
theorem find?_of_nodup {es : List (String × α)} (h : (es.map Prod.fst).Nodup) {e : String × α} (he : e ∈ es) :
    (es.find? fun e' => e'.1 == e.1) = some e := by
  obtain ⟨e', hfind⟩ : ∃ e', (es.find? fun e' => e'.1 == e.1) = some e' :=
    Option.isSome_iff_exists.1 (List.find?_isSome.2 ⟨e, he, beq_self_eq_true e.1⟩)
  have hcolumn : e'.1 = e.1 := beq_iff_eq.1 (List.find?_some (p := fun e' : String × α => e'.1 == e.1) hfind)
  rw [hfind, List.inj_on_of_nodup_map h (List.mem_of_find?_eq_some hfind) he hcolumn]

/-- Entries with different columns are their own group. -/
theorem alignedGroup_self (absent : α) {es : List (String × α)} (h : (es.map Prod.fst).Nodup) :
    alignedGroup absent (es.map Prod.fst) es = es.map Prod.snd := by
  rw [alignedGroup, List.map_map]
  refine List.map_congr_left fun e he => ?_
  show ((es.find? fun e' => e'.1 == e.1).map (·.2)).getD absent = e.2
  rw [find?_of_nodup h he]
  rfl

theorem zip_entries (es : List (String × α)) : (es.map Prod.fst).zip (es.map Prod.snd) = es :=
  List.zip_map'.trans (List.map_id es)

theorem zip_alignedGroup (absent : α) (columns : List String) (es : List (String × α)) :
    columns.zip (alignedGroup absent columns es) =
      columns.map fun column => (column, ((es.find? fun e => e.1 == column).map (·.2)).getD absent) := by
  have hzip := List.zip_map' (f := id) (g := fun column => ((es.find? fun e => e.1 == column).map (·.2)).getD absent)
    (l := columns)
  rwa [List.map_id] at hzip

/-- The group of a record under its own columns, in any order, pairs each column with its value. -/
theorem zip_alignedGroup_perm (absent : α) {columns : List String} {es : List (String × α)}
    (hcolumns : columns.Perm (es.map Prod.fst)) (hnodup : (es.map Prod.fst).Nodup) :
    (columns.zip (alignedGroup absent columns es)).Perm es := by
  rw [zip_alignedGroup]
  refine (hcolumns.map _).trans (List.Perm.of_eq ?_)
  rw [← zip_alignedGroup, alignedGroup_self absent hnodup, zip_entries]

/-- A payload has a group for each record, at least one, and in each group a value for each column. -/
theorem length_valueGroups (arg : α → Arg) (absent : α) (rules : PayloadRules) (rs : List (Record α)) :
    (ofRecords arg absent rules rs).valueGroups.length = max rs.length 1 ∧
      ∀ g ∈ (ofRecords arg absent rules rs).valueGroups, g.length = (ofRecords arg absent rules rs).columns.length := by
  cases rs with
  | nil => exact ⟨rfl, fun g hg => List.mem_singleton.1 hg ▸ rfl⟩
  | cons first rest =>
    refine ⟨by simp [valueGroups, ofRecords], fun g hg => ?_⟩
    rcases List.mem_cons.1 hg with rfl | hg
    · simp [ofRecords]
    · obtain ⟨r, -, rfl⟩ := List.mem_map.1 hg
      simp [ofRecords, alignedGroup]

/-- With different columns, the first record is read by column as well. -/
theorem groups_eq (hpatch : rules.patch = false) (arg : α → Arg) (absent : α) (rs : List (Record α))
    (h : (ofRecords arg absent rules rs).columns.Nodup) :
    (ofRecords arg absent rules rs).groups = rs.map fun r =>
      (ofRecords arg absent rules rs).columns.map fun column => (r.valueUnder rules column).getD absent := by
  cases rs with
  | nil => rfl
  | cons first rest =>
    set columns := (first.entries arg rules).map Prod.fst
    have hgroup (r : Record α) := alignedGroup_eq hpatch arg absent columns r
    show (first.entries arg rules).map Prod.snd ::
      rest.map (fun r => alignedGroup absent columns (r.entries arg rules)) = _
    rw [← alignedGroup_self absent h, List.map_cons]
    exact congrArg₂ List.cons (hgroup first) (List.map_congr_left fun r _ => hgroup r)

end Payload

/-! ## Later records -/

namespace Record

variable {rules : PayloadRules} {r r' : Record Arg}

theorem entries_perm (arg : Arg → Arg) (rules : PayloadRules) (r : Record Arg) :
    (r.entries arg rules).Perm (r.fields.filterMap (Field.entry? arg rules)) := by
  unfold entries
  split_ifs
  · exact List.mergeSort_perm _ _
  · exact List.Perm.refl _

/-- Two later records of a batch with these columns: the one has the fields of the other in another order, where they
write to different columns, or fields more that write to none of the columns. -/
inductive Rearranged (rules : PayloadRules) (columns : List String) (r r' : Record Arg) : Prop
  | reordered (fields : r.fields.Perm r'.fields) (distinct : ((r.entries id rules).map Prod.fst).Nodup)
  | extended (known : Field Arg → Bool) (fields : r.fields = r'.fields.filter known)
      (unknown : ∀ f ∈ r'.fields, known f = false → ∀ column ∈ columns, ¬ f.WritesTo rules column)

/-- Under the columns of the batch both have the same values. -/
theorem Rearranged.valueUnder_eq {columns : List String} (hpatch : rules.patch = false)
    (h : Rearranged rules columns r r') {column : String} (hcolumn : column ∈ columns) :
    r.valueUnder rules column = r'.valueUnder rules column := by
  cases h with
  | reordered fields distinct =>
    -- once sorted, the entries of both are the same, and sorting does not change what is found first
    have hperm : (r.entries id rules).Perm (r'.entries id rules) :=
      (entries_perm id rules r).trans ((fields.filterMap _).trans (entries_perm id rules r').symm)
    have hsorted := mergeSort_columnLe_perm hperm fun a ha b hb => List.inj_on_of_nodup_map distinct ha hb
    rw [← r.find?_entries hpatch id, ← r'.find?_entries hpatch id, ← find?_mergeSort_columnLe, hsorted,
      find?_mergeSort_columnLe]
  | extended known fields unknown =>
    rw [valueUnder, valueUnder, fields, List.find?_filter]
    refine congrArg (Option.map Field.value) (List.find?_congr fun f hf => ?_)
    cases hknown : known f with
    | true => simp
    | false => simp [unknown f hf hknown column hcolumn]

/-- The groups of rearranged records are the same. -/
theorem Rearranged.alignedGroups_eq {columns : List String} {rest rest' : List (Record Arg)}
    (hpatch : rules.patch = false) (h : List.Forall₂ (Rearranged rules columns) rest rest') :
    rest.map (fun r => Payload.alignedGroup .null columns (r.entries id rules)) =
      rest'.map fun r => Payload.alignedGroup .null columns (r.entries id rules) := by
  induction h with
  | nil => rfl
  | cons hr hrest ih =>
    rw [List.map_cons, List.map_cons, ih, Payload.alignedGroup_eq hpatch, Payload.alignedGroup_eq hpatch]
    refine congrArg (· :: _) (List.map_congr_left fun column hcolumn => ?_)
    rw [hr.valueUnder_eq hpatch hcolumn]

end Record

/-! ## Batches of statements -/

/-- The text of columns and groups. -/
def Payload.text (p : Payload Arg) : Binder String := do
  let groups ← p.valueGroups.mapM fun g => Clauses.groupText (g.map Arg.operand)
  return "(" ++ ", ".intercalate p.columns ++ ") VALUES " ++ ", ".intercalate groups

/-- The ways in which a statement takes a batch of records. -/
inductive BatchUse where
  | insert
  | replace

namespace BatchUse

/-- The verb in front of the batch. -/
def verb : BatchUse → String
  | insert => "INSERT"
  | replace => "REPLACE"

/-- The operation with the batch. -/
def operation {α σ : Type} (rs : List (Record α)) : BatchUse → Operation α σ
  | insert => .insert rs
  | replace => .replace rs

/-- A statement that takes a batch. -/
def take (s : Statement) (rs : List (Record Arg)) : BatchUse → Statement
  | insert => s.insertMany rs
  | replace => s.replaceMany rs

end BatchUse

namespace Statement

variable (s : Statement)

/-- The columns and groups of a batch. -/
def batch (rs : List (Record Arg)) : Payload Arg :=
  Payload.ofRecords id .null (s.clauses.payloadRules false) rs

theorem operands_take (use : BatchUse) (rs : List (Record Arg)) : (use.take s rs).operands =
    { s.operands with operation := use.operation (rs.map (Record.map Arg.operand)) } := by
  cases use <;> rfl

/-- Columns and groups are compiled from the batch. -/
theorem valuesText_batch (o : Operation Operand Subquery) (rs : List (Record Arg)) :
    ({ s.operands with operation := o } : Clauses Operand Subquery).valuesText (rs.map (Record.map Arg.operand)) =
      (s.batch rs).text := by
  have hnull : Operand.null = Arg.operand .null := by rw [Arg.operand]
  have hpayload : Payload.ofRecords Operand.arg Operand.null (s.clauses.payloadRules false)
      (rs.map (Record.map Arg.operand)) = (s.batch rs).map Arg.operand := by
    rw [hnull, Payload.ofRecords_map, Arg.arg_comp_operand]
    rfl
  have hrules : ({ s.operands with operation := o } : Clauses Operand Subquery).payloadRules false =
      s.clauses.payloadRules false := rfl
  unfold Clauses.valuesText Payload.text Payload.valueGroups
  rw [hrules, hpayload]
  cases hgroups : (s.batch rs).groups with
  | nil => simp [Payload.map, hgroups, Clauses.groupText]
  | cons g gs => simp [Payload.map, hgroups, Function.comp_def]

theorem head_take (use : BatchUse) (rs : List (Record Arg)) (leading : List String) :
    (use.take s rs).operands.head leading =
      (do let table ← (use.take s rs).operands.tableText
          let values ← (s.batch rs).text
          return use.verb ++ " " ++ Clauses.optionsText leading ++ "INTO " ++ table ++ " " ++ values) := by
  rw [operands_take]
  have hvalues := s.valuesText_batch (use.operation (rs.map (Record.map Arg.operand))) rs
  rw [← hvalues]
  cases use <;> rfl

/-- A statement depends on the records only through the batch. -/
theorem build_take (use : BatchUse) {rs rs' : List (Record Arg)} (h : s.batch rs = s.batch rs') :
    (use.take s rs).build = (use.take s rs').build := by
  have hhead (leading : List String) :
      (use.take s rs).operands.head leading = (use.take s rs').operands.head leading := by
    have htable : (use.take s rs).operands.tableText = (use.take s rs').operands.tableText := by cases use <;> rfl
    rw [head_take, head_take, h, htable]
  have hduplicate : (use.take s rs).operands.duplicateClause = (use.take s rs').operands.duplicateClause := by
    cases use <;> rfl
  have hclauses : (use.take s rs).operands.assembleClauses true = (use.take s rs').operands.assembleClauses true := by
    rw [operands_take, operands_take] at hhead hduplicate ⊢
    exact s.operands.assembleClauses_congr hhead hduplicate true
  rw [build_eq, build_eq]
  cases use with
  | insert => exact congrArg Binder.standalone hclauses
  | replace => exact congrArg Binder.standalone hclauses

/-- Rearranged later records make the same batch. -/
theorem batch_rearranged {first : Record Arg} {rest rest' : List (Record Arg)}
    (h : List.Forall₂ (Record.Rearranged (s.clauses.payloadRules false) (s.batch (first :: rest)).columns) rest rest') :
    s.batch (first :: rest) = s.batch (first :: rest') := by
  have hgroups := Record.Rearranged.alignedGroups_eq rfl h
  exact congrArg (fun groups => Payload.mk (s.batch (first :: rest)).columns
    ((first.entries id (s.clauses.payloadRules false)).map (·.2) :: groups)) hgroups

/-- Records that write the same different columns carry in the batch what they carry alone. -/
theorem rows_batch_perm {rs : List (Record Arg)} (hnodup : ∀ r ∈ rs, (s.batch [r]).columns.Nodup)
    (hsame : ∀ r ∈ rs, ∀ r' ∈ rs, ∀ column, column ∈ (s.batch [r]).columns ↔ column ∈ (s.batch [r']).columns) :
    List.Forall₂ List.Perm (s.batch rs).rows (rs.flatMap fun r => (s.batch [r]).rows) := by
  let entries (r : Record Arg) : List (String × Arg) := r.entries id (s.clauses.payloadRules false)
  have halone : (fun r => (s.batch [r]).rows) = fun r => [entries r] :=
    funext fun r => congrArg (fun es => [es]) (Payload.zip_entries (entries r))
  rw [halone, ← List.map_eq_flatMap]
  cases rs with
  | nil => exact .nil
  | cons first rest =>
    refine .cons (List.Perm.of_eq (Payload.zip_entries (entries first))) ?_
    rw [List.map_map, List.forall₂_map_left_iff, List.forall₂_map_right_iff, List.forall₂_same]
    intro r hr
    have hr' : r ∈ first :: rest := List.mem_cons_of_mem first hr
    have hcolumns := (List.perm_ext_iff_of_nodup (hnodup first List.mem_cons_self) (hnodup r hr')).2
      (hsame first List.mem_cons_self r hr')
    exact Payload.zip_alignedGroup_perm .null hcolumns (hnodup r hr')

end Statement

/-! ## Alignment -/

/-- **Batches are rectangular and aligned.** A batch is compiled from its columns and groups. The columns are those that
the fields of the first record write to, in their order or sorted; there is one group for each record, at least one, and
in each group a value for each column. If the columns are different, the value of each record under a
column, also of the first, is that of its first field that writes there, or the keyword NULL. Later records may have
their fields in another order, and more fields for other columns, and compile to the same. Records that all write the
same different columns carry in the batch what each carries by itself. -/
theorem batch_aligned (use : BatchUse) (s : Statement) (rs : List (Record Arg)) :
    (∀ leading, (use.take s rs).operands.head leading =
      (do let table ← (use.take s rs).operands.tableText
          let values ← (s.batch rs).text
          return use.verb ++ " " ++ Clauses.optionsText leading ++ "INTO " ++ table ++ " " ++ values)) ∧
    (rs = [] → (s.batch rs).columns = []) ∧
    (∀ first rest, rs = first :: rest → first.HasColumns (s.clauses.payloadRules false) (s.batch rs).columns) ∧
    (s.batch rs).valueGroups.length = max rs.length 1 ∧
    (∀ g ∈ (s.batch rs).valueGroups, g.length = (s.batch rs).columns.length) ∧
    ((s.batch rs).columns.Nodup → (s.batch rs).groups = rs.map fun r => (s.batch rs).columns.map fun column =>
      (r.valueUnder (s.clauses.payloadRules false) column).getD .null) ∧
    (∀ first rest rest', rs = first :: rest →
      List.Forall₂ (Record.Rearranged (s.clauses.payloadRules false) (s.batch rs).columns) rest rest' →
        (use.take s rs).build = (use.take s (first :: rest')).build) ∧
    ((∀ r ∈ rs, (s.batch [r]).columns.Nodup) →
      (∀ r ∈ rs, ∀ r' ∈ rs, ∀ column, column ∈ (s.batch [r]).columns ↔ column ∈ (s.batch [r']).columns) →
        List.Forall₂ List.Perm (s.batch rs).rows (rs.flatMap fun r => (s.batch [r]).rows)) := by
  obtain ⟨hcount, hwidth⟩ := Payload.length_valueGroups id Arg.null (s.clauses.payloadRules false) rs
  refine ⟨s.head_take use rs, ?_, ?_, hcount, hwidth, Payload.groups_eq rfl id .null rs, ?_, s.rows_batch_perm⟩
  · rintro rfl
    rfl
  · rintro first rest rfl
    exact first.hasColumns_entries rfl id
  · rintro first rest rest' rfl hrest
    exact s.build_take use (s.batch_rearranged hrest)

/-- Two records with their fields in different orders. -/
def twoItems : List (Record Arg) :=
  [⟨[{ name := "a", value := .value (.int 1) }, { name := "b", value := .value (.int 2) }]⟩,
    ⟨[{ name := "b", value := .value (.int 4) }, { name := "a", value := .value (.int 3) }]⟩]

/-- The second record with a field for a column that the first one lacks. -/
def longerItems : List (Record Arg) :=
  [⟨[{ name := "a", value := .value (.int 1) }, { name := "b", value := .value (.int 2) }]⟩,
    ⟨[{ name := "b", value := .value (.int 4) }, { name := "c", value := .null },
      { name := "a", value := .value (.int 3) }]⟩]

/-- The values of the second record stand under the columns of the first, and its further field is not written. -/
theorem batch_aligned_twoItems :
    ((Statement.onTable "T").batch twoItems).columns.Nodup ∧
      ((Statement.onTable "T").batch twoItems).groups =
        [[.value (.int 1), .value (.int 2)], [.value (.int 3), .value (.int 4)]] ∧
      ((Statement.onTable "T").insertMany twoItems).build = ((Statement.onTable "T").insertMany longerItems).build ∧
      List.Forall₂ List.Perm ((Statement.onTable "T").batch twoItems).rows
        (twoItems.flatMap fun r => ((Statement.onTable "T").batch [r]).rows) := by
  obtain ⟨-, -, -, -, -, hgroups, hbuild, hrows⟩ := batch_aligned .insert (Statement.onTable "T") twoItems
  have hcolumns : ((Statement.onTable "T").batch twoItems).columns = ["a", "b"] := rfl
  have hnodup : ((Statement.onTable "T").batch twoItems).columns.Nodup := by
    rw [hcolumns]
    decide
  have halone : ∀ r ∈ twoItems, ((Statement.onTable "T").batch [r]).columns.Nodup ∧
      ∀ column, column ∈ ((Statement.onTable "T").batch [r]).columns ↔ column = "a" ∨ column = "b" := by
    refine List.forall_mem_cons.2 ⟨?_, List.forall_mem_singleton.2 ?_⟩
    · show ["a", "b"].Nodup ∧ ∀ column, column ∈ ["a", "b"] ↔ _
      exact ⟨by decide, fun column => by simp⟩
    · show ["b", "a"].Nodup ∧ ∀ column, column ∈ ["b", "a"] ↔ _
      exact ⟨by decide, fun column => by simp [or_comm]⟩
  refine ⟨hnodup, hgroups hnodup, hbuild _ _ _ rfl ?_, hrows (fun r hr => (halone r hr).1) fun r hr r' hr' column => ?_⟩
  · refine .cons (.extended (fun f => f.name != "c") rfl fun f hf hknown column hcolumn hwrites => ?_) .nil
    rw [hcolumns] at hcolumn
    have hname : f.name = "c" := by simpa using hknown
    fin_cases hf
    · exact absurd hname (by decide)
    · obtain rfl : "c" = column := Option.some.inj hwrites.1
      exact absurd hcolumn (by decide)
    · exact absurd hname (by decide)
  · rw [(halone r hr).2, (halone r' hr').2]

end FluentSql

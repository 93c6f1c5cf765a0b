import FluentSql.Proofs.ColumnOrder
import FluentSql.Proofs.AliasLifting
import FluentSql.Proofs.WellFormed

/-!
# FluentSql.Proofs.PatchFilter — a patch is a filtered update

* `filter_mergeSort_columnLe`: leaving entries out and sorting by column can change places.
* `Record.columnFields`: the fields of a record with their columns, in the order in which they are written.
* `Record.entries_eq`: what a payload writes is a part of these fields.
* `Exclusions.PatchKeeps`: the fields that a patch keeps.
* `Statement.updated`, `Statement.patched`: the fields that an update and a patch assign.
* `patch_filters_update`: a patch assigns what an update assigns, without the fields it does not keep; more exclusions
  only add assignments; it fails for want of assignments exactly if none is left; a duplicate clause leaves nothing out.
-/

namespace FluentSql

/-! ## Sorting what is left -/

section Sorting

variable {α : Type}

/-- An entry is sorted in behind all that come before it by their column, in front of all others. -/
theorem mergeSort_columnLe_cons (e : String × α) (es : List (String × α)) :
    ∃ front behind, (e :: es).mergeSort columnLe = front ++ e :: behind ∧ es.mergeSort columnLe = front ++ behind ∧
      (∀ a ∈ front, (!columnLe e a) = true) ∧ ∀ a ∈ behind, (!columnLe e a) = false := by
  obtain ⟨front, behind, hcons, hes, hfront⟩ := List.mergeSort_cons columnLe_trans columnLe_total e es
  have hsorted := pairwise_mergeSort_columnLe (e :: es)
  rw [hcons, List.pairwise_append, List.pairwise_cons] at hsorted
  exact ⟨front, behind, hcons, hes, hfront, fun a ha => by simp [hsorted.2.1.1 a ha]⟩

/-- A list is cut in one way only into a part in which something holds and a part in which it does not. -/
theorem append_inj_of_forall {p : α → Bool} {front behind front' behind' : List α}
    (h : front ++ behind = front' ++ behind') (hfront : ∀ a ∈ front, p a = true) (hbehind : ∀ a ∈ behind, p a = false)
    (hfront' : ∀ a ∈ front', p a = true) (hbehind' : ∀ a ∈ behind', p a = false) :
    front = front' ∧ behind = behind' := by
  have hcut {front behind : List α} (hfront : ∀ a ∈ front, p a = true) (hbehind : ∀ a ∈ behind, p a = false) :
      (front ++ behind).filter p = front := by
    rw [List.filter_append, List.filter_eq_self.2 hfront, List.filter_eq_nil_iff.2 (by simpa using hbehind),
      List.append_nil]
  have hsame : front = front' := by
    rw [← hcut hfront hbehind, h, hcut hfront' hbehind']
  exact ⟨hsame, List.append_cancel_left (hsame ▸ h)⟩

/-- Leaving entries out and sorting by column can change places. -/
theorem filter_mergeSort_columnLe (p : String × α → Bool) (es : List (String × α)) :
    (es.mergeSort columnLe).filter p = (es.filter p).mergeSort columnLe := by
  induction es with
  | nil => simp
  | cons e es ih =>
    obtain ⟨front, behind, hcons, hes, hfront, hbehind⟩ := mergeSort_columnLe_cons e es
    rw [hes, List.filter_append] at ih
    rw [hcons, List.filter_append]
    cases hp : p e with
    | false => rw [List.filter_cons_of_neg (by simp [hp]), List.filter_cons_of_neg (by simp [hp]), ih]
    | true =>
      -- both ways the entry is sorted in at the only place where it can stand
      rw [List.filter_cons_of_pos hp, List.filter_cons_of_pos hp]
      obtain ⟨front', behind', hcons', hes', hfront', hbehind'⟩ := mergeSort_columnLe_cons e (es.filter p)
      obtain ⟨rfl, rfl⟩ := append_inj_of_forall (ih.trans hes')
        (fun a ha => hfront a (List.mem_filter.1 ha).1) (fun a ha => hbehind a (List.mem_filter.1 ha).1) hfront'
        hbehind'
      exact hcons'.symm

end Sorting

/-! ## Fields with their columns -/

section Fields

variable {α : Type}

/-- The fields of a record that have a column, with their columns, in the order in which they are written. -/
def Record.columnFields (config : Config) (r : Record α) : List (String × Field α) :=
  let fs := r.fields.filterMap fun f => (f.column config.columnNaming).map fun column => (column, f)
  if config.orderColumns then fs.mergeSort columnLe else fs

/-- A column or a name that is left out of the payload. -/
def omits (omitted : List String) (p : String × Field α) : Bool :=
  omitted.any fun o => o == p.1 || o == p.2.name

/-- The fields that a patch keeps: the value is not zero, or its column, its name or the kind of the value is excluded
from being left out. -/
def Exclusions.PatchKeeps (ex : Exclusions) (p : String × Field Arg) : Prop :=
  p.2.value.isZero = false ∨ p.1 ∈ ex.fields ∨ p.2.name ∈ ex.fields ∨ ∃ kind ∈ p.2.value.kind?, kind ∈ ex.kinds

instance (ex : Exclusions) (p : String × Field Arg) : Decidable (ex.PatchKeeps p) :=
  inferInstanceAs (Decidable (_ ∨ _ ∨ _ ∨ ∃ kind ∈ p.2.value.kind?, kind ∈ ex.kinds))

/-- What is written of a field under rules. -/
def PayloadRules.keeps (rules : PayloadRules) (p : String × Field Arg) : Bool :=
  !omits rules.omitted p && (!rules.patch || rules.exclusions.PatchKeeps p)

theorem Exclusions.decide_patchKeeps (ex : Exclusions) (p : String × Field Arg) :
    decide (ex.PatchKeeps p) = (!p.2.value.isZero || ex.keeps p.1 p.2.name p.2.value.kind?) := by
  have hfields : (∃ f ∈ ex.fields, f = p.1 ∨ f = p.2.name) ↔ p.1 ∈ ex.fields ∨ p.2.name ∈ ex.fields := by
    constructor
    · rintro ⟨f, hf, rfl | rfl⟩
      · exact .inl hf
      · exact .inr hf
    · rintro (h | h)
      · exact ⟨_, h, .inl rfl⟩
      · exact ⟨_, h, .inr rfl⟩
  rw [Bool.eq_iff_iff, decide_eq_true_iff]
  unfold PatchKeeps keeps
  simp only [Bool.or_eq_true, Bool.not_eq_true', List.any_eq_true, beq_iff_eq, hfields, or_assoc]
  cases p.2.value.kind? <;> simp

theorem Field.entry?_eq (rules : PayloadRules) (f : Field Arg) :
    Field.entry? id rules f = (((f.column rules.config.columnNaming).map fun column => (column, f)).filter
      rules.keeps).map (Prod.map id Field.value) := by
  unfold entry?
  cases f.column rules.config.columnNaming with
  | none => rfl
  | some column =>
    simp only [Option.map_some, Option.filter_some, PayloadRules.keeps, omits, Exclusions.decide_patchKeeps, id_eq]
    grind

/-- What a payload writes is a part of the fields, in their order. -/
theorem Record.entries_eq (rules : PayloadRules) (r : Record Arg) :
    r.entries id rules = ((r.columnFields rules.config).filter rules.keeps).map (Prod.map id Field.value) := by
  have hfields : r.fields.filterMap (Field.entry? id rules) =
      ((r.fields.filterMap fun f => (f.column rules.config.columnNaming).map fun column => (column, f)).filter
        rules.keeps).map (Prod.map id Field.value) := by
    rw [List.filter_filterMap, List.map_filterMap]
    exact congrArg (List.filterMap · r.fields) (funext fun f => Field.entry?_eq rules f)
  unfold entries columnFields
  rw [hfields]
  cases rules.config.orderColumns with
  | false => rfl
  | true =>
    simp only [if_true, filter_mergeSort_columnLe]
    exact (List.map_mergeSort (s := columnLe) fun a _ b _ => rfl).symm

end Fields

/-! ## Assignments of fields -/

namespace Clauses

variable (c : Clauses Operand Subquery)

/-- `column = value, …` for fields with their columns; there must be at least one. -/
def fieldAssignments (context : String) (fs : List (String × Field Arg)) : Binder String := do
  if fs.isEmpty then Binder.fail (.emptyAssignments c.operation.kind)
  return ", ".intercalate (← fs.mapM fun p => assignment context (p.1, p.2.value.operand))

/-- `UPDATE table SET …` for fields with their columns. -/
def setHead (leading : List String) (fs : List (String × Field Arg)) : Binder String := do
  let table ← c.tableText
  let pairs ← c.fieldAssignments "SET" fs
  return "UPDATE " ++ optionsText leading ++ table ++ " SET " ++ pairs

/-- Assignments are those of the fields that the rules keep. -/
theorem assignmentsText_operand (rules : PayloadRules) (context : String) (r : Record Arg) :
    c.assignmentsText rules context (r.map Arg.operand) =
      c.fieldAssignments context ((r.columnFields rules.config).filter rules.keeps) := by
  unfold assignmentsText fieldAssignments
  rw [Record.entries_map, Arg.arg_comp_operand, Record.entries_eq]
  simp only [List.mapM_map, List.isEmpty_map]
  rfl

theorem updateHead_operand (leading : List String) (patch : Bool) (r : Record Arg) :
    c.updateHead leading patch (r.map Arg.operand) =
      c.setHead leading ((r.columnFields c.config).filter (c.payloadRules patch).keeps) := by
  unfold updateHead setHead
  rw [assignmentsText_operand]
  rfl

end Clauses

namespace Statement

variable (s : Statement) (r : Record Arg)

/-- The fields that an update assigns: those with a column, without the omitted ones. -/
def updated : List (String × Field Arg) :=
  (r.columnFields s.clauses.config).filter fun p => !omits s.clauses.omitted p

/-- The fields that a patch assigns. -/
def patched : List (String × Field Arg) :=
  (s.updated r).filter fun p => s.clauses.exclusions.PatchKeeps p

theorem filter_keeps_patch :
    (r.columnFields s.clauses.config).filter (s.clauses.payloadRules true).keeps = s.patched r := by
  unfold patched updated
  rw [List.filter_filter]
  exact List.filter_congr fun p _ => Bool.and_comm _ _

theorem head_update (leading : List String) :
    (s.update r).operands.head leading = (s.update r).operands.setHead leading (s.updated r) := by
  have hkeeps : (r.columnFields s.clauses.config).filter (s.clauses.payloadRules false).keeps = s.updated r :=
    List.filter_congr fun p _ => Bool.and_true _
  rw [← hkeeps]
  exact (s.update r).operands.updateHead_operand leading false r

theorem head_patch (leading : List String) :
    (s.patch r).operands.head leading = (s.patch r).operands.setHead leading (s.patched r) := by
  rw [← filter_keeps_patch]
  exact (s.patch r).operands.updateHead_operand leading true r

theorem duplicateClause_onDuplicate :
    (s.onDuplicate r).operands.duplicateClause = (do
      return ["ON DUPLICATE KEY UPDATE " ++
        (← (s.onDuplicate r).operands.fieldAssignments "ON DUPLICATE" (r.columnFields s.clauses.config))]) := by
  have hkeeps : (r.columnFields s.clauses.config).filter
      ({ s.clauses.payloadRules false with omitted := [] } : PayloadRules).keeps = r.columnFields s.clauses.config :=
    List.filter_eq_self.2 fun p _ => rfl
  conv_rhs => rw [← hkeeps]
  show (do return ["ON DUPLICATE KEY UPDATE " ++ (← (s.onDuplicate r).operands.assignmentsText
    { (s.onDuplicate r).operands.payloadRules false with omitted := [] } "ON DUPLICATE" (r.map Arg.operand))]) = _
  rw [Clauses.assignmentsText_operand]
  rfl

/-! ## More exclusions -/

/-- A statement with these fields and kinds of values excluded from being left out of a patch. -/
def excluding (ex : Exclusions) : Statement :=
  s.change fun c => { c with exclusions := ex }

theorem patchKeeps_mono {ex ex' : Exclusions} (hfields : ex.fields ⊆ ex'.fields) (hkinds : ex.kinds ⊆ ex'.kinds)
    {p : String × Field Arg} (h : ex.PatchKeeps p) : ex'.PatchKeeps p := by
  obtain hvalue | hcolumn | hname | ⟨kind, hkind, hmem⟩ := h
  · exact .inl hvalue
  · exact .inr (.inl (hfields hcolumn))
  · exact .inr (.inr (.inl (hfields hname)))
  · exact .inr (.inr (.inr ⟨kind, hkind, hkinds hmem⟩))

/-- With more exclusions a patch assigns the same fields, and others between them. -/
theorem patched_eq_filter {ex : Exclusions} (hfields : s.clauses.exclusions.fields ⊆ ex.fields)
    (hkinds : s.clauses.exclusions.kinds ⊆ ex.kinds) :
    s.patched r = ((s.excluding ex).patched r).filter fun p => s.clauses.exclusions.PatchKeeps p := by
  show (s.updated r).filter _ = ((s.updated r).filter fun p => decide (ex.PatchKeeps p)).filter _
  rw [List.filter_filter]
  refine List.filter_congr fun p _ => ?_
  by_cases h : s.clauses.exclusions.PatchKeeps p
  · simp [h, patchKeeps_mono hfields hkinds h]
  · simp [h]

/-! ## Patches without assignments -/

/-- The clauses of a statement with what is known of its arguments and nested statements. -/
def checkedClauses : Clauses CheckedArg Prop :=
  s.clauses.map Arg.checked WellFormed

theorem wellFormed_delete_eq :
    s.delete.WellFormed = ({ s.checkedClauses with operation := .delete } : Clauses CheckedArg Prop).Complete :=
  wellFormed_mk _

theorem wellFormed_patch_eq :
    (s.patch r).WellFormed =
      ({ s.checkedClauses with operation := .patch (r.map Arg.checked) } : Clauses CheckedArg Prop).Complete :=
  wellFormed_mk _

/-- A patch needs what a deletion needs, a field, and values that fit. -/
theorem wellFormed_patch :
    (s.patch r).WellFormed ↔
      s.delete.WellFormed ∧ s.patched r ≠ [] ∧ ∀ p ∈ s.patched r, p.2.value.checked.fits := by
  have hentries : (r.map Arg.checked).entries CheckedArg.arg (s.clauses.payloadRules true) =
      (s.patched r).map fun p => (p.1, p.2.value.checked) := by
    have harg : CheckedArg.arg ∘ Arg.checked = id := funext Arg.arg_checked
    rw [Record.entries_map, harg, Record.entries_eq, ← filter_keeps_patch, List.map_map]
    rfl
  have hassignments : AssignmentsWellFormed (s.clauses.payloadRules true) (r.map Arg.checked) ↔
      s.patched r ≠ [] ∧ ∀ p ∈ s.patched r, p.2.value.checked.fits := by
    unfold AssignmentsWellFormed
    rw [hentries, List.forall_mem_map, ne_eq, List.map_eq_nil_iff]
  rw [wellFormed_patch_eq, wellFormed_delete_eq, ← hassignments]
  constructor
  · intro h
    exact ⟨⟨h.options, h.table, trivial, h.duplicate, h.unions, h.joins, h.wheres, h.havings, h.orders⟩, h.head⟩
  · rintro ⟨h, hhead⟩
    exact ⟨h.options, h.table, hhead, h.duplicate, h.unions, h.joins, h.wheres, h.havings, h.orders⟩

/-- The table of a statement is written, whatever the statement does with it. -/
theorem exists_tableText (h : s.delete.WellFormed) :
    ∃ text values, (s.patch r).operands.tableText.run [] = .ok (text, values) := by
  obtain ⟨t, htable, ht⟩ := (s.wellFormed_delete_eq ▸ h).table
  have htable : s.clauses.table.map (TableRef.map WellFormed) = some t := htable
  have htext : (s.patch r).operands.table = s.clauses.table.map (TableRef.map subquery) := rfl
  unfold Clauses.tableText
  rw [htext]
  cases hs : s.clauses.table with
  | none =>
    rw [hs] at htable
    nomatch htable
  | some table =>
    rw [hs] at htable
    obtain rfl := Option.some.inj htable
    -- a name is written as it is, a derived table is built
    cases table with
    | name text => exact ⟨text, [], rfl⟩
    | query q =>
      obtain ⟨built, hbuilt⟩ := (q.standalone_succeeds false).ok_iff.2 ht
      refine ⟨"(" ++ built.sql ++ ")", [] ++ built.params, ?_⟩
      show q.subquery.derived.run [] = _
      unfold Subquery.derived Binder.spliced
      rw [hbuilt]
      rfl

/-- Without a field to assign a patch fails, when all else is in order. -/
theorem build_patch_of_nil (h : s.delete.WellFormed) (hnil : s.patched r = []) :
    (s.patch r).build = .error (.emptyAssignments .patch) := by
  obtain ⟨options, hoptions⟩ := (Clauses.optionsOfList_succeeds (s.patch r).operands.options).ok_iff.2
    (s.wellFormed_delete_eq ▸ h).options
  obtain ⟨text, values, htable⟩ := s.exists_tableText r h
  have hhead : ((s.patch r).operands.head options.leading).run [] = .error (.emptyAssignments .patch) := by
    rw [head_patch, hnil]
    unfold Clauses.setHead
    rw [StateT.run_bind, htable]
    rfl
  rw [build_eq]
  show Binder.standalone ((s.patch r).operands.assembleClauses true) = _
  unfold Clauses.assembleClauses Binder.standalone
  rw [hoptions, Binder.lift_bind, StateT.run_bind, hhead]
  rfl

end Statement

/-- **A patch is a filtered update.** It assigns the fields that an update assigns, in their order, but those whose
value is zero only where their column, their name or the kind of the value is excluded from being left out. More
exclusions add assignments between the others. A patch in which all else is in order fails for want of assignments
exactly when no field is left. The duplicate clause of any statement assigns every field with a column, whatever is
omitted or excluded. -/
theorem patch_filters_update (s : Statement) (r : Record Arg) :
    (∀ leading, (s.update r).operands.head leading = (s.update r).operands.setHead leading (s.updated r)) ∧
    (∀ leading, (s.patch r).operands.head leading = (s.patch r).operands.setHead leading
      ((s.updated r).filter fun p => s.clauses.exclusions.PatchKeeps p)) ∧
    (∀ ex : Exclusions, s.clauses.exclusions.fields ⊆ ex.fields → s.clauses.exclusions.kinds ⊆ ex.kinds →
      s.patched r = ((s.excluding ex).patched r).filter (fun p => s.clauses.exclusions.PatchKeeps p) ∧
        (s.patched r).Sublist ((s.excluding ex).patched r)) ∧
    (s.delete.WellFormed → (∀ p ∈ s.patched r, p.2.value.checked.fits) →
      ((s.patch r).build = .error (.emptyAssignments .patch) ↔ s.patched r = []) ∧
        ((∃ built, (s.patch r).build = .ok built) ↔ s.patched r ≠ [])) ∧
    (s.onDuplicate r).operands.duplicateClause = (do
      return ["ON DUPLICATE KEY UPDATE " ++
        (← (s.onDuplicate r).operands.fieldAssignments "ON DUPLICATE" (r.columnFields s.clauses.config))]) := by
  refine ⟨s.head_update r, s.head_patch r, fun ex hfields hkinds => ?_, fun hrest hfits => ?_,
    s.duplicateClause_onDuplicate r⟩
  · have hfilter := s.patched_eq_filter r hfields hkinds
    exact ⟨hfilter, hfilter ▸ List.filter_sublist⟩
  -- the list of assignments is all that can still be refused
  · have hbuilds : (∃ built, (s.patch r).build = .ok built) ↔ s.patched r ≠ [] := by
      have hbuilt := ((s.patch r).standalone_succeeds true).ok_iff.trans (s.wellFormed_patch r)
      refine hbuilt.trans ?_
      exact ⟨fun h => h.2.1, fun h => ⟨hrest, h, hfits⟩⟩
    refine ⟨⟨fun herror => ?_, s.build_patch_of_nil r hrest⟩, hbuilds⟩
    by_contra hne
    obtain ⟨built, hbuilt⟩ := hbuilds.2 hne
    rw [herror] at hbuilt
    nomatch hbuilt

/-- A record with two zero values, of which one is excluded from being left out. -/
def stock : Record Arg :=
  .ofPairs [("Reserved", .value (.int 0)), ("Left", .value (.int 0)), ("Note", .value (.text "x"))]

theorem patch_filters_update_stock :
    ((Statement.onTable "T").keepFields ["Left"]).delete.WellFormed ∧
      (((Statement.onTable "T").keepFields ["Left"]).patched stock).map Prod.fst = ["Left", "Note"] ∧
      (∀ p ∈ ((Statement.onTable "T").keepFields ["Left"]).patched stock, p.2.value.checked.fits) ∧
      (∃ built, (((Statement.onTable "T").keepFields ["Left"]).patch stock).build = .ok built) ∧
      (((Statement.onTable "T").keepFields ["Left"]).patched stock).Sublist
        ((((Statement.onTable "T").keepFields ["Left"]).excluding ⟨["Left"], [.int]⟩).patched stock) := by
  set s := (Statement.onTable "T").keepFields ["Left"]
  have hpatched : s.patched stock = [("Left", { name := "Left", value := .value (.int 0) }),
    ("Note", { name := "Note", value := .value (.text "x") })] := rfl
  have hrest : s.delete.WellFormed := by
    rw [Statement.wellFormed_delete_eq]
    exact ⟨nofun, ⟨.name "T", rfl, trivial⟩, trivial, nofun, nofun, nofun, nofun, nofun, nofun⟩
  have hfits : ∀ p ∈ s.patched stock, p.2.value.checked.fits := by
    rw [hpatched]
    simp [Arg.checked]
  obtain ⟨-, -, hmore, hbuild, -⟩ := patch_filters_update s stock
  refine ⟨hrest, by rw [hpatched]; rfl, hfits, (hbuild hrest hfits).2.2 (by simp [hpatched]), ?_⟩
  exact (hmore ⟨["Left"], [.int]⟩ (List.Subset.refl _) (List.nil_subset _)).2

end FluentSql

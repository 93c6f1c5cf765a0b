import FluentSql.Proofs.ColumnOrder
import FluentSql.Proofs.NameWords
import FluentSql.Record.Declaration
import Mathlib

/-!
# FluentSql.Proofs.NamingPaths — columns named by a record type or by the settings

A record type can name its columns by a rule, and the settings of a statement can name the columns of all fields by a
convention.

* `Agree`: two computations that fail in the same way or have related results.
* `SameColumn`, `SameRecord`: the fields of both ways, one by one.
* `Declaration.record_agree`: the records of a value in both ways.
* `Writing`: the ways in which a statement writes values of a type.
* `compile_of_rule`: both ways compile to the same statement, as long as each name that gives a column has a letter or a
  number.
* `compile_wordlessFields`: for a name without them the rule drops the field, and the convention does not.
-/

namespace FluentSql

variable {α β ρ : Type}

/-! ## Computations that agree -/

/-- Two computations that fail in the same way or have related results. -/
inductive Agree {ε : Type} (R : α → β → Prop) : Except ε α → Except ε β → Prop where
  | error (e : ε) : Agree R (.error e) (.error e)
  | ok {a : α} {b : β} (h : R a b) : Agree R (.ok a) (.ok b)

namespace Agree

variable {ε γ δ : Type} {R : α → β → Prop} {S : γ → δ → Prop} {x : Except ε α} {y : Except ε β}

theorem bind {f : α → Except ε γ} {g : β → Except ε δ} (h : Agree R x y) (hfg : ∀ a b, R a b → Agree S (f a) (g b)) :
    Agree S (x >>= f) (y >>= g) := by
  cases h with
  | error e => exact .error e
  | ok hab => exact hfg _ _ hab

theorem mapM {f : γ → Except ε α} {g : γ → Except ε β} {cs : List γ} (h : ∀ c ∈ cs, Agree R (f c) (g c)) :
    Agree (List.Forall₂ R) (cs.mapM f) (cs.mapM g) := by
  induction cs with
  | nil => exact .ok .nil
  | cons c cs ih =>
    obtain ⟨hc, hcs⟩ := List.forall_mem_cons.1 h
    rw [List.mapM_cons, List.mapM_cons]
    exact hc.bind fun a b hab => (ih hcs).bind fun as bs htail => .ok (.cons hab htail)

/-- Computations that agree on what is made of their results are equal. -/
theorem map_eq {f : α → γ} {g : β → γ} (h : Agree R x y) (hfg : ∀ a b, R a b → f a = g b) :
    (do return f (← x)) = (do return g (← y)) := by
  cases h with
  | error e => rfl
  | ok hab => exact congrArg Except.ok (hfg _ _ hab)

end Agree

/-! ## Fields and records -/

/-- The rule of a record type that names columns as a convention does. -/
def ColumnNaming.rule? : ColumnNaming → Option RenameRule
  | .asIs => none
  | .snakeCase => some .snake
  | .camelCase => some .camel
  | .pascalCase => some .pascal

theorem ColumnNaming.apply_of_rule? {naming : ColumnNaming} {rule : RenameRule} (h : naming.rule? = some rule)
    (name : String) : rule.apply name = naming.apply name := by
  cases naming <;> cases h <;> rfl

/-- Two fields that write the same value to the same column, the first one by itself and the second one under a
convention. -/
structure SameColumn (naming : ColumnNaming) (f g : Field α) : Prop where
  name : f.name = g.name
  value : f.value = g.value
  column : f.column .asIs = g.column naming

/-- Two records whose fields write the same values to the same columns. -/
def SameRecord (naming : ColumnNaming) (r r' : Record α) : Prop :=
  List.Forall₂ (SameColumn naming) r.fields r'.fields

section Fields

variable {naming : ColumnNaming} {f g : Field α} {fs gs : List (Field α)} {r r' : Record α}

theorem putInto_sameColumn (h : SameColumn naming f g) (hs : List.Forall₂ (SameColumn naming) fs gs) :
    List.Forall₂ (SameColumn naming) (Record.putInto f fs) (Record.putInto g gs) := by
  induction hs with
  | nil => exact .cons h .nil
  | cons hhead htail ih =>
    rw [Record.putInto, Record.putInto, hhead.name, h.name]
    split_ifs
    · exact .cons h htail
    · exact .cons hhead ih

theorem SameRecord.foldl_put (hs : List.Forall₂ (SameColumn naming) fs gs) (h : SameRecord naming r r') :
    SameRecord naming (fs.foldl Record.put r) (gs.foldl Record.put r') := by
  induction hs generalizing r r' with
  | nil => exact h
  | cons hhead _ ih => exact ih (putInto_sameColumn hhead h)

theorem SameRecord.ofFields (hs : List.Forall₂ (SameColumn naming) fs gs) :
    SameRecord naming (Record.ofFields fs) (Record.ofFields gs) :=
  .foldl_put hs .nil

theorem SameRecord.map (F : α → β) (h : SameRecord naming r r') : SameRecord naming (r.map F) (r'.map F) := by
  unfold SameRecord Record.map
  rw [List.forall₂_map_left_iff, List.forall₂_map_right_iff]
  exact h.imp fun f g hfg => ⟨hfg.name, congrArg F hfg.value, hfg.column⟩

/-- Such records have the same entries. -/
theorem SameRecord.entries_eq (h : SameRecord naming r r') (arg : α → Arg) (rules : PayloadRules) (order : Bool) :
    r.entries arg { rules with config := ⟨.asIs, order⟩ } = r'.entries arg { rules with config := ⟨naming, order⟩ } := by
  have hentry {f g : Field α} (hfg : SameColumn naming f g) :
      f.entry? arg { rules with config := ⟨.asIs, order⟩ } = g.entry? arg { rules with config := ⟨naming, order⟩ } := by
    unfold Field.entry?
    simp only [hfg.column, hfg.name, hfg.value]
  have hentries : r.fields.filterMap (Field.entry? arg { rules with config := ⟨.asIs, order⟩ }) =
      r'.fields.filterMap (Field.entry? arg { rules with config := ⟨naming, order⟩ }) := by
    unfold SameRecord at h
    generalize r.fields = fs at h
    generalize r'.fields = gs at h
    induction h with
    | nil => rfl
    | cons hhead _ ih => rw [List.filterMap_cons, List.filterMap_cons, hentry hhead, ih]
  unfold Record.entries
  rw [hentries]

/-- Such records have the same columns and groups of values. -/
theorem ofRecords_eq {rows rows' : List (Record α)} (h : List.Forall₂ (SameRecord naming) rows rows') (arg : α → Arg)
    (absent : α) (rules : PayloadRules) (order : Bool) :
    Payload.ofRecords arg absent { rules with config := ⟨.asIs, order⟩ } rows =
      Payload.ofRecords arg absent { rules with config := ⟨naming, order⟩ } rows' := by
  cases h with
  | nil => rfl
  | @cons first first' rest rest' hfirst hrest =>
    have hgroups (columns : List String) :
        (rest.map fun r => Payload.alignedGroup absent columns
            (r.entries arg { rules with config := ⟨.asIs, order⟩ })) =
          rest'.map fun r => Payload.alignedGroup absent columns
            (r.entries arg { rules with config := ⟨naming, order⟩ }) := by
      induction hrest with
      | nil => rfl
      | cons hhead _ ih => rw [List.map_cons, List.map_cons, hhead.entries_eq, ih]
    rw [Payload.ofRecords, Payload.ofRecords, hfirst.entries_eq, hgroups]

end Fields

/-! ## Records of declared types -/

/-- A field has a name with a letter or number, unless the name does not give its column. -/
def DeclaredField.HasWord (f : DeclaredField) : Prop :=
  ∀ settings, RecordSettings.ofAttributes f.attributes = .ok settings → settings.skip = false →
    settings.rename = none → ∃ c ∈ f.plainName.toList, Text.isAlphanumeric c = true

/-- Two pushes that write the same member of each value to the same column. -/
def SamePush (naming : ColumnNaming) (p p' : FieldPush) : Prop :=
  ∀ members : String → Arg, SameColumn naming (p.field members) (p'.field members)

section Declared

variable {naming : ColumnNaming} {rule : RenameRule}

theorem ColumnNaming.ne_asIs_of_rule? (hrule : naming.rule? = some rule) : naming ≠ .asIs := by
  rintro rfl
  cases hrule

/-- A rule of the type and a convention of the settings give a field the same column. -/
theorem DeclaredField.push?_agree (hrule : naming.rule? = some rule) {f : DeclaredField} (hword : f.HasWord) :
    Agree (Option.Rel (SamePush naming)) (f.push? (some rule)) (f.push? none) := by
  unfold DeclaredField.push?
  cases hsettings : RecordSettings.ofAttributes f.attributes with
  | error e => exact .error e
  | ok settings =>
    show Agree _ (if settings.renameAll.isSome then _ else _) (if settings.renameAll.isSome then _ else _)
    split_ifs with htype hskip
    · exact .error _
    · exact .ok .none
    · refine .ok (.some fun members => ⟨rfl, rfl, ?_⟩)
      cases hrename : settings.rename with
      | some column => rfl
      | none =>
        obtain ⟨hempty, hhyphen⟩ := ColumnNaming.apply_of_alphanumeric (ColumnNaming.ne_asIs_of_rule? hrule)
          (hword settings hsettings (by simpa using hskip) hrename)
        simp [FieldPush.field, Field.column, ColumnNaming.apply_of_rule? hrule, hempty, hhyphen]

theorem forall₂_filterMap_id {R : α → β → Prop} {os : List (Option α)} {os' : List (Option β)}
    (h : List.Forall₂ (Option.Rel R) os os') : List.Forall₂ R (os.filterMap id) (os'.filterMap id) := by
  induction h with
  | nil => exact .nil
  | cons hhead _ ih =>
    cases hhead with
    | none => exact ih
    | some hab => exact .cons hab ih

/-- A type with a rule, and the same type without it. -/
structure RuledPair (naming : ColumnNaming) (fields : List DeclaredField) (ruled plain : List Attribute) : Prop where
  ruled : ∃ rule, naming.rule? = some rule ∧ RecordSettings.ofAttributes ruled = .ok { renameAll := some rule }
  plain : RecordSettings.ofAttributes plain = .ok {}
  words : ∀ f ∈ fields, f.HasWord

variable {fields : List DeclaredField} {ruled plain : List Attribute}

theorem RuledPair.pushes_agree (h : RuledPair naming fields ruled plain) :
    Agree (List.Forall₂ (SamePush naming)) (Declaration.pushes ⟨ruled, .named fields⟩)
      (Declaration.pushes ⟨plain, .named fields⟩) := by
  obtain ⟨rule, hrule, hruled⟩ := h.ruled
  have hfields := Agree.mapM fun f hf => DeclaredField.push?_agree hrule (h.words f hf)
  unfold Declaration.pushes
  dsimp only
  rw [hruled, h.plain]
  exact hfields.bind fun os os' hos => .ok (forall₂_filterMap_id hos)

/-- The records of a value of both types agree. -/
theorem RuledPair.record_agree (h : RuledPair naming fields ruled plain) (members : String → Arg) :
    Agree (SameRecord naming) (Declaration.record ⟨ruled, .named fields⟩ members)
      (Declaration.record ⟨plain, .named fields⟩ members) :=
  h.pushes_agree.bind fun ps ps' hps => .ok <| .ofFields <| by
    rw [List.forall₂_map_left_iff, List.forall₂_map_right_iff]
    exact hps.imp fun p p' hp => hp members

end Declared

/-! ## Statements that write records -/

/-- The ways in which a statement writes records. -/
inductive Writing (ρ : Type) where
  /-- Rows, and what to assign to a row that is already there. -/
  | insert (rows : List ρ) (duplicate : Option ρ)
  | replace (rows : List ρ)
  | update (row : ρ)
  | patch (row : ρ)

namespace Writing

/-- Makes the records of values. -/
def mapM {ε : Type} (f : α → Except ε β) : Writing α → Except ε (Writing β)
  | insert rows none => do return insert (← rows.mapM f) none
  | insert rows (some row) => do return insert (← rows.mapM f) (some (← f row))
  | replace rows => do return replace (← rows.mapM f)
  | update row => do return update (← f row)
  | patch row => do return patch (← f row)

/-- A statement that writes records. -/
def into (s : Statement) : Writing (Record Arg) → Statement
  | insert rows none => s.insertMany rows
  | insert rows (some row) => (s.insertMany rows).onDuplicate row
  | replace rows => s.replaceMany rows
  | update row => s.update row
  | patch row => s.patch row

/-- Two ways to write that are the same up to a relation between records. -/
inductive Rel (R : α → β → Prop) : Writing α → Writing β → Prop where
  | insert {rows : List α} {rows' : List β} {row : Option α} {row' : Option β} (h : List.Forall₂ R rows rows')
      (hduplicate : Option.Rel R row row') : Rel R (insert rows row) (insert rows' row')
  | replace {rows : List α} {rows' : List β} (h : List.Forall₂ R rows rows') : Rel R (replace rows) (replace rows')
  | update {row : α} {row' : β} (h : R row row') : Rel R (update row) (update row')
  | patch {row : α} {row' : β} (h : R row row') : Rel R (patch row) (patch row')

theorem mapM_agree {ε : Type} {R : α → β → Prop} {f : ρ → Except ε α} {g : ρ → Except ε β}
    (h : ∀ x, Agree R (f x) (g x)) (w : Writing ρ) : Agree (Rel R) (w.mapM f) (w.mapM g) := by
  cases w with
  | insert rows duplicate =>
    have hrows := Agree.mapM fun x (_ : x ∈ rows) => h x
    cases duplicate with
    | none => exact hrows.bind fun _ _ hr => .ok (.insert hr .none)
    | some row => exact hrows.bind fun _ _ hr => (h row).bind fun _ _ hd => .ok (.insert hr (.some hd))
  | replace rows => exact (Agree.mapM fun x (_ : x ∈ rows) => h x).bind fun _ _ hr => .ok (.replace hr)
  | update row => exact (h row).bind fun _ _ hr => .ok (.update hr)
  | patch row => exact (h row).bind fun _ _ hr => .ok (.patch hr)

end Writing

namespace Clauses

/-- Clauses with other settings, another operation and another duplicate clause. -/
def writing (c : Clauses Operand Subquery) (operation : Operation Operand Subquery)
    (duplicate : Option (Record Operand)) (config : Config) : Clauses Operand Subquery :=
  { c with operation, duplicate, config }

variable (c : Clauses Operand Subquery) {naming : ColumnNaming} (order : Bool)
  {o o' : Operation Operand Subquery} {d d' : Option (Record Operand)} {r r' : Record Operand}

theorem tableText_writing (hkind : o.kind = o'.kind) (config config' : Config) :
    (c.writing o d config).tableText = (c.writing o' d' config').tableText := by
  unfold tableText writing
  dsimp only
  rw [hkind]

/-- Assignments of such records are written in the same way. -/
theorem assignmentsText_writing (hkind : o.kind = o'.kind) (rules : PayloadRules) (context : String)
    (h : SameRecord naming r r') (d d' : Option (Record Operand)) :
    (c.writing o d ⟨.asIs, order⟩).assignmentsText { rules with config := ⟨.asIs, order⟩ } context r =
      (c.writing o' d' ⟨naming, order⟩).assignmentsText { rules with config := ⟨naming, order⟩ } context r' := by
  unfold assignmentsText
  rw [h.entries_eq]
  unfold writing
  dsimp only
  rw [hkind]

theorem valuesText_writing {rows rows' : List (Record Operand)} (h : List.Forall₂ (SameRecord naming) rows rows') :
    (c.writing o d ⟨.asIs, order⟩).valuesText rows = (c.writing o' d' ⟨naming, order⟩).valuesText rows' := by
  have hpayload := ofRecords_eq h Operand.arg Operand.null (c.payloadRules false) order
  unfold valuesText
  dsimp only
  have hrules : (c.writing o d ⟨.asIs, order⟩).payloadRules false =
      { c.payloadRules false with config := ⟨.asIs, order⟩ } := rfl
  have hrules' : (c.writing o' d' ⟨naming, order⟩).payloadRules false =
      { c.payloadRules false with config := ⟨naming, order⟩ } := rfl
  rw [hrules, hrules', hpayload]

theorem insertHead_writing {rows rows' : List (Record Operand)} (hkind : o.kind = o'.kind) (verb : String)
    (leading : List String) (h : List.Forall₂ (SameRecord naming) rows rows') :
    (c.writing o d ⟨.asIs, order⟩).insertHead verb leading rows =
      (c.writing o' d' ⟨naming, order⟩).insertHead verb leading rows' := by
  unfold insertHead
  rw [c.tableText_writing hkind _ ⟨naming, order⟩, c.valuesText_writing order h]

theorem updateHead_writing (hkind : o.kind = o'.kind) (leading : List String) (patch : Bool)
    (h : SameRecord naming r r') :
    (c.writing o d ⟨.asIs, order⟩).updateHead leading patch r =
      (c.writing o' d' ⟨naming, order⟩).updateHead leading patch r' := by
  have hassignments :
      (c.writing o d ⟨.asIs, order⟩).assignmentsText ((c.writing o d ⟨.asIs, order⟩).payloadRules patch) "SET" r =
        (c.writing o' d' ⟨naming, order⟩).assignmentsText ((c.writing o' d' ⟨naming, order⟩).payloadRules patch)
          "SET" r' :=
    c.assignmentsText_writing order hkind (c.payloadRules patch) "SET" h d d'
  unfold updateHead
  rw [c.tableText_writing hkind _ ⟨naming, order⟩, hassignments]

theorem duplicateClause_writing (hkind : o.kind = o'.kind) (h : Option.Rel (SameRecord naming) d d') :
    (c.writing o d ⟨.asIs, order⟩).duplicateClause = (c.writing o' d' ⟨naming, order⟩).duplicateClause := by
  cases h with
  | none => rfl
  | some hrow =>
    let keyword (x : Binder String) : Binder (List String) := do return ["ON DUPLICATE KEY UPDATE " ++ (← x)]
    let rules := { c.payloadRules false with omitted := [] }
    exact congrArg keyword (c.assignmentsText_writing order hkind rules "ON DUPLICATE" hrow _ _)

/-- Clauses whose head and duplicate clause are written in the same way. -/
theorem assembleClauses_writing {config config' : Config}
    (hhead : ∀ leading, (c.writing o d config).head leading = (c.writing o' d' config').head leading)
    (hduplicate : (c.writing o d config).duplicateClause = (c.writing o' d' config').duplicateClause)
    (withAlias : Bool) :
    (c.writing o d config).assembleClauses withAlias = (c.writing o' d' config').assembleClauses withAlias := by
  unfold assembleClauses
  simp only [hhead, hduplicate]
  rfl

end Clauses

namespace Writing

variable {σ : Type} {naming : ColumnNaming}

/-- The operation that writes records. -/
def operation : Writing (Record α) → Operation α σ
  | insert rows _ => .insert rows
  | replace rows => .replace rows
  | update row => .update row
  | patch row => .patch row

/-- What is assigned to a row that is already there. -/
def duplicate : Writing (Record α) → Option (Record α)
  | insert _ row => row
  | _ => none

/-- Changes the values of the records. -/
def map (f : α → β) : Writing α → Writing β
  | insert rows row => insert (rows.map f) (row.map f)
  | replace rows => replace (rows.map f)
  | update row => update (f row)
  | patch row => patch (f row)

theorem into_eq {s : Statement} (hs : s.clauses.duplicate = none) (w : Writing (Record Arg)) (config : Config) :
    w.into (s.configure config) =
      .mk { s.clauses with operation := w.operation, duplicate := w.duplicate, config := config } := by
  have hnone (o : Operation Arg Statement) : Statement.mk { s.clauses with operation := o, config := config } =
      .mk { s.clauses with operation := o, duplicate := none, config := config } := by
    rw [← hs]
  cases w with
  | insert rows row =>
    cases row with
    | none => exact hnone _
    | some row => rfl
  | replace rows => exact hnone _
  | update row => exact hnone _
  | patch row => exact hnone _

theorem build_into_eq {s : Statement} (hs : s.clauses.duplicate = none) (w : Writing (Record Arg)) (config : Config) :
    (w.into (s.configure config)).build = Binder.standalone
      (((s.clauses.map Arg.operand Statement.subquery).writing (w.map (Record.map Arg.operand)).operation
        (w.map (Record.map Arg.operand)).duplicate config).assembleClauses true) := by
  rw [into_eq hs, Statement.build, Statement.subquery_mk]
  cases w <;> rfl

theorem rel_map_operand {w w' : Writing (Record Arg)} (h : Rel (SameRecord naming) w w') :
    Rel (SameRecord naming) (w.map (Record.map Arg.operand)) (w'.map (Record.map Arg.operand)) := by
  have hrows {rows rows' : List (Record Arg)} (h : List.Forall₂ (SameRecord naming) rows rows') :
      List.Forall₂ (SameRecord naming) (rows.map (Record.map Arg.operand)) (rows'.map (Record.map Arg.operand)) := by
    rw [List.forall₂_map_left_iff, List.forall₂_map_right_iff]
    exact h.imp fun r r' hr => hr.map Arg.operand
  cases h with
  | insert h hduplicate =>
    refine .insert (hrows h) ?_
    cases hduplicate with
    | none => exact .none
    | some hrow => exact .some (hrow.map Arg.operand)
  | replace h => exact .replace (hrows h)
  | update h => exact .update (h.map Arg.operand)
  | patch h => exact .patch (h.map Arg.operand)

variable {v v' : Writing (Record Operand)} (c : Clauses Operand Subquery) (order : Bool)

theorem Rel.kind_eq (h : Rel (SameRecord naming) v v') :
    (v.operation : Operation Operand Subquery).kind = (v'.operation : Operation Operand Subquery).kind := by
  cases h <;> rfl

theorem Rel.head_eq (h : Rel (SameRecord naming) v v') (leading : List String) :
    (c.writing v.operation v.duplicate ⟨.asIs, order⟩).head leading =
      (c.writing v'.operation v'.duplicate ⟨naming, order⟩).head leading := by
  have hkind := h.kind_eq
  cases h with
  | insert h _ => exact c.insertHead_writing order hkind "INSERT" leading h
  | replace h => exact c.insertHead_writing order hkind "REPLACE" leading h
  | update h => exact c.updateHead_writing order hkind leading false h
  | patch h => exact c.updateHead_writing order hkind leading true h

theorem Rel.duplicateClause_eq (h : Rel (SameRecord naming) v v') :
    (c.writing v.operation v.duplicate ⟨.asIs, order⟩).duplicateClause =
      (c.writing v'.operation v'.duplicate ⟨naming, order⟩).duplicateClause := by
  have hkind := h.kind_eq
  cases h with
  | insert _ hduplicate => exact c.duplicateClause_writing order hkind hduplicate
  | replace _ => rfl
  | update _ => rfl
  | patch _ => rfl

/-- Statements that write such records, with the names as columns in one and with a convention in the other, are
compiled in the same way. -/
theorem Rel.build_eq {s : Statement} (hs : s.clauses.duplicate = none) {w w' : Writing (Record Arg)}
    (h : Rel (SameRecord naming) w w') (order : Bool) :
    (w.into (s.configure ⟨.asIs, order⟩)).build = (w'.into (s.configure ⟨naming, order⟩)).build := by
  have hoperand := rel_map_operand h
  rw [build_into_eq hs, build_into_eq hs]
  rw [Clauses.assembleClauses_writing _ (hoperand.head_eq _ order) (hoperand.duplicateClause_eq _ order)]

end Writing

/-! ## Both ways to name columns -/

/-- Compiles a statement that writes values of a type. -/
def Declaration.compile (d : Declaration) (values : Writing (String → Arg)) (s : Statement) :
    Except AnnotationFault (Except SqlError BuiltQuery) := do
  return ((← values.mapM d.record).into s).build

/-- **Two ways, one statement.** Values of a type that names its columns by a rule, in a statement that takes names as
they are, compile to the same text and values as the values of the type without the rule, in a statement with that
convention, or both fail in the same way; as long as each name that gives a column has a letter or a number. -/
theorem compile_of_rule {naming : ColumnNaming} {fields : List DeclaredField} {ruled plain : List Attribute}
    (h : RuledPair naming fields ruled plain) (values : Writing (String → Arg)) {s : Statement}
    (hs : s.clauses.duplicate = none) (order : Bool) :
    Declaration.compile ⟨ruled, .named fields⟩ values (s.configure ⟨.asIs, order⟩) =
      Declaration.compile ⟨plain, .named fields⟩ values (s.configure ⟨naming, order⟩) :=
  (values.mapM_agree h.record_agree).map_eq fun _ _ hw => hw.build_eq hs order

/-- Asks for a rule for all columns. -/
def renameAll (rule : String) : Attribute :=
  .items (AttributeItem.tokens ⟨"rename_all", some (.text rule)⟩)

/-- A raw name, a name of two words, a skipped field, and a name without words that has a column of its own. -/
def accountFields : List DeclaredField :=
  [⟨"r#type", []⟩, ⟨"UserName", []⟩, ⟨"secret", [.items [.word "skip"]]⟩,
    ⟨"__", [.items [.word "rename", .equals, .text "user_id"]]⟩]

theorem ruledPair_accountFields : RuledPair .camelCase accountFields [renameAll "camelCase"] [] where
  ruled := ⟨.camel, rfl, rfl⟩
  plain := rfl
  words := by
    have hword (f : DeclaredField) (h : f.plainName.toList.any Text.isAlphanumeric = true) : f.HasWord :=
      fun _ _ _ _ => List.any_eq_true.1 h
    have hrenamed : DeclaredField.HasWord ⟨"__", [.items [.word "rename", .equals, .text "user_id"]]⟩ := by
      intro settings hsettings _ hrename
      cases hsettings
      cases hrename
    simp only [accountFields, List.forall_mem_cons]
    exact ⟨hword _ (by decide), hword _ (by decide), hword _ (by decide), hrenamed, by simp⟩

theorem compile_accountFields :
    RuledPair .camelCase accountFields [renameAll "camelCase"] [] ∧
      ((Statement.onTable "account").omitColumns ["type"]).clauses.duplicate = none ∧
      Declaration.compile ⟨[renameAll "camelCase"], .named accountFields⟩ (.patch fun _ => .value (.int 7))
          (((Statement.onTable "account").omitColumns ["type"]).configure ⟨.asIs, true⟩) =
        Declaration.compile ⟨[], .named accountFields⟩ (.patch fun _ => .value (.int 7))
          (((Statement.onTable "account").omitColumns ["type"]).configure ⟨.camelCase, true⟩) :=
  ⟨ruledPair_accountFields, rfl, compile_of_rule ruledPair_accountFields (.patch _) rfl true⟩

/-! ## A name without words -/

/-- A name without letters and numbers, and one with them. -/
def wordlessFields : List DeclaredField :=
  [⟨"__", []⟩, ⟨"UserName", []⟩]

/-- A value with these members. -/
def numberedMembers (member : String) : Arg :=
  .value (.int (if member = "__" then 1 else 2))

/-- The column of a name without words is empty. Given by the rule, it drops the field; given by the convention, it is
written. -/
theorem compile_wordlessFields :
    Declaration.compile ⟨[renameAll "snake_case"], .named wordlessFields⟩ (.insert [numberedMembers] none)
        ((Statement.onTable "T").configure ⟨.asIs, false⟩) =
      .ok (.ok ⟨"INSERT INTO T (user_name) VALUES (?)", [.int 2]⟩) ∧
    Declaration.compile ⟨[], .named wordlessFields⟩ (.insert [numberedMembers] none)
        ((Statement.onTable "T").configure ⟨.snakeCase, false⟩) =
      .ok (.ok ⟨"INSERT INTO T (, user_name) VALUES (?, ?)", [.int 1, .int 2]⟩) := by
  have hvalue (u : Value) : (Arg.value u).operand = ⟨.value u, fun _ _ => Binder.bindValue u⟩ := by rw [Arg.operand]
  have hcompile {d : Declaration} {row : Record Arg} (hd : d.record numberedMembers = .ok row) (config : Config) :
      Declaration.compile d (.insert [numberedMembers] none) ((Statement.onTable "T").configure config) =
        .ok ((Writing.insert [row] none).into ((Statement.onTable "T").configure config)).build := by
    rw [Declaration.compile, Writing.mapM, List.mapM_cons, hd]
    rfl
  -- the rule of the type drops the first field; the naming of the statement gives it an empty column
  have hruled : Declaration.record ⟨[renameAll "snake_case"], .named wordlessFields⟩ numberedMembers = .ok
      ⟨[{ name := "__", value := .value (.int 1), rename := some "" },
        { name := "UserName", value := .value (.int 2), rename := some "user_name" }]⟩ := rfl
  have hplain : Declaration.record ⟨[], .named wordlessFields⟩ numberedMembers = .ok
      ⟨[{ name := "__", value := .value (.int 1) }, { name := "UserName", value := .value (.int 2) }]⟩ := rfl
  constructor
  · rw [hcompile hruled, Writing.build_into_eq rfl]
    simp only [Writing.map, Record.map, Field.map, List.map, hvalue]
    rfl
  · rw [hcompile hplain, Writing.build_into_eq rfl]
    simp only [Writing.map, Record.map, Field.map, List.map, hvalue]
    rfl

end FluentSql

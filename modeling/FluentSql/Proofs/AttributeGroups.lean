import FluentSql.Proofs.Outcomes
import FluentSql.Record.Declaration
import Mathlib

/-!
# FluentSql.Proofs.AttributeGroups — how the items of annotations are grouped does not matter

* `AttributeItem.setting`: what one item says by itself, or why it cannot be read.
* `RecordSettings.summary`: what a list of such settings comes to: `skip` if it is there at all, the last column, the
  last rule.
* `RecordSettings.read_merge`: settings that were read before are only merged with what is read.
* `RecordSettings.read_joined`: a list of items is read item by item.
* `Regrouped`: annotations that differ in how their items are grouped, whatever else stands around them;
  `Regrouped.of_items`: annotations with the same items are such.
* `RecordSettings.ofAttributes_of_regrouped`, `RecordSettings.ofAttributes_groups`: they say the same, which is what
  their items say. `RecordSettings.exists_groups_of_ok`: annotations that can be read are groups of items.
* `ReadableField`, `Declaration.FollowsItems`: a field whose items can be read; what a type pushes is what its items and
  those of its fields say.
* `Declaration.pushes_of_regrouped`: declarations with regrouped annotations have the same pushes.
-/

namespace FluentSql

/-! ## Single items -/

/-- What one item says. -/
inductive ItemSetting where
  | skip
  | rename (column : String)
  | renameAll (rule : RenameRule)
  deriving DecidableEq, Repr

namespace ItemSetting

/-- The column of an item that gives one. -/
def column? : ItemSetting → Option String
  | rename column => some column
  | _ => none

/-- The rule of an item that gives one. -/
def rule? : ItemSetting → Option RenameRule
  | renameAll rule => some rule
  | _ => none

end ItemSetting

namespace AttributeItem

/-- The text that is assigned to an item. -/
def assigned (i : AttributeItem) : Except AnnotationFault String :=
  match i.value with
  | some (.text s) => .ok s
  | some .literal => .error .expectedText
  | none => .error .expectedEquals

/-- What an item says by itself, or why it cannot be read. -/
def setting (i : AttributeItem) : Except AnnotationFault ItemSetting :=
  match i.name with
  | "skip" => if i.value.isNone then .ok .skip else .error .expectedComma
  | "rename" => do return .rename (← i.assigned)
  | "rename_all" => do
    let name ← i.assigned
    match RenameRule.ofText? name with
    | some rule => return .renameAll rule
    | none => throw (.unknownRule name)
  | name => .error (if reservedWords.contains name then .reservedWord name else .unknownItem name)

end AttributeItem

namespace RecordSettings

/-! ## Settings put together -/

/-- What a list of settings comes to. -/
def summary (settings : List ItemSetting) : RecordSettings where
  skip := settings.contains .skip
  rename := (settings.filterMap ItemSetting.column?).getLast?
  renameAll := (settings.filterMap ItemSetting.rule?).getLast?

theorem merge_nil (s : RecordSettings) : s.merge (summary []) = s := by
  simp [merge, summary]

theorem nil_merge (s : RecordSettings) : merge {} s = s := by
  simp [merge]

theorem merge_assoc (s t u : RecordSettings) : (s.merge t).merge u = s.merge (t.merge u) := by
  simp [merge, Bool.or_assoc, Option.or_assoc]

theorem summary_append (a b : List ItemSetting) : summary (a ++ b) = (summary a).merge (summary b) := by
  simp [summary, merge, List.filterMap_append, List.getLast?_append]

theorem merge_summary_cons (s : RecordSettings) (a : ItemSetting) (as : List ItemSetting) :
    s.merge (summary (a :: as)) = (s.merge (summary [a])).merge (summary as) := by
  rw [merge_assoc, ← summary_append, List.singleton_append]

/-! ## Reading -/

/-- Settings that were read before are only merged with what is read. -/
theorem read_merge (s : RecordSettings) : ∀ t tokens, (s.merge t).read tokens = s.merge <$> t.read tokens := by
  -- on the tokens; behind an item the separator is read with the settings merged so far
  refine read.induct (fun t tokens => (s.merge t).read tokens = s.merge <$> t.read tokens)
    (fun t tokens => (s.merge t).readNext tokens = s.merge <$> t.readNext tokens) ?nil ?skip ?rename ?rule ?noRule
    ?reserved ?unassigned ?unknown ?noWord ?last ?comma ?noComma
  case nil | last => exact fun t => rfl
  case skip =>
    intro t r ih
    rw [read, read, ← ih]
    simp [merge]
  case rename =>
    intro t column r ih
    rw [read, read, ← ih]
    simp [merge]
  case rule =>
    intro t name r rule hrule ih
    rw [read, read, hrule, ← ih]
    simp [merge]
  case noRule =>
    intro t name r hrule
    rw [read, read, hrule]
    rfl
  case reserved | unassigned | unknown =>
    intros
    rw [read, read]
    · split_ifs
      rfl
    all_goals assumption
  case noWord =>
    intros
    rw [read, read]
    · rfl
    all_goals assumption
  case comma =>
    intro t r ih
    rw [readNext, readNext, ih]
  case noComma =>
    intros
    rw [readNext, readNext]
    · rfl
    all_goals assumption

theorem read_eq (s : RecordSettings) (tokens : List AttributeToken) : s.read tokens = s.merge <$> read {} tokens := by
  have h := read_merge s {} tokens
  rwa [show s.merge {} = s from merge_nil s] at h

/-- A word that is no item, whatever follows it. -/
theorem read_unknown (s : RecordSettings) {name : String} (hskip : name ≠ "skip") (hrename : name ≠ "rename")
    (hrule : name ≠ "rename_all") (r : List AttributeToken) :
    s.read (.word name :: r) =
      .error (if reservedWords.contains name then .reservedWord name else .unknownItem name) := by
  rw [read, if_neg (not_or.2 ⟨hrename, hrule⟩)]
  · split_ifs <;> rfl
  · exact hskip
  · exact fun _ _ _ => hrename
  · exact fun _ _ _ => hrule

/-- A column or a rule that is missing or no text. -/
theorem read_noText (s : RecordSettings) {name : String} (hname : name = "rename" ∨ name = "rename_all")
    {r : List AttributeToken} (hr : ∀ text r', r ≠ .equals :: .text text :: r') :
    s.read (.word name :: r) = .error (.ofUnassigned r) := by
  have hskip : name ≠ "skip" := by rcases hname with rfl | rfl <;> decide
  have hreserved : ¬reservedWords.contains name = true := by rcases hname with rfl | rfl <;> decide
  rw [read, if_neg hreserved, if_pos hname]
  · exact hskip
  · exact fun text r' h => absurd h (hr text r')
  · exact fun text r' h => absurd h (hr text r')

/-- A column or a rule that is missing or no text, as an item in front of a separator. -/
theorem read_unassigned (s : RecordSettings) {i : AttributeItem} (hname : i.name = "rename" ∨ i.name = "rename_all")
    {fault : AnnotationFault} (hfault : i.assigned = .error fault) {r : List AttributeToken}
    (hr : r.head? ≠ some .equals) : s.read (i.tokens ++ r) = .error fault := by
  obtain ⟨name, value⟩ := i
  rcases value with _ | text | _
  · have hbare (text : String) (r' : List AttributeToken) : r ≠ .equals :: .text text :: r' := by
      rintro rfl
      exact hr rfl
    have hcause : AnnotationFault.ofUnassigned r = .expectedEquals := by
      unfold AnnotationFault.ofUnassigned
      split
      · exact absurd rfl hr
      · exact absurd rfl hr
      · rfl
    rw [← Except.error.inj hfault, ← hcause]
    exact s.read_noText hname hbare
  · nomatch hfault
  · rw [← Except.error.inj hfault]
    exact s.read_noText hname (by simp)

theorem tokens_of_assigned {i : AttributeItem} {text : String} (h : i.assigned = .ok text) :
    i.tokens = [.word i.name, .equals, .text text] := by
  obtain ⟨name, value⟩ := i
  rcases value with _ | _ | _
  · nomatch h
  · rw [← Except.ok.inj h]
    rfl
  · nomatch h

theorem exists_tokens (i : AttributeItem) : ∃ r, i.tokens = .word i.name :: r := by
  obtain ⟨name, value⟩ := i
  rcases value with _ | _ | _ <;> exact ⟨_, rfl⟩

/-- An item is read by itself, whatever separator follows it. -/
theorem read_item (s : RecordSettings) (i : AttributeItem) {r : List AttributeToken} (hr : r.head? ≠ some .equals) :
    s.read (i.tokens ++ r) = i.setting >>= fun a => (s.merge (summary [a])).readNext r := by
  -- one case for each word that the reader knows, and one for all others
  unfold AttributeItem.setting
  split
  case h_1 hname =>
    obtain ⟨name, value⟩ := i
    obtain rfl : name = "skip" := hname
    rcases value with _ | value
    · show s.read (.word "skip" :: r) = (s.merge (summary [.skip])).readNext r
      rw [read]
      simp [merge, summary, ItemSetting.column?, ItemSetting.rule?]
    · -- what is assigned stands where a separator is expected
      obtain ⟨r', hr'⟩ : ∃ r', AttributeItem.tokens ⟨"skip", some value⟩ = .word "skip" :: .equals :: r' := by
        cases value <;> exact ⟨_, rfl⟩
      rw [hr', List.cons_append, List.cons_append, read, readNext]
      · rfl
      · simp
  case h_2 hname =>
    cases hassigned : i.assigned with
    | error fault => exact s.read_unassigned (.inl hname) hassigned hr
    | ok column =>
      rw [tokens_of_assigned hassigned, hname]
      show s.read (.word "rename" :: .equals :: .text column :: r) = (s.merge (summary [.rename column])).readNext r
      rw [read]
      simp [merge, summary, ItemSetting.column?, ItemSetting.rule?]
  case h_3 hname =>
    cases hassigned : i.assigned with
    | error fault => exact s.read_unassigned (.inr hname) hassigned hr
    | ok name =>
      rw [tokens_of_assigned hassigned, hname]
      show s.read (.word "rename_all" :: .equals :: .text name :: r) = _
      rw [read]
      cases hrule : RenameRule.ofText? name with
      | none => simp [hrule, bind, Except.bind, throw, throwThe, MonadExceptOf.throw]
      | some rule =>
        simp [hrule, bind, Except.bind, pure, Except.pure, merge, summary, ItemSetting.column?, ItemSetting.rule?]
  case h_4 name hskip hrename hrule =>
    obtain ⟨r', hr'⟩ := exists_tokens i
    rw [hr', List.cons_append, read_unknown s hskip hrename hrule]
    rfl

end RecordSettings

/-! ## Lists of items -/

namespace AttributeItem

theorem joined_singleton (separator : List AttributeToken) (i : AttributeItem) : joined separator [i] = i.tokens := by
  simp [joined, List.intercalate]

theorem joined_cons_cons (separator : List AttributeToken) (i j : AttributeItem) (items : List AttributeItem) :
    joined separator (i :: j :: items) = i.tokens ++ (separator ++ joined separator (j :: items)) := by
  simp [joined, List.intercalate]

theorem joined_append (separator : List AttributeToken) {a b : List AttributeItem} (ha : a ≠ []) (hb : b ≠ []) :
    joined separator (a ++ b) = joined separator a ++ (separator ++ joined separator b) := by
  induction a with
  | nil => exact absurd rfl ha
  | cons i a ih =>
    cases a with
    | nil =>
      obtain ⟨j, b, rfl⟩ := List.exists_cons_of_ne_nil hb
      rw [List.singleton_append, joined_cons_cons, joined_singleton]
    | cons j a =>
      rw [List.cons_append, List.cons_append, joined_cons_cons, joined_cons_cons, List.append_assoc, List.append_assoc,
        ← ih (List.cons_ne_nil j a), List.cons_append]

end AttributeItem

namespace RecordSettings

/-- Items are read one after the other, whatever separator follows the last one. -/
theorem read_joined (s : RecordSettings) {items : List AttributeItem} (hne : items ≠ []) {r : List AttributeToken}
    (hr : r.head? ≠ some .equals) :
    s.read (AttributeItem.joined [.comma] items ++ r) =
      items.mapM AttributeItem.setting >>= fun settings => (s.merge (summary settings)).readNext r := by
  induction items generalizing s with
  | nil => exact absurd rfl hne
  | cons i items ih =>
    rw [List.mapM_cons, bind_assoc]
    cases items with
    | nil =>
      rw [AttributeItem.joined_singleton, s.read_item i hr]
      rfl
    | cons j items =>
      -- the comma keeps an item without a value from taking one from the next
      have hcomma :
          (AttributeToken.comma :: (AttributeItem.joined [.comma] (j :: items) ++ r)).head? ≠ some .equals := by
        simp
      rw [AttributeItem.joined_cons_cons, List.append_assoc, List.append_assoc, List.singleton_append,
        s.read_item i hcomma]
      refine congrArg (i.setting >>= ·) (funext fun a => ?_)
      rw [readNext, ih _ (List.cons_ne_nil j items), bind_assoc]
      refine congrArg ((j :: items).mapM AttributeItem.setting >>= ·) (funext fun as => ?_)
      rw [pure_bind, merge_summary_cons s a as]

/-- A list of items, with nothing behind it. -/
theorem read_list (s : RecordSettings) (items : List AttributeItem) :
    s.read (AttributeItem.joined [.comma] items) =
      items.mapM AttributeItem.setting >>= fun settings => .ok (s.merge (summary settings)) := by
  cases items with
  | nil =>
    show Except.ok s = Except.ok (s.merge (summary []))
    rw [merge_nil]
  | cons i items =>
    have h := s.read_joined (List.cons_ne_nil i items) (r := []) (by simp)
    rw [List.append_nil] at h
    exact h

/-- A list of items with a comma behind it. -/
theorem read_comma (s : RecordSettings) {items : List AttributeItem} (hne : items ≠ []) (r : List AttributeToken) :
    s.read (AttributeItem.joined [.comma] items ++ .comma :: r) =
      s.read (AttributeItem.joined [.comma] items) >>= fun t => t.read r := by
  rw [s.read_joined hne (by simp), s.read_list, bind_assoc]
  rfl

/-- An annotation is read from the settings before it on. -/
theorem addAttribute_items (s : RecordSettings) (tokens : List AttributeToken) :
    s.addAttribute (.items tokens) = s.read tokens :=
  (s.read_eq tokens).symm

end RecordSettings

/-! ## Regrouping -/

/-- Annotations that differ in how their items are grouped. Whatever else stands around them stays where it is, also
annotations that cannot be read. -/
inductive Regrouped : List Attribute → List Attribute → Prop where
  | refl (as : List Attribute) : Regrouped as as
  | symm {as bs : List Attribute} (h : Regrouped as bs) : Regrouped bs as
  | trans {as bs cs : List Attribute} (h : Regrouped as bs) (h' : Regrouped bs cs) : Regrouped as cs
  | inside (before behind : List Attribute) {as bs : List Attribute} (h : Regrouped as bs) :
      Regrouped (before ++ as ++ behind) (before ++ bs ++ behind)
  /-- A list can be cut behind one of its items. What follows the comma there need not be readable; if nothing follows,
  the comma is a trailing one. -/
  | cut {items : List AttributeItem} (hne : items ≠ []) (r : List AttributeToken) :
      Regrouped [.items (AttributeItem.joined [.comma] items ++ .comma :: r)]
        [.items (AttributeItem.joined [.comma] items), .items r]
  /-- A list without items can be left out. -/
  | emptyList : Regrouped [.items []] []
  /-- So can annotations for something else. -/
  | unrelated : Regrouped [.unrelated] []

namespace RecordSettings

/-- Regrouped annotations say the same, and fail in the same way. -/
theorem foldlM_of_regrouped {as bs : List Attribute} (h : Regrouped as bs) (s : RecordSettings) :
    as.foldlM addAttribute s = bs.foldlM addAttribute s := by
  induction h generalizing s with
  | refl as => rfl
  | symm _ ih => exact (ih s).symm
  | trans _ _ ih ih' => exact (ih s).trans (ih' s)
  | inside before behind _ ih => simp only [List.foldlM_append, ih]
  | cut hne r => simp only [List.foldlM_cons, List.foldlM_nil, bind_pure, addAttribute_items, s.read_comma hne]
  | emptyList =>
    show (s.addAttribute (.items []) >>= fun t => pure t) = _
    rw [bind_pure, addAttribute_items]
    rfl
  | unrelated => rfl

theorem ofAttributes_of_regrouped {as bs : List Attribute} (h : Regrouped as bs) :
    ofAttributes as = ofAttributes bs :=
  foldlM_of_regrouped h {}

end RecordSettings

/-! ## Groups of items -/

/-- One annotation, as a group of items. -/
inductive ItemGroup where
  | list (items : List AttributeItem)
  /-- A list with a comma behind its last item. -/
  | trailing (first : AttributeItem) (others : List AttributeItem)
  /-- An annotation for something else. -/
  | unrelated

namespace ItemGroup

/-- The items of a group. -/
def items : ItemGroup → List AttributeItem
  | list items => items
  | trailing first others => first :: others
  | unrelated => []

/-- A group as it is written. -/
def written : ItemGroup → Attribute
  | list items => .items (AttributeItem.joined [.comma] items)
  | trailing first others => .items (AttributeItem.joined [.comma] (first :: others) ++ [.comma])
  | unrelated => .unrelated

end ItemGroup

namespace Regrouped

theorem append {as bs as' bs' : List Attribute} (h : Regrouped as bs) (h' : Regrouped as' bs') :
    Regrouped (as ++ as') (bs ++ bs') := by
  have hfirst : Regrouped (as ++ as') (bs ++ as') := by simpa using h.inside [] as'
  have hsecond : Regrouped (bs ++ as') (bs ++ bs') := by simpa using h'.inside bs []
  exact hfirst.trans hsecond

/-- Lists next to each other can be merged. -/
theorem merge (a b : List AttributeItem) :
    Regrouped [.items (AttributeItem.joined [.comma] a), .items (AttributeItem.joined [.comma] b)]
      [.items (AttributeItem.joined [.comma] (a ++ b))] := by
  by_cases ha : a = []
  · subst ha
    exact emptyList.append (.refl [.items (AttributeItem.joined [.comma] b)])
  by_cases hb : b = []
  · subst hb
    rw [List.append_nil]
    exact (refl [.items (AttributeItem.joined [.comma] a)]).append emptyList
  · rw [AttributeItem.joined_append [.comma] ha hb]
    exact (cut ha (AttributeItem.joined [.comma] b)).symm

/-- Groups can be merged into one list. -/
theorem one (gs : List ItemGroup) :
    Regrouped (gs.map ItemGroup.written) [.items (AttributeItem.joined [.comma] (gs.flatMap ItemGroup.items))] := by
  induction gs with
  | nil => exact emptyList.symm
  | cons g gs ih =>
    have hlist (items : List AttributeItem) : Regrouped
        (.items (AttributeItem.joined [.comma] items) :: gs.map ItemGroup.written)
        [.items (AttributeItem.joined [.comma] (items ++ gs.flatMap ItemGroup.items))] :=
      ((refl [.items (AttributeItem.joined [.comma] items)]).append ih).trans (merge items _)
    cases g with
    | list items => exact hlist items
    | trailing first others =>
      have hcut : Regrouped [(ItemGroup.trailing first others).written]
          [.items (AttributeItem.joined [.comma] (first :: others))] :=
        (cut (List.cons_ne_nil first others) []).trans
          ((refl [.items (AttributeItem.joined [.comma] (first :: others))]).append emptyList)
      exact (hcut.append (refl _)).trans (hlist (first :: others))
    | unrelated => exact (unrelated.append (refl _)).trans ih

/-- Annotations with the same items, however these are grouped. -/
theorem of_items {gs gs' : List ItemGroup} (h : gs.flatMap ItemGroup.items = gs'.flatMap ItemGroup.items) :
    Regrouped (gs.map ItemGroup.written) (gs'.map ItemGroup.written) :=
  (one gs).trans (h ▸ (one gs').symm)

end Regrouped

/-- What groups say is what their items say. -/
theorem RecordSettings.ofAttributes_groups (gs : List ItemGroup) :
    ofAttributes (gs.map ItemGroup.written) =
      (gs.flatMap ItemGroup.items).mapM AttributeItem.setting >>= fun settings => .ok (summary settings) := by
  rw [ofAttributes_of_regrouped (.one gs)]
  show (addAttribute {} _ >>= fun s => pure s) = _
  rw [bind_pure, addAttribute_items, read_list]
  simp only [nil_merge]

/-! ### Annotations that can be read -/

/-- Another item in front of a group. -/
theorem exists_group_cons (i : AttributeItem) {r : List AttributeToken} (h : ∃ g : ItemGroup, g.written = .items r) :
    ∃ g : ItemGroup, g.written = .items (i.tokens ++ .comma :: r) := by
  obtain ⟨g, hg⟩ := h
  cases g with
  | unrelated => nomatch hg
  | list items =>
    obtain rfl := Attribute.items.inj hg
    cases items with
    | nil => exact ⟨.trailing i [], by rw [ItemGroup.written, AttributeItem.joined_singleton]; rfl⟩
    | cons j items => exact ⟨.list (i :: j :: items), by rw [ItemGroup.written, AttributeItem.joined_cons_cons]; rfl⟩
  | trailing first others =>
    obtain rfl := Attribute.items.inj hg
    refine ⟨.trailing i (first :: others), ?_⟩
    rw [ItemGroup.written, AttributeItem.joined_cons_cons]
    simp

/-- What can be read is a list of items, maybe with a comma behind the last one. -/
theorem RecordSettings.exists_group_of_read : ∀ (s : RecordSettings) (tokens : List AttributeToken),
    ∀ t, s.read tokens = .ok t → ∃ g : ItemGroup, g.written = .items tokens := by
  -- on the tokens; where a separator is expected, the item in front of it comes along
  refine read.induct (fun s tokens => ∀ t, s.read tokens = .ok t → ∃ g : ItemGroup, g.written = .items tokens)
    (fun s tokens => ∀ t, s.readNext tokens = .ok t → ∀ i : AttributeItem,
      ∃ g : ItemGroup, g.written = .items (i.tokens ++ tokens)) ?nil ?skip ?rename ?rule ?noRule ?reserved
    ?unassigned ?unknown ?noWord ?last ?comma ?noComma
  case nil => exact fun s t h => ⟨.list [], rfl⟩
  case skip =>
    intro s r ih t h
    rw [read] at h
    exact ih t h ⟨"skip", none⟩
  case rename =>
    intro s column r ih t h
    rw [read] at h
    exact ih t h ⟨"rename", some (.text column)⟩
  case rule =>
    intro s name r rule hrule ih t h
    rw [read, hrule] at h
    exact ih t h ⟨"rename_all", some (.text name)⟩
  case noRule =>
    intro s name r hrule t h
    rw [read, hrule] at h
    nomatch h
  case reserved | unassigned | unknown =>
    intros
    rename_i h
    rw [read] at h
    · split_ifs at h
    all_goals assumption
  case noWord =>
    intros
    rename_i h
    rw [read] at h
    · nomatch h
    all_goals assumption
  case last =>
    intro s t h i
    exact ⟨.list [i], by rw [ItemGroup.written, AttributeItem.joined_singleton, List.append_nil]⟩
  case comma =>
    intro s r ih t h i
    rw [readNext] at h
    exact exists_group_cons i (ih t h)
  case noComma =>
    intros
    rename_i h _
    rw [readNext] at h
    · nomatch h
    all_goals assumption

theorem RecordSettings.exists_groups_of_ok {as : List Attribute} {s t : RecordSettings}
    (h : as.foldlM addAttribute s = .ok t) : ∃ gs : List ItemGroup, gs.map ItemGroup.written = as := by
  induction as generalizing s with
  | nil => exact ⟨[], rfl⟩
  | cons a as ih =>
    obtain ⟨u, hu, h⟩ := ok_of_bind h
    obtain ⟨gs, hgs⟩ := ih h
    obtain ⟨g, hg⟩ : ∃ g : ItemGroup, g.written = a := by
      cases a with
      | unrelated => exact ⟨.unrelated, rfl⟩
      | bare => nomatch hu
      | items tokens =>
        rw [addAttribute_items] at hu
        exact exists_group_of_read s tokens u hu
    exact ⟨g :: gs, by rw [List.map_cons, hg, hgs]⟩

/-! ## Declarations -/

/-- Two fields of one name whose annotations are regrouped. -/
structure DeclaredField.Regrouped (f f' : DeclaredField) : Prop where
  name : f.name = f'.name
  attributes : FluentSql.Regrouped f.attributes f'.attributes

/-- Two types whose fields have regrouped annotations. -/
inductive DeclaredShape.Regrouped : DeclaredShape → DeclaredShape → Prop where
  | named {fields fields' : List DeclaredField} (h : List.Forall₂ DeclaredField.Regrouped fields fields') :
      DeclaredShape.Regrouped (.named fields) (.named fields')
  | refl (shape : DeclaredShape) : DeclaredShape.Regrouped shape shape

/-- Two types whose annotations and whose fields' annotations are regrouped. -/
structure Declaration.Regrouped (d d' : Declaration) : Prop where
  attributes : FluentSql.Regrouped d.attributes d'.attributes
  shape : d.shape.Regrouped d'.shape

theorem DeclaredField.push?_of_regrouped {f f' : DeclaredField} (h : f.Regrouped f') (rule : Option RenameRule) :
    f.push? rule = f'.push? rule := by
  have hplain : f.plainName = f'.plainName := by rw [plainName, plainName, h.name]
  rw [push?, push?, RecordSettings.ofAttributes_of_regrouped h.attributes, hplain, h.name]

theorem mapM_push?_of_regrouped {fields fields' : List DeclaredField}
    (h : List.Forall₂ DeclaredField.Regrouped fields fields') (rule : Option RenameRule) :
    fields.mapM (DeclaredField.push? rule) = fields'.mapM (DeclaredField.push? rule) := by
  induction h with
  | nil => rfl
  | cons hfield _ ih => rw [List.mapM_cons, List.mapM_cons, DeclaredField.push?_of_regrouped hfield, ih]

theorem Declaration.pushes_eq_of_regrouped {d d' : Declaration} (h : d.Regrouped d') : d.pushes = d'.pushes := by
  obtain ⟨attributes, shape⟩ := d
  obtain ⟨attributes', shape'⟩ := d'
  obtain ⟨hattributes, hshape⟩ := h
  have hsettings := RecordSettings.ofAttributes_of_regrouped hattributes
  cases hshape with
  | refl => simp only [pushes, hsettings]
  | named hfields => simp only [pushes, hsettings, mapM_push?_of_regrouped hfields]

/-! ### The fields that go into a record -/

/-- A field pushes its own member or nothing. -/
theorem DeclaredField.member_of_push? {rule : Option RenameRule} {f : DeclaredField} {p : FieldPush}
    (h : f.push? rule = .ok (some p)) : p.member = f.name := by
  obtain ⟨settings, -, h⟩ := ok_of_bind h
  split_ifs at h
  · nomatch Except.ok.inj h
  · rw [← Option.some.inj (Except.ok.inj h)]

theorem members_sublist {rule : Option RenameRule} {fields : List DeclaredField} {os : List (Option FieldPush)}
    (h : List.Forall₂ (fun f o => DeclaredField.push? rule f = .ok o) fields os) :
    ((os.filterMap id).map (·.member)).Sublist (fields.map (·.name)) := by
  induction h with
  | nil => exact List.Sublist.slnil
  | @cons f o fields os hfield _ ih =>
    cases o with
    | none => exact ih.cons f.name
    | some p =>
      show (p.member :: (os.filterMap id).map (·.member)).Sublist (f.name :: fields.map (·.name))
      rw [DeclaredField.member_of_push? hfield]
      exact ih.cons_cons f.name

/-- The fields that go into a record stand in the order of their declaration. -/
theorem Declaration.members_pushes {d : Declaration} {fields : List DeclaredField} {ps : List FieldPush}
    (hshape : d.shape = .named fields) (h : d.pushes = .ok ps) : (ps.map (·.member)).Sublist (fields.map (·.name)) := by
  unfold pushes at h
  rw [hshape] at h
  obtain ⟨settings, -, h⟩ := ok_of_bind h
  split_ifs at h
  obtain ⟨os, hos, h⟩ := ok_of_bind h
  rw [← Except.ok.inj h]
  exact members_sublist (ok_of_mapM hos)

/-! ### What a field pushes -/

theorem isSome_getLast?_filterMap {α β : Type} {f : α → Option β} {as : List α} :
    (as.filterMap f).getLast?.isSome = true ↔ ∃ a ∈ as, f a ≠ none := by
  rw [Option.isSome_iff_ne_none, Ne, List.getLast?_eq_none_iff, List.filterMap_eq_nil_iff]
  simp

theorem RecordSettings.renameAll_isSome_summary {settings : List ItemSetting} :
    (summary settings).renameAll.isSome = true ↔ ∃ rule, ItemSetting.renameAll rule ∈ settings := by
  refine isSome_getLast?_filterMap.trans ⟨?_, fun ⟨rule, hrule⟩ => ⟨_, hrule, by simp [ItemSetting.rule?]⟩⟩
  rintro ⟨_ | _ | rule, hmem, hrule⟩
  · exact absurd rfl hrule
  · exact absurd rfl hrule
  · exact ⟨rule, hmem⟩

theorem RecordSettings.rename_isSome_summary {settings : List ItemSetting} :
    (summary settings).rename.isSome = true ↔ ∃ column, ItemSetting.rename column ∈ settings := by
  refine isSome_getLast?_filterMap.trans ⟨?_, fun ⟨column, hcolumn⟩ => ⟨_, hcolumn, by simp [ItemSetting.column?]⟩⟩
  rintro ⟨_ | column | _, hmem, hcolumn⟩
  · exact absurd rfl hcolumn
  · exact ⟨column, hmem⟩
  · exact absurd rfl hcolumn

/-- A field of a name with groups of items. -/
def DeclaredField.grouped (name : String) (gs : List ItemGroup) : DeclaredField :=
  ⟨name, gs.map ItemGroup.written⟩

/-- A field that does not fail has groups of items. -/
theorem DeclaredField.exists_groups {rule : Option RenameRule} {f : DeclaredField} {o : Option FieldPush}
    (h : f.push? rule = .ok o) : ∃ gs, f = grouped f.name gs := by
  obtain ⟨settings, hsettings, -⟩ := ok_of_bind h
  obtain ⟨gs, hgs⟩ := RecordSettings.exists_groups_of_ok hsettings
  exact ⟨gs, by rw [grouped, hgs]⟩

/-- The first item that cannot be read counts. -/
theorem DeclaredField.push?_of_fault (rule : Option RenameRule) (name : String) {gs : List ItemGroup}
    {fault : AnnotationFault} (h : (gs.flatMap ItemGroup.items).mapM AttributeItem.setting = .error fault) :
    (grouped name gs).push? rule = .error fault := by
  rw [push?, grouped, RecordSettings.ofAttributes_groups, h]
  rfl

theorem DeclaredField.push?_of_settings (rule : Option RenameRule) (name : String) {gs : List ItemGroup}
    {settings : List ItemSetting} (h : (gs.flatMap ItemGroup.items).mapM AttributeItem.setting = .ok settings) :
    (grouped name gs).push? rule =
      if (RecordSettings.summary settings).renameAll.isSome then .error .typeItemOnField
      else if settings.contains .skip then .ok none
      else .ok (some { name := (grouped name gs).plainName, member := name
                       column := (settings.filterMap ItemSetting.column?).getLast?.or
                         (rule.map (·.apply (grouped name gs).plainName)) }) := by
  have hread : RecordSettings.ofAttributes (grouped name gs).attributes = .ok (.summary settings) := by
    rw [grouped, RecordSettings.ofAttributes_groups, h]
    rfl
  unfold push?
  rw [hread]
  rfl

/-! ### What a type pushes -/

/-- A field whose items can all be read, with what they say. -/
structure ReadableField where
  name : String
  groups : List ItemGroup
  settings : List ItemSetting
  readable : (groups.flatMap ItemGroup.items).mapM AttributeItem.setting = .ok settings

namespace ReadableField

/-- The field as it is declared. -/
def declared (f : ReadableField) : DeclaredField :=
  .grouped f.name f.groups

/-- How the field goes into the record, if it does: under its last column, or under the one that a rule gives. -/
def push (rule : Option RenameRule) (f : ReadableField) : FieldPush where
  name := f.declared.plainName
  member := f.name
  column := (f.settings.filterMap ItemSetting.column?).getLast?.or (rule.map (·.apply f.declared.plainName))

theorem push?_declared (rule : Option RenameRule) (f : ReadableField) :
    f.declared.push? rule =
      if (RecordSettings.summary f.settings).renameAll.isSome then .error .typeItemOnField
      else .ok (if f.settings.contains .skip then none else some (f.push rule)) := by
  rw [declared, DeclaredField.push?_of_settings rule f.name f.readable]
  split_ifs <;> rfl

/-- One rule for the whole type on a field, whether it is skipped or not, and the type fails. -/
theorem mapM_push?_refused (rule : Option RenameRule) {fields : List ReadableField}
    (h : ∃ f ∈ fields, ∃ r, ItemSetting.renameAll r ∈ f.settings) :
    (fields.map declared).mapM (DeclaredField.push? rule) = .error .typeItemOnField := by
  induction fields with
  | nil => simp at h
  | cons f fields ih =>
    rw [List.map_cons, List.mapM_cons, push?_declared]
    by_cases hrule : ∃ r, ItemSetting.renameAll r ∈ f.settings
    · rw [if_pos (RecordSettings.renameAll_isSome_summary.2 hrule)]
      rfl
    · have hlater : ∃ g ∈ fields, ∃ r, ItemSetting.renameAll r ∈ g.settings := by
        simpa [hrule] using h
      rw [if_neg (mt RecordSettings.renameAll_isSome_summary.1 hrule), ih hlater]
      rfl

theorem mapM_push?_allowed (rule : Option RenameRule) {fields : List ReadableField}
    (h : ∀ f ∈ fields, ∀ r, ItemSetting.renameAll r ∉ f.settings) :
    (fields.map declared).mapM (DeclaredField.push? rule) =
      .ok (fields.map fun f => if f.settings.contains .skip then none else some (f.push rule)) := by
  induction fields with
  | nil => rfl
  | cons f fields ih =>
    obtain ⟨hf, hfields⟩ := List.forall_mem_cons.1 h
    have hnone := mt RecordSettings.renameAll_isSome_summary.1 (not_exists.2 hf)
    rw [List.map_cons, List.mapM_cons, push?_declared, if_neg hnone, ih hfields]
    rfl

end ReadableField

/-- The first field that fails counts. -/
theorem mapM_push?_failing {rule : Option RenameRule} {before behind : List DeclaredField} {f : DeclaredField}
    {fault : AnnotationFault} (hbefore : ∀ g ∈ before, ∃ o, g.push? rule = .ok o) (hf : f.push? rule = .error fault) :
    (before ++ f :: behind).mapM (DeclaredField.push? rule) = .error fault := by
  induction before with
  | nil =>
    rw [List.nil_append, List.mapM_cons, hf]
    rfl
  | cons g before ih =>
    obtain ⟨⟨o, hg⟩, hrest⟩ := List.forall_mem_cons.1 hbefore
    rw [List.cons_append, List.mapM_cons, hg, ih hrest]
    rfl

/-- A type with groups of items and named fields. -/
def Declaration.grouped (gs : List ItemGroup) (fields : List DeclaredField) : Declaration where
  attributes := gs.map ItemGroup.written
  shape := .named fields

theorem Declaration.pushes_of_fault {gs : List ItemGroup} {fault : AnnotationFault}
    (h : (gs.flatMap ItemGroup.items).mapM AttributeItem.setting = .error fault) (fields : List DeclaredField) :
    (grouped gs fields).pushes = .error fault := by
  have hread : RecordSettings.ofAttributes (gs.map ItemGroup.written) = .error fault := by
    rw [RecordSettings.ofAttributes_groups, h]
    rfl
  unfold pushes grouped
  dsimp only
  rw [hread]
  rfl

theorem Declaration.pushes_of_settings {gs : List ItemGroup} {settings : List ItemSetting}
    (h : (gs.flatMap ItemGroup.items).mapM AttributeItem.setting = .ok settings) (fields : List DeclaredField) :
    (grouped gs fields).pushes =
      if (RecordSettings.summary settings).skip ∨ (RecordSettings.summary settings).rename.isSome then
        .error .fieldItemOnType
      else fields.mapM (DeclaredField.push? (settings.filterMap ItemSetting.rule?).getLast?) >>= fun os =>
        .ok (os.filterMap id) := by
  have hread : RecordSettings.ofAttributes (gs.map ItemGroup.written) = .ok (.summary settings) := by
    rw [RecordSettings.ofAttributes_groups, h]
    rfl
  unfold pushes grouped
  dsimp only
  rw [hread]
  rfl

/-- What a type with groups of items comes to, whatever its fields. -/
structure Declaration.FollowsItems (gs : List ItemGroup) : Prop where
  /-- The first unreadable item of the type counts. -/
  unreadable : ∀ fault, (gs.flatMap ItemGroup.items).mapM AttributeItem.setting = .error fault →
    ∀ fields, (grouped gs fields).pushes = .error fault
  /-- An item for fields is refused. -/
  misplaced : ∀ settings, (gs.flatMap ItemGroup.items).mapM AttributeItem.setting = .ok settings →
    (ItemSetting.skip ∈ settings ∨ ∃ column, ItemSetting.rename column ∈ settings) →
    ∀ fields, (grouped gs fields).pushes = .error .fieldItemOnType
  /-- Then the first field that fails counts. -/
  failing : ∀ settings, (gs.flatMap ItemGroup.items).mapM AttributeItem.setting = .ok settings →
    ItemSetting.skip ∉ settings → (∀ column, ItemSetting.rename column ∉ settings) →
    ∀ before f behind fault,
      (∀ g ∈ before, ∃ o, DeclaredField.push? (settings.filterMap ItemSetting.rule?).getLast? g = .ok o) →
      f.push? (settings.filterMap ItemSetting.rule?).getLast? = .error fault →
      (grouped gs (before ++ f :: behind)).pushes = .error fault
  /-- Where all fields can be read, the last rule of the type is that of the fields. A rule on a field is refused, also
  on a skipped one; skipped fields are left out. -/
  readable : ∀ settings, (gs.flatMap ItemGroup.items).mapM AttributeItem.setting = .ok settings →
    ItemSetting.skip ∉ settings → (∀ column, ItemSetting.rename column ∉ settings) →
    ∀ fields : List ReadableField,
      ((∃ f ∈ fields, ∃ r, ItemSetting.renameAll r ∈ f.settings) →
        (grouped gs (fields.map ReadableField.declared)).pushes = .error .typeItemOnField) ∧
      ((∀ f ∈ fields, ∀ r, ItemSetting.renameAll r ∉ f.settings) →
        (grouped gs (fields.map ReadableField.declared)).pushes =
          .ok ((fields.filter fun f => decide (ItemSetting.skip ∉ f.settings)).map
            (ReadableField.push (settings.filterMap ItemSetting.rule?).getLast?)))

theorem Declaration.followsItems (gs : List ItemGroup) : FollowsItems gs := by
  -- where the type has no item for fields, its pushes are those of its fields
  have hfields {settings : List ItemSetting}
      (hitems : (gs.flatMap ItemGroup.items).mapM AttributeItem.setting = .ok settings)
      (hskip : ItemSetting.skip ∉ settings) (hrename : ∀ column, ItemSetting.rename column ∉ settings)
      (fields : List DeclaredField) : (grouped gs fields).pushes =
        fields.mapM (DeclaredField.push? (settings.filterMap ItemSetting.rule?).getLast?) >>= fun os =>
          .ok (os.filterMap id) := by
    rw [pushes_of_settings hitems, if_neg]
    rintro (h | h)
    · exact hskip (List.contains_iff_mem.1 h)
    · obtain ⟨column, hcolumn⟩ := RecordSettings.rename_isSome_summary.1 h
      exact hrename column hcolumn
  refine ⟨fun fault => pushes_of_fault, ?_, ?_, ?_⟩
  · intro settings hitems hmisplaced fields
    rw [pushes_of_settings hitems, if_pos]
    exact hmisplaced.imp List.contains_iff_mem.2 RecordSettings.rename_isSome_summary.2
  · intro settings hitems hskip hrename before f behind fault hbefore hf
    rw [hfields hitems hskip hrename, mapM_push?_failing hbefore hf]
    rfl
  · intro settings hitems hskip hrename fields
    refine ⟨fun hrule => ?_, fun hrule => ?_⟩
    · rw [hfields hitems hskip hrename, ReadableField.mapM_push?_refused _ hrule]
      rfl
    · rw [hfields hitems hskip hrename, ReadableField.mapM_push?_allowed _ hrule]
      refine congrArg Except.ok ?_
      rw [List.filterMap_map, ← List.filterMap_eq_map, List.filterMap_filter]
      refine List.filterMap_congr fun f _ => ?_
      by_cases hskipped : ItemSetting.skip ∈ f.settings <;> simp [hskipped]

/-- Declarations whose annotations are regrouped, those of the type and those of its fields, have the same pushes or
fail in the same way; pushes stand in the order in which the fields are declared. A field that does not fail has groups
of items, and what it pushes is what the items say, however they are grouped: the first unreadable item counts; where
all can be read, a rule for the whole type is refused, also on a skipped field, one `skip` is enough to leave the field
out, and the last column is the one that is written to. So it is for a whole type: its own items count before those of
its fields, an item for fields is refused on it, its last rule is that of its fields, and the first field that fails
counts. -/
theorem Declaration.pushes_of_regrouped {d d' : Declaration} (h : d.Regrouped d') :
    d.pushes = d'.pushes ∧
      (∀ fields ps, d.shape = .named fields → d.pushes = .ok ps →
        (ps.map (·.member)).Sublist (fields.map (·.name))) ∧
      (∀ (rule : Option RenameRule) (f : DeclaredField) (o : Option FieldPush), f.push? rule = .ok o →
        ∃ gs, f = .grouped f.name gs) ∧
      (∀ (rule : Option RenameRule) (name : String) (gs : List ItemGroup),
        let items := gs.flatMap ItemGroup.items
        let f := DeclaredField.grouped name gs
        (∀ fault, items.mapM AttributeItem.setting = .error fault → f.push? rule = .error fault) ∧
          ∀ settings, items.mapM AttributeItem.setting = .ok settings →
            ((∃ r, ItemSetting.renameAll r ∈ settings) → f.push? rule = .error .typeItemOnField) ∧
              ((∀ r, ItemSetting.renameAll r ∉ settings) → ItemSetting.skip ∈ settings → f.push? rule = .ok none) ∧
              ((∀ r, ItemSetting.renameAll r ∉ settings) → ItemSetting.skip ∉ settings →
                f.push? rule = .ok (some
                  { name := f.plainName, member := name
                    column := (settings.filterMap ItemSetting.column?).getLast?.or
                      (rule.map (·.apply f.plainName)) }))) ∧
      ∀ gs, FollowsItems gs := by
  refine ⟨pushes_eq_of_regrouped h, fun fields ps => members_pushes, fun rule f o => DeclaredField.exists_groups,
    fun rule name gs => ⟨?_, ?_⟩, followsItems⟩
  · exact fun fault => DeclaredField.push?_of_fault rule name
  · intro settings hsettings
    have hpush := DeclaredField.push?_of_settings rule name hsettings
    refine ⟨fun hrule => ?_, fun hrule hskip => ?_, fun hrule hskip => ?_⟩
    · rw [hpush, if_pos (RecordSettings.renameAll_isSome_summary.2 hrule)]
    · have hnone := mt RecordSettings.renameAll_isSome_summary.1 (not_exists.2 hrule)
      rw [hpush, if_neg hnone, if_pos (by simpa using hskip)]
    · have hnone := mt RecordSettings.renameAll_isSome_summary.1 (not_exists.2 hrule)
      rw [hpush, if_neg hnone, if_neg (by simpa using hskip)]

/-- A type whose items are spread over two annotations, and whose field has a trailing comma and an annotation for
something else between its items. -/
def spreadDeclaration : Declaration where
  attributes := [ItemGroup.list [], ItemGroup.list [⟨"rename_all", some (.text "snake_case")⟩]].map ItemGroup.written
  shape := .named [.grouped "r#type" [.trailing ⟨"rename", some (.text "a")⟩ [], .unrelated,
    .list [⟨"rename", some (.text "b")⟩]], .grouped "UserName" []]

/-- The same type with one list for each. -/
def gatheredDeclaration : Declaration where
  attributes := [ItemGroup.list [⟨"rename_all", some (.text "snake_case")⟩]].map ItemGroup.written
  shape := .named [.grouped "r#type" [.list [⟨"rename", some (.text "a")⟩, ⟨"rename", some (.text "b")⟩]],
    .grouped "UserName" []]

theorem Declaration.pushes_of_regrouped_spread :
    spreadDeclaration.Regrouped gatheredDeclaration ∧ spreadDeclaration.pushes = gatheredDeclaration.pushes ∧
      gatheredDeclaration.pushes =
        .ok [⟨"type", "r#type", some "b"⟩, ⟨"UserName", "UserName", some "user_name"⟩] := by
  have h : spreadDeclaration.Regrouped gatheredDeclaration :=
    ⟨.of_items rfl, .named (.cons ⟨rfl, .of_items rfl⟩ (.cons ⟨rfl, .refl _⟩ .nil))⟩
  refine ⟨h, (pushes_of_regrouped h).1, ?_⟩
  cbv

end FluentSql

import FluentSql.Proofs.Drafts
import FluentSql.Proofs.Framing
import FluentSql.Proofs.Keywords
import FluentSql.Proofs.WellFormed

/-!
# FluentSql.Proofs.OptionOrder — options are an ordered set

* `Call.option?`: the option that a call sets.
* `normalForm`, `normalForms`: words in upper case with single spaces between them; those of options that are not blank.
* `OptionSet`: the options stored after some were given; one call keeps this (`OptionSet.insert`), and so does a run
  (`optionSet_run`).
* `Statement.build_supported`, `Statement.build_unsupported`: known options are written around the core of a statement;
  the first unknown one fails before anything else.
* `options_ordered`: what a run stores, and what becomes of it.
-/

namespace FluentSql

/-! ## Options that are stored -/

/-- The option that a call sets. -/
def Call.option? : Call → Option String
  | .clause (.setOption option) => some option
  | _ => none

/-- The normal form of an option: its words in upper case, with single spaces between them. -/
def normalForm (option : String) : String :=
  " ".intercalate ((Text.words option).map Text.upperAscii)

/-- The normal forms of options, without those that are blank. -/
def normalForms (given : List String) : List String :=
  (given.map normalForm).filter (· ≠ "")

theorem keywordForm_eq_normalForm (option : String) : Text.keywordForm option = normalForm option :=
  Text.keywordForm_eq option

theorem normalForm_normalForm (option : String) : normalForm (normalForm option) = normalForm option := by
  rw [← keywordForm_eq_normalForm, ← keywordForm_eq_normalForm, Text.keywordForm_keywordForm]

/-- Options are stored in their normal form, unless it is blank or already there. -/
theorem Statement.insertOption_eq (o : String) (stored : List String) :
    insertOption o stored =
      if normalForm o = "" ∨ normalForm o ∈ stored then stored else stored ++ [normalForm o] := by
  unfold insertOption
  rw [keywordForm_eq_normalForm]
  simp

/-- The options that are stored after some were given. -/
structure OptionSet (given stored : List String) : Prop where
  nodup : stored.Nodup
  eq : stored = (normalForms given).eraseDups

namespace OptionSet

variable {given stored : List String}

theorem empty : OptionSet [] [] :=
  ⟨List.nodup_nil, rfl⟩

theorem mem_iff (h : OptionSet given stored) {o : String} : o ∈ stored ↔ o ∈ normalForms given := by
  rw [h.eq, List.mem_eraseDups]

/-- Stored options are not blank and in normal form. -/
theorem normal (h : OptionSet given stored) {o : String} (ho : o ∈ stored) : o ≠ "" ∧ normalForm o = o := by
  obtain ⟨hmem, hne⟩ := List.mem_filter.1 (h.mem_iff.1 ho)
  obtain ⟨option, -, rfl⟩ := List.mem_map.1 hmem
  exact ⟨of_decide_eq_true hne, normalForm_normalForm option⟩

/-- An option with the words of one that was given, in any letter case, changes nothing. -/
theorem insert_of_given (h : OptionSet given stored) {o o' : String} (ho : o ∈ given)
    (hwords : (Text.words o').map Text.upperAscii = (Text.words o).map Text.upperAscii) :
    Statement.insertOption o' stored = stored := by
  have hform : normalForm o' = normalForm o := congrArg (" ".intercalate ·) hwords
  rw [Statement.insertOption_eq, hform]
  refine if_pos ?_
  by_cases hblank : normalForm o = ""
  · exact .inl hblank
  · exact .inr (h.mem_iff.2 (List.mem_filter.2 ⟨List.mem_map_of_mem ho, decide_eq_true hblank⟩))

/-- One more option is stored at the end, unless it is blank or already there. -/
theorem insert (h : OptionSet given stored) (o : String) :
    OptionSet (given ++ [o]) (Statement.insertOption o stored) := by
  have hforms : normalForms (given ++ [o]) = normalForms given ++ normalForms [o] := by
    simp [normalForms]
  have hadded : (normalForms (given ++ [o])).eraseDups =
      stored ++ ((normalForms [o]).removeAll (normalForms given)).eraseDups := by
    rw [hforms, List.eraseDups_append, ← h.eq]
  rw [Statement.insertOption_eq]
  by_cases hblank : normalForm o = ""
  · rw [if_pos (.inl hblank)]
    refine ⟨h.nodup, ?_⟩
    rw [hadded]
    simp [normalForms, hblank, List.removeAll]
  · have hone : normalForms [o] = [normalForm o] := by simp [normalForms, hblank]
    by_cases hmem : normalForm o ∈ stored
    · rw [if_pos (.inr hmem)]
      refine ⟨h.nodup, ?_⟩
      rw [hadded, hone]
      simp [List.removeAll, h.mem_iff.1 hmem]
    · rw [if_neg (not_or.2 ⟨hblank, hmem⟩)]
      refine ⟨List.nodup_append.2 ⟨h.nodup, List.nodup_singleton _, ?_⟩, ?_⟩
      · intro a ha b hb hab
        exact hmem (List.mem_singleton.1 hb ▸ hab ▸ ha)
      · rw [hadded, hone]
        simp [List.removeAll, mt h.mem_iff.2 hmem, List.eraseDups_cons]

end OptionSet

/-- An option that is already there changes nothing at all. -/
theorem Statement.setOption_eq_self {s : Statement} {o : String}
    (h : insertOption o s.clauses.options = s.clauses.options) : s.setOption o = s := by
  rw [setOption, change, h]
  obtain ⟨c⟩ := s
  rfl

/-- Only calls that set an option change the options. -/
theorem Call.options_onStatement (s : Statement) (call : Call) :
    (call.onStatement s).clauses.options = call.option?.elim id Statement.insertOption s.clauses.options := by
  cases call with
  | operation call => cases call <;> rfl
  | clause call =>
    cases call with
    | setOption option =>
      generalize hoptions : Statement.insertOption option = insert
      simp only [Call.onStatement, ClauseCall.onStatement, Statement.setOption, Call.option?, Option.elim_some,
        hoptions]
      rfl
    | _ => rfl

/-- The options of a statement that was made by calls. -/
theorem optionSet_run (start : Start) (calls : List Call) :
    OptionSet (calls.filterMap Call.option?) (start.statement.run calls).clauses.options := by
  induction calls using List.reverseRecOn with
  | nil => cases start <;> exact OptionSet.empty
  | append_singleton calls call ih =>
    have hrun : start.statement.run (calls ++ [call]) = call.onStatement (start.statement.run calls) :=
      List.foldl_append
    rw [hrun, Call.options_onStatement, List.filterMap_append]
    cases hoption : call.option? with
    | none => simpa [hoption] using ih
    | some option => simpa [hoption] using ih.insert option

/-! ## Options that are known -/

theorem Options.ofList_of_supported {options : List String} (h : ∀ o ∈ options, SupportedOption o) :
    ofList options = .ok ⟨options.filter leadingOptions.contains, options.filter trailingOptions.contains⟩ := by
  obtain ⟨sorted, hsorted⟩ := (Clauses.optionsOfList_succeeds options).ok_iff.2 h
  rw [hsorted, Options.eq_of_ofList hsorted]

/-- The first option that is not known fails. -/
theorem Options.ofList_of_unsupported {before behind : List String} {o : String}
    (hbefore : ∀ p ∈ before, SupportedOption p) (ho : ¬ SupportedOption o) :
    ofList (before ++ o :: behind) = .error (.unknownOption o) := by
  have hskipped : before.find? (fun o => !(leadingOptions.contains o || trailingOptions.contains o)) = none :=
    List.find?_eq_none.2 fun p hp => by
      simpa [SupportedOption, or_iff_not_imp_left] using hbefore p hp
  have hfound : (!(leadingOptions.contains o || trailingOptions.contains o)) = true := by
    simpa [SupportedOption] using ho
  have hfirst : (before ++ o :: behind).find? (fun o => !(leadingOptions.contains o || trailingOptions.contains o)) =
      some o := by
    rw [List.find?_append, hskipped, Option.none_or]
    exact List.find?_cons_of_pos hfound
  unfold ofList
  rw [hfirst]

/-- Options that are not all known have a first one that is not. -/
theorem exists_first_unsupported {options : List String} (h : ¬ ∀ o ∈ options, SupportedOption o) :
    ∃ before o behind, options = before ++ o :: behind ∧ (∀ p ∈ before, SupportedOption p) ∧ ¬ SupportedOption o := by
  induction options with
  | nil => exact absurd (List.forall_mem_nil _) h
  | cons o options ih =>
    by_cases ho : SupportedOption o
    · obtain ⟨before, p, behind, rfl, hbefore, hp⟩ := ih fun hrest => h (List.forall_mem_cons.2 ⟨ho, hrest⟩)
      exact ⟨o :: before, p, behind, rfl, List.forall_mem_cons.2 ⟨ho, hbefore⟩, hp⟩
    · exact ⟨[], o, options, rfl, List.forall_mem_nil _, ho⟩

/-- Known options stand in one of the two places. -/
theorem perm_of_supported {options : List String} (h : ∀ o ∈ options, SupportedOption o) :
    (options.filter leadingOptions.contains ++ options.filter trailingOptions.contains).Perm options := by
  have hapart : ∀ o ∈ trailingOptions, o ∉ leadingOptions := by decide
  have htrailing : options.filter trailingOptions.contains = options.filter (!leadingOptions.contains ·) := by
    refine List.filter_congr fun o ho => ?_
    rw [Bool.eq_iff_iff, Bool.not_eq_true', ← Bool.not_eq_true, List.contains_iff_mem, List.contains_iff_mem]
    exact ⟨hapart o, (h o ho).resolve_left⟩
  rw [htrailing]
  exact List.filter_append_perm leadingOptions.contains options

namespace Statement

variable {s : Statement} (hunset : s.kind ≠ .unset) (hraw : s.kind ≠ .raw)

/-- A statement whose options are forgotten. -/
def withoutOptions (s : Statement) : Statement :=
  s.change fun c => { c with options := [] }

include hunset hraw

/-- Known options are written behind the verb and at the end; what stands between them does not depend on them. -/
theorem build_supported (h : ∀ o ∈ s.clauses.options, SupportedOption o) : ∃ core : Except SqlError BuiltQuery,
    s.withoutOptions.build = core.map (BuiltQuery.within s.kind.opening s.kind.closing) ∧
    s.build = core.map (BuiltQuery.within
      (s.kind.opening ++ String.join ((s.clauses.options.filter leadingOptions.contains).map (· ++ " ")))
      (String.join ((s.clauses.options.filter trailingOptions.contains).map (" " ++ ·)) ++ s.kind.closing)) := by
  refine ⟨s.core.map (BuiltQuery.within "" (String.join (s.clauses.limitClause.map (" " ++ ·)))), ?_, ?_⟩
  · have hcore : s.withoutOptions.core = s.core := s.core_change [] s.clauses.limit
    have hkind : s.withoutOptions.kind = s.kind := rfl
    have hnone : s.withoutOptions.clauses.options = [] := rfl
    have hlimit : s.withoutOptions.clauses.limitClause = s.clauses.limitClause := rfl
    rw [build_framed (s := s.withoutOptions) hunset hraw, hcore, hkind, hlimit, hnone,
      Options.ofList_of_supported (List.forall_mem_nil _)]
    show s.core.map _ = (s.core.map _).map _
    cases s.core with
    | error e => rfl
    | ok q => simp [Except.map, Clauses.optionsText]
  · rw [build_framed hunset hraw, Options.ofList_of_supported h]
    show s.core.map _ = (s.core.map _).map _
    cases s.core with
    | error e => rfl
    | ok q => simp [Except.map, Clauses.optionsText, String.append_assoc]

/-- The first option that is not known fails, whatever else is wrong with the statement. -/
theorem build_unsupported {before behind : List String} {o : String}
    (hoptions : s.clauses.options = before ++ o :: behind) (hbefore : ∀ p ∈ before, SupportedOption p)
    (ho : ¬ SupportedOption o) : s.build = .error (.unknownOption o) := by
  rw [build_framed hunset hraw, hoptions, Options.ofList_of_unsupported hbefore ho]
  rfl

/-- A statement is rejected for one of its options exactly when one of them is not known. -/
theorem not_rejected_iff : (¬ ∃ o ∈ s.clauses.options, s.build = .error (.unknownOption o)) ↔
    ∀ o ∈ s.clauses.options, SupportedOption o := by
  constructor
  · intro hkept
    by_contra hbad
    obtain ⟨before, o, behind, hoptions, hbefore, ho⟩ := exists_first_unsupported hbad
    exact hkept ⟨o, by simp [hoptions], build_unsupported hunset hraw hoptions hbefore ho⟩
  · rintro hall ⟨o, ho, hrejected⟩
    exact (s.standalone_succeeds true).not_supported hrejected (hall o ho)

end Statement

/-! ## Runs -/

/-- What a run stores are the distinct normal forms of the options that were set, in the order of the first calls; to
set one of them again, in any letter case and spacing, changes nothing. Known options are written once each, those of
the head behind the verb and those of the end at the end, in the stored order. The first unknown one fails before
anything else. -/
theorem options_ordered (start : Start) (calls : List Call) :
    let s := start.statement.run calls
    let given := calls.filterMap Call.option?
    let options := s.clauses.options
    let leading := options.filter leadingOptions.contains
    let trailing := options.filter trailingOptions.contains
    options.Nodup ∧ (∀ o ∈ options, o ≠ "" ∧ normalForm o = o) ∧ options = (normalForms given).eraseDups ∧
    (∀ o ∈ given, ∀ o', (Text.words o').map Text.upperAscii = (Text.words o).map Text.upperAscii →
      s.setOption o' = s) ∧
    (s.kind ≠ .unset → s.kind ≠ .raw →
      ((¬ ∃ o ∈ options, s.build = .error (.unknownOption o)) ↔ ∀ o ∈ options, SupportedOption o) ∧
      ((∀ o ∈ options, SupportedOption o) → (leading ++ trailing).Perm options ∧
        ∃ core : Except SqlError BuiltQuery,
          s.withoutOptions.build = core.map (BuiltQuery.within s.kind.opening s.kind.closing) ∧
          s.build = core.map (BuiltQuery.within (s.kind.opening ++ String.join (leading.map (· ++ " ")))
            (String.join (trailing.map (" " ++ ·)) ++ s.kind.closing))) ∧
      ∀ before o behind, options = before ++ o :: behind → (∀ p ∈ before, SupportedOption p) →
        ¬ SupportedOption o → s.build = .error (.unknownOption o)) := by
  intro s given options leading trailing
  have hset : OptionSet given options := optionSet_run start calls
  refine ⟨hset.nodup, fun o => hset.normal, hset.eq, fun o ho o' hwords => ?_, fun hunset hraw => ?_⟩
  · exact Statement.setOption_eq_self (hset.insert_of_given ho hwords)
  · exact ⟨Statement.not_rejected_iff hunset hraw,
      fun hall => ⟨perm_of_supported hall, Statement.build_supported hunset hraw hall⟩,
      fun before o behind => Statement.build_unsupported hunset hraw⟩

/-- Options in odd spacing and letter case, one of them set again by its own call. -/
theorem options_ordered_select :
    let s := (Start.onTable "T").statement.run
      [.operation .select, .clause (.setOption "  sql_no_cache"), .clause (.setOption "for   update"),
        .clause (.setOption "DISTINCT"), .clause (.setOption "FOR UPDATE")]
    s.clauses.options = ["SQL_NO_CACHE", "FOR UPDATE", "DISTINCT"] ∧ ∃ core : Except SqlError BuiltQuery,
      s.withoutOptions.build = core.map (BuiltQuery.within "SELECT " "") ∧
      s.build = core.map (BuiltQuery.within "SELECT SQL_NO_CACHE DISTINCT " " FOR UPDATE") := by
  obtain ⟨-, -, hstored, -, hbuild⟩ := options_ordered (.onTable "T")
    [.operation .select, .clause (.setOption "  sql_no_cache"), .clause (.setOption "for   update"),
      .clause (.setOption "DISTINCT"), .clause (.setOption "FOR UPDATE")]
  have hoptions := hstored.trans (show _ = ["SQL_NO_CACHE", "FOR UPDATE", "DISTINCT"] by decide +kernel)
  obtain ⟨-, hknown, -⟩ := hbuild (by decide) (by decide)
  rw [hoptions] at hknown
  exact ⟨hoptions, (hknown (by decide)).2⟩

end FluentSql

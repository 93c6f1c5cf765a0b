import FluentSql.Proofs.ColumnOrder
import Mathlib

/-!
# FluentSql.Proofs.InsertionOrder — a record is a map in the order in which its names came first

* `Record.names`, `Record.lastNamed`: the names of fields, and the last field under a name.
* `Record.Tracks`: a record has each name that was given to it, where it came first, with the last field under it.
* `Record.Tracks.put`: one more field keeps this; `Record.Tracks.run`: so does any sequence of calls.
* `Json.ascending_sortMembers`, `Record.lastNamed_sortMembers`: the pairs that a map gives.
* `Record.Origin`: what a record can be made from.
* `Record.insertion_ordered`: whatever a record is made from and whichever calls follow, its names are different, stand
  in the order in which they came first, and have the last field given under them.
-/

namespace FluentSql

variable {α : Type}

namespace Record

/-! ## Names and last fields -/

/-- The names of fields, in their order. -/
def names (fs : List (Field α)) : List String :=
  fs.map (·.name)

/-- The last field under a name. -/
def lastNamed (name : String) (fs : List (Field α)) : Option (Field α) :=
  fs.reverse.find? (·.name == name)

theorem lastNamed_append_singleton (name : String) (fs : List (Field α)) (f : Field α) :
    lastNamed name (fs ++ [f]) = if f.name = name then some f else lastNamed name fs := by
  rw [lastNamed, List.reverse_append, List.reverse_singleton, List.singleton_append, List.find?_cons]
  by_cases h : f.name = name
  · rw [if_pos h, beq_iff_eq.2 h]
  · rw [if_neg h, beq_eq_false_iff_ne.2 h]
    rfl

theorem lastNamed_eq_none_iff {name : String} {fs : List (Field α)} :
    lastNamed name fs = none ↔ name ∉ names fs := by
  simp [lastNamed, names]

/-! ## One more field -/

theorem names_putInto (f : Field α) (fs : List (Field α)) :
    names (putInto f fs) = if f.name ∈ names fs then names fs else names fs ++ [f.name] := by
  induction fs with
  | nil => rfl
  | cons g gs ih =>
    have hnames (h : Field α) (hs : List (Field α)) : names (h :: hs) = h.name :: names hs := rfl
    rw [putInto]
    by_cases hg : g.name = f.name
    · rw [if_pos hg, hnames, hnames, if_pos (by simp [hg]), hg]
    · have hmem : f.name ∈ names (g :: gs) ↔ f.name ∈ names gs := by
        simp [hnames, Ne.symm hg]
      rw [if_neg hg, hnames, ih]
      simp only [hmem]
      split_ifs <;> rfl

/-- A field is found under its name; what is found under other names does not change. -/
theorem find?_putInto (name : String) (f : Field α) (fs : List (Field α)) :
    (putInto f fs).find? (·.name == name) = if f.name = name then some f else fs.find? (·.name == name) := by
  induction fs with
  | nil => simp [putInto, List.find?_singleton]
  | cons g gs ih =>
    rw [putInto]
    by_cases hg : g.name = f.name
    · rw [if_pos hg, List.find?_cons, List.find?_cons, hg]
      by_cases hf : f.name = name
      · rw [if_pos hf, beq_iff_eq.2 hf]
      · rw [if_neg hf, beq_eq_false_iff_ne.2 hf]
    · rw [if_neg hg, List.find?_cons, List.find?_cons, ih]
      by_cases hname : g.name = name
      · have hf : ¬f.name = name := fun hf => hg (hname.trans hf.symm)
        rw [if_neg hf, if_neg hf, beq_iff_eq.2 hname]
      · rw [beq_eq_false_iff_ne.2 hname]

/-! ## What is given to a record -/

/-- A record has each name that was given to it, where it came first, with the last field under it. -/
structure Tracks (given : List (Field α)) (r : Record α) : Prop where
  names_eq : names r.fields = (names given).eraseDups
  find? (name : String) : r.fields.find? (·.name == name) = lastNamed name given
  nodup : (names r.fields).Nodup

namespace Tracks

variable {given : List (Field α)} {r : Record α}

theorem empty : Tracks [] ({} : Record α) :=
  ⟨rfl, fun _ => rfl, List.nodup_nil⟩

theorem mem_names (h : Tracks given r) {name : String} : name ∈ names r.fields ↔ name ∈ names given := by
  rw [h.names_eq, List.mem_eraseDups]

/-- One more field. -/
theorem put (h : Tracks given r) (f : Field α) : Tracks (given ++ [f]) (r.put f) := by
  have hfields : (r.put f).fields = putInto f r.fields := rfl
  refine ⟨?_, fun name => ?_, ?_⟩
  · have hgiven : names (given ++ [f]) = names given ++ [f.name] := List.map_append
    rw [hfields, names_putInto, hgiven, List.eraseDups_append, ← h.names_eq]
    simp only [h.mem_names]
    by_cases hf : f.name ∈ names given
    · rw [if_pos hf]
      simp [List.removeAll, hf]
    · rw [if_neg hf]
      simp [List.removeAll, hf, List.eraseDups_cons]
  · rw [hfields, find?_putInto, lastNamed_append_singleton, h.find?]
  · rw [hfields, names_putInto]
    split_ifs with hf
    · exact h.nodup
    · exact List.nodup_append.2 ⟨h.nodup, List.nodup_singleton _, by
        intro a ha b hb
        rw [List.mem_singleton.1 hb]
        exact fun hab => hf (hab ▸ ha)⟩

/-- The last field under its name. -/
theorem last (h : Tracks given r) {f : Field α} (hf : f ∈ r.fields) : lastNamed f.name given = some f := by
  obtain ⟨g, hg⟩ : ∃ g, r.fields.find? (·.name == f.name) = some g :=
    Option.isSome_iff_exists.1 (List.find?_isSome.2 ⟨f, hf, beq_self_eq_true f.name⟩)
  have hname : g.name = f.name := beq_iff_eq.1 (List.find?_some (p := fun g : Field α => g.name == f.name) hg)
  rw [← h.find?, hg, List.inj_on_of_nodup_map h.nodup (List.mem_of_find?_eq_some hg) hf hname]

theorem size_eq (h : Tracks given r) : r.size = (names given).toFinset.card := by
  have hfinset : (names given).toFinset = (names r.fields).toFinset := by
    ext name
    rw [List.mem_toFinset, List.mem_toFinset, h.mem_names]
  rw [hfinset, List.toFinset_card_of_nodup h.nodup, names, List.length_map, size]

theorem get?_eq (h : Tracks given r) (name : String) : r.get? name = (lastNamed name given).map (·.value) := by
  rw [get?, h.find?]

end Tracks

/-! ## Calls -/

/-- The calls that give a field to a record. -/
inductive FieldCall (α : Type) where
  /-- A plain field of a name and a value. -/
  | set (name : String) (value : α)
  /-- A field with its column and its mark, by the call that goes on with the record. -/
  | field (f : Field α)
  /-- A field with its column and its mark, by the call that changes the record. -/
  | push (f : Field α)

namespace FieldCall

/-- The field that a call gives. -/
def given : FieldCall α → Field α
  | set name value => { name, value }
  | field f => f
  | push f => f

/-- What a call makes of a record. -/
def onRecord (r : Record α) : FieldCall α → Record α
  | set name value => r.set name value
  | field f => r.put f
  | push f => r.put f

theorem onRecord_eq (r : Record α) (call : FieldCall α) : call.onRecord r = r.put call.given := by
  cases call <;> rfl

end FieldCall

/-- Any sequence of calls. -/
theorem Tracks.run {given : List (Field α)} {r : Record α} (h : Tracks given r) (calls : List (FieldCall α)) :
    Tracks (given ++ calls.map FieldCall.given) (calls.foldl FieldCall.onRecord r) := by
  induction calls generalizing given r with
  | nil => simpa using h
  | cons call calls ih =>
    have hnext := ih (h.put call.given)
    rw [List.append_assoc] at hnext
    rwa [List.foldl_cons, call.onRecord_eq]

/-- Pairs are set one after the other. -/
theorem tracks_ofPairs (ps : List (String × α)) : Tracks (ps.map fieldOfPair) (ofPairs ps) := by
  have hrun := Tracks.empty.run (ps.map fun p => FieldCall.set p.1 p.2)
  rw [List.map_map, List.foldl_map] at hrun
  exact hrun

end Record

/-! ## Maps -/

namespace Json

/-- The names of members ascend, so no name stands twice. -/
def Ascending (ms : List (String × α)) : Prop :=
  (ms.map Prod.fst).Pairwise (· < ·)

theorem mem_names_insertMember {name other : String} {a : α} {ms : List (String × α)}
    (h : other ∈ (insertMember name a ms).map Prod.fst) : other = name ∨ other ∈ ms.map Prod.fst := by
  induction ms with
  | nil => simpa [insertMember] using h
  | cons m ms ih =>
    rw [insertMember] at h
    split_ifs at h with hlt heq
    · simpa using h
    · rw [List.map_cons, List.mem_cons] at h
      exact h.imp_right (List.mem_cons_of_mem _)
    · rw [List.map_cons, List.mem_cons] at h
      rw [List.map_cons, List.mem_cons]
      rcases h with h | h
      · exact .inr (.inl h)
      · exact (ih h).imp_right .inr

theorem Ascending.insertMember {ms : List (String × α)} (h : Ascending ms) (name : String) (a : α) :
    Ascending (insertMember name a ms) := by
  unfold Ascending at h ⊢
  induction ms with
  | nil => exact List.pairwise_singleton _ _
  | cons m ms ih =>
    obtain ⟨hm, hms⟩ := List.pairwise_cons.1 h
    rw [Json.insertMember]
    split_ifs with hlt heq
    · refine List.pairwise_cons.2 ⟨fun other hother => ?_, h⟩
      rcases List.mem_cons.1 hother with rfl | hother
      · exact hlt
      · exact String.lt_trans hlt (hm other hother)
    · rw [heq]
      exact h
    · refine List.pairwise_cons.2 ⟨fun other hother => ?_, ih hms⟩
      rcases mem_names_insertMember hother with rfl | hother
      · exact lt_of_le_of_ne (String.not_lt.1 hlt) (Ne.symm heq)
      · exact hm other hother

/-- A member is found under its name; what is found under other names does not change. -/
theorem find?_insertMember (other name : String) (a : α) (ms : List (String × α)) :
    (insertMember name a ms).find? (·.1 == other) =
      if name = other then some (name, a) else ms.find? (·.1 == other) := by
  induction ms with
  | nil => simp [insertMember, List.find?_singleton]
  | cons m ms ih =>
    rw [insertMember]
    -- a member is put before the first larger one, in place of an equal one, or further behind
    by_cases hname : name = other
    · have hfound : (name == other) = true := beq_iff_eq.2 hname
      split_ifs with hlt heq
      · rw [List.find?_cons, hfound]
      · rw [List.find?_cons, hfound]
      · have hm : (m.1 == other) = false := beq_eq_false_iff_ne.2 fun hm => heq (hname.trans hm.symm)
        rw [List.find?_cons, hm, ih, if_pos hname]
    · have hmissed : (name == other) = false := beq_eq_false_iff_ne.2 hname
      rw [if_neg hname]
      split_ifs with hlt heq
      · rw [List.find?_cons, hmissed]
      · rw [List.find?_cons, hmissed, List.find?_cons, ← heq, hmissed]
      · rw [List.find?_cons, List.find?_cons, ih, if_neg hname]

theorem sortMembers_append_singleton (ms : List (String × α)) (m : String × α) :
    sortMembers (ms ++ [m]) = insertMember m.1 m.2 (sortMembers ms) := by
  rw [sortMembers, List.foldl_append]
  rfl

theorem ascending_sortMembers (ms : List (String × α)) : Ascending (sortMembers ms) := by
  induction ms using List.reverseRecOn with
  | nil => exact List.Pairwise.nil
  | append_singleton ms m ih =>
    rw [sortMembers_append_singleton]
    exact ih.insertMember m.1 m.2

/-- The last member under a name. -/
theorem find?_sortMembers (name : String) (ms : List (String × α)) :
    (sortMembers ms).find? (·.1 == name) = ms.reverse.find? (·.1 == name) := by
  induction ms using List.reverseRecOn with
  | nil => rfl
  | append_singleton ms m ih =>
    rw [sortMembers_append_singleton, find?_insertMember, ih, List.reverse_append, List.reverse_singleton,
      List.singleton_append, List.find?_cons]
    by_cases hm : m.1 = name
    · rw [if_pos hm, beq_iff_eq.2 hm]
    · rw [if_neg hm, beq_eq_false_iff_ne.2 hm]

end Json

namespace Record

theorem names_map_fieldOfPair (ps : List (String × α)) : names (ps.map fieldOfPair) = ps.map Prod.fst := by
  rw [names, List.map_map]
  rfl

/-- A map gives the last value under each name. -/
theorem lastNamed_sortMembers (name : String) (ps : List (String × α)) :
    lastNamed name ((Json.sortMembers ps).map fieldOfPair) = lastNamed name (ps.map fieldOfPair) := by
  have hnodup : ((Json.sortMembers ps).map Prod.fst).Nodup :=
    (Json.ascending_sortMembers ps).imp fun hlt => ne_of_lt hlt
  have htracks := (tracks_ofPairs (Json.sortMembers ps)).find? name
  rw [← htracks, fields_ofPairs hnodup, lastNamed, ← List.map_reverse, List.find?_map, List.find?_map]
  exact congrArg (Option.map fieldOfPair) (Json.find?_sortMembers name ps)

/-! ## Whole records -/

/-- What a record is made from. -/
inductive Origin where
  | empty
  /-- Pairs of names and values, which may have a name twice. -/
  | pairs (ps : List (String × Arg))
  /-- A map with the pairs of a list, the last one under each name. -/
  | map (ps : List (String × Arg))
  /-- The members of a document. -/
  | object (members : List (String × Json))

namespace Origin

/-- The record that is made. -/
def record : Origin → Record Arg
  | empty => {}
  | pairs ps => ofPairs ps
  | map ps => ofMap ps
  | object members => ofObject members

/-- The fields that are given to the record, in their order. -/
def given : Origin → List (Field Arg)
  | empty => []
  | pairs ps => ps.map fieldOfPair
  | map ps => (Json.sortMembers ps).map fieldOfPair
  | object members => (members.map fun (name, j) => (name, Arg.value (.ofJson j))).map fieldOfPair

theorem tracks (o : Origin) : Tracks o.given o.record := by
  cases o with
  | empty => exact .empty
  | pairs ps => exact tracks_ofPairs ps
  | map ps => exact tracks_ofPairs (Json.sortMembers ps)
  | object members => exact tracks_ofPairs (members.map fun (name, j) => (name, Arg.value (.ofJson j)))

end Origin

/-- A record, whatever it was made from and whichever calls followed: its names are different and stand in the order in
which they came first, each field is the last one given under its name, as a whole, there are as many as different
names, and the value under a name is the last one given, or none for a name that was not given. A map gives its pairs
in ascending order of their names, the last one under each name. -/
theorem insertion_ordered (o : Origin) (calls : List (FieldCall Arg)) :
    let given := o.given ++ calls.map FieldCall.given
    let r := calls.foldl FieldCall.onRecord o.record
    (names r.fields).Nodup ∧ names r.fields = (names given).eraseDups ∧
      (∀ f ∈ r.fields, lastNamed f.name given = some f) ∧
      r.size = (names given).toFinset.card ∧
      (∀ name, r.get? name = (lastNamed name given).map (·.value)) ∧
      (∀ name, r.get? name = none ↔ name ∉ names given) ∧
      ∀ ps, o = .map ps → (names o.given).Pairwise (· < ·) ∧
        ∀ name, lastNamed name o.given = lastNamed name (ps.map fieldOfPair) := by
  intro given r
  have h : Tracks given r := o.tracks.run calls
  refine ⟨h.nodup, h.names_eq, fun f hf => h.last hf, h.size_eq, h.get?_eq, fun name => ?_, ?_⟩
  · rw [h.get?_eq, Option.map_eq_none_iff, lastNamed_eq_none_iff]
  · rintro ps rfl
    refine ⟨?_, fun name => lastNamed_sortMembers name ps⟩
    show (names ((Json.sortMembers ps).map fieldOfPair)).Pairwise (· < ·)
    rw [names_map_fieldOfPair]
    exact Json.ascending_sortMembers ps

end Record
end FluentSql

import FluentSql.Proofs.Framing
import FluentSql.Statement.Fluent
import Mathlib

/-!
# FluentSql.Proofs.Pagination — pages of rows

* `Statement.toNat_pageOffset`: the number of rows before a page, computed in words, is the true one up to the largest
  word.
* `Statement.pageRows`: the rows of a page.
* `pages_tile`: a page is written as a limit behind all other clauses, and pages tile the rows.
-/

namespace FluentSql
namespace Statement

/-! ## Words that do not wrap around -/

theorem toNat_saturatingSub (a b : UInt64) : (saturatingSub a b).toNat = a.toNat - b.toNat := by
  unfold saturatingSub
  split_ifs with h
  · exact UInt64.toNat_sub_of_le a b h
  · rw [UInt64.le_iff_toNat_le, Nat.not_le] at h
    exact (Nat.sub_eq_zero_of_le h.le).symm

theorem toNat_saturatingMul (a b : UInt64) :
    (saturatingMul a b).toNat = min (a.toNat * b.toNat) (2 ^ 64 - 1) := by
  unfold saturatingMul
  split_ifs with h
  · rw [UInt64.toNat_mul, Nat.mod_eq_of_lt h]
    exact (min_eq_left (Nat.le_sub_one_of_lt h)).symm
  · exact (min_eq_right ((Nat.sub_le _ 1).trans (Nat.not_lt.1 h))).symm

theorem toNat_max (a b : UInt64) : (max a b).toNat = max a.toNat b.toNat := by
  show (if a ≤ b then b else a).toNat = _
  split_ifs with h
  · exact (max_eq_right (UInt64.le_iff_toNat_le.1 h)).symm
  · rw [UInt64.le_iff_toNat_le, Nat.not_le] at h
    exact (max_eq_left h.le).symm

theorem toNat_pageOffset (page perPage : UInt64) :
    (pageOffset page perPage).toNat = min ((max page.toNat 1 - 1) * perPage.toNat) (2 ^ 64 - 1) := by
  rw [pageOffset, toNat_saturatingMul, toNat_saturatingSub, toNat_max]
  rfl

theorem pageOffset_mono {page page' : UInt64} (h : page ≤ page') (perPage : UInt64) :
    pageOffset page perPage ≤ pageOffset page' perPage := by
  rw [UInt64.le_iff_toNat_le] at h ⊢
  rw [toNat_pageOffset, toNat_pageOffset]
  gcongr

/-! ## Rows -/

/-- The rows of a page, counted from 0. -/
def pageRows (page perPage : UInt64) : Set ℕ :=
  Set.Ico (pageOffset page perPage).toNat ((pageOffset page perPage).toNat + perPage.toNat)

section Fitting

variable {page perPage : UInt64} (hpage : 1 ≤ page) (hpos : 1 ≤ perPage)
  (hfits : page.toNat * perPage.toNat ≤ 2 ^ 64)

include hpage hpos hfits

/-- Up to a page that ends within the words, the number of rows before it is not cut off. -/
theorem toNat_pageOffset_of_fits : (pageOffset page perPage).toNat = (page.toNat - 1) * perPage.toNat := by
  have hpage' : 1 ≤ page.toNat := UInt64.le_iff_toNat_le.1 hpage
  have hpos' : 1 ≤ perPage.toNat := UInt64.le_iff_toNat_le.1 hpos
  rw [toNat_pageOffset, max_eq_left hpage', min_eq_left]
  rw [Nat.sub_mul, Nat.one_mul]
  omega

/-- A row lies on the page of its number. -/
theorem mem_pageRows {r : ℕ} : r ∈ pageRows page perPage ↔ r / perPage.toNat + 1 = page.toNat := by
  have hpage' : 1 ≤ page.toNat := UInt64.le_iff_toNat_le.1 hpage
  have hpos' : 0 < perPage.toNat := UInt64.le_iff_toNat_le.1 hpos
  have hdiv : r / perPage.toNat = page.toNat - 1 ↔ r ∈ pageRows page perPage := by
    rw [pageRows, toNat_pageOffset_of_fits hpage hpos hfits, Set.mem_Ico, Nat.div_eq_iff hpos']
    omega
  rw [← hdiv]
  omega

end Fitting

/-- Every page up to one that fits, fits too. -/
theorem fits_of_le {k page perPage : UInt64} (hk : k ≤ page) (hfits : page.toNat * perPage.toNat ≤ 2 ^ 64) :
    k.toNat * perPage.toNat ≤ 2 ^ 64 :=
  (Nat.mul_le_mul_right _ (UInt64.le_iff_toNat_le.1 hk)).trans hfits

/-- Different pages have no row in common. -/
theorem pageRows_disjoint {k l page perPage : UInt64} (hpos : 1 ≤ perPage)
    (hfits : page.toNat * perPage.toNat ≤ 2 ^ 64) (hk : 1 ≤ k ∧ k ≤ page) (hl : 1 ≤ l ∧ l ≤ page) (hne : k ≠ l) :
    Disjoint (pageRows k perPage) (pageRows l perPage) := by
  refine Set.disjoint_left.2 fun r hrk hrl => hne ?_
  rw [mem_pageRows hk.1 hpos (fits_of_le hk.2 hfits)] at hrk
  rw [mem_pageRows hl.1 hpos (fits_of_le hl.2 hfits)] at hrl
  exact UInt64.toNat_inj.1 (hrk.symm.trans hrl)

/-- A page starts where the one before it ends. -/
theorem pageOffset_next {k page perPage : UInt64} (hpos : 1 ≤ perPage)
    (hfits : page.toNat * perPage.toNat ≤ 2 ^ 64) (hk : 1 ≤ k) (hlt : k < page) :
    (pageOffset (k + 1) perPage).toNat = (pageOffset k perPage).toNat + perPage.toNat := by
  have hk' : 1 ≤ k.toNat := UInt64.le_iff_toNat_le.1 hk
  have hlt' : k.toNat < page.toNat := UInt64.lt_iff_toNat_lt.1 hlt
  have hnext : (k + 1).toNat = k.toNat + 1 := by
    rw [UInt64.toNat_add]
    exact Nat.mod_eq_of_lt (lt_of_le_of_lt hlt' page.toNat_lt)
  have hfitsNext : (k + 1).toNat * perPage.toNat ≤ 2 ^ 64 := by
    rw [hnext]
    exact (Nat.mul_le_mul_right _ hlt').trans hfits
  have hfirst : 1 ≤ k + 1 := by
    rw [UInt64.le_iff_toNat_le, hnext]
    exact Nat.le_add_left 1 k.toNat
  rw [toNat_pageOffset_of_fits hfirst hpos hfitsNext, hnext,
    toNat_pageOffset_of_fits hk hpos (fits_of_le (UInt64.le_of_lt hlt) hfits), Nat.add_sub_cancel,
    ← Nat.succ_mul]
  congr 1
  omega

/-- The pages up to one that fits cover the rows before its end. -/
theorem iUnion_pageRows {page perPage : UInt64} (hpos : 1 ≤ perPage)
    (hfits : page.toNat * perPage.toNat ≤ 2 ^ 64) :
    ⋃ k ∈ {k : UInt64 | 1 ≤ k ∧ k ≤ page}, pageRows k perPage = Set.Ico 0 (page.toNat * perPage.toNat) := by
  have hpos' : 0 < perPage.toNat := UInt64.le_iff_toNat_le.1 hpos
  ext r
  rw [Set.mem_iUnion₂, Set.mem_Ico, ← Nat.div_lt_iff_lt_mul hpos']
  constructor
  · rintro ⟨k, ⟨hk, hle⟩, hr⟩
    -- a row lies on the page that its quotient names, and on no other
    rw [mem_pageRows hk hpos (fits_of_le hle hfits)] at hr
    have hle' : k.toNat ≤ page.toNat := UInt64.le_iff_toNat_le.1 hle
    exact ⟨Nat.zero_le r, by omega⟩
  · rintro ⟨-, hr⟩
    have hnat : (UInt64.ofNat (r / perPage.toNat + 1)).toNat = r / perPage.toNat + 1 :=
      UInt64.toNat_ofNat_of_lt' (lt_of_le_of_lt hr page.toNat_lt)
    have hk : 1 ≤ UInt64.ofNat (r / perPage.toNat + 1) := by
      rw [UInt64.le_iff_toNat_le, hnat]
      exact Nat.le_add_left 1 _
    have hle : UInt64.ofNat (r / perPage.toNat + 1) ≤ page := by
      rw [UInt64.le_iff_toNat_le, hnat]
      exact hr
    exact ⟨_, ⟨hk, hle⟩, (mem_pageRows hk hpos (fits_of_le hle hfits)).2 hnat.symm⟩

/-! ## The limit -/

/-- What is written behind the limit of a statement. -/
def behindLimit (s : Statement) : String :=
  String.join ((s.clauses.options.filter trailingOptions.contains).map (" " ++ ·)) ++ s.kind.closing

/-- A limit is written behind all other clauses, in front of the trailing options; what stands in front of it does not
depend on it. -/
theorem build_setLimit {s : Statement} (hunset : s.kind ≠ .unset) (hraw : s.kind ≠ .raw) :
    ∃ front : Except SqlError BuiltQuery, ∀ l, (s.setLimit l).build = front.map (BuiltQuery.within ""
      (String.join ((s.setLimit l).clauses.limitClause.map (" " ++ ·)) ++ s.behindLimit)) := by
  refine ⟨(Options.ofList s.clauses.options).bind fun options =>
    s.core.map (BuiltQuery.within (s.kind.opening ++ Clauses.optionsText options.leading) ""), fun l => ?_⟩
  have hcore : (s.setLimit l).core = s.core := s.core_change s.clauses.options l
  rw [build_framed (s := s.setLimit l) hunset hraw, hcore]
  show (Options.ofList s.clauses.options).bind _ = _
  cases hoptions : Options.ofList s.clauses.options with
  | error e => rfl
  | ok options =>
    have hbehind : s.behindLimit = String.join (options.trailing.map (" " ++ ·)) ++ s.kind.closing := by
      rw [Options.eq_of_ofList hoptions, behindLimit]
    show s.core.map _ = (s.core.map _).map _
    cases s.core with
    | error e => rfl
    | ok q =>
      rw [hbehind]
      simp only [Except.map, BuiltQuery.within_within, List.map_append, String.join_append, String.append_assoc,
        String.empty_append]
      rfl

end Statement

open Statement in
/-- A page is the limit with the number of rows before it, cut off at the largest word; that number grows with the page.
As long as the last page ends within the words, the pages up to it share no row, follow one another without a gap and
cover all rows before its end. -/
theorem pages_tile :
    (∀ (s : Statement) (page perPage : UInt64),
      (s.paginate page perPage).clauses =
        { s.clauses with limit := some (.range (pageOffset page perPage) perPage) } ∧
      (s.kind ≠ .unset → s.kind ≠ .raw → ∃ front : Except SqlError BuiltQuery,
        s.clearLimit.build = front.map (BuiltQuery.within "" s.behindLimit) ∧
        (s.paginate page perPage).build = front.map (BuiltQuery.within ""
          (" LIMIT " ++ toString (pageOffset page perPage).toNat ++ ", " ++ toString perPage.toNat ++
            s.behindLimit)))) ∧
    (∀ page perPage : UInt64,
      (pageOffset page perPage).toNat = min ((max page.toNat 1 - 1) * perPage.toNat) (2 ^ 64 - 1)) ∧
    (∀ page page' perPage : UInt64, page ≤ page' → pageOffset page perPage ≤ pageOffset page' perPage) ∧
    (∀ perPage : UInt64, pageRows 0 perPage = pageRows 1 perPage) ∧
    ∀ last perPage : UInt64, 1 ≤ perPage → last.toNat * perPage.toNat ≤ 2 ^ 64 →
      {page | 1 ≤ page ∧ page ≤ last}.PairwiseDisjoint (pageRows · perPage) ∧
      (∀ page, 1 ≤ page → page < last →
        (pageOffset (page + 1) perPage).toNat = (pageOffset page perPage).toNat + perPage.toNat) ∧
      ⋃ page ∈ {page : UInt64 | 1 ≤ page ∧ page ≤ last}, pageRows page perPage =
        Set.Ico 0 (last.toNat * perPage.toNat) := by
  refine ⟨fun s page perPage => ⟨rfl, fun hunset hraw => ?_⟩, toNat_pageOffset,
    fun _ _ perPage h => pageOffset_mono h perPage, fun _ => rfl, fun last perPage hpos hfits => ?_⟩
  · obtain ⟨front, hfront⟩ := build_setLimit hunset hraw
    -- without LIMIT there is nothing in front of what stays behind it
    have hnone : String.join (s.clearLimit.clauses.limitClause.map (" " ++ ·)) ++ s.behindLimit = s.behindLimit :=
      String.empty_append
    have hrange (offset count : String) :
        String.join [" " ++ ("LIMIT " ++ offset ++ ", " ++ count)] = " LIMIT " ++ offset ++ ", " ++ count := by
      simp only [String.join_cons, String.join_nil, String.append_empty, ← String.append_assoc]
      rfl
    refine ⟨front, ?_, ?_⟩
    · rw [← hnone]
      exact hfront none
    · rw [← hrange]
      exact hfront (some (.range (pageOffset page perPage) perPage))
  · exact ⟨fun k hk l hl => pageRows_disjoint hpos hfits hk hl, fun k => pageOffset_next hpos hfits,
      iUnion_pageRows hpos hfits⟩

/-- Two pages of half the words each end exactly where words end. -/
theorem pages_tile_halves :
    {page : UInt64 | 1 ≤ page ∧ page ≤ 2}.PairwiseDisjoint (Statement.pageRows · 9223372036854775808) ∧
    (Statement.pageOffset 2 9223372036854775808).toNat = 9223372036854775808 ∧
    ⋃ page ∈ {page : UInt64 | 1 ≤ page ∧ page ≤ 2}, Statement.pageRows page 9223372036854775808 =
      Set.Ico 0 (2 ^ 64) := by
  obtain ⟨-, -, -, -, htile⟩ := pages_tile
  obtain ⟨hdisjoint, hnext, hcover⟩ := htile 2 9223372036854775808 (by decide) (by decide)
  exact ⟨hdisjoint, hnext 1 (by decide) (by decide), hcover⟩

end FluentSql

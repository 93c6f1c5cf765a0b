import FluentSql.Template.Segment
import Mathlib

/-!
# FluentSql.Proofs.Scanning — how a scan for markers splits at a seam

* `Template.markersFrom`: the markers of a text that is read from a state on.
* `Template.markersFrom_append_of_seam`, `Template.markersFrom_append_of_quiet`: the scan of two texts behind each other
  is the scan of one and then of the other, if no marker can reach over the seam or the first has no marker.
* `Template.CarriesFrom`, `Template.Carries`: texts with a number of placeholders and no escape that end outside
  quoted text; `Template.Inert` is such a text without any marker. They can be put behind each other.
* `Template.Lexed`: what the segments of a template look like that ends outside quoted text.
-/

namespace FluentSql
namespace Template

/-- A property of a separator and of texts that stays when texts are put behind each other. -/
theorem intercalate_of_append {P : String → Prop} (hempty : P "") (happend : ∀ a b, P a → P b → P (a ++ b))
    {separator : String} {ss : List String} (hsep : P separator) (h : ∀ s ∈ ss, P s) :
    P (separator.intercalate ss) := by
  induction ss with
  | nil => exact hempty
  | cons s ss ih =>
    cases ss with
    | nil => simpa using h
    | cons t ss =>
      rw [String.intercalate_cons_cons]
      have hrest := ih fun u hu => h u (List.mem_cons_of_mem s hu)
      exact happend _ _ (happend _ _ (h s List.mem_cons_self) hsep) hrest

/-! ## Markers -/

/-- The markers of a text that is read from a state on. -/
def markersFrom (q : Quoting) (cs : List Char) : List Segment :=
  (segmentsFrom q cs).filter Segment.isMarker

@[simp] theorem filter_consText (c : Char) (segs : List Segment) :
    (consText c segs).filter Segment.isMarker = segs.filter Segment.isMarker := by
  cases segs with
  | nil => rfl
  | cons s segs => cases s <;> simp [consText]

theorem filter_foldr_consText (cs : List Char) (segs : List Segment) :
    (cs.foldr consText segs).filter Segment.isMarker = segs.filter Segment.isMarker := by
  induction cs with
  | nil => rfl
  | cons c cs ih => rw [List.foldr_cons, filter_consText, ih]

/-- Characters in front of segments that do not start with text are a text of their own. -/
theorem foldr_consText {segs : List Segment} (hsegs : ∀ s ∈ segs.head?, s.isMarker = true) {cs : List Char}
    (hne : cs ≠ []) : cs.foldr consText segs = .text cs :: segs := by
  induction cs with
  | nil => exact absurd rfl hne
  | cons c cs ih =>
    cases cs with
    | nil =>
      cases segs with
      | nil => rfl
      | cons s segs =>
        have hs : s.isMarker = true := hsegs s rfl
        cases s <;> first | rfl | nomatch hs
    | cons d cs => rw [List.foldr_cons, ih (List.cons_ne_nil d cs), consText]

theorem countP_eq_length_markersFrom (q : Quoting) (cs : List Char) :
    (segmentsFrom q cs).countP Segment.isMarker = (markersFrom q cs).length :=
  List.countP_eq_length_filter

@[simp] theorem markersFrom_nil (q : Quoting) : markersFrom q [] = [] := by
  simp [markersFrom, segmentsFrom]

theorem markersFrom_escape (r : List Char) :
    markersFrom .outside ('?' :: '?' :: r) = .escape :: markersFrom .outside r := by
  rw [markersFrom, segmentsFrom]
  rfl

/-- A question mark that no other one follows is a placeholder. -/
theorem segmentsFrom_placeholder {r : List Char} (h : r.head? ≠ some '?') :
    segmentsFrom .outside ('?' :: r) = .placeholder :: segmentsFrom .outside r := by
  rw [segmentsFrom]
  rintro r' rfl
  exact h rfl

theorem markersFrom_placeholder {r : List Char} (h : r.head? ≠ some '?') :
    markersFrom .outside ('?' :: r) = .placeholder :: markersFrom .outside r := by
  rw [markersFrom, segmentsFrom_placeholder h]
  rfl

/-- Anything but a question mark outside quoted text is text, and only moves the scan. -/
theorem segmentsFrom_cons {q : Quoting} {c : Char} (h : q = .outside → c ≠ '?') (r : List Char) :
    segmentsFrom q (c :: r) = consText c (segmentsFrom (q.step c) r) := by
  rw [segmentsFrom]
  · exact fun r' hq hmark => absurd hmark (h hq)
  · exact h

/-- A character in front makes a text that is not empty, in front of segments that were there. -/
theorem exists_consText (c : Char) (segs : List Segment) :
    ∃ ds rest, consText c segs = .text (c :: ds) :: rest ∧ rest ⊆ segs := by
  cases segs with
  | nil => exact ⟨[], [], rfl, List.Subset.refl _⟩
  | cons s segs =>
    cases s with
    | text cs => exact ⟨cs, segs, rfl, List.subset_cons_self _ _⟩
    | escape => exact ⟨[], _, rfl, List.Subset.refl _⟩
    | placeholder => exact ⟨[], _, rfl, List.Subset.refl _⟩

/-- Without a question mark at the start there is no marker at the start. -/
theorem isMarker_head?_segmentsFrom {r : List Char} (h : r.head? ≠ some '?') :
    ∀ s ∈ (segmentsFrom .outside r).head?, s.isMarker = false := by
  cases r with
  | nil => simp [segmentsFrom]
  | cons c r =>
    have hc : c ≠ '?' := fun hc => h (by rw [hc]; rfl)
    obtain ⟨ds, rest, htext, -⟩ := exists_consText c (segmentsFrom (Quoting.step .outside c) r)
    rw [segmentsFrom_cons (fun _ => hc), htext]
    intro s hs
    obtain rfl := Option.some.inj hs
    rfl

theorem markersFrom_cons {q : Quoting} {c : Char} (h : q = .outside → c ≠ '?') (r : List Char) :
    markersFrom q (c :: r) = markersFrom (q.step c) r := by
  unfold markersFrom
  rw [segmentsFrom_cons h, filter_consText]

/-- Inside quoted text a question mark only moves the scan. -/
theorem ne_mark_of_quiet {q : Quoting} {c : Char} {r : List Char} (h : markersFrom q (c :: r) = []) :
    q = .outside → c ≠ '?' := by
  rintro rfl rfl
  by_cases hr : r.head? = some '?'
  · obtain ⟨r', rfl⟩ := List.head?_eq_some_iff.1 hr
    simp [markersFrom_escape] at h
  · simp [markersFrom_placeholder hr] at h

theorem head?_ne_mark_of_forall {r : List Char} (h : ∀ r', r = '?' :: r' → False) : r.head? ≠ some '?' := by
  intro hhead
  obtain ⟨r', rfl⟩ := List.head?_eq_some_iff.1 hhead
  exact h r' rfl

/-- A character that is neither a question mark nor a quote. -/
def isBare (c : Char) : Bool :=
  c != '?' && !isQuote c

theorem isBare_iff {c : Char} : isBare c = true ↔ c ≠ '?' ∧ isQuote c = false := by
  simp [isBare]

/-! ## Two texts behind each other -/

theorem Quoting.after_append (q : Quoting) (a b : List Char) : q.after (a ++ b) = (q.after a).after b :=
  List.foldl_append

/-- A text without markers in front of others is a text in front of their segments. -/
theorem segmentsFrom_append_of_quiet {q : Quoting} {a : List Char} (h : markersFrom q a = []) (b : List Char) :
    segmentsFrom q (a ++ b) = a.foldr consText (segmentsFrom (q.after a) b) := by
  induction a generalizing q with
  | nil => rfl
  | cons c a ih =>
    have hc := ne_mark_of_quiet h
    rw [markersFrom_cons hc] at h
    rw [List.cons_append, segmentsFrom_cons hc, ih h]
    rfl

/-- A text without markers in front only moves the scan. -/
theorem markersFrom_append_of_quiet {q : Quoting} {a : List Char} (h : markersFrom q a = []) (b : List Char) :
    markersFrom q (a ++ b) = markersFrom (q.after a) b := by
  rw [markersFrom, segmentsFrom_append_of_quiet h, filter_foldr_consText]
  rfl

theorem getLast?_consText {segs : List Segment} (h : segs.getLast? = some .placeholder) (c : Char) :
    (consText c segs).getLast? = some .placeholder := by
  cases segs with
  | nil => nomatch h
  | cons s segs =>
    cases s with
    | text cs =>
      rw [List.getLast?_cons] at h
      rw [consText, List.getLast?_cons]
      cases hlast : segs.getLast? with
      | none => simp [hlast] at h
      | some last => simpa [hlast] using h
    | escape => exact h
    | placeholder => exact h

/-- A text is scanned apart from what stands before it, unless this ends in a placeholder and the text starts with a
question mark, so that both could be one marker. -/
theorem markersFrom_append_of_seam (q : Quoting) (a : List Char) {b : List Char}
    (h : (segmentsFrom q a).getLast? = some .placeholder → b.head? ≠ some '?') :
    markersFrom q (a ++ b) = markersFrom q a ++ markersFrom (q.after a) b := by
  have hstep : Quoting.step .outside '?' = .outside := by decide
  have hlast {segs : List Segment} (s : Segment) (hsegs : segs.getLast? = some .placeholder) :
      (s :: segs).getLast? = some .placeholder := by
    rw [List.getLast?_cons, hsegs]
    rfl
  fun_induction segmentsFrom q a with
  | case1 q => rfl
  | case2 r ih =>
    rw [List.cons_append, List.cons_append, markersFrom_escape, markersFrom_escape, ih fun hr => h (hlast _ hr),
      List.cons_append]
    simp [Quoting.after, hstep]
  | case3 r hr ih =>
    have hhead : r.head? ≠ some '?' := head?_ne_mark_of_forall hr
    -- at the end of the front text, the hypothesis keeps the next character from being a mark
    have hseam : (r ++ b).head? ≠ some '?' := by
      cases r with
      | nil => exact h rfl
      | cons d r => exact hhead
    rw [List.cons_append, markersFrom_placeholder hseam, markersFrom_placeholder hhead, ih fun hr => h (hlast _ hr),
      List.cons_append]
    simp [Quoting.after, hstep]
  | case4 q c r hesc hmark ih =>
    have hc : q = .outside → c ≠ '?' := hmark
    rw [List.cons_append, markersFrom_cons hc, markersFrom_cons hc, ih fun hr => h (getLast?_consText hr c)]
    rfl

/-- A text that does not start with a question mark is scanned apart from what stands before it. -/
theorem markersFrom_append (q : Quoting) (a : List Char) {b : List Char} (h : b.head? ≠ some '?') :
    markersFrom q (a ++ b) = markersFrom q a ++ markersFrom (q.after a) b :=
  markersFrom_append_of_seam q a fun _ => h

/-! ## Texts that carry placeholders -/

/-- From `q` on, `n` placeholders and no escape; the scan ends outside quoted text. -/
structure CarriesFrom (q : Quoting) (n : Nat) (cs : List Char) : Prop where
  markers : markersFrom q cs = List.replicate n .placeholder
  outside : q.after cs = .outside

namespace CarriesFrom

variable {q : Quoting} {n m : Nat} {a b : List Char}

theorem nil : CarriesFrom .outside 0 [] :=
  ⟨rfl, rfl⟩

/-- Such a text without markers does not start with a question mark. -/
theorem head?_ne_mark (h : CarriesFrom .outside 0 a) : a.head? ≠ some '?' := by
  cases a with
  | nil => simp
  | cons c a => exact fun hc => ne_mark_of_quiet h.markers rfl (Option.some.inj hc)

/-- A text without markers in front of any other. -/
theorem quiet_append (ha : markersFrom q a = []) (hb : CarriesFrom (q.after a) n b) : CarriesFrom q n (a ++ b) :=
  ⟨(markersFrom_append_of_quiet ha b).trans hb.markers, (Quoting.after_append q a b).trans hb.outside⟩

/-- Two texts, of which the second does not start with a question mark. -/
theorem append (ha : CarriesFrom q n a) (hb : CarriesFrom .outside m b) (h : b.head? ≠ some '?') :
    CarriesFrom q (n + m) (a ++ b) := by
  refine ⟨?_, by rw [Quoting.after_append, ha.outside, hb.outside]⟩
  rw [markersFrom_append q a h, ha.outside, ha.markers, hb.markers, List.replicate_append_replicate]

end CarriesFrom

/-- A text with `n` placeholders and no escape that ends outside quoted text. -/
def Carries (n : Nat) (s : String) : Prop :=
  CarriesFrom .outside n s.toList

instance (n : Nat) (s : String) : Decidable (Carries n s) :=
  decidable_of_iff (markersFrom .outside s.toList = List.replicate n .placeholder ∧
    Quoting.after .outside s.toList = .outside) ⟨fun h => ⟨h.1, h.2⟩, fun h => ⟨h.markers, h.outside⟩⟩

/-- A text without any marker that ends outside quoted text. -/
def Inert (s : String) : Prop :=
  Carries 0 s

instance (s : String) : Decidable (Inert s) :=
  inferInstanceAs (Decidable (Carries 0 s))

/-- A text that ends outside quoted text. -/
def Closed (s : String) : Prop :=
  Quoting.after .outside s.toList = .outside

instance (s : String) : Decidable (Closed s) :=
  inferInstanceAs (Decidable (_ = _))

theorem inert_iff {s : String} : Inert s ↔ countMarkers s = 0 ∧ Closed s := by
  have h : countMarkers s = 0 ↔ markersFrom .outside s.toList = [] := by
    rw [countMarkers, segments, countP_eq_length_markersFrom, List.length_eq_zero_iff]
  rw [h]
  exact ⟨fun hs => ⟨hs.markers, hs.outside⟩, fun hs => ⟨hs.1, hs.2⟩⟩

namespace Carries

variable {n m : Nat} {a b s : String}

theorem empty : Carries 0 "" := CarriesFrom.nil

theorem mark : Carries 1 "?" := by decide

theorem inert_append (ha : Inert a) (hb : Carries n b) : Carries n (a ++ b) := by
  unfold Carries
  rw [String.toList_append]
  exact CarriesFrom.quiet_append ha.markers (ha.outside.symm ▸ hb)

theorem append_inert (ha : Carries n a) (hb : Inert b) : Carries n (a ++ b) := by
  unfold Carries
  rw [String.toList_append]
  exact CarriesFrom.append ha hb hb.head?_ne_mark

/-- Two texts with an inert one between them. -/
theorem append_between (ha : Carries n a) (hs : Inert s) (hne : s ≠ "") (hb : Carries m b) :
    Carries (n + m) (a ++ (s ++ b)) := by
  have hsb : Carries m (s ++ b) := inert_append hs hb
  have hhead : (s ++ b).toList.head? ≠ some '?' := by
    rw [String.toList_append]
    have := hs.head?_ne_mark
    cases hl : s.toList with
    | nil => exact absurd (String.toList_eq_nil_iff.1 hl) hne
    | cons c cs => simpa [hl] using this
  unfold Carries
  rw [String.toList_append]
  exact CarriesFrom.append ha hsb hhead

/-- The segments of such a text: no escape, and the placeholders that are counted. -/
theorem segments_spec (h : Carries n s) : Segment.escape ∉ segments s ∧ (segments s).count .placeholder = n := by
  have hmarkers : (segments s).filter Segment.isMarker = List.replicate n .placeholder := h.markers
  constructor
  · intro hmem
    have : Segment.escape ∈ (segments s).filter Segment.isMarker := List.mem_filter.2 ⟨hmem, rfl⟩
    rw [hmarkers] at this
    exact nomatch List.eq_of_mem_replicate this
  · rw [← List.count_filter (p := Segment.isMarker) rfl, hmarkers, List.count_replicate_self]

end Carries

namespace Inert

variable {a b : String}

theorem append (ha : Inert a) (hb : Inert b) : Inert (a ++ b) :=
  Carries.inert_append ha hb

theorem intercalate {separator : String} {ss : List String} (hsep : Inert separator) (h : ∀ s ∈ ss, Inert s) :
    Inert (separator.intercalate ss) :=
  intercalate_of_append Carries.empty (fun _ _ => append) hsep h

/-- A text of bare characters. -/
theorem of_bare {s : String} (h : ∀ c ∈ s.toList, isBare c = true) : Inert s := by
  unfold Inert Carries
  generalize s.toList = cs at h
  induction cs with
  | nil => exact CarriesFrom.nil
  | cons c cs ih =>
    obtain ⟨hmark, hquote⟩ := isBare_iff.1 (h c List.mem_cons_self)
    have hrest := ih fun d hd => h d (List.mem_cons_of_mem c hd)
    have hstep : Quoting.step .outside c = .outside := by simp [Quoting.step, hquote]
    refine ⟨?_, ?_⟩
    · rw [markersFrom_cons fun _ => hmark, hstep]
      exact hrest.markers
    · show Quoting.after (Quoting.step .outside c) cs = .outside
      rw [hstep]
      exact hrest.outside

end Inert

/-! ## The segments of a template -/

/-- Segments that are read from `q` on and end outside quoted text. Markers stand outside quoted text, and no marker
stands right behind a placeholder. -/
def Lexed : Quoting → List Segment → Prop
  | q, [] => q = .outside
  | q, .text cs :: r => cs ≠ [] ∧ markersFrom q cs = [] ∧ Lexed (q.after cs) r
  | q, .escape :: r => q = .outside ∧ Lexed .outside r
  | q, .placeholder :: r => q = .outside ∧ (∀ s ∈ r.head?, s.isMarker = false) ∧ Lexed .outside r

theorem Lexed.consText {q : Quoting} {c : Char} {segs : List Segment} (hc : q = .outside → c ≠ '?')
    (h : Lexed (q.step c) segs) : Lexed q (consText c segs) := by
  have hone : ∀ r, Lexed (q.step c) r → Lexed q (.text [c] :: r) := fun r hr =>
    ⟨by simp, by rw [markersFrom_cons hc, markersFrom_nil], hr⟩
  cases segs with
  | nil => exact hone _ h
  | cons s r =>
    cases s with
    | text cs => exact ⟨by simp, by rw [markersFrom_cons hc]; exact h.2.1, h.2.2⟩
    | escape => exact hone _ h
    | placeholder => exact hone _ h

/-- The segments of a text that ends outside quoted text. -/
theorem lexed_segmentsFrom (q : Quoting) (cs : List Char) (h : q.after cs = .outside) :
    Lexed q (segmentsFrom q cs) := by
  have hstep : Quoting.step .outside '?' = .outside := by decide
  fun_induction segmentsFrom q cs with
  | case1 q => exact h
  | case2 r ih => exact ⟨rfl, ih (by simpa [Quoting.after, hstep] using h)⟩
  | case3 r hr ih =>
    exact ⟨rfl, isMarker_head?_segmentsFrom (head?_ne_mark_of_forall hr), ih (by simpa [Quoting.after, hstep] using h)⟩
  | case4 q c r hesc hmark ih => exact Lexed.consText hmark (ih h)

end Template
end FluentSql

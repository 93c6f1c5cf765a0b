import FluentSql.Proofs.Scanning

/-!
# FluentSql.Proofs.Relexing — templates written again from their segments

A template can be cut, changed segment by segment and written again. What is found in the new text is what was put
there, as long as no marker runs into its neighbours and no quoted text swallows one.

* `Template.written`: the text of segments; `Template.written_segmentsFrom`: nothing is lost when a text is cut.
* `Template.Scanned`: each segment is found where it stands, whatever its neighbours are.
* `Template.joined`: segments with neighbouring texts made one, which are what is found
  (`Template.segmentsFrom_written`).
* `Template.Scanned.append`, `Template.Scanned.instead`: two lists of segments behind each other, and others in place of
  a placeholder.
-/

namespace FluentSql
namespace Template

/-! ## Writing segments -/

/-- The text of a segment. -/
def Segment.chars : Segment → List Char
  | .text cs => cs
  | .escape => ['?', '?']
  | .placeholder => ['?']

/-- The text of segments. -/
def written (segs : List Segment) : List Char :=
  segs.flatMap Segment.chars

@[simp] theorem written_nil : written [] = [] := rfl

@[simp] theorem written_cons (s : Segment) (segs : List Segment) : written (s :: segs) = s.chars ++ written segs := rfl

@[simp] theorem written_append (a b : List Segment) : written (a ++ b) = written a ++ written b :=
  List.flatMap_append

@[simp] theorem written_consText (c : Char) (segs : List Segment) : written (consText c segs) = c :: written segs := by
  cases segs with
  | nil => rfl
  | cons s segs => cases s <;> rfl

/-- Nothing is lost when a text is cut. -/
theorem written_segmentsFrom (q : Quoting) (cs : List Char) : written (segmentsFrom q cs) = cs := by
  fun_induction segmentsFrom q cs with
  | case1 q => rfl
  | case2 r ih => rw [written_cons, ih]; rfl
  | case3 r hr ih => rw [written_cons, ih]; rfl
  | case4 q c r hesc hmark ih => rw [written_consText, ih]

theorem written_segments (template : String) : String.ofList (written (segments template)) = template := by
  rw [segments, written_segmentsFrom, String.ofList_toList]

/-! ## Segments that are found again -/

/-- From `q` on a scan finds each segment where it stands: a text has no marker of its own, markers stand outside quoted
text, and no question mark follows a placeholder. -/
def Scanned : Quoting → List Segment → Prop
  | _, [] => True
  | q, .text cs :: r => markersFrom q cs = [] ∧ Scanned (q.after cs) r
  | q, .escape :: r => q = .outside ∧ Scanned .outside r
  | q, .placeholder :: r => q = .outside ∧ (written r).head? ≠ some '?' ∧ Scanned .outside r

theorem Scanned.consText {q : Quoting} {c : Char} {segs : List Segment} (hc : q = .outside → c ≠ '?')
    (h : Scanned (q.step c) segs) : Scanned q (consText c segs) := by
  have hone (hr : Scanned (q.step c) segs) : Scanned q (.text [c] :: segs) :=
    ⟨by rw [markersFrom_cons hc, markersFrom_nil], hr⟩
  cases segs with
  | nil => exact hone h
  | cons s r =>
    cases s with
    | text cs => exact ⟨by rw [markersFrom_cons hc]; exact h.1, h.2⟩
    | escape => exact hone h
    | placeholder => exact hone h

theorem scanned_segmentsFrom (q : Quoting) (cs : List Char) : Scanned q (segmentsFrom q cs) := by
  fun_induction segmentsFrom q cs with
  | case1 q => trivial
  | case2 r ih => exact ⟨rfl, ih⟩
  | case3 r hr ih =>
    refine ⟨rfl, ?_, ih⟩
    rw [written_segmentsFrom]
    exact head?_ne_mark_of_forall hr
  | case4 q c r hesc hmark ih => exact Scanned.consText hmark ih

/-- Segments with neighbouring texts made one. -/
def joined : List Segment → List Segment
  | [] => []
  | .text cs :: r => cs.foldr consText (joined r)
  | .escape :: r => .escape :: joined r
  | .placeholder :: r => .placeholder :: joined r

/-- What is found in the text of segments. -/
theorem segmentsFrom_written {q : Quoting} {segs : List Segment} (h : Scanned q segs) :
    segmentsFrom q (written segs) = joined segs := by
  induction segs generalizing q with
  | nil => cases q <;> rfl
  | cons s segs ih =>
    cases s with
    | text cs =>
      obtain ⟨hquiet, hrest⟩ := h
      rw [joined, ← ih hrest]
      exact segmentsFrom_append_of_quiet hquiet (written segs)
    | escape =>
      obtain ⟨rfl, hrest⟩ := h
      show segmentsFrom .outside ('?' :: '?' :: written segs) = _
      rw [segmentsFrom, joined, ih hrest]
    | placeholder =>
      obtain ⟨rfl, hhead, hrest⟩ := h
      show segmentsFrom .outside ('?' :: written segs) = _
      rw [segmentsFrom_placeholder hhead, joined, ih hrest]

/-- The markers among segments are those that are found. -/
theorem filter_joined (segs : List Segment) : (joined segs).filter Segment.isMarker = segs.filter Segment.isMarker := by
  induction segs with
  | nil => rfl
  | cons s segs ih =>
    cases s with
    | text cs => rw [joined, filter_foldr_consText, ih]; rfl
    | escape => rw [joined, List.filter_cons_of_pos rfl, List.filter_cons_of_pos rfl, ih]
    | placeholder => rw [joined, List.filter_cons_of_pos rfl, List.filter_cons_of_pos rfl, ih]

/-! ## Segments behind each other -/

namespace Scanned

variable {q : Quoting} {a b : List Segment}

theorem append (ha : Scanned q a) (hb : Scanned (q.after (written a)) b) (h : (written b).head? ≠ some '?') :
    Scanned q (a ++ b) := by
  induction a generalizing q with
  | nil => exact hb
  | cons s a ih =>
    rw [written_cons, Quoting.after_append] at hb
    cases s with
    | text cs => exact ⟨ha.1, ih ha.2 hb⟩
    | escape =>
      obtain ⟨rfl, hrest⟩ := ha
      exact ⟨rfl, ih hrest hb⟩
    | placeholder =>
      obtain ⟨rfl, hhead, hrest⟩ := ha
      refine ⟨rfl, ?_, ih hrest hb⟩
      show (written (a ++ b)).head? ≠ some '?'
      rw [written_append]
      cases hw : written a with
      | nil => exact h
      | cons c cs => rwa [hw] at hhead

/-- What stands before and behind a placeholder. Before it the text does not end in a placeholder, so that any other
segments may stand in its place. -/
theorem instead (h : Scanned q (a ++ .placeholder :: b)) :
    q.after (written a) = .outside ∧ (written b).head? ≠ some '?' ∧ Scanned .outside b ∧
      ∀ {x}, Scanned .outside x → Scanned q (a ++ x) := by
  induction a generalizing q with
  | nil =>
    obtain ⟨rfl, hhead, hrest⟩ := h
    exact ⟨rfl, hhead, hrest, id⟩
  | cons s a ih =>
    rw [written_cons, Quoting.after_append]
    cases s with
    | text cs =>
      obtain ⟨hquiet, hrest⟩ := h
      obtain ⟨hout, hhead, hb, hinstead⟩ := ih hrest
      exact ⟨hout, hhead, hb, fun hx => ⟨hquiet, hinstead hx⟩⟩
    | escape =>
      obtain ⟨rfl, hrest⟩ := h
      obtain ⟨hout, hhead, hb, hinstead⟩ := ih hrest
      exact ⟨hout, hhead, hb, fun hx => ⟨rfl, hinstead hx⟩⟩
    | placeholder =>
      obtain ⟨rfl, hnext, hrest⟩ := h
      obtain ⟨hout, hhead, hb, hinstead⟩ := ih hrest
      refine ⟨hout, hhead, hb, fun {x} hx => ⟨rfl, ?_, hinstead hx⟩⟩
      have hfollow : (written (a ++ .placeholder :: b)).head? ≠ some '?' := hnext
      show (written (a ++ x)).head? ≠ some '?'
      rw [written_append] at hfollow ⊢
      -- if nothing is written between the two placeholders, the second stands right behind the first
      cases hw : written a with
      | nil =>
        rw [hw] at hfollow
        exact absurd rfl hfollow
      | cons c cs => rwa [hw] at hfollow

end Scanned

end Template
end FluentSql

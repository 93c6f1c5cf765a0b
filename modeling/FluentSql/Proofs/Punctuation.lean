import FluentSql.Ident
import FluentSql.Proofs.Scanning
import FluentSql.Schema.Literal
import Mathlib

/-!
# FluentSql.Proofs.Punctuation — parentheses and commas outside quoted text

* `Enclosure`: where a scan stands: in which quoted text, and inside how many parentheses.
* `Template.unquoted`: the characters outside quoted text.
* `Enclosure.firstParentheses`: what stands in the first parentheses of a text.
* `Enclosure.parts`: what stands between the commas of a text, apart from those in quoted text or in parentheses.
* `PunctuatedFrom`, `Punctuated`: texts in which quotes and parentheses are closed, with the punctuation that they have;
  one law for each of the scans above.
* `Punctuated.partSql`, `Punctuated.stringLiteral`: quoted texts have no punctuation at all, whatever they quote.
-/

namespace FluentSql

open Template

/-! ## Scans -/

/-- The characters of a text that stand outside quoted text, with the quotes that open it. -/
def Template.unquoted : Quoting → List Char → List Char
  | _, [] => []
  | q, c :: r => if q = .outside then c :: unquoted (q.step c) r else unquoted (q.step c) r

/-- Where a scan stands: in which quoted text, and inside how many parentheses. -/
structure Enclosure where
  quoting : Quoting
  depth : Int
  deriving DecidableEq, Repr

namespace Enclosure

/-- Outside quoted text and parentheses. -/
def outermost : Enclosure :=
  ⟨.outside, 0⟩

/-- How much deeper a text is behind a character. -/
def turn (c : Char) : Int :=
  if c = '(' then 1 else if c = ')' then -1 else 0

/-- Passes one character. Parentheses in quoted text do not count. -/
def step (e : Enclosure) (c : Char) : Enclosure :=
  ⟨e.quoting.step c, if e.quoting = .outside then e.depth + turn c else e.depth⟩

/-- Where a scan stands after a whole text. -/
def after (e : Enclosure) (cs : List Char) : Enclosure :=
  cs.foldl step e

/-- The text up to the parenthesis that closes one opened before it. -/
def upToClosing : Enclosure → List Char → Option (List Char)
  | _, [] => none
  | e, c :: r => if e = outermost ∧ c = ')' then some [] else (upToClosing (e.step c) r).map (c :: ·)

/-- What stands in the first parentheses. -/
def firstParentheses : Quoting → List Char → Option (List Char)
  | _, [] => none
  | q, c :: r =>
    if q = .outside ∧ c = '(' then upToClosing outermost r else firstParentheses (q.step c) r

/-- Puts a text in front of the first part. -/
def prepend (cs : List Char) : List (List Char) → List (List Char)
  | [] => [cs]
  | p :: ps => (cs ++ p) :: ps

/-- What stands between the commas that are neither in quoted text nor in parentheses. -/
def parts : Enclosure → List Char → List (List Char)
  | _, [] => [[]]
  | e, c :: r => if e = outermost ∧ c = ',' then [] :: parts (e.step c) r else prepend [c] (parts (e.step c) r)

theorem prepend_prepend (a b : List Char) (ps : List (List Char)) : prepend a (prepend b ps) = prepend (a ++ b) ps := by
  cases ps <;> simp [prepend]

theorem prepend_nil {ps : List (List Char)} (h : ps ≠ []) : prepend [] ps = ps := by
  cases ps with
  | nil => exact absurd rfl h
  | cons p ps => rfl

theorem parts_ne_nil (e : Enclosure) (cs : List Char) : parts e cs ≠ [] := by
  cases cs with
  | nil => simp [parts]
  | cons c r =>
    rw [parts]
    split_ifs
    · simp
    · cases parts (e.step c) r <;> simp [prepend]

theorem after_append (e : Enclosure) (a b : List Char) : e.after (a ++ b) = (e.after a).after b :=
  List.foldl_append

theorem quoting_after (e : Enclosure) (cs : List Char) : (e.after cs).quoting = e.quoting.after cs := by
  induction cs generalizing e with
  | nil => rfl
  | cons c cs ih => exact ih (e.step c)

end Enclosure

/-! ## Prefixes -/

theorem forall_prefix_cons {α : Type} {P : List α → Prop} {x : α} {a : List α} (hnil : P [])
    (ha : ∀ t, t <+: a → P (x :: t)) : ∀ t, t <+: x :: a → P t := by
  intro t ht
  rcases List.prefix_cons_iff.1 ht with rfl | ⟨s, rfl, hs⟩
  · exact hnil
  · exact ha s hs

theorem forall_prefix_append {α : Type} {P : List α → Prop} {a b : List α} (ha : ∀ t, t <+: a → P t)
    (hb : ∀ t, t <+: b → P (a ++ t)) : ∀ t, t <+: a ++ b → P t := by
  induction a generalizing P with
  | nil => exact hb
  | cons x a ih =>
    have hx : ∀ t, t <+: a → P (x :: t) := fun t ht => ha _ (List.cons_prefix_cons.2 ⟨rfl, ht⟩)
    exact forall_prefix_cons (ha [] List.nil_prefix) (ih hx hb)

/-! ## Punctuated texts -/

/-- The punctuation of a text outside quoted text. -/
inductive Punctuation where
  /-- None at all. -/
  | none
  /-- Parentheses, and commas in them. -/
  | parentheses
  /-- Parentheses, and commas anywhere. -/
  | commas
  deriving DecidableEq, Repr

/-- The characters that a text has outside quoted text only in some order, or not at all. -/
def punctuationMarks : List Char :=
  ['(', ')', ',', '"']

/-- A text, read from a state on, with some punctuation: quotes and parentheses are closed, and there are no double
quotes outside quoted text. -/
inductive PunctuatedFrom : Punctuation → Quoting → List Char → Prop where
  | nil {p : Punctuation} : PunctuatedFrom p .outside []
  /-- Quoted text, quotes, and everything outside quoted text that is no punctuation. -/
  | char {p : Punctuation} {q : Quoting} {c : Char} {cs : List Char} (hc : q = .outside → c ∉ punctuationMarks)
      (rest : PunctuatedFrom p (q.step c) cs) : PunctuatedFrom p q (c :: cs)
  | parens {p : Punctuation} {inner cs : List Char} (hp : p ≠ .none) (inside : PunctuatedFrom .commas .outside inner)
      (rest : PunctuatedFrom p .outside cs) : PunctuatedFrom p .outside ('(' :: (inner ++ ')' :: cs))
  | comma {cs : List Char} (rest : PunctuatedFrom .commas .outside cs) : PunctuatedFrom .commas .outside (',' :: cs)

namespace PunctuatedFrom

variable {p : Punctuation} {q : Quoting} {a b cs : List Char}

theorem append (ha : PunctuatedFrom p q a) (hb : PunctuatedFrom p .outside b) : PunctuatedFrom p q (a ++ b) := by
  induction ha with
  | nil => exact hb
  | char hc _ ih => exact .char hc (ih hb)
  | parens hp inside _ _ ih =>
    rw [List.cons_append, List.append_assoc]
    exact .parens hp inside (ih hb)
  | comma _ ih => exact .comma (ih hb)

theorem weaken (h : PunctuatedFrom p q cs) : PunctuatedFrom .commas q cs := by
  induction h with
  | nil => exact .nil
  | char hc _ ih => exact .char hc ih
  | parens _ inside _ _ ih => exact .parens (by decide) inside ih
  | comma _ ih => exact .comma ih

/-! ### What scans find in such texts -/

theorem step_of_char {e : Enclosure} {c : Char} (hc : e.quoting = .outside → c ∉ punctuationMarks) :
    e.step c = ⟨e.quoting.step c, e.depth⟩ := by
  rw [Enclosure.step]
  split_ifs with hq
  · have hno := hc hq
    have hopen : c ≠ '(' := by rintro rfl; exact hno (by decide)
    have hclose : c ≠ ')' := by rintro rfl; exact hno (by decide)
    rw [Enclosure.turn, if_neg hopen, if_neg hclose, add_zero]
  · rfl

theorem step_open (d : Int) : Enclosure.step ⟨.outside, d⟩ '(' = ⟨.outside, d + 1⟩ := rfl

theorem step_close (d : Int) : Enclosure.step ⟨.outside, d + 1⟩ ')' = ⟨.outside, d⟩ := by
  simp [Enclosure.step, Enclosure.turn, Quoting.step, isQuote]

theorem step_comma (d : Int) : Enclosure.step ⟨.outside, d⟩ ',' = ⟨.outside, d⟩ := by
  simp [Enclosure.step, Enclosure.turn, Quoting.step, isQuote]

/-- Such a text ends where it began, outside quoted text. -/
theorem after_eq (h : PunctuatedFrom p q cs) (d : Int) : Enclosure.after ⟨q, d⟩ cs = ⟨.outside, d⟩ := by
  induction h generalizing d with
  | nil => rfl
  | @char p q c cs hc _ ih =>
    show Enclosure.after (Enclosure.step ⟨q, d⟩ c) cs = _
    rw [step_of_char hc]
    exact ih d
  | @parens p inner cs _ _ _ ihin ih =>
    show Enclosure.after (Enclosure.step ⟨.outside, d⟩ '(') (inner ++ ')' :: cs) = _
    rw [step_open, Enclosure.after_append, ihin]
    show Enclosure.after (Enclosure.step ⟨.outside, d + 1⟩ ')') cs = _
    rw [step_close]
    exact ih d
  | @comma cs _ ih =>
    show Enclosure.after (Enclosure.step ⟨.outside, d⟩ ',') cs = _
    rw [step_comma]
    exact ih d

/-- Nowhere in such a text are more parentheses closed than opened. -/
theorem le_depth (h : PunctuatedFrom p q cs) (d : Int) :
    ∀ t, t <+: cs → d ≤ (Enclosure.after ⟨q, d⟩ t).depth := by
  -- a prefix ends in the first piece of the text or behind it
  induction h generalizing d with
  | nil =>
    intro t ht
    rw [List.prefix_nil.1 ht]
    exact le_refl d
  | @char p q c cs hc _ ih =>
    refine forall_prefix_cons (le_refl d) fun t ht => ?_
    show d ≤ (Enclosure.after (Enclosure.step ⟨q, d⟩ c) t).depth
    rw [step_of_char hc]
    exact ih d t ht
  | @parens p inner cs _ inside _ ihin ih =>
    refine forall_prefix_cons (le_refl d) (forall_prefix_append (fun t ht => ?_) (forall_prefix_cons ?_ fun t ht => ?_))
    · show d ≤ (Enclosure.after (Enclosure.step ⟨.outside, d⟩ '(') t).depth
      rw [step_open]
      exact le_trans (by omega) (ihin (d + 1) t ht)
    · show d ≤ (Enclosure.after (Enclosure.step ⟨.outside, d⟩ '(') (inner ++ [])).depth
      rw [step_open, List.append_nil, inside.after_eq]
      exact le_add_of_nonneg_right Int.one_nonneg
    · show d ≤ (Enclosure.after (Enclosure.step ⟨.outside, d⟩ '(') (inner ++ ')' :: t)).depth
      rw [step_open, Enclosure.after_append, inside.after_eq]
      show d ≤ (Enclosure.after (Enclosure.step ⟨.outside, d + 1⟩ ')') t).depth
      rw [step_close]
      exact ih d t ht
  | @comma cs _ ih =>
    refine forall_prefix_cons (le_refl d) fun t ht => ?_
    show d ≤ (Enclosure.after (Enclosure.step ⟨.outside, d⟩ ',') t).depth
    rw [step_comma]
    exact ih d t ht

theorem unquoted_append (q : Quoting) (a b : List Char) :
    unquoted q (a ++ b) = unquoted q a ++ unquoted (q.after a) b := by
  induction a generalizing q with
  | nil => rfl
  | cons c a ih =>
    rw [List.cons_append, unquoted, unquoted, ih]
    split_ifs <;> rfl

/-- Double quotes stand in quoted text only. -/
theorem not_mem_unquoted (h : PunctuatedFrom p q cs) : '"' ∉ unquoted q cs := by
  induction h with
  | nil => simp [unquoted]
  | @char p q c cs hc _ ih =>
    rw [unquoted]
    split_ifs with hq
    · have hquote : '"' ≠ c := by
        rintro rfl
        exact hc hq (by decide)
      exact List.not_mem_cons_of_ne_of_not_mem hquote ih
    · exact ih
  | @parens p inner cs _ inside _ ihin ih =>
    have hopen : Quoting.step .outside '(' = .outside := by decide
    have hclose : Quoting.step .outside ')' = .outside := by decide
    have hafter : Quoting.after .outside inner = .outside := by
      rw [← Enclosure.quoting_after ⟨.outside, 0⟩, inside.after_eq]
    rw [unquoted, if_pos rfl, hopen, unquoted_append, hafter, unquoted, if_pos rfl, hclose]
    simp [ihin, ih]
  | @comma cs _ ih =>
    have hstep : Quoting.step .outside ',' = .outside := by decide
    rw [unquoted, if_pos rfl, hstep]
    exact List.not_mem_cons_of_ne_of_not_mem (by decide) ih

/-- A text without punctuation stands in front of the first parentheses. -/
theorem firstParentheses_append (h : PunctuatedFrom .none q cs) (r : List Char) :
    Enclosure.firstParentheses q (cs ++ r) = Enclosure.firstParentheses .outside r := by
  generalize hp : Punctuation.none = p at h
  induction h with
  | nil => rfl
  | @char p q c cs hc _ ih =>
    have hopen : ¬(q = .outside ∧ c = '(') := by
      rintro ⟨hq, rfl⟩
      exact hc hq (by decide)
    rw [List.cons_append, Enclosure.firstParentheses, if_neg hopen, ih hp]
  | parens hne => exact absurd hp.symm hne
  | comma => nomatch hp

/-- Such a text does not close the parenthesis it stands in. -/
theorem upToClosing_append (h : PunctuatedFrom p q cs) {d : Int} (hd : 0 ≤ d) (r : List Char) :
    Enclosure.upToClosing ⟨q, d⟩ (cs ++ r) = (Enclosure.upToClosing ⟨.outside, d⟩ r).map (cs ++ ·) := by
  induction h generalizing d r with
  | nil => simp
  | @char p q c cs hc _ ih =>
    have hclose : ¬((⟨q, d⟩ : Enclosure) = .outermost ∧ c = ')') := by
      rintro ⟨hq, rfl⟩
      exact hc (congrArg Enclosure.quoting hq) (by decide)
    rw [List.cons_append, Enclosure.upToClosing, if_neg hclose, step_of_char hc, ih hd, Option.map_map]
    rfl
  | @parens p inner cs _ _ _ ihin ih =>
    have hopen : ¬((⟨.outside, d⟩ : Enclosure) = .outermost ∧ '(' = ')') := by simp
    -- this bracket closes one that was opened in here, since the depth is positive
    have hclose : ¬((⟨.outside, d + 1⟩ : Enclosure) = .outermost ∧ ')' = ')') := by
      rintro ⟨hdepth, -⟩
      have : d + 1 = 0 := congrArg Enclosure.depth hdepth
      omega
    rw [List.cons_append, Enclosure.upToClosing, if_neg hopen, step_open, List.append_assoc, ihin (by omega),
      List.cons_append, Enclosure.upToClosing, if_neg hclose, step_close, ih hd, Option.map_map, Option.map_map,
      Option.map_map]
    congr 1
    funext t
    simp
  | @comma cs _ ih =>
    have hclose : ¬((⟨.outside, d⟩ : Enclosure) = .outermost ∧ ',' = ')') := by simp
    rw [List.cons_append, Enclosure.upToClosing, if_neg hclose, step_comma, ih hd, Option.map_map]
    rfl

/-- Such a text is not cut, in parentheses or if it has no commas outside them. -/
theorem parts_append (h : PunctuatedFrom p q cs) {d : Int} (hd : 0 ≤ d) (hp : p = .commas → 0 < d) (r : List Char) :
    Enclosure.parts ⟨q, d⟩ (cs ++ r) = Enclosure.prepend cs (Enclosure.parts ⟨.outside, d⟩ r) := by
  induction h generalizing d r with
  | nil => exact (Enclosure.prepend_nil (Enclosure.parts_ne_nil _ r)).symm
  | @char p q c cs hc _ ih =>
    -- a comma that is a mark stands in quotes
    have hcomma : ¬((⟨q, d⟩ : Enclosure) = .outermost ∧ c = ',') := by
      rintro ⟨hq, rfl⟩
      exact hc (congrArg Enclosure.quoting hq) (by decide)
    rw [List.cons_append, Enclosure.parts, if_neg hcomma, step_of_char hc, ih hd hp, Enclosure.prepend_prepend]
    rfl
  | @parens p inner cs _ _ _ ihin ih =>
    have hopen : ¬((⟨.outside, d⟩ : Enclosure) = .outermost ∧ '(' = ',') := by simp
    have hclose : ¬((⟨.outside, d + 1⟩ : Enclosure) = .outermost ∧ ')' = ',') := by simp
    rw [List.cons_append, Enclosure.parts, if_neg hopen, step_open, List.append_assoc, ihin (by omega) fun _ => by omega,
      List.cons_append, Enclosure.parts, if_neg hclose, step_close, ih hd hp, Enclosure.prepend_prepend,
      Enclosure.prepend_prepend, Enclosure.prepend_prepend]
    simp
  | @comma cs _ ih =>
    -- a comma of a list stands inside brackets, so the parts are not cut there
    have hcomma : ¬((⟨.outside, d⟩ : Enclosure) = .outermost ∧ ',' = ',') := by
      rintro ⟨hdepth, -⟩
      have : d = 0 := congrArg Enclosure.depth hdepth
      have := hp rfl
      omega
    rw [List.cons_append, Enclosure.parts, if_neg hcomma, step_comma, ih hd hp, Enclosure.prepend_prepend]
    rfl

/-! ### Quoted text -/

/-- The inside of an identifier, where each back-tick is doubled, and the closing back-tick. -/
theorem doubled (cs : List Char) : PunctuatedFrom p (.inside '`') (Ident.doubled cs ++ ['`']) := by
  have hinside : ∀ c, Quoting.inside '`' = .outside → c ∉ punctuationMarks := fun c hq => nomatch hq
  have hopen : Quoting.step .outside '`' = .inside '`' := by decide
  have hclose : Quoting.step (.inside '`') '`' = .outside := by decide
  induction cs with
  | nil =>
    refine .char (hinside _) ?_
    rw [hclose]
    exact .nil
  | cons c cs ih =>
    rw [Ident.doubled]
    by_cases hc : c = '`'
    · rw [if_pos hc]
      refine .char (hinside _) ?_
      rw [hclose]
      refine .char (fun _ => by decide) ?_
      rw [hopen]
      exact ih
    · have hstay : Quoting.step (.inside '`') c = .inside '`' := by simp [Quoting.step, hc]
      rw [if_neg hc]
      refine .char (hinside c) ?_
      rw [hstay]
      exact ih

/-- The inside of a string literal, where quotes are doubled and backslashes escaped, and the closing quote. -/
theorem literalBody (cs : List Char) : PunctuatedFrom p (.inside '\'') (FluentSql.literalBody cs ++ ['\'']) := by
  have hinside : ∀ c, Quoting.inside '\'' = .outside → c ∉ punctuationMarks := fun c hq => nomatch hq
  have hescaped : ∀ c, Quoting.escaped '\'' = .outside → c ∉ punctuationMarks := fun c hq => nomatch hq
  have hopen : Quoting.step .outside '\'' = .inside '\'' := by decide
  have hclose : Quoting.step (.inside '\'') '\'' = .outside := by decide
  have hescape : Quoting.step (.inside '\'') '\\' = .escaped '\'' := by decide
  have hback : Quoting.step (.escaped '\'') '\\' = .inside '\'' := by decide
  induction cs with
  | nil =>
    refine .char (hinside _) ?_
    rw [hclose]
    exact .nil
  | cons c cs ih =>
    rw [FluentSql.literalBody]
    -- a quote is doubled and a backslash escaped, so neither closes the literal
    by_cases hquote : c = '\''
    · rw [if_pos hquote]
      refine .char (hinside _) ?_
      rw [hclose]
      refine .char (fun _ => by decide) ?_
      rw [hopen]
      exact ih
    · by_cases hslash : c = '\\'
      · rw [if_neg hquote, if_pos hslash]
        refine .char (hinside _) ?_
        rw [hescape]
        refine .char (hescaped _) ?_
        rw [hback]
        exact ih
      · have hstay : Quoting.step (.inside '\'') c = .inside '\'' := by simp [Quoting.step, hquote, hslash]
        rw [if_neg hquote, if_neg hslash]
        refine .char (hinside c) ?_
        rw [hstay]
        exact ih

end PunctuatedFrom

/-! ## Texts put together -/

/-- A text with some punctuation outside quoted text. -/
def Punctuated (p : Punctuation) (s : String) : Prop :=
  PunctuatedFrom p .outside s.toList

/-- A character that is neither punctuation nor a quote. -/
def isUnmarked (c : Char) : Bool :=
  !punctuationMarks.contains c && !isQuote c

namespace Punctuated

variable {p : Punctuation} {s t : String}

theorem empty : Punctuated p "" :=
  PunctuatedFrom.nil

theorem append (hs : Punctuated p s) (ht : Punctuated p t) : Punctuated p (s ++ t) := by
  unfold Punctuated
  rw [String.toList_append]
  exact PunctuatedFrom.append hs ht

theorem weaken (h : Punctuated p s) : Punctuated .commas s :=
  PunctuatedFrom.weaken h

theorem of_unmarked (h : s.toList.all isUnmarked = true) : Punctuated p s := by
  rw [List.all_eq_true] at h
  unfold Punctuated
  generalize s.toList = cs at h
  induction cs with
  | nil => exact .nil
  | cons c cs ih =>
    have hc := h c List.mem_cons_self
    simp only [isUnmarked, Bool.and_eq_true, Bool.not_eq_true', List.contains_eq_mem, decide_eq_false_iff_not] at hc
    have hstep : Quoting.step .outside c = .outside := by simp [Quoting.step, hc.2]
    refine .char (fun _ => hc.1) ?_
    rw [hstep]
    exact ih fun d hd => h d (List.mem_cons_of_mem c hd)

theorem parenthesized (hp : p ≠ .none) (h : Punctuated .commas s) : Punctuated p ("(" ++ s ++ ")") := by
  unfold Punctuated
  rw [String.toList_append, String.toList_append]
  show PunctuatedFrom p .outside ('(' :: (s.toList ++ ')' :: []))
  exact .parens hp h .nil

theorem intercalate {separator : String} {ss : List String} (hsep : Punctuated p separator)
    (h : ∀ s ∈ ss, Punctuated p s) : Punctuated p (separator.intercalate ss) :=
  intercalate_of_append empty (fun _ _ => append) hsep h

theorem comma : Punctuated .commas ", " :=
  PunctuatedFrom.comma (.char (fun _ => by decide) .nil)

/-- An identifier is quoted, whatever it contains. -/
theorem partSql (part : String) : Punctuated p (Ident.partSql part) := by
  unfold Punctuated Ident.partSql
  rw [String.toList_ofList]
  exact .char (fun _ => by decide) (PunctuatedFrom.doubled part.toList)

/-- A string literal is quoted, whatever it contains. -/
theorem stringLiteral (text : String) : Punctuated p (FluentSql.stringLiteral text) := by
  unfold Punctuated FluentSql.stringLiteral
  rw [String.toList_ofList]
  exact .char (fun _ => by decide) (PunctuatedFrom.literalBody text.toList)

theorem quoteIdent {name sql : String} (h : quoteIdent name = .ok sql) : Punctuated p sql := by
  unfold FluentSql.quoteIdent at h
  split at h
  · rw [← Except.ok.inj h, Ident.sql]
    have hdot : Punctuated p "." := of_unmarked (by decide)
    refine intercalate hdot fun s hs => ?_
    obtain ⟨part, -, rfl⟩ := List.mem_map.1 hs
    exact partSql part
  · nomatch h

end Punctuated

end FluentSql

import FluentSql.Execution.Program
import Mathlib

/-!
# FluentSql.Proofs.Runs — what a computation adds to a run

* `World.after`: the world after more moments.
* `Run.Reaches`: a computation leads from one world to another and yields a given value.
* `Run.Adds`: a computation only adds given moments to the run; one law for each way to build a computation, and
  `Adds.bind` to put two of them behind each other.
* `Moment.noted`: the entries that notices leave in the log.
-/

namespace FluentSql

variable {ρ β γ : Type}

/-! ## Worlds -/

namespace World

/-- The world after more moments, among which no savepoint was named. -/
def after (w : World ρ) (ms : List (Moment ρ)) : World ρ :=
  { w with history := w.history ++ ms }

@[simp] theorem after_nil (w : World ρ) : w.after [] = w := by
  simp [after]

@[simp] theorem after_after (w : World ρ) (ms ms' : List (Moment ρ)) :
    (w.after ms).after ms' = w.after (ms ++ ms') := by
  simp [after]

end World

/-! ## Computations that only add moments -/

/-- The entries that notices leave in the log. -/
def Moment.noted (ns : List Notice) : List (Moment ρ) :=
  ns.map fun n => .logged (.notice n)

namespace Run

/-- From a world on, a computation leads to another world and yields this value. -/
def Reaches (x : Run ρ β) (w w' : World ρ) (b : β) : Prop :=
  x.run w = (b, w')

theorem Reaches.bind {x : Run ρ β} {f : β → Run ρ γ} {w w' w'' : World ρ} {b : β} {c : γ} (hx : x.Reaches w w' b)
    (hf : (f b).Reaches w' w'' c) : (x >>= f).Reaches w w'' c := by
  show (x >>= f).run w = (c, w'')
  rw [StateT.run_bind, show x.run w = (b, w') from hx]
  exact hf

/-- From a world on, a computation only adds these moments and yields this value. -/
def Adds (x : Run ρ β) (w : World ρ) (ms : List (Moment ρ)) (b : β) : Prop :=
  x.Reaches w (w.after ms) b

theorem reaches_pure (b : β) (w : World ρ) : Reaches (pure b) w w b := rfl

theorem adds_pure (b : β) (w : World ρ) : Adds (pure b) w [] b := by
  rw [Adds, World.after_nil]
  rfl

theorem adds_record (ms : List (Moment ρ)) (w : World ρ) : Adds (record ms) w ms () := rfl

theorem adds_emit (e : Event ρ) (w : World ρ) : Adds (emit e) w [.logged e] () := rfl

theorem adds_notify (ns : List Notice) (w : World ρ) : Adds (notify ns) w (Moment.noted ns) () := rfl

theorem adds_history (w : World ρ) : Adds history w [] w.history := by
  rw [Adds, World.after_nil]
  rfl

/-- Two computations behind each other. -/
theorem Adds.bind {x : Run ρ β} {f : β → Run ρ γ} {w : World ρ} {ms ms' : List (Moment ρ)} {b : β} {c : γ}
    (hx : x.Adds w ms b) (hf : (f b).Adds (w.after ms) ms' c) : (x >>= f).Adds w (ms ++ ms') c := by
  rw [Adds, World.after_after] at hf
  exact Reaches.bind hx hf

/-- Two computations behind each other, of which the second adds nothing. -/
theorem Adds.bind_nil {x : Run ρ β} {f : β → Run ρ γ} {w : World ρ} {ms : List (Moment ρ)} {b : β} {c : γ}
    (hx : x.Adds w ms b) (hf : (f b).Adds (w.after ms) [] c) : (x >>= f).Adds w ms c := by
  have hall := hx.bind hf
  rwa [List.append_nil] at hall

/-- A computation that looks at the past first. -/
theorem Adds.history_bind {f : List (Moment ρ) → Run ρ γ} {w : World ρ} {ms : List (Moment ρ)} {c : γ}
    (hf : (f w.history).Adds w ms c) : (history >>= f).Adds w ms c :=
  Adds.bind (adds_history w) (by rwa [World.after_nil])

/-- A computation that adds a moment first. -/
theorem Adds.record_bind {x : Moment ρ} {k : Run ρ γ} {w : World ρ} {ms : List (Moment ρ)} {c : γ}
    (hk : k.Adds (w.after [x]) ms c) : (record [x] >>= fun _ => k).Adds w (x :: ms) c := by
  have hall := Adds.bind (f := fun _ => k) (adds_record [x] w) hk
  exact hall

/-- A computation that adds a moment and the notices that come with it first. -/
theorem Adds.record_notify {x : Moment ρ} {ns : List Notice} {k : Run ρ γ} {w : World ρ} {ms : List (Moment ρ)}
    {c : γ} (hk : k.Adds (w.after (x :: Moment.noted ns)) ms c) :
    (record [x] >>= fun _ => notify ns >>= fun _ => k).Adds w (x :: Moment.noted ns ++ ms) c :=
  Adds.record_bind <| Adds.bind (adds_notify ns (w.after [x])) <| by rwa [World.after_after]

/-- What is added and yielded is determined by the computation and the world, so that what is shown of some moments that
a computation adds is shown of all of them. -/
theorem Adds.unique {x : Run ρ β} {w : World ρ} {ms ms' : List (Moment ρ)} {b b' : β} (h : x.Adds w ms b)
    (h' : x.Adds w ms' b') : ms = ms' ∧ b = b' := by
  have heq : (b, w.after ms) = (b', w.after ms') := Eq.trans (Eq.symm h) h'
  have hhistory : w.history ++ ms = w.history ++ ms' := congrArg (fun p => p.2.history) heq
  exact ⟨List.append_cancel_left hhistory, congrArg Prod.fst heq⟩

end Run

end FluentSql

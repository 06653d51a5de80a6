import Mathlib.Logic.Basic

/-! Computations that may raise and that keep what they did to the state when they raise. -/
namespace Effects

/-- A computation over `σ`. An exception comes with the state reached when it was raised. -/
structure Effect (σ ε α : Type) where
  run : σ → Except ε α × σ

variable {σ ε ε' α β : Type}

namespace Effect

/-- Continue with `k` after a normal return; pass an exception on. -/
def andThen (r : Except ε α × σ) (k : α → Effect σ ε β) : Except ε β × σ :=
  match r with
  | (.ok a, s) => (k a).run s
  | (.error e, s) => (.error e, s)

instance : Monad (Effect σ ε) where
  pure a := ⟨fun s => (.ok a, s)⟩
  bind m k := ⟨fun s => andThen (m.run s) k⟩

def raise (e : ε) : Effect σ ε α := ⟨fun s => (.error e, s)⟩

def read : Effect σ ε σ := ⟨fun s => (.ok s, s)⟩

def update (f : σ → σ) : Effect σ ε Unit := ⟨fun s => (.ok (), f s)⟩

/-- Run `m` and swallow its exception, whatever it is. -/
def attempt (m : Effect σ ε α) : Effect σ ε' Unit := ⟨fun s => (.ok (), (m.run s).2)⟩

def ofExcept (r : Except ε α) : Effect σ ε α := ⟨fun s => (r, s)⟩

/-- Run `m` and go on with how it ended. -/
def outcome (m : Effect σ ε α) : Effect σ ε' (Except ε α) :=
  ⟨fun s => (.ok (m.run s).1, (m.run s).2)⟩

/-- Run `cleanup` after `m`, however that ends. What `cleanup` raises takes the place of the rest. -/
def ensuring (m : Effect σ ε α) (cleanup : Effect σ ε Unit) : Effect σ ε α := do
  let r ← outcome m
  cleanup
  ofExcept r

/-- Run `cleanup` if `m` raises, and pass its exception on. -/
def onRaise (m : Effect σ ε α) (cleanup : Effect σ ε Unit) : Effect σ ε α := do
  let r ← outcome m
  match r with
  | .ok a => pure a
  | .error e => do
    cleanup
    raise e

/-- Run on the second half of a pair. -/
def onSnd {τ : Type} (m : Effect σ ε α) : Effect (τ × σ) ε α :=
  ⟨fun s => ((m.run s.2).1, (s.1, (m.run s.2).2))⟩

/-- Run `f` on the elements in order, up to the first that raises. -/
def each (f : α → Effect σ ε Unit) : List α → Effect σ ε Unit
  | [] => pure ()
  | x :: xs => f x >>= fun _ => each f xs

@[simp] theorem pure_run (a : α) (s : σ) : (pure a : Effect σ ε α).run s = (.ok a, s) := rfl

@[simp] theorem bind_run (m : Effect σ ε α) (k : α → Effect σ ε β) (s : σ) :
    (m >>= k).run s = andThen (m.run s) k := rfl

@[simp] theorem andThen_ok (a : α) (s : σ) (k : α → Effect σ ε β) :
    andThen (.ok a, s) k = (k a).run s := rfl

@[simp] theorem andThen_error (e : ε) (s : σ) (k : α → Effect σ ε β) :
    andThen (.error e, s) k = (.error e, s) := rfl

@[simp] theorem raise_run (e : ε) (s : σ) :
    (raise e : Effect σ ε α).run s = (.error e, s) := rfl

@[simp] theorem read_run (s : σ) : (read : Effect σ ε σ).run s = (.ok s, s) := rfl

@[simp] theorem update_run (f : σ → σ) (s : σ) :
    (update f : Effect σ ε Unit).run s = (.ok (), f s) := rfl

@[simp] theorem attempt_run (m : Effect σ ε α) (s : σ) :
    (attempt m : Effect σ ε' Unit).run s = (.ok (), (m.run s).2) := rfl

@[simp] theorem ofExcept_run (r : Except ε α) (s : σ) :
    (ofExcept r : Effect σ ε α).run s = (r, s) := rfl

@[simp] theorem outcome_run (m : Effect σ ε α) (s : σ) :
    (outcome m : Effect σ ε' (Except ε α)).run s = (.ok (m.run s).1, (m.run s).2) := rfl

theorem ensuring_run (m : Effect σ ε α) (cleanup : Effect σ ε Unit) (s : σ) :
    (ensuring m cleanup).run s =
      andThen (cleanup.run (m.run s).2) fun _ => ofExcept (m.run s).1 := rfl

theorem onRaise_of_ok {m : Effect σ ε α} {s : σ} {a : α} (h : (m.run s).1 = .ok a)
    (cleanup : Effect σ ε Unit) : (onRaise m cleanup).run s = (.ok a, (m.run s).2) := by
  unfold onRaise
  rw [bind_run, outcome_run, andThen_ok, h]
  rfl

theorem onRaise_of_error {m : Effect σ ε α} {s : σ} {e : ε} (h : (m.run s).1 = .error e)
    (cleanup : Effect σ ε Unit) : (onRaise m cleanup).run s =
      andThen (cleanup.run (m.run s).2) fun _ => raise e := by
  unfold onRaise
  rw [bind_run, outcome_run, andThen_ok, h]
  rfl

@[simp] theorem onSnd_run {τ : Type} (m : Effect σ ε α) (t : τ) (s : σ) :
    (onSnd m).run (t, s) = ((m.run s).1, (t, (m.run s).2)) := rfl

@[simp] theorem each_nil_run (f : α → Effect σ ε Unit) (s : σ) :
    (each f []).run s = (.ok (), s) := rfl

@[simp] theorem each_cons_run (f : α → Effect σ ε Unit) (x : α) (xs : List α) (s : σ) :
    (each f (x :: xs)).run s = andThen ((f x).run s) fun _ => each f xs := rfl

/-- A computation that first looks at the state. -/
theorem read_bind_run (k : σ → Effect σ ε β) (s : σ) : (read >>= k).run s = (k s).run s := rfl

theorem andThen_of_ok {r : Except ε α × σ} {a : α} (h : r.1 = .ok a) (k : α → Effect σ ε β) :
    andThen r k = (k a).run r.2 := by
  obtain ⟨r, s⟩ := r
  dsimp only at h
  rw [h]
  rfl

theorem andThen_of_error {r : Except ε α × σ} {e : ε} (h : r.1 = .error e)
    (k : α → Effect σ ε β) : andThen r k = (.error e, r.2) := by
  obtain ⟨r, s⟩ := r
  dsimp only at h
  rw [h]
  rfl

/-- Nothing to add after a computation without a result. -/
theorem bind_pure_unit (m : Effect σ ε Unit) : (m >>= fun _ => pure ()) = m := by
  have hrun (s : σ) : (m >>= fun _ => pure ()).run s = m.run s := by
    rw [bind_run]
    match m.run s with
    | (.ok (), _) => rfl
    | (.error _, _) => rfl
  obtain ⟨run⟩ := m
  exact congrArg Effect.mk (funext hrun)

theorem each_singleton (f : α → Effect σ ε Unit) (x : α) : each f [x] = f x :=
  bind_pure_unit (f x)

theorem each_singleton_run (f : α → Effect σ ε Unit) (x : α) (s : σ) :
    (each f [x]).run s = (f x).run s := by
  rw [each_singleton]

/-- A list in two halves: the second runs if the first did not raise. -/
theorem each_append_run (f : α → Effect σ ε Unit) (xs ys : List α) (s : σ) :
    (each f (xs++ys)).run s = andThen ((each f xs).run s) fun _ => each f ys := by
  induction xs generalizing s with
  | nil => rfl
  | cons x xs ih =>
    rw [List.cons_append, each_cons_run, each_cons_run]
    match (f x).run s with
    | (.ok (), t) => exact ih t
    | (.error _, _) => rfl

end Effect

/-- Every run of `m`, normal or not, moves the state along `R`. -/
def Moves (R : σ → σ → Prop) (m : Effect σ ε α) : Prop := ∀ s, R s (m.run s).2

/-- Every run of `m`, normal or not, keeps `I`. -/
def Keeps (I : σ → Prop) (m : Effect σ ε α) : Prop := Moves (fun s t => I s → I t) m

section Rules

variable {R : σ → σ → Prop} {I : σ → Prop}

theorem moves_pure (hr : ∀ s, R s s) (a : α) : Moves R (pure a : Effect σ ε α) := hr

theorem moves_read (hr : ∀ s, R s s) : Moves R (Effect.read : Effect σ ε σ) := hr

theorem moves_ofExcept (hr : ∀ s, R s s) (r : Except ε α) :
    Moves R (Effect.ofExcept r : Effect σ ε α) := hr

theorem moves_update {f : σ → σ} (hf : ∀ s, R s (f s)) :
    Moves R (Effect.update f : Effect σ ε Unit) := hf

theorem moves_bind (ht : ∀ s t u, R s t → R t u → R s u) {m : Effect σ ε α}
    {k : α → Effect σ ε β} (hm : Moves R m) (hk : ∀ a, Moves R (k a)) : Moves R (m >>= k) := by
  intro s
  have h := hm s
  rw [Effect.bind_run]
  match hs : m.run s with
  | (.ok a, t) =>
    rw [hs] at h
    exact ht s t _ h (hk a t)
  | (.error e, t) =>
    rw [hs] at h
    exact h

theorem moves_each (hr : ∀ s, R s s) (ht : ∀ s t u, R s t → R t u → R s u)
    {f : α → Effect σ ε Unit} {xs : List α} (hf : ∀ x ∈ xs, Moves R (f x)) :
    Moves R (Effect.each f xs) := by
  induction xs with
  | nil => exact moves_pure hr ()
  | cons x xs ih =>
    apply moves_bind ht (hf x List.mem_cons_self)
    intro _
    exact ih fun y hy => hf y (List.mem_cons_of_mem x hy)

theorem keeps_bind {m : Effect σ ε α} {k : α → Effect σ ε β} (hm : Keeps I m)
    (hk : ∀ a, Keeps I (k a)) : Keeps I (m >>= k) :=
  moves_bind (R := fun s t => I s → I t) (fun _ _ _ hst htu hs => htu (hst hs)) hm hk

theorem keeps_outcome {m : Effect σ ε α} (h : Keeps I m) :
    Keeps I (Effect.outcome m : Effect σ ε' (Except ε α)) := h

theorem keeps_ensuring {m : Effect σ ε α} {cleanup : Effect σ ε Unit} (hm : Keeps I m)
    (hc : Keeps I cleanup) : Keeps I (Effect.ensuring m cleanup) :=
  keeps_bind (keeps_outcome hm) fun _ => keeps_bind hc fun _ _ hs => hs

theorem keeps_onRaise {m : Effect σ ε α} {cleanup : Effect σ ε Unit} (hm : Keeps I m)
    (hc : Keeps I cleanup) : Keeps I (Effect.onRaise m cleanup) := by
  apply keeps_bind (keeps_outcome hm)
  intro r
  cases r with
  | ok a => exact fun _ hs => hs
  | error e => exact keeps_bind hc fun _ _ hs => hs

theorem keeps_each {f : α → Effect σ ε Unit} {xs : List α} (hf : ∀ x ∈ xs, Keeps I (f x)) :
    Keeps I (Effect.each f xs) :=
  moves_each (R := fun s t => I s → I t) (fun _ h => h)
    (fun _ _ _ hst htu hs => htu (hst hs)) hf

end Rules

end Effects

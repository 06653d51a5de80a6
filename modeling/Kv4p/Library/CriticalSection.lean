import Kv4p.Library.Transition
import Mathlib.Logic.Function.Basic

/-! Threads over a state that one reentrant lock guards. When every access lies between taking and
giving back the lock, every interleaving of single accesses is one of whole locked sections. -/
namespace CriticalSections
open Transitions

variable {ι σ τ ε ρ α β : Type}

/-- What a thread still has to do: accesses to the guarded state and to its own, and calls to the
outside, which answers. -/
inductive Program (σ τ ε ρ α : Type)
  | done (result : α)
  | access (f : σ → σ) (k : σ → Program σ τ ε ρ α)
  | own (f : τ → τ) (k : τ → Program σ τ ε ρ α)
  | acquire (k : Program σ τ ε ρ α)
  | release (k : Program σ τ ε ρ α)
  | call (e : ε) (k : ρ → Program σ τ ε ρ α)

namespace Program

def bind : Program σ τ ε ρ α → (α → Program σ τ ε ρ β) → Program σ τ ε ρ β
  | done a, k => k a
  | access f g, k => access f fun s => (g s).bind k
  | own f g, k => own f fun t => (g t).bind k
  | acquire g, k => acquire (g.bind k)
  | release g, k => release (g.bind k)
  | call e g, k => call e fun r => (g r).bind k

instance : Monad (Program σ τ ε ρ) where
  pure := done
  bind := bind

def read (f : σ → β) : Program σ τ ε ρ β := access id fun s => done (f s)

def write (f : σ → σ) : Program σ τ ε ρ Unit := access f fun _ => done ()

def readOwn (f : τ → β) : Program σ τ ε ρ β := own id fun t => done (f t)

def writeOwn (f : τ → τ) : Program σ τ ε ρ Unit := own f fun _ => done ()

def take : Program σ τ ε ρ Unit := acquire (done ())

def give : Program σ τ ε ρ Unit := release (done ())

def ask (e : ε) : Program σ τ ε ρ ρ := call e done

/-- `with lock:` around a body that ends normally. -/
def locked (body : Program σ τ ε ρ α) : Program σ τ ε ρ α := do
  take
  let a ← body
  give
  pure a

def isDone : Program σ τ ε ρ α → Bool
  | done _ => true
  | _ => false

/-- The rest of a locked section in one piece, for a thread that took the lock `n` more times than
once: the states it leaves and what comes after it. -/
def finish : Program σ τ ε ρ α → ℕ → σ → τ → (σ × τ) × Program σ τ ε ρ α
  | done a, _, s, t => ((s, t), done a)
  | access f k, n, s, t => (k s).finish n (f s) t
  | own f k, n, s, t => (k t).finish n s (f t)
  | acquire k, n, s, t => k.finish (n+1) s t
  | release k, 0, s, t => ((s, t), k)
  | release k, n+1, s, t => k.finish n s t
  | call e k, _, s, t => ((s, t), call e k)

/-- What is left of a program after its next step. -/
inductive Next : Program σ τ ε ρ α → Program σ τ ε ρ α → Prop
  | access (f : σ → σ) (k : σ → Program σ τ ε ρ α) (s : σ) : Next (k s) (access f k)
  | own (f : τ → τ) (k : τ → Program σ τ ε ρ α) (t : τ) : Next (k t) (own f k)
  | acquire (k : Program σ τ ε ρ α) : Next k (acquire k)
  | release (k : Program σ τ ε ρ α) : Next k (release k)
  | call (e : ε) (k : ρ → Program σ τ ε ρ α) (r : ρ) : Next (k r) (call e k)

theorem next_wf : WellFounded (@Next σ τ ε ρ α) := by
  refine ⟨fun p => ?_⟩
  induction p with
  | done a => exact Acc.intro _ fun q h => by cases h
  | access f k ih =>
    refine Acc.intro _ fun q h => ?_
    cases h with
    | access f k s => exact ih s
  | own f k ih =>
    refine Acc.intro _ fun q h => ?_
    cases h with
    | own f k t => exact ih t
  | acquire k ih =>
    refine Acc.intro _ fun q h => ?_
    cases h with
    | acquire k => exact ih
  | release k ih =>
    refine Acc.intro _ fun q h => ?_
    cases h with
    | release k => exact ih
  | call e k ih =>
    refine Acc.intro _ fun q h => ?_
    cases h with
    | call e k r => exact ih r

/-- The guarded state is accessed with the lock held and calls are made without it, from `level` at
the start to `last` at the end. `none` is outside, `some n` as in `finish`. -/
def Leads (last : Option ℕ) : Program σ τ ε ρ α → (level : Option ℕ) → Prop
  | done _, level => level = last
  | access _ k, level => level ≠ none ∧ ∀ s, (k s).Leads last level
  | own _ k, level => ∀ t, (k t).Leads last level
  | acquire k, none => k.Leads last (some 0)
  | acquire k, some n => k.Leads last (some (n+1))
  | release _, none => False
  | release k, some 0 => k.Leads last none
  | release k, some (n+1) => k.Leads last (some n)
  | call _ k, level => level = none ∧ ∀ r, (k r).Leads last none

/-- A program that also ends outside the lock. -/
abbrev Disciplined (p : Program σ τ ε ρ α) (level : Option ℕ) : Prop := p.Leads none level

section Rules

variable {f : σ → β} {g : τ → β} {n : ℕ} {level next last : Option ℕ}

theorem leads_pure (a : α) : (pure a : Program σ τ ε ρ α).Leads level level := rfl

theorem leads_read : (read f : Program σ τ ε ρ β).Leads (some n) (some n) :=
  ⟨Option.some_ne_none n, fun _ => rfl⟩

theorem leads_write (f : σ → σ) : (write f : Program σ τ ε ρ Unit).Leads (some n) (some n) :=
  ⟨Option.some_ne_none n, fun _ => rfl⟩

theorem leads_readOwn : (readOwn g : Program σ τ ε ρ β).Leads level level := fun _ => rfl

theorem leads_writeOwn (g : τ → τ) : (writeOwn g : Program σ τ ε ρ Unit).Leads level level :=
  fun _ => rfl

theorem leads_take : (take : Program σ τ ε ρ Unit).Leads (some 0) none := rfl

theorem leads_give : (give : Program σ τ ε ρ Unit).Leads none (some 0) := rfl

theorem leads_ask (e : ε) : (ask e : Program σ τ ε ρ ρ).Leads none none := ⟨rfl, fun _ => rfl⟩

theorem leads_bind {p : Program σ τ ε ρ α} {k : α → Program σ τ ε ρ β} (hp : p.Leads next level)
    (hk : ∀ a, (k a).Leads last next) : (p >>= k).Leads last level := by
  change (p.bind k).Leads last level
  induction p generalizing level with
  | done a =>
    have hlevel : level = next := hp
    rw [hlevel]
    exact hk a
  | access f g ih => exact ⟨hp.1, fun s => ih s (hp.2 s)⟩
  | own f g ih => exact fun t => ih t (hp t)
  | acquire g ih =>
    cases level with
    | none => exact ih hp
    | some n => exact ih hp
  | release g ih =>
    cases level with
    | none => exact hp.elim
    | some n =>
      cases n with
      | zero => exact ih hp
      | succ n => exact ih hp
  | call e g ih => exact ⟨hp.1, fun r => ih r (hp.2 r)⟩

theorem leads_locked {body : Program σ τ ε ρ α} (h : body.Leads (some 0) (some 0)) :
    (locked body).Leads none none :=
  leads_bind leads_take fun _ => leads_bind h fun _ => leads_bind leads_give fun _ => leads_pure _

/-- A section comes to its end outside the lock. -/
theorem Leads.finish {p : Program σ τ ε ρ α} (h : p.Disciplined (some n)) (s : σ) (t : τ) :
    (p.finish n s t).2.Disciplined none := by
  induction p generalizing n s t with
  | done a => cases h
  | access f k ih => exact ih s (h.2 s) _ t
  | own f k ih => exact ih t (h t) s _
  | acquire k ih => exact ih h s t
  | release k ih =>
    cases n with
    | zero => exact h
    | succ n => exact ih h s t
  | call e k ih => cases h.1

/-- What follows a program that leaves the lock is not part of its section. -/
theorem finish_bind {p : Program σ τ ε ρ α} (h : p.Disciplined (some n))
    (k : α → Program σ τ ε ρ β) (s : σ) (t : τ) :
    (p.bind k).finish n s t = ((p.finish n s t).1, (p.finish n s t).2.bind k) := by
  induction p generalizing n s t with
  | done a => cases h
  | access f g ih => exact ih s (h.2 s) _ t
  | own f g ih => exact ih t (h t) s _
  | acquire g ih => exact ih h s t
  | release g ih =>
    cases n with
    | zero => rfl
    | succ n => exact ih h s t
  | call e g ih => cases h.1

end Rules

end Program

open Program

/-- All threads, the lock with its owner and how often more than once he took it, and the calls made
so far with their answers. -/
structure Config (ι σ τ ε ρ α : Type) where
  shared : σ
  own : ι → τ
  lock : Option (ι × ℕ)
  program : ι → Program σ τ ε ρ α
  log : List (ι × ε × ρ)

/-- A thread that has nothing to do starts a program, or a thread makes its next step, which the
outside answers if it is a call. -/
inductive Move (ι σ τ ε ρ α : Type)
  | start (thread : ι) (program : Program σ τ ε ρ α)
  | run (thread : ι) (answer : ρ)

namespace Move

def thread : Move ι σ τ ε ρ α → ι
  | start i _ => i
  | run i _ => i

/-- The programs that may be started. -/
def Starts (P : ι → Program σ τ ε ρ α → Prop) : Move ι σ τ ε ρ α → Prop
  | start i p => P i p
  | run _ _ => True

end Move

variable [DecidableEq ι]

namespace Config

/-- How deep a thread is in the lock. -/
def level (c : Config ι σ τ ε ρ α) (i : ι) : Option ℕ :=
  match c.lock with
  | none => none
  | some (j, n) => if j = i then some n else none

def setProgram (c : Config ι σ τ ε ρ α) (i : ι) (p : Program σ τ ε ρ α) : Config ι σ τ ε ρ α :=
  { c with program := Function.update c.program i p }

/-- A step that needs no lock: an access to the thread's own state, or a call. -/
def stepOutside (c : Config ι σ τ ε ρ α) (i : ι) (answer : ρ) : Option (Config ι σ τ ε ρ α) :=
  match c.program i with
  | .own f k =>
    some { c.setProgram i (k (c.own i)) with own := Function.update c.own i (f (c.own i)) }
  | .call e k => some { c.setProgram i (k answer) with log := c.log++[(i, e, answer)] }
  | _ => none

/-- One step of a thread, which has to wait for the lock while another one has it. -/
def advance (c : Config ι σ τ ε ρ α) (i : ι) (answer : ρ) : Option (Config ι σ τ ε ρ α) :=
  match c.program i with
  | .access f k => some { c.setProgram i (k c.shared) with shared := f c.shared }
  | .acquire k =>
    match c.lock with
    | none => some { c.setProgram i k with lock := some (i, 0) }
    | some (j, n) => if j = i then some { c.setProgram i k with lock := some (i, n+1) } else none
  | .release k =>
    match c.level i with
    | none => none
    | some 0 => some { c.setProgram i k with lock := none }
    | some (n+1) => some { c.setProgram i k with lock := some (i, n) }
  | _ => c.stepOutside i answer

def begin (c : Config ι σ τ ε ρ α) (i : ι) (p : Program σ τ ε ρ α) :
    Option (Config ι σ τ ε ρ α) :=
  if (c.program i).isDone then some (c.setProgram i p) else none

def step (c : Config ι σ τ ε ρ α) : Move ι σ τ ε ρ α → Option (Config ι σ τ ε ρ α)
  | .start i p => c.begin i p
  | .run i answer => c.advance i answer

/-- The rest of the section of thread `i` in one piece. -/
def finish (c : Config ι σ τ ε ρ α) (i : ι) (n : ℕ) (p : Program σ τ ε ρ α) :
    Config ι σ τ ε ρ α :=
  let r := p.finish n c.shared (c.own i)
  { c.setProgram i r.2 with shared := r.1.1, own := Function.update c.own i r.1.2, lock := none }

/-- The same threads, with every locked section in one piece. -/
def atomicStep (c : Config ι σ τ ε ρ α) : Move ι σ τ ε ρ α → Option (Config ι σ τ ε ρ α)
  | .start i p => c.begin i p
  | .run i answer =>
    match c.program i with
    | .acquire k => some (c.finish i 0 k)
    | _ => c.stepOutside i answer

/-- Where the threads are once the one in the lock has left it. -/
def settle (c : Config ι σ τ ε ρ α) : Config ι σ τ ε ρ α :=
  match c.lock with
  | none => c
  | some (i, n) => c.finish i n (c.program i)

/-- Every thread has a disciplined program ahead of it. -/
def Ok (c : Config ι σ τ ε ρ α) : Prop := ∀ i, (c.program i).Disciplined (c.level i)

theorem level_of_free {c : Config ι σ τ ε ρ α} (h : c.lock = none) (i : ι) : c.level i = none := by
  rw [level, h]

theorem level_eq_some {c : Config ι σ τ ε ρ α} {i : ι} {n : ℕ} :
    c.level i = some n ↔ c.lock = some (i, n) := by
  unfold level
  cases h : c.lock with
  | none => simp
  | some x =>
    obtain ⟨j, m⟩ := x
    by_cases hj : j = i
    · subst hj
      simp
    · simp [hj]

theorem level_eq_none {c : Config ι σ τ ε ρ α} {i : ι} :
    c.level i = none ↔ ∀ n, c.lock ≠ some (i, n) := by
  constructor
  · intro h n hn
    rw [level_eq_some.mpr hn] at h
    cases h
  · intro h
    cases hl : c.level i with
    | none => rfl
    | some n => exact absurd (level_eq_some.mp hl) (h n)

theorem stepOutside_cases {c d : Config ι σ τ ε ρ α} {i : ι} {answer : ρ}
    (h : c.stepOutside i answer = some d) :
    (∃ f k, c.program i = .own f k ∧
      d = { c.setProgram i (k (c.own i)) with own := Function.update c.own i (f (c.own i)) }) ∨
    (∃ e k, c.program i = .call e k ∧
      d = { c.setProgram i (k answer) with log := c.log++[(i, e, answer)] }) := by
  unfold stepOutside at h
  split at h
  · rename_i f k hp
    cases h
    exact Or.inl ⟨f, k, hp, rfl⟩
  · rename_i e k hp
    cases h
    exact Or.inr ⟨e, k, hp, rfl⟩
  · cases h

theorem advance_cases {c d : Config ι σ τ ε ρ α} {i : ι} {answer : ρ}
    (h : c.advance i answer = some d) :
    (∃ f k, c.program i = .access f k ∧
      d = { c.setProgram i (k c.shared) with shared := f c.shared }) ∨
    (∃ k, c.program i = .acquire k ∧
      (c.lock = none ∧ d = { c.setProgram i k with lock := some (i, 0) } ∨
        ∃ n, c.lock = some (i, n) ∧ d = { c.setProgram i k with lock := some (i, n+1) })) ∨
    (∃ k, c.program i = .release k ∧
      (c.lock = some (i, 0) ∧ d = { c.setProgram i k with lock := none } ∨
        ∃ n, c.lock = some (i, n+1) ∧ d = { c.setProgram i k with lock := some (i, n) })) ∨
    c.stepOutside i answer = some d := by
  unfold advance at h
  split at h
  · rename_i f k hp
    cases h
    exact Or.inl ⟨f, k, hp, rfl⟩
  · rename_i k hp
    refine Or.inr (Or.inl ⟨k, hp, ?_⟩)
    split at h
    · rename_i hfree
      cases h
      exact Or.inl ⟨hfree, rfl⟩
    · rename_i j n hheld
      split at h
      · rename_i hj
        subst hj
        cases h
        exact Or.inr ⟨n, hheld, rfl⟩
      · cases h
  · rename_i k hp
    refine Or.inr (Or.inr (Or.inl ⟨k, hp, ?_⟩))
    split at h
    · cases h
    · rename_i hl
      cases h
      exact Or.inl ⟨level_eq_some.mp hl, rfl⟩
    · rename_i n hl
      cases h
      exact Or.inr ⟨n, level_eq_some.mp hl, rfl⟩
  · exact Or.inr (Or.inr (Or.inr h))

theorem begin_eq_some {c d : Config ι σ τ ε ρ α} {i : ι} {p : Program σ τ ε ρ α} :
    c.begin i p = some d ↔ (∃ a, c.program i = .done a) ∧ d = c.setProgram i p := by
  unfold begin
  cases c.program i <;> simp [Program.isDone, eq_comm]

theorem program_setProgram (c : Config ι σ τ ε ρ α) (i : ι) (p : Program σ τ ε ρ α) :
    (c.setProgram i p).program i = p := by
  simp only [setProgram, Function.update_self]

theorem settle_of_free {c : Config ι σ τ ε ρ α} (h : c.lock = none) : c.settle = c := by
  rw [settle, h]

theorem settle_of_held {c : Config ι σ τ ε ρ α} {i : ι} {n : ℕ} (h : c.lock = some (i, n)) :
    c.settle = c.finish i n (c.program i) := by
  rw [settle, h]

/-- A step of another thread leaves a thread where it is. -/
theorem program_step_of_ne {c d : Config ι σ τ ε ρ α} {l : Move ι σ τ ε ρ α} {i : ι}
    (h : c.step l = some d) (hi : l.thread ≠ i) : d.program i = c.program i := by
  have hset (p : Program σ τ ε ρ α) : Function.update c.program l.thread p i = c.program i :=
    Function.update_of_ne (Ne.symm hi) _ _
  cases l with
  | start j p =>
    obtain ⟨_, rfl⟩ := begin_eq_some.mp h
    exact hset p
  | run j answer =>
    rcases advance_cases h with ⟨f, k, _, rfl⟩ | ⟨k, _, ⟨_, rfl⟩ | ⟨n, _, rfl⟩⟩ |
      ⟨k, _, ⟨_, rfl⟩ | ⟨n, _, rfl⟩⟩ | hout
    · exact hset _
    · exact hset k
    · exact hset k
    · exact hset k
    · exact hset k
    · rcases stepOutside_cases hout with ⟨f, k, _, rfl⟩ | ⟨e, k, _, rfl⟩
      · exact hset _
      · exact hset _

/-- Only a call is logged, and with the answer it gets. -/
theorem log_step {c d : Config ι σ τ ε ρ α} {l : Move ι σ τ ε ρ α} (h : c.step l = some d) :
    d.log = c.log ∨ ∃ e k answer, l = .run l.thread answer ∧ c.program l.thread = .call e k ∧
      d.log = c.log++[(l.thread, e, answer)] := by
  cases l with
  | start j p =>
    obtain ⟨_, rfl⟩ := begin_eq_some.mp h
    exact Or.inl rfl
  | run j answer =>
    rcases advance_cases h with ⟨f, k, _, rfl⟩ | ⟨k, _, ⟨_, rfl⟩ | ⟨n, _, rfl⟩⟩ |
      ⟨k, _, ⟨_, rfl⟩ | ⟨n, _, rfl⟩⟩ | hout
    · exact Or.inl rfl
    · exact Or.inl rfl
    · exact Or.inl rfl
    · exact Or.inl rfl
    · exact Or.inl rfl
    · rcases stepOutside_cases hout with ⟨f, k, _, rfl⟩ | ⟨e, k, hp, rfl⟩
      · exact Or.inl rfl
      · exact Or.inr ⟨e, k, answer, rfl, hp, rfl⟩

theorem Ok.of_program {c : Config ι σ τ ε ρ α} (hc : c.Ok) {i : ι} {p : Program σ τ ε ρ α}
    (hp : c.program i = p) : p.Disciplined (c.level i) := by
  rw [← hp]
  exact hc i

/-- A step changes one program, and the depth in the lock of no other thread. -/
theorem ok_of_update {c d : Config ι σ τ ε ρ α} {i : ι} {p : Program σ τ ε ρ α}
    (hc : c.Ok) (hprogram : d.program = Function.update c.program i p)
    (hp : p.Disciplined (d.level i)) (hothers : ∀ j, j ≠ i → d.level j = c.level j) : d.Ok := by
  intro j
  by_cases hj : j = i
  · subst hj
    rw [hprogram, Function.update_self]
    exact hp
  · rw [hprogram, Function.update_of_ne hj, hothers j hj]
    exact hc j

theorem level_of_held {c : Config ι σ τ ε ρ α} {i j : ι} {n : ℕ} (h : c.lock = some (i, n))
    (hj : j ≠ i) : c.level j = none := by
  apply level_eq_none.mpr
  intro m hm
  rw [h] at hm
  cases hm
  exact hj rfl

/-- A thread that is not in the lock can start a disciplined program. -/
theorem ok_begin {c d : Config ι σ τ ε ρ α} {i : ι} {p : Program σ τ ε ρ α} (hc : c.Ok)
    (hp : p.Disciplined none) (h : c.begin i p = some d) : d.Ok := by
  obtain ⟨⟨a, ha⟩, rfl⟩ := begin_eq_some.mp h
  have hlevel : c.level i = none := hc.of_program ha
  refine ok_of_update hc rfl ?_ fun _ _ => rfl
  change p.Disciplined (c.level i)
  rwa [hlevel]

theorem ok_stepOutside {c d : Config ι σ τ ε ρ α} {i : ι} {answer : ρ} (hc : c.Ok)
    (h : c.stepOutside i answer = some d) : d.Ok := by
  rcases stepOutside_cases h with ⟨f, k, hp, rfl⟩ | ⟨e, k, hp, rfl⟩
  · exact ok_of_update hc rfl (hc.of_program hp (c.own i)) fun _ _ => rfl
  · have hi := hc.of_program hp
    refine ok_of_update hc rfl ?_ fun _ _ => rfl
    change (k answer).Disciplined (c.level i)
    rw [hi.1]
    exact hi.2 answer

theorem ok_advance {c d : Config ι σ τ ε ρ α} {i : ι} {answer : ρ} (hc : c.Ok)
    (h : c.advance i answer = some d) : d.Ok := by
  rcases advance_cases h with ⟨f, k, hp, rfl⟩ | ⟨k, hp, hl⟩ | ⟨k, hp, hl⟩ | hout
  · exact ok_of_update hc rfl ((hc.of_program hp).2 c.shared) fun _ _ => rfl
  · have hi := hc.of_program hp
    rcases hl with ⟨hfree, rfl⟩ | ⟨n, hheld, rfl⟩
    · rw [level_of_free hfree] at hi
      refine ok_of_update hc rfl ?_ fun j hj => ?_
      · rw [level_eq_some.mpr rfl]
        exact hi
      · rw [level_of_held rfl hj, level_of_free hfree]
    · rw [level_eq_some.mpr hheld] at hi
      refine ok_of_update hc rfl ?_ fun j hj => ?_
      · rw [level_eq_some.mpr rfl]
        exact hi
      · rw [level_of_held rfl hj, level_of_held hheld hj]
  · have hi := hc.of_program hp
    rcases hl with ⟨hheld, rfl⟩ | ⟨n, hheld, rfl⟩
    · rw [level_eq_some.mpr hheld] at hi
      refine ok_of_update hc rfl ?_ fun j hj => ?_
      · rw [level_of_free rfl]
        exact hi
      · rw [level_of_free rfl, level_of_held hheld hj]
    · rw [level_eq_some.mpr hheld] at hi
      refine ok_of_update hc rfl ?_ fun j hj => ?_
      · rw [level_eq_some.mpr rfl]
        exact hi
      · rw [level_of_held rfl hj, level_of_held hheld hj]
  · exact ok_stepOutside hc hout

theorem program_finish_of_ne (c : Config ι σ τ ε ρ α) {i j : ι} (h : i ≠ j) (n : ℕ)
    (q : Program σ τ ε ρ α) : (c.finish j n q).program i = c.program i :=
  Function.update_of_ne h _ _

/-- What a thread does outside the lock commutes with the rest of another one's section. -/
theorem stepOutside_finish {c d : Config ι σ τ ε ρ α} {i j : ι} {n : ℕ} {answer : ρ} (hij : i ≠ j)
    (h : c.stepOutside i answer = some d) :
    (c.finish j n (c.program j)).stepOutside i answer = some (d.finish j n (d.program j)) := by
  have hj : j ≠ i := hij.symm
  rcases stepOutside_cases h with ⟨f, k, hp, rfl⟩ | ⟨e, k, hp, rfl⟩
  · rw [stepOutside, program_finish_of_ne c hij, hp]
    simp only [finish, setProgram, Function.update_of_ne hij, Function.update_of_ne hj,
      Function.update_comm hij]
  · rw [stepOutside, program_finish_of_ne c hij, hp]
    simp only [finish, setProgram, Function.update_of_ne hj, Function.update_comm hij]

theorem begin_finish {c d : Config ι σ τ ε ρ α} {i j : ι} {n : ℕ} {p : Program σ τ ε ρ α}
    (hij : i ≠ j) (h : c.begin i p = some d) :
    (c.finish j n (c.program j)).begin i p = some (d.finish j n (d.program j)) := by
  obtain ⟨ha, rfl⟩ := begin_eq_some.mp h
  apply begin_eq_some.mpr
  rw [program_finish_of_ne c hij]
  refine ⟨ha, ?_⟩
  simp only [finish, setProgram, Function.update_of_ne hij.symm, Function.update_comm hij]

/-- A step adds calls of its own thread to the log. -/
theorem log_atomicStep {c d : Config ι σ τ ε ρ α} {l : Move ι σ τ ε ρ α}
    (h : c.atomicStep l = some d) :
    ∃ calls, d.log = c.log++calls ∧ ∀ x ∈ calls, x.1 = l.thread := by
  have hnothing : ∃ calls, c.log = c.log++calls ∧ ∀ x ∈ calls, x.1 = l.thread :=
    ⟨[], (List.append_nil _).symm, fun _ hx => (List.not_mem_nil hx).elim⟩
  cases l with
  | start j p =>
    obtain ⟨_, rfl⟩ := begin_eq_some.mp h
    exact hnothing
  | run j answer =>
    rw [atomicStep] at h
    split at h
    · cases h
      exact hnothing
    · rcases stepOutside_cases h with ⟨f, k, _, rfl⟩ | ⟨e, k, _, rfl⟩
      · exact hnothing
      · refine ⟨[(j, e, answer)], rfl, ?_⟩
        intro x hx
        rw [List.mem_singleton.mp hx]
        rfl

/-- An atomic step of another thread leaves a thread where it is. -/
theorem program_atomicStep_of_ne {c d : Config ι σ τ ε ρ α} {l : Move ι σ τ ε ρ α} {i : ι}
    (h : c.atomicStep l = some d) (hi : l.thread ≠ i) : d.program i = c.program i := by
  cases l with
  | start j p =>
    obtain ⟨_, rfl⟩ := begin_eq_some.mp h
    exact Function.update_of_ne (Ne.symm hi) _ _
  | run j answer =>
    rw [atomicStep] at h
    split at h
    · cases h
      exact program_finish_of_ne c (Ne.symm hi) 0 _
    · rcases stepOutside_cases h with ⟨f, k, _, rfl⟩ | ⟨e, k, _, rfl⟩
      · exact Function.update_of_ne (Ne.symm hi) _ _
      · exact Function.update_of_ne (Ne.symm hi) _ _

/-- A step inside a section changes nothing for the atomic threads. -/
theorem settle_inside {c d : Config ι σ τ ε ρ α} {i : ι} {n : ℕ} {answer : ρ} (hc : c.Ok)
    (hheld : c.lock = some (i, n)) (h : c.advance i answer = some d) : d.settle = c.settle := by
  rw [settle_of_held hheld]
  rcases advance_cases h with ⟨f, k, hp, hd⟩ | ⟨k, hp, hl⟩ | ⟨k, hp, hl⟩ | hout
  · have hlock : d.lock = some (i, n) := by rw [hd, ← hheld]; rfl
    rw [settle_of_held hlock, hd, hp]
    simp [finish, setProgram, Program.finish]
  · rcases hl with ⟨hfree, _⟩ | ⟨m, hm, rfl⟩
    · rw [hfree] at hheld
      cases hheld
    · rw [hm] at hheld
      cases hheld
      rw [settle_of_held rfl, hp]
      simp [finish, setProgram, Program.finish]
  · rcases hl with ⟨hm, rfl⟩ | ⟨m, hm, rfl⟩
    · rw [hm] at hheld
      cases hheld
      rw [settle_of_free rfl, hp]
      simp [finish, setProgram, Program.finish]
    · rw [hm] at hheld
      cases hheld
      rw [settle_of_held rfl, hp]
      simp [finish, setProgram, Program.finish]
  · rcases stepOutside_cases hout with ⟨f, k, hp, hd⟩ | ⟨e, k, hp, _⟩
    · have hlock : d.lock = some (i, n) := by rw [hd, ← hheld]; rfl
      rw [settle_of_held hlock, hd, hp]
      simp [finish, setProgram, Program.finish]
    · -- Discipline: no call from inside the lock.
      have hin := (hc.of_program hp).1
      rw [level_eq_some.mpr hheld] at hin
      cases hin

/-- A step outside every section, and one that enters a section, is a step of the atomic threads. -/
theorem settle_outside {c d : Config ι σ τ ε ρ α} {i : ι} {answer : ρ} (hc : c.Ok)
    (hout : c.level i = none) (h : c.advance i answer = some d) :
    c.settle.atomicStep (.run i answer) = some d.settle := by
  have hnot (n : ℕ) : c.lock ≠ some (i, n) := level_eq_none.mp hout n
  rcases advance_cases h with ⟨f, k, hp, rfl⟩ | ⟨k, hp, hl⟩ | ⟨k, hp, hl⟩ | hstep
  · -- Discipline: no access from outside the lock.
    exact absurd hout (hc.of_program hp).1
  · rcases hl with ⟨hfree, rfl⟩ | ⟨m, hm, _⟩
    · rw [settle_of_free hfree, atomicStep, hp, settle_of_held rfl]
      simp [finish, setProgram]
    · exact absurd hm (hnot m)
  · rcases hl with ⟨hm, _⟩ | ⟨m, hm, _⟩
    · exact absurd hm (hnot 0)
    · exact absurd hm (hnot (m+1))
  · have houtside : ∀ e : Config ι σ τ ε ρ α, e.stepOutside i answer = some d.settle →
        e.atomicStep (.run i answer) = some d.settle := by
      intro e he
      rw [atomicStep]
      split
      · rename_i k hp
        rw [stepOutside, hp] at he
        cases he
      · exact he
    have hlock : d.lock = c.lock := by
      rcases stepOutside_cases hstep with ⟨f, k, _, rfl⟩ | ⟨e, k, _, rfl⟩ <;> rfl
    apply houtside
    cases hl : c.lock with
    | none =>
      rw [settle_of_free hl, settle_of_free (hlock.trans hl)]
      exact hstep
    | some x =>
      obtain ⟨j, n⟩ := x
      have hij : i ≠ j := by
        rintro rfl
        exact hnot n hl
      rw [settle_of_held hl, settle_of_held (hlock.trans hl)]
      exact stepOutside_finish hij hstep

/-- Every step of the threads is a step of the atomic ones, or none. -/
theorem step_settles {c d : Config ι σ τ ε ρ α} {l : Move ι σ τ ε ρ α} (hc : c.Ok)
    (h : c.step l = some d) : d.settle = c.settle ∨ c.settle.atomicStep l = some d.settle := by
  cases l with
  | run i answer =>
    cases hl : c.level i with
    | some n => exact Or.inl (settle_inside hc (level_eq_some.mp hl) h)
    | none => exact Or.inr (settle_outside hc hl h)
  | start i p =>
    right
    obtain ⟨⟨a, ha⟩, rfl⟩ := begin_eq_some.mp h
    have hout : c.level i = none := hc.of_program ha
    cases hl : c.lock with
    | none =>
      have hlock : (c.setProgram i p).lock = none := hl
      rw [settle_of_free hl, settle_of_free hlock]
      exact h
    | some x =>
      obtain ⟨j, n⟩ := x
      have hlock : (c.setProgram i p).lock = some (j, n) := hl
      have hij : i ≠ j := by
        rintro rfl
        exact level_eq_none.mp hout n hl
      rw [settle_of_held hl, settle_of_held hlock]
      exact begin_finish hij h

theorem log_settle (c : Config ι σ τ ε ρ α) : c.settle.log = c.log := by
  unfold settle
  split <;> rfl

/-- A thread that is about to make a call is not in the lock. -/
theorem level_of_call {c : Config ι σ τ ε ρ α} (hc : c.Ok) {i : ι} {e : ε}
    {k : ρ → Program σ τ ε ρ α} (hp : c.program i = .call e k) : c.level i = none :=
  (hc.of_program hp).1

theorem level_of_done {c : Config ι σ τ ε ρ α} (hc : c.Ok) {i : ι}
    (h : (c.program i).isDone = true) : c.level i = none := by
  cases hp : c.program i with
  | done a => exact hc.of_program hp
  | access | own | acquire | release | call =>
    rw [hp] at h
    cases h

/-- A thread that is not in the lock stays where it is when the others settle. -/
theorem program_settle {c : Config ι σ τ ε ρ α} {i : ι} (hout : c.level i = none) :
    c.settle.program i = c.program i := by
  unfold settle
  split
  · rfl
  · rename_i j n hl
    have hij : i ≠ j := by
      rintro rfl
      exact level_eq_none.mp hout n hl
    exact program_finish_of_ne c hij n _

/-- The programs that a run may start are disciplined. -/
abbrev Starting (P : ι → Program σ τ ε ρ α → Prop) (ls : List (Move ι σ τ ε ρ α)) : Prop :=
  ∀ l ∈ ls, l.Starts P

theorem ok_step {c d : Config ι σ τ ε ρ α} {l : Move ι σ τ ε ρ α}
    (hl : l.Starts fun _ p => p.Disciplined none) (hc : c.Ok) (h : c.step l = some d) : d.Ok := by
  cases l with
  | start i p => exact ok_begin hc hl h
  | run i answer => exact ok_advance hc h

theorem ok_run {c d : Config ι σ τ ε ρ α} {ls : List (Move ι σ τ ε ρ α)}
    (hls : Starting (fun _ p => p.Disciplined none) ls) (hc : c.Ok) (h : run step c ls = some d) :
    d.Ok :=
  run_invariant_of (fun _ _ _ hl hc hs => ok_step hl hc hs) hls hc h

/-- Every interleaving of single accesses is one of whole sections: some of its moves, in the same
order, take the atomic threads to where the threads are once the lock is free. -/
theorem run_settles {c d : Config ι σ τ ε ρ α} {ls : List (Move ι σ τ ε ρ α)}
    (hls : Starting (fun _ p => p.Disciplined none) ls) (hc : c.Ok) (h : run step c ls = some d) :
    ∃ ms, ms.Sublist ls ∧ run atomicStep c.settle ms = some d.settle := by
  have hsim := run_history (P := fun _ l => l.Starts fun _ p => p.Disciplined none)
    (I := fun past e => e.Ok ∧ ∃ ms, ms.Sublist past ∧ run atomicStep c.settle ms = some e.settle)
    ?_ [] (along_of_forall fun l hl _ => hls l hl) ⟨hc, [], List.Sublist.refl _, run_nil.mpr rfl⟩ h
  · exact hsim.2
  · rintro past e l f hl ⟨he, ms, hsub, hms⟩ hstep
    refine ⟨ok_step hl he hstep, ?_⟩
    rcases step_settles he hstep with hsame | hatomic
    · rw [hsame]
      exact ⟨ms, hsub.trans (List.sublist_append_left past [l]), hms⟩
    · exact ⟨ms++[l], hsub.append (List.Sublist.refl [l]),
        run_append.mpr ⟨_, hms, run_singleton.mpr hatomic⟩⟩

/-- A step leaves a smaller program. -/
theorem next_step {c d : Config ι σ τ ε ρ α} {i : ι} {answer : ρ}
    (h : c.step (.run i answer) = some d) : Next (d.program i) (c.program i) := by
  have hset {p q : Program σ τ ε ρ α} (hnext : Next p q) :
      Next (Function.update c.program i p i) q := by
    rwa [Function.update_self]
  rcases advance_cases h with ⟨f, k, hp, rfl⟩ | ⟨k, hp, ⟨_, rfl⟩ | ⟨n, _, rfl⟩⟩ |
    ⟨k, hp, ⟨_, rfl⟩ | ⟨n, _, rfl⟩⟩ | hout
  · rw [hp]
    exact hset (.access f k c.shared)
  · rw [hp]
    exact hset (.acquire k)
  · rw [hp]
    exact hset (.acquire k)
  · rw [hp]
    exact hset (.release k)
  · rw [hp]
    exact hset (.release k)
  · rcases stepOutside_cases hout with ⟨f, k, hp, rfl⟩ | ⟨e, k, hp, rfl⟩
    · rw [hp]
      exact hset (.own f k (c.own i))
    · rw [hp]
      exact hset (.call e k answer)

/-- Who has the lock after a step had it before or made the step. -/
theorem lock_step {c d : Config ι σ τ ε ρ α} {l : Move ι σ τ ε ρ α} {j : ι} {n : ℕ}
    (h : c.step l = some d) (hd : d.lock = some (j, n)) :
    j = l.thread ∨ c.lock = some (j, n) := by
  cases l with
  | start i p =>
    obtain ⟨_, rfl⟩ := begin_eq_some.mp h
    exact Or.inr hd
  | run i answer =>
    rcases advance_cases h with ⟨f, k, _, rfl⟩ | ⟨k, _, ⟨_, rfl⟩ | ⟨m, _, rfl⟩⟩ |
      ⟨k, _, ⟨_, rfl⟩ | ⟨m, _, rfl⟩⟩ | hout
    · exact Or.inr hd
    · cases hd
      exact Or.inl rfl
    · cases hd
      exact Or.inl rfl
    · cases hd
    · cases hd
      exact Or.inl rfl
    · rcases stepOutside_cases hout with ⟨f, k, _, rfl⟩ | ⟨e, k, _, rfl⟩
      · exact Or.inr hd
      · exact Or.inr hd

/-- A thread that nobody keeps out of the lock can make its next step. -/
theorem advance_alone (answer : ρ) {c : Config ι σ τ ε ρ α} (hc : c.Ok) {i : ι}
    (hlock : ∀ j n, c.lock = some (j, n) → j = i) (hmore : ¬(c.program i).isDone = true) :
    ∃ d, c.step (.run i answer) = some d := by
  change ∃ d, c.advance i answer = some d
  cases hp : c.program i with
  | done a =>
    rw [hp] at hmore
    exact absurd rfl hmore
  | access f k => exact ⟨_, by rw [advance, hp]⟩
  | own f k => exact ⟨_, by rw [advance, hp, stepOutside, hp]⟩
  | call e k => exact ⟨_, by rw [advance, hp, stepOutside, hp]⟩
  | acquire k =>
    cases hl : c.lock with
    | none => exact ⟨_, by rw [advance, hp, hl]⟩
    | some x =>
      obtain ⟨j, n⟩ := x
      obtain rfl := hlock j n hl
      exact ⟨_, by rw [advance, hp, hl]; exact if_pos rfl⟩
  | release k =>
    have hi := hc.of_program hp
    cases hl : c.level i with
    | none =>
      rw [hl] at hi
      exact hi.elim
    | some n =>
      cases n with
      | zero => exact ⟨_, by rw [advance, hp, hl]⟩
      | succ n => exact ⟨_, by rw [advance, hp, hl]⟩

/-- A thread that has nothing more to do does not hold the lock. -/
theorem lock_of_done {c : Config ι σ τ ε ρ α} (hc : c.Ok) {i : ι}
    (hlock : ∀ j n, c.lock = some (j, n) → j = i) (hdone : (c.program i).isDone = true) :
    c.lock = none := by
  cases hl : c.lock with
  | none => rfl
  | some x =>
    obtain ⟨j, n⟩ := x
    obtain rfl := hlock j n hl
    exact absurd hl (level_eq_none.mp (level_of_done hc hdone) n)

/-- A thread that nobody keeps out of the lock comes to the end of its program, alone, and leaves the
lock free. -/
theorem completes_alone (answer : ρ) {c : Config ι σ τ ε ρ α} (hc : c.Ok) {i : ι}
    (hlock : ∀ j n, c.lock = some (j, n) → j = i) :
    ∃ ms d, (∀ l ∈ ms, l = .run i answer) ∧ run step c ms = some d ∧ d.lock = none ∧
      (d.program i).isDone = true := by
  have hcloser (c : Config ι σ τ ε ρ α) (hc : c.Ok ∧ ∀ j n, c.lock = some (j, n) → j = i)
      (hmore : ¬(c.program i).isDone = true) : ∃ ms d, (∀ l ∈ ms, l = .run i answer) ∧
      run step c ms = some d ∧ (d.Ok ∧ ∀ j n, d.lock = some (j, n) → j = i) ∧
      Next (d.program i) (c.program i) := by
    obtain ⟨d, hstep⟩ := advance_alone answer hc.1 hc.2 hmore
    exact ⟨[.run i answer], d, fun l hl => List.mem_singleton.mp hl, run_singleton.mpr hstep,
      ⟨ok_advance hc.1 hstep, fun j n hd => (lock_step hstep hd).elim id (hc.2 j n)⟩,
      next_step hstep⟩
  obtain ⟨ms, d, hms, hrun, ⟨hd, hfree⟩, hdone⟩ :=
    run_reaches next_wf (fun c : Config ι σ τ ε ρ α => c.program i) hcloser ⟨hc, hlock⟩
  exact ⟨ms, d, hms, hrun, lock_of_done hd hfree hdone, hdone⟩

/-- Whatever the threads are doing, every one of them can be brought to the end of its program by
steps of its own and of the thread that is in the lock. -/
theorem completes (answer : ρ) {c : Config ι σ τ ε ρ α} (hc : c.Ok) (i : ι) :
    ∃ ms d, (∀ l ∈ ms, ∃ j, l = .run j answer ∧ (j = i ∨ ∃ n, c.lock = some (j, n))) ∧
      run step c ms = some d ∧ d.lock = none ∧ (d.program i).isDone = true := by
  cases hl : c.lock with
  | none =>
    obtain ⟨ms, d, hms, hd⟩ := completes_alone answer hc (i := i) fun j n h => by
      rw [hl] at h
      cases h
    exact ⟨ms, d, fun l hl => ⟨i, hms l hl, Or.inl rfl⟩, hd⟩
  | some x =>
    obtain ⟨j, n⟩ := x
    obtain ⟨ms, d, hms, hrun, hfree, _⟩ := completes_alone answer hc (i := j) fun k m h => by
      rw [hl] at h
      cases h
      rfl
    have hd : d.Ok := by
      refine ok_run ?_ hc hrun
      intro l hl
      rw [hms l hl]
      trivial
    obtain ⟨ns, e, hns, hrun', he⟩ := completes_alone answer hd (i := i) fun k m h => by
      rw [hfree] at h
      cases h
    refine ⟨ms++ns, e, ?_, run_append.mpr ⟨d, hrun, hrun'⟩, he⟩
    intro l hl
    rcases List.mem_append.mp hl with hl | hl
    · exact ⟨j, hms l hl, Or.inr ⟨n, rfl⟩⟩
    · exact ⟨i, hns l hl, Or.inl rfl⟩

end Config

end CriticalSections

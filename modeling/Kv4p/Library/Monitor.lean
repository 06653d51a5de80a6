import Kv4p.Library.Transition

/-! A monitor: data under a lock, requests that wait on its condition until they can be served, and
changes that notify everybody who waits. A waiting request may wake up for no reason, and its time
may run out at any moment. -/
namespace Monitors
open Transitions

variable {σ ρ κ : Type}

/-- `serve` has no value where the request has to wait. -/
structure Service (σ ρ κ : Type) where
  serve : σ → ρ → Option σ
  change : κ → σ → σ

/-- A request inside its wait. One that is not asleep has been notified, or has woken up on its own,
and is about to take the lock again. -/
structure Waiter (ρ : Type) where
  thread : ℕ
  request : ρ
  asleep : Bool
deriving DecidableEq

inductive Event (ρ κ : Type)
  | changed (k : κ)
  | returned (thread : ℕ) (request : ρ) (served : Bool)
deriving DecidableEq

structure Monitor (σ ρ κ : Type) where
  data : σ
  waiting : List (Waiter ρ)
  log : List (Event ρ κ)
deriving DecidableEq

/-- What may happen next. `expired` says what the clock shows when a request cannot be served. -/
inductive Action (ρ κ : Type)
  | enter (thread : ℕ) (request : ρ) (expired : Bool)
  | wake (thread : ℕ)
  | resume (thread : ℕ) (expired : Bool)
  | change (k : κ)
deriving DecidableEq

namespace Monitor

def start (data : σ) : Monitor σ ρ κ := ⟨data, [], []⟩

def find (m : Monitor σ ρ κ) (thread : ℕ) : Option (Waiter ρ) :=
  m.waiting.find? (·.thread == thread)

/-- The waiters of all other threads. -/
def others (m : Monitor σ ρ κ) (thread : ℕ) : List (Waiter ρ) :=
  m.waiting.filter (·.thread != thread)

end Monitor

def Waiter.awaken (w : Waiter ρ) : Waiter ρ := { w with asleep := false }

variable (M : Service σ ρ κ)

namespace Service

/-- One turn of the loop of a request with the lock held: it is served, or gives up if its time is
over, or goes to sleep. -/
def turn (m : Monitor σ ρ κ) (thread : ℕ) (request : ρ) (expired : Bool) : Monitor σ ρ κ :=
  match M.serve m.data request with
  | some data => ⟨data, m.others thread, m.log++[.returned thread request true]⟩
  | none =>
    if expired then ⟨m.data, m.others thread, m.log++[.returned thread request false]⟩
    else { m with waiting := ⟨thread, request, true⟩ :: m.others thread }

def step (m : Monitor σ ρ κ) : Action ρ κ → Option (Monitor σ ρ κ)
  | .enter thread request expired =>
    if (m.find thread).isSome then none else some (M.turn m thread request expired)
  | .wake thread =>
    match m.find thread with
    | some ⟨_, request, true⟩ =>
      some { m with waiting := ⟨thread, request, false⟩ :: m.others thread }
    | _ => none
  | .resume thread expired =>
    match m.find thread with
    | some ⟨_, request, false⟩ => some (M.turn m thread request expired)
    | _ => none
  | .change k =>
    some ⟨M.change k m.data, m.waiting.map Waiter.awaken, m.log++[.changed k]⟩

variable {M}

theorem turn_cases (m : Monitor σ ρ κ) (thread : ℕ) (request : ρ) (expired : Bool) :
    (∃ data, M.serve m.data request = some data ∧ M.turn m thread request expired =
      ⟨data, m.others thread, m.log++[.returned thread request true]⟩) ∨
    (M.serve m.data request = none ∧ expired = true ∧ M.turn m thread request expired =
      ⟨m.data, m.others thread, m.log++[.returned thread request false]⟩) ∨
    (M.serve m.data request = none ∧ expired = false ∧ M.turn m thread request expired =
      { m with waiting := ⟨thread, request, true⟩ :: m.others thread }) := by
  unfold turn
  cases hs : M.serve m.data request with
  | some data => exact Or.inl ⟨data, rfl, rfl⟩
  | none =>
    cases expired with
    | true => exact Or.inr (Or.inl ⟨rfl, rfl, rfl⟩)
    | false => exact Or.inr (Or.inr ⟨rfl, rfl, rfl⟩)

/-- Every action is a turn of a request, or a wake-up, or a change. -/
theorem step_cases {m t : Monitor σ ρ κ} {a : Action ρ κ} (h : M.step m a = some t) :
    (∃ thread request expired, t = M.turn m thread request expired ∧
      (a = .enter thread request expired ∧ m.find thread = none ∨
        a = .resume thread expired ∧ ∃ w, m.find thread = some w ∧ w.request = request)) ∨
    (∃ thread w, a = .wake thread ∧ m.find thread = some w ∧
      t = { m with waiting := ⟨thread, w.request, false⟩ :: m.others thread }) ∨
    (∃ k, a = .change k ∧
      t = ⟨M.change k m.data, m.waiting.map Waiter.awaken, m.log++[.changed k]⟩) := by
  cases a with
  | enter thread request expired =>
    rw [step] at h
    split at h
    · cases h
    · rename_i hnone
      cases h
      exact Or.inl ⟨thread, request, expired, rfl, Or.inl ⟨rfl, by simpa using hnone⟩⟩
  | wake thread =>
    rw [step] at h
    split at h
    · rename_i hfind
      cases h
      exact Or.inr (Or.inl ⟨thread, _, rfl, hfind, rfl⟩)
    · cases h
  | resume thread expired =>
    rw [step] at h
    split at h
    · rename_i hfind
      cases h
      exact Or.inl ⟨thread, _, expired, rfl, Or.inr ⟨rfl, _, hfind, rfl⟩⟩
    · cases h
  | change k =>
    cases h
    exact Or.inr (Or.inr ⟨k, rfl, rfl⟩)

theorem mem_others {m : Monitor σ ρ κ} {thread : ℕ} {w : Waiter ρ} (h : w ∈ m.others thread) :
    w ∈ m.waiting :=
  List.mem_of_mem_filter h

/-- Giving up is the answer only to a request that cannot be served, and changes nothing. -/
theorem data_of_refused {m t : Monitor σ ρ κ} {a : Action ρ κ} (h : M.step m a = some t)
    {thread : ℕ} {request : ρ} (hlog : t.log = m.log++[.returned thread request false]) :
    M.serve m.data request = none ∧ t.data = m.data := by
  rcases step_cases h with ⟨thread', request', expired, ht, _⟩ | ⟨_, _, _, _, rfl⟩ | ⟨k, _, rfl⟩
  · rcases turn_cases m thread' request' expired with ⟨data, _, hturn⟩ | ⟨hs, _, hturn⟩ |
      ⟨_, _, hturn⟩
    all_goals rw [ht, hturn] at hlog ⊢
    · simp at hlog
    · simp only [List.append_cancel_left_eq, List.cons.injEq, Event.returned.injEq, and_true] at hlog
      rw [← hlog.2]
      exact ⟨hs, rfl⟩
    · simp at hlog
  · simp at hlog
  · simp at hlog

variable {A : Type}

/-- `value` of the data can be kept up from the events alone, by `entry`. -/
structure Accounts (M : Service σ ρ κ) (value : σ → A) (entry : A → Event ρ κ → A) : Prop where
  served : ∀ data data' thread request, M.serve data request = some data' →
    value data' = entry (value data) (.returned thread request true)
  refused : ∀ data thread request, value data = entry (value data) (.returned thread request false)
  changed : ∀ data k, value (M.change k data) = entry (value data) (.changed k)

theorem Accounts.step {value : σ → A} {entry : A → Event ρ κ → A} (hv : Accounts M value entry)
    {m t : Monitor σ ρ κ} {a : Action ρ κ} {start : A} (hI : value m.data = m.log.foldl entry start)
    (h : M.step m a = some t) : value t.data = t.log.foldl entry start := by
  rcases step_cases h with ⟨thread, request, expired, ht, _⟩ | ⟨_, _, _, _, rfl⟩ | ⟨k, _, rfl⟩
  · rcases turn_cases m thread request expired with ⟨data, hs, hturn⟩ | ⟨_, _, hturn⟩ |
      ⟨_, _, hturn⟩
    all_goals rw [ht, hturn]
    · rw [List.foldl_append, ← hI]
      exact hv.served m.data data thread request hs
    · rw [List.foldl_append, ← hI]
      exact hv.refused m.data thread request
    · exact hI
  · exact hI
  · rw [List.foldl_append, ← hI]
    exact hv.changed m.data k

/-- In every run the value of the data is what the log says. -/
theorem Accounts.run {value : σ → A} {entry : A → Event ρ κ → A} (hv : Accounts M value entry)
    {data : σ} {m : Monitor σ ρ κ} {as : List (Action ρ κ)}
    (h : run M.step (Monitor.start data) as = some m) :
    value m.data = m.log.foldl entry (value data) :=
  run_invariant (I := fun m => value m.data = m.log.foldl entry (value data))
    (fun _ _ _ hI hs => hv.step hI hs) rfl h

/-- No request that could be served is asleep. -/
def NoneOverslept (M : Service σ ρ κ) (m : Monitor σ ρ κ) : Prop :=
  ∀ w ∈ m.waiting, w.asleep = true → M.serve m.data w.request = none

/-- Requests that satisfy `P` take: serving one of them never makes room for one that waits. -/
def Takes (M : Service σ ρ κ) (P : ρ → Prop) : Prop :=
  ∀ data data' r r', P r → M.serve data r = some data' → M.serve data r' = none →
    M.serve data' r' = none

/-- The requests in an action and in the wait satisfy `P`. -/
def Action.Of (P : ρ → Prop) : Action ρ κ → Prop
  | .enter _ request _ => P request
  | .wake _ => True
  | .resume _ _ => True
  | .change _ => True

/-- What the run keeps: sound sleepers, and requests as they came in. -/
structure Sound (M : Service σ ρ κ) (P : ρ → Prop) (m : Monitor σ ρ κ) : Prop where
  overslept : NoneOverslept M m
  requests : ∀ w ∈ m.waiting, P w.request

theorem Sound.turn {P : ρ → Prop} (htakes : M.Takes P) {m : Monitor σ ρ κ} (hI : Sound M P m)
    (thread : ℕ) {request : ρ} (hr : P request) (expired : Bool) :
    Sound M P (M.turn m thread request expired) := by
  have hrest : ∀ w ∈ m.others thread, P w.request := fun w hw => hI.requests w (mem_others hw)
  rcases turn_cases m thread request expired with ⟨data, hs, hturn⟩ | ⟨_, _, hturn⟩ |
    ⟨hs, _, hturn⟩
  all_goals rw [hturn]
  · refine ⟨?_, hrest⟩
    intro w hw ha
    exact htakes m.data data request w.request hr hs (hI.overslept w (mem_others hw) ha)
  · exact ⟨fun w hw ha => hI.overslept w (mem_others hw) ha, hrest⟩
  · -- The request that falls asleep has just been found to have to wait.
    constructor
    · intro w hw ha
      rcases List.mem_cons.mp hw with rfl | hw
      · exact hs
      · exact hI.overslept w (mem_others hw) ha
    · intro w hw
      rcases List.mem_cons.mp hw with rfl | hw
      · exact hr
      · exact hrest w hw

theorem Sound.step {P : ρ → Prop} (htakes : M.Takes P) {m t : Monitor σ ρ κ} {a : Action ρ κ}
    (ha : Action.Of P a) (hI : Sound M P m) (h : M.step m a = some t) : Sound M P t := by
  rcases step_cases h with ⟨thread, request, expired, rfl, hcall⟩ |
    ⟨thread, w, _, hfind, rfl⟩ | ⟨k, _, rfl⟩
  · have hr : P request := by
      rcases hcall with ⟨rfl, _⟩ | ⟨_, w, hfind, rfl⟩
      · exact ha
      · exact hI.requests w (List.mem_of_find?_eq_some hfind)
    exact hI.turn htakes thread hr expired
  · have hw := hI.requests w (List.mem_of_find?_eq_some hfind)
    constructor
    · intro v hv hasleep
      rcases List.mem_cons.mp hv with rfl | hv
      · cases hasleep
      · exact hI.overslept v (mem_others hv) hasleep
    · intro v hv
      rcases List.mem_cons.mp hv with rfl | hv
      · exact hw
      · exact hI.requests v (mem_others hv)
  · -- After a change nobody is asleep.
    constructor
    · intro w hw hasleep
      obtain ⟨v, _, rfl⟩ := List.mem_map.mp hw
      cases hasleep
    · intro w hw
      obtain ⟨v, hv, rfl⟩ := List.mem_map.mp hw
      exact hI.requests v hv

/-- However the threads are scheduled, nobody sleeps through a chance to be served. -/
theorem sound_run {P : ρ → Prop} (htakes : M.Takes P) {data : σ} {m : Monitor σ ρ κ}
    {as : List (Action ρ κ)} (h : run M.step (Monitor.start data) as = some m)
    (has : ∀ a ∈ as, Action.Of P a) : Sound M P m := by
  have hstart : Sound M P (Monitor.start data) := by
    constructor <;> intro w hw <;> cases hw
  exact run_invariant_of (fun _ _ _ ha hI hs => hI.step htakes ha hs) has hstart h

end Service

end Monitors

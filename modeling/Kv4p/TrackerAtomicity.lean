import Kv4p.DummyTransport
import Kv4p.TrackerCode

/-! Any number of threads in the methods of the tracker, one attribute access at a time: what they do
is what the atomic sections and hand-offs of `Threads` do. -/
namespace Kv4p
open CriticalSections CriticalSections.Program Transitions

variable {F α β : Type}

/-- Locked section by locked section, `p` does what a thread may do that still has `out` to hand over
and, if it is the receiving thread, `replay` to pass on. -/
inductive Behaves (receiver : Bool) :
    Option (DeviceState F) → Option (HostDesiredState F) → PyCode F α → Prop
  | done (a : α) : Behaves receiver none none (.done a)
  | own {replay : Option (DeviceState F)} {f : LastReported → LastReported}
      {k : LastReported → PyCode F α} (h : ∀ t, Behaves receiver replay none (k t)) :
      Behaves receiver replay none (.own f k)
  | call {replay : Option (DeviceState F)} {e : TrackerEvent F} {k : Answer F → PyCode F α}
      (he : ∀ state, e ≠ .send state) (h : ∀ r, Behaves receiver replay none (k r)) :
      Behaves receiver replay none (.call e k)
  | send {replay : Option (DeviceState F)} {state : HostDesiredState F} {k : Answer F → PyCode F α}
      (h : ∀ r, Behaves receiver replay none (k r)) :
      Behaves receiver replay (some state) (.call (.send state) k)
  | still {replay : Option (DeviceState F)} {k : PyCode F α}
      (hk : ∀ s t, (k.finish 0 s t).1.1 = s)
      (h : ∀ s t, Behaves receiver replay none (k.finish 0 s t).2) :
      Behaves receiver replay none (.acquire k)
  | setter {replay : Option (DeviceState F)} {k : PyCode F α} (c : SetterCall F)
      (hk : ∀ s t, (k.finish 0 s t).1.1 = (s.setterSection c).2)
      (h : ∀ s t, Behaves receiver replay (s.setterSection c).1 (k.finish 0 s t).2) :
      Behaves receiver replay none (.acquire k)
  | report {k : PyCode F α} (state : DeviceState F) (hr : receiver = true)
      (hk : ∀ s t, (k.finish 0 s t).1.1 = s.onDeviceStateLocked state)
      (h : ∀ s t, Behaves receiver none none (k.finish 0 s t).2) :
      Behaves receiver none none (.acquire k)
  | replay {k : PyCode F α} (state : DeviceState F) (hr : receiver = true)
      (hk : ∀ s t, (k.finish 0 s t).1.1 = s.onDeviceStateLocked state)
      (h : ∀ s t, Behaves receiver none none (k.finish 0 s t).2) :
      Behaves receiver (some state) none (.acquire k)
  | hello {k : PyCode F α} (hello : Hello F) (hr : receiver = true)
      (hk : ∀ s t, (k.finish 0 s t).1.1 = s.onHelloLocked hello)
      (h : ∀ s t, Behaves receiver (some hello.deviceState) none (k.finish 0 s t).2) :
      Behaves receiver none none (.acquire k)

namespace Behaves

variable {receiver : Bool} {replay : Option (DeviceState F)} {out : Option (HostDesiredState F)}

/-- One method after the other. -/
theorem bind {p : PyCode F α} {k : α → PyCode F β} (hp : Behaves receiver replay out p)
    (hd : p.Disciplined none) (hk : ∀ a, Behaves receiver none none (k a)) :
    Behaves receiver replay out (p >>= k) := by
  change Behaves receiver replay out (p.bind k)
  induction hp with
  | done a => exact hk a
  | own _ ih => exact own fun t => ih t (hd t)
  | call he _ ih => exact call he fun r => ih r (hd.2 r)
  | send _ ih => exact send fun r => ih r (hd.2 r)
  | still hf _ ih =>
    refine still (fun s t => ?_) fun s t => ?_
    · rw [finish_bind hd]
      exact hf s t
    · rw [finish_bind hd]
      exact ih s t (hd.finish s t)
  | setter c hf _ ih =>
    refine setter c (fun s t => ?_) fun s t => ?_
    · rw [finish_bind hd]
      exact hf s t
    · rw [finish_bind hd]
      exact ih s t (hd.finish s t)
  | report state hr hf _ ih =>
    refine report state hr (fun s t => ?_) fun s t => ?_
    · rw [finish_bind hd]
      exact hf s t
    · rw [finish_bind hd]
      exact ih s t (hd.finish s t)
  | replay state hr hf _ ih =>
    refine Behaves.replay state hr (fun s t => ?_) fun s t => ?_
    · rw [finish_bind hd]
      exact hf s t
    · rw [finish_bind hd]
      exact ih s t (hd.finish s t)
  | hello message hr hf _ ih =>
    refine hello message hr (fun s t => ?_) fun s t => ?_
    · rw [finish_bind hd]
      exact hf s t
    · rw [finish_bind hd]
      exact ih s t (hd.finish s t)

/-- What the next section of a thread can be. -/
theorem acquire_cases {k : PyCode F α} (h : Behaves receiver replay out (.acquire k)) :
    out = none ∧
      ((∀ s t, (k.finish 0 s t).1.1 = s ∧ Behaves receiver replay none (k.finish 0 s t).2) ∨
      (∃ c, ∀ s t, (k.finish 0 s t).1.1 = (s.setterSection c).2 ∧
        Behaves receiver replay (s.setterSection c).1 (k.finish 0 s t).2) ∨
      (receiver = true ∧ ∃ state, (replay = none ∨ replay = some state) ∧
        ∀ s t, (k.finish 0 s t).1.1 = s.onDeviceStateLocked state ∧
          Behaves receiver none none (k.finish 0 s t).2) ∨
      (receiver = true ∧ replay = none ∧ ∃ hello,
        ∀ s t, (k.finish 0 s t).1.1 = s.onHelloLocked hello ∧
          Behaves receiver (some hello.deviceState) none (k.finish 0 s t).2)) := by
  cases h with
  | still hk h => exact ⟨rfl, Or.inl fun s t => ⟨hk s t, h s t⟩⟩
  | setter c hk h => exact ⟨rfl, Or.inr (Or.inl ⟨c, fun s t => ⟨hk s t, h s t⟩⟩)⟩
  | report state hr hk h =>
    exact ⟨rfl, Or.inr (Or.inr (Or.inl ⟨hr, state, Or.inl rfl, fun s t => ⟨hk s t, h s t⟩⟩))⟩
  | replay state hr hk h =>
    exact ⟨rfl, Or.inr (Or.inr (Or.inl ⟨hr, state, Or.inr rfl, fun s t => ⟨hk s t, h s t⟩⟩))⟩
  | hello hello hr hk h =>
    exact ⟨rfl, Or.inr (Or.inr (Or.inr ⟨hr, rfl, hello, fun s t => ⟨hk s t, h s t⟩⟩))⟩

theorem call_cases {e : TrackerEvent F} {k : Answer F → PyCode F α}
    (h : Behaves receiver replay out (.call e k)) :
    (out = none ∧ (∀ state, e ≠ .send state) ∧ ∀ r, Behaves receiver replay none (k r)) ∨
      ∃ state, out = some state ∧ e = .send state ∧ ∀ r, Behaves receiver replay none (k r) := by
  cases h with
  | call he h => exact Or.inl ⟨rfl, he, h⟩
  | send h => exact Or.inr ⟨_, rfl, rfl, h⟩

theorem own_cases {f : LastReported → LastReported} {k : LastReported → PyCode F α}
    (h : Behaves receiver replay out (.own f k)) :
    out = none ∧ ∀ t, Behaves receiver replay none (k t) := by
  cases h with
  | own h => exact ⟨rfl, h⟩

theorem out_cases {state : HostDesiredState F} {p : PyCode F α}
    (h : Behaves receiver replay (some state) p) : ∃ k, p = .call (.send state) k := by
  cases h with
  | send h => exact ⟨_, rfl⟩

theorem done_cases {a : α} (h : Behaves receiver replay out (.done a)) :
    replay = none ∧ out = none := by
  cases h
  exact ⟨rfl, rfl⟩

end Behaves

variable [PyFloat F] {receiver : Bool}

theorem behaves_setter (c : SetterCall F) : Behaves receiver none none (setterCode c) := by
  obtain ⟨k, hc, hk⟩ := setter_section c
  rw [hc]
  refine .setter c (fun s t => by rw [hk]) fun s t => ?_
  rw [hk]
  cases (s.setterSection c).1 with
  | none => exact .done _
  | some state => exact .send fun r => .still (fun _ _ => rfl) fun _ _ => .done _

omit [PyFloat F] in
theorem behaves_property (p : Property) :
    Behaves receiver none none (propertyCode p : PyCode F (Value F)) := by
  obtain ⟨k, hc, hk⟩ := property_section (F := F) p
  rw [hc]
  refine .still (fun s t => by rw [hk]) fun s t => ?_
  rw [hk]
  exact .call (fun _ h => by cases h) fun _ => .done _

theorem behaves_callback (body : CallbackBody F) :
    Behaves receiver none none (callbackCode body) := by
  induction body with
  | ends raises => exact .done _
  | setter c k ih => exact (behaves_setter c).bind (disciplined_setter c) ih
  | property p k ih => exact (behaves_property p).bind (disciplined_property p) ih

theorem behaves_reportEdge (last : LastReported → Option Bool)
    (remember : LastReported → LastReported) (call : Bool → Callback F) (value : Bool) :
    Behaves receiver none none (reportEdgeCode last remember call value) := by
  refine .own fun t => ?_
  change Behaves receiver none none (if last t = some value then pure false else _)
  split
  · exact .done _
  · exact .own fun _ => .call (fun _ h => by cases h) fun answer => behaves_callback answer.body

omit [PyFloat F] in
theorem behaves_reportEdges {checks : List (PyCode F Bool)}
    (hb : ∀ check ∈ checks, Behaves receiver none none check)
    (hd : ∀ check ∈ checks, check.Disciplined none) :
    Behaves receiver none none (reportEdgesCode checks) := by
  induction checks with
  | nil => exact .done _
  | cons check checks ih =>
    apply (hb check List.mem_cons_self).bind (hd check List.mem_cons_self)
    intro raised
    split
    · exact .done _
    · exact ih (fun c hc => hb c (List.mem_cons_of_mem check hc))
        fun c hc => hd c (List.mem_cons_of_mem check hc)

theorem behaves_edgeChecks (state : DeviceState F) :
    Behaves receiver none none (reportEdgesCode (edgeChecks state)) := by
  apply behaves_reportEdges
  · simp only [edgeChecks, List.mem_cons, List.not_mem_nil, or_false, forall_eq_or_imp, forall_eq]
    exact ⟨behaves_reportEdge _ _ _ _, behaves_reportEdge _ _ _ _, behaves_reportEdge _ _ _ _⟩
  · exact disciplined_edgeChecks state

theorem behaves_onDeviceState (state : DeviceState F) :
    Behaves true none none (onDeviceStateCode state) := by
  obtain ⟨k, hc, hk⟩ := onDeviceState_section state
  rw [hc]
  refine .report state rfl (fun s t => by rw [hk]) fun s t => ?_
  rw [hk]
  exact behaves_edgeChecks state

/-- The same code passes on the report of a HELLO. -/
theorem behaves_replay (state : DeviceState F) :
    Behaves true (some state) none (onDeviceStateCode state) := by
  obtain ⟨k, hc, hk⟩ := onDeviceState_section state
  rw [hc]
  refine .replay state rfl (fun s t => by rw [hk]) fun s t => ?_
  rw [hk]
  exact behaves_edgeChecks state

theorem behaves_onHello (hello : Hello F) : Behaves true none none (onHelloCode hello) := by
  obtain ⟨k, hc, hk⟩ := onHello_section hello
  rw [hc]
  refine .hello hello rfl (fun s t => by rw [hk]) fun s t => ?_
  rw [hk]
  exact .call (fun _ h => by cases h) fun _ => behaves_replay hello.deviceState

inductive Method (F : Type)
  | setter (c : SetterCall F)
  | property (p : Property)
  | onHello (hello : Hello F)
  | onDeviceState (state : DeviceState F)
deriving DecidableEq

namespace Method

/-- A call of a method, whatever it returns. -/
def code : Method F → PyCode F Unit
  | setter c => setterCode c >>= fun _ => pure ()
  | property p => propertyCode p >>= fun _ => pure ()
  | onHello hello => onHelloCode hello >>= fun _ => pure ()
  | onDeviceState state => onDeviceStateCode state >>= fun _ => pure ()

/-- Frames are handled by the receiving thread alone. -/
def ForReceiver : Method F → Prop
  | onHello _ => True
  | onDeviceState _ => True
  | setter _ => False
  | property _ => False

theorem disciplined (m : Method F) : m.code.Disciplined none := by
  cases m with
  | setter c => exact leads_bind (disciplined_setter c) fun _ => leads_pure _
  | property p => exact leads_bind (disciplined_property p) fun _ => leads_pure _
  | onHello hello => exact leads_bind (disciplined_onHello hello) fun _ => leads_pure _
  | onDeviceState state => exact leads_bind (disciplined_onDeviceState state) fun _ => leads_pure _

theorem behaves {m : Method F} (h : m.ForReceiver → receiver = true) :
    Behaves receiver none none m.code := by
  cases m with
  | setter c => exact (behaves_setter c).bind (disciplined_setter c) fun _ => .done _
  | property p => exact (behaves_property p).bind (disciplined_property p) fun _ => .done _
  | onHello hello =>
    rw [h trivial]
    exact (behaves_onHello hello).bind (disciplined_onHello hello) fun _ => .done _
  | onDeviceState state =>
    rw [h trivial]
    exact (behaves_onDeviceState state).bind (disciplined_onDeviceState state) fun _ => .done _

end Method

abbrev TrackerThreads (F : Type) :=
  Config ℕ (DeviceStateTracker F) LastReported (TrackerEvent F) (Answer F) Unit

abbrev TrackerMove (F : Type) :=
  Move ℕ (DeviceStateTracker F) LastReported (TrackerEvent F) (Answer F) Unit

def TrackerThreads.init : TrackerThreads F :=
  ⟨DeviceStateTracker.init, fun _ => ⟨none, none, none⟩, none, fun _ => .done (), []⟩

/-- Threads start methods. -/
def CallsMethods : TrackerMove F → Prop := Move.Starts fun _ p => ∃ m : Method F, p = m.code

/-- Threads start methods, and only thread `rx` those that handle frames. -/
def StartsMethod (rx : ℕ) : TrackerMove F → Prop :=
  Move.Starts fun i p => ∃ m : Method F, p = m.code ∧ (m.ForReceiver → i = rx)

/-- The snapshots that reached the transport, in order. One that does not pack raises before. -/
def handedStates (log : List (ℕ × TrackerEvent F × Answer F)) : List (HostDesiredState F) :=
  log.filterMap fun call =>
    match call.2.1 with
    | .send state => if state.packs then some state else none
    | _ => none

theorem ok_init : (TrackerThreads.init : TrackerThreads F).Ok := fun _ => rfl

theorem StartsMethod.calls {rx : ℕ} {l : TrackerMove F} (h : StartsMethod rx l) : CallsMethods l := by
  cases l with
  | run i answer => trivial
  | start i p =>
    obtain ⟨m, hm, _⟩ := h
    exact ⟨m, hm⟩

theorem CallsMethods.disciplined {l : TrackerMove F} (h : CallsMethods l) :
    l.Starts fun _ p => p.Disciplined none := by
  cases l with
  | run i answer => trivial
  | start i p =>
    obtain ⟨m, rfl⟩ := h
    exact m.disciplined

/-- The report a thread still has to pass on. -/
def Threads.replayOf (s : Threads F) (rx i : ℕ) : Option (DeviceState F) :=
  if i = rx then s.replay else none

def Threads.outOf (s : Threads F) (i : ℕ) : Option (HostDesiredState F) :=
  (s.sending i).map fun x => x.built.state

/-- Between two sections the threads are where `Threads` is. -/
structure Mirrors (rx : ℕ) (c : TrackerThreads F) (s : Threads F) : Prop where
  tracker : s.tracker = c.shared
  threads : ∀ i, Behaves (i == rx) (s.replayOf rx i) (s.outOf i) (c.program i)
  handed : handedStates c.log = s.handed.map fun x => x.built.state

omit [PyFloat F] in
theorem outOf_eq_none {s : Threads F} {i : ℕ} (h : s.outOf i = none) : s.sending i = none :=
  Option.map_eq_none_iff.mp h

omit [PyFloat F] in
theorem outOf_eq_some {s : Threads F} {i : ℕ} {state : HostDesiredState F}
    (h : s.outOf i = some state) : ∃ x, s.sending i = some x ∧ x.built.state = state :=
  Option.map_eq_some_iff.mp h

omit [PyFloat F] in
/-- A thread that enters a setter leaves it with the snapshot of its section, if that built one. -/
theorem enter_eq (s : Threads F) (i : ℕ) (c : SetterCall F) (hidle : s.outOf i = none) :
    (s.enter i c).tracker = (s.tracker.setterSection c).2 ∧
      (s.enter i c).outOf i = (s.tracker.setterSection c).1 ∧
      (∀ j, j ≠ i → (s.enter i c).outOf j = s.outOf j) ∧
      (s.enter i c).replay = s.replay ∧ (s.enter i c).handed = s.handed := by
  rcases setterSection_cases s.tracker c with ⟨hs, hsec⟩ | ⟨hs, hsec⟩
  · rcases enter_cases s i c with ⟨_, he⟩ | ⟨hn, _⟩
    · rw [he, hsec]
      exact ⟨rfl, hidle, fun _ _ => rfl, rfl, rfl⟩
    · rw [hs] at hn
      cases hn
  · rcases enter_cases s i c with ⟨hn, _⟩ | ⟨_, he⟩
    · rw [hs] at hn
      cases hn
    · rw [he, hsec]
      refine ⟨rfl, ?_, fun j hj => ?_, rfl, rfl⟩
      · simp [Threads.outOf, Threads.sending, Threads.push]
      · have hne : (i == j) = false := beq_eq_false_iff_ne.mpr (Ne.symm hj)
        simp [Threads.outOf, Threads.sending, Threads.push, hne]

theorem outOf_leave {s : Threads F} {i : ℕ} {x : InFlight F} (hx : s.sending i = some x) (j : ℕ) :
    (s.leave x).outOf j = if j = i then none else s.outOf j := by
  have hthread : x.thread = i := by simpa using List.find?_some hx
  unfold Threads.outOf Threads.sending Threads.leave
  rw [hthread, List.find?_filter]
  by_cases h : j = i
  · subst h
    simp
  · have hsame : (fun y : InFlight F => decide ((y.thread != i) = true ∧ (y.thread == j) = true)) =
        fun y => y.thread == j := by
      funext y
      by_cases hy : y.thread = j
      · simp [hy, h]
      · simp [hy]
    simp only [hsame, h, if_false]

namespace Mirrors

variable {rx : ℕ} {c d : TrackerThreads F} {s t : Threads F} {i : ℕ}

theorem behaves (hm : Mirrors rx c s) {p : PyCode F Unit} (hp : c.program i = p) :
    Behaves (i == rx) (s.replayOf rx i) (s.outOf i) p := by
  rw [← hp]
  exact hm.threads i

/-- Thread `i` goes on with `p`, and the other threads stay where they are. -/
theorem update (hm : Mirrors rx c s) {p : PyCode F Unit}
    (hprogram : d.program = Function.update c.program i p) (htracker : t.tracker = d.shared)
    (hp : Behaves (i == rx) (t.replayOf rx i) (t.outOf i) p)
    (hreplay : ∀ j, j ≠ i → t.replayOf rx j = s.replayOf rx j)
    (hout : ∀ j, j ≠ i → t.outOf j = s.outOf j)
    (hhanded : handedStates d.log = t.handed.map fun x => x.built.state) : Mirrors rx d t := by
  refine ⟨htracker, fun j => ?_, hhanded⟩
  rw [hprogram]
  by_cases hj : j = i
  · subst hj
    rw [Function.update_self]
    exact hp
  · rw [Function.update_of_ne hj, hreplay j hj, hout j hj]
    exact hm.threads j

/-- Thread `i` goes on without a step of `Threads`. -/
theorem quietly (hm : Mirrors rx c s) {p : PyCode F Unit}
    (hprogram : d.program = Function.update c.program i p) (hshared : d.shared = c.shared)
    (hp : Behaves (i == rx) (s.replayOf rx i) (s.outOf i) p)
    (hlog : handedStates d.log = handedStates c.log) : Mirrors rx d s :=
  hm.update hprogram (hm.tracker.trans hshared.symm) hp (fun _ _ => rfl) (fun _ _ => rfl)
    (hlog.trans hm.handed)

/-- A locked section in one piece is a step of `Threads`, or none. -/
theorem section_run (hm : Mirrors rx c s) {k : PyCode F Unit} (hp : c.program i = .acquire k) :
    ∃ ms t, run Threads.step s ms = some t ∧ Mirrors rx (c.finish i 0 k) t := by
  obtain ⟨hout, hsection⟩ := (hm.behaves hp).acquire_cases
  rcases hsection with hk | ⟨call, hk⟩ | ⟨hr, state, hreplay, hk⟩ | ⟨hr, hreplay, hello, hk⟩
  · obtain ⟨hshared, hb⟩ := hk c.shared (c.own i)
    rw [← hout] at hb
    exact ⟨[], s, run_nil.mpr rfl, hm.quietly rfl hshared hb rfl⟩
  · obtain ⟨hshared, hb⟩ := hk c.shared (c.own i)
    obtain ⟨htracker, hown, hothers, hsame, hhanded⟩ := enter_eq s i call hout
    have hstep : s.step (.locked i call) = some (s.enter i call) := by
      rw [Threads.step, outOf_eq_none hout]
      rfl
    refine ⟨[.locked i call], s.enter i call, run_singleton.mpr hstep, hm.update rfl ?_ ?_ ?_
      hothers ?_⟩
    · rw [htracker, hm.tracker]
      exact hshared.symm
    · rw [hown, hm.tracker, Threads.replayOf, hsame]
      exact hb
    · intro j _
      rw [Threads.replayOf, hsame]
      rfl
    · rw [hhanded]
      exact hm.handed
  · obtain ⟨hshared, hb⟩ := hk c.shared (c.own i)
    have hrx : i = rx := beq_iff_eq.mp hr
    subst hrx
    have hmine : s.replayOf i i = s.replay := if_pos rfl
    rw [hmine] at hreplay
    have hstep : ∃ l, s.step l = some { s with
        tracker := s.tracker.onDeviceStateLocked state, replay := none } := by
      rcases hreplay with hnone | hsome
      · refine ⟨.report state, ?_⟩
        rw [Threads.step, hnone]
        rfl
      · refine ⟨.replay, ?_⟩
        rw [Threads.step, hsome]
    obtain ⟨l, hl⟩ := hstep
    refine ⟨[l], _, run_singleton.mpr hl, hm.update rfl ?_ ?_ ?_ (fun _ _ => rfl) hm.handed⟩
    · rw [hm.tracker]
      exact hshared.symm
    · have hnow : Threads.replayOf { s with
          tracker := s.tracker.onDeviceStateLocked state, replay := none } i i = none := if_pos rfl
      rw [hnow]
      exact hout.symm ▸ hb
    · intro j hj
      rw [Threads.replayOf, Threads.replayOf, if_neg hj, if_neg hj]
  · obtain ⟨hshared, hb⟩ := hk c.shared (c.own i)
    have hrx : i = rx := beq_iff_eq.mp hr
    subst hrx
    have hmine : s.replayOf i i = s.replay := if_pos rfl
    rw [hmine] at hreplay
    have hstep : s.step (.hello hello) = some { s with
        tracker := s.tracker.onHelloLocked hello
        replay := some hello.deviceState
        hellos := s.hellos+1 } := by
      rw [Threads.step, hreplay]
      rfl
    refine ⟨[.hello hello], _, run_singleton.mpr hstep,
      hm.update rfl ?_ ?_ ?_ (fun _ _ => rfl) hm.handed⟩
    · rw [hm.tracker]
      exact hshared.symm
    · have hnow : Threads.replayOf { s with
          tracker := s.tracker.onHelloLocked hello
          replay := some hello.deviceState
          hellos := s.hellos+1 } i i = some hello.deviceState := if_pos rfl
      rw [hnow]
      exact hout.symm ▸ hb
    · intro j hj
      rw [Threads.replayOf, Threads.replayOf, if_neg hj, if_neg hj]

/-- A call to the outside is the hand-off of a snapshot, or no step of `Threads`. -/
theorem call_run (hm : Mirrors rx c s) {e : TrackerEvent F} {k : Answer F → PyCode F Unit}
    (hp : c.program i = .call e k) (answer : Answer F) :
    ∃ ms t, run Threads.step s ms = some t ∧
      Mirrors rx { c.setProgram i (k answer) with log := c.log++[(i, e, answer)] } t := by
  rcases (hm.behaves hp).call_cases with ⟨hout, he, hk⟩ | ⟨state, hout, rfl, hk⟩
  · refine ⟨[], s, run_nil.mpr rfl, hm.quietly rfl rfl (hout.symm ▸ hk answer) ?_⟩
    have hnothing : handedStates [(i, e, answer)] = [] := by
      cases e with
      | send state => exact absurd rfl (he state)
      | setHelloEvent | callback | observed => rfl
    change handedStates (c.log++[(i, e, answer)]) = _
    rw [handedStates, List.filterMap_append, ← handedStates, ← handedStates, hnothing,
      List.append_nil]
  · obtain ⟨x, hx, rfl⟩ := outOf_eq_some hout
    have hstep : s.step (.handOff i) = some (s.leave x) := by rw [Threads.step, hx]; rfl
    refine ⟨[.handOff i], s.leave x, run_singleton.mpr hstep,
      hm.update rfl hm.tracker ?_ (fun _ _ => rfl) ?_ ?_⟩
    · rw [outOf_leave hx, if_pos rfl]
      exact hk answer
    · intro j hj
      rw [outOf_leave hx, if_neg hj]
    · change handedStates (c.log++[(i, _, answer)]) = _
      rw [handedStates, List.filterMap_append, ← handedStates, hm.handed, Threads.leave]
      cases hpacks : x.built.state.packs with
      | true => simp [hpacks]
      | false => simp [hpacks]

theorem step_run (hm : Mirrors rx c s) {l : TrackerMove F} (hl : StartsMethod rx l)
    (h : c.atomicStep l = some d) :
    ∃ ms t, run Threads.step s ms = some t ∧ Mirrors rx d t := by
  cases l with
  | start i p =>
    obtain ⟨m, rfl, hrx⟩ := hl
    obtain ⟨⟨a, ha⟩, rfl⟩ := Config.begin_eq_some.mp h
    obtain ⟨hreplay, hout⟩ := (hm.behaves ha).done_cases
    refine ⟨[], s, run_nil.mpr rfl, hm.quietly rfl rfl ?_ rfl⟩
    rw [hreplay, hout]
    exact m.behaves fun hm => beq_iff_eq.mpr (hrx hm)
  | run i answer =>
    rw [Config.atomicStep] at h
    split at h
    · rename_i k hp
      cases h
      exact hm.section_run hp
    · rcases Config.stepOutside_cases h with ⟨f, k, hp, rfl⟩ | ⟨e, k, hp, rfl⟩
      · -- What the receiving thread last told the callbacks is its own.
        obtain ⟨hout, hk⟩ := (hm.behaves hp).own_cases
        exact ⟨[], s, run_nil.mpr rfl, hm.quietly rfl rfl (hout.symm ▸ hk (c.own i)) rfl⟩
      · exact hm.call_run hp answer

end Mirrors

theorem mirrors_init (rx : ℕ) : Mirrors (F := F) rx TrackerThreads.init Threads.init := by
  refine ⟨rfl, fun i => ?_, rfl⟩
  have hreplay : (Threads.init : Threads F).replayOf rx i = none := ite_self none
  rw [hreplay]
  exact .done ()

/-- Once the lock is free, the threads are where a run of `Threads` is. -/
theorem mirrors_run {rx : ℕ} {ls : List (TrackerMove F)} {c : TrackerThreads F}
    (hls : ∀ l ∈ ls, StartsMethod rx l) (h : run Config.step TrackerThreads.init ls = some c) :
    ∃ ms s, run Threads.step Threads.init ms = some s ∧ Mirrors rx c.settle s := by
  have hsettle : (TrackerThreads.init : TrackerThreads F).settle = TrackerThreads.init := rfl
  have hdisciplined : ∀ l ∈ ls, l.Starts fun _ p => p.Disciplined none :=
    fun l hl => (hls l hl).calls.disciplined
  obtain ⟨as, hsub, has⟩ := Config.run_settles hdisciplined ok_init h
  rw [hsettle] at has
  refine run_invariant_of (I := fun c => ∃ ms s, run Threads.step Threads.init ms = some s ∧
    Mirrors rx c s) ?_ (fun l hl => hls l (hsub.subset hl))
    ⟨[], Threads.init, run_nil.mpr rfl, mirrors_init rx⟩ has
  rintro c l d hl ⟨ms, s, hrun, hm⟩ hstep
  obtain ⟨ns, t, hmore, ht⟩ := hm.step_run hl hstep
  exact ⟨ms++ns, t, run_append.mpr ⟨s, hrun, hmore⟩, ht⟩

theorem ok_of_run {ls : List (TrackerMove F)} {c : TrackerThreads F}
    (hls : ∀ l ∈ ls, CallsMethods l) (h : run Config.step TrackerThreads.init ls = some c) :
    c.Ok :=
  Config.ok_run (fun l hl => (hls l hl).disciplined) ok_init h

/-- Whatever interleaving of single accesses the threads come to, of which one handles frames, whatever
their callbacks do and however their hand-offs end, some run of the atomic sections hands over the same
desired states in the same order, has those on their way that are, and whenever the lock is free no
others and the same tracker. -/
theorem tracker_refines {rx : ℕ} {ls : List (TrackerMove F)} {c : TrackerThreads F}
    (hls : ∀ l ∈ ls, StartsMethod rx l) (h : run Config.step TrackerThreads.init ls = some c) :
    ∃ ms s, run Threads.step Threads.init ms = some s ∧
      handedStates c.log = s.handed.map (fun x => x.built.state) ∧
      (∀ i state k, c.program i = .call (.send state) k → s.outOf i = some state) ∧
      (c.lock = none → s.tracker = c.shared ∧
        ∀ i state, s.outOf i = some state → ∃ k, c.program i = .call (.send state) k) := by
  obtain ⟨ms, s, hrun, hm⟩ := mirrors_run hls h
  refine ⟨ms, s, hrun, ?_, ?_, ?_⟩
  · rw [← hm.handed, Config.log_settle]
  · intro i state k hp
    have hsettled : c.settle.program i = .call (.send state) k := by
      rw [Config.program_settle (Config.level_of_call (ok_of_run (fun l hl => (hls l hl).calls) h) hp),
        hp]
    rcases (hm.behaves hsettled).call_cases with ⟨_, he, _⟩ | ⟨_, hout, he, _⟩
    · exact absurd rfl (he state)
    · cases he
      exact hout
  · intro hfree
    have hsettled : c.settle = c := Config.settle_of_free hfree
    rw [hsettled] at hm
    refine ⟨hm.tracker, fun i state hout => ?_⟩
    have hthread := hm.threads i
    rw [hout] at hthread
    exact hthread.out_cases

/-- A thread reads a property while another one hands over the snapshot of its setter. -/
theorem tracker_refines_meanwhile :
    let answer : Answer Binary32 := ⟨false, .ends false⟩
    let moves : List (TrackerMove Binary32) :=
      .start 1 (Method.setter (.setSquelch 3)).code :: List.replicate 14 (.run 1 answer)++
        .start 2 (Method.property .squelch).code :: List.replicate 4 (.run 2 answer)++
        List.replicate 3 (.run 1 answer)
    ∃ c, run Config.step TrackerThreads.init moves = some c ∧
      ∃ ms s, run Threads.step Threads.init ms = some s ∧
        handedStates c.log = s.handed.map (fun x => x.built.state) ∧
        (∀ i state k, c.program i = .call (.send state) k → s.outOf i = some state) ∧
        (c.lock = none → s.tracker = c.shared ∧
          ∀ i state, s.outOf i = some state → ∃ k, c.program i = .call (.send state) k) := by
  intro answer moves
  have hrun : ∃ c, run Config.step TrackerThreads.init moves = some c := ⟨_, rfl⟩
  obtain ⟨c, hc⟩ := hrun
  have hstarts : ∀ l ∈ moves, StartsMethod 0 l := by
    intro l hl
    simp only [moves, List.mem_append, List.mem_cons, List.mem_replicate] at hl
    rcases hl with ((rfl | ⟨_, rfl⟩) | (rfl | ⟨_, rfl⟩)) | ⟨_, rfl⟩
    · exact ⟨_, rfl, fun h => h.elim⟩
    · trivial
    · exact ⟨_, rfl, fun h => h.elim⟩
    · trivial
    · trivial
  exact ⟨c, hc, tracker_refines hstarts hc⟩

/-- Nobody calls the transport or a callback from inside the lock, and whatever the threads are doing,
every call comes to its end by steps of its own thread and of the one in the lock. -/
theorem tracker_calls_complete {ls : List (TrackerMove F)} {c : TrackerThreads F}
    (hls : ∀ l ∈ ls, CallsMethods l) (h : run Config.step TrackerThreads.init ls = some c) :
    (∀ i e k, c.program i = .call e k → c.level i = none) ∧
      ∀ i answer, ∃ ms d,
        (∀ l ∈ ms, ∃ j, l = .run j answer ∧ (j = i ∨ ∃ n, c.lock = some (j, n))) ∧
        run Config.step c ms = some d ∧ d.lock = none ∧ (d.program i).isDone = true := by
  have hok := ok_of_run hls h
  exact ⟨fun i e k hp => Config.level_of_call hok hp, fun i answer => Config.completes answer hok i⟩

/-- One thread is in the lock, between two accesses, and another one waits for it. -/
theorem tracker_calls_complete_waiting :
    let answer : Answer Binary32 := ⟨false, .ends false⟩
    let moves : List (TrackerMove Binary32) :=
      .start 1 (Method.setter (.setSquelch 3)).code :: List.replicate 2 (.run 1 answer)++
        [.start 2 (Method.property .squelch).code]
    ∃ c, run Config.step TrackerThreads.init moves = some c ∧ c.lock = some (1, 0) ∧
      ∃ ms d, (∀ l ∈ ms, ∃ j, l = .run j answer ∧ (j = 2 ∨ ∃ n, c.lock = some (j, n))) ∧
        run Config.step c ms = some d ∧ d.lock = none ∧ (d.program 2).isDone = true := by
  intro answer moves
  have hrun : ∃ c, run Config.step TrackerThreads.init moves = some c ∧ c.lock = some (1, 0) :=
    ⟨_, rfl, rfl⟩
  obtain ⟨c, hc, hlock⟩ := hrun
  have hstarts : ∀ l ∈ moves, CallsMethods l := by
    intro l hl
    simp only [moves, List.mem_append, List.mem_cons, List.mem_replicate] at hl
    rcases hl with (rfl | ⟨_, rfl⟩) | (rfl | hl)
    · exact ⟨_, rfl⟩
    · trivial
    · exact ⟨_, rfl⟩
    · exact (List.not_mem_nil hl).elim
  exact ⟨c, hc, hlock, (tracker_calls_complete hstarts hc).2 2 answer⟩

end Kv4p

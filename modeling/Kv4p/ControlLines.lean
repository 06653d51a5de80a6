import Kv4p.Library.LastWrite
import Kv4p.SerialWrites

/-! The reset pulse: threads that write, reset and flush under the write lock, each call on the port
that `self._serial` names when it is made, while ports are opened and dropped without that lock. -/
namespace Kv4p
open LastWrite Transitions

/-- What is done to a port: a byte goes out, or a control line is set. -/
inductive PortAct
  | byte (value : UInt8)
  | dtr (level : Bool)
  | rts (level : Bool)
deriving DecidableEq

/-- What a job does to its port, in order. Between the lines it sets, `reset` sleeps. -/
def WriteJob.acts : WriteJob → List PortAct
  | writeFrame f => (encodeKissFrame f.command f.payload).map .byte
  | reset => [.dtr false, .rts true, .rts false]
  | flush => []

/-- `write` and `flush` are one call on one port. `reset` looks the port up for every line it sets. -/
def WriteJob.oneCall : WriteJob → Bool
  | writeFrame _ => true
  | reset => false
  | flush => true

/-- A stay in the write lock, with the port its one call is made on and the number of acts done. -/
structure PortStay where
  thread : ℕ
  job : WriteJob
  handle : Option ℕ
  done : ℕ
deriving DecidableEq

inductive PortEntry
  | opened (port : ℕ) (rts : Bool)
  | act (port : ℕ) (a : PortAct)
  | left (stay : PortStay) (returned : Bool)
deriving DecidableEq

structure SerialPort where
  /-- `self._serial`, and how many ports there were. -/
  port : Option ℕ
  ports : ℕ
  busy : Option PortStay
  checked : Bool
  log : List PortEntry
deriving DecidableEq

/-- What happens next. The thread in the lock looks whether a port is open, makes its one call, does
its next act, returns, or raises. Whoever opens a port finds its RTS as the driver leaves it, then lets
go of its lines; neither he nor who drops it waits for the lock. -/
inductive PortEvent
  | enter (thread : ℕ) (job : WriteJob)
  | check
  | call
  | act
  | finish
  | fail
  | openPort (rts : Bool)
  | releaseRts
  | releaseDtr
  | dropPort
deriving DecidableEq

namespace SerialPort

def init : SerialPort := ⟨none, 0, none, false, []⟩

def record (s : SerialPort) (e : PortEntry) : SerialPort := { s with log := s.log++[e] }

/-- The thread in the lock gives it back. -/
def leave (s : SerialPort) (x : PortStay) (returned : Bool) : SerialPort :=
  { s with busy := none, checked := false }.record (.left x returned)

/-- The port the next act goes to. -/
def target (s : SerialPort) (x : PortStay) : Option ℕ := if x.job.oneCall then x.handle else s.port

def step (s : SerialPort) : PortEvent → Option SerialPort
  | .enter thread job =>
    match s.busy with
    | none => some { s with busy := some ⟨thread, job, none, 0⟩, checked := false }
    | some _ => none
  | .check =>
    match s.busy, s.checked with
    | some x, false =>
      if x.job.checksPort && s.port.isNone then some (s.leave x false)
      else some { s with checked := true }
    | _, _ => none
  | .call =>
    match s.busy, s.checked with
    | some x, true =>
      if x.job.oneCall && x.handle.isNone then
        match s.port with
        | some p => some { s with busy := some { x with handle := some p } }
        | none => some (s.leave x false)
      else none
    | _, _ => none
  | .act =>
    match s.busy, s.checked with
    | some x, true =>
      match x.job.acts[x.done]?, s.target x with
      | some a, some p =>
        some ({ s with busy := some { x with done := x.done+1 } }.record (.act p a))
      | some _, none => if x.job.oneCall then none else some (s.leave x false)
      | none, _ => none
    | _, _ => none
  | .finish =>
    match s.busy, s.checked with
    | some x, true =>
      if x.done = x.job.acts.length ∧ x.job.oneCall = x.handle.isSome then some (s.leave x true)
      else none
    | _, _ => none
  | .fail =>
    match s.busy, s.checked with
    | some x, true => some (s.leave x false)
    | _, _ => none
  | .openPort rts =>
    some ({ s with port := some s.ports, ports := s.ports+1 }.record (.opened s.ports rts))
  | .releaseRts => s.port.map fun p => s.record (.act p (.rts false))
  | .releaseDtr => s.port.map fun p => s.record (.act p (.dtr false))
  | .dropPort => some { s with port := none }

/-- What an event can do, and when. -/
inductive Moves (s : SerialPort) : PortEvent → SerialPort → Prop
  | enters (thread : ℕ) (job : WriteJob) (hidle : s.busy = none) : Moves s (.enter thread job)
      { s with busy := some ⟨thread, job, none, 0⟩, checked := false }
  | refused (x : PortStay) (hbusy : s.busy = some x) (hchecked : s.checked = false)
      (hclosed : (x.job.checksPort && s.port.isNone) = true) : Moves s .check (s.leave x false)
  | looks (x : PortStay) (hbusy : s.busy = some x) (hchecked : s.checked = false)
      (hfound : ¬ (x.job.checksPort && s.port.isNone) = true) :
      Moves s .check { s with checked := true }
  | calls (x : PortStay) (p : ℕ) (hbusy : s.busy = some x) (hcall : x.job.oneCall = true)
      (hp : s.port = some p) : Moves s .call { s with busy := some { x with handle := some p } }
  | acts (x : PortStay) (a : PortAct) (p : ℕ) (hbusy : s.busy = some x) (hchecked : s.checked = true)
      (ha : x.job.acts[x.done]? = some a) (hp : s.target x = some p) :
      Moves s .act ({ s with busy := some { x with done := x.done+1 } }.record (.act p a))
  | raises (l : PortEvent) (x : PortStay) (hbusy : s.busy = some x) (hchecked : s.checked = true) :
      Moves s l (s.leave x false)
  | finishes (x : PortStay) (hbusy : s.busy = some x) (hchecked : s.checked = true)
      (hdone : x.done = x.job.acts.length) : Moves s .finish (s.leave x true)
  | opens (rts : Bool) : Moves s (.openPort rts)
      ({ s with port := some s.ports, ports := s.ports+1 }.record (.opened s.ports rts))
  | releases (l : PortEvent) (p : ℕ) (a : PortAct) (hp : s.port = some p)
      (ha : a = .rts false ∨ a = .dtr false) : Moves s l (s.record (.act p a))
  | drops : Moves s .dropPort { s with port := none }

theorem step_moves {s t : SerialPort} {l : PortEvent} (h : s.step l = some t) : s.Moves l t := by
  cases l with
  | enter thread job =>
    rw [SerialPort.step] at h
    split at h
    · cases h
      exact .enters thread job ‹_›
    · cases h
  | check =>
    rw [SerialPort.step] at h
    split at h
    · rename_i x hbusy hchecked
      split at h
      · cases h
        exact .refused x hbusy hchecked ‹_›
      · cases h
        exact .looks x hbusy hchecked ‹_›
    · cases h
  | call =>
    rw [SerialPort.step] at h
    split at h
    · rename_i x hbusy hchecked
      split at h
      · rename_i hcall
        split at h
        · cases h
          exact .calls x _ hbusy (Bool.and_eq_true_iff.mp hcall).1 ‹_›
        · cases h
          exact .raises _ x hbusy hchecked
      · cases h
    · cases h
  | act =>
    rw [SerialPort.step] at h
    split at h
    · rename_i x hbusy hchecked
      split at h
      · rename_i a p ha hp
        cases h
        exact .acts x a p hbusy hchecked ha hp
      · split at h
        · cases h
        · cases h
          exact .raises _ x hbusy hchecked
      · cases h
    · cases h
  | finish =>
    rw [SerialPort.step] at h
    split at h
    · rename_i x hbusy hchecked
      split at h
      · rename_i hdone
        cases h
        exact .finishes x hbusy hchecked hdone.1
      · cases h
    · cases h
  | fail =>
    rw [SerialPort.step] at h
    split at h
    · rename_i x hbusy hchecked
      cases h
      exact .raises _ x hbusy hchecked
    · cases h
  | openPort rts =>
    cases h
    exact .opens rts
  | releaseRts =>
    obtain ⟨p, hp, rfl⟩ := Option.map_eq_some_iff.mp h
    exact .releases _ p _ hp (Or.inl rfl)
  | releaseDtr =>
    obtain ⟨p, hp, rfl⟩ := Option.map_eq_some_iff.mp h
    exact .releases _ p _ hp (Or.inr rfl)
  | dropPort =>
    cases h
    exact .drops

end SerialPort

def PortEntry.byte : PortEntry → Option UInt8
  | act _ (.byte value) => some value
  | _ => none

def PortStay.sent (x : PortStay) : ℕ :=
  match x.job with
  | .writeFrame _ => x.done
  | .reset => 0
  | .flush => 0

def PortStay.section (x : PortStay) (returned : Bool) : WriteSection :=
  ⟨x.thread, x.job, x.sent, returned⟩

def PortEntry.section : PortEntry → Option WriteSection
  | opened _ _ => none
  | act _ _ => none
  | left x returned => some (x.section returned)

/-- All ports are one line, and the control lines are none of it. -/
def SerialPort.serialLine (s : SerialPort) : SerialLine :=
  ⟨s.port.isSome, s.busy.map (·.section false), s.checked, s.log.filterMap PortEntry.section,
    s.log.filterMap PortEntry.byte⟩

namespace SerialPort

variable {s t : SerialPort}

theorem serialLine_busy {x : PortStay} (h : s.busy = some x) :
    s.serialLine.busy = some (x.section false) :=
  congrArg (Option.map fun x : PortStay => x.section false) h

theorem serialLine_leave (s : SerialPort) (x : PortStay) (returned : Bool) :
    (s.leave x returned).serialLine = s.serialLine.leave (x.section false) returned := by
  have hsection : (PortEntry.left x returned).section = some (x.section returned) := rfl
  have hbyte : (PortEntry.left x returned).byte = none := rfl
  simp only [SerialPort.leave, SerialPort.record, SerialPort.serialLine, SerialLine.leave,
    List.filterMap_append, List.filterMap_cons, List.filterMap_nil, hsection, hbyte,
    List.append_nil, Option.map_none]
  rfl

/-- An act of `reset`, or of whoever opens a port, is no byte. -/
theorem serialLine_record (s : SerialPort) {e : PortEntry} (hsection : e.section = none)
    (hbyte : e.byte = none) : (s.record e).serialLine = s.serialLine := by
  simp only [SerialPort.record, SerialPort.serialLine, List.filterMap_append, List.filterMap_cons,
    List.filterMap_nil, hbyte, hsection, List.append_nil]

/-- Raising in the lock, once the check is passed. -/
theorem line_fail {x : PortStay} (hbusy : s.busy = some x) (hchecked : s.checked = true) :
    s.serialLine.step .fail = some (s.leave x false).serialLine := by
  have hline : s.serialLine.busy = some (x.section false) := serialLine_busy hbusy
  have hlook : s.serialLine.checked = true := hchecked
  rw [SerialLine.step, hline, hlook, serialLine_leave]

theorem line_act {x : PortStay} {a : PortAct} {p : ℕ} (hbusy : s.busy = some x)
    (hchecked : s.checked = true) (ha : x.job.acts[x.done]? = some a) :
    let t := { s with busy := some { x with done := x.done+1 } }.record (.act p a)
    t.serialLine = s.serialLine ∨ s.serialLine.step .send = some t.serialLine := by
  intro t
  obtain ⟨thread, job, handle, done⟩ := x
  dsimp only at ha
  have hline : s.serialLine.busy = some (PortStay.section ⟨thread, job, handle, done⟩ false) :=
    serialLine_busy hbusy
  have hlook : s.serialLine.checked = true := hchecked
  cases job with
  | flush => cases ha
  | reset =>
    left
    have hbyte : (PortEntry.act p a).byte = none := by
      have hmem : a ∈ [PortAct.dtr false, .rts true, .rts false] := List.mem_of_getElem? ha
      simp only [List.mem_cons, List.not_mem_nil, or_false] at hmem
      rcases hmem with rfl | rfl | rfl <;> rfl
    rw [serialLine_record _ rfl hbyte, SerialPort.serialLine, SerialPort.serialLine, hbusy]
    rfl
  | writeFrame f =>
    right
    change ((encodeKissFrame f.command f.payload).map PortAct.byte)[done]? = some a at ha
    rw [List.getElem?_map] at ha
    obtain ⟨value, hvalue, rfl⟩ := Option.map_eq_some_iff.mp ha
    have hnext : (WriteJob.writeFrame f).bytes[done]? = some value := hvalue
    have hsent : (PortStay.section ⟨thread, .writeFrame f, handle, done⟩ false).sent = done := rfl
    have hjob : (PortStay.section ⟨thread, .writeFrame f, handle, done⟩ false).job =
      .writeFrame f := rfl
    rw [SerialLine.step, hline, hlook]
    dsimp only
    rw [hjob, hsent, hnext]
    simp [t, SerialPort.record, SerialPort.serialLine, PortEntry.byte, PortEntry.section,
      PortStay.section, PortStay.sent, hchecked]

/-- A step of the ports is a step of the line, or none. -/
theorem line_step {l : PortEvent} (h : s.Moves l t) :
    t.serialLine = s.serialLine ∨
      ∃ m, (∀ thread job, m = .enter thread job → l = .enter thread job) ∧
        s.serialLine.step m = some t.serialLine := by
  cases h with
  | enters thread job hidle =>
    have hline : s.serialLine.busy = none :=
      congrArg (Option.map fun x : PortStay => x.section false) hidle
    refine Or.inr ⟨.enter thread job, fun _ _ hm => (by cases hm; rfl), ?_⟩
    rw [SerialLine.step, hline]
    cases job <;> rfl
  | refused x hbusy hchecked hclosed =>
    have hlook : s.serialLine.checked = false := hchecked
    have hnone : ((x.section false).job.checksPort && !s.serialLine.isOpen) = true := by
      rwa [← Option.not_isSome] at hclosed
    refine Or.inr ⟨.check, fun _ _ hm => (by cases hm), ?_⟩
    rw [SerialLine.step, serialLine_busy hbusy, hlook]
    dsimp only
    rw [if_pos hnone, serialLine_leave]
  | looks x hbusy hchecked hfound =>
    have hline := serialLine_busy hbusy
    have hlook : s.serialLine.checked = false := hchecked
    have hsome : ¬ ((x.section false).job.checksPort && !s.serialLine.isOpen) = true := by
      rwa [← Option.not_isSome] at hfound
    refine Or.inr ⟨.check, fun _ _ hm => (by cases hm), ?_⟩
    rw [SerialLine.step, hline, hlook]
    dsimp only
    rw [if_neg hsome, ← hline]
    rfl
  | calls x p hbusy =>
    left
    rw [SerialPort.serialLine, SerialPort.serialLine, hbusy]
    rfl
  | acts x a p hbusy hchecked ha =>
    refine (line_act hbusy hchecked ha).imp id fun hsend => ⟨.send, ?_, hsend⟩
    exact fun _ _ hm => (by cases hm)
  | raises _ x hbusy hchecked =>
    exact Or.inr ⟨.fail, fun _ _ hm => (by cases hm), line_fail hbusy hchecked⟩
  | finishes x hbusy hchecked hdone =>
    have hlook : s.serialLine.checked = true := hchecked
    have hfull : (x.section false).sent = (x.section false).job.bytes.length := by
      obtain ⟨thread, job, handle, done⟩ := x
      cases job with
      | writeFrame f => exact hdone.trans (List.length_map _)
      | reset => rfl
      | flush => rfl
    refine Or.inr ⟨.finish, fun _ _ hm => (by cases hm), ?_⟩
    rw [SerialLine.step, serialLine_busy hbusy, hlook]
    dsimp only
    rw [if_pos hfull, serialLine_leave]
  | opens rts =>
    refine Or.inr ⟨.open, fun _ _ hm => (by cases hm), ?_⟩
    rw [serialLine_record _ rfl rfl]
    rfl
  | releases _ p a hp ha =>
    left
    refine serialLine_record s rfl ?_
    rcases ha with rfl | rfl <;> rfl
  | drops => exact Or.inr ⟨.close, fun _ _ hm => (by cases hm), rfl⟩

end SerialPort

/-- Frames are written with a command that needs no escape. -/
def PortEvent.Plain : PortEvent → Prop
  | .enter thread job => (LineEvent.enter thread job).Plain
  | _ => True

/-- Every run on the ports is a run of the line: the pulses, the swaps of the port under a thread in the
lock and the calls that find no port add nothing to what the line can carry. Where no command needs an
escape none does there, and the other end gets, stay by stay, the frame of every `write_frame` that
returned and at most the front of every other one. -/
theorem ports_refine_line {s : SerialPort} {ls : List PortEvent}
    (h : run SerialPort.step SerialPort.init ls = some s) :
    ∃ ms, run SerialLine.step SerialLine.init ms = some s.serialLine ∧
      ((∀ l ∈ ls, l.Plain) → (∀ m ∈ ms, m.Plain) ∧
        KissParser.init.frames s.serialLine.line++
            (s.serialLine.line.foldl KissParser.next KissParser.init).pending =
          s.serialLine.sections.flatMap WriteSection.seen ∧
        ∀ x ∈ s.serialLine.sections, ∀ f, x.job = .writeFrame f →
          (x.returned = true → x.seen = [f]) ∧ x.seen.length ≤ 1 ∧
            ∀ g ∈ x.seen, g.command = f.command ∧ g.payload <+: f.payload) := by
  have hrefines : ∃ ms : List LineEvent,
      (∀ m ∈ ms, ∀ thread job, m = .enter thread job → PortEvent.enter thread job ∈ ls) ∧
        run SerialLine.step SerialLine.init ms = some s.serialLine := by
    refine run_refines (f := SerialPort.serialLine) (P := fun l => l ∈ ls) (fun u l t hl hstep => ?_)
      (fun _ hl => hl) h
    rcases SerialPort.line_step (SerialPort.step_moves hstep) with hsame | ⟨m, henter, hm⟩
    · exact ⟨[], fun _ hmem => (List.not_mem_nil hmem).elim, run_nil.mpr hsame.symm⟩
    · refine ⟨[m], fun m' hmem thread job he => ?_, run_singleton.mpr hm⟩
      obtain rfl := List.mem_singleton.mp hmem
      rwa [henter thread job he] at hl
  obtain ⟨ms, henter, hms⟩ := hrefines
  refine ⟨ms, hms, fun hplain => ?_⟩
  have hlabels : ∀ m ∈ ms, m.Plain := by
    intro m hm
    cases m with
    | enter thread job => exact hplain _ (henter _ hm thread job rfl)
    | check | send | finish | fail | «open» | close => trivial
  have hframed := framed_run hlabels hms
  exact ⟨hlabels, hframed.frames, fun x hx f hjob => hframed.seen hx hjob⟩

/-- A reset whose port is closed under it, then a frame that breaks off, then another. -/
theorem ports_refine_line_dropped :
    let events : List PortEvent := [.openPort true, .enter 1 .reset, .check, .act, .dropPort, .act,
      .openPort true, .enter 2 (.writeFrame ⟨0x00, [0x41]⟩), .check, .call, .act, .act, .fail,
      .enter 1 (.writeFrame ⟨0x00, [0x42]⟩), .check, .call, .act, .act, .act, .act, .finish]
    ∃ s, run SerialPort.step SerialPort.init events = some s ∧
      s.serialLine.line = [0xC0, 0x00, 0xC0, 0x00, 0x42, 0xC0] ∧
      ∃ ms, run SerialLine.step SerialLine.init ms = some s.serialLine ∧
        KissParser.init.frames s.serialLine.line++
            (s.serialLine.line.foldl KissParser.next KissParser.init).pending =
          [⟨0x00, []⟩, ⟨0x00, [0x42]⟩] := by
  intro events
  have hrun : ∃ s, run SerialPort.step SerialPort.init events = some s ∧
      s.serialLine.line = [0xC0, 0x00, 0xC0, 0x00, 0x42, 0xC0] ∧
      s.serialLine.sections.flatMap WriteSection.seen = [⟨0x00, []⟩, ⟨0x00, [0x42]⟩] :=
    ⟨_, rfl, rfl, by decide⟩
  obtain ⟨s, hs, hline, hseen⟩ := hrun
  have hplain : ∀ l ∈ events, l.Plain := by
    simp [events, PortEvent.Plain, LineEvent.Plain]
    decide
  obtain ⟨ms, hms, hframing⟩ := ports_refine_line hs
  exact ⟨s, hs, hline, ms, hms, (hframing hplain).2.1.trans hseen⟩

def PortEntry.rts (p : ℕ) : PortEntry → Option Bool
  | opened q level => if q = p then some level else none
  | act q (.rts level) => if q = p then some level else none
  | _ => none

/-- The level the RTS line of a port was last set to, when it was opened or since. -/
def rtsLevel (p : ℕ) (log : List PortEntry) : Option Bool :=
  (log.filterMap (PortEntry.rts p)).getLast?

/-- A `reset` that has asserted RTS and not yet let go of it. -/
def PortStay.inPulse (x : PortStay) : Bool := x.job = .reset && x.done = 2

/-- A `reset` left the lock inside its pulse, so it raised. -/
def PortEntry.tears : PortEntry → Bool
  | opened _ _ => false
  | act _ _ => false
  | left x _ => x.inPulse

def TornPulse (log : List PortEntry) : Prop := ∃ e ∈ log, e.tears = true

/-- Since the port was opened nobody has set its RTS: `open` lets go of it next. -/
def Untouched (p : ℕ) (log : List PortEntry) : Prop := ∀ level, .act p (.rts level) ∉ log

theorem rtsLevel_concat (p : ℕ) (log : List PortEntry) (e : PortEntry) :
    rtsLevel p (log++[e]) = (e.rts p).or (rtsLevel p log) :=
  getLast?_filterMap_concat (PortEntry.rts p) log e

theorem TornPulse.concat {log : List PortEntry} (h : TornPulse log) (e : PortEntry) :
    TornPulse (log++[e]) := by
  obtain ⟨e', he', htears⟩ := h
  exact ⟨e', List.mem_append_left _ he', htears⟩

theorem Untouched.concat {p : ℕ} {log : List PortEntry} (h : Untouched p log) {e : PortEntry}
    (he : ∀ level, e ≠ .act p (.rts level)) : Untouched p (log++[e]) := by
  intro level hmem
  rcases List.mem_append.mp hmem with hmem | hmem
  · exact h level hmem
  · exact he level (List.mem_singleton.mp hmem).symm

/-- The RTS of a port is as the driver left it, or a pulse broke off before. -/
def Excused (p : ℕ) (log : List PortEntry) : Prop := Untouched p log ∨ TornPulse log

theorem Excused.concat {p : ℕ} {log : List PortEntry} (h : Excused p log) {e : PortEntry}
    (he : ∀ level, e ≠ .act p (.rts level)) : Excused p (log++[e]) :=
  h.imp (fun huntouched => huntouched.concat he) fun htorn => htorn.concat e

/-- A byte goes out while RTS is asserted only on a port whose RTS nobody has set since it was opened, or
after a pulse that broke off. -/
def Apart (before : List PortEntry) (e : PortEntry) : Prop :=
  ∀ p value, e = .act p (.byte value) → rtsLevel p before = some true → Excused p before

/-- The ports that are still in use have their RTS asserted only in a pulse, by their driver, or after a
pulse that broke off. -/
structure Pulsed (s : SerialPort) : Prop where
  known : ∀ p, s.port = some p → p < s.ports
  handle : ∀ x p, s.busy = some x → x.handle = some p → p < s.ports ∧ x.job.oneCall = true
  fresh : ∀ p, s.ports ≤ p → Untouched p s.log
  current : ∀ p, s.port = some p → rtsLevel p s.log = some true →
    (∃ x, s.busy = some x ∧ x.inPulse = true) ∨ Excused p s.log
  written : ∀ x p, s.busy = some x → x.handle = some p → rtsLevel p s.log = some true →
    Excused p s.log
  apart : AtEach Apart s.log

theorem acts_cases {job : WriteJob} {done : ℕ} {a : PortAct} (h : job.acts[done]? = some a) :
    (job.oneCall = true ∧ ∃ value, a = .byte value) ∨ (job = .reset ∧ done = 0 ∧ a = .dtr false) ∨
      (job = .reset ∧ done = 1 ∧ a = .rts true) ∨ (job = .reset ∧ done = 2 ∧ a = .rts false) := by
  cases job with
  | writeFrame f =>
    obtain ⟨value, _, rfl⟩ := List.mem_map.mp (List.mem_of_getElem? h)
    exact Or.inl ⟨rfl, value, rfl⟩
  | flush => cases h
  | reset =>
    have hlt : done < 3 := (List.getElem?_eq_some_iff.mp h).1
    obtain rfl | rfl | rfl : done = 0 ∨ done = 1 ∨ done = 2 := by omega
    all_goals cases h
    · exact Or.inr (Or.inl ⟨rfl, rfl, rfl⟩)
    · exact Or.inr (Or.inr (Or.inl ⟨rfl, rfl, rfl⟩))
    · exact Or.inr (Or.inr (Or.inr ⟨rfl, rfl, rfl⟩))

theorem inPulse_of_oneCall {x : PortStay} (h : x.job.oneCall = true) : x.inPulse = false := by
  obtain ⟨thread, job, handle, done⟩ := x
  cases job with
  | reset => cases h
  | writeFrame f => rfl
  | flush => rfl

namespace Pulsed

variable {s t : SerialPort} {x : PortStay}

/-- Outside a pulse the port in use has its RTS asserted only by its driver or after a pulse that broke
off. -/
theorem excused (hs : Pulsed s) (hbusy : s.busy = some x) (hx : x.inPulse = false) {p : ℕ}
    (hp : s.port = some p) (hlevel : rtsLevel p s.log = some true) : Excused p s.log := by
  rcases hs.current p hp hlevel with ⟨y, hy, hpulse⟩ | hexcused
  · rw [hbusy] at hy
    cases hy
    rw [hx] at hpulse
    cases hpulse
  · exact hexcused

theorem leave (hs : Pulsed s) (hbusy : s.busy = some x) (returned : Bool) :
    Pulsed (s.leave x returned) := by
  have hlevel (p : ℕ) : rtsLevel p (s.log++[.left x returned]) = rtsLevel p s.log :=
    rtsLevel_concat p s.log _
  have hnoact (p : ℕ) (level : Bool) : PortEntry.left x returned ≠ .act p (.rts level) := by simp
  constructor
  · exact hs.known
  · exact fun _ _ hidle => by cases hidle
  · exact fun p hp => (hs.fresh p hp).concat (hnoact p)
  · intro p hp htrue
    right
    -- Who leaves inside its pulse has torn it; else the level is older.
    cases hx : x.inPulse with
    | true =>
      exact Or.inr ⟨.left x returned, List.mem_append_right _ (List.mem_singleton.mpr rfl), hx⟩
    | false =>
      have hold := hs.excused hbusy hx hp ((hlevel p).symm.trans htrue)
      exact hold.concat (hnoact p)
  · exact fun _ _ hidle => by cases hidle
  · exact atEach_concat hs.apart fun _ _ he => by cases he

/-- An act that is none of the RTS line, outside a pulse. -/
theorem silent (hs : Pulsed s) (hbusy : s.busy = some x) (hx : x.inPulse = false) (done : ℕ)
    {p : ℕ} {a : PortAct} (ha : ∀ level, a ≠ .rts level) (hapart : Apart s.log (.act p a)) :
    Pulsed ({ s with busy := some { x with done := done } }.record (.act p a)) := by
  have hnone (q : ℕ) : (PortEntry.act p a).rts q = none := by
    cases a with
    | rts level => exact absurd rfl (ha level)
    | byte | dtr => rfl
  have hlevel (q : ℕ) : rtsLevel q (s.log++[.act p a]) = rtsLevel q s.log := by
    rw [rtsLevel_concat, hnone q]
    rfl
  have hnoact (q : ℕ) (level : Bool) : PortEntry.act p a ≠ .act q (.rts level) := by simp [ha level]
  constructor
  · exact hs.known
  · intro y q hy hq
    cases hy
    exact hs.handle x q hbusy hq
  · exact fun q hq => (hs.fresh q hq).concat (hnoact q)
  · intro q hq htrue
    have hold := hs.excused hbusy hx hq ((hlevel q).symm.trans htrue)
    exact Or.inr (hold.concat (hnoact q))
  · intro y q hy hq htrue
    cases hy
    have hold := hs.written x q hbusy hq ((hlevel q).symm.trans htrue)
    exact hold.concat (hnoact q)
  · exact atEach_concat hs.apart hapart

/-- RTS of the port in use is set: asserted inside a pulse, or let go. -/
theorem set (hs : Pulsed s) {p : ℕ} (hp : s.port = some p) {busy : Option PortStay} {level : Bool}
    (hhandle : ∀ y q, busy = some y → y.handle = some q → s.busy = some y)
    (hpulse : level = true → ∃ y, busy = some y ∧ y.inPulse = true) :
    Pulsed ({ s with busy := busy }.record (.act p (.rts level))) := by
  have hset : rtsLevel p (s.log++[.act p (.rts level)]) = some level := by
    rw [rtsLevel_concat, PortEntry.rts, if_pos rfl]
    rfl
  have hother {q : ℕ} (hne : p ≠ q) :
      rtsLevel q (s.log++[.act p (.rts level)]) = rtsLevel q s.log := by
    rw [rtsLevel_concat, PortEntry.rts, if_neg hne]
    rfl
  have hnoact {q : ℕ} (hne : p ≠ q) (l : Bool) :
      PortEntry.act p (.rts level) ≠ .act q (.rts l) := by simp [hne]
  constructor
  · exact hs.known
  · exact fun y q hy hq => hs.handle y q (hhandle y q hy hq) hq
  · intro q hq
    have hne : p ≠ q := Nat.ne_of_lt (Nat.lt_of_lt_of_le (hs.known p hp) hq)
    exact (hs.fresh q hq).concat (hnoact hne)
  · intro q hq htrue
    obtain rfl : p = q := Option.some.inj (hp.symm.trans hq)
    exact Or.inl (hpulse (Option.some.inj (hset.symm.trans htrue)))
  · intro y q hy hq htrue
    have hbusy := hhandle y q hy hq
    by_cases hpq : p = q
    · -- Who holds the port by a call of its own is not in a pulse.
      subst hpq
      obtain ⟨y', hy', hin⟩ := hpulse (Option.some.inj (hset.symm.trans htrue))
      obtain rfl : y = y' := Option.some.inj (hy.symm.trans hy')
      rw [inPulse_of_oneCall (hs.handle y p hbusy hq).2] at hin
      cases hin
    · have hold := hs.written y q hbusy hq ((hother hpq).symm.trans htrue)
      exact hold.concat (hnoact hpq)
  · exact atEach_concat hs.apart fun _ _ he => by cases he

/-- A new port, with its RTS as the driver leaves it. -/
theorem openPort (hs : Pulsed s) (level : Bool) :
    Pulsed ({ s with port := some s.ports, ports := s.ports+1 }.record (.opened s.ports level)) := by
  have hother {q : ℕ} (hne : s.ports ≠ q) :
      rtsLevel q (s.log++[.opened s.ports level]) = rtsLevel q s.log := by
    rw [rtsLevel_concat, PortEntry.rts, if_neg hne]
    rfl
  have hnoact (q : ℕ) (l : Bool) : PortEntry.opened s.ports level ≠ .act q (.rts l) := by simp
  have hnew : Untouched s.ports (s.log++[.opened s.ports level]) :=
    (hs.fresh s.ports (Nat.le_refl _)).concat (hnoact _)
  constructor
  · intro p hp
    cases hp
    exact Nat.lt_succ_self _
  · intro x p hx hp
    obtain ⟨hlt, hcall⟩ := hs.handle x p hx hp
    exact ⟨Nat.lt_succ_of_lt hlt, hcall⟩
  · exact fun p hp => (hs.fresh p (Nat.le_of_succ_le hp)).concat (hnoact p)
  · intro p hp htrue
    cases hp
    exact Or.inr (Or.inl hnew)
  · intro x p hx hp htrue
    have hne : s.ports ≠ p := (Nat.ne_of_lt (hs.handle x p hx hp).1).symm
    have hold := hs.written x p hx hp ((hother hne).symm.trans htrue)
    exact hold.concat (hnoact p)
  · exact atEach_concat hs.apart fun _ _ he => by cases he

theorem act (hs : Pulsed s) (hbusy : s.busy = some x) {a : PortAct} {p : ℕ}
    (ha : x.job.acts[x.done]? = some a) (hp : s.target x = some p) :
    Pulsed ({ s with busy := some { x with done := x.done+1 } }.record (.act p a)) := by
  rw [SerialPort.target] at hp
  rcases acts_cases ha with ⟨hcall, value, rfl⟩ | ⟨hjob, hdone, rfl⟩ | ⟨hjob, hdone, rfl⟩ |
    ⟨hjob, hdone, rfl⟩
  · rw [if_pos hcall] at hp
    refine hs.silent hbusy (inPulse_of_oneCall hcall) _ (fun _ h => (by cases h)) fun q v he htrue => ?_
    cases he
    exact hs.written x p hbusy hp htrue
  · have hx : x.inPulse = false := by simp [PortStay.inPulse, hdone]
    exact hs.silent hbusy hx _ (fun _ h => (by cases h)) fun _ _ he => by cases he
  all_goals
    have hcall : x.job.oneCall = false := by rw [hjob]; rfl
    have hport : s.port = some p := by rwa [if_neg (by simp [hcall])] at hp
    refine hs.set hport (fun y q hy hq => ?_) fun hlevel => ?_
    · cases hy
      rw [(hs.handle x q hbusy hq).2] at hcall
      cases hcall
  · exact ⟨_, rfl, by simp [PortStay.inPulse, hjob, hdone]⟩
  · cases hlevel

theorem step {l : PortEvent} (hs : Pulsed s) (h : s.Moves l t) : Pulsed t := by
  cases h with
  | enters thread job hidle =>
    refine ⟨hs.known, fun _ _ hy hq => ?_, hs.fresh, fun p hp htrue => ?_, fun _ _ hy hq => ?_,
      hs.apart⟩
    · cases hy
      cases hq
    · rcases hs.current p hp htrue with ⟨y, hy, _⟩ | hexcused
      · rw [hidle] at hy
        cases hy
      · exact Or.inr hexcused
    · cases hy
      cases hq
  | refused x hbusy => exact hs.leave hbusy false
  | looks => exact ⟨hs.known, hs.handle, hs.fresh, hs.current, hs.written, hs.apart⟩
  | calls x p hbusy hcall hp =>
    have hexcused (q : ℕ) (hq : s.port = some q) := hs.excused hbusy (inPulse_of_oneCall hcall) hq
    refine ⟨hs.known, fun _ q hy hq => ?_, hs.fresh, fun q hq htrue => Or.inr (hexcused q hq htrue),
      fun _ q hy hq htrue => ?_, hs.apart⟩
    · cases hy
      cases hq
      exact ⟨hs.known p hp, hcall⟩
    · cases hy
      cases hq
      exact hexcused p hp htrue
  | acts x a p hbusy _ ha hp => exact hs.act hbusy ha hp
  | raises _ x hbusy => exact hs.leave hbusy false
  | finishes x hbusy => exact hs.leave hbusy true
  | opens rts => exact hs.openPort rts
  | releases _ p a hp ha =>
    rcases ha with rfl | rfl
    · exact hs.set hp (fun _ _ hy _ => hy) fun hlevel => by cases hlevel
    · have hlevel (q : ℕ) : rtsLevel q (s.log++[.act p (.dtr false)]) = rtsLevel q s.log :=
        rtsLevel_concat q s.log _
      have hnoact (q : ℕ) (level : Bool) : PortEntry.act p (.dtr false) ≠ .act q (.rts level) := by
        simp
      refine ⟨hs.known, hs.handle, fun q hq => (hs.fresh q hq).concat (hnoact q),
        fun q hq htrue => ?_, fun x q hx hq htrue => ?_,
        atEach_concat hs.apart fun _ _ he => by cases he⟩
      · have hold := hs.current q hq ((hlevel q).symm.trans htrue)
        exact hold.imp id fun hexcused => hexcused.concat (hnoact q)
      · exact (hs.written x q hx hq ((hlevel q).symm.trans htrue)).concat (hnoact q)
  | drops =>
    exact ⟨fun _ hp => (by cases hp), hs.handle, hs.fresh, fun _ hp => (by cases hp), hs.written,
      hs.apart⟩

end Pulsed

/-- A `reset` that raises in its pulse leaves the device in reset, and the next frame is lost on it. -/
example : ∃ s, run SerialPort.step SerialPort.init [.openPort true, .releaseRts, .enter 1 .reset, .check,
    .act, .act, .fail, .enter 2 (.writeFrame ⟨0x00, []⟩), .check, .call, .act, .act, .act, .finish] =
      some s ∧ rtsLevel 0 s.log = some true ∧ s.log.filterMap PortEntry.byte = [0xC0, 0x00, 0xC0] :=
  ⟨_, rfl, rfl, rfl⟩

/-- A frame goes out before `open` has let go of RTS. -/
example : ∃ s, run SerialPort.step SerialPort.init [.openPort true, .enter 2 (.writeFrame ⟨0x00, []⟩),
    .check, .call, .act, .act, .act, .finish, .releaseRts] = some s ∧
      s.log.take 2 = [.opened 0 true, .act 0 (.byte 0xC0)] := ⟨_, rfl, rfl⟩

end Kv4p

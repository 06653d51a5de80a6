import Kv4p.Library.Transition
import Mathlib.Data.List.Count

/-! Opening and closing of the serial transport step by step, as the radio calls them, against the
receiving threads it starts, which `close` waits for, but not for ever. -/
namespace Kv4p
open Transitions

/-- Where a receiving thread is in `_read_loop`. -/
inductive ReadStage
  | checking
  | calling
  | inRead (port : ℕ)
  | failed
  | reporting
  | feeding (port : ℕ) (data : List UInt8)
deriving DecidableEq

structure Receiver where
  id : ℕ
  stage : ReadStage
deriving DecidableEq

/-- Where the radio is with its transport. -/
inductive ControlStage
  | closed
  | prepared
  | opening
  | starting
  | cleared
  | opened
  | stopping
  | dropped (port : Option ℕ)
  | joining
deriving DecidableEq

/-- The session has not started its thread, or is over. -/
def ControlStage.isIdle : ControlStage → Bool
  | closed => true
  | prepared => true
  | opening => true
  | starting => true
  | cleared => true
  | _ => false

/-- What a receiving thread is started on and what it calls: `feed` with what it read from a port, on
the parser there is at that moment, and `on_error`. -/
inductive ReceiverCall
  | begun (id : ℕ) (port : Option ℕ) (parser : ℕ)
  | fed (id : ℕ) (port parser : ℕ) (data : List UInt8)
  | error (id : ℕ)
deriving DecidableEq

structure SerialSession where
  control : ControlStage
  stop : Bool
  /-- How many parsers there were: `self._parser` is the last. -/
  parsers : ℕ
  /-- `self._serial`, and how many ports there were. -/
  port : Option ℕ
  ports : ℕ
  /-- `self._thread`, and how many threads were made. -/
  thread : Option ℕ
  started : ℕ
  receivers : List Receiver
  /-- The threads `close` stopped waiting for. -/
  givenUp : List ℕ
  log : List ReceiverCall
deriving DecidableEq

/-- How a call ends that the thread cannot foresee. -/
inductive ReadAnswer
  | returns (data : List UInt8)
  | raises
deriving DecidableEq

/-- The port a thread reads from, or has read from and not yet fed. -/
def ReadStage.port : ReadStage → Option ℕ
  | inRead p => some p
  | feeding p _ => some p
  | _ => none

/-- What happens next: the radio makes the next step of `open` or `close`, or a receiving thread, given
by its place in the list, the next step of its loop. -/
inductive SessionEvent
  | newParser
  | openPort (ok : Bool)
  | setPins (ok : Bool)
  | clearStop
  | startThread (ok : Bool)
  | setStop
  | dropPort
  | closePort (ok : Bool)
  | join (ok : Bool)
  | receive (place : ℕ) (answer : ReadAnswer)
deriving DecidableEq

/-- The next step of a receiving thread: what is left of it, and what it calls. -/
def Receiver.next (stop : Bool) (parser : ℕ) (port : Option ℕ) (r : Receiver)
    (answer : ReadAnswer) : List Receiver × List ReceiverCall :=
  match r.stage with
  | .checking => if stop then ([], []) else ([{ r with stage := .calling }], [])
  | .calling =>
    match port with
    | some p => ([{ r with stage := .inRead p }], [])
    | none => ([{ r with stage := .failed }], [])
  | .inRead p =>
    match answer with
    | .returns [] => ([{ r with stage := .checking }], [])
    | .returns data => ([{ r with stage := .feeding p data }], [])
    | .raises => ([{ r with stage := .failed }], [])
  | .failed => if stop then ([], []) else ([{ r with stage := .reporting }], [])
  | .reporting => ([], [.error r.id])
  | .feeding p data =>
    match answer with
    | .returns _ => ([{ r with stage := .checking }], [.fed r.id p parser data])
    -- What the frame callback raises ends the thread.
    | .raises => ([], [.fed r.id p parser data])

namespace SerialSession

def init : SerialSession := ⟨.closed, false, 0, none, 0, none, 0, [], [], []⟩

def timeouts (s : SerialSession) : ℕ := s.givenUp.length

def isAlive (s : SerialSession) (id : ℕ) : Bool := s.receivers.any (·.id == id)

def step (s : SerialSession) : SessionEvent → Option SerialSession
  | .newParser =>
    if s.control = .closed then some { s with control := .prepared, parsers := s.parsers+1 } else none
  | .openPort ok =>
    if s.control = .prepared then
      if ok then some { s with control := .opening, port := some s.ports, ports := s.ports+1 }
      else some { s with control := .closed }
    else none
  | .setPins ok =>
    if s.control = .opening then
      if ok then some { s with control := .starting }
      -- The port stays open, and the radio takes the transport for closed.
      else some { s with control := .closed }
    else none
  | .clearStop =>
    if s.control = .starting then some { s with control := .cleared, stop := false } else none
  | .startThread ok =>
    if s.control = .cleared then
      if ok then some { s with
        control := .opened
        thread := some s.started
        started := s.started+1
        receivers := s.receivers++[⟨s.started, .checking⟩]
        log := s.log++[.begun s.started s.port s.parsers] }
      else some { s with control := .closed, thread := some s.started, started := s.started+1 }
    else none
  | .setStop =>
    if s.control = .opened then some { s with control := .stopping, stop := true } else none
  | .dropPort =>
    if s.control = .stopping then some { s with control := .dropped s.port, port := none } else none
  | .closePort ok =>
    match s.control with
    | .dropped port =>
      if ok || port.isNone then some { s with control := .joining }
      -- What closing the port raises leaves the radio open.
      else some { s with control := .opened }
    | _ => none
  | .join ok =>
    if s.control = .joining then
      match s.thread with
      | none => some { s with control := .closed }
      | some id =>
        -- A thread that does not end within two seconds is left to itself.
        if ok then some { s with
          control := .closed
          thread := none
          givenUp := if s.isAlive id then s.givenUp++[id] else s.givenUp }
        -- In the frame callback the receiving thread would wait for itself.
        else some { s with control := .opened }
    else none
  | .receive place answer =>
    match s.receivers[place]? with
    | none => none
    | some r =>
      let (left, calls) := r.next s.stop s.parsers s.port answer
      some { s with
        receivers := s.receivers.take place++left++s.receivers.drop (place+1)
        log := s.log++calls }

/-- What an event can do, and when. -/
inductive Moves (s : SerialSession) : SessionEvent → SerialSession → Prop
  | prepares (hc : s.control = .closed) :
      Moves s .newParser { s with control := .prepared, parsers := s.parsers+1 }
  | opens (hc : s.control = .prepared) : Moves s (.openPort true)
      { s with control := .opening, port := some s.ports, ports := s.ports+1 }
  | givesUp (l : SessionEvent) (hl : l = .openPort false ∨ l = .setPins false)
      (hc : s.control.isIdle = true) : Moves s l { s with control := .closed }
  | sets (hc : s.control = .opening) : Moves s (.setPins true) { s with control := .starting }
  | clears (hc : s.control = .starting) :
      Moves s .clearStop { s with control := .cleared, stop := false }
  | begins (hc : s.control = .cleared) : Moves s (.startThread true) { s with
      control := .opened
      thread := some s.started
      started := s.started+1
      receivers := s.receivers++[⟨s.started, .checking⟩]
      log := s.log++[.begun s.started s.port s.parsers] }
  | aborts (hc : s.control = .cleared) : Moves s (.startThread false)
      { s with control := .closed, thread := some s.started, started := s.started+1 }
  | stops (hc : s.control = .opened) : Moves s .setStop { s with control := .stopping, stop := true }
  | drops (hc : s.control = .stopping) :
      Moves s .dropPort { s with control := .dropped s.port, port := none }
  | closes (ok : Bool) (hc : s.control.isIdle = false) :
      Moves s (.closePort ok) { s with control := .joining }
  | keeps (l : SessionEvent) (hl : l = .closePort false ∨ l = .join false)
      (hc : s.control.isIdle = false) : Moves s l { s with control := .opened }
  | ends (ok : Bool) (hthread : s.thread = none) : Moves s (.join ok) { s with control := .closed }
  | joins (id : ℕ) (hthread : s.thread = some id) : Moves s (.join true) { s with
      control := .closed
      thread := none
      givenUp := if s.isAlive id then s.givenUp++[id] else s.givenUp }
  | receives (place : ℕ) (answer : ReadAnswer) (r : Receiver) (hr : s.receivers[place]? = some r) :
      Moves s (.receive place answer) { s with
        receivers := s.receivers.take place++(r.next s.stop s.parsers s.port answer).1++
          s.receivers.drop (place+1)
        log := s.log++(r.next s.stop s.parsers s.port answer).2 }

theorem step_moves {s t : SerialSession} {l : SessionEvent} (h : s.step l = some t) :
    s.Moves l t := by
  cases l with
  | newParser =>
    rw [SerialSession.step] at h
    split at h
    · cases h
      exact .prepares ‹_›
    · cases h
  | openPort ok =>
    rw [SerialSession.step] at h
    split at h
    · rename_i hc
      cases ok with
      | true =>
        cases h
        exact .opens hc
      | false =>
        cases h
        exact .givesUp _ (Or.inl rfl) (by rw [hc]; rfl)
    · cases h
  | setPins ok =>
    rw [SerialSession.step] at h
    split at h
    · rename_i hc
      cases ok with
      | true =>
        cases h
        exact .sets hc
      | false =>
        cases h
        exact .givesUp _ (Or.inr rfl) (by rw [hc]; rfl)
    · cases h
  | clearStop =>
    rw [SerialSession.step] at h
    split at h
    · cases h
      exact .clears ‹_›
    · cases h
  | startThread ok =>
    rw [SerialSession.step] at h
    split at h
    · rename_i hc
      cases ok with
      | true =>
        cases h
        exact .begins hc
      | false =>
        cases h
        exact .aborts hc
    · cases h
  | setStop =>
    rw [SerialSession.step] at h
    split at h
    · cases h
      exact .stops ‹_›
    · cases h
  | dropPort =>
    rw [SerialSession.step] at h
    split at h
    · cases h
      exact .drops ‹_›
    · cases h
  | closePort ok =>
    rw [SerialSession.step] at h
    split at h
    · rename_i port hc
      have hbusy : s.control.isIdle = false := by rw [hc]; rfl
      cases ok with
      | true =>
        cases h
        exact .closes true hbusy
      | false =>
        split at h
        · cases h
          exact .closes false hbusy
        · cases h
          exact .keeps _ (Or.inl rfl) hbusy
    · cases h
  | join ok =>
    rw [SerialSession.step] at h
    split at h
    · rename_i hc
      split at h
      · cases h
        exact .ends ok ‹_›
      · cases ok with
        | true =>
          cases h
          exact .joins _ ‹_›
        | false =>
          cases h
          exact .keeps _ (Or.inr rfl) (by rw [hc]; rfl)
    · cases h
  | receive place answer =>
    rw [SerialSession.step] at h
    split at h
    · cases h
    · cases h
      exact .receives place answer _ ‹_›

end SerialSession

/-- A call of `on_error` by this thread. -/
def ReceiverCall.isErrorOf (id : ℕ) : ReceiverCall → Bool
  | begun _ _ _ => false
  | fed _ _ _ _ => false
  | error caller => caller == id

/-- A chunk this thread fed to the parser. -/
def ReceiverCall.isFedBy (id : ℕ) : ReceiverCall → Bool
  | begun _ _ _ => false
  | fed caller _ _ _ => caller == id
  | error _ => false

/-- The thread is past the last look at the stop flag before it calls `on_error`. -/
def Receiver.isReporting (r : Receiver) : Bool := r.stage = .reporting

/-- The thread is past the last look at the stop flag before it feeds the parser. -/
def Receiver.isReading (r : Receiver) : Bool :=
  match r.stage with
  | .calling => true
  | .inRead _ => true
  | .feeding _ _ => true
  | _ => false

namespace SerialSession

/-- Calls of `on_error` by this thread, made and on their way. -/
def errors (s : SerialSession) (id : ℕ) : ℕ :=
  s.log.countP (ReceiverCall.isErrorOf id)+s.receivers.countP fun r => r.id == id && r.isReporting

/-- Chunks this thread fed to the parser, and one if it may still feed one. -/
def feeds (s : SerialSession) (id : ℕ) : ℕ :=
  s.log.countP (ReceiverCall.isFedBy id)+s.receivers.countP fun r => r.id == id && r.isReading

end SerialSession

/-- A step of a thread: it goes on to another stage, or ends, or reports what it had found out, or feeds
what it had read. It comes to a port only by looking it up. With the stop flag set it goes on to no
report, and to no read but one it was at. -/
theorem next_cases (stop : Bool) (parser : ℕ) (port : Option ℕ) (r : Receiver)
    (answer : ReadAnswer) :
    (∃ stage, r.next stop parser port answer = ([{ r with stage := stage }], []) ∧
      (∀ q, stage.port = some q → r.stage.port = some q ∨ port = some q) ∧
      (stop = true → stage ≠ .reporting ∧
        (Receiver.isReading { r with stage := stage } = true → r.isReading = true))) ∨
    r.next stop parser port answer = ([], []) ∨
    (r.isReporting = true ∧ r.next stop parser port answer = ([], [.error r.id])) ∨
    (∃ p data, r.stage = .feeding p data ∧
      (r.next stop parser port answer = ([{ r with stage := .checking }], [.fed r.id p parser data]) ∨
        r.next stop parser port answer = ([], [.fed r.id p parser data]))) := by
  obtain ⟨id, stage⟩ := r
  cases stage with
  | checking =>
    cases stop with
    | true => exact Or.inr (Or.inl rfl)
    | false => exact Or.inl ⟨.calling, rfl, fun _ h => (by cases h), fun h => by cases h⟩
  | calling =>
    cases port with
    | none =>
      exact Or.inl ⟨.failed, rfl, fun _ h => (by cases h), fun _ => ⟨by decide, fun h => by cases h⟩⟩
    | some p => exact Or.inl ⟨.inRead p, rfl, fun _ h => Or.inr h, fun _ => ⟨by simp, fun _ => rfl⟩⟩
  | inRead p =>
    cases answer with
    | returns data =>
      cases data with
      | nil =>
        exact Or.inl ⟨.checking, rfl, fun _ h => (by cases h),
          fun _ => ⟨by decide, fun h => by cases h⟩⟩
      | cons byte data =>
        exact Or.inl ⟨.feeding p (byte :: data), rfl, fun _ h => Or.inl h,
          fun _ => ⟨by simp, fun _ => rfl⟩⟩
    | raises =>
      exact Or.inl ⟨.failed, rfl, fun _ h => (by cases h), fun _ => ⟨by decide, fun h => by cases h⟩⟩
  | failed =>
    cases stop with
    | true => exact Or.inr (Or.inl rfl)
    | false => exact Or.inl ⟨.reporting, rfl, fun _ h => (by cases h), fun h => by cases h⟩
  | reporting => exact Or.inr (Or.inr (Or.inl ⟨rfl, rfl⟩))
  | feeding p data =>
    cases answer with
    | returns _ => exact Or.inr (Or.inr (Or.inr ⟨p, data, rfl, Or.inl rfl⟩))
    | raises => exact Or.inr (Or.inr (Or.inr ⟨p, data, rfl, Or.inr rfl⟩))

/-- A thread ends or goes on, and it ends when it reports an error. -/
theorem next_count (stop : Bool) (parser : ℕ) (port : Option ℕ) (r : Receiver)
    (answer : ReadAnswer) (id : ℕ) :
    (r.next stop parser port answer).2.countP (ReceiverCall.isErrorOf id)+
        (r.next stop parser port answer).1.countP (·.id == id) ≤ [r].countP (·.id == id) := by
  rcases next_cases stop parser port r answer with ⟨stage, h, _⟩ | h | ⟨_, h⟩ | ⟨p, data, _, h | h⟩
  all_goals
    rw [h]
    cases hid : r.id == id <;> simp [hid, ReceiverCall.isErrorOf]

/-- With the stop flag set a thread reports only what it was about to report, and feeds only what it was
about to read. -/
theorem next_stopped (parser : ℕ) (port : Option ℕ) (r : Receiver) (answer : ReadAnswer) (id : ℕ) :
    (r.next true parser port answer).2.countP (ReceiverCall.isErrorOf id)+
        (r.next true parser port answer).1.countP (fun r => r.id == id && r.isReporting) ≤
      [r].countP (fun r => r.id == id && r.isReporting) ∧
    (r.next true parser port answer).2.countP (ReceiverCall.isFedBy id)+
        (r.next true parser port answer).1.countP (fun r => r.id == id && r.isReading) ≤
      [r].countP fun r => r.id == id && r.isReading := by
  rcases next_cases true parser port r answer with ⟨stage, h, _, hstop⟩ | h | ⟨hr, h⟩ |
    ⟨p, data, hfeeding, hfed⟩
  · obtain ⟨hreport, hread⟩ := hstop rfl
    rw [h]
    have hnot : Receiver.isReporting { r with stage := stage } = false := by
      simp [Receiver.isReporting, hreport]
    refine ⟨by simp [hnot], ?_⟩
    cases hs : Receiver.isReading { r with stage := stage } with
    | false => simp [hs]
    | true => simp [hs, hread hs]
  · rw [h]
    simp
  · rw [h]
    cases hid : r.id == id <;> simp [hid, hr, ReceiverCall.isErrorOf, ReceiverCall.isFedBy]
  · have hreading : r.isReading = true := by rw [Receiver.isReading, hfeeding]
    have hnot : Receiver.isReporting { r with stage := .checking } = false := rfl
    have hidle : Receiver.isReading { r with stage := .checking } = false := rfl
    rcases hfed with h | h
    all_goals
      rw [h]
      cases hid : r.id == id <;>
        simp [hid, hreading, hnot, hidle, ReceiverCall.isErrorOf, ReceiverCall.isFedBy]

/-- The place of the thread that makes a step, among those before and after it. -/
theorem receivers_split {s : SerialSession} {place : ℕ} {r : Receiver}
    (h : s.receivers[place]? = some r) :
    s.receivers = s.receivers.take place++[r]++s.receivers.drop (place+1) := by
  obtain ⟨hlt, hget⟩ := List.getElem?_eq_some_iff.mp h
  rw [List.append_assoc, ← hget]
  exact (List.take_append_drop place s.receivers).symm.trans
    (by rw [List.drop_eq_getElem_cons hlt]; rfl)

/-- A step of a thread, in full. -/
theorem moves_receive {s t : SerialSession} {place : ℕ} {answer : ReadAnswer}
    (h : s.Moves (.receive place answer) t) :
    ∃ r, s.receivers[place]? = some r ∧ t = { s with
      receivers := s.receivers.take place++(r.next s.stop s.parsers s.port answer).1++
        s.receivers.drop (place+1)
      log := s.log++(r.next s.stop s.parsers s.port answer).2 } := by
  cases h with
  | receives _ _ r hr => exact ⟨r, hr, rfl⟩
  | givesUp _ hl | keeps _ hl => rcases hl with hl | hl <;> cases hl

/-- A step of a thread changes what is counted of it as much as the thread itself does. -/
theorem countP_split {s : SerialSession} {place : ℕ} {r : Receiver}
    (h : s.receivers[place]? = some r) (P : Receiver → Bool) (left : List Receiver) :
    (s.receivers.take place++left++s.receivers.drop (place+1)).countP P+[r].countP P =
      s.receivers.countP P+left.countP P := by
  have hsplit := congrArg (List.countP P) (receivers_split h)
  simp only [List.countP_append] at hsplit ⊢
  omega

/-- Who is alive: the thread `self._thread` stands for, and those `close` gave up waiting for. -/
structure Census (s : SerialSession) : Prop where
  alive : ∀ r ∈ s.receivers, s.thread = some r.id ∨ r.id ∈ s.givenUp
  idle : s.control.isIdle = true → ∀ r ∈ s.receivers, r.id ∈ s.givenUp
  once : ∀ id, s.log.countP (ReceiverCall.isErrorOf id)+s.receivers.countP (·.id == id) ≤
    if id < s.started then 1 else 0

namespace Census

variable {s t : SerialSession}

/-- The radio's own steps that start no thread and give up none. -/
theorem control (hs : Census s) (control : ControlStage) (stop : Bool) (parsers : ℕ)
    (port : Option ℕ) (ports : ℕ)
    (h : control.isIdle = true → ∀ r ∈ s.receivers, r.id ∈ s.givenUp) :
    Census { s with
      control := control, stop := stop, parsers := parsers, port := port, ports := ports } :=
  ⟨hs.alive, h, hs.once⟩

theorem startThread (hs : Census s) (hc : s.control = .cleared) : Census { s with
    control := .opened
    thread := some s.started
    started := s.started+1
    receivers := s.receivers++[⟨s.started, .checking⟩]
    log := s.log++[.begun s.started s.port s.parsers] } := by
  refine ⟨fun r hr => ?_, fun h => (by cases h), fun id => ?_⟩
  · rcases List.mem_append.mp hr with hr | hr
    · exact Or.inr (hs.idle (by rw [hc]; rfl) r hr)
    · rw [List.mem_singleton.mp hr]
      exact Or.inl rfl
  · have hold := hs.once id
    dsimp only
    have hnone : [ReceiverCall.begun s.started s.port s.parsers].countP
        (ReceiverCall.isErrorOf id) = 0 := rfl
    rw [List.countP_append, List.countP_append, hnone]
    by_cases hid : s.started = id
    · subst hid
      rw [if_neg (Nat.lt_irrefl _)] at hold
      have hone : [(⟨s.started, .checking⟩ : Receiver)].countP (·.id == s.started) = 1 := by simp
      rw [if_pos (Nat.lt_succ_self _), hone]
      omega
    · have hzero : [(⟨s.started, .checking⟩ : Receiver)].countP (·.id == id) = 0 := by simp [hid]
      rw [hzero]
      split at hold
      · rw [if_pos (by omega)]
        omega
      · split <;> omega

/-- A thread that is made and does not start. -/
theorem abort (hs : Census s) (hc : s.control = .cleared) : Census { s with
    control := .closed, thread := some s.started, started := s.started+1 } := by
  have hidle := hs.idle (by rw [hc]; rfl)
  refine ⟨fun r hr => Or.inr (hidle r hr), fun _ => hidle, fun id => ?_⟩
  have hold := hs.once id
  dsimp only
  split at hold
  · rw [if_pos (by omega)]
    exact hold
  · exact Nat.le_trans hold (Nat.zero_le _)

theorem join (hs : Census s) {id : ℕ} (hthread : s.thread = some id) : Census { s with
    control := .closed
    thread := none
    givenUp := if s.isAlive id then s.givenUp++[id] else s.givenUp } := by
  have hall : ∀ r ∈ s.receivers, r.id ∈ if s.isAlive id then s.givenUp++[id] else s.givenUp := by
    intro r hr
    rcases hs.alive r hr with hmine | hold
    · -- The thread outlived the join.
      rw [hthread] at hmine
      cases hmine
      have halive : s.isAlive r.id = true := List.any_eq_true.mpr ⟨r, hr, beq_self_eq_true _⟩
      rw [if_pos halive]
      exact List.mem_append_right _ (List.mem_singleton.mpr rfl)
    · split
      · exact List.mem_append_left _ hold
      · exact hold
  exact ⟨fun r hr => Or.inr (hall r hr), fun _ => hall, hs.once⟩

theorem receive (hs : Census s) {place : ℕ} {r : Receiver} (hr : s.receivers[place]? = some r)
    (answer : ReadAnswer) : Census { s with
      receivers := s.receivers.take place++(r.next s.stop s.parsers s.port answer).1++
        s.receivers.drop (place+1)
      log := s.log++(r.next s.stop s.parsers s.port answer).2 } := by
  have hid : ∀ x ∈ s.receivers.take place++(r.next s.stop s.parsers s.port answer).1++
      s.receivers.drop (place+1), ∃ y ∈ s.receivers, y.id = x.id := by
    intro x hx
    rcases List.mem_append.mp hx with hx | hx
    · rcases List.mem_append.mp hx with hx | hx
      · exact ⟨x, List.mem_of_mem_take hx, rfl⟩
      · refine ⟨r, List.mem_of_getElem? hr, ?_⟩
        rcases next_cases s.stop s.parsers s.port r answer with ⟨stage, h, _⟩ | h | ⟨_, h⟩ |
          ⟨p, data, _, h | h⟩
        all_goals rw [h] at hx
        · rw [List.mem_singleton.mp hx]
        · cases hx
        · cases hx
        · rw [List.mem_singleton.mp hx]
        · cases hx
    · exact ⟨x, List.mem_of_mem_drop hx, rfl⟩
  refine ⟨fun x hx => ?_, fun hi x hx => ?_, fun id => ?_⟩
  · obtain ⟨y, hy, hyx⟩ := hid x hx
    rw [← hyx]
    exact hs.alive y hy
  · obtain ⟨y, hy, hyx⟩ := hid x hx
    rw [← hyx]
    exact hs.idle hi y hy
  · have hold := hs.once id
    have hcount := next_count s.stop s.parsers s.port r answer id
    have hsplit := countP_split hr (·.id == id) (r.next s.stop s.parsers s.port answer).1
    dsimp only
    rw [List.countP_append]
    omega

theorem step (hs : Census s) {l : SessionEvent} (h : s.Moves l t) : Census t := by
  cases h with
  | prepares hc => exact hs.control _ _ _ _ _ fun _ => hs.idle (by rw [hc]; rfl)
  | opens hc => exact hs.control _ _ _ _ _ fun _ => hs.idle (by rw [hc]; rfl)
  | givesUp _ _ hc => exact hs.control _ _ _ _ _ fun _ => hs.idle hc
  | sets hc => exact hs.control _ _ _ _ _ fun _ => hs.idle (by rw [hc]; rfl)
  | clears hc => exact hs.control _ _ _ _ _ fun _ => hs.idle (by rw [hc]; rfl)
  | begins hc => exact hs.startThread hc
  | aborts hc => exact hs.abort hc
  | stops | drops | closes | keeps => exact hs.control _ _ _ _ _ fun h => by cases h
  | ends ok hthread =>
    refine hs.control _ _ _ _ _ fun _ r hr => (hs.alive r hr).resolve_left fun h => ?_
    rw [hthread] at h
    cases h
  | joins id hthread => exact hs.join hthread
  | receives place answer r hr => exact hs.receive hr answer

theorem init : Census SerialSession.init :=
  ⟨fun r hr => (List.not_mem_nil hr).elim, fun _ _ hr => (List.not_mem_nil hr).elim, fun id => by
    exact Nat.zero_le _⟩

theorem run (ls : List SessionEvent)
    (h : Transitions.run SerialSession.step SerialSession.init ls = some s) : Census s :=
  run_invariant (fun _ _ _ hs hstep => hs.step (SerialSession.step_moves hstep)) Census.init h

/-- No thread is alive twice. -/
theorem count_le (hs : Census s) (id : ℕ) : s.receivers.countP (·.id == id) ≤ 1 := by
  have hold := hs.once id
  split at hold <;> omega

end Census

/-- In every run of opening and closing, whatever fails in it and however the threads are scheduled: at
most one receiving thread is alive besides those that `close` gave up waiting for, and none besides
them after a `close` that returned or an `open` that raised, until the next `open`; and no thread calls
`on_error` twice or lives on after it. -/
theorem receivers_bounded {s : SerialSession} {ls : List SessionEvent}
    (h : run SerialSession.step SerialSession.init ls = some s) :
    (s.receivers.filter (·.id ∉ s.givenUp)).length ≤ 1 ∧
      (s.control = .closed → ∀ r ∈ s.receivers, r.id ∈ s.givenUp) ∧
      ∀ id, s.log.countP (ReceiverCall.isErrorOf id)+s.receivers.countP (·.id == id) ≤ 1 := by
  have hs := Census.run ls h
  refine ⟨?_, fun hc => hs.idle (by rw [hc]; rfl), fun id => ?_⟩
  · -- Whoever was not given up is the thread of the session.
    cases hthread : s.thread with
    | none =>
      have hnone : s.receivers.filter (·.id ∉ s.givenUp) = [] := by
        apply List.filter_eq_nil_iff.mpr
        intro r hr hout
        rcases hs.alive r hr with hmine | hin
        · rw [hthread] at hmine
          cases hmine
        · exact of_decide_eq_true hout hin
      rw [hnone]
      exact Nat.zero_le _
    | some id =>
      have hcount : s.receivers.countP (·.id ∉ s.givenUp) ≤ s.receivers.countP (·.id == id) := by
        apply List.countP_mono_left
        intro r hr hout
        rcases hs.alive r hr with hmine | hin
        · rw [hthread] at hmine
          cases hmine
          exact beq_self_eq_true _
        · exact absurd hin (of_decide_eq_true hout)
      rw [← List.countP_eq_length_filter]
      exact Nat.le_trans hcount (hs.count_le id)
  · have hold := hs.once id
    split at hold <;> omega

/-- A receiving thread outlives the join, and the next session has two. -/
theorem receivers_bounded_timeout :
    let events : List SessionEvent := [.newParser, .openPort true, .setPins true, .clearStop,
      .startThread true, .receive 0 .raises, .receive 0 .raises, .setStop, .dropPort,
      .closePort true, .join true, .newParser, .openPort true, .setPins true, .clearStop,
      .startThread true, .receive 0 .raises, .receive 0 .raises, .receive 0 .raises]
    ∃ s, run SerialSession.step SerialSession.init events = some s ∧
      s.log = [.begun 0 (some 0) 1, .begun 1 (some 1) 2, .error 0] ∧ s.givenUp = [0] ∧
      (s.receivers.filter (·.id ∉ s.givenUp)).length ≤ 1 ∧
      ∀ id, s.log.countP (ReceiverCall.isErrorOf id)+s.receivers.countP (·.id == id) ≤ 1 := by
  intro events
  have hrun : ∃ s, run SerialSession.step SerialSession.init events = some s ∧
      s.log = [.begun 0 (some 0) 1, .begun 1 (some 1) 2, .error 0] ∧ s.givenUp = [0] :=
    ⟨_, rfl, rfl, rfl⟩
  obtain ⟨s, hs, hlog, hgone⟩ := hrun
  obtain ⟨hone, _, honce⟩ := receivers_bounded hs
  exact ⟨s, hs, hlog, hgone, hone, honce⟩

/-- The radio's own steps call nothing, and only `open` clears the flag. -/
theorem moves_control {s t : SerialSession} {l : SessionEvent}
    (hl : ∀ place answer, l ≠ .receive place answer) (h : s.Moves l t) :
    ((t.log = s.log ∧ t.receivers = s.receivers) ∨
      ∃ id port parser, t.log = s.log++[.begun id port parser] ∧
        t.receivers = s.receivers++[⟨id, .checking⟩]) ∧
      (l ≠ .clearStop → s.stop = true → t.stop = true) := by
  cases h with
  | receives place answer => exact absurd rfl (hl place answer)
  | begins => exact ⟨Or.inr ⟨_, _, _, rfl, rfl⟩, fun _ hs => hs⟩
  | clears => exact ⟨Or.inl ⟨rfl, rfl⟩, fun hne => absurd rfl hne⟩
  | stops => exact ⟨Or.inl ⟨rfl, rfl⟩, fun _ _ => rfl⟩
  | prepares | opens | givesUp | sets | aborts | drops | closes | keeps | ends | joins =>
    exact ⟨Or.inl ⟨rfl, rfl⟩, fun _ hs => hs⟩

theorem moves_log {s t : SerialSession} {l : SessionEvent} (h : s.Moves l t) :
    ∃ calls, t.log = s.log++calls := by
  by_cases hreceive : ∃ place answer, l = .receive place answer
  · obtain ⟨place, answer, rfl⟩ := hreceive
    obtain ⟨r, _, rfl⟩ := moves_receive h
    exact ⟨_, rfl⟩
  · have hcontrol : ∀ place answer, l ≠ .receive place answer :=
      fun place answer he => hreceive ⟨place, answer, he⟩
    rcases (moves_control hcontrol h).1 with ⟨hlog, _⟩ | ⟨_, _, _, hlog, _⟩
    · exact ⟨[], hlog.trans (List.append_nil _).symm⟩
    · exact ⟨_, hlog⟩

theorem moves_stopped {s t : SerialSession} {l : SessionEvent} (hl : l ≠ .clearStop)
    (hstop : s.stop = true) (h : s.Moves l t) :
    t.stop = true ∧ ∀ id, t.errors id ≤ s.errors id ∧ t.feeds id ≤ s.feeds id := by
  by_cases hreceive : ∃ place answer, l = .receive place answer
  · obtain ⟨place, answer, rfl⟩ := hreceive
    obtain ⟨r, hr, rfl⟩ := moves_receive h
    rw [hstop]
    refine ⟨rfl, fun id => ?_⟩
    obtain ⟨herror, hfed⟩ := next_stopped s.parsers s.port r answer id
    have hreport := countP_split hr (fun r => r.id == id && r.isReporting)
      (r.next true s.parsers s.port answer).1
    have hread := countP_split hr (fun r => r.id == id && r.isReading)
      (r.next true s.parsers s.port answer).1
    have hlog (Q : ReceiverCall → Bool) :
        (s.log++(r.next true s.parsers s.port answer).2).countP Q =
          s.log.countP Q+(r.next true s.parsers s.port answer).2.countP Q := List.countP_append
    dsimp only [SerialSession.errors, SerialSession.feeds]
    rw [hlog, hlog]
    omega
  · have hcontrol : ∀ place answer, l ≠ .receive place answer :=
      fun place answer he => hreceive ⟨place, answer, he⟩
    obtain ⟨hsame, hstill⟩ := moves_control hcontrol h
    refine ⟨hstill hl hstop, fun id => ?_⟩
    unfold SerialSession.errors SerialSession.feeds
    rcases hsame with ⟨hlog, hr⟩ | ⟨new, port, parser, hlog, hr⟩
    · rw [hlog, hr]
      exact ⟨Nat.le_refl _, Nat.le_refl _⟩
    · -- A new thread first looks at the flag.
      rw [hlog, hr]
      simp [ReceiverCall.isErrorOf, ReceiverCall.isFedBy, Receiver.isReporting, Receiver.isReading]

/-- What is counted of one thread in a state of a run is there at most once. -/
theorem Census.count_and_le {s : SerialSession} (hs : Census s) (id : ℕ) (P : Receiver → Bool) :
    s.receivers.countP (fun r => r.id == id && P r) ≤ 1 := by
  refine Nat.le_trans (List.countP_mono_left fun r _ h => ?_) (hs.count_le id)
  exact (Bool.and_eq_true_iff.mp h).1

/-- From the moment `close` has set the stop flag until `open` clears it, whatever the threads do: a
thread calls `on_error` only if it was about to, and feeds the parser only if it was about to read or to
feed what it had read, and each at most once. -/
theorem closing_is_quiet {s t : SerialSession} {past ls : List SessionEvent}
    (hs : run SerialSession.step SerialSession.init past = some s) (hstop : s.stop = true)
    (hls : ∀ l ∈ ls, l ≠ .clearStop) (h : run SerialSession.step s ls = some t) :
    ∃ calls, t.log = s.log++calls ∧ ∀ id,
      (calls.countP (ReceiverCall.isErrorOf id) ≤ 1 ∧
        (.error id ∈ calls → ∃ r ∈ s.receivers, r.id = id ∧ r.isReporting = true)) ∧
      calls.countP (ReceiverCall.isFedBy id) ≤ 1 ∧
        ∀ port parser data, .fed id port parser data ∈ calls →
          ∃ r ∈ s.receivers, r.id = id ∧ r.isReading = true := by
  have hcensus := Census.run past hs
  obtain ⟨⟨calls, hlog⟩, _, hless⟩ := run_invariant_of (P := fun l => l ≠ .clearStop)
    (I := fun u => (∃ calls, u.log = s.log++calls) ∧ u.stop = true ∧
      ∀ id, u.errors id ≤ s.errors id ∧ u.feeds id ≤ s.feeds id) (fun u l v hl hu hstep => by
        obtain ⟨⟨calls, hlog⟩, hset, hless⟩ := hu
        have hmoves := SerialSession.step_moves hstep
        obtain ⟨more, hmore⟩ := moves_log hmoves
        obtain ⟨hv, hstill⟩ := moves_stopped hl hset hmoves
        refine ⟨⟨calls++more, by rw [hmore, hlog, List.append_assoc]⟩, hv, fun id => ?_⟩
        exact ⟨Nat.le_trans (hstill id).1 (hless id).1, Nat.le_trans (hstill id).2 (hless id).2⟩)
    hls ⟨⟨[], (List.append_nil _).symm⟩, hstop, fun _ => ⟨Nat.le_refl _, Nat.le_refl _⟩⟩ h
  refine ⟨calls, hlog, fun id => ?_⟩
  have hcalls : calls.countP (ReceiverCall.isErrorOf id) ≤
        s.receivers.countP (fun r => r.id == id && r.isReporting) ∧
      calls.countP (ReceiverCall.isFedBy id) ≤
        s.receivers.countP fun r => r.id == id && r.isReading := by
    have hid := hless id
    simp only [SerialSession.errors, SerialSession.feeds, hlog, List.countP_append] at hid
    omega
  have hfound {P : Receiver → Bool} {Q : ReceiverCall → Bool} {e : ReceiverCall} (he : e ∈ calls)
      (hq : Q e = true)
      (hle : calls.countP Q ≤ s.receivers.countP fun r => r.id == id && P r) :
      ∃ r ∈ s.receivers, r.id = id ∧ P r = true := by
    obtain ⟨r, hr, hboth⟩ :=
      List.countP_pos_iff.mp (Nat.lt_of_lt_of_le (List.countP_pos_iff.mpr ⟨e, he, hq⟩) hle)
    obtain ⟨hid, hp⟩ := Bool.and_eq_true_iff.mp hboth
    exact ⟨r, hr, beq_iff_eq.mp hid, hp⟩
  refine ⟨⟨Nat.le_trans hcalls.1 (hcensus.count_and_le id _), fun he => ?_⟩,
    Nat.le_trans hcalls.2 (hcensus.count_and_le id _), fun port parser data he => ?_⟩
  · exact hfound he (beq_self_eq_true id) hcalls.1
  · exact hfound he (beq_self_eq_true id) hcalls.2

/-- One thread had found the flag clear after a failed read when `close` set it. -/
theorem closing_is_quiet_late :
    let past : List SessionEvent := [.newParser, .openPort true, .setPins true, .clearStop,
      .startThread true, .receive 0 .raises, .receive 0 .raises, .receive 0 .raises,
      .receive 0 .raises, .setStop]
    ∃ s t, run SerialSession.step SerialSession.init past = some s ∧
      run SerialSession.step s [.dropPort, .receive 0 .raises, .closePort true, .join true] = some t ∧
      t.log = s.log++[.error 0] ∧ ∃ calls, t.log = s.log++calls ∧
        calls.countP (ReceiverCall.isErrorOf 0) ≤ 1 ∧
        (.error 0 ∈ calls → ∃ r ∈ s.receivers, r.id = 0 ∧ r.isReporting = true) := by
  intro past
  have hrun : ∃ s t, run SerialSession.step SerialSession.init past = some s ∧ s.stop = true ∧
      run SerialSession.step s [.dropPort, .receive 0 .raises, .closePort true, .join true] = some t ∧
      t.log = s.log++[.error 0] := ⟨_, _, rfl, rfl, rfl, rfl⟩
  obtain ⟨s, t, hs, hstop, ht, hlog⟩ := hrun
  obtain ⟨calls, hcalls, hquiet⟩ := closing_is_quiet hs hstop (by simp) ht
  exact ⟨s, t, hs, ht, hlog, calls, hcalls, (hquiet 0).1⟩

/-- Every thread was started on a parser of its own. -/
structure Sessions (s : SerialSession) : Prop where
  known : ∀ id port parser, .begun id port parser ∈ s.log → id < s.started ∧ parser ≤ s.parsers
  earlier : s.control.isIdle = true → s.control ≠ .closed →
    ∀ id port parser, .begun id port parser ∈ s.log → parser < s.parsers
  matched : ∀ id port parser id' port' parser', .begun id port parser ∈ s.log →
    .begun id' port' parser' ∈ s.log → (id = id' ∨ parser = parser') →
      id = id' ∧ port = port' ∧ parser = parser'

/-- A thread that is alive knows no port but the one it was started on, and feeds the parser it was
started on; what was fed so far came from there. -/
structure Home (s : SerialSession) : Prop where
  alive : ∀ r ∈ s.receivers, ∃ port, .begun r.id port s.parsers ∈ s.log ∧
    (∀ q, s.port = some q → port = some q) ∧ ∀ q, r.stage.port = some q → port = some q
  fed : ∀ id port parser data, .fed id port parser data ∈ s.log →
    .begun id (some port) parser ∈ s.log

/-- What a receiving thread calls is no start. -/
theorem begun_not_mem_next (stop : Bool) (parser : ℕ) (port : Option ℕ) (r : Receiver)
    (answer : ReadAnswer) (id : ℕ) (port' : Option ℕ) (parser' : ℕ) :
    .begun id port' parser' ∉ (r.next stop parser port answer).2 := by
  rcases next_cases stop parser port r answer with ⟨stage, h, _⟩ | h | ⟨_, h⟩ | ⟨p, data, _, h | h⟩
  all_goals
    rw [h]
    simp

theorem Sessions.step {s t : SerialSession} {l : SessionEvent} (hs : Sessions s) (h : s.Moves l t) :
    Sessions t := by
  cases h with
  | prepares hc =>
    exact ⟨fun id port parser h => ⟨(hs.known id port parser h).1,
        Nat.le_succ_of_le (hs.known id port parser h).2⟩,
      fun _ _ id port parser h => Nat.lt_succ_of_le (hs.known id port parser h).2, hs.matched⟩
  | opens hc | sets hc | clears hc =>
    exact ⟨hs.known, fun _ _ => hs.earlier (by rw [hc]; rfl) (by rw [hc]; decide), hs.matched⟩
  | givesUp | ends | joins => exact ⟨hs.known, fun _ h => absurd rfl h, hs.matched⟩
  | aborts =>
    exact ⟨fun id port parser h => ⟨Nat.lt_succ_of_lt (hs.known id port parser h).1,
      (hs.known id port parser h).2⟩, fun _ h => absurd rfl h, hs.matched⟩
  | stops | drops | closes | keeps => exact ⟨hs.known, fun h => (by cases h), hs.matched⟩
  | begins hc =>
    have hnew := hs.earlier (by rw [hc]; rfl) (by rw [hc]; decide)
    refine ⟨fun id port parser h => ?_, fun h => (by cases h),
      fun id port parser id' port' parser' h h' heq => ?_⟩
    · rcases List.mem_append.mp h with h | h
      · exact ⟨Nat.lt_succ_of_lt (hs.known id port parser h).1, (hs.known id port parser h).2⟩
      · cases List.mem_singleton.mp h
        exact ⟨Nat.lt_succ_self _, Nat.le_refl _⟩
    · -- A start of an earlier session has a smaller number and an earlier parser.
      have hold {id : ℕ} {port : Option ℕ} {parser : ℕ} (h : .begun id port parser ∈ s.log) :
          id ≠ s.started ∧ parser ≠ s.parsers :=
        ⟨Nat.ne_of_lt (hs.known id port parser h).1, Nat.ne_of_lt (hnew id port parser h)⟩
      rcases List.mem_append.mp h with h | h <;> rcases List.mem_append.mp h' with h' | h'
      · exact hs.matched id port parser id' port' parser' h h' heq
      · cases List.mem_singleton.mp h'
        exact (heq.elim (hold h).1 (hold h).2).elim
      · cases List.mem_singleton.mp h
        exact (heq.elim (fun he => (hold h').1 he.symm) fun he => (hold h').2 he.symm).elim
      · cases List.mem_singleton.mp h
        cases List.mem_singleton.mp h'
        exact ⟨rfl, rfl, rfl⟩
  | receives place answer r hr =>
    have hback {id : ℕ} {port : Option ℕ} {parser : ℕ}
        (h : .begun id port parser ∈ s.log++(r.next s.stop s.parsers s.port answer).2) :
        .begun id port parser ∈ s.log :=
      (List.mem_append.mp h).resolve_right (begun_not_mem_next _ _ _ _ _ _ _ _)
    exact ⟨fun id port parser h => hs.known id port parser (hback h),
      fun hi hc id port parser h => hs.earlier hi hc id port parser (hback h),
      fun id port parser id' port' parser' h h' =>
        hs.matched id port parser id' port' parser' (hback h) (hback h')⟩

theorem Home.step {s t : SerialSession} {l : SessionEvent} (hs : Home s) (hcensus : Census s)
    (h0 : s.timeouts = 0) (h : s.Moves l t) : Home t := by
  -- Between sessions no thread is alive, since none was given up.
  have hnobody (hc : s.control.isIdle = true) : s.receivers = [] :=
    List.eq_nil_iff_forall_not_mem.mpr fun r hr =>
      List.not_mem_nil (List.eq_nil_of_length_eq_zero h0 ▸ hcensus.idle hc r hr)
  cases h with
  | prepares hc =>
    have hnone := hnobody (by rw [hc]; rfl)
    exact ⟨fun r hr => absurd (hnone ▸ hr) List.not_mem_nil, hs.fed⟩
  | opens hc =>
    have hnone := hnobody (by rw [hc]; rfl)
    exact ⟨fun r hr => absurd (hnone ▸ hr) List.not_mem_nil, hs.fed⟩
  | givesUp | sets | clears | aborts | stops | closes | keeps | ends | joins =>
    exact ⟨hs.alive, hs.fed⟩
  | drops =>
    refine ⟨fun r hr => ?_, hs.fed⟩
    obtain ⟨port, hbegun, _, hstage⟩ := hs.alive r hr
    exact ⟨port, hbegun, fun _ h => (by cases h), hstage⟩
  | begins hc =>
    have hnone := hnobody (by rw [hc]; rfl)
    constructor
    · intro r hr
      have hone : r ∈ [(⟨s.started, .checking⟩ : Receiver)] := by
        rwa [hnone, List.nil_append] at hr
      cases List.mem_singleton.mp hone
      exact ⟨s.port, List.mem_append_right _ (List.mem_singleton.mpr rfl), fun _ h => h,
        fun _ h => by cases h⟩
    · intro id port parser data h
      rcases List.mem_append.mp h with h | h
      · exact List.mem_append_left _ (hs.fed id port parser data h)
      · cases List.mem_singleton.mp h
  | receives place answer r hr =>
    obtain ⟨port, hbegun, hport, hstage⟩ := hs.alive r (List.mem_of_getElem? hr)
    constructor
    · intro x hx
      have hother (h : x ∈ s.receivers) : ∃ port, .begun x.id port s.parsers ∈
          s.log++(r.next s.stop s.parsers s.port answer).2 ∧
            (∀ q, s.port = some q → port = some q) ∧ ∀ q, x.stage.port = some q → port = some q := by
        obtain ⟨port, hbegun, hrest⟩ := hs.alive x h
        exact ⟨port, List.mem_append_left _ hbegun, hrest⟩
      rcases List.mem_append.mp hx with hx | hx
      · rcases List.mem_append.mp hx with hx | hx
        · exact hother (List.mem_of_mem_take hx)
        · -- What is left of the thread that made the step.
          refine ⟨port, ?_⟩
          rcases next_cases s.stop s.parsers s.port r answer with ⟨stage, h, hnew, _⟩ | h | ⟨_, h⟩ |
            ⟨p, data, _, h | h⟩
          all_goals rw [h] at hx ⊢
          · cases List.mem_singleton.mp hx
            refine ⟨List.mem_append_left _ hbegun, hport, fun q hq => ?_⟩
            exact (hnew q hq).elim (hstage q) (hport q)
          · cases hx
          · cases hx
          · cases List.mem_singleton.mp hx
            exact ⟨List.mem_append_left _ hbegun, hport, fun _ h => by cases h⟩
          · cases hx
      · exact hother (List.mem_of_mem_drop hx)
    · intro id port' parser data h
      apply List.mem_append_left
      rcases List.mem_append.mp h with h | h
      · exact hs.fed id port' parser data h
      · rcases next_cases s.stop s.parsers s.port r answer with ⟨stage, hn, _⟩ | hn | ⟨_, hn⟩ |
          ⟨p, data', hfeeding, hn | hn⟩
        all_goals rw [hn] at h
        · cases h
        · cases h
        · cases List.mem_singleton.mp h
        all_goals
          cases List.mem_singleton.mp h
          have hfrom := hstage port' (by rw [hfeeding]; rfl)
          rw [← hfrom]
          exact hbegun

/-- That `close` gave up waiting once is not forgotten. -/
theorem moves_timeouts {s t : SerialSession} {l : SessionEvent} (h : s.Moves l t) :
    s.timeouts ≤ t.timeouts := by
  cases h with
  | joins id =>
    dsimp only [SerialSession.timeouts]
    split
    · rw [List.length_append]
      exact Nat.le_add_right _ _
    · exact Nat.le_refl _
  | prepares | opens | givesUp | sets | clears | begins | aborts | stops | drops | closes | keeps |
    ends | receives => exact Nat.le_refl _

/-- What a session makes of one chunk, from opening to closing. -/
def oneChunk (data : List UInt8) : List SessionEvent :=
  [.newParser, .openPort true, .setPins true, .clearStop, .startThread true, .receive 0 .raises,
    .receive 0 .raises, .receive 0 (.returns data), .receive 0 (.returns []), .setStop, .dropPort,
    .closePort true, .receive 0 .raises, .join true]

/-- A thread that outlives the join with a chunk in hand feeds it to the parser of the next session. -/
example : ((run SerialSession.step SerialSession.init
    [.newParser, .openPort true, .setPins true, .clearStop, .startThread true, .receive 0 .raises,
      .receive 0 .raises, .receive 0 (.returns [0xC0]), .setStop, .dropPort, .closePort true, .join true,
      .newParser, .openPort true, .receive 0 (.returns [])]).map SerialSession.log) =
    some [.begun 0 (some 0) 1, .fed 0 0 2 [0xC0]] := rfl

end Kv4p

import Kv4p.HostMessages
import Kv4p.ReceivePath
import Kv4p.SerialWrites
import Kv4p.TrackerAtomicity

/-! Setters of many threads down to the serial line: the tracker one access at a time, the write lock
of the transport one byte at a time, and other frames on the same line. -/
namespace Kv4p
open CriticalSections CriticalSections.Program PackedStruct Transitions

variable {F : Type}

/-- The tracker with its threads, and the line of the serial transport. -/
structure SharedLine (F : Type) where
  threads : TrackerThreads F
  serial : SerialLine

/-- What happens next: a thread makes a step outside the transport, or takes the write lock with the
snapshot of its setter, or with another frame, a reset or a flush; or something happens on the line. -/
inductive SharedEvent (F : Type)
  | move (l : TrackerMove F)
  | hand (thread : ℕ)
  | other (thread : ℕ) (job : WriteJob)
  | line (l : LineEvent)

variable [PyFloat F]

/-- The frame of a snapshot that packs. -/
def HostDesiredState.frame (d : HostDesiredState F) : Option KissFrame :=
  match d.toBytes with
  | .ok body => some ⟨kissCmdSethardware, encodeVendorPayload commandHostDesiredState body⟩
  | .error _ => none

/-- The desired state that is in a frame, with the precision of the wire. -/
def WriteJob.desired (F : Type) [PyFloat F] : WriteJob → Option (HostDesiredState F)
  | writeFrame f =>
    match (HostMessage.ofFrame f : Option (HostMessage F)) with
    | some (.desiredState d) => some d
    | _ => none
  | reset => none
  | flush => none

/-- The snapshots that reached the transport, and whether the call returned. -/
def handedOver (log : List (ℕ × TrackerEvent F × Answer F)) : List (HostDesiredState F × Bool) :=
  log.filterMap fun call =>
    match call.2.1 with
    | .send state => if state.packs then some (state, !call.2.2.raises) else none
    | _ => none

namespace SharedLine

def init : SharedLine F := ⟨TrackerThreads.init, SerialLine.init⟩

omit [PyFloat F] in
/-- The snapshot a thread is about to hand over, or is handing over. -/
def snapshot (s : SharedLine F) (i : ℕ) : Option (HostDesiredState F) :=
  match s.threads.program i with
  | .call (.send state) _ => some state
  | _ => none

omit [PyFloat F] in
/-- The thread is in the write lock. -/
def writes (s : SharedLine F) (i : ℕ) : Bool := s.serial.busy.any (·.thread == i)

/-- If a thread has left the write lock, the call it was in ends as the writing did. -/
def answered (s : SharedLine F) (serial : SerialLine) : Option (SharedLine F) :=
  match serial.past.drop s.serial.past.length with
  | [] => some { s with serial := serial }
  | x :: _ =>
    match s.snapshot x.thread with
    | none => some { s with serial := serial }
    | some _ => (s.threads.step (.run x.thread ⟨!x.returned, .ends false⟩)).map (⟨·, serial⟩)

/-- A snapshot that packs goes through the write lock, one that does not raises before it. Nobody writes
from inside the lock of the tracker. -/
def step (s : SharedLine F) : SharedEvent F → Option (SharedLine F)
  | .move l =>
    if s.writes l.thread || (s.snapshot l.thread).any HostDesiredState.packs then none
    else (s.threads.step l).map (⟨·, s.serial⟩)
  | .hand i =>
    match (s.snapshot i).bind HostDesiredState.frame with
    | some f => (s.serial.step (.enter i (.writeFrame f))).map (⟨s.threads, ·⟩)
    | none => none
  | .other i job =>
    if (s.threads.level i).isSome || (s.snapshot i).isSome then none
    else (s.serial.step (.enter i job)).map (⟨s.threads, ·⟩)
  | .line (.enter _ _) => none
  | .line l => (s.serial.step l).bind s.answered

end SharedLine

/-- Threads start methods, only thread `rx` those that handle frames, and what else is written is no
desired state and has a command that needs no escape. -/
def SharedEvent.Allowed (rx : ℕ) : SharedEvent F → Prop
  | .move l => StartsMethod rx l
  | .hand _ => True
  | .other i job => (LineEvent.enter i job).Plain ∧ job.desired F = none
  | .line _ => True

/-- Where a stay in the write lock is: who is in it, and for what. -/
def SerialLine.stay (s : SerialLine) : Option (ℕ × WriteJob) :=
  s.busy.map fun x => (x.thread, x.job)

/-- On the line a stay in the lock ends, or goes on. -/
theorem stay_cases {s t : SerialLine} {l : LineEvent} (hl : ∀ i job, l ≠ .enter i job)
    (h : s.step l = some t) :
    (∃ x returned, s.busy = some x ∧ t = s.leave x returned) ∨
      (t.past = s.past ∧ t.stay = s.stay) := by
  cases l with
  | enter i job => exact absurd rfl (hl i job)
  | check =>
    rw [SerialLine.step] at h
    split at h
    · rename_i x hbusy _
      split at h
      · cases h
        exact Or.inl ⟨x, false, hbusy, rfl⟩
      · cases h
        exact Or.inr ⟨rfl, rfl⟩
    · cases h
  | send =>
    rw [SerialLine.step] at h
    split at h
    · rename_i x hbusy _
      split at h
      · cases h
        exact Or.inr ⟨rfl, by rw [SerialLine.stay, SerialLine.stay, hbusy]; rfl⟩
      · cases h
    · cases h
  | finish =>
    rw [SerialLine.step] at h
    split at h
    · rename_i x hbusy _
      split at h
      · cases h
        exact Or.inl ⟨x, true, hbusy, rfl⟩
      · cases h
    · cases h
  | fail =>
    rw [SerialLine.step] at h
    split at h
    · rename_i x hbusy _
      cases h
      exact Or.inl ⟨x, false, hbusy, rfl⟩
    · cases h
  | «open» | close =>
    cases h
    exact Or.inr ⟨rfl, rfl⟩

theorem enter_eq_some {s t : SerialLine} {i : ℕ} {job : WriteJob}
    (h : s.step (.enter i job) = some t) :
    s.busy = none ∧ t.past = s.past ∧ t.stay = some (i, job) := by
  rw [SerialLine.step] at h
  split at h
  · cases h
    exact ⟨‹_›, rfl, rfl⟩
  · cases h

namespace SharedLine

/-- What an event can do, and when. -/
inductive Moves (s : SharedLine F) : SharedEvent F → SharedLine F → Prop
  | moves (l : TrackerMove F) (t : TrackerThreads F) (hwrites : s.writes l.thread = false)
      (hsend : ∀ state, s.snapshot l.thread = some state → state.packs = false)
      (h : s.threads.step l = some t) : Moves s (.move l) ⟨t, s.serial⟩
  | hands (i : ℕ) (state : HostDesiredState F) (f : KissFrame) (t : SerialLine)
      (hsnapshot : s.snapshot i = some state) (hframe : state.frame = some f)
      (h : s.serial.step (.enter i (.writeFrame f)) = some t) : Moves s (.hand i) ⟨s.threads, t⟩
  | enters (i : ℕ) (job : WriteJob) (t : SerialLine) (hlevel : s.threads.level i = none)
      (hsnapshot : s.snapshot i = none) (h : s.serial.step (.enter i job) = some t) :
      Moves s (.other i job) ⟨s.threads, t⟩
  | stays (l : LineEvent) (t : SerialLine) (hl : ∀ i job, l ≠ .enter i job) (h : s.serial.step l = some t)
      (hpast : t.past = s.serial.past) (hstay : t.stay = s.serial.stay) :
      Moves s (.line l) ⟨s.threads, t⟩
  | ends (l : LineEvent) (x : WriteSection) (returned : Bool) (hl : ∀ i job, l ≠ .enter i job)
      (hbusy : s.serial.busy = some x) (h : s.serial.step l = some (s.serial.leave x returned))
      (hsnapshot : s.snapshot x.thread = none) :
      Moves s (.line l) ⟨s.threads, s.serial.leave x returned⟩
  | answers (l : LineEvent) (x : WriteSection) (returned : Bool) (state : HostDesiredState F)
      (t : TrackerThreads F) (hl : ∀ i job, l ≠ .enter i job) (hbusy : s.serial.busy = some x)
      (h : s.serial.step l = some (s.serial.leave x returned))
      (hsnapshot : s.snapshot x.thread = some state)
      (ht : s.threads.step (.run x.thread ⟨!returned, .ends false⟩) = some t) :
      Moves s (.line l) ⟨t, s.serial.leave x returned⟩

variable {s t : SharedLine F}

theorem moves_line {l : LineEvent} (hl : ∀ i job, l ≠ .enter i job)
    (h : (s.serial.step l).bind s.answered = some t) : s.Moves (.line l) t := by
  obtain ⟨serial, hserial, hanswered⟩ := Option.bind_eq_some_iff.mp h
  rw [SharedLine.answered] at hanswered
  rcases stay_cases hl hserial with ⟨x, returned, hbusy, rfl⟩ | ⟨hpast, hstay⟩
  · have hleft : (s.serial.leave x returned).past.drop s.serial.past.length =
        [{ x with returned := returned }] := List.drop_left
    rw [hleft] at hanswered
    dsimp only at hanswered
    split at hanswered
    · cases hanswered
      exact .ends l x returned hl hbusy hserial ‹_›
    · obtain ⟨threads, ht, rfl⟩ := Option.map_eq_some_iff.mp hanswered
      exact .answers l x returned _ threads hl hbusy hserial ‹_› ht
  · rw [hpast, List.drop_length] at hanswered
    cases hanswered
    exact .stays l serial hl hserial hpast hstay

theorem step_moves {l : SharedEvent F} (h : s.step l = some t) : s.Moves l t := by
  cases l with
  | move l =>
    rw [SharedLine.step] at h
    split at h
    · cases h
    · rename_i hfree
      obtain ⟨threads, ht, rfl⟩ := Option.map_eq_some_iff.mp h
      rw [Bool.or_eq_true, not_or] at hfree
      refine .moves l threads (Bool.eq_false_iff.mpr hfree.1) (fun state hs => ?_) ht
      rw [hs] at hfree
      exact Bool.eq_false_iff.mpr hfree.2
  | hand i =>
    rw [SharedLine.step] at h
    split at h
    · rename_i f hf
      obtain ⟨serial, ht, rfl⟩ := Option.map_eq_some_iff.mp h
      obtain ⟨state, hs, hframe⟩ := Option.bind_eq_some_iff.mp hf
      exact .hands i state f serial hs hframe ht
    · cases h
  | other i job =>
    rw [SharedLine.step] at h
    split at h
    · cases h
    · rename_i hfree
      obtain ⟨serial, ht, rfl⟩ := Option.map_eq_some_iff.mp h
      rw [Bool.or_eq_true, not_or] at hfree
      exact .enters i job serial (Option.not_isSome_iff_eq_none.mp hfree.1)
        (Option.not_isSome_iff_eq_none.mp hfree.2) ht
  | line l =>
    cases l with
    | enter i job => cases h
    | check | send | finish | fail | «open» | close =>
      exact moves_line (fun _ _ he => by cases he) h

end SharedLine

theorem frame_eq_some {d : HostDesiredState F} {f : KissFrame} (h : d.frame = some f) :
    d.packs = true ∧ f.command = kissCmdSethardware ∧
      (WriteJob.writeFrame f).desired F = some d.onWire := by
  rw [HostDesiredState.frame] at h
  split at h
  · rename_i body hbody
    cases h
    refine ⟨packs_iff.mpr ⟨body, hbody⟩, rfl, ?_⟩
    rw [WriteJob.desired, ofFrame_desiredState hbody]
  · cases h

theorem desired_eq_some {job : WriteJob} {d : HostDesiredState F} (h : job.desired F = some d) :
    ∃ f, job = .writeFrame f ∧ HostMessage.ofFrame f = some (.desiredState d) := by
  cases job with
  | reset | flush => cases h
  | writeFrame f =>
    rw [WriteJob.desired] at h
    split at h
    · rename_i hf
      cases h
      exact ⟨f, rfl, hf⟩
    · cases h

omit [PyFloat F] in
theorem snapshot_eq_some {s : SharedLine F} {i : ℕ} {state : HostDesiredState F}
    (h : s.snapshot i = some state) : ∃ k, s.threads.program i = .call (.send state) k := by
  rw [SharedLine.snapshot] at h
  split at h
  · rename_i k hp
    cases h
    exact ⟨k, hp⟩
  · cases h

theorem handedStates_eq (log : List (ℕ × TrackerEvent F × Answer F)) :
    handedStates log = (handedOver log).map Prod.fst := by
  rw [handedStates, handedOver, List.map_filterMap]
  apply List.filterMap_congr
  rintro ⟨i, e, answer⟩ _
  cases e with
  | send state => cases hp : state.packs <;> simp [hp]
  | setHelloEvent | callback | observed => rfl

theorem handedOver_append (log calls : List (ℕ × TrackerEvent F × Answer F)) :
    handedOver (log++calls) = handedOver log++handedOver calls :=
  List.filterMap_append

/-- The desired states of the stays in the write lock, and how these ended. -/
def written (past : List WriteSection) : List (HostDesiredState F × Bool) :=
  past.filterMap fun x => (x.job.desired F).map (·, x.returned)

/-- Who is in the write lock with a desired state has the snapshot it was made of, and what was written
so far is what was handed over. -/
structure Matched (s : SharedLine F) : Prop where
  stay : ∀ i job, s.serial.stay = some (i, job) →
    job.desired F = (s.snapshot i).map HostDesiredState.onWire ∧
      ∀ state, s.snapshot i = some state → state.packs = true
  past : written s.serial.past = (handedOver s.threads.log).map fun d => (d.1.onWire, d.2)

namespace Matched

variable {s t : SharedLine F}

theorem leave (hs : Matched s) {x : WriteSection} (hbusy : s.serial.busy = some x) (returned : Bool) :
    written (s.serial.leave x returned).past = (handedOver s.threads.log).map (fun d =>
      (d.1.onWire, d.2))++((s.snapshot x.thread).map fun state => (state.onWire, returned)).toList := by
  have hstay : s.serial.stay = some (x.thread, x.job) := by rw [SerialLine.stay, hbusy]; rfl
  have hdesired := (hs.stay x.thread x.job hstay).1
  rw [← hs.past, written, written, SerialLine.leave, List.filterMap_append]
  congr 1
  cases hsnapshot : s.snapshot x.thread with
  | none => simp [hdesired, hsnapshot]
  | some state => simp [hdesired, hsnapshot]

theorem step {rx : ℕ} {l : SharedEvent F} (hl : l.Allowed rx) (hs : Matched s) (h : s.Moves l t) :
    Matched t := by
  cases h with
  | moves l threads hwrites hsend hstep =>
    constructor
    · intro i job hstay
      have hne : l.thread ≠ i := by
        intro he
        obtain ⟨x, hbusy, hx⟩ := Option.map_eq_some_iff.mp hstay
        have hthread : x.thread = l.thread := (congrArg Prod.fst hx).trans he.symm
        rw [SharedLine.writes, hbusy, Option.any_some, hthread, beq_self_eq_true] at hwrites
        cases hwrites
      have hsame : SharedLine.snapshot ⟨threads, s.serial⟩ i = s.snapshot i := by
        rw [SharedLine.snapshot, SharedLine.snapshot, Config.program_step_of_ne hstep hne]
      rw [hsame]
      exact hs.stay i job hstay
    · change written s.serial.past = _
      rw [hs.past]
      rcases Config.log_step hstep with hlog | ⟨e, k, answer, _, hp, hlog⟩
      · rw [hlog]
      · -- A snapshot that is not written does not pack.
        have hnothing : handedOver [(l.thread, e, answer)] = [] := by
          cases e with
          | setHelloEvent | callback | observed => rfl
          | send state =>
            have hpacks := hsend state (by rw [SharedLine.snapshot, hp])
            simp [handedOver, hpacks]
        rw [hlog, handedOver_append, hnothing, List.append_nil]
  | hands i state f serial hsnapshot hframe hstep =>
    obtain ⟨_, hpast, hentered⟩ := enter_eq_some hstep
    obtain ⟨hpacks, _, hdesired⟩ := frame_eq_some hframe
    refine ⟨fun j job hstay => ?_, by rw [hpast]; exact hs.past⟩
    cases hentered.symm.trans hstay
    have hsame : SharedLine.snapshot ⟨s.threads, serial⟩ i = some state := hsnapshot
    rw [hsame, hdesired]
    refine ⟨rfl, fun other he => ?_⟩
    cases he
    exact hpacks
  | enters i job serial _ hsnapshot hstep =>
    obtain ⟨_, hpast, hentered⟩ := enter_eq_some hstep
    refine ⟨fun j job' hstay => ?_, by rw [hpast]; exact hs.past⟩
    cases hentered.symm.trans hstay
    have hsame : SharedLine.snapshot ⟨s.threads, serial⟩ i = none := hsnapshot
    rw [hsame, hl.2]
    exact ⟨rfl, fun _ he => by cases he⟩
  | stays l serial _ _ hpast hstay =>
    refine ⟨fun i job h => hs.stay i job (hstay ▸ h), ?_⟩
    rw [hpast]
    exact hs.past
  | ends l x returned _ hbusy _ hsnapshot =>
    refine ⟨fun i job h => (by cases h), ?_⟩
    rw [hs.leave hbusy, hsnapshot]
    exact List.append_nil _
  | answers l x returned state threads _ hbusy _ hsnapshot hstep =>
    refine ⟨fun i job h => (by cases h), ?_⟩
    obtain ⟨k, hp⟩ := snapshot_eq_some hsnapshot
    have hstay : s.serial.stay = some (x.thread, x.job) := by rw [SerialLine.stay, hbusy]; rfl
    have hpacks := (hs.stay x.thread x.job hstay).2 state hsnapshot
    have hlog : threads.log =
        s.threads.log++[(x.thread, .send state, ⟨!returned, .ends false⟩)] := by
      rw [Config.step, Config.advance, hp, Config.stepOutside, hp] at hstep
      cases hstep
      rfl
    have hone : handedOver [(x.thread, .send state, (⟨!returned, .ends false⟩ : Answer F))] =
        [(state, returned)] := by simp [handedOver, hpacks]
    rw [hs.leave hbusy, hsnapshot, hlog, handedOver_append, hone, List.map_append]
    rfl

end Matched

variable {rx : ℕ} {ls : List (SharedEvent F)} {s : SharedLine F}

/-- To the tracker the transport is a call that ends somehow. -/
theorem threads_of_run (hls : ∀ l ∈ ls, l.Allowed rx)
    (h : run SharedLine.step SharedLine.init ls = some s) :
    ∃ ms, (∀ m ∈ ms, StartsMethod rx m) ∧ run Config.step TrackerThreads.init ms = some s.threads := by
  refine run_refines (f := SharedLine.threads) (fun u l t hl hstep => ?_) hls h
  have hnothing (m : TrackerMove F) (hm : m ∈ []) : StartsMethod rx m := (List.not_mem_nil hm).elim
  cases SharedLine.step_moves hstep with
  | moves l threads _ _ hmove =>
    exact ⟨[l], fun m hm => List.mem_singleton.mp hm ▸ hl, run_singleton.mpr hmove⟩
  | answers l x returned state threads _ _ _ _ hmove =>
    have hends : StartsMethod rx (.run x.thread ⟨!returned, .ends false⟩ : TrackerMove F) := trivial
    exact ⟨[_], fun m hm => List.mem_singleton.mp hm ▸ hends, run_singleton.mpr hmove⟩
  | hands | enters | stays | ends => exact ⟨[], hnothing, run_nil.mpr rfl⟩

/-- To the line the threads are whoever takes the lock. -/
theorem serial_of_run (hls : ∀ l ∈ ls, l.Allowed rx)
    (h : run SharedLine.step SharedLine.init ls = some s) :
    ∃ ms, (∀ m ∈ ms, m.Plain) ∧ run SerialLine.step SerialLine.init ms = some s.serial := by
  refine run_refines (f := SharedLine.serial) (fun u l t hl hstep => ?_) hls h
  have hplain {l : LineEvent} (hl : ∀ i job, l ≠ .enter i job) : l.Plain := by
    cases l with
    | enter i job => exact absurd rfl (hl i job)
    | check | send | finish | fail | «open» | close => trivial
  have hone {l : LineEvent} {serial : SerialLine} (hl : l.Plain)
      (hmove : u.serial.step l = some serial) :
      ∃ ms, (∀ m ∈ ms, m.Plain) ∧ run SerialLine.step u.serial ms = some serial :=
    ⟨[l], fun m hm => List.mem_singleton.mp hm ▸ hl, run_singleton.mpr hmove⟩
  cases SharedLine.step_moves hstep with
  | moves => exact ⟨[], fun _ hm => (List.not_mem_nil hm).elim, run_nil.mpr rfl⟩
  | hands i state f serial _ hframe hmove =>
    have hcommand : (LineEvent.enter i (.writeFrame f)).Plain := by
      change f.command ≠ kissFend ∧ f.command ≠ kissFesc
      rw [(frame_eq_some hframe).2.1]
      decide
    exact hone hcommand hmove
  | enters i job serial _ _ hmove => exact hone hl.1 hmove
  | stays l serial hother hmove => exact hone (hplain hother) hmove
  | ends l x returned hother _ hmove => exact hone (hplain hother) hmove
  | answers l x returned state threads hother _ hmove => exact hone (hplain hother) hmove

theorem matched_run (hls : ∀ l ∈ ls, l.Allowed rx)
    (h : run SharedLine.step SharedLine.init ls = some s) : Matched s := by
  have hstart : Matched (SharedLine.init : SharedLine F) := ⟨fun _ _ hstay => (by cases hstay), rfl⟩
  exact run_invariant_of (fun _ _ _ hl hs hstep => hs.step hl (SharedLine.step_moves hstep)) hls
    hstart h

/-- However many threads call setters, handle frames, write other frames, reset and flush at once,
access by access in the tracker and byte by byte on the line, wherever writes break off and whenever
the port is opened and closed: the desired states on the line are, in the order of the write lock, those
that some run of whole sections hands over, in its order. What the other end reads of each stay in the
lock is the desired state, if its setter's call into the transport returned, and otherwise the same one
or nothing it takes for one. -/
theorem setters_on_line (hls : ∀ l ∈ ls, l.Allowed rx)
    (h : run SharedLine.step SharedLine.init ls = some s) :
    KissParser.init.frames s.serial.line++
        (s.serial.line.foldl KissParser.next KissParser.init).pending =
      s.serial.sections.flatMap WriteSection.seen ∧
    (∀ x ∈ s.serial.sections, ∀ d, x.job.desired F = some d → x.seen.length ≤ 1 ∧
      (x.returned = true → x.seen.map HostMessage.ofFrame = [some (.desiredState d)]) ∧
      ∀ g ∈ x.seen, HostMessage.ofFrame g = some (.desiredState d) ∨
        (HostMessage.ofFrame g : Option (HostMessage F)) = none) ∧
    written s.serial.past = (handedOver s.threads.log).map (fun d => (d.1.onWire, d.2)) ∧
    ∃ ms t, run Threads.step Threads.init ms = some t ∧
      (handedOver s.threads.log).map Prod.fst = t.handed.map fun x => x.built.state := by
  obtain ⟨ns, hns, hserial⟩ := serial_of_run hls h
  obtain ⟨moves, hmoves, hthreads⟩ := threads_of_run hls h
  have hframed : Framed s.serial := framed_run hns hserial
  refine ⟨hframed.frames, fun x hx d hd => ?_, (matched_run hls h).past, ?_⟩
  · obtain ⟨f, hjob, hf⟩ := desired_eq_some hd
    obtain ⟨hfull, hone, hfront⟩ := hframed.seen hx hjob
    refine ⟨hone, fun hreturned => ?_, fun g hg => ?_⟩
    · rw [hfull hreturned, List.map_singleton, hf]
    · obtain ⟨hcommand, hpayload⟩ := hfront g hg
      exact front_ofFrame hf hcommand hpayload
  · obtain ⟨ms, t, hrun, hmirror⟩ := mirrors_run hmoves hthreads
    refine ⟨ms, t, hrun, ?_⟩
    rw [← handedStates_eq, ← hmirror.handed, Config.log_settle]

/-- While the snapshot of a setter is on its way, another thread's data frame breaks off after two bytes:
the other end reads an empty data frame, which the next FEND closed, and then the snapshot. -/
theorem setters_on_line_torn :
    let answer : Answer Binary32 := ⟨false, .ends false⟩
    let events : List (SharedEvent Binary32) :=
      .line .open :: .move (.start 1 (Method.setter (.setSquelch 3)).code) ::
        List.replicate 14 (.move (.run 1 answer))++
        [.other 2 (.writeFrame ⟨0x00, [0x41]⟩), .line .check, .line .send, .line .send, .line .fail,
          .hand 1, .line .check]++
        List.replicate 31 (.line .send)++[.line .finish]
    let sent : HostDesiredState Binary32 := ⟨1, -1, 1, 0, ⟨0⟩, ⟨0⟩, 0, 3, 0⟩
    ∃ s, run SharedLine.step SharedLine.init events = some s ∧
      (KissParser.init.frames s.serial.line++
          (s.serial.line.foldl KissParser.next KissParser.init).pending).map HostMessage.ofFrame =
        [some (.ax25Frame []), some (.desiredState sent)] ∧
      ∃ ms t, run Threads.step Threads.init ms = some t ∧
        (handedOver s.threads.log).map Prod.fst = t.handed.map fun x => x.built.state := by
  intro answer events sent
  have hrun : (run SharedLine.step SharedLine.init events).map (fun s =>
      (s.serial.sections.flatMap WriteSection.seen).map HostMessage.ofFrame) =
        some [some (.ax25Frame []), some (.desiredState sent)] := by
    decide +kernel
  obtain ⟨s, hs, hseen⟩ := Option.map_eq_some_iff.mp hrun
  have hallowed : ∀ l ∈ events, l.Allowed 0 := by
    intro l hl
    simp only [events, List.mem_append, List.mem_cons, List.mem_replicate, List.not_mem_nil,
      or_false] at hl
    rcases hl with (((rfl | rfl | ⟨_, rfl⟩) | (rfl | rfl | rfl | rfl | rfl | rfl | rfl)) |
      ⟨_, rfl⟩) | rfl
    · trivial
    · exact ⟨_, rfl, fun h => h.elim⟩
    · trivial
    · exact ⟨⟨by decide, by decide⟩, rfl⟩
    all_goals trivial
  obtain ⟨hframes, _, _, hrest⟩ := setters_on_line hallowed hs
  refine ⟨s, hs, ?_, hrest⟩
  rw [hframes]
  exact hseen

end Kv4p

import Kv4p.DummyTransport

/-! The handshake: when `reset` and `connect` return, and what the radio knows then. -/
namespace Kv4p
open Effects Transitions

variable {F : Type} [PyFloat F] (env : Environment F)

/-- Arrivals log the HELLOs they carry, in order, and calls of callbacks. -/
theorem receive_log (a : Arrival) (w : World F) :
    ∃ calls, ((receive env a).run w).2.log = w.log++calls ∧
      ((∃ hello, Event.hello hello ∈ calls) ↔ (a.hello : Option (Hello F)).isSome = true) := by
  obtain ⟨v, ht, hq⟩ := receive_takes env a w
  obtain ⟨calls, hlog, hc⟩ := hq.log
  have hno : ¬ ∃ hello, Event.hello hello ∈ calls := by
    intro h
    obtain ⟨hello, hh⟩ := h
    obtain ⟨c, ok, he⟩ := hc _ hh
    cases he
  cases ht with
  | nothing _ ha => exact ⟨calls, hlog, by simp [hno, ha]⟩
  | error exc => exact ⟨calls, hlog, by simp [hno, Arrival.hello]⟩
  | hello _ payload hello ha _ =>
    refine ⟨.hello hello :: calls, ?_, ?_⟩
    · rw [hlog, ← List.singleton_append, ← List.append_assoc]
      rfl
    · rw [ha]
      exact ⟨fun _ => rfl, fun _ => ⟨hello, List.mem_cons_self⟩⟩
  | report _ payload state ha _ => exact ⟨calls, hlog, by simp [hno, ha]⟩

theorem receiveAll_log (arrivals : List Arrival) (w : World F) :
    ∃ calls, ((receiveAll env arrivals).run w).2.log = w.log++calls ∧
      ((∃ hello, Event.hello hello ∈ calls) ↔
        ∃ a ∈ arrivals, (a.hello : Option (Hello F)).isSome = true) := by
  induction arrivals generalizing w with
  | nil => exact ⟨[], (List.append_nil _).symm, by simp⟩
  | cons a arrivals ih =>
    obtain ⟨calls, hlog, hc⟩ := receive_log env a w
    obtain ⟨calls', hlog', hc'⟩ := ih ((receive env a).run w).2
    refine ⟨calls++calls', ?_, ?_⟩
    · rw [receiveAll_cons, hlog', hlog, List.append_assoc]
    · simp only [List.mem_append, exists_or, List.mem_cons, exists_eq_or_imp, hc, hc']

/-- Frames leave the lifecycle alone. -/
theorem receiveAll_frames {arrivals : List Arrival} (ha : ∀ a ∈ arrivals, a.isError = false)
    (w : World F) :
    ((receiveAll env arrivals).run w).2.isOpen = w.isOpen ∧
      ((receiveAll env arrivals).run w).2.transportError = w.transportError := by
  have hone : ∀ a ∈ arrivals, Moves (fun v w : World F => w.isOpen = v.isOpen ∧
      w.transportError = v.transportError) (receive env a) := by
    intro a h w
    obtain ⟨v, ht, hq⟩ := receive_takes env a w
    rw [hq.isOpen, hq.transportError]
    cases ht with
    | nothing | hello | report => exact ⟨rfl, rfl⟩
    | error exc => cases ha _ h
  exact moves_each (R := fun v w : World F => w.isOpen = v.isOpen ∧
      w.transportError = v.transportError) (fun _ => ⟨rfl, rfl⟩)
    (fun _ _ _ huv hvw => ⟨hvw.1.trans huv.1, hvw.2.trans huv.2⟩) hone w

/-- The event is set once a HELLO was taken over, and then a HELLO is known. -/
structure Announced (w : World F) : Prop where
  audio : w.tracker.txAudioCommand ≠ commandHostDesiredState
  event : w.tracker.helloEvent = true ↔ ∃ hello, Event.hello hello ∈ w.log
  known : w.tracker.helloEvent = true → w.tracker.hello.isSome = true

namespace Announced

omit [PyFloat F] in
/-- Nothing but a HELLO in the log touches the handshake. -/
theorem extend {w v : World F} (hI : Announced w)
    (ha : v.tracker.txAudioCommand = w.tracker.txAudioCommand)
    (he : v.tracker.helloEvent = w.tracker.helloEvent) (hh : v.tracker.hello = w.tracker.hello)
    {calls : List (Event F)} (hlog : v.log = w.log++calls)
    (hc : ∀ hello, Event.hello hello ∉ calls) : Announced v := by
  constructor
  · rw [ha]
    exact hI.audio
  · rw [he, hI.event, hlog]
    simp only [List.mem_append, hc, or_false]
  · rw [he, hh]
    exact hI.known

theorem init : Announced (World.init : World F) := by
  have haudio : commandAudioOpus ≠ commandHostDesiredState := by decide
  refine ⟨haudio, ?_, ?_⟩
  · simp [World.init, DeviceStateTracker.init]
  · intro h
    cases h

theorem survives : Survives (F := F) (fun _ => True) Announced where
  quiet {w v} h hI := by
    obtain ⟨last, ht⟩ := h.tracker
    obtain ⟨calls, hlog, hc⟩ := h.log
    apply hI.extend (by rw [ht]) (by rw [ht]) (by rw [ht]) hlog
    intro hello hh
    obtain ⟨c, ok, he⟩ := hc _ hh
    cases he
  hello {w payload hello} _ hI := by
    refine ⟨txAudioCommand_takeHello w hello, ?_, fun _ => rfl⟩
    simp only [World.takeHello, World.record, true_iff]
    exact ⟨hello, by simp⟩
  report _ hI := hI.extend rfl rfl rfl (List.append_nil _).symm (by simp)
  error _ hI := hI.extend rfl rfl rfl (List.append_nil _).symm (by simp)
  clearError hI := hI.extend rfl rfl rfl (List.append_nil _).symm (by simp)
  isOpen _ hI := hI.extend rfl rfl rfl (List.append_nil _).symm (by simp)
  call ok _ hI := hI.extend rfl rfl rfl rfl (by simp)
  audio hI := hI.audio

theorem trackerCall (c : SetterCall F) : Keeps Announced (trackerCall env c) := by
  intro w hI
  obtain ⟨ht, _, _, calls, hlog, hc⟩ := trackerCall_frame env c w
  obtain ⟨hhello, hevent, _, haudio⟩ := setterSection_frame w.tracker c
  apply hI.extend (by rw [ht, haudio]) (by rw [ht, hevent]) (by rw [ht, hhello]) hlog
  intro hello hh
  obtain ⟨call, ok, he⟩ := hc _ hh
  cases he

/-- Every run keeps the event in step with the log. -/
theorem run (ops : List (Op F)) : Announced (World.run env World.init ops) := by
  apply survives.run (P := fun _ _ => True) _ (fun _ _ _ _ => trivial) init
    (allSteps_of_forall fun _ _ _ => trivial)
  intro w op hI _ c _ _
  exact keeps_each (fun tc _ => trackerCall env tc) w hI

end Announced

/-- The world when `reset` stops waiting. -/
def afterWait (waiting : List Arrival) (w : World F) : World F :=
  ((receiveAll env waiting).run (w.record (.transport .reset true))).2

/-- `reset` on an open radio whose transport resets: what counts is the event after the wait. -/
theorem reset_run (waiting : List Arrival) {w : World F} (ho : w.isOpen = true)
    (ht : env.transportRaises .reset w.log.length = false) :
    (reset env waiting).run w =
      (if (afterWait env waiting w).tracker.helloEvent = true then .ok ()
        else .error (.timeoutError "timed out waiting for HELLO after reset"),
      afterWait env waiting w) := by
  have hwait : (waitForHello env waiting).run (w.record (.transport .reset true)) =
      (.ok (afterWait env waiting w).tracker.helloEvent, afterWait env waiting w) := by
    unfold waitForHello
    rw [Effect.bind_run, Effect.andThen_of_ok (receiveAll_ok env waiting _)]
    rfl
  unfold reset
  rw [Effect.read_bind_run, ho, if_neg Bool.noConfusion, Effect.bind_run,
    callTransport_returns env ht, Effect.andThen_ok, Effect.bind_run, hwait, Effect.andThen_ok]
  split
  · rfl
  · rfl

/-- `reset` returns exactly on an open radio whose transport resets and with the event set after
the wait. -/
theorem reset_returns (waiting : List Arrival) (w : World F) :
    ((reset env waiting).run w).1 = .ok () ↔
      w.isOpen = true ∧ env.transportRaises .reset w.log.length = false ∧
        (afterWait env waiting w).tracker.helloEvent = true := by
  cases ho : w.isOpen with
  | false =>
    unfold reset
    rw [Effect.read_bind_run, if_pos ho]
    simp
  | true =>
    cases ht : env.transportRaises .reset w.log.length with
    | true =>
      unfold reset
      rw [Effect.read_bind_run, ho, if_neg Bool.noConfusion, Effect.bind_run,
        callTransport_raises env ht]
      simp
    | false =>
      rw [reset_run env waiting ho ht]
      simp

theorem reset_world {waiting : List Arrival} {w : World F}
    (h : ((reset env waiting).run w).1 = .ok ()) :
    ((reset env waiting).run w).2 = afterWait env waiting w := by
  obtain ⟨ho, ht, _⟩ := (reset_returns env waiting w).mp h
  rw [reset_run env waiting ho ht]

/-- The states in which `reset` is entered: by the application after a run, or from `connect`. -/
inductive ResetEntry : World F → Prop
  | direct (ops : List (Op F)) : ResetEntry (World.run env World.init ops)
  | connecting (ops : List (Op F)) (early : List Arrival)
      (hclosed : (World.run env World.init ops).isOpen = false)
      (hopen : ((openTransport env early).run (World.run env World.init ops)).1 = .ok ()) :
      ResetEntry ((openTransport env early).run (World.run env World.init ops)).2

theorem ResetEntry.announced {w : World F} (h : ResetEntry env w) : Announced w := by
  cases h with
  | direct ops => exact Announced.run env ops
  | connecting ops early _ _ =>
    exact Announced.survives.openTransport (fun _ _ => trivial) _ (Announced.run env ops)

/-- If the call of `reset` returns, a HELLO was taken over after its own call of the transport. -/
def Fresh (w : World F) (waiting : List Arrival) : Prop :=
  ((reset env waiting).run w).1 = .ok () →
    ∃ after, ((reset env waiting).run w).2.log = w.log++.transport .reset true :: after ∧
      ∃ hello, Event.hello hello ∈ after

/-- A call of `reset` is fresh exactly if it cannot return at all, or no HELLO was taken over before
it, or one arrives while it waits. -/
theorem reset_fresh_iff {w : World F} (hw : ResetEntry env w) (waiting : List Arrival) :
    Fresh env w waiting ↔
      (w.isOpen = false ∨ env.transportRaises .reset w.log.length = true) ∨
        (∀ hello, Event.hello hello ∉ w.log) ∨
        ∃ a ∈ waiting, (a.hello : Option (Hello F)).isSome = true := by
  have hI := hw.announced env
  obtain ⟨after, hlog, hafter⟩ :=
    receiveAll_log env waiting (w.record (.transport .reset true))
  have hlog' : (afterWait env waiting w).log = w.log++.transport .reset true :: after := by
    rw [afterWait, hlog, World.record, List.append_assoc]
    rfl
  have hend : (afterWait env waiting w).tracker.helloEvent = true ↔
      (∃ hello, Event.hello hello ∈ w.log) ∨ ∃ hello, Event.hello hello ∈ after := by
    have hend : Announced (afterWait env waiting w) :=
      Announced.survives.inSession.receiveAll (fun _ _ => trivial) _
        (Announced.survives.call true .resets hI)
    rw [hend.event, hlog']
    simp only [List.mem_append, List.mem_cons, reduceCtorEq, false_or, exists_or]
  rw [← hafter, Fresh]
  constructor
  · intro hfresh
    -- Otherwise the old event lets `reset` return, and nothing came after its call.
    by_contra hno
    push Not at hno
    obtain ⟨⟨ho, ht⟩, hbefore, hnone⟩ := hno
    have hret : ((reset env waiting).run w).1 = .ok () :=
      (reset_returns env waiting w).mpr ⟨by simpa using ho, by simpa using ht,
        hend.mpr (Or.inl hbefore)⟩
    obtain ⟨after', heq, hello, hh⟩ := hfresh hret
    rw [reset_world env hret, hlog'] at heq
    simp only [List.append_cancel_left_eq, List.cons.injEq, true_and] at heq
    rw [← heq] at hh
    exact hnone hello hh
  · intro hcases hret
    obtain ⟨ho, ht, he⟩ := (reset_returns env waiting w).mp hret
    refine ⟨after, (congrArg World.log (reset_world env hret)).trans hlog', ?_⟩
    rcases hcases with (hc | hr) | hbefore | hnew
    · rw [ho] at hc
      cases hc
    · rw [ht] at hr
      cases hr
    · rcases hend.mp he with ⟨hello, hh⟩ | hh
      · exact absurd hh (hbefore hello)
      · exact hh
    · exact hnew

/-- The first `connect` times out; a `reset` that then gets its HELLO is fresh. -/
theorem reset_fresh_dummy :
    Fresh faultless (World.run faultless World.init [.connect [] []]) dummyTransport.helloFrames :=
  (reset_fresh_iff faultless (.direct [.connect [] []]) dummyTransport.helloFrames).mpr
    (Or.inr (Or.inr (by decide +kernel)))

/-- The event of the first handshake stays set: the next `reset` returns at once, without a HELLO. -/
theorem reset_stale :
    let w := World.run faultless World.init [.connect [] dummyTransport.helloFrames]
    ((reset faultless []).run w).1 = .ok () ∧
      ((reset faultless []).run w).2.log = w.log++[.transport .reset true] := by
  decide +kernel

/-- After a `reset` that returned the radio is ready exactly if no transport error was recorded
before. -/
theorem reset_ready {w : World F} (hI : Announced w) {waiting : List Arrival}
    (ha : ∀ a ∈ waiting, a.isError = false) (h : ((reset env waiting).run w).1 = .ok ()) :
    ((reset env waiting).run w).2.isReady = true ↔ w.transportError = none := by
  obtain ⟨ho, _, he⟩ := (reset_returns env waiting w).mp h
  obtain ⟨hopen, herror⟩ := receiveAll_frames env ha (w.record (.transport .reset true))
  have hend : Announced (afterWait env waiting w) :=
    Announced.survives.inSession.receiveAll (fun _ _ => trivial) _
      (Announced.survives.call true .resets hI)
  have hknown := hend.known he
  rw [reset_world env h, World.isReady]
  unfold afterWait at hknown ⊢
  rw [hopen, herror, hknown]
  simp [World.record, ho]

theorem openTransport_returns {early : List Arrival} (ha : ∀ a ∈ early, a.isError = false)
    {w : World F} (h : ((openTransport env early).run w).1 = .ok ()) :
    ((openTransport env early).run w).2.transportError = none := by
  unfold openTransport at h ⊢
  rw [Effect.bind_run, Effect.update_run, Effect.andThen_ok, Effect.bind_run] at h ⊢
  rcases callTransport_cases env .open { w with transportError := none } with ⟨_, hc⟩ | ⟨_, hc⟩
  · rw [hc] at h
    cases h
  · have herror := (receiveAll_frames env ha
      ({ w with transportError := none }.record (.transport .open true))).2
    rw [hc, Effect.andThen_ok, Effect.bind_run, Effect.andThen_of_ok (receiveAll_ok env early _)]
    exact herror

/-- When no transport error is reported during the call: a `connect` that returns leaves the radio
ready exactly if the radio was closed or ready before, a `reset` that returns exactly if no transport
error was recorded before. -/
theorem lifecycle_ready_iff (ops : List (Op F))
    (early waiting : List Arrival) (he : ∀ a ∈ early, a.isError = false)
    (ha : ∀ a ∈ waiting, a.isError = false) :
    let w := World.run env World.init ops
    (((connect env early waiting).run w).1 = .ok () →
        (((connect env early waiting).run w).2.isReady = true ↔
          w.isOpen = false ∨ w.isReady = true)) ∧
      (((reset env waiting).run w).1 = .ok () →
        (((reset env waiting).run w).2.isReady = true ↔ w.transportError = none)) := by
  intro w
  have hI : Announced w := Announced.run env ops
  refine ⟨?_, reset_ready env hI ha⟩
  unfold connect
  rw [Effect.read_bind_run]
  cases ho : w.isOpen with
  | true =>
    rw [if_pos rfl]
    simp
  | false =>
    rw [if_neg Bool.noConfusion, Effect.bind_run]
    simp only [true_or, iff_true]
    intro h
    have hv : Announced ((openTransport env early).run w).2 :=
      Announced.survives.openTransport (fun _ _ => trivial) w hI
    cases hopen : ((openTransport env early).run w).1 with
    | error e =>
      rw [Effect.andThen_of_error hopen] at h
      cases h
    | ok _ =>
      rw [Effect.andThen_of_ok hopen] at h ⊢
      exact (reset_ready env hv ha h).mpr (openTransport_returns env he hopen)

theorem lifecycle_ready_dummy :
    (World.run faultless World.init [.connect [] dummyTransport.helloFrames]).isReady = true :=
  ((lifecycle_ready_iff faultless [] [] dummyTransport.helloFrames (by decide)
    (by decide +kernel)).1 (by decide +kernel)).mpr (Or.inl rfl)

/-- `connect` times out and leaves the radio open, so the retry returns at once: not ready. -/
theorem connect_retry_not_ready :
    let w := World.run faultless World.init [.connect [] []]
    ((connect faultless [] []).run w).1 = .ok () ∧
      ((connect faultless [] []).run w).2.isReady = false := by
  decide +kernel

end Kv4p

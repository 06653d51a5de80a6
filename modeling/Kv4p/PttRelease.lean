import Kv4p.DummyTransport

/-! Whether PTT on the wire is what was last asked for: after `set_ptt`, and when `disconnect` closes
the transport. -/
namespace Kv4p
open Effects Transitions

variable {F : Type} [PyFloat F] {env : Environment F}

/-- What `set_ptt` does when the radio is ready. -/
theorem setPtt_run (env : Environment F) (enabled : Bool) {w : World F}
    (hr : w.isReady = true) :
    (setPtt env enabled).run w = (trackerCall env (.requestPtt enabled)).run w := by
  have h := setter_call_run env (.setPtt enabled) w
  rw [Setter.check, checkReady_eq_ok.mpr hr] at h
  exact h.trans (Effect.each_singleton_run _ _ w)

theorem setPtt_run_not_ready (env : Environment F) (enabled : Bool) {w : World F}
    (hr : ¬ w.isReady = true) :
    ∃ e, (setPtt env enabled).run w = (.error e, w) := by
  obtain ⟨e, _, h⟩ := setter_run_not_ready env (.setPtt enabled) hr
  exact ⟨e, h⟩

/-- What keeps `I` in the calls of all other setters and in this step's `set_ptt` keeps it in all the
setters of the step. -/
theorem setters_keep {I : World F → Prop}
    (hother : ∀ c : SetterCall F, c.flagWrite 1 = none → Keeps I (trackerCall env c))
    {w : World F} {op : Op F} (hI : I w)
    (hptt : ∀ enabled, .setPtt enabled ∈ op.setters → w.isReady = true →
      I ((trackerCall env (.requestPtt enabled)).run w).2) :
    ∀ c ∈ op.setters, c.check w = .ok () →
      I ((Effect.each (trackerCall env) c.trackerCalls).run w).2 := by
  intro c hc hcheck
  by_cases h : ∃ enabled, c = .setPtt enabled
  · obtain ⟨enabled, rfl⟩ := h
    rw [Setter.trackerCalls, Effect.each_singleton_run]
    exact hptt enabled hc (isReady_of_check hcheck)
  · have hall : ∀ tc ∈ c.trackerCalls, Keeps I (trackerCall env tc) := by
      intro tc htc
      rcases flagWrite_of_trackerCalls htc (i := 1) (by decide) with hp | ⟨_, hp⟩
      · exact hother tc hp
      · exact absurd hp h
    exact keeps_each hall w hI

/-- The tracker's PTT request is the one on the wire. -/
structure Synced (w : World F) : Prop where
  audio : w.tracker.txAudioCommand ≠ commandHostDesiredState
  ptt : wirePtt w.log = some w.tracker.settings.pttRequested

namespace Synced

theorem quiet {w v : World F} (h : Quiet w v) (hI : Synced w) : Synced v := by
  obtain ⟨last, ht⟩ := h.tracker
  constructor
  · rw [ht]
    exact hI.audio
  · rw [wirePtt_quiet h, ht]
    exact hI.ptt

theorem takeHello (w : World F) (hello : Hello F) : Synced (w.takeHello hello) :=
  ⟨txAudioCommand_takeHello w hello, wirePtt_takeHello w hello⟩

theorem survives : Survives (F := F) (fun _ => True) Synced where
  quiet := quiet
  hello _ _ := takeHello _ _
  report _ hI := ⟨hI.audio, hI.ptt⟩
  error _ hI := ⟨hI.audio, hI.ptt⟩
  clearError hI := ⟨hI.audio, hI.ptt⟩
  isOpen _ hI := ⟨hI.audio, hI.ptt⟩
  call ok hc hI := ⟨hI.audio, by rw [wirePtt_record_harmless _ hc]; exact hI.ptt⟩
  audio hI := hI.audio

theorem other {c : SetterCall F} (hc : c.flagWrite 1 = none) :
    Keeps Synced (trackerCall env c) := by
  intro w hI
  obtain ⟨hs, _, ha⟩ := tracker_trackerCall env c w
  constructor
  · rw [ha]
    exact hI.audio
  · rw [hs, pttRequested_mutate hc]
    rcases wirePtt_trackerCall env c w with h | h
    · rw [h]
      exact hI.ptt
    · rw [h, pttRequested_mutate hc]

end Synced

/-- A `request_ptt` that returns found nothing to change, or put its request on the wire. -/
theorem requestPtt_returns {enabled : Bool} {w : World F}
    (h : ((trackerCall env (.requestPtt enabled)).run w).1 = .ok ()) :
    (w.tracker.settings.pttRequested = enabled ∧
        ((trackerCall env (.requestPtt enabled)).run w).2 = w) ∨
      (w.tracker.settings.pttRequested ≠ enabled ∧
        wirePtt ((trackerCall env (.requestPtt enabled)).run w).2.log = some enabled) := by
  have hne (hs : (SetterCall.requestPtt enabled).suppressed w.tracker.settings = false) :
      w.tracker.settings.pttRequested ≠ enabled := by
    rw [suppressed_requestPtt] at hs
    simpa using hs
  rcases trackerCall_cases env (.requestPtt enabled) w with ⟨hs, hr⟩ | ⟨_, e, _, hr⟩ |
    ⟨_, body, _, _, hr⟩ | ⟨hs, body, hb, _, hr⟩
  · left
    rw [suppressed_requestPtt] at hs
    exact ⟨by simpa using hs, by rw [hr]⟩
  · rw [hr] at h
    cases h
  · rw [hr] at h
    cases h
  · right
    refine ⟨hne hs, ?_⟩
    have hp := pttRequested_requestPtt w.tracker.settings enabled
    rw [hr, wirePtt_record_accepted _ hb]
    exact congrArg some hp

/-- A `request_ptt` whose snapshot is accepted returns. -/
theorem requestPtt_accepted {enabled : Bool} {w : World F}
    (ha : env.accepts w.log.length ((SetterCall.requestPtt enabled).snapshot w.tracker) = true) :
    ((trackerCall env (.requestPtt enabled)).run w).1 = .ok () := by
  rcases trackerCall_outcome env (.requestPtt enabled) w with ⟨_, h⟩ | ⟨_, hn, _⟩ | ⟨_, _, e, h⟩
  · rw [h]
  · rw [ha] at hn
    cases hn
  · rw [h]

/-- Every `set_ptt` of the step that has a bit to change gets its snapshot accepted. -/
def HandsOver (env : Environment F) (w : World F) (op : Op F) : Prop :=
  ∀ enabled, .setPtt enabled ∈ op.setters → w.isReady = true →
    w.tracker.settings.pttRequested ≠ enabled →
      env.accepts w.log.length ((SetterCall.requestPtt enabled).snapshot w.tracker) = true

instance [DecidableEq F] (w : World F) (op : Op F) : Decidable (HandsOver env w op) :=
  inferInstanceAs (Decidable (∀ _ : Bool, _ → _ → _ → _))

theorem Synced.setters {w : World F} {op : Op F} (hI : Synced w) (hP : HandsOver env w op) :
    ∀ c ∈ op.setters, c.check w = .ok () →
      Synced ((Effect.each (trackerCall env) c.trackerCalls).run w).2 := by
  apply setters_keep (fun c hc => Synced.other hc) hI
  intro enabled hop hr
  by_cases ht : w.tracker.settings.pttRequested = enabled
  · -- Nothing to change: only the suppressed case is possible.
    rcases trackerCall_cases env (.requestPtt enabled) w with ⟨_, h⟩ | h | h | h
    · rw [h]
      exact hI
    all_goals
      have hs := h.1
      rw [suppressed_requestPtt, ht] at hs
      simp at hs
  · have hret := requestPtt_accepted (hP enabled hop hr ht)
    obtain ⟨hs, _, ha⟩ := tracker_trackerCall env (.requestPtt enabled) w
    rcases requestPtt_returns hret with ⟨h, _⟩ | ⟨_, h⟩
    · exact absurd h ht
    · constructor
      · rw [ha]
        exact hI.audio
      · rw [h, hs, pttRequested_requestPtt]

theorem isReady_of_setPtt {enabled : Bool} {w : World F}
    (h : ((setPtt env enabled).run w).1 = .ok ()) : w.isReady = true := by
  by_contra hr
  obtain ⟨e, he⟩ := setPtt_run_not_ready env enabled hr
  rw [he] at h
  cases h

/-- After a `set_ptt` that returned, the wire shows what was asked for exactly if the tracker had a
bit to change or the wire showed it before. It does after every run since a HELLO in which the
snapshots of the calls of `set_ptt` that had a bit to change were accepted. -/
theorem setPtt_truthful (env : Environment F) (u : World F) (hello : Hello F) (ops : List (Op F))
    (enabled : Bool)
    (hret : ((setPtt env enabled).run
      (World.run env ((onHello env hello).run u).2 ops)).1 = .ok ()) :
    let w := ((onHello env hello).run u).2
    let v := World.run env w ops
    (wirePtt ((setPtt env enabled).run v).2.log = some enabled ↔
        v.tracker.settings.pttRequested ≠ enabled ∨ wirePtt v.log = some enabled) ∧
      (AllSteps (World.step env) (HandsOver env) w ops →
        wirePtt ((setPtt env enabled).run v).2.log = some enabled) := by
  intro w v
  have hrun := setPtt_run env enabled (isReady_of_setPtt hret)
  rw [hrun] at hret
  have hexact : wirePtt ((setPtt env enabled).run v).2.log = some enabled ↔
      v.tracker.settings.pttRequested ≠ enabled ∨ wirePtt v.log = some enabled := by
    rw [hrun]
    rcases requestPtt_returns hret with ⟨ht, h⟩ | ⟨ht, h⟩
    · rw [h]
      simp only [ne_eq, ht, not_true_eq_false, false_or, v, w]
    · rw [h]
      simp only [ne_eq, ht, not_false_eq_true, true_or, v, w]
  refine ⟨hexact, ?_⟩
  intro hsteps
  -- HELLO brings tracker and wire together, and the steps keep them so.
  have hstart : Synced w := (Synced.takeHello u hello).quiet (onHello_quiet env hello u)
  have hsync : Synced v :=
    Synced.survives.run (fun _ _ hI hP => hI.setters hP) (fun _ _ _ _ => trivial) hstart hsteps
  apply hexact.mpr
  by_cases ht : v.tracker.settings.pttRequested = enabled
  · right
    rw [hsync.ptt, ht]
  · exact Or.inl ht

/-- The HELLO of the dummy transport, taken over by an open radio, which keys and then has the frame of
another setting refused: the `set_ptt` that unkeys it is believed. -/
theorem setPtt_truthful_dummy :
    let env := refusesAt 3
    let w := ((onHello env dummyHello).run { World.init with isOpen := true }).2
    let keying : List (Op Binary32) := [.setter (.setTxAllowed true), .setter (.setPtt true)]
    let ops := keying++[.setter (.setSquelch 3)]
    ((setSquelch env 3).run (World.run env w keying)).1 = .error .transportRaised ∧
      wirePtt (World.run env w ops).log = some true ∧
      wirePtt ((setPtt env false).run (World.run env w ops)).2.log = some false := by
  intro env w keying ops
  exact ⟨by decide +kernel, by decide +kernel, (setPtt_truthful env
    { World.init with isOpen := true } dummyHello ops false (by decide +kernel)).2 (by decide +kernel)⟩

/-- The transport refuses the frame of one `set_ptt(False)`; the retry finds the bit clear in the
tracker, returns without sending, and PTT stays requested on the wire. -/
theorem setPtt_retry_suppressed :
    let env := refusesAt 5
    let w := World.run env World.init [.connect [] dummyTransport.helloFrames,
      .setter (.setTxAllowed true), .setter (.setPtt true), .setter (.setPtt false)]
    ((setPtt env false).run w).1 = .ok () ∧
      wirePtt ((setPtt env false).run w).2.log = some true := by
  decide +kernel

/-- The bit `disconnect` relies on: while the tracker's PTT request is clear the wire shows none.
Nothing is shown before HELLO. -/
structure Releasable (w : World F) : Prop where
  error : w.transportError = none
  audio : w.tracker.txAudioCommand ≠ commandHostDesiredState
  ptt : w.tracker.settings.pttRequested = false → wirePtt w.log ≠ some true
  hello : w.tracker.hello = none → wirePtt w.log ≠ some true

/-- A radio that is asked to unkey while PTT is on the wire can pack the snapshot that says so. -/
def CanUnkey (w : World F) : Prop :=
  w.isReady = true → wirePtt w.log = some true →
    ((SetterCall.requestPtt false).snapshot w.tracker).packs = true

instance (w : World F) : Decidable (CanUnkey w) := inferInstanceAs (Decidable (_ → _ → _))

/-- If the step unkeys, it can. -/
def UnkeyPacks (w : World F) (op : Op F) : Prop := .setPtt false ∈ op.setters → CanUnkey w

instance [DecidableEq F] (w : World F) (op : Op F) : Decidable (UnkeyPacks w op) :=
  inferInstanceAs (Decidable (_ → _))

namespace Releasable

theorem quiet {w v : World F} (h : Quiet w v) (hI : Releasable w) : Releasable v := by
  obtain ⟨last, ht⟩ := h.tracker
  constructor
  · rw [h.transportError]
    exact hI.error
  · rw [ht]
    exact hI.audio
  · rw [ht, wirePtt_quiet h]
    exact hI.ptt
  · rw [ht, wirePtt_quiet h]
    exact hI.hello

theorem takeHello {w : World F} (hello : Hello F) (hI : Releasable w) :
    Releasable (w.takeHello hello) := by
  constructor
  · exact hI.error
  · exact txAudioCommand_takeHello w hello
  · intro hp
    rw [wirePtt_takeHello, hp]
    simp
  · intro hn
    cases hn

theorem record {w : World F} (hI : Releasable w) {call : TransportCall} (hc : Harmless call)
    (ok : Bool) : Releasable (w.record (.transport call ok)) := by
  have h := wirePtt_record_harmless w hc ok
  refine ⟨hI.error, hI.audio, ?_, ?_⟩
  · rw [h]
    exact hI.ptt
  · rw [h]
    exact hI.hello

theorem survives : Survives (F := F) (fun a => a.isError = false) Releasable where
  quiet := quiet
  hello _ hI := hI.takeHello _
  report _ hI := ⟨hI.error, hI.audio, hI.ptt, hI.hello⟩
  error ha _ := by cases ha
  clearError hI := ⟨rfl, hI.audio, hI.ptt, hI.hello⟩
  isOpen _ hI := ⟨hI.error, hI.audio, hI.ptt, hI.hello⟩
  call ok hc hI := hI.record hc ok
  audio hI := hI.audio

/-- What is left to show after a tracker setter on a radio that knows HELLO. -/
theorem afterCall {w : World F} {c : SetterCall F} (hI : Releasable w)
    (hh : w.tracker.hello.isSome = true)
    (hptt : (c.mutate w.tracker.settings).pttRequested = false →
      wirePtt ((trackerCall env c).run w).2.log ≠ some true) :
    Releasable ((trackerCall env c).run w).2 ∧
      ((trackerCall env c).run w).2.tracker.hello.isSome = true := by
  obtain ⟨hs, hhello, haudio⟩ := tracker_trackerCall env c w
  have herror := (trackerCall_frame env c w).2.2.1
  rw [← hhello] at hh
  refine ⟨⟨?_, ?_, ?_, ?_⟩, hh⟩
  · rw [herror]
    exact hI.error
  · rw [haudio]
    exact hI.audio
  · rw [hs]
    exact hptt
  · intro hn
    rw [hn] at hh
    cases hh

theorem other {c : SetterCall F} (hc : c.flagWrite 1 = none) :
    Keeps (fun w => Releasable w ∧ w.tracker.hello.isSome = true) (trackerCall env c) := by
  intro w hI
  obtain ⟨hI, hh⟩ := hI
  apply hI.afterCall hh
  rw [pttRequested_mutate hc]
  intro hp
  rcases wirePtt_trackerCall env c w with h | h
  · rw [h]
    exact hI.ptt hp
  · rw [h, pttRequested_mutate hc, hp]
    simp

end Releasable

/-- What becomes of PTT on the wire when a ready radio unkeys and no frame is refused: it is
released exactly if that was possible. -/
theorem requestPtt_releases
    (hw : ∀ command payload n, env.transportRaises (.writeFrame command payload) n = false)
    {w : World F} (hI : Releasable w) (hr : w.isReady = true) :
    wirePtt ((trackerCall env (.requestPtt false)).run w).2.log ≠ some true ↔ CanUnkey w := by
  unfold CanUnkey
  rcases trackerCall_cases env (.requestPtt false) w with ⟨hs, h⟩ | ⟨_, e, he, h⟩ |
    ⟨_, body, _, ht, _⟩ | ⟨_, body, hb, _, h⟩
  · -- The tracker holds no request, so by the invariant the wire shows none.
    rw [suppressed_requestPtt, beq_iff_eq] at hs
    have hclear := hI.ptt hs
    rw [h]
    simp only [hclear, ne_eq, not_false_eq_true, false_implies, implies_true]
  · -- The wire keeps what it showed, and the condition says it showed no request.
    have hno : ((SetterCall.requestPtt false).snapshot w.tracker).packs = false := by
      rw [HostDesiredState.packs, he]
    rw [h, hno]
    simp only [World.afterSection, hr, ne_eq, true_implies, Bool.false_eq_true, imp_false]
  · rw [desiredCall, hw] at ht
    cases ht
  · have hp := packs_iff.mpr ⟨body, hb⟩
    have hclear : (BitMask.anySet ((SetterCall.requestPtt false).snapshot w.tracker).flags
        hostStatePttRequested) = false := pttRequested_requestPtt w.tracker.settings false
    rw [h, wirePtt_record_accepted _ hb, hclear, hp]
    simp

theorem Releasable.setters
    (hw : ∀ command payload n, env.transportRaises (.writeFrame command payload) n = false)
    {w : World F} {op : Op F} (hI : Releasable w) (hP : UnkeyPacks w op) :
    ∀ c ∈ op.setters, c.check w = .ok () →
      Releasable ((Effect.each (trackerCall env) c.trackerCalls).run w).2 := by
  intro c hc hcheck
  have hhello : w.tracker.hello.isSome = true := by
    have hr := isReady_of_check hcheck
    simp only [World.isReady, Bool.and_eq_true] at hr
    exact hr.2
  have hptt : ∀ enabled, .setPtt enabled ∈ op.setters → w.isReady = true →
      Releasable ((trackerCall env (.requestPtt enabled)).run w).2 ∧
        ((trackerCall env (.requestPtt enabled)).run w).2.tracker.hello.isSome = true := by
    intro enabled hop hr
    apply hI.afterCall hhello
    rw [pttRequested_requestPtt]
    intro he
    subst he
    exact (requestPtt_releases hw hI hr).mpr (hP hop)
  have hother (c : SetterCall F) (hc : c.flagWrite 1 = none) :
      Keeps (fun w => Releasable w ∧ w.tracker.hello.isSome = true) (trackerCall env c) :=
    Releasable.other hc
  exact (setters_keep hother ⟨hI, hhello⟩ hptt c hc hcheck).1

/-- In every run in which no frame is refused, no transport error is reported, and every call that
unkeys the radio while PTT is on the wire can pack its snapshot: when `disconnect` closes the
transport PTT is not requested on the wire, exactly if `disconnect` too can pack its snapshot. -/
theorem disconnect_releases (env : Environment F)
    (hw : ∀ command payload n, env.transportRaises (.writeFrame command payload) n = false)
    (ops : List (Op F)) (ha : ∀ op ∈ ops, ∀ a ∈ op.arrivals, a.isError = false)
    (hsteps : AllSteps (World.step env) UnkeyPacks World.init ops)
    (ho : (World.run env World.init ops).isOpen = true) :
    ∃ log ok, (World.run env World.init (ops++[.disconnect])).log =
        log++[.transport .close ok] ∧
      (wirePtt log ≠ some true ↔ CanUnkey (World.run env World.init ops)) := by
  have haudio : commandAudioOpus ≠ commandHostDesiredState := by decide
  have hempty : wirePtt ([] : List (Event F)) ≠ some true := by simp [wirePtt]
  have hstart : Releasable (World.init : World F) :=
    ⟨rfl, haudio, fun _ => hempty, fun _ => hempty⟩
  have hI : Releasable (World.run env World.init ops) :=
    Releasable.survives.run (fun _ _ hI hP => hI.setters hw hP) ha hstart hsteps
  have hrun : World.run env World.init (ops++[.disconnect]) =
      ((disconnect env).run (World.run env World.init ops)).2 := by
    rw [World.run, List.foldl_append]
    rfl
  generalize World.run env World.init ops = w at hI ho hrun
  rw [hrun, disconnect_run env ho]
  have hclose (v : World F) : ∃ ok, ((callTransport env .close >>= fun _ =>
      Effect.update fun w => { w with isOpen := false }).run v).2.log =
        v.log++[.transport .close ok] := by
    rw [Effect.bind_run]
    rcases callTransport_cases env .close v with ⟨_, h⟩ | ⟨_, h⟩ <;> rw [h]
    · exact ⟨false, rfl⟩
    · exact ⟨true, rfl⟩
  split
  · rename_i hr
    obtain ⟨ok, hlog⟩ := hclose ((setPtt env false).run w).2
    refine ⟨_, ok, hlog, ?_⟩
    rw [setPtt_run env false hr]
    exact requestPtt_releases hw hI hr
  · rename_i hr
    obtain ⟨ok, hlog⟩ := hclose w
    refine ⟨_, ok, hlog, ?_⟩
    have hn : w.tracker.hello = none := by
      simpa [World.isReady, ho, hI.error] using hr
    have hclear := hI.hello hn
    simp only [CanUnkey, hclear, ne_eq, not_false_eq_true, false_implies, implies_true]

theorem disconnect_releases_dummy :
    ∃ log ok, (World.run faultless World.init [.connect [] dummyTransport.helloFrames,
        .setter (.setTxAllowed true), .setter (.setPtt true), .disconnect]).log =
        log++[.transport .close ok] ∧
      (wirePtt log ≠ some true ↔ CanUnkey (World.run faultless World.init
        [.connect [] dummyTransport.helloFrames, .setter (.setTxAllowed true),
          .setter (.setPtt true)])) :=
  disconnect_releases faultless (fun _ _ _ => rfl)
    [.connect [] dummyTransport.helloFrames, .setter (.setTxAllowed true), .setter (.setPtt true)]
    (by decide +kernel) (by decide +kernel) (by decide +kernel)

/-- `set_squelch(300)` raises but leaves its value in the settings. From then on no snapshot packs,
`disconnect` swallows the failure of its `set_ptt(False)`, and the radio is left transmitting. -/
theorem disconnect_leaves_keyed :
    let w := World.run faultless World.init [.connect [] dummyTransport.helloFrames,
      .setter (.setTxAllowed true), .setter (.setPtt true), .setter (.setSquelch 300)]
    (w.step faultless .disconnect).log = w.log++[.transport .close true] ∧
      wirePtt w.log = some true := by
  decide +kernel

end Kv4p

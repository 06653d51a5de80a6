import Kv4p.DummyTransport

/-! What the operations that transmit do on a radio that is not ready: all but one refuse. -/
namespace Kv4p
open Effects

variable {F : Type}

/-- The exception is `RadioNotReadyError`, and its subclass `RadioTransportError` when a transport
error is recorded. -/
def RaisesNotReady (w : World F) (r : Except (PyError F) Unit) : Prop :=
  match w.transportError with
  | some _ => ∃ message, r = .error (.radioTransport message)
  | none => ∃ message, r = .error (.radioNotReady message)

theorem raisesNotReady_cases {w : World F} {r : Except (PyError F) Unit}
    (h : RaisesNotReady w r) :
    ∃ message, r = .error (.radioTransport message) ∨ r = .error (.radioNotReady message) := by
  unfold RaisesNotReady at h
  split at h
  · exact h.imp fun _ => Or.inl
  · exact h.imp fun _ => Or.inr

/-- The operations that transmit. -/
inductive Transmits : Op F → Prop
  | setter (c : Setter F) : Transmits (.setter c)
  | txAudio (payload : List UInt8) (waiting : List Arrival) : Transmits (.sendTxAudio payload waiting)
  | ax25Frame (payload : List UInt8) (waiting : List Arrival) :
      Transmits (.sendAx25Frame payload waiting)

/-- The one that does not check whether the radio is ready. -/
def Op.isAx25Frame : Op F → Bool
  | .sendAx25Frame _ _ => true
  | _ => false

theorem checkReady_raises {w : World F} {e : PyError F} (h : w.checkReady = .error e) :
    RaisesNotReady w (.error e) := by
  unfold World.checkReady at h
  unfold RaisesNotReady
  cases herror : w.transportError with
  | some err =>
    rw [herror] at h
    exact ⟨_, h.symm⟩
  | none =>
    rw [herror] at h
    dsimp only at h
    split at h
    · cases h
    · exact ⟨_, h.symm⟩

variable [PyFloat F] (env : Environment F)

/-- A step refuses its call: it raises that the radio is not ready, makes no call of the transport
and leaves the tracker and the window as they were. -/
structure Refuses (w : World F) (op : Op F) : Prop where
  raises : RaisesNotReady w ((op.call env).run w).1
  noCall : (w.step env op).log = w.log
  tracker : (w.step env op).tracker = w.tracker
  flow : (w.step env op).flow = w.flow

theorem refuses_of_run {w : World F} {op : Op F} {e : PyError F} (he : w.checkReady = .error e)
    (h : (op.call env).run w = (.error e, w)) : Refuses env w op := by
  have hstep : w.step env op = w := congrArg Prod.snd h
  refine ⟨?_, ?_, ?_, ?_⟩
  · rw [h]
    exact checkReady_raises he
  all_goals rw [hstep]

theorem sendTxAudio_run_not_ready (payload : List UInt8) (waiting : List Arrival) {w : World F}
    (hr : ¬ w.isReady = true) :
    ∃ e, w.checkReady = .error e ∧ (sendTxAudio env payload waiting).run w = (.error e, w) := by
  unfold sendTxAudio
  rw [requireReady_bind_run]
  cases hc : w.checkReady with
  | ok _ => exact absurd (checkReady_eq_ok.mp hc) hr
  | error e => exact ⟨e, rfl, rfl⟩

/-- Only the transport can make `send_ax25_frame` raise. -/
theorem sendAx25Frame_result (payload : List UInt8) (waiting : List Arrival) (w : World F) :
    ((sendAx25Frame env payload waiting).run w).1 = .ok () ∨
      ((sendAx25Frame env payload waiting).run w).1 = .error .transportRaised := by
  obtain ⟨received, _, claimed, flow, h⟩ :=
    claim_cases env (encodeKissFrame kissCmdData payload).length waiting w
  unfold sendAx25Frame claimAndWrite
  rw [if_pos rfl, Effect.bind_run, h, Effect.andThen_ok]
  cases claimed with
  | false => exact Or.inl rfl
  | true =>
    rw [if_pos rfl]
    rcases callTransport_cases env (.writeFrame kissCmdData payload)
      { ((receiveAll env received).run w).2 with flow := flow } with ⟨_, hc⟩ | ⟨_, hc⟩
    · rw [hc]
      exact Or.inr rfl
    · rw [hc]
      exact Or.inl rfl

theorem sendAx25Frame_not_refused (payload : List UInt8) (waiting : List Arrival) (w : World F) :
    ¬ Refuses env w (.sendAx25Frame payload waiting) := by
  intro h
  have hresult := sendAx25Frame_result env payload waiting w
  obtain ⟨message, hraises⟩ := raisesNotReady_cases h.raises
  rw [Op.call] at hraises
  rcases hresult with hr | hr
  · rw [hr] at hraises
    simp at hraises
  · rw [hr] at hraises
    simp at hraises

/-- On a radio that is not ready, an operation that transmits is refused exactly if it is not
`send_ax25_frame`. -/
theorem not_ready_refuses_iff {w : World F} (hw : w.isReady = false) {op : Op F}
    (hop : Transmits op) : Refuses env w op ↔ op.isAx25Frame = false := by
  have hr : ¬ w.isReady = true := Bool.eq_false_iff.mp hw
  cases hop with
  | setter c =>
    obtain ⟨e, he, h⟩ := setter_run_not_ready env c hr
    exact iff_of_true (refuses_of_run env he h) rfl
  | txAudio payload waiting =>
    obtain ⟨e, he, h⟩ := sendTxAudio_run_not_ready env payload waiting hr
    exact iff_of_true (refuses_of_run env he h) rfl
  | ax25Frame payload waiting =>
    exact iff_of_false (sendAx25Frame_not_refused env payload waiting w) Bool.noConfusion

/-- Before `connect`, `set_ptt` is refused. -/
theorem not_ready_refuses_dummy :
    Refuses faultless World.init (.setter (.setPtt true)) :=
  (not_ready_refuses_iff faultless (by decide) (.setter (.setPtt true))).mpr rfl

/-- Before `connect`, `send_ax25_frame` writes its frame and takes credit for it. -/
theorem not_ready_sends :
    (World.init : World Binary32).isReady = false ∧
      (sendAx25Frame faultless [0x41] []).run World.init =
        (.ok (), { (World.init : World Binary32) with
          flow := ⟨2044⟩
          log := [.transport (.writeFrame kissCmdData [0x41]) true] }) ∧
      ¬ Refuses faultless World.init (.sendAx25Frame [0x41] []) := by
  refine ⟨by decide, by decide +kernel, ?_⟩
  exact sendAx25Frame_not_refused faultless [0x41] [] World.init

end Kv4p

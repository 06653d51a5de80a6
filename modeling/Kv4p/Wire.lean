import Kv4p.RadioRuns

/-! What the log of a run says about the wire: the last PTT request the radio has been given. -/
namespace Kv4p
open Effects BitMask PackedStruct

variable {F : Type}

theorem decodeVendorPayload_encode (command : UInt8) (payload : List UInt8) :
    decodeVendorPayload (encodeVendorPayload command payload) = some (command, payload) := by
  have hl : ¬ (encodeVendorPayload command payload).length < kv4pVendorHeaderLen := by
    simp only [encodeVendorPayload, kv4pVendorPrefix, kv4pVendorHeaderLen, List.length_append,
      List.length_cons, List.length_nil]
    omega
  rw [decodeVendorPayload, if_neg hl]
  rfl

variable [PyFloat F]

/-- The desired state in the body of a frame, as the firmware unpacks it. -/
def HostDesiredState.ofBody (body : List UInt8) : Option (HostDesiredState F) :=
  (unpack hostDesiredStateLayout body).map fun (v0, v1, v2, v3, v4, v5, v6, v7, v8, _) =>
    { sequence := Int.toNat v0
      memoryId := v1
      flags := Int.toNat v2
      bw := v3
      freqTx := v4
      freqRx := v5
      ctcssTx := v6
      squelch := v7
      ctcssRx := v8 }

/-- The desired state a call hands to the transport, if it hands one over. -/
def TransportCall.desiredState : TransportCall → Option (HostDesiredState F)
  | .writeFrame kissCommand payload =>
    if kissCommand = kissCmdSethardware then
      match decodeVendorPayload payload with
      | some (command, body) =>
        if command = commandHostDesiredState then HostDesiredState.ofBody body else none
      | none => none
    else none
  | _ => none

/-- The frequencies at the precision they are sent with. -/
def HostDesiredState.onWire (d : HostDesiredState F) : HostDesiredState F :=
  { d with freqTx := Code.canon .f32 d.freqTx, freqRx := Code.canon .f32 d.freqRx }

/-- A packed desired state reads back up to the precision of its frequencies. -/
theorem ofBody_toBytes {d : HostDesiredState F} {body : List UInt8} (h : d.toBytes = .ok body) :
    HostDesiredState.ofBody body = some d.onWire := by
  rw [HostDesiredState.ofBody, unpack_pack (toBytes_eq_ok.mp h)]
  rfl

theorem desiredState_desiredCall {d : HostDesiredState F} {body : List UInt8}
    (h : d.toBytes = .ok body) : (desiredCall body).desiredState = some d.onWire := by
  simp only [desiredCall, TransportCall.desiredState, decodeVendorPayload_encode, ↓reduceIte,
    ofBody_toBytes h]

theorem desiredState_of_harmless {call : TransportCall} (h : Harmless call) :
    (call.desiredState : Option (HostDesiredState F)) = none := by
  cases h with
  | opens | closes | resets => rfl
  | data payload => rfl
  | audio command payload h =>
    simp only [TransportCall.desiredState, decodeVendorPayload_encode, ↓reduceIte, if_neg h]

/-- The PTT request the radio holds after one more event: HELLO brings its own, an accepted desired
state replaces it. -/
def pttAfter (held : Option Bool) : Event F → Option Bool
  | .hello hello => some (anySet hello.deviceState.flags hostStatePttRequested)
  | .transport call true =>
    match (call.desiredState : Option (HostDesiredState F)) with
    | some d => some (anySet d.flags hostStatePttRequested)
    | none => held
  | .transport _ false => held
  | .callback _ _ => held

/-- The PTT request the radio holds after a run; none before the first HELLO. -/
def wirePtt (log : List (Event F)) : Option Bool := log.foldl pttAfter none

theorem wirePtt_concat (log : List (Event F)) (e : Event F) :
    wirePtt (log++[e]) = pttAfter (wirePtt log) e := by
  rw [wirePtt, List.foldl_append]
  rfl

theorem wirePtt_quiet {w v : World F} (h : Quiet w v) : wirePtt v.log = wirePtt w.log :=
  h.foldl_log (fun _ _ _ => rfl) none

theorem wirePtt_record_harmless (w : World F) {call : TransportCall} (h : Harmless call)
    (ok : Bool) : wirePtt (w.record (.transport call ok)).log = wirePtt w.log := by
  rw [World.record, wirePtt_concat]
  cases ok with
  | false => rfl
  | true => simp only [pttAfter, desiredState_of_harmless h]

theorem wirePtt_record_refused (w : World F) (call : TransportCall) :
    wirePtt (w.record (.transport call false)).log = wirePtt w.log := by
  rw [World.record, wirePtt_concat]
  rfl

theorem wirePtt_record_accepted (w : World F) {d : HostDesiredState F} {body : List UInt8}
    (h : d.toBytes = .ok body) :
    wirePtt (w.record (.transport (desiredCall body) true)).log =
      some (anySet d.flags hostStatePttRequested) := by
  rw [World.record, wirePtt_concat, pttAfter, desiredState_desiredCall h]
  rfl

/-- HELLO brings the wire and the tracker to the same PTT request. -/
theorem wirePtt_takeHello (w : World F) (hello : Hello F) :
    wirePtt (w.takeHello hello).log =
      some (w.takeHello hello).tracker.settings.pttRequested := by
  have hbit : (Settings.seed hello.deviceState).pttRequested =
      anySet hello.deviceState.flags hostStatePttRequested := by
    rw [pttRequested_eq, hostStatePttRequested, anySet_single, Settings.seed, Nat.testBit_or,
      testBit_clear]
    have hm : deviceOnlyFlags.testBit 1 = false := by decide
    have hv : hostStateRadioConfigValid.testBit 1 = false := by decide
    rw [hm, hv, Bool.not_false, Bool.and_true, Bool.or_false]
  have hlog : (w.takeHello hello).log = w.log++[.hello hello] := rfl
  rw [hlog, wirePtt_concat]
  exact congrArg some hbit.symm

/-- What a call of a tracker setter does to PTT on the wire: nothing, or the wire shows what the
tracker then holds. -/
theorem wirePtt_trackerCall (env : Environment F) (c : SetterCall F) (w : World F) :
    wirePtt ((trackerCall env c).run w).2.log = wirePtt w.log ∨
      wirePtt ((trackerCall env c).run w).2.log =
        some (c.mutate w.tracker.settings).pttRequested := by
  rcases trackerCall_cases env c w with ⟨_, h⟩ | ⟨_, e, _, h⟩ | ⟨_, body, _, _, h⟩ |
    ⟨_, body, hb, _, h⟩ <;> rw [h]
  · exact Or.inl rfl
  · exact Or.inl rfl
  · exact Or.inl (wirePtt_record_refused _ _)
  · exact Or.inr (wirePtt_record_accepted _ hb)

end Kv4p

import Kv4p.DummyTransport

/-! Which frames the radio acts on, and that it leaves every other frame without a trace. -/
namespace Kv4p
open Effects

variable {F : Type}

theorem decodeVendorPayload_eq_some {payload : List UInt8} {command : UInt8} {body : List UInt8} :
    decodeVendorPayload payload = some (command, body) ↔
      payload = encodeVendorPayload command body := by
  constructor
  · intro h
    unfold decodeVendorPayload at h
    split at h
    · cases h
    · split at h
      · cases h
      · rename_i hprefix
        have hsplit := List.take_append_drop 4 payload
        rw [not_not.mp hprefix] at hsplit
        split at h
        · rename_i version command' body' hdrop
          rw [hdrop] at hsplit
          split at h
          · cases h
          · rename_i hversion
            cases h
            rw [← hsplit, not_not.mp hversion]
            rfl
        · cases h
  · rintro rfl
    exact decodeVendorPayload_encode command body

/-- The commands the radio acts on, each with the lengths of its body. -/
def BodyAccepted (command : UInt8) (body : List UInt8) : Prop :=
  (command = commandHello ∧ body.length = 43) ∨
    (command = commandDeviceState ∧ 26 ≤ body.length) ∨
    (command = commandWindowUpdate ∧ 4 ≤ body.length) ∨
    command = commandAudioOpus ∨ command = commandAudioAdpcm

theorem bodyAccepted_hello {body : List UInt8} :
    BodyAccepted commandHello body ↔ body.length = 43 := by
  simp +decide [BodyAccepted]

theorem bodyAccepted_deviceState {body : List UInt8} :
    BodyAccepted commandDeviceState body ↔ 26 ≤ body.length := by
  simp +decide [BodyAccepted]

theorem bodyAccepted_windowUpdate {body : List UInt8} :
    BodyAccepted commandWindowUpdate body ↔ 4 ≤ body.length := by
  simp +decide [BodyAccepted]

theorem bodyAccepted_rxAudio {command : UInt8} {body : List UInt8}
    (haudio : command = commandAudioOpus ∨ command = commandAudioAdpcm) :
    BodyAccepted command body :=
  Or.inr (Or.inr (Or.inr haudio))

/-- The payload is the envelope of one command and body, and the radio acts on these. -/
def Accepted (kissCommand : UInt8) (payload : List UInt8) : Prop :=
  kissCommand &&& 0x0F = kissCmdSethardware ∧ ∃ command body,
    payload = encodeVendorPayload command body ∧ BodyAccepted command body ∧
      ∀ command' body', payload = encodeVendorPayload command' body' →
        command' = command ∧ body' = body

theorem accepted_of_decode {kissCommand : UInt8} {payload : List UInt8} {command : UInt8}
    {body : List UInt8} (hk : kissCommand &&& 0x0F = kissCmdSethardware)
    (hdecode : decodeVendorPayload payload = some (command, body))
    (hb : BodyAccepted command body) : Accepted kissCommand payload := by
  refine ⟨hk, command, body, decodeVendorPayload_eq_some.mp hdecode, hb, ?_⟩
  intro command' body' h
  have hsame := hdecode.symm.trans (decodeVendorPayload_eq_some.mpr h)
  cases hsame
  exact ⟨rfl, rfl⟩

variable [PyFloat F] (env : Environment F)

theorem handleHello_rejects {body : List UInt8} (h : body.length ≠ 43) (w : World F) :
    ((handleHello env body).run w).2 = w := by
  unfold handleHello
  rw [Effect.bind_run, Effect.ofExcept_run]
  cases hp : (Hello.fromBytes body : Except (PyError F) (Hello F)) with
  | error e => rfl
  | ok hello => exact absurd (hello_parses_iff.mp ⟨hello, hp⟩) h

theorem handleDeviceState_rejects {body : List UInt8} (h : ¬ 26 ≤ body.length) (w : World F) :
    ((handleDeviceState env body).run w).2 = w := by
  unfold handleDeviceState
  rw [Effect.bind_run, Effect.ofExcept_run]
  cases hp : (DeviceState.fromBytes body : Except (PyError F) (DeviceState F)) with
  | error e => rfl
  | ok state => exact absurd (deviceState_parses_iff.mp ⟨state, hp⟩) h

theorem handleWindowUpdate_rejects {body : List UInt8} (h : ¬ 4 ≤ body.length) (w : World F) :
    ((handleWindowUpdate body).run w).2 = w := by
  unfold handleWindowUpdate
  rw [Effect.bind_run, Effect.ofExcept_run]
  cases hp : (WindowUpdate.fromBytes body : Except (PyError F) WindowUpdate) with
  | error e => rfl
  | ok update => exact absurd (windowUpdate_parses_iff.mp ⟨update, hp⟩) h

/-- Every handler parses its body before it touches anything. -/
theorem handles_rejects {command : UInt8} {body : List UInt8} {w v : World F}
    (h : Handles env body w command v) (hb : ¬ BodyAccepted command body) : v = w := by
  cases h with
  | ignored => rfl
  | hello => exact handleHello_rejects env (mt bodyAccepted_hello.mpr hb) w
  | deviceState => exact handleDeviceState_rejects env (mt bodyAccepted_deviceState.mpr hb) w
  | rxAudio haudio => exact absurd (bodyAccepted_rxAudio haudio) hb
  | windowUpdate => exact handleWindowUpdate_rejects (mt bodyAccepted_windowUpdate.mpr hb) w

/-- What an accepted body does to the radio. -/
inductive Applied (w : World F) (body : List UInt8) : UInt8 → World F → Prop
  | hello (hello : Hello F) (h : Hello.fromBytes body = .ok hello) :
      Applied w body commandHello
        ((onHello env hello).run { w with flow := w.flow.reset hello.version.windowSize }).2
  | deviceState (state : DeviceState F) (h : DeviceState.fromBytes body = .ok state) :
      Applied w body commandDeviceState
        ((onDeviceState env state >>= fun _ => invoke env (.deviceState state)).run w).2
  | windowUpdate (update : WindowUpdate)
      (h : (WindowUpdate.fromBytes body : Except (PyError F) WindowUpdate) = .ok update) :
      Applied w body commandWindowUpdate { w with flow := w.flow.add update.size }
  | rxAudio (command : UInt8) (h : command = commandAudioOpus ∨ command = commandAudioAdpcm) :
      Applied w body command ((invoke env (.rxAudio body)).run w).2

/-- An accepted body parses, and its handler does the rest. -/
theorem handles_applies {command : UInt8} {body : List UInt8} {w v : World F}
    (h : Handles env body w command v) (hb : BodyAccepted command body) :
    Applied env w body command v := by
  cases h with
  | ignored hhello hstate hupdate haudio => simp [BodyAccepted, *] at hb
  | hello =>
    obtain ⟨hello, hp⟩ := (hello_parses_iff (F := F)).mpr (bodyAccepted_hello.mp hb)
    rw [handleHello, Effect.bind_run, Effect.ofExcept_run, hp]
    exact .hello hello hp
  | deviceState =>
    obtain ⟨state, hp⟩ := (deviceState_parses_iff (F := F)).mpr (bodyAccepted_deviceState.mp hb)
    rw [handleDeviceState, Effect.bind_run, Effect.ofExcept_run, hp]
    exact .deviceState state hp
  | rxAudio haudio => exact .rxAudio command haudio
  | windowUpdate =>
    obtain ⟨update, hp⟩ := (windowUpdate_parses_iff (F := F)).mpr (bodyAccepted_windowUpdate.mp hb)
    rw [handleWindowUpdate, Effect.bind_run, Effect.ofExcept_run, hp]
    exact .windowUpdate update hp

theorem onKissFrame_rejects {kissCommand : UInt8} (hk : kissCommand &&& 0x0F ≠ kissCmdData)
    {payload : List UInt8} (hp : ¬ Accepted kissCommand payload) (w : World F) :
    (onKissFrame env kissCommand payload).run w = (.ok (), w) := by
  rcases onKissFrame_cases env kissCommand payload w with ⟨hdata, _⟩ | ⟨_, _, h⟩ |
    ⟨command, body, v, hsome, h, hv⟩
  · exact absurd hdata hk
  · exact h
  · obtain ⟨hset, hdecode⟩ := vendorCommand_eq_some.mp hsome
    have hb : ¬ BodyAccepted command body := fun hb => hp (accepted_of_decode hset hdecode hb)
    rw [h, handles_rejects env hv hb]

theorem onKissFrame_applies {kissCommand : UInt8}
    (hk : kissCommand &&& 0x0F = kissCmdSethardware) {command : UInt8} {body : List UInt8}
    (hb : BodyAccepted command body) (w : World F) :
    ∃ v, (onKissFrame env kissCommand (encodeVendorPayload command body)).run w = (.ok (), v) ∧
      Applied env w body command v := by
  have hsome : vendorCommand kissCommand (encodeVendorPayload command body) =
      some (command, body) :=
    vendorCommand_eq_some.mpr ⟨hk, decodeVendorPayload_encode command body⟩
  rcases onKissFrame_cases env kissCommand (encodeVendorPayload command body) w with
    ⟨_, hnone, _⟩ | ⟨_, hnone, _⟩ | ⟨command', body', v, hsome', h, hv⟩
  · exact absurd (hsome.symm.trans hnone) (Option.some_ne_none _)
  · exact absurd (hsome.symm.trans hnone) (Option.some_ne_none _)
  · have hsame := hsome.symm.trans hsome'
    cases hsame
    exact ⟨v, h, handles_applies env hv hb⟩

/-- A data frame reaches its callback and nothing else, whole. An accepted vendor frame is applied.
Every other frame leaves no trace. -/
theorem receive_path (hret : ∀ call n, env.callback call n ≠ .raises) (w : World F)
    (kissCommand : UInt8) (payload : List UInt8) :
    (kissCommand &&& 0x0F = kissCmdData →
      (onKissFrame env kissCommand payload).run w = (.ok (),
        if env.callback (.ax25Frame payload) w.log.length = .unregistered then w
        else w.record (.callback (.ax25Frame payload) true))) ∧
    (kissCommand &&& 0x0F ≠ kissCmdData → ¬ Accepted kissCommand payload →
      (onKissFrame env kissCommand payload).run w = (.ok (), w)) ∧
    (Accepted kissCommand payload → ∃ command body v,
      payload = encodeVendorPayload command body ∧
        (onKissFrame env kissCommand payload).run w = (.ok (), v) ∧
          Applied env w body command v) := by
  refine ⟨fun hk => ?_, fun hk hp => onKissFrame_rejects env hk hp w, ?_⟩
  · have hdata : onKissFrame env kissCommand payload = invoke env (.ax25Frame payload) := if_pos hk
    rw [hdata]
    rcases invoke_cases env (.ax25Frame payload) w with ⟨hc, h⟩ | ⟨hc, h⟩ | ⟨hc, _⟩
    · rw [h, if_pos hc]
    · rw [h, if_neg (by simp [hc])]
    · exact absurd hc (hret _ _)
  · rintro ⟨hk, command, body, rfl, hb, _⟩
    obtain ⟨v, hrun, happlied⟩ := onKissFrame_applies env hk hb w
    exact ⟨command, body, v, rfl, hrun, happlied⟩

/-- A HELLO one byte too long leaves no trace. -/
theorem receive_path_dummy :
    (onKissFrame faultless 0x06 (encodeVendorPayload commandHello (List.replicate 44 0))).run
      World.init = (.ok (), World.init) := by
  have hret : ∀ call n, faultless.callback call n ≠ .raises := fun _ _ h => nomatch h
  apply (receive_path faultless hret World.init 0x06 _).2.1 (by decide)
  rintro ⟨_, command, body, heq, hb, _⟩
  have hsame := (decodeVendorPayload_eq_some.mpr heq).symm.trans
    (decodeVendorPayload_encode commandHello (List.replicate 44 0))
  cases hsame
  revert hb
  unfold BodyAccepted
  decide

end Kv4p

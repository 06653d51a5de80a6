import Kv4p.Radio

/-! What the operations of the radio can do to its world, said once for each of them. -/
namespace Kv4p
open Effects

variable {F : Type} (env : Environment F)

theorem callTransport_returns {call : TransportCall} {w : World F}
    (h : env.transportRaises call w.log.length = false) :
    (callTransport env call).run w = (.ok (), w.record (.transport call true)) := by
  simp [callTransport, h]

theorem callTransport_raises {call : TransportCall} {w : World F}
    (h : env.transportRaises call w.log.length = true) :
    (callTransport env call).run w =
      (.error .transportRaised, w.record (.transport call false)) := by
  simp [callTransport, h]

theorem callTransport_cases (call : TransportCall) (w : World F) :
    (env.transportRaises call w.log.length = true ∧
      (callTransport env call).run w =
        (.error .transportRaised, w.record (.transport call false))) ∨
    (env.transportRaises call w.log.length = false ∧
      (callTransport env call).run w = (.ok (), w.record (.transport call true))) := by
  cases h : env.transportRaises call w.log.length with
  | true => exact Or.inl ⟨rfl, callTransport_raises env h⟩
  | false => exact Or.inr ⟨rfl, callTransport_returns env h⟩

/-- A change that only callbacks make: the tracker's memory of reported values and their calls. -/
structure Quiet (w w' : World F) : Prop where
  tracker : ∃ last, w'.tracker = { w.tracker with last := last }
  isOpen : w'.isOpen = w.isOpen
  transportError : w'.transportError = w.transportError
  log : ∃ calls, w'.log = w.log++calls ∧ ∀ e ∈ calls, ∃ c ok, e = Event.callback c ok

theorem Quiet.refl (w : World F) : Quiet w w :=
  ⟨⟨w.tracker.last, rfl⟩, rfl, rfl, [], by simp, by simp⟩

theorem Quiet.trans {u v w : World F} (huv : Quiet u v) (hvw : Quiet v w) : Quiet u w := by
  obtain ⟨last, hlast⟩ := huv.tracker
  obtain ⟨last', hlast'⟩ := hvw.tracker
  obtain ⟨calls, hcalls, hc⟩ := huv.log
  obtain ⟨calls', hcalls', hc'⟩ := hvw.log
  refine ⟨⟨last', by rw [hlast', hlast]⟩, hvw.isOpen.trans huv.isOpen,
    hvw.transportError.trans huv.transportError, calls++calls', ?_, ?_⟩
  · rw [hcalls', hcalls, List.append_assoc]
  · intro e he
    rcases List.mem_append.mp he with he | he
    · exact hc e he
    · exact hc' e he

/-- What ignores callbacks reads the same off the log after a quiet move. -/
theorem Quiet.foldl_log {w v : World F} (h : Quiet w v) {A : Type} {f : A → Event F → A}
    (hf : ∀ a c ok, f a (.callback c ok) = a) (a : A) :
    v.log.foldl f a = w.log.foldl f a := by
  obtain ⟨calls, hlog, hc⟩ := h.log
  have hcalls (a : A) : calls.foldl f a = a := by
    clear hlog
    induction calls with
    | nil => rfl
    | cons e calls ih =>
      obtain ⟨c, ok, rfl⟩ := hc e List.mem_cons_self
      rw [List.foldl_cons, hf]
      exact ih fun e he => hc e (List.mem_cons_of_mem _ he)
  rw [hlog, List.foldl_append, hcalls]

theorem invoke_cases (call : Callback F) (w : World F) :
    (env.callback call w.log.length = .unregistered ∧ (invoke env call).run w = (.ok (), w)) ∨
    (env.callback call w.log.length = .returns ∧
      (invoke env call).run w = (.ok (), w.record (.callback call true))) ∨
    (env.callback call w.log.length = .raises ∧
      (invoke env call).run w = (.error .callbackRaised, w.record (.callback call false))) := by
  unfold invoke
  rw [Effect.read_bind_run]
  cases env.callback call w.log.length with
  | unregistered => exact Or.inl ⟨rfl, rfl⟩
  | returns => exact Or.inr (Or.inl ⟨rfl, rfl⟩)
  | raises => exact Or.inr (Or.inr ⟨rfl, rfl⟩)

/-- Calling a user callback does nothing to the radio but log the call. -/
theorem moves_invoke {R : World F → World F → Prop} {call : Callback F} (hr : ∀ w, R w w)
    (hrec : ∀ w ok, R w (w.record (.callback call ok))) : Moves R (invoke env call) := by
  intro w
  rcases invoke_cases env call w with ⟨_, h⟩ | ⟨_, h⟩ | ⟨_, h⟩
  · rw [h]
    exact hr w
  · rw [h]
    exact hrec w true
  · rw [h]
    exact hrec w false

/-- `R` allows what the checks of a report do: remember a value and call a callback. -/
structure AllowsReports (R : World F → World F → Prop) : Prop where
  refl : ∀ w, R w w
  trans : ∀ {u v w}, R u v → R v w → R u w
  remember : ∀ w last, R w { w with tracker := { w.tracker with last := last } }
  callback : ∀ w call ok, R w (w.record (.callback call ok))

namespace AllowsReports

variable {R : World F → World F → Prop}

theorem bind (hR : AllowsReports R) {α β : Type} {m : RadioM F α} {k : α → RadioM F β}
    (hm : Moves R m) (hk : ∀ a, Moves R (k a)) : Moves R (m >>= k) :=
  moves_bind (R := R) (fun _ _ _ huv hvw => hR.trans huv hvw) hm hk

theorem invoke (hR : AllowsReports R) (call : Callback F) : Moves R (invoke env call) :=
  moves_invoke env hR.refl fun w => hR.callback w call

theorem reportEdge (hR : AllowsReports R) (last : LastReported → Option Bool)
    (remember : LastReported → LastReported) (call : Bool → Callback F) (value : Bool) :
    Moves R (reportEdge env last remember call value) := by
  apply hR.bind (moves_read hR.refl)
  intro w
  split
  · apply hR.bind
    · exact moves_update fun v => hR.remember v _
    · intro _
      exact hR.invoke env _
  · exact moves_pure hR.refl ()

end AllowsReports

theorem Quiet.allowsReports : AllowsReports (F := F) Quiet where
  refl := Quiet.refl
  trans := Quiet.trans
  remember w last := ⟨⟨last, rfl⟩, rfl, rfl, [], by simp, by simp⟩
  callback w call ok := by
    refine ⟨⟨w.tracker.last, rfl⟩, rfl, rfl, [.callback call ok], rfl, ?_⟩
    intro e he
    exact ⟨call, ok, List.mem_singleton.mp he⟩

namespace World

def takeReport (w : World F) (state : DeviceState F) : World F :=
  { w with tracker := w.tracker.onDeviceStateLocked state }

def takeHello (w : World F) (hello : Hello F) : World F :=
  { w with tracker := { w.tracker.onHelloLocked hello with helloEvent := true } }.record
    (.hello hello)

end World

/-- After a report is taken, only its checks move the radio. -/
theorem AllowsReports.onDeviceState {R : World F → World F → Prop} (hR : AllowsReports R)
    (state : DeviceState F) (w : World F) :
    R (w.takeReport state) ((Kv4p.onDeviceState env state).run w).2 := by
  have hedge := hR.reportEdge env
  have h : ∃ k : RadioM F Unit, Moves R k ∧ Kv4p.onDeviceState env state =
      (Effect.update fun w => w.takeReport state) >>= fun _ => k :=
    ⟨_, hR.bind (hedge _ _ _ _) fun _ => hR.bind (hedge _ _ _ _) fun _ => hedge _ _ _ _, rfl⟩
  obtain ⟨k, hk, heq⟩ := h
  rw [heq]
  exact hk (w.takeReport state)

/-- The report inside a HELLO adds nothing to what HELLO itself stored. -/
theorem takeReport_takeHello (w : World F) (hello : Hello F) :
    (w.takeHello hello).takeReport hello.deviceState = w.takeHello hello := by
  simp [World.takeReport, World.takeHello, World.record, DeviceStateTracker.onDeviceStateLocked,
    DeviceStateTracker.onHelloLocked]

theorem txAudioCommand_takeHello (w : World F) (hello : Hello F) :
    (w.takeHello hello).tracker.txAudioCommand ≠ commandHostDesiredState := by
  simp only [World.takeHello, World.record, DeviceStateTracker.onHelloLocked]
  split
  · decide
  · decide

theorem onHello_quiet (hello : Hello F) (w : World F) :
    Quiet (w.takeHello hello) ((onHello env hello).run w).2 := by
  have h := Quiet.allowsReports.onDeviceState env hello.deviceState (w.takeHello hello)
  rw [takeReport_takeHello] at h
  exact h

variable [PyFloat F]

/-- The command and the body of a vendor frame. -/
def vendorCommand (kissCommand : UInt8) (payload : List UInt8) : Option (UInt8 × List UInt8) :=
  if kissCommand &&& 0x0F = kissCmdSethardware then decodeVendorPayload payload else none

theorem vendorCommand_eq_some {kissCommand : UInt8} {payload : List UInt8} {p : UInt8 × List UInt8} :
    vendorCommand kissCommand payload = some p ↔
      kissCommand &&& 0x0F = kissCmdSethardware ∧ decodeVendorPayload payload = some p := by
  unfold vendorCommand
  by_cases hset : kissCommand &&& 0x0F = kissCmdSethardware
  · simp [hset]
  · simp [hset]

/-- What becomes of the radio when a vendor command is dispatched. Debug texts and commands without a
handler leave it as it is. -/
inductive Handles (body : List UInt8) (w : World F) : UInt8 → World F → Prop
  | ignored {command : UInt8} (hhello : command ≠ commandHello)
      (hstate : command ≠ commandDeviceState) (hupdate : command ≠ commandWindowUpdate)
      (haudio : ¬ (command = commandAudioOpus ∨ command = commandAudioAdpcm)) :
      Handles body w command w
  | hello : Handles body w commandHello ((handleHello env body).run w).2
  | deviceState : Handles body w commandDeviceState ((handleDeviceState env body).run w).2
  | rxAudio {command : UInt8} (haudio : command = commandAudioOpus ∨ command = commandAudioAdpcm) :
      Handles body w command ((invoke env (.rxAudio body)).run w).2
  | windowUpdate : Handles body w commandWindowUpdate ((handleWindowUpdate body).run w).2

theorem dispatch_none {command : UInt8} (h : dispatch env command = none) (body : List UInt8)
    (w : World F) : Handles env body w command w := by
  unfold dispatch at h
  split_ifs at h with hdebug hhello hstate haudio hupdate
  exact .ignored hhello hstate hupdate (by simpa using haudio)

theorem dispatch_some {command : UInt8} {handler : List UInt8 → RadioM F Unit}
    (h : dispatch env command = some handler) (body : List UInt8) (w : World F) :
    Handles env body w command ((handler body).run w).2 := by
  unfold dispatch at h
  split_ifs at h with hdebug hhello hstate haudio hupdate
  all_goals cases h
  · -- Debug texts share no command with the others.
    have hne (c : UInt8) (hc : c ∉ [commandDebugInfo, commandDebugError, commandDebugWarn,
        commandDebugDebug, commandDebugTrace]) : command ≠ c := by
      rintro rfl
      exact hc hdebug
    have haudio : ¬ (command = commandAudioOpus ∨ command = commandAudioAdpcm) :=
      not_or.mpr ⟨hne _ (by decide), hne _ (by decide)⟩
    exact .ignored (hne _ (by decide)) (hne _ (by decide)) (hne _ (by decide)) haudio
  · subst hhello
    exact .hello
  · subst hstate
    exact .deviceState
  · exact .rxAudio (by simpa using haudio)
  · subst hupdate
    exact .windowUpdate

/-- A frame is data for the callback of AX.25 frames, or nothing to the radio, or a vendor command.
Only the first can raise. -/
theorem onKissFrame_cases (kissCommand : UInt8) (payload : List UInt8) (w : World F) :
    (kissCommand &&& 0x0F = kissCmdData ∧ vendorCommand kissCommand payload = none ∧
      (onKissFrame env kissCommand payload).run w = (invoke env (.ax25Frame payload)).run w) ∨
    (kissCommand &&& 0x0F ≠ kissCmdData ∧ vendorCommand kissCommand payload = none ∧
      (onKissFrame env kissCommand payload).run w = (.ok (), w)) ∨
    (∃ command body v, vendorCommand kissCommand payload = some (command, body) ∧
      (onKissFrame env kissCommand payload).run w = (.ok (), v) ∧ Handles env body w command v) := by
  unfold onKissFrame vendorCommand
  dsimp only
  by_cases hdata : kissCommand &&& 0x0F = kissCmdData
  · left
    have hset : kissCommand &&& 0x0F ≠ kissCmdSethardware := by
      rw [hdata]
      decide
    rw [if_pos hdata, if_neg hset]
    exact ⟨hdata, rfl, rfl⟩
  · right
    rw [if_neg hdata]
    by_cases hset : kissCommand &&& 0x0F = kissCmdSethardware
    · rw [if_pos hset, if_neg (not_not.mpr hset)]
      cases decodeVendorPayload payload with
      | none => exact Or.inl ⟨hdata, rfl, rfl⟩
      | some p =>
        obtain ⟨command, body⟩ := p
        right
        dsimp only
        cases hd : dispatch env command with
        | none => exact ⟨command, body, w, rfl, rfl, dispatch_none env hd body w⟩
        | some handler => exact ⟨command, body, _, rfl, rfl, dispatch_some env hd body w⟩
    · rw [if_neg hset, if_pos hset]
      exact Or.inl ⟨hdata, rfl, rfl⟩

/-- The HELLO an arrival carries, if it carries one that parses. -/
def Arrival.hello : Arrival → Option (Hello F)
  | .frame kissCommand payload =>
    if kissCommand &&& 0x0F = kissCmdSethardware then
      match decodeVendorPayload payload with
      | some (command, body) =>
        if command = commandHello then
          (Hello.fromBytes body : Except (PyError F) (Hello F)).toOption
        else none
      | none => none
    else none
  | .error _ => none

theorem hello_frame (kissCommand : UInt8) (payload : List UInt8) :
    ((Arrival.frame kissCommand payload).hello : Option (Hello F)) =
      (vendorCommand kissCommand payload).bind fun p =>
        if p.1 = commandHello then
          (Hello.fromBytes p.2 : Except (PyError F) (Hello F)).toOption
        else none := by
  rw [Arrival.hello, vendorCommand]
  split
  · cases decodeVendorPayload payload <;> rfl
  · rfl

/-- What an arrival does to the radio, callbacks and window aside: nothing, or it records a
transport error, or it is a HELLO or a report that parses. -/
inductive Takes (w : World F) : Arrival → World F → Prop
  | nothing (a : Arrival) (ha : (a.hello : Option (Hello F)) = none) : Takes w a w
  | error (exc : String) : Takes w (.error exc) { w with transportError := some exc }
  | hello (a : Arrival) (payload : List UInt8) (hello : Hello F) (ha : a.hello = some hello)
      (h : Hello.fromBytes payload = .ok hello) : Takes w a (w.takeHello hello)
  | report (a : Arrival) (payload : List UInt8) (state : DeviceState F)
      (ha : (a.hello : Option (Hello F)) = none) (h : DeviceState.fromBytes payload = .ok state) :
      Takes w a (w.takeReport state)

theorem handleHello_takes (body : List UInt8) (a : Arrival) (w : World F)
    (ha : a.hello = (Hello.fromBytes body : Except (PyError F) (Hello F)).toOption) :
    ∃ v, Takes w a v ∧ Quiet v ((handleHello env body).run w).2 := by
  unfold handleHello
  rw [Effect.bind_run, Effect.ofExcept_run]
  cases hp : (Hello.fromBytes body : Except (PyError F) (Hello F)) with
  | error e =>
    rw [hp] at ha
    exact ⟨w, .nothing a ha, Quiet.refl w⟩
  | ok hello =>
    rw [hp] at ha
    refine ⟨w.takeHello hello, .hello a body hello ha hp, ?_⟩
    have hq := onHello_quiet env hello { w with flow := w.flow.reset hello.version.windowSize }
    have hflow : Quiet (w.takeHello hello)
        (World.takeHello { w with flow := w.flow.reset hello.version.windowSize } hello) :=
      ⟨⟨_, rfl⟩, rfl, rfl, [], by simp [World.takeHello, World.record], by simp⟩
    exact hflow.trans hq

theorem handleDeviceState_takes (body : List UInt8) (a : Arrival) (w : World F)
    (ha : (a.hello : Option (Hello F)) = none) :
    ∃ v, Takes w a v ∧ Quiet v ((handleDeviceState env body).run w).2 := by
  unfold handleDeviceState
  rw [Effect.bind_run, Effect.ofExcept_run]
  cases hp : (DeviceState.fromBytes body : Except (PyError F) (DeviceState F)) with
  | error e => exact ⟨w, .nothing a ha, Quiet.refl w⟩
  | ok state =>
    refine ⟨w.takeReport state, .report a body state ha hp, ?_⟩
    rw [Effect.andThen_ok, Effect.bind_run]
    have hq := Quiet.allowsReports.onDeviceState env state w
    match hr : (onDeviceState env state).run w with
    | (.ok _, v) =>
      rw [hr] at hq
      exact hq.trans (Quiet.allowsReports.invoke env _ v)
    | (.error e, v) =>
      rw [hr] at hq
      exact hq

theorem handleWindowUpdate_quiet (body : List UInt8) :
    Moves Quiet (handleWindowUpdate body : RadioM F Unit) := by
  apply Quiet.allowsReports.bind (moves_ofExcept Quiet.refl _)
  intro update
  exact moves_update fun w => ⟨⟨w.tracker.last, rfl⟩, rfl, rfl, [], by simp, by simp⟩

/-- Whatever command it carries, a vendor frame moves the radio as the HELLO or the report in it
does. -/
theorem handles_takes {command : UInt8} {body : List UInt8} {w v : World F}
    (h : Handles env body w command v) (a : Arrival)
    (ha : a.hello = if command = commandHello then
      (Hello.fromBytes body : Except (PyError F) (Hello F)).toOption else none) :
    ∃ u, Takes w a u ∧ Quiet u v := by
  cases h with
  | ignored hhello =>
    rw [if_neg hhello] at ha
    exact ⟨w, .nothing a ha, Quiet.refl w⟩
  | hello => exact handleHello_takes env body a w ha
  | deviceState => exact handleDeviceState_takes env body a w ha
  | rxAudio haudio =>
    have hne : command ≠ commandHello := by
      rcases haudio with rfl | rfl <;> decide
    rw [if_neg hne] at ha
    exact ⟨w, .nothing a ha, Quiet.allowsReports.invoke env _ w⟩
  | windowUpdate => exact ⟨w, .nothing a ha, handleWindowUpdate_quiet body w⟩

theorem receive_takes (a : Arrival) (w : World F) :
    ∃ v, Takes w a v ∧ Quiet v ((receive env a).run w).2 := by
  cases a with
  | error exc => exact ⟨_, .error exc, Quiet.refl _⟩
  | frame kissCommand payload =>
    have ha := hello_frame (F := F) kissCommand payload
    rw [receive, Effect.attempt_run]
    rcases onKissFrame_cases env kissCommand payload w with ⟨_, hnone, h⟩ | ⟨_, hnone, h⟩ |
      ⟨command, body, v, hsome, h, hv⟩
    · rw [hnone] at ha
      rw [h]
      exact ⟨w, .nothing _ ha, Quiet.allowsReports.invoke env _ w⟩
    · rw [hnone] at ha
      rw [h]
      exact ⟨w, .nothing _ ha, Quiet.refl w⟩
    · rw [hsome] at ha
      rw [h]
      exact handles_takes env hv _ ha

theorem receive_ok (a : Arrival) (w : World F) : ((receive env a).run w).1 = .ok () := by
  cases a with
  | frame kissCommand payload => rfl
  | error exc => rfl

theorem receiveAll_ok (arrivals : List Arrival) (w : World F) :
    ((receiveAll env arrivals).run w).1 = .ok () := by
  unfold receiveAll
  induction arrivals generalizing w with
  | nil => rfl
  | cons a arrivals ih =>
    rw [Effect.each_cons_run, Effect.andThen_of_ok (receive_ok env a w)]
    exact ih _

theorem receiveAll_cons (a : Arrival) (arrivals : List Arrival) (w : World F) :
    ((receiveAll env (a :: arrivals)).run w).2 =
      ((receiveAll env arrivals).run ((receive env a).run w).2).2 := by
  unfold receiveAll
  rw [Effect.each_cons_run, Effect.andThen_of_ok (receive_ok env a w)]

/-- A claim receives what arrives until it is granted or nothing more comes. It returns, and does
nothing else but take its size from the window. -/
theorem claim_cases (size : ℤ) (waiting : List Arrival) (w : World F) :
    ∃ received, received <+: waiting ∧ ∃ claimed flow,
      (claim env size waiting).run w =
        (.ok claimed, { ((receiveAll env received).run w).2 with flow := flow }) := by
  induction waiting generalizing w with
  | nil =>
    simp only [claim, Effect.read_bind_run]
    cases w.flow.tryClaim size with
    | none => exact ⟨[], List.prefix_rfl, false, w.flow, rfl⟩
    | some flow => exact ⟨[], List.prefix_rfl, true, flow, rfl⟩
  | cons arrival waiting ih =>
    simp only [claim, Effect.read_bind_run]
    cases w.flow.tryClaim size with
    | none =>
      have hok := receive_ok env arrival w
      obtain ⟨received, hpre, claimed, flow, h⟩ := ih ((receive env arrival).run w).2
      refine ⟨arrival :: received, List.cons_prefix_cons.mpr ⟨rfl, hpre⟩, claimed, flow, ?_⟩
      rw [Effect.bind_run, Effect.andThen_of_ok hok, h, receiveAll_cons]
    | some flow => exact ⟨[], List.nil_prefix, true, flow, rfl⟩

/-- What `_require_ready` finds. -/
def World.checkReady (w : World F) : Except (PyError F) Unit :=
  match w.transportError with
  | some err => .error (.radioTransport s!"transport failed: {err}")
  | none =>
    if w.isReady then .ok ()
    else .error (.radioNotReady "radio has not completed the HELLO handshake yet")

omit [PyFloat F] in
theorem requireReady_run (w : World F) : (requireReady).run w = (w.checkReady, w) := by
  unfold requireReady World.checkReady
  rw [Effect.read_bind_run]
  cases w.transportError with
  | some err => rfl
  | none => cases w.isReady <;> rfl

omit [PyFloat F] in
theorem checkReady_eq_ok {w : World F} : w.checkReady = .ok () ↔ w.isReady = true := by
  unfold World.checkReady World.isReady
  cases w.transportError with
  | some err => simp
  | none => cases w.isOpen <;> cases w.tracker.hello.isSome <;> simp

/-- The call that hands a packed desired state to the transport. -/
def desiredCall (body : List UInt8) : TransportCall :=
  .writeFrame kissCmdSethardware (encodeVendorPayload commandHostDesiredState body)

/-- The world after the locked section of a setter. -/
def World.afterSection (w : World F) (c : SetterCall F) : World F :=
  { w with tracker := (w.tracker.setterSection c).2 }

theorem sendDesiredState_run (d : HostDesiredState F) (w : World F) :
    (sendDesiredState env d).run w =
      match d.toBytes with
      | .error e => (.error e, w)
      | .ok body => (callTransport env (desiredCall body)).run w := by
  unfold sendDesiredState
  rw [Effect.bind_run, Effect.ofExcept_run]
  cases d.toBytes <;> rfl

/-- A tracker setter does one of four things: it finds nothing to change, its snapshot does not
pack, the transport refuses the frame, or the transport takes it. -/
theorem trackerCall_cases (c : SetterCall F) (w : World F) :
    (c.suppressed w.tracker.settings = true ∧ (trackerCall env c).run w = (.ok (), w)) ∨
    (c.suppressed w.tracker.settings = false ∧ ∃ e, (c.snapshot w.tracker).toBytes = .error e ∧
      (trackerCall env c).run w = (.error e, w.afterSection c)) ∨
    (c.suppressed w.tracker.settings = false ∧ ∃ body,
      (c.snapshot w.tracker).toBytes = .ok body ∧
      env.transportRaises (desiredCall body) w.log.length = true ∧
      (trackerCall env c).run w = (.error .transportRaised,
        (w.afterSection c).record (.transport (desiredCall body) false))) ∨
    (c.suppressed w.tracker.settings = false ∧ ∃ body,
      (c.snapshot w.tracker).toBytes = .ok body ∧
      env.transportRaises (desiredCall body) w.log.length = false ∧
      (trackerCall env c).run w =
        (.ok (), (w.afterSection c).record (.transport (desiredCall body) true))) := by
  unfold trackerCall
  rw [Effect.read_bind_run, Effect.bind_run, Effect.update_run, Effect.andThen_ok,
    ← World.afterSection]
  rcases setterSection_cases w.tracker c with ⟨hs, h⟩ | ⟨hs, h⟩
  · -- A suppressed call leaves the tracker, and with it the world, as it was.
    left
    refine ⟨hs, ?_⟩
    rw [World.afterSection, h]
    rfl
  · right
    have hfst : (w.tracker.setterSection c).1 = some (c.snapshot w.tracker) := by rw [h]
    rw [hfst]
    dsimp only
    rw [sendDesiredState_run]
    cases hb : (c.snapshot w.tracker).toBytes with
    | error e => exact Or.inl ⟨hs, e, rfl, rfl⟩
    | ok body =>
      right
      rcases callTransport_cases env (desiredCall body) (w.afterSection c) with ⟨ht, hc⟩ | ⟨ht, hc⟩
      · exact Or.inl ⟨hs, body, rfl, ht, hc⟩
      · exact Or.inr ⟨hs, body, rfl, ht, hc⟩

/-- The snapshot packs and the transport takes its frame, handed over when the log has `n` events. -/
def Environment.accepts (n : ℕ) (d : HostDesiredState F) : Bool :=
  match d.toBytes with
  | .ok body => !env.transportRaises (desiredCall body) n
  | .error _ => false

/-- A tracker setter returns when it has nothing to send or its snapshot is accepted, and logs one
event for an accepted snapshot. -/
theorem trackerCall_outcome (c : SetterCall F) (w : World F) :
    (c.suppressed w.tracker.settings = true ∧ (trackerCall env c).run w = (.ok (), w)) ∨
    (c.suppressed w.tracker.settings = false ∧
      env.accepts w.log.length (c.snapshot w.tracker) = false ∧
      ∃ e, ((trackerCall env c).run w).1 = .error e) ∨
    (c.suppressed w.tracker.settings = false ∧
      env.accepts w.log.length (c.snapshot w.tracker) = true ∧
      ∃ e, (trackerCall env c).run w = (.ok (), (w.afterSection c).record e)) := by
  unfold Environment.accepts
  rcases trackerCall_cases env c w with ⟨hs, h⟩ | ⟨hs, e, he, h⟩ | ⟨hs, body, hb, ht, h⟩ |
    ⟨hs, body, hb, ht, h⟩
  · exact Or.inl ⟨hs, h⟩
  · right
    left
    rw [he, h]
    exact ⟨hs, rfl, e, rfl⟩
  · right
    left
    rw [hb, h]
    exact ⟨hs, by simp [ht], _, rfl⟩
  · right
    right
    rw [hb, h]
    exact ⟨hs, by simp [ht], _, rfl⟩

/-- Whatever becomes of its frame, a tracker setter leaves its locked section behind and logs at
most a transport call. -/
theorem trackerCall_frame (c : SetterCall F) (w : World F) :
    ((trackerCall env c).run w).2.tracker = (w.tracker.setterSection c).2 ∧
      ((trackerCall env c).run w).2.isOpen = w.isOpen ∧
      ((trackerCall env c).run w).2.transportError = w.transportError ∧
      ∃ calls, ((trackerCall env c).run w).2.log = w.log++calls ∧
        ∀ e ∈ calls, ∃ call ok, e = Event.transport call ok := by
  have hone (call : TransportCall) (ok : Bool) :
      ∀ e ∈ [Event.transport (F := F) call ok], ∃ call ok, e = Event.transport call ok :=
    fun e he => ⟨call, ok, List.mem_singleton.mp he⟩
  rcases trackerCall_cases env c w with ⟨hs, h⟩ | ⟨_, e, _, h⟩ | ⟨_, body, _, _, h⟩ |
    ⟨_, body, _, _, h⟩ <;> rw [h]
  · rcases setterSection_cases w.tracker c with ⟨_, hsec⟩ | ⟨hn, _⟩
    · rw [hsec]
      exact ⟨rfl, rfl, rfl, [], by simp, by simp⟩
    · rw [hs] at hn
      cases hn
  · exact ⟨rfl, rfl, rfl, [], by simp [World.afterSection], by simp⟩
  · exact ⟨rfl, rfl, rfl, _, rfl, hone (desiredCall body) false⟩
  · exact ⟨rfl, rfl, rfl, _, rfl, hone (desiredCall body) true⟩

theorem tracker_trackerCall (c : SetterCall F) (w : World F) :
    ((trackerCall env c).run w).2.tracker.settings = c.mutate w.tracker.settings ∧
      ((trackerCall env c).run w).2.tracker.hello = w.tracker.hello ∧
      ((trackerCall env c).run w).2.tracker.txAudioCommand = w.tracker.txAudioCommand := by
  have ht := (trackerCall_frame env c w).1
  obtain ⟨hhello, _, _, haudio⟩ := setterSection_frame w.tracker c
  rw [ht]
  exact ⟨setterSection_settings w.tracker c, hhello, haudio⟩

namespace Setter

/-- The calls `set_filters` makes: one for each filter it is given a value for. -/
def filterCalls (filters : List (ℕ × Option Bool)) : List (SetterCall F) :=
  filters.filterMap fun p => p.2.map (SetterCall.setFlag p.1)

/-- The calls of tracker setters a public setter makes, once its arguments are accepted. -/
def trackerCalls : Setter F → List (SetterCall F)
  | .setFrequency freq txfreq => [.setFrequency (some freq) (some (txfreq.getD freq))]
  | .setBandwidth bandwidth =>
    match (bandwidthToDra818 bandwidth : Except (PyError F) ℤ) with
    | .ok bw => [.setBandwidth bw]
    | .error _ => []
  | .setSquelch squelch => [.setSquelch squelch]
  | .setCtcss rx tx => [.setCtcss rx tx]
  | .setHighPower enabled => [.setFlag hostStateHighPower enabled]
  | .setTxAllowed enabled => [.setFlag hostStateTxAllowed enabled]
  | .setRssi enabled => [.setFlag hostStateRssiEnabled enabled]
  | .setRxAudioOpen enabled => [.setFlag hostStateRxAudioOpen enabled]
  | .setStatusReports enabled => [.setFlag hostStateEnableStatusReports enabled]
  | .setFilters pre high low => filterCalls
    [(hostStateFilterPre, pre), (hostStateFilterHigh, high), (hostStateFilterLow, low)]
  | .setPtt enabled => [.requestPtt enabled]

/-- The range check of `set_frequency`, up to the first value outside. -/
def checkFrequencies (version : Version F) : List F → Except (PyError F) Unit
  | [] => .ok ()
  | value :: rest =>
    if PyFloat.le version.minRadioFreq value && PyFloat.le value version.maxRadioFreq then
      checkFrequencies version rest
    else .error (.frequencyOutsideRange value version.minRadioFreq version.maxRadioFreq)

/-- The checks of its arguments a public setter makes before it touches the tracker. -/
def checkArguments (w : World F) : Setter F → Except (PyError F) Unit
  | .setFrequency freq txfreq =>
    match w.tracker.hello with
    | none => .error (.attributeError "'NoneType' object has no attribute 'version'")
    | some hello => checkFrequencies hello.version (freq :: txfreq.toList)
  | .setBandwidth bandwidth => (bandwidthToDra818 bandwidth).map fun _ => ()
  | _ => .ok ()

def check (w : World F) (c : Setter F) : Except (PyError F) Unit :=
  match w.checkReady with
  | .error e => .error e
  | .ok () => c.checkArguments w

end Setter

theorem checkFrequency_each_run (version : Version F) (values : List F) (w : World F) :
    (Effect.each (checkFrequency version) values).run w =
      (Setter.checkFrequencies version values, w) := by
  induction values with
  | nil => rfl
  | cons value values ih =>
    rw [Effect.each_cons_run, checkFrequency, Setter.checkFrequencies]
    split
    · exact ih
    · rfl

omit [PyFloat F] in
theorem requireReady_bind_run (k : RadioM F Unit) (w : World F) :
    (requireReady >>= fun _ => k).run w =
      match w.checkReady with
      | .error e => (.error e, w)
      | .ok () => k.run w := by
  rw [Effect.bind_run, requireReady_run]
  cases w.checkReady <;> rfl

theorem setFilter_each_run (filters : List (ℕ × Option Bool)) (w : World F) :
    (Effect.each (setFilter env) filters).run w =
      (Effect.each (trackerCall env) (Setter.filterCalls filters)).run w := by
  induction filters generalizing w with
  | nil => rfl
  | cons p filters ih =>
    obtain ⟨flag, value⟩ := p
    cases value with
    | none => exact ih w
    | some value =>
      have hcalls : Setter.filterCalls ((flag, some value) :: filters) =
          SetterCall.setFlag flag value :: Setter.filterCalls (F := F) filters := rfl
      rw [hcalls, Effect.each_cons_run, Effect.each_cons_run, setFilter]
      match (trackerCall env (.setFlag flag value)).run w with
      | (.ok (), v) => exact ih v
      | (.error e, v) => rfl

/-! What the tracker does with a call plays no part in the two lemmas below, so `send` stands for
it. -/

theorem setBandwidth_run (send : SetterCall F → RadioM F Unit) (bandwidth : String)
    (w : World F) :
    (Effect.ofExcept (bandwidthToDra818 bandwidth) >>= fun bw => send (.setBandwidth bw)).run w =
      match (Setter.setBandwidth bandwidth).checkArguments w with
      | .error e => (.error e, w)
      | .ok () => (Effect.each send (Setter.setBandwidth bandwidth).trackerCalls).run w := by
  rw [Effect.bind_run, Effect.ofExcept_run, Setter.checkArguments, Setter.trackerCalls]
  cases (bandwidthToDra818 bandwidth : Except (PyError F) ℤ) with
  | error e => rfl
  | ok bw => exact (Effect.each_singleton_run _ _ w).symm

theorem setFrequency_run (send : SetterCall F → RadioM F Unit) (hello : Hello F) (freq : F)
    (txfreq : Option F) (w : World F) :
    (Effect.each (checkFrequency hello.version) (freq :: txfreq.toList) >>= fun _ =>
        send (.setFrequency (some freq) (some (txfreq.getD freq)))).run w =
      match Setter.checkFrequencies hello.version (freq :: txfreq.toList) with
      | .error e => (.error e, w)
      | .ok () => (Effect.each send (Setter.setFrequency freq txfreq).trackerCalls).run w := by
  rw [Effect.bind_run, checkFrequency_each_run, Setter.trackerCalls]
  cases Setter.checkFrequencies hello.version (freq :: txfreq.toList) with
  | error e => rfl
  | ok _ => exact (Effect.each_singleton_run _ _ w).symm

/-- Every public setter checks first and then calls tracker setters, one after the other. -/
theorem setter_call_run (c : Setter F) (w : World F) :
    (c.call env).run w =
      match c.check w with
      | .error e => (.error e, w)
      | .ok () => (Effect.each (trackerCall env) c.trackerCalls).run w := by
  have hguard (k : RadioM F Unit) (hcall : c.call env = requireReady >>= fun _ => k)
      (hk : k.run w = match c.checkArguments w with
        | .error e => (.error e, w)
        | .ok () => (Effect.each (trackerCall env) c.trackerCalls).run w) :
      (c.call env).run w = match c.check w with
        | .error e => (.error e, w)
        | .ok () => (Effect.each (trackerCall env) c.trackerCalls).run w := by
    rw [hcall, requireReady_bind_run, Setter.check]
    cases w.checkReady with
    | error e => rfl
    | ok _ => exact hk
  cases c with
  | setSquelch | setCtcss | setHighPower | setTxAllowed | setRssi | setRxAudioOpen |
      setStatusReports | setPtt =>
    apply hguard _ rfl
    exact (Effect.each_singleton_run _ _ w).symm
  | setFilters pre high low =>
    apply hguard _ rfl
    exact setFilter_each_run env _ w
  | setBandwidth bandwidth =>
    apply hguard _ rfl
    exact setBandwidth_run (trackerCall env) bandwidth w
  | setFrequency freq txfreq =>
    apply hguard _ rfl
    rw [Effect.read_bind_run, Setter.checkArguments]
    cases w.tracker.hello with
    | none => rfl
    | some hello => exact setFrequency_run (trackerCall env) hello freq txfreq w

theorem isReady_of_check {c : Setter F} {w : World F} (h : c.check w = .ok ()) :
    w.isReady = true := by
  unfold Setter.check at h
  cases hc : w.checkReady with
  | ok _ => exact checkReady_eq_ok.mp hc
  | error e =>
    rw [hc] at h
    cases h

/-- On a radio that is not ready every public setter raises at once. -/
theorem setter_run_not_ready (c : Setter F) {w : World F} (hr : ¬ w.isReady = true) :
    ∃ e, w.checkReady = .error e ∧ (c.call env).run w = (.error e, w) := by
  have h := setter_call_run env c w
  rw [Setter.check] at h
  cases hc : w.checkReady with
  | ok _ => exact absurd (checkReady_eq_ok.mp hc) hr
  | error e =>
    rw [hc] at h
    exact ⟨e, rfl, h⟩

/-- The option bits that have a public setter. -/
def optionFlags : List ℕ :=
  [hostStateHighPower, hostStateTxAllowed, hostStateRssiEnabled, hostStateRxAudioOpen,
    hostStateEnableStatusReports, hostStateFilterPre, hostStateFilterHigh, hostStateFilterLow]

omit [PyFloat F] in
theorem mem_filterCalls {tc : SetterCall F} {filters : List (ℕ × Option Bool)}
    (h : tc ∈ Setter.filterCalls filters) :
    ∃ flag enabled, tc = .setFlag flag enabled ∧ flag ∈ filters.map Prod.fst := by
  obtain ⟨⟨flag, value⟩, hp, hv⟩ := List.mem_filterMap.mp h
  obtain ⟨enabled, _, rfl⟩ := Option.map_eq_some_iff.mp hv
  exact ⟨flag, enabled, rfl, List.mem_map_of_mem hp⟩

/-- The bits no option setter touches: validity, PTT and what is the device's own. -/
theorem testBit_optionFlags {flag i : ℕ} (hf : flag ∈ optionFlags) (hi : i ∈ [0, 1, 8, 9, 10]) :
    flag.testBit i = false := by
  have h : ∀ flag ∈ optionFlags, ∀ i ∈ [0, 1, 8, 9, 10], flag.testBit i = false := by decide
  exact h flag hf i hi

omit [PyFloat F] in
/-- Of these bits the public setters write only PTT, and only `set_ptt` does. -/
theorem flagWrite_of_trackerCalls {c : Setter F} {tc : SetterCall F} (h : tc ∈ c.trackerCalls)
    {i : ℕ} (hi : i ∈ [0, 1, 8, 9, 10]) :
    tc.flagWrite i = none ∨ (i = 1 ∧ ∃ enabled, c = .setPtt enabled) := by
  have hoption (flag : ℕ) (enabled : Bool) (hf : flag ∈ optionFlags) :
      (SetterCall.setFlag flag enabled : SetterCall F).flagWrite i = none := by
    rw [SetterCall.flagWrite, testBit_optionFlags hf hi]
    rfl
  cases c with
  | setPtt enabled =>
    rw [List.mem_singleton.mp h]
    by_cases h1 : i = 1
    · exact Or.inr ⟨h1, enabled, rfl⟩
    · left
      rw [SetterCall.flagWrite, hostStatePttRequested, BitMask.testBit_single,
        decide_eq_false (Ne.symm h1)]
      rfl
  | setHighPower | setTxAllowed | setRssi | setRxAudioOpen | setStatusReports =>
    rw [List.mem_singleton.mp h]
    exact Or.inl (hoption _ _ (by decide))
  | setFilters pre high low =>
    obtain ⟨flag, enabled, rfl, hf⟩ := mem_filterCalls h
    have hsub : [hostStateFilterPre, hostStateFilterHigh, hostStateFilterLow] ⊆ optionFlags := by
      decide
    exact Or.inl (hoption flag enabled (hsub hf))
  | setFrequency | setSquelch | setCtcss =>
    rw [List.mem_singleton.mp h]
    exact Or.inl rfl
  | setBandwidth bandwidth =>
    rw [Setter.trackerCalls] at h
    split at h
    · rw [List.mem_singleton.mp h]
      exact Or.inl rfl
    · cases h

end Kv4p

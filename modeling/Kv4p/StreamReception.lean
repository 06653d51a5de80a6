import Kv4p.CallbackIsolation
import Kv4p.KissStream
import Kv4p.RadioThreads

/-! From the bytes of the port to the application: the callbacks for audio and data get the frames of
the stream, and the radio knows what the stream said, whatever other callbacks raise. -/
namespace Kv4p
open Effects EscapedFraming Transitions

variable {F : Type}

/-- The callback that gets the payload of a frame as it is. -/
def KissFrame.direct (f : KissFrame) : Option (Callback F) :=
  if f.command &&& 0x0F = kissCmdData then some (.ax25Frame f.payload)
  else
    match vendorCommand f.command f.payload with
    | some (command, body) =>
      if command = commandAudioOpus ∨ command = commandAudioAdpcm then some (.rxAudio body) else none
    | none => none

/-- A call of one of these callbacks, whether it returned or raised. -/
def Event.direct : Event F → Option (Callback F)
  | .callback (.ax25Frame payload) _ => some (.ax25Frame payload)
  | .callback (.rxAudio payload) _ => some (.rxAudio payload)
  | _ => none

/-- The calls of these callbacks, in one sequence. -/
def World.direct (w : World F) : List (Callback F) := w.log.filterMap Event.direct

/-- The tracker after a report. -/
def DeviceStateTracker.take (t : DeviceStateTracker F) : Report F → DeviceStateTracker F
  | .hello h => t.onHelloLocked h
  | .deviceState d => t.onDeviceStateLocked d

/-- The window after a frame: HELLO resets it, a window update adds to it. -/
def KissFrame.window (F : Type) [PyFloat F] (flow : FlowControlWindow) (f : KissFrame) :
    FlowControlWindow :=
  match vendorCommand f.command f.payload with
  | some (command, body) =>
    if command = commandHello then
      match (Hello.fromBytes body : Except (PyError F) (Hello F)) with
      | .ok h => flow.reset h.version.windowSize
      | .error _ => flow
    else if command = commandWindowUpdate then
      match (WindowUpdate.fromBytes body : Except (PyError F) WindowUpdate) with
      | .ok update => flow.add update.size
      | .error _ => flow
    else flow
  | none => flow

/-- From `w` to `v` only callbacks that look at reports are called. -/
structure Aside (w v : World F) : Prop where
  direct : v.direct = w.direct
  tracker : v.tracker.core = w.tracker.core
  flow : v.flow = w.flow

theorem Aside.refl (w : World F) : Aside w w := ⟨rfl, rfl, rfl⟩

theorem Aside.trans {u v w : World F} (huv : Aside u v) (hvw : Aside v w) : Aside u w :=
  ⟨hvw.direct.trans huv.direct, hvw.tracker.trans huv.tracker, hvw.flow.trans huv.flow⟩

theorem direct_record (w : World F) (e : Event F) :
    (w.record e).direct = w.direct++e.direct.toList := by
  rw [World.direct, World.direct, World.record, List.filterMap_append]
  cases h : e.direct with
  | none => simp [h]
  | some c => simp [h]

theorem Aside.record (w : World F) {e : Event F} (h : e.direct = none) : Aside w (w.record e) := by
  refine ⟨?_, rfl, rfl⟩
  rw [direct_record, h]
  exact List.append_nil _

variable (env : Environment F)

theorem aside_check (state : DeviceState F) (signal : Signal) :
    Moves Aside (signal.check env state) := by
  intro w
  rcases check_cases env state signal w with ⟨_, hr⟩ | ⟨_, ⟨_, hr⟩ | ⟨ok, _, hr⟩⟩
  · rw [hr]
    exact Aside.refl w
  · rw [hr]
    exact ⟨rfl, rfl, rfl⟩
  · have hremember : Aside w (w.remember signal (signal.value state)) := ⟨rfl, rfl, rfl⟩
    rw [hr]
    apply hremember.trans (Aside.record _ _)
    cases signal <;> rfl

/-- The row of callbacks of a report moves nothing but what they themselves are called with. -/
theorem aside_react (w : World F) (r : Report F) :
    Aside ((w.window r).take r) (w.react env r) := by
  have hchecks : Moves Aside (Effect.each (Signal.check env r.state) Signal.all) :=
    moves_each Aside.refl (fun _ _ _ => Aside.trans) fun signal _ => aside_check env r.state signal
  have hrow : Moves Aside (r.row env) := by
    cases r with
    | hello h => exact Aside.refl
    | deviceState d => exact moves_invoke env Aside.refl fun w ok => Aside.record w rfl
  exact moves_bind (R := Aside) (fun _ _ _ => Aside.trans) hchecks (fun _ => hrow) _

/-- From `w` to `v` the radio takes the frame: its payload goes to the callback it is for, its report
into the tracker, its credit into the window. -/
structure TakesFrame [PyFloat F] (f : KissFrame) (w v : World F) : Prop where
  direct : v.direct = w.direct++f.direct.toList
  tracker : v.tracker.core =
    (f.report : Option (Report F)).elim w.tracker.core w.tracker.core.take
  flow : v.flow = f.window F w.flow

variable [PyFloat F]

omit [PyFloat F] in
theorem take_react (w : World F) (r : Report F) :
    (w.react env r).direct = w.direct ∧ (w.react env r).tracker.core = w.tracker.core.take r ∧
      (w.react env r).flow = (w.window r).flow := by
  have h := aside_react env w r
  rw [h.direct, h.tracker, h.flow]
  cases r with
  | hello hello =>
    refine ⟨?_, rfl, rfl⟩
    exact (direct_record _ _).trans (List.append_nil _)
  | deviceState d => exact ⟨rfl, rfl, rfl⟩

omit [PyFloat F] in
theorem react_of_handled {w v : World F} {r : Report F} (h : Handled env w (some r) v) :
    v = w.react env r := by
  cases h
  rfl

theorem handleHello_cases (body : List UInt8) (w : World F) :
    (∃ h, Hello.fromBytes body = .ok h ∧
        ((handleHello env body).run w).2 = w.react env (.hello h)) ∨
      (∃ e, (Hello.fromBytes body : Except (PyError F) (Hello F)) = .error e ∧
        ((handleHello env body).run w).2 = w) := by
  have hhandled := handleHello_handled env body w
  rw [Report.ofBody, if_pos rfl] at hhandled
  cases hp : (Hello.fromBytes body : Except (PyError F) (Hello F)) with
  | ok h =>
    rw [hp] at hhandled
    exact Or.inl ⟨h, rfl, react_of_handled env hhandled⟩
  | error e =>
    refine Or.inr ⟨e, rfl, ?_⟩
    rw [handleHello, Effect.bind_run, Effect.ofExcept_run, hp]
    rfl

theorem handleDeviceState_cases (body : List UInt8) (w : World F) :
    (∃ d, DeviceState.fromBytes body = .ok d ∧
        ((handleDeviceState env body).run w).2 = w.react env (.deviceState d)) ∨
      (∃ e, (DeviceState.fromBytes body : Except (PyError F) (DeviceState F)) = .error e ∧
        ((handleDeviceState env body).run w).2 = w) := by
  have hne : ¬ commandDeviceState = commandHello := by decide
  have hhandled := handleDeviceState_handled env body w
  rw [Report.ofBody, if_neg hne, if_pos rfl] at hhandled
  cases hp : (DeviceState.fromBytes body : Except (PyError F) (DeviceState F)) with
  | ok d =>
    rw [hp] at hhandled
    exact Or.inl ⟨d, rfl, react_of_handled env hhandled⟩
  | error e =>
    refine Or.inr ⟨e, rfl, ?_⟩
    rw [handleDeviceState, Effect.bind_run, Effect.ofExcept_run, hp]
    rfl

omit [PyFloat F] in
/-- A callback for audio or data that is registered gets its payload, whatever it does with it. -/
theorem direct_invoke (call : Callback F) (hcall : ∀ ok, (Event.callback call ok).direct = some call)
    {w : World F} (hreg : env.callback call w.log.length ≠ .unregistered) :
    ((invoke env call).run w).2.direct = w.direct++[call] ∧
      ((invoke env call).run w).2.tracker = w.tracker ∧
      ((invoke env call).run w).2.flow = w.flow := by
  rcases invoke_cases env call w with ⟨hc, _⟩ | ⟨_, h⟩ | ⟨_, h⟩
  · exact absurd hc hreg
  · rw [h, direct_record, hcall]
    exact ⟨rfl, rfl, rfl⟩
  · rw [h, direct_record, hcall]
    exact ⟨rfl, rfl, rfl⟩

variable {env}

/-- What a vendor command does to the radio is what its frame brings. -/
theorem handles_takesFrame {f : KissFrame} {command : UInt8} {body : List UInt8} {w v : World F}
    (hsome : vendorCommand f.command f.payload = some (command, body))
    (hdata : f.command &&& 0x0F ≠ kissCmdData)
    (hreg : ∀ payload n, env.callback (.rxAudio payload) n ≠ .unregistered)
    (h : Handles env body w command v) : TakesFrame f w v := by
  have hreport : (f.report : Option (Report F)) = Report.ofBody command body := by
    rw [KissFrame.report_eq, hsome]
    rfl
  have hnotAudio (hne : ¬ (command = commandAudioOpus ∨ command = commandAudioAdpcm)) :
      w.direct++(f.direct : Option (Callback F)).toList = w.direct := by
    rw [KissFrame.direct, if_neg hdata, hsome]
    dsimp only
    rw [if_neg hne]
    exact List.append_nil _
  have hnotWindow (hhello : command ≠ commandHello) (hupdate : command ≠ commandWindowUpdate) :
      f.window F w.flow = w.flow := by
    rw [KissFrame.window, hsome]
    dsimp only
    rw [if_neg hhello, if_neg hupdate]
  cases h with
  | ignored hhello hstate hupdate haudio =>
    refine ⟨(hnotAudio haudio).symm, ?_, (hnotWindow hhello hupdate).symm⟩
    rw [hreport, ofBody_other hhello hstate]
    rfl
  | hello =>
    have hwindow : f.window F w.flow = match (Hello.fromBytes body : Except (PyError F) (Hello F)) with
        | .ok h => w.flow.reset h.version.windowSize
        | .error _ => w.flow := by
      rw [KissFrame.window, hsome]
      exact if_pos rfl
    constructor
    · rw [hnotAudio (by decide)]
      rcases handleHello_cases env body w with ⟨h, _, hv⟩ | ⟨e, _, hv⟩
      · rw [hv, (take_react env w _).1]
      · rw [hv]
    · rw [hreport, Report.ofBody, if_pos rfl]
      rcases handleHello_cases env body w with ⟨h, hp, hv⟩ | ⟨e, hp, hv⟩
      · rw [hp, hv, (take_react env w _).2.1]
        rfl
      · rw [hp, hv]
        rfl
    · rw [hwindow]
      rcases handleHello_cases env body w with ⟨h, hp, hv⟩ | ⟨e, hp, hv⟩
      · rw [hp, hv, (take_react env w _).2.2]
        rfl
      · rw [hp, hv]
  | deviceState =>
    have hne : ¬ commandDeviceState = commandHello := by decide
    constructor
    · rw [hnotAudio (by decide)]
      rcases handleDeviceState_cases env body w with ⟨d, _, hv⟩ | ⟨e, _, hv⟩
      · rw [hv, (take_react env w _).1]
      · rw [hv]
    · rw [hreport, Report.ofBody, if_neg hne, if_pos rfl]
      rcases handleDeviceState_cases env body w with ⟨d, hp, hv⟩ | ⟨e, hp, hv⟩
      · rw [hp, hv, (take_react env w _).2.1]
        rfl
      · rw [hp, hv]
        rfl
    · rw [hnotWindow (by decide) (by decide)]
      rcases handleDeviceState_cases env body w with ⟨d, _, hv⟩ | ⟨e, _, hv⟩
      · rw [hv, (take_react env w _).2.2]
        rfl
      · rw [hv]
  | rxAudio haudio =>
    have hne : command ≠ commandHello ∧ command ≠ commandDeviceState ∧
        command ≠ commandWindowUpdate := by
      rcases haudio with rfl | rfl <;> decide
    obtain ⟨hcall, htracker, hflow⟩ :=
      direct_invoke env (.rxAudio body) (fun _ => rfl) (hreg body w.log.length)
    refine ⟨?_, ?_, ?_⟩
    · rw [hcall, KissFrame.direct, if_neg hdata, hsome]
      dsimp only
      rw [if_pos haudio]
      rfl
    · rw [htracker, hreport, ofBody_other hne.1 hne.2.1]
      rfl
    · rw [hflow, hnotWindow hne.1 hne.2.2]
  | windowUpdate =>
    have hne : commandWindowUpdate ≠ commandHello ∧ commandWindowUpdate ≠ commandDeviceState := by
      decide
    have hwindow : f.window F w.flow =
        match (WindowUpdate.fromBytes body : Except (PyError F) WindowUpdate) with
        | .ok update => w.flow.add update.size
        | .error _ => w.flow := by
      rw [KissFrame.window, hsome]
      dsimp only
      rw [if_neg hne.1, if_pos rfl]
    have hnone := hnotAudio (by decide)
    rw [handleWindowUpdate, Effect.bind_run, Effect.ofExcept_run]
    refine ⟨?_, ?_, ?_⟩
    · rw [hnone]
      cases (WindowUpdate.fromBytes body : Except (PyError F) WindowUpdate) <;> rfl
    · rw [hreport, ofBody_other hne.1 hne.2]
      cases (WindowUpdate.fromBytes body : Except (PyError F) WindowUpdate) <;> rfl
    · rw [hwindow]
      cases (WindowUpdate.fromBytes body : Except (PyError F) WindowUpdate) <;> rfl

/-- The radio takes every frame, whatever its callbacks raise. -/
theorem handle_takesFrame (hdata : ∀ payload n, env.callback (.ax25Frame payload) n ≠ .unregistered)
    (haudio : ∀ payload n, env.callback (.rxAudio payload) n ≠ .unregistered) (f : KissFrame)
    (w : World F) : TakesFrame f w (w.handle env f) := by
  have hnone (hv : vendorCommand f.command f.payload = none) :
      (f.report : Option (Report F)) = none ∧ f.window F w.flow = w.flow := by
    rw [KissFrame.report_eq, KissFrame.window, hv]
    exact ⟨rfl, rfl⟩
  rw [World.handle]
  rcases onKissFrame_cases env f.command f.payload w with ⟨hd, hv, h⟩ | ⟨hd, hv, h⟩ |
    ⟨command, body, v, hsome, h, hv⟩
  · obtain ⟨hreport, hwindow⟩ := hnone hv
    obtain ⟨hcall, htracker, hflow⟩ :=
      direct_invoke env (.ax25Frame f.payload) (fun _ => rfl) (hdata f.payload w.log.length)
    rw [h]
    refine ⟨?_, ?_, ?_⟩
    · rw [hcall, KissFrame.direct, if_pos hd]
      rfl
    · rw [htracker, hreport]
      rfl
    · rw [hflow, hwindow]
  · obtain ⟨hreport, hwindow⟩ := hnone hv
    rw [h]
    refine ⟨?_, ?_, hwindow.symm⟩
    · rw [KissFrame.direct, if_neg hd, hv]
      exact (List.append_nil _).symm
    · rw [hreport]
      rfl
  · have hd : f.command &&& 0x0F ≠ kissCmdData := by
      rw [(vendorCommand_eq_some.mp hsome).1]
      decide
    rw [h]
    exact handles_takesFrame hsome hd haudio hv

theorem handleAll_takes (hdata : ∀ payload n, env.callback (.ax25Frame payload) n ≠ .unregistered)
    (haudio : ∀ payload n, env.callback (.rxAudio payload) n ≠ .unregistered)
    (fs : List KissFrame) (w : World F) :
    (fs.foldl (World.handle env) w).direct = w.direct++fs.filterMap KissFrame.direct ∧
      (fs.foldl (World.handle env) w).tracker.core =
        (fs.filterMap KissFrame.report).foldl DeviceStateTracker.take w.tracker.core ∧
      (fs.foldl (World.handle env) w).flow = fs.foldl (KissFrame.window F) w.flow := by
  induction fs generalizing w with
  | nil => exact ⟨(List.append_nil _).symm, rfl, rfl⟩
  | cons f fs ih =>
    have h := handle_takesFrame hdata haudio f w
    obtain ⟨hdirect, htracker, hflow⟩ := ih (w.handle env f)
    rw [List.foldl_cons, List.foldl_cons, hdirect, htracker, hflow, h.direct, h.tracker, h.flow,
      List.filterMap_cons, List.filterMap_cons]
    refine ⟨?_, ?_, rfl⟩
    · cases (f.direct : Option (Callback F)) <;> simp
    · cases (f.report : Option (Report F)) <;> rfl

theorem frames_kissGrammar (stream : List UInt8) :
    KissParser.init.frames stream = kissGrammar stream := by
  have hout := kissScheme.messages_outside (d := KissParser.init.decoder) rfl stream
  rw [frames_ofBytes, hout, kissGrammar, Scheme.grammar, List.filterMap_filterMap]
  apply List.filterMap_congr
  intro piece _
  cases kissScheme.unescape piece <;> rfl

theorem handAll_world (hdata : ∀ payload n, env.callback (.ax25Frame payload) n = .returns)
    (seen : List KissFrame) (fs : List KissFrame) (w : World F) :
    (Effect.each (KissParser.handTo (onFrame env)) fs).run (seen, w) =
      (.ok (), (seen++fs, fs.foldl (World.handle env) w)) := by
  induction fs generalizing seen w with
  | nil => simp
  | cons f fs ih =>
    have hok : ((onKissFrame env f.command f.payload).run w).1 = .ok () := by
      apply (onKissFrame_returns_iff env w f).mpr
      intro _ hraises
      rw [hdata] at hraises
      cases hraises
    rw [Effect.each_cons_run, onFrame_run, hok, Effect.andThen_ok, ih, List.append_assoc]
    rfl

/-- The loop on a stream, in full. -/
theorem readLoop_run (hdata : ∀ payload n, env.callback (.ax25Frame payload) n = .returns)
    (p : KissParser) (w : World F) (reads : List (List UInt8)) :
    (readLoop env reads).run (p, [], w) =
      (.ok (), reads.flatten.foldl KissParser.next p, p.frames reads.flatten,
        (p.frames reads.flatten).foldl (World.handle env) w) := by
  have hloop := delivers_readLoop env p reads
  have hhand := handAll_world hdata [] (p.frames reads.flatten) w
  have hreturns : ((Effect.each (KissParser.handTo (onFrame env)) (p.frames reads.flatten)).run
      ([], w)).1 = .ok () := congrArg Prod.fst hhand
  refine Prod.ext ((hloop.result ([], w)).trans hreturns) (Prod.ext ?_ ?_)
  · exact hloop.parser ([], w) hreturns
  · exact (hloop.state ([], w)).trans (congrArg Prod.snd hhand)

end Kv4p

import Kv4p.EdgeEvents
import Kv4p.Handshake
import Kv4p.Reception

/-! What a callback that raises changes for the others. The callbacks of one report run one after the
other and the first exception ends the row, so nothing changes for those before it, and those after
it miss the report. -/
namespace Kv4p
open Effects EdgeDetector

variable {F : Type}

section Frames

variable [PyFloat F]

/-- The report in the body of a vendor frame, if there is one that parses. -/
def Report.ofBody (command : UInt8) (body : List UInt8) : Option (Report F) :=
  if command = commandHello then
    match (Hello.fromBytes body : Except (PyError F) (Hello F)) with
    | .ok h => some (.hello h)
    | .error _ => none
  else if command = commandDeviceState then
    match (DeviceState.fromBytes body : Except (PyError F) (DeviceState F)) with
    | .ok d => some (.deviceState d)
    | .error _ => none
  else none

/-- The report a frame carries. -/
def KissFrame.report (f : KissFrame) : Option (Report F) :=
  if f.command &&& 0x0F = kissCmdSethardware then
    match decodeVendorPayload f.payload with
    | some (command, body) => Report.ofBody command body
    | none => none
  else none

end Frames

/-- The window after a frame with a report: HELLO resets it. -/
def World.window (w : World F) : Report F → World F
  | .hello h => { w with flow := w.flow.reset h.version.windowSize }
  | .deviceState _ => w

/-- The row of callbacks of a report: the edge checks, and for a device report the callback that
gets the whole of it. -/
def Report.row (env : Environment F) : Report F → RadioM F Unit
  | .hello _ => pure ()
  | .deviceState d => invoke env (.deviceState d)

/-- The world after a report: it is stored, and the callbacks of the row are called, up to the first
that raises. -/
def World.react (env : Environment F) (w : World F) (r : Report F) : World F :=
  ((Effect.each (Signal.check env r.state) Signal.all >>= fun _ => r.row env).run
    ((w.window r).take r)).2

/-- The calls of the callback for whole device reports. -/
def deviceStateCalls (log : List (Event F)) : List (DeviceState F) :=
  log.filterMap fun e =>
    match e with
    | .callback (.deviceState d) _ => some d
    | _ => none

/-- A move that no callback of a report sees. -/
structure Unseen (w v : World F) : Prop where
  watch : ∀ signal, v.watch signal = w.watch signal
  deviceState : deviceStateCalls v.log = deviceStateCalls w.log

theorem Unseen.refl (w : World F) : Unseen w w := ⟨fun _ => rfl, rfl⟩

theorem Unseen.record {w : World F} {e : Event F}
    (hsignal : ∀ signal : Signal, signal.calls [e] = []) (hstate : deviceStateCalls [e] = []) :
    Unseen w (w.record e) := by
  constructor
  · intro signal
    have hcalls : signal.calls (w.log++[e]) = signal.calls w.log := by
      rw [Signal.calls_append, hsignal, List.append_nil]
    exact Prod.ext rfl hcalls
  · rw [World.record, deviceStateCalls, List.filterMap_append, ← deviceStateCalls,
      ← deviceStateCalls, hstate, List.append_nil]

theorem unseen_invoke (env : Environment F) {call : Callback F}
    (hsignal : ∀ (signal : Signal) ok, signal.calls [Event.callback call ok] = [])
    (hstate : ∀ ok, deviceStateCalls [Event.callback call ok] = []) :
    Moves Unseen (invoke env call) := by
  apply moves_invoke env Unseen.refl
  intro w ok
  exact Unseen.record (fun signal => hsignal signal ok) (hstate ok)

variable (env : Environment F)

/-- What a frame does to the callbacks of a report. -/
inductive Handled (w : World F) : Option (Report F) → World F → Prop
  | report (r : Report F) : Handled w (some r) (w.react env r)
  | unseen (v : World F) (h : Unseen w v) : Handled w none v

variable [PyFloat F]

theorem handleHello_handled (body : List UInt8) (w : World F) :
    Handled env w (Report.ofBody commandHello body) ((handleHello env body).run w).2 := by
  unfold handleHello Report.ofBody
  rw [if_pos rfl, Effect.bind_run, Effect.ofExcept_run]
  cases (Hello.fromBytes body : Except (PyError F) (Hello F)) with
  | error e => exact .unseen w (Unseen.refl w)
  | ok h =>
    have hreact : w.react env (.hello h) =
        ((onHello env h).run (w.window (.hello h))).2 := by
      have hdeliver := deliver_run env (.hello h) (w.window (.hello h))
      rw [Report.deliver] at hdeliver
      rw [World.react, Report.row, Effect.bind_pure_unit, ← hdeliver]
    have hhandled : Handled env w (some (.hello h)) (w.react env (.hello h)) := .report (.hello h)
    rw [hreact] at hhandled
    exact hhandled

theorem handleDeviceState_handled (body : List UInt8) (w : World F) :
    Handled env w (Report.ofBody commandDeviceState body)
      ((handleDeviceState env body).run w).2 := by
  have hne : ¬ commandDeviceState = commandHello := by decide
  unfold handleDeviceState Report.ofBody
  rw [if_neg hne, if_pos rfl, Effect.bind_run, Effect.ofExcept_run]
  cases (DeviceState.fromBytes body : Except (PyError F) (DeviceState F)) with
  | error e => exact .unseen w (Unseen.refl w)
  | ok d =>
    have hreact : w.react env (.deviceState d) =
        ((onDeviceState env d >>= fun _ => invoke env (.deviceState d)).run w).2 := by
      have hdeliver := deliver_run env (.deviceState d) w
      rw [Report.deliver] at hdeliver
      rw [World.react, Effect.bind_run, Effect.bind_run, hdeliver]
      rfl
    have hhandled : Handled env w (some (.deviceState d)) (w.react env (.deviceState d)) :=
      .report (.deviceState d)
    rw [hreact] at hhandled
    exact hhandled

/-- The body of a command that is neither HELLO nor a device report. -/
theorem ofBody_other {command : UInt8} (hhello : command ≠ commandHello)
    (hstate : command ≠ commandDeviceState) (body : List UInt8) :
    (Report.ofBody command body : Option (Report F)) = none := by
  rw [Report.ofBody, if_neg hhello, if_neg hstate]

theorem handles_handled {command : UInt8} {body : List UInt8} {w v : World F}
    (h : Handles env body w command v) : Handled env w (Report.ofBody command body) v := by
  cases h with
  | ignored hhello hstate =>
    rw [ofBody_other hhello hstate]
    exact .unseen w (Unseen.refl w)
  | hello => exact handleHello_handled env body w
  | deviceState => exact handleDeviceState_handled env body w
  | rxAudio haudio =>
    have hne : command ≠ commandHello ∧ command ≠ commandDeviceState := by
      rcases haudio with rfl | rfl <;> decide
    rw [ofBody_other hne.1 hne.2]
    refine .unseen _ (unseen_invoke env (fun signal ok => ?_) (fun ok => rfl) w)
    cases signal <;> rfl
  | windowUpdate =>
    have hne : commandWindowUpdate ≠ commandHello ∧ commandWindowUpdate ≠ commandDeviceState := by
      decide
    rw [ofBody_other hne.1 hne.2, handleWindowUpdate, Effect.bind_run, Effect.ofExcept_run]
    cases (WindowUpdate.fromBytes body : Except (PyError F) WindowUpdate) with
    | error e => exact .unseen w (Unseen.refl w)
    | ok update => exact .unseen _ ⟨fun _ => rfl, rfl⟩

theorem KissFrame.report_eq (f : KissFrame) :
    (f.report : Option (Report F)) =
      (vendorCommand f.command f.payload).bind fun p => Report.ofBody p.1 p.2 := by
  rw [KissFrame.report, vendorCommand]
  split
  · cases decodeVendorPayload f.payload <;> rfl
  · rfl

theorem handle_handled (f : KissFrame) (w : World F) :
    Handled env w f.report (w.handle env f) := by
  rw [KissFrame.report_eq, World.handle]
  rcases onKissFrame_cases env f.command f.payload w with ⟨_, hnone, h⟩ | ⟨_, hnone, h⟩ |
    ⟨command, body, v, hsome, h, hv⟩
  · rw [hnone, h]
    refine .unseen _ (unseen_invoke env (fun signal ok => ?_) (fun ok => rfl) w)
    cases signal <;> rfl
  · rw [hnone, h]
    exact .unseen w (Unseen.refl w)
  · rw [hsome, h]
    exact handles_handled env hv

theorem handle_report {f : KissFrame} {r : Report F} (h : f.report = some r) (w : World F) :
    w.handle env f = w.react env r := by
  have hhandled := handle_handled env f w
  rw [h] at hhandled
  generalize w.handle env f = v at hhandled ⊢
  cases hhandled
  rfl

theorem handle_unseen {f : KissFrame} (h : (f.report : Option (Report F)) = none) (w : World F) :
    Unseen w (w.handle env f) := by
  have hhandled := handle_handled env f w
  rw [h] at hhandled
  generalize w.handle env f = v at hhandled ⊢
  cases hhandled
  assumption

/-- The reports of a sequence of frames in which no callback of `signals` raised. -/
def reached (signals : List Signal) : World F → List KissFrame → List (Report F)
  | _, [] => []
  | w, f :: fs =>
    match (f.report : Option (Report F)) with
    | some r =>
      if passes env r.state signals ((w.window r).take r) = true then
        r :: reached signals (w.handle env f) fs
      else reached signals (w.handle env f) fs
    | none => reached signals (w.handle env f) fs

omit [PyFloat F] in
theorem unseen_row (r : Report F) (signal : Signal) (w : World F) :
    ((r.row env).run w).2.watch signal = w.watch signal := by
  cases r with
  | hello h => rfl
  | deviceState d =>
    have hcalls (w : World F) (ok : Bool) : signal.calls (w.log++[.callback (.deviceState d) ok]) =
        signal.calls w.log := by
      have hnone : signal.calls [Event.callback (.deviceState d) ok] = [] := by cases signal <;> rfl
      rw [Signal.calls_append, hnone, List.append_nil]
    exact moves_invoke (R := fun v w : World F => w.watch signal = v.watch signal) env
      (fun _ => rfl) (fun w ok => Prod.ext rfl (hcalls w ok)) w

omit [PyFloat F] in
theorem react_watch (w : World F) (r : Report F) (signal : Signal) :
    (w.react env r).watch signal =
      ((Effect.each (Signal.check env r.state) Signal.all).run ((w.window r).take r)).2.watch
        signal := by
  rw [World.react, Effect.bind_run]
  match hr : (Effect.each (Signal.check env r.state) Signal.all).run ((w.window r).take r) with
  | (.ok (), u) => exact unseen_row env r signal u
  | (.error e, u) => rfl

omit [PyFloat F] in
theorem watch_window (w : World F) (r : Report F) (signal : Signal) :
    (w.window r).watch signal = w.watch signal := by
  cases r <;> rfl

omit [PyFloat F] in
theorem react_detector {signal : Signal} (hreg : Registered env signal) (w : World F)
    (r : Report F) : (w.react env r).detector signal =
      if passes env r.state signal.before ((w.window r).take r) = true then
        see (w.detector signal) (signal.value r.state)
      else w.detector signal := by
  have hchecks := checks_detector env hreg r.state ((w.window r).take r)
  have hwindow : (w.window r).detector signal = w.detector signal := by
    rw [World.detector, World.detector, watch_window]
  rw [detector_take, hwindow] at hchecks
  rw [← hchecks, World.detector, World.detector, react_watch]

/-- A signal sees the changes over the reports that reach its check. -/
theorem handleAll_detector {signal : Signal} (hreg : Registered env signal) (fs : List KissFrame)
    (w : World F) :
    (fs.foldl (World.handle env) w).detector signal =
      ((reached env signal.before w fs).map fun r => signal.value r.state).foldl see
        (w.detector signal) := by
  induction fs generalizing w with
  | nil => rfl
  | cons f fs ih =>
    rw [List.foldl_cons, ih, reached]
    cases hf : (f.report : Option (Report F)) with
    | some r =>
      have hreact := react_detector env hreg w r
      rw [← handle_report env hf w] at hreact
      dsimp only
      split
      · rename_i hpass
        rw [if_pos hpass] at hreact
        rw [hreact]
        rfl
      · rename_i hcut
        rw [if_neg hcut] at hreact
        rw [hreact]
    | none =>
      have hwatch := (handle_unseen env hf w).watch signal
      rw [World.detector, World.detector, hwatch]

def Report.deviceState? : Report F → Option (DeviceState F)
  | .hello _ => none
  | .deviceState d => some d

omit [PyFloat F] in
theorem deviceStateCalls_append (log log' : List (Event F)) :
    deviceStateCalls (log++log') = deviceStateCalls log++deviceStateCalls log' :=
  List.filterMap_append

omit [PyFloat F] in
/-- The edge checks make no call with a whole report. -/
theorem each_deviceStateCalls (state : DeviceState F) (signals : List Signal) (w : World F) :
    deviceStateCalls ((Effect.each (Signal.check env state) signals).run w).2.log =
      deviceStateCalls w.log := by
  have hone : ∀ signal ∈ signals, Moves (fun v w : World F =>
      deviceStateCalls w.log = deviceStateCalls v.log) (signal.check env state) := by
    intro signal _ v
    rcases check_cases env state signal v with ⟨_, hr⟩ | ⟨_, ⟨_, hr⟩ | ⟨ok, _, hr⟩⟩
    · rw [hr]
    · rw [hr]
      rfl
    · have hnone : deviceStateCalls
          [Event.callback (F := F) (signal.callback (signal.value state)) ok] = [] := by
        cases signal <;> rfl
      rw [hr]
      exact (deviceStateCalls_append v.log _).trans (by rw [hnone, List.append_nil])
  exact moves_each (R := fun v w : World F => deviceStateCalls w.log = deviceStateCalls v.log)
    (fun _ => rfl) (fun _ _ _ huv hvw => hvw.trans huv) hone w

omit [PyFloat F] in
theorem row_deviceStateCalls (hreg : ∀ d n, env.callback (.deviceState d) n ≠ .unregistered)
    (r : Report F) (w : World F) :
    deviceStateCalls ((r.row env).run w).2.log =
      deviceStateCalls w.log++r.deviceState?.toList := by
  cases r with
  | hello h => exact (List.append_nil _).symm
  | deviceState d =>
    rcases invoke_cases env (.deviceState d) w with ⟨hc, _⟩ | ⟨_, h⟩ | ⟨_, h⟩
    · exact absurd hc (hreg d _)
    · rw [Report.row, h]
      exact deviceStateCalls_append w.log _
    · rw [Report.row, h]
      exact deviceStateCalls_append w.log _

omit [PyFloat F] in
theorem react_deviceStateCalls (hreg : ∀ d n, env.callback (.deviceState d) n ≠ .unregistered)
    (w : World F) (r : Report F) :
    deviceStateCalls (w.react env r).log = deviceStateCalls w.log++
      if passes env r.state Signal.all ((w.window r).take r) = true then r.deviceState?.toList
      else [] := by
  have hchecks := each_deviceStateCalls env r.state Signal.all ((w.window r).take r)
  have htake : deviceStateCalls ((w.window r).take r).log = deviceStateCalls w.log := by
    cases r with
    | hello h => exact (deviceStateCalls_append w.log [.hello h]).trans (List.append_nil _)
    | deviceState d => rfl
  rw [htake] at hchecks
  rw [World.react, Effect.bind_run, passes]
  rcases hr : (Effect.each (Signal.check env r.state) Signal.all).run ((w.window r).take r) with
    ⟨e | _, u⟩
  · rw [hr] at hchecks
    exact hchecks.trans (List.append_nil _).symm
  · rw [hr] at hchecks
    dsimp only at hchecks
    rw [← hchecks]
    exact row_deviceStateCalls env hreg r u

/-- The callback for whole reports gets the device reports that reach the end of the row. -/
theorem handleAll_deviceStateCalls
    (hreg : ∀ d n, env.callback (.deviceState d) n ≠ .unregistered) (fs : List KissFrame)
    (w : World F) :
    deviceStateCalls (fs.foldl (World.handle env) w).log =
      deviceStateCalls w.log++(reached env Signal.all w fs).filterMap Report.deviceState? := by
  induction fs generalizing w with
  | nil => exact (List.append_nil _).symm
  | cons f fs ih =>
    rw [List.foldl_cons, ih, reached]
    cases hf : (f.report : Option (Report F)) with
    | some r =>
      have hreact := react_deviceStateCalls env hreg w r
      rw [← handle_report env hf w] at hreact
      dsimp only
      split
      · rename_i hpass
        rw [if_pos hpass] at hreact
        rw [hreact, List.append_assoc]
        cases r <;> rfl
      · rename_i hcut
        rw [if_neg hcut, List.append_nil] at hreact
        rw [hreact]
    | none => rw [(handle_unseen env hf w).deviceState]

/-- The `k`-th call of each callback returned if `o` says so, and raised if not. -/
def Obeys (o : Signal → ℕ → Bool) (log : List (Event F)) : Prop :=
  ∀ signal : Signal, (signal.calls log).map Prod.snd =
    (List.range (signal.calls log).length).map (o signal)

omit [PyFloat F] in
theorem Obeys.call {o : Signal → ℕ → Bool} {log : List (Event F)} (h : Obeys o log)
    {signal : Signal} {v ok : Bool} {earlier : List (Event F)}
    (hp : earlier++[.callback (signal.callback v) ok] <+: log) :
    ok = o signal (signal.calls earlier).length := by
  obtain ⟨rest, rfl⟩ := hp
  have hone : signal.calls [Event.callback (F := F) (signal.callback v) ok] = [(v, ok)] := by
    rw [Signal.calls, List.filterMap_cons_some (signal.called_callback v ok), List.filterMap_nil]
  have hk := congrArg (fun l : List Bool => l[(signal.calls earlier).length]?) (h signal)
  rw [Signal.calls_append, Signal.calls_append, hone] at hk
  simpa using hk

/-- The callback of a signal is registered in both runs or in neither. -/
def SameRegistration (env env' : Environment F) (signal : Signal) : Prop :=
  (Registered env signal ∧ Registered env' signal) ∨
    ∀ v n, env.callback (signal.callback v) n = .unregistered ∧
      env'.callback (signal.callback v) n = .unregistered

/-- What the logs of two runs have to do with their outcomes. -/
structure Paired (env env' : Environment F) (o o' : Signal → ℕ → Bool)
    (log log' : List (Event F)) : Prop where
  registration : ∀ signal, SameRegistration env env' signal
  left : Obeys o log
  right : Obeys o' log'

section Logs

omit [PyFloat F] in
theorem each_log (state : DeviceState F) (signals : List Signal) (w : World F) :
    w.log <+: ((Effect.each (Signal.check env state) signals).run w).2.log := by
  have hone : ∀ signal ∈ signals,
      Moves (fun v w : World F => v.log <+: w.log) (signal.check env state) := by
    intro signal _ v
    obtain ⟨calls, hlog, _⟩ := (Quiet.allowsReports.reportEdge env signal.last
      (signal.remember (signal.value state)) signal.callback (signal.value state) v).log
    exact ⟨calls, hlog.symm⟩
  exact moves_each (R := fun v w : World F => v.log <+: w.log) (fun _ => List.prefix_rfl)
    (fun _ _ _ huv hvw => huv.trans hvw) hone w

omit [PyFloat F] in
theorem each_append_log (state : DeviceState F) (earlier later : List Signal) (w : World F) :
    ((Effect.each (Signal.check env state) earlier).run w).2.log <+:
      ((Effect.each (Signal.check env state) (earlier++later)).run w).2.log := by
  rw [Effect.each_append_run]
  match hr : (Effect.each (Signal.check env state) earlier).run w with
  | (.error e, u) => exact List.prefix_rfl
  | (.ok (), u) => exact each_log env state later u

omit [PyFloat F] in
theorem react_log (w : World F) (r : Report F) :
    ((Effect.each (Signal.check env r.state) Signal.all).run ((w.window r).take r)).2.log <+:
      (w.react env r).log := by
  rw [World.react, Effect.bind_run]
  match hr : (Effect.each (Signal.check env r.state) Signal.all).run ((w.window r).take r) with
  | (.error e, u) => exact List.prefix_rfl
  | (.ok (), u) =>
    cases r with
    | hello h => exact List.prefix_rfl
    | deviceState d =>
      obtain ⟨calls, hlog, _⟩ := (Quiet.allowsReports.invoke env (.deviceState d) u).log
      exact ⟨calls, hlog.symm⟩

theorem handle_log (f : KissFrame) (w : World F) : w.log <+: (w.handle env f).log := by
  obtain ⟨calls, hlog, _⟩ := receive_log env (.frame f.command f.payload) w
  exact ⟨calls, hlog.symm⟩

theorem handleAll_log (fs : List KissFrame) (w : World F) :
    w.log <+: (fs.foldl (World.handle env) w).log := by
  induction fs generalizing w with
  | nil => exact List.prefix_rfl
  | cons f fs ih => exact (handle_log env f w).trans (ih (w.handle env f))

end Logs

section Lockstep

variable {env} {env' : Environment F} {o o' : Signal → ℕ → Bool} {log log' : List (Event F)}

omit [PyFloat F] in
theorem check_called {signal : Signal} (hreg : Registered env signal) {state : DeviceState F}
    {w : World F} (hne : signal.last w.tracker.last ≠ some (signal.value state)) :
    ∃ ok, (signal.check env state).run w =
      (if ok = true then .ok () else .error .callbackRaised,
        (w.remember signal (signal.value state)).record
          (.callback (signal.callback (signal.value state)) ok)) := by
  rcases check_cases env state signal w with ⟨he, _⟩ | ⟨_, ⟨hc, _⟩ | ⟨ok, _, hr⟩⟩
  · exact absurd he hne
  · exact absurd hc (hreg _ _)
  · exact ⟨ok, hr⟩

omit [PyFloat F] in
theorem check_missing {signal : Signal}
    (hreg : ∀ v n, env.callback (signal.callback v) n = .unregistered) {state : DeviceState F}
    {w : World F} (hne : signal.last w.tracker.last ≠ some (signal.value state)) :
    (signal.check env state).run w = (.ok (), w.remember signal (signal.value state)) := by
  rw [check_run_of_ne env hne, invoke, Effect.read_bind_run, hreg]
  rfl

omit [PyFloat F] in
/-- A check of the same signal in two worlds that have seen the same of it. -/
theorem check_lockstep (hpaired : Paired env env' o o' log log') {signal : Signal}
    (ho : o signal = o' signal) (state : DeviceState F) {w w' : World F}
    (hwatch : w.watch signal = w'.watch signal)
    (hp : ((signal.check env state).run w).2.log <+: log)
    (hp' : ((signal.check env' state).run w').2.log <+: log') :
    ((signal.check env state).run w).1 = ((signal.check env' state).run w').1 ∧
      ((signal.check env state).run w).2.watch signal =
        ((signal.check env' state).run w').2.watch signal := by
  have hlast : signal.last w.tracker.last = signal.last w'.tracker.last := congrArg Prod.fst hwatch
  have hcalls : signal.calls w.log = signal.calls w'.log := congrArg Prod.snd hwatch
  by_cases he : signal.last w.tracker.last = some (signal.value state)
  · rw [check_run_of_eq env he, check_run_of_eq env' (hlast.symm.trans he)]
    exact ⟨rfl, hwatch⟩
  · have he' : signal.last w'.tracker.last ≠ some (signal.value state) := by rwa [← hlast]
    rcases hpaired.registration signal with ⟨hreg, hreg'⟩ | hnone
    · obtain ⟨ok, hr⟩ := check_called hreg he
      obtain ⟨ok', hr'⟩ := check_called hreg' he'
      rw [hr] at hp ⊢
      rw [hr'] at hp' ⊢
      have hok : ok = ok' := by
        have hleft := hpaired.left.call hp
        have hright := hpaired.right.call hp'
        have hn : signal.calls (w.remember signal (signal.value state)).log =
            signal.calls (w'.remember signal (signal.value state)).log := hcalls
        rw [hleft, hright, ho, hn]
      rw [hok, watch_called, watch_called, hcalls]
      exact ⟨rfl, rfl⟩
    · rw [check_missing (fun v n => (hnone v n).1) he, check_missing (fun v n => (hnone v n).2) he']
      refine ⟨rfl, Prod.ext ?_ hcalls⟩
      exact (signal.last_remember _ _).trans (signal.last_remember _ _).symm

omit [PyFloat F] in
/-- The checks of signals that both runs treat alike. -/
theorem checks_lockstep (hpaired : Paired env env' o o' log log') (state : DeviceState F)
    {signals watched : List Signal} (hsub : signals ⊆ watched)
    (ho : ∀ signal ∈ watched, o signal = o' signal) {w w' : World F}
    (hwatch : ∀ signal ∈ watched, w.watch signal = w'.watch signal)
    (hp : ((Effect.each (Signal.check env state) signals).run w).2.log <+: log)
    (hp' : ((Effect.each (Signal.check env' state) signals).run w').2.log <+: log') :
    ∀ signal ∈ watched,
      ((Effect.each (Signal.check env state) signals).run w).2.watch signal =
        ((Effect.each (Signal.check env' state) signals).run w').2.watch signal := by
  -- The two runs agree on the watched signals after each check, and on whether it raises.
  induction signals generalizing w w' with
  | nil => exact hwatch
  | cons first signals ih =>
    have hfirst : first ∈ watched := hsub List.mem_cons_self
    have hone := each_append_log env state [first] signals w
    have hone' := each_append_log env' state [first] signals w'
    rw [Effect.each_singleton] at hone hone'
    obtain ⟨hresult, hsame⟩ := check_lockstep hpaired (ho first hfirst) state
      (hwatch first hfirst) (hone.trans hp) (hone'.trans hp')
    have hafter : ∀ signal ∈ watched, ((first.check env state).run w).2.watch signal =
        ((first.check env' state).run w').2.watch signal := by
      intro signal hs
      by_cases heq : signal = first
      · rw [heq, hsame]
      · rw [check_watch_ne env heq, check_watch_ne env' heq, hwatch signal hs]
    simp only [Effect.each_cons_run] at hp hp' ⊢
    generalize (first.check env state).run w = a at hp hresult hafter ⊢
    generalize (first.check env' state).run w' = a' at hp' hresult hafter ⊢
    obtain ⟨result, u⟩ := a
    obtain ⟨result', u'⟩ := a'
    dsimp only at hresult
    subst hresult
    cases result with
    | error e => exact hafter
    | ok _ => exact ih (fun s hs => hsub (List.mem_cons_of_mem first hs)) hafter hp hp'

omit [PyFloat F] in
theorem react_lockstep (hpaired : Paired env env' o o' log log') {last : Signal}
    (ho : ∀ signal ∈ last.before, o signal = o' signal) (r : Report F) {w w' : World F}
    (hwatch : ∀ signal ∈ last.before, w.watch signal = w'.watch signal)
    (hp : (w.react env r).log <+: log) (hp' : (w'.react env' r).log <+: log') :
    ∀ signal ∈ last.before,
      (w.react env r).watch signal = (w'.react env' r).watch signal := by
  have hstart : ∀ signal ∈ last.before,
      ((w.window r).take r).watch signal = ((w'.window r).take r).watch signal := by
    intro signal hs
    rw [watch_take, watch_take, watch_window, watch_window, hwatch signal hs]
  have hrow := (react_log env w r).trans hp
  have hrow' := (react_log env' w' r).trans hp'
  rw [last.all_eq] at hrow hrow'
  have hbefore := checks_lockstep hpaired r.state (List.Subset.refl last.before) ho hstart
    ((each_append_log env r.state last.before (last :: last.after) _).trans hrow)
    ((each_append_log env' r.state last.before (last :: last.after) _).trans hrow')
  intro signal hs
  have hlater : signal ∉ last :: last.after := Signal.not_mem_later hs
  rw [react_watch, react_watch, last.all_eq, each_append_watch env hlater,
    each_append_watch env' hlater]
  exact hbefore signal hs

/-- Two runs over the same frames agree on the signals that are checked before those they treat
differently. -/
theorem handleAll_lockstep (hpaired : Paired env env' o o' log log') {last : Signal}
    (ho : ∀ signal ∈ last.before, o signal = o' signal) (fs : List KissFrame) {w w' : World F}
    (hwatch : ∀ signal ∈ last.before, w.watch signal = w'.watch signal)
    (hp : (fs.foldl (World.handle env) w).log <+: log)
    (hp' : (fs.foldl (World.handle env') w').log <+: log') :
    ∀ signal ∈ last.before, (fs.foldl (World.handle env) w).watch signal =
      (fs.foldl (World.handle env') w').watch signal := by
  induction fs generalizing w w' with
  | nil => exact hwatch
  | cons f fs ih =>
    refine ih ?_ hp hp'
    have hone := (handleAll_log env fs (w.handle env f)).trans hp
    have hone' := (handleAll_log env' fs (w'.handle env' f)).trans hp'
    cases hf : (f.report : Option (Report F)) with
    | some r =>
      rw [handle_report env hf] at hone
      rw [handle_report env' hf] at hone'
      rw [handle_report env hf, handle_report env' hf]
      exact react_lockstep hpaired ho r hwatch hone hone'
    | none =>
      intro signal hs
      rw [(handle_unseen env hf w).watch, (handle_unseen env' hf w').watch, hwatch signal hs]

end Lockstep

variable {env}

/-- In two runs that differ only in which calls of one callback raise, the callbacks before it are
called alike. Every callback is called for the changes, the last one for the device reports, over the
reports in which no callback before it raised. -/
theorem callback_affects_later_only {env' : Environment F} {raising : Signal}
    {o o' : Signal → ℕ → Bool} (hdiffer : ∀ signal, signal ≠ raising → o signal = o' signal)
    (frames : List KissFrame)
    (hruns : Paired env env' o o' (frames.foldl (World.handle env) World.init).log
      (frames.foldl (World.handle env') World.init).log) :
    let log := (frames.foldl (World.handle env) World.init).log
    let log' := (frames.foldl (World.handle env') World.init).log
    (∀ signal ∈ raising.before, signal.calls log = signal.calls log') ∧
    (∀ signal, Registered env signal → (signal.calls log).map Prod.fst =
      ((reached env signal.before World.init frames).map fun r =>
        signal.value r.state).destutter (· ≠ ·)) ∧
    ((∀ d n, env.callback (.deviceState d) n ≠ .unregistered) → deviceStateCalls log =
      (reached env Signal.all World.init frames).filterMap Report.deviceState?) := by
  refine ⟨?_, ?_, ?_⟩
  · intro signal hs
    have ho : ∀ signal ∈ raising.before, o signal = o' signal := by
      intro signal hs
      exact hdiffer signal fun heq => raising.not_mem_before (heq ▸ hs)
    have hwatch := handleAll_lockstep hruns ho frames (fun _ _ => rfl) List.prefix_rfl
      List.prefix_rfl signal hs
    exact congrArg Prod.snd hwatch
  · intro signal hreg
    have hinit : (World.init : World F).detector signal = (none, []) := by cases signal <;> rfl
    have hdetector := handleAll_detector env hreg frames World.init
    rw [hinit, foldl_see] at hdetector
    exact congrArg Prod.snd hdetector
  · intro hreg
    exact handleAll_deviceStateCalls env hreg frames World.init

/-- Every callback is registered; the one of `raising` raises whenever it is called. -/
def objecting (raising : Signal) : Environment Binary32 where
  transportRaises _ _ := false
  callback call _ :=
    if call = raising.callback true ∨ call = raising.callback false then .raises else .returns

theorem attentive_objecting (raising signal : Signal) :
    SameRegistration attentive (objecting raising) signal := by
  have hattentive : Registered attentive signal := by simp [Registered, attentive_returns]
  refine Or.inl ⟨hattentive, fun v n h => ?_⟩
  unfold objecting at h
  dsimp only at h
  split at h
  · cases h
  · cases h

/-- A device report of zeros. -/
def zeroReport : KissFrame :=
  ⟨kissCmdSethardware, encodeVendorPayload commandDeviceState (List.replicate 26 0)⟩

/-- What a callback that always raises makes of the outcomes, and it alone. -/
def objections (raising signal : Signal) (_ : ℕ) : Bool := decide (signal ≠ raising)

theorem objections_of_ne {raising signal : Signal} (h : signal ≠ raising) :
    (fun _ => true) = objections raising signal := by
  funext n
  exact (decide_eq_true h).symm

/-- A device report with the squelch closed and the key of the device pressed. -/
def keyedReport : KissFrame :=
  ⟨kissCmdSethardware, encodeVendorPayload commandDeviceState
    (List.replicate 9 0++[0x05]++List.replicate 16 0)⟩

/-- The callback for physical PTT raises in one run, at each of three reports, and not in the other. -/
theorem callback_affects_later_dummy :
    let reports := [zeroReport, keyedReport, zeroReport]
    let log := (reports.foldl (World.handle attentive) World.init).log
    let log' := (reports.foldl (World.handle (objecting .phyPtt)) World.init).log
    Signal.phyPtt.calls log' = [(false, false), (true, false), (false, false)] ∧
      (Signal.sql.calls log').map Prod.fst = [true, false, true] ∧
      Signal.sql.calls log = Signal.sql.calls log' := by
  intro reports log log'
  have hruns : Paired attentive (objecting .phyPtt) (fun _ _ => true) (objections .phyPtt) log
      log' := by
    refine ⟨attentive_objecting .phyPtt, fun signal => ?_, fun signal => ?_⟩
    · cases signal <;> decide +kernel
    · cases signal <;> decide +kernel
  exact ⟨by decide +kernel, by decide +kernel,
    (callback_affects_later_only (fun _ => objections_of_ne) reports hruns).1 .sql (by decide)⟩

/-- The squelch callback raises in one run and not in the other: there the callback for physical PTT
is not called, and neither is the one for the whole report. -/
theorem raising_hides_later :
    let log := ([zeroReport].foldl (World.handle attentive) World.init).log
    let log' := ([zeroReport].foldl (World.handle (objecting .sql)) World.init).log
    (∃ o o' : Signal → ℕ → Bool, (∀ signal, signal ≠ .sql → o signal = o' signal) ∧
      Paired attentive (objecting .sql) o o' log log') ∧
    (Signal.phyPtt.calls log).map Prod.fst = [false] ∧ Signal.phyPtt.calls log' = [] ∧
    (deviceStateCalls log).length = 1 ∧ deviceStateCalls log' = [] := by
  refine ⟨⟨fun _ _ => true, objections .sql, fun _ => objections_of_ne,
    attentive_objecting .sql, fun signal => ?_, fun signal => ?_⟩, by decide +kernel,
    by decide +kernel, by decide +kernel, by decide +kernel⟩
  · cases signal <;> decide +kernel
  · cases signal <;> decide +kernel

end Kv4p

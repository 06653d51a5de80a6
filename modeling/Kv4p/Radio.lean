import Kv4p.FlowControl
import Kv4p.Kiss
import Kv4p.Library.Effect
import Kv4p.Tracker

/-! The radio object: lifecycle, public setters, data path and routing of received frames, over a
transport and user callbacks that may raise whenever they are called. -/
namespace Kv4p
open Effects

variable {F : Type}

def encodeVendorPayload (command : UInt8) (payload : List UInt8) : List UInt8 :=
  kv4pVendorPrefix++[kv4pProtocolVersion, command]++payload

def decodeVendorPayload (payload : List UInt8) : Option (UInt8 × List UInt8) :=
  if payload.length < kv4pVendorHeaderLen then none
  else if payload.take 4 ≠ kv4pVendorPrefix then none
  else
    match payload.drop 4 with
    | version :: command :: body =>
      if version ≠ kv4pProtocolVersion then none else some (command, body)
    | _ => none

inductive TransportCall
  | open
  | close
  | reset
  | writeFrame (command : UInt8) (payload : List UInt8)
deriving DecidableEq

/-- The user callbacks, with what they are called with. -/
inductive Callback (F : Type)
  | rxAudio (payload : List UInt8)
  | sql (isOpen : Bool)
  | phyPtt (down : Bool)
  | txActive (active : Bool)
  | ax25Frame (payload : List UInt8)
  | deviceState (state : DeviceState F)
deriving DecidableEq

/-- What can be observed of a run, in order: calls into the transport and whether they returned,
HELLO frames taken over by the tracker, calls of user callbacks and whether they returned. -/
inductive Event (F : Type)
  | transport (call : TransportCall) (ok : Bool)
  | hello (hello : Hello F)
  | callback (call : Callback F) (ok : Bool)
deriving DecidableEq

inductive CallbackOutcome
  | unregistered
  | returns
  | raises
deriving DecidableEq

/-- The transport and the callbacks, as far as the radio can tell: which of their calls raise.
The number is the length of the log at the call, so every call has its own. -/
structure Environment (F : Type) where
  transportRaises : TransportCall → ℕ → Bool
  callback : Callback F → ℕ → CallbackOutcome

/-- `Kv4pRadio` with its tracker and window, and the log of the run so far. -/
structure World (F : Type) where
  tracker : DeviceStateTracker F
  flow : FlowControlWindow
  isOpen : Bool
  transportError : Option String
  log : List (Event F)
deriving DecidableEq

def World.init [PyFloat F] : World F := ⟨DeviceStateTracker.init, .init, false, none, []⟩

/-- What the transport's thread delivers: a KISS frame, or the loss of the connection. -/
inductive Arrival
  | frame (kissCommand : UInt8) (payload : List UInt8)
  | error (exc : String)
deriving DecidableEq

def Arrival.isError : Arrival → Bool
  | .frame _ _ => false
  | .error _ => true

abbrev RadioM (F : Type) := Effect (World F) (PyError F)

namespace World

def isReady (w : World F) : Bool :=
  w.isOpen && w.transportError.isNone && w.tracker.hello.isSome

/-- Append to the log. -/
def record (w : World F) (e : Event F) : World F := { w with log := w.log++[e] }

end World

variable (env : Environment F)

def callTransport (call : TransportCall) : RadioM F Unit := do
  let w ← Effect.read
  let raises := env.transportRaises call w.log.length
  Effect.update (·.record (.transport call (!raises)))
  if raises then Effect.raise .transportRaised else pure ()

def invoke (call : Callback F) : RadioM F Unit := do
  let w ← Effect.read
  match env.callback call w.log.length with
  | .unregistered => pure ()
  | .returns => Effect.update (·.record (.callback call true))
  | .raises => do
    Effect.update (·.record (.callback call false))
    Effect.raise .callbackRaised

/-- One edge check of `on_device_state`: remember a new value, then pass it on. -/
def reportEdge (last : LastReported → Option Bool) (remember : LastReported → LastReported)
    (call : Bool → Callback F) (value : Bool) : RadioM F Unit := do
  let w ← Effect.read
  if last w.tracker.last ≠ some value then
    -- Remembered before the callback runs, so a callback that raises is not called again for it.
    Effect.update fun w => { w with tracker := { w.tracker with last := remember w.tracker.last } }
    invoke env (call value)
  else pure ()

def onDeviceState (state : DeviceState F) : RadioM F Unit := do
  Effect.update fun w => { w with tracker := w.tracker.onDeviceStateLocked state }
  let sqlOpen := state.sqlOpen
  reportEdge env LastReported.sqlOpen ({ · with sqlOpen := some sqlOpen }) .sql sqlOpen
  let phyPtt := BitMask.anySet state.flags deviceStatePhysPttDown
  reportEdge env LastReported.phyPtt ({ · with phyPtt := some phyPtt }) .phyPtt phyPtt
  let txActive := BitMask.anySet state.flags deviceStateTxActive
  reportEdge env LastReported.txActive ({ · with txActive := some txActive }) .txActive txActive

def onHello (hello : Hello F) : RadioM F Unit := do
  Effect.update fun w => { w with tracker := w.tracker.onHelloLocked hello }.record (.hello hello)
  -- Nothing in the radio or the tracker ever clears the event.
  Effect.update fun w => { w with tracker := { w.tracker with helloEvent := true } }
  onDeviceState env hello.deviceState

def handleAx25Frame (payload : List UInt8) : RadioM F Unit := invoke env (.ax25Frame payload)

/-- Debug texts are only logged. -/
def handleDebug (_ : List UInt8) : RadioM F Unit := pure ()

def handleRxAudio (payload : List UInt8) : RadioM F Unit := invoke env (.rxAudio payload)

variable [PyFloat F]

def handleHello (payload : List UInt8) : RadioM F Unit := do
  let hello ← Effect.ofExcept (Hello.fromBytes payload)
  Effect.update fun w => { w with flow := w.flow.reset hello.version.windowSize }
  onHello env hello

def handleDeviceState (payload : List UInt8) : RadioM F Unit := do
  let state ← Effect.ofExcept (DeviceState.fromBytes payload)
  onDeviceState env state
  invoke env (.deviceState state)

def handleWindowUpdate (payload : List UInt8) : RadioM F Unit := do
  let update ← Effect.ofExcept (WindowUpdate.fromBytes payload)
  Effect.update fun w => { w with flow := w.flow.add update.size }

def dispatch (command : UInt8) : Option (List UInt8 → RadioM F Unit) :=
  if command ∈ [commandDebugInfo, commandDebugError, commandDebugWarn, commandDebugDebug,
      commandDebugTrace] then some handleDebug
  else if command = commandHello then some (handleHello env)
  else if command = commandDeviceState then some (handleDeviceState env)
  else if command ∈ [commandAudioOpus, commandAudioAdpcm] then some (handleRxAudio env)
  else if command = commandWindowUpdate then some handleWindowUpdate
  else none

def onKissFrame (kissCommand : UInt8) (payload : List UInt8) : RadioM F Unit :=
  let portCommand := kissCommand &&& 0x0F
  if portCommand = kissCmdData then handleAx25Frame env payload
  else if portCommand ≠ kissCmdSethardware then pure ()
  else
    match decodeVendorPayload payload with
    | none => pure ()
    | some (command, body) =>
      match dispatch env command with
      | none => pure ()
      -- What a handler raises is logged and goes no further.
      | some handler => Effect.attempt (handler body)

/-- The transport's thread: what a frame raises stays in that thread. -/
def receive : Arrival → RadioM F Unit
  | .frame kissCommand payload => Effect.attempt (onKissFrame env kissCommand payload)
  | .error exc => Effect.update fun w => { w with transportError := some exc }

def receiveAll (arrivals : List Arrival) : RadioM F Unit := Effect.each (receive env) arrivals

/-- `claim`, with what arrives while it waits. It times out when nothing more arrives. -/
def claim (size : ℤ) : List Arrival → RadioM F Bool
  | [] => do
    let w ← Effect.read
    match w.flow.tryClaim size with
    | some flow => do
      Effect.update fun w => { w with flow := flow }
      pure true
    | none => pure false
  | arrival :: waiting => do
    let w ← Effect.read
    match w.flow.tryClaim size with
    | some flow => do
      Effect.update fun w => { w with flow := flow }
      pure true
    | none => do
      receive env arrival
      claim size waiting

/-- `waiting` arrives while a flow-controlled frame waits for credit. -/
def claimAndWrite (kissCommand : UInt8) (payload : List UInt8) (flowControlled : Bool)
    (waiting : List Arrival) : RadioM F Unit := do
  if flowControlled then
    let claimed ← claim env (encodeKissFrame kissCommand payload).length waiting
    -- A frame that finds no credit in time is dropped without an error.
    if claimed then callTransport env (.writeFrame kissCommand payload) else pure ()
  else callTransport env (.writeFrame kissCommand payload)

def sendVendor (command : UInt8) (payload : List UInt8) (flowControlled : Bool)
    (waiting : List Arrival) : RadioM F Unit :=
  claimAndWrite env kissCmdSethardware (encodeVendorPayload command payload) flowControlled waiting

def sendDesiredState (state : HostDesiredState F) : RadioM F Unit := do
  let body ← Effect.ofExcept state.toBytes
  sendVendor env commandHostDesiredState body false []

/-- A tracker setter called by one thread: its locked section, then the hand-off of its snapshot. -/
def trackerCall (c : SetterCall F) : RadioM F Unit := do
  let w ← Effect.read
  Effect.update fun w => { w with tracker := (w.tracker.setterSection c).2 }
  -- The lock is released for the hand-off, and nothing is undone if that raises.
  match (w.tracker.setterSection c).1 with
  | none => pure ()
  | some state => sendDesiredState env state

omit [PyFloat F] in
def requireReady : RadioM F Unit := do
  let w ← Effect.read
  match w.transportError with
  | some err => Effect.raise (.radioTransport s!"transport failed: {err}")
  | none =>
    if w.isReady then pure ()
    else Effect.raise (.radioNotReady "radio has not completed the HELLO handshake yet")

omit env in
def checkFrequency (version : Version F) (value : F) : RadioM F Unit :=
  if PyFloat.le version.minRadioFreq value && PyFloat.le value version.maxRadioFreq then pure ()
  else Effect.raise (.frequencyOutsideRange value version.minRadioFreq version.maxRadioFreq)

def setFrequency (freq : F) (txfreq : Option F) : RadioM F Unit := do
  requireReady
  let w ← Effect.read
  match w.tracker.hello with
  | none => Effect.raise (.attributeError "'NoneType' object has no attribute 'version'")
  | some hello => do
    let version := hello.version
    Effect.each (checkFrequency version) (freq :: txfreq.toList)
    trackerCall env (.setFrequency (some freq) (some (txfreq.getD freq)))

def setBandwidth (bandwidth : String) : RadioM F Unit := do
  requireReady
  let bw ← Effect.ofExcept (bandwidthToDra818 bandwidth)
  trackerCall env (.setBandwidth bw)

def setSquelch (squelch : ℤ) : RadioM F Unit := do
  requireReady
  trackerCall env (.setSquelch squelch)

def setCtcss (rx tx : Option ℤ) : RadioM F Unit := do
  requireReady
  trackerCall env (.setCtcss rx tx)

/-- The setters of one option bit differ only in the bit. -/
def setOption (flag : ℕ) (enabled : Bool) : RadioM F Unit := do
  requireReady
  trackerCall env (.setFlag flag enabled)

def setHighPower (enabled : Bool) : RadioM F Unit := setOption env hostStateHighPower enabled
def setTxAllowed (enabled : Bool) : RadioM F Unit := setOption env hostStateTxAllowed enabled
def setRssi (enabled : Bool) : RadioM F Unit := setOption env hostStateRssiEnabled enabled
def setRxAudioOpen (enabled : Bool) : RadioM F Unit := setOption env hostStateRxAudioOpen enabled
def setStatusReports (enabled : Bool) : RadioM F Unit :=
  setOption env hostStateEnableStatusReports enabled

def setFilter : ℕ × Option Bool → RadioM F Unit
  | (flag, some value) => trackerCall env (.setFlag flag value)
  | (_, none) => pure ()

def setFilters (pre high low : Option Bool) : RadioM F Unit := do
  requireReady
  Effect.each (setFilter env)
    [(hostStateFilterPre, pre), (hostStateFilterHigh, high), (hostStateFilterLow, low)]

def setPtt (enabled : Bool) : RadioM F Unit := do
  requireReady
  trackerCall env (.requestPtt enabled)

def sendTxAudio (payload : List UInt8) (waiting : List Arrival) : RadioM F Unit := do
  requireReady
  let w ← Effect.read
  sendVendor env w.tracker.txAudioCommand payload true waiting

/-- Unlike its siblings this operation does not check that the radio is ready. -/
def sendAx25Frame (payload : List UInt8) (waiting : List Arrival) : RadioM F Unit :=
  claimAndWrite env kissCmdData payload true waiting

/-- `wait_for_hello`: `waiting` arrives before it returns, with the event set or at its timeout. -/
def waitForHello (waiting : List Arrival) : RadioM F Bool := do
  receiveAll env waiting
  let w ← Effect.read
  pure w.tracker.helloEvent

def reset (waiting : List Arrival) : RadioM F Unit := do
  let w ← Effect.read
  if w.isOpen = false then Effect.raise (.runtimeError "radio transport is not connected")
  else do
    callTransport env .reset
    -- An event that an earlier handshake set counts as well.
    let announced ← waitForHello env waiting
    if announced then pure ()
    else Effect.raise (.timeoutError "timed out waiting for HELLO after reset")

/-- `connect` on a closed radio up to its call of `reset`; `early` arrives as soon as the transport
is open. -/
def openTransport (early : List Arrival) : RadioM F Unit := do
  Effect.update fun w => { w with transportError := none }
  callTransport env .open
  receiveAll env early
  Effect.update fun w => { w with isOpen := true }

def connect (early waiting : List Arrival) : RadioM F Unit := do
  let w ← Effect.read
  if w.isOpen then pure ()
  else do
    openTransport env early
    reset env waiting

def disconnect : RadioM F Unit := do
  let w ← Effect.read
  if w.isOpen = false then pure ()
  else do
    -- A failure to unkey is logged and swallowed.
    if w.isReady then Effect.attempt (setPtt env false) else pure ()
    callTransport env .close
    Effect.update fun w => { w with isOpen := false }

/-- `__enter__`. -/
def enter (early waiting : List Arrival) : RadioM F Unit :=
  Effect.onRaise (connect env early waiting) (disconnect env)

/-- `__exit__`: it swallows nothing. -/
def exit : RadioM F Unit := disconnect env

/-- `with radio: body`. -/
def withRadio (early waiting : List Arrival) (body : RadioM F Unit) : RadioM F Unit := do
  enter env early waiting
  Effect.ensuring body (exit env)

/-- The public setters. -/
inductive Setter (F : Type)
  | setFrequency (freq : F) (txfreq : Option F)
  | setBandwidth (bandwidth : String)
  | setSquelch (squelch : ℤ)
  | setCtcss (rx tx : Option ℤ)
  | setHighPower (enabled : Bool)
  | setTxAllowed (enabled : Bool)
  | setRssi (enabled : Bool)
  | setRxAudioOpen (enabled : Bool)
  | setStatusReports (enabled : Bool)
  | setFilters (pre high low : Option Bool)
  | setPtt (enabled : Bool)
deriving DecidableEq

def Setter.call : Setter F → RadioM F Unit
  | .setFrequency freq txfreq => Kv4p.setFrequency env freq txfreq
  | .setBandwidth bandwidth => Kv4p.setBandwidth env bandwidth
  | .setSquelch squelch => Kv4p.setSquelch env squelch
  | .setCtcss rx tx => Kv4p.setCtcss env rx tx
  | .setHighPower enabled => Kv4p.setHighPower env enabled
  | .setTxAllowed enabled => Kv4p.setTxAllowed env enabled
  | .setRssi enabled => Kv4p.setRssi env enabled
  | .setRxAudioOpen enabled => Kv4p.setRxAudioOpen env enabled
  | .setStatusReports enabled => Kv4p.setStatusReports env enabled
  | .setFilters pre high low => Kv4p.setFilters env pre high low
  | .setPtt enabled => Kv4p.setPtt env enabled

/-- One step of a run: a call of the application, or an arrival between two calls. -/
inductive Op (F : Type)
  | connect (early waiting : List Arrival)
  | disconnect
  | reset (waiting : List Arrival)
  | setter (c : Setter F)
  | sendTxAudio (payload : List UInt8) (waiting : List Arrival)
  | sendAx25Frame (payload : List UInt8) (waiting : List Arrival)
  | receive (arrival : Arrival)
deriving DecidableEq

def Op.call : Op F → RadioM F Unit
  | .connect early waiting => Kv4p.connect env early waiting
  | .disconnect => Kv4p.disconnect env
  | .reset waiting => Kv4p.reset env waiting
  | .setter c => c.call env
  | .sendTxAudio payload waiting => Kv4p.sendTxAudio env payload waiting
  | .sendAx25Frame payload waiting => Kv4p.sendAx25Frame env payload waiting
  | .receive arrival => Kv4p.receive env arrival

/-- The world after a step, whether its call raised or not. -/
def World.step (w : World F) (op : Op F) : World F := ((op.call env).run w).2

def World.run (w : World F) (ops : List (Op F)) : World F := ops.foldl (World.step env) w

end Kv4p

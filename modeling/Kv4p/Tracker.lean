import Kv4p.Messages

/-! The protocol state machine as the code between taking and releasing the tracker's lock: HELLO,
device reports, and setters that change the settings and build one snapshot of all of them. -/
namespace Kv4p
open BitMask

variable {F : Type}

/-- The settings every snapshot carries. -/
structure Settings (F : Type) where
  flags : ℕ
  freqRx : F
  freqTx : F
  bw : ℤ
  squelch : ℤ
  ctcssRx : ℤ
  ctcssTx : ℤ
deriving DecidableEq

/-- The values last passed to the edge callbacks. -/
structure LastReported where
  sqlOpen : Option Bool
  phyPtt : Option Bool
  txActive : Option Bool
deriving DecidableEq

structure DeviceStateTracker (F : Type) where
  hello : Option (Hello F)
  helloEvent : Bool
  deviceState : Option (DeviceState F)
  sequence : ℕ
  settings : Settings F
  txAudioCommand : UInt8
  last : LastReported
deriving DecidableEq

def opusMaxFw : ℤ := 17

/-- The bits of a device report that are the device's own and no setting. -/
def deviceOnlyFlags : ℕ :=
  deviceStatePhysPttDown ||| deviceStateTxActive ||| deviceStateSquelched

/-- The settings HELLO seeds. -/
def Settings.seed (d : DeviceState F) : Settings F where
  flags := clear d.flags deviceOnlyFlags ||| hostStateRadioConfigValid
  freqRx := d.freqRx
  freqTx := d.freqTx
  bw := d.bw
  squelch := d.squelch
  ctcssRx := d.ctcssRx
  ctcssTx := d.ctcssTx

def Settings.pttRequested (s : Settings F) : Bool := anySet s.flags hostStatePttRequested

/-- The setters of the tracker, with their arguments. -/
inductive SetterCall (F : Type)
  | requestPtt (enabled : Bool)
  | setFrequency (rx tx : Option F)
  | setBandwidth (bw : ℤ)
  | setSquelch (squelch : ℤ)
  | setCtcss (rx tx : Option ℤ)
  | setFlag (flag : ℕ) (enabled : Bool)
deriving DecidableEq

namespace SetterCall

/-- What a setter assigns before it sends. -/
def mutate (s : Settings F) : SetterCall F → Settings F
  | requestPtt enabled => { s with flags := assign s.flags hostStatePttRequested enabled }
  | setFrequency rx tx => { s with freqRx := rx.getD s.freqRx, freqTx := tx.getD s.freqTx }
  | setBandwidth bw => { s with bw := bw }
  | setSquelch squelch => { s with squelch := squelch }
  | setCtcss rx tx => { s with ctcssRx := rx.getD s.ctcssRx, ctcssTx := tx.getD s.ctcssTx }
  | setFlag flag enabled => { s with flags := assign s.flags flag enabled }

/-- What a setter writes to bit `i` of the flags, if it writes there. -/
def flagWrite (i : ℕ) : SetterCall F → Option Bool
  | requestPtt enabled => if hostStatePttRequested.testBit i then some enabled else none
  | setFlag flag enabled => if flag.testBit i then some enabled else none
  | _ => none

/-- Only `request_ptt` looks whether it changed anything, and returns without sending if not. -/
def suppressed (s : Settings F) : SetterCall F → Bool
  | requestPtt enabled => assign s.flags hostStatePttRequested enabled == s.flags
  | _ => false

end SetterCall

namespace DeviceStateTracker

def init [PyFloat F] : DeviceStateTracker F where
  hello := none
  helloEvent := false
  deviceState := none
  sequence := 0
  settings :=
    { flags := hostStateRadioConfigValid
      freqRx := PyFloat.zero
      freqTx := PyFloat.zero
      bw := 0
      squelch := 0
      ctcssRx := 0
      ctcssTx := 0 }
  txAudioCommand := commandAudioOpus
  last := ⟨none, none, none⟩

/-- The locked section of `on_hello`. -/
def onHelloLocked (t : DeviceStateTracker F) (hello : Hello F) : DeviceStateTracker F :=
  { t with
    hello := some hello
    deviceState := some hello.deviceState
    -- Taken as it is: HELLO may move the number back.
    sequence := hello.deviceState.appliedSequence
    settings := Settings.seed hello.deviceState
    txAudioCommand := if hello.version.ver > opusMaxFw then commandAudioAdpcm else commandAudioOpus }

/-- The locked section of `on_device_state`. -/
def onDeviceStateLocked (t : DeviceStateTracker F) (state : DeviceState F) :
    DeviceStateTracker F :=
  { t with
    deviceState := some state
    -- A report only moves the number forward, and it changes no setting.
    sequence := if state.appliedSequence > t.sequence then state.appliedSequence else t.sequence }

/-- The number the next snapshot gets. -/
def nextSequence (t : DeviceStateTracker F) : ℕ :=
  max t.sequence (t.deviceState.elim 0 DeviceState.appliedSequence)+1

def buildDesiredStateLocked (t : DeviceStateTracker F) : HostDesiredState F where
  sequence := t.sequence
  memoryId := -1
  flags := t.settings.flags
  bw := t.settings.bw
  freqTx := t.settings.freqTx
  freqRx := t.settings.freqRx
  ctcssTx := t.settings.ctcssTx
  squelch := t.settings.squelch
  ctcssRx := t.settings.ctcssRx

/-- A setter up to the point where it releases the lock to send: the snapshot it will send, if it
sends one, and the tracker it leaves behind. -/
def setterSection (t : DeviceStateTracker F) (c : SetterCall F) :
    Option (HostDesiredState F) × DeviceStateTracker F :=
  let mutated := { t with settings := c.mutate t.settings }
  if c.suppressed t.settings then (none, mutated)
  else
    -- The number is a Python integer: it is not cut to the 32 bits of its field.
    let numbered := { mutated with sequence := mutated.nextSequence }
    (some numbered.buildDesiredStateLocked, numbered)

/-! The properties that show the last report. Before the first one they are false. -/

def phyPtt (t : DeviceStateTracker F) : Bool :=
  match t.deviceState with
  | none => false
  | some state => anySet state.flags deviceStatePhysPttDown

def txActive (t : DeviceStateTracker F) : Bool :=
  match t.deviceState with
  | none => false
  | some state => anySet state.flags deviceStateTxActive

def sqlOpen (t : DeviceStateTracker F) : Bool :=
  match t.deviceState with
  | none => false
  | some state => state.sqlOpen

def mode (t : DeviceStateTracker F) : Option RadioMode :=
  match t.deviceState with
  | none => none
  | some state => some state.mode

def bandwidth (t : DeviceStateTracker F) : String := dra818ToBandwidth t.settings.bw

end DeviceStateTracker

/-- The properties of the tracker, each a read under the lock. -/
inductive Property
  | hello
  | deviceState
  | flags
  | freqRx
  | freqTx
  | bandwidth
  | squelch
  | ctcssRx
  | ctcssTx
  | txAudioCommand
  | phyPtt
  | txActive
  | sqlOpen
  | mode
deriving DecidableEq

/-- What a property returns. -/
inductive Value (F : Type)
  | hello (hello : Option (Hello F))
  | deviceState (state : Option (DeviceState F))
  | flags (flags : ℕ)
  | frequency (frequency : F)
  | text (text : String)
  | number (number : ℤ)
  | command (command : UInt8)
  | truth (truth : Bool)
  | mode (mode : Option RadioMode)
deriving DecidableEq

def Property.get (t : DeviceStateTracker F) : Property → Value F
  | hello => .hello t.hello
  | deviceState => .deviceState t.deviceState
  | flags => .flags t.settings.flags
  | freqRx => .frequency t.settings.freqRx
  | freqTx => .frequency t.settings.freqTx
  | bandwidth => .text t.bandwidth
  | squelch => .number t.settings.squelch
  | ctcssRx => .number t.settings.ctcssRx
  | ctcssTx => .number t.settings.ctcssTx
  | txAudioCommand => .command t.txAudioCommand
  | phyPtt => .truth t.phyPtt
  | txActive => .truth t.txActive
  | sqlOpen => .truth t.sqlOpen
  | mode => .mode t.mode

/-- The settings part of a snapshot. -/
def HostDesiredState.settings (d : HostDesiredState F) : Settings F where
  flags := d.flags
  freqRx := d.freqRx
  freqTx := d.freqTx
  bw := d.bw
  squelch := d.squelch
  ctcssRx := d.ctcssRx
  ctcssTx := d.ctcssTx

/-- The snapshot that `c` would build from `t`. -/
def SetterCall.snapshot (t : DeviceStateTracker F) (c : SetterCall F) : HostDesiredState F :=
  { t with settings := c.mutate t.settings, sequence := t.nextSequence }.buildDesiredStateLocked

@[simp] theorem snapshot_settings (t : DeviceStateTracker F) (c : SetterCall F) :
    (c.snapshot t).settings = c.mutate t.settings := rfl

@[simp] theorem snapshot_sequence (t : DeviceStateTracker F) (c : SetterCall F) :
    (c.snapshot t).sequence = t.nextSequence := rfl

/-- A setter changes the bits it writes and no others. -/
theorem testBit_mutate (s : Settings F) (c : SetterCall F) (i : ℕ) :
    (c.mutate s).flags.testBit i = (c.flagWrite i).getD (s.flags.testBit i) := by
  cases c with
  | requestPtt enabled =>
    rw [SetterCall.mutate, SetterCall.flagWrite, testBit_assign]
    split <;> rfl
  | setFlag flag enabled =>
    rw [SetterCall.mutate, SetterCall.flagWrite, testBit_assign]
    split <;> rfl
  | setFrequency | setBandwidth | setSquelch | setCtcss => rfl

theorem mutate_of_suppressed {s : Settings F} {c : SetterCall F} (h : c.suppressed s = true) :
    c.mutate s = s := by
  cases c with
  | requestPtt enabled =>
    have hf : assign s.flags hostStatePttRequested enabled = s.flags := beq_iff_eq.mp h
    simp only [SetterCall.mutate, hf]
  | setFrequency | setBandwidth | setSquelch | setCtcss | setFlag =>
    exact absurd h Bool.false_ne_true

/-- A setter either finds nothing to do and leaves the tracker alone, or leaves its settings and a
new number behind and has a snapshot of them to send. -/
theorem setterSection_cases (t : DeviceStateTracker F) (c : SetterCall F) :
    (c.suppressed t.settings = true ∧ t.setterSection c = (none, t)) ∨
      (c.suppressed t.settings = false ∧
        t.setterSection c = (some (c.snapshot t),
          { t with settings := c.mutate t.settings, sequence := t.nextSequence })) := by
  by_cases h : c.suppressed t.settings = true
  · left
    refine ⟨h, ?_⟩
    simp only [DeviceStateTracker.setterSection, h, mutate_of_suppressed h, ↓reduceIte]
  · right
    have hf : c.suppressed t.settings = false := by simpa using h
    refine ⟨hf, ?_⟩
    simp only [DeviceStateTracker.setterSection, hf, Bool.false_eq_true, ↓reduceIte]
    rfl

/-- After a setter the tracker holds exactly the settings the setter assigned. -/
theorem setterSection_settings (t : DeviceStateTracker F) (c : SetterCall F) :
    (t.setterSection c).2.settings = c.mutate t.settings := by
  rcases setterSection_cases t c with ⟨hs, h⟩ | ⟨_, h⟩
  · rw [h, mutate_of_suppressed hs]
  · rw [h]

/-- A setter moves no more than the settings and the sequence number. -/
theorem setterSection_frame (t : DeviceStateTracker F) (c : SetterCall F) :
    (t.setterSection c).2.hello = t.hello ∧
      (t.setterSection c).2.helloEvent = t.helloEvent ∧
      (t.setterSection c).2.deviceState = t.deviceState ∧
      (t.setterSection c).2.txAudioCommand = t.txAudioCommand := by
  rcases setterSection_cases t c with ⟨_, h⟩ | ⟨_, h⟩ <;> rw [h] <;> exact ⟨rfl, rfl, rfl, rfl⟩

theorem pttRequested_eq (s : Settings F) : s.pttRequested = s.flags.testBit 1 :=
  anySet_single s.flags 1

/-- A setter that does not write the bit leaves the PTT request alone. -/
theorem pttRequested_mutate {c : SetterCall F} (h : c.flagWrite 1 = none) (s : Settings F) :
    (c.mutate s).pttRequested = s.pttRequested := by
  rw [pttRequested_eq, pttRequested_eq, testBit_mutate, h]
  rfl

theorem pttRequested_requestPtt (s : Settings F) (enabled : Bool) :
    ((SetterCall.requestPtt enabled).mutate s).pttRequested = enabled := by
  rw [pttRequested_eq, testBit_mutate, SetterCall.flagWrite, hostStatePttRequested, testBit_single]
  rfl

/-- `request_ptt` sends exactly when the bit changes. -/
theorem suppressed_requestPtt (s : Settings F) (enabled : Bool) :
    (SetterCall.requestPtt enabled : SetterCall F).suppressed s = (s.pttRequested == enabled) := by
  have hbits : assign s.flags hostStatePttRequested enabled = s.flags ↔
      s.pttRequested = enabled := by
    constructor
    · intro h
      have hb := pttRequested_requestPtt s enabled
      rw [pttRequested_eq] at hb ⊢
      simpa only [SetterCall.mutate, h] using hb
    · intro h
      apply Nat.eq_of_testBit_eq
      intro i
      rw [testBit_assign, hostStatePttRequested, testBit_single]
      by_cases hi : 1 = i
      · subst hi
        rw [pttRequested_eq] at h
        simp [h]
      · simp [hi]
  rw [Bool.eq_iff_iff, beq_iff_eq]
  change (assign s.flags hostStatePttRequested enabled == s.flags) = true ↔ _
  rw [beq_iff_eq, hbits]

end Kv4p

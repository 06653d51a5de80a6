import Kv4p.Interleaving
import Kv4p.Library.CriticalSection
import Kv4p.Radio

/-! The methods of the tracker attribute by attribute, with the lock where the code takes it and gives
it back, and what their locked sections come to. -/
namespace Kv4p
open BitMask CriticalSections CriticalSections.Program

variable {F : Type}

/-- What a thread does while it is in a method and out of the lock, apart from what only it looks
at. -/
inductive TrackerEvent (F : Type)
  | send (state : HostDesiredState F)
  | setHelloEvent
  | callback (call : Callback F)
  | observed (property : Property) (value : Value F)
deriving DecidableEq

/-- The body of a user callback. It may read properties and call setters, and go on depending on what
they return and on whether they raised. -/
inductive CallbackBody (F : Type)
  | ends (raises : Bool)
  | setter (c : SetterCall F) (k : Bool → CallbackBody F)
  | property (p : Property) (k : Value F → CallbackBody F)

/-- How a call ends, and what it does if it is one of a user callback. A callback that is not
registered ends at once. -/
structure Answer (F : Type) where
  raises : Bool
  body : CallbackBody F

/-- The code of one thread. Its own state are the values last passed to the edge callbacks, which
only the receiving thread looks at. -/
abbrev PyCode (F α : Type) := Program (DeviceStateTracker F) LastReported (TrackerEvent F) (Answer F) α

variable [PyFloat F]

def buildDesiredStateCode : PyCode F (HostDesiredState F) := do
  let sequence ← read (·.sequence)
  let flags ← read (·.settings.flags)
  let bw ← read (·.settings.bw)
  let freqTx ← read (·.settings.freqTx)
  let freqRx ← read (·.settings.freqRx)
  let ctcssTx ← read (·.settings.ctcssTx)
  let squelch ← read (·.settings.squelch)
  let ctcssRx ← read (·.settings.ctcssRx)
  pure
    { sequence := sequence
      memoryId := -1
      flags := flags
      bw := bw
      freqTx := freqTx
      freqRx := freqRx
      ctcssTx := ctcssTx
      squelch := squelch
      ctcssRx := ctcssRx }

/-- The report is looked at twice. -/
def appliedSequenceCode : PyCode F ℕ := do
  let deviceState ← read (·.deviceState)
  match deviceState with
  | none => pure 0
  | some _ => read (·.deviceState.elim 0 DeviceState.appliedSequence)

/-- `_send_desired_state_locked`, entered and left with the lock held. Returns whether the hand-off
raised; a snapshot that does not pack raises before it reaches the transport. -/
def sendDesiredStateCode : PyCode F Bool := do
  let appliedSequence ← appliedSequenceCode
  let sequence ← read (·.sequence)
  write ({ · with sequence := max sequence appliedSequence+1 })
  let state ← buildDesiredStateCode
  give
  let answer ← ask (.send state)
  -- `finally`: the lock is taken again, raise or not.
  take
  pure (answer.raises || !state.packs)

/-- The flags are read and written in two steps. -/
def assignFlagCode (flag : ℕ) (enabled : Bool) : PyCode F Unit := do
  let flags ← read (·.settings.flags)
  write fun t => { t with settings := { t.settings with flags := assign flags flag enabled } }

def setFreqRxCode (rx : F) : PyCode F Unit :=
  write fun t => { t with settings := { t.settings with freqRx := rx } }

def setFreqTxCode (tx : F) : PyCode F Unit :=
  write fun t => { t with settings := { t.settings with freqTx := tx } }

def setBwCode (bw : ℤ) : PyCode F Unit :=
  write fun t => { t with settings := { t.settings with bw := bw } }

def setSquelchFieldCode (squelch : ℤ) : PyCode F Unit :=
  write fun t => { t with settings := { t.settings with squelch := squelch } }

def setCtcssRxCode (rx : ℤ) : PyCode F Unit :=
  write fun t => { t with settings := { t.settings with ctcssRx := rx } }

def setCtcssTxCode (tx : ℤ) : PyCode F Unit :=
  write fun t => { t with settings := { t.settings with ctcssTx := tx } }

/-- `if value is not None: self._field = value`. -/
def assignSome {β : Type} (assignment : β → PyCode F Unit) : Option β → PyCode F Unit
  | some value => assignment value
  | none => pure ()

/-- What the setters assign before they send. -/
def mutateCode : SetterCall F → PyCode F Unit
  | .requestPtt enabled => assignFlagCode hostStatePttRequested enabled
  | .setFrequency rx tx => do
    assignSome setFreqRxCode rx
    assignSome setFreqTxCode tx
  | .setBandwidth bw => setBwCode bw
  | .setSquelch squelch => setSquelchFieldCode squelch
  | .setCtcss rx tx => do
    assignSome setCtcssRxCode rx
    assignSome setCtcssTxCode tx
  | .setFlag flag enabled => assignFlagCode flag enabled

/-- The flags are looked at for the warning that TX is not allowed. -/
def warnCode (enabled : Bool) : PyCode F ℕ := if enabled then read (·.settings.flags) else pure 0

/-- A setter; returns whether it raised. -/
def setterCode : SetterCall F → PyCode F Bool
  | .requestPtt enabled => locked do
    let _ ← warnCode enabled
    let oldFlags ← read (·.settings.flags)
    mutateCode (.requestPtt enabled)
    let flags ← read (·.settings.flags)
    if flags = oldFlags then pure false else sendDesiredStateCode
  | c => locked do
    mutateCode c
    sendDesiredStateCode

/-- A property that looks at the last report twice. -/
def reportPropertyCode (missing : Value F) (present : DeviceState F → Value F) :
    PyCode F (Value F) := do
  let deviceState ← read (·.deviceState)
  match deviceState with
  | none => pure missing
  | some _ => read (·.deviceState.elim missing present)

def propertyBody : Property → PyCode F (Value F)
  | .phyPtt => reportPropertyCode (.truth false) fun state =>
      .truth (anySet state.flags deviceStatePhysPttDown)
  | .txActive => reportPropertyCode (.truth false) fun state =>
      .truth (anySet state.flags deviceStateTxActive)
  | .sqlOpen => reportPropertyCode (.truth false) fun state => .truth state.sqlOpen
  | .mode => reportPropertyCode (.mode none) fun state => .mode (some state.mode)
  | p => read p.get

/-- A property, up to the point where its caller has the value. -/
def propertyCode (p : Property) : PyCode F (Value F) := do
  let value ← locked (propertyBody p)
  let _ ← ask (.observed p value)
  pure value

/-- What a user callback does; returns whether it raises. -/
def callbackCode : CallbackBody F → PyCode F Bool
  | .ends raises => pure raises
  | .setter c k => do
    let raised ← setterCode c
    callbackCode (k raised)
  | .property p k => do
    let value ← propertyCode p
    callbackCode (k value)

/-- One edge check of `on_device_state`; returns whether the callback raised. -/
def reportEdgeCode (last : LastReported → Option Bool) (remember : LastReported → LastReported)
    (call : Bool → Callback F) (value : Bool) : PyCode F Bool := do
  let reported ← readOwn last
  if reported = some value then pure false
  else do
    writeOwn remember
    let answer ← ask (.callback (call value))
    callbackCode answer.body

/-- The checks in order, up to the first callback that raises. -/
def reportEdgesCode : List (PyCode F Bool) → PyCode F Bool
  | [] => pure false
  | check :: checks => do
    let raised ← check
    if raised then pure true else reportEdgesCode checks

/-- The checks of `on_device_state` after its locked section. -/
def edgeChecks (state : DeviceState F) : List (PyCode F Bool) :=
  let sqlOpen := state.sqlOpen
  let phyPtt := anySet state.flags deviceStatePhysPttDown
  let txActive := anySet state.flags deviceStateTxActive
  [reportEdgeCode LastReported.sqlOpen ({ · with sqlOpen := some sqlOpen }) .sql sqlOpen,
    reportEdgeCode LastReported.phyPtt ({ · with phyPtt := some phyPtt }) .phyPtt phyPtt,
    reportEdgeCode LastReported.txActive ({ · with txActive := some txActive }) .txActive txActive]

/-- The number only moves forward. -/
def raiseSequenceCode (appliedSequence : ℕ) : PyCode F Unit := do
  let sequence ← read (·.sequence)
  if appliedSequence > sequence then write ({ · with sequence := appliedSequence }) else pure ()

def onDeviceStateCode (state : DeviceState F) : PyCode F Bool := do
  take
  write ({ · with deviceState := some state })
  raiseSequenceCode state.appliedSequence
  give
  reportEdgesCode (edgeChecks state)

def seedSettingsCode (state : DeviceState F) : PyCode F Unit := do
  setFreqRxCode state.freqRx
  setFreqTxCode state.freqTx
  setBwCode state.bw
  setSquelchFieldCode state.squelch
  setCtcssRxCode state.ctcssRx
  setCtcssTxCode state.ctcssTx

def onHelloCode (hello : Hello F) : PyCode F Bool := do
  take
  write ({ · with hello := some hello })
  write ({ · with deviceState := some hello.deviceState })
  write ({ · with sequence := hello.deviceState.appliedSequence })
  write fun t => { t with settings := { t.settings with
    flags := clear hello.deviceState.flags deviceOnlyFlags ||| hostStateRadioConfigValid } }
  seedSettingsCode hello.deviceState
  write ({ · with
    txAudioCommand := if hello.version.ver > opusMaxFw then commandAudioAdpcm else commandAudioOpus })
  give
  let _ ← ask .setHelloEvent
  onDeviceStateCode hello.deviceState

omit [PyFloat F] in
theorem leads_buildDesiredState :
    (buildDesiredStateCode : PyCode F (HostDesiredState F)).Leads (some 0) (some 0) := by
  unfold buildDesiredStateCode
  repeat' first
    | exact leads_pure _
    | apply leads_bind leads_read; intro _

/-- The lock is given back for the hand-off and taken again. -/
theorem leads_sendDesiredState : (sendDesiredStateCode : PyCode F Bool).Leads (some 0) (some 0) := by
  have happlied : (appliedSequenceCode : PyCode F ℕ).Leads (some 0) (some 0) := by
    apply leads_bind leads_read
    intro deviceState
    cases deviceState with
    | none => exact leads_pure _
    | some _ => exact leads_read
  apply leads_bind happlied
  intro _
  apply leads_bind leads_read
  intro _
  apply leads_bind (leads_write _)
  intro _
  apply leads_bind leads_buildDesiredState
  intro _
  apply leads_bind leads_give
  intro _
  apply leads_bind (leads_ask _)
  intro _
  exact leads_bind leads_take fun _ => leads_pure _

omit [PyFloat F] in
theorem leads_assignSome {β : Type} {assignment : β → PyCode F Unit}
    (h : ∀ value, (assignment value).Leads (some 0) (some 0)) (value : Option β) :
    (assignSome assignment value).Leads (some 0) (some 0) := by
  cases value with
  | none => exact leads_pure _
  | some value => exact h value

omit [PyFloat F] in
theorem leads_mutate (c : SetterCall F) : (mutateCode c).Leads (some 0) (some 0) := by
  cases c with
  | requestPtt | setFlag => exact leads_bind leads_read fun _ => leads_write _
  | setFrequency | setCtcss =>
    exact leads_bind (leads_assignSome (fun _ => leads_write _) _) fun _ =>
      leads_assignSome (fun _ => leads_write _) _
  | setBandwidth | setSquelch => exact leads_write _

theorem disciplined_setter (c : SetterCall F) : (setterCode c).Disciplined none := by
  cases c with
  | requestPtt enabled =>
    apply leads_locked
    have hwarn : (warnCode enabled : PyCode F ℕ).Leads (some 0) (some 0) := by
      cases enabled with
      | true => exact leads_read
      | false => exact leads_pure _
    apply leads_bind hwarn
    intro _
    apply leads_bind leads_read
    intro _
    apply leads_bind (leads_mutate _)
    intro _
    apply leads_bind leads_read
    intro _
    split
    · exact leads_pure _
    · exact leads_sendDesiredState
  | setFrequency | setBandwidth | setSquelch | setCtcss | setFlag =>
    exact leads_locked (leads_bind (leads_mutate _) fun _ => leads_sendDesiredState)

omit [PyFloat F] in
theorem leads_propertyBody (p : Property) :
    (propertyBody p : PyCode F (Value F)).Leads (some 0) (some 0) := by
  have hreport (missing : Value F) (present : DeviceState F → Value F) :
      (reportPropertyCode missing present).Leads (some 0) (some 0) := by
    apply leads_bind leads_read
    intro deviceState
    cases deviceState with
    | none => exact leads_pure _
    | some _ => exact leads_read
  cases p with
  | phyPtt | txActive | sqlOpen | mode => exact hreport _ _
  | hello | deviceState | flags | freqRx | freqTx | bandwidth | squelch | ctcssRx | ctcssTx |
      txAudioCommand => exact leads_read

omit [PyFloat F] in
theorem disciplined_property (p : Property) :
    (propertyCode p : PyCode F (Value F)).Disciplined none :=
  leads_bind (leads_locked (leads_propertyBody p)) fun _ =>
    leads_bind (leads_ask _) fun _ => leads_pure _

theorem disciplined_callback (body : CallbackBody F) : (callbackCode body).Disciplined none := by
  induction body with
  | ends raises => exact leads_pure _
  | setter c k ih => exact leads_bind (disciplined_setter c) ih
  | property p k ih => exact leads_bind (disciplined_property p) ih

omit [PyFloat F] in
theorem disciplined_reportEdges {checks : List (PyCode F Bool)}
    (h : ∀ check ∈ checks, check.Disciplined none) : (reportEdgesCode checks).Disciplined none := by
  induction checks with
  | nil => exact leads_pure _
  | cons check checks ih =>
    apply leads_bind (h check List.mem_cons_self)
    intro raised
    split
    · exact leads_pure _
    · exact ih fun c hc => h c (List.mem_cons_of_mem check hc)

theorem disciplined_reportEdge (last : LastReported → Option Bool)
    (remember : LastReported → LastReported) (call : Bool → Callback F) (value : Bool) :
    (reportEdgeCode last remember call value).Disciplined none := by
  apply leads_bind leads_readOwn
  intro reported
  split
  · exact leads_pure _
  · exact leads_bind (leads_writeOwn _) fun _ =>
      leads_bind (leads_ask _) fun answer => disciplined_callback answer.body

theorem disciplined_edgeChecks (state : DeviceState F) :
    ∀ check ∈ edgeChecks state, check.Disciplined none := by
  simp only [edgeChecks, List.mem_cons, List.not_mem_nil, or_false, forall_eq_or_imp, forall_eq]
  exact ⟨disciplined_reportEdge _ _ _ _, disciplined_reportEdge _ _ _ _,
    disciplined_reportEdge _ _ _ _⟩

theorem disciplined_onDeviceState (state : DeviceState F) :
    (onDeviceStateCode state).Disciplined none := by
  have hraise : (raiseSequenceCode state.appliedSequence : PyCode F Unit).Leads (some 0) (some 0) := by
    apply leads_bind leads_read
    intro _
    split
    · exact leads_write _
    · exact leads_pure _
  apply leads_bind leads_take
  intro _
  apply leads_bind (leads_write _)
  intro _
  apply leads_bind hraise
  intro _
  apply leads_bind leads_give
  intro _
  exact disciplined_reportEdges (disciplined_edgeChecks state)

omit [PyFloat F] in
theorem leads_seedSettings (state : DeviceState F) :
    (seedSettingsCode state).Leads (some 0) (some 0) := by
  unfold seedSettingsCode
  repeat' first
    | exact leads_write _
    | apply leads_bind (leads_write _); intro _

theorem disciplined_onHello (hello : Hello F) : (onHelloCode hello).Disciplined none := by
  apply leads_bind leads_take
  intro _
  apply leads_bind (leads_write _)
  intro _
  apply leads_bind (leads_write _)
  intro _
  apply leads_bind (leads_write _)
  intro _
  apply leads_bind (leads_write _)
  intro _
  apply leads_bind (leads_seedSettings _)
  intro _
  apply leads_bind (leads_write _)
  intro _
  apply leads_bind leads_give
  intro _
  exact leads_bind (leads_ask _) fun _ => disciplined_onDeviceState _

/-- The end of a setter once its snapshot was handed over: the lock is taken and given back. -/
def handedCode (state : HostDesiredState F) (answer : Answer F) : PyCode F Bool :=
  acquire (release (done (answer.raises || !state.packs)))

theorem sendDesiredState_section (s : DeviceStateTracker F) (t : LastReported) :
    (sendDesiredStateCode >>= fun raised => give >>= fun _ => pure raised :
        PyCode F Bool).finish 0 s t =
      (({ s with sequence := s.nextSequence }, t),
        call (.send { s with sequence := s.nextSequence }.buildDesiredStateLocked)
          (handedCode { s with sequence := s.nextSequence }.buildDesiredStateLocked)) := by
  obtain ⟨hello, helloEvent, deviceState, sequence, settings, command, last⟩ := s
  cases deviceState with
  | none => rfl
  | some state => rfl

/-- The code of a setter up to its hand-off is its locked section. -/
theorem setter_section (c : SetterCall F) : ∃ k, setterCode c = acquire k ∧ ∀ s t,
    k.finish 0 s t = (((s.setterSection c).2, t),
      match (s.setterSection c).1 with
      | none => done false
      | some state => call (.send state) (handedCode state)) := by
  have hsent {c : SetterCall F} {k : PyCode F Bool} {s : DeviceStateTracker F} {t : LastReported}
      (hs : c.suppressed s.settings = false)
      (hk : k.finish 0 s t = (sendDesiredStateCode >>= fun raised => give >>= fun _ =>
        pure raised : PyCode F Bool).finish 0 { s with settings := c.mutate s.settings } t) :
      k.finish 0 s t = (((s.setterSection c).2, t),
        match (s.setterSection c).1 with
        | none => done false
        | some state => call (.send state) (handedCode state)) := by
    rw [hk, sendDesiredState_section]
    rcases setterSection_cases s c with ⟨h, _⟩ | ⟨_, h⟩
    · rw [hs] at h
      cases h
    · rw [h]
      rfl
  cases c with
  | setBandwidth | setSquelch | setFlag => exact ⟨_, rfl, fun s t => hsent rfl rfl⟩
  | setFrequency rx tx =>
    exact ⟨_, rfl, fun s t => hsent rfl (by cases rx <;> cases tx <;> rfl)⟩
  | setCtcss rx tx => exact ⟨_, rfl, fun s t => hsent rfl (by cases rx <;> cases tx <;> rfl)⟩
  | requestPtt enabled =>
    have hk (s : DeviceStateTracker F) (t : LastReported) : ∀ k : PyCode F Bool,
        setterCode (.requestPtt enabled) = acquire k →
        k.finish 0 s t = ((if assign s.settings.flags hostStatePttRequested enabled =
            s.settings.flags then pure false else sendDesiredStateCode) >>= fun raised =>
          give >>= fun _ => pure raised : PyCode F Bool).finish 0
            { s with settings := (SetterCall.requestPtt enabled).mutate s.settings } t := by
      intro k hk
      cases hk
      cases enabled <;> rfl
    refine ⟨_, rfl, fun s t => ?_⟩
    have hkst := hk s t _ rfl
    by_cases hsame : assign s.settings.flags hostStatePttRequested enabled = s.settings.flags
    · rw [if_pos hsame] at hkst
      have hs : (SetterCall.requestPtt enabled : SetterCall F).suppressed s.settings = true :=
        beq_iff_eq.mpr hsame
      rcases setterSection_cases s (.requestPtt enabled) with ⟨_, h⟩ | ⟨hsend, _⟩
      · rw [hkst, h, mutate_of_suppressed hs]
        rfl
      · rw [hs] at hsend
        cases hsend
    · rw [if_neg hsame] at hkst
      exact hsent (beq_eq_false_iff_ne.mpr hsame) hkst

omit [PyFloat F] in
/-- A property reads one state of the tracker, however often it looks at it. -/
theorem property_section (p : Property) : ∃ k : PyCode F (Value F), propertyCode p = acquire k ∧
    ∀ s t, k.finish 0 s t =
      ((s, t), call (.observed p (p.get s)) fun _ => done (p.get s)) := by
  refine ⟨_, rfl, fun s t => ?_⟩
  obtain ⟨hello, helloEvent, deviceState, sequence, settings, command, last⟩ := s
  cases p with
  | phyPtt | txActive | sqlOpen | mode => cases deviceState <;> rfl
  | hello | deviceState | flags | freqRx | freqTx | bandwidth | squelch | ctcssRx | ctcssTx |
      txAudioCommand => rfl

theorem onDeviceState_section (state : DeviceState F) : ∃ k, onDeviceStateCode state = acquire k ∧
    ∀ s t, k.finish 0 s t =
      ((s.onDeviceStateLocked state, t), reportEdgesCode (edgeChecks state)) := by
  refine ⟨_, rfl, fun s t => ?_⟩
  have hk : ∀ k : PyCode F Bool, onDeviceStateCode state = acquire k → k.finish 0 s t =
      ((if state.appliedSequence > s.sequence then
          write ({ · with sequence := state.appliedSequence }) else pure ()) >>= fun _ =>
        give >>= fun _ => reportEdgesCode (edgeChecks state) : PyCode F Bool).finish 0
          { s with deviceState := some state } t := by
    intro k hk
    cases hk
    rfl
  rw [hk _ rfl, DeviceStateTracker.onDeviceStateLocked]
  split <;> rfl

theorem onHello_section (hello : Hello F) : ∃ k, onHelloCode hello = acquire k ∧ ∀ s t,
    k.finish 0 s t =
      ((s.onHelloLocked hello, t), call .setHelloEvent fun _ => onDeviceStateCode hello.deviceState) :=
  ⟨_, rfl, fun _ _ => rfl⟩

end Kv4p

import Kv4p.Constants
import Kv4p.Library.BitMask
import Kv4p.Library.PackedStruct

/-! What each payload means: the records of the protocol and their byte layouts. -/
namespace Kv4p
open PackedStruct

/-- Floats as the library uses them: `<=` on frequencies, the initial `0.0`, and the four-byte
fields of the payloads. -/
class PyFloat (F : Type) extends WireFloat F where
  zero : F
  le : F → F → Bool

/-- The exceptions raised on the modelled paths, with the data their messages are built from. -/
inductive PyError (F : Type)
  | structError
  | overflowError
  | valueError (message : String)
  | frequencyOutsideRange (value minRadioFreq maxRadioFreq : F)
  | unsupportedBandwidth (value : String)
  | radioNotReady (message : String)
  | radioTransport (message : String)
  | runtimeError (message : String)
  | attributeError (message : String)
  | timeoutError (message : String)
  | transportRaised
  | callbackRaised
deriving DecidableEq

variable {F : Type}

/-- `str.lower` as far as the comparison with the ASCII names below can tell: besides the ASCII
capitals only the Kelvin sign has an ASCII lower case. -/
def lowerChar (c : Char) : Char :=
  if 'A' ≤ c ∧ c ≤ 'Z' then Char.ofNat (c.toNat+32)
  else if c = Char.ofNat 0x212A then 'k'
  else c

/-- Translate a bandwidth string into a DRA818 constant. -/
def bandwidthToDra818 (value : String) : Except (PyError F) ℤ :=
  let normalized := value.toList.map lowerChar
  if normalized ∈ ["25k".toList, "25".toList, "wide".toList] then .ok dra818_25K
  else if normalized ∈ ["12k5".toList, "12.5k".toList, "narrow".toList] then .ok dra818_12K5
  else .error (.unsupportedBandwidth value)

/-- Translate a DRA818 constant into a bandwidth string. -/
def dra818ToBandwidth (value : ℤ) : String := if value = dra818_25K then "25k" else "12.5k"

/-- `"<IiHBffBBB"`. -/
def hostDesiredStateLayout : List Code := [.u32, .i32, .u16, .u8, .f32, .f32, .u8, .u8, .u8]

structure HostDesiredState (F : Type) where
  sequence : ℕ
  memoryId : ℤ
  flags : ℕ
  bw : ℤ
  freqTx : F
  freqRx : F
  ctcssTx : ℤ
  squelch : ℤ
  ctcssRx : ℤ
deriving DecidableEq

def packErrorToPy : PackError → PyError F
  | .outOfRange => .structError
  | .floatOverflow => .overflowError

def HostDesiredState.record (d : HostDesiredState F) : Record F hostDesiredStateLayout :=
  (d.sequence, d.memoryId, d.flags, d.bw, d.freqTx, d.freqRx, d.ctcssTx, d.squelch, d.ctcssRx, ())

/-- Serialize a desired state; the first field outside its range raises. -/
def HostDesiredState.toBytes [PyFloat F] (d : HostDesiredState F) :
    Except (PyError F) (List UInt8) :=
  (pack hostDesiredStateLayout d.record).mapError packErrorToPy

theorem toBytes_eq_ok [PyFloat F] {d : HostDesiredState F} {body : List UInt8} :
    d.toBytes = .ok body ↔ pack hostDesiredStateLayout d.record = .ok body := by
  unfold HostDesiredState.toBytes
  cases pack hostDesiredStateLayout d.record <;> simp [Except.mapError]

/-- Every field of the desired state fits. -/
def HostDesiredState.packs [PyFloat F] (d : HostDesiredState F) : Bool :=
  match d.toBytes with
  | .ok _ => true
  | .error _ => false

theorem packs_iff [PyFloat F] {d : HostDesiredState F} :
    d.packs = true ↔ ∃ body, d.toBytes = .ok body := by
  unfold HostDesiredState.packs
  cases d.toBytes <;> simp

inductive RadioMode
  | tx
  | rx
  | stopped
  | unknown
deriving DecidableEq, Repr

/-- `RadioMode(value)`: unknown values map to `UNKNOWN`. -/
def RadioMode.ofValue (value : ℤ) : RadioMode :=
  if value = 0 then .tx else if value = 1 then .rx else if value = 2 then .stopped else .unknown

/-- `.decode("ascii", errors="replace")` on one byte. -/
def decodeAscii (b : UInt8) : Char := if b < 128 then Char.ofNat b.toNat else Char.ofNat 0xFFFD

/-- `"<IiHBffBBBcBBB"`. -/
def deviceStateLayout : List Code :=
  [.u32, .i32, .u16, .u8, .f32, .f32, .u8, .u8, .u8, .char, .u8, .u8, .u8]

def deviceStateSize : ℕ := layoutSize deviceStateLayout

structure DeviceState (F : Type) where
  appliedSequence : ℕ
  memoryId : ℤ
  flags : ℕ
  bw : ℤ
  freqTx : F
  freqRx : F
  ctcssTx : ℤ
  squelch : ℤ
  ctcssRx : ℤ
  radioModuleStatus : Char
  mode : RadioMode
  lastError : ℤ
  latestRssi : ℤ
deriving DecidableEq

namespace DeviceState

/-- The unpacked tuple, field by field. -/
def ofRecord : Record F deviceStateLayout → DeviceState F
  | (v0, v1, v2, v3, v4, v5, v6, v7, v8, v9, v10, v11, v12, _) =>
    { appliedSequence := Int.toNat v0
      memoryId := v1
      flags := Int.toNat v2
      bw := v3
      freqTx := v4
      freqRx := v5
      ctcssTx := v6
      squelch := v7
      ctcssRx := v8
      radioModuleStatus := decodeAscii v9
      mode := RadioMode.ofValue v10
      lastError := v11
      latestRssi := v12 }

/-- Parse a DEVICE_STATE payload; bytes past the layout are ignored. -/
def fromBytes [PyFloat F] (payload : List UInt8) : Except (PyError F) (DeviceState F) :=
  if payload.length < deviceStateSize then
    .error (.valueError s!"DeviceState payload too short: {payload.length}")
  else
    match unpack deviceStateLayout (payload.take deviceStateSize) with
    | some values => .ok (ofRecord values)
    | none => .error .structError

def sqlOpen (d : DeviceState F) : Bool := !BitMask.anySet d.flags deviceStateSquelched

end DeviceState

/-- `"<HcIBffB"`. -/
def versionLayout : List Code := [.u16, .char, .u32, .u8, .f32, .f32, .u8]

def versionSize : ℕ := layoutSize versionLayout

structure Version (F : Type) where
  ver : ℤ
  radioModuleStatus : Char
  windowSize : ℤ
  rfModuleType : ℤ
  minRadioFreq : F
  maxRadioFreq : F
  features : ℤ
deriving DecidableEq

namespace Version

def ofRecord : Record F versionLayout → Version F
  | (v0, v1, v2, v3, v4, v5, v6, _) =>
    { ver := v0
      radioModuleStatus := decodeAscii v1
      windowSize := v2
      rfModuleType := v3
      minRadioFreq := v4
      maxRadioFreq := v5
      features := v6 }

def fromBytes [PyFloat F] (payload : List UInt8) : Except (PyError F) (Version F) :=
  if payload.length ≠ versionSize then
    .error (.valueError s!"Version payload must be {versionSize} bytes, got {payload.length}")
  else
    match unpack versionLayout payload with
    | some values => .ok (ofRecord values)
    | none => .error .structError

end Version

structure Hello (F : Type) where
  version : Version F
  deviceState : DeviceState F
deriving DecidableEq

/-- Parse a HELLO payload: the device state is its last bytes, the version all before it. -/
def Hello.fromBytes [PyFloat F] (payload : List UInt8) : Except (PyError F) (Hello F) :=
  -- At least one byte has to be left for the version, which then checks its own length.
  if payload.length ≤ deviceStateSize then
    .error (.valueError s!"HELLO payload too short: {payload.length}")
  else do
    let stateOffset := payload.length-deviceStateSize
    let version ← Version.fromBytes (payload.take stateOffset)
    let deviceState ← DeviceState.fromBytes (payload.drop stateOffset)
    pure ⟨version, deviceState⟩

/-- `"<I"`. -/
def windowUpdateLayout : List Code := [.u32]

def windowUpdateSize : ℕ := layoutSize windowUpdateLayout

structure WindowUpdate where
  size : ℤ
deriving DecidableEq, Repr

def WindowUpdate.fromBytes [PyFloat F] (payload : List UInt8) :
    Except (PyError F) WindowUpdate :=
  if payload.length < windowUpdateSize then
    .error (.valueError s!"WindowUpdate payload too short: {payload.length}")
  else
    match unpack (F := F) windowUpdateLayout (payload.take windowUpdateSize) with
    | some (size, _) => .ok ⟨size⟩
    | none => .error .structError

variable [PyFloat F]

theorem deviceState_fromBytes_eq_ok {payload : List UInt8} {d : DeviceState F} :
    DeviceState.fromBytes payload = .ok d ↔ deviceStateSize ≤ payload.length ∧
      ∃ values, unpack deviceStateLayout (payload.take deviceStateSize) = some values ∧
        d = DeviceState.ofRecord values := by
  unfold DeviceState.fromBytes
  split
  · rename_i h
    simp [not_le.mpr h]
  · rename_i h
    cases unpack (F := F) deviceStateLayout (payload.take deviceStateSize) <;>
      simp [not_lt.mp h, eq_comm]

theorem version_fromBytes_eq_ok {payload : List UInt8} {v : Version F} :
    Version.fromBytes payload = .ok v ↔ payload.length = versionSize ∧
      ∃ values, unpack versionLayout payload = some values ∧ v = Version.ofRecord values := by
  unfold Version.fromBytes
  split
  · rename_i h
    simp [h]
  · rename_i h
    cases unpack (F := F) versionLayout payload <;> simp [not_not.mp h, eq_comm]

theorem windowUpdate_fromBytes_eq_ok {payload : List UInt8} {u : WindowUpdate} :
    (WindowUpdate.fromBytes payload : Except (PyError F) WindowUpdate) = .ok u ↔
      windowUpdateSize ≤ payload.length ∧
        ∃ values, unpack (F := F) windowUpdateLayout (payload.take windowUpdateSize) = some values ∧
          u = ⟨values.1⟩ := by
  unfold WindowUpdate.fromBytes
  split
  · rename_i h
    simp [not_le.mpr h]
  · rename_i h
    cases unpack (F := F) windowUpdateLayout (payload.take windowUpdateSize) with
    | none => simp
    | some values =>
      obtain ⟨size, rest⟩ := values
      constructor
      · intro hu
        cases hu
        exact ⟨not_lt.mp h, _, rfl, rfl⟩
      · rintro ⟨_, values, hv, rfl⟩
        cases hv
        rfl

theorem hello_fromBytes_eq_ok {payload : List UInt8} {hello : Hello F} :
    Hello.fromBytes payload = .ok hello ↔ deviceStateSize < payload.length ∧
      Version.fromBytes (payload.take (payload.length-deviceStateSize)) =
        (.ok hello.version : Except (PyError F) (Version F)) ∧
      DeviceState.fromBytes (payload.drop (payload.length-deviceStateSize)) =
        (.ok hello.deviceState : Except (PyError F) (DeviceState F)) := by
  obtain ⟨version, deviceState⟩ := hello
  unfold Hello.fromBytes
  split
  · rename_i h
    simp [not_lt.mpr h]
  · rename_i h
    cases hv : (Version.fromBytes (payload.take (payload.length-deviceStateSize)) :
        Except (PyError F) (Version F)) with
    | error e => simp [hv, bind, Except.bind]
    | ok v =>
      cases hd : (DeviceState.fromBytes (payload.drop (payload.length-deviceStateSize)) :
          Except (PyError F) (DeviceState F)) with
      | error e => simp [hv, hd, bind, Except.bind]
      | ok d => simp [hv, hd, not_le.mp h, bind, Except.bind, pure, Except.pure]

/-- A DEVICE_STATE payload parses exactly if it is long enough. -/
theorem deviceState_parses_iff {payload : List UInt8} :
    (∃ d : DeviceState F, DeviceState.fromBytes payload = .ok d) ↔
      deviceStateSize ≤ payload.length := by
  constructor
  · rintro ⟨d, h⟩
    exact (deviceState_fromBytes_eq_ok.mp h).1
  · intro h
    have htake : (payload.take deviceStateSize).length = layoutSize deviceStateLayout := by
      rw [List.length_take]
      exact min_eq_left h
    obtain ⟨values, hv⟩ := read_of_length (F := F) htake
    exact ⟨_, deviceState_fromBytes_eq_ok.mpr ⟨h, values, unpack_eq_some.mpr hv, rfl⟩⟩

theorem windowUpdate_parses_iff {payload : List UInt8} :
    (∃ u, (WindowUpdate.fromBytes payload : Except (PyError F) WindowUpdate) = .ok u) ↔
      windowUpdateSize ≤ payload.length := by
  constructor
  · rintro ⟨u, h⟩
    exact (windowUpdate_fromBytes_eq_ok.mp h).1
  · intro h
    have htake : (payload.take windowUpdateSize).length = layoutSize windowUpdateLayout := by
      rw [List.length_take]
      exact min_eq_left h
    obtain ⟨values, hv⟩ := read_of_length (F := F) htake
    exact ⟨_, windowUpdate_fromBytes_eq_ok.mpr ⟨h, values, unpack_eq_some.mpr hv, rfl⟩⟩

/-- A HELLO payload parses exactly if it has the size of a version and a device state. -/
theorem hello_parses_iff {payload : List UInt8} :
    (∃ hello : Hello F, Hello.fromBytes payload = .ok hello) ↔
      payload.length = versionSize+deviceStateSize := by
  constructor
  · rintro ⟨hello, h⟩
    obtain ⟨hlong, hversion, _⟩ := hello_fromBytes_eq_ok.mp h
    have hlen := (version_fromBytes_eq_ok.mp hversion).1
    rw [List.length_take] at hlen
    omega
  · intro h
    have hpos : 0 < versionSize := by decide
    have hlen : (payload.take (payload.length-deviceStateSize)).length = versionSize := by
      rw [List.length_take]
      omega
    obtain ⟨values, hv⟩ := read_of_length (F := F) (l := versionLayout) hlen
    have hdrop : deviceStateSize ≤ (payload.drop (payload.length-deviceStateSize)).length := by
      rw [List.length_drop]
      omega
    obtain ⟨d, hd⟩ := (deviceState_parses_iff (F := F)).mpr hdrop
    exact ⟨⟨Version.ofRecord values, d⟩, hello_fromBytes_eq_ok.mpr ⟨by omega,
      version_fromBytes_eq_ok.mpr ⟨hlen, values, unpack_eq_some.mpr hv, rfl⟩, hd⟩⟩

/-- The window sizes the device sends are not negative. -/
theorem windowSize_nonneg {payload : List UInt8} {hello : Hello F}
    (h : Hello.fromBytes payload = .ok hello) : 0 ≤ hello.version.windowSize := by
  obtain ⟨_, hversion, _⟩ := hello_fromBytes_eq_ok.mp h
  obtain ⟨_, values, hv, hver⟩ := version_fromBytes_eq_ok.mp hversion
  have hall : All Code.Nonneg versionLayout values :=
    all_of_read (fun c bs _ => Code.decode_nonneg c bs) (unpack_eq_some.mp hv)
  rw [hver]
  exact hall.2.2.1

theorem updateSize_nonneg {payload : List UInt8} {u : WindowUpdate}
    (h : (WindowUpdate.fromBytes payload : Except (PyError F) WindowUpdate) = .ok u) :
    0 ≤ u.size := by
  obtain ⟨_, values, hv, rfl⟩ := windowUpdate_fromBytes_eq_ok.mp h
  have hall : All Code.Nonneg windowUpdateLayout values :=
    all_of_read (fun c bs _ => Code.decode_nonneg c bs) (unpack_eq_some.mp hv)
  exact hall.1

end Kv4p

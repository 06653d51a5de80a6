import Kv4p.Wire

/-! The in-memory transport that answers a reset with a synthetic HELLO, and floats to run it on. -/
namespace Kv4p
open Effects PackedStruct

/-- The floats that a four-byte field holds exactly, as their bits. -/
structure Binary32 where
  bits : BitVec 32
deriving DecidableEq

namespace Binary32

def isNan (x : Binary32) : Bool := 0x7F800000 < x.bits.toNat%2147483648

/-- Sign and magnitude as one integer: it orders the numbers, and both zeros are 0. -/
def key (x : Binary32) : ℤ :=
  if x.bits.toNat < 2147483648 then x.bits.toNat else 2147483648-(x.bits.toNat : ℤ)

end Binary32

instance : PyFloat Binary32 where
  toBits x := some x.bits
  ofBits bits := ⟨bits⟩
  zero := ⟨0⟩
  le x y := !x.isNan && !y.isNan && decide (x.key ≤ y.key)

structure DummyTransport (F : Type) where
  firmwareVersion : ℤ
  windowSize : ℤ
  minRadioFreq : F
  maxRadioFreq : F
  features : ℤ
  deviceStateFlags : ℤ

namespace DummyTransport

variable {F : Type} [PyFloat F]

/-- `"<HcIBffB"`. -/
def versionStruct : List Code := [.u16, .char, .u32, .u8, .f32, .f32, .u8]

/-- `"<IiHBffBBBcBBB"`. -/
def deviceStateStruct : List Code :=
  [.u32, .i32, .u16, .u8, .f32, .f32, .u8, .u8, .u8, .char, .u8, .u8, .u8]

def versionRecord (t : DummyTransport F) : Record F versionStruct :=
  (t.firmwareVersion, 0x44, t.windowSize, 0, t.minRadioFreq, t.maxRadioFreq, t.features, ())

def deviceStateRecord (t : DummyTransport F) : Record F deviceStateStruct :=
  (0, -1, t.deviceStateFlags, 0, t.minRadioFreq, t.minRadioFreq, 0, 1, 0, 0x44, 1, 0, 0, ())

def buildHelloBytes (t : DummyTransport F) : Except PackError (List UInt8) := do
  let version ← pack versionStruct t.versionRecord
  let deviceState ← pack deviceStateStruct t.deviceStateRecord
  pure (version++deviceState)

/-- The transport packs with the layouts the messages are read with. -/
theorem buildHelloBytes_eq (t : DummyTransport F) :
    t.buildHelloBytes = (do
      let version ← pack versionLayout t.versionRecord
      let deviceState ← pack deviceStateLayout t.deviceStateRecord
      pure (version++deviceState)) := rfl

/-- What `reset` makes the transport deliver. -/
def helloFrames (t : DummyTransport F) : List Arrival :=
  match t.buildHelloBytes with
  | .ok bytes => [.frame kissCmdSethardware (encodeVendorPayload commandHello bytes)]
  | .error _ => []

/-- The synthetic HELLO parses, to the values the transport was made with. -/
theorem fromBytes_buildHelloBytes {t : DummyTransport F} {bytes : List UInt8}
    (h : t.buildHelloBytes = .ok bytes) :
    Hello.fromBytes bytes = (.ok ⟨Version.ofRecord (canon versionLayout t.versionRecord),
      DeviceState.ofRecord (canon deviceStateLayout t.deviceStateRecord)⟩ :
        Except (PyError F) (Hello F)) := by
  rw [buildHelloBytes_eq] at h
  cases hv : pack versionLayout t.versionRecord with
  | error e => simp [hv, bind, Except.bind] at h
  | ok version =>
    cases hd : pack deviceStateLayout t.deviceStateRecord with
    | error e => simp [hv, hd, bind, Except.bind] at h
    | ok deviceState =>
      have hb : bytes = version++deviceState := by
        simpa [hv, hd, bind, Except.bind, pure, Except.pure, eq_comm] using h
      have hvl : version.length = versionSize := pack_length hv
      have hdl : deviceState.length = deviceStateSize := pack_length hd
      have hlen : bytes.length-deviceStateSize = version.length := by
        rw [hb, List.length_append, hdl, Nat.add_sub_cancel]
      have hlong : ¬ bytes.length ≤ deviceStateSize := by
        rw [hb, List.length_append, hdl, hvl]
        decide
      have hversion : Version.fromBytes version = (.ok
          (Version.ofRecord (canon versionLayout t.versionRecord)) :
            Except (PyError F) (Version F)) := by
        rw [Version.fromBytes, if_neg (not_not.mpr hvl), unpack_pack hv]
      have hstate : DeviceState.fromBytes deviceState = (.ok
          (DeviceState.ofRecord (canon deviceStateLayout t.deviceStateRecord)) :
            Except (PyError F) (DeviceState F)) := by
        rw [DeviceState.fromBytes, if_neg (by omega), ← hdl, List.take_length, unpack_pack hd]
      rw [Hello.fromBytes, if_neg hlong]
      simp only [hlen]
      rw [hb, List.take_left, List.drop_left, hversion, hstate]
      rfl

end DummyTransport

/-- The transport with the values it has when none are given: frequencies from 134 to 174. -/
def dummyTransport : DummyTransport Binary32 :=
  ⟨17, 2048, ⟨0x43060000⟩, ⟨0x432E0000⟩, 0, 0⟩

/-- The HELLO it announces. -/
def dummyHello : Hello Binary32 :=
  ⟨Version.ofRecord dummyTransport.versionRecord, DeviceState.ofRecord dummyTransport.deviceStateRecord⟩

/-- A HELLO that can be built parses; these floats lose nothing on the way. -/
theorem builtHello_parses {t : DummyTransport Binary32}
    (hok : t.buildHelloBytes.toOption.isSome = true) :
    ∃ payload, (Hello.fromBytes payload : Except (PyError Binary32) _) =
      .ok ⟨Version.ofRecord t.versionRecord, DeviceState.ofRecord t.deviceStateRecord⟩ := by
  cases hb : t.buildHelloBytes with
  | error e =>
    rw [hb] at hok
    cases hok
  | ok bytes => exact ⟨bytes, DummyTransport.fromBytes_buildHelloBytes hb⟩

theorem dummyHello_parses :
    ∃ payload, (Hello.fromBytes payload : Except (PyError Binary32) _) = .ok dummyHello :=
  builtHello_parses (t := dummyTransport) (by decide +kernel)

/-- No call of the transport raises, no callback is registered. -/
def faultless : Environment Binary32 := ⟨fun _ _ => false, fun _ _ => .unregistered⟩

/-- The transport refuses the frame handed over when the log has `n` events. -/
def refusesAt (n : ℕ) : Environment Binary32 where
  transportRaises call m :=
    match call with
    | .writeFrame _ _ => m == n
    | _ => false
  callback _ _ := .unregistered

/-- After `connect` on the transport the radio is ready. -/
example : (World.run faultless World.init [.connect [] dummyTransport.helloFrames]).isReady =
    true := by
  decide +kernel

end Kv4p

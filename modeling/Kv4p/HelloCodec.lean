import Kv4p.DummyTransport

/-! HELLO payloads: which of them parse, that the parsed fields pack back to the payload, and that
the HELLO of the in-memory transport brings its parameters. -/
namespace Kv4p
open Effects PackedStruct

variable {F : Type}

/-- The byte of an ASCII character. -/
def encodeAscii (c : Char) : UInt8 := UInt8.ofNat c.toNat

theorem encodeAscii_decodeAscii {b : UInt8} (h : b < 128) : encodeAscii (decodeAscii b) = b := by
  have hascii : ∀ n < 128, (Char.ofNat n).toNat = n := by decide
  have hchar := hascii b.toNat (UInt8.lt_iff_toNat_lt.mp h)
  rw [encodeAscii, decodeAscii, if_pos h, hchar, UInt8.ofNat_toNat]

def RadioMode.value : RadioMode → ℤ
  | tx => 0
  | rx => 1
  | stopped => 2
  | unknown => -1

theorem RadioMode.value_ofValue {n : ℤ} (h : n = 0 ∨ n = 1 ∨ n = 2) : (ofValue n).value = n := by
  rcases h with rfl | rfl | rfl
  · rfl
  · rfl
  · rfl

/-- The fields in the order in which `_build_hello_bytes` packs them. -/
def Version.arguments (v : Version F) : Record F versionLayout :=
  (v.ver, encodeAscii v.radioModuleStatus, v.windowSize, v.rfModuleType, v.minRadioFreq,
    v.maxRadioFreq, v.features, ())

def DeviceState.arguments (d : DeviceState F) : Record F deviceStateLayout :=
  (d.appliedSequence, d.memoryId, d.flags, d.bw, d.freqTx, d.freqRx, d.ctcssTx, d.squelch,
    d.ctcssRx, encodeAscii d.radioModuleStatus, d.mode.value, d.lastError, d.latestRssi, ())

def Hello.packFields [PyFloat F] (hello : Hello F) : Except PackError (List UInt8) := do
  let version ← pack versionLayout hello.version.arguments
  let deviceState ← pack deviceStateLayout hello.deviceState.arguments
  pure (version++deviceState)

theorem version_arguments_ofRecord {v : Record F versionLayout} (hstatus : v.2.1 < 128) :
    (Version.ofRecord v).arguments = v := by
  obtain ⟨v0, v1, v2, v3, v4, v5, v6, _⟩ := v
  rw [Version.arguments, Version.ofRecord, encodeAscii_decodeAscii hstatus]

theorem deviceState_arguments_ofRecord {v : Record F deviceStateLayout} (hsequence : 0 ≤ v.1)
    (hflags : 0 ≤ v.2.2.1) (hstatus : v.2.2.2.2.2.2.2.2.2.1 < 128)
    (hmode : v.2.2.2.2.2.2.2.2.2.2.1 = 0 ∨ v.2.2.2.2.2.2.2.2.2.2.1 = 1 ∨
      v.2.2.2.2.2.2.2.2.2.2.1 = 2) : (DeviceState.ofRecord v).arguments = v := by
  obtain ⟨v0, v1, v2, v3, v4, v5, v6, v7, v8, v9, v10, v11, v12, _⟩ := v
  rw [DeviceState.arguments, DeviceState.ofRecord, encodeAscii_decodeAscii hstatus,
    RadioMode.value_ofValue hmode, Int.toNat_of_nonneg hsequence, Int.toNat_of_nonneg hflags]

section Bytes

variable [WireFloat F] (bs : List UInt8)

/-- A field of one byte, at a place where the layout has one. -/
theorem decode_one (n : ℕ) :
    Code.decode (F := F) .char ((bs.drop n).take 1) = bs.getD n 0 ∧
      Code.decode (F := F) .u8 ((bs.drop n).take 1) = (bs.getD n 0).toNat := by
  rw [List.take_one, List.head?_drop, List.getD_eq_getElem?_getD]
  cases bs[n]? with
  | none => exact ⟨rfl, rfl⟩
  | some b => exact ⟨rfl, by simp [Code.decode, leNat]⟩

/-- The status byte of the version. -/
theorem version_status :
    (decodeAll versionLayout bs : Record F versionLayout).2.1 = bs.getD 2 0 :=
  (decode_one bs 2).1

/-- The status byte of the device state, after the seven numbers and the two tones. -/
theorem deviceState_status :
    (decodeAll deviceStateLayout bs : Record F deviceStateLayout).2.2.2.2.2.2.2.2.2.1 =
      bs.getD 22 0 := by
  rw [← (decode_one (F := F) bs 22).1]
  simp [decodeAll, deviceStateLayout, Code.size]

theorem deviceState_mode :
    (decodeAll deviceStateLayout bs : Record F deviceStateLayout).2.2.2.2.2.2.2.2.2.2.1 =
      (bs.getD 23 0).toNat := by
  rw [← (decode_one (F := F) bs 23).2]
  simp [decodeAll, deviceStateLayout, Code.size]

end Bytes

/-- The bits of the four floats in a HELLO payload. -/
def helloFloats (payload : List UInt8) : List (BitVec 32) :=
  floatFields versionLayout (payload.take versionSize)++
    floatFields deviceStateLayout (payload.drop versionSize)

variable [PyFloat F]

/-- The two halves of a payload that parses. -/
theorem hello_halves {payload : List UInt8} {hello : Hello F}
    (h : Hello.fromBytes payload = .ok hello) :
    ∃ version deviceState,
      read versionLayout (payload.take versionSize) = some (version, []) ∧
        read deviceStateLayout (payload.drop versionSize) = some (deviceState, []) ∧
          hello = ⟨Version.ofRecord version, DeviceState.ofRecord deviceState⟩ := by
  have hlen : payload.length = versionSize+deviceStateSize := hello_parses_iff.mp ⟨hello, h⟩
  have hoffset : payload.length-deviceStateSize = versionSize := by omega
  have hdrop : (payload.drop versionSize).length = deviceStateSize := by
    rw [List.length_drop]
    omega
  obtain ⟨_, hversion, hstate⟩ := hello_fromBytes_eq_ok.mp h
  rw [hoffset] at hversion hstate
  obtain ⟨_, version, hv, hver⟩ := version_fromBytes_eq_ok.mp hversion
  obtain ⟨_, deviceState, hd, hdev⟩ := deviceState_fromBytes_eq_ok.mp hstate
  rw [← hdrop, List.take_length] at hd
  refine ⟨version, deviceState, unpack_eq_some.mp hv, unpack_eq_some.mp hd, ?_⟩
  rw [← hver, ← hdev]

/-- The fields of a parsed payload pack back to it. -/
theorem hello_packs_back {payload : List UInt8} {hello : Hello F}
    (h : Hello.fromBytes payload = .ok hello) (hversion : payload.getD 2 0 < 128)
    (hstate : payload.getD 39 0 < 128) (hmode : payload.getD 40 0 ≤ 2)
    (hfloats : ∀ bits ∈ helloFloats payload,
      WireFloat.toBits (WireFloat.ofBits bits : F) = some bits) :
    hello.packFields = .ok payload := by
  obtain ⟨version, deviceState, hv, hd, rfl⟩ := hello_halves h
  have hnonneg : All Code.Nonneg deviceStateLayout deviceState :=
    all_of_read (fun c bs _ => Code.decode_nonneg c bs) hd
  have hvalues := eq_decodeAll_of_read hd
  have hvstatus : version.2.1 < 128 := by
    rw [eq_decodeAll_of_read hv, version_status]
    simpa [versionSize, versionLayout, layoutSize, Code.size] using hversion
  have hdstatus : deviceState.2.2.2.2.2.2.2.2.2.1 < 128 := by
    rw [hvalues, deviceState_status]
    simpa [versionSize, versionLayout, layoutSize, Code.size] using hstate
  have hdmode : deviceState.2.2.2.2.2.2.2.2.2.2.1 = ((payload.getD 40 0).toNat : ℤ) := by
    rw [hvalues, deviceState_mode]
    simp [versionSize, versionLayout, layoutSize, Code.size]
  have hmodes : deviceState.2.2.2.2.2.2.2.2.2.2.1 = 0 ∨
      deviceState.2.2.2.2.2.2.2.2.2.2.1 = 1 ∨ deviceState.2.2.2.2.2.2.2.2.2.2.1 = 2 := by
    have hle : (payload.getD 40 0).toNat ≤ 2 := UInt8.le_iff_toNat_le.mp hmode
    have hcases : ((payload.getD 40 0).toNat : ℤ) = 0 ∨ ((payload.getD 40 0).toNat : ℤ) = 1 ∨
        ((payload.getD 40 0).toNat : ℤ) = 2 := by omega
    rw [hdmode]
    exact hcases
  have hvpack := pack_of_read hv fun bits hb => hfloats bits (List.mem_append_left _ hb)
  have hdpack := pack_of_read hd fun bits hb => hfloats bits (List.mem_append_right _ hb)
  have hvargs := version_arguments_ofRecord hvstatus
  have hdargs := deviceState_arguments_ofRecord hnonneg.1 hnonneg.2.2.1 hdstatus hmodes
  rw [Hello.packFields]
  dsimp only
  rw [hvargs, hdargs, hvpack, hdpack]
  have hwhole : payload.take versionSize++payload.drop versionSize = payload :=
    List.take_append_drop versionSize payload
  exact congrArg Except.ok hwhole

/-- A number of the four-byte format that is not NaN. -/
def IsBinary32 (x : F) : Prop :=
  ∃ bits : BitVec 32, (⟨bits⟩ : Binary32).isNan = false ∧ WireFloat.ofBits bits = x

/-- What `struct` is relied on for: a number of the format is packed to the bits it was read from. -/
def KeepsBits (F : Type) [WireFloat F] : Prop :=
  ∀ bits : BitVec 32, (⟨bits⟩ : Binary32).isNan = false →
    WireFloat.toBits (WireFloat.ofBits bits : F) = some bits

theorem canon_binary32 (hstruct : KeepsBits F) {x : F} (hx : IsBinary32 x) :
    Code.Fits .f32 x ∧ Code.canon .f32 x = x := by
  obtain ⟨bits, hnan, rfl⟩ := hx
  have hbits := hstruct bits hnan
  constructor
  · rw [Code.Fits, hbits, Option.isSome_some]
  · simp only [Code.canon, hbits]

namespace DummyTransport

/-- Parameters that fit the fields they are packed into. -/
structure InRange (t : DummyTransport F) : Prop where
  firmwareVersion : 0 ≤ t.firmwareVersion ∧ t.firmwareVersion < 65536
  windowSize : 0 ≤ t.windowSize ∧ t.windowSize < 4294967296
  minRadioFreq : IsBinary32 t.minRadioFreq
  maxRadioFreq : IsBinary32 t.maxRadioFreq
  features : 0 ≤ t.features ∧ t.features < 256
  deviceStateFlags : 0 ≤ t.deviceStateFlags ∧ t.deviceStateFlags < 65536

/-- The HELLO with the parameters in its fields. -/
def hello (t : DummyTransport F) : Hello F :=
  ⟨Version.ofRecord t.versionRecord, DeviceState.ofRecord t.deviceStateRecord⟩

/-- The transport packs the fields of this HELLO, each in its place. -/
theorem buildHelloBytes_eq_packFields {t : DummyTransport F} (hflags : 0 ≤ t.deviceStateFlags) :
    t.buildHelloBytes = t.hello.packFields := by
  have hstatus : (0x44 : UInt8) < 128 := by decide
  have hversion : t.hello.version.arguments = t.versionRecord := version_arguments_ofRecord hstatus
  have hstate : t.hello.deviceState.arguments = t.deviceStateRecord :=
    deviceState_arguments_ofRecord le_rfl hflags hstatus (Or.inr (Or.inl rfl))
  rw [Hello.packFields, hversion, hstate, buildHelloBytes_eq]

theorem canon_records (hstruct : KeepsBits F) {t : DummyTransport F} (ht : t.InRange) :
    canon versionLayout t.versionRecord = t.versionRecord ∧
      canon deviceStateLayout t.deviceStateRecord = t.deviceStateRecord := by
  have hmin := (canon_binary32 hstruct ht.minRadioFreq).2
  have hmax := (canon_binary32 hstruct ht.maxRadioFreq).2
  constructor
  · simp only [canon, versionLayout, versionRecord, hmin, hmax]
    rfl
  · simp only [canon, deviceStateLayout, deviceStateRecord, hmin]
    rfl

/-- Parameters in range can be packed, and what they are packed to parses back to them. -/
theorem hello_parses (hstruct : KeepsBits F) {t : DummyTransport F} (ht : t.InRange) :
    ∃ bytes, t.buildHelloBytes = .ok bytes ∧
      Hello.fromBytes bytes = (.ok t.hello : Except (PyError F) (Hello F)) := by
  have hmin := (canon_binary32 hstruct ht.minRadioFreq).1
  have hmax := (canon_binary32 hstruct ht.maxRadioFreq).1
  have hzero : Code.FitsUnsigned 1 0 := by decide
  have hone : Code.FitsUnsigned 1 1 := by decide
  have hsequence : Code.FitsUnsigned 4 0 := by decide
  have hmemory : Code.FitsSigned (-1) := by decide
  have hversion : Fits versionLayout t.versionRecord :=
    ⟨ht.firmwareVersion, trivial, ht.windowSize, hzero, hmin, hmax, ht.features, trivial⟩
  have hstate : Fits deviceStateLayout t.deviceStateRecord :=
    ⟨hsequence, hmemory, ht.deviceStateFlags, hzero, hmin, hmin, hzero, hone, hzero, trivial, hone,
      hzero, hzero, trivial⟩
  obtain ⟨version, hv⟩ := pack_isOk_iff.mpr hversion
  obtain ⟨deviceState, hd⟩ := pack_isOk_iff.mpr hstate
  have hbuild : t.buildHelloBytes = .ok (version++deviceState) := by
    rw [buildHelloBytes_eq, hv, hd]
    rfl
  have hparse := fromBytes_buildHelloBytes hbuild
  rw [(canon_records hstruct ht).1, (canon_records hstruct ht).2] at hparse
  exact ⟨_, hbuild, hparse⟩

end DummyTransport

/-- A HELLO that parses is the HELLO of the radio, whatever the callbacks do. -/
theorem receive_hello (env : Environment F) {a : Arrival} {hello : Hello F}
    (ha : a.hello = some hello) (w : World F) :
    ((receive env a).run w).2.tracker.hello = some hello := by
  obtain ⟨v, ht, hq⟩ := receive_takes env a w
  obtain ⟨last, htracker⟩ := hq.tracker
  rw [htracker]
  cases ht with
  | nothing _ hnone =>
    rw [hnone] at ha
    cases ha
  | error exc => cases ha
  | hello _ payload hello' hsome _ =>
    have hsame := hsome.symm.trans ha
    cases hsame
    rfl
  | report _ payload state hnone _ =>
    rw [hnone] at ha
    cases ha

/-- A HELLO payload parses exactly at its size. If its statuses are ASCII, its mode is known and its
floats are numbers, the parsed fields pack back to it. The HELLO that the in-memory transport
delivers for parameters in range brings these parameters. What is assumed of `struct` is that it
keeps the bits of four-byte floats other than NaN. -/
theorem hello_codec_inverse (hstruct : KeepsBits F) :
    (∀ payload, (∃ hello : Hello F, Hello.fromBytes payload = .ok hello) ↔
      payload.length = 17+26) ∧
    (∀ payload (hello : Hello F), Hello.fromBytes payload = .ok hello →
      payload.getD 2 0 < 128 → payload.getD 39 0 < 128 → payload.getD 40 0 ≤ 2 →
      (∀ bits ∈ helloFloats payload, (⟨bits⟩ : Binary32).isNan = false) →
        hello.packFields = .ok payload) ∧
    (∀ t : DummyTransport F, t.InRange → ∀ (env : Environment F) (w : World F),
      ∃ hello, ((receiveAll env t.helloFrames).run w).2.tracker.hello = some hello ∧
        hello.version.ver = t.firmwareVersion ∧ hello.version.windowSize = t.windowSize ∧
        hello.version.minRadioFreq = t.minRadioFreq ∧
        hello.version.maxRadioFreq = t.maxRadioFreq ∧ hello.version.features = t.features ∧
        (hello.deviceState.flags : ℤ) = t.deviceStateFlags ∧
        hello.deviceState.freqTx = t.minRadioFreq ∧
        hello.deviceState.freqRx = t.minRadioFreq) := by
  refine ⟨fun payload => hello_parses_iff, ?_, ?_⟩
  · intro payload hello h hversion hstate hmode hnan
    exact hello_packs_back h hversion hstate hmode fun bits hb => hstruct bits (hnan bits hb)
  · intro t ht env w
    obtain ⟨bytes, hbuild, hparse⟩ := t.hello_parses hstruct ht
    have hframes : t.helloFrames =
        [.frame kissCmdSethardware (encodeVendorPayload commandHello bytes)] := by
      rw [DummyTransport.helloFrames, hbuild]
    have hcarried : (Arrival.frame kissCmdSethardware
        (encodeVendorPayload commandHello bytes)).hello = some t.hello := by
      have hset : kissCmdSethardware &&& 0x0F = kissCmdSethardware := by decide
      rw [Arrival.hello, if_pos hset, decodeVendorPayload_encode]
      dsimp only
      rw [if_pos rfl, hparse]
      rfl
    have hrun : ((receiveAll env t.helloFrames).run w).2.tracker.hello = some t.hello := by
      rw [receiveAll, hframes, Effect.each_singleton]
      exact receive_hello env hcarried w
    have hflags : (t.hello.deviceState.flags : ℤ) = t.deviceStateFlags :=
      Int.toNat_of_nonneg ht.deviceStateFlags.1
    exact ⟨t.hello, hrun, rfl, rfl, rfl, rfl, rfl, hflags, rfl, rfl⟩

theorem keepsBits_binary32 : KeepsBits Binary32 := fun _ _ => rfl

/-- A transport with no parameter left as it is when none are given: frequencies from 400 to 470. -/
def otherTransport : DummyTransport Binary32 :=
  ⟨18, 4096, ⟨0x43C80000⟩, ⟨0x43EB0000⟩, 5, 0x0802⟩

theorem hello_codec_dummy :
    ∃ hello, ((receiveAll faultless otherTransport.helloFrames).run
        World.init).2.tracker.hello = some hello ∧
      hello.version.ver = 18 ∧ hello.version.windowSize = 4096 ∧
      hello.version.minRadioFreq = ⟨0x43C80000⟩ ∧ hello.version.maxRadioFreq = ⟨0x43EB0000⟩ ∧
      hello.version.features = 5 ∧ (hello.deviceState.flags : ℤ) = 0x0802 ∧
      hello.deviceState.freqTx = ⟨0x43C80000⟩ ∧ hello.deviceState.freqRx = ⟨0x43C80000⟩ := by
  have hrange : otherTransport.InRange := ⟨by decide, by decide, ⟨0x43C80000, by decide, rfl⟩,
    ⟨0x43EB0000, by decide, rfl⟩, by decide, by decide⟩
  exact (hello_codec_inverse keepsBits_binary32).2.2 otherTransport hrange faultless World.init

end Kv4p

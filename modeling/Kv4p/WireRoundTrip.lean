import Kv4p.KissStream
import Kv4p.SerialTransport

/-! A desired state on the line, read back: through KISS framing, the vendor envelope and the layout
of the device's report, which starts with the fields of a desired state. -/
namespace Kv4p
open Effects PackedStruct

variable {F : Type} [PyFloat F]

/-- The fields a report has after those of a desired state. -/
def reportTail : List Code := [.char, .u8, .u8, .u8]

/-- The report carries the settings of the desired state. -/
structure Carries (s : DeviceState F) (d : HostDesiredState F) : Prop where
  appliedSequence : s.appliedSequence = d.sequence
  memoryId : s.memoryId = d.memoryId
  flags : s.flags = d.flags
  bw : s.bw = d.bw
  freqTx : s.freqTx = d.freqTx
  freqRx : s.freqRx = d.freqRx
  ctcssTx : s.ctcssTx = d.ctcssTx
  squelch : s.squelch = d.squelch
  ctcssRx : s.ctcssRx = d.ctcssRx

omit [PyFloat F] in
/-- The two layouts name the same fields in the same order. -/
theorem ofRecord_carries (d : HostDesiredState F) (rest : Record F reportTail) :
    Carries (DeviceState.ofRecord (d.record.append rest)) d := by
  obtain ⟨status, mode, error, rssi, _⟩ := rest
  exact ⟨rfl, rfl, rfl, rfl, rfl, rfl, rfl, rfl, rfl⟩

/-- A packed desired state with at least four more bytes parses as a report, up to the precision of
the frequencies. -/
theorem fromBytes_toBytes {d : HostDesiredState F} {body : List UInt8} (h : d.toBytes = .ok body)
    {tail : List UInt8} (ht : 4 ≤ tail.length) :
    ∃ s, DeviceState.fromBytes (body++tail) = (.ok s : Except (PyError F) (DeviceState F)) ∧
      Carries s d.onWire := by
  have hpack := toBytes_eq_ok.mp h
  have hbody : body.length = 22 := pack_length hpack
  have htake : (body++tail).take deviceStateSize = body++tail.take 4 := by
    have hsize : deviceStateSize = body.length+4 := by rw [hbody]; rfl
    rw [hsize, List.take_length_add_append]
  have hfour : (tail.take 4).length = layoutSize reportTail := by
    rw [List.length_take]
    exact min_eq_left ht
  obtain ⟨rest, hrest⟩ := read_of_length (F := F) hfour
  have hread : PackedStruct.read deviceStateLayout (body++tail.take 4) =
      some ((canon hostDesiredStateLayout d.record).append rest, []) :=
    read_append (read_pack hpack (tail.take 4)) hrest
  refine ⟨_, deviceState_fromBytes_eq_ok.mpr ⟨?_, _, ?_, rfl⟩, ofRecord_carries d.onWire rest⟩
  · have hsize : deviceStateSize = 26 := rfl
    rw [List.length_append, hbody, hsize]
    omega
  · rw [htake]
    exact unpack_eq_some.mpr hread

/-- The number is a value of the four-byte float format. -/
def Representable (x : F) : Prop := ∃ bits, WireFloat.ofBits bits = x

/-- The precision of the format is enough for such a number, if the format decodes what it encoded. -/
theorem canon_representable
    (hstruct : ∀ (x : F) bits, Representable x → WireFloat.toBits x = some bits →
      WireFloat.ofBits bits = x)
    {x : F} (hx : Representable x) : Code.canon .f32 x = x := by
  simp only [Code.canon]
  cases hbits : WireFloat.toBits x with
  | none => rfl
  | some bits => exact hstruct x bits hx hbits

/-- Every desired state whose fields fit comes back from the line with its values. What is assumed
of `struct` is that the float format decodes what it encoded, for the numbers it can represent. -/
theorem desired_state_round_trip
    (hstruct : ∀ (x : F) bits, Representable x → WireFloat.toBits x = some bits →
      WireFloat.ofBits bits = x)
    {d : HostDesiredState F} (hfits : Fits hostDesiredStateLayout d.record)
    (htx : Representable d.freqTx) (hrx : Representable d.freqRx)
    (env : Environment F) (w : World F)
    (hwrite : ∀ call, env.transportRaises call w.log.length = false) (p : KissParser) :
    ∃ written, (sendDesiredState env d).run w = (.ok (), { w with log := w.log++written }) ∧
      ∀ (cut : ℕ → ℕ) (chunks : List (List UInt8)), chunks.flatten = serialLine cut written →
        ∃ earlier payload body,
          (Effect.each (KissParser.feed KissParser.collect) chunks :
              Effect _ (PyError F) Unit).run (p, []) =
            (.ok (), (KissParser.opened, earlier++[⟨kissCmdSethardware, payload⟩])) ∧
          decodeVendorPayload payload = some (commandHostDesiredState, body) ∧
          ∀ tail : List UInt8, 4 ≤ tail.length → ∃ s : DeviceState F,
            DeviceState.fromBytes (body++tail) = .ok s ∧ Carries s d := by
  obtain ⟨body, hpack⟩ := pack_isOk_iff.mpr hfits
  have hbytes : d.toBytes = .ok body := toBytes_eq_ok.mpr hpack
  have hexact : d.onWire = d := by
    rw [HostDesiredState.onWire, canon_representable hstruct htx, canon_representable hstruct hrx]
  refine ⟨[.transport (desiredCall body) true], ?_, ?_⟩
  · rw [sendDesiredState_run, hbytes]
    exact callTransport_returns env (hwrite _)
  · intro cut chunks hchunks
    let f : KissFrame := ⟨kissCmdSethardware, encodeVendorPayload commandHostDesiredState body⟩
    have hcut : chunks.flatten = [f].flatMap fun f => encodeKissFrame f.command f.payload := by
      have hline : serialLine cut [(.transport (desiredCall body) true : Event F)] =
          (writeSection (cut 0) (f, true)).bytes := List.flatMap_singleton _ _
      have hfull : (writeSection (cut 0) (f, true)).bytes =
        encodeKissFrame f.command f.payload := List.take_length
      rw [hchunks, hline, hfull, List.flatMap_singleton]
    have hcmd : ∀ g ∈ [f], g.command ≠ kissFend ∧ g.command ≠ kissFesc := by
      intro g hg
      have hcommand : kissCmdSethardware ≠ kissFend ∧ kissCmdSethardware ≠ kissFesc := by decide
      rw [List.mem_singleton.mp hg]
      exact hcommand
    obtain ⟨hp, hf⟩ := frames_encoded p (List.cons_ne_nil f []) hcmd
    refine ⟨p.pending, _, body, ?_, decodeVendorPayload_encode _ _, ?_⟩
    · rw [KissParser.feed_chunks_collect, hcut, List.nil_append, hp, hf]
    · intro tail ht
      have h := fromBytes_toBytes hbytes ht
      rwa [hexact] at h

/-- Values all different, a number with both bytes that are escaped, and 144.5 and 145 for the
frequencies. -/
def escapedState : HostDesiredState Binary32 :=
  ⟨0xDBC0, -2, 0x1801, 1, ⟨0x43108000⟩, ⟨0x43110000⟩, 12, 7, 30⟩

/-- From a parser inside an escape, with a tail of four bytes. -/
theorem desired_state_round_trip_escaped :
    ∃ written, (sendDesiredState faultless escapedState).run World.init =
        (.ok (), { (World.init : World Binary32) with log := written }) ∧
      ∃ earlier payload body,
        (Effect.each (KissParser.feed KissParser.collect) [serialLine (fun _ => 0) written] :
            Effect _ (PyError Binary32) Unit).run (⟨true, true, [0x01]⟩, []) =
          (.ok (), (KissParser.opened, earlier++[⟨kissCmdSethardware, payload⟩])) ∧
        decodeVendorPayload payload = some (commandHostDesiredState, body) ∧
        ∃ s : DeviceState Binary32,
          DeviceState.fromBytes (body++[0x44, 0x01, 0x00, 0x00]) = .ok s ∧
            Carries s escapedState := by
  have hfits : Fits hostDesiredStateLayout escapedState.record :=
    pack_isOk_iff.mp ((packs_iff.mp (by decide +kernel)).imp fun _ => toBytes_eq_ok.mp)
  have hstruct : ∀ (x : Binary32) bits, Representable x → WireFloat.toBits x = some bits →
      WireFloat.ofBits bits = x := by
    intro x bits _ hbits
    cases hbits
    rfl
  obtain ⟨written, hrun, h⟩ := desired_state_round_trip hstruct hfits ⟨_, rfl⟩ ⟨_, rfl⟩ faultless
    World.init (fun _ => rfl) ⟨true, true, [0x01]⟩
  obtain ⟨earlier, payload, body, hfeed, hdecode, hparse⟩ :=
    h (fun _ => 0) [serialLine (fun _ => 0) written] List.flatten_singleton
  exact ⟨written, hrun, earlier, payload, body, hfeed, hdecode, hparse _ (by decide)⟩

end Kv4p

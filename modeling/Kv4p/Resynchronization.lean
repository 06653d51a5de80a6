import Kv4p.HostMessages
import Kv4p.StreamReception

/-! Noise on the line: it costs none of the frames around it, and after a HELLO nothing is left of what
was read before. -/
namespace Kv4p
open Effects

variable {F : Type}

/-- Frames in a stream, each behind what came in before it. -/
def noisyStream (blocks : List (List UInt8 × KissFrame)) : List UInt8 :=
  blocks.flatMap fun (noise, f) => noise++encodeKissFrame f.command f.payload

/-- A FEND delivers at most one frame, and no other byte does. -/
theorem frames_length_le (p : KissParser) (data : List UInt8) :
    (p.frames data).length ≤ data.count kissFend := by
  induction data generalizing p with
  | nil => exact Nat.le_refl 0
  | cons byte data ih =>
    have hrest := ih (p.next byte)
    rw [KissParser.frames, List.length_append, List.count_cons, KissParser.delivered]
    by_cases hfend : byte = kissFend
    · -- It closes what is pending, and that is one frame or none.
      have hone := pending_length_le p
      rw [if_pos hfend, if_pos (beq_iff_eq.mpr hfend)]
      omega
    · rw [if_neg hfend, List.length_nil]
      omega

/-- What noise delivers by itself: what it closes, and what the frame behind it closes. -/
def KissParser.junk (p : KissParser) (noise : List UInt8) : List KissFrame :=
  p.frames noise++(noise.foldl KissParser.next p).pending

theorem junk_length_le (p : KissParser) (noise : List UInt8) :
    (p.junk noise).length ≤ noise.count kissFend+1 := by
  have hclosed := frames_length_le p noise
  have hpending := pending_length_le (noise.foldl KissParser.next p)
  rw [KissParser.junk, List.length_append]
  omega

/-- A frame behind noise is delivered, and then the parser is where it would be without the noise. -/
theorem frames_behind_noise (p : KissParser) {f : KissFrame}
    (hcmd : f.command ≠ kissFend ∧ f.command ≠ kissFesc) (noise rest : List UInt8) :
    p.frames (noise++(encodeKissFrame f.command f.payload++rest)) =
        p.junk noise++f :: KissParser.opened.frames rest ∧
      (noise++(encodeKissFrame f.command f.payload++rest)).foldl KissParser.next p =
        rest.foldl KissParser.next KissParser.opened := by
  have hone : [f].flatMap (fun f => encodeKissFrame f.command f.payload) =
      encodeKissFrame f.command f.payload := List.flatMap_singleton _ f
  obtain ⟨hstate, hframes⟩ := frames_encoded (noise.foldl KissParser.next p) (List.cons_ne_nil f [])
    fun g hg => List.mem_singleton.mp hg ▸ hcmd
  rw [hone] at hstate hframes
  constructor
  · -- The FEND in front of the frame closes what the noise left pending.
    calc
      _ = p.frames noise++((noise.foldl KissParser.next p).pending++[f]++
            KissParser.opened.frames rest) := by
        rw [KissParser.frames_append, KissParser.frames_append, hstate, hframes]
      _ = p.junk noise++f :: KissParser.opened.frames rest := by
        simp only [KissParser.junk, List.append_assoc, List.cons_append, List.nil_append]
  · rw [List.foldl_append, List.foldl_append, hstate]

theorem frames_noisyStream (p : KissParser) {blocks : List (List UInt8 × KissFrame)}
    (hcmd : ∀ b ∈ blocks, b.2.command ≠ kissFend ∧ b.2.command ≠ kissFesc)
    (rest : List UInt8) :
    ∃ (junk : List (List KissFrame)) (tail : List KissFrame),
      List.Forall₂ (fun js b => js.length ≤ b.1.count kissFend+1) junk blocks ∧
      tail.length ≤ rest.count kissFend ∧ p.frames (noisyStream blocks++rest) =
        (List.zipWith (fun js b => js++[b.2]) junk blocks).flatten++tail := by
  induction blocks generalizing p with
  | nil => exact ⟨[], p.frames rest, .nil, frames_length_le p rest, rfl⟩
  | cons b blocks ih =>
    obtain ⟨noise, f⟩ := b
    have hframes := (frames_behind_noise p (hcmd (noise, f) List.mem_cons_self) noise
      (noisyStream blocks++rest)).1
    obtain ⟨junk, tail, hjunk, htail, hrest⟩ :=
      ih KissParser.opened fun b hb => hcmd b (List.mem_cons_of_mem _ hb)
    refine ⟨p.junk noise :: junk, tail, .cons (junk_length_le p noise) hjunk, htail, ?_⟩
    rw [noisyStream, List.flatMap_cons, ← noisyStream, List.append_assoc, List.append_assoc, hframes,
      hrest, List.zipWith_cons_cons, List.flatten_cons]
    simp only [List.append_assoc, List.cons_append, List.nil_append]

/-- Whatever stands before, between and after encoded frames, in whatever state it meets the parser and
however the stream is cut: all the frames are delivered, in order, and what else is delivered is at most
one frame for each FEND in the noise and one for each frame that closes some. -/
theorem frames_survive_noise {ε : Type} (p : KissParser)
    {blocks : List (List UInt8 × KissFrame)}
    (hcmd : ∀ b ∈ blocks, b.2.command ≠ kissFend ∧ b.2.command ≠ kissFesc) {rest : List UInt8}
    {chunks : List (List UInt8)} (hcut : chunks.flatten = noisyStream blocks++rest) :
    ∃ (q : KissParser) (junk : List (List KissFrame)) (tail : List KissFrame),
      (Effect.each (KissParser.feed KissParser.collect) chunks : Effect _ ε Unit).run (p, []) =
        (.ok (), q, (List.zipWith (fun js b => js++[b.2]) junk blocks).flatten++tail) ∧
      List.Forall₂ (fun js b => js.length ≤ b.1.count kissFend+1) junk blocks ∧
      tail.length ≤ rest.count kissFend := by
  obtain ⟨junk, tail, hjunk, htail, hframes⟩ := frames_noisyStream p hcmd rest
  refine ⟨(noisyStream blocks++rest).foldl KissParser.next p, junk, tail, ?_, hjunk, htail⟩
  rw [KissParser.feed_chunks_collect, hcut, hframes, List.nil_append]

/-- Two frames between a broken escape, a stray FEND and a frame that is never closed. -/
theorem frames_survive_noise_between :
    let blocks : List (List UInt8 × KissFrame) :=
      [([0x99, 0xDB], ⟨0x06, [0xC0]⟩), ([0x41, 0xC0], ⟨0x00, []⟩)]
    ∃ (q : KissParser) (junk : List (List KissFrame)) (tail : List KissFrame),
      (Effect.each (KissParser.feed KissParser.collect)
          [[0x99, 0xDB, 0xC0, 0x06], [0xDB, 0xDC, 0xC0, 0x41, 0xC0, 0xC0, 0x00, 0xC0, 0x42]] :
          Effect _ Empty Unit).run (⟨true, false, [0x07]⟩, []) =
        (.ok (), q, (List.zipWith (fun js b => js++[b.2]) junk blocks).flatten++tail) ∧
      List.Forall₂ (fun js b => js.length ≤ b.1.count kissFend+1) junk blocks ∧
      tail.length ≤ [(0x42 : UInt8)].count kissFend := by
  intro blocks
  have hcmd : ∀ b ∈ blocks, b.2.command ≠ kissFend ∧ b.2.command ≠ kissFesc := by decide
  exact frames_survive_noise ⟨true, false, [0x07]⟩ hcmd (by decide)

/-- The frame of a HELLO. -/
def helloFrame (body : List UInt8) : KissFrame :=
  ⟨kissCmdSethardware, encodeVendorPayload commandHello body⟩

/-- The callback for data returns, and there is one for audio. -/
structure Environment.Listens (env : Environment F) : Prop where
  data : ∀ payload n, env.callback (.ax25Frame payload) n = .returns
  audio : ∀ payload n, env.callback (.rxAudio payload) n ≠ .unregistered

theorem take_core (t : DeviceStateTracker F) (r : Report F) : t.core.take r = (t.take r).core := by
  cases r <;> rfl

theorem foldl_take_core (t : DeviceStateTracker F) (rs : List (Report F)) :
    rs.foldl DeviceStateTracker.take t.core = (rs.foldl DeviceStateTracker.take t).core := by
  induction rs generalizing t with
  | nil => rfl
  | cons r rs ih => rw [List.foldl_cons, List.foldl_cons, take_core, ih]

/-- HELLO leaves nothing of the core as it was. -/
theorem take_hello_core (t u : DeviceStateTracker F) (hello : Hello F) :
    t.core.take (.hello hello) = u.core.take (.hello hello) := rfl

theorem core_setterSection (t : DeviceStateTracker F) (c : SetterCall F) :
    t.core.setterSection c = ((t.setterSection c).1, (t.setterSection c).2.core) := by
  have hsettings : t.core.settings = t.settings := rfl
  rcases setterSection_cases t c with ⟨hs, h⟩ | ⟨hs, h⟩
  · rcases setterSection_cases t.core c with ⟨_, hcore⟩ | ⟨hn, _⟩
    · rw [h, hcore]
    · rw [hsettings, hs] at hn
      cases hn
  · rcases setterSection_cases t.core c with ⟨hn, _⟩ | ⟨_, hcore⟩
    · rw [hsettings, hs] at hn
      cases hn
    · rw [h, hcore]
      rfl

/-- The snapshots of setters do not depend on what is not in the core. -/
theorem snapshots_core (t : DeviceStateTracker F) (calls : List (SetterCall F)) :
    t.core.snapshots calls = t.snapshots calls := by
  induction calls generalizing t with
  | nil => rfl
  | cons c calls ih =>
    rw [DeviceStateTracker.snapshots, DeviceStateTracker.snapshots, core_setterSection, ih]

variable [PyFloat F]

theorem vendorCommand_helloFrame (body : List UInt8) :
    vendorCommand (helloFrame body).command (helloFrame body).payload =
      some (commandHello, body) := by
  have hset : kissCmdSethardware &&& 0x0F = kissCmdSethardware := by decide
  exact vendorCommand_eq_some.mpr ⟨hset, decodeVendorPayload_encode commandHello body⟩

theorem report_helloFrame {hello : Hello F} {body : List UInt8}
    (hbody : Hello.fromBytes body = .ok hello) : (helloFrame body).report = some (.hello hello) := by
  rw [KissFrame.report_eq, vendorCommand_helloFrame]
  change Report.ofBody commandHello body = _
  rw [Report.ofBody, if_pos rfl, hbody]

theorem window_helloFrame {hello : Hello F} {body : List UInt8}
    (hbody : Hello.fromBytes body = .ok hello) (flow : FlowControlWindow) :
    (helloFrame body).window F flow = ⟨hello.version.windowSize⟩ := by
  rw [KissFrame.window, vendorCommand_helloFrame]
  dsimp only
  rw [if_pos rfl, hbody]
  rfl

/-- A stream with a HELLO in it, in full. What the radio makes of it, a new one makes of the rest. -/
theorem readLoop_hello {env : Environment F} (henv : env.Listens) {hello : Hello F}
    {body : List UInt8} (hbody : Hello.fromBytes body = .ok hello) (p : KissParser) (w : World F)
    {reads : List (List UInt8)} {noise rest : List UInt8}
    (hcut : reads.flatten =
      noise++(encodeKissFrame (helloFrame body).command (helloFrame body).payload++rest)) :
    let after := helloFrame body :: KissParser.opened.frames rest
    let result := (readLoop env reads).run (p, [], w)
    result.1 = .ok () ∧ result.2.1 = rest.foldl KissParser.next KissParser.opened ∧
      result.2.2.1 = p.junk noise++after ∧
      result.2.2.2.direct = w.direct++((p.junk noise).filterMap KissFrame.direct++
        after.filterMap KissFrame.direct) ∧
      result.2.2.2.tracker.core = (after.filterMap KissFrame.report).foldl DeviceStateTracker.take
        DeviceStateTracker.init.core ∧
      result.2.2.2.flow = after.foldl (KissFrame.window F) FlowControlWindow.init := by
  intro after result
  have hregistered (payload : List UInt8) (n : ℕ) :
      env.callback (.ax25Frame payload) n ≠ .unregistered := by
    rw [henv.data]
    exact CallbackOutcome.noConfusion
  have hcmd : (helloFrame body).command ≠ kissFend ∧ (helloFrame body).command ≠ kissFesc := by
    change kissCmdSethardware ≠ kissFend ∧ kissCmdSethardware ≠ kissFesc
    decide
  obtain ⟨hframes, hstate⟩ := frames_behind_noise p hcmd noise rest
  have hrun : result = (.ok (), rest.foldl KissParser.next KissParser.opened,
      p.junk noise++after, (p.junk noise++after).foldl (World.handle env) w) := by
    rw [← hstate, ← hframes, ← hcut]
    exact readLoop_run henv.data p w reads
  obtain ⟨hdirect, htracker, hflow⟩ :=
    handleAll_takes hregistered henv.audio (p.junk noise++after) w
  rw [hrun]
  refine ⟨rfl, rfl, rfl, ?_, ?_, ?_⟩
  · rw [hdirect, List.filterMap_append]
  · have hafter : (after.filterMap KissFrame.report : List (Report F)) =
        .hello hello :: (KissParser.opened.frames rest).filterMap KissFrame.report :=
      List.filterMap_cons_some (report_helloFrame hbody)
    -- The reports in the noise come before the HELLO, which forgets them.
    calc
      _ = (after.filterMap KissFrame.report).foldl DeviceStateTracker.take
            (((p.junk noise).filterMap KissFrame.report).foldl DeviceStateTracker.take
              w.tracker.core) := by rw [htracker, List.filterMap_append, List.foldl_append]
      _ = _ := by
        rw [foldl_take_core, hafter, List.foldl_cons, List.foldl_cons, take_hello_core]
  · rw [hflow, List.foldl_append, List.foldl_cons, List.foldl_cons, window_helloFrame hbody,
      window_helloFrame hbody]

end Kv4p

import Kv4p.Kiss
import Kv4p.Library.EscapedFraming

/-! What the KISS parser delivers for a whole byte stream, well formed or not. -/
namespace Kv4p
open Effects EscapedFraming

def kissScheme : Scheme UInt8 where
  delim := kissFend
  esc := kissFesc
  decodeEscape c :=
    if c = kissTfend then some kissFend else if c = kissTfesc then some kissFesc else none

def KissParser.decoder (p : KissParser) : Decoder UInt8 := ⟨p.inFrame, p.escaped, p.buf⟩

/-- The first byte of a message is the command. -/
def KissFrame.ofBytes : List UInt8 → Option KissFrame
  | [] => none
  | command :: payload => some ⟨command, payload⟩

def KissFrame.toBytes (f : KissFrame) : List UInt8 := f.command :: f.payload

theorem ofBytes_eq_some {xs : List UInt8} {f : KissFrame} :
    KissFrame.ofBytes xs = some f ↔ xs = f.toBytes := by
  obtain ⟨command, payload⟩ := f
  cases xs with
  | nil => simp [KissFrame.ofBytes, KissFrame.toBytes]
  | cons first rest => simp [KissFrame.ofBytes, KissFrame.toBytes]

/-- The frames of a stream: split at each FEND, drop the first and the last piece, undo the escapes
of every other piece and drop it if nothing is left. -/
def kissGrammar (stream : List UInt8) : List KissFrame :=
  (stream.splitOn kissFend).tail.dropLast.filterMap fun piece =>
    KissFrame.ofBytes (kissScheme.unescape piece)

theorem escapeByte_escapes : kissScheme.Escapes escapeByte where
  plain := by
    intro b hd hs
    change b ≠ kissFend at hd
    change b ≠ kissFesc at hs
    rw [escapeByte, if_neg hd, if_neg hs]
  coded := by
    intro b hb
    rcases hb with rfl | rfl
    · exact ⟨kissTfend, rfl, by decide, rfl⟩
    · exact ⟨kissTfesc, rfl, by decide, rfl⟩
  esc_ne := by decide

theorem decodeEscape_toList (byte : UInt8) :
    (kissScheme.decodeEscape byte).toList =
      if byte = kissTfend then [kissFend] else if byte = kissTfesc then [kissFesc] else [] := by
  change (if byte = kissTfend then some kissFend
    else if byte = kissTfesc then some kissFesc else none).toList = _
  split_ifs <;> rfl

/-- The parser runs the decoder of the scheme. -/
theorem next_decoder (p : KissParser) (byte : UInt8) :
    (p.next byte).decoder = kissScheme.next p.decoder byte := by
  have hdelim : kissScheme.delim = kissFend := rfl
  have hescape : kissScheme.esc = kissFesc := rfl
  unfold KissParser.next Scheme.next
  rw [decodeEscape_toList, hdelim, hescape]
  by_cases hfend : byte = kissFend
  · rw [if_pos hfend, if_pos hfend]
    rfl
  · rw [if_neg hfend, if_neg hfend]
    by_cases hin : p.inFrame = false
    · rw [if_pos hin, if_pos (show p.decoder.inFrame = false from hin)]
    · rw [if_neg hin, if_neg (show ¬ p.decoder.inFrame = false from hin)]
      by_cases hesc : p.escaped = true
      · rw [if_pos hesc, if_pos (show p.decoder.escaped = true from hesc)]
        rfl
      · rw [if_neg hesc, if_neg (show ¬ p.decoder.escaped = true from hesc)]
        by_cases hfesc : byte = kissFesc
        · rw [if_pos hfesc, if_pos hfesc]
          rfl
        · rw [if_neg hfesc, if_neg hfesc]
          rfl

theorem pending_ofBytes (p : KissParser) :
    p.pending = (Scheme.pending p.decoder).toList.filterMap KissFrame.ofBytes := by
  obtain ⟨inFrame, escaped, buf⟩ := p
  cases inFrame <;> cases buf <;> rfl

theorem pending_length_le (p : KissParser) : p.pending.length ≤ 1 := by
  obtain ⟨inFrame, escaped, buf⟩ := p
  cases inFrame <;> cases buf <;> simp [KissParser.pending]

theorem frames_ofBytes (p : KissParser) (data : List UInt8) :
    p.frames data = (kissScheme.messages p.decoder data).filterMap KissFrame.ofBytes := by
  induction data generalizing p with
  | nil => rfl
  | cons byte data ih =>
    have hd : p.delivered byte = (if byte = kissScheme.delim then
        (Scheme.pending p.decoder).toList else []).filterMap KissFrame.ofBytes := by
      change (if byte = kissFend then p.pending else []) =
        (if byte = kissFend then _ else []).filterMap KissFrame.ofBytes
      split_ifs
      · exact pending_ofBytes p
      · rfl
    rw [KissParser.frames, Scheme.messages, List.filterMap_append, ih, next_decoder, hd]

theorem foldl_next_decoder (p : KissParser) (data : List UInt8) :
    (data.foldl KissParser.next p).decoder = data.foldl kissScheme.next p.decoder := by
  induction data generalizing p with
  | nil => rfl
  | cons byte data ih => rw [List.foldl_cons, List.foldl_cons, ih, next_decoder]

theorem decoder_injective {p p' : KissParser} (h : p.decoder = p'.decoder) : p = p' := by
  obtain ⟨inFrame, escaped, buf⟩ := p
  obtain ⟨inFrame', escaped', buf'⟩ := p'
  simpa only [KissParser.decoder, Decoder.mk.injEq, KissParser.mk.injEq] using h

/-- A command other than FEND and FESC is its own escape, so a frame is one delimited message. -/
theorem encodeKissFrame_eq {command : UInt8} (payload : List UInt8)
    (hfend : command ≠ kissFend) (hfesc : command ≠ kissFesc) :
    encodeKissFrame command payload =
      kissScheme.delim :: ((command :: payload).flatMap escapeByte++[kissScheme.delim]) := by
  rw [List.flatMap_cons, escapeByte_escapes.plain command hfend hfesc]
  rfl

theorem flatMap_encodeKissFrame {frames : List KissFrame}
    (hcmd : ∀ f ∈ frames, f.command ≠ kissFend ∧ f.command ≠ kissFesc) :
    frames.flatMap (fun f => encodeKissFrame f.command f.payload) =
      (frames.map KissFrame.toBytes).flatMap fun msg =>
        kissScheme.delim :: (msg.flatMap escapeByte++[kissScheme.delim]) := by
  induction frames with
  | nil => rfl
  | cons f frames ih =>
    have hf := hcmd f List.mem_cons_self
    have hrest := ih fun g hg => hcmd g (List.mem_cons_of_mem f hg)
    rw [List.flatMap_cons, hrest, encodeKissFrame_eq f.payload hf.1 hf.2]
    rfl

theorem filterMap_ofBytes_toBytes (frames : List KissFrame) :
    (frames.map KissFrame.toBytes).filterMap KissFrame.ofBytes = frames := by
  rw [List.filterMap_map]
  exact List.filterMap_some

/-- Encoded frames close what the parser held in a frame and then come back whole, in order. -/
theorem frames_encoded (p : KissParser) {frames : List KissFrame} (hne : frames ≠ [])
    (hcmd : ∀ f ∈ frames, f.command ≠ kissFend ∧ f.command ≠ kissFesc) :
    (frames.flatMap fun f => encodeKissFrame f.command f.payload).foldl KissParser.next p =
        KissParser.opened ∧
      p.frames (frames.flatMap fun f => encodeKissFrame f.command f.payload) =
        p.pending++frames := by
  have hmsgs : frames.map KissFrame.toBytes ≠ [] := fun h => hne (List.map_eq_nil_iff.mp h)
  have hmsg : ∀ msg ∈ frames.map KissFrame.toBytes, msg ≠ [] := by
    intro msg hm
    obtain ⟨f, _, rfl⟩ := List.mem_map.mp hm
    exact List.cons_ne_nil _ _
  obtain ⟨hstate, hout⟩ := Scheme.feed_all_delimited escapeByte_escapes p.decoder hmsgs hmsg
  constructor
  · apply decoder_injective
    rw [foldl_next_decoder, flatMap_encodeKissFrame hcmd, hstate]
    rfl
  · rw [frames_ofBytes, flatMap_encodeKissFrame hcmd, hout, List.filterMap_append,
      ← pending_ofBytes, filterMap_ofBytes_toBytes]

/-- Encoded frames come back whole and in order from any parser state and through any chunking.
What the parser held in a frame is delivered first, as the opening FEND closes it. -/
theorem feed_encoded_frames {ε : Type} (p : KissParser) (frames : List KissFrame)
    (hne : frames ≠ []) (hcmd : ∀ f ∈ frames, f.command ≠ kissFend ∧ f.command ≠ kissFesc)
    (chunks : List (List UInt8))
    (hcut : chunks.flatten = frames.flatMap fun f => encodeKissFrame f.command f.payload) :
    (Effect.each (KissParser.feed KissParser.collect) chunks : Effect _ ε Unit).run (p, []) =
      (.ok (), (KissParser.opened, p.pending++frames)) := by
  obtain ⟨hp, hf⟩ := frames_encoded p hne hcmd
  rw [KissParser.feed_chunks_collect, hcut, List.nil_append, hp, hf]

/-- Noise that ended inside an escape, then two frames whose payloads mix all four special bytes,
cut in the middle of an escape. -/
theorem feed_encoded_frames_mixed :
    (Effect.each (KissParser.feed KissParser.collect)
      [[0xC0, 0x06, 0xDB], [0xDC, 0xDC, 0xDD, 0xC0, 0xC0, 0x00], [0xDB, 0xDD, 0xC0]] :
        Effect _ Empty Unit).run (⟨true, true, [0x01]⟩, []) =
      (.ok (), (KissParser.opened,
        [⟨0x01, []⟩, ⟨0x06, [0xC0, 0xDC, 0xDD]⟩, ⟨0x00, [0xDB]⟩])) :=
  feed_encoded_frames ⟨true, true, [0x01]⟩ [⟨0x06, [0xC0, 0xDC, 0xDD]⟩, ⟨0x00, [0xDB]⟩]
    (by decide) (by decide) _ (by decide)

/-- The incremental parser delivers exactly the frames of the grammar, in any chunking. -/
theorem feed_eq_kissGrammar {ε : Type} (chunks : List (List UInt8)) :
    ∃ p, (Effect.each (KissParser.feed KissParser.collect) chunks : Effect _ ε Unit).run
        (KissParser.init, []) = (.ok (), (p, kissGrammar chunks.flatten)) := by
  refine ⟨chunks.flatten.foldl KissParser.next KissParser.init, ?_⟩
  have hout := kissScheme.messages_outside (d := KissParser.init.decoder) rfl chunks.flatten
  have hg : (kissScheme.grammar chunks.flatten).filterMap KissFrame.ofBytes =
      kissGrammar chunks.flatten := by
    rw [Scheme.grammar, List.filterMap_filterMap]
    apply List.filterMap_congr
    intro piece _
    cases kissScheme.unescape piece <;> rfl
  rw [KissParser.feed_chunks_collect, frames_ofBytes, hout, hg, List.nil_append]

end Kv4p

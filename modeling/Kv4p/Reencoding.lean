import Kv4p.KissStream

/-! Which frames that the KISS decoder delivers the encoder can carry. The decoder undoes escapes in
the command as everywhere else, and the encoder writes the command without any. -/
namespace Kv4p
open Effects EscapedFraming

/-- The frames a fresh parser delivers. -/
def deliveredFrames (chunks : List (List UInt8)) : List KissFrame :=
  ((Effect.each (KissParser.feed KissParser.collect) chunks : Effect _ Empty Unit).run
    (KissParser.init, [])).2.2

/-- The encoded frame, fed to a fresh parser, is delivered as it was and nothing else is. -/
def ComesBack (f : KissFrame) : Prop := deliveredFrames [encodeKissFrame f.command f.payload] = [f]

instance (f : KissFrame) : Decidable (ComesBack f) := by
  unfold ComesBack
  infer_instance

theorem deliveredFrames_eq_frames (chunks : List (List UInt8)) :
    deliveredFrames chunks = KissParser.init.frames chunks.flatten := by
  rw [deliveredFrames, KissParser.feed_chunks_collect, List.nil_append]

theorem deliveredFrames_eq_grammar (chunks : List (List UInt8)) :
    deliveredFrames chunks = kissGrammar chunks.flatten := by
  obtain ⟨p, hrun⟩ := feed_eq_kissGrammar (ε := Empty) chunks
  rw [deliveredFrames, hrun]

/-- A frame is delivered for each piece of the stream that decodes to its bytes. -/
theorem mem_deliveredFrames {chunks : List (List UInt8)} {f : KissFrame} :
    f ∈ deliveredFrames chunks ↔
      ∃ piece ∈ kissScheme.pieces chunks.flatten, kissScheme.unescape piece = f.toBytes := by
  have hpieces : kissScheme.pieces chunks.flatten =
      (chunks.flatten.splitOn kissFend).tail.dropLast := rfl
  rw [deliveredFrames_eq_grammar, kissGrammar, List.mem_filterMap, hpieces]
  simp only [ofBytes_eq_some]

theorem comesBack_of_plain {f : KissFrame} (hfend : f.command ≠ kissFend)
    (hfesc : f.command ≠ kissFesc) : ComesBack f := by
  have hcmd : ∀ g ∈ [f], g.command ≠ kissFend ∧ g.command ≠ kissFesc := by
    intro g hg
    rw [List.mem_singleton.mp hg]
    exact ⟨hfend, hfesc⟩
  have hframes := (frames_encoded KissParser.init (List.cons_ne_nil f []) hcmd).2
  rw [List.flatMap_singleton] at hframes
  rw [ComesBack, deliveredFrames_eq_frames, List.flatten_singleton, hframes]
  rfl

/-- A command that is FEND or FESC is taken for what it stands for on the line. -/
theorem not_comesBack_of_special {f : KissFrame}
    (hspecial : f.command = kissFend ∨ f.command = kissFesc) : ¬ ComesBack f := by
  obtain ⟨buf, hlen, hmessages⟩ := Scheme.feed_raw_special escapeByte_escapes rfl
    KissParser.init.decoder hspecial f.payload
  have hencoded : encodeKissFrame f.command f.payload =
      kissScheme.delim :: f.command :: (f.payload.flatMap escapeByte++[kissScheme.delim]) := rfl
  have hnothing : Scheme.pending KissParser.init.decoder = none := rfl
  rw [ComesBack, deliveredFrames_eq_frames, List.flatten_singleton, frames_ofBytes, hencoded,
    hmessages, hnothing]
  intro h
  have hmem : f ∈ (Scheme.message buf).toList.filterMap KissFrame.ofBytes := by
    have hself : f ∈ [f] := List.mem_singleton_self f
    rwa [← h] at hself
  obtain ⟨msg, hmsg, hf⟩ := List.mem_filterMap.mp hmem
  have hbuf : msg = buf := by
    unfold Scheme.message at hmsg
    split at hmsg
    · cases hmsg
    · exact List.mem_singleton.mp hmsg
  -- The frame has one byte more than its payload, and what is delivered has not.
  rw [hbuf, ofBytes_eq_some] at hf
  rw [hf, KissFrame.toBytes, List.length_cons] at hlen
  omega

theorem comesBack_iff (f : KissFrame) :
    ComesBack f ↔ f.command ≠ kissFend ∧ f.command ≠ kissFesc := by
  constructor
  · intro h
    exact ⟨fun hfend => not_comesBack_of_special (Or.inl hfend) h,
      fun hfesc => not_comesBack_of_special (Or.inr hfesc) h⟩
  · rintro ⟨hfend, hfesc⟩
    exact comesBack_of_plain hfend hfesc

/-- In KISS an escape stands for FEND or FESC and nothing else. -/
theorem decodeEscape_special (c b : UInt8) (h : kissScheme.decodeEscape c = some b) :
    b = kissScheme.delim ∨ b = kissScheme.esc := by
  change (if c = kissTfend then some kissFend
    else if c = kissTfesc then some kissFesc else none) = some b at h
  split_ifs at h
  · exact Or.inl (Option.some.inj h).symm
  · exact Or.inr (Option.some.inj h).symm

theorem startsEscaped_of_piece {stream piece : List UInt8}
    (h : piece ∈ kissScheme.pieces stream) :
    kissScheme.startsEscaped piece = true ↔ ∃ f : KissFrame,
      kissScheme.unescape piece = f.toBytes ∧ (f.command = kissFend ∨ f.command = kissFesc) := by
  have hplain : kissScheme.delim ∉ piece :=
    kissScheme.delim_not_mem_splitOn (List.mem_of_mem_tail (List.dropLast_subset _ h))
  rw [kissScheme.startsEscaped_iff decodeEscape_special hplain]
  constructor
  · rintro ⟨command, payload, hbytes, hspecial⟩
    exact ⟨⟨command, payload⟩, hbytes, hspecial⟩
  · rintro ⟨f, hbytes, hspecial⟩
    exact ⟨f.command, f.payload, hbytes, hspecial⟩

/-- What the decoder delivers can be encoded again exactly if its command is neither FEND nor FESC.
So all that it delivers for a stream can be encoded again exactly if no piece of the stream between
two FENDs has an escape for its first byte. -/
theorem delivered_comes_back_iff (chunks : List (List UInt8)) :
    (∀ f ∈ deliveredFrames chunks, ComesBack f ↔ f.command ≠ kissFend ∧ f.command ≠ kissFesc) ∧
      ((∀ f ∈ deliveredFrames chunks, ComesBack f) ↔
        ∀ piece ∈ kissScheme.pieces chunks.flatten, kissScheme.startsEscaped piece = false) := by
  refine ⟨fun f _ => comesBack_iff f, ?_⟩
  constructor
  · intro hall piece hpiece
    rw [← Bool.not_eq_true, startsEscaped_of_piece hpiece]
    rintro ⟨f, hbytes, hspecial⟩
    exact not_comesBack_of_special hspecial (hall f (mem_deliveredFrames.mpr ⟨piece, hpiece, hbytes⟩))
  · intro hnone f hf
    obtain ⟨piece, hpiece, hbytes⟩ := mem_deliveredFrames.mp hf
    by_contra hlost
    have hspecial : f.command = kissFend ∨ f.command = kissFesc := by
      by_contra hplain
      exact hlost ((comesBack_iff f).mpr (not_or.mp hplain))
    have hstarts := (startsEscaped_of_piece hpiece).mpr ⟨f, hbytes, hspecial⟩
    rw [hnone piece hpiece] at hstarts
    cases hstarts

/-- The frame with command FEND and payload 41, in escapes: encoded again it is delivered as a frame
with command 41 and no payload. -/
theorem fend_command_lost :
    deliveredFrames [[0xC0, 0xDB, 0xDC, 0x41, 0xC0]] = [⟨0xC0, [0x41]⟩] ∧
      deliveredFrames [encodeKissFrame 0xC0 [0x41]] = [⟨0x41, []⟩] ∧
      ¬ ComesBack ⟨0xC0, [0x41]⟩ := by
  decide

end Kv4p

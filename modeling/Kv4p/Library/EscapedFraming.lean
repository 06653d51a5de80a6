import Mathlib.Data.List.Basic

/-! Frames between delimiters with an escape symbol: an incremental decoder, its grammar on whole
streams, and the encoder it inverts. -/
namespace EscapedFraming

variable {α : Type} [DecidableEq α]

/-- `decodeEscape` says which symbol stands after an escape for which; after any other symbol the
escape and the symbol are both dropped. -/
structure Scheme (α : Type) where
  delim : α
  esc : α
  decodeEscape : α → Option α

structure Decoder (α : Type) where
  inFrame : Bool
  escaped : Bool
  buf : List α

variable (S : Scheme α)

namespace Scheme

def opened : Decoder α := ⟨true, false, []⟩

def next (d : Decoder α) (b : α) : Decoder α :=
  if b = S.delim then opened
  else if d.inFrame = false then d
  else if d.escaped then { d with buf := d.buf++(S.decodeEscape b).toList, escaped := false }
  else if b = S.esc then { d with escaped := true }
  else { d with buf := d.buf++[b] }

/-- A message is what stands between two delimiters, unless it is empty. -/
def message (xs : List α) : Option (List α) := if xs = [] then none else some xs

/-- The message a delimiter would complete now. -/
def pending (d : Decoder α) : Option (List α) := if d.inFrame then message d.buf else none

/-- The messages a stream completes. -/
def messages (d : Decoder α) : List α → List (List α)
  | [] => []
  | b :: bs => (if b = S.delim then (pending d).toList else [])++messages (S.next d b) bs

/-- Undo the escapes of one piece, from left to right. -/
def unescape : List α → List α
  | [] => []
  | [b] => if b = S.esc then [] else [b]
  | b :: c :: rest =>
    if b = S.esc then (S.decodeEscape c).toList++unescape rest else b :: unescape (c :: rest)

/-- The pieces between the first and the last delimiter. -/
def pieces (stream : List α) : List (List α) := (stream.splitOn S.delim).tail.dropLast

def grammar (stream : List α) : List (List α) :=
  (S.pieces stream).filterMap fun piece => message (S.unescape piece)

theorem delim_not_mem_splitOn {stream piece : List α} (h : piece ∈ stream.splitOn S.delim) :
    S.delim ∉ piece := by
  induction stream generalizing piece with
  | nil =>
    have hnil : piece = [] := by simpa using h
    rw [hnil]
    exact List.not_mem_nil
  | cons b bs ih =>
    obtain ⟨first, rest, hsplit⟩ := List.exists_cons_of_ne_nil (List.splitOn_ne_nil S.delim bs)
    rw [hsplit] at ih
    rw [List.splitOn_cons_eq_if_modifyHead, hsplit] at h
    split at h
    · rcases List.mem_cons.mp h with rfl | h
      · exact List.not_mem_nil
      · exact ih h
    · rename_i hb
      rcases List.mem_cons.mp h with rfl | h
      · have hne : S.delim ≠ b := fun he => hb (beq_iff_eq.mpr he.symm)
        exact List.not_mem_cons_of_ne_of_not_mem hne (ih List.mem_cons_self)
      · exact ih (List.mem_cons_of_mem first h)

/-- What is left of the piece starts with a symbol that an escape stood for. -/
def startsEscaped : List α → Bool
  | b :: c :: rest =>
    if b = S.esc then (S.decodeEscape c).isSome || startsEscaped rest else false
  | _ => false

/-- If escapes stand for the two special symbols only, these are the pieces that decode to a message
with a special symbol in front. -/
theorem startsEscaped_iff
    (hdec : ∀ c b, S.decodeEscape c = some b → b = S.delim ∨ b = S.esc)
    {piece : List α} (hp : S.delim ∉ piece) :
    S.startsEscaped piece = true ↔
      ∃ first rest, S.unescape piece = first :: rest ∧ (first = S.delim ∨ first = S.esc) := by
  induction piece using unescape.induct S with
  | case1 => simp [startsEscaped, unescape]
  | case2 => simp [startsEscaped, unescape]
  | case3 b hb =>
    have hne : b ≠ S.delim := fun he => hp (he ▸ List.mem_cons_self)
    simp [startsEscaped, unescape, hb, hne]
  | case4 c rest ih =>
    have hrest : S.delim ∉ rest := fun hm =>
      hp (List.mem_cons_of_mem _ (List.mem_cons_of_mem c hm))
    rw [startsEscaped, if_pos rfl, unescape, if_pos rfl]
    cases hc : S.decodeEscape c with
    | none => simpa using ih hrest
    | some b => simpa using hdec c b hc
  | case5 b c rest hb ih =>
    have hne : b ≠ S.delim := fun he => hp (he ▸ List.mem_cons_self)
    rw [startsEscaped, if_neg hb, unescape, if_neg hb]
    simp [hne, hb]

/-- Undo escapes from a position just after an escape symbol (`true`) or not. -/
def unescapeFrom : Bool → List α → List α
  | _, [] => []
  | true, b :: rest => (S.decodeEscape b).toList++unescapeFrom false rest
  | false, b :: rest =>
    if b = S.esc then unescapeFrom true rest else b :: unescapeFrom false rest

theorem unescapeFrom_false (xs : List α) : S.unescapeFrom false xs = S.unescape xs := by
  induction xs using unescape.induct S with
  | case1 => rfl
  | case2 => simp [unescapeFrom, unescape]
  | case3 b hb => simp [unescapeFrom, unescape, hb]
  | case4 c rest ih => simp [unescapeFrom, unescape, ih]
  | case5 b c rest hb ih =>
    rw [unescapeFrom, if_neg hb, unescape, if_neg hb, ih]

/-- What the pieces of a stream complete, for a decoder in a frame: its buffer goes in front of the
first piece, and the last piece stays open. -/
def completed (d : Decoder α) : List (List α) → List (List α)
  | [] => []
  | piece :: rest =>
    if rest = [] then []
    else (message (d.buf++S.unescapeFrom d.escaped piece)).toList++
      rest.dropLast.filterMap fun q => message (S.unescape q)

theorem completed_opened (ps : List (List α)) :
    S.completed opened ps = ps.dropLast.filterMap fun q => message (S.unescape q) := by
  cases ps with
  | nil => rfl
  | cons p rest =>
    by_cases hr : rest = []
    · simp [completed, hr]
    · have hd : (p :: rest).dropLast = p :: rest.dropLast := List.dropLast_cons_of_ne_nil hr
      simp only [completed, hr, ↓reduceIte, opened, List.nil_append, unescapeFrom_false, hd,
        List.filterMap_cons]
      cases message (S.unescape p) <;> rfl

/-- A symbol other than the delimiter moves from the front of the piece into the decoder. -/
theorem completed_next {d : Decoder α} {b : α} (hb : b ≠ S.delim) (hin : d.inFrame = true)
    (piece : List α) (rest : List (List α)) :
    S.completed d ((b :: piece) :: rest) = S.completed (S.next d b) (piece :: rest) := by
  have hbuf : d.buf++S.unescapeFrom d.escaped (b :: piece) =
      (S.next d b).buf++S.unescapeFrom (S.next d b).escaped piece := by
    by_cases hesc : d.escaped = true
    · simp [next, hb, hin, hesc, unescapeFrom]
    · by_cases he : b = S.esc
      · simp [next, hin, hesc, unescapeFrom, he]
        simp [show S.esc ≠ S.delim from he ▸ hb]
      · simp [next, hb, hin, hesc, unescapeFrom, he]
  simp only [completed, hbuf]

theorem next_inFrame {d : Decoder α} (hin : d.inFrame = true) (b : α) :
    (S.next d b).inFrame = true := by
  unfold next
  split_ifs <;> first | rfl | assumption

/-- In a frame, the decoder completes what the grammar reads off the pieces. -/
theorem messages_inFrame {d : Decoder α} (hin : d.inFrame = true) (stream : List α) :
    S.messages d stream = S.completed d (stream.splitOn S.delim) := by
  -- The decoder varies along the stream: what it holds is the front of the first piece.
  induction stream generalizing d with
  | nil => rfl
  | cons b bs ih =>
    rw [messages, List.splitOn_cons_eq_if_modifyHead]
    by_cases hb : b = S.delim
    · -- A delimiter closes the first piece and starts on the second with nothing held.
      have hnext : S.next d b = opened := by simp [next, hb]
      have hne : bs.splitOn S.delim ≠ [] := List.splitOn_ne_nil S.delim bs
      rw [hnext, @ih opened rfl, completed_opened]
      simp [hb, completed, hne, pending, hin, unescapeFrom]
    · obtain ⟨piece, rest, hsplit⟩ := List.exists_cons_of_ne_nil (List.splitOn_ne_nil S.delim bs)
      have hstep := S.completed_next hb hin piece rest
      rw [ih (S.next_inFrame hin b), hsplit]
      simp [hb, hstep]

/-- Outside a frame everything up to the first delimiter is dropped. -/
theorem messages_outside {d : Decoder α} (hin : d.inFrame = false) (stream : List α) :
    S.messages d stream = S.grammar stream := by
  induction stream with
  | nil => rfl
  | cons b bs ih =>
    rw [messages, grammar, pieces, List.splitOn_cons_eq_if_modifyHead]
    by_cases hb : b = S.delim
    · have hnext : S.next d b = opened := by simp [next, hb]
      rw [hnext, S.messages_inFrame rfl, completed_opened]
      simp [hb, pending, hin]
    · have hnext : S.next d b = d := by simp [next, hb, hin]
      obtain ⟨piece, rest, hsplit⟩ := List.exists_cons_of_ne_nil (List.splitOn_ne_nil S.delim bs)
      rw [hnext, ih, grammar, pieces, hsplit]
      simp [hb]

theorem messages_append (d : Decoder α) (xs ys : List α) :
    S.messages d (xs++ys) = S.messages d xs++S.messages (xs.foldl S.next d) ys := by
  induction xs generalizing d with
  | nil => rfl
  | cons b xs ih =>
    simp only [List.cons_append, messages, List.foldl_cons, ih, List.append_assoc]

/-- `escape` writes a symbol as one or two symbols that decode to it and contain no delimiter. -/
structure Escapes (escape : α → List α) : Prop where
  plain : ∀ b, b ≠ S.delim → b ≠ S.esc → escape b = [b]
  coded : ∀ b, b = S.delim ∨ b = S.esc →
    ∃ c, escape b = [S.esc, c] ∧ c ≠ S.delim ∧ S.decodeEscape c = some b
  esc_ne : S.esc ≠ S.delim

variable {S}

/-- An escaped symbol goes into the buffer as itself and completes nothing. -/
theorem feed_escape {escape : α → List α} (he : S.Escapes escape) (buf : List α) (b : α) :
    (escape b).foldl S.next ⟨true, false, buf⟩ = ⟨true, false, buf++[b]⟩ ∧
      S.messages ⟨true, false, buf⟩ (escape b) = [] := by
  by_cases hb : b = S.delim ∨ b = S.esc
  · -- Two symbols: the first only sets the flag, the second is decoded.
    obtain ⟨c, hc, hne, hdec⟩ := he.coded b hb
    simp [hc, next, he.esc_ne, hne, hdec, messages]
  · have hd : b ≠ S.delim := fun h => hb (Or.inl h)
    have hs : b ≠ S.esc := fun h => hb (Or.inr h)
    simp [he.plain b hd hs, next, hd, hs, messages]

theorem feed_body {escape : α → List α} (he : S.Escapes escape) (buf msg : List α) :
    (msg.flatMap escape).foldl S.next ⟨true, false, buf⟩ = ⟨true, false, buf++msg⟩ ∧
      S.messages ⟨true, false, buf⟩ (msg.flatMap escape) = [] := by
  induction msg generalizing buf with
  | nil => simp [messages]
  | cons b msg ih =>
    obtain ⟨hstate, hnone⟩ := feed_escape he buf b
    obtain ⟨hstate', hnone'⟩ := ih (buf++[b])
    rw [List.flatMap_cons, List.foldl_append, messages_append, hstate, hnone]
    rw [List.append_assoc] at hstate'
    exact ⟨hstate', hnone'⟩

/-- Of a body that breaks off anywhere the buffer has a prefix of the message. -/
theorem feed_torn_body {escape : α → List α} (he : S.Escapes escape) (buf msg : List α) (n : ℕ) :
    ∃ k escaped, ((msg.flatMap escape).take n).foldl S.next ⟨true, false, buf⟩ =
        ⟨true, escaped, buf++msg.take k⟩ ∧
      S.messages ⟨true, false, buf⟩ ((msg.flatMap escape).take n) = [] := by
  induction msg generalizing buf n with
  | nil => exact ⟨0, false, by simp [messages]⟩
  | cons b msg ih =>
    rw [List.flatMap_cons, List.take_append]
    by_cases hn : (escape b).length ≤ n
    · -- The whole of the first symbol went out, and something of the rest.
      obtain ⟨hstate, hnone⟩ := feed_escape he buf b
      obtain ⟨k, escaped, hstate', hnone'⟩ := ih (buf++[b]) (n-(escape b).length)
      refine ⟨k+1, escaped, ?_⟩
      rw [List.take_of_length_le hn, List.foldl_append, messages_append, hstate, hnone]
      rw [List.append_assoc] at hstate'
      exact ⟨hstate', hnone'⟩
    · have hrest : n-(escape b).length = 0 := Nat.sub_eq_zero_of_le (Nat.le_of_not_le hn)
      rw [hrest, List.take_zero, List.append_nil]
      by_cases hb : b = S.delim ∨ b = S.esc
      · obtain ⟨c, hc, _⟩ := he.coded b hb
        rw [hc] at hn ⊢
        match n with
        | 0 => exact ⟨0, false, by simp [messages]⟩
        | 1 => exact ⟨0, true, by simp [messages, next, he.esc_ne]⟩
        | n+2 => exact absurd (Nat.le_add_left 2 n) hn
      · have hplain := he.plain b (fun h => hb (Or.inl h)) fun h => hb (Or.inr h)
        rw [hplain] at hn ⊢
        have hzero : n = 0 := Nat.lt_one_iff.mp (Nat.lt_of_not_le hn)
        subst hzero
        exact ⟨0, false, by simp [messages]⟩

/-- A delimited message, from any decoder state: the pending message comes first, then the message
itself, and the decoder is left at the start of a frame. -/
theorem feed_delimited {escape : α → List α} (he : S.Escapes escape) (d : Decoder α)
    {msg : List α} (hne : msg ≠ []) :
    (S.delim :: (msg.flatMap escape++[S.delim])).foldl S.next d = opened ∧
      S.messages d (S.delim :: (msg.flatMap escape++[S.delim])) =
        (pending d).toList++[msg] := by
  have hopen : S.next d S.delim = opened := by simp [next]
  obtain ⟨hstate, hnone⟩ := feed_body he [] msg
  rw [List.foldl_cons, List.foldl_append, messages, hopen, messages_append]
  change (msg.flatMap escape).foldl S.next opened = ⟨true, false, []++msg⟩ at hstate
  change S.messages opened (msg.flatMap escape) = [] at hnone
  rw [hstate, hnone]
  simp [next, messages, pending, message, hne]

/-- Any non-empty list of delimited messages comes back whole and in order. -/
theorem feed_all_delimited {escape : α → List α} (he : S.Escapes escape) (d : Decoder α)
    {msgs : List (List α)} (hne : msgs ≠ []) (hmsg : ∀ msg ∈ msgs, msg ≠ []) :
    (msgs.flatMap fun msg => S.delim :: (msg.flatMap escape++[S.delim])).foldl S.next d =
        opened ∧
      S.messages d (msgs.flatMap fun msg => S.delim :: (msg.flatMap escape++[S.delim])) =
        (pending d).toList++msgs := by
  induction msgs generalizing d with
  | nil => exact absurd rfl hne
  | cons msg msgs ih =>
    obtain ⟨hstate, hmsgs⟩ := feed_delimited he d (hmsg msg List.mem_cons_self)
    rw [List.flatMap_cons, List.foldl_append, messages_append, hstate, hmsgs]
    by_cases hlast : msgs = []
    · subst hlast
      simp [messages]
    · obtain ⟨hstate', hmsgs'⟩ :=
        ih opened hlast (fun m hm => hmsg m (List.mem_cons_of_mem msg hm))
      refine ⟨hstate', ?_⟩
      rw [hmsgs']
      simp [pending, opened, message]

/-- A delimited message whose first symbol is special and goes out as it is: whatever the decoder
makes of it, the first symbol is lost. -/
theorem feed_raw_special {escape : α → List α} (he : S.Escapes escape)
    (hesc : S.decodeEscape S.esc = none) (d : Decoder α) {first : α}
    (hfirst : first = S.delim ∨ first = S.esc) (rest : List α) :
    ∃ buf, buf.length ≤ rest.length ∧
      S.messages d (S.delim :: first :: (rest.flatMap escape++[S.delim])) =
        (pending d).toList++(message buf).toList := by
  have hopen (d : Decoder α) : S.next d S.delim = opened := by simp [next]
  have hbody (buf msg : List α) : S.messages ⟨true, false, buf⟩ (msg.flatMap escape++[S.delim]) =
      (message (buf++msg)).toList := by
    obtain ⟨hstate, hnone⟩ := feed_body he buf msg
    rw [messages_append, hstate, hnone]
    simp [messages, pending]
  rcases hfirst with rfl | rfl
  · refine ⟨rest, Nat.le_refl _, ?_⟩
    have hrest := hbody [] rest
    rw [messages, if_pos rfl, messages, if_pos rfl, hopen, hopen]
    simpa [pending, opened, message] using hrest
  · have hstate : S.next opened S.esc = ⟨true, true, []⟩ := by simp [next, opened, he.esc_ne]
    have hstart : S.messages d (S.delim :: S.esc :: (rest.flatMap escape++[S.delim])) =
        (pending d).toList++S.messages ⟨true, true, []⟩ (rest.flatMap escape++[S.delim]) := by
      rw [messages, if_pos rfl, messages, if_neg he.esc_ne, hopen, hstate, List.nil_append]
    rw [hstart]
    cases rest with
    | nil => exact ⟨[], Nat.le_refl _, by simp [messages, pending]⟩
    | cons b bs =>
      by_cases hb : b = S.delim ∨ b = S.esc
      · obtain ⟨c, hc, hne, hdec⟩ := he.coded b hb
        have hplain : c ≠ S.esc := by
          rintro rfl
          rw [hesc] at hdec
          cases hdec
        refine ⟨c :: bs, by simp, ?_⟩
        have hrest := hbody [c] bs
        simpa [List.flatMap_cons, hc, messages, next, he.esc_ne, hesc, hne, hplain] using hrest
      · have hd : b ≠ S.delim := fun h => hb (Or.inl h)
        have hs : b ≠ S.esc := fun h => hb (Or.inr h)
        refine ⟨(S.decodeEscape b).toList++bs, ?_, ?_⟩
        · cases S.decodeEscape b <;> simp
        · have hrest := hbody (S.decodeEscape b).toList bs
          simpa [List.flatMap_cons, he.plain b hd hs, messages, next, hd] using hrest

end Scheme

end EscapedFraming

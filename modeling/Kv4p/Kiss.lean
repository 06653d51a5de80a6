import Kv4p.Constants
import Kv4p.Library.Effect

/-! KISS framing: the incremental parser and the encoder. -/
namespace Kv4p
open Effects

structure KissFrame where
  command : UInt8
  payload : List UInt8
deriving DecidableEq, Repr

structure KissParser where
  inFrame : Bool
  escaped : Bool
  buf : List UInt8
deriving DecidableEq, Repr

namespace KissParser

def init : KissParser := ⟨false, false, []⟩

/-- Where every FEND leaves the parser. -/
def opened : KissParser := ⟨true, false, []⟩

variable {σ ε : Type}

/-- One byte of input. If the frame callback raises, the parser is left as it was: the buffer is
cleared only after the hand-off. -/
def feedByte (onFrame : UInt8 → List UInt8 → Effect σ ε Unit) (byte : UInt8) :
    Effect (KissParser × σ) ε Unit := do
  let (p, _) ← Effect.read
  if byte = kissFend then
    -- An empty frame, as between two FENDs in a row, is not delivered.
    match p.inFrame, p.buf with
    | true, command :: payload => Effect.onSnd (onFrame command payload)
    | _, _ => pure ()
    Effect.update (fun (_, s) => (opened, s))
  else if p.inFrame = false then
    pure ()
  else if p.escaped then
    -- A byte that no escape stands for is dropped together with its FESC.
    let unescaped :=
      if byte = kissTfend then [kissFend] else if byte = kissTfesc then [kissFesc] else []
    Effect.update (fun (p, s) => ({ p with buf := p.buf++unescaped, escaped := false }, s))
  else if byte = kissFesc then
    Effect.update (fun (p, s) => ({ p with escaped := true }, s))
  else
    Effect.update (fun (p, s) => ({ p with buf := p.buf++[byte] }, s))

def feed (onFrame : UInt8 → List UInt8 → Effect σ ε Unit) (data : List UInt8) :
    Effect (KissParser × σ) ε Unit :=
  Effect.each (feedByte onFrame) data

/-- The frame callback that appends to a list and never raises. -/
def collect (command : UInt8) (payload : List UInt8) : Effect (List KissFrame) ε Unit :=
  Effect.update (·++[⟨command, payload⟩])

end KissParser

/-- The encoder escapes the payload; the command byte goes out as it is. -/
def escapeByte (byte : UInt8) : List UInt8 :=
  if byte = kissFend then [kissFesc, kissTfend]
  else if byte = kissFesc then [kissFesc, kissTfesc]
  else [byte]

def encodeKissFrame (command : UInt8) (payload : List UInt8) : List UInt8 :=
  [kissFend, command]++payload.flatMap escapeByte++[kissFend]

namespace KissParser

/-- The frame a FEND would deliver now. -/
def pending (p : KissParser) : List KissFrame :=
  match p.inFrame, p.buf with
  | true, command :: payload => [⟨command, payload⟩]
  | _, _ => []

/-- The parser after one byte. -/
def next (p : KissParser) (byte : UInt8) : KissParser :=
  if byte = kissFend then opened
  else if p.inFrame = false then p
  else if p.escaped then
    { p with
      buf := p.buf++(if byte = kissTfend then [kissFend]
        else if byte = kissTfesc then [kissFesc] else [])
      escaped := false }
  else if byte = kissFesc then { p with escaped := true }
  else { p with buf := p.buf++[byte] }

/-- The frames one byte delivers. -/
def delivered (p : KissParser) (byte : UInt8) : List KissFrame :=
  if byte = kissFend then p.pending else []

/-- Call the callback with a frame. -/
def handTo {σ ε : Type} (onFrame : UInt8 → List UInt8 → Effect σ ε Unit) (f : KissFrame) :
    Effect σ ε Unit :=
  onFrame f.command f.payload

/-- Inside a frame and outside, every byte but FEND only moves the parser. -/
theorem feedByte_inside {σ ε : Type} (onFrame : UInt8 → List UInt8 → Effect σ ε Unit)
    {byte : UInt8} (hfend : byte ≠ kissFend) (p : KissParser) (s : σ) :
    (feedByte onFrame byte).run (p, s) = (.ok (), (p.next byte, s)) := by
  unfold feedByte next
  by_cases hin : p.inFrame = false
  · simp [hfend, hin]
  · by_cases hesc : p.escaped = true
    · simp [hfend, hin, hesc]
    · by_cases hfesc : byte = kissFesc
      · subst hfesc
        simp [hfend, hin, hesc]
      · simp [hfend, hin, hesc, hfesc]

/-- FEND hands over what is pending, and clears the parser if the callback returns. -/
theorem feedByte_fend {σ ε : Type} (onFrame : UInt8 → List UInt8 → Effect σ ε Unit)
    (p : KissParser) (s : σ) :
    (feedByte onFrame kissFend).run (p, s) =
      Effect.andThen (((Effect.each (handTo onFrame) p.pending).run s).1,
        (p, ((Effect.each (handTo onFrame) p.pending).run s).2))
        fun _ => Effect.update fun (_, s) => (opened, s) := by
  obtain ⟨inFrame, escaped, buf⟩ := p
  match inFrame, buf with
  | false, [] => rfl
  | false, _ :: _ => rfl
  | true, [] => rfl
  | true, command :: payload =>
    have hone := Effect.each_singleton_run (handTo onFrame) ⟨command, payload⟩ s
    have hpending : pending ⟨true, escaped, command :: payload⟩ = [⟨command, payload⟩] := rfl
    rw [hpending, hone]
    rfl

/-- Collecting frames, a byte never raises: it moves the parser and delivers its frames. -/
theorem feedByte_collect {ε : Type} (p : KissParser) (seen : List KissFrame) (byte : UInt8) :
    (feedByte collect byte : Effect _ ε Unit).run (p, seen) =
      (.ok (), (p.next byte, seen++p.delivered byte)) := by
  by_cases hfend : byte = kissFend
  · have hcollect : (Effect.each (handTo collect) p.pending : Effect _ ε Unit).run seen =
        (.ok (), seen++p.pending) := by
      obtain ⟨inFrame, escaped, buf⟩ := p
      cases inFrame <;> cases buf <;> simp [pending, handTo, collect]
    rw [hfend, feedByte_fend, hcollect, delivered, if_pos rfl, next, if_pos rfl]
    rfl
  · rw [feedByte_inside collect hfend, delivered, if_neg hfend, List.append_nil]

/-- The frames a byte string delivers. -/
def frames (p : KissParser) : List UInt8 → List KissFrame
  | [] => []
  | byte :: data => p.delivered byte++(p.next byte).frames data

theorem feed_collect {ε : Type} (p : KissParser) (seen : List KissFrame) (data : List UInt8) :
    (feed collect data : Effect _ ε Unit).run (p, seen) =
      (.ok (), (data.foldl next p, seen++p.frames data)) := by
  induction data generalizing p seen with
  | nil => simp [feed, frames]
  | cons byte data ih =>
    have hb := feedByte_collect (ε := ε) p seen byte
    have ih' := ih (p.next byte) (seen++p.delivered byte)
    rw [feed] at ih' ⊢
    rw [Effect.each_cons_run, hb, Effect.andThen_ok, ih']
    simp only [List.foldl_cons, frames, List.append_assoc]

theorem frames_append (p : KissParser) (xs ys : List UInt8) :
    p.frames (xs++ys) = p.frames xs++(xs.foldl next p).frames ys := by
  induction xs generalizing p with
  | nil => rfl
  | cons byte xs ih => simp only [List.cons_append, frames, List.foldl_cons, ih, List.append_assoc]

/-- How the stream is cut into chunks makes no difference. -/
theorem feed_chunks_collect {ε : Type} (p : KissParser) (seen : List KissFrame)
    (chunks : List (List UInt8)) :
    (Effect.each (feed collect) chunks : Effect _ ε Unit).run (p, seen) =
      (.ok (), (chunks.flatten.foldl next p, seen++p.frames chunks.flatten)) := by
  induction chunks generalizing p seen with
  | nil => simp [frames]
  | cons data chunks ih =>
    have hd := feed_collect (ε := ε) p seen data
    rw [Effect.each_cons_run, hd, Effect.andThen_ok, ih]
    simp only [List.flatten_cons, List.foldl_append, frames_append, List.append_assoc]

end KissParser

end Kv4p

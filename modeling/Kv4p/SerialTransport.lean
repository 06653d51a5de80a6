import Kv4p.DummyTransport
import Kv4p.SerialWrites

/-! The serial transport: the bytes it writes, and the loop that reads bytes and hands frames to the
radio. Its `try` covers the read alone, so what the callback of the parser raises ends the loop. -/
namespace Kv4p
open Effects Transitions

variable {F σ ε : Type}

/-- The frame of a `write_frame`, and whether it returned. -/
def Event.write : Event F → Option (KissFrame × Bool)
  | .transport (.writeFrame command payload) returned => some (⟨command, payload⟩, returned)
  | _ => none

/-- A `write_frame` in the write lock. If it raises, `cut` of its bytes have gone out. -/
def writeSection (cut : ℕ) (write : KissFrame × Bool) : WriteSection :=
  let job := WriteJob.writeFrame write.1
  ⟨0, job, if write.2 then job.bytes.length else min cut job.bytes.length, write.2⟩

/-- The `write_frame` calls of a log, the `n`-th with `cut n` of its bytes if it raised. -/
def writeSections (cut : ℕ → ℕ) (log : List (Event F)) : List WriteSection :=
  (log.filterMap Event.write).mapIdx fun n => writeSection (cut n)

/-- The bytes on the line after a run, from its log. -/
def serialLine (cut : ℕ → ℕ) (log : List (Event F)) : List UInt8 :=
  (writeSections cut log).flatMap WriteSection.bytes

variable [PyFloat F]

/-- The frame callback of the radio, with a list of the frames it was called with. -/
def onFrame (env : Environment F) (command : UInt8) (payload : List UInt8) :
    Effect (List KissFrame × World F) (PyError F) Unit := do
  Effect.update fun (frames, w) => (frames++[⟨command, payload⟩], w)
  Effect.onSnd (onKissFrame env command payload)

/-- `_read_loop` on what the reads return, one after the other. A read that times out returns
nothing. If the loop raises, its thread is gone. -/
def readLoop (env : Environment F) (reads : List (List UInt8)) :
    Effect (KissParser × List KissFrame × World F) (PyError F) Unit :=
  Effect.each (fun data => if data = [] then pure () else KissParser.feed (onFrame env) data) reads

/-- `m` calls the callback as `k` does, raises what `k` raises, and takes the parser from `p` to `q`
if it returns. -/
structure Delivers (m : Effect (KissParser × σ) ε Unit) (p q : KissParser)
    (k : Effect σ ε Unit) : Prop where
  result : ∀ s, (m.run (p, s)).1 = (k.run s).1
  state : ∀ s, (m.run (p, s)).2.2 = (k.run s).2
  parser : ∀ s, (k.run s).1 = .ok () → (m.run (p, s)).2.1 = q

namespace Delivers

omit [PyFloat F]

theorem bind {m m' : Effect (KissParser × σ) ε Unit} {p q r : KissParser} {k k' : Effect σ ε Unit}
    (h : Delivers m p q k) (h' : Delivers m' q r k') :
    Delivers (m >>= fun _ => m') p r (k >>= fun _ => k') := by
  have hrun (s : σ) : (∃ e, (k.run s).1 = .error e ∧ (m.run (p, s)).1 = .error e) ∨
      ((k.run s).1 = .ok () ∧ (m.run (p, s)).1 = .ok () ∧
        (m.run (p, s)).2 = (q, (k.run s).2)) := by
    cases hk : (k.run s).1 with
    | error e => exact Or.inl ⟨e, rfl, (h.result s).trans hk⟩
    | ok _ =>
      exact Or.inr ⟨rfl, (h.result s).trans hk, Prod.ext (h.parser s hk) (h.state s)⟩
  constructor
  · intro s
    rw [Effect.bind_run, Effect.bind_run]
    rcases hrun s with ⟨e, hk, hm⟩ | ⟨hk, hm, hs⟩
    · rw [Effect.andThen_of_error hk, Effect.andThen_of_error hm]
    · rw [Effect.andThen_of_ok hk, Effect.andThen_of_ok hm, hs]
      exact h'.result _
  · intro s
    rw [Effect.bind_run, Effect.bind_run]
    rcases hrun s with ⟨e, hk, hm⟩ | ⟨hk, hm, hs⟩
    · rw [Effect.andThen_of_error hk, Effect.andThen_of_error hm]
      exact h.state s
    · rw [Effect.andThen_of_ok hk, Effect.andThen_of_ok hm, hs]
      exact h'.state _
  · intro s
    rw [Effect.bind_run, Effect.bind_run]
    rcases hrun s with ⟨e, hk, hm⟩ | ⟨hk, hm, hs⟩
    · rw [Effect.andThen_of_error hk]
      intro hok
      cases hok
    · rw [Effect.andThen_of_ok hk, Effect.andThen_of_ok hm, hs]
      exact h'.parser _

theorem append {callback : UInt8 → List UInt8 → Effect σ ε Unit}
    {m m' : Effect (KissParser × σ) ε Unit} {p q r : KissParser} {fs gs : List KissFrame}
    (h : Delivers m p q (Effect.each (KissParser.handTo callback) fs))
    (h' : Delivers m' q r (Effect.each (KissParser.handTo callback) gs)) :
    Delivers (m >>= fun _ => m') p r (Effect.each (KissParser.handTo callback) (fs++gs)) := by
  have hb := h.bind h'
  constructor
  · intro s
    rw [Effect.each_append_run]
    exact hb.result s
  · intro s
    rw [Effect.each_append_run]
    exact hb.state s
  · intro s
    rw [Effect.each_append_run]
    exact hb.parser s

end Delivers

omit [PyFloat F]

theorem delivers_nothing {callback : UInt8 → List UInt8 → Effect σ ε Unit}
    {m : Effect (KissParser × σ) ε Unit} {p q : KissParser}
    (h : ∀ s, m.run (p, s) = (.ok (), (q, s))) :
    Delivers m p q (Effect.each (KissParser.handTo callback) []) := by
  constructor
  · intro s
    rw [h]
    rfl
  · intro s
    rw [h]
    rfl
  · intro s _
    rw [h]

theorem delivers_feedByte (callback : UInt8 → List UInt8 → Effect σ ε Unit) (p : KissParser)
    (byte : UInt8) : Delivers (KissParser.feedByte callback byte) p (p.next byte)
      (Effect.each (KissParser.handTo callback) (p.delivered byte)) := by
  by_cases hfend : byte = kissFend
  · subst hfend
    have hnext : p.next kissFend = KissParser.opened := if_pos rfl
    have hdelivered : p.delivered kissFend = p.pending := if_pos rfl
    rw [hnext, hdelivered]
    -- The buffer is cleared after the hand-off, so only if it did not raise.
    constructor
    all_goals
      intro s
      rw [KissParser.feedByte_fend]
      cases ((Effect.each (KissParser.handTo callback) p.pending).run s).1 with
      | ok _ => simp
      | error e => simp
  · have hnone : p.delivered byte = [] := if_neg hfend
    rw [hnone]
    exact delivers_nothing fun s => KissParser.feedByte_inside callback hfend p s

theorem delivers_feed (callback : UInt8 → List UInt8 → Effect σ ε Unit) (p : KissParser)
    (data : List UInt8) : Delivers (KissParser.feed callback data) p (data.foldl KissParser.next p)
      (Effect.each (KissParser.handTo callback) (p.frames data)) := by
  induction data generalizing p with
  | nil => exact delivers_nothing fun _ => rfl
  | cons byte data ih => exact (delivers_feedByte callback p byte).append (ih (p.next byte))

/-- The loop calls the radio with the frames of all that was read, up to the first call that
raises. -/
theorem delivers_readLoop [PyFloat F] (env : Environment F) (p : KissParser)
    (reads : List (List UInt8)) :
    Delivers (readLoop env reads) p (reads.flatten.foldl KissParser.next p)
      (Effect.each (KissParser.handTo (onFrame env)) (p.frames reads.flatten)) := by
  induction reads generalizing p with
  | nil => exact delivers_nothing fun _ => rfl
  | cons data reads ih =>
    rw [List.flatten_cons, List.foldl_append, KissParser.frames_append]
    refine Delivers.append ?_ (ih (data.foldl KissParser.next p))
    by_cases hempty : data = []
    · -- A read that times out returns nothing and is skipped.
      subst hempty
      exact delivers_nothing fun _ => rfl
    · simp only [hempty, if_false]
      exact delivers_feed (onFrame env) p data

end Kv4p

import Kv4p.KissStream
import Kv4p.Library.Transition

/-! Threads that write frames, reset and flush under the write lock of the serial transport, while the
port is opened and closed without that lock and every write may break off after any byte. -/
namespace Kv4p
open EscapedFraming Transitions

/-- What a thread does with the write lock. -/
inductive WriteJob
  | writeFrame (frame : KissFrame)
  | reset
  | flush
deriving DecidableEq

/-- The bytes a job puts on the line. Pulses of the control lines are no bytes. -/
def WriteJob.bytes : WriteJob → List UInt8
  | writeFrame f => encodeKissFrame f.command f.payload
  | reset => []
  | flush => []

/-- `flush` does not look whether the port is open. -/
def WriteJob.checksPort : WriteJob → Bool
  | writeFrame _ => true
  | reset => true
  | flush => false

/-- A stay in the write lock, with the number of its bytes that went out. -/
structure WriteSection where
  thread : ℕ
  job : WriteJob
  sent : ℕ
  returned : Bool
deriving DecidableEq

/-- `checked` says whether the thread in the lock has found the port open. -/
structure SerialLine where
  isOpen : Bool
  busy : Option WriteSection
  checked : Bool
  past : List WriteSection
  line : List UInt8
deriving DecidableEq

/-- What happens next. The thread in the lock looks whether the port is open, sends its next byte,
returns, or raises; the port is opened or closed by whoever calls. -/
inductive LineEvent
  | enter (thread : ℕ) (job : WriteJob)
  | check
  | send
  | finish
  | fail
  | open
  | close
deriving DecidableEq

namespace SerialLine

def init : SerialLine := ⟨false, none, false, [], []⟩

/-- The thread in the lock gives it back. -/
def leave (s : SerialLine) (x : WriteSection) (returned : Bool) : SerialLine :=
  { s with busy := none, checked := false, past := s.past++[{ x with returned := returned }] }

def step (s : SerialLine) : LineEvent → Option SerialLine
  | .enter thread job =>
    match s.busy with
    | none => some { s with busy := some ⟨thread, job, 0, false⟩, checked := false }
    | some _ => none
  | .check =>
    match s.busy, s.checked with
    | some x, false =>
      if x.job.checksPort && !s.isOpen then some (s.leave x false)
      else some { s with checked := true }
    | _, _ => none
  | .send =>
    match s.busy, s.checked with
    | some x, true =>
      match x.job.bytes[x.sent]? with
      | some byte => some { s with busy := some { x with sent := x.sent+1 }, line := s.line++[byte] }
      | none => none
    | _, _ => none
  | .finish =>
    match s.busy, s.checked with
    | some x, true => if x.sent = x.job.bytes.length then some (s.leave x true) else none
    | _, _ => none
  | .fail =>
    match s.busy, s.checked with
    | some x, true => some (s.leave x false)
    | _, _ => none
  | .open => some { s with isOpen := true }
  | .close => some { s with isOpen := false }

/-- All stays in the lock, in order. -/
def sections (s : SerialLine) : List WriteSection := s.past++s.busy.toList

end SerialLine

def WriteSection.bytes (x : WriteSection) : List UInt8 := x.job.bytes.take x.sent

/-- What comes in at the other end for one stay in the lock: the frame, or what is left of it when it
broke off. -/
def WriteSection.seen (x : WriteSection) : List KissFrame :=
  match x.job with
  | .writeFrame f =>
    if x.sent = x.job.bytes.length then [f]
    else (x.bytes.foldl KissParser.next KissParser.init).pending
  | .reset => []
  | .flush => []

/-- Frames are written with a command that needs no escape. -/
def LineEvent.Plain : LineEvent → Prop
  | .enter _ (.writeFrame f) => f.command ≠ kissFend ∧ f.command ≠ kissFesc
  | _ => True

def WriteSection.Plain (x : WriteSection) : Prop := (LineEvent.enter x.thread x.job).Plain

/-- An encoded frame that broke off inside: the FEND in front closes what was pending, and a prefix of
the frame is left in the parser. -/
theorem frames_torn {f : KissFrame}
    (hcmd : f.command ≠ kissFend ∧ f.command ≠ kissFesc) {n : ℕ} (hpos : n ≠ 0)
    (hlt : n < (encodeKissFrame f.command f.payload).length) :
    ∃ k escaped, ∀ p : KissParser,
      ((encodeKissFrame f.command f.payload).take n).foldl KissParser.next p =
          ⟨true, escaped, f.toBytes.take k⟩ ∧
        p.frames ((encodeKissFrame f.command f.payload).take n) = p.pending := by
  obtain ⟨m, rfl⟩ := Nat.exists_eq_succ_of_ne_zero hpos
  have henc : encodeKissFrame f.command f.payload =
      kissFend :: (f.toBytes.flatMap escapeByte++[kissFend]) :=
    encodeKissFrame_eq f.payload hcmd.1 hcmd.2
  have hm : m ≤ (f.toBytes.flatMap escapeByte).length := by
    rw [henc] at hlt
    simp only [List.length_cons, List.length_append, List.length_nil] at hlt
    omega
  have htake : (encodeKissFrame f.command f.payload).take (m+1) =
      kissFend :: (f.toBytes.flatMap escapeByte).take m := by
    rw [henc, List.take_succ_cons, List.take_append_of_le_length hm]
  obtain ⟨k, escaped, hstate, hnone⟩ := Scheme.feed_torn_body escapeByte_escapes [] f.toBytes m
  refine ⟨k, escaped, fun p => ?_⟩
  have hopened : p.next kissFend = KissParser.opened := if_pos rfl
  constructor
  · apply decoder_injective
    rw [htake, List.foldl_cons, hopened, foldl_next_decoder]
    exact hstate
  · have hrest : KissParser.opened.frames ((f.toBytes.flatMap escapeByte).take m) = [] := by
      rw [frames_ofBytes]
      exact congrArg (List.filterMap KissFrame.ofBytes) hnone
    rw [htake, KissParser.frames, hopened, hrest, KissParser.delivered, if_pos rfl, List.append_nil]

/-- For one stay in the lock, from any parser state: what was delivered and what is still pending are
what was pending before and what is seen of the stay. -/
theorem frames_section (p : KissParser) {x : WriteSection} (hplain : x.Plain)
    (hsent : x.sent ≤ x.job.bytes.length) :
    p.frames x.bytes++(x.bytes.foldl KissParser.next p).pending = p.pending++x.seen := by
  obtain ⟨thread, job, sent, returned⟩ := x
  cases job with
  | reset | flush =>
    simp [WriteSection.bytes, WriteJob.bytes, WriteSection.seen, KissParser.frames]
  | writeFrame f =>
    have hcmd : f.command ≠ kissFend ∧ f.command ≠ kissFesc := hplain
    change sent ≤ (encodeKissFrame f.command f.payload).length at hsent
    change p.frames ((encodeKissFrame f.command f.payload).take sent)++
      (((encodeKissFrame f.command f.payload).take sent).foldl KissParser.next p).pending =
      p.pending++(if sent = (encodeKissFrame f.command f.payload).length then [f]
        else (((encodeKissFrame f.command f.payload).take sent).foldl KissParser.next
          KissParser.init).pending)
    by_cases hfull : sent = (encodeKissFrame f.command f.payload).length
    · have hone : [f].flatMap (fun f => encodeKissFrame f.command f.payload) =
          encodeKissFrame f.command f.payload := List.flatMap_singleton _ f
      obtain ⟨hstate, hframes⟩ := frames_encoded p (List.cons_ne_nil f [])
        fun g hg => List.mem_singleton.mp hg ▸ hcmd
      rw [hone] at hstate hframes
      have hnothing : KissParser.opened.pending = [] := rfl
      rw [if_pos hfull, hfull, List.take_length, hstate, hframes, hnothing, List.append_nil]
    · rw [if_neg hfull]
      by_cases hzero : sent = 0
      · subst hzero
        rw [List.take_zero]
        exact (List.append_nil _).symm
      · have hlt := Nat.lt_of_le_of_ne hsent hfull
        obtain ⟨k, escaped, htorn⟩ := frames_torn hcmd hzero hlt
        rw [(htorn p).1, (htorn p).2, (htorn KissParser.init).1]

/-- A write that broke off leaves a frame with its command and the front of its payload, or nothing. -/
theorem seen_writeFrame {x : WriteSection} (hplain : x.Plain) {f g : KissFrame}
    (hsent : x.sent ≤ x.job.bytes.length) (hjob : x.job = .writeFrame f) (hg : g ∈ x.seen) :
    g.command = f.command ∧ g.payload <+: f.payload := by
  obtain ⟨thread, job, sent, returned⟩ := x
  dsimp only at hjob
  subst hjob
  have hcmd : f.command ≠ kissFend ∧ f.command ≠ kissFesc := hplain
  change sent ≤ (encodeKissFrame f.command f.payload).length at hsent
  change g ∈ (if sent = (encodeKissFrame f.command f.payload).length then [f]
    else (((encodeKissFrame f.command f.payload).take sent).foldl KissParser.next
      KissParser.init).pending) at hg
  by_cases hfull : sent = (encodeKissFrame f.command f.payload).length
  · rw [if_pos hfull] at hg
    rw [List.mem_singleton.mp hg]
    exact ⟨rfl, List.prefix_refl _⟩
  · rw [if_neg hfull] at hg
    by_cases hzero : sent = 0
    · subst hzero
      exact (List.not_mem_nil hg).elim
    · obtain ⟨k, escaped, htorn⟩ := frames_torn hcmd hzero (Nat.lt_of_le_of_ne hsent hfull)
      rw [(htorn KissParser.init).1] at hg
      cases k with
      | zero => -- Not even the command came through.
        exact (List.not_mem_nil hg).elim
      | succ k =>
        have hone : g ∈ [(⟨f.command, f.payload.take k⟩ : KissFrame)] := hg
        rw [List.mem_singleton.mp hone]
        exact ⟨rfl, List.take_prefix k f.payload⟩

theorem seen_length_le (x : WriteSection) : x.seen.length ≤ 1 := by
  obtain ⟨thread, job, sent, returned⟩ := x
  cases job with
  | reset | flush => exact Nat.zero_le _
  | writeFrame f =>
    change (if sent = (WriteJob.writeFrame f).bytes.length then [f] else _).length ≤ 1
    split
    · exact Nat.le_refl _
    · exact pending_length_le _

/-- The line carries the stays in the lock one after the other, and those that returned in full. -/
structure Framed (s : SerialLine) : Prop where
  line : s.line = s.sections.flatMap WriteSection.bytes
  sent : ∀ x ∈ s.sections, x.sent ≤ x.job.bytes.length
  full : ∀ x ∈ s.sections, x.returned = true → x.sent = x.job.bytes.length
  plain : ∀ x ∈ s.sections, x.Plain

theorem Framed.leave {s : SerialLine} (hs : Framed s) {x : WriteSection} (hbusy : s.busy = some x)
    {returned : Bool} (hfull : returned = true → x.sent = x.job.bytes.length) :
    Framed (s.leave x returned) := by
  have hold : s.sections = s.past++[x] := by rw [SerialLine.sections, hbusy]; rfl
  have hnew : (s.leave x returned).sections = s.past++[{ x with returned := returned }] :=
    List.append_nil _
  have hx : x ∈ s.sections := hold ▸ List.mem_append_right _ (List.mem_singleton.mpr rfl)
  have hpast {y : WriteSection} (hy : y ∈ s.past) : y ∈ s.sections :=
    hold ▸ List.mem_append_left _ hy
  have hcases {y : WriteSection} (hy : y ∈ (s.leave x returned).sections) :
      y ∈ s.past ∨ y = { x with returned := returned } := by
    rw [hnew] at hy
    exact (List.mem_append.mp hy).imp id List.mem_singleton.mp
  refine ⟨?_, fun y hy => ?_, fun y hy => ?_, fun y hy => ?_⟩
  · have hline := hs.line
    rw [hold, List.flatMap_append] at hline
    rw [hnew, List.flatMap_append]
    exact hline
  · rcases hcases hy with hy | rfl
    · exact hs.sent y (hpast hy)
    · exact hs.sent x hx
  · rcases hcases hy with hy | rfl
    · exact hs.full y (hpast hy)
    · exact hfull
  · rcases hcases hy with hy | rfl
    · exact hs.plain y (hpast hy)
    · exact hs.plain x hx

theorem Framed.step {s t : SerialLine} {l : LineEvent} (hl : l.Plain) (hs : Framed s)
    (h : s.step l = some t) : Framed t := by
  cases l with
  | enter thread job =>
    rw [SerialLine.step] at h
    split at h
    · rename_i hidle
      cases h
      have hold : s.sections = s.past := by
        rw [SerialLine.sections, hidle]
        exact List.append_nil _
      have hcases {x : WriteSection} (hx : x ∈ s.past++[⟨thread, job, 0, false⟩]) :
          x ∈ s.sections ∨ x = ⟨thread, job, 0, false⟩ := by
        rw [hold]
        exact (List.mem_append.mp hx).imp id List.mem_singleton.mp
      refine ⟨?_, fun x hx => ?_, fun x hx => ?_, fun x hx => ?_⟩
      · have hline := hs.line
        rw [hold] at hline
        rw [SerialLine.sections, List.flatMap_append, ← hline]
        simp [WriteSection.bytes]
      · rcases hcases hx with hx | rfl
        · exact hs.sent x hx
        · exact Nat.zero_le _
      · rcases hcases hx with hx | rfl
        · exact hs.full x hx
        · exact fun hr => by cases hr
      · rcases hcases hx with hx | rfl
        · exact hs.plain x hx
        · exact hl
    · cases h
  | check =>
    rw [SerialLine.step] at h
    split at h
    · rename_i x hbusy _
      split at h
      · -- Refused before its first byte.
        cases h
        exact hs.leave hbusy fun hr => by cases hr
      · cases h
        exact ⟨hs.line, hs.sent, hs.full, hs.plain⟩
    · cases h
  | send =>
    rw [SerialLine.step] at h
    split at h
    · rename_i x hbusy _
      split at h
      · rename_i byte hbyte
        cases h
        obtain ⟨hlt, hget⟩ := List.getElem?_eq_some_iff.mp hbyte
        have hold : s.sections = s.past++[x] := by rw [SerialLine.sections, hbusy]; rfl
        have hx : x ∈ s.sections := hold ▸ List.mem_append_right _ (List.mem_singleton.mpr rfl)
        have hcases {y : WriteSection} (hy : y ∈ s.past++[{ x with sent := x.sent+1 }]) :
            y ∈ s.sections ∨ y = { x with sent := x.sent+1 } := by
          rw [hold]
          exact (List.mem_append.mp hy).imp (List.mem_append_left _) List.mem_singleton.mp
        refine ⟨?_, fun y hy => ?_, fun y hy => ?_, fun y hy => ?_⟩
        · -- One byte more of the job that is in the lock.
          have hmore : (WriteSection.bytes { x with sent := x.sent+1 }) = x.bytes++[byte] := by
            rw [WriteSection.bytes, WriteSection.bytes, List.take_add_one, hbyte]
            rfl
          have hline := hs.line
          rw [hold, List.flatMap_append] at hline
          rw [hline, SerialLine.sections, List.flatMap_append, List.append_assoc]
          simp [hmore]
        · rcases hcases hy with hy | rfl
          · exact hs.sent y hy
          · exact hlt
        · rcases hcases hy with hy | rfl
          · exact hs.full y hy
          · intro hr
            have hfull := hs.full x hx hr
            omega
        · rcases hcases hy with hy | rfl
          · exact hs.plain y hy
          · exact hs.plain x hx
      · cases h
    · cases h
  | finish =>
    rw [SerialLine.step] at h
    split at h
    · rename_i x hbusy _
      split at h
      · rename_i hfull
        cases h
        exact hs.leave hbusy fun _ => hfull
      · cases h
    · cases h
  | fail =>
    rw [SerialLine.step] at h
    split at h
    · rename_i x hbusy _
      cases h
      exact hs.leave hbusy fun hr => by cases hr
    · cases h
  | «open» =>
    cases h
    exact ⟨hs.line, hs.sent, hs.full, hs.plain⟩
  | close =>
    cases h
    exact ⟨hs.line, hs.sent, hs.full, hs.plain⟩

/-- What is delivered and pending for a sequence of stays in the lock. -/
theorem frames_sections (p : KissParser) {xs : List WriteSection} (hplain : ∀ x ∈ xs, x.Plain)
    (hsent : ∀ x ∈ xs, x.sent ≤ x.job.bytes.length) :
    p.frames (xs.flatMap WriteSection.bytes)++
        ((xs.flatMap WriteSection.bytes).foldl KissParser.next p).pending =
      p.pending++xs.flatMap WriteSection.seen := by
  induction xs generalizing p with
  | nil => exact (List.append_nil _).symm
  | cons x xs ih =>
    have hx := frames_section p (hplain x List.mem_cons_self) (hsent x List.mem_cons_self)
    have hxs := ih (x.bytes.foldl KissParser.next p)
      (fun y hy => hplain y (List.mem_cons_of_mem x hy))
      fun y hy => hsent y (List.mem_cons_of_mem x hy)
    calc
      _ = p.frames x.bytes++((x.bytes.foldl KissParser.next p).frames
            (xs.flatMap WriteSection.bytes)++((xs.flatMap WriteSection.bytes).foldl KissParser.next
              (x.bytes.foldl KissParser.next p)).pending) := by
        rw [List.flatMap_cons, KissParser.frames_append, List.foldl_append, List.append_assoc]
      _ = p.frames x.bytes++((x.bytes.foldl KissParser.next p).pending++
            xs.flatMap WriteSection.seen) := by rw [hxs]
      _ = p.pending++x.seen++xs.flatMap WriteSection.seen := by rw [← List.append_assoc, hx]
      _ = _ := by rw [List.flatMap_cons, List.append_assoc]

theorem framed_run {s : SerialLine} {ls : List LineEvent} (hls : ∀ l ∈ ls, l.Plain)
    (h : run SerialLine.step SerialLine.init ls = some s) : Framed s := by
  have hstart : Framed SerialLine.init :=
    ⟨rfl, fun x hx => (List.not_mem_nil hx).elim, fun x hx => (List.not_mem_nil hx).elim,
      fun x hx => (List.not_mem_nil hx).elim⟩
  exact run_invariant_of (fun _ _ _ hl hs hstep => hs.step hl hstep) hls hstart h

/-- What the other end makes of the line, stay by stay. -/
theorem Framed.frames {s : SerialLine} (hs : Framed s) :
    KissParser.init.frames s.line++(s.line.foldl KissParser.next KissParser.init).pending =
      s.sections.flatMap WriteSection.seen := by
  have hall := frames_sections KissParser.init hs.plain hs.sent
  rw [← hs.line] at hall
  exact hall

theorem Framed.seen {s : SerialLine} (hs : Framed s) {x : WriteSection} (hx : x ∈ s.sections)
    {f : KissFrame} (hjob : x.job = .writeFrame f) :
    (x.returned = true → x.seen = [f]) ∧ x.seen.length ≤ 1 ∧
      ∀ g ∈ x.seen, g.command = f.command ∧ g.payload <+: f.payload := by
  refine ⟨fun hr => ?_, seen_length_le x,
    fun g hg => seen_writeFrame (hs.plain x hx) (hs.sent x hx) hjob hg⟩
  have hfull := hs.full x hx hr
  rw [WriteSection.seen, hjob]
  rw [hjob] at hfull
  exact if_pos hfull

/-- However many threads write, reset and flush, wherever their writes break off and whenever the port
is opened and closed: what a parser at the other end delivers and still holds is, in the order of the
lock, the frame of every `write_frame` that returned, and of every other one at most a frame with its
command and the front of its payload. -/
theorem serial_writes_framed {s : SerialLine} {ls : List LineEvent} (hls : ∀ l ∈ ls, l.Plain)
    (h : run SerialLine.step SerialLine.init ls = some s) :
    KissParser.init.frames s.line++(s.line.foldl KissParser.next KissParser.init).pending =
        s.sections.flatMap WriteSection.seen ∧
      ∀ x ∈ s.sections, ∀ f, x.job = .writeFrame f →
        (x.returned = true → x.seen = [f]) ∧ x.seen.length ≤ 1 ∧
          ∀ g ∈ x.seen, g.command = f.command ∧ g.payload <+: f.payload := by
  have hs := framed_run hls h
  exact ⟨hs.frames, fun x hx f hjob => hs.seen hx hjob⟩

/-- A frame breaks off after three of its bytes because the port is closed, another thread writes once
it is open again: the other end gets the front of the first frame and the whole second one. -/
theorem serial_writes_framed_torn :
    let first : KissFrame := ⟨0x00, [0x41, 0x42]⟩
    let second : KissFrame := ⟨0x06, [0xC0]⟩
    let events : List LineEvent := [.open, .enter 1 (.writeFrame first), .check, .send, .send, .send,
      .close, .fail, .open, .enter 2 (.writeFrame second), .check, .send, .send, .send, .send, .send,
      .finish]
    ∃ s, run SerialLine.step SerialLine.init events = some s ∧
      KissParser.init.frames s.line++(s.line.foldl KissParser.next KissParser.init).pending =
        [⟨0x00, [0x41]⟩, second] := by
  intro first second events
  have hrun : ∃ s, run SerialLine.step SerialLine.init events = some s ∧
      s.sections.flatMap WriteSection.seen = [⟨0x00, [0x41]⟩, second] := ⟨_, rfl, by decide⟩
  obtain ⟨s, hs, hseen⟩ := hrun
  refine ⟨s, hs, ?_⟩
  rw [← hseen]
  exact (serial_writes_framed (by simp [events, LineEvent.Plain, first, second]; decide) hs).1

end Kv4p

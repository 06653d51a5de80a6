import Kv4p.DummyTransport
import Kv4p.FlowThreads
import Mathlib.Algebra.Order.BigOperators.Group.List

/-! Threads that send flow-controlled frames: each claims the bytes of its frame and hands it to the
transport later, while the receiving thread resets and refills the window. -/
namespace Kv4p
open Monitors Transitions PackedStruct

/-- What `send_ax25_frame` and `send_tx_audio` send. -/
inductive FlowFrame
  | ax25 (payload : List UInt8)
  | txAudio (command : UInt8) (payload : List UInt8)
deriving DecidableEq, Repr

namespace FlowFrame

def kissCommand : FlowFrame → UInt8
  | ax25 _ => kissCmdData
  | txAudio _ _ => kissCmdSethardware

def kissPayload : FlowFrame → List UInt8
  | ax25 payload => payload
  | txAudio command payload => encodeVendorPayload command payload

/-- The bytes `_claim_and_write` claims, which are those that go out. -/
def frameSize (f : FlowFrame) : ℤ := (encodeKissFrame f.kissCommand f.kissPayload).length

def total (fs : List FlowFrame) : ℤ := (fs.map frameSize).sum

end FlowFrame

/-- A frame whose claim was granted, with the number of HELLOs processed before that. -/
structure Grant where
  thread : ℕ
  frame : FlowFrame
  hellos : ℕ
deriving DecidableEq

/-- A frame handed to the transport: how many HELLOs had been processed when its claim was granted,
and how many when it was handed over. -/
structure Handover where
  frame : FlowFrame
  grantedAt : ℕ
  handedAt : ℕ
deriving DecidableEq

def frameService : Service FlowControlWindow FlowFrame WindowChange :=
  windowService FlowFrame.frameSize

/-- `granted` are the frames between their claim and their `write_frame`. `credit` is what the last
HELLO and the window updates since then allow. -/
structure Senders where
  flow : Monitor FlowControlWindow FlowFrame WindowChange
  granted : List Grant
  handed : List Handover
  hellos : ℕ
  credit : ℤ
deriving DecidableEq

/-- A thread starts to send a frame, wakes up in its claim, takes the lock again, or hands its frame
over; the receiving thread handles a HELLO or a WINDOW_UPDATE. -/
inductive SendLabel (F : Type)
  | send (thread : ℕ) (frame : FlowFrame) (expired : Bool)
  | wake (thread : ℕ)
  | resume (thread : ℕ) (expired : Bool)
  | write (thread : ℕ)
  | hello (hello : Hello F)
  | windowUpdate (update : WindowUpdate)
deriving DecidableEq

variable {F : Type}

namespace Senders

def init : Senders := ⟨Monitor.start FlowControlWindow.init, [], [], 0, FlowControlWindow.init.size⟩

/-- A thread inside a send starts no other. -/
def busy (s : Senders) (thread : ℕ) : Bool :=
  (s.flow.find thread).isSome || s.granted.any (·.thread == thread)

/-- One turn of the claim of a frame. A frame whose claim times out is dropped. -/
def turn (s : Senders) (thread : ℕ) (frame : FlowFrame) (expired : Bool) : Senders :=
  { s with
    flow := frameService.turn s.flow thread frame expired
    granted :=
      if (frameService.serve s.flow.data frame).isSome then ⟨thread, frame, s.hellos⟩ :: s.granted
      else s.granted }

def change (s : Senders) (k : WindowChange) : Monitor FlowControlWindow FlowFrame WindowChange :=
  ⟨k.apply s.flow.data, s.flow.waiting.map Waiter.awaken, s.flow.log++[.changed k]⟩

def step (s : Senders) : SendLabel F → Option Senders
  | .send thread frame expired =>
    if s.busy thread then none else some (s.turn thread frame expired)
  | .wake thread => (frameService.step s.flow (.wake thread)).map fun flow => { s with flow := flow }
  | .resume thread expired =>
    match s.flow.find thread with
    | some ⟨_, frame, false⟩ => some (s.turn thread frame expired)
    | _ => none
  | .write thread =>
    match s.granted.find? (·.thread == thread) with
    | some g => some { s with
        granted := s.granted.eraseP (·.thread == thread)
        handed := s.handed++[⟨g.frame, g.hellos, s.hellos⟩] }
    | none => none
  | .hello hello => some { s with
      flow := s.change (.reset hello.version.windowSize)
      hellos := s.hellos+1
      credit := hello.version.windowSize }
  | .windowUpdate update => some { s with
      flow := s.change (.add update.size)
      credit := s.credit+update.size }

/-- The bytes handed over since the last HELLO. -/
def handedSinceHello (s : Senders) : ℤ :=
  FlowFrame.total ((s.handed.filter (·.handedAt == s.hellos)).map Handover.frame)

/-- Of these, the bytes of frames whose claim was granted before that HELLO. -/
def carriedOver (s : Senders) : ℤ :=
  FlowFrame.total
    ((s.handed.filter fun x => x.handedAt == s.hellos && x.grantedAt != s.hellos).map Handover.frame)

/-- The bytes granted since the last HELLO and not handed over yet. -/
def onTheirWay (s : Senders) : ℤ :=
  FlowFrame.total ((s.granted.filter (·.hellos == s.hellos)).map Grant.frame)

/-- The bytes granted and handed over since the last HELLO. -/
def spent (s : Senders) : ℤ :=
  FlowFrame.total
    ((s.handed.filter fun x => x.handedAt == s.hellos && x.grantedAt == s.hellos).map Handover.frame)

end Senders

namespace FlowFrame

theorem frameSize_nonneg (f : FlowFrame) : 0 ≤ f.frameSize := Int.natCast_nonneg _

theorem total_nil : total [] = 0 := rfl

theorem total_cons (f : FlowFrame) (fs : List FlowFrame) : total (f :: fs) = f.frameSize+total fs :=
  List.sum_cons

theorem total_append (fs gs : List FlowFrame) : total (fs++gs) = total fs+total gs := by
  simp only [total, List.map_append, List.sum_append]

end FlowFrame

open FlowFrame

/-- What is handed over was granted before or since the HELLO. -/
theorem handed_eq_carried_add_spent (s : Senders) :
    s.handedSinceHello = s.carriedOver+s.spent := by
  unfold Senders.handedSinceHello Senders.carriedOver Senders.spent
  induction s.handed with
  | nil => rfl
  | cons x xs ih =>
    by_cases hx : x.handedAt = s.hellos
    · by_cases hg : x.grantedAt = s.hellos
      · simp only [List.filter_cons, hx, hg, beq_self_eq_true, bne_self_eq_false, Bool.and_false,
          Bool.and_self, Bool.false_eq_true, ↓reduceIte, List.map_cons, total_cons, ih]
        omega
      · have hne : (x.grantedAt == s.hellos) = false := beq_eq_false_iff_ne.mpr hg
        simp only [List.filter_cons, hx, hne, bne, beq_self_eq_true, Bool.not_false, Bool.and_self,
          Bool.and_false, Bool.false_eq_true, ↓reduceIte, List.map_cons, total_cons, ih]
        omega
    · have hne : (x.handedAt == s.hellos) = false := beq_eq_false_iff_ne.mpr hx
      simp only [List.filter_cons, hne, Bool.false_and, Bool.false_eq_true, ↓reduceIte, ih]

/-- A turn either grants the frame out of the window, or leaves window and grants alone. -/
theorem turn_cases (s : Senders) (thread : ℕ) (frame : FlowFrame) (expired : Bool) :
    ∃ flow, (frame.frameSize ≤ s.flow.data.size ∧
        flow.data.size = s.flow.data.size-frame.frameSize ∧
        s.turn thread frame expired =
          { s with flow := flow, granted := ⟨thread, frame, s.hellos⟩ :: s.granted }) ∨
      (flow.data = s.flow.data ∧ s.turn thread frame expired = { s with flow := flow }) := by
  refine ⟨frameService.turn s.flow thread frame expired, ?_⟩
  unfold Senders.turn
  rcases Service.turn_cases (M := frameService) s.flow thread frame expired with ⟨w, hs, hturn⟩ |
    ⟨hs, _, hturn⟩ | ⟨hs, _, hturn⟩
  all_goals rw [hs, hturn]
  · left
    obtain ⟨hle, rfl⟩ := FlowControlWindow.tryClaim_eq_some.mp hs
    exact ⟨hle, rfl, rfl⟩
  · exact Or.inr ⟨rfl, rfl⟩
  · exact Or.inr ⟨rfl, rfl⟩

theorem senders_step_cases {s t : Senders} {l : SendLabel F} (h : s.step l = some t) :
    (∃ thread frame expired, t = s.turn thread frame expired) ∨
    (∃ flow, flow.data = s.flow.data ∧ t = { s with flow := flow }) ∨
    (∃ before g after, s.granted = before++g :: after ∧ t = { s with
      granted := before++after
      handed := s.handed++[⟨g.frame, g.hellos, s.hellos⟩] }) ∨
    (∃ hello, l = .hello hello ∧ t = { s with
      flow := s.change (.reset hello.version.windowSize)
      hellos := s.hellos+1
      credit := hello.version.windowSize }) ∨
    (∃ update, l = .windowUpdate update ∧ t = { s with
      flow := s.change (.add update.size)
      credit := s.credit+update.size }) := by
  cases l with
  | send thread frame expired =>
    rw [Senders.step] at h
    split at h
    · cases h
    · cases h
      exact Or.inl ⟨thread, frame, expired, rfl⟩
  | wake thread =>
    obtain ⟨flow, hflow, rfl⟩ := Option.map_eq_some_iff.mp h
    right
    left
    rcases Service.step_cases hflow with ⟨_, _, _, _, hcall⟩ | ⟨_, w, _, _, hw⟩ | ⟨_, hl, _⟩
    · rcases hcall with ⟨hl, _⟩ | ⟨hl, _⟩ <;> cases hl
    · exact ⟨flow, by rw [hw], rfl⟩
    · cases hl
  | resume thread expired =>
    rw [Senders.step] at h
    split at h
    · cases h
      exact Or.inl ⟨thread, _, expired, rfl⟩
    · cases h
  | write thread =>
    rw [Senders.step] at h
    split at h
    · rename_i g hfind
      cases h
      obtain ⟨hg, before, after, hsplit, hbefore⟩ := List.find?_eq_some_iff_append.mp hfind
      have herase : s.granted.eraseP (·.thread == thread) = before++after := by
        rw [hsplit, List.eraseP_append_right _ (by simpa using hbefore), List.eraseP_cons, hg]
        rfl
      rw [herase]
      exact Or.inr (Or.inr (Or.inl ⟨before, g, after, hsplit, rfl⟩))
    · cases h
  | hello hello =>
    cases h
    exact Or.inr (Or.inr (Or.inr (Or.inl ⟨hello, rfl, rfl⟩)))
  | windowUpdate update =>
    cases h
    exact Or.inr (Or.inr (Or.inr (Or.inr ⟨update, rfl, rfl⟩)))

/-- The credit is what is left in the window, what was granted out of it and is on its way, and what
was granted and handed over. No frame was granted after it was handed over, or by a HELLO to come. -/
structure Balanced (s : Senders) : Prop where
  credit : s.credit = s.flow.data.size+s.onTheirWay+s.spent
  window : 0 ≤ s.flow.data.size
  granted : ∀ g ∈ s.granted, g.hellos ≤ s.hellos
  handed : ∀ x ∈ s.handed, x.handedAt ≤ s.hellos

namespace Balanced

theorem turn {s : Senders} (hI : Balanced s) (thread : ℕ) (frame : FlowFrame) (expired : Bool) :
    Balanced (s.turn thread frame expired) := by
  obtain ⟨flow, ⟨hle, hsize, ht⟩ | ⟨hdata, ht⟩⟩ := turn_cases s thread frame expired
  all_goals rw [ht]
  · -- The size of a granted frame moves from the window to what is on its way.
    have hway : Senders.onTheirWay { s with
        flow := flow, granted := ⟨thread, frame, s.hellos⟩ :: s.granted } =
          frame.frameSize+s.onTheirWay := by
      simp only [Senders.onTheirWay, List.filter_cons, beq_self_eq_true, ↓reduceIte, List.map_cons,
        total_cons]
    have hcredit := hI.credit
    refine ⟨?_, ?_, ?_, hI.handed⟩
    · rw [hway]
      change s.credit = flow.data.size+(frame.frameSize+s.onTheirWay)+s.spent
      omega
    · change 0 ≤ flow.data.size
      omega
    · intro g hg
      rcases List.mem_cons.mp hg with rfl | hg
      · exact le_rfl
      · exact hI.granted g hg
  · have hcredit := hI.credit
    have hwindow := hI.window
    rw [← hdata] at hcredit hwindow
    exact ⟨hcredit, hwindow, hI.granted, hI.handed⟩

theorem write {s : Senders} (hI : Balanced s) {before after : List Grant} {g : Grant}
    (hsplit : s.granted = before++g :: after) :
    Balanced { s with
      granted := before++after
      handed := s.handed++[⟨g.frame, g.hellos, s.hellos⟩] } := by
  have hmem : ∀ x ∈ before++after, x ∈ s.granted := by
    intro x hx
    rw [hsplit]
    rcases List.mem_append.mp hx with hx | hx
    · exact List.mem_append_left _ hx
    · exact List.mem_append_right _ (List.mem_cons_of_mem g hx)
  refine ⟨?_, hI.window, fun x hx => hI.granted x (hmem x hx), ?_⟩
  · -- The frame moves from the one sum to the other if it was granted since the HELLO.
    have hcredit := hI.credit
    simp only [Senders.onTheirWay, Senders.spent, hsplit, List.filter_append, List.map_append,
      total_append, List.filter_cons, List.filter_nil] at hcredit ⊢
    by_cases hg : g.hellos = s.hellos
    · simp only [hg, beq_self_eq_true, Bool.and_self, ↓reduceIte, List.map_cons, List.map_nil,
        total_cons, total_nil] at hcredit ⊢
      omega
    · have hne : (g.hellos == s.hellos) = false := beq_eq_false_iff_ne.mpr hg
      simp only [hne, Bool.and_false, Bool.false_eq_true, ↓reduceIte, List.map_nil,
        total_nil] at hcredit ⊢
      omega
  · intro x hx
    rcases List.mem_append.mp hx with hx | hx
    · exact hI.handed x hx
    · rw [List.mem_singleton.mp hx]

/-- With a HELLO both sums start anew. -/
theorem hello {s : Senders} (hI : Balanced s) {size : ℤ} (hsize : 0 ≤ size) :
    Balanced { s with flow := s.change (.reset size), hellos := s.hellos+1, credit := size } := by
  have hway : s.granted.filter (·.hellos == s.hellos+1) = [] := by
    apply List.filter_eq_nil_iff.mpr
    intro g hg
    have hle := hI.granted g hg
    simp only [beq_iff_eq]
    omega
  have hspent : s.handed.filter
      (fun x => x.handedAt == s.hellos+1 && x.grantedAt == s.hellos+1) = [] := by
    apply List.filter_eq_nil_iff.mpr
    intro x hx
    have hle := hI.handed x hx
    simp only [Bool.and_eq_true, beq_iff_eq, not_and]
    omega
  refine ⟨?_, hsize, fun g hg => (hI.granted g hg).trans (Nat.le_succ _),
    fun x hx => (hI.handed x hx).trans (Nat.le_succ _)⟩
  simp only [Senders.onTheirWay, Senders.spent, hway, hspent, List.map_nil, total_nil]
  change size = size+0+0
  omega

theorem refill {s : Senders} (hI : Balanced s) {size : ℤ} (hsize : 0 ≤ size) :
    Balanced { s with flow := s.change (.add size), credit := s.credit+size } := by
  have hcredit := hI.credit
  have hwindow := hI.window
  refine ⟨?_, ?_, hI.granted, hI.handed⟩
  · change s.credit+size = s.flow.data.size+size+s.onTheirWay+s.spent
    omega
  · change 0 ≤ s.flow.data.size+size
    omega

end Balanced

variable [PyFloat F]

/-- HELLO and WINDOW_UPDATE payloads that parse. -/
def SendLabel.WellFormed : SendLabel F → Prop
  | .hello taken => ∃ payload, Hello.fromBytes payload = .ok taken
  | .windowUpdate update =>
    ∃ payload, (WindowUpdate.fromBytes payload : Except (PyError F) WindowUpdate) = .ok update
  | .send _ _ _ => True
  | .wake _ => True
  | .resume _ _ => True
  | .write _ => True

theorem Balanced.step {s t : Senders} {l : SendLabel F} (hl : l.WellFormed) (hI : Balanced s)
    (h : s.step l = some t) : Balanced t := by
  rcases senders_step_cases h with ⟨thread, frame, expired, rfl⟩ | ⟨flow, hdata, rfl⟩ |
    ⟨before, g, after, hsplit, rfl⟩ | ⟨hello, rfl, rfl⟩ | ⟨update, rfl, rfl⟩
  · exact hI.turn thread frame expired
  · have hcredit := hI.credit
    have hwindow := hI.window
    rw [← hdata] at hcredit hwindow
    exact ⟨hcredit, hwindow, hI.granted, hI.handed⟩
  · exact hI.write hsplit
  · obtain ⟨payload, hp⟩ := hl
    exact hI.hello (windowSize_nonneg hp)
  · obtain ⟨payload, hp⟩ := hl
    exact hI.refill (updateSize_nonneg hp)

theorem balanced_run {s : Senders} {ls : List (SendLabel F)}
    (h : run Senders.step Senders.init ls = some s) (hls : ∀ l ∈ ls, l.WellFormed) :
    Balanced s := by
  have hstart : Balanced Senders.init := by
    constructor <;> simp [Senders.init, Senders.onTheirWay, Senders.spent, total,
      Monitor.start, FlowControlWindow.init]
  exact run_invariant_of (fun _ _ _ hl hI hs => hI.step hl hs) hls hstart h

/-- A HELLO is processed at a moment when no granted frame is still to be handed over. -/
def HelloFindsNone (s : Senders) : SendLabel F → Prop
  | .hello _ => s.granted = []
  | _ => True

instance (s : Senders) (l : SendLabel F) : Decidable (HelloFindsNone s l) := by
  cases l <;> unfold HelloFindsNone <;> infer_instance

/-- Every frame was granted and handed over between the same two HELLOs. -/
structure OwnCredit (s : Senders) : Prop where
  granted : ∀ g ∈ s.granted, g.hellos = s.hellos
  handed : ∀ x ∈ s.handed, x.grantedAt = x.handedAt

omit [PyFloat F] in
theorem OwnCredit.step {s t : Senders} {l : SendLabel F} (hl : HelloFindsNone s l)
    (hI : OwnCredit s) (h : s.step l = some t) : OwnCredit t := by
  rcases senders_step_cases h with ⟨thread, frame, expired, rfl⟩ | ⟨flow, _, rfl⟩ |
    ⟨before, g, after, hsplit, rfl⟩ | ⟨hello, rfl, rfl⟩ | ⟨update, _, rfl⟩
  · obtain ⟨flow, ⟨_, _, ht⟩ | ⟨_, ht⟩⟩ := turn_cases s thread frame expired
    all_goals rw [ht]
    · refine ⟨?_, hI.handed⟩
      intro g hg
      rcases List.mem_cons.mp hg with rfl | hg
      · rfl
      · exact hI.granted g hg
    · exact ⟨hI.granted, hI.handed⟩
  · exact ⟨hI.granted, hI.handed⟩
  · have hall : ∀ x ∈ before++g :: after, x.hellos = s.hellos := hsplit ▸ hI.granted
    constructor
    · intro x hx
      apply hall x
      rcases List.mem_append.mp hx with hx | hx
      · exact List.mem_append_left _ hx
      · exact List.mem_append_right _ (List.mem_cons_of_mem g hx)
    · intro x hx
      rcases List.mem_append.mp hx with hx | hx
      · exact hI.handed x hx
      · rw [List.mem_singleton.mp hx]
        exact hall g (List.mem_append_right _ List.mem_cons_self)
  · -- The grants of the old HELLO would be the only ones in the way.
    refine ⟨?_, hI.handed⟩
    intro g hg
    have hnone : s.granted = [] := hl
    change g ∈ s.granted at hg
    rw [hnone] at hg
    cases hg
  · exact ⟨hI.granted, hI.handed⟩

theorem carriedOver_of_ownCredit {s : Senders} (h : OwnCredit s) : s.carriedOver = 0 := by
  have hnone : s.handed.filter
      (fun x => x.handedAt == s.hellos && x.grantedAt != s.hellos) = [] := by
    apply List.filter_eq_nil_iff.mpr
    intro x hx
    have heq := h.handed x hx
    simp only [Bool.and_eq_true, beq_iff_eq, bne_iff_ne, not_and, not_not]
    omega
  rw [Senders.carriedOver, hnone]
  rfl

theorem onTheirWay_nonneg (s : Senders) : 0 ≤ s.onTheirWay := by
  apply List.sum_nonneg
  intro n hn
  obtain ⟨f, _, rfl⟩ := List.mem_map.mp hn
  exact f.frameSize_nonneg

/-- Any number of threads send frames while HELLOs and window updates come in. What is handed over
since the last HELLO stays within the credit of that HELLO and the updates since then exactly if what
was granted before the HELLO and handed over after it takes no more than the part of that credit that
is still in the window or on its way. It always does in a run in which every HELLO is processed while
no granted frame is still to be handed over. -/
theorem credit_respected {s : Senders} {ls : List (SendLabel F)}
    (h : run Senders.step Senders.init ls = some s) (hls : ∀ l ∈ ls, l.WellFormed) :
    (s.handedSinceHello ≤ s.credit ↔ s.carriedOver ≤ s.flow.data.size+s.onTheirWay) ∧
      (Along Senders.step HelloFindsNone Senders.init ls → s.handedSinceHello ≤ s.credit) := by
  have hbalanced := balanced_run h hls
  have hcredit := hbalanced.credit
  have hwindow := hbalanced.window
  have hsplit := handed_eq_carried_add_spent s
  refine ⟨⟨fun hle => by omega, fun hle => by omega⟩, ?_⟩
  intro hquiet
  have hstart : OwnCredit Senders.init := by
    constructor <;> simp [Senders.init]
  have hown : OwnCredit s :=
    run_invariant_along (fun _ _ _ hl hI hs => hI.step hl hs) hquiet hstart h
  have hcarried := carriedOver_of_ownCredit hown
  have hway := onTheirWay_nonneg s
  omega

/-- The HELLO of a transport made with a small window. -/
def smallTransport : DummyTransport Binary32 := { dummyTransport with windowSize := 8 }

def smallHello : Hello Binary32 :=
  ⟨Version.ofRecord smallTransport.versionRecord, DeviceState.ofRecord smallTransport.deviceStateRecord⟩

theorem smallHello_parses :
    ∃ payload, (Hello.fromBytes payload : Except (PyError Binary32) _) = .ok smallHello :=
  builtHello_parses (t := smallTransport) (by decide +kernel)

/-- Two HELLOs with eight bytes of credit each, and a frame of six bytes within each. -/
theorem credit_respected_dummy :
    ∃ s : Senders, run Senders.step Senders.init [.hello smallHello,
        .send 0 (.ax25 [1, 2, 3]) false, .write 0, .hello smallHello,
        .send 0 (.ax25 [1, 2, 3]) false, .write 0] = some s ∧ s.handedSinceHello ≤ s.credit := by
  have hsome : (run Senders.step Senders.init [.hello smallHello,
      .send 0 (.ax25 [1, 2, 3]) false, .write 0, .hello smallHello,
      .send 0 (.ax25 [1, 2, 3]) false, .write 0]).isSome = true := by decide +kernel
  obtain ⟨s, hs⟩ := Option.isSome_iff_exists.mp hsome
  refine ⟨s, hs, (credit_respected hs ?_).2 (by decide +kernel)⟩
  intro l hl
  simp only [List.mem_cons, List.not_mem_nil, or_false] at hl
  rcases hl with rfl | rfl | rfl | rfl | rfl | rfl
  · exact smallHello_parses
  · trivial
  · trivial
  · exact smallHello_parses
  · trivial
  · trivial

/-- A frame granted under one HELLO is handed over under the next, which grants its own eight bytes
to another frame: twelve bytes go out. -/
theorem credit_overrun :
    (run Senders.step Senders.init [.hello smallHello, .send 0 (.ax25 [1, 2, 3]) false,
        .hello smallHello, .write 0, .send 1 (.ax25 [4, 5, 6]) false, .write 1]).map
      (fun s => (s.handedSinceHello, s.credit)) = some (12, 8) := by
  decide +kernel

end Kv4p

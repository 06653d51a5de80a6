import Kv4p.Library.Transition
import Kv4p.RadioSteps

/-! One rule for all invariants of the radio: what survives every small move survives every run. -/
namespace Kv4p
open Effects Transitions

variable {F : Type}

/-- The calls into the transport that hand over no desired state. -/
inductive Harmless : TransportCall → Prop
  | opens : Harmless .open
  | closes : Harmless .close
  | resets : Harmless .reset
  | data (payload : List UInt8) : Harmless (.writeFrame kissCmdData payload)
  | audio (command : UInt8) (payload : List UInt8) (h : command ≠ commandHostDesiredState) :
      Harmless (.writeFrame kissCmdSethardware (encodeVendorPayload command payload))

namespace Op

/-- Everything that arrives during a step. -/
def arrivals : Op F → List Arrival
  | connect early waiting => early++waiting
  | disconnect => []
  | reset waiting => waiting
  | setter _ => []
  | sendTxAudio _ waiting => waiting
  | sendAx25Frame _ waiting => waiting
  | receive arrival => [arrival]

/-- The public setters a step calls. -/
def setters : Op F → List (Setter F)
  | disconnect => [.setPtt false]
  | setter c => [c]
  | _ => []

end Op

variable [PyFloat F]

/-- `connect` on a closed radio is the opening and then a reset. -/
theorem connect_run (env : Environment F) {w : World F} (ho : w.isOpen = false)
    (early waiting : List Arrival) : (connect env early waiting).run w =
      (openTransport env early >>= fun _ => reset env waiting).run w := by
  unfold connect
  rw [Effect.read_bind_run, if_neg (by rw [ho]; exact Bool.noConfusion)]

theorem connect_keeps {I : World F → Prop} {env : Environment F} {early waiting : List Arrival}
    (hreset : Keeps I (reset env waiting)) {w : World F} (hI : I w)
    (hopen : w.isOpen = false → I ((openTransport env early).run w).2) :
    I (w.step env (.connect early waiting)) := by
  cases ho : w.isOpen with
  | true =>
    have hrun : (connect env early waiting).run w = (.ok (), w) := by
      unfold connect
      rw [Effect.read_bind_run, if_pos ho]
      rfl
    rw [World.step, Op.call, hrun]
    exact hI
  | false =>
    have h := hopen ho
    rw [World.step, Op.call, connect_run env ho, Effect.bind_run]
    match hr : (openTransport env early).run w with
    | (.ok _, v) =>
      rw [hr] at h
      exact hreset v h
    | (.error _, v) =>
      rw [hr] at h
      exact h

/-- `disconnect` on an open radio: the attempt to unkey if it is ready, then the close. -/
theorem disconnect_run (env : Environment F) {w : World F} (ho : w.isOpen = true) :
    (disconnect env).run w =
      (callTransport env .close >>= fun _ => Effect.update fun w => { w with isOpen := false }).run
        (if w.isReady = true then ((setPtt env false).run w).2 else w) := by
  unfold disconnect
  rw [Effect.read_bind_run, ho, if_neg Bool.noConfusion]
  cases w.isReady <;> rfl

/-- `I` survives every move of the radio within a session but the setters, when only arrivals in `A`
come. -/
structure KeptInSession (A : Arrival → Prop) (I : World F → Prop) : Prop where
  quiet : ∀ {w v}, Quiet w v → I w → I v
  hello : ∀ {w payload hello}, Hello.fromBytes payload = .ok hello → I w → I (w.takeHello hello)
  report : ∀ {w payload state}, DeviceState.fromBytes payload = .ok state → I w →
    I (w.takeReport state)
  error : ∀ {w exc}, A (.error exc) → I w → I { w with transportError := some exc }
  closed : ∀ {w}, I w → I { w with isOpen := false }
  call : ∀ {w call} ok, Harmless call → call ≠ .open → I w → I (w.record (.transport call ok))
  audio : ∀ {w}, I w → w.tracker.txAudioCommand ≠ commandHostDesiredState

/-- `I` survives every move of the radio but the setters, when only arrivals in `A` come. -/
structure Survives (A : Arrival → Prop) (I : World F → Prop) : Prop where
  quiet : ∀ {w v}, Quiet w v → I w → I v
  hello : ∀ {w payload hello}, Hello.fromBytes payload = .ok hello → I w → I (w.takeHello hello)
  report : ∀ {w payload state}, DeviceState.fromBytes payload = .ok state → I w →
    I (w.takeReport state)
  error : ∀ {w exc}, A (.error exc) → I w → I { w with transportError := some exc }
  clearError : ∀ {w}, I w → I { w with transportError := none }
  isOpen : ∀ {w} isOpen, I w → I { w with isOpen := isOpen }
  call : ∀ {w call} ok, Harmless call → I w → I (w.record (.transport call ok))
  audio : ∀ {w}, I w → w.tracker.txAudioCommand ≠ commandHostDesiredState

namespace KeptInSession

variable {A : Arrival → Prop} {I : World F → Prop} {env : Environment F}

theorem receive (hs : KeptInSession A I) {a : Arrival} (ha : A a) : Keeps I (receive env a) := by
  intro w hI
  obtain ⟨v, ht, hq⟩ := receive_takes env a w
  apply hs.quiet hq
  cases ht with
  | nothing => exact hI
  | error exc => exact hs.error ha hI
  | hello _ payload hello _ h => exact hs.hello h hI
  | report _ payload state _ h => exact hs.report h hI

theorem receiveAll (hs : KeptInSession A I) {arrivals : List Arrival} (ha : ∀ a ∈ arrivals, A a) :
    Keeps I (receiveAll env arrivals) :=
  keeps_each fun a h => hs.receive (ha a h)

theorem callTransport (hs : KeptInSession A I) {call : TransportCall} (hc : Harmless call)
    (ho : call ≠ .open) : Keeps I (callTransport env call) := by
  intro w hI
  rcases callTransport_cases env call w with ⟨_, h⟩ | ⟨_, h⟩
  · rw [h]
    exact hs.call false hc ho hI
  · rw [h]
    exact hs.call true hc ho hI

theorem claim (hs : KeptInSession A I) (size : ℤ) {waiting : List Arrival}
    (ha : ∀ a ∈ waiting, A a) : Keeps I (claim env size waiting) := by
  intro w hI
  obtain ⟨received, hpre, claimed, flow, hrun⟩ := claim_cases env size waiting w
  have hreceived : I ((Kv4p.receiveAll env received).run w).2 :=
    hs.receiveAll (fun a h => ha a (hpre.subset h)) w hI
  rw [hrun]
  exact hs.quiet ⟨⟨_, rfl⟩, rfl, rfl, [], (List.append_nil _).symm, fun _ h => nomatch h⟩ hreceived

theorem claimAndWrite (hs : KeptInSession A I) {kissCommand : UInt8} {payload : List UInt8}
    (hc : Harmless (.writeFrame kissCommand payload)) (flowControlled : Bool)
    {waiting : List Arrival} (ha : ∀ a ∈ waiting, A a) :
    Keeps I (claimAndWrite env kissCommand payload flowControlled waiting) := by
  unfold Kv4p.claimAndWrite
  split
  · apply keeps_bind (hs.claim _ ha)
    intro claimed
    split
    · exact hs.callTransport hc TransportCall.noConfusion
    · exact fun w hI => hI
  · exact hs.callTransport hc TransportCall.noConfusion

theorem sendTxAudio (hs : KeptInSession A I) (payload : List UInt8) {waiting : List Arrival}
    (ha : ∀ a ∈ waiting, A a) : Keeps I (sendTxAudio env payload waiting) := by
  intro w hI
  unfold Kv4p.sendTxAudio
  rw [requireReady_bind_run]
  cases w.checkReady with
  | error e => exact hI
  | ok _ => exact hs.claimAndWrite (.audio _ payload (hs.audio hI)) true ha w hI

theorem reset (hs : KeptInSession A I) {waiting : List Arrival} (ha : ∀ a ∈ waiting, A a) :
    Keeps I (reset env waiting) := by
  have hsame {α : Type} {m : RadioM F α} (h : ∀ w, (m.run w).2 = w) : Keeps I m :=
    fun w hI => (h w).symm ▸ hI
  apply keeps_bind (hsame fun _ => rfl)
  intro w
  split
  · exact hsame fun _ => rfl
  · apply keeps_bind (hs.callTransport .resets TransportCall.noConfusion)
    intro _
    apply keeps_bind
    · exact keeps_bind (hs.receiveAll ha) fun _ => keeps_bind (hsame fun _ => rfl)
        fun _ => hsame fun _ => rfl
    · intro announced
      split
      · exact hsame fun _ => rfl
      · exact hsame fun _ => rfl

/-- A setter leaves `I` to the calls it makes of the tracker. -/
theorem setter {w : World F} (hI : I w) (c : Setter F)
    (hset : c.check w = .ok () → I ((Effect.each (trackerCall env) c.trackerCalls).run w).2) :
    I ((c.call env).run w).2 := by
  rw [setter_call_run]
  cases hc : c.check w with
  | error e => exact hI
  | ok _ => exact hset hc

theorem disconnect (hs : KeptInSession A I) {w : World F} (hI : I w)
    (hset : I (((Setter.setPtt false).call env).run w).2) : I ((disconnect env).run w).2 := by
  have hclose : Keeps I (Kv4p.callTransport env .close >>= fun _ =>
      Effect.update fun w => { w with isOpen := false }) :=
    keeps_bind (hs.callTransport .closes TransportCall.noConfusion) fun _ w hI => hs.closed hI
  cases ho : w.isOpen with
  | false =>
    unfold Kv4p.disconnect
    rw [Effect.read_bind_run, if_pos ho]
    exact hI
  | true =>
    rw [disconnect_run env ho]
    apply hclose
    split
    · exact hset
    · exact hI

/-- One step of a run keeps `I` when the setters it calls do, and the opening of a closed radio. -/
theorem step (hs : KeptInSession A I) {w : World F} (hI : I w) (op : Op F)
    (ha : ∀ a ∈ op.arrivals, A a)
    (hset : ∀ c ∈ op.setters, c.check w = .ok () →
      I ((Effect.each (trackerCall env) c.trackerCalls).run w).2)
    (hopen : ∀ early waiting, op = .connect early waiting → w.isOpen = false →
      I ((openTransport env early).run w).2) : I (w.step env op) := by
  cases op with
  | connect early waiting =>
    have hreset : Keeps I (Kv4p.reset env waiting) :=
      hs.reset fun a h => ha a (List.mem_append_right early h)
    exact connect_keeps hreset hI (hopen early waiting rfl)
  | disconnect =>
    apply hs.disconnect hI
    exact setter hI _ (hset _ List.mem_cons_self)
  | reset waiting => exact hs.reset ha w hI
  | setter c => exact setter hI c (hset c List.mem_cons_self)
  | sendTxAudio payload waiting => exact hs.sendTxAudio payload ha w hI
  | sendAx25Frame payload waiting => exact hs.claimAndWrite (.data payload) true ha w hI
  | receive arrival => exact hs.receive (ha arrival List.mem_cons_self) w hI

end KeptInSession

namespace Survives

variable {A : Arrival → Prop} {I : World F → Prop} {env : Environment F}

theorem inSession (hs : Survives A I) : KeptInSession A I where
  quiet := hs.quiet
  hello := hs.hello
  report := hs.report
  error := hs.error
  closed := hs.isOpen false
  call ok hc _ := hs.call ok hc
  audio := hs.audio

theorem opening (hs : Survives A I) : Keeps I (callTransport env .open) := by
  intro w hI
  rcases callTransport_cases env .open w with ⟨_, h⟩ | ⟨_, h⟩
  · rw [h]
    exact hs.call false .opens hI
  · rw [h]
    exact hs.call true .opens hI

theorem openTransport (hs : Survives A I) {early : List Arrival} (ha : ∀ a ∈ early, A a) :
    Keeps I (openTransport env early) := by
  apply keeps_bind
  · exact fun w hI => hs.clearError hI
  · intro _
    apply keeps_bind hs.opening
    intro _
    apply keeps_bind (hs.inSession.receiveAll ha)
    intro _
    exact fun w hI => hs.isOpen true hI

/-- One step of a run keeps `I` when the setters it calls do. -/
theorem step (hs : Survives A I) {w : World F} (hI : I w) (op : Op F)
    (ha : ∀ a ∈ op.arrivals, A a)
    (hset : ∀ c ∈ op.setters, c.check w = .ok () →
      I ((Effect.each (trackerCall env) c.trackerCalls).run w).2) : I (w.step env op) := by
  apply hs.inSession.step hI op ha hset
  rintro early waiting rfl _
  exact hs.openTransport (fun a h => ha a (List.mem_append_left waiting h)) w hI

/-- A run keeps `I` when its arrivals are allowed and the setters of every step do, where `P` may be
assumed of the step. -/
theorem run (hs : Survives A I) {P : World F → Op F → Prop}
    (hset : ∀ w op, I w → P w op → ∀ c ∈ op.setters, c.check w = .ok () →
      I ((Effect.each (trackerCall env) c.trackerCalls).run w).2)
    {w : World F} {ops : List (Op F)} (ha : ∀ op ∈ ops, ∀ a ∈ op.arrivals, A a) (hI : I w)
    (hP : AllSteps (World.step env) P w ops) : I (w.run env ops) := by
  have hboth : AllSteps (World.step env) (fun w op => P w op ∧ ∀ a ∈ op.arrivals, A a) w ops :=
    allSteps_and.mpr ⟨hP, allSteps_of_forall fun op h _ => ha op h⟩
  refine foldl_invariant (fun w op hI h => ?_) hI hboth
  exact hs.step hI op h.2 (hset w op hI h.1)

end Survives

end Kv4p

import Kv4p.DummyTransport
import Kv4p.Library.LastWrite
import Mathlib.Data.List.Induction

/-! Programs that use the radio, `with` blocks included: in what order the transport gets its calls,
and what a block leaves behind. -/
namespace Kv4p
open Effects LastWrite Transitions

variable {F : Type}

/-- A program that makes calls one at a time and decides by how they end what it does next. -/
inductive Script (F : Type)
  | finish (result : Except (PyError F) Unit)
  | call (op : Op F) (rest : Except (PyError F) Unit → Script F)
  | within (early waiting : List Arrival) (body : Script F)
      (rest : Except (PyError F) Unit → Script F)

def Script.program [PyFloat F] (env : Environment F) : Script F → RadioM F Unit
  | finish result => Effect.ofExcept result
  | call op rest => Effect.outcome (op.call env) >>= fun r => (rest r).program env
  | within early waiting body rest =>
    Effect.outcome (withRadio env early waiting (body.program env)) >>= fun r =>
      (rest r).program env

/-- Whether the transport counts as open after one more event: its `open` returned, and no `close` since
then did. -/
def openAfter (isOpen : Bool) : Event F → Bool
  | .transport .open true => true
  | .transport .close true => false
  | _ => isOpen

def countsOpen (log : List (Event F)) : Bool := log.foldl openAfter false

/-- Whether the serial transport has a port. An `open` that raises `late` leaves its port open, and `close`
lets go of the port before anything in it can raise. -/
def serialAfter (late isOpen : Bool) : Event F → Bool
  | .transport .open true => true
  | .transport .open false => late || isOpen
  | .transport .close _ => false
  | _ => isOpen

def serialOpen (late : ℕ → Bool) (log : List (Event F)) : Bool :=
  log.zipIdx.foldl (fun isOpen e => serialAfter (late e.2) isOpen e.1) false

/-- An `open` or a `close`, and whether it returned. -/
def Event.opening : Event F → Option (TransportCall × Bool)
  | .transport .open returned => some (.open, returned)
  | .transport .close returned => some (.close, returned)
  | _ => none

/-- The last `open` or `close`, if there was one. -/
def lastOpening (log : List (Event F)) : Option (TransportCall × Bool) :=
  (log.filterMap Event.opening).getLast?

/-- The transport is opened while it is closed and closed and reset while it is open, and only data
frames are written in between. -/
def TransportCall.Permitted (isOpen : Bool) : TransportCall → Prop
  | .open => isOpen = false
  | .close => isOpen = true
  | .reset => isOpen = true
  | .writeFrame command _ => isOpen = true ∨ command = kissCmdData

/-- A call into the transport comes where the calls that returned so far let it. -/
def InOrder (before : List (Event F)) (e : Event F) : Prop :=
  ∀ call ok, e = .transport call ok → call.Permitted (countsOpen before)

/-- The transport is in this state, the radio takes it to be in that, and all calls were in order. -/
structure Held (port isOpen : Bool) (w : World F) : Prop where
  port : countsOpen w.log = port
  isOpen : w.isOpen = isOpen
  calls : AtEach InOrder w.log

/-- Between two calls the radio takes the transport for what it is. -/
def Bracketed (w : World F) : Prop := Held w.isOpen w.isOpen w

theorem countsOpen_concat (log : List (Event F)) (e : Event F) :
    countsOpen (log++[e]) = openAfter (countsOpen log) e := by
  rw [countsOpen, countsOpen, List.foldl_append]
  rfl

theorem serialOpen_concat (late : ℕ → Bool) (log : List (Event F)) (e : Event F) :
    serialOpen late (log++[e]) = serialAfter (late log.length) (serialOpen late log) e := by
  rw [serialOpen, serialOpen, List.zipIdx_append, List.foldl_append, Nat.zero_add]
  rfl

theorem lastOpening_concat (log : List (Event F)) (e : Event F) :
    lastOpening (log++[e]) = e.opening.or (lastOpening log) :=
  getLast?_filterMap_concat Event.opening log e

/-- Unless the last `open` or `close` raised, the serial transport is as its calls that returned say. A
`close` that raised matters only while they say that it is open. -/
theorem serialOpen_eq (late : ℕ → Bool) {log : List (Event F)}
    (hopen : lastOpening log ≠ some (.open, false))
    (hclose : countsOpen log = true → lastOpening log ≠ some (.close, false)) :
    serialOpen late log = countsOpen log := by
  induction log using List.reverseRecOn with
  | nil => rfl
  | append_singleton log e ih =>
    rw [lastOpening_concat] at hopen hclose
    rw [countsOpen_concat] at hclose
    rw [serialOpen_concat, countsOpen_concat]
    cases e with
    | hello | callback => exact ih hopen hclose
    | transport call ok =>
      cases call with
      | reset | writeFrame => exact ih hopen hclose
      | «open» =>
        cases ok with
        | false => exact absurd rfl hopen
        | true => rfl
      | close =>
        cases ok with
        | false =>
          have hclosed : countsOpen log ≠ true := fun h => hclose h rfl
          exact (Bool.eq_false_iff.mpr hclosed).symm
        | true => rfl

namespace Held

variable {port isOpen : Bool} {w : World F}

theorem bracketed (h : Held isOpen isOpen w) : Bracketed w := by
  rw [Bracketed, h.isOpen]
  exact h

theorem record (h : Held port isOpen w) {e : Event F} (he : InOrder w.log e) :
    Held (openAfter port e) isOpen (w.record e) := by
  refine ⟨?_, h.isOpen, atEach_concat h.calls he⟩
  rw [World.record, countsOpen_concat, h.port]

theorem call (h : Held port isOpen w) (call : TransportCall) (hc : call.Permitted port) (ok : Bool) :
    Held (openAfter port (.transport call ok : Event F)) isOpen (w.record (.transport call ok)) := by
  apply h.record
  rintro call' ok' ⟨rfl, rfl⟩
  rw [h.port]
  exact hc

theorem quiet {v : World F} (hq : Quiet w v) (h : Held port isOpen w) : Held port isOpen v := by
  obtain ⟨calls, hlog, hc⟩ := hq.log
  refine ⟨?_, hq.isOpen.trans h.isOpen, ?_⟩
  · have hsame : countsOpen v.log = countsOpen w.log := hq.foldl_log (fun _ _ _ => rfl) false
    rw [hsame, h.port]
  · rw [hlog]
    apply atEach_append h.calls
    intro e he before call ok heq
    obtain ⟨c, ok', rfl⟩ := hc e he
    cases heq

variable [PyFloat F] (env : Environment F)

theorem receive (a : Arrival) : Keeps (Held port isOpen) (receive env a) := by
  intro w h
  obtain ⟨v, ht, hq⟩ := receive_takes env a w
  apply quiet hq
  cases ht with
  | nothing => exact h
  | error exc => exact ⟨h.port, h.isOpen, h.calls⟩
  | report _ payload state _ _ => exact ⟨h.port, h.isOpen, h.calls⟩
  | hello _ payload hello _ _ =>
    have hrecord := h.record (e := .hello hello) fun _ _ he => by cases he
    exact ⟨hrecord.port, hrecord.isOpen, hrecord.calls⟩

theorem receiveAll (arrivals : List Arrival) : Keeps (Held port isOpen) (receiveAll env arrivals) :=
  keeps_each fun a _ => receive env a

omit [PyFloat F] in
/-- A call that neither opens nor closes. -/
theorem callTransport (call : TransportCall) (hc : call.Permitted port)
    (hsame : ∀ ok, openAfter port (.transport call ok : Event F) = port) :
    Keeps (Held port isOpen) (callTransport env call) := by
  intro w h
  rcases callTransport_cases env call w with ⟨_, hrun⟩ | ⟨_, hrun⟩
  · rw [hrun, ← hsame false]
    exact h.call call hc false
  · rw [hrun, ← hsame true]
    exact h.call call hc true

theorem claimAndWrite {command : UInt8} (hc : port = true ∨ command = kissCmdData)
    (payload : List UInt8) (flowControlled : Bool) (waiting : List Arrival) :
    Keeps (Held port isOpen) (claimAndWrite env command payload flowControlled waiting) := by
  have hwrite : Keeps (Held port isOpen)
      (Kv4p.callTransport env (.writeFrame command payload)) :=
    callTransport env (.writeFrame command payload) hc fun ok => by cases ok <;> rfl
  have hclaim : Keeps (Held port isOpen)
      (claim env (encodeKissFrame command payload).length waiting) := by
    intro w h
    obtain ⟨received, _, claimed, flow, hrun⟩ :=
      claim_cases env (encodeKissFrame command payload).length waiting w
    have hreceived := receiveAll env received w h
    rw [hrun]
    exact ⟨hreceived.port, hreceived.isOpen, hreceived.calls⟩
  unfold Kv4p.claimAndWrite
  split
  · apply keeps_bind hclaim
    intro claimed
    split
    · exact hwrite
    · exact fun _ h => h
  · exact hwrite

theorem trackerCall (c : SetterCall F) : Keeps (Held true isOpen) (trackerCall env c) := by
  intro w h
  have hafter : Held true isOpen (w.afterSection c) := ⟨h.port, h.isOpen, h.calls⟩
  rcases trackerCall_cases env c w with ⟨_, hrun⟩ | ⟨_, e, _, hrun⟩ |
    ⟨_, body, _, _, hrun⟩ | ⟨_, body, _, _, hrun⟩
  · rw [hrun]
    exact h
  · rw [hrun]
    exact hafter
  · rw [hrun]
    exact hafter.call (desiredCall body) (Or.inl rfl) false
  · rw [hrun]
    exact hafter.call (desiredCall body) (Or.inl rfl) true

end Held

variable [PyFloat F] (env : Environment F)

theorem bracketed_reset (waiting : List Arrival) : Keeps Bracketed (reset env waiting) := by
  intro w h
  unfold reset
  rw [Effect.read_bind_run]
  cases ho : w.isOpen with
  | false =>
    rw [if_pos rfl]
    exact h
  | true =>
    rw [if_neg Bool.noConfusion]
    rw [Bracketed, ho] at h
    have hcall : Keeps (Held true true) (callTransport env .reset) :=
      Held.callTransport env .reset rfl fun ok => by cases ok <;> rfl
    have hrest : Keeps (Held true true) (waitForHello env waiting >>= fun announced =>
        if announced = true then (pure () : RadioM F Unit)
        else Effect.raise (.timeoutError "timed out waiting for HELLO after reset")) := by
      apply keeps_bind
      · exact keeps_bind (Held.receiveAll env waiting) fun _ =>
          keeps_bind (fun _ h => h) fun _ _ h => h
      · intro announced
        cases announced <;> exact fun _ h => h
    exact (keeps_bind hcall (fun _ => hrest) w h).bracketed

theorem bracketed_openTransport (early : List Arrival) {w : World F} (h : Bracketed w)
    (ho : w.isOpen = false) : Bracketed ((openTransport env early).run w).2 := by
  rw [Bracketed, ho] at h
  have hclear : Held false false { w with transportError := none } := ⟨h.port, h.isOpen, h.calls⟩
  unfold openTransport
  rw [Effect.bind_run, Effect.update_run, Effect.andThen_ok, Effect.bind_run]
  rcases callTransport_cases env .open { w with transportError := none } with
    ⟨_, hrun⟩ | ⟨_, hrun⟩
  · rw [hrun]
    exact (hclear.call .open rfl false).bracketed
  · rw [hrun, Effect.andThen_ok, Effect.bind_run, Effect.andThen_of_ok (receiveAll_ok env early _)]
    -- What arrives before `_open` is set finds the transport open already.
    have hearly := Held.receiveAll env early _ (hclear.call .open rfl true)
    have hmarked : Held true true { ((receiveAll env early).run
        ({ w with transportError := none }.record (.transport .open true))).2 with isOpen := true } :=
      ⟨hearly.port, rfl, hearly.calls⟩
    exact hmarked.bracketed

theorem bracketed_connect (early waiting : List Arrival) :
    Keeps Bracketed (connect env early waiting) := by
  intro w h
  unfold connect
  rw [Effect.read_bind_run]
  split
  · exact h
  · rename_i ho
    have hopened := bracketed_openTransport env early h (Bool.eq_false_iff.mpr ho)
    rw [Effect.bind_run]
    cases hr : ((openTransport env early).run w).1 with
    | error e =>
      rw [Effect.andThen_of_error hr]
      exact hopened
    | ok _ =>
      rw [Effect.andThen_of_ok hr]
      exact bracketed_reset env waiting _ hopened

theorem bracketed_setter (c : Setter F) : Keeps Bracketed (c.call env) := by
  intro w h
  rw [setter_call_run]
  cases hc : c.check w with
  | error e => exact h
  | ok _ =>
    have hready := isReady_of_check hc
    have ho : w.isOpen = true := by
      rw [World.isReady, Bool.and_eq_true, Bool.and_eq_true] at hready
      exact hready.1.1
    rw [Bracketed, ho] at h
    exact (keeps_each (fun tc _ => Held.trackerCall env tc) w h).bracketed

/-- `disconnect` returns and leaves the transport closed, or its close raises and leaves it open. -/
theorem disconnect_cases {w : World F} (h : Bracketed w) :
    (((disconnect env).run w).1 = .ok () ∧ Held false false ((disconnect env).run w).2) ∨
      (((disconnect env).run w).1 = .error .transportRaised ∧
        Held true true ((disconnect env).run w).2 ∧
        ((disconnect env).run w).2.log.getLast? = some (.transport .close false)) := by
  cases ho : w.isOpen with
  | false =>
    rw [Bracketed, ho] at h
    unfold disconnect
    rw [Effect.read_bind_run, if_pos ho]
    exact Or.inl ⟨rfl, h⟩
  | true =>
    have hunkeyed : Held true true
        (if w.isReady = true then ((setPtt env false).run w).2 else w) := by
      rw [Bracketed, ho] at h
      split
      · have hcalls : (setPtt env false).run w = _ := setter_call_run env (.setPtt false) w
        rw [hcalls]
        cases (Setter.setPtt false : Setter F).check w with
        | error e => exact h
        | ok _ => exact keeps_each (fun tc _ => Held.trackerCall env tc) w h
      · exact h
    rw [disconnect_run env ho, Effect.bind_run]
    rcases callTransport_cases env .close _ with ⟨_, hrun⟩ | ⟨_, hrun⟩
    · rw [hrun]
      exact Or.inr ⟨rfl, hunkeyed.call .close rfl false, List.getLast?_concat⟩
    · rw [hrun, Effect.andThen_ok, Effect.update_run]
      have hclosed := hunkeyed.call .close rfl true
      exact Or.inl ⟨rfl, hclosed.port, rfl, hclosed.calls⟩

theorem bracketed_disconnect : Keeps Bracketed (disconnect env) := by
  intro w h
  rcases disconnect_cases env h with ⟨_, hclosed⟩ | ⟨_, hopen, _⟩
  · exact hclosed.bracketed
  · exact hopen.bracketed

theorem bracketed_call (op : Op F) : Keeps Bracketed (op.call env) := by
  cases op with
  | connect early waiting => exact bracketed_connect env early waiting
  | disconnect => exact bracketed_disconnect env
  | reset waiting => exact bracketed_reset env waiting
  | setter c => exact bracketed_setter env c
  | receive arrival => exact fun w h => (Held.receive env arrival w h).bracketed
  | sendAx25Frame payload waiting =>
    exact fun w h => (Held.claimAndWrite env (Or.inr rfl) payload true waiting w h).bracketed
  | sendTxAudio payload waiting =>
    intro w h
    rw [Op.call, sendTxAudio, requireReady_bind_run]
    cases hc : w.checkReady with
    | error e => exact h
    | ok _ =>
      have hready := checkReady_eq_ok.mp hc
      have ho : w.isOpen = true := by
        rw [World.isReady, Bool.and_eq_true, Bool.and_eq_true] at hready
        exact hready.1.1
      rw [Bracketed, ho] at h
      exact (Held.claimAndWrite env (Or.inl rfl) _ true waiting w h).bracketed

theorem bracketed_program (script : Script F) : Keeps Bracketed (script.program env) := by
  induction script with
  | finish result => exact fun _ h => h
  | call op rest ih => exact keeps_bind (keeps_outcome (bracketed_call env op)) ih
  | within early waiting body rest ihbody ih =>
    have henter : Keeps Bracketed (enter env early waiting) :=
      keeps_onRaise (bracketed_connect env early waiting) (bracketed_disconnect env)
    have hblock : Keeps Bracketed (withRadio env early waiting (body.program env)) :=
      keeps_bind henter fun _ => keeps_ensuring ihbody (bracketed_disconnect env)
    exact keeps_bind (keeps_outcome hblock) ih

theorem bracketed_script (script : Script F) :
    Bracketed ((script.program env).run World.init).2 :=
  bracketed_program env script World.init ⟨rfl, rfl, atEach_nil⟩

/-- What a `with` block is before its exit: the body after a `connect` that returned, or the exception
of the `connect`. -/
def untilExit (early waiting : List Arrival) (body : Script F) (w : World F) :
    Except (PyError F) Unit × World F :=
  match (connect env early waiting).run w with
  | (.ok _, v) => (body.program env).run v
  | (.error e, v) => (.error e, v)

/-- A `with` block is its inside and then a `disconnect`, which passes on how the inside ended. -/
theorem withRadio_run (early waiting : List Arrival) (body : Script F) (w : World F) :
    (withRadio env early waiting (body.program env)).run w =
      Effect.andThen ((disconnect env).run (untilExit env early waiting body w).2) fun _ =>
        Effect.ofExcept (untilExit env early waiting body w).1 := by
  unfold withRadio untilExit enter
  rw [Effect.bind_run]
  match hr : (connect env early waiting).run w with
  | (.ok (), v) =>
    rw [Effect.onRaise_of_ok (by rw [hr])]
    rw [hr, Effect.andThen_ok, Effect.ensuring_run]
    rfl
  | (.error e, v) =>
    rw [Effect.onRaise_of_error (by rw [hr])]
    rw [hr]
    dsimp only
    match (disconnect env).run v with
    | (.ok (), u) => rfl
    | (.error e', u) => rfl

/-- An `open` that raises after its port is open leaves it open, and the block does not close it. -/
example : ∃ w : World Binary32, (withRadio { faultless with transportRaises := fun _ _ => true } [] []
    (pure ())).run World.init = (.error .transportRaised, w) ∧ countsOpen w.log = false ∧
      serialOpen (fun _ => true) w.log = true := ⟨_, rfl, rfl, rfl⟩

end Kv4p

import Kv4p.ReceivePath
import Kv4p.SerialTransport

/-! From the calls of the application to the firmware: the bytes on the line, taken apart again, are
the messages the calls stand for, in their order, save for what writes that raised left of them. -/
namespace Kv4p
open Effects PackedStruct Transitions

variable {F : Type}

/-- What the host has to say to the firmware. -/
inductive HostMessage (F : Type)
  | desiredState (state : HostDesiredState F)
  | vendor (command : UInt8) (body : List UInt8)
  | ax25Frame (payload : List UInt8)
deriving DecidableEq

/-- The snapshots of a row of setter calls, whose sections run one after the other. -/
def DeviceStateTracker.snapshots (t : DeviceStateTracker F) :
    List (SetterCall F) → List (HostDesiredState F)
  | [] => []
  | c :: cs => (t.setterSection c).1.toList++(t.setterSection c).2.snapshots cs

namespace World

/-- The `write_frame` calls so far, and whether they returned. -/
def writes (w : World F) : List (KissFrame × Bool) := w.log.filterMap Event.write

/-- The bytes on the line so far. -/
def line (cut : ℕ → ℕ) (w : World F) : List UInt8 := serialLine cut w.log

end World

variable [PyFloat F]

/-- A frame as the firmware takes it apart. -/
def HostMessage.ofFrame (f : KissFrame) : Option (HostMessage F) :=
  if f.command = kissCmdData then some (.ax25Frame f.payload)
  else if f.command = kissCmdSethardware then
    match decodeVendorPayload f.payload with
    | some (command, body) =>
      if command = commandHostDesiredState then (HostDesiredState.ofBody body).map .desiredState
      else some (.vendor command body)
    | none => none
  else none

/-- What a public setter has to say: its snapshots, with the precision of the wire. -/
def Setter.messages (w : World F) (c : Setter F) : List (HostMessage F) :=
  match c.check w with
  | .ok () => (w.tracker.snapshots c.trackerCalls).map fun d => .desiredState d.onWire
  | .error _ => []

/-- What a step has to say. -/
def Op.messages (w : World F) : Op F → List (HostMessage F)
  | .sendTxAudio payload _ =>
    if w.isReady then [.vendor w.tracker.txAudioCommand payload] else []
  | .sendAx25Frame payload _ => [.ax25Frame payload]
  | op => op.setters.flatMap (Setter.messages w)

/-- What the firmware makes of the bytes on the line, a frame that the next FEND completes included. -/
def World.heard (cut : ℕ → ℕ) (w : World F) : List (Option (HostMessage F)) :=
  (KissParser.init.frames (w.line cut)++
    ((w.line cut).foldl KissParser.next KissParser.init).pending).map HostMessage.ofFrame

omit [PyFloat F] in
/-- What the front of a message may be taken for. A desired state has one length. -/
def HostMessage.Front : HostMessage F → Option (HostMessage F) → Prop
  | desiredState d, x => x = some (.desiredState d) ∨ x = none
  | vendor command body, x => (∃ front, front <+: body ∧ x = some (.vendor command front)) ∨ x = none
  | ax25Frame payload, x => ∃ front, front <+: payload ∧ x = some (.ax25Frame front)

omit [PyFloat F] in
/-- What is heard of a message whose `write_frame` raised, if there is one: at most one frame. -/
def Remains : Option (HostMessage F) → List (Option (HostMessage F)) → Prop
  | none, rest => rest = []
  | some m, rest => rest = [] ∨ ∃ x, rest = [x] ∧ m.Front x

theorem ofFrame_data (payload : List UInt8) :
    (HostMessage.ofFrame ⟨kissCmdData, payload⟩ : Option (HostMessage F)) =
      some (.ax25Frame payload) := rfl

theorem ofFrame_vendor {command : UInt8} (h : command ≠ commandHostDesiredState)
    (body : List UInt8) :
    (HostMessage.ofFrame ⟨kissCmdSethardware, encodeVendorPayload command body⟩ :
      Option (HostMessage F)) = some (.vendor command body) := by
  have hdata : kissCmdSethardware ≠ kissCmdData := by decide
  rw [HostMessage.ofFrame, if_neg hdata, if_pos rfl, decodeVendorPayload_encode]
  exact if_neg h

theorem ofFrame_desiredState {d : HostDesiredState F} {body : List UInt8} (h : d.toBytes = .ok body) :
    HostMessage.ofFrame ⟨kissCmdSethardware, encodeVendorPayload commandHostDesiredState body⟩ =
      some (.desiredState d.onWire) := by
  have hdata : kissCmdSethardware ≠ kissCmdData := by decide
  rw [HostMessage.ofFrame, if_neg hdata, if_pos rfl, decodeVendorPayload_encode]
  dsimp only
  rw [if_pos rfl, ofBody_toBytes h]
  rfl

/-- A message comes under one of the two commands that need no escape. -/
theorem command_of_ofFrame {f : KissFrame} {m : HostMessage F}
    (h : HostMessage.ofFrame f = some m) : f.command ≠ kissFend ∧ f.command ≠ kissFesc := by
  rw [HostMessage.ofFrame] at h
  split at h
  · rename_i hdata
    rw [hdata]
    decide
  · split at h
    · rename_i hset
      rw [hset]
      decide
    · cases h

/-- The front of a vendor payload is read as one with the front of its body, or not at all. -/
theorem decode_front {command : UInt8} {body payload : List UInt8}
    (h : payload <+: encodeVendorPayload command body) :
    decodeVendorPayload payload = none ∨
      ∃ front, front <+: body ∧ decodeVendorPayload payload = some (command, front) := by
  cases hdecode : decodeVendorPayload payload with
  | none => exact Or.inl rfl
  | some p =>
    right
    obtain ⟨command', front⟩ := p
    rw [decodeVendorPayload_eq_some.mp hdecode, encodeVendorPayload, encodeVendorPayload,
      List.append_assoc, List.append_assoc, List.prefix_append_right_inj] at h
    obtain ⟨_, hrest⟩ := List.cons_prefix_cons.mp h
    obtain ⟨rfl, hfront⟩ := List.cons_prefix_cons.mp hrest
    exact ⟨front, hfront, rfl⟩

/-- The front of a frame is read as the front of its message. -/
theorem front_ofFrame {f g : KissFrame} {m : HostMessage F} (hf : HostMessage.ofFrame f = some m)
    (hcommand : g.command = f.command) (hpayload : g.payload <+: f.payload) :
    m.Front (HostMessage.ofFrame g) := by
  rw [HostMessage.ofFrame] at hf ⊢
  rw [hcommand]
  split at hf
  · rename_i hdata
    cases hf
    rw [if_pos hdata]
    exact ⟨g.payload, hpayload, rfl⟩
  · rename_i hdata
    split at hf
    · rename_i hset
      rw [if_neg hdata, if_pos hset]
      split at hf
      · rename_i command body hdecode
        rw [decodeVendorPayload_eq_some.mp hdecode] at hpayload
        rcases decode_front hpayload with hnone | ⟨front, hfront, hsome⟩
        · rw [hnone]
          split at hf
          · obtain ⟨d, _, rfl⟩ := Option.map_eq_some_iff.mp hf
            exact Or.inr rfl
          · cases hf
            exact Or.inr rfl
        · rw [hsome]
          dsimp only
          split at hf
          · rename_i hdesired
            obtain ⟨d, hd, rfl⟩ := Option.map_eq_some_iff.mp hf
            rw [if_pos hdesired]
            cases hread : (HostDesiredState.ofBody front : Option (HostDesiredState F)) with
            | none => exact Or.inr rfl
            | some d' =>
              -- A body has one length, so this front is all of it.
              obtain ⟨v, hv, _⟩ := Option.map_eq_some_iff.mp hread
              obtain ⟨u, hu, _⟩ := Option.map_eq_some_iff.mp hd
              have hsame : front = body :=
                hfront.eq_of_length ((length_of_unpack hv).trans (length_of_unpack hu).symm)
              rw [hsame, hd] at hread
              cases hread
              exact Or.inl rfl
          · rename_i hother
            cases hf
            rw [if_neg hother]
            exact Or.inl ⟨front, hfront, rfl⟩
      · cases hf
    · cases hf

omit [PyFloat F] in
theorem writeSection_sent (cut : ℕ) (write : KissFrame × Bool) :
    (writeSection cut write).sent ≤ (writeSection cut write).job.bytes.length := by
  change (if write.2 then (WriteJob.writeFrame write.1).bytes.length else _) ≤ _
  split
  · exact Nat.le_refl _
  · exact Nat.min_le_right _ _

theorem writeSection_plain (cut : ℕ) {write : KissFrame × Bool} {m : HostMessage F}
    (h : HostMessage.ofFrame write.1 = some m) : (writeSection cut write).Plain :=
  command_of_ofFrame h

/-- A call of `write_frame`, as the message it stands for. -/
def reads (write : KissFrame × Bool) : Option (HostMessage F) × Bool :=
  (HostMessage.ofFrame write.1, write.2)

omit [PyFloat F] in
/-- The calls of `write_frame` that send some messages, and one that raises, if any. -/
def tries (sent : List (HostMessage F)) (raised : Option (HostMessage F)) :
    List (Option (HostMessage F) × Bool) :=
  sent.map (fun m => (some m, true))++raised.toList.map fun m => (some m, false)

theorem seen_returned (cut : ℕ) {write : KissFrame × Bool} {m : HostMessage F}
    (h : reads write = (some m, true)) :
    (writeSection cut write).seen.map HostMessage.ofFrame = [some m] := by
  obtain ⟨f, returned⟩ := write
  obtain rfl : returned = true := congrArg Prod.snd h
  have hseen : (writeSection cut (f, true)).seen = [f] := if_pos rfl
  rw [hseen]
  exact congrArg (fun x => [x]) (congrArg Prod.fst h)

theorem seen_raised (cut : ℕ) {write : KissFrame × Bool} {m : HostMessage F}
    (h : reads write = (some m, false)) :
    Remains (some m) ((writeSection cut write).seen.map HostMessage.ofFrame) := by
  have hf : HostMessage.ofFrame write.1 = some m := congrArg Prod.fst h
  cases hseen : (writeSection cut write).seen with
  | nil => exact Or.inl rfl
  | cons g gs =>
    have hone := seen_length_le (writeSection cut write)
    rw [hseen, List.length_cons] at hone
    obtain rfl : gs = [] := List.length_eq_zero_iff.mp (by omega)
    have hg : g ∈ (writeSection cut write).seen := hseen ▸ List.mem_cons_self
    obtain ⟨hcommand, hpayload⟩ :=
      seen_writeFrame (writeSection_plain cut hf) (writeSection_sent cut _) rfl hg
    exact Or.inr ⟨_, rfl, front_ofFrame hf hcommand hpayload⟩

/-- What is heard of a row of calls. -/
theorem seen_tries (cut : ℕ → ℕ) {writes : List (KissFrame × Bool)} {sent : List (HostMessage F)}
    {raised : Option (HostMessage F)} (h : writes.map reads = tries sent raised) :
    ∃ rest, Remains raised rest ∧ (writes.mapIdx fun n => writeSection (cut n)).flatMap
      (fun x => x.seen.map HostMessage.ofFrame) = sent.map some++rest := by
  induction sent generalizing cut writes with
  | nil =>
    cases raised with
    | none =>
      rw [List.map_eq_nil_iff.mp h]
      exact ⟨[], rfl, rfl⟩
    | some m =>
      obtain ⟨write, writes, rfl, hone, hrest⟩ := List.map_eq_cons_iff.mp h
      rw [List.map_eq_nil_iff.mp hrest]
      exact ⟨_, seen_raised (cut 0) hone, List.flatMap_singleton _ _⟩
  | cons m sent ih =>
    obtain ⟨write, writes, rfl, hone, hrest⟩ := List.map_eq_cons_iff.mp h
    obtain ⟨rest, hremains, hseen⟩ := ih (fun n => cut (n+1)) hrest
    refine ⟨rest, hremains, ?_⟩
    rw [List.mapIdx_cons, List.flatMap_cons, hseen, seen_returned _ hone]
    rfl

/-- Every frame written so far is a message. -/
def Spoken (w : World F) : Prop := ∀ write ∈ w.writes, ∃ m, HostMessage.ofFrame (F := F) write.1 = some m

namespace Spoken

variable {w : World F}

theorem sections (h : Spoken w) (cut : ℕ → ℕ) : ∀ x ∈ writeSections cut w.log,
    x.Plain ∧ x.sent ≤ x.job.bytes.length := by
  intro x hx
  obtain ⟨n, hn, rfl⟩ := List.mem_mapIdx.mp hx
  obtain ⟨m, hm⟩ := h _ (List.getElem_mem hn)
  exact ⟨writeSection_plain _ hm, writeSection_sent _ _⟩

/-- The firmware hears call by call. -/
theorem heard (h : Spoken w) (cut : ℕ → ℕ) :
    w.heard cut = (writeSections cut w.log).flatMap fun x => x.seen.map HostMessage.ofFrame := by
  have hall := frames_sections KissParser.init (fun x hx => (h.sections cut x hx).1)
    fun x hx => (h.sections cut x hx).2
  rw [World.heard, World.line, serialLine, hall]
  exact List.map_flatMap

/-- A frame stays half read only if the last call raised. -/
theorem pending (h : Spoken w) (cut : ℕ → ℕ) (hlast : ∀ f, w.writes.getLast? ≠ some (f, false)) :
    ((w.line cut).foldl KissParser.next KissParser.init).pending = [] := by
  have hline : w.line cut =
      (w.writes.mapIdx fun n => writeSection (cut n)).flatMap WriteSection.bytes := rfl
  rcases List.eq_nil_or_concat' w.writes with hnil | ⟨writes, ⟨f, returned⟩, hconcat⟩
  · rw [hline, hnil]
    rfl
  · cases returned with
    | false => exact absurd (by rw [hconcat, List.getLast?_concat]) (hlast f)
    | true =>
      obtain ⟨m, hm⟩ := h (f, true) (hconcat ▸ List.mem_append_right _ (List.mem_singleton.mpr rfl))
      have hfull : (writeSection (cut writes.length) (f, true)).bytes =
          [f].flatMap fun f => encodeKissFrame f.command f.payload := by
        rw [List.flatMap_singleton]
        exact List.take_length
      rw [hline, hconcat, List.mapIdx_concat, List.flatMap_append, List.foldl_append,
        List.flatMap_singleton, hfull, (frames_encoded _ (List.cons_ne_nil f []) fun g hg =>
          List.mem_singleton.mp hg ▸ command_of_ofFrame hm).1]
      rfl

end Spoken

/-- From `w` to `v` the transport is called with the frames of these messages, in this order: it takes
all but the last, if there is one it raises on. -/
def Says (sent : List (HostMessage F)) (raised : Option (HostMessage F)) (w v : World F) : Prop :=
  ∃ writes, v.writes = w.writes++writes ∧ writes.map reads = tries sent raised

/-- From `w` to `v` nothing is written. -/
def Silent (w v : World F) : Prop := v.writes = w.writes

namespace Silent

omit [PyFloat F]

variable {u v w : World F}

theorem refl (w : World F) : Silent w w := rfl

theorem trans (huv : Silent u v) (hvw : Silent v w) : Silent u w := Eq.trans hvw huv

theorem record (w : World F) {e : Event F} (h : e.write = none) : Silent w (w.record e) := by
  rw [Silent, World.writes, World.writes, World.record, List.filterMap_append, List.filterMap_cons, h]
  exact List.append_nil _

theorem quiet (h : Quiet w v) : Silent w v := by
  obtain ⟨calls, hlog, hc⟩ := h.log
  have hnone : calls.filterMap Event.write = [] := by
    apply List.filterMap_eq_nil_iff.mpr
    intro e he
    obtain ⟨c, ok, rfl⟩ := hc e he
    rfl
  rw [Silent, World.writes, World.writes, hlog, List.filterMap_append, hnone, List.append_nil]

theorem bind {α β : Type} {m : RadioM F α} {k : α → RadioM F β} (hm : Moves Silent m)
    (hk : ∀ a, Moves Silent (k a)) : Moves Silent (m >>= k) :=
  moves_bind (R := Silent) (fun _ _ _ => Silent.trans) hm hk

end Silent

namespace Says

variable {u v w : World F} {sent more : List (HostMessage F)} {raised : Option (HostMessage F)}

theorem nothing (h : Silent w v) : Says [] none w v :=
  ⟨[], Eq.trans h (List.append_nil _).symm, rfl⟩

theorem after (huv : Silent u v) (hvw : Says sent raised v w) : Says sent raised u w := by
  obtain ⟨writes, hw, hreads⟩ := hvw
  exact ⟨writes, by rw [hw, huv], hreads⟩

theorem before (huv : Says sent raised u v) (hvw : Silent v w) : Says sent raised u w := by
  obtain ⟨writes, hv, hreads⟩ := huv
  exact ⟨writes, Eq.trans hvw hv, hreads⟩

theorem trans (huv : Says sent none u v) (hvw : Says more raised v w) :
    Says (sent++more) raised u w := by
  obtain ⟨first, hv, hfirst⟩ := huv
  obtain ⟨rest, hw, hrest⟩ := hvw
  refine ⟨first++rest, by rw [hw, hv, List.append_assoc], ?_⟩
  simp only [List.map_append, hfirst, hrest, tries, Option.toList_none, List.map_nil,
    List.append_nil, List.append_assoc]

theorem write (w : World F) {command : UInt8} {payload : List UInt8} {m : HostMessage F}
    (h : HostMessage.ofFrame ⟨command, payload⟩ = some m) :
    Says [m] none w (w.record (.transport (.writeFrame command payload) true)) ∧
      Says [] (some m) w (w.record (.transport (.writeFrame command payload) false)) := by
  have hwrites (returned : Bool) :
      (w.record (.transport (.writeFrame command payload) returned)).writes =
        w.writes++[(⟨command, payload⟩, returned)] := by
    rw [World.writes, World.writes, World.record, List.filterMap_append]
    rfl
  exact ⟨⟨_, hwrites true, by rw [List.map_singleton, reads, h]; rfl⟩,
    ⟨_, hwrites false, by rw [List.map_singleton, reads, h]; rfl⟩⟩

theorem spoken (h : Says sent raised w v) (hw : Spoken w) : Spoken v := by
  obtain ⟨writes, hv, hreads⟩ := h
  intro write hmem
  rw [hv] at hmem
  rcases List.mem_append.mp hmem with hmem | hmem
  · exact hw write hmem
  · have htry := List.mem_map_of_mem (f := reads (F := F)) hmem
    rw [hreads] at htry
    rcases List.mem_append.mp htry with htry | htry
    all_goals
      obtain ⟨m, _, hm⟩ := List.mem_map.mp htry
      exact ⟨m, (congrArg Prod.fst hm).symm⟩

/-- What was said is heard next. -/
theorem heard (h : Says sent raised w v) (hw : Spoken w) (cut : ℕ → ℕ) :
    ∃ rest, Remains raised rest ∧ v.heard cut = w.heard cut++sent.map some++rest := by
  have hv := h.spoken hw
  obtain ⟨writes, hwrites, hreads⟩ := h
  obtain ⟨rest, hremains, hseen⟩ := seen_tries (fun n => cut (n+w.writes.length)) hreads
  refine ⟨rest, hremains, ?_⟩
  have hsections : writeSections cut v.log = writeSections cut w.log++
      writes.mapIdx fun n => writeSection (cut (n+w.writes.length)) := by
    change (v.writes.mapIdx fun n => writeSection (cut n)) = _
    rw [hwrites, List.mapIdx_append]
    rfl
  rw [hv.heard, hsections, List.flatMap_append, hseen, ← hw.heard, List.append_assoc]

end Says

variable (env : Environment F)

/-- What arrives makes the radio say nothing. -/
theorem silent_receive (a : Arrival) : Moves Silent (receive env a) := by
  intro w
  obtain ⟨v, ht, hq⟩ := receive_takes env a w
  have hv : Silent w v := by
    cases ht with
    | nothing | error | report => rfl
    | hello _ payload hello _ _ => exact Silent.record _ rfl
  exact hv.trans (Silent.quiet hq)

theorem silent_receiveAll (arrivals : List Arrival) : Moves Silent (receiveAll env arrivals) :=
  moves_each Silent.refl (fun _ _ _ => Silent.trans) fun a _ => silent_receive env a

omit [PyFloat F] in
/-- Calls into the transport that write no frame. -/
theorem silent_callTransport {call : TransportCall}
    (h : ∀ ok, (Event.transport call ok : Event F).write = none) :
    Moves Silent (callTransport env call) := by
  intro w
  rcases callTransport_cases env call w with ⟨_, hrun⟩ | ⟨_, hrun⟩
  · rw [hrun]
    exact Silent.record w (h false)
  · rw [hrun]
    exact Silent.record w (h true)

theorem silent_openTransport (early : List Arrival) : Moves Silent (openTransport env early) := by
  apply Silent.bind
  · exact moves_update fun _ => rfl
  intro _
  apply Silent.bind (silent_callTransport env fun ok => by cases ok <;> rfl)
  intro _
  apply Silent.bind (silent_receiveAll env early)
  intro _
  exact moves_update fun _ => rfl

theorem silent_reset (waiting : List Arrival) : Moves Silent (reset env waiting) := by
  apply Silent.bind (moves_read Silent.refl)
  intro w
  split
  · exact fun v => Silent.refl v
  · apply Silent.bind (silent_callTransport env fun ok => by cases ok <;> rfl)
    intro _
    apply Silent.bind
    · exact Silent.bind (silent_receiveAll env waiting) fun _ =>
        Silent.bind (moves_read Silent.refl) fun _ v => Silent.refl v
    · intro announced
      split
      · exact fun v => Silent.refl v
      · exact fun v => Silent.refl v

theorem silent_connect (early waiting : List Arrival) :
    Moves Silent (connect env early waiting) := by
  apply Silent.bind (moves_read Silent.refl)
  intro w
  split
  · exact fun v => Silent.refl v
  · exact Silent.bind (silent_openTransport env early) fun _ => silent_reset env waiting

/-- A call says the front of what it has to say, perhaps with one message the transport raises on. -/
def Utters (ms : List (HostMessage F)) (w v : World F) : Prop :=
  ∃ sent raised, sent++raised.toList <+: ms ∧ Says sent raised w v

/-- A claimed frame is said or not said. -/
theorem utters_claimAndWrite {command : UInt8} {payload : List UInt8} {m : HostMessage F}
    (h : HostMessage.ofFrame ⟨command, payload⟩ = some m) (waiting : List Arrival) (w : World F) :
    Utters [m] w ((claimAndWrite env command payload true waiting).run w).2 := by
  obtain ⟨received, _, claimed, flow, hclaim⟩ :=
    claim_cases env (encodeKissFrame command payload).length waiting w
  have hwait : Silent w { ((receiveAll env received).run w).2 with flow := flow } :=
    silent_receiveAll env received w
  unfold claimAndWrite
  rw [if_pos rfl, Effect.bind_run, hclaim, Effect.andThen_ok]
  cases claimed with
  | false => exact ⟨[], none, List.nil_prefix, Says.nothing hwait⟩
  | true =>
    rw [if_pos rfl]
    obtain ⟨htaken, hraised⟩ :=
      Says.write { ((receiveAll env received).run w).2 with flow := flow } h
    rcases callTransport_cases env (.writeFrame command payload)
      { ((receiveAll env received).run w).2 with flow := flow } with ⟨_, hrun⟩ | ⟨_, hrun⟩
    · rw [hrun]
      exact ⟨[], some m, List.prefix_rfl, hraised.after hwait⟩
    · rw [hrun]
      exact ⟨[m], none, List.prefix_rfl, htaken.after hwait⟩

/-- A setter of the tracker says its snapshot or nothing, and its snapshot if it returns. -/
theorem utters_trackerCall (c : SetterCall F) (w : World F) :
    Utters ((w.tracker.setterSection c).1.toList.map fun d => .desiredState d.onWire) w
        ((trackerCall env c).run w).2 ∧
      (((trackerCall env c).run w).1 = .ok () →
        Says ((w.tracker.setterSection c).1.toList.map fun d => .desiredState d.onWire) none w
          ((trackerCall env c).run w).2) := by
  have hsection (hs : c.suppressed w.tracker.settings = false) :
      (w.tracker.setterSection c).1 = some (c.snapshot w.tracker) := by
    rcases setterSection_cases w.tracker c with ⟨hn, _⟩ | ⟨_, h⟩
    · rw [hs] at hn
      cases hn
    · rw [h]
  have hafter : Silent w (w.afterSection c) := rfl
  rcases trackerCall_cases env c w with ⟨hs, h⟩ | ⟨hs, e, _, h⟩ | ⟨hs, body, hb, _, h⟩ |
    ⟨hs, body, hb, _, h⟩
  · have hnone : (w.tracker.setterSection c).1 = none := by
      rcases setterSection_cases w.tracker c with ⟨_, h⟩ | ⟨hn, _⟩
      · rw [h]
      · rw [hs] at hn
        cases hn
    rw [h, hnone]
    exact ⟨⟨[], none, List.nil_prefix, Says.nothing rfl⟩, fun _ => Says.nothing rfl⟩
  · rw [h]
    exact ⟨⟨[], none, List.nil_prefix, Says.nothing hafter⟩, fun hok => by cases hok⟩
  · obtain ⟨_, hraised⟩ := Says.write (w.afterSection c) (ofFrame_desiredState hb)
    rw [h, hsection hs]
    exact ⟨⟨[], some _, List.prefix_rfl, hraised.after hafter⟩, fun hok => by cases hok⟩
  · obtain ⟨htaken, _⟩ := Says.write (w.afterSection c) (ofFrame_desiredState hb)
    have hspeaks := htaken.after hafter
    rw [h, hsection hs]
    exact ⟨⟨[_], none, List.prefix_rfl, hspeaks⟩, fun _ => hspeaks⟩

/-- A row of them: what is said is the front of their snapshots, and all if they all return. -/
theorem utters_trackerCalls (cs : List (SetterCall F)) (w : World F) :
    Utters ((w.tracker.snapshots cs).map fun d => .desiredState d.onWire) w
        ((Effect.each (trackerCall env) cs).run w).2 ∧
      (((Effect.each (trackerCall env) cs).run w).1 = .ok () →
        Says ((w.tracker.snapshots cs).map fun d => .desiredState d.onWire) none w
          ((Effect.each (trackerCall env) cs).run w).2) := by
  induction cs generalizing w with
  | nil => exact ⟨⟨[], none, List.nil_prefix, Says.nothing rfl⟩, fun _ => Says.nothing rfl⟩
  | cons c cs ih =>
    obtain ⟨⟨sent, raised, hpre, hspeaks⟩, hall⟩ := utters_trackerCall env c w
    rw [Effect.each_cons_run, DeviceStateTracker.snapshots, List.map_append]
    cases hrun : ((trackerCall env c).run w).1 with
    | error e =>
      rw [Effect.andThen_of_error hrun]
      exact ⟨⟨sent, raised, hpre.trans (List.prefix_append _ _), hspeaks⟩, fun hok => by cases hok⟩
    | ok _ =>
      obtain ⟨⟨more, raised', hpre', hspeaks'⟩, hall'⟩ := ih ((trackerCall env c).run w).2
      rw [(trackerCall_frame env c w).1] at hpre' hall'
      have hfirst := hall hrun
      rw [Effect.andThen_of_ok hrun]
      refine ⟨⟨_, raised', ?_, hfirst.trans hspeaks'⟩, fun hok => hfirst.trans (hall' hok)⟩
      rw [List.append_assoc]
      exact (List.prefix_append_right_inj _).mpr hpre'

theorem utters_setter (c : Setter F) (w : World F) :
    Utters (c.messages w) w ((c.call env).run w).2 ∧
      (((c.call env).run w).1 = .ok () → Says (c.messages w) none w ((c.call env).run w).2) := by
  rw [setter_call_run, Setter.messages]
  cases c.check w with
  | error e => exact ⟨⟨[], none, List.nil_prefix, Says.nothing rfl⟩, fun hok => by cases hok⟩
  | ok _ => exact utters_trackerCalls env c.trackerCalls w

theorem utters_disconnect (w : World F) :
    Utters ((Setter.setPtt false).messages w) w ((disconnect env).run w).2 := by
  have hclose : Moves Silent (callTransport env .close >>= fun _ =>
      Effect.update fun w : World F => { w with isOpen := false }) :=
    Silent.bind (silent_callTransport env fun ok => by cases ok <;> rfl) fun _ =>
      moves_update fun _ => rfl
  cases ho : w.isOpen with
  | false =>
    unfold disconnect
    rw [Effect.read_bind_run, if_pos ho]
    exact ⟨[], none, List.nil_prefix, Says.nothing rfl⟩
  | true =>
    rw [disconnect_run env ho]
    split
    · -- A radio that is ready lets go of PTT first, whatever that raises.
      obtain ⟨⟨sent, raised, hpre, hspeaks⟩, _⟩ := utters_setter env (.setPtt false) w
      exact ⟨sent, raised, hpre, hspeaks.before (hclose ((setPtt env false).run w).2)⟩
    · exact ⟨[], none, List.nil_prefix, Says.nothing (hclose w)⟩

/-- A step says the front of what it has to say, and a setter that returns says all of it. -/
theorem utters_step {w : World F} (haudio : w.tracker.txAudioCommand ≠ commandHostDesiredState)
    (op : Op F) : Utters (op.messages w) w (w.step env op) ∧
      ∀ c, op = .setter c → ((op.call env).run w).1 = .ok () →
        Says (op.messages w) none w (w.step env op) := by
  have hone (c : Setter F) : [c].flatMap (Setter.messages w) = c.messages w :=
    List.flatMap_singleton _ c
  have hnothing {v : World F} (h : Silent w v) (ms : List (HostMessage F)) : Utters ms w v :=
    ⟨[], none, List.nil_prefix, Says.nothing h⟩
  cases op with
  | connect early waiting =>
    exact ⟨hnothing (silent_connect env early waiting w) _, fun c h => by cases h⟩
  | disconnect =>
    have hmessages : Op.disconnect.messages w = (Setter.setPtt false).messages w := hone _
    rw [hmessages]
    exact ⟨utters_disconnect env w, fun c h => by cases h⟩
  | reset waiting => exact ⟨hnothing (silent_reset env waiting w) _, fun c h => by cases h⟩
  | setter c =>
    have hmessages : (Op.setter c).messages w = c.messages w := hone _
    rw [hmessages]
    exact ⟨(utters_setter env c w).1, fun _ _ => (utters_setter env c w).2⟩
  | sendTxAudio payload waiting =>
    refine ⟨?_, fun c h => by cases h⟩
    rw [World.step, Op.call, sendTxAudio, requireReady_bind_run]
    cases hc : w.checkReady with
    | error e => exact hnothing (Silent.refl w) _
    | ok _ =>
      rw [Op.messages, if_pos (checkReady_eq_ok.mp hc)]
      exact utters_claimAndWrite env (ofFrame_vendor haudio payload) waiting w
  | sendAx25Frame payload waiting =>
    exact ⟨utters_claimAndWrite env (ofFrame_data payload) waiting w, fun c h => by cases h⟩
  | receive arrival => exact ⟨hnothing (silent_receive env arrival w) _, fun c h => by cases h⟩

/-- What was written so far are messages, and audio does not go out as a desired state. -/
structure Understood (w : World F) : Prop where
  spoken : Spoken w
  audio : w.tracker.txAudioCommand ≠ commandHostDesiredState

theorem audio_survives : Survives (F := F) (fun _ => True)
    fun w => w.tracker.txAudioCommand ≠ commandHostDesiredState where
  quiet h hI := by
    obtain ⟨last, ht⟩ := h.tracker
    rw [ht]
    exact hI
  hello _ _ := txAudioCommand_takeHello _ _
  report _ hI := hI
  error _ hI := hI
  clearError hI := hI
  isOpen _ hI := hI
  call _ _ hI := hI
  audio hI := hI

theorem Understood.step {w : World F} (hI : Understood w) (op : Op F) :
    Understood (w.step env op) := by
  obtain ⟨⟨_, _, _, hspeaks⟩, _⟩ := utters_step env hI.audio op
  refine ⟨hspeaks.spoken hI.spoken, audio_survives.step hI.audio op (fun _ _ => trivial) ?_⟩
  have hcall (c : SetterCall F) :
      Keeps (fun w => w.tracker.txAudioCommand ≠ commandHostDesiredState) (trackerCall env c) := by
    intro w hI
    rw [(tracker_trackerCall env c w).2.2]
    exact hI
  exact fun c _ _ => keeps_each (fun c _ => hcall c) w hI.audio

theorem understood_init : Understood (World.init : World F) := by
  have haudio : commandAudioOpus ≠ commandHostDesiredState := by decide
  exact ⟨fun _ h => (List.not_mem_nil h).elim, haudio⟩

end Kv4p

import Kv4p.DummyTransport

/-! What becomes of the credit of a session: the window against the frames handed to the transport
since HELLO, whether their `write_frame` returned or raised. -/
namespace Kv4p
open Effects

variable {F : Type}

/-- A call of `write_frame`, and whether it returned. -/
structure Write where
  frame : KissFrame
  returned : Bool
deriving DecidableEq, Repr

/-- The bytes `_claim_and_write` claims for the frame. -/
def Write.size (write : Write) : ℤ :=
  (encodeKissFrame write.frame.command write.frame.payload).length

def totalSize (writes : List Write) : ℤ := (writes.map Write.size).sum

/-- The calls since HELLO after one more event. -/
def writesAfter (writes : List Write) : Event F → List Write
  | .transport (.writeFrame command payload) ok => writes++[⟨⟨command, payload⟩, ok⟩]
  | .transport _ _ => writes
  | .hello _ => []
  | .callback _ _ => writes

/-- The calls of `write_frame` since the last HELLO. -/
def writesSinceHello (log : List (Event F)) : List Write := log.foldl writesAfter []

theorem writesSinceHello_concat (log : List (Event F)) (e : Event F) :
    writesSinceHello (log++[e]) = writesAfter (writesSinceHello log) e := by
  rw [writesSinceHello, writesSinceHello, List.foldl_append]
  rfl

theorem totalSize_append (xs ys : List Write) :
    totalSize (xs++ys) = totalSize xs+totalSize ys := by
  rw [totalSize, List.map_append, List.sum_append, totalSize, totalSize]

/-- Every frame has its two FENDs and a command. -/
theorem size_pos (write : Write) : 0 < write.size := by
  rw [Write.size, encodeKissFrame]
  simp only [List.length_append, List.length_cons]
  omega

theorem totalSize_returned_le (writes : List Write) :
    totalSize (writes.filter Write.returned) ≤ totalSize writes := by
  induction writes with
  | nil => exact le_rfl
  | cons write writes ih =>
    have hpos := size_pos write
    simp only [List.filter_cons, totalSize, List.map_cons, List.sum_cons] at ih ⊢
    split
    · rw [List.map_cons, List.sum_cons]
      omega
    · omega

/-- The frames that went out weigh as much as all frames exactly if all of them went out. -/
theorem totalSize_returned_iff (writes : List Write) :
    totalSize (writes.filter Write.returned) = totalSize writes ↔
      ∀ write ∈ writes, write.returned = true := by
  induction writes with
  | nil => exact iff_of_true rfl fun _ h => nomatch h
  | cons write writes ih =>
    have hpos := size_pos write
    have hrest := totalSize_returned_le writes
    rw [List.forall_mem_cons, List.filter_cons]
    simp only [totalSize, List.map_cons, List.sum_cons] at ih hrest ⊢
    split
    · rename_i hret
      rw [List.map_cons, List.sum_cons, add_right_inj]
      exact ih.trans (and_iff_right hret).symm
    · rename_i hret
      exact iff_of_false (by omega) fun h => hret h.1

/-- From `w` to `v` the window gains `credit`, and no frame is handed to the transport. -/
structure Gains (credit : ℤ) (w v : World F) : Prop where
  flow : v.flow.size = w.flow.size+credit
  writes : writesSinceHello v.log = writesSinceHello w.log

theorem Gains.refl (w : World F) : Gains 0 w w := ⟨(add_zero _).symm, rfl⟩

theorem Gains.trans {u v w : World F} {k l : ℤ} (huv : Gains k u v) (hvw : Gains l v w) :
    Gains (k+l) u w := by
  constructor
  · rw [hvw.flow, huv.flow, add_assoc]
  · rw [hvw.writes, huv.writes]

/-- From `w` to `v` the window gains `credit` and loses the bytes of every frame handed to the
transport. -/
def Pays (credit : ℤ) (w v : World F) : Prop :=
  ∃ writes, writesSinceHello v.log = writesSinceHello w.log++writes ∧
    v.flow.size = w.flow.size+credit-totalSize writes

namespace Pays

theorem of_gains {w v : World F} {credit : ℤ} (h : Gains credit w v) : Pays credit w v := by
  refine ⟨[], ?_, ?_⟩
  · rw [h.writes, List.append_nil]
  · rw [h.flow, totalSize, List.map_nil, List.sum_nil, sub_zero]

theorem refl (w : World F) : Pays 0 w w := of_gains (Gains.refl w)

theorem trans {u v w : World F} {k l : ℤ} (huv : Pays k u v) (hvw : Pays l v w) :
    Pays (k+l) u w := by
  obtain ⟨xs, hxs, hflow⟩ := huv
  obtain ⟨ys, hys, hflow'⟩ := hvw
  refine ⟨xs++ys, ?_, ?_⟩
  · rw [hys, hxs, List.append_assoc]
  · rw [hflow', hflow, totalSize_append]
    omega

end Pays

variable (env : Environment F)

theorem Gains.allowsReports : AllowsReports (F := F) (Gains 0) where
  refl := Gains.refl
  trans := Gains.trans
  remember _ _ := ⟨(add_zero _).symm, rfl⟩
  callback w call ok := ⟨(add_zero _).symm, writesSinceHello_concat w.log (.callback call ok)⟩

theorem gains_onDeviceState (state : DeviceState F) (w : World F) :
    Gains 0 w ((onDeviceState env state).run w).2 := by
  have hreport := Gains.allowsReports.onDeviceState env state w
  exact ⟨hreport.flow, hreport.writes⟩

variable [PyFloat F]

/-- What a body adds to the window as a window update. -/
def updateCredit (F : Type) [PyFloat F] (body : List UInt8) : ℤ :=
  match (WindowUpdate.fromBytes body : Except (PyError F) WindowUpdate) with
  | .ok update => update.size
  | .error _ => 0

/-- The size in a WINDOW_UPDATE frame. Other frames grant nothing. -/
def Arrival.credit (F : Type) [PyFloat F] : Arrival → ℤ
  | .frame kissCommand payload =>
    match vendorCommand kissCommand payload with
    | some (command, body) => if command = commandWindowUpdate then updateCredit F body else 0
    | none => 0
  | .error _ => 0

theorem gains_handleDeviceState (body : List UInt8) : Moves (Gains 0) (handleDeviceState env body) := by
  apply Gains.allowsReports.bind (moves_ofExcept Gains.refl _)
  intro state
  exact Gains.allowsReports.bind (gains_onDeviceState env state) fun _ =>
    Gains.allowsReports.invoke env _

theorem gains_handleWindowUpdate (body : List UInt8) :
    Moves (Gains (updateCredit F body)) (handleWindowUpdate body : RadioM F Unit) := by
  intro w
  unfold handleWindowUpdate updateCredit
  rw [Effect.bind_run, Effect.ofExcept_run]
  cases (WindowUpdate.fromBytes body : Except (PyError F) WindowUpdate) with
  | error e => exact Gains.refl w
  | ok update => exact ⟨rfl, rfl⟩

theorem handles_gains {command : UInt8} {body : List UInt8} {w v : World F}
    (h : Handles env body w command v)
    (hno : command = commandHello →
      (Hello.fromBytes body : Except (PyError F) (Hello F)).toOption = none) :
    Gains (if command = commandWindowUpdate then updateCredit F body else 0) w v := by
  have hother {command : UInt8} {v : World F} (hne : command ≠ commandWindowUpdate)
      (h : Gains 0 w v) :
      Gains (if command = commandWindowUpdate then updateCredit F body else 0) w v := by
    rwa [if_neg hne]
  cases h with
  | ignored _ _ hupdate => exact hother hupdate (Gains.refl w)
  | hello =>
    apply hother (by decide)
    have hp := hno rfl
    rw [handleHello, Effect.bind_run, Effect.ofExcept_run]
    cases hb : (Hello.fromBytes body : Except (PyError F) (Hello F)) with
    | error e => exact Gains.refl w
    | ok hello =>
      rw [hb] at hp
      cases hp
  | deviceState => exact hother (by decide) (gains_handleDeviceState env body w)
  | rxAudio haudio =>
    refine hother ?_ (Gains.allowsReports.invoke env _ w)
    rcases haudio with rfl | rfl <;> decide
  | windowUpdate =>
    rw [if_pos rfl]
    exact gains_handleWindowUpdate body w

/-- An arrival without a HELLO adds what its window update grants. -/
theorem receive_gains {a : Arrival} (ha : (a.hello : Option (Hello F)) = none) :
    Moves (Gains (a.credit F)) (receive env a) := by
  intro w
  cases a with
  | error exc => exact ⟨(add_zero _).symm, rfl⟩
  | frame kissCommand payload =>
    rw [hello_frame] at ha
    rw [receive, Effect.attempt_run, Arrival.credit]
    rcases onKissFrame_cases env kissCommand payload w with ⟨_, hnone, h⟩ | ⟨_, hnone, h⟩ |
      ⟨command, body, v, hsome, h, hv⟩
    · rw [hnone, h]
      exact Gains.allowsReports.invoke env _ w
    · rw [hnone, h]
      exact Gains.refl w
    · -- Only a vendor command can carry credit.
      rw [hsome] at ha ⊢
      rw [h]
      apply handles_gains env hv
      rintro rfl
      exact ha

theorem handles_hello {command : UInt8} {body : List UInt8} {w v : World F}
    (h : Handles env body w command v) (hc : command = commandHello) :
    v = ((handleHello env body).run w).2 := by
  cases h with
  | ignored hhello => exact absurd hc hhello
  | hello => rfl
  | deviceState => exact absurd hc (by decide)
  | rxAudio haudio =>
    rcases haudio with rfl | rfl
    · exact absurd hc (by decide)
    · exact absurd hc (by decide)
  | windowUpdate => exact absurd hc (by decide)

/-- HELLO opens a new ledger: the window it announces, and no frame yet. -/
theorem handleHello_opens {body : List UInt8} {hello : Hello F}
    (hb : Hello.fromBytes body = .ok hello) (w : World F) :
    ((handleHello env body).run w).2.flow.size = hello.version.windowSize ∧
      writesSinceHello ((handleHello env body).run w).2.log = [] := by
  let u := { w with flow := w.flow.reset hello.version.windowSize }
  have hrun : (handleHello env body).run w =
      (onDeviceState env hello.deviceState).run (u.takeHello hello) := by
    rw [handleHello, Effect.bind_run, Effect.ofExcept_run, hb]
    rfl
  have hnone : writesSinceHello (u.takeHello hello).log = [] :=
    writesSinceHello_concat w.log (.hello hello)
  have hreport := gains_onDeviceState env hello.deviceState (u.takeHello hello)
  rw [hrun, hreport.flow, hreport.writes, add_zero]
  exact ⟨rfl, hnone⟩

theorem receive_hello_opens {a : Arrival} {hello : Hello F} (ha : a.hello = some hello)
    (w : World F) :
    ((receive env a).run w).2.flow.size = hello.version.windowSize ∧
      writesSinceHello ((receive env a).run w).2.log = [] := by
  cases a with
  | error exc => cases ha
  | frame kissCommand payload =>
    rw [hello_frame] at ha
    rw [receive, Effect.attempt_run]
    rcases onKissFrame_cases env kissCommand payload w with ⟨_, hnone, _⟩ | ⟨_, hnone, _⟩ |
      ⟨command, body, v, hsome, h, hv⟩
    · rw [hnone] at ha
      cases ha
    · rw [hnone] at ha
      cases ha
    · rw [hsome, Option.bind_some] at ha
      split at ha
      · rename_i hcommand
        rw [h, handles_hello env hv hcommand]
        cases hb : (Hello.fromBytes body : Except (PyError F) (Hello F)) with
        | error e =>
          rw [hb] at ha
          cases ha
        | ok opened =>
          rw [hb] at ha
          cases ha
          exact handleHello_opens env hb w
      · cases ha

/-- What arrives while a claim waits: all of it, or up to the update that makes the window wide
enough. -/
def heard (F : Type) [PyFloat F] (size window : ℤ) : List Arrival → List Arrival
  | [] => []
  | a :: waiting => if window < size then a :: heard F size (window+a.credit F) waiting else []

def totalCredit (F : Type) [PyFloat F] (arrivals : List Arrival) : ℤ :=
  (arrivals.map (Arrival.credit F)).sum

/-- A claim adds what it hears, and takes its size if it is granted. -/
theorem claim_ledger (size : ℤ) {waiting : List Arrival}
    (hno : ∀ a ∈ waiting, (a.hello : Option (Hello F)) = none) (w : World F) :
    ∃ claimed, ((claim env size waiting).run w).1 = .ok claimed ∧
      Gains (totalCredit F (heard F size w.flow.size waiting)-if claimed then size else 0) w
        ((claim env size waiting).run w).2 := by
  have hgranted {flow : FlowControlWindow} {u : World F} (hc : u.flow.tryClaim size = some flow) :
      Gains (0-size) u { u with flow := flow } := by
    obtain ⟨_, rfl⟩ := FlowControlWindow.tryClaim_eq_some.mp hc
    exact ⟨by dsimp only; omega, rfl⟩
  induction waiting generalizing w with
  | nil =>
    simp only [claim, Effect.read_bind_run]
    cases hc : w.flow.tryClaim size with
    | none => exact ⟨false, rfl, Gains.refl w⟩
    | some flow => exact ⟨true, rfl, hgranted hc⟩
  | cons a waiting ih =>
    simp only [claim, Effect.read_bind_run]
    cases hc : w.flow.tryClaim size with
    | none =>
      have ha := receive_gains env (hno a List.mem_cons_self) w
      obtain ⟨claimed, hok, hgain⟩ :=
        ih (fun b hb => hno b (List.mem_cons_of_mem a hb)) ((receive env a).run w).2
      refine ⟨claimed, ?_, ?_⟩
      · rw [Effect.bind_run, Effect.andThen_of_ok (receive_ok env a w)]
        exact hok
      · rw [Effect.bind_run, Effect.andThen_of_ok (receive_ok env a w), heard,
          if_pos (FlowControlWindow.tryClaim_eq_none.mp hc), totalCredit, List.map_cons,
          List.sum_cons, add_sub_assoc]
        rw [ha.flow] at hgain
        exact ha.trans hgain
    | some flow =>
      have hle := (FlowControlWindow.tryClaim_eq_some.mp hc).1
      rw [heard, if_neg (not_lt.mpr hle)]
      exact ⟨true, rfl, hgranted hc⟩

theorem claimAndWrite_pays (kissCommand : UInt8) (payload : List UInt8) {waiting : List Arrival}
    (hno : ∀ a ∈ waiting, (a.hello : Option (Hello F)) = none) (w : World F) :
    Pays (totalCredit F
        (heard F (encodeKissFrame kissCommand payload).length w.flow.size waiting)) w
      ((claimAndWrite env kissCommand payload true waiting).run w).2 := by
  obtain ⟨claimed, hok, hgain⟩ :=
    claim_ledger env (encodeKissFrame kissCommand payload).length hno w
  unfold claimAndWrite
  rw [if_pos rfl, Effect.bind_run, Effect.andThen_of_ok hok]
  cases claimed with
  | false =>
    rw [if_neg Bool.noConfusion, sub_zero] at hgain
    exact Pays.of_gains hgain
  | true =>
    rw [if_pos rfl] at hgain ⊢
    have hwritten (ok : Bool) : Pays
        (totalCredit F (heard F (encodeKissFrame kissCommand payload).length w.flow.size waiting)) w
        (((claim env (encodeKissFrame kissCommand payload).length waiting).run w).2.record
          (.transport (.writeFrame kissCommand payload) ok)) := by
      refine ⟨[⟨⟨kissCommand, payload⟩, ok⟩], ?_, ?_⟩
      · rw [World.record, writesSinceHello_concat, writesAfter, hgain.writes]
      · rw [World.record, hgain.flow, totalSize, List.map_singleton, List.sum_singleton]
        exact (add_sub_assoc _ _ _).symm
    rcases callTransport_cases env (.writeFrame kissCommand payload)
      ((claim env (encodeKissFrame kissCommand payload).length waiting).run w).2 with
      ⟨_, hc⟩ | ⟨_, hc⟩
    · rw [hc]
      exact hwritten false
    · rw [hc]
      exact hwritten true

/-- The steps of a run that only sends flow-controlled frames: a send, or an arrival without a HELLO,
also while a send waits. -/
inductive Traffic : Op F → Prop
  | txAudio (payload : List UInt8) {waiting : List Arrival}
      (hno : ∀ a ∈ waiting, (a.hello : Option (Hello F)) = none) :
      Traffic (.sendTxAudio payload waiting)
  | ax25Frame (payload : List UInt8) {waiting : List Arrival}
      (hno : ∀ a ∈ waiting, (a.hello : Option (Hello F)) = none) :
      Traffic (.sendAx25Frame payload waiting)
  | arrival {a : Arrival} (hno : (a.hello : Option (Hello F)) = none) : Traffic (.receive a)

/-- What is received during a step of traffic. Only a radio that is ready waits to send audio. -/
def Op.received (w : World F) : Op F → List Arrival
  | .sendTxAudio payload waiting =>
    if w.isReady then
      heard F (encodeKissFrame kissCmdSethardware
        (encodeVendorPayload w.tracker.txAudioCommand payload)).length w.flow.size waiting
    else []
  | .sendAx25Frame payload waiting =>
    heard F (encodeKissFrame kissCmdData payload).length w.flow.size waiting
  | .receive a => [a]
  | _ => []

/-- The sizes of all window updates received in a run. -/
def credited (w : World F) : List (Op F) → ℤ
  | [] => 0
  | op :: ops => totalCredit F (op.received w)+credited (w.step env op) ops

theorem step_pays {op : Op F} (hop : Traffic op) (w : World F) :
    Pays (totalCredit F (op.received w)) w (w.step env op) := by
  cases hop with
  | txAudio payload hno =>
    rw [World.step, Op.call, sendTxAudio, requireReady_bind_run, Op.received]
    cases hr : w.checkReady with
    | error e =>
      have hnot : ¬ w.isReady = true := by
        rw [← checkReady_eq_ok, hr]
        intro h
        cases h
      rw [if_neg hnot]
      exact Pays.refl w
    | ok _ =>
      rw [if_pos (checkReady_eq_ok.mp hr)]
      exact claimAndWrite_pays env kissCmdSethardware _ hno w
  | ax25Frame payload hno => exact claimAndWrite_pays env kissCmdData payload hno w
  | @arrival a hno =>
    have hone : totalCredit F [a] = a.credit F := by
      rw [totalCredit, List.map_singleton, List.sum_singleton]
    rw [Op.received, hone]
    exact Pays.of_gains (receive_gains env hno w)

theorem run_pays {ops : List (Op F)} (hops : ∀ op ∈ ops, Traffic op) (w : World F) :
    Pays (credited env w ops) w (w.run env ops) := by
  induction ops generalizing w with
  | nil => exact Pays.refl w
  | cons op ops ih =>
    have hstep := step_pays env (hops op List.mem_cons_self) w
    exact hstep.trans (ih (fun o ho => hops o (List.mem_cons_of_mem op ho)) (w.step env op))

theorem writes_subset {pre ops : List (Op F)} (hops : ∀ op ∈ ops, Traffic op)
    (hpre : pre <+: ops) (w : World F) :
    writesSinceHello (w.run env pre).log ⊆ writesSinceHello (w.run env ops).log := by
  obtain ⟨rest, rfl⟩ := hpre
  obtain ⟨writes, hwrites, _⟩ :=
    run_pays env (fun op ho => hops op (List.mem_append_right pre ho)) (w.run env pre)
  have hrun : w.run env (pre++rest) = (w.run env pre).run env rest := List.foldl_append
  rw [hrun, hwrites]
  exact List.subset_append_left _ _

/-- The credit of HELLO and of the window updates since then, less the bytes of the frames whose
`write_frame` returned, is what the window holds. -/
def CreditSpent (hello : Hello F) (w : World F) (ops : List (Op F)) : Prop :=
  (w.run env ops).flow.size = hello.version.windowSize+credited env w ops-
    totalSize ((writesSinceHello (w.run env ops).log).filter Write.returned)

instance (hello : Hello F) (w : World F) (ops : List (Op F)) :
    Decidable (CreditSpent env hello w ops) :=
  inferInstanceAs (Decidable (_ = _))

theorem creditSpent_iff (w : World F) {a : Arrival} {hello : Hello F} (ha : a.hello = some hello)
    {ops : List (Op F)} (hops : ∀ op ∈ ops, Traffic op) :
    CreditSpent env hello ((receive env a).run w).2 ops ↔
      ∀ write ∈ writesSinceHello (((receive env a).run w).2.run env ops).log,
        write.returned = true := by
  obtain ⟨hsize, hnone⟩ := receive_hello_opens env ha w
  obtain ⟨writes, hwrites, hflow⟩ := run_pays env hops ((receive env a).run w).2
  rw [hnone, List.nil_append] at hwrites
  rw [CreditSpent, hflow, hsize, hwrites, sub_right_inj, eq_comm]
  exact totalSize_returned_iff writes

/-- After a HELLO, credit is spent only on frames that went out, after every operation of a run,
exactly if no `write_frame` of the run raises. -/
theorem credit_only_on_frames_iff (w : World F) {a : Arrival} {hello : Hello F}
    (ha : a.hello = some hello) {ops : List (Op F)} (hops : ∀ op ∈ ops, Traffic op) :
    (∀ pre, pre <+: ops → CreditSpent env hello ((receive env a).run w).2 pre) ↔
      ∀ write ∈ writesSinceHello (((receive env a).run w).2.run env ops).log,
        write.returned = true := by
  constructor
  · intro h
    exact (creditSpent_iff env w ha hops).mp (h ops List.prefix_rfl)
  · intro h pre hpre
    have htraffic : ∀ op ∈ pre, Traffic op := fun op ho => hops op (hpre.subset ho)
    apply (creditSpent_iff env w ha htraffic).mpr
    intro write hw
    exact h write (writes_subset env hops hpre _ hw)

/-- The HELLO frame of the dummy transport. -/
def dummyAnnouncement : Arrival := dummyTransport.helloFrames.headD (.error "")

/-- Two frames go out, and an update for the first arrives between them. -/
theorem credit_only_on_frames_dummy :
    CreditSpent faultless dummyHello
      ((receive faultless dummyAnnouncement).run { World.init with isOpen := true }).2
      [.sendTxAudio [0x41] [],
        .receive (.frame kissCmdSethardware (encodeVendorPayload commandWindowUpdate [10, 0, 0, 0])),
        .sendAx25Frame [0xC0] []] := by
  refine (credit_only_on_frames_iff faultless { World.init with isOpen := true }
    (a := dummyAnnouncement) (by decide +kernel) ?_).mpr (by decide +kernel) _ List.prefix_rfl
  simp only [List.forall_mem_cons]
  exact ⟨.txAudio _ fun _ h => (nomatch h), .arrival (by decide +kernel),
    .ax25Frame _ fun _ h => (nomatch h), fun _ h => nomatch h⟩

/-- The serial port refuses one frame of audio: its ten bytes are gone from the window, and no frame
went out. -/
theorem refused_frame_keeps_credit :
    let env := refusesAt 1
    let w := ((receive env dummyAnnouncement).run { World.init with isOpen := true }).2
    let ops := [.sendTxAudio [0x41] []]
    dummyAnnouncement.hello = some dummyHello ∧ ((sendTxAudio env [0x41] []).run w).1 =
        .error .transportRaised ∧
      dummyHello.version.windowSize = 2048 ∧ (w.run env ops).flow.size = 2038 ∧
      (writesSinceHello (w.run env ops).log).filter Write.returned = [] ∧
      ¬ ∀ pre, pre <+: ops → CreditSpent env dummyHello w pre := by
  refine ⟨by decide +kernel, by decide +kernel, by decide +kernel, by decide +kernel,
    by decide +kernel, ?_⟩
  intro h
  have hspent := h _ List.prefix_rfl
  revert hspent
  decide +kernel

end Kv4p

import Kv4p.Handshake

/-! What a radio that is ready knows of the current session. A session starts when the transport is
opened; the HELLO of the session before it is still there. -/
namespace Kv4p
open Effects Transitions

variable {F : Type}

/-- The HELLO known to the session after one more event. -/
def helloAfter (known : Option (Hello F)) : Event F → Option (Hello F)
  | .transport .open _ => none
  | .transport _ _ => known
  | .hello hello => some hello
  | .callback _ _ => known

/-- The last HELLO taken over since the last call of `transport.open()`. -/
def sessionHello (log : List (Event F)) : Option (Hello F) := log.foldl helloAfter none

theorem sessionHello_concat (log : List (Event F)) (e : Event F) :
    sessionHello (log++[e]) = helloAfter (sessionHello log) e := by
  rw [sessionHello, sessionHello, List.foldl_append]
  rfl

theorem helloAfter_transport {call : TransportCall} (ho : call ≠ .open) (ok : Bool)
    (known : Option (Hello F)) : helloAfter known (.transport call ok) = known := by
  cases call with
  | «open» => exact absurd rfl ho
  | close => rfl
  | reset => rfl
  | writeFrame command payload => rfl

theorem sessionHello_quiet {w v : World F} (h : Quiet w v) :
    sessionHello v.log = sessionHello w.log :=
  h.foldl_log (fun _ _ _ => rfl) none

/-- A radio that is ready took over a HELLO in this session, and `hello` is the last of them. -/
def Current (w : World F) : Prop :=
  w.isReady = true → ∃ hello, sessionHello w.log = some hello ∧ w.tracker.hello = some hello

variable [PyFloat F]

/-- No desired state was handed to the transport before the session had its HELLO. -/
def SentInSession (log : List (Event F)) : Prop :=
  ∀ before call ok, before++[Event.transport call ok] <+: log →
    (call.desiredState : Option (HostDesiredState F)).isSome = true →
      (sessionHello before).isSome = true

theorem sentInSession_concat {log : List (Event F)} (h : SentInSession log) {e : Event F}
    (he : ∀ call ok, e = .transport call ok →
      (call.desiredState : Option (HostDesiredState F)).isSome = true →
        (sessionHello log).isSome = true) : SentInSession (log++[e]) := by
  intro before call ok hprefix hsend
  rcases List.prefix_concat_iff.mp hprefix with heq | hprefix
  · obtain ⟨hlog, hlast⟩ := List.append_inj' heq rfl
    rw [hlog]
    exact he call ok (List.singleton_inj.mp hlast).symm hsend
  · exact h before call ok hprefix hsend

theorem sentInSession_callbacks {log calls : List (Event F)} (h : SentInSession log)
    (hc : ∀ e ∈ calls, ∃ c ok, e = Event.callback c ok) : SentInSession (log++calls) := by
  induction calls generalizing log with
  | nil => rwa [List.append_nil]
  | cons e calls ih =>
    rw [List.append_cons]
    apply ih
    · obtain ⟨c, ok, rfl⟩ := hc e List.mem_cons_self
      exact sentInSession_concat h fun _ _ he => nomatch he
    · exact fun e he => hc e (List.mem_cons_of_mem _ he)

/-- If no transport error is recorded, `hello` is the HELLO of this session. -/
def Linked (w : World F) : Prop :=
  w.transportError = none → w.tracker.hello.isSome = true →
    sessionHello w.log = w.tracker.hello

structure InSession (w : World F) : Prop where
  audio : w.tracker.txAudioCommand ≠ commandHostDesiredState
  linked : w.isOpen = true → Linked w
  sent : SentInSession w.log

namespace InSession

omit [PyFloat F] in
theorem ready_linked {w : World F} (hlinked : w.isOpen = true → Linked w) : Current w := by
  intro hready
  simp only [World.isReady, Bool.and_eq_true, Option.isNone_iff_eq_none] at hready
  obtain ⟨⟨hopen, herror⟩, hknown⟩ := hready
  obtain ⟨hello, hhello⟩ := Option.isSome_iff_exists.mp hknown
  exact ⟨hello, (hlinked hopen herror hknown).trans hhello, hhello⟩

theorem init : InSession (World.init : World F) := by
  constructor
  · have haudio : commandAudioOpus ≠ commandHostDesiredState := by decide
    exact haudio
  · intro h
    cases h
  · intro before call ok hprefix
    have hlen := hprefix.length_le
    simp [World.init] at hlen

/-- Nothing but HELLO and `transport.open()` touches the session. -/
theorem extend {w v : World F} (hI : InSession w) (ht : v.tracker.hello = w.tracker.hello)
    (ha : v.tracker.txAudioCommand = w.tracker.txAudioCommand)
    (hopen : v.isOpen = true → w.isOpen = true)
    (herror : v.transportError = none → w.transportError = none)
    (hhello : sessionHello v.log = sessionHello w.log) (hsent : SentInSession v.log) :
    InSession v := by
  constructor
  · rw [ha]
    exact hI.audio
  · intro ho he
    rw [ht, hhello]
    exact hI.linked (hopen ho) (herror he)
  · exact hsent

theorem record {w : World F} (hI : InSession w) {call : TransportCall} (ho : call ≠ .open)
    (ok : Bool) (hsend : (call.desiredState : Option (HostDesiredState F)).isSome = true →
      (sessionHello w.log).isSome = true) : InSession (w.record (.transport call ok)) := by
  apply hI.extend (v := w.record (.transport call ok)) rfl rfl id id
  · rw [World.record, sessionHello_concat, helloAfter_transport ho]
  · apply sentInSession_concat hI.sent
    rintro call' ok' ⟨rfl, rfl⟩
    exact hsend

theorem keptInSession : KeptInSession (F := F) (fun _ => True) InSession where
  quiet {w v} h hI := by
    obtain ⟨last, ht⟩ := h.tracker
    obtain ⟨calls, hlog, hc⟩ := h.log
    apply hI.extend (by rw [ht]) (by rw [ht]) (by rw [h.isOpen]; exact id)
      (by rw [h.transportError]; exact id) (sessionHello_quiet h)
    rw [hlog]
    exact sentInSession_callbacks hI.sent hc
  hello {w payload hello} _ hI := by
    constructor
    · exact txAudioCommand_takeHello w hello
    · intro _ _ _
      exact sessionHello_concat w.log (.hello hello)
    · exact sentInSession_concat hI.sent fun _ _ he => nomatch he
  report _ hI := hI.extend rfl rfl id id rfl hI.sent
  error {w exc} _ hI := hI.extend rfl rfl id (fun h => nomatch h) rfl hI.sent
  closed hI := hI.extend rfl rfl (fun h => nomatch h) id rfl hI.sent
  call {w call} ok hc ho hI := by
    refine hI.record ho ok fun hsend => ?_
    rw [desiredState_of_harmless hc] at hsend
    cases hsend
  audio hI := hI.audio

/-- A tracker setter keeps the session, if the session has its HELLO. -/
theorem trackerCall (env : Environment F) (c : SetterCall F) :
    Keeps (fun w => InSession w ∧ (sessionHello w.log).isSome = true) (trackerCall env c) := by
  intro w hw
  obtain ⟨hI, hknown⟩ := hw
  have hsection : InSession (w.afterSection c) := by
    obtain ⟨hhello, _, _, haudio⟩ := setterSection_frame w.tracker c
    exact hI.extend hhello haudio id id rfl hI.sent
  have hsend (body : List UInt8) (ok : Bool) :
      InSession ((w.afterSection c).record (.transport (desiredCall body) ok)) ∧
        (sessionHello ((w.afterSection c).record
          (.transport (desiredCall body) ok)).log).isSome = true := by
    have hsame : sessionHello ((w.afterSection c).record (.transport (desiredCall body) ok)).log =
        sessionHello w.log := sessionHello_concat w.log _
    rw [hsame]
    exact ⟨hsection.record TransportCall.noConfusion ok fun _ => hknown, hknown⟩
  rcases trackerCall_cases env c w with ⟨_, h⟩ | ⟨_, e, _, h⟩ | ⟨_, body, _, _, h⟩ |
    ⟨_, body, _, _, h⟩ <;> rw [h]
  · exact ⟨hI, hknown⟩
  · exact ⟨hsection, hknown⟩
  · exact hsend body false
  · exact hsend body true

/-- A public setter of a radio that is ready. -/
theorem setter (env : Environment F) {w : World F} (hI : InSession w) (c : Setter F)
    (hready : w.isReady = true) :
    InSession ((Effect.each (Kv4p.trackerCall env) c.trackerCalls).run w).2 := by
  obtain ⟨hello, hsession, _⟩ := ready_linked hI.linked hready
  have hknown : (sessionHello w.log).isSome = true := by rw [hsession, Option.isSome_some]
  exact (keeps_each (fun tc _ => trackerCall env tc) w ⟨hI, hknown⟩).1

end InSession

/-- `connect` on a closed radio finds no HELLO from before, or gets one, or an error, before it marks
the radio open. -/
def OpensFresh (env : Environment F) (w : World F) : Op F → Prop
  | .connect early _ => w.isOpen = false → env.transportRaises .open w.log.length = false →
      w.tracker.hello = none ∨
        ∃ a ∈ early, (a.hello : Option (Hello F)).isSome = true ∨ a.isError = true
  | _ => True

/-- The closed radio once its transport is open. -/
def World.opened (w : World F) : World F :=
  { w with transportError := none }.record (.transport .open true)

theorem openTransport_run (env : Environment F) (early : List Arrival) (w : World F) :
    (openTransport env early).run w =
      if env.transportRaises .open w.log.length = true then
        (.error .transportRaised,
          { w with transportError := none }.record (.transport .open false))
      else (.ok (), { ((receiveAll env early).run w.opened).2 with isOpen := true }) := by
  unfold openTransport
  rw [Effect.bind_run, Effect.update_run, Effect.andThen_ok, Effect.bind_run]
  rcases callTransport_cases env .open { w with transportError := none } with ⟨hr, hc⟩ | ⟨hr, hc⟩
  · rw [if_pos hr, hc, Effect.andThen_error]
  · rw [if_neg (Bool.eq_false_iff.mp hr), hc, Effect.andThen_ok, Effect.bind_run,
      Effect.andThen_of_ok (receiveAll_ok env early _)]
    rfl

/-- A HELLO links the radio to its session, and a transport error makes the link void. -/
theorem receive_linked (env : Environment F) (a : Arrival) (w : World F) :
    Linked ((receive env a).run w).2 ↔
      Linked w ∨ (a.hello : Option (Hello F)).isSome = true ∨ a.isError = true := by
  cases a with
  | error exc =>
    have hvoid : Linked ((receive env (.error exc)).run w).2 := fun h => nomatch h
    exact iff_of_true hvoid (Or.inr (Or.inr rfl))
  | frame kissCommand payload =>
    obtain ⟨v, ht, hq⟩ := receive_takes env (.frame kissCommand payload) w
    have hsame : Linked ((receive env (.frame kissCommand payload)).run w).2 ↔ Linked v := by
      obtain ⟨last, htracker⟩ := hq.tracker
      rw [Linked, Linked, hq.transportError, htracker, sessionHello_quiet hq]
    rw [hsame]
    cases ht with
    | nothing _ ha => simp [ha, Arrival.isError]
    | hello _ payload hello ha _ =>
      have hlinked : Linked (w.takeHello hello) :=
        fun _ _ => sessionHello_concat w.log (.hello hello)
      exact iff_of_true hlinked (Or.inr (Or.inl (by rw [ha, Option.isSome_some])))
    | report _ payload state ha _ =>
      have hreport : Linked (w.takeReport state) ↔ Linked w := Iff.rfl
      simp [hreport, ha, Arrival.isError]

theorem receiveAll_linked (env : Environment F) (arrivals : List Arrival) (w : World F) :
    Linked ((receiveAll env arrivals).run w).2 ↔ Linked w ∨
      ∃ a ∈ arrivals, (a.hello : Option (Hello F)).isSome = true ∨ a.isError = true := by
  induction arrivals generalizing w with
  | nil => simp [receiveAll]
  | cons a arrivals ih =>
    rw [receiveAll_cons, ih, receive_linked]
    simp only [List.mem_cons, exists_eq_or_imp, or_assoc]

omit [PyFloat F] in
theorem opened_linked (w : World F) : Linked w.opened ↔ w.tracker.hello = none := by
  have hnone : sessionHello w.opened.log = none := sessionHello_concat w.log (.transport .open true)
  unfold Linked
  rw [hnone]
  constructor
  · intro h
    by_contra hhello
    exact hhello (h rfl (Option.isSome_iff_ne_none.mpr hhello)).symm
  · exact fun h _ _ => h.symm

omit [PyFloat F] in
theorem linked_of_current {w : World F} (h : Current w) (ho : w.isOpen = true) : Linked w := by
  intro herror hknown
  have hready : w.isReady = true := by simp [World.isReady, ho, herror, hknown]
  obtain ⟨hello, hsession, hhello⟩ := h hready
  rw [hsession, hhello]

/-- The opening keeps the session in order exactly under the condition on it. -/
theorem InSession.opening {env : Environment F} {w : World F} (hI : InSession w)
    {early waiting : List Arrival} (ho : w.isOpen = false)
    (hfresh : OpensFresh env w (.connect early waiting)) :
    InSession ((openTransport env early).run w).2 := by
  have hcall (ok : Bool) :
      InSession ({ w with transportError := none }.record (.transport .open ok)) := by
    constructor
    · exact hI.audio
    · intro hopen
      exact absurd (ho.symm.trans hopen) Bool.noConfusion
    · apply sentInSession_concat hI.sent
      rintro call ok ⟨rfl, rfl⟩ hsend
      cases hsend
  rw [openTransport_run]
  cases hr : env.transportRaises .open w.log.length with
  | true => exact hcall false
  | false =>
    have hafter : InSession ((receiveAll env early).run w.opened).2 :=
      InSession.keptInSession.receiveAll (fun _ _ => trivial) _ (hcall true)
    have hlinked : Linked ((receiveAll env early).run w.opened).2 :=
      (receiveAll_linked env early w.opened).mpr
        ((hfresh ho hr).imp_left (opened_linked w).mpr)
    exact ⟨hafter.audio, fun _ => hlinked, hafter.sent⟩

theorem opensFresh_of_current {env : Environment F} {w : World F} {early : List Arrival}
    (hr : env.transportRaises .open w.log.length = false)
    (h : Current ((openTransport env early).run w).2) :
    w.tracker.hello = none ∨
      ∃ a ∈ early, (a.hello : Option (Hello F)).isSome = true ∨ a.isError = true := by
  rw [openTransport_run, hr, if_neg Bool.noConfusion] at h
  have hlinked : Linked ((receiveAll env early).run w.opened).2 :=
    linked_of_current (w := { ((receiveAll env early).run w.opened).2 with isOpen := true }) h rfl
  exact ((receiveAll_linked env early w.opened).mp hlinked).imp_left (opened_linked w).mp

/-- What can be seen of the radio during a step: `connect` marks it open before the reset. -/
def World.during (env : Environment F) (w : World F) : Op F → List (World F)
  | .connect early _ => if w.isOpen = true then [] else [((openTransport env early).run w).2]
  | _ => []

/-- Every state a run reaches. -/
def World.visited (env : Environment F) (w : World F) : List (Op F) → List (World F)
  | [] => [w]
  | op :: ops => w :: w.during env op++(w.step env op).visited env ops

theorem InSession.step {env : Environment F} {w : World F} (hI : InSession w) (op : Op F)
    (hfresh : OpensFresh env w op) : InSession (w.step env op) := by
  apply InSession.keptInSession.step hI op (fun _ _ => trivial)
  · intro c _ hc
    exact hI.setter env c (isReady_of_check hc)
  · rintro early waiting rfl ho
    exact hI.opening ho hfresh

theorem InSession.during {env : Environment F} {w : World F} (hI : InSession w) (op : Op F)
    (hfresh : OpensFresh env w op) : ∀ v ∈ w.during env op, InSession v := by
  intro v hv
  cases op with
  | connect early waiting =>
    rw [World.during] at hv
    split at hv
    · cases hv
    · rename_i ho
      rw [List.mem_singleton.mp hv]
      exact hI.opening (Bool.eq_false_iff.mpr ho) hfresh
  | disconnect | reset | setter | sendTxAudio | sendAx25Frame | receive => cases hv

theorem opensFresh_of_during {env : Environment F} {w : World F} {op : Op F}
    (h : ∀ v ∈ w.during env op, Current v) : OpensFresh env w op := by
  cases op with
  | connect early waiting =>
    intro ho hr
    apply opensFresh_of_current hr
    apply h
    rw [World.during, if_neg (Bool.eq_false_iff.mp ho)]
    exact List.mem_singleton_self _
  | disconnect | reset | setter | sendTxAudio | sendAx25Frame | receive => trivial

theorem visited_current_iff (env : Environment F) {w : World F} (hI : InSession w)
    (ops : List (Op F)) :
    (∀ v ∈ w.visited env ops, Current v ∧ SentInSession v.log) ↔
      AllSteps (World.step env) (OpensFresh env) w ops := by
  induction ops generalizing w with
  | nil =>
    have hcurrent := InSession.ready_linked hI.linked
    simp [World.visited, AllSteps, hcurrent, hI.sent]
  | cons op ops ih =>
    simp only [World.visited, AllSteps, List.cons_append, List.mem_cons, List.mem_append]
    constructor
    · intro h
      have hfresh : OpensFresh env w op :=
        opensFresh_of_during fun v hv => (h v (Or.inr (Or.inl hv))).1
      refine ⟨hfresh, (ih (hI.step op hfresh)).mp fun v hv => ?_⟩
      exact h v (Or.inr (Or.inr hv))
    · rintro ⟨hfresh, hrest⟩ v (rfl | hv | hv)
      · exact ⟨InSession.ready_linked hI.linked, hI.sent⟩
      · have hv := hI.during op hfresh v hv
        exact ⟨InSession.ready_linked hv.linked, hv.sent⟩
      · exact (ih (hI.step op hfresh)).mpr hrest v hv

/-- Readiness belongs to the session in every state of a run, and so do all settings sent, exactly
if every opening meets its condition. -/
theorem ready_in_session (env : Environment F) (ops : List (Op F)) :
    (∀ v ∈ World.init.visited env ops, Current v ∧ SentInSession v.log) ↔
      AllSteps (World.step env) (OpensFresh env) World.init ops :=
  visited_current_iff env InSession.init ops

/-- After a second `connect` that no HELLO answers the radio is ready, with the HELLO of the first
session. -/
theorem ready_with_stale_hello :
    ¬ Current (World.run faultless World.init
      [.connect [] dummyTransport.helloFrames, .disconnect, .connect [] []]) := by
  intro h
  have hnone : sessionHello (World.run faultless World.init
      [.connect [] dummyTransport.helloFrames, .disconnect, .connect [] []]).log = none := by
    decide +kernel
  obtain ⟨hello, hsession, _⟩ := h (by decide +kernel)
  rw [hnone] at hsession
  cases hsession

end Kv4p

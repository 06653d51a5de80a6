import Kv4p.HostMessages
import Kv4p.NotReady
import Mathlib.Data.List.Forall2

/-! A radio whose transport has failed: it stays so until it is opened again, and no call that begins
until then puts anything but data frames on the line. -/
namespace Kv4p
open Effects Transitions

variable {F : Type}

/-- The step opens the transport, and forgets how it failed. -/
def Op.Reopens (w : World F) : Op F → Prop
  | .connect _ _ => w.isOpen = false
  | _ => False

/-- What an AX.25 step has to send. -/
def Op.ax25Payload : Op F → Option (List UInt8)
  | .sendAx25Frame payload _ => some payload
  | _ => none

/-- The transport has reported an error. -/
structure Failed (w : World F) : Prop where
  error : w.transportError ≠ none
  audio : w.tracker.txAudioCommand ≠ commandHostDesiredState

namespace Failed

variable {w : World F}

theorem not_ready (hw : Failed w) : ¬ w.isReady = true := by
  intro hready
  rw [World.isReady, Bool.and_eq_true, Bool.and_eq_true] at hready
  exact hw.error (Option.isNone_iff_eq_none.mp hready.1.2)

theorem raises (hw : Failed w) {r : Except (PyError F) Unit} (h : RaisesNotReady w r) :
    ∃ message, r = .error (.radioTransport message) := by
  unfold RaisesNotReady at h
  split at h
  · exact h
  · exact absurd ‹_› hw.error

variable [PyFloat F]

/-- No HELLO and no report makes up for the failure. -/
theorem survives : KeptInSession (F := F) (fun _ => True) Failed where
  quiet h hw := by
    obtain ⟨last, ht⟩ := h.tracker
    exact ⟨h.transportError ▸ hw.error, by rw [ht]; exact hw.audio⟩
  hello _ hw := ⟨hw.error, txAudioCommand_takeHello _ _⟩
  report _ hw := ⟨hw.error, hw.audio⟩
  error _ hw := ⟨Option.some_ne_none _, hw.audio⟩
  closed hw := ⟨hw.error, hw.audio⟩
  call _ _ _ hw := ⟨hw.error, hw.audio⟩
  audio hw := hw.audio

variable (env : Environment F)

theorem step (hw : Failed w) {op : Op F} (hstay : ¬ op.Reopens w) : Failed (w.step env op) := by
  apply survives.step hw op fun _ _ => trivial
  · intro c _ hc
    exact absurd (isReady_of_check hc) hw.not_ready
  · rintro early waiting rfl hclosed
    exact absurd hclosed hstay

/-- Of all that transmits only an AX.25 frame still has something to say. -/
theorem messages (hw : Failed w) (op : Op F) :
    op.messages w = op.ax25Payload.toList.map .ax25Frame := by
  have hsetter (c : Setter F) : c.messages w = [] := by
    rw [Setter.messages]
    cases hc : c.check w with
    | ok _ => exact absurd (isReady_of_check hc) hw.not_ready
    | error e => rfl
  have hone (c : Setter F) : [c].flatMap (Setter.messages w) = [] := by
    rw [List.flatMap_singleton, hsetter]
  cases op with
  | setter c => exact hone c
  | disconnect => exact hone (.setPtt false)
  | sendTxAudio payload waiting => exact if_neg hw.not_ready
  | sendAx25Frame | connect | reset | receive => rfl

theorem refuses (hw : Failed w) {op : Op F} (hop : Transmits op) (hne : op.isAx25Frame = false) :
    ∃ message, ((op.call env).run w).1 = .error (.radioTransport message) := by
  cases hop with
  | setter c =>
    obtain ⟨e, he, hrun⟩ := setter_run_not_ready env c hw.not_ready
    rw [Op.call, hrun]
    exact hw.raises (checkReady_raises he)
  | txAudio payload waiting =>
    obtain ⟨e, he, hrun⟩ := sendTxAudio_run_not_ready env payload waiting hw.not_ready
    rw [Op.call, hrun]
    exact hw.raises (checkReady_raises he)
  | ax25Frame payload waiting => cases hne

omit [PyFloat F] in
/-- Of an AX.25 frame the firmware hears no more than a front. -/
theorem heard_front {op : Op F} {sent : List (HostMessage F)} {raised : Option (HostMessage F)}
    {rest : List (Option (HostMessage F))}
    (hpre : sent++raised.toList <+: op.ax25Payload.toList.map .ax25Frame) (h : Remains raised rest) :
    ∃ heard fronts, heard.Sublist op.ax25Payload.toList ∧ List.Forall₂ (· <+: ·) fronts heard ∧
      sent.map some++rest = fronts.map fun payload => some (.ax25Frame payload) := by
  obtain ⟨payloads, hsub, hmap⟩ := List.sublist_map_iff.mp hpre.sublist
  obtain ⟨whole, last, rfl, rfl, hlast⟩ := List.append_eq_map_iff.mp hmap
  have hwhole : List.Forall₂ (· <+: ·) whole whole := List.forall₂_same.mpr fun _ _ => List.prefix_rfl
  have hsent : (whole.map HostMessage.ax25Frame).map some =
    whole.map fun payload => some (HostMessage.ax25Frame (F := F) payload) := List.map_map
  have hnone : rest = [] → ∃ heard fronts, heard.Sublist op.ax25Payload.toList ∧
      List.Forall₂ (· <+: ·) fronts heard ∧ (whole.map HostMessage.ax25Frame).map some++rest =
        fronts.map fun payload => some (HostMessage.ax25Frame (F := F) payload) := by
    rintro rfl
    rw [hsent, List.append_nil]
    exact ⟨whole, whole, (List.sublist_append_left _ _).trans hsub, hwhole, rfl⟩
  cases raised with
  | none => exact hnone h
  | some m =>
    rcases h with hrest | ⟨x, rfl, hfront⟩
    · exact hnone hrest
    · obtain ⟨payload, hpayload⟩ : ∃ payload, last = [payload] := by
        exact List.length_eq_one_iff.mp (by rw [← List.length_map, hlast]; rfl)
      subst hpayload
      obtain rfl : .ax25Frame payload = m := List.singleton_inj.mp hlast
      obtain ⟨front, hpre, rfl⟩ := hfront
      refine ⟨whole++[payload], whole++[front], hsub, ?_, ?_⟩
      · exact List.rel_append hwhole (.cons hpre .nil)
      · rw [hsent, List.map_append]
        rfl

/-- While it stays failed, the firmware hears some of the AX.25 frames, or fronts of them, and nothing
else. -/
theorem heard_run (hw : Failed w) (hunderstood : Understood w) (cut : ℕ → ℕ) {ops : List (Op F)}
    (hstay : AllSteps (World.step env) (fun u op => ¬ op.Reopens u) w ops) :
    ∃ sent fronts : List (List UInt8), sent.Sublist (ops.filterMap Op.ax25Payload) ∧
      List.Forall₂ (· <+: ·) fronts sent ∧ (w.run env ops).heard cut =
        w.heard cut++fronts.map fun payload => some (.ax25Frame payload) := by
  induction ops generalizing w with
  | nil => exact ⟨[], [], List.nil_sublist _, .nil, (List.append_nil _).symm⟩
  | cons op ops ih =>
    obtain ⟨⟨said, raised, hpre, hspeaks⟩, _⟩ := utters_step env hunderstood.audio op
    obtain ⟨rest, hremains, hheard⟩ := hspeaks.heard hunderstood.spoken cut
    obtain ⟨sent, fronts, hsub, hfronts, hrest⟩ :=
      ih (hw.step env hstay.1) (hunderstood.step env op) hstay.2
    rw [hw.messages] at hpre
    obtain ⟨first, begun, hfirst, hbegun, hadds⟩ := heard_front hpre hremains
    refine ⟨first++sent, begun++fronts, ?_, List.rel_append hbegun hfronts, ?_⟩
    · have hmore : (op :: ops).filterMap Op.ax25Payload =
          op.ax25Payload.toList++ops.filterMap Op.ax25Payload := by cases op <;> rfl
      rw [hmore]
      exact hfirst.append hsub
    · calc
        _ = (w.step env op).heard cut++fronts.map fun payload => some (.ax25Frame payload) := hrest
        _ = w.heard cut++(said.map some++rest)++
              fronts.map fun payload => some (.ax25Frame payload) := by
          rw [hheard, List.append_assoc (w.heard cut)]
        _ = _ := by rw [hadds, List.append_assoc, ← List.map_append]

end Failed

variable [PyFloat F]

end Kv4p

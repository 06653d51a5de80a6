import Kv4p.DummyTransport

/-! What a public setter that raises leaves behind in the tracked settings. -/
namespace Kv4p
open Effects

variable {F : Type} [PyFloat F] (env : Environment F)

/-- If the call raises, the tracked settings are what they were. -/
def AtomicOnError (w : World F) (c : Setter F) : Prop :=
  (∃ e, ((c.call env).run w).1 = .error e) →
    ((c.call env).run w).2.tracker.settings = w.tracker.settings

/-- `calls`, made on the tracker `t` when the log has `n` events, are all accepted, or the first that
is not leaves the settings `s`. -/
def Traceless (s : Settings F) : DeviceStateTracker F → ℕ → List (SetterCall F) → Prop
  | _, _, [] => True
  | t, n, c :: calls =>
    if c.suppressed t.settings then Traceless s t n calls
    else if env.accepts n (c.snapshot t) then Traceless s (t.setterSection c).2 (n+1) calls
    else c.mutate t.settings = s

theorem each_trackerCall_traceless (s : Settings F) (calls : List (SetterCall F)) (w : World F) :
    ((∃ e, ((Effect.each (trackerCall env) calls).run w).1 = .error e) →
        ((Effect.each (trackerCall env) calls).run w).2.tracker.settings = s) ↔
      Traceless env s w.tracker w.log.length calls := by
  -- The settings to compare with stay those of the start, while the world moves from call to call.
  induction calls generalizing w with
  | nil => simp [Traceless]
  | cons c calls ih =>
    rw [Effect.each_cons_run, Traceless]
    rcases trackerCall_outcome env c w with ⟨hs, h⟩ | ⟨hs, ha, e, h⟩ | ⟨hs, ha, e, h⟩
    · rw [h, if_pos hs, Effect.andThen_ok]
      exact ih w
    · have hsettings : ((trackerCall env c).run w).2.tracker.settings =
          c.mutate w.tracker.settings := by
        rw [(trackerCall_frame env c w).1, setterSection_settings]
      rw [hs, ha, if_neg Bool.noConfusion, if_neg Bool.noConfusion, ← hsettings]
      rw [Effect.andThen_of_error h]
      simp
    · rw [h, hs, ha, if_neg Bool.noConfusion, if_pos rfl, Effect.andThen_ok]
      have hw := ih ((w.afterSection c).record e)
      rw [World.record, List.length_append] at hw
      exact hw

/-- A setter is atomic on error exactly if it is refused before it touches the tracker, or all its
snapshots are accepted, or what it assigned up to the one that is not changed nothing. -/
theorem setter_atomic_iff (w : World F) (c : Setter F) :
    AtomicOnError env w c ↔
      c.check w ≠ .ok () ∨
        Traceless env w.tracker.settings w.tracker w.log.length c.trackerCalls := by
  unfold AtomicOnError
  rw [setter_call_run]
  cases hc : c.check w with
  | error e => simp
  | ok _ =>
    rw [each_trackerCall_traceless]
    simp

/-- `set_squelch(300)` packs into no snapshot: it raises and leaves its value in the settings. -/
theorem setSquelch_not_atomic :
    let w := World.run faultless World.init [.connect [] dummyTransport.helloFrames]
    ((setSquelch faultless 300).run w).1 = .error .structError ∧
      ((setSquelch faultless 300).run w).2.tracker.settings ≠ w.tracker.settings := by
  decide +kernel

end Kv4p

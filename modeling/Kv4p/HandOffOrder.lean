import Kv4p.DummyTransport
import Kv4p.Interleaving
import Mathlib.Data.List.Nodup

/-! In which order snapshots reach the transport. -/
namespace Kv4p
open Transitions

variable {F : Type}

theorem sequence_lt_nextSequence (t : DeviceStateTracker F) : t.sequence < t.nextSequence :=
  Nat.lt_succ_of_le (le_max_left _ _)

theorem sequence_le_onDeviceState (t : DeviceStateTracker F) (state : DeviceState F) :
    t.sequence ≤ (t.onDeviceStateLocked state).sequence := by
  unfold DeviceStateTracker.onDeviceStateLocked
  dsimp only
  split
  · rename_i h
    exact h.le
  · exact le_rfl

/-- Since the last HELLO every snapshot got a higher number than those before it. -/
structure Numbered (s : Threads F) : Prop where
  increasing : s.built.Pairwise fun x y =>
    x.hellos ≤ y.hellos ∧ (x.hellos = y.hellos → x.state.sequence < y.state.sequence)
  bounded : ∀ x ∈ s.built, x.hellos ≤ s.hellos ∧
    (x.hellos = s.hellos → x.state.sequence ≤ s.tracker.sequence)

/-- Every snapshot that was built is with one thread, or was handed over once, or was dropped. -/
structure Tracked (s : Threads F) : Prop where
  inFlight : ∀ x ∈ s.inFlight, s.built[x.index]? = some x.built
  handed : ∀ x ∈ s.handed, s.built[x.index]? = some x.built ∧ x.index < x.builtBefore
  once : (s.handed.map Handed.index).Nodup
  alone : (s.inFlight.map InFlight.index).Nodup
  apart : ∀ x ∈ s.handed, ∀ y ∈ s.inFlight, x.index ≠ y.index

namespace Numbered

theorem push {s : Threads F} (hI : Numbered s) (thread : ℕ) (c : SetterCall F) :
    Numbered (s.push thread c) := by
  have hlt := sequence_lt_nextSequence s.tracker
  constructor
  · apply List.pairwise_append.mpr
    refine ⟨hI.increasing, List.pairwise_singleton _ _, ?_⟩
    intro x hx y hy
    obtain ⟨hle, hseq⟩ := hI.bounded x hx
    rw [List.mem_singleton.mp hy]
    exact ⟨hle, fun he => (hseq he).trans_lt hlt⟩
  · intro x hx
    rcases List.mem_append.mp hx with hx | hx
    · obtain ⟨hle, hseq⟩ := hI.bounded x hx
      exact ⟨hle, fun he => (hseq he).trans hlt.le⟩
    · rw [List.mem_singleton.mp hx]
      exact ⟨le_rfl, fun _ => le_rfl⟩

variable [PyFloat F]

theorem step {s t : Threads F} {l : Label F} (hI : Numbered s) (h : s.step l = some t) :
    Numbered t := by
  rcases step_cases h with ⟨hello, _, _, rfl⟩ | ⟨state, replay, _, rfl⟩ | ⟨thread, c, _, _, rfl⟩ |
    ⟨thread, x, _, _, rfl⟩
  · -- After HELLO no snapshot belongs to the current count, so the new number binds none of them.
    refine ⟨hI.increasing, ?_⟩
    intro x hx
    have hle : x.hellos ≤ s.hellos := (hI.bounded x hx).1
    refine ⟨hle.trans (Nat.le_succ _), ?_⟩
    intro he
    exact absurd he (Nat.lt_succ_of_le hle).ne
  · refine ⟨hI.increasing, ?_⟩
    intro x hx
    obtain ⟨hle, hseq⟩ := hI.bounded x hx
    exact ⟨hle, fun he => (hseq he).trans (sequence_le_onDeviceState s.tracker state)⟩
  · rcases enter_cases s thread c with ⟨_, he⟩ | ⟨_, he⟩
    · rw [he]
      exact hI
    · rw [he]
      exact hI.push thread c
  · exact ⟨hI.increasing, hI.bounded⟩

end Numbered

namespace Tracked

theorem push {s : Threads F} (hI : Tracked s) (thread : ℕ) (c : SetterCall F) :
    Tracked (s.push thread c) := by
  have hkeep {i : ℕ} {x : Built F} (h : s.built[i]? = some x) :
      (s.push thread c).built[i]? = some x := by
    have hi := (List.getElem?_eq_some_iff.mp h).1
    exact (List.getElem?_append_left hi).trans h
  have hnew {i : ℕ} {x : Built F} (h : s.built[i]? = some x) : i ≠ s.built.length :=
    (List.getElem?_eq_some_iff.mp h).1.ne
  constructor
  · intro x hx
    rcases List.mem_cons.mp hx with rfl | hx
    · exact List.getElem?_concat_length
    · exact hkeep (hI.inFlight x hx)
  · intro x hx
    exact ⟨hkeep (hI.handed x hx).1, (hI.handed x hx).2⟩
  · exact hI.once
  · rw [Threads.push, List.map_cons, List.nodup_cons]
    refine ⟨?_, hI.alone⟩
    intro hmem
    obtain ⟨x, hx, he⟩ := List.mem_map.mp hmem
    exact hnew (hI.inFlight x hx) he
  · intro x hx y hy
    rcases List.mem_cons.mp hy with rfl | hy
    · exact hnew (hI.handed x hx).1
    · exact hI.apart x hx y hy

variable [PyFloat F]

theorem leave {s : Threads F} (hI : Tracked s) {x : InFlight F} (hx : x ∈ s.inFlight) :
    Tracked (s.leave x) := by
  have hrest : ∀ y ∈ s.inFlight.filter (·.thread != x.thread), y ∈ s.inFlight ∧
      y.index ≠ x.index := by
    intro y hy
    obtain ⟨hmem, ht⟩ := List.mem_filter.mp hy
    refine ⟨hmem, ?_⟩
    intro he
    rw [List.inj_on_of_nodup_map hI.alone hmem hx he] at ht
    simp at ht
  have halone : ((s.inFlight.filter (·.thread != x.thread)).map InFlight.index).Nodup :=
    hI.alone.sublist (List.filter_sublist.map _)
  have hlt : x.index < s.built.length := (List.getElem?_eq_some_iff.mp (hI.inFlight x hx)).1
  unfold Threads.leave
  split
  · constructor
    · exact fun y hy => hI.inFlight y (hrest y hy).1
    · intro y hy
      rcases List.mem_append.mp hy with hy | hy
      · exact hI.handed y hy
      · rw [List.mem_singleton.mp hy]
        exact ⟨hI.inFlight x hx, hlt⟩
    · rw [List.map_append, List.nodup_append]
      refine ⟨hI.once, List.nodup_singleton _, ?_⟩
      intro i hi j hj
      obtain ⟨y, hy, rfl⟩ := List.mem_map.mp hi
      rw [List.mem_singleton.mp hj]
      exact hI.apart y hy x hx
    · exact halone
    · intro y hy z hz
      obtain ⟨hz, hne⟩ := hrest z hz
      rcases List.mem_append.mp hy with hy | hy
      · exact hI.apart y hy z hz
      · rw [List.mem_singleton.mp hy]
        exact hne.symm
  · exact ⟨fun y hy => hI.inFlight y (hrest y hy).1, hI.handed, hI.once, halone,
      fun y hy z hz => hI.apart y hy z (hrest z hz).1⟩

theorem step {s t : Threads F} {l : Label F} (hI : Tracked s) (h : s.step l = some t) :
    Tracked t := by
  rcases step_cases h with ⟨hello, _, _, rfl⟩ | ⟨state, replay, _, rfl⟩ | ⟨thread, c, _, _, rfl⟩ |
    ⟨thread, x, _, hx, rfl⟩
  · exact ⟨hI.inFlight, hI.handed, hI.once, hI.alone, hI.apart⟩
  · exact ⟨hI.inFlight, hI.handed, hI.once, hI.alone, hI.apart⟩
  · rcases enter_cases s thread c with ⟨_, he⟩ | ⟨_, he⟩
    · rw [he]
      exact hI
    · rw [he]
      exact hI.push thread c
  · exact hI.leave (List.mem_of_find?_eq_some hx)

end Tracked

variable [PyFloat F]

theorem numbered_run {s : Threads F} {ls : List (Label F)}
    (h : run Threads.step Threads.init ls = some s) : Numbered s :=
  run_invariant (fun _ _ _ hI hs => hI.step hs) ⟨List.Pairwise.nil, by simp [Threads.init]⟩ h

theorem tracked_run {s : Threads F} {ls : List (Label F)}
    (h : run Threads.step Threads.init ls = some s) : Tracked s := by
  have hstart : Tracked (Threads.init : Threads F) := by
    constructor <;> simp [Threads.init]
  exact run_invariant (fun _ _ _ hI hs => hI.step hs) hstart h

omit [PyFloat F] in
/-- Of two snapshots built without a HELLO between them the later one has the higher number. -/
theorem Numbered.sequence_lt {s : Threads F} (hI : Numbered s) {i j : ℕ} {x y : Built F}
    (hx : s.built[i]? = some x) (hy : s.built[j]? = some y) (hij : i < j)
    (he : x.hellos = y.hellos) : x.state.sequence < y.state.sequence := by
  obtain ⟨hi, rfl⟩ := List.getElem?_eq_some_iff.mp hx
  obtain ⟨hj, rfl⟩ := List.getElem?_eq_some_iff.mp hy
  exact (List.pairwise_iff_getElem.mp hI.increasing i j hi hj hij).2 he

/-- What holds of two frames, the first handed over before the second, when no HELLO came between
the locked sections that built them: their numbers differ and are ordered as these sections ran, so
the second has the higher one if its section ran after the first was handed over. -/
def Ordered (x y : Handed F) : Prop :=
  x.built.hellos = y.built.hellos →
    x.built.state.sequence ≠ y.built.state.sequence ∧
      (x.built.state.sequence < y.built.state.sequence ↔ x.index < y.index) ∧
      (x.builtBefore ≤ y.index → x.built.state.sequence < y.built.state.sequence)

/-- In every run the frames handed to the transport stand in this order, each before all later
ones. -/
theorem handed_ordered {s : Threads F} {ls : List (Label F)}
    (h : run Threads.step Threads.init ls = some s) : s.handed.Pairwise Ordered := by
  have hnum := numbered_run h
  have htr := tracked_run h
  have hdistinct : s.handed.Pairwise fun x y => x.index ≠ y.index :=
    List.pairwise_map.mp htr.once
  apply hdistinct.imp_of_mem
  intro x y hx hy hne he
  obtain ⟨hbx, hlt⟩ := htr.handed x hx
  obtain ⟨hby, _⟩ := htr.handed y hy
  rcases Nat.lt_or_gt_of_ne hne with hij | hij
  · have hseq := hnum.sequence_lt hbx hby hij he
    exact ⟨hseq.ne, ⟨fun _ => hij, fun _ => hseq⟩, fun _ => hseq⟩
  · have hseq := hnum.sequence_lt hby hbx hij he.symm
    refine ⟨hseq.ne', ⟨fun hc => absurd hc hseq.not_gt, fun hc => absurd hc hij.not_gt⟩, ?_⟩
    intro hb
    omega

theorem handed_ordered_dummy :
    ∃ s : Threads Binary32, run Threads.step Threads.init [.hello dummyHello, .replay,
        .locked 0 (.setSquelch 3), .locked 1 (.setSquelch 4), .handOff 1, .handOff 0] = some s ∧
      s.handed.Pairwise Ordered := by
  have hsome : (run Threads.step (Threads.init : Threads Binary32) [.hello dummyHello, .replay,
      .locked 0 (.setSquelch 3), .locked 1 (.setSquelch 4), .handOff 1, .handOff 0]).isSome =
      true := by decide +kernel
  obtain ⟨s, h⟩ := Option.isSome_iff_exists.mp hsome
  exact ⟨s, h, handed_ordered h⟩

/-- Two threads between their locked sections and the transport: the second overtakes. -/
theorem handed_out_of_order :
    (run Threads.step Threads.init [.hello dummyHello, .replay, .locked 0 (.setSquelch 3),
        .locked 1 (.setSquelch 4), .handOff 1, .handOff 0]).map
      (fun s => s.handed.map fun x => x.built.state.sequence) = some [2, 1] := by
  decide +kernel

end Kv4p

import Mathlib.Data.List.Basic

/-! Runs of state machines: a guarded step, where a label may be disabled, and a total step. -/
namespace Transitions

variable {S L A : Type}

section Guarded

variable (step : S → L → Option S)

/-- Every label of the run, up to the first that is disabled, meets `P` in the state it is met in. -/
def Along (P : S → L → Prop) : S → List L → Prop
  | _, [] => True
  | s, l :: ls =>
    P s l ∧
      match step s l with
      | some t => Along P t ls
      | none => True

instance decidableAlong (P : S → L → Prop) [∀ s l, Decidable (P s l)] :
    ∀ s ls, Decidable (Along step P s ls)
  | _, [] => inferInstanceAs (Decidable True)
  | s, l :: ls =>
    match h : step s l with
    | some t =>
      haveI := decidableAlong P t ls
      decidable_of_iff (P s l ∧ Along step P t ls) (by rw [Along, h])
    | none => decidable_of_iff (P s l) (by rw [Along, h]; simp)

/-- Follow the labels in order; there is no result if one of them is disabled. -/
def run (s : S) (ls : List L) : Option S := ls.foldlM step s

variable {step}

theorem run_nil {s t : S} : run step s [] = some t ↔ s = t := by
  simp only [run, List.foldlM_nil, pure, Option.some.injEq]

theorem run_cons {s u : S} {l : L} {ls : List L} :
    run step s (l :: ls) = some u ↔ ∃ t, step s l = some t ∧ run step t ls = some u := by
  simp only [run, List.foldlM_cons, Option.bind_eq_bind, Option.bind_eq_some_iff]

theorem run_append {s u : S} {ls ms : List L} :
    run step s (ls++ms) = some u ↔ ∃ t, run step s ls = some t ∧ run step t ms = some u := by
  simp only [run, List.foldlM_append, Option.bind_eq_bind, Option.bind_eq_some_iff]

theorem run_singleton {s t : S} {l : L} : run step s [l] = some t ↔ step s l = some t := by
  rw [run_cons]
  constructor
  · rintro ⟨u, hu, ht⟩
    rwa [← run_nil.mp ht]
  · exact fun h => ⟨t, h, run_nil.mpr rfl⟩

theorem along_of_forall {P : S → L → Prop} {s : S} {ls : List L}
    (h : ∀ l ∈ ls, ∀ s, P s l) : Along step P s ls := by
  induction ls generalizing s with
  | nil => trivial
  | cons l ls ih =>
    refine ⟨h l List.mem_cons_self s, ?_⟩
    split
    · exact ih fun m hm => h m (List.mem_cons_of_mem l hm)
    · trivial

theorem along_and {P Q : S → L → Prop} {s : S} {ls : List L} (hp : Along step P s ls)
    (hq : Along step Q s ls) : Along step (fun s l => P s l ∧ Q s l) s ls := by
  induction ls generalizing s with
  | nil => trivial
  | cons l ls ih =>
    obtain ⟨hpl, hp⟩ := hp
    obtain ⟨hql, hq⟩ := hq
    refine ⟨⟨hpl, hql⟩, ?_⟩
    cases hl : step s l with
    | none => trivial
    | some t =>
      rw [hl] at hp hq
      exact ih hp hq

/-- What holds of the labels so far and the state they lead to, when every step that meets `P` keeps
it, holds of a whole run along `P`. -/
theorem run_history {I : List L → S → Prop} {P : S → L → Prop}
    (hstep : ∀ past s l t, P s l → I past s → step s l = some t → I (past++[l]) t)
    (past : List L) {s t : S} {ls : List L} (hp : Along step P s ls) (hs : I past s)
    (h : run step s ls = some t) : I (past++ls) t := by
  induction ls generalizing past s with
  | nil => rwa [List.append_nil, ← run_nil.mp h]
  | cons l ls ih =>
    obtain ⟨u, hu, ht⟩ := run_cons.mp h
    rw [Along, hu] at hp
    rw [List.append_cons]
    exact ih (past++[l]) hp.2 (hstep past s l u hp.1 hs hu) ht

/-- What a step keeps when `P` holds of it, a run along `P` keeps. -/
theorem run_invariant_along {I : S → Prop} {P : S → L → Prop}
    (hstep : ∀ s l t, P s l → I s → step s l = some t → I t)
    {s t : S} {ls : List L} (hp : Along step P s ls) (hs : I s) (h : run step s ls = some t) :
    I t :=
  run_history (I := fun _ s => I s) (fun _ => hstep) [] hp hs h

/-- What every enabled step with an allowed label keeps, every run of such labels keeps. -/
theorem run_invariant_of {I : S → Prop} {P : L → Prop}
    (hstep : ∀ s l t, P l → I s → step s l = some t → I t)
    {s t : S} {ls : List L} (hp : ∀ l ∈ ls, P l) (hs : I s) (h : run step s ls = some t) : I t :=
  run_invariant_along (P := fun _ l => P l) hstep (along_of_forall fun l hl _ => hp l hl) hs h

/-- What every enabled step keeps, every run keeps. -/
theorem run_invariant {I : S → Prop} (hstep : ∀ s l t, I s → step s l = some t → I t)
    {s t : S} {ls : List L} (hs : I s) (h : run step s ls = some t) : I t :=
  run_invariant_of (P := fun _ => True) (fun s l t _ => hstep s l t) (fun _ _ => trivial) hs h

/-- A run is matched by folding the labels into an abstract state, as soon as every step is. -/
theorem run_simulates {Sim : S → A → Prop} {f : A → L → A} {P : L → Prop}
    (hstep : ∀ s l t a, P l → Sim s a → step s l = some t → Sim t (f a l))
    {s t : S} {a : A} {ls : List L} (hp : ∀ l ∈ ls, P l) (hs : Sim s a)
    (h : run step s ls = some t) : Sim t (ls.foldl f a) := by
  apply run_history (I := fun past t => Sim t (past.foldl f a)) (P := fun _ l => P l) _ []
    (along_of_forall fun l hl _ => hp l hl) hs h
  intro past s l t hl hsim hst
  rw [List.foldl_concat]
  exact hstep s l t _ hl hsim hst

section Refinement

variable {T M : Type} {cstep : T → M → Option T} {f : S → T}

/-- Runs are refined as soon as steps are, each by a run of its own that may be empty. -/
theorem run_refines {P : L → Prop} {Q : M → Prop}
    (hstep : ∀ s l t, P l → step s l = some t →
      ∃ ms, (∀ m ∈ ms, Q m) ∧ run cstep (f s) ms = some (f t))
    {s t : S} {ls : List L} (hp : ∀ l ∈ ls, P l) (h : run step s ls = some t) :
    ∃ ms, (∀ m ∈ ms, Q m) ∧ run cstep (f s) ms = some (f t) := by
  induction ls generalizing s with
  | nil =>
    rw [run_nil.mp h]
    exact ⟨[], fun _ hm => (List.not_mem_nil hm).elim, run_nil.mpr rfl⟩
  | cons l ls ih =>
    obtain ⟨u, hu, ht⟩ := run_cons.mp h
    obtain ⟨ms, hms, hrun⟩ := hstep s l u (hp l List.mem_cons_self) hu
    obtain ⟨ns, hns, hrest⟩ := ih (fun l hl => hp l (List.mem_cons_of_mem _ hl)) ht
    refine ⟨ms++ns, fun m hm => ?_, run_append.mpr ⟨f u, hrun, hrest⟩⟩
    exact (List.mem_append.mp hm).elim (hms m) (hns m)

end Refinement

section Progress

variable {r : A → A → Prop} {P : L → Prop} {I Q : S → Prop}

/-- What every state short of `Q` can bring closer, in allowed steps that keep `I`, is reached. -/
theorem run_reaches (hwf : WellFounded r) (rank : S → A)
    (hstep : ∀ s, I s → ¬Q s →
      ∃ ls t, (∀ l ∈ ls, P l) ∧ run step s ls = some t ∧ I t ∧ r (rank t) (rank s))
    {s : S} (hs : I s) : ∃ ls t, (∀ l ∈ ls, P l) ∧ run step s ls = some t ∧ I t ∧ Q t := by
  generalize ha : rank s = a
  induction a using hwf.induction generalizing s with
  | h a ih =>
    by_cases hq : Q s
    · exact ⟨[], s, fun _ hl => (List.not_mem_nil hl).elim, run_nil.mpr rfl, hs, hq⟩
    · obtain ⟨ls, t, hls, hrun, ht, hcloser⟩ := hstep s hs hq
      rw [ha] at hcloser
      obtain ⟨ms, u, hms, hrest, hu⟩ := ih (rank t) hcloser ht rfl
      refine ⟨ls++ms, u, fun l hl => ?_, run_append.mpr ⟨t, hrun, hrest⟩, hu⟩
      exact (List.mem_append.mp hl).elim (hls l) (hms l)

end Progress

end Guarded

section Total

variable (step : S → L → S)

/-- Every label of the run meets `P` in the state it is met in. -/
def AllSteps (P : S → L → Prop) : S → List L → Prop
  | _, [] => True
  | s, l :: ls => P s l ∧ AllSteps P (step s l) ls

instance decidableAllSteps (P : S → L → Prop) [∀ s l, Decidable (P s l)] :
    ∀ s ls, Decidable (AllSteps step P s ls)
  | _, [] => inferInstanceAs (Decidable True)
  | s, l :: ls =>
    haveI := decidableAllSteps P (step s l) ls
    inferInstanceAs (Decidable (P s l ∧ AllSteps step P (step s l) ls))

variable {step}

theorem foldl_invariant {I : S → Prop} {P : S → L → Prop}
    (hstep : ∀ s l, I s → P s l → I (step s l)) {s : S} {ls : List L} (hs : I s)
    (h : AllSteps step P s ls) : I (ls.foldl step s) := by
  induction ls generalizing s with
  | nil => exact hs
  | cons l ls ih => exact ih (hstep s l hs h.1) h.2

theorem allSteps_of_forall {P : S → L → Prop} {s : S} {ls : List L}
    (h : ∀ l ∈ ls, ∀ s, P s l) : AllSteps step P s ls := by
  induction ls generalizing s with
  | nil => trivial
  | cons l ls ih =>
    exact ⟨h l List.mem_cons_self s, ih (fun m hm => h m (List.mem_cons_of_mem l hm))⟩

/-- What an invariant implies of the steps a run makes holds of every one of them. -/
theorem allSteps_imp {I : S → Prop} {P Q : S → L → Prop}
    (hstep : ∀ s l, I s → P s l → Q s l ∧ I (step s l)) {s : S} {ls : List L} (hs : I s)
    (h : AllSteps step P s ls) : AllSteps step Q s ls := by
  induction ls generalizing s with
  | nil => trivial
  | cons l ls ih =>
    obtain ⟨hq, hi⟩ := hstep s l hs h.1
    exact ⟨hq, ih hi h.2⟩

/-- What an invariant implies of a step holds of every step. -/
theorem allSteps_of_invariant {I : S → Prop} {P : S → L → Prop}
    (hstep : ∀ s l, I s → P s l ∧ I (step s l)) {s : S} {ls : List L} (hs : I s) :
    AllSteps step P s ls :=
  allSteps_imp (P := fun _ _ => True) (fun s l hI _ => hstep s l hI) hs
    (allSteps_of_forall fun _ _ _ => trivial)

theorem allSteps_and {P Q : S → L → Prop} {s : S} {ls : List L} :
    AllSteps step (fun s l => P s l ∧ Q s l) s ls ↔
      AllSteps step P s ls ∧ AllSteps step Q s ls := by
  induction ls generalizing s with
  | nil => simp only [AllSteps, and_self]
  | cons l ls ih => simp only [AllSteps, ih, and_and_and_comm]

end Total

section Logs

/-- `P` holds of every entry of the log and what stands before it. -/
def AtEach (P : List L → L → Prop) (log : List L) : Prop :=
  ∀ before e, before++[e] <+: log → P before e

variable {P : List L → L → Prop} {log : List L}

theorem atEach_nil : AtEach P [] := by
  intro before e h
  have hlen := h.length_le
  simp at hlen

theorem atEach_concat {e : L} (h : AtEach P log) (he : P log e) : AtEach P (log++[e]) := by
  intro before e' hprefix
  rcases List.prefix_concat_iff.mp hprefix with heq | hprefix
  · obtain ⟨hlog, hlast⟩ := List.append_inj' heq rfl
    rw [hlog, List.singleton_inj.mp hlast]
    exact he
  · exact h before e' hprefix

/-- Entries that meet `P` wherever they stand. -/
theorem atEach_append {es : List L} (h : AtEach P log) (hes : ∀ e ∈ es, ∀ before, P before e) :
    AtEach P (log++es) := by
  induction es generalizing log with
  | nil => rwa [List.append_nil]
  | cons e es ih =>
    rw [List.append_cons]
    exact ih (atEach_concat h (hes e List.mem_cons_self log)) fun e' he' =>
      hes e' (List.mem_cons_of_mem e he')

end Logs

end Transitions

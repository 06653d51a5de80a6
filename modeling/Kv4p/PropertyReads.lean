import Kv4p.TrackerAtomicity

/-! A property of the tracker, read while other threads set and report: it returns what the tracker
held at one moment of the call. -/
namespace Kv4p
open CriticalSections CriticalSections.Program Transitions

variable {F : Type} [PyFloat F]

/-- The calls of thread `i` since the log had `n` entries. -/
def callsSince (n i : ℕ) (c : TrackerThreads F) : List (ℕ × TrackerEvent F × Answer F) :=
  (c.log.drop n).filter (·.1 == i)

/-- How far thread `i` is in the property `p`, if the tracker has had the states in `held`. -/
inductive Reading (p : Property) (n i : ℕ) (held : DeviceStateTracker F → Prop)
    (c : TrackerThreads F) : Prop
  | before (hp : c.settle.program i = (Method.property p).code) (hcalls : callsSince n i c = [])
  | during (s : DeviceStateTracker F) (hs : held s)
      (hp : c.settle.program i = .call (.observed p (p.get s)) fun _ => .done ())
      (hcalls : callsSince n i c = [])
  | after (s : DeviceStateTracker F) (hs : held s) (answer : Answer F)
      (hp : c.settle.program i = .done ())
      (hcalls : callsSince n i c = [(i, .observed p (p.get s), answer)])

omit [PyFloat F] in
theorem callsSince_append {n i : ℕ} {c d : TrackerThreads F} (hn : n ≤ c.log.length)
    {calls : List (ℕ × TrackerEvent F × Answer F)} (h : d.log = c.log++calls) :
    callsSince n i d = callsSince n i c++calls.filter (·.1 == i) := by
  rw [callsSince, callsSince, h, List.drop_append_of_le_length hn, List.filter_append]

theorem property_atomic (p : Property) : ∃ k, (Method.property p : Method F).code = acquire k ∧
    ∀ s t, k.finish 0 s t = ((s, t), call (.observed p (p.get s)) fun _ => done ()) := by
  obtain ⟨k, hc, hk⟩ := property_section (F := F) p
  have hd := disciplined_property (F := F) p
  rw [hc] at hd
  refine ⟨k.bind fun _ => pure (), ?_, fun s t => ?_⟩
  · change (propertyCode p).bind _ = _
    rw [hc]
    rfl
  · rw [finish_bind hd, hk]
    rfl

/-- One more step of the threads, while the tracker has the state it settles in. -/
theorem Reading.step {p : Property} {n i : ℕ} {held next : DeviceStateTracker F → Prop}
    {c d : TrackerThreads F} {l : TrackerMove F} (hr : Reading p n i held c) (hc : c.Ok)
    (hn : n ≤ c.log.length) (hl : ∀ q, l ≠ .start i q) (h : c.step l = some d)
    (hmono : ∀ s, held s → next s) (hnow : next c.settle.shared) : Reading p n i next d := by
  have hstay (hprogram : d.settle.program i = c.settle.program i)
      (hcalls : callsSince n i d = callsSince n i c) : Reading p n i next d := by
    cases hr with
    | before hp h0 => exact .before (hprogram.trans hp) (hcalls.trans h0)
    | during s hs hp h0 => exact .during s (hmono s hs) (hprogram.trans hp) (hcalls.trans h0)
    | after s hs answer hp h1 =>
      exact .after s (hmono s hs) answer (hprogram.trans hp) (hcalls.trans h1)
  rcases Config.step_settles hc h with hsame | hatomic
  · apply hstay
    · rw [hsame]
    · rw [callsSince, callsSince, ← Config.log_settle d, hsame, Config.log_settle]
  by_cases hi : l.thread = i
  · -- The reader's own step: into its section, or its answer.
    cases l with
    | start j q =>
      have hj : j = i := hi
      exact absurd (by rw [hj]) (hl q)
    | run j answer =>
      have hj : j = i := hi
      subst hj
      cases hr with
      | before hp h0 =>
        obtain ⟨k, hk, hfinish⟩ := property_atomic (F := F) p
        rw [hk] at hp
        rw [Config.atomicStep, hp] at hatomic
        have hd : c.settle.finish j 0 k = d.settle := Option.some.inj hatomic
        refine .during c.settle.shared hnow ?_ ?_
        · rw [← hd, Config.finish, hfinish]
          exact Config.program_setProgram _ _ _
        · have hlog : d.log = c.log++[] := by
            rw [← Config.log_settle d, ← hd, List.append_nil, ← Config.log_settle c]
            rfl
          rw [callsSince_append hn hlog, h0]
          rfl
      | during s hs hp h0 =>
        rw [Config.atomicStep, hp, Config.stepOutside, hp] at hatomic
        have hd := Option.some.inj hatomic
        refine .after s (hmono s hs) answer ?_ ?_
        · rw [← hd]
          exact Config.program_setProgram _ _ _
        · have hlog : d.log = c.log++[(j, .observed p (p.get s), answer)] := by
            rw [← Config.log_settle d, ← hd, ← Config.log_settle c]
          rw [callsSince_append hn hlog, h0]
          simp
      | after s hs answer' hp h1 =>
        rw [Config.atomicStep, hp, Config.stepOutside, hp] at hatomic
        cases hatomic
  · -- Another thread's step leaves the reader where it is, and the log holds no call of its.
    obtain ⟨calls, hlog, hown⟩ := Config.log_atomicStep hatomic
    rw [Config.log_settle, Config.log_settle] at hlog
    apply hstay (Config.program_atomicStep_of_ne hatomic hi)
    have hnone : calls.filter (·.1 == i) = [] := by
      apply List.filter_eq_nil_iff.mpr
      intro x hx hxi
      rw [beq_iff_eq, hown x hx] at hxi
      exact hi hxi
    rw [callsSince_append hn hlog, hnone, List.append_nil]

omit [PyFloat F] in
theorem log_length_le {c d : TrackerThreads F} {l : TrackerMove F} (hc : c.Ok)
    (h : c.step l = some d) : c.log.length ≤ d.log.length := by
  rw [← Config.log_settle c, ← Config.log_settle d]
  rcases Config.step_settles hc h with hsame | hatomic
  · rw [hsame]
  · obtain ⟨calls, hlog, _⟩ := Config.log_atomicStep hatomic
    rw [hlog, List.length_append]
    exact Nat.le_add_right _ _

/-- A state that the tracker settles in at some moment of the run `past` from `d`. -/
def HeldDuring (d : TrackerThreads F) (past : List (TrackerMove F)) (s : DeviceStateTracker F) :
    Prop :=
  ∃ past₁ past₂ m, past = past₁++past₂ ∧ run Config.step d past₁ = some m ∧ s = m.settle.shared

theorem reading_run {i : ℕ} {p : Property} {bs : List (TrackerMove F)} {c d e : TrackerThreads F}
    (hc : c.Ok) (hbs : ∀ l ∈ bs, CallsMethods l ∧ ∀ q, l ≠ .start i q)
    (hstart : c.begin i (Method.property p).code = some d) (he : run Config.step d bs = some e) :
    Reading p c.log.length i (HeldDuring d bs) e := by
  have hd : d.Ok := Config.ok_begin hc (Method.disciplined _) hstart
  have hinv := run_history
    (P := fun _ l => CallsMethods l ∧ ∀ q, l ≠ .start i q)
    (I := fun past m => m.Ok ∧ c.log.length ≤ m.log.length ∧ run Config.step d past = some m ∧
      Reading p c.log.length i (HeldDuring d past) m)
    ?_ [] (along_of_forall fun l hl _ => hbs l hl) ?_ he
  · exact hinv.2.2.2
  · rintro past m l t ⟨hl, hne⟩ ⟨hok, hlen, hm, hr⟩ hstep
    refine ⟨Config.ok_step hl.disciplined hok hstep, hlen.trans (log_length_le hok hstep),
      run_append.mpr ⟨m, hm, run_singleton.mpr hstep⟩, hr.step hok hlen hne hstep ?_ ?_⟩
    · -- A moment of the run so far is one of the longer run.
      rintro s ⟨past₁, past₂, m', rfl, hm', hs⟩
      exact ⟨past₁, past₂++[l], m', List.append_assoc _ _ _, hm', hs⟩
    · exact ⟨past, [l], m, rfl, hm, rfl⟩
  · obtain ⟨⟨a, ha⟩, rfl⟩ := Config.begin_eq_some.mp hstart
    have hout : c.level i = none := Config.level_of_done hc (by rw [ha]; rfl)
    refine ⟨hd, le_rfl, run_nil.mpr rfl, .before ?_ ?_⟩
    · have hlevel : (c.setProgram i (Method.property p).code).level i = none := hout
      rw [Config.program_settle hlevel]
      exact Config.program_setProgram _ _ _
    · have hlog : (c.setProgram i (Method.property p).code).log = c.log := rfl
      rw [callsSince, hlog, List.drop_length]
      rfl

/-- A property that was called while others run setters and frames are handled has given its caller
one value, and at some moment during the call that was the value of the tracker the atomic sections
lead to. -/
theorem property_linearizes {rx i : ℕ} {p : Property} {as bs : List (TrackerMove F)}
    {c d e : TrackerThreads F} (has : ∀ l ∈ as, StartsMethod rx l)
    (hbs : ∀ l ∈ bs, StartsMethod rx l ∧ ∀ q, l ≠ .start i q)
    (hc : run Config.step TrackerThreads.init as = some c)
    (hstart : c.begin i (Method.property p).code = some d) (he : run Config.step d bs = some e)
    (hdone : (e.program i).isDone = true) :
    ∃ bs₁ bs₂ m ms s answer, bs = bs₁++bs₂ ∧ run Config.step d bs₁ = some m ∧
      run Threads.step Threads.init ms = some s ∧ Mirrors rx m.settle s ∧
      callsSince c.log.length i e = [(i, .observed p (p.get s.tracker), answer)] := by
  have hcall : StartsMethod rx (.start i (Method.property p : Method F).code) :=
    ⟨.property p, rfl, fun h => h.elim⟩
  have hc' : c.Ok := ok_of_run (fun l hl => (has l hl).calls) hc
  have hok : e.Ok := Config.ok_run (fun l hl => (hbs l hl).1.calls.disciplined)
    (Config.ok_begin hc' (Method.disciplined _) hstart) he
  have hprogram := Config.program_settle (Config.level_of_done hok hdone)
  have hnot {q : PyCode F Unit} (hq : q.isDone = false) (hp : e.settle.program i = q) : False := by
    rw [← hprogram, hp, hq] at hdone
    cases hdone
  cases reading_run hc' (fun l hl => ⟨(hbs l hl).1.calls, (hbs l hl).2⟩) hstart he with
  | before hp _ =>
    obtain ⟨k, hk, _⟩ := property_atomic (F := F) p
    exact (hnot (by rw [hk]; rfl) hp).elim
  | during s _ hp _ => exact (hnot rfl hp).elim
  | after s hs answer _ hcalls =>
    obtain ⟨bs₁, bs₂, m, rfl, hm, rfl⟩ := hs
    have hall : ∀ l ∈ as++.start i (Method.property p).code :: bs₁, StartsMethod rx l := by
      intro l hl
      rcases List.mem_append.mp hl with hl | hl
      · exact has l hl
      · rcases List.mem_cons.mp hl with rfl | hl
        · exact hcall
        · exact (hbs l (List.mem_append_left _ hl)).1
    have hrun : run Config.step TrackerThreads.init (as++.start i (Method.property p).code :: bs₁) =
        some m := run_append.mpr ⟨c, hc, run_cons.mpr ⟨d, hstart, hm⟩⟩
    obtain ⟨ms, s, hms, hmirror⟩ := mirrors_run hall hrun
    refine ⟨bs₁, bs₂, m, ms, s, answer, rfl, hm, hms, hmirror, ?_⟩
    rw [hmirror.tracker]
    exact hcalls

/-- The property is read while the snapshot of a setter is on its way. -/
theorem property_linearizes_meanwhile :
    let answer : Answer Binary32 := ⟨false, .ends false⟩
    let as : List (TrackerMove Binary32) :=
      .start 1 (Method.setter (.setSquelch 3)).code :: List.replicate 14 (.run 1 answer)
    let bs : List (TrackerMove Binary32) := List.replicate 4 (.run 2 answer)
    ∃ c d e, run Config.step TrackerThreads.init as = some c ∧
      c.begin 2 (Method.property .squelch).code = some d ∧ run Config.step d bs = some e ∧
      ∃ bs₁ bs₂ m ms s answer, bs = bs₁++bs₂ ∧ run Config.step d bs₁ = some m ∧
        run Threads.step Threads.init ms = some s ∧ Mirrors 0 m.settle s ∧
        callsSince c.log.length 2 e =
          [(2, .observed .squelch (Property.squelch.get s.tracker), answer)] := by
  intro answer as bs
  have hrun : ∃ c d e, run Config.step TrackerThreads.init as = some c ∧
      c.begin 2 (Method.property .squelch).code = some d ∧ run Config.step d bs = some e ∧
      (e.program 2).isDone = true := ⟨_, _, _, rfl, rfl, rfl, rfl⟩
  obtain ⟨c, d, e, hc, hstart, he, hdone⟩ := hrun
  refine ⟨c, d, e, hc, hstart, he, property_linearizes ?_ ?_ hc hstart he hdone⟩
  · intro l hl
    simp only [as, List.mem_cons, List.mem_replicate] at hl
    rcases hl with rfl | ⟨_, rfl⟩
    · exact ⟨_, rfl, fun h => h.elim⟩
    · trivial
  · intro l hl
    rw [(List.mem_replicate.mp hl).2]
    exact ⟨trivial, fun q h => by cases h⟩

end Kv4p

import Kv4p.SharedLine

/-! The lock of the tracker and the write lock together: nobody waits for the one with the other in
hand, and every setter comes to its end. -/
namespace Kv4p
open CriticalSections CriticalSections.Program Transitions

variable {F : Type}

namespace SerialLine

/-- What the stay in the lock has still to do: its check, its bytes and its end. -/
def left (s : SerialLine) : ℕ :=
  match s.busy with
  | none => 0
  | some x => x.job.bytes.length-x.sent+if s.checked then 1 else 2

/-- Who is in the lock can go on, and if the port is open he need not fail. -/
theorem works {s : SerialLine} {x : WriteSection} (hbusy : s.busy = some x)
    (hsent : x.sent ≤ x.job.bytes.length) :
    ∃ l t, (l = .check ∨ l = .send ∨ l = .finish) ∧ s.step l = some t ∧ t.left < s.left ∧
      (t.isOpen = s.isOpen ∧ t.past = s.past ∧ t.stay = s.stay ∨
        ∃ returned, t = s.leave x returned ∧ (s.isOpen = true → returned = true)) := by
  have hpos : (s.leave x false).left < s.left := by
    change 0 < s.left
    rw [left, hbusy]
    cases s.checked <;> exact Nat.succ_pos _
  cases hchecked : s.checked with
  | false =>
    by_cases hopen : (x.job.checksPort && !s.isOpen) = true
    · refine ⟨.check, s.leave x false, Or.inl rfl, ?_, hpos, Or.inr ⟨false, rfl, fun h => ?_⟩⟩
      · rw [SerialLine.step, hbusy, hchecked]
        exact if_pos hopen
      · rw [h, Bool.not_true, Bool.and_false] at hopen
        cases hopen
    · refine ⟨.check, { s with checked := true }, Or.inl rfl, ?_, ?_, Or.inl ⟨rfl, rfl, rfl⟩⟩
      · rw [SerialLine.step, hbusy, hchecked]
        exact if_neg hopen
      · simp [left, hbusy, hchecked]
  | true =>
    by_cases hmore : x.sent < x.job.bytes.length
    · have hbyte : x.job.bytes[x.sent]? = some x.job.bytes[x.sent] := List.getElem?_eq_getElem hmore
      have hstep : s.step .send = some { s with
          busy := some { x with sent := x.sent+1 }, line := s.line++[x.job.bytes[x.sent]] } := by
        rw [SerialLine.step, hbusy, hchecked]
        dsimp only
        rw [hbyte]
      refine ⟨.send, _, Or.inr (Or.inl rfl), hstep, ?_, Or.inl ⟨rfl, rfl, ?_⟩⟩
      · simp only [left, hbusy, hchecked, if_pos]
        omega
      · rw [stay, stay, hbusy]
        rfl
    · have hall : x.sent = x.job.bytes.length := by omega
      refine ⟨.finish, s.leave x true, Or.inr (Or.inr rfl), ?_, hpos, Or.inr ⟨true, rfl, fun _ => rfl⟩⟩
      rw [SerialLine.step, hbusy, hchecked]
      exact if_pos hall

end SerialLine

variable [PyFloat F]

/-- Thread `i` makes a step or takes its snapshot to the line, or who is in the write lock goes on. -/
def SharedEvent.Works (i : ℕ) (answer : Answer F) : SharedEvent F → Prop
  | .move l => l = .run i answer
  | .hand j => j = i
  | .other _ _ => False
  | .line l => l = .check ∨ l = .send ∨ l = .finish

/-- Threads start methods. -/
def SharedEvent.CallsMethods : SharedEvent F → Prop
  | .move l => Kv4p.CallsMethods l
  | .hand _ => True
  | .other _ _ => True
  | .line _ => True

theorem SharedEvent.Works.calls {i : ℕ} {answer : Answer F} {l : SharedEvent F}
    (h : l.Works i answer) : l.CallsMethods := by
  cases l with
  | move l =>
    obtain rfl := h
    trivial
  | hand | other | line => trivial

omit [PyFloat F] in
/-- A stay in the write lock sends no more than its job has. -/
theorem sent_step {s t : SerialLine} {l : LineEvent} (h : s.step l = some t)
    (hs : ∀ x, s.busy = some x → x.sent ≤ x.job.bytes.length) :
    ∀ x, t.busy = some x → x.sent ≤ x.job.bytes.length := by
  cases l with
  | enter thread job =>
    rw [SerialLine.step] at h
    split at h
    · cases h
      intro x hx
      cases hx
      exact Nat.zero_le _
    · cases h
  | check =>
    rw [SerialLine.step] at h
    split at h
    · split at h
      · cases h
        exact fun x hx => by cases hx
      · cases h
        exact hs
    · cases h
  | send =>
    rw [SerialLine.step] at h
    split at h
    · split at h
      · rename_i hbyte
        cases h
        intro x hx
        cases hx
        exact (List.getElem?_eq_some_iff.mp hbyte).1
      · cases h
    · cases h
  | finish =>
    rw [SerialLine.step] at h
    split at h
    · split at h
      · cases h
        exact fun x hx => by cases hx
      · cases h
    · cases h
  | fail =>
    rw [SerialLine.step] at h
    split at h
    · cases h
      exact fun x hx => by cases hx
    · cases h
  | «open» | close =>
    cases h
    exact hs

namespace SharedLine

/-- The lock of the tracker is not in the hands of whoever is in the write lock. -/
def Ordered (s : SharedLine F) : Prop :=
  ∀ i job, s.serial.stay = some (i, job) → s.threads.level i = none

variable {s t : SharedLine F}

theorem Ordered.step {l : SharedEvent F} (hok : s.threads.Ok) (hs : Ordered s) (h : s.Moves l t) :
    Ordered t := by
  cases h with
  | moves l threads hwrites _ hstep =>
    intro i job hstay
    apply Config.level_eq_none.mpr
    intro n hlock
    rcases Config.lock_step hstep hlock with rfl | hbefore
    · -- Who writes does not run in the tracker.
      obtain ⟨x, hbusy, hx⟩ := Option.map_eq_some_iff.mp hstay
      have hthread : x.thread = l.thread := congrArg Prod.fst hx
      rw [SharedLine.writes, hbusy, Option.any_some, hthread, beq_self_eq_true] at hwrites
      cases hwrites
    · exact Config.level_eq_none.mp (hs i job hstay) n hbefore
  | hands i state f serial hsnapshot _ hstep =>
    intro j job hstay
    cases (enter_eq_some hstep).2.2.symm.trans hstay
    obtain ⟨k, hp⟩ := snapshot_eq_some hsnapshot
    exact Config.level_of_call hok hp
  | enters i job serial hlevel _ hstep =>
    intro j job' hstay
    cases (enter_eq_some hstep).2.2.symm.trans hstay
    exact hlevel
  | stays l serial _ _ _ hstay => exact fun i job h => hs i job (hstay ▸ h)
  | ends | answers =>
    intro i job hstay
    cases hstay

/-- What the threads keep to: in the tracker, on the line, and between the two. -/
structure Sound (s : SharedLine F) : Prop where
  ok : s.threads.Ok
  sent : ∀ x, s.serial.busy = some x → x.sent ≤ x.job.bytes.length
  ordered : Ordered s

theorem Sound.next {l : SharedEvent F} (hl : l.CallsMethods) (hs : Sound s)
    (h : s.step l = some t) : Sound t := by
  have hmoves := step_moves h
  refine ⟨?_, ?_, hs.ordered.step hs.ok hmoves⟩
  · cases hmoves with
    | moves l threads _ _ hstep => exact Config.ok_step (Kv4p.CallsMethods.disciplined hl) hs.ok hstep
    | answers l x returned state threads _ _ _ _ hstep => exact Config.ok_advance hs.ok hstep
    | hands | enters | stays | ends => exact hs.ok
  · cases hmoves with
    | moves => exact hs.sent
    | hands i state f serial _ _ hstep => exact sent_step hstep hs.sent
    | enters i job serial _ _ hstep => exact sent_step hstep hs.sent
    | stays l serial _ hstep => exact sent_step hstep hs.sent
    | ends l x returned _ _ hstep => exact sent_step hstep hs.sent
    | answers l x returned state threads _ _ hstep => exact sent_step hstep hs.sent

theorem Sound.run {ls : List (SharedEvent F)} (hls : ∀ l ∈ ls, l.CallsMethods)
    (h : Transitions.run SharedLine.step SharedLine.init ls = some s) : Sound s :=
  run_invariant_of (fun _ _ _ hl hs hstep => hs.next hl hstep) hls
    ⟨ok_init, fun _ hx => (by cases hx), fun _ _ h => (by cases h)⟩ h

/-- From `s` on the port was left as it is, and if it is open every write ended normally. -/
structure Onward (s t : SharedLine F) : Prop where
  isOpen : t.serial.isOpen = s.serial.isOpen
  past : ∃ ends, t.serial.past = s.serial.past++ends ∧
    (s.serial.isOpen = true → ∀ x ∈ ends, x.returned = true)

omit [PyFloat F] in
theorem Onward.same (h : t.serial.isOpen = s.serial.isOpen) (hpast : t.serial.past = s.serial.past) :
    Onward s t :=
  ⟨h, [], hpast.trans (List.append_nil _).symm, fun _ _ hx => (List.not_mem_nil hx).elim⟩

omit [PyFloat F] in
theorem Onward.trans {u : SharedLine F} (hs : Onward s t) (ht : Onward t u) : Onward s u := by
  obtain ⟨ends, hends, hreturned⟩ := hs.past
  obtain ⟨more, hmore, hreturned'⟩ := ht.past
  refine ⟨ht.isOpen.trans hs.isOpen, ends++more, ?_, fun hopen x hx => ?_⟩
  · rw [hmore, hends, List.append_assoc]
  · rcases List.mem_append.mp hx with hx | hx
    · exact hreturned hopen x hx
    · exact hreturned' (hs.isOpen.trans hopen) x hx

omit [PyFloat F] in
/-- How the threads stand when `i` has left the write lock. -/
def Answered (s : SharedLine F) (i : ℕ) (threads : TrackerThreads F) : Prop :=
  match s.snapshot i with
  | none => threads = s.threads
  | some _ => ∃ answer, s.threads.step (.run i answer) = some threads

omit [PyFloat F] in
/-- A call does not touch the lock of the tracker. -/
theorem Answered.lock {i : ℕ} {threads : TrackerThreads F} (h : s.Answered i threads) :
    threads.lock = s.threads.lock := by
  unfold SharedLine.Answered at h
  split at h
  · rw [h]
  · rename_i hsnapshot
    obtain ⟨k, hp⟩ := snapshot_eq_some hsnapshot
    obtain ⟨answer, hstep⟩ := h
    rw [Config.step, Config.advance, hp, Config.stepOutside, hp] at hstep
    cases hstep
    rfl

theorem step_line {l : LineEvent} (hl : ∀ i job, l ≠ .enter i job) :
    s.step (.line l) = (s.serial.step l).bind s.answered := by
  cases l with
  | enter i job => exact absurd rfl (hl i job)
  | check | send | finish | fail | «open» | close => rfl

omit [PyFloat F] in
theorem answered_same {serial : SerialLine} (hpast : serial.past = s.serial.past) :
    s.answered serial = some ⟨s.threads, serial⟩ := by
  rw [SharedLine.answered, hpast, List.drop_length]

omit [PyFloat F] in
/-- The threads are no obstacle to who leaves the write lock. -/
theorem answered_leave (x : WriteSection) (returned : Bool) :
    ∃ threads, s.answered (s.serial.leave x returned) = some ⟨threads, s.serial.leave x returned⟩ ∧
      s.Answered x.thread threads := by
  have hleft : (s.serial.leave x returned).past.drop s.serial.past.length =
      [{ x with returned := returned }] := List.drop_left
  unfold SharedLine.answered SharedLine.Answered
  rw [hleft]
  dsimp only
  cases hsnapshot : s.snapshot x.thread with
  | none => exact ⟨s.threads, rfl, rfl⟩
  | some state =>
    obtain ⟨k, hp⟩ := snapshot_eq_some hsnapshot
    have hstep (answer : Answer F) : ∃ threads, s.threads.step (.run x.thread answer) = some threads :=
      ⟨_, by rw [Config.step, Config.advance, hp, Config.stepOutside, hp]⟩
    obtain ⟨threads, hthreads⟩ := hstep ⟨!returned, .ends false⟩
    refine ⟨threads, ?_, _, hthreads⟩
    dsimp only
    rw [hthreads]
    rfl

/-- Who is in the write lock goes on while the threads wait, or leaves it. -/
theorem stay_step {x : WriteSection} (hbusy : s.serial.busy = some x)
    (hsent : x.sent ≤ x.job.bytes.length) :
    ∃ l t, (l = .check ∨ l = .send ∨ l = .finish) ∧ s.step (.line l) = some t ∧ Onward s t ∧
      t.serial.left < s.serial.left ∧
      (t.threads = s.threads ∧ t.serial.stay = s.serial.stay ∨
        t.serial.busy = none ∧ s.Answered x.thread t.threads) := by
  obtain ⟨l, serial, hl, hstep, hleft, hcases⟩ := SerialLine.works hbusy hsent
  have hline : ∀ i job, l ≠ .enter i job := by
    rintro i job rfl
    rcases hl with h | h | h <;> cases h
  rcases hcases with ⟨hopen, hpast, hgoes⟩ | ⟨returned, rfl, hopen⟩
  · have hmove : s.step (.line l) = some ⟨s.threads, serial⟩ := by
      rw [step_line hline, hstep, Option.bind_some, answered_same hpast]
    exact ⟨l, _, hl, hmove, Onward.same hopen hpast, hleft, Or.inl ⟨rfl, hgoes⟩⟩
  · obtain ⟨threads, hanswered, hends⟩ := s.answered_leave x returned
    have hmove : s.step (.line l) = some ⟨threads, s.serial.leave x returned⟩ := by
      rw [step_line hline, hstep, Option.bind_some, hanswered]
    refine ⟨l, _, hl, hmove, ⟨rfl, _, rfl, fun h y hy => ?_⟩, hleft, Or.inr ⟨rfl, hends⟩⟩
    rw [List.mem_singleton.mp hy]
    exact hopen h

/-- The stay in the write lock that thread `i` is in since `s` goes on, or is over. -/
structure Staying (i : ℕ) (s t : SharedLine F) : Prop where
  sound : Sound t
  onward : Onward s t
  stay : t.threads = s.threads ∧ t.serial.stay = s.serial.stay ∨
    t.serial.busy = none ∧ s.Answered i t.threads

/-- The threads stand still until the last step. -/
theorem Staying.step {u : SharedLine F} {x : WriteSection} (hbusy : s.serial.busy = some x)
    (hu : Staying x.thread s u) (hmore : ¬u.serial.busy = none) (i : ℕ) (answer : Answer F) :
    ∃ ls t, (∀ l ∈ ls, l.Works i answer) ∧ run SharedLine.step u ls = some t ∧
      Staying x.thread s t ∧ t.serial.left < u.serial.left := by
  rcases hu.stay with ⟨hthreads, hsame⟩ | ⟨hout, _⟩
  · have hstill : u.serial.stay = some (x.thread, x.job) := by
      rw [hsame, SerialLine.stay, hbusy]
      rfl
    obtain ⟨y, hy, hyx⟩ := Option.map_eq_some_iff.mp hstill
    have hthread : y.thread = x.thread := congrArg Prod.fst hyx
    obtain ⟨l, t, hl, hmove, hward, hleft, hcases⟩ := stay_step hy (hu.sound.sent y hy)
    refine ⟨[.line l], t, fun m hm => List.mem_singleton.mp hm ▸ hl, run_singleton.mpr hmove,
      ⟨hu.sound.next (l := .line l) trivial hmove, hu.onward.trans hward, ?_⟩, hleft⟩
    rcases hcases with ⟨hwait, hgoes⟩ | ⟨hout, hanswered⟩
    · exact Or.inl ⟨hwait.trans hthreads, hgoes.trans hsame⟩
    · rw [hthread, Answered, snapshot, hthreads] at hanswered
      exact Or.inr ⟨hout, hanswered⟩
  · exact absurd hout hmore

/-- Whoever is in the write lock comes out of it. -/
theorem stay_ends (hs : Sound s) {x : WriteSection} (hbusy : s.serial.busy = some x) (i : ℕ)
    (answer : Answer F) :
    ∃ ls t, (∀ l ∈ ls, l.Works i answer) ∧ run SharedLine.step s ls = some t ∧ Sound t ∧
      Onward s t ∧ t.serial.busy = none ∧ s.Answered x.thread t.threads := by
  obtain ⟨ls, t, hls, hrun, ht, hfree⟩ :=
    run_reaches Nat.lt_wfRel.wf (fun u : SharedLine F => u.serial.left)
      (fun u (hu : Staying x.thread s u) hmore => hu.step hbusy hmore i answer)
      ⟨hs, Onward.same rfl rfl, Or.inl ⟨rfl, rfl⟩⟩
  refine ⟨ls, t, hls, hrun, ht.sound, ht.onward, hfree, ?_⟩
  rcases ht.stay with ⟨_, hsame⟩ | ⟨_, hanswered⟩
  · -- Out of the lock there is no stay.
    rw [SerialLine.stay, SerialLine.stay, hfree, hbusy] at hsame
    cases hsame
  · exact hanswered

/-- A snapshot without a frame does not pack. -/
theorem any_packs {snapshot : Option (HostDesiredState F)}
    (h : snapshot.bind HostDesiredState.frame = none) :
    snapshot.any HostDesiredState.packs = false := by
  cases snapshot with
  | none => rfl
  | some state =>
    apply Bool.eq_false_iff.mpr
    intro hpacks
    obtain ⟨body, hbody⟩ := packs_iff.mp hpacks
    rw [Option.bind_some, HostDesiredState.frame, hbody] at h
    cases h

/-- A snapshot that has a frame goes into the write lock when it is free. -/
theorem hand_enters {i : ℕ} {f : KissFrame} (hfree : s.serial.busy = none)
    (hframe : (s.snapshot i).bind HostDesiredState.frame = some f) :
    ∃ t, s.step (.hand i) = some t ∧ t.threads = s.threads ∧
      t.serial.busy = some ⟨i, .writeFrame f, 0, false⟩ ∧ Onward s t := by
  have hmove : s.step (.hand i) = some ⟨s.threads,
      { s.serial with busy := some ⟨i, .writeFrame f, 0, false⟩, checked := false }⟩ := by
    rw [SharedLine.step, hframe]
    dsimp only
    rw [SerialLine.step, hfree]
    rfl
  exact ⟨_, hmove, rfl, rfl, Onward.same rfl rfl⟩

/-- Thread `i` has had both locks to itself since `s`. -/
structure Alone (i : ℕ) (s t : SharedLine F) : Prop where
  sound : Sound t
  onward : Onward s t
  free : t.serial.busy = none
  owner : ∀ j n, t.threads.lock = some (j, n) → j = i

/-- A stay in the write lock is one step of the program, and no other step needs that lock. -/
theorem Alone.step {u : SharedLine F} {i : ℕ} (hu : Alone i s u)
    (hmore : ¬(u.threads.program i).isDone = true) (answer : Answer F) :
    ∃ ls t, (∀ l ∈ ls, l.Works i answer) ∧ run SharedLine.step u ls = some t ∧ Alone i s t ∧
      Next (t.threads.program i) (u.threads.program i) := by
  have howner {answer : Answer F} {threads : TrackerThreads F}
      (hstep : u.threads.step (.run i answer) = some threads) :
      ∀ j n, threads.lock = some (j, n) → j = i :=
    fun j n hd => (Config.lock_step hstep hd).elim id (hu.owner j n)
  cases hframe : (u.snapshot i).bind HostDesiredState.frame with
  | some f =>
    obtain ⟨v, hmove, hthreads, hbusy, hentered⟩ := hand_enters hu.free hframe
    obtain ⟨ls, t, hls, hrun, ht, hleft, hout, hanswered⟩ :=
      stay_ends (hu.sound.next (l := .hand i) trivial hmove) hbusy i answer
    obtain ⟨state, hsnapshot, _⟩ := Option.bind_eq_some_iff.mp hframe
    have hsame : v.snapshot i = some state := by
      rw [← hsnapshot, SharedLine.snapshot, SharedLine.snapshot, hthreads]
    rw [SharedLine.Answered, hsame, hthreads] at hanswered
    obtain ⟨_, hstep⟩ := hanswered
    refine ⟨.hand i :: ls, t, fun l hl => ?_, run_cons.mpr ⟨v, hmove, hrun⟩,
      ⟨ht, hu.onward.trans (hentered.trans hleft), hout, howner hstep⟩, Config.next_step hstep⟩
    rcases List.mem_cons.mp hl with rfl | hl
    · rfl
    · exact hls l hl
  | none =>
    obtain ⟨threads, hstep⟩ := Config.advance_alone answer hu.sound.ok hu.owner hmore
    have hguard : (u.writes i || (u.snapshot i).any HostDesiredState.packs) = false := by
      rw [SharedLine.writes, hu.free, any_packs hframe]
      rfl
    have hmove : u.step (.move (.run i answer)) = some ⟨threads, u.serial⟩ := by
      rw [SharedLine.step, hstep]
      exact if_neg (Bool.eq_false_iff.mp hguard)
    exact ⟨[.move (.run i answer)], _, fun l hl => List.mem_singleton.mp hl ▸ rfl,
      run_singleton.mpr hmove, ⟨hu.sound.next (l := .move (.run i answer)) trivial hmove,
        hu.onward.trans (Onward.same rfl rfl), hu.free, howner hstep⟩, Config.next_step hstep⟩

/-- A thread that has both locks to itself comes to the end of its program. -/
theorem alone_ends (hs : Sound s) (hfree : s.serial.busy = none) {i : ℕ}
    (howner : ∀ j n, s.threads.lock = some (j, n) → j = i) (answer : Answer F) :
    ∃ ls t, (∀ l ∈ ls, l.Works i answer) ∧ run SharedLine.step s ls = some t ∧ Sound t ∧
      Onward s t ∧ t.serial.busy = none ∧ t.threads.lock = none ∧
      (t.threads.program i).isDone = true := by
  obtain ⟨ls, t, hls, hrun, ht, hdone⟩ :=
    run_reaches next_wf (fun u : SharedLine F => u.threads.program i)
      (fun u (hu : Alone i s u) hmore => hu.step hmore answer)
      ⟨hs, Onward.same rfl rfl, hfree, howner⟩
  exact ⟨ls, t, hls, hrun, ht.sound, ht.onward, ht.free,
    Config.lock_of_done ht.sound.ok ht.owner hdone, hdone⟩

/-- The write lock becomes free. -/
theorem writing_ends (hs : Sound s) (i : ℕ) (answer : Answer F) :
    ∃ ls t, (∀ l ∈ ls, l.Works i answer) ∧ run SharedLine.step s ls = some t ∧ Sound t ∧
      Onward s t ∧ t.serial.busy = none ∧ t.threads.lock = s.threads.lock := by
  cases hbusy : s.serial.busy with
  | none =>
    exact ⟨[], s, fun _ hl => (List.not_mem_nil hl).elim, run_nil.mpr rfl, hs, Onward.same rfl rfl,
      hbusy, rfl⟩
  | some x =>
    obtain ⟨ls, t, hls, hrun, ht, hward, hfree, hanswered⟩ := stay_ends hs hbusy i answer
    exact ⟨ls, t, hls, hrun, ht, hward, hfree, hanswered.lock⟩

/-- Once the write lock is free the lock of the tracker becomes free. -/
theorem owner_ends (hs : Sound s) (hfree : s.serial.busy = none) (answer : Answer F) :
    ∃ ls t, (∀ l ∈ ls, ∃ j n, l.Works j answer ∧ s.threads.lock = some (j, n)) ∧
      run SharedLine.step s ls = some t ∧ Sound t ∧ Onward s t ∧ t.serial.busy = none ∧
      t.threads.lock = none := by
  cases hlock : s.threads.lock with
  | none =>
    exact ⟨[], s, fun _ hl => (List.not_mem_nil hl).elim, run_nil.mpr rfl, hs, Onward.same rfl rfl,
      hfree, hlock⟩
  | some x =>
    obtain ⟨j, n⟩ := x
    have howner : ∀ k m, s.threads.lock = some (k, m) → k = j := by
      intro k m hk
      rw [hlock] at hk
      cases hk
      rfl
    obtain ⟨ls, t, hls, hrun, ht, hward, hout, hnone, _⟩ := alone_ends hs hfree howner answer
    exact ⟨ls, t, fun l hl => ⟨j, n, hls l hl, rfl⟩, hrun, ht, hward, hout, hnone⟩

end SharedLine

open SharedLine in
/-- Whoever is in the write lock has not taken the lock of the tracker, and from every state that setters,
callers of other frames, resets and flushes come to, every call comes to its end by steps of its own
thread, of the thread in the lock of the tracker and of those writes that are under way. Both locks are
free then, and if the port was open none of these writes broke off. -/
theorem setters_complete {ls : List (SharedEvent F)} {s : SharedLine F}
    (hls : ∀ l ∈ ls, l.CallsMethods) (h : run SharedLine.step SharedLine.init ls = some s) :
    (∀ x, s.serial.busy = some x → s.threads.level x.thread = none) ∧
    ∀ i answer, ∃ ms t ends,
      (∀ l ∈ ms, ∃ j, l.Works j answer ∧ (j = i ∨ ∃ n, s.threads.lock = some (j, n))) ∧
      run SharedLine.step s ms = some t ∧
      (t.threads.program i).isDone = true ∧ t.threads.lock = none ∧ t.serial.busy = none ∧
      t.serial.past = s.serial.past++ends ∧ (s.serial.isOpen = true → ∀ x ∈ ends, x.returned = true) := by
  have hs : Sound s := Sound.run hls h
  refine ⟨fun x hbusy => hs.ordered x.thread x.job (by rw [SerialLine.stay, hbusy]; rfl),
    fun i answer => ?_⟩
  -- First the write under way, then the thread in the lock of the tracker, then the call itself.
  obtain ⟨ls₁, u, hls₁, hrun₁, hu, hward₁, hfree₁, hlock₁⟩ := writing_ends hs i answer
  obtain ⟨ls₂, v, hls₂, hrun₂, hv, hward₂, hfree₂, hlock₂⟩ := owner_ends hu hfree₁ answer
  have hnobody : ∀ j n, v.threads.lock = some (j, n) → j = i := by
    intro j n hj
    rw [hlock₂] at hj
    cases hj
  obtain ⟨ls₃, t, hls₃, hrun₃, _, hward₃, hfree₃, hlock₃, hdone⟩ :=
    alone_ends hv hfree₂ hnobody answer
  obtain ⟨ends, hends, hreturned⟩ := ((hward₁.trans hward₂).trans hward₃).past
  refine ⟨ls₁++ls₂++ls₃, t, ends, fun l hl => ?_,
    run_append.mpr ⟨v, run_append.mpr ⟨u, hrun₁, hrun₂⟩, hrun₃⟩, hdone, hlock₃, hfree₃, hends,
    hreturned⟩
  rcases List.mem_append.mp hl with hl | hl
  · rcases List.mem_append.mp hl with hl | hl
    · exact ⟨i, hls₁ l hl, Or.inl rfl⟩
    · obtain ⟨j, n, hworks, howner⟩ := hls₂ l hl
      exact ⟨j, hworks, Or.inr ⟨n, hlock₁ ▸ howner⟩⟩
  · exact ⟨i, hls₃ l hl, Or.inl rfl⟩

/-- One thread is in the write lock in the middle of its frame, one in the lock of the tracker between
two accesses, and a third one waits for that lock. -/
theorem setters_complete_waiting :
    let answer : Answer Binary32 := ⟨false, .ends false⟩
    let events : List (SharedEvent Binary32) :=
      .line .open :: .move (.start 1 (Method.setter (.setSquelch 3)).code) ::
        List.replicate 14 (.move (.run 1 answer))++
        [.hand 1, .line .check, .line .send, .line .send,
          .move (.start 2 (Method.setter (.setSquelch 5)).code), .move (.run 2 answer),
          .move (.run 2 answer), .move (.start 3 (Method.setter (.setSquelch 7)).code)]
    ∃ s, run SharedLine.step SharedLine.init events = some s ∧
      s.serial.busy.map (·.thread) = some 1 ∧ s.threads.lock = some (2, 0) ∧
      ∃ ms t ends,
        (∀ l ∈ ms, ∃ j, l.Works j answer ∧ (j = 3 ∨ ∃ n, s.threads.lock = some (j, n))) ∧
        run SharedLine.step s ms = some t ∧
        (t.threads.program 3).isDone = true ∧ t.threads.lock = none ∧ t.serial.busy = none ∧
        t.serial.past = s.serial.past++ends ∧ ∀ x ∈ ends, x.returned = true := by
  intro answer events
  have hrun : (run SharedLine.step SharedLine.init events).map (fun s =>
      (s.serial.busy.map (·.thread), s.threads.lock, s.serial.isOpen)) =
        some (some 1, some (2, 0), true) := by
    decide +kernel
  obtain ⟨s, hs, hstate⟩ := Option.map_eq_some_iff.mp hrun
  obtain ⟨hbusy, hrest⟩ := Prod.mk.inj hstate
  obtain ⟨hlock, hopen⟩ := Prod.mk.inj hrest
  have hallowed : ∀ l ∈ events, l.CallsMethods := by
    intro l hl
    simp only [events, List.mem_append, List.mem_cons, List.mem_replicate, List.not_mem_nil,
      or_false] at hl
    rcases hl with (rfl | rfl | ⟨_, rfl⟩) | (rfl | rfl | rfl | rfl | rfl | rfl | rfl | rfl)
    · trivial
    · exact ⟨_, rfl⟩
    · trivial
    · trivial
    · trivial
    · trivial
    · trivial
    · exact ⟨_, rfl⟩
    · trivial
    · trivial
    · exact ⟨_, rfl⟩
  obtain ⟨ms, t, ends, hms, hmore, hdone, hfree, hout, hends, hreturned⟩ :=
    (setters_complete hallowed hs).2 3 answer
  exact ⟨s, hs, hbusy, hlock, ms, t, ends, hms, hmore, hdone, hfree, hout, hends, hreturned hopen⟩

end Kv4p

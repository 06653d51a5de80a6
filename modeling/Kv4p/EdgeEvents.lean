import Kv4p.DummyTransport
import Kv4p.Library.EdgeDetector

/-! The edge events: what the callbacks for squelch, physical PTT and transmission are called with
over a sequence of reports. -/
namespace Kv4p
open Effects EdgeDetector

variable {F : Type}

inductive Signal
  | sql
  | phyPtt
  | txActive
deriving DecidableEq

namespace Signal

/-- The value a report has for a signal. -/
def value (state : DeviceState F) : Signal → Bool
  | sql => state.sqlOpen
  | phyPtt => BitMask.anySet state.flags deviceStatePhysPttDown
  | txActive => BitMask.anySet state.flags deviceStateTxActive

/-- The property of the tracker that shows the signal. -/
def property (t : DeviceStateTracker F) : Signal → Bool
  | sql => t.sqlOpen
  | phyPtt => t.phyPtt
  | txActive => t.txActive

def callback : Signal → Bool → Callback F
  | sql => .sql
  | phyPtt => .phyPtt
  | txActive => .txActive

def last : Signal → LastReported → Option Bool
  | sql => LastReported.sqlOpen
  | phyPtt => LastReported.phyPtt
  | txActive => LastReported.txActive

def remember (v : Bool) : Signal → LastReported → LastReported
  | sql => ({ · with sqlOpen := some v })
  | phyPtt => ({ · with phyPtt := some v })
  | txActive => ({ · with txActive := some v })

/-- The edge check of a signal. -/
def check (env : Environment F) (state : DeviceState F) (signal : Signal) : RadioM F Unit :=
  reportEdge env signal.last (signal.remember (signal.value state)) signal.callback
    (signal.value state)

/-- The signals in the order in which they are checked. -/
def all : List Signal := [sql, phyPtt, txActive]

/-- The signals that are checked before. -/
def before : Signal → List Signal
  | sql => []
  | phyPtt => [sql]
  | txActive => [sql, phyPtt]

def after : Signal → List Signal
  | sql => [phyPtt, txActive]
  | phyPtt => [txActive]
  | txActive => []

/-- A call of the signal's callback: the value, and whether it returned. -/
def called : Signal → Event F → Option (Bool × Bool)
  | sql, .callback (.sql v) ok => some (v, ok)
  | phyPtt, .callback (.phyPtt v) ok => some (v, ok)
  | txActive, .callback (.txActive v) ok => some (v, ok)
  | _, _ => none

def calls (signal : Signal) (log : List (Event F)) : List (Bool × Bool) :=
  log.filterMap signal.called

theorem all_eq (signal : Signal) : all = signal.before++signal :: signal.after := by
  cases signal <;> rfl

theorem not_mem_before (signal : Signal) : signal ∉ signal.before := by
  cases signal <;> decide

theorem not_mem_after (signal : Signal) : signal ∉ signal.after := by
  cases signal <;> decide

theorem not_mem_later {signal later : Signal} (h : signal ∈ later.before) :
    signal ∉ later :: later.after := by
  revert h
  cases signal <;> cases later <;> decide

theorem last_remember (signal : Signal) (v : Bool) (l : LastReported) :
    signal.last (signal.remember v l) = some v := by
  cases signal <;> rfl

theorem last_remember_ne {signal other : Signal} (h : signal ≠ other) (v : Bool)
    (l : LastReported) : signal.last (other.remember v l) = signal.last l := by
  cases signal <;> cases other <;> first | rfl | exact absurd rfl h

theorem called_callback (signal : Signal) (v ok : Bool) :
    signal.called (.callback (signal.callback v) ok : Event F) = some (v, ok) := by
  cases signal <;> rfl

theorem called_callback_ne {signal other : Signal} (h : signal ≠ other) (v ok : Bool) :
    signal.called (.callback (other.callback v) ok : Event F) = none := by
  cases signal <;> cases other <;> first | rfl | exact absurd rfl h

theorem calls_append (signal : Signal) (log log' : List (Event F)) :
    signal.calls (log++log') = signal.calls log++signal.calls log' :=
  List.filterMap_append

end Signal

variable (env : Environment F)

/-- What the tracker remembers of a signal, and the calls of its callback so far. -/
def World.watch (w : World F) (signal : Signal) : Option Bool × List (Bool × Bool) :=
  (signal.last w.tracker.last, signal.calls w.log)

def World.remember (w : World F) (signal : Signal) (v : Bool) : World F :=
  { w with tracker := { w.tracker with last := signal.remember v w.tracker.last } }

theorem check_run_of_eq {state : DeviceState F} {signal : Signal} {w : World F}
    (h : signal.last w.tracker.last = some (signal.value state)) :
    (signal.check env state).run w = (.ok (), w) := by
  unfold Signal.check reportEdge
  rw [Effect.read_bind_run, if_neg (not_not.mpr h)]
  rfl

theorem check_run_of_ne {state : DeviceState F} {signal : Signal} {w : World F}
    (h : signal.last w.tracker.last ≠ some (signal.value state)) :
    (signal.check env state).run w = (invoke env (signal.callback (signal.value state))).run
      (w.remember signal (signal.value state)) := by
  unfold Signal.check reportEdge
  rw [Effect.read_bind_run, if_pos h]
  rfl

/-- A check finds the value it knows, or it remembers the new one and the callback is missing, or it
calls the callback, which returns or raises. -/
theorem check_cases (state : DeviceState F) (signal : Signal) (w : World F) :
    (signal.last w.tracker.last = some (signal.value state) ∧
      (signal.check env state).run w = (.ok (), w)) ∨
    (signal.last w.tracker.last ≠ some (signal.value state) ∧
      ((env.callback (signal.callback (signal.value state)) w.log.length = .unregistered ∧
        (signal.check env state).run w = (.ok (), w.remember signal (signal.value state))) ∨
      ∃ ok, env.callback (signal.callback (signal.value state)) w.log.length =
          (if ok = true then .returns else .raises) ∧
        (signal.check env state).run w = (if ok = true then .ok () else .error .callbackRaised,
          (w.remember signal (signal.value state)).record
            (.callback (signal.callback (signal.value state)) ok)))) := by
  by_cases h : signal.last w.tracker.last = some (signal.value state)
  · exact Or.inl ⟨h, check_run_of_eq env h⟩
  · right
    refine ⟨h, ?_⟩
    rw [check_run_of_ne env h]
    rcases invoke_cases env (signal.callback (signal.value state))
      (w.remember signal (signal.value state)) with ⟨hc, hr⟩ | ⟨hc, hr⟩ | ⟨hc, hr⟩
    · exact Or.inl ⟨hc, hr⟩
    · exact Or.inr ⟨true, hc, hr⟩
    · exact Or.inr ⟨false, hc, hr⟩

theorem watch_called (w : World F) (signal : Signal) (v ok : Bool) :
    ((w.remember signal v).record (.callback (signal.callback v) ok)).watch signal =
      (some v, signal.calls w.log++[(v, ok)]) := by
  have hlast : signal.last (signal.remember v w.tracker.last) = some v :=
    signal.last_remember v w.tracker.last
  have hcalls : signal.calls (w.log++[.callback (signal.callback v) ok]) =
      signal.calls w.log++[(v, ok)] := by
    rw [Signal.calls_append, Signal.calls, Signal.calls, List.filterMap_cons_some
      (signal.called_callback v ok), List.filterMap_nil]
  exact Prod.ext hlast hcalls

/-- A check of another signal shows nothing of itself. -/
theorem check_watch_ne {signal other : Signal} (h : signal ≠ other) (state : DeviceState F)
    (w : World F) : ((other.check env state).run w).2.watch signal = w.watch signal := by
  have hlast : signal.last (w.remember other (other.value state)).tracker.last =
      signal.last w.tracker.last := Signal.last_remember_ne h _ _
  rcases check_cases env state other w with ⟨_, hr⟩ | ⟨_, ⟨_, hr⟩ | ⟨ok, _, hr⟩⟩
  · rw [hr]
  · rw [hr]
    exact Prod.ext hlast rfl
  · have hcalls : signal.calls (w.log++[.callback (other.callback (other.value state)) ok]) =
        signal.calls w.log := by
      rw [Signal.calls_append, Signal.calls, Signal.calls, List.filterMap_cons_none
        (Signal.called_callback_ne h _ ok), List.filterMap_nil, List.append_nil]
    rw [hr]
    exact Prod.ext hlast hcalls

theorem each_watch_of_not_mem {signal : Signal} {signals : List Signal} (h : signal ∉ signals)
    (state : DeviceState F) (w : World F) :
    ((Effect.each (Signal.check env state) signals).run w).2.watch signal = w.watch signal := by
  have hone : ∀ other ∈ signals,
      Moves (fun v w : World F => w.watch signal = v.watch signal) (other.check env state) := by
    intro other hother v
    have hne : signal ≠ other := fun heq => h (heq.symm ▸ hother)
    exact check_watch_ne env hne state v
  exact moves_each (R := fun v w : World F => w.watch signal = v.watch signal) (fun _ => rfl)
    (fun _ _ _ huv hvw => hvw.trans huv) hone w

/-- The values the callback of a signal was called with, and the one the tracker remembers. -/
def World.detector (w : World F) (signal : Signal) : Option Bool × List Bool :=
  ((w.watch signal).1, (w.watch signal).2.map Prod.fst)

/-- The callback of a signal is registered. -/
def Registered (signal : Signal) : Prop :=
  ∀ v n, env.callback (signal.callback v) n ≠ .unregistered

theorem check_detector {signal : Signal} (hreg : Registered env signal) (state : DeviceState F)
    (w : World F) : ((signal.check env state).run w).2.detector signal =
      see (w.detector signal) (signal.value state) := by
  rcases check_cases env state signal w with ⟨he, hr⟩ | ⟨hne, ⟨hc, _⟩ | ⟨ok, _, hr⟩⟩
  · rw [hr, see_of_eq he]
  · exact absurd hc (hreg _ _)
  · rw [hr, see_of_ne hne, World.detector, watch_called, List.map_append]
    rfl

/-- The checks in `signals` do not raise. -/
def passes (state : DeviceState F) (signals : List Signal) (w : World F) : Bool :=
  ((Effect.each (Signal.check env state) signals).run w).1.isOk

/-- The checks after the signal's own show nothing of it. -/
theorem each_append_watch {signal : Signal} {later : List Signal} (h : signal ∉ later)
    (earlier : List Signal) (state : DeviceState F) (w : World F) :
    ((Effect.each (Signal.check env state) (earlier++later)).run w).2.watch signal =
      ((Effect.each (Signal.check env state) earlier).run w).2.watch signal := by
  rw [Effect.each_append_run]
  match hr : (Effect.each (Signal.check env state) earlier).run w with
  | (.error e, u) => rfl
  | (.ok (), u) => exact each_watch_of_not_mem env h state u

/-- A signal sees a report unless a callback that is called before its own raises. -/
theorem checks_watch (signal : Signal) (state : DeviceState F) (w : World F) :
    ∃ u, u.watch signal = w.watch signal ∧
      ((Effect.each (Signal.check env state) Signal.all).run w).2.watch signal =
        if passes env state signal.before w = true then
          ((signal.check env state).run u).2.watch signal
        else w.watch signal := by
  -- The row is split at the signal's own check: what comes before it may end it, what comes after
  -- shows nothing of the signal.
  have hbefore := each_watch_of_not_mem env signal.not_mem_before state w
  rw [signal.all_eq, Effect.each_append_run, passes]
  match hr : (Effect.each (Signal.check env state) signal.before).run w with
  | (.error e, u) =>
    rw [hr] at hbefore
    exact ⟨u, hbefore, hbefore⟩
  | (.ok (), u) =>
    rw [hr] at hbefore
    have hafter := each_append_watch env signal.not_mem_after [signal] state u
    rw [Effect.each_singleton] at hafter
    exact ⟨u, hbefore, hafter⟩

theorem checks_detector {signal : Signal} (hreg : Registered env signal) (state : DeviceState F)
    (w : World F) :
    ((Effect.each (Signal.check env state) Signal.all).run w).2.detector signal =
      if passes env state signal.before w = true then see (w.detector signal) (signal.value state)
      else w.detector signal := by
  obtain ⟨u, hu, hall⟩ := checks_watch env signal state w
  have hcheck := check_detector env hreg state u
  unfold World.detector at hcheck ⊢
  rw [hall]
  rw [hu] at hcheck
  split
  · exact hcheck
  · rfl

/-- What the tracker is given: a HELLO or a device report. -/
inductive Report (F : Type)
  | hello (hello : Hello F)
  | deviceState (state : DeviceState F)

namespace Report

/-- The device state it brings. -/
def state : Report F → DeviceState F
  | hello h => h.deviceState
  | deviceState d => d

/-- The handler of the tracker. -/
def deliver (env : Environment F) : Report F → RadioM F Unit
  | hello h => onHello env h
  | deviceState d => onDeviceState env d

end Report

/-- The world after the locked section. -/
def World.take (w : World F) : Report F → World F
  | .hello h => w.takeHello h
  | .deviceState d => w.takeReport d

/-- The world after a report, whether a callback raised or not. -/
def World.report (w : World F) (r : Report F) : World F := ((r.deliver env).run w).2

theorem onDeviceState_run (state : DeviceState F) (w : World F) :
    (onDeviceState env state).run w =
      (Effect.each (Signal.check env state) Signal.all).run (w.takeReport state) := by
  have hlast := Effect.each_singleton (Signal.check env state) .txActive
  have hall : Effect.each (Signal.check env state) Signal.all =
      Signal.check env state .sql >>= fun _ => Signal.check env state .phyPtt >>= fun _ =>
        Effect.each (Signal.check env state) [.txActive] := rfl
  rw [hall, hlast]
  rfl

/-- Both handlers store what the report brings and then make the checks. -/
theorem deliver_run (r : Report F) (w : World F) :
    (r.deliver env).run w =
      (Effect.each (Signal.check env r.state) Signal.all).run (w.take r) := by
  cases r with
  | hello h =>
    have hstate := onDeviceState_run env h.deviceState (w.takeHello h)
    rw [takeReport_takeHello] at hstate
    exact hstate
  | deviceState d => exact onDeviceState_run env d w

theorem watch_take (w : World F) (r : Report F) (signal : Signal) :
    (w.take r).watch signal = w.watch signal := by
  cases r with
  | hello h =>
    have hnone : signal.calls [Event.hello h] = [] := by cases signal <;> rfl
    have hcalls : signal.calls (w.log++[.hello h]) = signal.calls w.log := by
      rw [Signal.calls_append, hnone, List.append_nil]
    exact Prod.ext rfl hcalls
  | deviceState d => rfl

theorem detector_take (w : World F) (r : Report F) (signal : Signal) :
    (w.take r).detector signal = w.detector signal := by
  rw [World.detector, World.detector, watch_take]

variable {env}

theorem passes_of_returns (hret : ∀ call n, env.callback call n ≠ .raises)
    (state : DeviceState F) (signals : List Signal) (w : World F) :
    passes env state signals w = true := by
  unfold passes
  induction signals generalizing w with
  | nil => rfl
  | cons signal signals ih =>
    have hok : ((signal.check env state).run w).1 = .ok () := by
      rcases check_cases env state signal w with ⟨_, hr⟩ | ⟨_, ⟨_, hr⟩ | ⟨ok, hc, hr⟩⟩
      · rw [hr]
      · rw [hr]
      · cases ok with
        | true => rw [hr, if_pos rfl]
        | false => exact absurd hc (hret _ _)
    rw [Effect.each_cons_run, Effect.andThen_of_ok hok]
    exact ih _

theorem report_detector (hret : ∀ call n, env.callback call n ≠ .raises) {signal : Signal}
    (hreg : Registered env signal) (w : World F) (r : Report F) :
    (w.report env r).detector signal = see (w.detector signal) (signal.value r.state) := by
  rw [World.report, deliver_run, checks_detector env hreg,
    if_pos (passes_of_returns hret _ _ _), detector_take]

theorem reports_detector (hret : ∀ call n, env.callback call n ≠ .raises) {signal : Signal}
    (hreg : Registered env signal) (reports : List (Report F)) (w : World F) :
    (reports.foldl (World.report env) w).detector signal =
      (reports.map fun r => signal.value r.state).foldl see (w.detector signal) := by
  induction reports generalizing w with
  | nil => rfl
  | cons r reports ih =>
    rw [List.foldl_cons, List.map_cons, List.foldl_cons, ih, report_detector hret hreg]

/-- The property shows the last report. -/
theorem property_report (w : World F) (r : Report F) (signal : Signal) :
    signal.property (w.report env r).tracker = signal.value r.state := by
  have hstate : (w.report env r).tracker.deviceState = some r.state := by
    cases r with
    | hello h =>
      obtain ⟨last, ht⟩ := (onHello_quiet env h w).tracker
      exact congrArg DeviceStateTracker.deviceState ht
    | deviceState d =>
      obtain ⟨last, ht⟩ := (Quiet.allowsReports.onDeviceState env d w).tracker
      exact congrArg DeviceStateTracker.deviceState ht
  cases signal with
  | sql => rw [Signal.property, DeviceStateTracker.sqlOpen, hstate, Signal.value]
  | phyPtt => rw [Signal.property, DeviceStateTracker.phyPtt, hstate, Signal.value]
  | txActive => rw [Signal.property, DeviceStateTracker.txActive, hstate, Signal.value]

variable [PyFloat F]

/-- Each edge callback is called with the values of its signal without consecutive duplicates, and
after each report its last value is what the property shows. -/
theorem edge_events_are_changes (hret : ∀ call n, env.callback call n ≠ .raises)
    {signal : Signal} (hreg : Registered env signal) (reports : List (Report F)) :
    let w := reports.foldl (World.report env) World.init
    let values := (signal.calls w.log).map Prod.fst
    values = (reports.map fun r => signal.value r.state).destutter (· ≠ ·) ∧
      (reports ≠ [] → values.getLast? = some (signal.property w.tracker)) := by
  intro w values
  have hinit : (World.init : World F).detector signal = (none, []) := by cases signal <;> rfl
  have hdetector := reports_detector hret hreg reports World.init
  rw [hinit, foldl_see] at hdetector
  have hvalues : values = (reports.map fun r => signal.value r.state).destutter (· ≠ ·) :=
    congrArg Prod.snd hdetector
  refine ⟨hvalues, fun hne => ?_⟩
  obtain ⟨earlier, r, rfl⟩ := List.eq_nil_or_concat' reports |>.resolve_left hne
  have hw : w = (earlier.foldl (World.report env) World.init).report env r := by
    exact List.foldl_concat ..
  rw [hvalues, getLast?_destutter, List.map_append, hw, property_report]
  exact List.getLast?_concat

/-- Every callback is registered and returns. -/
def attentive : Environment Binary32 := ⟨fun _ _ => false, fun _ _ => .returns⟩

theorem attentive_returns (call : Callback Binary32) (n : ℕ) :
    attentive.callback call n = .returns := rfl

/-- The squelch is closed, opens, stays open over a HELLO and closes. -/
theorem edge_events_squelch :
    let closed := { dummyHello.deviceState with flags := deviceStateSquelched }
    let w := [.deviceState closed, .deviceState dummyHello.deviceState, .hello dummyHello,
      .deviceState closed].foldl (World.report attentive) World.init
    (Signal.sql.calls w.log).map Prod.fst = [false, true, false] := by
  have hret : ∀ call n, attentive.callback call n ≠ .raises := by simp [attentive_returns]
  have hreg : Registered attentive .sql := by simp [Registered, attentive_returns]
  exact (edge_events_are_changes hret hreg _).1.trans (by decide)

end Kv4p

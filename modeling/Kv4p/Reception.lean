import Kv4p.SerialTransport

/-! Which exceptions of user callbacks end the reception. What a vendor command raises is caught in
the dispatcher; what the callback for AX.25 frames raises is not, and ends the read loop. -/
namespace Kv4p
open Effects Transitions

variable {F : Type}

/-- The same environment, with callbacks that return where they raised. -/
def Environment.neverRaises (env : Environment F) : Environment F where
  transportRaises := env.transportRaises
  callback call n :=
    match env.callback call n with
    | .unregistered => .unregistered
    | .returns => .returns
    | .raises => .returns

theorem callback_neverRaises (env : Environment F) (call : Callback F) (n : ℕ) :
    env.neverRaises.callback call n ≠ .raises := by
  unfold Environment.neverRaises
  cases h : env.callback call n with
  | unregistered => simp [h]
  | returns => simp [h]
  | raises => simp [h]

/-- A data frame does not find a callback that raises. -/
def DataCallbackReturns (env : Environment F) (w : World F) (f : KissFrame) : Prop :=
  f.command &&& 0x0F = kissCmdData → env.callback (.ax25Frame f.payload) w.log.length ≠ .raises

instance (env : Environment F) (w : World F) (f : KissFrame) :
    Decidable (DataCallbackReturns env w f) := by
  unfold DataCallbackReturns
  infer_instance

theorem invoke_returns_iff (env : Environment F) (call : Callback F) (w : World F) :
    ((invoke env call).run w).1 = .ok () ↔ env.callback call w.log.length ≠ .raises := by
  rcases invoke_cases env call w with ⟨hc, h⟩ | ⟨hc, h⟩ | ⟨hc, h⟩
  · simp [hc, h]
  · simp [hc, h]
  · simp [hc, h]

variable [PyFloat F]

/-- The world after a frame, whether the radio raised on it or not. -/
def World.handle (env : Environment F) (w : World F) (f : KissFrame) : World F :=
  ((onKissFrame env f.command f.payload).run w).2

/-- The loop outlives the reads, and the radio gets the frames it would get if no callback raised. -/
def KeepsReceiving (env : Environment F) (p : KissParser) (w : World F)
    (reads : List (List UInt8)) : Prop :=
  ((readLoop env reads).run (p, [], w)).1 = .ok () ∧
    ((readLoop env reads).run (p, [], w)).2.2.1 =
      ((readLoop env.neverRaises reads).run (p, [], w)).2.2.1

/-- The only way out of the radio is the data branch: the dispatcher attempts its handlers. -/
theorem onKissFrame_returns_iff (env : Environment F) (w : World F) (f : KissFrame) :
    ((onKissFrame env f.command f.payload).run w).1 = .ok () ↔ DataCallbackReturns env w f := by
  rcases onKissFrame_cases env f.command f.payload w with ⟨hdata, _, h⟩ | ⟨hdata, _, h⟩ |
    ⟨command, body, v, hsome, h, _⟩
  · rw [h, invoke_returns_iff]
    exact ⟨fun hret _ => hret, fun hret => hret hdata⟩
  · rw [h]
    exact iff_of_true rfl fun hd => absurd hd hdata
  · have hdata : f.command &&& 0x0F ≠ kissCmdData := by
      rw [(vendorCommand_eq_some.mp hsome).1]
      decide
    rw [h]
    exact iff_of_true rfl fun hd => absurd hd hdata

theorem onFrame_run (env : Environment F) (f : KissFrame) (seen : List KissFrame) (w : World F) :
    (KissParser.handTo (onFrame env) f).run (seen, w) =
      (((onKissFrame env f.command f.payload).run w).1, (seen++[f], w.handle env f)) :=
  rfl

/-- A list of frames goes through if no data frame in it meets a callback that raises, and then all
of them were handed over. -/
theorem handAll_returns_iff (env : Environment F) (seen : List KissFrame) (w : World F)
    (fs : List KissFrame) :
    ((Effect.each (KissParser.handTo (onFrame env)) fs).run (seen, w)).1 = .ok () ↔
      AllSteps (World.handle env) (DataCallbackReturns env) w fs := by
  induction fs generalizing seen w with
  | nil => exact iff_of_true rfl trivial
  | cons f fs ih =>
    have hf := onKissFrame_returns_iff env w f
    rw [Effect.each_cons_run, onFrame_run, AllSteps, ← hf, ← ih (seen++[f])]
    cases ((onKissFrame env f.command f.payload).run w).1 with
    | ok _ => simp
    | error e => simp

theorem handAll_seen {env : Environment F} {seen : List KissFrame} {w : World F}
    {fs : List KissFrame} (h : AllSteps (World.handle env) (DataCallbackReturns env) w fs) :
    ((Effect.each (KissParser.handTo (onFrame env)) fs).run (seen, w)).2.1 = seen++fs := by
  induction fs generalizing seen w with
  | nil => exact (List.append_nil seen).symm
  | cons f fs ih =>
    have hf := (onKissFrame_returns_iff env w f).mpr h.1
    rw [Effect.each_cons_run, onFrame_run, hf, Effect.andThen_ok, ih h.2, List.append_assoc]
    rfl

/-- If no callback for data frames raises, the loop hands over the frames of the stream. -/
theorem readLoop_seen {env : Environment F} {p : KissParser} {w : World F}
    {reads : List (List UInt8)}
    (h : AllSteps (World.handle env) (DataCallbackReturns env) w (p.frames reads.flatten)) :
    ((readLoop env reads).run (p, [], w)).2.2.1 = p.frames reads.flatten := by
  have hs := (delivers_readLoop env p reads).state ([], w)
  rw [hs, handAll_seen h, List.nil_append]

/-- The reception survives if and only if no callback for AX.25 frames raises, whatever the other
callbacks do. -/
theorem keeps_receiving (env : Environment F) (p : KissParser) (w : World F)
    (reads : List (List UInt8)) :
    KeepsReceiving env p w reads ↔
      AllSteps (World.handle env) (DataCallbackReturns env) w (p.frames reads.flatten) := by
  have hresult := (delivers_readLoop env p reads).result ([], w)
  constructor
  · intro h
    have hok := h.1
    rwa [hresult, handAll_returns_iff] at hok
  · intro h
    have hnever : AllSteps (World.handle env.neverRaises) (DataCallbackReturns env.neverRaises) w
        (p.frames reads.flatten) := allSteps_of_forall fun f _ v _ => callback_neverRaises env _ _
    constructor
    · rwa [hresult, handAll_returns_iff]
    · rw [readLoop_seen h, readLoop_seen hnever]

/-- The AX.25 callback raises on the first of two frames: the loop ends, and the second frame, in
the same read, is lost. -/
theorem reception_ends :
    ¬ KeepsReceiving (F := Binary32) ⟨fun _ _ => false, fun call _ =>
        if call = .ax25Frame [0x41] then .raises else .returns⟩ .init .init
      [[0xC0, 0x00, 0x41, 0xC0, 0x00, 0x42, 0xC0]] := by
  intro h
  have hok : _ = Except.ok () := h.1
  revert hok
  decide +kernel

end Kv4p

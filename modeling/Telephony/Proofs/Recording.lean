import Telephony.Proofs.Loading
import Telephony.Service.Controls

/-!
# Recording daemons

A daemon of any kind that writes down what it is asked, and why it refused if it did. It answers as
the daemon that is recorded: a service does with it what it does with that one.
-/

namespace Telephony

/-- What a daemon may be asked to do with the codes of a SIM. -/
inductive PinRequest where
  | enter (path : ModemPath) (code : SecurityCode) (pin : String)
  | reset (path : ModemPath) (code : SecurityCode) (puk newPin : String)
  | change (path : ModemPath) (code : SecurityCode) (oldPin newPin : String)
  | lock (path : ModemPath) (code : SecurityCode) (pin : String)
  | unlock (path : ModemPath) (code : SecurityCode) (pin : String)
  deriving DecidableEq, Repr

/-- What a daemon may be asked. -/
inductive Demand where
  | connect
  | disconnect
  | receive
  | watch (path : ModemPath) (interface : Interface)
  | unwatch (path : ModemPath) (interface : Interface)
  | properties (path : ModemPath) (interface : Interface)
  | setSwitch (path : ModemPath) (switch : Switch) (on : Bool)
  | pin (request : PinRequest)
  | registerOperator (operator : String)
  | registerAutomatically (path : ModemPath)
  | begin (path : ModemPath) (errand : Errand)
  | poll (path : ModemPath) (errand : Errand)
  deriving DecidableEq, Repr

structure Asked where
  demand : Demand
  /-- Why the daemon refused, if it did. -/
  refusal : Option Failure
  deriving DecidableEq, Repr

/-- A daemon and all that it has been asked, the oldest first. -/
structure Recorded (δ : Type) where
  daemon : δ
  record : List Asked

namespace Recorded

variable {δ α : Type}

def failure? : Except Failure α → Option Failure
  | .ok _ => none
  | .error failure => some failure

/-- Asks the daemon and writes down the demand and what came of it. -/
def note (demand : Demand) (refusal : α → Option Failure) (operation : δ → α × δ)
    (recorded : Recorded δ) : α × Recorded δ :=
  let (answer, daemon) := operation recorded.daemon
  (answer, ⟨daemon, recorded.record ++ [⟨demand, refusal answer⟩]⟩)

/-- Tells the daemon, which cannot refuse. -/
def noteTold (demand : Demand) (operation : δ → δ) (recorded : Recorded δ) : Recorded δ :=
  ⟨operation recorded.daemon, recorded.record ++ [⟨demand, none⟩]⟩

end Recorded

namespace Daemon

variable {δ : Type} [Daemon δ]

open Recorded (failure? note noteTold)

instance recorded : Daemon (Recorded δ) where
  connect := note .connect failure? connect
  disconnect := noteTold .disconnect disconnect
  receive := note .receive (fun _ => none) receive
  watch path interface := note (.watch path interface) failure? (watch path interface)
  unwatch path interface := noteTold (.unwatch path interface) (unwatch path interface)
  properties path interface :=
    note (.properties path interface) failure? (properties path interface)
  setSwitch path switch on := note (.setSwitch path switch on) failure? (setSwitch path switch on)
  enterPin path code pin := note (.pin (.enter path code pin)) failure? (enterPin path code pin)
  resetPin path code puk newPin :=
    note (.pin (.reset path code puk newPin)) failure? (resetPin path code puk newPin)
  changePin path code oldPin newPin :=
    note (.pin (.change path code oldPin newPin)) failure? (changePin path code oldPin newPin)
  lockPin path code pin := note (.pin (.lock path code pin)) failure? (lockPin path code pin)
  unlockPin path code pin := note (.pin (.unlock path code pin)) failure? (unlockPin path code pin)
  registerOperator operator := note (.registerOperator operator) failure? (registerOperator operator)
  registerAutomatically path :=
    note (.registerAutomatically path) failure? (registerAutomatically path)
  begin path errand := note (.begin path errand) (fun _ => none) (begin path errand)
  poll path errand := note (.poll path errand) (fun _ => none) (poll path errand)

/-- Asks the daemon to do something with the codes of a SIM. -/
def handlePin : PinRequest → δ → Except Failure Unit × δ
  | .enter path code pin => enterPin path code pin
  | .reset path code puk newPin => resetPin path code puk newPin
  | .change path code oldPin newPin => changePin path code oldPin newPin
  | .lock path code pin => lockPin path code pin
  | .unlock path code pin => unlockPin path code pin

theorem handlePin_recorded (request : PinRequest) (daemon : Recorded δ) :
    handlePin request daemon = note (.pin request) failure? (handlePin request) daemon := by
  cases request <;> rfl

end Daemon

/-! ### What is recorded changes nothing -/

namespace Service

variable {δ : Type} [Daemon δ] (service : Service (Recorded δ))

omit [Daemon δ] in
/-- The service without the record. -/
def forget (service : Service (Recorded δ)) : Service δ :=
  { daemon := service.daemon.daemon
    board := service.board
    running := service.running
    roster := service.roster
    jobs := service.jobs
    heard := service.heard
    answered := service.answered }

omit [Daemon δ] in
theorem forget_deliverAll (deliveries : List Delivery) :
    (service.deliverAll deliveries).forget = service.forget.deliverAll deliveries := by
  unfold deliverAll
  induction deliveries generalizing service with
  | nil => rfl
  | cons delivery rest ih => exact ih (service.deliver delivery)

theorem fetch_recorded (path : ModemPath) (interface : Interface) :
    service.forget.fetch path interface =
      ((service.fetch path interface).1, (service.fetch path interface).2.daemon) := by
  have hwatch : Daemon.watch path interface service.daemon =
      Recorded.note (.watch path interface) Recorded.failure? (Daemon.watch path interface)
        service.daemon := rfl
  rcases hasked : Daemon.watch path interface service.daemon.daemon with ⟨answer, daemon⟩
  simp only [fetch, forget, hwatch, Recorded.note, hasked]
  cases answer <;> rfl

theorem forget_load (path : ModemPath) (interface : Interface) :
    service.forget.load path interface =
      ((service.load path interface).1.forget, (service.load path interface).2) := by
  rw [load_eq, load_eq, fetch_recorded]
  dsimp only
  rw [forget_deliverAll]
  rfl

theorem forget_carryOut (effect : Effect) :
    service.forget.carryOut effect =
      ((service.carryOut effect).1.forget, (service.carryOut effect).2) := by
  cases effect with
  | watch path interface => exact service.forget_load path interface
  | unwatch path interface => rfl
  | replay path epoch => rfl
  | fail path requests =>
    simp only [carryOut]
    refine Prod.ext ?_ rfl
    induction requests generalizing service with
    | nil => rfl
    | cons request rest ih => exact ih (service.answer request.ticket _)

theorem forget_carryOutAll (effects : List Effect) :
    service.forget.carryOutAll effects =
      ((service.carryOutAll effects).1.forget, (service.carryOutAll effects).2) := by
  induction effects generalizing service with
  | nil => rfl
  | cons effect rest ih => simp only [carryOutAll, forget_carryOut, ih]

theorem forget_settleEffects (depth : Nat) (effects : List Effect) :
    (settleEffects depth service effects).forget = settleEffects depth service.forget effects := by
  induction depth generalizing service effects with
  | zero => rfl
  | succ depth ih => simp only [settleEffects, forget_carryOutAll, ih]

theorem forget_execute (outcome : Outcome) :
    (service.execute outcome).forget = service.forget.execute outcome := by
  rw [execute, execute, forget_settleEffects, forget_deliverAll]

theorem forget_process (event : Event) :
    (service.process event).forget = service.forget.process event :=
  forget_execute _ _

omit [Daemon δ] in
theorem forget_flush : service.flush.forget = service.forget.flush := by
  have hdelivered := forget_deliverAll { service with board := service.board.flush.1 }
    service.board.flush.2
  exact congrArg (fun told : Service δ =>
    { told with roster := told.roster.set service.board.flush.1.paths }) hdelivered

end Service

/-! ### What events ask for -/

/-- A subscription begins or ends, or its properties are loaded. -/
def Demand.IsOfLoading : Demand → Prop
  | watch _ _ | unwatch _ _ | properties _ _ => True
  | _ => False

/-- The later daemon has been asked for more, all of it about subscriptions. -/
def Recorded.Loads {δ : Type} (before after : Recorded δ) : Prop :=
  ∃ more, after.record = before.record ++ more ∧ ∀ asked ∈ more, asked.demand.IsOfLoading

namespace Recorded.Loads

variable {δ : Type} {before middle after : Recorded δ}

theorem refl (recorded : Recorded δ) : recorded.Loads recorded :=
  ⟨[], (List.append_nil _).symm, fun _ hmem => absurd hmem List.not_mem_nil⟩

theorem trans (hfirst : before.Loads middle) (hsecond : middle.Loads after) :
    before.Loads after := by
  obtain ⟨more, hmore, hloads⟩ := hfirst
  obtain ⟨rest, hrest, hloading⟩ := hsecond
  refine ⟨more ++ rest, by rw [hrest, hmore, List.append_assoc], fun asked hmem => ?_⟩
  rcases List.mem_append.1 hmem with hearly | hlate
  · exact hloads asked hearly
  · exact hloading asked hlate

theorem of_one {asked : Asked} (hrecord : after.record = before.record ++ [asked])
    (hloads : asked.demand.IsOfLoading) : before.Loads after :=
  ⟨[asked], hrecord, fun _ hmem => List.mem_singleton.1 hmem ▸ hloads⟩

end Recorded.Loads

namespace Service

variable {δ : Type} [Daemon δ] (service : Service (Recorded δ))

/-- Fetching asks for the subscription, and if it is granted for the properties. -/
theorem record_fetch (path : ModemPath) (interface : Interface) :
    let fetched := service.fetch path interface
    (∃ failure, fetched.1 = .error failure ∧
        fetched.2.record = service.daemon.record ++ [⟨.watch path interface, some failure⟩]) ∨
      fetched.2.record = service.daemon.record ++ [⟨.watch path interface, none⟩] ++
        [⟨.properties path interface, Recorded.failure? fetched.1⟩] := by
  have hwatch : Daemon.watch path interface service.daemon =
      Recorded.note (.watch path interface) Recorded.failure? (Daemon.watch path interface)
        service.daemon := rfl
  rcases hasked : Daemon.watch path interface service.daemon.daemon with ⟨answer, daemon⟩
  simp only [fetch, hwatch, Recorded.note, hasked]
  cases answer with
  | error failure => exact .inl ⟨failure, rfl, rfl⟩
  | ok => exact .inr rfl

theorem loads_fetch (path : ModemPath) (interface : Interface) :
    service.daemon.Loads (service.fetch path interface).2 := by
  rcases service.record_fetch path interface with ⟨failure, -, hrecord⟩ | hrecord
  · exact .of_one hrecord trivial
  · refine ⟨_, by rw [hrecord, List.append_assoc], fun asked hmem => ?_⟩
    simp only [List.singleton_append, List.mem_cons, List.not_mem_nil, or_false] at hmem
    rcases hmem with rfl | rfl <;> trivial

theorem loads_carryOut (effect : Effect) :
    service.daemon.Loads (service.carryOut effect).1.daemon := by
  cases effect with
  | watch path interface =>
    change service.daemon.Loads (service.load path interface).1.daemon
    rw [load_eq]
    dsimp only
    obtain ⟨heard, hdelivered⟩ := deliverAll_eq
      ({ service with
        daemon := (service.fetch path interface).2
        board := (service.board.loaded path interface (service.fetch path interface).1).1 } :
        Service (Recorded δ))
      (service.board.loaded path interface (service.fetch path interface).1).2.deliveries
    rw [hdelivered]
    exact service.loads_fetch path interface
  | unwatch path interface => exact .of_one rfl trivial
  | replay path epoch => exact .refl _
  | fail path requests =>
    obtain ⟨answered, hfail⟩ := service.fail_eq path requests
    rw [hfail]
    exact .refl _

/-- Whatever event is taken in, the daemon is asked about subscriptions alone. -/
theorem loads_process (event : Event) :
    service.daemon.Loads (service.process event).daemon := by
  obtain ⟨taken, hdaemon, -, hprocess⟩ := service.process_eq event
  rw [hprocess, ← hdaemon]
  exact settleEffects_keeps (fun later => taken.daemon.Loads later.daemon)
    (fun later effect hloads => hloads.trans (later.loads_carryOut effect)) (.refl _) 3 _

end Service

end Telephony

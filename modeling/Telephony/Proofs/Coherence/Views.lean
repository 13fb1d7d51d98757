import Telephony.Proofs.Coherence.Holdings
import Telephony.Simulator.Basic

/-!
# Effects seen through one interface

A service on a simulated daemon is looked at through one interface of one modem: what its entry
holds of it, and whether the daemon reports its changes. Carrying out effects touches the view only
by loading that interface, or the modem's own, or by ending the subscription.
-/

namespace Telephony

open Simulator (SimulatedModem)

/-- The modem that an effect is about. -/
def Effect.path : Effect → ModemPath
  | watch path _ => path
  | unwatch path _ => path
  | replay path _ => path
  | fail path _ => path

/-- The effect may change what is held of the interface. -/
def Effect.Loads (effect : Effect) (path : ModemPath) (interface : Interface) : Prop :=
  effect = .watch path interface ∨ effect = .watch path .modem

/-- The effect may change what is held of the interface or whether it is watched. -/
def Effect.Touches (effect : Effect) (path : ModemPath) (interface : Interface) : Prop :=
  effect.Loads path interface ∨ effect = .unwatch path interface

theorem Effect.Touches.path_eq {effect : Effect} {path : ModemPath} {interface : Interface}
    (htouches : effect.Touches path interface) : effect.path = path := by
  rcases htouches with (rfl | rfl) | rfl <;> rfl

namespace Service

section Loading

variable {δ : Type}

/-- What the entry of a modem, if there is one, holds of an interface. -/
def holding? (service : Service δ) (path : ModemPath) (interface : Interface) : Option Holding :=
  (service.board.entry? path).map (·.holding interface)

variable [Daemon δ]

theorem daemon_load (service : Service δ) (path : ModemPath) (interface : Interface) :
    (service.load path interface).1.daemon = (service.fetch path interface).2 := by
  rw [load_eq]
  obtain ⟨heard, hdelivered⟩ := deliverAll_eq
    ({ service with
      daemon := (service.fetch path interface).2
      board := (service.board.loaded path interface (service.fetch path interface).1).1 })
    (service.board.loaded path interface (service.fetch path interface).1).2.deliveries
  exact congrArg Service.daemon hdelivered

theorem board_load (service : Service δ) (path : ModemPath) (interface : Interface) :
    ∃ drains, (service.load path interface).1.board =
      { (service.board.onEntry path (service.board.loadEntry path interface
          (service.fetch path interface).1)).1 with drains } := by
  obtain ⟨heard, hdelivered⟩ := deliverAll_eq
    ({ service with
      daemon := (service.fetch path interface).2
      board := (service.board.loaded path interface (service.fetch path interface).1).1 })
    (service.board.loaded path interface (service.fetch path interface).1).2.deliveries
  obtain ⟨drains, hloaded⟩ :=
    service.board.loaded_eq path interface (service.fetch path interface).1
  exact ⟨drains, (congrArg Service.board hdelivered).trans (congrArg Prod.fst hloaded)⟩

/-- Loading an interface changes the entry of its modem only. -/
theorem lookup_load (service : Service δ) (path : ModemPath) (interface : Interface)
    (other : ModemPath) :
    Switchboard.entry? (service.load path interface).1.board other =
      if path = other then
        (service.board.entry? path).map fun entry =>
          (service.board.loadEntry path interface (service.fetch path interface).1 entry).1
      else service.board.entry? other := by
  obtain ⟨drains, hboard⟩ := service.board_load path interface
  rw [hboard]
  exact Switchboard.lookup_onEntry _ _ _ _

theorem effects_load (service : Service δ) (path : ModemPath) (interface : Interface) :
    (service.load path interface).2 =
      ((service.board.entry? path).map fun entry =>
        (service.board.loadEntry path interface
          (service.fetch path interface).1 entry).2.effects).getD [] := by
  obtain ⟨drains, hloaded⟩ :=
    service.board.loaded_eq path interface (service.fetch path interface).1
  rw [load_eq]
  simp only [hloaded]
  unfold Switchboard.onEntry
  cases service.board.entry? path <;> rfl

end Loading

end Service

/-! ### Loading an interface -/

namespace Switchboard

variable (board : Switchboard) (path : ModemPath)

theorem effects_refusal (interface : Interface) :
    ∀ effect ∈ (refusal path interface).effects, effect = .unwatch path interface := by
  unfold refusal
  split
  · exact nofun
  · intro effect hmem
    exact List.mem_singleton.1 hmem

theorem ne_interfaces_of_tracked {interface : Interface} {properties : List Change}
    (htracked : interface ≠ .modem) (hof : ∀ change ∈ properties, change.interface = interface) :
    ∀ change ∈ properties, ∀ current, change ≠ .modem (.interfaces current) := by
  rintro change hmem current rfl
  exact htracked (hof _ hmem).symm

/-- Loading a tracked interface keeps what is held of the others, and asks at most that the
subscription be ended or waiting requests be sent. -/
theorem loadEntry_of_ne {loaded : Interface} (htracked : loaded ≠ .modem)
    {result : Except Failure (List Change)}
    (hresult : ∀ properties, result = .ok properties →
      ∀ change ∈ properties, change.interface = loaded) (entry : Entry) :
    (∀ other, loaded ≠ other →
        (board.loadEntry path loaded result entry).1.holding other = entry.holding other) ∧
      ∀ effect ∈ (board.loadEntry path loaded result entry).2.effects,
        effect = .unwatch path loaded ∨ ∃ epoch, effect = .replay path epoch := by
  cases hoffered : entry.offers loaded with
  | false =>
    rw [loadEntry_of_withdrawn hoffered]
    exact ⟨fun _ _ => rfl, fun effect hmem => .inl (effects_refusal path loaded effect hmem)⟩
  | true =>
    cases result with
    | error failure =>
      rw [loadEntry_error]
      exact ⟨fun _ _ => rfl, fun effect hmem => .inl (effects_refusal path loaded effect hmem)⟩
    | ok properties =>
      have hof := hresult properties rfl
      rw [loadEntry_ok hoffered]
      refine ⟨fun other hne => ?_, fun effect hmem => .inr ?_⟩
      · rw [Entry.holding_mark, Entry.holding_changeAll_of_ne _ path _ htracked hof hne,
          Entry.holding_attach_of_ne path _ entry hne]
      · rw [Outcome.effects_append, Entry.effects_changeAll _ path _
          (ne_interfaces_of_tracked htracked hof), List.append_nil] at hmem
        exact ⟨_, Entry.effects_attach path _ entry loaded effect hmem⟩

/-- A tracked interface that is offered and whose properties were fetched is attached and has
them. -/
theorem loadEntry_attached {interface : Interface} (htracked : interface ≠ .modem)
    {properties : List Change} (hof : ∀ change ∈ properties, change.interface = interface)
    {entry : Entry} (hoffered : entry.modem.state.interfaces.has interface = true) :
    (board.loadEntry path interface (.ok properties) entry).1.holding interface =
        { entry.holding interface with
          attached := true
          field := fun name =>
            lastChange interface name properties <|> entry.field interface name } ∧
      ∀ effect ∈ (board.loadEntry path interface (.ok properties) entry).2.effects,
        ∃ epoch, effect = .replay path epoch := by
  have hoffers : entry.offers interface = true := by simp [Entry.offers, hoffered]
  have hplain := ne_interfaces_of_tracked htracked hof
  have hattach := Entry.holding_attach path (board.drains + 1) entry interface
  have hattached := congrArg Holding.attached hattach
  rw [loadEntry_ok hoffers]
  refine ⟨?_, fun effect hmem => ?_⟩
  · rw [Entry.holding_mark]
    obtain ⟨hkept, hfield⟩ := Entry.changeAll_of_kept board.observers path
      (entry.attach path (board.drains + 1) interface).1
      fun change hmem hwithdraws => hplain change hmem _ hwithdraws.2.choose_spec.1
    refine Holding.ext ?_ (hkept.trans hattached) fun name => ?_
    · exact (Entry.offered_changeAll _ path _ hplain).trans (congrArg Holding.offered hattach)
    · refine (hfield hattached name).trans ?_
      rw [show (entry.attach path (board.drains + 1) interface).1.field interface =
        entry.field interface from congrArg Holding.field hattach]
  · rw [Outcome.effects_append, Entry.effects_changeAll _ path _ hplain, List.append_nil] at hmem
    exact ⟨_, Entry.effects_attach path _ entry interface effect hmem⟩

end Switchboard

/-! ### The simulated daemon -/

namespace Simulator

/-- Two daemons that differ in nothing but what is watched. -/
def SameBus (a b : Simulator) : Prop := ∃ watched, b = { a with watched }

theorem SameBus.refl (sim : Simulator) : sim.SameBus sim := ⟨sim.watched, rfl⟩

theorem SameBus.trans {a b c : Simulator} (hab : a.SameBus b) (hbc : b.SameBus c) :
    a.SameBus c := by
  obtain ⟨first, rfl⟩ := hab
  obtain ⟨second, rfl⟩ := hbc
  exact ⟨second, rfl⟩

theorem SameBus.modem? {a b : Simulator} (hsame : a.SameBus b) (path : ModemPath) :
    b.modem? path = a.modem? path := by
  obtain ⟨watched, rfl⟩ := hsame
  rfl

theorem SameBus.failing {a b : Simulator} (hsame : a.SameBus b) : b.failing = a.failing := by
  obtain ⟨watched, rfl⟩ := hsame
  rfl

theorem SameBus.outbox {a b : Simulator} (hsame : a.SameBus b) : b.outbox = a.outbox := by
  obtain ⟨watched, rfl⟩ := hsame
  rfl

theorem SameBus.connected {a b : Simulator} (hsame : a.SameBus b) : b.connected = a.connected := by
  obtain ⟨watched, rfl⟩ := hsame
  rfl

/-- The modem is there and offers the interface. -/
def Offers (sim : Simulator) (path : ModemPath) (interface : Interface) : Prop :=
  ∃ modem, sim.modem? path = some modem ∧ modem.offers interface = true

theorem require_of_offers {sim : Simulator} {path : ModemPath} {interface : Interface}
    {modem : SimulatedModem} (hmodem : sim.modem? path = some modem)
    (hoffers : modem.offers interface = true) : sim.require path interface = .ok () := by
  simp only [require, find, hmodem]
  exact if_pos hoffers

theorem require_of_not_offers {sim : Simulator} {path : ModemPath} {interface : Interface}
    (hoffers : ¬ sim.Offers path interface) :
    ∃ failure, sim.require path interface = .error failure := by
  unfold require find
  cases hmodem : sim.modem? path with
  | none => exact ⟨_, rfl⟩
  | some modem => exact ⟨_, if_neg fun hyes => hoffers ⟨modem, hmodem, hyes⟩⟩

theorem isWatched_iff {sim : Simulator} {path : ModemPath} {interface : Interface} :
    sim.isWatched path interface = true ↔ (path, interface) ∈ sim.watched := by
  simp [isWatched]

theorem isWatched_unwatch {sim : Simulator} {path other : ModemPath} {ended interface : Interface}
    (hne : (path, ended) ≠ (other, interface)) :
    (sim.unwatch path ended).isWatched other interface = sim.isWatched other interface := by
  rw [Bool.eq_iff_iff, isWatched_iff, isWatched_iff]
  simp only [unwatch, List.mem_filter, bne_iff_ne]
  exact and_iff_left (Ne.symm hne)

theorem watch_of_offers {sim : Simulator} {path : ModemPath} {interface : Interface}
    {modem : SimulatedModem} (hsound : sim.failing = []) (hmodem : sim.modem? path = some modem)
    (hoffers : modem.offers interface = true) :
    ∃ after, sim.watch path interface = (.ok (), after) ∧ sim.SameBus after ∧
      after.isWatched path interface = true ∧
      ∀ other i, (path, interface) ≠ (other, i) → after.isWatched other i = sim.isWatched other i := by
  have hfree : sim.failing.contains interface = false := by simp [hsound]
  unfold watch
  rw [require_of_offers hmodem hoffers]
  simp only [hfree, Bool.false_eq_true, if_false]
  split
  · next hwatched => exact ⟨sim, rfl, .refl sim, hwatched, fun _ _ _ => rfl⟩
  · refine ⟨_, rfl, ⟨_, rfl⟩, isWatched_iff.2 List.mem_cons_self, fun other i hne => ?_⟩
    rw [Bool.eq_iff_iff, isWatched_iff, isWatched_iff, List.mem_cons]
    exact or_iff_right (Ne.symm hne)

end Simulator

namespace Service

theorem fetch_of_offers {service : Service Simulator} {path : ModemPath} {interface : Interface}
    {modem : SimulatedModem} (hsound : service.daemon.failing = [])
    (hmodem : service.daemon.modem? path = some modem) (hoffers : modem.offers interface = true) :
    ∃ after, service.fetch path interface = (.ok (modem.decoded interface), after) ∧
      service.daemon.SameBus after ∧ after.isWatched path interface = true ∧
      ∀ other i, (path, interface) ≠ (other, i) →
        after.isWatched other i = service.daemon.isWatched other i := by
  obtain ⟨after, hwatch, hsame, hwatched, hothers⟩ :=
    Simulator.watch_of_offers hsound hmodem hoffers
  refine ⟨after, ?_, hsame, hwatched, hothers⟩
  have hafter : after.modem? path = some modem := (hsame.modem? path).trans hmodem
  have hasked : Daemon.watch path interface service.daemon = (.ok (), after) := hwatch
  have hproperties : after.properties path interface = .ok (modem.decoded interface) := by
    simp only [Simulator.properties, Simulator.require_of_offers hafter hoffers, Simulator.find,
      hafter]
    rfl
  unfold fetch
  rw [hasked]
  exact congrArg (·, after) hproperties

theorem fetch_of_not_offers {service : Service Simulator} {path : ModemPath}
    {interface : Interface} (hoffers : ¬ service.daemon.Offers path interface) :
    ∃ failure, service.fetch path interface = (.error failure, service.daemon) := by
  obtain ⟨failure, hrequire⟩ := Simulator.require_of_not_offers hoffers
  have hasked : Daemon.watch path interface service.daemon = (.error failure, service.daemon) := by
    change service.daemon.watch path interface = _
    simp only [Simulator.watch, hrequire]
  refine ⟨failure, ?_⟩
  unfold fetch
  rw [hasked]

/-- Fetching reads the properties of the interface, and changes at most whether it is watched. -/
theorem fetch_spec (service : Service Simulator) (path : ModemPath) (interface : Interface)
    (hsound : service.daemon.failing = []) :
    service.daemon.SameBus (service.fetch path interface).2 ∧
      (∀ other i, (path, interface) ≠ (other, i) →
        (service.fetch path interface).2.isWatched other i =
          service.daemon.isWatched other i) ∧
      ∀ properties, (service.fetch path interface).1 = .ok properties →
        ∀ change ∈ properties, change.interface = interface := by
  by_cases hoffers : service.daemon.Offers path interface
  · obtain ⟨modem, hmodem, hoffers⟩ := hoffers
    obtain ⟨after, hfetch, hsame, -, hothers⟩ := fetch_of_offers hsound hmodem hoffers
    rw [hfetch]
    refine ⟨hsame, hothers, fun properties hresult change hmem => ?_⟩
    cases hresult
    exact SimulatedModem.interface_of_mem_decoded hmem
  · obtain ⟨failure, hfetch⟩ := fetch_of_not_offers hoffers
    rw [hfetch]
    exact ⟨.refl _, fun _ _ _ => rfl, nofun⟩

end Service

end Telephony

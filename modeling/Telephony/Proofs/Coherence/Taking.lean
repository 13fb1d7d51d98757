import Telephony.Proofs.Coherence.Effects

/-!
# Taking in events

What taking in one event does to the view of an interface, for each kind of event: nothing, if the
event is about another modem; it is gone with its modem; it is attached with what the modem stores
when it comes to be offered; and a change sets its field as long as it stays attached.
-/

namespace Telephony

open Simulator (SimulatedModem)

/-- The interfaces on offer after a change. -/
def Change.offering (change : Change) (previous : InterfaceSet) : InterfaceSet :=
  match change with
  | modem (.interfaces current) => current
  | _ => previous

/-- What is attached is on offer, and what is not has the fields that it will begin with. -/
structure Holding.Orderly (holding : Holding) (interface : Interface) : Prop where
  offered : interface ≠ .modem → holding.attached = true → holding.offered.has interface = true
  blank : holding.attached = false → holding.field = blankField interface

namespace Entry

variable (observers : Observers) (path : ModemPath)

theorem change_eq_of_offering (change : Change) :
    (∃ current, change = .modem (.interfaces current)) ∨
      (∀ current, change ≠ .modem (.interfaces current)) ∧
        ∀ previous, change.offering previous = previous := by
  cases change with
  | modem property =>
    cases property with
    | interfaces current => exact .inl ⟨current, rfl⟩
    | _ => exact .inr ⟨nofun, fun _ => rfl⟩
  | _ => exact .inr ⟨nofun, fun _ => rfl⟩

theorem offered_change (entry : Entry) (change : Change) :
    (entry.change observers path change).1.modem.state.interfaces =
      change.offering entry.modem.state.interfaces := by
  rcases change_eq_of_offering change with ⟨current, rfl⟩ | ⟨hplain, hsame⟩
  · exact offered_setInterfaces observers path entry current
  · rw [hsame]
    exact congrArg Holding.offered (holding_change observers path entry hplain .modem)

theorem asks_change (entry : Entry) (change : Change) :
    Service.Asks path (change.offering entry.modem.state.interfaces) entry.modem.state.interfaces
      (entry.change observers path change).2.effects := by
  rcases change_eq_of_offering change with ⟨current, rfl⟩ | ⟨hplain, hsame⟩
  · exact effects_setInterfaces observers path entry current
  · rw [hsame, effects_change observers path entry hplain]
    exact ⟨[], by rw [beyond_self]; rfl, nofun⟩

theorem change_of_withdrawn (entry : Entry) {change : Change} {interface : Interface}
    (horderly : (entry.holding interface).Orderly interface)
    (hwithdraws : change.Withdraws interface) :
    (entry.change observers path change).1.attached interface = false ∧
      (entry.change observers path change).1.field interface = blankField interface := by
  obtain ⟨htracked, current, rfl, hwithdrawn⟩ := hwithdraws
  exact setInterfaces_of_withdrawn observers path entry htracked hwithdrawn
    (horderly.offered htracked) horderly.blank

end Entry

namespace Service

variable {service : Service Simulator} {path : ModemPath} {interface : Interface}

theorem sameBus_process (hsound : service.daemon.failing = []) (event : Event) :
    service.daemon.SameBus (service.process event).daemon := by
  obtain ⟨taken, hdaemon, -, hprocess⟩ := service.process_eq event
  rw [hprocess, ← hdaemon]
  rw [← hdaemon] at hsound
  exact sameBus_settleEffects hsound 3 _

/-! ### Other modems -/

theorem effects_removeModem (board : Switchboard) (path : ModemPath) :
    ∀ effect ∈ (board.removeModem path).2.effects,
      effect.path = path ∧ ∀ other i, effect ≠ .watch other i := by
  intro effect hmem
  cases hentry : board.entry? path with
  | none =>
    rw [Switchboard.removeModem_of_unknown hentry] at hmem
    cases hmem
  | some entry =>
    simp only [Switchboard.removeModem, hentry, Outcome.effects_append] at hmem
    rcases List.mem_append.1 hmem with hgone | hlast
    · obtain ⟨interface, -, rfl⟩ := Entry.effects_detachAll board.observers path _ _ effect hgone
      exact ⟨rfl, fun other i heq => by cases heq⟩
    · rcases List.mem_append.1 hlast with hfail | hunwatch
      · split at hfail
        · cases hfail
        · rw [List.mem_singleton.1 hfail]
          exact ⟨rfl, fun other i heq => by cases heq⟩
      · rw [List.mem_singleton.1 hunwatch]
        exact ⟨rfl, fun other i heq => by cases heq⟩

theorem path_apply (board : Switchboard) (event : Event) :
    ∀ effect ∈ (board.apply event).2.effects, effect.path = event.path := by
  intro effect hmem
  cases event with
  | modemAdded path properties =>
    rcases List.mem_append.1 hmem with hfirst | hrest
    · split at hfirst
      · cases hfirst
      · rw [List.mem_singleton.1 hfirst]
        rfl
    · exact Entry.path_changeAll board.observers path _ properties effect hrest
  | modemRemoved path => exact (effects_removeModem board path effect hmem).1
  | propertyChanged path change =>
    simp only [Switchboard.apply, Switchboard.onEntry] at hmem
    cases hentry : board.entry? path with
    | none =>
      rw [hentry] at hmem
      cases hmem
    | some entry =>
      rw [hentry] at hmem
      exact Entry.path_change board.observers path entry change effect hmem

/-- An event about another modem leaves the view as it is. -/
theorem process_elsewhere (hsound : service.daemon.failing = []) {event : Event}
    (hne : event.path ≠ path) :
    (service.process event).holding? path interface = service.holding? path interface ∧
      (service.process event).daemon.isWatched path interface =
        service.daemon.isWatched path interface := by
  obtain ⟨taken, hdaemon, hboard, hprocess⟩ := service.process_eq event
  have huntouched : ∀ effect ∈ (service.board.apply event).2.effects,
      ¬ effect.Touches path interface := fun effect hmem htouches =>
    hne ((path_apply service.board event effect hmem).symm.trans htouches.path_eq)
  have hholding : taken.holding? path interface = service.holding? path interface := by
    unfold holding?
    rw [hboard, Switchboard.lookup_apply_of_ne service.board hne]
  rw [hprocess, ← hdaemon, ← hholding]
  rw [← hdaemon] at hsound
  exact ⟨holding?_settleEffects hsound 3 fun effect hmem hloads =>
    huntouched effect hmem (.inl hloads), isWatched_settleEffects hsound 3 huntouched⟩

/-! ### Removal -/

theorem process_removed (hsound : service.daemon.failing = []) :
    (service.process (.modemRemoved path)).holding? path interface = none := by
  obtain ⟨taken, hdaemon, hboard, hprocess⟩ := service.process_eq (.modemRemoved path)
  have hgone : Switchboard.entry? (service.board.removeModem path).1 path = none := by
    cases hentry : service.board.entry? path with
    | none => rw [Switchboard.removeModem_of_unknown hentry, hentry]
    | some entry =>
      simp only [Switchboard.removeModem, hentry]
      exact (Table.get?_erase service.board.modems path path).trans (if_pos rfl)
  have hholding : taken.holding? path interface = none := by
    unfold holding?
    rw [hboard]
    exact congrArg _ hgone
  rw [← hdaemon] at hsound
  rw [hprocess, ← hholding]
  refine holding?_settleEffects hsound 3 fun effect hmem hloads => ?_
  have hnever := (effects_removeModem service.board path effect hmem).2
  rcases hloads with hloads | hloads <;> exact hnever _ _ hloads

/-! ### Changes -/

theorem offering_has_of_kept {change : Change} {previous : InterfaceSet}
    (htracked : interface ≠ .modem) (hkept : ¬ change.Withdraws interface)
    (hbefore : previous.has interface = true) :
    (change.offering previous).has interface = true := by
  rcases Entry.change_eq_of_offering change with ⟨current, rfl⟩ | ⟨-, hoffering⟩
  · by_contra hnot
    exact hkept ⟨htracked, current, rfl, by simpa [Change.offering] using hnot⟩
  · rw [hoffering]
    exact hbefore

section Changed

variable {holding : Holding} {change : Change}

/-- The entry of the modem changes, and then its effects are carried out. -/
theorem process_changed_eq (hholding : service.holding? path interface = some holding)
    (change : Change) :
    ∃ (entry : Entry) (taken : Service Simulator), holding = entry.holding interface ∧
      taken.daemon = service.daemon ∧
      taken.holding? path interface =
        some ((entry.change service.board.observers path change).1.holding interface) ∧
      service.process (.propertyChanged path change) = settleEffects 3 taken
        (entry.change service.board.observers path change).2.effects := by
  obtain ⟨entry, hentry, rfl⟩ := Option.map_eq_some_iff.1 hholding
  obtain ⟨taken, hdaemon, hboard, hprocess⟩ := service.process_eq (.propertyChanged path change)
  have hlookup := Switchboard.lookup_onEntry service.board path
    (fun entry => entry.change service.board.observers path change) path
  rw [if_pos rfl, hentry] at hlookup
  refine ⟨entry, taken, rfl, hdaemon, ?_, ?_⟩
  · unfold holding?
    rw [hboard]
    exact congrArg (Option.map (Entry.holding · interface)) hlookup
  · rw [hprocess]
    simp only [Switchboard.apply, Switchboard.onEntry, hentry]

/-- What stays attached takes the change. -/
theorem process_changed_kept (hsound : service.daemon.failing = [])
    (hholding : service.holding? path interface = some holding)
    (horderly : holding.Orderly interface) (hattached : holding.attached = true)
    (hkept : ¬ change.Withdraws interface) :
    (service.process (.propertyChanged path change)).holding? path interface =
        some ⟨change.offering holding.offered, true,
          fun name => if change.Concerns interface name then some change else holding.field name⟩ ∧
      (service.process (.propertyChanged path change)).daemon.isWatched path interface =
        service.daemon.isWatched path interface := by
  obtain ⟨entry, taken, rfl, hdaemon, htaken, hprocess⟩ := process_changed_eq hholding change
  obtain ⟨hsame, hfield⟩ := entry.change_of_kept service.board.observers path hkept
  have hoffered := entry.offered_change service.board.observers path change
  have hasks := entry.asks_change service.board.observers path change
  have hstays : interface ≠ .modem →
      (change.offering entry.modem.state.interfaces).has interface = true := fun htracked =>
    offering_has_of_kept htracked hkept (horderly.offered htracked hattached)
  have hnot : interface ∉ Entry.beyond (change.offering entry.modem.state.interfaces)
      entry.modem.state.interfaces := fun hmem => by
    obtain ⟨htracked, -, hbefore⟩ := Entry.mem_beyond_iff.1 hmem
    have hoffered := horderly.offered htracked hattached
    change entry.modem.state.interfaces.has interface = true at hoffered
    rw [hbefore] at hoffered
    cases hoffered
  have huntouched := hasks.not_touches hstays hnot
  rw [← hdaemon] at hsound ⊢
  rw [hprocess]
  refine ⟨?_, isWatched_settleEffects hsound 3 huntouched⟩
  calc
    _ = taken.holding? path interface := holding?_settleEffects hsound 3 fun effect hmem hloads =>
      huntouched effect hmem (.inl hloads)
    _ = some ((entry.change service.board.observers path change).1.holding interface) := htaken
    _ = some _ := by
      refine congrArg some (Holding.ext hoffered (hsame.trans hattached) fun name => ?_)
      exact (hfield name).trans (if_congr (and_iff_left hattached) rfl rfl)

theorem process_changed_withdrawn (hsound : service.daemon.failing = [])
    (hholding : service.holding? path interface = some holding)
    (horderly : holding.Orderly interface) (hwithdraws : change.Withdraws interface) :
    (service.process (.propertyChanged path change)).holding? path interface =
      some ⟨change.offering holding.offered, false, blankField interface⟩ := by
  obtain ⟨entry, taken, rfl, hdaemon, htaken, hprocess⟩ := process_changed_eq hholding change
  obtain ⟨hattached, hfield⟩ :=
    entry.change_of_withdrawn service.board.observers path horderly hwithdraws
  have hasks := entry.asks_change service.board.observers path change
  have hnot : interface ∉ Entry.beyond (change.offering entry.modem.state.interfaces)
      entry.modem.state.interfaces := fun hmem => by
    obtain ⟨-, current, rfl, hwithdrawn⟩ := hwithdraws
    have hhas : current.has interface = true := (Entry.mem_beyond_iff.1 hmem).2.1
    rw [hwithdrawn] at hhas
    cases hhas
  rw [← hdaemon] at hsound
  rw [hprocess]
  have hchanged : (entry.change service.board.observers path change).1.holding interface =
      ⟨change.offering entry.modem.state.interfaces, false, blankField interface⟩ :=
    Holding.ext (entry.offered_change service.board.observers path change) hattached
      (congrFun hfield)
  calc
    _ = taken.holding? path interface := holding?_settleEffects hsound 3 (hasks.not_loads hnot)
    _ = some ((entry.change service.board.observers path change).1.holding interface) := htaken
    _ = some _ := congrArg some hchanged

/-- What is not attached is attached when the modem begins to be known to offer it, and does. -/
theorem process_changed_unattached (hsound : service.daemon.failing = [])
    (htracked : interface ≠ .modem)
    (hholding : service.holding? path interface = some holding)
    (horderly : holding.Orderly interface) (hnone : holding.attached = false) :
    (∃ modem, service.daemon.modem? path = some modem ∧ modem.offers interface = true ∧
        interface ∈ Entry.beyond (change.offering holding.offered) holding.offered ∧
        (service.process (.propertyChanged path change)).Follows path interface modem
          (change.offering holding.offered)) ∨
      (¬ (service.daemon.Offers path interface ∧
          interface ∈ Entry.beyond (change.offering holding.offered) holding.offered) ∧
        (service.process (.propertyChanged path change)).holding? path interface =
          some ⟨change.offering holding.offered, false, blankField interface⟩) := by
  obtain ⟨entry, taken, rfl, hdaemon, htaken, hprocess⟩ := process_changed_eq hholding change
  have hasks := entry.asks_change service.board.observers path change
  have hblank : (entry.change service.board.observers path change).1.holding interface =
      ⟨change.offering entry.modem.state.interfaces, false, blankField interface⟩ := by
    have hlost := Entry.changeAll_of_unattached service.board.observers path entry [change] hnone
      (horderly.blank hnone)
    exact Holding.ext (entry.offered_change service.board.observers path change) hlost.1
      (congrFun hlost.2)
  rw [hblank] at htaken
  rw [← hdaemon] at hsound ⊢
  rw [hprocess]
  by_cases hcomes : taken.daemon.Offers path interface ∧
      interface ∈ Entry.beyond (change.offering entry.modem.state.interfaces)
        entry.modem.state.interfaces
  · obtain ⟨⟨modem, hmodem, hoffers⟩, hbeyond⟩ := hcomes
    obtain ⟨before, after, heffects, huntouched⟩ := hasks.split hbeyond
    have hawaits : taken.Awaits path interface modem
        (change.offering entry.modem.state.interfaces) :=
      ⟨hmodem, hoffers, htaken, (Entry.mem_beyond_iff.1 hbeyond).2.1⟩
    rw [heffects]
    exact .inl ⟨modem, hmodem, hoffers, hbeyond,
      settleEffects_follows hsound htracked hawaits huntouched 2⟩
  · refine .inr ⟨hcomes, (?_ : _ = _).trans htaken⟩
    by_cases hbeyond : interface ∈ Entry.beyond (change.offering entry.modem.state.interfaces)
        entry.modem.state.interfaces
    · exact settleEffects_of_unavailable hsound htracked
        (fun _ _ _ hoffers => hcomes ⟨hoffers, hbeyond⟩) hasks.ne_modem 3
    · exact holding?_settleEffects hsound 3 (hasks.not_loads hbeyond)

end Changed

end Service

end Telephony

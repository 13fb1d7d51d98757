import Telephony.Proofs.Coherence.Loop

/-!
# Events in order

What holds of the board, the bus and the events between them in every run, stale or not: modems come
and go alternately, each is announced with its interfaces, and what is attached is on offer.
-/

namespace Telephony

open Simulator (SimulatedModem)

/-- In the events a modem comes when it was gone and goes when it was there; at first it is there or
not as `now` says, and after them as `last` says. -/
def Alternates (path : ModemPath) : Bool → List Event → Bool → Prop
  | now, [], last => now = last
  | now, .modemAdded other _ :: rest, last =>
    if other = path then now = false ∧ Alternates path true rest last
    else Alternates path now rest last
  | now, .modemRemoved other :: rest, last =>
    if other = path then now = true ∧ Alternates path false rest last
    else Alternates path now rest last
  | now, .propertyChanged _ _ :: rest, last => Alternates path now rest last

namespace Alternates

variable {path : ModemPath} {now last : Bool} {events : List Event}

theorem cons_elsewhere {event : Event} (hne : event.path ≠ path) :
    Alternates path now (event :: events) last ↔ Alternates path now events last := by
  cases event with
  | modemAdded other properties => exact (if_neg hne).to_iff
  | modemRemoved other => exact (if_neg hne).to_iff
  | propertyChanged other change => exact Iff.rfl

theorem cons_added {properties : List Change} :
    Alternates path now (.modemAdded path properties :: events) last ↔
      now = false ∧ Alternates path true events last := (if_pos rfl).to_iff

theorem cons_removed :
    Alternates path now (.modemRemoved path :: events) last ↔
      now = true ∧ Alternates path false events last := (if_pos rfl).to_iff

theorem append (halternates : Alternates path now events last) {more : List Event} {final : Bool}
    (hmore : Alternates path last more final) : Alternates path now (events ++ more) final := by
  induction events generalizing now with
  | nil =>
    cases halternates
    exact hmore
  | cons event rest ih =>
    by_cases hpath : event.path = path
    · cases event with
      | modemAdded other properties =>
        obtain rfl : other = path := hpath
        obtain ⟨hnow, hrest⟩ := cons_added.1 halternates
        exact cons_added.2 ⟨hnow, ih hrest⟩
      | modemRemoved other =>
        obtain rfl : other = path := hpath
        obtain ⟨hnow, hrest⟩ := cons_removed.1 halternates
        exact cons_removed.2 ⟨hnow, ih hrest⟩
      | propertyChanged other change => exact ih halternates
    · rw [List.cons_append]
      rw [cons_elsewhere hpath] at halternates ⊢
      exact ih halternates

end Alternates

namespace Service

/-- What holds of a service, the bus and a row of events that are still to be taken in. -/
structure Orderly (service : Service Simulator) (events : List Event) : Prop where
  sound : service.daemon.failing = []
  regular : ∀ path modem, service.daemon.modem? path = some modem → modem.Regular
  announces : ∀ path properties, .modemAdded path properties ∈ events →
    ∃ named, Announces properties named
  holdings : ∀ path interface holding, service.holding? path interface = some holding →
    holding.Orderly interface
  alternates : ∀ path, Alternates path (service.holding? path .modem).isSome events
    (service.daemon.modem? path).isSome

variable {service : Service Simulator} {path : ModemPath} {interface : Interface}

theorem isSome_holding? (service : Service Simulator) (path : ModemPath)
    (interface other : Interface) :
    (service.holding? path interface).isSome = (service.holding? path other).isSome := by
  unfold holding?
  rw [Option.isSome_map, Option.isSome_map]

theorem attached_modem {holding : Holding} (hholding : service.holding? path .modem = some holding) :
    holding.attached = true := by
  obtain ⟨entry, -, rfl⟩ := Option.map_eq_some_iff.1 hholding
  rfl

theorem orderly_modem {holding : Holding} (hholding : service.holding? path .modem = some holding) :
    holding.Orderly .modem :=
  ⟨fun hne => absurd rfl hne, fun hnone => by
    rw [attached_modem hholding] at hnone
    cases hnone⟩

theorem Follows.orderly {modem : SimulatedModem} {offered : InterfaceSet}
    (hfollows : service.Follows path interface modem offered)
    (hoffered : interface ≠ .modem → offered.has interface = true) {holding : Holding}
    (hholding : service.holding? path interface = some holding) : holding.Orderly interface := by
  rw [hfollows.holding] at hholding
  cases hholding
  exact ⟨fun htracked _ => hoffered htracked, nofun⟩

/-- A change of a modem that is not known is lost. -/
theorem process_changed_unknown (hsound : service.daemon.failing = [])
    (hunknown : service.holding? path interface = none) (change : Change) :
    (service.process (.propertyChanged path change)).holding? path interface = none := by
  have hentry : service.board.entry? path = none := by simpa [holding?] using hunknown
  have happly : service.board.apply (.propertyChanged path change) = (service.board, ∅) := by
    simp only [Switchboard.apply, Switchboard.onEntry, hentry]
  obtain ⟨taken, hdaemon, hboard, hprocess⟩ := service.process_eq (.propertyChanged path change)
  rw [happly] at hboard hprocess
  have hholding : taken.holding? path interface = service.holding? path interface := by
    unfold holding?
    rw [hboard]
  rw [← hdaemon] at hsound
  rw [hprocess, ← hunknown, ← hholding]
  exact holding?_settleEffects hsound 3 fun _ hmem => absurd hmem List.not_mem_nil

/-- What taking in an event does to what is held of an interface. -/
inductive Takes (service : Service Simulator) (path : ModemPath) (interface : Interface) :
    Event → Prop where
  /-- The event is about another modem. -/
  | elsewhere {event : Event} (hpath : event.path ≠ path)
      (hholding : (service.process event).holding? path interface =
        service.holding? path interface)
      (hwatched : (service.process event).daemon.isWatched path interface =
        service.daemon.isWatched path interface) :
      Takes service path interface event
  | leaves (hafter : (service.process (.modemRemoved path)).holding? path interface = none) :
      Takes service path interface (.modemRemoved path)
  /-- The modem comes and offers the interface. -/
  | comes {properties : List Change} {modem : SimulatedModem}
      (hbefore : service.holding? path interface = none)
      (hmodem : service.daemon.modem? path = some modem) (hoffers : modem.offers interface = true)
      (hfollows : (service.process (.modemAdded path properties)).Follows path interface modem
        (.ofList modem.interfaces)) :
      Takes service path interface (.modemAdded path properties)
  /-- The modem comes and does not offer the interface, or is gone from the bus already. -/
  | comesWithout {properties : List Change} {holding : Holding}
      (hbefore : service.holding? path interface = none)
      (hafter : (service.process (.modemAdded path properties)).holding? path interface =
        some holding)
      (horderly : holding.Orderly interface)
      (hwithout : ∀ modem, service.daemon.modem? path = some modem →
        holding.attached = false ∧ holding.offered.has interface = false) :
      Takes service path interface (.modemAdded path properties)
  /-- A change of a modem that is not known is lost. -/
  | misses {change : Change} (hbefore : service.holding? path interface = none)
      (hafter : (service.process (.propertyChanged path change)).holding? path interface = none) :
      Takes service path interface (.propertyChanged path change)
  | withdraws {change : Change} {holding : Holding}
      (hbefore : service.holding? path interface = some holding)
      (hwithdraws : change.Withdraws interface)
      (hafter : (service.process (.propertyChanged path change)).holding? path interface =
        some ⟨change.offering holding.offered, false, blankField interface⟩) :
      Takes service path interface (.propertyChanged path change)
  | keeps {change : Change} {holding : Holding}
      (hbefore : service.holding? path interface = some holding)
      (hattached : holding.attached = true) (hkept : ¬ change.Withdraws interface)
      (hafter : (service.process (.propertyChanged path change)).holding? path interface =
        some ⟨change.offering holding.offered, true,
          fun name => if change.Concerns interface name then some change else holding.field name⟩)
      (hwatched : (service.process (.propertyChanged path change)).daemon.isWatched path interface =
        service.daemon.isWatched path interface) :
      Takes service path interface (.propertyChanged path change)
  /-- The interface begins to be offered, and is. -/
  | attaches {change : Change} {holding : Holding} {modem : SimulatedModem}
      (hbefore : service.holding? path interface = some holding)
      (hnone : holding.attached = false)
      (hmodem : service.daemon.modem? path = some modem)
      (hoffered : (change.offering holding.offered).has interface = true)
      (hfollows : (service.process (.propertyChanged path change)).Follows path interface modem
        (change.offering holding.offered)) :
      Takes service path interface (.propertyChanged path change)
  | remains {change : Change} {holding : Holding} (htracked : interface ≠ .modem)
      (hbefore : service.holding? path interface = some holding)
      (hnone : holding.attached = false) (hkept : ¬ change.Withdraws interface)
      (hnever : ¬ (service.daemon.Offers path interface ∧
        interface ∈ Entry.beyond (change.offering holding.offered) holding.offered))
      (hafter : (service.process (.propertyChanged path change)).holding? path interface =
        some ⟨change.offering holding.offered, false, blankField interface⟩) :
      Takes service path interface (.propertyChanged path change)

theorem Orderly.takes_added {properties : List Change} {rest : List Event}
    (horderly : service.Orderly (.modemAdded path properties :: rest)) (interface : Interface) :
    service.Takes path interface (.modemAdded path properties) := by
  have hsound := horderly.sound
  obtain ⟨hunknown, -⟩ := Alternates.cons_added.1 (horderly.alternates path)
  obtain ⟨named, hannounces⟩ := horderly.announces path properties List.mem_cons_self
  have hnone : ∀ interface, service.holding? path interface = none := fun interface => by
    rw [isSome_holding? service path .modem interface] at hunknown
    simpa using hunknown
  cases hmodem : service.daemon.modem? path with
  | none =>
    obtain ⟨⟨holding, hown⟩, hothers⟩ :=
      process_added_of_gone hsound (hnone .modem) hannounces hmodem
    have hgone : ∀ modem, service.daemon.modem? path ≠ some modem := fun modem hthere => by
      rw [hmodem] at hthere
      cases hthere
    by_cases htracked : interface = .modem
    · subst htracked
      exact .comesWithout (hnone .modem) hown (orderly_modem hown) fun modem hthere =>
        absurd hthere (hgone modem)
    · exact .comesWithout (hnone interface) (hothers interface htracked) ⟨nofun, fun _ => rfl⟩
        fun modem hthere => absurd hthere (hgone modem)
  | some modem =>
    obtain ⟨hown, hothers⟩ := process_added hsound (hnone .modem) hannounces hmodem
      (horderly.regular path modem hmodem)
    by_cases htracked : interface = .modem
    · subst htracked
      exact .comes (hnone .modem) hmodem rfl hown
    · cases hoffers : modem.offers interface with
      | true =>
        exact .comes (hnone interface) hmodem hoffers ((hothers interface htracked).1 hoffers)
      | false =>
        refine .comesWithout (hnone interface) ((hothers interface htracked).2 hoffers)
          ⟨nofun, fun _ => rfl⟩ fun other hother => ⟨rfl, ?_⟩
        exact (modem.offers_eq_has htracked).symm.trans hoffers

theorem Orderly.takes_changed {change : Change} {rest : List Event}
    (horderly : service.Orderly (.propertyChanged path change :: rest)) (interface : Interface) :
    service.Takes path interface (.propertyChanged path change) := by
  have hsound := horderly.sound
  cases hbefore : service.holding? path interface with
  | none => exact .misses hbefore (process_changed_unknown hsound hbefore change)
  | some holding =>
    have hordered := horderly.holdings path interface holding hbefore
    by_cases hwithdraws : change.Withdraws interface
    · exact .withdraws hbefore hwithdraws
        (process_changed_withdrawn hsound hbefore hordered hwithdraws)
    · cases hattached : holding.attached with
      | true =>
        obtain ⟨hafter, hwatched⟩ :=
          process_changed_kept hsound hbefore hordered hattached hwithdraws
        exact .keeps hbefore hattached hwithdraws hafter hwatched
      | false =>
        have htracked : interface ≠ .modem := by
          rintro rfl
          rw [attached_modem hbefore] at hattached
          cases hattached
        rcases process_changed_unattached hsound htracked hbefore hordered hattached with
          ⟨modem, hmodem, -, hbeyond, hfollows⟩ | ⟨hnever, hafter⟩
        · exact .attaches hbefore hattached hmodem (Entry.mem_beyond_iff.1 hbeyond).2.1 hfollows
        · exact .remains htracked hbefore hattached hwithdraws hnever hafter

theorem Orderly.takes {event : Event} {rest : List Event}
    (horderly : service.Orderly (event :: rest)) (path : ModemPath) (interface : Interface) :
    service.Takes path interface event := by
  by_cases hpath : event.path = path
  · subst hpath
    cases event with
    | modemAdded path properties => exact horderly.takes_added interface
    | modemRemoved path => exact .leaves (process_removed horderly.sound)
    | propertyChanged path change => exact horderly.takes_changed interface
  · exact .elsewhere hpath (process_elsewhere horderly.sound hpath).1
      (process_elsewhere horderly.sound hpath).2

/-- Taking in an event keeps what is held in order. -/
theorem Orderly.holdings_process {event : Event} {rest : List Event}
    (horderly : service.Orderly (event :: rest)) {holding : Holding}
    (hholding : (service.process event).holding? path interface = some holding) :
    holding.Orderly interface := by
  cases horderly.takes path interface with
  | elsewhere hpath hsame hwatched =>
    exact horderly.holdings path interface holding (hsame.symm.trans hholding)
  | comes hbefore hmodem hoffers hfollows =>
    have hoffered := fun htracked =>
      (SimulatedModem.offers_eq_has _ htracked).symm.trans hoffers
    exact hfollows.orderly hoffered hholding
  | comesWithout hbefore hafter hordered hwithout =>
    rw [hafter] at hholding
    cases hholding
    exact hordered
  | keeps hbefore hattached hkept hafter hwatched =>
    have hordered := horderly.holdings path interface _ hbefore
    rw [hafter] at hholding
    cases hholding
    exact ⟨fun htracked _ => offering_has_of_kept htracked hkept
      (hordered.offered htracked hattached), nofun⟩
  | attaches hbefore hnone hmodem hoffered hfollows =>
    exact hfollows.orderly (fun _ => hoffered) hholding
  | leaves hafter | misses hbefore hafter =>
    rw [hafter] at hholding
    cases hholding
  | withdraws hbefore hwithdraws hafter | remains htracked hbefore hnone hkept hnever hafter =>
    rw [hafter] at hholding
    cases hholding
    exact ⟨nofun, fun _ => rfl⟩

/-- Which modems are known after an event. -/
theorem Orderly.isSome_process {event : Event} {rest : List Event}
    (horderly : service.Orderly (event :: rest)) (path : ModemPath) :
    Alternates path ((service.process event).holding? path .modem).isSome rest
      (service.daemon.modem? path).isSome := by
  have halternates := horderly.alternates path
  cases horderly.takes path .modem with
  | elsewhere hpath hsame hwatched =>
    rw [hsame]
    exact (Alternates.cons_elsewhere hpath).1 halternates
  | leaves hafter =>
    rw [hafter]
    exact (Alternates.cons_removed.1 halternates).2
  | comes hbefore hmodem hoffers hfollows =>
    rw [hfollows.holding]
    exact (Alternates.cons_added.1 halternates).2
  | comesWithout hbefore hafter hordered hwithout =>
    rw [hafter]
    exact (Alternates.cons_added.1 halternates).2
  | misses hbefore hafter =>
    rw [hbefore] at halternates
    rw [hafter]
    exact halternates
  | withdraws hbefore hwithdraws hafter => exact absurd rfl hwithdraws.1
  | keeps hbefore hattached hkept hafter hwatched =>
    rw [hbefore] at halternates
    rw [hafter]
    exact halternates
  | attaches hbefore hnone hmodem hoffered hfollows =>
    rw [attached_modem hbefore] at hnone
    cases hnone
  | remains htracked => exact absurd rfl htracked

theorem Orderly.process {event : Event} {rest : List Event}
    (horderly : service.Orderly (event :: rest)) : (service.process event).Orderly rest := by
  have hsame := sameBus_process horderly.sound event
  exact
    { sound := hsame.failing.trans horderly.sound
      regular := fun path modem hmodem =>
        horderly.regular path modem ((hsame.modem? path).symm.trans hmodem)
      announces := fun path properties hmem =>
        horderly.announces path properties (.tail _ hmem)
      holdings := fun path interface holding => horderly.holdings_process
      alternates := fun path => by
        rw [hsame.modem? path]
        exact horderly.isSome_process path }

end Service

end Telephony

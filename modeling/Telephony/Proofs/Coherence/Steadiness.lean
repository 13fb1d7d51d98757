import Telephony.Proofs.Coherence.Order

/-!
# Fields and the events that wait for them

While a modem neither comes nor goes, each of its fields is what the bus stores, or an event with
that value waits. This lasts as long as the event loop attaches nothing for which stale events wait.
-/

namespace Telephony

open Simulator (SimulatedModem)

/-! ### Events about one modem -/

/-- Of the modem, the events tell nothing but changes. -/
def Quiet (path : ModemPath) (events : List Event) : Prop :=
  ∀ event ∈ events, event.path = path → ∃ change, event = .propertyChanged path change

/-- None of the events ends the interface. -/
def Lasts (path : ModemPath) (interface : Interface) (events : List Event) : Prop :=
  ∀ event ∈ events, ¬ event.Ends path interface

theorem mem_changesOf_iff {path : ModemPath} {events : List Event} {change : Change} :
    change ∈ changesOf path events ↔ .propertyChanged path change ∈ events := by
  simp only [changesOf, List.mem_filterMap]
  constructor
  · rintro ⟨event, hmem, hchange⟩
    split at hchange
    · split at hchange
      · next other change' hpath =>
        cases hchange
        rwa [← hpath]
      · cases hchange
    · cases hchange
  · exact fun hmem => ⟨_, hmem, if_pos rfl⟩

theorem changesOf_append (path : ModemPath) (events more : List Event) :
    changesOf path (events ++ more) = changesOf path events ++ changesOf path more :=
  List.filterMap_append

theorem changesOf_cons_changed (path : ModemPath) (change : Change) (rest : List Event) :
    changesOf path (.propertyChanged path change :: rest) = change :: changesOf path rest :=
  List.filterMap_cons_some (if_pos rfl)

theorem changesOf_cons_elsewhere {path : ModemPath} {event : Event} (hne : event.path ≠ path)
    (rest : List Event) : changesOf path (event :: rest) = changesOf path rest := by
  refine List.filterMap_cons_none ?_
  cases event with
  | propertyChanged other change => exact if_neg hne
  | _ => rfl

theorem Event.Ends.path_eq {event : Event} {path : ModemPath} {interface : Interface}
    (hends : event.Ends path interface) : event.path = path := by
  rcases hends with rfl | ⟨change, rfl, -⟩ <;> rfl

theorem Lasts.cons_elsewhere {path : ModemPath} {interface : Interface} {event : Event}
    {rest : List Event} (hlasts : Lasts path interface rest) (hne : event.path ≠ path) :
    Lasts path interface (event :: rest) := by
  intro other hmem hends
  rcases List.mem_cons.1 hmem with rfl | hrest
  · exact hne hends.path_eq
  · exact hlasts other hrest hends

theorem Lasts.cons_changed {path : ModemPath} {interface : Interface} {change : Change}
    {rest : List Event} (hlasts : Lasts path interface rest)
    (hkept : ¬ change.Withdraws interface) :
    Lasts path interface (.propertyChanged path change :: rest) := by
  intro other hmem hends
  rcases List.mem_cons.1 hmem with rfl | hrest
  · rcases hends with hremoved | ⟨withdrawal, hsame, hwithdraws⟩
    · cases hremoved
    · cases hsame
      exact hkept hwithdraws
  · exact hlasts other hrest hends

theorem Quiet.cons_elsewhere {path : ModemPath} {event : Event} {rest : List Event}
    (hquiet : Quiet path rest) (hne : event.path ≠ path) : Quiet path (event :: rest) := by
  intro other hmem hpath
  rcases List.mem_cons.1 hmem with rfl | hrest
  · exact absurd hpath hne
  · exact hquiet other hrest hpath

theorem Quiet.cons_changed {path : ModemPath} {change : Change} {rest : List Event}
    (hquiet : Quiet path rest) : Quiet path (.propertyChanged path change :: rest) := by
  intro other hmem hpath
  rcases List.mem_cons.1 hmem with rfl | hrest
  · exact ⟨change, rfl⟩
  · exact hquiet other hrest hpath

/-- The modem's own interface ends with the modem only. -/
theorem Quiet.lasts_modem {path : ModemPath} {events : List Event} (hquiet : Quiet path events) :
    Lasts path .modem events := by
  intro event hmem hends
  rcases hends with rfl | ⟨change, -, hwithdraws⟩
  · obtain ⟨change, hsame⟩ := hquiet _ hmem rfl
    cases hsame
  · exact hwithdraws.1 rfl

theorem mem_of_lastChange {interface : Interface} {name : String} {changes : List Change}
    {change : Change} (hlast : lastChange interface name changes = some change) :
    change ∈ changes := by
  induction changes with
  | nil => cases hlast
  | cons first rest ih =>
    rw [lastChange] at hlast
    cases hrest : lastChange interface name rest with
    | some other =>
      rw [hrest] at hlast
      cases hlast
      exact .tail _ (ih hrest)
    | none =>
      rw [hrest] at hlast
      by_cases hconcerns : first.Concerns interface name
      · simp [hconcerns] at hlast
        rw [hlast]
        exact List.mem_cons_self
      · simp [hconcerns] at hlast

namespace Service

variable {service : Service Simulator} {path : ModemPath} {interface : Interface}
  {modem : SimulatedModem} {events : List Event}

/-- An interface that is attached is watched, it is attached if it is known to be on offer, and every
field is what the bus stores or is to become that, unless events end the interface before. -/
structure SteadyAt (service : Service Simulator) (events : List Event) (path : ModemPath)
    (modem : SimulatedModem) (interface : Interface) : Prop where
  watched : ∀ holding, service.holding? path interface = some holding →
    holding.attached = true → service.daemon.isWatched path interface = true
  attached : ∀ holding, service.holding? path interface = some holding →
    Lasts path interface events → holding.offered.has interface = true → interface ≠ .modem →
      holding.attached = true
  fields : ∀ holding, service.holding? path interface = some holding →
    Lasts path interface events → holding.attached = true → ∀ name,
      (lastChange interface name (changesOf path events) <|> holding.field name) =
        modem.shown interface name

def Steady (service : Service Simulator) (events : List Event) : Prop :=
  ∀ path modem, service.daemon.modem? path = some modem → Quiet path events →
    ∀ interface, service.SteadyAt events path modem interface

theorem shown_interfaces (hregular : modem.Regular) :
    modem.shown .modem "Interfaces" = some (.modem (.interfaces (.ofList modem.interfaces))) := by
  rw [SimulatedModem.shown, hregular.interfaces]
  rfl

/-- What is known to be on offer, or was told to be, is offered on the bus. -/
theorem SteadyAt.offers (hsteady : service.SteadyAt events path modem .modem) (hregular : modem.Regular)
    (hquiet : Quiet path events) (htracked : interface ≠ .modem) {holding : Holding}
    (hholding : service.holding? path interface = some holding)
    (hlasts : Lasts path interface events)
    (hknown : holding.offered.has interface = true ∨
      ∃ current, .propertyChanged path (.modem (.interfaces current)) ∈ events) :
    modem.offers interface = true := by
  obtain ⟨entry, hentry, rfl⟩ := Option.map_eq_some_iff.1 hholding
  have hmodem : service.holding? path .modem = some (entry.holding .modem) :=
    congrArg (Option.map (Entry.holding · .modem)) hentry
  have hfield := hsteady.fields _ hmodem hquiet.lasts_modem (attached_modem hmodem)
    "Interfaces"
  rw [shown_interfaces hregular] at hfield
  rw [modem.offers_eq_has htracked]
  cases hlast : lastChange .modem "Interfaces" (changesOf path events) with
  | some change =>
    rw [hlast] at hfield
    cases hfield
    have hmem := mem_changesOf_iff.1 (mem_of_lastChange hlast)
    by_contra hnot
    exact hlasts _ hmem (.inr ⟨_, rfl, htracked, _, rfl, by simpa using hnot⟩)
  | none =>
    rw [hlast] at hfield
    rcases hknown with hoffered | ⟨current, hmem⟩
    · have hsame : entry.modem.state.interfaces = .ofList modem.interfaces := by
        simpa [Entry.holding, Entry.field, Modem.State.field] using hfield
      rw [← hsame]
      exact hoffered
    · exact absurd ⟨rfl, rfl⟩ (lastChange_eq_none_iff.1 hlast _ (mem_changesOf_iff.2 hmem))

/-! ### Taking in an event -/

theorem attached_iff :
    service.Attached path interface ↔
      ∃ holding, service.holding? path interface = some holding ∧ holding.attached = true := by
  unfold Attached holding?
  constructor
  · rintro ⟨entry, hentry, hattached⟩
    exact ⟨entry.holding interface, by rw [hentry]; rfl, hattached⟩
  · rintro ⟨holding, hholding, hattached⟩
    obtain ⟨entry, hentry, rfl⟩ := Option.map_eq_some_iff.1 hholding
    exact ⟨entry, hentry, hattached⟩

/-- Unless stale events wait, what has just been attached is steady. -/
theorem Follows.steadyAt {offered : InterfaceSet}
    (hfollows : service.Follows path interface modem offered)
    (hmodem : service.daemon.modem? path = some modem)
    (hfresh : ¬ service.Stale events path interface) :
    service.SteadyAt events path modem interface where
  watched := fun _ _ _ => hfollows.watched
  attached := fun holding hholding _ _ _ => by
    rw [hfollows.holding] at hholding
    cases hholding
    rfl
  fields := fun holding hholding hlasts _ name => by
    rw [hfollows.holding] at hholding
    cases hholding
    cases hlast : lastChange interface name (changesOf path events) with
    | none => rfl
    | some change =>
      by_contra hother
      refine hfresh ⟨hlasts, name, change, hlast, fun other hthere hshown => ?_⟩
      rw [hmodem] at hthere
      cases hthere
      exact hother hshown.symm

/-- What is not attached is steady if it is not on offer when no event ends it. -/
theorem steadyAt_of_unattached {holding : Holding}
    (hholding : service.holding? path interface = some holding) (hnone : holding.attached = false)
    (hwithout : Lasts path interface events → interface ≠ .modem →
      holding.offered.has interface = false) :
    service.SteadyAt events path modem interface where
  watched := fun other hother hattached => by
    rw [hholding] at hother
    cases hother
    rw [hnone] at hattached
    cases hattached
  attached := fun other hother hlasts hoffered htracked => by
    rw [hholding] at hother
    cases hother
    rw [hwithout hlasts htracked] at hoffered
    cases hoffered
  fields := fun other hother _ hattached => by
    rw [hholding] at hother
    cases hother
    rw [hnone] at hattached
    cases hattached

theorem steadyAt_of_unknown (hunknown : service.holding? path interface = none) :
    service.SteadyAt events path modem interface := by
  constructor <;>
    · intro holding hholding
      rw [hunknown] at hholding
      cases hholding

/-- What is attached and stays so takes a change in its turn. -/
theorem SteadyAt.process_kept {change : Change} {rest : List Event} {holding : Holding}
    (hsteady : service.SteadyAt (.propertyChanged path change :: rest) path modem interface)
    (hholding : service.holding? path interface = some holding)
    (hattached : holding.attached = true) (hkept : ¬ change.Withdraws interface)
    (hafter : (service.process (.propertyChanged path change)).holding? path interface =
      some ⟨change.offering holding.offered, true,
        fun name => if change.Concerns interface name then some change else holding.field name⟩)
    (hwatched : (service.process (.propertyChanged path change)).daemon.isWatched path interface =
      service.daemon.isWatched path interface) :
    (service.process (.propertyChanged path change)).SteadyAt rest path modem interface := by
  refine ⟨fun other hother _ => ?_, fun other hother _ _ _ => ?_,
    fun other hother hlasts _ name => ?_⟩
  · exact hwatched.trans (hsteady.watched holding hholding hattached)
  · rw [hafter] at hother
    cases hother
    rfl
  · rw [hafter] at hother
    cases hother
    have hbefore := hsteady.fields holding hholding (hlasts.cons_changed hkept) hattached name
    rwa [changesOf_cons_changed, lastChange_cons_orElse] at hbefore

/-- What remains unattached is not on offer in the end. -/
theorem SteadyAt.process_remaining {change : Change} {rest : List Event} {holding : Holding}
    (hsteady : service.SteadyAt (.propertyChanged path change :: rest) path modem interface)
    (hown : service.SteadyAt (.propertyChanged path change :: rest) path modem .modem)
    (hregular : modem.Regular) (hmodem : service.daemon.modem? path = some modem)
    (hquiet : Quiet path rest) (htracked : interface ≠ .modem)
    (hholding : service.holding? path interface = some holding) (hnone : holding.attached = false)
    (hkept : ¬ change.Withdraws interface)
    (hnever : ¬ (service.daemon.Offers path interface ∧
      interface ∈ Entry.beyond (change.offering holding.offered) holding.offered))
    (hlasts : Lasts path interface rest) :
    (change.offering holding.offered).has interface = false := by
  by_contra hhas
  have hoffering : (change.offering holding.offered).has interface = true := by simpa using hhas
  have hlonger := hlasts.cons_changed hkept
  cases hbefore : holding.offered.has interface with
  | true =>
    have hattached := hsteady.attached holding hholding hlonger hbefore htracked
    rw [hnone] at hattached
    cases hattached
  | false =>
    refine hnever ⟨⟨modem, hmodem, ?_⟩, Entry.mem_beyond_iff.2 ⟨htracked, hoffering, hbefore⟩⟩
    refine hown.offers hregular hquiet.cons_changed htracked hholding hlonger (.inr ?_)
    rcases Entry.change_eq_of_offering change with ⟨current, rfl⟩ | ⟨-, hsame⟩
    · exact ⟨current, List.mem_cons_self⟩
    · rw [hsame, hbefore] at hoffering
      cases hoffering

/-- An event about another modem keeps everything steady. -/
theorem SteadyAt.process_elsewhere {event : Event} {rest : List Event}
    (hsteady : service.SteadyAt (event :: rest) path modem interface) (hpath : event.path ≠ path)
    (hholding : (service.process event).holding? path interface = service.holding? path interface)
    (hwatched : (service.process event).daemon.isWatched path interface =
      service.daemon.isWatched path interface) :
    (service.process event).SteadyAt rest path modem interface := by
  refine ⟨fun holding hsome hattached => ?_, fun holding hsome hlasts => ?_,
    fun holding hsome hlasts => ?_⟩
  all_goals rw [hholding] at hsome
  · exact hwatched.trans (hsteady.watched holding hsome hattached)
  · exact hsteady.attached holding hsome (hlasts.cons_elsewhere hpath)
  · have hfields := hsteady.fields holding hsome (hlasts.cons_elsewhere hpath)
    rwa [changesOf_cons_elsewhere hpath] at hfields

theorem not_attached {holding? : Option Holding}
    (hholding : service.holding? path interface = holding?)
    (hnone : ∀ holding ∈ holding?, holding.attached = false) :
    ¬ service.Attached path interface := by
  rw [attached_iff]
  rintro ⟨holding, hthere, hattached⟩
  rw [hholding] at hthere
  rw [hnone holding hthere] at hattached
  cases hattached

/-- Taking in an event cleanly keeps the service steady. -/
theorem Steady.process {event : Event} {rest : List Event}
    (hsteady : service.Steady (event :: rest)) (horderly : service.Orderly (event :: rest))
    (hclean : ∀ path interface, ¬ service.Attached path interface →
      (service.process event).Attached path interface →
        ¬ (service.process event).Stale rest path interface) :
    (service.process event).Steady rest := by
  intro path modem hthere hquiet interface
  have hmodem := ((sameBus_process horderly.sound event).modem? path).symm.trans hthere
  have hregular := horderly.regular path modem hmodem
  have hfollowed : ∀ {offered}, ¬ service.Attached path interface →
      (service.process event).Follows path interface modem offered →
        (service.process event).SteadyAt rest path modem interface := fun hbefore hfollows =>
    hfollows.steadyAt hthere
      (hclean path interface hbefore (attached_iff.2 ⟨_, hfollows.holding, rfl⟩))
  cases horderly.takes path interface with
  | elsewhere hpath hholding hwatched =>
    have hat := hsteady path modem hmodem (hquiet.cons_elsewhere hpath) interface
    exact hat.process_elsewhere hpath hholding hwatched
  | leaves hafter => exact steadyAt_of_unknown hafter
  | comes hbefore hother hoffers hfollows =>
    obtain rfl := Option.some.inj (hother.symm.trans hmodem)
    exact hfollowed (not_attached hbefore nofun) hfollows
  | comesWithout hbefore hafter hordered hwithout =>
    obtain ⟨hnone, hoffered⟩ := hwithout modem hmodem
    exact steadyAt_of_unattached hafter hnone fun _ _ => hoffered
  | misses hbefore hafter => exact steadyAt_of_unknown hafter
  | withdraws hbefore hwithdraws hafter =>
    refine steadyAt_of_unattached hafter rfl fun _ _ => ?_
    obtain ⟨-, current, rfl, hwithdrawn⟩ := hwithdraws
    exact hwithdrawn
  | keeps hbefore hattached hkept hafter hwatched =>
    have hat := hsteady path modem hmodem hquiet.cons_changed interface
    exact hat.process_kept hbefore hattached hkept hafter hwatched
  | attaches hbefore hnone hother hoffered hfollows =>
    obtain rfl := Option.some.inj (hother.symm.trans hmodem)
    exact hfollowed (not_attached hbefore fun _ hsame => Option.some.inj hsame ▸ hnone) hfollows
  | remains htracked hbefore hnone hkept hnever hafter =>
    have hat := hsteady path modem hmodem hquiet.cons_changed
    exact steadyAt_of_unattached hafter rfl fun hlasts _ => (hat interface).process_remaining
      (hat .modem) hregular hmodem hquiet htracked hbefore hnone hkept hnever hlasts

end Service

end Telephony

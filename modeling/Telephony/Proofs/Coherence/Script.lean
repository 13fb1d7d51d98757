import Telephony.Proofs.Coherence.Steadiness
import Telephony.Proofs.Coherence.Stores

/-!
# Steps of the script

Whatever the script does to the bus, the event that tells of it waits behind all others, and with it
the service stays in order and steady.
-/

namespace Telephony

open Simulator (SimulatedModem)

namespace Simulator

/-- One modem of a bus has changed, or has come or gone, and some events about it are sent if anyone
listens. -/
structure Scripts (sim after : Simulator) (path : ModemPath) (sent : List Event) : Prop where
  failing : after.failing = sim.failing
  connected : after.connected = sim.connected
  outbox : after.outbox = sim.outbox ++ if sim.connected then sent else []
  about : ∀ event ∈ sent, event.path = path
  modems : ∀ other, path ≠ other → after.modem? other = sim.modem? other
  watched : ∀ other interface, path ≠ other →
    after.isWatched other interface = sim.isWatched other interface

theorem modem?_putModem (sim : Simulator) (path : ModemPath) (modem : SimulatedModem)
    (other : ModemPath) :
    (sim.putModem path modem).modem? other = if path = other then some modem else sim.modem? other :=
  Table.get?_insert sim.modems path other modem

theorem send_eq (sim : Simulator) (event : Event) :
    sim.send event =
      { sim with outbox := sim.outbox ++ if sim.connected then [event] else [] } := by
  unfold send
  split
  · rfl
  · rw [List.append_nil]

theorem scripts_addModem (sim : Simulator) (path : ModemPath) (interfaces : List Interface) :
    sim.Scripts (sim.addModem path interfaces) path
        [.modemAdded path ((SimulatedModem.new interfaces).decoded .modem)] ∧
      (sim.addModem path interfaces).modem? path = some (.new interfaces) := by
  have hadd : sim.addModem path interfaces = { sim.putModem path (.new interfaces) with
      outbox := sim.outbox ++ if sim.connected then
        [.modemAdded path ((SimulatedModem.new interfaces).decoded .modem)] else [] } :=
    send_eq (sim.putModem path (.new interfaces)) _
  rw [hadd]
  refine ⟨⟨rfl, rfl, rfl, fun event hmem => ?_, fun other hne => ?_, fun _ _ _ => rfl⟩, ?_⟩
  · rw [List.mem_singleton.1 hmem]
    rfl
  · exact (modem?_putModem sim path _ other).trans (if_neg hne)
  · exact (modem?_putModem sim path _ path).trans (if_pos rfl)

theorem scripts_removeModem {sim : Simulator} {path : ModemPath}
    (hthere : (sim.modem? path).isSome = true) :
    sim.Scripts (sim.removeModem path) path [.modemRemoved path] ∧
      (sim.removeModem path).modem? path = none := by
  have hremove : sim.removeModem path = { sim with
      modems := sim.modems.erase path
      watched := sim.watched.filter (·.1 != path)
      outbox := sim.outbox ++ if sim.connected then [.modemRemoved path] else [] } := by
    unfold removeModem
    rw [if_pos hthere]
    exact send_eq _ _
  rw [hremove]
  refine ⟨⟨rfl, rfl, rfl, fun event hmem => ?_, fun other hne => ?_, fun other i hne => ?_⟩, ?_⟩
  · rw [List.mem_singleton.1 hmem]
    rfl
  · exact (Table.get?_erase sim.modems path other).trans (if_neg hne)
  · rw [Bool.eq_iff_iff, isWatched_iff, isWatched_iff, List.mem_filter]
    exact and_iff_left (by simpa using Ne.symm hne)
  · exact (Table.get?_erase sim.modems path path).trans (if_pos rfl)

/-- The event of a change is sent if the interface is watched. -/
theorem scripts_update {sim : Simulator} {path : ModemPath} {modem : SimulatedModem}
    (hmodem : sim.modem? path = some modem) {interface : Interface} {name : String}
    {value : Wire.Value} {change : Change}
    (hdecode : Change.decode interface name value = some change) :
    ∃ after, sim.update path interface name value = .ok after ∧
      after.modem? path = some (modem.store interface name value) ∧
      sim.Scripts after path
        (if sim.isWatched path interface then [.propertyChanged path change] else []) ∧
      ∀ i, after.isWatched path i = sim.isWatched path i := by
  let put := sim.putModem path (modem.store interface name value)
  have hupdate : sim.update path interface name value =
      .ok (if sim.isWatched path interface then put.send (.propertyChanged path change)
        else put) := by
    simp only [update, find, hmodem, hdecode]
    change (if sim.isWatched path interface then _ else _) = _
    split <;> rfl
  have hput : ∀ other, put.modem? other =
      if path = other then some (modem.store interface name value) else sim.modem? other :=
    modem?_putModem sim path _
  refine ⟨_, hupdate, ?_⟩
  split
  · rw [send_eq put]
    refine ⟨(hput path).trans (if_pos rfl), ⟨rfl, rfl, rfl, fun event hmem => ?_,
      fun other hne => (hput other).trans (if_neg hne), fun _ _ _ => rfl⟩, fun _ => rfl⟩
    rw [List.mem_singleton.1 hmem]
    rfl
  · exact ⟨(hput path).trans (if_pos rfl), ⟨rfl, rfl, by simp [put, putModem],
      fun _ hmem => absurd hmem List.not_mem_nil, fun other hne => (hput other).trans (if_neg hne), fun _ _ _ => rfl⟩, fun _ => rfl⟩

theorem scripts_setInterfaces {sim : Simulator} {path : ModemPath} {modem : SimulatedModem}
    (hmodem : sim.modem? path = some modem) (interfaces : List Interface) :
    ∃ after, sim.setInterfaces path interfaces = .ok after ∧
      after.modem? path = some (modem.offering interfaces) ∧
      sim.Scripts after path
        (if sim.isWatched path .modem then
          [.propertyChanged path (.modem (.interfaces (.ofList interfaces)))] else []) ∧
      ∀ i, after.isWatched path i = sim.isWatched path i := by
  let put := sim.putModem path (modem.setInterfaces interfaces)
  have hput : ∀ other, put.modem? other =
      if path = other then some (modem.setInterfaces interfaces) else sim.modem? other :=
    modem?_putModem sim path _
  obtain ⟨after, hupdate, hafter, hscripts, hwatched⟩ :=
    scripts_update ((hput path).trans (if_pos rfl)) (decode_namesValue interfaces)
  have hset : sim.setInterfaces path interfaces = .ok after := by
    simp only [setInterfaces, find, hmodem]
    exact hupdate
  refine ⟨after, hset, hafter, ⟨hscripts.failing, hscripts.connected, hscripts.outbox,
    hscripts.about, fun other hne => ?_, hscripts.watched⟩, hwatched⟩
  exact (hscripts.modems other hne).trans ((hput other).trans (if_neg hne))

end Simulator

theorem Alternates.elsewhere {path : ModemPath} {events : List Event}
    (habout : ∀ event ∈ events, event.path ≠ path) (now : Bool) :
    Alternates path now events now := by
  induction events with
  | nil => rfl
  | cons event rest ih =>
    exact (cons_elsewhere (habout event List.mem_cons_self)).2
      (ih fun other hother => habout other (.tail _ hother))

theorem changesOf_elsewhere {path : ModemPath} {events : List Event}
    (habout : ∀ event ∈ events, event.path ≠ path) : changesOf path events = [] :=
  List.eq_nil_iff_forall_not_mem.2 fun _ hmem => habout _ (mem_changesOf_iff.1 hmem) rfl

theorem Lasts.left {path : ModemPath} {interface : Interface} {events more : List Event}
    (hlasts : Lasts path interface (events ++ more)) : Lasts path interface events :=
  fun event hmem => hlasts event (List.mem_append_left more hmem)

theorem Quiet.left {path : ModemPath} {events more : List Event}
    (hquiet : Quiet path (events ++ more)) : Quiet path events :=
  fun event hmem => hquiet event (List.mem_append_left more hmem)

namespace Service

variable {service : Service Simulator} {events sent : List Event} {after : Simulator}
  {path : ModemPath}

theorem Orderly.scripts (horderly : service.Orderly events)
    (hscripts : service.daemon.Scripts after path sent)
    (hregular : ∀ modem, after.modem? path = some modem → modem.Regular)
    (hannounces : ∀ properties, .modemAdded path properties ∈ sent →
      ∃ named, Announces properties named)
    (halternates : Alternates path (service.daemon.modem? path).isSome sent
      (after.modem? path).isSome) :
    ({ service with daemon := after } : Service Simulator).Orderly (events ++ sent) where
  sound := hscripts.failing.trans horderly.sound
  regular := fun other modem hmodem => by
    by_cases hpath : path = other
    · exact hregular modem (hpath ▸ hmodem)
    · exact horderly.regular other modem ((hscripts.modems other hpath).symm.trans hmodem)
  announces := fun other properties hmem => by
    rcases List.mem_append.1 hmem with hold | hnew
    · exact horderly.announces other properties hold
    · obtain rfl : other = path := hscripts.about _ hnew
      exact hannounces properties hnew
  holdings := horderly.holdings
  alternates := fun other => by
    by_cases hpath : path = other
    · subst hpath
      exact (horderly.alternates path).append halternates
    · rw [show (({ service with daemon := after } : Service Simulator).daemon.modem? other) =
        service.daemon.modem? other from hscripts.modems other hpath]
      refine (horderly.alternates other).append (.elsewhere (fun event hmem hother => ?_) _)
      exact hpath ((hscripts.about event hmem).symm.trans hother)

theorem Steady.scripts (hsteady : service.Steady events)
    (hscripts : service.daemon.Scripts after path sent)
    (hat : ∀ modem, after.modem? path = some modem → Quiet path (events ++ sent) →
      ∀ interface, ({ service with daemon := after } : Service Simulator).SteadyAt
        (events ++ sent) path modem interface) :
    ({ service with daemon := after } : Service Simulator).Steady (events ++ sent) := by
  intro other modem hmodem hquiet interface
  by_cases hpath : path = other
  · subst hpath
    exact hat modem hmodem hquiet interface
  · have helse : ∀ event ∈ sent, event.path ≠ other := fun event hmem hother =>
      hpath ((hscripts.about event hmem).symm.trans hother)
    obtain ⟨hwatched, hattached, hfields⟩ := hsteady other modem
      ((hscripts.modems other hpath).symm.trans hmodem) hquiet.left interface
    refine ⟨fun holding hholding hyes => ?_, fun holding hholding hlasts => ?_,
      fun holding hholding hlasts => ?_⟩
    · exact (hscripts.watched other interface hpath).trans (hwatched holding hholding hyes)
    · exact hattached holding hholding hlasts.left
    · rw [changesOf_append, changesOf_elsewhere helse, List.append_nil]
      exact hfields holding hholding hlasts.left

/-- The event of a change is sent if its interface is watched, and then fields are steady again. -/
theorem SteadyAt.scripts {old new : SimulatedModem} {interface : Interface} {change : Change}
    (hsteady : service.SteadyAt events path old interface)
    (hwatched : after.isWatched path interface = service.daemon.isWatched path interface)
    (hsent : sent = if service.daemon.isWatched path change.interface then
      [.propertyChanged path change] else [])
    (hshown : ∀ holding, service.holding? path interface = some holding →
      holding.attached = true → Lasts path interface (events ++ sent) → ∀ name,
        new.shown interface name =
          if change.Concerns interface name then some change else old.shown interface name) :
    ({ service with daemon := after } : Service Simulator).SteadyAt (events ++ sent) path new
      interface where
  watched := fun holding hholding hyes => hwatched.trans (hsteady.watched holding hholding hyes)
  attached := fun holding hholding hlasts => hsteady.attached holding hholding hlasts.left
  fields := fun holding hholding hlasts hyes name => by
    rw [hshown holding hholding hyes hlasts, changesOf_append, lastChange_append]
    by_cases hconcerns : change.Concerns interface name
    · have hsends : sent = [.propertyChanged path change] := by
        rw [hsent, hconcerns.1, if_pos (hsteady.watched holding hholding hyes)]
      rw [hsends, changesOf_cons_changed, if_pos hconcerns]
      simp [changesOf, lastChange, hconcerns]
    · have hsilent : lastChange interface name (changesOf path sent) = none := by
        refine lastChange_eq_none_iff.2 fun other hmem hother => hconcerns ?_
        have hevent := mem_changesOf_iff.1 hmem
        rw [hsent] at hevent
        split at hevent
        · cases List.mem_singleton.1 hevent
          exact hother
        · cases hevent
      rw [hsilent, if_neg hconcerns]
      exact hsteady.fields holding hholding hlasts.left hyes name

/-! ### Steps of a running service -/

/-- A service that listens to the bus, and is in order with the events that wait. -/
structure Running (service : Service Simulator) : Prop where
  connected : service.daemon.connected = true
  orderly : service.Orderly service.daemon.outbox

/-- A step after which the service is still running, and steady if it was. -/
structure Keeps (service after : Service Simulator) : Prop where
  running : after.Running
  steady : service.Steady service.daemon.outbox → after.Steady after.daemon.outbox

theorem Running.keeps_self (hrunning : service.Running) : service.Keeps service := ⟨hrunning, id⟩

theorem Running.keeps (hrunning : service.Running)
    (hscripts : service.daemon.Scripts after path sent)
    (hregular : ∀ modem, after.modem? path = some modem → modem.Regular)
    (hannounces : ∀ properties, .modemAdded path properties ∈ sent →
      ∃ named, Announces properties named)
    (halternates : Alternates path (service.daemon.modem? path).isSome sent
      (after.modem? path).isSome)
    (hat : service.Steady service.daemon.outbox → ∀ modem, after.modem? path = some modem →
      Quiet path (service.daemon.outbox ++ sent) → ∀ interface,
        ({ service with daemon := after } : Service Simulator).SteadyAt
          (service.daemon.outbox ++ sent) path modem interface) :
    service.Keeps { service with daemon := after } where
  running := by
    refine ⟨hscripts.connected.trans hrunning.connected, ?_⟩
    change Orderly _ after.outbox
    rw [hscripts.outbox, if_pos hrunning.connected]
    exact hrunning.orderly.scripts hscripts hregular hannounces halternates
  steady := fun hsteady => by
    change Steady _ after.outbox
    rw [hscripts.outbox, if_pos hrunning.connected]
    exact hsteady.scripts hscripts (hat hsteady)

/-- What a step of the script does to the bus, if it can be taken. -/
inductive Edits (service : Service Simulator) : Service Simulator → Prop where
  | skips : Edits service service
  | adds {path : ModemPath} {interfaces : List Interface} {after : Simulator}
      (hgone : service.daemon.modem? path = none)
      (hnew : after.modem? path = some (.new interfaces))
      (hscripts : service.daemon.Scripts after path
        [.modemAdded path ((SimulatedModem.new interfaces).decoded .modem)]) :
      Edits service { service with daemon := after }
  | removes {path : ModemPath} {after : Simulator}
      (hthere : (service.daemon.modem? path).isSome = true) (hgone : after.modem? path = none)
      (hscripts : service.daemon.Scripts after path [.modemRemoved path]) :
      Edits service { service with daemon := after }
  | offers {path : ModemPath} {interfaces : List Interface} {old : SimulatedModem}
      {after : Simulator} (hold : service.daemon.modem? path = some old)
      (hnew : after.modem? path = some (old.offering interfaces))
      (hscripts : service.daemon.Scripts after path
        (if service.daemon.isWatched path .modem then
          [.propertyChanged path (.modem (.interfaces (.ofList interfaces)))] else []))
      (hwatched : ∀ i, after.isWatched path i = service.daemon.isWatched path i) :
      Edits service { service with daemon := after }
  | stores {path : ModemPath} {interface : Interface} {name : String} {value : Wire.Value}
      {change : Change} {old : SimulatedModem} {after : Simulator}
      (hold : service.daemon.modem? path = some old)
      (hdecode : Change.decode interface name value = some change)
      (hother : ¬ (interface = .modem ∧ name = "Interfaces"))
      (hnew : after.modem? path = some (old.store interface name value))
      (hscripts : service.daemon.Scripts after path
        (if service.daemon.isWatched path interface then [.propertyChanged path change] else []))
      (hwatched : ∀ i, after.isWatched path i = service.daemon.isWatched path i) :
      Edits service { service with daemon := after }

theorem edits_removeModem (service : Service Simulator) (path : ModemPath) :
    service.Edits (service.beat (.removeModem path)) := by
  simp only [beat]
  cases hthere : (service.daemon.modem? path).isSome with
  | false =>
    have hsame : service.daemon.removeModem path = service.daemon := by
      unfold Simulator.removeModem
      rw [hthere]
      rfl
    rw [hsame]
    exact .skips
  | true =>
    obtain ⟨hscripts, hgone⟩ := Simulator.scripts_removeModem hthere
    exact .removes hthere hgone hscripts

theorem edits_update (service : Service Simulator) (path : ModemPath) (interface : Interface)
    (name : String) (value : Wire.Value) :
    service.Edits (service.beat (.update path interface name value)) := by
  simp only [beat]
  split
  · exact .skips
  · next hproper =>
    rw [not_or] at hproper
    obtain ⟨change, hdecode⟩ := Option.ne_none_iff_exists'.1 hproper.2
    cases hold : service.daemon.modem? path with
    | none =>
      simp only [Simulator.update, Simulator.find, hold]
      exact .skips
    | some old =>
      obtain ⟨after, hupdate, hnew, hscripts, hwatched⟩ := Simulator.scripts_update hold hdecode
      rw [hupdate]
      exact .stores hold hdecode hproper.1 hnew hscripts hwatched

/-- Every step but those of the event loop is one of the script. -/
theorem beat_cases (service : Service Simulator) (beat : Beat) :
    beat = .next ∨ beat = .flush ∨ service.Edits (service.beat beat) := by
  cases beat with
  | addModem path interfaces =>
    refine .inr (.inr ?_)
    simp only [Service.beat]
    split
    · exact .skips
    · next hthere =>
      obtain ⟨hscripts, hnew⟩ := service.daemon.scripts_addModem path interfaces
      exact .adds (by simpa using hthere) hnew hscripts
  | removeModem path => exact .inr (.inr (service.edits_removeModem path))
  | setInterfaces path interfaces =>
    refine .inr (.inr ?_)
    simp only [Service.beat]
    cases hold : service.daemon.modem? path with
    | none =>
      simp only [Simulator.setInterfaces, Simulator.find, hold]
      exact .skips
    | some old =>
      obtain ⟨after, hset, hnew, hscripts, hwatched⟩ :=
        Simulator.scripts_setInterfaces hold interfaces
      rw [hset]
      exact .offers hold hnew hscripts hwatched
  | update path interface name value =>
    exact .inr (.inr (service.edits_update path interface name value))
  | next => exact .inl rfl
  | flush => exact .inr (.inl rfl)

theorem Running.keeps_adds (hrunning : service.Running) {interfaces : List Interface}
    (hgone : service.daemon.modem? path = none)
    (hnew : after.modem? path = some (.new interfaces))
    (hscripts : service.daemon.Scripts after path
      [.modemAdded path ((SimulatedModem.new interfaces).decoded .modem)]) :
    service.Keeps { service with daemon := after } := by
  refine hrunning.keeps hscripts (fun modem hmodem => ?_) (fun properties hmem => ?_) ?_
    fun _ modem _ hquiet => ?_
  · rw [hnew] at hmodem
    cases hmodem
    exact SimulatedModem.regular_new interfaces
  · cases List.mem_singleton.1 hmem
    exact ⟨_, (SimulatedModem.regular_new interfaces).announces⟩
  · rw [hgone, hnew]
    exact Alternates.cons_added.2 ⟨rfl, rfl⟩
  · obtain ⟨change, hsame⟩ := hquiet _ (List.mem_append_right _ List.mem_cons_self) rfl
    cases hsame

theorem Running.keeps_removes (hrunning : service.Running)
    (hthere : (service.daemon.modem? path).isSome = true) (hgone : after.modem? path = none)
    (hscripts : service.daemon.Scripts after path [.modemRemoved path]) :
    service.Keeps { service with daemon := after } := by
  refine hrunning.keeps hscripts (fun modem hmodem => ?_) (fun properties hmem => ?_) ?_
    fun _ modem hmodem => ?_
  · rw [hgone] at hmodem
    cases hmodem
  · cases List.mem_singleton.1 hmem
  · rw [hthere, hgone]
    exact Alternates.cons_removed.2 ⟨rfl, rfl⟩
  · rw [hgone] at hmodem
    cases hmodem

/-- A change of one modem, told if its interface is watched. -/
theorem Running.keeps_changed (hrunning : service.Running) {old new : SimulatedModem}
    {change : Change} (hold : service.daemon.modem? path = some old)
    (hnew : after.modem? path = some new) (hregular : new.Regular)
    (hscripts : service.daemon.Scripts after path
      (if service.daemon.isWatched path change.interface then [.propertyChanged path change] else []))
    (hwatched : ∀ i, after.isWatched path i = service.daemon.isWatched path i)
    (hshown : service.Steady service.daemon.outbox → Quiet path service.daemon.outbox →
      ∀ interface holding, service.holding? path interface = some holding →
        holding.attached = true → Lasts path interface service.daemon.outbox → ∀ name,
          new.shown interface name =
            if change.Concerns interface name then some change else old.shown interface name) :
    service.Keeps { service with daemon := after } := by
  refine hrunning.keeps hscripts (fun modem hmodem => ?_) (fun properties hmem => ?_) ?_
    fun hsteady modem hmodem hquiet interface => ?_
  · rw [hnew] at hmodem
    cases hmodem
    exact hregular
  · split at hmem
    · cases List.mem_singleton.1 hmem
    · cases hmem
  · rw [hold, hnew]
    split
    · exact rfl
    · exact rfl
  · rw [hnew] at hmodem
    cases hmodem
    exact (hsteady path old hold hquiet.left interface).scripts (hwatched interface) rfl
      fun holding hholding hyes hlasts =>
        hshown hsteady hquiet.left interface holding hholding hyes hlasts.left

theorem Running.keeps_stores (hrunning : service.Running) {interface : Interface} {name : String}
    {value : Wire.Value} {change : Change} {old : SimulatedModem}
    (hold : service.daemon.modem? path = some old)
    (hdecode : Change.decode interface name value = some change)
    (hother : ¬ (interface = .modem ∧ name = "Interfaces"))
    (hnew : after.modem? path = some (old.store interface name value))
    (hscripts : service.daemon.Scripts after path
      (if service.daemon.isWatched path interface then [.propertyChanged path change] else []))
    (hwatched : ∀ i, after.isWatched path i = service.daemon.isWatched path i) :
    service.Keeps { service with daemon := after } := by
  have hregular := hrunning.orderly.regular path old hold
  have hconcerns := Change.concerns_of_decode hdecode
  rw [← hconcerns.1] at hscripts
  refine hrunning.keeps_changed hold hnew (hregular.store hdecode hother) hscripts hwatched
    fun _ _ i holding _ _ _ key => ?_
  unfold SimulatedModem.shown
  rw [SimulatedModem.stored_store]
  by_cases hsame : interface = i ∧ name = key
  · obtain ⟨rfl, rfl⟩ := hsame
    rw [if_pos ⟨rfl, rfl⟩, if_pos hconcerns, hdecode]
    rfl
  · rw [if_neg hsame, if_neg fun hother =>
      hsame ⟨hconcerns.1.symm.trans hother.1, hconcerns.2.symm.trans hother.2⟩]

theorem Running.keeps_offers (hrunning : service.Running) {interfaces : List Interface}
    {old : SimulatedModem} (hold : service.daemon.modem? path = some old)
    (hnew : after.modem? path = some (old.offering interfaces))
    (hscripts : service.daemon.Scripts after path
      (if service.daemon.isWatched path .modem then
        [.propertyChanged path (.modem (.interfaces (.ofList interfaces)))] else []))
    (hwatched : ∀ i, after.isWatched path i = service.daemon.isWatched path i) :
    service.Keeps { service with daemon := after } := by
  have hregular := hrunning.orderly.regular path old hold
  have htold : service.daemon.Scripts after path
      (if service.daemon.isWatched path
          (Change.modem (.interfaces (.ofList interfaces))).interface then
        [.propertyChanged path (.modem (.interfaces (.ofList interfaces)))] else []) := hscripts
  refine hrunning.keeps_changed hold hnew (hregular.offering interfaces) htold hwatched
    fun hsteady hquiet interface holding hholding hyes hlasts name => ?_
  unfold SimulatedModem.shown
  by_cases hown : interface = .modem ∧ name = "Interfaces"
  · obtain ⟨rfl, rfl⟩ := hown
    rw [SimulatedModem.stored_offering_interfaces, if_pos ⟨rfl, rfl⟩]
    rfl
  · have hconcerns : ¬ (Change.modem (.interfaces (.ofList interfaces))).Concerns interface
        name := fun hsame => hown ⟨hsame.1.symm, hsame.2.symm⟩
    rw [if_neg hconcerns, SimulatedModem.stored_offering_of_ne old interfaces hown ?_]
    -- what is attached and lasts is offered already, so its properties are not set anew
    by_cases htracked : interface = .modem
    · exact .inl htracked
    · have hoffers := (hsteady path old hold hquiet .modem).offers hregular hquiet htracked
        hholding hlasts (.inl ((hrunning.orderly.holdings path interface holding hholding).offered
          htracked hyes))
      rw [SimulatedModem.offers, beq_eq_false_iff_ne.2 htracked, Bool.false_or] at hoffers
      exact .inr (.inl (by simpa using hoffers))

/-- Every step of the script keeps a running service in order and steady. -/
theorem Running.keeps_edits (hrunning : service.Running) {next : Service Simulator}
    (hedits : service.Edits next) : service.Keeps next := by
  cases hedits with
  | skips => exact hrunning.keeps_self
  | adds hgone hnew hscripts => exact hrunning.keeps_adds hgone hnew hscripts
  | removes hthere hgone hscripts => exact hrunning.keeps_removes hthere hgone hscripts
  | offers hold hnew hscripts hwatched => exact hrunning.keeps_offers hold hnew hscripts hwatched
  | stores hold hdecode hother hnew hscripts hwatched =>
    exact hrunning.keeps_stores hold hdecode hother hnew hscripts hwatched

end Service

end Telephony

import Telephony.Proofs.Coherence.Script

/-!
# Runs of the event loop

A running service that is in order and steady stays so through every step of the script and every
event that the loop takes in cleanly. When no event waits any more it is coherent. After an event
that was not taken in cleanly, it catches up with what is not on the bus.
-/

namespace Telephony

open Simulator (SimulatedModem)

namespace Service

variable {service : Service Simulator} {path : ModemPath} {interface : Interface}

/-! ### The event loop -/

theorem holding?_flush (service : Service Simulator) (path : ModemPath) (interface : Interface) :
    service.flush.holding? path interface = service.holding? path interface := by
  unfold holding?
  rw [board_flush, Switchboard.lookup_flush, Option.map_map]
  exact congrFun (congrArg Option.map (funext fun entry => Entry.holding_told entry interface)) _

/-- Services that hold the same and have the same daemon are alike in all that matters here. -/
theorem Orderly.of_holdings {after : Service Simulator} {events : List Event}
    (horderly : service.Orderly events) (hdaemon : after.daemon = service.daemon)
    (hholding : ∀ path interface, after.holding? path interface = service.holding? path interface) :
    after.Orderly events where
  sound := by rw [hdaemon]; exact horderly.sound
  regular := by rw [hdaemon]; exact horderly.regular
  announces := horderly.announces
  holdings := fun path interface holding hafter =>
    horderly.holdings path interface holding ((hholding path interface).symm.trans hafter)
  alternates := fun path => by
    rw [hdaemon, hholding]
    exact horderly.alternates path

theorem Steady.of_holdings {after : Service Simulator} {events : List Event}
    (hsteady : service.Steady events) (hdaemon : after.daemon = service.daemon)
    (hholding : ∀ path interface, after.holding? path interface = service.holding? path interface) :
    after.Steady events := by
  intro path modem hmodem hquiet interface
  rw [hdaemon] at hmodem
  obtain ⟨hwatched, hattached, hfields⟩ := hsteady path modem hmodem hquiet interface
  constructor
  all_goals rw [hholding]
  · rw [hdaemon]
    exact hwatched
  · exact hattached
  · exact hfields

theorem Running.keeps_flush (hrunning : service.Running) : service.Keeps service.flush := by
  have hdaemon := service.daemon_flush
  have hholding := service.holding?_flush
  refine ⟨⟨?_, ?_⟩, fun hsteady => ?_⟩
  · rw [hdaemon]
    exact hrunning.connected
  · have horderly := hrunning.orderly.of_holdings hdaemon hholding
    rwa [hdaemon]
  · have hafter := hsteady.of_holdings hdaemon hholding
    rwa [hdaemon]

/-- The service without the event that is about to be taken in. -/
def popped (service : Service Simulator) (rest : List Event) : Service Simulator :=
  { service with daemon := { service.daemon with outbox := rest } }

theorem next_of_cons {event : Event} {rest : List Event}
    (hwaits : service.daemon.outbox = event :: rest) :
    service.next = (service.popped rest).process event := by
  unfold next
  rw [hwaits]
  rfl

theorem next_of_nil (hwaits : service.daemon.outbox = []) : service.next = service := by
  unfold next
  rw [hwaits]

theorem Orderly.popped {events : List Event} (horderly : service.Orderly events)
    (rest : List Event) : (service.popped rest).Orderly events :=
  ⟨horderly.sound, horderly.regular, horderly.announces, horderly.holdings, horderly.alternates⟩

theorem Steady.popped {events : List Event} (hsteady : service.Steady events)
    (rest : List Event) : (service.popped rest).Steady events :=
  fun path modem hmodem hquiet interface =>
    have hat := hsteady path modem hmodem hquiet interface
    ⟨hat.watched, hat.attached, hat.fields⟩

theorem Running.outbox_next (hrunning : service.Running) :
    service.next.daemon.outbox = service.daemon.outbox.tail := by
  cases hwaits : service.daemon.outbox with
  | nil => rw [next_of_nil hwaits, hwaits, List.tail_nil]
  | cons event rest =>
    rw [next_of_cons hwaits]
    exact (sameBus_process (hrunning.orderly.popped rest).sound event).outbox

theorem Running.next (hrunning : service.Running) : service.next.Running := by
  cases hwaits : service.daemon.outbox with
  | nil =>
    rw [next_of_nil hwaits]
    exact hrunning
  | cons event rest =>
    have horderly := hrunning.orderly.popped rest
    have hsame := sameBus_process horderly.sound event
    have houtbox := hrunning.outbox_next
    rw [hwaits, List.tail_cons] at houtbox
    refine ⟨?_, ?_⟩
    · rw [next_of_cons hwaits]
      exact hsame.connected.trans hrunning.connected
    · rw [houtbox, next_of_cons hwaits]
      rw [hwaits] at horderly
      exact horderly.process

theorem Running.steady_next (hrunning : service.Running)
    (hsteady : service.Steady service.daemon.outbox) (hclean : service.TakesCleanly) :
    service.next.Steady service.next.daemon.outbox := by
  cases hwaits : service.daemon.outbox with
  | nil =>
    rw [next_of_nil hwaits]
    exact hsteady
  | cons event rest =>
    have houtbox := hrunning.outbox_next
    rw [hwaits, List.tail_cons] at houtbox
    have hbefore := hsteady.popped rest
    have horderly := hrunning.orderly.popped rest
    rw [hwaits] at hbefore horderly
    unfold TakesCleanly at hclean
    rw [houtbox, next_of_cons hwaits] at hclean
    rw [houtbox, next_of_cons hwaits]
    exact hbefore.process horderly hclean

/-! ### Whole runs -/

theorem Running.keeps_beat (hrunning : service.Running) (beat : Beat) :
    (service.beat beat).Running ∧
      (service.Steady service.daemon.outbox → (beat = .next → service.TakesCleanly) →
        (service.beat beat).Steady (service.beat beat).daemon.outbox) := by
  have hkeeps : ∀ after, service.Keeps after → after.Running ∧
      (service.Steady service.daemon.outbox → (beat = .next → service.TakesCleanly) →
        after.Steady after.daemon.outbox) := fun after hafter =>
    ⟨hafter.running, fun hsteady _ => hafter.steady hsteady⟩
  rcases service.beat_cases beat with rfl | rfl | hedits
  · exact ⟨hrunning.next, fun hsteady hclean => hrunning.steady_next hsteady (hclean rfl)⟩
  · exact hkeeps _ hrunning.keeps_flush
  · exact hkeeps _ (hrunning.keeps_edits hedits)

theorem Running.play (hrunning : service.Running) (beats : List Beat) :
    (service.play beats).Running := by
  induction beats generalizing service with
  | nil => exact hrunning
  | cons beat rest ih => exact ih (hrunning.keeps_beat beat).1

theorem Running.steady_play (hrunning : service.Running)
    (hsteady : service.Steady service.daemon.outbox) {beats : List Beat}
    (hclean : service.Clean beats) :
    (service.play beats).Steady (service.play beats).daemon.outbox := by
  induction beats generalizing service with
  | nil => exact hsteady
  | cons beat rest ih =>
    obtain ⟨hafter, hkept⟩ := hrunning.keeps_beat beat
    exact ih hafter (hkept hsteady hclean.1) hclean.2

/-- When no event waits, a steady service is coherent. -/
theorem Running.coherent (hrunning : service.Running)
    (hsteady : service.Steady service.daemon.outbox) (hdone : service.daemon.outbox = []) :
    service.Coherent := by
  have horderly := hrunning.orderly
  rw [hdone] at hsteady horderly
  have hquiet : ∀ path, Quiet path [] := fun _ _ hmem => absurd hmem List.not_mem_nil
  have hlasts : ∀ path interface, Lasts path interface [] := fun _ _ _ hmem =>
    absurd hmem List.not_mem_nil
  have hholding : ∀ path entry, service.board.entry? path = some entry →
      ∀ i, service.holding? path i = some (entry.holding i) := fun path entry hentry i =>
    congrArg (Option.map (Entry.holding · i)) hentry
  refine ⟨fun path => ?_, fun path entry modem hentry hmodem interface htracked => ?_,
    fun path entry modem hentry hmodem interface hattached name => ?_⟩
  · have halternates : (service.holding? path .modem).isSome = _ := horderly.alternates path
    rw [← halternates, holding?, Option.isSome_map]
    rfl
  · have hat := hsteady path modem hmodem (hquiet path)
    have hregular := horderly.regular path modem hmodem
    have hshown := (hat .modem).fields _ (hholding path entry hentry .modem) (hlasts path .modem) rfl
      "Interfaces"
    rw [shown_interfaces hregular] at hshown
    have hoffered : entry.modem.state.interfaces = .ofList modem.interfaces := by
      simpa [lastChange, changesOf, Entry.holding, Entry.field, Modem.State.field] using hshown
    have hordered := horderly.holdings path interface _ (hholding path entry hentry interface)
    rw [modem.offers_eq_has htracked, ← hoffered, Bool.eq_iff_iff]
    exact ⟨fun hattached => hordered.offered htracked hattached, fun hhas =>
      (hat interface).attached _ (hholding path entry hentry interface) (hlasts path interface) hhas
        htracked⟩
  · exact (hsteady path modem hmodem (hquiet path) interface).fields _
      (hholding path entry hentry interface) (hlasts path interface) hattached name

/-! ### Catching up -/

theorem outbox_play_next (hrunning : service.Running) (count : Nat) :
    (service.play (.replicate count .next)).daemon.outbox = service.daemon.outbox.drop count := by
  induction count generalizing service with
  | zero => rfl
  | succ count ih =>
    rw [List.replicate_succ, ← List.drop_tail, ← hrunning.outbox_next]
    exact ih hrunning.next

theorem outbox_caughtUp (hrunning : service.Running) : service.caughtUp.daemon.outbox = [] :=
  (outbox_play_next hrunning _).trans List.drop_length

theorem modem?_next (hrunning : service.Running) (path : ModemPath) :
    service.next.daemon.modem? path = service.daemon.modem? path := by
  cases hwaits : service.daemon.outbox with
  | nil => rw [next_of_nil hwaits]
  | cons event rest =>
    rw [next_of_cons hwaits]
    exact (sameBus_process (hrunning.orderly.popped rest).sound event).modem? path

theorem modem?_play_next (hrunning : service.Running) (count : Nat) (path : ModemPath) :
    (service.play (.replicate count .next)).daemon.modem? path = service.daemon.modem? path := by
  induction count generalizing service with
  | zero => rfl
  | succ count ih => exact (ih hrunning.next).trans (modem?_next hrunning path)

theorem caughtUp_of_cons (hrunning : service.Running) {event : Event} {rest : List Event}
    (hwaits : service.daemon.outbox = event :: rest) : service.caughtUp = service.next.caughtUp := by
  unfold caughtUp
  rw [hrunning.outbox_next, hwaits, List.tail_cons, List.length_cons, List.replicate_succ]
  rfl

/-- What is attached and lasts keeps every field until an event changes it. -/
theorem field_process {event : Event} {rest : List Event}
    (horderly : service.Orderly (event :: rest)) {holding : Holding}
    (hholding : service.holding? path interface = some holding) (hattached : holding.attached = true)
    (hlasts : Lasts path interface (event :: rest)) :
    ∃ after, (service.process event).holding? path interface = some after ∧
      after.attached = true ∧ ∀ name,
        (lastChange interface name (changesOf path rest) <|> after.field name) =
          (lastChange interface name (changesOf path (event :: rest)) <|> holding.field name) := by
  cases horderly.takes path interface with
  | elsewhere hpath hsame hwatched =>
    refine ⟨holding, hsame.trans hholding, hattached, fun name => ?_⟩
    rw [changesOf_cons_elsewhere hpath]
  | keeps hbefore hattached hkept hafter hwatched =>
    rw [hholding] at hbefore
    cases hbefore
    refine ⟨_, hafter, rfl, fun name => ?_⟩
    rw [changesOf_cons_changed, lastChange_cons_orElse]
  | leaves hafter => exact absurd (.inl rfl) (hlasts _ List.mem_cons_self)
  | withdraws hbefore hwithdraws hafter =>
    exact absurd (.inr ⟨_, rfl, hwithdraws⟩) (hlasts _ List.mem_cons_self)
  | comes hbefore | comesWithout hbefore | misses hbefore =>
    rw [hholding] at hbefore
    cases hbefore
  | attaches hbefore hnone | remains htracked hbefore hnone =>
    rw [hholding] at hbefore
    cases hbefore
    rw [hattached] at hnone
    cases hnone

/-- Of what is attached and lasts, catching up shows the last events that wait. -/
theorem field_caughtUp (hrunning : service.Running) {holding : Holding}
    (hholding : service.holding? path interface = some holding) (hattached : holding.attached = true)
    (hlasts : Lasts path interface service.daemon.outbox) :
    ∃ after, service.caughtUp.holding? path interface = some after ∧ after.attached = true ∧
      ∀ name, after.field name =
        (lastChange interface name (changesOf path service.daemon.outbox) <|>
          holding.field name) := by
  generalize hevents : service.daemon.outbox = events at hlasts ⊢
  induction events generalizing service holding with
  | nil =>
    have hsame : service.caughtUp = service := by
      unfold caughtUp
      rw [hevents]
      rfl
    rw [hsame]
    exact ⟨holding, hholding, hattached, fun _ => rfl⟩
  | cons event rest ih =>
    have hpopped := hrunning.orderly.popped rest
    rw [hevents] at hpopped
    have hthere : (service.popped rest).holding? path interface = some holding := hholding
    obtain ⟨after, hafter, hstill, hfields⟩ := field_process hpopped hthere hattached hlasts
    rw [← next_of_cons hevents] at hafter
    have houtbox := hrunning.outbox_next
    rw [hevents, List.tail_cons] at houtbox
    obtain ⟨final, hfinal, hyes, hfield⟩ := ih hrunning.next hafter hstill houtbox
      fun other hother => hlasts other (.tail _ hother)
    rw [caughtUp_of_cons hrunning hevents]
    exact ⟨final, hfinal, hyes, fun name => (hfield name).trans (hfields name)⟩

/-- After an event that was not taken in cleanly the service catches up with what is not on the
bus. -/
theorem Running.not_coherent_caughtUp (hrunning : service.Running)
    (hunclean : ¬ service.TakesCleanly) : ¬ service.caughtUp.Coherent := by
  simp only [TakesCleanly, not_forall, not_not] at hunclean
  obtain ⟨path, interface, hbefore, hattached, hlasts, name, change, hlast, hother⟩ := hunclean
  cases hwaits : service.daemon.outbox with
  | nil =>
    rw [next_of_nil hwaits] at hattached
    exact absurd hattached hbefore
  | cons event rest =>
    rw [caughtUp_of_cons hrunning hwaits]
    intro hcoherent
    obtain ⟨holding, hholding, hyes⟩ := attached_iff.1 hattached
    obtain ⟨final, hfinal, hstill, hfield⟩ :=
      field_caughtUp hrunning.next hholding hyes hlasts
    obtain ⟨entry, hentry, rfl⟩ := Option.map_eq_some_iff.1 hfinal
    have hbus : service.next.caughtUp.daemon.modem? path = service.next.daemon.modem? path :=
      modem?_play_next hrunning.next _ path
    have hknown : (service.next.caughtUp.daemon.modem? path).isSome = true := by
      rw [← hcoherent.modems path]
      unfold Switchboard.knows Table.contains
      rw [show Table.get? service.next.caughtUp.board.modems path = some entry from hentry]
      rfl
    obtain ⟨modem, hmodem⟩ := Option.isSome_iff_exists.1 hknown
    have hshown := hcoherent.fields path entry modem hentry hmodem interface hstill name
    rw [show entry.field interface name = _ from hfield name, hlast] at hshown
    exact hother modem (hbus.symm.trans hmodem) hshown.symm

end Service

end Telephony

import Telephony.Proofs.Coherence.Runs

/-!
# Coherence of started services

A service that is started on a bus of any history takes in the modems that are there, and is in order
and steady from then on. So its cache is coherent whenever no event waits, as long as every event is
taken in cleanly, and only so long.
-/

namespace Telephony

open Simulator (SimulatedModem)

namespace Service

variable {service : Service Simulator} {path : ModemPath}

/-! ### Before the start -/

/-- A service that has not been started, on a bus that has been scripted. -/
structure Unstarted (service : Service Simulator) : Prop where
  stopped : service.running = false
  unknown : ∀ path, service.board.entry? path = none
  unconnected : service.daemon.connected = false
  silent : service.daemon.outbox = []
  sound : service.daemon.failing = []
  regular : ∀ path modem, service.daemon.modem? path = some modem → modem.Regular

theorem Unstarted.scripts (hunstarted : service.Unstarted) {after : Simulator}
    {sent : List Event} (hscripts : service.daemon.Scripts after path sent)
    (hregular : ∀ modem, after.modem? path = some modem → modem.Regular) :
    ({ service with daemon := after } : Service Simulator).Unstarted where
  stopped := hunstarted.stopped
  unknown := hunstarted.unknown
  unconnected := hscripts.connected.trans hunstarted.unconnected
  silent := by
    change after.outbox = []
    rw [hscripts.outbox, hunstarted.silent, hunstarted.unconnected]
    rfl
  sound := hscripts.failing.trans hunstarted.sound
  regular := fun other modem hmodem => by
    by_cases hpath : path = other
    · exact hregular modem (hpath ▸ hmodem)
    · exact hunstarted.regular other modem ((hscripts.modems other hpath).symm.trans hmodem)

theorem Unstarted.flush (hunstarted : service.Unstarted) : service.flush.Unstarted := by
  have hdaemon := service.daemon_flush
  obtain ⟨heard, roster, hflush⟩ := service.flush_eq
  constructor
  · rw [hflush]
    exact hunstarted.stopped
  · intro path
    have hnone := service.holding?_flush path .modem
    simpa [holding?, hunstarted.unknown path] using hnone
  all_goals rw [hdaemon]
  · exact hunstarted.unconnected
  · exact hunstarted.silent
  · exact hunstarted.sound
  · exact hunstarted.regular

theorem Unstarted.edits (hunstarted : service.Unstarted) {next : Service Simulator}
    (hedits : service.Edits next) : next.Unstarted := by
  cases hedits with
  | skips => exact hunstarted
  | adds hgone hnew hscripts =>
    apply hunstarted.scripts hscripts
    intro modem hmodem
    rw [hnew] at hmodem
    cases hmodem
    exact SimulatedModem.regular_new _
  | removes hthere hgone hscripts =>
    apply hunstarted.scripts hscripts
    intro modem hmodem
    rw [hgone] at hmodem
    cases hmodem
  | offers hold hnew hscripts hwatched =>
    apply hunstarted.scripts hscripts
    intro modem hmodem
    rw [hnew] at hmodem
    cases hmodem
    exact (hunstarted.regular _ _ hold).offering _
  | stores hold hdecode hother hnew hscripts hwatched =>
    apply hunstarted.scripts hscripts
    intro modem hmodem
    rw [hnew] at hmodem
    cases hmodem
    exact (hunstarted.regular _ _ hold).store hdecode hother

theorem Unstarted.beat (hunstarted : service.Unstarted) (beat : Beat) :
    (service.beat beat).Unstarted := by
  rcases service.beat_cases beat with rfl | rfl | hedits
  · simp only [Service.beat, next_of_nil hunstarted.silent]
    exact hunstarted
  · exact hunstarted.flush
  · exact hunstarted.edits hedits

/-- A stopped service on a bus that has a history. -/
def scriptedFrom (script : List Beat) : Service Simulator :=
  (Service.stopped Simulator.empty).play script

theorem unstarted_scriptedFrom (script : List Beat) : (scriptedFrom script).Unstarted := by
  have hfrom : ∀ (service : Service Simulator), service.Unstarted →
      (service.play script).Unstarted := by
    induction script with
    | nil => exact fun service hunstarted => hunstarted
    | cons beat rest ih => exact fun service hunstarted => ih _ (hunstarted.beat beat)
  exact hfrom _ ⟨rfl, fun _ => rfl, rfl, rfl, rfl, nofun⟩

/-! ### The start -/

/-- The modems that are there when the service starts are told as if they had just come. -/
def arrivals (sim : Simulator) : List Event :=
  sim.modems.entries.map fun (path, modem) => .modemAdded path (modem.decoded .modem)

theorem alternates_arrivals (path : ModemPath) (entries : List (ModemPath × SimulatedModem))
    (hnodup : (entries.map (·.1)).Nodup) :
    Alternates path false
      (entries.map fun (path, modem) => .modemAdded path (modem.decoded .modem))
      (Table.lookup path entries).isSome := by
  induction entries with
  | nil => rfl
  | cons entry rest ih =>
    obtain ⟨first, modem⟩ := entry
    obtain ⟨hnot, hrest⟩ := List.nodup_cons.1 hnodup
    rw [List.map_cons, Table.lookup]
    by_cases hpath : first = path
    · subst hpath
      rw [if_pos rfl]
      refine Alternates.cons_added.2 ⟨rfl, .elsewhere (fun event hmem hsame => hnot ?_) true⟩
      obtain ⟨other, hother, rfl⟩ := List.mem_map.1 hmem
      exact List.mem_map.2 ⟨other, hother, hsame⟩
    · have helsewhere : (Event.modemAdded first (modem.decoded .modem)).path ≠ path := hpath
      rw [if_neg hpath]
      exact (Alternates.cons_elsewhere helsewhere).2 (ih hrest)

/-- The bus as it is when the service begins to listen. -/
def connected (service : Service Simulator) : Service Simulator :=
  { service with
    daemon := { service.daemon with connected := true, outbox := [], watched := [] } }

theorem start_eq (hunstarted : service.Unstarted) :
    service.start.2 =
      { ((arrivals service.daemon).foldl process service.connected).flush with running := true } := by
  have hstart : service.start = (.ok (), { ((service.daemon.modems.entries.map
      fun entry => (entry.1, entry.2.decoded .modem)).foldl (fun service arrival =>
        service.process (.modemAdded arrival.1 arrival.2)) service.connected).flush with
          running := true }) := by
    unfold start
    rw [if_neg (by rw [hunstarted.stopped]; exact Bool.false_ne_true)]
    rfl
  rw [hstart]
  simp only [arrivals, List.foldl_map]

theorem orderly_connected (hunstarted : service.Unstarted) :
    service.connected.Orderly (arrivals service.daemon) where
  sound := hunstarted.sound
  regular := hunstarted.regular
  announces := fun path properties hmem => by
    obtain ⟨⟨other, modem⟩, hentry, hsame⟩ := List.mem_map.1 hmem
    cases hsame
    exact ⟨_, (hunstarted.regular _ modem (Table.get?_eq_some_iff.2 hentry)).announces⟩
  holdings := fun path interface holding hholding => by
    have hnone : service.connected.holding? path interface = none := by
      unfold holding?
      exact congrArg _ (hunstarted.unknown path)
    rw [hnone] at hholding
    cases hholding
  alternates := fun path => by
    have hnone : service.connected.holding? path .modem = none := by
      unfold holding?
      exact congrArg _ (hunstarted.unknown path)
    rw [hnone]
    exact alternates_arrivals path service.daemon.modems.entries service.daemon.modems.keys_nodup

theorem steady_connected (hunstarted : service.Unstarted) (events : List Event) :
    service.connected.Steady events := by
  intro path modem _ _ interface
  refine steadyAt_of_unknown ?_
  unfold holding?
  exact congrArg _ (hunstarted.unknown path)

/-- Where modems only arrive, nothing is stale. -/
theorem arrive {events : List Event} (horderly : service.Orderly events)
    (hsteady : service.Steady events)
    (harrive : ∀ event ∈ events, ∃ path properties, event = .modemAdded path properties) :
    (events.foldl process service).Orderly [] ∧ (events.foldl process service).Steady [] ∧
      service.daemon.SameBus (events.foldl process service).daemon := by
  induction events generalizing service with
  | nil => exact ⟨horderly, hsteady, .refl _⟩
  | cons event rest ih =>
    have hrest := fun other hother => harrive other (.tail event hother)
    have hclean : ∀ path interface, ¬ service.Attached path interface →
        (service.process event).Attached path interface →
          ¬ (service.process event).Stale rest path interface := by
      rintro path interface - - ⟨-, name, change, hlast, -⟩
      obtain ⟨other, properties, hsame⟩ := hrest _ (mem_changesOf_iff.1 (mem_of_lastChange hlast))
      cases hsame
    obtain ⟨hlastly, hsteadily, hsame⟩ :=
      ih horderly.process (hsteady.process horderly hclean) hrest
    exact ⟨hlastly, hsteadily, (sameBus_process horderly.sound event).trans hsame⟩

theorem running_start (hunstarted : service.Unstarted) :
    service.start.2.Running ∧ service.start.2.Steady service.start.2.daemon.outbox := by
  have harrive : ∀ event ∈ arrivals service.daemon,
      ∃ path properties, event = .modemAdded path properties := by
    intro event hmem
    obtain ⟨entry, -, rfl⟩ := List.mem_map.1 hmem
    exact ⟨_, _, rfl⟩
  obtain ⟨horderly, hsteady, hsame⟩ := arrive (orderly_connected hunstarted)
    (steady_connected hunstarted _) harrive
  have hrunning : ((arrivals service.daemon).foldl process service.connected).Running := by
    refine ⟨hsame.connected, ?_⟩
    rw [hsame.outbox]
    exact horderly
  obtain ⟨⟨hconnected, hordered⟩, hsteadies⟩ := hrunning.keeps_flush
  have hsilent : ((arrivals service.daemon).foldl process service.connected).daemon.outbox = [] :=
    hsame.outbox
  rw [hsilent] at hsteadies
  rw [start_eq hunstarted]
  exact ⟨⟨hconnected, hordered.of_holdings rfl fun _ _ => rfl⟩,
    (hsteadies hsteady).of_holdings rfl fun _ _ => rfl⟩

/-! ### Coherence -/

/-- The last event that waits is taken in cleanly, whatever it is. -/
theorem takesCleanly_of_last (hlast : service.next.daemon.outbox = []) : service.TakesCleanly := by
  rintro path interface - - ⟨-, name, change, hchange, -⟩
  rw [hlast] at hchange
  cases hchange

/-- Whenever no event waits the cache is coherent, if every event so far was taken in cleanly; and
after one that is not, the service catches up with what the bus does not have. -/
theorem coherent_exactly_when_clean (script beats : List Beat) :
    let started := (scriptedFrom script).start.2
    let service := started.play beats
    (started.Clean beats → service.daemon.outbox = [] → service.Coherent) ∧
      (¬ service.TakesCleanly →
        service.caughtUp.daemon.outbox = [] ∧ ¬ service.caughtUp.Coherent) := by
  intro started service
  obtain ⟨hrunning, hsteady⟩ := running_start (unstarted_scriptedFrom script)
  have hafter : service.Running := hrunning.play beats
  refine ⟨fun hclean hdone => ?_, fun hunclean => ?_⟩
  · exact hafter.coherent (hrunning.steady_play hsteady hclean) hdone
  · exact ⟨outbox_caughtUp hafter, hafter.not_coherent_caughtUp hunclean⟩

/-- A SIM interface that goes and comes again while the loop is behind. When the loop has noticed
that it went, the provider's name changes once more, and no event tells of it. -/
def reattachment : List Beat :=
  [.setInterfaces ⟨"/m"⟩ [], .setInterfaces ⟨"/m"⟩ [.simManager],
    .update ⟨"/m"⟩ .simManager "ServiceProviderName" (.text "old"), .next,
    .update ⟨"/m"⟩ .simManager "ServiceProviderName" (.text "new")]

/-- The service of one modem with a SIM, just started. -/
def startedWithSim : Service Simulator :=
  (scriptedFrom [.addModem ⟨"/m"⟩ [.simManager]]).start.2

theorem coherent_exactly_when_clean_reattached :
    (startedWithSim.play [.setInterfaces ⟨"/m"⟩ [], .next]).Coherent ∧
      (startedWithSim.play reattachment).caughtUp.daemon.outbox = [] ∧
      ¬ (startedWithSim.play reattachment).caughtUp.Coherent := by
  have hclean : startedWithSim.Clean [.setInterfaces ⟨"/m"⟩ [], .next] := by
    refine ⟨nofun, fun _ => ?_, trivial⟩
    exact takesCleanly_of_last (by decide +kernel)
  have hunclean : ¬ (startedWithSim.play reattachment).TakesCleanly := by
    intro hclean
    have hbefore : ¬ (startedWithSim.play reattachment).Attached ⟨"/m"⟩ .simManager := by
      rintro ⟨entry, hentry, hattached⟩
      have hgone : ((startedWithSim.play reattachment).board.entry? ⟨"/m"⟩).map
          (·.attached .simManager) = some false := by decide +kernel
      rw [hentry, Option.map_some, hattached] at hgone
      cases hgone
    have hafter : ((startedWithSim.play reattachment).next.board.entry? ⟨"/m"⟩).map
        (·.attached .simManager) = some true := by decide +kernel
    have hwaits : (startedWithSim.play reattachment).next.daemon.outbox =
        [.propertyChanged ⟨"/m"⟩ (.sim (.serviceProviderName "old"))] := by decide +kernel
    have hbus : ((startedWithSim.play reattachment).next.daemon.modem? ⟨"/m"⟩).map
        (·.shown .simManager "ServiceProviderName") =
          some (some (.sim (.serviceProviderName "new"))) := by decide +kernel
    refine hclean ⟨"/m"⟩ .simManager hbefore (Option.map_eq_some_iff.1 hafter)
      ⟨fun event hmem hends => ?_, "ServiceProviderName", .sim (.serviceProviderName "old"), ?_,
        fun modem hmodem hshown => ?_⟩
    · rw [hwaits] at hmem
      cases List.mem_singleton.1 hmem
      rcases hends with hremoved | ⟨change, hsame, -, current, hinterfaces, -⟩
      · cases hremoved
      · cases hsame
        cases hinterfaces
    · rw [hwaits]
      rfl
    · rw [hmodem, Option.map_some, hshown] at hbus
      exact absurd hbus (by decide)
  exact ⟨(coherent_exactly_when_clean [.addModem ⟨"/m"⟩ [.simManager]] _).1 hclean
      (by decide +kernel),
    (coherent_exactly_when_clean [.addModem ⟨"/m"⟩ [.simManager]] reattachment).2 hunclean⟩

/-- The cache is not coherent whenever no event waits: the event with the old name is taken in after
the new one has been fetched. -/
theorem not_always_coherent :
    ¬ ∀ script beats : List Beat, ((scriptedFrom script).start.2.play beats).daemon.outbox = [] →
      ((scriptedFrom script).start.2.play beats).Coherent := by
  intro halways
  have hcoherent := halways [.addModem ⟨"/m"⟩ [.simManager]] (reattachment ++ [.next, .next])
    (by decide +kernel)
  have hcache : ((startedWithSim.play (reattachment ++ [.next, .next])).board.entry? ⟨"/m"⟩).map
      (fun entry => (entry.attached .simManager, entry.field .simManager "ServiceProviderName")) =
        some (true, some (.sim (.serviceProviderName "old"))) := by decide +kernel
  have hbus : ((startedWithSim.play (reattachment ++ [.next, .next])).daemon.modem? ⟨"/m"⟩).map
      (·.shown .simManager "ServiceProviderName") =
        some (some (.sim (.serviceProviderName "new"))) := by decide +kernel
  obtain ⟨entry, hentry, hheld⟩ := Option.map_eq_some_iff.1 hcache
  obtain ⟨modem, hmodem, hshown⟩ := Option.map_eq_some_iff.1 hbus
  obtain ⟨hattached, hfield⟩ := Prod.mk.inj hheld
  have hsame := hcoherent.fields ⟨"/m"⟩ entry modem hentry hmodem .simManager hattached
    "ServiceProviderName"
  rw [hfield, hshown] at hsame
  exact absurd hsame (by decide)

end Service

end Telephony

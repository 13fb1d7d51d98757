import Telephony.Proofs.Coherence.Runs
import Telephony.Proofs.News.Departures

/-!
# Locked SIMs

Whatever a service knows, the bus can bring it to know one modem only, whose SIM waits for its second PUK:
every modem goes, and that modem comes.
-/

namespace Telephony

open Simulator (SimulatedModem)

/-! ### A modem whose SIM is locked -/

/-- A modem whose SIM waits for the second PUK. -/
def lockedModem : SimulatedModem :=
  (SimulatedModem.new [.simManager]).store .simManager "PinRequired" (.text "puk2")

def lockedBus (path : ModemPath) : Simulator := Simulator.empty.putModem path lockedModem

/-- What the bus tells when that modem comes. -/
def lockedArrival (path : ModemPath) : Event :=
  .modemAdded path [.modem (.interfaces (.ofList [.simManager]))]

theorem modem?_lockedBus (path : ModemPath) : (lockedBus path).modem? path = some lockedModem :=
  (Table.get?_insert _ path path lockedModem).trans (if_pos rfl)

theorem regular_lockedModem : lockedModem.Regular :=
  (SimulatedModem.regular_new [.simManager]).store rfl nofun

/-- What a tracker shows of that SIM makes it wait for the second PUK. -/
theorem status_of_shown {sim : Sim.State} (htracked : sim.tracked = true)
    (hshown : sim.field = lockedModem.shown .simManager) : sim.status = .puk2Required := by
  have hpresent : sim.field "Present" = some (.sim (.present true)) := congrFun hshown "Present"
  have hcode : sim.field "PinRequired" = some (.sim (.pinRequired .puk2)) :=
    congrFun hshown "PinRequired"
  obtain ⟨there, hthere, hone⟩ := Option.map_eq_some_iff.1 hpresent
  obtain ⟨code, hcode, htwo⟩ := Option.map_eq_some_iff.1 hcode
  cases hone
  cases htwo
  simp [Sim.State.status, htracked, hthere, hcode]

theorem Switchboard.defaultModem_of_only {board : Switchboard} {path : ModemPath} {entry : Entry}
    (hentry : board.entry? path = some entry)
    (hothers : ∀ other, path ≠ other → board.entry? other = none) :
    board.defaultModem = some path := by
  have hmem : path ∈ board.paths := by
    by_contra hnot
    have hnone : board.entry? path = none := Table.get?_eq_none_iff.2 hnot
    rw [hentry] at hnone
    cases hnone
  have honly : ∀ other ∈ board.paths, path = other := fun other hother => by
    by_contra hne
    exact Table.get?_eq_none_iff.1 (hothers other hne) hother
  unfold defaultModem
  cases hpaths : board.paths with
  | nil =>
    rw [hpaths] at hmem
    cases hmem
  | cons first rest =>
    rw [honly first (hpaths ▸ List.mem_cons_self)]
    rfl

/-- Every modem that the service knows goes. -/
def departures (board : Switchboard) : List Event := board.paths.map Event.modemRemoved

namespace Service

variable {service : Service Simulator} {path : ModemPath}

/-- Removing modems one by one leaves none of them. -/
theorem clear_spec (hsound : service.daemon.failing = []) (paths : List ModemPath) :
    service.daemon.SameBus ((paths.map Event.modemRemoved).foldl process service).daemon ∧
      ∀ path, path ∈ paths ∨ service.holding? path .modem = none →
        ((paths.map Event.modemRemoved).foldl process service).holding? path .modem = none := by
  induction paths generalizing service with
  | nil => exact ⟨.refl _, fun path hpath => hpath.resolve_left List.not_mem_nil⟩
  | cons first rest ih =>
    have hsame := sameBus_process hsound (.modemRemoved first)
    obtain ⟨hsames, hgone⟩ := ih (hsame.failing.trans hsound)
    refine ⟨hsame.trans hsames, fun path hpath => hgone path ?_⟩
    by_cases hfirst : first = path
    · subst hfirst
      exact .inr (process_removed hsound)
    · have helsewhere : (Event.modemRemoved first).path ≠ path := hfirst
      refine hpath.imp (fun hmem => (List.mem_cons.1 hmem).resolve_left (Ne.symm hfirst))
        fun hnone => ?_
      exact (process_elsewhere hsound helsewhere).1.trans hnone

/-- Of an attached SIM with those properties the board knows that it waits. -/
theorem sim?_of_follows (hlive : service.board.Every Entry.Live) {offered : InterfaceSet}
    (hfollows : service.Follows path .simManager lockedModem offered) :
    ∃ sim, service.board.sim? path = some sim ∧ sim.status = .puk2Required := by
  obtain ⟨entry, hentry, hholding⟩ := Option.map_eq_some_iff.1 hfollows.holding
  have hattached : entry.sim.isSome = true := congrArg Holding.attached hholding
  obtain ⟨sim, hsim⟩ := Option.isSome_iff_exists.1 hattached
  have hfield := congrArg Holding.field hholding
  have htracked := (Entry.live_iff.1 (hlive path entry hentry)).2.1 sim hsim
  refine ⟨sim.tracker.state, ?_, status_of_shown htracked ?_⟩
  · simp [Switchboard.sim?, hentry, hsim]
  · refine Eq.trans (funext fun name => ?_) hfield
    simp [Entry.holding, Entry.field, hsim]

/-- A service that knows no modem comes to know the one that arrives, and that its SIM waits. -/
theorem locked_of_arrival (hsound : service.daemon.failing = [])
    (hempty : ∀ other, service.holding? other .modem = none)
    (hmodem : service.daemon.modem? path = some lockedModem) :
    (service.process (lockedArrival path)).board.defaultModem = some path ∧
      ∃ sim, (service.process (lockedArrival path)).board.sim? path = some sim ∧
        sim.status = .puk2Required := by
  have hannounces : Announces [.modem (.interfaces (.ofList [.simManager]))]
      (.ofList [.simManager]) := ⟨[], [], rfl, nofun⟩
  obtain ⟨hthere, hoffers⟩ :=
    process_added hsound (hempty path) hannounces hmodem regular_lockedModem
  obtain ⟨entry, hentry, -⟩ := Option.map_eq_some_iff.1 hthere.holding
  have hothers : ∀ other, path ≠ other →
      Switchboard.entry? (service.process (lockedArrival path)).board other = none := by
    intro other hne
    have helsewhere : (lockedArrival path).path ≠ other := hne
    exact Option.map_eq_none_iff.1
      ((process_elsewhere hsound helsewhere).1.trans (hempty other))
  have hlive : service.board.Every Entry.Live := fun other entry hentry => by
    rw [Option.map_eq_none_iff.1 (hempty other)] at hentry
    cases hentry
  refine ⟨Switchboard.defaultModem_of_only hentry hothers, ?_⟩
  exact sim?_of_follows ((service.leads_process _).every Entry.lasting_live hlive)
    ((hoffers .simManager nofun).1 (by decide +kernel))

/-- Once every modem has gone the service knows none, and may come to know the one whose SIM is
locked. -/
theorem departed_spec (service : Service Simulator) (path : ModemPath) :
    let departed := (departures service.board).foldl process
      { service with daemon := lockedBus path }
    departed.daemon.failing = [] ∧ departed.daemon.modem? path = some lockedModem ∧
      ∀ other, departed.holding? other .modem = none := by
  let before : Service Simulator := { service with daemon := lockedBus path }
  have hsound : before.daemon.failing = [] := rfl
  obtain ⟨hsame, hgone⟩ := clear_spec hsound service.board.paths
  refine ⟨hsame.failing, (hsame.modem? path).trans (modem?_lockedBus path), fun other => ?_⟩
  apply hgone other
  by_cases hmem : other ∈ service.board.paths
  · exact .inl hmem
  · exact .inr (Option.map_eq_none_iff.2 (Table.get?_eq_none_iff.2 hmem))

end Service

end Telephony

import Telephony.Proofs.Subscriptions.Turnover

/-!
# The upkeep of subscriptions

Whatever events are taken in, and however the daemon answers meanwhile, after each of them the
subscriptions that stand are those of the attached interfaces that were not lost, and of the modems
themselves where the daemon granted them. When the board is cleared none is left. An interface is
lost if the daemon refused it something by the last event that asked about it: it is attached then
only if it was asked for more than once, for which a list of properties has to set the interfaces
more than once.
-/

namespace Telephony

namespace Switchboard

theorem attached_modem (board : Switchboard) (path : ModemPath) :
    board.attached path .modem = board.knows path := by
  unfold knows Table.contains
  cases hentry : board.entry? path with
  | none =>
    rw [attached_of_unknown hentry, show board.modems.get? path = none from hentry]
    rfl
  | some entry =>
    rw [attached_of_entry hentry, show board.modems.get? path = some entry from hentry]
    rfl

theorem effects_addModem (board : Switchboard) (path : ModemPath)
    (properties : List Change) :
    (board.addModem path properties).2.effects =
      (if board.knows path then [] else [.watch path .modem]) ++
        (((board.entry? path).getD .new).changeAll board.observers path properties).2.effects := by
  simp only [addModem, Outcome.effects_append]
  split <;> rfl

theorem lookup_clear (board : Switchboard) (path : ModemPath) :
    Switchboard.entry? board.clear.1 path = none := by
  have hlisted : board.entry? path = none ∨ path ∈ board.paths := by
    by_cases hmem : path ∈ board.paths
    · exact .inr hmem
    · exact .inl (Table.get?_eq_none_iff.2 hmem)
  unfold clear
  generalize (∅ : Outcome) = outcome
  generalize board.paths = paths at hlisted ⊢
  induction paths generalizing board outcome with
  | nil => exact hlisted.resolve_right List.not_mem_nil
  | cons first rest ih =>
    refine ih (board.removeModem first).1 _ ?_
    have hlookup := lookup_removeModem board first path
    by_cases hfirst : first = path
    · exact .inl (hlookup.trans (if_pos hfirst))
    · refine hlisted.imp (fun hnone => ?_) fun hmem => ?_
      · exact (hlookup.trans (if_neg hfirst)).trans hnone
      · exact (List.mem_cons.1 hmem).resolve_left (Ne.symm hfirst)

end Switchboard

/-- The properties that come with a modem set its interfaces once at most. -/
def Event.SetsOnce : Event → Prop
  | .modemAdded _ properties => Telephony.SetsOnce properties
  | _ => True

/-- What is heard over the bus sets the interfaces once at most, as a table of properties has each
name once. -/
theorem Link.setsOnce_of_mem_eventsOf {π : Type} {link : Link π} {signal : Wire.Signal}
    {event : Event} (hmem : event ∈ link.eventsOf signal) : event.SetsOnce := by
  unfold eventsOf at hmem
  split at hmem
  · cases signal with
    | modemAdded object properties =>
      rw [List.eq_of_mem_replicate hmem]
      exact setsOnce_decodeAll .modem properties.keys_nodup
    | modemRemoved object =>
      rw [List.eq_of_mem_replicate hmem]
      trivial
    | propertyChanged object name property value =>
      dsimp only at hmem
      split at hmem
      · cases hmem
      · split at hmem
        · obtain ⟨change, -, rfl⟩ := Option.map_eq_some_iff.1 (Option.mem_toList.1 hmem)
          trivial
        · cases hmem
  · cases hmem

namespace Service

open Recorded (Standing LastGranted Untouched Refused)

variable {δ : Type} {service : Service (Recorded δ)} {once : Prop}
  {lost : ModemPath → Interface → Prop}

/-- What is attached is on offer, and the subscriptions that stand are those that are wanted. -/
structure Kept (service : Service (Recorded δ)) (once : Prop)
    (lost : ModemPath → Interface → Prop) : Prop where
  anchored : service.board.Every Entry.Anchored
  standing : ∀ path interface, Standing service.daemon.record path interface ↔
    service.Wants path interface (lost path interface)
  once : once → ∀ path interface, interface ≠ .modem →
    service.board.attached path interface = true → ¬ lost path interface

theorem Kept.tending (hkept : service.Kept once lost) :
    service.Tending ⟨service.daemon.record, lost, once⟩ [] where
  anchored := hkept.anchored
  grown := List.prefix_refl _
  tends path interface := by
    refine .settled ?_ fun hone htracked hattached hloses => ?_
    · rw [hkept.standing, Wants, Wants, Outset.loses_self]
    · exact hkept.once hone path interface htracked hattached (Outset.loses_self.1 hloses)

theorem Tending.kept {outset : Outset} (htending : service.Tending outset []) :
    service.Kept outset.once (outset.Loses service.daemon.record) where
  anchored := htending.anchored
  standing path interface := by
    cases htending.tends path interface with
    | settled hstanding _ => exact hstanding
  once hone path interface := by
    cases htending.tends path interface with
    | settled _ honce => exact honce hone

variable [Daemon δ]

section Process

variable (hfaithful : Daemon.Faithful (Recorded δ))

include hfaithful

theorem Kept.tending_added (hkept : service.Kept once lost) (path : ModemPath)
    (properties : List Change)
    (honce : once → SetsOnce properties ∧ Daemon.TellsOnce (Recorded δ)) :
    (service.process (.modemAdded path properties)).Tending
      ⟨service.daemon.record, lost, once⟩ [] := by
  obtain ⟨taken, hdaemon, hboard, hworks⟩ :=
    exists_works_process hfaithful service (.modemAdded path properties)
  have hlookup : ∀ other, taken.board.entry? other = _ := fun other =>
    (congrArg (Switchboard.entry? · other) hboard).trans
      (service.board.lookup_addModem path properties other)
  have hanchored : taken.board.Every Entry.Anchored :=
    (Leads.of_perform (.apply (.modemAdded path properties)) hboard).every Entry.lasting_anchored
      hkept.anchored
  have heffects : (service.board.apply (.modemAdded path properties)).2.effects = _ :=
    service.board.effects_addModem path properties
  have hstart := hkept.anchored.getD_new Entry.lasting_anchored.new path
  have hgathers := (hstart.gathers_changeAll service.board.observers path properties).mark .modem
  rw [heffects] at hworks
  cases hentry : service.board.entry? path with
  | some entry =>
    rw [hentry, Option.getD_some] at hstart hgathers hlookup
    have hknows : service.board.knows path = true :=
      (service.board.attached_modem path).symm.trans (Switchboard.attached_of_entry hentry .modem)
    rw [if_pos hknows, List.nil_append, hentry, Option.getD_some] at hworks
    have hchanged := hkept.tending.changes rfl hentry hgathers (fun hone => (honce hone).1)
      hanchored hdaemon hlookup
    exact hchanged.works hfaithful hworks
  | none =>
    rw [hentry, Option.getD_none] at hstart hgathers hlookup
    have hknows : service.board.knows path = false :=
      (service.board.attached_modem path).symm.trans (Switchboard.attached_of_unknown hentry .modem)
    rw [if_neg (by rw [hknows]; exact Bool.false_ne_true), List.singleton_append, hentry,
      Option.getD_none] at hworks
    cases hworks with
    | step hrest =>
      have harrived := hkept.tending.arrival rfl hentry hdaemon hlookup hgathers
        (fun hone => (honce hone).1) hanchored
        fun hone => setsOnce_fetch (honce hone).2 taken path .modem
      exact harrived.works hfaithful hrest

theorem Kept.tending_removed (hkept : service.Kept once lost) (path : ModemPath) :
    (service.process (.modemRemoved path)).Tending ⟨service.daemon.record, lost, once⟩ [] := by
  obtain ⟨taken, hdaemon, hboard, hworks⟩ :=
    exists_works_process hfaithful service (.modemRemoved path)
  have hremoved := hkept.tending.removeModem nofun path
  exact (hremoved.of_same hdaemon hboard).works hfaithful hworks

theorem Kept.tending_changed (hkept : service.Kept once lost) (path : ModemPath)
    (change : Change) :
    (service.process (.propertyChanged path change)).Tending
      ⟨service.daemon.record, lost, once⟩ [] := by
  obtain ⟨taken, hdaemon, hboard, hworks⟩ :=
    exists_works_process hfaithful service (.propertyChanged path change)
  have hlookup : ∀ other, taken.board.entry? other = _ := fun other =>
    (congrArg (Switchboard.entry? · other) hboard).trans
      (service.board.lookup_onEntry path (·.change service.board.observers path change) other)
  cases hentry : service.board.entry? path with
  | none =>
    have hunknown : service.board.apply (.propertyChanged path change) = (service.board, ∅) := by
      simp only [Switchboard.apply, Switchboard.onEntry, hentry]
    rw [hunknown] at hboard hworks
    exact (hkept.tending.of_same hdaemon hboard).works hfaithful hworks
  | some entry =>
    have hanchored : taken.board.Every Entry.Anchored :=
      (Leads.of_perform (.apply (.propertyChanged path change)) hboard).every Entry.lasting_anchored
        hkept.anchored
    have heffects : (service.board.apply (.propertyChanged path change)).2 =
        (entry.change service.board.observers path change).2 := by
      simp only [Switchboard.apply, Switchboard.onEntry, hentry]
    have hgathers := (hkept.anchored path entry hentry).gathers_change service.board.observers path
      change
    have hsets : (if change.setsInterfaces = true then 1 else 0) ≤ 1 := by
      split
      · exact Nat.le_refl 1
      · exact Nat.zero_le 1
    rw [hentry, Option.map_some] at hlookup
    rw [heffects] at hworks
    have hchanged := hkept.tending.changes rfl hentry hgathers (fun _ => hsets) hanchored hdaemon
      hlookup
    exact hchanged.works hfaithful hworks

/-- After each event the subscriptions that stand are those that are wanted. -/
theorem Kept.process (hkept : service.Kept once lost) (event : Event)
    (honce : once → event.SetsOnce ∧ Daemon.TellsOnce (Recorded δ)) :
    (service.process event).Kept once
      (Outset.Loses ⟨service.daemon.record, lost, once⟩ (service.process event).daemon.record) := by
  cases event with
  | modemAdded path properties =>
    exact (hkept.tending_added hfaithful path properties honce).kept
  | modemRemoved path => exact (hkept.tending_removed hfaithful path).kept
  | propertyChanged path change => exact (hkept.tending_changed hfaithful path change).kept

end Process

/-! ### The end of all modems -/

/-- Clears the board, and carries out what that asks for. -/
def cleared {δ : Type} [Daemon δ] (service : Service δ) : Service δ :=
  Service.execute { service with board := service.board.clear.1 } service.board.clear.2

/-- A service that stops clears its board before it takes leave of the daemon. -/
theorem stop_of_idle {δ : Type} [Daemon δ] {service : Service δ}
    (hidle : service.board.isIdle = true) (hrunning : service.running = true) :
    service.stop = (true, { service.cleared with
      daemon := Daemon.disconnect service.cleared.daemon
      running := false
      roster := service.cleared.roster.set [] }) := by
  unfold stop
  rw [if_pos (by rw [hidle, hrunning]; rfl)]
  rfl

theorem unknown_carryOut {δ : Type} [Daemon δ] {service : Service δ} {path : ModemPath}
    (hunknown : service.board.entry? path = none) (effect : Effect) :
    (service.carryOut effect).1.board.entry? path = none := by
  cases effect with
  | watch other interface =>
    refine (service.lookup_load other interface path).trans ?_
    split
    · next hsame => rw [hsame, hunknown, Option.map_none]
    · exact hunknown
  | unwatch other interface => exact hunknown
  | replay other epoch => exact hunknown
  | fail other requests =>
    obtain ⟨answered, hfail⟩ := service.fail_eq other requests
    rw [hfail]
    exact hunknown

theorem unknown_cleared {δ : Type} [Daemon δ] (service : Service δ) (path : ModemPath) :
    service.cleared.board.entry? path = none := by
  refine settleEffects_keeps (fun later => later.board.entry? path = none)
    (fun later effect hunknown => later.unknown_carryOut hunknown effect) ?_ 3 _
  obtain ⟨heard, hdelivered⟩ := deliverAll_eq
    ({ service with board := service.board.clear.1 } : Service δ) service.board.clear.2.deliveries
  rw [hdelivered]
  exact service.board.lookup_clear path

theorem Kept.cleared (hfaithful : Daemon.Faithful (Recorded δ)) (hkept : service.Kept once lost) :
    service.cleared.Kept once
      (Outset.Loses ⟨service.daemon.record, lost, once⟩ service.cleared.daemon.record) := by
  let outset : Outset := ⟨service.daemon.record, lost, once⟩
  let Ends := fun result : Switchboard × Outcome =>
    Tending outset { service with board := result.1 } result.2.effects ∧
      ∀ effect ∈ result.2.effects, effect.depth ≤ 1
  have hgoes : ∀ board outcome path, Ends (board, outcome) →
      Ends ((board.removeModem path).1, outcome ++ (board.removeModem path).2) := by
    rintro board outcome path ⟨htending, hdepth⟩
    refine ⟨htending.removeModem hdepth path, fun effect hmem => ?_⟩
    rcases List.mem_append.1 hmem with hearly | hlate
    · exact hdepth effect hearly
    · exact depth_removeModem board path effect hlate
  obtain ⟨htending, -⟩ : Ends service.board.clear :=
    Switchboard.clear_keeps Ends hgoes ⟨hkept.tending, nofun⟩
  obtain ⟨taken, hdaemon, hboard, hworks⟩ := exists_works_execute hfaithful
    { service with board := service.board.clear.1 } service.board.clear.2
  exact ((htending.of_same hdaemon hboard).works hfaithful hworks).kept

/-! ### Runs -/

/-- What may happen to the subscriptions of a service. -/
inductive Occurrence where
  | event (event : Event)
  | clear

def undergo {δ : Type} [Daemon δ] (service : Service δ) : Occurrence → Service δ
  | .event event => service.process event
  | .clear => service.cleared

/-- A service that runs on a recorded daemon, after all that has happened to it. -/
def undergone {δ : Type} [Daemon δ] (daemon : δ) (occurrences : List Occurrence) :
    Service (Recorded δ) :=
  occurrences.foldl undergo (stopped ⟨daemon, []⟩)

variable {daemon : δ} {path : ModemPath} {interface : Interface} {sofar : List Occurrence}
  {last : Occurrence}

theorem undergone_concat (daemon : δ) (sofar : List Occurrence) (last : Occurrence) :
    undergone daemon (sofar ++ [last]) = (undergone daemon sofar).undergo last :=
  List.foldl_concat ..

/-- The interface is lost if the daemon refused it something by the last occurrence that asked
anything about it. -/
inductive Lost (daemon : δ) (path : ModemPath) (interface : Interface) : List Occurrence → Prop
  | refused {sofar : List Occurrence} {last : Occurrence}
      (hrefused : Refused (undergone daemon sofar).daemon.record
        (undergone daemon (sofar ++ [last])).daemon.record path interface) :
      Lost daemon path interface (sofar ++ [last])
  | untouched {sofar : List Occurrence} {last : Occurrence}
      (hlost : Lost daemon path interface sofar)
      (huntouched : Untouched (undergone daemon sofar).daemon.record
        (undergone daemon (sofar ++ [last])).daemon.record path interface) :
      Lost daemon path interface (sofar ++ [last])

theorem lost_concat_iff :
    Lost daemon path interface (sofar ++ [last]) ↔
      Outset.Loses ⟨(undergone daemon sofar).daemon.record,
        fun path interface => Lost daemon path interface sofar, once⟩
        (undergone daemon (sofar ++ [last])).daemon.record path interface := by
  constructor
  · intro hlost
    generalize hall : sofar ++ [last] = all at hlost
    cases hlost with
    | refused hrefused =>
      obtain ⟨rfl, hlast⟩ := List.append_inj' hall rfl
      cases hlast
      exact .inl hrefused
    | untouched hlost huntouched =>
      obtain ⟨rfl, hlast⟩ := List.append_inj' hall rfl
      cases hlast
      exact .inr ⟨hlost, huntouched⟩
  · rintro (hrefused | ⟨hlost, huntouched⟩)
    · exact .refused hrefused
    · exact .untouched hlost huntouched

/-- What each occurrence keeps, a run keeps. -/
theorem kept_undergone (hfaithful : Daemon.Faithful δ) (daemon : δ) {occurrences : List Occurrence}
    (honce : once → Daemon.TellsOnce δ ∧
      ∀ event, .event event ∈ occurrences → event.SetsOnce) :
    (undergone daemon occurrences).Kept once
      fun path interface => Lost daemon path interface occurrences := by
  induction occurrences using List.reverseRecOn with
  | nil =>
    have hnone : ∀ path interface,
        (undergone daemon []).board.attached path interface = true → False := nofun
    exact ⟨Switchboard.every_empty Entry.Anchored,
      fun path interface => iff_of_false Recorded.not_grantedSince_nil fun hwants =>
        hnone path interface hwants.1,
      fun _ path interface _ hattached => (hnone path interface hattached).elim⟩
  | append_singleton sofar last ih =>
    have hbefore := ih fun hone => ⟨(honce hone).1, fun event hmem =>
      (honce hone).2 event (List.mem_append_left [last] hmem)⟩
    have hlost : (fun path interface => Lost daemon path interface (sofar ++ [last])) =
        Outset.Loses ⟨(undergone daemon sofar).daemon.record,
          fun path interface => Lost daemon path interface sofar, once⟩
          (undergone daemon (sofar ++ [last])).daemon.record := by
      funext path interface
      exact propext lost_concat_iff
    rw [hlost, undergone_concat]
    cases last with
    | event event =>
      exact hbefore.process hfaithful.recorded event fun hone =>
        ⟨(honce hone).2 event (List.mem_append_right sofar List.mem_cons_self),
          (honce hone).1.recorded⟩
    | clear => exact hbefore.cleared hfaithful.recorded

/-- Subscriptions are never leaked. After any run of events, the ones that stand are those of the
attached interfaces of the known modems that were not lost, and the modems' own where the daemon
granted them; none is left once the board is cleared. None is dropped either, where each list of
properties sets the interfaces once at most: then no attached interface is lost. -/
theorem standing_run (hfaithful : Daemon.Faithful δ) (daemon : δ)
    (occurrences : List Occurrence) :
    let service := undergone daemon occurrences
    (∀ path interface, Standing service.daemon.record path interface ↔
        if interface = .modem then
          service.board.knows path = true ∧ LastGranted service.daemon.record path .modem
        else
          service.board.attached path interface = true ∧
            ¬ Lost daemon path interface occurrences) ∧
      (∀ path interface, ¬ Standing service.cleared.daemon.record path interface) ∧
      (Daemon.TellsOnce δ → (∀ event, .event event ∈ occurrences → event.SetsOnce) →
        ∀ path interface, interface ≠ .modem → service.board.attached path interface = true →
          ¬ Lost daemon path interface occurrences) := by
  intro service
  have hkept : service.Kept False _ := kept_undergone hfaithful daemon False.elim
  refine ⟨fun path interface => ?_, fun path interface hstanding => ?_, fun htells honce => ?_⟩
  · rw [hkept.standing, Wants]
    split
    · next hmodem =>
      subst hmodem
      rw [Switchboard.attached_modem]
    · exact Iff.rfl
  · rw [(hkept.cleared hfaithful.recorded).standing] at hstanding
    have hgone := Switchboard.attached_of_unknown (service.unknown_cleared path) interface
    cases hgone.symm.trans hstanding.1
  · have hone : service.Kept True _ := kept_undergone hfaithful daemon fun _ => ⟨htells, honce⟩
    exact hone.once trivial

/-- A bus on which packet data cannot be watched. -/
def dataless : Simulator :=
  (Simulator.empty.addModem ⟨"/m"⟩ [.simManager, .connectionManager]).failInterface
    .connectionManager

/-- What happens on it: its modem comes, offering both its interfaces. -/
def datalessArrival : List Occurrence :=
  [.event (.modemAdded ⟨"/m"⟩
    [.modem (.interfaces (.ofList [.simManager, .connectionManager]))])]

theorem standing_run_dataless :
    let service := undergone dataless datalessArrival
    Standing service.daemon.record ⟨"/m"⟩ .modem ∧
      Standing service.daemon.record ⟨"/m"⟩ .simManager ∧
      ¬ Standing service.daemon.record ⟨"/m"⟩ .connectionManager ∧
      ¬ Standing service.cleared.daemon.record ⟨"/m"⟩ .simManager := by
  intro service
  obtain ⟨hstanding, hcleared, hkept⟩ :=
    standing_run Simulator.faithful dataless datalessArrival
  have honce : ∀ event, Occurrence.event event ∈ datalessArrival → event.SetsOnce := by
    intro event hmem
    cases List.mem_singleton.1 hmem
    exact Nat.le_refl 1
  have hattached : service.board.attached ⟨"/m"⟩ .simManager = true ∧
      service.board.attached ⟨"/m"⟩ .connectionManager = false ∧
      service.board.knows ⟨"/m"⟩ = true := by decide +kernel
  have hgranted : LastGranted service.daemon.record ⟨"/m"⟩ .modem := by
    have hrecord : service.daemon.record =
        [] ++ ⟨.watch ⟨"/m"⟩ .modem, none⟩ :: service.daemon.record.tail := by decide +kernel
    refine ⟨[], service.daemon.record.tail, hrecord, ?_⟩
    decide +kernel
  have hsim := hkept Simulator.tellsOnce honce ⟨"/m"⟩ .simManager nofun hattached.1
  refine ⟨(hstanding _ _).2 ⟨hattached.2.2, hgranted⟩, (hstanding _ _).2 ⟨hattached.1, hsim⟩, ?_,
    hcleared _ _⟩
  intro hdata
  have hyes := (hstanding _ _).1 hdata
  cases hattached.2.1.symm.trans hyes.1

/-- A bus that grants everything, but tells the properties of interfaces other than a modem's own
once only. -/
structure Grudging where
  told : Bool

instance : Daemon Grudging where
  connect daemon := (.ok [], daemon)
  disconnect := id
  receive daemon := ([], daemon)
  watch _ _ daemon := (.ok (), daemon)
  unwatch _ _ := id
  properties _ interface daemon :=
    if interface = .modem then (.ok [], daemon)
    else if daemon.told then (.error (.bus "told before"), daemon)
    else (.ok [], ⟨true⟩)
  setSwitch _ _ _ daemon := (.ok (), daemon)
  enterPin _ _ _ daemon := (.ok (), daemon)
  resetPin _ _ _ _ daemon := (.ok (), daemon)
  changePin _ _ _ _ daemon := (.ok (), daemon)
  lockPin _ _ _ daemon := (.ok (), daemon)
  unlockPin _ _ _ daemon := (.ok (), daemon)
  registerOperator _ daemon := (.ok (), daemon)
  registerAutomatically _ daemon := (.ok (), daemon)
  begin _ _ daemon := (none, daemon)
  poll _ _ daemon := (none, daemon)

theorem Grudging.faithful : Daemon.Faithful Grudging := by
  intro path interface daemon changes hproperties change hmem
  simp only [Daemon.properties] at hproperties
  split at hproperties
  · cases hproperties
    cases hmem
  · split at hproperties <;> cases hproperties
    cases hmem

/-- A modem comes whose properties offer its SIM, then nothing, then its SIM again. -/
def wavering : List Occurrence :=
  [.event (.modemAdded ⟨"/m"⟩ [.modem (.interfaces (.ofList [.simManager])),
    .modem (.interfaces .empty), .modem (.interfaces (.ofList [.simManager]))])]

/-- The SIM is asked for twice; granted once and refused once it is attached, and its subscription
has been ended. -/
theorem not_always_standing :
    ¬ ∀ (δ : Type) [Daemon δ] (daemon : δ) (occurrences : List Occurrence), Daemon.Faithful δ →
      ∀ path interface,
        Standing (undergone daemon occurrences).daemon.record path interface ↔
          if interface = .modem then
            (undergone daemon occurrences).board.knows path = true ∧
              LastGranted (undergone daemon occurrences).daemon.record path .modem
          else (undergone daemon occurrences).board.attached path interface = true := by
  intro halways
  have hiff := halways Grudging ⟨false⟩ wavering Grudging.faithful ⟨"/m"⟩ .simManager
  rw [if_neg nofun] at hiff
  have hattached : (undergone (⟨false⟩ : Grudging) wavering).board.attached ⟨"/m"⟩ .simManager =
      true := by decide +kernel
  have hrecord : (undergone (⟨false⟩ : Grudging) wavering).daemon.record =
      (undergone (⟨false⟩ : Grudging) wavering).daemon.record.dropLast ++
        [⟨.unwatch ⟨"/m"⟩ .simManager, none⟩] := by decide +kernel
  have hstanding := hiff.2 hattached
  rw [hrecord] at hstanding
  exact Recorded.not_standing_ended hstanding

end Service

end Telephony

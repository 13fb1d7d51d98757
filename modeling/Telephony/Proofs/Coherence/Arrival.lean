import Telephony.Proofs.Coherence.Taking

/-!
# A modem that arrives

A modem that was not known is taken in with all that it offers, as the bus has it at that moment.
The event that told of it may be older than that: its interfaces are asked for first, and those that
the modem's own interface then names beyond them after it.
-/

namespace Telephony

open Simulator (SimulatedModem)

/-- The properties name the interfaces of the modem once. -/
def Announces (properties : List Change) (current : InterfaceSet) : Prop :=
  ∃ before after, properties = before ++ .modem (.interfaces current) :: after ∧
    ∀ change ∈ before ++ after, ∀ other, change ≠ .modem (.interfaces other)

/-- A modem on the bus stores which interfaces it offers, and every property of its own. -/
structure Simulator.SimulatedModem.Regular (modem : SimulatedModem) : Prop where
  interfaces : modem.stored .modem "Interfaces" =
    some (.modem (.interfaces (.ofList modem.interfaces)))
  complete : ∀ name, modem.stored .modem name = none → blankField .modem name = none

theorem InterfaceSet.has_foldl_insert (interfaces : List Interface) (set : InterfaceSet)
    (interface : Interface) :
    (interfaces.foldl insert set).has interface =
      (interfaces.contains interface || set.has interface) := by
  induction interfaces generalizing set with
  | nil => simp
  | cons first rest ih =>
    have hsame : (interface == first) = decide (first = interface) := by
      rw [Bool.eq_iff_iff, beq_iff_eq, decide_eq_true_eq]
      exact eq_comm
    rw [List.foldl_cons, ih, has_insert, List.contains_cons, hsame]
    cases decide (first = interface) <;> cases rest.contains interface <;> rfl

theorem InterfaceSet.has_ofList (interfaces : List Interface) (interface : Interface) :
    (ofList interfaces).has interface = interfaces.contains interface := by
  rw [ofList, has_foldl_insert]
  cases interface <;> simp [empty, has]

theorem Modem.State.field_eq_none_iff (a b : Modem.State) (name : String) :
    a.field name = none ↔ b.field name = none := by
  unfold field
  split <;> simp

namespace Simulator.SimulatedModem

theorem offers_eq_has (modem : SimulatedModem) {interface : Interface}
    (htracked : interface ≠ .modem) :
    modem.offers interface = (InterfaceSet.ofList modem.interfaces).has interface := by
  rw [InterfaceSet.has_ofList, offers, beq_eq_false_iff_ne.2 htracked, Bool.false_or]

theorem Regular.announces {modem : SimulatedModem} (hregular : modem.Regular) :
    Announces (modem.decoded .modem) (.ofList modem.interfaces) := by
  obtain ⟨before, after, hdecoded, hothers⟩ := decoded_split hregular.interfaces
  refine ⟨before, after, hdecoded, ?_⟩
  rintro change hmem other rfl
  exact hothers _ hmem rfl

end Simulator.SimulatedModem

namespace Service

variable {service : Service Simulator} {path : ModemPath} {interface : Interface}
  {modem : SimulatedModem}

/-- Loading the modem's own interface finds which interfaces it offers, and asks for those that were
not known. -/
theorem load_modem (hsound : service.daemon.failing = [])
    (hmodem : service.daemon.modem? path = some modem) (hregular : modem.Regular) {entry : Entry}
    (hentry : service.board.entry? path = some entry) :
    (∀ i, i ≠ .modem → entry.attached i = false → entry.field i = blankField i →
        (service.load path .modem).1.holding? path i =
          some ⟨.ofList modem.interfaces, false, blankField i⟩) ∧
      (service.load path .modem).1.Follows path .modem modem (.ofList modem.interfaces) ∧
      Asks path (.ofList modem.interfaces) entry.modem.state.interfaces
        (service.load path .modem).2 := by
  have hoffers : modem.offers .modem = true := rfl
  have hkept : ∀ change ∈ modem.decoded .modem, ¬ change.Withdraws .modem :=
    fun _ _ hwithdraws => hwithdraws.1 rfl
  obtain ⟨after, hfetch, -, hwatched, -⟩ := fetch_of_offers hsound hmodem hoffers
  obtain ⟨first, rest, hdecoded, hplain⟩ := hregular.announces
  have hload : service.board.loadEntry path .modem (service.fetch path .modem).1 entry =
      ((entry.changeAll service.board.observers path (modem.decoded .modem)).1.mark .modem,
        (entry.changeAll service.board.observers path (modem.decoded .modem)).2) := by
    rw [hfetch, Switchboard.loadEntry_ok rfl]
    rfl
  obtain ⟨hoffered, hasks⟩ :=
    entry.changeAll_of_interfaces service.board.observers path hplain
  rw [← hdecoded] at hoffered hasks
  have hholding : ∀ i, (service.load path .modem).1.holding? path i =
      some ((entry.changeAll service.board.observers path (modem.decoded .modem)).1.holding i) := by
    intro i
    rw [holding?_load, if_pos rfl, hentry, Option.map_some, hload, Entry.holding_mark]
  refine ⟨fun i htracked hnone hblank => ?_, ⟨?_, ?_⟩, ?_⟩
  · obtain ⟨hattached, hfield⟩ := Entry.changeAll_of_unattached service.board.observers path entry
      (modem.decoded .modem) hnone hblank
    rw [hholding]
    exact congrArg some (Holding.ext hoffered hattached (congrFun hfield))
  · obtain ⟨hattached, hfield⟩ := entry.changeAll_of_kept service.board.observers path hkept
    rw [hholding]
    refine congrArg some (Holding.ext hoffered hattached fun name => (hfield rfl name).trans ?_)
    rw [SimulatedModem.lastChange_decoded]
    change _ = (modem.stored .modem name <|> blankField .modem name)
    cases hstored : modem.stored .modem name with
    | some change => rfl
    | none =>
      have hblank := hregular.complete name hstored
      exact ((entry.modem.state.field_eq_none_iff _ name).2 hblank).trans hblank.symm
  · rw [daemon_load, hfetch]
    exact hwatched
  · rw [effects_load, hentry, Option.map_some, Option.getD_some, hload]
    exact hasks

/-- A new entry with the properties that the event told; the modem is to be watched, and then the
interfaces that these name. -/
theorem process_added_eq (hunknown : service.holding? path .modem = none)
    {properties : List Change} {current : InterfaceSet}
    (hannounces : Announces properties current) :
    ∃ (entry : Entry) (taken : Service Simulator) (effects : List Effect),
      taken.daemon = service.daemon ∧ taken.board.entry? path = some entry ∧
      (∀ i, i ≠ .modem → entry.holding i = ⟨current, false, blankField i⟩) ∧
      entry.modem.state.interfaces = current ∧
      Asks path current ∅ effects ∧
      service.process (.modemAdded path properties) =
        settleEffects 3 taken (.watch path .modem :: effects) := by
  obtain ⟨before, after, hproperties, hplain⟩ := hannounces
  have hentry : service.board.entry? path = none := by
    simpa [holding?] using hunknown
  obtain ⟨taken, hdaemon, hboard, hprocess⟩ :=
    service.process_eq (.modemAdded path properties)
  obtain ⟨hoffered, hasks⟩ :=
    Entry.new.changeAll_of_interfaces service.board.observers path hplain
  rw [← hproperties] at hoffered hasks
  have hknows : service.board.knows path = false := by
    unfold Switchboard.knows Table.contains
    rw [show service.board.modems.get? path = none from hentry]
    rfl
  refine ⟨(Entry.new.changeAll service.board.observers path properties).1.mark .modem, taken, _,
    hdaemon, ?_, fun i htracked => ?_, hoffered, hasks, ?_⟩
  · rw [hboard]
    simp only [Switchboard.apply, Switchboard.addModem, hentry, Option.getD_none]
    exact (Table.get?_insert service.board.modems path path _).trans (if_pos rfl)
  · obtain ⟨hattached, hfield⟩ := Entry.changeAll_of_unattached service.board.observers path .new
      properties (Entry.attached_new htracked) rfl
    rw [Entry.holding_mark]
    exact Holding.ext hoffered hattached (congrFun hfield)
  · rw [hprocess]
    simp only [Switchboard.apply, Switchboard.addModem, hentry, hknows, Option.getD_none,
      Bool.false_eq_true, if_false]
    rfl

/-- Carrying out a row of effects whose first loads the modem's own interface. -/
theorem settleEffects_watch (depth : Nat) (service : Service Simulator) (path : ModemPath)
    (effects : List Effect) :
    settleEffects (depth + 1) service (.watch path .modem :: effects) =
      settleEffects depth ((service.load path .modem).1.carryOutAll effects).1
        ((service.load path .modem).2 ++ ((service.load path .modem).1.carryOutAll effects).2) := rfl

/-- What the modem offers is attached: in the first round if the event named it, else in the
second. -/
theorem follows_of_arrival (hsound : service.daemon.failing = []) (htracked : interface ≠ .modem)
    {current named : InterfaceSet} (hawaits : service.Awaits path interface modem current)
    {effects more : List Effect} (hasks : Asks path named ∅ effects)
    (hmore : Asks path current named more) :
    (settleEffects 2 (service.carryOutAll effects).1
      (more ++ (service.carryOutAll effects).2)).Follows path interface modem current := by
  have hsounds := (sameBus_carryOutAll hsound effects).failing.trans hsound
  have hnothing : (∅ : InterfaceSet).has interface = false := by cases interface <;> rfl
  cases hnamed : named.has interface with
  | true =>
    obtain ⟨before, after, rfl, huntouched⟩ :=
      hasks.split (Entry.mem_beyond_iff.2 ⟨htracked, hnamed, hnothing⟩)
    obtain ⟨hfollows, hproduced⟩ := carryOutAll_follows hsound htracked hawaits huntouched
    apply hfollows.settleEffects hsounds 2
    intro effect hmem
    rcases List.mem_append.1 hmem with hleft | hright
    · refine hmore.not_touches (fun _ => hawaits.offered) (fun hbeyond => ?_) effect hleft
      rw [(Entry.mem_beyond_iff.1 hbeyond).2.2] at hnamed
      cases hnamed
    · exact hproduced effect hright
  | false =>
    have hnot : interface ∉ Entry.beyond named ∅ := fun hbeyond => by
      rw [(Entry.mem_beyond_iff.1 hbeyond).2.1] at hnamed
      cases hnamed
    have hquiet := hasks.not_loads hnot
    obtain ⟨hkept, hproduced⟩ := holding?_carryOutAll hsound hquiet
    obtain ⟨before, after, rfl, huntouched⟩ :=
      hmore.split (Entry.mem_beyond_iff.2 ⟨htracked, hawaits.offered, hnamed⟩)
    have hstill : (service.carryOutAll effects).1.Awaits path interface modem current :=
      ⟨((sameBus_carryOutAll hsound effects).modem? path).trans hawaits.there, hawaits.offers,
        hkept.trans hawaits.holding, hawaits.offered⟩
    rw [List.append_assoc, List.cons_append]
    refine settleEffects_follows hsounds htracked hstill (fun effect hmem => ?_) 1
    rcases List.mem_append.1 hmem with hleft | hright
    · exact huntouched effect (List.mem_append_left after hleft)
    · rcases List.mem_append.1 hright with hafter | hlast
      · exact huntouched effect (List.mem_append_right before hafter)
      · exact hproduced effect hlast

/-- The modem's own interface, once loaded, is left alone. -/
theorem own_of_arrival (hsound : service.daemon.failing = []) {current named : InterfaceSet}
    (hfollows : service.Follows path .modem modem current) {effects more : List Effect}
    (hasks : Asks path named ∅ effects) (hmore : Asks path current named more) :
    (settleEffects 2 (service.carryOutAll effects).1
      (more ++ (service.carryOutAll effects).2)).Follows path .modem modem current := by
  have hsounds := (sameBus_carryOutAll hsound effects).failing.trans hsound
  have hnot : ∀ set other : InterfaceSet, Interface.modem ∉ Entry.beyond set other :=
    fun set other hmem => (Entry.mem_beyond_iff.1 hmem).1 rfl
  have hfirst := hasks.not_touches (fun hne => absurd rfl hne) (hnot named ∅)
  obtain ⟨hkept, hproduced⟩ := holding?_carryOutAll hsound fun effect hmem hloads =>
    hfirst effect hmem (.inl hloads)
  have hstill : (service.carryOutAll effects).1.Follows path .modem modem current :=
    ⟨hkept.trans hfollows.holding, (isWatched_carryOutAll hsound hfirst).trans hfollows.watched⟩
  apply hstill.settleEffects hsounds 2
  intro effect hmem
  rcases List.mem_append.1 hmem with hleft | hright
  · exact hmore.not_touches (fun hne => absurd rfl hne) (hnot _ _) effect hleft
  · exact hproduced effect hright

/-- What the modem does not offer is not attached, even if the event named it. -/
theorem blank_of_arrival (hsound : service.daemon.failing = []) (htracked : interface ≠ .modem)
    {current named : InterfaceSet} (hblank : service.holding? path interface =
      some ⟨current, false, blankField interface⟩) (hwithout : current.has interface = false)
    {effects more : List Effect} (hasks : Asks path named ∅ effects)
    (hmore : Asks path current named more) :
    (settleEffects 2 (service.carryOutAll effects).1
        (more ++ (service.carryOutAll effects).2)).holding? path interface =
      some ⟨current, false, blankField interface⟩ := by
  have hsounds := (sameBus_carryOutAll hsound effects).failing.trans hsound
  have hunavailable : ∀ holding, service.holding? path interface = some holding →
      holding.offered.has interface = true → ¬ service.daemon.Offers path interface := by
    intro holding hthere hhas
    rw [hblank] at hthere
    cases hthere
    rw [hwithout] at hhas
    cases hhas
  obtain ⟨hkept, hproduced⟩ :=
    holding?_carryOutAll_of_unavailable hsound htracked hunavailable hasks.ne_modem
  refine (holding?_settleEffects hsounds 2 fun effect hmem => ?_).trans (hkept.trans hblank)
  rcases List.mem_append.1 hmem with hfirst | hlast
  · refine hmore.not_loads (fun hbeyond => ?_) effect hfirst
    rw [(Entry.mem_beyond_iff.1 hbeyond).2.1] at hwithout
    cases hwithout
  · exact hproduced effect hlast

/-- A modem that arrives and is on the bus is followed in everything that it offers. -/
theorem process_added (hsound : service.daemon.failing = [])
    (hunknown : service.holding? path .modem = none) {properties : List Change}
    {named : InterfaceSet} (hannounces : Announces properties named)
    (hmodem : service.daemon.modem? path = some modem) (hregular : modem.Regular) :
    let after := service.process (.modemAdded path properties)
    after.Follows path .modem modem (.ofList modem.interfaces) ∧
      ∀ i, i ≠ .modem →
        (modem.offers i = true → after.Follows path i modem (.ofList modem.interfaces)) ∧
        (modem.offers i = false → after.holding? path i =
          some ⟨.ofList modem.interfaces, false, blankField i⟩) := by
  obtain ⟨entry, taken, effects, hdaemon, hentry, hblank, hnamed, hasks, hprocess⟩ :=
    process_added_eq hunknown hannounces
  rw [← hdaemon] at hsound hmodem
  obtain ⟨hunattached, hfollows, hmore⟩ := load_modem hsound hmodem hregular hentry
  have hsame : taken.daemon.SameBus (taken.load path .modem).1.daemon :=
    sameBus_carryOut hsound (.watch path .modem)
  have hsounds := hsame.failing.trans hsound
  rw [hnamed] at hmore
  intro after
  have hafter : after = settleEffects 2 ((taken.load path .modem).1.carryOutAll effects).1
      ((taken.load path .modem).2 ++ ((taken.load path .modem).1.carryOutAll effects).2) :=
    hprocess.trans (settleEffects_watch 2 taken path effects)
  rw [hafter]
  refine ⟨own_of_arrival hsounds hfollows hasks hmore, fun i htracked => ?_⟩
  have hholding := hblank i htracked
  have hleft := hunattached i htracked (congrArg Holding.attached hholding)
    (congrArg Holding.field hholding)
  have hhas := modem.offers_eq_has htracked
  refine ⟨fun hoffers => ?_, fun hoffers => ?_⟩
  · have hawaits : (taken.load path .modem).1.Awaits path i modem (.ofList modem.interfaces) :=
      ⟨(hsame.modem? path).trans hmodem, hoffers, hleft, hhas.symm.trans hoffers⟩
    exact follows_of_arrival hsounds htracked hawaits hasks hmore
  · exact blank_of_arrival hsounds htracked hleft (hhas.symm.trans hoffers) hasks hmore

/-- A modem that arrives and is gone from the bus already is known, with nothing attached. -/
theorem process_added_of_gone (hsound : service.daemon.failing = [])
    (hunknown : service.holding? path .modem = none) {properties : List Change}
    {named : InterfaceSet} (hannounces : Announces properties named)
    (hgone : service.daemon.modem? path = none) :
    let after := service.process (.modemAdded path properties)
    (∃ holding, after.holding? path .modem = some holding) ∧
      ∀ i, i ≠ .modem → after.holding? path i = some ⟨named, false, blankField i⟩ := by
  obtain ⟨entry, taken, effects, hdaemon, hentry, hblank, hnamed, hasks, hprocess⟩ :=
    process_added_eq hunknown hannounces
  rw [← hdaemon] at hsound hgone
  have hnever : ∀ i, ¬ taken.daemon.Offers path i := by
    rintro i ⟨modem, hthere, -⟩
    rw [hgone] at hthere
    cases hthere
  have hsame : taken.daemon.SameBus (taken.load path .modem).1.daemon :=
    sameBus_carryOut hsound (.watch path .modem)
  have hsounds := hsame.failing.trans hsound
  obtain ⟨failure, hfetch⟩ := fetch_of_not_offers (hnever .modem)
  have hload : taken.board.loadEntry path .modem (taken.fetch path .modem).1 entry = (entry, ∅) := by
    rw [hfetch, Switchboard.loadEntry_error]
    rfl
  have hkept : ∀ i, (taken.load path .modem).1.holding? path i = some (entry.holding i) := by
    intro i
    rw [holding?_load, if_pos rfl, hentry, Option.map_some, hload]
  have hnothing : (taken.load path .modem).2 = [] := by
    rw [effects_load, hentry, Option.map_some, Option.getD_some, hload]
    rfl
  intro after
  have hafter : after = settleEffects 3 (taken.load path .modem).1 effects := by
    calc
      after = settleEffects 3 taken (.watch path .modem :: effects) := hprocess
      _ = _ := settleEffects_watch 2 taken path effects
      _ = settleEffects 3 (taken.load path .modem).1 effects := by
        rw [hnothing, List.nil_append]
        rfl
  rw [hafter]
  refine ⟨⟨entry.holding .modem, ?_⟩, fun i htracked => ?_⟩
  · have hquiet := hasks.not_loads fun hmem => (Entry.mem_beyond_iff.1 hmem).1 rfl
    exact (holding?_settleEffects hsounds 3 hquiet).trans (hkept .modem)
  · have hunavailable : ¬ (taken.load path .modem).1.daemon.Offers path i := by
      rintro ⟨modem, hthere, hyes⟩
      exact hnever i ⟨modem, (hsame.modem? path).symm.trans hthere, hyes⟩
    calc
      _ = (taken.load path .modem).1.holding? path i :=
        settleEffects_of_unavailable hsounds htracked (fun _ _ _ => hunavailable) hasks.ne_modem 3
      _ = some (entry.holding i) := hkept i
      _ = some ⟨named, false, blankField i⟩ := congrArg some (hblank i htracked)

end Service

end Telephony

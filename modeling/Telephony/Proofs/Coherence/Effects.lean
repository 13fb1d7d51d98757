import Telephony.Proofs.Coherence.Views

/-!
# Carrying out effects

What becomes of the view of an interface while effects are carried out, round after round: nothing,
if none of them loads it; nothing either if it is to be loaded but is not offered; and it is
attached with what the bus stores if it is to be loaded once and is offered.
-/

namespace Telephony

open Simulator (SimulatedModem)

/-! ### Effects stay with their modem -/

namespace Entry

variable (observers : Observers) (path : ModemPath)

theorem path_change (entry : Entry) (change : Change) :
    ∀ effect ∈ (entry.change observers path change).2.effects, effect.path = path := by
  intro effect hmem
  by_cases hinterfaces : ∃ current, change = .modem (.interfaces current)
  · obtain ⟨current, rfl⟩ := hinterfaces
    obtain ⟨gone, heffects, hgone⟩ := effects_setInterfaces observers path entry current
    change effect ∈ (entry.setInterfaces observers path current).2.effects at hmem
    rw [heffects] at hmem
    rcases List.mem_append.1 hmem with hleft | hright
    · obtain ⟨ended, -, -, rfl⟩ := hgone effect hleft
      rfl
    · obtain ⟨come, -, rfl⟩ := List.mem_map.1 hright
      rfl
  · rw [effects_change observers path entry fun current hsame => hinterfaces ⟨current, hsame⟩]
      at hmem
    cases hmem

theorem path_changeAll (entry : Entry) (changes : List Change) :
    ∀ effect ∈ (entry.changeAll observers path changes).2.effects, effect.path = path := by
  induction changes generalizing entry with
  | nil => exact nofun
  | cons change rest ih =>
    intro effect hmem
    rcases List.mem_append.1 hmem with hfirst | hrest
    · exact path_change observers path entry change effect hfirst
    · exact ih _ effect hrest

end Entry

theorem Switchboard.path_loadEntry (board : Switchboard) (path : ModemPath) (interface : Interface)
    (result : Except Failure (List Change)) (entry : Entry) :
    ∀ effect ∈ (board.loadEntry path interface result entry).2.effects, effect.path = path := by
  intro effect hmem
  cases hoffered : entry.offers interface with
  | false =>
    rw [loadEntry_of_withdrawn hoffered] at hmem
    rw [effects_refusal path interface effect hmem]
    rfl
  | true =>
    cases result with
    | error failure =>
      rw [loadEntry_error] at hmem
      rw [effects_refusal path interface effect hmem]
      rfl
    | ok properties =>
      rw [loadEntry_ok hoffered, Outcome.effects_append] at hmem
      rcases List.mem_append.1 hmem with hattach | hchange
      · rw [Entry.effects_attach path _ entry interface effect hattach]
        rfl
      · exact Entry.path_changeAll _ path _ properties effect hchange

namespace Service

theorem path_load {δ : Type} [Daemon δ] (service : Service δ) (path : ModemPath)
    (interface : Interface) : ∀ more ∈ (service.load path interface).2, more.path = path := by
  intro more hmem
  rw [effects_load] at hmem
  cases hentry : service.board.entry? path with
  | none =>
    rw [hentry] at hmem
    cases hmem
  | some entry =>
    rw [hentry] at hmem
    exact service.board.path_loadEntry path interface _ entry more hmem

variable {service : Service Simulator} {path : ModemPath} {interface : Interface}

/-! ### One effect -/

theorem sameBus_carryOut (hsound : service.daemon.failing = []) (effect : Effect) :
    service.daemon.SameBus (service.carryOut effect).1.daemon := by
  cases effect with
  | watch path interface =>
    change service.daemon.SameBus (service.load path interface).1.daemon
    rw [daemon_load]
    exact (service.fetch_spec path interface hsound).1
  | unwatch path interface => exact ⟨_, rfl⟩
  | replay path epoch => exact .refl _
  | fail path requests =>
    obtain ⟨answered, hfail⟩ := service.fail_eq path requests
    rw [hfail]
    exact .refl _

theorem holding?_load (loaded : Interface) (path other : ModemPath) (interface : Interface) :
    (service.load path loaded).1.holding? other interface =
      if path = other then
        (service.board.entry? path).map fun entry =>
          (service.board.loadEntry path loaded (service.fetch path loaded).1 entry).1.holding
            interface
      else service.holding? other interface := by
  unfold holding?
  rw [lookup_load]
  split
  · rw [Option.map_map]
    rfl
  · rfl

/-- An effect that does not load the interface leaves what is held of it, and asks for nothing that
touches it. -/
theorem holding?_carryOut (hsound : service.daemon.failing = []) {effect : Effect}
    (hquiet : ¬ effect.Loads path interface) :
    (service.carryOut effect).1.holding? path interface = service.holding? path interface ∧
      ∀ more ∈ (service.carryOut effect).2, ¬ more.Touches path interface := by
  cases effect with
  | watch other loaded =>
    change (service.load other loaded).1.holding? path interface = _ ∧
      ∀ more ∈ (service.load other loaded).2, _
    rw [holding?_load]
    by_cases hpath : other = path
    · subst hpath
      have hne : loaded ≠ interface := fun hsame => hquiet (.inl (by rw [hsame]))
      have htracked : loaded ≠ .modem := fun hsame => hquiet (.inr (by rw [hsame]))
      obtain ⟨-, -, hof⟩ := service.fetch_spec other loaded hsound
      have hload := fun entry => service.board.loadEntry_of_ne other htracked hof entry
      rw [if_pos rfl, effects_load]
      unfold holding?
      cases service.board.entry? other with
      | none => exact ⟨rfl, nofun⟩
      | some entry =>
        refine ⟨congrArg some ((hload entry).1 interface hne), fun more hmem htouches => ?_⟩
        rcases (hload entry).2 more hmem with rfl | ⟨epoch, rfl⟩
        · rcases htouches with (hwatch | hwatch) | hunwatch
          · cases hwatch
          · cases hwatch
          · cases hunwatch
            exact hne rfl
        · rcases htouches with (hwatch | hwatch) | hunwatch
          · cases hwatch
          · cases hwatch
          · cases hunwatch
    · rw [if_neg hpath]
      exact ⟨rfl, fun more hmem htouches =>
        hpath ((service.path_load other loaded more hmem).symm.trans htouches.path_eq)⟩
  | unwatch other ended => exact ⟨rfl, nofun⟩
  | replay other epoch => exact ⟨rfl, nofun⟩
  | fail other requests =>
    obtain ⟨answered, hfail⟩ := service.fail_eq other requests
    rw [hfail]
    exact ⟨rfl, nofun⟩

theorem isWatched_carryOut (hsound : service.daemon.failing = []) {effect : Effect}
    (huntouched : ¬ effect.Touches path interface) :
    (service.carryOut effect).1.daemon.isWatched path interface =
      service.daemon.isWatched path interface := by
  cases effect with
  | watch other loaded =>
    change (service.load other loaded).1.daemon.isWatched path interface = _
    rw [daemon_load]
    apply (service.fetch_spec other loaded hsound).2.1 path interface
    intro hsame
    cases hsame
    exact huntouched (.inl (.inl rfl))
  | unwatch other ended =>
    apply Simulator.isWatched_unwatch
    intro hsame
    cases hsame
    exact huntouched (.inr rfl)
  | replay other epoch => rfl
  | fail other requests =>
    obtain ⟨answered, hfail⟩ := service.fail_eq other requests
    rw [hfail]

/-- An interface that cannot be attached is not, whatever is asked. -/
theorem holding?_carryOut_of_unavailable (hsound : service.daemon.failing = [])
    (htracked : interface ≠ .modem)
    (hunavailable : ∀ holding, service.holding? path interface = some holding →
      holding.offered.has interface = true → ¬ service.daemon.Offers path interface)
    {effect : Effect} (hmodem : effect ≠ .watch path .modem) :
    (service.carryOut effect).1.holding? path interface = service.holding? path interface ∧
      ∀ more ∈ (service.carryOut effect).2, ¬ more.Loads path interface := by
  by_cases hwatch : effect = .watch path interface
  · subst hwatch
    change (service.load path interface).1.holding? path interface = _ ∧
      ∀ more ∈ (service.load path interface).2, _
    rw [holding?_load, if_pos rfl, effects_load]
    unfold holding? at hunavailable ⊢
    cases hentry : service.board.entry? path with
    | none => exact ⟨rfl, nofun⟩
    | some entry =>
      rw [hentry] at hunavailable
      have hrefused : service.board.loadEntry path interface (service.fetch path interface).1 entry =
          (entry, Switchboard.refusal path interface) := by
        cases hoffered : entry.modem.state.interfaces.has interface with
        | false =>
          exact Switchboard.loadEntry_of_withdrawn (by simp [Entry.offers, htracked, hoffered]) _ _ _
        | true =>
          obtain ⟨failure, hfetch⟩ := fetch_of_not_offers (hunavailable _ rfl hoffered)
          rw [hfetch, Switchboard.loadEntry_error]
      simp only [Option.map_some, Option.getD_some, hrefused]
      refine ⟨trivial, fun more hmem hloads => ?_⟩
      rw [Switchboard.effects_refusal path interface more hmem] at hloads
      rcases hloads with hloads | hloads <;> cases hloads
  · have hquiet : ¬ effect.Loads path interface := not_or.2 ⟨hwatch, hmodem⟩
    obtain ⟨hkept, hmore⟩ := holding?_carryOut hsound hquiet
    exact ⟨hkept, fun more hmem hloads => hmore more hmem (.inl hloads)⟩

/-- An interface that the modem is known to offer, and does, is attached by loading it. -/
theorem load_attached (hsound : service.daemon.failing = []) (htracked : interface ≠ .modem)
    {modem : SimulatedModem} (hmodem : service.daemon.modem? path = some modem)
    (hoffers : modem.offers interface = true) {holding : Holding}
    (hholding : service.holding? path interface = some holding)
    (hoffered : holding.offered.has interface = true) :
    (service.load path interface).1.holding? path interface =
        some { holding with
          attached := true
          field := fun name => modem.stored interface name <|> holding.field name } ∧
      (service.load path interface).1.daemon.isWatched path interface = true ∧
      ∀ more ∈ (service.load path interface).2, ¬ more.Touches path interface := by
  obtain ⟨after, hfetch, -, hwatched, -⟩ := fetch_of_offers hsound hmodem hoffers
  obtain ⟨entry, hentry, rfl⟩ := Option.map_eq_some_iff.1 hholding
  have hof : ∀ change ∈ modem.decoded interface, change.interface = interface :=
    fun change => SimulatedModem.interface_of_mem_decoded
  obtain ⟨hattached, heffects⟩ := service.board.loadEntry_attached path htracked hof hoffered
  rw [holding?_load, if_pos rfl, effects_load, daemon_load, hentry, hfetch]
  refine ⟨?_, hwatched, fun more hmem htouches => ?_⟩
  · refine (congrArg some hattached).trans ?_
    simp only [SimulatedModem.lastChange_decoded]
    rfl
  · obtain ⟨epoch, rfl⟩ := heffects more hmem
    rcases htouches with (hwatch | hwatch) | hunwatch
    · cases hwatch
    · cases hwatch
    · cases hunwatch

/-! ### Effects in a row -/

theorem sameBus_carryOutAll (hsound : service.daemon.failing = []) (effects : List Effect) :
    service.daemon.SameBus (service.carryOutAll effects).1.daemon :=
  carryOutAll_keeps (fun later => service.daemon.SameBus later.daemon) (fun _ effect hsame =>
    hsame.trans (sameBus_carryOut (hsame.failing.trans hsound) effect)) (.refl _) effects

theorem sameBus_settleEffects (hsound : service.daemon.failing = []) (depth : Nat)
    (effects : List Effect) :
    service.daemon.SameBus (settleEffects depth service effects).daemon :=
  settleEffects_keeps (fun later => service.daemon.SameBus later.daemon) (fun _ effect hsame =>
    hsame.trans (sameBus_carryOut (hsame.failing.trans hsound) effect)) (.refl _) depth effects

theorem holding?_carryOutAll (hsound : service.daemon.failing = []) {effects : List Effect}
    (hquiet : ∀ effect ∈ effects, ¬ effect.Loads path interface) :
    (service.carryOutAll effects).1.holding? path interface = service.holding? path interface ∧
      ∀ more ∈ (service.carryOutAll effects).2, ¬ more.Touches path interface := by
  induction effects generalizing service with
  | nil => exact ⟨rfl, nofun⟩
  | cons effect rest ih =>
    obtain ⟨hkept, hmore⟩ := holding?_carryOut hsound (hquiet effect List.mem_cons_self)
    obtain ⟨hkepts, hmores⟩ := ih ((sameBus_carryOut hsound effect).failing.trans hsound)
      fun other hother => hquiet other (.tail _ hother)
    refine ⟨hkepts.trans hkept, fun more hmem => ?_⟩
    rcases List.mem_append.1 hmem with hfirst | hrest
    · exact hmore more hfirst
    · exact hmores more hrest

theorem isWatched_carryOutAll (hsound : service.daemon.failing = []) {effects : List Effect}
    (huntouched : ∀ effect ∈ effects, ¬ effect.Touches path interface) :
    (service.carryOutAll effects).1.daemon.isWatched path interface =
      service.daemon.isWatched path interface := by
  induction effects generalizing service with
  | nil => rfl
  | cons effect rest ih =>
    have hsounds := (sameBus_carryOut hsound effect).failing.trans hsound
    calc
      _ = (service.carryOut effect).1.daemon.isWatched path interface :=
        ih hsounds fun other hother => huntouched other (.tail _ hother)
      _ = service.daemon.isWatched path interface :=
        isWatched_carryOut hsound (huntouched effect List.mem_cons_self)

/-- While none of the effects loads the interface, what is held of it stays. -/
theorem holding?_settleEffects (hsound : service.daemon.failing = []) (depth : Nat)
    {effects : List Effect} (hquiet : ∀ effect ∈ effects, ¬ effect.Loads path interface) :
    (settleEffects depth service effects).holding? path interface =
      service.holding? path interface := by
  induction depth generalizing service effects with
  | zero => rfl
  | succ depth ih =>
    obtain ⟨hkept, hmore⟩ := holding?_carryOutAll hsound hquiet
    have hsounds := (sameBus_carryOutAll hsound effects).failing.trans hsound
    calc
      _ = (service.carryOutAll effects).1.holding? path interface :=
        ih hsounds fun more hmem hloads => hmore more hmem (.inl hloads)
      _ = service.holding? path interface := hkept

theorem isWatched_settleEffects (hsound : service.daemon.failing = []) (depth : Nat)
    {effects : List Effect} (huntouched : ∀ effect ∈ effects, ¬ effect.Touches path interface) :
    (settleEffects depth service effects).daemon.isWatched path interface =
      service.daemon.isWatched path interface := by
  induction depth generalizing service effects with
  | zero => rfl
  | succ depth ih =>
    obtain ⟨-, hmore⟩ := holding?_carryOutAll hsound fun effect hmem hloads =>
      huntouched effect hmem (.inl hloads)
    have hsounds := (sameBus_carryOutAll hsound effects).failing.trans hsound
    calc
      _ = (service.carryOutAll effects).1.daemon.isWatched path interface := ih hsounds hmore
      _ = service.daemon.isWatched path interface := isWatched_carryOutAll hsound huntouched

theorem holding?_carryOutAll_of_unavailable (hsound : service.daemon.failing = [])
    (htracked : interface ≠ .modem)
    (hunavailable : ∀ holding, service.holding? path interface = some holding →
      holding.offered.has interface = true → ¬ service.daemon.Offers path interface)
    {effects : List Effect} (hmodem : ∀ effect ∈ effects, effect ≠ .watch path .modem) :
    (service.carryOutAll effects).1.holding? path interface = service.holding? path interface ∧
      ∀ more ∈ (service.carryOutAll effects).2, ¬ more.Loads path interface := by
  induction effects generalizing service with
  | nil => exact ⟨rfl, nofun⟩
  | cons effect rest ih =>
    have hsame := sameBus_carryOut hsound effect
    obtain ⟨hkept, hmore⟩ := holding?_carryOut_of_unavailable hsound htracked hunavailable
      (hmodem effect List.mem_cons_self)
    obtain ⟨hkepts, hmores⟩ := ih (hsame.failing.trans hsound)
      (fun holding hholding hoffered hoffers => by
        obtain ⟨modem, hthere, hyes⟩ := hoffers
        exact hunavailable holding (hkept.symm.trans hholding) hoffered
          ⟨modem, (hsame.modem? path).symm.trans hthere, hyes⟩)
      fun other hother => hmodem other (.tail _ hother)
    refine ⟨hkepts.trans hkept, fun more hmem => ?_⟩
    rcases List.mem_append.1 hmem with hfirst | hrest
    · exact hmore more hfirst
    · exact hmores more hrest

theorem carryOutAll_append (effects more : List Effect) :
    service.carryOutAll (effects ++ more) =
      (((service.carryOutAll effects).1.carryOutAll more).1,
        (service.carryOutAll effects).2 ++ ((service.carryOutAll effects).1.carryOutAll more).2) := by
  induction effects generalizing service with
  | nil => rfl
  | cons effect rest ih =>
    simp only [List.cons_append, carryOutAll, ih, List.append_assoc]

/-- The modem is known to offer the interface, and does; nothing of it is held yet. -/
structure Awaits (service : Service Simulator) (path : ModemPath) (interface : Interface)
    (modem : SimulatedModem) (offered : InterfaceSet) : Prop where
  there : service.daemon.modem? path = some modem
  offers : modem.offers interface = true
  holding : service.holding? path interface = some ⟨offered, false, blankField interface⟩
  offered : offered.has interface = true

/-- The interface is attached with what the modem stores, and watched. -/
structure Follows (service : Service Simulator) (path : ModemPath) (interface : Interface)
    (modem : SimulatedModem) (offered : InterfaceSet) : Prop where
  holding : service.holding? path interface = some ⟨offered, true, modem.shown interface⟩
  watched : service.daemon.isWatched path interface = true

/-- Among effects that do not touch it otherwise, an interface is loaded once. -/
theorem carryOutAll_follows (hsound : service.daemon.failing = []) (htracked : interface ≠ .modem)
    {modem : SimulatedModem} {offered : InterfaceSet}
    (hawaits : service.Awaits path interface modem offered) {before after : List Effect}
    (huntouched : ∀ effect ∈ before ++ after, ¬ effect.Touches path interface) :
    (service.carryOutAll (before ++ .watch path interface :: after)).1.Follows path interface modem
        offered ∧
      ∀ more ∈ (service.carryOutAll (before ++ .watch path interface :: after)).2,
        ¬ more.Touches path interface := by
  have hbefore := fun effect hmem => huntouched effect (List.mem_append_left after hmem)
  have hafter := fun effect hmem => huntouched effect (List.mem_append_right before hmem)
  have hquiet : ∀ effects : List Effect, (∀ effect ∈ effects, ¬ effect.Touches path interface) →
      ∀ effect ∈ effects, ¬ effect.Loads path interface := fun effects hnone effect hmem hloads =>
    hnone effect hmem (.inl hloads)
  have hsame := sameBus_carryOutAll hsound before
  obtain ⟨hkept, hfirst⟩ := holding?_carryOutAll hsound (hquiet before hbefore)
  have hsounds := hsame.failing.trans hsound
  obtain ⟨hattached, hwatched, hsecond⟩ := load_attached hsounds htracked
    ((hsame.modem? path).trans hawaits.there) hawaits.offers (hkept.trans hawaits.holding)
    hawaits.offered
  have hsoundest := (sameBus_carryOut hsounds (.watch path interface)).failing.trans hsounds
  obtain ⟨hkepts, hthird⟩ := holding?_carryOutAll hsoundest (hquiet after hafter)
  rw [carryOutAll_append]
  refine ⟨⟨hkepts.trans hattached, (isWatched_carryOutAll hsoundest hafter).trans hwatched⟩,
    fun more hmem => ?_⟩
  rcases List.mem_append.1 hmem with hmem | hmem
  · exact hfirst more hmem
  · rcases List.mem_append.1 hmem with hmem | hmem
    · exact hsecond more hmem
    · exact hthird more hmem

theorem Follows.settleEffects {modem : SimulatedModem} {offered : InterfaceSet}
    (hfollows : service.Follows path interface modem offered)
    (hsound : service.daemon.failing = []) (depth : Nat) {effects : List Effect}
    (huntouched : ∀ effect ∈ effects, ¬ effect.Touches path interface) :
    (settleEffects depth service effects).Follows path interface modem offered where
  holding := (holding?_settleEffects hsound depth fun effect hmem hloads =>
    huntouched effect hmem (.inl hloads)).trans hfollows.holding
  watched := (isWatched_settleEffects hsound depth huntouched).trans hfollows.watched

theorem settleEffects_follows (hsound : service.daemon.failing = []) (htracked : interface ≠ .modem)
    {modem : SimulatedModem} {offered : InterfaceSet}
    (hawaits : service.Awaits path interface modem offered) {before after : List Effect}
    (huntouched : ∀ effect ∈ before ++ after, ¬ effect.Touches path interface) (depth : Nat) :
    (settleEffects (depth + 1) service (before ++ .watch path interface :: after)).Follows path
      interface modem offered := by
  obtain ⟨hfollows, hmore⟩ := carryOutAll_follows hsound htracked hawaits huntouched
  exact hfollows.settleEffects ((sameBus_carryOutAll hsound _).failing.trans hsound) depth hmore

theorem settleEffects_of_unavailable (hsound : service.daemon.failing = [])
    (htracked : interface ≠ .modem)
    (hunavailable : ∀ holding, service.holding? path interface = some holding →
      holding.offered.has interface = true → ¬ service.daemon.Offers path interface)
    {effects : List Effect} (hmodem : ∀ effect ∈ effects, effect ≠ .watch path .modem)
    (depth : Nat) :
    (settleEffects depth service effects).holding? path interface =
      service.holding? path interface := by
  cases depth with
  | zero => rfl
  | succ depth =>
    obtain ⟨hkept, hmore⟩ :=
      holding?_carryOutAll_of_unavailable hsound htracked hunavailable hmodem
    have hsounds := (sameBus_carryOutAll hsound effects).failing.trans hsound
    calc
      _ = (service.carryOutAll effects).1.holding? path interface :=
        holding?_settleEffects hsounds depth hmore
      _ = service.holding? path interface := hkept

/-! ### The modem's own interface -/

/-- Asks for the interfaces in one set beyond another, and for others to be given up. -/
def Asks (path : ModemPath) (current previous : InterfaceSet) (effects : List Effect) : Prop :=
  ∃ gone, effects = gone ++ (Entry.beyond current previous).map (.watch path) ∧
    ∀ effect ∈ gone, ∃ ended, ended ≠ .modem ∧ current.has ended = false ∧
      effect = .unwatch path ended

theorem Asks.ne_modem {current previous : InterfaceSet} {effects : List Effect}
    (hasks : Asks path current previous effects) :
    ∀ effect ∈ effects, effect ≠ .watch path .modem := by
  obtain ⟨gone, rfl, hgone⟩ := hasks
  rintro effect hmem rfl
  rcases List.mem_append.1 hmem with hleft | hright
  · obtain ⟨ended, -, -, heffect⟩ := hgone _ hleft
    cases heffect
  · obtain ⟨come, hcome, heffect⟩ := List.mem_map.1 hright
    cases heffect
    exact (Entry.mem_beyond_iff.1 hcome).1 rfl

theorem Asks.not_loads {current previous : InterfaceSet} {effects : List Effect}
    (hasks : Asks path current previous effects)
    (hnot : interface ∉ Entry.beyond current previous) :
    ∀ effect ∈ effects, ¬ effect.Loads path interface := by
  intro effect hmem hloads
  rcases hloads with rfl | hmodem
  · obtain ⟨gone, rfl, hgone⟩ := hasks
    rcases List.mem_append.1 hmem with hleft | hright
    · obtain ⟨ended, -, -, heffect⟩ := hgone _ hleft
      cases heffect
    · obtain ⟨come, hcome, heffect⟩ := List.mem_map.1 hright
      cases heffect
      exact hnot hcome
  · exact hasks.ne_modem effect hmem hmodem

theorem Asks.not_touches {current previous : InterfaceSet} {effects : List Effect}
    (hasks : Asks path current previous effects)
    (hkept : interface ≠ .modem → current.has interface = true)
    (hnot : interface ∉ Entry.beyond current previous) :
    ∀ effect ∈ effects, ¬ effect.Touches path interface := by
  intro effect hmem htouches
  rcases htouches with hloads | rfl
  · exact hasks.not_loads hnot effect hmem hloads
  · obtain ⟨gone, rfl, hgone⟩ := hasks
    rcases List.mem_append.1 hmem with hleft | hright
    · obtain ⟨ended, htracked, hended, heffect⟩ := hgone _ hleft
      cases heffect
      rw [hkept htracked] at hended
      cases hended
    · obtain ⟨come, -, heffect⟩ := List.mem_map.1 hright
      cases heffect

/-- An interface that is asked for is asked for once. -/
theorem Asks.split {current previous : InterfaceSet} {effects : List Effect}
    (hasks : Asks path current previous effects) (hmem : interface ∈ Entry.beyond current previous) :
    ∃ before after, effects = before ++ .watch path interface :: after ∧
      ∀ effect ∈ before ++ after, ¬ effect.Touches path interface := by
  obtain ⟨gone, rfl, hgone⟩ := hasks
  obtain ⟨first, rest, hbeyond⟩ := List.append_of_mem hmem
  have hnodup := Entry.nodup_beyond current previous
  rw [hbeyond] at hnodup
  have hothers := (List.nodup_cons.1 (List.nodup_middle.1 hnodup)).1
  have htracked := (Entry.mem_beyond_iff.1 hmem).1
  refine ⟨gone ++ first.map (.watch path), rest.map (.watch path), by simp [hbeyond], ?_⟩
  intro effect heffect htouches
  rw [List.append_assoc, ← List.map_append] at heffect
  rcases List.mem_append.1 heffect with hleft | hright
  · obtain ⟨ended, -, hended, rfl⟩ := hgone _ hleft
    rcases htouches with (hwatch | hwatch) | hunwatch
    · cases hwatch
    · cases hwatch
    · cases hunwatch
      rw [(Entry.mem_beyond_iff.1 hmem).2.1] at hended
      cases hended
  · obtain ⟨come, hcome, rfl⟩ := List.mem_map.1 hright
    rcases htouches with (hwatch | hwatch) | hunwatch
    · cases hwatch
      exact hothers hcome
    · cases hwatch
      refine (Entry.mem_beyond_iff.1 (?_ : Interface.modem ∈ Entry.beyond current previous)).1 rfl
      rw [hbeyond]
      exact List.mem_append.2 ((List.mem_append.1 hcome).imp id (.tail _))
    · cases hunwatch

end Service

end Telephony

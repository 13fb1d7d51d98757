import Telephony.Proofs.News.Departures
import Telephony.Proofs.Subscriptions.Offers

/-!
# Consistent entries

An entry keeps of its modem what the modem offers, and nothing else: what is attached is on offer,
and what is not attached has the fields that it will begin with. Every other value that is kept was
brought by a change. So what can be said of all changes, such as the range of a number that has been
decoded, can be said of all that is kept.
-/

namespace Telephony

open Switchboard (Operation makes_of_perform)

/-- The change is what some value of some property is decoded to. -/
def Change.Decoded (change : Change) : Prop :=
  ∃ interface name value, Change.decode interface name value = some change

theorem Change.decoded_of_mem {interface : Interface} {properties : List (String × Wire.Value)}
    {change : Change} (hmem : change ∈ decodeAll interface properties) : change.Decoded := by
  obtain ⟨⟨name, value⟩, -, hdecode⟩ := List.mem_filterMap.1 hmem
  exact ⟨interface, name, value, hdecode⟩

/-- A signal strength that was decoded is a percentage. -/
theorem Change.Decoded.strength_le {percent : UInt8}
    (hdecoded : (Change.network (.strength percent)).Decoded) : percent ≤ 100 := by
  obtain ⟨interface, name, value, hdecode⟩ := hdecoded
  obtain ⟨hinterface, hname⟩ := concerns_of_decode hdecode
  subst hinterface hname
  simp only [decode, Change.interface, Change.name, decodeNetwork,
    Option.map_eq_some_iff] at hdecode
  obtain ⟨property, ⟨number, -, hproperty⟩, hchange⟩ := hdecode
  subst hproperty
  cases hchange
  rw [UInt8.le_iff_toNat_le, UInt8.toNat_ofNat']
  exact Nat.le_trans (Nat.mod_le _ _) (Nat.min_le_right _ _)

namespace Entry

/-- What is attached is on offer; what is not attached has the fields that it will begin with. -/
structure Settled (entry : Entry) : Prop where
  anchored : entry.Anchored
  blank : ∀ interface, interface ≠ .modem → entry.attached interface = false →
    entry.field interface = blankField interface

/-- All fields of a settled entry have the value that they began with, or one that is allowed. -/
structure Sound (Allowed : Change → Prop) (entry : Entry) : Prop extends entry.Settled where
  allowed : ∀ interface name value, entry.field interface name = some value →
    blankField interface name = some value ∨ Allowed value

variable {entry after : Entry} {Allowed : Change → Prop}

/-! ### Steps that bring no value -/

theorem field_attach (path : ModemPath) (epoch : UInt64) (entry : Entry) (come interface : Interface) :
    (entry.attach path epoch come).1.field interface = entry.field interface := by
  by_cases hcome : come = interface
  · subst hcome
    exact congrArg Holding.field (entry.holding_attach path epoch come)
  · exact congrArg Holding.field (entry.holding_attach_of_ne path epoch hcome)

theorem holding_requests (entry : Entry) {requests : Requests}
    (hpending : requests.isPending = entry.requests.isPending) (interface : Interface) :
    holding { entry with requests } interface = entry.holding interface :=
  Holding.ext rfl (entry.attached_requests hpending interface) fun _ => by cases interface <;> rfl

theorem Settled.of_holding (hsettled : entry.Settled)
    (hholding : ∀ interface, after.holding interface = entry.holding interface) :
    after.Settled where
  anchored interface htracked :=
    hsettled.anchored.has_of_holding (hholding interface) htracked
  blank interface htracked hnone := by
    have hfield : after.field interface = entry.field interface :=
      congrArg Holding.field (hholding interface)
    have hattached : after.attached interface = entry.attached interface :=
      congrArg Holding.attached (hholding interface)
    exact hfield.trans (hsettled.blank interface htracked (hattached.symm.trans hnone))

/-! ### Changes -/

variable (observers : Observers) (path : ModemPath)

/-- What a modem withdraws has the fields again that it began with. -/
theorem Settled.of_withdraws (hsettled : entry.Settled) {change : Change} {interface : Interface}
    (hwithdraws : change.Withdraws interface) :
    (entry.change observers path change).1.field interface = blankField interface := by
  obtain ⟨htracked, current, rfl, hwithdrawn⟩ := hwithdraws
  exact (setInterfaces_of_withdrawn observers path entry htracked hwithdrawn
    (hsettled.anchored interface htracked) (hsettled.blank interface htracked)).2

theorem Settled.change (hsettled : entry.Settled) (change : Change) :
    (entry.change observers path change).1.Settled where
  anchored := (hsettled.anchored.reconciles_change change).anchored
  blank interface htracked hnone := by
    by_cases hwithdraws : change.Withdraws interface
    · exact hsettled.of_withdraws observers path hwithdraws
    · obtain ⟨hattached, hfield⟩ := change_of_kept observers path entry hwithdraws
      have haway : entry.attached interface = false := hattached.symm.trans hnone
      refine funext fun name => (hfield name).trans ?_
      rw [if_neg fun hboth => Bool.false_ne_true (haway.symm.trans hboth.2),
        hsettled.blank interface htracked haway]

theorem lasting_settled : Lasting Settled where
  new := ⟨lasting_anchored.new, fun _ _ _ => rfl⟩
  mark {entry} hsettled marked := hsettled.of_holding (entry.holding_mark marked)
  told {entry} hsettled := hsettled.of_holding entry.holding_told
  attach {entry} hsettled path epoch come hoffers := by
    refine ⟨lasting_anchored.attach hsettled.anchored path epoch come hoffers,
      fun interface htracked hnone => ?_⟩
    have hne : come ≠ interface := by
      rintro rfl
      have hyes := congrArg Holding.attached (entry.holding_attach path epoch come)
      exact Bool.false_ne_true (hnone.symm.trans hyes)
    have hattached := congrArg Holding.attached (entry.holding_attach_of_ne path epoch hne)
    exact (field_attach path epoch entry come interface).trans
      (hsettled.blank interface htracked (hattached.symm.trans hnone))
  change hsettled observers path change := hsettled.change observers path change
  requests {entry} hsettled _ hpending := hsettled.of_holding (entry.holding_requests hpending)

theorem Sound.change (hsound : entry.Sound Allowed) {change : Change} (hallowed : Allowed change) :
    (entry.change observers path change).1.Sound Allowed where
  toSettled := hsound.toSettled.change observers path change
  allowed interface name value hfield := by
    by_cases hwithdraws : change.Withdraws interface
    · rw [hsound.of_withdraws observers path hwithdraws] at hfield
      exact .inl hfield
    · rw [(change_of_kept observers path entry hwithdraws).2 name] at hfield
      split at hfield
      · cases hfield
        exact .inr hallowed
      · exact hsound.allowed interface name value hfield

theorem Sound.changeAll (hsound : entry.Sound Allowed) {changes : List Change}
    (hallowed : ∀ change ∈ changes, Allowed change) :
    (entry.changeAll observers path changes).1.Sound Allowed := by
  induction changes generalizing entry with
  | nil => exact hsound
  | cons change rest ih =>
    exact ih (hsound.change observers path (hallowed change List.mem_cons_self))
      fun other hother => hallowed other (.tail _ hother)

/-- Steps that leave all fields alone bring no value. -/
theorem Sound.of_field (hsound : entry.Sound Allowed) (hsettled : after.Settled)
    (hfield : ∀ interface, after.field interface = entry.field interface) :
    after.Sound Allowed where
  toSettled := hsettled
  allowed interface name value hvalue := by
    rw [hfield] at hvalue
    exact hsound.allowed interface name value hvalue

theorem Sound.mark (hsound : entry.Sound Allowed) (marked : Interface) :
    (entry.mark marked).Sound Allowed :=
  hsound.of_field (lasting_settled.mark hsound.toSettled marked) fun interface =>
    congrArg Holding.field (entry.holding_mark marked interface)

theorem sound_new (Allowed : Change → Prop) : new.Sound Allowed :=
  ⟨lasting_settled.new, fun _ _ _ hfield => .inl hfield⟩

/-- Loading brings the properties that were loaded. -/
theorem Sound.loadEntry (hsound : entry.Sound Allowed) (board : Switchboard) (interface : Interface)
    {result : Except Failure (List Change)}
    (hallowed : ∀ properties, result = .ok properties → ∀ change ∈ properties, Allowed change) :
    (board.loadEntry path interface result entry).1.Sound Allowed := by
  cases hoffered : entry.offers interface with
  | false => rwa [Switchboard.loadEntry_of_withdrawn hoffered]
  | true =>
    cases result with
    | error failure => rwa [Switchboard.loadEntry_error]
    | ok properties =>
      have hattached : (entry.attach path (board.drains + 1) interface).1.Sound Allowed :=
        hsound.of_field
          (lasting_settled.attach hsound.toSettled path (board.drains + 1) interface hoffered)
          (field_attach path (board.drains + 1) entry interface)
      rw [Switchboard.loadEntry_ok hoffered]
      exact (hattached.changeAll board.observers path (hallowed properties rfl)).mark interface

end Entry

/-! ### Boards -/

namespace Switchboard

open Entry (Sound)

variable {board : Switchboard} {Allowed : Change → Prop}

theorem Every.perform_sound (hevery : board.Every (Sound Allowed)) {operation : Operation}
    (hallowed : ∀ change ∈ operation.changes, Allowed change) :
    (board.perform operation).Every (Sound Allowed) := by
  intro path entry hentry
  by_cases hflush : operation = .flush
  · subst hflush
    obtain ⟨before, hbefore, rfl⟩ :=
      Option.map_eq_some_iff.1 ((board.lookup_flush path).symm.trans hentry)
    have hsound := hevery path before hbefore
    exact hsound.of_field (Entry.lasting_settled.told hsound.toSettled) fun interface =>
      congrArg Holding.field (before.holding_told interface)
  · cases makes_of_perform hflush hentry with
    | kept requests hbefore hpending =>
      have hsound := hevery path _ hbefore
      exact hsound.of_field
        (Entry.lasting_settled.requests hsound.toSettled requests hpending) fun interface =>
          congrArg Holding.field (Entry.holding_requests _ hpending interface)
    | added properties hoperation =>
      subst hoperation
      have hsound := hevery.getD_new (Entry.sound_new Allowed) path
      exact (hsound.changeAll board.observers path hallowed).mark .modem
    | changed change hbefore hoperation =>
      subst hoperation
      exact (hevery path _ hbefore).change board.observers path (hallowed change List.mem_cons_self)
    | loaded interface result hbefore hoperation =>
      subst hoperation
      exact (hevery path _ hbefore).loadEntry path board interface fun properties hresult => by
        subst hresult
        exact hallowed

theorem Every.run_sound (hevery : board.Every (Sound Allowed)) {operations : List Operation}
    (hallowed : ∀ operation ∈ operations, ∀ change ∈ operation.changes, Allowed change) :
    (board.run operations).Every (Sound Allowed) := by
  induction operations generalizing board with
  | nil => exact hevery
  | cons operation rest ih =>
    exact ih (hevery.perform_sound (hallowed operation List.mem_cons_self))
      fun other hother => hallowed other (.tail _ hother)

/-- Whatever is kept of a modem was brought by an operation, or is what is kept at first. -/
theorem sound_run (operations : List Operation) :
    ((∅ : Switchboard).run operations).Every
      (Sound fun change => ∃ operation ∈ operations, change ∈ operation.changes) :=
  (every_empty _).run_sound fun operation hmem _ hchange => ⟨operation, hmem, hchange⟩

end Switchboard

/-- What an entry keeps fits together. -/
structure Entry.Consistent (entry : Entry) : Prop where
  offered : ∀ interface ∈ Interface.tracked, entry.attached interface = true →
    entry.modem.state.interfaces.has interface = true
  numbers : entry.attached .voiceCallManager = false → entry.modem.state.emergencyNumbers = []
  modem : entry.modem.state.tracked = true
  sim : ∀ sim ∈ entry.sim, sim.tracker.state.tracked = true
  network : ∀ tracker ∈ entry.network, tracker.state.tracked = true
  data : ∀ tracker ∈ entry.data, tracker.state.tracked = true

theorem Entry.Settled.consistent {entry : Entry} (hsettled : entry.Settled) (hlive : entry.Live) :
    entry.Consistent := by
  obtain ⟨hmodem, hsim, hnetwork, hdata⟩ := Entry.live_iff.1 hlive
  refine ⟨fun interface hmem => hsettled.anchored interface (Interface.mem_tracked_iff.1 hmem),
    fun hnone => ?_, hmodem, hsim, hnetwork, hdata⟩
  have hblank := congrFun (hsettled.blank .voiceCallManager nofun hnone) "EmergencyNumbers"
  have hnumbers : some (Change.voice (.emergencyNumbers entry.modem.state.emergencyNumbers)) =
      some (.voice (.emergencyNumbers [])) := hblank
  simpa using hnumbers

/-- If all changes were decoded, the signal strength is a percentage. -/
theorem Entry.Sound.strength_le {entry : Entry} (hsound : entry.Sound Change.Decoded)
    {tracker : Tracker Network.State} (htracker : tracker ∈ entry.network) :
    tracker.state.strength ≤ 100 := by
  have hfield : entry.field .networkRegistration "Strength" =
      some (.network (.strength tracker.state.strength)) := by
    rw [field, htracker]
    rfl
  rcases hsound.allowed _ _ _ hfield with hblank | hdecoded
  · have hzero : some (Change.network (.strength 0)) =
        some (.network (.strength tracker.state.strength)) := hblank
    simp only [Option.some.injEq, Change.network.injEq, Network.Property.strength.injEq] at hzero
    rw [← hzero]
    decide
  · exact hdecoded.strength_le

namespace Switchboard

/-- Whatever has been done to a switchboard, its entries are consistent; and if all changes were
decoded, every signal strength is a percentage. -/
theorem consistent_run (operations : List Operation) :
    ((∅ : Switchboard).run operations).Every Entry.Consistent ∧
      ((∀ operation ∈ operations, ∀ change ∈ operation.changes, change.Decoded) →
        ((∅ : Switchboard).run operations).Every fun entry =>
          ∀ tracker ∈ entry.network, tracker.state.strength ≤ 100) := by
  have hsettled := (every_empty Entry.Settled).run Entry.lasting_settled operations
  have hlive := live_run operations
  constructor
  · intro path entry hentry
    exact (hsettled path entry hentry).consistent (hlive path entry hentry)
  · intro hdecoded path entry hentry tracker htracker
    exact ((every_empty _).run_sound hdecoded path entry hentry).strength_le htracker

/-- A strength of a hundred and fifty per cent is kept as one of a hundred. -/
theorem consistent_run_loud :
    let modem : ModemPath := ⟨"/modem_0"⟩
    let offered := Change.decodeAll .modem
      [("Interfaces", .array [.text "org.ofono.NetworkRegistration"])]
    let found := Change.decodeAll .networkRegistration
      [("Strength", .int .byte 150), ("Technology", .text "lte")]
    let operations : List Operation :=
      [.apply (.modemAdded modem offered), .loaded modem .networkRegistration (.ok found), .flush]
    let board := (∅ : Switchboard).run operations
    (∀ operation ∈ operations, ∀ change ∈ operation.changes, change.Decoded) ∧
      (board.network? modem).map (·.strength) = some 100 ∧
      board.Every fun entry => ∀ tracker ∈ entry.network, tracker.state.strength ≤ 100 := by
  intro modem offered found operations board
  have hdecoded : ∀ operation ∈ operations, ∀ change ∈ operation.changes, change.Decoded := by
    intro operation hoperation change hchange
    simp only [operations, List.mem_cons, List.not_mem_nil, or_false] at hoperation
    rcases hoperation with rfl | rfl | rfl
    · exact Change.decoded_of_mem hchange
    · exact Change.decoded_of_mem hchange
    · cases hchange
  exact ⟨hdecoded, by decide +kernel, (consistent_run operations).2 hdecoded⟩

end Switchboard

end Telephony

import Telephony.Service.Basic

/-!
# Carrying out effects

What the switchboard and the service do with the outcome of watching an interface and fetching its
properties, case by case, and what stays through all the effects of an event.
-/

namespace Telephony

/-- What an interface brings is told at the next flush, not as it is attached. -/
theorem Entry.deliveries_attach (path : ModemPath) (epoch : UInt64) (entry : Entry)
    (interface : Interface) : (entry.attach path epoch interface).2.deliveries = [] := by
  cases interface with
  | supplementaryServices =>
    cases hrequests : entry.requests with
    | pending queue => cases queue <;> simp [attach, hrequests, Outcome.ofEffect]
    | draining queue current => simp [attach, hrequests]
    | direct => simp [attach, hrequests]
  | _ => rfl

namespace Switchboard

/-- What is asked for when an interface is not attached after all. -/
def refusal (path : ModemPath) (interface : Interface) : Outcome :=
  if interface = .modem then ∅ else .ofEffect (.unwatch path interface)

theorem loadEntry_of_withdrawn {entry : Entry} {interface : Interface}
    (hwithdrawn : entry.offers interface = false) (board : Switchboard) (path : ModemPath)
    (result : Except Failure (List Change)) :
    board.loadEntry path interface result entry = (entry, refusal path interface) := by
  simp [loadEntry, hwithdrawn, refusal]

theorem loadEntry_error (board : Switchboard) (path : ModemPath) (interface : Interface)
    (failure : Failure) (entry : Entry) :
    board.loadEntry path interface (.error failure) entry = (entry, refusal path interface) := by
  simp [loadEntry, refusal]

theorem loadEntry_ok {entry : Entry} {interface : Interface}
    (hoffered : entry.offers interface = true) (board : Switchboard) (path : ModemPath)
    (properties : List Change) :
    board.loadEntry path interface (.ok properties) entry =
      let attached := entry.attach path (board.drains + 1) interface
      let changed := attached.1.changeAll board.observers path properties
      (changed.1.mark interface, attached.2 ++ changed.2) := by
  simp [loadEntry, hoffered]

/-- Only the entry of the modem is changed. -/
theorem lookup_onEntry (board : Switchboard) (path : ModemPath)
    (step : Entry → Entry × Outcome) (other : ModemPath) :
    Switchboard.entry? (board.onEntry path step).1 other =
      if path = other then (board.entry? path).map fun entry => (step entry).1
      else board.entry? other := by
  unfold onEntry
  cases hentry : board.entry? path with
  | none =>
    by_cases hpath : path = other
    · rw [if_pos hpath, ← hpath]
      exact hentry
    · rw [if_neg hpath]
  | some entry => exact Table.get?_insert board.modems path other _

/-- A step on one entry changes nothing but the entries. -/
theorem onEntry_eq (board : Switchboard) (path : ModemPath) (step : Entry → Entry × Outcome) :
    ∃ modems, (board.onEntry path step).1 = { board with modems } := by
  unfold onEntry
  split
  · exact ⟨board.modems, rfl⟩
  · exact ⟨_, rfl⟩

/-- Loading counts a new drain at most, beside what it does to the entry. -/
theorem loaded_eq (board : Switchboard) (path : ModemPath) (interface : Interface)
    (result : Except Failure (List Change)) :
    ∃ drains, board.loaded path interface result =
      ({ (board.onEntry path (board.loadEntry path interface result)).1 with drains },
        (board.onEntry path (board.loadEntry path interface result)).2) := by
  refine ⟨(board.loaded path interface result).1.drains, ?_⟩
  simp only [loaded]
  split
  · split <;> rfl
  · rfl

theorem removeModem_of_unknown {board : Switchboard} {path : ModemPath}
    (hentry : board.entry? path = none) : board.removeModem path = (board, ∅) := by
  unfold removeModem
  rw [hentry]

theorem lookup_addModem (board : Switchboard) (path : ModemPath) (properties : List Change)
    (other : ModemPath) :
    Switchboard.entry? (board.addModem path properties).1 other =
      if path = other then
        some ((((board.entry? path).getD .new).changeAll board.observers path properties).1.mark
          .modem)
      else board.entry? other :=
  Table.get?_insert board.modems path other _

theorem lookup_removeModem (board : Switchboard) (path other : ModemPath) :
    Switchboard.entry? (board.removeModem path).1 other =
      if path = other then none else board.entry? other := by
  cases hentry : board.entry? path with
  | none =>
    rw [removeModem_of_unknown hentry]
    by_cases hpath : path = other
    · rw [if_pos hpath, ← hpath]
      exact hentry
    · rw [if_neg hpath]
  | some entry =>
    simp only [removeModem, hentry]
    exact Table.get?_erase board.modems path other

theorem lookup_apply_of_ne (board : Switchboard) {event : Event} {other : ModemPath}
    (hne : event.path ≠ other) :
    Switchboard.entry? (board.apply event).1 other = board.entry? other := by
  cases event with
  | modemAdded path properties => exact (lookup_addModem board path _ other).trans (if_neg hne)
  | modemRemoved path => exact (lookup_removeModem board path other).trans (if_neg hne)
  | propertyChanged path change => exact (lookup_onEntry board path _ other).trans (if_neg hne)

theorem board_loaded (board : Switchboard) (path : ModemPath) (interface : Interface)
    (result : Except Failure (List Change)) :
    ∃ modems drains, (board.loaded path interface result).1 = { board with modems, drains } := by
  obtain ⟨drains, hloaded⟩ := loaded_eq board path interface result
  obtain ⟨modems, hentry⟩ := onEntry_eq board path (board.loadEntry path interface result)
  refine ⟨modems, drains, ?_⟩
  rw [hloaded, hentry]

theorem lookup_loaded (board : Switchboard) (path : ModemPath) (interface : Interface)
    (result : Except Failure (List Change)) (other : ModemPath) :
    Switchboard.entry? (board.loaded path interface result).1 other =
      if path = other then
        (board.entry? path).map fun entry => (board.loadEntry path interface result entry).1
      else board.entry? other := by
  obtain ⟨drains, hloaded⟩ := loaded_eq board path interface result
  rw [hloaded]
  exact lookup_onEntry board path _ other

theorem lookup_flush (board : Switchboard) (path : ModemPath) :
    Switchboard.entry? board.flush.1 path = (board.entry? path).map Entry.told :=
  Table.get?_mapValues _ board.modems path

theorem sim?_flush (board : Switchboard) (path : ModemPath) :
    board.flush.1.sim? path = board.sim? path := by
  unfold sim?
  rw [lookup_flush]
  cases board.entry? path with
  | none => rfl
  | some entry =>
    cases hsim : entry.sim with
    | none => simp [Entry.told, hsim]
    | some tracker =>
      simp only [Entry.told, hsim, Option.map_some, Option.bind_some]
      split <;> rfl

end Switchboard

namespace Service

variable {δ : Type}

/-- Telling news changes nothing but what has been heard. -/
theorem deliverAll_eq (service : Service δ) (deliveries : List Delivery) :
    ∃ heard, service.deliverAll deliveries = { service with heard } := by
  unfold deliverAll
  induction deliveries generalizing service with
  | nil => exact ⟨service.heard, rfl⟩
  | cons delivery rest ih => exact ih (service.deliver delivery)

theorem flush_eq (service : Service δ) :
    ∃ heard roster,
      service.flush = { service with board := service.board.flush.1, heard, roster } := by
  obtain ⟨heard, hdelivered⟩ := deliverAll_eq
    { service with board := service.board.flush.1 } service.board.flush.2
  refine ⟨heard, service.roster.set service.board.flush.1.paths, ?_⟩
  simp only [flush, hdelivered]

theorem board_flush (service : Service δ) : service.flush.board = service.board.flush.1 := by
  obtain ⟨heard, roster, hflush⟩ := service.flush_eq
  rw [hflush]

theorem daemon_flush (service : Service δ) : service.flush.daemon = service.daemon := by
  obtain ⟨heard, roster, hflush⟩ := service.flush_eq
  rw [hflush]

variable [Daemon δ]

/-- What watching an interface and fetching its properties give. -/
def fetch (service : Service δ) (path : ModemPath) (interface : Interface) :
    Except Failure (List Change) × δ :=
  match Daemon.watch path interface service.daemon with
  | (.ok (), daemon) => Daemon.properties path interface daemon
  | (.error failure, daemon) => (.error failure, daemon)

theorem load_eq (service : Service δ) (path : ModemPath) (interface : Interface) :
    service.load path interface =
      let fetched := service.fetch path interface
      let loaded := service.board.loaded path interface fetched.1
      (({ service with daemon := fetched.2, board := loaded.1 } : Service δ).deliverAll
        loaded.2.deliveries, loaded.2.effects) := rfl

theorem fail_eq (service : Service δ) (path : ModemPath) (requests : List QueuedRequest) :
    ∃ answered, (service.carryOut (.fail path requests)).1 = { service with answered } := by
  change ∃ answered, requests.foldl _ service = _
  induction requests generalizing service with
  | nil => exact ⟨service.answered, rfl⟩
  | cons request rest ih => exact ih _

/-! ### What all effects keep -/

section Kept

variable (Kept : Service δ → Prop) {service : Service δ}

theorem carryOutAll_keeps
    (hstep : ∀ service effect, Kept service → Kept (service.carryOut effect).1)
    (hkept : Kept service) (effects : List Effect) : Kept (service.carryOutAll effects).1 := by
  induction effects generalizing service with
  | nil => exact hkept
  | cons effect rest ih => exact ih (hstep service effect hkept)

theorem settleEffects_keeps
    (hstep : ∀ service effect, Kept service → Kept (service.carryOut effect).1)
    (hkept : Kept service) (depth : Nat) (effects : List Effect) :
    Kept (settleEffects depth service effects) := by
  induction depth generalizing service effects with
  | zero => exact hkept
  | succ depth ih => exact ih (carryOutAll_keeps Kept hstep hkept effects) _

end Kept

/-- The board takes in the event, and then its effects are carried out. -/
theorem process_eq (service : Service δ) (event : Event) :
    ∃ taken : Service δ, taken.daemon = service.daemon ∧
      taken.board = (service.board.apply event).1 ∧
      service.process event = settleEffects 3 taken (service.board.apply event).2.effects := by
  obtain ⟨heard, hdelivered⟩ := deliverAll_eq
    ({ service with board := (service.board.apply event).1 } : Service δ)
    (service.board.apply event).2.deliveries
  have hdaemon := congrArg Service.daemon hdelivered
  have hboard := congrArg Service.board hdelivered
  exact ⟨_, hdaemon, hboard, rfl⟩

end Service

end Telephony

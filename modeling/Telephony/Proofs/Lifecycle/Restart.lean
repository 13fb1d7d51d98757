import Telephony.Proofs.Requests.Ledger

/-!
# Starting over

What a start builds depends on the daemon and on nothing else. Two services that agree on the daemon
and on the table of modems, where no request waits, stay in agreement through a start, whatever else
they remember: who listens, which calls were made, how many drains and tokens were given out.
-/

namespace Telephony

/-! ### Entries -/

namespace Entry

/-- Two results that leave the same entry and ask for the same; what they tell may differ. -/
def Alike (first second : Entry × Outcome) : Prop :=
  first.1 = second.1 ∧ first.2.effects = second.2.effects

theorem Alike.followed {first second : Entry × Outcome} {next other : Entry → Entry × Outcome}
    (hfirst : Alike first second) (hnext : ∀ entry, Alike (next entry) (other entry)) :
    Alike ((next first.1).1, first.2 ++ (next first.1).2)
      ((other second.1).1, second.2 ++ (other second.1).2) := by
  obtain ⟨hentry, heffects⟩ := hfirst
  obtain ⟨hafter, hmore⟩ := hnext second.1
  rw [hentry]
  exact ⟨hafter, by rw [Outcome.effects_append, Outcome.effects_append, heffects, hmore]⟩

section Observers

variable (observers others : Observers) (path : ModemPath)

theorem alike_detach (entry : Entry) (interface : Interface) :
    Alike (entry.detach observers path interface) (entry.detach others path interface) := by
  unfold detach
  split
  · exact ⟨by cases interface <;> rfl, rfl⟩
  · exact ⟨rfl, rfl⟩

theorem alike_detachAll (entry : Entry) (interfaces : List Interface) :
    Alike (entry.detachAll observers path interfaces) (entry.detachAll others path interfaces) := by
  induction interfaces generalizing entry with
  | nil => exact ⟨rfl, rfl⟩
  | cons interface rest ih => exact (alike_detach observers others path entry interface).followed ih

theorem alike_setInterfaces (entry : Entry) (current : InterfaceSet) :
    Alike (entry.setInterfaces observers path current)
      (entry.setInterfaces others path current) := by
  simp only [setInterfaces]
  split
  · exact ⟨rfl, rfl⟩
  · obtain ⟨hentry, heffects⟩ := alike_detachAll observers others path _ _
    exact ⟨hentry, congrArg (· ++ _) heffects⟩

theorem alike_change (entry : Entry) (change : Change) :
    Alike (entry.change observers path change) (entry.change others path change) := by
  unfold Entry.change
  split
  · exact alike_setInterfaces observers others path entry _
  all_goals exact ⟨rfl, rfl⟩

theorem alike_changeAll (entry : Entry) (changes : List Change) :
    Alike (entry.changeAll observers path changes) (entry.changeAll others path changes) := by
  induction changes generalizing entry with
  | nil => exact ⟨rfl, rfl⟩
  | cons change rest ih => exact (alike_change observers others path entry change).followed ih

end Observers

/-- The epoch is for the requests that wait. -/
theorem attach_of_unqueued {entry : Entry} (hqueue : entry.requests.queue = []) (path : ModemPath)
    (epoch other : UInt64) (interface : Interface) :
    entry.attach path epoch interface = entry.attach path other interface := by
  cases interface with
  | supplementaryServices =>
    cases hrequests : entry.requests with
    | pending queue =>
      obtain rfl : queue = [] := by simpa [hrequests, Requests.queue] using hqueue
      simp only [attach, hrequests]
    | draining queue current => simp only [attach, hrequests]
    | direct => simp only [attach, hrequests]
  | _ => rfl

end Entry

/-! ### Boards -/

namespace Switchboard

variable {board other : Switchboard}

/-- The boards have the same modems, for which no request waits. -/
structure Alike (board other : Switchboard) : Prop where
  modems : board.modems = other.modems
  unqueued : board.waiting = 0

theorem Alike.entry? (halike : board.Alike other) (path : ModemPath) :
    board.entry? path = other.entry? path := by
  unfold Switchboard.entry?
  rw [halike.modems]

theorem Alike.knows (halike : board.Alike other) (path : ModemPath) :
    board.knows path = other.knows path := by
  unfold Switchboard.knows
  rw [halike.modems]

theorem Alike.queue (halike : board.Alike other) {path : ModemPath} {entry : Entry}
    (hentry : board.entry? path = some entry) : entry.requests.queue = [] := by
  have hwaiting := halike.unqueued.symm.trans (waitingIn_of_get? hentry)
  have hle := Multiset.le_add_right (entry.requests.queue.map (path, ·) : List _)
    (waitingIn (board.modems.erase path))
  rw [← hwaiting, Multiset.le_zero, Multiset.coe_eq_zero] at hle
  exact List.map_eq_nil_iff.1 hle

theorem Alike.loadEntry (halike : board.Alike other) {path : ModemPath} {entry : Entry}
    (hentry : board.entry? path = some entry) (interface : Interface)
    (result : Except Failure (List Change)) :
    Entry.Alike (board.loadEntry path interface result entry)
      (other.loadEntry path interface result entry) := by
  cases hoffered : entry.offers interface with
  | false => rw [loadEntry_of_withdrawn hoffered, loadEntry_of_withdrawn hoffered]; exact ⟨rfl, rfl⟩
  | true =>
    cases result with
    | error failure => rw [loadEntry_error, loadEntry_error]; exact ⟨rfl, rfl⟩
    | ok properties =>
      have hattach := Entry.attach_of_unqueued (halike.queue hentry) path (board.drains + 1)
        (other.drains + 1) interface
      obtain ⟨hchanged, heffects⟩ := Entry.alike_changeAll board.observers other.observers path
        (entry.attach path (other.drains + 1) interface).1 properties
      rw [loadEntry_ok hoffered, loadEntry_ok hoffered, hattach]
      exact ⟨congrArg (·.mark interface) hchanged, congrArg (_ ++ ·) heffects⟩

/-- A step on an entry that is alike on both boards leaves them alike. -/
theorem Alike.onEntry (halike : board.Alike other) {path : ModemPath}
    {step next : Entry → Entry × Outcome}
    (hstep : ∀ entry, board.entry? path = some entry → Entry.Alike (step entry) (next entry)) :
    (board.onEntry path step).1.modems = (other.onEntry path next).1.modems ∧
      (board.onEntry path step).2.effects = (other.onEntry path next).2.effects := by
  unfold Switchboard.onEntry
  rw [← halike.entry?]
  cases hentry : board.entry? path with
  | none => exact ⟨halike.modems, rfl⟩
  | some entry =>
    obtain ⟨hafter, heffects⟩ := hstep entry hentry
    exact ⟨by simp only [halike.modems, hafter], heffects⟩

theorem Alike.loaded (halike : board.Alike other) (path : ModemPath) (interface : Interface)
    (result : Except Failure (List Change)) :
    (board.loaded path interface result).1.Alike (other.loaded path interface result).1 ∧
      (board.loaded path interface result).2.effects =
        (other.loaded path interface result).2.effects := by
  obtain ⟨drains, hloaded⟩ := board.loaded_eq path interface result
  obtain ⟨count, hother⟩ := other.loaded_eq path interface result
  have hcalm := board.calm_loaded path interface result
  obtain ⟨hmodems, heffects⟩ := halike.onEntry fun entry hentry =>
    halike.loadEntry hentry interface result
  refine ⟨⟨?_, hcalm.waiting.trans halike.unqueued⟩, ?_⟩
  · rw [hloaded, hother]
    exact hmodems
  · rw [hloaded, hother]
    exact heffects

theorem Alike.addModem (halike : board.Alike other) (path : ModemPath)
    (properties : List Change) :
    (board.addModem path properties).1.Alike (other.addModem path properties).1 ∧
      (board.addModem path properties).2.effects = (other.addModem path properties).2.effects := by
  have hcalm := board.calm_addModem path properties
  obtain ⟨hentry, heffects⟩ := Entry.alike_changeAll board.observers other.observers path
    ((board.entry? path).getD .new) properties
  refine ⟨⟨?_, hcalm.waiting.trans halike.unqueued⟩, ?_⟩
  · simp only [Switchboard.addModem, ← halike.entry?, ← halike.modems, hentry]
  · simp only [Switchboard.addModem, ← halike.entry?, ← halike.knows, Outcome.effects_append,
      heffects]

theorem Alike.flush (halike : board.Alike other) : board.flush.1.Alike other.flush.1 where
  modems := congrArg (Table.mapValues fun _ => Entry.told) halike.modems
  unqueued := board.waiting_flush.trans halike.unqueued

end Switchboard

/-! ### Services -/

namespace Service

variable {δ : Type} {service other : Service δ}

structure Alike (service other : Service δ) : Prop where
  daemon : service.daemon = other.daemon
  board : service.board.Alike other.board

theorem Alike.deliverAll (halike : service.Alike other) (deliveries more : List Delivery) :
    (service.deliverAll deliveries).Alike (other.deliverAll more) := by
  obtain ⟨heard, hdelivered⟩ := service.deliverAll_eq deliveries
  obtain ⟨told, hother⟩ := other.deliverAll_eq more
  rw [hdelivered, hother]
  exact ⟨halike.daemon, halike.board⟩

theorem Alike.flush (halike : service.Alike other) : service.flush.Alike other.flush := by
  obtain ⟨heard, roster, hflush⟩ := service.flush_eq
  obtain ⟨told, list, hother⟩ := other.flush_eq
  rw [hflush, hother]
  exact ⟨halike.daemon, halike.board.flush⟩

variable [Daemon δ]

theorem Alike.load (halike : service.Alike other) (path : ModemPath) (interface : Interface) :
    (service.load path interface).1.Alike (other.load path interface).1 ∧
      (service.load path interface).2 = (other.load path interface).2 := by
  have hfetch : other.fetch path interface = service.fetch path interface := by
    unfold fetch
    rw [halike.daemon]
  rw [load_eq, load_eq, hfetch]
  obtain ⟨hboard, heffects⟩ := halike.board.loaded path interface (service.fetch path interface).1
  refine ⟨Alike.deliverAll ?_ _ _, heffects⟩
  exact ⟨rfl, hboard⟩

theorem Alike.carryOut (halike : service.Alike other) (effect : Effect) :
    (service.carryOut effect).1.Alike (other.carryOut effect).1 ∧
      (service.carryOut effect).2 = (other.carryOut effect).2 := by
  cases effect with
  | watch path interface => exact halike.load path interface
  | unwatch path interface =>
    exact ⟨⟨congrArg (Daemon.unwatch path interface) halike.daemon, halike.board⟩, rfl⟩
  | replay path epoch => exact ⟨⟨halike.daemon, halike.board⟩, rfl⟩
  | fail path requests =>
    obtain ⟨answered, hfail⟩ := service.fail_eq path requests
    obtain ⟨more, hother⟩ := other.fail_eq path requests
    rw [hfail, hother]
    exact ⟨⟨halike.daemon, halike.board⟩, rfl⟩

theorem Alike.carryOutAll (halike : service.Alike other) (effects : List Effect) :
    (service.carryOutAll effects).1.Alike (other.carryOutAll effects).1 ∧
      (service.carryOutAll effects).2 = (other.carryOutAll effects).2 := by
  induction effects generalizing service other with
  | nil => exact ⟨halike, rfl⟩
  | cons effect rest ih =>
    obtain ⟨hfirst, hmore⟩ := halike.carryOut effect
    obtain ⟨hrest, hothers⟩ := ih hfirst
    have hasked := congrArg₂ (· ++ ·) hmore hothers
    exact ⟨hrest, hasked⟩

theorem Alike.settleEffects (halike : service.Alike other) (depth : Nat) (effects : List Effect) :
    (settleEffects depth service effects).Alike (settleEffects depth other effects) := by
  induction depth generalizing service other effects with
  | zero => exact halike
  | succ depth ih =>
    -- the round asks both for the same effects, with which the next begins
    obtain ⟨hround, hmore⟩ := halike.carryOutAll effects
    have hrest := ih hround (service.carryOutAll effects).2
    rw [hmore] at hrest
    change (Service.settleEffects depth _ (service.carryOutAll effects).2).Alike _
    rw [hmore]
    exact hrest

theorem Alike.process_added (halike : service.Alike other) (path : ModemPath)
    (properties : List Change) :
    (service.process (.modemAdded path properties)).Alike
      (other.process (.modemAdded path properties)) := by
  obtain ⟨hboard, heffects⟩ := halike.board.addModem path properties
  have hadded : Alike ({ service with board := (service.board.addModem path properties).1 })
      ({ other with board := (other.board.addModem path properties).1 }) := ⟨halike.daemon, hboard⟩
  simp only [Service.process, Switchboard.apply, execute, heffects]
  exact (hadded.deliverAll _ _).settleEffects 3 _

/-- Takes in modems that are there. -/
def welcome (service : Service δ) (modems : List (ModemPath × List Change)) : Service δ :=
  modems.foldl (fun service (path, properties) => service.process (.modemAdded path properties))
    service

/-- What taking in one modem keeps is kept as all of them are taken in. -/
theorem welcome_keeps (Kept : Service δ → Prop)
    (hstep : ∀ service path properties, Kept service →
      Kept (service.process (.modemAdded path properties)))
    (hkept : Kept service) (modems : List (ModemPath × List Change)) :
    Kept (service.welcome modems) := by
  unfold welcome
  induction modems generalizing service with
  | nil => exact hkept
  | cons modem rest ih => exact ih (hstep service modem.1 modem.2 hkept)

theorem start_of_running (hrunning : service.running = true) : service.start = (.ok (), service) :=
  if_pos hrunning

theorem start_of_refused (hidle : service.running = false) {failure : Failure} {daemon : δ}
    (hrefused : Daemon.connect service.daemon = (.error failure, daemon)) :
    service.start = (.error failure, { service with daemon }) := by
  simp [start, hidle, hrefused]

theorem start_of_connected (hidle : service.running = false)
    {modems : List (ModemPath × List Change)} {daemon : δ}
    (hconnected : Daemon.connect service.daemon = (.ok modems, daemon)) :
    service.start = (.ok (),
      { (Service.welcome { service with daemon } modems).flush with running := true }) := by
  simp [start, hidle, hconnected, welcome]

theorem Alike.welcome (halike : service.Alike other) (modems : List (ModemPath × List Change)) :
    (service.welcome modems).Alike (other.welcome modems) := by
  unfold Service.welcome
  induction modems generalizing service other with
  | nil => exact halike
  | cons modem rest ih => exact ih (halike.process_added modem.1 modem.2)

/-- Services that are alike start alike. -/
theorem Alike.start (halike : service.Alike other) (hservice : service.running = false)
    (hother : other.running = false) :
    service.start.1 = other.start.1 ∧ service.start.2.Alike other.start.2 := by
  rcases hconnect : Daemon.connect service.daemon with ⟨failure | modems, daemon⟩
  · have hrefused := halike.daemon ▸ hconnect
    rw [start_of_refused hservice hconnect, start_of_refused hother hrefused]
    exact ⟨rfl, rfl, halike.board⟩
  · have hconnected := halike.daemon ▸ hconnect
    rw [start_of_connected hservice hconnect, start_of_connected hother hconnected]
    have hsame : ({ service with daemon } : Service δ).Alike { other with daemon } :=
      ⟨rfl, halike.board⟩
    have hstarted := (hsame.welcome modems).flush
    exact ⟨rfl, hstarted.daemon, hstarted.board⟩

end Service

end Telephony

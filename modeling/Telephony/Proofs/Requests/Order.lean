import Telephony.Proofs.Operations
import Telephony.Proofs.Requests.Queues

/-!
# Requests in order of submission

As long as a modem stays, its queue is first in, first out: what has been taken out, and then what
still waits, is what was put in, whatever comes, goes or changes in between. Only the drain that is
under way takes anything out, and nothing overtakes a request that waits.
-/

namespace Telephony.Switchboard

/-- The requests that wait for a modem. -/
def queue (board : Switchboard) (path : ModemPath) : List QueuedRequest :=
  ((board.entry? path).map (·.requests.queue)).getD []

/-- Whether the operation takes the modem away. -/
def Operation.removes (path : ModemPath) : Operation → Bool
  | .apply (.modemRemoved gone) => gone = path
  | .clear => true
  | _ => false

/-- The request that the operation puts into the queue of the modem. -/
def joining (board : Switchboard) (path : ModemPath) : Operation → List QueuedRequest
  | .submit target code ticket =>
    match board.submit target code ticket with
    | .ok (.queued id, _) => if target = path then [⟨id, code, ticket⟩] else []
    | _ => []
  | _ => []

/-- The request that the operation takes out of the queue of the modem. -/
def leaving (board : Switchboard) (path : ModemPath) : Operation → List QueuedRequest
  | .nextQueued target epoch =>
    if target = path then (board.nextQueued target epoch).1.toList else []
  | _ => []

/-- What the operations of a run give, one after the other. -/
def gather (gives : Switchboard → Operation → List QueuedRequest) :
    Switchboard → List Operation → List QueuedRequest
  | _, [] => []
  | board, operation :: rest => gives board operation ++ gather gives (board.perform operation) rest

/-- The requests that a run puts into the queue of a modem. -/
def joined (board : Switchboard) (path : ModemPath) (operations : List Operation) :
    List QueuedRequest :=
  gather (fun board => board.joining path) board operations

/-- The requests that a run takes out of the queue of a modem. -/
def left (board : Switchboard) (path : ModemPath) (operations : List Operation) :
    List QueuedRequest :=
  gather (fun board => board.leaving path) board operations

variable {board after : Switchboard} {path : ModemPath} {entry : Entry}

theorem queue_of_entry (hentry : board.entry? path = some entry) :
    board.queue path = entry.requests.queue := by
  rw [queue, hentry, Option.map_some, Option.getD_some]

theorem queue_of_unknown (hentry : board.entry? path = none) : board.queue path = [] := by
  rw [queue, hentry, Option.map_none, Option.getD_none]

/-! ### Operations that leave the queue alone -/

theorem queue_of_lookup (hlookup : after.entry? path = board.entry? path) :
    after.queue path = board.queue path := by
  rw [queue, hlookup, queue]

theorem queue_of_modems (hmodems : after.modems = board.modems) :
    after.queue path = board.queue path := by
  refine queue_of_lookup ?_
  unfold entry?
  rw [hmodems]

theorem queue_addModem (board : Switchboard) (added path : ModemPath) (properties : List Change) :
    queue (board.addModem added properties).1 path = board.queue path := by
  have hlookup := lookup_addModem board added properties path
  by_cases hpath : added = path
  · subst hpath
    rw [if_pos rfl] at hlookup
    rw [queue_of_entry hlookup, Entry.requests_mark, Entry.queue_changeAll]
    cases hentry : board.entry? added with
    | none => exact (queue_of_unknown hentry).symm
    | some entry => exact (queue_of_entry hentry).symm
  · rw [if_neg hpath] at hlookup
    exact queue_of_lookup hlookup

theorem queue_removeModem (board : Switchboard) {gone : ModemPath} (hne : gone ≠ path) :
    queue (board.removeModem gone).1 path = board.queue path := by
  refine queue_of_lookup ?_
  rw [lookup_removeModem, if_neg hne]

theorem queue_onEntry (board : Switchboard) (changed path : ModemPath)
    {step : Entry → Entry × Outcome}
    (hstep : ∀ entry, (step entry).1.requests.queue = entry.requests.queue) :
    queue (board.onEntry changed step).1 path = board.queue path := by
  rw [queue, lookup_onEntry]
  by_cases hpath : changed = path
  · subst hpath
    rw [if_pos rfl, queue, Option.map_map]
    cases board.entry? changed with
    | none => rfl
    | some entry => exact hstep entry
  · rw [if_neg hpath, queue]

theorem queue_loaded (board : Switchboard) (watched path : ModemPath) (interface : Interface)
    (result : Except Failure (List Change)) :
    queue (board.loaded watched interface result).1 path = board.queue path := by
  obtain ⟨drains, hloaded⟩ := loaded_eq board watched interface result
  rw [hloaded]
  exact queue_onEntry board watched path (queue_loadEntry board watched interface result)

theorem queue_flush (board : Switchboard) (path : ModemPath) :
    queue board.flush.1 path = board.queue path := by
  rw [queue, lookup_flush, Option.map_map]
  rfl

/-! ### Submission and draining -/

theorem queue_insert {target : ModemPath} {requests : Requests}
    (hmodems : after.modems = board.modems.insert target { entry with requests }) :
    after.queue path = if target = path then requests.queue else board.queue path := by
  unfold queue entry?
  rw [hmodems, Table.get?_insert]
  split <;> rfl

/-- A request that is put into the queue stands last there. -/
theorem queue_submit (board : Switchboard) (target path : ModemPath) (code : String)
    (ticket : Ticket) :
    (board.perform (.submit target code ticket)).queue path =
      board.queue path ++ board.joining path (.submit target code ticket) := by
  cases hentry : board.entry? target with
  | none => simp only [perform, joining, submit_of_unknown hentry, List.append_nil]
  | some entry =>
    by_cases hdirect : entry.requests = .direct
    · simp only [perform, joining, submit_of_direct hentry hdirect, List.append_nil]
      exact queue_of_modems rfl
    · simp only [perform, joining, submit_of_waiting hentry hdirect]
      rw [queue_insert rfl]
      by_cases hpath : target = path
      · subst hpath
        rw [if_pos rfl, if_pos rfl, queue_enqueue _ hdirect, queue_of_entry hentry]
      · rw [if_neg hpath, if_neg hpath, List.append_nil]

/-- What is taken out of the queue stood first there. -/
theorem queue_nextQueued (board : Switchboard) (target path : ModemPath) (epoch : UInt64) :
    board.leaving path (.nextQueued target epoch) ++
      queue (board.nextQueued target epoch).2 path = board.queue path := by
  by_cases hdrain : board.drain? target = some epoch
  · obtain ⟨entry, waiting, hentry, hdraining⟩ := drain?_eq_some hdrain
    have hqueue : board.queue target = waiting := by
      rw [queue_of_entry hentry, hdraining, Requests.queue]
    cases waiting with
    | nil =>
      simp only [leaving, nextQueued_of_drained hentry hdraining]
      rw [queue_insert rfl]
      by_cases hpath : target = path
      · subst hpath
        simp [hqueue, Requests.queue]
      · simp [hpath]
    | cons request rest =>
      simp only [leaving, nextQueued_of_draining hentry hdraining]
      rw [queue_insert rfl]
      by_cases hpath : target = path
      · subst hpath
        simp [hqueue, Requests.queue]
      · simp [hpath]
  · simp only [leaving, nextQueued_of_drain?_ne hdrain]
    split <;> rfl

/-! ### Runs -/

/-- An operation moves requests out at the front and in at the back. -/
theorem queue_perform (board : Switchboard) {operation : Operation}
    (hstays : operation.removes path = false) :
    board.leaving path operation ++ (board.perform operation).queue path =
      board.queue path ++ board.joining path operation := by
  -- where nothing joins and nothing leaves it is enough that the queue stays as it is
  have hcalm {waiting : List QueuedRequest} (hqueue : waiting = board.queue path) :
      [] ++ waiting = board.queue path ++ [] := hqueue.trans (List.append_nil _).symm
  cases operation with
  | submit target code ticket => exact queue_submit board target path code ticket
  | nextQueued target epoch =>
    exact (queue_nextQueued board target path epoch).trans (List.append_nil _).symm
  | clear => cases hstays
  | apply event =>
    cases event with
    | modemAdded added properties => exact hcalm (queue_addModem board added path properties)
    | modemRemoved gone => exact hcalm (queue_removeModem board (of_decide_eq_false hstays))
    | propertyChanged changed change =>
      exact hcalm (queue_onEntry board changed path fun entry =>
        Entry.queue_change board.observers changed entry change)
  | loaded watched interface result =>
    exact hcalm (queue_loaded board watched path interface result)
  | flush => exact hcalm (queue_flush board path)
  | arm id =>
    refine hcalm (queue_of_modems ?_)
    simp only [perform, arm]
    split <;> rfl
  | beginSession =>
    refine hcalm (queue_of_modems ?_)
    simp only [perform, beginSession]
    cases board.sessionActive <;> rfl
  | beginCall _ | finishCall _ | cancel _ | subscribe _ _ | unsubscribe _ | endSession =>
    exact hcalm (queue_of_modems rfl)

theorem queue_run {operations : List Operation}
    (hstays : ∀ operation ∈ operations, operation.removes path = false) (board : Switchboard) :
    board.left path operations ++ (board.run operations).queue path =
      board.queue path ++ board.joined path operations := by
  induction operations generalizing board with
  | nil => exact (List.append_nil _).symm
  | cons operation rest ih =>
    obtain ⟨hfirst, hrest⟩ := List.forall_mem_cons.1 hstays
    calc board.left path (operation :: rest) ++ (board.run (operation :: rest)).queue path
      _ = board.leaving path operation ++ ((board.perform operation).left path rest ++
            ((board.perform operation).run rest).queue path) := List.append_assoc _ _ _
      _ = board.leaving path operation ++ ((board.perform operation).queue path ++
            (board.perform operation).joined path rest) := by rw [ih hrest]
      _ = (board.leaving path operation ++ (board.perform operation).queue path) ++
            (board.perform operation).joined path rest := (List.append_assoc _ _ _).symm
      _ = (board.queue path ++ board.joining path operation) ++
            (board.perform operation).joined path rest := by rw [queue_perform board hfirst]
      _ = board.queue path ++ board.joined path (operation :: rest) := List.append_assoc _ _ _

/-- While the modem stays, its requests leave in the order in which they came, only the drain under
way takes them out, and a request that comes while others wait is put behind them. -/
theorem run_fifo {operations : List Operation}
    (hstays : ∀ operation ∈ operations, operation.removes path = false) (board : Switchboard) :
    let after := board.run operations
    board.left path operations ++ after.queue path =
        board.queue path ++ board.joined path operations ∧
      (∀ epoch, after.drain? path ≠ some epoch → after.nextQueued path epoch = (none, after)) ∧
      (∀ epoch, after.drain? path = some epoch →
        (after.nextQueued path epoch).1 = (after.queue path).head?) ∧
      ∀ code ticket, after.queue path ≠ [] → ∃ id later,
        after.submit path code ticket = .ok (.queued id, later) ∧
          later.queue path = after.queue path ++ [⟨id, code, ticket⟩] := by
  intro after
  refine ⟨queue_run hstays board, fun epoch => nextQueued_of_drain?_ne, fun epoch hdrain => ?_,
    fun code ticket hwaits => ?_⟩
  · obtain ⟨entry, waiting, hentry, hdraining⟩ := drain?_eq_some hdrain
    rw [queue_of_entry hentry, hdraining, Requests.queue]
    cases waiting with
    | nil => rw [nextQueued_of_drained hentry hdraining, List.head?_nil]
    | cons request rest => rw [nextQueued_of_draining hentry hdraining, List.head?_cons]
  · cases hentry : after.entry? path with
    | none => exact absurd (queue_of_unknown hentry) hwaits
    | some entry =>
      rw [queue_of_entry hentry] at hwaits
      have hqueues : entry.requests ≠ .direct := by
        intro hdirect
        rw [hdirect] at hwaits
        exact hwaits rfl
      refine ⟨_, _, submit_of_waiting hentry hqueues code ticket, ?_⟩
      rw [queue_insert rfl, if_pos rfl, queue_enqueue _ hqueues, queue_of_entry hentry]

/-- Two requests wait, the interface comes, the first is taken out, a third joins, the interface goes
and comes again, and of the two drains only the new one takes out the second. -/
def interruptedDrain : List Operation :=
  let offered := .ofList [.supplementaryServices]
  [.apply (.modemAdded ⟨"/m"⟩ [.modem (.interfaces offered)]),
    .submit ⟨"/m"⟩ "*#21#" ⟨0⟩, .submit ⟨"/m"⟩ "*#43#" ⟨1⟩,
    .loaded ⟨"/m"⟩ .supplementaryServices (.ok []), .nextQueued ⟨"/m"⟩ 1, .submit ⟨"/m"⟩ "*#61#" ⟨2⟩,
    .apply (.propertyChanged ⟨"/m"⟩ (.modem (.interfaces ∅))), .nextQueued ⟨"/m"⟩ 1,
    .apply (.propertyChanged ⟨"/m"⟩ (.modem (.interfaces offered))),
    .loaded ⟨"/m"⟩ .supplementaryServices (.ok []), .nextQueued ⟨"/m"⟩ 1, .nextQueued ⟨"/m"⟩ 2]

theorem run_fifo_interrupted :
    (∀ operation ∈ interruptedDrain, operation.removes ⟨"/m"⟩ = false) ∧
      (∅ : Switchboard).left ⟨"/m"⟩ interruptedDrain =
        [⟨⟨1⟩, "*#21#", ⟨0⟩⟩, ⟨⟨2⟩, "*#43#", ⟨1⟩⟩] ∧
      ((∅ : Switchboard).run interruptedDrain).queue ⟨"/m"⟩ = [⟨⟨3⟩, "*#61#", ⟨2⟩⟩] ∧
      (∅ : Switchboard).joined ⟨"/m"⟩ interruptedDrain =
        (∅ : Switchboard).left ⟨"/m"⟩ interruptedDrain ++
          ((∅ : Switchboard).run interruptedDrain).queue ⟨"/m"⟩ ∧
      ∃ id later, ((∅ : Switchboard).run interruptedDrain).submit ⟨"/m"⟩ "#31#" ⟨3⟩ =
        .ok (.queued id, later) := by
  have hstays : ∀ operation ∈ interruptedDrain, operation.removes ⟨"/m"⟩ = false := by decide
  have hqueue : ((∅ : Switchboard).run interruptedDrain).queue ⟨"/m"⟩ =
      [⟨⟨3⟩, "*#61#", ⟨2⟩⟩] := by decide +kernel
  obtain ⟨hfifo, -, -, hqueued⟩ := run_fifo hstays ∅
  obtain ⟨id, later, hsubmitted, -⟩ := hqueued "#31#" ⟨3⟩ (by rw [hqueue]; exact List.cons_ne_nil _ _)
  exact ⟨hstays, by decide +kernel, hqueue, hfifo.symm, id, later, hsubmitted⟩

end Telephony.Switchboard

import Telephony.Proofs.Operations

/-!
# What operations make of entries

An operation of a board that is no flush makes few things of the entry of a modem: it takes changes
in, it loads an interface, or it does something about the requests that wait. The entries of a board
after an operation are all of this kind.
-/

namespace Telephony.Switchboard

/-- The changes that an operation brings. -/
def Operation.changes : Operation → List Change
  | .apply (.modemAdded _ properties) => properties
  | .apply (.propertyChanged _ change) => [change]
  | .loaded _ _ (.ok properties) => properties
  | _ => []

/-- What an operation but a flush can make of the entry of a modem. -/
inductive Makes (board : Switchboard) (operation : Operation) (path : ModemPath) : Entry → Prop
  | kept {entry : Entry} (requests : Requests) (hentry : board.entry? path = some entry)
      (hpending : requests.isPending = entry.requests.isPending) :
      Makes board operation path { entry with requests }
  | added (properties : List Change)
      (hoperation : operation = .apply (.modemAdded path properties)) :
      Makes board operation path
        ((((board.entry? path).getD .new).changeAll board.observers path properties).1.mark .modem)
  | changed {entry : Entry} (change : Change) (hentry : board.entry? path = some entry)
      (hoperation : operation = .apply (.propertyChanged path change)) :
      Makes board operation path (entry.change board.observers path change).1
  | loaded {entry : Entry} (interface : Interface) (result : Except Failure (List Change))
      (hentry : board.entry? path = some entry)
      (hoperation : operation = .loaded path interface result) :
      Makes board operation path (board.loadEntry path interface result entry).1

variable {board after : Switchboard} {operation : Operation} {path : ModemPath} {entry : Entry}

theorem Makes.same (hentry : board.entry? path = some entry) : board.Makes operation path entry :=
  .kept entry.requests hentry rfl

/-! ### Requests -/

/-- Of all that the entries hold only the requests of one modem may have changed, and not whether
they wait. -/
inductive Requeues (board after : Switchboard) : Prop
  | kept (hmodems : after.modems = board.modems)
  | queued {path : ModemPath} {entry : Entry} (requests : Requests)
      (hentry : board.entry? path = some entry)
      (hpending : requests.isPending = entry.requests.isPending)
      (hmodems : after.modems = board.modems.insert path { entry with requests })

theorem Requeues.makes (hrequeues : board.Requeues after) (hentry : after.entry? path = some entry) :
    board.Makes operation path entry := by
  unfold entry? at hentry
  cases hrequeues with
  | kept hmodems =>
    rw [hmodems] at hentry
    exact .same hentry
  | queued requests hbefore hpending hmodems =>
    rw [hmodems, Table.get?_insert] at hentry
    split at hentry
    · next hpath =>
      cases hentry
      exact .kept requests (hpath ▸ hbefore) hpending
    · exact .same hentry

theorem isPending_enqueue (request : QueuedRequest) (requests : Requests) :
    (enqueue request requests).isPending = requests.isPending := by
  cases requests <;> rfl

theorem requeues_submit (board : Switchboard) (target : ModemPath) (code : String)
    (ticket : Ticket) : board.Requeues (board.perform (.submit target code ticket)) := by
  cases hbefore : board.entry? target with
  | none =>
    rw [perform, submit_of_unknown hbefore]
    exact .kept rfl
  | some before =>
    by_cases hdirect : before.requests = .direct
    · rw [perform, submit_of_direct hbefore hdirect]
      exact .kept rfl
    · rw [perform, submit_of_waiting hbefore hdirect]
      exact .queued _ hbefore (isPending_enqueue _ _) rfl

theorem requeues_nextQueued (board : Switchboard) (target : ModemPath) (epoch : UInt64) :
    board.Requeues (board.perform (.nextQueued target epoch)) := by
  by_cases hdrain : board.drain? target = some epoch
  · obtain ⟨before, queue, hbefore, hdraining⟩ := drain?_eq_some hdrain
    have hpending : before.requests.isPending = false := by rw [hdraining]; rfl
    cases queue with
    | nil =>
      rw [perform, nextQueued_of_drained hbefore hdraining]
      exact .queued .direct hbefore hpending.symm rfl
    | cons request rest =>
      rw [perform, nextQueued_of_draining hbefore hdraining]
      exact .queued (.draining rest epoch) hbefore hpending.symm rfl
  · rw [perform, nextQueued_of_drain?_ne hdrain]
    exact .kept rfl

theorem requeues_arm (board : Switchboard) (id : CallId) :
    board.Requeues (board.perform (.arm id)) := by
  refine .kept ?_
  simp only [perform, arm]
  split <;> rfl

theorem requeues_beginSession (board : Switchboard) :
    board.Requeues (board.perform .beginSession) := by
  refine .kept ?_
  simp only [perform, beginSession]
  cases board.sessionActive <;> rfl

/-! ### Operations -/

/-- An entry that is there after an operation is what that operation has made. -/
theorem makes_of_perform (hoperation : operation ≠ .flush)
    (hentry : Switchboard.entry? (board.perform operation) path = some entry) :
    board.Makes operation path entry := by
  cases operation with
  | flush => exact absurd rfl hoperation
  | apply event =>
    cases event with
    | modemAdded added properties =>
      rw [perform, apply, lookup_addModem] at hentry
      split at hentry
      · next hpath =>
        subst hpath
        cases hentry
        exact .added properties rfl
      · exact .same hentry
    | modemRemoved gone =>
      rw [perform, apply, lookup_removeModem] at hentry
      split at hentry
      · cases hentry
      · exact .same hentry
    | propertyChanged changed change =>
      rw [perform, apply, lookup_onEntry] at hentry
      split at hentry
      · next hpath =>
        subst hpath
        obtain ⟨before, hbefore, rfl⟩ := Option.map_eq_some_iff.1 hentry
        exact .changed change hbefore rfl
      · exact .same hentry
  | loaded watched interface result =>
    rw [perform, lookup_loaded] at hentry
    split at hentry
    · next hpath =>
      subst hpath
      obtain ⟨before, hbefore, rfl⟩ := Option.map_eq_some_iff.1 hentry
      exact .loaded interface result hbefore rfl
    · exact .same hentry
  | clear =>
    -- the modems that are left were there
    have hleft := clear_keeps
      (fun result => ∀ entry, Switchboard.entry? result.1 path = some entry →
        board.entry? path = some entry)
      (fun later _ gone hkept entry hthere => hkept entry (by
        rw [lookup_removeModem] at hthere
        split at hthere
        · cases hthere
        · exact hthere)) (fun _ hthere => hthere)
    exact .same (hleft entry hentry)
  | submit target code ticket => exact (board.requeues_submit target code ticket).makes hentry
  | nextQueued target epoch => exact (board.requeues_nextQueued target epoch).makes hentry
  | arm id => exact (board.requeues_arm id).makes hentry
  | beginSession => exact board.requeues_beginSession.makes hentry
  | beginCall _ | finishCall _ | cancel _ | subscribe _ _ | unsubscribe _ | endSession =>
    exact Requeues.makes (.kept rfl) hentry

end Telephony.Switchboard

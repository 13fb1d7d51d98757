import Telephony.Proofs.Requests.Tracking

/-!
# Isolation between modems

What is done for one modem leaves the entries of all others alone. It leaves their calls alone too,
unless a request that it reaches has the id of one of them; and that comes about only after a call of
that id has been destroyed, while its request was left in the queue.
-/

namespace Telephony

variable {δ : Type}

/-- Something that is done for one modem. -/
inductive Visit where
  | event (event : Event)
  | loaded (path : ModemPath) (interface : Interface) (result : Except Failure (List Change))
  /-- A drain takes its next request out of the queue and gives it its token. -/
  | replay (path : ModemPath) (epoch : UInt64)

def Visit.path : Visit → ModemPath
  | .event taken => taken.path
  | .loaded path _ _ => path
  | .replay path _ => path

namespace Switchboard

def visit (board : Switchboard) : Visit → Switchboard
  | .event event => (board.apply event).1
  | .loaded path interface result => (board.loaded path interface result).1
  | .replay path epoch =>
    match board.nextQueued path epoch with
    | (some request, after) => (after.arm request.id).2
    | (none, after) => after

/-- The requests whose calls are struck out or get a token. -/
def reaches (board : Switchboard) : Visit → List QueuedRequest
  | .event (.modemRemoved path) => board.queue path
  | .replay path epoch => (board.nextQueued path epoch).1.toList
  | _ => []

/-- Every outstanding call for another modem is there afterwards with the same token. -/
def Spares (board after : Switchboard) (path : ModemPath) : Prop :=
  ∀ id call, board.calls.get? id = some call → call.origin ≠ path →
    after.calls.get? id = some call

/-- A request that is reached has the id of a call for another modem. -/
def Strays (board : Switchboard) (visit : Visit) : Prop :=
  ∃ request ∈ board.reaches visit, ∃ call,
    board.calls.get? request.id = some call ∧ call.origin ≠ visit.path

variable (board : Switchboard)

theorem lookup_nextQueued_of_ne {path other : ModemPath} (hne : path ≠ other) (epoch : UInt64) :
    Switchboard.entry? (board.nextQueued path epoch).2 other = board.entry? other := by
  by_cases hdrain : board.drain? path = some epoch
  · obtain ⟨entry, queue, hentry, hdraining⟩ := drain?_eq_some hdrain
    cases queue with
    | nil =>
      rw [nextQueued_of_drained hentry hdraining]
      exact (Table.get?_insert board.modems path other _).trans (if_neg hne)
    | cons request rest =>
      rw [nextQueued_of_draining hentry hdraining]
      exact (Table.get?_insert board.modems path other _).trans (if_neg hne)
  · rw [nextQueued_of_drain?_ne hdrain]

/-- Giving a token has nothing to do with the entries. -/
theorem arm_eq (modems : Table ModemPath Entry) (id : CallId) :
    (({ board with modems } : Switchboard).arm id).2 =
      { board with
        modems
        calls := (board.arm id).2.calls
        tokens := (board.arm id).2.tokens } := by
  by_cases hfound : (board.calls.arm id board.fresh).1 = true
  · have harmed : (board.arm id).2 =
        { board with calls := (board.calls.arm id board.fresh).2, tokens := board.tokens + 1 } :=
      congrArg Prod.snd (if_pos hfound)
    rw [harmed]
    exact congrArg Prod.snd (if_pos hfound)
  · have hrefused : (board.arm id).2 = board := congrArg Prod.snd (if_neg hfound)
    rw [hrefused]
    exact congrArg Prod.snd (if_neg hfound)

/-- The calls after a visit. -/
def callsAfter : Visit → CallTable ModemPath
  | .event (.modemRemoved path) => (abandon board.calls (board.queue path)).1
  | .replay path epoch =>
    match (board.nextQueued path epoch).1 with
    | some request => (board.arm request.id).2.calls
    | none => board.calls
  | _ => board.calls

/-- A visit changes nothing beside the entries and the calls but the counts of what was begun, and
of the entries none but that of its modem. -/
theorem visit_eq (visit : Visit) :
    ∃ modems drains tokens, board.visit visit =
        { board with modems, calls := board.callsAfter visit, drains, tokens } ∧
      ∀ other, visit.path ≠ other → modems.get? other = board.entry? other := by
  cases visit with
  | event event =>
    have helsewhere := fun other (hne : event.path ≠ other) => board.lookup_apply_of_ne hne
    cases event with
    | modemAdded path properties => exact ⟨_, _, _, rfl, helsewhere⟩
    | modemRemoved path =>
      obtain ⟨modems, hremoved⟩ := board.removeModem_eq path
      simp only [apply, hremoved] at helsewhere
      exact ⟨modems, _, _, hremoved, helsewhere⟩
    | propertyChanged path change =>
      obtain ⟨modems, hchanged⟩ := board.onEntry_eq path fun entry =>
        entry.change board.observers path change
      simp only [apply, hchanged] at helsewhere
      exact ⟨modems, _, _, hchanged, helsewhere⟩
  | loaded path interface result =>
    have helsewhere := fun other (hne : path ≠ other) =>
      (board.lookup_loaded path interface result other).trans (if_neg hne)
    obtain ⟨modems, drains, hloaded⟩ := board.board_loaded path interface result
    simp only [hloaded] at helsewhere
    exact ⟨modems, drains, _, hloaded, helsewhere⟩
  | replay path epoch =>
    have helsewhere := fun other (hne : path ≠ other) =>
      board.lookup_nextQueued_of_ne hne epoch
    obtain ⟨modems, hafter⟩ := board.nextQueued_eq path epoch
    simp only [hafter] at helsewhere
    simp only [Switchboard.visit, callsAfter]
    rcases hnext : board.nextQueued path epoch with ⟨_ | request, after⟩
    · rw [hnext] at hafter
      exact ⟨modems, _, _, hafter, helsewhere⟩
    · rw [hnext] at hafter
      change after = _ at hafter
      subst hafter
      exact ⟨modems, _, _, board.arm_eq modems request.id, helsewhere⟩

theorem get?_arm (id other : CallId) :
    (board.arm id).2.calls.get? other =
      if id = other then
        (board.calls.get? other).map fun call => { call with token := some board.fresh }
      else board.calls.get? other := by
  have harmed := board.calls.get?_arm id other board.fresh
  simp only [arm]
  split
  · exact harmed
  · next hfree =>
    split
    · next hid =>
      subst hid
      have hnone : board.calls.get? id = none := Option.not_isSome_iff_eq_none.1 hfree
      rw [hnone]
      rfl
    · rfl

/-- What becomes of a call: it stays as it is unless a request that is reached has its id. -/
theorem get?_callsAfter (visit : Visit) (id : CallId) :
    (board.callsAfter visit).get? id =
      if id ∈ (board.reaches visit).map (·.id) then
        match visit with
        | .replay _ _ =>
          (board.calls.get? id).map fun call => { call with token := some board.fresh }
        | _ => none
      else board.calls.get? id := by
  cases visit with
  | event event =>
    cases event with
    | modemRemoved path => exact get?_abandon board.calls (board.queue path) id
    | modemAdded path properties => rfl
    | propertyChanged path change => rfl
  | loaded path interface result => rfl
  | replay path epoch =>
    have hreaches : board.reaches (.replay path epoch) =
        (board.nextQueued path epoch).1.toList := rfl
    rw [hreaches, callsAfter]
    cases (board.nextQueued path epoch).1 with
    | none => rfl
    | some request =>
      simp only [get?_arm, Option.toList_some, List.map_cons, List.map_nil, List.mem_singleton]
      by_cases hid : request.id = id
      · rw [if_pos hid, if_pos hid.symm]
      · rw [if_neg hid, if_neg (Ne.symm hid)]

variable {board}

/-- The calls for other modems are spared unless a request strays. -/
theorem spares_visit_iff (hgiven : board.TokensGiven) (visit : Visit) :
    board.Spares (board.visit visit) visit.path ↔ ¬ board.Strays visit := by
  obtain ⟨modems, drains, tokens, hvisit, -⟩ := board.visit_eq visit
  rw [hvisit]
  constructor
  · rintro hspares ⟨request, hreached, call, hcall, horigin⟩
    have hsame : (board.callsAfter visit).get? request.id = some call :=
      hspares request.id call hcall horigin
    rw [get?_callsAfter, if_pos (List.mem_map_of_mem hreached), hcall] at hsame
    cases visit with
    | event event => cases hsame
    | loaded path interface result => cases hsame
    | replay path epoch =>
      -- the call would have had the token that is given out only now
      have htoken : call.token = some board.fresh :=
        (congrArg Call.token (Option.some.inj hsame)).symm
      exact absurd (hgiven request.id call _ hcall htoken) (Nat.lt_irrefl _)
  · intro hstraight id call hcall horigin
    change (board.callsAfter visit).get? id = some call
    rw [get?_callsAfter, if_neg]
    · exact hcall
    · intro hreached
      obtain ⟨request, hrequest, rfl⟩ := List.mem_map.1 hreached
      exact hstraight ⟨request, hrequest, call, hcall, horigin⟩

/-- A request that is reached waits in the queue of the modem. -/
theorem waits_of_reaches {visit : Visit} {request : QueuedRequest}
    (hreached : request ∈ board.reaches visit) : (visit.path, request) ∈ board.waiting := by
  have hqueue : ∀ path, request ∈ board.queue path → (path, request) ∈ board.waiting := by
    intro path hqueued
    cases hentry : board.entry? path with
    | none =>
      rw [queue_of_unknown hentry] at hqueued
      cases hqueued
    | some entry =>
      rw [queue_of_entry hentry] at hqueued
      rw [waiting, waitingIn_of_get? hentry]
      exact Multiset.mem_add.2 (.inl (List.mem_map_of_mem hqueued))
  cases visit with
  | event event =>
    cases event with
    | modemRemoved path =>
      change (path, request) ∈ board.waiting
      exact hqueue path hreached
    | modemAdded path properties => cases hreached
    | propertyChanged path change => cases hreached
  | loaded path interface result => cases hreached
  | replay path epoch =>
    change (path, request) ∈ board.waiting
    refine hqueue path ?_
    have hfirst := board.queue_nextQueued path path epoch
    rw [leaving, if_pos rfl] at hfirst
    rw [← hfirst]
    exact List.mem_append_left _ hreached

end Switchboard

namespace Desk

variable [Daemon δ]

/-- Whatever has been done at a desk, what is done for one modem leaves the entries of the others
alone. It spares their calls exactly if no request that it reaches has the id of one of them; and
where one has, a call of that id was destroyed before, unless the ids ran out. -/
theorem visit_isolates_iff (daemon : δ) (moves : List (Move δ)) (visit : Visit) :
    let board := ((opened daemon).run moves).board
    ((∀ other, visit.path ≠ other → Switchboard.entry? (board.visit visit) other = board.entry? other) ∧
        (board.visit visit).signalled = board.signalled) ∧
      (board.Spares (board.visit visit) visit.path ↔ ¬ board.Strays visit) ∧
      ((opened daemon).Roomy moves → ∀ request ∈ board.reaches visit, ∀ call,
        board.calls.get? request.id = some call → call.origin ≠ visit.path →
          (opened daemon).Destroyed request.id moves) := by
  intro board
  obtain ⟨modems, drains, tokens, hvisit, helsewhere⟩ := board.visit_eq visit
  refine ⟨⟨fun other hne => ?_, ?_⟩, ?_, fun hroom request hreached call hcall horigin => ?_⟩
  · rw [hvisit]
    exact helsewhere other hne
  · rw [hvisit]
  · exact Switchboard.spares_visit_iff (tokensGiven_run daemon moves) visit
  · by_contra hkept
    have hcounted : (opened daemon).calls.Counted (opened daemon).issued := CallTable.counted_empty
    have htracks := tracks_run hcounted (tracks_opened daemon request.id) hroom hkept
    exact horigin (htracks.origin visit.path request call (Switchboard.waits_of_reaches hreached)
      rfl hcall)

namespace StrayRequest

/-! A request that waits at one modem is cancelled; with no call outstanding, a request at another
modem gets its id; then the first modem is removed. -/

def first : ModemPath := ⟨"/m1"⟩

def second : ModemPath := ⟨"/m2"⟩

def moves : List (Move Simulator) :=
  [.process (.modemAdded first []), .process (.modemAdded second []), .submit first "*43#",
    .cancel ⟨1⟩, .submit second "*#43#"]

def board : Switchboard := ((opened Simulator.empty).run moves).board

def removal : Visit := .event (.modemRemoved first)

theorem roomy : (opened Simulator.empty).Roomy moves := by
  refine ⟨?_, ?_, ?_, ?_, ?_, trivial⟩ <;> decide +kernel

theorem reached : (⟨⟨1⟩, "*43#", ⟨0⟩⟩ : QueuedRequest) ∈ board.reaches removal := by
  have hreaches : board.reaches removal = [⟨⟨1⟩, "*43#", ⟨0⟩⟩] := by decide +kernel
  rw [hreaches]
  exact List.mem_singleton_self _

theorem call : board.calls.get? ⟨1⟩ = some ⟨second, none⟩ := by decide +kernel

end StrayRequest

/-- The removal strikes out the call of the other modem, and its entry stays; the cancellation that
destroyed the id is part of the run. -/
theorem visit_isolates_iff_stray :
    StrayRequest.second ≠ StrayRequest.first ∧
      Switchboard.entry? (StrayRequest.board.visit StrayRequest.removal) StrayRequest.second =
        StrayRequest.board.entry? StrayRequest.second ∧
      ¬ StrayRequest.board.Spares (StrayRequest.board.visit StrayRequest.removal)
        StrayRequest.first ∧
      (opened Simulator.empty).Roomy StrayRequest.moves ∧
      (opened Simulator.empty).Destroyed ⟨1⟩ StrayRequest.moves := by
  obtain ⟨⟨hentries, -⟩, hspares, hdestroyed⟩ :=
    visit_isolates_iff Simulator.empty StrayRequest.moves StrayRequest.removal
  have hne : StrayRequest.second ≠ StrayRequest.first := by decide
  exact ⟨hne, hentries _ hne.symm,
    fun hspared => hspares.1 hspared ⟨_, StrayRequest.reached, _, StrayRequest.call, hne⟩,
    StrayRequest.roomy,
    hdestroyed StrayRequest.roomy _ StrayRequest.reached _ StrayRequest.call hne⟩

/-- What is done for one modem can take away the call of another. -/
theorem not_always_isolated :
    ¬ ∀ (daemon : Simulator) (moves : List (Move Simulator)) (visit : Visit),
      let board := ((opened daemon).run moves).board
      (∀ other, visit.path ≠ other → Switchboard.entry? (board.visit visit) other = board.entry? other) ∧
        board.Spares (board.visit visit) visit.path := by
  intro halways
  obtain ⟨-, hspares⟩ := halways Simulator.empty StrayRequest.moves StrayRequest.removal
  have hkept := hspares ⟨1⟩ _ StrayRequest.call (by decide)
  have hgone : (StrayRequest.board.visit StrayRequest.removal).calls.get? ⟨1⟩ = none := by
    decide +kernel
  exact absurd (hgone.symm.trans hkept) (by decide)

end Desk

end Telephony

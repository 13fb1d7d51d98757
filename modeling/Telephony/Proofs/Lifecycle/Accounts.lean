import Telephony.Proofs.Lifecycle.Serving
import Telephony.Proofs.Lifecycle.Usage

/-!
# Ids and answers

Every request carries the id under which it was accepted, until it is answered, so that the ids given
out and not answered since are those in the table of calls. A board without calls is cleared without
an answer.
-/

namespace Telephony

variable {δ : Type}

/-! ### Clearing a board without calls -/

namespace Switchboard

variable {board : Switchboard}

theorem mem_ids_abandoned (calls : CallTable ModemPath) (queue : List QueuedRequest) (id : CallId) :
    id ∈ (abandon calls queue).2.map (·.id) ↔ id ∈ queue.map (·.id) ∧ id ∈ calls.ids := by
  induction queue generalizing calls with
  | nil => simp [abandon]
  | cons request rest ih =>
    have hrest := ih (calls.take request.id).2
    rw [CallTable.mem_ids_take] at hrest
    rw [abandon_cons, List.map_cons, List.mem_cons]
    by_cases hout : request.id ∈ calls.ids
    · rw [if_pos (CallTable.take_fst_isSome.2 hout), List.map_cons, List.mem_cons, hrest]
      by_cases hid : id = request.id <;> simp [hid, hout]
    · rw [if_neg (hout ∘ CallTable.take_fst_isSome.1), hrest]
      by_cases hid : id = request.id <;> simp [hid, hout]

theorem releaseSession_eq (board : Switchboard) (subscriptions : List Subscription) :
    ∃ observers, board.releaseSession subscriptions =
      { board with observers, sessionActive := false } := by
  have hstruck : ∃ observers, subscriptions.foldl
      (fun board subscription => (board.unsubscribe subscription).2) board =
        { board with observers } := by
    induction subscriptions generalizing board with
    | nil => exact ⟨board.observers, rfl⟩
    | cons subscription rest ih =>
      obtain ⟨observers, hrest⟩ := ih (board.unsubscribe subscription).2
      exact ⟨observers, hrest⟩
  obtain ⟨observers, hstruck⟩ := hstruck
  refine ⟨observers, ?_⟩
  rw [releaseSession, hstruck]
  rfl

theorem waiting_of_unknown (hunknown : ∀ path, board.entry? path = none) : board.waiting = 0 := by
  have hmodems : board.modems = ∅ := Table.ext_get? hunknown
  rw [waiting, hmodems]
  rfl

/-- With no call outstanding, no request is answered as its modem goes. -/
theorem clear_of_idle (hidle : board.calls.ids = []) :
    board.clear.1.calls.ids = [] ∧ board.clear.2.failures = [] := by
  refine clear_keeps (fun result => result.1.calls.ids = [] ∧ result.2.failures = [])
    (fun before outcome path hkept => ?_) ⟨hidle, rfl⟩
  obtain ⟨hnone, hquiet⟩ := hkept
  rw [Outcome.failures_append, hquiet, List.nil_append]
  cases hentry : before.entry? path with
  | none =>
    rw [removeModem_of_unknown hentry]
    exact ⟨hnone, rfl⟩
  | some entry =>
    obtain ⟨-, hcalls, hfailures⟩ := removeModem_of_known hentry
    -- a request may still wait when its call was cancelled, but then it gets no answer
    have habandoned : (abandon before.calls entry.requests.queue).2 = [] := by
      rw [← List.map_eq_nil_iff (f := (·.id)), List.eq_nil_iff_forall_not_mem]
      intro id hid
      have hout := ((mem_ids_abandoned _ _ id).1 hid).2
      exact List.not_mem_nil (hnone ▸ hout)
    refine ⟨?_, by rw [hfailures, habandoned]; rfl⟩
    rw [hcalls, List.eq_nil_iff_forall_not_mem]
    intro id hid
    have hout := ((mem_ids_abandon _ _ id).1 hid).2
    exact List.not_mem_nil (hnone ▸ hout)

/-- With no request waiting, the calls stay as they are. -/
theorem clear_of_unqueued (hunqueued : board.waiting = 0) : board.clear.1.calls = board.calls := by
  have hkept : board.clear.1.waiting = 0 ∧ board.clear.1.calls = board.calls := by
    refine clear_keeps (fun result => result.1.waiting = 0 ∧ result.1.calls = board.calls)
      (fun before outcome path hkept => ?_) ⟨hunqueued, rfl⟩
    obtain ⟨hnone, hsame⟩ := hkept
    cases hentry : before.entry? path with
    | none =>
      rw [removeModem_of_unknown hentry]
      exact ⟨hnone, hsame⟩
    | some entry =>
      obtain ⟨hwaiting, hcalls, -⟩ := removeModem_of_known hentry
      have hqueue := (⟨rfl, hnone⟩ : before.Alike before).queue hentry
      rw [hnone, hqueue] at hwaiting
      rw [hcalls, hqueue]
      exact ⟨(hwaiting.trans (zero_add _)).symm, hsame⟩
  exact hkept.2

end Switchboard

namespace Service

variable [Daemon δ] {service : Service δ}

/-- A service on which no call is outstanding clears its board without giving an answer. -/
theorem ledger_cleared (hidle : service.board.calls.ids = []) :
    service.cleared.ledger =
      { service.ledger with waiting := 0, calls := service.board.clear.1.calls } := by
  have hboard : ({ service with board := service.board.clear.1 } : Service δ).ledger =
      { service.ledger with
        waiting := service.board.clear.1.waiting
        calls := service.board.clear.1.calls } := rfl
  rw [cleared, ledger_execute, (Switchboard.clear_of_idle hidle).2, Ledger.answer_nil, hboard,
    Switchboard.waiting_of_unknown service.board.lookup_clear]

end Service

/-! ### Ids in the ledger -/

/-- Every request has the id under which it was accepted, and the outstanding calls are those whose
ids are outstanding. -/
structure Ledger.Accounts (ledger : Ledger) (ids outstanding : List CallId) : Prop where
  waiting : ∀ path request, (path, request) ∈ ledger.waiting →
    ids[request.ticket.number]? = some request.id
  taken : ∀ request ∈ ledger.taken, ids[request.ticket.number]? = some request.id
  flights : ∀ flight ∈ ledger.flights, ids[flight.ticket.number]? = some flight.id
  outstanding : ∀ id, id ∈ outstanding ↔ id ∈ ledger.calls.ids

namespace Ledger.Accounts

variable {ledger : Ledger} {ids outstanding : List CallId}

theorem congr (haccounts : ledger.Accounts ids outstanding) {other : List CallId}
    (hsame : ∀ id, id ∈ other ↔ id ∈ outstanding) : ledger.Accounts ids other :=
  { haccounts with outstanding := fun id => (hsame id).trans (haccounts.outstanding id) }

/-- The ids of earlier requests stay as more are given out. -/
theorem grow (haccounts : ledger.Accounts ids outstanding) (id : CallId) :
    ledger.Accounts (ids ++ [id]) outstanding := by
  have hkept : ∀ {number : Nat} {other : CallId}, ids[number]? = some other →
      (ids ++ [id])[number]? = some other := by
    intro number other hother
    obtain ⟨hlt, -⟩ := List.getElem?_eq_some_iff.1 hother
    rw [List.getElem?_append_left hlt]
    exact hother
  exact ⟨fun path request hmem => hkept (haccounts.waiting path request hmem),
    fun request hmem => hkept (haccounts.taken request hmem),
    fun flight hmem => hkept (haccounts.flights flight hmem), haccounts.outstanding⟩

theorem add (haccounts : ledger.Accounts ids outstanding) (path : ModemPath)
    (token : Option Token) (id : CallId) :
    id ∈ outstanding ++ [ledger.calls.next] ↔
      id ∈ (ledger.calls.reserve.2.add ledger.calls.next path token).ids := by
  rw [CallTable.mem_ids_add, CallTable.ids_reserve, List.mem_append, List.mem_singleton,
    haccounts.outstanding, or_comm]

theorem queue (haccounts : ledger.Accounts ids outstanding) (path : ModemPath) (code : String) :
    Accounts { ledger with
      waiting := (path, ⟨ledger.calls.next, code, ⟨ids.length⟩⟩) ::ₘ ledger.waiting
      calls := ledger.calls.reserve.2.add ledger.calls.next path none }
      (ids ++ [ledger.calls.next]) (outstanding ++ [ledger.calls.next]) :=
  { haccounts.grow ledger.calls.next with
    waiting := by
      intro other request hmem
      rcases Multiset.mem_cons.1 hmem with heq | hold
      · cases heq
        exact List.getElem?_concat_length
      · exact (haccounts.grow ledger.calls.next).waiting other request hold
    outstanding := haccounts.add path none }

theorem dispatch (haccounts : ledger.Accounts ids outstanding) (path : ModemPath)
    (errand : Errand) (token : Token) :
    Accounts { ledger with
      flights := ⟨ledger.calls.next, path, errand, token, ⟨ids.length⟩, false⟩ ::ₘ ledger.flights
      calls := ledger.calls.reserve.2.add ledger.calls.next path (some token) }
      (ids ++ [ledger.calls.next]) (outstanding ++ [ledger.calls.next]) :=
  { haccounts.grow ledger.calls.next with
    flights := by
      intro flight hmem
      rcases Multiset.mem_cons.1 hmem with rfl | hold
      · exact List.getElem?_concat_length
      · exact (haccounts.grow ledger.calls.next).flights flight hold
    outstanding := haccounts.add path (some token) }

theorem take (haccounts : ledger.Accounts ids outstanding) {path : ModemPath}
    {request : QueuedRequest} {rest : Multiset (ModemPath × QueuedRequest)}
    (hwaiting : ledger.waiting = (path, request) ::ₘ rest) :
    Accounts { ledger with waiting := rest, taken := request ::ₘ ledger.taken } ids outstanding :=
  { haccounts with
    waiting := fun other waiter hmem =>
      haccounts.waiting other waiter (hwaiting ▸ Multiset.mem_cons_of_mem hmem)
    taken := by
      intro other hmem
      rcases Multiset.mem_cons.1 hmem with rfl | hold
      · exact haccounts.waiting path other (hwaiting ▸ Multiset.mem_cons_self _ _)
      · exact haccounts.taken other hold }

theorem skip (haccounts : ledger.Accounts ids outstanding) {request : QueuedRequest}
    {rest : Multiset QueuedRequest} (htaken : ledger.taken = request ::ₘ rest) :
    Accounts { ledger with taken := rest } ids outstanding :=
  { haccounts with
    taken := fun other hmem => haccounts.taken other (htaken ▸ Multiset.mem_cons_of_mem hmem) }

theorem arm (haccounts : ledger.Accounts ids outstanding) {request : QueuedRequest}
    {rest : Multiset QueuedRequest} (htaken : ledger.taken = request ::ₘ rest) (path : ModemPath)
    (token : Token) :
    Accounts { ledger with
      taken := rest
      flights := ⟨request.id, path, .dial request.code, token, request.ticket, false⟩ ::ₘ
        ledger.flights
      calls := (ledger.calls.arm request.id token).2 } ids outstanding :=
  { haccounts.skip htaken with
    flights := by
      intro flight hmem
      rcases Multiset.mem_cons.1 hmem with rfl | hold
      · exact haccounts.taken request (htaken ▸ Multiset.mem_cons_self _ _)
      · exact haccounts.flights flight hold
    outstanding := fun id => by rw [CallTable.ids_arm, haccounts.outstanding] }

theorem begin (haccounts : ledger.Accounts ids outstanding) {flight : Flight}
    {rest : Multiset Flight} (hflights : ledger.flights = flight ::ₘ rest) :
    Accounts { ledger with flights := { flight with begun := true } ::ₘ rest } ids outstanding :=
  { haccounts with
    flights := by
      intro other hmem
      rcases Multiset.mem_cons.1 hmem with rfl | hold
      · exact haccounts.flights flight (hflights ▸ Multiset.mem_cons_self _ _)
      · exact haccounts.flights other (hflights ▸ Multiset.mem_cons_of_mem hold) }

theorem finish (haccounts : ledger.Accounts ids outstanding) {flight : Flight}
    {rest : Multiset Flight} (hflights : ledger.flights = flight ::ₘ rest) (answer : Answer) :
    Accounts (({ ledger with flights := rest, calls := (ledger.calls.take flight.id).2 } :
      Ledger).answer [(flight.ticket, answer)]) ids
      (outstanding.filter fun id => id ∉ answeredIds ids [(flight.ticket, answer)]) :=
  { haccounts with
    flights := fun other hmem =>
      haccounts.flights other (hflights ▸ Multiset.mem_cons_of_mem hmem)
    outstanding := by
      intro id
      have hflight := haccounts.flights flight (hflights ▸ Multiset.mem_cons_self _ _)
      have hanswered : answeredIds ids [(flight.ticket, answer)] = [flight.id] := by
        simp [answeredIds, hflight]
      rw [hanswered, List.mem_filter, decide_eq_true_eq, List.mem_singleton, haccounts.outstanding,
        and_comm]
      exact CallTable.mem_ids_take.symm }

theorem remove (haccounts : ledger.Accounts ids outstanding) {path : ModemPath}
    {queue : List QueuedRequest} {rest : Multiset (ModemPath × QueuedRequest)}
    (hwaiting : ledger.waiting = (queue.map (path, ·) : List _) + rest) :
    let answers := (Effect.fail path (Switchboard.abandon ledger.calls queue).2).failures
    Accounts (({ ledger with
      waiting := rest
      calls := (Switchboard.abandon ledger.calls queue).1 } : Ledger).answer answers) ids
      (outstanding.filter fun id => id ∉ answeredIds ids answers) :=
  { haccounts with
    waiting := fun other request hmem =>
      haccounts.waiting other request (hwaiting ▸ Multiset.mem_add.2 (.inr hmem))
    outstanding := by
      intro id
      -- every request that is answered waited, so it has the id that its ticket stands for
      have hanswered : answeredIds ids
          (Effect.fail path (Switchboard.abandon ledger.calls queue).2).failures =
            (Switchboard.abandon ledger.calls queue).2.map (·.id) := by
        rw [answeredIds, Effect.failures, List.filterMap_map, ← List.filterMap_eq_map]
        refine List.filterMap_congr fun request hfailed => haccounts.waiting path request ?_
        have hqueued := (Switchboard.abandon_sublist _ _).subset hfailed
        exact hwaiting ▸ Multiset.mem_add.2 (.inl (List.mem_map_of_mem hqueued))
      rw [hanswered, List.mem_filter, decide_eq_true_eq, Switchboard.mem_ids_abandoned,
        haccounts.outstanding]
      change _ ↔ id ∈ (Switchboard.abandon ledger.calls queue).1.ids
      rw [Switchboard.mem_ids_abandon]
      tauto }

end Ledger.Accounts

/-- A move that hands in no request and cancels none frees the ids of the calls that it answers. -/
theorem Desk.Step.accounts [Daemon δ] {desk : Desk δ} {move : Move δ} {books : Books}
    (hstep : desk.Step move books) (hnone : books.accepted = desk.accepted)
    (hkept : ∀ id, move ≠ .cancel id) {ids outstanding : List CallId}
    (haccounts : desk.service.ledger.Accounts ids outstanding) :
    ∃ answers : List (Ticket × Answer),
      books.answered = desk.service.ledger.answered + (answers : Multiset _) ∧
      books.toLedger.Accounts ids
        (outstanding.filter fun id => id ∉ answeredIds ids answers) := by
  have hsame : ∀ {ledger : Ledger}, ledger.Accounts ids outstanding →
      ledger.Accounts ids (outstanding.filter fun id => id ∉ answeredIds ids []) := by
    intro ledger hledger
    exact hledger.congr fun id => by simp [answeredIds]
  have hgrown : ∀ path, desk.accepted ++ [path] ≠ desk.accepted := by simp
  cases hstep with
  | quiet => exact ⟨[], (add_zero _).symm, hsame haccounts⟩
  | queue | dispatch => exact absurd hnone (hgrown _)
  | take _ hwaiting => exact ⟨[], (add_zero _).symm, hsame (haccounts.take hwaiting)⟩
  | @arm _ path _ _ token _ _ _ htaken =>
    exact ⟨[], (add_zero _).symm, hsame (haccounts.arm htaken path token)⟩
  | skip _ _ htaken => exact ⟨[], (add_zero _).symm, hsame (haccounts.skip htaken)⟩
  | begin _ hflights => exact ⟨[], (add_zero _).symm, hsame (haccounts.begin hflights)⟩
  | @finish _ flight answer _ _ hflights =>
    exact ⟨[(flight.ticket, answer)], rfl, haccounts.finish hflights answer⟩
  | @destroy id => exact absurd rfl (hkept id)
  | remove _ hwaiting => exact ⟨_, rfl, haccounts.remove hwaiting⟩

end Telephony

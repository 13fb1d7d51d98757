import Telephony.Proofs.Requests.Places
import Telephony.Simulator.Basic

/-!
# Cancelled requests

Cancelling a request that waits strikes its id out of the table of calls and leaves the request in
its place. Whether it is sent or answered all the same is decided when it is taken up, by a drain
or by the removal of its modem: it goes on if its id is outstanding at that moment. Since ids start
again when no call is outstanding, this happens when a later request got the same id.
-/

namespace Telephony

variable {δ : Type}

namespace Ledger

/-- The request stands in a queue, or a drain has taken it out and not yet sent it. -/
def Waits (ledger : Ledger) (request : QueuedRequest) : Prop :=
  (∃ path, (path, request) ∈ ledger.waiting) ∨ request ∈ ledger.taken

/-- The request is in flight or answered. -/
def Carries (ledger : Ledger) (ticket : Ticket) : Prop :=
  (∃ flight ∈ ledger.flights, flight.ticket = ticket) ∨
    ∃ answer, (ticket, answer) ∈ ledger.answered

variable {ledger : Ledger} {request : QueuedRequest} {ticket : Ticket}

theorem mem_tickets :
    ticket ∈ ledger.tickets ↔
      (∃ request, ledger.Waits request ∧ request.ticket = ticket) ∨ ledger.Carries ticket := by
  simp only [tickets, waitingTickets, underWayTickets, answeredTickets, Multiset.mem_add,
    Multiset.mem_map, Waits, Carries]
  constructor
  · rintro ((⟨⟨path, request⟩, hmem, rfl⟩ | ⟨request, hmem, rfl⟩ | hflight) | ⟨⟨_, answer⟩, hmem, rfl⟩)
    · exact .inl ⟨request, .inl ⟨path, hmem⟩, rfl⟩
    · exact .inl ⟨request, .inr hmem, rfl⟩
    · exact .inr (.inl hflight)
    · exact .inr (.inr ⟨answer, hmem⟩)
  · rintro (⟨request, ⟨path, hmem⟩ | hmem, rfl⟩ | hflight | ⟨answer, hmem⟩)
    · exact .inl (.inl ⟨(path, request), hmem, rfl⟩)
    · exact .inl (.inr (.inl ⟨request, hmem, rfl⟩))
    · exact .inl (.inr (.inr hflight))
    · exact .inr ⟨(ticket, answer), hmem, rfl⟩

theorem Waits.mem_tickets (hwaits : ledger.Waits request) : request.ticket ∈ ledger.tickets :=
  Ledger.mem_tickets.2 (.inl ⟨request, hwaits, rfl⟩)

theorem Carries.mem_tickets (hcarries : ledger.Carries ticket) : ticket ∈ ledger.tickets :=
  Ledger.mem_tickets.2 (.inr hcarries)

/-- With every ticket in one place, a request that waits is neither in flight nor answered. -/
theorem Waits.not_carries (hnodup : ledger.tickets.Nodup) (hwaits : ledger.Waits request) :
    ¬ ledger.Carries request.ticket := by
  have hsplit : ledger.tickets =
      (ledger.waiting.map (·.2.ticket) + ledger.taken.map (·.ticket)) +
        (ledger.flights.map (·.ticket) + ledger.answered.map (·.1)) := by
    simp only [tickets, waitingTickets, underWayTickets, answeredTickets, add_assoc]
  rw [hsplit, Multiset.nodup_add] at hnodup
  have hleft : request.ticket ∈
      ledger.waiting.map (·.2.ticket) + ledger.taken.map (·.ticket) := by
    rcases hwaits with ⟨path, hmem⟩ | hmem
    · exact Multiset.mem_add.2 (.inl (Multiset.mem_map.2 ⟨_, hmem, rfl⟩))
    · exact Multiset.mem_add.2 (.inr (Multiset.mem_map.2 ⟨_, hmem, rfl⟩))
  intro hcarries
  refine Multiset.disjoint_left.1 hnodup.2.2 hleft ?_
  rcases hcarries with ⟨flight, hmem, hticket⟩ | ⟨answer, hmem⟩
  · exact Multiset.mem_add.2 (.inl (Multiset.mem_map.2 ⟨flight, hmem, hticket⟩))
  · exact Multiset.mem_add.2 (.inr (Multiset.mem_map.2 ⟨_, hmem, rfl⟩))

end Ledger

namespace Desk

def Waits (desk : Desk δ) (request : QueuedRequest) : Prop := desk.service.ledger.Waits request

def Carries (desk : Desk δ) (ticket : Ticket) : Prop := desk.service.ledger.Carries ticket

/-- The move takes up the request while its id is outstanding: a drain comes to send it, or its
modem is removed and no request ahead of it in the queue has the same id. -/
inductive Revives (desk : Desk δ) : Move δ → QueuedRequest → Prop
  | drain {index : Nat} {path : ModemPath} {epoch : UInt64} {request : QueuedRequest}
      (hjob : desk.service.jobs[index]? = some (.drain path epoch (.taken request)))
      (hout : request.id ∈ desk.calls.ids) : Revives desk (.turn index) request
  | removal {path : ModemPath} {entry : Entry} {ahead behind : List QueuedRequest}
      {request : QueuedRequest} (hentry : desk.board.entry? path = some entry)
      (hqueue : entry.requests.queue = ahead ++ request :: behind)
      (hfirst : ∀ other ∈ ahead, other.id ≠ request.id)
      (hout : request.id ∈ desk.calls.ids) :
      Revives desk (.process (.modemRemoved path)) request

theorem Revives.takesUp {desk : Desk δ} {move : Move δ} {request : QueuedRequest}
    (hrevives : desk.Revives move request) : desk.TakesUp move request := by
  cases hrevives with
  | drain hjob hout => exact .drain hjob
  | removal hentry hqueue hfirst hout =>
    exact .removal hentry (hqueue ▸ List.mem_append_right _ List.mem_cons_self)

theorem Revives.out {desk : Desk δ} {move : Move δ} {request : QueuedRequest}
    (hrevives : desk.Revives move request) : request.id ∈ desk.calls.ids := by
  cases hrevives with
  | drain hjob hout => exact hout
  | removal hentry hqueue hfirst hout => exact hout

theorem TakesUp.waits {desk : Desk δ} {move : Move δ} {request : QueuedRequest}
    (htakes : desk.TakesUp move request) : desk.Waits request := by
  cases htakes with
  | drain hjob =>
    refine .inr (Multiset.mem_coe.2 (List.mem_filterMap.2 ⟨_, List.mem_of_getElem? hjob, rfl⟩))
  | removal hentry hqueued => exact .inl ⟨_, mem_waiting hentry hqueued⟩

/-! ### The fate of a request that waits -/

/-- What becomes of a request in one move: it goes on waiting, or it is taken up and then carried or
lost, by whether its id is outstanding. -/
inductive Fate (desk : Desk δ) (move : Move δ) (books : Books) (request : QueuedRequest) : Prop
  | waits (hnot : ¬ desk.Revives move request) (hwaits : books.Waits request)
  | revived (hrevives : desk.Revives move request) (hcarries : books.Carries request.ticket)
  | lost (hnot : ¬ desk.Revives move request) (hlost : request.ticket ∉ books.tickets)

/-- Of a removed queue, the requests that are not answered are in no place any more. -/
theorem not_mem_tickets_remove {ledger : Ledger} (hnodup : ledger.tickets.Nodup)
    {path : ModemPath} {queue failed : List QueuedRequest}
    {rest : Multiset (ModemPath × QueuedRequest)}
    (hwaiting : ledger.waiting = (queue.map (path, ·) : List _) + rest)
    (hfailed : failed.Sublist queue) {request : QueuedRequest} (hqueued : request ∈ queue)
    (hnot : request ∉ failed) (calls : CallTable ModemPath) :
    request.ticket ∉ (({ ledger with waiting := rest, calls } : Ledger).answer
      (Effect.fail path failed).failures).tickets := by
  have hqueueTickets : ((queue.map (·.ticket) : List Ticket) : Multiset Ticket) ≤
      ledger.tickets := by
    simp only [Ledger.tickets, Ledger.waitingTickets, hwaiting, Multiset.map_add,
      Multiset.map_coe, List.map_map, add_assoc]
    exact Multiset.le_add_right _ _
  have hdistinct : (queue.map (·.ticket)).Nodup :=
    Multiset.coe_nodup.1 (Multiset.nodup_of_le hqueueTickets hnodup)
  have hunanswered : request.ticket ∉ failed.map (·.ticket) := by
    intro hmem
    obtain ⟨other, hother, hticket⟩ := List.mem_map.1 hmem
    have heq := List.inj_on_of_nodup_map hdistinct (hfailed.subset hother) hqueued hticket
    exact hnot (heq ▸ hother)
  have hcount := congrArg (Multiset.count request.ticket)
    (Ledger.tickets_remove hwaiting failed calls)
  rw [Multiset.count_add, Multiset.count_add, Multiset.coe_count, Multiset.coe_count,
    List.count_eq_zero_of_not_mem hunanswered] at hcount
  have honce := Multiset.nodup_iff_count_le_one.1 hnodup request.ticket
  have hthere := List.count_pos_iff.2 (List.mem_map_of_mem (f := (·.ticket)) hqueued)
  rw [← Multiset.count_eq_zero]
  omega

theorem Revives.eq_of_job {desk : Desk δ} {index : Nat} {path : ModemPath} {epoch : UInt64}
    {request taken : QueuedRequest} (hrevives : desk.Revives (.turn index) request)
    (hjob : desk.service.jobs[index]? = some (.drain path epoch (.taken taken))) :
    request = taken := by
  cases hrevives with
  | drain hother hout =>
    rw [hjob] at hother
    cases hother
    rfl

/-- What waits still waits when a drain is done with another request. -/
theorem Waits.of_taken_ne {desk : Desk δ} {request taken : QueuedRequest}
    (hwaits : desk.Waits request) {rest : Multiset QueuedRequest}
    (htaken : desk.service.taken = taken ::ₘ rest) (hne : request ≠ taken) :
    (∃ path, (path, request) ∈ desk.service.ledger.waiting) ∨ request ∈ rest := by
  apply hwaits.imp_right
  intro hmem
  change request ∈ desk.service.taken at hmem
  rw [htaken, Multiset.mem_cons] at hmem
  exact hmem.resolve_left hne

/-- A modem that is removed takes up the requests in its queue and no others. -/
theorem fate_remove {desk : Desk δ} (hnodup : desk.service.ledger.tickets.Nodup)
    {request : QueuedRequest} (hwaits : desk.Waits request) {path : ModemPath} {entry : Entry}
    {rest : Multiset (ModemPath × QueuedRequest)} (hentry : desk.board.entry? path = some entry)
    (hwaiting : desk.board.waiting = (entry.requests.queue.map (path, ·) : List _) + rest) :
    Fate desk (.process (.modemRemoved path)) (desk.books.put
      (({ desk.service.ledger with
        waiting := rest
        calls := (Switchboard.abandon desk.calls entry.requests.queue).1 } : Ledger).answer
        (Effect.fail path
          (Switchboard.abandon desk.calls entry.requests.queue).2).failures)) request := by
  have hknown : ∀ {other : Entry}, desk.board.entry? path = some other → other = entry :=
    fun hother => Option.some.inj (hother.symm.trans hentry)
  by_cases hqueued : request ∈ entry.requests.queue
  · by_cases hanswered : request ∈ (Switchboard.abandon desk.calls entry.requests.queue).2
    · obtain ⟨ahead, behind, hqueue, hfirst, hout⟩ := Switchboard.mem_abandon_iff.1 hanswered
      refine .revived (.removal hentry hqueue hfirst hout)
        (.inr ⟨.reply (.error (.modemNotFound path)), ?_⟩)
      exact Multiset.mem_add.2 (.inr (List.mem_map.2 ⟨request, hanswered, rfl⟩))
    · refine .lost (fun hrevives => hanswered ?_) ?_
      · cases hrevives with
        | removal hother hqueue hfirst hout =>
          rw [hknown hother] at hqueue
          exact Switchboard.mem_abandon_iff.2 ⟨_, _, hqueue, hfirst, hout⟩
      · exact not_mem_tickets_remove hnodup hwaiting (Switchboard.abandon_sublist _ _) hqueued
          hanswered _
  · refine .waits (fun hrevives => ?_) ?_
    · cases hrevives.takesUp with
      | removal hother hmem => exact hqueued (hknown hother ▸ hmem)
    · refine hwaits.imp_left fun ⟨other, hmem⟩ => ⟨other, ?_⟩
      change (other, request) ∈ desk.board.waiting at hmem
      rw [hwaiting, Multiset.mem_add] at hmem
      refine hmem.resolve_left fun hqueue => hqueued ?_
      obtain ⟨_, hmem, heq⟩ := List.mem_map.1 (Multiset.mem_coe.1 hqueue)
      cases heq
      exact hmem

variable [Daemon δ]

theorem Step.fate {desk : Desk δ} {move : Move δ} {books : Books} (hstep : desk.Step move books)
    (hfresh : desk.books.Fresh) {request : QueuedRequest} (hwaits : desk.Waits request) :
    Fate desk move books request := by
  have hnodup : desk.service.ledger.tickets.Nodup :=
    Multiset.nodup_of_le hfresh (nodup_ticketsUpTo _)
  cases hstep with
  | quiet hnone | begin hnone hflights | finish hnone hflights hgives =>
    exact .waits (fun hrevives => hnone _ hrevives.takesUp) hwaits
  | dispatch hnone => exact .waits (fun hrevives => hnone _ hrevives.takesUp) hwaits
  | queue =>
    refine .waits (fun hrevives => nomatch hrevives) ?_
    exact hwaits.imp_left fun ⟨path, hmem⟩ => ⟨path, Multiset.mem_cons_of_mem hmem⟩
  | destroy hdestroyed hout => exact .waits (fun hrevives => nomatch hrevives) hwaits
  | @take index path taken rest hnone hwaiting =>
    refine .waits (fun hrevives => hnone _ hrevives.takesUp) ?_
    rcases hwaits with ⟨other, hmem⟩ | hmem
    · change (other, request) ∈ desk.board.waiting at hmem
      rw [hwaiting, Multiset.mem_cons] at hmem
      rcases hmem with heq | hrest
      · obtain ⟨rfl, rfl⟩ := Prod.mk.inj heq
        exact .inr (Multiset.mem_cons_self request desk.service.taken)
      · exact .inl ⟨other, hrest⟩
    · exact .inr (Multiset.mem_cons_of_mem hmem)
  | @arm index path epoch armed token rest hjob hout htaken =>
    by_cases heq : request = armed
    · subst heq
      let flight : Flight :=
        ⟨request.id, path, .dial request.code, token, request.ticket, false⟩
      exact .revived (.drain hjob hout)
        (.inl ⟨flight, Multiset.mem_cons_self flight desk.service.flights, rfl⟩)
    · exact .waits (fun hrevives => heq (hrevives.eq_of_job hjob)) (hwaits.of_taken_ne htaken heq)
  | @skip index path epoch skipped rest hjob hout htaken =>
    by_cases heq : request = skipped
    · subst heq
      refine .lost (fun hrevives => hout hrevives.out) ?_
      have hlost := Ledger.tickets_skip (show desk.service.ledger.taken = _ from htaken)
      rw [hlost, Multiset.nodup_cons] at hnodup
      exact hnodup.1
    · exact .waits (fun hrevives => heq (hrevives.eq_of_job hjob)) (hwaits.of_taken_ne htaken heq)
  | remove hentry hwaiting => exact fate_remove hnodup hwaits hentry hwaiting

theorem Step.carries {desk : Desk δ} {move : Move δ} {books : Books}
    (hstep : desk.Step move books) {ticket : Ticket} (hcarries : desk.Carries ticket) :
    books.Carries ticket := by
  cases hstep with
  | quiet | queue | take | skip | destroy => exact hcarries
  | dispatch | arm =>
    exact hcarries.imp_left fun ⟨flight, hmem, hticket⟩ =>
      ⟨flight, Multiset.mem_cons_of_mem hmem, hticket⟩
  | @begin index begun rest hnone hflights =>
    apply hcarries.imp_left
    rintro ⟨flight, hmem, hticket⟩
    change flight ∈ desk.service.flights at hmem
    rw [hflights, Multiset.mem_cons] at hmem
    rcases hmem with rfl | hrest
    · exact ⟨_, Multiset.mem_cons_self _ _, hticket⟩
    · exact ⟨flight, Multiset.mem_cons_of_mem hrest, hticket⟩
  | @finish index finished answer rest hnone hflights hgives =>
    rcases hcarries with ⟨flight, hmem, hticket⟩ | ⟨given, hmem⟩
    · change flight ∈ desk.service.flights at hmem
      rw [hflights, Multiset.mem_cons] at hmem
      rcases hmem with rfl | hrest
      · refine .inr ⟨answer, Multiset.mem_add.2 (.inr ?_)⟩
        exact hticket ▸ List.mem_singleton_self _
      · exact .inl ⟨flight, hrest, hticket⟩
    · exact .inr ⟨given, Multiset.mem_add.2 (.inl hmem)⟩
  | remove => exact hcarries.imp_right fun ⟨given, hmem⟩ => ⟨given, Multiset.mem_add.2 (.inl hmem)⟩

/-- A ticket that was given out and is in no place stays away. -/
theorem Step.not_mem_tickets {desk : Desk δ} {move : Move δ} {books : Books}
    (hstep : desk.Step move books) {ticket : Ticket}
    (hgiven : ticket.number < desk.accepted.length)
    (hlost : ticket ∉ desk.service.ledger.tickets) : ticket ∉ books.tickets := by
  rcases hstep.tickets_cases with ⟨-, hle⟩ | ⟨path, -, htickets⟩
  · exact fun hmem => hlost (Multiset.mem_of_le hle hmem)
  · rw [htickets, Multiset.mem_cons]
    rintro (rfl | hmem)
    · exact absurd hgiven (Nat.lt_irrefl _)
    · exact hlost hmem

/-! ### Runs -/

theorem run_append (desk : Desk δ) (first rest : List (Move δ)) :
    desk.run (first ++ rest) = (desk.run first).run rest :=
  List.foldl_append

theorem carries_run {desk : Desk δ} {ticket : Ticket} (hcarries : desk.Carries ticket)
    (moves : List (Move δ)) : (desk.run moves).Carries ticket := by
  induction moves generalizing desk with
  | nil => exact hcarries
  | cons move rest ih => exact ih ((desk.step_spec move).carries hcarries)

theorem not_mem_tickets_run {desk : Desk δ} {ticket : Ticket}
    (hgiven : ticket.number < desk.accepted.length)
    (hlost : ticket ∉ desk.service.ledger.tickets) (moves : List (Move δ)) :
    ticket ∉ (desk.run moves).service.ledger.tickets := by
  induction moves generalizing desk with
  | nil => exact hlost
  | cons move rest ih =>
    have hstep := desk.step_spec move
    exact ih (hgiven.trans_le hstep.accepted_le) (hstep.not_mem_tickets hgiven hlost)

/-- A request that waits is carried in the end exactly if it is taken up at some moment at which its
id is outstanding. -/
theorem carries_run_iff {desk : Desk δ} (hfresh : desk.books.Fresh) {request : QueuedRequest}
    (hwaits : desk.Waits request) (moves : List (Move δ)) :
    (desk.run moves).Carries request.ticket ↔
      ∃ first move rest, moves = first ++ move :: rest ∧
        (desk.run first).Revives move request := by
  induction moves generalizing desk with
  | nil =>
    have hnodup := Multiset.nodup_of_le hfresh (nodup_ticketsUpTo _)
    refine iff_of_false (hwaits.not_carries hnodup) ?_
    rintro ⟨first, move, rest, hmoves, -⟩
    simp at hmoves
  | cons head tail ih =>
    have hstep := desk.step_spec head
    -- A moment in the tail is a moment in the whole run, and the head is the only one besides.
    have hshift : (∃ first move rest, head :: tail = first ++ move :: rest ∧
        (desk.run first).Revives move request) ↔
        desk.Revives head request ∨ ∃ first move rest, tail = first ++ move :: rest ∧
          ((desk.step head).run first).Revives move request := by
      constructor
      · rintro ⟨first, move, rest, hmoves, hrevives⟩
        cases first with
        | nil =>
          obtain ⟨rfl, rfl⟩ := List.cons.inj hmoves
          exact .inl hrevives
        | cons other first =>
          obtain ⟨rfl, rfl⟩ := List.cons.inj hmoves
          exact .inr ⟨first, move, rest, rfl, hrevives⟩
      · rintro (hrevives | ⟨first, move, rest, rfl, hrevives⟩)
        · exact ⟨[], head, tail, rfl, hrevives⟩
        · exact ⟨head :: first, move, rest, rfl, hrevives⟩
    rw [hshift]
    cases hstep.fate hfresh hwaits with
    | waits hnot hstill =>
      rw [or_iff_right hnot]
      exact ih (hstep.fresh hfresh) hstill
    | revived hrevives hcarries => exact iff_of_true (carries_run hcarries tail) (.inl hrevives)
    | lost hnot hlost =>
      have hgiven : request.ticket.number < desk.accepted.length :=
        mem_ticketsUpTo.1 (Multiset.mem_of_le hfresh hwaits.mem_tickets)
      have hgone : ∀ moves,
          request.ticket ∉ ((desk.step head).run moves).service.ledger.tickets :=
        not_mem_tickets_run (hgiven.trans_le hstep.accepted_le) hlost
      refine iff_of_false (fun hcarries => hgone tail hcarries.mem_tickets) ?_
      rintro (hrevives | ⟨first, move, rest, -, hrevives⟩)
      · exact hnot hrevives
      · exact hgone first hrevives.takesUp.waits.mem_tickets

/-! ### Ids that are given out again -/

/-- A request comes in with the move, and gets the id. -/
def GivesOut (desk : Desk δ) (move : Move δ) (id : CallId) : Prop :=
  (desk.step move).accepted.length = desk.accepted.length + 1 ∧ desk.calls.next = id

/-- An id becomes outstanding only when it is given out. -/
theorem step_outstanding {desk : Desk δ} {move : Move δ} {id : CallId}
    (hout : id ∈ (desk.step move).calls.ids) :
    id ∈ desk.calls.ids ∨ desk.GivesOut move id := by
  have hstep := desk.step_spec move
  have hcalls : id ∈ (desk.step move).books.calls.ids := hout
  have haccepted : (desk.step move).accepted = (desk.step move).books.accepted := rfl
  unfold GivesOut
  rw [haccepted]
  generalize (desk.step move).books = books at hstep hcalls
  cases hstep with
  | quiet | take | skip | begin => exact .inl hcalls
  | queue | dispatch =>
    rcases CallTable.mem_ids_add.1 hcalls with rfl | hold
    · exact .inr ⟨List.length_append, rfl⟩
    · exact .inl hold
  | @arm _ _ _ request token =>
    have hids := desk.calls.ids_arm request.id token
    exact .inl (hids ▸ hcalls)
  | finish | destroy => exact .inl (CallTable.mem_ids_take.1 hcalls).2
  | remove => exact .inl ((Switchboard.mem_ids_abandon _ _ _).1 hcalls).2

theorem run_outstanding {desk : Desk δ} {moves : List (Move δ)} {id : CallId}
    (hfree : id ∉ desk.calls.ids) (hout : id ∈ (desk.run moves).calls.ids) :
    ∃ first move rest, moves = first ++ move :: rest ∧ (desk.run first).GivesOut move id := by
  induction moves generalizing desk with
  | nil => exact absurd hout hfree
  | cons head tail ih =>
    by_cases hnext : id ∈ (desk.step head).calls.ids
    · exact ⟨[], head, tail, rfl, (step_outstanding hnext).resolve_left hfree⟩
    · obtain ⟨first, move, rest, rfl, hgives⟩ := ih hnext hout
      exact ⟨head :: first, move, rest, rfl, hgives⟩

theorem not_out_of_destroyed {desk : Desk δ} {id : CallId}
    (hdestroyed : (desk.service.cancel id).1 = .destroyed) :
    id ∉ (desk.step (.cancel id)).calls.ids := by
  have hcalls : (desk.step (.cancel id)).calls = (desk.calls.cancel id).2 := rfl
  rw [hcalls]
  rcases desk.calls.cancel_cases id with ⟨-, -, htake⟩ | ⟨hkept, -⟩
  · rw [htake]
    exact fun hmem => (CallTable.mem_ids_take.1 hmem).1 rfl
  · exact absurd hdestroyed hkept

/-! ### Destroyed requests -/

/-- In the move a call is handed to the daemon. -/
def HandsOver (desk : Desk δ) (move : Move δ) (flight : Flight) : Prop :=
  ∃ index job, move = .turn index ∧ desk.service.jobs[index]? = some job ∧
    job.flight? = some flight ∧ flight.begun = false ∧
    desk.board.isSignalled flight.token = false

omit [Daemon δ] in
theorem HandsOver.carries {desk : Desk δ} {move : Move δ} {flight : Flight}
    (hhands : desk.HandsOver move flight) : desk.Carries flight.ticket := by
  obtain ⟨index, job, -, hjob, hflight, -, -⟩ := hhands
  refine .inl ⟨flight, Multiset.mem_coe.2 ?_, rfl⟩
  exact List.mem_filterMap.2 ⟨job, List.mem_of_getElem? hjob, hflight⟩

/-- A request that was destroyed is in flight or answered later on exactly if its id is given out
again and the request is taken up while that id is outstanding. What is handed to the daemon at any
time is in flight or answered from then on. -/
theorem destroyed_carries_iff (daemon : δ) (before moves : List (Move δ))
    (request : QueuedRequest) (hwaits : ((opened daemon).run before).Waits request)
    (hdestroyed : (((opened daemon).run before).service.cancel request.id).1 = .destroyed) :
    let desk := (opened daemon).run (before ++ [.cancel request.id])
    ((desk.run moves).Carries request.ticket ↔
      ∃ first move rest, moves = first ++ move :: rest ∧
        (∃ earlier submission later, first = earlier ++ submission :: later ∧
          (desk.run earlier).GivesOut submission request.id) ∧
        (desk.run first).Revives move request) ∧
    ∀ first move rest flight, moves = first ++ move :: rest →
      (desk.run first).HandsOver move flight → flight.ticket = request.ticket →
      (desk.run moves).Carries request.ticket := by
  intro desk
  have hdesk : desk = ((opened daemon).run before).step (.cancel request.id) :=
    run_append _ before [.cancel request.id]
  have hfresh : desk.books.Fresh := fresh_run (fresh_opened daemon) _
  have hfree : request.id ∉ desk.calls.ids := by
    rw [hdesk]
    exact not_out_of_destroyed hdestroyed
  have hstill : desk.Waits request := by
    rw [hdesk]
    exact hwaits
  refine ⟨(carries_run_iff hfresh hstill moves).trans ?_, ?_⟩
  · constructor
    · rintro ⟨first, move, rest, hmoves, hrevives⟩
      exact ⟨first, move, rest, hmoves, run_outstanding hfree hrevives.out, hrevives⟩
    · rintro ⟨first, move, rest, hmoves, -, hrevives⟩
      exact ⟨first, move, rest, hmoves, hrevives⟩
  · rintro first move rest flight rfl hhands hticket
    rw [run_append]
    exact carries_run (hticket ▸ hhands.carries) _

namespace ReusedId

/-! A request waits for its interface and is cancelled; with no call outstanding, the next request
gets its id; then the interface comes, and a drain takes up the first of the two. -/

def path : ModemPath := ⟨"/m"⟩

def daemon : Simulator := Simulator.empty.addModem path []

def before : List (Move Simulator) := [.process (.modemAdded path []), .submit path "*43#"]

def request : QueuedRequest := ⟨⟨1⟩, "*43#", ⟨0⟩⟩

def after : List (Move Simulator) :=
  [.submit path "*#43#", .daemon (Simulator.empty.addModem path [.supplementaryServices]),
    .process (.propertyChanged path (.modem (.interfaces (.ofList [.supplementaryServices])))),
    .turn 0, .turn 0, .turn 0]

theorem waits : ((opened daemon).run before).Waits request :=
  .inl ⟨path, Multiset.mem_coe.2 (by decide +kernel)⟩

theorem destroyed : (((opened daemon).run before).service.cancel request.id).1 = .destroyed := by
  decide +kernel

end ReusedId

/-- The condition is met when the next request takes over the id. -/
theorem destroyed_carries_iff_reused :
    let desk := (opened ReusedId.daemon).run (ReusedId.before ++ [.cancel ReusedId.request.id])
    (desk.run ReusedId.after).Carries ReusedId.request.ticket ↔
      ∃ first move rest, ReusedId.after = first ++ move :: rest ∧
        (∃ earlier submission later, first = earlier ++ submission :: later ∧
          (desk.run earlier).GivesOut submission ReusedId.request.id) ∧
        (desk.run first).Revives move ReusedId.request :=
  (destroyed_carries_iff ReusedId.daemon ReusedId.before ReusedId.after ReusedId.request
    ReusedId.waits ReusedId.destroyed).1

/-- A destroyed request can be sent and answered. -/
theorem destroyed_is_carried :
    ¬ ∀ (daemon : Simulator) (before moves : List (Move Simulator)) (request : QueuedRequest),
      ((opened daemon).run before).Waits request →
      (((opened daemon).run before).service.cancel request.id).1 = .destroyed →
      ¬ ((opened daemon).run (before ++ .cancel request.id :: moves)).Carries
        request.ticket := by
  intro hnever
  refine hnever ReusedId.daemon ReusedId.before ReusedId.after ReusedId.request ReusedId.waits
    ReusedId.destroyed (.inr ?_)
  have hanswered : ((opened ReusedId.daemon).run (ReusedId.before ++
      .cancel ReusedId.request.id :: ReusedId.after)).service.answered.map (·.1) =
        [ReusedId.request.ticket] := by decide +kernel
  have hmem : ReusedId.request.ticket ∈ ((opened ReusedId.daemon).run (ReusedId.before ++
      .cancel ReusedId.request.id :: ReusedId.after)).service.answered.map (·.1) := by
    rw [hanswered]
    exact List.mem_singleton_self _
  obtain ⟨⟨ticket, answer⟩, hpair, rfl⟩ := List.mem_map.1 hmem
  exact ⟨answer, Multiset.mem_coe.2 hpair⟩

end Desk

end Telephony

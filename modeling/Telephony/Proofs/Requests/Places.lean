import Mathlib.Data.Multiset.Range
import Mathlib.Tactic.Abel
import Telephony.Proofs.Requests.Steps

/-!
# Places of requests

The three places in which an accepted request can be, by its ticket: the queue of a modem, under
way, and answered. A step moves a ticket from one place to the next, or loses it; no ticket is ever
in two places.
-/

namespace Telephony

variable {δ : Type}

/-! ### Striking out a queue -/

namespace Switchboard

variable {calls : CallTable ModemPath} {queue : List QueuedRequest}

theorem abandon_cons (calls : CallTable ModemPath) (request : QueuedRequest)
    (rest : List QueuedRequest) :
    abandon calls (request :: rest) =
      ((abandon (calls.take request.id).2 rest).1,
        if (calls.take request.id).1.isSome then
          request :: (abandon (calls.take request.id).2 rest).2
        else (abandon (calls.take request.id).2 rest).2) := rfl

theorem abandon_sublist (calls : CallTable ModemPath) (queue : List QueuedRequest) :
    (abandon calls queue).2.Sublist queue := by
  induction queue generalizing calls with
  | nil => exact .slnil
  | cons request rest ih =>
    rw [abandon_cons]
    split
    · exact (ih _).cons_cons request
    · exact (ih _).cons request

theorem mem_ids_abandon (calls : CallTable ModemPath) (queue : List QueuedRequest) (id : CallId) :
    id ∈ (abandon calls queue).1.ids ↔ id ∉ queue.map (·.id) ∧ id ∈ calls.ids := by
  induction queue generalizing calls with
  | nil => simp [abandon]
  | cons request rest ih =>
    rw [abandon_cons, ih, CallTable.mem_ids_take, List.map_cons, List.mem_cons, not_or]
    tauto

/-- A request is answered if its id is outstanding and no request ahead of it has the same id. -/
theorem mem_abandon_iff {request : QueuedRequest} :
    request ∈ (abandon calls queue).2 ↔
      ∃ ahead behind, queue = ahead ++ request :: behind ∧
        (∀ other ∈ ahead, other.id ≠ request.id) ∧ request.id ∈ calls.ids := by
  induction queue generalizing calls with
  | nil => simp [abandon]
  | cons head rest ih =>
    have hhead : request ∈ (abandon calls (head :: rest)).2 ↔
        (request = head ∧ head.id ∈ calls.ids) ∨
          request ∈ (abandon (calls.take head.id).2 rest).2 := by
      rw [abandon_cons]
      by_cases hout : head.id ∈ calls.ids
      · rw [if_pos (CallTable.take_fst_isSome.2 hout), List.mem_cons, and_iff_left hout]
      · rw [if_neg (hout ∘ CallTable.take_fst_isSome.1)]
        simp [hout]
    rw [hhead, ih]
    constructor
    · rintro (⟨rfl, hout⟩ | ⟨ahead, behind, rfl, hfirst, hout⟩)
      · exact ⟨[], rest, rfl, fun _ hother => absurd hother List.not_mem_nil, hout⟩
      · obtain ⟨hne, hout⟩ := CallTable.mem_ids_take.1 hout
        refine ⟨head :: ahead, behind, rfl, fun other hother => ?_, hout⟩
        rcases List.mem_cons.1 hother with rfl | hother
        · exact hne.symm
        · exact hfirst other hother
    · rintro ⟨ahead, behind, hqueue, hfirst, hout⟩
      cases ahead with
      | nil =>
        obtain ⟨rfl, rfl⟩ := List.cons.inj hqueue
        exact .inl ⟨rfl, hout⟩
      | cons other ahead =>
        obtain ⟨rfl, rfl⟩ := List.cons.inj hqueue
        refine .inr ⟨ahead, behind, rfl, fun other hother => hfirst other (.tail _ hother), ?_⟩
        exact CallTable.mem_ids_take.2 ⟨(hfirst head List.mem_cons_self).symm, hout⟩

end Switchboard

/-! ### The three places -/

namespace Ledger

def waitingTickets (ledger : Ledger) : Multiset Ticket := ledger.waiting.map (·.2.ticket)

def underWayTickets (ledger : Ledger) : Multiset Ticket :=
  ledger.taken.map (·.ticket) + ledger.flights.map (·.ticket)

def answeredTickets (ledger : Ledger) : Multiset Ticket := ledger.answered.map (·.1)

def tickets (ledger : Ledger) : Multiset Ticket :=
  ledger.waitingTickets + ledger.underWayTickets + ledger.answeredTickets

/-- The ids of the requests that wait or are under way. -/
def ids (ledger : Ledger) : Multiset CallId :=
  ledger.waiting.map (·.2.id) + (ledger.taken.map (·.id) + ledger.flights.map (·.id))

end Ledger

/-- The tickets of the first `count` requests. -/
def ticketsUpTo (count : Nat) : Multiset Ticket := (Multiset.range count).map Ticket.mk

theorem ticketsUpTo_succ (count : Nat) :
    ticketsUpTo (count + 1) = ⟨count⟩ ::ₘ ticketsUpTo count := by
  rw [ticketsUpTo, Multiset.range_succ, Multiset.map_cons]
  rfl

theorem nodup_ticketsUpTo (count : Nat) : (ticketsUpTo count).Nodup :=
  (Multiset.nodup_range count).map fun _ _ heq => congrArg Ticket.number heq

theorem mem_ticketsUpTo {count : Nat} {ticket : Ticket} :
    ticket ∈ ticketsUpTo count ↔ ticket.number < count := by
  rw [ticketsUpTo, Multiset.mem_map]
  constructor
  · rintro ⟨number, hnumber, rfl⟩
    exact Multiset.mem_range.1 hnumber
  · intro hlt
    exact ⟨ticket.number, Multiset.mem_range.2 hlt, rfl⟩

/-! ### Tickets after a step -/

namespace Ledger

variable (ledger : Ledger)

theorem tickets_queue (path : ModemPath) (request : QueuedRequest) (calls : CallTable ModemPath) :
    ({ ledger with waiting := (path, request) ::ₘ ledger.waiting, calls } : Ledger).tickets =
      request.ticket ::ₘ ledger.tickets := by
  simp only [tickets, waitingTickets, Multiset.map_cons, Multiset.cons_add]
  rfl

theorem tickets_dispatch (flight : Flight) (calls : CallTable ModemPath) :
    ({ ledger with flights := flight ::ₘ ledger.flights, calls } : Ledger).tickets =
      flight.ticket ::ₘ ledger.tickets := by
  simp only [tickets, underWayTickets, Multiset.map_cons, Multiset.cons_add, Multiset.add_cons]
  rfl

variable {ledger}

theorem tickets_take {path : ModemPath} {request : QueuedRequest}
    {rest : Multiset (ModemPath × QueuedRequest)}
    (hwaiting : ledger.waiting = (path, request) ::ₘ rest) :
    ({ ledger with waiting := rest, taken := request ::ₘ ledger.taken } : Ledger).tickets =
      ledger.tickets := by
  simp only [tickets, waitingTickets, underWayTickets, hwaiting, Multiset.map_cons,
    Multiset.cons_add, Multiset.add_cons]
  rfl

theorem tickets_arm {request : QueuedRequest} {rest : Multiset QueuedRequest}
    (htaken : ledger.taken = request ::ₘ rest) {flight : Flight}
    (hflight : flight.ticket = request.ticket) (calls : CallTable ModemPath) :
    ({ ledger with taken := rest, flights := flight ::ₘ ledger.flights, calls } :
      Ledger).tickets = ledger.tickets := by
  simp only [tickets, underWayTickets, htaken, hflight, Multiset.map_cons, Multiset.cons_add,
    Multiset.add_cons]
  rfl

theorem tickets_skip {request : QueuedRequest} {rest : Multiset QueuedRequest}
    (htaken : ledger.taken = request ::ₘ rest) :
    ledger.tickets = request.ticket ::ₘ ({ ledger with taken := rest } : Ledger).tickets := by
  simp only [tickets, underWayTickets, htaken, Multiset.map_cons, Multiset.cons_add,
    Multiset.add_cons]
  rfl

theorem tickets_begin {flight : Flight} {rest : Multiset Flight}
    (hflights : ledger.flights = flight ::ₘ rest) :
    ({ ledger with flights := { flight with begun := true } ::ₘ rest } : Ledger).tickets =
      ledger.tickets := by
  simp only [tickets, underWayTickets, hflights, Multiset.map_cons]
  rfl

theorem tickets_finish {flight : Flight} {rest : Multiset Flight}
    (hflights : ledger.flights = flight ::ₘ rest) (answer : Answer)
    (calls : CallTable ModemPath) :
    (({ ledger with flights := rest, calls } : Ledger).answer [(flight.ticket, answer)]).tickets =
      ledger.tickets := by
  simp only [tickets, waitingTickets, underWayTickets, answeredTickets, Ledger.answer, hflights,
    Multiset.map_add, Multiset.coe_singleton, Multiset.map_singleton, ← Multiset.singleton_add]
  abel

/-- The tickets of a removed queue are those of the requests answered and of those lost. -/
theorem tickets_remove {path : ModemPath} {queue : List QueuedRequest}
    {rest : Multiset (ModemPath × QueuedRequest)}
    (hwaiting : ledger.waiting = (queue.map (path, ·) : List _) + rest)
    (failed : List QueuedRequest) (calls : CallTable ModemPath) :
    (({ ledger with waiting := rest, calls } : Ledger).answer
        (Effect.fail path failed).failures).tickets + (queue.map (·.ticket) : List Ticket) =
      ledger.tickets + (failed.map (·.ticket) : List Ticket) := by
  simp only [tickets, waitingTickets, underWayTickets, answeredTickets, Ledger.answer,
    Effect.failures, hwaiting, Multiset.map_add, Multiset.map_coe, List.map_map,
    Function.comp_def]
  abel

theorem tickets_remove_le {path : ModemPath} {queue failed : List QueuedRequest}
    {rest : Multiset (ModemPath × QueuedRequest)}
    (hwaiting : ledger.waiting = (queue.map (path, ·) : List _) + rest)
    (hfailed : failed.Sublist queue) (calls : CallTable ModemPath) :
    (({ ledger with waiting := rest, calls } : Ledger).answer
      (Effect.fail path failed).failures).tickets ≤ ledger.tickets := by
  have hanswered : ((failed.map (·.ticket) : List Ticket) : Multiset Ticket) ≤
      (queue.map (·.ticket) : List Ticket) := Multiset.coe_le.2 (hfailed.map _).subperm
  refine le_of_add_le_add_right ((tickets_remove hwaiting failed calls).trans_le ?_)
  exact add_le_add_right hanswered _

end Ledger

/-! ### No ticket is in two places -/

/-- Only tickets that were given out are in the books, each once. -/
def Books.Fresh (books : Books) : Prop := books.tickets ≤ ticketsUpTo books.accepted.length

namespace Desk

theorem mem_waiting {desk : Desk δ} {path : ModemPath} {entry : Entry} {request : QueuedRequest}
    (hentry : desk.board.entry? path = some entry) (hqueued : request ∈ entry.requests.queue) :
    (path, request) ∈ desk.board.waiting := by
  rw [Switchboard.waiting, Switchboard.waitingIn_of_get? hentry]
  exact Multiset.mem_add.2 (.inl (List.mem_map_of_mem hqueued))

variable [Daemon δ]

/-- A step brings in the next ticket, or none at all. -/
theorem Step.tickets_cases {desk : Desk δ} {move : Move δ} {books : Books}
    (hstep : desk.Step move books) :
    (books.accepted = desk.accepted ∧ books.tickets ≤ desk.service.ledger.tickets) ∨
      ∃ path, books.accepted = desk.accepted ++ [path] ∧
        books.tickets = desk.ticket ::ₘ desk.service.ledger.tickets := by
  cases hstep with
  | quiet | destroy => exact .inl ⟨rfl, le_refl _⟩
  | @queue path code => exact .inr ⟨path, rfl, desk.service.ledger.tickets_queue path _ _⟩
  | @dispatch _ path => exact .inr ⟨path, rfl, desk.service.ledger.tickets_dispatch _ _⟩
  | take hnone hwaiting => exact .inl ⟨rfl, (Ledger.tickets_take hwaiting).le⟩
  | arm hjob hout htaken => exact .inl ⟨rfl, (Ledger.tickets_arm htaken rfl _).le⟩
  | skip hjob hout htaken =>
    have hlost := Ledger.tickets_skip (show desk.service.ledger.taken = _ from htaken)
    exact .inl ⟨rfl, (Multiset.le_cons_self _ _).trans hlost.symm.le⟩
  | begin hnone hflights => exact .inl ⟨rfl, (Ledger.tickets_begin hflights).le⟩
  | finish hnone hflights => exact .inl ⟨rfl, (Ledger.tickets_finish hflights _ _).le⟩
  | @remove path entry rest hentry hwaiting =>
    have hqueue : desk.service.ledger.waiting =
        (entry.requests.queue.map (path, ·) : List _) + rest := hwaiting
    exact .inl ⟨rfl, Ledger.tickets_remove_le hqueue (Switchboard.abandon_sublist _ _) _⟩

theorem Step.accepted_le {desk : Desk δ} {move : Move δ} {books : Books}
    (hstep : desk.Step move books) : desk.accepted.length ≤ books.accepted.length := by
  rcases hstep.tickets_cases with ⟨haccepted, -⟩ | ⟨path, haccepted, -⟩
  · rw [haccepted]
  · rw [haccepted, List.length_append]
    exact Nat.le_add_right _ _

theorem Step.fresh {desk : Desk δ} {move : Move δ} {books : Books}
    (hstep : desk.Step move books) (hfresh : desk.books.Fresh) : books.Fresh := by
  unfold Books.Fresh
  rcases hstep.tickets_cases with ⟨haccepted, hle⟩ | ⟨path, haccepted, htickets⟩
  · rw [haccepted]
    exact hle.trans hfresh
  · rw [haccepted, htickets, List.length_append, List.length_singleton, ticketsUpTo_succ]
    exact Multiset.cons_le_cons _ hfresh

omit [Daemon δ] in
theorem fresh_opened (daemon : δ) : (opened daemon).books.Fresh := le_refl (0 : Multiset Ticket)

theorem fresh_run {desk : Desk δ} (hfresh : desk.books.Fresh) (moves : List (Move δ)) :
    (desk.run moves).books.Fresh := by
  induction moves generalizing desk with
  | nil => exact hfresh
  | cons move rest ih => exact ih ((desk.step_spec move).fresh hfresh)

end Desk

end Telephony

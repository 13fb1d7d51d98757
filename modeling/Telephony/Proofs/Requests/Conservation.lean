import Telephony.Proofs.Requests.Places
import Telephony.Simulator.Basic

/-!
# Conservation of requests

As long as no cancellation destroys a request that waits, every accepted request is in exactly one
of three places, once: in the queue of its modem, under way, or answered. The ids of outstanding
calls are those of the requests in the first two places, and they all differ.
-/

namespace Telephony

variable {δ : Type}

/-! ### Striking out a queue -/

namespace Switchboard

variable {calls : CallTable ModemPath} {queue : List QueuedRequest}

/-- A queue whose calls are all outstanding, under different ids, is answered as a whole. -/
theorem abandon_outstanding (hdistinct : (queue.map (·.id)).Nodup)
    (hout : ∀ request ∈ queue, request.id ∈ calls.ids) :
    (abandon calls queue).2 = queue ∧
      calls.ids.Perm (queue.map (·.id) ++ (abandon calls queue).1.ids) := by
  induction queue generalizing calls with
  | nil => exact ⟨rfl, .refl _⟩
  | cons request rest ih =>
    rw [List.map_cons, List.nodup_cons] at hdistinct
    have hrequest := hout request List.mem_cons_self
    have hrest : ∀ other ∈ rest, other.id ∈ (calls.take request.id).2.ids := by
      intro other hother
      refine CallTable.mem_ids_take.2 ⟨fun heq => hdistinct.1 ?_, hout other (.tail _ hother)⟩
      exact heq ▸ List.mem_map_of_mem hother
    obtain ⟨hall, hperm⟩ := ih hdistinct.2 hrest
    rw [abandon_cons, if_pos (CallTable.take_fst_isSome.2 hrequest), hall]
    exact ⟨rfl, (CallTable.ids_take_of_mem hrequest).trans (hperm.cons _)⟩

theorem counted_abandon {issued : Nat} (hcounted : calls.Counted issued)
    (queue : List QueuedRequest) :
    (abandon calls queue).1.Counted (if (abandon calls queue).1.isEmpty then 0 else issued) := by
  induction queue generalizing calls issued with
  | nil => exact hcounted.settled
  | cons request rest ih =>
    have htaken := ih (hcounted.take request.id)
    rw [abandon_cons]
    by_cases hempty : (abandon (calls.take request.id).2 rest).1.isEmpty = true
    · rw [if_pos hempty] at htaken ⊢
      exact htaken
    · have hmiddle : ¬ (calls.take request.id).2.isEmpty = true := by
        intro hmiddle
        apply hempty
        rw [CallTable.isEmpty_iff, List.eq_nil_iff_forall_not_mem]
        intro id hid
        have hid := ((mem_ids_abandon _ _ _).1 hid).2
        rw [CallTable.isEmpty_iff.1 hmiddle] at hid
        exact List.not_mem_nil hid
      rw [if_neg hempty, if_neg hmiddle] at htaken
      rw [if_neg hempty]
      exact htaken

end Switchboard

/-- Every accepted request is in one place, every outstanding call is that of a request that waits
or is under way, and who waits stands in the queue of its modem. -/
structure Balanced (ledger : Ledger) (accepted : List ModemPath) : Prop where
  places : ticketsUpTo accepted.length = ledger.tickets
  outstanding : (ledger.calls.ids : Multiset CallId) = ledger.ids
  queues : ∀ path request, (path, request) ∈ ledger.waiting →
    accepted[request.ticket.number]? = some path

namespace Balanced

variable {ledger : Ledger} {accepted : List ModemPath}

theorem mem_ids (hbalanced : Balanced ledger accepted) {id : CallId} (hid : id ∈ ledger.ids) :
    id ∈ ledger.calls.ids := by
  rw [← hbalanced.outstanding] at hid
  exact Multiset.mem_coe.1 hid

theorem queue (hbalanced : Balanced ledger accepted)
    (hfresh : ledger.calls.next ∉ ledger.calls.ids) (path : ModemPath) (code : String) :
    Balanced { ledger with
      waiting := (path, ⟨ledger.calls.next, code, ⟨accepted.length⟩⟩) ::ₘ ledger.waiting
      calls := ledger.calls.reserve.2.add ledger.calls.next path none } (accepted ++ [path]) where
  places := by
    rw [List.length_append, List.length_singleton, ticketsUpTo_succ, hbalanced.places]
    exact (ledger.tickets_queue path ⟨ledger.calls.next, code, ⟨accepted.length⟩⟩ _).symm
  outstanding := by
    have hadd := CallTable.ids_add (ledger.calls.ids_reserve.symm ▸ hfresh) path none
    rw [CallTable.ids_reserve] at hadd
    rw [Multiset.coe_eq_coe.2 hadd, ← Multiset.cons_coe, hbalanced.outstanding]
    simp only [Ledger.ids, Multiset.map_cons, Multiset.cons_add]
  queues other request hmem := by
    rcases Multiset.mem_cons.1 hmem with heq | hold
    · cases heq
      exact List.getElem?_concat_length
    · have hother := hbalanced.queues other request hold
      obtain ⟨hlt, -⟩ := List.getElem?_eq_some_iff.1 hother
      rw [List.getElem?_append_left hlt]
      exact hother

theorem dispatch (hbalanced : Balanced ledger accepted)
    (hfresh : ledger.calls.next ∉ ledger.calls.ids) (path : ModemPath) (errand : Errand)
    (token : Token) :
    Balanced { ledger with
      flights := ⟨ledger.calls.next, path, errand, token, ⟨accepted.length⟩, false⟩ ::ₘ
        ledger.flights
      calls := ledger.calls.reserve.2.add ledger.calls.next path (some token) }
      (accepted ++ [path]) where
  places := by
    rw [List.length_append, List.length_singleton, ticketsUpTo_succ, hbalanced.places]
    exact (ledger.tickets_dispatch
      ⟨ledger.calls.next, path, errand, token, ⟨accepted.length⟩, false⟩ _).symm
  outstanding := by
    have hadd := CallTable.ids_add (ledger.calls.ids_reserve.symm ▸ hfresh) path (some token)
    rw [CallTable.ids_reserve] at hadd
    rw [Multiset.coe_eq_coe.2 hadd, ← Multiset.cons_coe, hbalanced.outstanding]
    simp only [Ledger.ids, Multiset.map_cons, Multiset.add_cons]
  queues other request hmem := by
    have hother := hbalanced.queues other request hmem
    obtain ⟨hlt, -⟩ := List.getElem?_eq_some_iff.1 hother
    rw [List.getElem?_append_left hlt]
    exact hother

theorem take (hbalanced : Balanced ledger accepted) {path : ModemPath} {request : QueuedRequest}
    {rest : Multiset (ModemPath × QueuedRequest)}
    (hwaiting : ledger.waiting = (path, request) ::ₘ rest) :
    Balanced { ledger with waiting := rest, taken := request ::ₘ ledger.taken } accepted where
  places := by rw [hbalanced.places, Ledger.tickets_take hwaiting]
  outstanding := by
    rw [hbalanced.outstanding]
    simp only [Ledger.ids, hwaiting, Multiset.map_cons, Multiset.cons_add, Multiset.add_cons]
  queues other waiter hmem :=
    hbalanced.queues other waiter (hwaiting ▸ Multiset.mem_cons_of_mem hmem)

theorem arm (hbalanced : Balanced ledger accepted) {request : QueuedRequest}
    {rest : Multiset QueuedRequest} (htaken : ledger.taken = request ::ₘ rest) (path : ModemPath)
    (token : Token) :
    Balanced { ledger with
      taken := rest
      flights := ⟨request.id, path, .dial request.code, token, request.ticket, false⟩ ::ₘ
        ledger.flights
      calls := (ledger.calls.arm request.id token).2 } accepted where
  places := by
    rw [hbalanced.places]
    exact (Ledger.tickets_arm htaken rfl _).symm
  outstanding := by
    rw [CallTable.ids_arm, hbalanced.outstanding]
    simp only [Ledger.ids, htaken, Multiset.map_cons, Multiset.cons_add, Multiset.add_cons]
  queues := hbalanced.queues

theorem begin (hbalanced : Balanced ledger accepted) {flight : Flight} {rest : Multiset Flight}
    (hflights : ledger.flights = flight ::ₘ rest) :
    Balanced { ledger with flights := { flight with begun := true } ::ₘ rest } accepted where
  places := by rw [hbalanced.places, Ledger.tickets_begin hflights]
  outstanding := by
    rw [hbalanced.outstanding]
    simp only [Ledger.ids, hflights, Multiset.map_cons]
  queues := hbalanced.queues

theorem finish (hbalanced : Balanced ledger accepted) {flight : Flight} {rest : Multiset Flight}
    (hflights : ledger.flights = flight ::ₘ rest) (answer : Answer) :
    Balanced (({ ledger with flights := rest, calls := (ledger.calls.take flight.id).2 } :
      Ledger).answer [(flight.ticket, answer)]) accepted where
  places := by rw [hbalanced.places, Ledger.tickets_finish hflights]
  outstanding := by
    have hmem : flight.id ∈ ledger.calls.ids := hbalanced.mem_ids (by
      simp [Ledger.ids, hflights])
    have htake := Multiset.coe_eq_coe.2 (CallTable.ids_take_of_mem hmem)
    rw [hbalanced.outstanding, ← Multiset.cons_coe] at htake
    refine ((Multiset.cons_inj_right flight.id).1 ?_).symm
    rw [Ledger.answer, ← htake]
    simp only [Ledger.ids, hflights, Multiset.map_cons, Multiset.add_cons]
  queues := hbalanced.queues

theorem remove (hbalanced : Balanced ledger accepted) {path : ModemPath}
    {queue : List QueuedRequest} {rest : Multiset (ModemPath × QueuedRequest)}
    (hwaiting : ledger.waiting = (queue.map (path, ·) : List _) + rest) :
    (Switchboard.abandon ledger.calls queue).2 = queue ∧
      Balanced (({ ledger with
        waiting := rest
        calls := (Switchboard.abandon ledger.calls queue).1 } : Ledger).answer
          (Effect.fail path (Switchboard.abandon ledger.calls queue).2).failures) accepted := by
  have hids : ledger.ids = (queue.map (·.id) : List CallId) +
      (rest.map (·.2.id) + (ledger.taken.map (·.id) + ledger.flights.map (·.id))) := by
    rw [Ledger.ids, hwaiting, Multiset.map_add, Multiset.map_coe, List.map_map, add_assoc]
    rfl
  have hdistinct : (queue.map (·.id)).Nodup := by
    have hall : ledger.ids.Nodup := by
      rw [← hbalanced.outstanding]
      exact Multiset.coe_nodup.2 ledger.calls.ids_nodup
    rw [hids] at hall
    exact Multiset.coe_nodup.1 (Multiset.nodup_of_le (Multiset.le_add_right _ _) hall)
  have hout : ∀ request ∈ queue, request.id ∈ ledger.calls.ids := by
    intro request hrequest
    refine hbalanced.mem_ids ?_
    rw [hids]
    exact Multiset.mem_add.2 (.inl (Multiset.mem_coe.2 (List.mem_map_of_mem hrequest)))
  obtain ⟨hall, hperm⟩ := Switchboard.abandon_outstanding hdistinct hout
  refine ⟨hall, ?_, ?_, ?_⟩
  · rw [hbalanced.places, hall]
    exact (add_right_cancel (Ledger.tickets_remove hwaiting queue _)).symm
  · have hleft := Multiset.coe_eq_coe.2 hperm
    rw [hbalanced.outstanding, hids, ← Multiset.coe_add] at hleft
    exact (add_left_cancel hleft).symm
  · intro other request hmem
    refine hbalanced.queues other request ?_
    rw [hwaiting]
    exact Multiset.mem_add.2 (.inr hmem)

end Balanced

/-! ### Orderly runs -/

/-- Books in balance, with the outstanding ids counted. -/
structure Books.Sound (books : Books) : Prop where
  balanced : Balanced books.toLedger books.accepted
  counted : books.calls.Counted books.issued

namespace Desk

theorem isEmpty_add (calls : CallTable ModemPath) (id : CallId) (path : ModemPath)
    (token : Option Token) : ¬ (calls.add id path token).isEmpty = true := by
  intro hempty
  have hmem : id ∈ (calls.add id path token).ids := CallTable.mem_ids_add.2 (.inl rfl)
  rw [CallTable.isEmpty_iff.1 hempty] at hmem
  exact List.not_mem_nil hmem

/-- An accepted request is counted; it makes the table of calls not empty. -/
theorem counted_add {desk : Desk δ} (hcounted : desk.calls.Counted desk.issued)
    {ledger : Ledger} {path : ModemPath} {token : Option Token}
    (hcalls : ledger.calls = desk.calls.reserve.2.add desk.calls.next path token)
    (hroom : ((desk.books.accept path).put ledger).issued < 2 ^ 32 - 1) :
    ledger.calls.Counted ((desk.books.accept path).put ledger).issued := by
  have hissued : ((desk.books.accept path).put ledger).issued = desk.issued + 1 := by
    rw [Books.put, hcalls, if_neg (isEmpty_add _ _ _ _)]
    rfl
  rw [hissued] at hroom ⊢
  rw [hcalls]
  exact hcounted.add hroom path token

theorem sound_opened (daemon : δ) : (opened daemon).books.Sound where
  balanced := ⟨rfl, rfl, fun _ _ hmem => absurd hmem (Multiset.notMem_zero _)⟩
  counted := CallTable.counted_empty

variable [Daemon δ]

/-- The move is a cancellation that strikes out a request which has not been sent. -/
def Destroys (desk : Desk δ) : Move δ → Prop
  | .cancel id => (desk.service.cancel id).1 = .destroyed
  | _ => False

/-- No cancellation destroys a request, and the ids do not run out. -/
def Orderly (desk : Desk δ) : List (Move δ) → Prop
  | [] => True
  | move :: rest =>
    ¬ desk.Destroys move ∧ (desk.step move).issued < 2 ^ 32 - 1 ∧ (desk.step move).Orderly rest

instance (desk : Desk δ) : DecidablePred desk.Destroys
  | .cancel id => inferInstanceAs (Decidable ((desk.service.cancel id).1 = .destroyed))
  | .submit _ _ | .listOperators _ _ | .process _ | .load _ _ | .replay _ _ | .turn _ | .flush
  | .daemon _ => isFalse id

instance decidableOrderly (desk : Desk δ) : (moves : List (Move δ)) → Decidable (desk.Orderly moves)
  | [] => isTrue trivial
  | move :: rest =>
    have := decidableOrderly (desk.step move) rest
    inferInstanceAs (Decidable (¬ desk.Destroys move ∧ _ ∧ _))

theorem Step.counted {desk : Desk δ} {move : Move δ} {books : Books}
    (hstep : desk.Step move books) (hcounted : desk.calls.Counted desk.issued)
    (hroom : books.issued < 2 ^ 32 - 1) : books.calls.Counted books.issued := by
  cases hstep with
  | quiet | take | skip | begin => exact hcounted.settled
  | queue | dispatch => exact counted_add hcounted rfl hroom
  | @arm _ _ _ request token => exact (hcounted.arm request.id token).settled
  | @finish _ flight => exact hcounted.take flight.id
  | @destroy id => exact hcounted.take id
  | @remove _ entry => exact Switchboard.counted_abandon hcounted entry.requests.queue

theorem Step.sound {desk : Desk δ} {move : Move δ} {books : Books}
    (hstep : desk.Step move books) (hsound : desk.books.Sound) (hkept : ¬ desk.Destroys move)
    (hroom : books.issued < 2 ^ 32 - 1) : books.Sound := by
  refine ⟨?_, hstep.counted hsound.counted hroom⟩
  have hbalanced : Balanced desk.service.ledger desk.accepted := hsound.balanced
  have hcounted : desk.calls.Counted desk.issued := hsound.counted
  have hfresh : desk.calls.next ∉ desk.calls.ids := hcounted.next_not_mem
  cases hstep with
  | quiet => exact hbalanced
  | @queue path code => exact hbalanced.queue hfresh path code
  | @dispatch _ path errand token => exact hbalanced.dispatch hfresh path errand token
  | take _ hwaiting => exact hbalanced.take hwaiting
  | @arm _ path _ _ token _ _ _ htaken => exact hbalanced.arm htaken path token
  | @skip _ _ _ request rest hjob hout htaken =>
    -- What a drain has taken is still outstanding, since no cancellation has destroyed it.
    have hrequest : request ∈ desk.service.taken := htaken ▸ Multiset.mem_cons_self request rest
    have hid : request.id ∈ desk.service.ledger.ids :=
      Multiset.mem_add.2 (.inr (Multiset.mem_add.2 (.inl (Multiset.mem_map_of_mem _ hrequest))))
    exact absurd (hbalanced.mem_ids hid) hout
  | begin _ hflights => exact hbalanced.begin hflights
  | @finish _ _ answer _ _ hflights => exact hbalanced.finish hflights answer
  | destroy hdestroyed => exact absurd hdestroyed hkept
  | remove _ hwaiting => exact (hbalanced.remove hwaiting).2

theorem sound_run {desk : Desk δ} (hsound : desk.books.Sound) {moves : List (Move δ)}
    (horderly : desk.Orderly moves) : (desk.run moves).books.Sound := by
  induction moves generalizing desk with
  | nil => exact hsound
  | cons move rest ih =>
    obtain ⟨hkept, hroom, hrest⟩ := horderly
    exact ih ((desk.step_spec move).sound hsound hkept hroom) hrest

/-! ### Answers -/

/-- An answer is given to a call under way, or to a request whose modem is removed. -/
theorem Step.answered {desk : Desk δ} {move : Move δ} {books : Books}
    (hstep : desk.Step move books) {ticket : Ticket} {answer : Answer}
    (hanswer : (ticket, answer) ∈ books.answered) :
    (ticket, answer) ∈ desk.service.answered ∨
      (∃ flight ∈ desk.service.flights, flight.ticket = ticket ∧
        desk.service.Gives flight answer) ∨
      ∃ path request, move = .process (.modemRemoved path) ∧
        (path, request) ∈ desk.board.waiting ∧ request.ticket = ticket ∧
        answer = .reply (.error (.modemNotFound path)) := by
  cases hstep with
  | quiet | queue | dispatch | take | arm | skip | begin | destroy => exact .inl hanswer
  | @finish _ flight given _ hnone hflights hgives =>
    rcases Multiset.mem_add.1 hanswer with hold | hnew
    · exact .inl hold
    · obtain ⟨rfl, rfl⟩ := Prod.mk.inj (List.mem_singleton.1 hnew)
      exact .inr (.inl ⟨flight, hflights ▸ Multiset.mem_cons_self _ _, rfl, hgives⟩)
  | @remove path entry rest hentry hwaiting =>
    rcases Multiset.mem_add.1 hanswer with hold | hnew
    · exact .inl hold
    · obtain ⟨request, hfailed, heq⟩ := List.mem_map.1 (Multiset.mem_coe.1 hnew)
      obtain ⟨rfl, rfl⟩ := Prod.mk.inj heq
      have hqueued := (Switchboard.abandon_sublist _ _).subset hfailed
      refine .inr (.inr ⟨path, request, rfl, ?_, rfl, rfl⟩)
      rw [hwaiting]
      exact Multiset.mem_add.2 (.inl (List.mem_map_of_mem hqueued))

/-! ### Conservation -/

/-- Where the accepted requests are, and how each comes to be answered. -/
structure Conserved (desk : Desk δ) : Prop where
  /-- Each accepted request is in exactly one of the three places, once. -/
  places : ∀ ticket, desk.service.ledger.waitingTickets.count ticket +
      desk.service.ledger.underWayTickets.count ticket +
      desk.service.ledger.answeredTickets.count ticket =
    if ticket.number < desk.accepted.length then 1 else 0
  /-- Who waits stands in the queue of the modem that it was handed in for. -/
  queues : ∀ path entry request, desk.board.entry? path = some entry →
    request ∈ entry.requests.queue → desk.accepted[request.ticket.number]? = some path
  outstanding : (desk.calls.ids : Multiset CallId) = desk.service.ledger.ids
  distinct : desk.calls.ids.Nodup
  /-- When its modem is removed, who waits is told so. -/
  removed : ∀ path entry request, desk.board.entry? path = some entry →
    request ∈ entry.requests.queue → (request.ticket, .reply (.error (.modemNotFound path))) ∈
      (desk.step (.process (.modemRemoved path))).service.answered
  /-- Whatever happens next, a call under way is answered by the daemon, or as canceled if it was
  told to stop; nobody else is answered but those whose modem is removed. -/
  answered : ∀ move ticket answer, (ticket, answer) ∈ (desk.step move).service.answered →
    (ticket, answer) ∈ desk.service.answered ∨
      (∃ flight ∈ desk.service.flights, flight.ticket = ticket ∧
        desk.service.Gives flight answer) ∨
      ∃ path request, move = .process (.modemRemoved path) ∧
        (path, request) ∈ desk.board.waiting ∧ request.ticket = ticket ∧
        answer = .reply (.error (.modemNotFound path))

theorem Conserved.of_sound {desk : Desk δ} (hsound : desk.books.Sound) : desk.Conserved where
  places ticket := by
    have hcount := congrArg (Multiset.count ticket) hsound.balanced.places.symm
    rw [Multiset.count_eq_of_nodup (nodup_ticketsUpTo _)] at hcount
    simp only [Ledger.tickets, Multiset.count_add, mem_ticketsUpTo] at hcount
    exact hcount
  queues path entry request hentry hqueued :=
    hsound.balanced.queues path request (mem_waiting hentry hqueued)
  outstanding := hsound.balanced.outstanding
  distinct := desk.calls.ids_nodup
  removed path entry request hentry hqueued := by
    obtain ⟨rest, hwaiting, hledger⟩ := Service.ledger_process_removed hentry
    have hall : (Switchboard.abandon desk.service.board.calls entry.requests.queue).2 =
        entry.requests.queue := (hsound.balanced.remove hwaiting).1
    rw [hall] at hledger
    have hanswered : ((desk.service.process (.modemRemoved path)).answered :
        Multiset (Ticket × Answer)) = (desk.service.answered : Multiset (Ticket × Answer)) +
          ((Effect.fail path entry.requests.queue).failures : List (Ticket × Answer)) :=
      congrArg Ledger.answered hledger
    rw [step, put]
    refine Multiset.mem_coe.1 (hanswered ▸ Multiset.mem_add.2 (.inr ?_))
    exact List.mem_map.2 ⟨request, hqueued, rfl⟩
  answered move ticket answer hanswer := (desk.step_spec move).answered hanswer

/-- Every run in which no request that waits is destroyed conserves the requests. -/
theorem run_conserved (daemon : δ) (moves : List (Move δ))
    (horderly : (opened daemon).Orderly moves) : ((opened daemon).run moves).Conserved :=
  .of_sound (sound_run (sound_opened daemon) horderly)

/-- Two requests wait for the interface; when it comes one is sent and answered, and the other one
is still in the queue when the modem goes. -/
theorem run_conserved_removal :
    let path : ModemPath := ⟨"/m"⟩
    let daemon := Simulator.empty.addModem path []
    let moves : List (Move Simulator) :=
      [.process (.modemAdded path []), .submit path "*#43#", .submit path "*43#",
        .daemon (Simulator.empty.addModem path [.supplementaryServices]),
        .process (.propertyChanged path
          (.modem (.interfaces (.ofList [.supplementaryServices])))),
        .turn 0, .turn 0, .turn 0, .process (.modemRemoved path)]
    (opened daemon).Orderly moves ∧ ((opened daemon).run moves).Conserved ∧
      ((opened daemon).run moves).service.answered.map (·.1) = [⟨0⟩, ⟨1⟩] := by
  intro path daemon moves
  have horderly : (opened daemon).Orderly moves := by decide +kernel
  exact ⟨horderly, run_conserved daemon moves horderly, by decide +kernel⟩

end Desk

end Telephony

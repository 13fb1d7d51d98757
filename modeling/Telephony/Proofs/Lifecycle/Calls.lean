import Telephony.Proofs.Lifecycle.Accounts

/-!
# Calls of a usage

What each use does to the ledger, and from it which ids are outstanding after any run. As long as the
ids do not run out, none is outstanding exactly when every request has been answered.
-/

namespace Telephony

variable {δ : Type}

/-! ### What uses do to the ledger -/

/-- What a use does to the ledger that hands in nothing and answers nothing. A stop, when no call is
outstanding, forgets what still waits. -/
inductive Ledger.Rests (ledger : Ledger) : Ledger → Prop
  | same : ledger.Rests ledger
  | cleared {calls : CallTable ModemPath} (hidle : ledger.calls.ids = []) (hnone : calls.ids = [])
      (hkept : ledger.waiting = 0 → calls = ledger.calls) :
      ledger.Rests { ledger with waiting := 0, calls }

theorem Ledger.Rests.answered {ledger after : Ledger} (hrests : ledger.Rests after) :
    after.answered = ledger.answered := by
  cases hrests <;> rfl

/-- What became of a request that was handed in under a ticket. -/
inductive Service.Hands (service : Service δ) (ticket : Ticket) :
    Except Failure CallId × Service δ → Prop
  | refused {failure : Failure} : Hands service ticket (.error failure, service)
  | queued {after : Service δ} {path : ModemPath} {code : String}
      (hanswered : after.answered = service.answered)
      (hledger : after.ledger = { service.ledger with
        waiting := (path, ⟨service.ledger.calls.next, code, ticket⟩) ::ₘ service.ledger.waiting
        calls := service.ledger.calls.reserve.2.add service.ledger.calls.next path none }) :
      Hands service ticket (.ok service.ledger.calls.next, after)
  | sent {after : Service δ} {path : ModemPath} {errand : Errand} {token : Token}
      (hanswered : after.answered = service.answered)
      (hledger : after.ledger = { service.ledger with
        flights := ⟨service.ledger.calls.next, path, errand, token, ticket, false⟩ ::ₘ
          service.ledger.flights
        calls := service.ledger.calls.reserve.2.add service.ledger.calls.next path
          (some token) }) :
      Hands service ticket (.ok service.ledger.calls.next, after)

namespace Service

/-- The service has given no answer, and its ledger rests. -/
structure Rests (service after : Service δ) : Prop where
  answered : service.answered <+: after.answered
  ledger : service.ledger.Rests after.ledger

variable {service middle after : Service δ}

theorem Rests.of_ledger (hanswered : service.answered <+: after.answered)
    (hledger : after.ledger = service.ledger) : service.Rests after :=
  ⟨hanswered, hledger ▸ .same⟩

theorem Rests.after_same (hanswered : middle.answered = service.answered)
    (hledger : middle.ledger = service.ledger) (hrests : middle.Rests after) :
    service.Rests after :=
  ⟨hanswered ▸ hrests.answered, hledger ▸ hrests.ledger⟩

theorem rests_flush (service : Service δ) : service.Rests service.flush :=
  .of_ledger service.serves_flush.answered service.ledger_flush

theorem ledger_releaseSession (service : Service δ) (subscriptions : List Subscription) :
    (service.releaseSession subscriptions).ledger = service.ledger := by
  obtain ⟨observers, hreleased⟩ := service.board.releaseSession_eq subscriptions
  simp only [releaseSession, hreleased]
  rfl

theorem hands_submit (service : Service δ) (path : ModemPath) (code : String) (ticket : Ticket) :
    service.Hands ticket (service.submit path code ticket) := by
  unfold submit
  rcases service.board.submit_cases path code ticket with
    ⟨failure, hrefused⟩ | ⟨token, tokens, hsent⟩ | ⟨after, hqueued, hcalls, hwaiting⟩
  · rw [hrefused]
    exact .refused
  · rw [hsent]
    exact .sent rfl ((ledger_addJob _ _).trans (Ledger.withJob_flight _ rfl))
  · have hledger : ({ service with board := after } : Service δ).ledger =
        { service.ledger with waiting := after.waiting, calls := after.calls } := rfl
    rw [hwaiting, hcalls] at hledger
    rw [hqueued]
    exact .queued rfl hledger

theorem hands_listOperators (service : Service δ) (path : ModemPath) (scan : Bool)
    (ticket : Ticket) : service.Hands ticket (service.listOperators path scan ticket) := by
  unfold listOperators
  split
  · exact .refused
  · exact .sent rfl ((ledger_addJob _ _).trans (Ledger.withJob_flight _ rfl))

variable [Daemon δ]

theorem rests_start (service : Service δ) : service.Rests service.start.2 := by
  rcases service.start_cases with ⟨-, hstart⟩ | ⟨_, _, -, -, hstart⟩ |
    ⟨-, -, -, -, hanswered, hledger⟩
  · rw [hstart]
    exact .of_ledger (List.prefix_refl _) rfl
  · rw [hstart]
    exact .of_ledger (List.prefix_refl _) rfl
  · exact .of_ledger hanswered hledger

theorem rests_stop (service : Service δ) : service.Rests service.stop.2 := by
  by_cases hstops : service.board.isIdle = true ∧ service.running = true
  · obtain ⟨hidle, hrunning⟩ := hstops
    have hcalls : service.board.calls.ids = [] := by
      rw [Switchboard.isIdle, Bool.and_eq_true, Bool.and_eq_true] at hidle
      exact CallTable.isEmpty_iff.1 hidle.1.2
    rw [stop_of_idle hidle hrunning]
    refine ⟨service.serves_cleared.answered, ?_⟩
    change service.ledger.Rests service.cleared.ledger
    rw [ledger_cleared hcalls]
    exact .cleared hcalls (Switchboard.clear_of_idle hcalls).1 Switchboard.clear_of_unqueued
  · rw [stop_of_busy hstops]
    exact .of_ledger (List.prefix_refl _) rfl

theorem rests_subscribe (service : Service δ) (topic : Topic) (listener : Listener) :
    service.Rests (service.subscribe topic listener).2 := by
  have hstarted := service.rests_start
  unfold subscribe
  rcases hstart : service.start with ⟨failure | started, after⟩ <;> rw [hstart] at hstarted <;>
    exact ⟨hstarted.answered, hstarted.ledger⟩

theorem rests_close (service : Service δ) (subscription : Subscription) :
    service.Rests (service.close subscription).2 := by
  unfold close
  split
  · next struck hstruck =>
    obtain rfl : struck = (service.delist subscription).2 := by rw [hstruck]
    exact .of_ledger (List.prefix_refl _) rfl
  · next struck hstruck =>
    obtain rfl : struck = (service.delist subscription).2 := by rw [hstruck]
    have hanswered : (service.delist subscription).2.answered = service.answered := rfl
    exact (rests_stop _).after_same hanswered rfl

theorem rests_closeSession (service : Service δ) (session : CodeSession) :
    service.Rests (service.closeSession session) := by
  have hanswered : (service.releaseSession session.subscriptions).answered = service.answered := rfl
  exact (rests_stop _).after_same hanswered (service.ledger_releaseSession session.subscriptions)

theorem rests_openSession (service : Service δ) (number : Nat) (options : CodeOptions)
    (startup : Bool) : service.Rests (service.openSession number options startup).2 := by
  rcases service.openSession_cases number options startup with
    ⟨-, hopen⟩ | ⟨_, _, -, -, hopen⟩ | ⟨-, -, session, -, hopen⟩
  · rw [hopen]
    exact .of_ledger (List.prefix_refl _) rfl
  · rw [hopen]
    exact .of_ledger (List.prefix_refl _) rfl
  · rw [hopen]
    have hstarted := service.engaged.rests_start
    exact ⟨hstarted.answered, hstarted.ledger⟩

end Service

/-! ### Accounts in balance -/

/-- Without calls, the requests in a balanced ledger have all been answered. -/
theorem Balanced.idle {ledger : Ledger} {accepted : List ModemPath}
    (hbalanced : Balanced ledger accepted) (hidle : ledger.calls.ids = []) :
    ledger.waiting = 0 ∧ ledger.taken = 0 ∧ ledger.flights = 0 := by
  have hids : ledger.ids = 0 := by rw [← hbalanced.outstanding, hidle]; rfl
  have hcard := congrArg Multiset.card hids
  simp only [Ledger.ids, Multiset.card_add, Multiset.card_map, Multiset.card_zero] at hcard
  exact ⟨Multiset.card_eq_zero.1 (by omega), Multiset.card_eq_zero.1 (by omega),
    Multiset.card_eq_zero.1 (by omega)⟩

namespace Usage

/-- The ids are accounted for. As long as they have not run out, every request is in one place. -/
structure Accounted (usage : Usage δ) : Prop where
  accounts : usage.service.ledger.Accounts usage.ids usage.outstanding
  balanced : usage.ids.length < 2 ^ 32 - 1 → ∃ accepted issued,
    accepted.length = usage.ids.length ∧ issued ≤ usage.ids.length ∧
      Balanced usage.service.ledger accepted ∧ usage.service.ledger.calls.Counted issued

variable {usage : Usage δ} {service : Service (Recorded δ)}

theorem accounted_opened (daemon : δ) : (opened daemon).Accounted where
  accounts := ⟨fun _ _ hmem => absurd hmem (Multiset.notMem_zero _),
    fun _ hmem => absurd hmem (Multiset.notMem_zero _),
    fun _ hmem => absurd hmem (Multiset.notMem_zero _), fun _ => Iff.rfl⟩
  balanced _ := ⟨[], 0, rfl, Nat.le_refl 0,
    ⟨rfl, rfl, fun _ _ hmem => absurd hmem (Multiset.notMem_zero _)⟩, CallTable.counted_empty⟩

theorem mem_completed (hanswered : usage.service.answered <+: service.answered)
    {answers : List (Ticket × Answer)}
    (hmore : (service.answered : Multiset (Ticket × Answer)) =
      (usage.service.answered : Multiset (Ticket × Answer)) + (answers : Multiset _)) (id : CallId) :
    id ∈ usage.completed service ↔ id ∈ answeredIds usage.ids answers := by
  obtain ⟨rest, hrest⟩ := hanswered
  have hperm : rest.Perm answers := by
    rw [← hrest, ← Multiset.coe_add] at hmore
    exact Multiset.coe_eq_coe.1 (add_left_cancel hmore)
  rw [completed, ← hrest, List.drop_left]
  exact (hperm.filterMap _).mem_iff

theorem Accounted.put (hanswered : usage.service.answered <+: service.answered)
    {answers : List (Ticket × Answer)}
    (hmore : (service.answered : Multiset (Ticket × Answer)) =
      (usage.service.answered : Multiset (Ticket × Answer)) + (answers : Multiset _))
    (haccounts : service.ledger.Accounts usage.ids
      (usage.outstanding.filter fun id => id ∉ answeredIds usage.ids answers))
    (hbalanced : (usage.put service).ids.length < 2 ^ 32 - 1 → ∃ accepted issued,
      accepted.length = usage.ids.length ∧ issued ≤ usage.ids.length ∧
        Balanced service.ledger accepted ∧ service.ledger.calls.Counted issued) :
    (usage.put service).Accounted where
  accounts := haccounts.congr fun id => by
    rw [Usage.put, List.mem_filter, List.mem_filter, decide_eq_true_eq, decide_eq_true_eq,
      mem_completed hanswered hmore]
  balanced := hbalanced

theorem outstanding_put_of_same (hsame : service.answered = usage.service.answered) :
    (usage.put service).outstanding = usage.outstanding := by
  simp [Usage.put, completed, hsame, answeredIds]

theorem Accounted.rests (haccounted : usage.Accounted) (hrests : usage.service.Rests service) :
    (usage.put service).Accounted := by
  obtain ⟨hanswered, hledger⟩ := hrests
  have hunanswered : (service.answered : Multiset (Ticket × Answer)) =
      (usage.service.answered : Multiset (Ticket × Answer)) + (([] : List (Ticket × Answer)) :
        Multiset _) := hledger.answered.trans (add_zero _).symm
  have hkept : ∀ id, id ∈ usage.outstanding.filter (fun id => id ∉ answeredIds usage.ids []) ↔
      id ∈ usage.outstanding := fun id => by simp [answeredIds]
  obtain ⟨haccounts, hbalanced⟩ := haccounted
  refine .put hanswered hunanswered ?_ fun hroom => ?_
  · generalize service.ledger = after at hledger
    cases hledger with
    | same => exact haccounts.congr hkept
    | @cleared calls hidle hnone =>
      refine Ledger.Accounts.congr ?_ hkept
      exact { haccounts with
        waiting := fun _ _ hmem => absurd hmem (Multiset.notMem_zero _)
        outstanding := fun id => by rw [haccounts.outstanding, hidle, hnone] }
  · obtain ⟨accepted, issued, hlength, hissued, hbalance, hcounted⟩ := hbalanced hroom
    -- in balance no request waits when no call is outstanding, so a stop has none to forget
    have hsame : service.ledger = usage.service.ledger := by
      generalize service.ledger = after at hledger
      cases hledger with
      | same => rfl
      | cleared hidle hnone hcalls =>
        have hunqueued : usage.service.ledger.waiting = 0 := (hbalance.idle hidle).1
        rw [hcalls hunqueued, ← hunqueued]
    rw [hsame]
    exact ⟨accepted, issued, hlength, hissued, hbalance, hcounted⟩

/-- A request more has its place, its id and its call. -/
theorem Accounted.grow (haccounted : usage.Accounted) {path : ModemPath} {token : Option Token}
    (haccounts : service.ledger.Accounts (usage.ids ++ [usage.service.ledger.calls.next])
      ((usage.put service).outstanding ++ [usage.service.ledger.calls.next]))
    (hcalls : service.ledger.calls = usage.service.ledger.calls.reserve.2.add
      usage.service.ledger.calls.next path token)
    (hbalanced : ∀ {accepted issued}, accepted.length = usage.ids.length →
      usage.service.ledger.calls.Counted issued → Balanced usage.service.ledger accepted →
        Balanced service.ledger (accepted ++ [path])) :
    (usage.accept (.ok usage.service.ledger.calls.next, service)).Accounted where
  accounts := haccounts
  balanced hroom := by
    have hgrown : (usage.ids ++ [usage.service.ledger.calls.next]).length < 2 ^ 32 - 1 := hroom
    rw [List.length_append, List.length_singleton] at hgrown
    obtain ⟨accepted, issued, hlength, hissued, hbalance, hcounted⟩ :=
      haccounted.balanced (by omega)
    refine ⟨accepted ++ [path], issued + 1, by simp [accept, Usage.put, hlength],
      by simp [accept, Usage.put, hissued], hbalanced hlength hcounted hbalance, ?_⟩
    change service.ledger.calls.Counted _
    rw [hcalls]
    exact hcounted.add (by simp [UInt32.size]; omega) path token

theorem Accounted.hands (haccounted : usage.Accounted)
    {result : Except Failure CallId × Service (Recorded δ)}
    (hhands : usage.service.Hands usage.ticket result) : (usage.accept result).Accounted := by
  cases hhands with
  | refused => exact haccounted.rests (.of_ledger (List.prefix_refl _) rfl)
  | @queued after path code hanswered hledger =>
    refine haccounted.grow ?_ (congrArg Ledger.calls hledger) fun hlength hcounted hbalance => ?_
    · rw [hledger, outstanding_put_of_same hanswered]
      exact haccounted.accounts.queue path code
    · rw [hledger, ticket, ← hlength]
      exact hbalance.queue hcounted.next_not_mem path code
  | @sent after path errand token hanswered hledger =>
    refine haccounted.grow ?_ (congrArg Ledger.calls hledger) fun hlength hcounted hbalance => ?_
    · rw [hledger, outstanding_put_of_same hanswered]
      exact haccounted.accounts.dispatch path errand token
    · rw [hledger, ticket, ← hlength]
      exact hbalance.dispatch hcounted.next_not_mem path errand token

theorem Accounted.part (haccounted : usage.Accounted)
    {leave : CodeSession → Service (Recorded δ)}
    (hrests : ∀ session, usage.service.Rests (leave session)) : (usage.part leave).Accounted := by
  unfold Usage.part
  cases usage.session with
  | none => exact haccounted
  | some session =>
    have hleft := haccounted.rests (hrests session)
    exact ⟨hleft.accounts, hleft.balanced⟩

variable [Daemon δ]

/-- A move of the desk that hands in nothing and cancels nothing. -/
theorem Accounted.move (haccounted : usage.Accounted) {move : Move (Recorded δ)}
    (hmove : ∀ desk : Desk (Recorded δ), desk.service = usage.service →
      desk.step move = desk.put service)
    (hkept : ∀ id, move ≠ .cancel id) (hanswered : usage.service.answered <+: service.answered) :
    (usage.put service).Accounted := by
  obtain ⟨haccounts, hbalanced⟩ := haccounted
  -- the move reads nothing of a desk but its service, so the desk may have accepted anything before
  have hstep : ∀ accepted issued, (⟨usage.service, accepted, issued⟩ : Desk (Recorded δ)).Step move
      ((⟨usage.service, accepted, issued⟩ : Desk (Recorded δ)).books.put service.ledger) := by
    intro accepted issued
    rw [← Desk.books_put, ← hmove _ rfl]
    exact Desk.step_spec _ move
  obtain ⟨answers, hmore, hleft⟩ := (hstep [] 0).accounts rfl hkept haccounts
  refine .put hanswered hmore hleft fun hroom => ?_
  obtain ⟨accepted, issued, hlength, hissued, hbalance, hcounted⟩ := hbalanced hroom
  have hspared : ¬ (⟨usage.service, accepted, issued⟩ : Desk (Recorded δ)).Destroys move := by
    cases move with
    | cancel id => exact absurd rfl (hkept id)
    | _ => exact id
  have hfewer : (if service.ledger.calls.isEmpty then 0 else issued) ≤ issued := by
    split
    · exact Nat.zero_le issued
    · exact Nat.le_refl issued
  have hsound := (hstep accepted issued).sound ⟨hbalance, hcounted⟩ hspared
    (Nat.lt_of_le_of_lt (hfewer.trans hissued) hroom)
  exact ⟨accepted, _, hlength, hfewer.trans hissued, hsound.balanced, hsound.counted⟩

theorem Accounted.step (haccounted : usage.Accounted) (use : Use δ) :
    (usage.step use).Accounted := by
  cases use with
  | get => exact haccounted.rests usage.service.rests_start
  | register topic listener =>
    have hrests := haccounted.rests (usage.service.rests_subscribe topic listener)
    simp only [Usage.step]
    generalize usage.service.subscribe topic listener = result at hrests ⊢
    obtain ⟨failure | granted, service⟩ := result
    · exact hrests
    · exact ⟨hrests.accounts, hrests.balanced⟩
  | close subscription =>
    have hrests := haccounted.rests (usage.service.rests_close subscription)
    simp only [Usage.step]
    generalize usage.service.close subscription = result at hrests ⊢
    obtain ⟨failure | granted, service⟩ := result
    · exact hrests
    · exact ⟨hrests.accounts, hrests.balanced⟩
  | destroy => exact haccounted.rests usage.service.rests_stop
  | openSession number options startup =>
    have hrests := haccounted.rests (usage.service.rests_openSession number options startup)
    simp only [Usage.step]
    generalize usage.service.openSession number options startup = result at hrests ⊢
    obtain ⟨failure | granted, service⟩ := result
    · exact hrests
    · exact ⟨hrests.accounts, hrests.balanced⟩
  | closeSession => exact haccounted.part usage.service.rests_closeSession
  | dropSession =>
    refine haccounted.part fun session => ?_
    exact .of_ledger (List.prefix_refl _) (usage.service.ledger_releaseSession _)
  | submit path code => exact haccounted.hands (usage.service.hands_submit path code usage.ticket)
  | listOperators path scan =>
    exact haccounted.hands (usage.service.hands_listOperators path scan usage.ticket)
  | turn index =>
    have hmove : ∀ desk : Desk (Recorded δ), desk.service = usage.service →
        desk.step (.turn index) = desk.put (usage.service.turnAt index) := by
      rintro desk hservice
      rw [Desk.step, hservice]
    have hkept : ∀ id, (.turn index : Move (Recorded δ)) ≠ .cancel id := by
      intro id hsame
      cases hsame
    exact haccounted.move hmove hkept (usage.service.serves_turnAt index).answered
  | process event =>
    have hmove : ∀ desk : Desk (Recorded δ), desk.service = usage.service →
        desk.step (.process event) = desk.put (usage.service.process event) := by
      rintro desk hservice
      rw [Desk.step, hservice]
    have hkept : ∀ id, (.process event : Move (Recorded δ)) ≠ .cancel id := by
      intro id hsame
      cases hsame
    have hmoved := haccounted.move hmove hkept (usage.service.serves_process event).answered
    simp only [Usage.step]
    split
    · exact hmoved
    · exact haccounted
  | flush =>
    simp only [Usage.step]
    split
    · exact haccounted.rests usage.service.rests_flush
    · exact haccounted
  | daemon next => exact haccounted.rests (.of_ledger (List.prefix_refl _) rfl)

theorem Accounted.run (haccounted : usage.Accounted) (uses : List (Use δ)) :
    (usage.run uses).Accounted := by
  induction uses generalizing usage with
  | nil => exact haccounted
  | cons use rest ih => exact ih (haccounted.step use)

omit [Daemon δ] in
theorem Accounted.idle_iff (haccounted : usage.Accounted) :
    usage.outstanding = [] ↔ usage.service.board.calls.ids = [] := by
  rw [List.eq_nil_iff_forall_not_mem, List.eq_nil_iff_forall_not_mem]
  exact forall_congr' fun id => not_congr (haccounted.accounts.outstanding id)

omit [Daemon δ] in
/-- Before the ids run out, no id is outstanding exactly when every request has been answered. -/
theorem Accounted.answered_iff (haccounted : usage.Accounted)
    (hroom : usage.ids.length < 2 ^ 32 - 1) :
    usage.outstanding = [] ↔
      ∀ number < usage.ids.length, ∃ answer, (⟨number⟩, answer) ∈ usage.service.answered := by
  obtain ⟨accepted, issued, hlength, -, hbalance, -⟩ := haccounted.balanced hroom
  have hplaces := hbalance.places
  have hids := hbalance.outstanding
  rw [haccounted.idle_iff, ← hlength]
  let ledger := usage.service.ledger
  have hgiven : ∀ ticket, ticket ∈ ledger.answeredTickets ↔
      ∃ answer, (ticket, answer) ∈ usage.service.answered := by
    intro ticket
    simp [ledger, Ledger.answeredTickets, Service.ledger]
  constructor
  · intro hidle number hnumber
    obtain ⟨hwaiting, htaken, hflights⟩ := hbalance.idle hidle
    have hmem : (⟨number⟩ : Ticket) ∈ ledger.tickets := hplaces ▸ mem_ticketsUpTo.2 hnumber
    refine (hgiven _).1 ?_
    simpa [ledger, Ledger.tickets, Ledger.waitingTickets, Ledger.underWayTickets, hwaiting, htaken,
      hflights] using hmem
  · intro hall
    -- a ticket stands for one request, in one place
    have hdistinct : ledger.tickets.Nodup := hplaces ▸ nodup_ticketsUpTo accepted.length
    have hapart := (Multiset.nodup_add.1 hdistinct).2.2
    have hnone : ledger.waitingTickets + ledger.underWayTickets = 0 := by
      refine Multiset.eq_zero_of_forall_notMem fun ticket hmem => ?_
      have hlisted : ticket ∈ ledger.tickets := Multiset.mem_add.2 (.inl hmem)
      have hnumber : ticket.number < accepted.length :=
        mem_ticketsUpTo.1 (hplaces.symm ▸ hlisted)
      exact Multiset.disjoint_left.1 hapart hmem ((hgiven ticket).2 (hall _ hnumber))
    have hcard := congrArg Multiset.card hnone
    simp only [Ledger.waitingTickets, Ledger.underWayTickets, Multiset.card_add, Multiset.card_map,
      Multiset.card_zero] at hcard
    have hzero : Multiset.card ledger.ids = 0 := by
      simp only [Ledger.ids, Multiset.card_add, Multiset.card_map]
      omega
    rw [← hids, Multiset.coe_card] at hzero
    exact List.length_eq_zero_iff.1 hzero

end Usage

end Telephony

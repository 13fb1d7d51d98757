import Telephony.Proofs.News.Listeners

/-!
# Fan-outs

Lists of observers while those who are called add and remove registrations themselves, and begin
fan-outs of their own. Whatever is done, all that is seen of the list is what a roll shows that is
kept beside it: a token is above all tokens given out before, a removal strikes out the entry of its
token, and a fan-out calls those who were on the list as it began. So a token that is closed late,
when the list was emptied and filled again, closes nothing else.
-/

namespace Telephony

namespace ObserverList

/-- What is seen of a list. -/
inductive Sight (α : Type) where
  | added (id : ObserverId) (observer : α)
  | removed (id : ObserverId) (found : Bool)
  | began
  | called (observer : α)
  | ended

/-- What is seen, and the list right after it. -/
structure Moment (α : Type) where
  sight : Sight α
  list : ObserverList α

/-- What is done with a list, step by step, where each step may depend on all that was seen before.
In a fan-out in which `seen` was seen so far, an observer who is called does
`during observer seen`. -/
inductive Agenda (α : Type) where
  | done
  | add (observer : α) (next : ObserverId → Agenda α)
  | remove (id : ObserverId) (next : Bool → Agenda α)
  | fanOut (during : α → List (Moment α) → Agenda α) (next : List (Moment α) → Agenda α)

variable {α : Type}

namespace Agenda

/-- The list when all is done, and what was seen meanwhile. -/
def carryOut : Agenda α → ObserverList α → ObserverList α × List (Moment α)
  | done, list => (list, [])
  | add observer next, list =>
    let (id, after) := list.add observer
    let (last, moments) := (next id).carryOut after
    (last, ⟨.added id observer, after⟩ :: moments)
  | remove id next, list =>
    let (found, after) := list.remove id
    let (last, moments) := (next found).carryOut after
    (last, ⟨.removed id found, after⟩ :: moments)
  | fanOut during next, list =>
    let (after, calls) := list.fanOut (fun observer (live, seen) =>
      let (after, more) := (during observer seen).carryOut live
      (after, seen ++ ⟨.called observer, live⟩ :: more)) []
    let (last, moments) := (next calls).carryOut after
    (last, ⟨.began, list⟩ :: calls ++ ⟨.ended, after⟩ :: moments)

/-- One call of a fan-out. -/
def call (during : α → List (Moment α) → Agenda α) (observer : α) :
    ObserverList α × List (Moment α) → ObserverList α × List (Moment α)
  | (live, seen) =>
    let (after, more) := (during observer seen).carryOut live
    (after, seen ++ ⟨.called observer, live⟩ :: more)

theorem carryOut_fanOut {during : α → List (Moment α) → Agenda α}
    {next : List (Moment α) → Agenda α} {list after : ObserverList α} {calls : List (Moment α)}
    (hcalls : list.fanOut (call during) [] = (after, calls)) :
    (fanOut during next).carryOut list =
      (((next calls).carryOut after).1,
        ⟨.began, list⟩ :: calls ++ ⟨.ended, after⟩ :: ((next calls).carryOut after).2) := by
  have hopened : (fanOut during next).carryOut list =
      (fun (after, calls) => (((next calls).carryOut after).1,
        ⟨.began, list⟩ :: calls ++ ⟨.ended, after⟩ :: ((next calls).carryOut after).2))
        (list.fanOut (call during) []) := rfl
  rw [hopened, hcalls]

end Agenda

/-! ### Rolls -/

/-- A roll of who is registered, with all tokens given out so far, and with those whom each fan-out
under way has still to call, the innermost fan-out first. -/
structure Roll (α : Type) where
  entries : List (ObserverId × α)
  issued : List ObserverId
  owed : List (List α)

namespace Roll

/-- What may be seen next, and the roll after it. -/
inductive Takes : Roll α → Sight α → Roll α → Prop
  | added {entries : List (ObserverId × α)} {issued : List ObserverId} {owed : List (List α)}
      {id : ObserverId} {observer : α} (hfresh : ∀ old ∈ issued, old.number < id.number) :
      Takes ⟨entries, issued, owed⟩ (.added id observer)
        ⟨entries ++ [(id, observer)], issued ++ [id], owed⟩
  | removed {before after : List (ObserverId × α)} {issued : List ObserverId}
      {owed : List (List α)} {id : ObserverId} {observer : α} :
      Takes ⟨before ++ (id, observer) :: after, issued, owed⟩ (.removed id true)
        ⟨before ++ after, issued, owed⟩
  | missed {entries : List (ObserverId × α)} {issued : List ObserverId} {owed : List (List α)}
      {id : ObserverId} (hmissing : ∀ entry ∈ entries, entry.1 ≠ id) :
      Takes ⟨entries, issued, owed⟩ (.removed id false) ⟨entries, issued, owed⟩
  | began {entries : List (ObserverId × α)} {issued : List ObserverId} {owed : List (List α)} :
      Takes ⟨entries, issued, owed⟩ .began ⟨entries, issued, entries.map (·.2) :: owed⟩
  | called {entries : List (ObserverId × α)} {issued : List ObserverId} {owed : List (List α)}
      {observer : α} {others : List α} :
      Takes ⟨entries, issued, (observer :: others) :: owed⟩ (.called observer)
        ⟨entries, issued, others :: owed⟩
  | ended {entries : List (ObserverId × α)} {issued : List ObserverId} {owed : List (List α)} :
      Takes ⟨entries, issued, [] :: owed⟩ .ended ⟨entries, issued, owed⟩

/-- The roll takes what is seen, one sight after the other, and agrees with the list all the
time. -/
inductive Keeps : Roll α → List (Moment α) → Roll α → Prop
  | nil {roll : Roll α} : roll.Keeps [] roll
  | cons {roll next last : Roll α} {sight : Sight α} {list : ObserverList α}
      {moments : List (Moment α)} (htakes : roll.Takes sight next)
      (hagrees : list.entries = next.entries) (hrest : next.Keeps moments last) :
      roll.Keeps (⟨sight, list⟩ :: moments) last

def blank : Roll α := ⟨[], [], []⟩

theorem Keeps.append {roll middle last : Roll α} {first rest : List (Moment α)}
    (hfirst : roll.Keeps first middle) (hrest : middle.Keeps rest last) :
    roll.Keeps (first ++ rest) last := by
  induction hfirst with
  | nil => exact hrest
  | cons htakes hagrees _ ih => exact .cons htakes hagrees (ih hrest)

end Roll

/-! ### Tokens -/

/-- The tokens given out, in order. -/
def handedOut (moments : List (Moment α)) : List ObserverId :=
  moments.filterMap fun moment =>
    match moment.sight with
    | .added id _ => some id
    | _ => none

namespace Roll

/-- Tokens grow in the order in which they were given out, and the entries stand in this order. -/
structure Sound (roll : Roll α) : Prop where
  growing : roll.issued.Pairwise fun a b => a.number < b.number
  ordered : (roll.entries.map (·.1)).Sublist roll.issued

variable {roll next last : Roll α} {moments : List (Moment α)}

theorem sound_blank : (blank : Roll α).Sound := ⟨.nil, .refl []⟩

theorem Takes.sound {sight : Sight α} (htakes : roll.Takes sight next) (hsound : roll.Sound) :
    next.Sound := by
  obtain ⟨hgrowing, hordered⟩ := hsound
  cases htakes with
  | added hfresh =>
    constructor
    · refine List.pairwise_append.2 ⟨hgrowing, List.pairwise_singleton _ _, ?_⟩
      intro old hold id hid
      rw [List.mem_singleton.1 hid]
      exact hfresh old hold
    · rw [List.map_append]
      exact hordered.append (.refl _)
  | removed =>
    refine ⟨hgrowing, .trans ?_ hordered⟩
    simp only [List.map_append, List.map_cons]
    exact (List.Sublist.refl _).append (List.sublist_cons_self _ _)
  | missed | began | called | ended => exact ⟨hgrowing, hordered⟩

theorem Keeps.sound (hkeeps : roll.Keeps moments last) (hsound : roll.Sound) : last.Sound := by
  induction hkeeps with
  | nil => exact hsound
  | cons htakes _ _ ih => exact ih (htakes.sound hsound)

theorem Keeps.ids_growing (hkeeps : roll.Keeps moments last) (hsound : roll.Sound) :
    ∀ moment ∈ moments, moment.list.ids.Pairwise fun a b => a.number < b.number := by
  induction hkeeps with
  | nil => exact fun moment hmem => absurd hmem List.not_mem_nil
  | cons htakes hagrees _ ih =>
    have hnext := htakes.sound hsound
    refine List.forall_mem_cons.2 ⟨?_, ih hnext⟩
    rw [ids, hagrees]
    exact hnext.growing.sublist hnext.ordered

theorem Keeps.issued_eq (hkeeps : roll.Keeps moments last) :
    last.issued = roll.issued ++ handedOut moments := by
  induction hkeeps with
  | nil => exact (List.append_nil _).symm
  | cons htakes _ _ ih =>
    rw [ih]
    cases htakes with
    | added hfresh => exact List.append_assoc _ _ _
    | removed | missed | began | called | ended => rfl

end Roll

/-! ### The roll of a list -/

/-- So many tokens were given out that the list has come to its next one. -/
structure Numbered (list : ObserverList α) (issued : List ObserverId) : Prop where
  next_eq : list.next = issued.length + 1
  below : ∀ id ∈ issued, id.number < list.next

variable {list : ObserverList α} {issued : List ObserverId}

theorem numbered_empty : (∅ : ObserverList α).Numbered [] :=
  ⟨rfl, fun _ hmem => absurd hmem List.not_mem_nil⟩

theorem Numbered.add (hnumbered : list.Numbered issued) (observer : α) :
    (list.add observer).2.Numbered (issued ++ [⟨list.next⟩]) := by
  constructor
  · rw [List.length_append, ← Nat.add_right_comm, ← hnumbered.next_eq]
    rfl
  · intro id hid
    change id.number < list.next + 1
    rcases List.mem_append.1 hid with hold | hnew
    · exact Nat.lt_succ_of_lt (hnumbered.below id hold)
    · rw [List.mem_singleton.1 hnew]
      exact Nat.lt_succ_self _

namespace Roll

/-- The roll of a list while some fan-outs are under way. -/
def ofList (list : ObserverList α) (issued : List ObserverId) (owed : List (List α)) : Roll α :=
  ⟨list.entries, issued, owed⟩

theorem takes_remove (list : ObserverList α) (issued : List ObserverId) (owed : List (List α))
    (id : ObserverId) :
    (ofList list issued owed).Takes (.removed id (list.remove id).1)
      (ofList (list.remove id).2 issued owed) := by
  by_cases hfound : ∃ entry ∈ list.entries, entry.1 = id
  · obtain ⟨entry, hmem, hid⟩ := hfound
    obtain ⟨⟨own, observer⟩, before, after, -, hown, hentries, hstruck⟩ :=
      List.exists_of_eraseP (p := fun entry => decide (entry.1 = id)) hmem (decide_eq_true hid)
    obtain rfl : own = id := of_decide_eq_true hown
    have hany : list.entries.any (·.1 = own) = true :=
      List.any_eq_true.2 ⟨entry, hmem, decide_eq_true hid⟩
    simp only [ofList, remove, hany, hstruck]
    rw [hentries]
    exact .removed
  · have hmissing : ∀ entry ∈ list.entries, entry.1 ≠ id := fun entry hmem hid =>
      hfound ⟨entry, hmem, hid⟩
    have hnone : list.entries.any (·.1 = id) = false :=
      List.any_eq_false.2 fun entry hmem => by simpa using hmissing entry hmem
    have hkept : list.entries.eraseP (·.1 = id) = list.entries :=
      List.eraseP_of_forall_not fun entry hmem => by simpa using hmissing entry hmem
    simp only [ofList, remove, hnone, hkept]
    exact .missed hmissing

/-- The roll is kept while an agenda is carried out, and is in the end that of the list. -/
def Follows (agenda : Agenda α) : Prop :=
  ∀ (list : ObserverList α) (issued : List ObserverId) (owed : List (List α)),
    list.Numbered issued →
      ∃ issuedAfter, (agenda.carryOut list).1.Numbered issuedAfter ∧
        (ofList list issued owed).Keeps (agenda.carryOut list).2
          (ofList (agenda.carryOut list).1 issuedAfter owed)

/-- The calls of a fan-out that has still to call `waiting`. -/
theorem keeps_calls {during : α → List (Moment α) → Agenda α}
    (hduring : ∀ observer seen, Follows (during observer seen)) (waiting : List α)
    (list : ObserverList α) (seen : List (Moment α)) (issued : List ObserverId)
    (owed : List (List α)) (hnumbered : list.Numbered issued) :
    ∃ after calls issuedAfter,
      waiting.foldl (fun current observer => Agenda.call during observer current) (list, seen) =
        (after, seen ++ calls) ∧
      after.Numbered issuedAfter ∧
      (ofList list issued (waiting :: owed)).Keeps calls
        (ofList after issuedAfter ([] :: owed)) := by
  induction waiting generalizing list seen issued with
  | nil => exact ⟨list, [], issued, by rw [List.append_nil]; rfl, hnumbered, .nil⟩
  | cons observer others ih =>
    obtain ⟨between, hbetween, hcall⟩ :=
      hduring observer seen list issued (others :: owed) hnumbered
    obtain ⟨after, calls, issuedAfter, hfold, hafter, hrest⟩ :=
      ih ((during observer seen).carryOut list).1
        (seen ++ ⟨.called observer, list⟩ :: ((during observer seen).carryOut list).2)
        between hbetween
    refine ⟨after, ⟨.called observer, list⟩ :: ((during observer seen).carryOut list).2 ++ calls,
      issuedAfter, ?_, hafter, ?_⟩
    · rw [List.foldl_cons, ← List.append_assoc]
      exact hfold
    · exact .cons .called rfl (hcall.append hrest)

theorem follows_carryOut (agenda : Agenda α) : Follows agenda := by
  induction agenda with
  | done => exact fun list issued owed hnumbered => ⟨issued, hnumbered, .nil⟩
  | add observer next ih =>
    intro list issued owed hnumbered
    obtain ⟨issuedAfter, hafter, hkeeps⟩ :=
      ih ⟨list.next⟩ (list.add observer).2 (issued ++ [⟨list.next⟩]) owed (hnumbered.add observer)
    exact ⟨issuedAfter, hafter, .cons (.added hnumbered.below) rfl hkeeps⟩
  | remove id next ih =>
    intro list issued owed hnumbered
    have hremoved : (list.remove id).2.Numbered issued := ⟨hnumbered.next_eq, hnumbered.below⟩
    obtain ⟨issuedAfter, hafter, hkeeps⟩ :=
      ih (list.remove id).1 (list.remove id).2 issued owed hremoved
    exact ⟨issuedAfter, hafter, .cons (takes_remove list issued owed id) rfl hkeeps⟩
  | fanOut during next hduring ih =>
    intro list issued owed hnumbered
    obtain ⟨middle, calls, between, hfold, hmiddle, hcalls⟩ :=
      keeps_calls hduring list.snapshot list [] issued owed hnumbered
    obtain ⟨issuedAfter, hafter, hrest⟩ := ih calls middle between owed hmiddle
    rw [Agenda.carryOut_fanOut hfold]
    refine ⟨issuedAfter, hafter, .cons .began rfl (hcalls.append ?_)⟩
    exact .cons .ended rfl hrest

end Roll

/-- What is seen of a list that begins empty. The roll kept beside it says what each addition,
removal and fan-out does, and no fan-out is left half done. -/
structure Orderly (moments : List (Moment α)) : Prop where
  kept : ∃ last, Roll.blank.Keeps moments last ∧ last.owed = []
  growing : ∀ moment ∈ moments, moment.list.ids.Pairwise fun a b => a.number < b.number
  once : (handedOut moments).Pairwise fun a b => a.number < b.number
  /-- The numbers of the tokens are not above the number of additions. -/
  few : ∀ id ∈ handedOut moments, id.number ≤ (handedOut moments).length

theorem orderly_carryOut (agenda : Agenda α) : Orderly (agenda.carryOut ∅).2 := by
  obtain ⟨issued, hnumbered, hkeeps⟩ := Roll.follows_carryOut agenda ∅ [] [] numbered_empty
  have hissued : issued = handedOut (agenda.carryOut ∅).2 := hkeeps.issued_eq
  constructor
  · exact ⟨_, hkeeps, rfl⟩
  · exact hkeeps.ids_growing Roll.sound_blank
  · exact hissued ▸ (hkeeps.sound Roll.sound_blank).growing
  · intro id hid
    rw [← hissued] at hid ⊢
    have hbelow := hnumbered.below id hid
    rw [hnumbered.next_eq] at hbelow
    exact Nat.le_of_lt_succ hbelow

/-! ### Owners of tokens -/

/-- The token was given out, to the observer alone. -/
structure Owns (list : ObserverList α) (id : ObserverId) (observer : α) : Prop where
  issued : id.number < list.next
  own : ∀ entry ∈ list.entries, entry.1 = id → entry.2 = observer

variable {id : ObserverId} {observer : α}

theorem Ordered.owns_add (hordered : list.Ordered) (observer : α) :
    (list.add observer).2.Owns (list.add observer).1 observer := by
  refine ⟨Nat.lt_succ_self list.next, fun entry hentry hid => ?_⟩
  rcases List.mem_append.1 hentry with hold | hnew
  · have hlt := hordered.issued entry.1 (List.mem_map_of_mem hold)
    rw [hid] at hlt
    exact absurd hlt (Nat.lt_irrefl _)
  · rw [List.mem_singleton.1 hnew]

theorem Owns.add (howns : list.Owns id observer) (other : α) :
    (list.add other).2.Owns id observer := by
  refine ⟨Nat.lt_succ_of_lt howns.issued, fun entry hentry hid => ?_⟩
  rcases List.mem_append.1 hentry with hold | hnew
  · exact howns.own entry hold hid
  · obtain rfl := List.mem_singleton.1 hnew
    exact absurd howns.issued (hid ▸ Nat.lt_irrefl _)

theorem Owns.remove (howns : list.Owns id observer) (other : ObserverId) :
    (list.remove other).2.Owns id observer :=
  ⟨howns.issued, fun entry hentry => howns.own entry (List.mem_of_mem_eraseP hentry)⟩

theorem Owns.mem_add (howns : list.Owns id observer) (other : α) :
    (id, observer) ∈ (list.add other).2.entries ↔ (id, observer) ∈ list.entries := by
  refine ⟨fun hmem => (List.mem_append.1 hmem).resolve_right fun hnew => ?_, fun hmem =>
    List.mem_append_left _ hmem⟩
  have hid : id = ⟨list.next⟩ := congrArg Prod.fst (List.mem_singleton.1 hnew)
  exact absurd howns.issued (hid ▸ Nat.lt_irrefl _)

theorem Ordered.mem_remove (hordered : list.Ordered) (other : ObserverId) :
    (id, observer) ∈ (list.remove other).2.entries ↔
      (id, observer) ∈ list.entries ∧ id ≠ other := by
  rw [hordered.entries_remove, List.mem_filter, decide_eq_true_iff]

theorem Owns.found_remove (howns : list.Owns id observer) :
    (list.remove id).1 = true ↔ (id, observer) ∈ list.entries := by
  constructor
  · intro hfound
    obtain ⟨entry, hentry, hid⟩ := List.any_eq_true.1 hfound
    have hid : entry.1 = id := of_decide_eq_true hid
    have heq : entry = (id, observer) := Prod.ext hid (howns.own entry hentry hid)
    exact heq ▸ hentry
  · exact fun hmem => List.any_eq_true.2 ⟨_, hmem, decide_eq_true rfl⟩

end ObserverList

/-! ### Subscriptions -/

namespace Switchboard

variable {observers : Observers} {made : Subscription} {listener : Listener}

theorem ordered_run (operations : List Operation) (topic : Topic) :
    (((∅ : Switchboard).run operations).observers.on topic).Ordered := by
  obtain ⟨registrations, hholds⟩ : ∃ registrations : Registrations,
      ((∅ : Switchboard).run operations).observers.Holds registrations :=
    run_keeps (fun board => ∃ registrations : Registrations, board.observers.Holds registrations)
      (fun board operation ⟨registrations, hholds⟩ => ⟨_, holds_perform hholds operation⟩)
      ⟨[], Observers.holds_empty⟩ operations
  exact (hholds topic).1

theorem owns_listening (howns : (observers.on made.topic).Owns made.id listener)
    (operation : Operation) :
    ((listening observers operation).on made.topic).Owns made.id listener := by
  cases operation with
  | subscribe topic other =>
    simp only [listening, Observers.add, Observers.on_setOn]
    split
    · next htopic => exact htopic ▸ howns.add other
    · exact howns
  | unsubscribe closed =>
    simp only [listening, Observers.remove, Observers.on_setOn]
    split
    · next htopic => exact htopic ▸ howns.remove closed.id
    · exact howns
  | _ => exact howns

/-- A registration is open until its own token closes it. -/
theorem mem_listening (hordered : (observers.on made.topic).Ordered)
    (howns : (observers.on made.topic).Owns made.id listener) (operation : Operation) :
    (made.id, listener) ∈ ((listening observers operation).on made.topic).entries ↔
      (made.id, listener) ∈ (observers.on made.topic).entries ∧ operation ≠ .unsubscribe made := by
  cases operation with
  | subscribe topic other =>
    simp only [listening, Observers.add, Observers.on_setOn, ne_eq, reduceCtorEq, not_false_eq_true,
      and_true]
    split
    · next htopic => exact htopic ▸ howns.mem_add other
    · rfl
  | unsubscribe closed =>
    obtain ⟨topic, id⟩ := closed
    obtain ⟨own, ownId⟩ := made
    simp only [listening, Observers.remove, Observers.on_setOn, ne_eq, Operation.unsubscribe.injEq,
      Subscription.mk.injEq]
    split
    · next htopic =>
      subst htopic
      rw [hordered.mem_remove, and_iff_right rfl, eq_comm]
    · next htopic =>
      rw [and_iff_left fun heq => htopic heq.1]
  | _ =>
    simp only [listening, ne_eq, reduceCtorEq, not_false_eq_true, and_true]

theorem owns_run {board : Switchboard}
    (howns : (board.observers.on made.topic).Owns made.id listener) (operations : List Operation) :
    ((board.run operations).observers.on made.topic).Owns made.id listener := by
  refine run_keeps (fun board => (board.observers.on made.topic).Owns made.id listener) ?_ howns
    operations
  intro board operation howns
  rw [observers_perform]
  exact owns_listening howns operation

theorem mem_run {before : List Operation}
    (howns : (((∅ : Switchboard).run before).observers.on made.topic).Owns made.id listener)
    (after : List Operation) :
    (made.id, listener) ∈
        ((((∅ : Switchboard).run before).run after).observers.on made.topic).entries ↔
      (made.id, listener) ∈ (((∅ : Switchboard).run before).observers.on made.topic).entries ∧
        .unsubscribe made ∉ after := by
  induction after generalizing before with
  | nil => exact (and_iff_left List.not_mem_nil).symm
  | cons operation rest ih =>
    have hfirst : ((∅ : Switchboard).run before).run (operation :: rest) =
        ((∅ : Switchboard).run (before ++ [operation])).run rest := by
      rw [run_append]
      rfl
    have hperformed : ((∅ : Switchboard).run (before ++ [operation])).observers =
        listening ((∅ : Switchboard).run before).observers operation := by
      rw [run_append]
      exact observers_perform _ operation
    rw [hfirst, ih (hperformed ▸ owns_listening howns operation), hperformed,
      mem_listening (ordered_run before made.topic) howns, List.mem_cons, not_or, and_assoc,
      ne_comm]

/-- Closing tells whether the registration is open, and strikes out it alone. -/
structure ClosesOwn (board : Switchboard) (made : Subscription) (listener : Listener) : Prop where
  growing : (board.observers.on made.topic).ids.Pairwise fun a b => a.number < b.number
  found : (board.unsubscribe made).1 = true ↔
    (made.id, listener) ∈ (board.observers.on made.topic).entries
  own : ((board.unsubscribe made).2.observers.on made.topic).entries =
    (board.observers.on made.topic).entries.filter (· ≠ (made.id, listener))
  others : ∀ topic ≠ made.topic,
    (board.unsubscribe made).2.observers.on topic = board.observers.on topic

theorem closesOwn_of_owns {board : Switchboard}
    (hordered : (board.observers.on made.topic).Ordered)
    (howns : (board.observers.on made.topic).Owns made.id listener) :
    board.ClosesOwn made listener := by
  constructor
  · exact hordered.growing
  · exact howns.found_remove
  · simp only [unsubscribe, Observers.remove, Observers.on_setOn, if_pos]
    rw [hordered.entries_remove]
    refine List.filter_congr fun entry hentry => decide_eq_decide.2 (not_congr ?_)
    exact ⟨fun hid => Prod.ext hid (howns.own entry hentry hid), congrArg Prod.fst⟩
  · intro topic htopic
    simp only [unsubscribe, Observers.remove, Observers.on_setOn, if_neg htopic.symm]

theorem owns_subscribe {board : Switchboard} {topic : Topic}
    (hordered : (board.observers.on topic).Ordered) (listener : Listener) :
    ((board.subscribe topic listener).2.observers.on topic).Owns
        (board.subscribe topic listener).1.id listener ∧
      ((board.subscribe topic listener).1.id, listener) ∈
        ((board.subscribe topic listener).2.observers.on topic).entries := by
  simp only [subscribe, Observers.add, Observers.on_setOn, if_pos]
  exact ⟨hordered.owns_add listener, List.mem_append_right _ (List.mem_singleton_self _)⟩

/-- A subscription may be closed at any time later, whatever was subscribed and closed before it
and since. -/
theorem closesOwn_run (before after : List Operation) (topic : Topic) (listener : Listener) :
    let (made, board) := ((∅ : Switchboard).run before).subscribe topic listener
    (board.run after).ClosesOwn made listener ∧
      (((board.run after).unsubscribe made).1 = true ↔ .unsubscribe made ∉ after) := by
  obtain ⟨made, hmade⟩ : ∃ made,
      (((∅ : Switchboard).run before).subscribe topic listener).1 = made := ⟨_, rfl⟩
  have hboard : (((∅ : Switchboard).run before).subscribe topic listener).2 =
      (∅ : Switchboard).run (before ++ [.subscribe topic listener]) := by
    rw [run_append]
    rfl
  obtain ⟨howns, hopen⟩ := owns_subscribe (ordered_run before topic) listener
  have hsubscribed : ((∅ : Switchboard).run before).subscribe topic listener =
      (made, (∅ : Switchboard).run (before ++ [.subscribe topic listener])) :=
    Prod.ext hmade hboard
  obtain rfl : made.topic = topic := congrArg Subscription.topic hmade.symm
  rw [hsubscribed] at howns hopen ⊢
  have hcloses : (((∅ : Switchboard).run (before ++ [.subscribe made.topic listener])).run
      after).ClosesOwn made listener := by
    refine closesOwn_of_owns ?_ (owns_run howns after)
    rw [← run_append]
    exact ordered_run _ made.topic
  exact ⟨hcloses, hcloses.found.trans ((mem_run howns after).trans (and_iff_right hopen))⟩

end Switchboard

/-- Whatever is done with lists of observers, also while a fan-out is under way, a token is of use
for its own entry only. -/
theorem tokens_own_their_entries (α : Type) :
    (∀ agenda : ObserverList.Agenda α, ObserverList.Orderly (agenda.carryOut ∅).2) ∧
      ∀ (before after : List Switchboard.Operation) (topic : Topic) (listener : Listener),
        let (made, board) := ((∅ : Switchboard).run before).subscribe topic listener
        (board.run after).ClosesOwn made listener ∧
          (((board.run after).unsubscribe made).1 = true ↔ .unsubscribe made ∉ after) :=
  ⟨ObserverList.orderly_carryOut, Switchboard.closesOwn_run⟩

end Telephony

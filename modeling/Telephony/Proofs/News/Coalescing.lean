import Telephony.Proofs.News.Listeners
import Telephony.Proofs.News.Withholding
import Telephony.Proofs.Tables

/-!
# News without lost updates

However many changes come between two flushes, the flush tells of each modem once on each topic, with
the state as it is and to those who are registered then; and after it everyone has been told what is
the case. A chronicle keeps beside the board what was last told of each modem on each topic, and
forgets it when that is gone, and it keeps who is registered.
-/

namespace Telephony

/-- The deliveries that tell of the modem on the topic. -/
def Delivery.on (deliveries : List Delivery) (path : ModemPath) (topic : Topic) : List Delivery :=
  deliveries.filter fun delivery => delivery.path = path ∧ delivery.news.topic = topic

/-! ### What a flush makes out -/

namespace Entry

theorem shown_told (entry : Entry) (topic : Topic) :
    entry.told.shown topic = entry.shown topic := by
  cases topic with
  | modem | codeQuery => rfl
  | network | data => simp [told, shown, Tracker.told, Function.comp_def]
  | sim =>
    cases hsim : entry.sim with
    | none => simp [told, shown, hsim]
    | some sim =>
      cases hdue : sim.tracker.due <;>
        simp [told, shown, hsim, hdue, SimTracker.told, Tracker.told]

theorem topic_of_shown {entry : Entry} {topic : Topic} {news : News}
    (hshown : entry.shown topic = some news) : news.topic = topic := by
  cases topic with
  | modem =>
    cases hshown
    rfl
  | codeQuery => cases hshown
  | sim | network | data =>
    obtain ⟨there, -, rfl⟩ := Option.map_eq_some_iff.1 hshown
    rfl

/-- The news that are due on a topic. -/
def dueOn (entry : Entry) (topic : Topic) : List News :=
  if entry.isDue topic then (entry.shown topic).toList else []

theorem filter_dueOn (entry : Entry) (own topic : Topic) :
    (entry.dueOn own).filter (·.topic = topic) = if own = topic then entry.dueOn own else [] := by
  have hown : ∀ news ∈ entry.dueOn own, news.topic = own := by
    intro news hmem
    unfold dueOn at hmem
    split at hmem
    · exact topic_of_shown (Option.mem_toList.1 hmem)
    · cases hmem
  by_cases htopic : own = topic
  · rw [if_pos htopic, List.filter_eq_self]
    exact fun news hmem => decide_eq_true ((hown news hmem).trans htopic)
  · rw [if_neg htopic, List.filter_eq_nil_iff]
    exact fun news hmem => by simpa [hown news hmem] using htopic

theorem dueOn_network (entry : Entry) : entry.dueOn .network =
    ((entry.network.filter (·.due)).map fun tracker => News.network tracker.state).toList := by
  cases hthere : entry.network with
  | none => simp [dueOn, isDue, hthere]
  | some tracker =>
    cases hdue : tracker.due <;> simp [dueOn, isDue, shown, hthere, hdue, Option.filter]

theorem dueOn_data (entry : Entry) : entry.dueOn .data =
    ((entry.data.filter (·.due)).map fun tracker => News.data tracker.state).toList := by
  cases hthere : entry.data with
  | none => simp [dueOn, isDue, hthere]
  | some tracker =>
    cases hdue : tracker.due <;> simp [dueOn, isDue, shown, hthere, hdue, Option.filter]

/-- After the state of the SIM it may be told that it begins to wait for a code. -/
theorem dueOn_sim (entry : Entry) :
    ∃ queries : List News, (∀ news ∈ queries, news.topic = .codeQuery) ∧
      ((entry.sim.filter (·.tracker.due)).map simNews).getD [] = entry.dueOn .sim ++ queries := by
  cases hthere : entry.sim with
  | none => exact ⟨[], fun _ hmem => absurd hmem List.not_mem_nil, by simp [dueOn, isDue, hthere]⟩
  | some sim =>
    cases hdue : sim.tracker.due with
    | false =>
      refine ⟨[], fun _ hmem => absurd hmem List.not_mem_nil, ?_⟩
      simp [dueOn, isDue, hthere, hdue, Option.filter]
    | true =>
      refine ⟨sim.codeQuery.toList.map .codeQuery, fun news hmem => ?_, ?_⟩
      · obtain ⟨status, -, rfl⟩ := List.mem_map.1 hmem
        rfl
      · simp [dueOn, isDue, shown, hthere, hdue, Option.filter, simNews]

theorem news_eq (entry : Entry) :
    ∃ queries : List News, (∀ news ∈ queries, news.topic = .codeQuery) ∧
      entry.news = entry.dueOn .modem ++ (entry.dueOn .sim ++ queries) ++ entry.dueOn .network ++
        entry.dueOn .data := by
  obtain ⟨queries, hqueries, hsim⟩ := entry.dueOn_sim
  refine ⟨queries, hqueries, ?_⟩
  rw [news, hsim, dueOn_network, dueOn_data]
  rfl

theorem filter_news (entry : Entry) {topic : Topic} (hstate : topic ≠ .codeQuery) :
    entry.news.filter (·.topic = topic) = entry.dueOn topic := by
  obtain ⟨queries, hqueries, hnews⟩ := entry.news_eq
  have hasked : queries.filter (·.topic = topic) = [] :=
    List.filter_eq_nil_iff.2 fun news hmem => by
      simpa [hqueries news hmem] using Ne.symm hstate
  simp only [hnews, List.filter_append, filter_dueOn, hasked]
  cases topic with
  | codeQuery => exact absurd rfl hstate
  | _ => simp

end Entry

/-! ### Chronicles -/

namespace Switchboard

/-- What a flush tells of a modem on a topic comes from the entry of the modem, which is listed
once. -/
theorem flush_on_entry (board : Switchboard) (path : ModemPath) (topic : Topic) :
    Delivery.on board.flush.2 path topic =
      (board.entry? path).elim [] fun entry =>
        (entry.news.filter (·.topic = topic)).map (board.observers.deliver path) := by
  have hothers : ∀ listed : ModemPath × Entry, listed.1 ≠ path →
      (listed.2.news.map (board.observers.deliver listed.1)).filter
        (fun delivery => delivery.path = path ∧ delivery.news.topic = topic) = [] := by
    intro listed hne
    refine List.filter_eq_nil_iff.2 fun delivery hmem => ?_
    obtain ⟨news, -, rfl⟩ := List.mem_map.1 hmem
    simp [Observers.deliver, hne]
  have hflush := Table.filter_flatMap_of_lookup board.modems.keys_nodup hothers
  change Delivery.on board.flush.2 path topic = (board.entry? path).elim [] _ at hflush
  have hpasses : (fun delivery : Delivery =>
      decide (delivery.path = path ∧ delivery.news.topic = topic)) ∘
        board.observers.deliver path = fun news => decide (news.topic = topic) := by
    funext news
    exact decide_eq_decide.2 (and_iff_right rfl)
  simp only [hflush, List.filter_map, hpasses]

theorem flush_on (board : Switchboard) (path : ModemPath) {topic : Topic}
    (hstate : topic ≠ .codeQuery) :
    Delivery.on board.flush.2 path topic =
      if board.isDue path topic then
        ((board.state? path topic).map (board.observers.deliver path)).toList
      else [] := by
  rw [flush_on_entry]
  cases hentry : board.entry? path with
  | none => simp [isDue, hentry]
  | some entry =>
    have hdue : board.isDue path topic = entry.isDue topic := by rw [isDue, hentry, Option.any_some]
    rw [Option.elim_some, state?_of_entry hentry, Entry.filter_news entry hstate, Entry.dueOn, hdue]
    split
    · cases entry.shown topic <;> rfl
    · rfl

theorem state?_flush (board : Switchboard) (path : ModemPath) (topic : Topic) :
    board.flush.1.state? path topic = board.state? path topic := by
  rw [state?_eq, state?_eq, lookup_flush]
  cases board.entry? path with
  | none => rfl
  | some entry => exact entry.shown_told topic

end Switchboard

/-- A switchboard, what was last told of each modem on each topic since it is there, and the open
registrations. -/
structure Chronicle where
  board : Switchboard
  told : ModemPath → Topic → Option News
  registrations : Registrations

namespace Chronicle

open Switchboard (Operation)

def opened : Chronicle := ⟨∅, fun _ _ => none, []⟩

/-- What has last been told after the operation; nothing of what is not there. -/
def tells (chronicle : Chronicle) (operation : Operation) (path : ModemPath) (topic : Topic) :
    Option News :=
  if ((chronicle.board.perform operation).state? path topic).isSome then
    ((Delivery.on (chronicle.board.delivers operation) path topic).getLast?.map (·.news)).or
      (chronicle.told path topic)
  else none

def step (chronicle : Chronicle) (operation : Operation) : Chronicle where
  board := chronicle.board.perform operation
  told := chronicle.tells operation
  registrations := chronicle.board.registers chronicle.registrations operation

def run (chronicle : Chronicle) (operations : List Operation) : Chronicle :=
  operations.foldl step chronicle

/-- Whoever is registered is in the lists, and all that is not due has been told. -/
structure Faithful (chronicle : Chronicle) : Prop where
  listed : chronicle.board.observers.Holds chronicle.registrations
  current : ∀ path topic news, chronicle.board.state? path topic = some news →
    chronicle.board.isDue path topic = false →
      ∃ old, chronicle.told path topic = some old ∧ old.Agrees news

variable {chronicle : Chronicle}

theorem tells_of_withheld (hwithholds : chronicle.board.Withholds
      (chronicle.board.perform operation) (chronicle.board.delivers operation))
    {path : ModemPath} {topic : Topic} {news : News}
    (hstate : (chronicle.board.perform operation).state? path topic = some news) :
    chronicle.tells operation path topic = chronicle.told path topic := by
  have hsilent : Delivery.on (chronicle.board.delivers operation) path topic = [] := by
    refine List.filter_eq_nil_iff.2 fun delivery hmem hon => ?_
    obtain ⟨rfl, rfl⟩ := of_decide_eq_true hon
    cases (hwithholds.gone delivery hmem).symm.trans hstate
  rw [tells, hstate, hsilent]
  rfl

theorem Faithful.flush (hfaithful : chronicle.Faithful) {path : ModemPath} {topic : Topic}
    {news : News} (hstate : (chronicle.step .flush).board.state? path topic = some news) :
    ∃ old, (chronicle.step .flush).told path topic = some old ∧ old.Agrees news := by
  have hthere : chronicle.board.state? path topic = some news :=
    (chronicle.board.state?_flush path topic).symm.trans hstate
  have htopic : topic ≠ .codeQuery := by
    rintro rfl
    cases hthere
  change ∃ old, chronicle.tells .flush path topic = some old ∧ _
  have hflushed : (chronicle.board.perform .flush).state? path topic = some news := hstate
  have hmade := chronicle.board.flush_on path htopic
  rw [tells, hflushed, Switchboard.delivers, hmade, hthere]
  cases hdue : chronicle.board.isDue path topic with
  | true => exact ⟨news, rfl, .same news⟩
  | false => exact hfaithful.current path topic news hthere hdue

theorem Faithful.step (hfaithful : chronicle.Faithful) (operation : Operation) :
    (chronicle.step operation).Faithful where
  listed := Switchboard.holds_perform hfaithful.listed operation
  current path topic news hstate hquiet := by
    by_cases hflush : operation = .flush
    · subst hflush
      exact hfaithful.flush hstate
    · have hwithholds := chronicle.board.withholds_perform hflush
      obtain ⟨hquieted, old, hold, hagrees⟩ := hwithholds.rests path topic news hstate hquiet
      obtain ⟨told, htold, hagreed⟩ := hfaithful.current path topic old hold hquieted
      exact ⟨told, (tells_of_withheld hwithholds hstate).trans htold, hagreed.trans hagrees⟩

theorem faithful_run (operations : List Operation) : (opened.run operations).Faithful := by
  have hopened : opened.Faithful := ⟨Observers.holds_empty, fun path topic news hstate => by
    cases topic <;> cases hstate⟩
  generalize opened = chronicle at hopened ⊢
  induction operations generalizing chronicle with
  | nil => exact hopened
  | cons operation rest ih => exact ih _ (hopened.step operation)

/-- A flush tells of each modem at most once on each topic, with the state that the board gives out
and to those who are registered, in order; and after it all that the board gives out has been told,
but for the strength of a signal whose technology is unknown. -/
structure Coalesces (chronicle : Chronicle) : Prop where
  once : ∀ path topic, topic ≠ .codeQuery →
    (Delivery.on chronicle.board.flush.2 path topic).length ≤ 1
  current : ∀ delivery ∈ chronicle.board.flush.2, delivery.news.topic ≠ .codeQuery →
    chronicle.board.state? delivery.path delivery.news.topic = some delivery.news
  heard : ∀ delivery ∈ chronicle.board.flush.2,
    delivery.listeners = chronicle.registrations.listeners delivery.news.topic
  caughtUp : ∀ path topic news, (chronicle.step .flush).board.state? path topic = some news →
    ∃ old, (chronicle.step .flush).told path topic = some old ∧ old.Agrees news

/-- Whatever is done to a switchboard, a flush coalesces and loses no update. -/
theorem coalesces_run (operations : List Operation) : (opened.run operations).Coalesces := by
  have hfaithful := faithful_run operations
  generalize opened.run operations = chronicle at hfaithful ⊢
  constructor
  · intro path topic hstate
    rw [Switchboard.flush_on _ _ hstate]
    split
    · cases chronicle.board.state? path topic <;> simp
    · exact Nat.zero_le 1
  · intro delivery hmem hstate
    have hon : delivery ∈ Delivery.on chronicle.board.flush.2 delivery.path delivery.news.topic :=
      List.mem_filter.2 ⟨hmem, decide_eq_true ⟨rfl, rfl⟩⟩
    rw [Switchboard.flush_on _ _ hstate] at hon
    split at hon
    · obtain ⟨news, hnews, hmade⟩ := Option.map_eq_some_iff.1 (Option.mem_toList.1 hon)
      rw [hnews, ← hmade]
      rfl
    · cases hon
  · intro delivery hmem
    obtain ⟨⟨path, entry⟩, -, hnews⟩ := List.mem_flatMap.1 hmem
    obtain ⟨news, -, rfl⟩ := List.mem_map.1 hnews
    exact hfaithful.listed.snapshot news.topic
  · exact fun path topic news => hfaithful.flush

end Chronicle

end Telephony

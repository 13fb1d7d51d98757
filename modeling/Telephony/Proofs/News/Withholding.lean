import Telephony.Proofs.EntrySteps
import Telephony.Proofs.News.Due

/-!
# Operations that hold news back

Every operation but a flush leaves the news of a change to be told later: what a board gives out and
is not due was given out, and not due, before the operation. What an operation tells at once is gone.
-/

namespace Telephony

namespace Switchboard

/-- The state that a board gives out on a topic, as the news it would make. -/
def state? (board : Switchboard) (path : ModemPath) : Topic → Option News
  | .modem => (board.modem? path).map .modem
  | .sim => (board.sim? path).map .sim
  | .network => (board.network? path).map .network
  | .data => (board.data? path).map .data
  | .codeQuery => none

def isDue (board : Switchboard) (path : ModemPath) (topic : Topic) : Bool :=
  (board.entry? path).any (·.isDue topic)

theorem state?_eq (board : Switchboard) (path : ModemPath) (topic : Topic) :
    board.state? path topic = (board.entry? path).bind (·.shown topic) := by
  unfold state? modem? sim? network? data?
  cases hentry : board.entry? path with
  | none => cases topic <;> rfl
  | some entry =>
    cases topic with
    | modem | codeQuery => rfl
    | sim | network | data => simp [Entry.shown, Function.comp_def]

theorem state?_of_entry {board : Switchboard} {path : ModemPath} {entry : Entry}
    (hentry : board.entry? path = some entry) (topic : Topic) :
    board.state? path topic = entry.shown topic := by
  rw [state?_eq, hentry, Option.bind_some]

theorem state?_of_unknown {board : Switchboard} {path : ModemPath}
    (hentry : board.entry? path = none) (topic : Topic) : board.state? path topic = none := by
  rw [state?_eq, hentry, Option.bind_none]

/-- A step of a board that loses no change: what it shows and is not due was shown and not due, and
what it tells at once is gone. -/
structure Withholds (before after : Switchboard) (deliveries : List Delivery) : Prop where
  rests : ∀ path topic news, after.state? path topic = some news →
    after.isDue path topic = false →
    before.isDue path topic = false ∧
      ∃ old, before.state? path topic = some old ∧ old.Agrees news
  gone : ∀ delivery ∈ deliveries, after.state? delivery.path delivery.news.topic = none

variable {board before after : Switchboard} {deliveries : List Delivery}

theorem Withholds.of_entries
    (hentries : ∀ path new, after.entry? path = some new →
      (∃ old, before.entry? path = some old ∧ ∀ topic, old.Rests topic new) ∨
        ∀ topic, (new.shown topic).isSome → new.isDue topic = true)
    (hgone : ∀ delivery ∈ deliveries, after.state? delivery.path delivery.news.topic = none) :
    before.Withholds after deliveries := by
  refine ⟨fun path topic news hnews hquiet => ?_, hgone⟩
  cases hafter : after.entry? path with
  | none => cases (state?_of_unknown hafter topic).symm.trans hnews
  | some new =>
    rw [state?_of_entry hafter] at hnews
    have hresting : new.isDue topic = false := by simpa [isDue, hafter] using hquiet
    rcases hentries path new hafter with ⟨old, hbefore, hrests⟩ | hdue
    · obtain ⟨hquieted, earlier, hearlier, hagrees⟩ := hrests topic news hnews hresting
      exact ⟨by simpa [isDue, hbefore] using hquieted, earlier,
        (state?_of_entry hbefore topic).trans hearlier, hagrees⟩
    · rw [hdue topic (Option.isSome_of_eq_some hnews)] at hresting
      cases hresting

/-- What an operation makes of an entry that was there rests on it; of a modem that is new nothing
was shown, and all of it is due. -/
theorem rests_of_makes {operation : Operation} {path : ModemPath} {new : Entry}
    (hmakes : board.Makes operation path new) :
    (∃ old, board.entry? path = some old ∧ ∀ topic, old.Rests topic new) ∨
      ∀ topic, (new.shown topic).isSome → new.isDue topic = true := by
  cases hmakes with
  | kept requests hentry hpending =>
    refine .inl ⟨_, hentry, fun topic => ?_⟩
    exact (Entry.Ages.of_eq (by cases topic <;> rfl) (by cases topic <;> rfl)).rests
  | added properties hoperation =>
    cases hentry : board.entry? path with
    | some old =>
      exact .inl ⟨old, rfl, Entry.rests_changeAll_mark board.observers path old properties⟩
    | none => exact .inr fun topic => Entry.isDue_new board.observers path properties
  | changed change hentry hoperation =>
    exact .inl ⟨_, hentry, (Entry.defers_change board.observers path _ change).withholds.rests⟩
  | loaded interface result hentry hoperation =>
    exact .inl ⟨_, hentry, (Entry.withholds_loadEntry path board interface result _).rests⟩

/-! ### What is told at once -/

theorem gone_onEntry (board : Switchboard) (path : ModemPath) (step : Entry → Entry × Outcome)
    (hstep : ∀ entry : Entry, entry.Withholds path (step entry)) :
    ∀ delivery ∈ (board.onEntry path step).2.deliveries,
      Switchboard.state? (board.onEntry path step).1 delivery.path delivery.news.topic = none := by
  intro delivery hmem
  have hlookup := lookup_onEntry board path step path
  rw [if_pos rfl] at hlookup
  unfold onEntry at hmem
  cases hentry : board.entry? path with
  | none =>
    rw [hentry] at hmem
    cases hmem
  | some entry =>
    rw [hentry] at hmem
    obtain ⟨hpath, hgone⟩ := (hstep entry).gone delivery hmem
    rw [hpath, state?_of_entry (hlookup.trans (congrArg _ hentry))]
    exact hgone

theorem gone_addModem (board : Switchboard) (path : ModemPath) (properties : List Change) :
    ∀ delivery ∈ (board.addModem path properties).2.deliveries,
      Switchboard.state? (board.addModem path properties).1 delivery.path delivery.news.topic =
        none := by
  intro delivery hmem
  have hchanged := Entry.defers_changeAll board.observers path
    ((board.entry? path).getD .new) properties
  have hadded := lookup_addModem board path properties path
  rw [if_pos rfl] at hadded
  have htold : delivery ∈ (((board.entry? path).getD .new).changeAll board.observers path
      properties).2.deliveries := by
    unfold addModem at hmem
    cases hknown : board.knows path <;> simpa [hknown, Outcome.ofEffect] using hmem
  obtain ⟨hpath, hgone⟩ := hchanged.gone delivery htold
  rw [hpath, state?_of_entry hadded, Entry.shown_mark]
  exact hgone

theorem path_deliveries_removeModem (board : Switchboard) (path : ModemPath) :
    ∀ delivery ∈ (board.removeModem path).2.deliveries, delivery.path = path := by
  intro delivery hmem
  unfold removeModem at hmem
  cases hentry : board.entry? path with
  | none =>
    rw [hentry] at hmem
    cases hmem
  | some entry =>
    simp only [hentry, Outcome.deliveries_append, List.mem_append] at hmem
    rcases hmem with hdetached | hself
    · exact ((Entry.defers_detachAll board.observers path entry _).gone delivery hdetached).1
    · rw [List.mem_singleton.1 hself]
      rfl

/-- Modems may be gone, and only of those anything was told; the others are as they were. -/
structure Thins (before : Switchboard) (result : Switchboard × Outcome) : Prop where
  left : ∀ path, Switchboard.entry? result.1 path = none ∨
    Switchboard.entry? result.1 path = before.entry? path
  told : ∀ delivery ∈ result.2.deliveries, Switchboard.entry? result.1 delivery.path = none

theorem Thins.removeModem {outcome : Outcome} (hthins : before.Thins (after, outcome))
    (path : ModemPath) :
    before.Thins ((after.removeModem path).1, outcome ++ (after.removeModem path).2) where
  left other := by
    rw [lookup_removeModem]
    split
    · exact .inl rfl
    · exact hthins.left other
  told delivery hmem := by
    rw [lookup_removeModem]
    split
    · rfl
    · next hne =>
      rcases List.mem_append.1 hmem with hearly | hlate
      · exact hthins.told delivery hearly
      · exact absurd (path_deliveries_removeModem after path delivery hlate).symm hne

/-- No operation but a flush makes out news, and none loses a change. -/
theorem withholds_perform (board : Switchboard) {operation : Operation}
    (hoperation : operation ≠ .flush) :
    board.Withholds (board.perform operation) (board.delivers operation) := by
  refine .of_entries (fun path new hnew => rests_of_makes (makes_of_perform hoperation hnew)) ?_
  cases operation with
  | flush => exact absurd rfl hoperation
  | apply event =>
    cases event with
    | modemAdded path properties => exact gone_addModem board path properties
    | modemRemoved path =>
      intro delivery hmem
      apply state?_of_unknown
      rw [path_deliveries_removeModem board path delivery hmem]
      exact (lookup_removeModem board path path).trans (if_pos rfl)
    | propertyChanged path change =>
      exact gone_onEntry board path _ fun entry =>
        (Entry.defers_change board.observers path entry change).withholds
  | loaded path interface result =>
    have hgone := gone_onEntry board path (board.loadEntry path interface result)
      (Entry.withholds_loadEntry path board interface result)
    obtain ⟨drains, hloaded⟩ := loaded_eq board path interface result
    simp only [perform, delivers, hloaded]
    exact hgone
  | clear =>
    have hcleared : board.Thins board.clear :=
      clear_keeps board.Thins (fun _ _ path hthins => hthins.removeModem path)
        ⟨fun _ => .inr rfl, fun _ hmem => absurd hmem List.not_mem_nil⟩
    intro delivery hmem
    exact state?_of_unknown (hcleared.told delivery hmem) _
  | submit | nextQueued | beginCall | arm | finishCall | cancel | subscribe | unsubscribe
  | beginSession | endSession => exact fun _ hmem => absurd hmem List.not_mem_nil

end Switchboard

end Telephony

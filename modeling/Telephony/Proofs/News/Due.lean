import Telephony.Proofs.Operations

/-!
# News that are due

What is kept about a modem on a topic, and whether news of it are due. No change gets lost: what is
shown and not due was shown, and not due, before the change. The one change that makes nothing due
is that of a signal strength whose technology is unknown. What is told at once, without waiting for
a flush, tells of something that is gone.
-/

namespace Telephony

/-- The same news, but for the strength of a signal whose technology is unknown. -/
inductive News.Agrees : News → News → Prop
  | same (news : News) : Agrees news news
  | strength {state : Network.State} (percent : UInt8) (hrat : state.rat = .unknown) :
    Agrees (.network { state with strength := percent }) (.network state)

theorem News.Agrees.trans {first second third : News} (hfirst : first.Agrees second)
    (hsecond : second.Agrees third) : first.Agrees third := by
  cases hsecond with
  | same => exact hfirst
  | strength percent hrat =>
    cases hfirst with
    | same => exact .strength percent hrat
    | strength other _ => exact .strength other hrat

/-- The topic on which the state of the interface is told. -/
def Interface.topic? : Interface → Option Topic
  | .modem | .voiceCallManager => some .modem
  | .simManager => some .sim
  | .networkRegistration => some .network
  | .connectionManager => some .data
  | .supplementaryServices => none

/-! ### Entries -/

namespace Entry

/-- The state that is kept on a topic, as the news it would make. -/
def shown (entry : Entry) : Topic → Option News
  | .modem => some (.modem entry.modem.state)
  | .sim => entry.sim.map fun sim => .sim sim.tracker.state
  | .network => entry.network.map fun tracker => .network tracker.state
  | .data => entry.data.map fun tracker => .data tracker.state
  | .codeQuery => none

def isDue (entry : Entry) : Topic → Bool
  | .modem => entry.modem.due
  | .sim => entry.sim.any (·.tracker.due)
  | .network => entry.network.any (·.due)
  | .data => entry.data.any (·.due)
  | .codeQuery => false

/-- What the later entry shows on the topic the earlier one shows too, and unless it is due there it
is what was shown and not due. -/
def Ages (topic : Topic) (before after : Entry) : Prop :=
  ∀ news, after.shown topic = some news → ∃ old, before.shown topic = some old ∧
    (after.isDue topic = false → before.isDue topic = false ∧ old.Agrees news)

variable {topic : Topic} {before middle after : Entry}

theorem Ages.of_eq (hshown : after.shown topic = before.shown topic)
    (hdue : after.isDue topic = before.isDue topic) : before.Ages topic after := by
  intro news hnews
  exact ⟨news, hshown ▸ hnews, fun hquiet => ⟨hdue ▸ hquiet, .same news⟩⟩

theorem Ages.refl (entry : Entry) : entry.Ages topic entry := .of_eq rfl rfl

theorem Ages.of_due (hthere : (after.shown topic).isSome → (before.shown topic).isSome)
    (hdue : after.isDue topic = true) : before.Ages topic after := by
  intro news hnews
  obtain ⟨old, hold⟩ := Option.isSome_iff_exists.1 (hthere (Option.isSome_of_eq_some hnews))
  exact ⟨old, hold, fun hquiet => nomatch hdue.symm.trans hquiet⟩

theorem Ages.of_none (hgone : after.shown topic = none) : before.Ages topic after := by
  intro news hnews
  rw [hgone] at hnews
  cases hnews

theorem Ages.trans (hfirst : before.Ages topic middle) (hsecond : middle.Ages topic after) :
    before.Ages topic after := by
  intro news hnews
  obtain ⟨between, hbetween, hlater⟩ := hsecond news hnews
  obtain ⟨old, hold, hearlier⟩ := hfirst between hbetween
  refine ⟨old, hold, fun hquiet => ?_⟩
  obtain ⟨hmiddle, hagrees⟩ := hlater hquiet
  obtain ⟨hbefore, hagreed⟩ := hearlier hmiddle
  exact ⟨hbefore, hagreed.trans hagrees⟩

theorem Ages.gone (hages : before.Ages topic after) (hgone : before.shown topic = none) :
    after.shown topic = none := by
  cases hafter : after.shown topic with
  | none => rfl
  | some news =>
    obtain ⟨old, hold, -⟩ := hages news hafter
    rw [hgone] at hold
    cases hold

/-- A step on the entry of a modem that ages what is shown on every topic, and tells at once only
what is gone, of that modem. -/
structure Defers (path : ModemPath) (before : Entry) (result : Entry × Outcome) : Prop where
  ages : ∀ topic, before.Ages topic result.1
  gone : ∀ delivery ∈ result.2.deliveries,
    delivery.path = path ∧ result.1.shown delivery.news.topic = none

variable {path : ModemPath}

theorem Defers.of_ages {outcome : Outcome} (hages : ∀ topic, before.Ages topic after)
    (hnone : outcome.deliveries = []) : before.Defers path (after, outcome) :=
  ⟨hages, fun _ hmem => absurd (hnone ▸ hmem) List.not_mem_nil⟩

theorem Defers.append {first second : Outcome} (hfirst : before.Defers path (middle, first))
    (hsecond : middle.Defers path (after, second)) :
    before.Defers path (after, first ++ second) where
  ages topic := (hfirst.ages topic).trans (hsecond.ages topic)
  gone delivery hmem := by
    rcases List.mem_append.1 hmem with hearly | hlate
    · obtain ⟨hpath, hgone⟩ := hfirst.gone delivery hearly
      exact ⟨hpath, (hsecond.ages _).gone hgone⟩
    · exact hsecond.gone delivery hlate

variable (observers : Observers) (path : ModemPath)

theorem shown_mark (entry : Entry) (interface : Interface) (topic : Topic) :
    (entry.mark interface).shown topic = entry.shown topic := by
  cases interface <;> cases topic <;> simp [mark, shown] <;> rfl

/-- A mark makes news due on the topic of the interface, if there is a state to be told. -/
theorem isDue_mark (entry : Entry) (interface : Interface) (topic : Topic) :
    (entry.mark interface).isDue topic =
      (entry.isDue topic || (interface.topic? == some topic && (entry.shown topic).isSome)) := by
  cases interface with
  | supplementaryServices => cases topic <;> simp [mark, Interface.topic?]
  | modem | voiceCallManager =>
    cases topic with
    | modem => exact (Bool.or_true _).symm
    | _ => exact (Bool.or_false _).symm
  | simManager =>
    cases topic with
    | sim =>
      unfold mark isDue shown
      cases entry.sim with
      | none => rfl
      | some sim => exact (Bool.or_true _).symm
    | _ => exact (Bool.or_false _).symm
  | networkRegistration =>
    cases topic with
    | network =>
      unfold mark isDue shown
      cases entry.network with
      | none => rfl
      | some tracker => exact (Bool.or_true _).symm
    | _ => exact (Bool.or_false _).symm
  | connectionManager =>
    cases topic with
    | data =>
      unfold mark isDue shown
      cases entry.data with
      | none => rfl
      | some tracker => exact (Bool.or_true _).symm
    | _ => exact (Bool.or_false _).symm

theorem ages_mark (entry : Entry) (interface : Interface) (topic : Topic) :
    entry.Ages topic (entry.mark interface) := by
  intro news hnews
  rw [shown_mark] at hnews
  refine ⟨news, hnews, fun hquiet => ?_⟩
  rw [isDue_mark, Bool.or_eq_false_iff] at hquiet
  exact ⟨hquiet.1, .same news⟩

theorem ages_drop (entry : Entry) (interface : Interface) (topic : Topic) :
    entry.Ages topic (entry.drop observers path interface).1 := by
  cases interface with
  | modem | supplementaryServices => exact .of_eq rfl rfl
  | simManager =>
    cases topic with
    | sim => exact .of_none rfl
    | _ => exact .of_eq rfl rfl
  | networkRegistration =>
    cases topic with
    | network => exact .of_none rfl
    | _ => exact .of_eq rfl rfl
  | connectionManager =>
    cases topic with
    | data => exact .of_none rfl
    | _ => exact .of_eq rfl rfl
  | voiceCallManager =>
    cases topic with
    | modem => exact .of_due (fun _ => rfl) rfl
    | _ => exact .of_eq rfl rfl

theorem defers_detach (entry : Entry) (interface : Interface) :
    entry.Defers path (entry.detach observers path interface) := by
  unfold detach
  split
  · refine ⟨ages_drop observers path entry interface, ?_⟩
    intro delivery hmem
    cases interface with
    | modem | supplementaryServices | voiceCallManager => cases hmem
    | simManager | networkRegistration | connectionManager =>
      rw [List.mem_singleton.1 hmem]
      exact ⟨rfl, rfl⟩
  · exact .of_ages (fun topic => .refl entry) rfl

theorem defers_detachAll (entry : Entry) (interfaces : List Interface) :
    entry.Defers path (entry.detachAll observers path interfaces) := by
  induction interfaces generalizing entry with
  | nil => exact .of_ages (fun topic => .refl entry) rfl
  | cons interface rest ih => exact (defers_detach observers path entry interface).append (ih _)

/-- A change of the modem's own state makes news of it due, and leaves all else. -/
theorem ages_modifyModem (entry : Entry) (f : Modem.State → Modem.State) (topic : Topic) :
    entry.Ages topic { entry with modem := entry.modem.modify f } := by
  cases topic with
  | modem => exact .of_due (fun _ => rfl) rfl
  | _ => exact .of_eq rfl rfl

theorem defers_setInterfaces (entry : Entry) (current : InterfaceSet) :
    entry.Defers path (entry.setInterfaces observers path current) := by
  have hset := ages_modifyModem entry fun state => { state with interfaces := current }
  simp only [setInterfaces]
  split
  · exact .of_ages hset rfl
  · have hgone := defers_detachAll observers path
      { entry with modem := entry.modem.modify fun state => { state with interfaces := current } }
      (entry.modem.state.interfaces.tracked.filter fun i => !current.has i)
    refine (Defers.of_ages hset rfl : entry.Defers path (_, ∅)).append (hgone.append ?_)
    exact .of_ages (fun topic => .refl _) rfl

/-- The strength of a signal is told unless its technology is unknown; all other changes are. -/
theorem ages_setNetwork (entry : Entry) (property : Network.Property) (topic : Topic) :
    entry.Ages topic { entry with network := entry.network.map fun tracker =>
      ⟨tracker.state.set property,
        tracker.due || (tracker.state.set property).tells property⟩ } := by
  cases topic with
  | network =>
    cases hnetwork : entry.network with
    | none => exact .of_none (by simp [shown])
    | some tracker =>
      by_cases htells : (tracker.state.set property).tells property = true
      · exact .of_due (by simp [shown, hnetwork]) (by simp [isDue, htells])
      · -- what is shown has changed and is not due: only the strength may, and then it agrees
        cases property with
        | strength percent =>
          intro news hnews
          have hrat : tracker.state.rat = .unknown := by
            simpa [Network.State.tells, Network.State.set, Network.State.rat] using htells
          simp only [shown, Option.map_some, Option.some.injEq] at hnews
          subst hnews
          refine ⟨.network tracker.state, by simp [shown, hnetwork], fun hquiet => ?_⟩
          have hdue : tracker.due = false := by simpa [isDue, htells] using hquiet
          exact ⟨by simp [isDue, hnetwork, hdue],
            @News.Agrees.strength (tracker.state.set (.strength percent)) _ hrat⟩
        | _ => exact absurd rfl htells
  | _ => exact .of_eq rfl rfl

theorem defers_change (entry : Entry) (change : Change) :
    entry.Defers path (entry.change observers path change) := by
  unfold Entry.change
  split
  · exact defers_setInterfaces observers path entry _
  · exact .of_ages (ages_modifyModem entry _) rfl
  · refine .of_ages (fun topic => ?_) rfl
    split
    · exact ages_modifyModem entry _ topic
    · exact .refl entry
  · refine .of_ages (fun topic => ?_) rfl
    cases topic with
    | sim =>
      cases hsim : entry.sim with
      | none => exact .of_none (by simp [shown])
      | some sim => exact .of_due (by simp [shown, hsim]) (by simp [isDue, Tracker.modify])
    | _ => exact .of_eq rfl rfl
  · exact .of_ages (ages_setNetwork entry _) rfl
  · refine .of_ages (fun topic => ?_) rfl
    cases topic with
    | data =>
      cases hdata : entry.data with
      | none => exact .of_none (by simp [shown])
      | some tracker => exact .of_due (by simp [shown, hdata]) (by simp [isDue, Tracker.modify])
    | _ => exact .of_eq rfl rfl

theorem defers_changeAll (entry : Entry) (changes : List Change) :
    entry.Defers path (entry.changeAll observers path changes) := by
  induction changes generalizing entry with
  | nil => exact .of_ages (fun topic => .refl entry) rfl
  | cons change rest ih => exact (defers_change observers path entry change).append (ih _)

/-! ### Loading -/

/-- Unless it is due, what the later entry shows on the topic is what was shown and not due. Unlike
in `Ages` it may be new, if it is due. -/
def Rests (topic : Topic) (before after : Entry) : Prop :=
  ∀ news, after.shown topic = some news → after.isDue topic = false →
    before.isDue topic = false ∧ ∃ old, before.shown topic = some old ∧ old.Agrees news

theorem Ages.rests (hages : before.Ages topic after) : before.Rests topic after := by
  intro news hnews hquiet
  obtain ⟨old, hold, hearlier⟩ := hages news hnews
  exact ⟨(hearlier hquiet).1, old, hold, (hearlier hquiet).2⟩

structure Withholds (path : ModemPath) (before : Entry) (result : Entry × Outcome) : Prop where
  rests : ∀ topic, before.Rests topic result.1
  gone : ∀ delivery ∈ result.2.deliveries,
    delivery.path = path ∧ result.1.shown delivery.news.topic = none

theorem Defers.withholds {result : Entry × Outcome} (hdefers : before.Defers path result) :
    before.Withholds path result :=
  ⟨fun topic => (hdefers.ages topic).rests, hdefers.gone⟩

theorem ages_attach (epoch : UInt64) (entry : Entry) {interface : Interface}
    (hother : interface.topic? ≠ some topic) :
    entry.Ages topic (entry.attach path epoch interface).1 := by
  cases interface with
  | modem | voiceCallManager => exact .of_eq (by cases topic <;> rfl) (by cases topic <;> rfl)
  | supplementaryServices =>
    cases hrequests : entry.requests with
    | pending queue =>
      cases queue <;> simp only [attach, hrequests] <;>
        exact .of_eq (by cases topic <;> rfl) (by cases topic <;> rfl)
    | draining queue current =>
      simp only [attach, hrequests]
      exact .refl entry
    | direct =>
      simp only [attach, hrequests]
      exact .refl entry
  | simManager | networkRegistration | connectionManager =>
    cases topic <;> first | exact absurd rfl hother | exact .of_eq rfl rfl

/-- What is attached is new at most on the topic of its interface, and there it is marked. -/
theorem withholds_loadEntry (board : Switchboard) (interface : Interface)
    (result : Except Failure (List Change)) (entry : Entry) :
    entry.Withholds path (board.loadEntry path interface result entry) := by
  have hrefused : entry.Withholds path (entry, Switchboard.refusal path interface) := by
    refine (Defers.of_ages (fun topic => .refl entry) ?_).withholds
    unfold Switchboard.refusal
    split <;> rfl
  cases hoffered : entry.offers interface with
  | false => rwa [Switchboard.loadEntry_of_withdrawn hoffered]
  | true =>
    cases result with
    | error failure => rwa [Switchboard.loadEntry_error]
    | ok properties =>
      rw [Switchboard.loadEntry_ok hoffered]
      have hchanged := defers_changeAll board.observers path
        (entry.attach path (board.drains + 1) interface).1 properties
      refine ⟨fun topic => ?_, fun delivery hmem => ?_⟩
      · by_cases hown : interface.topic? = some topic
        · intro news hnews hquiet
          rw [shown_mark] at hnews
          rw [isDue_mark, hown, hnews] at hquiet
          simp at hquiet
        · have hattached := @ages_attach topic path (board.drains + 1) entry interface hown
          exact ((hattached.trans (hchanged.ages topic)).trans (ages_mark _ interface topic)).rests
      · rw [Outcome.deliveries_append, deliveries_attach, List.nil_append] at hmem
        obtain ⟨hpath, hgone⟩ := hchanged.gone delivery hmem
        exact ⟨hpath, (shown_mark _ interface _).trans hgone⟩

theorem rests_changeAll_mark (entry : Entry) (properties : List Change) (topic : Topic) :
    entry.Rests topic ((entry.changeAll observers path properties).1.mark .modem) :=
  (((defers_changeAll observers path entry properties).ages topic).trans (ages_mark _ _ _)).rests

/-- A modem that is new shows only itself, and is marked. -/
theorem isDue_new (properties : List Change)
    (hshown : (((new.changeAll observers path properties).1.mark .modem).shown topic).isSome) :
    ((new.changeAll observers path properties).1.mark .modem).isDue topic = true := by
  have hages := (defers_changeAll observers path new properties).ages topic
  rw [shown_mark] at hshown
  rw [isDue_mark]
  cases topic with
  | modem => simp [Interface.topic?, hshown]
  | _ =>
    rw [hages.gone rfl] at hshown
    cases hshown

end Entry

end Telephony

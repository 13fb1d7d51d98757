import Telephony.Proofs.Lifecycle.Serving
import Telephony.Proofs.Lifecycle.Usage

/-!
# Who is enrolled

The lists of observers hold the registrations that were made and have not been closed, and no token
is given out twice: a token is found when it is closed exactly if it was made and never closed. A
session counts as open as long as its user holds it.
-/

namespace Telephony

variable {δ : Type}

/-! ### Striking out -/

namespace Observers

variable {observers : Observers} {registrations : Registrations} {subscription : Subscription}

theorem setOn_on (observers : Observers) (topic : Topic) :
    observers.setOn (observers.on topic) topic = observers := by
  cases topic <;> rfl

/-- Striking out a token that is not there changes nothing. -/
theorem remove_of_unknown (hunknown : (observers.remove subscription).1 = false) :
    (observers.remove subscription).2 = observers := by
  have hentries : (observers.on subscription.topic).entries.eraseP (·.1 = subscription.id) =
      (observers.on subscription.topic).entries := by
    refine List.eraseP_of_forall_not fun entry hentry => ?_
    have hnone := List.any_eq_false.1 hunknown entry hentry
    exact hnone
  simp only [remove, ObserverList.remove, hentries]
  exact observers.setOn_on subscription.topic

theorem next_remove (observers : Observers) (subscription : Subscription) (topic : Topic) :
    ((observers.remove subscription).2.on topic).next = (observers.on topic).next := by
  simp only [remove, ObserverList.remove, on_setOn]
  split
  · next heq => rw [heq]
  · rfl

theorem le_next_add (observers : Observers) (listener : Listener) (topic other : Topic) :
    (observers.on other).next ≤ ((observers.add topic listener).2.on other).next := by
  simp only [add, ObserverList.add, on_setOn]
  split
  · next heq =>
    rw [heq]
    exact Nat.le_succ _
  · exact Nat.le_refl _

theorem Holds.found_iff (hholds : observers.Holds registrations) :
    (observers.remove subscription).1 = true ↔
      ∃ listener, (subscription, listener) ∈ registrations := by
  have hfound : (observers.remove subscription).1 =
      (observers.on subscription.topic).entries.any (·.1 = subscription.id) := rfl
  rw [hfound, (hholds subscription.topic).2, List.any_map, List.any_eq_true]
  constructor
  · rintro ⟨⟨made, listener⟩, hmade, hid⟩
    obtain ⟨hmem, htopic⟩ := List.mem_filter.1 hmade
    have hsame : made = subscription := by
      cases made
      cases subscription
      simp_all
    exact ⟨listener, hsame ▸ hmem⟩
  · rintro ⟨listener, hmem⟩
    exact ⟨(subscription, listener), List.mem_filter.2 ⟨hmem, by simp⟩, by simp⟩

theorem Holds.isEmpty_iff (hholds : observers.Holds registrations) :
    observers.isEmpty = true ↔ registrations = [] := by
  have hlists : observers.isEmpty = true ↔ ∀ topic, (observers.on topic).entries = [] := by
    simp only [isEmpty, ObserverList.isEmpty, Bool.and_eq_true, List.isEmpty_iff]
    constructor
    · rintro ⟨⟨⟨⟨hmodem, hsim⟩, hnetwork⟩, hdata⟩, hquery⟩ topic
      cases topic <;> assumption
    · intro hall
      exact ⟨⟨⟨⟨hall .modem, hall .sim⟩, hall .network⟩, hall .data⟩, hall .codeQuery⟩
  rw [hlists]
  constructor
  · intro hall
    rw [List.eq_nil_iff_forall_not_mem]
    rintro ⟨made, listener⟩ hmem
    have hnone := hall made.topic
    rw [(hholds made.topic).2, List.map_eq_nil_iff, Registrations.on, List.filter_eq_nil_iff]
      at hnone
    exact hnone (made, listener) hmem (by simp)
  · rintro rfl topic
    rw [(hholds topic).2]
    rfl

end Observers

/-! ### Closing -/

namespace Service

variable [Daemon δ] {service : Service δ} {subscription : Subscription}

theorem close_of_unknown (hunknown : (service.delist subscription).1 = false) :
    service.close subscription = (.error .observerNotFound, service) := by
  have hsame : (service.delist subscription).2 = service := by
    have hobservers : (service.board.observers.remove subscription).2 = service.board.observers :=
      Observers.remove_of_unknown hunknown
    simp only [delist, Switchboard.unsubscribe, hobservers]
  have hstruck : service.delist subscription = (false, service) := Prod.ext hunknown hsame
  simp only [close, hstruck]

theorem close_of_known (hknown : (service.delist subscription).1 = true) :
    service.close subscription = (.ok (), (service.delist subscription).2.stop.2) := by
  have hstruck : service.delist subscription = (true, (service.delist subscription).2) :=
    Prod.ext hknown rfl
  rw [close, hstruck]

end Service

/-! ### Enrolment -/

/-- The registrations that were made and not closed are those on the board, and every token on a
topic is below the next one. -/
structure Switchboard.Enrols (board : Switchboard) (made : Registrations)
    (closed : List Subscription) : Prop where
  holds : board.observers.Holds (made.filter fun (subscription, _) => subscription ∉ closed)
  issued : ∀ subscription listener, (subscription, listener) ∈ made →
    subscription.id.number < (board.observers.on subscription.topic).next
  closed : ∀ subscription ∈ closed, ∃ listener, (subscription, listener) ∈ made

namespace Switchboard.Enrols

variable {board after : Switchboard} {made : Registrations} {closed : List Subscription}

theorem attends (henrols : board.Enrols made closed) (hattends : board.Attends after) :
    after.Enrols made closed where
  holds := hattends.observers ▸ henrols.holds
  issued := hattends.observers ▸ henrols.issued
  closed := henrols.closed

theorem subscribe (henrols : board.Enrols made closed) (topic : Topic) (listener : Listener) :
    (board.subscribe topic listener).2.Enrols
      (made ++ [((board.subscribe topic listener).1, listener)]) closed where
  holds := by
    -- what was closed was made before, so its number is below the new one
    have hnew : (board.subscribe topic listener).1 ∉ closed := by
      intro hclosed
      obtain ⟨other, hmade⟩ := henrols.closed _ hclosed
      exact Nat.lt_irrefl _ (henrols.issued _ other hmade)
    have hkept : [((board.subscribe topic listener).1, listener)].filter
        (fun (subscription, _) => subscription ∉ closed) =
          [((board.subscribe topic listener).1, listener)] := by
      simp [hnew]
    rw [List.filter_append, hkept]
    exact henrols.holds.add topic listener
  issued subscription other hmem := by
    have hgrown := board.observers.le_next_add listener topic subscription.topic
    rcases List.mem_append.1 hmem with hold | hnew
    · exact Nat.lt_of_lt_of_le (henrols.issued subscription other hold) hgrown
    · obtain ⟨rfl, -⟩ := Prod.mk.inj (List.mem_singleton.1 hnew)
      simp [Switchboard.subscribe, Observers.add, ObserverList.add, Observers.on_setOn]
  closed subscription hclosed := by
    obtain ⟨other, hmade⟩ := henrols.closed subscription hclosed
    exact ⟨other, List.mem_append_left _ hmade⟩

theorem unsubscribe (henrols : board.Enrols made closed) {subscription : Subscription}
    (hmade : ∃ listener, (subscription, listener) ∈ made) :
    (board.unsubscribe subscription).2.Enrols made (closed ++ [subscription]) where
  holds := by
    have hremoved := henrols.holds.remove subscription
    rw [List.filter_filter] at hremoved
    refine (congrArg _ (List.filter_congr fun registration _ => ?_)).mp hremoved
    simp [and_comm]
  issued other listener hmem := by
    have hsame := board.observers.next_remove subscription other.topic
    change _ < ((board.observers.remove subscription).2.on other.topic).next
    rw [hsame]
    exact henrols.issued other listener hmem
  closed other hmem := by
    rcases List.mem_append.1 hmem with hold | hnew
    · exact henrols.closed other hold
    · exact List.mem_singleton.1 hnew ▸ hmade

/-- A session's registrations are closed one by one. -/
theorem releaseSession (henrols : board.Enrols made closed) {subscriptions : List Subscription}
    (hmade : ∀ subscription ∈ subscriptions, ∃ listener, (subscription, listener) ∈ made) :
    (board.releaseSession subscriptions).Enrols made (closed ++ subscriptions) := by
  have hstruck : (subscriptions.foldl
      (fun board subscription => (board.unsubscribe subscription).2) board).Enrols made
        (closed ++ subscriptions) := by
    induction subscriptions generalizing board closed with
    | nil => rwa [List.append_nil]
    | cons first rest ih =>
      have hfirst := henrols.unsubscribe (hmade first List.mem_cons_self)
      have hrest := ih hfirst fun subscription hmem => hmade subscription (.tail _ hmem)
      rwa [List.append_assoc] at hrest
  exact ⟨hstruck.holds, hstruck.issued, hstruck.closed⟩

theorem isIdle_iff (henrols : board.Enrols made closed) :
    board.isIdle = true ↔
      made.filter (fun (subscription, _) => subscription ∉ closed) = [] ∧
        board.calls.ids = [] ∧ board.sessionActive = false := by
  rw [isIdle, Bool.and_eq_true, Bool.and_eq_true, Bool.not_eq_true', henrols.holds.isEmpty_iff,
    CallTable.isEmpty_iff, and_assoc]

end Switchboard.Enrols

end Telephony

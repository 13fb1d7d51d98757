import Telephony.Proofs.Requests.Tracking

/-!
# Signals

A token is signalled only after it was given out. So a call that gets its token now is not told to
stop before it has begun.
-/

namespace Telephony

theorem CallTable.token_of_cancel {ω : Type} {table : CallTable ω} {id : CallId} {token : Token}
    (hsignalled : (table.cancel id).1 = .signalled token) :
    ∃ call, table.get? id = some call ∧ call.token = some token := by
  unfold cancel at hsignalled
  split at hsignalled
  · cases hsignalled
  · next origin given hcall =>
    cases hsignalled
    exact ⟨⟨origin, some token⟩, hcall, rfl⟩
  · cases hsignalled

namespace Switchboard

variable {board after : Switchboard}

/-- No token is signalled or stands at a call before it was given out. -/
structure TokensKnown (board : Switchboard) : Prop where
  given : board.TokensGiven
  signalled : ∀ token ∈ board.signalled, token.number < board.tokens

theorem TokensKnown.of_unsignalled (hknown : board.TokensKnown) (hgiven : after.TokensGiven)
    (hsignalled : after.signalled = board.signalled) (htokens : board.tokens ≤ after.tokens) :
    after.TokensKnown := by
  refine ⟨hgiven, fun token hmem => ?_⟩
  rw [hsignalled] at hmem
  exact (hknown.signalled token hmem).trans_le htokens

theorem signalled_removeModem (board : Switchboard) (path : ModemPath) :
    (board.removeModem path).1.signalled = board.signalled ∧
      (board.removeModem path).1.tokens = board.tokens := by
  obtain ⟨modems, hremoved⟩ := board.removeModem_eq path
  rw [hremoved]
  exact ⟨rfl, rfl⟩

theorem signalled_submit (board : Switchboard) (path : ModemPath) (code : String)
    (ticket : Ticket) :
    (board.perform (.submit path code ticket)).signalled = board.signalled ∧
      board.tokens ≤ (board.perform (.submit path code ticket)).tokens := by
  cases hentry : board.entry? path with
  | none =>
    simp only [perform, submit_of_unknown hentry, le_refl, and_self]
  | some entry =>
    by_cases hdirect : entry.requests = .direct
    · simp only [perform, submit_of_direct hentry hdirect]
      exact ⟨rfl, Nat.le_succ _⟩
    · simp only [perform, submit_of_waiting hentry hdirect, le_refl, and_self]

theorem TokensKnown.cancel (hknown : board.TokensKnown) (id : CallId) :
    (board.cancel id).2.TokensKnown := by
  refine ⟨hknown.given.cancel id, fun token hmem => ?_⟩
  change token.number < board.tokens
  unfold Switchboard.cancel at hmem
  simp only at hmem
  split at hmem
  · next given hsignalled =>
    rcases List.mem_cons.1 hmem with rfl | hold
    · obtain ⟨call, hcall, htoken⟩ := CallTable.token_of_cancel hsignalled
      exact hknown.given id call token hcall htoken
    · exact hknown.signalled token hold
  · exact hknown.signalled token hmem

theorem TokensKnown.perform (hknown : board.TokensKnown) (operation : Operation) :
    (board.perform operation).TokensKnown := by
  have hgiven := hknown.given.perform operation
  cases operation with
  | apply event =>
    cases event with
    | modemAdded path properties => exact hknown.of_unsignalled hgiven rfl le_rfl
    | modemRemoved path =>
      obtain ⟨hsignalled, htokens⟩ := board.signalled_removeModem path
      exact hknown.of_unsignalled hgiven hsignalled htokens.ge
    | propertyChanged path change =>
      obtain ⟨modems, hchanged⟩ := board.onEntry_eq path fun entry =>
        entry.change board.observers path change
      have hboard : board.perform (.apply (.propertyChanged path change)) =
          { board with modems } := hchanged
      exact hknown.of_unsignalled hgiven (by rw [hboard]) (by rw [hboard])
  | loaded path interface result =>
    obtain ⟨modems, drains, hloaded⟩ := board.board_loaded path interface result
    have hboard : board.perform (.loaded path interface result) =
        { board with modems, drains } := hloaded
    exact hknown.of_unsignalled hgiven (by rw [hboard]) (by rw [hboard])
  | clear =>
    obtain ⟨hsignalled, htokens⟩ := clear_keeps
      (fun result => result.1.signalled = board.signalled ∧ result.1.tokens = board.tokens)
      (fun before _ path hkept => by
        obtain ⟨hsignalled, htokens⟩ := before.signalled_removeModem path
        exact ⟨hsignalled.trans hkept.1, htokens.trans hkept.2⟩) ⟨rfl, rfl⟩
    exact hknown.of_unsignalled hgiven hsignalled htokens.ge
  | submit path code ticket =>
    obtain ⟨hsignalled, htokens⟩ := board.signalled_submit path code ticket
    exact hknown.of_unsignalled hgiven hsignalled htokens
  | nextQueued path epoch =>
    obtain ⟨modems, hnext⟩ := board.nextQueued_eq path epoch
    have hboard : board.perform (.nextQueued path epoch) = { board with modems } := hnext
    exact hknown.of_unsignalled hgiven (by rw [hboard]) (by rw [hboard])
  | beginCall path => exact hknown.of_unsignalled hgiven rfl (Nat.le_succ _)
  | arm id =>
    refine hknown.of_unsignalled hgiven ?_ ?_ <;>
    · simp only [Switchboard.perform, Switchboard.arm]
      split <;> simp
  | cancel id => exact hknown.cancel id
  | beginSession =>
    refine hknown.of_unsignalled hgiven ?_ ?_ <;>
    · simp only [Switchboard.perform, beginSession]
      cases board.sessionActive <;> simp
  | flush | finishCall _ | subscribe _ _ | unsubscribe _ | endSession =>
    exact hknown.of_unsignalled hgiven rfl le_rfl

theorem tokensKnown_run (operations : List Operation) :
    ((∅ : Switchboard).run operations).TokensKnown := by
  have hempty : (∅ : Switchboard).TokensKnown :=
    ⟨fun _ _ _ hcall => (by cases hcall), fun _ hmem => (by cases hmem)⟩
  exact run_keeps TokensKnown (fun _ operation hknown => hknown.perform operation) hempty operations

theorem TokensKnown.fresh (hknown : board.TokensKnown) : board.isSignalled board.fresh = false :=
  decide_eq_false fun hmem => (hknown.signalled _ hmem).false

end Switchboard

end Telephony

import Telephony.Proofs.EntrySteps

/-!
# What all entries keep

A property that a new entry has, and that no step on an entry takes away, holds of all entries of a
board, whatever operations the board has gone through.
-/

namespace Telephony

/-- A new entry has the property, and every step on an entry keeps it. -/
structure Entry.Lasting (Good : Entry → Prop) : Prop where
  new : Good .new
  mark : ∀ {entry : Entry}, Good entry → ∀ interface, Good (entry.mark interface)
  told : ∀ {entry : Entry}, Good entry → Good entry.told
  attach : ∀ {entry : Entry}, Good entry → ∀ path epoch interface,
    entry.offers interface = true → Good (entry.attach path epoch interface).1
  change : ∀ {entry : Entry}, Good entry → ∀ observers path change,
    Good (entry.change observers path change).1
  requests : ∀ {entry : Entry}, Good entry → ∀ requests,
    requests.isPending = entry.requests.isPending → Good { entry with requests }

namespace Entry.Lasting

variable {Good : Entry → Prop} {entry : Entry}

theorem changeAll (hlasting : Lasting Good) (hgood : Good entry) (observers : Observers)
    (path : ModemPath) (changes : List Change) :
    Good (entry.changeAll observers path changes).1 := by
  induction changes generalizing entry with
  | nil => exact hgood
  | cons change rest ih => exact ih (hlasting.change hgood observers path change)

theorem loadEntry (hlasting : Lasting Good) (hgood : Good entry) (board : Switchboard)
    (path : ModemPath) (interface : Interface) (result : Except Failure (List Change)) :
    Good (board.loadEntry path interface result entry).1 := by
  cases hoffered : entry.offers interface with
  | false => rwa [Switchboard.loadEntry_of_withdrawn hoffered]
  | true =>
    cases result with
    | error failure => rwa [Switchboard.loadEntry_error]
    | ok properties =>
      have hattached := hlasting.attach hgood path (board.drains + 1) interface hoffered
      rw [Switchboard.loadEntry_ok hoffered]
      exact hlasting.mark (hlasting.changeAll hattached board.observers path properties) interface

end Entry.Lasting

namespace Switchboard

/-- All entries of the board have the property. -/
def Every (board : Switchboard) (Good : Entry → Prop) : Prop :=
  ∀ path entry, board.entry? path = some entry → Good entry

variable {board : Switchboard} {Good : Entry → Prop} {path : ModemPath} {entry : Entry}

theorem Every.getD_new (hevery : board.Every Good) (hnew : Good .new) (path : ModemPath) :
    Good ((board.entry? path).getD .new) := by
  cases hentry : board.entry? path with
  | none => exact hnew
  | some entry => exact hevery path entry hentry

theorem Every.perform (hevery : board.Every Good) (hlasting : Entry.Lasting Good)
    (operation : Operation) : (board.perform operation).Every Good := by
  intro path entry hentry
  by_cases hflush : operation = .flush
  · subst hflush
    obtain ⟨before, hbefore, rfl⟩ :=
      Option.map_eq_some_iff.1 ((board.lookup_flush path).symm.trans hentry)
    exact hlasting.told (hevery path before hbefore)
  · cases makes_of_perform hflush hentry with
    | kept requests hbefore hpending =>
      exact hlasting.requests (hevery path _ hbefore) requests hpending
    | added properties =>
      have hbefore := hevery.getD_new hlasting.new path
      exact hlasting.mark (hlasting.changeAll hbefore board.observers path properties) .modem
    | changed change hbefore =>
      exact hlasting.change (hevery path _ hbefore) board.observers path change
    | loaded interface result hbefore =>
      exact hlasting.loadEntry (hevery path _ hbefore) board path interface result

theorem every_empty (Good : Entry → Prop) : (∅ : Switchboard).Every Good := by
  intro path entry hentry
  cases hentry

theorem Every.run (hevery : board.Every Good) (hlasting : Entry.Lasting Good)
    (operations : List Operation) : (board.run operations).Every Good :=
  run_keeps (·.Every Good) (fun _ operation hkept => hkept.perform hlasting operation) hevery
    operations

end Switchboard

namespace Service

variable {δ : Type} {before after : Service δ}

theorem Leads.every {Good : Entry → Prop} (hleads : before.Leads after)
    (hlasting : Entry.Lasting Good) (hevery : before.board.Every Good) :
    after.board.Every Good := by
  obtain ⟨operations, hboard⟩ := hleads
  rw [hboard]
  exact hevery.run hlasting operations

end Service

end Telephony

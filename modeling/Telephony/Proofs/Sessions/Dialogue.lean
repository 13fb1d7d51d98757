import Telephony.CodeSession.Open
import Telephony.Proofs.Requests.Ledger

/-!
# Dialogues

A code session on its service, and everything that may happen to the two, in any order: the session
goes a step further, whoever answers its dialogs does so, the service takes in events and tells its
news, the session hears of them, and the daemon changes as it likes.
-/

namespace Telephony

variable {δ : Type}

namespace CodeSession

/-- The modem that a note is about. -/
def Note.path? : Note → Option ModemPath
  | status path _ => some path
  | codeQuery path _ => some path
  | changeCode _ => none
  | activated => none

/-- The modem that a session serves once it has taken up the notes: the one it serves already, else
the first that a note is about. -/
def follows (followed : Option ModemPath) (notes : List Note) : Option ModemPath :=
  followed <|> notes.findSome? Note.path?

end CodeSession

open CodeSession (Note)

/-- The note that a piece of news becomes for the session of a number. -/
def noteFor (number : Nat) (hearing : Hearing) : Option Note :=
  if hearing.listener = .session number then CodeSession.noteOf hearing.path hearing.news else none

structure Dialogue (δ : Type) where
  service : Service δ
  session : CodeSession
  number : Nat
  /-- The service has told its news since the session last took up a note or tried a code. -/
  told : Bool

/-- What may happen next in a dialogue. -/
inductive Turn (δ : Type) where
  /-- The session takes up its next note. -/
  | next
  | answer (code : Option String)
  /-- The attempt of the session goes to the SIM. -/
  | submit
  /-- The session goes on after it has waited for the service to settle, which by then may have
  taken in more. -/
  | settled
  | commandEnded
  | process (event : Event)
  | flush
  /-- What was told to the session becomes its notes. -/
  | hear
  | daemon (next : δ)
  | setActive (on : Bool)
  | changeCode (number : Nat)
  | checkEmergency (digits : String)

namespace Dialogue

def board (dialogue : Dialogue δ) : Switchboard := dialogue.service.board

/-- The notes that the session has not taken up, those first that it has heard already. -/
def pending (dialogue : Dialogue δ) : List Note :=
  dialogue.session.notes ++ dialogue.service.heard.filterMap (noteFor dialogue.number)

def modem? (dialogue : Dialogue δ) : Option ModemPath :=
  CodeSession.follows dialogue.session.followed dialogue.pending

variable [Daemon δ]

/-- The dialogue of a session that was opened on a service. -/
def Opened (dialogue : Dialogue δ) (daemon : δ) (options : CodeOptions) (startup : Bool) : Prop :=
  (Service.stopped daemon).openSession dialogue.number options startup =
    (.ok dialogue.session, dialogue.service)

def step (dialogue : Dialogue δ) : Turn δ → Dialogue δ
  | .next =>
    match dialogue.session.next dialogue.board with
    | some (session, _) => { dialogue with session, told := false }
    | none => dialogue
  | .answer code => { dialogue with session := (dialogue.session.answer code).1 }
  | .submit =>
    match dialogue.session.phase with
    | .submitting attempt =>
      let (result, service) := dialogue.service.attempt attempt
      { dialogue with
        service
        session := (dialogue.session.attempted service.board result).1
        told := false }
    | _ => dialogue
  | .settled =>
    if dialogue.told then
      { dialogue with session := (dialogue.session.settled dialogue.board).1 }
    else dialogue
  | .commandEnded => { dialogue with session := dialogue.session.commandEnded.1 }
  | .process event => { dialogue with service := dialogue.service.process event }
  | .flush => { dialogue with service := dialogue.service.flush, told := true }
  | .hear =>
    { dialogue with
      service := { dialogue.service with heard := [] }
      session := { dialogue.session with notes := dialogue.pending } }
  | .daemon next => { dialogue with service := { dialogue.service with daemon := next } }
  | .setActive on => { dialogue with session := dialogue.session.setActive on }
  | .changeCode number => { dialogue with session := dialogue.session.post (.changeCode number) }
  | .checkEmergency digits =>
    { dialogue with session := (dialogue.session.checkEmergency dialogue.board digits).2 }

def run (dialogue : Dialogue δ) (turns : List (Turn δ)) : Dialogue δ := turns.foldl step dialogue

/-- The turns in which a session waits for the service to settle. -/
def settling (dialogue : Dialogue δ) : List (Turn δ) :=
  let (burst, daemon) := Daemon.receive dialogue.service.daemon
  .daemon daemon :: burst.map .process ++ [.flush, .hear, .settled]

/-- An idle session takes up the first of its notes. -/
theorem step_next {dialogue : Dialogue δ} {note : Note} {notes : List Note}
    (hidle : dialogue.session.phase = .idle) (hnotes : dialogue.session.notes = note :: notes) :
    dialogue.step .next = { dialogue with
      session := ({ dialogue.session with notes }.take dialogue.board note).1
      told := false } := by
  simp [step, CodeSession.next, hidle, hnotes]

theorem run_append (dialogue : Dialogue δ) (first rest : List (Turn δ)) :
    dialogue.run (first ++ rest) = (dialogue.run first).run rest := List.foldl_append

theorem run_process (dialogue : Dialogue δ) (events : List Event) :
    dialogue.run (events.map .process) =
      { dialogue with service := events.foldl Service.process dialogue.service } := by
  induction events generalizing dialogue with
  | nil => rfl
  | cons event rest ih => exact ih (dialogue.step (.process event))

theorem run_settling (dialogue : Dialogue δ) (hrunning : dialogue.service.running = true) :
    (dialogue.run dialogue.settling).service = { dialogue.service.settle with heard := [] } := by
  rcases hreceived : Daemon.receive dialogue.service.daemon with ⟨burst, daemon⟩
  have hsettle : dialogue.service.settle =
      ({ dialogue.service with daemon } : Service δ).wake burst := by
    rw [Service.settle, if_pos hrunning, hreceived]
  have hturns : dialogue.run dialogue.settling =
      ((dialogue.step (.daemon daemon)).run (burst.map .process)).run [.flush, .hear, .settled] := by
    rw [settling, hreceived]
    exact run_append _ _ _
  rw [hturns, hsettle, run_process]
  rfl

end Dialogue

/-! ### News of events -/

/-- Only a flush tells that a SIM begins to wait for a code. -/
def Outcome.Plain (outcome : Outcome) : Prop :=
  ∀ delivery ∈ outcome.deliveries, ∀ status, delivery.news ≠ .codeQuery status

namespace Outcome.Plain

theorem empty : Outcome.Plain ∅ := fun _ hmem => absurd hmem List.not_mem_nil

theorem of_nil {outcome : Outcome} (hnone : outcome.deliveries = []) : outcome.Plain :=
  fun _ hmem => absurd (hnone ▸ hmem) List.not_mem_nil

theorem append {a b : Outcome} (ha : a.Plain) (hb : b.Plain) : (a ++ b).Plain := by
  intro delivery hmem
  rcases List.mem_append.1 hmem with hfirst | hsecond
  · exact ha delivery hfirst
  · exact hb delivery hsecond

end Outcome.Plain

namespace Entry

variable (observers : Observers) (path : ModemPath)

theorem plain_detach (entry : Entry) (interface : Interface) :
    (entry.detach observers path interface).2.Plain := by
  unfold detach
  split
  · intro delivery hmem status
    cases interface <;> simp_all [drop, Observers.deliver]
  · exact .empty

theorem plain_detachAll (entry : Entry) (interfaces : List Interface) :
    (entry.detachAll observers path interfaces).2.Plain := by
  induction interfaces generalizing entry with
  | nil => exact .empty
  | cons interface rest ih => exact (plain_detach observers path entry interface).append (ih _)

theorem plain_setInterfaces (entry : Entry) (current : InterfaceSet) :
    (entry.setInterfaces observers path current).2.Plain := by
  simp only [setInterfaces]
  split
  · exact .empty
  · exact (plain_detachAll observers path _ _).append (.of_nil rfl)

theorem plain_change (entry : Entry) (change : Change) :
    (entry.change observers path change).2.Plain := by
  unfold Entry.change
  split
  · exact plain_setInterfaces observers path entry _
  all_goals exact .empty

theorem plain_changeAll (entry : Entry) (changes : List Change) :
    (entry.changeAll observers path changes).2.Plain := by
  induction changes generalizing entry with
  | nil => exact .empty
  | cons change rest ih => exact (plain_change observers path entry change).append (ih _)

end Entry

namespace Switchboard

theorem plain_onEntry (board : Switchboard) (path : ModemPath) (step : Entry → Entry × Outcome)
    (hstep : ∀ entry, (step entry).2.Plain) : (board.onEntry path step).2.Plain := by
  unfold onEntry
  cases board.entry? path with
  | none => exact .empty
  | some entry => exact hstep entry

theorem plain_loadEntry (board : Switchboard) (path : ModemPath) (interface : Interface)
    (result : Except Failure (List Change)) (entry : Entry) :
    (board.loadEntry path interface result entry).2.Plain := by
  have hrefusal : (refusal path interface).Plain := by
    unfold refusal
    split
    · exact .empty
    · exact .of_nil rfl
  cases hoffered : entry.offers interface with
  | false =>
    rw [loadEntry_of_withdrawn hoffered]
    exact hrefusal
  | true =>
    cases result with
    | error failure =>
      rw [loadEntry_error]
      exact hrefusal
    | ok properties =>
      rw [loadEntry_ok hoffered]
      exact .append (.of_nil (Entry.deliveries_attach path _ entry interface))
        (Entry.plain_changeAll _ path _ _)

theorem plain_loaded (board : Switchboard) (path : ModemPath) (interface : Interface)
    (result : Except Failure (List Change)) : (board.loaded path interface result).2.Plain := by
  obtain ⟨drains, hloaded⟩ := loaded_eq board path interface result
  rw [hloaded]
  exact plain_onEntry board path _ (plain_loadEntry board path interface result)

theorem plain_apply (board : Switchboard) (event : Event) : (board.apply event).2.Plain := by
  cases event with
  | modemAdded path properties =>
    simp only [apply, addModem]
    refine .append ?_ (Entry.plain_changeAll board.observers path _ properties)
    split
    · exact .empty
    · exact .of_nil rfl
  | modemRemoved path =>
    simp only [apply]
    cases hentry : board.entry? path with
    | none =>
      rw [removeModem_of_unknown hentry]
      exact .empty
    | some entry =>
      simp only [removeModem, hentry]
      refine (Entry.plain_detachAll board.observers path entry _).append ?_
      intro delivery hmem status
      rw [List.mem_singleton.1 hmem]
      intro hnews
      cases hnews
  | propertyChanged path change =>
    exact plain_onEntry board path _ fun entry =>
      Entry.plain_change board.observers path entry change

end Switchboard

/-! ### What the service tells meanwhile -/

namespace Service

/-- The service has told news since, none of a SIM that begins to wait for a code. -/
def ToldPlain (service after : Service δ) : Prop :=
  ∃ news, after.heard = service.heard ++ news ∧
    ∀ hearing ∈ news, ∀ status, hearing.news ≠ .codeQuery status

namespace ToldPlain

theorem of_heard {service after : Service δ} (hheard : after.heard = service.heard) :
    service.ToldPlain after :=
  ⟨[], by rw [hheard, List.append_nil], fun _ hmem => absurd hmem List.not_mem_nil⟩

theorem trans {first second third : Service δ} (hfirst : first.ToldPlain second)
    (hsecond : second.ToldPlain third) : first.ToldPlain third := by
  obtain ⟨news, hnews, hplain⟩ := hfirst
  obtain ⟨more, hmore, hplains⟩ := hsecond
  refine ⟨news ++ more, by rw [hmore, hnews, List.append_assoc], fun hearing hmem => ?_⟩
  rcases List.mem_append.1 hmem with hold | hnew
  · exact hplain hearing hold
  · exact hplains hearing hnew

end ToldPlain

/-- What the service tells are its deliveries, each to some listeners. -/
theorem heard_deliverAll (service : Service δ) (deliveries : List Delivery) :
    ∃ news, (service.deliverAll deliveries).heard = service.heard ++ news ∧
      ∀ hearing ∈ news, ∃ delivery ∈ deliveries,
        hearing.path = delivery.path ∧ hearing.news = delivery.news := by
  unfold deliverAll
  induction deliveries generalizing service with
  | nil => exact ⟨[], (List.append_nil _).symm, fun _ hmem => absurd hmem List.not_mem_nil⟩
  | cons delivery rest ih =>
    obtain ⟨news, hheard, hmade⟩ := ih (service.deliver delivery)
    refine ⟨_ ++ news, hheard.trans (List.append_assoc _ _ _), fun hearing hmem => ?_⟩
    rcases List.mem_append.1 hmem with hfirst | hrest
    · obtain ⟨listener, -, rfl⟩ := List.mem_map.1 hfirst
      exact ⟨delivery, List.mem_cons_self, rfl, rfl⟩
    · obtain ⟨other, hother, hsame⟩ := hmade hearing hrest
      exact ⟨other, .tail _ hother, hsame⟩

theorem toldPlain_deliverAll (service : Service δ) {deliveries : List Delivery}
    (hplain : ∀ delivery ∈ deliveries, ∀ status, delivery.news ≠ .codeQuery status) :
    service.ToldPlain (service.deliverAll deliveries) := by
  obtain ⟨news, hheard, hmade⟩ := service.heard_deliverAll deliveries
  refine ⟨news, hheard, fun hearing hmem status => ?_⟩
  obtain ⟨delivery, hdelivery, -, hnews⟩ := hmade hearing hmem
  rw [hnews]
  exact hplain delivery hdelivery status

theorem heard_flush (service : Service δ) :
    ∃ news, service.flush.heard = service.heard ++ news ∧
      ∀ hearing ∈ news, ∃ delivery ∈ service.board.flush.2,
        hearing.path = delivery.path ∧ hearing.news = delivery.news :=
  heard_deliverAll { service with board := service.board.flush.1 } service.board.flush.2

variable [Daemon δ]

theorem toldPlain_carryOut (service : Service δ) (effect : Effect) :
    service.ToldPlain (service.carryOut effect).1 := by
  cases effect with
  | watch path interface =>
    change service.ToldPlain (service.load path interface).1
    rw [load_eq]
    exact toldPlain_deliverAll _ (service.board.plain_loaded path interface _)
  | unwatch path interface => exact .of_heard rfl
  | replay path epoch => exact .of_heard rfl
  | fail path requests =>
    obtain ⟨answered, hfail⟩ := service.fail_eq path requests
    rw [hfail]
    exact .of_heard rfl

/-- Taking in an event tells the end of interfaces at most. -/
theorem toldPlain_process (service : Service δ) (event : Event) :
    service.ToldPlain (service.process event) := by
  let board := (service.board.apply event).1
  let outcome := (service.board.apply event).2
  have hboard : service.ToldPlain { service with board } := .of_heard rfl
  have hdelivered := hboard.trans (toldPlain_deliverAll _ (service.board.plain_apply event))
  have hprocess : service.process event =
      settleEffects 3 (({ service with board } : Service δ).deliverAll outcome.deliveries)
        outcome.effects := rfl
  rw [hprocess]
  exact settleEffects_keeps service.ToldPlain
    (fun later effect htold => htold.trans (later.toldPlain_carryOut effect)) hdelivered 3 _

end Service

/-- The status of a SIM needs a code and did not at its last news, and its news are due: the next
flush tells that it begins to wait for a code. -/
def Switchboard.BeginsToWait (board : Switchboard) (path : ModemPath) : Prop :=
  ∃ sim, (board.entry? path).bind (·.sim) = some sim ∧ sim.tracker.due = true ∧
    sim.codeQuery.isSome = true

instance (board : Switchboard) (path : ModemPath) : Decidable (board.BeginsToWait path) :=
  decidable_of_iff
    (((board.entry? path).bind (·.sim)).any fun sim => sim.tracker.due && sim.codeQuery.isSome)
    (by simp [Switchboard.BeginsToWait, Option.any_eq_true])

theorem Switchboard.beginsToWait_of_flush {board : Switchboard} {delivery : Delivery}
    {status : Sim.Status} (hmem : delivery ∈ board.flush.2)
    (hquery : delivery.news = .codeQuery status) : board.BeginsToWait delivery.path := by
  obtain ⟨⟨path, entry⟩, hentry, hnews⟩ := List.mem_flatMap.1 hmem
  obtain ⟨news, hmade, rfl⟩ := List.mem_map.1 hnews
  change news = .codeQuery status at hquery
  subst hquery
  have hknown : board.entry? path = some entry := Table.get?_eq_some_iff.2 hentry
  cases hsim : entry.sim with
  | none => simp [Entry.news, hsim] at hmade
  | some sim =>
    by_cases hdue : sim.tracker.due = true
    · refine ⟨sim, by simp [Observers.deliver, hknown, hsim], hdue, ?_⟩
      simp [Entry.news, hsim, Option.filter, hdue, Entry.simNews] at hmade
      rw [hmade]
      rfl
    · simp [Entry.news, hsim, Option.filter, hdue] at hmade

end Telephony

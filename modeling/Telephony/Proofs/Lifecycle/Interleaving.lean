import Telephony.Proofs.Lifecycle.Enrolment
import Telephony.Simulator.Basic
import Mathlib.Data.List.Induction

/-!
# Registrations and stops at the same time

Several users share a service, and what one of them does comes between the strides of another. Two
locks are taken: one for the life of the service, held from the beginning to the end of a start and
of a stop, and one for the board, held for a moment at a time. A registration brings the service up
under the first, lets go of it, and enters its listener under the second. A stop looks at the board
and clears it while it holds the first, but entries need only the second.

So a stop may pass between the two strides of a registration, and the entry is then made on a service
that is down. No listener is left with a service that is down in any other way.
-/

namespace Telephony

variable {δ : Type}

/-! ### Strides -/

/-- What goes on in a service that has nothing to do with its life. -/
inductive Work (δ : Type) where
  | submit (path : ModemPath) (code : String) (ticket : Ticket)
  | listOperators (path : ModemPath) (scan : Bool) (ticket : Ticket)
  | turn (index : Nat)
  | process (event : Event)
  | flush
  /-- The daemon changes by itself. -/
  | daemon (next : δ)

inductive Stride (δ : Type) where
  /-- The first half of a registration: the service is brought up. -/
  | get (topic : Topic) (listener : Listener)
  /-- The second half of a registration that has got through its first. -/
  | enter (index : Nat)
  /-- The first half of a closing; a stop is the second. -/
  | strike (subscription : Subscription)
  /-- The first half of a stop: if nobody needs the service, its end is settled. -/
  | check
  /-- The second half of a stop: the board is cleared and the daemon left. -/
  | clear
  | work (work : Work δ)

/-- A service, and how far its users have got with it. -/
structure Crowd (δ : Type) where
  service : Service δ
  /-- A stop has got through its first half, and still holds the lock. -/
  stopping : Bool
  /-- The registrations that have got through their first half. -/
  admitted : List (Topic × Listener)
  /-- The registrations that were returned and have not been closed. -/
  opened : Registrations

variable [Daemon δ]

def Service.perform (service : Service δ) : Work δ → Service δ
  | .submit path code ticket => (service.submit path code ticket).2
  | .listOperators path scan ticket => (service.listOperators path scan ticket).2
  | .turn index => service.turnAt index
  | .process event => service.process event
  | .flush => service.flush
  | .daemon next => { service with daemon := next }

/-- What a stop does once it is settled. -/
def Service.shut (service : Service δ) : Service δ :=
  { service.cleared with
    daemon := Daemon.disconnect service.cleared.daemon
    running := false
    roster := service.cleared.roster.set [] }

namespace Crowd

omit [Daemon δ] in
def opening (daemon : δ) : Crowd δ := ⟨.stopped daemon, false, [], []⟩

omit [Daemon δ] in
/-- The service is up until its end is settled. -/
def up (crowd : Crowd δ) : Bool := crowd.service.running && !crowd.stopping

/-- A start, and the first half of a stop, wait for the lock: before that they are no strides. -/
def step (crowd : Crowd δ) : Stride δ → Crowd δ
  | .get topic listener =>
    if crowd.stopping then crowd
    else
      match crowd.service.start with
      | (.error _, service) => { crowd with service }
      | (.ok (), service) =>
        { crowd with service, admitted := crowd.admitted ++ [(topic, listener)] }
  | .enter index =>
    match crowd.admitted[index]? with
    | none => crowd
    | some (topic, listener) =>
      let (subscription, service) := crowd.service.enlist topic listener
      { crowd with
        service
        admitted := crowd.admitted.eraseIdx index
        opened := crowd.opened ++ [(subscription, listener)] }
  | .strike subscription =>
    { crowd with
      service := (crowd.service.delist subscription).2
      opened := crowd.opened.filter (·.1 ≠ subscription) }
  | .check => if crowd.service.board.isIdle && crowd.up then { crowd with stopping := true } else crowd
  | .clear =>
    if crowd.stopping then { crowd with service := crowd.service.shut, stopping := false } else crowd
  | .work work => { crowd with service := crowd.service.perform work }

def run (crowd : Crowd δ) (strides : List (Stride δ)) : Crowd δ := strides.foldl step crowd

variable {crowd : Crowd δ}

/-- A stop that nobody comes between is the stop of the service. -/
theorem service_check_clear (hlock : crowd.stopping = false) :
    (crowd.run [.check, .clear]).service = crowd.service.stop.2 := by
  by_cases hstops : crowd.service.board.isIdle = true ∧ crowd.service.running = true
  · obtain ⟨hidle, hrunning⟩ := hstops
    have hup : crowd.up = true := by rw [up, hrunning, hlock]; rfl
    rw [Service.stop_of_idle hidle hrunning]
    simp only [run, List.foldl_cons, List.foldl_nil, step, hidle, hup, Bool.and_self, if_true]
    rfl
  · have hbusy : (crowd.service.board.isIdle && crowd.up) = false := by
      rw [up, hlock, Bool.not_false, Bool.and_true]
      rwa [← Bool.not_eq_true, Bool.and_eq_true]
    simp [run, step, hbusy, hlock, Service.stop_of_busy hstops]

/-- A registration that nobody comes between is the registration of the service. -/
theorem service_get_enter (hlock : crowd.stopping = false) (topic : Topic) (listener : Listener) :
    (crowd.run [.get topic listener, .enter crowd.admitted.length]).service =
      (crowd.service.subscribe topic listener).2 := by
  rcases hstart : crowd.service.start with ⟨failure | _, started⟩
  · simp [run, step, hlock, hstart, Service.subscribe]
  · simp [run, step, hlock, hstart, Service.subscribe]

/-! ### Who is entered -/

omit [Daemon δ] in
/-- The lists hold the registrations that are open. -/
def Enters (crowd : Crowd δ) : Prop := crowd.service.board.observers.Holds crowd.opened

omit [Daemon δ] in
theorem enters_opening (daemon : δ) : (opening daemon).Enters := Observers.holds_empty

end Crowd

theorem Service.serves_perform (service : Service δ) (work : Work δ) :
    service.board.Attends (service.perform work).board ∧
      (service.perform work).running = service.running := by
  have hserves : ∀ {after : Service δ}, service.Serves after →
      service.board.Attends after.board ∧ after.running = service.running :=
    fun hserves => ⟨hserves.board, hserves.running⟩
  cases work with
  | submit path code ticket => exact hserves (service.serves_submit path code ticket)
  | listOperators path scan ticket => exact hserves (service.serves_listOperators path scan ticket)
  | turn index => exact hserves (service.serves_turnAt index)
  | process event => exact hserves (service.serves_process event)
  | flush => exact hserves service.serves_flush
  | daemon next => exact ⟨⟨rfl, rfl⟩, rfl⟩

namespace Crowd

variable {crowd : Crowd δ}

theorem Enters.step (henters : crowd.Enters) (stride : Stride δ) : (crowd.step stride).Enters := by
  have hkept : ∀ {board : Switchboard}, crowd.service.board.Attends board →
      board.observers.Holds crowd.opened := fun hattends => hattends.observers ▸ henters
  cases stride with
  | get topic listener =>
    have hstarted := hkept crowd.service.attends_start
    simp only [Crowd.step]
    split
    · exact henters
    · rcases hstart : crowd.service.start with ⟨failure | _, started⟩ <;>
        rw [hstart] at hstarted <;> exact hstarted
  | enter index =>
    simp only [Crowd.step]
    split
    · exact henters
    · next topic listener hadmitted => exact Observers.Holds.add henters topic listener
  | strike subscription => exact Observers.Holds.remove henters subscription
  | check =>
    simp only [Crowd.step]
    split <;> exact henters
  | clear =>
    simp only [Crowd.step]
    split
    · exact hkept crowd.service.serves_cleared.board
    · exact henters
  | work work => exact hkept (crowd.service.serves_perform work).1

theorem Enters.run (henters : crowd.Enters) (strides : List (Stride δ)) :
    (crowd.run strides).Enters := by
  induction strides generalizing crowd with
  | nil => exact henters
  | cons stride rest ih => exact ih (henters.step stride)

/-! ### One stride -/

omit [Daemon δ] in
/-- What a stride does to the open registrations, to those that are half done, and to whether the
service is up. -/
inductive Goes (crowd after : Crowd δ) : Stride δ → Prop
  | kept {stride : Stride δ} (hopened : after.opened ≠ [] → crowd.opened ≠ [])
      (hadmitted : after.admitted = crowd.admitted) (hup : after.up = crowd.up) :
      Goes crowd after stride
  | admitted {topic : Topic} {listener : Listener} (hup : after.up = true) :
      Goes crowd after (.get topic listener)
  | entered {index : Nat} (hindex : index < crowd.admitted.length)
      (hadmitted : after.admitted = crowd.admitted.eraseIdx index) (hup : after.up = crowd.up) :
      Goes crowd after (.enter index)
  | settled (hidle : crowd.service.board.isIdle = true) (hup : crowd.up = true)
      (hopened : after.opened = crowd.opened) (hadmitted : after.admitted = crowd.admitted) :
      Goes crowd after .check

theorem goes_step (crowd : Crowd δ) (stride : Stride δ) : crowd.Goes (crowd.step stride) stride := by
  cases stride with
  | get topic listener =>
    cases hlock : crowd.stopping with
    | true =>
      rw [step, if_pos hlock]
      exact .kept id rfl rfl
    | false =>
      rw [step, if_neg (Bool.eq_false_iff.1 hlock)]
      have hstarted : crowd.service.start.1 = .ok () → crowd.service.start.2.running = true :=
        Service.running_of_start
      rcases crowd.service.start_cases with ⟨-, hstart⟩ | ⟨_, _, -, -, hstart⟩ | ⟨-, hok, -, -, -, -⟩
      · rw [hstart] at hstarted ⊢
        exact .admitted (by rw [up, hlock, hstarted rfl]; rfl)
      · rw [hstart]
        exact .kept id rfl rfl
      · have hstart : crowd.service.start = (.ok (), crowd.service.start.2) := Prod.ext hok rfl
        rw [hstart]
        exact .admitted (by rw [up, hlock, hstarted hok]; rfl)
  | enter index =>
    cases hadmitted : crowd.admitted[index]? with
    | none =>
      simp only [step, hadmitted]
      exact .kept id rfl rfl
    | some registration =>
      simp only [step, hadmitted]
      exact .entered (List.getElem?_eq_some_iff.1 hadmitted).1 rfl rfl
  | strike subscription =>
    refine .kept (fun hsome hnone => hsome ?_) rfl rfl
    rw [step, hnone]
    rfl
  | check =>
    cases hstops : crowd.service.board.isIdle && crowd.up with
    | true =>
      rw [step, if_pos hstops]
      obtain ⟨hidle, hup⟩ := Bool.and_eq_true_iff.1 hstops
      exact .settled hidle hup rfl rfl
    | false =>
      rw [step, if_neg (Bool.eq_false_iff.1 hstops)]
      exact .kept id rfl rfl
  | clear =>
    cases hlock : crowd.stopping with
    | true =>
      -- the service has been down since its end was settled
      have hdown : crowd.up = false := by rw [up, hlock, Bool.not_true, Bool.and_false]
      rw [step, if_pos hlock]
      exact .kept id rfl hdown.symm
    | false =>
      rw [step, if_neg (Bool.eq_false_iff.1 hlock)]
      exact .kept id rfl rfl
  | work work =>
    refine .kept id rfl ?_
    simp only [step, up, (crowd.service.serves_perform work).2]

/-! ### Orphans -/

omit [Daemon δ] in
/-- A registration is open, and the service down: the listener is told nothing until somebody else
brings the service up. -/
structure Orphaned (crowd : Crowd δ) : Prop where
  opened : crowd.opened ≠ []
  down : crowd.up = false

omit [Daemon δ] in
/-- The stride makes an entry on a service that is down. -/
def Belated (crowd : Crowd δ) : Stride δ → Prop
  | .enter index => index < crowd.admitted.length ∧ crowd.up = false
  | _ => False

theorem Belated.orphaned {stride : Stride δ} (hbelated : crowd.Belated stride) :
    (crowd.step stride).Orphaned := by
  cases stride with
  | enter index =>
    obtain ⟨hindex, hdown⟩ := hbelated
    simp only [step, List.getElem?_eq_getElem hindex]
    exact ⟨List.append_ne_nil_of_right_ne_nil _ (List.cons_ne_nil _ _), hdown⟩
  | get | strike | check | clear | work => exact hbelated.elim

/-- A stop orphans nobody, since it looks for the open registrations; only an entry does. -/
theorem Orphaned.of_step (henters : crowd.Enters) {stride : Stride δ}
    (horphaned : (crowd.step stride).Orphaned) : crowd.Orphaned ∨ crowd.Belated stride := by
  obtain ⟨hopened, hdown⟩ := horphaned
  cases crowd.goes_step stride with
  | kept hbefore _ hup => exact .inl ⟨hbefore hopened, hup ▸ hdown⟩
  | admitted hup => cases hdown.symm.trans hup
  | entered hindex _ hup => exact .inr ⟨hindex, hup ▸ hdown⟩
  | settled hidle _ hsame =>
    have hlists : crowd.service.board.observers.isEmpty = true := by
      simp only [Switchboard.isIdle, Bool.and_eq_true] at hidle
      exact hidle.1.1
    exact absurd (henters.isEmpty_iff.1 hlists) (hsame ▸ hopened)

theorem run_concat (crowd : Crowd δ) (strides : List (Stride δ)) (stride : Stride δ) :
    crowd.run (strides ++ [stride]) = (crowd.run strides).step stride := by
  rw [run, List.foldl_append]
  rfl

theorem not_orphaned_of_timely {daemon : δ} {strides : List (Stride δ)}
    (htimely : ∀ taken stride, taken ++ [stride] <+: strides →
      ¬ ((opening daemon).run taken).Belated stride) (taken : List (Stride δ)) :
    taken <+: strides → ¬ ((opening daemon).run taken).Orphaned := by
  induction taken using List.reverseRecOn with
  | nil => exact fun _ horphaned => horphaned.opened rfl
  | append_singleton taken stride ih =>
    intro hpart horphaned
    have hearlier : taken <+: strides := (List.prefix_append taken [stride]).trans hpart
    rw [run_concat] at horphaned
    rcases horphaned.of_step ((enters_opening daemon).run taken) with hbefore | hbelated
    · exact ih hearlier hbefore
    · exact htimely taken stride hpart hbelated

/-- No registration is ever open on a service that is down, exactly if none is entered on one. -/
theorem never_orphaned_iff (daemon : δ) (strides : List (Stride δ)) :
    (∀ taken, taken <+: strides → ¬ ((opening daemon).run taken).Orphaned) ↔
      ∀ taken stride, taken ++ [stride] <+: strides →
        ¬ ((opening daemon).run taken).Belated stride := by
  refine ⟨fun hnever taken stride hpart hbelated => ?_, not_orphaned_of_timely⟩
  refine hnever _ hpart ?_
  rw [run_concat]
  exact hbelated.orphaned

/-- A stop comes between the two halves of a registration, and nothing brings the service up again
before the second. -/
def hurried : List (Stride Simulator) :=
  [.get .sim (.caller "a"), .check, .clear, .enter 0]

theorem not_never_orphaned :
    ¬ ∀ (daemon : Simulator) (strides : List (Stride Simulator)),
      ¬ ((opening daemon).run strides).Orphaned := by
  intro hnever
  refine hnever .empty hurried ⟨?_, ?_⟩
  · have hopened : ((opening .empty).run hurried).opened = [(⟨.sim, ⟨1⟩⟩, .caller "a")] := by
      decide +kernel
    rw [hopened]
    exact List.cons_ne_nil _ _
  · decide +kernel

/-! ### Stops that wait -/

omit [Daemon δ] in
/-- The stride settles the end of the service while a registration is half done. -/
structure Hasty (crowd : Crowd δ) (stride : Stride δ) : Prop where
  check : stride = .check
  idle : crowd.service.board.isIdle = true
  up : crowd.up = true
  halfway : crowd.admitted ≠ []

omit [Daemon δ] in
/-- The service is up for those who have been admitted. -/
def Awaits (crowd : Crowd δ) : Prop := crowd.admitted ≠ [] → crowd.up = true

theorem Awaits.step (hawaits : crowd.Awaits) {stride : Stride δ} (hwaits : ¬ crowd.Hasty stride) :
    (crowd.step stride).Awaits := by
  intro hhalfway
  cases crowd.goes_step stride with
  | kept _ hadmitted hup => exact hup.trans (hawaits (hadmitted ▸ hhalfway))
  | admitted hup => exact hup
  | entered _ hadmitted hup =>
    refine hup.trans (hawaits fun hnone => hhalfway ?_)
    rw [hadmitted, hnone]
    rfl
  | settled hidle hup _ hadmitted =>
    exact absurd ⟨rfl, hidle, hup, hadmitted ▸ hhalfway⟩ hwaits

/-- As long as no stop is settled while a registration is half done, nobody is orphaned. -/
theorem never_orphaned_of_not_hasty (daemon : δ) (strides : List (Stride δ))
    (hwaits : ∀ taken stride, taken ++ [stride] <+: strides →
      ¬ ((opening daemon).run taken).Hasty stride) (taken : List (Stride δ))
    (hpart : taken <+: strides) : ¬ ((opening daemon).run taken).Orphaned := by
  have hawaits : ∀ taken, taken <+: strides → ((opening daemon).run taken).Awaits := by
    intro taken
    induction taken using List.reverseRecOn with
    | nil => exact fun _ hadmitted => absurd rfl hadmitted
    | append_singleton taken stride ih =>
      intro hpart
      rw [run_concat]
      exact (ih ((List.prefix_append taken [stride]).trans hpart)).step (hwaits taken stride hpart)
  refine not_orphaned_of_timely (fun taken stride hpart hbelated => ?_) taken hpart
  cases stride with
  | enter index =>
    obtain ⟨hindex, hdown⟩ := hbelated
    have hup := hawaits taken ((List.prefix_append taken _).trans hpart)
      (List.ne_nil_of_length_pos (Nat.zero_lt_of_lt hindex))
    cases hdown.symm.trans hup
  | get | strike | check | clear | work => exact hbelated.elim

end Crowd

end Telephony

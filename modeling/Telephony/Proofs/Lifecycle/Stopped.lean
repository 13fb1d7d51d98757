import Telephony.Proofs.Lifecycle.Accounts

/-!
# A stopped service

A service that has stopped knows no modem and holds no subscription, and neither the jobs that are
left over nor a start that fails change that. What it remembers besides is of no consequence: it
starts as a new service on the same daemon does.
-/

namespace Telephony

variable {δ : Type}

/-! ### Records -/

namespace Recorded

/-- The later daemon has been asked for more, but for no subscription. -/
def SubscribesNone (before after : Recorded δ) : Prop :=
  ∃ more, after.record = before.record ++ more ∧
    ∀ asked ∈ more, ∀ path interface, asked.demand ≠ .watch path interface

variable {before middle after : Recorded δ} {record : List Asked} {path : ModemPath}
  {interface : Interface}

theorem SubscribesNone.of_same (hrecord : after.record = before.record) :
    before.SubscribesNone after :=
  ⟨[], hrecord.trans (List.append_nil _).symm, fun _ hmem => absurd hmem List.not_mem_nil⟩

theorem SubscribesNone.of_one {asked : Asked} (hrecord : after.record = before.record ++ [asked])
    (hother : ∀ path interface, asked.demand ≠ .watch path interface) :
    before.SubscribesNone after :=
  ⟨[asked], hrecord, fun _ hmem => List.mem_singleton.1 hmem ▸ hother⟩

theorem SubscribesNone.trans (hfirst : before.SubscribesNone middle)
    (hsecond : middle.SubscribesNone after) : before.SubscribesNone after := by
  obtain ⟨more, hmore, hearly⟩ := hfirst
  obtain ⟨rest, hrest, hlate⟩ := hsecond
  refine ⟨more ++ rest, by rw [hrest, hmore, List.append_assoc], fun asked hmem => ?_⟩
  rcases List.mem_append.1 hmem with hmem | hmem
  · exact hearly asked hmem
  · exact hlate asked hmem

theorem grantedSince_of_append {more : List Asked} {demand : Demand}
    (hother : ∀ asked ∈ more, ∀ path interface, asked.demand ≠ .watch path interface)
    (hgranted : GrantedSince (record ++ more) path interface demand) :
    GrantedSince record path interface demand := by
  induction more generalizing record with
  | nil => rwa [List.append_nil] at hgranted
  | cons asked rest ih =>
    rw [← List.singleton_append, ← List.append_assoc] at hgranted
    have hrest := ih (fun later hmem => hother later (.tail _ hmem)) hgranted
    have hasked : asked ≠ ⟨.watch path interface, none⟩ := by
      rintro rfl
      exact hother _ List.mem_cons_self path interface rfl
    exact ((grantedSince_concat hasked).1 hrest).1

theorem SubscribesNone.held (hnone : before.SubscribesNone after)
    (hheld : Held after.record path interface) : Held before.record path interface := by
  obtain ⟨more, hmore, hother⟩ := hnone
  rw [hmore] at hheld
  exact ⟨grantedSince_of_append hother hheld.1, grantedSince_of_append hother hheld.2⟩

theorem not_held_disconnected {refusal : Option Failure} :
    ¬ Held (record ++ [⟨.disconnect, refusal⟩]) path interface := fun hheld =>
  ((grantedSince_concat (by simp)).1 hheld.2).2 rfl

end Recorded

/-! ### Leftovers -/

namespace Service

/-- Nothing is left of an earlier run that another could see. -/
structure Blank (service : Service (Recorded δ)) : Prop where
  halted : service.running = false
  unknown : ∀ path, service.board.entry? path = none
  released : ∀ path interface, ¬ Recorded.Held service.daemon.record path interface

theorem blank_new (daemon : δ) : (stopped (⟨daemon, []⟩ : Recorded δ)).Blank where
  halted := rfl
  unknown _ := rfl
  released _ _ hheld := Recorded.not_grantedSince_nil hheld.1

namespace Blank

variable {service after : Service (Recorded δ)}

theorem of_idle (hblank : service.Blank) (hrunning : after.running = service.running)
    (hmodems : after.board.modems = service.board.modems)
    (hdaemon : service.daemon.SubscribesNone after.daemon) : after.Blank where
  halted := hrunning.trans hblank.halted
  unknown path := by
    unfold Switchboard.entry?
    rw [hmodems]
    exact hblank.unknown path
  released path interface hheld := hblank.released path interface (hdaemon.held hheld)

theorem unwaiting (hblank : service.Blank) : service.board.waiting = 0 :=
  Switchboard.waiting_of_unknown hblank.unknown

theorem alike (hblank : service.Blank) : service.Alike (stopped service.daemon) :=
  ⟨rfl, Table.ext_get? hblank.unknown, hblank.unwaiting⟩

theorem submit (hblank : service.Blank) (path : ModemPath) (code : String) (ticket : Ticket) :
    service.submit path code ticket = (.error (.modemNotFound path), service) := by
  unfold Service.submit
  rw [Switchboard.submit_of_unknown (hblank.unknown path)]

theorem listOperators (hblank : service.Blank) (path : ModemPath) (scan : Bool) (ticket : Ticket) :
    service.listOperators path scan ticket = (.error (.modemNotFound path), service) := by
  have hrequire : service.board.require path .networkRegistration =
      .error (.modemNotFound path) := by
    simp only [Switchboard.require, hblank.unknown path]
  simp only [Service.listOperators, hrequire]

theorem nextQueued (hblank : service.Blank) (path : ModemPath) (epoch : UInt64) :
    service.board.nextQueued path epoch = (none, service.board) := by
  refine Switchboard.nextQueued_of_drain?_ne ?_
  rw [Switchboard.drain?, hblank.unknown path]
  nofun

theorem complete (hblank : service.Blank) (flight : Flight) (answer : Answer) :
    (service.complete flight answer).Blank := hblank.of_idle rfl rfl (.of_same rfl)

variable [Daemon δ]

theorem refused (hblank : service.Blank) {failure : Failure} {daemon : Recorded δ}
    (hrefused : Daemon.connect service.daemon = (.error failure, daemon)) :
    Blank { service with daemon } := by
  have hnote : Daemon.connect service.daemon =
      Recorded.note .connect Recorded.failure? Daemon.connect service.daemon := rfl
  obtain rfl : (Recorded.note .connect Recorded.failure? Daemon.connect service.daemon).2 =
      daemon := by rw [← hnote, hrefused]
  exact hblank.of_idle rfl rfl (.of_one rfl nofun)

theorem askAnswer (hblank : service.Blank) (flight : Flight) :
    (service.askAnswer flight).2.Blank := by
  have hpoll : ∀ recorded : Recorded δ,
      recorded.SubscribesNone (Daemon.poll flight.path flight.errand recorded).2 :=
    fun recorded => .of_one rfl nofun
  have hbegin : ∀ recorded : Recorded δ,
      recorded.SubscribesNone (Daemon.begin flight.path flight.errand recorded).2 :=
    fun recorded => .of_one rfl nofun
  unfold Service.askAnswer
  cases flight.begun with
  | true => exact hblank.of_idle rfl rfl (hpoll service.daemon)
  | false =>
    have hbegun := hbegin service.daemon
    rcases hasked : Daemon.begin flight.path flight.errand service.daemon with
      ⟨_ | answer, daemon⟩ <;> rw [hasked] at hbegun
    · exact hblank.of_idle rfl rfl (hbegun.trans (hpoll daemon))
    · exact hblank.of_idle rfl rfl hbegun

theorem advance (hblank : service.Blank) (flight : Flight) :
    (service.advance flight).2.Blank := by
  have hasked := hblank.askAnswer flight
  unfold Service.advance
  split
  · exact hblank.complete flight _
  · split
    · next answer asked hanswer =>
      rw [hanswer] at hasked
      exact hasked.complete flight answer
    · next asked hanswer =>
      rw [hanswer] at hasked
      exact hasked

theorem turn (hblank : service.Blank) (job : Job) : (service.turn job).2.Blank := by
  cases job with
  | call flight => exact hblank.advance flight
  | drain path epoch stage =>
    cases stage with
    | seeking =>
      refine hblank.of_idle rfl ?_ (.of_same rfl)
      exact congrArg (·.2.modems) (hblank.nextQueued path epoch)
    | taken request =>
      refine hblank.of_idle rfl ?_ (.of_same rfl)
      simp only [Service.turn, Switchboard.arm]
      split <;> rfl
    | sending flight => exact hblank.advance flight

theorem turnAt (hblank : service.Blank) (index : Nat) : (service.turnAt index).Blank := by
  unfold Service.turnAt
  split
  · exact hblank
  · next job hjob =>
    have hothers : Blank { service with jobs := service.jobs.eraseIdx index } :=
      hblank.of_idle rfl rfl (.of_same rfl)
    have hturn := hothers.turn job
    simp only
    cases (({ service with jobs := service.jobs.eraseIdx index } :
      Service (Recorded δ)).turn job).1 with
    | none => exact hturn
    | some rest => exact hturn.of_idle rfl rfl (.of_same rfl)

end Blank

/-! ### Stopping -/

variable [Daemon δ]

/-- A stop leaves nothing behind, or nothing has changed. -/
theorem stop_cases (service : Service (Recorded δ)) :
    (service.stop = (false, service) ∧
        ¬ (service.board.isIdle = true ∧ service.running = true)) ∨
      (service.board.isIdle = true ∧ service.running = true ∧ service.stop.1 = true ∧
        service.stop.2.Blank ∧ service.board.Attends service.stop.2.board) := by
  by_cases hstops : service.board.isIdle = true ∧ service.running = true
  · obtain ⟨hidle, hrunning⟩ := hstops
    have hattends := service.serves_cleared.board
    rw [stop_of_idle hidle hrunning]
    exact .inr ⟨hidle, hrunning, rfl,
      ⟨rfl, service.unknown_cleared, fun _ _ => Recorded.not_held_disconnected⟩, hattends⟩
  · exact .inl ⟨stop_of_busy hstops, hstops⟩

/-- A service that does not run, and would start as a new one does: it knows no modem, its daemon
keeps up no subscription of it, and a start has the same result and comes to the same daemon, modems,
attachments and states as that of a new service. -/
structure LikeNew (service : Service (Recorded δ)) : Prop where
  halted : service.running = false
  unknown : ∀ path, service.board.knows path = false
  released : ∀ path interface, ¬ Recorded.Held service.daemon.record path interface
  result : service.start.1 = (stopped service.daemon).start.1
  daemon : service.start.2.daemon = (stopped service.daemon).start.2.daemon
  modems : service.start.2.board.modems = (stopped service.daemon).start.2.board.modems

theorem Blank.likeNew {service : Service (Recorded δ)} (hblank : service.Blank) :
    service.LikeNew := by
  obtain ⟨hresult, halike⟩ := hblank.alike.start hblank.halted rfl
  have hunknown : ∀ path, service.board.knows path = false := fun path => by
    unfold Switchboard.knows Table.contains
    rw [show service.board.modems.get? path = none from hblank.unknown path]
    rfl
  exact ⟨hblank.halted, hunknown, hblank.released, hresult, halike.daemon, halike.board.modems⟩

end Service

end Telephony

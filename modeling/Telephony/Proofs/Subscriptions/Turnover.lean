import Telephony.Proofs.Coherence.Taking
import Telephony.Proofs.Subscriptions.Pending

/-!
# Modems that come, change and go

What a board asks for when a modem goes, when it offers other interfaces, and when it comes: effects
that tell of every subscription where it is.
-/

namespace Telephony

/-- A modem that goes ends all that was attached, itself last. -/
theorem Switchboard.about_removeModem (board : Switchboard) (path : ModemPath)
    (interface : Interface) :
    Effect.about (board.removeModem path).2.effects path interface =
      if board.attached path interface = true then [.unwatch path interface] else [] := by
  cases hentry : board.entry? path with
  | none =>
    rw [removeModem_of_unknown hentry, attached_of_unknown hentry]
    rfl
  | some entry =>
    have hdistinct : Interface.tracked.Nodup := by decide
    have htracked : ∀ interface ∈ Interface.tracked, interface ≠ .modem := fun _ hmem =>
      Interface.mem_tracked_iff.1 hmem
    have hgone : Effect.about ((Interface.tracked.filter (entry.attached ·)).map (.unwatch path))
        path interface = if interface ∈ Interface.tracked.filter (entry.attached ·) then
          [.unwatch path interface] else [] :=
      Effect.about_map (hdistinct.filter _) (by simp)
    have hfailing : ∀ requests : List QueuedRequest,
        Effect.about (if requests.isEmpty then [] else [.fail path requests]) path interface =
          [] := by
      intro requests
      split <;> rfl
    simp only [removeModem, hentry, Outcome.effects_append, Effect.about_append, hfailing,
      Entry.effects_detachAll_eq board.observers path entry hdistinct htracked, hgone,
      List.mem_filter, Interface.mem_tracked_iff, attached_of_entry hentry]
    by_cases hmodem : interface = .modem
    · subst hmodem
      simp [Effect.about, Entry.attached]
    · simp [Effect.about, hmodem, Ne.symm hmodem]

/-! ### Changes of an entry -/

namespace Entry

/-- What changes ask for about an interface: that it be ended if it was attached and is no longer,
and that it be watched as often as it comes. To come it must have been gone, so of the changes that
set the interfaces on offer there are about twice as many. -/
structure Comes (path : ModemPath) (interface : Interface) (sets come : Nat) (before after : Entry)
    (queue : List Effect) : Prop where
  queue_eq : queue =
    (if before.attached interface = true ∧ after.attached interface = false then
      [.unwatch path interface] else []) ++ List.replicate come (.watch path interface)
  stays : after.attached interface = true → before.attached interface = true ∧ come = 0
  few : 2 * come + (before.modem.state.interfaces.has interface).toNat ≤
    sets + (after.modem.state.interfaces.has interface).toNat

/-- What changes ask for, as many of which set the interfaces on offer as given. -/
structure Gathers (path : ModemPath) (sets : Nat) (before after : Entry) (effects : List Effect) :
    Prop where
  path_eq : ∀ effect ∈ effects, effect.path = path
  modem : Effect.about effects path .modem = []
  comes : ∀ interface, interface ≠ .modem →
    ∃ come, before.Comes path interface sets come after (Effect.about effects path interface)

variable {path : ModemPath} {interface : Interface} {sets come more others : Nat}
  {entry before middle after : Entry} {queue rest effects later : List Effect}

theorem Comes.refl (path : ModemPath) (interface : Interface) (entry : Entry) :
    entry.Comes path interface 0 0 entry [] where
  queue_eq := by simp
  stays hattached := ⟨hattached, rfl⟩
  few := by omega

theorem Comes.trans (hfirst : before.Comes path interface sets come middle queue)
    (hsecond : middle.Comes path interface more others after rest) :
    before.Comes path interface (sets + more) (come + others) after (queue ++ rest) where
  queue_eq := by
    rw [hfirst.queue_eq, hsecond.queue_eq]
    cases hmiddle : middle.attached interface with
    | true =>
      obtain ⟨hbefore, rfl⟩ := hfirst.stays hmiddle
      simp [hbefore]
    | false =>
      have hafter : after.attached interface = false := by
        by_contra hyes
        rw [Bool.not_eq_false] at hyes
        cases hmiddle.symm.trans (hsecond.stays hyes).1
      simp [hafter, List.replicate_append_replicate]
  stays hattached := by
    obtain ⟨hmiddle, hothers⟩ := hsecond.stays hattached
    obtain ⟨hbefore, hcome⟩ := hfirst.stays hmiddle
    exact ⟨hbefore, by omega⟩
  few := by
    have hfew := hfirst.few
    have hmore := hsecond.few
    omega

theorem Comes.mark (hcomes : before.Comes path interface sets come after queue)
    (marked : Interface) : before.Comes path interface sets come (after.mark marked) queue := by
  have hholding := after.holding_mark marked interface
  have hattached : (after.mark marked).attached interface = after.attached interface :=
    congrArg Holding.attached hholding
  have hoffered : (after.mark marked).modem.state.interfaces = after.modem.state.interfaces :=
    congrArg Holding.offered hholding
  refine ⟨?_, ?_, ?_⟩
  · rw [hattached]
    exact hcomes.queue_eq
  · rw [hattached]
    exact hcomes.stays
  · rw [hoffered]
    exact hcomes.few

/-- Few changes of what is on offer bring an interface once at most, and not at all if it was
attached. -/
theorem Comes.come_le (hcomes : before.Comes path interface sets come after queue)
    (hanchored : before.Anchored) (htracked : interface ≠ .modem)
    (hsets : sets ≤ 1 ∨ sets ≤ 2 ∧ before.modem.state.interfaces.has interface = false) :
    come ≤ 1 ∧ (before.attached interface = true → come = 0) := by
  have hfew := hcomes.few
  have hbit := Bool.toNat_le (after.modem.state.interfaces.has interface)
  constructor
  · rcases hsets with hsets | ⟨hsets, -⟩ <;> omega
  · intro hattached
    have hhad := hanchored interface htracked hattached
    rw [hhad, Bool.toNat_true] at hfew
    rcases hsets with hsets | ⟨-, hnot⟩
    · omega
    · cases hhad.symm.trans hnot

theorem two_mul_come_le {had has : Bool} (hset : has ≠ had → 0 < sets)
    (hcome : come = 0 ∨ come = 1 ∧ had = false ∧ has = true) :
    2 * come + had.toNat ≤ sets + has.toNat := by
  rcases hcome with rfl | ⟨rfl, rfl, rfl⟩
  · cases had with
    | false => exact Nat.zero_le _
    | true =>
      cases has with
      | true => exact Nat.add_le_add_right (Nat.zero_le sets) 1
      | false => exact hset nofun
  · exact Nat.add_le_add_right (hset nofun) 1

theorem Reconciles.comes {result : Entry × Outcome} (hreconciles : entry.Reconciles path result)
    (hanchored : entry.Anchored) (htracked : interface ≠ .modem)
    (hsets : sets = 0 → result.1.modem.state.interfaces = entry.modem.state.interfaces) :
    ∃ come, entry.Comes path interface sets come result.1
      (Effect.about result.2.effects path interface) := by
  have hattached := hreconciles.attached interface htracked
  have hset : result.1.modem.state.interfaces.has interface ≠
      entry.modem.state.interfaces.has interface → 0 < sets := fun hne =>
    Nat.pos_of_ne_zero fun hzero => hne (congrArg (·.has interface) (hsets hzero))
  rw [hreconciles.effects, Effect.about_reconciling hanchored _ htracked]
  split
  · next hbefore =>
    refine ⟨0, ?_, fun _ => ⟨hbefore, rfl⟩, two_mul_come_le hset (.inl rfl)⟩
    split
    · next hhas => simp [hattached.2 ⟨hbefore, hhas⟩]
    · next hgone =>
      have hafter : result.1.attached interface = false := by simpa [hgone] using hattached
      simp [hbefore, hafter]
  · next hnone =>
    have hafter : result.1.attached interface = true → False := fun hyes =>
      hnone (hattached.1 hyes).1
    split
    · next hcome =>
      exact ⟨1, by simp [hnone], fun hyes => (hafter hyes).elim,
        two_mul_come_le hset (.inr ⟨rfl, hcome.2, hcome.1⟩)⟩
    · exact ⟨0, by simp [hnone], fun hyes => (hafter hyes).elim,
        two_mul_come_le hset (.inl rfl)⟩

theorem Gathers.refl (path : ModemPath) (entry : Entry) : entry.Gathers path 0 entry [] where
  path_eq := nofun
  modem := rfl
  comes interface _ := ⟨0, .refl path interface entry⟩

theorem Gathers.trans (hfirst : before.Gathers path sets middle effects)
    (hsecond : middle.Gathers path more after later) :
    before.Gathers path (sets + more) after (effects ++ later) where
  path_eq effect hmem := by
    rcases List.mem_append.1 hmem with hearly | hlate
    · exact hfirst.path_eq effect hearly
    · exact hsecond.path_eq effect hlate
  modem := by rw [Effect.about_append, hfirst.modem, hsecond.modem, List.append_nil]
  comes interface htracked := by
    obtain ⟨come, hcomes⟩ := hfirst.comes interface htracked
    obtain ⟨others, hothers⟩ := hsecond.comes interface htracked
    rw [Effect.about_append]
    exact ⟨come + others, hcomes.trans hothers⟩

theorem Gathers.mark (hgathers : before.Gathers path sets after effects) (marked : Interface) :
    before.Gathers path sets (after.mark marked) effects where
  path_eq := hgathers.path_eq
  modem := hgathers.modem
  comes interface htracked := by
    obtain ⟨come, hcomes⟩ := hgathers.comes interface htracked
    exact ⟨come, hcomes.mark marked⟩

theorem Anchored.gathers_change (observers : Observers) (path : ModemPath)
    (hanchored : entry.Anchored) (change : Change) :
    entry.Gathers path (if change.setsInterfaces = true then 1 else 0)
      (entry.change observers path change).1 (entry.change observers path change).2.effects where
  path_eq := path_change observers path entry change
  modem := by
    have hreconciles : entry.Reconciles path (entry.change observers path change) :=
      hanchored.reconciles_change change
    rw [hreconciles.effects, Effect.about_reconciling_modem]
  comes interface htracked := by
    have hreconciles : entry.Reconciles path (entry.change observers path change) :=
      hanchored.reconciles_change change
    refine hreconciles.comes hanchored htracked fun hunset => ?_
    rw [offered_change]
    rcases change_eq_of_offering change with ⟨current, rfl⟩ | ⟨-, hsame⟩
    · exact absurd hunset Nat.one_ne_zero
    · exact hsame _

theorem Anchored.gathers_changeAll (observers : Observers) (path : ModemPath)
    (hanchored : entry.Anchored) (changes : List Change) :
    entry.Gathers path (changes.countP Change.setsInterfaces)
      (entry.changeAll observers path changes).1
      (entry.changeAll observers path changes).2.effects := by
  induction changes generalizing entry with
  | nil => exact .refl path entry
  | cons change rest ih =>
    have hchange : (entry.change observers path change).1.Anchored :=
      lasting_anchored.change hanchored observers path change
    rw [List.countP_cons, Nat.add_comm]
    simp only [changeAll, Outcome.effects_append]
    exact (hanchored.gathers_change observers path change).trans (ih hchange)

/-- What is asked for as a modem's own interface is loaded. -/
theorem Anchored.gathers_load (board : Switchboard) (path : ModemPath) (hanchored : entry.Anchored)
    (result : Except Failure (List Change)) :
    ∃ sets, entry.Gathers path sets (board.loadEntry path .modem result entry).1
        (board.loadEntry path .modem result entry).2.effects ∧
      ((∀ changes, result = .ok changes → SetsOnce changes) → sets ≤ 1) := by
  cases result with
  | error failure =>
    rw [Switchboard.loadEntry_error]
    exact ⟨0, .refl path entry, fun _ => Nat.zero_le 1⟩
  | ok changes =>
    have hoffered : entry.offers .modem = true := rfl
    rw [Switchboard.loadEntry_ok hoffered]
    exact ⟨_, (hanchored.gathers_changeAll board.observers path changes).mark .modem,
      fun honce => honce changes rfl⟩

end Entry

namespace Service

open Recorded (Standing LastGranted Untouched Refused)

variable {δ : Type} {outset : Outset} {service after : Service (Recorded δ)} {path : ModemPath}
  {interface : Interface} {effects : List Effect}

/-- An interface begins, ends or stays as the changes of its modem say. -/
theorem Tends.comes {entry changed : Entry} {sets come : Nat}
    (htends : service.Tends outset path interface [])
    (hcomes : entry.Comes path interface sets come changed effects) (htracked : interface ≠ .modem)
    (honce : outset.once → come ≤ 1 ∧ (entry.attached interface = true → come = 0))
    (hstart : outset.record = service.daemon.record)
    (hbefore : service.board.attached path interface = entry.attached interface)
    (hafter : ∀ i, after.board.attached path i = changed.attached i)
    (huntouched : Untouched service.daemon.record after.daemon.record path interface) :
    after.Tends outset path interface effects := by
  have hgrown : outset.record <+: service.daemon.record := hstart ▸ List.prefix_refl _
  have hknown : after.board.attached path .modem = true := hafter .modem
  have hnone : ¬ Refused outset.record after.daemon.record path interface :=
    (hstart ▸ huntouched).not_refused
  obtain ⟨rfl, hattached, -⟩ := hcomes
  cases hyes : changed.attached interface with
  | true =>
    obtain ⟨hwas, rfl⟩ := hattached hyes
    rw [List.replicate_zero, List.append_nil, if_neg (by simp)]
    exact htends.stays hgrown ((hafter interface).trans (hyes.trans (hbefore.trans hwas).symm))
      huntouched
  | false =>
    have hgone : after.board.attached path interface = false := (hafter interface).trans hyes
    cases hwas : entry.attached interface with
    | true =>
      rw [if_pos ⟨rfl, rfl⟩, List.singleton_append]
      cases come with
      | zero =>
        rw [List.replicate_zero]
        exact .ends 0 (fun hthere => absurd (hgone.symm.trans hthere) Bool.false_ne_true)
          fun _ => hgone
      | succ come =>
        exact .restarts come htracked hknown hnone fun hone =>
          Nat.succ_ne_zero come ((honce hone).2 hwas)
    | false =>
      rw [if_neg (by simp), List.nil_append]
      cases come with
      | zero => exact htends.stays hgrown (hgone.trans (hbefore.trans hwas).symm) huntouched
      | succ come =>
        have hbegins : after.Tends outset path interface (.watch path interface ::
            (List.replicate come (.watch path interface) ++
              List.replicate 0 (.unwatch path interface))) :=
          .begins come 0 htracked hknown (fun hrefused => absurd hrefused hnone)
            (fun hpos => absurd hpos (Nat.lt_irrefl 0)) fun hone =>
              ⟨Nat.le_zero.1 (Nat.le_of_succ_le_succ (honce hone).1), rfl, hgone⟩
        rwa [List.replicate_zero, List.append_nil] at hbegins

/-- A modem that is known offers other interfaces now. -/
theorem Tending.changes {entry changed : Entry} {sets : Nat}
    (htending : service.Tending outset []) (hstart : outset.record = service.daemon.record)
    (hentry : service.board.entry? path = some entry)
    (hgathers : entry.Gathers path sets changed effects) (honce : outset.once → sets ≤ 1)
    (hanchored : after.board.Every Entry.Anchored) (hdaemon : after.daemon = service.daemon)
    (hlookup : ∀ other, after.board.entry? other =
      if path = other then some changed else service.board.entry? other) :
    after.Tending outset effects where
  anchored := hanchored
  grown := hdaemon ▸ htending.grown
  tends other interface := by
    have htends := htending.tends other interface
    have huntouched : Untouched service.daemon.record after.daemon.record other interface :=
      .of_eq (congrArg Recorded.record hdaemon)
    by_cases hpath : path = other
    · subst hpath
      have hbefore := Switchboard.attached_of_entry hentry
      have hafter := Switchboard.attached_of_entry ((hlookup path).trans (if_pos rfl))
      by_cases hmodem : interface = .modem
      · subst hmodem
        rw [hgathers.modem]
        exact htends.stays htending.grown ((hafter .modem).trans (hbefore .modem).symm) huntouched
      · obtain ⟨come, hcomes⟩ := hgathers.comes interface hmodem
        refine htends.comes hcomes hmodem (fun hone => ?_) hstart (hbefore interface) hafter
          huntouched
        exact hcomes.come_le (htending.anchored path entry hentry) hmodem (.inl (honce hone))
    · rw [Effect.about_of_path_ne hgathers.path_eq hpath]
      exact htends.of_lookup htending.grown ((hlookup other).trans (if_neg hpath)) huntouched

/-! ### Modems that go -/

theorem depth_removeModem (board : Switchboard) (path : ModemPath) :
    ∀ effect ∈ (board.removeModem path).2.effects, effect.depth ≤ 1 := by
  intro effect hmem
  have hnever := (effects_removeModem board path effect hmem).2
  cases effect with
  | watch other interface => exact absurd rfl (hnever other interface)
  | _ => exact Nat.le_refl 1

/-- The subscription to an interface that goes with its modem ends. -/
theorem Tends.goes (htends : service.Tends outset path interface effects)
    (hnever : .watch path interface ∉ effects)
    (hgrown : outset.record <+: service.daemon.record)
    (hgone : after.board.attached path interface = false)
    (huntouched : Untouched service.daemon.record after.daemon.record path interface) :
    after.Tends outset path interface (effects ++
      if service.board.attached path interface = true then [.unwatch path interface] else []) := by
  have hends : ∀ others, after.Tends outset path interface
      (.unwatch path interface :: List.replicate others (.unwatch path interface)) := fun others =>
    .ends others (fun hyes => absurd (hgone.symm.trans hyes) Bool.false_ne_true) fun _ => hgone
  cases htends with
  | settled hstanding honce =>
    split
    · exact hends 0
    · next hno =>
      rw [List.append_nil]
      exact (Tends.settled hstanding honce).stays hgrown
        (hgone.trans (Bool.eq_false_iff.2 hno).symm) huntouched
  | begins | restarts => exact absurd (by simp) hnever
  | ends others =>
    split
    · rw [List.cons_append, ← List.replicate_succ']
      exact hends (others + 1)
    · rw [List.append_nil]
      exact hends others

/-- Where no subscription is about to begin, a modem that goes takes its own along. -/
theorem Tending.removeModem (htending : service.Tending outset effects)
    (hends : ∀ effect ∈ effects, effect.depth ≤ 1) (path : ModemPath) :
    Tending outset { service with board := (service.board.removeModem path).1 }
      (effects ++ (service.board.removeModem path).2.effects) where
  anchored := by
    intro other entry hother
    rw [service.board.lookup_removeModem path other] at hother
    split at hother
    · cases hother
    · exact htending.anchored other entry hother
  grown := htending.grown
  tends other interface := by
    have htends := htending.tends other interface
    have hlookup := service.board.lookup_removeModem path other
    rw [Effect.about_append]
    by_cases hpath : path = other
    · subst hpath
      rw [if_pos rfl] at hlookup
      have hnever : Effect.watch path interface ∉ Effect.about effects path interface := fun hmem =>
        Nat.not_le.2 (Effect.one_lt_depth_watch path interface)
          (hends _ (List.mem_of_mem_filter hmem))
      rw [service.board.about_removeModem path interface]
      exact htends.goes hnever htending.grown (Switchboard.attached_of_unknown hlookup interface)
        (.of_eq rfl)
    · have hquiet : Effect.about (service.board.removeModem path).2.effects other interface = [] :=
        Effect.about_of_path_ne
          (fun effect hmem => (effects_removeModem service.board path effect hmem).1) hpath
      rw [hquiet, List.append_nil]
      exact htends.of_lookup htending.grown (hlookup.trans (if_neg hpath)) (.of_eq rfl)

/-! ### Modems that come -/

variable [Daemon δ]

/-- The modem's own subscription stands if it is granted as the modem comes, and not otherwise. -/
theorem standing_load_modem (hnot : ¬ Standing service.daemon.record path .modem) :
    let record := (service.load path .modem).1.daemon.record
    Standing record path .modem ↔ LastGranted record path .modem := by
  dsimp only
  rw [daemon_load]
  rcases service.record_fetch path .modem with ⟨failure, -, hrecord⟩ | hrecord
  · rw [hrecord]
    refine iff_of_false (fun hyes => hnot ?_) fun hgranted => ?_
    · exact ((Recorded.grantedSince_concat (by simp)).1 hyes).1
    · exact ((Recorded.grantedSince_concat (by simp)).1 hgranted).2 rfl
  · rw [hrecord, List.append_assoc]
    exact iff_of_true (Recorded.grantedSince_loaded nofun) (Recorded.grantedSince_loaded nofun)

/-- Whether a modem's own subscription stands is settled as the modem is loaded. -/
theorem Tends.arrives {taken : Service (Recorded δ)}
    (htends : service.Tends outset path .modem [])
    (hgone : service.board.attached path .modem = false) (hdaemon : taken.daemon = service.daemon)
    (hloaded : (taken.load path .modem).1.board.attached path .modem = true) :
    (taken.load path .modem).1.Tends outset path .modem [] := by
  have hnot : ¬ Standing taken.daemon.record path .modem := by
    rw [hdaemon]
    cases htends with
    | settled hstanding _ =>
      rw [hstanding]
      rintro ⟨hyes, -⟩
      cases hgone.symm.trans hyes
  refine .settled ((standing_load_modem hnot).trans ?_) fun _ hmodem => absurd rfl hmodem
  rw [Wants, if_pos rfl]
  exact (and_iff_right hloaded).symm

/-- A modem that is new is loaded before its interfaces. -/
theorem Tending.arrival {taken : Service (Recorded δ)} {entry : Entry} {sets : Nat}
    (htending : service.Tending outset []) (hstart : outset.record = service.daemon.record)
    (hunknown : service.board.entry? path = none) (hdaemon : taken.daemon = service.daemon)
    (hlookup : ∀ other, taken.board.entry? other =
      if path = other then some entry else service.board.entry? other)
    (hgathers : Entry.new.Gathers path sets entry effects) (honce : outset.once → sets ≤ 1)
    (hanchored : taken.board.Every Entry.Anchored)
    (hloads : outset.once → ∀ changes, (taken.fetch path .modem).1 = .ok changes →
      SetsOnce changes) :
    (taken.load path .modem).1.Tending outset (effects ++ (taken.load path .modem).2) where
  anchored := (taken.leads_carryOut (.watch path .modem)).every Entry.lasting_anchored hanchored
  grown := by
    rw [hstart, ← hdaemon]
    exact taken.grown_carryOut (.watch path .modem)
  tends other interface := by
    have htends := htending.tends other interface
    have hloaded := taken.lookup_load path .modem other
    have heffects := taken.effects_load path .modem
    rw [hlookup path, if_pos rfl, Option.map_some] at hloaded
    rw [hlookup path, if_pos rfl, Option.map_some, Option.getD_some] at heffects
    obtain ⟨more, hmore, hfew⟩ := (hanchored path entry
      ((hlookup path).trans (if_pos rfl))).gathers_load taken.board path (taken.fetch path .modem).1
    have hall := hgathers.trans hmore
    rw [← heffects] at hall
    by_cases hpath : path = other
    · subst hpath
      rw [if_pos rfl] at hloaded
      have hafter := Switchboard.attached_of_entry hloaded
      by_cases hmodem : interface = .modem
      · subst hmodem
        rw [hall.modem]
        exact htends.arrives (Switchboard.attached_of_unknown hunknown .modem) hdaemon
          (hafter .modem)
      · obtain ⟨come, hcomes⟩ := hall.comes interface hmodem
        have hnew : Entry.new.modem.state.interfaces.has interface = false := by
          cases interface <;> rfl
        refine htends.comes hcomes hmodem (fun hone => ?_) hstart
          ((Switchboard.attached_of_unknown hunknown _).trans (Entry.attached_new hmodem).symm)
          hafter ?_
        · have hsets := Nat.add_le_add (honce hone) (hfew (hloads hone))
          exact hcomes.come_le Entry.lasting_anchored.new hmodem (.inr ⟨hsets, hnew⟩)
        · rw [← hdaemon]
          exact taken.untouched_load fun hsame => hmodem hsame.2.symm
    · rw [Effect.about_of_path_ne hall.path_eq hpath]
      refine htends.of_lookup htending.grown ((hloaded.trans (if_neg hpath)).trans
        ((hlookup other).trans (if_neg hpath))) ?_
      rw [← hdaemon]
      exact taken.untouched_load fun hsame => hpath hsame.1

end Service

end Telephony

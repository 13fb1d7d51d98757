import Telephony.Proofs.News.Partings
import Telephony.Proofs.Subscriptions.Rounds
import Telephony.Proofs.Subscriptions.Standing

/-!
# Subscriptions under way

While the effects of an event are carried out, a subscription is settled, or it is asked for, or it
is to end: which of these, the effects still to be carried out tell, those that are asked for
meanwhile at their end. Each effect that is carried out keeps to this, so once nothing is left all
subscriptions are settled. One is lost on the way if it was asked for more than once, and granted
and refused: then its end is the last that is asked for.
-/

namespace Telephony

namespace Effect

/-- Those of the effects that begin or end the subscription. -/
def about (effects : List Effect) (path : ModemPath) (interface : Interface) : List Effect :=
  effects.filter fun effect => effect = .watch path interface ∨ effect = .unwatch path interface

variable {path : ModemPath} {interface : Interface}

theorem about_append (first rest : List Effect) :
    about (first ++ rest) path interface =
      about first path interface ++ about rest path interface :=
  List.filter_append ..

theorem about_eq_nil {effects : List Effect}
    (hother : ∀ effect ∈ effects,
      effect ≠ .watch path interface ∧ effect ≠ .unwatch path interface) :
    about effects path interface = [] :=
  List.filter_eq_nil_iff.2 fun effect hmem habout =>
    (of_decide_eq_true habout).elim (hother effect hmem).1 (hother effect hmem).2

theorem about_cons {effect : Effect} (rest : List Effect)
    (hother : ¬ (effect = .watch path interface ∨ effect = .unwatch path interface)) :
    about (effect :: rest) path interface = about rest path interface :=
  List.filter_cons_of_neg (by simpa using hother)

theorem about_of_path_ne {effects : List Effect} {other : ModemPath}
    (hpath : ∀ effect ∈ effects, effect.path = other) (hne : other ≠ path) :
    about effects path interface = [] := by
  refine about_eq_nil fun effect hmem => ⟨?_, ?_⟩
  · rintro rfl
    exact hne (hpath _ hmem).symm
  · rintro rfl
    exact hne (hpath _ hmem).symm

/-- Of effects that are made of interfaces, one for each, those of one interface. -/
theorem about_map {make : Interface → Effect} {interfaces : List Interface}
    (hdistinct : interfaces.Nodup)
    (hmake : ∀ other,
      (make other = .watch path interface ∨ make other = .unwatch path interface) ↔
        other = interface) :
    about (interfaces.map make) path interface =
      if interface ∈ interfaces then [make interface] else [] := by
  have hfilter : interfaces.filter ((fun effect : Effect => decide
      (effect = .watch path interface ∨ effect = .unwatch path interface)) ∘ make) =
        interfaces.filter (· == interface) :=
    List.filter_congr fun other _ =>
      (decide_eq_decide.2 (hmake other)).trans (Bool.beq_eq_decide_eq other interface).symm
  rw [about, List.filter_map, hfilter, List.filter_beq]
  split
  · next hmem =>
    rw [List.count_eq_one_of_mem hdistinct hmem]
    rfl
  · next habsent =>
    rw [List.count_eq_zero_of_not_mem habsent]
    rfl

theorem about_reconciling {entry : Entry} (hanchored : entry.Anchored) (current : InterfaceSet)
    (htracked : interface ≠ .modem) :
    about (entry.reconciling path current) path interface =
      if entry.attached interface = true then
        if current.has interface = true then [] else [.unwatch path interface]
      else
        if current.has interface = true ∧ entry.modem.state.interfaces.has interface = false then
          [.watch path interface]
        else [] := by
  have hgone := (Entry.nodup_beyond entry.modem.state.interfaces current).filter (entry.attached ·)
  have hcome := Entry.nodup_beyond current entry.modem.state.interfaces
  rw [Entry.reconciling, about_append, about_map hgone (by simp), about_map hcome (by simp)]
  simp only [List.mem_filter, Entry.mem_beyond_iff, htracked, ne_eq, not_false_eq_true, true_and]
  cases hattached : entry.attached interface with
  | true =>
    have hhas := hanchored interface htracked hattached
    cases hcurrent : current.has interface <;> simp [hhas]
  | false => simp

theorem about_reconciling_modem (entry : Entry) (current : InterfaceSet) :
    about (entry.reconciling path current) path .modem = [] := by
  refine about_eq_nil fun effect hmem => ?_
  rcases List.mem_append.1 hmem with hgone | hcome
  · obtain ⟨ended, hended, rfl⟩ := List.mem_map.1 hgone
    have htracked := (Entry.mem_beyond_iff.1 (List.mem_filter.1 hended).1).1
    exact ⟨nofun, fun hsame => htracked (by cases hsame; rfl)⟩
  · obtain ⟨come, hbeyond, rfl⟩ := List.mem_map.1 hcome
    have htracked := (Entry.mem_beyond_iff.1 hbeyond).1
    exact ⟨fun hsame => htracked (by cases hsame; rfl), nofun⟩

end Effect

/-- Whether the modem is known and offers the interface. -/
def Switchboard.offers (board : Switchboard) (path : ModemPath) (interface : Interface) : Bool :=
  (board.entry? path).any (·.offers interface)

namespace Switchboard

variable {board : Switchboard} {path : ModemPath} {interface : Interface}

theorem offers_of_entry {entry : Entry} (hentry : board.entry? path = some entry)
    (interface : Interface) : board.offers path interface = entry.offers interface := by
  rw [offers, hentry, Option.any_some]

theorem exists_entry_of_attached (hattached : board.attached path interface = true) :
    ∃ entry, board.entry? path = some entry := by
  cases hentry : board.entry? path with
  | some entry => exact ⟨entry, rfl⟩
  | none => cases (attached_of_unknown hentry interface).symm.trans hattached

theorem offers_of_attached (hanchored : board.Every Entry.Anchored) (htracked : interface ≠ .modem)
    (hattached : board.attached path interface = true) : board.offers path interface = true := by
  obtain ⟨entry, hentry⟩ := exists_entry_of_attached hattached
  rw [attached_of_entry hentry] at hattached
  have hhas := hanchored path entry hentry interface htracked hattached
  rw [offers_of_entry hentry, Entry.offers, hhas, Bool.or_true]

end Switchboard

open Recorded (Standing LastGranted Untouched Refused)

/-- How things stand as an event comes: what the daemon has been asked, and which subscriptions have
been lost. Of each list of properties that the event brings about it may be known that it sets the
interfaces once at most. -/
structure Outset where
  record : List Asked
  lost : ModemPath → Interface → Prop
  once : Prop

/-- The subscription is lost: it was lost before and the daemon has not been asked about it since,
or the daemon has been and has refused. -/
def Outset.Loses (outset : Outset) (record : List Asked) (path : ModemPath)
    (interface : Interface) : Prop :=
  Refused outset.record record path interface ∨
    outset.lost path interface ∧ Untouched outset.record record path interface

section Loses

variable {outset : Outset} {record after : List Asked} {path : ModemPath} {interface : Interface}

theorem Outset.loses_self :
    outset.Loses outset.record path interface ↔ outset.lost path interface := by
  have huntouched : Untouched outset.record outset.record path interface := .of_eq rfl
  constructor
  · rintro (hrefused | ⟨hlost, -⟩)
    · exact absurd hrefused huntouched.not_refused
    · exact hlost
  · exact fun hlost => .inr ⟨hlost, huntouched⟩

theorem Outset.loses_iff (huntouched : Untouched record after path interface)
    (hgrown : outset.record <+: record) :
    outset.Loses after path interface ↔ outset.Loses record path interface := by
  rw [Loses, Loses, huntouched.refused_iff hgrown, huntouched.untouched_iff hgrown]

end Loses

namespace Service

variable {δ : Type}

/-- The subscription is to stand: the interface is attached and was not lost; if it is the modem's
own, the modem is known and was granted it. -/
def Wants (service : Service (Recorded δ)) (path : ModemPath) (interface : Interface)
    (lost : Prop) : Prop :=
  service.board.attached path interface = true ∧
    if interface = .modem then LastGranted service.daemon.record path .modem else ¬ lost

/-- Where a subscription is, by the effects about it that are still to be carried out. -/
inductive Tends (outset : Outset) (service : Service (Recorded δ)) (path : ModemPath)
    (interface : Interface) : List Effect → Prop
  | settled
      (hstanding : Standing service.daemon.record path interface ↔
        service.Wants path interface (outset.Loses service.daemon.record path interface))
      (honce : outset.once → interface ≠ .modem → service.board.attached path interface = true →
        ¬ outset.Loses service.daemon.record path interface) :
      Tends outset service path interface []
  /-- It is asked for, and has been refused before as often as it is to end behind that. -/
  | begins (asked refused : Nat) (htracked : interface ≠ .modem)
      (hknown : service.board.attached path .modem = true)
      (hrefused : Refused outset.record service.daemon.record path interface → 0 < refused)
      (hoffered : 0 < refused → service.board.offers path interface = true →
        Refused outset.record service.daemon.record path interface)
      (honce : outset.once →
        asked = 0 ∧ refused = 0 ∧ service.board.attached path interface = false) :
      Tends outset service path interface (.watch path interface ::
        (List.replicate asked (.watch path interface) ++
          List.replicate refused (.unwatch path interface)))
  /-- It is to end before it is asked for. -/
  | restarts (asked : Nat) (htracked : interface ≠ .modem)
      (hknown : service.board.attached path .modem = true)
      (hrefused : ¬ Refused outset.record service.daemon.record path interface)
      (honce : ¬ outset.once) :
      Tends outset service path interface (.unwatch path interface :: .watch path interface ::
        List.replicate asked (.watch path interface))
  | ends (others : Nat)
      (hattached : service.board.attached path interface = true →
        interface ≠ .modem ∧ Refused outset.record service.daemon.record path interface)
      (honce : outset.once → service.board.attached path interface = false) :
      Tends outset service path interface
        (.unwatch path interface :: List.replicate others (.unwatch path interface))

/-- All subscriptions are where the effects that are left tell. -/
structure Tending (outset : Outset) (service : Service (Recorded δ)) (effects : List Effect) :
    Prop where
  anchored : service.board.Every Entry.Anchored
  grown : outset.record <+: service.daemon.record
  tends : ∀ path interface,
    service.Tends outset path interface (Effect.about effects path interface)

section Tends

variable {outset : Outset} {before after : Service (Recorded δ)} {path : ModemPath}
  {interface : Interface} {effects : List Effect}

/-- A subscription is still settled if neither it nor its interface has been touched. -/
theorem Tends.stays (htends : before.Tends outset path interface [])
    (hgrown : outset.record <+: before.daemon.record)
    (hattached : after.board.attached path interface = before.board.attached path interface)
    (huntouched : Untouched before.daemon.record after.daemon.record path interface) :
    after.Tends outset path interface [] := by
  have hloses := Outset.loses_iff huntouched hgrown
  cases htends with
  | settled hstanding honce =>
    rw [← hloses, ← hattached] at honce
    refine .settled ?_ honce
    rw [huntouched.standing, hstanding, Wants, Wants, hattached, hloses]
    refine and_congr_right fun _ => ?_
    split
    · next hmodem =>
      subst hmodem
      exact huntouched.lastGranted.symm
    · exact Iff.rfl

/-- What has to do with other subscriptions leaves this one where it is. -/
theorem Tends.of_untouched (htends : before.Tends outset path interface effects)
    (hgrown : outset.record <+: before.daemon.record)
    (hattached : after.board.attached path interface = before.board.attached path interface)
    (hknown : after.board.attached path .modem = before.board.attached path .modem)
    (hoffers : after.board.offers path interface = before.board.offers path interface)
    (huntouched : Untouched before.daemon.record after.daemon.record path interface) :
    after.Tends outset path interface effects := by
  have hrefused := huntouched.refused_iff hgrown
  cases htends with
  | settled hstanding honce =>
    exact (Tends.settled hstanding honce).stays hgrown hattached huntouched
  | begins asked refused htracked hthere hmiss hoffered honce =>
    rw [← hrefused] at hmiss
    rw [← hrefused, ← hoffers] at hoffered
    rw [← hattached] at honce
    exact .begins asked refused htracked (hknown.trans hthere) hmiss hoffered honce
  | restarts asked htracked hthere hnot honce =>
    rw [← hrefused] at hnot
    exact .restarts asked htracked (hknown.trans hthere) hnot honce
  | ends others hmiss honce =>
    rw [← hrefused, ← hattached] at hmiss
    rw [← hattached] at honce
    exact .ends others hmiss honce

theorem Tends.of_lookup (htends : before.Tends outset path interface effects)
    (hgrown : outset.record <+: before.daemon.record)
    (hlookup : after.board.entry? path = before.board.entry? path)
    (huntouched : Untouched before.daemon.record after.daemon.record path interface) :
    after.Tends outset path interface effects := by
  have hkept : ∀ i, after.board.attached path i = before.board.attached path i := fun i => by
    rw [Switchboard.attached, Switchboard.attached, hlookup]
  have hoffers : after.board.offers path interface = before.board.offers path interface := by
    rw [Switchboard.offers, Switchboard.offers, hlookup]
  exact htends.of_untouched hgrown (hkept interface) (hkept .modem) hoffers huntouched

/-! Where a subscription is that is the next to be asked for or to be ended. -/

theorem Tends.tracked_of_watch
    (htends : before.Tends outset path interface (.watch path interface :: effects)) :
    interface ≠ .modem := by
  cases htends with
  | begins _ _ htracked => exact htracked

theorem Tends.known_of_watch
    (htends : before.Tends outset path interface (.watch path interface :: effects)) :
    before.board.attached path .modem = true := by
  cases htends with
  | begins _ _ _ hknown => exact hknown

/-- The interface is attached, and settled if it is not asked for again and need not be ended. -/
theorem Tends.granted
    (htends : before.Tends outset path interface (.watch path interface :: effects))
    (hgrown : outset.record <+: before.daemon.record)
    (hknown : after.board.attached path .modem = before.board.attached path .modem)
    (hyes : before.board.offers path interface = true)
    (hattached : after.board.attached path interface = true)
    (hrecord : after.daemon.record = before.daemon.record ++
      [⟨.watch path interface, none⟩, ⟨.properties path interface, none⟩]) :
    after.Tends outset path interface effects := by
  have hrefuses : Refused outset.record after.daemon.record path interface ↔
      Refused outset.record before.daemon.record path interface := by
    rw [hrecord]
    refine Recorded.refused_append_iff hgrown fun asked hmem _ => ?_
    simp only [List.mem_cons, List.not_mem_nil, or_false] at hmem
    rcases hmem with rfl | rfl <;> rfl
  cases htends with
  | begins asked refused htracked hthere hmiss hoffered honce =>
    rw [← hrefuses] at hmiss
    rw [← hrefuses] at hoffered
    cases asked with
    | succ asked =>
      exact .begins asked refused htracked (hknown.trans hthere) hmiss
        (fun hpos _ => hoffered hpos hyes)
        fun hone => absurd (honce hone).1 (Nat.succ_ne_zero asked)
    | zero =>
      cases refused with
      | succ refused =>
        exact .ends refused (fun _ => ⟨htracked, hoffered (Nat.succ_pos refused) hyes⟩)
          fun hone => absurd (honce hone).2.1 (Nat.succ_ne_zero refused)
      | zero =>
        have hkept : ¬ outset.Loses after.daemon.record path interface := by
          rintro (hlost | ⟨-, huntouched⟩)
          · exact absurd (hmiss hlost) (Nat.lt_irrefl 0)
          · rw [hrecord] at huntouched
            exact Recorded.not_untouched_append hgrown (.inl rfl) huntouched
        refine .settled (iff_of_true ?_ ⟨hattached, ?_⟩) fun _ _ _ => hkept
        · rw [hrecord]
          exact Recorded.grantedSince_loaded nofun
        · rw [if_neg htracked]
          exact hkept

/-- The interface is not attached by this, and is to be ended behind all else. -/
theorem Tends.refused
    (htends : before.Tends outset path interface (.watch path interface :: effects))
    (hanchored : before.board.Every Entry.Anchored)
    (hgrown : outset.record <+: before.daemon.record)
    (hknown : after.board.attached path .modem = before.board.attached path .modem)
    (hoffers : after.board.offers path interface = before.board.offers path interface)
    (hattached : after.board.attached path interface = before.board.attached path interface)
    (hrefused : before.board.offers path interface = true →
      Refused before.daemon.record after.daemon.record path interface) :
    after.Tends outset path interface (effects ++ [.unwatch path interface]) := by
  have hoffered : before.board.offers path interface = true →
      Refused outset.record after.daemon.record path interface :=
    fun hyes => (hrefused hyes).earlier hgrown
  cases htends with
  | begins asked refused htracked hthere hmiss _ honce =>
    rw [List.append_assoc, ← List.replicate_succ']
    cases asked with
    | succ asked =>
      exact .begins asked (refused + 1) htracked (hknown.trans hthere)
        (fun _ => Nat.succ_pos refused) (fun _ hyes => hoffered (hoffers.symm.trans hyes))
        fun hone => absurd (honce hone).1 (Nat.succ_ne_zero asked)
    | zero =>
      refine .ends refused (fun hyes => ⟨htracked, hoffered ?_⟩) fun hone =>
        hattached.trans (honce hone).2.2
      exact Switchboard.offers_of_attached hanchored htracked (hattached.symm.trans hyes)

/-- A subscription that is ended does not stand, and is settled once nothing more is to end it. -/
theorem Tends.ended
    (htends : before.Tends outset path interface (.unwatch path interface :: effects))
    (hgrown : outset.record <+: before.daemon.record) (hboard : after.board = before.board)
    (hrecord : after.daemon.record = before.daemon.record ++ [⟨.unwatch path interface, none⟩]) :
    after.Tends outset path interface effects := by
  have hrefuses : Refused outset.record after.daemon.record path interface ↔
      Refused outset.record before.daemon.record path interface := by
    rw [hrecord]
    refine Recorded.refused_append_iff hgrown fun asked hmem _ => ?_
    rw [List.mem_singleton.1 hmem]
  cases htends with
  | restarts asked htracked hknown hnot honce =>
    rw [← hrefuses] at hnot
    rw [← hboard] at hknown
    rw [← List.append_nil (List.replicate asked _)]
    exact .begins asked 0 htracked hknown (fun hyes => absurd hyes hnot)
      (fun hpos => absurd hpos (Nat.lt_irrefl 0)) fun hone => absurd hone honce
  | ends others hlost honce =>
    rw [← hrefuses, ← hboard] at hlost
    rw [← hboard] at honce
    cases others with
    | succ others => exact .ends others hlost honce
    | zero =>
      have hnot : ¬ Standing after.daemon.record path interface := by
        rw [hrecord]
        exact Recorded.not_standing_ended
      refine .settled (iff_of_false hnot ?_) fun hone _ hyes => ?_
      · rintro ⟨hyes, hkept⟩
        rw [if_neg (hlost hyes).1] at hkept
        exact hkept (.inl (hlost hyes).2)
      · cases (honce hone).symm.trans hyes

theorem Tending.of_same (htending : before.Tending outset effects)
    (hdaemon : after.daemon = before.daemon) (hboard : after.board = before.board) :
    after.Tending outset effects where
  anchored := hboard ▸ htending.anchored
  grown := hdaemon ▸ htending.grown
  tends path interface := (htending.tends path interface).of_lookup htending.grown
    (by rw [hboard]) (.of_eq (congrArg Recorded.record hdaemon))

end Tends

/-! ### Loading -/

theorem attached_eq_any (service : Service δ) (path : ModemPath) (interface : Interface) :
    service.board.attached path interface = (service.holding? path interface).any (·.attached) := by
  unfold Switchboard.attached holding?
  cases service.board.entry? path <;> rfl

theorem offers_eq_any (service : Service δ) (path : ModemPath) (interface : Interface) :
    service.board.offers path interface = (service.holding? path .modem).any fun holding =>
      interface == .modem || holding.offered.has interface := by
  unfold Switchboard.offers holding?
  cases service.board.entry? path <;> rfl

variable [Daemon δ] {service : Service (Recorded δ)} {path other : ModemPath}
  {loaded interface : Interface}

theorem untouched_load (service : Service (Recorded δ))
    (hne : ¬ (path = other ∧ loaded = interface)) :
    Untouched service.daemon.record (service.load path loaded).1.daemon.record other interface := by
  rw [daemon_load]
  rcases service.record_fetch path loaded with ⟨failure, -, hrecord⟩ | hrecord
  · refine ⟨_, hrecord, fun asked hmem => ?_⟩
    rw [List.mem_singleton.1 hmem, Demand.concerns_watch]
    exact hne
  · refine ⟨_, by rw [hrecord, List.append_assoc], fun asked hmem => ?_⟩
    simp only [List.singleton_append, List.mem_cons, List.not_mem_nil, or_false] at hmem
    rcases hmem with rfl | rfl
    · exact Demand.concerns_watch.not.2 hne
    · exact Demand.concerns_properties.not.2 hne

theorem grown_carryOut (service : Service (Recorded δ)) (effect : Effect) :
    service.daemon.record <+: (service.carryOut effect).1.daemon.record := by
  obtain ⟨more, hrecord, -⟩ := service.loads_carryOut effect
  exact ⟨more, hrecord.symm⟩

section Faithful

variable (hfaithful : Daemon.Faithful (Recorded δ))

include hfaithful

/-- Loading a tracked interface leaves what is held of all others. -/
theorem holding_load (htracked : loaded ≠ .modem) (hne : ¬ (path = other ∧ loaded = interface)) :
    (service.load path loaded).1.holding? other interface = service.holding? other interface := by
  unfold holding?
  rw [service.lookup_load path loaded other]
  by_cases hpath : path = other
  · subst hpath
    rw [if_pos rfl, Option.map_map]
    cases service.board.entry? path with
    | none => rfl
    | some entry =>
      have hload := service.board.loadEntry_of_ne path htracked
        (service.changes_fetch hfaithful path loaded) entry
      exact congrArg some (hload.1 interface fun hsame => hne ⟨rfl, hsame⟩)
  · rw [if_neg hpath]

theorem attached_load (htracked : loaded ≠ .modem) (hne : ¬ (path = other ∧ loaded = interface)) :
    (service.load path loaded).1.board.attached other interface =
      service.board.attached other interface := by
  rw [attached_eq_any, attached_eq_any, holding_load hfaithful htracked hne]

theorem offers_load (htracked : loaded ≠ .modem) :
    (service.load path loaded).1.board.offers other interface =
      service.board.offers other interface := by
  rw [offers_eq_any, offers_eq_any, holding_load hfaithful htracked fun hsame => htracked hsame.2]

theorem about_load (htracked : loaded ≠ .modem) (hne : ¬ (path = other ∧ loaded = interface)) :
    Effect.about (service.load path loaded).2 other interface = [] := by
  refine Effect.about_eq_nil fun effect hmem => ?_
  rw [effects_load] at hmem
  cases hentry : service.board.entry? path with
  | none =>
    rw [hentry] at hmem
    cases hmem
  | some entry =>
    rw [hentry] at hmem
    have hload := service.board.loadEntry_of_ne path htracked
      (service.changes_fetch hfaithful path loaded) entry
    rcases hload.2 effect hmem with rfl | ⟨epoch, rfl⟩
    · exact ⟨nofun, fun hsame => hne (by cases hsame; exact ⟨rfl, rfl⟩)⟩
    · exact ⟨nofun, nofun⟩

/-- An interface that was asked for is attached and its subscription granted, or the subscription is
to end; the daemon has refused then, unless the interface is not offered any more. -/
theorem load_cases (htracked : loaded ≠ .modem)
    (hknown : service.board.attached path .modem = true) :
    (service.board.offers path loaded = true ∧
        (service.load path loaded).1.board.attached path loaded = true ∧
        Effect.about (service.load path loaded).2 path loaded = [] ∧
        (service.load path loaded).1.daemon.record = service.daemon.record ++
          [⟨.watch path loaded, none⟩, ⟨.properties path loaded, none⟩]) ∨
      (service.load path loaded).1.board.attached path loaded =
          service.board.attached path loaded ∧
        Effect.about (service.load path loaded).2 path loaded = [.unwatch path loaded] ∧
        (service.board.offers path loaded = true →
          Refused service.daemon.record (service.load path loaded).1.daemon.record path
            loaded) := by
  obtain ⟨entry, hentry⟩ := Switchboard.exists_entry_of_attached hknown
  have hlookup := service.lookup_load path loaded path
  have heffects := service.effects_load path loaded
  rw [if_pos rfl, hentry, Option.map_some] at hlookup
  rw [hentry, Option.map_some, Option.getD_some] at heffects
  rw [Switchboard.offers_of_entry hentry, Switchboard.attached_of_entry hentry,
    Switchboard.attached_of_entry hlookup, heffects, daemon_load]
  have hends : Effect.about (Switchboard.refusal path loaded).effects path loaded =
      [.unwatch path loaded] := by
    rw [Switchboard.refusal, if_neg htracked]
    simp [Effect.about, Outcome.ofEffect]
  cases hoffered : entry.offers loaded with
  | false =>
    rw [Switchboard.loadEntry_of_withdrawn hoffered]
    exact .inr ⟨rfl, hends, fun hyes => absurd hyes Bool.false_ne_true⟩
  | true =>
    cases hfetch : (service.fetch path loaded).1 with
    | error failure =>
      rw [Switchboard.loadEntry_error]
      refine .inr ⟨rfl, hends, fun _ => ?_⟩
      rcases service.record_fetch path loaded with ⟨reason, -, hrecord⟩ | hrecord
      · rw [hrecord]
        exact Recorded.refused_append.2
          ⟨_, List.mem_cons_self, .inl rfl, Option.some_ne_none reason⟩
      · rw [hrecord, hfetch, List.append_assoc]
        exact Recorded.refused_append.2
          ⟨_, .tail _ List.mem_cons_self, .inr (.inr rfl), Option.some_ne_none failure⟩
    | ok properties =>
      have hhas : entry.modem.state.interfaces.has loaded = true := by
        simpa [Entry.offers, htracked] using hoffered
      obtain ⟨hholding, hreplays⟩ := service.board.loadEntry_attached path htracked
        (service.changes_fetch hfaithful path loaded properties hfetch) hhas
      refine .inl ⟨rfl, congrArg Holding.attached hholding, Effect.about_eq_nil ?_, ?_⟩
      · intro effect hmem
        obtain ⟨epoch, rfl⟩ := hreplays effect hmem
        exact ⟨by simp, by simp⟩
      · rcases service.record_fetch path loaded with ⟨failure, herror, -⟩ | hrecord
        · cases hfetch.symm.trans herror
        · rw [hrecord, hfetch, List.append_assoc]
          rfl

theorem Tends.load {outset : Outset} {rest : List Effect}
    (htends : service.Tends outset path loaded (.watch path loaded :: rest))
    (hanchored : service.board.Every Entry.Anchored)
    (hgrown : outset.record <+: service.daemon.record) :
    (service.load path loaded).1.Tends outset path loaded
      (rest ++ Effect.about (service.load path loaded).2 path loaded) := by
  have htracked := htends.tracked_of_watch
  have hmodem : ¬ (path = path ∧ loaded = .modem) := fun hsame => htracked hsame.2
  have hknown : (service.load path loaded).1.board.attached path .modem =
      service.board.attached path .modem := attached_load hfaithful htracked hmodem
  rcases load_cases hfaithful htracked htends.known_of_watch with
    ⟨hyes, hattached, hquiet, hrecord⟩ | ⟨hattached, hends, hrefused⟩
  · rw [hquiet, List.append_nil]
    exact htends.granted hgrown hknown hyes hattached hrecord
  · rw [hends]
    exact htends.refused hanchored hgrown hknown (offers_load hfaithful htracked) hattached
      hrefused

/-! ### Effects in a row -/

/-- What an effect has to do with other subscriptions: nothing. -/
theorem carryOut_elsewhere (service : Service (Recorded δ)) {effect : Effect}
    (hmodem : ∀ other, effect ≠ .watch other .modem)
    (hother : ¬ (effect = .watch path interface ∨ effect = .unwatch path interface)) :
    (∀ outset queue, outset.record <+: service.daemon.record →
        service.Tends outset path interface queue →
          (service.carryOut effect).1.Tends outset path interface queue) ∧
      Effect.about (service.carryOut effect).2 path interface = [] := by
  cases effect with
  | watch other loaded =>
    have htracked : loaded ≠ .modem := by
      rintro rfl
      exact hmodem other rfl
    have hne : ¬ (other = path ∧ loaded = interface) := fun hsame =>
      hother (.inl (by rw [hsame.1, hsame.2]))
    have hknown : ¬ (other = path ∧ loaded = .modem) := fun hsame => htracked hsame.2
    refine ⟨fun outset queue hgrown htends => ?_, about_load hfaithful htracked hne⟩
    exact htends.of_untouched hgrown (attached_load hfaithful htracked hne)
      (attached_load hfaithful htracked hknown) (offers_load hfaithful htracked)
      (untouched_load service hne)
  | unwatch other ended =>
    have huntouched : Untouched service.daemon.record
        (service.carryOut (.unwatch other ended)).1.daemon.record path interface := by
      refine ⟨_, rfl, fun asked hmem => ?_⟩
      rw [List.mem_singleton.1 hmem, Demand.concerns_unwatch]
      exact fun hsame => hother (.inr (by rw [hsame.1, hsame.2]))
    exact ⟨fun outset queue hgrown htends => htends.of_untouched hgrown rfl rfl rfl huntouched, rfl⟩
  | replay other epoch =>
    exact ⟨fun outset queue hgrown htends =>
      htends.of_untouched hgrown rfl rfl rfl (.of_eq rfl), rfl⟩
  | fail other requests =>
    obtain ⟨answered, hfail⟩ := service.fail_eq other requests
    rw [hfail]
    exact ⟨fun outset queue hgrown htends =>
      htends.of_untouched hgrown rfl rfl rfl (.of_eq rfl), rfl⟩

/-- Carrying out the first of the effects leaves all subscriptions where the others tell, and those
that it asks for. -/
theorem Tending.carryOut {outset : Outset} {effect : Effect} {rest : List Effect}
    (htending : service.Tending outset (effect :: rest)) :
    (service.carryOut effect).1.Tending outset (rest ++ (service.carryOut effect).2) where
  anchored := (service.leads_carryOut effect).every Entry.lasting_anchored htending.anchored
  grown := htending.grown.trans (service.grown_carryOut effect)
  tends path interface := by
    -- No modem is loaded any more: its own subscription only ends.
    have hmodem : ∀ other, effect ≠ .watch other .modem := by
      rintro other rfl
      have htends := htending.tends other .modem
      rw [Effect.about, List.filter_cons_of_pos (by simp)] at htends
      exact htends.tracked_of_watch rfl
    have htends := htending.tends path interface
    rw [Effect.about_append]
    by_cases hmine : effect = .watch path interface ∨ effect = .unwatch path interface
    · rw [Effect.about, List.filter_cons_of_pos (by simpa using hmine)] at htends
      rcases hmine with rfl | rfl
      · exact htends.load hfaithful htending.anchored htending.grown
      · rw [show Effect.about (service.carryOut (.unwatch path interface)).2 path interface = []
          from rfl, List.append_nil]
        exact htends.ended htending.grown rfl rfl
    · obtain ⟨hkept, hquiet⟩ := carryOut_elsewhere hfaithful service hmodem hmine
      rw [Effect.about_cons rest hmine] at htends
      rw [hquiet, List.append_nil]
      exact hkept outset _ htending.grown htends

/-- Once nothing is left to be carried out, all subscriptions are settled. -/
theorem Tending.works {outset : Outset} {effects : List Effect} {after : Service (Recorded δ)}
    (htending : service.Tending outset effects) (hworks : Works service effects after) :
    after.Tending outset [] := by
  induction hworks with
  | done => exact htending
  | step _ ih => exact ih (htending.carryOut hfaithful)

end Faithful

end Service

end Telephony

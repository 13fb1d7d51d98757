import Telephony.Proofs.News.Farewells

/-!
# Partings

What the operations of a board but a flush tell: farewells, of what was attached before the operation
or was brought by it and is not attached after it, and nothing else.
-/

namespace Telephony

namespace Switchboard

open Delivery (about)

/-! ### What comes and what ends -/

/-- Whether the interface of the modem is attached; the modem's own is while the modem is known. -/
def attached (board : Switchboard) (path : ModemPath) (interface : Interface) : Bool :=
  (board.entry? path).any (·.attached interface)

/-- Whether the operation attaches the interface: that of a modem by its arrival, any other as it is
loaded and still offered. -/
def brings (board : Switchboard) (path : ModemPath) (interface : Interface) : Operation → Bool
  | .apply (.modemAdded added _) => added = path ∧ interface = .modem
  | .loaded loaded come (.ok _) =>
    loaded = path ∧ come = interface ∧ (board.entry? path).any (·.offers interface) = true
  | _ => false

/-- Whether the interface is there in the course of the operation. -/
def holds (board : Switchboard) (path : ModemPath) (interface : Interface)
    (operation : Operation) : Bool :=
  board.attached path interface || board.brings path interface operation

/-- Whether the interface is taken away by the operation, by which it may have been brought. -/
def ends (board : Switchboard) (path : ModemPath) (interface : Interface)
    (operation : Operation) : Bool :=
  board.holds path interface operation && !(board.perform operation).attached path interface

variable {board : Switchboard} {path : ModemPath} {interface : Interface} {entry : Entry}

theorem attached_of_entry (hentry : board.entry? path = some entry) (interface : Interface) :
    board.attached path interface = entry.attached interface := by
  rw [attached, hentry, Option.any_some]

theorem attached_of_unknown (hentry : board.entry? path = none) (interface : Interface) :
    board.attached path interface = false := by
  rw [attached, hentry, Option.any_none]

/-! ### One operation -/

/-- The operation attaches what it brings, and tells of what it takes away by its farewell, and of
nothing else. -/
structure Parts (board : Switchboard) (operation : Operation) : Prop where
  attached : ∀ path interface, (board.perform operation).attached path interface = true →
    board.holds path interface operation = true
  told : ∀ path interface, about (board.delivers operation) path interface =
    if board.ends path interface operation = true then
      interface.farewell.map (board.observers.deliver path)
    else []
  last : ∀ path entry, board.entry? path = some entry →
    Switchboard.entry? (board.perform operation) path = none →
    (board.delivers operation).filter (·.path = path) =
      entry.farewells.map (board.observers.deliver path)

theorem Parts.of_kept {operation : Operation}
    (hkept : ∀ path interface, (board.perform operation).attached path interface =
      board.attached path interface)
    (hbrings : ∀ path interface, board.brings path interface operation = true →
      board.attached path interface = true)
    (hnone : board.delivers operation = []) : board.Parts operation where
  attached path interface hafter := by
    rw [holds, ← hkept, hafter, Bool.true_or]
  told path interface := by
    have hends : board.ends path interface operation = false := by
      have hbrought : board.holds path interface operation = board.attached path interface := by
        cases hattached : board.attached path interface with
        | true => rw [holds, hattached, Bool.true_or]
        | false =>
          rw [holds, hattached, Bool.false_or]
          exact Bool.eq_false_iff.2 fun hyes => Bool.false_ne_true
            (hattached.symm.trans (hbrings path interface hyes))
      rw [ends, hkept, hbrought, Bool.and_not_self]
    rw [hnone, hends]
    rfl
  last path entry hentry hgone := by
    have hknown := hkept path .modem
    rw [attached_of_unknown hgone, attached_of_entry hentry] at hknown
    cases hknown

theorem Parts.of_quiet {operation : Operation}
    (hkept : ∀ path interface, (board.perform operation).attached path interface =
      board.attached path interface)
    (hquiet : ∀ path interface, board.brings path interface operation = false)
    (hnone : board.delivers operation = []) : board.Parts operation := by
  refine .of_kept hkept (fun path interface hbrings => ?_) hnone
  rw [hquiet] at hbrings
  cases hbrings

/-- A step on one entry, from which the interface may have been brought before. -/
theorem Parts.of_entry {operation : Operation} {start : Entry} {result : Entry × Outcome}
    (hparts : start.Parts board.observers path result)
    (hafter : ∀ other, Switchboard.entry? (board.perform operation) other =
      if path = other then some result.1 else board.entry? other)
    (hdelivers : board.delivers operation = result.2.deliveries)
    (hholds : ∀ interface, board.holds path interface operation = start.attached interface)
    (hbrings : ∀ other interface, path ≠ other → board.brings other interface operation = false) :
    board.Parts operation where
  attached other interface hattached := by
    have hlookup := hafter other
    split at hlookup
    · next hsame =>
      subst hsame
      rw [attached_of_entry hlookup] at hattached
      exact (hholds interface).trans (hparts.attached interface hattached)
    · rw [Switchboard.attached, hlookup] at hattached
      rw [holds, Switchboard.attached, hattached, Bool.true_or]
  told other interface := by
    have hlookup := hafter other
    split at hlookup
    · next hsame =>
      subst hsame
      rw [hdelivers, hparts.told, ends, hholds, attached_of_entry hlookup]
      simp
    · next hne =>
      have hends : board.ends other interface operation = false := by
        rw [ends, holds, hbrings other interface hne, Switchboard.attached, Switchboard.attached,
          hlookup, Bool.or_false, Bool.and_not_self]
      rw [hends, hdelivers]
      exact Delivery.about_of_path_ne fun delivery hmem hon =>
        hne ((hparts.path delivery hmem).symm.trans hon)
  last other entry hentry hgone := by
    rw [hafter] at hgone
    split at hgone
    · cases hgone
    · cases hentry.symm.trans hgone

/-- What happened to each modem when some were removed. -/
def Departed (before : Switchboard) (result : Switchboard × Outcome) (path : ModemPath) : Prop :=
  (Switchboard.entry? result.1 path = before.entry? path ∧
    result.2.deliveries.filter (·.path = path) = []) ∨
  ∃ entry, before.entry? path = some entry ∧ Switchboard.entry? result.1 path = none ∧
    result.2.deliveries.filter (·.path = path) =
      entry.farewells.map (before.observers.deliver path)

theorem deliveries_removeModem (hentry : board.entry? path = some entry) :
    (board.removeModem path).2.deliveries =
      entry.farewells.map (board.observers.deliver path) := by
  rw [← Entry.deliveries_detachAll_tracked]
  simp only [removeModem, hentry, Outcome.deliveries_append]

theorem Departed.removeModem {before after : Switchboard} {outcome : Outcome} {other : ModemPath}
    (hobservers : after.observers = before.observers)
    (hdeparted : before.Departed (after, outcome) other) (path : ModemPath) :
    before.Departed ((after.removeModem path).1, outcome ++ (after.removeModem path).2) other := by
  have hlookup := lookup_removeModem after path other
  cases hthere : after.entry? path with
  | none =>
    rw [removeModem_of_unknown hthere]
    have hsame : outcome ++ ∅ = outcome := congrArg₂ Outcome.mk (List.append_nil _)
      (List.append_nil _)
    rwa [hsame]
  | some entry =>
    have hpath := path_deliveries_removeModem after path
    by_cases hother : path = other
    · subst hother
      have hall : (after.removeModem path).2.deliveries.filter (·.path = path) =
          (after.removeModem path).2.deliveries :=
        List.filter_eq_self.2 fun delivery hmem => decide_eq_true (hpath delivery hmem)
      rcases hdeparted with ⟨hleft, hsilent⟩ | ⟨before, -, hgone, -⟩
      · refine .inr ⟨entry, hleft.symm.trans hthere, hlookup.trans (if_pos rfl), ?_⟩
        rw [Outcome.deliveries_append, List.filter_append, hsilent, hall,
          deliveries_removeModem hthere, hobservers, List.nil_append]
      · cases hgone.symm.trans hthere
    · have hnone : (after.removeModem path).2.deliveries.filter (·.path = other) = [] :=
        List.filter_eq_nil_iff.2 fun delivery hmem hon =>
          hother ((hpath delivery hmem).symm.trans (of_decide_eq_true hon))
      have hkept := hlookup.trans (if_neg hother)
      have htold : (outcome ++ (after.removeModem path).2).deliveries.filter (·.path = other) =
          outcome.deliveries.filter (·.path = other) := by
        rw [Outcome.deliveries_append, List.filter_append, hnone, List.append_nil]
      rcases hdeparted with ⟨hleft, hsilent⟩ | ⟨entry, hentry, hgone, hfarewells⟩
      · exact .inl ⟨hkept.trans hleft, htold.trans hsilent⟩
      · exact .inr ⟨entry, hentry, hkept.trans hgone, htold.trans hfarewells⟩

theorem Parts.of_departed {operation : Operation}
    (hdeparted : ∀ path, board.Departed
      (board.perform operation, ⟨[], board.delivers operation⟩) path)
    (hbrings : ∀ path interface, board.brings path interface operation = false) :
    board.Parts operation where
  attached path interface hattached := by
    rcases hdeparted path with ⟨hleft, -⟩ | ⟨entry, -, hgone, -⟩
    · rw [Switchboard.attached, hleft] at hattached
      rw [holds, Switchboard.attached, hattached, Bool.true_or]
    · rw [attached_of_unknown hgone] at hattached
      cases hattached
  told path interface := by
    rw [← Delivery.about_filter, ends, holds, hbrings, Bool.or_false]
    rcases hdeparted path with ⟨hleft, hsilent⟩ | ⟨entry, hentry, hgone, hfarewells⟩
    · rw [hsilent, Switchboard.attached, Switchboard.attached, hleft, Bool.and_not_self]
      rfl
    · rw [hfarewells, Entry.about_farewells, attached_of_entry hentry, attached_of_unknown hgone]
      simp
  last path entry hentry hnone := by
    rcases hdeparted path with ⟨hleft, -⟩ | ⟨known, hknown, -, hfarewells⟩
    · cases hnone.symm.trans (hleft.trans hentry)
    · cases hknown.symm.trans hentry
      exact hfarewells

theorem departed_removeModem (board : Switchboard) (path other : ModemPath) :
    board.Departed (board.removeModem path) other := by
  have hnone : board.Departed (board, ∅) other := .inl ⟨rfl, rfl⟩
  exact hnone.removeModem rfl path

theorem departed_clear (board : Switchboard) (path : ModemPath) :
    board.Departed board.clear path := by
  have hcleared : board.clear.1.observers = board.observers ∧ board.Departed board.clear path :=
    clear_keeps (fun result => result.1.observers = board.observers ∧ board.Departed result path)
      (fun after _ gone hkept => ⟨(observers_removeModem after gone).trans hkept.1,
        hkept.2.removeModem hkept.1 gone⟩)
      ⟨rfl, .inl ⟨rfl, rfl⟩⟩
  exact hcleared.2

theorem parts_addModem (board : Switchboard) (path : ModemPath) (properties : List Change) :
    board.Parts (.apply (.modemAdded path properties)) := by
  have hparts := (Entry.parts_changeAll board.observers path ((board.entry? path).getD .new)
    properties).mark .modem
  refine Parts.of_entry hparts (lookup_addModem board path properties) ?_ ?_ ?_
  · simp only [delivers, apply, addModem]
    cases board.knows path <;> rfl
  · intro interface
    cases hentry : board.entry? path with
    | some entry =>
      rw [Option.getD_some, holds, attached_of_entry hentry]
      cases interface <;> simp [brings, Entry.attached]
    | none =>
      rw [Option.getD_none, holds, attached_of_unknown hentry]
      cases interface <;> simp [brings, Entry.attached, Entry.new, Requests.isPending]
  · intro other interface hne
    simp [brings, hne]

theorem parts_change (board : Switchboard) (path : ModemPath) (change : Change) :
    board.Parts (.apply (.propertyChanged path change)) := by
  cases hentry : board.entry? path with
  | none =>
    refine .of_quiet (fun other interface => ?_) (fun _ _ => rfl) ?_
    · simp only [perform, apply, onEntry, hentry]
    · simp only [delivers, apply, onEntry, hentry, Outcome.deliveries_empty]
  | some entry =>
    have hparts := Entry.parts_change board.observers path entry change
    refine Parts.of_entry hparts (fun other => ?_) ?_ (fun interface => ?_) fun _ _ _ => rfl
    · have hlookup := lookup_onEntry board path (·.change board.observers path change) other
      rwa [hentry] at hlookup
    · simp only [delivers, apply, onEntry, hentry]
    · rw [holds, attached_of_entry hentry]
      exact Bool.or_false _

theorem delivers_loaded (hentry : board.entry? path = some entry) (interface : Interface)
    (result : Except Failure (List Change)) :
    board.delivers (.loaded path interface result) =
      (board.loadEntry path interface result entry).2.deliveries := by
  obtain ⟨drains, hloaded⟩ := board.loaded_eq path interface result
  rw [delivers, hloaded, onEntry, hentry]

theorem attached_congr {before after : Switchboard}
    (hlookup : ∀ path, after.entry? path = before.entry? path) (path : ModemPath)
    (interface : Interface) : after.attached path interface = before.attached path interface := by
  rw [attached, attached, hlookup]

/-- What is not attached after all is not brought either. -/
theorem parts_refused {come : Interface} {result : Except Failure (List Change)}
    (hentry : board.entry? path = some entry)
    (hrefused : board.loadEntry path come result entry = (entry, refusal path come))
    (hbrings : ∀ other interface, board.brings other interface (.loaded path come result) = false) :
    board.Parts (.loaded path come result) := by
  refine .of_kept (attached_congr fun other => ?_) (fun other interface hyes => ?_) ?_
  · refine (board.lookup_loaded path come result other).trans ?_
    rw [hentry, Option.map_some, hrefused]
    split
    · next hsame => rw [← hsame, hentry]
    · rfl
  · cases (hbrings other interface).symm.trans hyes
  · rw [delivers_loaded hentry, hrefused, refusal]
    split <;> rfl

theorem parts_loaded (board : Switchboard) (path : ModemPath) (come : Interface)
    (result : Except Failure (List Change)) : board.Parts (.loaded path come result) := by
  have hlookup := board.lookup_loaded path come result
  cases hentry : board.entry? path with
  | none =>
    rw [hentry, Option.map_none] at hlookup
    refine .of_kept (attached_congr fun other => (hlookup other).trans ?_) ?_ ?_
    · split
      · next hsame => rw [← hsame, hentry]
      · rfl
    · intro other interface hyes
      cases result with
      | error failure => cases hyes
      | ok properties =>
        obtain ⟨rfl, -, hoffered⟩ := of_decide_eq_true hyes
        rw [hentry] at hoffered
        cases hoffered
    · obtain ⟨drains, hloaded⟩ := board.loaded_eq path come result
      rw [delivers, hloaded, onEntry, hentry]
      rfl
  | some entry =>
    rw [hentry, Option.map_some] at hlookup
    cases result with
    | error failure =>
      exact parts_refused hentry (loadEntry_error board path come failure entry) fun _ _ => rfl
    | ok properties =>
      cases hoffered : entry.offers come with
      | false =>
        refine parts_refused hentry (loadEntry_of_withdrawn hoffered board path _) ?_
        refine fun other interface => decide_eq_false ?_
        rintro ⟨rfl, rfl, hyes⟩
        rw [hentry, Option.any_some, hoffered] at hyes
        cases hyes
      | true =>
        let start := (entry.attach path (board.drains + 1) come).1
        have hparts := (Entry.parts_changeAll board.observers path start properties).mark come
        rw [loadEntry_ok hoffered] at hlookup
        refine Parts.of_entry hparts hlookup ?_ (fun interface => ?_) fun other interface hne => ?_
        · rw [delivers_loaded hentry, loadEntry_ok hoffered]
          simp [Entry.deliveries_attach, start]
        · rw [holds, attached_of_entry hentry]
          by_cases hsame : come = interface
          · subst hsame
            have hcome := congrArg Holding.attached
              (Entry.holding_attach path (board.drains + 1) entry come)
            simp only [Entry.holding] at hcome
            simp [start, brings, hentry, hoffered, hcome]
          · have hcome := congrArg Holding.attached
              (Entry.holding_attach_of_ne path (board.drains + 1) entry hsame)
            simp only [Entry.holding] at hcome
            simp [start, brings, hsame, hcome]
        · simp [brings, hne]

theorem attached_of_requeues {after : Switchboard} (hrequeues : board.Requeues after)
    (other : ModemPath) (interface : Interface) :
    after.attached other interface = board.attached other interface := by
  cases hrequeues with
  | kept hmodems =>
    unfold Switchboard.attached entry?
    rw [hmodems]
  | @queued path entry requests hentry hpending hmodems =>
    have hlookup : after.entry? other =
        if path = other then some { entry with requests } else board.entry? other := by
      unfold entry?
      rw [hmodems]
      exact Table.get?_insert board.modems path other _
    split at hlookup
    · next hsame =>
      subst hsame
      rw [attached_of_entry hlookup, attached_of_entry hentry, entry.attached_requests hpending]
    · rw [Switchboard.attached, Switchboard.attached, hlookup]

theorem parts_perform (board : Switchboard) {operation : Operation}
    (hoperation : operation ≠ .flush) : board.Parts operation := by
  cases operation with
  | flush => exact absurd rfl hoperation
  | apply event =>
    cases event with
    | modemAdded path properties => exact parts_addModem board path properties
    | modemRemoved path => exact .of_departed (departed_removeModem board path) fun _ _ => rfl
    | propertyChanged path change => exact parts_change board path change
  | loaded path interface result => exact parts_loaded board path interface result
  | clear => exact .of_departed (departed_clear board) fun _ _ => rfl
  | submit path code ticket =>
    exact .of_quiet (attached_of_requeues (board.requeues_submit path code ticket))
      (fun _ _ => rfl) rfl
  | nextQueued path epoch =>
    exact .of_quiet (attached_of_requeues (board.requeues_nextQueued path epoch))
      (fun _ _ => rfl) rfl
  | arm id => exact .of_quiet (attached_of_requeues (board.requeues_arm id)) (fun _ _ => rfl) rfl
  | beginSession =>
    exact .of_quiet (attached_of_requeues board.requeues_beginSession) (fun _ _ => rfl) rfl
  | beginCall path => exact .of_quiet (fun _ _ => rfl) (fun _ _ => rfl) rfl
  | finishCall id => exact .of_quiet (fun _ _ => rfl) (fun _ _ => rfl) rfl
  | cancel id => exact .of_quiet (fun _ _ => rfl) (fun _ _ => rfl) rfl
  | subscribe topic listener => exact .of_quiet (fun _ _ => rfl) (fun _ _ => rfl) rfl
  | unsubscribe subscription => exact .of_quiet (fun _ _ => rfl) (fun _ _ => rfl) rfl
  | endSession => exact .of_quiet (fun _ _ => rfl) (fun _ _ => rfl) rfl

end Switchboard

end Telephony

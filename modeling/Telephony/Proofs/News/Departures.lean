import Telephony.Proofs.News.Partings

/-!
# Departures

What a whole run of a board tells of the interfaces that come and go. A flush tells the tracked state
of what is attached; all other news are farewells. Whatever has been bidden farewell is not heard of
before it is brought again.
-/

namespace Telephony

namespace Switchboard

open Delivery (about)

/-- No operation of the run attaches the interface. -/
def NeverBrings (board : Switchboard) (path : ModemPath) (interface : Interface) :
    List Operation → Prop
  | [] => True
  | operation :: rest => board.brings path interface operation = false ∧
      (board.perform operation).NeverBrings path interface rest

/-- All that a run has delivered. -/
def deliveries (board : Switchboard) : List Operation → List Delivery
  | [] => []
  | operation :: rest => board.delivers operation ++ (board.perform operation).deliveries rest

variable {board : Switchboard} {path : ModemPath} {interface : Interface} {entry : Entry}

/-! ### Flushes -/

theorem attached_flush (board : Switchboard) (path : ModemPath) (interface : Interface) :
    (board.perform .flush).attached path interface = board.attached path interface := by
  have hlookup : Switchboard.entry? (board.perform .flush) path =
      (board.entry? path).map Entry.told := board.lookup_flush path
  cases hentry : board.entry? path with
  | none =>
    rw [hentry] at hlookup
    rw [attached_of_unknown hentry, attached_of_unknown hlookup]
  | some entry =>
    rw [hentry] at hlookup
    rw [attached_of_entry hentry, attached_of_entry hlookup]
    cases interface <;> simp [Entry.attached, Entry.told]

theorem mem_flush {delivery : Delivery} (hmem : delivery ∈ board.flush.2) :
    ∃ entry, board.entry? delivery.path = some entry ∧ delivery.news ∈ entry.news := by
  obtain ⟨⟨path, entry⟩, hentry, hmade⟩ := List.mem_flatMap.1 hmem
  obtain ⟨news, hnews, rfl⟩ := List.mem_map.1 hmade
  exact ⟨entry, Table.lookup_of_mem board.modems.keys_nodup hentry, hnews⟩

theorem attached_of_mem_flush {delivery : Delivery} (hmem : delivery ∈ board.flush.2) :
    board.attached delivery.path delivery.news.subject = true := by
  obtain ⟨entry, hentry, hnews⟩ := mem_flush hmem
  rw [attached_of_entry hentry]
  exact Entry.attached_of_mem_news hnews

/-! ### Tracked states -/

theorem live_run (operations : List Operation) :
    ((∅ : Switchboard).run operations).Every Entry.Live :=
  (every_empty Entry.Live).run Entry.lasting_live operations

/-! ### Runs -/

theorem holds_of_mem_delivers (board : Switchboard) (operation : Operation) {delivery : Delivery}
    (hmem : delivery ∈ board.delivers operation) :
    board.holds delivery.path delivery.news.subject operation = true := by
  by_cases hflush : operation = .flush
  · subst hflush
    rw [holds, attached_of_mem_flush hmem, Bool.true_or]
  · have habout : delivery ∈ about (board.delivers operation) delivery.path delivery.news.subject :=
      List.mem_filter.2 ⟨hmem, decide_eq_true ⟨rfl, rfl⟩⟩
    rw [(board.parts_perform hflush).told] at habout
    split at habout
    · next hends => exact (Bool.and_eq_true_iff.1 hends).1
    · cases habout

theorem attached_perform (board : Switchboard) (operation : Operation)
    (hattached : (board.perform operation).attached path interface = true) :
    board.holds path interface operation = true := by
  by_cases hflush : operation = .flush
  · subst hflush
    rw [holds, ← attached_flush, hattached, Bool.true_or]
  · exact (board.parts_perform hflush).attached path interface hattached

/-- Nothing is told of an interface that is away and does not come. -/
theorem about_of_neverBrings {operations : List Operation}
    (haway : board.attached path interface = false)
    (hnever : board.NeverBrings path interface operations) :
    about (board.deliveries operations) path interface = [] := by
  induction operations generalizing board with
  | nil => rfl
  | cons operation rest ih =>
    have hout : board.holds path interface operation = false := by
      rw [holds, haway, hnever.1, Bool.false_or]
    have haways : (board.perform operation).attached path interface = false :=
      Bool.eq_false_iff.2 fun hattached =>
        Bool.false_ne_true (hout.symm.trans (board.attached_perform operation hattached))
    have hnow : about (board.delivers operation) path interface = [] := by
      refine List.filter_eq_nil_iff.2 fun delivery hmem hon => ?_
      obtain ⟨rfl, rfl⟩ := of_decide_eq_true hon
      exact Bool.false_ne_true (hout.symm.trans (board.holds_of_mem_delivers operation hmem))
    rw [deliveries, Delivery.about_append, hnow, ih haways hnever.2, List.append_nil]

/-- A modem that is unknown stays unknown, and nothing of it comes, until it is announced. -/
theorem neverBrings_of_unknown {operations : List Operation} (hentry : board.entry? path = none)
    (hsilent : ∀ properties, .apply (.modemAdded path properties) ∉ operations)
    (interface : Interface) : board.NeverBrings path interface operations := by
  induction operations generalizing board with
  | nil => trivial
  | cons operation rest ih =>
    have hnone : ∀ interface, board.brings path interface operation = false := by
      intro interface
      rw [Bool.eq_false_iff]
      intro hyes
      unfold brings at hyes
      split at hyes
      · obtain ⟨rfl, -⟩ := of_decide_eq_true hyes
        exact hsilent _ List.mem_cons_self
      · obtain ⟨-, -, hoffered⟩ := of_decide_eq_true hyes
        rw [hentry] at hoffered
        cases hoffered
      · cases hyes
    refine ⟨hnone interface, ih ?_ fun properties hmem => hsilent properties (.tail _ hmem)⟩
    cases hafter : Switchboard.entry? (board.perform operation) path with
    | none => rfl
    | some entry =>
      have hholds := board.attached_perform operation (attached_of_entry hafter .modem)
      rw [holds, attached_of_unknown hentry, hnone] at hholds
      cases hholds

/-- After an operation what has ended is bidden farewell, once and before its modem, and is not heard
of again before it comes back; all other news are of what is attached, with its tracked state. -/
structure TakesLeave (board : Switchboard) (operation : Operation) : Prop where
  tracked : ∀ delivery ∈ board.delivers operation, delivery.news.isTracked = true ∨
    board.ends delivery.path delivery.news.subject operation = true ∧
      delivery.news ∈ delivery.news.subject.farewell
  once : ∀ path interface, board.ends path interface operation = true →
    about (board.delivers operation) path interface =
      interface.farewell.map (board.observers.deliver path)
  silent : ∀ path interface later, (board.perform operation).attached path interface = false →
    (board.perform operation).NeverBrings path interface later →
    about ((board.perform operation).deliveries later) path interface = []
  last : ∀ path entry, board.entry? path = some entry →
    Switchboard.entry? (board.perform operation) path = none →
    (board.delivers operation).filter (·.path = path) =
      entry.farewells.map (board.observers.deliver path)
  gone : ∀ path later, Switchboard.entry? (board.perform operation) path = none →
    (∀ properties, .apply (.modemAdded path properties) ∉ later) →
    ∀ delivery ∈ (board.perform operation).deliveries later, delivery.path ≠ path

/-- Whatever has been done to a switchboard, it takes leave of all that ends next. -/
theorem takesLeave_run (operations : List Operation) (operation : Operation) :
    ((∅ : Switchboard).run operations).TakesLeave operation := by
  have hlive := live_run operations
  generalize (∅ : Switchboard).run operations = board at hlive
  refine ⟨fun delivery hmem => ?_, fun path interface hends => ?_, fun path interface later => ?_,
    fun path entry hentry hgone => ?_, fun path later hgone hsilent delivery hmem hpath => ?_⟩
  · by_cases hflush : operation = .flush
    · subst hflush
      obtain ⟨entry, hentry, hnews⟩ := mem_flush hmem
      exact .inl ((hlive _ entry hentry).isTracked_of_mem_news hnews)
    · have habout : delivery ∈ about (board.delivers operation) delivery.path
          delivery.news.subject := List.mem_filter.2 ⟨hmem, decide_eq_true ⟨rfl, rfl⟩⟩
      rw [(board.parts_perform hflush).told] at habout
      split at habout
      · next hends =>
        obtain ⟨news, hnews, hmade⟩ := List.mem_map.1 habout
        have hsame : news = delivery.news := congrArg Delivery.news hmade
        exact .inr ⟨hends, hsame ▸ hnews⟩
      · cases habout
  · have hflush : operation ≠ .flush := by
      rintro rfl
      rw [ends, holds, attached_flush] at hends
      cases hattached : board.attached path interface <;> simp [hattached, brings] at hends
    rw [(board.parts_perform hflush).told, if_pos hends]
  · exact about_of_neverBrings
  · have hflush : operation ≠ .flush := by
      rintro rfl
      rw [perform, lookup_flush, hentry] at hgone
      cases hgone
    exact (board.parts_perform hflush).last path entry hentry hgone
  · have hnever := neverBrings_of_unknown hgone hsilent delivery.news.subject
    have hnone := about_of_neverBrings (attached_of_unknown hgone _) hnever
    have habout := List.filter_eq_nil_iff.1 hnone delivery hmem
    exact habout (decide_eq_true ⟨hpath, rfl⟩)

end Switchboard

end Telephony

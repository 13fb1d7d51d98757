import Telephony.Proofs.Subscriptions.Offers

/-!
# Changes in any order

Properties come out of a dictionary in no particular order, and after a load they come one by one.
Changes of distinct properties commute: each sets a field of its own, and though a signal strength
is told or not as the technology is known or not, a change of the technology is always told. What
does not commute is the loss of an interface with a change of it, which is why an order matters once
something is attached, and why none does for a modem that is new.
-/

namespace Telephony

/-! ### Properties of a state -/

/-- Properties that set fields of different names, and leave the rest of a state alone, commute. -/
theorem set_comm_of_fields {σ π ρ : Type} (set : σ → π → σ) (field : σ → String → Option Change)
    (change : π → Change) (rest : σ → ρ)
    (hfield : ∀ state property name, field (set state property) name =
      if (change property).name = name then some (change property) else field state name)
    (hrest : ∀ state property, rest (set state property) = rest state)
    (hext : ∀ a b, (∀ name, field a name = field b name) → rest a = rest b → a = b)
    (state : σ) {first second : π} (hne : (change first).name ≠ (change second).name) :
    set (set state first) second = set (set state second) first := by
  apply hext
  · intro name
    have hexclusive : (change second).name = name → ¬ (change first).name = name := by
      intro hsecond hfirst
      exact hne (hfirst.trans hsecond.symm)
    rw [hfield, hfield, hfield, hfield]
    apply ite_ite_comm
    exact hexclusive
  · rw [hrest, hrest, hrest, hrest]

namespace Modem.State

theorem set_comm (state : State) {first second : Property}
    (hne : (Change.modem first).name ≠ (Change.modem second).name) :
    (state.set first).set second = (state.set second).set first := by
  refine set_comm_of_fields set field .modem (fun state => (state.voiceField, state.tracked))
    field_set ?_ ?_ state hne
  · intro state property
    cases property <;> rfl
  · intro a b hfield hrest
    obtain ⟨hvoice, htracked⟩ := Prod.mk.inj hrest
    exact ext_field hfield (congrFun hvoice) htracked

theorem setVoice_set (state : State) (property : Property) (voice : VoiceProperty) :
    (state.set property).setVoice voice = (state.setVoice voice).set property := by
  cases voice
  cases property <;> rfl

end Modem.State

theorem Sim.State.set_comm (state : Sim.State) {first second : Sim.Property}
    (hne : (Change.sim first).name ≠ (Change.sim second).name) :
    (state.set first).set second = (state.set second).set first := by
  refine set_comm_of_fields set field .sim tracked field_set ?_ (fun _ _ => ext_field) state hne
  intro state property
  cases property <;> rfl

theorem PacketData.State.set_comm (state : PacketData.State) {first second : PacketData.Property}
    (hne : (Change.data first).name ≠ (Change.data second).name) :
    (state.set first).set second = (state.set second).set first := by
  refine set_comm_of_fields set field .data tracked field_set ?_ (fun _ _ => ext_field) state hne
  intro state property
  cases property <;> rfl

namespace Network.State

theorem set_comm (state : State) {first second : Property}
    (hne : (Change.network first).name ≠ (Change.network second).name) :
    (state.set first).set second = (state.set second).set first := by
  refine set_comm_of_fields set field .network tracked field_set ?_ (fun _ _ => ext_field) state hne
  intro state property
  cases property <;> rfl

/-- Of two properties one at most is the signal strength, and the other is told in any state. -/
theorem tells_comm (state : State) {first second : Property}
    (hne : (Change.network first).name ≠ (Change.network second).name) :
    ((state.set first).tells first || ((state.set first).set second).tells second) =
      ((state.set second).tells second || ((state.set second).set first).tells first) := by
  cases first with
  | strength percent =>
    cases second with
    | strength other => exact absurd rfl hne
    | _ => simp [tells]
  | _ => simp [tells]

end Network.State

/-! ### Changes of an entry -/

namespace Change

/-- The property that the change is one of. -/
def property (change : Change) : Simulator.PropertyName := ⟨change.interface, change.name⟩

theorem name_ne_of_property_ne {first second : Change} (hne : first.property ≠ second.property)
    (hinterface : first.interface = second.interface) : first.name ≠ second.name := by
  intro hname
  exact hne (congrArg₂ Simulator.PropertyName.mk hinterface hname)

theorem nodup_decodeAll (interface : Interface) {properties : List (String × Wire.Value)}
    (hdistinct : (properties.map (·.1)).Nodup) :
    ((decodeAll interface properties).map property).Nodup := by
  rw [List.Nodup, List.pairwise_map] at hdistinct ⊢
  refine hdistinct.filterMap _ ?_
  intro first second hne change hchange other hother hsame
  apply hne
  calc
    first.1 = change.name := (name_of_decode hchange).symm
    _ = other.name := congrArg Simulator.PropertyName.name hsame
    _ = second.1 := name_of_decode hother

end Change

namespace Entry

/-- Nothing is attached but the modem's own interface. -/
def Bare (entry : Entry) : Prop :=
  ∀ interface, interface ≠ .modem → entry.attached interface = false

/-- Sets the field of a change, and does nothing about the interfaces on offer. -/
def put (entry : Entry) : Change → Entry
  | .modem property => { entry with modem := entry.modem.modify (·.set property) }
  | .voice property =>
    if entry.voice then { entry with modem := entry.modem.modify (·.setVoice property) } else entry
  | .sim property =>
    { entry with sim := entry.sim.map fun sim =>
        { sim with tracker := sim.tracker.modify (·.set property) } }
  | .network property =>
    { entry with network := entry.network.map fun tracker =>
        let state := tracker.state.set property
        ⟨state, tracker.due || state.tells property⟩ }
  | .data property => { entry with data := entry.data.map (·.modify (·.set property)) }

variable (observers : Observers) (path : ModemPath)

theorem put_comm (entry : Entry) {first second : Change} (hne : first.property ≠ second.property) :
    (entry.put first).put second = (entry.put second).put first := by
  have hname := Change.name_ne_of_property_ne hne
  obtain ⟨modem, sim, network, data, requests, voice⟩ := entry
  cases first with
  | modem property =>
    cases second with
    | modem other => simp only [put, Tracker.modify, modem.state.set_comm (hname rfl)]
    | voice other => cases voice <;> simp [put, Tracker.modify, Modem.State.setVoice_set]
    | _ => rfl
  | voice property =>
    cases second with
    | modem other => cases voice <;> simp [put, Tracker.modify, Modem.State.setVoice_set]
    | voice other =>
      cases property
      cases other
      exact absurd rfl hne
    | _ => cases voice <;> rfl
  | sim property =>
    cases second with
    | sim other =>
      have hcomm := fun state : Sim.State => state.set_comm (hname rfl)
      simp [put, Tracker.modify, Function.comp_def, hcomm]
    | voice other => cases voice <;> rfl
    | _ => rfl
  | network property =>
    cases second with
    | network other =>
      simp only [put, Option.map_map, Function.comp_def, Bool.or_assoc,
        Network.State.tells_comm _ (hname rfl)]
      simp only [Network.State.set_comm _ (hname rfl)]
    | voice other => cases voice <;> rfl
    | _ => rfl
  | data property =>
    cases second with
    | data other =>
      have hcomm := fun state : PacketData.State => state.set_comm (hname rfl)
      simp [put, Tracker.modify, Function.comp_def, hcomm]
    | voice other => cases voice <;> rfl
    | _ => rfl

/-- Changes of distinct properties may be put in any order. -/
theorem foldl_put_perm (entry : Entry) {first second : List Change} (hperm : first.Perm second)
    (hdistinct : (first.map Change.property).Nodup) :
    first.foldl put entry = second.foldl put entry := by
  apply hperm.foldl_eq'
  intro change hchange other hother entry
  by_cases hsame : change.property = other.property
  · rw [List.inj_on_of_nodup_map hdistinct hchange hother hsame]
  · exact entry.put_comm hsame

theorem put_mark (entry : Entry) (change : Change) :
    (entry.mark change.interface).put change = (entry.put change).mark change.interface := by
  obtain ⟨modem, sim, network, data, requests, voice⟩ := entry
  cases change with
  | modem property => rfl
  | voice property => cases voice <;> rfl
  | sim property => cases sim <;> rfl
  | network property => cases network <;> simp [put, mark, Change.interface, Tracker.mark]
  | data property => cases data <;> rfl

theorem foldl_put_mark (entry : Entry) {changes : List Change} {interface : Interface}
    (hchanges : ∀ change ∈ changes, change.interface = interface) :
    changes.foldl put (entry.mark interface) = (changes.foldl put entry).mark interface := by
  induction changes generalizing entry with
  | nil => rfl
  | cons change rest ih =>
    have hinterface := hchanges change List.mem_cons_self
    subst hinterface
    calc
      rest.foldl put ((entry.mark change.interface).put change) =
          rest.foldl put ((entry.put change).mark change.interface) := by rw [put_mark]
      _ = (rest.foldl put (entry.put change)).mark change.interface :=
        ih _ fun other hother => hchanges other (.tail _ hother)

theorem change_of_plain (entry : Entry) {change : Change}
    (hplain : ∀ current, change ≠ .modem (.interfaces current)) :
    entry.change observers path change = (entry.put change, ∅) := by
  cases change with
  | modem property =>
    cases property with
    | interfaces current => exact absurd rfl (hplain current)
    | _ => rfl
  | _ => rfl

theorem changeAll_eq_foldl (entry : Entry) {changes : List Change}
    (hplain : ∀ change ∈ changes, ∀ current, change ≠ .modem (.interfaces current)) :
    entry.changeAll observers path changes = (changes.foldl put entry, ∅) := by
  induction changes generalizing entry with
  | nil => rfl
  | cons change rest ih =>
    have hrest := ih (entry.put change) fun other hother => hplain other (.tail _ hother)
    rw [changeAll, entry.change_of_plain observers path (hplain change List.mem_cons_self)]
    simp only [hrest]
    rfl

/-! ### New modems -/

theorem attached_put (entry : Entry) (change : Change) (interface : Interface) :
    (entry.put change).attached interface = entry.attached interface := by
  obtain ⟨modem, sim, network, data, requests, voice⟩ := entry
  cases change with
  | voice property => cases voice <;> cases interface <;> rfl
  | _ => cases interface <;> simp [put, attached]

theorem detachAll_of_bare {entry : Entry} (hbare : entry.Bare) (interfaces : List Interface) :
    entry.detachAll observers path interfaces = (entry, ∅) := by
  induction interfaces with
  | nil => rfl
  | cons gone rest ih =>
    have hkept : entry.detach observers path gone = (entry, ∅) := by
      rw [detach, if_neg]
      intro hboth
      exact Bool.false_ne_true ((hbare gone hboth.1).symm.trans hboth.2)
    rw [detachAll, hkept]
    simp only [ih]
    rfl

/-- With nothing attached, nothing is lost and nothing is told. -/
theorem change_of_bare {entry : Entry} (hbare : entry.Bare) (change : Change) :
    (entry.change observers path change).1 = entry.put change ∧
      (entry.change observers path change).2.deliveries = [] := by
  by_cases hinterfaces : ∃ current, change = .modem (.interfaces current)
  · obtain ⟨current, rfl⟩ := hinterfaces
    have hoffering : (entry.offering current).Bare := by
      intro interface htracked
      rw [attached_offering]
      exact hbare interface htracked
    rw [Entry.change, setInterfaces_eq, detachAll_of_bare observers path hoffering]
    exact ⟨rfl, rfl⟩
  · rw [entry.change_of_plain observers path fun current hsame => hinterfaces ⟨current, hsame⟩]
    exact ⟨rfl, rfl⟩

theorem changeAll_of_bare {entry : Entry} (hbare : entry.Bare) (changes : List Change) :
    (entry.changeAll observers path changes).1 = changes.foldl put entry ∧
      (entry.changeAll observers path changes).2.deliveries = [] := by
  induction changes generalizing entry with
  | nil => exact ⟨rfl, rfl⟩
  | cons change rest ih =>
    obtain ⟨hput, hnone⟩ := change_of_bare observers path hbare change
    have hstill : (entry.put change).Bare := by
      intro interface htracked
      rw [attached_put]
      exact hbare interface htracked
    obtain ⟨hputs, hnones⟩ := ih hstill
    simp only [changeAll, Outcome.deliveries_append, hput, hnone, hputs, hnones]
    exact ⟨rfl, rfl⟩

end Entry

theorem setsOnce_of_nodup {changes : List Change}
    (hdistinct : (changes.map Change.property).Nodup) : SetsOnce changes := by
  have honce : SetsOnce (changes.filterMap some) := by
    refine setsOnce_filterMap hdistinct ⟨.modem, "Interfaces"⟩ ?_
    intro entry change hread hsets
    obtain rfl := Option.some.inj hread
    obtain ⟨current, rfl⟩ := Change.setsInterfaces_eq_true.1 hsets
    rfl
  rwa [List.filterMap_some] at honce

/-- What is new takes changes of distinct properties in any order. -/
theorem Entry.changeAll_perm_of_bare {entry : Entry} (hbare : entry.Bare) (observers : Observers)
    (path : ModemPath) {first second : List Change} (hperm : first.Perm second)
    (hdistinct : (first.map Change.property).Nodup) :
    entry.changeAll observers path first = entry.changeAll observers path second := by
  have hagain : (second.map Change.property).Nodup := (hperm.map _).nodup_iff.1 hdistinct
  have hanchored : entry.Anchored := by
    intro interface htracked hattached
    cases (hbare interface htracked).symm.trans hattached
  obtain ⟨hfirst, hquiet⟩ := changeAll_of_bare observers path hbare first
  obtain ⟨hsecond, hquieted⟩ := changeAll_of_bare observers path hbare second
  have hentry : (entry.changeAll observers path first).1 =
      (entry.changeAll observers path second).1 := by
    rw [hfirst, hsecond, entry.foldl_put_perm hperm hdistinct]
  -- what is asked for is read off the interfaces before and after
  have heffects : (entry.changeAll observers path first).2.effects =
      (entry.changeAll observers path second).2.effects := by
    have hreconciles : entry.Reconciles path (entry.changeAll observers path first) :=
      hanchored.reconciles_changeAll (setsOnce_of_nodup hdistinct)
    have hreconciled : entry.Reconciles path (entry.changeAll observers path second) :=
      hanchored.reconciles_changeAll (setsOnce_of_nodup hagain)
    rw [hreconciles.effects, hreconciled.effects, hentry]
  have houtcome : (entry.changeAll observers path first).2 =
      (entry.changeAll observers path second).2 :=
    congrArg₂ Outcome.mk heffects (hquiet.trans hquieted.symm)
  exact Prod.ext hentry houtcome

/-! ### Boards -/

theorem Outcome.append_empty (outcome : Outcome) : outcome ++ ∅ = outcome :=
  congrArg₂ Outcome.mk (List.append_nil _) (List.append_nil _)

namespace Switchboard

variable {board : Switchboard} {path : ModemPath} {entry : Entry} {interface : Interface}

/-- What comes of events that come one after another. -/
def applyAll (board : Switchboard) : List Event → Switchboard × Outcome
  | [] => (board, ∅)
  | event :: rest =>
    let (board, first) := board.apply event
    let (board, others) := board.applyAll rest
    (board, first ++ others)

theorem applyAll_changes (hentry : board.entry? path = some entry) {changes : List Change}
    (hplain : ∀ change ∈ changes, ∀ current, change ≠ .modem (.interfaces current)) :
    board.applyAll (changes.map (.propertyChanged path)) =
      ({ board with modems := board.modems.insert path (changes.foldl Entry.put entry) }, ∅) := by
  induction changes generalizing board entry with
  | nil =>
    have hmodems : board.modems.insert path entry = board.modems := Table.insert_of_get? hentry
    simp only [List.map_nil, applyAll, List.foldl_nil, hmodems]
  | cons change rest ih =>
    let after := { board with modems := board.modems.insert path (entry.put change) }
    have happly : board.apply (.propertyChanged path change) = (after, ∅) := by
      have hchange := entry.change_of_plain board.observers path
        (hplain change List.mem_cons_self)
      simp only [apply, onEntry, hentry, hchange, after]
    have hafter : after.entry? path = some (entry.put change) :=
      (Table.get?_insert board.modems path path _).trans (if_pos rfl)
    have hrest := ih hafter fun other hother => hplain other (.tail _ hother)
    simp only [List.map_cons, applyAll, happly, hrest, Outcome.append_empty, List.foldl_cons, after,
      Table.insert_insert]

theorem loaded_of_ok (hentry : board.entry? path = some entry)
    (hoffers : entry.offers interface = true) {properties : List Change}
    (hplain : ∀ change ∈ properties, ∀ current, change ≠ .modem (.interfaces current)) :
    let attached := entry.attach path (board.drains + 1) interface
    let loaded := (properties.foldl Entry.put attached.1).mark interface
    board.loaded path interface (.ok properties) =
      ({ board with
        modems := board.modems.insert path loaded
        drains := board.drains + (entry.beginsDrain interface).toUInt64 }, attached.2) := by
  intro attached loaded
  have hload : board.loadEntry path interface (.ok properties) entry = (loaded, attached.2) := by
    rw [loadEntry_ok hoffers]
    simp only [Entry.changeAll_eq_foldl board.observers path _ hplain, Outcome.append_empty,
      attached, loaded]
  simp only [Switchboard.loaded, onEntry, hentry, hload, hoffers, Bool.true_and]
  cases entry.beginsDrain interface with
  | true => rfl
  | false =>
    have hdrains : board.drains + false.toUInt64 = board.drains := UInt64.add_zero _
    rw [hdrains]
    rfl

/-- Loading an interface with all of its properties is loading it with none and then changing them,
each once, in any order. -/
theorem loaded_any_order (hentry : board.entry? path = some entry)
    (htracked : interface ≠ .modem) (hoffers : entry.offers interface = true)
    {properties events : List Change} (hdistinct : (properties.map Change.property).Nodup)
    (hchanges : ∀ change ∈ properties, change.interface = interface)
    (hperm : events.Perm properties) :
    let started := board.loaded path interface (.ok [])
    let changed := started.1.applyAll (events.map (.propertyChanged path))
    board.loaded path interface (.ok properties) = (changed.1, started.2 ++ changed.2) := by
  intro started changed
  have hplain : ∀ change ∈ properties, ∀ current, change ≠ .modem (.interfaces current) := by
    rintro change hmem current rfl
    exact htracked (hchanges _ hmem).symm
  let attached := entry.attach path (board.drains + 1) interface
  have hstarted : started = ({ board with
      modems := board.modems.insert path (attached.1.mark interface)
      drains := board.drains + (entry.beginsDrain interface).toUInt64 }, attached.2) :=
    loaded_of_ok hentry hoffers nofun
  have hthere : Switchboard.entry? started.1 path = some (attached.1.mark interface) := by
    rw [hstarted]
    exact (Table.get?_insert board.modems path path _).trans (if_pos rfl)
  have hchanged : changed = ({ started.1 with
      modems := started.1.modems.insert path (events.foldl Entry.put (attached.1.mark interface)) },
        ∅) :=
    applyAll_changes hthere fun change hmem => hplain change (hperm.mem_iff.1 hmem)
  have hfields : events.foldl Entry.put (attached.1.mark interface) =
      (properties.foldl Entry.put attached.1).mark interface := by
    calc
      _ = properties.foldl Entry.put (attached.1.mark interface) :=
        ((attached.1.mark interface).foldl_put_perm hperm.symm hdistinct).symm
      _ = _ := attached.1.foldl_put_mark hchanges
  rw [loaded_of_ok hentry hoffers hplain, hchanged, hfields, hstarted]
  simp only [Outcome.append_empty, Table.insert_insert, attached]

/-- A modem that is new may be announced with its properties in any order. -/
theorem added_any_order (hentry : board.entry? path = none) {first second : List Change}
    (hperm : first.Perm second) (hdistinct : (first.map Change.property).Nodup) :
    board.apply (.modemAdded path first) = board.apply (.modemAdded path second) := by
  have hbare : Entry.new.Bare := fun _ htracked => Entry.attached_new htracked
  have hchanged := Entry.changeAll_perm_of_bare hbare board.observers path hperm hdistinct
  simp only [apply, addModem, hentry, Option.getD_none, hchanged]

/-- In whatever order a dictionary lists the properties of an interface, to load them all at once is
to load none and then to take them one by one in any other order; and in whatever order a modem that
is new lists its properties, the same comes of it. -/
theorem order_irrelevant (board : Switchboard) (path : ModemPath) :
    (∀ (entry : Entry) (interface : Interface) (dictionary bulk : List (String × Wire.Value))
      (events : List Change), board.entry? path = some entry →
      interface ∈ Interface.tracked → entry.modem.state.interfaces.has interface = true →
      (dictionary.map Prod.fst).Nodup → bulk.Perm dictionary →
      events.Perm (Change.decodeAll interface dictionary) →
        let started := board.loaded path interface (.ok [])
        let changed := started.1.applyAll (events.map (.propertyChanged path))
        board.loaded path interface (.ok (Change.decodeAll interface bulk)) =
          (changed.1, started.2 ++ changed.2)) ∧
    (board.entry? path = none → ∀ first second : List Change, first.Perm second →
      (first.map Change.property).Nodup →
        board.apply (.modemAdded path first) = board.apply (.modemAdded path second)) := by
  refine ⟨?_, fun hentry first second hperm => added_any_order hentry hperm⟩
  intro entry interface dictionary bulk events hentry hmem hhas hnames hbulk hevents
  have hoffers : entry.offers interface = true := by
    rw [Entry.offers, hhas, Bool.or_true]
  have hdistinct : ((Change.decodeAll interface bulk).map Change.property).Nodup :=
    Change.nodup_decodeAll interface ((hbulk.map Prod.fst).nodup_iff.2 hnames)
  have hchanges : ∀ change ∈ Change.decodeAll interface bulk, change.interface = interface := by
    intro change hchange
    obtain ⟨⟨name, value⟩, -, hdecode⟩ := List.mem_filterMap.1 hchange
    exact Change.interface_of_decode hdecode
  exact loaded_any_order hentry (Interface.mem_tracked_iff.1 hmem) hoffers hdistinct hchanges
    (hevents.trans (hbulk.filterMap _).symm)

/-- The strength and the technology of a network are loaded in the one order, and come one by one in
the other; a modem is announced with its interfaces first, and last. -/
theorem order_irrelevant_reversed :
    let path : ModemPath := ⟨"/modem_0"⟩
    let offered : InterfaceSet := .ofList [.networkRegistration]
    let entry : Entry :=
      { Entry.new with modem := .new { Modem.State.fresh with interfaces := offered } }
    let board : Switchboard :=
      { (∅ : Switchboard) with modems := (∅ : Table _ _).insert path entry }
    let dictionary : List (String × Wire.Value) :=
      [("Strength", .int .byte 70), ("Technology", .text "lte"), ("Roaming", .bool false)]
    let events := Change.decodeAll .networkRegistration dictionary
    let started := board.loaded path .networkRegistration (.ok [])
    let changed := started.1.applyAll (events.map (.propertyChanged path))
    let properties : List Change := [.modem (.interfaces offered), .modem (.powered true)]
    (board.loaded path .networkRegistration
        (.ok (Change.decodeAll .networkRegistration dictionary.reverse)) =
      (changed.1, started.2 ++ changed.2) ∧
      (changed.1.network? path).map (fun state => (state.strength, state.technology)) =
        some (70, some "lte")) ∧
    board.apply (.modemAdded ⟨"/modem_1"⟩ properties) =
      board.apply (.modemAdded ⟨"/modem_1"⟩ properties.reverse) := by
  intro path offered entry board dictionary events started changed properties
  have hentry : board.entry? path = some entry := by decide +kernel
  refine ⟨⟨?_, by decide +kernel⟩, ?_⟩
  · exact (order_irrelevant board path).1 entry .networkRegistration dictionary _ _ hentry
      (by decide) (by decide +kernel) (by decide) (List.reverse_perm dictionary) (.refl _)
  · exact (order_irrelevant board ⟨"/modem_1"⟩).2 (by decide +kernel) properties _
      (List.reverse_perm properties).symm (by decide +kernel)

end Switchboard

end Telephony

import Telephony.Proofs.Coherence.Fields
import Telephony.Proofs.Loading

/-!
# What an entry holds of an interface

An entry is looked at through one interface at a time. Attaching, changing or taking away an
interface leaves what is held of the others as it is; what it does to its own is said here for each
operation on an entry.
-/

namespace Telephony

/-- A change after which the modem no longer offers the interface. -/
def Change.Withdraws (change : Change) (interface : Interface) : Prop :=
  interface ≠ .modem ∧ ∃ current : InterfaceSet,
    change = .modem (.interfaces current) ∧ current.has interface = false

/-- What an entry holds of an interface: the interfaces that the modem is known to offer, whether
this one is attached, and its fields. -/
structure Holding where
  offered : InterfaceSet
  attached : Bool
  field : String → Option Change

@[ext]
theorem Holding.ext {a b : Holding} (hoffered : a.offered = b.offered)
    (hattached : a.attached = b.attached) (hfield : ∀ name, a.field name = b.field name) :
    a = b := by
  cases a
  cases b
  simp only [mk.injEq]
  exact ⟨hoffered, hattached, funext hfield⟩

namespace Entry

def holding (entry : Entry) (interface : Interface) : Holding :=
  ⟨entry.modem.state.interfaces, entry.attached interface, entry.field interface⟩

variable (observers : Observers) (path : ModemPath)

theorem attached_new {interface : Interface} (htracked : interface ≠ .modem) :
    new.attached interface = false := by
  cases interface <;> first | exact absurd rfl htracked | rfl

/-! ### Marks and requests -/

@[simp] theorem holding_mark (entry : Entry) (marked interface : Interface) :
    (entry.mark marked).holding interface = entry.holding interface := by
  obtain ⟨modem, sim, network, data, requests, voice⟩ := entry
  cases marked <;> cases interface <;> cases sim <;> cases network <;> cases data <;> rfl

theorem holding_told (entry : Entry) (interface : Interface) :
    entry.told.holding interface = entry.holding interface := by
  obtain ⟨modem, sim, network, data, requests, voice⟩ := entry
  cases sim with
  | none => cases interface <;> cases network <;> cases data <;> rfl
  | some sim =>
    obtain ⟨⟨state, due⟩, lastStatus⟩ := sim
    cases interface <;> cases due <;> cases network <;> cases data <;> rfl

/-- Requests of a modem may change, but not whether they wait. -/
theorem attached_requests (entry : Entry) {requests : Requests}
    (hpending : requests.isPending = entry.requests.isPending) (interface : Interface) :
    attached { entry with requests } interface = entry.attached interface := by
  cases interface <;> simp [attached, hpending]

/-! ### Taking away -/

theorem holding_detach_of_ne (entry : Entry) {gone interface : Interface} (hne : gone ≠ interface) :
    (entry.detach observers path gone).1.holding interface = entry.holding interface := by
  unfold detach
  split
  · cases gone <;> cases interface <;> first | exact absurd rfl hne | rfl
  · rfl

theorem offered_detach (entry : Entry) (interface : Interface) :
    (entry.detach observers path interface).1.modem.state.interfaces =
      entry.modem.state.interfaces := by
  unfold detach
  split
  · cases interface <;> rfl
  · rfl

theorem attached_detach (entry : Entry) {interface : Interface} (htracked : interface ≠ .modem) :
    (entry.detach observers path interface).1.attached interface = false := by
  unfold detach
  split
  · cases interface <;> first | exact absurd rfl htracked | rfl
  · next hnot => simpa [htracked] using hnot

theorem attached_detach_of_ne (entry : Entry) {gone interface : Interface} (hne : gone ≠ interface) :
    (entry.detach observers path gone).1.attached interface = entry.attached interface :=
  congrArg Holding.attached (holding_detach_of_ne observers path entry hne)

theorem filter_attached_detach (entry : Entry) {gone : Interface} {others : List Interface}
    (habsent : gone ∉ others) :
    others.filter ((entry.detach observers path gone).1.attached ·) =
      others.filter (entry.attached ·) :=
  List.filter_congr fun interface hmem => by
    have hne : gone ≠ interface := fun hsame => habsent (hsame ▸ hmem)
    exact attached_detach_of_ne observers path entry hne

/-- An interface that is taken away has the fields that it began with. -/
theorem field_detach (entry : Entry) {interface : Interface} (htracked : interface ≠ .modem)
    (hattached : entry.attached interface = true) :
    (entry.detach observers path interface).1.field interface = blankField interface := by
  unfold detach
  rw [if_pos ⟨htracked, hattached⟩]
  cases interface <;> first | exact absurd rfl htracked | rfl

theorem effects_detach (entry : Entry) (interface : Interface) :
    ∀ effect ∈ (entry.detach observers path interface).2.effects,
      effect = .unwatch path interface := by
  unfold detach
  split
  · intro effect hmem
    exact List.mem_singleton.1 hmem
  · exact nofun

theorem holding_detachAll_of_not_mem (entry : Entry) {interfaces : List Interface}
    {interface : Interface} (habsent : interface ∉ interfaces) :
    (entry.detachAll observers path interfaces).1.holding interface = entry.holding interface := by
  induction interfaces generalizing entry with
  | nil => rfl
  | cons gone rest ih =>
    have hne : gone ≠ interface := fun hsame => habsent (hsame ▸ List.mem_cons_self)
    rw [← holding_detach_of_ne observers path entry hne]
    exact ih _ fun hmem => habsent (.tail _ hmem)

theorem offered_detachAll (entry : Entry) (interfaces : List Interface) :
    (entry.detachAll observers path interfaces).1.modem.state.interfaces =
      entry.modem.state.interfaces := by
  induction interfaces generalizing entry with
  | nil => rfl
  | cons gone rest ih => exact (ih _).trans (offered_detach observers path entry gone)

theorem detachAll_of_mem (entry : Entry) {interfaces : List Interface} {interface : Interface}
    (htracked : interface ≠ .modem) (hmem : interface ∈ interfaces)
    (hblank : entry.attached interface = false → entry.field interface = blankField interface) :
    (entry.detachAll observers path interfaces).1.attached interface = false ∧
      (entry.detachAll observers path interfaces).1.field interface = blankField interface := by
  induction interfaces generalizing entry with
  | nil => exact absurd hmem List.not_mem_nil
  | cons gone rest ih =>
    by_cases hgone : gone = interface
    · subst hgone
      have hfield : (entry.detach observers path gone).1.field gone = blankField gone := by
        cases hattached : entry.attached gone with
        | true => exact field_detach observers path entry htracked hattached
        | false =>
          have hkept : (entry.detach observers path gone).1 = entry := by
            simp [detach, hattached]
          rw [hkept]
          exact hblank hattached
      have hattached := attached_detach observers path entry htracked
      by_cases hagain : gone ∈ rest
      · exact ih _ hagain fun _ => hfield
      · have hkept := holding_detachAll_of_not_mem observers path
          (entry.detach observers path gone).1 hagain
        exact ⟨(congrArg Holding.attached hkept).trans hattached,
          (congrArg Holding.field hkept).trans hfield⟩
    · have hkept := holding_detach_of_ne observers path entry hgone
      exact ih _ (List.mem_of_ne_of_mem (Ne.symm hgone) hmem) fun hattached =>
        (congrArg Holding.field hkept).trans
          (hblank ((congrArg Holding.attached hkept).symm.trans hattached))

theorem effects_detachAll (entry : Entry) (interfaces : List Interface) :
    ∀ effect ∈ (entry.detachAll observers path interfaces).2.effects,
      ∃ interface ∈ interfaces, effect = .unwatch path interface := by
  induction interfaces generalizing entry with
  | nil => exact nofun
  | cons gone rest ih =>
    intro effect hmem
    rcases List.mem_append.1 hmem with hfirst | hrest
    · exact ⟨gone, List.mem_cons_self, effects_detach observers path entry gone effect hfirst⟩
    · obtain ⟨interface, hmem, heffect⟩ := ih _ effect hrest
      exact ⟨interface, .tail _ hmem, heffect⟩

/-! ### Attaching -/

theorem holding_attach_of_ne (epoch : UInt64) (entry : Entry) {come interface : Interface}
    (hne : come ≠ interface) :
    (entry.attach path epoch come).1.holding interface = entry.holding interface := by
  obtain ⟨modem, sim, network, data, requests, voice⟩ := entry
  cases come with
  | supplementaryServices =>
    have hholding : ∀ requests' : Requests,
        (⟨modem, sim, network, data, requests', voice⟩ : Entry).holding interface =
          (⟨modem, sim, network, data, requests, voice⟩ : Entry).holding interface := by
      intro requests'
      cases interface <;> first | exact absurd rfl hne | rfl
    cases requests with
    | pending queue => cases queue <;> exact hholding _
    | draining queue epoch => rfl
    | direct => rfl
  | _ => cases interface <;> first | exact absurd rfl hne | rfl

/-- An interface that is attached has the fields it had. -/
theorem holding_attach (epoch : UInt64) (entry : Entry) (interface : Interface) :
    (entry.attach path epoch interface).1.holding interface =
      { entry.holding interface with attached := true } := by
  obtain ⟨modem, sim, network, data, requests, voice⟩ := entry
  cases interface with
  | supplementaryServices =>
    cases requests with
    | pending queue => cases queue <;> rfl
    | draining queue epoch => rfl
    | direct => rfl
  | _ => rfl

theorem effects_attach (epoch : UInt64) (entry : Entry) (interface : Interface) :
    ∀ effect ∈ (entry.attach path epoch interface).2.effects, effect = .replay path epoch := by
  cases interface with
  | supplementaryServices =>
    cases hrequests : entry.requests with
    | pending queue => cases queue <;> simp [attach, hrequests, Outcome.ofEffect]
    | draining queue epoch => simp [attach, hrequests]
    | direct => simp [attach, hrequests]
  | _ => exact fun _ hmem => absurd hmem List.not_mem_nil

/-! ### Changes -/

theorem holding_change_of_ne (entry : Entry) {change : Change}
    (hplain : ∀ current, change ≠ .modem (.interfaces current)) {interface : Interface}
    (hne : change.interface ≠ interface) :
    (entry.change observers path change).1.holding interface = entry.holding interface := by
  obtain ⟨modem, sim, network, data, requests, voice⟩ := entry
  cases change with
  | modem property =>
    cases property with
    | interfaces current => exact absurd rfl (hplain current)
    | _ => cases interface <;> first | exact absurd rfl hne | rfl
  | voice property =>
    cases property
    cases voice <;> cases interface <;> first | exact absurd rfl hne | rfl
  | sim property => cases sim <;> cases interface <;> first | exact absurd rfl hne | rfl
  | network property => cases network <;> cases interface <;> first | exact absurd rfl hne | rfl
  | data property => cases data <;> cases interface <;> first | exact absurd rfl hne | rfl

theorem holding_change_self (entry : Entry) {change : Change}
    (hplain : ∀ current, change ≠ .modem (.interfaces current)) :
    (entry.change observers path change).1.holding change.interface =
      { entry.holding change.interface with
        field := fun name =>
          if change.name = name ∧ entry.attached change.interface = true then some change
          else entry.field change.interface name } := by
  obtain ⟨modem, sim, network, data, requests, voice⟩ := entry
  have hsets : ∀ name, change.name = name ↔ change.name = name ∧ true = true := fun name =>
    (and_iff_left rfl).symm
  have hlost : ∀ name, ¬ (change.name = name ∧ false = true) := fun name hboth =>
    Bool.false_ne_true hboth.2
  cases change with
  | modem property =>
    have hchange : (Entry.mk modem sim network data requests voice).change observers path
        (.modem property) =
          (⟨modem.modify (·.set property), sim, network, data, requests, voice⟩, ∅) := by
      cases property <;> first | exact absurd rfl (hplain _) | rfl
    rw [hchange]
    refine Holding.ext ?_ rfl fun name =>
      (modem.state.field_set property name).trans (if_congr (hsets name) rfl rfl)
    cases property <;> first | exact absurd rfl (hplain _) | rfl
  | sim property =>
    cases sim with
    | none => exact Holding.ext rfl rfl fun name => (if_neg (hlost name)).symm
    | some sim =>
      exact Holding.ext rfl rfl fun name =>
        (sim.tracker.state.field_set property name).trans (if_congr (hsets name) rfl rfl)
  | network property =>
    cases network with
    | none => exact Holding.ext rfl rfl fun name => (if_neg (hlost name)).symm
    | some network =>
      exact Holding.ext rfl rfl fun name =>
        (network.state.field_set property name).trans (if_congr (hsets name) rfl rfl)
  | data property =>
    cases data with
    | none => exact Holding.ext rfl rfl fun name => (if_neg (hlost name)).symm
    | some data =>
      exact Holding.ext rfl rfl fun name =>
        (data.state.field_set property name).trans (if_congr (hsets name) rfl rfl)
  | voice property =>
    cases voice with
    | false => exact Holding.ext rfl rfl fun name => (if_neg (hlost name)).symm
    | true =>
      exact Holding.ext (by cases property; rfl) rfl fun name =>
        (modem.state.voiceField_setVoice property name).trans (if_congr (hsets name) rfl rfl)

/-- Every change but one of the interfaces sets a field, if its interface is attached. -/
theorem holding_change (entry : Entry) {change : Change}
    (hplain : ∀ current, change ≠ .modem (.interfaces current)) (interface : Interface) :
    (entry.change observers path change).1.holding interface =
      { entry.holding interface with
        field := fun name =>
          if change.Concerns interface name ∧ entry.attached interface = true then some change
          else entry.field interface name } := by
  by_cases hinterface : change.interface = interface
  · subst hinterface
    rw [holding_change_self observers path entry hplain]
    simp only [Change.Concerns, true_and]
  · have hother : ∀ name, ¬ change.Concerns interface name := fun name hconcerns =>
      hinterface hconcerns.1
    rw [holding_change_of_ne observers path entry hplain hinterface]
    simp only [hother, false_and, if_false]
    rfl

theorem effects_change (entry : Entry) {change : Change}
    (hplain : ∀ current, change ≠ .modem (.interfaces current)) :
    (entry.change observers path change).2.effects = [] := by
  cases change with
  | modem property =>
    cases property with
    | interfaces current => exact absurd rfl (hplain current)
    | _ => rfl
  | _ => rfl

/-! ### The interfaces that a modem offers -/

/-- The entry with another set of interfaces on offer, and nothing else done yet. -/
def offering (entry : Entry) (current : InterfaceSet) : Entry :=
  { entry with modem := entry.modem.modify fun state => { state with interfaces := current } }

theorem holding_offering (entry : Entry) (current : InterfaceSet) {interface : Interface}
    (htracked : interface ≠ .modem) :
    (entry.offering current).holding interface =
      { entry.holding interface with offered := current } := by
  cases interface <;> first | exact absurd rfl htracked | rfl

theorem attached_offering (entry : Entry) (current : InterfaceSet) (interface : Interface) :
    (entry.offering current).attached interface = entry.attached interface := by
  cases interface <;> rfl

/-- The interfaces of one set that are not in the other. -/
def beyond (set other : InterfaceSet) : List Interface := set.tracked.filter fun i => !other.has i

theorem mem_beyond_iff {set other : InterfaceSet} {interface : Interface} :
    interface ∈ beyond set other ↔
      interface ≠ .modem ∧ set.has interface = true ∧ other.has interface = false := by
  simp [beyond, InterfaceSet.tracked, Interface.mem_tracked_iff]
  tauto

theorem nodup_beyond (set other : InterfaceSet) : (beyond set other).Nodup :=
  .filter _ (.filter _ (by decide))

theorem beyond_self (set : InterfaceSet) : beyond set set = [] :=
  List.eq_nil_iff_forall_not_mem.2 fun interface hmem => by
    have hin := (mem_beyond_iff.1 hmem).2
    rw [hin.1] at hin
    cases hin.2

theorem setInterfaces_eq (entry : Entry) (current : InterfaceSet) :
    entry.setInterfaces observers path current =
      let detached := (entry.offering current).detachAll observers path
        (beyond entry.modem.state.interfaces current)
      (detached.1, detached.2 ++
        ⟨(beyond current entry.modem.state.interfaces).map (.watch path), []⟩) := by
  simp only [setInterfaces]
  split
  · next hsame =>
    rw [hsame, beyond_self]
    rfl
  · rfl

theorem offered_setInterfaces (entry : Entry) (current : InterfaceSet) :
    (entry.setInterfaces observers path current).1.modem.state.interfaces = current := by
  rw [setInterfaces_eq]
  exact offered_detachAll observers path _ _

theorem holding_setInterfaces_of_kept (entry : Entry) (current : InterfaceSet)
    {interface : Interface} (htracked : interface ≠ .modem)
    (hkept : current.has interface = true) :
    (entry.setInterfaces observers path current).1.holding interface =
      { entry.holding interface with offered := current } := by
  rw [setInterfaces_eq, ← holding_offering entry current htracked]
  apply holding_detachAll_of_not_mem observers path _
  intro hgone
  rw [(mem_beyond_iff.1 hgone).2.2] at hkept
  cases hkept

theorem setInterfaces_of_withdrawn (entry : Entry) {current : InterfaceSet}
    {interface : Interface} (htracked : interface ≠ .modem)
    (hwithdrawn : current.has interface = false)
    (hoffered : entry.attached interface = true →
      entry.modem.state.interfaces.has interface = true)
    (hblank : entry.attached interface = false → entry.field interface = blankField interface) :
    (entry.setInterfaces observers path current).1.attached interface = false ∧
      (entry.setInterfaces observers path current).1.field interface = blankField interface := by
  have hset := holding_offering entry current htracked
  have hattached := congrArg Holding.attached hset
  have hfield := congrArg Holding.field hset
  rw [setInterfaces_eq]
  by_cases hgone : interface ∈ beyond entry.modem.state.interfaces current
  · exact detachAll_of_mem observers path _ htracked hgone fun hnone =>
      hfield.trans (hblank (hattached.symm.trans hnone))
  · have hnone : entry.attached interface = false := by
      by_contra hsome
      exact hgone (mem_beyond_iff.2 ⟨htracked, hoffered (by simpa using hsome), hwithdrawn⟩)
    have hkept := holding_detachAll_of_not_mem observers path (entry.offering current) hgone
    exact ⟨(congrArg Holding.attached hkept).trans (hattached.trans hnone),
      (congrArg Holding.field hkept).trans (hfield.trans (hblank hnone))⟩

theorem field_modem_setInterfaces (entry : Entry) (current : InterfaceSet) (name : String) :
    (entry.setInterfaces observers path current).1.field .modem name =
      if name = "Interfaces" then some (.modem (.interfaces current))
      else entry.field .modem name := by
  have hgone : Interface.modem ∉ beyond entry.modem.state.interfaces current := fun hmem =>
    (mem_beyond_iff.1 hmem).1 rfl
  have hkept := holding_detachAll_of_not_mem observers path (entry.offering current) hgone
  rw [setInterfaces_eq]
  refine (congrFun (congrArg Holding.field hkept) name).trans ?_
  exact (entry.modem.state.field_set (.interfaces current) name).trans
    (by simp [Change.name, eq_comm, field])

theorem effects_setInterfaces (entry : Entry) (current : InterfaceSet) :
    ∃ gone, (entry.setInterfaces observers path current).2.effects =
        gone ++ (beyond current entry.modem.state.interfaces).map (.watch path) ∧
      ∀ effect ∈ gone, ∃ ended, ended ≠ .modem ∧ current.has ended = false ∧
        effect = .unwatch path ended := by
  rw [setInterfaces_eq]
  refine ⟨_, rfl, fun effect hmem => ?_⟩
  obtain ⟨ended, hgone, heffect⟩ := effects_detachAll observers path _ _ effect hmem
  obtain ⟨htracked, -, hended⟩ := mem_beyond_iff.1 hgone
  exact ⟨ended, htracked, hended, heffect⟩

/-! ### Changes in a row -/

/-- Unless a change withdraws the interface, it stays attached or not, and the change sets its field
if it is. -/
theorem change_of_kept (entry : Entry) {change : Change} {interface : Interface}
    (hkept : ¬ change.Withdraws interface) :
    (entry.change observers path change).1.attached interface = entry.attached interface ∧
      ∀ name, (entry.change observers path change).1.field interface name =
        if change.Concerns interface name ∧ entry.attached interface = true then some change
        else entry.field interface name := by
  by_cases hinterfaces : ∃ current, change = .modem (.interfaces current)
  · obtain ⟨current, rfl⟩ := hinterfaces
    by_cases hmodem : interface = .modem
    · subst hmodem
      refine ⟨rfl, fun name => (field_modem_setInterfaces observers path entry current name).trans ?_⟩
      refine if_congr ⟨fun hname => ⟨⟨rfl, hname.symm⟩, rfl⟩, fun hconcerns => ?_⟩ rfl rfl
      exact hconcerns.1.2.symm
    · have hhas : current.has interface = true := by
        by_contra hnot
        exact hkept ⟨hmodem, current, rfl, by simpa using hnot⟩
      have hholding := holding_setInterfaces_of_kept observers path entry current hmodem hhas
      refine ⟨congrArg Holding.attached hholding, fun name => ?_⟩
      rw [if_neg fun hconcerns => hmodem hconcerns.1.1.symm]
      exact congrFun (congrArg Holding.field hholding) name
  · have hholding := holding_change observers path entry
      (fun current hsame => hinterfaces ⟨current, hsame⟩) interface
    exact ⟨congrArg Holding.attached hholding,
      fun name => congrFun (congrArg Holding.field hholding) name⟩

theorem changeAll_of_kept (entry : Entry) {changes : List Change} {interface : Interface}
    (hkept : ∀ change ∈ changes, ¬ change.Withdraws interface) :
    (entry.changeAll observers path changes).1.attached interface = entry.attached interface ∧
      (entry.attached interface = true → ∀ name,
        (entry.changeAll observers path changes).1.field interface name =
          (lastChange interface name changes <|> entry.field interface name)) := by
  induction changes generalizing entry with
  | nil => exact ⟨rfl, fun _ name => rfl⟩
  | cons change rest ih =>
    obtain ⟨hattached, hfield⟩ := change_of_kept observers path entry (hkept _ List.mem_cons_self)
    obtain ⟨hattacheds, hfields⟩ := ih (entry.change observers path change).1
      fun other hother => hkept other (.tail _ hother)
    refine ⟨hattacheds.trans hattached, fun hyes name => ?_⟩
    refine (hfields (hattached.trans hyes) name).trans ?_
    rw [hfield name, lastChange_cons_orElse]
    simp only [hyes, and_true]

/-- Changes attach nothing. -/
theorem changeAll_of_unattached (entry : Entry) (changes : List Change) {interface : Interface}
    (hnone : entry.attached interface = false)
    (hblank : entry.field interface = blankField interface) :
    (entry.changeAll observers path changes).1.attached interface = false ∧
      (entry.changeAll observers path changes).1.field interface = blankField interface := by
  induction changes generalizing entry with
  | nil => exact ⟨hnone, hblank⟩
  | cons change rest ih =>
    by_cases hwithdraws : change.Withdraws interface
    · obtain ⟨htracked, current, rfl, hwithdrawn⟩ := hwithdraws
      obtain ⟨hattached, hfield⟩ := setInterfaces_of_withdrawn observers path entry htracked
        hwithdrawn (fun hyes => absurd (hnone.symm.trans hyes) Bool.false_ne_true) fun _ => hblank
      exact ih _ hattached hfield
    · obtain ⟨hattached, hfield⟩ := change_of_kept observers path entry hwithdraws
      refine ih _ (hattached.trans hnone) (funext fun name => (hfield name).trans ?_)
      rw [if_neg fun hboth => Bool.false_ne_true (hnone.symm.trans hboth.2), hblank]

/-- Properties of a tracked interface touch nothing else. -/
theorem holding_changeAll_of_ne (entry : Entry) {changes : List Change} {changed other : Interface}
    (htracked : changed ≠ .modem) (hchanges : ∀ change ∈ changes, change.interface = changed)
    (hne : changed ≠ other) :
    (entry.changeAll observers path changes).1.holding other = entry.holding other := by
  induction changes generalizing entry with
  | nil => rfl
  | cons change rest ih =>
    have hinterface := hchanges change List.mem_cons_self
    have hplain : ∀ current, change ≠ .modem (.interfaces current) := by
      rintro current rfl
      exact htracked hinterface.symm
    have hkept : (entry.change observers path change).1.holding other = entry.holding other :=
      (holding_change observers path entry hplain other).trans <|
        Holding.ext rfl rfl fun name => if_neg fun hboth => hne (hinterface.symm.trans hboth.1.1)
    exact (ih _ fun more hmore => hchanges more (.tail _ hmore)).trans hkept

theorem effects_changeAll (entry : Entry) {changes : List Change}
    (hplain : ∀ change ∈ changes, ∀ current, change ≠ .modem (.interfaces current)) :
    (entry.changeAll observers path changes).2.effects = [] := by
  induction changes generalizing entry with
  | nil => rfl
  | cons change rest ih =>
    have hfirst := effects_change observers path entry (hplain change List.mem_cons_self)
    have hrest := ih (entry.change observers path change).1 fun other hother =>
      hplain other (.tail _ hother)
    simp only [changeAll, Outcome.effects_append, hfirst, hrest, List.append_nil]

theorem offered_changeAll (entry : Entry) {changes : List Change}
    (hplain : ∀ change ∈ changes, ∀ current, change ≠ .modem (.interfaces current)) :
    (entry.changeAll observers path changes).1.modem.state.interfaces =
      entry.modem.state.interfaces := by
  induction changes generalizing entry with
  | nil => rfl
  | cons change rest ih =>
    have hfirst := holding_change observers path entry (hplain change List.mem_cons_self) .modem
    exact (ih _ fun other hother => hplain other (.tail _ hother)).trans
      (congrArg Holding.offered hfirst)

theorem changeAll_append (entry : Entry) (first rest : List Change) :
    entry.changeAll observers path (first ++ rest) =
      (((entry.changeAll observers path first).1.changeAll observers path rest).1,
        (entry.changeAll observers path first).2 ++
          ((entry.changeAll observers path first).1.changeAll observers path rest).2) := by
  induction first generalizing entry with
  | nil => rfl
  | cons change more ih =>
    simp only [List.cons_append, changeAll, ih]
    simp only [Prod.mk.injEq, true_and]
    exact congrArg₂ Outcome.mk (List.append_assoc _ _ _).symm (List.append_assoc _ _ _).symm

/-- Of changes that set the interfaces once, only that one asks for anything. -/
theorem changeAll_of_interfaces (entry : Entry) {before after : List Change}
    {current : InterfaceSet}
    (hplain : ∀ change ∈ before ++ after, ∀ other, change ≠ .modem (.interfaces other)) :
    let changed := entry.changeAll observers path (before ++ .modem (.interfaces current) :: after)
    changed.1.modem.state.interfaces = current ∧
      ∃ gone, changed.2.effects =
          gone ++ (beyond current entry.modem.state.interfaces).map (.watch path) ∧
        ∀ effect ∈ gone, ∃ ended, ended ≠ .modem ∧ current.has ended = false ∧
          effect = .unwatch path ended := by
  have hbefore := fun change hmem => hplain change (List.mem_append_left after hmem)
  have hafter := fun change hmem => hplain change (List.mem_append_right before hmem)
  have hoffered := offered_changeAll observers path entry hbefore
  simp only [changeAll_append, changeAll, Outcome.effects_append,
    effects_changeAll observers path entry hbefore, List.nil_append]
  rw [offered_changeAll observers path _ hafter, effects_changeAll observers path _ hafter,
    List.append_nil, ← hoffered]
  exact ⟨offered_setInterfaces observers path _ current, effects_setInterfaces observers path _ current⟩

end Entry

end Telephony

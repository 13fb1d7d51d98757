import Telephony.Proofs.Coherence.Holdings
import Telephony.Proofs.Entries

/-!
# Interfaces on offer

An entry attaches only what its modem offers. When the modem offers others, those attached that it no
longer offers are taken away and ended, and those that are new are to be watched: each once, if the
interfaces are set once.
-/

namespace Telephony

def Change.setsInterfaces : Change → Bool
  | .modem (.interfaces _) => true
  | _ => false

/-- The changes set the interfaces once at most. -/
def SetsOnce (changes : List Change) : Prop := changes.countP Change.setsInterfaces ≤ 1

theorem Change.setsInterfaces_eq_true {change : Change} :
    change.setsInterfaces = true ↔ ∃ current, change = .modem (.interfaces current) := by
  constructor
  · intro hsets
    unfold setsInterfaces at hsets
    split at hsets
    · exact ⟨_, rfl⟩
    · cases hsets
  · rintro ⟨current, rfl⟩
    rfl

/-- Either no change sets the interfaces, or one does, and no other. -/
theorem SetsOnce.cases {changes : List Change} (honce : SetsOnce changes) :
    (∀ change ∈ changes, ∀ current, change ≠ .modem (.interfaces current)) ∨
      ∃ before current after, changes = before ++ .modem (.interfaces current) :: after ∧
        ∀ change ∈ before ++ after, ∀ other, change ≠ .modem (.interfaces other) := by
  by_cases hsets : ∃ change ∈ changes, change.setsInterfaces = true
  · obtain ⟨change, hmem, hchange⟩ := hsets
    obtain ⟨current, rfl⟩ := Change.setsInterfaces_eq_true.1 hchange
    obtain ⟨before, after, rfl⟩ := List.append_of_mem hmem
    refine .inr ⟨before, current, after, rfl, ?_⟩
    rintro _ hother other rfl
    have hcount : 0 < (before ++ after).countP Change.setsInterfaces :=
      List.countP_pos_iff.2 ⟨_, hother, rfl⟩
    rw [SetsOnce, List.countP_append, List.countP_cons_of_pos hchange] at honce
    rw [List.countP_append] at hcount
    omega
  · exact .inl fun change hmem current hsame =>
      hsets ⟨change, hmem, Change.setsInterfaces_eq_true.2 ⟨current, hsame⟩⟩

/-- Of entries under distinct keys, one at most sets the interfaces. -/
theorem setsOnce_filterMap {α κ : Type} [DecidableEq κ] {entries : List α}
    {read : α → Option Change} {key : α → κ} (hdistinct : (entries.map key).Nodup) (named : κ)
    (hkey : ∀ entry change, read entry = some change → change.setsInterfaces = true →
      key entry = named) : SetsOnce (entries.filterMap read) := by
  have hread : ∀ entry ∈ entries, ((read entry).map Change.setsInterfaces).getD false = true →
      (key entry == named) = true := by
    intro entry _ hsets
    cases hchange : read entry with
    | none =>
      rw [hchange] at hsets
      cases hsets
    | some change =>
      rw [hchange] at hsets
      exact beq_iff_eq.2 (hkey entry change hchange hsets)
  calc
    _ = entries.countP fun entry => ((read entry).map Change.setsInterfaces).getD false :=
      List.countP_filterMap
    _ ≤ entries.countP fun entry => key entry == named := List.countP_mono_left hread
    _ = (entries.map key).count named := by
      rw [List.count, List.countP_map]
      rfl
    _ ≤ 1 := List.nodup_iff_count_le_one.1 hdistinct named

/-- What is decoded from a table of properties sets the interfaces once at most. -/
theorem setsOnce_decodeAll (interface : Interface) {properties : List (String × Wire.Value)}
    (hdistinct : (properties.map (·.1)).Nodup) :
    SetsOnce (Change.decodeAll interface properties) := by
  refine setsOnce_filterMap hdistinct "Interfaces" fun property change hdecode hsets => ?_
  obtain ⟨current, rfl⟩ := Change.setsInterfaces_eq_true.1 hsets
  exact (Change.name_of_decode hdecode).symm

theorem setsOnce_decoded (modem : Simulator.SimulatedModem) (interface : Interface) :
    SetsOnce (modem.decoded interface) := by
  refine setsOnce_filterMap modem.properties.keys_nodup ⟨.modem, "Interfaces"⟩
    fun property change hread hsets => ?_
  obtain ⟨current, rfl⟩ := Change.setsInterfaces_eq_true.1 hsets
  dsimp only at hread
  split at hread
  · next hinterface =>
    have hmodem := Change.interface_of_decode hread
    have hname := Change.name_of_decode hread
    exact congrArg₂ Simulator.PropertyName.mk (hinterface.trans hmodem.symm) hname.symm
  · cases hread

namespace Entry

/-- Every attached interface is on offer. -/
def Anchored (entry : Entry) : Prop :=
  ∀ interface, interface ≠ .modem → entry.attached interface = true →
    entry.modem.state.interfaces.has interface = true

variable (observers : Observers) (path : ModemPath)

theorem effects_detachAll_eq (entry : Entry) {interfaces : List Interface}
    (hdistinct : interfaces.Nodup) (htracked : ∀ interface ∈ interfaces, interface ≠ .modem) :
    (entry.detachAll observers path interfaces).2.effects =
      (interfaces.filter (entry.attached ·)).map (.unwatch path) := by
  induction interfaces generalizing entry with
  | nil => rfl
  | cons gone rest ih =>
    obtain ⟨hfirst, hrest⟩ := List.nodup_cons.1 hdistinct
    have hgone := htracked gone List.mem_cons_self
    have hleft := ih (entry.detach observers path gone).1 hrest
      fun interface hmem => htracked interface (.tail _ hmem)
    rw [filter_attached_detach observers path entry hfirst] at hleft
    simp only [detachAll, Outcome.effects_append, hleft]
    cases hattached : entry.attached gone with
    | true =>
      have hended : (entry.detach observers path gone).2.effects = [.unwatch path gone] := by
        rw [detach, if_pos ⟨hgone, hattached⟩]
      rw [hended, List.filter_cons_of_pos hattached]
      rfl
    | false =>
      have hkept : (entry.detach observers path gone).2.effects = [] := by
        simp [detach, hattached]
      rw [hkept, List.filter_cons_of_neg (by simp [hattached]), List.nil_append]

theorem attached_detachAll_iff (entry : Entry) (interfaces : List Interface)
    {interface : Interface} (htracked : interface ≠ .modem) :
    (entry.detachAll observers path interfaces).1.attached interface = true ↔
      entry.attached interface = true ∧ interface ∉ interfaces := by
  induction interfaces generalizing entry with
  | nil => exact (and_iff_left List.not_mem_nil).symm
  | cons gone rest ih =>
    refine (ih (entry.detach observers path gone).1).trans ?_
    by_cases hgone : gone = interface
    · subst hgone
      simp [attached_detach observers path entry htracked]
    · rw [attached_detach_of_ne observers path entry hgone, List.mem_cons]
      exact and_congr_right fun _ => by simp [Ne.symm hgone]

/-! ### Reconciling -/

/-- What a change of the interfaces on offer asks for: that those attached and no longer on offer be
ended, and that those new be watched. -/
def reconciling (entry : Entry) (current : InterfaceSet) : List Effect :=
  ((beyond entry.modem.state.interfaces current).filter (entry.attached ·)).map (.unwatch path) ++
    (beyond current entry.modem.state.interfaces).map (.watch path)

/-- The interfaces on offer are others now; what is attached and what is asked for is as they say. -/
structure Reconciles (entry : Entry) (result : Entry × Outcome) : Prop where
  effects : result.2.effects = entry.reconciling path result.1.modem.state.interfaces
  attached : ∀ interface, interface ≠ .modem → (result.1.attached interface = true ↔
    entry.attached interface = true ∧ result.1.modem.state.interfaces.has interface = true)

theorem reconciling_self (entry : Entry) :
    entry.reconciling path entry.modem.state.interfaces = [] := by
  simp [reconciling, beyond_self]

variable {observers path} {entry : Entry}

theorem Anchored.has_of_holding (hanchored : entry.Anchored) {after : Entry}
    {interface : Interface} (hholding : after.holding interface = entry.holding interface)
    (htracked : interface ≠ .modem) (hattached : after.attached interface = true) :
    after.modem.state.interfaces.has interface = true := by
  have hbefore : entry.attached interface = true :=
    (congrArg Holding.attached hholding).symm.trans hattached
  have hoffered := congrArg Holding.offered hholding
  exact (congrArg (·.has interface) hoffered).trans (hanchored interface htracked hbefore)

theorem Reconciles.anchored {result : Entry × Outcome} (hreconciles : entry.Reconciles path result) :
    result.1.Anchored := fun interface htracked hattached =>
  ((hreconciles.attached interface htracked).1 hattached).2

/-- What is anchored and stays as it is, is reconciled. -/
theorem Anchored.reconciles_of_kept (hanchored : entry.Anchored) {after : Entry}
    (hholding : ∀ interface, after.attached interface = entry.attached interface)
    (hoffered : after.modem.state.interfaces = entry.modem.state.interfaces) {outcome : Outcome}
    (hquiet : outcome.effects = []) : entry.Reconciles path (after, outcome) where
  effects := by
    dsimp only
    rw [hquiet, hoffered, reconciling_self]
  attached interface htracked := by
    dsimp only
    rw [hholding, hoffered]
    exact (and_iff_left_of_imp (hanchored interface htracked)).symm

theorem Anchored.reconciles_setInterfaces (hanchored : entry.Anchored) (current : InterfaceSet) :
    entry.Reconciles path (entry.setInterfaces observers path current) := by
  have hoffered := offered_setInterfaces observers path entry current
  have htracked : ∀ interface ∈ beyond entry.modem.state.interfaces current, interface ≠ .modem :=
    fun interface hmem => (mem_beyond_iff.1 hmem).1
  refine ⟨?_, fun interface hne => ?_⟩
  · rw [hoffered, setInterfaces_eq]
    simp only [Outcome.effects_append, reconciling,
      effects_detachAll_eq observers path _ (nodup_beyond _ _) htracked, attached_offering]
  · rw [hoffered, setInterfaces_eq]
    dsimp only
    rw [attached_detachAll_iff observers path _ _ hne, attached_offering]
    refine and_congr_right fun hattached => ?_
    have hhas := hanchored interface hne hattached
    simp [mem_beyond_iff, hne, hhas]

theorem Anchored.reconciles_change (hanchored : entry.Anchored) (change : Change) :
    entry.Reconciles path (entry.change observers path change) := by
  by_cases hinterfaces : ∃ current, change = .modem (.interfaces current)
  · obtain ⟨current, rfl⟩ := hinterfaces
    exact hanchored.reconciles_setInterfaces current
  · have hplain : ∀ current, change ≠ .modem (.interfaces current) := fun current hsame =>
      hinterfaces ⟨current, hsame⟩
    have hholding := holding_change observers path entry hplain
    exact hanchored.reconciles_of_kept
      (fun interface => congrArg Holding.attached (hholding interface))
      (congrArg Holding.offered (hholding .modem)) (effects_change observers path entry hplain)

variable (observers path) in
theorem changeAll_of_plain (entry : Entry) {changes : List Change}
    (hplain : ∀ change ∈ changes, ∀ current, change ≠ .modem (.interfaces current))
    (interface : Interface) :
    (entry.changeAll observers path changes).1.attached interface = entry.attached interface :=
  (changeAll_of_kept observers path entry fun change hmem hwithdraws =>
    hplain change hmem _ hwithdraws.2.choose_spec.1).1

/-- Changes that set the interfaces once at most are taken in as that one change is. -/
theorem Anchored.reconciles_changeAll (hanchored : entry.Anchored) {changes : List Change}
    (honce : SetsOnce changes) :
    entry.Reconciles path (entry.changeAll observers path changes) := by
  rcases honce.cases with hplain | ⟨before, current, after, rfl, hothers⟩
  · exact hanchored.reconciles_of_kept (changeAll_of_plain observers path entry hplain)
      (offered_changeAll observers path entry hplain) (effects_changeAll observers path entry hplain)
  · have hbefore := fun change hmem => hothers change (List.mem_append_left after hmem)
    have hafter := fun change hmem => hothers change (List.mem_append_right before hmem)
    let first := (entry.changeAll observers path before).1
    have hfirst : ∀ interface, first.attached interface = entry.attached interface :=
      changeAll_of_plain observers path entry hbefore
    have hoffered : first.modem.state.interfaces = entry.modem.state.interfaces :=
      offered_changeAll observers path entry hbefore
    have hstart : first.Anchored := fun interface htracked hattached =>
      hoffered ▸ hanchored interface htracked (hfirst interface ▸ hattached)
    have hset : first.Reconciles path (first.setInterfaces observers path current) :=
      hstart.reconciles_setInterfaces current
    have hlast := changeAll_of_plain observers path
      (first.setInterfaces observers path current).1 hafter
    have hkept := offered_changeAll observers path
      (first.setInterfaces observers path current).1 hafter
    have heffects : (entry.changeAll observers path
        (before ++ .modem (.interfaces current) :: after)).2.effects =
          (first.setInterfaces observers path current).2.effects := by
      simp only [changeAll_append, changeAll, Outcome.effects_append,
        effects_changeAll observers path entry hbefore, effects_changeAll observers path _ hafter,
        List.nil_append, List.append_nil]
      rfl
    have hresult : (entry.changeAll observers path
        (before ++ .modem (.interfaces current) :: after)).1 =
          ((first.setInterfaces observers path current).1.changeAll observers path after).1 := by
      simp only [changeAll_append, changeAll]
      rfl
    refine ⟨?_, fun interface htracked => ?_⟩
    · rw [heffects, hset.effects, hresult, hkept]
      simp only [reconciling, hoffered, hfirst]
    · rw [hresult, hlast, hkept, hset.attached interface htracked, hfirst]

theorem lasting_anchored : Lasting Anchored where
  new _ htracked hattached := by cases (attached_new htracked).symm.trans hattached
  mark {entry} hanchored marked interface htracked :=
    hanchored.has_of_holding (entry.holding_mark marked interface) htracked
  told {entry} hanchored interface htracked :=
    hanchored.has_of_holding (entry.holding_told interface) htracked
  attach {entry} hanchored path epoch come hoffers interface htracked hattached := by
    by_cases hcome : come = interface
    · subst hcome
      have hoffered := congrArg Holding.offered (entry.holding_attach path epoch come)
      have hhas : entry.modem.state.interfaces.has come = true := by
        simpa [offers, htracked] using hoffers
      exact (congrArg (·.has come) hoffered).trans hhas
    · have hholding := entry.holding_attach_of_ne path epoch hcome
      exact hanchored.has_of_holding hholding htracked hattached
  change hanchored observers path change := (hanchored.reconciles_change change).anchored
  requests {entry} hanchored requests hpending interface htracked hattached := by
    rw [entry.attached_requests hpending] at hattached
    exact hanchored interface htracked hattached

end Entry

end Telephony

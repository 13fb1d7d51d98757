import Telephony.Proofs.Tables
import Telephony.Simulator.Modem
import Telephony.Switchboard.Entry

/-!
# Fields of the trackers

Every field of a tracker's state, as the change that sets it to the value it has. In these terms the
cache of an interface and what a bus stores for it can be laid side by side, property by property.
-/

namespace Telephony

/-! ### Fields of a state -/

/-- The field that a property of the modem sets, by the name of the property. -/
def Modem.State.field (state : Modem.State) : String → Option Change
  | "Powered" => some (.modem (.powered state.powered))
  | "Online" => some (.modem (.online state.online))
  | "Manufacturer" => some (.modem (.manufacturer state.manufacturer))
  | "Model" => some (.modem (.model state.model))
  | "Revision" => some (.modem (.revision state.revision))
  | "Serial" => some (.modem (.serial state.serial))
  | "Interfaces" => some (.modem (.interfaces state.interfaces))
  | _ => none

def Modem.State.voiceField (state : Modem.State) : String → Option Change
  | "EmergencyNumbers" => some (.voice (.emergencyNumbers state.emergencyNumbers))
  | _ => none

def Sim.State.field (state : Sim.State) : String → Option Change
  | "Present" => state.present.map fun there => .sim (.present there)
  | "MobileCountryCode" => some (.sim (.mobileCountryCode state.mcc))
  | "MobileNetworkCode" => some (.sim (.mobileNetworkCode state.mnc))
  | "SubscriberIdentity" => some (.sim (.subscriberIdentity state.imsi))
  | "ServiceProviderName" => some (.sim (.serviceProviderName state.spn))
  | "PinRequired" => state.pinRequired.map fun code => .sim (.pinRequired code)
  | "Retries" => some (.sim (.retries state.retries))
  | "LockedPins" => some (.sim (.lockedPins state.lockedPins))
  | _ => none

def Network.State.field (state : Network.State) : String → Option Change
  | "Status" => some (.network (.status state.status))
  | "LocationAreaCode" => some (.network (.locationAreaCode state.lac))
  | "CellId" => some (.network (.cellId state.cellId))
  | "MobileCountryCode" => some (.network (.mobileCountryCode state.mcc))
  | "MobileNetworkCode" => some (.network (.mobileNetworkCode state.mnc))
  | "Name" => some (.network (.name state.name))
  | "Strength" => some (.network (.strength state.strength))
  | "Technology" => state.technology.map fun technology => .network (.technology technology)
  | "Mode" => some (.network (.mode state.mode))
  | _ => none

def PacketData.State.field (state : PacketData.State) : String → Option Change
  | "Attached" => some (.data (.attached state.attached))
  | "Powered" => some (.data (.powered state.powered))
  | "Suspended" => some (.data (.suspended state.suspended))
  | "RoamingAllowed" => some (.data (.roamingAllowed state.roamingAllowed))
  | "Bearer" => some (.data (.bearer state.bearer))
  | _ => none

theorem Modem.State.field_set (state : Modem.State) (property : Modem.Property) (name : String) :
    (state.set property).field name =
      if (Change.modem property).name = name then some (.modem property) else state.field name := by
  cases property <;> unfold field <;> split <;> simp_all [set, Change.name, eq_comm]

theorem Modem.State.voiceField_setVoice (state : Modem.State) (property : Modem.VoiceProperty)
    (name : String) :
    (state.setVoice property).voiceField name =
      if (Change.voice property).name = name then some (.voice property)
      else state.voiceField name := by
  cases property
  unfold voiceField
  split <;> simp_all [setVoice, Change.name, eq_comm]

theorem Sim.State.field_set (state : Sim.State) (property : Sim.Property) (name : String) :
    (state.set property).field name =
      if (Change.sim property).name = name then some (.sim property) else state.field name := by
  cases property <;> unfold field <;> split <;> simp_all [set, Change.name, eq_comm]

theorem Network.State.field_set (state : Network.State) (property : Network.Property)
    (name : String) :
    (state.set property).field name =
      if (Change.network property).name = name then some (.network property)
      else state.field name := by
  cases property <;> unfold field <;> split <;> simp_all [set, Change.name, eq_comm]

theorem PacketData.State.field_set (state : PacketData.State) (property : PacketData.Property)
    (name : String) :
    (state.set property).field name =
      if (Change.data property).name = name then some (.data property) else state.field name := by
  cases property <;> unfold field <;> split <;> simp_all [set, Change.name, eq_comm]

/-! ### The fields are all there is -/

theorem Modem.State.ext_field {a b : Modem.State} (hfield : ∀ name, a.field name = b.field name)
    (hvoice : ∀ name, a.voiceField name = b.voiceField name) (htracked : a.tracked = b.tracked) :
    a = b := by
  have hpowered := hfield "Powered"
  have honline := hfield "Online"
  have hmanufacturer := hfield "Manufacturer"
  have hmodel := hfield "Model"
  have hrevision := hfield "Revision"
  have hserial := hfield "Serial"
  have hinterfaces := hfield "Interfaces"
  have hnumbers := hvoice "EmergencyNumbers"
  cases a
  cases b
  simp_all [field, voiceField]

theorem Sim.State.ext_field {a b : Sim.State} (hfield : ∀ name, a.field name = b.field name)
    (htracked : a.tracked = b.tracked) : a = b := by
  have hpresent := hfield "Present"
  have hcountry := hfield "MobileCountryCode"
  have hnetwork := hfield "MobileNetworkCode"
  have hidentity := hfield "SubscriberIdentity"
  have hprovider := hfield "ServiceProviderName"
  have hpin := hfield "PinRequired"
  have hretries := hfield "Retries"
  have hlocked := hfield "LockedPins"
  have hthere : Function.Injective fun there => Change.sim (.present there) := by
    intro x y hsame
    simpa using hsame
  have hcode : Function.Injective fun code => Change.sim (.pinRequired code) := by
    intro x y hsame
    simpa using hsame
  have hpresents := Option.map_injective hthere hpresent
  have hpins := Option.map_injective hcode hpin
  cases a
  cases b
  simp_all [field]

theorem Network.State.ext_field {a b : Network.State}
    (hfield : ∀ name, a.field name = b.field name) (htracked : a.tracked = b.tracked) : a = b := by
  have hstatus := hfield "Status"
  have harea := hfield "LocationAreaCode"
  have hcell := hfield "CellId"
  have hcountry := hfield "MobileCountryCode"
  have hnetwork := hfield "MobileNetworkCode"
  have hname := hfield "Name"
  have hstrength := hfield "Strength"
  have htechnology := hfield "Technology"
  have hmode := hfield "Mode"
  have hinjective : Function.Injective fun technology => Change.network (.technology technology) :=
    by
      intro x y hsame
      simpa using hsame
  have htechnologies := Option.map_injective hinjective htechnology
  cases a
  cases b
  simp_all [field]

theorem PacketData.State.ext_field {a b : PacketData.State}
    (hfield : ∀ name, a.field name = b.field name) (htracked : a.tracked = b.tracked) : a = b := by
  have hattached := hfield "Attached"
  have hpowered := hfield "Powered"
  have hsuspended := hfield "Suspended"
  have hroaming := hfield "RoamingAllowed"
  have hbearer := hfield "Bearer"
  cases a
  cases b
  simp_all [field]

/-! ### Fields of an entry -/

/-- The field of an entry that a property of an interface sets. What is not attached has the fields
that it will begin with. -/
def Entry.field (entry : Entry) : Interface → String → Option Change
  | .modem, name => entry.modem.state.field name
  | .simManager, name => (entry.sim.getD .new).tracker.state.field name
  | .networkRegistration, name => (entry.network.getD (.new .fresh)).state.field name
  | .connectionManager, name => (entry.data.getD (.new .fresh)).state.field name
  | .supplementaryServices, _ => none
  | .voiceCallManager, name => entry.modem.state.voiceField name

/-- The fields that an interface begins with. -/
def blankField (interface : Interface) (name : String) : Option Change :=
  Entry.new.field interface name

/-! ### Changes of one property -/

/-- Whether a change is one of the property of that name. -/
def Change.Concerns (change : Change) (interface : Interface) (name : String) : Prop :=
  change.interface = interface ∧ change.name = name

instance (change : Change) (interface : Interface) (name : String) :
    Decidable (change.Concerns interface name) :=
  inferInstanceAs (Decidable (_ ∧ _))

/-- The last of the changes of a property. -/
def lastChange (interface : Interface) (name : String) : List Change → Option Change
  | [] => none
  | change :: rest =>
    lastChange interface name rest <|> if change.Concerns interface name then some change else none

/-- A field that the first change sets is overwritten by those that follow. -/
theorem lastChange_cons_orElse (interface : Interface) (name : String) (change : Change)
    (rest : List Change) (field : Option Change) :
    (lastChange interface name (change :: rest) <|> field) =
      (lastChange interface name rest <|>
        if change.Concerns interface name then some change else field) := by
  rw [lastChange]
  by_cases hconcerns : change.Concerns interface name
  · cases lastChange interface name rest <;> simp [hconcerns]
  · cases lastChange interface name rest <;> simp [hconcerns]

theorem lastChange_append (interface : Interface) (name : String) (first rest : List Change) :
    lastChange interface name (first ++ rest) =
      (lastChange interface name rest <|> lastChange interface name first) := by
  induction first with
  | nil => cases hrest : lastChange interface name rest <;> simp [lastChange, hrest]
  | cons change more ih =>
    rw [List.cons_append, lastChange, ih, lastChange]
    cases lastChange interface name rest <;> rfl

theorem lastChange_eq_none_iff {interface : Interface} {name : String} {changes : List Change} :
    lastChange interface name changes = none ↔
      ∀ change ∈ changes, ¬ change.Concerns interface name := by
  induction changes with
  | nil => simp [lastChange]
  | cons change rest ih =>
    rw [lastChange, List.forall_mem_cons, ← ih]
    by_cases hconcerns : change.Concerns interface name
    · cases hrest : lastChange interface name rest <;> simp [hconcerns]
    · cases hrest : lastChange interface name rest <;> simp [hconcerns]

/-! ### What a bus stores -/

namespace Change

theorem name_of_decode {interface : Interface} {name : String} {value : Wire.Value}
    {change : Change} (hdecode : decode interface name value = some change) :
    change.name = name := by
  cases interface <;>
    simp only [decode, decodeModem, decodeSim, decodeNetwork, decodeData, decodeVoice,
      Option.map_eq_some_iff, reduceCtorEq] at hdecode
  all_goals
    obtain ⟨property, hproperty, rfl⟩ := hdecode
    split at hproperty
    all_goals
      first
      | cases hproperty
      | obtain ⟨_, _, rfl⟩ := Option.map_eq_some_iff.1 hproperty
        rfl

theorem concerns_of_decode {interface : Interface} {name : String} {value : Wire.Value}
    {change : Change} (hdecode : decode interface name value = some change) :
    change.Concerns interface name :=
  ⟨interface_of_decode hdecode, name_of_decode hdecode⟩

end Change

namespace Simulator.SimulatedModem

/-- The decoding of the value that is stored for a property. -/
def stored (modem : SimulatedModem) (interface : Interface) (name : String) : Option Change :=
  (modem.value? interface name).bind (Change.decode interface name)

/-- What the field of a property is to be: the value stored for it, else the one it begins with. -/
def shown (modem : SimulatedModem) (interface : Interface) (name : String) : Option Change :=
  modem.stored interface name <|> blankField interface name

theorem mem_decoded_iff {modem : SimulatedModem} {interface : Interface} {change : Change} :
    change ∈ modem.decoded interface ↔
      modem.stored interface change.name = some change := by
  simp only [decoded, List.mem_filterMap, stored, Option.bind_eq_some_iff]
  constructor
  · rintro ⟨⟨property, value⟩, hmem, hdecode⟩
    split at hdecode
    · next hinterface =>
      rw [Change.name_of_decode hdecode, ← hinterface]
      refine ⟨value, Table.get?_eq_some_iff.2 hmem, ?_⟩
      rw [hinterface]
      exact hdecode
    · cases hdecode
  · rintro ⟨value, hvalue, hdecode⟩
    refine ⟨(⟨interface, change.name⟩, value), Table.get?_eq_some_iff.1 hvalue, ?_⟩
    rw [if_pos rfl]
    exact hdecode

/-- A property that can be decoded is listed once. -/
theorem decoded_split {modem : SimulatedModem} {interface : Interface} {name : String}
    {change : Change} (hstored : modem.stored interface name = some change) :
    ∃ before after, modem.decoded interface = before ++ change :: after ∧
      ∀ other ∈ before ++ after, other.name ≠ name := by
  obtain ⟨value, hvalue, hdecode⟩ := Option.bind_eq_some_iff.1 hstored
  obtain ⟨before, after, hentries⟩ := List.append_of_mem (Table.get?_eq_some_iff.1 hvalue)
  have hnodup := modem.properties.keys_nodup
  rw [Table.keys, hentries, List.map_append, List.map_cons] at hnodup
  have hother : ∀ entry ∈ before ++ after, entry.1 ≠ ⟨interface, name⟩ := by
    intro entry hmem hkey
    have hlisted : entry.1 ∈ (before ++ after).map (·.1) := List.mem_map_of_mem hmem
    rw [hkey, List.map_append] at hlisted
    exact (List.nodup_cons.1 (List.nodup_middle.1 hnodup)).1 hlisted
  let read : PropertyName × Wire.Value → Option Change := fun entry =>
    if entry.1.interface = interface then Change.decode interface entry.1.name entry.2 else none
  refine ⟨before.filterMap read, after.filterMap read, ?_, fun other hmem hname => ?_⟩
  · have hread : read (⟨interface, name⟩, value) = some change := (if_pos rfl).trans hdecode
    change modem.properties.entries.filterMap read = _
    rw [hentries, List.filterMap_append, List.filterMap_cons_some hread]
  · rw [← List.filterMap_append] at hmem
    obtain ⟨⟨property, stored⟩, hentry, hread⟩ := List.mem_filterMap.1 hmem
    simp only [read] at hread
    split at hread
    · next hinterface =>
      refine hother _ hentry ?_
      rw [← hinterface, ← hname, Change.name_of_decode hread]
    · cases hread

theorem interface_of_mem_decoded {modem : SimulatedModem} {interface : Interface} {change : Change}
    (hmem : change ∈ modem.decoded interface) : change.interface = interface := by
  obtain ⟨value, -, hdecode⟩ := Option.bind_eq_some_iff.1 (mem_decoded_iff.1 hmem)
  exact Change.interface_of_decode hdecode

/-- Loading the properties of an interface finds the value stored for each. -/
theorem lastChange_decoded (modem : SimulatedModem) (interface : Interface) (name : String) :
    lastChange interface name (modem.decoded interface) = modem.stored interface name := by
  cases hstored : modem.stored interface name with
  | none =>
    apply lastChange_eq_none_iff.2
    intro change hmem hconcerns
    rw [← hconcerns.2, mem_decoded_iff.1 hmem] at hstored
    cases hstored
  | some change =>
    obtain ⟨before, after, hdecoded, hother⟩ := decoded_split hstored
    obtain ⟨value, -, hdecode⟩ := Option.bind_eq_some_iff.1 hstored
    have hafter : lastChange interface name after = none :=
      lastChange_eq_none_iff.2 fun other hmem hconcerns =>
        hother other (List.mem_append_right _ hmem) hconcerns.2
    rw [hdecoded, lastChange_append, lastChange, hafter,
      if_pos (Change.concerns_of_decode hdecode)]
    rfl

end Simulator.SimulatedModem

end Telephony

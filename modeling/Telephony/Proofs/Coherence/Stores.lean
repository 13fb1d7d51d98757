import Telephony.Proofs.Coherence.Arrival

/-!
# What modems on the bus store

Every step of a script keeps a modem on the bus regular, and changes no property but its own.
-/

namespace Telephony.Simulator

open Wire (Value)

theorem ofBusName?_busName (interface : Interface) :
    Interface.ofBusName? interface.busName = some interface := by
  cases interface <;> decide

theorem texts?_namesValue (interfaces : List Interface) :
    (namesValue interfaces).texts? = some (interfaces.map Interface.busName) := by
  simp only [namesValue, Value.texts?, Value.unwrap]
  induction interfaces with
  | nil => rfl
  | cons first rest ih =>
    simp only [List.map_cons, List.mapM_cons, ih]
    rfl

theorem decode_namesValue (interfaces : List Interface) :
    Change.decode .modem "Interfaces" (namesValue interfaces) =
      some (.modem (.interfaces (.ofList interfaces))) := by
  have hnames : (interfaces.map Interface.busName).filterMap Interface.ofBusName? = interfaces := by
    rw [List.filterMap_map]
    exact (List.filterMap_congr fun i _ => ofBusName?_busName i).trans List.filterMap_some
  simp only [Change.decode, Change.decodeModem, texts?_namesValue, Option.map_some,
    InterfaceSet.ofNames, hnames]

namespace SimulatedModem

theorem stored_store (modem : SimulatedModem) (interface : Interface) (name : String)
    (value : Value) (other : Interface) (key : String) :
    (modem.store interface name value).stored other key =
      if interface = other ∧ name = key then Change.decode interface name value
      else modem.stored other key := by
  have hvalue : (modem.store interface name value).value? other key =
      if (⟨interface, name⟩ : PropertyName) = ⟨other, key⟩ then some value
      else modem.value? other key :=
    Table.get?_insert modem.properties ⟨interface, name⟩ ⟨other, key⟩ value
  simp only [PropertyName.mk.injEq] at hvalue
  rw [stored, hvalue]
  split
  · next hsame =>
    obtain ⟨rfl, rfl⟩ := hsame
    rfl
  · rfl

@[simp] theorem interfaces_storeAll (modem : SimulatedModem) (interface : Interface)
    (properties : List (String × Value)) :
    (modem.storeAll interface properties).interfaces = modem.interfaces := by
  unfold storeAll
  induction properties generalizing modem with
  | nil => rfl
  | cons property rest ih => exact ih _

theorem stored_storeAll_of_ne (modem : SimulatedModem) {interface other : Interface}
    (hne : interface ≠ other) (properties : List (String × Value)) (key : String) :
    (modem.storeAll interface properties).stored other key = modem.stored other key := by
  unfold storeAll
  induction properties generalizing modem with
  | nil => rfl
  | cons property rest ih =>
    have hother : ¬ (interface = other ∧ property.1 = key) := fun hsame => hne hsame.1
    calc
      _ = (modem.store interface property.1 property.2).stored other key := ih _
      _ = _ := stored_store modem interface property.1 property.2 other key
      _ = modem.stored other key := if_neg hother

/-- The modem with the properties that some interfaces begin with. -/
def withDefaults (modem : SimulatedModem) (interfaces : List Interface) : SimulatedModem :=
  interfaces.foldl (fun modem i => modem.storeAll i (defaults i)) modem

theorem interfaces_withDefaults (modem : SimulatedModem) (interfaces : List Interface) :
    (modem.withDefaults interfaces).interfaces = modem.interfaces := by
  unfold withDefaults
  induction interfaces generalizing modem with
  | nil => rfl
  | cons first rest ih => exact (ih _).trans (interfaces_storeAll modem first (defaults first))

theorem stored_withDefaults (modem : SimulatedModem) {interfaces : List Interface}
    {other : Interface} (hother : other = .modem ∨ other ∉ interfaces) (key : String) :
    (modem.withDefaults interfaces).stored other key = modem.stored other key := by
  unfold withDefaults
  induction interfaces generalizing modem with
  | nil => rfl
  | cons first rest ih =>
    refine (ih (modem.storeAll first (defaults first)) (hother.imp_right fun hnot hmem =>
      hnot (.tail _ hmem))).trans ?_
    by_cases hfirst : first = other
    · subst hfirst
      rcases hother with rfl | hnot
      · rfl
      · exact absurd List.mem_cons_self hnot
    · exact stored_storeAll_of_ne modem hfirst _ key

theorem Regular.of_stored {modem after : SimulatedModem} (hregular : modem.Regular)
    (hinterfaces : after.interfaces = modem.interfaces)
    (hstored : ∀ name, after.stored .modem name = modem.stored .modem name) : after.Regular where
  interfaces := by
    rw [hstored, hinterfaces]
    exact hregular.interfaces
  complete := fun name hnone => hregular.complete name ((hstored name).symm.trans hnone)

/-- A new modem is regular. -/
theorem regular_new (interfaces : List Interface) : (new interfaces).Regular := by
  let blank : SimulatedModem := ⟨interfaces, ∅, "1234", "12345678", false, ∅⟩
  let own := blank.storeAll .modem
    [("Powered", .bool true), ("Online", .bool true), ("Manufacturer", .text "phonesim"),
      ("Model", .text "Simulated Modem"), ("Revision", .text "1.0"),
      ("Serial", .text "356938035643809"), ("Interfaces", namesValue interfaces)]
  have hstored : ∀ name, (new interfaces).stored .modem name = own.stored .modem name :=
    fun name => stored_withDefaults own (.inl rfl) name
  have hown : own.Regular := by
    constructor
    · refine (stored_store _ _ _ _ _ _).trans ((if_pos ⟨rfl, rfl⟩).trans ?_)
      exact decode_namesValue interfaces
    · intro name hnone
      simp only [own, storeAll, List.foldl_cons, List.foldl_nil, stored_store, true_and] at hnone
      change Modem.State.fresh.field name = none
      unfold Modem.State.field
      split <;> simp_all [Change.decode, Change.decodeModem, texts?_namesValue] <;> cases hnone
  exact hown.of_stored (interfaces_withDefaults own interfaces) hstored

/-- A value that can be decoded keeps a modem regular, if it does not set the interfaces. -/
theorem Regular.store {modem : SimulatedModem} (hregular : modem.Regular) {interface : Interface}
    {name : String} {value : Value} {change : Change}
    (hdecode : Change.decode interface name value = some change)
    (hother : ¬ (interface = .modem ∧ name = "Interfaces")) :
    (modem.store interface name value).Regular where
  interfaces := by
    rw [stored_store, if_neg hother]
    exact hregular.interfaces
  complete := fun key hnone => by
    rw [stored_store] at hnone
    split at hnone
    · rw [hdecode] at hnone
      cases hnone
    · exact hregular.complete key hnone

/-- The modem as it is after its interfaces have been set. -/
def offering (modem : SimulatedModem) (interfaces : List Interface) : SimulatedModem :=
  (modem.setInterfaces interfaces).store .modem "Interfaces" (namesValue interfaces)

theorem stored_offering_interfaces (modem : SimulatedModem) (interfaces : List Interface) :
    (modem.offering interfaces).stored .modem "Interfaces" =
      some (.modem (.interfaces (.ofList interfaces))) :=
  (stored_store _ _ _ _ _ _).trans ((if_pos ⟨rfl, rfl⟩).trans (decode_namesValue interfaces))

/-- Setting the interfaces changes the properties of those only that are new. -/
theorem stored_offering_of_ne (modem : SimulatedModem) (interfaces : List Interface)
    {interface : Interface} {name : String}
    (hother : ¬ (interface = .modem ∧ name = "Interfaces"))
    (hold : interface = .modem ∨ interface ∈ modem.interfaces ∨ interface ∉ interfaces) :
    (modem.offering interfaces).stored interface name = modem.stored interface name := by
  have hne : ¬ (Interface.modem = interface ∧ "Interfaces" = name) := fun hsame =>
    hother ⟨hsame.1.symm, hsame.2.symm⟩
  refine (stored_store _ _ _ _ _ _).trans ((if_neg hne).trans ?_)
  refine stored_withDefaults modem (hold.imp_right fun hold hmem => ?_) name
  obtain ⟨hin, hfresh⟩ := List.mem_filter.1 hmem
  rcases hold with hbefore | hnot
  · simp [hbefore] at hfresh
  · exact hnot hin

theorem Regular.offering {modem : SimulatedModem} (hregular : modem.Regular)
    (interfaces : List Interface) : (modem.offering interfaces).Regular where
  interfaces := stored_offering_interfaces modem interfaces
  complete := fun name hnone => by
    by_cases hname : name = "Interfaces"
    · rw [hname, stored_offering_interfaces] at hnone
      cases hnone
    · rw [stored_offering_of_ne modem interfaces (fun hsame => hname hsame.2) (.inl rfl)] at hnone
      exact hregular.complete name hnone

end SimulatedModem

end Telephony.Simulator

import Telephony.Change
import Telephony.Proofs.Tables
import Telephony.Proofs.Wire.Shapes

/-!
# What a change takes from a value

A change is decoded from what the value carries, whatever stands around it. A number counts by its
size only, not by the type it is sent in, and the names of codes come back from the codes that they
are decoded to, so that no two of them fall together.
-/

namespace Telephony

open Wire (IntType Value)

theorem PinType.ofName_injective : Function.Injective PinType.ofName :=
  Function.LeftInverse.injective name_ofName

namespace Change

theorem decode_wrap (interface : Interface) (name : String) (value : Value) (layers : Nat) :
    decode interface name (value.wrap layers) = decode interface name value :=
  Value.read_wrap (decode_variant interface name) value layers

/-! ### Numbers -/

section Numbers

variable {type : IntType} {n : Int} {layers : Nat} {change : Change}

theorem decode_locationAreaCode_iff :
    decode .networkRegistration "LocationAreaCode" ((Value.int type n).wrap layers) = some change ↔
      ∃ lac : UInt16, (lac.toNat : Int) = n ∧ change = .network (.locationAreaCode lac) := by
  simp only [decode, decodeNetwork, Option.map_map, Function.comp_def]
  rw [Value.map_uint16_eq_some_iff fun lac => Change.network (.locationAreaCode lac)]
  simp only [Value.counts_wrap_int]

theorem decode_cellId_iff :
    decode .networkRegistration "CellId" ((Value.int type n).wrap layers) = some change ↔
      ∃ id : UInt32, (id.toNat : Int) = n ∧ change = .network (.cellId id) := by
  simp only [decode, decodeNetwork, Option.map_map, Function.comp_def]
  rw [Value.map_uint32_eq_some_iff fun id => Change.network (.cellId id)]
  simp only [Value.counts_wrap_int]

/-- A word is capped as its number is. -/
theorem ofNat_min_hundred {m : Nat} (hm : m ≤ UInt8.size - 1) :
    UInt8.ofNat (min m 100) = min (UInt8.ofNat m) 100 := by
  have hnumber : (UInt8.ofNat m).toNat = m := UInt8.toNat_ofNat_of_lt (Nat.lt_succ_of_le hm)
  have hword : UInt8.ofNat m ≤ 100 ↔ m ≤ 100 := by
    rw [UInt8.le_iff_toNat_le, hnumber]
    rfl
  simp only [UInt8.min_def, hword, Nat.min_def]
  split <;> rfl

theorem decode_strength_iff :
    decode .networkRegistration "Strength" ((Value.int type n).wrap layers) = some change ↔
      ∃ percent : UInt8, (percent.toNat : Int) = n ∧
        change = .network (.strength (min percent 100)) := by
  have hcapped : decode .networkRegistration "Strength" ((Value.int type n).wrap layers) =
      (((Value.int type n).wrap layers).natUpTo? (UInt8.size - 1)).map fun m =>
        .network (.strength (min (UInt8.ofNat m) 100)) := by
    simp only [decode, decodeNetwork, Option.map_map, Function.comp_def]
    refine Option.map_congr fun m hread => ?_
    rw [ofNat_min_hundred (Value.natUpTo?_eq_some_iff.1 hread).2]
  rw [hcapped, Value.map_uint8_eq_some_iff fun percent =>
    Change.network (.strength (min percent 100))]
  simp only [Value.counts_wrap_int]

end Numbers

/-! ### Codes -/

theorem decode_lockedPins (value : Value) :
    decode .simManager "LockedPins" value =
      value.texts?.map fun names => .sim (.lockedPins (names.map PinType.ofName)) := by
  simp only [decode, decodeSim, Option.map_map, Function.comp_def]

theorem decode_retries (value : Value) :
    decode .simManager "Retries" value =
      value.byteEntries?.map fun entries => .sim (.retries (retriesOf entries)) := by
  simp only [decode, decodeSim, Option.map_map, Function.comp_def]

theorem map_name_ofName (names : List String) :
    (names.map PinType.ofName).map PinType.name = names := by
  simp [Function.comp_def]

theorem lists_iff_decode (value : Value) (names : List String) :
    value.Lists names ↔
      ∃ codes, decode .simManager "LockedPins" value = some (.sim (.lockedPins codes)) ∧
        codes.map PinType.name = names := by
  rw [decode_lockedPins, ← Value.texts?_eq_some_iff]
  constructor
  · intro hread
    exact ⟨names.map PinType.ofName, by rw [hread, Option.map_some], map_name_ofName names⟩
  · rintro ⟨codes, hdecode, rfl⟩
    obtain ⟨names, hread, hcodes⟩ := Option.map_eq_some_iff.1 hdecode
    simp only [sim.injEq, Sim.Property.lockedPins.injEq] at hcodes
    rw [hread, ← hcodes, map_name_ofName]

theorem get?_retriesOf (counts : List (String × UInt8)) (name : String) :
    (retriesOf counts).get? (.ofName name) = (Table.ofList counts).get? name := by
  rw [retriesOf, Table.get?_ofList, Table.get?_ofList, ← List.map_reverse]
  exact Table.lookup_map_key PinType.ofName_injective name counts.reverse

theorem ofName_name_of_mem {counts : List (String × UInt8)} {code : PinType}
    (hmem : code ∈ (retriesOf counts).keys) : .ofName code.name = code := by
  obtain ⟨⟨code, left⟩, hentry, rfl⟩ := List.mem_map.1 hmem
  have hfound := Table.get?_eq_some_iff.2 hentry
  rw [retriesOf, Table.get?_ofList] at hfound
  obtain ⟨count, -, hcount⟩ := List.mem_map.1 (List.mem_reverse.1 (Table.mem_of_lookup hfound))
  obtain rfl : PinType.ofName count.1 = code := congrArg Prod.fst hcount
  rw [PinType.name_ofName]

/-- By their names the codes have the attempts that were counted. -/
theorem perm_retriesOf (counts : List (String × UInt8)) :
    ((retriesOf counts).entries.map fun (code, left) => (code.name, left)).Perm
      (Table.ofList counts).entries := by
  have hdistinct :
      ((retriesOf counts).entries.map fun (code, left) => (code.name, left)).Nodup := by
    refine List.Nodup.of_map Prod.fst ?_
    have hnames : ((retriesOf counts).keys.map PinType.name).Nodup := by
      refine (Table.keys_nodup _).map_on fun a ha b hb heq => ?_
      rw [← ofName_name_of_mem ha, heq, ofName_name_of_mem hb]
    rw [Table.keys, List.map_map] at hnames
    rwa [List.map_map]
  refine (List.perm_ext_iff_of_nodup hdistinct (Table.keys_nodup _).of_map).2 ?_
  rintro ⟨name, left⟩
  rw [← Table.get?_eq_some_iff, ← get?_retriesOf, List.mem_map]
  constructor
  · rintro ⟨⟨code, count⟩, hentry, heq⟩
    obtain ⟨rfl, rfl⟩ := Prod.mk.inj heq
    rw [ofName_name_of_mem (List.mem_map_of_mem hentry)]
    exact Table.get?_eq_some_iff.2 hentry
  · intro hfound
    exact ⟨_, Table.get?_eq_some_iff.1 hfound, Prod.ext (PinType.name_ofName name) rfl⟩

theorem maps_iff_decode (value : Value) (counts : Table String UInt8) :
    value.Maps counts ↔
      ∃ left, decode .simManager "Retries" value = some (.sim (.retries left)) ∧
        (left.entries.map fun (code, n) => (code.name, n)).Perm counts.entries := by
  rw [decode_retries, Value.Maps]
  constructor
  · rintro ⟨listed, htallies, rfl⟩
    rw [← Value.byteEntries?_eq_some_iff] at htallies
    exact ⟨retriesOf listed, by rw [htallies, Option.map_some], perm_retriesOf listed⟩
  · rintro ⟨left, hdecode, hperm⟩
    obtain ⟨listed, hread, hleft⟩ := Option.map_eq_some_iff.1 hdecode
    simp only [sim.injEq, Sim.Property.retries.injEq] at hleft
    have hsame : (Table.ofList listed).entries.Perm counts.entries :=
      (perm_retriesOf listed).symm.trans (hleft ▸ hperm)
    exact ⟨listed, Value.byteEntries?_eq_some_iff.1 hread, Table.eq_of_perm hsame⟩

/-- A change is decoded from what the value carries. -/
theorem decode_reads_payload :
    (∀ interface name value layers,
      decode interface name (value.wrap layers) = decode interface name value) ∧
    (∀ interface name value change, decode interface name value = some change →
      change.interface = interface) ∧
    (∀ type n layers change,
      (decode .networkRegistration "LocationAreaCode" ((Value.int type n).wrap layers) =
          some change ↔
        ∃ lac : UInt16, (lac.toNat : Int) = n ∧ change = .network (.locationAreaCode lac)) ∧
      (decode .networkRegistration "CellId" ((Value.int type n).wrap layers) = some change ↔
        ∃ id : UInt32, (id.toNat : Int) = n ∧ change = .network (.cellId id)) ∧
      (decode .networkRegistration "Strength" ((Value.int type n).wrap layers) = some change ↔
        ∃ percent : UInt8, (percent.toNat : Int) = n ∧
          change = .network (.strength (min percent 100)))) ∧
    (∀ value names, value.Lists names ↔
      ∃ codes, decode .simManager "LockedPins" value = some (.sim (.lockedPins codes)) ∧
        codes.map PinType.name = names) ∧
    ∀ value counts, value.Maps counts ↔
      ∃ left, decode .simManager "Retries" value = some (.sim (.retries left)) ∧
        (left.entries.map fun (code, n) => (code.name, n)).Perm counts.entries :=
  ⟨decode_wrap, fun _ _ _ _ => interface_of_decode, fun _ _ _ _ =>
    ⟨decode_locationAreaCode_iff, decode_cellId_iff, decode_strength_iff⟩, lists_iff_decode,
    maps_iff_decode⟩

end Change

end Telephony

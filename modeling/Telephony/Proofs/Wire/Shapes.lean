import Mathlib.Data.List.Forall2
import Telephony.Table
import Telephony.Wire.Value

/-!
# Shapes of values

What each reader of values reads, said by the shape of the value: a reader answers iff the value has
the shape it reads, in any number of variants, and what it answers is what the value carries.
-/

namespace Telephony.Wire

/-- Reading a list is reading its items, one by one. -/
theorem mapM_eq_some_iff {α β : Type} {read : α → Option β} {items : List α} {out : List β} :
    items.mapM read = some out ↔ List.Forall₂ (fun item x => read item = some x) items out := by
  induction items generalizing out with
  | nil =>
    rw [List.mapM_nil, List.forall₂_nil_left_iff]
    exact Option.some_inj.trans eq_comm
  | cons item rest ih =>
    rw [List.mapM_cons, List.forall₂_cons_left_iff]
    constructor
    · intro hread
      obtain ⟨x, hx, hrest⟩ := Option.bind_eq_some_iff.1 hread
      obtain ⟨others, hothers, hout⟩ := Option.bind_eq_some_iff.1 hrest
      exact ⟨x, others, hx, ih.1 hothers, (Option.some.inj hout).symm⟩
    · rintro ⟨x, others, hx, hothers, rfl⟩
      rw [hx, Option.bind_eq_bind, Option.bind_some, ih.2 hothers]
      rfl

namespace Value

/-! ### Variants -/

/-- The value in so many variants. -/
def wrap (value : Value) : Nat → Value
  | 0 => value
  | layers + 1 => .variant (value.wrap layers)

/-- A reader that looks through one variant looks through all. -/
theorem read_wrap {β : Type} {read : Value → β}
    (hvariant : ∀ value, read (.variant value) = read value) (value : Value) (layers : Nat) :
    read (value.wrap layers) = read value := by
  induction layers with
  | zero => rfl
  | succ layers ih => exact (hvariant _).trans ih

@[simp] theorem unwrap_wrap (value : Value) (layers : Nat) :
    (value.wrap layers).unwrap = value.unwrap :=
  read_wrap unwrap_variant value layers

theorem exists_wrap (value : Value) : ∃ layers, value = value.unwrap.wrap layers := by
  fun_induction unwrap value with
  | case1 value ih =>
    obtain ⟨layers, hvalue⟩ := ih
    exact ⟨layers + 1, congrArg variant hvalue⟩
  | case2 => exact ⟨0, rfl⟩

/-! ### Texts and numbers -/

/-- The value is a text or an object path, in any number of variants. -/
def Says (value : Value) (s : String) : Prop :=
  ∃ layers, value = (text s).wrap layers ∨ value = (objectPath s).wrap layers

theorem text?_eq_some_iff {value : Value} {s : String} :
    value.text? = some s ↔ value.Says s := by
  constructor
  · intro hread
    obtain ⟨layers, hvalue⟩ := value.exists_wrap
    unfold text? at hread
    split at hread
    · next hinner =>
      rw [hinner, Option.some.inj hread] at hvalue
      exact ⟨layers, .inl hvalue⟩
    · next hinner =>
      rw [hinner, Option.some.inj hread] at hvalue
      exact ⟨layers, .inr hvalue⟩
    · cases hread
  · rintro ⟨layers, rfl | rfl⟩ <;> exact read_wrap text?_variant _ layers

/-- The value is the number in some type of integers, in any number of variants. -/
def Counts (value : Value) (n : Int) : Prop :=
  ∃ type layers, value = (int type n).wrap layers

theorem nat?_wrap_int (type : IntType) (n : Int) (layers : Nat) :
    ((int type n).wrap layers).nat? = if 0 ≤ n then some n.toNat else none :=
  read_wrap nat?_variant (int type n) layers

theorem nat?_eq_some_iff {value : Value} {n : Nat} : value.nat? = some n ↔ value.Counts n := by
  constructor
  · intro hread
    obtain ⟨layers, hvalue⟩ := value.exists_wrap
    unfold nat? at hread
    split at hread
    · next type m hinner =>
      rw [Option.ite_none_right_eq_some] at hread
      obtain ⟨hnonneg, hm⟩ := hread
      rw [← Option.some.inj hm, Int.toNat_of_nonneg hnonneg]
      exact ⟨type, layers, hinner ▸ hvalue⟩
    · cases hread
  · rintro ⟨type, layers, rfl⟩
    rw [nat?_wrap_int, if_pos (Int.natCast_nonneg n), Int.toNat_natCast]

theorem natUpTo?_eq_some_iff {value : Value} {limit n : Nat} :
    value.natUpTo? limit = some n ↔ value.Counts n ∧ n ≤ limit := by
  rw [natUpTo?, Option.filter_eq_some_iff, decide_eq_true_iff, nat?_eq_some_iff]

theorem counts_wrap_int {type : IntType} {n m : Int} {layers : Nat} :
    ((int type n).wrap layers).Counts m ↔ m = n := by
  constructor
  · rintro ⟨other, others, heq⟩
    have hunwrapped := congrArg unwrap heq
    rw [unwrap_wrap, unwrap_wrap] at hunwrapped
    exact (int.inj hunwrapped).2.symm
  · rintro rfl
    exact ⟨type, layers, rfl⟩

/-- A number is read as the word of this number, if there is one. -/
theorem map_ofNat_eq_some_iff {ω β : Type} {toNat : ω → Nat} {ofNat : Nat → ω} {limit : Nat}
    (hlimit : ∀ word, toNat word ≤ limit) (hword : ∀ word, ofNat (toNat word) = word)
    (hnumber : ∀ n ≤ limit, toNat (ofNat n) = n) (make : ω → β) {value : Value} {made : β} :
    (value.natUpTo? limit).map (fun n => make (ofNat n)) = some made ↔
      ∃ word, value.Counts (toNat word) ∧ made = make word := by
  rw [Option.map_eq_some_iff]
  constructor
  · rintro ⟨n, hread, rfl⟩
    obtain ⟨hcounts, hle⟩ := natUpTo?_eq_some_iff.1 hread
    exact ⟨ofNat n, by rwa [hnumber n hle], rfl⟩
  · rintro ⟨word, hcounts, rfl⟩
    exact ⟨toNat word, natUpTo?_eq_some_iff.2 ⟨hcounts, hlimit word⟩, by rw [hword]⟩

section Words

variable {β : Type} {value : Value} {made : β}

theorem map_uint8_eq_some_iff (make : UInt8 → β) :
    (value.natUpTo? (UInt8.size - 1)).map (fun n => make (UInt8.ofNat n)) = some made ↔
      ∃ word : UInt8, value.Counts word.toNat ∧ made = make word :=
  map_ofNat_eq_some_iff (fun word => Nat.le_sub_one_of_lt word.toNat_lt_size)
    (fun _ => UInt8.ofNat_toNat)
    (fun _ hle => UInt8.toNat_ofNat_of_lt (Nat.lt_succ_of_le hle)) make

theorem map_uint16_eq_some_iff (make : UInt16 → β) :
    (value.natUpTo? (UInt16.size - 1)).map (fun n => make (UInt16.ofNat n)) = some made ↔
      ∃ word : UInt16, value.Counts word.toNat ∧ made = make word :=
  map_ofNat_eq_some_iff (fun word => Nat.le_sub_one_of_lt word.toNat_lt_size)
    (fun _ => UInt16.ofNat_toNat)
    (fun _ hle => UInt16.toNat_ofNat_of_lt (Nat.lt_succ_of_le hle)) make

theorem map_uint32_eq_some_iff (make : UInt32 → β) :
    (value.natUpTo? (UInt32.size - 1)).map (fun n => make (UInt32.ofNat n)) = some made ↔
      ∃ word : UInt32, value.Counts word.toNat ∧ made = make word :=
  map_ofNat_eq_some_iff (fun word => Nat.le_sub_one_of_lt word.toNat_lt_size)
    (fun _ => UInt32.ofNat_toNat)
    (fun _ hle => UInt32.toNat_ofNat_of_lt (Nat.lt_succ_of_le hle)) make

end Words

/-! ### Lists and dictionaries -/

/-- A member of a container is there as it is or in one variant. -/
def Holds (value inner : Value) : Prop := value = inner ∨ value = .variant inner

theorem member_eq_iff {value inner : Value} (hplain : ∀ under, inner ≠ .variant under) :
    value.member = inner ↔ value.Holds inner := by
  unfold member
  split
  · next under => exact ⟨fun heq => .inr (congrArg variant heq), fun hholds =>
      variant.inj (hholds.resolve_left fun heq => hplain under heq.symm)⟩
  · next hbare => exact ⟨.inl, fun hholds => hholds.resolve_right (hbare inner)⟩

theorem memberText?_eq_some_iff {value : Value} {s : String} :
    value.memberText? = some s ↔ value.Holds (.text s) := by
  have hholds : value.member = .text s ↔ value.Holds (.text s) := member_eq_iff nofun
  rw [← hholds]
  unfold memberText?
  split
  · next hmember => rw [hmember, Option.some_inj, text.injEq]
  · next hother => exact ⟨nofun, fun hmember => absurd hmember (hother s)⟩

/-- The value is a byte. -/
def Bears (value : Value) (byte : UInt8) : Prop :=
  ∃ n, value.Holds (.int .byte n) ∧ UInt8.ofNat n.toNat = byte

theorem memberByte?_eq_some_iff {value : Value} {byte : UInt8} :
    value.memberByte? = some byte ↔ value.Bears byte := by
  have hbears : value.Bears byte ↔ ∃ n, value.member = .int .byte n ∧ UInt8.ofNat n.toNat = byte :=
    exists_congr fun n => and_congr_left fun _ => Iff.symm (member_eq_iff nofun)
  rw [hbears]
  unfold memberByte?
  split
  · next n hmember =>
    rw [Option.some_inj]
    exact ⟨fun heq => ⟨n, hmember, heq⟩, fun ⟨m, hm, heq⟩ => by
      rw [hmember, int.injEq] at hm
      rwa [hm.2]⟩
  · next hother => exact ⟨nofun, fun ⟨n, hmember, _⟩ => absurd hmember (hother n)⟩

/-- The value is an array of the texts, in any number of variants. -/
def Lists (value : Value) (texts : List String) : Prop :=
  ∃ items layers, value = (array items).wrap layers ∧
    List.Forall₂ (fun item s => item.Holds (.text s)) items texts

theorem texts?_eq_some_iff {value : Value} {texts : List String} :
    value.texts? = some texts ↔ value.Lists texts := by
  have hitems {items : List Value} : items.mapM memberText? = some texts ↔
      List.Forall₂ (fun item s => item.Holds (.text s)) items texts := by
    simp only [mapM_eq_some_iff, memberText?_eq_some_iff]
  constructor
  · intro hread
    obtain ⟨layers, hvalue⟩ := value.exists_wrap
    unfold texts? at hread
    split at hread
    · next items hinner => exact ⟨items, layers, hinner ▸ hvalue, hitems.1 hread⟩
    · cases hread
  · rintro ⟨items, layers, rfl, htexts⟩
    exact (read_wrap texts?_variant _ layers).trans (hitems.2 htexts)

/-- Entries with texts for keys and values that are read. -/
def Reads {α : Type} (Is : Value → α → Prop) (entries : List (Value × Value))
    (pairs : List (String × α)) : Prop :=
  List.Forall₂ (fun entry pair => entry.1.Holds (.text pair.1) ∧ Is entry.2 pair.2) entries pairs

theorem entriesWith?_eq_some_iff {α : Type} {read : Value → Option α} {Is : Value → α → Prop}
    (hread : ∀ value x, read value = some x ↔ Is value x) {entries : List (Value × Value)}
    {pairs : List (String × α)} :
    entriesWith? read entries = some pairs ↔ Reads Is entries pairs := by
  rw [entriesWith?, mapM_eq_some_iff, Reads]
  have hentry (entry : Value × Value) (pair : String × α) :
      (do return (← entry.1.memberText?, ← read entry.2)) = some pair ↔
        entry.1.Holds (.text pair.1) ∧ Is entry.2 pair.2 := by
    rw [← memberText?_eq_some_iff, ← hread]
    constructor
    · intro hboth
      obtain ⟨key, hkey, hrest⟩ := Option.bind_eq_some_iff.1 hboth
      obtain ⟨x, hx, hpair⟩ := Option.bind_eq_some_iff.1 hrest
      obtain rfl : (key, x) = pair := Option.some.inj hpair
      exact ⟨hkey, hx⟩
    · rintro ⟨hkey, hx⟩
      rw [hkey, hx]
      rfl
  simp only [← hentry]

/-- The value is a dictionary of the bytes, in any number of variants. -/
def Tallies (value : Value) (counts : List (String × UInt8)) : Prop :=
  ∃ entries layers, value = (dict entries).wrap layers ∧ Reads Bears entries counts

theorem byteEntries?_eq_some_iff {value : Value} {counts : List (String × UInt8)} :
    value.byteEntries? = some counts ↔ value.Tallies counts := by
  have hentries {entries : List (Value × Value)} :
      entriesWith? memberByte? entries = some counts ↔ Reads Bears entries counts :=
    entriesWith?_eq_some_iff fun _ _ => memberByte?_eq_some_iff
  constructor
  · intro hread
    obtain ⟨layers, hvalue⟩ := value.exists_wrap
    unfold byteEntries? plainByteEntries? at hread
    split at hread
    · next entries hinner => exact ⟨entries, layers, hinner ▸ hvalue, hentries.1 hread⟩
    · cases hread
  · rintro ⟨entries, layers, rfl, hcounts⟩
    exact (read_wrap byteEntries?_variant _ layers).trans (hentries.2 hcounts)

/-- The value is a dictionary of the bytes as a map: of several entries with one key the last
counts. -/
def Maps (value : Value) (counts : Table String UInt8) : Prop :=
  ∃ listed, value.Tallies listed ∧ Table.ofList listed = counts

end Value

end Telephony.Wire

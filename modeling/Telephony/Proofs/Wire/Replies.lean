import Telephony.Proofs.Tables
import Telephony.Proofs.Wire.Shapes
import Telephony.SupplementaryService

/-!
# Replies read back

However the daemon writes a reply, it is read back as it was meant: texts as texts or as object
paths, numbers in any type of integers, each in any number of variants, and with fields between the
operation and the settings. Entries that are no settings are passed over, while a value of another
outer shape is no reply at all.
-/

namespace Telephony

open Wire (Value)

namespace Setting

/-- The value is the setting, in one of the ways to write it. -/
def Written : Setting → Value → Prop
  | text s, value => value.Says s
  | number n, value => value.Counts n.toNat

theorem ofValue?_eq_some_iff {value : Value} {setting : Setting} :
    ofValue? value = some setting ↔ setting.Written value := by
  have hnumber (n : UInt32) (hwritten : (number n).Written value) : value.text? = none := by
    obtain ⟨type, layers, rfl⟩ := hwritten
    exact Value.read_wrap Value.text?_variant _ layers
  unfold ofValue?
  split
  · next s hread =>
    cases setting with
    | text other =>
      rw [Option.some_inj, text.injEq, Written, ← Value.text?_eq_some_iff, hread, Option.some_inj]
    | number n =>
      exact ⟨nofun, fun hwritten => nomatch hread.symm.trans (hnumber n hwritten)⟩
  · next hread =>
    rw [Value.map_uint32_eq_some_iff number]
    cases setting with
    | text s =>
      rw [Written, ← Value.text?_eq_some_iff, hread]
      exact ⟨nofun, nofun⟩
    | number n =>
      constructor
      · rintro ⟨word, hcounts, heq⟩
        rwa [number.inj heq]
      · exact fun hwritten => ⟨n, hwritten, rfl⟩

end Setting

namespace ServiceReply

/-- The entries of a dictionary with texts for keys are the settings that are listed, in this order,
and what is no setting. -/
inductive Lists : List (Value × Value) → List (String × Setting) → Prop
  | nil : Lists [] []
  | setting {key value : Value} {name : String} {setting : Setting}
      {entries : List (Value × Value)} {listed : List (String × Setting)}
      (hkey : key.Holds (.text name)) (hwritten : setting.Written value)
      (hrest : Lists entries listed) : Lists ((key, value) :: entries) ((name, setting) :: listed)
  | other {key value : Value} {name : String} {entries : List (Value × Value)}
      {listed : List (String × Setting)} (hkey : key.Holds (.text name))
      (hother : ∀ setting : Setting, ¬ setting.Written value) (hrest : Lists entries listed) :
      Lists ((key, value) :: entries) listed

variable {entries : List (Value × Value)} {listed : List (String × Setting)}

def namedSetting? (pair : String × Value) : Option (String × Setting) :=
  (Setting.ofValue? pair.2).map (pair.1, ·)

theorem settingsOf?_dict (entries : List (Value × Value)) :
    settingsOf? (.dict entries) =
      (Value.entriesWith? some entries).map (List.filterMap namedSetting?) :=
  Option.map_eq_bind.symm

theorem lists_of_reads {pairs : List (String × Value)}
    (hreads : Value.Reads (· = ·) entries pairs) :
    Lists entries (pairs.filterMap namedSetting?) := by
  induction hreads with
  | nil => exact .nil
  | @cons entry pair entries pairs hentry _ ih =>
    obtain ⟨key, value⟩ := entry
    obtain ⟨name, under⟩ := pair
    obtain ⟨hkey, rfl : value = under⟩ := hentry
    cases hsetting : Setting.ofValue? value with
    | none =>
      have hnamed : namedSetting? (name, value) = none :=
        congrArg (Option.map (name, ·)) hsetting
      rw [List.filterMap_cons_none hnamed]
      refine .other hkey (fun setting hwritten => ?_) ih
      exact nomatch hsetting.symm.trans (Setting.ofValue?_eq_some_iff.2 hwritten)
    | some setting =>
      have hnamed : namedSetting? (name, value) = some (name, setting) :=
        congrArg (Option.map (name, ·)) hsetting
      rw [List.filterMap_cons_some hnamed]
      exact .setting hkey (Setting.ofValue?_eq_some_iff.1 hsetting) ih

theorem Lists.exists_reads (hlists : Lists entries listed) :
    ∃ pairs, Value.Reads (· = ·) entries pairs ∧ pairs.filterMap namedSetting? = listed := by
  induction hlists with
  | nil => exact ⟨[], .nil, rfl⟩
  | @setting key value name setting entries listed hkey hwritten _ ih =>
    obtain ⟨pairs, hreads, rfl⟩ := ih
    refine ⟨(name, value) :: pairs, .cons ⟨hkey, rfl⟩ hreads, List.filterMap_cons_some ?_⟩
    exact congrArg (Option.map (name, ·)) (Setting.ofValue?_eq_some_iff.2 hwritten)
  | @other key value name entries listed hkey hother _ ih =>
    obtain ⟨pairs, hreads, rfl⟩ := ih
    refine ⟨(name, value) :: pairs, .cons ⟨hkey, rfl⟩ hreads, List.filterMap_cons_none ?_⟩
    rw [namedSetting?, Option.map_eq_none_iff, Option.eq_none_iff_forall_ne_some]
    exact fun setting hread => hother setting (Setting.ofValue?_eq_some_iff.1 hread)

theorem settingsOf?_dict_eq_some_iff :
    settingsOf? (.dict entries) = some listed ↔ Lists entries listed := by
  have hplain {pairs : List (String × Value)} : Value.entriesWith? some entries = some pairs ↔
      Value.Reads (· = ·) entries pairs := Value.entriesWith?_eq_some_iff fun _ _ => Option.some_inj
  rw [settingsOf?_dict, Option.map_eq_some_iff]
  simp only [hplain]
  constructor
  · rintro ⟨pairs, hreads, rfl⟩
    exact lists_of_reads hreads
  · exact Lists.exists_reads

theorem settingsOf?_eq_some_iff {value : Value} :
    settingsOf? value = some listed ↔ ∃ entries, value = .dict entries ∧ Lists entries listed := by
  constructor
  · intro hread
    obtain ⟨entries, rfl⟩ : ∃ entries, value = .dict entries := by
      unfold settingsOf? at hread
      split at hread
      · next entries => exact ⟨entries, rfl⟩
      · cases hread
    exact ⟨entries, rfl, settingsOf?_dict_eq_some_iff.1 hread⟩
  · rintro ⟨entries, rfl, hlists⟩
    exact settingsOf?_dict_eq_some_iff.2 hlists

/-- Whatever is no setting in a dictionary, each key must be a text. -/
theorem exists_lists_iff :
    (∃ listed, Lists entries listed) ↔ ∀ entry ∈ entries, ∃ name, entry.1.Holds (.text name) := by
  induction entries with
  | nil => exact iff_of_true ⟨[], .nil⟩ (List.forall_mem_nil _)
  | cons entry entries ih =>
    obtain ⟨key, value⟩ := entry
    rw [List.forall_mem_cons, ← ih]
    constructor
    · rintro ⟨listed, hlists⟩
      cases hlists with
      | setting hkey _ hrest | other hkey _ hrest => exact ⟨⟨_, hkey⟩, ⟨_, hrest⟩⟩
    · rintro ⟨⟨name, hkey⟩, ⟨listed, hrest⟩⟩
      by_cases hsetting : ∃ setting : Setting, setting.Written value
      · obtain ⟨setting, hwritten⟩ := hsetting
        exact ⟨(name, setting) :: listed, .setting hkey hwritten hrest⟩
      · exact ⟨listed, .other hkey (not_exists.1 hsetting) hrest⟩

theorem lists_insert_iff {before after : List (Value × Value)} {key extra : Value} {name : String}
    (hkey : key.Holds (.text name)) (hextra : ∀ setting : Setting, ¬ setting.Written extra) :
    Lists (before ++ (key, extra) :: after) listed ↔ Lists (before ++ after) listed := by
  induction before generalizing listed with
  | nil =>
    refine ⟨fun hlists => ?_, .other hkey hextra⟩
    cases hlists with
    | setting _ hwritten _ => exact absurd hwritten (hextra _)
    | other _ _ hrest => exact hrest
  | cons head before ih =>
    constructor
    · intro hlists
      cases hlists with
      | setting hname hwritten hrest => exact .setting hname hwritten (ih.1 hrest)
      | other hname hother hrest => exact .other hname hother (ih.1 hrest)
    · intro hlists
      cases hlists with
      | setting hname hwritten hrest => exact .setting hname hwritten (ih.2 hrest)
      | other hname hother hrest => exact .other hname hother (ih.2 hrest)

/-! ### Replies -/

theorem ofValue?_variant (kind : String) (value : Value) :
    ofValue? kind (.variant value) = ofValue? kind value := rfl

theorem ofValue?_wrap (kind : String) (value : Value) (layers : Nat) :
    ofValue? kind (value.wrap layers) = ofValue? kind value :=
  Value.read_wrap (ofValue?_variant kind) value layers

theorem ofValue?_struct (kind : String) (fields : List Value) :
    ofValue? kind (.struct fields) = (fields.head?.bind Value.text?).bind fun operation =>
      (fields.getLast?.bind settingsOf?).map fun listed =>
        ⟨kind, operation, Table.ofList listed⟩ := by
  simp only [ofValue?, Value.unwrap, Option.bind_eq_bind, Option.bind_assoc, Option.map_eq_bind,
    Function.comp_def, Option.pure_def]

/-- The value is the reply, with the settings in the order in which they are listed. -/
def Written (reply : ServiceReply) (listed : List (String × Setting)) (value : Value) : Prop :=
  ∃ fields layers first entries, value = (Value.struct fields).wrap layers ∧
    fields.head? = some first ∧ first.Says reply.operation ∧
    fields.getLast? = some (.dict entries) ∧ Lists entries listed

theorem ofValue?_eq_some_iff {kind : String} {value : Value} {reply : ServiceReply} :
    ofValue? kind value = some reply ↔
      reply.kind = kind ∧ ∃ listed, Written reply listed value ∧
        reply.settings = Table.ofList listed := by
  constructor
  · intro hread
    obtain ⟨layers, hvalue⟩ := value.exists_wrap
    obtain ⟨fields, hfields⟩ : ∃ fields, value.unwrap = .struct fields := by
      unfold ofValue? at hread
      split at hread
      · next fields hinner => exact ⟨fields, hinner⟩
      · cases hread
    rw [hfields] at hvalue
    rw [hvalue, ofValue?_wrap, ofValue?_struct] at hread
    obtain ⟨operation, hfirst, hrest⟩ := Option.bind_eq_some_iff.1 hread
    obtain ⟨first, hhead, hsays⟩ := Option.bind_eq_some_iff.1 hfirst
    obtain ⟨listed, hsettings, rfl⟩ := Option.map_eq_some_iff.1 hrest
    obtain ⟨last, hlast, hdict⟩ := Option.bind_eq_some_iff.1 hsettings
    obtain ⟨entries, rfl, hlists⟩ := settingsOf?_eq_some_iff.1 hdict
    exact ⟨rfl, listed, ⟨fields, layers, first, entries, hvalue, hhead,
      Value.text?_eq_some_iff.1 hsays, hlast, hlists⟩, rfl⟩
  · obtain ⟨own, operation, settings⟩ := reply
    rintro ⟨rfl, listed, ⟨fields, layers, first, entries, rfl, hhead, hsays, hlast, hlists⟩, rfl⟩
    rw [ofValue?_wrap, ofValue?_struct, hhead, Option.bind_some, Value.text?_eq_some_iff.2 hsays,
      Option.bind_some, hlast, Option.bind_some, settingsOf?_dict_eq_some_iff.2 hlists,
      Option.map_some]

/-- A structure that begins with a text and ends with a dictionary with texts for keys, in any
number of variants. -/
def Shaped (value : Value) : Prop :=
  ∃ fields layers first operation entries, value = (Value.struct fields).wrap layers ∧
    fields.head? = some first ∧ first.Says operation ∧ fields.getLast? = some (.dict entries) ∧
    ∀ entry ∈ entries, ∃ name, entry.1.Holds (.text name)

theorem ofValue?_eq_none_iff {kind : String} {value : Value} :
    ofValue? kind value = none ↔ ¬ Shaped value := by
  have hread : (∃ reply, ofValue? kind value = some reply) ↔ Shaped value := by
    simp only [ofValue?_eq_some_iff]
    constructor
    · rintro ⟨reply, -, listed, ⟨fields, layers, first, entries, hvalue, hhead, hsays, hlast,
        hlists⟩, -⟩
      exact ⟨fields, layers, first, _, entries, hvalue, hhead, hsays, hlast,
        exists_lists_iff.1 ⟨listed, hlists⟩⟩
    · rintro ⟨fields, layers, first, operation, entries, hvalue, hhead, hsays, hlast, hkeys⟩
      obtain ⟨listed, hlists⟩ := exists_lists_iff.2 hkeys
      exact ⟨⟨kind, operation, Table.ofList listed⟩, rfl, listed,
        ⟨fields, layers, first, entries, hvalue, hhead, hsays, hlast, hlists⟩, rfl⟩
  rw [Option.eq_none_iff_forall_ne_some, ← hread, not_exists]

theorem ofValue?_of_written {kind operation : String} {settings : Table String Setting}
    {first : Value} {middle : List Value} {layers : Nat} (hfirst : first.Says operation)
    (hlists : Lists entries listed) (hsettings : listed.Perm settings.entries) :
    ofValue? kind ((Value.struct (first :: middle ++ [.dict entries])).wrap layers) =
      some ⟨kind, operation, settings⟩ := by
  refine ofValue?_eq_some_iff.2 ⟨rfl, listed, ⟨_, layers, first, entries, rfl, rfl, hfirst, ?_,
    hlists⟩, (Table.ofList_of_perm hsettings).symm⟩
  exact List.getLast?_concat

theorem ofValue?_insert {kind : String} {fields : List Value} {before after : List (Value × Value)}
    {key extra : Value} {name : String} {layers : Nat} (hkey : key.Holds (.text name))
    (hextra : ∀ setting : Setting, ¬ setting.Written extra) :
    ofValue? kind
        ((Value.struct (fields ++ [.dict (before ++ (key, extra) :: after)])).wrap layers) =
      ofValue? kind ((Value.struct (fields ++ [.dict (before ++ after)])).wrap layers) := by
  have hsettings : settingsOf? (.dict (before ++ (key, extra) :: after)) =
      settingsOf? (.dict (before ++ after)) := by
    refine Option.ext fun listed => ?_
    rw [settingsOf?_dict_eq_some_iff, settingsOf?_dict_eq_some_iff]
    exact lists_insert_iff hkey hextra
  rw [ofValue?_wrap, ofValue?_wrap, ofValue?_struct, ofValue?_struct, List.getLast?_concat,
    List.getLast?_concat, Option.bind_some, Option.bind_some, hsettings]
  cases fields <;> rfl

/-- Reading a reply back undoes writing it, in whichever way it is written. -/
theorem ofValue?_inverts (kind : String) :
    (∀ operation (settings : Table String Setting) first middle entries listed layers,
      first.Says operation → Lists entries listed → listed.Perm settings.entries →
        ofValue? kind ((Value.struct (first :: middle ++ [.dict entries])).wrap layers) =
          some ⟨kind, operation, settings⟩) ∧
    (∀ fields before after key name extra layers,
      key.Holds (.text name) → (∀ setting : Setting, ¬ setting.Written extra) →
        ofValue? kind
            ((Value.struct (fields ++ [.dict (before ++ (key, extra) :: after)])).wrap layers) =
          ofValue? kind ((Value.struct (fields ++ [.dict (before ++ after)])).wrap layers)) ∧
    ∀ value, ofValue? kind value = none ↔ ¬ Shaped value :=
  ⟨fun _ _ _ _ _ _ _ => ofValue?_of_written, fun _ _ _ _ _ _ _ => ofValue?_insert,
    fun _ => ofValue?_eq_none_iff⟩

theorem ofValue?_inverts_forwarding :
    let busy : Value × Value := (.text "VoiceBusy", .variant (.variant (.text "+491234")))
    let extra : Value × Value := (.text "Extra", .int .int16 (-1))
    let noReply : Value × Value := (.text "VoiceNoReplyTimeout", .int .int64 20)
    ofValue? "CallForwarding" (.variant (.struct [.objectPath "/interrogation", .bool true,
        .dict [busy, extra, noReply]])) =
      some ⟨"CallForwarding", "/interrogation",
        .ofList [("VoiceNoReplyTimeout", .number 20), ("VoiceBusy", .text "+491234")]⟩ := by
  intro busy extra noReply
  obtain ⟨hwritten, hinsert, -⟩ := ofValue?_inverts "CallForwarding"
  have hlists : Lists [busy, noReply]
      [("VoiceBusy", .text "+491234"), ("VoiceNoReplyTimeout", .number 20)] :=
    .setting (.inl rfl) ⟨2, .inl rfl⟩ (.setting (.inl rfl) ⟨.int64, 0, rfl⟩ .nil)
  have hextra : ∀ setting : Setting, ¬ setting.Written extra.2 := fun setting hsetting =>
    nomatch Setting.ofValue?_eq_some_iff.2 hsetting
  have hread := hwritten "/interrogation"
    (.ofList [("VoiceNoReplyTimeout", .number 20), ("VoiceBusy", .text "+491234")])
    (.objectPath "/interrogation") [.bool true] [busy, noReply] _ 1 ⟨0, .inr rfl⟩ hlists (.refl _)
  calc
    _ = ofValue? "CallForwarding" (.variant (.struct [.objectPath "/interrogation", .bool true,
        .dict [busy, noReply]])) :=
      hinsert [.objectPath "/interrogation", .bool true] [busy] [noReply] (.text "Extra") "Extra"
        extra.2 1 (.inl rfl) hextra
    _ = _ := hread

end ServiceReply

end Telephony

import Mathlib
import Telephony.Proofs.Wire.Shapes
import Telephony.Settings.Load

/-!
# Settings key by key

A document sets each of the settings by a key of its own. Whether it can be read depends on the
value of each key by itself, and a setting is what its key says, or its default if the key or its
whole group is missing. What no key names does not count.
-/

namespace Telephony

/-- A choice by name among all there are finds the one of that name. -/
theorem find?_name_eq_some_iff {α : Type} {all : List α} {name : α → String}
    (hall : ∀ a, a ∈ all) (hname : Function.Injective name) {text : String} {a : α} :
    (all.find? (name · == text)) = some a ↔ name a = text := by
  have hsound {b : α} (hfound : all.find? (name · == text) = some b) : name b = text := by
    have hbeq := List.find?_some hfound
    exact eq_of_beq hbeq
  refine ⟨hsound, ?_⟩
  rintro rfl
  cases hfound : all.find? (name · == name a) with
  | none => exact absurd (beq_self_eq_true (name a)) (List.find?_eq_none.1 hfound a (hall a))
  | some b => rw [hname (hsound hfound)]

theorem LogLevel.mem_all (level : LogLevel) : level ∈ LogLevel.all := by
  cases level <;> decide

theorem BusKind.mem_all (bus : BusKind) : bus ∈ BusKind.all := by
  cases bus <;> decide

theorem LogLevel.name_injective : Function.Injective LogLevel.name := by
  intro a b hname
  cases a <;> cases b <;> first | rfl | exact absurd hname (by decide)

theorem BusKind.name_injective : Function.Injective BusKind.name := by
  intro a b hname
  cases a <;> cases b <;> first | rfl | exact absurd hname (by decide)

namespace Settings

open Toml (Value Entries)

/-- The keys that mean something. -/
inductive Key where
  | logLevel
  | bus
  | service
  | correctCommand
  | emergencyNumbers
  | modem
  deriving DecidableEq, Repr

namespace Key

def group : Key → String
  | logLevel => "general"
  | bus | service => "ofono"
  | correctCommand | emergencyNumbers | modem => "pin"

def name : Key → String
  | logLevel => "log_level"
  | bus => "bus"
  | service => "service"
  | correctCommand => "correct_command"
  | emergencyNumbers => "emergency_numbers"
  | modem => "modem"

/-- The value of the key in a document, if it is there. -/
def value? (key : Key) (entries : Entries) : Option Value :=
  match entries.lookup key.group with
  | some (.table _ inner) => inner.lookup key.name
  | _ => none

/-- The values that the key may have. -/
def Admits : Key → Value → Prop
  | logLevel, value =>
    ∃ name ∈ ["error", "warn", "info", "debug", "trace"], value = .string name
  | bus, value => ∃ name ∈ ["system", "session"], value = .string name
  | service, value | correctCommand, value | modem, value => ∃ s, value = .string s
  | emergencyNumbers, value => ∃ numbers : List String, value = .array (numbers.map .string)

/-- The value by which the key says what is set; a command or a modem that is not set is left out.
-/
def written (settings : Settings) : Key → Option Value
  | logLevel => some (.string settings.logLevel.name)
  | bus => some (.string settings.bus.name)
  | service => some (.string settings.service)
  | correctCommand => settings.codes.correctCommand.map .string
  | emergencyNumbers => some (.array (settings.codes.emergencyNumbers.map .string))
  | modem => settings.codes.modem.map fun path => .string path.text

/-- The admissible values are those by which something can be set. -/
theorem admits_iff {key : Key} {value : Value} :
    key.Admits value ↔ ∃ settings, key.written settings = some value := by
  cases key with
  | logLevel =>
    constructor
    · rintro ⟨name, hname, rfl⟩
      change name ∈ LogLevel.all.map LogLevel.name at hname
      obtain ⟨level, -, rfl⟩ := List.mem_map.1 hname
      exact ⟨{ default with logLevel := level }, rfl⟩
    · rintro ⟨settings, hwritten⟩
      refine ⟨settings.logLevel.name, ?_, (Option.some.inj hwritten).symm⟩
      cases settings.logLevel <;> decide
  | bus =>
    constructor
    · rintro ⟨name, hname, rfl⟩
      change name ∈ BusKind.all.map BusKind.name at hname
      obtain ⟨bus, -, rfl⟩ := List.mem_map.1 hname
      exact ⟨{ default with bus }, rfl⟩
    · rintro ⟨settings, hwritten⟩
      refine ⟨settings.bus.name, ?_, (Option.some.inj hwritten).symm⟩
      cases settings.bus <;> decide
  | service =>
    constructor
    · rintro ⟨s, rfl⟩
      exact ⟨{ default with service := s }, rfl⟩
    · rintro ⟨settings, hwritten⟩
      exact ⟨settings.service, (Option.some.inj hwritten).symm⟩
  | correctCommand =>
    constructor
    · rintro ⟨s, rfl⟩
      exact ⟨{ default with codes := { defaultCodes with correctCommand := some s } }, rfl⟩
    · rintro ⟨settings, hwritten⟩
      obtain ⟨s, -, rfl⟩ := Option.map_eq_some_iff.1 hwritten
      exact ⟨s, rfl⟩
  | emergencyNumbers =>
    constructor
    · rintro ⟨numbers, rfl⟩
      exact ⟨{ default with codes := { defaultCodes with emergencyNumbers := numbers } }, rfl⟩
    · rintro ⟨settings, hwritten⟩
      exact ⟨settings.codes.emergencyNumbers, (Option.some.inj hwritten).symm⟩
  | modem =>
    constructor
    · rintro ⟨s, rfl⟩
      exact ⟨{ default with codes := { defaultCodes with modem := some ⟨s⟩ } }, rfl⟩
    · rintro ⟨settings, hwritten⟩
      obtain ⟨path, -, rfl⟩ := Option.map_eq_some_iff.1 hwritten
      exact ⟨path.text, rfl⟩

end Key

/-! ### Values of keys -/

def IsTable (value : Value) : Prop := ∃ origin entries, value = .table origin entries

section

variable {value : Value}

theorem text?_eq_some_iff {s : String} : text? value = some s ↔ value = .string s := by
  cases value with
  | string other => exact Option.some_inj.trans (Value.string.injEq ..).to_iff.symm
  | _ => exact iff_of_false nofun nofun

theorem texts?_eq_some_iff {numbers : List String} :
    texts? value = some numbers ↔ value = .array (numbers.map .string) := by
  cases value with
  | array items =>
    rw [texts?, Wire.mapM_eq_some_iff, Value.array.injEq]
    simp only [text?_eq_some_iff]
    rw [← List.forall₂_map_right_iff, List.forall₂_eq_eq_eq]
  | _ => exact iff_of_false nofun nofun

/-- A table apart, a choice is its name. -/
theorem choice?_eq_text? (hplain : ¬ IsTable value) : choice? value = text? value := by
  cases value with
  | table origin entries => exact absurd ⟨origin, entries, rfl⟩ hplain
  | _ => rfl

theorem choice?_bind_eq_some_iff {α : Type} {ofName? : String → Option α} {name : α → String}
    (hname : ∀ text a, ofName? text = some a ↔ name a = text) (hplain : ¬ IsTable value) {a : α} :
    (choice? value).bind ofName? = some a ↔ value = .string (name a) := by
  rw [choice?_eq_text? hplain, Option.bind_eq_some_iff]
  simp only [text?_eq_some_iff, hname]
  constructor
  · rintro ⟨text, rfl, rfl⟩
    rfl
  · intro hvalue
    exact ⟨name a, hvalue, rfl⟩

end

/-! ### Documents -/

/-- The groups of a document are tables, and its choices are not. -/
structure Shaped (entries : Entries) : Prop where
  groups : ∀ key : Key, ∀ value, entries.lookup key.group = some value → IsTable value
  choices : ∀ key ∈ [Key.logLevel, .bus], ∀ value, key.value? entries = some value → ¬ IsTable value

variable {entries : Entries}

theorem Shaped.group? (hshaped : Shaped entries) (key : Key) :
    ∃ inner, group? entries key.group = some (.named inner) ∧
      ∀ other : Key, other.group = key.group → other.value? entries = inner.lookup other.name := by
  cases hlookup : entries.lookup key.group with
  | none =>
    refine ⟨[], by rw [Settings.group?, hlookup], fun other hother => ?_⟩
    rw [Key.value?, hother, hlookup, List.lookup_nil]
  | some value =>
    obtain ⟨origin, inner, rfl⟩ := hshaped.groups key value hlookup
    refine ⟨inner, by rw [Settings.group?, hlookup]; rfl, fun other hother => ?_⟩
    rw [Key.value?, hother, hlookup]

theorem Group.read?_named_eq_some_iff {α : Type} {inner : Entries} {name : String} {place : Nat}
    {default field : α} {read : Value → Option α} (write : α → Option Value)
    (hwrite : Function.Injective write)
    (hread : ∀ value, inner.lookup name = some value →
      (read value = some field ↔ write field = some value)) :
    (Group.named inner).read? name place default read = some field ↔
      write field = (inner.lookup name).or (write default) := by
  cases hlookup : inner.lookup name with
  | none =>
    rw [Group.read?, Group.get?, hlookup, Option.none_or, Option.some_inj]
    exact ⟨fun hfield => congrArg write hfield.symm, fun hsame => (hwrite hsame).symm⟩
  | some value =>
    rw [Group.read?, Group.get?, hlookup, Option.some_or]
    exact hread value hlookup

/-- The same, of what is always written. -/
theorem Group.read?_named_eq_some_iff_of_eq {α : Type} {inner : Entries} {name : String}
    {place : Nat} {default field : α} {read : Value → Option α} (write : α → Value)
    (hwrite : Function.Injective write)
    (hread : ∀ value, inner.lookup name = some value →
      (read value = some field ↔ value = write field)) :
    (Group.named inner).read? name place default read = some field ↔
      some (write field) = (inner.lookup name).or (some (write default)) := by
  refine read?_named_eq_some_iff (fun a => some (write a))
    ((Option.some_injective _).comp hwrite) fun value hvalue => ?_
  rw [Option.some_inj, eq_comm (b := value)]
  exact hread value hvalue

/-- Reading the key in its group gives the setting. -/
def Key.Reads (group : Group) (settings : Settings) : Key → Prop
  | logLevel => group.read? "log_level" 0 default.logLevel
      (fun value => (choice? value).bind LogLevel.ofName?) = some settings.logLevel
  | bus => group.read? "bus" 0 default.bus
      (fun value => (choice? value).bind BusKind.ofName?) = some settings.bus
  | service => group.read? "service" 1 default.service text? = some settings.service
  | correctCommand => group.read? "correct_command" 0 none
      (fun value => (text? value).map some) = some settings.codes.correctCommand
  | emergencyNumbers => group.read? "emergency_numbers" 1 default.codes.emergencyNumbers
      texts? = some settings.codes.emergencyNumbers
  | modem => group.read? "modem" 2 none
      (fun value => (text? value).map fun s => some ⟨s⟩) = some settings.codes.modem

theorem ofEntries?_eq_some_iff_reads {settings : Settings} :
    ofEntries? entries = some settings ↔
      ∀ key : Key, ∃ group, group? entries key.group = some group ∧ key.Reads group settings := by
  simp only [ofEntries?, codes?, Option.bind_eq_bind, Option.bind_eq_some_iff, Option.pure_def,
    Option.some_inj]
  constructor
  · rintro ⟨general, hgeneral, level, hlevel, daemon, hdaemon, bus, hbus, service, hservice,
      codes, hcodes, options, ⟨command, hcommand, numbers, hnumbers, modem, hmodem, rfl⟩, rfl⟩ key
    cases key with
    | logLevel => exact ⟨general, hgeneral, hlevel⟩
    | bus => exact ⟨daemon, hdaemon, hbus⟩
    | service => exact ⟨daemon, hdaemon, hservice⟩
    | correctCommand => exact ⟨codes, hcodes, hcommand⟩
    | emergencyNumbers => exact ⟨codes, hcodes, hnumbers⟩
    | modem => exact ⟨codes, hcodes, hmodem⟩
  · intro hreads
    obtain ⟨general, hgeneral, hlevel⟩ := hreads .logLevel
    obtain ⟨daemon, hdaemon, hbus⟩ := hreads .bus
    obtain ⟨codes, hcodes, hcommand⟩ := hreads .correctCommand
    have inGroup (key : Key) {group : Group} (hgroup : group? entries key.group = some group) :
        key.Reads group settings := by
      obtain ⟨other, hother, hkey⟩ := hreads key
      rwa [Option.some.inj (hgroup.symm.trans hother)]
    refine ⟨general, hgeneral, settings.logLevel, hlevel, daemon, hdaemon, settings.bus, hbus,
      settings.service, inGroup .service hdaemon, codes, hcodes, settings.codes,
      ⟨settings.codes.correctCommand, hcommand, settings.codes.emergencyNumbers,
        inGroup .emergencyNumbers hcodes, settings.codes.modem,
        inGroup .modem hcodes, rfl⟩, rfl⟩

/-- A setting that can be left out is set by a text. -/
theorem map_text?_eq_some_iff {α : Type} {make : String → α} {text : α → String}
    (hmake : ∀ a, make (text a) = a) (htext : ∀ s, text (make s) = s)
    {field : Option α} :
    ((text? value).map fun s => some (make s)) = some field ↔
      (field.map fun a => .string (text a)) = some value := by
  rw [Option.map_eq_some_iff, Option.map_eq_some_iff]
  simp only [text?_eq_some_iff]
  constructor
  · rintro ⟨s, rfl, rfl⟩
    exact ⟨make s, rfl, congrArg _ (htext s)⟩
  · rintro ⟨a, rfl, rfl⟩
    exact ⟨text a, rfl, congrArg some (hmake a)⟩

theorem Key.reads_iff {key : Key} {inner : Entries} {settings : Settings}
    (hplain : key ∈ [logLevel, bus] → ∀ value, inner.lookup key.name = some value →
      ¬ IsTable value) :
    key.Reads (.named inner) settings ↔
      key.written settings = (inner.lookup key.name).or (key.written default) := by
  have hstring : Function.Injective Value.string := fun _ _ => Value.string.inj
  cases key with
  | logLevel =>
    refine Group.read?_named_eq_some_iff_of_eq (fun level : LogLevel => .string level.name)
      (hstring.comp LogLevel.name_injective) fun value hvalue => ?_
    exact choice?_bind_eq_some_iff (fun _ _ => find?_name_eq_some_iff LogLevel.mem_all
      LogLevel.name_injective) (hplain (by decide) value hvalue)
  | bus =>
    refine Group.read?_named_eq_some_iff_of_eq (fun bus : BusKind => .string bus.name)
      (hstring.comp BusKind.name_injective) fun value hvalue => ?_
    exact choice?_bind_eq_some_iff (fun _ _ => find?_name_eq_some_iff BusKind.mem_all
      BusKind.name_injective) (hplain (by decide) value hvalue)
  | service =>
    exact Group.read?_named_eq_some_iff_of_eq Value.string hstring fun _ _ => text?_eq_some_iff
  | correctCommand =>
    refine Group.read?_named_eq_some_iff (Option.map Value.string)
      (Option.map_injective hstring) fun value _ => ?_
    exact map_text?_eq_some_iff (fun _ => rfl) (fun _ => rfl)
  | emergencyNumbers =>
    refine Group.read?_named_eq_some_iff_of_eq
      (fun numbers : List String => .array (numbers.map .string)) ?_ fun _ _ => texts?_eq_some_iff
    exact fun _ _ hsame => List.map_injective_iff.2 hstring (Value.array.inj hsame)
  | modem =>
    refine Group.read?_named_eq_some_iff (Option.map fun path : ModemPath => .string path.text)
      (Option.map_injective ?_) fun value _ => map_text?_eq_some_iff (fun _ => rfl) fun _ => rfl
    exact fun _ _ hsame => congrArg ModemPath.mk (hstring hsame)

theorem ofEntries?_eq_some_iff (hshaped : Shaped entries) {settings : Settings} :
    ofEntries? entries = some settings ↔
      ∀ key : Key, key.written settings = (key.value? entries).or (key.written default) := by
  rw [ofEntries?_eq_some_iff_reads]
  refine forall_congr' fun key => ?_
  obtain ⟨inner, hgroup, hinner⟩ := hshaped.group? key
  have hplain : key ∈ [Key.logLevel, .bus] → ∀ value, inner.lookup key.name = some value →
      ¬ IsTable value := fun hkey value hvalue =>
    hshaped.choices key hkey value ((hinner key rfl).trans hvalue)
  rw [hinner key rfl, ← Key.reads_iff hplain, hgroup]
  simp only [Option.some_inj, exists_eq_left']

/-- Of settings for each key there are some that agree with them, key by key. -/
theorem exists_written_eq (of : Key → Settings) :
    ∃ settings, ∀ key : Key, key.written settings = key.written (of key) := by
  refine ⟨⟨(of .logLevel).logLevel, (of .bus).bus, (of .service).service,
    ⟨(of .correctCommand).codes.correctCommand, (of .emergencyNumbers).codes.emergencyNumbers,
      (of .modem).codes.modem⟩⟩, fun key => ?_⟩
  cases key <;> rfl

theorem exists_ofEntries?_iff (hshaped : Shaped entries) :
    (∃ settings, ofEntries? entries = some settings) ↔
      ∀ (key : Key) value, key.value? entries = some value → key.Admits value := by
  simp only [ofEntries?_eq_some_iff hshaped]
  constructor
  · rintro ⟨settings, hsettings⟩ key value hvalue
    refine Key.admits_iff.2 ⟨settings, ?_⟩
    rw [hsettings key, hvalue, Option.some_or]
  · intro hadmits
    have hof (key : Key) : ∃ settings, key.written settings =
        (key.value? entries).or (key.written default) := by
      cases hvalue : key.value? entries with
      | none => exact ⟨default, rfl⟩
      | some value => exact Key.admits_iff.1 (hadmits key value hvalue)
    choose of hof using hof
    obtain ⟨settings, hsettings⟩ := exists_written_eq of
    exact ⟨settings, fun key => (hsettings key).trans (hof key)⟩

theorem parse_eq_ok_iff {text : String} (hread : Toml.read? text = some entries)
    {origin : Option String} {settings : Settings} :
    parse text origin = .ok settings ↔ ofEntries? entries = some settings := by
  rw [parse, ofText?, hread, Option.bind_some]
  cases ofEntries? entries with
  | none => exact iff_of_false nofun nofun
  | some other => exact ⟨fun hsame => congrArg some (Except.ok.inj hsame),
      fun hsame => congrArg Except.ok (Option.some.inj hsame)⟩

/-- A document can be read exactly when each key that it has has an admissible value. Each setting
then is what its key says, or its default if the document does not have the key, and whatever else
the document has makes no difference. -/
theorem parse_keys_independent {text : String} (hread : Toml.read? text = some entries)
    (hshaped : Shaped entries) (origin : Option String) :
    ((∃ settings, parse text origin = .ok settings) ↔
      ∀ (key : Key) value, key.value? entries = some value → key.Admits value) ∧
    (∀ settings, parse text origin = .ok settings →
      ∀ key : Key, key.written settings = (key.value? entries).or (key.written default)) ∧
    ∀ other others, Toml.read? other = some others → Shaped others →
      (∀ key : Key, key.value? others = key.value? entries) →
        parse other origin = parse text origin := by
  simp only [parse_eq_ok_iff hread]
  refine ⟨exists_ofEntries?_iff hshaped, fun settings => (ofEntries?_eq_some_iff hshaped).1, ?_⟩
  intro other others hother hshape hagree
  have hsame : ofEntries? others = ofEntries? entries := by
    refine Option.ext fun settings => ?_
    simp only [ofEntries?_eq_some_iff hshape, ofEntries?_eq_some_iff hshaped, hagree]
  rw [parse, parse, ofText?, ofText?, hread, hother, Option.bind_some, Option.bind_some, hsame]

/-- A document that empties the emergency numbers, with a key in it that means nothing. -/
def emptiedDocument : String :=
  "[ofono]\nbus = \"session\"\nport = 3\n[pin]\nemergency_numbers = []\n"

def emptied : Entries :=
  [("ofono", .table .header [("bus", .string "session"), ("port", .integer)]),
    ("pin", .table .header [("emergency_numbers", .array [])])]

theorem read?_emptied : Toml.read? emptiedDocument = some emptied := by
  cbv

theorem shaped_emptied : Shaped emptied where
  groups key value hvalue := by
    cases key <;> simp [emptied, Key.group, List.lookup] at hvalue <;> subst hvalue <;>
      exact ⟨_, _, rfl⟩
  choices key hkey value hvalue := by
    rintro ⟨origin, entries, rfl⟩
    cases key <;> simp [emptied, Key.value?, Key.group, Key.name, List.lookup] at hvalue

theorem parse_keys_independent_emptied :
    Toml.read? emptiedDocument = some emptied ∧ Shaped emptied ∧
      ∃ settings, parse emptiedDocument none = .ok settings ∧ settings.bus = .session ∧
        settings.service = default.service ∧ settings.codes.emergencyNumbers = [] := by
  obtain ⟨hreadable, hset, -⟩ := parse_keys_independent read?_emptied shaped_emptied none
  have hadmits (key : Key) (value : Value) (hvalue : key.value? emptied = some value) :
      key.Admits value := by
    cases key <;> simp [emptied, Key.value?, Key.group, Key.name, List.lookup] at hvalue <;>
      subst hvalue
    · exact ⟨"session", by decide, rfl⟩
    · exact ⟨[], rfl⟩
  obtain ⟨settings, hparse⟩ := hreadable.2 hadmits
  have hwritten := hset settings hparse
  refine ⟨read?_emptied, shaped_emptied, settings, hparse, ?_, ?_, ?_⟩
  · exact BusKind.name_injective (Value.string.inj (Option.some.inj (hwritten .bus)))
  · exact Value.string.inj (Option.some.inj (hwritten .service))
  · exact List.map_eq_nil_iff.1 (Value.array.inj (Option.some.inj (hwritten .emergencyNumbers)))

end Settings

end Telephony

import Telephony.Console.Run

/-!
# Planning command lines

Where a plan comes from: the command is the one that is filed under the category and the name that
were typed, its arguments are as many as it takes, and they could be read.
-/

namespace Telephony.Console

section

variable {ε α β : Type} {x : Except ε α} {f : α → Except ε β}

theorem bind_eq_ok_iff {b : β} : x >>= f = .ok b ↔ ∃ a, x = .ok a ∧ f a = .ok b := by
  cases x with
  | error e => exact iff_of_false nofun nofun
  | ok a => exact ⟨fun h => ⟨a, rfl, h⟩, fun ⟨_, ha, h⟩ => Except.ok.inj ha ▸ h⟩

theorem bind_eq_error_iff {e : ε} :
    x >>= f = .error e ↔ x = .error e ∨ ∃ a, x = .ok a ∧ f a = .error e := by
  cases x with
  | error other =>
    refine ⟨fun h => .inl (congrArg Except.error (Except.error.inj h)), ?_⟩
    rintro (h | ⟨_, ha, _⟩)
    · exact congrArg Except.error (Except.error.inj h)
    · cases ha
  | ok a =>
    refine ⟨fun h => .inr ⟨a, rfl, h⟩, ?_⟩
    rintro (h | ⟨_, ha, h⟩)
    · cases h
    · exact Except.ok.inj ha ▸ h

end

/-! ### What the catalogue holds -/

namespace Catalogue

variable {α : Type} {category name : String} {found : Metadata × α}

theorem find_eq_ok_iff {catalogue : Catalogue α} :
    catalogue.find category name = .ok found ↔
      ∃ commands, catalogue.categories.get? category = some commands ∧
        commands.get? name = some found := by
  unfold find
  cases hcategory : catalogue.categories.get? category with
  | none => simp
  | some commands =>
    cases hname : commands.get? name with
    | none => simp [hname]
    | some other => simp [hname]

theorem find_register {catalogue : Catalogue α} {heading : String} {metadata : Metadata}
    {command : α}
    (hfound : (catalogue.register heading metadata command).find category name = .ok found) :
    (category = heading ∧ name = metadata.name ∧ found = (metadata, command)) ∨
      catalogue.find category name = .ok found := by
  obtain ⟨commands, hcommands, hget⟩ := find_eq_ok_iff.1 hfound
  rw [register, Table.get?_insert] at hcommands
  split at hcommands
  · next hheading =>
    cases hcommands
    rw [Table.get?_insert] at hget
    split at hget
    · next hname => exact .inl ⟨hheading.symm, hname.symm, (Option.some.inj hget).symm⟩
    · right
      cases hold : catalogue.categories.get? heading with
      | none =>
        rw [hold] at hget
        cases hget
      | some others =>
        rw [hold] at hget
        exact find_eq_ok_iff.2 ⟨others, hheading ▸ hold, hget⟩
  · exact .inr (find_eq_ok_iff.2 ⟨commands, hcommands, hget⟩)

end Catalogue

/-- What is found was filed under the category and the name that it gives itself. -/
def Files (category name : String) (found : Metadata × Command) : Prop :=
  found.1 = found.2.metadata ∧ found.2.metadata.category = category ∧
    found.2.metadata.name = name

theorem files_foldl {commands : List Command} {filed : Catalogue Command}
    (hfiled : ∀ category name found, filed.find category name = .ok found →
      Files category name found) {category name : String} {found : Metadata × Command}
    (hfound : (commands.foldl (fun catalogue command => catalogue.register command.metadata.category
      command.metadata (id command)) filed).find category name = .ok found) :
    Files category name found := by
  induction commands generalizing filed with
  | nil => exact hfiled category name found hfound
  | cons command rest ih =>
    refine ih (fun c n other hother => ?_) hfound
    rcases Catalogue.find_register hother with ⟨rfl, rfl, rfl⟩ | hold
    · exact ⟨rfl, rfl, rfl⟩
    · exact hfiled c n other hold

theorem files_of_find {category name : String} {found : Metadata × Command}
    (hfound : catalogue.find category name = .ok found) : Files category name found := by
  rw [catalogue, Catalogue.registerAll] at hfound
  refine files_foldl (fun c n other hnone => ?_) hfound
  obtain ⟨commands, hget, -⟩ := Catalogue.find_eq_ok_iff.1 hnone
  cases hget

theorem Plan.ofLine_eq_run {category name : String} {arguments : List String}
    {invocation : Invocation}
    (hplan : Plan.ofLine category name arguments = .ok (.run invocation)) :
    ∃ command : Command, command.metadata.category = category ∧ command.metadata.name = name ∧
      command.metadata.checkCount arguments = .ok () ∧
      Invocation.read command arguments = .ok invocation := by
  unfold Plan.ofLine at hplan
  split at hplan
  · split at hplan
    · cases hplan
    · cases hhelp : categoryHelp name <;> rw [hhelp] at hplan <;> cases hplan
  · split at hplan
    · cases hhelp : categoryHelp category <;> rw [hhelp] at hplan <;> cases hplan
    · obtain ⟨command, hselect, hrest⟩ := bind_eq_ok_iff.1 hplan
      obtain ⟨other, hread, hsame⟩ := bind_eq_ok_iff.1 hrest
      obtain ⟨⟨metadata, found⟩, hfind, hcheck⟩ := bind_eq_ok_iff.1 hselect
      obtain ⟨⟨⟩, hcount, hcommand⟩ := bind_eq_ok_iff.1 hcheck
      cases hsame
      cases hcommand
      obtain ⟨hmetadata, hcategory, hname⟩ := files_of_find hfind
      exact ⟨_, hcategory, hname, hmetadata ▸ hcount, hread⟩

end Telephony.Console

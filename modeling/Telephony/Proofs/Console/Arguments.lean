import Mathlib
import Telephony.Proofs.Console.Planning
import Telephony.Settings.Basic
import Telephony.Simulator.Basic

/-!
# What becomes of arguments

A command uses its arguments if, in their order, each of them is what it was taken for: a switch, a
number, a modem and so on. Commands do, but for those of the supplementary services, which take a
modem in front of everything else for a query of that modem, whatever comes behind it.
-/

namespace Telephony.Console

/-- What an argument can be taken for. -/
inductive Role where
  | switch (on : Bool)
  | scan
  | condition (condition : Condition)
  | number (number : String)
  | erase
  | pin (pin : String)
  | target (target : String)
  | count (count : Nat)
  | modem (name : String)
  deriving DecidableEq, Repr

namespace Role

def switchWords : Bool → List String
  | true => ["on", "true", "1", "yes"]
  | false => ["off", "false", "0", "no"]

def conditionWords : Condition → List String
  | .busy => ["busy"]
  | .noReply => ["no-reply", "noreply"]
  | .unreachable => ["unreachable", "not-reachable"]

/-- The argument can be taken for this. -/
def Fits : Role → String → Prop
  | switch on, word => word.toLower ∈ switchWords on
  | scan, word => word = "scan"
  | condition under, word => word ∈ conditionWords under
  | erase, word => word ∈ ["erase", "off"]
  | count limit, word => Text.readNat? (UInt64.size - 1) word = some limit
  | number text, word | pin text, word | target text, word | modem text, word => word = text

instance decidableFits : (role : Role) → (word : String) → Decidable (role.Fits word)
  | switch on, word => inferInstanceAs (Decidable (word.toLower ∈ switchWords on))
  | scan, word => inferInstanceAs (Decidable (word = "scan"))
  | condition under, word => inferInstanceAs (Decidable (word ∈ conditionWords under))
  | erase, word => inferInstanceAs (Decidable (word ∈ ["erase", "off"]))
  | count limit, word =>
    inferInstanceAs (Decidable (Text.readNat? (UInt64.size - 1) word = some limit))
  | number text, word | pin text, word | target text, word | modem text, word =>
    inferInstanceAs (Decidable (word = text))

def ofRequest : ServiceRequest → List Role
  | .queryWaiting | .queryForwarding => []
  | .setWaiting on => [.switch on]
  | .register under text => [.condition under, .number text]
  | .erase under => [.condition under, .erase]

end Role

namespace Invocation

/-- What an invocation has taken its arguments for. -/
def roles : Invocation → List Role
  | listModems => []
  | modemInfo modem | simStatus modem | unlock modem | changePin modem | networkStatus modem
  | dataStatus modem => modem.toList.map .modem
  | switch _ on modem => .switch on :: modem.toList.map .modem
  | lock on pin modem => .switch on :: .pin pin :: modem.toList.map .modem
  | operators scan modem => (if scan then [.scan] else []) ++ modem.toList.map .modem
  | select target modem => .target target :: modem.toList.map .modem
  | service request modem => Role.ofRequest request ++ modem.toList.map .modem
  | watch limit => limit.toList.map .count

/-- Every argument is used. -/
def Uses (invocation : Invocation) (arguments : List String) : Prop :=
  List.Forall₂ Role.Fits invocation.roles arguments

section

variable {arguments : List String} {invocation : Invocation}

/-! ### Reading single arguments -/

theorem fits_of_readSwitch {argument word : String} {on : Bool}
    (hread : readSwitch argument word = .ok on) : (Role.switch on).Fits word := by
  unfold readSwitch at hread
  split at hread
  · next htrue =>
    cases hread
    exact List.contains_iff_mem.1 htrue
  · split at hread
    · next hfalse =>
      cases hread
      exact List.contains_iff_mem.1 hfalse
    · cases hread

theorem fits_of_readCondition {word : String} {under : Condition}
    (hread : readCondition word = .ok under) : (Role.condition under).Fits word := by
  unfold readCondition Condition.ofName? at hread
  split at hread
  · next other hname =>
    cases hread
    split at hname <;> cases hname <;> decide
  · cases hread

theorem eq_cons_of_required {argument word : String}
    (hread : required argument arguments[0]? = .ok word) :
    ∃ rest, arguments = word :: rest := by
  cases arguments with
  | nil => cases hread
  | cons other rest => exact ⟨rest, by rw [Except.ok.inj hread]⟩

theorem fits_modem {rest : List String} (hrest : rest.length ≤ 1) :
    List.Forall₂ Role.Fits (rest.head?.toList.map .modem) rest := by
  match rest, hrest with
  | [], _ => exact .nil
  | [_], _ => exact .cons rfl .nil

theorem fits_forward {word number : String} {under : Condition}
    (hword : (Role.condition under).Fits word) :
    List.Forall₂ Role.Fits (Role.ofRequest (forward under number)) [word, number] := by
  unfold forward
  split
  · next herase => exact .cons hword (.cons (List.mem_pair.2 herase) .nil)
  · exact .cons hword (.cons rfl .nil)

/-! ### Reading all arguments -/

theorem uses_of_readState {make : Bool → Option String → Invocation}
    (hmake : ∀ on modem, (make on modem).roles = .switch on :: modem.toList.map .modem)
    (hread : readState make arguments = .ok invocation) (hcount : arguments.length ≤ 2) :
    invocation.Uses arguments := by
  obtain ⟨word, hword, hrest⟩ := bind_eq_ok_iff.1 hread
  obtain ⟨on, hon, hsame⟩ := bind_eq_ok_iff.1 hrest
  obtain ⟨rest, rfl⟩ := eq_cons_of_required hword
  cases hsame
  rw [Uses, hmake, List.getElem?_cons_succ, ← List.head?_eq_getElem?]
  exact .cons (fits_of_readSwitch hon) (fits_modem (Nat.le_of_succ_le_succ hcount))

theorem uses_of_readLock (hread : readLock arguments = .ok invocation)
    (hcount : arguments.length ≤ 3) : invocation.Uses arguments := by
  obtain ⟨word, hword, hrest⟩ := bind_eq_ok_iff.1 hread
  obtain ⟨on, hon, hrest⟩ := bind_eq_ok_iff.1 hrest
  obtain ⟨pin, hpin, hsame⟩ := bind_eq_ok_iff.1 hrest
  obtain ⟨rest, rfl⟩ := eq_cons_of_required hword
  obtain ⟨others, rfl⟩ : ∃ others, rest = pin :: others := eq_cons_of_required hpin
  cases hsame
  rw [Uses, List.getElem?_cons_succ, List.getElem?_cons_succ, ← List.head?_eq_getElem?]
  exact .cons (fits_of_readSwitch hon) (.cons rfl
    (fits_modem (Nat.le_of_succ_le_succ (Nat.le_of_succ_le_succ hcount))))

theorem uses_of_readOperators (hread : readOperators arguments = .ok invocation)
    (hcount : arguments.length ≤ 2) : invocation.Uses arguments := by
  unfold readOperators at hread
  split at hread
  · cases hread
    exact .cons rfl (fits_modem (Nat.le_of_succ_le_succ hcount))
  · cases hread
  · next hmore =>
    cases hread
    refine fits_modem ?_
    match arguments, hmore with
    | [], _ => exact Nat.zero_le 1
    | [_], _ => exact Nat.le_refl 1
    | first :: second :: rest, hmore => exact absurd rfl (hmore first second rest)

theorem uses_of_readSelect (hread : readSelect arguments = .ok invocation)
    (hcount : arguments.length ≤ 2) : invocation.Uses arguments := by
  obtain ⟨target, htarget, hsame⟩ := bind_eq_ok_iff.1 hread
  obtain ⟨rest, rfl⟩ := eq_cons_of_required htarget
  cases hsame
  rw [Uses, List.getElem?_cons_succ, ← List.head?_eq_getElem?]
  exact .cons rfl (fits_modem (Nat.le_of_succ_le_succ hcount))

theorem uses_of_readWatch (hread : readWatch arguments = .ok invocation)
    (hcount : arguments.length ≤ 1) : invocation.Uses arguments := by
  match arguments, hcount with
  | [], _ =>
    cases hread
    exact .nil
  | [word], _ =>
    unfold readWatch at hread
    simp only [List.head?_cons] at hread
    split at hread
    · next limit hlimit =>
      cases hread
      exact .cons hlimit .nil
    · cases hread

/-- The arguments go on behind a modem in front. -/
def Trails (arguments : List String) : Prop :=
  ∃ modem word rest, arguments = modem :: word :: rest ∧ isModem modem

theorem eq_nil_of_not_trails {first : String} {rest : List String} (hmodem : isModem first)
    (hfront : ¬ Trails (first :: rest)) : rest = [] := by
  cases rest with
  | nil => rfl
  | cons word rest => exact absurd ⟨first, word, rest, rfl, hmodem⟩ hfront

theorem readWaiting_of_isModem {first : String} {rest : List String} (hmodem : isModem first) :
    readWaiting (first :: rest) = .ok (.service .queryWaiting (some first)) :=
  if_pos hmodem

theorem readForwarding_of_isModem {first : String} {rest : List String} (hmodem : isModem first) :
    readForwarding (first :: rest) = .ok (.service .queryForwarding (some first)) :=
  if_pos hmodem

theorem uses_of_readWaiting (hread : readWaiting arguments = .ok invocation)
    (hcount : arguments.length ≤ 2) (hfront : ¬ Trails arguments) : invocation.Uses arguments := by
  cases arguments with
  | nil =>
    cases hread
    exact .nil
  | cons first rest =>
    by_cases hmodem : isModem first
    · obtain rfl := eq_nil_of_not_trails hmodem hfront
      rw [readWaiting_of_isModem hmodem] at hread
      cases hread
      exact .cons rfl .nil
    · obtain ⟨on, hon, hsame⟩ := bind_eq_ok_iff.1 ((if_neg hmodem).symm.trans hread)
      cases hsame
      rw [Uses, List.getElem?_cons_succ, ← List.head?_eq_getElem?]
      exact .cons (fits_of_readSwitch hon) (fits_modem (Nat.le_of_succ_le_succ hcount))

theorem uses_of_readForwarding (hread : readForwarding arguments = .ok invocation)
    (hcount : arguments.length ≤ 3) (hfront : ¬ Trails arguments) : invocation.Uses arguments := by
  cases arguments with
  | nil =>
    cases hread
    exact .nil
  | cons first rest =>
    by_cases hmodem : isModem first
    · obtain rfl := eq_nil_of_not_trails hmodem hfront
      rw [readForwarding_of_isModem hmodem] at hread
      cases hread
      exact .cons rfl .nil
    · obtain ⟨under, hunder, hrest⟩ := bind_eq_ok_iff.1 ((if_neg hmodem).symm.trans hread)
      obtain ⟨number, hnumber, hsame⟩ := bind_eq_ok_iff.1 hrest
      obtain ⟨others, rfl⟩ : ∃ others, rest = number :: others := eq_cons_of_required hnumber
      cases hsame
      rw [Uses, roles, List.getElem?_cons_succ, List.getElem?_cons_succ, ← List.head?_eq_getElem?]
      exact List.rel_append (fits_forward (fits_of_readCondition hunder))
        (fits_modem (Nat.le_of_succ_le_succ (Nat.le_of_succ_le_succ hcount)))

theorem uses_of_read {command : Command} (hread : read command arguments = .ok invocation)
    (hcount : arguments.length ≤ command.metadata.arguments.length)
    (hfront : command.metadata.category = "sups" → ¬ Trails arguments) :
    invocation.Uses arguments := by
  cases command with
  | modemList =>
    cases hread
    cases List.eq_nil_of_length_eq_zero (Nat.le_zero.1 hcount)
    exact .nil
  | modemInfo | simStatus | simUnlock | simChangePin | netStatus | dataStatus =>
    cases hread
    exact fits_modem hcount
  | modemPower | modemOnline | dataPower | dataRoaming =>
    exact uses_of_readState (fun _ _ => rfl) hread hcount
  | simLock => exact uses_of_readLock hread hcount
  | netOperators => exact uses_of_readOperators hread hcount
  | netSelect => exact uses_of_readSelect hread hcount
  | supsWaiting => exact uses_of_readWaiting hread hcount (hfront rfl)
  | supsForwarding => exact uses_of_readForwarding hread hcount (hfront rfl)
  | monitorWatch => exact uses_of_readWatch hread hcount

end

end Invocation

open Invocation

theorem length_le_of_checkCount {metadata : Metadata} {arguments : List String}
    (hcount : metadata.checkCount arguments = .ok ()) :
    arguments.length ≤ metadata.arguments.length := by
  unfold Metadata.checkCount at hcount
  simp only at hcount
  split at hcount
  · cases hcount
  · split at hcount
    · cases hcount
    · next hle => exact Nat.le_of_not_lt hle

/-- A line that is carried out uses every argument, exactly unless it asks for a supplementary
service and goes on behind a modem in front. Then it is a query of that modem and nothing more. -/
theorem uses_iff_not_trails {category name : String} {arguments : List String}
    {invocation : Invocation}
    (hplan : Plan.ofLine category name arguments = .ok (.run invocation)) :
    (invocation.Uses arguments ↔ ¬ (category = "sups" ∧ Trails arguments)) ∧
      (category = "sups" → Trails arguments →
        ∃ request, invocation = .service request arguments.head? ∧
          (request = .queryWaiting ∨ request = .queryForwarding)) := by
  obtain ⟨command, rfl, rfl, hcount, hread⟩ := Plan.ofLine_eq_run hplan
  have hquery (hsups : command.metadata.category = "sups") (htrails : Trails arguments) :
      ∃ request, invocation = .service request arguments.head? ∧
        (request = .queryWaiting ∨ request = .queryForwarding) := by
    obtain ⟨modem, word, rest, rfl, hmodem⟩ := htrails
    cases command with
    | supsWaiting =>
      cases (readWaiting_of_isModem hmodem).symm.trans hread
      exact ⟨_, rfl, .inl rfl⟩
    | supsForwarding =>
      cases (readForwarding_of_isModem hmodem).symm.trans hread
      exact ⟨_, rfl, .inr rfl⟩
    | _ => exact absurd hsups (by decide)
  refine ⟨⟨?_, fun hfront => ?_⟩, hquery⟩
  · rintro huses ⟨hsups, htrails⟩
    obtain ⟨request, rfl, hrequest⟩ := hquery hsups htrails
    obtain ⟨modem, word, rest, rfl, -⟩ := htrails
    have hroles : Invocation.roles (.service request (some modem)) = [.modem modem] := by
      rcases hrequest with rfl | rfl <;> rfl
    rw [Uses, List.head?_cons, hroles] at huses
    exact absurd huses.length_eq (by simp)
  · exact uses_of_read hread (length_le_of_checkCount hcount) fun hsups htrails =>
      hfront ⟨hsups, htrails⟩

theorem trails_forwarding : Trails ["/m", "busy", "+3581234"] :=
  ⟨"/m", "busy", ["+3581234"], rfl, by cbv⟩

theorem uses_iff_not_trails_forwarding :
    Plan.ofLine "sups" "forwarding" ["/m", "busy", "+3581234"] =
        .ok (.run (.service .queryForwarding (some "/m"))) ∧
      Trails ["/m", "busy", "+3581234"] ∧
      ¬ (Invocation.service .queryForwarding (some "/m")).Uses ["/m", "busy", "+3581234"] := by
  have hplan : Plan.ofLine "sups" "forwarding" ["/m", "busy", "+3581234"] =
      .ok (.run (.service .queryForwarding (some "/m"))) := by cbv
  exact ⟨hplan, trails_forwarding, fun huses =>
    (uses_iff_not_trails hplan).1.1 huses ⟨rfl, trails_forwarding⟩⟩

/-- Call waiting is not switched on here; the modem is only asked about it. -/
theorem not_always_used :
    ¬ ∀ (service : Service Simulator) arguments invocation pending,
      Plan.ofLine "sups" "waiting" arguments = .ok (.run invocation) →
        (begin 1 ⟨.text, Telephony.Settings.defaultCodes⟩ service invocation).1 = .waits pending →
          invocation.Uses arguments := by
  intro hused
  have huses : (Invocation.service .queryWaiting (some "/m")).Uses ["/m", "on"] :=
    hused (.stopped (Simulator.empty.addModem ⟨"/m"⟩ [.supplementaryServices])) ["/m", "on"] _
      (.reply ⟨"/m"⟩ .queryWaiting) (by cbv) rfl
  exact absurd huses.length_eq (by decide)

end Telephony.Console

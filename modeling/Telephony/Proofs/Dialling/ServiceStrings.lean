import Mathlib.Data.List.Basic
import Telephony.Simulator.Basic

/-!
# Service strings and replies

What a request says to the network, and what the network answers. A request is written as a service
string, which the network takes apart again from its end, its front and the first separator; the
reply is a table of texts from which the settings are read by name. Nothing gets lost on either way,
whatever the number.
-/

namespace Telephony

/-! ### Dialable numbers -/

/-- One to twenty digits, behind a plus sign or not. -/
def Dialable (number : String) : Prop :=
  ∃ sign digits, number.toList = sign ++ digits ∧ (sign = [] ∨ sign = ['+']) ∧
    (∀ char ∈ digits, '0' ≤ char ∧ char ≤ '9') ∧ 1 ≤ digits.length ∧ digits.length ≤ 20

theorem Text.unsigned_cases (chars : List Char) :
    (chars = unsigned chars ∧ chars.head? ≠ some '+') ∨ chars = '+' :: unsigned chars := by
  unfold unsigned
  split
  · exact .inr rfl
  · next hsign =>
    refine .inl ⟨rfl, fun hhead => ?_⟩
    obtain ⟨rest, hrest⟩ := List.head?_eq_some_iff.1 hhead
    exact hsign rest hrest

theorem ServiceRequest.isDialable_iff {number : String} :
    isDialable number = true ↔ Dialable number := by
  have hproper : isDialable number = true ↔
      (∀ char ∈ Text.unsigned number.toList, '0' ≤ char ∧ char ≤ '9') ∧
        1 ≤ (Text.unsigned number.toList).length ∧
        (Text.unsigned number.toList).length ≤ 20 := by
    simp [isDialable, Text.isDigit, and_assoc]
  rw [hproper]
  constructor
  · intro hdigits
    rcases Text.unsigned_cases number.toList with ⟨hplain, -⟩ | hsigned
    · exact ⟨[], _, hplain, .inl rfl, hdigits⟩
    · exact ⟨['+'], _, hsigned, .inr rfl, hdigits⟩
  · rintro ⟨sign, digits, hnumber, rfl | rfl, hdigits⟩
    · have hplain : Text.unsigned number.toList = digits := by
        rw [hnumber, List.nil_append]
        rcases Text.unsigned_cases digits with ⟨hplain, -⟩ | hsigned
        · exact hplain.symm
        · have hplus := hdigits.1 '+' (by rw [hsigned]; exact List.mem_cons_self)
          exact absurd hplus (by decide)
      rw [hplain]
      exact hdigits
    · rw [hnumber]
      exact hdigits

instance (number : String) : Decidable (Dialable number) :=
  decidable_of_iff _ ServiceRequest.isDialable_iff

namespace ServiceRequest

/-- Only a number that cannot be dialled is refused. -/
theorem check_eq (request : ServiceRequest) :
    (∃ condition number, request = .register condition number ∧ ¬ Dialable number ∧
        request.check = .error (notDialable number)) ∨
      (∀ condition number, request = .register condition number → Dialable number) ∧
        request.check = .ok () := by
  cases request with
  | register condition number =>
    by_cases hdialable : Dialable number
    · refine .inr ⟨fun _ _ hsame => (ServiceRequest.register.inj hsame).2 ▸ hdialable, ?_⟩
      exact if_pos (isDialable_iff.2 hdialable)
    · exact .inl ⟨condition, number, rfl, hdialable, if_neg (mt isDialable_iff.1 hdialable)⟩
  | _ => exact .inr ⟨nofun, rfl⟩

/-! ### The strings -/

/-- What the network is to make of the request. -/
def dialled : ServiceRequest → Dialled
  | queryWaiting => .queryWaiting
  | setWaiting on => .setWaiting on
  | queryForwarding => .queryForwarding
  | register condition number => .register condition.serviceCode number
  | erase condition => .erase condition.serviceCode

end ServiceRequest

theorem Text.splitOnce?_append {separator : Char} {front : List Char} (back : List Char)
    (hfront : separator ∉ front) :
    splitOnce? separator (front ++ separator :: back) = some (front, back) := by
  induction front with
  | nil => simp [splitOnce?]
  | cons char front ih =>
    obtain ⟨hchar, hrest⟩ := not_or.1 (mt List.mem_cons.2 hfront)
    simp [splitOnce?, Ne.symm hchar, ih hrest]

namespace Condition

theorem serviceCode_injective {first second : Condition}
    (hsame : first.serviceCode = second.serviceCode) : first = second := by
  cases first <;> cases second <;> first | rfl | exact absurd hsame (by decide)

/-- The service code as it is dialled. -/
theorem serviceCode_text (condition : Condition) :
    '*' ∉ (toString condition.serviceCode).toList ∧
      Dialled.serviceCode? (toString condition.serviceCode).toList = some condition.serviceCode := by
  cases condition <;> decide

end Condition

namespace Dialled

/-- A registration is understood, whatever the number. -/
theorem ofText?_register (condition : Condition) (number : String) :
    ofText? (ServiceRequest.register condition number).code =
      some (.register condition.serviceCode number) := by
  obtain ⟨hseparator, hcode⟩ := condition.serviceCode_text
  let rest := (toString condition.serviceCode).toList ++ '*' :: number.toList
  have htext : (ServiceRequest.register condition number).code.toList =
      ("**".toList ++ rest) ++ "**11#".toList := by
    simp [ServiceRequest.code, rest]
    rfl
  -- all other strings have another second character
  have hother : ∀ text : String, text.toList[1]? ≠ some '*' →
      (ServiceRequest.register condition number).code ≠ text := by
    rintro text hsecond rfl
    rw [htext] at hsecond
    exact hsecond rfl
  have hbody : body? (ServiceRequest.register condition number).code = some ("**".toList ++ rest) := by
    rw [body?, htext]
    exact List.isSuffixOf?_eq_some_iff_append_eq.2 rfl
  have hsplit : Text.splitOnce? '*' rest =
      some ((toString condition.serviceCode).toList, number.toList) :=
    Text.splitOnce?_append number.toList hseparator
  have hregistration : registration? ("**".toList ++ rest) =
      some (.register condition.serviceCode number) := by
    have hrest : "**".toList.isPrefixOf? ("**".toList ++ rest) = some rest :=
      List.isPrefixOf?_eq_some_iff_append_eq.2 rfl
    simp only [registration?, hrest, hsplit, hcode, String.ofList_toList,
      Option.bind_eq_bind, Option.bind_some, Option.pure_def]
  rw [ofText?, if_neg (hother _ (by decide)), if_neg (hother _ (by decide)),
    if_neg (hother _ (by decide)), if_neg (hother _ (by decide)), hbody, Option.bind_some,
    hregistration]
  rfl

theorem ofText?_code (request : ServiceRequest) : ofText? request.code = some request.dialled := by
  cases request with
  | queryWaiting | queryForwarding => rfl
  | setWaiting on => cases on <;> rfl
  | register condition number => exact ofText?_register condition number
  | erase condition => cases condition <;> rfl

end Dialled

/-! ### The replies -/

namespace Simulator.SimulatedModem

variable (modem : SimulatedModem) (operation : String)

theorem read_waitingReply : CallWaiting.ofReply (modem.waitingReply operation) = .ok modem.waiting := by
  have htext : (modem.waitingReply operation).text? "VoiceCallWaiting" =
      some (if modem.waiting then "enabled" else "disabled") := by
    simp [ServiceReply.text?, waitingReply, Table.ofList, Table.get?_insert, Setting.text?]
  simp only [CallWaiting.ofReply, htext]
  cases modem.waiting <;> rfl

theorem text?_forwardingReply (condition : Condition) :
    (modem.forwardingReply operation).text? condition.settingKey =
      some (modem.forwardedTo condition) := by
  cases condition <;>
    simp [ServiceReply.text?, forwardingReply, Table.ofList, Table.get?_insert, Condition.all,
      Condition.settingKey, Setting.text?]

/-- Calls are forwarded where there is a number. -/
theorem read_forwardingReply : ∃ forwarding,
    CallForwarding.ofReply (modem.forwardingReply operation) = .ok forwarding ∧
      ∀ condition, (forwarding.condition condition).number = modem.forwardedTo condition ∧
        (forwarding.condition condition).enabled = (modem.forwardedTo condition != "") := by
  refine ⟨_, rfl, fun condition => ?_⟩
  cases condition <;>
    simp only [CallForwarding.condition, CallForwarding.conditionOf, text?_forwardingReply,
      Option.getD_some, and_self]

end Simulator.SimulatedModem

end Telephony

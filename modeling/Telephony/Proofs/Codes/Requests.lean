import Telephony.CodeSession.Open
import Telephony.Proofs.Recording

/-!
# Requests about codes

Whoever asks for something to be done with the codes of a SIM, the codes are looked at first. If one
of them is malformed this is told at once, and the daemon is not asked.
-/

namespace Telephony

/-- What a code has to look like. -/
def SecurityCode.Proper (code : SecurityCode) (text : String) : Prop :=
  (∀ char ∈ text.toList, '0' ≤ char ∧ char ≤ '9') ∧
    match code with
    | .pin | .pin2 => 4 ≤ text.toList.length ∧ text.toList.length ≤ 8
    | .puk | .puk2 => text.toList.length = 8

theorem SecurityCode.accepts_iff {code : SecurityCode} {text : String} :
    code.accepts text = true ↔ code.Proper text := by
  cases code <;> simp [accepts, Proper, Text.isDigit]

namespace PinRequest

/-- The codes of the request, each with what it has to be. What replaces a code that was unblocked
is a PIN. -/
def codes : PinRequest → List (SecurityCode × String)
  | enter _ code pin | lock _ code pin | unlock _ code pin => [(code, pin)]
  | reset _ code puk newPin => [(code, puk), (.pin, newPin)]
  | change _ code oldPin newPin => [(code, oldPin), (code, newPin)]

def Proper (request : PinRequest) : Prop := ∀ passed ∈ request.codes, passed.1.Proper passed.2

def path : PinRequest → ModemPath
  | enter path _ _ | reset path _ _ _ | change path _ _ _ | lock path _ _ | unlock path _ _ => path

end PinRequest

namespace Service

variable {δ : Type} [Daemon δ]

/-- What a request about codes comes to. -/
def handlePin (service : Service δ) : PinRequest → Except Failure Unit × Service δ
  | .enter path code pin => service.enterPin path code pin
  | .reset path code puk newPin => service.resetPin path code puk newPin
  | .change path code oldPin newPin => service.changePin path code oldPin newPin
  | .lock path code pin => service.lockPin path code pin
  | .unlock path code pin => service.unlockPin path code pin

theorem checkCode_of_proper {code : SecurityCode} {text : String} (hproper : code.Proper text) :
    checkCode code text = .ok () := if_pos (SecurityCode.accepts_iff.2 hproper)

theorem checkCode_of_malformed {code : SecurityCode} {text : String}
    (hmalformed : ¬ code.Proper text) :
    checkCode code text = .error (.invalidInput "security code" s!"not a valid {code}") :=
  if_neg fun haccepts => hmalformed (SecurityCode.accepts_iff.1 haccepts)

/-- Codes that replace others are PINs. -/
theorem proper_renewed {code : SecurityCode} {text : String} :
    code.renewed.Proper text ↔ SecurityCode.pin.Proper text := by
  cases code <;> rfl

/-- The codes of a request are looked at in order. -/
def checkPin : PinRequest → Except Failure Unit
  | .enter _ code pin | .lock _ code pin | .unlock _ code pin => checkCode code pin
  | .reset _ code puk newPin => checkCode code puk >>= fun _ => checkCode code.renewed newPin
  | .change _ code oldPin newPin => checkCode code oldPin >>= fun _ => checkCode code newPin

theorem handlePin_eq (service : Service δ) (request : PinRequest) :
    service.handlePin request =
      service.askSim request.path (checkPin request) (Daemon.handlePin request) := by
  cases request <;> rfl

theorem checkPin_of_proper {request : PinRequest} (hproper : request.Proper) :
    checkPin request = .ok () := by
  cases request with
  | enter path code pin | lock path code pin | unlock path code pin =>
    exact checkCode_of_proper (hproper (code, pin) List.mem_cons_self)
  | reset path code puk newPin =>
    have hpuk := hproper (code, puk) List.mem_cons_self
    have hnewPin := hproper (.pin, newPin) (.tail _ List.mem_cons_self)
    rw [checkPin, checkCode_of_proper hpuk]
    exact checkCode_of_proper (proper_renewed.2 hnewPin)
  | change path code oldPin newPin =>
    have holdPin := hproper (code, oldPin) List.mem_cons_self
    have hnewPin := hproper (code, newPin) (.tail _ List.mem_cons_self)
    rw [checkPin, checkCode_of_proper holdPin]
    exact checkCode_of_proper hnewPin

theorem checkBoth_of_malformed {first second : SecurityCode} {one other : String}
    (hmalformed : first.Proper one → ¬ second.Proper other) :
    ∃ reason, (checkCode first one >>= fun _ => checkCode second other) =
      .error (.invalidInput "security code" reason) := by
  by_cases hone : first.Proper one
  · rw [checkCode_of_proper hone]
    exact ⟨_, checkCode_of_malformed (hmalformed hone)⟩
  · rw [checkCode_of_malformed hone]
    exact ⟨_, rfl⟩

theorem checkPin_of_malformed {request : PinRequest} (hmalformed : ¬ request.Proper) :
    ∃ reason, checkPin request = .error (.invalidInput "security code" reason) := by
  cases request with
  | enter path code pin | lock path code pin | unlock path code pin =>
    refine ⟨_, checkCode_of_malformed fun hpin => hmalformed ?_⟩
    simpa [PinRequest.Proper, PinRequest.codes] using hpin
  | reset path code puk newPin =>
    refine checkBoth_of_malformed fun hpuk hnewPin => hmalformed ?_
    simpa [PinRequest.Proper, PinRequest.codes] using ⟨hpuk, proper_renewed.1 hnewPin⟩
  | change path code oldPin newPin =>
    refine checkBoth_of_malformed fun holdPin hnewPin => hmalformed ?_
    simpa [PinRequest.Proper, PinRequest.codes] using ⟨holdPin, hnewPin⟩

/-- A malformed code is refused, and nothing else happens. -/
theorem handlePin_of_malformed (service : Service δ) {request : PinRequest}
    (hmalformed : ¬ request.Proper) :
    ∃ reason, service.handlePin request =
      (.error (.invalidInput "security code" reason), service) := by
  obtain ⟨reason, hrefused⟩ := checkPin_of_malformed hmalformed
  exact ⟨reason, by rw [handlePin_eq, hrefused, askSim]⟩

theorem handlePin_of_proper (service : Service δ) {request : PinRequest}
    (hproper : request.Proper) :
    service.handlePin request =
      service.ask request.path .simManager (Daemon.handlePin request) := by
  rw [handlePin_eq, checkPin_of_proper hproper, askSim]

theorem forget_handlePin (service : Service (Recorded δ)) (request : PinRequest) :
    service.forget.handlePin request =
      ((service.handlePin request).1, (service.handlePin request).2.forget) := by
  rw [handlePin_eq, handlePin_eq]
  cases checkPin request with
  | error failure => rfl
  | ok =>
    simp only [askSim, ask, Daemon.handlePin_recorded, Recorded.note]
    rw [show service.forget.board = service.board from rfl]
    cases service.board.require request.path .simManager <;> rfl

/-- A recorded daemon has been asked for what is proper, or has not been asked. -/
theorem record_handlePin (service : Service (Recorded δ)) (request : PinRequest) :
    (service.handlePin request).2.daemon.record = service.daemon.record ∨
      request.Proper ∧ ∃ refusal, (service.handlePin request).2.daemon.record =
        service.daemon.record ++ [⟨.pin request, refusal⟩] := by
  by_cases hproper : request.Proper
  · rw [handlePin_of_proper service hproper, ask]
    split
    · exact .inl rfl
    · rw [Daemon.handlePin_recorded]
      exact .inr ⟨hproper, _, rfl⟩
  · obtain ⟨reason, hrefused⟩ := handlePin_of_malformed service hproper
    rw [hrefused]
    exact .inl rfl

end Service

/-- The attempt of a session as a request. -/
def CodeSession.Attempt.request : CodeSession.Attempt → PinRequest
  | enter path code pin _ => .enter path code pin
  | reset path code puk newPin _ => .reset path code puk newPin
  | change path current newPin _ => .change path .pin current newPin

theorem Service.attempt_eq {δ : Type} [Daemon δ] (service : Service δ)
    (attempt : CodeSession.Attempt) :
    service.attempt attempt = service.handlePin attempt.request := by
  cases attempt <;> rfl

end Telephony

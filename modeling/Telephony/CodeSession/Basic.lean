import Telephony.Failure
import Telephony.SecurityCode
import Telephony.Switchboard.Observers

/-!
# Code sessions

A code session asks the user for the codes of one modem's SIM: the PIN or PUK that the SIM waits
for, and the old and new PIN when the PIN is to be changed. This module has the words of a session:
where it stands, the dialogs it opens, the notices it gives, and what it waits for.
-/

namespace Telephony

namespace CodeSession

inductive Stage where
  | none
  | startup
  | pin
  | newPin
  | confirmPin
  | simUnlock
  | simError
  | pinError
  | ok
  deriving DecidableEq, Repr, Inhabited

namespace Stage

def isSettled : Stage → Bool
  | ok | simError | pinError => true
  | _ => false

def isPrompting : Stage → Bool
  | pin | newPin | confirmPin | simUnlock => true
  | _ => false

def label : Stage → String
  | none => "none"
  | startup => "startup"
  | pin => "pin"
  | newPin => "new-pin"
  | confirmPin => "confirm-pin"
  | simUnlock => "sim-unlock"
  | simError => "sim-error"
  | pinError => "pin-error"
  | ok => "ok"

end Stage

inductive Kind where
  | unlock (code : SecurityCode)
  | currentPin
  | newPin
  | confirmPin
  deriving DecidableEq, Repr

/-- Where the session stands while the dialog is up. -/
def Kind.stage : Kind → Stage
  | unlock .pin | unlock .pin2 => .pin
  | unlock .puk | unlock .puk2 => .simUnlock
  | currentPin => .pin
  | newPin => .newPin
  | confirmPin => .confirmPin

inductive Message where
  | attemptsRemaining (left : UInt8)
  | wrongCode
  | invalidFormat
  | mismatch
  deriving DecidableEq, Repr

def Message.text : Message → String
  | attemptsRemaining left =>
    if left = 1 then "1 attempt remaining" else s!"{left} attempts remaining"
  | wrongCode => "Incorrect code"
  | invalidFormat => "Code has the wrong format"
  | mismatch => "Codes did not match"

structure Dialog where
  kind : Kind
  attempts : Option UInt8
  message : Option Message
  deriving DecidableEq, Repr

inductive Notice where
  | simRejected
  | noSim
  | simLocked
  | codeAccepted
  | codeChanged
  deriving DecidableEq, Repr

def Notice.text : Notice → String
  | simRejected => "SIM card rejected"
  | noSim => "No SIM card"
  | simLocked => "SIM card locked"
  | codeAccepted => "Code accepted"
  | codeChanged => "Code changed"

/-- What a session is told, and takes up one after the other. -/
inductive Note where
  | status (path : ModemPath) (status : Sim.Status)
  | codeQuery (path : ModemPath) (status : Sim.Status)
  /-- The PIN is to be changed; the outcome is told under the number. -/
  | changeCode (number : Nat)
  | activated
  deriving DecidableEq, Repr

/-- On whose behalf a SIM is unlocked: because it asked for a code, or because a change of the PIN
was refused with `failure` and the SIM now asks for one. -/
inductive Cause where
  | query
  | change (number : Nat) (failure : Failure)
  deriving DecidableEq, Repr

inductive Renewal where
  | unblock (path : ModemPath) (code : SecurityCode) (puk : String) (cause : Cause)
  | replace (path : ModemPath) (current : String) (number : Nat)
  deriving DecidableEq, Repr

/-- A dialog's purpose, which says how its answer is used. -/
inductive Question where
  | unlock (path : ModemPath) (code : SecurityCode) (cause : Cause)
  | currentPin (path : ModemPath) (number : Nat)
  | newPin (renewal : Renewal)
  | confirmPin (renewal : Renewal) (first : String)
  deriving DecidableEq, Repr

def Question.kind : Question → Kind
  | unlock _ code _ => .unlock code
  | currentPin _ _ => .currentPin
  | newPin _ => .newPin
  | confirmPin _ _ => .confirmPin

inductive Attempt where
  | enter (path : ModemPath) (code : SecurityCode) (pin : String) (cause : Cause)
  | reset (path : ModemPath) (code : SecurityCode) (puk newPin : String) (cause : Cause)
  | change (path : ModemPath) (current newPin : String) (number : Nat)
  deriving DecidableEq, Repr

def Attempt.path : Attempt → ModemPath
  | enter path _ _ _ => path
  | reset path _ _ _ _ => path
  | change path _ _ _ => path

def Attempt.code : Attempt → SecurityCode
  | enter _ code _ _ => code
  | reset _ code _ _ _ => code
  | change _ _ _ _ => .pin

/-- What a session waits for. -/
inductive Phase where
  /-- The next note. -/
  | idle
  /-- That the events before a query have been taken in; the query may be stale. -/
  | settlingQuery (path : ModemPath)
  /-- The user. -/
  | asking (question : Question) (attempts : Option UInt8) (message : Option Message)
  /-- The SIM. -/
  | submitting (attempt : Attempt)
  /-- That the events after a refusal have been taken in. -/
  | settlingRefusal (attempt : Attempt) (failure : Failure)
  /-- The command that runs when a code was accepted. -/
  | runningCommand (command : String) (cause : Cause)
  deriving DecidableEq, Repr

def Phase.dialog? : Phase → Option Dialog
  | asking question attempts message => some ⟨question.kind, attempts, message⟩
  | _ => none

inductive Output where
  | notice (notice : Notice)
  /-- The outcome of a change of the PIN. -/
  | changed (number : Nat) (result : Except Failure Unit)

end CodeSession

structure CodeOptions where
  correctCommand : Option String
  emergencyNumbers : List String
  modem : Option ModemPath
  deriving DecidableEq, Repr

structure CodeSession where
  stage : CodeSession.Stage
  /-- The codes refused so far, modulo 2 ^ 32. -/
  retries : UInt32
  active : Bool
  emergency : Bool
  /-- The modem it was set up for, or chose when it began. -/
  assigned : Option ModemPath
  /-- The modem whose SIM it serves: the assigned one, else the first that reports. -/
  followed : Option ModemPath
  lastStatus : Sim.Status
  /-- The PIN accepted last, which is tried once before the user is asked. -/
  cachedCode : Option String
  correctCommand : Option String
  emergencyNumbers : List String
  subscriptions : List Subscription
  phase : CodeSession.Phase
  notes : List CodeSession.Note
  deriving DecidableEq

end Telephony

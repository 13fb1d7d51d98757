import Telephony.CodeSession.Basic
import Telephony.Switchboard.Basic

/-!
# The steps of a code session

A session runs from one wait to the next. Each step takes what the session waited for, reads the
switchboard as it is at that moment, and gives the session in its next wait together with what it
has to say. No step waits or loops: a flow of dialogs is a row of steps, and its state between them
is the phase.
-/

namespace Telephony.CodeSession

def enter (session : CodeSession) (stage : Stage) : CodeSession := { session with stage }

def await (session : CodeSession) (phase : Phase) : CodeSession := { session with phase }

def ask (session : CodeSession) (question : Question) (attempts : Option UInt8)
    (message : Option Message) : CodeSession :=
  (session.enter question.kind.stage).await (.asking question attempts message)

/-! ### Notes -/

def post (session : CodeSession) (note : Note) : CodeSession :=
  { session with notes := session.notes ++ [note] }

/-- Whether the session serves this modem. One that serves none follows the first that reports. -/
def accepts (session : CodeSession) (path : ModemPath) : Bool × CodeSession :=
  match session.followed with
  | some followed => (followed = path, session)
  | none => (true, { session with followed := some path })

/-- A status is reported once when it is entered. While the device starts up a SIM that is missing
or locked is no news, and a usable SIM does not end a dialog. -/
def statusChanged (session : CodeSession) (status : Sim.Status) : CodeSession × List Output :=
  if session.lastStatus = status then (session, [])
  else
    let stage := session.stage
    let session := { session with lastStatus := status }
    match status with
    | .ok => (if stage.isPrompting then session else session.enter .ok, [])
    | .rejected => (session.enter .simError, [.notice .simRejected])
    | .noSim => (session.enter .simError, if stage = .startup then [] else [.notice .noSim])
    | .locked => (session.enter .simError, if stage = .startup then [] else [.notice .simLocked])
    | .unknown | .pinRequired | .pukRequired | .puk2Required => (session, [])

/-! ### Flows -/

def finish (session : CodeSession) (cause : Cause) : CodeSession × List Output :=
  match cause with
  | .query => (session.await .idle, [])
  | .change number failure => (session.await .idle, [.changed number (.error failure)])

/-- Asks for the code that a SIM waits for, if it waits for one. The PIN accepted last is tried
without asking. -/
def unlock (board : Switchboard) (session : CodeSession) (path : ModemPath)
    (message : Option Message) (cause : Cause) : CodeSession × List Output :=
  match board.sim? path with
  | none => (session.enter .pinError).finish cause
  | some sim =>
    match sim.status with
    | .pinRequired =>
      match session.cachedCode with
      | some pin => ({ session with cachedCode := none }.enter .pin |>.await
          (.submitting (.enter path .pin pin cause)), [])
      | none => (session.ask (.unlock path .pin cause) (sim.retriesLeft .pin) message, [])
    | .pukRequired => (session.ask (.unlock path .puk cause) (sim.retriesLeft .puk) message, [])
    | .puk2Required => (session.ask (.unlock path .puk2 cause) (sim.retriesLeft .puk2) message, [])
    | .ok => (session.enter .ok).finish cause
    | status =>
      let (session, said) := { session with lastStatus := .unknown }.statusChanged status
      let (session, more) := session.finish cause
      (session, said ++ more)

def askCurrent (board : Switchboard) (session : CodeSession) (path : ModemPath) (number : Nat)
    (message : Option Message) : CodeSession :=
  session.ask (.currentPin path number) ((board.sim? path).bind (·.retriesLeft .pin)) message

def dismissed (session : CodeSession) (question : Question) : CodeSession × List Output :=
  let session := session.enter .pinError
  match question with
  | .unlock _ _ cause => session.finish cause
  | .newPin (.unblock _ _ _ cause) | .confirmPin (.unblock _ _ _ cause) _ => session.finish cause
  | .currentPin _ number | .newPin (.replace _ _ number) | .confirmPin (.replace _ _ number) _ =>
    (session.await .idle, [.changed number (.error .canceled)])

def submitRenewal (session : CodeSession) (renewal : Renewal) (newPin : String) : CodeSession :=
  match renewal with
  | .unblock path code puk cause =>
    session.enter (Kind.unlock code).stage
      |>.await (.submitting (.reset path code puk newPin cause))
  | .replace path current number =>
    session.enter Kind.currentPin.stage |>.await (.submitting (.change path current newPin number))

def entered (session : CodeSession) (question : Question) (code : String) : CodeSession :=
  match question with
  | .unlock path .pin cause => session.await (.submitting (.enter path .pin code cause))
  | .unlock path .pin2 cause => session.await (.submitting (.enter path .pin2 code cause))
  | .unlock path kind cause => session.ask (.newPin (.unblock path kind code cause)) none none
  | .currentPin path number => session.ask (.newPin (.replace path code number)) none none
  | .newPin renewal => session.ask (.confirmPin renewal code) none none
  | .confirmPin renewal first =>
    if first = code then session.submitRenewal renewal code
    else session.ask (.newPin renewal) none (some .mismatch)

def accepted (session : CodeSession) (cause : Cause) : CodeSession × List Output :=
  let (session, said) := (session.enter .ok).finish cause
  (session, .notice .codeAccepted :: said)

/-- The SIM took a code that unlocks it; the user's command runs before this is told. -/
def unlocked (session : CodeSession) (pin : String) (cause : Cause) : CodeSession × List Output :=
  let session := { session with cachedCode := some pin }
  match session.correctCommand with
  | some command => (session.await (.runningCommand command cause), [])
  | none => session.accepted cause

/-- Goes on after a refusal: asks again, or for what the SIM now waits for. -/
def retry (board : Switchboard) (session : CodeSession) (attempt : Attempt) (failure : Failure)
    (message : Message) : CodeSession × List Output :=
  match attempt with
  | .enter path _ _ cause | .reset path _ _ _ cause =>
    session.unlock board path (some message) cause
  | .change path _ _ number =>
    if (board.sim? path).any (·.status.needsCode) then
      session.unlock board path none (.change number failure)
    else (session.askCurrent board path number (some message), [])

/-- The SIM, or the service before it, refused an attempt. Only a malformed code costs nothing. -/
def refused (board : Switchboard) (session : CodeSession) (attempt : Attempt)
    (failure : Failure) : CodeSession × List Output :=
  match failure with
  | .invalidInput _ _ => session.retry board attempt failure .invalidFormat
  | _ =>
    ({ session with retries := session.retries + 1, cachedCode := none }.await
      (.settlingRefusal attempt failure), [])

def refusalMessage (board : Switchboard) (attempt : Attempt) : Message :=
  match (board.sim? attempt.path).bind (·.retriesLeft attempt.code.pinType) with
  | some left => if 0 < left then .attemptsRemaining left else .wrongCode
  | none => .wrongCode

/-! ### Steps -/

def take (board : Switchboard) (session : CodeSession) : Note → CodeSession × List Output
  | .status path status =>
    match session.accepts path with
    | (true, session) => session.statusChanged status
    | (false, session) => (session, [])
  | .codeQuery path _ =>
    match session.accepts path with
    | (true, session) =>
      (if session.active then session.await (.settlingQuery path) else session, [])
    | (false, session) => (session, [])
  | .activated =>
    match session.followed with
    | some path =>
      if (board.sim? path).any (·.status.needsCode) then session.unlock board path none .query
      else (session, [])
    | none => (session, [])
  | .changeCode number =>
    match session.followed <|> board.defaultModem with
    | some path => (session.askCurrent board path number none, [])
    | none =>
      (session, [.changed number (.error (.operationFailed "change PIN" "no modem available"))])

/-- Takes up the next note, if the session is idle and there is one. -/
def next (board : Switchboard) (session : CodeSession) : Option (CodeSession × List Output) :=
  match session.phase, session.notes with
  | .idle, note :: notes => some ({ session with notes }.take board note)
  | _, _ => none

/-- The answer to the dialog that is up; none dismisses it. -/
def answer (session : CodeSession) (code : Option String) : CodeSession × List Output :=
  match session.phase, code with
  | .asking question _ _, some code => (session.entered question code, [])
  | .asking question _ _, none => session.dismissed question
  | _, _ => (session, [])

def attempted (board : Switchboard) (session : CodeSession) (result : Except Failure Unit) :
    CodeSession × List Output :=
  match session.phase, result with
  | .submitting attempt, .error failure => session.refused board attempt failure
  | .submitting (.enter _ _ pin cause), .ok () => session.unlocked pin cause
  | .submitting (.reset _ _ _ newPin cause), .ok () => session.unlocked newPin cause
  | .submitting (.change _ _ newPin number), .ok () =>
    (({ session with cachedCode := some newPin }.enter .ok).await .idle,
      [.notice .codeChanged, .changed number (.ok ())])
  | _, _ => (session, [])

def settled (board : Switchboard) (session : CodeSession) : CodeSession × List Output :=
  match session.phase with
  | .settlingQuery path => session.unlock board path none .query
  | .settlingRefusal attempt failure =>
    session.retry board attempt failure (refusalMessage board attempt)
  | _ => (session, [])

/-- The user's command has ended, whatever came of it. -/
def commandEnded (session : CodeSession) : CodeSession × List Output :=
  match session.phase with
  | .runningCommand _ cause => session.accepted cause
  | _ => (session, [])

/-! ### The session from outside -/

/-- Prompting goes on or off; when it comes on again the session looks whether a code is needed. -/
def setActive (session : CodeSession) (active : Bool) : CodeSession :=
  let session' := { session with active }
  if active && !session.active then session'.post .activated else session'

/-- The emergency numbers of the assigned modem, or of the default one; the configured numbers if it
advertises none. -/
def currentEmergencyNumbers (board : Switchboard) (session : CodeSession) : List String :=
  let advertised := (((session.assigned <|> board.defaultModem).bind board.modem?).map
    (·.emergencyNumbers)).getD []
  if advertised.isEmpty then session.emergencyNumbers else advertised

/-- Whether the digits call for help; the answer is kept. -/
def checkEmergency (board : Switchboard) (session : CodeSession) (digits : String) :
    Bool × CodeSession :=
  let emergency := (session.currentEmergencyNumbers board).contains digits
  (emergency, { session with emergency })

end Telephony.CodeSession

import Telephony.CodeSession.Open
import Telephony.Console.Help
import Telephony.Console.Invocation
import Telephony.Console.Report
import Telephony.Service.Requests

/-!
# Running commands

A command line is planned first: it shows a help text, or it is a command with arguments that could
be read. Only then is the service touched. A command gives its result at once or waits, for the
answer to a request, for a code session to end, or for news; what it waits for and how it goes on
then is all that is kept of it.
-/

namespace Telephony.Console

inductive Plan where
  | help (text : String)
  | run (invocation : Invocation)

def Plan.ofLine (category name : String) (arguments : List String) : Except CommandError Plan :=
  if category = "help" then
    if name = "" then .ok (.help Console.help) else (categoryHelp name).map .help
  else if name = "" ∨ name = "help" then (categoryHelp category).map .help
  else do
    let command ← catalogue.select category name arguments
    return .run (← Invocation.read command arguments)

/-- What commands are given beside their arguments: the format of their output, and how code
sessions are set up. -/
structure Settings where
  format : Format
  codes : CodeOptions
  deriving DecidableEq, Repr

inductive Pending where
  /-- The list of operators, to show it. -/
  | listing (path : ModemPath)
  /-- The list of operators, to register on the one that is meant. -/
  | selection (path : ModemPath) (target : String)
  /-- The reply to a service request. -/
  | reply (path : ModemPath) (request : ServiceRequest)
  /-- That a code session is done asking. -/
  | unlocking (path : ModemPath)
  /-- The outcome of a change of the PIN. -/
  | changing (path : ModemPath)
  /-- News, up to a number of pieces. -/
  | watching (subscriptions : List Subscription) (left : Option Nat)
  deriving DecidableEq, Repr

inductive Progress where
  | done (result : Except CommandError String)
  | waits (pending : Pending)
  /-- The command waits for the session that it has opened. -/
  | opened (session : CodeSession) (pending : Pending)

namespace Progress

def fail (error : CommandError) : Progress := .done (.error error)

def failed (failure : Failure) : Progress := fail (.ofFailure failure)

def ofAccepted (pending : Pending) : Except Failure CallId → Progress
  | .ok _ => .waits pending
  | .error failure => failed failure

def ofUnit (text : String) : Except Failure Unit → Progress
  | .ok () => .done (.ok text)
  | .error failure => failed failure

def ofState {α : Type} (format : Format) (missing : String) (report : α → Report) :
    Option α → Progress
  | some state => .done (.ok ((report state).render format))
  | none => fail (.service "Cellular" missing)

end Progress

section Run

variable {δ : Type} [Daemon δ]

/-- Starts the service and takes in all events so far. -/
def ready (service : Service δ) : Except CommandError Unit × Service δ :=
  match service.start with
  | (.error failure, service) => (.error (.ofFailure failure), service)
  | (.ok (), service) => (.ok (), service.settle)

/-- The modem that is named, or the first one; it must be known. -/
def chooseModem (board : Switchboard) (name : Option String) : Except CommandError ModemPath :=
  match name.map ModemPath.mk <|> board.defaultModem with
  | none => .error (.invalidArgument "modem" "No modems found")
  | some path =>
    if board.knows path then .ok path
    else .error (.invalidArgument "modem" s!"Unknown modem '{path}'")

/-- Runs the rest of a command on the chosen modem. -/
def onModem (service : Service δ) (name : Option String)
    (rest : ModemPath → Service δ → Progress × Service δ) : Progress × Service δ :=
  match ready service with
  | (.error error, service) => (.fail error, service)
  | (.ok (), service) =>
    match chooseModem service.board name with
    | .error error => (.fail error, service)
    | .ok path => rest path service

def switchedText (path : ModemPath) (switch : Switch) (on : Bool) : String :=
  match switch with
  | .modemPowered => s!"Modem {path} powered {Style.switch on}"
  | .modemOnline => s!"Modem {path} online {Style.switch on}"
  | .dataPowered => s!"Packet data on {path} {Style.switch on}"
  | .roamingAllowed => s!"Data roaming on {path} {Style.switch on}"

def lockedText (path : ModemPath) (on : Bool) : String :=
  if on then s!"PIN required at power-up on {path}" else s!"PIN no longer required on {path}"

/-- Opens a code session for one modem, whatever modem is configured. -/
def openSession (number : Nat) (settings : Settings) (path : ModemPath) (pending : Pending)
    (adjust : CodeSession → CodeSession) (service : Service δ) : Progress × Service δ :=
  match service.openSession number { settings.codes with modem := some path } false with
  | (.error failure, service) => (.failed failure, service)
  | (.ok session, service) => (.opened (adjust session) pending, service)

/-- A SIM that waits for no code needs no session. -/
def unlock (number : Nat) (settings : Settings) (path : ModemPath) (service : Service δ) :
    Progress × Service δ :=
  let status := ((service.board.sim? path).map (·.status)).getD .unknown
  if status.needsCode then openSession number settings path (.unlocking path) id service
  else (.done (.ok s!"SIM on {path} needs no code ({status})"), service)

def subscribeAll (service : Service δ) (listener : Listener) :
    List Topic → Except Failure (List Subscription) × Service δ
  | [] => (.ok [], service)
  | topic :: rest =>
    match service.subscribe topic listener with
    | (.error failure, service) => (.error failure, service)
    | (.ok subscription, service) =>
      match subscribeAll service listener rest with
      | (.error failure, service) => (.error failure, service)
      | (.ok others, service) => (.ok (subscription :: others), service)

/-- Begins a command. The number stands for it wherever something is asked for on its behalf: it is
the ticket of its request, the number of its session, and its name as a listener. -/
def begin (number : Nat) (settings : Settings) (service : Service δ) :
    Invocation → Progress × Service δ
  | .listModems =>
    match ready service with
    | (.error error, service) => (.fail error, service)
    | (.ok (), service) =>
      let modems := service.board.paths.filterMap fun path =>
        (service.board.modem? path).map (path, ·)
      (.done (.ok ((Report.ofModems modems).render settings.format)), service)
  | .modemInfo modem => onModem service modem fun path service =>
    (.ofState settings.format s!"Modem {path} disappeared" (.ofModem path)
      (service.board.modem? path), service)
  | .switch switch on modem => onModem service modem fun path service =>
    let (result, service) := service.setSwitch path switch on
    (.ofUnit (switchedText path switch on) result, service)
  | .simStatus modem => onModem service modem fun path service =>
    (.ofState settings.format s!"Modem {path} has no SIM manager" (.ofSim path)
      (service.board.sim? path), service)
  | .unlock modem => onModem service modem fun path service => unlock number settings path service
  | .changePin modem => onModem service modem fun path service =>
    openSession number settings path (.changing path) (·.post (.changeCode number)) service
  | .lock on pin modem => onModem service modem fun path service =>
    let (result, service) :=
      if on then service.lockPin path .pin pin else service.unlockPin path .pin pin
    (.ofUnit (lockedText path on) result, service)
  | .networkStatus modem => onModem service modem fun path service =>
    (.ofState settings.format s!"Modem {path} is not registered with a network" (.ofNetwork path)
      (service.board.network? path), service)
  | .operators scan modem => onModem service modem fun path service =>
    let (accepted, service) := service.listOperators path scan ⟨number⟩
    (.ofAccepted (.listing path) accepted, service)
  | .select target modem => onModem service modem fun path service =>
    if target = "auto" then
      let (result, service) := service.registerAutomatically path
      (.ofUnit s!"Modem {path} selects its operator automatically" result, service)
    else
      let (accepted, service) := service.listOperators path false ⟨number⟩
      (.ofAccepted (.selection path target) accepted, service)
  | .dataStatus modem => onModem service modem fun path service =>
    (.ofState settings.format s!"Modem {path} has no connection manager" (.ofData path)
      (service.board.data? path), service)
  | .service request modem => onModem service modem fun path service =>
    let (accepted, service) := service.request path request ⟨number⟩
    (.ofAccepted (.reply path request) accepted, service)
  | .watch limit =>
    match subscribeAll service (.command number) [.modem, .sim, .network, .data, .codeQuery] with
    | (.error failure, service) => (.failed failure, service)
    | (.ok subscriptions, service) => (.waits (.watching subscriptions limit), service)

/-! ### Going on -/

/-- The answer to a request; a request that was dropped counts as canceled. -/
def operatorsOf : Option Answer → Except Failure (List Network.Operator)
  | some (.operators result) => result
  | _ => .error .canceled

def replyOf : Option Answer → Except Failure ServiceReply
  | some (.reply result) => result
  | _ => .error .canceled

def selectAmong (service : Service δ) (path : ModemPath) (target : String)
    (operators : List Network.Operator) : Except CommandError String × Service δ :=
  match operators.find? (·.isMeantBy target) with
  | none => (.error (.invalidArgument "operator" s!"No known operator matches '{target}'"), service)
  | some operator =>
    match service.selectOperator path operator with
    | (.error failure, service) => (.error (.ofFailure failure), service)
    | (.ok (), service) => (.ok s!"Modem {path} registered on {operator.name}", service)

/-- The report on a reply, as the kind of request wants it read. -/
def reportReply (path : ModemPath) (request : ServiceRequest) (reply : ServiceReply) :
    Except Failure Report :=
  match request with
  | .queryWaiting | .setWaiting _ => (CallWaiting.ofReply reply).map (.ofWaiting path)
  | .queryForwarding | .register _ _ | .erase _ =>
    (CallForwarding.ofReply reply).map (.ofForwarding path)

/-- The result of a command whose request has been answered. -/
def answered (settings : Settings) (service : Service δ) (answer : Option Answer) :
    Pending → Except CommandError String × Service δ
  | .selection path target =>
    match operatorsOf answer with
    | .error failure => (.error (.ofFailure failure), service)
    | .ok operators => selectAmong service path target operators
  | .reply path request =>
    ((do return (← reportReply path request (← replyOf answer)).render settings.format).mapError
      .ofFailure, service)
  | _ =>
    (((operatorsOf answer).map fun operators =>
      (Report.ofOperators operators).render settings.format).mapError .ofFailure, service)

omit [Daemon δ] in
/-- The result of unlocking, from where the session stands in the end. -/
def unlockResult (path : ModemPath) (session : CodeSession) : Except CommandError String :=
  match session.stage with
  | .ok => .ok s!"SIM on {path} unlocked ({session.retries} code(s) rejected)"
  | .simError => .error (.service "SIM" "SIM cannot be used")
  | _ => .error (.service "SIM" "Code entry cancelled")

omit [Daemon δ] in
def changeResult (path : ModemPath) (result : Except Failure Unit) :
    Except CommandError String :=
  (result.map fun _ => s!"PIN changed on {path}").mapError .ofFailure

def closeAll (service : Service δ) (subscriptions : List Subscription) : Service δ :=
  subscriptions.foldl (fun service subscription => (service.close subscription).2) service

end Run

end Telephony.Console

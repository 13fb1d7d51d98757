import Telephony.CodeSession.Open
import Telephony.Console.Run
import Telephony.Console.Terminal
import Telephony.Console.Watch
import Telephony.Scenario.Outcome
import Telephony.Scenario.Shell

/-!
# The world of a scenario

The service on its rig, together with everyone who uses it: the code sessions, the commands under
way, and the script, which waits for some of its steps. `quiesce` lets them all run until each waits
for something that only a later step can bring.

They take turns. Sessions go first, as far as they get without waiting; then the service takes in
what the daemon has sent; then calls under way proceed; then those who wait look whether what they
wait for is there; and only when none of this is left a session wakes up that waits for the service
to settle, for a command, or for a line of input.
-/

namespace Telephony.Scenario

open Console (CommandError)

/-- Who answers the dialogs of a session: the script, or whoever types at the terminal. Of the input
that a terminal has read, the lines not used yet are kept. -/
inductive Owner where
  | script
  | terminal (lines : List String)
  deriving DecidableEq, Repr

structure OpenSession where
  number : Nat
  owner : Owner
  session : CodeSession

/-- A command of the console under way. Its number is also that of its session. -/
structure RunningCommand where
  number : Nat
  settings : Console.Settings
  pending : Console.Pending
  news : List (ModemPath × News)

inductive Reading where
  | asItIs
  | asWaiting
  | asForwarding
  | asOperators
  deriving DecidableEq, Repr

inductive Goal where
  /-- An answer. If nobody is left to give it, a step that waits for it is canceled, and one that
  was only to be told of it is forgotten. -/
  | answer (ticket : Ticket) (reading : Reading) (awaited : Bool)
  | settledStage (session : Nat)
  | change (session number : Nat)
  | command (number : Nat)
  deriving DecidableEq, Repr

structure Wait where
  step : StepId
  goal : Goal
  deriving DecidableEq, Repr

structure Log where
  /-- Outcomes, each with whether the step itself waited for it. -/
  done : List (StepId × Bool × Outcome)
  seen : List Sighting
  displays : List Display
  output : String
  errors : String

def Log.empty : Log := ⟨[], [], [], "", ""⟩

structure World where
  service : Service Rig
  /-- The last number given to a ticket, a session or a command. -/
  numbers : Nat
  sessions : List OpenSession
  commands : List RunningCommand
  waits : List Wait
  /-- The script's session. -/
  own : Option Nat
  /-- What the script answers to dialogs. -/
  answers : List (Option String)
  /-- Whether dialogs stay open when no answer is left. -/
  hold : Bool
  subscriptions : List (String × Subscription)
  /-- Whether the script follows the list of modems, and the version that it saw last. -/
  following : Option (Option Nat)
  /-- What can be read from the standard input. -/
  input : String
  codes : CodeOptions
  log : Log

namespace World

def new (codes : CodeOptions) : World where
  service := .stopped .empty
  numbers := 0
  sessions := []
  commands := []
  waits := []
  own := none
  answers := []
  hold := false
  subscriptions := []
  following := none
  input := ""
  codes
  log := .empty

def fresh (world : World) : Nat × World :=
  (world.numbers + 1, { world with numbers := world.numbers + 1 })

def rig (world : World) : Rig := world.service.daemon

def board (world : World) : Switchboard := world.service.board

def setRig (world : World) (rig : Rig) : World :=
  { world with service := { world.service with daemon := rig } }

def write (world : World) (text : String) : World :=
  { world with log := { world.log with output := world.log.output ++ text } }

def writeError (world : World) (text : String) : World :=
  { world with log := { world.log with errors := world.log.errors ++ text } }

def await (world : World) (step : StepId) (goal : Goal) : World :=
  { world with waits := world.waits ++ [⟨step, goal⟩] }

def finish (world : World) (wait : Wait) (awaited : Bool) (outcome : Outcome) : World :=
  { world with
    waits := world.waits.filter (· != wait)
    log := { world.log with done := world.log.done ++ [(wait.step, awaited, outcome)] } }

/-! ### Sessions -/

def session? (world : World) (number : Nat) : Option OpenSession :=
  world.sessions.find? (·.number == number)

def ownSession? (world : World) : Option OpenSession := world.own.bind world.session?

def putSession (world : World) (opened : OpenSession) : World :=
  { world with
    sessions := world.sessions.map fun other =>
      if other.number = opened.number then opened else other }

def removeSession (world : World) (number : Nat) : World :=
  { world with sessions := world.sessions.filter (·.number != number) }

/-- Shows something to whoever answers for the session. -/
def showTo (world : World) (opened : OpenSession) (shown : Shown) : World :=
  match opened.owner with
  | .script =>
    { world with log := { world.log with displays := world.log.displays ++
        [⟨shown, opened.session.stage, opened.session.retries⟩] } }
  | .terminal _ =>
    match shown with
    | .dialog dialog => world.writeError (Console.Terminal.prompt dialog)
    | .notice notice => world.writeError (Console.Terminal.notice notice)

/-- Ends the command that waits for a change of the PIN, and whatever waits for that command. -/
def endCommand (world : World) (number : Nat) (result : Except CommandError String) : World :=
  let world := { world with commands := world.commands.filter (·.number != number) }
  (world.waits.filter (·.goal == .command number)).foldl
    (fun world wait => world.finish wait true (.command result)) world

/-- Closes the session of a command, and stops the service if nothing else needs it. -/
def closeSession (world : World) (number : Nat) : World :=
  match world.session? number with
  | none => world
  | some opened =>
    { world.removeSession number with service := world.service.closeSession opened.session }

/-- Tells the outcome of a change of the PIN to the step or the command that waits for it. -/
def tellChange (world : World) (session number : Nat) (result : Except Failure Unit) : World :=
  let world := (world.waits.filter (·.goal == .change session number)).foldl
    (fun world wait => world.finish wait true (.result (result.map fun _ => .unit))) world
  match world.commands.find? (·.number == number) with
  | some ⟨_, _, .changing path, _⟩ =>
    (world.closeSession session).endCommand number (Console.changeResult path result)
  | _ => world

/-- Gives to the outside what a session has to say. -/
def emit (world : World) (opened : OpenSession) : CodeSession.Output → World
  | .notice notice => world.showTo opened (.notice notice)
  | .changed number result => world.tellChange opened.number number result

/-- The session after a step of its own: what it says is heard, and a dialog that it has put up is
shown. -/
def advance (world : World) (opened : OpenSession)
    (stepped : CodeSession × List CodeSession.Output) : World :=
  let opened := { opened with session := stepped.1 }
  let world := stepped.2.foldl (fun world output => world.emit opened output)
    (world.putSession opened)
  match opened.session.phase.dialog? with
  | some dialog => world.showTo opened (.dialog dialog)
  | none => world

def submit (world : World) (opened : OpenSession) (attempt : CodeSession.Attempt) : World :=
  let (result, service) := world.service.attempt attempt
  { world with service }.advance opened (opened.session.attempted service.board result)

/-- A step that a session can make without waiting. -/
def stepSession? (world : World) (opened : OpenSession) : Option World :=
  match opened.session.phase, opened.owner with
  | .submitting attempt, _ => some (world.submit opened attempt)
  | .asking _ _ _, .script =>
    match world.answers with
    | code :: rest =>
      some ({ world with answers := rest }.advance opened (opened.session.answer code))
    | [] => if world.hold then none else some (world.advance opened (opened.session.answer none))
  | _, _ => (opened.session.next world.board).map (world.advance opened)

/-- The service takes in everything that the daemon has sent. -/
def settle (world : World) : World := { world with service := world.service.settle }

/-- The next line that a terminal reads. The first reading takes all the input there is. -/
def readLine (world : World) : List String → Option String × List String × World
  | line :: rest => (some line, rest, world)
  | [] =>
    let lines := Console.Terminal.linesOf world.input
    (lines.head?, lines.tail, { world with input := "" })

/-- Wakes a session that waits for the service to settle, for a command, or for a line of input. -/
def wakeSession? (world : World) (opened : OpenSession) : Option World :=
  match opened.session.phase, opened.owner with
  | .settlingQuery _, _ | .settlingRefusal _ _, _ =>
    let world := world.settle
    some (world.advance opened (opened.session.settled world.board))
  | .runningCommand command _, _ =>
    let transcript := Shell.run command
    some (((world.write transcript.output).writeError transcript.errors).advance opened
      opened.session.commandEnded)
  | .asking _ _ _, .terminal lines =>
    let (line, lines, world) := world.readLine lines
    some (world.advance { opened with owner := .terminal lines }
      (opened.session.answer (Console.Terminal.answer line)))
  | _, _ => none

/-! ### News -/

/-- Passes on what was heard: to the script, to a session as a note, to a command that watches. -/
def hear (world : World) (hearing : Hearing) : World :=
  match hearing.listener with
  | .caller name =>
    { world with log := { world.log with seen := world.log.seen ++
        [⟨name, hearing.path, hearing.news, hearing.known⟩] } }
  | .session number =>
    match world.session? number, CodeSession.noteOf hearing.path hearing.news with
    | some opened, some note =>
      world.putSession { opened with session := opened.session.post note }
    | _, _ => world
  | .command number =>
    { world with commands := world.commands.map fun command =>
        if command.number = number then
          { command with news := command.news ++ [(hearing.path, hearing.news)] }
        else command }

def hearAll (world : World) : World :=
  world.service.heard.foldl hear { world with service := { world.service with heard := [] } }

/-! ### Those who wait -/

def heldTickets (world : World) : List Ticket :=
  (world.board.modems.values.flatMap fun entry => entry.requests.queue.map (·.ticket)) ++
    world.service.jobs.filterMap Job.ticket?

inductive TicketState where
  | open
  | answered (answer : Answer)
  | lost

def ticketState (world : World) (ticket : Ticket) : TicketState :=
  match world.service.answered.find? (·.1 == ticket) with
  | some (_, answer) => .answered answer
  | none => if world.heldTickets.contains ticket then .open else .lost

def forgetAnswer (world : World) (ticket : Ticket) : World :=
  { world with service := { world.service with
      answered := world.service.answered.filter (·.1 != ticket) } }

def read (answer : Answer) : Reading → Except Failure Payload
  | .asItIs => (Console.replyOf (some answer)).map .reply
  | .asWaiting => do return .flag (← CallWaiting.ofReply (← Console.replyOf (some answer)))
  | .asForwarding => do
    return .forwarding (← CallForwarding.ofReply (← Console.replyOf (some answer)))
  | .asOperators => (Console.operatorsOf (some answer)).map .operators

def poll? (world : World) (wait : Wait) : Option World :=
  match wait.goal with
  | .answer ticket reading awaited =>
    match world.ticketState ticket with
    | .open => none
    | .answered answer =>
      some ((world.finish wait awaited (.result (read answer reading))).forgetAnswer ticket)
    | .lost =>
      if awaited then some (world.finish wait true (.result (.error .canceled)))
      else some { world with waits := world.waits.filter (· != wait) }
  | .settledStage number =>
    (world.session? number).bind fun opened =>
      if opened.session.stage.isSettled then
        some (world.finish wait true (.stage opened.session.stage))
      else none
  | .change _ _ | .command _ => none

def putCommand (world : World) (command : RunningCommand) : World :=
  { world with commands := world.commands.map fun other =>
      if other.number = command.number then command else other }

/-- The time at which a line of a watching command is written; it is not told in a scenario. -/
def now : String := "<at>"

/-- A command that watches writes its next line, or ends when it has written as many as it may. -/
def watchNext? (world : World) (command : RunningCommand) (subscriptions : List Subscription)
    (left : Option Nat) : Option World :=
  if left = some 0 then
    some ({ world with service := Console.closeAll world.service subscriptions }.endCommand
      command.number (.ok ""))
  else
    match command.news with
    | [] => none
    | (path, news) :: rest =>
      let line := Console.Watch.line now path news command.settings.format
      some ((world.write (line ++ "\n")).putCommand
        { command with
          news := rest
          pending := .watching subscriptions (left.map (· - 1)) })

/-- Goes on with a command whose ticket is answered or lost. -/
def answerCommand (world : World) (command : RunningCommand) (answer : Option Answer) : World :=
  let (result, service) := Console.answered command.settings world.service answer command.pending
  ({ world with service }.forgetAnswer ⟨command.number⟩).endCommand command.number result

/-- Takes a command a step further, if it can be. -/
def stepCommand? (world : World) (command : RunningCommand) : Option World :=
  match command.pending with
  | .watching subscriptions left => world.watchNext? command subscriptions left
  | .changing _ => none
  | .unlocking path =>
    (world.session? command.number).bind fun opened =>
      if opened.session.stage.isSettled then
        some ((world.closeSession command.number).endCommand command.number
          (Console.unlockResult path opened.session))
      else none
  | .listing _ | .selection _ _ | .reply _ _ =>
    match world.ticketState ⟨command.number⟩ with
    | .open => none
    | .answered answer => some (world.answerCommand command (some answer))
    | .lost => some (world.answerCommand command none)

/-! ### Turns -/

/-- Gives every call under way its turns; none if no call gets any further. -/
def runJobs? (world : World) : Option World :=
  let service := world.service.runJobs
  if service.jobs = world.service.jobs ∧
      service.answered.length = world.service.answered.length then none
  else some { world with service }

/-- The service wakes up if the daemon has sent something. -/
def receive? (world : World) : Option World :=
  if world.service.running && !world.rig.simulator.outbox.isEmpty then some world.settle else none

/-- One turn, of whoever comes first and can move. -/
def turn? (world : World) : Option World :=
  world.sessions.findSome? world.stepSession? <|>
    world.receive? <|>
    world.runJobs? <|>
    world.waits.findSome? world.poll? <|>
    world.commands.findSome? world.stepCommand? <|>
    world.sessions.findSome? world.wakeSession?

/-- Gives turns while anyone can move, at most `fuel` of them. -/
def run : Nat → World → World
  | 0, world => world
  | fuel + 1, world =>
    let world := world.hearAll
    match world.turn? with
    | some next => run fuel next
    | none => world

/-- More turns than a step can set off. -/
def turnLimit : Nat := 1000000

def quiesce (world : World) : World := world.run turnLimit

end World

end Telephony.Scenario

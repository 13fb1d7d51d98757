import Telephony.Scenario.World

/-!
# Steps

What a script can do: change what the simulated daemon has, use the service, use a code session, and
type a command line. Each step is carried out at once as far as it goes without anyone else moving;
a step that has to wait leaves a wait behind.
-/

namespace Telephony.Scenario

/-! ### The daemon -/

/-- Events that are sent to the service behind the simulator's back. -/
inductive Injection where
  | added
  | removed
  | changed
  deriving DecidableEq, Repr

structure RawProperty where
  interface : Interface
  name : String
  value : Wire.Value

inductive DaemonStep where
  | addModem (path : ModemPath) (interfaces : List Interface)
  | removeModem (path : ModemPath)
  | setInterfaces (path : ModemPath) (interfaces : List Interface)
  | update (path : ModemPath) (property : RawProperty)
  | lockSim (path : ModemPath) (pin : String) (retries : UInt8)
  | setOperators (operators : List Network.Operator)
  | failInterface (interface : Interface)
  | hold (on : Bool)
  | dialled
  | registered
  | isWatched (path : ModemPath) (interface : Interface)
  | failConnect (on : Bool)
  | failProperties (interface : Interface) (on : Bool)
  | inject (injection : Injection) (path : ModemPath) (properties : List RawProperty)

namespace World

def setSimulator (world : World) (simulator : Simulator) : World :=
  world.setRig { world.rig with simulator }

/-- A change of the simulator that may be refused. -/
def script (world : World) (result : Except Failure Simulator) : Outcome × World :=
  match result with
  | .ok simulator => (.result (.ok .unit), world.setSimulator simulator)
  | .error failure => (.result (.error failure), world)

def injected (path : ModemPath) (changes : List Change) : Injection → List Event
  | .added => [.modemAdded path changes]
  | .removed => [.modemRemoved path]
  | .changed => changes.map (.propertyChanged path)

def onDaemon (world : World) (step : DaemonStep) : Outcome × World :=
  let simulator := world.rig.simulator
  match step with
  | .addModem path interfaces => (.unit, world.setSimulator (simulator.addModem path interfaces))
  | .removeModem path => (.unit, world.setSimulator (simulator.removeModem path))
  | .setInterfaces path interfaces => world.script (simulator.setInterfaces path interfaces)
  | .update path ⟨interface, name, value⟩ =>
    world.script (simulator.update path interface name value)
  | .lockSim path pin retries => world.script (simulator.lockSim path pin retries)
  | .setOperators operators => (.unit, world.setSimulator { simulator with operators })
  | .failInterface interface => (.unit, world.setSimulator (simulator.failInterface interface))
  | .hold on => (.unit, world.setSimulator { simulator with held := on })
  | .dialled => (.dialled simulator.dialled, world)
  | .registered => (.registered simulator.registered, world)
  | .isWatched path interface => (.flag (simulator.isWatched path interface), world)
  | .failConnect on => (.unit, world.setRig { world.rig with unreachable := on })
  | .failProperties interface on =>
    let (changed, rig) := world.rig.setMute interface on
    (.flag changed, world.setRig rig)
  | .inject injection path properties =>
    let changes := properties.filterMap fun ⟨interface, name, value⟩ =>
      Change.decode interface name value
    (.injected simulator.connected changes,
      world.setSimulator ((injected path changes injection).foldl Simulator.send simulator))

end World

/-! ### The service -/

inductive ServiceStep where
  | start
  | stop
  | isRunning
  | settle
  | paths
  | defaultModem
  | view (path : ModemPath)
  | follow
  | subscribe (topic : Topic) (name : String)
  | close (name : String)
  | setSwitch (path : ModemPath) (switch : Switch) (on : Bool)
  | enterPin (path : ModemPath) (code : SecurityCode) (pin : String)
  | resetPin (path : ModemPath) (code : SecurityCode) (puk newPin : String)
  | changePin (path : ModemPath) (code : SecurityCode) (oldPin newPin : String)
  | lockPin (path : ModemPath) (code : SecurityCode) (pin : String)
  | unlockPin (path : ModemPath) (code : SecurityCode) (pin : String)
  | selectOperator (path : ModemPath) (operator : Network.Operator)
  | registerAutomatically (path : ModemPath)
  | listOperators (path : ModemPath) (scan : Bool) (awaited : Bool)
  | dial (path : ModemPath) (code : String)
  | request (path : ModemPath) (request : ServiceRequest) (awaited : Bool)
  | cancel (id : CallId)
  | beginSession
  | endSession

namespace World

def viewOf (board : Switchboard) (path : ModemPath) : View :=
  ⟨board.modem? path, board.sim? path, board.network? path, board.data? path⟩

/-- An operation of the service that is over at once. -/
def direct (world : World) (operation : Service Rig → Except Failure Unit × Service Rig) :
    Outcome × World :=
  let (result, service) := operation world.service
  (.result (result.map fun _ => .unit), { world with service })

/-- A request to the service, either awaited or answered later. -/
def submitted (world : World) (step : StepId) (reading : Reading) (awaited : Bool)
    (operation : Ticket → Service Rig → Except Failure CallId × Service Rig) : Outcome × World :=
  let (number, world) := world.fresh
  let (accepted, service) := operation ⟨number⟩ world.service
  let world := { world with service }
  match accepted with
  | .error failure =>
    (if awaited then .result (.error failure) else .accepted (.error failure), world)
  | .ok id =>
    (if awaited then .pending else .accepted (.ok id),
      world.await step (.answer ⟨number⟩ reading awaited))

def readingOf : ServiceRequest → Reading
  | .queryWaiting | .setWaiting _ => .asWaiting
  | .queryForwarding | .register _ _ | .erase _ => .asForwarding

def subscribe (world : World) (topic : Topic) (name : String) : Outcome × World :=
  match world.service.subscribe topic (.caller name) with
  | (.error failure, service) => (.result (.error failure), { world with service })
  | (.ok subscription, service) =>
    (.result (.ok (.subscribed topic)), { world with
      service
      subscriptions := (name, subscription) :: world.subscriptions })

def close (world : World) (name : String) : Outcome × World :=
  match world.subscriptions.lookup name with
  | none => (.result (.error .observerNotFound), world)
  | some subscription => world.direct (·.close subscription)

def onService (world : World) (id : StepId) (step : ServiceStep) : Outcome × World :=
  match step with
  | .start => world.direct (·.start)
  | .stop =>
    let (stopped, service) := world.service.stop
    (.flag stopped, { world with service })
  | .isRunning => (.flag world.service.running, world)
  | .settle => (.unit, world.settle)
  | .paths => (.paths world.board.paths, world)
  | .defaultModem => (.path world.board.defaultModem, world)
  | .view path => (.view (viewOf world.board path), world)
  | .follow => (.unit, { world with following := some none })
  | .subscribe topic name => world.subscribe topic name
  | .close name => world.close name
  | .setSwitch path switch on => world.direct (·.setSwitch path switch on)
  | .enterPin path code pin => world.direct (·.enterPin path code pin)
  | .resetPin path code puk newPin => world.direct (·.resetPin path code puk newPin)
  | .changePin path code oldPin newPin => world.direct (·.changePin path code oldPin newPin)
  | .lockPin path code pin => world.direct (·.lockPin path code pin)
  | .unlockPin path code pin => world.direct (·.unlockPin path code pin)
  | .selectOperator path operator => world.direct (·.selectOperator path operator)
  | .registerAutomatically path => world.direct (·.registerAutomatically path)
  | .listOperators path scan awaited =>
    world.submitted id .asOperators awaited fun ticket service =>
      service.listOperators path scan ticket
  | .dial path code =>
    world.submitted id .asItIs false fun ticket service => service.submit path code ticket
  | .request path request awaited =>
    world.submitted id (readingOf request) awaited fun ticket service =>
      service.request path request ticket
  | .cancel call =>
    let (cancellation, service) := world.service.cancel call
    (.cancellation cancellation, { world with service })
  | .beginSession => world.direct (·.beginSession)
  | .endSession => (.unit, { world with service := world.service.endSession })

end World

/-! ### A code session -/

inductive SessionStep where
  | start (options : CodeOptions) (startup : Bool) (answers : List (Option String)) (hold : Bool)
  | answer (code : Option String)
  | look
  | setActive (on : Bool)
  | checkEmergency (digits : String)
  | wait
  | change
  | destroy
  | drop

namespace World

/-- Opens the script's session. The answers are set aside for it, unless the script has a session
already. -/
def startSession (world : World) (options : CodeOptions) (startup : Bool)
    (answers : List (Option String)) (hold : Bool) : Outcome × World :=
  let world := if world.own.isSome then world else { world with answers, hold }
  let (number, world) := world.fresh
  match world.service.openSession number options startup with
  | (.error failure, service) => (.result (.error failure), { world with service })
  | (.ok session, service) =>
    (.result (.ok .unit), { world with
      service
      sessions := world.sessions ++ [⟨number, .script, session⟩]
      own := some number })

def Goal.concerns (number : Nat) : Goal → Bool
  | .settledStage session => session == number
  | .change session _ => session == number
  | .answer _ _ _ | .command _ => false

/-- Gives the script's session up; steps that wait for it are abandoned. -/
def giveUp (world : World) (opened : OpenSession) (service : Service Rig) : World :=
  { world.removeSession opened.number with
    service
    own := none
    waits := world.waits.filter fun wait => !Goal.concerns opened.number wait.goal }

/-- Without a session of the script there is nothing to do. -/
def withSession (world : World) (rest : OpenSession → Outcome × World) : Outcome × World :=
  match world.ownSession? with
  | some opened => rest opened
  | none => (.unit, world)

def onSession (world : World) (id : StepId) (step : SessionStep) : Outcome × World :=
  match step with
  | .start options startup answers hold => world.startSession options startup answers hold
  | .answer code =>
    match world.ownSession?.filter (·.session.phase.dialog?.isSome) with
    | some opened => (.delivered true, world.advance opened (opened.session.answer code))
    | none => (.delivered false, { world with answers := world.answers ++ [code] })
  | .look => world.withSession fun opened =>
    (.session opened.session.stage opened.session.retries opened.session.emergency, world)
  | .setActive on => world.withSession fun opened =>
    (.unit, world.putSession { opened with session := opened.session.setActive on })
  | .checkEmergency digits => world.withSession fun opened =>
    let (emergency, session) := opened.session.checkEmergency world.board digits
    (.flag emergency, world.putSession { opened with session })
  | .wait => world.withSession fun opened =>
    (.pending, world.await id (.settledStage opened.number))
  | .change => world.withSession fun opened =>
    let (number, world) := world.fresh
    (.pending, (world.putSession
      { opened with session := opened.session.post (.changeCode number) }).await id
        (.change opened.number number))
  | .destroy => world.withSession fun opened =>
    (.unit, world.giveUp opened (world.service.closeSession opened.session))
  | .drop => world.withSession fun opened =>
    (.unit, world.giveUp opened (world.service.releaseSession opened.session.subscriptions))

end World

/-! ### The console -/

inductive ConsoleStep where
  /-- A command line; with an input, it takes the place of what is left to be read. -/
  | line (category name : String) (arguments : List String) (format : Console.Format)
    (input : Option String)
  | shutdown

namespace World

/-- Enters a command that goes on in the background of its step. -/
def launch (world : World) (id : StepId) (command : RunningCommand) : World :=
  { world with commands := world.commands ++ [command] }.await id (.command command.number)

def runPlan (world : World) (id : StepId) (format : Console.Format) :
    Console.Plan → Outcome × World
  | .help text => (.command (.ok text), world)
  | .run invocation =>
    let (number, world) := world.fresh
    let settings : Console.Settings := ⟨format, world.codes⟩
    let (progress, service) := Console.begin number settings world.service invocation
    let world := { world with service }
    match progress with
    | .done result => (.command result, world)
    | .waits pending => (.pending, world.launch id ⟨number, settings, pending, []⟩)
    | .opened session pending =>
      let opened : OpenSession := ⟨number, .terminal [], session⟩
      (.pending, { world with sessions := world.sessions ++ [opened] }.launch id
        ⟨number, settings, pending, []⟩)

def onConsole (world : World) (id : StepId) (step : ConsoleStep) : Outcome × World :=
  match step with
  | .line category name arguments format input =>
    let world := { world with input := input.getD world.input }
    match Console.Plan.ofLine category name arguments with
    | .error error => (.command (.error error), world)
    | .ok plan => world.runPlan id format plan
  | .shutdown => (.unit, { world with service := world.service.stop.2 })

end World

end Telephony.Scenario

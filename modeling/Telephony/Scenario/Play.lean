import Telephony.Scenario.Step

/-!
# Playing a scenario

A scenario is a list of steps. Each is carried out, then everyone runs until nobody can move, and
then it is reported what came of it. The parts of a batch are carried out with nothing running in
between.
-/

namespace Telephony.Scenario

inductive Step where
  | daemon (step : DaemonStep)
  | service (step : ServiceStep)
  | session (step : SessionStep)
  | console (step : ConsoleStep)

/-- What is carried out before anyone else moves. -/
inductive Beat where
  | single (step : Step)
  | batch (steps : List Step)

namespace World

def perform (world : World) (id : StepId) : Step → Outcome × World
  | .daemon step => world.onDaemon step
  | .service step => world.onService id step
  | .session step => world.onSession id step
  | .console step => world.onConsole id step

def performAll (index : Nat) (world : World) : List (Step × Nat) → List (StepId × Outcome) × World
  | [] => ([], world)
  | (step, part) :: rest =>
    let id : StepId := ⟨index, some part⟩
    let (outcome, world) := world.perform id step
    let (outcomes, world) := performAll index world rest
    ((id, outcome) :: outcomes, world)

/-- The outcome that a step waited for, if it has come by now. -/
def resolved (world : World) (id : StepId) (outcome : Outcome) : Outcome :=
  match world.log.done.find? fun (step, awaited, _) => step == id && awaited with
  | some (_, _, late) => late
  | none => outcome

/-- The list of modems, if the script follows it and has not seen this version. -/
def rosterNews (world : World) : Option (List ModemPath) :=
  world.following.bind fun seen =>
    if seen = some world.service.roster.version then none else some world.service.roster.value

/-- Reports a step that was carried out under the index. -/
def report (world : World) (index : Nat) (outcome : Outcome) : Report where
  outcome
  done := (world.log.done.filterMap fun (step, awaited, late) =>
    if step.index == index && awaited then none else some (step, late)).mergeSort
      fun a b => a.1.before b.1
  seen := world.log.seen
  calls := world.rig.calls
  displays := world.log.displays
  roster := world.rosterNews
  output := world.log.output
  errors := world.log.errors

/-- What was reported is not reported again. -/
def reported (world : World) : World :=
  { world.setRig { world.rig with calls := [] } with
    log := .empty
    following := world.following.map fun _ => some world.service.roster.version }

def play (world : World) (index : Nat) (beat : Beat) : Report × World :=
  match beat with
  | .single step =>
    let id : StepId := ⟨index, none⟩
    let (outcome, world) := world.perform id step
    let world := world.quiesce
    (world.report index (world.resolved id outcome), world.reported)
  | .batch steps =>
    let (outcomes, world) := performAll index world steps.zipIdx
    let world := world.quiesce
    let outcome := .batch (outcomes.map fun (id, outcome) => world.resolved id outcome)
    (world.report index outcome, world.reported)

def playAll (world : World) : List (Beat × Nat) → List Report
  | [] => []
  | (beat, index) :: rest =>
    let (report, world) := world.play index beat
    report :: world.playAll rest

end World

def play (codes : CodeOptions) (beats : List Beat) : List Report :=
  (World.new codes).playAll beats.zipIdx

end Telephony.Scenario

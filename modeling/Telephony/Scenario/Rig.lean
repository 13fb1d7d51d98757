import Telephony.Simulator.Basic

/-!
# The rig

The simulated daemon of a scenario, with a gauge on it: the calls by which the service comes and
goes and looks at interfaces are written down, and two of them can be made to fail.
-/

namespace Telephony.Scenario

/-- A call that is written down, whether or not it succeeds. -/
inductive DaemonCall where
  | connect
  | disconnect
  | watch (path : ModemPath) (interface : Interface)
  | unwatch (path : ModemPath) (interface : Interface)
  | properties (path : ModemPath) (interface : Interface)
  deriving DecidableEq, Repr

structure Rig where
  simulator : Simulator
  /-- Whether the daemon cannot be reached. -/
  unreachable : Bool
  /-- The interfaces whose properties cannot be fetched. -/
  mute : List Interface
  calls : List DaemonCall

namespace Rig

def empty : Rig := ⟨.empty, false, [], []⟩

instance : Inhabited Rig := ⟨empty⟩

def note (rig : Rig) (call : DaemonCall) : Rig := { rig with calls := rig.calls ++ [call] }

def forward {α : Type} (rig : Rig) (operation : Simulator → α × Simulator) : α × Rig :=
  let (result, simulator) := operation rig.simulator
  (result, { rig with simulator })

def connect (rig : Rig) : Except Failure (List (ModemPath × List Change)) × Rig :=
  let rig := rig.note .connect
  if rig.unreachable then (.error (.initialization "daemon unreachable"), rig)
  else rig.forward Daemon.connect

def properties (path : ModemPath) (interface : Interface) (rig : Rig) :
    Except Failure (List Change) × Rig :=
  let rig := rig.note (.properties path interface)
  if rig.mute.contains interface then
    (.error (.operationFailed "get properties" "timed out"), rig)
  else rig.forward (Daemon.properties path interface)

/-- Makes the properties of an interface fail or not; tells whether this is a change. -/
def setMute (rig : Rig) (interface : Interface) (on : Bool) : Bool × Rig :=
  (rig.mute.contains interface != on,
    { rig with mute :=
        if on then interface :: rig.mute else rig.mute.filter (· != interface) })

instance : Daemon Rig where
  connect := connect
  disconnect rig := { rig.note .disconnect with simulator := Daemon.disconnect rig.simulator }
  receive rig := rig.forward Daemon.receive
  watch path interface rig :=
    (rig.note (.watch path interface)).forward (Daemon.watch path interface)
  unwatch path interface rig :=
    { rig.note (.unwatch path interface) with
      simulator := Daemon.unwatch path interface rig.simulator }
  properties := properties
  setSwitch path switch on rig := rig.forward (Daemon.setSwitch path switch on)
  enterPin path code pin rig := rig.forward (Daemon.enterPin path code pin)
  resetPin path code puk newPin rig := rig.forward (Daemon.resetPin path code puk newPin)
  changePin path code oldPin newPin rig := rig.forward (Daemon.changePin path code oldPin newPin)
  lockPin path code pin rig := rig.forward (Daemon.lockPin path code pin)
  unlockPin path code pin rig := rig.forward (Daemon.unlockPin path code pin)
  registerOperator operator rig := rig.forward (Daemon.registerOperator operator)
  registerAutomatically path rig := rig.forward (Daemon.registerAutomatically path)
  begin path errand rig := rig.forward (Daemon.begin path errand)
  poll path errand rig := rig.forward (Daemon.poll path errand)

end Rig

end Telephony.Scenario

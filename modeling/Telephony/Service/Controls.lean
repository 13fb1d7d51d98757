import Telephony.Service.Basic

/-!
# Controls

Switching a modem, its SIM codes, and the choice of an operator. A code must be well formed before
anything else is looked at, and the interface must be attached before the daemon is asked.
-/

namespace Telephony.Service

variable {δ : Type} [Daemon δ]

/-- Asks the daemon to do something, if the interface is attached. -/
def ask (service : Service δ) (path : ModemPath) (interface : Interface)
    (operation : δ → Except Failure Unit × δ) : Except Failure Unit × Service δ :=
  match service.board.require path interface with
  | .error failure => (.error failure, service)
  | .ok () =>
    let (result, daemon) := operation service.daemon
    (result, { service with daemon })

def setSwitch (service : Service δ) (path : ModemPath) (switch : Switch) (on : Bool) :
    Except Failure Unit × Service δ :=
  service.ask path switch.interface (Daemon.setSwitch path switch on)

/-- Refuses a text that is not well formed as the code. -/
def checkCode (code : SecurityCode) (text : String) : Except Failure Unit :=
  if code.accepts text then .ok ()
  else .error (.invalidInput "security code" s!"not a valid {code}")

/-- Asks the daemon something about SIM codes once the codes have been checked. -/
def askSim (service : Service δ) (path : ModemPath) (check : Except Failure Unit)
    (operation : δ → Except Failure Unit × δ) : Except Failure Unit × Service δ :=
  match check with
  | .error failure => (.error failure, service)
  | .ok () => service.ask path .simManager operation

def enterPin (service : Service δ) (path : ModemPath) (code : SecurityCode) (pin : String) :
    Except Failure Unit × Service δ :=
  service.askSim path (checkCode code pin) (Daemon.enterPin path code pin)

/-- Unblocks the SIM by a PUK and sets a new PIN. -/
def resetPin (service : Service δ) (path : ModemPath) (code : SecurityCode)
    (puk newPin : String) : Except Failure Unit × Service δ :=
  service.askSim path (checkCode code puk >>= fun _ => checkCode code.renewed newPin)
    (Daemon.resetPin path code puk newPin)

def changePin (service : Service δ) (path : ModemPath) (code : SecurityCode)
    (oldPin newPin : String) : Except Failure Unit × Service δ :=
  service.askSim path (checkCode code oldPin >>= fun _ => checkCode code newPin)
    (Daemon.changePin path code oldPin newPin)

def lockPin (service : Service δ) (path : ModemPath) (code : SecurityCode) (pin : String) :
    Except Failure Unit × Service δ :=
  service.askSim path (checkCode code pin) (Daemon.lockPin path code pin)

/-- Has the code no longer asked for at power-up. -/
def unlockPin (service : Service δ) (path : ModemPath) (code : SecurityCode) (pin : String) :
    Except Failure Unit × Service δ :=
  service.askSim path (checkCode code pin) (Daemon.unlockPin path code pin)

def selectOperator (service : Service δ) (path : ModemPath) (operator : Network.Operator) :
    Except Failure Unit × Service δ :=
  service.ask path .networkRegistration (Daemon.registerOperator operator.path)

def registerAutomatically (service : Service δ) (path : ModemPath) :
    Except Failure Unit × Service δ :=
  service.ask path .networkRegistration (Daemon.registerAutomatically path)

end Telephony.Service

import Telephony.Failure
import Telephony.Text.Decimal
import Telephony.Wire.Value

/-!
# Supplementary services

Call waiting and call forwarding: the service strings by which they are asked for and set, and the
replies of the network. A reply is a kind, an operation and a table of settings; the readers refuse
a reply of another kind.
-/

namespace Telephony

inductive Setting where
  | text (s : String)
  | number (n : UInt32)
  deriving DecidableEq, Repr

namespace Setting

def text? : Setting → Option String
  | .text s => some s
  | .number _ => none

def number? : Setting → Option UInt32
  | .number n => some n
  | .text _ => none

/-- A value that is neither a text nor a number of 32 bits is no setting. -/
def ofValue? (value : Wire.Value) : Option Setting :=
  match value.text? with
  | some s => some (.text s)
  | none => (value.natUpTo? (UInt32.size - 1)).map fun n => .number (UInt32.ofNat n)

def toJson : Setting → Json
  | .text s => .str s
  | .number n => .nat n.toNat

end Setting

structure ServiceReply where
  kind : String
  operation : String
  settings : Table String Setting
  deriving DecidableEq

namespace ServiceReply

/-- A dictionary with texts for keys, not itself in a variant; values that are no settings are left
out. -/
def settingsOf? : Wire.Value → Option (List (String × Setting))
  | .dict entries => do
    let entries ← Wire.Value.entriesWith? some entries
    return entries.filterMap fun (key, value) => (Setting.ofValue? value).map (key, ·)
  | _ => none

/-- A reply comes as a structure: the operation is its first field and the settings its last. -/
def ofValue? (kind : String) (value : Wire.Value) : Option ServiceReply :=
  match value.unwrap with
  | .struct fields => do
    let operation ← (← fields.head?).text?
    let settings ← settingsOf? (← fields.getLast?)
    return ⟨kind, operation, Table.ofList settings⟩
  | _ => none

def text? (reply : ServiceReply) (key : String) : Option String :=
  (reply.settings.get? key).bind Setting.text?

def expectKind (reply : ServiceReply) (kind : String) : Except Failure Unit :=
  if reply.kind = kind then .ok () else .error (.notRecognized reply.kind)

def toJson (reply : ServiceReply) : Json := .obj
  [("kind", .str reply.kind), ("operation", .str reply.operation),
    ("settings", .obj (reply.settings.entries.map fun (key, setting) => (key, setting.toJson)))]

end ServiceReply

inductive Condition where
  | busy
  | noReply
  | unreachable
  deriving DecidableEq, Repr

namespace Condition

def all : List Condition := [busy, noReply, unreachable]

def serviceCode : Condition → Nat
  | busy => 67
  | noReply => 61
  | unreachable => 62

def settingKey : Condition → String
  | busy => "VoiceBusy"
  | noReply => "VoiceNoReply"
  | unreachable => "VoiceNotReachable"

def ofName? : String → Option Condition
  | "busy" => some busy
  | "no-reply" => some noReply
  | "noreply" => some noReply
  | "unreachable" => some unreachable
  | "not-reachable" => some unreachable
  | _ => none

def label : Condition → String
  | busy => "busy"
  | noReply => "no-reply"
  | unreachable => "unreachable"

end Condition

/-- Where calls go under one condition; the time before a call counts as unanswered is in seconds.
-/
structure Forwarding where
  enabled : Bool
  number : String
  timeout : Option UInt32
  deriving DecidableEq, Repr

def Forwarding.toJson (forwarding : Forwarding) : Json := .obj
  [("enabled", .bool forwarding.enabled), ("number", .str forwarding.number),
    ("timeout", .ofOption (fun n => .nat n.toNat) forwarding.timeout)]

structure CallForwarding where
  busy : Forwarding
  noReply : Forwarding
  unreachable : Forwarding
  deriving DecidableEq, Repr

namespace CallForwarding

def condition (forwarding : CallForwarding) : Condition → Forwarding
  | .busy => forwarding.busy
  | .noReply => forwarding.noReply
  | .unreachable => forwarding.unreachable

/-- Calls are forwarded under a condition iff the reply has a number for it. -/
def conditionOf (reply : ServiceReply) (condition : Condition) : Forwarding :=
  let number := (reply.text? condition.settingKey).getD ""
  { enabled := number != "", number, timeout := none }

def ofReply (reply : ServiceReply) : Except Failure CallForwarding := do
  reply.expectKind "CallForwarding"
  let timeout := (reply.settings.get? "VoiceNoReplyTimeout").bind Setting.number?
  return {
    busy := conditionOf reply .busy
    noReply := { conditionOf reply .noReply with timeout }
    unreachable := conditionOf reply .unreachable }

def toJson (forwarding : CallForwarding) : Json := .obj
  [("busy", forwarding.busy.toJson), ("no_reply", forwarding.noReply.toJson),
    ("unreachable", forwarding.unreachable.toJson)]

end CallForwarding

namespace CallWaiting

def ofReply (reply : ServiceReply) : Except Failure Bool := do
  reply.expectKind "CallWaiting"
  return reply.text? "VoiceCallWaiting" == some "enabled"

end CallWaiting

/-! ### Service strings -/

/-- What can be asked of the supplementary services. -/
inductive ServiceRequest where
  | queryWaiting
  | setWaiting (on : Bool)
  | queryForwarding
  | register (condition : Condition) (number : String)
  | erase (condition : Condition)
  deriving DecidableEq, Repr

namespace ServiceRequest

/-- A number that can be dialled: up to twenty digits, behind a plus sign or not. -/
def isDialable (number : String) : Bool :=
  let digits := Text.unsigned number.toList
  digits.all Text.isDigit && 1 ≤ digits.length && digits.length ≤ 20

def notDialable (number : String) : Failure :=
  .invalidInput "forwarding number" s!"'{number}' is not a dialable number"

def code : ServiceRequest → String
  | queryWaiting => "*#43#"
  | setWaiting true => "*43#"
  | setWaiting false => "#43#"
  | queryForwarding => "*#004**11#"
  | register condition number => s!"**{condition.serviceCode}*{number}**11#"
  | erase condition => s!"##{condition.serviceCode}**11#"

/-- Only the number of a forwarding can be malformed. -/
def check : ServiceRequest → Except Failure Unit
  | register _ number => if isDialable number then .ok () else .error (notDialable number)
  | _ => .ok ()

end ServiceRequest

end Telephony

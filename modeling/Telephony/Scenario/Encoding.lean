import Telephony.Scenario.Outcome
import Telephony.Console.Terminal

/-!
# Reports as JSON

The reports on a scenario, for programs that read them. Lists with nothing in them are left out.
-/

namespace Telephony

def Topic.kind : Topic → String
  | .modem => "modem"
  | .sim => "sim"
  | .network => "net"
  | .data => "data"
  | .codeQuery => "code"

def Topic.title : Topic → String
  | .modem => "Modem"
  | .sim => "Sim"
  | .network => "NetReg"
  | .data => "ConnMgr"
  | .codeQuery => "CodeQuery"

namespace Scenario

def simToJson (state : Sim.State) : Json :=
  .obj [("status", state.status.toJson), ("state", state.toJson)]

def View.toJson (view : View) : Json := .obj
  [("modem", .ofOption Modem.State.toJson view.modem),
    ("sim", .ofOption simToJson view.sim),
    ("net", .ofOption Network.State.toJson view.network),
    ("data", .ofOption PacketData.State.toJson view.data)]

def Payload.toJson : Payload → Json
  | .unit => .null
  | .flag on => .bool on
  | .subscribed topic => .str topic.title
  | .operators found => .arr (found.map Network.Operator.toJson)
  | .reply received => received.toJson
  | .forwarding set => set.toJson

def pathsToJson (paths : List ModemPath) : Json := .arr (paths.map ModemPath.toJson)

def callIdToJson : Except Failure CallId → Json
  | .ok id => .obj [("call", .nat id.number.toNat)]
  | .error failure => failure.toJson

def cancellationToJson : Cancellation → Json
  | .signalled _ => .str "signalled"
  | .destroyed => .str "destroyed"
  | .unknown => .str "unknown"

mutual

def Outcome.toJson : Outcome → Json
  | .unit => .null
  | .flag on => .bool on
  | .result result => Failure.resultToJson Payload.toJson result
  | .command result => Console.CommandError.resultToJson result
  | .accepted call => callIdToJson call
  | .cancellation cancellation => cancellationToJson cancellation
  | .paths paths => pathsToJson paths
  | .path path => .ofOption ModemPath.toJson path
  | .dialled codes => .arr (codes.map fun (path, code) => .arr [path.toJson, .str code])
  | .registered operators => .strs operators
  | .view view => view.toJson
  | .injected sent changes =>
    .obj [("sent", .bool sent), ("decoded", .arr (changes.map Change.toJson))]
  | .session stage retries emergency => .obj
    [("state", .str stage.label), ("retries", .nat retries.toNat), ("emergency", .bool emergency)]
  | .stage stage => .str stage.label
  | .delivered now => .str (if now then "delivered" else "stored")
  | .batch outcomes => .arr (outcomesToJson outcomes)
  | .pending => .str "pending"

def outcomesToJson : List Outcome → List Json
  | [] => []
  | outcome :: rest => outcome.toJson :: outcomesToJson rest

end

/-- The state that news tell, and what else can be told from it. -/
def newsToJson : News → Json × Json
  | .modem state => (state.toJson, .null)
  | .sim state => (state.toJson, state.status.toJson)
  | .network state =>
    (state.toJson, .arr [state.rat.toJson, .nat state.bars, .bool state.hsdpa])
  | .data state => (state.toJson, .null)
  | .codeQuery status => (status.toJson, .bool status.needsCode)

def Sighting.toJson (sighting : Sighting) : Json :=
  let (state, derived) := newsToJson sighting.news
  .arr [.str sighting.name, .str sighting.news.topic.kind, sighting.path.toJson,
    .obj [("state", state), ("derived", derived), ("known", .bool sighting.known)]]

def DaemonCall.toJson : DaemonCall → Json
  | .connect => .strs ["connect"]
  | .disconnect => .strs ["disconnect"]
  | .watch path interface => .strs ["watch", path.text, interface.shortName]
  | .unwatch path interface => .strs ["unwatch", path.text, interface.shortName]
  | .properties path interface => .strs ["properties", path.text, interface.shortName]

def dialogName : CodeSession.Kind → String
  | .unlock code => "unlock:" ++ code.name
  | .currentPin => "current-pin"
  | .newPin => "new-pin"
  | .confirmPin => "confirm-pin"

def Shown.fields : Shown → List (String × Json)
  | .dialog d =>
    [("prompt", .str (dialogName d.kind)),
      ("attempts", .ofOption (fun (n : UInt8) => .nat n.toNat) d.attempts),
      ("message", .ofOption (fun message => .str message.text) d.message)]
  | .notice n => [("notice", .str n.text)]

def Display.toJson (display : Display) : Json := .obj (display.shown.fields ++
  [("state", .str display.stage.label), ("retries", .nat display.retries.toNat)])

def unlessEmpty (name : String) (items : List Json) : List (String × Json) :=
  if items.isEmpty then [] else [(name, .arr items)]

def linesToJson (text : String) : List Json := (Console.Terminal.linesOf text).map .str

def Report.toJson (report : Report) : Json := .obj
  ([("result", report.outcome.toJson)] ++
    unlessEmpty "done" (report.done.map fun (id, outcome) =>
      .arr [.str (toString id), outcome.toJson]) ++
    unlessEmpty "seen" (report.seen.map Sighting.toJson) ++
    unlessEmpty "bus" (report.calls.map DaemonCall.toJson) ++
    unlessEmpty "ui" (report.displays.map Display.toJson) ++
    (report.roster.map fun paths => ("modem_list", pathsToJson paths)).toList ++
    unlessEmpty "stdout" (linesToJson report.output) ++
    unlessEmpty "stderr" (linesToJson report.errors))

end Scenario

end Telephony

import Telephony.Console.Report
import Telephony.Switchboard.Observers

/-!
# Watching

One line for each piece of news: for people with the time of day in front, for programs as one JSON
object. The time is given from outside.
-/

namespace Telephony.Console.Watch

open Style

def word : News → String
  | .modem _ => "modem"
  | .sim _ => "sim"
  | .network _ => "net"
  | .data _ => "data"
  | .codeQuery _ => "code"

def summary : News → String
  | .modem state => if state.tracked then Report.powerLine state else "removed"
  | .sim state => state.status.label
  | .network state =>
    if state.tracked then s!"{state.status.label} {state.name} {state.strength}%" else "gone"
  | .data state =>
    if state.tracked then s!"attached {switch state.attached}, bearer {state.bearer.label}"
    else "gone"
  | .codeQuery status => s!"{status} requested"

def kind : News → String
  | .modem _ => "modem"
  | .sim _ => "sim"
  | .network _ => "net"
  | .data _ => "conn_mgr"
  | .codeQuery _ => "code_query"

/-- What the news tell, under the name of the field that holds it. -/
def payload : News → String × Json
  | .modem state => ("state", state.toJson)
  | .sim state => ("state", state.toJson)
  | .network state => ("state", state.toJson)
  | .data state => ("state", state.toJson)
  | .codeQuery status => ("status", status.toJson)

def line (time : String) (path : ModemPath) (news : News) : Format → String
  | .text =>
    s!"{description time} {Text.padRight 6 (category (word news))} {path} {summary news}"
  | .json =>
    (Json.obj [("at", .str time), ("kind", .str (kind news)), ("path", path.toJson),
      payload news]).compact

end Telephony.Console.Watch

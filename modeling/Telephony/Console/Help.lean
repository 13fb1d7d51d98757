import Telephony.Console.Command
import Telephony.Console.Style

/-!
# Help

The texts that tell which categories and which commands there are.
-/

namespace Telephony.Console

open Style

def help : String :=
  lines ([header programName, "", subheader "Usage:",
      s!"  {programName} [--json] " ++ usage "<category> <command> [args...]", "",
      subheader "Categories:"] ++
    catalogue.list.map fun (name, commands) =>
      "  " ++ Text.padRight 18 (category name) ++ " " ++ description (", ".intercalate commands))

def argumentUsage (argument : Argument) : String :=
  if argument.required then s!"<{argument.name}>" else s!"[{argument.name}]"

def commandHelp (metadata : Metadata) : List String :=
  ["  " ++ command metadata.name ++ " " ++
      usage (" ".intercalate (metadata.arguments.map argumentUsage)),
    "      " ++ description metadata.description] ++
    metadata.examples.map fun line => "      " ++ usage line

def categoryHelp (name : String) : Except CommandError String :=
  match catalogue.metadata? name with
  | none => .error (.categoryNotFound name)
  | some commands => .ok (lines (header s!"{name} commands" :: "" :: commands.flatMap commandHelp))

end Telephony.Console

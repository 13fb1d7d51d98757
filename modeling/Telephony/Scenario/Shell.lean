import Telephony.Text.Decimal

/-!
# A small shell

Enough of the shell's language to run the command that a user has set for accepted codes: simple
commands joined by `;`, `&&` and `||`, quoting, and redirection of the two outputs. A file that is
written to is lost. Of commands there are `echo`, `printf` with a plain text, `true`, `false`, `:`
and `exit`; any other is not found.
-/

namespace Telephony.Scenario.Shell

inductive Joint where
  | always
  | ifSucceeded
  | ifFailed
  deriving DecidableEq, Repr

inductive Sink where
  | output
  | errors
  | lost
  deriving DecidableEq, Repr

inductive Token where
  | word (text : List Char)
  | joint (joint : Joint)
  /-- Sends an output to the file that the next word names. -/
  | toFile (errors : Bool)
  | toSink (errors : Bool) (sink : Sink)
  deriving DecidableEq, Repr

inductive Quoting where
  | none
  | single
  | double
  deriving DecidableEq, Repr

/-- The word that has been begun, if any, as a token. -/
def flush : Option (List Char) → List Token
  | some chars => [.word chars.reverse]
  | none => []

/-- The characters so far, the last first, with one more. -/
def push (word : Option (List Char)) (c : Char) : Option (List Char) := some (c :: word.getD [])

/-- Which output a redirection is about: a digit right before it says so. -/
def redirected : Option (List Char) → List Token × Bool
  | some ['2'] => ([], true)
  | some ['1'] => ([], false)
  | word => (flush word, false)

def tokens : Quoting → Option (List Char) → List Char → List Token
  | _, word, [] => flush word
  | .single, word, '\x27' :: rest => tokens .none word rest
  | .single, word, c :: rest => tokens .single (push word c) rest
  | .double, word, '"' :: rest => tokens .none word rest
  | .double, word, '\\' :: '"' :: rest => tokens .double (push word '"') rest
  | .double, word, '\\' :: '\\' :: rest => tokens .double (push word '\\') rest
  | .double, word, c :: rest => tokens .double (push word c) rest
  | .none, word, '\x27' :: rest => tokens .single (some (word.getD [])) rest
  | .none, word, '"' :: rest => tokens .double (some (word.getD [])) rest
  | .none, word, '\\' :: c :: rest => tokens .none (push word c) rest
  | .none, word, '&' :: '&' :: rest => flush word ++ .joint .ifSucceeded :: tokens .none none rest
  | .none, word, '|' :: '|' :: rest => flush word ++ .joint .ifFailed :: tokens .none none rest
  | .none, word, '>' :: '&' :: '1' :: rest =>
    (redirected word).1 ++ .toSink (redirected word).2 .output :: tokens .none none rest
  | .none, word, '>' :: '&' :: '2' :: rest =>
    (redirected word).1 ++ .toSink (redirected word).2 .errors :: tokens .none none rest
  | .none, word, '>' :: '>' :: rest =>
    (redirected word).1 ++ .toFile (redirected word).2 :: tokens .none none rest
  | .none, word, '>' :: rest =>
    (redirected word).1 ++ .toFile (redirected word).2 :: tokens .none none rest
  | .none, word, c :: rest =>
    if c = ';' ∨ c = '\n' ∨ c = '&' then flush word ++ .joint .always :: tokens .none none rest
    else if c = ' ' ∨ c = '\t' then flush word ++ tokens .none none rest
    else tokens .none (push word c) rest

/-- A simple command with the sinks of its two outputs. -/
structure Simple where
  joint : Joint
  words : List String
  output : Sink
  errors : Sink
  deriving DecidableEq, Repr

namespace Simple

def blank (joint : Joint) : Simple := ⟨joint, [], .output, .errors⟩

def sink (command : Simple) : Sink → Sink
  | .output => command.output
  | .errors => command.errors
  | .lost => .lost

def redirect (command : Simple) (errors : Bool) (sink : Sink) : Simple :=
  if errors then { command with errors := sink } else { command with output := sink }

end Simple

def commands (current : Simple) : List Token → List Simple
  | [] => [current]
  | .word text :: rest =>
    commands { current with words := current.words ++ [String.ofList text] } rest
  | .joint joint :: rest => current :: commands (.blank joint) rest
  | .toFile errors :: .word _ :: rest => commands (current.redirect errors .lost) rest
  | .toFile errors :: rest => commands (current.redirect errors .lost) rest
  | .toSink errors sink :: rest => commands (current.redirect errors (current.sink sink)) rest

/-- What a run of commands has written, and the status of the last one. -/
structure Transcript where
  output : String
  errors : String
  status : Nat
  exited : Bool
  deriving DecidableEq, Repr

namespace Transcript

def write (transcript : Transcript) (text : String) : Sink → Transcript
  | .output => { transcript with output := transcript.output ++ text }
  | .errors => { transcript with errors := transcript.errors ++ text }
  | .lost => transcript

def ended (transcript : Transcript) (status : Nat) : Transcript := { transcript with status }

end Transcript

def echoed : List String → String
  | "-n" :: words => " ".intercalate words
  | words => " ".intercalate words ++ "\n"

/-- Runs a simple command unless its joint forbids it. -/
def Simple.run (transcript : Transcript) (command : Simple) : Transcript :=
  let due := match command.joint with
    | .always => true
    | .ifSucceeded => transcript.status == 0
    | .ifFailed => transcript.status != 0
  if transcript.exited || !due then transcript
  else
    match command.words with
    | [] => transcript
    | "echo" :: words => (transcript.write (echoed words) command.output).ended 0
    | "printf" :: words => (transcript.write (words.headD "") command.output).ended 0
    | ":" :: _ => transcript.ended 0
    | "true" :: _ => transcript.ended 0
    | "false" :: _ => transcript.ended 1
    | "exit" :: status =>
      { transcript with
        exited := true
        status := (status.head?.bind (Text.readNat? 255)).getD transcript.status }
    | name :: _ => (transcript.write s!"sh: 1: {name}: not found\n" command.errors).ended 127

def run (line : String) : Transcript :=
  (commands (.blank .always) (tokens .none none line.toList)).foldl Simple.run ⟨"", "", 0, false⟩

end Telephony.Scenario.Shell

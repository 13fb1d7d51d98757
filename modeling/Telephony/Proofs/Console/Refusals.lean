import Mathlib
import Telephony.Proofs.Console.Planning
import Telephony.Scenario.Rig
import Telephony.Settings.Basic

/-!
# Refused command lines

An error that finds fault with the line that was typed comes out of the planning of the line and of
nothing else, so it comes at once and nothing has been done: the daemon has not been called, and the
service is as it was. What fails later fails for another reason.
-/

namespace Telephony.Console

/-- The error finds fault with the line. That there is no such modem or no such operator is no fault
of it. -/
def CommandError.blamesLine : CommandError → Bool
  | commandNotFound _ | invalidArguments _ => true
  | invalidArgument argument _ => ["state", "scan", "condition", "count"].contains argument
  | config _ | service _ _ | output _ | io _ => false

/-- Whatever error there is finds fault with the line, or none does. -/
def Errs {α : Type} (onLine : Bool) (result : Except CommandError α) : Prop :=
  ∀ error, result = .error error → error.blamesLine = onLine

namespace Errs

variable {α β : Type} {onLine : Bool}

theorem ok (a : α) : Errs onLine (.ok a) := nofun

theorem of_error {error : CommandError} (hblames : error.blamesLine = onLine) :
    Errs onLine (.error error : Except CommandError α) := by
  rintro _ ⟨⟩
  exact hblames

theorem not_of_blamesLine {error : CommandError} (hblames : error.blamesLine = true) :
    ¬ Errs false (.error error : Except CommandError α) := by
  intro herrs
  exact Bool.false_ne_true ((herrs error rfl).symm.trans hblames)

theorem bind {x : Except CommandError α} {f : α → Except CommandError β} (hx : Errs onLine x)
    (hf : ∀ a, Errs onLine (f a)) : Errs onLine (x >>= f) := by
  intro error herror
  rcases bind_eq_error_iff.1 herror with hfirst | ⟨a, -, hrest⟩
  · exact hx error hfirst
  · exact hf a error hrest

theorem map {x : Except CommandError α} (hx : Errs onLine x) (f : α → β) :
    Errs onLine (x.map f) := by
  cases x with
  | error error => exact of_error (hx error rfl)
  | ok a => exact ok (f a)

end Errs

/-! ### Planning -/

namespace Invocation

theorem errs_readSwitch (word : String) : Errs true (readSwitch "state" word) := by
  unfold readSwitch
  split
  · exact .ok true
  · split
    · exact .ok false
    · exact .of_error rfl

theorem errs_required (argument : String) (given : Option String) :
    Errs true (required argument given) := by
  cases given with
  | none => exact .of_error rfl
  | some word => exact .ok word

theorem errs_readCondition (word : String) : Errs true (readCondition word) := by
  unfold readCondition
  split
  · exact .ok _
  · exact .of_error rfl

variable (arguments : List String)

theorem errs_readState (make : Bool → Option String → Invocation) :
    Errs true (readState make arguments) :=
  (errs_required _ _).bind fun word => (errs_readSwitch word).bind fun _ => .ok _

theorem errs_readLock : Errs true (readLock arguments) :=
  (errs_required _ _).bind fun word => (errs_readSwitch word).bind fun _ =>
    (errs_required _ _).bind fun _ => .ok _

theorem errs_readOperators : Errs true (readOperators arguments) := by
  unfold readOperators
  split
  · exact .ok _
  · exact .of_error rfl
  · exact .ok _

theorem errs_readSelect : Errs true (readSelect arguments) :=
  (errs_required _ _).bind fun _ => .ok _

theorem errs_readWaiting : Errs true (readWaiting arguments) := by
  unfold readWaiting
  split
  · next first _ =>
    split
    · exact .ok _
    · exact (errs_readSwitch first).bind fun _ => .ok _
  · exact .ok _

theorem errs_readForwarding : Errs true (readForwarding arguments) := by
  unfold readForwarding
  split
  · next first _ =>
    split
    · exact .ok _
    · exact (errs_readCondition first).bind fun _ => (errs_required _ _).bind fun _ => .ok _
  · exact .ok _

theorem errs_readWatch : Errs true (readWatch arguments) := by
  unfold readWatch
  split
  · exact .ok _
  · split
    · exact .ok _
    · exact .of_error rfl

theorem errs_read (command : Command) : Errs true (read command arguments) := by
  cases command with
  | modemList | modemInfo | simStatus | simUnlock | simChangePin | netStatus | dataStatus =>
    exact .ok _
  | modemPower | modemOnline | dataPower | dataRoaming => exact errs_readState arguments _
  | simLock => exact errs_readLock arguments
  | netOperators => exact errs_readOperators arguments
  | netSelect => exact errs_readSelect arguments
  | supsWaiting => exact errs_readWaiting arguments
  | supsForwarding => exact errs_readForwarding arguments
  | monitorWatch => exact errs_readWatch arguments

end Invocation

theorem errs_categoryHelp (category : String) : Errs true (categoryHelp category) := by
  unfold categoryHelp
  split
  · exact .of_error rfl
  · exact .ok _

theorem errs_checkCount (metadata : Metadata) (arguments : List String) :
    Errs true (metadata.checkCount arguments) := by
  unfold Metadata.checkCount
  dsimp only
  split
  · exact .of_error rfl
  · split
    · exact .of_error rfl
    · exact .ok ()

theorem errs_find {α : Type} (catalogue : Catalogue α) (category name : String) :
    Errs true (catalogue.find category name) := by
  unfold Catalogue.find
  split
  · exact .of_error rfl
  · split
    · exact .of_error rfl
    · exact .ok _

theorem errs_ofLine (category name : String) (arguments : List String) :
    Errs true (Plan.ofLine category name arguments) := by
  unfold Plan.ofLine
  split
  · split
    · exact .ok _
    · exact (errs_categoryHelp name).map _
  · split
    · exact (errs_categoryHelp category).map _
    · refine .bind ?_ fun command => (Invocation.errs_read arguments command).bind fun _ => .ok _
      exact (errs_find catalogue category name).bind fun found =>
        (errs_checkCount found.1 arguments).bind fun _ => .ok _

/-! ### Running -/

theorem errs_ofFailure {α : Type} (failure : Failure) :
    Errs false (.error (.ofFailure failure) : Except CommandError α) := .of_error rfl

/-- If a command is done with an error, the line is not to blame. -/
def Progress.Blameless : Progress → Prop
  | .done result => Errs false result
  | .waits _ | .opened _ _ => True

section

variable {δ : Type} [Daemon δ]

theorem errs_ready (service : Service δ) : Errs false (ready service).1 := by
  unfold ready
  split
  · exact errs_ofFailure _
  · exact .ok ()

theorem errs_chooseModem (board : Switchboard) (name : Option String) :
    Errs false (chooseModem board name) := by
  unfold chooseModem
  split
  · exact .of_error rfl
  · split
    · exact .ok _
    · exact .of_error rfl

theorem blameless_onModem (service : Service δ) (name : Option String)
    {rest : ModemPath → Service δ → Progress × Service δ}
    (hrest : ∀ path service, (rest path service).1.Blameless) :
    (onModem service name rest).1.Blameless := by
  have hready := errs_ready service
  unfold onModem
  split
  · next error service heq =>
    rw [heq] at hready
    exact Errs.of_error (hready error rfl)
  · next service _ =>
    have hchosen := errs_chooseModem service.board name
    split
    · next error heq =>
      rw [heq] at hchosen
      exact Errs.of_error (hchosen error rfl)
    · next path _ => exact hrest path service

theorem blameless_ofState {α : Type} (format : Format) (missing : String) (report : α → Report)
    (state : Option α) : (Progress.ofState format missing report state).Blameless := by
  cases state with
  | none => exact Errs.of_error rfl
  | some state => exact Errs.ok _

theorem blameless_ofUnit (text : String) (result : Except Failure Unit) :
    (Progress.ofUnit text result).Blameless := by
  cases result with
  | error failure => exact errs_ofFailure failure
  | ok _ => exact Errs.ok text

theorem blameless_ofAccepted (pending : Pending) (accepted : Except Failure CallId) :
    (Progress.ofAccepted pending accepted).Blameless := by
  cases accepted with
  | error failure => exact errs_ofFailure failure
  | ok _ => trivial

theorem blameless_openSession (number : Nat) (settings : Settings) (path : ModemPath)
    (pending : Pending) (adjust : CodeSession → CodeSession) (service : Service δ) :
    (openSession number settings path pending adjust service).1.Blameless := by
  unfold openSession
  split
  · exact errs_ofFailure _
  · trivial

theorem blameless_unlock (number : Nat) (settings : Settings) (path : ModemPath)
    (service : Service δ) : (unlock number settings path service).1.Blameless := by
  unfold unlock
  dsimp only
  split
  · exact blameless_openSession number settings path _ id service
  · exact Errs.ok _

theorem blameless_begin (number : Nat) (settings : Settings) (service : Service δ)
    (invocation : Invocation) : (begin number settings service invocation).1.Blameless := by
  cases invocation with
  | listModems =>
    have hready := errs_ready service
    simp only [begin]
    split
    · next error service heq =>
      rw [heq] at hready
      exact Errs.of_error (hready error rfl)
    · exact Errs.ok _
  | modemInfo modem | simStatus modem | networkStatus modem | dataStatus modem =>
    exact blameless_onModem service modem fun path service => blameless_ofState _ _ _ _
  | switch switch on modem =>
    exact blameless_onModem service modem fun path service => blameless_ofUnit _ _
  | lock on pin modem =>
    exact blameless_onModem service modem fun path service => blameless_ofUnit _ _
  | unlock modem =>
    exact blameless_onModem service modem (blameless_unlock number settings)
  | changePin modem =>
    exact blameless_onModem service modem fun path service =>
      blameless_openSession number settings path _ _ service
  | operators scan modem | service request modem =>
    exact blameless_onModem service modem fun path service => blameless_ofAccepted _ _
  | select target modem =>
    refine blameless_onModem service modem fun path service => ?_
    dsimp only
    split
    · exact blameless_ofUnit _ _
    · exact blameless_ofAccepted _ _
  | watch limit =>
    simp only [begin]
    split
    · exact errs_ofFailure _
    · trivial

/-! ### Going on -/

/-- What a command that waits can come out with, from the service as it is by then: the answer that
it waits for comes or is lost, its session stops asking or has changed the PIN, or it has told
enough news. -/
inductive Ends (settings : Settings) (service : Service δ) :
    Pending → Except CommandError String → Service δ → Prop
  | answered (pending : Pending) (answer : Option Answer) :
      Ends settings service pending (answered settings service answer pending).1
        (answered settings service answer pending).2
  | unlocked (path : ModemPath) (session : CodeSession) :
      Ends settings service (.unlocking path) (unlockResult path session)
        (service.closeSession session)
  | changed (path : ModemPath) (session : CodeSession) (result : Except Failure Unit) :
      Ends settings service (.changing path) (changeResult path result)
        (service.closeSession session)
  | told (subscriptions : List Subscription) (left : Option Nat) :
      Ends settings service (.watching subscriptions left) (.ok "") (closeAll service subscriptions)

theorem errs_mapError {α : Type} (result : Except Failure α) :
    Errs false (result.mapError CommandError.ofFailure) := by
  cases result with
  | error failure => exact errs_ofFailure failure
  | ok a => exact .ok a

theorem errs_selectAmong (service : Service δ) (path : ModemPath) (target : String)
    (operators : List Network.Operator) :
    Errs false (selectAmong service path target operators).1 := by
  unfold selectAmong
  split
  · exact .of_error rfl
  · split
    · exact errs_ofFailure _
    · exact .ok _

theorem errs_answered (settings : Settings) (service : Service δ) (answer : Option Answer)
    (pending : Pending) : Errs false (answered settings service answer pending).1 := by
  unfold answered
  split
  · next path target =>
    split
    · exact errs_ofFailure _
    · exact errs_selectAmong service path target _
  · exact errs_mapError _
  · exact errs_mapError _

omit [Daemon δ] in
theorem errs_unlockResult (path : ModemPath) (session : CodeSession) :
    Errs false (unlockResult path session) := by
  unfold unlockResult
  split
  · exact .ok _
  · exact .of_error rfl
  · exact .of_error rfl

theorem Ends.errs {settings : Settings} {service after : Service δ} {pending : Pending}
    {result : Except CommandError String} (hends : Ends settings service pending result after) :
    Errs false result := by
  cases hends with
  | answered pending answer => exact errs_answered settings service answer pending
  | unlocked path session => exact errs_unlockResult path session
  | changed path session result => exact errs_mapError _
  | told subscriptions left => exact .ok ""

/-! ### Lines -/

def Progress.pending? : Progress → Option Pending
  | .done _ => none
  | .waits pending | .opened _ pending => some pending

/-- A line that is typed while the service is as given comes out with a result, and the service is
then as given last. Whatever goes on while a command waits, others may do anything to the service
in the meantime. -/
inductive Executes (number : Nat) (settings : Settings) (category name : String)
    (arguments : List String) (service : Service δ) :
    Except CommandError String → Service δ → Prop
  | refused {error : CommandError} (hplan : Plan.ofLine category name arguments = .error error) :
      Executes number settings category name arguments service (.error error) service
  | helped {text : String} (hplan : Plan.ofLine category name arguments = .ok (.help text)) :
      Executes number settings category name arguments service (.ok text) service
  | atOnce {invocation : Invocation} {result : Except CommandError String} {after : Service δ}
      (hplan : Plan.ofLine category name arguments = .ok (.run invocation))
      (hbegin : begin number settings service invocation = (.done result, after)) :
      Executes number settings category name arguments service result after
  | later {invocation : Invocation} {pending : Pending} {result : Except CommandError String}
      {meantime after : Service δ}
      (hplan : Plan.ofLine category name arguments = .ok (.run invocation))
      (hbegin : (begin number settings service invocation).1.pending? = some pending)
      (hends : Ends settings meantime pending result after) :
      Executes number settings category name arguments service result after

variable {number : Nat} {settings : Settings} {category name : String} {arguments : List String}
  {service after : Service δ} {error : CommandError}

theorem Executes.refused_of_blamed (hblames : error.blamesLine = true)
    (hexecutes : Executes number settings category name arguments service (.error error) after) :
    Plan.ofLine category name arguments = .error error ∧ after = service := by
  have hblameless : ¬ Errs false (.error error : Except CommandError String) :=
    Errs.not_of_blamesLine hblames
  cases hexecutes with
  | refused hplan => exact ⟨hplan, rfl⟩
  | @atOnce invocation _ _ hplan hbegin =>
    have hbegun := blameless_begin number settings service invocation
    rw [hbegin] at hbegun
    exact absurd hbegun hblameless
  | later hplan hbegin hends => exact absurd hends.errs hblameless

/-- A line can come out at fault exactly if it cannot be planned. -/
theorem exists_blamed_iff :
    (∃ error after, error.blamesLine = true ∧
        Executes number settings category name arguments service (.error error) after) ↔
      ∃ error, Plan.ofLine category name arguments = .error error := by
  constructor
  · rintro ⟨error, after, hblames, hexecutes⟩
    exact ⟨error, (hexecutes.refused_of_blamed hblames).1⟩
  · rintro ⟨error, hplan⟩
    exact ⟨error, service, errs_ofLine category name arguments error hplan, .refused hplan⟩

/-- An error that finds fault with the line comes exactly from planning it, and leaves everything as
it was. The daemon may be one that writes down every call. -/
theorem executes_blamed_iff (hblames : error.blamesLine = true) :
    Executes number settings category name arguments service (.error error) after ↔
      Plan.ofLine category name arguments = .error error ∧ after = service := by
  constructor
  · exact Executes.refused_of_blamed hblames
  · rintro ⟨hplan, rfl⟩
    exact .refused hplan

end

theorem executes_blamed_iff_missing_number :
    (CommandError.invalidArguments "Missing argument 'number'").blamesLine = true ∧
      ∀ after : Service Scenario.Rig,
        Executes 1 ⟨.text, Telephony.Settings.defaultCodes⟩ "sups" "forwarding" ["busy"]
            (.stopped .empty) (.error (.invalidArguments "Missing argument 'number'")) after ↔
          after = .stopped .empty := by
  have hplan : Plan.ofLine "sups" "forwarding" ["busy"] =
      .error (.invalidArguments "Missing argument 'number'") := by cbv
  refine ⟨rfl, fun after => ?_⟩
  rw [executes_blamed_iff rfl]
  exact and_iff_right hplan

end Telephony.Console

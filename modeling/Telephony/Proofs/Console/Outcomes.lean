import Telephony.Proofs.Console.Refusals
import Telephony.Scenario.Play

/-!
# What comes out of typed lines

In a scenario a command may go on long after its line was typed, while everyone else moves too. What
comes out later than the line was typed is no fault of the line, and a line that is at fault has
left the world alone.
-/

namespace Telephony.Scenario

open Console (CommandError Errs Executes Plan)

/-- If a command came to this, its line is not to blame. -/
def Outcome.Blameless : Outcome → Prop
  | .command ended => Errs false ended
  | _ => True

namespace World

/-- No line is to blame for what came out later than it was typed. -/
def Blameless (world : World) : Prop := ∀ entry ∈ world.log.done, entry.2.2.Blameless

namespace Blameless

variable {world : World}

theorem of_done_eq {next : World} (hworld : world.Blameless)
    (hdone : next.log.done = world.log.done) : next.Blameless := by
  intro entry hentry
  rw [hdone] at hentry
  exact hworld entry hentry

theorem finish (hworld : world.Blameless) (wait : Wait) (awaited : Bool) {outcome : Outcome}
    (houtcome : outcome.Blameless) : (world.finish wait awaited outcome).Blameless := by
  intro entry hentry
  rcases List.mem_append.1 hentry with hold | hnew
  · exact hworld entry hold
  · rw [List.mem_singleton.1 hnew]
    exact houtcome

theorem foldl {α : Type} {f : World → α → World}
    (hf : ∀ world a, world.Blameless → (f world a).Blameless) (items : List α)
    (hworld : world.Blameless) : (items.foldl f world).Blameless := by
  induction items generalizing world with
  | nil => exact hworld
  | cons a rest ih => exact ih (hf world a hworld)

/-! ### Commands and sessions -/

theorem endCommand (hworld : world.Blameless) (number : Nat)
    {result : Except CommandError String} (hresult : Errs false result) :
    (world.endCommand number result).Blameless := by
  unfold World.endCommand
  apply foldl
  · intro world wait hworld
    exact hworld.finish wait true hresult
  · exact hworld

theorem closeSession (hworld : world.Blameless) (number : Nat) :
    (world.closeSession number).Blameless := by
  unfold World.closeSession
  split
  · exact hworld
  · exact hworld

theorem showTo (hworld : world.Blameless) (opened : OpenSession) (shown : Shown) :
    (world.showTo opened shown).Blameless := by
  apply hworld.of_done_eq
  unfold World.showTo
  split
  · rfl
  · cases shown <;> rfl

theorem tellChange (hworld : world.Blameless) (session number : Nat)
    (result : Except Failure Unit) : (world.tellChange session number result).Blameless := by
  have htold : ((world.waits.filter (·.goal == .change session number)).foldl
      (fun world wait => world.finish wait true (.result (result.map fun _ => .unit)))
      world).Blameless := by
    apply foldl
    · intro world wait hworld
      exact hworld.finish wait true trivial
    · exact hworld
  unfold World.tellChange
  dsimp only
  split
  · exact (htold.closeSession session).endCommand number (Console.errs_mapError _)
  · exact htold

theorem emit (hworld : world.Blameless) (opened : OpenSession) (output : CodeSession.Output) :
    (world.emit opened output).Blameless := by
  cases output with
  | notice notice => exact hworld.showTo opened _
  | changed number result => exact hworld.tellChange opened.number number result

theorem advance (hworld : world.Blameless) (opened : OpenSession)
    (stepped : CodeSession × List CodeSession.Output) :
    (world.advance opened stepped).Blameless := by
  have hheard : (stepped.2.foldl
      (fun world output => world.emit { opened with session := stepped.1 } output)
      (world.putSession { opened with session := stepped.1 })).Blameless :=
    foldl (fun _ output hworld => hworld.emit _ output) _ hworld
  unfold World.advance
  dsimp only
  split
  · exact hheard.showTo _ _
  · exact hheard

theorem submit (hworld : world.Blameless) (opened : OpenSession)
    (attempt : CodeSession.Attempt) : (world.submit opened attempt).Blameless := by
  unfold World.submit
  dsimp only
  apply advance
  exact hworld

theorem stepSession {opened : OpenSession} {next : World} (hworld : world.Blameless)
    (hstep : world.stepSession? opened = some next) : next.Blameless := by
  unfold World.stepSession? at hstep
  split at hstep
  · obtain rfl := Option.some.inj hstep
    exact hworld.submit opened _
  · split at hstep
    · obtain rfl := Option.some.inj hstep
      apply advance
      exact hworld
    · split at hstep
      · cases hstep
      · obtain rfl := Option.some.inj hstep
        exact hworld.advance opened _
  · obtain ⟨stepped, -, rfl⟩ := Option.map_eq_some_iff.1 hstep
    exact hworld.advance opened stepped

theorem readLine (hworld : world.Blameless) (lines : List String) :
    (world.readLine lines).2.2.Blameless := by
  cases lines with
  | nil => exact hworld
  | cons line rest => exact hworld

theorem wakeSession {opened : OpenSession} {next : World} (hworld : world.Blameless)
    (hwake : world.wakeSession? opened = some next) : next.Blameless := by
  unfold World.wakeSession? at hwake
  split at hwake
  · obtain rfl := Option.some.inj hwake
    apply advance
    exact hworld
  · obtain rfl := Option.some.inj hwake
    apply advance
    exact hworld
  · obtain rfl := Option.some.inj hwake
    apply advance
    exact hworld
  · obtain rfl := Option.some.inj hwake
    exact (hworld.readLine _).advance _ _
  · cases hwake

theorem answerCommand (hworld : world.Blameless) (command : RunningCommand)
    (answer : Option Answer) : (world.answerCommand command answer).Blameless := by
  unfold World.answerCommand
  dsimp only
  apply endCommand
  · exact hworld
  · exact Console.errs_answered command.settings world.service answer command.pending

theorem watchNext {command : RunningCommand} {subscriptions : List Subscription}
    {left : Option Nat} {next : World} (hworld : world.Blameless)
    (hnext : world.watchNext? command subscriptions left = some next) : next.Blameless := by
  unfold World.watchNext? at hnext
  split at hnext
  · obtain rfl := Option.some.inj hnext
    apply endCommand
    · exact hworld
    · exact .ok ""
  · split at hnext
    · cases hnext
    · obtain rfl := Option.some.inj hnext
      exact hworld

theorem stepCommand {command : RunningCommand} {next : World} (hworld : world.Blameless)
    (hstep : world.stepCommand? command = some next) : next.Blameless := by
  unfold World.stepCommand? at hstep
  split at hstep
  · exact hworld.watchNext hstep
  · cases hstep
  · next path _ =>
    obtain ⟨opened, -, hrest⟩ := Option.bind_eq_some_iff.1 hstep
    split at hrest
    · obtain rfl := Option.some.inj hrest
      exact (hworld.closeSession _).endCommand _ (Console.errs_unlockResult path opened.session)
    · cases hrest
  all_goals
    split at hstep
    · cases hstep
    · obtain rfl := Option.some.inj hstep
      exact hworld.answerCommand command _
    · obtain rfl := Option.some.inj hstep
      exact hworld.answerCommand command none

/-! ### Turns -/

theorem poll {wait : Wait} {next : World} (hworld : world.Blameless)
    (hpoll : world.poll? wait = some next) : next.Blameless := by
  unfold World.poll? at hpoll
  split at hpoll
  · next ticket reading awaited _ =>
    split at hpoll
    · cases hpoll
    · obtain rfl := Option.some.inj hpoll
      exact hworld.finish wait awaited trivial
    · split at hpoll
      · obtain rfl := Option.some.inj hpoll
        exact hworld.finish wait true trivial
      · obtain rfl := Option.some.inj hpoll
        exact hworld
  · obtain ⟨opened, -, hrest⟩ := Option.bind_eq_some_iff.1 hpoll
    split at hrest
    · obtain rfl := Option.some.inj hrest
      exact hworld.finish wait true trivial
    · cases hrest
  · cases hpoll
  · cases hpoll

theorem receive {next : World} (hworld : world.Blameless)
    (hreceive : world.receive? = some next) : next.Blameless := by
  unfold World.receive? at hreceive
  split at hreceive
  · obtain rfl := Option.some.inj hreceive
    exact hworld
  · cases hreceive

theorem runJobs {next : World} (hworld : world.Blameless) (hjobs : world.runJobs? = some next) :
    next.Blameless := by
  unfold World.runJobs? at hjobs
  dsimp only at hjobs
  split at hjobs
  · cases hjobs
  · obtain rfl := Option.some.inj hjobs
    exact hworld

theorem turn {next : World} (hworld : world.Blameless) (hturn : world.turn? = some next) :
    next.Blameless := by
  unfold World.turn? at hturn
  simp only [Option.orElse_eq_orElse, Option.orElse_eq_or, Option.or_eq_some_iff] at hturn
  rcases hturn with hstep | ⟨-, hreceive | ⟨-, hjobs | ⟨-, hpoll | ⟨-, hcommand | ⟨-, hwake⟩⟩⟩⟩⟩
  · obtain ⟨opened, -, hopened⟩ := List.exists_of_findSome?_eq_some hstep
    exact hworld.stepSession hopened
  · exact hworld.receive hreceive
  · exact hworld.runJobs hjobs
  · obtain ⟨wait, -, hwait⟩ := List.exists_of_findSome?_eq_some hpoll
    exact hworld.poll hwait
  · obtain ⟨command, -, hstep⟩ := List.exists_of_findSome?_eq_some hcommand
    exact hworld.stepCommand hstep
  · obtain ⟨opened, -, hopened⟩ := List.exists_of_findSome?_eq_some hwake
    exact hworld.wakeSession hopened

theorem hear (hworld : world.Blameless) (hearing : Hearing) : (world.hear hearing).Blameless := by
  apply hworld.of_done_eq
  unfold World.hear
  split
  · rfl
  · split <;> rfl
  · rfl

theorem hearAll (hworld : world.Blameless) : world.hearAll.Blameless :=
  foldl (fun _ hearing hworld => hworld.hear hearing) _ hworld

theorem run (fuel : Nat) (hworld : world.Blameless) : (world.run fuel).Blameless := by
  induction fuel generalizing world with
  | zero => exact hworld
  | succ fuel ih =>
    unfold World.run
    dsimp only
    split
    · next next hturn => exact ih (hworld.hearAll.turn hturn)
    · exact hworld.hearAll

/-! ### Beats -/

theorem runPlan (hworld : world.Blameless) (id : StepId) (format : Console.Format) (plan : Plan) :
    (world.runPlan id format plan).2.Blameless := by
  apply hworld.of_done_eq
  unfold World.runPlan
  split
  · rfl
  · dsimp only
    split <;> rfl

theorem onConsole (hworld : world.Blameless) (id : StepId) (step : ConsoleStep) :
    (world.onConsole id step).2.Blameless := by
  unfold World.onConsole
  split
  · dsimp only
    split
    · exact hworld
    · apply runPlan
      exact hworld
  · exact hworld

theorem resolved (hworld : world.Blameless) {id : StepId} {outcome : Outcome}
    (hfaulty : ¬ (world.resolved id outcome).Blameless) : world.resolved id outcome = outcome := by
  unfold World.resolved at hfaulty ⊢
  split at hfaulty
  · next step awaited late hfind =>
    exact absurd (hworld _ (List.mem_of_find?_eq_some hfind)) hfaulty
  · rfl

-- Every beat of a scenario starts from such a world: the first from `new`, the others from `play`.

theorem new (codes : CodeOptions) : (World.new codes).Blameless := nofun

theorem play (world : World) (index : Nat) (beat : Beat) : (world.play index beat).2.Blameless := by
  cases beat with
  | single step => exact nofun
  | batch steps => exact nofun

end Blameless

variable {world after : World} {id : StepId} {category name : String} {arguments : List String}
  {format : Console.Format} {input : Option String}

theorem executes_of_onConsole {result : Except CommandError String}
    (honce : world.onConsole id (.line category name arguments format input) =
      (.command result, after)) :
    Executes (world.numbers + 1) ⟨format, world.codes⟩ category name arguments world.service result
      after.service := by
  unfold World.onConsole at honce
  dsimp only at honce
  split at honce
  · next error hplan =>
    cases honce
    exact .refused hplan
  · next plan hplan =>
    cases plan with
    | help text =>
      cases honce
      exact .helped hplan
    | run invocation =>
      unfold World.runPlan at honce
      dsimp only [World.fresh] at honce
      split at honce
      · next ended hbegin =>
        cases honce
        exact .atOnce hplan (Prod.ext hbegin rfl)
      · cases honce
      · cases honce

/-- A line that is reported to be at fault was refused as it was typed. Everyone moves on from the
world as it was, but for the input to be read. -/
theorem play_blamed {index : Nat} {error : CommandError} (hworld : world.Blameless)
    (hblames : error.blamesLine = true)
    (hplay : (world.play index (.single (.console (.line category name arguments format
      input)))).1.outcome = .command (.error error)) :
    world.perform ⟨index, none⟩ (.console (.line category name arguments format input)) =
      (.command (.error error), { world with input := input.getD world.input }) := by
  have hquiet : (world.perform ⟨index, none⟩ (.console (.line category name arguments format
      input))).2.quiesce.Blameless :=
    (hworld.onConsole ⟨index, none⟩ (.line category name arguments format input)).run turnLimit
  have hfaulty : ¬ (Outcome.command (.error error)).Blameless := Errs.not_of_blamesLine hblames
  rw [← hplay] at hfaulty
  have honce : (world.onConsole ⟨index, none⟩ (.line category name arguments format input)).1 =
      .command (.error error) := (hquiet.resolved hfaulty).symm.trans hplay
  obtain ⟨hplan, -⟩ := (executes_of_onConsole (Prod.ext honce rfl)).refused_of_blamed hblames
  simp only [World.perform, World.onConsole, hplan]

end World

end Telephony.Scenario

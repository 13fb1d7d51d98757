import Telephony.Proofs.Codes.Spending
import Telephony.Proofs.Sessions.Footing

/-!
# Emergency numbers

Which digits call for help depends on the modem: they are the numbers that it is known to have, and
the configured ones if none are known. A session asks the modem that it was set up for. Set up for
none, it asks whichever modem comes first, although it may have come to serve another by then.
-/

namespace Telephony

variable {δ : Type}

/-- The emergency numbers of a modem, or the configured ones if none are known of it. -/
def Switchboard.numbersFor (board : Switchboard) (configured : List String) (path : ModemPath) :
    List String :=
  let known := ((board.modem? path).map (·.emergencyNumbers)).getD []
  if known.isEmpty then configured else known

theorem Switchboard.modem?_of_defaultModem {board : Switchboard}
    (hnone : board.defaultModem = none) (path : ModemPath) : board.modem? path = none := by
  have hpaths : board.paths = [] := List.head?_eq_none_iff.1 hnone
  have hentry : board.entry? path = none := by
    refine Table.get?_eq_none_iff.2 fun hmem => ?_
    rw [show board.modems.keys = [] from hpaths] at hmem
    cases hmem
  rw [modem?, hentry, Option.map_none]

namespace CodeSession

variable {board : Switchboard} {session : CodeSession}

theorem currentNumbers_of_modem {path : ModemPath}
    (hmodem : (session.assigned <|> board.defaultModem) = some path) :
    session.currentEmergencyNumbers board = board.numbersFor session.emergencyNumbers path := by
  simp only [currentEmergencyNumbers, hmodem]
  rfl

/-- If there is no modem at all, any modem has the configured numbers. -/
theorem currentNumbers_of_none (hassigned : session.assigned = none)
    (hdefault : board.defaultModem = none) (path : ModemPath) :
    session.currentEmergencyNumbers board = board.numbersFor session.emergencyNumbers path := by
  simp [currentEmergencyNumbers, Switchboard.numbersFor, hassigned, hdefault,
    Switchboard.modem?_of_defaultModem hdefault path]

theorem checkEmergency_iff {digits : String} :
    (session.checkEmergency board digits).1 = true ↔
      digits ∈ session.currentEmergencyNumbers board := by
  simp [checkEmergency]

end CodeSession

namespace Dialogue

variable [Daemon δ] {dialogue : Dialogue δ}

/-- A session that was set up for a modem serves that one. -/
theorem setUp_run {service : Service δ} {options : CodeOptions} {startup : Bool}
    (hopened : service.openSession dialogue.number options startup =
      (.ok dialogue.session, dialogue.service)) (turns : List (Turn δ)) :
    (dialogue.run turns).session.emergencyNumbers = options.emergencyNumbers ∧
      ∀ path, (dialogue.run turns).session.assigned = some path →
        (dialogue.run turns).session.followed = some path := by
  induction turns using List.reverseRecOn with
  | nil =>
    obtain ⟨board, subscriptions, hsession⟩ := Service.new_of_opened hopened
    change dialogue.session.emergencyNumbers = _ ∧
      ∀ path, dialogue.session.assigned = some path → dialogue.session.followed = some path
    rw [hsession]
    exact ⟨rfl, fun path hassigned => hassigned⟩
  | append_singleton turns turn ih =>
    rw [run_append]
    obtain ⟨hassigned, hnumbers, hfollowed⟩ := (dialogue.run turns).setUp_step turn
    refine ⟨hnumbers.trans ih.1, fun path hpath => hfollowed path (ih.2 path ?_)⟩
    exact hassigned.symm.trans hpath

/-- Only a check changes the answer that is kept. -/
theorem emergency_step {turn : Turn δ} (hother : ∀ digits, turn ≠ .checkEmergency digits) :
    (dialogue.step turn).session.emergency = dialogue.session.emergency := by
  cases turn with
  | next =>
    rcases dialogue.keeps_next with hsame | ⟨note, notes, -, -, hkeeps⟩
    · rw [hsame]
    · exact hkeeps.emergency
  | answer code => exact (CodeSession.answer_keeps dialogue.session code).emergency
  | submit => exact dialogue.keeps_submit.emergency
  | settled => exact dialogue.keeps_settled.emergency
  | commandEnded => exact (CodeSession.commandEnded_keeps dialogue.session).emergency
  | setActive on =>
    simp only [step, CodeSession.setActive]
    split <;> rfl
  | checkEmergency digits => exact absurd rfl (hother digits)
  | process event | flush | hear | daemon next | changeCode number => rfl

theorem emergency_run {turns : List (Turn δ)} (hnone : ∀ digits, .checkEmergency digits ∉ turns) :
    (dialogue.run turns).session.emergency = dialogue.session.emergency := by
  induction turns generalizing dialogue with
  | nil => rfl
  | cons turn rest ih =>
    have hrest : ∀ digits, .checkEmergency digits ∉ rest := fun digits hmem =>
      hnone digits (.tail _ hmem)
    refine (ih hrest).trans (emergency_step fun digits hturn => hnone digits ?_)
    rw [hturn]
    exact List.mem_cons_self

/-- Whichever digits are asked about, a session that serves a modem answers by the numbers of that
modem, exactly when it was set up for it, or the modem that comes first has the same numbers. The
answer to the last question is kept. -/
theorem checks_served_iff {service : Service δ} {options : CodeOptions} {startup : Bool}
    (hopened : service.openSession dialogue.number options startup =
      (.ok dialogue.session, dialogue.service)) {turns : List (Turn δ)} {path : ModemPath}
    (hfollowed : (dialogue.run turns).session.followed = some path) :
    ((∀ digits, ((dialogue.run turns).session.checkEmergency
            (dialogue.run turns).board digits).1 = true ↔
          digits ∈ (dialogue.run turns).board.numbersFor options.emergencyNumbers path) ↔
        (dialogue.run turns).session.assigned = some path ∨
          ∀ other, (dialogue.run turns).board.defaultModem = some other → ∀ digits,
            digits ∈ (dialogue.run turns).board.numbersFor options.emergencyNumbers other ↔
              digits ∈ (dialogue.run turns).board.numbersFor options.emergencyNumbers path) ∧
      ∀ first digits rest, turns = first ++ .checkEmergency digits :: rest →
        (∀ later, .checkEmergency later ∉ rest) →
        (dialogue.run turns).session.emergency =
          ((dialogue.run first).session.checkEmergency (dialogue.run first).board digits).1 := by
  obtain ⟨hnumbers, hserves⟩ := setUp_run hopened turns
  refine ⟨?_, ?_⟩
  · simp only [CodeSession.checkEmergency_iff]
    cases hassigned : (dialogue.run turns).session.assigned with
    | some assigned =>
      obtain rfl : assigned = path := Option.some.inj ((hserves assigned hassigned).symm.trans hfollowed)
      rw [CodeSession.currentNumbers_of_modem (by rw [hassigned]; rfl), hnumbers]
      exact ⟨fun _ => .inl rfl, fun _ _ => .rfl⟩
    | none =>
      cases hdefault : (dialogue.run turns).board.defaultModem with
      | none =>
        rw [CodeSession.currentNumbers_of_none hassigned hdefault path, hnumbers]
        exact ⟨fun _ => .inr nofun, fun _ _ => .rfl⟩
      | some other =>
        rw [CodeSession.currentNumbers_of_modem (by rw [hassigned, hdefault]; rfl), hnumbers]
        refine ⟨fun hsame => .inr fun _ hother => Option.some.inj hother ▸ hsame, ?_⟩
        rintro (hnever | hsame)
        · cases hnever
        · exact hsame other rfl
  · rintro first digits rest rfl hlast
    rw [run_append]
    change (((dialogue.run first).step (.checkEmergency digits)).run rest).session.emergency = _
    rw [emergency_run hlast]
    rfl

/-- A session that was set up for no modem comes to serve one without emergency numbers, and then a
modem with such numbers comes before it. -/
def untilPreceded : List (Turn Simulator) :=
  let later := Simulator.empty.addModem ⟨"/m2"⟩ [.simManager]
  [.daemon later, .process (.modemAdded ⟨"/m2"⟩ []), .flush, .hear, .next,
    .daemon (later.addModem ⟨"/m1"⟩ [.voiceCallManager]), .process (.modemAdded ⟨"/m1"⟩ [])]

theorem checks_served_iff_preceded :
    (∀ digits, ((unserved.run (untilPreceded.take 5)).session.checkEmergency
        (unserved.run (untilPreceded.take 5)).board digits).1 = true ↔
      digits ∈ (unserved.run (untilPreceded.take 5)).board.numbersFor [] ⟨"/m2"⟩) ∧
    ¬ ∀ digits, ((unserved.run untilPreceded).session.checkEmergency
        (unserved.run untilPreceded).board digits).1 = true ↔
      digits ∈ (unserved.run untilPreceded).board.numbersFor [] ⟨"/m2"⟩ := by
  have hopened : (Service.stopped Simulator.empty).openSession unserved.number ⟨none, [], none⟩
      false = (.ok unserved.session, unserved.service) := rfl
  have hserved : (unserved.run (untilPreceded.take 5)).session.followed = some ⟨"/m2"⟩ := by
    decide +kernel
  have hfirst : (unserved.run (untilPreceded.take 5)).board.defaultModem = some ⟨"/m2"⟩ := by
    decide +kernel
  have hstill : (unserved.run untilPreceded).session.followed = some ⟨"/m2"⟩ := by decide +kernel
  have hassigned : (unserved.run untilPreceded).session.assigned = none := by decide +kernel
  have hother : (unserved.run untilPreceded).board.defaultModem = some ⟨"/m1"⟩ := by decide +kernel
  refine ⟨(checks_served_iff hopened hserved).1.2 (.inr fun other hdefault digits => ?_),
    fun hright => ?_⟩
  · rw [Option.some.inj (hdefault.symm.trans hfirst)]
  · rcases (checks_served_iff hopened hstill).1.1 hright with hset | hsame
    · rw [hassigned] at hset
      cases hset
    · exact absurd (hsame ⟨"/m1"⟩ hother "112") (by decide +kernel)

/-- The session serves a modem without emergency numbers, and takes the digits for an emergency
because of another. -/
theorem not_always_served :
    ¬ ∀ (dialogue : Dialogue Simulator) (daemon : Simulator) (options : CodeOptions)
        (startup : Bool) (turns : List (Turn Simulator)) (path : ModemPath) (digits : String),
      dialogue.Opened daemon options startup →
      (dialogue.run turns).session.followed = some path →
      (((dialogue.run turns).session.checkEmergency (dialogue.run turns).board digits).1 = true ↔
        digits ∈ (dialogue.run turns).board.numbersFor options.emergencyNumbers path) := by
  intro halways
  have hright := halways unserved .empty ⟨none, [], none⟩ false untilPreceded ⟨"/m2"⟩ "112" rfl
    (by decide +kernel)
  exact absurd hright (by decide +kernel)

end Dialogue

end Telephony

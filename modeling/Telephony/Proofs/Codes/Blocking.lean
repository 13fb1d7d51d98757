import Mathlib.Data.List.Induction
import Telephony.Proofs.Codes.Requests
import Telephony.Proofs.Coherence.Script

/-!
# Blocked SIMs

What requests about codes do to the SIM of a simulated modem, request by request, and what becomes
of a SIM that waits for its PUK. No request looks at whether the SIM is blocked or how many attempts
are left: the right PIN and the right PUK always make it usable. So a SIM stays blocked in a run
exactly when neither is among the requests while it should not help.
-/

namespace Telephony.Simulator

namespace SimulatedModem

def withRetries (modem : SimulatedModem) (retries : List (String × UInt8)) : SimulatedModem :=
  modem.store .simManager "Retries" (retriesValue retries)

def requiring (modem : SimulatedModem) (code : String) : SimulatedModem :=
  modem.store .simManager "PinRequired" (.text code)

def unlocked (modem : SimulatedModem) : SimulatedModem :=
  (modem.withRetries [("pin", fullRetries)]).requiring "none"

/-- The SIM waits for a code, as the bus shows it. -/
def Requires (modem : SimulatedModem) (code : PinType) : Prop :=
  modem.stored .simManager "PinRequired" = some (.sim (.pinRequired code))

/-- The bus shows that no attempt is left for a code. -/
def Exhausted (modem : SimulatedModem) (code : PinType) : Prop :=
  ∃ left : Table PinType UInt8,
    modem.stored .simManager "Retries" = some (.sim (.retries left)) ∧ left.get? code = some 0

/-- What a request does to a modem that offers its SIM, and what comes back. -/
inductive Handles (modem : SimulatedModem) :
    PinRequest → Except Failure Unit → SimulatedModem → Prop
  | opened {path : ModemPath} : modem.Handles (.enter path .pin modem.pin) (.ok ()) modem.unlocked
  | wrongPin {path : ModemPath} {code : SecurityCode} {pin : String}
      (hwrong : ¬ (code = .pin ∧ modem.pin = pin)) (hleft : spend (modem.retriesLeft "pin") ≠ 0) :
      modem.Handles (.enter path code pin) (.error (wrongCode "enter PIN"))
        (modem.withRetries [("pin", spend (modem.retriesLeft "pin"))])
  | lastPin {path : ModemPath} {code : SecurityCode} {pin : String}
      (hwrong : ¬ (code = .pin ∧ modem.pin = pin)) (hleft : spend (modem.retriesLeft "pin") = 0) :
      modem.Handles (.enter path code pin) (.error (wrongCode "enter PIN"))
        (((modem.withRetries [("pin", 0)]).withRetries [("pin", 0), ("puk", pukRetries)]).requiring
          "puk")
  | unblocked {path : ModemPath} {newPin : String} :
      modem.Handles (.reset path .puk modem.puk newPin) (.ok ())
        { modem with pin := newPin }.unlocked
  | wrongPuk {path : ModemPath} {code : SecurityCode} {puk newPin : String}
      (hwrong : ¬ (code = .puk ∧ modem.puk = puk)) :
      modem.Handles (.reset path code puk newPin) (.error (wrongCode "reset PIN"))
        (modem.withRetries [("pin", 0), ("puk", spend (modem.retriesLeft "puk"))])
  | changed {path : ModemPath} {newPin : String} :
      modem.Handles (.change path .pin modem.pin newPin) (.ok ()) { modem with pin := newPin }
  | kept {path : ModemPath} {code : SecurityCode} {oldPin newPin : String}
      (hwrong : ¬ (code = .pin ∧ modem.pin = oldPin)) :
      modem.Handles (.change path code oldPin newPin) (.error (wrongCode "change PIN")) modem
  | locked {path : ModemPath} {code : SecurityCode} :
      modem.Handles (.lock path code modem.pin) (.ok ())
        (modem.store .simManager "LockedPins" (.array [.text code.name]))
  | notLocked {path : ModemPath} {code : SecurityCode} {pin : String} (hwrong : modem.pin ≠ pin) :
      modem.Handles (.lock path code pin) (.error (wrongCode "toggle PIN lock")) modem
  | released {path : ModemPath} {code : SecurityCode} :
      modem.Handles (.unlock path code modem.pin) (.ok ())
        (modem.store .simManager "LockedPins" (.array []))
  | notReleased {path : ModemPath} {code : SecurityCode} {pin : String} (hwrong : modem.pin ≠ pin) :
      modem.Handles (.unlock path code pin) (.error (wrongCode "toggle PIN lock")) modem

/-- The request is the right PIN. -/
def Opens (modem : SimulatedModem) (request : PinRequest) : Prop :=
  ∃ path, request = .enter path .pin modem.pin

/-- The request is the right PUK. -/
def Unblocks (modem : SimulatedModem) (request : PinRequest) : Prop :=
  ∃ path newPin, request = .reset path .puk modem.puk newPin

section Requires

variable {modem after : SimulatedModem} {request : PinRequest} {result : Except Failure Unit}
  {code other : PinType}

theorem Requires.unique (hcode : modem.Requires code) (hother : modem.Requires other) :
    code = other := by
  simpa using Option.some.inj (hcode.symm.trans hother)

theorem requires_requiring (modem : SimulatedModem) (text : String) :
    (modem.requiring text).Requires (.ofName text) :=
  (stored_store modem .simManager "PinRequired" _ .simManager "PinRequired").trans
    (if_pos ⟨rfl, rfl⟩)

theorem requires_store_iff {name : String} (hname : name ≠ "PinRequired") (value : Wire.Value) :
    (modem.store .simManager name value).Requires code ↔ modem.Requires code := by
  rw [Requires, stored_store, if_neg fun hsame => hname hsame.2]
  rfl

theorem requires_withRetries_iff (retries : List (String × UInt8)) :
    (modem.withRetries retries).Requires code ↔ modem.Requires code :=
  requires_store_iff (by decide) _

theorem requires_unlocked (modem : SimulatedModem) : modem.unlocked.Requires .none :=
  requires_requiring _ "none"

namespace Handles

/-- The code that the SIM waits for changes in two ways only. -/
theorem required_cases (hhandles : modem.Handles request result after) :
    (modem.Opens request ∨ modem.Unblocks request) ∨ after.Requires .puk ∨
      ∀ code, after.Requires code ↔ modem.Requires code := by
  cases hhandles with
  | opened => exact .inl (.inl ⟨_, rfl⟩)
  | unblocked => exact .inl (.inr ⟨_, _, rfl⟩)
  | lastPin hwrong hleft => exact .inr (.inl (requires_requiring _ "puk"))
  | wrongPin hwrong hleft | wrongPuk hwrong =>
    exact .inr (.inr fun code => requires_withRetries_iff _)
  | locked | released => exact .inr (.inr fun code => requires_store_iff (by decide) _)
  | changed | kept hwrong | notLocked hwrong | notReleased hwrong =>
    exact .inr (.inr fun code => .rfl)

theorem of_opens (hhandles : modem.Handles request result after) (hopens : modem.Opens request) :
    result = .ok () ∧ after.Requires .none := by
  obtain ⟨path, rfl⟩ := hopens
  cases hhandles with
  | opened => exact ⟨rfl, requires_unlocked modem⟩
  | wrongPin hwrong hleft | lastPin hwrong hleft => exact absurd ⟨rfl, rfl⟩ hwrong

theorem of_unblocks (hhandles : modem.Handles request result after)
    (hunblocks : modem.Unblocks request) : result = .ok () ∧ after.Requires .none := by
  obtain ⟨path, newPin, rfl⟩ := hunblocks
  cases hhandles with
  | unblocked => exact ⟨rfl, requires_unlocked _⟩
  | wrongPuk hwrong => exact absurd ⟨rfl, rfl⟩ hwrong

/-- No PIN is taken but the right one. -/
theorem opens_of_entered {path : ModemPath} {code : SecurityCode} {pin : String}
    (hhandles : modem.Handles (.enter path code pin) (.ok ()) after) :
    modem.Opens (.enter path code pin) := by
  cases hhandles with
  | opened => exact ⟨path, rfl⟩

end Handles

end Requires

end SimulatedModem

/-! ### On the bus -/

open Wire (Value)

variable {sim after : Simulator} {path : ModemPath} {modem : SimulatedModem}

/-- One modem of the bus has become another, and the others are as they were. -/
def Turns (sim after : Simulator) (path : ModemPath) (modem : SimulatedModem) : Prop :=
  ∀ other, after.modem? other = if path = other then some modem else sim.modem? other

theorem Turns.self (hturns : sim.Turns after path modem) : after.modem? path = some modem :=
  (hturns path).trans (if_pos rfl)

theorem Turns.trans {middle : Simulator} {first : SimulatedModem}
    (hfirst : sim.Turns middle path first) (hsecond : middle.Turns after path modem) :
    sim.Turns after path modem := by
  intro other
  rw [hsecond, hfirst]
  split <;> rfl

theorem Turns.refl (hmodem : sim.modem? path = some modem) : sim.Turns sim path modem := by
  intro other
  split
  · next hsame => rw [← hsame, hmodem]
  · rfl

theorem turns_putModem (sim : Simulator) (path : ModemPath) (modem : SimulatedModem) :
    sim.Turns (sim.putModem path modem) path modem :=
  modem?_putModem sim path modem

theorem turns_send (hturns : sim.Turns after path modem) (event : Event) :
    sim.Turns (after.send event) path modem := by
  rw [send_eq]
  exact hturns

theorem turns_update (hmodem : sim.modem? path = some modem) (interface : Interface)
    (name : String) (value : Value) :
    ∃ after, sim.update path interface name value = .ok after ∧
      sim.Turns after path (modem.store interface name value) := by
  have hput := turns_putModem sim path (modem.store interface name value)
  simp only [update, find, hmodem]
  cases hdecode : Change.decode interface name value with
  | none => exact ⟨_, rfl, hput⟩
  | some change =>
    by_cases hwatched :
        (sim.putModem path (modem.store interface name value)).isWatched path interface = true
    · exact ⟨_, if_pos hwatched, turns_send hput _⟩
    · exact ⟨_, if_neg hwatched, hput⟩

theorem turns_setRetries (hmodem : sim.modem? path = some modem)
    (retries : List (String × UInt8)) :
    ∃ after, sim.setRetries path retries = .ok after ∧
      sim.Turns after path (modem.withRetries retries) :=
  turns_update hmodem .simManager "Retries" _

theorem turns_setPinRequired (hmodem : sim.modem? path = some modem) (code : String) :
    ∃ after, sim.setPinRequired path code = .ok after ∧
      sim.Turns after path (modem.requiring code) :=
  turns_update hmodem .simManager "PinRequired" _

theorem turns_unlocked (hmodem : sim.modem? path = some modem) :
    ∃ after, sim.unlocked path = .ok after ∧ sim.Turns after path modem.unlocked := by
  obtain ⟨middle, hretries, hmiddle⟩ := turns_setRetries hmodem [("pin", fullRetries)]
  obtain ⟨after, hrequired, hafter⟩ := turns_setPinRequired hmiddle.self "none"
  refine ⟨after, ?_, hmiddle.trans hafter⟩
  rw [unlocked, hretries]
  exact hrequired

section Handle

theorem onSim_of_offers (hmodem : sim.modem? path = some modem)
    (hoffers : modem.offers .simManager = true)
    (operation : SimulatedModem → Except Failure Unit × Simulator) :
    sim.onSim path operation = operation modem := by
  simp only [onSim, require_of_offers hmodem hoffers, find, hmodem]
  rfl

theorem onSim_of_not_offers (hoffers : ¬ sim.Offers path .simManager)
    (operation : SimulatedModem → Except Failure Unit × Simulator) :
    ∃ failure, sim.onSim path operation = (.error failure, sim) := by
  obtain ⟨failure, hrequire⟩ := require_of_not_offers hoffers
  refine ⟨failure, ?_⟩
  simp only [onSim, hrequire]
  rfl

theorem handlePin_of_not_offers {request : PinRequest}
    (hoffers : ¬ sim.Offers request.path .simManager) :
    ∃ failure, Daemon.handlePin request sim = (.error failure, sim) := by
  cases request <;> exact onSim_of_not_offers hoffers _

/-- A request is carried out on the modem that it is for. -/
def Carries (sim : Simulator) (modem : SimulatedModem) (request : PinRequest) : Prop :=
  ∃ after, modem.Handles request (Daemon.handlePin request sim).1 after ∧
    sim.Turns (Daemon.handlePin request sim).2 request.path after

theorem Carries.of_eq {request : PinRequest} {result : Except Failure Unit}
    {next : SimulatedModem} (heq : Daemon.handlePin request sim = (result, after))
    (hhandles : modem.Handles request result next) (hturns : sim.Turns after request.path next) :
    sim.Carries modem request := by
  rw [Carries, heq]
  exact ⟨next, hhandles, hturns⟩

variable (hmodem : sim.modem? path = some modem) (hoffers : modem.offers .simManager = true)
include hmodem hoffers

theorem carries_enter (code : SecurityCode) (pin : String) :
    sim.Carries modem (.enter path code pin) := by
  have henter : Daemon.handlePin (.enter path code pin) sim = _ :=
    onSim_of_offers hmodem hoffers _
  by_cases hright : code = .pin ∧ modem.pin = pin
  · obtain ⟨rfl, rfl⟩ := hright
    obtain ⟨after, hunlocked, hturns⟩ := turns_unlocked hmodem
    rw [if_pos ⟨rfl, rfl⟩, hunlocked] at henter
    exact .of_eq henter .opened hturns
  · let mark : Simulator → Except Failure Simulator := fun sim =>
      if spend (modem.retriesLeft "pin") = 0 then
        sim.setRetries path [("pin", 0), ("puk", pukRetries)] >>= fun sim =>
          sim.setPinRequired path "puk"
      else pure sim
    obtain ⟨spent, hspent, hfirst⟩ :=
      turns_setRetries hmodem [("pin", spend (modem.retriesLeft "pin"))]
    replace henter : Daemon.handlePin (.enter path code pin) sim =
        sim.refuse "enter PIN" (mark spent) := by
      rw [henter, if_neg hright]
      simp only [hspent]
      rfl
    by_cases hleft : spend (modem.retriesLeft "pin") = 0
    · obtain ⟨given, hgiven, hsecond⟩ :=
        turns_setRetries hfirst.self [("pin", 0), ("puk", pukRetries)]
      obtain ⟨after, hrequired, hthird⟩ := turns_setPinRequired hsecond.self "puk"
      have hmarked : mark spent = .ok after := by
        rw [show mark spent = _ from if_pos hleft, hgiven]
        exact hrequired
      rw [hmarked] at henter
      rw [hleft] at hfirst hsecond hthird
      exact .of_eq henter (.lastPin hright hleft) ((hfirst.trans hsecond).trans hthird)
    · rw [show mark spent = .ok spent from if_neg hleft] at henter
      exact .of_eq henter (.wrongPin hright hleft) hfirst

theorem carries_reset (code : SecurityCode) (puk newPin : String) :
    sim.Carries modem (.reset path code puk newPin) := by
  have hreset : Daemon.handlePin (.reset path code puk newPin) sim = _ :=
    onSim_of_offers hmodem hoffers _
  by_cases hright : code = .puk ∧ modem.puk = puk
  · obtain ⟨rfl, rfl⟩ := hright
    have hput := turns_putModem sim path { modem with pin := newPin }
    obtain ⟨after, hunlocked, hturns⟩ := turns_unlocked hput.self
    rw [if_pos ⟨rfl, rfl⟩, hunlocked] at hreset
    exact .of_eq hreset .unblocked (hput.trans hturns)
  · obtain ⟨after, hspent, hturns⟩ :=
      turns_setRetries hmodem [("pin", 0), ("puk", spend (modem.retriesLeft "puk"))]
    simp only [if_neg hright, hspent] at hreset
    exact .of_eq hreset (.wrongPuk hright) hturns

theorem carries_change (code : SecurityCode) (oldPin newPin : String) :
    sim.Carries modem (.change path code oldPin newPin) := by
  have hchange : Daemon.handlePin (.change path code oldPin newPin) sim = _ :=
    onSim_of_offers hmodem hoffers _
  by_cases hright : code = .pin ∧ modem.pin = oldPin
  · obtain ⟨rfl, rfl⟩ := hright
    rw [if_pos ⟨rfl, rfl⟩] at hchange
    exact .of_eq hchange .changed (turns_putModem sim path _)
  · rw [if_neg hright] at hchange
    exact .of_eq hchange (.kept hright) (.refl hmodem)

theorem toggleLock_cases (code : SecurityCode) (pin : String) (lock : Bool) :
    (modem.pin = pin ∧ ∃ after, sim.toggleLock path code pin lock = (.ok (), after) ∧
      sim.Turns after path (modem.store .simManager "LockedPins"
        (.array (if lock then [.text code.name] else [])))) ∨
    modem.pin ≠ pin ∧
      sim.toggleLock path code pin lock = (.error (wrongCode "toggle PIN lock"), sim) := by
  have htoggle : sim.toggleLock path code pin lock = _ := onSim_of_offers hmodem hoffers _
  by_cases hright : modem.pin = pin
  · obtain ⟨after, hupdate, hturns⟩ := turns_update hmodem .simManager "LockedPins"
      (.array (if lock then [.text code.name] else []))
    rw [if_pos hright, hupdate] at htoggle
    exact .inl ⟨hright, after, htoggle, hturns⟩
  · exact .inr ⟨hright, htoggle.trans (if_neg hright)⟩

theorem carries_lock (code : SecurityCode) (pin : String) :
    sim.Carries modem (.lock path code pin) := by
  rcases toggleLock_cases hmodem hoffers code pin true with
    ⟨rfl, after, htoggle, hturns⟩ | ⟨hwrong, htoggle⟩
  · exact .of_eq htoggle .locked hturns
  · exact .of_eq htoggle (.notLocked hwrong) (.refl hmodem)

theorem carries_unlock (code : SecurityCode) (pin : String) :
    sim.Carries modem (.unlock path code pin) := by
  rcases toggleLock_cases hmodem hoffers code pin false with
    ⟨rfl, after, htoggle, hturns⟩ | ⟨hwrong, htoggle⟩
  · exact .of_eq htoggle .released hturns
  · exact .of_eq htoggle (.notReleased hwrong) (.refl hmodem)

omit hmodem hoffers in
theorem carries_of_offers {request : PinRequest} (hmodem : sim.modem? request.path = some modem)
    (hoffers : modem.offers .simManager = true) : sim.Carries modem request := by
  cases request with
  | enter path code pin => exact carries_enter hmodem hoffers code pin
  | reset path code puk newPin => exact carries_reset hmodem hoffers code puk newPin
  | change path code oldPin newPin => exact carries_change hmodem hoffers code oldPin newPin
  | lock path code pin => exact carries_lock hmodem hoffers code pin
  | unlock path code pin => exact carries_unlock hmodem hoffers code pin

end Handle

/-! ### One request on a blocked SIM -/

/-- The SIM of a modem waits for a code, as the bus shows it. -/
def Waits (sim : Simulator) (path : ModemPath) (code : PinType) : Prop :=
  ∃ modem, sim.modem? path = some modem ∧ modem.Requires code

/-- The SIM waits for no code that ordinary use needs. -/
def Usable (sim : Simulator) (path : ModemPath) : Prop :=
  sim.Waits path .none ∨ sim.Waits path .pin2

/-- The bus shows that no attempt is left for the PUK. -/
def Exhausted (sim : Simulator) (path : ModemPath) : Prop :=
  ∃ modem, sim.modem? path = some modem ∧ modem.Exhausted .puk

/-- The request brings the right PIN to the SIM of a modem. -/
def Opens (sim : Simulator) (path : ModemPath) (request : PinRequest) : Prop :=
  request.path = path ∧
    ∃ modem, sim.modem? path = some modem ∧ modem.offers .simManager = true ∧ modem.Opens request

/-- The request brings the right PUK to the SIM of a modem. -/
def Unblocks (sim : Simulator) (path : ModemPath) (request : PinRequest) : Prop :=
  request.path = path ∧
    ∃ modem, sim.modem? path = some modem ∧ modem.offers .simManager = true ∧ modem.Unblocks request

theorem Waits.unique {code other : PinType} (hcode : sim.Waits path code)
    (hother : sim.Waits path other) : code = other := by
  obtain ⟨modem, hmodem, hrequires⟩ := hcode
  obtain ⟨same, hsame, hothers⟩ := hother
  obtain rfl := Option.some.inj (hmodem.symm.trans hsame)
  exact hrequires.unique hothers

theorem not_usable_of_blocked (hblocked : sim.Waits path .puk) : ¬ sim.Usable path := by
  rintro (hnone | hpin2)
  · cases hblocked.unique hnone
  · cases hblocked.unique hpin2

section Step

variable {request : PinRequest}

/-- A request changes no modem but its own, and that one only as `Handles` says. -/
theorem handlePin_cases (sim : Simulator) (path : ModemPath) (request : PinRequest) :
    (request.path = path ∧ ∃ modem after, sim.modem? path = some modem ∧
      modem.offers .simManager = true ∧
      modem.Handles request (Daemon.handlePin request sim).1 after ∧
      (Daemon.handlePin request sim).2.modem? path = some after) ∨
    (¬ (request.path = path ∧ sim.Offers path .simManager)) ∧
      (Daemon.handlePin request sim).2.modem? path = sim.modem? path ∧
      (request.path = path → (Daemon.handlePin request sim).1 ≠ .ok ()) := by
  by_cases hoffers : sim.Offers request.path .simManager
  · obtain ⟨modem, hmodem, hthere⟩ := hoffers
    obtain ⟨after, hhandles, hturns⟩ := carries_of_offers hmodem hthere
    by_cases hpath : request.path = path
    · subst hpath
      exact .inl ⟨rfl, modem, after, hmodem, hthere, hhandles, hturns.self⟩
    · exact .inr ⟨fun hsame => hpath hsame.1, (hturns path).trans (if_neg hpath),
        fun hsame => absurd hsame hpath⟩
  · obtain ⟨failure, hrefused⟩ := handlePin_of_not_offers hoffers
    rw [hrefused]
    refine .inr ⟨?_, rfl, fun _ => nofun⟩
    rintro ⟨rfl, hthere⟩
    exact hoffers hthere

theorem opens_of_entered {code : SecurityCode} {pin : String}
    (hentered : (Daemon.handlePin (.enter path code pin) sim).1 = .ok ()) :
    sim.Opens path (.enter path code pin) := by
  rcases sim.handlePin_cases path (.enter path code pin) with
    ⟨hpath, modem, after, hmodem, hoffers, hhandles, -⟩ | ⟨-, -, hrefused⟩
  · rw [hentered] at hhandles
    exact ⟨hpath, modem, hmodem, hoffers, hhandles.opens_of_entered⟩
  · exact absurd hentered (hrefused rfl)

/-- The right PIN is taken, and so is the right PUK, whatever the SIM waits for. -/
theorem taken_of_right (hright : sim.Opens path request ∨ sim.Unblocks path request) :
    (Daemon.handlePin request sim).1 = .ok () ∧
      (Daemon.handlePin request sim).2.Waits path .none := by
  rcases sim.handlePin_cases path request with
    ⟨-, modem, after, hmodem, -, hhandles, hafter⟩ | ⟨hnot, -, -⟩
  · have htaken : (Daemon.handlePin request sim).1 = .ok () ∧ after.Requires .none := by
      rcases hright with ⟨-, other, hother, -, hopens⟩ | ⟨-, other, hother, -, hunblocks⟩
      · obtain rfl := Option.some.inj (hmodem.symm.trans hother)
        exact hhandles.of_opens hopens
      · obtain rfl := Option.some.inj (hmodem.symm.trans hother)
        exact hhandles.of_unblocks hunblocks
    exact ⟨htaken.1, after, hafter, htaken.2⟩
  · rcases hright with ⟨hpath, other, hother, hoffers, -⟩ | ⟨hpath, other, hother, hoffers, -⟩ <;>
      exact absurd ⟨hpath, other, hother, hoffers⟩ hnot

/-- Any other request leaves the SIM waiting for the code that it waits for, or blocks it. -/
theorem waits_of_wrong (hwrong : ¬ (sim.Opens path request ∨ sim.Unblocks path request)) :
    (Daemon.handlePin request sim).2.Waits path .puk ∨
      ∀ code, (Daemon.handlePin request sim).2.Waits path code ↔ sim.Waits path code := by
  rcases sim.handlePin_cases path request with
    ⟨hpath, modem, after, hmodem, hoffers, hhandles, hafter⟩ | ⟨-, hkept, -⟩
  · rcases hhandles.required_cases with (hright | hright) | hblocked | hsame
    · exact absurd (.inl ⟨hpath, modem, hmodem, hoffers, hright⟩) hwrong
    · exact absurd (.inr ⟨hpath, modem, hmodem, hoffers, hright⟩) hwrong
    · exact .inl ⟨after, hafter, hblocked⟩
    · refine .inr fun code => ?_
      simp only [Waits, hafter, hmodem, Option.some.injEq, exists_eq_left', hsame]
  · refine .inr fun code => ?_
    simp only [Waits, hkept]

theorem blocked_of_wrong (hblocked : sim.Waits path .puk)
    (hwrong : ¬ (sim.Opens path request ∨ sim.Unblocks path request)) :
    (Daemon.handlePin request sim).2.Waits path .puk := by
  rcases waits_of_wrong hwrong with hstill | hsame
  · exact hstill
  · exact (hsame .puk).2 hblocked

theorem usable_iff_right (hunusable : ¬ sim.Usable path) :
    (Daemon.handlePin request sim).2.Usable path ↔
      sim.Opens path request ∨ sim.Unblocks path request := by
  constructor
  · intro husable
    by_contra hwrong
    rcases waits_of_wrong hwrong with hblocked | hsame
    · exact not_usable_of_blocked hblocked husable
    · exact hunusable (husable.imp (hsame .none).1 (hsame .pin2).1)
  · exact fun hright => .inl (taken_of_right hright).2

end Step

/-! ### Runs -/

/-- The daemon after requests about codes, one after the other. -/
def afterPins (sim : Simulator) (requests : List PinRequest) : Simulator :=
  requests.foldl (fun sim request => (Daemon.handlePin request sim).2) sim

theorem afterPins_concat (sim : Simulator) (requests : List PinRequest) (request : PinRequest) :
    sim.afterPins (requests ++ [request]) =
      (Daemon.handlePin request (sim.afterPins requests)).2 :=
  List.foldl_append

/-- No request has brought the right PUK to the SIM. -/
def NeverUnblocked (sim : Simulator) (path : ModemPath) (requests : List PinRequest) : Prop :=
  ∀ before request after, requests = before ++ request :: after →
    ¬ (sim.afterPins before).Unblocks path request

/-- At some time during the requests no attempt was left for the PUK. -/
def EverExhausted (sim : Simulator) (path : ModemPath) (requests : List PinRequest) : Prop :=
  ∃ before after, requests = before ++ after ∧ (sim.afterPins before).Exhausted path

/-- A blocked SIM takes no PIN and waits for its PUK until it gets it, and once no attempt is left
for the PUK nothing makes it usable. -/
structure StaysBlocked (sim : Simulator) (path : ModemPath) (requests : List PinRequest) :
    Prop where
  refused : ∀ before code pin after, requests = before ++ .enter path code pin :: after →
    sim.NeverUnblocked path before →
      (Daemon.handlePin (.enter path code pin) (sim.afterPins before)).1 ≠ .ok ()
  waits : ∀ before after, requests = before ++ after → sim.NeverUnblocked path before →
    (sim.afterPins before).Waits path .puk
  barred : ∀ before request after, requests = before ++ request :: after →
    sim.EverExhausted path before → ¬ (sim.afterPins before).Usable path →
      ¬ (sim.afterPins (before ++ [request])).Usable path

theorem neverUnblocked_nil (sim : Simulator) (path : ModemPath) : sim.NeverUnblocked path [] := by
  intro before request after hsplit
  simp at hsplit

theorem NeverUnblocked.init {requests : List PinRequest} {request : PinRequest}
    (hnever : sim.NeverUnblocked path (requests ++ [request])) :
    sim.NeverUnblocked path requests ∧ ¬ (sim.afterPins requests).Unblocks path request := by
  refine ⟨fun before first after hsplit => ?_, hnever requests request [] rfl⟩
  exact hnever before first (after ++ [request]) (by rw [hsplit, List.append_assoc]; rfl)

/-- A blocked SIM stays blocked exactly when it never gets the right PIN before the right PUK, and
neither of them once no attempt is left for the PUK. -/
theorem stays_blocked_iff (hblocked : sim.Waits path .puk) (requests : List PinRequest) :
    sim.StaysBlocked path requests ↔
      ∀ before request after, requests = before ++ request :: after →
        (sim.NeverUnblocked path before → ¬ (sim.afterPins before).Opens path request) ∧
        (sim.EverExhausted path before → ¬ (sim.afterPins before).Usable path →
          ¬ ((sim.afterPins before).Opens path request ∨
            (sim.afterPins before).Unblocks path request)) := by
  constructor
  · intro hstays before request after hsplit
    refine ⟨fun hnever hopens => ?_, fun hexhausted hunusable hright => ?_⟩
    · obtain ⟨hpath, modem, -, -, other, rfl⟩ := id hopens
      obtain rfl : other = path := hpath
      exact hstays.refused before _ _ after hsplit hnever (taken_of_right (.inl hopens)).1
    · refine hstays.barred before request after hsplit hexhausted hunusable ?_
      rw [afterPins_concat]
      exact .inl (taken_of_right hright).2
  · intro hright
    refine ⟨fun before code pin after hsplit hnever hentered => ?_,
      fun before after hsplit hnever => ?_,
      fun before request after hsplit hexhausted hunusable husable => ?_⟩
    · exact (hright before _ after hsplit).1 hnever (opens_of_entered hentered)
    · induction before using List.reverseRecOn generalizing after with
      | nil => exact hblocked
      | append_singleton before request ih =>
        rw [List.append_assoc] at hsplit
        obtain ⟨hearlier, hunblocks⟩ := hnever.init
        rw [afterPins_concat]
        refine blocked_of_wrong (ih _ hsplit hearlier) ?_
        rintro (hopens | hunblocks')
        · exact (hright before request after hsplit).1 hearlier hopens
        · exact hunblocks hunblocks'
    · rw [afterPins_concat] at husable
      exact (hright before request after hsplit).2 hexhausted hunusable
        ((usable_iff_right hunusable).1 husable)

/-- A bus with one modem, after the last wrong PIN. -/
def worn : Simulator :=
  (Simulator.empty.addModem ⟨"/m"⟩ [.simManager]).afterPins
    (List.replicate 3 (.enter ⟨"/m"⟩ .pin "0000"))

theorem modem_worn : ∃ modem, worn.modem? ⟨"/m"⟩ = some modem ∧ modem.Requires .puk ∧
    modem.offers .simManager = true ∧ modem.pin = "1234" ∧ modem.puk = "12345678" := by
  have hshown : (worn.modem? ⟨"/m"⟩).map (fun modem =>
      (modem.stored .simManager "PinRequired", modem.offers .simManager, modem.pin, modem.puk)) =
      some (some (.sim (.pinRequired .puk)), true, "1234", "12345678") := by decide +kernel
  obtain ⟨modem, hmodem, hparts⟩ := Option.map_eq_some_iff.1 hshown
  obtain ⟨hrequires, hoffers, hpin, hpuk⟩ := by simpa only [Prod.mk.injEq] using hparts
  exact ⟨modem, hmodem, hrequires, hoffers, hpin, hpuk⟩

theorem blocked_worn : worn.Waits ⟨"/m"⟩ .puk := by
  obtain ⟨modem, hmodem, hrequires, -⟩ := modem_worn
  exact ⟨modem, hmodem, hrequires⟩

theorem opens_worn : worn.Opens ⟨"/m"⟩ (.enter ⟨"/m"⟩ .pin "1234") := by
  obtain ⟨modem, hmodem, -, hoffers, hpin, -⟩ := modem_worn
  exact ⟨rfl, modem, hmodem, hoffers, ⟨"/m"⟩, by rw [hpin]⟩

/-- A wrong PUK leaves the SIM blocked, and the PIN does not. -/
theorem stays_blocked_iff_worn :
    worn.StaysBlocked ⟨"/m"⟩ [.reset ⟨"/m"⟩ .puk "00000000" "1111"] ∧
      ¬ worn.StaysBlocked ⟨"/m"⟩ [.enter ⟨"/m"⟩ .pin "1234"] := by
  refine ⟨(stays_blocked_iff blocked_worn _).2 fun before request after hsplit => ?_,
    fun hstays => ?_⟩
  · obtain ⟨rfl, rfl, rfl⟩ : before = [] ∧ request = .reset ⟨"/m"⟩ .puk "00000000" "1111" ∧
        after = [] := by
      simpa [List.cons_eq_append_iff] using hsplit
    have hopens : ¬ worn.Opens ⟨"/m"⟩ (.reset ⟨"/m"⟩ .puk "00000000" "1111") := by
      rintro ⟨-, modem, -, -, path, hrequest⟩
      cases hrequest
    refine ⟨fun _ => hopens, fun _ _ hright => hright.elim hopens ?_⟩
    rintro ⟨-, modem, hmodem, -, path, newPin, hrequest⟩
    obtain ⟨known, hknown, -, -, -, hpuk⟩ := modem_worn
    obtain rfl := Option.some.inj (hmodem.symm.trans hknown)
    obtain ⟨-, -, hwrong, -⟩ := PinRequest.reset.inj hrequest
    rw [hpuk] at hwrong
    exact absurd hwrong (by decide)
  · exact ((stays_blocked_iff blocked_worn _).1 hstays [] _ [] rfl).1
      (neverUnblocked_nil worn _) opens_worn

theorem not_always_blocked :
    ¬ ∀ (sim : Simulator) (path : ModemPath) (requests : List PinRequest),
      sim.Waits path .puk → sim.StaysBlocked path requests := by
  intro halways
  have hrefused := (halways worn ⟨"/m"⟩ [.enter ⟨"/m"⟩ .pin "1234"] blocked_worn).refused [] .pin
    "1234" [] rfl (neverUnblocked_nil worn _)
  exact hrefused (taken_of_right (.inl opens_worn)).1

end Telephony.Simulator

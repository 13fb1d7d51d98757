import Telephony.CodeSession.Basic

/-!
# Notices of a status

A session is told the status of a SIM again and again, and gives one notice each time that the status
becomes an error. It compares what it takes up with the status that it has seen last. That is the
last one taken up, until a flow of dialogs looks at the SIM and gives up because of what it finds:
then the notice is given at once, and should be missing when the session comes to that status.

The invariant counts with the notices that were given those that the session owes, because of what it
has been told and not taken up. It holds as long as each status that a flow gives up with is the one
that the session comes to next.
-/

namespace Telephony

open CodeSession (Notice)
open Sim (Status)

/-- The notice of a status that is an error. -/
def Sim.Status.notice? : Status → Option Notice
  | rejected => some .simRejected
  | noSim => some .noSim
  | locked => some .simLocked
  | unknown | ok | pinRequired | pukRequired | puk2Required => none

theorem Sim.Status.eq_of_notice {status other : Status} {notice : Notice}
    (hnotice : status.notice? = some notice) (hother : other.notice? = some notice) :
    other = status := by
  cases status <;> cases other <;> simp_all [notice?] <;> subst hnotice <;> cases hother

/-- How often the status is entered from another one. -/
def entries (status : Status) : Status → List Status → Nat
  | _, [] => 0
  | last, next :: rest =>
    (if next = status ∧ last ≠ status then 1 else 0) + entries status next rest

section Entries

variable {status last other : Status} {first rest : List Status}

theorem getLastD_append : (first ++ rest).getLastD last = rest.getLastD (first.getLastD last) := by
  rw [List.getLastD_eq_getLast?, List.getLastD_eq_getLast?, List.getLastD_eq_getLast?,
    List.getLast?_append]
  cases rest.getLast? <;> rfl

theorem entries_cons {next : Status} (rest : List Status) : entries status last (next :: rest) =
    (if next = status ∧ last ≠ status then 1 else 0) + entries status next rest := rfl

theorem entries_append :
    entries status last (first ++ rest) =
      entries status last first + entries status (first.getLastD last) rest := by
  induction first generalizing last with
  | nil => simp [entries]
  | cons next first ih =>
    rw [List.cons_append, entries, entries, ih, List.getLastD_cons, Nat.add_assoc]

/-- All that matters of the status before is whether it is the one that is counted. -/
theorem entries_congr (hsame : last = status ↔ other = status) :
    entries status last rest = entries status other rest := by
  cases rest with
  | nil => rfl
  | cons next rest => simp only [entries, ne_eq, hsame]

theorem entries_again : entries status last [last] = 0 := by
  simp [entries]

end Entries

/-- What a session has been told of the status of a SIM, and the notices that it has given. -/
structure Bulletin where
  told : List Status
  /-- What was told and has not been taken up. -/
  waiting : List Status
  /-- The status that the session has seen last. -/
  last : Status
  given : List Notice

namespace Bulletin

def lastTold (bulletin : Bulletin) : Status := bulletin.told.getLastD .unknown

/-- The status that the session comes to next, if it is told no other. -/
def next (bulletin : Bulletin) : Status := bulletin.waiting.headD bulletin.lastTold

/-- The notices of a status that the session will give by itself, if it is told the same as before. -/
def owed (bulletin : Bulletin) (status : Status) : Nat :=
  entries status bulletin.last (bulletin.waiting ++ [bulletin.lastTold])

/-- There are, and will be, no more notices of an error than it was entered. -/
def Covered (bulletin : Bulletin) : Prop :=
  ∀ status notice, status.notice? = some notice →
    bulletin.given.count notice + bulletin.owed status ≤ entries status .unknown bulletin.told

/-- To give up with the status does no harm: an error is the status that the session comes to next,
and the status that it comes to next is no error that it has seen already. -/
def Timely (bulletin : Bulletin) (status : Status) : Prop :=
  (status.notice?.isSome = true → bulletin.next = status) ∧
    ¬ (bulletin.last.notice?.isSome = true ∧ bulletin.next = bulletin.last)

instance (bulletin : Bulletin) (status : Status) : Decidable (bulletin.Timely status) :=
  inferInstanceAs (Decidable (_ ∧ _))

/-! ### How a bulletin goes on -/

def tell (bulletin : Bulletin) (news : List Status) : Bulletin :=
  { bulletin with told := bulletin.told ++ news, waiting := bulletin.waiting ++ news }

def take (bulletin : Bulletin) (status : Status) (rest : List Status) : Bulletin :=
  { bulletin with
    waiting := rest
    last := status
    given := bulletin.given ++ if bulletin.last = status then [] else status.notice?.toList }

def giveUp (bulletin : Bulletin) (status : Status) : Bulletin :=
  { bulletin with last := status, given := bulletin.given ++ status.notice?.toList }

/-- Each notice was given, or is owed, for an entry of its own, and the session will have seen what
it was told last. -/
structure Even (bulletin : Bulletin) : Prop where
  agree : ∀ status, status.notice?.isSome = true →
    (bulletin.waiting.getLastD bulletin.last = status ↔ bulletin.lastTold = status)
  count : ∀ status notice, status.notice? = some notice →
    bulletin.given.count notice + entries status bulletin.last bulletin.waiting =
      entries status .unknown bulletin.told

variable {bulletin : Bulletin} {status : Status} {notice : Notice}

theorem owed_of_agree (hagree : bulletin.waiting.getLastD bulletin.last = status ↔
      bulletin.lastTold = status) :
    bulletin.owed status = entries status bulletin.last bulletin.waiting := by
  rw [owed, entries_append, entries_congr hagree, entries_again, Nat.add_zero]

theorem Even.count_owed (heven : bulletin.Even) (hnotice : status.notice? = some notice) :
    bulletin.given.count notice + bulletin.owed status =
      entries status .unknown bulletin.told := by
  rw [owed_of_agree (heven.agree status (by rw [hnotice]; rfl)), heven.count status notice hnotice]

theorem Even.covered (heven : bulletin.Even) : bulletin.Covered := fun _ _ hnotice =>
  Nat.le_of_eq (heven.count_owed hnotice)

theorem even_opened (told : List Status) : (⟨told, told, .unknown, []⟩ : Bulletin).Even :=
  ⟨fun _ _ => .rfl, fun _ _ _ => Nat.zero_add _⟩

theorem Even.tell (heven : bulletin.Even) (news : List Status) : (bulletin.tell news).Even := by
  refine ⟨fun status herror => ?_, fun status notice hnotice => ?_⟩
  · change (bulletin.waiting ++ news).getLastD bulletin.last = status ↔
      (bulletin.told ++ news).getLastD .unknown = status
    rw [getLastD_append, getLastD_append]
    cases news with
    | nil => exact heven.agree status herror
    | cons next rest => rw [List.getLastD_cons, List.getLastD_cons]
  · have hsame := heven.agree status (by rw [hnotice]; rfl)
    calc bulletin.given.count notice +
          entries status bulletin.last (bulletin.waiting ++ news)
        = bulletin.given.count notice + entries status bulletin.last bulletin.waiting +
            entries status bulletin.lastTold news := by
          rw [entries_append, entries_congr hsame, Nat.add_assoc]
      _ = entries status .unknown bulletin.told + entries status bulletin.lastTold news := by
          rw [heven.count status notice hnotice]
      _ = entries status .unknown (bulletin.told ++ news) := entries_append.symm

theorem count_notice (hnotice : status.notice? = some notice) (other : Status) :
    other.notice?.toList.count notice = if other = status then 1 else 0 := by
  cases hother : other.notice? with
  | none =>
    have hne : other ≠ status := fun hsame => by
      rw [hsame, hnotice] at hother
      cases hother
    rw [if_neg hne]
    rfl
  | some given =>
    by_cases hsame : other = status
    · rw [hsame, hnotice] at hother
      rw [if_pos hsame, ← Option.some.inj hother]
      simp
    · have hne : given ≠ notice := fun heq =>
        hsame (Status.eq_of_notice hnotice (heq ▸ hother))
      rw [if_neg hsame]
      simp [hne]

/-- Taking up a status, the session gives the notice that it owes for it. -/
theorem count_take (hnotice : status.notice? = some notice) (taken : Status) (rest : List Status) :
    (bulletin.take taken rest).given.count notice = bulletin.given.count notice +
      if taken = status ∧ bulletin.last ≠ status then 1 else 0 := by
  change (bulletin.given ++ _).count notice = _
  rw [List.count_append]
  by_cases hlast : bulletin.last = taken
  · rw [if_pos hlast, if_neg fun hentered => hentered.2 (hlast.trans hentered.1)]
    rfl
  · rw [if_neg hlast, count_notice hnotice]
    have hentered : taken = status ∧ bulletin.last ≠ status ↔ taken = status :=
      ⟨And.left, fun hsame => ⟨hsame, fun hstatus => hlast (hstatus.trans hsame.symm)⟩⟩
    simp only [hentered]

theorem Even.take (heven : bulletin.Even) {taken : Status} {rest : List Status}
    (hwaiting : bulletin.waiting = taken :: rest) : (bulletin.take taken rest).Even := by
  refine ⟨fun status herror => ?_, fun status notice hnotice => ?_⟩
  · have hsame := heven.agree status herror
    rwa [hwaiting, List.getLastD_cons] at hsame
  · have hcount := heven.count status notice hnotice
    rw [hwaiting, entries_cons, ← Nat.add_assoc, ← count_take hnotice taken rest] at hcount
    exact hcount

theorem count_giveUp (hnotice : status.notice? = some notice) (found : Status) :
    (bulletin.giveUp found).given.count notice =
      bulletin.given.count notice + if found = status then 1 else 0 := by
  change (bulletin.given ++ _).count notice = _
  rw [List.count_append, count_notice hnotice]

/-- What waits, and the status that was told last once more, begins with the status that the session
comes to next. -/
theorem exists_waiting_eq (bulletin : Bulletin) :
    ∃ rest, bulletin.waiting ++ [bulletin.lastTold] = bulletin.next :: rest := by
  cases hwaiting : bulletin.waiting with
  | nil => exact ⟨[], by rw [next, hwaiting]; rfl⟩
  | cons first rest => exact ⟨rest ++ [bulletin.lastTold], by rw [next, hwaiting]; rfl⟩

/-- Giving up gives a notice, and what is owed for the next status depends on the status that was
found and no longer on the one that was seen before. -/
theorem Even.count_giveUp (heven : bulletin.Even) (hnotice : status.notice? = some notice)
    (found : Status) :
    (bulletin.giveUp found).given.count notice + (bulletin.giveUp found).owed status +
        (if bulletin.next = status ∧ bulletin.last ≠ status then 1 else 0) =
      entries status .unknown bulletin.told + (if found = status then 1 else 0) +
        (if bulletin.next = status ∧ found ≠ status then 1 else 0) := by
  obtain ⟨rest, hrest⟩ := bulletin.exists_waiting_eq
  have hcount : (bulletin.giveUp found).given.count notice =
      bulletin.given.count notice + if found = status then 1 else 0 := by
    change (bulletin.given ++ _).count notice = _
    rw [List.count_append, count_notice hnotice]
  have hbefore := heven.count_owed hnotice
  have hafter : (bulletin.giveUp found).owed status =
      entries status found (bulletin.waiting ++ [bulletin.lastTold]) := rfl
  rw [owed, hrest, entries_cons] at hbefore
  rw [hrest, entries_cons] at hafter
  omega

theorem Even.giveUp (heven : bulletin.Even) {found : Status} (htimely : bulletin.Timely found) :
    (bulletin.giveUp found).Even := by
  obtain ⟨hnext, hfresh⟩ := htimely
  have hagree : ∀ status : Status, status.notice?.isSome = true →
      (bulletin.waiting.getLastD found = status ↔ bulletin.lastTold = status) := by
    intro status herror
    have hsame := heven.agree status herror
    cases hwaiting : bulletin.waiting with
    | cons first rest =>
      rw [hwaiting] at hsame
      exact hsame
    | nil =>
      -- what was told last was seen, so an error would not be next for the first time
      rw [hwaiting] at hsame
      change bulletin.last = status ↔ _ at hsame
      have hcomes : bulletin.next = bulletin.lastTold := by rw [next, hwaiting]; rfl
      have htold : bulletin.lastTold ≠ status := fun htold =>
        hfresh ⟨by rw [hsame.2 htold, herror], by rw [hcomes, hsame.2 htold, htold]⟩
      refine iff_of_false (fun hfound => htold ?_) htold
      change found = status at hfound
      rw [← hcomes, hnext (hfound ▸ herror), hfound]
  refine ⟨hagree, fun status notice hnotice => ?_⟩
  have herror : status.notice?.isSome = true := by rw [hnotice]; rfl
  have hcount := heven.count_giveUp hnotice found
  rw [owed_of_agree (hagree status herror)] at hcount
  have hgiven : (if found = status then 1 else 0) +
      (if bulletin.next = status ∧ found ≠ status then 1 else 0) =
      if bulletin.next = status ∧ bulletin.last ≠ status then 1 else 0 := by
    have hlast : bulletin.next = status → bulletin.last ≠ status := fun hnext hlast =>
      hfresh ⟨by rw [hlast, herror], hnext.trans hlast.symm⟩
    have hfound : found = status → bulletin.next = status := fun hfound =>
      (hnext (hfound ▸ herror)).trans hfound
    grind
  change _ = entries status .unknown bulletin.told
  omega

/-- To give up at another time gives or owes a notice too many. -/
theorem Even.not_covered (heven : bulletin.Even) {found : Status}
    (huntimely : ¬ bulletin.Timely found) : ¬ (bulletin.giveUp found).Covered := by
  intro hcovered
  have hexcess : ∀ status : Status, status.notice?.isSome = true →
      (if found = status then 1 else 0) +
        (if bulletin.next = status ∧ found ≠ status then 1 else 0) ≤
      if bulletin.next = status ∧ bulletin.last ≠ status then 1 else 0 := by
    intro status herror
    obtain ⟨notice, hnotice⟩ := Option.isSome_iff_exists.1 herror
    have hcount := heven.count_giveUp hnotice found
    have hbound := hcovered status notice hnotice
    change _ ≤ entries status .unknown bulletin.told at hbound
    omega
  refine huntimely ⟨fun herror => ?_, fun hseen => ?_⟩
  · have hfound := hexcess found herror
    grind
  · have hlast := hexcess bulletin.last hseen.1
    have hnext := hseen.2
    grind

end Bulletin

end Telephony

import Telephony.Proofs.Recording

/-!
# Standing subscriptions

Which subscriptions a recorded daemon keeps up: those that it granted and that have not been ended
since.
-/

namespace Telephony

/-- The subscription to the interface is begun or ended by the demand, or its properties are asked
for. -/
def Demand.Concerns (demand : Demand) (path : ModemPath) (interface : Interface) : Prop :=
  demand = .watch path interface ∨ demand = .unwatch path interface ∨
    demand = .properties path interface

namespace Demand

variable {path other : ModemPath} {interface loaded : Interface}

@[simp] theorem concerns_watch :
    (watch path loaded).Concerns other interface ↔ path = other ∧ loaded = interface := by
  simp [Concerns]

@[simp] theorem concerns_unwatch :
    (unwatch path loaded).Concerns other interface ↔ path = other ∧ loaded = interface := by
  simp [Concerns]

@[simp] theorem concerns_properties :
    (properties path loaded).Concerns other interface ↔ path = other ∧ loaded = interface := by
  simp [Concerns]

end Demand

namespace Recorded

/-- The subscription was granted, and the demand has not been made since. -/
def GrantedSince (record : List Asked) (path : ModemPath) (interface : Interface)
    (demand : Demand) : Prop :=
  ∃ before after, record = before ++ ⟨.watch path interface, none⟩ :: after ∧
    ∀ asked ∈ after, asked.demand ≠ demand

/-- The subscription was granted and has not been ended since. -/
def Standing (record : List Asked) (path : ModemPath) (interface : Interface) : Prop :=
  GrantedSince record path interface (.unwatch path interface)

/-- When the subscription was last asked for, it was granted. -/
def LastGranted (record : List Asked) (path : ModemPath) (interface : Interface) : Prop :=
  GrantedSince record path interface (.watch path interface)

variable {record : List Asked} {path : ModemPath} {interface : Interface} {demand : Demand}
  {asked : Asked}

theorem not_grantedSince_nil : ¬ GrantedSince [] path interface demand := by
  rintro ⟨before, after, hrecord, -⟩
  cases before <;> cases hrecord

theorem grantedSince_loaded {refusal : Option Failure}
    (hother : .properties path interface ≠ demand) :
    GrantedSince (record ++ [⟨.watch path interface, none⟩, ⟨.properties path interface, refusal⟩])
      path interface demand := by
  refine ⟨record, [⟨.properties path interface, refusal⟩], rfl, fun asked hmem => ?_⟩
  rw [List.mem_singleton.1 hmem]
  exact hother

theorem grantedSince_concat (hother : asked ≠ ⟨.watch path interface, none⟩) :
    GrantedSince (record ++ [asked]) path interface demand ↔
      GrantedSince record path interface demand ∧ asked.demand ≠ demand := by
  constructor
  · rintro ⟨before, after, hrecord, hkept⟩
    rcases List.eq_nil_or_concat after with rfl | ⟨rest, last, rfl⟩
    · exact absurd (List.singleton_inj.1 (List.append_inj' hrecord rfl).2) hother
    · rw [List.concat_eq_append] at hrecord hkept
      rw [← List.cons_append, ← List.append_assoc] at hrecord
      obtain ⟨hbefore, hlast⟩ := List.append_inj' hrecord rfl
      obtain rfl := List.singleton_inj.1 hlast
      exact ⟨⟨before, rest, hbefore, fun later hmem => hkept later (List.mem_append_left _ hmem)⟩,
        hkept asked (List.mem_append_right _ List.mem_cons_self)⟩
  · rintro ⟨⟨before, after, rfl, hkept⟩, hasked⟩
    refine ⟨before, after ++ [asked], by simp, fun later hmem => ?_⟩
    rcases List.mem_append.1 hmem with hearly | hlate
    · exact hkept later hearly
    · exact List.mem_singleton.1 hlate ▸ hasked

/-- What concerns another subscription changes nothing. -/
theorem grantedSince_append {more : List Asked}
    (hother : ∀ asked ∈ more, asked.demand ≠ .watch path interface ∧ asked.demand ≠ demand) :
    GrantedSince (record ++ more) path interface demand ↔
      GrantedSince record path interface demand := by
  induction more generalizing record with
  | nil => rw [List.append_nil]
  | cons asked rest ih =>
    obtain ⟨hwatch, hdemand⟩ := hother asked List.mem_cons_self
    have hasked : asked ≠ ⟨.watch path interface, none⟩ := by
      rintro rfl
      exact hwatch rfl
    rw [← List.singleton_append, ← List.append_assoc,
      ih fun other hmem => hother other (.tail _ hmem), grantedSince_concat hasked]
    exact and_iff_left hdemand

/-! ### What is asked meanwhile -/

/-- The later record has nothing more about the interface. -/
def Untouched (before after : List Asked) (path : ModemPath) (interface : Interface) : Prop :=
  ∃ more, after = before ++ more ∧ ∀ asked ∈ more, ¬ asked.demand.Concerns path interface

/-- The daemon has meanwhile refused to watch the interface or to tell its properties. -/
def Refused (before after : List Asked) (path : ModemPath) (interface : Interface) : Prop :=
  ∃ more, after = before ++ more ∧
    ∃ asked ∈ more, asked.demand.Concerns path interface ∧ asked.refusal ≠ none

theorem untouched_append {more : List Asked} :
    Untouched record (record ++ more) path interface ↔
      ∀ asked ∈ more, ¬ asked.demand.Concerns path interface := by
  constructor
  · rintro ⟨other, hrecord, hnone⟩
    rwa [List.append_cancel_left hrecord]
  · exact fun hnone => ⟨more, rfl, hnone⟩

theorem refused_append {more : List Asked} :
    Refused record (record ++ more) path interface ↔
      ∃ asked ∈ more, asked.demand.Concerns path interface ∧ asked.refusal ≠ none := by
  constructor
  · rintro ⟨other, hrecord, hrefused⟩
    rwa [List.append_cancel_left hrecord]
  · exact fun hrefused => ⟨more, rfl, hrefused⟩

section Meanwhile

variable {before middle after : List Asked}

theorem Untouched.of_eq (hsame : after = before) : Untouched before after path interface :=
  ⟨[], by rw [hsame, List.append_nil], fun _ hmem => absurd hmem List.not_mem_nil⟩

theorem Untouched.standing (huntouched : Untouched before after path interface) :
    Standing after path interface ↔ Standing before path interface := by
  obtain ⟨more, rfl, hother⟩ := huntouched
  refine grantedSince_append fun asked hmem => ⟨fun hwatch => ?_, fun hunwatch => ?_⟩
  · exact hother asked hmem (.inl hwatch)
  · exact hother asked hmem (.inr (.inl hunwatch))

theorem Untouched.lastGranted (huntouched : Untouched before after path interface) :
    LastGranted after path interface ↔ LastGranted before path interface := by
  obtain ⟨more, rfl, hother⟩ := huntouched
  have hwatch : ∀ asked ∈ more, asked.demand ≠ .watch path interface := fun asked hmem hsame =>
    hother asked hmem (.inl hsame)
  exact grantedSince_append fun asked hmem => ⟨hwatch asked hmem, hwatch asked hmem⟩

theorem Untouched.not_refused (huntouched : Untouched before after path interface) :
    ¬ Refused before after path interface := by
  obtain ⟨more, rfl, hother⟩ := huntouched
  rw [refused_append]
  rintro ⟨asked, hmem, hconcerns, -⟩
  exact hother asked hmem hconcerns

theorem Untouched.untouched_iff (hlater : Untouched middle after path interface)
    (hgrown : before <+: middle) :
    Untouched before after path interface ↔ Untouched before middle path interface := by
  obtain ⟨first, rfl⟩ := hgrown
  obtain ⟨more, rfl, hother⟩ := hlater
  rw [List.append_assoc, untouched_append, untouched_append]
  simp only [List.mem_append, or_imp, forall_and]
  exact and_iff_left hother

theorem not_untouched_append {rest : List Asked} (hgrown : before <+: middle)
    (hconcerns : asked.demand.Concerns path interface) :
    ¬ Untouched before (middle ++ asked :: rest) path interface := by
  obtain ⟨first, rfl⟩ := hgrown
  rw [List.append_assoc, untouched_append]
  exact fun hnone => hnone asked (List.mem_append_right first List.mem_cons_self) hconcerns

/-- What is granted, or concerns other interfaces, refuses nothing. -/
theorem refused_append_iff {more : List Asked} (hgrown : before <+: middle)
    (hgranted : ∀ asked ∈ more, asked.demand.Concerns path interface → asked.refusal = none) :
    Refused before (middle ++ more) path interface ↔ Refused before middle path interface := by
  obtain ⟨first, rfl⟩ := hgrown
  rw [List.append_assoc, refused_append, refused_append]
  simp only [List.mem_append, or_and_right, exists_or]
  refine or_iff_left ?_
  rintro ⟨asked, hmem, hconcerns, hrefusal⟩
  exact hrefusal (hgranted asked hmem hconcerns)

theorem Untouched.refused_iff (hlater : Untouched middle after path interface)
    (hgrown : before <+: middle) :
    Refused before after path interface ↔ Refused before middle path interface := by
  obtain ⟨more, rfl, hother⟩ := hlater
  exact refused_append_iff hgrown fun asked hmem hconcerns => absurd hconcerns (hother asked hmem)

theorem Refused.earlier (hrefused : Refused middle after path interface)
    (hgrown : before <+: middle) :
    Refused before after path interface := by
  obtain ⟨more, rfl, asked, hmem, hasked⟩ := hrefused
  obtain ⟨first, rfl⟩ := hgrown
  rw [List.append_assoc]
  exact refused_append.2 ⟨asked, List.mem_append_right first hmem, hasked⟩

end Meanwhile

theorem not_standing_ended {refusal : Option Failure} :
    ¬ Standing (record ++ [⟨.unwatch path interface, refusal⟩]) path interface := fun hstanding =>
  ((grantedSince_concat (by simp)).1 hstanding).2 rfl

end Recorded

end Telephony

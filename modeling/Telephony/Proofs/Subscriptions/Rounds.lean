import Telephony.Link.Methods
import Telephony.Proofs.Coherence.Views
import Telephony.Proofs.Recording
import Telephony.Proofs.Subscriptions.Offers

/-!
# Rounds of effects

Effects are carried out in the order in which they are asked for: what one of them asks for waits
behind all that are there already. If a daemon answers only with changes of the interface that it is
asked about, an effect asks for less than it is itself, and after three rounds nothing is left.
-/

namespace Telephony

namespace Effect

/-- The number of rounds in which an effect and all that it leads to are carried out. -/
def depth : Effect → Nat
  | watch _ .modem => 3
  | watch _ _ => 2
  | _ => 1

theorem depth_watch {interface : Interface} (path : ModemPath) (htracked : interface ≠ .modem) :
    (watch path interface).depth = 2 := by
  cases interface with
  | modem => exact absurd rfl htracked
  | _ => rfl

theorem one_lt_depth_watch (path : ModemPath) (interface : Interface) :
    1 < (watch path interface).depth := by
  cases interface <;> exact Nat.succ_lt_succ (Nat.succ_pos _)

theorem depth_pos (effect : Effect) : 0 < effect.depth := by
  cases effect with
  | watch path interface => cases interface <;> exact Nat.succ_pos _
  | _ => exact Nat.one_pos

theorem depth_le (effect : Effect) : effect.depth ≤ 3 := by
  cases effect with
  | watch path interface =>
    cases interface with
    | modem => exact Nat.le_refl 3
    | _ => exact Nat.le_succ 2
  | _ => exact Nat.le_add_left 1 2

end Effect

/-! ### Daemons -/

namespace Daemon

/-- What a daemon tells of an interface are changes of that interface. -/
def Faithful (δ : Type) [Daemon δ] : Prop :=
  ∀ path interface (daemon : δ) changes, (properties path interface daemon).1 = .ok changes →
    ∀ change ∈ changes, change.interface = interface

/-- Whenever a daemon tells of an interface, it tells once at most which interfaces there are. -/
def TellsOnce (δ : Type) [Daemon δ] : Prop :=
  ∀ path interface (daemon : δ) changes, (properties path interface daemon).1 = .ok changes →
    SetsOnce changes

variable {δ : Type} [Daemon δ]

theorem Faithful.recorded (hfaithful : Faithful δ) : Faithful (Recorded δ) :=
  fun path interface daemon => hfaithful path interface daemon.daemon

theorem TellsOnce.recorded (honce : TellsOnce δ) : TellsOnce (Recorded δ) :=
  fun path interface daemon => honce path interface daemon.daemon

end Daemon

namespace Simulator

theorem decoded_of_properties {sim : Simulator} {path : ModemPath} {interface : Interface}
    {changes : List Change} (hproperties : sim.properties path interface = .ok changes) :
    ∃ modem : SimulatedModem, changes = modem.decoded interface := by
  unfold Simulator.properties at hproperties
  cases hrequire : sim.require path interface with
  | error failure =>
    rw [hrequire] at hproperties
    cases hproperties
  | ok =>
    cases hfind : sim.find path with
    | error failure =>
      rw [hrequire, hfind] at hproperties
      cases hproperties
    | ok modem =>
      rw [hrequire, hfind] at hproperties
      exact ⟨modem, (Except.ok.inj hproperties).symm⟩

theorem faithful : Daemon.Faithful Simulator := by
  intro path interface daemon changes hproperties
  obtain ⟨modem, rfl⟩ := decoded_of_properties hproperties
  exact fun _ => SimulatedModem.interface_of_mem_decoded

theorem tellsOnce : Daemon.TellsOnce Simulator := by
  intro path interface daemon changes hproperties
  obtain ⟨modem, rfl⟩ := decoded_of_properties hproperties
  exact setsOnce_decoded modem interface

end Simulator

namespace Link

variable {π : Type} [Peer π]

theorem decodeAll_of_properties {link : Link π} {path : ModemPath} {interface : Interface}
    {changes : List Change} (hproperties : (link.properties path interface).1 = .ok changes) :
    ∃ properties : Wire.Properties, changes = Change.decodeAll interface properties.entries := by
  simp only [properties, call] at hproperties
  split at hproperties
  · dsimp only at hproperties
    generalize readProperties _ _ = read at hproperties
    cases read with
    | error failure => cases hproperties
    | ok properties => exact ⟨properties, (Except.ok.inj hproperties).symm⟩
  · cases hproperties

theorem faithful : Daemon.Faithful (Link π) := by
  intro path interface link changes hproperties change hmem
  obtain ⟨properties, rfl⟩ := decodeAll_of_properties hproperties
  obtain ⟨property, -, hdecode⟩ := List.mem_filterMap.1 hmem
  exact Change.interface_of_decode hdecode

theorem tellsOnce : Daemon.TellsOnce (Link π) := by
  intro path interface link changes hproperties
  obtain ⟨properties, rfl⟩ := decodeAll_of_properties hproperties
  exact setsOnce_decodeAll interface properties.keys_nodup

end Link

/-! ### What effects ask for -/

namespace Entry

variable (observers : Observers) (path : ModemPath)

theorem depth_change (entry : Entry) (change : Change) :
    ∀ effect ∈ (entry.change observers path change).2.effects, effect.depth ≤ 2 := by
  intro effect hmem
  by_cases hinterfaces : ∃ current, change = .modem (.interfaces current)
  · obtain ⟨current, rfl⟩ := hinterfaces
    obtain ⟨gone, heffects, hgone⟩ := effects_setInterfaces observers path entry current
    change effect ∈ (entry.setInterfaces observers path current).2.effects at hmem
    rw [heffects] at hmem
    rcases List.mem_append.1 hmem with hleft | hright
    · obtain ⟨ended, -, -, rfl⟩ := hgone effect hleft
      exact Nat.le_succ 1
    · obtain ⟨come, hcome, rfl⟩ := List.mem_map.1 hright
      exact Nat.le_of_eq (Effect.depth_watch path (mem_beyond_iff.1 hcome).1)
  · rw [effects_change observers path entry fun current hsame => hinterfaces ⟨current, hsame⟩]
      at hmem
    cases hmem

theorem depth_changeAll (entry : Entry) (changes : List Change) :
    ∀ effect ∈ (entry.changeAll observers path changes).2.effects, effect.depth ≤ 2 := by
  induction changes generalizing entry with
  | nil => exact nofun
  | cons change rest ih =>
    intro effect hmem
    rcases List.mem_append.1 hmem with hfirst | hrest
    · exact depth_change observers path entry change effect hfirst
    · exact ih _ effect hrest

end Entry

theorem Switchboard.depth_loadEntry_modem (board : Switchboard) (path : ModemPath)
    (result : Except Failure (List Change)) (entry : Entry) :
    ∀ effect ∈ (board.loadEntry path .modem result entry).2.effects, effect.depth ≤ 2 := by
  cases result with
  | error failure =>
    rw [loadEntry_error]
    exact nofun
  | ok properties =>
    have hoffered : entry.offers .modem = true := rfl
    rw [loadEntry_ok hoffered]
    exact Entry.depth_changeAll board.observers path entry properties

namespace Service

variable {δ : Type} [Daemon δ]

theorem changes_fetch (hfaithful : Daemon.Faithful δ) (service : Service δ) (path : ModemPath)
    (interface : Interface) (changes : List Change)
    (hfetch : (service.fetch path interface).1 = .ok changes) :
    ∀ change ∈ changes, change.interface = interface := by
  unfold fetch at hfetch
  split at hfetch
  · exact hfaithful path interface _ changes hfetch
  · cases hfetch

theorem setsOnce_fetch (htells : Daemon.TellsOnce δ) (service : Service δ) (path : ModemPath)
    (interface : Interface) (changes : List Change)
    (hfetch : (service.fetch path interface).1 = .ok changes) : SetsOnce changes := by
  unfold fetch at hfetch
  split at hfetch
  · exact htells path interface _ changes hfetch
  · cases hfetch

theorem depth_carryOut (hfaithful : Daemon.Faithful δ) (service : Service δ) (effect : Effect) :
    ∀ more ∈ (service.carryOut effect).2, more.depth < effect.depth := by
  intro more hmem
  cases effect with
  | watch path loaded =>
    change more ∈ (service.load path loaded).2 at hmem
    rw [effects_load] at hmem
    cases hentry : service.board.entry? path with
    | none =>
      rw [hentry] at hmem
      cases hmem
    | some entry =>
      rw [hentry] at hmem
      by_cases htracked : loaded = .modem
      · subst htracked
        exact Nat.lt_succ_of_le (service.board.depth_loadEntry_modem path _ entry more hmem)
      · have hload := service.board.loadEntry_of_ne path htracked
          (service.changes_fetch hfaithful path loaded) entry
        rw [Effect.depth_watch path htracked]
        rcases hload.2 more hmem with rfl | ⟨epoch, rfl⟩
        · exact Nat.one_lt_two
        · exact Nat.one_lt_two
  | _ => cases hmem

theorem depth_carryOutAll (hfaithful : Daemon.Faithful δ) {service : Service δ}
    {effects : List Effect} {depth : Nat} (hdepth : ∀ effect ∈ effects, effect.depth ≤ depth + 1) :
    ∀ more ∈ (service.carryOutAll effects).2, more.depth ≤ depth := by
  induction effects generalizing service with
  | nil => exact nofun
  | cons effect others ih =>
    intro more hmem
    rcases List.mem_append.1 hmem with hfirst | hrest
    · have hless := service.depth_carryOut hfaithful effect more hfirst
      have heffect := hdepth effect List.mem_cons_self
      omega
    · exact ih (fun other hother => hdepth other (.tail _ hother)) more hrest

/-! ### The loop -/

/-- The service carries out effects, those that they ask for behind the others, until none is left,
and is then as given last. -/
inductive Works : Service δ → List Effect → Service δ → Prop
  | done {service : Service δ} : Works service [] service
  | step {service after : Service δ} {effect : Effect} {rest : List Effect}
      (hrest : Works (service.carryOut effect).1 (rest ++ (service.carryOut effect).2) after) :
      Works service (effect :: rest) after

variable {service after : Service δ}

theorem Works.unique {effects : List Effect} {other : Service δ}
    (hworks : Works service effects after) (hother : Works service effects other) :
    other = after := by
  induction hworks with
  | done =>
    cases hother
    rfl
  | step _ ih =>
    cases hother with
    | step hrest => exact ih hrest

theorem Works.of_carryOutAll {effects rest : List Effect}
    (hrest :
      Works (service.carryOutAll effects).1 (rest ++ (service.carryOutAll effects).2) after) :
    Works service (effects ++ rest) after := by
  induction effects generalizing service rest with
  | nil =>
    rw [carryOutAll, List.append_nil] at hrest
    exact hrest
  | cons effect others ih =>
    rw [List.cons_append]
    refine .step ?_
    rw [List.append_assoc]
    apply ih
    rw [List.append_assoc]
    exact hrest

theorem works_settleEffects (hfaithful : Daemon.Faithful δ) {depth : Nat} {effects : List Effect}
    (hdepth : ∀ effect ∈ effects, effect.depth ≤ depth) :
    Works service effects (settleEffects depth service effects) := by
  induction depth generalizing service effects with
  | zero =>
    have hnone : effects = [] := List.eq_nil_iff_forall_not_mem.2 fun effect hmem =>
      absurd (hdepth effect hmem) (Nat.not_le.2 effect.depth_pos)
    rw [hnone]
    exact .done
  | succ depth ih =>
    have hworks : Works service (effects ++ []) (settleEffects (depth + 1) service effects) :=
      .of_carryOutAll (ih (depth_carryOutAll hfaithful hdepth))
    rwa [List.append_nil] at hworks

theorem works_execute (hfaithful : Daemon.Faithful δ) (outcome : Outcome) :
    Works (service.deliverAll outcome.deliveries) outcome.effects (service.execute outcome) :=
  works_settleEffects hfaithful fun effect _ => effect.depth_le

/-- Three rounds are the whole loop: nothing is left to be carried out after them. -/
theorem works_iff (hfaithful : Daemon.Faithful δ) {outcome : Outcome} :
    Works (service.deliverAll outcome.deliveries) outcome.effects after ↔
      after = service.execute outcome := by
  constructor
  · exact (works_execute hfaithful outcome).unique
  · rintro rfl
    exact works_execute hfaithful outcome

/-- The deliveries are made, and then the effects are carried out until none is left. -/
theorem exists_works_execute (hfaithful : Daemon.Faithful δ) (service : Service δ)
    (outcome : Outcome) :
    ∃ taken : Service δ, taken.daemon = service.daemon ∧ taken.board = service.board ∧
      Works taken outcome.effects (service.execute outcome) := by
  obtain ⟨heard, hdelivered⟩ := service.deliverAll_eq outcome.deliveries
  have hdaemon := congrArg Service.daemon hdelivered
  have hboard := congrArg Service.board hdelivered
  exact ⟨_, hdaemon, hboard, works_execute hfaithful outcome⟩

theorem exists_works_process (hfaithful : Daemon.Faithful δ) (service : Service δ)
    (event : Event) :
    ∃ taken : Service δ, taken.daemon = service.daemon ∧
      taken.board = (service.board.apply event).1 ∧
      Works taken (service.board.apply event).2.effects (service.process event) :=
  exists_works_execute hfaithful { service with board := (service.board.apply event).1 }
    (service.board.apply event).2

end Service

end Telephony

import Telephony.Proofs.Coherence.Holdings
import Telephony.Proofs.Entries
import Telephony.Proofs.News.Coalescing

/-!
# Farewells

The end of an interface is told at once, by its untracked state, and last of all the end of a modem.
It is told once for each interface that was attached, and for no other. All other news tell the
tracked state of something attached; so nothing is told of an interface between its farewell and the
moment when it is attached again.
-/

namespace Telephony

/-- The interface that the news are about. That a SIM begins to wait for a code is news of the SIM. -/
def News.subject : News → Interface
  | modem _ => .modem
  | sim _ | codeQuery _ => .simManager
  | network _ => .networkRegistration
  | data _ => .connectionManager

/-- Whether the state that is told is tracked. A code query tells no state. -/
def News.isTracked : News → Bool
  | modem state => state.tracked
  | sim state => state.tracked
  | network state => state.tracked
  | data state => state.tracked
  | codeQuery _ => true

/-- What is told as the interface ends: its untracked state, if it has a state of its own. With the
modem's own interface the modem ends. -/
def Interface.farewell : Interface → List News
  | .modem => [.modem .untracked]
  | .simManager => [.sim .untracked]
  | .networkRegistration => [.network .untracked]
  | .connectionManager => [.data .untracked]
  | .supplementaryServices | .voiceCallManager => []

theorem News.subject_of_mem_farewell {news : News} {interface : Interface}
    (hmem : news ∈ interface.farewell) : news.subject = interface := by
  cases interface <;> cases hmem <;> first | rfl | contradiction

/-- The deliveries that tell of the interface. -/
def Delivery.about (deliveries : List Delivery) (path : ModemPath) (interface : Interface) :
    List Delivery :=
  deliveries.filter fun delivery => delivery.path = path ∧ delivery.news.subject = interface

namespace Delivery

variable {path : ModemPath} {interface : Interface}

theorem about_append (first rest : List Delivery) :
    about (first ++ rest) path interface = about first path interface ++ about rest path interface :=
  List.filter_append ..

/-- Only what is told of the modem counts. -/
theorem about_filter (deliveries : List Delivery) :
    about (deliveries.filter (·.path = path)) path interface = about deliveries path interface := by
  rw [about, List.filter_filter]
  exact List.filter_congr fun delivery _ => by simp +contextual

theorem about_of_path_ne {deliveries : List Delivery}
    (hother : ∀ delivery ∈ deliveries, delivery.path ≠ path) :
    about deliveries path interface = [] :=
  List.filter_eq_nil_iff.2 fun delivery hmem hon =>
    hother delivery hmem (of_decide_eq_true hon).1

/-- A farewell tells of its own interface and no other. -/
theorem about_farewell (observers : Observers) (path : ModemPath) (ended interface : Interface) :
    about (ended.farewell.map (observers.deliver path)) path interface =
      if ended = interface then ended.farewell.map (observers.deliver path) else [] := by
  split
  · next hsame =>
    refine List.filter_eq_self.2 fun delivery hmem => ?_
    obtain ⟨news, hnews, rfl⟩ := List.mem_map.1 hmem
    exact decide_eq_true ⟨rfl, (News.subject_of_mem_farewell hnews).trans hsame⟩
  · next hne =>
    refine List.filter_eq_nil_iff.2 fun delivery hmem hon => ?_
    obtain ⟨news, hnews, rfl⟩ := List.mem_map.1 hmem
    exact hne ((News.subject_of_mem_farewell hnews).symm.trans (of_decide_eq_true hon).2)

/-- Of several that end, each is told of once. -/
theorem about_farewells (observers : Observers) (path : ModemPath) {ended : List Interface}
    (hdistinct : ended.Nodup) (interface : Interface) :
    about ((ended.flatMap Interface.farewell).map (observers.deliver path)) path interface =
      if interface ∈ ended then interface.farewell.map (observers.deliver path) else [] := by
  induction ended with
  | nil => rfl
  | cons first rest ih =>
    obtain ⟨hfirst, hrest⟩ := List.nodup_cons.1 hdistinct
    rw [List.flatMap_cons, List.map_append, about_append, about_farewell, ih hrest]
    by_cases hsame : first = interface
    · subst hsame
      simp [hfirst]
    · simp [hsame, Ne.symm hsame]

end Delivery

/-! ### Entries -/

namespace Entry

/-- A step on the entry of a modem that attaches nothing, and tells of what it takes away by its
farewell, and of nothing else. -/
structure Parts (observers : Observers) (path : ModemPath) (before : Entry)
    (result : Entry × Outcome) : Prop where
  attached : ∀ interface, result.1.attached interface = true → before.attached interface = true
  told : ∀ interface, Delivery.about result.2.deliveries path interface =
    if before.attached interface = true ∧ result.1.attached interface = false then
      interface.farewell.map (observers.deliver path)
    else []
  path : ∀ delivery ∈ result.2.deliveries, delivery.path = path

namespace Parts

variable {observers : Observers} {path : ModemPath} {before middle after : Entry}

theorem of_kept {outcome : Outcome}
    (hkept : ∀ interface, after.attached interface = before.attached interface)
    (hnone : outcome.deliveries = []) : before.Parts observers path (after, outcome) where
  attached interface hafter := (hkept interface).symm.trans hafter
  told interface := by
    rw [if_neg, hnone]
    · rfl
    · rintro ⟨hbefore, hafter⟩
      rw [hkept, hbefore] at hafter
      cases hafter
  path delivery hmem := absurd (hnone ▸ hmem) List.not_mem_nil

theorem append {first second : Outcome} (hfirst : before.Parts observers path (middle, first))
    (hsecond : middle.Parts observers path (after, second)) :
    before.Parts observers path (after, first ++ second) where
  attached interface hafter := hfirst.attached interface (hsecond.attached interface hafter)
  told interface := by
    have hfirsts := hfirst.attached interface
    have hseconds := hsecond.attached interface
    dsimp only at hfirsts hseconds
    rw [Outcome.deliveries_append, Delivery.about_append, hfirst.told, hsecond.told]
    -- what is away stays away, so that at most one of the two steps takes it
    cases hbefore : before.attached interface <;> cases hmiddle : middle.attached interface <;>
      cases hafter : after.attached interface <;> simp_all
  path delivery hmem := by
    rcases List.mem_append.1 hmem with hearly | hlate
    · exact hfirst.path delivery hearly
    · exact hsecond.path delivery hlate

theorem mark {outcome : Outcome} (hparts : before.Parts observers path (after, outcome))
    (marked : Interface) : before.Parts observers path (after.mark marked, outcome) := by
  have hkept : ∀ interface, (after.mark marked).attached interface = after.attached interface :=
    fun interface => congrArg Holding.attached (holding_mark after marked interface)
  refine ⟨fun interface hafter => ?_, fun interface => ?_, hparts.path⟩
  · exact hparts.attached interface ((hkept interface).symm.trans hafter)
  · rw [hparts.told, hkept]

end Parts

variable (observers : Observers) (path : ModemPath)

theorem deliveries_drop (entry : Entry) {interface : Interface} (htracked : interface ≠ .modem) :
    (entry.drop observers path interface).2 =
      interface.farewell.map (observers.deliver path) := by
  cases interface <;> first | exact absurd rfl htracked | rfl

theorem parts_detach (entry : Entry) (gone : Interface) :
    entry.Parts observers path (entry.detach observers path gone) := by
  by_cases hgone : gone ≠ .modem ∧ entry.attached gone = true
  · have hdeliveries : (entry.detach observers path gone).2.deliveries =
        gone.farewell.map (observers.deliver path) := by
      rw [detach, if_pos hgone]
      exact deliveries_drop observers path entry hgone.1
    have hended := attached_detach observers path entry hgone.1
    refine ⟨fun interface hafter => ?_, fun interface => ?_, fun delivery hmem => ?_⟩
    · by_cases hsame : gone = interface
      · rw [← hsame, hended] at hafter
        cases hafter
      · rwa [attached_detach_of_ne observers path entry hsame] at hafter
    · rw [hdeliveries, Delivery.about_farewell]
      by_cases hsame : gone = interface
      · subst hsame
        rw [if_pos rfl, if_pos ⟨hgone.2, hended⟩]
      · rw [if_neg hsame, attached_detach_of_ne observers path entry hsame]
        simp
    · rw [hdeliveries] at hmem
      obtain ⟨news, -, rfl⟩ := List.mem_map.1 hmem
      rfl
  · have hkept : entry.detach observers path gone = (entry, ∅) := if_neg hgone
    rw [hkept]
    exact .of_kept (fun _ => rfl) rfl

theorem parts_detachAll (entry : Entry) (interfaces : List Interface) :
    entry.Parts observers path (entry.detachAll observers path interfaces) := by
  induction interfaces generalizing entry with
  | nil => exact .of_kept (fun _ => rfl) rfl
  | cons interface rest ih => exact (parts_detach observers path entry interface).append (ih _)

theorem parts_setInterfaces (entry : Entry) (current : InterfaceSet) :
    entry.Parts observers path (entry.setInterfaces observers path current) := by
  have hoffering : entry.Parts observers path (entry.offering current, ∅) :=
    .of_kept (attached_offering entry current) rfl
  rw [setInterfaces_eq]
  exact hoffering.append ((parts_detachAll observers path _ _).append (.of_kept (fun _ => rfl) rfl))

theorem parts_change (entry : Entry) (change : Change) :
    entry.Parts observers path (entry.change observers path change) := by
  by_cases hinterfaces : ∃ current, change = .modem (.interfaces current)
  · obtain ⟨current, rfl⟩ := hinterfaces
    exact parts_setInterfaces observers path entry current
  · have hplain : ∀ current, change ≠ .modem (.interfaces current) := fun current hsame =>
      hinterfaces ⟨current, hsame⟩
    refine .of_kept (fun interface => ?_) ?_
    · exact congrArg Holding.attached (holding_change observers path entry hplain interface)
    · cases change with
      | modem property =>
        cases property with
        | interfaces current => exact absurd rfl (hplain current)
        | _ => rfl
      | _ => rfl

theorem parts_changeAll (entry : Entry) (changes : List Change) :
    entry.Parts observers path (entry.changeAll observers path changes) := by
  induction changes generalizing entry with
  | nil => exact .of_kept (fun _ => rfl) rfl
  | cons change rest ih => exact (parts_change observers path entry change).append (ih _)

/-- Taking away tells the farewells in order. -/
theorem deliveries_detachAll (entry : Entry) {interfaces : List Interface}
    (hdistinct : interfaces.Nodup) (htracked : ∀ interface ∈ interfaces, interface ≠ .modem) :
    (entry.detachAll observers path interfaces).2.deliveries =
      ((interfaces.filter (entry.attached ·)).flatMap Interface.farewell).map
        (observers.deliver path) := by
  induction interfaces generalizing entry with
  | nil => rfl
  | cons gone rest ih =>
    obtain ⟨hfirst, hrest⟩ := List.nodup_cons.1 hdistinct
    have hleft := ih (entry.detach observers path gone).1 hrest
      fun interface hmem => htracked interface (.tail _ hmem)
    rw [filter_attached_detach observers path entry hfirst] at hleft
    have hgone := htracked gone List.mem_cons_self
    simp only [detachAll, Outcome.deliveries_append, hleft]
    cases hattached : entry.attached gone with
    | true =>
      have hdetached : (entry.detach observers path gone).2.deliveries =
          gone.farewell.map (observers.deliver path) := by
        rw [detach, if_pos ⟨hgone, hattached⟩]
        exact deliveries_drop observers path entry hgone
      rw [hdetached, List.filter_cons_of_pos hattached, List.flatMap_cons, List.map_append]
    | false =>
      have hkept : (entry.detach observers path gone).2.deliveries = [] := by
        simp [detach, hattached]
      rw [hkept, List.filter_cons_of_neg (by simp [hattached]), List.nil_append]

/-! ### Tracked states -/

/-- All that the entry shows is tracked. -/
def Live (entry : Entry) : Prop :=
  ∀ topic news, entry.shown topic = some news → news.isTracked = true

theorem live_iff {entry : Entry} :
    entry.Live ↔ entry.modem.state.tracked = true ∧
      (∀ sim ∈ entry.sim, sim.tracker.state.tracked = true) ∧
      (∀ tracker ∈ entry.network, tracker.state.tracked = true) ∧
      ∀ tracker ∈ entry.data, tracker.state.tracked = true := by
  constructor
  · intro hlive
    refine ⟨hlive .modem _ rfl, fun sim hsim => hlive .sim (.sim sim.tracker.state) ?_,
      fun tracker htracker => hlive .network (.network tracker.state) ?_,
      fun tracker htracker => hlive .data (.data tracker.state) ?_⟩
    · exact congrArg (Option.map _) hsim
    · exact congrArg (Option.map _) htracker
    · exact congrArg (Option.map _) htracker
  · rintro ⟨hmodem, hsim, hnetwork, hdata⟩ topic news hshown
    cases topic with
    | codeQuery => cases hshown
    | modem =>
      cases hshown
      exact hmodem
    | sim =>
      obtain ⟨sim, hthere, rfl⟩ := Option.map_eq_some_iff.1 hshown
      exact hsim sim hthere
    | network =>
      obtain ⟨tracker, hthere, rfl⟩ := Option.map_eq_some_iff.1 hshown
      exact hnetwork tracker hthere
    | data =>
      obtain ⟨tracker, hthere, rfl⟩ := Option.map_eq_some_iff.1 hshown
      exact hdata tracker hthere

theorem live_new : new.Live := by
  refine live_iff.2 ⟨rfl, ?_, ?_, ?_⟩
  all_goals
    intro tracker hmem
    cases hmem

section Live

variable {entry : Entry}

theorem Live.mark (hlive : entry.Live) (interface : Interface) : (entry.mark interface).Live :=
  fun topic news hshown => hlive topic news ((shown_mark entry interface topic).symm.trans hshown)

theorem Live.told (hlive : entry.Live) : entry.told.Live := fun topic news hshown =>
  hlive topic news ((entry.shown_told topic).symm.trans hshown)

theorem Live.detach (hlive : entry.Live) (interface : Interface) :
    (entry.detach observers path interface).1.Live := by
  obtain ⟨hmodem, hsim, hnetwork, hdata⟩ := live_iff.1 hlive
  unfold Entry.detach
  split
  · cases interface with
    | modem | supplementaryServices => exact hlive
    | simManager => exact live_iff.2 ⟨hmodem, (fun _ hmem => by cases hmem), hnetwork, hdata⟩
    | networkRegistration => exact live_iff.2 ⟨hmodem, hsim, (fun _ hmem => by cases hmem), hdata⟩
    | connectionManager => exact live_iff.2 ⟨hmodem, hsim, hnetwork, (fun _ hmem => by cases hmem)⟩
    | voiceCallManager => exact live_iff.2 ⟨hmodem, hsim, hnetwork, hdata⟩
  · exact hlive

theorem Live.detachAll (hlive : entry.Live) (interfaces : List Interface) :
    (entry.detachAll observers path interfaces).1.Live := by
  induction interfaces generalizing entry with
  | nil => exact hlive
  | cons interface rest ih => exact ih (hlive.detach observers path interface)

theorem Live.requests (hlive : entry.Live) (requests : Requests) : { entry with requests }.Live :=
  live_iff.2 (live_iff.1 hlive)

/-- What is attached is attached with a tracked state. -/
theorem Live.attach (hlive : entry.Live) (epoch : UInt64) (interface : Interface) :
    (entry.attach path epoch interface).1.Live := by
  obtain ⟨hmodem, hsim, hnetwork, hdata⟩ := live_iff.1 hlive
  cases interface with
  | modem => exact hlive
  | voiceCallManager => exact live_iff.2 ⟨hmodem, hsim, hnetwork, hdata⟩
  | simManager =>
    refine live_iff.2 ⟨hmodem, fun sim hmem => ?_, hnetwork, hdata⟩
    obtain rfl : entry.sim.getD .new = sim := Option.some.inj hmem
    cases hthere : entry.sim with
    | none => rfl
    | some there => exact hsim there hthere
  | networkRegistration =>
    refine live_iff.2 ⟨hmodem, hsim, fun tracker hmem => ?_, hdata⟩
    obtain rfl : entry.network.getD (.new .fresh) = tracker := Option.some.inj hmem
    cases hthere : entry.network with
    | none => rfl
    | some there => exact hnetwork there hthere
  | connectionManager =>
    refine live_iff.2 ⟨hmodem, hsim, hnetwork, fun tracker hmem => ?_⟩
    obtain rfl : entry.data.getD (.new .fresh) = tracker := Option.some.inj hmem
    cases hthere : entry.data with
    | none => rfl
    | some there => exact hdata there hthere
  | supplementaryServices =>
    simp only [Entry.attach]
    split
    · exact hlive.requests .direct
    · exact hlive.requests _
    · exact hlive

theorem Live.change (hlive : entry.Live) (change : Change) :
    (entry.change observers path change).1.Live := by
  obtain ⟨hmodem, hsim, hnetwork, hdata⟩ := live_iff.1 hlive
  cases change with
  | modem property =>
    cases property with
    | interfaces current =>
      rw [Entry.change, setInterfaces_eq]
      have hoffering : (entry.offering current).Live := live_iff.2 ⟨hmodem, hsim, hnetwork, hdata⟩
      exact hoffering.detachAll observers path _
    | _ => exact live_iff.2 ⟨hmodem, hsim, hnetwork, hdata⟩
  | voice property =>
    change Live (if entry.voice then _ else entry)
    split
    · exact live_iff.2 ⟨hmodem, hsim, hnetwork, hdata⟩
    · exact hlive
  | sim property =>
    refine live_iff.2 ⟨hmodem, fun sim hmem => ?_, hnetwork, hdata⟩
    obtain ⟨there, hthere, rfl⟩ := Option.map_eq_some_iff.1 hmem
    cases property <;> exact hsim there hthere
  | network property =>
    refine live_iff.2 ⟨hmodem, hsim, fun tracker hmem => ?_, hdata⟩
    obtain ⟨there, hthere, rfl⟩ := Option.map_eq_some_iff.1 hmem
    cases property <;> exact hnetwork there hthere
  | data property =>
    refine live_iff.2 ⟨hmodem, hsim, hnetwork, fun tracker hmem => ?_⟩
    obtain ⟨there, hthere, rfl⟩ := Option.map_eq_some_iff.1 hmem
    cases property <;> exact hdata there hthere

theorem lasting_live : Lasting Live where
  new := live_new
  mark := Live.mark
  told := Live.told
  attach hlive path epoch interface _ := hlive.attach path epoch interface
  change hlive observers path change := hlive.change observers path change
  requests hlive requests _ := hlive.requests requests

/-- A state that is shown is that of an attached interface. -/
theorem attached_of_shown {topic : Topic} {news : News} (hshown : entry.shown topic = some news) :
    entry.attached news.subject = true := by
  cases topic with
  | modem =>
    cases hshown
    rfl
  | codeQuery => cases hshown
  | sim | network | data =>
    obtain ⟨there, hthere, rfl⟩ := Option.map_eq_some_iff.1 hshown
    simp [News.subject, attached, hthere]

/-- A flush tells what is shown, and of a SIM that it begins to wait for a code. -/
theorem shown_of_mem_news {news : News} (hmem : news ∈ entry.news) :
    entry.shown news.topic = some news ∨
      ∃ status, news = .codeQuery status ∧ entry.attached .simManager = true := by
  simp only [Entry.news, List.mem_append] at hmem
  rcases hmem with ((hmodem | hsim) | hnetwork) | hdata
  · split at hmodem
    · rw [List.mem_singleton.1 hmodem]
      exact .inl rfl
    · cases hmodem
  · cases hthere : entry.sim with
    | none => simp [hthere] at hsim
    | some sim =>
      have hattached : entry.attached .simManager = true := by simp [attached, hthere]
      rw [hthere, Option.filter_some] at hsim
      split at hsim
      · rcases List.mem_cons.1 hsim with rfl | hquery
        · exact .inl (congrArg (Option.map _) hthere)
        · obtain ⟨status, -, rfl⟩ := List.mem_map.1 hquery
          exact .inr ⟨status, rfl, hattached⟩
      · cases hsim
  · obtain ⟨tracker, hthere, rfl⟩ := Option.map_eq_some_iff.1 (Option.mem_toList.1 hnetwork)
    exact .inl (congrArg (Option.map _) (Option.eq_some_of_filter_eq_some hthere))
  · obtain ⟨tracker, hthere, rfl⟩ := Option.map_eq_some_iff.1 (Option.mem_toList.1 hdata)
    exact .inl (congrArg (Option.map _) (Option.eq_some_of_filter_eq_some hthere))

theorem attached_of_mem_news {news : News} (hmem : news ∈ entry.news) :
    entry.attached news.subject = true := by
  rcases shown_of_mem_news hmem with hshown | ⟨status, rfl, hattached⟩
  · exact attached_of_shown hshown
  · exact hattached

theorem Live.isTracked_of_mem_news (hlive : entry.Live) {news : News} (hmem : news ∈ entry.news) :
    news.isTracked = true := by
  rcases shown_of_mem_news hmem with hshown | ⟨status, rfl, -⟩
  · exact hlive _ _ hshown
  · rfl

end Live

/-! ### The end of a modem -/

/-- What is told as the modem ends: the end of all that was attached, and last of the modem. -/
def farewells (entry : Entry) : List News :=
  ((Interface.tracked ++ [Interface.modem]).filter (entry.attached ·)).flatMap Interface.farewell

theorem about_farewells (entry : Entry) (interface : Interface) :
    Delivery.about (entry.farewells.map (observers.deliver path)) path interface =
      if entry.attached interface = true then interface.farewell.map (observers.deliver path)
      else [] := by
  have hall : interface ∈ Interface.tracked ++ [Interface.modem] := by cases interface <;> decide
  have hdistinct : (Interface.tracked ++ [Interface.modem]).Nodup := by decide
  rw [farewells, Delivery.about_farewells observers path (hdistinct.filter _)]
  exact if_congr (List.mem_filter.trans (and_iff_right hall)) rfl rfl

theorem deliveries_detachAll_tracked (entry : Entry) :
    (entry.detachAll observers path Interface.tracked).2.deliveries ++
        [observers.deliver path (.modem .untracked)] =
      entry.farewells.map (observers.deliver path) := by
  have htracked : ∀ interface ∈ Interface.tracked, interface ≠ .modem := fun interface hmem =>
    Interface.mem_tracked_iff.1 hmem
  rw [deliveries_detachAll observers path entry (by decide) htracked, farewells,
    List.filter_append, List.flatMap_append, List.map_append]
  rfl

end Entry

end Telephony

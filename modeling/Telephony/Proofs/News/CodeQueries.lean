import Telephony.Proofs.News.Departures

/-!
# Code queries

A flush tells that a SIM begins to wait for a code when its status needs one and was another at the
flush before. The tracker remembers the status only as it tells the news of the SIM, so it looks as
if a flush between, at which no news were due, might be forgotten. But whatever can change the
status makes the news due: while they are not, the status is the one that is remembered.
-/

namespace Telephony

/-- The properties of a SIM that its status is made out from. -/
def Sim.Property.decides : Sim.Property → Bool
  | present _ | pinRequired _ | retries _ => true
  | _ => false

theorem Sim.State.status_set {property : Sim.Property} (hother : property.decides = false)
    (state : Sim.State) : (state.set property).status = state.status := by
  cases property <;> first | rfl | cases hother

theorem Sim.State.status_foldl_set {properties : List Sim.Property}
    (hothers : ∀ property ∈ properties, property.decides = false) (state : Sim.State) :
    (properties.foldl set state).status = state.status := by
  induction properties generalizing state with
  | nil => rfl
  | cons property rest ih =>
    calc
      (rest.foldl set (state.set property)).status = (state.set property).status :=
        ih (fun other hother => hothers other (.tail _ hother)) _
      _ = state.status := status_set (hothers property List.mem_cons_self) state

theorem SimTracker.codeQuery_eq_some_iff {sim : SimTracker} {status : Sim.Status} :
    sim.codeQuery = some status ↔
      sim.tracker.state.status = status ∧ status.needsCode = true ∧ status ≠ sim.lastStatus := by
  simp only [codeQuery, Option.ite_none_right_eq_some, Bool.and_eq_true, bne_iff_ne,
    Option.some.injEq]
  constructor
  · rintro ⟨⟨hneeds, hother⟩, rfl⟩
    exact ⟨rfl, hneeds, hother⟩
  · rintro ⟨rfl, hneeds, hother⟩
    exact ⟨⟨hneeds, hother⟩, rfl⟩

/-! ### Entries -/

namespace Entry

/-- The tracker of the SIM remembers the status, and unless news are due the SIM still has it. -/
def Minds (status : Sim.Status) (entry : Entry) : Prop :=
  ∀ sim ∈ entry.sim, sim.lastStatus = status ∧
    (sim.tracker.due = false → sim.tracker.state.status = status)

variable {entry : Entry} {status : Sim.Status} (observers : Observers) (path : ModemPath)

theorem Minds.mark (hminds : entry.Minds status) (interface : Interface) :
    (entry.mark interface).Minds status := by
  cases interface with
  | simManager =>
    intro sim hsim
    obtain ⟨old, hold, rfl⟩ := Option.map_eq_some_iff.1 hsim
    exact ⟨(hminds old hold).1, nofun⟩
  | _ => exact hminds

theorem Minds.detachAll (hminds : entry.Minds status) (interfaces : List Interface) :
    (entry.detachAll observers path interfaces).1.Minds status := by
  induction interfaces generalizing entry with
  | nil => exact hminds
  | cons gone rest ih =>
    have hdetached : (entry.detach observers path gone).1.Minds status := by
      unfold detach
      split
      · cases gone with
        | simManager =>
          intro sim hsim
          cases hsim
        | _ => exact hminds
      · exact hminds
    exact ih hdetached

theorem Minds.change (hminds : entry.Minds status) (change : Change) :
    (entry.change observers path change).1.Minds status := by
  cases change with
  | modem property =>
    cases property with
    | interfaces current =>
      have hoffering : (entry.offering current).Minds status := hminds
      rw [Entry.change, setInterfaces_eq]
      exact hoffering.detachAll observers path _
    | _ => exact hminds
  | voice property =>
    change Minds status (if entry.voice then _ else entry)
    split
    · exact hminds
    · exact hminds
  | sim property =>
    intro sim hsim
    obtain ⟨old, hold, rfl⟩ := Option.map_eq_some_iff.1 hsim
    exact ⟨(hminds old hold).1, fun hquiet => Bool.noConfusion hquiet⟩
  | network property => exact hminds
  | data property => exact hminds

theorem Minds.changeAll (hminds : entry.Minds status) (changes : List Change) :
    (entry.changeAll observers path changes).1.Minds status := by
  induction changes generalizing entry with
  | nil => exact hminds
  | cons change rest ih => exact ih (hminds.change observers path change)

/-- A tracker that is new remembers that nothing is known. -/
theorem Minds.attach (hminds : entry.Minds status) (haway : entry.sim = none → status = .unknown)
    (epoch : UInt64) (interface : Interface) :
    (entry.attach path epoch interface).1.Minds status := by
  cases interface with
  | simManager =>
    intro sim hsim
    obtain rfl : entry.sim.getD .new = sim := Option.some.inj hsim
    cases hthere : entry.sim with
    | none =>
      rw [haway hthere]
      exact ⟨rfl, fun _ => rfl⟩
    | some old => exact hminds old hthere
  | supplementaryServices =>
    unfold Entry.attach
    dsimp only
    split <;> exact hminds
  | _ => exact hminds

theorem Minds.loadEntry (hminds : entry.Minds status)
    (haway : entry.sim = none → status = .unknown) (board : Switchboard) (interface : Interface)
    (result : Except Failure (List Change)) :
    (board.loadEntry path interface result entry).1.Minds status := by
  cases hoffered : entry.offers interface with
  | false => rwa [Switchboard.loadEntry_of_withdrawn hoffered]
  | true =>
    cases result with
    | error failure => rwa [Switchboard.loadEntry_error]
    | ok properties =>
      have hattached := hminds.attach path haway (board.drains + 1) interface
      rw [Switchboard.loadEntry_ok hoffered]
      exact (hattached.changeAll board.observers path properties).mark interface

theorem Minds.told (hminds : entry.Minds status) {sim : SimTracker} (hsim : entry.sim = some sim) :
    entry.told.Minds sim.tracker.state.status := by
  intro told htold
  simp only [Entry.told, hsim, Option.map_some, Option.mem_def, Option.some.injEq] at htold
  obtain ⟨hlast, hquiet⟩ := hminds sim hsim
  split at htold
  · subst htold
    exact ⟨rfl, fun _ => rfl⟩
  · next hdue =>
    subst htold
    have hstatus := hquiet (Bool.eq_false_iff.2 hdue)
    exact ⟨hlast.trans hstatus.symm, fun _ => rfl⟩

/-- The status that the next news of the entry ask a code for. -/
def query? (entry : Entry) : Option Sim.Status :=
  (entry.sim.filter (·.tracker.due)).bind SimTracker.codeQuery

theorem filter_news_codeQuery (entry : Entry) :
    entry.news.filter (·.topic = .codeQuery) = entry.query?.toList.map .codeQuery := by
  have hmodem : (if entry.modem.due then [News.modem entry.modem.state] else []) =
      entry.dueOn .modem := rfl
  have hsim : (((entry.sim.filter (·.tracker.due)).map simNews).getD []).filter
      (·.topic = .codeQuery) = entry.query?.toList.map .codeQuery := by
    rw [query?]
    cases entry.sim.filter (·.tracker.due) with
    | none => rfl
    | some sim => cases hquery : sim.codeQuery <;> simp [simNews, hquery, News.topic]
  simp [news, hmodem, ← dueOn_network, ← dueOn_data, filter_dueOn, hsim]

/-- A code is asked for right after the state of the SIM is told. -/
theorem news_of_query (hquery : entry.query? = some status) :
    ∃ (sim : SimTracker) (before after : List News), entry.sim = some sim ∧
      entry.news = before ++ .sim sim.tracker.state :: .codeQuery status :: after := by
  obtain ⟨sim, hdue, hasked⟩ := Option.bind_eq_some_iff.1 hquery
  obtain ⟨hsim, -⟩ := Option.filter_eq_some_iff.1 hdue
  refine ⟨sim, if entry.modem.due then [.modem entry.modem.state] else [], ?_, hsim, ?_⟩
  · exact ((entry.network.filter (·.due)).map fun tracker => News.network tracker.state).toList ++
      ((entry.data.filter (·.due)).map fun tracker => News.data tracker.state).toList
  · simp [news, hdue, simNews, hasked]

/-- What is remembered decides what is asked, whether or not news are due. -/
theorem Minds.query?_eq_some_iff (hminds : entry.Minds status) {asked : Sim.Status} :
    entry.query? = some asked ↔
      (∃ sim, entry.sim = some sim ∧ sim.tracker.state.status = asked) ∧
        asked.needsCode = true ∧ asked ≠ status := by
  constructor
  · intro hquery
    obtain ⟨sim, hdue, hasked⟩ := Option.bind_eq_some_iff.1 hquery
    obtain ⟨hsim, -⟩ := Option.filter_eq_some_iff.1 hdue
    obtain ⟨hstatus, hneeds, hother⟩ := SimTracker.codeQuery_eq_some_iff.1 hasked
    rw [(hminds sim hsim).1] at hother
    exact ⟨⟨sim, hsim, hstatus⟩, hneeds, hother⟩
  · rintro ⟨⟨sim, hsim, hstatus⟩, hneeds, hother⟩
    obtain ⟨hlast, hquiet⟩ := hminds sim hsim
    have hdue : sim.tracker.due = true := by
      by_contra hnot
      exact hother (hstatus.symm.trans (hquiet (Bool.eq_false_iff.2 hnot)))
    have hasked : sim.codeQuery = some asked :=
      SimTracker.codeQuery_eq_some_iff.2 ⟨hstatus, hneeds, hlast ▸ hother⟩
    rw [query?, hsim, Option.filter_some, if_pos hdue]
    exact hasked

end Entry

/-! ### Boards -/

namespace Switchboard

variable {board : Switchboard} {path : ModemPath} {status : Sim.Status}

theorem sim?_of_entry {entry : Entry} (hentry : board.entry? path = some entry) :
    board.sim? path = entry.sim.map (·.tracker.state) := by
  rw [sim?, hentry]
  rfl

/-- What is remembered of a SIM changes in a flush only, unless the SIM is gone. -/
theorem minds_perform {operation : Operation} (hoperation : operation ≠ .flush)
    (hminds : ∀ entry, board.entry? path = some entry → entry.Minds status)
    (haway : board.sim? path = none → status = .unknown) {entry : Entry}
    (hentry : Switchboard.entry? (board.perform operation) path = some entry) :
    entry.Minds status := by
  have hnone : ∀ before, board.entry? path = some before → before.sim = none →
      status = .unknown := by
    intro before hbefore hsim
    apply haway
    rw [sim?_of_entry hbefore, hsim]
    rfl
  cases makes_of_perform hoperation hentry with
  | @kept before requests hbefore hpending =>
    have hkept : before.Minds status := hminds before hbefore
    exact hkept
  | added properties =>
    have hstart : ((board.entry? path).getD .new).Minds status := by
      cases hbefore : board.entry? path with
      | none =>
        intro sim hsim
        cases hsim
      | some before => exact hminds before hbefore
    exact (hstart.changeAll board.observers path properties).mark .modem
  | changed change hbefore => exact (hminds _ hbefore).change board.observers path change
  | loaded interface result hbefore =>
    exact (hminds _ hbefore).loadEntry path (hnone _ hbefore) board interface result

theorem flush_on_codeQuery (board : Switchboard) (path : ModemPath) :
    Delivery.on board.flush.2 path .codeQuery =
      ((board.entry? path).bind Entry.query?).toList.map fun status =>
        board.observers.deliver path (.codeQuery status) := by
  rw [flush_on_entry]
  cases hentry : board.entry? path with
  | none => rfl
  | some entry =>
    rw [Option.elim_some, Option.bind_some, Entry.filter_news_codeQuery, List.map_map]
    rfl

theorem asked_iff :
    (∃ delivery ∈ board.flush.2, delivery.path = path ∧ delivery.news = .codeQuery status) ↔
      (board.entry? path).bind Entry.query? = some status := by
  have hon : ∀ delivery, delivery ∈ Delivery.on board.flush.2 path .codeQuery ↔
      ∃ asked, (board.entry? path).bind Entry.query? = some asked ∧
        board.observers.deliver path (.codeQuery asked) = delivery := by
    intro delivery
    rw [flush_on_codeQuery, List.mem_map]
    simp only [Option.mem_toList]
  constructor
  · rintro ⟨delivery, hmem, hpath, hnews⟩
    have htopic : delivery.news.topic = .codeQuery := congrArg News.topic hnews
    obtain ⟨asked, hasked, rfl⟩ :=
      (hon delivery).1 (List.mem_filter.2 ⟨hmem, decide_eq_true ⟨hpath, htopic⟩⟩)
    obtain rfl : asked = status := News.codeQuery.inj hnews
    exact hasked
  · intro hasked
    exact ⟨_, (List.mem_filter.1 ((hon _).2 ⟨status, hasked, rfl⟩)).1, rfl, rfl⟩

theorem flush_of_query (hquery : (board.entry? path).bind Entry.query? = some status) :
    ∃ (state : Sim.State) (before after : List Delivery), board.sim? path = some state ∧
      board.flush.2 = before ++ board.observers.deliver path (.sim state) ::
        board.observers.deliver path (.codeQuery status) :: after := by
  obtain ⟨entry, hentry, hasked⟩ := Option.bind_eq_some_iff.1 hquery
  obtain ⟨sim, front, back, hsim, hnews⟩ := Entry.news_of_query hasked
  obtain ⟨earlier, later, hentries⟩ := List.append_of_mem (Table.get?_eq_some_iff.1 hentry)
  let told := fun listed : ModemPath × Entry => listed.2.news.map (board.observers.deliver listed.1)
  refine ⟨sim.tracker.state, earlier.flatMap told ++ front.map (board.observers.deliver path),
    back.map (board.observers.deliver path) ++ later.flatMap told, ?_, ?_⟩
  · rw [sim?_of_entry hentry, hsim]
    rfl
  · calc
      board.flush.2 = (earlier ++ (path, entry) :: later).flatMap told :=
        congrArg (List.flatMap told) hentries
      _ = earlier.flatMap told ++ (entry.news.map (board.observers.deliver path) ++
          later.flatMap told) := by rw [List.flatMap_append, List.flatMap_cons]
      _ = _ := by simp [hnews]

/-- No operation but a flush asks for a code. -/
theorem topic_of_mem_delivers {operation : Operation} (hoperation : operation ≠ .flush)
    {delivery : Delivery} (hmem : delivery ∈ board.delivers operation) :
    delivery.news.topic ≠ .codeQuery := by
  have habout : delivery ∈ Delivery.about (board.delivers operation) delivery.path
      delivery.news.subject := List.mem_filter.2 ⟨hmem, decide_eq_true ⟨rfl, rfl⟩⟩
  have hfarewell : ∀ interface : Interface, ∀ news ∈ interface.farewell,
      news.topic ≠ .codeQuery := by
    intro interface
    cases interface <;> simp [Interface.farewell, News.topic]
  rw [(board.parts_perform hoperation).told] at habout
  split at habout
  · obtain ⟨news, hnews, hmade⟩ := List.mem_map.1 habout
    have hsame : news = delivery.news := congrArg Delivery.news hmade
    exact hfarewell _ _ (hsame ▸ hnews)
  · cases habout

/-- No flush comes, and the SIM of the modem is there all along. -/
def Bursts (board : Switchboard) (path : ModemPath) : List Operation → Prop
  | [] => True
  | operation :: rest => operation ≠ .flush ∧
      ((board.perform operation).sim? path).isSome = true ∧
      (board.perform operation).Bursts path rest

theorem sim?_perform_sim (board : Switchboard) (path : ModemPath) (property : Sim.Property) :
    (board.perform (.apply (.propertyChanged path (.sim property)))).sim? path =
      (board.sim? path).map (·.set property) := by
  have hlookup := lookup_onEntry board path
    (fun entry => entry.change board.observers path (.sim property)) path
  rw [if_pos rfl] at hlookup
  unfold sim?
  rw [perform, apply, hlookup]
  cases board.entry? path with
  | none => rfl
  | some entry =>
    simp only [Option.map_some, Option.bind_some, Entry.change, Option.map_map]
    rfl

/-- Properties of a SIM that change one after another. -/
def simChanges (path : ModemPath) (properties : List Sim.Property) : List Operation :=
  properties.map fun property => .apply (.propertyChanged path (.sim property))

theorem sim?_simChanges (board : Switchboard) (path : ModemPath) (properties : List Sim.Property) :
    (board.run (simChanges path properties)).sim? path =
      (board.sim? path).map fun state => properties.foldl Sim.State.set state := by
  induction properties generalizing board with
  | nil => exact Option.map_id'.symm
  | cons property rest ih =>
    refine (ih (board.perform (.apply (.propertyChanged path (.sim property))))).trans ?_
    rw [sim?_perform_sim, Option.map_map]
    rfl

theorem bursts_simChanges {state : Sim.State} (hstate : board.sim? path = some state)
    (properties : List Sim.Property) : board.Bursts path (simChanges path properties) := by
  induction properties generalizing board state with
  | nil => trivial
  | cons property rest ih =>
    have hnext := board.sim?_perform_sim path property
    rw [hstate, Option.map_some] at hnext
    exact ⟨nofun, Option.isSome_of_eq_some hnext, ih hnext⟩

end Switchboard

/-- A switchboard, and the status that the SIM of each modem had at the last flush since it is
there. -/
structure Lookout where
  board : Switchboard
  seen : ModemPath → Sim.Status

namespace Lookout

open Switchboard (Operation)

def opened : Lookout := ⟨∅, fun _ => .unknown⟩

/-- What has last been seen after the operation; nothing of a SIM that is not there. -/
def sees (lookout : Lookout) (operation : Operation) (path : ModemPath) : Sim.Status :=
  match (lookout.board.perform operation).sim? path, operation with
  | none, _ => .unknown
  | some state, .flush => state.status
  | some _, _ => lookout.seen path

def step (lookout : Lookout) (operation : Operation) : Lookout :=
  ⟨lookout.board.perform operation, lookout.sees operation⟩

def run (lookout : Lookout) (operations : List Operation) : Lookout := operations.foldl step lookout

variable {lookout : Lookout} {path : ModemPath}

theorem sees_of_there {operation : Operation} (hoperation : operation ≠ .flush)
    (hthere : ((lookout.board.perform operation).sim? path).isSome = true) :
    lookout.sees operation path = lookout.seen path := by
  obtain ⟨state, hstate⟩ := Option.isSome_iff_exists.1 hthere
  unfold sees
  rw [hstate]
  cases operation with
  | flush => exact absurd rfl hoperation
  | _ => rfl

theorem seen_flush {state : Sim.State} (hstate : lookout.board.sim? path = some state) :
    (lookout.step .flush).seen path = state.status := by
  have hflushed : (lookout.board.perform .flush).sim? path = some state :=
    (lookout.board.sim?_flush path).trans hstate
  change lookout.sees .flush path = _
  unfold sees
  rw [hflushed]

theorem board_run (lookout : Lookout) (operations : List Operation) :
    (lookout.run operations).board = lookout.board.run operations := by
  induction operations generalizing lookout with
  | nil => rfl
  | cons operation rest ih => exact ih (lookout.step operation)

theorem seen_burst {burst : List Operation} (hburst : lookout.board.Bursts path burst) :
    (lookout.run burst).seen path = lookout.seen path := by
  induction burst generalizing lookout with
  | nil => rfl
  | cons operation rest ih =>
    obtain ⟨hoperation, hthere, hrest⟩ := hburst
    calc
      ((lookout.step operation).run rest).seen path = (lookout.step operation).seen path := ih hrest
      _ = lookout.seen path := sees_of_there hoperation hthere

/-- What was seen of every SIM is what its tracker remembers. -/
structure Exact (lookout : Lookout) : Prop where
  away : ∀ path, lookout.board.sim? path = none → lookout.seen path = .unknown
  minds : ∀ path entry, lookout.board.entry? path = some entry → entry.Minds (lookout.seen path)

theorem exact_opened : opened.Exact := ⟨fun _ _ => rfl, fun _ _ => nofun⟩

theorem Exact.step (hexact : lookout.Exact) (operation : Operation) :
    (lookout.step operation).Exact where
  away path hnone := by
    have hgone : (lookout.board.perform operation).sim? path = none := hnone
    change lookout.sees operation path = .unknown
    unfold sees
    rw [hgone]
  minds path entry hentry := by
    by_cases hflush : operation = .flush
    · subst hflush
      obtain ⟨before, hbefore, rfl⟩ :=
        Option.map_eq_some_iff.1 ((lookout.board.lookup_flush path).symm.trans hentry)
      cases hsim : before.sim with
      | none =>
        intro sim hmem
        simp [Entry.told, hsim] at hmem
      | some sim =>
        have hstate : lookout.board.sim? path = some sim.tracker.state := by
          rw [Switchboard.sim?_of_entry hbefore, hsim]
          rfl
        rw [seen_flush hstate]
        exact (hexact.minds path before hbefore).told hsim
    · intro sim hmem
      have hthere : ((lookout.step operation).board.sim? path).isSome = true := by
        rw [Switchboard.sim?_of_entry hentry, hmem]
        rfl
      have hminds : entry.Minds (lookout.seen path) :=
        Switchboard.minds_perform hflush (hexact.minds path) (hexact.away path) hentry
      change _ = lookout.sees operation path ∧ (_ → _ = lookout.sees operation path)
      rw [sees_of_there hflush hthere]
      exact hminds sim hmem

theorem Exact.run (hexact : lookout.Exact) (operations : List Operation) :
    (lookout.run operations).Exact := by
  induction operations generalizing lookout with
  | nil => exact hexact
  | cons operation rest ih => exact ih (hexact.step operation)

theorem Exact.query_iff (hexact : lookout.Exact) {status : Sim.Status} :
    (lookout.board.entry? path).bind Entry.query? = some status ↔
      (lookout.board.sim? path).map (·.status) = some status ∧ status.needsCode = true ∧
        status ≠ lookout.seen path := by
  cases hentry : lookout.board.entry? path with
  | none => simp [Switchboard.sim?, hentry]
  | some entry =>
    rw [Option.bind_some, (hexact.minds path entry hentry).query?_eq_some_iff,
      Switchboard.sim?_of_entry hentry, Option.map_map, Option.map_eq_some_iff]
    rfl

/-- A flush asks for a code of a SIM whose status needs one and was another at the last flush, once
and right after the state of the SIM is told; nothing else asks for one, and nothing is asked for
again while the status is the same at each flush. -/
structure AsksOnce (lookout : Lookout) : Prop where
  asked : ∀ path status,
    (∃ delivery ∈ lookout.board.flush.2, delivery.path = path ∧
      delivery.news = .codeQuery status) ↔
    (∃ state, lookout.board.sim? path = some state ∧ state.status = status) ∧
      status ∈ [.pinRequired, .pukRequired, .puk2Required] ∧ status ≠ lookout.seen path
  once : ∀ path, (Delivery.on lookout.board.flush.2 path .codeQuery).length ≤ 1
  follows : ∀ delivery ∈ lookout.board.flush.2, ∀ status, delivery.news = .codeQuery status →
    ∃ state before after, lookout.board.sim? delivery.path = some state ∧
      lookout.board.flush.2 = before ++
        lookout.board.observers.deliver delivery.path (.sim state) ::
        lookout.board.observers.deliver delivery.path (.codeQuery status) :: after
  silent : ∀ operation, operation ≠ .flush →
    ∀ delivery ∈ lookout.board.delivers operation, delivery.news.topic ≠ .codeQuery
  /-- After a flush nothing is asked again when a burst is over and the status is as it was. -/
  unrepeated : ∀ path state burst, lookout.board.sim? path = some state →
    (lookout.step .flush).board.Bursts path burst →
    (((lookout.step .flush).run burst).board.sim? path).map (·.status) = some state.status →
    Delivery.on ((lookout.step .flush).run burst).board.flush.2 path .codeQuery = []
  /-- The other properties of a SIM may change as they like. -/
  unaffected : ∀ path (properties : List Sim.Property),
    (∀ property ∈ properties, property.decides = false) →
    Delivery.on ((lookout.step .flush).run (Switchboard.simChanges path properties)).board.flush.2
      path .codeQuery = []

theorem Exact.asks_nothing (hexact : lookout.Exact)
    (hsame : ∀ state, lookout.board.sim? path = some state → state.status = lookout.seen path) :
    Delivery.on lookout.board.flush.2 path .codeQuery = [] := by
  have hnone : (lookout.board.entry? path).bind Entry.query? = none := by
    rw [Option.eq_none_iff_forall_ne_some]
    intro status hquery
    obtain ⟨hstatus, -, hother⟩ := hexact.query_iff.1 hquery
    obtain ⟨state, hstate, rfl⟩ := Option.map_eq_some_iff.1 hstatus
    exact hother (hsame state hstate)
  rw [Switchboard.flush_on_codeQuery, hnone]
  rfl

theorem Exact.unrepeated (hexact : lookout.Exact) {state : Sim.State}
    (hstate : lookout.board.sim? path = some state) {burst : List Operation}
    (hburst : (lookout.step .flush).board.Bursts path burst)
    (hstatus : (((lookout.step .flush).run burst).board.sim? path).map (·.status) =
      some state.status) :
    Delivery.on ((lookout.step .flush).run burst).board.flush.2 path .codeQuery = [] := by
  apply ((hexact.step .flush).run burst).asks_nothing
  intro later hlater
  rw [hlater, Option.map_some, Option.some.injEq] at hstatus
  calc
    later.status = state.status := hstatus
    _ = (lookout.step .flush).seen path := (seen_flush hstate).symm
    _ = ((lookout.step .flush).run burst).seen path := (seen_burst hburst).symm

theorem Exact.unaffected (hexact : lookout.Exact) {properties : List Sim.Property}
    (hothers : ∀ property ∈ properties, property.decides = false) :
    Delivery.on ((lookout.step .flush).run (Switchboard.simChanges path properties)).board.flush.2
      path .codeQuery = [] := by
  have hflushed : (lookout.step .flush).board.sim? path = lookout.board.sim? path :=
    lookout.board.sim?_flush path
  have hlater : ((lookout.step .flush).run (Switchboard.simChanges path properties)).board.sim?
      path = (lookout.board.sim? path).map fun state => properties.foldl Sim.State.set state := by
    rw [board_run, Switchboard.sim?_simChanges, hflushed]
  cases hstate : lookout.board.sim? path with
  | none =>
    apply ((hexact.step .flush).run _).asks_nothing
    intro state hthere
    rw [hlater, hstate] at hthere
    cases hthere
  | some state =>
    have hburst := Switchboard.bursts_simChanges (hflushed.trans hstate) properties
    apply hexact.unrepeated hstate hburst
    rw [hlater, hstate, Option.map_some, Option.map_some, state.status_foldl_set hothers]

/-- Whatever is done to a switchboard, it asks for a code once when a SIM begins to wait for it. -/
theorem asksOnce_run (operations : List Operation) : (opened.run operations).AsksOnce := by
  have hexact : (opened.run operations).Exact := exact_opened.run operations
  generalize opened.run operations = lookout at hexact
  refine ⟨fun path status => ?_, fun path => ?_, fun delivery hmem status hnews => ?_,
    fun operation hoperation delivery hmem => Switchboard.topic_of_mem_delivers hoperation hmem,
    fun path state burst hstate hburst => hexact.unrepeated hstate hburst,
    fun path properties hothers => hexact.unaffected hothers⟩
  · rw [Switchboard.asked_iff, hexact.query_iff, Option.map_eq_some_iff]
    refine and_congr_right fun _ => and_congr_left fun _ => ?_
    cases status <;> simp [Sim.Status.needsCode]
  · rw [Switchboard.flush_on_codeQuery, List.length_map]
    exact Option.length_toList_le
  · exact Switchboard.flush_of_query (Switchboard.asked_iff.1 ⟨delivery, hmem, rfl, hnews⟩)

end Lookout

end Telephony

import OpenScale.TripFeed.Relayed

/-! What the screen of the live feed shows: trips that the replay jobs have sent, none of them twice
and each in its turn, whatever the consumer skips, the hub drops and the tab misses between two
connections. -/

namespace OpenScale.TripFeed

open OpenScale.Library OpenScale.Streaming

variable {unmarshal : List UInt8 → Option TripEvent} {format : Format} {plan : Replay.Plan}
  {start : Time}
  {s after : State}

/-- In the order of their pickup. -/
def InOrder (run : List Replay.Trip) : Prop := run.Pairwise fun a b => a.pickup ≤ b.pickup

section Replays

theorem inOrder_step {job later : Replay.State} {event : Replay.Event}
    (sound : Replay.Sound plan job)
    (inOrder : InOrder (job.world.topic ++ job.rest))
    (taken : (Replay.system plan).step job event = some later) :
    InOrder (later.world.topic ++ later.rest) := by
  cases Replay.moves taken with
  | load place isDay =>
    obtain ⟨_, _, _, sorted⟩ := isDay
    rw [sound.unsent (by rw [place]; rfl), List.nil_append]
    exact sorted.sublist (List.take_sublist ..)
  | send place next =>
    rw [List.append_assoc, List.singleton_append, ← next]
    exact inOrder
  | refresh due => simpa using inOrder
  | wait seconds => simpa using inOrder
  | expire place => simpa [Replay.State.goes] using inOrder
  | _ => exact inOrder

/-- The partition has trips of the replay jobs, each of which sends in the order of the pickup. -/
structure Produced (s : State) : Prop where
  earlier : ∀ run ∈ s.earlier, InOrder run
  sound : Replay.Sound s.plan s.job
  inOrder : InOrder (s.job.world.topic ++ s.job.rest)
  log : s.log.Sublist s.runs.flatten

theorem Produced.run (produced : Produced s) : ∀ run ∈ s.runs, InOrder run := by
  intro run member
  rcases List.mem_append.mp member with before | last
  · exact produced.earlier run before
  · rw [List.mem_singleton.mp last]
    exact produced.inOrder.sublist (List.sublist_append_left ..)

theorem Produced.replay (produced : Produced s) {job : Replay.State} {event : Replay.Event}
    (taken : Replay.step s.plan s.job event = some job) (kept : Bool) :
    Produced { s with
      job := job
      log := if kept then s.log ++ job.world.topic.drop s.job.world.topic.length else s.log } where
  earlier := produced.earlier
  sound := Replay.sound_step produced.sound taken
  inOrder := inOrder_step produced.sound produced.inOrder taken
  log := by
    have appended : s.job.world.topic <+: job.world.topic := Replay.topic_step taken
    obtain ⟨sent, whole⟩ := appended
    have before : s.log.Sublist (s.earlier.flatten ++ s.job.world.topic) := by
      have log := produced.log
      rwa [State.runs, List.flatten_append, List.flatten_singleton] at log
    rw [State.runs, List.flatten_append, List.flatten_singleton, ← whole, List.drop_left,
      ← List.append_assoc]
    cases kept with
    | false => exact before.trans (List.sublist_append_left ..)
    | true => exact before.append (.refl _)

theorem Produced.nextJob (produced : Produced s) (plan : Replay.Plan) :
    Produced { s with
      earlier := s.earlier ++ [s.job.world.topic]
      plan := plan
      job := Replay.init } where
  earlier := produced.run
  sound := Replay.sound_init
  inOrder := List.Pairwise.nil
  log := by
    rw [State.runs, List.flatten_append, List.flatten_singleton,
      show Replay.init.world.topic = [] from rfl, List.append_nil]
    exact produced.log

end Replays

section Consumer

def tripOf : Frame → Option TripEvent
  | .trip event => some event
  | .window _ => none

def windowOf : Frame → Option WindowAggregate
  | .trip _ => none
  | .window aggregate => some aggregate

theorem trips_eq (frames : List Frame) : trips frames = frames.filterMap tripOf := by
  induction frames with
  | nil => rfl
  | cons frame frames ih => cases frame <;> simp [trips, tripOf, ih, List.filterMap_cons]

theorem windows_fst (open_ : List TripEvent) (frames : List Frame) :
    (windows open_ frames).map Prod.fst = frames.filterMap windowOf := by
  induction frames generalizing open_ with
  | nil => rfl
  | cons frame frames ih => cases frame <;> simp [windows, windowOf, ih, List.filterMap_cons]

theorem loop_round {window later : WindowAccumulator} {received : Received} {frames : List Frame}
    (goesOn : received ≠ .ctxDone) (went : round unmarshal window received = some (frames, later))
    (rest : List Received) :
    loop unmarshal window (received :: rest) = (loop unmarshal later rest).map (frames ++ ·) := by
  cases received with
  | ctxDone => exact absurd rfl goesOn
  | tick now =>
    obtain ⟨⟨aggregate, fresh⟩, flushed, same⟩ := Option.map_eq_some_iff.mp went
    cases same
    rw [loop, flushed, Option.bind_eq_bind, Option.bind_some]
    cases ran : loop unmarshal fresh rest <;> simp [ran]
  | message bytes =>
    simp only [round] at went
    rw [loop]
    cases read : unmarshal bytes with
    | none =>
      rw [read] at went
      cases went
      simp
    | some trip =>
      rw [read] at went
      cases went
      cases ran : loop unmarshal (window.add trip) rest <;> simp [ran]
  | readerError text =>
    cases went
    rw [loop]
    simp

/-- The hub has broadcast what the loop makes of the partition, up to the reader's position. -/
structure Consumed (unmarshal : List UInt8 → Option TripEvent) (start : Time) (s : State) :
    Prop where
  position : s.position ≤ s.log.length
  trips : trips s.hub.broadcasts = (s.log.take s.position).filterMap fun trip =>
    unmarshal (value trip)
  ran : ∀ later, loop unmarshal (newWindowAccumulator start) (s.selected ++ later) =
    (loop unmarshal s.window later).map (s.hub.broadcasts ++ ·)

theorem Consumed.idle (consumed : Consumed unmarshal start s) (log : s.log <+: after.log)
    (position : after.position = s.position) (selected : after.selected = s.selected)
    (window : after.window = s.window) (broadcasts : after.hub.broadcasts = s.hub.broadcasts) :
    Consumed unmarshal start after where
  position := by
    rw [position]
    exact Nat.le_trans consumed.position log.length_le
  trips := by
    obtain ⟨new, whole⟩ := log
    rw [broadcasts, position, ← whole, List.take_append_of_le_length consumed.position]
    exact consumed.trips
  ran := by
    rw [selected, window, broadcasts]
    exact consumed.ran

theorem trips_round {window later : WindowAccumulator} {received : Received} {frames : List Frame}
    {position : Nat}
    (went : round unmarshal window received = some (frames, later))
    (read : s.read received = some position)
    (inside : s.position ≤ s.log.length) : position ≤ s.log.length ∧
      (s.log.take position).filterMap (fun trip => unmarshal (value trip)) =
        (s.log.take s.position).filterMap (fun trip => unmarshal (value trip)) ++ trips frames := by
  cases received with
  | ctxDone => cases read
  | tick now =>
    obtain ⟨⟨aggregate, fresh⟩, flushed, same⟩ := Option.map_eq_some_iff.mp went
    cases same
    cases read
    exact ⟨inside, (List.append_nil _).symm⟩
  | readerError text =>
    cases went
    cases read
    exact ⟨inside, (List.append_nil _).symm⟩
  | message bytes =>
    rw [State.read, Option.ite_none_right_eq_some] at read
    obtain ⟨found, same⟩ := read
    cases same
    obtain ⟨trip, here, rfl⟩ := Option.map_eq_some_iff.mp found
    refine ⟨(List.getElem?_eq_some_iff.mp here).1, ?_⟩
    rw [List.take_add_one, here, List.filterMap_append]
    simp only [round] at went
    cases understood : unmarshal (value trip) with
    | none =>
      rw [understood] at went
      cases went
      simp [understood, Streaming.trips]
    | some event =>
      rw [understood] at went
      cases went
      simp [understood, Streaming.trips]

theorem Consumed.select (consumed : Consumed unmarshal start s) (served : Streaming.Sound s.hub)
    {received : Received} {order : List Nat} {position : Nat} {frames : List Frame}
    {window : WindowAccumulator}
    {hub : Hub Frame} (read : s.read received = some position)
    (went : round unmarshal s.window received = some (frames, window))
    (relayed : relay s.hub order frames = some hub) :
    hub.broadcasts = s.hub.broadcasts ++ frames ∧ Consumed unmarshal start
      { s with
        position := position
        selected := s.selected ++ [received]
        window := window
        hub := hub } := by
  have alone : frames.length ≤ 1 := by
    cases received with
    | tick now =>
      obtain ⟨_, _, same⟩ := Option.map_eq_some_iff.mp went
      cases same
      exact Nat.le_refl _
    | message bytes =>
      simp only [round] at went
      split at went
      · cases went
        exact Nat.zero_le _
      · cases went
        exact Nat.le_refl _
    | _ =>
      cases went
      exact Nat.zero_le _
  have broadcasts : hub.broadcasts = s.hub.broadcasts ++ frames := by
    cases frames with
    | nil =>
      cases relayed
      exact (List.append_nil _).symm
    | cons frame others =>
      have nothing : others = [] := List.eq_nil_of_length_eq_zero (by simpa using alone)
      have stepped : Streaming.step s.hub (.broadcast frame order) = some hub := relayed
      rw [broadcasts_step served stepped, nothing]
      rfl
  have goesOn : received ≠ .ctxDone := by
    rintro rfl
    cases read
  obtain ⟨inside, more⟩ := trips_round went read consumed.position
  refine ⟨broadcasts, inside, ?_, fun later => ?_⟩
  · dsimp only
    rw [broadcasts, more, trips_eq, List.filterMap_append, ← trips_eq, ← trips_eq, consumed.trips]
  · dsimp only
    rw [List.append_assoc, List.singleton_append, consumed.ran, loop_round goesOn went,
      broadcasts, Option.map_map]
    congr 1
    funext rest
    exact (List.append_assoc ..).symm

end Consumer

structure Sound (unmarshal : List UInt8 → Option TripEvent) (format : Format) (start : Time)
    (s : State) : Prop where
  produced : Produced s
  consumed : Consumed unmarshal start s
  relayed : Relayed format s.hub s.links s.feed

section Steps

theorem sound_init (plan : Replay.Plan) (start : Time) :
    Sound unmarshal format start (init plan start) where
  produced := ⟨nofun, Replay.sound_init, List.Pairwise.nil, List.nil_sublist _⟩
  consumed := ⟨Nat.le_refl _, rfl, fun later => by
    change loop unmarshal _ later = (loop unmarshal _ later).map ([] ++ ·)
    simp [init]⟩
  relayed :=
    { served := Streaming.sound_init Frame
      alive := LiveFeed.sound_connect
      connected := fun _ => ⟨Nat.le_refl _, fun _ => rfl, nofun⟩
      unmade := fun _ _ => rfl
      distinct := nofun
      screen := ⟨[], List.nil_sublist _, rfl⟩ }

theorem Sound.serve (sound : Sound unmarshal format start s) {event : Streaming.Event Frame}
    {hub : Hub Frame}
    {links : Nat → Link} (taken : Streaming.step s.hub event = some hub)
    (silent : event.frames = [])
    (relayed : Relayed format hub links s.feed) :
    Sound unmarshal format start { s with hub := hub, links := links } where
  produced :=
    ⟨sound.produced.earlier, sound.produced.sound, sound.produced.inOrder, sound.produced.log⟩
  consumed := by
    have broadcasts := broadcasts_step sound.relayed.served taken
    rw [silent, List.append_nil] at broadcasts
    exact sound.consumed.idle List.prefix_rfl rfl rfl rfl broadcasts
  relayed := relayed

theorem Sound.keep (sound : Sound unmarshal format start s) {links : Nat → Link}
    {feed : LiveFeed.State} (relayed : Relayed format s.hub links feed) :
    Sound unmarshal format start { s with links := links, feed := feed } where
  produced :=
    ⟨sound.produced.earlier, sound.produced.sound, sound.produced.inOrder, sound.produced.log⟩
  consumed := sound.consumed.idle List.prefix_rfl rfl rfl rfl rfl
  relayed := relayed

theorem arrive_silent {event : LiveFeed.Event} {arrived : State}
    (silent : ∀ socket text, event ≠ .message socket text)
    (taken : s.arrive format event = some arrived) : arrived = s := by
  cases event with
  | message socket text => exact absurd rfl (silent socket text)
  | opened socket =>
    rw [State.arrive, Option.ite_none_left_eq_some] at taken
    exact (Option.some.inj taken.2).symm
  | _ => exact (Option.some.inj taken).symm

theorem sound_tab (sound : Sound unmarshal format start s) {event : LiveFeed.Event}
    {arrived : State}
    {feed : LiveFeed.State} (came : s.arrive format event = some arrived)
    (taken : LiveFeed.step s.feed event = some feed) :
    Sound unmarshal format start { arrived with feed := feed } := by
  have alive := LiveFeed.sound_step sound.relayed.alive taken
  cases hears sound.relayed.alive taken with
  | @message socket text last same calls =>
    rw [State.arrive, Option.ite_none_right_eq_some] at came
    obtain ⟨upcoming, here⟩ := came
    cases here
    exact sound.keep (sound.relayed.message alive upcoming last same calls)
  | reconnect more calls =>
    cases came
    exact sound.keep (sound.relayed.reconnect alive more calls)
  | other silent same calls =>
    cases arrive_silent silent came
    exact sound.keep (sound.relayed.silentTab alive same calls)

theorem others_quiet {event : Streaming.Event Frame} (may : s.othersMay event)
    (relayed : Relayed format s.hub s.links s.feed)
    {socket ch : Nat} (sub : Subscriber Frame)
    (relaying : (s.links socket).handler = .relaying ch) : event.taken ch sub = [] := by
  cases event with
  | receive other =>
    have begun : (s.links socket).handler ≠ .pending := by
      rw [relaying]
      exact Handler.noConfusion
    have made : socket < s.feed.sockets.length := relayed.made begun
    have apart : other ≠ ch := by
      rintro rfl
      exact may socket made (by rw [relaying]; rfl)
    exact if_neg apart
  | _ => rfl

theorem sound_step {event : Event} (sound : Sound unmarshal format start s)
    (taken : step unmarshal format s event = some after) : Sound unmarshal format start after := by
  have relayed := sound.relayed
  cases event with
  | replay event kept =>
    obtain ⟨job, ran, rfl⟩ := Option.map_eq_some_iff.mp taken
    refine ⟨sound.produced.replay ran kept, sound.consumed.idle ?_ rfl rfl rfl rfl, relayed⟩
    cases kept with
    | false => exact List.prefix_rfl
    | true => exact List.prefix_append ..
  | next plan =>
    obtain ⟨_, same⟩ := Option.ite_none_right_eq_some.mp taken
    cases same
    exact ⟨sound.produced.nextJob plan,
      sound.consumed.idle List.prefix_rfl rfl rfl rfl rfl, relayed⟩
  | select received order =>
    obtain ⟨position, read, taken⟩ := Option.bind_eq_some_iff.mp taken
    obtain ⟨⟨frames, window⟩, went, taken⟩ := Option.bind_eq_some_iff.mp taken
    obtain ⟨hub, broadcast, taken⟩ := Option.bind_eq_some_iff.mp taken
    cases taken
    obtain ⟨_, consumed⟩ := sound.consumed.select relayed.served read went broadcast
    refine ⟨⟨sound.produced.earlier, sound.produced.sound, sound.produced.inOrder,
      sound.produced.log⟩, consumed, ?_⟩
    cases frames with
    | nil =>
      cases broadcast
      exact relayed
    | cons frame others =>
      have stepped : Streaming.step s.hub (.broadcast frame order) = some hub := broadcast
      exact relayed.hubStep stepped fun _ _ _ _ => rfl
  | accept socket =>
    obtain ⟨⟨made, pending⟩, same⟩ := Option.ite_none_right_eq_some.mp taken
    cases same
    have silent : Handler.accepted.channel? = (s.links socket).handler.channel? := by
      rw [pending]
      rfl
    exact sound.keep (relayed.setHandler made silent nofun)
  | subscribe socket =>
    obtain ⟨accepted, taken⟩ := Option.ite_none_right_eq_some.mp taken
    obtain ⟨hub, stepped, taken⟩ := Option.bind_eq_some_iff.mp taken
    cases taken
    exact sound.serve stepped rfl (relayed.subscribe accepted stepped)
  | write socket succeeds =>
    simp only [step] at taken
    split at taken
    next ch relaying =>
      obtain ⟨frame, ready, taken⟩ := Option.bind_eq_some_iff.mp taken
      obtain ⟨hub, stepped, taken⟩ := Option.bind_eq_some_iff.mp taken
      cases taken
      exact sound.serve stepped rfl (relayed.write relaying ready stepped succeeds)
    next => cases taken
  | leave socket =>
    have leaves (ch : Nat) (hub : Hub Frame) (channel : (s.links socket).handler.channel? = some ch)
        (stepped : Streaming.step s.hub (.unsubscribe ch) = some hub) :
        Sound unmarshal format start
          ({ s with hub := hub }.setLink socket { s.links socket with handler := .gone ch }) := by
      have begun : (s.links socket).handler ≠ .pending := by
        intro pending
        rw [pending] at channel
        cases channel
      have made : socket < s.feed.sockets.length := relayed.made begun
      have after : Relayed format hub s.links s.feed := relayed.hubStep stepped fun _ _ _ _ => rfl
      exact sound.serve stepped rfl (after.setHandler made channel.symm nofun)
    simp only [step] at taken
    split at taken
    next ch relaying =>
      obtain ⟨hub, stepped, taken⟩ := Option.bind_eq_some_iff.mp taken
      cases taken
      exact leaves ch hub (by rw [relaying]; rfl) stepped
    next ch failed =>
      obtain ⟨hub, stepped, taken⟩ := Option.bind_eq_some_iff.mp taken
      cases taken
      exact leaves ch hub (by rw [failed]; rfl) stepped
    next => cases taken
  | tab event =>
    obtain ⟨arrived, came, taken⟩ := Option.bind_eq_some_iff.mp taken
    obtain ⟨feed, stepped, taken⟩ := Option.bind_eq_some_iff.mp taken
    cases taken
    exact sound_tab sound came stepped
  | others event =>
    obtain ⟨may, taken⟩ := Option.ite_none_right_eq_some.mp taken
    obtain ⟨hub, stepped, rfl⟩ := Option.map_eq_some_iff.mp taken
    have silent : event.frames = [] := by
      cases event with
      | broadcast frame order => exact absurd may not_false
      | _ => rfl
    exact sound.serve stepped silent (relayed.hubStep stepped fun _ _ sub relaying =>
      others_quiet may relayed sub relaying)

end Steps

section Screen

/-- The trips that the replay jobs have sent, as far as the consumer can read their messages. -/
def State.replayed (unmarshal : List UInt8 → Option TripEvent) (s : State) : List TripEvent :=
  s.runs.flatten.filterMap fun trip => unmarshal (value trip)

/-- The trips that the consumer has read off the partition. -/
def State.consumed (unmarshal : List UInt8 → Option TripEvent) (s : State) : List TripEvent :=
  (s.log.take s.position).filterMap fun trip => unmarshal (value trip)

/-- What the screen shows was replayed, in that order, none of it twice. The trips of all windows
that were broadcast, one window after the other, are the first trips that the consumer has read, so
that each window sums up consecutive ones and no two windows one trip. A connection that has heard all that its
handler took, and whose channel was never full, has missed nothing that was broadcast while it was
subscribed. -/
structure Faithful (unmarshal : List UInt8 → Option TripEvent) (format : Format) (s : State) :
    Prop where
  trips :
    s.feed.useLiveTripStream.trips.reverse.Sublist ((s.replayed unmarshal).map (shownTrip format))
  log : s.log.Sublist s.runs.flatten
  inOrder : ∀ run ∈ s.runs, InOrder run
  windows : ∃ closed : List (WindowAggregate × List TripEvent),
    closed.map Prod.fst = s.hub.broadcasts.filterMap windowOf ∧
    s.feed.useLiveTripStream.windowHistory.Sublist
      (closed.map fun entry => shownWindow format entry.1) ∧
    (∀ entry ∈ closed, Summarises entry.1 entry.2) ∧
    (closed.map Prod.snd).flatten <+: s.consumed unmarshal
  complete : ∀ ch sub, (latest s.links s.feed).handler = .relaying ch →
    s.hub.subscribers[ch]? = some sub →
    (latest s.links s.feed).arrived = (latest s.links s.feed).sent.length →
    sub.channel.buffer = [] →
    (∀ offer ∈ sub.offered, offer.2 = false) →
    (s.hub.whileSubscribed sub).map (shownFrame format) <:+ s.feed.calls.filterMap handed

theorem trips_sublist_replayed (sound : Sound unmarshal format start s) :
    (trips s.hub.broadcasts).Sublist (s.replayed unmarshal) := by
  rw [sound.consumed.trips]
  exact ((List.take_sublist ..).trans sound.produced.log).filterMap _

theorem handed_sublist (sound : Sound unmarshal format start s) :
    (s.feed.calls.filterMap handed).Sublist (s.hub.broadcasts.map (shownFrame format)) := by
  obtain ⟨before, earlier, shown⟩ := sound.relayed.screen
  have seen : (latest s.links s.feed).seen.Sublist _ :=
    seen_sublist sound.relayed.served (sound.relayed.connected _)
  have whole := earlier.append seen
  rw [List.take_append_drop] at whole
  rw [shown]
  exact whole.map _

theorem trip?_handed (calls : List LiveFeed.Callback) : calls.filterMap LiveFeed.Callback.trip? =
    (calls.filterMap handed).filterMap fun frame => LiveFeed.Callback.trip? (.onFrame frame) := by
  rw [List.filterMap_filterMap]
  congr 1
  funext call
  cases call <;> rfl

theorem window?_handed (calls : List LiveFeed.Callback) :
    calls.filterMap LiveFeed.Callback.window? =
    (calls.filterMap handed).filterMap fun frame => LiveFeed.Callback.window? (.onFrame frame) := by
  rw [List.filterMap_filterMap]
  congr 1
  funext call
  cases call <;> rfl

theorem shownTrips_sublist (sound : Sound unmarshal format start s) :
    (s.feed.calls.filterMap LiveFeed.Callback.trip?).Sublist
    ((trips s.hub.broadcasts).map (shownTrip format)) := by
  rw [trip?_handed, trips_eq, List.map_filterMap]
  refine ((handed_sublist sound).filterMap _).trans ?_
  rw [List.filterMap_map]
  have same : (fun frame => LiveFeed.Callback.trip? (.onFrame frame)) ∘ shownFrame format =
      fun frame => (tripOf frame).map (shownTrip format) := by
    funext frame
    cases frame <;> rfl
  rw [same]

theorem shownWindows_sublist (sound : Sound unmarshal format start s) :
    (s.feed.calls.filterMap LiveFeed.Callback.window?).Sublist
      ((s.hub.broadcasts.filterMap windowOf).map (shownWindow format)) := by
  rw [window?_handed, List.map_filterMap]
  refine ((handed_sublist sound).filterMap _).trans ?_
  rw [List.filterMap_map]
  have same : (fun frame => LiveFeed.Callback.window? (.onFrame frame)) ∘ shownFrame format =
      fun frame => (windowOf frame).map (shownWindow format) := by
    funext frame
    cases frame <;> rfl
  rw [same]

theorem broadcasts_summarised (sound : Sound unmarshal format start s) :
    ∀ entry ∈ windows [] s.hub.broadcasts, Summarises entry.1 entry.2 := by
  have ran := sound.consumed.ran []
  obtain ⟨frames, also, each⟩ := loop_summarises unmarshal (collected_new start) s.selected
  rw [List.append_nil, also] at ran
  simp only [loop, Option.map_some, List.append_nil, Option.some.injEq] at ran
  exact ran ▸ each

theorem complete_of_sound (sound : Sound unmarshal format start s) {ch : Nat}
    {sub : Subscriber Frame}
    (relaying : (latest s.links s.feed).handler = .relaying ch)
    (found : s.hub.subscribers[ch]? = some sub)
    (heard : (latest s.links s.feed).arrived = (latest s.links s.feed).sent.length)
    (empty : sub.channel.buffer = []) (roomy : ∀ offer ∈ sub.offered, offer.2 = false) :
    (s.hub.whileSubscribed sub).map (shownFrame format) <:+ s.feed.calls.filterMap handed := by
  obtain ⟨before, _, shown⟩ := sound.relayed.screen
  obtain ⟨again, also, _, exact_⟩ :=
    (sound.relayed.connected _).subscribed ch
      (show (latest s.links s.feed).handler.channel? = _ by rw [relaying]; rfl)
  cases found.symm.trans also
  have here := sound.relayed.served.each ch sub found
  have seen : (latest s.links s.feed).seen = s.hub.whileSubscribed sub := by
    calc (latest s.links s.feed).seen
      _ = (latest s.links s.feed).sent := by rw [Link.seen, heard, List.take_length]
      _ = sub.received := exact_ relaying
      _ = sub.accepted := by rw [← here.delivered, empty, List.append_nil]
      _ = sub.offered.map Prod.fst := by
        rw [Subscriber.accepted,
          List.filter_eq_self.mpr fun offer member => by simp [roomy offer member]]
      _ = s.hub.whileSubscribed sub := here.heard
  rw [shown, seen, List.map_append]
  exact List.suffix_append ..

/-- In every run of the replay jobs, the consumer, the hub, the handlers and the tab. -/
theorem feed_shows_replayed (reachable : (system unmarshal format plan start).Reachable s) :
    Faithful unmarshal format s := by
  have sound : Sound unmarshal format start s :=
    reachable.preserves (fun _ _ _ sound _ taken => sound_step sound taken) (sound_init plan start)
  have latest := LiveFeed.useLiveTripStream_latest s.feed
  refine ⟨?_, sound.produced.log, sound.produced.run,
    ⟨windows [] s.hub.broadcasts, windows_fst [] _, ?_, broadcasts_summarised sound, ?_⟩,
    fun ch sub => complete_of_sound sound⟩
  · rw [latest.1, List.reverse_take, List.reverse_reverse]
    have replayed := (trips_sublist_replayed sound).map (shownTrip format)
    exact ((List.drop_sublist ..).trans (shownTrips_sublist sound)).trans replayed
  · have closed : (windows [] s.hub.broadcasts).map (fun entry => shownWindow format entry.1) =
        (s.hub.broadcasts.filterMap windowOf).map (shownWindow format) := by
      rw [← windows_fst [], List.map_map]
      rfl
    rw [latest.2, LiveFeed.takeLast, closed]
    exact (List.drop_sublist ..).trans (shownWindows_sublist sound)
  · have whole := windows_partition [] s.hub.broadcasts
    rw [List.nil_append, sound.consumed.trips] at whole
    exact ⟨_, whole⟩

def fare (amount : Rat) : TripEvent := ⟨"", "", 0, 0, 1, 2, amount, 0, amount, 1⟩

def wholeNumbers : Format := ⟨fun value => (value.num, 0), fun _ => "1970-01-01T00:00:03Z"⟩

def lettered (bytes : List UInt8) : Option TripEvent :=
  if bytes = value ⟨0, "a"⟩ then some (fare 10)
  else if bytes = value ⟨1, "b"⟩ then some (fare 20)
  else if bytes = value ⟨2, "c"⟩ then some (fare 30)
  else none

def threeTrips : Replay.Plan := ⟨[⟨1, "b"⟩, ⟨0, "a"⟩, ⟨2, "c"⟩], none, 500⟩

def firstShown : List Event :=
  [.accept 0, .tab (.opened 0), .subscribe 0, .replay .start true, .replay .hsetnx true,
    .replay .hsetnx true,
    .replay .hsetnx true, .replay .expire true, .replay (.load [⟨0, "a"⟩, ⟨1, "b"⟩, ⟨2, "c"⟩]) true,
    .replay .poll true, .replay .send true, .select (.message (value ⟨0, "a"⟩)) [0], .write 0 true,
    .tab (.message 0 (frameText wholeNumbers (.trip (fare 10))))]

def reconnected : List Event :=
  [.tab (.closed 0), .leave 0, .replay .poll true, .replay .send true,
    .select (.message (value ⟨1, "b"⟩)) [],
    .tab (.timeout 1), .accept 1, .tab (.opened 1), .subscribe 1, .replay .poll true,
    .replay .send true, .select (.message (value ⟨2, "c"⟩)) [1], .write 1 true,
    .tab (.message 1 (frameText wholeNumbers (.trip (fare 30))))]

def windowShown : List Event :=
  [.select (.tick 3000000000) [1], .write 1 true,
    .tab (.message 1 (frameText wholeNumbers (.window ⟨3, 1, 60, 20, 2, 3000000000⟩)))]

theorem feed_shows_replayed_reconnected : ∃ s, s.feed.sockets.length = 2 ∧
    s.feed.useLiveTripStream.trips.length = 2 ∧ s.feed.useLiveTripStream.windowHistory.length = 1 ∧
    s.consumed lettered = [fare 10, fare 20, fare 30] ∧ Faithful lettered wholeNumbers s := by
  have replayed : ((system lettered wholeNumbers threeTrips 0).replay (fun _ _ => True)
      (init threeTrips 0) (firstShown ++ reconnected ++ windowShown)).map (fun s =>
        (s.feed.sockets.length, s.feed.useLiveTripStream.trips.length,
          s.feed.useLiveTripStream.windowHistory.length, s.consumed lettered)) =
      some (2, 2, 1, [fare 10, fare 20, fare 30]) := by
    decide +kernel
  obtain ⟨s, reachable, seen⟩ := TransitionSystem.reaches_of_replay replayed
  obtain ⟨sockets, trips, windows, consumed⟩ := by simpa only [Prod.mk.injEq] using seen
  exact ⟨s, sockets, trips, windows, consumed, feed_shows_replayed reachable⟩

end Screen

end OpenScale.TripFeed

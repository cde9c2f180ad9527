import OpenScale.TripFeed.System

/-! From the hub to the tab: what has been written of each connection, and what the screen has been
handed, however often the tab reconnects. -/

namespace OpenScale.TripFeed

open OpenScale.Library OpenScale.Streaming

variable {format : Format} {hub next : Hub Frame} {links : Nat → Link} {link : Link}
  {feed after : LiveFeed.State}
  {socket ch : Nat} {frame : Frame}

/-- The frame that a callback hands over. -/
def handed : LiveFeed.Callback → Option LiveFeed.StreamFrame
  | .onFrame frame => some frame
  | .onStatusChange _ => none

structure Connected (hub : Hub Frame) (link : Link) : Prop where
  arrived : link.arrived ≤ link.sent.length
  silent : link.handler.channel? = none → link.sent = []
  subscribed : ∀ ch, link.handler.channel? = some ch → ∃ sub, hub.subscribers[ch]? = some sub ∧
    link.sent <+: sub.received ∧ (link.handler = .relaying ch → link.sent = sub.received)

/-- How many frames had been broadcast when the handler subscribed, or have been by now. -/
def since (hub : Hub Frame) (handler : Handler) : Nat :=
  ((handler.channel?.bind (hub.subscribers[·]?)).map Subscriber.since).getD hub.broadcasts.length

/-- The connection of the last socket. -/
def latest (links : Nat → Link) (feed : LiveFeed.State) : Link := links (feed.sockets.length - 1)

/-- The screen has what arrived on the last connection, after what had been broadcast before that
was made. -/
structure Relayed (format : Format) (hub : Hub Frame) (links : Nat → Link) (feed : LiveFeed.State) :
    Prop where
  served : Streaming.Sound hub
  alive : LiveFeed.Sound feed
  connected : ∀ socket, Connected hub (links socket)
  unmade : ∀ socket, feed.sockets.length ≤ socket → links socket = .fresh
  distinct : ∀ first second ch, (links first).handler.channel? = some ch →
    (links second).handler.channel? = some ch → first = second
  screen : ∃ before : List Frame,
    before.Sublist (hub.broadcasts.take (since hub (latest links feed).handler)) ∧
    feed.calls.filterMap handed = (before ++ (latest links feed).seen).map (shownFrame format)

section Hub

theorem received_sublist (sound : Streaming.Sound hub) {sub : Subscriber Frame}
    (found : hub.subscribers[ch]? = some sub) :
    sub.received.Sublist (hub.broadcasts.drop sub.since) := by
  have here := sound.each ch sub found
  have within :
      (between hub.broadcasts sub.since sub.ended).Sublist (hub.broadcasts.drop sub.since) := by
    cases sub.ended with
    | none => exact .refl _
    | some n => exact (List.take_sublist n _).drop sub.since
  calc sub.received.Sublist (sub.received ++ sub.channel.buffer) := List.sublist_append_left ..
    _ = sub.accepted := here.delivered
    List.Sublist _ (sub.offered.map Prod.fst) := List.filter_sublist.map _
    _ = between hub.broadcasts sub.since sub.ended := here.heard
    List.Sublist _ (hub.broadcasts.drop sub.since) := within

theorem since_of_found {handler : Handler} {sub : Subscriber Frame}
    (channel : handler.channel? = some ch)
    (found : hub.subscribers[ch]? = some sub) : since hub handler = sub.since := by
  simp [since, channel, found]

theorem since_of_none {handler : Handler} (channel : handler.channel? = none) :
    since hub handler = hub.broadcasts.length := by
  simp [since, channel]

theorem seen_sublist (sound : Streaming.Sound hub) (connected : Connected hub link) :
    link.seen.Sublist (hub.broadcasts.drop (since hub link.handler)) := by
  cases channel : link.handler.channel? with
  | none =>
    rw [Link.seen, connected.silent channel, List.take_nil]
    exact List.nil_sublist _
  | some ch =>
    obtain ⟨sub, found, written, _⟩ := connected.subscribed ch channel
    rw [since_of_found channel found]
    exact ((List.take_sublist _ _).trans written.sublist).trans (received_sublist sound found)

theorem earlier_step (sound : Streaming.Sound hub) {event : Streaming.Event Frame}
    (taken : Streaming.step hub event = some next) (connected : Connected hub link) :
    (hub.broadcasts.take (since hub link.handler)).Sublist
    (next.broadcasts.take (since next link.handler)) := by
  rw [broadcasts_step sound taken]
  cases channel : link.handler.channel? with
  | none =>
    rw [since_of_none channel, since_of_none channel, List.take_length, broadcasts_step sound taken,
      List.take_length]
    exact List.sublist_append_left ..
  | some ch =>
    obtain ⟨sub, found, _⟩ := connected.subscribed ch channel
    obtain ⟨later, seen, same, _⟩ := subscriber_step sound taken found
    rw [since_of_found channel found, since_of_found channel seen, same,
      List.take_append_of_le_length (sound.each ch sub found).since]

theorem Connected.hubStep (connected : Connected hub link) (sound : Streaming.Sound hub)
    {event : Streaming.Event Frame} (taken : Streaming.step hub event = some next)
    (quiet : ∀ ch sub, link.handler = .relaying ch → event.taken ch sub = []) :
    Connected next link where
  arrived := connected.arrived
  silent := connected.silent
  subscribed ch channel := by
    obtain ⟨sub, found, written, exact_⟩ := connected.subscribed ch channel
    obtain ⟨later, seen, _, received⟩ := subscriber_step sound taken found
    refine ⟨later, seen, ?_, fun relaying => ?_⟩
    · rw [received]
      exact written.trans (List.prefix_append ..)
    · rw [received, quiet ch sub relaying, List.append_nil]
      exact exact_ relaying

theorem sound_hub (sound : Streaming.Sound hub) {event : Streaming.Event Frame}
    (taken : Streaming.step hub event = some next) : Streaming.Sound next := by
  cases event with
  | subscribe => exact sound_subscribe sound taken
  | unsubscribe ch => exact sound_unsubscribe sound taken
  | broadcast frame order => exact sound_broadcast sound taken
  | receive ch => exact sound_receive sound taken

theorem Relayed.hubStep (relayed : Relayed format hub links feed) {event : Streaming.Event Frame}
    (taken : Streaming.step hub event = some next)
    (quiet : ∀ socket ch sub, (links socket).handler = .relaying ch → event.taken ch sub = []) :
    Relayed format next links feed where
  served := sound_hub relayed.served taken
  alive := relayed.alive
  connected socket := (relayed.connected socket).hubStep relayed.served taken (quiet socket)
  unmade := relayed.unmade
  distinct := relayed.distinct
  screen := by
    obtain ⟨before, earlier, shown⟩ := relayed.screen
    exact ⟨before, earlier.trans (earlier_step relayed.served taken (relayed.connected _)), shown⟩

end Hub

section Links

theorem Relayed.setLink (relayed : Relayed format hub links feed)
    (made : socket < feed.sockets.length)
    (connected : Connected hub link) (same : link.seen = (links socket).seen)
    (before : since hub link.handler = since hub (links socket).handler)
    (alone : ∀ ch, link.handler.channel? = some ch → ∀ other, other ≠ socket →
      (links other).handler.channel? ≠ some ch) :
    Relayed format hub (Function.update links socket link) feed where
  served := relayed.served
  alive := relayed.alive
  connected other := by
    by_cases here : other = socket
    · subst here
      rw [Function.update_self]
      exact connected
    · rw [Function.update_of_ne here]
      exact relayed.connected other
  unmade other beyond := by
    rw [Function.update_of_ne (by omega)]
    exact relayed.unmade other beyond
  distinct first second ch left right := by
    by_cases one : first = socket
    · by_cases two : second = socket
      · exact one.trans two.symm
      · subst one
        rw [Function.update_self] at left
        rw [Function.update_of_ne two] at right
        exact absurd right (alone ch left second two)
    · rw [Function.update_of_ne one] at left
      by_cases two : second = socket
      · subst two
        rw [Function.update_self] at right
        exact absurd left (alone ch right first one)
      · rw [Function.update_of_ne two] at right
        exact relayed.distinct first second ch left right
  screen := by
    have seen : (latest (Function.update links socket link) feed).seen = (latest links feed).seen ∧
        since hub (latest (Function.update links socket link) feed).handler =
          since hub (latest links feed).handler := by
      unfold latest
      by_cases here : feed.sockets.length - 1 = socket
      · rw [here, Function.update_self]
        exact ⟨same, before⟩
      · rw [Function.update_of_ne here]
        exact ⟨rfl, rfl⟩
    rw [seen.1, seen.2]
    exact relayed.screen

theorem Relayed.setHandler (relayed : Relayed format hub links feed)
    (made : socket < feed.sockets.length)
    {handler : Handler} (same : handler.channel? = (links socket).handler.channel?)
    (stops : ∀ ch, handler ≠ .relaying ch) :
    Relayed format hub
      (Function.update links socket { links socket with handler := handler }) feed := by
  have connected := relayed.connected socket
  refine relayed.setLink made ⟨connected.arrived, fun silent => ?_, fun ch channel => ?_⟩ rfl ?_ ?_
  · exact connected.silent (same ▸ silent)
  · obtain ⟨sub, found, written, _⟩ := connected.subscribed ch (same ▸ channel)
    exact ⟨sub, found, written, fun relaying => absurd relaying (stops ch)⟩
  · unfold since
    rw [show ({ links socket with handler := handler } : Link).handler = handler from rfl, same]
  · intro ch channel other others taken
    exact others (relayed.distinct other socket ch taken (same ▸ channel))

theorem Relayed.made (relayed : Relayed format hub links feed)
    (begun : (links socket).handler ≠ .pending) : socket < feed.sockets.length := by
  by_contra beyond
  rw [relayed.unmade socket (by omega)] at begun
  exact begun rfl

theorem Relayed.subscribe (relayed : Relayed format hub links feed)
    (accepted : (links socket).handler = .accepted)
    (taken : Streaming.step hub .subscribe = some next) :
    Relayed format next
      (Function.update links socket
        { links socket with handler := .relaying hub.subscribers.length }) feed := by
  have stepped : Relayed format next links feed := relayed.hubStep taken fun _ _ _ _ => rfl
  have silent := (relayed.connected socket).silent (by rw [accepted]; rfl)
  rw [Streaming.step, if_neg fun panicked => panicked relayed.served.calm] at taken
  cases taken
  have fresh :
      (hub.subscribers ++ [Subscriber.fresh hub.broadcasts.length])[hub.subscribers.length]? =
      some (.fresh hub.broadcasts.length) := by simp
  have begun : (links socket).handler ≠ .pending := by
    rw [accepted]
    exact Handler.noConfusion
  refine stepped.setLink (relayed.made begun) ⟨?_, ?_, ?_⟩ rfl ?_ ?_
  · exact (relayed.connected socket).arrived
  · intro none
    cases none
  · intro ch channel
    cases channel
    exact ⟨_, fresh, by rw [silent]; exact List.nil_prefix, fun _ => silent⟩
  · have before : (links socket).handler.channel? = none := by rw [accepted]; rfl
    refine (since_of_found rfl fresh).trans ?_
    rw [since_of_none before]
    rfl
  · intro ch channel other _ taken
    cases channel
    obtain ⟨sub, found, _⟩ := (relayed.connected other).subscribed _ taken
    exact absurd (List.getElem?_eq_some_iff.mp found).1 (Nat.lt_irrefl _)

theorem Relayed.write (relayed : Relayed format hub links feed)
    (relaying : (links socket).handler = .relaying ch)
    (upcoming : upcoming hub ch = some frame) (taken : Streaming.step hub (.receive ch) = some next)
    (succeeds : Bool) : Relayed format next (Function.update links socket
      (if succeeds then { links socket with sent := (links socket).sent ++ [frame] }
        else { links socket with handler := .failed ch })) feed := by
  have made := relayed.made (by rw [relaying]; nofun)
  have channel : (links socket).handler.channel? = some ch := by rw [relaying]; rfl
  have failing :
      Relayed format next (Function.update links socket { links socket with handler := .failed ch })
        feed := by
    have same : (Handler.failed ch).channel? = (links socket).handler.channel? := channel.symm
    refine (relayed.setHandler made same nofun).hubStep taken fun other c sub relays => ?_
    by_cases here : other = socket
    · subst here
      rw [Function.update_self] at relays
      cases relays
    · rw [Function.update_of_ne here] at relays
      have apart : ch ≠ c := by
        rintro rfl
        exact here (relayed.distinct other socket ch (by rw [relays]; rfl) channel)
      exact if_neg apart
  cases succeeds with
  | false => exact failing
  | true =>
    obtain ⟨sub, found, _, exact_⟩ := (relayed.connected socket).subscribed ch channel
    obtain ⟨later, seen, sinceSame, received⟩ := subscriber_step relayed.served taken found
    have sent : later.received = (links socket).sent ++ [frame] := by
      rw [received, exact_ relaying]
      rw [TripFeed.upcoming, found, Option.bind_some] at upcoming
      simp [Event.taken, upcoming]
    have arrived := (relayed.connected socket).arrived
    have connected :
        Connected next { links socket with sent := (links socket).sent ++ [frame] } := by
      refine ⟨?_, fun silent => ?_, fun c mine => ?_⟩
      · rw [List.length_append]
        exact Nat.le_add_right_of_le arrived
      · cases channel.symm.trans silent
      · cases channel.symm.trans mine
        exact ⟨later, seen, by rw [sent], fun _ => sent.symm⟩
    have again := failing.setLink made connected
    rw [Function.update_self, Function.update_idem] at again
    refine again ?_ ?_ ?_
    · exact List.take_append_of_le_length arrived
    · exact (since_of_found channel seen).trans (since_of_found rfl seen).symm
    · intro c mine other others
      rw [Function.update_of_ne others]
      exact fun taken => others (relayed.distinct other socket c taken mine)

end Links

section Tab

/-- What an event of the tab comes to: a message is the last socket's, and only a timer makes
another one. -/
inductive Hears (feed after : LiveFeed.State) : LiveFeed.Event → Prop where
  | message {socket : Nat} {text : List Char} (last : socket + 1 = feed.sockets.length)
      (same : after.sockets.length = feed.sockets.length)
      (calls : after.calls.filterMap handed = feed.calls.filterMap handed ++
        (LiveFeed.frameOf text).toList) : Hears feed after (.message socket text)
  | reconnect {timer : Nat} (more : after.sockets.length = feed.sockets.length + 1)
      (calls : after.calls.filterMap handed = feed.calls.filterMap handed) :
      Hears feed after (.timeout timer)
  | other {event : LiveFeed.Event} (silent : ∀ socket text, event ≠ .message socket text)
      (same : after.sockets.length = feed.sockets.length)
      (calls : after.calls.filterMap handed = feed.calls.filterMap handed) : Hears feed after event

theorem hears (sound : LiveFeed.Sound feed) {event : LiveFeed.Event}
    (taken : LiveFeed.step feed event = some after) : Hears feed after event := by
  obtain ⟨n, last, invariant⟩ := sound
  obtain ⟨result, handled, rfl⟩ := Option.map_eq_some_iff.mp taken
  have length : feed.sockets.length = n + 1 := by simp [invariant.sockets]
  cases invariant.acts handled with
  | opened connecting =>
    refine .other (fun _ _ => LiveFeed.Event.noConfusion) ?_ ?_ <;>
      simp [LiveFeed.State.record, LiveFeed.onOpen, LiveFeed.become, handed]
  | message text opened =>
    unfold LiveFeed.onMessage
    refine .message length.symm ?_ ?_
    · cases LiveFeed.frameOf text <;> rfl
    · cases LiveFeed.frameOf text <;> simp [LiveFeed.State.record, handed]
  | error unclosed =>
    rw [LiveFeed.closeSocket_of_current (invariant.become .closing) invariant.current]
    exact .other (fun _ _ => LiveFeed.Event.noConfusion)
      (by simp [LiveFeed.State.record, length]) rfl
  | closed unclosed =>
    refine .other (fun _ _ => LiveFeed.Event.noConfusion) ?_ ?_
    · simp only [LiveFeed.onClose, LiveFeed.State.record, LiveFeed.scheduleReconnect]
      repeat' split
      all_goals simp [LiveFeed.become]
    · simp only [LiveFeed.onClose, LiveFeed.State.record, LiveFeed.scheduleReconnect]
      repeat' split
      all_goals simp [LiveFeed.become, handed]
  | timeout fired =>
    have running : feed.closed = false := by
      rcases invariant.phase with ⟨_, _, timers⟩ | ⟨running, _⟩ | ⟨_, _, timers⟩
      · simp [timers] at fired
      · exact running
      · simp [timers] at fired
    refine .reconnect ?_ ?_ <;> simp [LiveFeed.State.record, LiveFeed.openSocket, running, handed]
  | dispose =>
    rw [invariant.disconnect]
    exact .other (fun _ _ => LiveFeed.Event.noConfusion)
      (by simp [LiveFeed.State.record, length]) rfl

theorem Relayed.silentTab (relayed : Relayed format hub links feed) (alive : LiveFeed.Sound after)
    (same : after.sockets.length = feed.sockets.length)
    (calls : after.calls.filterMap handed = feed.calls.filterMap handed) :
    Relayed format hub links after where
  served := relayed.served
  alive := alive
  connected := relayed.connected
  unmade := same ▸ relayed.unmade
  distinct := relayed.distinct
  screen := by
    rw [calls, latest, same]
    exact relayed.screen

theorem Relayed.reconnect (relayed : Relayed format hub links feed) (alive : LiveFeed.Sound after)
    (more : after.sockets.length = feed.sockets.length + 1)
    (calls : after.calls.filterMap handed = feed.calls.filterMap handed) :
    Relayed format hub links after where
  served := relayed.served
  alive := alive
  connected := relayed.connected
  unmade socket beyond := relayed.unmade socket (by omega)
  distinct := relayed.distinct
  screen := by
    obtain ⟨before, earlier, shown⟩ := relayed.screen
    have fresh : latest links after = .fresh := by
      rw [latest, more]
      exact relayed.unmade _ (Nat.le_refl _)
    have seen : (latest links feed).seen.Sublist _ :=
      seen_sublist relayed.served (relayed.connected _)
    have whole := earlier.append seen
    rw [List.take_append_drop] at whole
    refine ⟨before ++ (latest links feed).seen, ?_, ?_⟩
    · rw [fresh, since_of_none rfl, List.take_length]
      exact whole
    · rw [calls, shown, fresh, show Link.fresh.seen = [] from rfl, List.append_nil]

theorem Relayed.message (relayed : Relayed format hub links feed) (alive : LiveFeed.Sound after)
    {text : List Char}
    (next : ((links socket).sent[(links socket).arrived]?).map (frameText format) = some text)
    (last : socket + 1 = feed.sockets.length) (same : after.sockets.length = feed.sockets.length)
    (calls : after.calls.filterMap handed = feed.calls.filterMap handed ++
      (LiveFeed.frameOf text).toList) : Relayed format hub
      (Function.update links socket { links socket with arrived := (links socket).arrived + 1 })
        after := by
  obtain ⟨frame, found, rfl⟩ := Option.map_eq_some_iff.mp next
  rw [frameOf_frameText] at calls
  obtain ⟨inside, here⟩ := List.getElem?_eq_some_iff.mp found
  have connected := relayed.connected socket
  have seen : ({ links socket with arrived := (links socket).arrived + 1 } : Link).seen =
      (links socket).seen ++ [frame] := by
    rw [Link.seen, List.take_add_one, found]
    rfl
  have current : latest links feed = links socket := by
    rw [latest, ← last, Nat.add_sub_cancel]
  refine ⟨relayed.served, alive, fun other => ?_, fun other beyond => ?_, ?_, ?_⟩
  · by_cases mine : other = socket
    · subst mine
      rw [Function.update_self]
      exact ⟨inside, connected.silent, connected.subscribed⟩
    · rw [Function.update_of_ne mine]
      exact relayed.connected other
  · rw [Function.update_of_ne (by omega)]
    exact relayed.unmade other (same ▸ beyond)
  · have channels : ∀ other, (Function.update links socket
        { links socket with arrived := (links socket).arrived + 1 } other).handler =
        (links other).handler := by
      intro other
      by_cases mine : other = socket
      · subst mine
        rw [Function.update_self]
      · rw [Function.update_of_ne mine]
    intro first second ch left right
    rw [channels] at left right
    exact relayed.distinct first second ch left right
  · obtain ⟨before, earlier, shown⟩ := relayed.screen
    rw [current] at earlier shown
    refine ⟨before, ?_, ?_⟩
    · rw [latest, same, ← last, Nat.add_sub_cancel, Function.update_self]
      exact earlier
    · rw [calls, shown, latest, same, ← last, Nat.add_sub_cancel, Function.update_self, seen]
      simp

end Tab

end OpenScale.TripFeed

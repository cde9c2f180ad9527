import OpenScale.Ws.Hub

/-! The registry of the job hub is exact, whatever the order of the calls: the map holds what is
registered and no more, and Run offers each event to what was registered for its job id at the
snapshot. -/

namespace OpenScale.Ws

open OpenScale.Library OpenScale.Library.GoSlice OpenScale.Library.TransitionSystem

namespace Hub

variable (hub : Hub)

def subs : Slice := (hub.sending.map Sending.subs).getD .nil

/-- What Run still goes through, with what it has been through. -/
def targets : List Chan := (hub.sending.map fun sending => sending.round.targets).getD []

def current : List JobEvent := (hub.sending.map fun sending => sending.round.event).toList

/-- The rounds so far, the one that is on included. -/
def rounds : List Round := hub.finished ++ (hub.sending.map Sending.round).toList

/-- The events of the rounds in which a channel has had its turn. -/
def offeredTo (ch : Nat) : List JobEvent :=
  (hub.rounds.filter fun round => some ch ∈ round.offered).map Round.event

end Hub

/-- A subscriber was offered these events, and has got those of them that found room. -/
structure Hears (events : List JobEvent) (sub : Subscriber) : Prop where
  offered : sub.offered.map Prod.fst = events
  delivered : sub.received ++ sub.channel.buffer = sub.accepted

structure Recorded (hub : Hub) : Prop where
  represents : Represents hub.registry hub.subs (held hub.calls hub.targets)
  subscribed : ∀ jobId ch, .subscribe jobId ch ∈ hub.calls ↔
    (hub.subscribers.map Subscriber.jobId)[ch]? = some jobId
  unsubscribed : ∀ ch, .unsubscribe ch ∈ hub.calls ↔
    (hub.subscribers.map fun sub => sub.channel.closed)[ch]? = some true
  distinct : ∀ jobId, (hub.calls.filterMap (Call.subscribed? jobId)).Nodup

structure Offered (hub : Hub) : Prop where
  events : hub.events = hub.finished.map Round.event ++ hub.current
  finished : ∀ round ∈ hub.finished, round.offered = round.targets ∧ round.calls <+: hub.calls
  current : ∀ sending, hub.sending = some sending →
    sending.round.offered = sending.round.targets.take sending.next ∧
    sending.round.calls <+: hub.calls
  calm : hub.panicked = true → ∃ sending ch, hub.sending = some sending ∧
    sending.round.targets[sending.next]? = some (some ch) ∧ .unsubscribe ch ∈ hub.calls
  heard : ∀ (ch : Nat) sub, hub.subscribers[ch]? = some sub → Hears (hub.offeredTo ch) sub

structure Sound (hub : Hub) : Prop extends Recorded hub, Offered hub

variable {spare : Nat → Nat → Nat} {hub next : Hub} {sub old : Subscriber} {event : JobEvent}
  {events : List JobEvent} {sending : Sending} {ch : Nat} {jobId : String}

section Lookups

theorem getElem?_concat_iff {Item : Type} {list : List Item} {last item : Item} {i : Nat} :
    (list ++ [last])[i]? = some item ↔ list[i]? = some item ∨ i = list.length ∧ last = item := by
  rcases Nat.lt_trichotomy i list.length with before | same | after
  · rw [List.getElem?_append_left before]
    simp [Nat.ne_of_lt before]
  · subst same
    rw [List.getElem?_concat_length, List.getElem?_eq_none (Nat.le_refl _)]
    simp
  · rw [List.getElem?_eq_none (by rw [List.length_append, List.length_singleton]; omega),
      List.getElem?_eq_none (Nat.le_of_lt after)]
    simp [Nat.ne_of_gt after]

theorem map_set_same {Item View : Type} {list : List Item} {view : Item → View}
    {before now : Item} {i : Nat}
    (found : list[i]? = some before) (same : view now = view before) :
    (list.set i now).map view = list.map view := by
  obtain ⟨inside, rfl⟩ := List.getElem?_eq_some_iff.mp found
  have mapped : i < (list.map view).length := by rwa [List.length_map]
  have there : (list.map view)[i] = view list[i] := List.getElem_map ..
  rw [List.map_set, same, ← there, List.set_getElem_self]

theorem Recorded.fresh (recorded : Recorded hub) :
    .unsubscribe hub.subscribers.length ∉ hub.calls := by
  intro called
  have inside := (List.getElem?_eq_some_iff.mp ((recorded.unsubscribed _).mp called)).1
  rw [List.length_map] at inside
  exact Nat.lt_irrefl _ inside

theorem Recorded.nodup (recorded : Recorded hub) (jobId : String) :
    (registered hub.calls jobId).Nodup :=
  (recorded.distinct jobId).filter _

theorem Recorded.owner (recorded : Recorded hub) (called : .subscribe jobId ch ∈ hub.calls) :
    ∃ sub, hub.subscribers[ch]? = some sub ∧ sub.jobId = jobId := by
  have found := (recorded.subscribed jobId ch).mp called
  rw [List.getElem?_map] at found
  exact Option.map_eq_some_iff.mp found

theorem Recorded.closed_iff (recorded : Recorded hub) (found : hub.subscribers[ch]? = some sub) :
    sub.channel.closed = true ↔ .unsubscribe ch ∈ hub.calls := by
  rw [recorded.unsubscribed, List.getElem?_map, found, Option.map_some, Option.some.injEq]

variable {round : Round}

theorem Recorded.targets_nodup (recorded : Recorded hub) (earlier : round.calls <+: hub.calls) :
    round.targets.Nodup := by
  have distinct := (recorded.distinct round.event.jobId).sublist (earlier.sublist.filterMap _)
  exact (distinct.filter _).map fun _ _ => Option.some.inj

theorem Recorded.target_owner (recorded : Recorded hub) (earlier : round.calls <+: hub.calls)
    (target : some ch ∈ round.targets) :
    ∃ sub, hub.subscribers[ch]? = some sub ∧ sub.jobId = round.event.jobId := by
  obtain ⟨c, inside, same⟩ := List.mem_map.mp target
  cases same
  exact recorded.owner (earlier.subset (mem_registered.mp inside).1)

theorem Sound.offered_owner (sound : Sound hub) (member : round ∈ hub.rounds)
    (turn : some ch ∈ round.offered) :
    ∃ sub, hub.subscribers[ch]? = some sub ∧ sub.jobId = round.event.jobId := by
  rcases List.mem_append.mp member with before | now
  · obtain ⟨exact_, earlier⟩ := sound.finished round before
    exact sound.target_owner earlier (exact_ ▸ turn)
  · obtain ⟨sending, sends, rfl⟩ := Option.map_eq_some_iff.mp (Option.mem_toList.mp now)
    obtain ⟨front, earlier⟩ := sound.current sending sends
    exact sound.target_owner earlier (List.mem_of_mem_take (front ▸ turn))

theorem Sound.offeredTo_fresh (sound : Sound hub) : hub.offeredTo hub.subscribers.length = [] := by
  rw [Hub.offeredTo, List.map_eq_nil_iff, List.filter_eq_nil_iff]
  intro round member turn
  obtain ⟨sub, found, _⟩ := sound.offered_owner member (of_decide_eq_true turn)
  exact Nat.lt_irrefl _ (List.getElem?_eq_some_iff.mp found).1

end Lookups

section Frames

theorem Recorded.replace (recorded : Recorded hub) (found : hub.subscribers[ch]? = some old)
    (subscribers : next.subscribers = hub.subscribers.set ch sub) (owner : sub.jobId = old.jobId)
    (closed : sub.channel.closed = old.channel.closed) (registry : next.registry = hub.registry)
    (subs : next.subs = hub.subs) (targets : next.targets = hub.targets)
    (calls : next.calls = hub.calls) : Recorded next := by
  have closes : (hub.subscribers.set ch sub).map (fun sub => sub.channel.closed) =
      hub.subscribers.map fun sub => sub.channel.closed := map_set_same found closed
  refine ⟨?_, fun jobId c => ?_, fun c => ?_, ?_⟩
  · rw [registry, subs, targets, calls]
    exact recorded.represents
  · rw [calls, subscribers, map_set_same found owner]
    exact recorded.subscribed jobId c
  · rw [calls, subscribers, closes]
    exact recorded.unsubscribed c
  · rw [calls]
    exact recorded.distinct

theorem Offered.grow (offered : Offered hub) (calls : hub.calls <+: next.calls)
    (events : next.events = hub.events)
    (finished : next.finished = hub.finished) (sending : next.sending = hub.sending)
    (panicked : next.panicked = hub.panicked)
    (heard : ∀ (ch : Nat) sub, next.subscribers[ch]? = some sub → Hears (hub.offeredTo ch) sub) :
    Offered next := by
  have current : next.current = hub.current := congrArg (fun s => (Option.map _ s).toList) sending
  have turns : next.offeredTo = hub.offeredTo := by
    funext c
    rw [Hub.offeredTo, Hub.offeredTo, Hub.rounds, Hub.rounds, finished, sending]
  refine ⟨?_, ?_, ?_, ?_, turns ▸ heard⟩
  · rw [events, finished, current]
    exact offered.events
  · intro round inside
    obtain ⟨exact_, earlier⟩ := offered.finished round (finished ▸ inside)
    exact ⟨exact_, earlier.trans calls⟩
  · intro s sends
    obtain ⟨front, earlier⟩ := offered.current s (sending ▸ sends)
    exact ⟨front, earlier.trans calls⟩
  · intro panics
    obtain ⟨s, c, sends, target, called⟩ := offered.calm (panicked ▸ panics)
    exact ⟨s, c, sending ▸ sends, target, calls.subset called⟩

theorem heard_set {past : Nat → List JobEvent}
    (heard : ∀ (c : Nat) other, c ≠ ch → hub.subscribers[c]? = some other → Hears (past c) other)
    (found : hub.subscribers[ch]? = some old) (now : Hears (past ch) sub) (c : Nat)
    (other : Subscriber)
    (seen : (hub.subscribers.set ch sub)[c]? = some other) : Hears (past c) other := by
  by_cases same : ch = c
  · subst same
    rw [List.getElem?_set_self (List.getElem?_eq_some_iff.mp found).1] at seen
    cases seen
    exact now
  · rw [List.getElem?_set_ne same] at seen
    exact heard c other (Ne.symm same) seen

end Frames

section Steps

theorem sound_new : Sound newHub := by
  have held_nil : held [] [] = fun _ => [] := by
    funext key
    cases key with
    | none => rfl
    | some jobId => rfl
  refine ⟨⟨?_, fun jobId ch => ?_, fun ch => ?_, fun jobId => List.nodup_nil⟩,
    ⟨rfl, nofun, nofun, nofun, nofun⟩⟩
  · show Represents .empty .nil (held [] [])
    rw [held_nil]
    exact represents_empty
  · exact ⟨nofun, nofun⟩
  · exact ⟨nofun, nofun⟩

theorem sound_subscribe (sound : Sound hub) (jobId : String) :
    Sound (hub.subscribe spare jobId) := by
  have fresh := sound.fresh
  refine ⟨⟨?_, fun id c => ?_, fun c => ?_, fun id => ?_⟩, ?_⟩
  · show Represents _ hub.subs (held (hub.calls ++ [_]) hub.targets)
    rw [held_subscribe fresh]
    exact represents_subscribe sound.represents jobId _
  · simp only [Hub.subscribe, List.mem_append, List.mem_singleton, List.map_append,
      List.map_singleton,
      getElem?_concat_iff, List.length_map, ← sound.subscribed id c, Call.subscribe.injEq]
    rw [eq_comm (a := id), and_comm]
  · simp only [Hub.subscribe, List.mem_append, List.mem_singleton, List.map_append,
      List.map_singleton, getElem?_concat_iff, sound.unsubscribed c]
    simp [Channel.make]
  · show ((hub.calls ++ [Call.subscribe jobId hub.subscribers.length]).filterMap
        (Call.subscribed? id)).Nodup
    rw [List.filterMap_append]
    by_cases same : jobId = id
    · have made : [Call.subscribe jobId hub.subscribers.length].filterMap (Call.subscribed? id) =
          [hub.subscribers.length] := by simp [Call.subscribed?, same]
      rw [made]
      refine List.nodup_append.mpr ⟨sound.distinct id, List.nodup_singleton _,
        fun c inside new last => ?_⟩
      obtain ⟨sub, found, _⟩ := sound.owner (mem_subscribed.mp inside)
      have before := (List.getElem?_eq_some_iff.mp found).1
      rw [List.mem_singleton.mp last]
      exact Nat.ne_of_lt before
    · have made : [Call.subscribe jobId hub.subscribers.length].filterMap (Call.subscribed? id) =
          [] := by
        simp [Call.subscribed?, same]
      rw [made, List.append_nil]
      exact sound.distinct id
  · refine sound.grow (List.prefix_append _ _) rfl rfl rfl rfl fun c sub found => ?_
    rcases getElem?_concat_iff.mp found with before | ⟨rfl, rfl⟩
    · exact sound.heard c sub before
    · exact ⟨sound.offeredTo_fresh.symm, rfl⟩

theorem sound_unsubscribe (sound : Sound hub) (taken : hub.unsubscribe spare ch = some next) :
    Sound next := by
  unfold Hub.unsubscribe at taken
  split at taken
  next => cases taken
  next sub found =>
    split at taken
    next => cases taken
    next once =>
      have opened : sub.channel.closed = false := by
        rw [← Bool.not_eq_true, sound.closed_iff found]
        exact once
      rw [Channel.close_open opened] at taken
      cases taken
      have alone : ∀ another, another ≠ sub.jobId → ch ∉ registered hub.calls another := by
        intro another different inside
        obtain ⟨owned, seen, rfl⟩ := sound.owner (mem_registered.mp inside).1
        rw [found] at seen
        cases seen
        exact different rfl
      have inside := (List.getElem?_eq_some_iff.mp found).1
      refine ⟨⟨?_, fun id c => ?_, fun c => ?_, fun id => ?_⟩, ?_⟩
      · show Represents _ hub.subs (held (hub.calls ++ [_]) hub.targets)
        rw [held_unsubscribe (sound.nodup sub.jobId) alone]
        exact represents_unsubscribe sound.represents sub.jobId ch
      · have owners : ∀ channel,
            (hub.subscribers.set ch { sub with channel := channel }).map Subscriber.jobId =
            hub.subscribers.map Subscriber.jobId := fun channel => map_set_same found rfl
        dsimp only
        rw [owners, ← sound.subscribed id c]
        simp
      · rw [List.map_set, List.getElem?_set, List.mem_append, List.mem_singleton,
          Call.unsubscribe.injEq, sound.unsubscribed c, List.length_map]
        by_cases same : ch = c
        · subst same
          simp [inside]
        · simp [same, Ne.symm same]
      · rw [List.filterMap_append]
        exact (List.append_nil _).symm ▸ sound.distinct id
      · have hears := sound.heard ch sub found
        exact sound.grow (List.prefix_append _ _) rfl rfl rfl rfl
          (heard_set (fun c other _ => sound.heard c other) found ⟨hears.offered, hears.delivered⟩)

theorem sound_receive (sound : Sound hub) (taken : hub.receive ch = some next) : Sound next := by
  unfold Hub.receive at taken
  split at taken
  next => cases taken
  next sub found =>
    split at taken
    next => cases taken
    next event channel received =>
      cases taken
      obtain ⟨buffer, closed⟩ := Channel.receive_some received
      refine ⟨sound.replace found rfl rfl closed rfl rfl rfl rfl,
        sound.grow (List.prefix_refl _) rfl rfl rfl rfl
          (heard_set (fun c other _ => sound.heard c other) found ?_)⟩
      obtain ⟨offered, delivered⟩ := sound.heard ch sub found
      refine ⟨offered, ?_⟩
      rw [List.append_assoc, List.singleton_append, ← buffer]
      exact delivered

theorem sound_take (sound : Sound hub) (taken : hub.take spare event = some next) : Sound next := by
  unfold Hub.take at taken
  split at taken
  next => cases taken
  next idle =>
    cases taken
    refine ⟨⟨?_, sound.subscribed, sound.unsubscribed, sound.distinct⟩,
      ⟨?_, sound.finished, ?_, ?_, ?_⟩⟩
    · show Represents _ _ (held hub.calls ((registered hub.calls event.jobId).map some))
      rw [held_targets hub.targets]
      exact represents_snapshot sound.represents event.jobId
    · have events := sound.events
      rw [Hub.current, idle] at events
      rw [events]
      exact congrArg (· ++ [event]) (List.append_nil _)
    · rintro sending ⟨⟩
      exact ⟨rfl, List.prefix_refl _⟩
    · intro panics
      obtain ⟨sending, c, sends, _⟩ := sound.calm panics
      rw [idle] at sends
      cases sends
    · intro c sub found
      have hears := sound.heard c sub found
      rw [Hub.offeredTo, Hub.rounds, idle] at hears
      simpa [Hub.offeredTo, Hub.rounds] using hears

theorem Hub.subs_eq (sends : hub.sending = some sending) : hub.subs = sending.subs := by
  rw [Hub.subs, sends, Option.map_some, Option.getD_some]

theorem Hub.targets_eq (sends : hub.sending = some sending) :
    hub.targets = sending.round.targets := by
  rw [Hub.targets, sends, Option.map_some, Option.getD_some]

theorem Sound.reads (sound : Sound hub) (sends : hub.sending = some sending) :
    read hub.registry.heap sending.subs = sending.round.targets ∧
      sending.subs.length = sending.round.targets.length := by
  have family := sound.represents.family
  have reads : read hub.registry.heap hub.subs = hub.targets := family.reads none
  have length : (read hub.registry.heap hub.subs).length = hub.subs.length :=
    length_read (family.valid none)
  rw [reads] at length
  rw [Hub.subs_eq sends, Hub.targets_eq sends] at reads length
  exact ⟨reads, length.symm⟩

theorem sound_handled (sound : Sound hub) (sends : hub.sending = some sending)
    (through : ¬ sending.next < sending.subs.length) :
    Sound { hub with sending := none, finished := hub.finished ++ [sending.round] } := by
  obtain ⟨front, earlier⟩ := sound.current sending sends
  have all : sending.round.targets.length ≤ sending.next := by
    rw [← (sound.reads sends).2]
    exact Nat.le_of_not_lt through
  rw [List.take_of_length_le all] at front
  refine ⟨⟨?_, sound.subscribed, sound.unsubscribed, sound.distinct⟩, ⟨?_, ?_, nofun, ?_, ?_⟩⟩
  · show Represents _ .nil (held hub.calls [])
    rw [held_targets hub.targets]
    exact sound.represents.release
  · have events := sound.events
    rw [Hub.current, sends] at events
    rw [events, List.map_append, Hub.current]
    exact (List.append_nil _).symm
  · intro round inside
    rcases List.mem_append.mp inside with before | last
    · exact sound.finished round before
    · rw [List.mem_singleton.mp last]
      exact ⟨front, earlier⟩
  · intro panics
    obtain ⟨now, c, same, target, _⟩ := sound.calm panics
    rw [sends] at same
    cases same
    rw [List.getElem?_eq_none all] at target
    cases target
  · intro c sub found
    have hears := sound.heard c sub found
    rw [Hub.offeredTo, Hub.rounds, sends] at hears
    rw [Hub.offeredTo, Hub.rounds, Option.map_none, Option.toList_none, List.append_nil]
    exact hears

def Subscriber.offer (sub : Subscriber) (event : JobEvent) (channel : Channel JobEvent bufferSize) :
    Subscriber :=
  { sub with channel := channel, offered := sub.offered ++ [(event, sub.channel.isFull)] }

theorem Hears.offer {channel : Channel JobEvent bufferSize} (hears : Hears events sub)
    (buffer : channel.buffer =
      if sub.channel.isFull then sub.channel.buffer else sub.channel.buffer ++ [event]) :
    Hears (events ++ [event]) (sub.offer event channel) := by
  obtain ⟨offered, delivered⟩ := hears
  refine ⟨by rw [Subscriber.offer, List.map_append, offered]; rfl, ?_⟩
  have accepted : (sub.offer event channel).accepted =
      if sub.channel.isFull then sub.accepted else sub.accepted ++ [event] := by
    cases full : sub.channel.isFull <;> simp [Subscriber.accepted, Subscriber.offer, full]
  rw [accepted, ← delivered, Subscriber.offer, buffer]
  split
  · rfl
  · exact (List.append_assoc ..).symm

theorem sound_sent {channel : Channel JobEvent bufferSize} (sound : Sound hub)
    (alive : hub.panicked = false) (sends : hub.sending = some sending)
    (target : sending.round.targets[sending.next]? = some (some ch))
    (found : hub.subscribers[ch]? = some sub)
    (closed : channel.closed = sub.channel.closed)
    (buffer : channel.buffer =
      if sub.channel.isFull then sub.channel.buffer
      else sub.channel.buffer ++ [sending.round.event]) : Sound { hub.advance sending (some ch) with
      subscribers := hub.subscribers.set ch (sub.offer sending.round.event channel) } := by
  obtain ⟨front, earlier⟩ := sound.current sending sends
  have upTo : sending.round.offered ++ [some ch] =
      sending.round.targets.take (sending.next + 1) := by
    rw [front, List.take_add_one, target, Option.toList_some]
  have once : some ch ∉ sending.round.offered := by
    have distinct := (sound.targets_nodup earlier).sublist (List.take_sublist (sending.next + 1) _)
    rw [← upTo] at distinct
    exact fun before =>
      (List.nodup_append.mp distinct).2.2 _ before _ (List.mem_singleton_self _) rfl
  refine ⟨sound.replace found rfl rfl closed rfl (Hub.subs_eq sends).symm
    (Hub.targets_eq sends).symm rfl, ⟨?_, sound.finished, ?_, ?_, ?_⟩⟩
  · have events := sound.events
    rw [Hub.current, sends] at events
    exact events
  · rintro now ⟨⟩
    exact ⟨upTo, earlier⟩
  · intro panics
    rw [Hub.advance, alive] at panics
    cases panics
  · refine heard_set (fun c other different seen => ?_) found ?_
    · have hears := sound.heard c other seen
      rw [Hub.offeredTo, Hub.rounds, sends] at hears
      simpa [Hub.offeredTo, Hub.rounds, Hub.advance, different, List.filter_append,
        List.filter_cons, apply_ite (List.map Round.event)] using hears
    · have hears := sound.heard ch sub found
      rw [Hub.offeredTo, Hub.rounds, sends] at hears
      have more := hears.offer buffer
      simpa [Hub.offeredTo, Hub.rounds, Hub.advance, once, List.filter_append,
        List.filter_cons] using more

theorem sound_offer {target : Chan} (sound : Sound hub) (alive : hub.panicked = false)
    (sends : hub.sending = some sending)
    (next_ : sending.round.targets[sending.next]? = some target)
    (taken : hub.offer sending target = some next) : Sound next := by
  obtain ⟨_, earlier⟩ := sound.current sending sends
  obtain ⟨ch, inside, rfl⟩ := List.mem_map.mp (List.mem_of_getElem? next_)
  obtain ⟨sub, found, owner⟩ := sound.target_owner earlier (List.mem_map_of_mem inside)
  simp only [Hub.offer, found] at taken
  cases state : sub.channel.closed with
  | false =>
    obtain ⟨channel, sent, opened, buffer⟩ := Channel.trySend_open state sending.round.event
    rw [sent] at taken
    cases taken
    exact sound_sent sound alive sends next_ found (opened.trans state.symm) buffer
  | true =>
    rw [Channel.trySend_closed state] at taken
    cases taken
    refine ⟨⟨sound.represents, sound.subscribed, sound.unsubscribed, sound.distinct⟩,
      ⟨sound.events, sound.finished, sound.current, fun _ => ?_, sound.heard⟩⟩
    exact ⟨sending, ch, sends, next_, (sound.closed_iff found).mp state⟩

theorem sound_step {action : Action} (sound : Sound hub)
    (taken : (system spare).step hub action = some next) : Sound next := by
  simp only [system, step] at taken
  split at taken
  next => cases taken
  next calm =>
    have alive : hub.panicked = false := Bool.not_eq_true _ ▸ calm
    cases action with
    | subscribe jobId =>
      cases taken
      exact sound_subscribe sound jobId
    | unsubscribe ch => exact sound_unsubscribe sound taken
    | take event => exact sound_take sound taken
    | offer =>
      obtain ⟨sending, sends, taken⟩ := Option.bind_eq_some_iff.mp taken
      obtain ⟨ch, target, taken⟩ := Option.bind_eq_some_iff.mp taken
      rw [(sound.reads sends).1] at target
      exact sound_offer sound alive sends target taken
    | handled =>
      dsimp only at taken
      split at taken
      next => cases taken
      next sending sends =>
        split at taken
        next => cases taken
        next through =>
          cases taken
          exact sound_handled sound sends through
    | receive ch => exact sound_receive sound taken

end Steps

theorem sound_of_reachable (reachable : (system spare).Reachable hub) : Sound hub :=
  reachable.preserves (fun _ _ _ sound _ taken => sound_step sound taken) sound_new

theorem Sound.offeredTo_sublist (sound : Sound hub) (found : hub.subscribers[ch]? = some sub) :
    (hub.offeredTo ch).Sublist (hub.events.filter fun event => event.jobId = sub.jobId) := by
  have events : hub.events = hub.rounds.map Round.event := by
    rw [sound.events, Hub.rounds, Hub.current, List.map_append]
    cases hub.sending <;> rfl
  have own : hub.rounds.filter (fun round => some ch ∈ round.offered) =
      (hub.rounds.filter fun round => round.event.jobId = sub.jobId).filter
        fun round => some ch ∈ round.offered := by
    rw [List.filter_filter]
    refine List.filter_congr fun round member => ?_
    by_cases turn : some ch ∈ round.offered
    · obtain ⟨other, here, owner⟩ := sound.offered_owner member turn
      cases found.symm.trans here
      simp [turn, owner]
    · simp [turn]
  rw [Hub.offeredTo, own, events, List.filter_map]
  exact List.filter_sublist.map _

/-- What the hub does for its subscribers. -/
structure Exact (hub : Hub) : Prop where
  /-- The map holds for each job id what is registered for it, and no key without a channel. -/
  registry : ∀ jobId, hub.registry.channels jobId = (registered hub.calls jobId).map some ∧
    (registered hub.calls jobId).Nodup ∧
    (jobId ∈ hub.registry.conns ↔ registered hub.calls jobId ≠ [])
  events : hub.events = hub.finished.map Round.event ++ hub.current
  /-- An event that Run is through with was offered to what was registered for its job id at the
  snapshot. -/
  finished : ∀ round ∈ hub.finished, round.offered = round.targets ∧ round.calls <+: hub.calls
  /-- The event in hand has been offered to the first of these. -/
  current : ∀ sending, hub.sending = some sending →
    sending.round.offered <+: sending.round.targets ∧ sending.round.calls <+: hub.calls
  /-- A panic over it comes from a channel that was unsubscribed since. -/
  panicked : hub.panicked = true → ∃ sending ch, hub.sending = some sending ∧
    sending.round.offered ++ [some ch] <+: sending.round.targets ∧ .unsubscribe ch ∈ hub.calls
  /-- A subscriber was offered each event of the rounds in which it had its turn, once and in their
  order. -/
  offered : ∀ (ch : Nat) sub, hub.subscribers[ch]? = some sub →
    sub.offered.map Prod.fst = hub.offeredTo ch
  /-- It has received, or has in its buffer, those of them that found room there,
    and nothing else. -/
  delivered : ∀ (ch : Nat) sub, hub.subscribers[ch]? = some sub →
    sub.received ++ sub.channel.buffer = sub.accepted
  /-- A subscriber hears of its own job only, in the order of the events. -/
  heard : ∀ (ch : Nat) sub, hub.subscribers[ch]? = some sub →
    (sub.received ++ sub.channel.buffer).Sublist (hub.events.filter fun event =>
      event.jobId = sub.jobId)

/-- However the calls, the iterations of Run and the receives follow each other. -/
theorem registry_exact (reachable : (system spare).Reachable hub) : Exact hub := by
  have sound := sound_of_reachable reachable
  refine ⟨fun jobId => ⟨sound.represents.family.reads (some jobId), sound.nodup jobId, ?_⟩,
    sound.events, sound.finished, fun sending sends => ?_, fun panics => ?_,
    fun ch sub found => (sound.heard ch sub found).offered,
    fun ch sub found => (sound.heard ch sub found).delivered, fun ch sub found => ?_⟩
  · rw [sound.represents.mem_conns, held, ne_eq, List.map_eq_nil_iff]
  · obtain ⟨front, earlier⟩ := sound.current sending sends
    rw [front]
    exact ⟨List.take_prefix _ _, earlier⟩
  · obtain ⟨sending, ch, sends, target, called⟩ := sound.calm panics
    refine ⟨sending, ch, sends, ?_, called⟩
    have through : sending.round.offered ++ [some ch] =
        sending.round.targets.take (sending.next + 1) := by
      rw [List.take_add_one, target, Option.toList_some, (sound.current sending sends).1]
    exact through ▸ List.take_prefix _ _
  · obtain ⟨offered, delivered⟩ := sound.heard ch sub found
    rw [delivered, Subscriber.accepted]
    have some_ :
        ((sub.offered.filter fun offer => !offer.2).map Prod.fst).Sublist (hub.offeredTo ch) :=
      offered ▸ List.filter_sublist.map _
    exact some_.trans (sound.offeredTo_sublist found)

/-- Three tabs of one run, of which the second leaves; a fourth takes the slot that it freed. -/
def slotReused : List Action :=
  [.subscribe "run", .subscribe "run", .subscribe "other", .subscribe "run", .unsubscribe 1,
    .subscribe "run", .take ⟨"run", "status", "running", "", ""⟩, .unsubscribe 2, .offer, .offer,
    .offer, .handled, .receive 4]

def logged : List Action :=
  [.take ⟨"run", "log", "", "line", ""⟩, .offer, .offer, .offer, .handled, .receive 4]

theorem registry_exact_slotReused : ∃ hub : Hub,
    hub.registry.channels "run" = [some 0, some 3, some 4] ∧
    hub.subscribers.map (fun sub => (sub.offered.length, sub.accepted.length)) =
      [(18, 16), (0, 0), (0, 0), (18, 16), (18, 18)] ∧ Exact hub := by
  have replayed : ((system fun _ _ => 1).replay (fun _ _ => True) newHub
      (slotReused ++ (List.replicate 17 logged).flatten)).map
      (fun hub => (hub.registry.channels "run",
        hub.subscribers.map fun sub => (sub.offered.length, sub.accepted.length))) =
        some ([some 0, some 3, some 4], [(18, 16), (0, 0), (0, 0), (18, 16), (18, 18)]) := by
    decide +kernel
  obtain ⟨hub, reachable, seen⟩ := reaches_of_replay replayed
  exact ⟨hub, congrArg Prod.fst seen, congrArg Prod.snd seen, registry_exact reachable⟩

end OpenScale.Ws

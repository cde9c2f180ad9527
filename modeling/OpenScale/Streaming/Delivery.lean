import OpenScale.Streaming.Hub

/-! What the hub does for its subscribers: it never panics, and each of them receives what was
broadcast while it was subscribed, in that order, less what found its buffer full. -/

namespace OpenScale.Streaming

open OpenScale.Library OpenScale.Library.TransitionSystem

universe u

variable {Frame : Type u} {hub next : Hub Frame} {sub old : Subscriber Frame} {frame : Frame}
  {order : List Nat}
  {subscribers sent : List (Subscriber Frame)} {ch : Nat}

/-- What one round of the loop does to its subscriber. -/
structure Offered (frame : Frame) (old sub : Subscriber Frame) : Prop where
  opened : sub.channel.closed = false
  buffer : sub.channel.buffer = if old.channel.isFull then old.channel.buffer
    else old.channel.buffer ++ [frame]
  received : sub.received = old.received
  offered : sub.offered = old.offered ++ [(frame, old.channel.isFull)]
  since : sub.since = old.since
  ended : sub.ended = old.ended

/-- What holds of a subscriber, which is in the map or has left it. -/
structure SubscriberSound (broadcasts : List Frame) (listed : Prop) (sub : Subscriber Frame) :
    Prop where
  opened : sub.channel.closed = false ↔ listed
  current : sub.ended = none ↔ listed
  since : sub.since ≤ broadcasts.length
  ended : ∀ n, sub.ended = some n → n ≤ broadcasts.length
  delivered : sub.received ++ sub.channel.buffer = sub.accepted
  heard : sub.offered.map Prod.fst = between broadcasts sub.since sub.ended

structure Sound (hub : Hub Frame) : Prop where
  calm : hub.panicked = none
  distinct : hub.subs.Nodup
  made : ∀ ch ∈ hub.subs, ch < hub.subscribers.length
  each : ∀ (ch : Nat) sub, hub.subscribers[ch]? = some sub →
    SubscriberSound hub.broadcasts (ch ∈ hub.subs) sub

theorem send_open (found : subscribers[ch]? = some old) (opened : old.channel.closed = false)
    (frame : Frame) :
    ∃ sub, send frame subscribers ch = some (subscribers.set ch sub) ∧ Offered frame old sub := by
  obtain ⟨channel, taken, open_, buffer⟩ := Channel.trySend_open opened frame
  refine ⟨{ old with channel := channel, offered := old.offered ++ [(frame, old.channel.isFull)] },
    ?_, open_, buffer, rfl, rfl, rfl, rfl⟩
  simp only [send, found, taken]

theorem sendAll_open (distinct : order.Nodup)
    (opened : ∀ ch ∈ order, ∃ sub, subscribers[ch]? = some sub ∧ sub.channel.closed = false)
    (frame : Frame) :
    ∃ sent, sendAll frame order subscribers = some sent ∧ sent.length = subscribers.length ∧
      ∀ (ch : Nat) sub, sent[ch]? = some sub → ∃ old, subscribers[ch]? = some old ∧
        (ch ∈ order → Offered frame old sub) ∧ (ch ∉ order → old = sub) := by
  induction order generalizing subscribers with
  | nil => exact ⟨subscribers, rfl, rfl, fun ch sub found => ⟨sub, found, nofun, fun _ => rfl⟩⟩
  | cons first order ih =>
    obtain ⟨fresh, distinct⟩ := List.nodup_cons.mp distinct
    obtain ⟨old, found, open_⟩ := opened first (List.mem_cons_self ..)
    obtain ⟨now, taken, offered⟩ := send_open found open_ frame
    have others : ∀ ch ∈ order,
        ∃ sub, (subscribers.set first now)[ch]? = some sub ∧ sub.channel.closed = false := by
      intro ch member
      rw [List.getElem?_set_ne (ne_of_mem_of_not_mem member fresh).symm]
      exact opened ch (List.mem_cons_of_mem _ member)
    obtain ⟨sent, done, length, each⟩ := ih distinct others
    refine ⟨sent, by rw [sendAll, taken]; exact done, by rw [length, List.length_set],
      fun ch sub member => ?_⟩
    obtain ⟨before, foundBefore, inside, outside⟩ := each ch sub member
    by_cases here : ch = first
    · subst here
      rw [List.getElem?_set_self (List.getElem?_eq_some_iff.mp found).1] at foundBefore
      cases foundBefore
      obtain rfl := outside fresh
      exact ⟨old, found, fun _ => offered, fun absent => absurd (List.mem_cons_self ..) absent⟩
    · rw [List.getElem?_set_ne (Ne.symm here)] at foundBefore
      refine ⟨before, foundBefore, fun listed =>
        inside ((List.mem_cons.mp listed).resolve_left here),
        fun absent => outside fun later => absent (List.mem_cons_of_mem _ later)⟩

theorem accepted_offered (offered : Offered frame old sub) :
    sub.accepted = if old.channel.isFull then old.accepted else old.accepted ++ [frame] := by
  rw [Subscriber.accepted, offered.offered]
  by_cases full : old.channel.isFull = true
  · simp [full, Subscriber.accepted]
  · simp [full, Subscriber.accepted]

variable {broadcasts : List Frame} {listed : Prop}

theorem SubscriberSound.offer (sound : SubscriberSound broadcasts listed old)
    (offered : Offered frame old sub)
    (member : listed) : SubscriberSound (broadcasts ++ [frame]) listed sub := by
  have current := sound.current.mpr member
  have heard := sound.heard
  rw [current, between] at heard
  refine ⟨iff_of_true offered.opened member, by rw [offered.ended]; exact sound.current, ?_,
    ?_, ?_, ?_⟩
  · rw [offered.since, List.length_append]
    exact Nat.le_trans sound.since (Nat.le_add_right ..)
  · rw [offered.ended, current]
    nofun
  · rw [accepted_offered offered, offered.received, offered.buffer, ← sound.delivered]
    split
    · rfl
    · rw [List.append_assoc]
  · rw [offered.ended, current, offered.offered, offered.since, List.map_append, heard, between,
      List.drop_append_of_le_length sound.since]
    rfl

theorem SubscriberSound.pass (sound : SubscriberSound broadcasts listed sub) (absent : ¬ listed)
    (frame : Frame) : SubscriberSound (broadcasts ++ [frame]) listed sub := by
  obtain ⟨n, ended⟩ := Option.ne_none_iff_exists'.mp (absent ∘ sound.current.mp)
  have heard := sound.heard
  have within := sound.ended n ended
  refine ⟨sound.opened, sound.current, ?_, ?_, sound.delivered, ?_⟩
  · rw [List.length_append]
    exact Nat.le_trans sound.since (Nat.le_add_right ..)
  · intro m same
    rw [List.length_append]
    exact Nat.le_trans (sound.ended m same) (Nat.le_add_right ..)
  · rw [ended, between] at heard ⊢
    rw [heard, List.take_append_of_le_length within]

theorem sound_init (Frame : Type u) : Sound (newStreamHub Frame) where
  calm := rfl
  distinct := List.nodup_nil
  made := nofun
  each _ _ found := by cases found

theorem sound_subscribe (sound : Sound hub) (taken : step hub .subscribe = some next) :
    Sound next := by
  have calm : ¬ hub.panicked ≠ none := fun panicked => panicked sound.calm
  rw [step, if_neg calm] at taken
  cases taken
  have fresh : hub.subscribers.length ∉ hub.subs :=
    fun listed => Nat.lt_irrefl _ (sound.made _ listed)
  refine ⟨sound.calm, ?_, ?_, ?_⟩
  · exact List.nodup_append.mpr ⟨sound.distinct, (List.pairwise_singleton _ _),
      fun a inside b last same => by
      rw [List.mem_singleton] at last
      exact fresh (last ▸ same ▸ inside)⟩
  · intro ch listed
    rw [List.length_append]
    rcases List.mem_append.mp listed with inside | last
    · exact Nat.lt_add_right _ (sound.made ch inside)
    · exact List.mem_singleton.mp last ▸ Nat.lt_succ_self _
  · intro ch sub found
    rcases Nat.lt_or_ge ch hub.subscribers.length with before | after
    · rw [List.getElem?_append_left before] at found
      have listed : ch ∈ hub.subs ++ [hub.subscribers.length] ↔ ch ∈ hub.subs := by
        simp [Nat.ne_of_lt before]
      rw [listed]
      exact sound.each ch sub found
    · rw [List.getElem?_append_right after] at found
      obtain ⟨inside, same⟩ := List.getElem?_eq_some_iff.mp found
      obtain rfl : ch = hub.subscribers.length := by
        rw [List.length_singleton] at inside
        omega
      rw [List.getElem_singleton] at same
      subst same
      have listed : hub.subscribers.length ∈ hub.subs ++ [hub.subscribers.length] := by simp
      exact ⟨iff_of_true rfl listed, iff_of_true rfl listed, Nat.le_refl _, nofun, rfl,
        (List.drop_length).symm⟩

theorem Sound.replace {subs : List Nat} (sound : Sound hub)
    (found : hub.subscribers[ch]? = some old)
    (distinct : subs.Nodup) (others : ∀ c, c ≠ ch → (c ∈ subs ↔ c ∈ hub.subs))
    (now : SubscriberSound hub.broadcasts (ch ∈ subs) sub) :
    Sound { hub with
      subs := subs
      subscribers := hub.subscribers.set ch sub
      panicked := none } := by
  have inside := (List.getElem?_eq_some_iff.mp found).1
  refine ⟨rfl, distinct, fun c listed => ?_, fun c other seen => ?_⟩
  · rw [List.length_set]
    by_cases same : c = ch
    · exact same ▸ inside
    · exact sound.made c ((others c same).mp listed)
  · by_cases same : c = ch
    · subst same
      rw [List.getElem?_set_self inside] at seen
      cases seen
      exact now
    · rw [List.getElem?_set_ne (Ne.symm same)] at seen
      rw [others c same]
      exact sound.each c other seen

theorem SubscriberSound.leave {channel : Channel Frame bufferSize}
    (sound : SubscriberSound broadcasts listed old)
    (member : listed) (closed : channel.closed = true)
    (buffer : channel.buffer = old.channel.buffer) :
    SubscriberSound broadcasts False
      { old with channel := channel, ended := some broadcasts.length } := by
  have heard := sound.heard
  rw [sound.current.mpr member, between] at heard
  refine ⟨iff_of_false (by simp [closed]) not_false, iff_of_false (by simp) not_false,
    sound.since, ?_, ?_, ?_⟩
  · rintro n ⟨⟩
    exact Nat.le_refl _
  · rw [buffer]
    exact sound.delivered
  · rw [between, List.take_length]
    exact heard

theorem sound_unsubscribe (sound : Sound hub) (taken : step hub (.unsubscribe ch) = some next) :
    Sound next := by
  rw [step, sound.calm] at taken
  split at taken
  next sub _ found =>
    have here := sound.each ch sub found
    split at taken
    next listed =>
      rw [Channel.close_open (here.opened.mpr listed)] at taken
      cases taken
      have left : ch ∉ hub.subs.erase ch :=
        fun inside => ((sound.distinct.mem_erase_iff).mp inside).1 rfl
      refine sound.replace found (sound.distinct.erase ch)
        (fun c other => List.mem_erase_of_ne other) ?_
      rw [eq_false left]
      exact here.leave listed rfl rfl
    next =>
      cases taken
      exact sound
  next => cases taken

theorem sound_broadcast (sound : Sound hub)
    (taken : step hub (.broadcast frame order) = some next) :
    Sound next := by
  rw [step] at taken
  split at taken
  next admitted =>
    obtain ⟨_, perm⟩ := admitted
    have opened : ∀ ch ∈ order, ∃ sub, hub.subscribers[ch]? = some sub ∧
        sub.channel.closed = false := by
      intro ch inside
      have listed := perm.mem_iff.mp inside
      have found := List.getElem?_eq_getElem (sound.made ch listed)
      exact ⟨_, found, (sound.each ch _ found).opened.mpr listed⟩
    obtain ⟨sent, done, length, each⟩ :=
      sendAll_open (perm.nodup_iff.mpr sound.distinct) opened frame
    rw [done] at taken
    cases taken
    refine ⟨sound.calm, sound.distinct, fun ch listed => length ▸ sound.made ch listed,
      fun ch sub found => ?_⟩
    obtain ⟨old, before, inside, outside⟩ := each ch sub found
    by_cases listed : ch ∈ hub.subs
    · exact (sound.each ch old before).offer (inside (perm.mem_iff.mpr listed)) listed
    · obtain rfl := outside fun member => listed (perm.mem_iff.mp member)
      exact (sound.each ch old before).pass listed frame
  next => cases taken

theorem sound_receive (sound : Sound hub) (taken : step hub (.receive ch) = some next) :
    Sound next := by
  rw [step, sound.calm] at taken
  split at taken
  next sub _ found =>
    have here := sound.each ch sub found
    split at taken
    next frame channel received =>
      cases taken
      obtain ⟨buffer, closed⟩ := Channel.receive_some received
      refine sound.replace found sound.distinct (fun _ _ => Iff.rfl) ?_
      refine ⟨closed ▸ here.opened, here.current, here.since, here.ended, ?_, here.heard⟩
      rw [List.append_assoc, List.singleton_append, ← buffer]
      exact here.delivered
    next =>
      split at taken
      · cases taken
        exact sound
      · cases taken
  next => cases taken

theorem sound_of_reachable (reachable : (system Frame).Reachable hub) : Sound hub := by
  refine reachable.preserves (fun s event s' sound _ taken => ?_) (sound_init Frame)
  cases event with
  | subscribe => exact sound_subscribe sound taken
  | unsubscribe ch => exact sound_unsubscribe sound taken
  | broadcast frame order => exact sound_broadcast sound taken
  | receive ch => exact sound_receive sound taken

def Event.frames : Event Frame → List Frame
  | .broadcast frame _ => [frame]
  | _ => []

def Event.taken (event : Event Frame) (ch : Nat) (old : Subscriber Frame) : List Frame :=
  match event with
  | .receive c => if c = ch then (old.channel.receive.map Prod.fst).toList else []
  | _ => []

theorem broadcasts_step (sound : Sound hub) {event : Event Frame}
    (taken : step hub event = some next) : next.broadcasts = hub.broadcasts ++ event.frames := by
  cases event with
  | subscribe =>
    rw [step, if_neg fun panicked => panicked sound.calm] at taken
    cases taken
    exact (List.append_nil _).symm
  | unsubscribe ch =>
    refine Eq.trans ?_ (List.append_nil _).symm
    simp only [step, sound.calm] at taken
    split at taken
    · split at taken
      · split at taken <;> cases taken <;> rfl
      · cases taken
        rfl
    · cases taken
  | broadcast frame order =>
    have calm := (sound_broadcast sound taken).calm
    simp only [step] at taken
    split at taken
    · split at taken <;> cases taken
      · cases calm
      · rfl
    · cases taken
  | receive ch =>
    refine Eq.trans ?_ (List.append_nil _).symm
    simp only [step, sound.calm] at taken
    split at taken
    · split at taken
      · cases taken
        rfl
      · split at taken <;> cases taken
        rfl
    · cases taken

theorem found_set {now : Subscriber Frame} {c : Nat} (found : subscribers[c]? = some old)
    (here : subscribers[ch]? = some sub) : ∃ later, (subscribers.set c now)[ch]? = some later ∧
      (c = ch ∧ old = sub ∧ later = now ∨ c ≠ ch ∧ later = sub) := by
  by_cases same : c = ch
  · subst same
    cases found.symm.trans here
    exact ⟨now, List.getElem?_set_self (List.getElem?_eq_some_iff.mp found).1, .inl ⟨rfl, rfl, rfl⟩⟩
  · exact ⟨sub, by rw [List.getElem?_set_ne same]; exact here, .inr ⟨same, rfl⟩⟩

theorem subscriber_step (sound : Sound hub) {event : Event Frame}
    (taken : step hub event = some next)
    (here : hub.subscribers[ch]? = some sub) : ∃ later, next.subscribers[ch]? = some later ∧
      later.since = sub.since ∧ later.received = sub.received ++ event.taken ch sub := by
  cases event with
  | subscribe =>
    rw [step, if_neg fun panicked => panicked sound.calm] at taken
    cases taken
    refine ⟨sub, ?_, rfl, (List.append_nil _).symm⟩
    rw [List.getElem?_append_left (List.getElem?_eq_some_iff.mp here).1]
    exact here
  | unsubscribe c =>
    simp only [step, sound.calm] at taken
    split at taken
    next old _ found =>
      split at taken
      · split at taken <;> cases taken
        · exact ⟨sub, here, rfl, (List.append_nil _).symm⟩
        · obtain ⟨later, seen, ⟨rfl, rfl, rfl⟩ | ⟨_, rfl⟩⟩ := found_set found here
          · exact ⟨_, seen, rfl, (List.append_nil _).symm⟩
          · exact ⟨_, seen, rfl, (List.append_nil _).symm⟩
      · cases taken
        exact ⟨sub, here, rfl, (List.append_nil _).symm⟩
    next => cases taken
  | broadcast frame order =>
    simp only [step] at taken
    split at taken
    next admitted =>
      obtain ⟨_, perm⟩ := admitted
      have opened : ∀ c ∈ order, ∃ sub, hub.subscribers[c]? = some sub ∧
          sub.channel.closed = false := by
        intro c inside
        have listed := perm.mem_iff.mp inside
        have found := List.getElem?_eq_getElem (sound.made c listed)
        exact ⟨_, found, (sound.each c _ found).opened.mpr listed⟩
      obtain ⟨sent, done, length, each⟩ :=
        sendAll_open (perm.nodup_iff.mpr sound.distinct) opened frame
      rw [done] at taken
      cases taken
      have inside : ch < sent.length := length ▸ (List.getElem?_eq_some_iff.mp here).1
      have seen := List.getElem?_eq_getElem inside
      obtain ⟨before, found, listed, unlisted⟩ := each ch _ seen
      cases found.symm.trans here
      refine ⟨_, seen, ?_⟩
      rw [show (Event.broadcast frame order).taken ch sub = [] from rfl, List.append_nil]
      by_cases member : ch ∈ order
      · exact ⟨(listed member).since, (listed member).received⟩
      · rw [← unlisted member]
        exact ⟨rfl, rfl⟩
    next => cases taken
  | receive c =>
    simp only [step, sound.calm] at taken
    split at taken
    next old _ found =>
      split at taken
      next frame channel received =>
        cases taken
        obtain ⟨later, seen, ⟨rfl, rfl, rfl⟩ | ⟨other, rfl⟩⟩ := found_set found here
        · refine ⟨_, seen, rfl, ?_⟩
          simp [Event.taken, received]
        · refine ⟨_, seen, rfl, ?_⟩
          simp [Event.taken, other]
      next nothing =>
        split at taken
        · cases taken
          refine ⟨sub, here, rfl, ?_⟩
          by_cases same : c = ch
          · subst same
            cases found.symm.trans here
            simp [Event.taken, nothing]
          · simp [Event.taken, same]
        · cases taken
    next => cases taken

/-- The hub never panics. What a subscriber has received, with what its buffer holds, is what was
broadcast while it was subscribed, in that order, except the frames that found the buffer full. -/
theorem delivers_in_order (reachable : (system Frame).Reachable hub) : hub.panicked = none ∧
    ∀ (ch : Nat) sub, hub.subscribers[ch]? = some sub →
      sub.offered.map Prod.fst = hub.whileSubscribed sub ∧
      sub.received ++ sub.channel.buffer = sub.accepted ∧
      sub.received.Sublist (hub.whileSubscribed sub) := by
  have sound := sound_of_reachable reachable
  refine ⟨sound.calm, fun ch sub found => ?_⟩
  have here := sound.each ch sub found
  refine ⟨here.heard, here.delivered, ?_⟩
  calc sub.received.Sublist (sub.received ++ sub.channel.buffer) := List.sublist_append_left ..
    _ = sub.accepted := here.delivered
    List.Sublist _ (sub.offered.map Prod.fst) := List.filter_sublist.map _
    _ = hub.whileSubscribed sub := here.heard

/-- Of two subscribers the first leaves after two frames, and the second reads no further while more
come than its buffer holds. -/
def leavesAndLags : List (Event Nat) :=
  [.subscribe, .subscribe, .broadcast 7 [1, 0], .broadcast 8 [0, 1], .receive 0, .receive 0,
    .unsubscribe 0] ++
    (List.range (bufferSize + 2)).map (fun frame => .broadcast frame [1]) ++
    [.receive 1, .receive 1]

/-- For each subscriber: what it received, whether it left, and how many frames it missed. -/
def Hub.seen (hub : Hub Nat) : List (List Nat × Bool × Nat) :=
  hub.subscribers.map fun sub => (sub.received, sub.ended.isSome, sub.offered.countP Prod.snd)

theorem delivers_in_order_lagging :
    ∃ hub : Hub Nat, hub.seen = [([7, 8], true, 0), ([7, 8], false, 4)] ∧
    hub.panicked = none ∧ ∀ (ch : Nat) sub, hub.subscribers[ch]? = some sub →
      sub.offered.map Prod.fst = hub.whileSubscribed sub ∧
      sub.received ++ sub.channel.buffer = sub.accepted ∧
      sub.received.Sublist (hub.whileSubscribed sub) := by
  have replayed :
      ((system Nat).replay (fun _ _ => True) (newStreamHub Nat) leavesAndLags).map Hub.seen =
      some [([7, 8], true, 0), ([7, 8], false, 4)] := by
    decide +kernel
  obtain ⟨hub, reachable, seen⟩ := reaches_of_replay replayed
  exact ⟨hub, seen, delivers_in_order reachable⟩

end OpenScale.Streaming

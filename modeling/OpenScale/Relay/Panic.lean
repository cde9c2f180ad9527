import OpenScale.Relay.Step

/-! Sends on closed channels. The hub takes its snapshot of the subscribers under the
mutex but sends outside it, and a handler closes its channel as it unsubscribes. -/

namespace OpenScale.Relay

open OpenScale.Library OpenScale.Library.TransitionSystem OpenScale.Jobs

variable {s s' : State} {event : Event} {conn : ConnId}

/-- No handler unsubscribes while the hub still has to send to its channel. -/
def LeavesUntargeted (s : State) : Event → Prop
  | .leave conn => conn ∉ s.hub.targets
  | _ => True

/-- Every channel that the hub knows of is open. -/
structure Open (s : State) : Prop where
  alive : s.hub ≠ .panicked
  targets : ∀ conn ∈ s.hub.targets, (s.connections conn).phase.isSubscribed = true
  subscribers : ∀ conn ∈ s.subscribers, (s.connections conn).phase.isSubscribed = true
  distinct : s.subscribers.Nodup

section Steps

variable {target : ConnId} {new : Connection}

theorem Open.update (known : Open s) (hub : s'.hub = s.hub) (distinct : s'.subscribers.Nodup)
    (connections : s'.connections = Function.update s.connections target new)
    (kept : ∀ conn ∈ s'.subscribers, conn ≠ target → conn ∈ s.subscribers)
    (own : target ∈ s.hub.targets ∨ target ∈ s'.subscribers → new.phase.isSubscribed = true) :
    Open s' := by
  have others : ∀ conn, conn ≠ target → s'.connections conn = s.connections conn := by
    intro conn apart
    rw [connections, Function.update_of_ne apart]
  have self : s'.connections target = new := by rw [connections, Function.update_self]
  refine ⟨hub ▸ known.alive, ?_, ?_, distinct⟩
  · intro conn targeted
    rw [hub] at targeted
    by_cases same : conn = target
    · subst same
      exact self ▸ own (.inl targeted)
    · exact others conn same ▸ known.targets conn targeted
  · intro conn member
    by_cases same : conn = target
    · subst same
      exact self ▸ own (.inr member)
    · exact others conn same ▸ known.subscribers conn (kept conn member same)

theorem Open.outside (known : Open s) (hub : s'.hub = s.hub)
    (subscribers : s'.subscribers = s.subscribers)
    (connections : s'.connections = Function.update s.connections target new)
    (outside : (s.connections target).phase.isSubscribed = false) : Open s' := by
  refine known.update hub (subscribers ▸ known.distinct) connections
    (fun _ member _ => subscribers ▸ member) ?_
  intro listed
  rw [subscribers] at listed
  have inside := listed.elim (known.targets target) (known.subscribers target)
  simp [outside] at inside

theorem Open.within (known : Open s) (hub : s'.hub = s.hub)
    (subscribers : s'.subscribers = s.subscribers)
    (connections : s'.connections = Function.update s.connections target new)
    (inside : new.phase.isSubscribed = true) : Open s' :=
  known.update hub (subscribers ▸ known.distinct) connections
    (fun _ member _ => subscribers ▸ member)
    fun _ => inside

theorem open_step (known : Open s) (spared : LeavesUntargeted s event)
    (taken : system.step s event = some s') :
    Open s' := by
  cases runs taken with
  | write write => exact ⟨known.alive, known.targets, known.subscribers, known.distinct⟩
  | publish sentAt owed => exact ⟨known.alive, known.targets, known.subscribers, known.distinct⟩
  | publishErr owed => exact ⟨known.alive, known.targets, known.subscribers, known.distinct⟩
  | log id line sentAt => exact ⟨known.alive, known.targets, known.subscribers, known.distinct⟩
  | handled sending => exact ⟨by simp, by simp, known.subscribers, known.distinct⟩
  | @take event rest idle published =>
    have phases : ∀ conn, ((s.markMissed event).connections conn).phase =
        (s.connections conn).phase := by
      intro conn
      simp only [State.markMissed]
      split <;> rfl
    refine ⟨by simp, ?_, ?_, known.distinct⟩
    · intro conn targeted
      exact phases conn ▸ known.subscribers conn (List.mem_filter.mp targeted).1
    · intro conn member
      exact phases conn ▸ known.subscribers conn member
  | @panic event conn targets sending closed =>
    have inside := known.targets conn (by simp [sending])
    simp [closed, Phase.isSubscribed] at inside
  | @offer event conn targets sending live =>
    have inside := known.targets conn (by simp [sending])
    have phases : ∀ other, ((s.setConnection conn ((s.connections conn).push event)).connections
        other).phase =
        (s.connections other).phase := by
      intro other
      by_cases same : other = conn
      · subst same
        simp [State.setConnection]
      · simp [State.setConnection, Function.update_of_ne same]
    refine ⟨by simp, ?_, ?_, known.distinct⟩
    · intro other targeted
      exact phases other ▸
        known.targets other (by simp [sending, show other ∈ targets from targeted])
    · intro other member
      exact phases other ▸ known.subscribers other member
  | accept id alive absent => exact known.outside rfl rfl rfl (by simp [absent, Phase.isSubscribed])
  | found accepted found => exact known.outside rfl rfl rfl (by simp [accepted, Phase.isSubscribed])
  | missing accepted missing =>
    exact known.outside rfl rfl rfl (by simp [accepted, Phase.isSubscribed])
  | greet looked => exact known.outside rfl rfl rfl (by simp [looked, Phase.isSubscribed])
  | @subscribe conn greeted =>
    have fresh : conn ∉ s.subscribers := by
      intro member
      have inside := known.subscribers conn member
      simp [greeted, Phase.isSubscribed] at inside
    refine known.update rfl ?_ rfl ?_ fun _ => rfl
    · exact List.nodup_append.mpr ⟨known.distinct,
        by simp, by simpa using fun _ member => ne_of_mem_of_not_mem member fresh⟩
    · intro other member apart
      simpa [apart] using member
  | receive waiting buffer => exact known.within rfl rfl rfl rfl
  | forward received =>
    refine known.within rfl rfl rfl ?_
    dsimp only
    split <;> rfl
  | leaveEarly early => exact known.outside rfl rfl rfl (Phase.isSubscribed_of_isEarly early)
  | @leave conn subscribed =>
    refine known.update rfl (known.distinct.erase conn) rfl
      (fun other member _ => List.mem_of_mem_erase member) ?_
    intro listed
    rcases listed with targeted | member
    · exact absurd targeted spared
    · exact absurd rfl (known.distinct.mem_erase_iff.mp member).1

end Steps

theorem Open.init : Open init := by
  refine ⟨by simp [Relay.init], ?_, ?_, .nil⟩
  · intro conn targeted
    cases targeted
  · intro conn member
    cases member

theorem panics_of_closed {targets : List ConnId} {published : JobEvent}
    (sending : s.hub = .sending published targets) (targeted : conn ∈ targets)
    (closed : (s.connections conn).phase = .closed) :
    ∃ last, system.Leads s last ∧ last.hub = .panicked := by
  induction targets generalizing s with
  | nil => cases targeted
  | cons first rest ih =>
    by_cases dead : (s.connections first).phase = .closed
    · have taken : system.step s .offer = some s.panic := by
        simp only [system, step, sending, State.offer, dead]
      exact ⟨s.panic, leads_of_step taken, rfl⟩
    · let next : State :=
        { s.setConnection first ((s.connections first).push published) with
          hub := .sending published rest }
      have taken : system.step s .offer = some next := by
        simp only [system, step, sending, State.offer, next]
      have apart : conn ≠ first := fun same => dead (same ▸ closed)
      have later : conn ∈ rest := by simpa [apart] using targeted
      have still : (next.connections conn).phase = .closed := by
        simp [next, State.setConnection, Function.update_of_ne apart, closed]
      obtain ⟨last, path, panicked⟩ := ih (s := next) rfl later still
      exact ⟨last, (leads_of_step taken).trans path, panicked⟩

/-- A run in which no handler unsubscribes while the hub still has to send to its channel
never sends on a closed one; from a step that does not keep to this, the hub can go on to the
send that panics. -/
theorem no_send_on_closed_iff (s : State) :
    (system.Path LeavesUntargeted init s → s.hub ≠ .panicked) ∧
    ∀ s' event, system.Path LeavesUntargeted init s → system.step s event = some s' →
      ¬ LeavesUntargeted s event → ∃ last, system.Leads s' last ∧ last.hub = .panicked := by
  have known : system.Path LeavesUntargeted init s → Open s := fun path =>
    path.preserves (fun _ _ _ known spared taken => open_step known spared taken) Open.init
  refine ⟨fun path => (known path).alive, ?_⟩
  intro s' event path taken strays
  have before := known path
  cases runs taken with
  | @leaveEarly conn early =>
    have targeted : conn ∈ s.hub.targets := not_not.mp strays
    have subscribed := before.targets conn targeted
    simp [Phase.isSubscribed_of_isEarly early] at subscribed
  | @leave conn subscribed =>
    have targeted : conn ∈ s.hub.targets := not_not.mp strays
    cases hub : s.hub with
    | sending published targets =>
      rw [hub] at targeted
      exact panics_of_closed hub targeted (by simp [State.move, State.setConnection])
    | idle => simp [hub] at targeted
    | panicked => exact absurd hub before.alive
  | _ => exact absurd trivial strays

def Hub.isPanicked : Hub → Bool
  | .panicked => true
  | _ => false

def tabClosed : List Event :=
  [.accept 0 0, .write (.insertJobRun 0 "gold" .null 0), .lookup 0, .greet 0, .subscribe 0,
    .write (.markRunning 0 1), .publish 0 "", .take, .leave 0, .offer]

theorem hub_sends_on_closed : ¬ ∀ s, system.Reachable s → s.hub ≠ .panicked := by
  intro alive
  have replayed : (system.replay (fun _ _ => True) init tabClosed).map
      (fun s => s.hub.isPanicked) = some true := by
    decide +kernel
  obtain ⟨s, reachable, seen⟩ := reaches_of_replay replayed
  have other := alive s reachable
  cases hub : s.hub with
  | panicked => exact other hub
  | _ => simp [hub, Hub.isPanicked] at seen

end OpenScale.Relay

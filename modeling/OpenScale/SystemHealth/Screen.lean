import OpenScale.SystemHealth.System

/-! What a tab shows of the system health, whatever order polls, actions and changes of Docker come
in. -/

namespace OpenScale.SystemHealth

open OpenScale.Library

/-- What Docker was, in order, and which inspections got no answer in time. -/
structure Record where
  history : List Docker
  unanswered : List (Nat × String)

def State.record (s : State) : Record := ⟨s.history, s.unanswered⟩

structure Record.Grows (record later : Record) : Prop where
  history : record.history <+: later.history
  unanswered : record.unanswered <+: later.unanswered

variable {s next : State} {record later : Record} {since : Nat} {svc : WatchedService}
  {entry : ServiceHealth}
  {data : Summary} {initial : Docker}

/-- From `since` on there was a time at which an inspection of this container found this: what
Docker said then, or nothing as it got no answer. -/
inductive Found (record : Record) (since : Nat) (container : String) : Inspection → Prop where
  | said {time : Nat} {docker : Docker} (after : since ≤ time) (was : record.history[time]? =
    some docker) :
      Found record since container (docker container)
  | missed {time : Nat} (after : since ≤ time) (noted : (time, container) ∈ record.unanswered) :
      Found record since container none

/-- The entry is what the control-plane makes of what it found from `since` on. -/
def Genuine (record : Record) (since : Nat) (svc : WatchedService) (entry : ServiceHealth) : Prop :=
  ∃ info latency, entry = check svc info latency ∧ Found record since svc.containerName info

/-- One entry for each service, in the order in which they are watched. -/
def Lists (record : Record) (since : WatchedService → Nat) (services : List WatchedService)
    (entries : List ServiceHealth) : Prop :=
  ∃ entry : WatchedService → ServiceHealth, entries = services.map entry ∧
    ∀ svc ∈ services, Genuine record (since svc) svc (entry svc)

def Stage.Sound (record : Record) (now : Nat) : Stage → Prop
  | .done svc at_ => svc ∈ watchedServices ∧ at_ ≤ now
  | .answered updated at_ => ∃ svc ∈ watchedServices, Genuine record at_ svc updated
  | _ => True

/-- A command is the action that a request for a watched service asked for, and on that service's
container. -/
def Ordered (calls : List Call) (command : Action × String) : Prop :=
  ∃ call ∈ calls, ∃ svc ∈ watchedServices, svc.id = call.id ∧
    command = (call.action, svc.containerName)

structure Sound (s : State) : Prop where
  poll : ∀ poll, s.poll = some poll → poll.asked ≤ s.now ∧
    Lists s.record (fun _ => poll.asked) (watchedServices.take poll.checked.length) poll.checked
  data : ∀ data, s.data = some data → data.overallStatus = deriveOverallStatus data.services ∧
    Lists s.record (fun svc => s.fresh svc.id) watchedServices data.services
  calls : ∀ call ∈ s.calls, call.stage.Sound s.record s.now
  commands : ∀ command ∈ s.commands, Ordered s.calls command

section Entries

theorem Genuine.mono (genuine : Genuine record since svc entry) (more : record.Grows later) :
    Genuine later since svc entry := by
  obtain ⟨info, latency, same, found⟩ := genuine
  refine ⟨info, latency, same, ?_⟩
  cases found with
  | said after was =>
    obtain ⟨added, whole⟩ := more.history
    refine .said after ?_
    rw [← whole, List.getElem?_append_left (List.getElem?_eq_some_iff.mp was).1]
    exact was
  | missed after noted => exact .missed after (more.unanswered.subset noted)

theorem Genuine.id_eq (genuine : Genuine record since svc entry) : entry.id = svc.id := by
  obtain ⟨info, latency, rfl, _⟩ := genuine
  exact check_id svc info latency

theorem Genuine.consoleUrl_eq (genuine : Genuine record since svc entry) :
    entry.consoleUrl = svc.consoleUrl := by
  obtain ⟨info, latency, rfl, _⟩ := genuine
  exact check_consoleUrl svc info latency

theorem genuine_check (before : since ≤ s.now) (svc : WatchedService) (inTime : Bool)
    (latency : String) :
    Genuine (s.note svc inTime).record since svc
      (check svc (inspection s.docker svc inTime) latency) := by
  refine ⟨_, latency, rfl, ?_⟩
  cases inTime with
  | false => exact .missed before (List.mem_append_right _ (List.mem_singleton_self _))
  | true => exact .said before List.getElem?_concat_length

theorem Lists.mono {since : WatchedService → Nat} {services : List WatchedService}
    {entries : List ServiceHealth}
    (lists : Lists record since services entries) (more : record.Grows later) :
    Lists later since services entries := by
  obtain ⟨entry, same, genuine⟩ := lists
  exact ⟨entry, same, fun svc member => (genuine svc member).mono more⟩

theorem Lists.concat {services : List WatchedService} {entries : List ServiceHealth}
    (lists : Lists record (fun _ => since) services entries) (fresh : svc ∉ services)
    (genuine : Genuine record since svc entry) :
    Lists record (fun _ => since) (services ++ [svc]) (entries ++ [entry]) := by
  obtain ⟨entryOf, same, each⟩ := lists
  refine ⟨Function.update entryOf svc entry, ?_, ?_⟩
  · rw [List.map_append, List.map_singleton, Function.update_self, same]
    congr 1
    exact List.map_congr_left fun other member =>
      (Function.update_of_ne (ne_of_mem_of_not_mem member fresh) ..).symm
  · intro other member
    rcases List.mem_append.mp member with inside | last
    · rw [Function.update_of_ne (ne_of_mem_of_not_mem inside fresh)]
      exact each other inside
    · obtain rfl := List.mem_singleton.mp last
      rw [Function.update_self]
      exact genuine

theorem Lists.patch {fresh : String → Nat} (watched : svc ∈ watchedServices) {at_ : Nat}
    (lists : Lists record (fun svc => fresh svc.id) watchedServices data.services)
    (genuine : Genuine record at_ svc entry) :
    Lists record (fun svc => Function.update fresh entry.id at_ svc.id) watchedServices
      (SystemHealth.patch entry data).services := by
  obtain ⟨entryOf, same, each⟩ := lists
  refine ⟨fun other => if other.id = entry.id then entry else entryOf other, ?_, ?_⟩
  · unfold SystemHealth.patch
    dsimp only
    rw [same, List.map_map]
    refine List.map_congr_left fun other member => ?_
    simp [(each other member).id_eq]
  · intro other member
    by_cases here : other.id = entry.id
    · have same : other = svc := eq_of_id member watched (here.trans genuine.id_eq)
      subst same
      simp only [if_pos here]
      rw [here, Function.update_self]
      exact genuine
    · simp only [if_neg here]
      rw [Function.update_of_ne here]
      exact each other member

end Entries

section Steps

theorem sound_init (docker : Docker) : Sound (init docker) := ⟨nofun, nofun, nofun, nofun⟩

theorem Stage.Sound.mono {stage : Stage} {now after : Nat} (sound : stage.Sound record now)
    (more : record.Grows later) (time : now ≤ after) : stage.Sound later after := by
  cases stage with
  | done svc at_ => exact ⟨sound.1, Nat.le_trans sound.2 time⟩
  | answered updated at_ =>
    obtain ⟨svc, watched, genuine⟩ := sound
    exact ⟨svc, watched, genuine.mono more⟩
  | _ => trivial

theorem ordered_setStage {call : Nat} {stage : Stage} {command : Action × String}
    (ordered : Ordered s.calls command) : Ordered (s.setStage call stage).calls command := by
  obtain ⟨made, member, svc, watched, same, rfl⟩ := ordered
  obtain ⟨i, inside, rfl⟩ := List.mem_iff_getElem.mp member
  have there : i < (s.setStage call stage).calls.length := by simpa [State.setStage] using inside
  refine ⟨(s.setStage call stage).calls[i], List.getElem_mem there, svc, watched, ?_, ?_⟩
  · simp only [State.setStage, List.getElem_modify]
    split <;> exact same
  · simp only [State.setStage, List.getElem_modify]
    split <;> rfl

theorem Sound.setStage (sound : Sound s) (call : Nat) {stage : Stage}
    (fits : stage.Sound s.record s.now) : Sound (s.setStage call stage) where
  poll := sound.poll
  data := sound.data
  calls made member := by
    obtain ⟨i, inside, rfl⟩ := List.mem_iff_getElem.mp member
    have before : i < s.calls.length := by simpa [State.setStage] using inside
    simp only [State.setStage, List.getElem_modify]
    split
    · exact fits
    · exact sound.calls _ (List.getElem_mem before)
  commands command member := ordered_setStage (sound.commands command member)

theorem Sound.invalidate (sound : Sound s) : Sound s.invalidate := by
  unfold State.invalidate
  split
  · exact sound
  · refine ⟨?_, sound.data, sound.calls, sound.commands⟩
    rintro poll ⟨⟩
    exact ⟨Nat.le_refl _, fun svc => ⟨svc.id, svc.name, .good, "", "", false⟩, rfl, nofun⟩

theorem Sound.note (sound : Sound s) (svc : WatchedService) (inTime : Bool) :
    Sound (s.note svc inTime) := by
  cases inTime with
  | true => exact sound
  | false =>
    have more : s.record.Grows (s.note svc false).record := ⟨List.prefix_rfl, List.prefix_append ..⟩
    refine ⟨fun poll asked => ?_, fun data cached => ?_, fun call member => ?_, sound.commands⟩
    · exact (sound.poll poll asked).imp_right fun lists => lists.mono more
    · exact (sound.data data cached).imp_right fun lists => lists.mono more
    · exact (sound.calls call member).mono more (Nat.le_refl _)

theorem sound_change (sound : Sound s) (docker : Docker) :
    Sound { s with docker := docker, past := s.past ++ [s.docker] } := by
  have more :
      s.record.Grows ({ s with docker := docker, past := s.past ++ [s.docker] } : State).record :=
    ⟨List.prefix_append .., List.prefix_rfl⟩
  have time : s.now ≤ ({ s with docker := docker, past := s.past ++ [s.docker] } : State).now := by
    simp [State.now]
  refine ⟨fun poll asked => ?_, fun data cached => ?_, fun call member => ?_, sound.commands⟩
  · obtain ⟨before, lists⟩ := sound.poll poll asked
    exact ⟨Nat.le_trans before time, lists.mono more⟩
  · obtain ⟨overall, lists⟩ := sound.data data cached
    exact ⟨overall, lists.mono more⟩
  · exact (sound.calls call member).mono more time

theorem sound_inspect (sound : Sound s) {inTime : Bool} {latency : String}
    (taken : step s (.inspect inTime latency) = some next) : Sound next := by
  obtain ⟨poll, asked, taken⟩ := Option.bind_eq_some_iff.mp taken
  obtain ⟨svc, found, taken⟩ := Option.bind_eq_some_iff.mp taken
  cases taken
  have noted := sound.note svc inTime
  have kept : (s.note svc inTime).poll = some poll := by cases inTime <;> exact asked
  have then_ : (s.note svc inTime).now = s.now := by cases inTime <;> rfl
  obtain ⟨before, lists⟩ := noted.poll poll kept
  refine ⟨?_, noted.data, noted.calls, noted.commands⟩
  rintro more ⟨⟩
  refine ⟨before, ?_⟩
  obtain ⟨inside, here⟩ := List.getElem?_eq_some_iff.mp found
  have grown : watchedServices.take (poll.checked.length + 1) =
      watchedServices.take poll.checked.length ++ [svc] := by
    rw [List.take_add_one, found]
    rfl
  have fresh : svc ∉ watchedServices.take poll.checked.length := by
    have distinct := watchedServices_nodup.sublist (List.take_sublist (poll.checked.length + 1) _)
    rw [grown] at distinct
    exact fun member =>
      (List.nodup_append.mp distinct).2.2 svc member svc (List.mem_singleton_self _) rfl
  dsimp only
  rw [List.length_append, List.length_singleton, grown]
  exact lists.concat fresh (genuine_check (then_ ▸ before) svc inTime latency)

theorem sound_arrive (sound : Sound s) (taken : step s .arrive = some next) : Sound next := by
  obtain ⟨poll, asked, taken⟩ := Option.bind_eq_some_iff.mp taken
  obtain ⟨whole, same⟩ := Option.ite_none_right_eq_some.mp taken
  cases same
  obtain ⟨_, lists⟩ := sound.poll poll asked
  rw [whole, List.take_length] at lists
  refine ⟨nofun, ?_, sound.calls, sound.commands⟩
  rintro data ⟨⟩
  exact ⟨rfl, lists⟩

theorem sound_perform (sound : Sound s) {call : Nat} {succeeds : Bool}
    (taken : step s (.perform call succeeds) = some next) : Sound next := by
  simp only [step] at taken
  split at taken
  next id action found =>
    split at taken
    · cases taken
      exact sound.setStage call trivial
    next svc known =>
      cases taken
      obtain ⟨watched, same⟩ := mem_of_findWatchedService known
      have asked : Sound { s with commands := s.commands ++ [(action, svc.containerName)] } := by
        refine ⟨sound.poll, sound.data, sound.calls, fun command member => ?_⟩
        rcases List.mem_append.mp member with earlier | last
        · exact sound.commands command earlier
        · rw [List.mem_singleton.mp last]
          exact ⟨_, List.mem_of_getElem? found, svc, watched, same, rfl⟩
      refine asked.setStage call ?_
      cases succeeds with
      | true => exact ⟨watched, Nat.le_refl _⟩
      | false => trivial
  next => cases taken

theorem sound_checkOne (sound : Sound s) {call : Nat} {inTime : Bool} {latency : String}
    (taken : step s (.checkOne call inTime latency) = some next) : Sound next := by
  simp only [step] at taken
  split at taken
  next svc at_ found =>
    cases taken
    obtain ⟨watched, before⟩ := sound.calls _ (List.mem_of_getElem? found)
    exact (sound.note svc inTime).setStage call ⟨svc, watched,
      genuine_check before svc inTime latency⟩
  next => cases taken

theorem sound_settle (sound : Sound s) {call : Nat} (taken : step s (.settle call) = some next) :
    Sound next := by
  simp only [step] at taken
  split at taken
  next updated at_ found =>
    cases taken
    obtain ⟨svc, watched, genuine⟩ := sound.calls _ (List.mem_of_getElem? found)
    have patched : Sound { s with
        data := s.data.map (patch updated)
        fresh := Function.update s.fresh updated.id at_ } := by
      refine ⟨sound.poll, fun data cached => ?_, sound.calls, sound.commands⟩
      obtain ⟨before, cachedBefore, rfl⟩ := Option.map_eq_some_iff.mp cached
      exact ⟨(deriveOverallStatus_eq _).symm,
        (sound.data before cachedBefore).2.patch watched genuine⟩
    have settled : Sound (State.setStage _ call .settled) := patched.setStage call trivial
    exact settled.invalidate
  next found =>
    cases taken
    have settled : Sound (s.setStage call .settled) := sound.setStage call trivial
    exact settled.invalidate
  next => cases taken

theorem sound_step {event : Event} (sound : Sound s) (taken : step s event = some next) :
    Sound next := by
  cases event with
  | change docker =>
    cases taken
    exact sound_change sound docker
  | poll =>
    obtain ⟨_, same⟩ := Option.ite_none_right_eq_some.mp taken
    cases same
    refine ⟨?_, sound.data, sound.calls, sound.commands⟩
    rintro poll ⟨⟩
    exact ⟨Nat.le_refl _, fun svc => ⟨svc.id, svc.name, .good, "", "", false⟩, rfl, nofun⟩
  | inspect inTime latency => exact sound_inspect sound taken
  | arrive => exact sound_arrive sound taken
  | lose =>
    obtain ⟨_, same⟩ := Option.ite_none_right_eq_some.mp taken
    cases same
    exact ⟨nofun, sound.data, sound.calls, sound.commands⟩
  | act id action =>
    cases taken
    refine ⟨sound.poll, sound.data, fun call member => ?_, fun command member => ?_⟩
    · rcases List.mem_append.mp member with before | last
      · exact sound.calls call before
      · rw [List.mem_singleton.mp last]
        trivial
    · obtain ⟨call, made, rest⟩ := sound.commands command member
      exact ⟨call, List.mem_append_left _ made, rest⟩
  | perform call succeeds => exact sound_perform sound taken
  | checkOne call inTime latency => exact sound_checkOne sound taken
  | settle call => exact sound_settle sound taken

end Steps

section Screen

/-- The container has been as it is since the request that the screen's entry answers. -/
def Unchanged (s : State) (svc : WatchedService) : Prop :=
  ∀ time docker, s.fresh svc.id ≤ time → s.history[time]? = some docker →
    docker svc.containerName = s.docker svc.containerName

/-- An inspection of the container since then got no answer in time. -/
def Missed (s : State) (svc : WatchedService) : Prop :=
  ∃ time, s.fresh svc.id ≤ time ∧ (time, svc.containerName) ∈ s.unanswered

/-- The screen lists each watched service once, those with a console first; its overall status is
the worst of those that it shows; and each entry says how the container was at some time since it
was asked about, or that an inspection of it since then got no answer in time. It is how the
container is now unless that has changed. -/
structure Truthful (s : State) (data : Summary) : Prop where
  overall : data.overallStatus = deriveOverallStatus data.services
  displayed : (sortServicesForDisplay data.services).map ServiceHealth.id =
    ["minio", "prometheus", "grafana", "jupyter", "mlflow", "kafka", "postgres", "redis", "worker"]
  entries : Lists s.record (fun svc => s.fresh svc.id) watchedServices data.services
  current : ∀ svc ∈ watchedServices, Unchanged s svc → ∃ entry ∈ data.services, ∃ latency,
    entry = check svc (s.docker svc.containerName) latency ∨ entry = check svc none latency ∧
    Missed s svc

theorem displayed_of_lists {since : WatchedService → Nat} {entries : List ServiceHealth}
    (lists : Lists record since watchedServices entries) :
    (sortServicesForDisplay entries).map ServiceHealth.id =
      ["minio", "prometheus", "grafana", "jupyter", "mlflow", "kafka", "postgres",
        "redis", "worker"] := by
  obtain ⟨entry, rfl, genuine⟩ := lists
  have consoles (has : Bool) : (watchedServices.map entry).filter
      (fun service => service.hasConsole == has) =
      (watchedServices.filter fun svc => decide (svc.consoleUrl ≠ "") == has).map entry := by
    rw [List.filter_map]
    congr 1
    exact List.filter_congr fun svc member => by
      simp [ServiceHealth.hasConsole, (genuine svc member).consoleUrl_eq]
  have yes := consoles true
  have no := consoles false
  simp only [beq_true, beq_false] at yes no
  have ids (services : List WatchedService) (watched : ∀ svc ∈ services, svc ∈ watchedServices) :
      (services.map entry).map ServiceHealth.id = services.map WatchedService.id := by
    rw [List.map_map]
    exact List.map_congr_left fun svc member => (genuine svc (watched svc member)).id_eq
  rw [sortServicesForDisplay_eq, yes, no, List.map_append, ids _ fun _ => List.mem_of_mem_filter,
    ids _ fun _ => List.mem_of_mem_filter]
  decide

theorem current_of_genuine (genuine : Genuine s.record (s.fresh svc.id) svc entry)
    (unchanged : Unchanged s svc) :
    ∃ latency, entry = check svc (s.docker svc.containerName) latency ∨
      entry = check svc none latency ∧ Missed s svc := by
  obtain ⟨info, latency, same, found⟩ := genuine
  refine ⟨latency, ?_⟩
  cases found with
  | @said time docker after was =>
    rw [unchanged time docker after was] at same
    exact .inl same
  | @missed time after noted => exact .inr ⟨same, time, after, noted⟩

/-- In every run, the screen is truthful whenever it shows anything, and Docker was only asked for
what requests for watched services are about. -/
theorem health_truthful (reachable : (system initial).Reachable s) :
    (∀ data, s.data = some data → Truthful s data) ∧
    ∀ command ∈ s.commands, Ordered s.calls command := by
  have sound : Sound s :=
    reachable.preserves (fun _ _ _ sound _ taken => sound_step sound taken) (sound_init initial)
  refine ⟨fun data cached => ?_, sound.commands⟩
  obtain ⟨overall, lists⟩ := sound.data data cached
  refine ⟨overall, displayed_of_lists lists, lists, fun svc watched unchanged => ?_⟩
  obtain ⟨entryOf, same, genuine⟩ := lists
  obtain ⟨latency, current⟩ := current_of_genuine (genuine svc watched) unchanged
  exact ⟨entryOf svc, same ▸ List.mem_map_of_mem watched, latency, current⟩

def mostlyUp (container : String) : Inspection :=
  if container = "openscale-kafka" then none else some (some ⟨true, false, false, false, none⟩)

def restarted : List Event :=
  .poll :: List.replicate 9 (.inspect true "1.0") ++
    [.arrive, .act "kafka" .restart, .perform 0 true, .change fun _ =>
      some (some ⟨true, false, false, false, none⟩), .checkOne 0 true "2.0", .settle 0]

theorem health_truthful_restarted : ∃ s : State, s.data.map Summary.overallStatus = some .good ∧
    s.commands = [(.restart, "openscale-kafka")] ∧
      (∀ data, s.data = some data → Truthful s data) ∧
      ∀ command ∈ s.commands, Ordered s.calls command := by
  have replayed : ((system mostlyUp).replay (fun _ _ => True) (init mostlyUp) restarted).map
      (fun s => (s.data.map Summary.overallStatus, s.commands)) =
      some (some .good, [(.restart, "openscale-kafka")]) := by
    decide +kernel
  obtain ⟨s, reachable, seen⟩ := TransitionSystem.reaches_of_replay replayed
  obtain ⟨overall, commands⟩ := Prod.mk.inj seen
  exact ⟨s, overall, commands, health_truthful reachable⟩

end Screen

end OpenScale.SystemHealth

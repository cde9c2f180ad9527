import OpenScale.Migrations.System

/-! Each migration is applied exactly once, however the startups interleave and wherever they
end. -/

namespace OpenScale.Migrations

open OpenScale.Library OpenScale.Library.TransitionSystem

variable {s s' : State} {event : Event} {db db' : Database} {startup next : Startup}
  {action : Action}
variable {held : String → Bool} {name : String} {rest names versions : List String} {phase : Phase}

/-- The files whose SQL the startup may still run, of all its `names`. -/
def Phase.ahead (names : List String) : Phase → List String
  | creatingTable | creatingSchema | creatingTableAgain => names
  | checking name rest | beginning name rest | applying name rest => name :: rest
  | recording _ rest | committing _ rest => rest
  | returned _ | crashed => []

/-- The files that the loop has not got past. -/
def Phase.left (names : List String) : Phase → List String
  | creatingTable | creatingSchema | creatingTableAgain | returned false | crashed => names
  | checking name rest | beginning name rest | applying name rest | recording name rest
  | committing name rest => name :: rest
  | returned true => []

/-- What the transaction has done by the time of a phase. One whose COMMIT was sent has both run the
SQL of a file and recorded it. -/
def Phase.Fits : Phase → Option Tx → Prop
  | applying _ _, tx => tx = some ⟨none, none, false⟩
  | recording name _, tx => tx = some ⟨some name, none, false⟩
  | committing name _, tx => tx = some ⟨some name, some name, false⟩
  | returned _, tx | crashed, tx =>
    ∀ sent, tx = some sent → sent.commitSent = true → ∃ name, sent = ⟨some name, some name, true⟩
  | _, tx => tx = none

@[simp] theorem ahead_loopHead : (loopHead rest).ahead names = rest := by cases rest <;> rfl

@[simp] theorem left_loopHead : (loopHead rest).left names = rest := by cases rest <;> rfl

theorem fits_loopHead : (loopHead rest).Fits none := by
  cases rest with
  | nil => exact nofun
  | cons name rest => rfl

/-- Of a startup, at any point. -/
structure Startup.Sound (versions : List String) (startup : Startup) : Prop where
  fits : startup.phase.Fits startup.tx
  ordered : (startup.ran ++ startup.phase.ahead startup.files.names).Sublist startup.files.names
  covered : ∀ name ∈ startup.files.names,
    name ∈ versions ∨ name ∈ startup.phase.left startup.files.names

theorem Startup.Sound.grow (sound : startup.Sound versions) : startup.Sound (versions ++ rest) := by
  refine ⟨sound.fits, sound.ordered, fun name listed => ?_⟩
  rcases sound.covered name listed with there | left
  · exact .inl (List.mem_append_left _ there)
  · exact .inr left

/-- What a step of a sound startup does to the versions that are there or in its transaction. -/
inductive Effect (db : Database) (held : String → Bool) (startup : Startup) :
    Database → Startup → Prop where
  | keeps {db' : Database} {next : Startup} (versions : db'.versions = db.versions)
      (committed : db'.committed = db.committed)
      (recorded : next.recorded = startup.recorded ∨ next.recorded = none) :
      Effect db held startup db' next
  | records {next : Startup} {name : String} (unheld : held name = false)
    (fresh : name ∉ db.versions)
      (before : startup.recorded = none) (recorded : next.recorded = some name) :
      Effect db held startup db next
  | commits {next : Startup} {name : String} {sent : Bool} (before : startup.recorded = some name)
      (recorded : next.recorded = none) :
      Effect db held startup (db.commit ⟨some name, some name, sent⟩) next

theorem Startup.Sound.goOn (sound : startup.Sound versions) (files : next.files = startup.files)
    (fits : next.phase.Fits next.tx)
    (ordered : (next.ran ++ next.phase.ahead next.files.names).Sublist
      (startup.ran ++ startup.phase.ahead startup.files.names))
    (left : ∀ name ∈ startup.phase.left startup.files.names,
      name ∈ versions ∨ name ∈ next.phase.left next.files.names) : next.Sound versions := by
  refine ⟨fits, files ▸ ordered.trans sound.ordered, fun name listed => ?_⟩
  rw [files] at listed
  rcases sound.covered name listed with there | behind
  · exact .inl there
  · exact left name behind

theorem Startup.Sound.toHead (sound : startup.Sound versions)
    (ahead : rest.Sublist (startup.phase.ahead startup.files.names))
    (left : ∀ name ∈ startup.phase.left startup.files.names, name ∈ versions ∨ name ∈ rest) :
    Startup.Sound versions { startup with phase := loopHead rest, tx := none } := by
  refine sound.goOn rfl fits_loopHead ?_ ?_
  · rw [ahead_loopHead]
    exact ahead.append_left _
  · intro name behind
    rw [left_loopHead]
    exact left name behind

theorem Startup.Sound.quit {tx : Option Tx} (sound : startup.Sound versions)
    (ended : phase = .returned false ∨ phase = .crashed) (fits : phase.Fits tx) :
    Startup.Sound versions { startup with phase := phase, tx := tx } := by
  have nothing : ∀ names, phase.ahead names = [] ∧ phase.left names = names := by
    intro names
    rcases ended with rfl | rfl
    · exact ⟨rfl, rfl⟩
    · exact ⟨rfl, rfl⟩
  refine ⟨fits, ?_, fun name listed => .inr ?_⟩
  · rw [(nothing _).1, List.append_nil]
    exact (List.sublist_append_left _ _).trans sound.ordered
  · rw [(nothing _).2]
    exact listed

/-- Before the COMMIT is sent, a transaction may end with any phase. -/
theorem fits_over {tx : Option Tx} (ended : phase = .returned false ∨ phase = .crashed)
    (unsent : ∀ sent, tx = some sent → sent.commitSent = false) : phase.Fits tx := by
  rcases ended with rfl | rfl
  all_goals
    intro sent there answered
    rw [unsent sent there] at answered
    cases answered

theorem sound_succeed (sound : startup.Sound db.versions)
    (taken : startup.succeed db held = some (db', next)) :
    next.Sound db'.versions ∧ Effect db held startup db' next := by
  obtain ⟨files, phase, tx, ran⟩ := startup
  have fits := sound.fits
  cases phase with
  | creatingTable =>
    cases show tx = none from fits
    obtain ⟨_, rfl, rfl⟩ : db.schema = true ∧ _ = db' ∧ _ = next := by
      simpa [Startup.succeed] using taken
    exact ⟨sound.toHead (.refl _) fun _ behind => .inr behind, .keeps rfl rfl (.inl rfl)⟩
  | creatingSchema =>
    cases taken
    exact ⟨sound.goOn rfl fits (.refl _) fun _ behind => .inr behind, .keeps rfl rfl (.inl rfl)⟩
  | creatingTableAgain =>
    cases show tx = none from fits
    obtain ⟨_, rfl, rfl⟩ : db.schema = true ∧ _ = db' ∧ _ = next := by
      simpa [Startup.succeed] using taken
    exact ⟨sound.toHead (.refl _) fun _ behind => .inr behind, .keeps rfl rfl (.inl rfl)⟩
  | checking name rest =>
    cases show tx = none from fits
    simp only [Startup.succeed] at taken
    split at taken
    · cases taken
    split at taken
    · rename_i there
      cases taken
      refine ⟨sound.toHead (List.sublist_cons_self _ _) fun other behind => ?_,
        .keeps rfl rfl (.inl rfl)⟩
      rcases List.mem_cons.mp behind with rfl | later
      · exact .inl there
      · exact .inr later
    · cases taken
      exact ⟨sound.goOn rfl rfl (.refl _) fun _ behind => .inr behind, .keeps rfl rfl (.inl rfl)⟩
  | beginning name rest =>
    cases show tx = none from fits
    cases taken
    exact ⟨sound.goOn rfl rfl (.refl _) fun _ behind => .inr behind, .keeps rfl rfl (.inl rfl)⟩
  | applying name rest =>
    cases show tx = some _ from fits
    cases taken
    refine ⟨sound.goOn rfl rfl ?_ fun _ behind => .inr behind, .keeps rfl rfl (.inl rfl)⟩
    simp [Phase.ahead]
  | recording name rest =>
    cases show tx = some _ from fits
    simp only [Startup.succeed] at taken
    split at taken
    · cases taken
    · rename_i free
      obtain ⟨fresh, unheld⟩ := not_or.mp free
      cases taken
      refine ⟨sound.goOn rfl rfl (.refl _) fun _ behind => .inr behind, ?_⟩
      exact .records (Bool.eq_false_iff.mpr unheld) fresh rfl rfl
  | committing name rest =>
    cases show tx = some _ from fits
    cases taken
    refine ⟨sound.grow.toHead (.refl _) fun other behind => ?_, .commits rfl rfl⟩
    rcases List.mem_cons.mp behind with rfl | later
    · exact .inl (List.mem_append_right _ (List.mem_singleton_self _))
    · exact .inr later
  | returned ok => cases taken
  | crashed => cases taken

theorem sound_fail (sound : startup.Sound versions) (taken : startup.fail = some next) :
    next.Sound versions ∧ next.recorded = startup.recorded := by
  obtain ⟨files, phase, tx, ran⟩ := startup
  have fits := sound.fits
  cases phase with
  | creatingTable =>
    cases taken
    exact ⟨sound.goOn rfl fits (.refl _) fun _ behind => .inr behind, rfl⟩
  | committing name rest =>
    cases show tx = some _ from fits
    cases taken
    exact ⟨sound.quit (.inl rfl) fun sent there _ => ⟨name, Option.some.inj there.symm⟩, rfl⟩
  | returned ok => cases taken
  | crashed => cases taken
  | _ =>
    cases show tx = _ from fits
    cases taken
    exact ⟨sound.quit (.inl rfl) (fits_over (.inl rfl) (by simp)), rfl⟩

theorem sound_crash (sound : startup.Sound versions) (taken : startup.crash = some next) :
    next.Sound versions ∧ next.recorded = startup.recorded := by
  obtain ⟨files, phase, tx, ran⟩ := startup
  have fits := sound.fits
  cases phase with
  | committing name rest =>
    cases show tx = some _ from fits
    cases taken
    exact ⟨sound.quit (.inr rfl) fun sent there _ => ⟨name, Option.some.inj there.symm⟩, rfl⟩
  | returned ok => cases taken
  | crashed => cases taken
  | _ =>
    cases show tx = _ from fits
    cases taken
    exact ⟨sound.quit (.inr rfl) (fits_over (.inr rfl) (by simp)), rfl⟩

theorem Startup.Sound.close (sound : startup.Sound versions) (ended : startup.phase.isOver = true) :
    Startup.Sound versions { startup with tx := none } := by
  refine sound.goOn rfl ?_ (.refl _) fun _ behind => .inr behind
  cases reached : startup.phase with
  | returned ok => exact nofun
  | crashed => exact nofun
  | _ => simp [reached, Phase.isOver] at ended

/-- A lost answer is a failure, whatever was created. -/
theorem fail_of_lost (taken : startup.act db held .lost = some (db', next)) :
    (db'.versions = db.versions ∧ db'.committed = db.committed) ∧ startup.fail = some next := by
  have mapped : ∀ {made : Database}, (startup.fail.map fun next => (made, next)) =
      some (db', next) →
      made = db' ∧ startup.fail = some next := by
    intro made taken
    obtain ⟨_, failed, same⟩ := Option.map_eq_some_iff.mp taken
    cases same
    exact ⟨rfl, failed⟩
  simp only [Startup.act] at taken
  split at taken
  · split at taken
    · obtain ⟨rfl, failed⟩ := mapped taken
      exact ⟨⟨rfl, rfl⟩, failed⟩
    · cases taken
  · split at taken
    · obtain ⟨rfl, failed⟩ := mapped taken
      exact ⟨⟨rfl, rfl⟩, failed⟩
    · cases taken
  · obtain ⟨rfl, failed⟩ := mapped taken
    exact ⟨⟨rfl, rfl⟩, failed⟩
  · cases taken

theorem sound_act (sound : startup.Sound db.versions)
    (taken : startup.act db held action = some (db', next)) :
    next.Sound db'.versions ∧ Effect db held startup db' next := by
  cases action with
  | succeed => exact sound_succeed sound taken
  | fail =>
    obtain ⟨_, failed, same⟩ := Option.map_eq_some_iff.mp taken
    cases same
    obtain ⟨after, recorded⟩ := sound_fail sound failed
    exact ⟨after, .keeps rfl rfl (.inl recorded)⟩
  | crash =>
    obtain ⟨_, crashed, same⟩ := Option.map_eq_some_iff.mp taken
    cases same
    obtain ⟨after, recorded⟩ := sound_crash sound crashed
    exact ⟨after, .keeps rfl rfl (.inl recorded)⟩
  | lost =>
    obtain ⟨same, failed⟩ := fail_of_lost taken
    obtain ⟨after, recorded⟩ := sound_fail sound failed
    exact ⟨same.1 ▸ after, .keeps same.1 same.2 (.inl recorded)⟩
  | lateCommit =>
    simp only [Startup.act] at taken
    split at taken
    · rename_i tx found
      split at taken
      · rename_i late
        obtain ⟨ended, sent⟩ := Bool.and_eq_true_iff.mp late
        cases taken
        obtain ⟨name, rfl⟩ : ∃ name, tx = ⟨some name, some name, true⟩ := by
          have fits := sound.fits
          cases reached : startup.phase with
          | returned ok => exact (reached ▸ fits : Phase.Fits (.returned ok) _) tx found sent
          | crashed => exact (reached ▸ fits : Phase.Fits .crashed _) tx found sent
          | _ => simp [reached, Phase.isOver] at ended
        exact ⟨sound.grow.close ended, .commits (by rw [Startup.recorded, found]; rfl) rfl⟩
      · cases taken
    · cases taken
  | rollback =>
    simp only [Startup.act] at taken
    split at taken
    · rename_i late
      cases taken
      exact ⟨sound.close (Bool.and_eq_true_iff.mp late).1, .keeps rfl rfl (.inr rfl)⟩
    · cases taken

/-- The versions that are there, and those in open transactions. -/
def State.claimed (s : State) : List String :=
  s.db.versions ++ s.startups.filterMap Startup.recorded

/-- Of the whole system: no version is there or about to be there twice. -/
structure State.Sound (s : State) : Prop where
  startups : ∀ startup ∈ s.startups, startup.Sound s.db.versions
  claimed : s.claimed.Nodup
  committed : s.db.committed = s.db.versions

theorem held_eq_false : s.held name = false ↔ name ∉ s.startups.filterMap Startup.recorded := by
  simp [State.held, List.mem_filterMap]

theorem claimed_effect {front back : List Startup} (among : s.startups = front ++ startup :: back)
    (claimed : s.claimed.Nodup) (effect : Effect s.db s.held startup db' next) :
    (State.claimed ⟨db', front ++ next :: back⟩).Nodup := by
  cases effect with
  | keeps versions committed recorded =>
    refine claimed.sublist ?_
    simp only [State.claimed, among, versions, List.filterMap_append]
    refine ((List.Sublist.refl _).append ?_).append_left _
    rcases recorded with same | gone
    · simp only [List.filterMap_cons, same]
      exact .refl _
    · simp only [List.filterMap_cons, gone]
      cases startup.recorded with
      | none => exact .refl _
      | some name => exact List.sublist_cons_self _ _
  | records unheld fresh before recorded =>
    have absent := held_eq_false.mp unheld
    simp only [State.claimed, among, List.filterMap_append, List.filterMap_cons,
      before] at claimed absent
    simp only [State.claimed, List.filterMap_append, List.filterMap_cons, recorded,
      ← List.append_assoc]
    rw [List.perm_middle.nodup_iff, List.append_assoc, List.nodup_cons, List.mem_append]
    exact ⟨not_or.mpr ⟨fresh, absent⟩, claimed⟩
  | commits before recorded =>
    simp only [State.claimed, among, List.filterMap_append, List.filterMap_cons, before] at claimed
    simp only [State.claimed, Database.commit, List.filterMap_append, List.filterMap_cons, recorded,
      Option.toList_some, List.append_assoc, List.singleton_append]
    exact (List.perm_middle.append_left _).nodup_iff.mp claimed

theorem Effect.grows (effect : Effect db held startup db' next) :
    ∃ more, db'.versions = db.versions ++ more := by
  cases effect with
  | keeps versions => exact ⟨[], by rw [versions, List.append_nil]⟩
  | records => exact ⟨[], (List.append_nil _).symm⟩
  | commits => exact ⟨_, rfl⟩

theorem Effect.committed (effect : Effect db held startup db' next)
    (before : db.committed = db.versions) : db'.committed = db'.versions := by
  cases effect with
  | keeps versions committed => rw [versions, committed, before]
  | records => exact before
  | commits => simp only [Database.commit, before]

theorem sound_step (sound : s.Sound) (taken : system.step s event = some s') : s'.Sound := by
  cases event with
  | start files =>
    cases taken
    refine ⟨?_, ?_, sound.committed⟩
    · intro startup member
      rcases List.mem_append.mp member with old | new
      · exact sound.startups startup old
      · cases List.mem_singleton.mp new
        exact ⟨rfl, .refl _, fun name listed => .inr listed⟩
    · have same : (s.startups ++ [Startup.mk files .creatingTable none []]).filterMap
          Startup.recorded = s.startups.filterMap Startup.recorded :=
        List.filterMap_append.trans (List.append_nil _)
      rw [State.claimed, same]
      exact sound.claimed
  | act i action =>
    simp only [system, step] at taken
    split at taken
    · cases taken
    · rename_i startup found
      obtain ⟨⟨db', next⟩, acted, same⟩ := Option.map_eq_some_iff.mp taken
      cases same
      obtain ⟨inside, rfl⟩ := List.getElem?_eq_some_iff.mp found
      obtain ⟨front, back, among, _, replaced⟩ : ∃ front back, s.startups = front ++ _ :: back ∧
        _ ∧ s.startups.set i next = front ++ next :: back := List.exists_of_set inside
      obtain ⟨after, effect⟩ := sound_act (sound.startups _ (List.getElem_mem inside)) acted
      rw [replaced]
      refine ⟨?_, claimed_effect among sound.claimed effect, effect.committed sound.committed⟩
      intro other member
      obtain ⟨more, grown⟩ := effect.grows
      have old : other ∈ s.startups → other.Sound db'.versions := fun listed =>
        grown ▸ (sound.startups other listed).grow
      rw [among] at old
      rcases List.mem_append.mp member with before | rest
      · exact old (List.mem_append_left _ before)
      · rcases List.mem_cons.mp rest with rfl | later
        · exact after
        · exact old (List.mem_append_right _ (List.mem_cons_of_mem _ later))

theorem reachable_sound (reachable : system.Reachable s) : s.Sound :=
  reachable.preserves (fun _ _ _ sound _ taken => sound_step sound taken) ⟨nofun, .nil, rfl⟩

theorem pairwise_names (files : Files) : files.names.Pairwise (· < ·) := by
  have sorted : files.names.Pairwise (· ≤ ·) := List.pairwise_insertionSort _ _
  have distinct : files.names.Nodup :=
    (List.perm_insertionSort _ _).nodup_iff.mpr (files.distinct.sublist (List.filter_sublist.map _))
  refine sorted.imp₂ ?_ distinct
  exact fun _ _ atMost differ => lt_of_le_of_ne atMost differ

theorem mem_names {files : Files} {entry : Entry} (listed : entry ∈ files.entries)
    (migration : entry.isMigration = true) : entry.name ∈ files.names := by
  rw [Files.names, List.mem_insertionSort]
  exact List.mem_map_of_mem (List.mem_filter.mpr ⟨listed, migration⟩)

/-- In every state that any startups lead to: no file's SQL was committed twice, the bookkeeping
table has exactly the versions whose SQL was committed, each startup has run files in strictly
ascending order, and where one has returned nil, all of its files are recorded. Which files a build
has is up to it: that files are only ever added is not needed. -/
theorem exactly_once (reachable : system.Reachable s) :
    s.db.committed.Nodup ∧ (∀ name, name ∈ s.db.versions ↔ name ∈ s.db.committed) ∧
    ∀ startup ∈ s.startups, startup.ran.Pairwise (· < ·) ∧
      (startup.phase = .returned true → ∀ entry ∈ startup.files.entries, entry.isMigration = true →
        entry.name ∈ s.db.versions) := by
  have sound := reachable_sound reachable
  refine ⟨?_, fun name => by rw [sound.committed], fun startup member => ⟨?_, ?_⟩⟩
  · rw [sound.committed]
    exact sound.claimed.sublist (List.sublist_append_left _ _)
  · have ordered := (sound.startups startup member).ordered
    exact (pairwise_names startup.files).sublist ((List.sublist_append_left _ _).trans ordered)
  · intro done entry listed migration
    rcases (sound.startups startup member).covered _ (mem_names listed migration) with there | left
    · exact there
    · rw [done] at left
      cases left

def oneMigration : Files := ⟨[⟨"0001_create_job_runs.sql", false⟩], by decide⟩

def acts (i : Nat) (actions : List Action) : List Event := actions.map (.act i)

/-- Two startups of one build: both find the migration missing, the second waits in its insert until
the first has committed, and fails. A third one has nothing to do. -/
def overlap : List Event := List.flatten
  [[.start oneMigration], acts 0 [.fail, .succeed, .succeed], [.start oneMigration],
    acts 1 [.succeed],
    acts 0 [.succeed, .succeed, .succeed, .succeed], acts 1 [.succeed, .succeed, .succeed],
    acts 0 [.succeed],
    acts 1 [.fail, .rollback], [.start oneMigration], acts 2 [.succeed, .succeed]]

theorem exactly_once_overlap : ∃ s, system.Reachable s ∧
    s.db = ⟨true, true, ["0001_create_job_runs.sql"], ["0001_create_job_runs.sql"]⟩ ∧
    s.startups.map Startup.phase = [.returned true, .returned false, .returned true] ∧
    s.db.committed.Nodup := by
  have replayed : (system.replay (fun _ _ => True) init overlap).map
      (fun s => (s.db, s.startups.map Startup.phase)) =
        some (⟨true, true, ["0001_create_job_runs.sql"], ["0001_create_job_runs.sql"]⟩,
          [.returned true, .returned false, .returned true]) := by
    decide +kernel
  obtain ⟨s, reachable, seen⟩ := reaches_of_replay replayed
  simp only [Prod.mk.injEq] at seen
  exact ⟨s, reachable, seen.1, seen.2, (exactly_once reachable).1⟩

end OpenScale.Migrations

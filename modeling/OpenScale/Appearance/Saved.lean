import OpenScale.Appearance.Sync

/-! What reaches the server: every change does, unless the load found nothing to hydrate and no
other change came after the first. -/

namespace OpenScale.Appearance

open OpenScale.Library

/-- The store that a sequence of changes leads to, and how many of them changed it. -/
def effect (seen : AppearanceSnapshot × Nat) : Event → AppearanceSnapshot × Nat
  | .change setters =>
    let store := applyAll seen.1 setters
    (store, if store = seen.1 then seen.2 else seen.2 + 1)
  | .wait _ => seen

def changes (store : AppearanceSnapshot) (events : List Event) : AppearanceSnapshot × Nat :=
  events.foldl effect (store, 0)

/-- The store had the values of the row at the load, and one change alone has taken it away from
them. -/
def Swallowed (store : AppearanceSnapshot) (row : AppearanceSettings) (events : List Event) :
    Prop :=
  Agrees row store ∧ (changes store events).2 = 1 ∧ ¬ Agrees row (changes store events).1

variable {store : AppearanceSnapshot} {row : AppearanceSettings} {seen : AppearanceSnapshot × Nat}
  {s : State}

theorem agrees_iff : Agrees row store ↔ utf16 row.themeOverride = store.themeOverride ∧
    utf16 row.visualMode = store.visualMode ∧ utf16 row.accentId = store.accentId ∧
    row.shadowScale = store.shadowScale ∧ row.uiScale = store.uiScale := by
  simp [Agrees, AppearanceSettings.toBody, AppearanceSnapshot.toBody, List.lookup_cons, eq_comm]

/-- The chart style of the store stays, since the answer has none. -/
theorem hydrate_toBody (store : AppearanceSnapshot) (row : AppearanceSettings) :
    hydrate store row.toBody =
    { themeOverride := utf16 row.themeOverride, visualMode := utf16 row.visualMode,
      accentId := utf16 row.accentId, chartStyle := store.chartStyle, shadowScale :=
        row.shadowScale,
      uiScale := row.uiScale } := by
  simp [hydrate, AppearanceSettings.toBody, hydrateField]

theorem agrees_hydrate (store : AppearanceSnapshot) (row : AppearanceSettings) :
    Agrees row (hydrate store row.toBody) := by
  rw [agrees_iff, hydrate_toBody]
  exact ⟨rfl, rfl, rfl, rfl, rfl⟩

theorem hydrate_eq_iff : hydrate store row.toBody = store ↔ Agrees row store := by
  constructor
  · intro same
    exact same ▸ agrees_hydrate store row
  · intro agrees
    obtain ⟨theme, mode, accent, shadow, ui⟩ := agrees_iff.mp agrees
    rw [hydrate_toBody, theme, mode, accent, shadow, ui]

/-- The answer has no chart style, and the store has one: they always differ. -/
theorem differs_toBody (store : AppearanceSnapshot) (row : AppearanceSettings) :
    differs store row.toBody = true :=
  List.any_eq_true.mpr ⟨("chartStyle", .text store.chartStyle), by simp [AppearanceSnapshot.toBody],
    rfl⟩

theorem wellFormed_hydrate (store : AppearanceSnapshot) (row : AppearanceSettings) :
    WellFormed (hydrate store row.toBody) := by
  rw [hydrate_toBody]
  simp [WellFormed]

theorem WellFormed.apply (formed : WellFormed store) (setter : Setter) :
    WellFormed (setter.apply store) := by
  cases setter
  all_goals simp_all [WellFormed, Setter.apply]

theorem WellFormed.applyAll (formed : WellFormed store) (setters : List Setter) :
    WellFormed (applyAll store setters) := by
  induction setters generalizing store with
  | nil => exact formed
  | cons setter setters ih => exact ih (formed.apply setter)

theorem agrees_settings (formed : WellFormed store) : Agrees store.settings store := by
  rw [agrees_iff]
  simpa [WellFormed, AppearanceSnapshot.settings] using formed

/-- What holds after the load of this row into this store, and the changes that are counted. -/
structure Tracks (store : AppearanceSnapshot) (row : AppearanceSettings)
    (seen : AppearanceSnapshot × Nat) (s : State) : Prop where
  hydrated : s.hydrated = true
  rendered : s.rendered = s.store
  shown : s.store = seen.1
  armed : s.skipNextSave = true ↔ Agrees row store ∧ seen.2 = 0
  held : Agrees row store → seen.2 ≤ 1 → s.timeout = none ∧ s.row = row
  saved : ¬ (Agrees row store ∧ seen.2 = 1) → s.timeout = none → Agrees s.row s.store
  pending : ∀ left snapshot, s.timeout = some (left, snapshot) →
    snapshot = s.store ∧ 0 < left ∧ left + s.idle = debounce
  formed : WellFormed s.store

theorem tracks_load (store : AppearanceSnapshot) (row : AppearanceSettings) :
    Tracks store row (hydrate store row.toBody, 0) (load store row) := by
  have formed := wellFormed_hydrate store row
  have agrees := agrees_hydrate store row
  unfold load hydrationEffect rerender
  by_cases matched : Agrees row store
  · have same := hydrate_eq_iff.mpr matched
    simp only [mounted, differs_toBody, Bool.or_true]
    rw [if_pos same]
    exact ⟨rfl, same.symm, rfl, by simp [matched], fun _ _ => ⟨rfl, rfl⟩, fun _ _ =>
      agrees, nofun, formed⟩
  · have other : hydrate store row.toBody ≠ store := fun same => matched (hydrate_eq_iff.mp same)
    simp only [mounted, differs_toBody, Bool.or_true]
    rw [if_neg other]
    exact ⟨rfl, rfl, rfl, by simp [saveEffect, matched], fun agrees => absurd agrees matched,
      fun _ _ => agrees, nofun, formed⟩

theorem step_unchanged {setters : List Setter} (rendered : s.rendered = s.store)
    (same : applyAll s.store setters = s.store) : step s (.change setters) = s := by
  cases s
  dsimp only at rendered same
  subst rendered
  simp [step, rerender, same]

theorem Tracks.change (tracks : Tracks store row seen s) (setters : List Setter) :
    Tracks store row (effect seen (.change setters)) (step s (.change setters)) := by
  obtain ⟨hydrated, rendered, shown, armed, held, saved, pending, formed⟩ := tracks
  have formed' := formed.applyAll setters
  by_cases same : applyAll s.store setters = s.store
  · have counted : effect seen (.change setters) = seen := by
      rw [effect, ← shown, same, if_pos rfl, shown]
    rw [step_unchanged rendered same, counted]
    exact ⟨hydrated, rendered, shown, armed, held, saved, pending, formed⟩
  · have runs : step s (.change setters) =
        saveEffect { s with store := applyAll s.store setters, idle := 0 } := by
      simp only [step, rerender, rendered, if_neg same]
    have counted : effect seen (.change setters) = (applyAll s.store setters, seen.2 + 1) := by
      rw [effect, ← shown, if_neg same]
    rw [runs, counted]
    by_cases skips : s.skipNextSave = true
    -- the flag is used up: nothing is sent
    · obtain ⟨matched, none_⟩ := armed.mp skips
      obtain ⟨_, row_⟩ := held matched (by omega)
      simp only [saveEffect, hydrated, skips, Bool.not_true, Bool.false_eq_true, if_false, if_true]
      refine ⟨rfl, rfl, rfl, by simp, fun _ _ => ⟨rfl, row_⟩, fun later =>
        absurd ⟨matched, by omega⟩ later, ?_, formed'⟩
      intro left snapshot waiting
      cases waiting
    · have later : Agrees row store → ¬ seen.2 + 1 ≤ 1 :=
        fun matched first => skips (armed.mpr ⟨matched, by omega⟩)
      simp only [saveEffect, hydrated, skips, Bool.not_true, Bool.false_eq_true, if_false]
      refine ⟨rfl, rfl, rfl, by simp, fun matched first => absurd first (later matched),
        ?_, ?_, formed'⟩
      · intro _ waiting
        cases waiting
      · rintro left snapshot ⟨⟩
        exact ⟨rfl, by decide, rfl⟩

theorem Tracks.wait (tracks : Tracks store row seen s) (milliseconds : Nat) :
    Tracks store row seen (step s (.wait milliseconds)) := by
  obtain ⟨hydrated, rendered, shown, armed, held, saved, pending, formed⟩ := tracks
  rw [step]
  split
  next none_ =>
    refine ⟨hydrated, rendered, shown, armed, held, saved, fun left snapshot waiting => ?_, formed⟩
    rw [none_] at waiting
    cases waiting
  next left snapshot waiting =>
    obtain ⟨rfl, positive, clock⟩ := pending left snapshot waiting
    have busy : Agrees row store → ¬ seen.2 ≤ 1 := by
      intro matched first
      rw [(held matched first).1] at waiting
      cases waiting
    split
    · exact ⟨hydrated, rendered, shown, armed, fun matched first => absurd first (busy matched),
        fun _ _ => agrees_settings formed, nofun, formed⟩
    next early =>
      refine ⟨hydrated, rendered, shown, armed, fun matched first => absurd first (busy matched),
        fun _ => nofun, ?_, formed⟩
      rintro left' snapshot ⟨⟩
      exact ⟨rfl, by omega, by dsimp only; omega⟩

theorem tracks_run (store : AppearanceSnapshot) (row : AppearanceSettings) (events : List Event) :
    Tracks store row (events.foldl effect (hydrate store row.toBody, 0))
      (run (load store row) events) := by
  have each : ∀ seen s, Tracks store row seen s →
      Tracks store row (events.foldl effect seen) (run s events) := by
    induction events with
    | nil => exact fun _ _ tracks => tracks
    | cons event events ih =>
      intro seen s tracks
      cases event with
      | change setters => exact ih _ _ (tracks.change setters)
      | wait milliseconds => exact ih _ _ (tracks.wait milliseconds)
  exact each _ _ (tracks_load store row)

/-- Once 500 ms have passed without a change, the row has the values of the store exactly when the
change before was not swallowed. -/
theorem in_sync_iff (store : AppearanceSnapshot) (row : AppearanceSettings) (events : List Event)
    (quiet : (run (load store row) events).Quiet) :
    (run (load store row) events).InSync ↔ ¬ Swallowed store row events := by
  have tracks := tracks_run store row events
  have sent : (run (load store row) events).timeout = none := by
    cases waiting : (run (load store row) events).timeout with
    | none => rfl
    | some timeout =>
      obtain ⟨_, positive, clock⟩ := tracks.pending _ _ waiting
      unfold State.Quiet at quiet
      omega
  by_cases one : Agrees row store ∧ (events.foldl effect (hydrate store row.toBody, 0)).2 = 1
  · obtain ⟨matched, counted⟩ := one
    obtain ⟨_, row_⟩ := tracks.held matched counted.le
    have store_ := tracks.shown
    rw [hydrate_eq_iff.mpr matched] at counted store_
    rw [State.InSync, row_, store_, Swallowed, changes, and_iff_right matched,
      and_iff_right counted, not_not]
  · refine iff_of_true (tracks.saved one sent) ?_
    rintro ⟨matched, counted, _⟩
    rw [hydrate_eq_iff.mpr matched] at one
    exact one ⟨matched, counted⟩

/-- Dark mode is turned on in a fresh session, whose defaults are also those of the row. -/
def darkMode : List Event := [.change [.setDark true], .wait 500]

theorem quiet_darkMode : (run (load initialSnapshot initialSnapshot.settings) darkMode).Quiet := by
  unfold State.Quiet
  decide

theorem in_sync_iff_darkMode :
    (run (load initialSnapshot initialSnapshot.settings) darkMode).InSync ↔
    ¬ Swallowed initialSnapshot initialSnapshot.settings darkMode :=
  in_sync_iff initialSnapshot initialSnapshot.settings darkMode quiet_darkMode

theorem dark_mode_unsaved :
    ¬ ∀ (store : AppearanceSnapshot) (row : AppearanceSettings) (events : List Event),
    (run (load store row) events).Quiet → (run (load store row) events).InSync := by
  intro synced
  have agrees := synced initialSnapshot initialSnapshot.settings darkMode quiet_darkMode
    ("themeOverride", .text (utf16 "light".toList)) (by decide)
  revert agrees
  decide

end OpenScale.Appearance

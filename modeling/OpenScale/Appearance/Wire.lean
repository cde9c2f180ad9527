import OpenScale.Library.Utf16

/-! The way of the appearance settings from the theme store to the control-plane's row and back: the
body of PUT /api/appearance-settings, the Go struct that it is decoded into, the upsert, the select,
and the body of GET. Each of these names the fields by hand. -/

namespace OpenScale.Appearance

open OpenScale.Library

/-- What the frontend holds, sends, and expects to get back. -/
structure AppearanceSnapshot where
  themeOverride : JsString
  visualMode : JsString
  accentId : JsString
  chartStyle : JsString
  shadowScale : Rat
  uiScale : Rat
  deriving DecidableEq

/-- The Go struct, and the columns of `control_plane.appearance_settings` as well. -/
structure AppearanceSettings where
  themeOverride : List Char
  visualMode : List Char
  accentId : List Char
  shadowScale : Rat
  uiScale : Rat
  deriving DecidableEq

/-- What a field of a body can hold: JSON writes each finite number so that it is read back. -/
inductive Value where
  | text (string : JsString)
  | number (value : Rat)
  deriving DecidableEq

abbrev Body := List (String × Value)

def AppearanceSnapshot.toBody (snapshot : AppearanceSnapshot) : Body :=
  [("themeOverride", .text snapshot.themeOverride), ("visualMode", .text snapshot.visualMode),
    ("accentId", .text snapshot.accentId), ("chartStyle", .text snapshot.chartStyle),
    ("shadowScale", .number snapshot.shadowScale), ("uiScale", .number snapshot.uiScale)]

def AppearanceSettings.toBody (settings : AppearanceSettings) : Body :=
  [("themeOverride", .text (utf16 settings.themeOverride)),
    ("visualMode", .text (utf16 settings.visualMode)),
    ("accentId", .text (utf16 settings.accentId)), ("shadowScale", .number settings.shadowScale),
    ("uiScale", .number settings.uiScale)]

/-- The value that Go starts from. -/
def AppearanceSettings.zero : AppearanceSettings := ⟨[], [], [], 0, 0⟩

/-- One field of the body: a field that the struct does not list is skipped without an error, and a
value of the wrong kind is one. -/
def decodeField (settings : AppearanceSettings) (field : String × Value) :
    Option AppearanceSettings :=
  if field.1 = "themeOverride" then
    match field.2 with
    | .text string => some { settings with themeOverride := string.decoded }
    | .number _ => none
  else if field.1 = "visualMode" then
    match field.2 with
    | .text string => some { settings with visualMode := string.decoded }
    | .number _ => none
  else if field.1 = "accentId" then
    match field.2 with
    | .text string => some { settings with accentId := string.decoded }
    | .number _ => none
  else if field.1 = "shadowScale" then
    match field.2 with
    | .number value => some { settings with shadowScale := value }
    | .text _ => none
  else if field.1 = "uiScale" then
    match field.2 with
    | .number value => some { settings with uiScale := value }
    | .text _ => none
  else some settings

def decode (body : Body) : Option AppearanceSettings := body.foldlM decodeField .zero

inductive ApiError where
  /-- Status 400. -/
  | invalidRequestBody
  /-- Status 500. -/
  | upsert
  /-- Status 500. -/
  | get
  deriving DecidableEq

/-- A text column holds no U+0000. -/
def Storable (settings : AppearanceSettings) : Prop :=
  ∀ text ∈ [settings.themeOverride, settings.visualMode, settings.accentId], Char.ofNat 0 ∉ text

instance (settings : AppearanceSettings) : Decidable (Storable settings) :=
  inferInstanceAs (Decidable (∀ text ∈ _, _))

/-- The table holds one row, or none before its migration. -/
abbrev Table := Option AppearanceSettings

/-- The whole row is replaced. -/
def upsertAppearanceSettings (settings : AppearanceSettings) : Except ApiError Table :=
  if Storable settings then .ok (some settings) else .error .upsert

def update (body : Body) : Except ApiError Table :=
  match decode body with
  | none => .error .invalidRequestBody
  | some settings => upsertAppearanceSettings settings

def get (table : Table) : Except ApiError Body :=
  match table with
  | none => .error .get
  | some row => .ok row.toBody

/-- The answer has each field of the snapshot, with its value. -/
def Shows (answer : Body) (snapshot : AppearanceSnapshot) : Prop :=
  ∀ field ∈ snapshot.toBody, answer.lookup field.1 = some field.2

/-- After a successful PUT, a successful GET with no other write in between gives back what was
sent. -/
def RoundTrips (snapshot : AppearanceSnapshot) : Prop :=
  ∀ table answer, update snapshot.toBody = .ok table → get table = .ok answer →
    Shows answer snapshot

variable {snapshot : AppearanceSnapshot} {table : Table} {answer : Body}

/-- What the control-plane makes of a snapshot. -/
def AppearanceSnapshot.settings (snapshot : AppearanceSnapshot) : AppearanceSettings where
  themeOverride := snapshot.themeOverride.decoded
  visualMode := snapshot.visualMode.decoded
  accentId := snapshot.accentId.decoded
  shadowScale := snapshot.shadowScale
  uiScale := snapshot.uiScale

theorem decode_toBody (snapshot : AppearanceSnapshot) :
    decode snapshot.toBody = some snapshot.settings := by
  simp [decode, AppearanceSnapshot.toBody, decodeField, AppearanceSnapshot.settings]

theorem update_toBody (snapshot : AppearanceSnapshot) :
    update snapshot.toBody = upsertAppearanceSettings snapshot.settings := by
  rw [update, decode_toBody]

theorem table_of_update (updated : update snapshot.toBody = .ok table) :
    Storable snapshot.settings ∧ table = some snapshot.settings := by
  rw [update_toBody, upsertAppearanceSettings] at updated
  split at updated
  next storable => exact ⟨storable, (Except.ok.inj updated).symm⟩
  next => cases updated

def WellFormed (snapshot : AppearanceSnapshot) : Prop :=
  ∀ string ∈ [snapshot.themeOverride, snapshot.visualMode, snapshot.accentId],
    utf16 string.decoded = string

/-- All that a PUT carries but the chart style comes back, where the strings are texts. -/
theorem returned (formed : WellFormed snapshot) (updated : update snapshot.toBody = .ok table)
    (got : get table = .ok answer) {field : String × Value} (sent : field ∈ snapshot.toBody)
    (other : field.1 ≠ "chartStyle") : answer.lookup field.1 = some field.2 := by
  obtain ⟨_, rfl⟩ := table_of_update updated
  obtain rfl := Except.ok.inj got
  simp only [WellFormed, List.forall_mem_cons, List.not_mem_nil, false_imp_iff, implies_true,
    and_true] at formed
  obtain ⟨theme, mode, accent⟩ := formed
  simp only [AppearanceSnapshot.toBody, List.mem_cons, List.not_mem_nil, or_false] at sent
  rcases sent with rfl | rfl | rfl | rfl | rfl | rfl
  · simp [AppearanceSettings.toBody, AppearanceSnapshot.settings, theme]
  · simp [AppearanceSettings.toBody, AppearanceSnapshot.settings, mode, List.lookup_cons]
  · simp [AppearanceSettings.toBody, AppearanceSnapshot.settings, accent, List.lookup_cons]
  · exact absurd rfl other
  · simp [AppearanceSettings.toBody, AppearanceSnapshot.settings, List.lookup_cons]
  · simp [AppearanceSettings.toBody, AppearanceSnapshot.settings, List.lookup_cons]

theorem lookup_chartStyle (table : Table) (got : get table = .ok answer) :
    answer.lookup "chartStyle" = none := by
  cases table with
  | none => cases got
  | some row =>
    obtain rfl := Except.ok.inj got
    rfl

theorem not_roundTrips (storable : Storable snapshot.settings) : ¬ RoundTrips snapshot := by
  intro trips
  have updated : update snapshot.toBody = .ok (some snapshot.settings) := by
    rw [update_toBody, upsertAppearanceSettings, if_pos storable]
  have shown := trips _ _ updated rfl ("chartStyle", .text snapshot.chartStyle)
    (by simp [AppearanceSnapshot.toBody])
  rw [lookup_chartStyle (some _) rfl] at shown
  cases shown

/-- No snapshot makes the round trip whose PUT is successful: the row has no chart style. -/
theorem round_trips_iff (snapshot : AppearanceSnapshot) :
    RoundTrips snapshot ↔ ¬ Storable snapshot.settings := by
  constructor
  · exact fun trips storable => not_roundTrips storable trips
  · intro refused table answer updated
    exact absurd (table_of_update updated).1 refused

def initialSnapshot : AppearanceSnapshot where
  themeOverride := utf16 "light".toList
  visualMode := utf16 "flat".toList
  accentId := utf16 "ember-500".toList
  chartStyle := utf16 "hatch".toList
  shadowScale := 1
  uiScale := 1

theorem chart_style_lost : ¬ ∀ snapshot, RoundTrips snapshot := by
  intro trips
  have storable : Storable initialSnapshot.settings := by decide
  exact not_roundTrips storable (trips initialSnapshot)

end OpenScale.Appearance

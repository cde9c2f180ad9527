import OpenScale.Library.JsArray
import OpenScale.Library.TransitionSystem
import OpenScale.Search.Results

/-! `SearchBar`: its query, its focus and the highlighted index, and which result Enter selects. The
component renders after each event and runs its effect before the next one. -/

namespace OpenScale.Search

open OpenScale.Library OpenScale.Pipelines

structure SearchBar where
  query : String
  focused : Bool
  highlighted : Nat
  catalog : Option (List Query.CatalogTable)
  runs : Option RunsPage

inductive Key where
  | escape
  | arrowDown
  | arrowUp
  | enter

inductive BarEvent where
  | change (text : String)
  | clear
  | focus
  | blur
  | keyDown (key : Key)
  /-- The results are known by
    their places in the flat list, which is where `indexOf` finds them. -/
  | mouseEnter (index : Nat)
  | click (index : Nat)
  | catalogFetched (catalog : Option (List Query.CatalogTable))
  | runsFetched (runs : Option RunsPage)

namespace SearchBar

variable (locale : Locale) (bar : SearchBar)

def flat : List SearchResultItem :=
  (useGlobalSearch locale bar.query bar.focused bar.catalog bar.runs).flat

def isOpen : Bool := isActive bar.query bar.focused

def select : SearchBar := { bar with query := "", focused := false }

/-- What Enter hands to `select`, if it does anything: undefined has no path. -/
def enter : Option (Except JsError SearchResultItem) :=
  if !bar.isOpen || (bar.flat locale).isEmpty then none
  else some (JsArray.get (bar.flat locale) bar.highlighted)

def handleKeyDown (key : Key) : SearchBar :=
  let length := (bar.flat locale).length
  match key with
  | .escape => { bar with query := "", focused := false }
  | .arrowDown =>
    if !bar.isOpen || (bar.flat locale).isEmpty then bar
    else { bar with highlighted := (bar.highlighted + 1) % length }
  | .arrowUp =>
    if !bar.isOpen || (bar.flat locale).isEmpty then bar
    else { bar with highlighted := (bar.highlighted + length - 1) % length }
  | .enter =>
    match bar.enter locale with
    | some (.ok _) => bar.select
    | _ => bar

def update : BarEvent → SearchBar
  | .change text => { bar with query := text }
  | .clear => { bar with query := "", focused := true }
  | .focus => { bar with focused := true }
  | .blur => { bar with focused := false }
  | .keyDown key => if bar.focused then bar.handleKeyDown locale key else bar
  | .mouseEnter index =>
    if index < (bar.flat locale).length then { bar with highlighted := index } else bar
  | .click index => if index < (bar.flat locale).length then bar.select else bar
  | .catalogFetched catalog => { bar with catalog := catalog }
  | .runsFetched runs => { bar with runs := runs }

/-- `useEffect(() => setHighlighted(0), [query])` -/
def effect (before : SearchBar) : SearchBar :=
  if bar.query = before.query then bar else { bar with highlighted := 0 }

def next (event : BarEvent) : SearchBar := (bar.update locale event).effect bar

def mounted : SearchBar := ⟨"", false, 0, none, none⟩

end SearchBar

def searching (locale : Locale) : TransitionSystem SearchBar BarEvent where
  init := SearchBar.mounted
  step bar event := some (bar.next locale event)

section Highlight

variable {locale : Locale} {bar after : SearchBar}

/-- While there are results one of them is highlighted, and it is what Enter selects. -/
structure HighlightShown (locale : Locale) (bar : SearchBar) : Prop where
  inside : bar.flat locale ≠ [] → bar.highlighted < (bar.flat locale).length
  selects : bar.flat locale ≠ [] → ∃ item, (bar.flat locale)[bar.highlighted]? = some item ∧
    bar.enter locale = some (.ok item)
  silent : bar.flat locale = [] → bar.enter locale = none

/-- The lists have no results, or enough for the one that is highlighted. -/
def Reaches (locale : Locale) (bar : SearchBar) (focused : Bool)
    (catalog : Option (List Query.CatalogTable)) (runs : Option RunsPage) : Prop :=
  isActive bar.query focused = true → resultCount locale bar.query catalog runs = 0 ∨
    bar.highlighted < resultCount locale bar.query catalog runs

/-- What the bar gets to show for a text that stays does not fall short of the highlight. -/
def Fits (locale : Locale) (bar : SearchBar) : BarEvent → Prop
  | .focus => Reaches locale bar true bar.catalog bar.runs
  | .catalogFetched catalog => Reaches locale bar bar.focused catalog bar.runs
  | .runsFetched runs => Reaches locale bar bar.focused bar.catalog runs
  | _ => True

theorem length_flat_bar (locale : Locale) (bar : SearchBar) : (bar.flat locale).length =
    if bar.isOpen then resultCount locale bar.query bar.catalog bar.runs else 0 :=
  length_flat locale bar.query bar.focused bar.catalog bar.runs

theorem isOpen_of_flat (some_ : bar.flat locale ≠ []) : bar.isOpen = true := by
  by_contra closed
  have none_ := length_flat_bar locale bar
  rw [if_neg closed] at none_
  exact some_ (List.eq_nil_of_length_eq_zero none_)

theorem highlightShown_iff : HighlightShown locale bar ↔
    (bar.flat locale ≠ [] → bar.highlighted < (bar.flat locale).length) := by
  refine ⟨HighlightShown.inside, fun inside => ⟨inside, fun some_ => ?_, fun none_ => ?_⟩⟩
  · have found := List.getElem?_eq_getElem (inside some_)
    refine ⟨_, found, ?_⟩
    rw [SearchBar.enter, isOpen_of_flat some_, if_neg (by simpa using some_)]
    refine congrArg some ?_
    change ((bar.flat locale)[bar.highlighted]?).elim _ _ = _
    rw [found]
    rfl
  · rw [SearchBar.enter, if_pos (by simp [none_])]

theorem highlightShown_iff_reaches :
    HighlightShown locale bar ↔ Reaches locale bar bar.focused bar.catalog bar.runs := by
  rw [highlightShown_iff, ← List.length_pos_iff, length_flat_bar]
  by_cases opened : bar.isOpen = true
  · have active : isActive bar.query bar.focused = true := opened
    rw [if_pos opened, Reaches]
    simp only [active, true_imp_iff]
    omega
  · have inactive : ¬ isActive bar.query bar.focused = true := opened
    rw [if_neg opened, Reaches]
    exact iff_of_true (fun some_ => absurd some_ (by omega)) fun active => absurd active inactive

theorem highlightShown_effect (before : SearchBar) : HighlightShown locale (after.effect before) ↔
    (after.query = before.query → HighlightShown locale after) := by
  by_cases same : after.query = before.query
  · rw [SearchBar.effect, if_pos same]
    exact ⟨fun shown _ => shown, fun shown => shown same⟩
  · rw [SearchBar.effect, if_neg same, highlightShown_iff]
    exact iff_of_true List.length_pos_iff.mpr fun other => absurd other same

theorem highlightShown_of_closed (closed : bar.isOpen = false) : HighlightShown locale bar :=
  highlightShown_iff.mpr fun some_ => absurd (isOpen_of_flat some_) (by simp [closed])

theorem highlightShown_handleKeyDown (shown : HighlightShown locale bar) (key : Key) :
    HighlightShown locale (bar.handleKeyDown locale key) := by
  have around {index : Nat} :
      HighlightShown locale { bar with highlighted := index % (bar.flat locale).length } :=
    highlightShown_iff.mpr fun some_ => Nat.mod_lt index (List.length_pos_iff.mpr some_)
  cases key with
  | escape => exact highlightShown_of_closed rfl
  | arrowDown =>
    rw [SearchBar.handleKeyDown]
    split
    · exact shown
    · exact around
  | arrowUp =>
    rw [SearchBar.handleKeyDown]
    split
    · exact shown
    · exact around
  | enter =>
    rw [SearchBar.handleKeyDown]
    split
    · exact highlightShown_of_closed rfl
    · exact shown

theorem highlightShown_next (shown : HighlightShown locale bar) (event : BarEvent) :
    HighlightShown locale (bar.next locale event) ↔ Fits locale bar event := by
  rw [SearchBar.next, highlightShown_effect]
  cases event with
  | change text =>
    refine iff_of_true (fun same => ?_) trivial
    change text = bar.query at same
    rw [SearchBar.update, same]
    exact shown
  | clear => exact iff_of_true (fun _ => highlightShown_of_closed rfl) trivial
  | focus => exact (forall_prop_of_true rfl).trans highlightShown_iff_reaches
  | blur => exact iff_of_true (fun _ => highlightShown_of_closed rfl) trivial
  | keyDown key =>
    refine iff_of_true (fun _ => ?_) trivial
    rw [SearchBar.update]
    split
    · exact highlightShown_handleKeyDown shown key
    · exact shown
  | mouseEnter index =>
    refine iff_of_true (fun _ => ?_) trivial
    rw [SearchBar.update]
    split
    next inside => exact highlightShown_iff.mpr fun _ => inside
    · exact shown
  | click index =>
    refine iff_of_true (fun _ => ?_) trivial
    rw [SearchBar.update]
    split
    · exact highlightShown_of_closed rfl
    · exact shown
  | catalogFetched catalog => exact (forall_prop_of_true rfl).trans highlightShown_iff_reaches
  | runsFetched runs => exact (forall_prop_of_true rfl).trans highlightShown_iff_reaches

/-- A run keeps a shown result highlighted exactly if no focus and no fetch of it leaves the
highlight behind. -/
theorem highlightShown_iff_fits (locale : Locale) (events : List BarEvent) :
    HighlightShown locale SearchBar.mounted ∧
      ((searching locale).Throughout (fun _ _ after => HighlightShown locale after)
        SearchBar.mounted events ↔
        (searching locale).Throughout (fun before event _ => Fits locale before event)
          SearchBar.mounted events) := by
  have start : HighlightShown locale SearchBar.mounted := highlightShown_of_closed rfl
  refine ⟨start, TransitionSystem.throughout_congr start fun bar event after shown taken => ?_⟩
  cases taken
  have fits := highlightShown_next shown event
  exact ⟨fits, fits.mpr⟩

theorem highlightShown_last {events : List BarEvent} (start : HighlightShown locale bar)
    (run : (searching locale).Throughout
      (fun _ _ after => HighlightShown locale after) bar events) :
    HighlightShown locale (events.foldl (SearchBar.next locale) bar) := by
  induction events generalizing bar with
  | nil => exact start
  | cons event events ih =>
    obtain ⟨here, later⟩ := (TransitionSystem.throughout_cons rfl).mp run
    exact ih here later

def plain : Locale := ⟨id, ⟨0, fun _ => none, id⟩⟩

def runNamed (id : String) : JobRun := ⟨id, "gold", .succeeded, "09:00", none, none, none⟩

def shrinking : List BarEvent :=
  [.focus, .change "7f3a", .runsFetched (some ⟨[runNamed "7f3a-1", runNamed "7f3a-2"], false⟩),
    .keyDown .arrowUp, .runsFetched (some ⟨[runNamed "7f3a-1"], false⟩)]

theorem shrunk_list_loses_highlight : ¬ ∀ (locale : Locale) (events : List BarEvent),
    (searching locale).Throughout
    (fun _ _ after => HighlightShown locale after) SearchBar.mounted events := by
  intro shown
  have last := highlightShown_last (highlightShown_of_closed rfl) (shown plain shrinking)
  have seen : ((shrinking.foldl (SearchBar.next plain) SearchBar.mounted).highlighted,
      ((shrinking.foldl (SearchBar.next plain) SearchBar.mounted).flat plain).length) =
      (1, 1) := by decide +kernel
  obtain ⟨highlighted, length⟩ := Prod.mk.inj seen
  have inside := last.inside (List.length_pos_iff.mp (by omega))
  omega

end Highlight

end OpenScale.Search

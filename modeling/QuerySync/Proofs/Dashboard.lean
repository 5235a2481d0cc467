import QuerySync.Dashboard.Environment
import QuerySync.Proofs.Settings

/-!
# Loading a dashboard

An environment has a dashboard to load if it names a file, the file holds a valid dashboard, and the
interval, if there is one, is a number that is not too small (`Loader.Offers`).  Unless the settings
fail, a dashboard is loaded exactly then, and it is the one in the file with the interval for all
its views (`Dashboard.load_exact`).  This holds of every loader that leaves the variables alone that
are set before, whatever it takes for settings and for the text of a dashboard (`Loader.Lawful`).

Settings fail at the null character (`Dashboard.load_eq_none_of_null`), and not without it.

A dashboard is checked twice, before its views get another interval and after that.  The second
check looks at everything again, but nothing has changed except for the interval, so this alone
decides it (`valid_withPollInterval_iff`).
-/

namespace QuerySync

/-! ## Results -/

theorem bind_eq_ok_iff {ε α β : Type} {result : Except ε α} {next : α → Except ε β} {value : β} :
    (result >>= next) = .ok value ↔ ∃ found, result = .ok found ∧ next found = .ok value := by
  cases result with
  | error error => simp [bind, Except.bind]
  | ok found => simp [bind, Except.bind]

/-- Giving a failure another name does not change what succeeds. -/
theorem mapError_eq_ok_iff {ε ε' α : Type} {f : ε → ε'} {result : Except ε α} {value : α} :
    result.mapError f = .ok value ↔ result = .ok value := by
  constructor
  · intro same
    cases result with
    | error error => cases same
    | ok found =>
      cases same
      rfl
  · rintro rfl
    rfl

/-! ## Valid dashboards -/

/-- Validity asks of the interval only that it is long enough. -/
theorem View.Valid.withPollInterval {view : View} (valid : view.Valid) {interval : UInt64}
    (long : minPollInterval ≤ interval) : Valid { view with pollInterval := interval } where
  name := valid.name
  pageSizes := valid.pageSizes
  defaultPageSize := valid.defaultPageSize
  pollInterval := long
  defaultSort := valid.defaultSort
  filterKeys := valid.filterKeys

namespace Dashboard

/-- A dashboard without problems. -/
structure Valid (dashboard : Dashboard) : Prop where
  /-- There is a view. -/
  view : ∃ name view, dashboard.view? name = some view
  /-- Every view is valid. -/
  views : ∀ {name view}, dashboard.view? name = some view → view.Valid

/-- A dashboard is another one with an interval for all its views, if there is an interval. -/
def Retimed (interval? : Option UInt64) (dashboard retimed : Dashboard) : Prop :=
  ∀ name, retimed.view? name =
    (dashboard.view? name).map fun view =>
      { view with pollInterval := interval?.getD view.pollInterval }

variable {dashboard loaded : Dashboard} {interval : UInt64} {interval? : Option UInt64}

/-- Nothing is wrong with exactly the valid dashboards. -/
theorem problem?_eq_none_iff_valid : dashboard.problem? = none ↔ dashboard.Valid := by
  rw [problem?_eq_none_iff]
  constructor
  · rintro ⟨nonempty, views⟩
    obtain ⟨⟨name, view⟩, isEntry⟩ := List.exists_mem_of_ne_nil _ nonempty
    refine ⟨⟨name, view, KeyMap.get?_of_mem_entries isEntry⟩, ?_⟩
    intro name view found
    exact views (name, view) (KeyMap.mem_entries_of_get? found)
  · rintro ⟨⟨name, view, found⟩, views⟩
    refine ⟨List.ne_nil_of_mem (KeyMap.mem_entries_of_get? found), ?_⟩
    rintro ⟨name, view⟩ isEntry
    exact views (KeyMap.get?_of_mem_entries isEntry)

/-- The check passes exactly the valid dashboards, and passes them unchanged. -/
theorem checked_eq_ok_iff :
    dashboard.checked = .ok loaded ↔ dashboard.Valid ∧ dashboard = loaded := by
  rw [checked, ← problem?_eq_none_iff_valid]
  cases dashboard.problem? with
  | none => simp
  | some problem => simp

/-- A text loads where its reader makes a valid dashboard of it. -/
theorem read_eq_ok_iff {reader : String → Option Dashboard} {text : String} :
    read reader text = .ok dashboard ↔ reader text = some dashboard ∧ dashboard.Valid := by
  rw [read]
  cases reader text with
  | none => simp
  | some parsed =>
    simp only [checked_eq_ok_iff, Option.some_inj]
    constructor
    · rintro ⟨valid, rfl⟩
      exact ⟨rfl, valid⟩
    · rintro ⟨rfl, valid⟩
      exact ⟨valid, rfl⟩

/-! ## Another interval -/

theorem view?_withPollInterval (name : String) :
    (dashboard.withPollInterval interval).view? name =
      (dashboard.view? name).map fun view => { view with pollInterval := interval } :=
  KeyMap.get?_mapValues _ _ _

theorem retimed_self (dashboard : Dashboard) : Retimed none dashboard dashboard := by
  intro name
  simp only [Option.getD_none, Option.map_id']

theorem retimed_withPollInterval (dashboard : Dashboard) (interval : UInt64) :
    Retimed (some interval) dashboard (dashboard.withPollInterval interval) := by
  intro name
  exact view?_withPollInterval name

/-- A valid dashboard stays valid exactly if the interval is not too small. -/
theorem valid_withPollInterval_iff (valid : dashboard.Valid) :
    (dashboard.withPollInterval interval).Valid ↔ View.minPollInterval ≤ interval := by
  obtain ⟨name, view, found⟩ := valid.view
  have retimed : (dashboard.withPollInterval interval).view? name =
      some { view with pollInterval := interval } := by
    rw [view?_withPollInterval, found, Option.map_some]
  constructor
  · intro stays
    exact (stays.views retimed).pollInterval
  · intro long
    refine ⟨⟨name, _, retimed⟩, ?_⟩
    intro other retimedView isRetimed
    rw [view?_withPollInterval, Option.map_eq_some_iff] at isRetimed
    obtain ⟨original, isOriginal, rfl⟩ := isRetimed
    exact (valid.views isOriginal).withPollInterval long

end Dashboard

/-! ## Loaders -/

/-- A text is a number, white space around it or not, and the number is an interval. -/
def IsInterval (text : String) (interval : UInt64) : Prop :=
  Text.Numeral.Spells (Text.trim text) interval.toNat ∧ View.minPollInterval ≤ interval

namespace Loader

/-- What a loader has to do with settings. -/
structure Lawful (loader : Loader) : Prop where
  /-- A variable that is set keeps its value. -/
  keeps : ∀ {before after settings name value}, loader.settings? before settings = some after →
    before.get? name = some value → after.get? name = some value
  /-- Settings without the null character do not fail. -/
  plain : ∀ {before settings}, Settings.Values before → '\x00' ∉ settings.toList →
    ∃ after, loader.settings? before settings = some after

/-- The loader that runs obeys the laws. -/
theorem standard_lawful : standard.Lawful where
  keeps := Settings.get?_of_load?
  plain values plain := by
    obtain ⟨after, done, -⟩ := Settings.exists_load?_eq_some values plain
    exact ⟨after, done⟩

/-- The value that a variable has for a program: its own, or else that of the settings. -/
def value? (loader : Loader) (environment : Environment) (name : String) : Option String :=
  (environment.assigned.get? name).or
    ((loader.settings? environment.assigned environment.settings).bind (·.get? name))

/-- An environment names a file that can be read and holds a dashboard. -/
def Names (loader : Loader) (environment : Environment) (dashboard : Dashboard) : Prop :=
  ∃ path text, loader.value? environment Environment.pathName = some path ∧
    environment.file? path = some text ∧ loader.dashboard? text = some dashboard

/-- An environment has a dashboard to load, and perhaps an interval for all its views. -/
structure Offers (loader : Loader) (environment : Environment) (dashboard : Dashboard)
    (interval? : Option UInt64) : Prop where
  /-- The dashboard is in the file. -/
  named : loader.Names environment dashboard
  /-- It is valid with the intervals that it has in the file. -/
  valid : dashboard.Valid
  /-- The interval is that of the environment, if one is set there. -/
  interval : Option.Rel IsInterval (loader.value? environment Environment.intervalName) interval?

/-- After the settings, a variable is set to the value that it has for the program. -/
theorem value?_eq_get? {loader : Loader} {environment : Environment} {bindings : KeyMap String}
    (lawful : loader.Lawful)
    (done : loader.settings? environment.assigned environment.settings = some bindings)
    (name : String) : loader.value? environment name = bindings.get? name := by
  rw [value?, done, Option.bind_some]
  cases set : environment.assigned.get? name with
  | none => rw [Option.none_or]
  | some value => rw [Option.some_or, lawful.keeps done set]

end Loader

namespace Dashboard

variable {loader : Loader} {environment : Environment} {bindings : KeyMap String}
  {dashboard loaded : Dashboard} {interval? : Option UInt64}

/-! ## Loading with variables -/

/-- Loading a file is reading what is in it. -/
theorem loadFile_eq_ok_iff (lawful : loader.Lawful)
    (done : loader.settings? environment.assigned environment.settings = some bindings) :
    loadFile loader environment bindings = .ok dashboard ↔
      loader.Names environment dashboard ∧ dashboard.Valid := by
  rw [Loader.Names, Loader.value?_eq_get? lawful done]
  constructor
  · intro loads
    rw [loadFile] at loads
    split at loads
    next path named =>
      split at loads
      next text opened =>
        obtain ⟨parsed, valid⟩ := read_eq_ok_iff.1 (mapError_eq_ok_iff.1 loads)
        exact ⟨⟨path, text, named, opened, parsed⟩, valid⟩
      next => cases loads
    next => cases loads
  · rintro ⟨⟨path, text, named, opened, parsed⟩, valid⟩
    have reads : read loader.dashboard? text = .ok dashboard := read_eq_ok_iff.2 ⟨parsed, valid⟩
    simp only [loadFile, named, opened]
    exact mapError_eq_ok_iff.2 reads

/-- Without an interval, the dashboard is the one in the file. -/
theorem loadWith_of_unset (unset : bindings.get? Environment.intervalName = none) :
    loadWith loader environment bindings = loadFile loader environment bindings := by
  rw [loadWith, unset]
  exact bind_pure _

/-- With an interval, the dashboard in the file is checked again. -/
theorem loadWith_of_set {text : String}
    (set : bindings.get? Environment.intervalName = some text) :
    loadWith loader environment bindings = .ok loaded ↔
      ∃ dashboard interval, loadFile loader environment bindings = .ok dashboard ∧
        Text.Numeral.readUInt64? (Text.trim text) = some interval ∧
        (dashboard.withPollInterval interval).checked = .ok loaded := by
  simp only [loadWith, set, bind_eq_ok_iff]
  cases Text.Numeral.readUInt64? (Text.trim text) with
  | none => simp
  | some interval => simp [mapError_eq_ok_iff]

/-- What is loaded was offered. -/
theorem offers_of_loadWith (lawful : loader.Lawful)
    (done : loader.settings? environment.assigned environment.settings = some bindings)
    (loads : loadWith loader environment bindings = .ok loaded) :
    ∃ dashboard interval?, loader.Offers environment dashboard interval? := by
  have effective := Loader.value?_eq_get? lawful done Environment.intervalName
  cases set : bindings.get? Environment.intervalName with
  | none =>
    rw [loadWith_of_unset set] at loads
    obtain ⟨named, valid⟩ := (loadFile_eq_ok_iff lawful done).1 loads
    exact ⟨loaded, none, named, valid, effective ▸ set ▸ .none⟩
  | some text =>
    obtain ⟨dashboard, interval, loadsFile, number, stays⟩ := (loadWith_of_set set).1 loads
    obtain ⟨named, valid⟩ := (loadFile_eq_ok_iff lawful done).1 loadsFile
    have long := (valid_withPollInterval_iff valid).1 (checked_eq_ok_iff.1 stays).1
    have isInterval : IsInterval text interval :=
      ⟨Text.Numeral.readUInt64?_eq_some_iff.1 number, long⟩
    exact ⟨dashboard, some interval, named, valid, effective ▸ set ▸ .some isInterval⟩

/-- What is offered is loaded. -/
theorem loadWith_of_offers (lawful : loader.Lawful)
    (done : loader.settings? environment.assigned environment.settings = some bindings)
    (offers : loader.Offers environment dashboard interval?) :
    ∃ loaded, loadWith loader environment bindings = .ok loaded ∧ loaded.Valid ∧
      Retimed interval? dashboard loaded := by
  obtain ⟨named, valid, interval⟩ := offers
  have loadsFile := (loadFile_eq_ok_iff lawful done).2 ⟨named, valid⟩
  rw [Loader.value?_eq_get? lawful done] at interval
  cases set : bindings.get? Environment.intervalName with
  | none =>
    rw [set] at interval
    cases interval with
    | none =>
      refine ⟨dashboard, ?_, valid, retimed_self dashboard⟩
      rw [loadWith_of_unset set, loadsFile]
  | some text =>
    rw [set] at interval
    cases interval with
    | @some _ interval isInterval =>
      have stays : (dashboard.withPollInterval interval).Valid :=
        (valid_withPollInterval_iff valid).2 isInterval.2
      refine ⟨dashboard.withPollInterval interval, (loadWith_of_set set).2 ?_, stays,
        retimed_withPollInterval dashboard interval⟩
      exact ⟨dashboard, interval, loadsFile,
        Text.Numeral.readUInt64?_eq_some_iff.2 isInterval.1, checked_eq_ok_iff.2 ⟨stays, rfl⟩⟩

/-! ## Loading -/

/-- Loading comes to a result where its settings do. -/
theorem load_eq_some_iff {result : Except LoadError Dashboard} :
    load loader environment = some result ↔
      ∃ bindings, loader.settings? environment.assigned environment.settings = some bindings ∧
        loadWith loader environment bindings = result :=
  Option.map_eq_some_iff

theorem offers_of_load (lawful : loader.Lawful)
    (loads : load loader environment = some (.ok loaded)) :
    ∃ dashboard interval?, loader.Offers environment dashboard interval? := by
  obtain ⟨bindings, done, loads⟩ := load_eq_some_iff.1 loads
  exact offers_of_loadWith lawful done loads

/-- What an environment has to load is loaded, unless its settings fail. -/
theorem load_of_offers (lawful : loader.Lawful) (ends : load loader environment ≠ none)
    (offers : loader.Offers environment dashboard interval?) :
    ∃ loaded, load loader environment = some (.ok loaded) ∧ loaded.Valid ∧
      Retimed interval? dashboard loaded := by
  obtain ⟨result, isResult⟩ := Option.ne_none_iff_exists'.1 ends
  obtain ⟨bindings, done, -⟩ := load_eq_some_iff.1 isResult
  obtain ⟨loaded, loads, fine⟩ := loadWith_of_offers lawful done offers
  exact ⟨loaded, load_eq_some_iff.2 ⟨bindings, done, loads⟩, fine⟩

/-- There is one result, so what is loaded is what an offer comes to. -/
theorem valid_and_retimed_of_load (lawful : loader.Lawful)
    (loads : load loader environment = some (.ok loaded))
    (offers : loader.Offers environment dashboard interval?) :
    loaded.Valid ∧ Retimed interval? dashboard loaded := by
  have ends : load loader environment ≠ none := Option.ne_none_iff_exists'.2 ⟨_, loads⟩
  obtain ⟨other, loadsOther, fine⟩ := load_of_offers lawful ends offers
  cases loads.symm.trans loadsOther
  exact fine

/-- Nothing invalid is loaded. -/
theorem valid_of_load (lawful : loader.Lawful)
    (loads : load loader environment = some (.ok loaded)) : loaded.Valid := by
  obtain ⟨dashboard, interval?, offers⟩ := offers_of_load lawful loads
  exact (valid_and_retimed_of_load lawful loads offers).1

/-- Every view of a valid dashboard decodes any parameters. -/
theorem decode_of_valid (valid : dashboard.Valid) (params : Params) :
    dashboard.decode params = .ok (dashboard.views.mapValues fun view => view.decode params) := by
  rw [decode, problem?_eq_none_iff_valid.2 valid]

/-- What is loaded from an environment. -/
structure LoadsExactly (loader : Loader) (environment : Environment) : Prop where
  /-- There is no result exactly if the settings fail. -/
  ends : load loader environment = none ↔
    loader.settings? environment.assigned environment.settings = none
  /-- They do not fail if there is no null character, neither in them nor in a variable. -/
  plain : Settings.Values environment.assigned → '\x00' ∉ environment.settings.toList →
    load loader environment ≠ none
  /-- If they do not fail, a dashboard is loaded exactly if the environment has one to load. -/
  accepts : (∃ loaded, load loader environment = some (.ok loaded)) ↔
    load loader environment ≠ none ∧
      ∃ dashboard interval?, loader.Offers environment dashboard interval?
  /-- It is the one that the environment has, with the interval for all its views. -/
  retimed : ∀ {loaded dashboard interval?}, load loader environment = some (.ok loaded) →
    loader.Offers environment dashboard interval? → Retimed interval? dashboard loaded
  /-- Nothing is wrong with it. -/
  fine : ∀ {loaded}, load loader environment = some (.ok loaded) → loaded.problem? = none
  /-- Parameters show a query by every view of it. -/
  decodes : ∀ {loaded}, load loader environment = some (.ok loaded) → ∀ params,
    ∃ queries, loaded.decode params = .ok queries ∧
      ∀ {name view}, loaded.view? name = some view → queries.get? name = some (view.decode params)

/-- A dashboard is loaded exactly if a file is named that can be read and holds a valid dashboard,
the interval, if one is set, is a number that is not too small, and the settings do not fail.  It
is valid with the interval too, and it differs from the one in the file in nothing else. -/
theorem load_exact {loader : Loader} (lawful : loader.Lawful) (environment : Environment) :
    LoadsExactly loader environment where
  ends := Option.map_eq_none_iff
  plain := by
    intro values plain fails
    obtain ⟨bindings, done⟩ := lawful.plain values plain
    rw [Option.map_eq_none_iff.1 fails] at done
    cases done
  accepts := by
    constructor
    · rintro ⟨loaded, loads⟩
      exact ⟨Option.ne_none_iff_exists'.2 ⟨_, loads⟩, offers_of_load lawful loads⟩
    · rintro ⟨ends, dashboard, interval?, offers⟩
      obtain ⟨loaded, loads, -⟩ := load_of_offers lawful ends offers
      exact ⟨loaded, loads⟩
  retimed := by
    intro loaded dashboard interval? loads offers
    exact (valid_and_retimed_of_load lawful loads offers).2
  fine := by
    intro loaded loads
    exact problem?_eq_none_iff_valid.2 (valid_of_load lawful loads)
  decodes := by
    intro loaded loads params
    refine ⟨_, decode_of_valid (valid_of_load lawful loads) params, ?_⟩
    intro name view found
    rw [KeyMap.get?_mapValues, ← view?, found, Option.map_some]

/-- The file is named in the settings.  An interval is there too, and it would be too small, but
the program has one of its own. -/
theorem load_exact_overridden :
    let text := "\x7b\"views\":\x7b\"a\":\x7b\"name\":\"b\",\"filter_keys\":[\"c\"]\x7d\x7d\x7d"
    let environment : Environment :=
      { assigned := KeyMap.ofList [(Environment.intervalName, "\u3000+0250\n")]
        settings := "LIVE_QUERY_POLL_INTERVAL_MS=5\nLIVE_QUERY_CONFIG='./views.json'"
        files := KeyMap.ofList [("views.json", text)] }
    let view : View := { name := "b", filterKeys := ["c"] }
    Loader.standard.Lawful ∧
      Loader.standard.Offers environment ⟨KeyMap.ofList [("a", view)]⟩ (some 250) ∧
      ∃ loaded, load .standard environment = some (.ok loaded) ∧ loaded.problem? = none ∧
        loaded.view? "a" = some { view with pollInterval := 250 } ∧
        ∃ queries, loaded.decode ∅ = .ok queries ∧
          queries.get? "a" = some (View.decode { view with pollInterval := 250 } ∅) := by
  intro text environment view
  have loading := load_exact Loader.standard_lawful environment
  have offers :
      Loader.standard.Offers environment ⟨KeyMap.ofList [("a", view)]⟩ (some 250) := by
    have interval :
        Loader.standard.value? environment Environment.intervalName = some "\u3000+0250\n" := by
      decide +kernel
    refine ⟨⟨"./views.json", text, ?_, ?_, ?_⟩, ?_, ?_⟩
    · decide +kernel
    · decide +kernel
    · decide +kernel
    · exact problem?_eq_none_iff_valid.1 (by decide)
    · rw [interval]
      exact .some ⟨Text.Numeral.readUInt64?_eq_some_iff.1 (by decide), by decide⟩
  have values : Settings.Values environment.assigned := by
    intro name value found
    have isEntry : (name, value) ∈ [(Environment.intervalName, "\u3000+0250\n")] :=
      KeyMap.mem_entries_of_get? found
    cases List.mem_singleton.1 isEntry
    decide
  obtain ⟨loaded, loads⟩ := loading.accepts.2 ⟨loading.plain values (by decide), _, _, offers⟩
  have found : loaded.view? "a" = some { view with pollInterval := 250 } :=
    loading.retimed loads offers "a"
  obtain ⟨queries, shows, byView⟩ := loading.decodes loads ∅
  exact ⟨Loader.standard_lawful, offers, loaded, loads, loading.fine loads, found, queries, shows,
    byView found⟩

/-- The environment has a dashboard to load.  The settings, of which it needs nothing, assign the
null character to another variable, and there is no result. -/
theorem load_eq_none_of_null :
    let text := "\x7b\"views\":\x7b\"a\":\x7b\"name\":\"b\"\x7d\x7d\x7d"
    let environment : Environment :=
      { assigned := KeyMap.ofList [(Environment.pathName, "views.json")]
        settings := "NOTE=\x00"
        files := KeyMap.ofList [("views.json", text)] }
    Loader.standard.Offers environment ⟨KeyMap.ofList [("a", { name := "b" })]⟩ none ∧
      load .standard environment = none := by
  intro text environment
  have unset : Loader.standard.value? environment Environment.intervalName = none := by decide
  refine ⟨⟨⟨"views.json", text, ?_, ?_, ?_⟩, ?_, ?_⟩, ?_⟩
  · decide
  · decide
  · decide +kernel
  · exact problem?_eq_none_iff_valid.1 (by decide)
  · rw [unset]
    exact .none
  · rw [load, Option.map_eq_none_iff]
    decide

end Dashboard

end QuerySync

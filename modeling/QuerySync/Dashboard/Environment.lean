import QuerySync.Dashboard
import QuerySync.Settings
import QuerySync.Text.Numeral

/-!
# Dashboards of an environment

A program finds its dashboard through two variables of its environment.  One names
the file, and the other, if it is set, is the time between two polls of every view.
A variable that is not set may be assigned in the settings.

How settings are done and what the text of a file means is up to a `Loader`.  If the
settings fail there is no result at all, neither a dashboard nor an error (`load`).
-/

namespace QuerySync

/-! ## Files -/

/-- The steps of a path. -/
def pathSteps (path : String) : List (List Char) := path.toList.splitOn '/'

/-- Whether a step of a path stays where it is. -/
def staysPut (step : List Char) : Bool := step = [] || step = ['.']

/-- How long a path may be, in bytes. -/
def longestPath : Nat := 4095

/-- The shortest path to the same file.  A path whose last step stays where it is leads
to a directory, and to no file.  A path that is too long leads nowhere. -/
def filePath? (path : String) : Option String :=
  if longestPath < path.utf8ByteSize || (pathSteps path).getLast?.all staysPut then none
  else
    let steps := (pathSteps path).filter (!staysPut ·)
    let relative := ['/'].intercalate steps
    some (String.ofList (if path.toList.head? = some '/' then '/' :: relative else relative))

example : filePath? ".//a/./b" = some "a/b" ∧ filePath? "//a" = some "/a" := by decide

example : filePath? "a/" = none ∧ filePath? "." = none ∧ filePath? "" = none := by decide

/-! ## Environments -/

/-- Where a program runs. -/
structure Environment where
  /-- The variables that are set. -/
  assigned : KeyMap String
  /-- The settings text, empty if there is none. -/
  settings : String
  /-- The texts of the files that can be read, by their shortest paths. -/
  files : KeyMap String

namespace Environment

/-- The variable that names the file of the dashboard. -/
def pathName : String := "LIVE_QUERY_CONFIG"

/-- The variable that holds the time between two polls of every view. -/
def intervalName : String := "LIVE_QUERY_POLL_INTERVAL_MS"

/-- The text of the file with a path. -/
def file? (environment : Environment) (path : String) : Option String :=
  (filePath? path).bind environment.files.get?

end Environment

/-- What a program uses to load its dashboard. -/
structure Loader where
  /-- The variables that are set after the settings, from those that are set before and
  the settings text.  There are none if the settings fail. -/
  settings? : KeyMap String → String → Option (KeyMap String)
  /-- The dashboard that a text stands for. -/
  dashboard? : String → Option Dashboard

/-- Does the assignments of settings, and reads JSON. -/
def Loader.standard : Loader where
  settings? := Settings.load?
  dashboard? := Dashboard.ofText?

namespace Dashboard

/-- Why a dashboard could not be loaded. -/
inductive LoadError where
  /-- No file is named. -/
  | noPath
  /-- The file cannot be read. -/
  | unreadable (path : String)
  /-- There is no good dashboard in the file, or none with the new interval. -/
  | read (error : ReadError)
  /-- The interval is not a number. -/
  | badInterval
deriving DecidableEq, Repr

/-- The wording of an error.  What is wrong with a malformed text is not said. -/
def LoadError.message? : LoadError → Option String
  | noPath => some s!"{Environment.pathName} is not set"
  | unreadable path => some s!"failed to read dashboard config `{path}`"
  | read .malformed => none
  | read (.problem problem) => some problem.message
  | badInterval => some s!"{Environment.intervalName} must be an integer"

/-- The dashboard in the file that a variable names. -/
def loadFile (loader : Loader) (environment : Environment) (bindings : KeyMap String) :
    Except LoadError Dashboard := do
  let some path := bindings.get? Environment.pathName | throw .noPath
  let some text := environment.file? path | throw (.unreadable path)
  (Dashboard.read loader.dashboard? text).mapError .read

/-- The dashboard of an environment with some variables set.  It has to be good before
the interval is changed and after. -/
def loadWith (loader : Loader) (environment : Environment) (bindings : KeyMap String) :
    Except LoadError Dashboard := do
  let dashboard ← loadFile loader environment bindings
  match bindings.get? Environment.intervalName with
  | none => return dashboard
  | some text =>
    let some interval := Text.Numeral.readUInt64? (Text.trim text) | throw .badInterval
    (dashboard.withPollInterval interval).checked.mapError .read

/-- The dashboard of an environment.  The settings come first, and if they fail, nothing
comes after them. -/
def load (loader : Loader) (environment : Environment) : Option (Except LoadError Dashboard) :=
  (loader.settings? environment.assigned environment.settings).map (loadWith loader environment)

end Dashboard

end QuerySync

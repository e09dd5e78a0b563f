import Intercept.FileSystem
import Intercept.Settings.Environment
import Intercept.Settings.Text

/-!
# Loading settings

Settings are loaded from a file, changed by the environment, and checked.
-/

namespace Intercept.Settings

/-- The settings in a file of the given contents; that there is no file is told apart from other
faults. -/
def ofFile (path : String) : Except IoFault String → Except Failure.Settings Settings
  | .ok text => ofText path text
  | .error f => if f.kind = .notFound then .error (.notFound path) else .error (.io f)

/-- The settings in a file of the given contents, as the environment changes them. -/
def ofFileWith (env : Environment) (path : String) (contents : Except IoFault String) :
    Except Failure.Settings Settings :=
  match ofFile path contents with
  | .ok s => s.override env
  | .error e => .error e

/-- The settings in the file at a path. -/
def load (files : Files) (path : String) : Except Failure.Settings Settings :=
  ofFile path (files.readText path)

/-- The settings in the file at a path, as the environment changes them. -/
def loadWith (env : Environment) (files : Files) (path : String) :
    Except Failure.Settings Settings :=
  ofFileWith env path (files.readText path)

def defaultText : String := default.json.pretty

end Intercept.Settings

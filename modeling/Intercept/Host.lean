import Intercept.Failure.Socket
import Intercept.FileSystem
import Intercept.Settings.Environment
import Intercept.Transport

/-!
# Hosts

What a program does to the system that it runs on goes through a host: it asks for the environment,
reads and writes files, and asks for sockets that listen. The same program runs on the system itself
and on a file system that is a parameter.
-/

namespace Intercept

/-- What a program can ask of the system that it runs on. -/
structure Host (m : Type → Type) where
  environment : m Environment
  read : String → m (Except IoFault Bytes)
  write : String → Bytes → m (Except IoFault Unit)
  /-- Makes a socket that listens as the settings say. -/
  listen : Transport → Settings.Listen → m (Except Failure.Socket Unit)

/-- A host with the given files, environment and answers to a request to listen. -/
def FileSystem.host (fs : FileSystem) (env : Environment)
    (listen : fs.State → Transport → Settings.Listen → Except Failure.Socket Unit) :
    Host (StateM fs.State) where
  environment := pure env
  read path := do return fs.read (← get) path
  write path octets := modifyGet (fs.write · path octets)
  listen transport settings := do return listen (← get) transport settings

end Intercept

import Intercept.CommandLine

/-!
# The program

Runs the command line on the system itself and reports what comes of it. All that is decided is
decided elsewhere. Sockets that carry foreign addresses cannot be made from here, so a program that
is asked to serve lacks the privilege.
-/

namespace Intercept.Program

/-- The number of the error that the system reported, if it reported one. -/
def errorNumber? : IO.Error → Option UInt32
  | .alreadyExists _ n _ | .invalidArgument _ n _ | .permissionDenied _ n _
  | .resourceExhausted _ n _ | .inappropriateType _ n _ | .noSuchThing _ n _ => some n
  | .interrupted _ n _ | .noFileOrDirectory _ n _ => some n
  | .otherError n _ | .resourceBusy n _ | .resourceVanished n _ | .unsupportedOperation n _
  | .hardwareFault n _ | .unsatisfiedConstraints n _ | .illegalOperation n _
  | .protocolError n _ | .timeExpired n _ => some n
  | .unexpectedEof | .userError _ => none

/-- The fault that an error is. -/
def faultOfError (e : IO.Error) : IoFault :=
  match errorNumber? e with
  | some n => .system n.toNat
  | none => .described .other (toString e)

/-- What comes of an action, with its error as a fault. -/
def attempt {α : Type} (action : IO α) : IO (Except IoFault α) := do
  try return .ok (← action)
  catch e => return .error (faultOfError e)

/-- The values of the variables that override settings. -/
def environment : IO Environment := do
  let values ← Settings.Override.all.mapM fun o => do
    return (o.variableName, ← IO.getEnv o.variableName)
  return fun name => (values.find? (·.1 == name)).bind (·.2)

/-- The system itself. -/
def host : Host IO where
  environment := environment
  read path := do return (← attempt (IO.FS.readBinFile path)).map (·.toList)
  write path octets := attempt (IO.FS.writeBinFile path ⟨octets.toArray⟩)
  listen _ _ := return .error .privilegeDenied

/-- Runs the program with arguments; the result is its exit code. -/
def run (arguments : List String) : IO UInt32 := do
  let said := (← CommandLine.invoke host arguments).report
  IO.print said.output
  IO.eprint said.errors
  return UInt32.ofNat said.code

end Intercept.Program

/-- The program. -/
def main (arguments : List String) : IO UInt32 := Intercept.Program.run arguments

import Intercept.IoFault.Description
import Intercept.Text.Decimal

/-!
# Faults of input and output

A fault is either an error number that the system reported or a condition that was met on this side.
What is done about a fault depends on its kind alone; what is said about it depends on the fault.
-/

namespace Intercept

inductive IoFault.Kind where
  | notFound
  | permissionDenied
  | connectionRefused
  | connectionReset
  | connectionAborted
  | notConnected
  | brokenPipe
  | invalidInput
  | invalidData
  | timedOut
  | writeZero
  | interrupted
  | unexpectedEnd
  | other
deriving DecidableEq

/-- A fault of input or output. -/
inductive IoFault where
  /-- The system reported an error number. -/
  | system (number : Nat)
  /-- A condition described by its kind alone. -/
  | plain (kind : IoFault.Kind)
  /-- A condition with a description of its own. -/
  | described (kind : IoFault.Kind) (text : String)
deriving DecidableEq

namespace IoFault

def Kind.text : Kind → String
  | .notFound => "entity not found"
  | .permissionDenied => "permission denied"
  | .connectionRefused => "connection refused"
  | .connectionReset => "connection reset"
  | .connectionAborted => "connection aborted"
  | .notConnected => "not connected"
  | .brokenPipe => "broken pipe"
  | .invalidInput => "invalid input parameter"
  | .invalidData => "invalid data"
  | .timedOut => "timed out"
  | .writeZero => "write zero"
  | .interrupted => "operation interrupted"
  | .unexpectedEnd => "unexpected end of file"
  | .other => "other error"

def kindOfNumber : Nat → Kind
  | 1 => .permissionDenied
  | 2 => .notFound
  | 4 => .interrupted
  | 13 => .permissionDenied
  | 22 => .invalidInput
  | 32 => .brokenPipe
  | 103 => .connectionAborted
  | 104 => .connectionReset
  | 107 => .notConnected
  | 110 => .timedOut
  | 111 => .connectionRefused
  | _ => .other

def kind : IoFault → Kind
  | .system number => kindOfNumber number
  | .plain kind => kind
  | .described kind _ => kind

/-- The error number that the system reported, if it reported one. -/
def number? : IoFault → Option Nat
  | .system number => some number
  | _ => none

def describe (number : Nat) : String :=
  match descriptions.find? (·.1 == number) with
  | some (_, text) => text
  | none => "Unknown error " ++ Decimal.text number

def text : IoFault → String
  | .system number => describe number ++ " (os error " ++ Decimal.text number ++ ")"
  | .plain kind => kind.text
  | .described _ text => text

/-! ### Faults met on this side -/

/-- A block of octets was cut short by the end of the stream. -/
def earlyEnd : IoFault := .described .unexpectedEnd "early eof"

/-- A single number was cut short by the end of the stream. -/
def unexpectedEnd : IoFault := .plain .unexpectedEnd

/-- The other side took no octet of a message. -/
def writeZero : IoFault := .plain .writeZero

/-- The other side took no octet of relayed data. -/
def acceptedZero : IoFault := .described .writeZero "peer accepted zero bytes"

/-- A file that should hold text does not. -/
def notText : IoFault := .described .invalidData "stream did not contain valid UTF-8"

end IoFault

end Intercept

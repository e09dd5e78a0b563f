import Intercept.Failure.Kind
import Intercept.IoFault

/-!
# Failures of recovering a destination

Where the client wanted to go is known only from what the system recorded about the intercepted
connection or datagram. The record may be unavailable, missing, or not what it should be.
-/

namespace Intercept.Failure

/-- Why a destination record is not what it should be. -/
inductive Recovery.Defect where
  /-- A part of the record needs more octets than there are. -/
  | short (part : String) (needed actual : Nat)
  /-- A record states a length that does not cover its own header. -/
  | lengthBelowHeader (length : Nat)
  /-- A destination of the named record is not of the family that the record is for. -/
  | wrongFamily (record : String) (family : Nat)
  /-- The system had no room for all the records. -/
  | truncated
  /-- Any other defect, in words. -/
  | stated (text : String)
deriving DecidableEq

/-- Why a destination record is unavailable. -/
inductive Recovery.Obstacle where
  /-- The connection was not redirected, as far as the system knows. -/
  | notRedirected (option : String)
  /-- Asking for the record failed. -/
  | queryFailed (option : String) (fault : IoFault)
  /-- Any other reason, in words. -/
  | stated (text : String)
deriving DecidableEq

/-- A failure of recovering a destination. -/
inductive Recovery where
  | unavailable (obstacle : Recovery.Obstacle)
  | missing
  | malformed (defect : Recovery.Defect)
deriving DecidableEq

namespace Recovery

def Defect.text : Defect → String
  | .short part needed actual =>
    part ++ ": need " ++ Decimal.text needed ++ " bytes, got " ++ Decimal.text actual
  | .lengthBelowHeader length =>
    "control message length " ++ Decimal.text length ++ " is smaller than its header"
  | .wrongFamily record family => record ++ " record has address family " ++ Decimal.text family
  | .truncated => "control message truncated (MSG_CTRUNC)"
  | .stated text => text

def Obstacle.text : Obstacle → String
  | .notRedirected option => option ++ " not available - not a redirected connection?"
  | .queryFailed option fault => "getsockopt " ++ option ++ " failed: " ++ fault.text
  | .stated text => text

def kind : Recovery → Kind
  | .unavailable _ => .recoveryUnavailable
  | .missing => .recoveryMissing
  | .malformed _ => .recoveryMalformed

def text : Recovery → String
  | .unavailable obstacle => "original destination unavailable: " ++ obstacle.text
  | .missing => "no original destination record in control messages"
  | .malformed defect => "malformed original destination record: " ++ defect.text

end Recovery

end Intercept.Failure

import Mathlib.Data.List.Basic

set_option autoImplicit false

/-! # Callers of the Go services -/

namespace SystemScale.Cloud

/-- What a validated token says of its bearer. -/
structure Claims where
  subject : String
  orgID : String
  role : String
  vehicleSet : List String

def canSendCommand (role : String) : Bool := role = "admin" || role = "operator"

def isAdmin (role : String) : Bool := role = "admin"

def Claims.canAccessVehicle (claims : Claims) (vehicleID : String) : Bool :=
  isAdmin claims.role || claims.vehicleSet.isEmpty ||
    claims.vehicleSet.any fun v => v = "*" || v = vehicleID

end SystemScale.Cloud

import Mathlib.Algebra.Group.Nat.Defs
import SystemScale.Lib.Utf8

set_option autoImplicit false

namespace SystemScale.AdapterTrait

inductive StreamType where
  | unspecified
  | telemetry
  | event
  | sensor
  | videoMeta
  | log
  | audio
  deriving DecidableEq

-- `stream_type as u64`: the discriminants of `repr(i32)`.
def StreamType.toU64 : StreamType → UInt64
  | .unspecified => 0
  | .telemetry => 1
  | .event => 2
  | .sensor => 3
  | .videoMeta => 4
  | .log => 5
  | .audio => 6

/-- An envelope the agent holds. Floats are kept as their bits, since nothing here computes with
them; `held` says that its buffers and their encoding fit the address space. -/
structure DataEnvelope where
  vehicleId : String
  timestampNs : UInt64
  streamType : StreamType
  payload : List UInt8
  lat : UInt64
  lon : UInt64
  alt : UInt32
  seq : UInt32
  fleetId : String
  orgId : String
  streamName : String
  senderId : String
  senderType : String
  receiverId : String
  receiverType : String
  held : (Utf8.encode vehicleId).length + payload.length + 128 < 2 ^ 63

inductive Priority where
  | normal
  | high
  | emergency
  deriving DecidableEq

structure CommandEnvelope where
  vehicleId : String
  commandId : String
  payload : List UInt8
  priority : Priority
  ttlMs : UInt32
  deriving DecidableEq

inductive AckStatus where
  | accepted
  | completed
  | rejected
  | failed
  | timeout
  deriving DecidableEq

structure Ack where
  commandId : String
  status : AckStatus
  message : String
  ackTimeNs : UInt64
  held : (Utf8.encode commandId).length + (Utf8.encode message).length + 128 < 2 ^ 63

end SystemScale.AdapterTrait

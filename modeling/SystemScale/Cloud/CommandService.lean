import Mathlib.Logic.Function.Basic
import SystemScale.Cloud.CommandCodec
import SystemScale.Cloud.Commands
import SystemScale.Lib.Runs

set_option autoImplicit false

/-!
# command-api

The gRPC streams and the REST handlers of one process, and what they hand to their callers and to
the message router. Times are in nanoseconds, except `issuedAt`.
-/

namespace SystemScale.Cloud

open Wire

/-! ## Messages of the gRPC service -/

def CommandEnvelope.empty : CommandEnvelope := ⟨[], [], [], 0, [], 0, 0⟩

def CommandEnvelope.setVarint (env : CommandEnvelope) (fieldNum : Nat) (val : UInt64) :
    CommandEnvelope :=
  match fieldNum with
  | 4 => { env with priority := Int32.ofInt val.toNat }
  | 6 => { env with issuedAt := val }
  | 7 => { env with ttlMs := val.toUInt32 }
  | _ => env

def CommandEnvelope.setString (env : CommandEnvelope) (fieldNum : Nat) (b : List UInt8) :
    CommandEnvelope :=
  match fieldNum with
  | 1 => { env with vehicleID := b }
  | 2 => { env with commandID := b }
  | 3 => { env with payload := b }
  | 5 => { env with issuerID := b }
  | _ => env

def decodeCommandEnvelopeStep (data : List UInt8) :
    Nat × CommandEnvelope → Step (Nat × CommandEnvelope) (Outcome CommandEnvelope)
  | (pos, env) =>
    if pos < data.length then
      let (tag, n) := consumeVarint (data.drop pos)
      if n = 0 then .done (.err s!"truncated tag at offset {pos}")
      else
        let pos := pos + n
        let fieldNum := (tag >>> 3).toNat
        match (tag &&& 0x7).toNat with
        | 0 =>
          let (val, n2) := consumeVarint (data.drop pos)
          if n2 = 0 then .done (.err s!"truncated varint field {fieldNum}")
          else .next (pos + n2, env.setVarint fieldNum val)
        | 2 =>
          let (length, n2) := consumeVarint (data.drop pos)
          if n2 = 0 then .done (.err s!"truncated length field {fieldNum}")
          else
            let pos := pos + n2
            let stop := goAdd pos (goInt length)
            if stop > data.length then .done (.err s!"truncated bytes field {fieldNum}")
            else
              match goSlice data pos stop with
              | none => .done .panic
              | some b => .next (pos + b.length, env.setString fieldNum b)
        | wireType => .done (.err s!"unsupported wire type {wireType} at field {fieldNum}")
    else .done (.ok env)

def decodeCommandEnvelopeInto (data : List UInt8) : Outcome CommandEnvelope :=
  (loop (decodeCommandEnvelopeStep data) (data.length + 1) (0, .empty)).getD .hang

structure TelemetryRequest where
  vehicleIDs : List GoString
  streams : List UInt32
  maxHz : UInt32

def TelemetryRequest.empty : TelemetryRequest := ⟨[], [], 0⟩

def TelemetryRequest.setVarint (req : TelemetryRequest) (fieldNum : Nat) (val : UInt64) :
    TelemetryRequest :=
  match fieldNum with
  | 2 => { req with streams := req.streams ++ [val.toUInt32] }
  | 3 => { req with maxHz := val.toUInt32 }
  | _ => req

-- The inner loop over a packed field; `fuel` bounds the number of varints.
def packedStreams : Nat → List UInt8 → List UInt32
  | 0, _ => []
  | fuel + 1, b =>
    let (val, n3) := consumeVarint b
    if n3 = 0 then [] else val.toUInt32 :: packedStreams fuel (b.drop n3)

def TelemetryRequest.setBytes (req : TelemetryRequest) (fieldNum : Nat) (b : List UInt8) :
    TelemetryRequest :=
  match fieldNum with
  | 1 => { req with vehicleIDs := req.vehicleIDs ++ [b] }
  | 2 => { req with streams := req.streams ++ packedStreams b.length b }
  | _ => req

def decodeTelemetryRequestStep (data : List UInt8) :
    Nat × TelemetryRequest → Step (Nat × TelemetryRequest) (Outcome TelemetryRequest)
  | (pos, req) =>
    if pos < data.length then
      let (tag, n) := consumeVarint (data.drop pos)
      if n = 0 then .done (.ok req)
      else
        let pos := pos + n
        let fieldNum := (tag >>> 3).toNat
        match (tag &&& 0x7).toNat with
        | 0 =>
          let (val, n2) := consumeVarint (data.drop pos)
          if n2 = 0 then .done (.err "truncated varint")
          else .next (pos + n2, req.setVarint fieldNum val)
        | 2 =>
          let (length, n2) := consumeVarint (data.drop pos)
          if n2 = 0 then .done (.err "truncated length")
          else
            let pos := pos + n2
            let stop := goAdd pos (goInt length)
            if stop > data.length then .done (.err "truncated bytes")
            else
              match goSlice data pos stop with
              | none => .done .panic
              | some b => .next (pos + b.length, req.setBytes fieldNum b)
        | wireType => .done (.err s!"unsupported wire type {wireType}")
    else .done (.ok req)

def decodeTelemetryRequestInto (data : List UInt8) : Outcome TelemetryRequest :=
  (loop (decodeTelemetryRequestStep data) (data.length + 1) (0, .empty)).getD .hang

def TelemetryRequest.minInterval (req : TelemetryRequest) : Nat :=
  if req.maxHz > 0 then 1000000000 / req.maxHz.toNat else 0

def TelemetryRequest.asks (req : TelemetryRequest) (vehicleID : GoString) (streamType : UInt32) :
    Bool :=
  (req.vehicleIDs.isEmpty || req.vehicleIDs.contains vehicleID) &&
    (req.streams.isEmpty || req.streams.contains streamType)

/-- `CanAccessVehicle` for a name that comes as bytes. -/
def Claims.canAccess (claims : Claims) (vehicleID : GoString) : Bool :=
  isAdmin claims.role || claims.vehicleSet.isEmpty ||
    claims.vehicleSet.any fun v => v = "*" || Utf8.encode v = vehicleID

theorem canAccess_encode (claims : Claims) (vehicleID : String) :
    claims.canAccess (Utf8.encode vehicleID) = claims.canAccessVehicle vehicleID := by
  have same (v : String) : (Utf8.encode v = Utf8.encode vehicleID) ↔ (v = vehicleID) :=
    ⟨Utf8.encode_injective, congrArg Utf8.encode⟩
  simp only [Claims.canAccess, Claims.canAccessVehicle, same]

/-! ## State -/

structure AckEntry where
  commandID : GoString
  vehicleID : GoString
  status : String
  message : GoString
  latencyMs : UInt32
  receivedAt : Nat

def CommandAck.entry (ack : CommandAck) (now : Nat) : AckEntry :=
  { commandID := ack.commandID
    vehicleID := ack.vehicleID
    status := if commandStatusNames ack.status = "" then "unknown" else commandStatusNames ack.status
    message := ack.message
    latencyMs := ack.latencyMs
    receivedAt := now }

/-- An entry of `pendingACKs`, with what its channel holds. -/
structure Pending where
  vehicleID : GoString
  channel : Option CommandAck

/-- An operator's SendCommand stream. -/
structure SendStream where
  claims : Claims
  pendingACKs : GoString → Option Pending

-- `none` is the zero time, longer ago than any interval.
structure TelemetryStream where
  claims : Claims
  req : TelemetryRequest
  lastSend : Option Nat

/-- A request for a command's `/stream`; its channel is in `waiters` until it holds an entry. -/
structure Waiter where
  claims : Claims
  commandID : GoString
  channel : Option AckEntry

/-- What a caller is told, and what is published in a caller's name. -/
inductive Output where
  | refused (status : Nat) (message : String)
  | queued (commandID : String)
  | pending (commandID : GoString)
  | entry (entry : AckEntry)
  | published (subject : GoString) (payload : List UInt8)
  | ack (ack : CommandAck)
  | outcome (commandID vehicleID : GoString) (status : Int32) (message : GoString)
  | frame (data : List UInt8)

/-- `log` is no part of the program: the outputs so far, each with the claims of its caller. -/
structure CommandApi where
  up : Bool
  acks : GoString → Option AckEntry
  waiters : Nat → Option Waiter
  senders : Nat → Option SendStream
  watchers : Nat → Option TelemetryStream
  log : List (Claims × Output)

namespace CommandApi

inductive Action where
  | post (claims : Claims) (body : List Char) (commandID : String) (now : UInt64) (stored : Bool)
  | openSend (stream : Nat) (claims : Claims)
  | receive (stream : Nat) (data : List UInt8) (commandID : GoString) (now : UInt64)
      (failure : Option GoString)
  | routeAck (stream : Nat) (data : List UInt8)
  | returnAck (stream : Nat) (commandID : GoString)
  | ackTimeout (stream : Nat) (commandID : GoString)
  | closeSend (stream : Nat)
  | openTelemetry (stream : Nat) (claims : Claims) (data : List UInt8)
  | telemetry (stream : Nat) (data : List UInt8) (now later : Nat)
  | closeTelemetry (stream : Nat)
  | ackMessage (data : List UInt8) (now : Nat)
  | expire (cutoff : Nat)
  | getCommand (claims : Claims) (path : GoString)
  | commandStream (request : Nat) (claims : Claims) (path : GoString)
  | resolve (request : Nat)
  | disconnect (request : Nat)
  | crash
  | restart

def start : CommandApi :=
  ⟨true, fun _ => none, fun _ => none, fun _ => none, fun _ => none, []⟩

def tell (api : CommandApi) (claims : Claims) (output : Output) : CommandApi :=
  { api with log := api.log ++ [(claims, output)] }

-- A panic outside an HTTP handler ends the process.
def down (api : CommandApi) : CommandApi := { api with up := false }

def setSender (api : CommandApi) (stream : Nat) (sender : Option SendStream) : CommandApi :=
  { api with senders := Function.update api.senders stream sender }

def setWatcher (api : CommandApi) (stream : Nat) (watcher : Option TelemetryStream) : CommandApi :=
  { api with watchers := Function.update api.watchers stream watcher }

def setWaiter (api : CommandApi) (request : Nat) (waiter : Option Waiter) : CommandApi :=
  { api with waiters := Function.update api.waiters request waiter }

def commandSubject (vehicleID : GoString) : GoString := Utf8.encode "command." ++ vehicleID

/-! ## gRPC -/

/-- One turn of SendCommand's loop. -/
def sendCommand (api : CommandApi) (stream : Nat) (sender : SendStream) (data : List UInt8)
    (commandID : GoString) (now : UInt64) (failure : Option GoString) : CommandApi :=
  match decodeCommandEnvelopeInto data with
  | .ok cmd =>
    if sender.claims.canAccess cmd.vehicleID then
      let cmd := { cmd with
        commandID := commandID, issuerID := Utf8.encode sender.claims.subject, issuedAt := now }
      match failure with
      | some err =>
        api.tell sender.claims
          (.outcome cmd.commandID cmd.vehicleID 3 (Utf8.encode "publish error: " ++ err))
      | none =>
        (api.tell sender.claims
          (.published (commandSubject cmd.vehicleID) (encodeCommandEnvelope cmd))).setSender stream
            (some { sender with
              pendingACKs :=
                Function.update sender.pendingACKs commandID (some ⟨cmd.vehicleID, none⟩) })
    else
      api.tell sender.claims
        (.outcome cmd.commandID cmd.vehicleID 3 (Utf8.encode "not authorized for this vehicle"))
  | .err _ => api.setSender stream none
  | .panic => api.down
  | .hang => api.setSender stream none

/-- The background ACK router of a SendCommand stream. -/
def routeAck (api : CommandApi) (stream : Nat) (sender : SendStream) (data : List UInt8) :
    CommandApi :=
  match decodeCommandAck data with
  | .ok ack =>
    match sender.pendingACKs ack.commandID with
    | some ⟨vehicleID, none⟩ =>
      api.setSender stream
        (some { sender with
          pendingACKs :=
            Function.update sender.pendingACKs ack.commandID (some ⟨vehicleID, some ack⟩) })
    | _ => api
  | .err _ => api
  | .panic => api.down
  | .hang => api

def forget (sender : SendStream) (commandID : GoString) : SendStream :=
  { sender with pendingACKs := Function.update sender.pendingACKs commandID none }

/-- One turn of StreamTelemetry's loop. -/
def streamTelemetry (api : CommandApi) (stream : Nat) (watcher : TelemetryStream)
    (data : List UInt8) (now later : Nat) : CommandApi :=
  if watcher.lastSend.any fun lastSend => now - lastSend < watcher.req.minInterval then api
  else
    match peekDataEnvelope data with
    | .ok (vehicleID, streamType) =>
      if watcher.req.asks vehicleID streamType && watcher.claims.canAccess vehicleID then
        (api.tell watcher.claims (.frame data)).setWatcher stream
          (some { watcher with lastSend := some later })
      else api
    | .err _ => api
    | .panic => api.down
    -- The loop of the decoder never ends, and neither does the stream's.
    | .hang => api.setWatcher stream none

/-! ## REST -/

def post (api : CommandApi) (claims : Claims) (body : List Char) (commandID : String)
    (now : UInt64) (stored : Bool) : CommandApi :=
  match handleSendCommand (some claims) body commandID now with
  | .refused status message => api.tell claims (.refused status message)
  | .published subject encoded commandID =>
    if stored then
      (api.tell claims (.published (Utf8.encode subject) encoded)).tell claims (.queued commandID)
    else api.tell claims (.refused 500 "Internal Server Error")

/-- The ACK consumer of the REST server. -/
def ackMessage (api : CommandApi) (data : List UInt8) (now : Nat) : CommandApi :=
  match decodeCommandAck data with
  | .ok ack =>
    { api with
      acks := Function.update api.acks ack.commandID (some (ack.entry now))
      waiters := fun request => (api.waiters request).map fun waiter =>
        if waiter.commandID = ack.commandID ∧ waiter.channel.isNone then
          { waiter with channel := some (ack.entry now) }
        else waiter }
  | .err _ => api
  | .panic => api.down
  | .hang => api

def expire (api : CommandApi) (cutoff : Nat) : CommandApi :=
  { api with acks := fun commandID => (api.acks commandID).filter fun e => !(e.receivedAt < cutoff) }

def trimPrefix (s affix : GoString) : GoString :=
  if affix.isPrefixOf s then s.drop affix.length else s

def trimSuffix (s affix : GoString) : GoString :=
  if affix.isSuffixOf s then s.take (s.length - affix.length) else s

def commandsPath : GoString := Utf8.encode "/v1/commands/"

def streamSuffix : GoString := Utf8.encode "/stream"

def handleGetCommand (api : CommandApi) (claims : Claims) (path : GoString) : CommandApi :=
  let commandID := trimPrefix path commandsPath
  if commandID = [] then api.tell claims (.refused 400 "Bad Request: missing command ID")
  else
    match api.acks commandID with
    | none => api.tell claims (.pending commandID)
    | some entry => api.tell claims (.entry entry)

def handleCommandStream (api : CommandApi) (request : Nat) (claims : Claims) (path : GoString) :
    CommandApi :=
  let commandID := trimSuffix (trimPrefix path commandsPath) streamSuffix
  if commandID = [] then api.tell claims (.refused 400 "Bad Request: missing command ID")
  else
    match api.acks commandID with
    | some entry => api.tell claims (.entry entry)
    | none => api.setWaiter request (some ⟨claims, commandID, none⟩)

/-! ## Steps -/

def serve (api : CommandApi) : Action → Option CommandApi
  | .post claims body commandID now stored => some (api.post claims body commandID now stored)
  | .openSend stream claims =>
    if (api.senders stream).isSome then none
    else if canSendCommand claims.role then
      some (api.setSender stream (some ⟨claims, fun _ => none⟩))
    else some (api.tell claims (.refused 7 "role does not allow sending commands"))
  | .receive stream data commandID now failure =>
    (api.senders stream).map fun sender =>
      api.sendCommand stream sender data commandID now failure
  | .routeAck stream data =>
    (api.senders stream).map fun sender => api.routeAck stream sender data
  | .returnAck stream commandID =>
    match api.senders stream with
    | some sender =>
      match sender.pendingACKs commandID with
      | some ⟨_, some ack⟩ =>
        some ((api.tell sender.claims (.ack ack)).setSender stream (some (forget sender commandID)))
      | _ => none
    | none => none
  | .ackTimeout stream commandID =>
    match api.senders stream with
    | some sender =>
      match sender.pendingACKs commandID with
      | some ⟨vehicleID, _⟩ =>
        some ((api.tell sender.claims
          (.outcome commandID vehicleID 4 (Utf8.encode "vehicle did not ACK within TTL"))).setSender
            stream (some (forget sender commandID)))
      | none => none
    | none => none
  | .closeSend stream => some (api.setSender stream none)
  | .openTelemetry stream claims data =>
    if (api.watchers stream).isSome then none
    else
      match decodeTelemetryRequestInto data with
      | .ok req => some (api.setWatcher stream (some ⟨claims, req, none⟩))
      | .err message => some (api.tell claims (.refused 13 message))
      | .panic => some api.down
      | .hang => some api
  | .telemetry stream data now later =>
    (api.watchers stream).map fun watcher => api.streamTelemetry stream watcher data now later
  | .closeTelemetry stream => some (api.setWatcher stream none)
  | .ackMessage data now => some (api.ackMessage data now)
  | .expire cutoff => some (api.expire cutoff)
  | .getCommand claims path =>
    if streamSuffix.isSuffixOf path then none else some (api.handleGetCommand claims path)
  | .commandStream request claims path =>
    if (api.waiters request).isSome || !streamSuffix.isSuffixOf path then none
    else some (api.handleCommandStream request claims path)
  | .resolve request =>
    match api.waiters request with
    | some ⟨claims, _, some entry⟩ =>
      some ((api.tell claims (.entry entry)).setWaiter request none)
    | _ => none
  | .disconnect request => some (api.setWaiter request none)
  | .crash => some api.down
  | .restart => none

def step (api : CommandApi) (action : Action) : Option CommandApi :=
  if api.up then api.serve action
  else
    match action with
    | .restart => some { start with log := api.log }
    | _ => none

end CommandApi

end SystemScale.Cloud

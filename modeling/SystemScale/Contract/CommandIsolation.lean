import SystemScale.Cloud.CommandService

set_option autoImplicit false

/-!
# Organisations and command-api

Which vehicles command-api commands or shows in a caller's name, whatever requests, vehicle messages
and restarts come in whatever order.
-/

namespace SystemScale.Cloud.CommandApi

open Runs
open Wire (Outcome)

/-- The output is a command to the vehicle, a frame of it, or one of its ACKs. -/
def Reaches (v : GoString) : Output → Prop
  | .published subject _ => subject = commandSubject v
  | .frame data => ∃ streamType, peekDataEnvelope data = .ok (v, streamType)
  | .entry entry => entry.vehicleID = v
  | .ack ack => ack.vehicleID = v
  | .refused _ _ | .queued _ | .pending _ | .outcome _ _ _ _ => False

/-- The caller has commanded the vehicle, or has been shown something of it. -/
def Reached (api : CommandApi) (caller : Claims) (v : GoString) : Prop :=
  ∃ output, (caller, output) ∈ api.log ∧ Reaches v output

def Foreign (orgOf : GoString → Option String) (caller : Claims) (v : GoString) : Prop :=
  ∃ org, orgOf v = some org ∧ org ≠ caller.orgID

def Isolated (orgOf : GoString → Option String) (api : CommandApi) : Prop :=
  ∀ caller v, Reached api caller v → ¬ Foreign orgOf caller v

structure Accepts (claims : Claims) (body : List Char) (req : SendRequest) : Prop where
  role : canSendCommand claims.role = true
  decoded : SendRequest.decode body = some req
  named : req.vehicleID ≠ ""
  granted : claims.canAccessVehicle req.vehicleID = true
  payload : req.payload.isSome

/-- What the caller asks for, or is owed, is about the vehicle, and no check of the code stands in
the way. -/
def Asks (api : CommandApi) (caller : Claims) (v : GoString) : Action → Prop
  | .post claims body _ _ stored =>
    caller = claims ∧ stored = true ∧ ∃ req, Accepts claims body req ∧ Utf8.encode req.vehicleID = v
  | .receive stream data _ _ failure =>
    failure = none ∧ ∃ pendingACKs, api.senders stream = some ⟨caller, pendingACKs⟩ ∧
      ∃ cmd, decodeCommandEnvelopeInto data = .ok cmd ∧ cmd.vehicleID = v ∧ caller.canAccess v
  | .returnAck stream commandID =>
    ∃ pendingACKs, api.senders stream = some ⟨caller, pendingACKs⟩ ∧
      ∃ vehicleID ack, pendingACKs commandID = some ⟨vehicleID, some ack⟩ ∧ ack.vehicleID = v
  | .telemetry stream data now _ =>
    ∃ req lastSend, api.watchers stream = some ⟨caller, req, lastSend⟩ ∧
      ¬ lastSend.any (fun lastSend => now - lastSend < req.minInterval) ∧
      ∃ streamType, peekDataEnvelope data = .ok (v, streamType) ∧ req.asks v streamType ∧
        caller.canAccess v
  | .getCommand claims path =>
    caller = claims ∧ trimPrefix path commandsPath ≠ [] ∧
      ∃ entry, api.acks (trimPrefix path commandsPath) = some entry ∧ entry.vehicleID = v
  | .commandStream _ claims path =>
    caller = claims ∧ trimSuffix (trimPrefix path commandsPath) streamSuffix ≠ [] ∧
      ∃ entry, api.acks (trimSuffix (trimPrefix path commandsPath) streamSuffix) = some entry ∧
        entry.vehicleID = v
  | .resolve request =>
    ∃ commandID entry, api.waiters request = some ⟨caller, commandID, some entry⟩ ∧
      entry.vehicleID = v
  | .openSend _ _ | .routeAck _ _ | .ackTimeout _ _ | .closeSend _ | .openTelemetry _ _ _
  | .closeTelemetry _ | .ackMessage _ _ | .expire _ | .disconnect _ | .crash | .restart => False

def Careful (orgOf : GoString → Option String) (api : CommandApi) (action : Action) : Prop :=
  ∀ caller v, Asks api caller v action → ¬ Foreign orgOf caller v

/-! ## What a step hands over -/

theorem commandSubject_inj {first second : GoString} :
    commandSubject first = commandSubject second ↔ first = second :=
  List.append_right_inj _

section Log

variable {api next : CommandApi} {caller claims : Claims} {v : GoString} {output : Output}

theorem reached_congr (same : next.log = api.log) :
    Reached next caller v ↔ Reached api caller v := by
  rw [Reached, Reached, same]

theorem reached_tell :
    Reached (api.tell claims output) caller v ↔
      Reached api caller v ∨ caller = claims ∧ Reaches v output := by
  constructor
  · rintro ⟨shown, member, reaches⟩
    rcases List.mem_append.mp member with member | member
    · exact .inl ⟨shown, member, reaches⟩
    · obtain ⟨rfl, rfl⟩ := Prod.mk.injEq .. ▸ List.mem_singleton.mp member
      exact .inr ⟨rfl, reaches⟩
  · rintro (⟨shown, member, reaches⟩ | ⟨rfl, reaches⟩)
    · exact ⟨shown, List.mem_append_left _ member, reaches⟩
    · exact ⟨output, List.mem_append_right _ List.mem_cons_self, reaches⟩

theorem reached_silent (silent : ¬ Reaches v output) :
    Reached (api.tell claims output) caller v ↔ Reached api caller v := by
  simp [reached_tell, silent]

theorem reached_setSender {stream : Nat} {sender : Option SendStream} :
    Reached (api.setSender stream sender) caller v ↔ Reached api caller v := Iff.rfl

theorem reached_setWatcher {stream : Nat} {watcher : Option TelemetryStream} :
    Reached (api.setWatcher stream watcher) caller v ↔ Reached api caller v := Iff.rfl

theorem reached_setWaiter {request : Nat} {waiter : Option Waiter} :
    Reached (api.setWaiter request waiter) caller v ↔ Reached api caller v := Iff.rfl

theorem reached_down : Reached api.down caller v ↔ Reached api caller v := Iff.rfl

end Log

theorem handleSendCommand_published_iff (claims : Claims) (body : List Char) (commandID : String)
    (now : UInt64) (subject : String) :
    (∃ encoded id, handleSendCommand (some claims) body commandID now =
        .published subject encoded id) ↔
      ∃ req, Accepts claims body req ∧ subject = "command." ++ req.vehicleID := by
  constructor
  · rintro ⟨encoded, id, published⟩
    unfold handleSendCommand at published
    dsimp only at published
    split at published
    next role =>
      split at published
      next => simp at published
      next req decoded =>
        split at published
        next => simp at published
        next named =>
          split at published
          next granted =>
            split at published
            next => simp at published
            next payload held =>
              simp only [SendResponse.published.injEq] at published
              exact ⟨req, ⟨role, decoded, named, granted, by simp [held]⟩, published.1.symm⟩
          next => simp at published
    next => simp at published
  · rintro ⟨req, accepts, rfl⟩
    obtain ⟨payload, held⟩ := Option.isSome_iff_exists.mp accepts.payload
    simp [handleSendCommand, accepts.role, accepts.decoded, accepts.named, accepts.granted, held]

theorem encode_subject (vehicleID : String) :
    Utf8.encode ("command." ++ vehicleID) = commandSubject (Utf8.encode vehicleID) := by
  simp [Utf8.encode, commandSubject]

section Handlers

variable {api : CommandApi} {caller : Claims} {v : GoString}

theorem post_reached {claims : Claims} {body : List Char} {commandID : String} {now : UInt64}
    {stored : Bool} :
    Reached (api.post claims body commandID now stored) caller v ↔
      Reached api caller v ∨ Asks api caller v (.post claims body commandID now stored) := by
  have published := handleSendCommand_published_iff claims body commandID now
  simp only [post, Asks]
  split
  next refused =>
    have none_accepted (req : SendRequest) : ¬ Accepts claims body req := by
      intro accepts
      obtain ⟨encoded, id, sent⟩ := (published _).mpr ⟨req, accepts, rfl⟩
      simp [refused] at sent
    simp [reached_tell, Reaches, none_accepted]
  next subject encoded id sent =>
    obtain ⟨req, accepts, rfl⟩ := (published subject).mp ⟨encoded, id, sent⟩
    have only (other : SendRequest) (also : Accepts claims body other) : other = req :=
      Option.some.inj (also.decoded.symm.trans accepts.decoded)
    split_ifs with taken
    · rw [reached_silent (by simp [Reaches]), reached_tell]
      simp only [Reaches, encode_subject, commandSubject_inj, taken, true_and]
      refine or_congr_right (and_congr_right fun _ => ?_)
      constructor
      · rintro rfl
        exact ⟨req, accepts, rfl⟩
      · rintro ⟨other, also, rfl⟩
        rw [only other also]
    · simp [reached_tell, Reaches, taken]

theorem sendCommand_reached {stream : Nat} {sender : SendStream} {data : List UInt8}
    {commandID : GoString} {now : UInt64} {failure : Option GoString} :
    Reached (api.sendCommand stream sender data commandID now failure) caller v ↔
      Reached api caller v ∨ failure = none ∧ caller = sender.claims ∧
        ∃ cmd, decodeCommandEnvelopeInto data = .ok cmd ∧ cmd.vehicleID = v ∧
          caller.canAccess v := by
  unfold sendCommand
  split
  next cmd decoded =>
    split_ifs with granted
    · split
      next => simp [reached_tell, Reaches]
      next =>
        simp only [reached_setSender, reached_tell, Reaches, commandSubject_inj, decoded,
          Outcome.ok.injEq, true_and]
        refine or_congr_right (and_congr_right ?_)
        rintro rfl
        constructor
        · rintro rfl
          exact ⟨cmd, rfl, rfl, granted⟩
        · rintro ⟨_, rfl, rfl, _⟩
          rfl
    · simp only [reached_tell, Reaches, and_false, or_false, decoded, Outcome.ok.injEq]
      refine (or_iff_left ?_).symm
      rintro ⟨_, rfl, _, rfl, rfl, access⟩
      exact granted access
  next failed => simp [reached_setSender, failed]
  next failed => simp [reached_down, failed]
  next failed => simp [reached_setSender, failed]

theorem routeAck_log {stream : Nat} {sender : SendStream} {data : List UInt8} :
    (api.routeAck stream sender data).log = api.log := by
  unfold routeAck
  split
  next => split <;> rfl
  all_goals rfl

theorem ackMessage_log {data : List UInt8} {now : Nat} :
    (api.ackMessage data now).log = api.log := by
  unfold ackMessage
  split <;> rfl

theorem streamTelemetry_reached {stream : Nat} {watcher : TelemetryStream} {data : List UInt8}
    {now later : Nat} :
    Reached (api.streamTelemetry stream watcher data now later) caller v ↔
      Reached api caller v ∨ caller = watcher.claims ∧
        ¬ watcher.lastSend.any (fun lastSend => now - lastSend < watcher.req.minInterval) ∧
        ∃ streamType, peekDataEnvelope data = .ok (v, streamType) ∧
          watcher.req.asks v streamType ∧ caller.canAccess v := by
  unfold streamTelemetry
  split_ifs with limited
  · simp [limited]
  · split
    next vehicleID streamType peeked =>
      split_ifs with passes
      · rw [Bool.and_eq_true] at passes
        simp only [reached_setWatcher, reached_tell, Reaches, peeked, Outcome.ok.injEq,
          Prod.mk.injEq, limited, Bool.false_eq_true, not_false_eq_true, true_and]
        refine or_congr_right (and_congr_right ?_)
        rintro rfl
        constructor
        · rintro ⟨_, rfl, rfl⟩
          exact ⟨streamType, ⟨rfl, rfl⟩, passes⟩
        · rintro ⟨kind, ⟨rfl, rfl⟩, _⟩
          exact ⟨streamType, rfl, rfl⟩
      · refine (or_iff_left ?_).symm
        rintro ⟨rfl, _, kind, named, asked, access⟩
        obtain ⟨rfl, rfl⟩ := Prod.mk.inj (Outcome.ok.inj (peeked.symm.trans named))
        exact passes (by simp [asked, access])
    next failed => simp [failed]
    next failed => simp [reached_down, failed]
    next failed => simp [reached_setWatcher, failed]

theorem handleGetCommand_reached {claims : Claims} {path : GoString} :
    Reached (api.handleGetCommand claims path) caller v ↔
      Reached api caller v ∨ Asks api caller v (.getCommand claims path) := by
  simp only [handleGetCommand, Asks]
  split_ifs with empty
  · simp [reached_tell, Reaches, empty]
  · split
    next missing => simp [reached_tell, Reaches, missing]
    next entry found => simp [reached_tell, Reaches, empty, found]

theorem handleCommandStream_reached {request : Nat} {claims : Claims} {path : GoString} :
    Reached (api.handleCommandStream request claims path) caller v ↔
      Reached api caller v ∨ Asks api caller v (.commandStream request claims path) := by
  simp only [handleCommandStream, Asks]
  split_ifs with empty
  · simp [reached_tell, Reaches, empty]
  · split
    next entry found => simp [reached_tell, Reaches, empty, found]
    next missing => simp [reached_setWaiter, missing]

end Handlers

theorem serve_reached {api next : CommandApi} {action : Action}
    (taken : serve api action = some next) (caller : Claims) (v : GoString) :
    Reached next caller v ↔ Reached api caller v ∨ Asks api caller v action := by
  cases action with
  | post claims body commandID now stored =>
    obtain rfl := Option.some.inj taken
    exact post_reached
  | openSend stream claims =>
    simp only [serve] at taken
    split_ifs at taken with busy role <;> obtain rfl := Option.some.inj taken
    · simp [reached_setSender, Asks]
    · simp [reached_tell, Reaches, Asks]
  | receive stream data commandID now failure =>
    obtain ⟨⟨claims, pendingACKs⟩, held, rfl⟩ := Option.map_eq_some_iff.mp taken
    rw [sendCommand_reached]
    refine or_congr_right (and_congr_right fun _ => ?_)
    simp only [held, Option.some.injEq, SendStream.mk.injEq]
    exact ⟨fun ⟨own, rest⟩ => ⟨pendingACKs, ⟨own.symm, rfl⟩, rest⟩,
      fun ⟨_, ⟨own, _⟩, rest⟩ => ⟨own.symm, rest⟩⟩
  | routeAck stream data =>
    obtain ⟨sender, held, rfl⟩ := Option.map_eq_some_iff.mp taken
    simp [reached_congr routeAck_log, Asks]
  | returnAck stream commandID =>
    simp only [serve] at taken
    split at taken
    next sender held =>
      split at taken
      next vehicleID ack waiting =>
        obtain rfl := Option.some.inj taken
        simp only [reached_setSender, reached_tell, Reaches, Asks, held, Option.some.injEq]
        refine or_congr_right ?_
        constructor
        · rintro ⟨rfl, rfl⟩
          exact ⟨sender.pendingACKs, rfl, vehicleID, ack, waiting, rfl⟩
        · rintro ⟨pendingACKs, rfl, _, other, also, rfl⟩
          obtain ⟨rfl, rfl⟩ : _ = _ ∧ ack = other := by simpa using waiting.symm.trans also
          exact ⟨rfl, rfl⟩
      next => simp at taken
    next => simp at taken
  | ackTimeout stream commandID =>
    simp only [serve] at taken
    split at taken
    next sender held =>
      split at taken
      next =>
        obtain rfl := Option.some.inj taken
        simp [reached_setSender, reached_tell, Reaches, Asks]
      next => simp at taken
    next => simp at taken
  | closeSend stream =>
    obtain rfl := Option.some.inj taken
    simp [reached_setSender, Asks]
  | openTelemetry stream claims data =>
    simp only [serve] at taken
    split_ifs at taken
    split at taken <;> obtain rfl := Option.some.inj taken
    next => simp [reached_setWatcher, Asks]
    next => simp [reached_tell, Reaches, Asks]
    next => simp [reached_down, Asks]
    next => simp [Asks]
  | telemetry stream data now later =>
    obtain ⟨⟨claims, req, lastSend⟩, held, rfl⟩ := Option.map_eq_some_iff.mp taken
    rw [streamTelemetry_reached]
    refine or_congr_right ?_
    simp only [Asks, held, Option.some.injEq, TelemetryStream.mk.injEq]
    constructor
    · rintro ⟨rfl, rest⟩
      exact ⟨req, lastSend, ⟨rfl, rfl, rfl⟩, rest⟩
    · rintro ⟨_, _, ⟨rfl, rfl, rfl⟩, rest⟩
      exact ⟨rfl, rest⟩
  | closeTelemetry stream =>
    obtain rfl := Option.some.inj taken
    simp [reached_setWatcher, Asks]
  | ackMessage data now =>
    obtain rfl := Option.some.inj taken
    simp [reached_congr ackMessage_log, Asks]
  | expire cutoff =>
    obtain rfl := Option.some.inj taken
    simp [reached_congr (show (api.expire cutoff).log = api.log from rfl), Asks]
  | getCommand claims path =>
    simp only [serve] at taken
    split_ifs at taken
    obtain rfl := Option.some.inj taken
    exact handleGetCommand_reached
  | commandStream request claims path =>
    simp only [serve] at taken
    split_ifs at taken
    obtain rfl := Option.some.inj taken
    exact handleCommandStream_reached
  | resolve request =>
    simp only [serve] at taken
    split at taken
    next claims commandID entry held =>
      obtain rfl := Option.some.inj taken
      simp only [reached_setWaiter, reached_tell, Reaches, Asks, held, Option.some.injEq,
        Waiter.mk.injEq]
      refine or_congr_right ?_
      constructor
      · rintro ⟨rfl, rfl⟩
        exact ⟨commandID, entry, ⟨rfl, rfl, rfl⟩, rfl⟩
      · rintro ⟨_, _, ⟨rfl, rfl, rfl⟩, rfl⟩
        exact ⟨rfl, rfl⟩
    next => simp at taken
  | disconnect request =>
    obtain rfl := Option.some.inj taken
    simp [reached_setWaiter, Asks]
  | crash =>
    obtain rfl := Option.some.inj taken
    simp [reached_down, Asks]
  | restart => simp [serve] at taken

-- A step lets a caller reach what its action asks for, and nothing else.
theorem step_reached {api next : CommandApi} {action : Action} (taken : step api action = some next)
    (caller : Claims) (v : GoString) :
    Reached next caller v ↔ Reached api caller v ∨ Asks api caller v action := by
  unfold step at taken
  split_ifs at taken
  · exact serve_reached taken caller v
  · split at taken
    next =>
      obtain rfl := Option.some.inj taken
      simp [reached_congr (show ({ start with log := api.log } : CommandApi).log = api.log from rfl),
        Asks]
    next => simp at taken

/-- In every run, all callers reach vehicles of their own organisation only, exactly if nobody ever
asks for more than that. -/
theorem runs_isolated_iff (orgOf : GoString → Option String) (actions : List Action) :
    Throughout step (Isolated orgOf) start actions ↔ Along step (Careful orgOf) start actions := by
  have preserves (api : CommandApi) (action : Action) (next : CommandApi) (_ : True)
      (_ : Isolated orgOf api) (_ : Careful orgOf api action) (_ : step api action = some next) :
      True := trivial
  refine throughout_iff_along preserves ?_ trivial (by simp [Isolated, Reached, start])
  intro api action next _ isolated taken
  constructor
  · intro after caller v asks
    exact after caller v ((step_reached taken caller v).mpr (.inr asks))
  · intro careful caller v reached
    rcases (step_reached taken caller v).mp reached with before | asks
    · exact isolated caller v before
    · exact careful caller v asks

-- The claims of a token that auth-api issues for an API key of organisation a.
def keyClaims (role : String) : Claims := ⟨"k1", "a", role, ["*"]⟩

def twoOrgs (vehicleID : GoString) : Option String :=
  if vehicleID = [0x76, 0x31] then some "a" else if vehicleID = [0x76, 0x32] then some "b" else none

/-- A command to vehicle v2 of organisation b, a frame of it, and one of its ACKs. -/
def foreignRun : List Action :=
  [.openSend 0 (keyClaims "admin"), .receive 0 [0x0A, 2, 0x76, 0x32] [0x63] 0 none,
    .openTelemetry 1 (keyClaims "viewer") [], .telemetry 1 [0x0A, 2, 0x76, 0x32] 0 0,
    .ackMessage [0x0A, 1, 0x63, 0x12, 2, 0x76, 0x32] 0,
    .getCommand (keyClaims "viewer") (commandsPath ++ [0x63])]

theorem foreign_vehicle_reached :
    (∃ api, exec step start foreignRun = some api ∧
      (keyClaims "admin", .published (commandSubject [0x76, 0x32]) (encodeCommandEnvelope
        ⟨[0x76, 0x32], [0x63], [], 0, Utf8.encode "k1", 0, 0⟩)) ∈ api.log ∧
      (keyClaims "viewer", .frame [0x0A, 2, 0x76, 0x32]) ∈ api.log ∧
      (keyClaims "viewer", .entry ⟨[0x63], [0x76, 0x32], "pending", [], 0, 0⟩) ∈ api.log) ∧
    ¬ Throughout step (Isolated twoOrgs) start foreignRun := by
  have ran : ∃ api, exec step start foreignRun = some api ∧ api.log =
      [(keyClaims "admin", .published (commandSubject [0x76, 0x32]) (encodeCommandEnvelope
        ⟨[0x76, 0x32], [0x63], [], 0, Utf8.encode "k1", 0, 0⟩)),
      (keyClaims "viewer", .frame [0x0A, 2, 0x76, 0x32]),
      (keyClaims "viewer", .entry ⟨[0x63], [0x76, 0x32], "pending", [], 0, 0⟩)] := ⟨_, rfl, rfl⟩
  obtain ⟨api, ran, log⟩ := ran
  have shown : (keyClaims "viewer", .frame [0x0A, 2, 0x76, 0x32]) ∈ api.log := by simp [log]
  refine ⟨⟨api, ran, by simp [log], shown, by simp [log]⟩, ?_⟩
  rw [throughout_iff_prefixes]
  intro all
  have isolated := all foreignRun [] api (List.append_nil _).symm ran
  exact isolated (keyClaims "viewer") [0x76, 0x32] ⟨_, shown, 0, rfl⟩ ⟨"b", rfl, by decide⟩

end SystemScale.Cloud.CommandApi

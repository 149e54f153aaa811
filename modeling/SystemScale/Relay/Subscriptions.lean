import Mathlib.Logic.Function.Basic
import SystemScale.Lib.Runs
import SystemScale.Relay.EventFrames

set_option autoImplicit false

/-!
# An operator's subscriptions

A request names vehicles and streams; each pair becomes a task under its NATS subject, unless the
subject has one. Times are in nanoseconds.
-/

namespace SystemScale.Relay

open Runs
open Wire (Outcome)

structure WsGatewayConfig where
  maxHz : Nat

-- The interval is cut to whole milliseconds.
def minInterval (cfg : WsGatewayConfig) : Nat := 1000 / max cfg.maxHz 1 * 1000000

inductive FrameFormat where
  | binary
  | json
  deriving DecidableEq

/-- A telemetry frame in JSON is kept as the fields its text is made of. -/
inductive WsFrame where
  | binary (bytes : List UInt8)
  | json (frame : JsonFrame)
  | text (text : String)
  deriving DecidableEq

structure SubscribeRequest where
  vehicleIds : List String
  streams : Option (List String)
  format : Option String

def defaultStreams : List String := ["telemetry", "event"]

structure Entry where
  vehicleId : String
  stream : String
  format : FrameFormat

/-- The pairs of a request, in the order they are looked at. -/
def SubscribeRequest.entries (req : SubscribeRequest) : List Entry :=
  let format := if req.format = some "json" then FrameFormat.json else .binary
  req.vehicleIds.flatMap fun vehicleId =>
    (req.streams.getD defaultStreams).map fun stream => ⟨vehicleId, stream, format⟩

/-- The NATS stream, and whether events are decoded. -/
def natsStream (stream : String) : String × Bool :=
  if stream = "alert" then ("event", true)
  else if stream = "assistance" then ("event", true)
  else (stream, false)

def telemetrySubject (vehicleId stream : String) : String :=
  "telemetry." ++ vehicleId ++ "." ++ stream

def Entry.subject (entry : Entry) : String :=
  telemetrySubject entry.vehicleId (natsStream entry.stream).1

def Entry.decodes (entry : Entry) : Bool := (natsStream entry.stream).2

-- A task that panicked, or that never comes out of a decoder, leaves its key behind.
inductive TaskPhase where
  | subscribing
  | running
  | dead
  deriving DecidableEq

structure Subscription where
  vehicleId : String
  decodeAsEvent : Bool
  format : FrameFormat
  lastSent : Nat
  phase : TaskPhase

/-- `alerted` is no part of the program: the vehicles that a request listed with alerts. -/
structure Operator where
  active : String → Option Subscription
  frames : List WsFrame
  alerted : List String

inductive Operator.Action where
  | entry (entry : Entry)
  | subscribed (subject : String) (now : Nat)
  | subscribeFailed (subject : String)
  | ended (subject : String)
  | message (subject : String) (payload : List UInt8) (now : Nat)
  | sent

def trySend (frames : List WsFrame) (frame : WsFrame) : List WsFrame :=
  if frames.length < 1024 then frames ++ [frame] else frames

/-- The body of a task's loop: the task and the frame channel after a message. -/
def Subscription.receive (cfg : WsGatewayConfig) (task : Subscription) (frames : List WsFrame)
    (payload : List UInt8) (now : Nat) : Subscription × List WsFrame :=
  if task.decodeAsEvent then
    match routeEventFrame payload task.vehicleId with
    | .ok (some json) => (task, trySend frames (.text json))
    | .ok none => (task, frames)
    | _ => ({ task with phase := .dead }, frames)
  else if now - task.lastSent < minInterval cfg then (task, frames)
  else
    let task := { task with lastSent := now }
    match task.format with
    | .binary => (task, trySend frames (.binary payload))
    | .json =>
      match envelopeToJsonFrame payload with
      | .ok (some frame) => (task, trySend frames (.json frame))
      | .ok none => (task, trySend frames (.binary payload))
      | _ => ({ task with phase := .dead }, frames)

namespace Operator

def start : Operator := ⟨fun _ => none, [], []⟩

def set (state : Operator) (subject : String) (task : Option Subscription) : Operator :=
  { state with active := Function.update state.active subject task }

def note (state : Operator) (entry : Entry) : Operator :=
  if entry.decodes then { state with alerted := entry.vehicleId :: state.alerted } else state

def subscribe (state : Operator) (entry : Entry) : Operator :=
  match state.active entry.subject with
  | some _ => state.note entry
  | none =>
    (state.note entry).set entry.subject
      (some ⟨entry.vehicleId, entry.decodes, entry.format, 0, .subscribing⟩)

def step (cfg : WsGatewayConfig) (state : Operator) : Action → Option Operator
  | .entry entry => some (state.subscribe entry)
  | .subscribed subject now =>
    match state.active subject with
    | some ⟨vehicleId, decodes, format, _, .subscribing⟩ =>
      some (state.set subject (some ⟨vehicleId, decodes, format, now, .running⟩))
    | _ => none
  | .subscribeFailed subject =>
    match state.active subject with
    | some ⟨_, _, _, _, .subscribing⟩ => some (state.set subject none)
    | _ => none
  | .ended subject =>
    match state.active subject with
    | some ⟨_, _, _, _, .running⟩ => some (state.set subject none)
    | _ => none
  | .message subject payload now =>
    match state.active subject with
    | some ⟨vehicleId, decodes, format, lastSent, .running⟩ =>
      let (task, frames) := Subscription.receive cfg ⟨vehicleId, decodes, format, lastSent, .running⟩
        state.frames payload now
      some { state.set subject (some task) with frames := frames }
    | _ => none
  | .sent =>
    match state.frames with
    | _ :: rest => some { state with frames := rest }
    | [] => none

/-! ## What is promised -/

def eventSubject (vehicleId : String) : String := telemetrySubject vehicleId "event"

/-- Whatever the task takes, an alert is offered to the operator as text. -/
def HandsAlerts (cfg : WsGatewayConfig) (vehicleId : String) (task : Subscription) : Prop :=
  task.phase ≠ .dead ∧ ∀ frames payload json now,
    routeEventFrame payload vehicleId = .ok (some json) →
    (task.receive cfg frames payload now).2 = trySend frames (.text json)

def AlertsHanded (cfg : WsGatewayConfig) (state : Operator) : Prop :=
  ∀ vehicleId ∈ state.alerted, ∀ task, state.active (eventSubject vehicleId) = some task →
    HandsAlerts cfg vehicleId task

/-- Alerts are asked for where the subject has no other task, nothing else registers the subject
of a vehicle whose alerts were asked for, and no message of it makes the decoder panic or hang. -/
def Careful (state : Operator) : Action → Prop
  | .entry entry =>
    if entry.decodes then
      ∀ task, state.active entry.subject = some task →
        task.decodeAsEvent = true ∧ task.phase ≠ .dead
    else
      ∀ vehicleId ∈ state.alerted, entry.subject = eventSubject vehicleId →
        (state.active entry.subject).isSome
  | .message subject payload _ => ∀ vehicleId ∈ state.alerted, subject = eventSubject vehicleId →
      ∃ answer, routeEventFrame payload vehicleId = .ok answer
  | _ => True

/-- A task that decodes events is that of its vehicle. -/
def Owned (state : Operator) : Prop :=
  ∀ subject task, state.active subject = some task → task.decodeAsEvent = true →
    subject = eventSubject task.vehicleId

/-! ## Tasks that hand over alerts -/

theorem eventSubject_inj {first second : String} :
    eventSubject first = eventSubject second ↔ first = second := by
  constructor
  · intro same
    have texts := congrArg String.toList same
    simp only [eventSubject, telemetrySubject, String.toList_append, List.append_assoc] at texts
    exact String.toList_inj.mp
      (List.append_cancel_right (List.append_cancel_left texts))
  · exact congrArg eventSubject

-- An envelope with the payload that is an event of type 101, and nothing else.
def sampleAlert : List UInt8 := [0x22, 2, 0x08, 101]

theorem sampleAlert_routed (vehicleId : String) :
    routeEventFrame sampleAlert vehicleId = .ok (some (alertText vehicleId "info" "")) := rfl

theorem handsAlerts_iff (cfg : WsGatewayConfig) {vehicleId : String} {task : Subscription}
    (own : task.decodeAsEvent = true → task.vehicleId = vehicleId) :
    HandsAlerts cfg vehicleId task ↔ task.phase ≠ .dead ∧ task.decodeAsEvent = true := by
  refine and_congr_right fun _ => ?_
  constructor
  · intro hands
    by_contra raw
    have offered := hands [] sampleAlert _ 0 (sampleAlert_routed vehicleId)
    simp only [Subscription.receive, if_neg raw] at offered
    split at offered
    next => simp [trySend] at offered
    next =>
      split at offered
      next => simp [trySend] at offered
      next => split at offered <;> simp [trySend] at offered
  · intro decodes frames payload json now routed
    simp only [Subscription.receive, if_pos decodes, own decodes, routed]

/-- The task of every vehicle whose alerts were asked for decodes events and is alive. -/
def Decoding (state : Operator) : Prop :=
  ∀ vehicleId ∈ state.alerted, ∀ task, state.active (eventSubject vehicleId) = some task →
    task.phase ≠ .dead ∧ task.decodeAsEvent = true

theorem alertsHanded_iff (cfg : WsGatewayConfig) {state : Operator} (owned : Owned state) :
    AlertsHanded cfg state ↔ Decoding state := by
  have each (vehicleId : String) (task : Subscription)
      (held : state.active (eventSubject vehicleId) = some task) :
      HandsAlerts cfg vehicleId task ↔ task.phase ≠ .dead ∧ task.decodeAsEvent = true :=
    handsAlerts_iff cfg fun decodes => (eventSubject_inj.mp (owned _ task held decodes)).symm
  exact forall₂_congr fun vehicleId _ => forall₂_congr fun task held => each vehicleId task held

theorem active_set (state : Operator) (subject other : String) (task : Option Subscription) :
    (state.set subject task).active other = if other = subject then task else state.active other :=
  Function.update_apply state.active subject task other

theorem Owned.set {state : Operator} (owned : Owned state) {subject : String}
    {task : Option Subscription}
    (own : ∀ held, task = some held → held.decodeAsEvent = true →
      subject = eventSubject held.vehicleId) : Owned (state.set subject task) := by
  intro other held is decodes
  rw [active_set] at is
  split_ifs at is with same
  · exact same.trans (own held is decodes)
  · exact owned other held is decodes

theorem decoding_set {state : Operator} (decoding : Decoding state) (subject : String)
    (task : Option Subscription) :
    Decoding (state.set subject task) ↔
      ∀ vehicleId ∈ state.alerted, subject = eventSubject vehicleId →
        ∀ held, task = some held → held.phase ≠ .dead ∧ held.decodeAsEvent = true := by
  constructor
  · rintro after vehicleId member rfl held is
    exact after vehicleId member held (by rw [active_set, if_pos rfl, is])
  · intro changed vehicleId member held is
    rw [active_set] at is
    split_ifs at is with same
    · exact changed vehicleId member same.symm held is
    · exact decoding vehicleId member held is

theorem decoding_remove {state : Operator} (decoding : Decoding state) (subject : String) :
    Decoding (state.set subject none) :=
  (decoding_set decoding subject none).mpr fun _ _ _ _ is => by simp at is

/-! ## One step -/

theorem natsStream_decodes {stream : String} (decodes : (natsStream stream).2 = true) :
    (natsStream stream).1 = "event" := by
  unfold natsStream at decodes ⊢
  split_ifs at decodes ⊢
  · rfl
  · rfl

theorem Entry.subject_decodes {entry : Entry} (decodes : entry.decodes = true) :
    entry.subject = eventSubject entry.vehicleId :=
  congrArg (telemetrySubject entry.vehicleId) (natsStream_decodes decodes)

theorem note_active (state : Operator) (entry : Entry) :
    (state.note entry).active = state.active := by
  unfold note
  split_ifs <;> rfl

theorem Owned.note {state : Operator} (owned : Owned state) (entry : Entry) :
    Owned (state.note entry) := by
  unfold Owned
  rw [note_active]
  exact owned

theorem decoding_note {state : Operator} (decoding : Decoding state) {entry : Entry}
    (decodes : entry.decodes = true) :
    Decoding (state.note entry) ↔ ∀ task, state.active entry.subject = some task →
      task.phase ≠ .dead ∧ task.decodeAsEvent = true := by
  rw [note, if_pos decodes, Entry.subject_decodes decodes]
  constructor
  · intro after
    exact after entry.vehicleId List.mem_cons_self
  · intro listed vehicleId member
    rcases List.mem_cons.mp member with rfl | member
    · exact listed
    · exact decoding vehicleId member

theorem subscribe_owned {state : Operator} (owned : Owned state) (entry : Entry) :
    Owned (state.subscribe entry) := by
  unfold subscribe
  split
  next => exact owned.note entry
  next =>
    refine (owned.note entry).set ?_
    rintro held is decodes
    obtain rfl := Option.some.inj is
    exact Entry.subject_decodes decodes

theorem subscribe_decoding {state : Operator} (decoding : Decoding state) (entry : Entry) :
    Decoding (state.subscribe entry) ↔ Careful state (.entry entry) := by
  by_cases decodes : entry.decodes = true
  · simp only [Careful, if_pos decodes, and_comm (a := _ = true)]
    cases held : state.active entry.subject with
    | some task =>
      simp only [subscribe, held]
      rw [decoding_note decoding decodes, held]
    | none =>
      have noted : Decoding (state.note entry) :=
        (decoding_note decoding decodes).mpr fun task is => by simp [held] at is
      simp only [subscribe, held]
      rw [decoding_set noted]
      constructor
      · intro _ task is
        simp at is
      · rintro _ vehicleId _ _ task is
        obtain rfl := Option.some.inj is
        exact ⟨by simp, decodes⟩
  · have unnoted : state.note entry = state := by rw [note, if_neg decodes]
    simp only [Careful, if_neg decodes]
    cases held : state.active entry.subject with
    | some task =>
      simp only [subscribe, held, unnoted]
      exact ⟨fun _ _ _ _ => rfl, fun _ => decoding⟩
    | none =>
      simp only [subscribe, held, unnoted]
      rw [decoding_set decoding]
      refine forall₂_congr fun vehicleId _ => imp_congr_right fun _ => ?_
      constructor
      · intro changed
        exact absurd (changed _ rfl).2 decodes
      · intro missing
        simp at missing

theorem receive_keeps (cfg : WsGatewayConfig) (task : Subscription) (frames : List WsFrame)
    (payload : List UInt8) (now : Nat) :
    (task.receive cfg frames payload now).1.vehicleId = task.vehicleId ∧
      (task.receive cfg frames payload now).1.decodeAsEvent = task.decodeAsEvent := by
  simp only [Subscription.receive]
  constructor
  · repeat' split
    all_goals rfl
  · repeat' split
    all_goals rfl

theorem receive_alive (cfg : WsGatewayConfig) {task : Subscription} (frames : List WsFrame)
    (payload : List UInt8) (now : Nat) (alive : task.phase ≠ .dead)
    (decodes : task.decodeAsEvent = true) :
    (task.receive cfg frames payload now).1.phase ≠ .dead ↔
      ∃ answer, routeEventFrame payload task.vehicleId = .ok answer := by
  simp only [Subscription.receive, if_pos decodes]
  cases routed : routeEventFrame payload task.vehicleId with
  | ok answer => cases answer <;> simp [alive]
  | err message => simp
  | panic => simp
  | hang => simp

-- What a step does to the tasks: a request, or another state of the task of one subject.
theorem step_cases {cfg : WsGatewayConfig} {state next : Operator} {action : Action}
    (taken : step cfg state action = some next) :
    (∃ entry, action = .entry entry ∧ next = state.subscribe entry) ∨
    (∃ frames, (∀ subject payload now, action ≠ .message subject payload now) ∧
      (∀ entry, action ≠ .entry entry) ∧ next = { state with frames := frames }) ∨
    (∃ subject, (∀ subject payload now, action ≠ .message subject payload now) ∧
      (∀ entry, action ≠ .entry entry) ∧ next = state.set subject none) ∨
    (∃ subject task now, state.active subject = some task ∧ action = .subscribed subject now ∧
      next = state.set subject (some { task with lastSent := now, phase := .running })) ∨
    ∃ subject payload now task, state.active subject = some task ∧ task.phase = .running ∧
      action = .message subject payload now ∧
      next = { state.set subject (some (task.receive cfg state.frames payload now).1) with
        frames := (task.receive cfg state.frames payload now).2 } := by
  cases action with
  | entry entry => exact .inl ⟨entry, rfl, (Option.some.inj taken).symm⟩
  | subscribed subject now =>
    simp only [step] at taken
    split at taken
    next vehicleId decodes format lastSent held =>
      exact .inr (.inr (.inr (.inl ⟨subject, _, now, held, rfl, (Option.some.inj taken).symm⟩)))
    next => simp at taken
  | subscribeFailed subject =>
    simp only [step] at taken
    split at taken
    next => exact .inr (.inr (.inl ⟨subject, by simp, by simp, (Option.some.inj taken).symm⟩))
    next => simp at taken
  | ended subject =>
    simp only [step] at taken
    split at taken
    next => exact .inr (.inr (.inl ⟨subject, by simp, by simp, (Option.some.inj taken).symm⟩))
    next => simp at taken
  | message subject payload now =>
    simp only [step] at taken
    split at taken
    next vehicleId decodes format lastSent held =>
      exact .inr (.inr (.inr (.inr
        ⟨subject, payload, now, _, held, rfl, rfl, (Option.some.inj taken).symm⟩)))
    next => simp at taken
  | sent =>
    simp only [step] at taken
    split at taken
    next rest _ => exact .inr (.inl ⟨rest, by simp, by simp, (Option.some.inj taken).symm⟩)
    next => simp at taken

theorem step_owned {cfg : WsGatewayConfig} {state next : Operator} {action : Action}
    (owned : Owned state) (taken : step cfg state action = some next) : Owned next := by
  rcases step_cases taken with ⟨entry, _, rfl⟩ | ⟨frames, _, _, rfl⟩ | ⟨subject, _, _, rfl⟩ |
    ⟨subject, task, now, held, _, rfl⟩ | ⟨subject, payload, now, task, held, _, _, rfl⟩
  · exact subscribe_owned owned entry
  · exact owned
  · exact owned.set fun task is => by simp at is
  · refine owned.set ?_
    rintro other is decodes
    obtain rfl := Option.some.inj is
    exact owned subject task held decodes
  · have kept := receive_keeps cfg task state.frames payload now
    have own : Owned (state.set subject (some (task.receive cfg state.frames payload now).1)) := by
      refine owned.set ?_
      rintro other is decodes
      obtain rfl := Option.some.inj is
      rw [kept.1]
      exact owned subject task held (kept.2 ▸ decodes)
    exact own

theorem careful_quiet {state : Operator} {action : Action}
    (no_message : ∀ subject payload now, action ≠ .message subject payload now)
    (no_entry : ∀ entry, action ≠ .entry entry) : Careful state action := by
  cases action with
  | entry entry => exact absurd rfl (no_entry entry)
  | message subject payload now => exact absurd rfl (no_message subject payload now)
  | subscribed subject now => trivial
  | subscribeFailed subject => trivial
  | ended subject => trivial
  | sent => trivial

theorem step_decoding {cfg : WsGatewayConfig} {state next : Operator} {action : Action}
    (owned : Owned state) (decoding : Decoding state)
    (taken : step cfg state action = some next) : Decoding next ↔ Careful state action := by
  rcases step_cases taken with ⟨entry, rfl, rfl⟩ | ⟨frames, messageless, entryless, rfl⟩ |
    ⟨subject, messageless, entryless, rfl⟩ | ⟨subject, task, now, held, rfl, rfl⟩ |
    ⟨subject, payload, now, task, held, running, rfl, rfl⟩
  · exact subscribe_decoding decoding entry
  · exact iff_of_true decoding (careful_quiet messageless entryless)
  · exact iff_of_true (decoding_remove decoding subject) (careful_quiet messageless entryless)
  · refine iff_of_true ((decoding_set decoding subject _).mpr ?_) trivial
    rintro vehicleId member rfl other is
    obtain rfl := Option.some.inj is
    exact ⟨by simp, (decoding vehicleId member task held).2⟩
  · refine (decoding_set decoding subject _).trans ?_
    refine forall₂_congr fun vehicleId member => forall_congr' ?_
    rintro rfl
    have decodes := (decoding vehicleId member task held).2
    have kept := receive_keeps cfg task state.frames payload now
    have own : task.vehicleId = vehicleId := (eventSubject_inj.mp (owned _ task held decodes)).symm
    have alive := receive_alive cfg state.frames payload now (by simp [running]) decodes
    rw [own] at alive
    rw [← alive]
    constructor
    · intro changed
      exact (changed _ rfl).1
    · rintro live other is
      obtain rfl := Option.some.inj is
      exact ⟨live, kept.2.trans decodes⟩

theorem runs_hand_alerts_iff (cfg : WsGatewayConfig) (actions : List Action) :
    Throughout (step cfg) (AlertsHanded cfg) start actions ↔
      Along (step cfg) Careful start actions := by
  have keeps : ∀ state action next, Owned state → AlertsHanded cfg state → Careful state action →
      step cfg state action = some next → Owned next :=
    fun _ _ _ owned _ _ taken => step_owned owned taken
  have exact_step : ∀ state action next, Owned state → AlertsHanded cfg state →
      step cfg state action = some next → (AlertsHanded cfg next ↔ Careful state action) := by
    intro state action next owned handed taken
    rw [alertsHanded_iff cfg (step_owned owned taken)]
    exact step_decoding owned ((alertsHanded_iff cfg owned).mp handed) taken
  have unowned : Owned start := by
    intro subject task is
    simp [start] at is
  have unasked : AlertsHanded cfg start := by
    intro vehicleId member
    simp [start] at member
  exact throughout_iff_along keeps exact_step unowned unasked

/-- What the dashboard sends for its vehicles. -/
def dashboardRequest (vehicleIds : List String) : SubscribeRequest :=
  ⟨vehicleIds, some ["telemetry", "event", "alert", "assistance"], some "json"⟩

-- "event" comes first and takes the subject.
theorem dashboard_alerts_lost :
    ¬ Throughout (step ⟨50⟩) (AlertsHanded ⟨50⟩) start
      ((dashboardRequest ["v1"]).entries.map .entry) := by
  intro all
  have reached := throughout_iff_prefixes.mp all ((dashboardRequest ["v1"]).entries.map .entry) []
    _ (List.append_nil _).symm rfl
  have hands := reached "v1" List.mem_cons_self ⟨"v1", false, .json, 0, .subscribing⟩ rfl
  have offered := hands.2 [] sampleAlert _ 1000000000 (sampleAlert_routed "v1")
  exact absurd offered (by decide)

end Operator

end SystemScale.Relay

import SystemScale.Cloud.IngestCounts
import SystemScale.Contract.StoredEnvelopes
import SystemScale.Contract.TelemetryPath

set_option autoImplicit false

/-!
# Telemetry from the vehicles to the rows

The telemetry of all vehicles runs into one stream of the router, which delivers it to
telemetry-ingest.
-/

namespace SystemScale.Contract

open AdapterTrait Agent Cloud Relay Runs

variable {V : Type}

/-- The last two are no part of the programs: what was delivered, and with which deliveries the
acknowledgment did not come back. -/
structure TelemetrySystem (geometry : V → Geometry) where
  vehicles : ∀ vehicle, TelemetryPath (geometry vehicle)
  -- The messages of the stream, each with the vehicle that it came from.
  log : List (V × Relay.Message)
  ingest : Ingest
  delivered : List IngestMessage
  unacked : List IngestMessage

inductive TelemetrySystem.Action (V : Type) where
  | vehicle (vehicle : V) (action : TelemetryPath.Action)
  | deliver (place : Nat) (acked : Bool)
  | ingest (action : Ingest.Action)

/-- `MaxDeliver` of the durable consumer. -/
def consumerMaxDeliver : Nat := 5

def asDelivered (place : Nat) (message : Relay.Message) : IngestMessage :=
  ⟨place + 1, message.subject, message.data⟩

namespace TelemetrySystem

variable {geometry : V → Geometry}

def start (rings : ∀ vehicle, Ring (geometry vehicle)) : TelemetrySystem geometry :=
  ⟨fun vehicle => .start (rings vehicle), [], .start, [], []⟩

section System

variable [DecidableEq V] (names : V → String) (workers batchSize : Nat)

/-- Any message of the stream may be delivered again, until it is acknowledged. -/
def step (state : TelemetrySystem geometry) : Action V → Option (TelemetrySystem geometry)
  | .vehicle vehicle action =>
    ((state.vehicles vehicle).step (names vehicle) action).map fun path => { state with
      vehicles := Function.update state.vehicles vehicle path
      log := state.log ++
        ((state.vehicles vehicle).arrival action).map fun message => (vehicle, message) }
  | .deliver place acked =>
    state.log[place]?.bind fun entry =>
      let message := asDelivered place entry.2
      if message ∈ state.ingest.acked ∨ consumerMaxDeliver ≤ state.delivered.count message then none
      else
        (state.ingest.step workers batchSize (.fetch message acked)).map fun ingest => { state with
          ingest
          delivered := state.delivered ++ [message]
          unacked := if acked then state.unacked else state.unacked ++ [message] }
  | .ingest (.fetch _ _) => none
  | .ingest action =>
    (state.ingest.step workers batchSize action).map fun ingest => { state with ingest }

/-- What a vehicle pushes by an action. -/
def Action.pushes (vehicle : V) : Action V → List DataEnvelope
  | .vehicle other action => if other = vehicle then action.pushes else []
  | _ => []

/-! ## What is kept -/

/-- The messages of a vehicle in the stream. -/
def arrived (state : TelemetrySystem geometry) (vehicle : V) : List Relay.Message :=
  (state.log.filter fun entry => entry.1 = vehicle).map Prod.snd

structure Sound (pushes : V → List DataEnvelope) (state : TelemetrySystem geometry) : Prop where
  carried : ∀ vehicle, (state.vehicles vehicle).Carried (names vehicle) (pushes vehicle)
  arrived : ∀ vehicle, (state.arrived vehicle).Perm
    ((state.vehicles vehicle).streams.flatMap fun stream => stream.logged)
  tallied : Ingest.Tallied workers state.delivered state.ingest
  delivered : ∀ message ∈ state.delivered, ∃ place entry,
    state.log[place]? = some entry ∧ message = asDelivered place entry.2
  acked : ∀ message, state.delivered.count message ≤
    state.unacked.count message + if message ∈ state.ingest.acked then 1 else 0
  limited : ∀ message, state.delivered.count message ≤ consumerMaxDeliver

end System

section Steps

variable [DecidableEq V] {names : V → String} {workers batchSize : Nat}
  {pushes : V → List DataEnvelope} {state next : TelemetrySystem geometry}

theorem Sound.start {rings : ∀ vehicle, Ring (geometry vehicle)}
    (fresh : ∀ vehicle, (rings vehicle).head = 0 ∧ (rings vehicle).tail = 0) :
    Sound names workers (fun _ => []) (start rings) where
  carried vehicle := TelemetryPath.Carried.start (fresh vehicle).1 (fresh vehicle).2
  arrived _ := List.Perm.refl _
  tallied := Ingest.Tallied.start
  delivered _ member := nomatch member
  acked _ := Nat.zero_le _
  limited _ := Nat.zero_le _

-- One vehicle moves, and what arrives of it goes behind the log.
theorem Sound.vehicle (sound : Sound names workers pushes state) {vehicle : V}
    {action : TelemetryPath.Action}
    (taken : state.step names workers batchSize (.vehicle vehicle action) = some next) :
    Sound names workers
      (fun other => pushes other ++ (Action.vehicle vehicle action).pushes other) next := by
  obtain ⟨path, moved, rfl⟩ := Option.map_eq_some_iff.mp taken
  refine ⟨fun other => ?_, fun other => ?_, sound.tallied, fun message member => ?_, sound.acked,
    sound.limited⟩
  · by_cases same : vehicle = other
    · subst same
      simp only [Function.update_self, Action.pushes, if_true]
      exact (sound.carried vehicle).step moved
    · simp only [Function.update_of_ne (Ne.symm same), Action.pushes, if_neg same, List.append_nil]
      exact sound.carried other
  · have before := sound.arrived other
    rw [TelemetrySystem.arrived] at before ⊢
    by_cases same : vehicle = other
    · subst same
      simp only [Function.update_self, List.filter_append, List.map_append]
      refine List.Perm.trans ?_ (TelemetryPath.step_logged moved).symm
      refine before.append (List.Perm.of_eq ?_)
      simp [List.filter_map, Function.comp_def]
    · have none_new : (((state.vehicles vehicle).arrival action).map fun message =>
          (vehicle, message)).filter (fun entry => entry.1 = other) = [] := by
        simp [List.filter_map, Function.comp_def, same]
      simp only [Function.update_of_ne (Ne.symm same), List.filter_append, none_new,
        List.append_nil]
      exact before
  · obtain ⟨place, entry, is, rfl⟩ := sound.delivered message member
    exact ⟨place, entry, List.getElem?_append_left (List.getElem?_eq_some_iff.mp is).1 ▸ is, rfl⟩

theorem count_other {A : Type} [DecidableEq A] {items : List A} {item other : A}
    (differs : other ≠ item) : (items ++ [item]).count other = items.count other := by
  have absent : [item].count other = 0 :=
    List.count_eq_zero.mpr fun member => differs (List.mem_singleton.mp member)
  rw [List.count_append, absent, Nat.add_zero]

theorem Sound.deliver (sound : Sound names workers pushes state) {place : Nat} {acked : Bool}
    (taken : state.step names workers batchSize (.deliver place acked) = some next) :
    Sound names workers pushes next := by
  obtain ⟨entry, found, taken⟩ := Option.bind_eq_some_iff.mp taken
  obtain ⟨settled, taken⟩ := Option.ite_none_left_eq_some.mp taken
  obtain ⟨ingest, fetched, rfl⟩ := Option.map_eq_some_iff.mp taken
  obtain ⟨unsettled, few⟩ := not_or.mp settled
  have acks := Ingest.step_acked fetched
  refine ⟨sound.carried, sound.arrived, sound.tallied.step fetched, ?_, fun message => ?_,
    fun message => ?_⟩
  · intro message member
    rcases List.mem_append.mp member with earlier | last
    · exact sound.delivered message earlier
    · exact ⟨place, entry, found, List.mem_singleton.mp last⟩
  · have before := sound.acked message
    show (state.delivered ++ [asDelivered place entry.2]).count message ≤
      (if acked then state.unacked else state.unacked ++ [asDelivered place entry.2]).count message +
        if message ∈ ingest.acked then 1 else 0
    rw [acks]
    by_cases same : message = asDelivered place entry.2
    -- This delivery is paid for by the acknowledgment that comes back, or by its loss.
    · subst same
      rw [if_neg unsettled] at before
      rw [List.count_append]
      cases acked
      · simp only [Ingest.Action.acks, List.nil_append, Bool.false_eq_true, if_false,
          List.count_append]
        omega
      · simp [Ingest.Action.acks]
        omega
    · have still : message ∈ (Ingest.Action.fetch (asDelivered place entry.2) acked).acks ++
          state.ingest.acked ↔ message ∈ state.ingest.acked := by
        cases acked <;> simp [Ingest.Action.acks, same]
      simp only [still, count_other same]
      cases acked
      · simp only [Bool.false_eq_true, if_false, count_other same]
        exact before
      · exact before
  · have before := sound.limited message
    show (state.delivered ++ [asDelivered place entry.2]).count message ≤ consumerMaxDeliver
    by_cases same : message = asDelivered place entry.2
    · subst same
      rw [List.count_append, List.count_singleton_self]
      omega
    · rw [count_other same]
      exact before

theorem Sound.ingest (sound : Sound names workers pushes state) {action : Ingest.Action}
    (taken : state.step names workers batchSize (.ingest action) = some next) :
    Sound names workers pushes next := by
  obtain ⟨none_new, none_acked, ingest, moved, rfl⟩ : action.deliveries = [] ∧ action.acks = [] ∧
      ∃ ingest, state.ingest.step workers batchSize action = some ingest ∧
        next = { state with ingest } := by
    cases action with
    | fetch message acked => cases taken
    | _ =>
      obtain ⟨ingest, moved, rfl⟩ := Option.map_eq_some_iff.mp taken
      exact ⟨rfl, rfl, ingest, moved, rfl⟩
  have tallied := sound.tallied.step moved
  have acks := Ingest.step_acked moved
  rw [none_new, List.append_nil] at tallied
  rw [none_acked, List.nil_append] at acks
  exact ⟨sound.carried, sound.arrived, tallied, sound.delivered, acks ▸ sound.acked, sound.limited⟩

theorem Sound.step (sound : Sound names workers pushes state) {action : Action V}
    (taken : state.step names workers batchSize action = some next) :
    Sound names workers (fun vehicle => pushes vehicle ++ action.pushes vehicle) next := by
  cases action with
  | vehicle vehicle action => exact sound.vehicle taken
  | deliver place acked =>
    have kept := sound.deliver taken
    simpa only [Action.pushes, List.append_nil] using kept
  | ingest action =>
    have kept := sound.ingest taken
    simpa only [Action.pushes, List.append_nil] using kept

end Steps

/-! ## Whole runs -/

/-- The row of an envelope that fits its slot has what was pushed, and that of another the fields in
front of the cut. -/
def ReadsAs (slots : Geometry) (env : DataEnvelope) (decoded : Envelope) : Prop :=
  if (encodeEnvelopeToBuf env).length ≤ slots.maxPayload then ReadBack env decoded
  else ∃ count, decoded = Envelope.ofFields ((envelopeFields env).take count)

/-- What ends up in the rows. -/
structure Delivered [DecidableEq V] (names : V → String) (pushes : V → List DataEnvelope)
    (state : TelemetrySystem geometry) : Prop where
  -- A row is an envelope that a vehicle pushed, under the name of that vehicle's certificate.
  rows : ∀ message ∈ state.ingest.written, ∃ vehicle, ∃ env ∈ pushes vehicle,
    message.data = stored (geometry vehicle) env ∧
      handleTelemetryFrame (names vehicle) message.data = .ok ⟨message.subject, message.data⟩ ∧
      ∃ decoded, decodeDataEnvelope message.data = .ok decoded ∧
        ReadsAs (geometry vehicle) env decoded
  -- It is written once, and once more for each acknowledgment that was lost, up to five times.
  once : ∀ message, state.ingest.written.count message ≤ state.unacked.count message + 1 ∧
    state.ingest.written.count message ≤ consumerMaxDeliver
  -- The stream has each message that arrived of a vehicle in one place.
  arrived : ∀ vehicle, (state.arrived vehicle).Perm
    ((state.vehicles vehicle).streams.flatMap fun stream => stream.logged)

section Runs

variable [DecidableEq V] {names : V → String} {workers batchSize : Nat}
  {pushes : V → List DataEnvelope} {state : TelemetrySystem geometry}

-- What the stream has of a vehicle is the payload of an envelope that was pushed.
theorem Sound.logged (sound : Sound names workers pushes state) {place : Nat}
    {entry : V × Relay.Message} (found : state.log[place]? = some entry) :
    ∃ env ∈ pushes entry.1, entry.2.data = stored (geometry entry.1) env ∧
      handleTelemetryFrame (names entry.1) entry.2.data = .ok entry.2 := by
  obtain ⟨vehicle, message⟩ := entry
  have inside : message ∈ state.arrived vehicle :=
    List.mem_map.mpr ⟨(vehicle, message),
      List.mem_filter.mpr ⟨List.mem_of_getElem? found, by simp⟩, rfl⟩
  obtain ⟨stream, member, logged⟩ :=
    List.mem_flatMap.mp ((sound.arrived vehicle).mem_iff.mp inside)
  have delivered := (sound.carried vehicle).delivered
  have published := (delivered.logged stream member).subset logged
  obtain ⟨sent, is_sent, same⟩ := List.mem_map.mp
    ((delivered.published stream member).subset (List.mem_map_of_mem published))
  have returned : sent ∈ (state.vehicles vehicle).agent.replay.returned := by
    rw [delivered.taken]
    exact List.mem_flatMap.mpr ⟨stream, List.mem_reverse.mpr member, List.mem_append_left _ is_sent⟩
  have pushed := delivered.genuine sent returned
  rw [List.getElem?_map] at pushed
  obtain ⟨env, is, bytes⟩ := Option.map_eq_some_iff.mp pushed
  exact ⟨env, List.mem_of_getElem? is, (bytes.trans same).symm,
    delivered.named stream member message published⟩

theorem reads_as {slots : Geometry} {env : DataEnvelope} {decoded : Envelope}
    (decodes : decodeDataEnvelope (stored slots env) = .ok decoded) : ReadsAs slots env decoded := by
  have reads := stored_reads slots env
  unfold StoredReads at reads
  unfold ReadsAs
  split_ifs at reads ⊢ with fits
  · obtain ⟨-, other, is, back⟩ := reads
    obtain rfl := Wire.Outcome.ok.inj (is.symm.trans decodes)
    exact back
  · rcases reads with ⟨count, -, is⟩ | ⟨-, message, refused⟩
    · exact ⟨count, (Wire.Outcome.ok.inj (is.symm.trans decodes)).symm⟩
    · rw [refused] at decodes
      cases decodes

theorem Sound.delivers (sound : Sound names workers pushes state) :
    Delivered names pushes state where
  rows message written := by
    have count := sound.tallied.count_written message
    have positive := List.count_pos_iff.mpr written
    have member : message ∈ state.delivered := List.count_pos_iff.mp (by omega)
    obtain ⟨place, entry, found, rfl⟩ := sound.delivered message member
    obtain ⟨env, pushed, bytes, named⟩ := sound.logged found
    obtain ⟨decoded, decodes⟩ := sound.tallied.written _ written
    refine ⟨entry.1, env, pushed, bytes, named, decoded, decodes, reads_as ?_⟩
    rw [← bytes]
    exact decodes
  once message := by
    have written := sound.tallied.count_written message
    have acked := sound.acked message
    have limited := sound.limited message
    constructor
    · split_ifs at acked <;> omega
    · omega
  arrived := sound.arrived

/-- The first acknowledgment is lost, so that the row is written twice. -/
def lostAcknowledgment : List (Action Unit) :=
  [.vehicle () (.agent .connect), .vehicle () (.agent (.push (sample 0))),
    .vehicle () (.agent .pop), .vehicle () (.agent (.write 17)),
    .vehicle () (.relay 0 (.arrive 17)), .vehicle () (.relay 0 .read),
    .vehicle () (.pass 0 true), .deliver 0 false, .ingest .enqueue, .ingest (.take 0),
    .ingest (.decode 0), .ingest (.tick 0), .ingest (.write 0 true), .deliver 0 true,
    .ingest .enqueue, .ingest (.take 0), .ingest (.decode 0), .ingest (.tick 0),
    .ingest (.write 0 true)]

end Runs

end TelemetrySystem

end SystemScale.Contract

import Mathlib.Data.List.Infix
import SystemScale.Agent.Transport
import SystemScale.Lib.Pipe
import SystemScale.Relay.Telemetry

set_option autoImplicit false

/-!
# Telemetry from the ring to the router

`send_telemetry_loop` of the agent and `handle_telemetry_stream` of the relay, over all connections
that come and go. A handler may still be at an ended connection's stream when the next one is read.
-/

namespace SystemScale.Contract

open AdapterTrait Agent Relay Runs

/-- The telemetry stream of one connection. -/
structure TelemetryStream where
  pipe : Pipe (Nat × List UInt8) Relay.Message
  -- How many of the published messages are on their way no more, and those that have arrived.
  passed : Nat
  logged : List Relay.Message

/-- The newest stream comes first. -/
structure TelemetryPath (geometry : Geometry) where
  agent : Transport geometry
  streams : List TelemetryStream

inductive TelemetryPath.Action where
  | agent (action : Transport.Action)
  | relay (stream : Nat) (action : Pipe.Action)
  -- A message that was published reaches the router, or is lost before.
  | pass (stream : Nat) (arrives : Bool)

def TelemetryStream.fresh : TelemetryStream := ⟨.fresh, 0, []⟩

def TelemetryStream.published (stream : TelemetryStream) : List Relay.Message :=
  stream.pipe.handled.map Prod.snd

def TelemetryStream.pass (stream : TelemetryStream) (arrives : Bool) : Option TelemetryStream :=
  stream.published[stream.passed]?.map fun message => { stream with
    passed := stream.passed + 1
    logged := if arrives then stream.logged ++ [message] else stream.logged }

/-- The agent is at its end of the newest stream. -/
def relink
    (write : Handover.Link (Nat × List UInt8) → Option (Handover.Link (Nat × List UInt8))) :
    List TelemetryStream → Option (List TelemetryStream)
  | [] => none
  | stream :: older => (write stream.pipe.link).map fun link =>
      { stream with pipe := { stream.pipe with link } } :: older

/-- What a step of the agent's loop does to the streams. -/
def follow (before after : List (Nat × List UInt8)) (streams : List TelemetryStream) :
    Transport.Action → Option (List TelemetryStream)
  | .connect => some (.fresh :: streams)
  | .pop | .resume =>
    match (after.drop before.length).head? with
    | some entry => relink (fun link => link.begin Prod.snd entry) streams
    | none => some streams
  | .write count => relink (fun link => link.write count) streams
  | _ => some streams

namespace TelemetryPath

variable {geometry : Geometry}

def start (ring : Ring geometry) : TelemetryPath geometry := ⟨.start ring, []⟩

def agentStep (state : TelemetryPath geometry) (action : Transport.Action) :
    Option (TelemetryPath geometry) :=
  (state.agent.step action).bind fun agent =>
    (follow state.agent.replay.returned agent.replay.returned state.streams action).map
      fun streams => { agent, streams }

def onStream (state : TelemetryPath geometry) (index : Nat)
    (act : TelemetryStream → Option TelemetryStream) : Option (TelemetryPath geometry) :=
  (state.streams[index]?.bind act).map fun stream =>
    { state with streams := state.streams.set index stream }

section System

variable (vehicleId : String)

def step (state : TelemetryPath geometry) : Action → Option (TelemetryPath geometry)
  | .agent action => state.agentStep action
  | .relay index action => state.onStream index fun stream =>
      (stream.pipe.step (handleTelemetryStream vehicleId) action).map fun pipe =>
        { stream with pipe }
  | .pass index arrives => state.onStream index fun stream => stream.pass arrives

end System

/-- The envelopes that are pushed by an action. -/
def Action.pushes : Action → List DataEnvelope
  | .agent (.push env) => [env]
  | _ => []

/-- The message that arrives at the router by an action. -/
def arrival (state : TelemetryPath geometry) : Action → List Relay.Message
  | .pass index true =>
    ((state.streams[index]?.bind fun stream => stream.published[stream.passed]?)).toList
  | _ => []

/-! ## What the agent does to its streams -/

/-- The newest stream holds what the connected loop is writing. -/
def Followed (state : TelemetryPath geometry) : Prop :=
  if state.agent.connected then
    ∃ stream older, state.streams = stream :: older ∧
      state.agent.writing = stream.pipe.link.writing.map fun (entry, rest) => (entry.1, rest)
  else state.agent.writing = none

/-- The ring keeps what was pushed, and the pops have returned nothing else. -/
structure Genuine (pushes : List DataEnvelope) (replay : Replay geometry) : Prop where
  bounded : replay.Bounded
  recorded : Recorded replay.ring replay.pushed
  pushed : replay.pushed = pushes.map (stored geometry)
  returned : ∀ entry ∈ replay.returned, replay.pushed[entry.1]? = some entry.2

/-- What has become of the envelopes that were pushed. -/
structure Carried (vehicleId : String) (pushes : List DataEnvelope)
    (state : TelemetryPath geometry) : Prop where
  genuine : Genuine pushes state.agent.replay
  followed : state.Followed
  -- Each pop was taken for one connection, in the order of the pops.
  taken : state.agent.replay.returned =
    state.streams.reverse.flatMap fun stream => stream.pipe.link.taken
  good : ∀ stream ∈ state.streams, stream.pipe.Good Prod.snd (handleTelemetryStream vehicleId)
  logged : ∀ stream ∈ state.streams,
    stream.logged.Sublist (stream.published.take stream.passed)

section Ring

variable {pushes : List DataEnvelope} {replay next : Replay geometry}

theorem Genuine.push (genuine : Genuine pushes replay) (env : DataEnvelope) :
    Genuine (pushes ++ [env]) (replay.pushing env) where
  bounded := genuine.bounded.push env
  recorded := genuine.recorded.push env
  pushed := by
    rw [Replay.pushing, List.map_append, ← genuine.pushed]
    rfl
  returned entry member := by
    have is := genuine.returned entry member
    rw [Replay.pushing, List.getElem?_append_left (List.getElem?_eq_some_iff.mp is).1]
    exact is

theorem Genuine.quiet (genuine : Genuine pushes replay) (quiet : Replay.Quiet replay next) :
    Genuine pushes next where
  bounded := genuine.bounded.quiet quiet
  recorded := by
    rw [quiet.pushed]
    exact genuine.recorded.of_same quiet.mmap quiet.head
  pushed := quiet.pushed.trans genuine.pushed
  returned := by
    rw [quiet.returned, quiet.pushed]
    exact genuine.returned

theorem Genuine.finish (genuine : Genuine pushes replay) {tail : Nat}
    (loaded : tail ≤ replay.ring.tail) (nonempty : replay.ring.tail < replay.ring.head) :
    ∃ entry, (replay.finish tail).returned = replay.returned ++ [entry] ∧
      Genuine pushes (replay.finish tail) := by
  have bounded := genuine.bounded.finish nonempty tail
  obtain ⟨bytes, is, finished⟩ :=
    Replay.finish_recorded genuine.recorded (Nat.lt_of_le_of_lt loaded nonempty)
  refine ⟨_, by rw [finished], bounded, ?_, ?_, ?_⟩
  · rw [finished]
    exact genuine.recorded.of_same rfl rfl
  · rw [finished]
    exact genuine.pushed
  · rw [finished]
    intro entry member
    rcases List.mem_append.mp member with earlier | last
    · exact genuine.returned entry earlier
    · obtain rfl := List.mem_singleton.mp last
      exact is

end Ring

section Agent

variable {state next : Transport geometry} {action : Transport.Action}

/-- A pop that is begun or goes on. -/
def Pops (action : Transport.Action) (inner : Replay.Action) : Prop :=
  (action = .pop ∧ inner = .pop) ∨ (action = .resume ∧ inner = .resume)

/-- All that a step of the transport loop can do. -/
theorem transport_cases (taken : state.step action = some next) :
    (∃ env, action = .push env ∧ next = { state with replay := state.replay.pushing env }) ∨
    (∃ replay, action = .connect ∧ state.connected = false ∧ Replay.Quiet state.replay replay ∧
      next = { state with replay, connected := true }) ∨
    (∃ inner, Pops action inner ∧ (state.connected = true ∧ state.writing = none) ∧
      ((∃ tail, state.replay.Finishes tail inner ∧
          next = state.receive (state.replay.finish tail)) ∨
        ∃ replay, Replay.Quiet state.replay replay ∧ next = state.receive replay)) ∨
    (∃ count index rest, action = .write count ∧ state.writing = some (index, rest) ∧
      ((0 < count ∧ count < rest.length ∧
          next = { state with writing := some (index, rest.drop count) }) ∨
        (¬ (0 < count ∧ count < rest.length) ∧ count = rest.length ∧
          next = { state with writing := none, written := state.written ++ [index] }))) ∨
    ((action = .writeFails ∨ action = .disconnect) ∧ next = state.dropped) := by
  have popped {inner : Replay.Action} (pops : Pops action inner)
      (taken : (state.replay.step inner).map state.receive = some next) :
      (∃ tail, state.replay.Finishes tail inner ∧
          next = state.receive (state.replay.finish tail)) ∨
        ∃ replay, Replay.Quiet state.replay replay ∧ next = state.receive replay := by
    obtain ⟨replay, moved, rfl⟩ := Option.map_eq_some_iff.mp taken
    rcases Replay.step_cases moved with ⟨env, pushes, -⟩ | ⟨tail, finishes, rfl⟩ | ⟨quiet, -⟩
    · rcases pops with ⟨-, rfl⟩ | ⟨-, rfl⟩ <;> cases pushes
    · exact .inl ⟨tail, finishes, rfl⟩
    · exact .inr ⟨replay, quiet, rfl⟩
  cases action with
  | push env => exact .inl ⟨env, rfl, (Option.some.inj taken).symm⟩
  | connect =>
    simp only [Transport.step] at taken
    split_ifs at taken with connected
    obtain ⟨replay, moved, rfl⟩ := Option.map_eq_some_iff.mp taken
    rcases Replay.step_cases moved with ⟨env, pushes, -⟩ | ⟨tail, finishes, -⟩ | ⟨quiet, -⟩
    · cases pushes
    · exact finishes.elim
    · exact .inr (.inl ⟨replay, rfl, Bool.eq_false_iff.mpr connected, quiet, rfl⟩)
  | pop =>
    simp only [Transport.step] at taken
    split_ifs at taken with ready
    have pops : Pops .pop .pop := .inl ⟨rfl, rfl⟩
    exact .inr (.inr (.inl ⟨.pop, pops, ready, popped pops taken⟩))
  | resume =>
    simp only [Transport.step] at taken
    split_ifs at taken with ready
    have pops : Pops .resume .resume := .inr ⟨rfl, rfl⟩
    exact .inr (.inr (.inl ⟨.resume, pops, ready, popped pops taken⟩))
  | write count =>
    simp only [Transport.step] at taken
    split at taken
    · cases taken
    · next index rest writing =>
      refine .inr (.inr (.inr (.inl ⟨count, index, rest, rfl, writing, ?_⟩)))
      split_ifs at taken with inside whole
      · exact .inl ⟨inside.1, inside.2, (Option.some.inj taken).symm⟩
      · exact .inr ⟨inside, whole, (Option.some.inj taken).symm⟩
  | writeFails =>
    simp only [Transport.step] at taken
    split_ifs at taken
    exact .inr (.inr (.inr (.inr ⟨.inl rfl, (Option.some.inj taken).symm⟩)))
  | disconnect =>
    simp only [Transport.step] at taken
    split_ifs at taken
    exact .inr (.inr (.inr (.inr ⟨.inr rfl, (Option.some.inj taken).symm⟩)))

end Agent

section Steps

variable {vehicleId : String} {pushes : List DataEnvelope} {state next : TelemetryPath geometry}

theorem Carried.start {ring : Ring geometry} (head : ring.head = 0) (tail : ring.tail = 0) :
    Carried vehicleId [] (start ring) := by
  obtain ⟨sound, faithful⟩ := Replay.start_faithful head tail
  exact ⟨⟨sound.toBounded, sound.recorded, rfl, nofun⟩, rfl, rfl, nofun, nofun⟩

-- The streams are as they were.
theorem Carried.same (carried : Carried vehicleId pushes state) {agent : Transport geometry}
    {more : List DataEnvelope} (genuine : Genuine more agent.replay)
    (returned : agent.replay.returned = state.agent.replay.returned)
    (followed : Followed ⟨agent, state.streams⟩) :
    Carried vehicleId more ⟨agent, state.streams⟩ :=
  ⟨genuine, followed, returned.trans carried.taken, carried.good, carried.logged⟩

-- The agent may take more items for the newest stream, and goes on writing there.
theorem Carried.newest (carried : Carried vehicleId pushes state) {stream : TelemetryStream}
    {older : List TelemetryStream} (is : state.streams = stream :: older)
    {link : Handover.Link (Nat × List UInt8)} {items : List (Nat × List UInt8)}
    (good : Pipe.Good Prod.snd (handleTelemetryStream vehicleId) { stream.pipe with link })
    (taken : link.taken = stream.pipe.link.taken ++ items) {agent : Transport geometry}
    (genuine : Genuine pushes agent.replay)
    (returned : agent.replay.returned = state.agent.replay.returned ++ items)
    (followed : Followed ⟨agent, { stream with pipe := { stream.pipe with link } } :: older⟩) :
    Carried vehicleId pushes
      ⟨agent, { stream with pipe := { stream.pipe with link } } :: older⟩ := by
  have goods := carried.good
  have logs := carried.logged
  rw [is] at goods logs
  refine ⟨genuine, followed, ?_, ?_, ?_⟩
  · show agent.replay.returned = _
    rw [returned, carried.taken, is]
    simp [taken, List.append_assoc]
  · intro other member
    rcases List.mem_cons.mp member with rfl | old
    · exact good
    · exact goods other (List.mem_cons_of_mem _ old)
  · intro other member
    rcases List.mem_cons.mp member with rfl | old
    · exact logs stream List.mem_cons_self
    · exact logs other (List.mem_cons_of_mem _ old)

theorem Carried.connect (carried : Carried vehicleId pushes state)
    (away : state.agent.connected = false) {replay : Replay geometry}
    (quiet : Replay.Quiet state.agent.replay replay) :
    Carried vehicleId pushes
      ⟨{ state.agent with replay, connected := true }, .fresh :: state.streams⟩ := by
  have followed := carried.followed
  rw [Followed, if_neg (by rw [away]; decide)] at followed
  refine ⟨carried.genuine.quiet quiet, ⟨.fresh, state.streams, rfl, followed⟩, ?_, ?_, ?_⟩
  · refine quiet.returned.trans (carried.taken.trans ?_)
    rw [List.reverse_cons, List.flatMap_append]
    exact (List.append_nil _).symm
  · intro stream member
    rcases List.mem_cons.mp member with rfl | old
    · exact Pipe.Good.fresh
    · exact carried.good stream old
  · intro stream member
    rcases List.mem_cons.mp member with rfl | old
    · exact List.Sublist.refl _
    · exact carried.logged stream old

-- A pop returns, and its frame is begun.
theorem Carried.popped (carried : Carried vehicleId pushes state)
    (connected : state.agent.connected = true) (idle : state.agent.writing = none) {tail : Nat}
    (loaded : tail ≤ state.agent.replay.ring.tail)
    (nonempty : state.agent.replay.ring.tail < state.agent.replay.ring.head) :
    ∃ entry streams, ((state.agent.replay.finish tail).returned.drop
        state.agent.replay.returned.length).head? = some entry ∧
      relink (fun link => link.begin Prod.snd entry) state.streams = some streams ∧
      Carried vehicleId pushes
        ⟨state.agent.receive (state.agent.replay.finish tail), streams⟩ := by
  have followed := carried.followed
  rw [Followed, if_pos connected] at followed
  obtain ⟨stream, older, is, same⟩ := followed
  obtain ⟨entry, returned, genuine⟩ := carried.genuine.finish loaded nonempty
  have free : stream.pipe.link.writing = none := by
    rw [idle] at same
    exact Option.map_eq_none_iff.mp same.symm
  obtain ⟨link, begun⟩ : ∃ link, stream.pipe.link.begin Prod.snd entry = some link :=
    ⟨_, by rw [Handover.Link.begin, free]⟩
  have new : ((state.agent.replay.finish tail).returned.drop
      state.agent.replay.returned.length).head? = some entry := by
    rw [returned, List.drop_left]
    rfl
  refine ⟨entry, _, new, by rw [is, relink, begun]; rfl, ?_⟩
  have good := (carried.good stream (is ▸ List.mem_cons_self)).begin begun
  refine carried.newest is good (Handover.Link.taken_begin begun) genuine returned ?_
  obtain ⟨-, rfl⟩ := Handover.Link.begin_some begun
  rw [Followed, if_pos (show (state.agent.receive _).connected = true from connected)]
  refine ⟨_, _, rfl, ?_⟩
  rw [Transport.receive, new]
  rfl

theorem Carried.waits (carried : Carried vehicleId pushes state)
    (connected : state.agent.connected = true) (idle : state.agent.writing = none)
    {replay : Replay geometry} (quiet : Replay.Quiet state.agent.replay replay) :
    Carried vehicleId pushes ⟨state.agent.receive replay, state.streams⟩ := by
  refine carried.same (carried.genuine.quiet quiet) quiet.returned ?_
  have followed := carried.followed
  rw [Followed, if_pos connected, idle] at followed
  rw [Followed, if_pos (show (state.agent.receive _).connected = true from connected),
    Transport.receive_quiet quiet]
  exact followed

theorem Carried.wrote (carried : Carried vehicleId pushes state)
    (connected : state.agent.connected = true) {stream : TelemetryStream}
    {older : List TelemetryStream} (is : state.streams = stream :: older) {count : Nat}
    {link : Handover.Link (Nat × List UInt8)} (written : stream.pipe.link.write count = some link)
    {agent : Transport geometry} (replay : agent.replay = state.agent.replay)
    (still : agent.connected = state.agent.connected)
    (writing : agent.writing = link.writing.map fun (entry, rest) => (entry.1, rest)) :
    Carried vehicleId pushes
      ⟨agent, { stream with pipe := { stream.pipe with link } } :: older⟩ := by
  have good := (carried.good stream (is ▸ List.mem_cons_self)).write written
  have taken := (Handover.Link.taken_write written).trans (List.append_nil _).symm
  refine carried.newest is good taken (replay ▸ carried.genuine) ?_ ?_
  · rw [replay, List.append_nil]
  · rw [Followed, if_pos (still.trans connected)]
    exact ⟨_, _, rfl, writing⟩

theorem Carried.dropped (carried : Carried vehicleId pushes state) :
    Carried vehicleId pushes ⟨state.agent.dropped, state.streams⟩ := by
  have quiet : Replay.Quiet state.agent.replay state.agent.dropped.replay :=
    ⟨rfl, rfl, rfl, rfl, rfl, nofun⟩
  exact carried.same (carried.genuine.quiet quiet) rfl rfl

/-- The streams never hold the agent up, and what they hold is what it took. -/
theorem Carried.agent (carried : Carried vehicleId pushes state) {agent : Transport geometry}
    {action : Transport.Action} (taken : state.agent.step action = some agent) :
    ∃ streams, follow state.agent.replay.returned agent.replay.returned state.streams action =
        some streams ∧
      Carried vehicleId (pushes ++ (Action.agent action).pushes) ⟨agent, streams⟩ := by
  have followed := carried.followed
  rcases transport_cases taken with ⟨env, rfl, rfl⟩ | ⟨replay, rfl, away, quiet, rfl⟩ |
    ⟨inner, pops, ⟨connected, idle⟩, popped⟩ | ⟨count, index, rest, rfl, writing, wrote⟩ | ⟨ends, rfl⟩
  · exact ⟨state.streams, rfl, carried.same (carried.genuine.push env) rfl followed⟩
  · exact ⟨_, rfl, (List.append_nil pushes).symm ▸ carried.connect away quiet⟩
  · have nothing : pushes ++ (Action.agent action).pushes = pushes := by
      rcases pops with ⟨rfl, -⟩ | ⟨rfl, -⟩ <;> exact List.append_nil _
    rw [nothing]
    rcases popped with ⟨tail, finishes, rfl⟩ | ⟨replay, quiet, rfl⟩
    · obtain ⟨loaded, nonempty⟩ := carried.genuine.bounded.finishes finishes
      obtain ⟨entry, streams, new, linked, holds⟩ := carried.popped connected idle loaded nonempty
      refine ⟨streams, ?_, holds⟩
      rcases pops with ⟨rfl, -⟩ | ⟨rfl, -⟩ <;>
      · simp only [follow, Transport.receive, new]
        exact linked
    · have none_new : (replay.returned.drop state.agent.replay.returned.length).head? = none := by
        rw [quiet.returned, List.drop_length]
        rfl
      refine ⟨state.streams, ?_, carried.waits connected idle quiet⟩
      rcases pops with ⟨rfl, -⟩ | ⟨rfl, -⟩ <;> simp only [follow, Transport.receive, none_new]
  · have connected : state.agent.connected = true := by
      by_contra away
      rw [Followed, if_neg away, writing] at followed
      cases followed
    rw [Followed, if_pos connected, writing] at followed
    obtain ⟨stream, older, is, same⟩ := followed
    obtain ⟨⟨item, left⟩, at_item, pair⟩ := Option.map_eq_some_iff.mp same.symm
    obtain ⟨rfl, rfl⟩ := Prod.mk.inj pair
    obtain ⟨link, written, rests⟩ : ∃ link, stream.pipe.link.write count = some link ∧
        agent.writing = link.writing.map fun (entry, rest) => (entry.1, rest) := by
      rw [Handover.Link.write, at_item]
      rcases wrote with ⟨some, inside, rfl⟩ | ⟨outside, whole, rfl⟩
      · simp only [if_pos (And.intro some inside)]
        exact ⟨_, rfl, rfl⟩
      · simp only [if_neg outside, if_pos whole]
        exact ⟨_, rfl, rfl⟩
    refine ⟨{ stream with pipe := { stream.pipe with link } } :: older, ?_, ?_⟩
    · rw [follow, is, relink, written]
      rfl
    · rw [show (Action.agent (.write count)).pushes = [] from rfl, List.append_nil]
      rcases wrote with ⟨-, -, rfl⟩ | ⟨-, -, rfl⟩
      · exact carried.wrote connected is written rfl rfl rests
      · exact carried.wrote connected is written rfl rfl rests
  · have nothing : pushes ++ (Action.agent action).pushes = pushes := by
      rcases ends with rfl | rfl <;> exact List.append_nil _
    rw [nothing]
    refine ⟨state.streams, ?_, carried.dropped⟩
    rcases ends with rfl | rfl <;> rfl

-- The relay's end moves on; what the agent has at its own end stays.
theorem Carried.onStream (carried : Carried vehicleId pushes state) {index : Nat}
    {act : TelemetryStream → Option TelemetryStream} (taken : state.onStream index act = some next)
    (keeps : ∀ stream ∈ state.streams, ∀ changed, act stream = some changed →
      changed.pipe.link = stream.pipe.link ∧
        changed.pipe.Good Prod.snd (handleTelemetryStream vehicleId) ∧
        changed.logged.Sublist (changed.published.take changed.passed)) :
    Carried vehicleId pushes next := by
  obtain ⟨changed, acted, rfl⟩ := Option.map_eq_some_iff.mp taken
  obtain ⟨stream, found, acted⟩ := Option.bind_eq_some_iff.mp acted
  obtain ⟨inside, rfl⟩ := List.getElem?_eq_some_iff.mp found
  obtain ⟨link, good, logged⟩ := keeps _ (List.getElem_mem inside) changed acted
  have links : (state.streams.set index changed).map (fun stream => stream.pipe.link) =
      state.streams.map fun stream => stream.pipe.link := by
    refine List.ext_getElem (by simp) fun place _ _ => ?_
    rw [List.getElem_map, List.getElem_map, List.getElem_set]
    split_ifs with here
    · rw [link]
      simp only [here]
    · rfl
  refine ⟨carried.genuine, ?_, ?_, ?_, ?_⟩
  · have followed := carried.followed
    unfold Followed at followed ⊢
    split_ifs at followed with connected
    · obtain ⟨newest, older, is, writing⟩ := followed
      rw [if_pos connected]
      simp only [is] at links ⊢
      cases index with
      | zero =>
        simp only [List.set_cons_zero, List.map_cons, List.cons.injEq, and_true] at links
        exact ⟨changed, older, rfl, links ▸ writing⟩
      | succ index => exact ⟨newest, older.set index changed, rfl, writing⟩
    · rw [if_neg connected]
      exact followed
  · refine carried.taken.trans ?_
    have flat (streams : List TelemetryStream) :
        (streams.reverse.flatMap fun stream => stream.pipe.link.taken) =
          (streams.map fun stream => stream.pipe.link).reverse.flatMap Handover.Link.taken := by
      rw [← List.map_reverse, List.flatMap_map]
    rw [flat, flat, links]
  · intro other member
    rcases List.mem_or_eq_of_mem_set member with old | rfl
    · exact carried.good other old
    · exact good
  · intro other member
    rcases List.mem_or_eq_of_mem_set member with old | rfl
    · exact carried.logged other old
    · exact logged

theorem Carried.relay (carried : Carried vehicleId pushes state) {index : Nat}
    {action : Pipe.Action} (taken : state.step vehicleId (.relay index action) = some next) :
    Carried vehicleId pushes next := by
  refine carried.onStream taken fun stream member changed acted => ?_
  obtain ⟨pipe, moved, rfl⟩ := Option.map_eq_some_iff.mp acted
  refine ⟨Pipe.step_link moved, (carried.good stream member).step moved, ?_⟩
  have more : stream.published <+: pipe.handled.map Prod.snd := (Pipe.step_handled moved).map _
  exact (carried.logged stream member).trans (List.IsPrefix.take more _).sublist

theorem Carried.pass (carried : Carried vehicleId pushes state) {index : Nat} {arrives : Bool}
    (taken : state.step vehicleId (.pass index arrives) = some next) :
    Carried vehicleId pushes next := by
  refine carried.onStream taken fun stream member changed acted => ?_
  obtain ⟨message, is, rfl⟩ := Option.map_eq_some_iff.mp acted
  refine ⟨rfl, carried.good stream member, ?_⟩
  have logged := carried.logged stream member
  show (if arrives then stream.logged ++ [message] else stream.logged).Sublist
    (stream.published.take (stream.passed + 1))
  rw [List.take_add_one, is]
  cases arrives with
  | false => exact logged.trans (List.sublist_append_left _ _)
  | true => exact logged.append (List.Sublist.refl _)

/-- One step, of whichever part. -/
theorem Carried.step (carried : Carried vehicleId pushes state) {action : Action}
    (taken : state.step vehicleId action = some next) :
    Carried vehicleId (pushes ++ action.pushes) next := by
  cases action with
  | agent action =>
    obtain ⟨agent, moved, rest⟩ := Option.bind_eq_some_iff.mp taken
    obtain ⟨streams, follows, holds⟩ := carried.agent moved
    obtain ⟨others, same, rfl⟩ := Option.map_eq_some_iff.mp rest
    obtain rfl := Option.some.inj (follows.symm.trans same)
    exact holds
  | relay index action => exact (List.append_nil pushes).symm ▸ carried.relay taken
  | pass index arrives => exact (List.append_nil pushes).symm ▸ carried.pass taken

end Steps

/-! ## What arrives at the router -/

section Arrivals

theorem perm_flatMap_set {A B : Type} {f : A → List B} {items : List A} {index : Nat}
    {changed : A} {more : List B} (inside : index < items.length)
    (grown : f changed = f items[index] ++ more) :
    ((items.set index changed).flatMap f).Perm (items.flatMap f ++ more) := by
  induction items generalizing index with
  | nil => exact absurd inside (Nat.not_lt_zero _)
  | cons item rest ih =>
    cases index with
    | zero =>
      simp only [List.set_cons_zero, List.flatMap_cons, List.append_assoc]
      rw [grown, List.getElem_cons_zero, List.append_assoc]
      exact List.perm_append_comm.append_left _
    | succ index =>
      simp only [List.set_cons_succ, List.flatMap_cons, List.append_assoc]
      exact (ih (Nat.lt_of_succ_lt_succ inside) grown).append_left _

theorem follow_logged {before after : List (Nat × List UInt8)}
    {streams next : List TelemetryStream} {action : Transport.Action}
    (follows : follow before after streams action = some next) :
    (next.flatMap fun stream => stream.logged) = streams.flatMap fun stream => stream.logged := by
  have relinked
      {write : Handover.Link (Nat × List UInt8) → Option (Handover.Link (Nat × List UInt8))}
      (links : relink write streams = some next) :
      (next.flatMap fun stream => stream.logged) =
        streams.flatMap fun stream => stream.logged := by
    cases streams with
    | nil => cases links
    | cons stream older =>
      obtain ⟨link, -, rfl⟩ := Option.map_eq_some_iff.mp links
      rfl
  cases action with
  | pop | resume =>
    simp only [follow] at follows
    split at follows
    · exact relinked follows
    · rw [← Option.some.inj follows]
  | write count =>
    simp only [follow] at follows
    exact relinked follows
  | connect =>
    rw [← Option.some.inj follows]
    rfl
  | push env => rw [← Option.some.inj follows]
  | writeFails => rw [← Option.some.inj follows]
  | disconnect => rw [← Option.some.inj follows]

/-- What has arrived grows by what arrives. -/
theorem step_logged {vehicleId : String} {state next : TelemetryPath geometry} {action : Action}
    (taken : state.step vehicleId action = some next) :
    (next.streams.flatMap fun stream => stream.logged).Perm
      ((state.streams.flatMap fun stream => stream.logged) ++ state.arrival action) := by
  cases action with
  | agent action =>
    obtain ⟨agent, -, rest⟩ := Option.bind_eq_some_iff.mp taken
    obtain ⟨streams, follows, rfl⟩ := Option.map_eq_some_iff.mp rest
    rw [show state.arrival (.agent action) = [] from rfl, List.append_nil]
    exact List.Perm.of_eq (follow_logged follows)
  | relay index action =>
    obtain ⟨changed, acted, rfl⟩ := Option.map_eq_some_iff.mp taken
    obtain ⟨stream, found, acted⟩ := Option.bind_eq_some_iff.mp acted
    obtain ⟨inside, rfl⟩ := List.getElem?_eq_some_iff.mp found
    obtain ⟨pipe, -, rfl⟩ := Option.map_eq_some_iff.mp acted
    exact perm_flatMap_set inside (List.append_nil _).symm
  | pass index arrives =>
    obtain ⟨changed, acted, rfl⟩ := Option.map_eq_some_iff.mp taken
    obtain ⟨stream, found, acted⟩ := Option.bind_eq_some_iff.mp acted
    obtain ⟨inside, rfl⟩ := List.getElem?_eq_some_iff.mp found
    obtain ⟨message, is, rfl⟩ := Option.map_eq_some_iff.mp acted
    cases arrives with
    | false => exact perm_flatMap_set inside (List.append_nil _).symm
    | true =>
      refine perm_flatMap_set inside ?_
      rw [arrival, found, Option.bind_some, is]
      rfl

end Arrivals

/-! ## Pops that nothing disturbs -/

/-- No pop is lapped in its sleep. -/
def Undisturbed (state : TelemetryPath geometry) : Action → Prop
  | .agent .resume => state.agent.replay.Undisturbed .resume
  | _ => True

/-- Every envelope that was pushed was taken for a stream, at most once and in order, or it still
stands in the ring, or the pushes have lapped it. -/
structure Accounted (state : TelemetryPath geometry) : Prop where
  increasing : ((state.streams.reverse.flatMap fun stream => stream.pipe.link.taken).map
    Prod.fst).Pairwise (· < ·)
  accounted : ∀ index < state.agent.replay.pushed.length,
    (∃ stream ∈ state.streams, index ∈ stream.pipe.link.taken.map Prod.fst) ∨
      state.agent.replay.ring.tail ≤ index ∨
      index + geometry.numSlots < state.agent.replay.pushed.length

section Faithful

theorem agent_faithful {state next : Transport geometry} {action : Transport.Action}
    (sound : state.replay.Sound) (faithful : state.replay.Faithful)
    (taken : state.step action = some next)
    (undisturbed : action = .resume → state.replay.Undisturbed .resume) :
    next.replay.Sound ∧ next.replay.Faithful := by
  rcases transport_cases taken with ⟨env, rfl, rfl⟩ | ⟨replay, rfl, -, quiet, rfl⟩ |
    ⟨inner, pops, -, ⟨tail, finishes, rfl⟩ | ⟨replay, quiet, rfl⟩⟩ |
    ⟨count, index, rest, rfl, -, ⟨-, -, rfl⟩ | ⟨-, -, rfl⟩⟩ | ⟨-, rfl⟩
  · exact Replay.pushing_faithful sound faithful env
  · exact Replay.quiet_faithful sound faithful quiet
  · obtain ⟨loaded, nonempty⟩ := sound.toBounded.finishes finishes
    refine Replay.finish_faithful sound faithful loaded nonempty ?_
    rcases pops with ⟨rfl, rfl⟩ | ⟨rfl, rfl⟩
    · rw [finishes.1]
    · exact undisturbed rfl tail finishes
  · exact Replay.quiet_faithful sound faithful quiet
  · exact ⟨sound, faithful⟩
  · exact ⟨sound, faithful⟩
  · exact Replay.quiet_faithful sound faithful ⟨rfl, rfl, rfl, rfl, rfl, nofun⟩

theorem step_faithful {vehicleId : String} {state next : TelemetryPath geometry} {action : Action}
    (sound : state.agent.replay.Sound) (faithful : state.agent.replay.Faithful)
    (undisturbed : state.Undisturbed action) (taken : state.step vehicleId action = some next) :
    next.agent.replay.Sound ∧ next.agent.replay.Faithful := by
  have elsewhere {index : Nat} {act : TelemetryStream → Option TelemetryStream}
      (taken : state.onStream index act = some next) : next.agent = state.agent := by
    obtain ⟨changed, -, rfl⟩ := Option.map_eq_some_iff.mp taken
    rfl
  cases action with
  | agent action =>
    obtain ⟨agent, moved, rest⟩ := Option.bind_eq_some_iff.mp taken
    obtain ⟨streams, -, rfl⟩ := Option.map_eq_some_iff.mp rest
    refine agent_faithful sound faithful moved ?_
    rintro rfl
    exact undisturbed
  | relay index action => exact elsewhere taken ▸ ⟨sound, faithful⟩
  | pass index arrives => exact elsewhere taken ▸ ⟨sound, faithful⟩

theorem Carried.accounted {vehicleId : String} {pushes : List DataEnvelope}
    {state : TelemetryPath geometry} (carried : Carried vehicleId pushes state)
    (faithful : state.agent.replay.Faithful) : Accounted state where
  increasing := by
    rw [← carried.taken]
    exact faithful.increasing
  accounted index inside := by
    have count := carried.genuine.recorded.count
    rw [count] at inside ⊢
    refine (faithful.accounted index inside).imp_left fun popped => ?_
    rw [Replay.order, carried.taken, List.map_flatMap] at popped
    obtain ⟨stream, member, holds⟩ := List.mem_flatMap.mp popped
    exact ⟨stream, List.mem_reverse.mp member, holds⟩

end Faithful

/-! ## Whole runs -/

/-- How far the envelopes of one vehicle have come. -/
structure Delivered (vehicleId : String) (pushes : List DataEnvelope)
    (state : TelemetryPath geometry) : Prop where
  -- The loop does what it does without the streams.
  free : ∀ action agent, state.agent.step action = some agent →
    ∃ next, state.step vehicleId (.agent action) = some next ∧ next.agent = agent
  genuine : ∀ entry ∈ state.agent.replay.returned,
    (pushes.map (stored geometry))[entry.1]? = some entry.2
  -- Each pop was taken for one connection, in the order of the pops. With a connection that ends
  -- goes at most the one that is being written.
  taken : state.agent.replay.returned =
    state.streams.reverse.flatMap fun stream => stream.pipe.link.taken
  cut : ∀ stream ∈ state.streams,
    stream.pipe.link.taken.length ≤ stream.pipe.link.sent.length + 1
  -- The relay publishes what was written whole, in order, as far as it comes.
  published : ∀ stream ∈ state.streams,
    stream.published.map Relay.Message.data <+: stream.pipe.link.sent.map Prod.snd
  named : ∀ stream ∈ state.streams, ∀ message ∈ stream.published,
    handleTelemetryFrame vehicleId message.data = .ok message
  logged : ∀ stream ∈ state.streams, stream.logged.Sublist stream.published

section Runs

variable {vehicleId : String} {pushes : List DataEnvelope} {state : TelemetryPath geometry}

theorem Carried.handled (carried : Carried vehicleId pushes state) {stream : TelemetryStream}
    (member : stream ∈ state.streams) :
    stream.published.map Relay.Message.data = stream.pipe.handled.map Prod.fst ∧
      ∀ message ∈ stream.published, handleTelemetryFrame vehicleId message.data = .ok message := by
  have handles (entry : List UInt8 × Relay.Message) (inside : entry ∈ stream.pipe.handled) :
      handleTelemetryFrame vehicleId entry.1 = .ok entry.2 ∧ entry.2.data = entry.1 := by
    have handled := ((carried.good stream member).handles entry inside).2
    exact ⟨handled, (handleTelemetryFrame_ok handled).2.2⟩
  constructor
  · rw [TelemetryStream.published, List.map_map]
    exact List.map_congr_left fun entry inside => (handles entry inside).2
  · intro message published
    obtain ⟨entry, inside, rfl⟩ := List.mem_map.mp published
    rw [(handles entry inside).2]
    exact (handles entry inside).1

-- What a stream was given fits the length in front of a frame.
theorem Carried.narrow (carried : Carried vehicleId pushes state) {stream : TelemetryStream}
    (member : stream ∈ state.streams) :
    ∀ entry ∈ stream.pipe.link.taken, entry.2.length < 2 ^ 32 := by
  intro entry inside
  have returned : entry ∈ state.agent.replay.returned := by
    rw [carried.taken]
    exact List.mem_flatMap.mpr ⟨stream, List.mem_reverse.mpr member, inside⟩
  have is := carried.genuine.returned entry returned
  rw [carried.genuine.pushed, List.getElem?_map] at is
  obtain ⟨env, -, bytes⟩ := Option.map_eq_some_iff.mp is
  have fits := length_stored geometry env
  have narrow := geometry.narrow
  rw [bytes] at fits
  omega

theorem Carried.delivered (carried : Carried vehicleId pushes state) :
    Delivered vehicleId pushes state where
  free action agent taken := by
    obtain ⟨streams, follows, -⟩ := carried.agent taken
    exact ⟨⟨agent, streams⟩, by
      rw [TelemetryPath.step, agentStep, taken, Option.bind_some, follows, Option.map_some], rfl⟩
  genuine := by
    rw [← carried.genuine.pushed]
    exact carried.genuine.returned
  taken := carried.taken
  cut stream _ := by
    rw [Handover.Link.taken, List.length_append]
    cases stream.pipe.link.writing <;> simp
  published stream member := by
    rw [(carried.handled member).1]
    exact (carried.good stream member).handled_front (by simp [handleTelemetryStream])
      (carried.narrow member)
  named _ member := (carried.handled member).2
  logged stream member := (carried.logged stream member).trans (List.take_sublist _ _)

theorem runs_carry {ring : Ring geometry} (head : ring.head = 0) (tail : ring.tail = 0)
    {actions : List Action} (ran : exec (step vehicleId) (start ring) actions = some state) :
    Carried vehicleId (actions.flatMap Action.pushes) state := by
  refine exec_induction (P := fun actions state =>
    Carried vehicleId (actions.flatMap Action.pushes) state) (Carried.start head tail) ?_ ran
  intro actions action state next _ carried taken
  have more := carried.step taken
  rwa [List.flatMap_append, List.flatMap_singleton]

theorem runs_faithful {ring : Ring geometry} (head : ring.head = 0) (tail : ring.tail = 0)
    {actions : List Action} (ran : exec (step vehicleId) (start ring) actions = some state)
    (along : Along (step vehicleId) Undisturbed (start ring) actions) :
    state.agent.replay.Faithful := by
  have preserves (state : TelemetryPath geometry) (action : Action) (next : TelemetryPath geometry)
      (kept : state.agent.replay.Sound ∧ state.agent.replay.Faithful)
      (undisturbed : state.Undisturbed action) (taken : step vehicleId state action = some next) :
      next.agent.replay.Sound ∧ next.agent.replay.Faithful :=
    step_faithful kept.1 kept.2 undisturbed taken
  have all : Throughout (step vehicleId) (fun state => state.agent.replay.Faithful) (start ring)
      actions :=
    throughout_of_along preserves (fun _ kept => kept.2) (Replay.start_faithful head tail) along
  exact throughout_iff_prefixes.mp all actions [] state (List.append_nil _).symm ran

/-- The connection is lost in the second frame. The relay has the first one in two chunks, and reads
it when the next connection is up. -/
def lostConnection : List Action :=
  [.agent .connect, .agent (.push (sample 0)), .agent (.push (sample 1)), .agent .pop,
    .agent (.write 17), .relay 0 (.arrive 3), .agent .pop, .agent (.write 5), .agent .disconnect,
    .relay 0 (.arrive 14), .agent .connect, .relay 1 .read, .pass 1 true]

end Runs

end TelemetryPath

end SystemScale.Contract

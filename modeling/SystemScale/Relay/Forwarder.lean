import Mathlib.Logic.Function.Basic
import SystemScale.Lib.Bytes
import SystemScale.Lib.Runs

set_option autoImplicit false

/-!
# The command forwarder

One region's forwarder puts commands from JetStream on the channels of vehicle sessions and
acknowledges them; each session writes what its channel holds to the vehicle's command stream.
-/

namespace SystemScale.Relay

open Runs

/-- A message of the stream `command`, by its place there. -/
structure Command where
  sequence : Nat
  subject : String
  payload : List UInt8
  deriving DecidableEq

/-- The vehicle of a subject `command.{vehicle_id}`. -/
def vehicleOf (subject : String) : Option String :=
  let text := subject.toList
  if "command.".toList.isPrefixOf text then
    let id := text.drop 8
    if id ≠ [] ∧ '.' ∉ id then some (String.ofList id) else none
  else none

def commandFrame (command : Command) : List UInt8 :=
  Bytes.leBytes 4 command.payload.length ++ command.payload

-- The channel of a session that could not accept its streams stays open until the cleanup is done.
inductive SessionPhase where
  | accepting
  | serving
  | failed
  | ended
  | cleaned
  deriving DecidableEq

/-- `inHand` is the command that was taken from the channel, `rest` what is left to write of its
frame, `stream` what was written to the command stream. -/
structure CommandSession where
  vehicleId : String
  phase : SessionPhase
  channel : List Command
  inHand : Option Command
  rest : List UInt8
  written : List Command
  stream : List UInt8

def CommandSession.isOpen (session : CommandSession) : Bool :=
  session.phase = .accepting || session.phase = .serving || session.phase = .failed

def CommandSession.fresh (vehicleId : String) : CommandSession :=
  ⟨vehicleId, .accepting, [], none, [], [], []⟩

/-- `handling` is the message that `run_forwarder` is about to acknowledge. -/
structure Forwarder where
  sessions : List CommandSession
  registry : String → Option Nat
  handling : Option Command
  acked : List Command

inductive Forwarder.Action where
  | connect (vehicleId : String)
  | acceptStreams (index : Nat)
  | acceptFails (index : Nat)
  | finish (index : Nat)
  | cleanup (index : Nat)
  | unregister (vehicleId : String)
  | deliver (command : Command)
  | acknowledge (arrives : Bool)
  | take (index : Nat)
  | write (index count : Nat)

def channelCapacity : Nat := 64

namespace Forwarder

def start : Forwarder := ⟨[], fun _ => none, none, []⟩

def setSession (state : Forwarder) (index : Nat) (session : CommandSession) : Forwarder :=
  { state with sessions := state.sessions.set index session }

def setRegistered (state : Forwarder) (vehicleId : String) (session : Option Nat) : Forwarder :=
  { state with registry := Function.update state.registry vehicleId session }

/-- The session that takes the command; the others are negatively acknowledged. -/
def target (state : Forwarder) (vehicleId : String) : Option (Nat × CommandSession) := do
  let index ← state.registry vehicleId
  let session ← state.sessions[index]?
  if session.isOpen ∧ session.channel.length < channelCapacity then some (index, session) else none

def step (state : Forwarder) : Action → Option Forwarder
  | .connect vehicleId => some
      ({ state with
        sessions := state.sessions ++ [CommandSession.fresh vehicleId] }.setRegistered vehicleId
          (some state.sessions.length))
  | .acceptStreams index => do
    let session ← state.sessions[index]?
    if session.phase = .accepting then
      some (state.setSession index { session with phase := .serving })
    else none
  | .acceptFails index => do
    let session ← state.sessions[index]?
    if session.phase = .accepting then
      some (state.setSession index { session with phase := .failed })
    else none
  -- `select!` drops the other handlers, and with them the channel and the command in hand.
  | .finish index => do
    let session ← state.sessions[index]?
    if session.phase = .serving then
      some (state.setSession index
        { session with phase := .ended, channel := [], inHand := none, rest := [] })
    else none
  | .cleanup index => do
    let session ← state.sessions[index]?
    if session.phase = .failed ∨ session.phase = .ended then
      some ((state.setSession index { session with phase := .cleaned, channel := [] }).setRegistered
        session.vehicleId none)
    else none
  | .unregister vehicleId => some (state.setRegistered vehicleId none)
  | .deliver command =>
    if state.handling.isSome then none
    else
      match vehicleOf command.subject with
      | none => some { state with handling := some command }
      | some vehicleId =>
        match state.target vehicleId with
        | some (index, session) =>
          some ({ state with handling := some command }.setSession index
            { session with channel := session.channel ++ [command] })
        | none => some state
  -- An error of the acknowledgment is ignored.
  | .acknowledge arrives =>
    match state.handling with
    | some command =>
      some { state with
        handling := none
        acked := if arrives then command :: state.acked else state.acked }
    | none => none
  | .take index => do
    let session ← state.sessions[index]?
    match session.phase, session.inHand, session.channel with
    | .serving, none, command :: channel =>
      some (state.setSession index
        { session with channel, inHand := some command, rest := commandFrame command })
    | _, _, _ => none
  | .write index count => do
    let session ← state.sessions[index]?
    match session.phase, session.inHand with
    | .serving, some command =>
      let sent := { session with
        rest := session.rest.drop count, stream := session.stream ++ session.rest.take count }
      if session.rest.length ≤ count then
        some (state.setSession index
          { sent with inHand := none, written := session.written ++ [command] })
      else some (state.setSession index sent)
    | _, _ => none

/-! ## What is promised -/

/-- The session has written the whole command, or its running sender will. -/
def Has (session : CommandSession) (command : Command) : Prop :=
  command ∈ session.written ∨
    session.phase = .serving ∧ (command ∈ session.channel ∨ session.inHand = some command)

def Settled (state : Forwarder) (command : Command) : Prop :=
  ∃ (index : Nat) (session : CommandSession),
    state.sessions[index]? = some session ∧ Has session command

/-- The subject names a vehicle. The stream also carries the ACKs of vehicles, which do not. -/
def Addressed (command : Command) : Prop := (vehicleOf command.subject).isSome

def NothingLost (state : Forwarder) : Prop :=
  ∀ command ∈ state.acked, Addressed command → Settled state command

/-- A positive acknowledgment arrives for a command that a running sender has or has written, and a
session that ends leaves no acknowledged command behind that nobody else has. -/
def Careful (state : Forwarder) : Action → Prop
  | .acknowledge arrives =>
    arrives = true → ∀ command, state.handling = some command → Addressed command →
      Settled state command
  | .finish index =>
    ∀ session, state.sessions[index]? = some session →
      ∀ command ∈ state.acked, Addressed command →
        command ∈ session.channel ∨ session.inHand = some command →
        command ∈ session.written ∨
          ∃ (other : Nat) (held : CommandSession),
            other ≠ index ∧ state.sessions[other]? = some held ∧ Has held command
  | _ => True

/-! ## Sessions that change -/

section Sessions

variable {state : Forwarder} {index : Nat} {old new : CommandSession} {command : Command}

theorem settled_set (was : state.sessions[index]? = some old) :
    Settled (state.setSession index new) command ↔
      Has new command ∨
        ∃ (other : Nat) (held : CommandSession),
          other ≠ index ∧ state.sessions[other]? = some held ∧ Has held command := by
  have inside := (List.getElem?_eq_some_iff.mp was).1
  constructor
  · rintro ⟨other, held, is, has⟩
    rw [setSession, List.getElem?_set] at is
    split_ifs at is with same
    · obtain rfl := Option.some.inj is
      exact .inl has
    · exact .inr ⟨other, held, Ne.symm same, is, has⟩
  · rintro (has | ⟨other, held, differs, is, has⟩)
    · exact ⟨index, new, List.getElem?_set_self inside, has⟩
    · exact ⟨other, held, by rw [setSession, List.getElem?_set_ne differs.symm, is], has⟩

end Sessions

structure Kept (state next : Forwarder) : Prop where
  acked : next.acked = state.acked
  settled : ∀ command, Settled state command → Settled next command

theorem Kept.set {state : Forwarder} {index : Nat} {old : CommandSession}
    (was : state.sessions[index]? = some old) (new : CommandSession)
    (keeps : ∀ command, Has old command → Has new command) :
    Kept state (state.setSession index new) := by
  refine ⟨rfl, ?_⟩
  rintro command ⟨other, held, is, has⟩
  rw [settled_set was]
  by_cases same : other = index
  · subst same
    obtain rfl := Option.some.inj (was.symm.trans is)
    exact .inl (keeps command has)
  · exact .inr ⟨other, held, same, is, has⟩

theorem Has.of_idle {old new : CommandSession} (idle : old.phase ≠ .serving)
    (same : new.written = old.written) (command : Command) (has : Has old command) :
    Has new command := by
  rcases has with written | ⟨serving, _⟩
  · exact .inl (same ▸ written)
  · exact absurd serving idle

/-! ## One step -/

theorem target_session {state : Forwarder} {vehicleId : String} {index : Nat}
    {session : CommandSession} (found : state.target vehicleId = some (index, session)) :
    state.sessions[index]? = some session := by
  simp only [target, Option.bind_eq_bind, Option.bind_eq_some_iff] at found
  obtain ⟨_, _, _, was, found⟩ := found
  split_ifs at found
  obtain ⟨rfl, rfl⟩ := Prod.mk.inj (Option.some.inj found)
  exact was

/-- When a step can be taken, and what it makes of the state. -/
inductive Change (state : Forwarder) : Action → Forwarder → Prop
  | connect (vehicleId : String) :
      Change state (.connect vehicleId)
        (({ state with
          sessions := state.sessions ++ [CommandSession.fresh vehicleId] }).setRegistered vehicleId
            (some state.sessions.length))
  | acceptStreams {index : Nat} {session : CommandSession}
      (was : state.sessions[index]? = some session) (waiting : session.phase = .accepting) :
      Change state (.acceptStreams index)
        (state.setSession index { session with phase := .serving })
  | acceptFails {index : Nat} {session : CommandSession}
      (was : state.sessions[index]? = some session) (waiting : session.phase = .accepting) :
      Change state (.acceptFails index) (state.setSession index { session with phase := .failed })
  | finish {index : Nat} {session : CommandSession}
      (was : state.sessions[index]? = some session) (serving : session.phase = .serving) :
      Change state (.finish index) (state.setSession index
        { session with phase := .ended, channel := [], inHand := none, rest := [] })
  | cleanup {index : Nat} {session : CommandSession}
      (was : state.sessions[index]? = some session)
      (ended : session.phase = .failed ∨ session.phase = .ended) :
      Change state (.cleanup index)
        ((state.setSession index { session with phase := .cleaned, channel := [] }).setRegistered
          session.vehicleId none)
  | unregister (vehicleId : String) :
      Change state (.unregister vehicleId) (state.setRegistered vehicleId none)
  | skip {command : Command} (plain : vehicleOf command.subject = none) :
      Change state (.deliver command) { state with handling := some command }
  | deliver {command : Command} {vehicleId : String} {index : Nat} {session : CommandSession}
      (plain : vehicleOf command.subject = some vehicleId)
      (found : state.target vehicleId = some (index, session)) :
      Change state (.deliver command)
        ({ state with handling := some command }.setSession index
          { session with channel := session.channel ++ [command] })
  | refuse (command : Command) : Change state (.deliver command) state
  | acknowledge {command : Command} (arrives : Bool) (handling : state.handling = some command) :
      Change state (.acknowledge arrives)
        { state with
          handling := none
          acked := if arrives then command :: state.acked else state.acked }
  | take {index : Nat} {session : CommandSession} {command : Command} {channel : List Command}
      (was : state.sessions[index]? = some session) (serving : session.phase = .serving)
      (free : session.inHand = none) (queued : session.channel = command :: channel) :
      Change state (.take index) (state.setSession index
        { session with channel, inHand := some command, rest := commandFrame command })
  | wrote {index count : Nat} {session : CommandSession} {command : Command}
      (was : state.sessions[index]? = some session) (serving : session.phase = .serving)
      (busy : session.inHand = some command) (complete : session.rest.length ≤ count) :
      Change state (.write index count) (state.setSession index
        { session with
          rest := session.rest.drop count, stream := session.stream ++ session.rest.take count,
          inHand := none, written := session.written ++ [command] })
  | write {index : Nat} {session : CommandSession} {command : Command} (count : Nat)
      (was : state.sessions[index]? = some session) (serving : session.phase = .serving)
      (busy : session.inHand = some command) :
      Change state (.write index count) (state.setSession index
        { session with
          rest := session.rest.drop count, stream := session.stream ++ session.rest.take count })

theorem step_change {state next : Forwarder} {action : Action}
    (taken : step state action = some next) : Change state action next := by
  cases action with
  | connect vehicleId =>
    obtain rfl := Option.some.inj taken
    exact .connect vehicleId
  | acceptStreams index =>
    obtain ⟨session, was, taken⟩ := Option.bind_eq_some_iff.mp taken
    split_ifs at taken with waiting
    obtain rfl := Option.some.inj taken
    exact .acceptStreams was waiting
  | acceptFails index =>
    obtain ⟨session, was, taken⟩ := Option.bind_eq_some_iff.mp taken
    split_ifs at taken with waiting
    obtain rfl := Option.some.inj taken
    exact .acceptFails was waiting
  | finish index =>
    obtain ⟨session, was, taken⟩ := Option.bind_eq_some_iff.mp taken
    split_ifs at taken with serving
    obtain rfl := Option.some.inj taken
    exact .finish was serving
  | cleanup index =>
    obtain ⟨session, was, taken⟩ := Option.bind_eq_some_iff.mp taken
    split_ifs at taken with ended
    obtain rfl := Option.some.inj taken
    exact .cleanup was ended
  | unregister vehicleId =>
    obtain rfl := Option.some.inj taken
    exact .unregister vehicleId
  | deliver command =>
    simp only [step] at taken
    split_ifs at taken
    split at taken
    next plain =>
      obtain rfl := Option.some.inj taken
      exact .skip plain
    next vehicleId plain =>
      split at taken
      next index session found =>
        obtain rfl := Option.some.inj taken
        exact .deliver plain found
      next =>
        obtain rfl := Option.some.inj taken
        exact .refuse command
  | acknowledge arrives =>
    simp only [step] at taken
    split at taken
    next command handling =>
      obtain rfl := Option.some.inj taken
      exact .acknowledge arrives handling
    next => simp at taken
  | take index =>
    obtain ⟨session, was, taken⟩ := Option.bind_eq_some_iff.mp taken
    split at taken
    next command channel serving free queued =>
      obtain rfl := Option.some.inj taken
      exact .take was serving free queued
    next => simp at taken
  | write index count =>
    obtain ⟨session, was, taken⟩ := Option.bind_eq_some_iff.mp taken
    split at taken
    next command serving busy =>
      split_ifs at taken with complete
      · obtain rfl := Option.some.inj taken
        exact .wrote was serving busy complete
      · obtain rfl := Option.some.inj taken
        exact .write count was serving busy
    next => simp at taken

theorem step_kept {state next : Forwarder} {action : Action} (taken : step state action = some next)
    (going : ∀ index, action ≠ .finish index) (silent : ∀ arrives, action ≠ .acknowledge arrives) :
    Kept state next := by
  cases step_change taken with
  | connect vehicleId =>
    refine ⟨rfl, ?_⟩
    rintro command ⟨index, session, is, has⟩
    exact ⟨index, session, List.getElem?_append_left (List.getElem?_eq_some_iff.mp is).1 ▸ is, has⟩
  | acceptStreams was waiting => exact Kept.set was _ (Has.of_idle (by simp [waiting]) rfl)
  | acceptFails was waiting => exact Kept.set was _ (Has.of_idle (by simp [waiting]) rfl)
  | @finish index => exact absurd rfl (going index)
  | @cleanup _ session was ended =>
    have idle : session.phase ≠ .serving := by rcases ended with ended | ended <;> simp [ended]
    have kept := Kept.set was { session with phase := .cleaned, channel := [] }
      (Has.of_idle idle rfl)
    exact ⟨kept.acked, kept.settled⟩
  | unregister vehicleId => exact ⟨rfl, fun _ settled => settled⟩
  | skip => exact ⟨rfl, fun _ settled => settled⟩
  | @deliver delivered _ _ session _ found =>
    have kept := Kept.set (target_session found)
      { session with channel := session.channel ++ [delivered] }
      fun _ => Or.imp_right (And.imp_right (Or.imp_left (List.mem_append_left _)))
    exact ⟨kept.acked, kept.settled⟩
  | refuse => exact ⟨rfl, fun _ settled => settled⟩
  | acknowledge arrives => exact absurd rfl (silent arrives)
  | take was serving free queued =>
    refine Kept.set was _ ?_
    rintro command (written | ⟨_, held⟩)
    · exact .inl written
    · rw [queued, free, List.mem_cons] at held
      refine .inr ⟨serving, ?_⟩
      rcases held with (rfl | held) | held
      · exact .inr rfl
      · exact .inl held
      · simp at held
  | wrote was serving busy complete =>
    refine Kept.set was _ ?_
    rintro command (written | ⟨_, held | held⟩)
    · exact .inl (List.mem_append_left _ written)
    · exact .inr ⟨serving, .inl held⟩
    · obtain rfl := Option.some.inj (busy.symm.trans held)
      exact .inl (List.mem_append_right _ List.mem_cons_self)
  | write count was serving busy => exact Kept.set was _ fun _ has => has

theorem acknowledge_nothingLost {state next : Forwarder} {arrives : Bool}
    (kept : NothingLost state) (taken : step state (.acknowledge arrives) = some next) :
    NothingLost next ↔ Careful state (.acknowledge arrives) := by
  cases step_change taken with
  | acknowledge _ handling =>
    cases arrives with
    | false => exact iff_of_true kept (by simp [Careful])
    | true =>
      simp only [Careful, handling, Option.some.injEq, forall_eq', forall_const]
      constructor
      · intro all
        exact all _ List.mem_cons_self
      · intro settled other member addressed
        rcases List.mem_cons.mp member with rfl | member
        · exact settled addressed
        · exact kept other member addressed

theorem finish_nothingLost {state next : Forwarder} {index : Nat} (kept : NothingLost state)
    (taken : step state (.finish index) = some next) :
    NothingLost next ↔ Careful state (.finish index) := by
  cases step_change taken with
  | finish was serving =>
    simp only [Careful, was, Option.some.injEq, forall_eq']
    constructor
    · intro all command member addressed _
      rcases (settled_set was).mp (all command member addressed) with
        (written | ⟨serves, _⟩) | elsewhere
      · exact .inl written
      · simp at serves
      · exact .inr elsewhere
    · intro careful command member addressed
      refine (settled_set was).mpr ?_
      obtain ⟨other, held, is, has⟩ := kept command member addressed
      by_cases same : other = index
      · subst same
        obtain rfl := Option.some.inj (was.symm.trans is)
        rcases has with written | ⟨_, waiting⟩
        · exact .inl (.inl written)
        · exact (careful command member addressed waiting).imp_left .inl
      · exact .inr ⟨other, held, same, is, has⟩

theorem step_nothingLost {state next : Forwarder} {action : Action} (kept : NothingLost state)
    (taken : step state action = some next) : NothingLost next ↔ Careful state action := by
  have quiet (going : ∀ index, action ≠ .finish index)
      (silent : ∀ arrives, action ≠ .acknowledge arrives) : NothingLost next := by
    intro command member addressed
    have keeps := step_kept taken going silent
    exact keeps.settled command (kept command (keeps.acked ▸ member) addressed)
  cases action with
  | acknowledge arrives => exact acknowledge_nothingLost kept taken
  | finish index => exact finish_nothingLost kept taken
  | _ => exact iff_of_true (quiet (by simp) (by simp)) trivial

/-! ## What is written -/

def Queued (session : CommandSession) (command : Command) : Prop :=
  command ∈ session.channel ∨ session.inHand = some command

/-- The stream holds whole frames of commands for the vehicle, and a part of the next one. -/
structure Framed (session : CommandSession) : Prop where
  written : ∀ command ∈ session.written, vehicleOf command.subject = some session.vehicleId
  queued : ∀ command, Queued session command →
    vehicleOf command.subject = some session.vehicleId
  frames : ∃ sent, session.stream = session.written.flatMap commandFrame ++ sent ∧
    (session.isOpen = true → session.inHand = none → sent = []) ∧
    ∀ command, session.inHand = some command → sent ++ session.rest = commandFrame command

theorem Framed.phase {session : CommandSession} (framed : Framed session)
    (was_open : session.isOpen = true) {phase : SessionPhase} :
    Framed { session with phase } := by
  obtain ⟨written, queued, sent, stream, idle, partly⟩ := framed
  exact ⟨written, queued, sent, stream, fun _ => idle was_open, partly⟩

structure Sound (state : Forwarder) : Prop where
  framed : ∀ (index : Nat) session, state.sessions[index]? = some session → Framed session
  registered : ∀ vehicleId index, state.registry vehicleId = some index →
    ∃ session, state.sessions[index]? = some session ∧ session.vehicleId = vehicleId

theorem Sound.setSession {state : Forwarder} {index : Nat} {old new : CommandSession}
    (sound : Sound state) (was : state.sessions[index]? = some old) (framed : Framed new)
    (same : new.vehicleId = old.vehicleId) : Sound (state.setSession index new) := by
  have inside := (List.getElem?_eq_some_iff.mp was).1
  constructor
  · intro other session is
    rw [Forwarder.setSession, List.getElem?_set] at is
    split_ifs at is
    · exact Option.some.inj is ▸ framed
    · exact sound.framed other session is
  · intro vehicleId other registered
    obtain ⟨session, is, named⟩ := sound.registered vehicleId other registered
    by_cases here : other = index
    · subst here
      obtain rfl := Option.some.inj (was.symm.trans is)
      exact ⟨new, List.getElem?_set_self inside, same.trans named⟩
    · exact ⟨session, by rw [Forwarder.setSession, List.getElem?_set_ne (Ne.symm here), is], named⟩

theorem registry_setRegistered (state : Forwarder) (vehicleId other : String)
    (index : Option Nat) :
    (state.setRegistered vehicleId index).registry other =
      if other = vehicleId then index else state.registry other :=
  Function.update_apply state.registry vehicleId index other

theorem Sound.unregister {state : Forwarder} (sound : Sound state) (vehicleId : String) :
    Sound (state.setRegistered vehicleId none) := by
  refine ⟨sound.framed, fun other index registered => ?_⟩
  rw [registry_setRegistered] at registered
  split_ifs at registered
  exact sound.registered other index registered

theorem Sound.connect {state : Forwarder} (sound : Sound state) (vehicleId : String) :
    Sound (({ state with
      sessions := state.sessions ++ [CommandSession.fresh vehicleId] }).setRegistered vehicleId
        (some state.sessions.length)) := by
  constructor
  · intro index session is
    rcases List.mem_append.mp (List.mem_of_getElem? is) with old | fresh
    · obtain ⟨other, was⟩ := List.mem_iff_getElem?.mp old
      exact sound.framed other session was
    · obtain rfl := List.mem_singleton.mp fresh
      exact ⟨by simp [CommandSession.fresh], by simp [Queued, CommandSession.fresh], [], rfl,
        fun _ _ => rfl, by simp [CommandSession.fresh]⟩
  · intro other index registered
    rw [registry_setRegistered] at registered
    split_ifs at registered with same
    · obtain rfl := Option.some.inj registered
      exact ⟨_, List.getElem?_concat_length, same.symm⟩
    · obtain ⟨session, is, named⟩ := sound.registered other index registered
      have inside := (List.getElem?_eq_some_iff.mp is).1
      exact ⟨session, by rw [← is]; exact List.getElem?_append_left inside, named⟩

theorem target_vehicle {state : Forwarder} (sound : Sound state) {vehicleId : String} {index : Nat}
    {session : CommandSession} (found : state.target vehicleId = some (index, session)) :
    session.vehicleId = vehicleId := by
  have was := target_session found
  simp only [target, Option.bind_eq_bind, Option.bind_eq_some_iff] at found
  obtain ⟨place, registered, _, _, found⟩ := found
  split_ifs at found
  obtain ⟨rfl, -⟩ := Prod.mk.inj (Option.some.inj found)
  obtain ⟨owner, is, named⟩ := sound.registered vehicleId place registered
  exact Option.some.inj (was.symm.trans is) ▸ named

theorem take_framed {session : CommandSession} {command : Command} {channel : List Command}
    (framed : Framed session) (serving : session.phase = .serving)
    (free : session.inHand = none) (queued : session.channel = command :: channel) :
    Framed { session with channel, inHand := some command, rest := commandFrame command } := by
  obtain ⟨sent, stream, idle, _⟩ := framed.frames
  have none_sent := idle (by simp [CommandSession.isOpen, serving]) free
  refine ⟨framed.written, ?_, [], by rw [stream, none_sent], fun _ _ => rfl, ?_⟩
  · rintro other (waits | held)
    · exact framed.queued other (.inl (by rw [queued]; exact List.mem_cons_of_mem _ waits))
    · obtain rfl := Option.some.inj held
      exact framed.queued command (.inl (by rw [queued]; exact List.mem_cons_self))
  · intro other held
    obtain rfl := Option.some.inj held
    rfl

theorem write_framed {session : CommandSession} {command : Command} (framed : Framed session)
    (busy : session.inHand = some command) (count : Nat) :
    Framed { session with
      rest := session.rest.drop count, stream := session.stream ++ session.rest.take count } := by
  obtain ⟨sent, stream, _, partly⟩ := framed.frames
  refine ⟨framed.written, framed.queued, sent ++ session.rest.take count, ?_, ?_, ?_⟩
  · simp only [stream, List.append_assoc]
  · intro _ free
    simp [busy] at free
  · intro other held
    simp only [List.append_assoc, List.take_append_drop]
    exact partly other held

theorem wrote_framed {session : CommandSession} {command : Command} (framed : Framed session)
    (busy : session.inHand = some command) {count : Nat} (complete : session.rest.length ≤ count) :
    Framed { session with
      rest := session.rest.drop count, stream := session.stream ++ session.rest.take count,
      inHand := none, written := session.written ++ [command] } := by
  obtain ⟨sent, stream, _, partly⟩ := framed.frames
  refine ⟨?_, ?_, [], ?_, fun _ _ => rfl, by simp⟩
  · intro other member
    rcases List.mem_append.mp member with before | last
    · exact framed.written other before
    · obtain rfl := List.mem_singleton.mp last
      exact framed.queued other (.inr busy)
  · rintro other (waits | held)
    · exact framed.queued other (.inl waits)
    · simp at held
  · simp only [stream, List.take_of_length_le complete, List.append_assoc, partly command busy,
      List.flatMap_append, List.flatMap_singleton, List.append_nil]

theorem step_sound {state next : Forwarder} {action : Action} (sound : Sound state)
    (taken : step state action = some next) : Sound next := by
  cases step_change taken with
  | connect vehicleId => exact sound.connect vehicleId
  | @acceptStreams index session was waiting =>
    have framed := sound.framed index session was
    exact sound.setSession was (framed.phase (by simp [CommandSession.isOpen, waiting])) rfl
  | @acceptFails index session was waiting =>
    have framed := sound.framed index session was
    exact sound.setSession was (framed.phase (by simp [CommandSession.isOpen, waiting])) rfl
  | @finish index session was serving =>
    obtain ⟨written, queued, sent, stream, _⟩ := sound.framed index session was
    exact sound.setSession was
      ⟨written, by simp [Queued], sent, stream, by simp [CommandSession.isOpen], by simp⟩ rfl
  | @cleanup index session was ended =>
    obtain ⟨written, queued, sent, stream, _, partly⟩ := sound.framed index session was
    have framed : Framed { session with phase := .cleaned, channel := [] } := by
      refine ⟨written, ?_, sent, stream, by simp [CommandSession.isOpen], partly⟩
      rintro command (waits | held)
      · simp at waits
      · exact queued command (.inr held)
    exact (sound.setSession was framed rfl).unregister session.vehicleId
  | unregister vehicleId => exact sound.unregister vehicleId
  | skip => exact ⟨sound.framed, sound.registered⟩
  | @deliver delivered vehicleId index session plain found =>
    have handling : Sound { state with handling := some delivered } :=
      ⟨sound.framed, sound.registered⟩
    have was := target_session found
    obtain ⟨written, queued, frames⟩ := sound.framed index session was
    refine handling.setSession was ⟨written, ?_, frames⟩ rfl
    rintro command (waits | held)
    · rcases List.mem_append.mp waits with before | last
      · exact queued command (.inl before)
      · obtain rfl := List.mem_singleton.mp last
        rw [plain, target_vehicle sound found]
    · exact queued command (.inr held)
  | refuse => exact sound
  | acknowledge => exact ⟨sound.framed, sound.registered⟩
  | @take index session _ _ was serving free queued =>
    exact sound.setSession was
      (take_framed (sound.framed index session was) serving free queued) rfl
  | @wrote index _ session _ was serving busy complete =>
    exact sound.setSession was (wrote_framed (sound.framed index session was) busy complete) rfl
  | @write index session _ count was serving busy =>
    exact sound.setSession was (write_framed (sound.framed index session was) busy count) rfl

/-! ## Whole runs -/

-- What counts as written stands whole and in order on the stream of the command's own vehicle.
theorem runs_write_frames {actions : List Action} {state : Forwarder}
    (ran : exec step start actions = some state) {index : Nat} {session : CommandSession}
    (is : state.sessions[index]? = some session) :
    session.written.flatMap commandFrame <+: session.stream ∧
      ∀ command ∈ session.written, vehicleOf command.subject = some session.vehicleId := by
  have fresh : Sound start := ⟨by simp [start], by simp [start]⟩
  have sound := exec_invariant (fun _ _ _ sound taken => step_sound sound taken) fresh ran
  obtain ⟨written, _, sent, stream, _⟩ := sound.framed index session is
  exact ⟨⟨sent, stream.symm⟩, written⟩

/-- In every state of a run all acknowledged commands are written, or wait for a running sender,
exactly if every step is careful. -/
theorem runs_lose_nothing_iff (actions : List Action) :
    Throughout step NothingLost start actions ↔ Along step Careful start actions := by
  have preserves (state : Forwarder) (action : Action) (next : Forwarder) (_ : True)
      (_ : NothingLost state) (_ : Careful state action) (_ : step state action = some next) :
      True := trivial
  exact throughout_iff_along preserves
    (fun _ _ _ _ kept taken => step_nothingLost kept taken) trivial (by simp [NothingLost, start])

def landCommand : Command := ⟨1, "command.v1", [0x0A]⟩

/-- The session ends between the acknowledgment and the write. -/
def endedRun : List Action :=
  [.connect "v1", .acceptStreams 0, .deliver landCommand, .acknowledge true, .finish 0]

theorem acknowledged_command_lost :
    (∃ state, exec step start endedRun = some state ∧ landCommand ∈ state.acked ∧
      ¬ Settled state landCommand) ∧ ¬ Throughout step NothingLost start endedRun := by
  have ended : ∃ state, exec step start endedRun = some state ∧ state.acked = [landCommand] ∧
      state.sessions = [⟨"v1", .ended, [], none, [], [], []⟩] := ⟨_, rfl, rfl, rfl⟩
  obtain ⟨state, ran, acked, sessions⟩ := ended
  have member : landCommand ∈ state.acked := by simp [acked]
  have lost : ¬ Settled state landCommand := by
    rintro ⟨index, session, is, has⟩
    have only := List.mem_of_getElem? is
    simp only [sessions, List.mem_singleton] at only
    subst only
    simp [Has] at has
  refine ⟨⟨state, ran, member, lost⟩, fun all => lost ?_⟩
  have kept := throughout_iff_prefixes.mp all endedRun [] state (List.append_nil _).symm ran
  exact kept landCommand member rfl

/-! ## Orderly runs -/

/-- Commands are put on the channels of running senders only, and a session ends with an empty
channel and nothing in hand. -/
def Orderly (state : Forwarder) : Action → Prop
  | .deliver command =>
    ∀ vehicleId index session, vehicleOf command.subject = some vehicleId →
      state.target vehicleId = some (index, session) → session.phase = .serving
  | .finish index =>
    ∀ session, state.sessions[index]? = some session →
      session.channel = [] ∧ session.inHand = none
  | _ => True

-- In an orderly run the command that is about to be acknowledged is settled already.
structure Pledged (state : Forwarder) : Prop where
  lost : NothingLost state
  handled : ∀ command, state.handling = some command → Addressed command → Settled state command

theorem Kept.pledged {state next : Forwarder} (kept : Kept state next)
    (same : next.handling = state.handling) (pledged : Pledged state) : Pledged next where
  lost command member addressed :=
    kept.settled command (pledged.lost command (kept.acked ▸ member) addressed)
  handled command handling addressed :=
    kept.settled command (pledged.handled command (same ▸ handling) addressed)

theorem step_handling {state next : Forwarder} {action : Action}
    (taken : step state action = some next) (fetched : ∀ command, action ≠ .deliver command)
    (silent : ∀ arrives, action ≠ .acknowledge arrives) : next.handling = state.handling := by
  cases step_change taken with
  | @skip command => exact absurd rfl (fetched command)
  | @deliver command => exact absurd rfl (fetched command)
  | refuse command => exact absurd rfl (fetched command)
  | acknowledge arrives => exact absurd rfl (silent arrives)
  | _ => rfl

theorem step_pledged {state next : Forwarder} {action : Action} (pledged : Pledged state)
    (orderly : Orderly state action) (taken : step state action = some next) : Pledged next := by
  cases action with
  | deliver delivered =>
    have kept := step_kept taken (by simp) (by simp)
    refine ⟨fun command member addressed => ?_, fun command handling addressed => ?_⟩
    · exact kept.settled command (pledged.lost command (kept.acked ▸ member) addressed)
    · cases step_change taken with
      | skip plain =>
        obtain rfl := Option.some.inj handling
        simp [Addressed, plain] at addressed
      | @deliver _ vehicleId index session plain found =>
        obtain rfl := Option.some.inj handling
        have serving := orderly vehicleId index session plain found
        have waits : delivered ∈ session.channel ++ [delivered] := by simp
        exact (settled_set (target_session found)).mpr (.inl (.inr ⟨serving, .inl waits⟩))
      | refuse => exact pledged.handled command handling addressed
  | acknowledge arrives =>
    have careful : Careful state (.acknowledge arrives) := fun _ => pledged.handled
    refine ⟨(acknowledge_nothingLost pledged.lost taken).mpr careful, ?_⟩
    cases step_change taken with
    | acknowledge => simp
  | finish index =>
    cases step_change taken with
    | @finish _ session was serving =>
      obtain ⟨drained, free⟩ := orderly session was
      refine Kept.pledged (Kept.set was _ ?_) rfl pledged
      rintro command (written | ⟨_, waits | held⟩)
      · exact .inl written
      · simp [drained] at waits
      · simp [free] at held
  | _ =>
    have kept := step_kept taken (by simp) (by simp)
    exact kept.pledged (step_handling taken (by simp) (by simp)) pledged

theorem orderly_runs_lose_nothing (actions : List Action)
    (orderly : Along step Orderly start actions) : Throughout step NothingLost start actions := by
  have fresh : Pledged start := ⟨by simp [NothingLost, start], by simp [start]⟩
  exact throughout_of_along (fun _ _ _ pledged met taken => step_pledged pledged met taken)
    (fun _ pledged => pledged.lost) fresh orderly

end Forwarder

end SystemScale.Relay

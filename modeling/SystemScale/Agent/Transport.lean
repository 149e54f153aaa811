import SystemScale.Agent.Replay

set_option autoImplicit false

/-!
# The transport loop

Connections come and go over one ring. `send_telemetry_loop` pops an envelope and writes its frame;
when anything on the connection fails, the loop is dropped at the await where it stands.
-/

namespace SystemScale.Agent

open AdapterTrait Runs
open Wire (Outcome)

variable {geometry : Geometry}

structure Transport (geometry : Geometry) where
  replay : Replay geometry
  connected : Bool
  -- The place of the envelope being written, and the bytes of its frame still to be taken.
  writing : Option (Nat × List UInt8)
  written : List Nat

inductive Transport.Action where
  | push (env : DataEnvelope)
  | connect
  | pop
  | resume
  -- The stream takes some bytes of the frame.
  | write (count : Nat)
  | writeFails
  -- Another future of `try_join!` fails, or the connection closes.
  | disconnect

def frame (payload : List UInt8) : List UInt8 := Bytes.leBytes 4 payload.length ++ payload

namespace Transport

def start (ring : Ring geometry) : Transport geometry := ⟨Replay.start ring, false, none, []⟩

/-- The loop goes on to write what the pop returned, if it returned. -/
def receive (state : Transport geometry) (replay : Replay geometry) : Transport geometry :=
  { state with
    replay
    writing := (replay.returned.drop state.replay.returned.length).head?.map
      fun entry => (entry.1, frame entry.2) }

-- `connect_and_run` returns and its futures are gone, the local payload with them.
def dropped (state : Transport geometry) : Transport geometry :=
  { state with
    replay := { state.replay with suspended := none }
    connected := false
    writing := none }

def step (state : Transport geometry) : Action → Option (Transport geometry)
  | .push env => (state.replay.step (.push env)).map fun replay => { state with replay }
  | .connect =>
    if state.connected then none
    else (state.replay.step .onReconnect).map fun replay => { state with replay, connected := true }
  | .pop =>
    if state.connected ∧ state.writing = none then (state.replay.step .pop).map state.receive
    else none
  | .resume =>
    if state.connected ∧ state.writing = none then (state.replay.step .resume).map state.receive
    else none
  | .write count =>
    match state.writing with
    | none => none
    | some (index, rest) =>
      if 0 < count ∧ count < rest.length then
        some { state with writing := some (index, rest.drop count) }
      else if count = rest.length then
        some { state with writing := none, written := state.written ++ [index] }
      else none
  | .writeFails => if state.writing = none then none else some state.dropped
  | .disconnect => if state.connected then some state.dropped else none

def InFlight (state : Transport geometry) (index : Nat) : Prop :=
  ∃ rest, state.writing = some (index, rest)

/-- What is promised of the loop: what it popped was written, unless it is still at it, and nothing
is lost but by lapping. -/
structure Delivered (state : Transport geometry) : Prop where
  taken : ∀ index ∈ state.replay.order, index ∈ state.written ∨ state.InFlight index
  accounted : ∀ index < state.replay.ring.head,
    (index ∈ state.written ∨ state.InFlight index) ∨ state.replay.ring.tail ≤ index ∨
      index + geometry.numSlots < state.replay.ring.head

/-- Connections end between frames, and pops are not lapped in their sleep. -/
def Gentle (state : Transport geometry) : Action → Prop
  | .resume => state.replay.Undisturbed .resume
  | .writeFails => state.writing = none
  | .disconnect => state.writing = none
  | _ => True

structure Sound (state : Transport geometry) : Prop where
  sound : state.replay.Sound
  faithful : state.replay.Faithful
  popped : ∀ index ∈ state.written, index ∈ state.replay.order
  unwritten : ∀ index, state.InFlight index →
    index ∈ state.replay.order ∧ index ∉ state.written

/-! ## One step -/

theorem Delivered.of_sound {state : Transport geometry} (sound : Sound state)
    (taken : ∀ index ∈ state.replay.order, index ∈ state.written ∨ state.InFlight index) :
    Delivered state := by
  refine ⟨taken, ?_⟩
  intro index inside
  rcases sound.faithful.accounted index inside with returned | remaining
  · exact .inl (taken index returned)
  · exact .inr remaining

theorem unreturned {state next : Transport geometry} (sound : Sound state)
    (delivered : Delivered state) (kept : next.replay.Sound ∧ next.replay.Faithful)
    (order : next.replay.order = state.replay.order) (written : next.written = state.written)
    (writing : next.writing = state.writing) : Sound next ∧ Delivered next := by
  have flight (index : Nat) : next.InFlight index ↔ state.InFlight index := by
    unfold InFlight
    rw [writing]
  have keeps : Sound next := by
    refine ⟨kept.1, kept.2, ?_, ?_⟩
    · rw [written, order]
      exact sound.popped
    · intro index inFlight
      rw [written, order]
      exact sound.unwritten index ((flight index).mp inFlight)
  refine ⟨keeps, Delivered.of_sound keeps ?_⟩
  intro index member
  rw [order] at member
  rw [written, flight]
  exact delivered.taken index member

theorem receive_finish {state : Transport geometry} (sound : Sound state)
    {tail : Nat} (written : tail < state.replay.ring.head) :
    ∃ rest, (state.receive (state.replay.finish tail)).writing =
        some (lastWriter geometry.numSlots state.replay.ring.head tail, rest) ∧
      (state.replay.finish tail).order =
        state.replay.order ++ [lastWriter geometry.numSlots state.replay.ring.head tail] := by
  obtain ⟨bytes, _, finished⟩ := sound.sound.finish_eq written
  refine ⟨frame bytes, ?_, ?_⟩
  · rw [finished]
    simp [receive]
  · rw [finished]
    simp [Replay.order]

theorem returned {state : Transport geometry} (sound : Sound state) (delivered : Delivered state)
    (idle : state.writing = none) {tail : Nat} {action : Replay.Action}
    (finishes : state.replay.Finishes tail action)
    (same : state.replay.ring.tail % geometry.numSlots = tail % geometry.numSlots) :
    Sound (state.receive (state.replay.finish tail)) ∧
      Delivered (state.receive (state.replay.finish tail)) := by
  obtain ⟨loaded, nonempty⟩ := sound.sound.finishes finishes
  have inside : tail < state.replay.ring.head := by omega
  have kept := Replay.finish_faithful sound.sound sound.faithful loaded nonempty same
  have oldest := lastWriter_eq geometry.numSlots geometry.nonempty inside same nonempty
    sound.sound.bounded
  obtain ⟨rest, writing, order⟩ := receive_finish sound inside
  rw [oldest] at writing order
  have keeps : Sound (state.receive (state.replay.finish tail)) := by
    refine ⟨kept.1, kept.2, ?_, ?_⟩
    · intro index member
      show index ∈ (state.replay.finish tail).order
      rw [order]
      exact List.mem_append_left _ (sound.popped index member)
    · rintro index ⟨others, inFlight⟩
      rw [writing] at inFlight
      obtain rfl := congrArg Prod.fst (Option.some.inj inFlight)
      refine ⟨?_, ?_⟩
      · show _ ∈ (state.replay.finish tail).order
        rw [order]
        simp
      · intro member
        have before := sound.sound.taken _ (sound.popped _ member)
        exact Nat.lt_irrefl _ before
  refine ⟨keeps, Delivered.of_sound keeps ?_⟩
  intro index member
  have member : index ∈ (state.replay.finish tail).order := member
  rw [order, List.mem_append, List.mem_singleton] at member
  rcases member with earlier | rfl
  · rcases delivered.taken index earlier with done | ⟨others, inFlight⟩
    · exact .inl done
    · rw [idle] at inFlight
      cases inFlight
  · exact .inr ⟨rest, writing⟩

-- The envelope at the tail is gone, and it is not the one being written.
theorem disturbed_loses {state : Transport geometry} (sound : Sound state) {tail : Nat}
    (suspended : state.replay.suspended = some tail)
    (other : state.replay.ring.tail % geometry.numSlots ≠ tail % geometry.numSlots) :
    ¬ Delivered (state.receive (state.replay.finish tail)) := by
  intro delivered
  obtain ⟨loaded, nonempty⟩ := sound.sound.loaded tail suspended
  have inside : tail < state.replay.ring.head := by omega
  have bounded := sound.sound.bounded
  have ring := Replay.finish_ring state.replay tail
  obtain ⟨rest, writing, _⟩ := receive_finish sound inside
  have accounted := delivered.accounted state.replay.ring.tail
    (show state.replay.ring.tail < (state.replay.finish tail).ring.head by
      rw [ring]
      exact nonempty)
  rcases accounted with (done | ⟨others, inFlight⟩) | waiting | overwritten
  · exact Nat.lt_irrefl _ (sound.sound.taken _ (sound.popped _ done))
  · rw [writing] at inFlight
    have last : lastWriter geometry.numSlots state.replay.ring.head tail = state.replay.ring.tail :=
      congrArg Prod.fst (Option.some.inj inFlight)
    exact other (last ▸ lastWriter_mod geometry.numSlots inside)
  · have waiting : (state.replay.finish tail).ring.tail ≤ state.replay.ring.tail := waiting
    rw [ring] at waiting
    exact Nat.not_succ_le_self _ waiting
  · have overwritten : state.replay.ring.tail + geometry.numSlots <
        (state.replay.finish tail).ring.head := overwritten
    rw [ring] at overwritten
    exact absurd overwritten (Nat.not_lt.mpr bounded)

-- Ending a connection loses nothing exactly if no frame was under way.
theorem dropped_delivered {state : Transport geometry} (sound : Sound state)
    (delivered : Delivered state) :
    (state.writing = none → Sound state.dropped ∧ Delivered state.dropped) ∧
      (Delivered state.dropped → state.writing = none) := by
  constructor
  · intro idle
    have kept : state.dropped.replay.Sound ∧ state.dropped.replay.Faithful := by
      have quiet : Replay.Quiet state.replay state.dropped.replay :=
        ⟨rfl, rfl, rfl, rfl, rfl, nofun⟩
      exact Replay.quiet_faithful sound.sound sound.faithful quiet
    exact unreturned sound delivered kept rfl rfl idle.symm
  · intro kept
    cases writing : state.writing with
    | none => rfl
    | some entry =>
      obtain ⟨index, rest⟩ := entry
      obtain ⟨member, missing⟩ := sound.unwritten index ⟨rest, writing⟩
      rcases kept.taken index member with done | ⟨others, inFlight⟩
      · exact absurd done missing
      · cases inFlight

theorem write_delivered {state next : Transport geometry} {count : Nat} (sound : Sound state)
    (delivered : Delivered state) (taken : step state (.write count) = some next) :
    Sound next ∧ Delivered next := by
  simp only [step] at taken
  cases writing : state.writing with
  | none => simp [writing] at taken
  | some entry =>
    obtain ⟨index, rest⟩ := entry
    obtain ⟨popped, missing⟩ := sound.unwritten index ⟨rest, writing⟩
    have only (other : Nat) (inFlight : state.InFlight other) : other = index := by
      obtain ⟨others, is⟩ := inFlight
      rw [writing] at is
      exact (congrArg Prod.fst (Option.some.inj is)).symm
    simp only [writing] at taken
    split_ifs at taken
    next =>
      obtain rfl := Option.some.inj taken
      have flight (other : Nat) :
          InFlight { state with writing := some (index, rest.drop count) } other ↔
            other = index := by
        constructor
        · rintro ⟨others, is⟩
          exact (congrArg Prod.fst (Option.some.inj is)).symm
        · rintro rfl
          exact ⟨_, rfl⟩
      have keeps : Sound { state with writing := some (index, rest.drop count) } := by
        refine ⟨sound.sound, sound.faithful, sound.popped, ?_⟩
        intro other inFlight
        obtain rfl := (flight other).mp inFlight
        exact ⟨popped, missing⟩
      refine ⟨keeps, Delivered.of_sound keeps ?_⟩
      intro other member
      rcases delivered.taken other member with done | inFlight
      · exact .inl done
      · exact .inr ((flight other).mpr (only other inFlight))
    next =>
      obtain rfl := Option.some.inj taken
      have keeps : Sound { state with writing := none, written := state.written ++ [index] } := by
        refine ⟨sound.sound, sound.faithful, ?_, ?_⟩
        · intro other member
          rcases List.mem_append.mp member with earlier | last
          · exact sound.popped other earlier
          · obtain rfl := List.mem_singleton.mp last
            exact popped
        · rintro other ⟨others, is⟩
          cases is
      refine ⟨keeps, Delivered.of_sound keeps ?_⟩
      intro other member
      left
      rcases delivered.taken other member with done | inFlight
      · exact List.mem_append_left _ done
      · obtain rfl := only other inFlight
        simp

theorem receive_quiet {state : Transport geometry} {replay : Replay geometry}
    (quiet : Replay.Quiet state.replay replay) : (state.receive replay).writing = none := by
  simp [receive, quiet.returned]

theorem quiet_delivered {state next : Transport geometry} (sound : Sound state)
    (delivered : Delivered state) (quiet : Replay.Quiet state.replay next.replay)
    (written : next.written = state.written) (writing : next.writing = state.writing) :
    Sound next ∧ Delivered next :=
  unreturned sound delivered (Replay.quiet_faithful sound.sound sound.faithful quiet)
    (congrArg (List.map Prod.fst) quiet.returned) written writing

theorem receive_delivered {state next : Transport geometry} {action : Replay.Action}
    (sound : Sound state) (delivered : Delivered state) (idle : state.writing = none)
    (pops : action = .pop ∨ action = .resume)
    (taken : (state.replay.step action).map state.receive = some next) :
    (state.replay.Undisturbed action → Sound next ∧ Delivered next) ∧
      (Delivered next → state.replay.Undisturbed action) := by
  obtain ⟨replay, moved, rfl⟩ := Option.map_eq_some_iff.mp taken
  rcases Replay.step_cases moved with ⟨env, pushes, _⟩ | ⟨tail, finishes, rfl⟩ | ⟨quiet, other⟩
  · rcases pops with rfl | rfl <;> cases pushes
  · rcases pops with rfl | rfl
    · have same : tail = state.replay.ring.tail := finishes.1
      exact ⟨fun _ => returned sound delivered idle finishes (by rw [same]), fun _ => trivial⟩
    · constructor
      · intro undisturbed
        exact returned sound delivered idle finishes (undisturbed tail finishes)
      · intro kept index is
        have suspended : state.replay.suspended = some tail := finishes
        obtain rfl : tail = index := Option.some.inj (suspended.symm.trans is)
        by_contra disturbed
        exact disturbed_loses sound suspended disturbed kept
  · have waits : Sound (state.receive replay) ∧ Delivered (state.receive replay) :=
      quiet_delivered sound delivered quiet rfl ((receive_quiet quiet).trans idle.symm)
    rcases pops with rfl | rfl
    · exact ⟨fun _ => waits, fun _ => trivial⟩
    · exact absurd rfl other

theorem step_delivered {state next : Transport geometry} {action : Action} (sound : Sound state)
    (delivered : Delivered state) (taken : step state action = some next) :
    (Gentle state action → Sound next ∧ Delivered next) ∧
      (Delivered next → Gentle state action) := by
  cases action with
  | push env =>
    obtain rfl := Option.some.inj taken
    have kept := Replay.pushing_faithful sound.sound sound.faithful env
    exact ⟨fun _ => unreturned sound delivered kept rfl rfl rfl, fun _ => trivial⟩
  | connect =>
    simp only [step] at taken
    split_ifs at taken
    obtain ⟨replay, moved, rfl⟩ := Option.map_eq_some_iff.mp taken
    rcases Replay.step_cases moved with ⟨env, pushes, _⟩ | ⟨tail, finishes, _⟩ | ⟨quiet, _⟩
    · cases pushes
    · exact finishes.elim
    · exact ⟨fun _ => quiet_delivered sound delivered quiet rfl rfl, fun _ => trivial⟩
  | pop =>
    simp only [step] at taken
    split_ifs at taken with ready
    exact receive_delivered sound delivered ready.2 (.inl rfl) taken
  | resume =>
    simp only [step] at taken
    split_ifs at taken with ready
    exact receive_delivered sound delivered ready.2 (.inr rfl) taken
  | write count => exact ⟨fun _ => write_delivered sound delivered taken, fun _ => trivial⟩
  | writeFails =>
    simp only [step] at taken
    split_ifs at taken
    obtain rfl := Option.some.inj taken
    exact dropped_delivered sound delivered
  | disconnect =>
    simp only [step] at taken
    split_ifs at taken
    obtain rfl := Option.some.inj taken
    exact dropped_delivered sound delivered

theorem start_delivered {ring : Ring geometry} (head : ring.head = 0) (tail : ring.tail = 0) :
    Sound (start ring) ∧ Delivered (start ring) := by
  obtain ⟨sound, faithful⟩ := Replay.start_faithful head tail
  have keeps : Sound (start ring) := by
    refine ⟨sound, faithful, nofun, ?_⟩
    rintro index ⟨rest, is⟩
    cases is
  exact ⟨keeps, Delivered.of_sound keeps nofun⟩

/-- A run of the transport loop keeps its promise exactly if it is gentle throughout. -/
theorem runs_deliver_iff (config : RingBufferConfig) (file : List UInt8)
    {ring : Ring geometry} (opened : openRing config file = .ok ⟨geometry, ring⟩)
    (actions : List Action) :
    Throughout step Delivered (start ring) actions ↔ Along step Gentle (start ring) actions := by
  obtain ⟨head, tail⟩ := openRing_fresh opened
  obtain ⟨sound, delivered⟩ := start_delivered head tail
  have preserves (state : Transport geometry) (action : Action) (next : Transport geometry)
      (sound : Sound state) (delivered : Delivered state) (gentle : Gentle state action)
      (taken : step state action = some next) : Sound next :=
    ((step_delivered sound delivered taken).1 gentle).1
  have exact_step (state : Transport geometry) (action : Action) (next : Transport geometry)
      (sound : Sound state) (delivered : Delivered state)
      (taken : step state action = some next) : Delivered next ↔ Gentle state action :=
    have keeps := step_delivered sound delivered taken
    ⟨keeps.2, fun gentle => (keeps.1 gentle).2⟩
  exact throughout_iff_along preserves exact_step sound delivered

theorem quiet_connection_delivers :
    Throughout step Delivered (start Replay.twoSlots)
        [.connect, .push (sample 0), .disconnect] ↔
      Along step Gentle (start Replay.twoSlots)
        [.connect, .push (sample 0), .disconnect] :=
  runs_deliver_iff ⟨160, 80⟩ [] rfl [.connect, .push (sample 0), .disconnect]

-- The connection closes when two bytes of the first frame are written.
theorem broken_write_undelivered :
    openRing ⟨160, 80⟩ [] = .ok ⟨_, Replay.twoSlots⟩ ∧
      ¬ Throughout step Delivered (start Replay.twoSlots)
        [.connect, .push (sample 0), .pop, .write 2, .disconnect] := by
  refine ⟨rfl, ?_⟩
  intro all
  obtain ⟨final, ran, order, written, writing⟩ : ∃ final,
      exec step (start Replay.twoSlots) [.connect, .push (sample 0), .pop, .write 2, .disconnect] =
        some final ∧ final.replay.order = [0] ∧ final.written = [] ∧ final.writing = none :=
    ⟨_, rfl, rfl, rfl, rfl⟩
  have delivered := throughout_iff_prefixes.mp all _ [] final (List.append_nil _).symm ran
  rcases delivered.taken 0 (by simp [order]) with done | ⟨rest, inFlight⟩
  · simp [written] at done
  · rw [writing] at inFlight
    cases inFlight

end Transport

end SystemScale.Agent

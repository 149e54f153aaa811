import SystemScale.Lib.Quic
import SystemScale.Lib.Runs
import SystemScale.Relay.Telemetry

set_option autoImplicit false

/-!
# Setting up a connection

The agent's `connect_and_run` and the relay's `handle_connection` over one connection: the agent
opens streams and starts its loops, the relay accepts streams and starts its handlers.
-/

namespace SystemScale.Contract

open Quic Relay Runs

inductive AgentPhase where
  | opening
  | looping
  deriving DecidableEq

inductive RelayPhase where
  | arriving
  | accepting
  | serving
  | closed
  deriving DecidableEq

/-- `written` holds the telemetry frames that the agent wrote to the first stream. -/
structure Link where
  streams : Streams
  agent : AgentPhase
  relay : RelayPhase
  up : Bool
  written : List (List UInt8)
  published : List Relay.Message

inductive Link.Action where
  | openBi
  | startLoops
  | sendTelemetry (payload : List UInt8)
  | sendAck
  | sendHeartbeat
  | arrive (named : Bool)
  | acceptBi
  | serve
  | publish
  | lose

-- Telemetry, commands with their ACKs, and heartbeats; the agent has no fourth `open_bi`.
def openedStreams : Nat := 3

-- `accept_vehicle_streams` waits for a stream of video metadata as well.
def awaitedStreams : Nat := 4

namespace Link

def start : Link := ⟨Streams.fresh, .opening, .arriving, true, [], []⟩

def send (link : Link) (stream : Nat) : Option Link :=
  if link.agent = .looping ∧ link.up = true then
    (link.streams.write stream).map fun streams => { link with streams := streams }
  else none

section System

variable (awaits : Nat) (vehicleId : String)

def step (link : Link) : Action → Option Link
  | .openBi =>
    if link.agent = .opening ∧ link.streams.opened < openedStreams ∧ link.up = true then
      some { link with streams := link.streams.openBi }
    else none
  | .startLoops =>
    if link.agent = .opening ∧ link.streams.opened = openedStreams then
      some { link with agent := .looping }
    else none
  | .sendTelemetry payload =>
    (link.send 0).map fun next => { next with written := next.written ++ [payload] }
  | .sendAck => link.send 1
  | .sendHeartbeat => link.send 2
  | .arrive named =>
    if link.relay = .arriving ∧ link.up = true then
      if named then some { link with relay := .accepting }
      else some { link with relay := .closed, up := false }
    else none
  | .acceptBi =>
    if link.relay = .accepting ∧ link.up = true ∧ link.streams.accepted < awaits then
      link.streams.acceptBi.map fun streams => { link with streams := streams }
    else none
  | .serve =>
    if link.relay = .accepting ∧ link.streams.accepted = awaits then
      some { link with relay := .serving }
    else none
  | .publish =>
    if link.relay = .serving ∧ link.up = true then
      match link.written[link.published.length]? with
      | some frame =>
        match handleTelemetryFrame vehicleId frame with
        | .ok message => some { link with published := link.published ++ [message] }
        | .hang => none
        -- The other handlers end with this one, and the connection is dropped.
        | _ => some { link with relay := .closed, up := false }
      | none => none
    else none
  | .lose => if link.up then some { link with up := false } else none

def Readable (frame : List UInt8) : Prop :=
  ∃ message, handleTelemetryFrame vehicleId frame = .ok message

/-- The relay can still get to its handlers with the connection up, and, where it can read them,
publish all frames that were written. -/
def CanServe (link : Link) : Prop :=
  ∃ actions final, exec (step awaits vehicleId) link actions = some final ∧ final.up = true ∧
    final.relay = .serving ∧
    ((∀ frame ∈ link.written, Readable vehicleId frame) →
      final.published.map Relay.Message.data = link.written)

/-- Once the agent is in its loops, the relay is not stuck as long as the connection stays up. -/
def Served (link : Link) : Prop :=
  link.agent = .looping → link.up = true → CanServe awaits vehicleId link

structure Sound (link : Link) : Prop where
  few : link.streams.opened ≤ openedStreams
  all : link.agent = .looping → link.streams.opened = openedStreams
  awaited : link.streams.accepted ≤ awaits
  served : link.relay = .serving → link.streams.accepted = awaits
  held : link.up = true → link.relay ≠ .closed
  inOrder : link.published.map Relay.Message.data <+: link.written

end System

/-! ## One step -/

theorem send_spec {link next : Link} {stream : Nat} (taken : link.send stream = some next) :
    ∃ streams, link.streams.write stream = some streams ∧ next = { link with streams := streams } ∧
      link.agent = .looping ∧ link.up = true := by
  unfold send at taken
  split_ifs at taken with ready
  obtain ⟨streams, wrote, rfl⟩ := Option.map_eq_some_iff.mp taken
  exact ⟨streams, wrote, rfl, ready⟩

section Steps

variable {awaits : Nat} {vehicleId : String} {link next : Link} {action : Action}

theorem start_sound : Sound awaits start where
  few := Nat.zero_le _
  all := by simp [start]
  awaited := Nat.zero_le _
  served := by simp [start]
  held := by simp [start]
  inOrder := List.prefix_rfl

theorem Sound.send {stream : Nat} (sound : Sound awaits link)
    (taken : link.send stream = some next) : Sound awaits next := by
  obtain ⟨streams, wrote, rfl, _⟩ := send_spec taken
  obtain ⟨opened, accepted, _⟩ := Streams.write_spec wrote
  exact
    { few := opened.trans_le sound.few
      all := fun looping => opened.trans (sound.all looping)
      awaited := accepted.trans_le sound.awaited
      served := fun serving => accepted.trans (sound.served serving)
      held := sound.held
      inOrder := sound.inOrder }

theorem step_sound (sound : Sound awaits link)
    (taken : step awaits vehicleId link action = some next) : Sound awaits next := by
  cases action with
  | openBi =>
    simp only [step] at taken
    split_ifs at taken with ready
    obtain rfl := Option.some.inj taken
    exact { sound with few := ready.2.1, all := fun looping => by simp [ready.1] at looping }
  | startLoops =>
    simp only [step] at taken
    split_ifs at taken with ready
    obtain rfl := Option.some.inj taken
    exact { sound with all := fun _ => ready.2 }
  | sendTelemetry payload =>
    obtain ⟨sent, done, rfl⟩ := Option.map_eq_some_iff.mp taken
    have kept := sound.send done
    exact { kept with inOrder := kept.inOrder.trans (List.prefix_append _ _) }
  | sendAck => exact sound.send taken
  | sendHeartbeat => exact sound.send taken
  | arrive named =>
    simp only [step] at taken
    split_ifs at taken <;> obtain rfl := Option.some.inj taken
    · exact { sound with served := by simp, held := by simp }
    · exact { sound with served := by simp, held := by simp }
  | acceptBi =>
    simp only [step] at taken
    split_ifs at taken with ready
    obtain ⟨streams, done, rfl⟩ := Option.map_eq_some_iff.mp taken
    obtain ⟨opened, _, accepted⟩ := Streams.acceptBi_spec done
    exact
      { few := opened.trans_le sound.few
        all := fun looping => opened.trans (sound.all looping)
        awaited := accepted.trans_le ready.2.2
        served := fun serving => by simp [ready.1] at serving
        held := sound.held
        inOrder := sound.inOrder }
  | serve =>
    simp only [step] at taken
    split_ifs at taken with ready
    obtain rfl := Option.some.inj taken
    exact { sound with served := fun _ => ready.2, held := by simp }
  | publish =>
    simp only [step] at taken
    split_ifs at taken with ready
    split at taken
    next frame unread =>
      split at taken
      next message published =>
        obtain rfl := Option.some.inj taken
        obtain ⟨_, _, data⟩ := handleTelemetryFrame_ok published
        obtain ⟨rest, split⟩ := sound.inOrder
        refine { sound with inOrder := ?_ }
        have next_frame : rest.head? = some frame := by
          rw [← split, List.getElem?_append_right (by simp)] at unread
          simpa [List.head?_eq_getElem?] using unread
        obtain ⟨tail, rfl⟩ := List.head?_eq_some_iff.mp next_frame
        exact ⟨tail, by simp [data, ← split]⟩
      next => simp at taken
      next =>
        obtain rfl := Option.some.inj taken
        exact { sound with served := by simp, held := by simp }
    next => simp at taken
  | lose =>
    simp only [step] at taken
    split_ifs at taken
    obtain rfl := Option.some.inj taken
    exact { sound with held := by simp }

theorem step_loops (taken : step awaits vehicleId link action = some next)
    (looping : next.agent = .looping) (up : next.up = true) :
    link.up = true ∧ (link.agent = .looping ∨ action = .startLoops) := by
  cases action with
  | openBi =>
    simp only [step] at taken
    split_ifs at taken with ready
    obtain rfl := Option.some.inj taken
    exact ⟨up, .inl looping⟩
  | startLoops =>
    simp only [step] at taken
    split_ifs at taken
    obtain rfl := Option.some.inj taken
    exact ⟨up, .inr rfl⟩
  | sendTelemetry payload =>
    obtain ⟨sent, done, rfl⟩ := Option.map_eq_some_iff.mp taken
    obtain ⟨_, _, rfl, ready⟩ := send_spec done
    exact ⟨up, .inl looping⟩
  | sendAck =>
    obtain ⟨_, _, rfl, ready⟩ := send_spec taken
    exact ⟨up, .inl looping⟩
  | sendHeartbeat =>
    obtain ⟨_, _, rfl, ready⟩ := send_spec taken
    exact ⟨up, .inl looping⟩
  | arrive named =>
    simp only [step] at taken
    split_ifs at taken <;> obtain rfl := Option.some.inj taken
    · exact ⟨up, .inl looping⟩
    · simp at up
  | acceptBi =>
    simp only [step] at taken
    split_ifs at taken
    obtain ⟨_, _, rfl⟩ := Option.map_eq_some_iff.mp taken
    exact ⟨up, .inl looping⟩
  | serve =>
    simp only [step] at taken
    split_ifs at taken
    obtain rfl := Option.some.inj taken
    exact ⟨up, .inl looping⟩
  | publish =>
    simp only [step] at taken
    split_ifs at taken
    split at taken
    next =>
      split at taken
      next =>
        obtain rfl := Option.some.inj taken
        exact ⟨up, .inl looping⟩
      next => simp at taken
      next =>
        obtain rfl := Option.some.inj taken
        simp at up
    next => simp at taken
  | lose =>
    simp only [step] at taken
    split_ifs at taken
    obtain rfl := Option.some.inj taken
    simp at up

/-! ## Where the relay waits for no more streams than there are -/

theorem CanServe.after {mid : Link} {actions : List Action}
    (ran : exec (step awaits vehicleId) link actions = some mid) (same : mid.written = link.written)
    (later : CanServe awaits vehicleId mid) : CanServe awaits vehicleId link := by
  obtain ⟨rest, final, ran_rest, up, serving, published⟩ := later
  refine ⟨actions ++ rest, final, ?_, up, serving, same ▸ published⟩
  rw [exec_append, ran]
  exact ran_rest

theorem CanServe.step (taken : step awaits vehicleId link action = some next)
    (same : next.written = link.written) (later : CanServe awaits vehicleId next) :
    CanServe awaits vehicleId link := by
  have ran : exec (Link.step awaits vehicleId) link [action] = some next := by
    simp [exec_cons, taken]
  exact CanServe.after ran same later

theorem serving_serves (sound : Sound awaits link) (up : link.up = true)
    (serving : link.relay = .serving) : CanServe awaits vehicleId link := by
  by_cases readable : ∀ frame ∈ link.written, Readable vehicleId frame
  · generalize left : link.written.length - link.published.length = unread
    induction unread generalizing link with
    | zero =>
      have size := sound.inOrder.length_le
      rw [List.length_map] at size
      exact ⟨[], link, rfl, up, serving, fun _ =>
        sound.inOrder.eq_of_length (by rw [List.length_map]; omega)⟩
    | succ unread ih =>
      have inside : link.published.length < link.written.length := by omega
      obtain ⟨message, published⟩ := readable _ (List.getElem_mem inside)
      have taken : Link.step awaits vehicleId link .publish =
          some { link with published := link.published ++ [message] } := by
        simp [Link.step, serving, up, inside, published]
      refine CanServe.step taken rfl (ih (step_sound sound taken) up serving readable ?_)
      simp only [List.length_append, List.length_singleton]
      omega
  · exact ⟨[], link, rfl, up, serving, fun all => absurd all readable⟩

theorem accepting_serves (sound : Sound awaits link) (up : link.up = true)
    (accepting : link.relay = .accepting) (announced : awaits ≤ link.streams.announced) :
    CanServe awaits vehicleId link := by
  generalize left : awaits - link.streams.accepted = waiting
  have bound := sound.awaited
  induction waiting generalizing link with
  | zero =>
    have taken : Link.step awaits vehicleId link .serve = some { link with relay := .serving } := by
      simp only [Link.step]
      rw [if_pos ⟨accepting, by omega⟩]
    exact CanServe.step taken rfl (serving_serves (step_sound sound taken) up rfl)
  | succ waiting ih =>
    have known : link.streams.accepted < link.streams.announced := by omega
    obtain ⟨streams, accepted⟩ := Streams.acceptBi_waiting known
    obtain ⟨_, same, one⟩ := Streams.acceptBi_spec accepted
    have taken : Link.step awaits vehicleId link .acceptBi =
        some { link with streams := streams } := by
      simp only [Link.step]
      rw [if_pos ⟨accepting, up, by omega⟩, accepted]
      rfl
    have kept := step_sound sound taken
    exact CanServe.step taken rfl
      (ih kept up accepting (announced.trans_eq same.symm) (by simp only; omega) kept.awaited)

theorem announced_serves (sound : Sound awaits link) (up : link.up = true)
    (announced : awaits ≤ link.streams.announced) : CanServe awaits vehicleId link := by
  cases phase : link.relay with
  | arriving =>
    have taken : Link.step awaits vehicleId link (.arrive true) =
        some { link with relay := .accepting } := by
      simp [Link.step, phase, up]
    exact CanServe.step taken rfl (accepting_serves (step_sound sound taken) up rfl announced)
  | accepting => exact accepting_serves sound up phase announced
  | serving => exact serving_serves sound up phase
  | closed => exact absurd phase (sound.held up)

-- A heartbeat makes the last stream known, and with it all others.
theorem looping_serves (few : awaits ≤ openedStreams) (sound : Sound awaits link)
    (looping : link.agent = .looping) (up : link.up = true) : CanServe awaits vehicleId link := by
  have last : 2 < link.streams.opened := by
    rw [sound.all looping]
    decide
  obtain ⟨streams, wrote⟩ := Streams.write_opened last
  obtain ⟨_, _, announced⟩ := Streams.write_spec wrote
  have taken : Link.step awaits vehicleId link .sendHeartbeat =
      some { link with streams := streams } := by
    simp [Link.step, send, looping, up, wrote]
  have known : awaits ≤ streams.announced := by
    rw [announced]
    exact few.trans (le_max_right _ _)
  exact CanServe.step taken rfl (announced_serves (step_sound sound taken) up known)

theorem crowded_stuck (many : openedStreams < awaits) (sound : Sound awaits link) :
    ¬ CanServe awaits vehicleId link := by
  rintro ⟨actions, final, ran, _, serving, _⟩
  have ends : Sound awaits final :=
    exec_invariant (fun _ _ _ sound taken => step_sound sound taken) sound ran
  have waited := ends.served serving
  have bound := final.streams.accepted_le_opened
  have few := ends.few
  omega

end Steps

/-! ## Whole runs -/

theorem run_sound {awaits : Nat} {vehicleId : String} {actions : List Action} {final : Link}
    (ran : exec (step awaits vehicleId) start actions = some final) : Sound awaits final :=
  exec_invariant (fun _ _ _ sound taken => step_sound sound taken) start_sound ran

-- The relay gets to serve on every connection exactly if it waits for no more streams than the
-- agent opens.
theorem all_runs_served_iff (awaits : Nat) (vehicleId : String) :
    (∀ actions, Throughout (step awaits vehicleId) (Served awaits vehicleId) start actions) ↔
      awaits ≤ openedStreams := by
  constructor
  · intro all
    by_contra more
    have set_up : ∃ link, exec (step awaits vehicleId) start
        [.openBi, .openBi, .openBi, .startLoops] = some link ∧ link.agent = .looping ∧
        link.up = true := ⟨_, rfl, rfl, rfl⟩
    obtain ⟨link, ran, looping, up⟩ := set_up
    have served := throughout_iff_prefixes.mp (all _) _ [] link (List.append_nil _).symm ran
    exact crowded_stuck (Nat.lt_of_not_le more) (run_sound ran) (served looping up)
  · intro few actions
    rw [throughout_iff_prefixes]
    intro taken rest final _ ran looping up
    exact looping_serves few (run_sound ran) looping up

/-- The agent starts its loops on a connection that is lost or closed already. -/
def Careful (link : Link) : Action → Prop
  | .startLoops => link.up = false
  | _ => True

theorem runs_served_iff (vehicleId : String) (actions : List Action) :
    Throughout (step awaitedStreams vehicleId) (Served awaitedStreams vehicleId) start actions ↔
      Along (step awaitedStreams vehicleId) Careful start actions := by
  have many : openedStreams < awaitedStreams := by decide
  have stuck (link : Link) (sound : Sound awaitedStreams link) :
      Served awaitedStreams vehicleId link ↔ (link.agent = .looping → ¬ link.up = true) :=
    imp_congr_right fun _ => imp_congr_right fun _ => iff_false_intro (crowded_stuck many sound)
  refine throughout_iff_along (fun _ _ _ sound _ _ taken => step_sound sound taken) ?_ start_sound
    (by simp [Served, start])
  intro link action next sound served taken
  rw [stuck next (step_sound sound taken)]
  rw [stuck link sound] at served
  constructor
  · intro quiet
    cases action with
    | startLoops =>
      simp only [step] at taken
      split_ifs at taken
      obtain rfl := Option.some.inj taken
      simpa [Careful] using quiet rfl
    | _ => trivial
  · intro careful looping up
    obtain ⟨was_up, was_looping | rfl⟩ := step_loops taken looping up
    · exact served was_looping was_up
    · simp [Careful, was_up] at careful

/-- The agent has sent a heartbeat and a frame, the relay has accepted all three streams. -/
def stuckRun : List Action :=
  [.openBi, .arrive true, .openBi, .openBi, .startLoops, .sendTelemetry [], .sendHeartbeat, .acceptBi,
    .acceptBi, .acceptBi]

theorem relay_stuck :
    (∃ link, exec (step awaitedStreams "v1") start stuckRun = some link ∧ link.agent = .looping ∧
      link.up = true ∧ link.relay = .accepting ∧ link.written = [[]] ∧
      ¬ CanServe awaitedStreams "v1" link) ∧
    ¬ Throughout (step awaitedStreams "v1") (Served awaitedStreams "v1") start stuckRun := by
  have set_up : ∃ link, exec (step awaitedStreams "v1") start stuckRun = some link ∧
      link.agent = .looping ∧ link.up = true ∧ link.relay = .accepting ∧ link.written = [[]] :=
    ⟨_, rfl, rfl, rfl, rfl, rfl⟩
  obtain ⟨link, ran, looping, up, waiting, written⟩ := set_up
  have stuck : ¬ CanServe awaitedStreams "v1" link := crowded_stuck (by decide) (run_sound ran)
  refine ⟨⟨link, ran, looping, up, waiting, written, stuck⟩, fun all => stuck ?_⟩
  exact throughout_iff_prefixes.mp all _ [] link (List.append_nil _).symm ran looping up

end Link

end SystemScale.Contract

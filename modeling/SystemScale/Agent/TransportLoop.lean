import SystemScale.Lib.Runs

set_option autoImplicit false

/-!
# The relay connectivity flag

`run_transport_loop` connects, serves and reconnects; `/healthz` answers from a flag that it shares
with the loop.
-/

namespace SystemScale.Agent

open Runs

structure QuicTransportConfig where
  initialBackoffMs : UInt64 := 250
  maxBackoffMs : UInt64 := 30000

namespace TransportLoop

/-- Where the loop stands. `opening` counts the streams that are open, `returned` holds whether
`connect_and_run` gave `Ok`. -/
inductive Phase where
  | connecting
  | opening (streams : Nat)
  | serving
  | returned (clean : Bool)
  | sleeping
  | exited
  deriving DecidableEq

structure State where
  phase : Phase
  -- A QUIC connection to the relay exists.
  established : Bool
  relayConnected : Bool
  backoffMs : UInt64
  deriving DecidableEq

inductive Action where
  | handshake (ok : Bool)
  -- The relay closes, or the connection times out; the loop learns of it later.
  | lost
  | openBi (ok : Bool)
  | joined (clean : Bool)
  | store
  | wake
  deriving DecidableEq

def start (config : QuicTransportConfig) : State :=
  { phase := .connecting, established := false, relayConnected := false,
    backoffMs := config.initialBackoffMs }

-- `connect_and_run` gives up its connection when it returns.
def State.ret (state : State) (clean : Bool) : State :=
  { state with phase := .returned clean, established := false }

-- After the third stream the five loops are joined.
def opened (streams : Nat) : Phase :=
  if streams + 1 < 3 then .opening (streams + 1) else .serving

def step (config : QuicTransportConfig) (state : State) : Action → Option State
  | .handshake ok =>
      if state.phase = .connecting then
        if ok then some { state with phase := .opening 0, established := true }
        else some (state.ret false)
      else none
  | .lost => if state.established then some { state with established := false } else none
  | .openBi ok =>
      match state.phase with
      | .opening streams =>
          if ok then
            if state.established then some { state with phase := opened streams } else none
          else some (state.ret false)
      | _ => none
  | .joined clean => if state.phase = .serving then some (state.ret clean) else none
  | .store =>
      match state.phase with
      | .returned clean =>
          some { state with
            relayConnected := false, phase := if clean then .exited else .sleeping }
      | _ => none
  | .wake =>
      if state.phase = .sleeping then
        some { state with
          phase := .connecting, backoffMs := min (state.backoffMs * 2) config.maxBackoffMs }
      else none

def handleHealthz (state : State) : Nat × String :=
  if state.relayConnected then (200, "ok") else (503, "reconnecting")

/-- No attempt to connect completes its handshake. -/
def Unconnected (_ : State) (action : Action) : Prop := action ≠ .handshake true

section Rules

variable {config : QuicTransportConfig} {state next : State} {action : Action}

/-- When a step can be taken, and what it makes of the state. -/
inductive Change (config : QuicTransportConfig) (state : State) : Action → State → Prop
  | connect (connecting : state.phase = .connecting) :
      Change config state (.handshake true) { state with phase := .opening 0, established := true }
  | refuse (connecting : state.phase = .connecting) :
      Change config state (.handshake false) (state.ret false)
  | lose (present : state.established = true) :
      Change config state .lost { state with established := false }
  | openBi {streams : Nat} (opening : state.phase = .opening streams)
      (present : state.established = true) :
      Change config state (.openBi true) { state with phase := opened streams }
  | openFails {streams : Nat} (opening : state.phase = .opening streams) :
      Change config state (.openBi false) (state.ret false)
  | join (clean : Bool) (serving : state.phase = .serving) :
      Change config state (.joined clean) (state.ret clean)
  | store {clean : Bool} (returned : state.phase = .returned clean) :
      Change config state .store
        { state with relayConnected := false, phase := if clean then .exited else .sleeping }
  | wake (sleeping : state.phase = .sleeping) :
      Change config state .wake
        { state with
          phase := .connecting, backoffMs := min (state.backoffMs * 2) config.maxBackoffMs }

theorem step_change (moved : step config state action = some next) :
    Change config state action next := by
  cases action with
  | handshake ok =>
    simp only [step] at moved
    split_ifs at moved with connecting completed
    · subst completed
      obtain rfl := Option.some.inj moved
      exact .connect connecting
    · obtain rfl := Bool.eq_false_iff.mpr completed
      obtain rfl := Option.some.inj moved
      exact .refuse connecting
  | lost =>
    simp only [step] at moved
    split_ifs at moved with present
    obtain rfl := Option.some.inj moved
    exact .lose present
  | openBi ok =>
    simp only [step] at moved
    split at moved
    next streams opening =>
      split_ifs at moved with opens present
      · subst opens
        obtain rfl := Option.some.inj moved
        exact .openBi opening present
      · obtain rfl := Bool.eq_false_iff.mpr opens
        obtain rfl := Option.some.inj moved
        exact .openFails opening
    next => nomatch moved
  | joined clean =>
    simp only [step] at moved
    split_ifs at moved with serving
    obtain rfl := Option.some.inj moved
    exact .join clean serving
  | store =>
    simp only [step] at moved
    split at moved
    next clean returned =>
      obtain rfl := Option.some.inj moved
      exact .store returned
    next => nomatch moved
  | wake =>
    simp only [step] at moved
    split_ifs at moved with sleeping
    obtain rfl := Option.some.inj moved
    exact .wake sleeping

theorem step_relayConnected (unset : state.relayConnected = false)
    (moved : step config state action = some next) : next.relayConnected = false := by
  cases step_change moved with
  | store => rfl
  | _ => exact unset

-- Only a completed handshake establishes a connection.
theorem step_established (absent : state.established = false)
    (moved : step config state action = some next) :
    next.established = true ↔ action = .handshake true := by
  cases step_change moved with
  | connect => simp
  | openBi opening present => exact absurd (absent.symm.trans present) (by decide)
  | store returned => simp [absent]
  | wake sleeping => simp [absent]
  | _ => simp [State.ret]

-- `/healthz` answers that the agent is reconnecting, in every state the loop reaches.
theorem healthz_reconnecting {actions : List Action}
    (ran : exec (step config) (start config) actions = some state) :
    handleHealthz state = (503, "reconnecting") := by
  have unset : state.relayConnected = false := by
    have start_unset : (start config).relayConnected = false := rfl
    exact exec_invariant (fun _ _ _ unset moved => step_relayConnected unset moved) start_unset ran
  rw [handleHealthz, unset]
  rfl

end Rules

/-- The flag tells the connection exactly as long as no handshake completes. -/
theorem relayConnected_iff_established (config : QuicTransportConfig) (actions : List Action) :
    Throughout (step config) (fun state => state.relayConnected = true ↔ state.established = true)
        (start config) actions ↔
      Along (step config) Unconnected (start config) actions := by
  have unset : (start config).relayConnected = false := rfl
  have agrees : (start config).relayConnected = true ↔ (start config).established = true := by
    simp [start]
  refine throughout_iff_along (fun _ _ _ unset _ _ => step_relayConnected unset) ?_ unset agrees
  intro state action next unset agrees moved
  have absent : state.established = false := by
    rw [unset] at agrees
    simpa using agrees
  have later := step_relayConnected unset moved
  have connects := step_established absent moved
  unfold Unconnected
  rw [later, connects]
  simp

/-- After the first handshake the connection is there and the flag is not set. -/
theorem connected_flag_unset :
    ¬ ∀ (config : QuicTransportConfig) (actions : List Action),
      Throughout (step config)
        (fun state => state.relayConnected = true ↔ state.established = true) (start config) actions := by
  intro always
  obtain ⟨_, later⟩ := always {} [.handshake true]
  have agrees := later _ rfl
  simp [Throughout, start] at agrees

end TransportLoop

end SystemScale.Agent

import SystemScale.Cloud.CommandService
import SystemScale.Lib.Subjects
import SystemScale.Relay.Forwarder
import SystemScale.Relay.Telemetry

set_option autoImplicit false

/-!
# The subjects of commands

command-api publishes on `command.{id}`, the forwarder takes the id out of it again, the relay
publishes on `command.{id}.ack`, and command-api listens on `command.*.ack`.
-/

namespace SystemScale.Contract

open Cloud Relay Runs

theorem vehicleOf_subject (id : String) :
    vehicleOf ("command." ++ id) =
      if id ≠ "" ∧ '.' ∉ id.toList then some id else none := by
  have text : ("command." ++ id).toList = "command.".toList ++ id.toList := String.toList_append
  have starts : "command.".toList.isPrefixOf ("command.".toList ++ id.toList) = true :=
    List.isPrefixOf_iff_prefix.mpr (List.prefix_append _ _)
  have behind : ("command.".toList ++ id.toList).drop 8 = id.toList := rfl
  have filled : id.toList ≠ [] ↔ id ≠ "" := by simp
  rw [vehicleOf, text]
  simp only [starts, behind, if_true, filled, String.ofList_toList]

theorem ackSubject_eq (id : String) : ackSubject id = "command." ++ id ++ ".ack" := rfl

theorem vehicleOf_ackSubject (id : String) : vehicleOf (ackSubject id) = none := by
  rw [ackSubject_eq, String.append_assoc, vehicleOf_subject, if_neg]
  simp [String.toList_append]

theorem ackSubject_delivered (id : String) :
    Subjects.delivers "command.*.ack" (ackSubject id) = true ↔ '.' ∉ id.toList := by
  have subject : ackSubject id = "command" ++ "." ++ id ++ "." ++ "ack" := by
    apply String.toList_inj.mp
    simp [ackSubject_eq, String.toList_append]
  rw [subject]
  exact Subjects.delivers_between (by decide) (by decide) (by decide) id

/-! ## What the forwarder acknowledges -/

/-- In the run the command is put on the channel of a session of the vehicle. -/
def PutOn (actions : List Relay.Forwarder.Action) (command : Command) (vehicleId : String) : Prop :=
  ∃ before after state next, ∃ (index : Nat) (session : CommandSession),
    actions = before ++ .deliver command :: after ∧
    exec Relay.Forwarder.step Relay.Forwarder.start before = some state ∧
    Relay.Forwarder.step state (.deliver command) = some next ∧
    state.sessions[index]? = some session ∧ session.vehicleId = vehicleId ∧
    next.sessions[index]? = some { session with channel := session.channel ++ [command] }

theorem PutOn.later {actions : List Relay.Forwarder.Action} {command : Command} {vehicleId : String}
    (put : PutOn actions command vehicleId) (action : Relay.Forwarder.Action) :
    PutOn (actions ++ [action]) command vehicleId := by
  obtain ⟨before, after, state, next, index, session, rfl, rest⟩ := put
  exact ⟨before, after ++ [action], state, next, index, session, by simp, rest⟩

def Confirmed (state : Relay.Forwarder) (command : Command) : Prop :=
  command ∈ state.acked ∨ state.handling = some command

theorem acknowledge_confirmed {state next : Relay.Forwarder} {arrives : Bool} {command : Command}
    (taken : Relay.Forwarder.step state (.acknowledge arrives) = some next)
    (confirmed : Confirmed next command) : Confirmed state command := by
  cases Relay.Forwarder.step_change taken with
  | acknowledge _ handling =>
    rcases confirmed with member | still
    · by_cases arrived : arrives = true
      · simp only [arrived, if_true, List.mem_cons] at member
        rcases member with rfl | earlier
        · exact .inr handling
        · exact .inl earlier
      · simp only [arrived, Bool.false_eq_true, if_false] at member
        exact .inl member
    · simp at still

theorem step_confirmed {state next : Relay.Forwarder} {action : Relay.Forwarder.Action}
    {command : Command}
    (taken : Relay.Forwarder.step state action = some next) (confirmed : Confirmed next command) :
    Confirmed state command ∨ action = .deliver command := by
  cases action with
  | deliver delivered =>
    cases Relay.Forwarder.step_change taken with
    | skip =>
      rcases confirmed with member | handling
      · exact .inl (.inl member)
      · exact .inr (congrArg _ (Option.some.inj handling))
    | deliver =>
      rcases confirmed with member | handling
      · exact .inl (.inl member)
      · exact .inr (congrArg _ (Option.some.inj handling))
    | refuse => exact .inl confirmed
  | acknowledge arrives => exact .inl (acknowledge_confirmed taken confirmed)
  | finish index =>
    cases Relay.Forwarder.step_change taken with
    | finish => exact .inl confirmed
  | _ =>
    have kept := Relay.Forwarder.step_kept taken (by simp) (by simp)
    have handling := Relay.Forwarder.step_handling taken (by simp) (by simp)
    left
    rcases confirmed with member | still
    · exact .inl (kept.acked ▸ member)
    · exact .inr (handling ▸ still)

theorem deliver_putOn {actions : List Relay.Forwarder.Action} {state next : Relay.Forwarder}
    {command : Command}
    {vehicleId : String} (named : vehicleOf command.subject = some vehicleId)
    (ran : exec Relay.Forwarder.step Relay.Forwarder.start actions = some state)
    (taken : Relay.Forwarder.step state (.deliver command) = some next)
    (fresh : ¬ Confirmed state command)
    (confirmed : Confirmed next command) : PutOn (actions ++ [.deliver command]) command vehicleId := by
  have sound : Relay.Forwarder.Sound state :=
    exec_invariant (fun _ _ _ sound taken => Relay.Forwarder.step_sound sound taken)
      ⟨by simp [Relay.Forwarder.start], by simp [Relay.Forwarder.start]⟩ ran
  cases Relay.Forwarder.step_change taken with
  | skip plain =>
    rw [named] at plain
    cases plain
  | @deliver _ owner index session is found =>
    obtain rfl : vehicleId = owner := Option.some.inj (named.symm.trans is)
    have was := Relay.Forwarder.target_session found
    have inside := (List.getElem?_eq_some_iff.mp was).1
    exact ⟨actions, [], state, _, index, session, rfl, ran, taken, was,
      Relay.Forwarder.target_vehicle sound found, List.getElem?_set_self inside⟩
  | refuse => exact absurd confirmed fresh

-- Nothing that names a vehicle is acknowledged without having been put on the vehicle's
-- channel.
theorem confirmed_putOn {actions : List Relay.Forwarder.Action} {final : Relay.Forwarder}
    {command : Command}
    {vehicleId : String} (named : vehicleOf command.subject = some vehicleId)
    (ran : exec Relay.Forwarder.step Relay.Forwarder.start actions = some final)
    (confirmed : Confirmed final command) : PutOn actions command vehicleId := by
  revert confirmed
  refine exec_induction (P := fun actions final => Confirmed final command →
    PutOn actions command vehicleId) ?_ ?_ ran
  · simp [Confirmed, Relay.Forwarder.start]
  · intro actions action state next before earlier taken confirmed
    by_cases already : Confirmed state command
    · exact (earlier already).later action
    · obtain rfl := (step_confirmed taken confirmed).resolve_left already
      exact deliver_putOn named before taken already confirmed

def dottedCommand : Command := ⟨1, "command." ++ "fleet.drone", [0x0A]⟩

end SystemScale.Contract

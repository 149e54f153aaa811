import Mathlib.Data.List.Basic
import SystemScale.Agent.LocalApi
import SystemScale.Lib.Runs

set_option autoImplicit false

/-!
# The ACK of a command in the Go SDK

`Client` and `MessageReceiver` have the same `sendACK` and the same `callHandler`, and differ in
what delivers an ACK. The handler and its goroutines may call `Ack`, `AckMsg`, `Reject` and `Fail`
at any time, also while `callHandler` checks the flag and after it has returned.
-/

namespace SystemScale.Sdk.CommandAcks

open Runs

/-! ## Delivery -/

/-- What becomes of one request to the agent. -/
inductive Attempt where
  | notBuilt
  | failed (cancelled : Bool)
  | answered (statusCode : Nat)

def isSuccess (statusCode : Nat) : Bool := 200 ≤ statusCode && statusCode < 300

/-- Whether the agent took the body, with what becomes of each attempt. -/
def postWithRetry (attempts : Nat → Attempt) : Nat → Nat → Bool
  | _, 0 => false
  | index, retries + 1 =>
    match attempts index with
    | .notBuilt => false
    | .failed true => false
    | .failed false => postWithRetry attempts (index + 1) retries
    | .answered statusCode => isSuccess statusCode

/-- Whether `postACK` returns no error. -/
def postACK (attempts : Nat → Attempt) : Bool := postWithRetry attempts 0 3

/-- Whether `defaultACK` returns no error. -/
def defaultACK : Attempt → Bool
  | .answered statusCode => isSuccess statusCode
  | _ => false

/-! ## Calls -/

structure Ack where
  status : String
  message : String
  deriving DecidableEq

def ack : Ack := ⟨"completed", ""⟩

def ackMsg (msg : String) : Ack := ⟨"completed", msg⟩

def reject (reason : String) : Ack := ⟨"rejected", reason⟩

def fail (reason : String) : Ack := ⟨"failed", reason⟩

inductive UserCall where
  | ack
  | ackMsg (msg : String)
  | reject (reason : String)
  | fail (reason : String)

def UserCall.body : UserCall → Ack
  | .ack => CommandAcks.ack
  | .ackMsg msg => CommandAcks.ackMsg msg
  | .reject reason => CommandAcks.reject reason
  | .fail reason => CommandAcks.fail reason

inductive Caller where
  | user
  | callHandler
  deriving DecidableEq

structure Call where
  caller : Caller
  body : Ack
  deriving DecidableEq

/-- A call of `postACK` or `ackFn` that has returned. -/
structure Post where
  call : Call
  delivered : Bool

/-! ## The command and its handler -/

/-- Where `callHandler` is. `checking` has the text of the failure it would send. -/
inductive Handling where
  | running
  | checking (reason : String)
  | failing (reason : String)
  | delivering
  | done
  deriving DecidableEq

-- `taken` lists the calls that found the flag unset, `refused` those that got "already acked".
structure Command where
  acked : Bool
  taken : List Call
  delivering : List Call
  posts : List Post
  refused : List Call
  handling : Handling

inductive Action (Net : Type) where
  | call (call : UserCall)
  | deliver (call : Call) (net : Net)
  | returns (err : Option String)
  | panics (value : String)
  | check
  | fail

namespace Command

def fresh (handling : Handling) : Command := ⟨false, [], [], [], [], handling⟩

/-- The critical section of `sendACK`. The delivery follows outside the lock. -/
def sendACK (command : Command) (call : Call) : Command :=
  if command.acked then { command with refused := command.refused ++ [call] }
  else
    { command with
      acked := true
      taken := command.taken ++ [call]
      delivering := command.delivering ++ [call] }

/-- The check of `callHandler` once the handler has returned. -/
def afterCheck (wasAcked : Bool) (reason : String) : Handling :=
  if wasAcked then .done else .failing reason

section Steps

-- Whether the delivery of an ACK returns no error.
variable {Net : Type} (delivers : Ack → Net → Bool)

def step (command : Command) : Action Net → Option Command
  | .call call => some (command.sendACK ⟨.user, call.body⟩)
  | .deliver call net =>
    if call ∈ command.delivering then
      some { command with
        delivering := command.delivering.erase call
        posts := command.posts ++ [⟨call, delivers call.body net⟩]
        handling := if call.caller = .callHandler then .done else command.handling }
    else none
  | .returns err =>
    match command.handling with
    | .running =>
      some { command with handling := .checking (err.getD "handler returned without ACK") }
    | _ => none
  | .panics value =>
    match command.handling with
    | .running => some { command with handling := .failing ("handler panic: " ++ value) }
    | _ => none
  | .check =>
    match command.handling with
    | .checking reason => some { command with handling := afterCheck command.acked reason }
    | _ => none
  | .fail =>
    match command.handling with
    | .failing reason =>
      some { command.sendACK ⟨.callHandler, CommandAcks.fail reason⟩ with
        handling := if command.acked then .done else .delivering }
    | _ => none

end Steps

end Command

/-- The commands of `Client`. -/
def Client.step : Command → Action (Nat → Attempt) → Option Command :=
  Command.step fun _ attempts => postACK attempts

/-- The commands of `MessageReceiver`, whose `ACKFn` may be the user's. -/
def MessageReceiver.step {Net : Type} (ackFn : Ack → Net → Bool) :
    Command → Action Net → Option Command :=
  Command.step ackFn

/-! ## One delivery -/

namespace Command

/-- Nothing else is under way, neither in `callHandler` nor in a call that found the flag unset. -/
def Settled (command : Command) : Prop := command.handling = .done ∧ command.delivering = []

/-- The status of the first call of the user to take effect. -/
def firstStatus (command : Command) : String :=
  match command.taken.find? fun call => call.caller = .user with
  | some call => call.body.status
  | none => "failed"

end Command

/-- What `callHandler` and the deliveries do by themselves. -/
def Action.own {Net : Type} : Action Net → Bool
  | .call _ => false
  | _ => true

section Changes

variable {Net : Type} {delivers : Ack → Net → Bool} {command next : Command} {action : Action Net}

/-- What one step can do. -/
inductive Change (delivers : Ack → Net → Bool) (command : Command) : Action Net → Command → Prop
  | called (call : UserCall) :
      Change delivers command (.call call) (command.sendACK ⟨.user, call.body⟩)
  | delivered (call : Call) (net : Net) (held : call ∈ command.delivering) :
      Change delivers command (.deliver call net)
        { command with
          delivering := command.delivering.erase call
          posts := command.posts ++ [⟨call, delivers call.body net⟩]
          handling := if call.caller = .callHandler then .done else command.handling }
  | returned (err : Option String) (running : command.handling = .running) :
      Change delivers command (.returns err)
        { command with handling := .checking (err.getD "handler returned without ACK") }
  | panicked (value : String) (running : command.handling = .running) :
      Change delivers command (.panics value)
        { command with handling := .failing ("handler panic: " ++ value) }
  | checked (reason : String) (checking : command.handling = .checking reason) :
      Change delivers command .check
        { command with handling := Command.afterCheck command.acked reason }
  | failed (reason : String) (failing : command.handling = .failing reason) :
      Change delivers command .fail
        { command.sendACK ⟨.callHandler, fail reason⟩ with
          handling := if command.acked then .done else .delivering }

theorem step_change (moved : Command.step delivers command action = some next) :
    Change delivers command action next := by
  cases action with
  | call call => exact Option.some.inj moved ▸ .called call
  | deliver call net =>
    by_cases held : call ∈ command.delivering
    · simp only [Command.step, if_pos held, Option.some.injEq] at moved
      exact moved ▸ .delivered call net held
    · simp only [Command.step, if_neg held, reduceCtorEq] at moved
  | returns err =>
    cases was : command.handling <;> simp only [Command.step, was, reduceCtorEq] at moved
    exact Option.some.inj moved ▸ .returned err was
  | panics value =>
    cases was : command.handling <;> simp only [Command.step, was, reduceCtorEq] at moved
    exact Option.some.inj moved ▸ .panicked value was
  | check =>
    cases was : command.handling <;> simp only [Command.step, was, reduceCtorEq] at moved
    exact Option.some.inj moved ▸ .checked _ was
  | fail =>
    cases was : command.handling <;> simp only [Command.step, was, reduceCtorEq] at moved
    exact Option.some.inj moved ▸ .failed _ was

/-- At most one call has found the flag unset, and it has been posted or is being delivered. -/
inductive Single (command : Command) : Prop
  | unclaimed (flag : command.acked = false) (taken : command.taken = [])
      (delivering : command.delivering = []) (posts : command.posts = [])
  | claimed (call : Call) (flag : command.acked = true) (taken : command.taken = [call])
      (delivering : command.delivering = [call]) (posts : command.posts = [])
  | posted (post : Post) (flag : command.acked = true) (taken : command.taken = [post.call])
      (delivering : command.delivering = []) (posts : command.posts = [post])

theorem Single.sendACK (single : Single command) (call : Call) :
    Single (command.sendACK call) := by
  cases single with
  | unclaimed flag taken delivering posts =>
    have now : command.sendACK call =
        { command with acked := true, taken := [call], delivering := [call] } := by
      simp [Command.sendACK, flag, taken, delivering]
    rw [now]
    exact .claimed call rfl rfl rfl posts
  | claimed held flag taken delivering posts =>
    rw [Command.sendACK, if_pos flag]
    exact .claimed held flag taken delivering posts
  | posted post flag taken delivering posts =>
    rw [Command.sendACK, if_pos flag]
    exact .posted post flag taken delivering posts

theorem Single.setHandling (single : Single command) (handling : Handling) :
    Single { command with handling := handling } := by
  cases single with
  | unclaimed flag taken delivering posts => exact .unclaimed flag taken delivering posts
  | claimed call flag taken delivering posts => exact .claimed call flag taken delivering posts
  | posted post flag taken delivering posts => exact .posted post flag taken delivering posts

-- What is delivered is the one call there is, and nothing has been posted before it.
theorem Single.held (single : Single command) {call : Call} (held : call ∈ command.delivering) :
    command.acked = true ∧ command.taken = [call] ∧ command.delivering = [call] ∧
      command.posts = [] := by
  cases single with
  | unclaimed flag taken delivering posts => simp [delivering] at held
  | claimed other flag taken delivering posts =>
    obtain rfl : call = other := by simpa [delivering] using held
    exact ⟨flag, taken, delivering, posts⟩
  | posted post flag taken delivering posts => simp [delivering] at held

theorem step_single (single : Single command)
    (moved : Command.step delivers command action = some next) : Single next := by
  cases step_change moved with
  | called call => exact single.sendACK _
  | delivered call net held =>
    obtain ⟨flag, taken, delivering, posts⟩ := single.held held
    refine .posted ⟨call, delivers call.body net⟩ flag taken ?_ ?_
    · simp [delivering]
    · simp [posts]
  | returned err running => exact single.setHandling _
  | panicked value running => exact single.setHandling _
  | checked reason checking => exact single.setHandling _
  | failed reason failing => exact (single.sendACK _).setHandling _

/-- Every ACK that `callHandler` sends itself says that the command failed. -/
def Automatic (command : Command) : Prop :=
  ∀ call ∈ command.taken, call.caller = .callHandler → call.body.status = "failed"

theorem Automatic.sendACK (automatic : Automatic command) {call : Call}
    (failure : call.caller = .callHandler → call.body.status = "failed") :
    Automatic (command.sendACK call) := by
  unfold Command.sendACK
  split_ifs with acked
  · exact automatic
  · intro other member
    rcases List.mem_append.mp member with before | last
    · exact automatic other before
    · obtain rfl := List.mem_singleton.mp last
      exact failure

theorem step_automatic (automatic : Automatic command)
    (moved : Command.step delivers command action = some next) : Automatic next := by
  cases step_change moved with
  | called call => exact automatic.sendACK (fun by_handler => nomatch by_handler)
  | delivered call net held => exact automatic
  | returned err running => exact automatic
  | panicked value running => exact automatic
  | checked reason checking => exact automatic
  | failed reason failing =>
    exact automatic.sendACK (fun _ => rfl)

/-- `callHandler` waits for its own delivery only, and ends when the flag is set. -/
structure Attended (command : Command) : Prop where
  waits : command.handling = .delivering →
    ∃ call ∈ command.delivering, call.caller = .callHandler
  ended : command.handling = .done → command.acked = true

theorem Attended.sendACK (attended : Attended command) (call : Call) :
    Attended (command.sendACK call) := by
  unfold Command.sendACK
  split_ifs with acked
  · exact ⟨attended.waits, attended.ended⟩
  · refine ⟨fun delivering => ?_, fun _ => rfl⟩
    obtain ⟨own, held, by_handler⟩ := attended.waits delivering
    exact ⟨own, List.mem_append_left _ held, by_handler⟩

theorem sendACK_flag (command : Command) (call : Call) : (command.sendACK call).acked = true := by
  unfold Command.sendACK
  split_ifs with acked
  · exact acked
  · rfl

theorem step_attended (single : Single command) (attended : Attended command)
    (moved : Command.step delivers command action = some next) : Attended next := by
  cases step_change moved with
  | called call => exact attended.sendACK _
  | delivered call net held =>
    obtain ⟨flag, _, delivering, _⟩ := single.held held
    refine ⟨fun waits => ?_, fun _ => flag⟩
    by_cases by_handler : call.caller = .callHandler
    · simp [by_handler] at waits
    · -- The delivery `callHandler` waits for would be a second one.
      simp only [by_handler, if_false] at waits
      obtain ⟨own, own_held, own_handler⟩ := attended.waits waits
      rw [delivering, List.mem_singleton] at own_held
      exact absurd (own_held ▸ own_handler) by_handler
  | returned err running => exact ⟨nofun, nofun⟩
  | panicked value running => exact ⟨nofun, nofun⟩
  | checked reason checking =>
    refine ⟨fun waits => ?_, fun ended => ?_⟩
    · cases acked : command.acked <;> simp [Command.afterCheck, acked] at waits
    · cases acked : command.acked with
      | false => simp [Command.afterCheck, acked] at ended
      | true => rfl
  | failed reason failing =>
    refine ⟨fun waits => ?_, fun _ => sendACK_flag _ _⟩
    cases acked : command.acked with
    | true => simp [acked] at waits
    | false =>
      refine ⟨⟨.callHandler, fail reason⟩, ?_, rfl⟩
      simp [Command.sendACK, acked]

def Handling.remaining : Handling → Nat
  | .running => 4
  | .checking _ => 3
  | .failing _ => 2
  | .delivering => 0
  | .done => 0

/-- How many steps of their own `callHandler` and the deliveries can still take. -/
def remaining (command : Command) : Nat :=
  command.handling.remaining + (command.delivering.length + if command.acked then 0 else 1)

theorem sendACK_remaining (command : Command) (call : Call) :
    (command.sendACK call).handling = command.handling ∧
      ((command.sendACK call).delivering.length + if (command.sendACK call).acked then 0 else 1) =
        command.delivering.length + if command.acked then 0 else 1 := by
  unfold Command.sendACK
  split_ifs with acked <;> simp_all

theorem step_remaining (moved : Command.step delivers command action = some next) :
    (if action.own then 1 else 0) + remaining next ≤ remaining command := by
  cases step_change moved with
  | called call =>
    obtain ⟨handling, rest⟩ := sendACK_remaining command ⟨.user, call.body⟩
    simp [Action.own, remaining, handling, rest]
  | delivered call net held =>
    have shorter := List.length_erase_of_mem held
    have some_left := List.length_pos_of_mem held
    have handling : (if call.caller = .callHandler then Handling.done
        else command.handling).remaining ≤ command.handling.remaining := by
      split_ifs
      · exact Nat.zero_le _
      · exact Nat.le_refl _
    simp only [Action.own, if_true, remaining, shorter]
    omega
  | returned err running =>
    simp only [Action.own, if_true, remaining, running, Handling.remaining]
    omega
  | panicked value running =>
    simp only [Action.own, if_true, remaining, running, Handling.remaining]
    omega
  | checked reason checking =>
    have handling : (Command.afterCheck command.acked reason).remaining ≤ 2 := by
      cases command.acked
      · exact Nat.le_refl _
      · exact Nat.zero_le _
    simp only [Action.own, if_true, remaining, checking, Handling.remaining] at handling ⊢
    omega
  | failed reason failing =>
    obtain ⟨_, rest⟩ := sendACK_remaining command ⟨.callHandler, fail reason⟩
    have handling : (if command.acked then Handling.done else .delivering).remaining = 0 := by
      split_ifs <;> rfl
    have was : command.handling.remaining = 2 := by rw [failing]; rfl
    simp only [Action.own, if_true, remaining, rest, handling, was]
    omega

-- Once the handler has ended there is something to do until all is settled.
theorem enabled (attended : Attended command) (ended : command.handling ≠ .running)
    (busy : ¬command.Settled) (net : Net) :
    ∃ action : Action Net, action.own ∧ (Command.step delivers command action).isSome := by
  have deliver (call : Call) (held : call ∈ command.delivering) :
      ∃ action : Action Net, action.own ∧ (Command.step delivers command action).isSome :=
    ⟨.deliver call net, rfl, by simp [Command.step, held]⟩
  cases handling : command.handling with
  | running => exact absurd handling ended
  | checking reason => exact ⟨.check, rfl, by simp [Command.step, handling]⟩
  | failing reason => exact ⟨.fail, rfl, by simp [Command.step, handling]⟩
  | delivering =>
    obtain ⟨call, held, _⟩ := attended.waits handling
    exact deliver call held
  | done =>
    cases delivering : command.delivering with
    | nil => exact absurd ⟨handling, delivering⟩ busy
    | cons call rest => exact deliver call (delivering ▸ List.mem_cons_self)

theorem firstStatus_of_taken (automatic : Automatic command) {call : Call}
    (taken : command.taken = [call]) : command.firstStatus = call.body.status := by
  cases caller : call.caller with
  | user => simp [Command.firstStatus, taken, caller]
  | callHandler =>
    have failed := automatic call (by simp [taken]) caller
    simp [Command.firstStatus, taken, caller, failed]

end Changes

/-- At most one ACK is delivered at any time. When all is settled it was one, with the status of the
first call to take effect. What is left to do once the handler has ended is never blocked, and the
steps it takes are bounded. -/
structure ExactlyOnce {Net : Type} (step : Command → Action Net → Option Command)
    (actions : List (Action Net)) (final : Command) : Prop where
  most : final.delivering.length + final.posts.length ≤ 1
  settled : final.Settled →
    ∃ post, final.posts = [post] ∧ post.call.body.status = final.firstStatus
  continues : final.handling ≠ .running → ¬final.Settled → Net →
    ∃ action, action.own ∧ (step final action).isSome
  bounded : actions.countP Action.own ≤ 5

section Runs

variable {Net : Type} {delivers : Ack → Net → Bool} {actions : List (Action Net)} {final : Command}

theorem fresh_single (handling : Handling) : Single (.fresh handling) :=
  .unclaimed rfl rfl rfl rfl

theorem run_remaining {state : Command}
    (ran : exec (Command.step delivers) state actions = some final) :
    actions.countP Action.own + remaining final ≤ remaining state := by
  induction actions generalizing state with
  | nil =>
    obtain rfl := Option.some.inj ran
    simp
  | cons action rest ih =>
    rw [exec_cons, Option.bind_eq_some_iff] at ran
    obtain ⟨next, moved, ran⟩ := ran
    have later := ih ran
    have one := step_remaining moved
    rw [List.countP_cons]
    omega

theorem run_exactlyOnce
    (ran : exec (Command.step delivers) (.fresh .running) actions = some final) :
    ExactlyOnce (Command.step delivers) actions final := by
  have single : Single final :=
    exec_invariant (fun _ _ _ => step_single) (fresh_single .running) ran
  have automatic : Automatic final :=
    exec_invariant (fun _ _ _ => step_automatic) (by simp [Automatic, Command.fresh]) ran
  have both (command : Command) (action : Action Net) (next : Command)
      (before : Single command ∧ Attended command)
      (moved : Command.step delivers command action = some next) :
      Single next ∧ Attended next :=
    ⟨step_single before.1 moved, step_attended before.1 before.2 moved⟩
  have attended : Attended final :=
    (exec_invariant both ⟨fresh_single .running, nofun, nofun⟩ ran).2
  refine ⟨?_, fun settled => ?_, fun ended busy net => enabled attended ended busy net, ?_⟩
  · cases single with
    | unclaimed flag taken delivering posts => simp [delivering, posts]
    | claimed call flag taken delivering posts => simp [delivering, posts]
    | posted post flag taken delivering posts => simp [delivering, posts]
  · cases single with
    | unclaimed flag taken delivering posts =>
      have acked := attended.ended settled.1
      rw [flag] at acked
      cases acked
    | claimed call flag taken delivering posts => simp [Command.Settled, delivering] at settled
    | posted post flag taken delivering posts =>
      exact ⟨post, posts, (firstStatus_of_taken automatic taken).symm⟩
  · have total := run_remaining ran
    have start : remaining (.fresh .running) = 5 := rfl
    omega

end Runs

theorem commands_acked_once :
    (∀ (actions : List (Action (Nat → Attempt))) (final : Command),
      exec Client.step (.fresh .running) actions = some final →
        ExactlyOnce Client.step actions final) ∧
    (∀ (Net : Type) (ackFn : Ack → Net → Bool) (actions : List (Action Net)) (final : Command),
      exec (MessageReceiver.step ackFn) (.fresh .running) actions = some final →
        ExactlyOnce (MessageReceiver.step ackFn) actions final) :=
  ⟨fun _ _ ran => run_exactlyOnce ran, fun _ _ _ _ ran => run_exactlyOnce ran⟩

/-- A goroutine of the handler comes between the check and the automatic failure. -/
theorem commands_acked_once_late :
    ∃ final, exec (MessageReceiver.step fun _ attempt => defaultACK attempt) (.fresh .running)
        [.returns none, .check, .call (.reject "low battery"), .fail,
          .deliver ⟨.user, reject "low battery"⟩ (.answered 200)] = some final ∧
      final.posts.map (fun post => post.call.body.status) = ["rejected"] ∧
      final.Settled ∧
      ExactlyOnce (MessageReceiver.step fun _ attempt => defaultACK attempt)
        [.returns none, .check, .call (.reject "low battery"), .fail,
          .deliver ⟨.user, reject "low battery"⟩ (.answered 200)] final :=
  ⟨_, rfl, rfl, ⟨rfl, rfl⟩, commands_acked_once.2 _ _ _ _ rfl⟩

/-! ## Deliveries that fail -/

namespace Command

/-- No ACK of the command was accepted, and none is on its way. -/
def Undelivered (command : Command) : Prop :=
  command.delivering = [] ∧ ∀ post ∈ command.posts, post.delivered = false

/-- After an error of delivery the next call delivers again, and so does `callHandler`. A command is
marked only for an ACK that was accepted or is on its way. -/
structure Answerable (command : Command) : Prop where
  retried : command.Undelivered → command.posts ≠ [] →
    (∀ call, call ∈ (command.sendACK call).delivering) ∧
    (∀ reason, afterCheck command.acked reason = .failing reason)
  marked : command.Undelivered → command.acked = false

end Command

/-- The agent takes what is delivered. -/
def Accepted (_ : Command) : Action (Nat → Attempt) → Prop
  | .deliver _ attempts => postACK attempts = true
  | _ => True

theorem answerable_iff {command : Command} :
    command.Answerable ↔ (command.Undelivered → command.acked = false) := by
  refine ⟨fun answerable => answerable.marked, fun unmarked => ⟨fun undelivered _ => ?_, unmarked⟩⟩
  have unset := unmarked undelivered
  constructor
  · intro call
    simp [Command.sendACK, unset]
  · intro reason
    simp [Command.afterCheck, unset]

theorem Answerable.sendACK {command : Command} (answerable : command.Answerable) (call : Call) :
    (command.sendACK call).Answerable := by
  rw [answerable_iff]
  unfold Command.sendACK
  split_ifs with acked
  · exact answerable.marked
  · intro undelivered
    simp [Command.Undelivered] at undelivered

theorem Answerable.setHandling {command : Command} (answerable : command.Answerable)
    (handling : Handling) : Command.Answerable { command with handling := handling } :=
  answerable_iff.mpr answerable.marked

theorem step_answerable {command next : Command} {action : Action (Nat → Attempt)}
    (single : Single command) (answerable : command.Answerable)
    (moved : Client.step command action = some next) :
    next.Answerable ↔ Accepted command action := by
  cases step_change moved with
  | called call => exact iff_of_true (Answerable.sendACK answerable _) trivial
  | delivered call attempts held =>
    obtain ⟨flag, _, delivering, posts⟩ := single.held held
    rw [answerable_iff]
    simp [Command.Undelivered, Accepted, flag, delivering, posts]
  | returned err running => exact iff_of_true (Answerable.setHandling answerable _) trivial
  | panicked value running => exact iff_of_true (Answerable.setHandling answerable _) trivial
  | checked reason checking => exact iff_of_true (Answerable.setHandling answerable _) trivial
  | failed reason failing =>
    exact iff_of_true (Answerable.setHandling (Answerable.sendACK answerable _) _) trivial

/-- With or without a handler of its own, a command stays answerable while no delivery fails. -/
theorem commands_answerable_iff (handling : Handling) (actions : List (Action (Nat → Attempt))) :
    Throughout Client.step Command.Answerable (.fresh handling) actions ↔
      Along Client.step Accepted (.fresh handling) actions := by
  refine throughout_iff_along (fun command action next single _ _ => step_single single)
    (fun command action next => step_answerable) (fresh_single handling) ?_
  exact answerable_iff.mpr fun _ => rfl

/-- The agent has no room for the ACK, and the handler returns the error. -/
def fullChannel : List (Action (Nat → Attempt)) :=
  [.call .ack, .deliver ⟨.user, ack⟩ (fun _ => .answered 503),
    .returns (some "failed to deliver ACK for command c"), .check]

theorem fullChannel_unanswered :
    Agent.handleAck false "c" ⟨"completed", ""⟩ 0 = .ok (503, none) ∧
    (∃ final, exec Client.step (.fresh .running) fullChannel = some final ∧
      final.handling = .done ∧ final.posts.map Post.delivered = [false] ∧
      (final.sendACK ⟨.user, fail "again"⟩).refused = [⟨.user, fail "again"⟩]) ∧
    ¬Throughout Client.step Command.Answerable (.fresh .running) fullChannel := by
  refine ⟨by rw [Agent.handleAck, dif_pos (by decide)]; rfl, ⟨_, rfl, rfl, rfl, rfl⟩, ?_⟩
  rintro ⟨_, called⟩
  obtain ⟨_, delivered⟩ := called _ rfl
  have marked := (delivered _ rfl).start.marked ⟨rfl, by decide⟩
  cases marked

end SystemScale.Sdk.CommandAcks

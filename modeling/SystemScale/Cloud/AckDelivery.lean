import SystemScale.Cloud.AckRouting

set_option autoImplicit false

/-!
# Which ACKs get to the operator

`first` of a command is the first ACK for it that came in before its timer fired; later ones find
the channel taken.
-/

namespace SystemScale.Cloud

open Runs Lookups

namespace SendSession

/-- The goroutine has the ACK before it, or answers with it. -/
def Tracked.Keeps (tracked : Tracked) (arrival : Arrival) : Prop :=
  tracked.channel = some arrival ∧ tracked.phase.reply = none ∨
    tracked.phase.reply = some (.ack arrival)

/-- The ACK is in the subscription's channel, with the router, with the goroutine, or sent. -/
def OnItsWay (state : SendSession) (index : Nat) (tracked : Tracked) (arrival : Arrival) : Prop :=
  (∃ data, (arrival.serial, data) ∈ state.queue ∧ ackOf data = some arrival.ack) ∨
    state.hand = some (index, arrival) ∨ Tracked.Keeps tracked arrival

def AcksDelivered (state : SendSession) : Prop :=
  state.isOpen = true → ∀ (index : Nat) tracked arrival, state.commands[index]? = some tracked →
    tracked.first = some arrival →
      OnItsWay state index tracked arrival ∧ tracked.phase.reply ≠ some .timeout

def Tracked.Awaits (tracked : Tracked) (ack : CommandAck) : Prop :=
  tracked.cmd.commandID = ack.commandID ∧ tracked.phase.isFailed = false ∧
    tracked.expired = false ∧ tracked.first = none

/-- A command's first ACK fits into the subscription's channel, the router looks for it when the
command is registered, and the goroutine does not give up while it is on its way. -/
def Prompt (state : SendSession) : Action → Prop
  | .arrive data => state.isOpen = true → ∀ ack, ackOf data = some ack →
      ∀ (index : Nat) tracked, state.commands[index]? = some tracked →
        Tracked.Awaits tracked ack → state.queue.length < subscriptionCapacity
  | .route => state.isOpen = true → ∀ serial data ack, state.queue.head? = some (serial, data) →
      ackOf data = some ack → ∀ (index : Nat) tracked, state.commands[index]? = some tracked →
        tracked.first = some ⟨serial, ack⟩ → tracked.phase ≠ .published
  | .timeout index => state.isOpen = true → ∀ tracked, state.commands[index]? = some tracked →
      tracked.first = none
  | _ => True

/-! ## What a step may lose -/

section Steps

variable {state next : SendSession}

theorem Tracked.Led.le {tracked : Tracked} {serial : Nat} {first : Arrival}
    (led : Tracked.Led tracked serial) (is : tracked.first = some first) : first.serial ≤ serial := by
  rcases led with ⟨other, noted, before⟩ | ⟨unnoted, _⟩
  · obtain rfl := Option.some.inj (is.symm.trans noted)
    exact before
  · rw [is] at unnoted
    cases unnoted

theorem Tracked.Keeps.holds {tracked : Tracked} {arrival : Arrival}
    (keeps : Tracked.Keeps tracked arrival) : tracked.Holds arrival :=
  keeps.imp And.left id

theorem keeps_moved {tracked : Tracked} {phase : CommandPhase}
    (same : phase.reply = tracked.phase.reply) (arrival : Arrival)
    (keeps : Tracked.Keeps tracked arrival) : Tracked.Keeps { tracked with phase } arrival := by
  unfold Tracked.Keeps at keeps ⊢
  rw [← same] at keeps
  exact keeps

theorem delivers_set (delivered : AcksDelivered state) {index : Nat} {old new : Tracked}
    (was : state.commands[index]? = some old) (first : new.first = old.first)
    (keeps : ∀ arrival, Tracked.Keeps old arrival → Tracked.Keeps new arrival)
    (timeout : new.phase.reply = some .timeout → old.phase.reply = some .timeout) :
    AcksDelivered (state.set index new) := by
  intro opened other tracked arrival is noted
  rw [set_commands, lookup_set was] at is
  split_ifs at is with here
  · obtain rfl := Option.some.inj is
    obtain ⟨way, replied⟩ := delivered opened index old arrival was (first ▸ noted)
    subst here
    exact ⟨way.imp id (Or.imp id (keeps arrival)), fun reply => replied (timeout reply)⟩
  · exact delivered opened other tracked arrival is noted

theorem delivers_append (delivered : AcksDelivered state) {new : Tracked}
    (unnoted : new.first = none) (commands : next.commands = state.commands ++ [new])
    (queue : next.queue = state.queue) (hand : next.hand = state.hand)
    (opened : next.isOpen = state.isOpen) : AcksDelivered next := by
  intro is_open index tracked arrival is noted
  rw [commands, lookup_append] at is
  split_ifs at is with last
  · obtain rfl := Option.some.inj is
    rw [unnoted] at noted
    cases noted
  · unfold OnItsWay
    rw [queue, hand]
    exact delivered (opened ▸ is_open) index tracked arrival is noted

theorem receive_delivers (delivered : AcksDelivered state) (cmd : CommandEnvelope)
    (commandID : GoString) (now : UInt64) (pubErr : Option GoString) :
    AcksDelivered (state.receive cmd commandID now pubErr) := by
  unfold receive
  split_ifs
  · cases pubErr with
    | some err => exact delivers_append delivered rfl rfl rfl rfl rfl
    | none => exact delivers_append delivered rfl rfl rfl rfl rfl
  · exact delivers_append delivered rfl rfl rfl rfl rfl

theorem arrive_queue {data : List UInt8} (taken : Taken state next (.arrive data)) :
    next.queue = if state.queue.length < subscriptionCapacity then
      state.queue ++ [(state.arrivals, data)] else state.queue := by
  obtain ⟨note, heard, noted, _⟩ := noted_eq state data
  rw [taken, noted]

theorem arrive_lookup {data : List UInt8} {ack : CommandAck} (decoded : ackOf data = some ack)
    (taken : Taken state next (.arrive data)) (index : Nat) :
    next.commands[index]? =
      (state.commands[index]?).map fun tracked => tracked.note ⟨state.arrivals, ack⟩ := by
  rw [taken]
  unfold noted
  rw [decoded]
  exact List.getElem?_map

theorem arrive_delivers {data : List UInt8} (ordered : Ordered state)
    (delivered : AcksDelivered state) (taken : Taken state next (.arrive data)) :
    AcksDelivered next ↔ Prompt state (.arrive data) := by
  have opened : next.isOpen = state.isOpen := by
    obtain ⟨note, heard, noted, _⟩ := noted_eq state data
    rw [taken, noted]
  have hand : next.hand = state.hand := by
    obtain ⟨note, heard, noted, _⟩ := noted_eq state data
    rw [taken, noted]
  have queue := arrive_queue taken
  have kept (entry : Nat × List UInt8) (member : entry ∈ state.queue) : entry ∈ next.queue := by
    rw [queue]
    split_ifs
    · exact List.mem_append_left _ member
    · exact member
  have way {index : Nat} {old new : Tracked} {arrival : Arrival}
      (phase : new.phase = old.phase) (channel : new.channel = old.channel)
      (before : OnItsWay state index old arrival) : OnItsWay next index new arrival := by
    unfold OnItsWay Tracked.Keeps at before ⊢
    rw [hand, phase, channel]
    exact before.imp (fun ⟨data, member, is⟩ => ⟨data, kept _ member, is⟩) id
  constructor
  · intro after is_open ack decoded index tracked is awaits
    by_contra full
    rw [if_neg full] at queue
    have noted : tracked.note ⟨state.arrivals, ack⟩ =
        { tracked with first := some ⟨state.arrivals, ack⟩ } := if_pos awaits
    have found : next.commands[index]? = some (tracked.note ⟨state.arrivals, ack⟩) := by
      rw [arrive_lookup decoded taken, is]
      rfl
    rw [noted] at found
    obtain ⟨member, _⟩ := after (opened.trans is_open) index _ _ found rfl
    rcases member with ⟨data, member, _⟩ | held | held
    · exact absurd (ordered.numbered _ (queue ▸ member)) (Nat.lt_irrefl _)
    · exact absurd (ordered.handed index _ (hand ▸ held)).1 (Nat.lt_irrefl _)
    · exact absurd ((ordered.rows index tracked is).held _ held.holds).1 (Nat.lt_irrefl _)
  · intro prompt is_open index tracked arrival is noted
    rw [opened] at is_open
    cases decoded : ackOf data with
    | none =>
      have commands : next.commands = state.commands := by
        rw [taken, SendSession.noted, decoded]
      rw [commands] at is
      obtain ⟨before, reply⟩ := delivered is_open index tracked arrival is noted
      exact ⟨way rfl rfl before, reply⟩
    | some ack =>
      rw [arrive_lookup decoded taken, Option.map_eq_some_iff] at is
      obtain ⟨old, was, rfl⟩ := is
      obtain ⟨_, phase, channel, _⟩ := note_same old ⟨state.arrivals, ack⟩
      by_cases awaits : Tracked.Awaits old ack
      · have same : old.note ⟨state.arrivals, ack⟩ =
            { old with first := some ⟨state.arrivals, ack⟩ } := if_pos awaits
        rw [same] at noted
        obtain rfl := Option.some.inj noted
        have room := prompt is_open ack decoded index old was awaits
        rw [if_pos room] at queue
        refine ⟨.inl ⟨data, ?_, decoded⟩, ?_⟩
        · rw [queue]
          exact List.mem_append_right _ List.mem_cons_self
        · intro reply
          rw [phase] at reply
          have expired := (ordered.rows index old was).timedOut reply
          exact absurd (expired.symm.trans awaits.2.2.1) (by simp)
      · have same : old.note ⟨state.arrivals, ack⟩ = old := if_neg awaits
        rw [same] at noted ⊢
        obtain ⟨before, reply⟩ := delivered is_open index old arrival was noted
        exact ⟨way rfl rfl before, reply⟩

theorem Row.silent {index : Nat} {tracked : Tracked} {first : Arrival}
    (row : Row state index tracked) (noted : tracked.first = some first)
    (later : ∀ arrival : Arrival, (∀ entry ∈ state.queue, arrival.serial < entry.1) →
      (∀ other next, state.hand = some (other, next) → arrival.serial < next.serial) →
      arrival.serial < first.serial)
    (replied : tracked.phase.reply ≠ some .timeout) : tracked.phase.reply = none := by
  cases is : tracked.phase.reply with
  | none => rfl
  | some reply =>
    cases reply with
    | timeout => exact absurd is replied
    | ack arrival =>
      obtain ⟨_, queued, handed, led, _⟩ := row.held arrival (.inr is)
      have before := later arrival queued handed
      have after := led.le noted
      omega

theorem Row.registered {index : Nat} {tracked : Tracked} {first : Arrival} {data : List UInt8}
    (accounted : Accounted state) (row : Row state index tracked) (opened : state.isOpen = true)
    (is : state.commands[index]? = some tracked) (noted : tracked.first = some first)
    (member : (first.serial, data) ∈ state.queue) (known : tracked.phase ≠ .published)
    (replied : tracked.phase.reply ≠ some .timeout) :
    tracked.phase = .registered ∨ tracked.phase = .waiting := by
  have free := row.silent noted (fun arrival queued _ => queued _ member) replied
  cases phase : tracked.phase with
  | registered => exact .inl rfl
  | waiting => exact .inr rfl
  | published => exact absurd phase known
  | failed ack =>
    have sound := (row.noted first noted).2.2
    rw [phase] at sound
    cases sound
  | left =>
    rw [accounted.left index tracked is phase] at opened
    cases opened
  | chosen reply => simp [phase, CommandPhase.reply] at free
  | forgotten reply => simp [phase, CommandPhase.reply] at free
  | answered reply => simp [phase, CommandPhase.reply] at free

theorem noise_prompt {serial : Nat} {data : List UInt8}
    (head : state.queue.head? = some (serial, data)) (noise : ackOf data = none) :
    Prompt state .route := by
  intro _ other message ack is decoded
  obtain ⟨rfl, rfl⟩ := Prod.mk.inj (Option.some.inj (head.symm.trans is))
  rw [noise] at decoded
  cases decoded

theorem route_delivers (accounted : Accounted state) (registered : Registered state)
    (ordered : Ordered state) (delivered : AcksDelivered state)
    (taken : Taken state next .route) : AcksDelivered next ↔ Prompt state .route := by
  obtain ⟨serial, data, queue, hand, is, routed⟩ := taken
  have sorted := ordered.sorted
  rw [is, List.pairwise_cons] at sorted
  have head : state.queue.head? = some (serial, data) := by rw [is]; rfl
  have in_queue : (serial, data) ∈ state.queue := is ▸ List.mem_cons_self
  rcases routed with ⟨ack, decoded, rfl⟩ | ⟨noise, rfl⟩ | ⟨noise, rfl⟩
  · have message : ackOf data = some ack := by rw [ackOf, decoded]
    constructor
    · intro after opened serial' data' ack' head' message' index tracked was noted published
      obtain ⟨rfl, rfl⟩ := Prod.mk.inj (Option.some.inj (head.symm.trans head'))
      obtain rfl := Option.some.inj (message.symm.trans message')
      rcases (after opened index tracked _ was noted).1 with ⟨_, member, _⟩ | held | held
      · exact absurd (sorted.1 _ member) (Nat.lt_irrefl _)
      · obtain ⟨place, entry, pair⟩ := Option.map_eq_some_iff.mp held
        obtain ⟨rfl, _⟩ := Prod.mk.inj pair
        obtain ⟨owner, found, _, _, known⟩ := registered.entries _ _ entry
        obtain rfl := Option.some.inj (was.symm.trans found)
        exact known published
      · have earlier := ((ordered.rows index tracked was).held _ held.holds).2.1 _ in_queue
        exact absurd earlier (Nat.lt_irrefl _)
    · intro prompt opened index tracked first was noted
      obtain ⟨way, replied⟩ := delivered opened index tracked first was noted
      have row := ordered.rows index tracked was
      refine ⟨?_, replied⟩
      rcases way with ⟨data', member, message'⟩ | held | held
      · rw [is, List.mem_cons] at member
        rcases member with here | later
        · obtain ⟨same, rfl⟩ := Prod.mk.inj here
          have equal : first = ⟨serial, ack⟩ := by
            obtain ⟨first_serial, first_ack⟩ := first
            obtain rfl := Option.some.inj (message'.symm.trans message)
            rw [← same]
          subst equal
          have known := prompt opened serial data' ack head message index tracked was noted
          have waits := row.registered accounted opened was noted in_queue known replied
          have named := (row.noted _ noted).2.1
          refine .inr (.inl ?_)
          show (state.pendingACKs ack.commandID).map _ = _
          rw [named, registered.present index tracked was waits]
          rfl
        · exact .inl ⟨data', later, message'⟩
      · rw [hand] at held
        cases held
      · exact .inr (.inr held)
  · refine iff_of_true ?_ (noise_prompt head noise)
    intro opened index tracked first was noted
    obtain ⟨way, replied⟩ := delivered opened index tracked first was noted
    refine ⟨way.imp ?_ id, replied⟩
    rintro ⟨data', member, message⟩
    rw [is, List.mem_cons] at member
    rcases member with here | later
    · obtain ⟨_, rfl⟩ := Prod.mk.inj here
      rw [noise] at message
      cases message
    · exact ⟨data', later, message⟩
  · exact iff_of_true (fun opened => absurd opened (by simp)) (noise_prompt head noise)

theorem push_delivers (ordered : Ordered state) (delivered : AcksDelivered state)
    (taken : Taken state next .push) : AcksDelivered next := by
  obtain ⟨index, arrival, tracked, hand, was, ⟨free, rfl⟩ | ⟨full, rfl⟩⟩ := taken
  · intro opened other found first is noted
    rw [set_commands, lookup_set was] at is
    split_ifs at is with here
    · obtain rfl := Option.some.inj is
      obtain rfl := here
      obtain ⟨way, replied⟩ := delivered opened other tracked first was noted
      refine ⟨?_, replied⟩
      rcases way with queued | held | ⟨held, _⟩ | held
      · exact .inl queued
      · obtain ⟨_, rfl⟩ := Prod.mk.inj (Option.some.inj (hand.symm.trans held))
        have row := ordered.rows other tracked was
        exact .inr (.inr (.inl ⟨rfl, row.silent noted (fun _ _ handed => handed _ _ hand) replied⟩))
      · rw [free] at held
        cases held
      · exact .inr (.inr (.inr held))
    · obtain ⟨way, replied⟩ := delivered opened other found first is noted
      refine ⟨?_, replied⟩
      rcases way with queued | held | held
      · exact .inl queued
      · obtain ⟨rfl, _⟩ := Prod.mk.inj (Option.some.inj (hand.symm.trans held))
        exact absurd rfl here
      · exact .inr (.inr held)
  · intro opened other found first is noted
    obtain ⟨way, replied⟩ := delivered opened other found first is noted
    refine ⟨?_, replied⟩
    rcases way with queued | held | held
    · exact .inl queued
    · obtain ⟨rfl, rfl⟩ := Prod.mk.inj (Option.some.inj (hand.symm.trans held))
      obtain rfl := Option.some.inj (was.symm.trans is)
      obtain ⟨earlier, there⟩ := Option.ne_none_iff_exists'.mp full
      obtain ⟨_, _, handed, led, _⟩ := (ordered.rows index tracked was).held earlier (.inl there)
      have before := handed index arrival hand
      have after := led.le noted
      omega
    · exact .inr (.inr held)

theorem timeout_delivers (delivered : AcksDelivered state) {index : Nat}
    (taken : Taken state next (.timeout index)) :
    AcksDelivered next ↔ Prompt state (.timeout index) := by
  obtain ⟨tracked, was, phase, expired, rfl⟩ := taken
  constructor
  · intro after opened found is
    obtain rfl := Option.some.inj (was.symm.trans is)
    cases noted : tracked.first with
    | none => rfl
    | some first =>
      have here : (state.set index { tracked with phase := .chosen .timeout }).commands[index]? =
          some { tracked with phase := .chosen .timeout } := by
        rw [set_commands, lookup_set was, if_pos rfl]
      exact absurd rfl (after opened index _ first here noted).2
  · intro prompt opened other found first is noted
    rw [set_commands, lookup_set was] at is
    split_ifs at is with here
    · obtain rfl := Option.some.inj is
      have unnoted := prompt opened tracked was
      rw [unnoted] at noted
      cases noted
    · exact delivered opened other found first is noted

theorem step_delivers {action : Action} (accounted : Accounted state)
    (registered : Registered state) (ordered : Ordered state) (delivered : AcksDelivered state)
    (moved : step state action = some next) : AcksDelivered next ↔ Prompt state action := by
  have taken := step_taken moved
  cases action with
  | receive cmd commandID now pubErr =>
    obtain ⟨_, _, _, rfl⟩ := taken
    exact iff_of_true (receive_delivers delivered cmd commandID now pubErr) trivial
  | register =>
    obtain ⟨index, tracked, registering, was, rfl⟩ := taken
    obtain ⟨same, is, phase⟩ := accounted.registering index registering
    obtain rfl := Option.some.inj (was.symm.trans is)
    have aside : AcksDelivered { state with
      registering := none
      pendingACKs := Function.update state.pendingACKs tracked.cmd.commandID (some index) } := delivered
    have same : CommandPhase.registered.reply = tracked.phase.reply := by rw [phase]; rfl
    exact iff_of_true (delivers_set aside was rfl (keeps_moved same) same.symm.trans) trivial
  | start index =>
    obtain ⟨tracked, was, phase, rfl⟩ := taken
    have same : CommandPhase.waiting.reply = tracked.phase.reply := by rw [phase]; rfl
    exact iff_of_true (delivers_set delivered was rfl (keeps_moved same) same.symm.trans) trivial
  | expire index =>
    obtain ⟨tracked, was, phase, rfl⟩ := taken
    exact iff_of_true (delivers_set delivered was rfl (fun _ held => held) id) trivial
  | arrive data => exact arrive_delivers ordered delivered taken
  | route => exact route_delivers accounted registered ordered delivered taken
  | push => exact iff_of_true (push_delivers ordered delivered taken) trivial
  | takeAck index =>
    obtain ⟨tracked, arrival, was, channel, phase, rfl⟩ := taken
    refine iff_of_true (delivers_set delivered was rfl ?_ (by simp [CommandPhase.reply])) trivial
    rintro other (⟨held, _⟩ | held)
    · obtain rfl := Option.some.inj (channel.symm.trans held)
      exact .inr rfl
    · simp [phase, CommandPhase.reply] at held
  | timeout index => exact timeout_delivers delivered taken
  | leave index =>
    obtain ⟨tracked, was, phase, closed, rfl⟩ := taken
    refine iff_of_true (fun opened => ?_) trivial
    rw [show state.isOpen = true from opened] at closed
    cases closed
  | forget index =>
    obtain ⟨tracked, reply, was, phase, rfl⟩ := taken
    have aside : AcksDelivered { state with
      pendingACKs := Function.update state.pendingACKs tracked.cmd.commandID none } := delivered
    have same : (CommandPhase.forgotten reply).reply = tracked.phase.reply := by rw [phase]; rfl
    exact iff_of_true (delivers_set aside was rfl (keeps_moved same) same.symm.trans) trivial
  | send index =>
    obtain ⟨tracked, reply, was, phase, rfl⟩ := taken
    have aside : AcksDelivered { state with
      sent := state.sent ++ [(index, reply.commandAck tracked.cmd)] } := delivered
    have same : (CommandPhase.answered reply).reply = tracked.phase.reply := by rw [phase]; rfl
    exact iff_of_true (delivers_set aside was rfl (keeps_moved same) same.symm.trans) trivial
  | cancel =>
    obtain rfl := taken
    exact iff_of_true (fun opened => absurd opened (by simp)) trivial

theorem router_idle (accounted : Accounted state) (alive : ¬state.alive = false)
    (routed : step state .route = none) (pushed : step state .push = none) :
    state.hand = none ∧ state.queue = [] := by
  have hand : state.hand = none := by
    cases held : state.hand with
    | none => rfl
    | some pair =>
      obtain ⟨owner, found, _⟩ := accounted.hand pair.1 pair.2 held
      simp only [step, if_neg alive, held, found, Option.bind_eq_bind, Option.bind_some] at pushed
      split_ifs at pushed
  refine ⟨hand, ?_⟩
  cases held : state.queue with
  | nil => rfl
  | cons entry rest =>
    have ends := decodeCommandAck_ends entry.2
    simp only [step, if_neg alive, hand, held] at routed
    split at routed
    next => cases routed
    next => cases routed
    next => cases routed
    next hangs => exact absurd hangs ends

theorem Row.answered {index : Nat} {tracked : Tracked} {first : Arrival}
    (row : Row state index tracked) (accounted : Accounted state)
    (alive : ¬state.alive = false) (opened : state.isOpen = true)
    (is : state.commands[index]? = some tracked) (noted : tracked.first = some first)
    (keeps : Tracked.Keeps tracked first)
    (finished : ∀ action ∈ ownSteps index, step state action = none) :
    tracked.phase = .answered (.ack first) := by
  rcases keeps with ⟨channel, silent⟩ | reply
  · have known := (row.held first (.inl channel)).2.2.2.2
    cases phase : tracked.phase with
    | published => exact absurd phase known
    | registered =>
      have stuck := finished (.start index) (by simp [ownSteps])
      simp [step, alive, advance, is, phase] at stuck
    | waiting =>
      have stuck := finished (.takeAck index) (by simp [ownSteps])
      simp [step, alive, is, phase, channel] at stuck
    | failed ack =>
      have sound := (row.noted first noted).2.2
      simp [phase, CommandPhase.isFailed] at sound
    | left =>
      rw [accounted.left index tracked is phase] at opened
      cases opened
    | chosen reply => simp [phase, CommandPhase.reply] at silent
    | forgotten reply => simp [phase, CommandPhase.reply] at silent
    | answered reply => simp [phase, CommandPhase.reply] at silent
  · cases phase : tracked.phase with
    | chosen reply =>
      have stuck := finished (.forget index) (by simp [ownSteps])
      simp [step, alive, is, phase] at stuck
    | forgotten reply =>
      have stuck := finished (.send index) (by simp [ownSteps])
      simp [step, alive, is, phase] at stuck
    | answered other =>
      rw [phase] at reply
      rw [Option.some.inj reply]
    | _ => simp [phase, CommandPhase.reply] at reply

theorem finished_sent (accounted : Accounted state) (ordered : Ordered state)
    (delivered : AcksDelivered state) (opened : state.isOpen = true) {index : Nat}
    {tracked : Tracked} (is : state.commands[index]? = some tracked) {first : Arrival}
    (noted : tracked.first = some first)
    (finished : ∀ action ∈ .route :: .push :: ownSteps index, step state action = none) :
    state.sentFor index = [first.ack] := by
  have alive : ¬state.alive = false := by
    intro dead
    rw [accounted.running dead] at opened
    cases opened
  obtain ⟨hand, queue⟩ :=
    router_idle accounted alive (finished .route (by simp)) (finished .push (by simp))
  obtain ⟨way, _⟩ := delivered opened index tracked first is noted
  have keeps : Tracked.Keeps tracked first := by
    rcases way with ⟨data, member, _⟩ | held | keeps
    · simp [queue] at member
    · simp [hand] at held
    · exact keeps
  have answered := (ordered.rows index tracked is).answered accounted alive opened is noted keeps
    fun action member => finished action (List.mem_cons_of_mem _ (List.mem_cons_of_mem _ member))
  rw [accounted.replies, is, Option.map_some, Option.getD_some, Tracked.replies, answered]
  rfl

end Steps

theorem start_good (claims : Claims) :
    Accounted (start claims) ∧ Registered (start claims) ∧ Ordered (start claims) := by
  refine ⟨start_accounted claims, ?_, ?_⟩
  · constructor <;> simp [start]
  · constructor <;> simp [start]

/-- Every first ACK gets through exactly in the runs whose steps are all prompt. -/
theorem acks_delivered_iff (claims : Claims) (actions : List Action) :
    (Throughout step AcksDelivered (start claims) actions ↔
      Along step Prompt (start claims) actions) ∧
    ∀ state, exec step (start claims) actions = some state →
      Along step Prompt (start claims) actions → state.isOpen = true →
      ∀ (index : Nat) tracked first, state.commands[index]? = some tracked →
        tracked.first = some first →
        (∀ action ∈ .route :: .push :: ownSteps index, step state action = none) →
        state.sentFor index = [first.ack] := by
  have keeps (state : SendSession) (action : Action) (next : SendSession)
      (good : Accounted state ∧ Registered state ∧ Ordered state)
      (moved : step state action = some next) :
      Accounted next ∧ Registered next ∧ Ordered next :=
    ⟨step_accounted good.1 moved, step_registered good.1 good.2.1 moved,
      step_ordered good.1 good.2.1 good.2.2 moved⟩
  have begun : AcksDelivered (start claims) := by simp [AcksDelivered, start]
  have exactly : Throughout step AcksDelivered (start claims) actions ↔
      Along step Prompt (start claims) actions :=
    throughout_iff_along (fun state action next good _ _ moved => keeps state action next good moved)
      (fun state action next good delivered moved =>
        step_delivers good.1 good.2.1 good.2.2 delivered moved)
      (start_good claims) begun
  refine ⟨exactly, ?_⟩
  intro state ran prompt opened index tracked first is noted finished
  obtain ⟨accounted, _, ordered⟩ := exec_invariant keeps (start_good claims) ran
  have delivered := throughout_iff_prefixes.mp (exactly.mpr prompt) actions [] state (by simp) ran
  exact finished_sent accounted ordered delivered opened is noted finished

/-- CommandAck{command_id "c1", status COMPLETED}. -/
def completedMessage : List UInt8 := [0x0A, 2, 0x63, 0x31, 0x18, 2]

-- The vehicle answers between `Publish` and the registration of its command.
def earlyAckRun : List Action :=
  [.receive landCommand (Utf8.encode "c1") 0 none, .arrive completedMessage, .route, .register,
    .start 0, .expire 0, .timeout 0, .forget 0, .send 0]

theorem early_ack_times_out :
    ∃ state tracked first, exec step (start operatorClaims) earlyAckRun = some state ∧
      state.isOpen = true ∧ state.commands[0]? = some tracked ∧ tracked.first = some first ∧
      first.ack.commandID = tracked.cmd.commandID ∧ first.ack.status = 2 ∧
      (state.sentFor 0).map CommandAck.status = [4] :=
  ⟨_, _, _, rfl, rfl, rfl, rfl, rfl, rfl, rfl⟩

end SendSession

end SystemScale.Cloud

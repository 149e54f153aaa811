import SystemScale.Cloud.SendCommand

set_option autoImplicit false

/-!
# The ACKs of a SendCommand stream in order

`pendingACKs` has every command that waits for an ACK, and no ACK overtakes another on its way to
the goroutines.
-/

namespace SystemScale.Cloud

open Lookups

namespace SendSession

/-! ## Registration -/

/-- No two published commands have one id, and `pendingACKs` has those that wait for an ACK. -/
structure Registered (state : SendSession) : Prop where
  distinct : ∀ (index other : Nat) tracked found, state.commands[index]? = some tracked →
    state.commands[other]? = some found → tracked.phase.isFailed = false →
    found.phase.isFailed = false → tracked.cmd.commandID = found.cmd.commandID → index = other
  entries : ∀ commandID (index : Nat), state.pendingACKs commandID = some index →
    ∃ tracked, state.commands[index]? = some tracked ∧ tracked.cmd.commandID = commandID ∧
      tracked.phase.isFailed = false ∧ tracked.phase ≠ .published
  present : ∀ (index : Nat) tracked, state.commands[index]? = some tracked →
    tracked.phase = .registered ∨ tracked.phase = .waiting →
    state.pendingACKs tracked.cmd.commandID = some index

def Clash (first second : Tracked) : Prop :=
  first.phase.isFailed = false ∧ second.phase.isFailed = false ∧
    first.cmd.commandID = second.cmd.commandID

theorem Registered.apart {state : SendSession} (registered : Registered state) :
    Apart Clash state.commands := by
  intro place other tracked found is others clash
  exact registered.distinct place other tracked found is others clash.1 clash.2.1 clash.2.2

theorem distinct_of_apart {commands : List Tracked} (apart : Apart Clash commands)
    (place other : Nat) (tracked found : Tracked) (is : commands[place]? = some tracked)
    (others : commands[other]? = some found) (published : tracked.phase.isFailed = false)
    (found_published : found.phase.isFailed = false)
    (equal : tracked.cmd.commandID = found.cmd.commandID) : place = other :=
  apart place other tracked found is others ⟨published, found_published, equal⟩

section Changes

variable {state : SendSession} {index : Nat} {old new : Tracked}

theorem Registered.apart_set (registered : Registered state)
    (was : state.commands[index]? = some old) (same : new.cmd = old.cmd)
    (failed : new.phase.isFailed = old.phase.isFailed) :
    Apart Clash (state.commands.set index new) := by
  apply registered.apart.set was
  · intro found clash
    unfold Clash at clash
    rw [failed, same] at clash
    exact clash
  · intro entry clash
    unfold Clash at clash
    rw [failed, same] at clash
    exact clash

theorem Registered.set (registered : Registered state) (was : state.commands[index]? = some old)
    (same : new.cmd = old.cmd) (failed : new.phase.isFailed = old.phase.isFailed)
    (published : old.phase ≠ .published → new.phase ≠ .published)
    (present : new.phase = .registered ∨ new.phase = .waiting →
      old.phase = .registered ∨ old.phase = .waiting) : Registered (state.set index new) where
  distinct := distinct_of_apart (registered.apart_set was same failed)
  entries commandID other entry := by
    obtain ⟨tracked, is, named, sound, known⟩ := registered.entries commandID other entry
    rw [set_commands, lookup_set was]
    by_cases here : other = index
    · subst here
      obtain rfl := Option.some.inj (was.symm.trans is)
      exact ⟨new, if_pos rfl, by rw [same, named], by rw [failed, sound], published known⟩
    · exact ⟨tracked, (if_neg here).trans is, named, sound, known⟩
  present other tracked is waits := by
    rw [set_commands, lookup_set was] at is
    split_ifs at is with here
    · obtain rfl := Option.some.inj is
      rw [same, here]
      exact registered.present index old was (present waits)
    · exact registered.present other tracked is waits

end Changes

theorem Registered.append {state next : SendSession} (registered : Registered state)
    {new : Tracked}
    (fresh : new.phase.isFailed = false →
      ∀ tracked ∈ state.commands, tracked.cmd.commandID ≠ new.cmd.commandID)
    (idle : ¬(new.phase = .registered ∨ new.phase = .waiting))
    (commands : next.commands = state.commands ++ [new])
    (pending : next.pendingACKs = state.pendingACKs) : Registered next where
  distinct := by
    rw [commands]
    apply distinct_of_apart
    apply registered.apart.append
    intro tracked member
    exact ⟨fun clash => fresh clash.2.1 tracked member clash.2.2,
      fun clash => fresh clash.1 tracked member clash.2.2.symm⟩
  entries commandID index entry := by
    obtain ⟨tracked, is, rest⟩ := registered.entries commandID index (pending ▸ entry)
    exact ⟨tracked, by rw [commands, kept_append new is], rest⟩
  present index tracked is waits := by
    rw [commands, lookup_append] at is
    rw [pending]
    split_ifs at is
    · exact absurd waits (Option.some.inj is ▸ idle)
    · exact registered.present index tracked is waits

theorem receive_registered {state : SendSession} (registered : Registered state)
    (cmd : CommandEnvelope) {commandID : GoString}
    (fresh : state.Fresh commandID) (now : UInt64) (pubErr : Option GoString) :
    Registered (state.receive cmd commandID now pubErr) := by
  unfold receive
  split_ifs with access
  · cases pubErr with
    | some err =>
      exact registered.append (by simp [CommandPhase.isFailed]) (by simp) rfl rfl
    | none => exact registered.append (fun _ => fresh.1) (by simp) rfl rfl
  · exact registered.append (by simp [CommandPhase.isFailed]) (by simp) rfl rfl

theorem arrive_registered {state next : SendSession} {data : List UInt8}
    (registered : Registered state) (taken : Taken state next (.arrive data)) : Registered next := by
  obtain ⟨note, heard, noted, same⟩ := noted_eq state data
  have commands : next.commands = state.commands.map note := by rw [taken, noted]
  have lookup (index : Nat) : next.commands[index]? = (state.commands[index]?).map note := by
    rw [commands, List.getElem?_map]
  have pending : next.pendingACKs = state.pendingACKs := by rw [taken, noted]
  have before {index : Nat} {tracked : Tracked} (is : next.commands[index]? = some tracked) :
      ∃ earlier, state.commands[index]? = some earlier ∧ earlier.cmd = tracked.cmd ∧
        earlier.phase = tracked.phase := by
    rw [lookup, Option.map_eq_some_iff] at is
    obtain ⟨earlier, was, rfl⟩ := is
    exact ⟨earlier, was, (same earlier).1.symm, (same earlier).2.1.symm⟩
  constructor
  · rw [commands]
    apply distinct_of_apart
    apply registered.apart.map
    intro first second clash
    unfold Clash at clash
    rw [(same first).1, (same first).2.1, (same second).1, (same second).2.1] at clash
    exact clash
  · intro commandID index entry
    obtain ⟨tracked, is, named, sound, known⟩ := registered.entries commandID index (pending ▸ entry)
    obtain ⟨cmd, phase, _⟩ := same tracked
    exact ⟨note tracked, by rw [lookup, is]; rfl, by rw [cmd, named], by rw [phase, sound],
      by rw [phase]; exact known⟩
  · intro index tracked is waits
    obtain ⟨earlier, was, cmd, phase⟩ := before is
    rw [← phase] at waits
    rw [pending, ← cmd]
    exact registered.present index earlier was waits

theorem register_registered {state : SendSession} (registered : Registered state) {index : Nat}
    {old : Tracked} (was : state.commands[index]? = some old) (phase : old.phase = .published)
    {next : SendSession} (is : next = { state with
      registering := none
      pendingACKs := Function.update state.pendingACKs old.cmd.commandID (some index)
      }.set index { old with phase := .registered }) : Registered next := by
  subst is
  have failed : old.phase.isFailed = false := by rw [phase]; rfl
  constructor
  · exact distinct_of_apart (registered.apart_set was rfl (by rw [phase]; rfl))
  · intro commandID other entry
    rw [set_commands, lookup_set was]
    by_cases same : commandID = old.cmd.commandID
    · subst same
      obtain rfl : index = other := by simpa [set] using entry
      exact ⟨_, if_pos rfl, rfl, rfl, by simp⟩
    · have earlier : state.pendingACKs commandID = some other := by
        simpa [set, Function.update_of_ne same] using entry
      obtain ⟨tracked, is, named, sound, known⟩ := registered.entries commandID other earlier
      have elsewhere : other ≠ index := by
        rintro rfl
        obtain rfl := Option.some.inj (was.symm.trans is)
        exact known phase
      exact ⟨tracked, (if_neg elsewhere).trans is, named, sound, known⟩
  · intro other tracked is waits
    rw [set_commands, lookup_set was] at is
    show Function.update state.pendingACKs old.cmd.commandID (some index) tracked.cmd.commandID = _
    split_ifs at is with here
    · obtain rfl := Option.some.inj is
      rw [here, Function.update_self]
    · have sound : tracked.phase.isFailed = false := by
        rcases waits with waits | waits <;> rw [waits] <;> rfl
      have differs : tracked.cmd.commandID ≠ old.cmd.commandID := fun equal =>
        here (registered.distinct other index tracked old is was sound failed equal)
      rw [Function.update_of_ne differs]
      exact registered.present other tracked is waits

theorem forget_registered {state : SendSession} (registered : Registered state) {index : Nat}
    {old : Tracked} {reply : Reply} (was : state.commands[index]? = some old)
    (phase : old.phase = .chosen reply) {next : SendSession}
    (is : next = { state with
      pendingACKs := Function.update state.pendingACKs old.cmd.commandID none
      }.set index { old with phase := .forgotten reply }) : Registered next := by
  subst is
  have failed : old.phase.isFailed = false := by rw [phase]; rfl
  constructor
  · exact distinct_of_apart (registered.apart_set was rfl (by rw [phase]; rfl))
  · intro commandID other entry
    rw [set_commands, lookup_set was]
    have differs : commandID ≠ old.cmd.commandID := by
      rintro rfl
      simp [set] at entry
    have earlier : state.pendingACKs commandID = some other := by
      simpa [set, Function.update_of_ne differs] using entry
    obtain ⟨tracked, is, named, sound, known⟩ := registered.entries commandID other earlier
    have elsewhere : other ≠ index := by
      rintro rfl
      obtain rfl := Option.some.inj (was.symm.trans is)
      exact differs named.symm
    exact ⟨tracked, (if_neg elsewhere).trans is, named, sound, known⟩
  · intro other tracked is waits
    rw [set_commands, lookup_set was] at is
    show Function.update state.pendingACKs old.cmd.commandID none tracked.cmd.commandID = _
    split_ifs at is with here
    · obtain rfl := Option.some.inj is
      simp at waits
    · have sound : tracked.phase.isFailed = false := by
        rcases waits with waits | waits <;> rw [waits] <;> rfl
      have differs : tracked.cmd.commandID ≠ old.cmd.commandID := fun equal =>
        here (registered.distinct other index tracked old is was sound failed equal)
      rw [Function.update_of_ne differs]
      exact registered.present other tracked is waits

theorem step_registered {state next : SendSession} {action : Action} (accounted : Accounted state)
    (registered : Registered state) (moved : step state action = some next) : Registered next := by
  have taken := step_taken moved
  cases action with
  | receive cmd commandID now pubErr =>
    obtain ⟨_, _, fresh, rfl⟩ := taken
    exact receive_registered registered cmd fresh now pubErr
  | register =>
    obtain ⟨index, tracked, registering, was, is⟩ := taken
    obtain ⟨same, found, phase⟩ := accounted.registering index registering
    obtain rfl := Option.some.inj (was.symm.trans found)
    exact register_registered registered was phase is
  | start index =>
    obtain ⟨tracked, was, phase, rfl⟩ := taken
    exact registered.set was rfl (by rw [phase]; rfl) (by simp) (fun _ => .inl phase)
  | expire index =>
    obtain ⟨tracked, was, phase, rfl⟩ := taken
    exact registered.set was rfl rfl id id
  | arrive data => exact arrive_registered registered taken
  | route =>
    obtain ⟨serial, data, queue, _, _, ⟨ack, _, rfl⟩ | ⟨_, rfl⟩ | ⟨_, rfl⟩⟩ := taken <;>
      exact ⟨registered.distinct, registered.entries, registered.present⟩
  | push =>
    obtain ⟨index, arrival, tracked, hand, was, ⟨free, rfl⟩ | ⟨_, rfl⟩⟩ := taken
    · have emptied : Registered { state with hand := none } :=
        ⟨registered.distinct, registered.entries, registered.present⟩
      exact emptied.set was rfl rfl id id
    · exact ⟨registered.distinct, registered.entries, registered.present⟩
  | takeAck index =>
    obtain ⟨tracked, arrival, was, channel, phase, rfl⟩ := taken
    exact registered.set was rfl (by rw [phase]; rfl) (by simp) (by simp)
  | timeout index =>
    obtain ⟨tracked, was, phase, expired, rfl⟩ := taken
    exact registered.set was rfl (by rw [phase]; rfl) (by simp) (by simp)
  | leave index =>
    obtain ⟨tracked, was, phase, closed, rfl⟩ := taken
    exact registered.set was rfl (by rw [phase]; rfl) (by simp) (by simp)
  | forget index =>
    obtain ⟨tracked, reply, was, phase, is⟩ := taken
    exact forget_registered registered was phase is
  | send index =>
    obtain ⟨tracked, reply, was, phase, rfl⟩ := taken
    have said : Registered { state with sent := state.sent ++ [(index, reply.commandAck tracked.cmd)] } :=
      ⟨registered.distinct, registered.entries, registered.present⟩
    exact said.set was rfl (by rw [phase]; rfl) (by simp) (by simp)
  | cancel =>
    obtain rfl := taken
    exact ⟨registered.distinct, registered.entries, registered.present⟩

/-! ## Order -/

/-- A first ACK is noted that came in no later, or none came in before the timer fired. -/
def Tracked.Led (tracked : Tracked) (serial : Nat) : Prop :=
  (∃ first, tracked.first = some first ∧ first.serial ≤ serial) ∨
    tracked.first = none ∧ tracked.expired = true

def Tracked.Reached (tracked : Tracked) (serial : Nat) : Prop :=
  Tracked.Led tracked serial ∧ tracked.phase ≠ .published

structure Row (state : SendSession) (index : Nat) (tracked : Tracked) : Prop where
  held : ∀ arrival, tracked.Holds arrival → arrival.serial < state.arrivals ∧
    (∀ entry ∈ state.queue, arrival.serial < entry.1) ∧
    (∀ other later, state.hand = some (other, later) → arrival.serial < later.serial) ∧
    Tracked.Reached tracked arrival.serial
  handed : ∀ arrival, state.hand = some (index, arrival) → Tracked.Reached tracked arrival.serial
  queued : ∀ entry ∈ state.queue, ∀ ack, ackOf entry.2 = some ack →
    tracked.phase.isFailed = false → ack.commandID = tracked.cmd.commandID →
    Tracked.Led tracked entry.1
  noted : ∀ first, tracked.first = some first → first.serial < state.arrivals ∧
    first.ack.commandID = tracked.cmd.commandID ∧ tracked.phase.isFailed = false
  timedOut : tracked.phase.reply = some .timeout → tracked.expired = true

/-- ACKs overtake each other nowhere between the subscription and the goroutines. -/
structure Ordered (state : SendSession) : Prop where
  sorted : state.queue.Pairwise fun first second => first.1 < second.1
  numbered : ∀ entry ∈ state.queue, entry.1 < state.arrivals
  handed : ∀ index arrival, state.hand = some (index, arrival) →
    arrival.serial < state.arrivals ∧ ∀ entry ∈ state.queue, arrival.serial < entry.1
  heard : ∀ entry ∈ state.queue, ∀ ack, ackOf entry.2 = some ack → ack.commandID ∈ state.heard
  rows : ∀ (index : Nat) tracked, state.commands[index]? = some tracked → Row state index tracked

section Rows

variable {state : SendSession} {index : Nat} {old new : Tracked}

theorem Ordered.set (ordered : Ordered state) (was : state.commands[index]? = some old)
    (row : Row state index new) : Ordered (state.set index new) where
  sorted := ordered.sorted
  numbered := ordered.numbered
  handed := ordered.handed
  heard := ordered.heard
  rows other tracked is := by
    rw [set_commands, lookup_set was] at is
    split_ifs at is with here
    · obtain rfl := Option.some.inj is
      obtain rfl := here
      exact ⟨row.held, row.handed, row.queued, row.noted, row.timedOut⟩
    · have kept := ordered.rows other tracked is
      exact ⟨kept.held, kept.handed, kept.queued, kept.noted, kept.timedOut⟩

theorem Row.moved (row : Row state index old) (cmd : new.cmd = old.cmd)
    (first : new.first = old.first) (failed : new.phase.isFailed = old.phase.isFailed)
    (known : old.phase ≠ .published → new.phase ≠ .published)
    (expired : old.expired = true → new.expired = true)
    (holds : ∀ arrival, new.Holds arrival → old.Holds arrival)
    (timedOut : new.phase.reply = some .timeout → new.expired = true) : Row state index new := by
  have led (serial : Nat) (before : Tracked.Led old serial) : Tracked.Led new serial := by
    unfold Tracked.Led
    rw [first]
    exact before.imp id (And.imp_right expired)
  constructor
  · intro arrival held
    obtain ⟨numbered, queued, handed, before⟩ := row.held arrival (holds arrival held)
    exact ⟨numbered, queued, handed, before.imp (led _) known⟩
  · exact fun arrival hand => (row.handed arrival hand).imp (led _) known
  · intro entry member ack is sound named
    rw [failed] at sound
    rw [cmd] at named
    exact led _ (row.queued entry member ack is sound named)
  · intro arrival is
    rw [cmd, failed]
    exact row.noted arrival (first ▸ is)
  · exact timedOut

theorem Row.routed (row : Row state index old) {queue : List (Nat × List UInt8)}
    {hand : Option (Nat × Arrival)} (fewer : ∀ entry ∈ queue, entry ∈ state.queue)
    (later : ∀ arrival, old.Holds arrival → ∀ other next, hand = some (other, next) →
      arrival.serial < next.serial)
    (handed : ∀ arrival, hand = some (index, arrival) → Tracked.Reached old arrival.serial)
    (isOpen alive : Bool) : Row { state with queue, hand, isOpen, alive } index old := by
  constructor
  · intro arrival held
    obtain ⟨numbered, queued, _, before⟩ := row.held arrival held
    exact ⟨numbered, fun entry member => queued entry (fewer entry member), later arrival held, before⟩
  · exact handed
  · exact fun entry member => row.queued entry (fewer entry member)
  · exact row.noted
  · exact row.timedOut

theorem Tracked.led_note {arrival : Arrival} {serial : Nat} (led : Tracked.Led old serial) :
    Tracked.Led (old.note arrival) serial := by
  unfold Tracked.note
  split_ifs with awaits
  · rcases led with ⟨first, is, _⟩ | ⟨_, expired⟩
    · rw [is] at awaits
      simp at awaits
    · rw [expired] at awaits
      simp at awaits
  · exact led

theorem Row.same {next : SendSession} (row : Row state index old) (queue : next.queue = state.queue)
    (hand : next.hand = state.hand) (arrivals : next.arrivals = state.arrivals) :
    Row next index old := by
  constructor
  · rw [queue, hand, arrivals]
    exact row.held
  · rw [hand]
    exact row.handed
  · rw [queue]
    exact row.queued
  · rw [arrivals]
    exact row.noted
  · exact row.timedOut

theorem Ordered.append {next : SendSession} (ordered : Ordered state) (accounted : Accounted state)
    (commands : next.commands = state.commands ++ [new]) (queue : next.queue = state.queue)
    (hand : next.hand = state.hand) (arrivals : next.arrivals = state.arrivals)
    (heard : next.heard = state.heard) (empty : new.channel = none)
    (silent : new.phase.reply = none) (unnoted : new.first = none)
    (unheard : new.phase.isFailed = false → new.cmd.commandID ∉ state.heard) : Ordered next where
  sorted := by
    rw [queue]
    exact ordered.sorted
  numbered := by
    rw [queue, arrivals]
    exact ordered.numbered
  handed := by
    rw [queue, hand, arrivals]
    exact ordered.handed
  heard := by
    rw [queue, heard]
    exact ordered.heard
  rows index tracked is := by
    rw [commands, lookup_append] at is
    split_ifs at is with last
    · obtain rfl := Option.some.inj is
      constructor
      · rintro arrival (held | held)
        · simp [empty] at held
        · simp [silent] at held
      · intro arrival held
        rw [hand] at held
        obtain ⟨owner, found, _⟩ := accounted.hand index arrival held
        have inside := (List.getElem?_eq_some_iff.mp found).1
        omega
      · intro entry member ack is sound named
        rw [queue] at member
        exact absurd (named ▸ ordered.heard entry member ack is) (unheard sound)
      · simp [unnoted]
      · simp [silent]
    · exact (ordered.rows index tracked is).same queue hand arrivals

end Rows

theorem receive_ordered {state : SendSession} (accounted : Accounted state)
    (ordered : Ordered state) (cmd : CommandEnvelope) {commandID : GoString}
    (fresh : state.Fresh commandID) (now : UInt64) (pubErr : Option GoString) :
    Ordered (state.receive cmd commandID now pubErr) := by
  unfold receive
  split_ifs
  · cases pubErr with
    | some err => exact ordered.append accounted rfl rfl rfl rfl rfl rfl rfl rfl (by simp [CommandPhase.isFailed])
    | none => exact ordered.append accounted rfl rfl rfl rfl rfl rfl rfl rfl fun _ => fresh.2
  · exact ordered.append accounted rfl rfl rfl rfl rfl rfl rfl rfl (by simp [CommandPhase.isFailed])

theorem Row.heard {state next : SendSession} {index : Nat} {old new : Tracked}
    {data : List UInt8} (row : Row state index old)
    (fewer : ∀ entry ∈ next.queue, entry ∈ state.queue ∨ entry = (state.arrivals, data))
    (hand : next.hand = state.hand) (arrivals : next.arrivals = state.arrivals + 1)
    (cmd : new.cmd = old.cmd) (phase : new.phase = old.phase) (channel : new.channel = old.channel)
    (expired : new.expired = old.expired)
    (led : ∀ serial, Tracked.Led old serial → Tracked.Led new serial)
    (own : ∀ ack, ackOf data = some ack → old.phase.isFailed = false →
      ack.commandID = old.cmd.commandID → Tracked.Led new state.arrivals)
    (noted : ∀ first, new.first = some first → old.first = some first ∨
      first.serial = state.arrivals ∧ first.ack.commandID = old.cmd.commandID ∧
        old.phase.isFailed = false) : Row next index new := by
  constructor
  · intro arrival held
    unfold Tracked.Holds at held
    rw [channel, phase] at held
    obtain ⟨numbered, queued, handed, before⟩ := row.held arrival held
    refine ⟨by omega, ?_, by rw [hand]; exact handed, before.imp (led _) (phase ▸ id)⟩
    intro entry member
    rcases fewer entry member with earlier | rfl
    · exact queued entry earlier
    · exact numbered
  · intro arrival held
    exact (row.handed arrival (hand ▸ held)).imp (led _) (phase ▸ id)
  · intro entry member ack is sound named
    rw [phase] at sound
    rw [cmd] at named
    rcases fewer entry member with earlier | rfl
    · exact led _ (row.queued entry earlier ack is sound named)
    · exact own ack is sound named
  · intro first is
    rw [cmd, phase]
    rcases noted first is with earlier | ⟨serial, named, sound⟩
    · obtain ⟨numbered, rest⟩ := row.noted first earlier
      exact ⟨by omega, rest⟩
    · exact ⟨by omega, named, sound⟩
  · rw [phase, expired]
    exact row.timedOut

theorem Row.noted_own {state : SendSession} {index : Nat} {old : Tracked}
    (row : Row state index old) {ack : CommandAck} (sound : old.phase.isFailed = false)
    (named : ack.commandID = old.cmd.commandID) :
    Tracked.Led (old.note ⟨state.arrivals, ack⟩) state.arrivals := by
  unfold Tracked.note
  split_ifs with awaits
  · exact .inl ⟨_, rfl, Nat.le_refl _⟩
  · cases first : old.first with
    | some arrival => exact .inl ⟨arrival, first, Nat.le_of_lt (row.noted arrival first).1⟩
    | none =>
      refine .inr ⟨first, ?_⟩
      cases expired : old.expired with
      | true => rfl
      | false => exact absurd ⟨named.symm, sound, expired, first⟩ awaits

theorem arrive_ordered {state next : SendSession} {data : List UInt8} (ordered : Ordered state)
    (taken : Taken state next (.arrive data)) : Ordered next := by
  have kept : (state.noted data).queue = state.queue := by
    unfold noted
    split <;> rfl
  have hand : next.hand = state.hand := by
    obtain ⟨note, heard, noted, _⟩ := noted_eq state data
    rw [taken, noted]
  have arrivals : next.arrivals = state.arrivals + 1 := by rw [taken]
  have queue : next.queue = state.queue ∨ next.queue = state.queue ++ [(state.arrivals, data)] := by
    rw [taken, kept]
    dsimp only
    split_ifs
    · exact .inr rfl
    · exact .inl rfl
  have fewer (entry : Nat × List UInt8) (member : entry ∈ next.queue) :
      entry ∈ state.queue ∨ entry = (state.arrivals, data) := by
    rcases queue with same | more
    · exact .inl (same ▸ member)
    · rw [more, List.mem_append, List.mem_singleton] at member
      exact member
  constructor
  · rcases queue with same | more
    · rw [same]
      exact ordered.sorted
    · rw [more, List.pairwise_append]
      refine ⟨ordered.sorted, List.pairwise_singleton _ _, ?_⟩
      intro entry member last is
      obtain rfl := List.mem_singleton.mp is
      exact ordered.numbered entry member
  · intro entry member
    rw [arrivals]
    rcases fewer entry member with earlier | rfl
    · exact Nat.lt_succ_of_lt (ordered.numbered entry earlier)
    · exact Nat.lt_succ_self _
  · intro index arrival held
    obtain ⟨numbered, queued⟩ := ordered.handed index arrival (hand ▸ held)
    refine ⟨by omega, ?_⟩
    intro entry member
    rcases fewer entry member with earlier | rfl
    · exact queued entry earlier
    · exact numbered
  · intro entry member ack is
    rw [taken]
    unfold noted
    rcases fewer entry member with earlier | rfl
    · have before := ordered.heard entry earlier ack is
      split
      · exact List.mem_cons_of_mem _ before
      · exact before
    · rw [is]
      exact List.mem_cons_self
  · intro index tracked is
    rw [taken] at is
    unfold noted at is
    cases decoded : ackOf data with
    | none =>
      rw [decoded] at is
      refine (ordered.rows index tracked is).heard fewer hand arrivals rfl rfl rfl rfl
        (fun _ led => led) ?_ fun _ first => .inl first
      intro ack some
      rw [decoded] at some
      cases some
    | some ack =>
      rw [decoded] at is
      dsimp only at is
      rw [List.getElem?_map, Option.map_eq_some_iff] at is
      obtain ⟨old, was, rfl⟩ := is
      have row := ordered.rows index old was
      obtain ⟨cmd, phase, channel, expired⟩ := note_same old ⟨state.arrivals, ack⟩
      refine row.heard fewer hand arrivals cmd phase channel expired
        (fun _ led => Tracked.led_note led) ?_ ?_
      · intro other some sound named
        obtain rfl := Option.some.inj (decoded.symm.trans some)
        exact row.noted_own sound named
      · intro first is
        unfold Tracked.note at is
        split_ifs at is with awaits
        · obtain rfl := Option.some.inj is
          exact .inr ⟨rfl, awaits.1.symm, awaits.2.1⟩
        · exact .inl is

theorem Ordered.routed {state : SendSession} (ordered : Ordered state)
    {queue : List (Nat × List UInt8)} {hand : Option (Nat × Arrival)}
    (rest : queue.Sublist state.queue)
    (numbered : ∀ index arrival, hand = some (index, arrival) →
      arrival.serial < state.arrivals ∧ ∀ entry ∈ queue, arrival.serial < entry.1)
    (later : ∀ (index : Nat) tracked arrival, state.commands[index]? = some tracked →
      tracked.Holds arrival → ∀ other next, hand = some (other, next) → arrival.serial < next.serial)
    (led : ∀ (index : Nat) tracked arrival, state.commands[index]? = some tracked →
      hand = some (index, arrival) → Tracked.Reached tracked arrival.serial)
    (isOpen alive : Bool) : Ordered { state with queue, hand, isOpen, alive } where
  sorted := ordered.sorted.sublist rest
  numbered entry member := ordered.numbered entry (rest.subset member)
  handed := numbered
  heard entry member := ordered.heard entry (rest.subset member)
  rows index tracked is := (ordered.rows index tracked is).routed (fun _ member => rest.subset member)
    (fun arrival held => later index tracked arrival is held)
    (fun arrival held => led index tracked arrival is held) isOpen alive

theorem Ordered.emptied {state : SendSession} (ordered : Ordered state) :
    Ordered { state with hand := none } :=
  ordered.routed (List.Sublist.refl _) (by simp) (by simp) (by simp) state.isOpen state.alive

theorem route_ordered {state : SendSession} (registered : Registered state)
    (ordered : Ordered state) {serial : Nat} {data : List UInt8} {queue : List (Nat × List UInt8)}
    (is : state.queue = (serial, data) :: queue) {ack : CommandAck} (decoded : ackOf data = some ack) :
    Ordered { state with
      queue
      hand := (state.pendingACKs ack.commandID).map fun index => (index, ⟨serial, ack⟩) } := by
  have member : (serial, data) ∈ state.queue := is ▸ List.mem_cons_self
  have sorted := ordered.sorted
  rw [is, List.pairwise_cons] at sorted
  have found {index : Nat} {arrival : Arrival}
      (hand : (state.pendingACKs ack.commandID).map (fun index => (index, Arrival.mk serial ack)) =
        some (index, arrival)) :
      state.pendingACKs ack.commandID = some index ∧ arrival = ⟨serial, ack⟩ := by
    obtain ⟨place, entry, pair⟩ := Option.map_eq_some_iff.mp hand
    obtain ⟨rfl, rfl⟩ := Prod.mk.inj pair
    exact ⟨entry, rfl⟩
  refine ordered.routed (is ▸ List.sublist_cons_self _ _) ?_ ?_ ?_ state.isOpen state.alive
  · intro index arrival hand
    obtain ⟨_, rfl⟩ := found hand
    exact ⟨ordered.numbered _ member, sorted.1⟩
  · intro index tracked arrival was held other next hand
    obtain ⟨_, rfl⟩ := found hand
    exact ((ordered.rows index tracked was).held arrival held).2.1 _ member
  · intro index tracked arrival was hand
    obtain ⟨entry, rfl⟩ := found hand
    obtain ⟨owner, here, named, sound, known⟩ := registered.entries ack.commandID index entry
    obtain rfl := Option.some.inj (was.symm.trans here)
    exact ⟨(ordered.rows index tracked was).queued _ member ack decoded sound named.symm, known⟩

theorem push_ordered {state : SendSession} (ordered : Ordered state) {index : Nat}
    {arrival : Arrival} {tracked : Tracked} (hand : state.hand = some (index, arrival))
    (was : state.commands[index]? = some tracked) :
    Ordered ({ state with hand := none }.set index { tracked with channel := some arrival }) := by
  have row := ordered.emptied.rows index tracked was
  have led := (ordered.rows index tracked was).handed arrival hand
  obtain ⟨numbered, queued⟩ := ordered.handed index arrival hand
  refine ordered.emptied.set was ⟨?_, row.handed, row.queued, row.noted, row.timedOut⟩
  rintro other (held | held)
  · obtain rfl := Option.some.inj held
    exact ⟨numbered, queued, by simp, led⟩
  · exact row.held other (.inr held)

theorem Ordered.moved {state : SendSession} (ordered : Ordered state) {index : Nat}
    {old new : Tracked} (was : state.commands[index]? = some old) (cmd : new.cmd = old.cmd)
    (first : new.first = old.first) (failed : new.phase.isFailed = old.phase.isFailed)
    (known : old.phase ≠ .published → new.phase ≠ .published)
    (expired : old.expired = true → new.expired = true)
    (holds : ∀ arrival, new.Holds arrival → old.Holds arrival)
    (timedOut : new.phase.reply = some .timeout → new.expired = true) :
    Ordered (state.set index new) :=
  ordered.set was ((ordered.rows index old was).moved cmd first failed known expired holds timedOut)

theorem Ordered.aside {state : SendSession} (ordered : Ordered state)
    (pendingACKs : GoString → Option Nat) (registering : Option Nat) (sent : List (Nat × CommandAck)) :
    Ordered { state with pendingACKs, registering, sent } where
  sorted := ordered.sorted
  numbered := ordered.numbered
  handed := ordered.handed
  heard := ordered.heard
  rows index tracked is := by
    have row := ordered.rows index tracked is
    exact ⟨row.held, row.handed, row.queued, row.noted, row.timedOut⟩

theorem step_ordered {state next : SendSession} {action : Action} (accounted : Accounted state)
    (registered : Registered state) (ordered : Ordered state)
    (moved : step state action = some next) : Ordered next := by
  have taken := step_taken moved
  cases action with
  | receive cmd commandID now pubErr =>
    obtain ⟨_, _, fresh, rfl⟩ := taken
    exact receive_ordered accounted ordered cmd fresh now pubErr
  | register =>
    obtain ⟨index, tracked, registering, was, rfl⟩ := taken
    obtain ⟨same, is, phase⟩ := accounted.registering index registering
    obtain rfl := Option.some.inj (was.symm.trans is)
    exact (ordered.aside _ none state.sent).moved was rfl rfl (by rw [phase]; rfl) (by simp) id
      (Tracked.holds_moved (by simp [CommandPhase.reply])) (by simp [CommandPhase.reply])
  | start index =>
    obtain ⟨tracked, was, phase, rfl⟩ := taken
    exact ordered.moved was rfl rfl (by rw [phase]; rfl) (by simp) id
      (Tracked.holds_moved (by simp [CommandPhase.reply])) (by simp [CommandPhase.reply])
  | expire index =>
    obtain ⟨tracked, was, phase, rfl⟩ := taken
    exact ordered.moved was rfl rfl rfl id (fun _ => rfl) (fun _ held => held) fun _ => rfl
  | arrive data => exact arrive_ordered ordered taken
  | route =>
    obtain ⟨serial, data, queue, hand, is, ⟨ack, decoded, rfl⟩ | ⟨_, rfl⟩ | ⟨_, rfl⟩⟩ := taken
    · exact route_ordered registered ordered is (by rw [ackOf, decoded])
    all_goals
      exact ordered.routed (is ▸ List.sublist_cons_self _ _) (by simp [hand]) (by simp [hand])
        (by simp [hand]) _ _
  | push =>
    obtain ⟨index, arrival, tracked, hand, was, ⟨free, rfl⟩ | ⟨_, rfl⟩⟩ := taken
    · exact push_ordered ordered hand was
    · exact ordered.emptied
  | takeAck index =>
    obtain ⟨tracked, arrival, was, channel, phase, rfl⟩ := taken
    refine ordered.moved was rfl rfl (by rw [phase]; rfl) (by simp) id ?_ (by simp [CommandPhase.reply])
    rintro other (held | held)
    · simp at held
    · obtain rfl := Reply.ack.inj (Option.some.inj held)
      exact .inl channel
  | timeout index =>
    obtain ⟨tracked, was, phase, expired, rfl⟩ := taken
    exact ordered.moved was rfl rfl (by rw [phase]; rfl) (by simp) id
      (Tracked.holds_moved (by simp [CommandPhase.reply])) fun _ => expired
  | leave index =>
    obtain ⟨tracked, was, phase, closed, rfl⟩ := taken
    exact ordered.moved was rfl rfl (by rw [phase]; rfl) (by simp) id
      (Tracked.holds_moved (by simp [CommandPhase.reply])) (by simp [CommandPhase.reply])
  | forget index =>
    obtain ⟨tracked, reply, was, phase, rfl⟩ := taken
    have same : (CommandPhase.forgotten reply).reply = tracked.phase.reply := by rw [phase]; rfl
    exact (ordered.aside _ state.registering state.sent).moved was rfl rfl (by rw [phase]; rfl)
      (by simp) id (Tracked.holds_moved fun _ held => same.symm.trans held)
      fun timeout => (ordered.rows index tracked was).timedOut (same.symm.trans timeout)
  | send index =>
    obtain ⟨tracked, reply, was, phase, rfl⟩ := taken
    have same : (CommandPhase.answered reply).reply = tracked.phase.reply := by rw [phase]; rfl
    exact (ordered.aside state.pendingACKs state.registering _).moved was rfl rfl
      (by rw [phase]; rfl) (by simp) id (Tracked.holds_moved fun _ held => same.symm.trans held)
      fun timeout => (ordered.rows index tracked was).timedOut (same.symm.trans timeout)
  | cancel =>
    obtain rfl := taken
    exact ordered.routed (List.Sublist.refl _) ordered.handed
      (fun index tracked arrival was held => ((ordered.rows index tracked was).held arrival held).2.2.1)
      (fun index tracked arrival was => (ordered.rows index tracked was).handed arrival) false state.alive

end SendSession

end SystemScale.Cloud

import Mathlib.Data.List.Perm.Basic
import SystemScale.Lib.Frames
import SystemScale.Lib.Runs

set_option autoImplicit false

/-!
# A queue that is written to one connection after another

Senders put items into a bounded queue. While there is a connection, one loop takes them out and
writes their frames; when the connection ends, the loop is dropped with the item that it writes.
-/

namespace Handover

open Frames (frame frames)

variable {A : Type}

/-- What has been written to a connection. `bytes` is what the stream took. -/
structure Link (A : Type) where
  sent : List A
  bytes : List UInt8
  -- The item of the frame that is being written, and the bytes still to be taken.
  writing : Option (A × List UInt8)

structure State (A : Type) where
  -- Senders that wait for room.
  waiting : List A
  queue : List A
  -- What has come into the queue, in order.
  entered : List A
  ended : List (Link A)
  current : Option (Link A)

inductive Action (A : Type) where
  | offer (item : A)
  | enter (index : Nat)
  -- A sender that does not wait, and finds room.
  | put (item : A)
  | connect
  | take
  -- The stream takes some bytes of the frame.
  | write (count : Nat)
  | disconnect

def Link.open : Link A := ⟨[], [], none⟩

/-- Everything that was taken out of the queue for the connection. -/
def Link.taken (link : Link A) : List A := link.sent ++ (link.writing.map Prod.fst).toList

section Writing

variable (payload : A → List UInt8)

/-- The loop is at the next item, if it is through with the one before. -/
def Link.begin (link : Link A) (item : A) : Option (Link A) :=
  match link.writing with
  | none => some { link with writing := some (item, frame (payload item)) }
  | some _ => none

/-- The stream takes the next `count` bytes of the frame. -/
def Link.write (link : Link A) (count : Nat) : Option (Link A) :=
  match link.writing with
  | none => none
  | some (item, rest) =>
    if 0 < count ∧ count < rest.length then
      some { link with
        bytes := link.bytes ++ rest.take count, writing := some (item, rest.drop count) }
    else if count = rest.length then
      some { sent := link.sent ++ [item], bytes := link.bytes ++ rest, writing := none }
    else none

end Writing

namespace State

def start : State A := ⟨[], [], [], [], none⟩

def accept (state : State A) (item : A) : State A :=
  { state with queue := state.queue ++ [item], entered := state.entered ++ [item] }

section Steps

variable (payload : A → List UInt8) (capacity : Nat)

def step (state : State A) : Action A → Option (State A)
  | .offer item => some { state with waiting := state.waiting ++ [item] }
  | .enter index =>
    if state.queue.length < capacity then
      state.waiting[index]?.map fun item =>
        { state.accept item with waiting := state.waiting.eraseIdx index }
    else none
  | .put item => if state.queue.length < capacity then some (state.accept item) else none
  | .connect => if state.current.isNone then some { state with current := some .open } else none
  | .take =>
    match state.current, state.queue with
    | some link, item :: rest =>
      (link.begin payload item).map fun link => { state with queue := rest, current := some link }
    | _, _ => none
  | .write count =>
    (state.current.bind fun link => link.write count).map fun link =>
      { state with current := some link }
  | .disconnect =>
    state.current.map fun link => { state with ended := state.ended ++ [link], current := none }

end Steps

end State

/-- What comes in by an action. -/
def Action.items : Action A → List A
  | .offer item | .put item => [item]
  | _ => []

/-! ## What is kept -/

section Invariants

variable (payload : A → List UInt8) (capacity : Nat)

/-- The stream took the frames of what was sent, and a part of the one that is being written. -/
def Link.Wrote (link : Link A) : Prop :=
  match link.writing with
  | none => link.bytes = frames (link.sent.map payload)
  | some (item, rest) => rest ≠ [] ∧ ∃ part,
      frame (payload item) = part ++ rest ∧ link.bytes = frames (link.sent.map payload) ++ part

structure Kept (state : State A) : Prop where
  room : state.queue.length ≤ capacity
  inOrder : state.entered =
    state.ended.flatMap Link.taken ++ ((state.current.map Link.taken).getD [] ++ state.queue)
  ended : ∀ link ∈ state.ended, link.Wrote payload
  current : ∀ link, state.current = some link → link.Wrote payload

end Invariants

section Links

variable {payload : A → List UInt8} {link next : Link A} {item : A} {count : Nat}

theorem Link.Wrote.open : (Link.open : Link A).Wrote payload := rfl

theorem Link.begin_some (begun : link.begin payload item = some next) :
    link.writing = none ∧ next = { link with writing := some (item, frame (payload item)) } := by
  rw [Link.begin] at begun
  split at begun
  · next idle => exact ⟨idle, (Option.some.inj begun).symm⟩
  · cases begun

theorem Link.write_some (written : link.write count = some next) :
    ∃ item rest, link.writing = some (item, rest) ∧
      ((0 < count ∧ count < rest.length ∧ next = { link with
          bytes := link.bytes ++ rest.take count, writing := some (item, rest.drop count) }) ∨
        (count = rest.length ∧
          next = ⟨link.sent ++ [item], link.bytes ++ rest, none⟩)) := by
  rw [Link.write] at written
  split at written
  · cases written
  · next item rest writing =>
    split_ifs at written with inside whole
    · exact ⟨item, rest, writing, .inl ⟨inside.1, inside.2, (Option.some.inj written).symm⟩⟩
    · exact ⟨item, rest, writing, .inr ⟨whole, (Option.some.inj written).symm⟩⟩

theorem Link.taken_begin (begun : link.begin payload item = some next) :
    next.taken = link.taken ++ [item] := by
  obtain ⟨idle, rfl⟩ := Link.begin_some begun
  simp [Link.taken, idle]

theorem Link.taken_write (written : link.write count = some next) : next.taken = link.taken := by
  obtain ⟨item, rest, writing, ⟨-, -, rfl⟩ | ⟨-, rfl⟩⟩ := Link.write_some written
  · simp [Link.taken, writing]
  · simp [Link.taken, writing]

theorem Link.Wrote.begin (wrote : link.Wrote payload)
    (begun : link.begin payload item = some next) : next.Wrote payload := by
  obtain ⟨idle, rfl⟩ := Link.begin_some begun
  rw [Link.Wrote, idle] at wrote
  refine ⟨List.ne_nil_of_length_pos (by rw [Frames.length_frame]; omega), [], rfl, ?_⟩
  rw [List.append_nil]
  exact wrote

theorem Link.Wrote.write (wrote : link.Wrote payload) (written : link.write count = some next) :
    next.Wrote payload := by
  obtain ⟨item, rest, writing, taken⟩ := Link.write_some written
  rw [Link.Wrote, writing] at wrote
  obtain ⟨-, part, whole_frame, wrote⟩ := wrote
  rcases taken with ⟨-, inside, rfl⟩ | ⟨-, rfl⟩
  · refine ⟨fun empty => ?_, part ++ rest.take count, ?_, ?_⟩
    · have := congrArg List.length empty
      rw [List.length_drop, List.length_nil] at this
      omega
    · rw [List.append_assoc, List.take_append_drop, whole_frame]
    · rw [← List.append_assoc, ← wrote]
  · rw [Link.Wrote]
    simp only [wrote, whole_frame, List.map_append, List.map_cons, List.map_nil,
      Frames.frames_append, Frames.frames_cons, Frames.frames_nil, List.append_nil,
      List.append_assoc]

end Links

section Rules

variable {payload : A → List UInt8} {capacity : Nat} {state next : State A}

theorem Kept.start : Kept payload capacity (.start : State A) :=
  ⟨Nat.zero_le _, rfl, nofun, nofun⟩

theorem Kept.accept (kept : Kept payload capacity state) (room : state.queue.length < capacity)
    (item : A) : Kept payload capacity (state.accept item) where
  room := by
    rw [State.accept, List.length_append]
    exact room
  inOrder := by simp only [State.accept, kept.inOrder, List.append_assoc]
  ended := kept.ended
  current := kept.current

theorem Kept.step (kept : Kept payload capacity state) {action : Action A}
    (taken : state.step payload capacity action = some next) : Kept payload capacity next := by
  cases action with
  | offer item =>
    obtain rfl := Option.some.inj taken
    exact ⟨kept.room, kept.inOrder, kept.ended, kept.current⟩
  | enter index =>
    simp only [State.step] at taken
    split_ifs at taken with room
    obtain ⟨item, _, rfl⟩ := Option.map_eq_some_iff.mp taken
    obtain ⟨room, inOrder, ended, current⟩ := kept.accept room item
    exact ⟨room, inOrder, ended, current⟩
  | put item =>
    simp only [State.step] at taken
    split_ifs at taken with room
    obtain rfl := Option.some.inj taken
    exact kept.accept room item
  | connect =>
    simp only [State.step] at taken
    split_ifs at taken with none
    obtain rfl := Option.some.inj taken
    have inOrder := kept.inOrder
    rw [Option.isNone_iff_eq_none.mp none] at inOrder
    refine ⟨kept.room, inOrder, kept.ended, ?_⟩
    rintro link same
    obtain rfl := Option.some.inj same
    exact Link.Wrote.open
  | take =>
    simp only [State.step] at taken
    split at taken
    · next link item rest linked queued =>
      obtain ⟨begun, begins, rfl⟩ := Option.map_eq_some_iff.mp taken
      have room := kept.room
      have inOrder := kept.inOrder
      rw [queued, List.length_cons] at room
      refine ⟨Nat.le_of_succ_le room, ?_, kept.ended, ?_⟩
      · simpa [linked, queued, Link.taken_begin begins] using inOrder
      · rintro other same
        obtain rfl := Option.some.inj same
        exact (kept.current _ linked).begin begins
    · cases taken
  | write count =>
    obtain ⟨written, writes, rfl⟩ := Option.map_eq_some_iff.mp taken
    obtain ⟨link, linked, writes⟩ := Option.bind_eq_some_iff.mp writes
    have inOrder := kept.inOrder
    refine ⟨kept.room, ?_, kept.ended, ?_⟩
    · simpa [linked, Link.taken_write writes] using inOrder
    · rintro other same
      obtain rfl := Option.some.inj same
      exact (kept.current _ linked).write writes
  | disconnect =>
    obtain ⟨link, linked, rfl⟩ := Option.map_eq_some_iff.mp taken
    have inOrder := kept.inOrder
    rw [linked] at inOrder
    refine ⟨kept.room, ?_, ?_, nofun⟩
    · simpa using inOrder
    · intro other member
      rcases List.mem_append.mp member with old | new
      · exact kept.ended other old
      · exact List.mem_singleton.mp new ▸ kept.current link linked

-- What comes in waits or has entered; nothing else does.
theorem step_offered {action : Action A} (taken : state.step payload capacity action = some next) :
    (next.waiting ++ next.entered).Perm (state.waiting ++ state.entered ++ action.items) := by
  cases action with
  | offer item =>
    obtain rfl := Option.some.inj taken
    rw [Action.items, List.append_assoc, List.append_assoc]
    exact List.perm_append_comm.append_left _
  | enter index =>
    simp only [State.step] at taken
    split_ifs at taken
    obtain ⟨item, found, rfl⟩ := Option.map_eq_some_iff.mp taken
    obtain ⟨inside, rfl⟩ := List.getElem?_eq_some_iff.mp found
    have moved := List.getElem_cons_eraseIdx_perm inside
    simp only [Action.items, List.append_nil]
    refine List.Perm.trans ?_ (moved.append_right state.entered)
    simp only [State.accept, ← List.append_assoc]
    exact List.perm_append_singleton _ _
  | put item =>
    simp only [State.step] at taken
    split_ifs at taken
    obtain rfl := Option.some.inj taken
    simp only [State.accept, Action.items, List.append_assoc, List.Perm.refl]
  | connect =>
    simp only [State.step] at taken
    split_ifs at taken
    obtain rfl := Option.some.inj taken
    simp only [Action.items, List.append_nil, List.Perm.refl]
  | take =>
    simp only [State.step] at taken
    split at taken
    · obtain ⟨begun, -, rfl⟩ := Option.map_eq_some_iff.mp taken
      simp only [Action.items, List.append_nil, List.Perm.refl]
    · cases taken
  | write count =>
    obtain ⟨written, -, rfl⟩ := Option.map_eq_some_iff.mp taken
    simp only [Action.items, List.append_nil, List.Perm.refl]
  | disconnect =>
    obtain ⟨link, -, rfl⟩ := Option.map_eq_some_iff.mp taken
    simp only [Action.items, List.append_nil, List.Perm.refl]

/-- In whole runs. -/
theorem Kept.run {actions : List (Action A)}
    (ran : Runs.exec (State.step payload capacity) .start actions = some state) :
    Kept payload capacity state :=
  Runs.exec_invariant (fun _ _ _ kept taken => kept.step taken) Kept.start ran

end Rules

/-! ## What arrives -/

section Arrival

variable {payload : A → List UInt8} {link : Link A}

-- What the stream took are the frames of what was taken out, up to some byte.
theorem Link.Wrote.bytes_eq (wrote : link.Wrote payload) :
    link.bytes = (frames (link.taken.map payload)).take link.bytes.length := by
  obtain ⟨sent, bytes, writing⟩ := link
  cases writing with
  | none =>
    have wrote : bytes = frames (sent.map payload) := wrote
    simp [Link.taken, ← wrote]
  | some writing =>
    obtain ⟨item, rest⟩ := writing
    obtain ⟨-, part, whole_frame, wrote⟩ := wrote
    simp only at wrote
    have whole : frames ((Link.taken ⟨sent, bytes, some (item, rest)⟩).map payload) =
        bytes ++ rest := by
      simp [Link.taken, Frames.frames_append, whole_frame, wrote]
    rw [whole]
    exact (List.take_left).symm

theorem Link.Wrote.complete_sent (wrote : link.Wrote payload) {cut : Nat}
    (few : cut ≤ link.bytes.length) :
    Frames.complete cut (link.taken.map payload) <+: link.sent.map payload ∧
      (cut = link.bytes.length →
        Frames.complete cut (link.taken.map payload) = link.sent.map payload) := by
  obtain ⟨sent, bytes, writing⟩ := link
  cases writing with
  | none =>
    have wrote : bytes = frames (sent.map payload) := wrote
    subst wrote
    simp only [Link.taken, Option.map_none, Option.toList_none, List.append_nil]
    exact ⟨Frames.complete_prefix _ _, fun same => Frames.complete_whole same.ge⟩
  | some writing =>
    obtain ⟨item, rest⟩ := writing
    obtain ⟨some_rest, part, whole_frame, wrote⟩ := wrote
    simp only at wrote
    subst wrote
    have short : part.length < 4 + (payload item).length := by
      have lengths := congrArg List.length whole_frame
      rw [Frames.length_frame, List.length_append] at lengths
      have := List.length_pos_of_ne_nil some_rest
      omega
    simp only [List.length_append] at few ⊢
    simp only [Link.taken, Option.map_some, Option.toList_some, List.map_append, List.map_cons,
      List.map_nil, Frames.complete_append]
    split_ifs with whole
    · have none_more : Frames.complete (cut - (frames (sent.map payload)).length) [payload item] =
          [] := by
        rw [Frames.complete, if_neg (by omega)]
      rw [none_more, List.append_nil]
      exact ⟨List.prefix_refl _, fun _ => rfl⟩
    · exact ⟨Frames.complete_prefix _ _, fun same => absurd same (by omega)⟩

/-- A reader at the other end handles what was sent, in order, as far as the bytes come. -/
theorem Link.Wrote.relayed {D : Type} {reader : Frames.Reader D} (wrote : link.Wrote payload)
    (narrow : reader.limit < 2 ^ 32) (accepts : ∀ bytes, reader.accepts bytes = true)
    (small : ∀ item ∈ link.taken, (payload item).length ≤ reader.limit) {cut : Nat}
    {chunks : List (List UInt8)} (arrived : chunks.flatten = link.bytes.take cut) :
    ∃ session, reader.run chunks = some session ∧
      session.payloads <+: link.sent.map payload ∧
      (link.bytes.length ≤ cut → session.payloads = link.sent.map payload) := by
  have stream : chunks.flatten =
      (frames (link.taken.map payload)).take (min cut link.bytes.length) := by
    rw [arrived, wrote.bytes_eq, List.take_take, ← wrote.bytes_eq]
  have within : ∀ bytes ∈ link.taken.map payload, bytes.length ≤ reader.limit := by
    intro bytes member
    obtain ⟨item, inside, rfl⟩ := List.mem_map.mp member
    exact small item inside
  obtain ⟨session, ran, is⟩ := (reader.delivers_iff narrow within stream).mpr fun bytes _ =>
    accepts bytes
  obtain ⟨part, whole⟩ := wrote.complete_sent (Nat.min_le_right cut link.bytes.length)
  refine ⟨session, ran, is ▸ part, fun all => ?_⟩
  rw [is, whole (Nat.min_eq_right all)]

end Arrival

end Handover

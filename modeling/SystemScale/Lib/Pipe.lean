import SystemScale.Lib.Handover

set_option autoImplicit false

/-!
# Both ends of a stream of frames

One end writes the frames of its items. The other reads what has arrived of them, chunk by chunk,
and hands each payload on. Either end may leave at any byte.
-/

open Frames (Reader frame frames)
open Handover (Link)

/-- `arrived` bytes have come to the other end, which has handled some of the frames in them. -/
structure Pipe (A D : Type) where
  link : Link A
  arrived : Nat
  unread : List (List UInt8)
  handled : List (List UInt8 × D)
  reading : Bool

inductive Pipe.Action where
  | arrive (count : Nat)
  | read
  | leave

namespace Pipe

variable {A D : Type}

def fresh : Pipe A D := ⟨.open, 0, [], [], true⟩

def step (reader : Reader D) (pipe : Pipe A D) : Action → Option (Pipe A D)
  | .arrive count =>
    if pipe.arrived + count ≤ pipe.link.bytes.length then
      some { pipe with
        arrived := pipe.arrived + count
        unread := pipe.unread ++ [(pipe.link.bytes.drop pipe.arrived).take count] }
    else none
  | .read =>
    if pipe.reading then
      match reader.step (pipe.unread, pipe.handled) with
      | .next (unread, handled) => some { pipe with unread, handled }
      | .done ⟨_, .failed _⟩ | .done ⟨_, .panicked⟩ => some { pipe with reading := false }
      -- There are not enough bytes yet, or the handler never returns.
      | .done _ => none
    else none
  | .leave => some { pipe with reading := false }

/-- The reader has taken frames off the front of what arrived. -/
structure Good (payload : A → List UInt8) (reader : Reader D) (pipe : Pipe A D) : Prop where
  wrote : pipe.link.Wrote payload
  inside : pipe.arrived ≤ pipe.link.bytes.length
  read : pipe.link.bytes.take pipe.arrived =
    frames (pipe.handled.map Prod.fst) ++ pipe.unread.flatten
  handles : ∀ entry ∈ pipe.handled, reader.Handled entry

section Rules

variable {payload : A → List UInt8} {reader : Reader D} {pipe next : Pipe A D}

theorem Good.fresh : (fresh : Pipe A D).Good payload reader :=
  ⟨Link.Wrote.open, Nat.zero_le _, rfl, nofun⟩

-- The writing end goes on behind what has arrived.
theorem Good.relink (good : pipe.Good payload reader) {link : Link A} {more : List UInt8}
    (wrote : link.Wrote payload) (bytes : link.bytes = pipe.link.bytes ++ more) :
    Good payload reader { pipe with link } where
  wrote := wrote
  inside := by
    rw [bytes, List.length_append]
    exact Nat.le_add_right_of_le good.inside
  read := by
    rw [bytes, List.take_append_of_le_length good.inside]
    exact good.read
  handles := good.handles

theorem Good.begin (good : pipe.Good payload reader) {item : A} {link : Link A}
    (begun : pipe.link.begin payload item = some link) :
    Good payload reader { pipe with link } := by
  have wrote := good.wrote.begin begun
  obtain ⟨-, rfl⟩ := Link.begin_some begun
  exact good.relink wrote (List.append_nil _).symm

theorem Good.write (good : pipe.Good payload reader) {count : Nat} {link : Link A}
    (written : pipe.link.write count = some link) : Good payload reader { pipe with link } := by
  have wrote := good.wrote.write written
  obtain ⟨item, rest, -, ⟨-, -, rfl⟩ | ⟨-, rfl⟩⟩ := Link.write_some written
  · exact good.relink wrote rfl
  · exact good.relink wrote rfl

theorem step_link {action : Action} (taken : pipe.step reader action = some next) :
    next.link = pipe.link := by
  cases action with
  | arrive count =>
    simp only [step] at taken
    split_ifs at taken
    rw [← Option.some.inj taken]
  | read =>
    simp only [step] at taken
    split_ifs at taken
    split at taken <;> try cases taken
    · rfl
    · rfl
    · rfl
  | leave => rw [← Option.some.inj taken]

-- What was handled stays so.
theorem step_handled {action : Action} (taken : pipe.step reader action = some next) :
    pipe.handled <+: next.handled := by
  cases action with
  | arrive count =>
    simp only [step] at taken
    split_ifs at taken
    exact Option.some.inj taken ▸ List.prefix_refl _
  | read =>
    simp only [step] at taken
    split_ifs at taken
    split at taken
    · next unread handled reads =>
      obtain ⟨bytes, value, rfl, -⟩ := Reader.step_next reads
      exact Option.some.inj taken ▸ List.prefix_append _ _
    · exact Option.some.inj taken ▸ List.prefix_refl _
    · exact Option.some.inj taken ▸ List.prefix_refl _
    · cases taken
  | leave => exact Option.some.inj taken ▸ List.prefix_refl _

theorem Good.step (good : pipe.Good payload reader) {action : Action}
    (taken : pipe.step reader action = some next) : next.Good payload reader := by
  cases action with
  | arrive count =>
    simp only [Pipe.step] at taken
    split_ifs at taken with inside
    obtain rfl := Option.some.inj taken
    refine ⟨good.wrote, inside, ?_, good.handles⟩
    rw [List.take_add, good.read, List.flatten_append, List.flatten_singleton, List.append_assoc]
  | read =>
    simp only [Pipe.step] at taken
    split_ifs at taken
    split at taken
    · next unread handled reads =>
      obtain rfl := Option.some.inj taken
      obtain ⟨bytes, value, rfl, small, handles, stream⟩ := Reader.step_next reads
      refine ⟨good.wrote, good.inside, ?_, ?_⟩
      · rw [good.read, stream, List.map_append, Frames.frames_append, List.map_singleton,
          Frames.frames_cons, Frames.frames_nil, List.append_nil, List.append_assoc]
      · intro entry member
        rcases List.mem_append.mp member with earlier | last
        · exact good.handles entry earlier
        · obtain rfl := List.mem_singleton.mp last
          exact ⟨small, handles⟩
    · obtain rfl := Option.some.inj taken
      exact ⟨good.wrote, good.inside, good.read, good.handles⟩
    · obtain rfl := Option.some.inj taken
      exact ⟨good.wrote, good.inside, good.read, good.handles⟩
    · cases taken
  | leave =>
    obtain rfl := Option.some.inj taken
    exact ⟨good.wrote, good.inside, good.read, good.handles⟩

/-- What was handled is the front of what was sent: no payload twice, none out of turn, and none of
which the frame was not written whole. -/
theorem Good.handled_front (good : pipe.Good payload reader) (narrow : reader.limit < 2 ^ 32)
    (small : ∀ item ∈ pipe.link.taken, (payload item).length < 2 ^ 32) :
    pipe.handled.map Prod.fst <+: pipe.link.sent.map payload := by
  have taken_narrow : ∀ bytes ∈ pipe.link.taken.map payload, bytes.length < 2 ^ 32 := by
    intro bytes member
    obtain ⟨item, inside, rfl⟩ := List.mem_map.mp member
    exact small item inside
  have handled_narrow : ∀ bytes ∈ pipe.handled.map Prod.fst, bytes.length < 2 ^ 32 := by
    intro bytes member
    obtain ⟨entry, inside, rfl⟩ := List.mem_map.mp member
    exact lt_of_le_of_lt (good.handles entry inside).1 narrow
  have stream : frames (pipe.link.taken.map payload) = frames (pipe.handled.map Prod.fst) ++
      (pipe.unread.flatten ++ (pipe.link.bytes.drop pipe.arrived ++
        (frames (pipe.link.taken.map payload)).drop pipe.link.bytes.length)) := by
    have bytes := good.wrote.bytes_eq
    rw [← List.append_assoc, ← good.read, ← List.append_assoc, List.take_append_drop]
    conv_rhs => lhs; rw [bytes]
    exact (List.take_append_drop _ _).symm
  obtain ⟨more, split, -⟩ := Frames.frames_prefix taken_narrow handled_narrow stream
  have front : pipe.handled.map Prod.fst <+: pipe.link.taken.map payload := ⟨more, split.symm⟩
  have sent : pipe.link.sent.map payload <+: pipe.link.taken.map payload := by
    rw [Link.taken, List.map_append]
    exact List.prefix_append _ _
  refine List.prefix_of_prefix_length_le front sent (Nat.le_of_not_lt fun longer => ?_)
  -- Else the frame that is being written would have been handled.
  have bounded := good.inside
  have consumed := congrArg List.length good.read
  rw [List.length_take, Nat.min_eq_left bounded, List.length_append] at consumed
  have wrote := good.wrote
  rw [Link.Wrote] at wrote
  split at wrote
  · next idle =>
    have lengths := front.length_le
    simp only [Link.taken, idle, Option.map_none, Option.toList_none, List.append_nil] at lengths
    exact absurd lengths (Nat.not_le_of_lt longer)
  · next item rest writing =>
    obtain ⟨remains, part, whole, written⟩ := wrote
    have all : pipe.handled.map Prod.fst = pipe.link.taken.map payload := by
      refine front.eq_of_length (Nat.le_antisymm front.length_le ?_)
      simpa [Link.taken, writing, Nat.succ_le_iff] using longer
    have parts := congrArg List.length whole
    have taken := congrArg List.length written
    have := List.length_pos_of_ne_nil remains
    rw [all] at consumed
    simp only [Link.taken, writing, Option.map_some, Option.toList_some, List.map_append,
      List.map_cons, List.map_nil, Frames.frames_append, Frames.frames_cons, Frames.frames_nil,
      List.append_nil, List.length_append] at consumed parts taken
    omega

end Rules

end Pipe

import Mathlib.Order.MinMax

set_option autoImplicit false

/-!
# Bidirectional streams of a connection

One end opens streams in order. The other end learns of a stream when it, or one opened later, is
first written to, and accepts the streams it knows of in order.
-/

namespace Quic

structure Streams where
  opened : Nat
  announced : Nat
  accepted : Nat
  known : accepted ≤ announced
  real : announced ≤ opened

namespace Streams

def fresh : Streams := ⟨0, 0, 0, le_rfl, le_rfl⟩

def openBi (streams : Streams) : Streams :=
  ⟨streams.opened + 1, streams.announced, streams.accepted, streams.known,
    Nat.le_succ_of_le streams.real⟩

/-- A write to the stream with this number, counted from 0. -/
def write (streams : Streams) (stream : Nat) : Option Streams :=
  if inside : stream < streams.opened then
    some ⟨streams.opened, max streams.announced (stream + 1), streams.accepted,
      le_max_of_le_left streams.known, max_le streams.real inside⟩
  else none

def acceptBi (streams : Streams) : Option Streams :=
  if waiting : streams.accepted < streams.announced then
    some ⟨streams.opened, streams.announced, streams.accepted + 1, waiting, streams.real⟩
  else none

variable {streams next : Streams}

theorem accepted_le_opened (streams : Streams) : streams.accepted ≤ streams.opened :=
  streams.known.trans streams.real

theorem write_spec {stream : Nat} (taken : streams.write stream = some next) :
    next.opened = streams.opened ∧ next.accepted = streams.accepted ∧
      next.announced = max streams.announced (stream + 1) := by
  unfold write at taken
  split_ifs at taken
  obtain rfl := Option.some.inj taken
  exact ⟨rfl, rfl, rfl⟩

theorem write_opened {stream : Nat} (inside : stream < streams.opened) :
    ∃ next, streams.write stream = some next := by
  simp [write, inside]

theorem acceptBi_spec (taken : streams.acceptBi = some next) :
    next.opened = streams.opened ∧ next.announced = streams.announced ∧
      next.accepted = streams.accepted + 1 := by
  unfold acceptBi at taken
  split_ifs at taken
  obtain rfl := Option.some.inj taken
  exact ⟨rfl, rfl, rfl⟩

theorem acceptBi_waiting (waiting : streams.accepted < streams.announced) :
    ∃ next, streams.acceptBi = some next := by
  simp [acceptBi, waiting]

end Streams

end Quic

import SystemScale.Agent.CommandCodec
import SystemScale.Agent.Encode
import SystemScale.Agent.Mavlink
import SystemScale.Agent.MavlinkPayloads
import SystemScale.Agent.UnixReading
import SystemScale.Cloud.Commands
import SystemScale.Lib.VarintLoops
import SystemScale.Relay.GatewayCodec
import SystemScale.Relay.Telemetry
import SystemScale.Sdk.Proto

set_option autoImplicit false

/-!
# The varint loops of every component

Each component has its own copy of the loops. Here each is written as it stands in its source, and
shown to be the function that the component's other models use.
-/

namespace SystemScale.Contract.Varints

open Varint Wire

/-! ## Writers -/

def RingBuffer.encodeVarint (buf : List UInt8) (v : UInt64) : List UInt8 := pushLoop buf v

def QuicTransport.appendVarint (buf : List UInt8) (v : UInt64) : List UInt8 := putLoop buf v

def Commands.appendVarint (out : List UInt8) (v : UInt64) : List UInt8 :=
  if 0x80 ≤ v then appendVarint (out ++ [v.toUInt8 ||| 0x80]) (v >>> 7) else out ++ [v.toUInt8]
termination_by v.toNat
decreasing_by
  rename_i large
  have : 128 ≤ v.toNat := large
  rw [shifted]
  omega

def Python.encodeVarint (out : List UInt8) (value : Nat) : List UInt8 :=
  if value > 0x7F then
    encodeVarint (out ++ [UInt8.ofNat ((value &&& 0x7F) ||| 0x80)]) (value >>> 7)
  else out ++ [UInt8.ofNat (value &&& 0x7F)]
termination_by value
decreasing_by
  rw [Nat.shiftRight_eq_div_pow]
  omega

theorem RingBuffer.encodeVarint_eq (buf : List UInt8) (v : UInt64) :
    encodeVarint buf v = buf ++ Agent.encodeVarint v := by
  rw [encodeVarint, pushLoop_eq, Agent.encodeVarint_eq]

theorem QuicTransport.appendVarint_eq (buf : List UInt8) (v : UInt64) :
    appendVarint buf v = buf ++ Agent.appendVarint v := by
  rw [appendVarint, putLoop_push, pushLoop_eq, Agent.appendVarint_eq]

theorem Commands.appendVarint_eq (out : List UInt8) (v : UInt64) :
    appendVarint out v = out ++ Cloud.appendVarint v := by
  induction out, v using appendVarint.induct with
  | case1 out v large ih =>
    rw [appendVarint, if_pos large, ih, List.append_assoc, List.singleton_append]
    conv_rhs => rw [Cloud.appendVarint, if_pos large]
  | case2 out v small => rw [appendVarint, if_neg small, Cloud.appendVarint, if_neg small]

theorem Python.encodeVarint_eq (out : List UInt8) (value : Nat) :
    encodeVarint out value = out ++ Sdk.encodeVarint value := by
  induction out, value using encodeVarint.induct with
  | case1 out value large ih =>
    rw [encodeVarint, if_pos large, ih, List.append_assoc, List.singleton_append]
    conv_rhs => rw [Sdk.encodeVarint, if_pos large]
  | case2 out value small => rw [encodeVarint, if_neg small, Sdk.encodeVarint, if_neg small]

/-- A buffer and a word to what the buffer holds after it. -/
def writers : List (List UInt8 → UInt64 → List UInt8) :=
  [RingBuffer.encodeVarint, QuicTransport.appendVarint, Agent.Mavlink.encodeVarint,
    Commands.appendVarint, fun out v => Python.encodeVarint out v.toNat]

theorem writers_eq : ∀ write ∈ writers, ∀ (buf : List UInt8) (word : UInt64),
    write buf word = buf ++ varint word.toNat := by
  intro write member buf word
  simp only [writers, List.mem_cons, List.not_mem_nil, or_false] at member
  rcases member with rfl | rfl | rfl | rfl | rfl
  · rw [RingBuffer.encodeVarint_eq, Agent.encodeVarint_eq]
  · rw [QuicTransport.appendVarint_eq, Agent.appendVarint_eq]
  · exact pushLoop_eq buf word
  · rw [Commands.appendVarint_eq, Cloud.appendVarint_eq]
  · exact (Python.encodeVarint_eq buf word.toNat).trans (by rw [Sdk.encodeVarint_eq])

/-! ## Readers of a slice -/

def Ingest.consumeVarint (data : List UInt8) : UInt64 × Nat := sliceLoop data 0 0

def Commands.consumeVarint (data : List UInt8) : UInt64 × Nat := sliceLoop data 0 0

def WsGateway.readVarint (data : List UInt8) : UInt64 × Nat := sliceLoop data 0 0

def CustomUnix.readVarint (data : List UInt8) : UInt64 × Nat := sliceLoop data 0 0

theorem Ingest.consumeVarint_eq (data : List UInt8) :
    consumeVarint data = Cloud.consumeVarint data := by
  rw [consumeVarint, sliceLoop_read, Cloud.consumeVarint]
  cases read data <;> rfl

theorem Commands.consumeVarint_eq (data : List UInt8) :
    consumeVarint data = Cloud.consumeVarint data := Ingest.consumeVarint_eq data

theorem WsGateway.readVarint_eq (data : List UInt8) : readVarint data = Relay.readVarint data := by
  rw [readVarint, sliceLoop_read, Relay.readVarint]
  cases read data <;> rfl

theorem CustomUnix.readVarint_eq (data : List UInt8) :
    readVarint data = Agent.readVarint data := by
  rw [readVarint, sliceLoop_read, Agent.readVarint_eq]

/-! ## Readers with a position -/

def RelayCore.protoReadVarintFast (buf : List UInt8) (pos : Nat) : Option UInt64 × Nat :=
  match positionLoop buf pos 0 0 with
  | (.ok word, pos) => (some word, pos)
  | (.error _, pos) => (none, pos)

def QuicTransport.protoReadVarint (buf : List UInt8) (pos : Nat) : Except String UInt64 × Nat :=
  match positionLoop buf pos 0 0 with
  | (.ok word, pos) => (.ok word, pos)
  | (.error .truncated, pos) => (.error s!"varint truncated at pos {pos}", pos)
  | (.error .overflow, pos) => (.error "varint overflow", pos)

def Mavlink.readVarint (buf : List UInt8) (pos : Nat) : Except String UInt64 × Nat :=
  match positionLoop buf pos 0 0 with
  | (.ok word, pos) => (.ok word, pos)
  | (.error .truncated, pos) => (.error "varint truncated", pos)
  | (.error .overflow, pos) => (.error "varint overflow", pos)

theorem RelayCore.protoReadVarintFast_eq (buf : List UInt8) (pos : Nat) :
    protoReadVarintFast buf pos = Relay.protoReadVarintFast buf pos := by
  rw [protoReadVarintFast, positionLoop_read, Relay.protoReadVarintFast]
  cases read (buf.drop pos) <;> rfl

-- The text of the error names the end of the buffer where the loop began inside it.
theorem QuicTransport.protoReadVarint_eq {buf : List UInt8} {pos : Nat}
    (inside : pos ≤ buf.length) :
    Agent.protoReadVarint buf pos =
      match protoReadVarint buf pos with
      | (.ok word, stop) => .ok (word, stop)
      | (.error message, _) => .err message := by
  rw [protoReadVarint, positionLoop_read, Agent.protoReadVarint]
  cases read (buf.drop pos) with
  | value word length => rfl
  | truncated => simp only [Read.place, max_eq_right inside]
  | overflow => rfl

theorem Mavlink.readVarint_eq (buf : List UInt8) (pos : Nat) :
    Agent.Mavlink.readVarint buf pos =
      match readVarint buf pos with
      | (.ok word, stop) => .ok (word, stop)
      | (.error message, _) => .error message := by
  rw [readVarint, positionLoop_read, Agent.Mavlink.readVarint]
  cases read (buf.drop pos) <;> rfl

/-! ## All of them -/

/-- A reader of a slice, called at a position; it rejects by a length of zero. -/
def sliced (reader : List UInt8 → UInt64 × Nat) (data : List UInt8) (pos : Nat) :
    Option (UInt64 × Nat) :=
  let found := reader (data.drop pos)
  if found.2 = 0 then none else some (found.1, pos + found.2)

/-- A reader that moves the position; it rejects by an error. -/
def moved {E : Type} (reader : List UInt8 → Nat → Except E UInt64 × Nat) (buf : List UInt8)
    (pos : Nat) : Option (UInt64 × Nat) :=
  match reader buf pos with
  | (.ok word, stop) => some (word, stop)
  | (.error _, _) => none

-- The same for a reader that returns an `Option`.
def movedOption (reader : List UInt8 → Nat → Option UInt64 × Nat) (buf : List UInt8) (pos : Nat) :
    Option (UInt64 × Nat) :=
  match reader buf pos with
  | (some word, stop) => some (word, stop)
  | (none, _) => none

def readers : List (List UInt8 → Nat → Option (UInt64 × Nat)) :=
  [sliced Ingest.consumeVarint, sliced Commands.consumeVarint, sliced WsGateway.readVarint,
    sliced CustomUnix.readVarint, movedOption RelayCore.protoReadVarintFast,
    moved QuicTransport.protoReadVarint, moved Mavlink.readVarint]

theorem sliced_eq (data : List UInt8) (pos : Nat) :
    sliced (fun data => sliceLoop data 0 0) data pos = readAt data pos := by
  simp only [sliced, sliceLoop_read, readAt]
  cases found : read (data.drop pos) with
  | value word length =>
    have some : ¬ length = 0 := by
      have bounds := read_bounds found
      omega
    exact if_neg some
  | truncated => rfl
  | overflow => rfl

theorem readers_eq : ∀ read ∈ readers, ∀ (buf : List UInt8) (pos : Nat),
    read buf pos = readAt buf pos := by
  intro reader member buf pos
  simp only [readers, List.mem_cons, List.not_mem_nil, or_false] at member
  rcases member with rfl | rfl | rfl | rfl | rfl | rfl | rfl
  -- the four that walk a slice, then the three that move a position
  · exact sliced_eq buf pos
  · exact sliced_eq buf pos
  · exact sliced_eq buf pos
  · exact sliced_eq buf pos
  · rw [movedOption, RelayCore.protoReadVarintFast, positionLoop_read, readAt]
    cases read (buf.drop pos) <;> rfl
  · rw [moved, QuicTransport.protoReadVarint, positionLoop_read, readAt]
    cases read (buf.drop pos) <;> rfl
  · rw [moved, Mavlink.readVarint, positionLoop_read, readAt]
    cases read (buf.drop pos) <;> rfl

/-- Behind any bytes and before any bytes, `bytes` is read as `word`, to its end. -/
def Inverts (reader : List UInt8 → Nat → Option (UInt64 × Nat)) (bytes : List UInt8)
    (word : UInt64) : Prop :=
  ∀ before after : List UInt8,
    reader (before ++ bytes ++ after) before.length = some (word, before.length + bytes.length)

/-- Ten or more bytes that all have the continuation bit are rejected. -/
def RejectsRuns (reader : List UInt8 → Nat → Option (UInt64 × Nat)) : Prop :=
  ∀ before run after : List UInt8, 10 ≤ run.length → (∀ byte ∈ run, byte &&& 0x80 ≠ 0) →
    reader (before ++ run ++ after) before.length = none

theorem varints_agree :
    (∀ word : UInt64, ∃ bytes : List UInt8,
      (∀ write ∈ writers, ∀ buf, write buf word = buf ++ bytes) ∧
      ∀ read ∈ readers, Inverts read bytes word) ∧
    ∀ read ∈ readers, RejectsRuns read := by
  constructor
  next =>
    intro word
    refine ⟨varint word.toNat, fun write member buf => writers_eq write member buf word, ?_⟩
    intro reader member before after
    rw [readers_eq reader member]
    exact readAt_varint word before after
  next =>
    intro reader member before run after long continued
    rw [readers_eq reader member]
    exact readAt_run continued long

end SystemScale.Contract.Varints

import SystemScale.Cloud.DecoderSafety
import SystemScale.Lib.WellFormed

set_option autoImplicit false

/-!
# Every encoding of a telemetry request

The streams of a request may be written one by one, in packed chunks or both, between its other
fields. A stream type is the lower half of a varint, which may have more bytes than it needs.
-/

namespace SystemScale.Cloud

open Wire

/-! ## Encodings -/

/-- Varints that fill the bytes. -/
inductive Packed : List UInt8 → List UInt64 → Prop
  | nil : Packed [] []
  | cons {data : List UInt8} {word : UInt64} {length : Nat} {words : List UInt64}
      (read : Varint.read data = .value word length) (rest : Packed (data.drop length) words) :
      Packed data (word :: words)

/-- A packed field, which may be empty. -/
structure Chunk where
  bytes : List UInt8
  words : List UInt64
  packed : Packed bytes words

inductive RequestPart where
  | vehicleID (id : GoString)
  | stream (word : UInt64)
  | packed (chunk : Chunk)
  | maxHz (word : UInt64)

namespace RequestPart

def field : RequestPart → Field
  | .vehicleID id => ⟨1, .delimited id⟩
  | .stream word => ⟨2, .varint word⟩
  | .packed chunk => ⟨2, .delimited chunk.bytes⟩
  | .maxHz word => ⟨3, .varint word⟩

def vehicleID? : RequestPart → Option GoString
  | .vehicleID id => some id
  | _ => none

def streams : RequestPart → List UInt32
  | .stream word => [word.toUInt32]
  | .packed chunk => chunk.words.map UInt64.toUInt32
  | _ => []

def maxHz? : RequestPart → Option UInt32
  | .maxHz word => some word.toUInt32
  | _ => none

end RequestPart

/-- The parts fill the data, in any order, and are those of the request. Of more than one rate the
last counts. -/
structure Encodes (parts : List RequestPart) (data : List UInt8) (req : TelemetryRequest) :
    Prop where
  reads : Reads data (parts.map RequestPart.field)
  vehicleIDs : parts.filterMap RequestPart.vehicleID? = req.vehicleIDs
  streams : parts.flatMap RequestPart.streams = req.streams
  maxHz : (parts.filterMap RequestPart.maxHz?).getLast?.getD 0 = req.maxHz

/-! ## Packed chunks -/

theorem packedStreams_packed {data : List UInt8} {words : List UInt64} (packed : Packed data words)
    {fuel : Nat} (enough : data.length ≤ fuel) :
    packedStreams fuel data = words.map UInt64.toUInt32 := by
  induction packed generalizing fuel with
  | nil =>
    cases fuel with
    | zero => rfl
    | succ fuel => rfl
  | @cons data word length words read rest ih =>
    have bounds := Varint.read_bounds read
    obtain ⟨fuel, rfl⟩ : ∃ less, fuel = less + 1 := ⟨fuel - 1, by omega⟩
    have later := ih (show (data.drop length).length ≤ fuel by rw [List.length_drop]; omega)
    simp only [packedStreams, consumeVarint, read, if_neg bounds.1.ne', later, List.map_cons]

-- Varints written one behind the other are a chunk.
theorem packed_written (words : List UInt64) :
    Packed (words.flatMap fun word => Varint.varint word.toNat) words := by
  induction words with
  | nil => exact .nil
  | cons word rest ih =>
    have read := Varint.read_varint word (rest.flatMap fun word => Varint.varint word.toNat)
    refine .cons read ?_
    rw [List.flatMap_cons, List.drop_left]
    exact ih

/-! ## The decoder -/

def TelemetryRequest.apply (req : TelemetryRequest) (field : Field) : TelemetryRequest :=
  match field.payload with
  | .varint val => req.setVarint field.number val
  | .delimited b => req.setBytes field.number b
  | _ => req

theorem RequestPart.wireType (part : RequestPart) :
    part.field.payload.wireType = 0 ∨ part.field.payload.wireType = 2 := by
  cases part with
  | vehicleID id => exact .inr rfl
  | stream word => exact .inl rfl
  | packed chunk => exact .inr rfl
  | maxHz word => exact .inl rfl

theorem decodeTelemetryRequestStep_scan {data : List UInt8} {pos length : Nat} {field : Field}
    (held : data.length < 2 ^ 63) (req : TelemetryRequest) (inside : pos < data.length)
    (known : field.payload.wireType = 0 ∨ field.payload.wireType = 2)
    (scanned : scanField (data.drop pos) = some (field, length)) :
    decodeTelemetryRequestStep data (pos, req) = .next (pos + length, req.apply field) := by
  rw [decodeTelemetryRequestStep_round req inside]
  refine fieldRound_scan (fun _ _ => rfl) (fun number content count fits => ?_) known scanned
  have whole := goAdd_fits count held fits
  rw [if_neg (by omega), goSlice_count count held fits]
  simp only [Bytes.length_slice fits]
  rfl

/-! ## The request -/

theorem apply_part (req : TelemetryRequest) (part : RequestPart) :
    req.apply part.field =
      ⟨req.vehicleIDs ++ part.vehicleID?.toList, req.streams ++ part.streams,
        part.maxHz?.getD req.maxHz⟩ := by
  cases part with
  | vehicleID id =>
    simp [RequestPart.field, TelemetryRequest.apply, TelemetryRequest.setBytes,
      RequestPart.vehicleID?, RequestPart.streams, RequestPart.maxHz?]
  | stream word =>
    simp [RequestPart.field, TelemetryRequest.apply, TelemetryRequest.setVarint,
      RequestPart.vehicleID?, RequestPart.streams, RequestPart.maxHz?]
  | packed chunk =>
    have inner := packedStreams_packed chunk.packed (Nat.le_refl chunk.bytes.length)
    simp [RequestPart.field, TelemetryRequest.apply, TelemetryRequest.setBytes, inner,
      RequestPart.vehicleID?, RequestPart.streams, RequestPart.maxHz?]
  | maxHz word =>
    simp [RequestPart.field, TelemetryRequest.apply, TelemetryRequest.setVarint,
      RequestPart.vehicleID?, RequestPart.streams, RequestPart.maxHz?]

theorem foldl_parts (parts : List RequestPart) (req : TelemetryRequest) :
    (parts.map RequestPart.field).foldl TelemetryRequest.apply req =
      ⟨req.vehicleIDs ++ parts.filterMap RequestPart.vehicleID?,
        req.streams ++ parts.flatMap RequestPart.streams,
        (parts.filterMap RequestPart.maxHz?).getLast?.getD req.maxHz⟩ := by
  induction parts generalizing req with
  | nil => simp
  | cons part rest ih =>
    rw [List.map_cons, List.foldl_cons, ih, apply_part]
    cases rate : part.maxHz? <;> cases vehicle : part.vehicleID? <;>
      simp [rate, vehicle, List.getLast?_cons]

theorem decodeTelemetryRequestStep_end (data : List UInt8) (req : TelemetryRequest) :
    decodeTelemetryRequestStep data (data.length, req) = .done (.ok req) := by
  rw [decodeTelemetryRequestStep, if_neg (Nat.lt_irrefl _)]

theorem decodeTelemetryRequestInto_encodes {parts : List RequestPart} {data : List UInt8}
    {req : TelemetryRequest} (held : data.length < 2 ^ 63) (encodes : Encodes parts data req) :
    decodeTelemetryRequestInto data = .ok req := by
  have known : ∀ field ∈ parts.map RequestPart.field,
      field.payload.wireType = 0 ∨ field.payload.wireType = 2 := by
    intro field member
    obtain ⟨part, _, rfl⟩ := List.mem_map.mp member
    exact part.wireType
  have run : loop (decodeTelemetryRequestStep data) (data.length + 1) (0, .empty) =
      some (.ok ((parts.map RequestPart.field).foldl TelemetryRequest.apply .empty)) :=
    loop_reads_known _ Prod.mk TelemetryRequest.apply .ok data
      (fun _ _ _ req inside kind scanned =>
        decodeTelemetryRequestStep_scan held req inside kind scanned)
      (decodeTelemetryRequestStep_end data) known (by rw [List.drop_zero]; exact encodes.reads)
      (Nat.zero_le _) (Nat.lt_succ_self _)
  have whole : (parts.map RequestPart.field).foldl TelemetryRequest.apply .empty = req := by
    rw [foldl_parts, encodes.vehicleIDs, encodes.streams]
    exact congrArg _ encodes.maxHz
  rw [decodeTelemetryRequestInto, run, whole]
  rfl

/-- The streams 1, 2, 300 and 5, of which a chunk holds two and the last takes a byte too many. -/
theorem decodeTelemetryRequestInto_encodes_mixed :
    decodeTelemetryRequestInto
        [0x10, 1, 0x0A, 1, 97, 0x12, 3, 2, 0xAC, 2, 0x18, 10, 0x0A, 1, 98, 0x10, 0x85, 0] =
      .ok ⟨[[97], [98]], [1, 2, 300, 5], 10⟩ := by
  have chunk : Packed [2, 0xAC, 2] [2, 300] := .cons rfl (.cons rfl .nil)
  let parts : List RequestPart :=
    [.stream 1, .vehicleID [97], .packed ⟨_, _, chunk⟩, .maxHz 10, .vehicleID [98], .stream 5]
  have reads : Reads
      [0x10, 1, 0x0A, 1, 97, 0x12, 3, 2, 0xAC, 2, 0x18, 10, 0x0A, 1, 98, 0x10, 0x85, 0]
      (parts.map RequestPart.field) :=
    .cons rfl (.cons rfl (.cons rfl (.cons rfl (.cons rfl (.cons rfl .nil)))))
  exact decodeTelemetryRequestInto_encodes (by decide) ⟨reads, rfl, rfl, rfl⟩

-- Parts written in any order are an encoding of what they hold together.
theorem encodes_written {parts : List RequestPart}
    (good : ∀ part ∈ parts, part.field.payload.room < 2 ^ 64) :
    Encodes parts (encode (parts.map RequestPart.field))
      ⟨parts.filterMap RequestPart.vehicleID?, parts.flatMap RequestPart.streams,
        (parts.filterMap RequestPart.maxHz?).getLast?.getD 0⟩ := by
  refine ⟨reads_encode _ ?_, rfl, rfl, rfl⟩
  intro field member
  obtain ⟨part, present, rfl⟩ := List.mem_map.mp member
  refine ⟨?_, good part present⟩
  cases part <;> simp [RequestPart.field]

end SystemScale.Cloud

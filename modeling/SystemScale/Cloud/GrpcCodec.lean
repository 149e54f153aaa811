import SystemScale.Cloud.CommandService

set_option autoImplicit false

/-!
# command-api's gRPC codec

The messages of its own service are written and read by hand, without generated code.
-/

namespace SystemScale.Cloud

open Wire

/-- Only fields that differ from their defaults are written. -/
def encodeCommandAckProto (ack : CommandAck) : List UInt8 :=
  (if ack.commandID ≠ [] then appendProtoString 1 ack.commandID else []) ++
  (if ack.vehicleID ≠ [] then appendProtoString 2 ack.vehicleID else []) ++
  (if ack.status ≠ 0 then appendProtoVarint 3 ack.status.toInt64.toUInt64 else []) ++
  (if ack.message ≠ [] then appendProtoString 4 ack.message else []) ++
  (if ack.latencyMs > 0 then appendProtoVarint 5 ack.latencyMs.toUInt64 else [])

/-! ## Values of 32 bits -/

theorem int32_extended (value : Int32) : Int32.ofInt value.toInt64.toUInt64.toNat = value := by
  have back := congrArg Int32.toBitVec (Int32.toInt32_toInt64 value)
  have narrowed : value.toInt64.toInt32.toBitVec = value.toInt64.toBitVec.setWidth 32 := by
    rw [Int64.toBitVec_toInt32, BitVec.signExtend_eq_setWidth_of_le _ (by decide)]
  apply Int32.toBitVec_inj.mp
  rw [← back, narrowed, Int32.toBitVec_ofInt, BitVec.ofInt_natCast]
  exact BitVec.ofNat_toNat 32 value.toInt64.toBitVec

theorem uint32_zero {value : UInt32} (unset : ¬value > 0) : value = 0 := by
  have zero : ¬0 < value.toNat := unset
  apply UInt32.toNat_inj.mp
  simp
  omega

theorem uint64_zero {value : UInt64} (unset : ¬value > 0) : value = 0 := by
  have zero : ¬0 < value.toNat := unset
  apply UInt64.toNat_inj.mp
  simp
  omega

/-! ## The fields of an acknowledgment -/

def protoAckFields (ack : CommandAck) : List Field :=
  (if ack.commandID ≠ [] then [⟨1, .delimited ack.commandID⟩] else []) ++
  (if ack.vehicleID ≠ [] then [⟨2, .delimited ack.vehicleID⟩] else []) ++
  (if ack.status ≠ 0 then [⟨3, .varint ack.status.toInt64.toUInt64⟩] else []) ++
  (if ack.message ≠ [] then [⟨4, .delimited ack.message⟩] else []) ++
  (if ack.latencyMs > 0 then [⟨5, .varint ack.latencyMs.toUInt64⟩] else [])

theorem encode_ite (condition : Prop) [Decidable condition] (field : Field) :
    encode (if condition then [field] else []) = if condition then field.bytes else [] := by
  split_ifs <;> simp [encode]

theorem encodeCommandAckProto_eq (ack : CommandAck)
    (held : (encodeCommandAckProto ack).length < 2 ^ 63) :
    encodeCommandAckProto ack = encode (protoAckFields ack) := by
  have size : ack.commandID.length + ack.vehicleID.length + ack.message.length ≤
      (encodeCommandAckProto ack).length := by
    simp only [encodeCommandAckProto, appendProtoString, List.length_append]
    split_ifs <;> simp_all <;> omega
  have command := appendProtoString_eq 1 (by omega)
    (show ack.commandID.length < 2 ^ 64 by omega)
  have vehicle := appendProtoString_eq 2 (by omega)
    (show ack.vehicleID.length < 2 ^ 64 by omega)
  have status := appendProtoVarint_eq 3 (by omega) ack.status.toInt64.toUInt64
  have message := appendProtoString_eq 4 (by omega) (show ack.message.length < 2 ^ 64 by omega)
  have latency := appendProtoVarint_eq 5 (by omega) ack.latencyMs.toUInt64
  simp only [UInt32.reduceOfNat] at command vehicle status message latency
  simp only [encodeCommandAckProto, protoAckFields, encode_append, encode_ite, command, vehicle,
    status, message, latency]

theorem length_encodeCommandAckProto_le (ack : CommandAck) :
    (encodeCommandAckProto ack).length ≤
      ack.commandID.length + ack.vehicleID.length + ack.message.length + 100 := by
  have command := length_appendProtoString_le 1 ack.commandID
  have vehicle := length_appendProtoString_le 2 ack.vehicleID
  have status := length_appendProtoVarint_le 3 ack.status.toInt64.toUInt64
  have message := length_appendProtoString_le 4 ack.message
  have latency := length_appendProtoVarint_le 5 ack.latencyMs.toUInt64
  simp only [encodeCommandAckProto, List.length_append, apply_ite List.length, List.length_nil]
  split_ifs <;> omega

theorem protoAckFields_good (ack : CommandAck) : ∀ field ∈ protoAckFields ack, AckField field := by
  intro field member
  simp only [protoAckFields, List.mem_append, List.mem_ite_nil_right, List.mem_singleton] at member
  rcases member with (((⟨-, rfl⟩ | ⟨-, rfl⟩) | ⟨-, rfl⟩) | ⟨-, rfl⟩) | ⟨-, rfl⟩ <;>
    simp [AckField, Payload.wireType]

theorem decodeCommandAck_encodeCommandAckProto (ack : CommandAck)
    (held : (encodeCommandAckProto ack).length < 2 ^ 63) :
    decodeCommandAck (encodeCommandAckProto ack) = .ok ack := by
  have written := encodeCommandAckProto_eq ack held
  rw [written] at held ⊢
  rw [decodeCommandAck_encode _ (protoAckFields_good ack) held]
  have status := int32_extended ack.status
  have unset (none : ¬ack.latencyMs > 0) : 0 = ack.latencyMs := (uint32_zero none).symm
  congr 1
  obtain ⟨commandID, vehicleID, status', message, latencyMs⟩ := ack
  simp only [protoAckFields]
  split_ifs <;> simp_all [CommandAck.apply, CommandAck.setString, CommandAck.setVarint, CommandAck.empty]

/-! ## Commands -/

-- The fields of a `CommandEnvelope` of the source are all varints and byte strings.
def CommandEnvelope.apply (env : CommandEnvelope) (field : Field) : CommandEnvelope :=
  match field.payload with
  | .varint val => env.setVarint field.number val
  | .delimited b => env.setString field.number b
  | _ => env

section Rounds

variable {data : List UInt8} {start length : Nat} {field : Field}

attribute [local irreducible] goSlice goAdd

theorem decodeCommandEnvelopeStep_round (env : CommandEnvelope) (inside : start < data.length) :
    decodeCommandEnvelopeStep data (start, env) =
      fieldRound data start (.err s!"truncated tag at offset {start}")
        (fun fieldNum => s!"truncated varint field {fieldNum}")
        (fun fieldNum => s!"truncated length field {fieldNum}")
        (fun wireType fieldNum => s!"unsupported wire type {wireType} at field {fieldNum}")
        env.setVarint fun fieldNum pos length =>
          if goAdd pos (goInt length) > data.length then
            .done (.err s!"truncated bytes field {fieldNum}")
          else match goSlice data pos (goAdd pos (goInt length)) with
            | none => .done .panic
            | some b => .next (pos + b.length, env.setString fieldNum b) := by
  rw [decodeCommandEnvelopeStep, if_pos inside]
  rfl

theorem decodeCommandEnvelopeStep_scan (held : data.length < 2 ^ 63) (env : CommandEnvelope)
    (inside : start < data.length)
    (known : field.payload.wireType = 0 ∨ field.payload.wireType = 2)
    (scanned : scanField (data.drop start) = some (field, length)) :
    decodeCommandEnvelopeStep data (start, env) = .next (start + length, env.apply field) := by
  rw [decodeCommandEnvelopeStep_round env inside]
  refine fieldRound_scan (fun _ _ => rfl) (fun number content count fits => ?_) known scanned
  have whole := goAdd_fits count held fits
  rw [if_neg (by omega), goSlice_count count held fits]
  simp only [Bytes.length_slice fits]
  rfl

end Rounds

theorem decodeCommandEnvelopeInto_encode (fields : List Field)
    (good : ∀ field ∈ fields, AckField field) (held : (encode fields).length < 2 ^ 63) :
    decodeCommandEnvelopeInto (encode fields) = .ok (fields.foldl CommandEnvelope.apply .empty) := by
  have walk := decode_fields (decodeCommandEnvelopeStep (encode fields)) Prod.mk
    CommandEnvelope.apply .ok fields .empty (fun _ good => good.1)
    (fun _ _ _ env good at_field => decodeCommandEnvelopeStep_scan held env
      at_field.inside good.2 (at_field.scans held))
    (fun env => by simp [decodeCommandEnvelopeStep]) good
  exact congrArg (Option.getD · _) walk

theorem commandFields_good (cmd : CommandEnvelope) : ∀ field ∈ commandFields cmd, AckField field := by
  intro field member
  refine ⟨commandFields_number cmd field member, ?_⟩
  simp only [commandFields, List.mem_append, List.mem_ite_nil_right, List.mem_cons,
    List.not_mem_nil, or_false] at member
  rcases member with (((rfl | rfl | rfl | rfl) | ⟨-, rfl⟩) | ⟨-, rfl⟩) | ⟨-, rfl⟩ <;>
    simp [Payload.wireType]

theorem decodeCommandEnvelopeInto_encodeCommandEnvelope (cmd : CommandEnvelope)
    (held : (encodeCommandEnvelope cmd).length < 2 ^ 63) :
    decodeCommandEnvelopeInto (encodeCommandEnvelope cmd) = .ok cmd := by
  have written := encodeCommandEnvelope_eq cmd held
  rw [written] at held ⊢
  rw [decodeCommandEnvelopeInto_encode _ (commandFields_good cmd) held]
  have priority := int32_extended cmd.priority
  have unissued (none : ¬cmd.issuedAt > 0) : 0 = cmd.issuedAt := (uint64_zero none).symm
  have unlimited (none : ¬cmd.ttlMs > 0) : 0 = cmd.ttlMs := (uint32_zero none).symm
  congr 1
  obtain ⟨vehicleID, commandID, payload, priority', issuerID, issuedAt, ttlMs⟩ := cmd
  simp only [commandFields]
  split_ifs <;> simp_all [CommandEnvelope.apply, CommandEnvelope.setString,
    CommandEnvelope.setVarint, CommandEnvelope.empty]

/-- Both pairs of the service's codec give back what was written, for messages that have a place in
memory. -/
theorem codecs_inverse :
    (∀ cmd : CommandEnvelope, (encodeCommandEnvelope cmd).length < 2 ^ 63 →
      decodeCommandEnvelopeInto (encodeCommandEnvelope cmd) = .ok cmd) ∧
    ∀ ack : CommandAck, (encodeCommandAckProto ack).length < 2 ^ 63 →
      decodeCommandAck (encodeCommandAckProto ack) = .ok ack :=
  ⟨decodeCommandEnvelopeInto_encodeCommandEnvelope, decodeCommandAck_encodeCommandAckProto⟩

theorem negative_values_inverse :
    decodeCommandEnvelopeInto
        (encodeCommandEnvelope ⟨[0x64], [0x63], [], -1, [], 9223372036854775808, 0⟩) =
        .ok ⟨[0x64], [0x63], [], -1, [], 9223372036854775808, 0⟩ ∧
      decodeCommandAck (encodeCommandAckProto ⟨[0x63], [], -2, [0xFF], 0⟩) =
        .ok ⟨[0x63], [], -2, [0xFF], 0⟩ := by
  have size := length_encodeCommandEnvelope_le ⟨[0x64], [0x63], [], -1, [], 9223372036854775808, 0⟩
  have size' := length_encodeCommandAckProto_le ⟨[0x63], [], -2, [0xFF], 0⟩
  simp only [List.length_cons, List.length_nil] at size size'
  exact ⟨codecs_inverse.1 _ (by omega), codecs_inverse.2 _ (by omega)⟩

end SystemScale.Cloud

import SystemScale.Lib.WellFormed
import SystemScale.Relay.EventFrames

set_option autoImplicit false

/-!
# Every encoding of an event

The fields of an event, and of the frame in its metadata, may be written in any order. Of more than
one field of a number the last counts.
-/

namespace SystemScale.Relay

open Agent (serdeFromSlice)
open Wire

/-! ## Complete fields -/

section Steps

variable {data : List UInt8} {pos length : Nat} {field : Field}

def EventFrame.apply (frame : EventFrame) (field : Field) : EventFrame :=
  match field.payload with
  | .varint v => frame.setVarint field.number v
  | .delimited bytes => frame.setBytes field.number bytes
  | _ => frame

theorem decodeEventStep_scan (held : data.length < 2 ^ 63) (frame : EventFrame)
    (inside : pos < data.length) (small : field.number < 2 ^ 32)
    (scanned : scanField (data.drop pos) = some (field, length)) :
    decodeEventStep data (pos, frame) = .next (pos + length, frame.apply field) := by
  obtain ⟨number, payload⟩ := field
  obtain ⟨tag, tagLength, size, read, cast, kind, content, rfl⟩ := scanField_content32 scanned
  have some_tag := (Varint.read_bounds read).1.ne'
  have number_is := cast.trans (Nat.mod_eq_of_lt small)
  rw [decodeEventStep, if_pos inside, readVarint, read]
  simp only [if_neg some_tag, number_is, kind]
  cases content with
  | varint value =>
    have some_word := (Varint.read_bounds value).1.ne'
    simp only [Payload.wireType, readVarint, value, if_neg some_word, EventFrame.apply,
      Nat.add_assoc]
  | fixed64 whole =>
    simp only [Payload.wireType, EventFrame.apply, Nat.add_assoc]
    rw [if_neg (by omega)]
  | @delimited count countLength value whole =>
    have some_count := (Varint.read_bounds value).1.ne'
    have stop : (pos + tagLength + countLength + count.toNat) % 2 ^ 64 =
        pos + tagLength + countLength + count.toNat := Nat.mod_eq_of_lt (by omega)
    simp only [Payload.wireType, readVarint, value, if_neg some_count, stop]
    rw [if_neg (by omega), if_neg (by omega), Nat.add_sub_cancel_left]
    simp only [EventFrame.apply, Nat.add_assoc]
  | fixed32 whole =>
    simp only [Payload.wireType, EventFrame.apply, Nat.add_assoc]
    rw [if_neg (by omega)]

def applyPair (pair : String × String) (field : Field) : String × String :=
  match field.payload with
  | .delimited bytes =>
    if field.number = 1 then (Utf8.lossy bytes, pair.2)
    else if field.number = 2 then (pair.1, Utf8.lossy bytes) else pair
  | _ => pair

theorem decodePairStep_scan (held : data.length < 2 ^ 63) (pair : String × String)
    (inside : pos < data.length) (small : field.number < 2 ^ 32)
    (scanned : scanField (data.drop pos) = some (field, length)) :
    decodePairStep data (pos, pair) = .next (pos + length, applyPair pair field) := by
  obtain ⟨number, payload⟩ := field
  obtain ⟨tag, tagLength, size, read, cast, kind, content, rfl⟩ := scanField_content32 scanned
  have some_tag := (Varint.read_bounds read).1.ne'
  have number_is := cast.trans (Nat.mod_eq_of_lt small)
  rw [decodePairStep, if_pos inside, readVarint, read]
  simp only [if_neg some_tag, number_is, kind]
  cases content with
  | varint value =>
    have some_word := (Varint.read_bounds value).1
    simp only [Payload.wireType, readVarint, value, applyPair, Nat.add_assoc]
    rw [Nat.max_eq_left some_word]
  | fixed64 whole => simp only [Payload.wireType, applyPair, Nat.add_assoc]
  | @delimited count countLength value whole =>
    have some_count := (Varint.read_bounds value).1.ne'
    have stop : (pos + tagLength + countLength + count.toNat) % 2 ^ 64 =
        pos + tagLength + countLength + count.toNat := Nat.mod_eq_of_lt (by omega)
    simp only [Payload.wireType, readVarint, value, if_neg some_count, stop]
    rw [if_neg (by omega), if_neg (by omega), Nat.add_sub_cancel_left]
    simp only [applyPair, Nat.add_assoc]
  | fixed32 whole => simp only [Payload.wireType, applyPair, Nat.add_assoc]

theorem decodeEventFrame_reads {fields : List Field} (held : data.length < 2 ^ 63)
    (small : ∀ field ∈ fields, field.number < 2 ^ 32) (reads : Reads data fields) :
    decodeEventFrame data = .ok (fields.foldl EventFrame.apply ⟨0, "", []⟩) := by
  have run : loop (decodeEventStep data) (data.length + 1) (0, ⟨0, "", []⟩) =
      some (.ok (fields.foldl EventFrame.apply ⟨0, "", []⟩)) :=
    loop_reads_known _ Prod.mk EventFrame.apply .ok data
      (fun _ _ _ frame inside small scanned => decodeEventStep_scan held frame inside small scanned)
      (fun frame => by simp [decodeEventStep]) small (by rwa [List.drop_zero]) (Nat.zero_le _)
      (Nat.lt_succ_self _)
  rw [decodeEventFrame, run]
  rfl

theorem decodePair_reads {fields : List Field} (first : String) (held : data.length < 2 ^ 63)
    (small : ∀ field ∈ fields, field.number < 2 ^ 32) (reads : Reads data fields) :
    decodePair first data = .ok (fields.foldl applyPair (first, "")) := by
  have run : loop (decodePairStep data) (data.length + 1) (0, first, "") =
      some (.ok (fields.foldl applyPair (first, ""))) :=
    loop_reads_known _ Prod.mk applyPair .ok data
      (fun _ _ _ pair inside small scanned => decodePairStep_scan held pair inside small scanned)
      (fun pair => by simp [decodePairStep]) small (by rwa [List.drop_zero]) (Nat.zero_le _)
      (Nat.lt_succ_self _)
  rw [decodePair, run]
  rfl

end Steps

/-! ## Events -/

/-- An `EventFrame` as its sender has it. -/
structure EventMessage where
  eventType : Int32
  description : String
  metadata : List UInt8

inductive EventPart where
  | eventType (type : Int32)
  | description (text : String)
  | metadata (bytes : List UInt8)

namespace EventPart

-- A negative number of an enumeration is written with the sign in all 64 bits.
def field : EventPart → Field
  | .eventType type => ⟨1, .varint type.toInt64.toUInt64⟩
  | .description text => ⟨2, .delimited (Utf8.encode text)⟩
  | .metadata bytes => ⟨3, .delimited bytes⟩

def eventType? : EventPart → Option Int32
  | .eventType type => some type
  | _ => none

def description? : EventPart → Option String
  | .description text => some text
  | _ => none

def metadata? : EventPart → Option (List UInt8)
  | .metadata bytes => some bytes
  | _ => none

end EventPart

/-- The last of the values that the parts have. -/
def lastOf {Part A : Type} (pick : Part → Option A) (absent : A) (parts : List Part) : A :=
  (parts.filterMap pick).getLast?.getD absent

theorem lastOf_cons {Part A : Type} (pick : Part → Option A) (absent : A) (part : Part)
    (rest : List Part) :
    lastOf pick absent (part :: rest) = lastOf pick ((pick part).getD absent) rest := by
  cases found : pick part <;> simp [lastOf, found, List.getLast?_cons]

/-- The parts fill the data, in any order, and are those of the message. -/
structure EventMessage.Encodes (event : EventMessage) (parts : List EventPart)
    (data : List UInt8) : Prop where
  reads : Reads data (parts.map EventPart.field)
  eventType : lastOf EventPart.eventType? 0 parts = event.eventType
  description : lastOf EventPart.description? "" parts = event.description
  metadata : lastOf EventPart.metadata? [] parts = event.metadata

def EventMessage.frame (event : EventMessage) : EventFrame :=
  ⟨event.eventType.toInt, event.description, event.metadata⟩

theorem toInt_varint (type : Int32) :
    Int.bmod (type.toInt64.toUInt64.toNat : Int) (2 ^ 64) = type.toInt := by
  have signed : type.toInt64.toInt = type.toInt := Int32.toInt_toInt64 type
  rw [← signed]
  exact (BitVec.toInt_eq_toNat_bmod _).symm

theorem EventFrame.apply_part (event : EventMessage) (part : EventPart) :
    event.frame.apply part.field = EventMessage.frame ⟨part.eventType?.getD event.eventType,
      part.description?.getD event.description, part.metadata?.getD event.metadata⟩ := by
  cases part with
  | eventType type =>
    simp only [EventPart.field, EventFrame.apply, EventFrame.setVarint, if_true, toInt_varint]
    rfl
  | description text =>
    simp [EventPart.field, EventFrame.apply, EventFrame.setBytes, Utf8.lossy_encode,
      EventMessage.frame, EventPart.eventType?, EventPart.description?, EventPart.metadata?]
  | metadata bytes =>
    simp [EventPart.field, EventFrame.apply, EventFrame.setBytes, EventMessage.frame,
      EventPart.eventType?, EventPart.description?, EventPart.metadata?]

theorem EventFrame.foldl_parts (parts : List EventPart) (event : EventMessage) :
    (parts.map EventPart.field).foldl EventFrame.apply event.frame =
      EventMessage.frame ⟨lastOf EventPart.eventType? event.eventType parts,
        lastOf EventPart.description? event.description parts,
        lastOf EventPart.metadata? event.metadata parts⟩ := by
  induction parts generalizing event with
  | nil => rfl
  | cons part rest ih =>
    rw [List.map_cons, List.foldl_cons, EventFrame.apply_part, ih]
    simp only [lastOf_cons]

theorem decodeEventFrame_encodes {event : EventMessage} {parts : List EventPart}
    {data : List UInt8} (held : data.length < 2 ^ 63) (encodes : event.Encodes parts data) :
    decodeEventFrame data = .ok event.frame := by
  have small : ∀ field ∈ parts.map EventPart.field, field.number < 2 ^ 32 := by
    intro field member
    obtain ⟨part, _, rfl⟩ := List.mem_map.mp member
    cases part <;> simp [EventPart.field]
  have start : (⟨0, "", []⟩ : EventFrame) = EventMessage.frame ⟨0, "", []⟩ := rfl
  rw [decodeEventFrame_reads held small encodes.reads, start, EventFrame.foldl_parts,
    encodes.eventType, encodes.description, encodes.metadata]

theorem lastOf_mem {Part A : Type} {pick : Part → Option A} {absent : A} {parts : List Part} :
    lastOf pick absent parts = absent ∨ ∃ part ∈ parts, pick part = some (lastOf pick absent parts) := by
  rw [lastOf]
  cases found : (parts.filterMap pick).getLast? with
  | none => exact .inl rfl
  | some value => exact .inr (List.mem_filterMap.mp (List.mem_of_getLast? found))

theorem EventMessage.Encodes.metadata_le {event : EventMessage} {parts : List EventPart}
    {data : List UInt8} (encodes : event.Encodes parts data) :
    event.metadata.length ≤ data.length := by
  rw [← encodes.metadata]
  rcases lastOf_mem with absent | ⟨part, member, is⟩
  · rw [absent]
    exact Nat.zero_le _
  · cases part with
    | metadata bytes =>
      rw [← Option.some.inj is]
      exact encodes.reads.delimited_le (List.mem_map_of_mem member)
    | _ => cases is

theorem EventPart.tag (part : EventPart) :
    8 * part.field.number + part.field.payload.wireType ∈ [8, 18, 26] := by
  cases part <;> simp [EventPart.field, Payload.wireType]

-- No JSON text starts with a tag of these, short or long.
theorem serdeFromSlice_control {byte : UInt8} {bytes : List UInt8}
    (tag : byte.toNat % 128 ∈ [8, 18, 26]) : serdeFromSlice (byte :: bytes) = none := by
  by_contra some_value
  obtain ⟨value, found⟩ := Option.ne_none_iff_exists'.mp some_value
  obtain ⟨text, strict, read⟩ := Option.bind_eq_some_iff.mp found
  obtain ⟨c, rest, starts, kind⟩ := Json.Reader.read_starts read
  have bytes_are := Utf8.encode_strict strict
  rw [Utf8.encode, starts, List.flatMap_cons] at bytes_are
  have bounded := byte.toNat_lt
  simp only [List.mem_cons, List.not_mem_nil, or_false] at tag
  have low : c.toNat = 8 ∨ c.toNat = 18 ∨ c.toNat = 26 := by
    cases lead : String.utf8EncodeChar c with
    | nil => exact absurd lead String.utf8EncodeChar_ne_nil
    | cons first others =>
      rw [lead, List.cons_append] at bytes_are
      obtain ⟨rfl, _⟩ := List.cons.inj bytes_are
      have leads := Utf8.lead_byte lead
      omega
  rcases kind with is_blank | printable
  · simp only [Json.blank, Bool.or_eq_true, decide_eq_true_eq] at is_blank
    rcases is_blank with ((rfl | rfl) | rfl) | rfl <;> revert low <;> decide
  · omega

theorem serdeFromSlice_event {event : EventMessage} {parts : List EventPart} {data : List UInt8}
    (encodes : event.Encodes parts data) : serdeFromSlice data = none := by
  have reads := encodes.reads
  cases parts with
  | nil =>
    cases reads
    rfl
  | cons part rest =>
    rw [List.map_cons] at reads
    cases reads with
    | @cons _ _ length _ first _ =>
      have front : scanField (data.drop 0) = some (part.field, length) := by rwa [List.drop_zero]
      obtain ⟨tag, _, _, read, number, kind, _⟩ := scanField_content front
      rw [List.drop_zero] at read
      cases data with
      | nil => cases read
      | cons byte bytes =>
        refine serdeFromSlice_control ?_
        have low := Varint.read_first read
        rw [UInt64.toNat_shiftRight] at number
        rw [UInt64.toNat_and] at kind
        have known := part.tag
        have word : tag.toNat = 8 * part.field.number + part.field.payload.wireType := by
          have high : tag.toNat / 8 = part.field.number := by
            rw [← number]
            exact (Nat.shiftRight_eq_div_pow _ 3).symm
          have rest : tag.toNat % 8 = part.field.payload.wireType := by
            rw [← kind]
            exact (Nat.and_two_pow_sub_one_eq_mod _ 3).symm
          omega
        rw [← word] at known
        simp only [List.mem_cons, List.not_mem_nil, or_false] at known ⊢
        omega

/-! ## The frames in the metadata -/

/-- The fields of an `AlertFrame`, its level and its message, and of an `AssistanceRequestFrame`,
its id, its reason and its timeout. -/
inductive FramePart where
  | first (text : String)
  | second (text : String)
  | metadata (bytes : List UInt8)
  | timeoutS (seconds : UInt32)

namespace FramePart

def field : FramePart → Field
  | .first text => ⟨1, .delimited (Utf8.encode text)⟩
  | .second text => ⟨2, .delimited (Utf8.encode text)⟩
  | .metadata bytes => ⟨3, .delimited bytes⟩
  | .timeoutS seconds => ⟨4, .varint seconds.toUInt64⟩

def first? : FramePart → Option String
  | .first text => some text
  | _ => none

def second? : FramePart → Option String
  | .second text => some text
  | _ => none

end FramePart

theorem applyPair_part (pair : String × String) (part : FramePart) :
    applyPair pair part.field = (part.first?.getD pair.1, part.second?.getD pair.2) := by
  cases part <;>
    simp [FramePart.field, applyPair, Utf8.lossy_encode, FramePart.first?, FramePart.second?]

theorem applyPair_parts (parts : List FramePart) (pair : String × String) :
    (parts.map FramePart.field).foldl applyPair pair =
      (lastOf FramePart.first? pair.1 parts, lastOf FramePart.second? pair.2 parts) := by
  induction parts generalizing pair with
  | nil => rfl
  | cons part rest ih =>
    rw [List.map_cons, List.foldl_cons, applyPair_part, ih]
    simp only [lastOf_cons]

theorem decodePair_encodes {parts : List FramePart} {data : List UInt8} (absent : String)
    (held : data.length < 2 ^ 63) (reads : Reads data (parts.map FramePart.field)) :
    decodePair absent data =
      .ok (lastOf FramePart.first? absent parts, lastOf FramePart.second? "" parts) := by
  have small : ∀ field ∈ parts.map FramePart.field, field.number < 2 ^ 32 := by
    intro field member
    obtain ⟨part, _, rfl⟩ := List.mem_map.mp member
    cases part <;> simp [FramePart.field]
  rw [decodePair_reads absent held small reads, applyPair_parts]

end SystemScale.Relay

import SystemScale.Cloud.Proto

set_option autoImplicit false

/-! # command-api's decoders of vehicle messages -/

namespace SystemScale.Cloud

open Wire

/-! ## CommandAck -/

structure CommandAck where
  commandID : GoString
  vehicleID : GoString
  status : Int32
  message : GoString
  latencyMs : UInt32
  deriving DecidableEq

def CommandAck.empty : CommandAck := ⟨[], [], 0, [], 0⟩

-- A Go map read returns the empty string for a key that is not there.
def commandStatusNames (status : Int32) : String :=
  if status = 0 then "pending"
  else if status = 1 then "delivered"
  else if status = 2 then "completed"
  else if status = 3 then "failed"
  else if status = 4 then "timeout"
  else ""

def CommandAck.setVarint (ack : CommandAck) (fieldNum : Nat) (val : UInt64) : CommandAck :=
  match fieldNum with
  | 3 => { ack with status := Int32.ofInt val.toNat }
  | 5 => { ack with latencyMs := val.toUInt32 }
  | _ => ack

def CommandAck.setString (ack : CommandAck) (fieldNum : Nat) (s : GoString) : CommandAck :=
  match fieldNum with
  | 1 => { ack with commandID := s }
  | 2 => { ack with vehicleID := s }
  | 4 => { ack with message := s }
  | _ => ack

def decodeCommandAckStep (data : List UInt8) :
    Nat × CommandAck → Step (Nat × CommandAck) (Outcome CommandAck)
  | (pos, ack) =>
    if pos < data.length then
      let (tag, n) := consumeVarint (data.drop pos)
      if n = 0 then .done (.ok ack)
      else
        let pos := pos + n
        let fieldNum := (tag >>> 3).toNat
        match (tag &&& 0x7).toNat with
        | 0 =>
          let (val, n2) := consumeVarint (data.drop pos)
          if n2 = 0 then .done (.err "truncated varint")
          else .next (pos + n2, ack.setVarint fieldNum val)
        | 2 =>
          let (length, n2) := consumeVarint (data.drop pos)
          if n2 = 0 then .done (.err "truncated length")
          else
            let pos := pos + n2
            -- The end is not compared with `len(data)` here, so a long length panics.
            match goSlice data pos (goAdd pos (goInt length)) with
            | none => .done .panic
            | some s => .next (pos + s.length, ack.setString fieldNum s)
        | wireType => .done (.err s!"unsupported wire type {wireType}")
    else .done (.ok ack)

def decodeCommandAck (data : List UInt8) : Outcome CommandAck :=
  (loop (decodeCommandAckStep data) (data.length + 1) (0, .empty)).getD .hang

-- The fields of a `CommandAck` of the source are all varints and strings.
def CommandAck.apply (ack : CommandAck) (field : Field) : CommandAck :=
  match field.payload with
  | .varint val => ack.setVarint field.number val
  | .delimited s => ack.setString field.number s
  | _ => ack

def AckField (field : Field) : Prop :=
  field.number < 2 ^ 29 ∧ (field.payload.wireType = 0 ∨ field.payload.wireType = 2)

section AckRounds

variable {data : List UInt8} {start length : Nat} {field : Field}

-- `rfl` below compares the rounds and is not to unfold their slices.
attribute [local irreducible] goSlice goAdd

theorem decodeCommandAckStep_round (ack : CommandAck) (inside : start < data.length) :
    decodeCommandAckStep data (start, ack) =
      fieldRound data start (.ok ack) (fun _ => "truncated varint") (fun _ => "truncated length")
        (fun wireType _ => s!"unsupported wire type {wireType}") ack.setVarint
        fun fieldNum pos length =>
          match goSlice data pos (goAdd pos (goInt length)) with
          | none => .done .panic
          | some s => .next (pos + s.length, ack.setString fieldNum s) := by
  rw [decodeCommandAckStep, if_pos inside]
  rfl

theorem decodeCommandAckStep_scan (held : data.length < 2 ^ 63) (ack : CommandAck)
    (inside : start < data.length)
    (known : field.payload.wireType = 0 ∨ field.payload.wireType = 2)
    (scanned : scanField (data.drop start) = some (field, length)) :
    decodeCommandAckStep data (start, ack) = .next (start + length, ack.apply field) := by
  rw [decodeCommandAckStep_round ack inside]
  refine fieldRound_scan (fun _ _ => rfl) (fun number content count fits => ?_) known scanned
  rw [goSlice_count count held fits]
  simp only [Bytes.length_slice fits]
  rfl

end AckRounds

theorem decodeCommandAck_encode (fields : List Field) (good : ∀ field ∈ fields, AckField field)
    (held : (encode fields).length < 2 ^ 63) :
    decodeCommandAck (encode fields) = .ok (fields.foldl CommandAck.apply .empty) := by
  have walk := decode_fields (decodeCommandAckStep (encode fields)) Prod.mk CommandAck.apply .ok
    fields .empty (fun _ good => good.1)
    (fun _ _ _ ack good at_field => decodeCommandAckStep_scan held ack at_field.inside good.2
      (at_field.scans held))
    (fun ack => by simp [decodeCommandAckStep]) good
  exact congrArg (Option.getD · _) walk

inductive AckAhead (start : Nat) : Step (Nat × CommandAck) (Outcome CommandAck) → Prop where
  | next {later : Nat} (ack : CommandAck) (ahead : start < later) : AckAhead start (.next (later, ack))
  | done {result : Outcome CommandAck} (ended : result ≠ .hang) : AckAhead start (.done result)

theorem decodeCommandAckStep_ends (data : List UInt8) (start : Nat) (ack : CommandAck) :
    AckAhead start (decodeCommandAckStep data (start, ack)) := by
  rw [decodeCommandAckStep]
  by_cases inside : start < data.length
  · rw [if_pos inside]
    split
    next tag n read =>
      by_cases stop : n = 0
      · rw [if_pos stop]
        exact .done (by simp)
      · rw [if_neg stop]
        have before : start < start + n := Nat.lt_add_of_pos_right (Nat.pos_of_ne_zero stop)
        extract_lets pos fieldNum
        split
        next =>
          split
          next val n2 read =>
            split_ifs
            · exact .done (by simp)
            · exact .next _ (Nat.lt_add_right n2 before)
        next =>
          split
          next length n2 read =>
            split_ifs
            · exact .done (by simp)
            · extract_lets after
              split
              next => exact .done (by simp)
              next s found => exact .next _ (Nat.lt_add_right s.length (Nat.lt_add_right n2 before))
        next => exact .done (by simp)
  · rw [if_neg inside]
    exact .done (by simp)

-- Every round of the loop reads a tag, so it ends.
theorem decodeCommandAck_ends (data : List UInt8) : decodeCommandAck data ≠ .hang := by
  have ends : ∃ result, loop (decodeCommandAckStep data) (data.length + 1) (0, .empty) =
      some result ∧ result ≠ .hang := by
    refine loop_ends (fun state => data.length - state.1) ?_ ?_ (by simp)
    · rintro ⟨start, ack⟩ ⟨after, later⟩ step
      have ahead := decodeCommandAckStep_ends data start ack
      have inside : start < data.length := by
        by_contra outside
        rw [decodeCommandAckStep, if_neg outside] at step
        cases step
      rw [step] at ahead
      cases ahead with
      | next _ ahead =>
        show data.length - after < data.length - start
        omega
    · rintro ⟨start, ack⟩ result step
      have ended := decodeCommandAckStep_ends data start ack
      rw [step] at ended
      cases ended with
      | done ended => exact ended
  obtain ⟨result, ran, ended⟩ := ends
  rw [decodeCommandAck, ran]
  exact ended

/-! ## Peeking at a DataEnvelope -/

abbrev Peek := GoString × UInt32

-- The early return at the end of an iteration.
def peekSettle (pos : Int) (found : Peek) : Step (Int × Peek) (Outcome Peek) :=
  if found.1 ≠ [] ∧ found.2 > 0 then .done (.ok found) else .next (pos, found)

def peekDataEnvelopeStep (data : List UInt8) :
    Int × Peek → Step (Int × Peek) (Outcome Peek)
  | (pos, (vehicleID, streamType)) =>
    if pos < data.length then
      match goSlice data pos data.length with
      | none => .done .panic
      | some rest =>
        let (tag, n) := consumeVarint rest
        if n = 0 then .done (.ok (vehicleID, streamType))
        else
          let pos := pos + n
          let fieldNum := (tag >>> 3).toNat
          match (tag &&& 0x7).toNat with
          | 0 =>
            let (val, n2) := consumeVarint (data.drop pos.toNat)
            if n2 = 0 then .done (.ok (vehicleID, streamType))
            else peekSettle (pos + n2) (vehicleID, if fieldNum = 3 then val.toUInt32 else streamType)
          | 1 =>
            if pos + 8 > data.length then .done (.ok (vehicleID, streamType))
            else peekSettle (pos + 8) (vehicleID, streamType)
          | 2 =>
            let (length, n2) := consumeVarint (data.drop pos.toNat)
            if n2 = 0 then .done (.ok (vehicleID, streamType))
            else
              let pos := pos + n2
              let stop := goAdd pos (goInt length)
              if stop > data.length then .done (.ok (vehicleID, streamType))
              else if fieldNum = 1 then
                match goSlice data pos stop with
                | none => .done .panic
                | some s => peekSettle stop (s, streamType)
              else peekSettle stop (vehicleID, streamType)
          | 5 =>
            if pos + 4 > data.length then .done (.ok (vehicleID, streamType))
            else peekSettle (pos + 4) (vehicleID, streamType)
          | _ => .done (.ok (vehicleID, streamType))
    else .done (.ok (vehicleID, streamType))

-- A wrapped length jumps back. What was found differs in the second pass over the bytes behind the
-- jump, and no more after that.
def peekDataEnvelope (data : List UInt8) : Outcome Peek :=
  (loop (peekDataEnvelopeStep data) (2 * data.length + 2) (0, ([], 0))).getD .hang

def Peek.apply (found : Peek) (field : Field) : Peek :=
  match field.payload with
  | .varint val => (found.1, if field.number = 3 then val.toUInt32 else found.2)
  | .delimited s => if field.number = 1 then (s, found.2) else found
  | _ => found

def Peek.complete (found : Peek) : Bool := decide (found.1 ≠ [] ∧ found.2 > 0)

theorem peekSettle_eq (pos : Nat) (found : Peek) :
    peekSettle pos found = if found.complete then .done (.ok found) else .next ((pos : Int), found) := by
  simp [peekSettle, Peek.complete]

theorem peekDataEnvelopeStep_scan {data : List UInt8} {pos length : Nat} {field : Field}
    (held : data.length < 2 ^ 63) (found : Peek) (inside : pos < data.length) (scanned : scanField (data.drop pos) = some (field, length)) :
    peekDataEnvelopeStep data ((pos : Int), found) =
      if (found.apply field).complete then .done (.ok (found.apply field))
      else .next (((pos + length : Nat) : Int), found.apply field) := by
  obtain ⟨vehicleID, streamType⟩ := found
  obtain ⟨number, payload⟩ := field
  obtain ⟨tag, tagLength, size, read, is_number, kind, content, rfl⟩ := scanField_content scanned
  have some_tag := (Varint.read_bounds read).1.ne'
  rw [← peekSettle_eq, peekDataEnvelopeStep, if_pos (by omega), goSlice_rest (Nat.le_of_lt inside)]
  simp only [consumeVarint, read, if_neg some_tag, is_number, kind, ← Nat.cast_add,
    Int.toNat_natCast]
  cases content with
  | varint value =>
    have some_word := (Varint.read_bounds value).1.ne'
    simp only [Payload.wireType, value, if_neg some_word, Peek.apply, Nat.add_assoc]
  | fixed64 whole =>
    simp only [Payload.wireType, Peek.apply]
    rw [if_neg (by omega), ← Nat.add_assoc]
    rfl
  | @delimited count countLength value whole =>
    have some_count := (Varint.read_bounds value).1.ne'
    have stop := goAdd_length (show pos + tagLength + countLength + count.toNat < 2 ^ 63 by omega)
    rw [UInt64.ofNat_toNat] at stop
    simp only [Payload.wireType, value, if_neg some_count, stop]
    rw [if_neg (by omega), goSlice_nat whole]
    simp only [Peek.apply, Nat.add_assoc]
    split_ifs <;> rfl
  | fixed32 whole =>
    simp only [Payload.wireType, Peek.apply]
    rw [if_neg (by omega), ← Nat.add_assoc]
    rfl

theorem peekDataEnvelope_encode (fields : List Field)
    (good : ∀ field ∈ fields, field.number < 2 ^ 29) (held : (encode fields).length < 2 ^ 63) :
    peekDataEnvelope (encode fields) =
      .ok (foldUntil Peek.complete Peek.apply ([], 0) fields) := by
  have walk := loop_fields (peekDataEnvelopeStep (encode fields)) (fun pos found => ((pos : Int), found))
    Peek.complete Peek.apply .ok (encode fields) (fun _ small => small)
    (fun _ _ _ found _ at_field => peekDataEnvelopeStep_scan held found at_field.inside
      (at_field.scans held))
    (fun found => by simp [peekDataEnvelopeStep]) [] fields ([], 0) good rfl
    (2 * (encode fields).length + 2) (by have := length_le_encode fields; omega)
  exact congrArg (Option.getD · _) walk

end SystemScale.Cloud

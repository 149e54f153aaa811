import SystemScale.Agent.AdapterTrait
import SystemScale.Lib.Frames
import SystemScale.Lib.WellFormed

set_option autoImplicit false

/-!
# The agent's decoder of commands

`decode_command_envelope` of `quic-transport`. `usize` has 64 bits and its addition wraps.
-/

namespace SystemScale.Agent

open AdapterTrait Wire

/-- The value, and the position behind it. -/
def protoReadVarint (buf : List UInt8) (pos : Nat) : Outcome (UInt64 × Nat) :=
  match Varint.read (buf.drop pos) with
  | .value word length => .ok (word, pos + length)
  | .truncated => .err s!"varint truncated at pos {buf.length}"
  | .overflow => .err "varint overflow"

def protoReadLenDelim (buf : List UInt8) (pos : Nat) : Outcome (List UInt8 × Nat) :=
  match protoReadVarint buf pos with
  | .ok (len, pos) =>
    let stop := (pos + len.toNat) % 2 ^ 64
    if stop > buf.length then .err "len-delim field truncated"
    else if stop < pos then .panic
    else .ok (Bytes.slice buf pos len.toNat, stop)
  | .err message => .err message
  | .panic => .panic
  | .hang => .hang

def CommandEnvelope.setDelimited (env : CommandEnvelope) (field : Nat) (data : List UInt8) :
    CommandEnvelope :=
  match field with
  | 1 => { env with vehicleId := Utf8.lossy data }
  | 2 => { env with commandId := Utf8.lossy data }
  | 3 => { env with payload := data }
  | _ => env

def priorityOf (value : UInt64) : Priority :=
  if value = 2 then .high else if value = 3 then .emergency else .normal

def CommandEnvelope.setVarint (env : CommandEnvelope) (field : Nat) (value : UInt64) :
    CommandEnvelope :=
  match field with
  | 4 => { env with priority := priorityOf value }
  | 7 => { env with ttlMs := value.toUInt32 }
  | _ => env

def finishCommandEnvelope (env : CommandEnvelope) : Outcome CommandEnvelope :=
  if env.vehicleId = "" then .err "CommandEnvelope missing vehicle_id"
  else if env.commandId = "" then .err "CommandEnvelope missing command_id"
  else .ok env

/-- A `?` after `read`. -/
def orReturn {A S R : Type} (read : Outcome A) (go : A → Step S (Outcome R)) :
    Step S (Outcome R) :=
  match read with
  | .ok value => go value
  | .err message => .done (.err message)
  | .panic => .done .panic
  | .hang => .done .hang

def decodeCommandEnvelopeStep (buf : List UInt8) :
    Nat × CommandEnvelope → Step (Nat × CommandEnvelope) (Outcome CommandEnvelope)
  | (pos, env) =>
    if pos < buf.length then
      orReturn (protoReadVarint buf pos) fun (tag, pos) =>
        let field := (tag >>> 3).toUInt32.toNat
        match (tag &&& 0x7).toNat with
        | 0 => orReturn (protoReadVarint buf pos) fun (value, pos) =>
          .next (pos, CommandEnvelope.setVarint env field value)
        | 1 => .next (pos + 8, env)
        | 2 => orReturn (protoReadLenDelim buf pos) fun (data, pos) =>
          .next (pos, CommandEnvelope.setDelimited env field data)
        | 5 => .next (pos + 4, env)
        | _ => .done (finishCommandEnvelope env)
    else .done (finishCommandEnvelope env)

def emptyCommandEnvelope : CommandEnvelope := ⟨"", "", [], .normal, 0⟩

def decodeCommandEnvelope (buf : List UInt8) : Outcome CommandEnvelope :=
  (loop (decodeCommandEnvelopeStep buf) (buf.length + 1) (0, emptyCommandEnvelope)).getD .hang

/-- What goes to the adapter of a frame; one that does not decode is skipped with a warning. -/
def receiveCommand (payload : List UInt8) : Outcome (Option CommandEnvelope) :=
  match decodeCommandEnvelope payload with
  | .ok cmd => .ok (some cmd)
  | .err _ => .ok none
  | .panic => .panic
  | .hang => .hang

def receiveCommandsLoop : Frames.Reader (Option CommandEnvelope) where
  limit := 65536
  tooLarge len := s!"command frame too large: {len} bytes"
  handle := receiveCommand

/-! ## Any bytes -/

theorem protoReadVarint_advances {buf : List UInt8} {pos stop : Nat} {word : UInt64}
    (read : protoReadVarint buf pos = .ok (word, stop)) : pos < stop := by
  unfold protoReadVarint at read
  split at read
  next word length is =>
    obtain ⟨rfl, rfl⟩ := Prod.mk.inj (Outcome.ok.inj read)
    have bounds := Varint.read_bounds is
    omega
  next => simp at read
  next => simp at read

theorem protoReadLenDelim_advances {buf data : List UInt8} {pos stop : Nat}
    (read : protoReadLenDelim buf pos = .ok (data, stop)) : pos < stop := by
  unfold protoReadLenDelim at read
  split at read
  next len middle is =>
    have before := protoReadVarint_advances is
    simp only at read
    split_ifs at read with long wrapped
    obtain ⟨-, rfl⟩ := Prod.mk.inj (Outcome.ok.inj read)
    omega
  next => simp at read
  next => simp at read
  next => simp at read

theorem protoReadVarint_ends (buf : List UInt8) (pos : Nat) : protoReadVarint buf pos ≠ .hang := by
  unfold protoReadVarint
  split <;> simp

theorem protoReadLenDelim_ends (buf : List UInt8) (pos : Nat) :
    protoReadLenDelim buf pos ≠ .hang := by
  have varint := protoReadVarint_ends buf pos
  unfold protoReadLenDelim
  split
  next => simp only; split_ifs <;> simp
  next => simp
  next => simp
  next is => exact absurd is varint

/-- A step that goes on or returns. -/
def Ends (pos : Nat) : Step (Nat × CommandEnvelope) (Outcome CommandEnvelope) → Prop
  | .next (after, _) => pos < after
  | .done result => result ≠ .hang

theorem orReturn_ends {A : Type} {pos : Nat} {read : Outcome A}
    {go : A → Step (Nat × CommandEnvelope) (Outcome CommandEnvelope)} (ends : read ≠ .hang)
    (later : ∀ value, read = .ok value → Ends pos (go value)) :
    Ends pos (orReturn read go) := by
  cases read with
  | ok value => exact later value rfl
  | err message => simp [orReturn, Ends]
  | panic => simp [orReturn, Ends]
  | hang => exact absurd rfl ends

theorem finishCommandEnvelope_ends (env : CommandEnvelope) :
    finishCommandEnvelope env ≠ .hang := by
  unfold finishCommandEnvelope
  split_ifs <;> simp

theorem decodeCommandEnvelopeStep_ends (buf : List UInt8) (pos : Nat) (env : CommandEnvelope) :
    Ends pos (decodeCommandEnvelopeStep buf (pos, env)) := by
  rw [decodeCommandEnvelopeStep]
  by_cases inside : pos < buf.length
  · rw [if_pos inside]
    refine orReturn_ends (protoReadVarint_ends buf pos) ?_
    rintro ⟨tag, middle⟩ is
    have before := protoReadVarint_advances is
    simp only
    split
    next =>
      refine orReturn_ends (protoReadVarint_ends buf middle) ?_
      rintro ⟨value, after⟩ read
      exact before.trans (protoReadVarint_advances read)
    next => exact Nat.lt_add_right 8 before
    next =>
      refine orReturn_ends (protoReadLenDelim_ends buf middle) ?_
      rintro ⟨data, after⟩ read
      exact before.trans (protoReadLenDelim_advances read)
    next => exact Nat.lt_add_right 4 before
    next => exact finishCommandEnvelope_ends env
  · rw [if_neg inside]
    exact finishCommandEnvelope_ends env

theorem decodeCommandEnvelopeStep_shrinks {buf : List UInt8} {state later : Nat × CommandEnvelope}
    (going : decodeCommandEnvelopeStep buf state = .next later) :
    buf.length - later.1 < buf.length - state.1 := by
  have ahead : Ends state.1 (decodeCommandEnvelopeStep buf state) :=
    decodeCommandEnvelopeStep_ends buf state.1 state.2
  rw [going] at ahead
  have inside : state.1 < buf.length := by
    by_contra outside
    rw [decodeCommandEnvelopeStep, if_neg outside] at going
    cases going
  have ahead : state.1 < later.1 := ahead
  omega

theorem decodeCommandEnvelope_ends (buf : List UInt8) : decodeCommandEnvelope buf ≠ .hang := by
  have ends : ∃ result, loop (decodeCommandEnvelopeStep buf) (buf.length + 1)
      (0, emptyCommandEnvelope) = some result ∧ result ≠ .hang := by
    refine loop_ends (fun state => buf.length - state.1)
      (fun _ _ going => decodeCommandEnvelopeStep_shrinks going) ?_ (by simp)
    rintro ⟨pos, env⟩ result step
    have ahead := decodeCommandEnvelopeStep_ends buf pos env
    rwa [step] at ahead
  obtain ⟨result, ran, ended⟩ := ends
  rw [decodeCommandEnvelope, ran]
  exact ended

theorem receiveCommandsLoop_accepts (payload : List UInt8) :
    receiveCommandsLoop.accepts payload ↔ decodeCommandEnvelope payload ≠ .panic := by
  have ends := decodeCommandEnvelope_ends payload
  rw [Frames.Reader.accepts_iff]
  show (∃ value, receiveCommand payload = .ok value) ↔ _
  unfold receiveCommand
  cases is : decodeCommandEnvelope payload with
  | ok cmd => simp
  | err message => simp
  | panic => simp
  | hang => exact absurd is ends

/-! ## Fields -/

def CommandEnvelope.apply (env : CommandEnvelope) (field : Field) : CommandEnvelope :=
  match field.payload with
  | .varint value => CommandEnvelope.setVarint env field.number value
  | .delimited data => CommandEnvelope.setDelimited env field.number data
  | .fixed64 _ => env
  | .fixed32 _ => env

section Fields

variable {buf : List UInt8} {pos length : Nat} {field : Field}

def applyCast (env : CommandEnvelope) (field : Field) : CommandEnvelope :=
  CommandEnvelope.apply env field.castNumber

theorem decodeCommandEnvelopeStep_scan (held : buf.length < 2 ^ 63) (env : CommandEnvelope)
    (inside : pos < buf.length) (scanned : scanField (buf.drop pos) = some (field, length)) :
    decodeCommandEnvelopeStep buf (pos, env) = .next (pos + length, applyCast env field) := by
  obtain ⟨number, payload⟩ := field
  obtain ⟨tag, tagLength, size, read, same, kind, content, rfl⟩ := scanField_content32 scanned
  have tagged : protoReadVarint buf pos = .ok (tag, pos + tagLength) := by
    rw [protoReadVarint, read]
  rw [decodeCommandEnvelopeStep, if_pos inside, tagged]
  simp only [orReturn, same, kind]
  cases content with
  | varint value =>
    simp only [Payload.wireType, protoReadVarint, value, applyCast, Field.castNumber,
      CommandEnvelope.apply, Nat.add_assoc]
  | fixed64 _ =>
    simp only [Payload.wireType, applyCast, Field.castNumber, CommandEnvelope.apply, Nat.add_assoc]
  | @delimited count countLength value whole =>
    have unwrapped : (pos + tagLength + countLength + count.toNat) % 2 ^ 64 =
        pos + tagLength + countLength + count.toNat := Nat.mod_eq_of_lt (by omega)
    have counted : protoReadVarint buf (pos + tagLength) =
        .ok (count, pos + tagLength + countLength) := by rw [protoReadVarint, value]
    simp only [Payload.wireType, protoReadLenDelim, counted, unwrapped]
    rw [if_neg (by omega), if_neg (by omega)]
    simp only [applyCast, Field.castNumber, CommandEnvelope.apply, Nat.add_assoc]
  | fixed32 _ =>
    simp only [Payload.wireType, applyCast, Field.castNumber, CommandEnvelope.apply, Nat.add_assoc]

end Fields

theorem decodeCommandEnvelope_encode (fields : List Field)
    (good : ∀ field ∈ fields, field.number < 2 ^ 29) (held : (encode fields).length < 2 ^ 63) :
    decodeCommandEnvelope (encode fields) =
      finishCommandEnvelope (fields.foldl CommandEnvelope.apply emptyCommandEnvelope) := by
  have walk := decode_fields (decodeCommandEnvelopeStep (encode fields)) Prod.mk
    CommandEnvelope.apply finishCommandEnvelope fields emptyCommandEnvelope (fun _ small => small)
    (fun _ _ _ env small at_field => by
      have scanned := decodeCommandEnvelopeStep_scan held env at_field.inside (at_field.scans held)
      rwa [applyCast, Field.castNumber_small small] at scanned)
    (fun env => by simp [decodeCommandEnvelopeStep]) good
  exact congrArg (Option.getD · _) walk

end SystemScale.Agent

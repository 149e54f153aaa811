import SystemScale.Lib.Bytes
import SystemScale.Lib.Varint

set_option autoImplicit false

/-!
# Protobuf wire format

A message is a sequence of tagged fields. `loop_fields` is the rule for a decoder that walks a
buffer field by field, whatever it keeps of them and whenever it stops.
-/

namespace Wire

open Bytes Varint

/-- How a function of the modelled programs ends: a value, a returned error, an out-of-range
slice, or never. -/
inductive Outcome (α : Type) where
  | ok (value : α)
  | err (message : String)
  | panic
  | hang
  deriving DecidableEq

def Outcome.bind {α β : Type} (outcome : Outcome α) (next : α → Outcome β) : Outcome β :=
  match outcome with
  | .ok value => next value
  | .err message => .err message
  | .panic => .panic
  | .hang => .hang

/-! ## Loops -/

inductive Step (S R : Type) where
  | next (state : S)
  | done (result : R)

def loop {S R : Type} (body : S → Step S R) : Nat → S → Option R
  | 0, _ => none
  | fuel + 1, state =>
    match body state with
    | .next state => loop body fuel state
    | .done result => some result

theorem loop_next {S R : Type} {body : S → Step S R} {state next : S} (fuel : Nat)
    (step : body state = .next next) : loop body (fuel + 1) state = loop body fuel next := by
  rw [loop, step]

theorem loop_done {S R : Type} {body : S → Step S R} {state : S} {result : R} (fuel : Nat)
    (step : body state = .done result) : loop body (fuel + 1) state = some result := by
  rw [loop, step]

-- A loop ends, with a result its body can return, if something gets less with every round.
theorem loop_ends {S R : Type} {body : S → Step S R} {P : R → Prop} (size : S → Nat)
    (shrinks : ∀ state next, body state = .next next → size next < size state)
    (returns : ∀ state result, body state = .done result → P result) {fuel : Nat} {state : S}
    (enough : size state < fuel) : ∃ result, loop body fuel state = some result ∧ P result := by
  induction fuel generalizing state with
  | zero => omega
  | succ fuel ih =>
    cases step : body state with
    | next later =>
      have smaller := shrinks state later step
      rw [loop_next fuel step]
      exact ih (by omega)
    | done result => exact ⟨result, loop_done fuel step, returns state result step⟩

-- Two loops whose rounds go alike end alike.
theorem loop_related {S T R Q : Type} {first : S → Step S R} {second : T → Step T Q}
    {related : S → T → Prop} {same : R → Q → Prop}
    (rounds : ∀ state other, related state other →
      (∃ next later, first state = .next next ∧ second other = .next later ∧ related next later) ∨
        ∃ result answer, first state = .done result ∧ second other = .done answer ∧
          same result answer)
    (fuel : Nat) {state : S} {other : T} (start : related state other) :
    loop first fuel state = none ∧ loop second fuel other = none ∨
      ∃ result answer, loop first fuel state = some result ∧ loop second fuel other = some answer ∧
        same result answer := by
  induction fuel generalizing state other with
  | zero => exact .inl ⟨rfl, rfl⟩
  | succ fuel ih =>
    rcases rounds state other start with ⟨next, later, one, two, kept⟩ | ⟨result, answer, one, two, ends⟩
    · rw [loop_next fuel one, loop_next fuel two]
      exact ih kept
    · exact .inr ⟨result, answer, loop_done fuel one, loop_done fuel two, ends⟩

/-! ## Fields -/

inductive Payload where
  | varint (word : UInt64)
  | fixed64 (bits : UInt64)
  | delimited (data : List UInt8)
  | fixed32 (bits : UInt32)

def Payload.wireType : Payload → Nat
  | .varint _ => 0
  | .fixed64 _ => 1
  | .delimited _ => 2
  | .fixed32 _ => 5

def Payload.bytes : Payload → List UInt8
  | .varint word => Varint.varint word.toNat
  | .fixed64 bits => leBytes 8 bits.toNat
  | .delimited data => Varint.varint data.length ++ data
  | .fixed32 bits => leBytes 4 bits.toNat

structure Field where
  number : Nat
  payload : Payload

def Field.tag (field : Field) : Nat := field.number * 8 + field.payload.wireType

def Field.bytes (field : Field) : List UInt8 :=
  Varint.varint field.tag ++ field.payload.bytes

def encode (fields : List Field) : List UInt8 := fields.flatMap Field.bytes

@[simp] theorem encode_nil : encode [] = [] := rfl

@[simp] theorem encode_cons (field : Field) (rest : List Field) :
    encode (field :: rest) = field.bytes ++ encode rest := rfl

@[simp] theorem encode_append (first second : List Field) :
    encode (first ++ second) = encode first ++ encode second := by
  simp [encode]

theorem Payload.wireType_lt (payload : Payload) : payload.wireType < 8 := by
  cases payload <;> simp [Payload.wireType]

-- A tag as writers compute it.
theorem tag_word (number wire : Nat) (small : number < 32) (code : wire < 8) :
    (((UInt32.ofNat number <<< 3) ||| UInt32.ofNat wire).toUInt64).toNat = number * 8 + wire := by
  have table : ∀ number < 32, ∀ wire < 8,
      (((UInt32.ofNat number <<< 3) ||| UInt32.ofNat wire).toUInt64).toNat = number * 8 + wire := by
    decide +kernel
  exact table number small wire code

theorem Field.length_bytes_pos (field : Field) : 0 < field.bytes.length := by
  have := length_varint_pos field.tag
  simp [Field.bytes]
  omega

theorem length_le_encode (fields : List Field) : fields.length ≤ (encode fields).length := by
  induction fields with
  | nil => simp
  | cons field rest ih =>
    have := field.length_bytes_pos
    simp
    omega

/-- More than the payload takes, for sizes to be added up. -/
def Payload.room : Payload → Nat
  | .delimited data => data.length + 10
  | _ => 10

theorem Field.length_bytes_le {field : Field} (small : field.number < 2048)
    (held : field.payload.room < 2 ^ 64) : field.bytes.length ≤ field.payload.room + 2 := by
  have code := field.payload.wireType_lt
  have two : (Varint.varint field.tag).length ≤ 2 :=
    length_varint_le 1 field.tag (by simp [Field.tag]; omega)
  rw [Field.bytes, List.length_append]
  cases is : field.payload with
  | varint word =>
    have word := length_varint_word word.toNat_lt
    simp only [Payload.bytes, Payload.room]
    omega
  | fixed64 bits =>
    simp only [Payload.bytes, Payload.room, length_leBytes]
    omega
  | delimited data =>
    rw [is, Payload.room] at held
    have word : (Varint.varint data.length).length ≤ 10 := length_varint_word (by omega)
    simp only [Payload.bytes, Payload.room, List.length_append]
    omega
  | fixed32 bits =>
    simp only [Payload.bytes, Payload.room, length_leBytes]
    omega

theorem length_encode_le (fields : List Field)
    (small : ∀ field ∈ fields, field.number < 2048 ∧ field.payload.room < 2 ^ 64) :
    (encode fields).length ≤ (fields.map fun field => field.payload.room + 2).sum := by
  induction fields with
  | nil => simp
  | cons field rest ih =>
    have later := ih fun other member => small other (List.mem_cons_of_mem _ member)
    obtain ⟨number, held⟩ := small field (by simp)
    have first := field.length_bytes_le number held
    simp only [encode_cons, List.length_append, List.map_cons, List.sum_cons]
    omega

/-! ## A field inside a buffer -/

def Field.tagLength (field : Field) : Nat := (Varint.varint field.tag).length

theorem Field.length_bytes (field : Field) :
    field.bytes.length = field.tagLength + field.payload.bytes.length := by
  simp [Field.bytes, Field.tagLength]

/-- `field` stands in `data` at `start`, and `after` follows it. -/
structure FieldAt (data : List UInt8) (start : Nat) (field : Field) (after : List UInt8) :
    Prop where
  small : field.number < 2 ^ 29
  here : data.drop start = field.bytes ++ after
  ends : start + field.bytes.length ≤ data.length

namespace FieldAt

variable {data after : List UInt8} {start : Nat} {field : Field}

theorem of_split {before : List UInt8} (small : field.number < 2 ^ 29)
    (split : data = before ++ (field.bytes ++ after)) :
    FieldAt data before.length field after where
  small := small
  here := by rw [split, List.drop_left]
  ends := by simp [split]

theorem inside (at_field : FieldAt data start field after) : start < data.length := by
  have := field.length_bytes_pos
  have := at_field.ends
  omega

theorem read_tag (at_field : FieldAt data start field after) :
    Varint.read (data.drop start) = .value (UInt64.ofNat field.tag) field.tagLength := by
  have payload := field.payload.wireType_lt
  have small := at_field.small
  have word : (UInt64.ofNat field.tag).toNat = field.tag := word_ofNat (by
    unfold Field.tag
    omega)
  have read := read_varint (UInt64.ofNat field.tag) (field.payload.bytes ++ after)
  rw [word] at read
  rw [at_field.here, Field.bytes, List.append_assoc, read, Field.tagLength]

theorem number (at_field : FieldAt data start field after) :
    (UInt64.ofNat field.tag >>> 3).toNat = field.number := by
  have payload := field.payload.wireType_lt
  have small := at_field.small
  simp [Field.tag, Nat.shiftRight_eq_div_pow]
  omega

theorem wireType (_ : FieldAt data start field after) :
    (UInt64.ofNat field.tag &&& 0x7).toNat = field.payload.wireType := by
  have payload := field.payload.wireType_lt
  have mask : (UInt64.ofNat field.tag).toNat &&& 7 = (UInt64.ofNat field.tag).toNat % 8 :=
    Nat.and_two_pow_sub_one_eq_mod _ 3
  have constant : (0x7 : UInt64).toNat = 7 := rfl
  rw [UInt64.toNat_and, constant, mask]
  simp [Field.tag]
  omega

theorem drop_tag (at_field : FieldAt data start field after) :
    data.drop (start + field.tagLength) = field.payload.bytes ++ after := by
  rw [← List.drop_drop, at_field.here, Field.bytes, List.append_assoc, Field.tagLength,
    List.drop_left]

theorem read_word {word : UInt64} (at_field : FieldAt data start field after)
    (is : field.payload = .varint word) :
    Varint.read (data.drop (start + field.tagLength)) =
      .value word (Varint.varint word.toNat).length := by
  rw [at_field.drop_tag, is, Payload.bytes, read_varint]

theorem read_length {part : List UInt8} (at_field : FieldAt data start field after)
    (is : field.payload = .delimited part) (held : part.length < 2 ^ 64) :
    Varint.read (data.drop (start + field.tagLength)) =
      .value (UInt64.ofNat part.length) (Varint.varint part.length).length := by
  have word := word_ofNat held
  have read := read_varint (UInt64.ofNat part.length) (part ++ after)
  rw [word] at read
  rw [at_field.drop_tag, is, Payload.bytes, List.append_assoc, read]

theorem drop_length {part : List UInt8} (at_field : FieldAt data start field after)
    (is : field.payload = .delimited part) :
    data.drop (start + field.tagLength + (Varint.varint part.length).length) =
      part ++ after := by
  rw [← List.drop_drop, at_field.drop_tag, is, Payload.bytes, List.append_assoc, List.drop_left]

theorem part_ends {part : List UInt8} (_ : FieldAt data start field after)
    (is : field.payload = .delimited part) :
    start + field.bytes.length =
      start + field.tagLength + (Varint.varint part.length).length + part.length := by
  rw [field.length_bytes, is]
  simp [Payload.bytes]
  omega

theorem read_fixed64 {bits : UInt64} (at_field : FieldAt data start field after)
    (is : field.payload = .fixed64 bits) :
    UInt64.ofNat (leValue (slice data (start + field.tagLength) 8)) = bits := by
  have width : (leBytes 8 bits.toNat).length = 8 := length_leBytes _ _
  have bounded : bits.toNat < 256 ^ 8 := bits.toNat_lt
  rw [slice, at_field.drop_tag, is, Payload.bytes, List.take_left' width,
    leValue_leBytes_of_lt bounded, UInt64.ofNat_toNat]

theorem read_fixed32 {bits : UInt32} (at_field : FieldAt data start field after)
    (is : field.payload = .fixed32 bits) :
    UInt32.ofNat (leValue (slice data (start + field.tagLength) 4)) = bits := by
  have width : (leBytes 4 bits.toNat).length = 4 := length_leBytes _ _
  have bounded : bits.toNat < 256 ^ 4 := bits.toNat_lt
  rw [slice, at_field.drop_tag, is, Payload.bytes, List.take_left' width,
    leValue_leBytes_of_lt bounded, UInt32.ofNat_toNat]

end FieldAt

/-! ## Walking a message -/

section Walk

variable {Env : Type}

def foldUntil (stop : Env → Bool) (apply : Env → Field → Env) : Env → List Field → Env
  | env, [] => env
  | env, field :: rest =>
    if stop (apply env field) then apply env field
    else foldUntil stop apply (apply env field) rest

theorem foldUntil_never (apply : Env → Field → Env) (env : Env) (fields : List Field) :
    foldUntil (fun _ => false) apply env fields = fields.foldl apply env := by
  induction fields generalizing env with
  | nil => rfl
  | cons field rest ih => simp [foldUntil, ih]

-- A decoder that consumes one field an iteration folds the fields of the message.
theorem loop_fields {S R : Type} (body : S → Step S R) (place : Nat → Env → S)
    (stop : Env → Bool) (apply : Env → Field → Env) (finish : Env → R) (data : List UInt8)
    {Good : Field → Prop} (numbered : ∀ field, Good field → field.number < 2 ^ 29)
    (field_step : ∀ start field after env, Good field → FieldAt data start field after →
      body (place start env) =
        if stop (apply env field) then .done (finish (apply env field))
        else .next (place (start + field.bytes.length) (apply env field)))
    (end_step : ∀ env, body (place data.length env) = .done (finish env))
    (before : List UInt8) (fields : List Field) (env : Env)
    (good : ∀ field ∈ fields, Good field) (split : data = before ++ encode fields)
    (fuel : Nat) (enough : fields.length < fuel) :
    loop body fuel (place before.length env) =
      some (finish (foldUntil stop apply env fields)) := by
  induction fields generalizing before env fuel with
  | nil =>
    obtain ⟨fuel, rfl⟩ : ∃ less, fuel = less + 1 := ⟨fuel - 1, by simp at enough; omega⟩
    have reached : data.length = before.length := by simp [split]
    rw [← reached]
    exact loop_done fuel (end_step env)
  | cons field rest ih =>
    obtain ⟨fuel, rfl⟩ : ∃ less, fuel = less + 1 := ⟨fuel - 1, by simp at enough; omega⟩
    have good_field := good field (by simp)
    have step := field_step before.length field (encode rest) env good_field
      (.of_split (numbered field good_field) split)
    by_cases stopped : stop (apply env field)
    · rw [if_pos stopped] at step
      rw [loop_done fuel step, foldUntil, if_pos stopped]
    · rw [if_neg stopped] at step
      have later := ih (before ++ field.bytes) (apply env field)
        (fun other member => good other (List.mem_cons_of_mem _ member))
        (by rw [split]; simp) fuel (by simp at enough; omega)
      rw [loop_next fuel step, foldUntil, if_neg stopped, ← later, List.length_append]

theorem decode_fields {S R : Type} (body : S → Step S R) (place : Nat → Env → S)
    (apply : Env → Field → Env) (finish : Env → R) (fields : List Field) (env : Env)
    {Good : Field → Prop} (numbered : ∀ field, Good field → field.number < 2 ^ 29)
    (field_step : ∀ start field after env, Good field →
      FieldAt (encode fields) start field after →
      body (place start env) = .next (place (start + field.bytes.length) (apply env field)))
    (end_step : ∀ env, body (place (encode fields).length env) = .done (finish env))
    (good : ∀ field ∈ fields, Good field) :
    loop body ((encode fields).length + 1) (place 0 env) =
      some (finish (fields.foldl apply env)) := by
  have walk := loop_fields body place (fun _ => false) apply finish (encode fields) numbered
    (fun start field after env good at_field => field_step start field after env good at_field)
    end_step [] fields env good rfl _ (Nat.lt_succ_of_le (length_le_encode fields))
  rwa [foldUntil_never] at walk

end Walk

end Wire

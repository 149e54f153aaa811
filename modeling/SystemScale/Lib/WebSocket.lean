import Mathlib.Logic.Relation
import SystemScale.Lib.Bytes

set_option autoImplicit false

/-!
# WebSocket frames

A message travels as frames with a length in one of three forms, masked or not. Pings and pongs may
stand between the frames of a message.
-/

namespace WebSocket

open Bytes

inductive Opcode where
  | continuation
  | text
  | binary
  | close
  | ping
  | pong
  deriving DecidableEq

def Opcode.code : Opcode → UInt8
  | .continuation => 0x0
  | .text => 0x1
  | .binary => 0x2
  | .close => 0x8
  | .ping => 0x9
  | .pong => 0xa

def Opcode.isControl (opcode : Opcode) : Prop :=
  opcode = .close ∨ opcode = .ping ∨ opcode = .pong

/-! ## Lengths and masks -/

inductive LengthForm where
  | short
  | medium
  | long

def LengthForm.Holds (length : Nat) : LengthForm → Prop
  | .short => length ≤ 125
  | .medium => length < 2 ^ 16
  | .long => length < 2 ^ 63

instance (length : Nat) (form : LengthForm) : Decidable (form.Holds length) :=
  match form with
  | .short => inferInstanceAs (Decidable (length ≤ 125))
  | .medium => inferInstanceAs (Decidable (length < 2 ^ 16))
  | .long => inferInstanceAs (Decidable (length < 2 ^ 63))

def LengthForm.code (length : Nat) : LengthForm → UInt8
  | .short => UInt8.ofNat length
  | .medium => 126
  | .long => 127

def LengthForm.extension (length : Nat) : LengthForm → List UInt8
  | .short => []
  | .medium => beBytes 2 length
  | .long => beBytes 8 length

/-- The byte at an index is masked with the key's byte at that index modulo four. -/
def xorKey (key payload : List UInt8) : List UInt8 :=
  payload.mapIdx fun index byte => byte ^^^ key.getD (index % 4) 0

@[simp] theorem length_xorKey (key payload : List UInt8) :
    (xorKey key payload).length = payload.length := by
  rw [xorKey, List.length_mapIdx]

theorem xorKey_xorKey (key payload : List UInt8) : xorKey key (xorKey key payload) = payload := by
  apply List.ext_getElem
  · simp
  · intro index _ _
    simp only [xorKey, List.getElem_mapIdx, UInt8.xor_assoc, UInt8.xor_self, UInt8.xor_zero]

/-! ## Frames -/

structure Frame where
  fin : Bool
  opcode : Opcode
  form : LengthForm
  mask : Option (Vector UInt8 4)
  payload : List UInt8
  holds : form.Holds payload.length
  /-- A control frame is short and is never a fragment. -/
  control : opcode.isControl → fin = true ∧ payload.length ≤ 125

def Frame.key (frame : Frame) : List UInt8 := (frame.mask.map Vector.toList).getD []

def Frame.body (frame : Frame) : List UInt8 :=
  if frame.mask.isSome then xorKey frame.key frame.payload else frame.payload

def Frame.first (frame : Frame) : UInt8 :=
  (if frame.fin then 0x80 else 0) ||| frame.opcode.code

def Frame.second (frame : Frame) : UInt8 :=
  (if frame.mask.isSome then 0x80 else 0) ||| frame.form.code frame.payload.length

def Frame.bytes (frame : Frame) : List UInt8 :=
  frame.first :: frame.second ::
    (frame.form.extension frame.payload.length ++ (frame.key ++ frame.body))

def encode (frames : List Frame) : List UInt8 := frames.flatMap Frame.bytes

/-! ## Messages -/

/-- The messages that frames carry, behind the fragments of one that has begun. -/
inductive Carries : Option (List UInt8) → List Frame → List (List UInt8) → Prop where
  | done : Carries none [] []
  | control {begun : Option (List UInt8)} {frame : Frame} {frames : List Frame}
      {messages : List (List UInt8)} (between : frame.opcode = .ping ∨ frame.opcode = .pong)
      (later : Carries begun frames messages) : Carries begun (frame :: frames) messages
  | whole {frame : Frame} {frames : List Frame} {messages : List (List UInt8)}
      (data : frame.opcode = .text ∨ frame.opcode = .binary) (fin : frame.fin = true)
      (later : Carries none frames messages) :
      Carries none (frame :: frames) (frame.payload :: messages)
  | first {frame : Frame} {frames : List Frame} {messages : List (List UInt8)}
      (data : frame.opcode = .text ∨ frame.opcode = .binary) (more : frame.fin = false)
      (later : Carries (some frame.payload) frames messages) :
      Carries none (frame :: frames) messages
  | next {begun : List UInt8} {frame : Frame} {frames : List Frame}
      {messages : List (List UInt8)} (continued : frame.opcode = .continuation)
      (more : frame.fin = false)
      (later : Carries (some (begun ++ frame.payload)) frames messages) :
      Carries (some begun) (frame :: frames) messages
  | last {begun : List UInt8} {frame : Frame} {frames : List Frame}
      {messages : List (List UInt8)} (continued : frame.opcode = .continuation)
      (fin : frame.fin = true) (later : Carries none frames messages) :
      Carries (some begun) (frame :: frames) ((begun ++ frame.payload) :: messages)

/-! ## What a header declares -/

structure Declared where
  fin : Bool
  opcode : UInt8
  key : Option (List UInt8)
  /-- The bytes of the header, its key included. -/
  size : Nat
  length : Nat

def width (code : UInt8) : Nat := if code = 126 then 2 else if code = 127 then 8 else 0

def keySize (masked : Bool) : Nat := if masked then 4 else 0

/-- The header at the front of the bytes, once it is there whole. -/
def declared : List UInt8 → Option Declared
  | first :: second :: rest =>
    let code := second &&& 0x7f
    let masked := second &&& 0x80 != 0
    if rest.length < width code + keySize masked then none
    else some
      { fin := first &&& 0x80 != 0
        opcode := first &&& 0x0f
        key := if masked then some ((rest.drop (width code)).take 4) else none
        size := 2 + (width code + keySize masked)
        length := if width code = 0 then code.toNat else beValue (rest.take (width code)) }
  | _ => none

/-- The bytes behind the first frame, when that has arrived whole. -/
def Declared.behind (header : Declared) (bytes : List UInt8) : List UInt8 :=
  bytes.drop (header.size + header.length)

/-- The payload that has arrived behind the header, without its mask. -/
def Declared.payload (header : Declared) (bytes : List UInt8) : List UInt8 :=
  let raw := (bytes.drop header.size).take header.length
  match header.key with
  | some key => xorKey key raw
  | none => raw

def Declared.Whole (header : Declared) (bytes : List UInt8) : Prop :=
  header.size + header.length ≤ bytes.length

theorem Declared.length_payload {header : Declared} {bytes : List UInt8}
    (whole : header.Whole bytes) : (header.payload bytes).length = header.length := by
  rw [Declared.Whole] at whole
  rw [Declared.payload]
  cases header.key <;> simp only [length_xorKey, List.length_take, List.length_drop] <;> omega

/-- The message goes on behind the frame. -/
def Declared.Continues (header : Declared) : Prop :=
  header.opcode = Opcode.ping.code ∨ header.opcode = Opcode.pong.code ∨
    (header.opcode ≠ Opcode.close.code ∧ header.fin = false)

/-- The bytes at the next frame of a message. -/
def Follows (bytes later : List UInt8) : Prop :=
  ∃ header, declared bytes = some header ∧ header.Whole bytes ∧ header.Continues ∧
    header.behind bytes = later

theorem follows_iff {bytes later : List UInt8} {header : Declared}
    (front : declared bytes = some header) :
    Follows bytes later ↔
      header.Whole bytes ∧ header.Continues ∧ header.behind bytes = later := by
  constructor
  · rintro ⟨other, is, follows⟩
    exact Option.some.inj (front.symm.trans is) ▸ follows
  · intro follows
    exact ⟨header, front, follows⟩

-- What holds at all frames of a message holds at the first one, and at all behind it.
theorem frames_iff {Good : List UInt8 → Prop} (bytes : List UInt8) :
    (∀ later, Relation.ReflTransGen Follows bytes later → Good later) ↔
      Good bytes ∧ ∀ next, Follows bytes next →
        ∀ later, Relation.ReflTransGen Follows next later → Good later := by
  constructor
  · intro all
    exact ⟨all bytes .refl, fun next step later reached => all later (reached.head step)⟩
  · rintro ⟨here, behind⟩ later reached
    rcases reached.cases_head with rfl | ⟨next, step, rest⟩
    · exact here
    · exact behind next step later rest

theorem declared_size {bytes : List UInt8} {header : Declared}
    (front : declared bytes = some header) : 2 ≤ header.size ∧ header.size ≤ bytes.length := by
  match bytes with
  | [] => simp [declared] at front
  | [_] => simp [declared] at front
  | first :: second :: rest =>
    simp only [declared] at front
    split_ifs at front with short <;>
    · obtain rfl := Option.some.inj front
      simp only [List.length_cons]
      omega

theorem declared_size_eq {first second : UInt8} {rest : List UInt8} {header : Declared}
    (front : declared (first :: second :: rest) = some header) :
    header.size = 2 + (width (second &&& 0x7f) + keySize (second &&& 0x80 != 0)) := by
  simp only [declared] at front
  split_ifs at front <;> exact (Option.some.inj front) ▸ rfl

theorem declared_length {bytes : List UInt8} {header : Declared}
    (front : declared bytes = some header) : header.length < 2 ^ 64 := by
  match bytes with
  | [] => simp [declared] at front
  | [_] => simp [declared] at front
  | first :: second :: rest =>
    have some_width : width (second &&& 0x7f) ≤ 8 := by
      rw [width]
      split_ifs <;> omega
    have value := beValue_lt (rest.take (width (second &&& 0x7f)))
    have bound : 256 ^ (rest.take (width (second &&& 0x7f))).length ≤ 256 ^ 8 :=
      Nat.pow_le_pow_right (by omega) ((List.length_take_le _ _).trans some_width)
    have code : (second &&& 0x7f).toNat < 2 ^ 8 := UInt8.toNat_lt _
    simp only [declared] at front
    split_ifs at front
    all_goals
      obtain rfl := Option.some.inj front
      simp only
      omega

/-- A control frame as it stands on the wire, without a mask. -/
structure ControlFrame (bytes : List UInt8) : Prop where
  first : ∃ opcode : Opcode, opcode.isControl ∧ bytes.getD 0 0 = 0x80 ||| opcode.code
  length : (bytes.getD 1 0).toNat + 2 = bytes.length
  short : (bytes.getD 1 0).toNat ≤ 125

/-! ## An encoded frame -/

def Frame.declaration (frame : Frame) : Declared where
  fin := frame.fin
  opcode := frame.opcode.code
  key := frame.mask.map Vector.toList
  size := 2 + (width (frame.form.code frame.payload.length) + keySize frame.mask.isSome)
  length := frame.payload.length

theorem seven_bits (masked : Bool) {code : UInt8} (low : code.toNat < 128) :
    ((if masked then 0x80 else 0) ||| code) &&& 0x7f = code ∧
      ((((if masked then 0x80 else 0) ||| code) &&& 0x80) != 0) = masked := by
  have all : ∀ number : Fin 128,
      ((if masked then 0x80 else 0) ||| UInt8.ofNat number) &&& 0x7f = UInt8.ofNat number ∧
        ((((if masked then 0x80 else 0) ||| UInt8.ofNat number) &&& 0x80) != 0) = masked := by
    cases masked <;> decide
  have this := all ⟨code.toNat, low⟩
  rwa [UInt8.ofNat_toNat] at this

theorem first_bits (frame : Frame) :
    ((frame.first &&& 0x80) != 0) = frame.fin ∧ frame.first &&& 0x0f = frame.opcode.code := by
  have all : ∀ (fin : Bool) (opcode : Opcode),
      ((((if fin then 0x80 else 0) ||| opcode.code) &&& 0x80) != 0) = fin ∧
        ((if fin then 0x80 else 0) ||| opcode.code) &&& 0x0f = opcode.code := by
    intro fin opcode
    cases fin <;> cases opcode <;> decide
  exact all frame.fin frame.opcode

theorem LengthForm.code_low {form : LengthForm} {length : Nat} (holds : form.Holds length) :
    (form.code length).toNat < 128 := by
  cases form with
  | short =>
    have small : length ≤ 125 := holds
    rw [LengthForm.code, UInt8.toNat_ofNat']
    omega
  | medium => exact (by decide : (126 : UInt8).toNat < 128)
  | long => exact (by decide : (127 : UInt8).toNat < 128)

theorem LengthForm.length_extension {form : LengthForm} {length : Nat}
    (holds : form.Holds length) :
    (form.extension length).length = width (form.code length) := by
  cases form with
  | short =>
    have small : length ≤ 125 := holds
    have value : (UInt8.ofNat length).toNat = length := by
      rw [UInt8.toNat_ofNat']
      omega
    have plain : UInt8.ofNat length ≠ 126 ∧ UInt8.ofNat length ≠ 127 := by
      constructor <;> intro same <;> rw [same] at value
      · have : (126 : UInt8).toNat = 126 := rfl
        omega
      · have : (127 : UInt8).toNat = 127 := rfl
        omega
    rw [LengthForm.extension, LengthForm.code, width, if_neg plain.1, if_neg plain.2]
    rfl
  | medium => rfl
  | long => rfl

-- The length that a reader finds in any of the three forms.
theorem LengthForm.value {form : LengthForm} {length : Nat} (holds : form.Holds length)
    (rest : List UInt8) :
    (if width (form.code length) = 0 then (form.code length).toNat
      else beValue ((form.extension length ++ rest).take (width (form.code length)))) = length := by
  rw [← form.length_extension holds, List.take_left]
  cases form with
  | short =>
    have small : length ≤ 125 := holds
    rw [LengthForm.extension, if_pos List.length_nil, LengthForm.code, UInt8.toNat_ofNat']
    omega
  | medium =>
    have small : length < 2 ^ 16 := holds
    rw [LengthForm.extension, if_neg (by simp), beValue_beBytes_of_lt (by omega)]
  | long =>
    have small : length < 2 ^ 63 := holds
    rw [LengthForm.extension, if_neg (by simp), beValue_beBytes_of_lt (by omega)]

theorem Frame.length_key (frame : Frame) : frame.key.length = keySize frame.mask.isSome := by
  cases same : frame.mask with
  | none => simp [Frame.key, same, keySize]
  | some key => simp [Frame.key, same, keySize]

@[simp] theorem Frame.length_body (frame : Frame) : frame.body.length = frame.payload.length := by
  rw [Frame.body]
  split_ifs <;> simp

theorem Frame.declared_bytes (frame : Frame) (rest : List UInt8) :
    declared (frame.bytes ++ rest) = some frame.declaration := by
  obtain ⟨code, masked⟩ := seven_bits frame.mask.isSome (frame.form.code_low frame.holds)
  obtain ⟨fin, opcode⟩ := first_bits frame
  have extension := frame.form.length_extension frame.holds
  simp only [Frame.bytes, List.cons_append, declared, Frame.second, code, masked, fin, opcode,
    List.append_assoc]
  rw [if_neg (by simp only [List.length_append, frame.length_key, extension]; omega),
    LengthForm.value frame.holds, ← extension, List.drop_left, extension]
  refine congrArg some ?_
  rw [Frame.declaration, Declared.mk.injEq]
  refine ⟨rfl, rfl, ?_, rfl, rfl⟩
  cases same : frame.mask with
  | none => rfl
  | some key =>
    have four : ∀ more, (key.toList ++ more).take 4 = key.toList := fun more => by
      rw [List.take_append_of_le_length (by simp), List.take_of_length_le (by simp)]
    simp [Frame.key, same, four]

theorem Frame.drop_header (frame : Frame) (rest : List UInt8) :
    (frame.bytes ++ rest).drop frame.declaration.size = frame.body ++ rest := by
  have front : frame.declaration.size = (frame.first :: frame.second ::
      (frame.form.extension frame.payload.length ++ frame.key)).length := by
    simp only [Frame.declaration, List.length_cons, List.length_append, frame.length_key,
      frame.form.length_extension frame.holds]
    omega
  have parts : frame.bytes ++ rest = (frame.first :: frame.second ::
      (frame.form.extension frame.payload.length ++ frame.key)) ++ (frame.body ++ rest) := by
    simp [Frame.bytes]
  rw [parts, front, List.drop_left]

theorem Frame.payload_bytes (frame : Frame) (rest : List UInt8) :
    frame.declaration.payload (frame.bytes ++ rest) = frame.payload := by
  have raw : (frame.body ++ rest).take frame.declaration.length = frame.body :=
    List.take_left' frame.length_body
  rw [Declared.payload, frame.drop_header, raw]
  cases same : frame.mask with
  | none => simp [Frame.declaration, Frame.body, same]
  | some key => simp [Frame.declaration, Frame.body, Frame.key, same, xorKey_xorKey]

theorem Frame.behind_bytes (frame : Frame) (rest : List UInt8) :
    frame.declaration.behind (frame.bytes ++ rest) = rest := by
  rw [Declared.behind, ← List.drop_drop, frame.drop_header]
  exact List.drop_left' frame.length_body

theorem Frame.length_bytes (frame : Frame) :
    frame.bytes.length = frame.declaration.size + frame.declaration.length := by
  change _ = _ + frame.payload.length
  have drop := congrArg List.length (frame.drop_header [])
  have size := (declared_size (frame.declared_bytes [])).2
  simp only [List.length_drop, List.append_nil, Frame.length_body] at drop size
  omega

theorem Frame.whole_bytes (frame : Frame) (rest : List UInt8) :
    frame.declaration.Whole (frame.bytes ++ rest) := by
  rw [Declared.Whole, List.length_append, frame.length_bytes]
  omega

end WebSocket

import SystemScale.Lib.Float
import SystemScale.Lib.Frames
import SystemScale.Lib.Runs
import SystemScale.Agent.AdapterTrait

set_option autoImplicit false

/-!
# A connection of the custom-unix adapter

`handle_connection` reads frames in one branch of a `select!` and sends commands in the other. The
branch that loses is dropped, with what it has read. `usize` has 64 bits and its addition wraps.
-/

namespace SystemScale.Agent

open AdapterTrait Wire Bytes Frames Runs

/-! ## partial_decode_envelope -/

/-- What is read of a raw frame; `payload` is all of it. -/
structure PartialEnvelope where
  vehicleId : String
  timestampNs : UInt64
  streamType : StreamType
  payload : List UInt8
  lat : UInt64
  lon : UInt64
  alt : UInt32

def readVarint (data : List UInt8) : UInt64 × Nat :=
  match Varint.read data with
  | .value word length => (word, length)
  | .truncated => (0, 0)
  | .overflow => (0, 0)

def rawStreamType (value : UInt64) : StreamType :=
  if value = 2 then .event
  else if value = 3 then .sensor
  else if value = 4 then .videoMeta
  else if value = 5 then .log
  else .telemetry

def f32At (data : List UInt8) (pos : Nat) : UInt32 := UInt32.ofNat (leValue (slice data pos 4))

def PartialEnvelope.setFloat (env : PartialEnvelope) (field : Nat) (bits : UInt32) :
    PartialEnvelope :=
  match field with
  | 5 => { env with lat := Binary.widen bits }
  | 6 => { env with lon := Binary.widen bits }
  | _ => { env with alt := bits }

def PartialEnvelope.setVarint (env : PartialEnvelope) (field : Nat) (value : UInt64) :
    PartialEnvelope :=
  match field with
  | 2 => { env with timestampNs := value }
  | 3 => { env with streamType := rawStreamType value }
  | _ => env

def partialDecodeStep (data : List UInt8) :
    Nat × PartialEnvelope → Step (Nat × PartialEnvelope) (Outcome PartialEnvelope)
  | (pos, env) =>
    if pos < data.length then
      let (tag, n) := readVarint (data.drop pos)
      if n = 0 then .done (.ok env)
      else
        let pos := pos + n
        let field := (tag >>> 3).toUInt32.toNat
        match (tag &&& 0x7).toNat with
        | 0 =>
          let (value, n2) := readVarint (data.drop pos)
          .next (pos + n2, env.setVarint field value)
        | 1 => .next (pos + 8, env)
        | 2 =>
          let (len, n2) := readVarint (data.drop pos)
          let pos := pos + n2
          let stop := (pos + len.toNat) % 2 ^ 64
          if field = 1 then
            if stop ≤ data.length then
              if pos ≤ stop then
                .next (stop, { env with vehicleId := Utf8.lossy (slice data pos len.toNat) })
              else .done .panic
            -- The content is read as fields.
            else .next (pos, env)
          else .next (stop, env)
        | 5 =>
          if field = 5 ∨ field = 6 ∨ field = 7 then
            if pos + 4 ≤ data.length then .next (pos + 4, env.setFloat field (f32At data pos))
            else .next (pos, env)
          else .next (pos + 4, env)
        | _ => .done (.ok env)
    else .done (.ok env)

def emptyEnvelope (data : List UInt8) (defaultVehicleId : String) (now : UInt64) : PartialEnvelope :=
  ⟨defaultVehicleId, now, .telemetry, data, 0, 0, 0⟩

-- A position that comes back comes back for ever: more rounds than positions never end.
def partialDecodeEnvelope (data : List UInt8) (defaultVehicleId : String) (now : UInt64) :
    Outcome PartialEnvelope :=
  (loop (partialDecodeStep data) (data.length + 1) (0, emptyEnvelope data defaultVehicleId now)).getD
    .hang

/-- The two handlers: one that fails takes the connection with it. -/
def handleFrame (payload : List UInt8) (defaultVehicleId : String) (now : UInt64) : Outcome Unit :=
  -- `handle_json_frame` returns, whatever the JSON is.
  if payload.head? = some 0x7B then .ok ()
  else (partialDecodeEnvelope payload defaultVehicleId now).bind fun _ => .ok ()

/-- What becomes of a raw frame does not depend on what was read from it. -/
def Alike (first second : Outcome PartialEnvelope) : Prop :=
  (∃ env other, first = .ok env ∧ second = .ok other) ∨ first = .panic ∧ second = .panic

theorem partialDecodeStep_alike (data : List UInt8) (pos : Nat) (env other : PartialEnvelope) :
    (∃ next later, partialDecodeStep data (pos, env) = .next next ∧
        partialDecodeStep data (pos, other) = .next later ∧ next.1 = later.1) ∨
      ∃ result answer, partialDecodeStep data (pos, env) = .done result ∧
        partialDecodeStep data (pos, other) = .done answer ∧ Alike result answer := by
  have returns : Alike (.ok env) (.ok other) := .inl ⟨env, other, rfl, rfl⟩
  have panics : Alike .panic .panic := .inr ⟨rfl, rfl⟩
  unfold partialDecodeStep
  by_cases inside : pos < data.length
  · simp only [if_pos inside]
    by_cases stop : (readVarint (data.drop pos)).2 = 0
    · simp only [if_pos stop]
      exact .inr ⟨_, _, rfl, rfl, returns⟩
    · simp only [if_neg stop]
      split
      next => exact .inl ⟨_, _, rfl, rfl, rfl⟩
      next => exact .inl ⟨_, _, rfl, rfl, rfl⟩
      next =>
        split_ifs
        · exact .inl ⟨_, _, rfl, rfl, rfl⟩
        · exact .inr ⟨_, _, rfl, rfl, panics⟩
        · exact .inl ⟨_, _, rfl, rfl, rfl⟩
        · exact .inl ⟨_, _, rfl, rfl, rfl⟩
      next => split_ifs <;> exact .inl ⟨_, _, rfl, rfl, rfl⟩
      next => exact .inr ⟨_, _, rfl, rfl, returns⟩
  · simp only [if_neg inside]
    exact .inr ⟨_, _, rfl, rfl, returns⟩

theorem partialDecodeEnvelope_alike (data : List UInt8) (vehicleId other : String)
    (now later : UInt64) :
    Alike (partialDecodeEnvelope data vehicleId now) (partialDecodeEnvelope data other later) ∨
      partialDecodeEnvelope data vehicleId now = .hang ∧
        partialDecodeEnvelope data other later = .hang := by
  have rounds (state read : Nat × PartialEnvelope) (same : state.1 = read.1) :
      (∃ next later, partialDecodeStep data state = .next next ∧
          partialDecodeStep data read = .next later ∧ next.1 = later.1) ∨
        ∃ result answer, partialDecodeStep data state = .done result ∧
          partialDecodeStep data read = .done answer ∧ Alike result answer := by
    obtain ⟨pos, env⟩ := state
    obtain ⟨_, env'⟩ := read
    obtain rfl := same
    exact partialDecodeStep_alike data pos env env'
  have start : (0, emptyEnvelope data vehicleId now).1 = (0, emptyEnvelope data other later).1 := rfl
  unfold partialDecodeEnvelope
  rcases loop_related rounds (data.length + 1) start with ⟨one, two⟩ | ⟨result, answer, one, two, alike⟩
  · rw [one, two]
    exact .inr ⟨rfl, rfl⟩
  · rw [one, two]
    exact .inl alike

def survives (payload : List UInt8) : Bool :=
  match handleFrame payload "" 0 with
  | .ok _ => true
  | _ => false

theorem handleFrame_ok (payload : List UInt8) (vehicleId : String) (now : UInt64) :
    handleFrame payload vehicleId now = .ok () ↔ survives payload = true := by
  unfold survives handleFrame
  split_ifs
  · simp
  · rcases partialDecodeEnvelope_alike payload vehicleId "" now 0 with
      (⟨env, other, one, two⟩ | ⟨one, two⟩) | ⟨one, two⟩ <;>
      simp [one, two, Outcome.bind]

/-! ## handle_connection -/

inductive ReadPhase where
  -- In the select: what `read_exact` has of `len_buf`.
  | lenBuf (got : List UInt8)
  | payload (len : Nat) (got : List UInt8)
  -- The handler has returned, or a body's handler has not.
  | stopped

/-- `written` and `lost` are no part of the program: all that the client wrote, and how many bytes
of it were read or dropped without being handed on. -/
structure UnixConnection where
  vehicleId : String
  written : List UInt8
  unread : List UInt8
  phase : ReadPhase
  handed : List (List UInt8)
  lost : Nat
  closed : Bool

inductive UnixConnection.Action where
  | arrive (bytes : List UInt8)
  | close
  | read (count : Nat) (now : UInt64)
  -- `read_exact` fails at the end of the stream.
  | readFails
  -- A command is sent to the client, or some were missed.
  | command
  | commandFails

def ReadPhase.held : ReadPhase → List UInt8
  | .lenBuf got => got
  | .payload len got => leBytes 4 len ++ got
  | .stopped => []

namespace UnixConnection

def start (vehicleId : String) : UnixConnection := ⟨vehicleId, [], [], .lenBuf [], [], 0, false⟩

def stop (state : UnixConnection) : UnixConnection :=
  { state with
    unread := []
    phase := .stopped
    lost := state.lost + state.phase.held.length + state.unread.length }

/-- The length is there: zero and lengths above 4 MiB close the connection. -/
def checkLength (state : UnixConnection) (lenBuf : List UInt8) : UnixConnection :=
  let len := leValue lenBuf
  if len = 0 ∨ len > 4194304 then { state with phase := .lenBuf lenBuf }.stop
  else { state with phase := .payload len [] }

def hand (state : UnixConnection) (payload : List UInt8) (now : UInt64) : UnixConnection :=
  let state := { state with phase := .lenBuf [], handed := state.handed ++ [payload] }
  match handleFrame payload state.vehicleId now with
  | .ok _ => state
  | _ => state.stop

def read (state : UnixConnection) (count : Nat) (now : UInt64) : Option UnixConnection :=
  let bytes := state.unread.take count
  let rest := { state with unread := state.unread.drop count }
  match state.phase with
  | .lenBuf got =>
    if got.length + count < 4 then some { rest with phase := .lenBuf (got ++ bytes) }
    else if got.length + count = 4 then some (rest.checkLength (got ++ bytes))
    else none
  | .payload len got =>
    if got.length + count < len then some { rest with phase := .payload len (got ++ bytes) }
    else if got.length + count = len then some (rest.hand (got ++ bytes) now)
    else none
  | .stopped => none

def step (state : UnixConnection) : Action → Option UnixConnection
  | .arrive bytes =>
    if state.closed then none
    else
      match state.phase with
      | .stopped => some
          { state with written := state.written ++ bytes, lost := state.lost + bytes.length }
      | _ => some { state with written := state.written ++ bytes, unread := state.unread ++ bytes }
  | .close => some { state with closed := true }
  | .read count now =>
    if 0 < count ∧ count ≤ state.unread.length then state.read count now else none
  | .readFails =>
    if state.closed ∧ state.unread = [] then
      match state.phase with
      | .stopped => none
      | _ => some state.stop
    else none
  -- The other branch's `read_exact` is dropped, and the next one starts anew.
  | .command =>
    match state.phase with
    | .lenBuf got => some { state with phase := .lenBuf [], lost := state.lost + got.length }
    | _ => none
  -- A write fails when the client is gone.
  | .commandFails =>
    match state.phase with
    | .lenBuf _ => if state.closed then some state.stop else none
    | _ => none

/-! ## What one step does -/

def Taken (state next : UnixConnection) : Action → Prop
  | .arrive bytes => state.closed = false ∧
      (state.phase = .stopped ∧ next =
          { state with written := state.written ++ bytes, lost := state.lost + bytes.length } ∨
        state.phase ≠ .stopped ∧ next =
          { state with written := state.written ++ bytes, unread := state.unread ++ bytes })
  | .close => next = { state with closed := true }
  | .read count now => ∃ bytes rest, state.unread = bytes ++ rest ∧ bytes.length = count ∧
      ((∃ got, state.phase = .lenBuf got ∧
          (got.length + count < 4 ∧
              next = { state with unread := rest, phase := .lenBuf (got ++ bytes) } ∨
            got.length + count = 4 ∧
              next = { state with unread := rest }.checkLength (got ++ bytes))) ∨
        ∃ len got, state.phase = .payload len got ∧
          (got.length + count < len ∧
              next = { state with unread := rest, phase := .payload len (got ++ bytes) } ∨
            got.length + count = len ∧
              next = { state with unread := rest }.hand (got ++ bytes) now))
  | .readFails => state.closed = true ∧ state.unread = [] ∧ state.phase ≠ .stopped ∧
      next = state.stop
  | .command => ∃ got, state.phase = .lenBuf got ∧
      next = { state with phase := .lenBuf [], lost := state.lost + got.length }
  | .commandFails => ∃ got, state.phase = .lenBuf got ∧ state.closed = true ∧ next = state.stop

theorem step_taken {state next : UnixConnection} {action : Action}
    (taken : step state action = some next) : Taken state next action := by
  cases action with
  | arrive bytes =>
    simp only [step] at taken
    split_ifs at taken with closed
    refine ⟨eq_false_of_ne_true closed, ?_⟩
    split at taken
    next stopped => exact .inl ⟨stopped, (Option.some.inj taken).symm⟩
    next open_phase => exact .inr ⟨open_phase, (Option.some.inj taken).symm⟩
  | close => exact (Option.some.inj taken).symm
  | read count now =>
    simp only [step] at taken
    split_ifs at taken with ready
    refine ⟨state.unread.take count, state.unread.drop count, (List.take_append_drop _ _).symm,
      by rw [List.length_take]; omega, ?_⟩
    unfold read at taken
    split at taken
    next got phase =>
      split_ifs at taken with short full
      · exact .inl ⟨got, phase, .inl ⟨short, (Option.some.inj taken).symm⟩⟩
      · exact .inl ⟨got, phase, .inr ⟨full, (Option.some.inj taken).symm⟩⟩
    next len got phase =>
      split_ifs at taken with short full
      · exact .inr ⟨len, got, phase, .inl ⟨short, (Option.some.inj taken).symm⟩⟩
      · exact .inr ⟨len, got, phase, .inr ⟨full, (Option.some.inj taken).symm⟩⟩
    next => cases taken
  | readFails =>
    simp only [step] at taken
    split_ifs at taken with ended
    split at taken
    next => cases taken
    next going => exact ⟨ended.1, ended.2, going, (Option.some.inj taken).symm⟩
  | command =>
    simp only [step] at taken
    split at taken
    next got phase => exact ⟨got, phase, (Option.some.inj taken).symm⟩
    next => cases taken
  | commandFails =>
    simp only [step] at taken
    split at taken
    next got phase =>
      split_ifs at taken with closed
      exact ⟨got, phase, closed, (Option.some.inj taken).symm⟩
    next => cases taken

theorem hand_cases (state : UnixConnection) (payload : List UInt8) (now : UInt64) :
    survives payload = true ∧ state.hand payload now =
        { state with phase := .lenBuf [], handed := state.handed ++ [payload] } ∨
      survives payload = false ∧ state.hand payload now =
        { state with phase := .lenBuf [], handed := state.handed ++ [payload] }.stop := by
  have same := handleFrame_ok payload state.vehicleId now
  unfold hand
  cases outcome : handleFrame payload state.vehicleId now with
  | ok value =>
    rw [outcome] at same
    exact .inl ⟨same.mp rfl, by simp [outcome]⟩
  | _ =>
    rw [outcome] at same
    have gone : ¬survives payload = true := fun alive => by cases same.mpr alive
    exact .inr ⟨eq_false_of_ne_true gone, by simp [outcome]⟩

/-! ## Bytes that are lost -/

/-- A command finds no part of a length read, and one that cannot be sent nothing unread. -/
def Careful (state : UnixConnection) : Action → Prop
  | .command => ∀ got, state.phase = .lenBuf got → got = []
  | .commandFails => ∀ got, state.phase = .lenBuf got → got = [] ∧ state.unread = []
  | _ => True

/-- Every byte that the client wrote is unread, held, lost or in a frame that was handed on. -/
structure Counted (state : UnixConnection) : Prop where
  bytes : state.written.length = state.unread.length + state.phase.held.length + state.lost +
    (frames state.handed).length
  survived : ∀ payload ∈ state.handed.dropLast, survives payload = true
  going : state.phase ≠ .stopped → ∀ payload ∈ state.handed, survives payload = true

section Steps

variable {state next : UnixConnection}

theorem stop_counted (counted : Counted state) : Counted state.stop where
  bytes := by
    rw [show state.stop.written = state.written from rfl, counted.bytes]
    simp only [stop, ReadPhase.held, List.length_nil]
    omega
  survived := counted.survived
  going stopped := absurd rfl stopped

theorem checkLength_counted {lenBuf : List UInt8}
    (counted : Counted { state with phase := .lenBuf lenBuf })
    (four : lenBuf.length = 4) : Counted (state.checkLength lenBuf) := by
  unfold checkLength
  dsimp only
  split_ifs
  · exact stop_counted counted
  · have bytes := counted.bytes
    simp only [ReadPhase.held, four] at bytes
    refine ⟨?_, counted.survived, fun _ => counted.going (by simp)⟩
    simp only [ReadPhase.held, List.append_nil, length_leBytes]
    exact bytes

theorem step_counted {action : Action} (counted : Counted state)
    (moved : step state action = some next) : Counted next := by
  have taken := step_taken moved
  have bytes := counted.bytes
  cases action with
  | arrive bytes =>
    obtain ⟨_, ⟨stopped, rfl⟩ | ⟨going, rfl⟩⟩ := taken
    · refine ⟨?_, counted.survived, counted.going⟩
      simp only [List.length_append]
      omega
    · refine ⟨?_, counted.survived, counted.going⟩
      simp only [List.length_append]
      omega
  | close =>
    obtain rfl := taken
    exact ⟨counted.bytes, counted.survived, counted.going⟩
  | read count now =>
    obtain ⟨bytes_read, rest, unread, length, ⟨got, phase, taken⟩ | ⟨len, got, phase, taken⟩⟩ := taken
    · have going := counted.going (by simp [phase])
      simp only [unread, phase, ReadPhase.held, List.length_append] at bytes
      have kept : Counted { state with unread := rest, phase := .lenBuf (got ++ bytes_read) } := by
        refine ⟨?_, counted.survived, fun _ => going⟩
        simp only [ReadPhase.held, List.length_append]
        omega
      rcases taken with ⟨_, rfl⟩ | ⟨full, rfl⟩
      · exact kept
      · exact checkLength_counted kept (by simp only [List.length_append]; omega)
    · have going := counted.going (by simp [phase])
      simp only [unread, phase, ReadPhase.held, List.length_append, length_leBytes] at bytes
      rcases taken with ⟨_, rfl⟩ | ⟨full, rfl⟩
      · refine ⟨?_, counted.survived, fun _ => going⟩
        simp only [ReadPhase.held, List.length_append, length_leBytes]
        omega
      · have handed : (frames (state.handed ++ [got ++ bytes_read])).length =
            (frames state.handed).length + (4 + (got.length + bytes_read.length)) := by
          rw [frames_append, frames_cons, frames_nil]
          simp
        have all : ∀ payload ∈ (state.handed ++ [got ++ bytes_read]).dropLast,
            survives payload = true := by
          rw [List.dropLast_concat]
          exact going
        rcases hand_cases { state with unread := rest } (got ++ bytes_read) now with
          ⟨alive, is⟩ | ⟨_, is⟩
        · rw [is]
          refine ⟨?_, all, ?_⟩
          · simp only [ReadPhase.held, List.length_nil, handed]
            omega
          · intro _ payload member
            rcases List.mem_append.mp member with before | last
            · exact going payload before
            · rw [List.mem_singleton.mp last]
              exact alive
        · rw [is]
          refine ⟨?_, all, fun stopped => absurd rfl stopped⟩
          simp only [stop, ReadPhase.held, List.length_nil, handed]
          omega
  | readFails =>
    obtain ⟨_, _, _, rfl⟩ := taken
    exact stop_counted counted
  | command =>
    obtain ⟨got, phase, rfl⟩ := taken
    simp only [phase, ReadPhase.held] at bytes
    refine ⟨?_, counted.survived, fun _ => counted.going (by simp [phase])⟩
    simp only [ReadPhase.held, List.length_nil]
    omega
  | commandFails =>
    obtain ⟨got, phase, _, rfl⟩ := taken
    exact stop_counted counted

theorem checkLength_lost (state : UnixConnection) (lenBuf : List UInt8) :
    state.lost ≤ (state.checkLength lenBuf).lost ∧
      (state.checkLength lenBuf).written = state.written := by
  unfold checkLength
  dsimp only
  split_ifs
  · refine ⟨?_, rfl⟩
    simp only [stop]
    omega
  · exact ⟨Nat.le_refl _, rfl⟩

theorem hand_lost (state : UnixConnection) (payload : List UInt8) (now : UInt64) :
    state.lost ≤ (state.hand payload now).lost ∧
      (state.hand payload now).written = state.written := by
  rcases hand_cases state payload now with ⟨_, is⟩ | ⟨_, is⟩
  · rw [is]
    exact ⟨Nat.le_refl _, rfl⟩
  · rw [is]
    refine ⟨?_, rfl⟩
    simp only [stop]
    omega

theorem step_lost {action : Action} (moved : step state action = some next) :
    state.lost ≤ next.lost ∧ (next.lost = 0 → Careful state action) := by
  have taken := step_taken moved
  cases action with
  | arrive bytes =>
    obtain ⟨_, ⟨_, rfl⟩ | ⟨_, rfl⟩⟩ := taken
    · exact ⟨Nat.le_add_right _ _, fun _ => trivial⟩
    · exact ⟨Nat.le_refl _, fun _ => trivial⟩
  | close =>
    obtain rfl := taken
    exact ⟨Nat.le_refl _, fun _ => trivial⟩
  | read count now =>
    obtain ⟨bytes, rest, _, _, ⟨got, _, ⟨_, rfl⟩ | ⟨_, rfl⟩⟩ | ⟨len, got, _, ⟨_, rfl⟩ | ⟨_, rfl⟩⟩⟩ := taken
    · exact ⟨Nat.le_refl _, fun _ => trivial⟩
    · exact ⟨(checkLength_lost { state with unread := rest } _).1, fun _ => trivial⟩
    · exact ⟨Nat.le_refl _, fun _ => trivial⟩
    · exact ⟨(hand_lost { state with unread := rest } _ now).1, fun _ => trivial⟩
  | readFails =>
    obtain ⟨_, _, _, rfl⟩ := taken
    refine ⟨?_, fun _ => trivial⟩
    simp only [stop]
    omega
  | command =>
    obtain ⟨got, phase, rfl⟩ := taken
    refine ⟨Nat.le_add_right _ _, fun none found is => ?_⟩
    obtain rfl := ReadPhase.lenBuf.inj (phase.symm.trans is)
    exact List.length_eq_zero_iff.mp (Nat.eq_zero_of_add_eq_zero_left none)
  | commandFails =>
    obtain ⟨got, phase, _, rfl⟩ := taken
    simp only [stop, phase, ReadPhase.held]
    refine ⟨by omega, fun none found is => ?_⟩
    obtain rfl := ReadPhase.lenBuf.inj (phase.symm.trans is)
    exact ⟨List.length_eq_zero_iff.mp (by omega), List.length_eq_zero_iff.mp (by omega)⟩

theorem careful_of_lost {actions : List Action} {final : UnixConnection}
    (ran : exec step state actions = some final) (none : final.lost = 0) :
    Along step Careful state actions ∧ state.lost = 0 := by
  induction actions generalizing state with
  | nil =>
    obtain rfl := Option.some.inj ran
    exact ⟨trivial, none⟩
  | cons action rest ih =>
    rw [exec_cons, Option.bind_eq_some_iff] at ran
    obtain ⟨next, moved, ran⟩ := ran
    obtain ⟨careful, nothing⟩ := ih ran
    obtain ⟨less, met⟩ := step_lost moved
    exact ⟨Along.cons moved (met nothing) careful, by omega⟩

theorem step_written {action : Action} (moved : step state action = some next) :
    state.written <+: next.written := by
  have taken := step_taken moved
  cases action with
  | arrive bytes => obtain ⟨_, ⟨_, rfl⟩ | ⟨_, rfl⟩⟩ := taken <;> exact List.prefix_append _ _
  | close =>
    obtain rfl := taken
    exact List.prefix_rfl
  | read count now =>
    obtain ⟨bytes, rest, _, _, ⟨got, _, ⟨_, rfl⟩ | ⟨_, rfl⟩⟩ | ⟨len, got, _, ⟨_, rfl⟩ | ⟨_, rfl⟩⟩⟩ := taken
    · exact List.prefix_rfl
    · simp only [(checkLength_lost { state with unread := rest } _).2, List.prefix_rfl]
    · exact List.prefix_rfl
    · simp only [(hand_lost { state with unread := rest } _ now).2, List.prefix_rfl]
  | readFails =>
    obtain ⟨_, _, _, rfl⟩ := taken
    exact List.prefix_rfl
  | command =>
    obtain ⟨got, _, rfl⟩ := taken
    exact List.prefix_rfl
  | commandFails =>
    obtain ⟨got, _, _, rfl⟩ := taken
    exact List.prefix_rfl

/-! ## Frames that are handed on -/

def Part : ReadPhase → Prop
  | .lenBuf got => got.length < 4
  | .payload len got => got.length < len ∧ len ≤ 4194304
  | .stopped => False

def Sized (bodies : List (List UInt8)) : Prop :=
  ∀ body ∈ bodies, 0 < body.length ∧ body.length ≤ 4194304

theorem Sized.narrow {bodies : List (List UInt8)} (sized : Sized bodies) :
    ∀ body ∈ bodies, body.length < 2 ^ 32 := by
  intro body member
  have bounds := sized body member
  omega

theorem frames_part {bodies : List (List UInt8)} {phase : ReadPhase} (sized : Sized bodies)
    (part : Part phase) (stream : frames bodies = phase.held) : bodies = [] := by
  cases phase with
  | lenBuf got =>
    cases bodies with
    | nil => rfl
    | cons body rest =>
      have lengths := congrArg List.length stream
      simp only [frames_cons, List.length_append, length_frame, ReadPhase.held] at lengths
      have short : got.length < 4 := part
      omega
  | payload len got =>
    obtain ⟨short, small⟩ := part
    obtain ⟨body, rest, rfl, length⟩ := frames_length sized.narrow (length_leBytes 4 len) stream
    rw [leValue_leBytes_of_lt (by omega)] at length
    have lengths := congrArg List.length stream
    simp only [frames_cons, List.length_append, length_frame, ReadPhase.held, length_leBytes] at lengths
    omega
  | stopped => exact part.elim

/-- What was handed on is what the client wrote, but for a part of a frame and what is unread; once
the connection is over it is all of it, or the client has closed in the middle of a frame. -/
structure Faithful (bodies : List (List UInt8)) (state : UnixConnection) : Prop where
  sized : Sized state.handed
  going : state.phase ≠ .stopped → Part state.phase ∧
    state.written = frames state.handed ++ (state.phase.held ++ state.unread)
  stopped : state.phase = .stopped → state.handed = bodies ∨ state.closed = true ∧
    ∃ phase, Part phase ∧ state.written = frames state.handed ++ phase.held

theorem checkLength_faithful {bodies : List (List UInt8)} {lenBuf : List UInt8}
    (sized : Sized bodies) (handed : Sized state.handed) (four : lenBuf.length = 4)
    (synced : state.written = frames state.handed ++ (lenBuf ++ state.unread))
    (stream : state.written <+: frames bodies) : Faithful bodies (state.checkLength lenBuf) := by
  obtain ⟨later, whole⟩ := stream
  rw [synced] at whole
  simp only [List.append_assoc] at whole
  obtain ⟨more, rfl, behind⟩ := frames_prefix sized.narrow handed.narrow whole.symm
  have bounds : 0 < leValue lenBuf ∧ leValue lenBuf ≤ 4194304 := by
    have inside : ∀ body ∈ more, body.length < 2 ^ 32 := fun body member =>
      sized.narrow body (List.mem_append_right _ member)
    obtain ⟨body, rest, rfl, length⟩ := frames_length inside four behind
    rw [length]
    exact sized body (List.mem_append_right _ List.mem_cons_self)
  have wrote : leBytes 4 (leValue lenBuf) = lenBuf := four ▸ leBytes_leValue lenBuf
  unfold checkLength
  dsimp only
  rw [if_neg (by omega)]
  refine ⟨handed, fun _ => ⟨bounds, ?_⟩, fun stopped => by cases stopped⟩
  simp only [ReadPhase.held, wrote, List.append_nil]
  exact synced

theorem hand_faithful {bodies : List (List UInt8)} {payload : List UInt8} {now : UInt64}
    (sized : Sized bodies) (alive : ∀ body ∈ bodies.dropLast, survives body = true)
    (handed : Sized state.handed) (small : 0 < payload.length ∧ payload.length ≤ 4194304)
    (synced : state.written = frames (state.handed ++ [payload]) ++ state.unread)
    (stream : state.written <+: frames bodies) : Faithful bodies (state.hand payload now) := by
  have all : Sized (state.handed ++ [payload]) := by
    intro body member
    rcases List.mem_append.mp member with before | last
    · exact handed body before
    · rw [List.mem_singleton.mp last]
      exact small
  rcases hand_cases state payload now with ⟨_, is⟩ | ⟨dies, is⟩
  · rw [is]
    refine ⟨all, fun _ => ⟨by simp [Part], ?_⟩, fun stopped => by cases stopped⟩
    simp only [ReadPhase.held, List.nil_append]
    exact synced
  · rw [is]
    refine ⟨all, fun going => absurd rfl going, fun _ => .inl ?_⟩
    obtain ⟨later, whole⟩ := stream
    rw [synced, List.append_assoc] at whole
    obtain ⟨more, split, _⟩ := frames_prefix sized.narrow all.narrow whole.symm
    show state.handed ++ [payload] = bodies
    cases more with
    | nil => rw [split, List.append_nil]
    | cons body rest =>
      have inside : payload ∈ bodies.dropLast := by
        rw [split, List.dropLast_append_of_ne_nil (by simp)]
        simp
      rw [alive payload inside] at dies
      cases dies

theorem step_faithful {bodies : List (List UInt8)} {action : Action} (sized : Sized bodies)
    (alive : ∀ body ∈ bodies.dropLast, survives body = true)
    (faithful : Faithful bodies state) (careful : Careful state action)
    (moved : step state action = some next) (stream : next.written <+: frames bodies) :
    Faithful bodies next := by
  have before := (step_written moved).trans stream
  have taken := step_taken moved
  cases action with
  | arrive bytes =>
    obtain ⟨closed, ⟨stopped, rfl⟩ | ⟨going, rfl⟩⟩ := taken
    · refine ⟨faithful.sized, fun going => absurd stopped going, fun _ => .inl ?_⟩
      rcases faithful.stopped stopped with all | ⟨ended, _⟩
      · exact all
      · rw [closed] at ended
        cases ended
    · obtain ⟨part, synced⟩ := faithful.going going
      refine ⟨faithful.sized, fun _ => ⟨part, ?_⟩, fun stopped => absurd stopped going⟩
      simp only [synced, List.append_assoc]
  | close =>
    obtain rfl := taken
    exact ⟨faithful.sized, faithful.going, fun stopped => (faithful.stopped stopped).imp id fun ended =>
      ⟨rfl, ended.2⟩⟩
  | read count now =>
    obtain ⟨bytes, rest, unread, length, ⟨got, phase, taken⟩ | ⟨len, got, phase, taken⟩⟩ := taken
    · obtain ⟨part, synced⟩ := faithful.going (by simp [phase])
      rw [phase, unread, ReadPhase.held, ← List.append_assoc got bytes rest] at synced
      rcases taken with ⟨short, rfl⟩ | ⟨full, rfl⟩
      · refine ⟨faithful.sized, fun _ => ⟨?_, synced⟩, fun stopped => by cases stopped⟩
        show (got ++ bytes).length < 4
        rw [List.length_append]
        omega
      · exact checkLength_faithful sized faithful.sized (by rw [List.length_append]; omega) synced
          before
    · obtain ⟨part, synced⟩ := faithful.going (by simp [phase])
      rw [phase] at part
      obtain ⟨short, small⟩ := part
      rw [phase, unread, ReadPhase.held] at synced
      rcases taken with ⟨still, rfl⟩ | ⟨full, rfl⟩
      · refine ⟨faithful.sized, fun _ => ⟨⟨?_, small⟩, ?_⟩, fun stopped => by cases stopped⟩
        · rw [List.length_append]
          omega
        · simp only [synced, ReadPhase.held, List.append_assoc]
      · have whole : (got ++ bytes).length = len := by
          rw [List.length_append]
          omega
        refine hand_faithful sized alive faithful.sized (by omega) ?_ before
        simp only [synced, frames_append, frames_cons, frames_nil, Frames.frame, whole,
          List.append_nil, List.append_assoc]
  | readFails =>
    obtain ⟨closed, nothing, going, rfl⟩ := taken
    obtain ⟨part, synced⟩ := faithful.going going
    refine ⟨faithful.sized, fun going => absurd rfl going, fun _ => .inr ⟨closed, _, part, ?_⟩⟩
    rw [nothing, List.append_nil] at synced
    exact synced
  | command =>
    obtain ⟨got, phase, rfl⟩ := taken
    obtain ⟨_, synced⟩ := faithful.going (by simp [phase])
    obtain rfl := careful got phase
    rw [phase] at synced
    exact ⟨faithful.sized, fun _ => ⟨by simp [Part], synced⟩, fun stopped => by cases stopped⟩
  | commandFails =>
    obtain ⟨got, phase, closed, rfl⟩ := taken
    obtain ⟨part, synced⟩ := faithful.going (by simp [phase])
    obtain ⟨rfl, nothing⟩ := careful got phase
    rw [phase, nothing] at synced
    rw [phase] at part
    refine ⟨faithful.sized, fun going => absurd rfl going, fun _ => .inr ⟨closed, _, part, ?_⟩⟩
    rw [List.append_nil] at synced
    exact synced

end Steps

/-- The bodies handed on are those of the frames that the client wrote exactly if no step drops
bytes and every handler but that of the last body returns. -/
theorem frames_handed_iff (vehicleId : String) (bodies : List (List UInt8)) (sized : Sized bodies)
    (actions : List Action) (final : UnixConnection)
    (ran : exec step (start vehicleId) actions = some final)
    (wrote : final.written = frames bodies)
    (finished : final.phase = .stopped ∨ final.unread = []) :
    final.handed = bodies ↔ Along step Careful (start vehicleId) actions ∧
      ∀ body ∈ bodies.dropLast, survives body = true := by
  constructor
  · intro all
    have begun : Counted (start vehicleId) := by
      constructor <;> simp [start, ReadPhase.held]
    have counted : Counted final :=
      exec_invariant (fun _ _ _ counted moved => step_counted counted moved) begun ran
    have bytes := counted.bytes
    rw [wrote, all] at bytes
    exact ⟨(careful_of_lost ran (by omega)).1, all ▸ counted.survived⟩
  · rintro ⟨careful, alive⟩
    have keeps (state : UnixConnection) (action : Action) (next : UnixConnection)
        (faithful : state.written <+: frames bodies → Faithful bodies state)
        (met : Careful state action) (moved : step state action = some next)
        (stream : next.written <+: frames bodies) : Faithful bodies next :=
      step_faithful sized alive (faithful ((step_written moved).trans stream)) met moved stream
    have begun (_ : (start vehicleId).written <+: frames bodies) :
        Faithful bodies (start vehicleId) := by
      refine ⟨by simp [Sized, start], fun _ => ⟨by simp [Part, start], rfl⟩, fun stopped => ?_⟩
      cases stopped
    have all := throughout_of_along keeps (fun _ faithful => faithful) begun careful
    have faithful := throughout_iff_prefixes.mp all actions [] final (by simp) ran
      (wrote ▸ List.prefix_rfl)
    have split {phase : ReadPhase} (part : Part phase)
        (synced : final.written = frames final.handed ++ phase.held) : final.handed = bodies := by
      rw [wrote] at synced
      obtain ⟨more, same, behind⟩ := frames_prefix sized.narrow faithful.sized.narrow synced
      have rest : Sized more := fun body member => sized body (same ▸ List.mem_append_right _ member)
      rw [same, frames_part rest part behind, List.append_nil]
    by_cases stopped : final.phase = .stopped
    · rcases faithful.stopped stopped with handed | ⟨_, phase, part, synced⟩
      · exact handed
      · exact split part synced
    · obtain ⟨part, synced⟩ := faithful.going stopped
      rw [finished.resolve_left stopped, List.append_nil] at synced
      exact split part synced

-- A JSON frame with the body {}.
def emptyObject : List UInt8 := [0x7B, 0x7D]

def commandFirstRun : List Action :=
  [.command, .arrive (Frames.frame emptyObject), .read 3 0, .read 1 0, .read 2 0, .command]

theorem command_first_careful :
    Along step Careful (start "v1") commandFirstRun ∧
      ∀ body ∈ [emptyObject].dropLast, survives body = true :=
  (frames_handed_iff "v1" [emptyObject] (by simp [Sized, emptyObject]) commandFirstRun _ rfl rfl
    (.inr rfl)).mp rfl

-- Two bytes of the length are read when a command comes; the other two are taken for the first of
-- the next length.
def cutLengthRun : List Action :=
  [.arrive ((Frames.frame emptyObject).take 2), .read 2 0, .command,
    .arrive ((Frames.frame emptyObject).drop 2),
    .read 4 0, .close]

theorem cut_length_lost :
    ∃ final, exec step (start "v1") cutLengthRun = some final ∧
      final.written = frames [emptyObject] ∧ final.phase = .stopped ∧ final.handed = [] :=
  ⟨_, rfl, rfl, rfl, rfl⟩

end UnixConnection

end SystemScale.Agent

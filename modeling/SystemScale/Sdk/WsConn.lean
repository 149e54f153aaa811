import SystemScale.Lib.WebSocket

set_option autoImplicit false

/-!
# The Go SDK's WebSocket connection

`readFrames` puts a message together from the frames of the gateway and answers its pings.
-/

namespace SystemScale.Sdk.Go

open Bytes (beValue)
open WebSocket (Frame Opcode Carries Declared ControlFrame declared encode xorKey)

inductive Err where
  | eof
  | unexpectedEOF
  | connection (text : String)
  deriving DecidableEq

/-- What comes after the bytes that have arrived. -/
inductive Ending where
  | silence
  | closed
  | failure (text : String)

/-- A call that waits has not returned, and goes on when more arrives. -/
inductive Answer where
  | message (data : List UInt8)
  | error (err : Err)
  | waits
  | panics
  deriving DecidableEq

structure WsConn where
  arrived : List UInt8
  ending : Ending
  /-- What `conn.Write` was given, the latest last. -/
  written : List (List UInt8)

/-! ## Reading -/

def Ending.answer (ending : Ending) (bytes : List UInt8) : Answer :=
  match ending with
  | .silence => .waits
  | .closed => .error (if bytes = [] then .eof else .unexpectedEOF)
  | .failure text => .error (.connection text)

/-- `io.ReadFull`: an end before the first byte is `io.EOF`, a later one `io.ErrUnexpectedEOF`. -/
def readFull (ending : Ending) (count : Nat) (bytes : List UInt8) :
    Except Answer (List UInt8 × List UInt8) :=
  if count ≤ bytes.length then .ok (bytes.take count, bytes.drop count)
  else .error (ending.answer bytes)

/-- The conversion of a `uint64`. -/
def int64 (word : Nat) : Int := if word < 2 ^ 63 then word else word - 2 ^ 64

structure Header where
  fin : Bool
  opcode : UInt8
  masked : Bool
  plen : Int
  mask : List UInt8

def extendedLength (ending : Ending) (code : UInt8) (bytes : List UInt8) :
    Except Answer (Int × List UInt8) :=
  if code = 126 then do
    let (ext, rest) ← readFull ending 2 bytes
    return (beValue ext, rest)
  else if code = 127 then do
    let (ext, rest) ← readFull ending 8 bytes
    return (int64 (beValue ext), rest)
  else pure (code.toNat, bytes)

def readMask (ending : Ending) (masked : Bool) (bytes : List UInt8) :
    Except Answer (List UInt8 × List UInt8) :=
  if masked then readFull ending 4 bytes else pure ([0, 0, 0, 0], bytes)

def readHeader (ending : Ending) (bytes : List UInt8) : Except Answer (Header × List UInt8) := do
  let (header, rest) ← readFull ending 2 bytes
  let first := header.getD 0 0
  let second := header.getD 1 0
  let masked := second &&& 0x80 != 0
  let (plen, rest) ← extendedLength ending (second &&& 0x7f) rest
  let (mask, rest) ← readMask ending masked rest
  return (⟨first &&& 0x80 != 0, first &&& 0x0f, masked, plen, mask⟩, rest)

section Memory

-- The length of the longest byte slice that `make` gives. It panics for one above that.
variable (maxAlloc : Nat)

def makeBytes (size : Int) : Except Answer Nat :=
  if size < 0 ∨ maxAlloc < size then .error .panics else pure size.toNat

def readPayload (ending : Ending) (header : Header) (bytes : List UInt8) :
    Except Answer (List UInt8 × List UInt8) := do
  let size ← makeBytes maxAlloc header.plen
  let (payload, rest) ← readFull ending size bytes
  return (if header.masked then xorKey header.mask payload else payload, rest)

def readFrame (ending : Ending) (bytes : List UInt8) :
    Except Answer (Header × List UInt8 × List UInt8) := do
  let (header, rest) ← readHeader ending bytes
  let (payload, rest) ← readPayload maxAlloc ending header rest
  return (header, payload, rest)

/-- There is no connection where `make` panics. -/
def WsConn.sendControl (ws : WsConn) (opcode : UInt8) (payload : List UInt8) : Option WsConn :=
  if maxAlloc < 2 + payload.length then none
  else some { ws with
    written := ws.written ++ [(0x80 ||| opcode) :: UInt8.ofNat payload.length :: payload] }

inductive Turn where
  | again (acc : List UInt8) (ws : WsConn)
  | returns (answer : Answer) (ws : WsConn)

def finish (fin : Bool) (acc : List UInt8) (ws : WsConn) : Turn :=
  if !fin then .again acc ws else .returns (.message acc) ws

def switch (acc : List UInt8) (header : Header) (payload : List UInt8) (ws : WsConn) : Turn :=
  if header.opcode = 0x0 then finish header.fin (acc ++ payload) ws
  else if header.opcode = 0x1 ∨ header.opcode = 0x2 then finish header.fin (acc ++ payload) ws
  else if header.opcode = 0x8 then .returns (.error .eof) ws
  else if header.opcode = 0x9 then
    match ws.sendControl maxAlloc 0xa payload with
    | none => .returns .panics ws
    | some ws => .again acc ws
  else if header.opcode = 0xa then .again acc ws
  else finish header.fin acc ws

/-- One call of `readFrames`, up to the call that it ends with. A read that falls short has taken
all that was there. -/
def turn (acc : List UInt8) (ws : WsConn) : Turn :=
  match readFrame maxAlloc ws.ending ws.arrived with
  | .error answer => .returns answer { ws with arrived := [] }
  | .ok (header, payload, rest) => switch maxAlloc acc header payload { ws with arrived := rest }

end Memory

/-! ### Spec lemmas -/

def Answer.Calm (answer : Answer) : Prop := answer ≠ .panics

/-- A read takes so many bytes for a value, or falls short of them and does not panic. -/
inductive Takes {α : Type} (bytes : List UInt8) (count : Nat) (Good : α → Prop) :
    Except Answer (α × List UInt8) → Prop where
  | short {answer : Answer} (calm : answer.Calm) (cut : bytes.length < count) :
      Takes bytes count Good (.error answer)
  | whole {value : α} (enough : count ≤ bytes.length) (good : Good value) :
      Takes bytes count Good (.ok (value, bytes.drop count))

section Spec

variable {α β : Type} {ending : Ending} {bytes : List UInt8} {count : Nat}

theorem Takes.bind {Good : α → Prop} {Later : β → Prop} {more : Nat}
    {read : Except Answer (α × List UInt8)}
    {rest : α × List UInt8 → Except Answer (β × List UInt8)} (first : Takes bytes count Good read)
    (second : ∀ value, count ≤ bytes.length → Good value →
      Takes (bytes.drop count) more Later (rest (value, bytes.drop count))) :
    Takes bytes (count + more) Later (read >>= rest) := by
  cases first with
  | short calm cut => exact .short calm (by omega)
  | @whole value enough good =>
    change Takes bytes (count + more) Later (rest (value, bytes.drop count))
    have later := second value enough good
    generalize rest (value, bytes.drop count) = made at later ⊢
    cases later with
    | short calm cut =>
      rw [List.length_drop] at cut
      exact .short calm (by omega)
    | whole enough_more good =>
      rw [List.length_drop] at enough_more
      rw [List.drop_drop]
      exact .whole (by omega) good

-- A value that is made of the one that was read.
theorem Takes.value {Good : α → Prop} {Later : β → Prop}
    {read : Except Answer (α × List UInt8)} (taken : Takes bytes count Good read) (make : α → β)
    (made : ∀ value, count ≤ bytes.length → Good value → Later (make value)) :
    Takes bytes count Later (read >>= fun pair => pure (make pair.1, pair.2)) := by
  cases taken with
  | short calm cut => exact .short calm cut
  | whole enough good => exact .whole enough (made _ enough good)

theorem Takes.weaken {Good Later : α → Prop} {read : Except Answer (α × List UInt8)}
    (taken : Takes bytes count Good read) (weaker : ∀ value, Good value → Later value) :
    Takes bytes count Later read := by
  cases taken with
  | short calm cut => exact .short calm cut
  | whole enough good => exact .whole enough (weaker _ good)

theorem takes_pure {Good : α → Prop} {value : α} (good : Good value) :
    Takes bytes 0 Good (pure (value, bytes)) := .whole (Nat.zero_le _) good

theorem answer_calm (ending : Ending) (bytes : List UInt8) : (ending.answer bytes).Calm := by
  cases ending <;> exact Answer.noConfusion

theorem readFull_takes (ending : Ending) (count : Nat) (bytes : List UInt8) :
    Takes bytes count (· = bytes.take count) (readFull ending count bytes) := by
  rw [readFull]
  split_ifs with enough
  · exact .whole enough rfl
  · exact .short (answer_calm ending bytes) (not_le.mp enough)

theorem int64_small {word : Nat} (small : word < 2 ^ 63) : int64 word = word := if_pos small

theorem extendedLength_takes (code : UInt8) :
    Takes bytes (WebSocket.width code)
      (· = int64 (if WebSocket.width code = 0 then code.toNat
        else beValue (bytes.take (WebSocket.width code))))
      (extendedLength ending code bytes) := by
  by_cases medium : code = 126
  · subst medium
    have small := Bytes.beValue_lt (bytes.take 2)
    have width : 256 ^ (bytes.take 2).length ≤ 256 ^ 2 :=
      Nat.pow_le_pow_right (by omega) (List.length_take_le _ _)
    have read : Takes bytes 2 (· = int64 (beValue (bytes.take 2)))
        (readFull ending 2 bytes >>= fun ext => pure ((beValue ext.1 : Int), ext.2)) :=
      (readFull_takes ending 2 bytes).value (fun ext => (beValue ext : Int)) fun _ _ is => by
        rw [is, int64_small (by omega)]
    exact read
  · by_cases long : code = 127
    · subst long
      have read : Takes bytes 8 (· = int64 (beValue (bytes.take 8)))
          (readFull ending 8 bytes >>= fun ext => pure (int64 (beValue ext.1), ext.2)) :=
        (readFull_takes ending 8 bytes).value (fun ext => int64 (beValue ext)) fun _ _ is => by
          rw [is]
      exact read
    · have none : WebSocket.width code = 0 := by rw [WebSocket.width, if_neg medium, if_neg long]
      have small : code.toNat < 2 ^ 63 := code.toNat_lt.trans (by omega)
      rw [none, extendedLength, if_neg medium, if_neg long]
      exact takes_pure (int64_small small).symm

theorem readMask_takes (masked : Bool) :
    Takes bytes (WebSocket.keySize masked) (fun mask => masked = true → mask = bytes.take 4)
      (readMask ending masked bytes) := by
  cases masked with
  | false => exact takes_pure (fun never => nomatch never)
  | true =>
    exact (readFull_takes ending 4 bytes).weaken fun _ is _ => is

/-- The reader's header is the one that stands in the bytes, its length as an `int64`. -/
structure Header.Of (front : Declared) (header : Header) : Prop where
  fin : header.fin = front.fin
  opcode : header.opcode = front.opcode
  plen : header.plen = int64 front.length
  key : front.key = if header.masked then some header.mask else none

theorem readHeader_takes (ending : Ending) (first second : UInt8) (rest : List UInt8) :
    Takes (first :: second :: rest)
      (2 + (WebSocket.width (second &&& 0x7f) + WebSocket.keySize (second &&& 0x80 != 0)))
      (fun header => ∃ front, declared (first :: second :: rest) = some front ∧ header.Of front)
      (readHeader ending (first :: second :: rest)) := by
  refine (readFull_takes ending 2 _).bind ?_
  rintro header - rfl
  refine (extendedLength_takes _).bind ?_
  rintro plen wide rfl
  refine (readMask_takes _).value (fun mask => (⟨_, _, _, _, mask⟩ : Header)) ?_
  intro mask there is
  rw [List.length_drop] at there
  change _ ≤ rest.length at wide
  change _ ≤ rest.length - _ at there
  have enough : ¬rest.length <
      WebSocket.width (second &&& 0x7f) + WebSocket.keySize (second &&& 0x80 != 0) := by
    omega
  refine ⟨_, if_neg enough, ⟨rfl, rfl, rfl, ?_⟩⟩
  change (if (second &&& 0x80 != 0) = true then _ else _) =
    if (second &&& 0x80 != 0) = true then _ else _
  by_cases masked : (second &&& 0x80 != 0) = true
  · rw [if_pos masked, if_pos masked, is masked]
    rfl
  · rw [if_neg masked, if_neg masked]

theorem readHeader_short (ending : Ending) (short : declared bytes = none) :
    ∃ answer : Answer, answer.Calm ∧ readHeader ending bytes = .error answer := by
  have early : ∀ few : List UInt8, few.length < 2 →
      readHeader ending few = .error (ending.answer few) := by
    intro few short
    rw [readHeader, readFull, if_neg (by omega)]
    rfl
  match bytes with
  | [] => exact ⟨_, answer_calm ending [], early [] (by simp)⟩
  | [byte] => exact ⟨_, answer_calm ending [byte], early [byte] (by simp)⟩
  | first :: second :: rest =>
    have taken := readHeader_takes ending first second rest
    generalize readHeader ending (first :: second :: rest) = read at taken ⊢
    cases taken with
    | short calm cut => exact ⟨_, calm, rfl⟩
    | whole enough good =>
      obtain ⟨front, whole, _⟩ := good
      exact absurd (short.symm.trans whole) (Option.some_ne_none front).symm

theorem readHeader_whole {front : Declared} (ending : Ending)
    (whole : declared bytes = some front) :
    ∃ header : Header, header.Of front ∧
      readHeader ending bytes = .ok (header, bytes.drop front.size) := by
  match bytes with
  | [] => simp [declared] at whole
  | [byte] => simp [declared] at whole
  | first :: second :: rest =>
    have taken := readHeader_takes ending first second rest
    have size := WebSocket.declared_size_eq whole
    generalize readHeader ending (first :: second :: rest) = read at taken ⊢
    cases taken with
    | short calm cut =>
      have inside := (WebSocket.declared_size whole).2
      omega
    | @whole header enough good =>
      obtain ⟨same, is, of⟩ := good
      obtain rfl := Option.some.inj (whole.symm.trans is)
      exact ⟨header, of, by rw [size]⟩

section Frames

variable {maxAlloc : Nat}

def Fits (maxAlloc : Nat) (front : Declared) : Prop :=
  front.length < 2 ^ 63 ∧ front.length ≤ maxAlloc

theorem makeBytes_fits {front : Declared} (fits : Fits maxAlloc front) :
    makeBytes maxAlloc (int64 front.length) = .ok front.length := by
  rw [int64_small fits.1, makeBytes, if_neg (by have := fits.2; omega)]
  rfl

theorem makeBytes_panics {front : Declared} (fits : ¬Fits maxAlloc front)
    (word : front.length < 2 ^ 64) :
    makeBytes maxAlloc (int64 front.length) = .error .panics := by
  rw [makeBytes, if_pos]
  by_cases small : front.length < 2 ^ 63
  · have large : ¬front.length ≤ maxAlloc := fun within => fits ⟨small, within⟩
    rw [int64_small small]
    omega
  · rw [int64, if_neg small]
    omega

theorem readFrame_short (maxAlloc : Nat) (ending : Ending) (short : declared bytes = none) :
    ∃ answer : Answer, answer.Calm ∧ readFrame maxAlloc ending bytes = .error answer := by
  obtain ⟨answer, calm, failed⟩ := readHeader_short ending short
  refine ⟨answer, calm, ?_⟩
  rw [readFrame, failed]
  rfl

theorem readFrame_panics {front : Declared} (whole : declared bytes = some front)
    (fits : ¬Fits maxAlloc front) : readFrame maxAlloc ending bytes = .error .panics := by
  obtain ⟨header, of, read⟩ := readHeader_whole ending whole
  have panics := makeBytes_panics fits (WebSocket.declared_length whole)
  rw [readFrame, read]
  change (readPayload maxAlloc ending header _ >>= _) = _
  rw [readPayload, of.plen, panics]
  rfl

theorem readFrame_cut {front : Declared} (ending : Ending) (whole : declared bytes = some front)
    (fits : Fits maxAlloc front) (cut : ¬front.Whole bytes) :
    ∃ answer : Answer, answer.Calm ∧ readFrame maxAlloc ending bytes = .error answer := by
  obtain ⟨header, of, read⟩ := readHeader_whole ending whole
  have inside := (WebSocket.declared_size whole).2
  have short : (bytes.drop front.size).length < front.length := by
    rw [Declared.Whole] at cut
    rw [List.length_drop]
    omega
  refine ⟨_, answer_calm ending (bytes.drop front.size), ?_⟩
  rw [readFrame, read]
  change (readPayload maxAlloc ending header _ >>= _) = _
  rw [readPayload, of.plen, makeBytes_fits fits]
  change ((readFull ending front.length (bytes.drop front.size) >>= _) >>= _) = _
  rw [readFull, if_neg (by omega)]
  rfl

theorem readFrame_whole {front : Declared} (ending : Ending) (whole : declared bytes = some front)
    (fits : Fits maxAlloc front) (there : front.Whole bytes) :
    ∃ header : Header, header.Of front ∧
      readFrame maxAlloc ending bytes = .ok (header, front.payload bytes, front.behind bytes) := by
  obtain ⟨header, of, read⟩ := readHeader_whole ending whole
  have enough : front.length ≤ (bytes.drop front.size).length := by
    rw [Declared.Whole] at there
    rw [List.length_drop]
    omega
  refine ⟨header, of, ?_⟩
  rw [readFrame, read]
  change (readPayload maxAlloc ending header _ >>= _) = _
  rw [readPayload, of.plen, makeBytes_fits fits]
  change ((readFull ending front.length (bytes.drop front.size) >>= _) >>= _) = _
  rw [readFull, if_pos enough]
  change Except.ok (header, _, (bytes.drop front.size).drop front.length) = _
  rw [List.drop_drop, Declared.behind, Declared.payload, of.key]
  cases header.masked <;> rfl

/-! ### One turn -/

variable {acc : List UInt8} {ws : WsConn}

theorem turn_short (maxAlloc : Nat) (acc : List UInt8) (short : declared ws.arrived = none) :
    ∃ answer : Answer, answer.Calm ∧
      turn maxAlloc acc ws = .returns answer { ws with arrived := [] } := by
  obtain ⟨answer, calm, failed⟩ := readFrame_short maxAlloc ws.ending short
  exact ⟨answer, calm, by rw [turn, failed]⟩

theorem turn_cut {front : Declared} (acc : List UInt8) (whole : declared ws.arrived = some front)
    (fits : Fits maxAlloc front) (cut : ¬front.Whole ws.arrived) :
    ∃ answer : Answer, answer.Calm ∧
      turn maxAlloc acc ws = .returns answer { ws with arrived := [] } := by
  obtain ⟨answer, calm, failed⟩ := readFrame_cut ws.ending whole fits cut
  exact ⟨answer, calm, by rw [turn, failed]⟩

theorem turn_panics {front : Declared} (whole : declared ws.arrived = some front)
    (fits : ¬Fits maxAlloc front) :
    turn maxAlloc acc ws = .returns .panics { ws with arrived := [] } := by
  rw [turn, readFrame_panics whole fits]

theorem turn_whole {front : Declared} (acc : List UInt8) (whole : declared ws.arrived = some front)
    (fits : Fits maxAlloc front) (there : front.Whole ws.arrived) :
    ∃ header : Header, header.Of front ∧ turn maxAlloc acc ws =
      switch maxAlloc acc header (front.payload ws.arrived)
        { ws with arrived := front.behind ws.arrived } := by
  obtain ⟨header, of, read⟩ := readFrame_whole ws.ending whole fits there
  exact ⟨header, of, by rw [turn, read]⟩

theorem switch_again {header : Header} {payload later : List UInt8} {next : WsConn}
    (goes : switch maxAlloc acc header payload ws = .again later next) :
    next.arrived = ws.arrived := by
  simp only [switch, finish, WsConn.sendControl] at goes
  split_ifs at goes <;> exact (Turn.again.inj goes).2 ▸ rfl

theorem turn_shrinks {later : List UInt8} {next : WsConn}
    (goes : turn maxAlloc acc ws = .again later next) :
    next.arrived.length < ws.arrived.length := by
  rcases whole : declared ws.arrived with _ | front
  · obtain ⟨answer, _, is⟩ := turn_short maxAlloc acc whole
    rw [is] at goes
    cases goes
  have size := WebSocket.declared_size whole
  by_cases fits : Fits maxAlloc front
  · by_cases there : front.Whole ws.arrived
    · obtain ⟨header, _, is⟩ := turn_whole acc whole fits there
      rw [is] at goes
      have left := congrArg List.length (switch_again goes)
      simp only [Declared.behind, List.length_drop] at left
      omega
    · obtain ⟨answer, _, is⟩ := turn_cut acc whole fits there
      rw [is] at goes
      cases goes
  · rw [turn_panics whole fits] at goes
    cases goes

end Frames

end Spec

/-! ## Messages -/

section Messages

variable (maxAlloc : Nat)

def readFrames (acc : List UInt8) (ws : WsConn) : Answer × WsConn :=
  match _goes : turn maxAlloc acc ws with
  | .again acc next => readFrames acc next
  | .returns answer next => (answer, next)
termination_by ws.arrived.length
decreasing_by exact turn_shrinks _goes

def WsConn.readMessage (ws : WsConn) : Answer × WsConn := readFrames maxAlloc [] ws

/-- The answers of so many calls, one after the other. -/
def WsConn.readMessages : Nat → WsConn → List Answer
  | 0, _ => []
  | count + 1, ws =>
    let (answer, next) := ws.readMessage maxAlloc
    answer :: next.readMessages count

end Messages

section Rounds

variable {maxAlloc : Nat} {acc : List UInt8} {ws : WsConn}

theorem readFrames_again {later : List UInt8} {next : WsConn}
    (goes : turn maxAlloc acc ws = .again later next) :
    readFrames maxAlloc acc ws = readFrames maxAlloc later next := by
  rw [readFrames, goes]

theorem readFrames_returns {answer : Answer} {next : WsConn}
    (goes : turn maxAlloc acc ws = .returns answer next) :
    readFrames maxAlloc acc ws = (answer, next) := by
  rw [readFrames, goes]

/-! ### What a frame of each kind does -/

variable {header : Header} {payload : List UInt8}

theorem switch_data (data : header.opcode = Opcode.continuation.code ∨
    header.opcode = Opcode.text.code ∨ header.opcode = Opcode.binary.code) :
    switch maxAlloc acc header payload ws = finish header.fin (acc ++ payload) ws := by
  rw [switch]
  by_cases continued : header.opcode = 0x0
  · rw [if_pos continued]
  · rw [if_neg continued]
    exact if_pos (data.resolve_left continued)

theorem switch_close (close : header.opcode = Opcode.close.code) :
    switch maxAlloc acc header payload ws = .returns (.error .eof) ws := by
  simp [switch, close, Opcode.code]

theorem switch_ping (ping : header.opcode = Opcode.ping.code) :
    switch maxAlloc acc header payload ws =
      match ws.sendControl maxAlloc Opcode.pong.code payload with
      | none => .returns .panics ws
      | some ws => .again acc ws := by
  simp [switch, ping, Opcode.code]

theorem switch_pong (pong : header.opcode = Opcode.pong.code) :
    switch maxAlloc acc header payload ws = .again acc ws := by
  simp [switch, pong, Opcode.code]

theorem switch_finish (maxAlloc : Nat) (acc payload : List UInt8) (ws : WsConn)
    (close : header.opcode ≠ Opcode.close.code)
    (ping : header.opcode ≠ Opcode.ping.code) (pong : header.opcode ≠ Opcode.pong.code) :
    ∃ kept, switch maxAlloc acc header payload ws = finish header.fin kept ws := by
  rw [switch]
  split_ifs with continued data close' ping' pong'
  · exact ⟨_, rfl⟩
  · exact ⟨_, rfl⟩
  · exact absurd close' close
  · exact absurd ping' ping
  · exact absurd pong' pong
  · exact ⟨_, rfl⟩

end Rounds

/-! ## Encoded messages -/

section Encoded

variable {maxAlloc : Nat}

/-- The answers of so many calls, of which the first goes on with the fragments before it. -/
def answersFrom (maxAlloc : Nat) (acc : List UInt8) : Nat → WsConn → List Answer
  | 0, _ => []
  | count + 1, ws =>
    (readFrames maxAlloc acc ws).1 :: (readFrames maxAlloc acc ws).2.readMessages maxAlloc count

theorem answersFrom_nil (count : Nat) (ws : WsConn) :
    answersFrom maxAlloc [] count ws = ws.readMessages maxAlloc count := by
  cases count <;> rfl

theorem answersFrom_again {acc later : List UInt8} {ws next : WsConn} (count : Nat)
    (goes : turn maxAlloc acc ws = .again later next) :
    answersFrom maxAlloc acc count ws = answersFrom maxAlloc later count next := by
  cases count with
  | zero => rfl
  | succ count => rw [answersFrom, answersFrom, readFrames_again goes]

theorem answersFrom_returns {acc : List UInt8} {ws next : WsConn} {answer : Answer} (count : Nat)
    (goes : turn maxAlloc acc ws = .returns answer next) :
    answersFrom maxAlloc acc (count + 1) ws = answer :: next.readMessages maxAlloc count := by
  rw [answersFrom, readFrames_returns goes]

theorem encode_cons (frame : Frame) (frames : List Frame) (rest : List UInt8) :
    encode (frame :: frames) ++ rest = frame.bytes ++ (encode frames ++ rest) := by
  rw [encode, List.flatMap_cons, List.append_assoc]
  rfl

theorem turn_frame (room : 2 ^ 31 ≤ maxAlloc) (frame : Frame)
    (small : frame.payload.length < 2 ^ 31) (acc rest : List UInt8) (ending : Ending)
    (written : List (List UInt8)) :
    ∃ header : Header, header.fin = frame.fin ∧ header.opcode = frame.opcode.code ∧
      turn maxAlloc acc ⟨frame.bytes ++ rest, ending, written⟩ =
        switch maxAlloc acc header frame.payload ⟨rest, ending, written⟩ := by
  have fits : Fits maxAlloc frame.declaration := by
    constructor
    · exact small.trans (by omega)
    · exact small.le.trans room
  let ws : WsConn := ⟨frame.bytes ++ rest, ending, written⟩
  have front : declared ws.arrived = some frame.declaration := frame.declared_bytes rest
  obtain ⟨header, of, is⟩ := turn_whole acc front fits (frame.whole_bytes rest)
  refine ⟨header, of.fin, of.opcode, is.trans ?_⟩
  rw [frame.payload_bytes, frame.behind_bytes]

theorem turn_between (room : 2 ^ 31 ≤ maxAlloc) {frame : Frame}
    (between : frame.opcode = .ping ∨ frame.opcode = .pong) (acc rest : List UInt8)
    (ending : Ending) (written : List (List UInt8)) :
    ∃ later, turn maxAlloc acc ⟨frame.bytes ++ rest, ending, written⟩ =
      .again acc ⟨rest, ending, later⟩ := by
  have short := (frame.control (.inr between)).2
  obtain ⟨header, -, opcode, is⟩ :=
    turn_frame room frame (by omega) acc rest ending written
  rw [is]
  rcases between with ping | pong
  · rw [switch_ping (by rw [opcode, ping]), WsConn.sendControl, if_neg (by omega)]
    exact ⟨_, rfl⟩
  · rw [switch_pong (by rw [opcode, pong])]
    exact ⟨_, rfl⟩

theorem turn_data (room : 2 ^ 31 ≤ maxAlloc) {frame : Frame}
    (small : frame.payload.length < 2 ^ 31)
    (data : frame.opcode = .continuation ∨ frame.opcode = .text ∨ frame.opcode = .binary)
    (acc rest : List UInt8) (ending : Ending) (written : List (List UInt8)) :
    turn maxAlloc acc ⟨frame.bytes ++ rest, ending, written⟩ =
      finish frame.fin (acc ++ frame.payload) ⟨rest, ending, written⟩ := by
  obtain ⟨header, fin, opcode, is⟩ := turn_frame room frame small acc rest ending written
  rw [is, switch_data, fin]
  rw [opcode]
  exact data.imp (congrArg _) (Or.imp (congrArg _) (congrArg _))

theorem answers_carried (room : 2 ^ 31 ≤ maxAlloc) {begun : Option (List UInt8)}
    {frames : List Frame} {messages : List (List UInt8)} (carries : Carries begun frames messages)
    (small : ∀ frame ∈ frames, frame.payload.length < 2 ^ 31) (count : Nat) (rest : List UInt8)
    (ending : Ending) (written : List (List UInt8)) :
    ∃ later, answersFrom maxAlloc (begun.getD []) (messages.length + count)
        ⟨encode frames ++ rest, ending, written⟩ =
      messages.map .message ++
        (⟨rest, ending, later⟩ : WsConn).readMessages maxAlloc count := by
  have next_small : ∀ {frame : Frame} {frames : List Frame},
      (∀ other ∈ frame :: frames, other.payload.length < 2 ^ 31) →
        frame.payload.length < 2 ^ 31 ∧ ∀ other ∈ frames, other.payload.length < 2 ^ 31 :=
    fun all => ⟨all _ List.mem_cons_self, fun other member => all _ (List.mem_cons_of_mem _ member)⟩
  induction carries generalizing written with
  | done => exact ⟨written, by simp [encode, answersFrom_nil]⟩
  | control between later ih =>
    obtain ⟨written, goes⟩ := turn_between room between _ (encode _ ++ rest) ending written
    obtain ⟨left, is⟩ := ih (next_small small).2 written
    exact ⟨left, by rw [encode_cons, answersFrom_again _ goes, is]⟩
  | @whole frame frames messages data fin later ih =>
    have goes := turn_data room (next_small small).1 (.inr data) [] (encode frames ++ rest) ending
      written
    rw [fin] at goes
    obtain ⟨left, is⟩ := ih (next_small small).2 written
    refine ⟨left, ?_⟩
    rw [encode_cons, List.length_cons, Nat.add_right_comm]
    exact (answersFrom_returns _ goes).trans
      (congrArg _ ((answersFrom_nil _ _).symm.trans is))
  | @first frame frames messages data more later ih =>
    have goes := turn_data room (next_small small).1 (.inr data) [] (encode frames ++ rest) ending
      written
    rw [more] at goes
    obtain ⟨left, is⟩ := ih (next_small small).2 written
    exact ⟨left, by rw [encode_cons]; exact (answersFrom_again _ goes).trans is⟩
  | @next begun frame frames messages continued more later ih =>
    have goes := turn_data room (next_small small).1 (.inl continued) begun
      (encode frames ++ rest) ending written
    rw [more] at goes
    obtain ⟨left, is⟩ := ih (next_small small).2 written
    exact ⟨left, by rw [encode_cons]; exact (answersFrom_again _ goes).trans is⟩
  | @last begun frame frames messages continued fin later ih =>
    have goes := turn_data room (next_small small).1 (.inl continued) begun
      (encode frames ++ rest) ending written
    rw [fin] at goes
    obtain ⟨left, is⟩ := ih (next_small small).2 written
    refine ⟨left, ?_⟩
    rw [encode_cons, List.length_cons, Nat.add_right_comm]
    exact (answersFrom_returns _ goes).trans
      (congrArg _ ((answersFrom_nil _ _).symm.trans is))

/-- Whatever frames carry the messages, one call after the other returns them in order. The next
call returns `io.EOF` at a close frame, and no message where nothing follows. -/
theorem messages_returned (room : 2 ^ 31 ≤ maxAlloc) {frames : List Frame}
    {messages : List (List UInt8)} (carries : Carries none frames messages)
    (small : ∀ frame ∈ frames, frame.payload.length < 2 ^ 31) (ending : Ending)
    (written : List (List UInt8)) :
    (∀ close : Frame, close.opcode = .close → ∀ more,
      (⟨encode (frames ++ [close]) ++ more, ending, written⟩ : WsConn).readMessages maxAlloc
        (messages.length + 1) = messages.map .message ++ [.error .eof]) ∧
    (⟨encode frames, ending, written⟩ : WsConn).readMessages maxAlloc (messages.length + 1) =
      messages.map .message ++ [ending.answer []] := by
  constructor
  · intro close is_close more
    obtain ⟨later, is⟩ := answers_carried room carries small 1 (close.bytes ++ more) ending written
    have short := (close.control (.inl is_close)).2
    obtain ⟨header, -, opcode, goes⟩ := turn_frame room close (by omega) [] more ending later
    rw [switch_close (by rw [opcode, is_close])] at goes
    have all : encode (frames ++ [close]) ++ more = encode frames ++ (close.bytes ++ more) := by
      simp [encode]
    rw [all, ← answersFrom_nil]
    refine is.trans (congrArg _ ?_)
    rw [← answersFrom_nil, answersFrom_returns 0 goes]
    rfl
  · obtain ⟨later, is⟩ := answers_carried room carries small 1 [] ending written
    have goes : turn maxAlloc [] ⟨[], ending, later⟩ =
        .returns (ending.answer []) ⟨[], ending, later⟩ := rfl
    rw [List.append_nil] at is
    rw [← answersFrom_nil]
    refine is.trans (congrArg _ ?_)
    rw [← answersFrom_nil, answersFrom_returns 0 goes]
    rfl

/-- `Hello` in a masked and a plain fragment, with a ping between them. -/
def hello : List Frame :=
  [⟨false, .text, .short, some #v[0x37, 0xfa, 0x21, 0x3d], [0x48, 0x65, 0x6c], by decide,
      by simp [Opcode.isControl]⟩,
    ⟨true, .ping, .short, none, [0x21], by decide, by simp⟩,
    ⟨true, .continuation, .medium, none, [0x6c, 0x6f], by decide, by simp [Opcode.isControl]⟩]

theorem hello_returned :
    (⟨encode hello, .closed, []⟩ : WsConn).readMessages (2 ^ 48) 2 =
      [.message [0x48, 0x65, 0x6c, 0x6c, 0x6f], .error .eof] :=
  (messages_returned (by omega) (.first (.inl rfl) rfl (.control (.inl rfl)
    (.last rfl rfl .done))) (by decide) .closed []).2

end Encoded

/-! ## Any bytes -/

section Streams

variable {maxAlloc : Nat} {acc : List UInt8} {ws : WsConn}

/-- The call does not panic, and writes nothing but control frames. -/
structure Safe (before : WsConn) (result : Answer × WsConn) : Prop where
  calm : result.1 ≠ .panics
  writes : ∃ sent, result.2.written = before.written ++ sent ∧ ∀ frame ∈ sent, ControlFrame frame

/-- The length at the front of the bytes can be allocated, and a ping fits a control frame. -/
structure Harmless (maxAlloc : Nat) (bytes : List UInt8) : Prop where
  fits : ∀ front, declared bytes = some front → Fits maxAlloc front
  ping : ∀ front, declared bytes = some front → front.opcode = Opcode.ping.code →
    front.Whole bytes → front.length ≤ 125

theorem controlFrame_iff {opcode : Opcode} (control : opcode.isControl) (payload : List UInt8) :
    ControlFrame ((0x80 ||| opcode.code) :: UInt8.ofNat payload.length :: payload) ↔
      payload.length ≤ 125 := by
  constructor
  · intro frame
    have length : (UInt8.ofNat payload.length).toNat + 2 = payload.length + 2 := frame.length
    have short : (UInt8.ofNat payload.length).toNat ≤ 125 := frame.short
    omega
  · intro short
    have length : (UInt8.ofNat payload.length).toNat = payload.length := by
      rw [UInt8.toNat_ofNat']
      omega
    exact ⟨⟨opcode, control, rfl⟩, congrArg (· + 2) length, length.trans_le short⟩

theorem switch_written {header : Header} {payload : List UInt8} :
    (∀ later next, switch maxAlloc acc header payload ws = .again later next →
        ws.written <+: next.written) ∧
      ∀ answer next, switch maxAlloc acc header payload ws = .returns answer next →
        ws.written <+: next.written := by
  constructor <;>
  · intro _ next goes
    simp only [switch, finish, WsConn.sendControl] at goes
    split_ifs at goes <;> injection goes with _ is <;> subst is <;> simp

theorem turn_written :
    (∀ later next, turn maxAlloc acc ws = .again later next → ws.written <+: next.written) ∧
      ∀ answer next, turn maxAlloc acc ws = .returns answer next →
        ws.written <+: next.written := by
  rw [turn]
  split
  · refine ⟨fun _ _ goes => (nomatch goes), fun answer next goes => ?_⟩
    obtain ⟨rfl, rfl⟩ := Turn.returns.inj goes
    exact List.prefix_rfl
  · exact switch_written

theorem readFrames_written (maxAlloc : Nat) (acc : List UInt8) (ws : WsConn) :
    ws.written <+: (readFrames maxAlloc acc ws).2.written := by
  fun_induction readFrames maxAlloc acc ws with
  | case1 acc ws later next goes ih => exact (turn_written.1 later next goes).trans ih
  | case2 acc ws answer next goes => exact turn_written.2 answer next goes

-- What the bytes at the front make of a call, when they do no harm.
theorem turn_calm {front : Declared} (acc : List UInt8) (whole : declared ws.arrived = some front)
    (fits : Fits maxAlloc front) (there : front.Whole ws.arrived)
    (other : front.opcode ≠ Opcode.ping.code) :
    (front.Continues ∧ ∃ later, turn maxAlloc acc ws =
        .again later { ws with arrived := front.behind ws.arrived }) ∨
      (¬front.Continues ∧ ∃ answer : Answer, answer.Calm ∧ turn maxAlloc acc ws =
        .returns answer { ws with arrived := front.behind ws.arrived }) := by
  obtain ⟨header, of, is⟩ := turn_whole acc whole fits there
  rw [is, Declared.Continues, ← of.fin, ← of.opcode]
  rw [← of.opcode] at other
  by_cases close : header.opcode = Opcode.close.code
  · refine .inr ⟨?_, .error .eof, Answer.noConfusion, switch_close close⟩
    simp [close, Opcode.code]
  · by_cases pong : header.opcode = Opcode.pong.code
    · exact .inl ⟨.inr (.inl pong), _, switch_pong pong⟩
    · obtain ⟨kept, same⟩ := switch_finish maxAlloc acc
        (front.payload ws.arrived) { ws with arrived := front.behind ws.arrived } close other pong
      rw [same, finish]
      cases more : header.fin with
      | false => exact .inl ⟨.inr (.inr ⟨close, rfl⟩), _, rfl⟩
      | true => exact .inr ⟨by simp [other, pong], _, Answer.noConfusion, rfl⟩

theorem Safe.quiet {before after : WsConn} {answer : Answer} (calm : answer.Calm)
    (same : after.written = before.written) : Safe before (answer, after) :=
  ⟨calm, [], by rw [List.append_nil, same], by simp⟩

-- A call that goes on after a control frame is as safe as what is left of it.
theorem safe_after {before : WsConn} (next : WsConn) {frames : List (List UInt8)}
    (wrote : next.written = before.written ++ frames)
    (control : ∀ frame ∈ frames, ControlFrame frame) (result : Answer × WsConn)
    (grows : next.written <+: result.2.written) : Safe before result ↔ Safe next result := by
  obtain ⟨more, all⟩ := grows
  constructor
  · rintro ⟨calm, sent, is, good⟩
    have same : sent = frames ++ more := by
      rw [← all, wrote, List.append_assoc] at is
      exact (List.append_cancel_left is).symm
    exact ⟨calm, more, all.symm, fun frame member =>
      good frame (same ▸ List.mem_append_right _ member)⟩
  · rintro ⟨calm, sent, is, good⟩
    refine ⟨calm, frames ++ sent, by rw [is, wrote, List.append_assoc], fun frame member => ?_⟩
    exact (List.mem_append.mp member).elim (control frame) (good frame)

-- A whole frame of a length that fits leaves the call safe if its answer is a control frame and
-- the rest of the message is safe.
theorem whole_safe_iff (room : 127 ≤ maxAlloc) {front : Declared} {rest : Prop}
    (whole : declared ws.arrived = some front) (fits : Fits maxAlloc front)
    (there : front.Whole ws.arrived)
    (behind : ∀ acc written, Safe ⟨front.behind ws.arrived, ws.ending, written⟩
      (readFrames maxAlloc acc ⟨front.behind ws.arrived, ws.ending, written⟩) ↔ rest) :
    Safe ws (readFrames maxAlloc acc ws) ↔
      (front.opcode = Opcode.ping.code → front.length ≤ 125) ∧ (front.Continues → rest) := by
  by_cases ping : front.opcode = Opcode.ping.code
  · obtain ⟨header, of, is⟩ := turn_whole acc whole fits there
    rw [switch_ping (of.opcode.trans ping), WsConn.sendControl,
      Declared.length_payload there] at is
    have length := Declared.length_payload there
    by_cases large : maxAlloc < 2 + front.length
    · rw [if_pos large] at is
      rw [readFrames_returns is]
      refine iff_of_false (fun safe => safe.calm rfl) fun short => ?_
      have := short.1 ping
      omega
    · rw [if_neg large, ← length] at is
      rw [readFrames_again is, ← length]
      have grows := readFrames_written maxAlloc acc
        ⟨front.behind ws.arrived, ws.ending, ws.written ++ [(0x80 ||| Opcode.pong.code) ::
          UInt8.ofNat (front.payload ws.arrived).length :: front.payload ws.arrived]⟩
      have control := controlFrame_iff (.inr (.inr rfl) : Opcode.pong.isControl)
        (front.payload ws.arrived)
      by_cases short : (front.payload ws.arrived).length ≤ 125
      · rw [safe_after _ rfl (by simpa using control.mpr short) _ grows, behind]
        simp only [ping, short, true_and, forall_const]
        exact ⟨fun safe _ => safe, fun safe => safe (.inl ping)⟩
      · refine iff_of_false (fun safe => ?_) fun both => short (both.1 ping)
        obtain ⟨more, all⟩ := grows
        obtain ⟨sent, same, good⟩ := safe.writes
        rw [← all, List.append_assoc] at same
        have written := List.append_cancel_left same
        exact short (control.mp (good _ (written ▸ List.mem_cons_self)))
  · have vacuous : (front.opcode = Opcode.ping.code → front.length ≤ 125) :=
      fun is => absurd is ping
    obtain ⟨continues, later, goes⟩ | ⟨ends, answer, calm, goes⟩ :=
      turn_calm acc whole fits there ping
    · rw [readFrames_again goes]
      have grows := readFrames_written maxAlloc later
        ⟨front.behind ws.arrived, ws.ending, ws.written⟩
      -- Nothing is written, so the call is as safe as the one behind the frame.
      rw [safe_after ⟨front.behind ws.arrived, ws.ending, ws.written⟩
        (List.append_nil ws.written).symm (by simp) _ grows, behind]
      exact ⟨fun safe => ⟨vacuous, fun _ => safe⟩, fun both => both.2 continues⟩
    · rw [readFrames_returns goes]
      exact iff_of_true (.quiet calm rfl) ⟨vacuous, fun continues => absurd continues ends⟩

/-- A call is safe exactly where every frame of the message has a length that can be allocated, and
every ping that arrives whole one of at most 125. -/
theorem readFrames_safe_iff (room : 127 ≤ maxAlloc) (acc : List UInt8) (ws : WsConn) :
    Safe ws (readFrames maxAlloc acc ws) ↔
      ∀ later, Relation.ReflTransGen WebSocket.Follows ws.arrived later →
        Harmless maxAlloc later := by
  induction size : ws.arrived.length using Nat.strong_induction_on generalizing acc ws with
  | _ bound ih =>
  rw [WebSocket.frames_iff]
  rcases whole : declared ws.arrived with _ | front
  · obtain ⟨answer, calm, goes⟩ := turn_short maxAlloc acc whole
    rw [readFrames_returns goes]
    refine iff_of_true (.quiet calm rfl) ⟨⟨?_, ?_⟩, ?_⟩
    · intro front is
      cases whole.symm.trans is
    · intro front is
      cases whole.symm.trans is
    · rintro next ⟨front, is, _⟩
      cases whole.symm.trans is
  have here : Harmless maxAlloc ws.arrived ↔ Fits maxAlloc front ∧
      (front.opcode = Opcode.ping.code → front.Whole ws.arrived → front.length ≤ 125) := by
    constructor
    · exact fun harmless => ⟨harmless.fits front whole, harmless.ping front whole⟩
    · rintro ⟨fits, ping⟩
      constructor <;> intro other is <;> obtain rfl := Option.some.inj (whole.symm.trans is)
      · exact fits
      · exact ping
  have start := WebSocket.declared_size whole
  by_cases fits : Fits maxAlloc front
  · by_cases there : front.Whole ws.arrived
    · have shorter : (front.behind ws.arrived).length < bound := by
        rw [Declared.behind, List.length_drop]
        omega
      have behind : ∀ acc written, Safe ⟨front.behind ws.arrived, ws.ending, written⟩
          (readFrames maxAlloc acc ⟨front.behind ws.arrived, ws.ending, written⟩) ↔
            ∀ later, Relation.ReflTransGen WebSocket.Follows (front.behind ws.arrived) later →
              Harmless maxAlloc later :=
        fun acc written => ih _ shorter acc ⟨front.behind ws.arrived, ws.ending, written⟩ rfl
      rw [whole_safe_iff room whole fits there behind]
      constructor
      · rintro ⟨ping, rest⟩
        refine ⟨here.mpr ⟨fits, fun is _ => ping is⟩, fun next follows => ?_⟩
        obtain ⟨_, continues, rfl⟩ := (WebSocket.follows_iff whole).mp follows
        exact rest continues
      · rintro ⟨harmless, rest⟩
        refine ⟨fun is => (here.mp harmless).2 is there, fun continues => ?_⟩
        exact rest _ ((WebSocket.follows_iff whole).mpr ⟨there, continues, rfl⟩)
    · obtain ⟨answer, calm, goes⟩ := turn_cut acc whole fits there
      rw [readFrames_returns goes]
      refine iff_of_true (.quiet calm rfl) ⟨here.mpr ⟨fits, fun _ all => absurd all there⟩, ?_⟩
      intro next follows
      exact absurd ((WebSocket.follows_iff whole).mp follows).1 there
  · rw [readFrames_returns (turn_panics whole fits)]
    exact iff_of_false (fun safe => safe.calm rfl) fun harmless => fits (here.mp harmless.1).1

theorem harmless_of {bytes : List UInt8} {front : Declared} (whole : declared bytes = some front)
    (fits : Fits maxAlloc front) (short : front.length ≤ 125) : Harmless maxAlloc bytes := by
  constructor <;> intro other is <;> obtain rfl := Option.some.inj (whole.symm.trans is)
  · exact fits
  · exact fun _ _ => short

theorem small_ping_safe : Safe ⟨[0x89, 0x01, 0x21], .silence, []⟩
    (readFrames (2 ^ 48) [] ⟨[0x89, 0x01, 0x21], .silence, []⟩) := by
  have front : declared [0x89, 0x01, 0x21] = some ⟨true, 0x9, none, 2, 1⟩ := rfl
  refine (readFrames_safe_iff (by omega) [] ⟨[0x89, 0x01, 0x21], .silence, []⟩).mpr ?_
  rw [WebSocket.frames_iff]
  refine ⟨harmless_of front ⟨by decide, by decide⟩ (by decide), fun next follows => ?_⟩
  obtain ⟨_, _, rfl⟩ := (WebSocket.follows_iff front).mp follows
  rw [WebSocket.frames_iff]
  refine ⟨⟨?_, ?_⟩, ?_⟩
  · exact fun _ is => nomatch is
  · exact fun _ is => nomatch is
  · rintro later ⟨_, is, _⟩
    cases is

set_option maxRecDepth 4000 in
/-- A length with its top bit set, and a ping of 126 bytes. -/
theorem gateway_frames_harm :
    (readFrames (2 ^ 48) [] ⟨[0x82, 0x7f, 0x80, 0, 0, 0, 0, 0, 0, 0], .silence, []⟩).1 = .panics ∧
      ∃ frame ∈ (readFrames (2 ^ 48) []
          ⟨[0x89, 0x7e, 0x00, 0x7e] ++ List.replicate 126 0, .silence, []⟩).2.written,
        ¬ControlFrame frame := by
  constructor
  · have front : declared [0x82, 0x7f, 0x80, 0, 0, 0, 0, 0, 0, 0] =
        some ⟨true, 0x2, none, 10, 2 ^ 63⟩ := rfl
    rw [readFrames_returns (turn_panics front fun fits => absurd fits.1 (by decide))]
  · have ping : turn (2 ^ 48) [] ⟨[0x89, 0x7e, 0x00, 0x7e] ++ List.replicate 126 0, .silence, []⟩ =
        .again [] ⟨[], .silence, [0x8a :: 0x7e :: List.replicate 126 0]⟩ := rfl
    have grows := readFrames_written (2 ^ 48) []
      ⟨[], .silence, [0x8a :: 0x7e :: List.replicate 126 0]⟩
    rw [readFrames_again ping]
    refine ⟨_, grows.subset List.mem_cons_self, fun frame => ?_⟩
    exact absurd frame.short (by decide)

-- The close frame of `Close`.
theorem close_sent (room : 127 ≤ maxAlloc) (ws : WsConn) :
    ∃ next, ws.sendControl maxAlloc Opcode.close.code [] = some next ∧
      ∃ frame, next.written = ws.written ++ [frame] ∧ ControlFrame frame :=
  ⟨_, if_neg (by simp only [List.length_nil]; omega), _, rfl,
    (controlFrame_iff (.inl rfl) []).mpr (Nat.zero_le _)⟩

end Streams

end SystemScale.Sdk.Go

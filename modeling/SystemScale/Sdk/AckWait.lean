import SystemScale.Cloud.Query
import SystemScale.Sdk.GoReceiver

set_option autoImplicit false

/-!
# Waiting for an acknowledgment

Both senders read the event stream of a command line by line until a line holds an answer. Python
asks for at most 4096 bytes of a line at a time.
-/

namespace SystemScale.Sdk

open Json (Value lookup)

/-! ## Python -/

/-- `readline(limit)`: all up to a line break, or `limit` bytes of a longer line. -/
def readline (limit : Nat) (body : List UInt8) : List UInt8 × List UInt8 :=
  match (body.take limit).idxOf? 0x0A with
  | some index => body.splitAt (index + 1)
  | none => body.splitAt limit

-- Each call takes a byte at least; `fuel` bounds their number.
def readlines (limit : Nat) : Nat → List UInt8 → List (List UInt8)
  | 0, _ => []
  | fuel + 1, body =>
    if body = [] then []
    else (readline limit body).1 :: readlines limit fuel (readline limit body).2

structure CommandResult where
  commandId : String
  status : Value
  message : Value

def strip (text : List Char) : List Char := (lstrip text).rdropWhile isSpace

/-- What a line comes to: nothing yet, an answer, or an exception that ends the wait. -/
inductive Heard where
  | nothing
  | answered (status message : Value)
  | raised

-- `json.loads` of a text that is no object has no `get`.
def hearLine (lineBytes : List UInt8) : Heard :=
  let line := rstrip (Utf8.lossy lineBytes).toList
  if "data:".toList.isPrefixOf line then
    match pythonReader.read (strip (line.drop 5)) with
    | some (.object ack) =>
      let status := (lookup "status" ack).getD (.string "")
      if truthy status then .answered status ((lookup "message" ack).getD (.string ""))
      else .nothing
    | some _ => .raised
    | none => .nothing
  else .nothing

def waitLines (commandId : String) : List (List UInt8) → CommandResult
  | [] => ⟨commandId, .string "timeout", .string ""⟩
  | line :: rest =>
    match hearLine line with
    | .nothing => waitLines commandId rest
    | .answered status message => ⟨commandId, status, message⟩
    | .raised => ⟨commandId, .string "timeout", .string ""⟩

/-- `_wait_for_ack_sse` with a stream that ends. -/
def waitForAckSse (commandId : String) (stream : List UInt8) : CommandResult :=
  waitLines commandId (readlines 4096 stream.length stream)

/-! ## Go -/

namespace Go

open Cloud (goReader foldEqual decodeGoString trimSpace)

structure Ack where
  status : String
  message : String

def Ack.set (ack : Ack) (key : String) (value : Value) : Option Ack :=
  if foldEqual "status" key then
    (decodeGoString ack.status value).map fun status => { ack with status := status }
  else if foldEqual "message" key then
    (decodeGoString ack.message value).map fun message => { ack with message := message }
  else some ack

def unmarshalAck (data : List Char) : Option Ack :=
  match goReader.read data with
  | some (.object fields) => fields.foldlM (fun ack field => ack.set field.1 field.2) ⟨"", ""⟩
  | some .null => some ⟨"", ""⟩
  | _ => none

structure CommandResult where
  commandID : String
  status : String
  message : String

def ackOfLine (line : List Char) : Option Ack :=
  if "data:".toList.isPrefixOf line then unmarshalAck (trimSpace (line.drop 5)) else none

/-- `waitForACK` with a stream that ends. -/
def waitForACK (commandID : String) (stream : List Char) : CommandResult :=
  match (scanLines stream).findSome? ackOfLine with
  | some ack => ⟨commandID, ack.status, ack.message⟩
  | none => ⟨commandID, "timeout", ""⟩

end Go

/-! ## The lines that Python gets -/

section Lines

variable {limit : Nat} {body : List UInt8}

theorem readline_take (limit : Nat) (body : List UInt8) :
    ∃ kept, readline limit body = (body.take kept, body.drop kept) := by
  unfold readline
  split
  · exact ⟨_, List.splitAt_eq⟩
  · exact ⟨_, List.splitAt_eq⟩

-- Every line is a part of the stream.
theorem mem_readlines {fuel : Nat} {line : List UInt8} (member : line ∈ readlines limit fuel body) :
    ∃ start kept, line = (body.drop start).take kept := by
  induction fuel generalizing body with
  | zero => cases member
  | succ fuel ih =>
    obtain ⟨kept, split⟩ := readline_take limit body
    rw [readlines] at member
    split_ifs at member
    · cases member
    · rw [split] at member
      rcases List.mem_cons.mp member with rfl | later
      · exact ⟨0, kept, by rw [List.drop_zero]⟩
      · obtain ⟨start, more, rfl⟩ := ih later
        exact ⟨kept + start, more, by rw [List.drop_drop]⟩

theorem idxOf_break {line : List UInt8} (unbroken : 0x0A ∉ line) (rest : List UInt8) :
    (line ++ 0x0A :: rest).idxOf? 0x0A = some line.length := by
  induction line with
  | nil => simp [List.idxOf?_cons]
  | cons byte line ih =>
    obtain ⟨other, unbroken⟩ := List.ne_and_not_mem_of_not_mem_cons unbroken
    rw [List.cons_append, List.idxOf?_cons, if_neg (by simpa using other.symm), ih unbroken]
    rfl

theorem readline_short {line rest : List UInt8} (unbroken : 0x0A ∉ line)
    (short : line.length < limit) :
    readline limit (line ++ 0x0A :: rest) = (line ++ [0x0A], rest) := by
  have front : (line ++ 0x0A :: rest).take limit =
      line ++ 0x0A :: rest.take (limit - line.length - 1) := by
    obtain ⟨more, is⟩ : ∃ more, limit = line.length + (more + 1) :=
      ⟨limit - line.length - 1, by omega⟩
    rw [is, List.take_append, List.take_of_length_le (by omega), Nat.add_sub_cancel_left,
      List.take_succ_cons, Nat.add_sub_cancel]
  have split : line ++ 0x0A :: rest = (line ++ [0x0A]) ++ rest := by simp
  have size : line.length + 1 = (line ++ [0x0A]).length := by simp
  rw [readline, front, idxOf_break unbroken]
  show (line ++ 0x0A :: rest).splitAt (line.length + 1) = _
  rw [List.splitAt_eq, split, size, List.take_left, List.drop_left]

theorem readline_long (unbroken : 0x0A ∉ body.take limit) :
    readline limit body = (body.take limit, body.drop limit) := by
  rw [readline, List.idxOf?_eq_none_iff.mpr unbroken]
  exact List.splitAt_eq

end Lines

-- What an answer is read from.
theorem hearLine_answered {bytes : List UInt8} {status message : Value}
    (answered : hearLine bytes = .answered status message) :
    ∃ ahead object behind field fields,
      (Utf8.lossy bytes).toList = 'd' :: (ahead ++ (object ++ behind)) ∧
        pythonReader.read object = some (.object (field :: fields)) := by
  simp only [hearLine] at answered
  split at answered
  · next data =>
    obtain ⟨rest, starts⟩ := List.isPrefixOf_iff_prefix.mp data
    obtain ⟨broken, rstripped⟩ := List.rdropWhile_prefix
      (fun c => c = '\r' || c = '\n') (Utf8.lossy bytes).toList
    obtain ⟨ended, stripped⟩ := List.rdropWhile_prefix isSpace (lstrip rest)
    have lead : rest = rest.takeWhile isSpace ++ lstrip rest :=
      (List.takeWhile_append_dropWhile).symm
    have dropped : (rstrip (Utf8.lossy bytes).toList).drop 5 = rest := by
      rw [← starts]
      rfl
    have whole : (Utf8.lossy bytes).toList =
        'd' :: ("ata:".toList ++ rest.takeWhile isSpace ++ (strip rest ++ (ended ++ broken))) := by
      have front : (Utf8.lossy bytes).toList = "data:".toList ++ rest ++ broken := by
        rw [starts]
        exact rstripped.symm
      have split : rest = rest.takeWhile isSpace ++ (strip rest ++ ended) := by
        rw [strip, stripped]
        exact lead
      rw [front]
      nth_rewrite 1 [split]
      simp
    rw [dropped] at answered
    split at answered
    · next fields read =>
      cases fields with
      | nil => simp [Json.lookup, truthy] at answered
      | cons field fields => exact ⟨_, _, _, field, fields, whole, read⟩
    · cases answered
    · cases answered
  · cases answered

theorem waitLines_silent (commandId : String) {lines : List (List UInt8)}
    (silent : ∀ line ∈ lines, ∀ status message, hearLine line ≠ .answered status message) :
    waitLines commandId lines = ⟨commandId, .string "timeout", .string ""⟩ := by
  induction lines with
  | nil => rfl
  | cons line rest ih =>
    have later := ih fun other member => silent other (List.mem_cons_of_mem _ member)
    rw [waitLines]
    cases heard : hearLine line with
    | nothing => exact later
    | raised => rfl
    | answered status message => exact absurd heard (silent line (by simp) status message)

end SystemScale.Sdk

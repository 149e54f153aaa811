import Mathlib.Data.List.Infix
import SystemScale.Cloud.AckJson
import SystemScale.Cloud.CommandCodec
import SystemScale.Contract.CommandContent
import SystemScale.Lib.Rounds
import SystemScale.Sdk.AckWait

set_option autoImplicit false

/-!
# Acknowledgments that their senders read

The event of an entry is one line of JSON. Go reads lines of up to 64 KiB. Python cuts a line behind
4096 bytes and reads none of the pieces.
-/

namespace SystemScale.Contract

open Cloud Sdk
open Json (Value lookup)
open Sdk.Go (bytesOf fits)

/-! ## Sizes -/

def textSize (ack : CommandAck) : Nat :=
  ack.commandID.length + ack.vehicleID.length + ack.message.length

theorem length_goSlice {data part : List UInt8} {low : Nat} {high : Int}
    (read : goSlice data low high = some part) : low + part.length ≤ data.length := by
  unfold goSlice at read
  split_ifs at read with inside
  obtain rfl := Option.some.inj read
  simp only [List.length_take, List.length_drop, Int.toNat_natCast]
  omega

theorem textSize_setVarint (ack : CommandAck) (number : Nat) (value : UInt64) :
    textSize (ack.setVarint number value) = textSize ack := by
  unfold CommandAck.setVarint
  split <;> rfl

theorem textSize_setString (ack : CommandAck) (number : Nat) (text : GoString) :
    textSize (ack.setString number text) ≤ textSize ack + text.length := by
  unfold CommandAck.setString
  split <;> simp only [textSize] <;> omega

/-- The texts that are held are parts of what has been read. -/
def TextsRead (data : List UInt8) (state : Nat × CommandAck) : Prop :=
  textSize state.2 ≤ state.1 ∧ textSize state.2 ≤ data.length

theorem textsRead_step {data : List UInt8} {state later : Nat × CommandAck}
    (held : TextsRead data state) (step : decodeCommandAckStep data state = .next later) :
    TextsRead data later := by
  obtain ⟨pos, ack⟩ := state
  obtain ⟨behind, within⟩ := held
  simp only at behind within
  rw [decodeCommandAckStep] at step
  split_ifs at step
  split at step
  next tag n read =>
    split_ifs at step
    extract_lets after number at step
    split at step
    · split at step
      next value n2 read =>
        split_ifs at step
        obtain rfl := Wire.Step.next.inj step
        simp only [TextsRead, textSize_setVarint]
        omega
    · split at step
      next size n2 read =>
        split_ifs at step
        extract_lets start at step
        split at step
        · cases step
        · next text found =>
          obtain rfl := Wire.Step.next.inj step
          have stored := textSize_setString ack number text
          have part := length_goSlice found
          simp only [TextsRead]
          omega
    · cases step

theorem decodeCommandAckStep_returned {data : List UInt8} {pos : Nat} {ack found : CommandAck}
    (step : decodeCommandAckStep data (pos, ack) = .done (.ok found)) : found = ack := by
  rw [decodeCommandAckStep] at step
  have same {first second : CommandAck}
      (is : Wire.Step.done (.ok first) =
        (Wire.Step.done (.ok second) : Wire.Step (Nat × CommandAck) (Wire.Outcome CommandAck))) :
      second = first := by
    injection is with result
    injection result with result
    exact result.symm
  split_ifs at step
  · split at step
    next tag n read =>
      split_ifs at step
      · exact same step
      · extract_lets after number at step
        split at step
        · split at step
          split_ifs at step
          cases step
        · split at step
          split_ifs at step
          · cases step
          · extract_lets start at step
            split at step <;> cases step
        · cases step
  · exact same step

theorem textSize_decoded {data : List UInt8} {ack : CommandAck}
    (decoded : decodeCommandAck data = .ok ack) : textSize ack ≤ data.length := by
  have kept (state later : Nat × CommandAck) (held : TextsRead data state)
      (step : decodeCommandAckStep data state = .next later) : TextsRead data later :=
    textsRead_step held step
  have returns (state : Nat × CommandAck) (result : Wire.Outcome CommandAck)
      (held : TextsRead data state) (step : decodeCommandAckStep data state = .done result) :
      ∀ found, result = .ok found → textSize found ≤ data.length := by
    rintro found rfl
    rw [decodeCommandAckStep_returned step]
    exact held.2
  cases ran : Wire.loop (decodeCommandAckStep data) (data.length + 1) (0, .empty) with
  | none =>
    rw [decodeCommandAck, ran] at decoded
    cases decoded
  | some result =>
    rw [decodeCommandAck, ran] at decoded
    have begins : TextsRead data (0, .empty) := ⟨Nat.le_refl _, Nat.zero_le _⟩
    exact Wire.loop_returned kept returns begins ran ack decoded

theorem bytesOf_eq (text : List Char) :
    bytesOf text = (text.flatMap String.utf8EncodeChar).length := by
  rw [bytesOf, Utf8.encode, String.toList_ofList]

theorem bytesOf_cons (c : Char) (text : List Char) :
    bytesOf (c :: text) = c.utf8Size + bytesOf text := by
  rw [bytesOf_eq, bytesOf_eq, List.flatMap_cons, List.length_append, String.length_utf8EncodeChar]

-- A character of ASCII is one byte.
theorem bytesOf_ascii {text : List Char} (ascii : ∀ c ∈ text, c.toNat < 0x80) :
    bytesOf text = text.length := by
  induction text with
  | nil => rfl
  | cons c text ih =>
    have small : c.val ≤ 127 := Nat.le_of_lt_succ (ascii c (by simp))
    have one : c.utf8Size = 1 := Char.utf8Size_eq_one_iff.mpr small
    rw [bytesOf_cons, one, ih fun other inside => ascii other (List.mem_cons_of_mem _ inside),
      List.length_cons, Nat.add_comm]

theorem bytesOf_unicode {unit : Nat} (small : unit < 0x10000) :
    bytesOf (Json.unicode unit) = 6 := by
  have digit : ∀ value < 16, value.digitChar.toNat < 0x80 := by decide
  have ascii : ∀ c ∈ Json.unicode unit, c.toNat < 0x80 := by
    simp only [Json.unicode, List.forall_mem_cons]
    exact ⟨by decide, by decide, digit _ (by omega), digit _ (by omega), digit _ (by omega),
      digit _ (by omega), by simp⟩
  exact bytesOf_ascii ascii

theorem bytesOf_escapeRune (rune : Option Char) : bytesOf (escapeRune rune) ≤ 6 := by
  cases rune with
  | none => exact (bytesOf_unicode (by decide)).le
  | some c =>
    have width := Char.utf8Size_le_four
    have empty : bytesOf [] = 0 := rfl
    rw [escapeRune, Json.Style.escape]
    split
    · next mark _ =>
      have backslash : '\\'.utf8Size = 1 := by decide
      have second := width mark
      rw [bytesOf_cons, bytesOf_cons, backslash, empty]
      omega
    · split_ifs with raw small
      · have only := width c
        rw [bytesOf_cons, empty]
        omega
      · exact (bytesOf_unicode small).le
      · refine absurd ?_ raw
        have differs {other : Char} (low : other.toNat < 0x10000) : c ≠ other := by
          rintro rfl
          exact small low
        simp only [goStyle, Bool.and_eq_true, decide_eq_true_eq]
        exact ⟨⟨⟨⟨⟨by omega, differs (by decide)⟩, differs (by decide)⟩, differs (by decide)⟩,
          differs (by decide)⟩, differs (by decide)⟩

/-- The bytes of a text between quotation marks. -/
def spelled (text : GoString) : Nat := bytesOf (inString text)

theorem spelled_le (text : GoString) : spelled text ≤ 6 * text.length := by
  have all (found : List (Option Char)) :
      bytesOf (found.flatMap escapeRune) ≤ 6 * found.length := by
    induction found with
    | nil => exact Nat.le_refl _
    | cons rune found ih =>
      have first := bytesOf_escapeRune rune
      rw [List.flatMap_cons, Go.bytesOf_append, List.length_cons]
      omega
  have count := length_runesLoop text.length (text.map UInt8.toNat)
  exact (all _).trans (Nat.mul_le_mul_left 6 count)

/-- The bytes of the event's line. -/
def lineSize (entry : AckEntry) : Nat :=
  78 + spelled entry.commandID + spelled entry.vehicleID + spelled (Utf8.encode entry.status) +
    spelled entry.message + entry.digits.length

theorem bytesOf_line (entry : AckEntry) : bytesOf entry.line = lineSize entry := by
  have digits : bytesOf entry.digits = entry.digits.length :=
    bytesOf_ascii fun c inside => by
      have digit : c.isDigit = true := Json.isDigit_toDigits _ c inside
      simp only [Char.isDigit, Bool.and_eq_true, decide_eq_true_eq] at digit
      exact Nat.lt_of_le_of_lt (show c.toNat ≤ 57 from digit.2) (by decide)
  have one (c : Char) (text : List Char) (ascii : c.utf8Size = 1) :
      bytesOf (c :: text) = 1 + bytesOf text := by rw [bytesOf_cons, ascii]
  have front : bytesOf "data: ".toList = 6 := by decide
  have first : bytesOf (opening "command_id") = 14 := by decide
  have second : bytesOf (opening "vehicle_id") = 14 := by decide
  have third : bytesOf (opening "status") = 10 := by decide
  have fourth : bytesOf (opening "message") = 11 := by decide
  have last : bytesOf (goStyle.quote "latency_ms") = 12 := by decide
  have close : bytesOf ['}'] = 1 := rfl
  have brace := one '{' (entry.inner ['}']) (by decide)
  rw [entry.line_eq, entry.marshal_inner, Go.bytesOf_append, front, brace]
  simp only [AckEntry.inner, List.append_assoc, List.cons_append, List.nil_append,
    Go.bytesOf_append, one '"' _ (by decide), one ',' _ (by decide), one ':' _ (by decide), first,
    second, third, fourth, last, digits, close, lineSize, spelled]
  clear one front first second third fourth last close brace digits
  omega

theorem length_status (ack : CommandAck) (now : Nat) :
    (Utf8.encode (ack.entry now).status).length ≤ 9 := by
  simp only [CommandAck.entry, commandStatusNames]
  split_ifs <;> decide

theorem length_digits (entry : AckEntry) : entry.digits.length ≤ 10 :=
  (Nat.length_toDigits_le_iff (by decide) (by decide)).mpr (entry.latencyMs.toNat_lt.trans (by decide))

theorem lineSize_le (ack : CommandAck) (now : Nat) :
    lineSize (ack.entry now) ≤ 142 + 6 * textSize ack := by
  have status := spelled_le (Utf8.encode (ack.entry now).status)
  have name := length_status ack now
  have digits := length_digits (ack.entry now)
  have command := spelled_le ack.commandID
  have vehicle := spelled_le ack.vehicleID
  have message := spelled_le ack.message
  have size : lineSize (ack.entry now) =
      78 + spelled ack.commandID + spelled ack.vehicleID +
        spelled (Utf8.encode (ack.entry now).status) + spelled ack.message +
          (ack.entry now).digits.length := rfl
  unfold textSize
  omega

-- What the relay lets through is short enough for Go.
theorem lineSize_lt {data : List UInt8} {ack : CommandAck}
    (decoded : decodeCommandAck data = .ok ack) (limit : data.length ≤ 4096) (now : Nat) :
    lineSize (ack.entry now) < Go.maxScanTokenSize := by
  have texts := textSize_decoded decoded
  have line := lineSize_le ack now
  have most : Go.maxScanTokenSize = 65536 := rfl
  omega

/-! ## Lines that are not cut -/

section Whole

variable (entry : AckEntry)

theorem marshal_closed : entry.marshal = '{' :: (entry.inner [] ++ ['}']) := by
  rw [entry.marshal_inner, ← entry.inner_append, List.nil_append]

theorem trim_marshal (space : Char → Bool) (blank : space ' ' = true) (opens : space '{' = false)
    (closes : space '}' = false) :
    ((' ' :: entry.marshal).dropWhile space).rdropWhile space = entry.marshal := by
  have unopened : ¬ space '{' = true := by simp [opens]
  have unclosed : ¬ space '}' = true := by simp [closes]
  rw [List.dropWhile_cons_of_pos blank, marshal_closed, List.dropWhile_cons_of_neg unopened,
    ← List.cons_append, List.rdropWhile_concat_neg _ _ _ unclosed]

theorem line_data : "data:".toList.isPrefixOf entry.line = true := rfl

theorem drop_line : entry.line.drop 5 = ' ' :: entry.marshal := rfl

theorem rstrip_line {breaks : List Char} (all : ∀ c ∈ breaks, c = '\n') :
    rstrip (entry.line ++ breaks) = entry.line := by
  induction breaks using List.reverseRecOn with
  | nil =>
    rw [List.append_nil, rstrip, entry.line_eq, marshal_closed, ← List.cons_append,
      ← List.append_assoc, List.rdropWhile_concat_neg _ _ _ (by decide)]
  | append_singleton breaks c ih =>
    obtain rfl := all c (by simp)
    rw [rstrip] at ih ⊢
    rw [← List.append_assoc, List.rdropWhile_concat_pos _ _ _ (by decide)]
    exact ih fun other inside => all other (by simp [inside])

theorem lookup_status : lookup "status" entry.fields = some (.string entry.status) := by
  simp [AckEntry.fields, Json.lookup]

theorem lookup_message : lookup "message" entry.fields = some (.string (heard entry.message)) := by
  simp [AckEntry.fields, Json.lookup]

theorem hearLine_whole (named : entry.status ≠ "") {breaks : List Char}
    (all : ∀ c ∈ breaks, c = '\n') {bytes : List UInt8}
    (is : bytes = Utf8.encode (String.ofList (entry.line ++ breaks))) :
    hearLine bytes = .answered (.string entry.status) (.string (heard entry.message)) := by
  have trimmed := trim_marshal entry Sdk.isSpace (by decide) (by decide) (by decide)
  have read : pythonReader.read entry.marshal = some (.object entry.fields) :=
    entry.read_marshal (by decide)
  have decoded : (Utf8.lossy bytes).toList = entry.line ++ breaks := by
    rw [is, Utf8.lossy_encode, String.toList_ofList]
  have true_status : truthy (.string entry.status) = true := by simp [truthy, named]
  rw [hearLine, decoded, rstrip_line entry all, if_pos (line_data entry), drop_line, strip, lstrip,
    trimmed, read]
  simp only [lookup_status, lookup_message, Option.getD_some, true_status, if_true]

theorem ackOfLine_line :
    Go.ackOfLine entry.line = some ⟨entry.status, heard entry.message⟩ := by
  have trimmed := trim_marshal entry Cloud.isSpace (by decide) (by decide) (by decide)
  have read : goReader.read entry.marshal = some (.object entry.fields) :=
    entry.read_marshal (by decide)
  rw [Go.ackOfLine, if_pos (line_data entry), drop_line, trimSpace, trimmed, Go.unmarshalAck, read]
  simp [AckEntry.fields, Go.Ack.set, foldEqual, foldRune, decodeGoString]

theorem waitForACK_event (commandID : String) (held : lineSize entry < Go.maxScanTokenSize) :
    Go.waitForACK commandID entry.event = ⟨commandID, entry.status, heard entry.message⟩ := by
  obtain ⟨no_return, no_break⟩ := Printable.unbroken entry.line_printable
  have fitting : fits entry.line = true := by
    rw [fits, bytesOf_line]
    exact decide_eq_true held
  rw [Go.waitForACK, AckEntry.event, Go.scanLines_break no_break, if_pos fitting,
    Go.dropCR_eq no_return, List.findSome?_cons, ackOfLine_line]

/-- The event as it is sent. -/
def eventBytes : List UInt8 := Utf8.encode (String.ofList entry.event)

theorem eventBytes_eq : eventBytes entry =
    entry.line.flatMap String.utf8EncodeChar ++ 0x0A :: [0x0A] := by
  rw [eventBytes, Utf8.encode, String.toList_ofList, AckEntry.event, List.flatMap_append]
  rfl

theorem line_unbroken : 0x0A ∉ entry.line.flatMap String.utf8EncodeChar := by
  intro inside
  obtain ⟨c, member, byte⟩ := List.mem_flatMap.mp inside
  have code : c.toNat = '\n'.toNat := Utf8.ascii_mem (by decide) byte
  obtain rfl : c = '\n' := Char.toNat_inj.mp code
  exact (Printable.unbroken entry.line_printable).2 member

theorem length_line : (entry.line.flatMap String.utf8EncodeChar).length = lineSize entry := by
  rw [← bytesOf_eq, bytesOf_line]

theorem waitForAckSse_whole (named : entry.status ≠ "") (short : lineSize entry ≤ 4096)
    (commandId : String) : waitForAckSse commandId (eventBytes entry) =
      ⟨commandId, .string entry.status, .string (heard entry.message)⟩ := by
  have size := length_line entry
  have unbroken := line_unbroken entry
  have first : ∃ breaks, (∀ c ∈ breaks, c = '\n') ∧ (readline 4096 (eventBytes entry)).1 =
      Utf8.encode (String.ofList (entry.line ++ breaks)) := by
    have encoded (breaks : List Char) : Utf8.encode (String.ofList (entry.line ++ breaks)) =
        entry.line.flatMap String.utf8EncodeChar ++ breaks.flatMap String.utf8EncodeChar := by
      rw [Utf8.encode, String.toList_ofList, List.flatMap_append]
    rw [eventBytes_eq]
    rcases Nat.lt_or_eq_of_le short with less | exact_size
    · refine ⟨['\n'], by simp, ?_⟩
      rw [readline_short unbroken (size.trans_lt less), encoded]
      rfl
    · have taken : (entry.line.flatMap String.utf8EncodeChar ++ 0x0A :: [0x0A]).take 4096 =
          entry.line.flatMap String.utf8EncodeChar := List.take_left' (size.trans exact_size)
      refine ⟨[], by simp, ?_⟩
      rw [readline_long (by rwa [taken]), taken, encoded, List.flatMap_nil, List.append_nil]
  obtain ⟨breaks, all, is⟩ := first
  have answered := hearLine_whole entry named all is
  have filled : eventBytes entry ≠ [] := by simp [eventBytes_eq]
  obtain ⟨count, length⟩ : ∃ count, (eventBytes entry).length = count + 1 :=
    ⟨_, (Nat.succ_pred_eq_of_pos (List.length_pos_of_ne_nil filled)).symm⟩
  rw [waitForAckSse, length, readlines, if_neg filled, waitLines, answered]

end Whole

/-! ## Lines that are cut -/

section Cut

variable (entry : AckEntry)

def opened : List Char := "data: \x7b".toList

theorem line_opened : entry.line = opened ++ (entry.inner [] ++ ['}']) := by
  rw [entry.line_eq, marshal_closed]
  rfl

theorem event_opened : entry.event = opened ++ entry.inner ['}', '\n', '\n'] := by
  have closed := entry.inner_append [] ['}', '\n', '\n']
  rw [List.nil_append] at closed
  rw [AckEntry.event, line_opened, closed]
  simp

theorem eventBytes_encode : eventBytes entry = entry.event.flatMap String.utf8EncodeChar := by
  rw [eventBytes, Utf8.encode, String.toList_ofList]

theorem strip_front {text whole : List Char} (front : text <+: ' ' :: '{' :: whole) :
    strip text = [] ∨ ∃ inner, strip text = '{' :: inner ∧ inner <+: whole := by
  rcases text with _ | ⟨c, _ | ⟨brace, inner⟩⟩
  · exact .inl rfl
  · obtain ⟨rfl, _⟩ := List.cons_prefix_cons.mp front
    exact .inl rfl
  · obtain ⟨rfl, braced⟩ := List.cons_prefix_cons.mp front
    obtain ⟨rfl, inside⟩ := List.cons_prefix_cons.mp braced
    have stripped : strip (' ' :: '{' :: inner) = ('{' :: inner).rdropWhile Sdk.isSpace := rfl
    obtain ⟨ended, split⟩ := List.rdropWhile_prefix Sdk.isSpace ('{' :: inner)
    rw [stripped]
    cases left : ('{' :: inner).rdropWhile Sdk.isSpace with
    | nil => exact .inl rfl
    | cons other kept =>
      rw [left, List.cons_append] at split
      obtain ⟨rfl, rfl⟩ := List.cons.inj split
      exact .inr ⟨kept, rfl, (List.prefix_append kept ended).trans inside⟩

-- What Python gets of a line that is too long for it.
theorem first_piece (long : 4096 < lineSize entry) :
    ∃ before after tail,
      (Utf8.lossy ((eventBytes entry).take 4096)).toList = opened ++ (before ++ tail) ∧
        entry.inner [] = before ++ after ∧ '}' ∉ tail := by
  obtain ⟨front, back, tail, split, read, kind, short, most⟩ := Utf8.lossy_take entry.event 4096
  rw [← eventBytes_encode] at read most
  have size := length_line entry
  have total : lineSize entry ≤ (eventBytes entry).length := by
    rw [eventBytes_eq, List.length_append, size]
    exact Nat.le_add_right _ _
  have closes : '}' ∉ tail := by rcases kind with rfl | rfl <;> decide
  -- The front is a part of the line, and holds all of `opened`.
  obtain ⟨more, line, some_more⟩ : ∃ more, entry.line = front ++ more ∧ more ≠ [] := by
    rcases List.append_eq_append_iff.mp split with ⟨more, rfl, _⟩ | ⟨more, line, _⟩
    · rw [List.flatMap_append, List.length_append] at short
      omega
    · refine ⟨more, line, ?_⟩
      rintro rfl
      rw [List.append_nil] at line
      rw [← line] at short
      omega
  rw [line_opened] at line
  rcases List.append_eq_append_iff.mp line with ⟨before, rfl, inside⟩ | ⟨rest, few, _⟩
  · rw [List.append_assoc] at read
    rcases List.append_eq_append_iff.mp inside with ⟨rest, is, one⟩ | ⟨after, is, _⟩
    · cases rest with
      | nil => exact ⟨before, [], tail, read, by rw [is, List.append_nil, List.append_nil], closes⟩
      | cons c rest =>
        have none_left := List.append_eq_nil_iff.mp (List.cons.inj one).2.symm
        exact absurd none_left.2 some_more
    · exact ⟨before, after, tail, read, is, closes⟩
  · have seven : (opened.flatMap String.utf8EncodeChar).length = 7 := by decide
    rw [few, List.flatMap_append, List.length_append] at seven
    omega

-- The first piece ends before the brace that closes the object.
theorem hearLine_first (long : 4096 < lineSize entry) (status message : Value) :
    hearLine ((eventBytes entry).take 4096) ≠ .answered status message := by
  obtain ⟨before, after, tail, decoded, is, closes⟩ := first_piece entry long
  have stays := entry.inner_stays
  rw [is] at stays
  have front := List.rdropWhile_prefix (fun c => c = '\r' || c = '\n') (opened ++ (before ++ tail))
  have dropped := strip_front (front.drop 5)
  have unread : pythonReader.read (strip ((rstrip (opened ++ (before ++ tail))).drop 5)) = none := by
    rcases dropped with empty | ⟨inner, is, inside⟩
    · rw [rstrip, empty]
      rfl
    · rw [rstrip, is]
      exact pythonReader.read_open_front stays closes inside
  rw [hearLine, decoded]
  simp only [unread]
  split_ifs <;> simp

-- No key is read where a string's value ends.
theorem no_colon_behind {rest front back tail text after : List Char} {lone : Option Char}
    {key : String} (next : NextKey rest) (split : rest = front ++ back)
    (kind : tail = [] ∨ tail = ['\uFFFD']) (part : text <+: front ++ tail)
    (named : Json.readString lone text = some (key, after)) :
    (Json.skip after).head? ≠ some ':' := by
  obtain ⟨c, more, rfl, no_colon, solid⟩ := next
  have unquoted : '"' ∉ tail := by rcases kind with rfl | rfl <;> decide
  have quoted : '"' ∈ text := by
    by_contra plain
    rw [Json.readString_unclosed lone plain] at named
    cases named
  have inside := part.subset quoted
  rcases front with _ | ⟨first, _ | ⟨second, front⟩⟩
  · exact absurd inside unquoted
  · obtain ⟨rfl, _⟩ := List.cons.inj split
    rcases List.mem_cons.mp inside with is | other
    · exact absurd is (by decide)
    · exact absurd other unquoted
  · obtain ⟨rfl, behind⟩ := List.cons.inj split
    obtain ⟨rfl, value⟩ := List.cons.inj behind
    rcases text with _ | ⟨comma, _ | ⟨quotation, text⟩⟩
    · cases quoted
    · obtain ⟨rfl, _⟩ := List.cons_prefix_cons.mp part
      exact absurd quoted (by decide)
    · obtain ⟨rfl, quoted_part⟩ := List.cons_prefix_cons.mp part
      obtain ⟨rfl, last_part⟩ := List.cons_prefix_cons.mp quoted_part
      have comma_key : Json.readString lone (',' :: '"' :: text) = some (",", text) :=
        goStyle.readString_escape lone "," text
      obtain ⟨_, rfl⟩ := Prod.mk.inj (Option.some.inj (comma_key.symm.trans named))
      cases text with
      | nil => simp [Json.skip]
      | cons d text =>
        rcases front with _ | ⟨d', front⟩
        · rcases kind with rfl | rfl
          · cases List.prefix_nil.mp last_part
          · obtain ⟨rfl, _⟩ := List.cons_prefix_cons.mp last_part
            simp [Json.skip_cons (show Json.blank '\uFFFD' = false by decide)]
        · obtain ⟨rfl, _⟩ := List.cons.inj value
          obtain ⟨rfl, _⟩ := List.cons_prefix_cons.mp last_part
          rw [Json.skip_cons solid]
          exact fun same => no_colon (Option.some.inj same)

-- No other piece holds the start of the object.
theorem hearLine_later {start kept : Nat} (behind : 7 ≤ start) (status message : Value) :
    hearLine (((eventBytes entry).drop start).take kept) ≠ .answered status message := by
  intro answered
  obtain ⟨ahead, object, ended, field, fields, decoded, read⟩ := hearLine_answered answered
  obtain ⟨between, blanks, more, key, after, object_is, all, named, colon⟩ :=
    Json.Reader.read_key read
  rw [eventBytes_encode] at decoded
  obtain ⟨before, front, back, tail, split, size, piece, kind, _⟩ :=
    Utf8.lossy_window decoded (by decide)
  have unquoted : '"' ∉ tail := by rcases kind with rfl | rfl <;> decide
  have quoted : front ++ tail =
      ('d' :: (ahead ++ between) ++ '{' :: blanks) ++ '"' :: (more ++ ended) := by
    rw [← piece, object_is]
    simp
  obtain ⟨value, front_is, value_is⟩ : ∃ value,
      front = ('d' :: (ahead ++ between) ++ '{' :: blanks) ++ '"' :: value ∧
        more ++ ended = value ++ tail := by
    rcases List.append_eq_append_iff.mp quoted with ⟨left, _, is⟩ | ⟨left, is, value_is⟩
    · exact absurd (show '"' ∈ tail by simp [is]) unquoted
    · cases left with
      | nil =>
        have is_tail : tail = '"' :: (more ++ ended) := value_is.symm
        exact absurd (show '"' ∈ tail by rw [is_tail]; exact List.mem_cons_self) unquoted
      | cons c value =>
        obtain ⟨rfl, rest⟩ := List.cons.inj value_is
        exact ⟨value, is, rest⟩
  have seven : (opened.flatMap String.utf8EncodeChar).length = 7 := by decide
  rw [event_opened] at split
  obtain ⟨inner, inner_is⟩ : ∃ inner, entry.inner ['}', '\n', '\n'] = inner ++ (front ++ back) := by
    rcases List.append_eq_append_iff.mp split with ⟨inner, _, is⟩ | ⟨rest, is, later⟩
    · exact ⟨inner, is⟩
    · cases rest with
      | nil => exact ⟨[], later.symm⟩
      | cons c rest =>
        have some_byte := c.utf8Size_pos
        rw [is, List.flatMap_append, List.flatMap_cons, List.length_append, List.length_append,
          String.length_utf8EncodeChar] at seven
        omega
  have marked : entry.inner ['}', '\n', '\n'] =
      (inner ++ ('d' :: (ahead ++ between)) ++ '{' :: blanks) ++ '"' :: (value ++ back) := by
    rw [inner_is, front_is]
    simp
  have next : NextKey (value ++ back) :=
    entry.inner_guarded (by decide) _ _ marked ⟨_, blanks, rfl, all⟩
  exact no_colon_behind next rfl kind ⟨ended, value_is⟩ named colon

theorem waitForAckSse_cut (long : 4096 < lineSize entry) (commandId : String) :
    waitForAckSse commandId (eventBytes entry) =
      ⟨commandId, .string "timeout", .string ""⟩ := by
  have size := length_line entry
  have front : (eventBytes entry).take 4096 =
      (entry.line.flatMap String.utf8EncodeChar).take 4096 := by
    rw [eventBytes_eq, List.take_append_of_le_length (by omega)]
  have unbroken : 0x0A ∉ (eventBytes entry).take 4096 := by
    rw [front]
    exact fun inside => line_unbroken entry (List.mem_of_mem_take inside)
  refine waitLines_silent commandId fun line member => ?_
  cases length : (eventBytes entry).length with
  | zero =>
    rw [length] at member
    cases member
  | succ fuel =>
    rw [length, readlines, readline_long unbroken] at member
    split_ifs at member
    · cases member
    · simp only [List.mem_cons] at member
      rcases member with first | later
      · rw [first]
        exact hearLine_first entry long
      · obtain ⟨start, kept, rfl⟩ := mem_readlines later
        rw [List.drop_drop]
        exact hearLine_later entry (by omega)

end Cut

/-! ## The answers -/

/-- Both senders return the entry's status and message. -/
def Answered (entry : AckEntry) (commandID : String) : Prop :=
  ∃ message, Utf8.encode message = entry.message ∧
    waitForAckSse commandID (eventBytes entry) =
        ⟨commandID, .string entry.status, .string message⟩ ∧
      Go.waitForACK commandID entry.event = ⟨commandID, entry.status, message⟩

theorem answered_cut {entry : AckEntry} {commandID : String} (long : 4096 < lineSize entry)
    (answered : Answered entry commandID) : entry.status = "timeout" ∧ entry.message = [] := by
  obtain ⟨message, encoded, python, _⟩ := answered
  rw [waitForAckSse_cut entry long] at python
  obtain ⟨_, status, empty⟩ := CommandResult.mk.inj python
  refine ⟨(Value.string.inj status).symm, ?_⟩
  rw [← encoded, ← Value.string.inj empty, Utf8.encode_empty]

theorem status_named (ack : CommandAck) (now : Nat) : (ack.entry now).status ≠ "" := by
  simp only [CommandAck.entry]
  split_ifs with unnamed
  · decide
  · exact unnamed

theorem status_timeout_iff (ack : CommandAck) (now : Nat) :
    (ack.entry now).status = "timeout" ↔ ack.status = 4 := by
  simp only [CommandAck.entry, commandStatusNames]
  split_ifs <;> simp_all

section Answers

variable {data : List UInt8} {ack : CommandAck}

theorem acknowledgment_answered_iff (decoded : decodeCommandAck data = .ok ack)
    (limit : data.length ≤ 4096) (now : Nat) (commandID : String) :
    Answered (ack.entry now) commandID ↔
      (∃ message, Utf8.encode message = ack.message) ∧
        (lineSize (ack.entry now) ≤ 4096 ∨ ack.status = 4 ∧ ack.message = []) := by
  have go := waitForACK_event (ack.entry now) commandID (lineSize_lt decoded limit now)
  have same : (ack.entry now).message = ack.message := rfl
  constructor
  · intro answered
    have ⟨message, encoded, _⟩ := answered
    refine ⟨⟨message, encoded⟩, ?_⟩
    by_cases short : lineSize (ack.entry now) ≤ 4096
    · exact .inl short
    · obtain ⟨timeout, silent⟩ := answered_cut (Nat.lt_of_not_le short) answered
      exact .inr ⟨(status_timeout_iff ack now).mp timeout, silent⟩
  · rintro ⟨⟨message, encoded⟩, kind⟩
    have back : heard (ack.entry now).message = message := by
      rw [same, ← encoded, heard_encode]
    rw [back] at go
    by_cases short : lineSize (ack.entry now) ≤ 4096
    · have python := waitForAckSse_whole (ack.entry now) (status_named ack now) short commandID
      rw [back] at python
      exact ⟨message, encoded, python, go⟩
    · obtain ⟨timeout, silent⟩ := kind.resolve_left short
      have python := waitForAckSse_cut (ack.entry now) (Nat.lt_of_not_le short) commandID
      obtain rfl : message = "" := Utf8.encode_eq_nil.mp (encoded.trans silent)
      rw [← (status_timeout_iff ack now).mpr timeout] at python
      exact ⟨"", encoded, python, go⟩

end Answers

def completed (message : GoString) : CommandAck := ⟨Utf8.encode "c", [], 2, message, 0⟩

def completedFields (message : GoString) : List Wire.Field :=
  [⟨1, .delimited (Utf8.encode "c")⟩, ⟨3, .varint 2⟩, ⟨4, .delimited message⟩]

theorem length_completedFields {message : GoString} (short : message.length ≤ 4000) :
    (Wire.encode (completedFields message)).length ≤ 4096 := by
  have id : (Utf8.encode "c").length = 1 := by decide
  have room : ((completedFields message).map fun field => field.payload.room + 2).sum =
      message.length + 37 := by
    simp [completedFields, Wire.Payload.room, id]
    omega
  have most := Wire.length_encode_le (completedFields message) (by
    simp [completedFields, Wire.Payload.room, id]
    omega)
  omega

theorem decode_completedFields {message : GoString} (short : message.length ≤ 4000) :
    decodeCommandAck (Wire.encode (completedFields message)) = .ok (completed message) := by
  have held := length_completedFields short
  exact (decodeCommandAck_encode (completedFields message)
    (by simp [completedFields, AckField, Wire.Payload.wireType]) (by omega)).trans rfl

theorem done_answered : Answered ((completed (Utf8.encode "done")).entry 0) "c" :=
  (acknowledgment_answered_iff (decode_completedFields (by decide))
      (length_completedFields (by decide)) 0 "c").mpr
    ⟨⟨"done", rfl⟩, .inl ((lineSize_le _ 0).trans (by decide))⟩

def brackets (count : Nat) : GoString := Utf8.encode (String.ofList (List.replicate count '<'))

theorem length_brackets (count : Nat) : (brackets count).length = count := by
  have ascii : ∀ c ∈ List.replicate count '<', c.toNat < 0x80 := by
    intro c inside
    obtain rfl := List.eq_of_mem_replicate inside
    decide
  exact (bytesOf_ascii ascii).trans List.length_replicate

-- Go's encoder writes `<` as `\u003c`.
theorem spelled_brackets (count : Nat) : spelled (brackets count) = 6 * count := by
  have one : bytesOf (escapeRune (some '<')) = 6 := by decide
  rw [spelled, inString, brackets, runes_encode, String.toList_ofList, List.map_replicate]
  induction count with
  | zero => rfl
  | succ count ih =>
    rw [List.replicate_succ, List.flatMap_cons, Go.bytesOf_append, one, ih]
    omega

theorem spelled_lt_lineSize (message : GoString) :
    spelled message < lineSize ((completed message).entry 0) := by
  have same : ((completed message).entry 0).message = message := rfl
  rw [lineSize, same]
  omega

theorem brackets_unanswered :
    (Wire.encode (completedFields (brackets 700))).length ≤ 4096 ∧
      decodeCommandAck (Wire.encode (completedFields (brackets 700))) =
          .ok (completed (brackets 700)) ∧
        ¬ Answered ((completed (brackets 700)).entry 0) "c" := by
  have short : (brackets 700).length ≤ 4000 := (length_brackets 700).trans_le (by decide)
  refine ⟨length_completedFields short, decode_completedFields short, ?_⟩
  intro answered
  have long := spelled_lt_lineSize (brackets 700)
  rw [spelled_brackets] at long
  have timeout := (answered_cut ((show 4096 < 6 * 700 by decide).trans long) answered).1
  have status := (status_timeout_iff (completed (brackets 700)) 0).mp timeout
  exact absurd status (show (2 : Int32) ≠ 4 by decide)

end SystemScale.Contract

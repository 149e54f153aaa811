import SystemScale.Cloud.Commands
import SystemScale.Cloud.Ilp
import SystemScale.Lib.Decimal
import SystemScale.Lib.LineProtocol

set_option autoImplicit false

/-!
# telemetry-ingest's lines

`buildILPLine` writes an envelope as one InfluxDB line: tags, then fields, then the time.
-/

namespace SystemScale.Cloud

open LineProtocol

/-! ## The texts -/

/-- `strings.ReplaceAll` of one byte. -/
def replaceAll (s : GoString) (old : UInt8) (new : GoString) : GoString :=
  s.flatMap fun b => if b = old then new else [b]

def escapeTagValue (s : GoString) : GoString :=
  replaceAll (replaceAll (replaceAll s blank [backslash, blank]) comma [backslash, comma]) equals
    [backslash, equals]

def escapeFieldString (s : GoString) : GoString :=
  replaceAll (replaceAll (replaceAll (replaceAll s backslash [backslash, backslash])
    mark [backslash, mark]) newline [backslash, 0x6E]) 0x0D [backslash, 0x72]

def formatUint (v : Nat) : GoString := ascii (Nat.toDigits 10 v)

def formatInt (v : Int) : GoString := ascii (Json.integerLiteral v)

def formatILPFloat (v : UInt64) : GoString :=
  let s := Binary.formatFloat v
  if '.' ∈ s then ascii s else ascii (s ++ ['.', '0'])

/-! ## Telemetry fields -/

mutual

/-- Every number in the value has a `float64`. -/
def convertible : Json.Value → Bool
  | .number number => (Binary.parseFloat number.literal).isSome
  | .array items => convertibleItems items
  | .object fields => convertibleFields fields
  | _ => true

def convertibleItems : List Json.Value → Bool
  | [] => true
  | item :: rest => convertible item && convertibleItems rest

def convertibleFields : List (String × Json.Value) → Bool
  | [] => true
  | (_, value) :: rest => convertible value && convertibleFields rest

end

/-- `json.Unmarshal` into a map. It tells the bytes of one broken character apart where `lossy` does
not, which changes no number and no key in ASCII. -/
def unmarshalMap (payload : List UInt8) : Option (List (String × Json.Value)) :=
  match goReader.read (Utf8.lossy payload).toList with
  | some (.object fields) => if convertibleFields fields then some fields else none
  | some .null => some []
  | _ => none

def toFloat64 : Option Json.Value → Option UInt64
  | some (.number number) => Binary.parseFloat number.literal
  | _ => none

def appendTelemetryFields (payload : List UInt8) : GoString :=
  match unmarshalMap payload with
  | none => []
  | some m =>
      (match toFloat64 (Json.lookup "battery_pct" m) with
        | some f => Utf8.encode ",battery_pct=" ++ formatInt (Binary.truncate f) ++ [0x69]
        | none => []) ++
      (match toFloat64 (Json.lookup "speed_ms" m) with
        | some f => Utf8.encode ",speed_ms=" ++ formatILPFloat f
        | none => []) ++
      (match toFloat64 (Json.lookup "heading" m) with
        | some f => Utf8.encode ",heading=" ++ formatILPFloat f
        | none => [])

/-! ## The line -/

/-- A tag that is left out when it has no value. -/
def tagUnlessEmpty (text : String) (value : GoString) : GoString :=
  if value ≠ [] then Utf8.encode text ++ escapeTagValue value else []

def buildILPLine (env : Envelope) (now : Int) : GoString :=
  Utf8.encode "telemetry,vehicle_id=" ++ escapeTagValue env.vehicleID ++
  Utf8.encode ",stream_type=" ++ escapeTagValue (Utf8.encode (stName env.streamType)) ++
  tagUnlessEmpty ",project_id=" env.fleetID ++
  tagUnlessEmpty ",org_id=" env.orgID ++
  tagUnlessEmpty ",stream_name=" env.streamName ++
  tagUnlessEmpty ",sender_id=" env.senderID ++
  tagUnlessEmpty ",sender_type=" env.senderType ++
  tagUnlessEmpty ",receiver_id=" env.receiverID ++
  tagUnlessEmpty ",receiver_type=" env.receiverType ++
  [blank] ++
  Utf8.encode "lat=" ++ formatILPFloat env.lat ++
  Utf8.encode ",lon=" ++ formatILPFloat env.lon ++
  Utf8.encode ",alt_m=" ++ formatILPFloat (Binary.widen env.alt) ++
  Utf8.encode ",seq=" ++ formatUint env.seq.toNat ++ [0x69] ++
  (if env.payload ≠ [] then
    Utf8.encode ",payload_size=" ++ formatUint env.payload.length ++ [0x69] ++
    Utf8.encode ",payload_json=\"" ++ escapeFieldString env.payload ++ [mark] ++
    (if env.streamType = 1 then appendTelemetryFields env.payload else [])
  else []) ++
  [blank] ++
  (if env.timestampNs > 0 then formatUint env.timestampNs.toNat else formatInt now)

/-! ## The row it is meant to be -/

/-- A field as it is written, and the value that it stands for. -/
abbrev Intended := WrittenField × FieldValue

def floatColumn (name : String) (v : UInt64) : Intended :=
  ⟨⟨Utf8.encode name, formatILPFloat v,
      if Binary.finite v then some (.float (Binary.pointed (Binary.formatFloat v))) else none⟩,
    .float (Binary.pointed (Binary.formatFloat v))⟩

def integerColumn (name : String) (v : Int) : Intended :=
  ⟨⟨Utf8.encode name, formatInt v ++ [0x69],
      if -9223372036854775808 ≤ v ∧ v < 9223372036854775808 then some (.integer v) else none⟩,
    .integer v⟩

/-- What is read back for a byte of a string field. -/
def readBack (b : UInt8) : List UInt8 :=
  if b = newline then [backslash, 0x6E] else if b = 0x0D then [backslash, 0x72] else [b]

def stringColumn (name : String) (s : GoString) : Intended :=
  ⟨⟨Utf8.encode name, mark :: (escapeFieldString s ++ [mark]), some (.string (s.flatMap readBack))⟩,
    .string s⟩

def optionalColumn (field : UInt64 → Intended) (v : Option UInt64) : List Intended :=
  match v with
  | some f => [field f]
  | none => []

def telemetryFields (payload : List UInt8) : List Intended :=
  match unmarshalMap payload with
  | none => []
  | some m =>
      optionalColumn (fun f => integerColumn "battery_pct" (Binary.truncate f))
        (toFloat64 (Json.lookup "battery_pct" m)) ++
      optionalColumn (floatColumn "speed_ms") (toFloat64 (Json.lookup "speed_ms" m)) ++
      optionalColumn (floatColumn "heading") (toFloat64 (Json.lookup "heading" m))

def buildILPFields (env : Envelope) : List Intended :=
  [floatColumn "lat" env.lat, floatColumn "lon" env.lon, floatColumn "alt_m" (Binary.widen env.alt),
    integerColumn "seq" env.seq.toNat] ++
  (if env.payload ≠ [] then
    [integerColumn "payload_size" env.payload.length, stringColumn "payload_json" env.payload] ++
    (if env.streamType = 1 then telemetryFields env.payload else [])
  else [])

def rowTime (env : Envelope) (now : Int) : Int :=
  if env.timestampNs > 0 then env.timestampNs.toNat else now

def writtenTags (env : Envelope) : List (Name × GoString) :=
  (buildILPTags env).map fun tag => (Utf8.encode tag.1, tag.2)

/-- The row of an envelope: its tags, its payload as it is, and the other fields. -/
def buildILPRow (env : Envelope) (now : Int) : Row where
  measurement := Utf8.encode "telemetry"
  tags := writtenTags env
  fields := (buildILPFields env).map fun field => (field.1.name, field.2)
  time := rowTime env now

def writtenRow (env : Envelope) (now : Int) : WrittenRow where
  measurement := Utf8.encode "telemetry"
  tags := writtenTags env
  fields := (buildILPFields env).map Prod.fst
  time := rowTime env now

/-! ## What is written -/

theorem replaceAll_flatMap (s : GoString) (written : UInt8 → GoString) (old : UInt8) (new : GoString) :
    replaceAll (s.flatMap written) old new = s.flatMap fun b => replaceAll (written b) old new :=
  List.flatMap_assoc

theorem escapeTagValue_eq (s : GoString) : escapeTagValue s = escape s := by
  have first : replaceAll s blank [backslash, blank] =
      s.flatMap fun b => if b = blank then [backslash, blank] else [b] := rfl
  rw [escapeTagValue, first, replaceAll_flatMap, replaceAll_flatMap, escape]
  apply List.flatMap_congr
  intro b _
  by_cases is_blank : b = blank
  · subst is_blank
    decide
  · by_cases is_comma : b = comma
    · subst is_comma
      decide
    · by_cases is_equals : b = equals
      · subst is_equals
        decide
      · simp [replaceAll, special, is_blank, is_comma, is_equals]

/-- What `escapeFieldString` writes for one byte. -/
def writtenByte (b : UInt8) : GoString :=
  if b = backslash then [backslash, backslash]
  else if b = mark then [backslash, mark]
  else if b = newline then [backslash, 0x6E]
  else if b = 0x0D then [backslash, 0x72]
  else [b]

theorem escapeFieldString_eq (s : GoString) : escapeFieldString s = s.flatMap writtenByte := by
  have first : replaceAll s backslash [backslash, backslash] =
      s.flatMap fun b => if b = backslash then [backslash, backslash] else [b] := rfl
  rw [escapeFieldString, first, replaceAll_flatMap, replaceAll_flatMap, replaceAll_flatMap]
  apply List.flatMap_congr
  intro b _
  by_cases is_backslash : b = backslash
  · subst is_backslash
    decide
  · by_cases is_mark : b = mark
    · subst is_mark
      decide
    · by_cases is_newline : b = newline
      · subst is_newline
        decide
      · simp [replaceAll, writtenByte, is_backslash, is_mark, is_newline]

theorem quoting_writtenByte : Quoting writtenByte readBack := by
  intro b
  unfold writtenByte readBack
  by_cases is_backslash : b = backslash
  · subst is_backslash
    exact .inr ⟨backslash, by decide⟩
  · by_cases is_mark : b = mark
    · subst is_mark
      exact .inr ⟨mark, by decide⟩
    · by_cases is_newline : b = newline
      · subst is_newline
        exact .inr ⟨0x6E, by decide⟩
      · by_cases is_return : b = 0x0D
        · subst is_return
          exact .inr ⟨0x72, by decide⟩
        · exact .inl ⟨b, by simp [is_backslash, is_mark, is_newline, is_return]⟩

theorem newline_writtenByte (b : UInt8) : newline ∉ writtenByte b := by
  unfold writtenByte
  split_ifs with _ _ is_newline
  · decide
  · decide
  · decide
  · decide
  · simpa using Ne.symm is_newline

theorem formatILPFloat_eq (v : UInt64) :
    formatILPFloat v = ascii (Binary.pointed (Binary.formatFloat v)) := by
  by_cases point : '.' ∈ Binary.formatFloat v <;> simp [formatILPFloat, Binary.pointed, point]

theorem formatInt_natCast (n : Nat) : formatInt n = formatUint n := rfl

/-! ## Fields that are read -/

theorem integerColumn_text (v : Int) :
    formatInt v ++ [0x69] = ascii (Json.integerLiteral v ++ ['i']) := by
  simp [formatInt, ascii]

theorem integer_words (v : Int) : ∀ c ∈ Json.integerLiteral v ++ ['i'], Word c := by
  intro c member
  rcases List.mem_append.mp member with digit | last
  · exact literal_words v c digit
  · rw [List.mem_singleton.mp last]
    decide

/-- A field that is read as its value, with no line break in what is written. -/
def Sound (field : Intended) : Prop := field.1.Correct ∧ newline ∉ field.1.bytes

def PlainName (name : Name) : Prop := Simple name ∧ newline ∉ name

instance (name : Name) : Decidable (PlainName name) := inferInstanceAs (Decidable (_ ∧ _))

theorem newline_bytes {field : WrittenField} (name : newline ∉ field.name)
    (text : newline ∉ field.text) : newline ∉ field.bytes := by
  have different : newline ≠ equals := by decide
  simp [WrittenField.bytes, name, text, different]

theorem floatColumn_sound {name : String} (plain : PlainName (Utf8.encode name)) (v : UInt64) :
    Sound (floatColumn name v) := by
  have text : (floatColumn name v).1.text = ascii (Binary.pointed (Binary.formatFloat v)) :=
    formatILPFloat_eq v
  refine ⟨⟨plain.1, ?_⟩, newline_bytes plain.2 ?_⟩
  · rw [text]
    exact Binary.reads_formatted v
  · rw [text]
    exact newline_ascii (Binary.formatted_words v)

theorem integerColumn_sound {name : String} (plain : PlainName (Utf8.encode name)) (v : Int) :
    Sound (integerColumn name v) := by
  have text : (integerColumn name v).1.text = ascii (Json.integerLiteral v ++ ['i']) :=
    integerColumn_text v
  refine ⟨⟨plain.1, ?_⟩, newline_bytes plain.2 ?_⟩
  · have reads := reads_token (integer_words v) (by simp)
    rw [text]
    rwa [readNumber_integer] at reads
  · rw [text]
    exact newline_ascii (integer_words v)

theorem stringColumn_sound {name : String} (plain : PlainName (Utf8.encode name)) (s : GoString) :
    Sound (stringColumn name s) := by
  have text : (stringColumn name s).1.text = mark :: (s.flatMap writtenByte ++ [mark]) := by
    rw [← escapeFieldString_eq]
    rfl
  refine ⟨⟨plain.1, ?_⟩, newline_bytes plain.2 ?_⟩
  · rw [text]
    exact reads_quoted quoting_writtenByte s
  · have inside : newline ∉ s.flatMap writtenByte := by
      intro member
      obtain ⟨b, _, written⟩ := List.mem_flatMap.mp member
      exact newline_writtenByte b written
    have different : newline ≠ mark := by decide
    simp [text, inside, different]

/-! ## The line as a written row -/

theorem bytes_floatColumn (name : String) (v : UInt64) :
    (floatColumn name v).1.bytes = Utf8.encode name ++ equals :: formatILPFloat v := rfl

theorem bytes_integerColumn (name : String) (v : Int) :
    (integerColumn name v).1.bytes = Utf8.encode name ++ equals :: (formatInt v ++ [0x69]) := rfl

theorem bytes_stringColumn (name : String) (s : GoString) :
    (stringColumn name s).1.bytes =
      Utf8.encode name ++ equals :: mark :: (escapeFieldString s ++ [mark]) := rfl

theorem tagUnlessEmpty_eq (text name : String)
    (splits : Utf8.encode text = comma :: (Utf8.encode name ++ [equals])) (value : GoString) :
    tagUnlessEmpty text value =
      writeTags ((optionalTag name value).map fun tag => (Utf8.encode tag.1, tag.2)) := by
  unfold tagUnlessEmpty optionalTag
  split_ifs
  · simp [writeTags, splits, escapeTagValue_eq]
  · rfl

theorem writeTags_append (first second : List (Name × GoString)) :
    writeTags (first ++ second) = writeTags first ++ writeTags second := List.flatMap_append

/-- The fields after the first, each with the comma before it. -/
def moreFields (fields : List Intended) : GoString :=
  fields.flatMap fun field => comma :: field.1.bytes

theorem moreFields_append (first second : List Intended) :
    moreFields (first ++ second) = moreFields first ++ moreFields second := List.flatMap_append

theorem moreFields_cons (field : Intended) (rest : List Intended) :
    moreFields (field :: rest) = comma :: (field.1.bytes ++ moreFields rest) := rfl

theorem appendTelemetryFields_eq (payload : List UInt8) :
    appendTelemetryFields payload = moreFields (telemetryFields payload) := by
  unfold appendTelemetryFields telemetryFields
  cases unmarshalMap payload with
  | none => rfl
  | some m =>
    have battery : Utf8.encode ",battery_pct=" = comma :: (Utf8.encode "battery_pct" ++ [equals]) := rfl
    have speed : Utf8.encode ",speed_ms=" = comma :: (Utf8.encode "speed_ms" ++ [equals]) := rfl
    have heading : Utf8.encode ",heading=" = comma :: (Utf8.encode "heading" ++ [equals]) := rfl
    simp only [moreFields_append, battery, speed, heading]
    congr 1
    · congr 1
      · cases toFloat64 (Json.lookup "battery_pct" m) <;>
          simp [optionalColumn, moreFields, bytes_integerColumn]
      · cases toFloat64 (Json.lookup "speed_ms" m) <;>
          simp [optionalColumn, moreFields, bytes_floatColumn]
    · cases toFloat64 (Json.lookup "heading" m) <;>
        simp [optionalColumn, moreFields, bytes_floatColumn]

theorem writeFields_fields (env : Envelope) :
    writeFields ((buildILPFields env).map Prod.fst) =
      Utf8.encode "lat=" ++ formatILPFloat env.lat ++
      Utf8.encode ",lon=" ++ formatILPFloat env.lon ++
      Utf8.encode ",alt_m=" ++ formatILPFloat (Binary.widen env.alt) ++
      Utf8.encode ",seq=" ++ formatUint env.seq.toNat ++ [0x69] ++
      (if env.payload ≠ [] then
        Utf8.encode ",payload_size=" ++ formatUint env.payload.length ++ [0x69] ++
        Utf8.encode ",payload_json=\"" ++ escapeFieldString env.payload ++ [mark] ++
        (if env.streamType = 1 then appendTelemetryFields env.payload else [])
      else []) := by
  have lat : Utf8.encode "lat=" = Utf8.encode "lat" ++ [equals] := rfl
  have lon : Utf8.encode ",lon=" = comma :: (Utf8.encode "lon" ++ [equals]) := rfl
  have alt : Utf8.encode ",alt_m=" = comma :: (Utf8.encode "alt_m" ++ [equals]) := rfl
  have seq : Utf8.encode ",seq=" = comma :: (Utf8.encode "seq" ++ [equals]) := rfl
  have size : Utf8.encode ",payload_size=" = comma :: (Utf8.encode "payload_size" ++ [equals]) := rfl
  have payload : Utf8.encode ",payload_json=\"" =
      comma :: (Utf8.encode "payload_json" ++ [equals, mark]) := rfl
  have flat (field : Intended) (rest : List Intended) :
      writeFields ((field :: rest).map Prod.fst) = field.1.bytes ++ moreFields rest := by
    rw [List.map_cons, writeFields_flatMap, moreFields, List.flatMap_map]
  have telemetry : (if env.streamType = 1 then appendTelemetryFields env.payload else []) =
      moreFields (if env.streamType = 1 then telemetryFields env.payload else []) := by
    split_ifs
    · exact appendTelemetryFields_eq env.payload
    · rfl
  rw [telemetry, buildILPFields, List.cons_append, flat, lat, lon, alt, seq, size, payload]
  simp only [moreFields_cons, bytes_floatColumn, bytes_integerColumn, formatInt_natCast,
    List.cons_append, List.append_assoc, List.nil_append]
  by_cases empty : env.payload = []
  · simp [empty, moreFields]
  · simp [empty, moreFields_cons, bytes_integerColumn, bytes_stringColumn, formatInt_natCast]

theorem writeTags_tags (env : Envelope) :
    writeTags (writtenTags env) =
      comma :: (Utf8.encode "vehicle_id" ++ equals :: escapeTagValue env.vehicleID) ++
      comma :: (Utf8.encode "stream_type" ++
        equals :: escapeTagValue (Utf8.encode (stName env.streamType))) ++
      tagUnlessEmpty ",project_id=" env.fleetID ++
      tagUnlessEmpty ",org_id=" env.orgID ++
      tagUnlessEmpty ",stream_name=" env.streamName ++
      tagUnlessEmpty ",sender_id=" env.senderID ++
      tagUnlessEmpty ",sender_type=" env.senderType ++
      tagUnlessEmpty ",receiver_id=" env.receiverID ++
      tagUnlessEmpty ",receiver_type=" env.receiverType := by
  rw [tagUnlessEmpty_eq ",project_id=" "project_id" rfl, tagUnlessEmpty_eq ",org_id=" "org_id" rfl,
    tagUnlessEmpty_eq ",stream_name=" "stream_name" rfl,
    tagUnlessEmpty_eq ",sender_id=" "sender_id" rfl,
    tagUnlessEmpty_eq ",sender_type=" "sender_type" rfl,
    tagUnlessEmpty_eq ",receiver_id=" "receiver_id" rfl,
    tagUnlessEmpty_eq ",receiver_type=" "receiver_type" rfl, escapeTagValue_eq, escapeTagValue_eq]
  simp only [writtenTags, buildILPTags, List.map_append, writeTags_append]
  congr 7
  simp [writeTags]

theorem buildILPLine_bytes (env : Envelope) (now : Int) :
    buildILPLine env now = (writtenRow env now).bytes := by
  have start : Utf8.encode "telemetry,vehicle_id=" =
      Utf8.encode "telemetry" ++ comma :: (Utf8.encode "vehicle_id" ++ [equals]) := rfl
  have stream_type : Utf8.encode ",stream_type=" = comma :: (Utf8.encode "stream_type" ++ [equals]) := rfl
  have time : (if env.timestampNs > 0 then formatUint env.timestampNs.toNat else formatInt now) =
      ascii (Json.integerLiteral (rowTime env now)) := by
    unfold rowTime
    split_ifs <;> rfl
  have bytes : (writtenRow env now).bytes = Utf8.encode "telemetry" ++ (writeTags (writtenTags env) ++
      blank :: (writeFields ((buildILPFields env).map Prod.fst) ++
        blank :: ascii (Json.integerLiteral (rowTime env now)))) := rfl
  rw [bytes, writeTags_tags, writeFields_fields, ← time]
  unfold buildILPLine
  rw [start, stream_type]
  simp

/-! ## The row is one that is written correctly -/

theorem encode_ascii {text : String} (small : ∀ c ∈ text.toList, c.toNat < 0x80) :
    Utf8.encode text = ascii text.toList := by
  have one : ∀ c ∈ text.toList, String.utf8EncodeChar c = [UInt8.ofNat c.toNat] := by
    intro c member
    have fits : c.toNat ≤ 127 := Nat.le_of_lt_succ (small c member)
    simp [String.utf8EncodeChar, Nat.not_lt.mpr fits]
  rw [Utf8.encode, List.flatMap_congr one, ascii, List.map_eq_flatMap]

theorem stName_words (streamType : UInt64) :
    stName streamType ≠ "" ∧ ∀ c ∈ (stName streamType).toList, Word c ∧ c ≠ '\\' := by
  unfold stName
  split_ifs with other
  · have digits (c : Char) (member : c ∈ Nat.toDigits 10 streamType.toNat) : Word c ∧ c ≠ '\\' := by
      have digit := Json.isDigit_toDigits _ c member
      refine ⟨digit_word digit, ?_⟩
      rintro rfl
      exact absurd digit (by decide)
    have text : (s!"type_{streamType.toNat}").toList =
        "type_".toList ++ Nat.toDigits 10 streamType.toNat := by
      simp [toString, Nat.toList_repr]
    refine ⟨?_, ?_⟩
    · intro empty
      rw [empty] at text
      simp at text
    · intro c member
      rw [text] at member
      rcases List.mem_append.mp member with start | digit
      · have table : ∀ c ∈ "type_".toList, Word c ∧ c ≠ '\\' := by simp [Word]
        exact table c start
      · exact digits c digit
  · unfold streamTypeNames at other ⊢
    split at other
    all_goals first | exact absurd rfl other | simp [Word]

theorem forall_optionalColumn {P : Intended → Prop} {field : UInt64 → Intended} (v : Option UInt64) :
    (∀ found ∈ optionalColumn field v, P found) ↔ ∀ f, v = some f → P (field f) := by
  cases v <;> simp [optionalColumn]

theorem telemetryFields_sound (payload : List UInt8) :
    ∀ field ∈ telemetryFields payload, Sound field := by
  unfold telemetryFields
  cases unmarshalMap payload with
  | none => simp
  | some m =>
    simp only [List.forall_mem_append, forall_optionalColumn]
    refine ⟨⟨?_, ?_⟩, ?_⟩
    · exact fun f _ => integerColumn_sound (by decide) _
    · exact fun f _ => floatColumn_sound (by decide) f
    · exact fun f _ => floatColumn_sound (by decide) f

-- What holds of every field, field by field.
theorem forall_buildILPFields (env : Envelope) {P : Intended → Prop} :
    (∀ field ∈ buildILPFields env, P field) ↔
      P (floatColumn "lat" env.lat) ∧ P (floatColumn "lon" env.lon) ∧
      P (floatColumn "alt_m" (Binary.widen env.alt)) ∧ P (integerColumn "seq" env.seq.toNat) ∧
      (env.payload ≠ [] →
        P (integerColumn "payload_size" env.payload.length) ∧
        P (stringColumn "payload_json" env.payload) ∧
        (env.streamType = 1 → ∀ field ∈ telemetryFields env.payload, P field)) := by
  simp only [buildILPFields, List.forall_mem_append, List.forall_mem_cons]
  by_cases empty : env.payload = []
  · simp [empty]
  · by_cases telemetry : env.streamType = 1 <;>
      simp [empty, telemetry, and_assoc, or_imp, forall_and]

theorem buildILPFields_sound (env : Envelope) : ∀ field ∈ buildILPFields env, Sound field := by
  rw [forall_buildILPFields]
  refine ⟨floatColumn_sound (by decide) _, floatColumn_sound (by decide) _,
    floatColumn_sound (by decide) _, integerColumn_sound (by decide) _, fun _ => ⟨?_, ?_, ?_⟩⟩
  · exact integerColumn_sound (by decide) _
  · exact stringColumn_sound (by decide) _
  · exact fun _ => telemetryFields_sound env.payload

-- What holds of every tag, tag by tag.
theorem forall_writtenTags (env : Envelope) {P : Name → GoString → Prop} :
    (∀ tag ∈ writtenTags env, P tag.1 tag.2) ↔
      P (Utf8.encode "vehicle_id") env.vehicleID ∧
      P (Utf8.encode "stream_type") (Utf8.encode (stName env.streamType)) ∧
      (env.fleetID ≠ [] → P (Utf8.encode "project_id") env.fleetID) ∧
      (env.orgID ≠ [] → P (Utf8.encode "org_id") env.orgID) ∧
      (env.streamName ≠ [] → P (Utf8.encode "stream_name") env.streamName) ∧
      (env.senderID ≠ [] → P (Utf8.encode "sender_id") env.senderID) ∧
      (env.senderType ≠ [] → P (Utf8.encode "sender_type") env.senderType) ∧
      (env.receiverID ≠ [] → P (Utf8.encode "receiver_id") env.receiverID) ∧
      (env.receiverType ≠ [] → P (Utf8.encode "receiver_type") env.receiverType) := by
  have optional (name : String) (value : GoString) :
      (∀ tag ∈ (optionalTag name value).map fun tag => (Utf8.encode tag.1, tag.2), P tag.1 tag.2) ↔
        (value ≠ [] → P (Utf8.encode name) value) := by
    unfold optionalTag
    split_ifs with given <;> simp [given]
  simp only [writtenTags, buildILPTags, List.map_append, List.forall_mem_append, optional]
  simp [and_assoc]

theorem writtenTags_correct {env : Envelope} (named : env.vehicleID ≠ []) :
    ∀ tag ∈ writtenTags env, Simple tag.1 ∧ tag.2 ≠ [] := by
  rw [@forall_writtenTags env fun name value => Simple name ∧ value ≠ []]
  have stream : Utf8.encode (stName env.streamType) ≠ [] := by
    rw [ne_eq, Utf8.encode_eq_nil]
    exact (stName_words env.streamType).1
  refine ⟨⟨by decide, named⟩, ⟨by decide, stream⟩, ?_, ?_, ?_, ?_, ?_, ?_, ?_⟩ <;>
    exact fun given => ⟨by decide, given⟩

theorem writtenRow_correct {env : Envelope} (named : env.vehicleID ≠ []) (now : Int) :
    (writtenRow env now).Correct where
  measurement := by
    show Simple (Utf8.encode "telemetry")
    decide
  tags := writtenTags_correct named
  some_field := by simp [writtenRow, buildILPFields]
  fields := by
    intro field member
    obtain ⟨intended, inside, rfl⟩ := List.mem_map.mp member
    exact (buildILPFields_sound env intended inside).1

/-! ## When the line says the row -/

/-- A tag value whose escaped text ends where the value does. -/
def Unbroken (value : GoString) : Prop := newline ∉ value ∧ Closed value

instance (value : GoString) : Decidable (Unbroken value) := inferInstanceAs (Decidable (_ ∧ _ ≠ _))

structure Expressible (env : Envelope) (now : Int) : Prop where
  vehicleID : Unbroken env.vehicleID
  fleetID : Unbroken env.fleetID
  orgID : Unbroken env.orgID
  streamName : Unbroken env.streamName
  senderID : Unbroken env.senderID
  senderType : Unbroken env.senderType
  receiverID : Unbroken env.receiverID
  receiverType : Unbroken env.receiverType
  lat : Binary.finite env.lat = true
  lon : Binary.finite env.lon = true
  alt : Binary.finite (Binary.widen env.alt) = true
  seq : env.seq < 9223372036854775808
  -- Their escapes `\n` and `\r` are no escapes to the reader.
  payload : newline ∉ env.payload ∧ 0x0D ∉ env.payload
  time : -9223372036854775806 ≤ rowTime env now ∧ rowTime env now ≤ 9223372036854775806

theorem stName_unbroken (streamType : UInt64) : Unbroken (Utf8.encode (stName streamType)) := by
  have words := (stName_words streamType).2
  have text := encode_ascii fun c member => (words c member).1.2.1
  rw [text]
  refine ⟨newline_ascii fun c member => (words c member).1, ?_⟩
  intro last
  obtain ⟨c, member, same⟩ := List.mem_map.mp (List.mem_of_getLast? last)
  have escape : c = '\\' := ascii_inj (words c member).1 (by decide) same
  exact (words c member).2 escape

theorem unbroken_optional {value : GoString} : (value ≠ [] → Unbroken value) ↔ Unbroken value := by
  constructor
  · intro given
    by_cases empty : value = []
    · subst empty
      decide
    · exact given empty
  · exact fun unbroken _ => unbroken

theorem tags_unbroken_iff (env : Envelope) : (∀ tag ∈ writtenTags env, Unbroken tag.2) ↔
    Unbroken env.vehicleID ∧ Unbroken env.fleetID ∧ Unbroken env.orgID ∧ Unbroken env.streamName ∧
      Unbroken env.senderID ∧ Unbroken env.senderType ∧ Unbroken env.receiverID ∧
      Unbroken env.receiverType := by
  rw [@forall_writtenTags env fun _ value => Unbroken value]
  simp only [unbroken_optional, stName_unbroken, true_and]

theorem flatMap_readBack {s : GoString} : s.flatMap readBack = s ↔ newline ∉ s ∧ 0x0D ∉ s := by
  induction s with
  | nil => simp
  | cons b rest ih =>
    rw [List.flatMap_cons]
    by_cases is_newline : b = newline
    · subst is_newline
      have escaped : readBack newline = [backslash, 0x6E] := rfl
      have different : backslash ≠ newline := by decide
      simp [escaped, different]
    · by_cases is_return : b = 0x0D
      · subst is_return
        have escaped : readBack 0x0D = [backslash, 0x72] := rfl
        have different : backslash ≠ 0x0D := by decide
        simp [escaped, different]
      · simp [readBack, is_newline, is_return, ih, Ne.symm is_newline, Ne.symm is_return]

theorem floatColumn_read {name : String} {v : UInt64} :
    (floatColumn name v).1.value = some (floatColumn name v).2 ↔ Binary.finite v = true := by
  unfold floatColumn
  split_ifs with finite <;> simp [finite]

theorem integerColumn_read {name : String} {v : Int} :
    (integerColumn name v).1.value = some (integerColumn name v).2 ↔
      -9223372036854775808 ≤ v ∧ v < 9223372036854775808 := by
  unfold integerColumn
  split_ifs with range <;> simp [range]

theorem stringColumn_read {name : String} {s : GoString} :
    (stringColumn name s).1.value = some (stringColumn name s).2 ↔ newline ∉ s ∧ 0x0D ∉ s := by
  rw [← flatMap_readBack]
  simp [stringColumn]

theorem toFloat64_finite {value : Option Json.Value} {f : UInt64} (converted : toFloat64 value = some f) :
    Binary.finite f = true := by
  unfold toFloat64 at converted
  split at converted
  · exact Binary.parseFloat_finite converted
  · cases converted

theorem telemetryFields_read (payload : List UInt8) :
    ∀ field ∈ telemetryFields payload, field.1.value = some field.2 := by
  unfold telemetryFields
  cases unmarshalMap payload with
  | none => simp
  | some m =>
    simp only [List.forall_mem_append, forall_optionalColumn, floatColumn_read, integerColumn_read]
    exact ⟨⟨fun f _ => Binary.truncate_range f, fun f => toFloat64_finite⟩, fun f => toFloat64_finite⟩

theorem fields_read_iff {env : Envelope} (sized : env.payload.length < 9223372036854775808) :
    (∀ field ∈ buildILPFields env, field.1.value = some field.2) ↔
      Binary.finite env.lat = true ∧ Binary.finite env.lon = true ∧
      Binary.finite (Binary.widen env.alt) = true ∧ env.seq < 9223372036854775808 ∧
      newline ∉ env.payload ∧ 0x0D ∉ env.payload := by
  have seq : (-9223372036854775808 ≤ (env.seq.toNat : Int) ∧
      (env.seq.toNat : Int) < 9223372036854775808) ↔ env.seq < 9223372036854775808 := by
    rw [UInt64.lt_iff_toNat_lt]
    have bound : (9223372036854775808 : UInt64).toNat = 9223372036854775808 := rfl
    omega
  have size : -9223372036854775808 ≤ (env.payload.length : Int) ∧
      (env.payload.length : Int) < 9223372036854775808 := by omega
  rw [forall_buildILPFields]
  simp only [floatColumn_read, integerColumn_read, stringColumn_read, seq, size, true_and]
  by_cases empty : env.payload = []
  · simp [empty]
  · have telemetry : (env.streamType = 1 → ∀ field ∈ telemetryFields env.payload,
        field.1.value = some field.2) ↔ True := iff_true_intro fun _ => telemetryFields_read _
    simp [-Prod.forall, empty, telemetry]

theorem newline_line {env : Envelope} (now : Int) :
    newline ∉ (writtenRow env now).bytes ↔ ∀ tag ∈ writtenTags env, newline ∉ tag.2 := by
  have measurement : newline ∉ (writtenRow env now).measurement := by
    show newline ∉ Utf8.encode "telemetry"
    decide
  have fields : ∀ field ∈ (writtenRow env now).fields, newline ∉ field.bytes := by
    intro field member
    obtain ⟨intended, inside, rfl⟩ := List.mem_map.mp member
    exact (buildILPFields_sound env intended inside).2
  have names : ∀ tag ∈ writtenTags env, newline ∉ tag.1 := by
    rw [@forall_writtenTags env fun name _ => newline ∉ name]
    refine ⟨by decide, by decide, ?_, ?_, ?_, ?_, ?_, ?_, ?_⟩ <;> exact fun _ => by decide
  rw [newline_row measurement fields, writtenRow, newline_writeTags]
  exact forall₂_congr fun tag member => and_iff_right (names tag member)

/-- The line says exactly what the envelope does if and only if the format can say it: no tag with a
line break or a backslash at its end, no payload with a line break, no number that is not finite. -/
theorem line_says_row_iff {env : Envelope} (now : Int) (named : env.vehicleID ≠ [])
    (sized : env.payload.length < 9223372036854775808) :
    IsLine (buildILPLine env now) (buildILPRow env now) ↔ Expressible env now := by
  have tags := tags_unbroken_iff env
  have fields := fields_read_iff sized
  have read : readRow (writtenRow env now).bytes = some (buildILPRow env now) ↔
      (∀ tag ∈ writtenTags env, Closed tag.2) ∧
      (∀ field ∈ buildILPFields env, field.1.value = some field.2) ∧
      (-9223372036854775806 ≤ rowTime env now ∧ rowTime env now ≤ 9223372036854775806) := by
    rw [readRow_bytes (writtenRow_correct named now), ← mapM_read_iff]
    simp [writtenRow, buildILPRow]
  have both : (∀ tag ∈ writtenTags env, Unbroken tag.2) ↔
      (∀ tag ∈ writtenTags env, newline ∉ tag.2) ∧ ∀ tag ∈ writtenTags env, Closed tag.2 :=
    forall₂_and
  rw [IsLine, buildILPLine_bytes, newline_line, read, ← and_assoc, ← both, tags, fields]
  constructor
  · rintro ⟨⟨vehicle, fleet, org, stream, sender, sender_type, receiver, receiver_type⟩,
      ⟨lat, lon, alt, seq, payload⟩, time⟩
    exact ⟨vehicle, fleet, org, stream, sender, sender_type, receiver, receiver_type, lat, lon, alt,
      seq, payload, time⟩
  · intro fits
    exact ⟨⟨fits.vehicleID, fits.fleetID, fits.orgID, fits.streamName, fits.senderID,
      fits.senderType, fits.receiverID, fits.receiverType⟩,
      ⟨fits.lat, fits.lon, fits.alt, fits.seq, fits.payload⟩, fits.time⟩

def drivingEnvelope : Envelope :=
  { Envelope.empty with
    vehicleID := Utf8.encode "rover, 1"
    timestampNs := 1
    streamType := 1
    payload := Utf8.encode "\x7b\"speed_ms\": 2\x7d" }

theorem driving_line : IsLine (buildILPLine drivingEnvelope 0) (buildILPRow drivingEnvelope 0) := by
  have named : drivingEnvelope.vehicleID ≠ [] := by decide
  have sized : drivingEnvelope.payload.length < 9223372036854775808 := by decide
  refine (line_says_row_iff 0 named sized).mpr ?_
  constructor <;> decide

/-- An envelope whose stream name holds a line break. -/
def brokenEnvelope : Envelope :=
  { Envelope.empty with
    vehicleID := Utf8.encode "v"
    timestampNs := 1
    streamType := 1
    streamName := Utf8.encode "s\ntelemetry" }

def brokenData : List UInt8 :=
  [0x0A, 0x01, 0x76, 0x10, 0x01, 0x18, 0x01, 0x92, 0x01, 0x0B] ++ Utf8.encode "s\ntelemetry"

/-- The reader's second line has no tags, and so no vehicle. -/
def strayLine : List UInt8 := Utf8.encode "telemetry lat=0.0,lon=0.0,alt_m=0.0,seq=0i 1"

theorem stream_name_starts_line :
    decodeDataEnvelope brokenData = .ok brokenEnvelope ∧
    ¬ IsLine (buildILPLine brokenEnvelope 0) (buildILPRow brokenEnvelope 0) ∧
    buildILPLine brokenEnvelope 0 = Utf8.encode
      "telemetry,vehicle_id=v,stream_type=telemetry,stream_name=s" ++ newline :: strayLine ∧
    (readRow strayLine).map Row.tags = some [] := by
  refine ⟨rfl, ?_, by decide, by decide⟩
  rintro ⟨whole, _⟩
  revert whole
  decide

end SystemScale.Cloud

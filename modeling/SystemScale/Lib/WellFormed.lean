import SystemScale.Lib.Rounds

set_option autoImplicit false

/-!
# Well-formed messages

A message without groups is a sequence of complete fields with the numbers that the format has.
`ReadsTo` reads the complete fields at the front of any bytes.
-/

namespace Wire

/-- The numbers that a field may have. -/
def Field.Legal (field : Field) : Prop := 0 < field.number ∧ field.number < 2 ^ 29

/-- A varint may be longer than it need be, up to ten bytes. -/
def WellFormed (data : List UInt8) (fields : List Field) : Prop :=
  Reads data fields ∧ ∀ field ∈ fields, field.Legal

/-- The number as a decoder's `u32`. -/
def Field.castNumber (field : Field) : Field := { field with number := field.number % 2 ^ 32 }

theorem Field.castNumber_small {field : Field} (small : field.number < 2 ^ 29) :
    field.castNumber = field := by
  rw [Field.castNumber, Nat.mod_eq_of_lt (by omega)]

theorem Field.map_castNumber {fields : List Field} (legal : ∀ field ∈ fields, field.Legal) :
    fields.map Field.castNumber = fields := by
  have same : fields.map Field.castNumber = fields.map id :=
    List.map_congr_left fun field member => Field.castNumber_small (legal field member).2
  rw [same, List.map_id]

theorem Field.room_le {fields : List Field} {field : Field} (member : field ∈ fields) :
    field.payload.room ≤ (encode fields).length + 10 := by
  induction fields with
  | nil => cases member
  | cons first rest ih =>
    rw [encode_cons, List.length_append]
    rcases List.mem_cons.mp member with rfl | later
    · cases is : field.payload with
      | delimited data =>
        simp only [Payload.room, Field.bytes, is, Payload.bytes, List.length_append]
        omega
      | varint word => simp [Payload.room]
      | fixed64 bits => simp [Payload.room]
      | fixed32 bits => simp [Payload.room]
    · have inside := ih later
      omega

theorem FieldAt.scans {data after : List UInt8} {start : Nat} {field : Field}
    (at_field : FieldAt data start field after) (held : data.length < 2 ^ 63) :
    scanField (data.drop start) = some (field, field.bytes.length) := by
  have ends := at_field.ends
  have room := Field.room_le (List.mem_singleton_self field)
  rw [encode_cons, encode_nil, List.append_nil] at room
  exact at_field.scanned (by omega)

-- A message whose numbers are legal is well-formed as it is written.
theorem wellFormed_encode {fields : List Field} (legal : ∀ field ∈ fields, field.Legal)
    (held : (encode fields).length < 2 ^ 63) : WellFormed (encode fields) fields := by
  refine ⟨reads_encode fields fun field member => ⟨(legal field member).2, ?_⟩, legal⟩
  have room := Field.room_le member
  omega

/-! ## Last values -/

def Field.varint? (number : Nat) (field : Field) : Option UInt64 :=
  match field.payload with
  | .varint word => if field.number = number then some word else none
  | _ => none

def Field.fixed64? (number : Nat) (field : Field) : Option UInt64 :=
  match field.payload with
  | .fixed64 bits => if field.number = number then some bits else none
  | _ => none

def Field.delimited? (number : Nat) (field : Field) : Option (List UInt8) :=
  match field.payload with
  | .delimited data => if field.number = number then some data else none
  | _ => none

def Field.fixed32? (number : Nat) (field : Field) : Option UInt32 :=
  match field.payload with
  | .fixed32 bits => if field.number = number then some bits else none
  | _ => none

section Last

variable {A : Type}

/-- The last of the values that are picked from the fields. -/
def last (pick : Field → Option A) (absent : A) (fields : List Field) : A :=
  (fields.filterMap pick).getLast?.getD absent

@[simp] theorem last_nil (pick : Field → Option A) (absent : A) : last pick absent [] = absent := rfl

@[simp] theorem last_cons (pick : Field → Option A) (absent : A) (field : Field)
    (rest : List Field) :
    last pick absent (field :: rest) = last pick ((pick field).getD absent) rest := by
  unfold last
  cases is : pick field with
  | none => simp [is]
  | some value => simp [is, List.getLast?_cons]

theorem last_map {B : Type} (pick : Field → Option A) (make : A → B) {absent : A} (other : B)
    {fields : List Field} (is : last pick absent fields ≠ absent) :
    last (fun field => (pick field).map make) other fields = make (last pick absent fields) := by
  have same : (fields.filterMap fun field => (pick field).map make) =
      (fields.filterMap pick).map make := (List.map_filterMap).symm
  unfold last at is ⊢
  rw [same, List.getLast?_map]
  cases found : (fields.filterMap pick).getLast? with
  | none => simp [found] at is
  | some value => rfl

end Last

/-! ## Where a field is read from -/

/-- The bytes of `data` from `start` on hold this payload, in so many bytes. -/
inductive Content (data : List UInt8) (start : Nat) : Payload → Nat → Prop where
  | varint {word : UInt64} {length : Nat}
      (read : Varint.read (data.drop start) = .value word length) :
      Content data start (.varint word) length
  | fixed64 (inside : start + 8 ≤ data.length) :
      Content data start (.fixed64 (UInt64.ofNat (Bytes.leValue (Bytes.slice data start 8)))) 8
  | delimited {count : UInt64} {length : Nat}
      (read : Varint.read (data.drop start) = .value count length)
      (inside : start + length + count.toNat ≤ data.length) :
      Content data start (.delimited (Bytes.slice data (start + length) count.toNat))
        (length + count.toNat)
  | fixed32 (inside : start + 4 ≤ data.length) :
      Content data start (.fixed32 (UInt32.ofNat (Bytes.leValue (Bytes.slice data start 4)))) 4

section Content

variable {data : List UInt8} {pos start length wireType size : Nat} {field : Field}
  {payload : Payload}

theorem scanPayload_content
    (scanned : scanPayload wireType (data.drop start) = some (payload, size)) (inside : start ≤ data.length) :
    wireType = payload.wireType ∧ Content data start payload size := by
  unfold scanPayload at scanned
  split at scanned
  next =>
    split at scanned
    next word length read =>
      cases scanned
      exact ⟨rfl, .varint read⟩
    next => cases scanned
  next =>
    split_ifs at scanned with short
    rw [List.length_drop] at short
    cases scanned
    exact ⟨rfl, .fixed64 (by omega)⟩
  next =>
    split at scanned
    next count length read =>
      split_ifs at scanned with short
      have bounds := Varint.read_bounds read
      rw [List.length_drop] at short bounds
      have held := Content.delimited read (show start + length + count.toNat ≤ data.length by omega)
      rw [Bytes.slice, ← List.drop_drop] at held
      cases scanned
      exact ⟨rfl, held⟩
    next => cases scanned
  next =>
    split_ifs at scanned with short
    rw [List.length_drop] at short
    cases scanned
    exact ⟨rfl, .fixed32 (by omega)⟩
  next => cases scanned

theorem Content.scanned (content : Content data start payload size) :
    scanPayload payload.wireType (data.drop start) = some (payload, size) := by
  cases content with
  | varint read => simp only [Payload.wireType, scanPayload, read]
  | fixed64 inside =>
    rw [Payload.wireType, scanPayload, if_neg (by rw [List.length_drop]; omega)]
    rfl
  | delimited read inside =>
    simp only [Payload.wireType, scanPayload, read, List.length_drop]
    rw [if_neg (by omega), Bytes.slice, Bytes.slice, List.drop_drop]
  | fixed32 inside =>
    rw [Payload.wireType, scanPayload, if_neg (by rw [List.length_drop]; omega)]
    rfl

-- A complete field: its tag, and its content behind that.
theorem scanField_content (scanned : scanField (data.drop pos) = some (field, length)) :
    ∃ tag tagLength size, Varint.read (data.drop pos) = .value tag tagLength ∧
      (tag >>> 3).toNat = field.number ∧ (tag &&& 0x7).toNat = field.payload.wireType ∧
      Content data (pos + tagLength) field.payload size ∧ length = tagLength + size := by
  obtain ⟨tag, tagLength, size, read, inner, number, same⟩ := scanField_cases scanned
  have bounds := Varint.read_bounds read
  rw [List.length_drop] at bounds
  rw [List.drop_drop] at inner
  obtain ⟨kind, content⟩ := scanPayload_content inner (by omega)
  exact ⟨tag, tagLength, size, read, number.symm, kind, content, same⟩

-- The same with the number cut to 32 bits.
theorem scanField_content32 (scanned : scanField (data.drop pos) = some (field, length)) :
    ∃ tag tagLength size, Varint.read (data.drop pos) = .value tag tagLength ∧
      (tag >>> 3).toUInt32.toNat = field.number % 2 ^ 32 ∧
      (tag &&& 0x7).toNat = field.payload.wireType ∧
      Content data (pos + tagLength) field.payload size ∧ length = tagLength + size := by
  obtain ⟨tag, tagLength, size, read, number, rest⟩ := scanField_content scanned
  exact ⟨tag, tagLength, size, read, by rw [UInt64.toNat_toUInt32, number], rest⟩

-- A tag and content of its kind are a field.
theorem Content.scanField {tag : UInt64} {tagLength : Nat}
    (read : Varint.read (data.drop pos) = .value tag tagLength)
    (kind : (tag &&& 0x7).toNat = payload.wireType)
    (content : Content data (pos + tagLength) payload size) :
    Wire.scanField (data.drop pos) = some (⟨(tag >>> 3).toNat, payload⟩, tagLength + size) := by
  simp only [Wire.scanField, read, kind, List.drop_drop, content.scanned]

theorem Content.delimited_le {part : List UInt8}
    (content : Content data start (.delimited part) size) : part.length ≤ data.length := by
  cases content with
  | delimited read inside =>
    rw [Bytes.length_slice inside]
    omega

theorem Reads.delimited_le {fields : List Field} {number : Nat} {part : List UInt8}
    (reads : Reads data fields) (member : ⟨number, .delimited part⟩ ∈ fields) :
    part.length ≤ data.length := by
  induction reads with
  | nil => cases member
  | @cons data field length fields first rest ih =>
    rcases List.mem_cons.mp member with rfl | later
    · have front : Wire.scanField (data.drop 0) = some (⟨number, .delimited part⟩, length) := by
        rwa [List.drop_zero]
      obtain ⟨_, _, _, _, _, _, content, _⟩ := scanField_content front
      exact content.delimited_le
    · exact (ih later).trans (by simp)

end Content

/-! ## The complete fields at the front -/

/-- `fields` are complete and fill the first bytes, up to a position. -/
inductive ReadsTo (data : List UInt8) : List Field → Nat → Prop where
  | start : ReadsTo data [] 0
  | next {fields : List Field} {field : Field} {pos length : Nat} (before : ReadsTo data fields pos)
      (scanned : scanField (data.drop pos) = some (field, length)) :
      ReadsTo data (fields ++ [field]) (pos + length)

section Front

variable {data : List UInt8} {fields more : List Field} {pos : Nat}

theorem ReadsTo.inside (reads : ReadsTo data fields pos) : pos ≤ data.length := by
  cases reads with
  | start => exact Nat.zero_le _
  | next _ scanned =>
    have bounds := scanField_bounds scanned
    rw [List.length_drop] at bounds
    omega

theorem ReadsTo.whole (reads : ReadsTo data fields pos) (rest : Reads (data.drop pos) more) :
    Reads data (fields ++ more) := by
  induction reads generalizing more with
  | start => simpa using rest
  | next _ scanned ih =>
    rw [List.append_assoc]
    exact ih (.cons scanned (by rwa [List.drop_drop]))

-- A whole message reads on from any of its positions.
theorem ReadsTo.rest {all : List Field} (reads : ReadsTo data fields pos) (whole : Reads data all) :
    ∃ more, all = fields ++ more ∧ Reads (data.drop pos) more := by
  induction reads with
  | start => exact ⟨all, rfl, by simpa using whole⟩
  | @next fields field pos length _ scanned ih =>
    obtain ⟨more, rfl, later⟩ := ih
    cases more with
    | nil =>
      generalize data.drop pos = remaining at later scanned
      cases later
      simp [scanField, Varint.read, Varint.readLoop] at scanned
    | cons first more =>
      obtain ⟨size, found, tail⟩ := later.at_field
      rw [scanned] at found
      cases found
      exact ⟨more, by simp, tail⟩

theorem ReadsTo.stuck {all : List Field} (reads : ReadsTo data fields pos)
    (unread : scanField (data.drop pos) = none) (whole : Reads data all) :
    all = fields ∧ pos = data.length := by
  obtain ⟨more, rfl, rest⟩ := reads.rest whole
  cases more with
  | nil => exact ⟨List.append_nil fields, rest.at_end reads.inside⟩
  | cons first more =>
    obtain ⟨size, found, _⟩ := rest.at_field
    rw [unread] at found
    cases found

theorem ReadsTo.append (reads : ReadsTo data fields pos) (rest : Reads (data.drop pos) more) :
    ReadsTo data (fields ++ more) data.length := by
  induction more generalizing fields pos with
  | nil => rwa [List.append_nil, ← rest.at_end reads.inside]
  | cons field later ih =>
    obtain ⟨length, first, tail⟩ := rest.at_field
    have longer := ih (reads.next first) tail
    rwa [List.append_assoc] at longer

theorem Reads.readsTo (reads : Reads data fields) : ReadsTo data fields data.length :=
  ReadsTo.start.append (by simpa using reads)

-- The fields that are to be kept end where none can be read, or one that is not.
theorem readsTo_while (Keep : Field → Prop) (data : List UInt8) :
    ∃ fields pos, ReadsTo data fields pos ∧ (∀ field ∈ fields, Keep field) ∧
      ∀ field length, scanField (data.drop pos) = some (field, length) → ¬ Keep field := by
  have search (left pos : Nat) (fields : List Field) (reads : ReadsTo data fields pos)
      (kept : ∀ field ∈ fields, Keep field) (few : data.length - pos ≤ left) :
      ∃ fields pos, ReadsTo data fields pos ∧ (∀ field ∈ fields, Keep field) ∧
        ∀ field length, scanField (data.drop pos) = some (field, length) → ¬ Keep field := by
    induction left generalizing pos fields with
    | zero =>
      have behind : data.drop pos = [] := List.drop_eq_nil_of_le (by omega)
      exact ⟨fields, pos, reads, kept, by simp [behind, scanField, Varint.read, Varint.readLoop]⟩
    | succ left ih =>
      by_cases goes : ∃ field length, scanField (data.drop pos) = some (field, length) ∧ Keep field
      · obtain ⟨field, length, scanned, keep⟩ := goes
        have bounds := scanField_bounds scanned
        refine ih (pos + length) _ (reads.next scanned) (fun other member => ?_) (by omega)
        rcases List.mem_append.mp member with before | last
        · exact kept other before
        · rw [List.mem_singleton.mp last]
          exact keep
      · exact ⟨fields, pos, reads, kept, fun field length scanned keep =>
          goes ⟨field, length, scanned, keep⟩⟩
  exact search data.length 0 [] .start (by simp) (by omega)

theorem readsTo_ends (data : List UInt8) :
    ∃ fields pos, ReadsTo data fields pos ∧ scanField (data.drop pos) = none := by
  obtain ⟨fields, pos, reads, _, ends⟩ := readsTo_while (fun _ => True) data
  refine ⟨fields, pos, reads, Option.eq_none_iff_forall_ne_some.mpr ?_⟩
  rintro ⟨field, length⟩ scanned
  exact ends field length scanned trivial

-- A decoder comes to every position up to which there are complete fields.
theorem ReadsTo.visits {S R Env : Type} {body : S → Step S R} (place : Nat → Env → S)
    {apply : Env → Field → Env} {env : Env}
    (field_step : ∀ position field length env, field ∈ fields → position < data.length →
      scanField (data.drop position) = some (field, length) →
      body (place position env) = .next (place (position + length) (apply env field)))
    (reads : ReadsTo data fields pos) :
    Visits body (place 0 env) (place pos (fields.foldl apply env)) := by
  induction reads with
  | start => exact .start
  | @next _ field pos length before scanned ih =>
    have bounds := scanField_bounds scanned
    rw [List.length_drop] at bounds
    rw [List.foldl_append]
    have visited := ih fun position other length env member =>
      field_step position other length env (List.mem_append_left _ member)
    exact visited.next (field_step pos field length _ (List.mem_append_right _ List.mem_cons_self)
      (by omega) scanned)

end Front

/-! ## Readers that stop when they know enough -/

/-- The shortest of the first parts of `fields` for which `P` holds. -/
structure FirstPrefix (P : List Field → Prop) (seen fields : List Field) : Prop where
  front : seen <+: fields
  holds : P seen
  first : ∀ shorter, shorter <+: seen → P shorter → shorter = seen

section Until

variable {Env : Type} {stop : Env → Bool} {apply : Env → Field → Env}

theorem FirstPrefix.unique {P : List Field → Prop} {seen other fields : List Field}
    (found : FirstPrefix P seen fields) (again : FirstPrefix P other fields) : seen = other := by
  rcases List.prefix_or_prefix_of_prefix found.front again.front with shorter | longer
  · exact again.first seen shorter found.holds
  · exact (found.first other longer again.holds).symm

theorem firstPrefix_cons {env : Env} {field : Field} {seen fields : List Field}
    (start : ¬ stop env = true) :
    FirstPrefix (fun seen => stop (seen.foldl apply env) = true) (field :: seen)
        (field :: fields) ↔
      FirstPrefix (fun seen => stop (seen.foldl apply (apply env field)) = true) seen fields := by
  constructor
  · intro found
    refine ⟨(List.prefix_cons_inj field).mp found.front, found.holds, fun shorter front holds => ?_⟩
    have same := found.first (field :: shorter) ((List.prefix_cons_inj field).mpr front) holds
    exact (List.cons.inj same).2
  · intro found
    refine ⟨(List.prefix_cons_inj field).mpr found.front, found.holds, fun shorter front holds => ?_⟩
    cases shorter with
    | nil => exact absurd holds start
    | cons first shorter =>
      obtain ⟨rfl, inside⟩ := List.cons_prefix_cons.mp front
      rw [found.first shorter inside holds]

variable (stop apply) in
theorem foldUntil_first (fields : List Field) (env : Env) (start : ¬ stop env = true) :
    (∃ seen, FirstPrefix (fun seen => stop (seen.foldl apply env) = true) seen fields ∧
      foldUntil stop apply env fields = seen.foldl apply env) ∨
    (∀ seen, ¬ FirstPrefix (fun seen => stop (seen.foldl apply env) = true) seen fields) ∧
      foldUntil stop apply env fields = fields.foldl apply env := by
  induction fields generalizing env with
  | nil =>
    refine .inr ⟨fun seen found => start ?_, rfl⟩
    have holds := found.holds
    rwa [List.prefix_nil.mp found.front] at holds
  | cons field rest ih =>
    by_cases stopped : stop (apply env field) = true
    · refine .inl ⟨[field], ⟨by simp, stopped, fun shorter front holds => ?_⟩, ?_⟩
      · cases shorter with
        | nil => exact absurd holds start
        | cons first shorter =>
          obtain ⟨rfl, nothing⟩ := List.cons_prefix_cons.mp front
          rw [List.prefix_nil.mp nothing]
      · rw [foldUntil, if_pos stopped]
        rfl
    · rw [foldUntil, if_neg stopped]
      rcases ih (apply env field) stopped with ⟨seen, found, same⟩ | ⟨none, same⟩
      · exact .inl ⟨field :: seen, (firstPrefix_cons start).mpr found, same⟩
      · refine .inr ⟨fun seen found => ?_, same⟩
        cases seen with
        | nil => exact start found.holds
        | cons first seen =>
          obtain ⟨rfl, _⟩ := List.cons_prefix_cons.mp found.front
          exact none seen ((firstPrefix_cons start).mp found)

variable {S R : Type} (body : S → Step S R) (place : Nat → Env → S) (finish : Env → R)
  (data : List UInt8)

theorem loop_reads_until
    (field_step : ∀ position field length env, position < data.length →
      scanField (data.drop position) = some (field, length) →
      body (place position env) =
        if stop (apply env field) then .done (finish (apply env field))
        else .next (place (position + length) (apply env field)))
    (end_step : ∀ env, body (place data.length env) = .done (finish env))
    {fields : List Field} {position : Nat} {env : Env} {fuel : Nat}
    (reads : Reads (data.drop position) fields) (inside : position ≤ data.length)
    (enough : data.length - position < fuel) :
    loop body fuel (place position env) = some (finish (foldUntil stop apply env fields)) :=
  loop_known_until body place apply finish data
    (fun position field length env within (_ : True) found =>
      field_step position field length env within found)
    end_step (fun _ _ => trivial) reads inside enough

end Until

/-- The content of the length-delimited field at `pos` would end at `limit` or behind it. -/
def EndsPast (limit : Nat) (data : List UInt8) (pos : Nat) : Prop :=
  ∃ number content count, delimitedAt data pos = some (number, content, count) ∧
    limit ≤ content + count

section Ends

variable {limit pos tagLength countLength : Nat} {data : List UInt8} {tag count : UInt64}

theorem endsPast_front (limit : Nat) {number content length : Nat}
    (front : delimitedAt data pos = some (number, content, length)) :
    EndsPast limit data pos ↔ limit ≤ content + length := by
  rw [EndsPast, front]
  constructor
  · rintro ⟨_, _, _, same, past⟩
    cases same
    exact past
  · intro past
    exact ⟨_, _, _, rfl, past⟩

theorem endsPast_iff (limit : Nat) (read : Varint.read (data.drop pos) = .value tag tagLength)
    (delimited : (tag &&& 0x7).toNat = 2)
    (length : Varint.read (data.drop (pos + tagLength)) = .value count countLength) :
    EndsPast limit data pos ↔ limit ≤ pos + tagLength + countLength + count.toNat :=
  endsPast_front limit (delimitedAt_eq read delimited length)

theorem not_endsPast (none : delimitedAt data pos = none) : ¬ EndsPast limit data pos := by
  rintro ⟨_, _, _, same, _⟩
  simp [none] at same

theorem EndsPast.inside (past : EndsPast limit data pos) : pos < data.length := by
  obtain ⟨_, _, _, front, _⟩ := past
  exact delimitedAt_inside front

-- Nothing is read where the content would end behind the data.
theorem EndsPast.unread (past : EndsPast limit data pos) (held : data.length < limit) :
    scanField (data.drop pos) = none := by
  obtain ⟨number, content, length, front, past⟩ := past
  unfold delimitedAt at front
  split at front
  next tag tagLength read =>
    split_ifs at front with delimited
    split at front
    next count countLength value =>
      have tag_bounds := Varint.read_bounds read
      have count_bounds := Varint.read_bounds value
      rw [List.length_drop] at tag_bounds count_bounds
      cases front
      simp only [scanField, read, delimited, scanPayload, List.drop_drop, value, List.length_drop]
      rw [if_pos (by omega)]
    next => simp at front
  next => simp at front

end Ends

theorem ReadsTo.reads {data : List UInt8} {fields : List Field}
    (reads : ReadsTo data fields data.length) : Reads data fields := by
  have nothing : Reads (data.drop data.length) [] := by
    rw [List.drop_length]
    exact .nil
  have whole := reads.whole nothing
  rwa [List.append_nil] at whole

/-! ## Messages without their last bytes -/

section Cut

variable {data : List UInt8} {limit pos : Nat}

theorem ReadsTo.longer {fields : List Field} (reads : ReadsTo data fields pos)
    (more : List UInt8) : ReadsTo (data ++ more) fields pos := by
  induction reads with
  | start => exact .start
  | next before scanned ih =>
    refine ih.next ?_
    rw [List.drop_append_of_le_length before.inside]
    exact scanField_longer more scanned

theorem EndsPast.longer (past : EndsPast limit data pos) (more : List UInt8) :
    EndsPast limit (data ++ more) pos := by
  have inside := past.inside
  obtain ⟨number, content, length, front, past⟩ := past
  refine ⟨number, content, length, ?_, past⟩
  unfold delimitedAt at front ⊢
  split at front
  next tag tagLength read =>
    have bounds := Varint.read_bounds read
    rw [List.length_drop] at bounds
    have longer : Varint.read ((data ++ more).drop pos) = .value tag tagLength := by
      rw [List.drop_append_of_le_length (by omega)]
      exact Varint.readLoop_longer more read
    split_ifs at front with delimited
    split at front
    next count countLength value =>
      have after : Varint.read ((data ++ more).drop (pos + tagLength)) =
          .value count countLength := by
        rw [List.drop_append_of_le_length (by omega)]
        exact Varint.readLoop_longer more value
      simpa only [longer, delimited, after, if_true] using front
    next => simp at front
  next => simp at front

-- Where a message was cut, no content ends behind the message.
theorem Reads.cut_inside {all fields : List Field} {more : List UInt8}
    (whole : Reads (data ++ more) all) (held : (data ++ more).length < limit)
    (reads : ReadsTo data fields pos) : ¬ EndsPast limit data pos := by
  intro past
  have longer := past.longer more
  obtain ⟨_, ended⟩ := (reads.longer more).stuck (longer.unread held) whole
  have inside := longer.inside
  omega

end Cut

end Wire

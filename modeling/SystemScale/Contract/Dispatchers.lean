import SystemScale.Sdk.Subscribers

set_option autoImplicit false

/-!
# The dispatchers of events

`Client` and `MessageReceiver` of the Go SDK and `MessageReceiver` of the Python SDK read the same
events of the agent.
-/

namespace SystemScale.Contract.Dispatch

open Agent (mapInsert)
open Cloud (convertible convertibleFields decodeGoString foldEqual foldRune goReader)
open Json (Number Value lookup)
open Sdk (Object Received commandType eventData hashable isAssistanceResponse pyStr pythonReader truthy)
open Sdk.Go

/-! ## Structs whose fields are set by tag -/

section Structs

variable {α β : Type} {set : α → String → Value → Option α}

theorem foldlM_observed (get : α → β) (observe : β → String × Value → β)
    (effect : ∀ made key value next, set made key value = some next →
      get next = observe (get made) (key, value))
    {fields : List (String × Value)} {first last : α}
    (done : fields.foldlM (fun made field => set made field.1 field.2) first = some last) :
    get last = fields.foldl observe (get first) := by
  induction fields generalizing first with
  | nil =>
    obtain rfl := Option.some.inj done
    rfl
  | cons field rest ih =>
    rw [List.foldlM_cons] at done
    obtain ⟨next, one, done⟩ := Option.bind_eq_some_iff.mp done
    rw [ih done, effect first field.1 field.2 next one]
    rfl

theorem foldlM_isSome {taken : String × Value → Bool}
    (each : ∀ made key value, (set made key value).isSome = taken (key, value))
    (fields : List (String × Value)) (first : α) :
    (fields.foldlM (fun made field => set made field.1 field.2) first).isSome = fields.all taken := by
  induction fields generalizing first with
  | nil => rfl
  | cons field rest ih =>
    rw [List.foldlM_cons, List.all_cons, ← each first field.1 field.2]
    cases set first field.1 field.2 with
    | none => rfl
    | some next => exact ih next

end Structs

/-! ## What Go reads of an event -/

/-- The last text under the tag, whatever the case of its letters. -/
def lastText (tag : String) (old : String) (field : String × Value) : String :=
  match field.2 with
  | .string text => if foldEqual tag field.1 then text else old
  | _ => old

def goText (tag : String) (fields : List (String × Value)) : String := fields.foldl (lastText tag) ""

/-- An object is added to the one before, and a null takes it away. -/
def merged (old : Object) (field : String × Value) : Object :=
  if foldEqual "data" field.1 then
    match field.2 with
    | .null => []
    | .object entries => entries.foldl (fun made entry => mapInsert entry.1 entry.2 made) old
    | _ => old
  else old

def goData (fields : List (String × Value)) : Object := fields.foldl merged []

/-- The field has the type of the struct's field, if it has one. -/
def taken (field : String × Value) : Bool := (Payload.set Payload.zero field.1 field.2).isSome

def takenTyped (field : String × Value) : Bool :=
  (Payload.setTyped Payload.zero field.1 field.2).isSome

theorem foldEqual_apart {tag other key : String}
    (apart : tag.toList.map foldRune ≠ other.toList.map foldRune) (same : foldEqual tag key = true) :
    foldEqual other key = false := by
  unfold foldEqual at same ⊢
  rw [of_decide_eq_true same]
  exact decide_eq_false apart

theorem decodeGoString_some {old text : String} {value : Value}
    (decoded : decodeGoString old value = some text) (tag key : String)
    (same : foldEqual tag key = true) : text = lastText tag old (key, value) := by
  cases value <;> simp_all [decodeGoString, lastText]

theorem lastText_other {tag key : String} (other : foldEqual tag key = false) (old : String)
    (value : Value) : lastText tag old (key, value) = old := by
  cases value <;> simp [lastText, other]

theorem decodeMap_some {old data : Object} {value : Value} (decoded : decodeMap old value = some data)
    {key : String} (same : foldEqual "data" key = true) : data = merged old (key, value) := by
  cases value <;> simp_all [decodeMap, merged]

theorem merged_other {key : String} (other : foldEqual "data" key = false) (old : Object)
    (value : Value) : merged old (key, value) = old := by
  simp [merged, other]

structure Observed (before after : Payload) (field : String × Value) : Prop where
  id : after.id = lastText "id" before.id field
  commandType : after.commandType = lastText "command_type" before.commandType field
  data : after.data = merged before.data field
  priority : after.priority = lastText "priority" before.priority field

theorem set_observed {payload next : Payload} {key : String} {value : Value}
    (done : payload.set key value = some next) :
    Observed payload next (key, value) ∧ next.type = payload.type := by
  have text {tag other : String} (apart : tag.toList.map foldRune ≠ other.toList.map foldRune)
      (same : foldEqual tag key = true) (old : String) : old = lastText other old (key, value) :=
    (lastText_other (foldEqual_apart apart same) old value).symm
  have data {tag : String} (apart : tag.toList.map foldRune ≠ "data".toList.map foldRune)
      (same : foldEqual tag key = true) (old : Object) : old = merged old (key, value) :=
    (merged_other (foldEqual_apart apart same) old value).symm
  unfold Payload.set at done
  split_ifs at done with is_id is_type is_data is_priority
  · obtain ⟨id, decoded, rfl⟩ := Option.map_eq_some_iff.mp done
    exact ⟨⟨decodeGoString_some decoded "id" key is_id, text (by decide) is_id _,
      data (by decide) is_id _, text (by decide) is_id _⟩, rfl⟩
  · obtain ⟨type, decoded, rfl⟩ := Option.map_eq_some_iff.mp done
    exact ⟨⟨text (by decide) is_type _, decodeGoString_some decoded "command_type" key is_type,
      data (by decide) is_type _, text (by decide) is_type _⟩, rfl⟩
  · obtain ⟨entries, decoded, rfl⟩ := Option.map_eq_some_iff.mp done
    exact ⟨⟨text (by decide) is_data _, text (by decide) is_data _, decodeMap_some decoded is_data,
      text (by decide) is_data _⟩, rfl⟩
  · obtain ⟨priority, decoded, rfl⟩ := Option.map_eq_some_iff.mp done
    exact ⟨⟨text (by decide) is_priority _, text (by decide) is_priority _,
      data (by decide) is_priority _, decodeGoString_some decoded "priority" key is_priority⟩, rfl⟩
  · obtain rfl := Option.some.inj done
    simp only [Bool.not_eq_true] at is_id is_type is_data is_priority
    exact ⟨⟨(lastText_other is_id _ _).symm, (lastText_other is_type _ _).symm,
      (merged_other is_data _ _).symm, (lastText_other is_priority _ _).symm⟩, rfl⟩

theorem setTyped_observed {payload next : Payload} {key : String} {value : Value}
    (done : payload.setTyped key value = some next) :
    Observed payload next (key, value) ∧ next.type = lastText "type" payload.type (key, value) := by
  unfold Payload.setTyped at done
  split_ifs at done with is_type
  · obtain ⟨type, decoded, rfl⟩ := Option.map_eq_some_iff.mp done
    have text {other : String} (apart : "type".toList.map foldRune ≠ other.toList.map foldRune)
        (old : String) : old = lastText other old (key, value) :=
      (lastText_other (foldEqual_apart apart is_type) old value).symm
    exact ⟨⟨text (by decide) _, text (by decide) _,
      (merged_other (foldEqual_apart (by decide) is_type) _ value).symm, text (by decide) _⟩,
      decodeGoString_some decoded "type" key is_type⟩
  · obtain ⟨observed, kept⟩ := set_observed done
    simp only [Bool.not_eq_true] at is_type
    exact ⟨observed, kept.trans (lastText_other is_type _ value).symm⟩

theorem decodeGoString_isSome (old other : String) (value : Value) :
    (decodeGoString old value).isSome = (decodeGoString other value).isSome := by
  cases value <;> rfl

theorem decodeMap_isSome (old other : Object) (value : Value) :
    (decodeMap old value).isSome = (decodeMap other value).isSome := by
  cases value <;> simp only [decodeMap]
  split_ifs <;> rfl

-- What a field has been set to so far says nothing on what it takes.
theorem set_isSome (payload : Payload) (key : String) (value : Value) :
    (payload.set key value).isSome = taken (key, value) := by
  simp only [taken, Payload.set]
  split_ifs
  · simpa using decodeGoString_isSome _ _ value
  · simpa using decodeGoString_isSome _ _ value
  · simpa using decodeMap_isSome _ _ value
  · simpa using decodeGoString_isSome _ _ value
  · rfl

theorem setTyped_isSome (payload : Payload) (key : String) (value : Value) :
    (payload.setTyped key value).isSome = takenTyped (key, value) := by
  simp only [takenTyped, Payload.setTyped]
  split_ifs
  · simpa using decodeGoString_isSome _ _ value
  · exact (set_isSome payload key value).trans (set_isSome Payload.zero key value).symm

def goPayload (type : String) (fields : List (String × Value)) : Payload :=
  ⟨goText "id" fields, goText "command_type" fields, type, goData fields, goText "priority" fields⟩

theorem Observed.all {set : Payload → String → Value → Option Payload}
    (observed : ∀ payload key value next, set payload key value = some next →
      Observed payload next (key, value))
    {fields : List (String × Value)} {last : Payload}
    (done : fields.foldlM (fun payload field => set payload field.1 field.2) Payload.zero =
      some last) : last = goPayload last.type fields := by
  have id : last.id = goText "id" fields := foldlM_observed Payload.id _
    (fun payload key value next one => (observed payload key value next one).id) done
  have commandType : last.commandType = goText "command_type" fields := foldlM_observed
    Payload.commandType _
    (fun payload key value next one => (observed payload key value next one).commandType) done
  have data : last.data = goData fields := foldlM_observed Payload.data _
    (fun payload key value next one => (observed payload key value next one).data) done
  have priority : last.priority = goText "priority" fields := foldlM_observed Payload.priority _
    (fun payload key value next one => (observed payload key value next one).priority) done
  rw [goPayload, ← id, ← commandType, ← data, ← priority]

section Read

variable {raw : List Char} {fields : List (String × Value)}
  (read : goReader.read raw = some (.object fields))
include read

theorem unmarshal_eq {set : Payload → String → Value → Option Payload}
    {takes : String × Value → Bool} {type : String}
    (each : ∀ payload key value, (set payload key value).isSome = takes (key, value))
    (filled : ∀ last, fields.foldlM (fun payload field => set payload field.1 field.2) Payload.zero =
      some last → last = goPayload type fields) :
    unmarshal set raw = if fields.all takes then some (goPayload type fields) else none := by
  have some_iff := foldlM_isSome each fields Payload.zero
  rw [unmarshal, read]
  dsimp only
  rw [← some_iff]
  cases done : fields.foldlM (fun payload field => set payload field.1 field.2) Payload.zero with
  | none => rfl
  | some last =>
    rw [filled last done]
    rfl

theorem unmarshal_set :
    unmarshal Payload.set raw = if fields.all taken then some (goPayload "" fields) else none := by
  refine unmarshal_eq read set_isSome fun last done => ?_
  have untyped (payload : Payload) (key : String) (value : Value) (next : Payload)
      (one : Payload.set payload key value = some next) : next.type = payload.type :=
    (set_observed one).2
  have type : last.type = fields.foldl (fun old _ => old) "" :=
    foldlM_observed Payload.type (fun old _ => old) untyped done
  rw [List.foldl_fixed] at type
  exact type ▸ Observed.all (fun _ _ _ _ one => (set_observed one).1) done

theorem unmarshal_setTyped :
    unmarshal Payload.setTyped raw =
      if fields.all takenTyped then some (goPayload (goText "type" fields) fields) else none := by
  refine unmarshal_eq read setTyped_isSome fun last done => ?_
  have type : last.type = goText "type" fields := foldlM_observed Payload.type _
    (fun payload key value next one => (setTyped_observed one).2) done
  exact type ▸ Observed.all (fun _ _ _ _ one => (setTyped_observed one).1) done

end Read

/-! ## What is promised -/

/-- A float64 that is the integer, whatever its sign. -/
def isWhole (bits : UInt64) (value : Nat) : Bool :=
  if 0 ≤ Binary.place bits then
    Binary.significand bits * 2 ^ (Binary.place bits).toNat = value
  else Binary.significand bits = value * 2 ^ (-Binary.place bits).toNat

/-- Python keeps an integer whole, and Go makes a float64 of it. Other numbers are float64 in both. -/
def sameNumber (number : Number) : Bool :=
  match number.toInt?, Binary.parseFloat number.literal with
  | some value, some bits => isWhole bits value.natAbs
  | some _, none => false
  | none, _ => true

mutual

def sameNumbers : Value → Bool
  | .number number => sameNumber number
  | .array items => sameItems items
  | .object fields => sameFields fields
  | _ => true

def sameItems : List Value → Bool
  | [] => true
  | item :: rest => sameNumbers item && sameItems rest

-- The last of several fields with one name is kept.
def sameFields : List (String × Value) → Bool
  | [] => true
  | (key, value) :: rest =>
    (sameNumbers value || rest.any fun field => field.1 = key) && sameFields rest

end

example : sameNumber (Number.ofInt 9007199254740992) = true := by decide +kernel

example : sameNumber (Number.ofInt 9007199254740993) = false := by decide +kernel

def SameData (go : Object) (python : Value) : Prop :=
  ∃ entries, python = .object entries ∧ sameFields entries = true ∧
    entries.foldl (fun made entry => mapInsert entry.1 entry.2 made) [] = go

def SameCommand (go : Command) (python : Sdk.Command) : Prop :=
  python.id = .string go.id ∧ python.type = .string go.type ∧
    python.priority = .string go.priority ∧ SameData go.data python.data

section Agreement

-- Python's `str` of a float, a list or a dict.
variable (repr : Value → String)

def Delivers (reaction : Reaction) (cmd : Command) : Prop :=
  reaction = .handled cmd ∨ reaction = .queued cmd

def resolved (pending : List String) : Received → Option AssistanceResponse
  | .assistance response =>
    match response.requestId with
    | .string requestID =>
      if requestID ∈ pending then
        some ⟨requestID, response.approved, pyStr repr response.instruction⟩
      else none
    | _ => none
  | _ => none

def Ignored (reaction : Reaction) : Prop := reaction = .ignored ∨ reaction = .malformed

def PythonIgnored (pending : List String) : Received → Prop
  | .assistance response => resolved repr pending (.assistance response) = none
  | .malformed => True
  | _ => False

def Agree (pending : List String) (client receiver : Reaction) (python : Received) : Prop :=
  (Ignored client ∧ Ignored receiver ∧ PythonIgnored repr pending python) ∨
  (∃ cmd command, Delivers client cmd ∧ Delivers receiver cmd ∧ python = .command command ∧
    SameCommand cmd command) ∨
  ∃ response, client = .resolved response ∧ receiver = .resolved response ∧
    resolved repr pending python = some response

/-! ## When they agree -/

def commandData (fields : List (String × Value)) : Value :=
  match eventData fields with
  | .string text => (pythonReader.read text.toList).getD (.object [])
  | data => data

/-- What Python makes of the data of an answer, if that is an object. -/
def answerData (fields : List (String × Value)) : Option Object :=
  let data :=
    match eventData fields with
    | .string text => pythonReader.read text.toList
    | data => some data
  match data with
  | some (.object data) => some data
  | _ => none

/-- The request ids that `Client`, the Go receiver and Python look for. -/
def clientRequest (data : Object) : String := stringOf (lookup "request_id" data)

def receiverRequest (data : Object) : String :=
  let rid := stringOf (lookup "_request_id" data)
  if rid = "" then clientRequest data else rid

def pythonRequest (data : Object) : Value := (lookup "_request_id" data).getD (.string "")

def receiverType (fields : List (String × Value)) : String :=
  if goText "command_type" fields = "" then goText "type" fields else goText "command_type" fields

/-- The event is a command with a type and a priority, and Go finds nothing under other spellings of
the keys that Python does not find under its own. -/
structure OneCommand (fields : List (String × Value)) (id : String) : Prop where
  taken : fields.all takenTyped = true
  id : goText "id" fields = id
  named : goText "command_type" fields ≠ ""
  plain : goText "command_type" fields ≠ "_assistance_response"
  type : commandType fields = .string (goText "command_type" fields)
  priority : (lookup "priority" fields).getD (.string "normal") =
    .string (goText "priority" fields)
  data : SameData (goData fields) (commandData fields)

/-- The event answers a request that waits, under both of its keys. -/
structure OneAnswer (pending : List String) (fields : List (String × Value)) (data : Object)
    (requestID : String) : Prop where
  taken : fields.all takenTyped = true
  id : goText "id" fields ≠ ""
  type : goText "command_type" fields = "_assistance_response"
  python_type : commandType fields = .string "_assistance_response"
  python_data : answerData fields = some data
  named : requestID ≠ ""
  waits : requestID ∈ pending
  client : clientRequest (goData fields) = requestID
  receiver : receiverRequest (goData fields) = requestID
  python : pythonRequest data = .string requestID
  approved : truthy ((lookup "approved" data).getD (.bool false)) =
    boolOf (lookup "approved" (goData fields))
  instruction : pyStr repr ((lookup "instruction" data).getD (.string "")) =
    stringOf (lookup "instruction" (goData fields))

/-- The event answers no request that waits, under none of its keys. -/
structure NoAnswer (pending : List String) (fields : List (String × Value)) : Prop where
  python_type : commandType fields = .string "_assistance_response"
  python : ∀ data, answerData fields = some data →
    ∀ requestID ∈ pending, pythonRequest data ≠ .string requestID
  client : fields.all taken = true → goText "id" fields ≠ "" →
    goText "command_type" fields = "_assistance_response" ∧
      (clientRequest (goData fields) = "" ∨ clientRequest (goData fields) ∉ pending)
  receiver : fields.all takenTyped = true → goText "id" fields ≠ "" → receiverType fields ≠ "" →
    receiverType fields = "_assistance_response" ∧
      (receiverRequest (goData fields) = "" ∨ receiverRequest (goData fields) ∉ pending)

def Alike (pending : List String) (fields : List (String × Value)) (id : String) : Prop :=
  OneCommand fields id ∨ NoAnswer pending fields ∨
    ∃ data requestID, OneAnswer repr pending fields data requestID

end Agreement

/-! ## Reactions of the Go readers -/

theorem resolve_eq (pending : List String) (requestID : String) (data : Object) :
    resolve pending requestID data =
      if requestID = "" ∨ requestID ∉ pending then .ignored
      else .resolved ⟨requestID, boolOf (lookup "approved" data),
        stringOf (lookup "instruction" data)⟩ := by
  unfold resolve
  by_cases unnamed : requestID = ""
  · rw [if_pos unnamed, if_pos (.inl unnamed)]
  · by_cases waits : requestID ∈ pending
    · rw [if_neg unnamed, if_pos waits, if_neg fun either => either.elim unnamed (· waits)]
    · rw [if_neg unnamed, if_neg waits, if_pos (.inr waits)]

theorem deliver_cases {state : State} (takes : state.handler = true ∨ state.room = true)
    (cmd : Command) : deliver state cmd = .handled cmd ∨ deliver state cmd = .queued cmd := by
  unfold deliver
  by_cases handled : state.handler = true
  · exact .inl (if_pos handled)
  · rw [if_neg handled, if_pos (takes.resolve_left handled)]
    exact .inr rfl

/-- A reader that accepts an event answers a request or delivers a command. -/
structure Reacts (state : State) (fields : List (String × Value)) (reaction : Reaction)
    (accepted : Prop) (type requestID : String) : Prop where
  answers : accepted → reaction =
    if type = "_assistance_response" then resolve state.assistPending requestID (goData fields)
    else deliver state ⟨goText "id" fields, type, goData fields, goText "priority" fields⟩
  otherwise : ¬accepted → Ignored reaction

section Reactions

variable {state : State} {fields : List (String × Value)} {reaction : Reaction} {accepted : Prop}
  {type requestID : String} (takes : state.handler = true ∨ state.room = true)
  (reacts : Reacts state fields reaction accepted type requestID)
include takes reacts

theorem Reacts.ignored_iff : Ignored reaction ↔
    (accepted → type = "_assistance_response" ∧
      (requestID = "" ∨ requestID ∉ state.assistPending)) := by
  by_cases good : accepted
  · rw [reacts.answers good, iff_comm, forall_prop_of_true good]
    split_ifs with answer
    · rw [resolve_eq]
      split_ifs with unknown
      · exact iff_of_true ⟨answer, unknown⟩ (.inl rfl)
      · exact iff_of_false (fun both => unknown both.2) (by simp [Ignored])
    · refine iff_of_false (fun both => answer both.1) ?_
      rcases deliver_cases takes ⟨goText "id" fields, type, goData fields,
        goText "priority" fields⟩ with is | is <;> simp [is, Ignored]
  · exact iff_of_true (reacts.otherwise good) fun other => absurd other good

theorem Reacts.delivers_iff (cmd : Command) : Delivers reaction cmd ↔
    accepted ∧ type ≠ "_assistance_response" ∧
      cmd = ⟨goText "id" fields, type, goData fields, goText "priority" fields⟩ := by
  by_cases good : accepted
  · rw [reacts.answers good, and_iff_right good]
    split_ifs with answer
    · refine iff_of_false ?_ fun both => both.1 answer
      rw [resolve_eq]
      split_ifs <;> simp [Delivers]
    · rw [and_iff_right answer]
      rcases deliver_cases takes ⟨goText "id" fields, type, goData fields,
        goText "priority" fields⟩ with is | is <;> simp [is, Delivers, eq_comm]
  · refine iff_of_false ?_ fun both => good both.1
    rcases reacts.otherwise good with is | is <;> simp [is, Delivers]

theorem Reacts.resolved_iff (response : AssistanceResponse) : reaction = .resolved response ↔
    accepted ∧ type = "_assistance_response" ∧ requestID ≠ "" ∧
      requestID ∈ state.assistPending ∧ response = ⟨requestID,
        boolOf (lookup "approved" (goData fields)),
        stringOf (lookup "instruction" (goData fields))⟩ := by
  by_cases good : accepted
  · rw [reacts.answers good, and_iff_right good]
    split_ifs with answer
    · rw [resolve_eq, and_iff_right answer]
      split_ifs with unknown
      · refine iff_of_false (by simp) fun all => ?_
        exact unknown.elim all.1 fun absent => absent all.2.1
      · obtain ⟨named, waits⟩ := not_or.mp unknown
        rw [and_iff_right named, and_iff_right (not_not.mp waits)]
        simp [eq_comm]
    · refine iff_of_false ?_ fun both => answer both.1
      rcases deliver_cases takes ⟨goText "id" fields, type, goData fields,
        goText "priority" fields⟩ with is | is <;> simp [is]
  · refine iff_of_false ?_ fun both => good both.1
    rcases reacts.otherwise good with is | is <;> simp [is]

end Reactions

section Readers

variable {raw : List Char} {fields : List (String × Value)}
  (read : goReader.read raw = some (.object fields)) (state : State)
include read

theorem client_reacts : Reacts state fields (Client.handleSSEEvent state raw)
    (fields.all taken = true ∧ goText "id" fields ≠ "") (goText "command_type" fields)
    (clientRequest (goData fields)) := by
  rw [Client.handleSSEEvent, unmarshal_set read]
  constructor
  · rintro ⟨accepted, named⟩
    rw [if_pos accepted]
    exact if_neg named
  · intro unaccepted
    split_ifs with accepted
    · exact .inl (if_pos (not_not.mp fun named => unaccepted ⟨accepted, named⟩))
    · exact .inr rfl

theorem receiver_reacts : Reacts state fields (MessageReceiver.handleEvent state raw)
    (fields.all takenTyped = true ∧ goText "id" fields ≠ "" ∧ receiverType fields ≠ "")
    (receiverType fields) (receiverRequest (goData fields)) := by
  rw [MessageReceiver.handleEvent, unmarshal_setTyped read]
  constructor
  · rintro ⟨accepted, named, typed⟩
    rw [if_pos accepted]
    exact if_neg (not_or.mpr ⟨typed, named⟩)
  · intro unaccepted
    split_ifs with accepted
    · refine .inl (if_pos ?_)
      by_contra neither
      obtain ⟨typed, named⟩ := not_or.mp neither
      exact unaccepted ⟨accepted, named, typed⟩
    · exact .inr rfl

end Readers

/-! ## Reactions of Python -/

theorem isAssistanceResponse_iff (type : Value) :
    isAssistanceResponse type = true ↔ type = .string "_assistance_response" := by
  cases type <;> simp [isAssistanceResponse]

section Python

variable {fields : List (String × Value)}

theorem dispatch_command {id : String} (named : lookup "id" fields = some (.string id))
    (other : commandType fields ≠ .string "_assistance_response") :
    Sdk.dispatch fields = .command ⟨.string id, commandType fields, commandData fields,
      (lookup "priority" fields).getD (.string "normal")⟩ := by
  rw [Sdk.dispatch, if_neg fun is => other ((isAssistanceResponse_iff _).mp is), named]
  rfl

theorem dispatchAssistance_eq (fields : List (String × Value)) :
    Sdk.dispatchAssistance fields =
      match answerData fields with
      | some data =>
        if hashable (pythonRequest data) then
          .assistance ⟨truthy ((lookup "approved" data).getD (.bool false)),
            (lookup "instruction" data).getD (.string ""), pythonRequest data⟩
        else .malformed
      | none => .malformed := by
  rw [Sdk.dispatchAssistance, answerData]
  cases eventData fields with
  | string text =>
    dsimp only
    cases pythonReader.read text.toList with
    | none => rfl
    | some value => cases value <;> rfl
  | _ => rfl

theorem dispatch_answer (is : commandType fields = .string "_assistance_response") :
    Sdk.dispatch fields = .malformed ∧ (∀ data, answerData fields = some data →
      hashable (pythonRequest data) = false) ∨
    ∃ data, answerData fields = some data ∧ Sdk.dispatch fields = .assistance
      ⟨truthy ((lookup "approved" data).getD (.bool false)),
        (lookup "instruction" data).getD (.string ""), pythonRequest data⟩ := by
  rw [Sdk.dispatch, if_pos ((isAssistanceResponse_iff _).mpr is), dispatchAssistance_eq]
  cases answerData fields with
  | none => exact .inl ⟨rfl, fun data none => by cases none⟩
  | some data =>
    by_cases keyed : hashable (pythonRequest data) = true
    · exact .inr ⟨data, rfl, if_pos keyed⟩
    · refine .inl ⟨if_neg keyed, fun other same => ?_⟩
      obtain rfl := Option.some.inj same
      exact Bool.not_eq_true _ ▸ keyed

variable (repr : Value → String) (pending : List String)

theorem pythonIgnored_iff {id : String} (named : lookup "id" fields = some (.string id)) :
    PythonIgnored repr pending (Sdk.dispatch fields) ↔
      commandType fields = .string "_assistance_response" ∧
        ∀ data, answerData fields = some data →
          ∀ requestID ∈ pending, pythonRequest data ≠ .string requestID := by
  by_cases is : commandType fields = .string "_assistance_response"
  · rw [and_iff_right is]
    rcases dispatch_answer is with ⟨malformed, unkeyed⟩ | ⟨data, read, answered⟩
    · rw [malformed]
      refine iff_of_true trivial fun data read requestID _ same => ?_
      have hashed := unkeyed data read
      rw [same] at hashed
      cases hashed
    · rw [answered]
      simp only [PythonIgnored, resolved, read, Option.some.injEq, forall_eq']
      cases pythonRequest data with
      | string asked =>
        by_cases waits : asked ∈ pending
        · exact iff_of_false (by simp [waits]) fun none => none asked waits rfl
        · refine iff_of_true (by simp [waits]) fun other there same => ?_
          exact waits (Value.string.inj same ▸ there)
      | _ => simp
  · rw [dispatch_command named is]
    exact iff_of_false (fun none => none) fun both => is both.1

theorem resolved_iff {id : String} (named : lookup "id" fields = some (.string id))
    (response : AssistanceResponse) :
    resolved repr pending (Sdk.dispatch fields) = some response ↔
      commandType fields = .string "_assistance_response" ∧
        ∃ data, answerData fields = some data ∧ pythonRequest data = .string response.requestID ∧
          response.requestID ∈ pending ∧
          truthy ((lookup "approved" data).getD (.bool false)) = response.approved ∧
          pyStr repr ((lookup "instruction" data).getD (.string "")) = response.instruction := by
  by_cases is : commandType fields = .string "_assistance_response"
  · rw [and_iff_right is]
    rcases dispatch_answer is with ⟨malformed, unkeyed⟩ | ⟨data, read, answered⟩
    · rw [malformed]
      refine iff_of_false (by simp [resolved]) ?_
      rintro ⟨data, read, same, -⟩
      have hashed := unkeyed data read
      rw [same] at hashed
      cases hashed
    · rw [answered]
      simp only [resolved, read, Option.some.injEq, exists_eq_left']
      obtain ⟨requestID, approved, instruction⟩ := response
      cases pythonRequest data with
      | string asked =>
        simp only [Option.ite_none_right_eq_some, Option.some.injEq, AssistanceResponse.mk.injEq,
          Value.string.injEq]
        constructor
        · rintro ⟨waits, rfl, rfl, rfl⟩
          exact ⟨rfl, waits, rfl, rfl⟩
        · rintro ⟨rfl, waits, rfl, rfl⟩
          exact ⟨waits, rfl, rfl, rfl⟩
      | _ => simp
  · rw [dispatch_command named is]
    exact iff_of_false (by simp [resolved]) fun both => is both.1

end Python

/-! ## The three readers -/

theorem taken_of_takenTyped {field : String × Value} (typed : takenTyped field = true) :
    taken field = true := by
  obtain ⟨key, value⟩ := field
  simp only [takenTyped, Payload.setTyped] at typed
  split_ifs at typed with is_type
  · have other (tag : String) (apart : "type".toList.map foldRune ≠ tag.toList.map foldRune) :
        foldEqual tag key = false := foldEqual_apart apart is_type
    simp [taken, Payload.set, other "id" (by decide), other "command_type" (by decide),
      other "data" (by decide), other "priority" (by decide)]
  · exact typed

theorem all_taken {fields : List (String × Value)} (typed : fields.all takenTyped = true) :
    fields.all taken = true :=
  List.all_eq_true.mpr fun field member =>
    taken_of_takenTyped (List.all_eq_true.mp typed field member)

section Three

variable {repr : Value → String} {raw : List Char} {fields : List (String × Value)} {id : String}
  {client receiver : State}

section Alike

variable (read : goReader.read raw = some (.object fields))
  (named : lookup "id" fields = some (.string id))
  (same : receiver.assistPending = client.assistPending)
  (client_takes : client.handler = true ∨ client.room = true)
  (receiver_takes : receiver.handler = true ∨ receiver.room = true)
include read named same client_takes receiver_takes

theorem alike_of_agree (agree : Agree repr client.assistPending (Client.handleSSEEvent client raw)
    (MessageReceiver.handleEvent receiver raw) (Sdk.dispatch fields)) :
    Alike repr client.assistPending fields id := by
  have client_reacts := client_reacts read client
  have receiver_reacts := receiver_reacts read receiver
  rcases agree with ⟨one, two, three⟩ | ⟨cmd, command, one, two, three, alike⟩ |
    ⟨response, one, two, three⟩
  · obtain ⟨python_type, python⟩ := (pythonIgnored_iff repr _ named).mp three
    have client_ignores := (client_reacts.ignored_iff client_takes).mp one
    have receiver_ignores := (receiver_reacts.ignored_iff receiver_takes).mp two
    rw [same] at receiver_ignores
    exact .inr (.inl ⟨python_type, python, fun accepted filled => client_ignores ⟨accepted, filled⟩,
      fun accepted filled typed => receiver_ignores ⟨accepted, filled, typed⟩⟩)
  · obtain ⟨-, plain, rfl⟩ := (client_reacts.delivers_iff client_takes cmd).mp one
    obtain ⟨⟨accepted, -, typed⟩, -, same_cmd⟩ :=
      (receiver_reacts.delivers_iff receiver_takes _).mp two
    have same_type : goText "command_type" fields = receiverType fields :=
      congrArg Command.type same_cmd
    have is_command : commandType fields ≠ .string "_assistance_response" := by
      intro is
      rcases dispatch_answer is with ⟨other, -⟩ | ⟨data, -, other⟩
      · cases other.symm.trans three
      · cases other.symm.trans three
    obtain rfl := Received.command.inj ((dispatch_command named is_command).symm.trans three)
    obtain ⟨same_id, type, priority, data⟩ := alike
    exact .inl ⟨accepted, (Value.string.inj same_id).symm, same_type ▸ typed, plain, type, priority,
      data⟩
  · obtain ⟨⟨-, filled⟩, type, unnamed, waits, rfl⟩ :=
      (client_reacts.resolved_iff client_takes response).mp one
    obtain ⟨⟨accepted, -, -⟩, -, -, -, same_response⟩ :=
      (receiver_reacts.resolved_iff receiver_takes _).mp two
    obtain ⟨python_type, data, python_data, request, -, approved, instruction⟩ :=
      (resolved_iff repr _ named _).mp three
    exact .inr (.inr ⟨data, _, accepted, filled, type, python_type, python_data, unnamed, waits, rfl,
      (congrArg AssistanceResponse.requestID same_response).symm, request, approved, instruction⟩)

theorem agree_of_alike (nonempty : id ≠ "")
    (alike : Alike repr client.assistPending fields id) :
    Agree repr client.assistPending (Client.handleSSEEvent client raw)
      (MessageReceiver.handleEvent receiver raw) (Sdk.dispatch fields) := by
  have client_reacts := client_reacts read client
  have receiver_reacts := receiver_reacts read receiver
  rcases alike with one | none | ⟨data, requestID, one⟩
  · have type : receiverType fields = goText "command_type" fields := if_neg one.named
    have filled : goText "id" fields ≠ "" := one.id ▸ nonempty
    have is_command : commandType fields ≠ .string "_assistance_response" :=
      fun is => one.plain (Value.string.inj (one.type.symm.trans is))
    refine .inr (.inl ⟨_, _,
      (client_reacts.delivers_iff client_takes _).mpr ⟨⟨all_taken one.taken, filled⟩, one.plain, rfl⟩,
      (receiver_reacts.delivers_iff receiver_takes _).mpr
        ⟨⟨one.taken, filled, type ▸ one.named⟩, type ▸ one.plain, by rw [type]⟩,
      dispatch_command named is_command, ?_⟩)
    exact ⟨congrArg Value.string one.id.symm, one.type, one.priority, one.data⟩
  · refine .inl ⟨(client_reacts.ignored_iff client_takes).mpr fun both => none.client both.1 both.2,
      (receiver_reacts.ignored_iff receiver_takes).mpr ?_,
      (pythonIgnored_iff repr _ named).mpr ⟨none.python_type, none.python⟩⟩
    rw [same]
    exact fun all => none.receiver all.1 all.2.1 all.2.2
  · have type : receiverType fields = "_assistance_response" := by
      rw [receiverType, one.type]
      rfl
    refine .inr (.inr ⟨⟨requestID, boolOf (lookup "approved" (goData fields)),
        stringOf (lookup "instruction" (goData fields))⟩,
      (client_reacts.resolved_iff client_takes _).mpr ?_,
      (receiver_reacts.resolved_iff receiver_takes _).mpr ?_,
      (resolved_iff repr _ named _).mpr ⟨one.python_type, data, one.python_data, one.python,
        one.waits, one.approved, one.instruction⟩⟩)
    · rw [one.client]
      exact ⟨⟨all_taken one.taken, one.id⟩, one.type, one.named, one.waits, rfl⟩
    · rw [one.receiver, same, type]
      exact ⟨⟨one.taken, one.id, by decide⟩, rfl, one.named, one.waits, rfl⟩

end Alike

end Three

/-! ## Commands in plain spelling -/

def tags : List String := ["id", "command_type", "data", "priority"]

/-- No key stands twice, and none is a tag in other letters. -/
structure Plain (fields : List (String × Value)) : Prop where
  once : (fields.map Prod.fst).Nodup
  spelled : ∀ tag ∈ tags, ∀ field ∈ fields,
    foldEqual tag field.1 = true → field.1 = tag

section Plain

variable {fields : List (String × Value)}

theorem Plain.init {field : String × Value} (plain : Plain (fields ++ [field])) :
    Plain fields ∧ lookup field.1 fields = none := by
  have once := plain.once
  rw [List.map_append, List.nodup_append] at once
  refine ⟨⟨once.1, fun tag known other member => plain.spelled tag known other
    (List.mem_append_left _ member)⟩, Json.lookup_eq_none.mpr fun there => ?_⟩
  exact once.2.2 field.1 there field.1 (by simp) rfl

theorem foldEqual_self (tag : String) : foldEqual tag tag = true := decide_eq_true rfl

-- The last field is the only one of its tag, or it is of no tag.
theorem Plain.last {tag : String} (known : tag ∈ tags)
    {field : String × Value} (plain : Plain (fields ++ [field])) :
    foldEqual tag field.1 = true ∧ lookup tag (fields ++ [field]) = some field.2 ∧
        lookup tag fields = none ∨
      foldEqual tag field.1 = false ∧ lookup tag (fields ++ [field]) = lookup tag fields := by
  obtain ⟨key, value⟩ := field
  rw [Json.lookup_append, Json.lookup_single]
  by_cases same : tag = key
  · subst same
    rw [if_pos rfl]
    exact .inl ⟨foldEqual_self tag, rfl, plain.init.2⟩
  · rw [if_neg same]
    refine .inr ⟨Bool.eq_false_iff.mpr fun folds => same ?_, rfl⟩
    exact (plain.spelled tag known (key, value) (by simp) folds).symm

theorem goText_plain {tag : String} (known : tag ∈ tags)
    (plain : Plain fields) : goText tag fields = stringOf (lookup tag fields) := by
  induction fields using List.reverseRecOn with
  | nil => rfl
  | append_singleton fields field ih =>
    have earlier := ih plain.init.1
    rw [goText, List.foldl_append, ← goText, List.foldl_cons, List.foldl_nil]
    rcases plain.last known with ⟨folds, found, absent⟩ | ⟨other, found⟩
    · rw [found, earlier, absent]
      obtain ⟨key, value⟩ := field
      have folds : foldEqual tag key = true := folds
      cases value <;> simp [lastText, stringOf, folds]
    · rw [found, ← earlier]
      exact lastText_other other _ _

/-- The entries of an object, each key with its last value. -/
def entriesOf : Option Value → Object
  | some (.object entries) => entries.foldl (fun made entry => mapInsert entry.1 entry.2 made) []
  | _ => []

theorem goData_plain (plain : Plain fields) : goData fields = entriesOf (lookup "data" fields) := by
  induction fields using List.reverseRecOn with
  | nil => rfl
  | append_singleton fields field ih =>
    have earlier := ih plain.init.1
    rw [goData, List.foldl_append, ← goData, List.foldl_cons, List.foldl_nil]
    have known : "data" ∈ tags := by simp [tags]
    rcases plain.last known with ⟨folds, found, absent⟩ | ⟨other, found⟩
    · rw [found, earlier, absent]
      obtain ⟨key, value⟩ := field
      have folds : foldEqual "data" key = true := folds
      cases value <;> simp [merged, entriesOf, folds]
    · rw [found, ← earlier]
      exact merged_other other _ _

theorem data_taken (taken : fields.all takenTyped = true) {value : Value}
    (found : lookup "data" fields = some value) : value = .null ∨ ∃ entries, value = .object entries := by
  have one := List.all_eq_true.mp taken _ (Json.mem_of_lookup found)
  simp [takenTyped, Payload.setTyped, Payload.set, foldEqual, foldRune] at one
  cases value <;> simp_all [decodeMap]

theorem type_plain (plain : Plain fields) {type : String} :
    lookup "command_type" fields = some (.string type) ∧ type ≠ "" ↔
      goText "command_type" fields = type ∧ type ≠ "" ∧ commandType fields = .string type := by
  rw [goText_plain (by simp [tags]) plain, commandType]
  cases found : lookup "command_type" fields with
  | none =>
    refine iff_of_false (by simp) ?_
    rintro ⟨rfl, filled, -⟩
    exact filled rfl
  | some value =>
    cases value with
    | string text =>
      simp [stringOf]
      tauto
    | _ => simp [stringOf]

theorem priority_plain (plain : Plain fields) :
    (lookup "priority" fields).getD (.string "normal") = .string (goText "priority" fields) ↔
      ∃ priority, lookup "priority" fields = some (.string priority) := by
  rw [goText_plain (by simp [tags]) plain]
  cases lookup "priority" fields with
  | none => simp [stringOf]
  | some value => cases value <;> simp [stringOf]

theorem data_plain (plain : Plain fields) (taken : fields.all takenTyped = true) :
    SameData (goData fields) (commandData fields) ↔
      ∀ entries, lookup "data" fields = some (.object entries) → sameFields entries = true := by
  have typed (value : Value) (found : lookup "data" fields = some value) := data_taken taken found
  rw [goData_plain plain, commandData, eventData]
  cases found : lookup "data" fields with
  | none => exact iff_of_true ⟨[], rfl, rfl, rfl⟩ (by simp)
  | some value =>
    rcases typed value found with rfl | ⟨entries, rfl⟩
    · exact iff_of_true ⟨[], rfl, rfl, rfl⟩ (by simp)
    · cases entries with
      | nil => exact iff_of_true ⟨[], rfl, rfl, rfl⟩ (by simp [sameFields])
      | cons entry rest =>
        constructor
        · rintro ⟨kept, same, numbers, -⟩ other is
          obtain rfl : entry :: rest = kept := Value.object.inj same
          obtain rfl : entry :: rest = other := Value.object.inj (Option.some.inj is)
          exact numbers
        · intro numbers
          exact ⟨entry :: rest, rfl, numbers _ rfl, rfl⟩

-- A command that is spelled plainly reaches all three alike if and only if its type and its
-- priority are texts, no field has a wrong type, and its numbers are kept.
theorem plain_command_iff {id : String} (plain : Plain fields)
    (named : lookup "id" fields = some (.string id)) :
    OneCommand fields id ↔ fields.all takenTyped = true ∧
      (∃ type, lookup "command_type" fields = some (.string type) ∧ type ≠ "" ∧
        type ≠ "_assistance_response") ∧
      (∃ priority, lookup "priority" fields = some (.string priority)) ∧
      ∀ entries, lookup "data" fields = some (.object entries) → sameFields entries = true := by
  constructor
  · intro one
    obtain ⟨found, filled⟩ := (type_plain plain).mpr ⟨rfl, one.named, one.type⟩
    exact ⟨one.taken, ⟨_, found, filled, one.plain⟩, (priority_plain plain).mp one.priority,
      (data_plain plain one.taken).mp one.data⟩
  · rintro ⟨taken, ⟨type, found, filled, other⟩, priority, numbers⟩
    obtain ⟨rfl, filled, same⟩ := (type_plain plain).mp ⟨found, filled⟩
    have is_id : goText "id" fields = id := by
      rw [goText_plain (by simp [tags]) plain, named]
      rfl
    exact ⟨taken, is_id, filled, other, same, (priority_plain plain).mpr priority,
      (data_plain plain taken).mpr numbers⟩

end Plain

/-! ## Two events -/

def sampleState : State := ⟨["r1"], true, true⟩

def sampleData (key : String) (entry : Value) : Value :=
  .object [(key, entry), ("approved", .bool true)]

def sampleFields (type : String) (data : Value) : List (String × Value) :=
  [("id", .string "c1"), ("command_type", .string type), ("data", data),
    ("priority", .string "normal")]

def sampleText (type : String) (data : Value) : List Char :=
  (Value.object (sampleFields type data)).write Cloud.goStyle

theorem sample_read (type key text : String) :
    goReader.read (sampleText type (sampleData key (.string text))) =
      some (.object (sampleFields type (sampleData key (.string text)))) := by
  refine Json.Reader.read_write Cloud.goStyle goReader _ ?_
  simp [sampleFields, sampleData, Value.Within, goReader]

end SystemScale.Contract.Dispatch

import SystemScale.Cloud.Fleet
import SystemScale.Sdk.GoReceiver

set_option autoImplicit false

/-!
# Subscribers to frames

What each SDK makes of one text frame of ws-gateway, where its channel or queue has a free place.
-/

namespace SystemScale.Sdk

open Json (Value lookup)

/-- The parts of an actor `type:id`: what stands before the first colon and what after it. -/
def actorParts (actor : String) : String × String :=
  (String.ofList (actor.toList.takeWhile fun c => c ≠ ':'),
    String.ofList (actor.toList.dropWhile fun c => c ≠ ':').tail)

theorem actorParts_joined {type : String} (plain : ':' ∉ type.toList) (id : String) :
    actorParts (type ++ ":" ++ id) = (type, id) := by
  have before : ∀ c ∈ type.toList, decide (c ≠ ':') = true := by
    intro c member
    simp only [decide_eq_true_eq]
    rintro rfl
    exact plain member
  have split : (type ++ ":" ++ id).toList = type.toList ++ ':' :: id.toList := by simp
  rw [actorParts, split, List.takeWhile_append_of_pos before, List.dropWhile_append_of_pos before]
  simp

def isText (text : String) : Value → Bool
  | .string other => other = text
  | _ => false

/-! ## StreamSubscriber of the Python SDK -/

structure DataFrame where
  service : Value
  stream : Value
  timestamp : String
  fields : Object

/-- What becomes of a frame. One that `raised` ends the generator. -/
inductive Yielded where
  | frame (frame : DataFrame)
  | skipped
  | raised

section Python

-- `str` of a float, a list or a dict.
variable (repr : Value → String)

def pyStr : Value → String
  | .string text => text
  | .null => "None"
  | .bool value => if value then "True" else "False"
  | .number number =>
    match number.toInt? with
    | some value => String.ofList (Json.integerLiteral value)
    | none => repr (.number number)
  | value => repr value

def getOr (key : String) (default : Value) (data : Object) : Value :=
  (lookup key data).getD default

def StreamSubscriber.passes (fromActor : Option String) (data : Object) : Bool :=
  let (filterType, filterId) := actorParts (fromActor.getD "")
  (filterType = "" || isText filterType (getOr "sender_type" (.string "") data)) &&
    (filterId = "" || filterId = "*" || isText filterId (getOr "sender_id" (.string "") data))

def StreamSubscriber.receive (fromActor : Option String) (raw : List Char) : Yielded :=
  match pythonReader.read raw with
  | none => .skipped
  | some (.object data) =>
    if passes fromActor data then
      .frame
        { service := getOr "vehicle_id" (getOr "device" (.string "") data) data
          stream := getOr "type" (.string "event") data
          timestamp := pyStr repr (getOr "ts" (.string "") data)
          fields := data }
    else .skipped
  -- Only a dict has `get`, and without a filter it is needed as well.
  | some _ => .raised

end Python

/-! ## OperatorClient of the Go SDK -/

namespace Go

open Agent (mapInsert)
open Cloud (goReader foldEqual decodeGoString)
open Cloud.Fleet (decodeGoInt)

structure DataFrame where
  timestamp : Int
  service : String
  stream : String
  fields : Object

structure SubscribeFrame where
  device : String
  stream : String
  tsNS : Int
  fields : Object

def SubscribeFrame.set (frame : SubscribeFrame) (key : String) (value : Value) :
    Option SubscribeFrame :=
  if foldEqual "device" key then
    (decodeGoString frame.device value).map fun device => { frame with device := device }
  else if foldEqual "stream" key then
    (decodeGoString frame.stream value).map fun stream => { frame with stream := stream }
  else if foldEqual "ts_ns" key then
    (decodeGoInt frame.tsNS value).map fun tsNS => { frame with tsNS := tsNS }
  else if foldEqual "fields" key then
    (decodeMap frame.fields value).map fun fields => { frame with fields := fields }
  else some frame

def SubscribeFrame.unmarshal (msg : List Char) : Option SubscribeFrame :=
  match goReader.read msg with
  | some (.object fields) =>
    fields.foldlM (fun frame field => frame.set field.1 field.2) ⟨"", "", 0, []⟩
  | some .null => some ⟨"", "", 0, []⟩
  | _ => none

def OperatorClient.subscribe (msg : List Char) : Option DataFrame :=
  (SubscribeFrame.unmarshal msg).map fun frame =>
    ⟨frame.tsNS, frame.device, frame.stream, frame.fields⟩

/-! ## ReceiveFrames of the Go SDK -/

mutual

/-- `fmt.Sprintf("%v", v)` of a decoded value, whose numbers are float64. -/
def sprint : Value → List Char
  | .null => "<nil>".toList
  | .bool value => if value then "true".toList else "false".toList
  | .number number =>
    match Binary.parseFloat number.literal with
    | some bits => Binary.formatGeneral bits
    | none => []
  | .string text => text.toList
  | .array items => '[' :: [' '].intercalate (sprintItems items) ++ [']']
  | .object fields =>
    "map[".toList ++
      [' '].intercalate ((sprintFields fields).map fun entry => entry.1.toList ++ ':' :: entry.2) ++
      [']']

def sprintItems : List Value → List (List Char)
  | [] => []
  | item :: rest => sprint item :: sprintItems rest

-- The keys are sorted, and of several with one name the last one counts.
def sprintFields : List (String × Value) → List (String × List Char)
  | [] => []
  | (key, value) :: rest =>
    let others := sprintFields rest
    if key ∈ others.map Prod.fst then others
    else
      others.takeWhile (fun entry => entry.1 < key) ++
        (key, sprint value) :: others.dropWhile fun entry => entry.1 < key

end

structure Stream.DataFrame where
  device : String
  stream : String
  timestamp : List Char
  fields : Object

def Stream.passes (fromActor : String) (data : Object) : Bool :=
  let (filterType, filterID) := actorParts fromActor
  (filterType = "" || stringOf (lookup "sender_type" data) = filterType) &&
    (filterID = "" || filterID = "*" || stringOf (lookup "sender_id" data) = filterID)

def Stream.receiveFrames (fromActor : String) (raw : List Char) : Option Stream.DataFrame :=
  match (goReader.read raw).bind (decodeMap []) with
  | none => none
  | some data =>
    if passes fromActor data then
      let device := stringOf (lookup "vehicle_id" data)
      some
        { device := if device = "" then stringOf (lookup "device" data) else device
          stream := stringOf (lookup "type" data)
          timestamp :=
            match lookup "ts" data with
            | some t => sprint t
            | none => []
          fields := data }
    else none

end Go

end SystemScale.Sdk

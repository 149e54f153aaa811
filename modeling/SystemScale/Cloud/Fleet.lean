import Mathlib.Data.List.Infix
import SystemScale.Cloud.Commands
import SystemScale.Lib.Runs

set_option autoImplicit false

/-!
# fleet-api

Projects, their devices and the requests for assistance, in a database whose statements are atomic.
A handler of several statements can be overtaken between two of them.
-/

namespace SystemScale.Cloud.Fleet

open Json (Value)

/-! ## Tables -/

abbrev Uuid := BitVec 128

structure Project where
  id : Uuid
  orgID : String
  name : String
  displayName : String
  createdAt : Nat
  active : Bool
  deriving DecidableEq

structure Vehicle where
  id : Uuid
  orgID : String
  projectID : Uuid
  displayName : String
  vehicleType : String
  adapterType : String
  region : String
  createdAt : Nat
  updatedAt : Nat
  active : Bool
  deriving DecidableEq

inductive AssistanceStatus where
  | pending
  | responded
  deriving DecidableEq

structure AssistanceRow where
  id : Uuid
  requestID : String
  deviceID : Uuid
  projectID : Uuid
  orgID : String
  reason : String
  status : AssistanceStatus
  approved : Option Bool
  instruction : String
  timeoutS : Int
  createdAt : Nat
  respondedAt : Option Nat
  deriving DecidableEq

structure Database where
  projects : List Project
  vehicles : List Vehicle
  assistanceRequests : List AssistanceRow

/-! ## Statements -/

inductive DbError where
  | duplicateKey
  -- The error quotes the text.
  | invalidUuid (text : String)
  | rejected

/-- `strings.Contains(err.Error(), "duplicate key")` -/
def DbError.duplicate : DbError → Bool
  | .duplicateKey => true
  | .invalidUuid text => decide ("duplicate key".toList <:+: text.toList)
  | .rejected => false

/-- PostgreSQL takes no null character in a text. -/
def storable (text : String) : Bool := !text.toList.contains '\x00'

def Database.insertProject (db : Database) (id : Uuid) (now : Nat)
    (orgID name displayName : String) : Except DbError (Database × Project) :=
  if !(storable orgID && storable name && storable displayName) then .error .rejected
  else if db.projects.any fun row => row.id = id || (row.orgID = orgID && row.name = name) then
    .error .duplicateKey
  else
    let row := ⟨id, orgID, name, displayName, now, true⟩
    .ok ({ db with projects := db.projects ++ [row] }, row)

def Database.selectProject (db : Database) (name orgID : String) : Except DbError (Option Uuid) :=
  if !(storable name && storable orgID) then .error .rejected
  else
    .ok ((db.projects.find? fun row => row.name = name && row.orgID = orgID && row.active).map
      Project.id)

def Database.insertVehicle (db : Database) (id : Uuid) (now : Nat) (orgID : String)
    (projectID : Uuid) (displayName vehicleType adapterType region : String) :
    Except DbError (Database × Vehicle) :=
  if !(storable orgID && storable displayName && storable vehicleType && storable adapterType &&
      storable region) then .error .rejected
  else if db.vehicles.any fun row => row.id = id then .error .duplicateKey
  -- `REFERENCES projects(id)`
  else if db.projects.any fun row => row.id = projectID then
    let row := ⟨id, orgID, projectID, displayName, vehicleType, adapterType, region, now, now, true⟩
    .ok ({ db with vehicles := db.vehicles ++ [row] }, row)
  else .error .rejected

section Handlers

-- How PostgreSQL reads a text as a uuid.
variable (readUuid : String → Option Uuid)

def Database.insertAssistance (db : Database) (id : Uuid) (now : Nat)
    (requestID deviceID projectID orgID reason : String) (timeoutS : Int) :
    Except DbError (Database × AssistanceRow) :=
  match readUuid deviceID, readUuid projectID with
  | none, _ => .error (.invalidUuid deviceID)
  | _, none => .error (.invalidUuid projectID)
  | some device, some project =>
    if !(storable requestID && storable orgID && storable reason) || 2147483647 < timeoutS then
      .error .rejected
    else if db.assistanceRequests.any fun row => row.id = id || row.requestID = requestID then
      .error .duplicateKey
    else
      let row :=
        ⟨id, requestID, device, project, orgID, reason, .pending, none, "", timeoutS, now, none⟩
      .ok ({ db with assistanceRequests := db.assistanceRequests ++ [row] }, row)

def AssistanceRow.open (requestID orgID : String) (row : AssistanceRow) : Bool :=
  row.requestID = requestID && row.orgID = orgID && row.status = .pending

def AssistanceRow.respond (approved : Bool) (instruction : String) (now : Nat)
    (row : AssistanceRow) : AssistanceRow :=
  { row with status := .responded, approved := some approved, instruction := instruction,
             respondedAt := some now }

/-- The database after the update, and the number of rows it changed. -/
def Database.updateAssistance (db : Database) (now : Nat) (approved : Bool)
    (instruction requestID orgID : String) : Except DbError (Database × Nat) :=
  if !(storable instruction && storable requestID && storable orgID) then .error .rejected
  else
    .ok ({ db with assistanceRequests := db.assistanceRequests.map fun row =>
        if row.open requestID orgID then row.respond approved instruction now else row },
      db.assistanceRequests.countP (AssistanceRow.open requestID orgID))

/-! ## Requests -/

structure CreateProjectRequest where
  name : String
  displayName : String

def CreateProjectRequest.set (req : CreateProjectRequest) (key : String) (value : Value) :
    Option CreateProjectRequest :=
  if foldEqual "name" key then
    (decodeGoString req.name value).map fun name => { req with name := name }
  else if foldEqual "display_name" key then
    (decodeGoString req.displayName value).map fun displayName =>
      { req with displayName := displayName }
  else some req

structure CreateDeviceRequest where
  displayName : String
  vehicleType : String
  adapterType : String
  region : String

def CreateDeviceRequest.set (req : CreateDeviceRequest) (key : String) (value : Value) :
    Option CreateDeviceRequest :=
  if foldEqual "display_name" key then
    (decodeGoString req.displayName value).map fun displayName =>
      { req with displayName := displayName }
  else if foldEqual "vehicle_type" key then
    (decodeGoString req.vehicleType value).map fun vehicleType =>
      { req with vehicleType := vehicleType }
  else if foldEqual "adapter_type" key then
    (decodeGoString req.adapterType value).map fun adapterType =>
      { req with adapterType := adapterType }
  else if foldEqual "region" key then
    (decodeGoString req.region value).map fun region => { req with region := region }
  else some req

def decodeGoInt (old : Int) : Value → Option Int
  | .null => some old
  | .number number =>
    number.toInt?.filter fun value => -9223372036854775808 ≤ value ∧ value < 9223372036854775808
  | _ => none

structure CreateAssistanceRequest where
  requestID : String
  deviceID : String
  projectID : String
  reason : String
  timeoutS : Int

def CreateAssistanceRequest.set (req : CreateAssistanceRequest) (key : String) (value : Value) :
    Option CreateAssistanceRequest :=
  if foldEqual "request_id" key then
    (decodeGoString req.requestID value).map fun requestID => { req with requestID := requestID }
  else if foldEqual "device_id" key then
    (decodeGoString req.deviceID value).map fun deviceID => { req with deviceID := deviceID }
  else if foldEqual "project_id" key then
    (decodeGoString req.projectID value).map fun projectID => { req with projectID := projectID }
  else if foldEqual "reason" key then
    (decodeGoString req.reason value).map fun reason => { req with reason := reason }
  else if foldEqual "timeout_s" key then
    (decodeGoInt req.timeoutS value).map fun timeoutS => { req with timeoutS := timeoutS }
  else some req

def decodeBoolPtr : Value → Option (Option Bool)
  | .null => some none
  | .bool value => some (some value)
  | _ => none

structure RespondRequest where
  approved : Option Bool
  instruction : String

def RespondRequest.set (req : RespondRequest) (key : String) (value : Value) :
    Option RespondRequest :=
  if foldEqual "approved" key then
    (decodeBoolPtr value).map fun approved => { req with approved := approved }
  else if foldEqual "instruction" key then
    (decodeGoString req.instruction value).map fun instruction =>
      { req with instruction := instruction }
  else some req

/-! ## Handlers -/

inductive Response where
  | refused (status : Nat) (message : String)
  | project (row : Project)
  | device (row : Vehicle)
  | assistance (row : AssistanceRow)
  | responded

def handleCreateProject (db : Database) (claims : Option Claims) (body : List Char) (id : Uuid)
    (now : Nat) : Database × Response :=
  match claims with
  | none => (db, .refused 401 "Unauthorized")
  | some claims =>
    match decodeStruct CreateProjectRequest.set ⟨"", ""⟩ body with
    | none => (db, .refused 400 "Bad Request: name required")
    | some req =>
      if req.name = "" then (db, .refused 400 "Bad Request: name required")
      else
        match db.insertProject id now claims.orgID req.name req.displayName with
        | .ok (db, row) => (db, .project row)
        | .error error =>
          if error.duplicate then (db, .refused 409 "Conflict: project name already exists")
          else (db, .refused 500 "Internal Server Error")

/-- A device whose project was found, and which is yet to be inserted. -/
structure PendingDevice where
  orgID : String
  projectID : Uuid
  displayName : String
  vehicleType : String
  adapterType : String
  region : String

/-- The part of `handleCreateProjectDevice` before its insert. -/
def startCreateDevice (db : Database) (claims : Option Claims) (projectName : String)
    (body : List Char) : Except Response PendingDevice :=
  match claims with
  | none => .error (.refused 401 "Unauthorized")
  | some claims =>
    if projectName = "" then .error (.refused 400 "Bad Request: project name required")
    else
      match db.selectProject projectName claims.orgID with
      | .error _ => .error (.refused 500 "Internal Server Error")
      | .ok none => .error (.refused 404 "Not Found: project not found")
      | .ok (some projectID) =>
        match decodeStruct CreateDeviceRequest.set ⟨"", "", "", ""⟩ body with
        | none => .error (.refused 400 "Bad Request: display_name required")
        | some req =>
          if req.displayName = "" then .error (.refused 400 "Bad Request: display_name required")
          else
            .ok
              { orgID := claims.orgID
                projectID := projectID
                displayName := req.displayName
                vehicleType := if req.vehicleType = "" then "generic" else req.vehicleType
                adapterType := if req.adapterType = "" then "custom_unix" else req.adapterType
                region := req.region }

def finishCreateDevice (db : Database) (device : PendingDevice) (id : Uuid) (now : Nat) :
    Database × Response :=
  match db.insertVehicle id now device.orgID device.projectID device.displayName device.vehicleType
      device.adapterType device.region with
  | .ok (db, row) => (db, .device row)
  | .error _ => (db, .refused 500 "Internal Server Error")

def CreateAssistanceRequest.complete (req : CreateAssistanceRequest) : Bool :=
  req.requestID ≠ "" && req.deviceID ≠ "" && req.projectID ≠ ""

def decodeCreateAssistance (body : List Char) : Option CreateAssistanceRequest :=
  (decodeStruct CreateAssistanceRequest.set ⟨"", "", "", "", 0⟩ body).filter
    CreateAssistanceRequest.complete

def handleCreateAssistance (db : Database) (claims : Option Claims) (body : List Char) (id : Uuid)
    (now : Nat) : Database × Response :=
  match claims with
  | none => (db, .refused 401 "Unauthorized")
  | some claims =>
    match decodeCreateAssistance body with
    | none => (db, .refused 400 "Bad Request: request_id, device_id, project_id required")
    | some req =>
      let timeoutS := if req.timeoutS ≤ 0 then 120 else req.timeoutS
      match db.insertAssistance readUuid id now req.requestID req.deviceID req.projectID claims.orgID
          req.reason timeoutS with
      | .ok (db, row) => (db, .assistance row)
      | .error error =>
        if error.duplicate then (db, .refused 409 "Conflict: request_id already exists")
        else (db, .refused 500 "Internal Server Error")

def handleRespondAssistance (db : Database) (claims : Option Claims) (assistanceID : String)
    (body : List Char) (now : Nat) : Database × Response :=
  match claims with
  | none => (db, .refused 401 "Unauthorized")
  | some claims =>
    if assistanceID = "" then (db, .refused 400 "Bad Request: assistance id required")
    else
      match decodeStruct RespondRequest.set ⟨none, ""⟩ body with
      | some ⟨some approved, instruction⟩ =>
        match db.updateAssistance now approved instruction assistanceID claims.orgID with
        | .error _ => (db, .refused 500 "Internal Server Error")
        | .ok (db, n) =>
          if n = 0 then
            (db, .refused 404 "Not Found: assistance request not found or already responded")
          else (db, .responded)
      | _ => (db, .refused 400 "Bad Request: approved required")

/-! ## Runs -/

structure State where
  db : Database
  devices : List PendingDevice

inductive Action where
  | createProject (claims : Option Claims) (body : List Char) (id : Uuid) (now : Nat)
  | createDevice (claims : Option Claims) (projectName : String) (body : List Char)
  | insertDevice (device : Nat) (id : Uuid) (now : Nat)
  | createAssistance (claims : Option Claims) (body : List Char) (id : Uuid) (now : Nat)
  | respondAssistance (claims : Option Claims) (assistanceID : String) (body : List Char) (now : Nat)

/-- The state after the action, and the answer if the request has one by then. -/
def serve (state : State) : Action → Option (State × Option Response)
  | .createProject claims body id now =>
    let (db, response) := handleCreateProject state.db claims body id now
    some ({ state with db := db }, some response)
  | .createDevice claims projectName body =>
    match startCreateDevice state.db claims projectName body with
    | .ok device => some ({ state with devices := state.devices ++ [device] }, none)
    | .error response => some (state, some response)
  | .insertDevice device id now =>
    state.devices[device]?.map fun pending =>
      let (db, response) := finishCreateDevice state.db pending id now
      (⟨db, state.devices.eraseIdx device⟩, some response)
  | .createAssistance claims body id now =>
    let (db, response) := handleCreateAssistance readUuid state.db claims body id now
    some ({ state with db := db }, some response)
  | .respondAssistance claims assistanceID body now =>
    let (db, response) := handleRespondAssistance state.db claims assistanceID body now
    some ({ state with db := db }, some response)

def step (state : State) (action : Action) : Option State :=
  (serve readUuid state action).map Prod.fst

def start : State := ⟨⟨[], [], []⟩, []⟩

end Handlers

end SystemScale.Cloud.Fleet

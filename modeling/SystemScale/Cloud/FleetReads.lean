import SystemScale.Cloud.FleetTenants

set_option autoImplicit false

/-!
# What fleet-api shows

The handlers that list rows and get one, beside those that write. Listing the devices of a project
takes two statements.
-/

namespace SystemScale.Cloud.Fleet

/-! ## Statements -/

/-- `ORDER BY created_at DESC`. Rows of one time come in any order. -/
def NewestFirst {R : Type} (createdAt : R → Nat) (rows : List R) : Prop :=
  rows.Pairwise fun first second => createdAt second ≤ createdAt first

instance {R : Type} (createdAt : R → Nat) (rows : List R) : Decidable (NewestFirst createdAt rows) :=
  inferInstanceAs (Decidable (rows.Pairwise _))

def Selects {R : Type} (createdAt : R → Nat) (picked rows : List R) : Prop :=
  rows.Perm picked ∧ NewestFirst createdAt rows

instance {R : Type} [DecidableEq R] (createdAt : R → Nat) (picked rows : List R) :
    Decidable (Selects createdAt picked rows) :=
  inferInstanceAs (Decidable (_ ∧ _))

theorem Selects.map {R S : Type} {createdAt : R → Nat} {picked rows : List R} (f : R → S)
    (createdAt' : S → Nat) (same : ∀ row, createdAt' (f row) = createdAt row)
    (selects : Selects createdAt picked rows) :
    Selects createdAt' (picked.map f) (rows.map f) :=
  ⟨selects.1.map f, List.pairwise_map.mpr (selects.2.imp fun {first second} newer => by
    rw [same, same]; exact newer)⟩

/-- What `QueryContext` and the loop over its rows come to, if the database may return `rows`. -/
def query {R : Type} [DecidableEq R] (texts : List String) (createdAt : R → Nat)
    (picked rows : List R) : Option (Except DbError (List R)) :=
  if !texts.all storable then some (.error .rejected)
  else if Selects createdAt picked rows then some (.ok rows)
  else none

def Database.projectsOf (db : Database) (orgID : String) : List Project :=
  db.projects.filter fun row => row.orgID = orgID && row.active

def Database.devicesOf (db : Database) (projectID : Uuid) (orgID : String) : List Vehicle :=
  db.vehicles.filter fun row => row.projectID = projectID && row.orgID = orgID && row.active

def Database.vehiclesOf (db : Database) (orgID : String) : List Vehicle :=
  db.vehicles.filter fun row => row.orgID = orgID && row.active

def Database.requestsOf (db : Database) (orgID : String) : List AssistanceRow :=
  db.assistanceRequests.filter fun row => row.orgID = orgID && row.status = .pending

def Database.selectVehicle (db : Database) (id : Uuid) (orgID : String) : Option Vehicle :=
  db.vehicles.find? fun row => row.id = id && row.orgID = orgID

/-! ## Handlers -/

/-- What `handleListAssistance` selects of a row. -/
structure AssistanceItem where
  id : Uuid
  requestID : String
  deviceID : Uuid
  projectID : Uuid
  orgID : String
  reason : String
  status : AssistanceStatus
  timeoutS : Int
  createdAt : Nat
  deriving DecidableEq

def AssistanceRow.item (row : AssistanceRow) : AssistanceItem :=
  ⟨row.id, row.requestID, row.deviceID, row.projectID, row.orgID, row.reason, row.status,
    row.timeoutS, row.createdAt⟩

/-- What a call is answered. `response` is of the handlers that write, and of every call that is
refused. -/
inductive Reply where
  | response (response : Response)
  | projects (rows : List Project) (count : Nat)
  | devices (rows : List Vehicle) (count : Nat)
  | vehicles (rows : List Vehicle) (count : Nat)
  | vehicle (row : Vehicle)
  | requests (items : List AssistanceItem)

def unauthorized : Reply := .response (.refused 401 "Unauthorized")

def serverError : Reply := .response (.refused 500 "Internal Server Error")

def handleListProjects (db : Database) (claims : Option Claims) (rows : List Project) :
    Option Reply :=
  match claims with
  | none => some unauthorized
  | some claims =>
    (query [claims.orgID] Project.createdAt (db.projectsOf claims.orgID) rows).map fun
      | .ok rows => .projects rows rows.length
      | .error _ => serverError

/-- A list of devices whose project was found, and which is yet to be selected. -/
structure PendingListing where
  orgID : String
  projectName : String
  projectID : Uuid

/-- The part of `handleListProjectDevices` before its second statement. -/
def startListProjectDevices (db : Database) (claims : Option Claims) (projectName : String) :
    Except Reply PendingListing :=
  match claims with
  | none => .error unauthorized
  | some claims =>
    if projectName = "" then .error (.response (.refused 400 "Bad Request: project name required"))
    else
      match db.selectProject projectName claims.orgID with
      | .error _ => .error serverError
      | .ok none => .error (.response (.refused 404 "Not Found: project not found"))
      | .ok (some projectID) => .ok ⟨claims.orgID, projectName, projectID⟩

def finishListProjectDevices (db : Database) (listing : PendingListing) (rows : List Vehicle) :
    Option Reply :=
  (query [listing.orgID] Vehicle.createdAt (db.devicesOf listing.projectID listing.orgID) rows).map
    fun
    | .ok rows => .devices rows rows.length
    | .error _ => serverError

def handleListVehicles (db : Database) (claims : Option Claims) (rows : List Vehicle) :
    Option Reply :=
  match claims with
  | none => some unauthorized
  | some claims =>
    (query [claims.orgID] Vehicle.createdAt (db.vehiclesOf claims.orgID) rows).map fun
      | .ok rows => .vehicles rows rows.length
      | .error _ => serverError

def handleListAssistance (db : Database) (claims : Option Claims) (rows : List AssistanceRow) :
    Option Reply :=
  match claims with
  | none => some unauthorized
  | some claims =>
    (query [claims.orgID] AssistanceRow.createdAt (db.requestsOf claims.orgID) rows).map fun
      | .ok rows => .requests (rows.map AssistanceRow.item)
      | .error _ => serverError

section Calls

variable (readUuid : String → Option Uuid)

def handleGetVehicle (db : Database) (claims : Option Claims) (vehicleID : String) : Reply :=
  match claims with
  | none => unauthorized
  | some claims =>
    if vehicleID = "" then .response (.refused 400 "Bad Request: vehicle id required")
    else
      match readUuid vehicleID with
      | none => serverError
      | some id =>
        if !storable claims.orgID then serverError
        else
          match db.selectVehicle id claims.orgID with
          | none => .response (.refused 404 "Not Found")
          | some row => .vehicle row

/-! ## Runs -/

structure Service where
  state : State
  listings : List PendingListing

/-- The calls of fleet-api that reach its database. Those that list name the rows that the database
returns. -/
inductive Call where
  | write (action : Action)
  | listProjects (claims : Option Claims) (rows : List Project)
  | listDevices (claims : Option Claims) (projectName : String)
  | selectDevices (listing : Nat) (rows : List Vehicle)
  | listVehicles (claims : Option Claims) (rows : List Vehicle)
  | getVehicle (claims : Option Claims) (vehicleID : String)
  | listAssistance (claims : Option Claims) (rows : List AssistanceRow)

def serveCall (service : Service) : Call → Option (Service × Option Reply)
  | .write action =>
    (serve readUuid service.state action).map fun (state, response) =>
      ({ service with state }, response.map Reply.response)
  | .listProjects claims rows =>
    (handleListProjects service.state.db claims rows).map fun reply => (service, some reply)
  | .listDevices claims projectName =>
    match startListProjectDevices service.state.db claims projectName with
    | .ok listing => some ({ service with listings := service.listings ++ [listing] }, none)
    | .error reply => some (service, some reply)
  | .selectDevices listing rows =>
    service.listings[listing]?.bind fun pending =>
      (finishListProjectDevices service.state.db pending rows).map fun reply =>
        ({ service with listings := service.listings.eraseIdx listing }, some reply)
  | .listVehicles claims rows =>
    (handleListVehicles service.state.db claims rows).map fun reply => (service, some reply)
  | .getVehicle claims vehicleID =>
    some (service, some (handleGetVehicle readUuid service.state.db claims vehicleID))
  | .listAssistance claims rows =>
    (handleListAssistance service.state.db claims rows).map fun reply => (service, some reply)

def opened : Service := ⟨start, []⟩

end Calls

section Equations

variable {readUuid : String → Option Uuid} {state : State}

theorem serve_createProject {claims : Option Claims} {body : List Char} {id : Uuid} {now : Nat} :
    serve readUuid state (.createProject claims body id now) =
      some ({ state with db := (handleCreateProject state.db claims body id now).1 },
        some (handleCreateProject state.db claims body id now).2) := rfl

theorem serve_insertDevice {device : Nat} {id : Uuid} {now : Nat} :
    serve readUuid state (.insertDevice device id now) =
      state.devices[device]?.map fun pending =>
        (⟨(finishCreateDevice state.db pending id now).1, state.devices.eraseIdx device⟩,
          some (finishCreateDevice state.db pending id now).2) := rfl

theorem serve_createAssistance {claims : Option Claims} {body : List Char} {id : Uuid} {now : Nat} :
    serve readUuid state (.createAssistance claims body id now) =
      some ({ state with db := (handleCreateAssistance readUuid state.db claims body id now).1 },
        some (handleCreateAssistance readUuid state.db claims body id now).2) := rfl

theorem serve_respondAssistance {claims : Option Claims} {assistanceID : String} {body : List Char}
    {now : Nat} :
    serve readUuid state (.respondAssistance claims assistanceID body now) =
      some ({ state with db := (handleRespondAssistance state.db claims assistanceID body now).1 },
        some (handleRespondAssistance state.db claims assistanceID body now).2) := rfl

theorem startListProjectDevices_ok {db : Database} {claims : Option Claims} {projectName : String}
    {listing : PendingListing} (begun : startListProjectDevices db claims projectName = .ok listing) :
    ∃ caller, claims = some caller ∧ listing.orgID = caller.orgID ∧
      listing.projectName = projectName ∧
        db.selectProject projectName caller.orgID = .ok (some listing.projectID) := by
  cases claims with
  | none => cases begun
  | some caller =>
    refine ⟨caller, rfl, ?_⟩
    simp only [startListProjectDevices] at begun
    split_ifs at begun
    split at begun
    · cases begun
    · cases begun
    · next selected =>
      obtain rfl := Except.ok.inj begun
      exact ⟨rfl, rfl, selected⟩

end Equations

end SystemScale.Cloud.Fleet

import SystemScale.Cloud.Fleet

set_option autoImplicit false

/-!
# Tenants of the fleet database

Rows of one organisation refer to rows of the same organisation, as long as requests for assistance
do.
-/

namespace SystemScale.Cloud.Fleet

open Json (Value)

variable {readUuid : String → Option Uuid}

/-! ## What a statement does -/

theorem insertProject_ok {db db' : Database} {id : Uuid} {now : Nat}
    {orgID name displayName : String} {row : Project}
    (inserted : db.insertProject id now orgID name displayName = .ok (db', row)) :
    db' = { db with projects := db.projects ++ [row] } := by
  unfold Database.insertProject at inserted
  split_ifs at inserted
  obtain ⟨rfl, rfl⟩ := Prod.mk.inj (Except.ok.inj inserted)
  rfl

theorem insertVehicle_ok {db db' : Database} {id : Uuid} {now : Nat} {orgID : String}
    {projectID : Uuid} {displayName vehicleType adapterType region : String} {row : Vehicle}
    (inserted : db.insertVehicle id now orgID projectID displayName vehicleType adapterType region =
      .ok (db', row)) :
    db' = { db with vehicles := db.vehicles ++ [row] } ∧ row.orgID = orgID ∧
      row.projectID = projectID := by
  unfold Database.insertVehicle at inserted
  split_ifs at inserted
  obtain ⟨rfl, rfl⟩ := Prod.mk.inj (Except.ok.inj inserted)
  exact ⟨rfl, rfl, rfl⟩

theorem insertAssistance_ok {db db' : Database} {id : Uuid} {now : Nat}
    {requestID deviceID projectID orgID reason : String} {timeoutS : Int} {row : AssistanceRow}
    (inserted : db.insertAssistance readUuid id now requestID deviceID projectID orgID reason timeoutS =
      .ok (db', row)) :
    db' = { db with assistanceRequests := db.assistanceRequests ++ [row] } ∧
      readUuid deviceID = some row.deviceID ∧ readUuid projectID = some row.projectID ∧
      row.orgID = orgID ∧ row.requestID = requestID ∧ row.status = .pending ∧
      ∀ other ∈ db.assistanceRequests, other.requestID ≠ requestID := by
  unfold Database.insertAssistance at inserted
  split at inserted
  · cases inserted
  · cases inserted
  · next device project readDevice readProject =>
    split_ifs at inserted with rejected duplicate
    obtain ⟨rfl, rfl⟩ := Prod.mk.inj (Except.ok.inj inserted)
    refine ⟨rfl, readDevice, readProject, rfl, rfl, rfl, fun other member same => duplicate ?_⟩
    exact List.any_eq_true.mpr ⟨other, member, by simp [same]⟩

theorem selectProject_ok {db : Database} {name orgID : String} {id : Uuid}
    (selected : db.selectProject name orgID = .ok (some id)) :
    ∃ project ∈ db.projects, project.id = id ∧ project.orgID = orgID := by
  unfold Database.selectProject at selected
  split_ifs at selected
  obtain ⟨project, found, rfl⟩ := Option.map_eq_some_iff.mp (Except.ok.inj selected)
  have matched := List.find?_some found
  simp only [Bool.and_eq_true, decide_eq_true_eq] at matched
  exact ⟨project, List.mem_of_find?_eq_some found, rfl, matched.1.2⟩

theorem startCreateDevice_ok {db : Database} {claims : Option Claims} {projectName : String}
    {body : List Char} {device : PendingDevice}
    (started : startCreateDevice db claims projectName body = .ok device) :
    ∃ project ∈ db.projects, project.id = device.projectID ∧ project.orgID = device.orgID := by
  unfold startCreateDevice at started
  split at started
  · cases started
  · next claims =>
    split_ifs at started
    split at started
    · cases started
    · cases started
    · next projectID selected =>
      split at started
      · cases started
      · next req decoded =>
        by_cases unnamed : req.displayName = ""
        · rw [if_pos unnamed] at started
          cases started
        · rw [if_neg unnamed] at started
          obtain rfl := Except.ok.inj started
          exact selectProject_ok selected

/-! ## What a step does -/

section Steps

variable (readUuid)

/-- A request that the database takes. -/
def Accepted (db : Database) (caller : Claims) (req : CreateAssistanceRequest) (id : Uuid)
    (now : Nat) (db' : Database) (row : AssistanceRow) : Prop :=
  db.insertAssistance readUuid id now req.requestID req.deviceID req.projectID caller.orgID
    req.reason (if req.timeoutS ≤ 0 then 120 else req.timeoutS) = .ok (db', row)

inductive Change (state : State) : Action → State → Prop where
  | kept (action : Action)
      (refused : ∀ caller body id now req, action = .createAssistance (some caller) body id now →
        decodeCreateAssistance body = some req →
        ¬∃ db row, Accepted readUuid state.db caller req id now db row) :
      Change state action state
  | project (claims : Option Claims) (body : List Char) (id : Uuid) (now : Nat) (row : Project) :
      Change state (.createProject claims body id now)
        { state with db := { state.db with projects := state.db.projects ++ [row] } }
  | started (claims : Option Claims) (projectName : String) (body : List Char)
      (device : PendingDevice)
      (owned : ∃ project ∈ state.db.projects,
        project.id = device.projectID ∧ project.orgID = device.orgID) :
      Change state (.createDevice claims projectName body)
        { state with devices := state.devices ++ [device] }
  | inserted (index : Nat) (id : Uuid) (now : Nat) (device : PendingDevice) (row : Vehicle)
      (pending : device ∈ state.devices) (org : row.orgID = device.orgID)
      (named : row.projectID = device.projectID) :
      Change state (.insertDevice index id now)
        ⟨{ state.db with vehicles := state.db.vehicles ++ [row] }, state.devices.eraseIdx index⟩
  | dropped (index : Nat) (id : Uuid) (now : Nat) :
      Change state (.insertDevice index id now) ⟨state.db, state.devices.eraseIdx index⟩
  | requested (caller : Claims) (body : List Char) (id : Uuid) (now : Nat)
      (req : CreateAssistanceRequest) (db : Database) (row : AssistanceRow)
      (decoded : decodeCreateAssistance body = some req)
      (accepted : Accepted readUuid state.db caller req id now db row) :
      Change state (.createAssistance (some caller) body id now) { state with db := db }
  | responded (caller : Claims) (requestID : String) (body : List Char) (now : Nat)
      (approved : Bool) (instruction : String) :
      Change state (.respondAssistance (some caller) requestID body now)
        { state with db := { state.db with
            assistanceRequests := state.db.assistanceRequests.map fun row =>
              if row.open requestID caller.orgID then row.respond approved instruction now
              else row } }

end Steps

theorem step_change {state next : State} {action : Action}
    (taken : step readUuid state action = some next) : Change readUuid state action next := by
  obtain ⟨⟨after, response⟩, served, rfl⟩ := Option.map_eq_some_iff.mp taken
  cases action with
  | createProject claims body id now =>
    obtain ⟨rfl, -⟩ := Prod.mk.inj (Option.some.inj served)
    dsimp only
    split
    · exact .kept _ (by simp)
    · split
      · exact .kept _ (by simp)
      · split_ifs
        · exact .kept _ (by simp)
        · split
          · next db row inserted =>
            rw [insertProject_ok inserted]
            exact .project _ _ _ _ row
          · split_ifs <;> exact .kept _ (by simp)
  | createDevice claims projectName body =>
    simp only [serve] at served
    split at served
    · next device begun =>
      obtain ⟨rfl, -⟩ := Prod.mk.inj (Option.some.inj served)
      exact .started _ _ _ device (startCreateDevice_ok begun)
    · obtain ⟨rfl, -⟩ := Prod.mk.inj (Option.some.inj served)
      exact .kept _ (by simp)
  | insertDevice index id now =>
    obtain ⟨device, found, same⟩ := Option.map_eq_some_iff.mp served
    obtain ⟨rfl, -⟩ := Prod.mk.inj same
    dsimp only
    split
    · next db row inserted =>
      obtain ⟨rfl, org, named⟩ := insertVehicle_ok inserted
      exact .inserted _ _ _ device row (List.mem_of_getElem? found) org named
    · exact .dropped _ _ _
  | createAssistance claims body id now =>
    obtain ⟨rfl, -⟩ := Prod.mk.inj (Option.some.inj served)
    dsimp only
    split
    · exact .kept _ (by simp)
    · next caller =>
      split
      · next undecoded =>
        refine .kept _ ?_
        rintro _ _ _ _ req ⟨⟩ decoded
        cases undecoded.symm.trans decoded
      · next req decoded =>
        split
        · next db row inserted => exact .requested caller _ _ _ req db row decoded inserted
        · next error failed =>
          have refused : Change readUuid state (.createAssistance (some caller) body id now) state := by
            refine .kept _ ?_
            rintro _ _ _ _ other ⟨⟩ again ⟨db, row, accepted⟩
            obtain rfl := Option.some.inj (decoded.symm.trans again)
            cases failed.symm.trans accepted
          split_ifs <;> exact refused
  | respondAssistance claims requestID body now =>
    obtain ⟨rfl, -⟩ := Prod.mk.inj (Option.some.inj served)
    dsimp only
    split
    · exact .kept _ (by simp)
    · next caller =>
      split_ifs
      · exact .kept _ (by simp)
      · split
        · next approved instruction decoded =>
          simp only [Database.updateAssistance]
          split_ifs
          · exact .kept _ (by simp)
          · simp only
            split_ifs <;> exact .responded caller _ _ _ approved instruction
        · exact .kept _ (by simp)

/-! ## Rows of one organisation -/

def Database.OwnProject (db : Database) (project : Uuid) (orgID : String) : Prop :=
  ∃ row ∈ db.projects, row.id = project ∧ row.orgID = orgID

def Database.OwnVehicle (db : Database) (vehicle : Uuid) (orgID : String) : Prop :=
  ∃ row ∈ db.vehicles, row.id = vehicle ∧ row.orgID = orgID

structure Consistent (db : Database) : Prop where
  vehicles : ∀ row ∈ db.vehicles, db.OwnProject row.projectID row.orgID
  assistance : ∀ row ∈ db.assistanceRequests,
    db.OwnVehicle row.deviceID row.orgID ∧ db.OwnProject row.projectID row.orgID

/-- Devices that are yet to be inserted are in a project of their organisation. -/
def Prepared (state : State) : Prop :=
  ∀ device ∈ state.devices, state.db.OwnProject device.projectID device.orgID

theorem Database.OwnProject.grown {db db' : Database} (grown : ∀ row ∈ db.projects, row ∈ db'.projects)
    {project : Uuid} {orgID : String} (own : db.OwnProject project orgID) :
    db'.OwnProject project orgID := by
  obtain ⟨row, member, named⟩ := own
  exact ⟨row, grown row member, named⟩

theorem Database.OwnVehicle.grown {db db' : Database} (grown : ∀ row ∈ db.vehicles, row ∈ db'.vehicles)
    {vehicle : Uuid} {orgID : String} (own : db.OwnVehicle vehicle orgID) :
    db'.OwnVehicle vehicle orgID := by
  obtain ⟨row, member, named⟩ := own
  exact ⟨row, grown row member, named⟩

theorem Consistent.grown {db db' : Database} (consistent : Consistent db)
    (projects : ∀ row ∈ db.projects, row ∈ db'.projects)
    (vehicles : ∀ row ∈ db.vehicles, row ∈ db'.vehicles)
    (placed : ∀ row ∈ db'.vehicles, row ∈ db.vehicles ∨ db'.OwnProject row.projectID row.orgID)
    (asked : ∀ row ∈ db'.assistanceRequests, ∃ old ∈ db.assistanceRequests,
      old.deviceID = row.deviceID ∧ old.projectID = row.projectID ∧ old.orgID = row.orgID) :
    Consistent db' where
  vehicles row member := by
    rcases placed row member with old | own
    · exact (consistent.vehicles row old).grown projects
    · exact own
  assistance row member := by
    obtain ⟨old, before, device, project, org⟩ := asked row member
    have own := consistent.assistance old before
    rw [device, project, org] at own
    exact ⟨own.1.grown vehicles, own.2.grown projects⟩

section Runs

variable (readUuid)

/-- The request names a vehicle and a project of the caller's organisation. -/
def NamesOwn (db : Database) (caller : Claims) (req : CreateAssistanceRequest) : Prop :=
  ∃ device project, readUuid req.deviceID = some device ∧ readUuid req.projectID = some project ∧
    db.OwnVehicle device caller.orgID ∧ db.OwnProject project caller.orgID

/-- Every request for assistance that is taken names what its organisation has by then. -/
def NamesOwnRows (state : State) : Action → Prop
  | .createAssistance (some caller) body id now =>
    ∀ req, decodeCreateAssistance body = some req →
      (∃ db row, Accepted readUuid state.db caller req id now db row) →
        NamesOwn readUuid state.db caller req
  | _ => True

end Runs

theorem step_prepared {state next : State} {action : Action} (prepared : Prepared state)
    (taken : step readUuid state action = some next) : Prepared next := by
  cases step_change taken with
  | kept => exact prepared
  | project _ _ _ _ row =>
    exact fun device member => (prepared device member).grown fun _ there =>
      List.mem_append_left _ there
  | started _ _ _ device owned =>
    intro other member
    rcases List.mem_append.mp member with old | new
    · exact prepared other old
    · obtain rfl := List.mem_singleton.mp new
      exact owned
  | inserted index =>
    exact fun device member => prepared device (List.mem_of_mem_eraseIdx member)
  | dropped index =>
    exact fun device member => prepared device (List.mem_of_mem_eraseIdx member)
  | requested _ _ _ _ _ db row _ accepted =>
    obtain ⟨rfl, -⟩ := insertAssistance_ok accepted
    exact prepared
  | responded => exact prepared

theorem accepted_consistent {db db' : Database} {caller : Claims} {req : CreateAssistanceRequest}
    {id : Uuid} {now : Nat} {row : AssistanceRow} (consistent : Consistent db)
    (accepted : Accepted readUuid db caller req id now db' row) :
    Consistent db' ↔ NamesOwn readUuid db caller req := by
  obtain ⟨rfl, device, project, org, -⟩ := insertAssistance_ok accepted
  constructor
  · intro after
    have own := after.assistance row (by simp)
    rw [org] at own
    exact ⟨_, _, device, project, own⟩
  · rintro ⟨device', project', readDevice, readProject, own⟩
    obtain rfl := Option.some.inj (device.symm.trans readDevice)
    obtain rfl := Option.some.inj (project.symm.trans readProject)
    refine ⟨consistent.vehicles, fun other member => ?_⟩
    rcases List.mem_append.mp member with old | new
    · exact consistent.assistance other old
    · obtain rfl := List.mem_singleton.mp new
      rw [org]
      exact own

theorem step_consistent {state next : State} {action : Action} (prepared : Prepared state)
    (consistent : Consistent state.db) (taken : step readUuid state action = some next) :
    Consistent next.db ↔ NamesOwnRows readUuid state action := by
  cases step_change taken with
  | kept _ refused =>
    refine iff_of_true consistent ?_
    unfold NamesOwnRows
    split
    · exact fun req decoded accepted => absurd accepted (refused _ _ _ _ req rfl decoded)
    · trivial
  | project _ _ _ _ row =>
    refine iff_of_true (consistent.grown (fun _ there => List.mem_append_left _ there)
      (fun _ there => there) (fun _ there => .inl there) ?_) trivial
    exact fun row there => ⟨row, there, rfl, rfl, rfl⟩
  | started => exact iff_of_true consistent trivial
  | inserted _ _ _ device row pending org named =>
    refine iff_of_true (consistent.grown (fun _ there => there)
      (fun _ there => List.mem_append_left _ there) ?_ ?_) trivial
    · intro other member
      rcases List.mem_append.mp member with old | new
      · exact .inl old
      · obtain rfl := List.mem_singleton.mp new
        have own := prepared device pending
        rw [← org, ← named] at own
        exact .inr own
    · exact fun row there => ⟨row, there, rfl, rfl, rfl⟩
  | dropped => exact iff_of_true consistent trivial
  | requested caller body id now req db row decoded accepted =>
    rw [accepted_consistent consistent accepted]
    constructor
    · intro named other again _
      obtain rfl := Option.some.inj (decoded.symm.trans again)
      exact named
    · exact fun careful => careful req decoded ⟨db, row, accepted⟩
  | responded =>
    refine iff_of_true (consistent.grown (fun _ there => there) (fun _ there => there)
      (fun _ there => .inl there) ?_) trivial
    intro row member
    obtain ⟨old, before, rfl⟩ := List.mem_map.mp member
    refine ⟨old, before, ?_⟩
    split_ifs <;> exact ⟨rfl, rfl, rfl⟩

/-- The digits of a uuid, with or without hyphens. -/
def hexUuid (text : String) : Option Uuid :=
  let digits := text.toList.filter (· ≠ '-')
  if digits.length = 32 then
    (digits.mapM Json.hexValue).map fun values =>
      BitVec.ofNat 128 (values.foldl (fun sum value => sum * 16 + value) 0)
  else none

def strayRequest : CreateAssistanceRequest :=
  ⟨"r1", "00000000-0000-0000-0000-00000000000a", "00000000-0000-0000-0000-00000000000b", "", 0⟩

def strayBody : List Char :=
  Value.write goStyle (.object [("request_id", .string strayRequest.requestID),
    ("device_id", .string strayRequest.deviceID), ("project_id", .string strayRequest.projectID)])

theorem decode_strayBody : decodeCreateAssistance strayBody = some strayRequest := by
  have read := goReader.first_write goStyle (.object [("request_id", .string strayRequest.requestID),
    ("device_id", .string strayRequest.deviceID), ("project_id", .string strayRequest.projectID)])
    (by simp [Json.Value.Within, goReader])
  rw [decodeCreateAssistance, decodeStruct, strayBody, read]
  rfl

end SystemScale.Cloud.Fleet

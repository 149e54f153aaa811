import SystemScale.Cloud.FleetAnswers
import SystemScale.Cloud.FleetPrivacy

set_option autoImplicit false

/-!
# Lists and the answers before them

What fleet-api lists is what it has answered to the calls that made the rows, whoever made other
calls in between.
-/

namespace SystemScale.Cloud.Fleet

variable {readUuid : String → Option Uuid}

/-! ## Histories -/

/-- The calls of a run and their answers. -/
abbrev History := List (Call × Option Reply)

section Records

variable (readUuid)

def record (state : Service × History) (call : Call) : Option (Service × History) :=
  (serveCall readUuid state.1 call).map fun (next, reply) => (next, state.2 ++ [(call, reply)])

end Records

def projectMade : Call × Option Reply → Option Project
  | (_, some (.response (.project row))) => some row
  | _ => none

def deviceMade : Call × Option Reply → Option Vehicle
  | (_, some (.response (.device row))) => some row
  | _ => none

def projectsMade (history : History) : List Project := history.filterMap projectMade

def devicesMade (history : History) : List Vehicle := history.filterMap deviceMade

def AssistanceItem.named (item : AssistanceItem) (requestID orgID : String) : Bool :=
  item.requestID = requestID && item.orgID = orgID

/-- A request is open from its answer on, until an operator of its organisation has answered it. -/
def settle (items : List AssistanceItem) : Call × Option Reply → List AssistanceItem
  | (_, some (.response (.assistance row))) => items ++ [row.item]
  | (.write (.respondAssistance (some caller) requestID _ _), some (.response .responded)) =>
    items.filter fun item => !item.named requestID caller.orgID
  | _ => items

def openItems (history : History) : List AssistanceItem := history.foldl settle []

/-! ## What is promised -/

/-- The organisation that asks for rows, and the project that it names. -/
def asks (service : Service) : Call → Option (String × String)
  | .listProjects claims _ => claims.map fun caller => (caller.orgID, "")
  | .selectDevices listing _ =>
    service.listings[listing]?.map fun pending => (pending.orgID, pending.projectName)
  | .listVehicles claims _ => claims.map fun caller => (caller.orgID, "")
  | .getVehicle claims _ => claims.map fun caller => (caller.orgID, "")
  | .listAssistance claims _ => claims.map fun caller => (caller.orgID, "")
  | _ => none

def Shown (history : History) (org projectName : String) : Reply → Prop
  | .projects rows count =>
    Selects Project.createdAt ((projectsMade history).filter fun row => row.orgID = org) rows ∧
      count = rows.length
  | .devices rows count =>
    ∃ project ∈ projectsMade history, project.orgID = org ∧ project.name = projectName ∧
      (∀ other ∈ projectsMade history, other.orgID = org → other.name = projectName →
        other = project) ∧
      Selects Vehicle.createdAt ((devicesMade history).filter fun row =>
        row.projectID = project.id && row.orgID = org) rows ∧ count = rows.length
  | .vehicles rows count =>
    Selects Vehicle.createdAt ((devicesMade history).filter fun row => row.orgID = org) rows ∧
      count = rows.length
  | .vehicle row => row ∈ devicesMade history ∧ row.orgID = org
  | .requests items =>
    Selects AssistanceItem.createdAt ((openItems history).filter fun item => item.orgID = org) items
  | .response response => ∃ status message, response = .refused status message

/-- The tables hold what was answered. -/
structure Recorded (state : Service × History) : Prop where
  projects : state.1.state.db.projects = projectsMade state.2
  vehicles : state.1.state.db.vehicles = devicesMade state.2
  requests : ((state.1.state.db.assistanceRequests.filter fun row => row.status = .pending).map
    AssistanceRow.item) = openItems state.2
  active : (∀ row ∈ state.1.state.db.projects, row.active = true) ∧
    ∀ row ∈ state.1.state.db.vehicles, row.active = true
  named : (state.1.state.db.projects.map fun row => (row.orgID, row.name)).Nodup
  listed : ∀ listing ∈ state.1.listings, ∃ row ∈ state.1.state.db.projects,
    row.id = listing.projectID ∧ row.orgID = listing.orgID ∧ row.name = listing.projectName

/-! ## What a handler makes -/

section Handlers

variable {db : Database}

theorem selectProject_named {name orgID : String} {id : Uuid}
    (selected : db.selectProject name orgID = .ok (some id)) :
    ∃ project ∈ db.projects, project.id = id ∧ project.orgID = orgID ∧ project.name = name := by
  unfold Database.selectProject at selected
  split_ifs at selected
  obtain ⟨project, found, rfl⟩ := Option.map_eq_some_iff.mp (Except.ok.inj selected)
  have matched := List.find?_some found
  simp only [Bool.and_eq_true, decide_eq_true_eq] at matched
  exact ⟨project, List.mem_of_find?_eq_some found, rfl, matched.1.2, matched.1.1⟩

/-- A handler that inserts answers with the row, or changes nothing. -/
inductive ProjectMade (db : Database) : Database × Response → Prop where
  | made (row : Project) (active : row.active = true)
      (fresh : ∀ other ∈ db.projects, other.orgID = row.orgID → other.name ≠ row.name) :
      ProjectMade db ({ db with projects := db.projects ++ [row] }, .project row)
  | refused (status : Nat) (message : String) : ProjectMade db (db, .refused status message)

theorem handleCreateProject_made (claims : Option Claims) (body : List Char) (id : Uuid) (now : Nat) :
    ProjectMade db (handleCreateProject db claims body id now) := by
  unfold handleCreateProject
  split
  · exact .refused _ _
  · split
    · exact .refused _ _
    · split_ifs
      · exact .refused _ _
      · split
        · next inserted =>
          unfold Database.insertProject at inserted
          split_ifs at inserted with rejected taken
          obtain ⟨rfl, rfl⟩ := Prod.mk.inj (Except.ok.inj inserted)
          refine .made _ rfl fun other member org name => taken ?_
          exact List.any_eq_true.mpr ⟨other, member, by simp [org, name]⟩
        · split_ifs <;> exact .refused _ _

inductive DeviceMade (db : Database) : Database × Response → Prop where
  | made (row : Vehicle) (active : row.active = true) :
      DeviceMade db ({ db with vehicles := db.vehicles ++ [row] }, .device row)
  | refused (status : Nat) (message : String) : DeviceMade db (db, .refused status message)

theorem finishCreateDevice_made (device : PendingDevice) (id : Uuid) (now : Nat) :
    DeviceMade db (finishCreateDevice db device id now) := by
  unfold finishCreateDevice
  split
  · next inserted =>
    unfold Database.insertVehicle at inserted
    split_ifs at inserted
    obtain ⟨rfl, rfl⟩ := Prod.mk.inj (Except.ok.inj inserted)
    exact .made _ rfl
  · exact .refused _ _

inductive RequestMade (db : Database) : Database × Response → Prop where
  | made (row : AssistanceRow) (pending : row.status = .pending) :
      RequestMade db ({ db with assistanceRequests := db.assistanceRequests ++ [row] },
        .assistance row)
  | refused (status : Nat) (message : String) : RequestMade db (db, .refused status message)

theorem handleCreateAssistance_made (readUuid : String → Option Uuid) (claims : Option Claims)
    (body : List Char) (id : Uuid) (now : Nat) :
    RequestMade db (handleCreateAssistance readUuid db claims body id now) := by
  unfold handleCreateAssistance
  split
  · exact .refused _ _
  · split
    · exact .refused _ _
    · simp only
      split
      · next inserted =>
        obtain ⟨rfl, -, -, -, -, pending, -⟩ := insertAssistance_ok inserted
        exact .made _ pending
      · split_ifs <;> exact .refused _ _

theorem startCreateDevice_refused {claims : Option Claims} {projectName : String} {body : List Char}
    {response : Response} (refused : startCreateDevice db claims projectName body = .error response) :
    ∃ status message, response = .refused status message := by
  unfold startCreateDevice at refused
  split at refused
  · exact ⟨_, _, (Except.error.inj refused).symm⟩
  · split_ifs at refused
    · exact ⟨_, _, (Except.error.inj refused).symm⟩
    · split at refused
      · exact ⟨_, _, (Except.error.inj refused).symm⟩
      · exact ⟨_, _, (Except.error.inj refused).symm⟩
      · split at refused
        · exact ⟨_, _, (Except.error.inj refused).symm⟩
        · next req decoded =>
          by_cases unnamed : req.displayName = ""
          · rw [if_pos unnamed] at refused
            exact ⟨_, _, (Except.error.inj refused).symm⟩
          · rw [if_neg unnamed] at refused
            cases refused

inductive RequestAnswered (db : Database) (claims : Option Claims) (requestID : String) :
    Database × Response → Prop where
  | answered (caller : Claims) (approved : Bool) (instruction : String) (now : Nat)
      (called : claims = some caller) :
      RequestAnswered db claims requestID
        ({ db with assistanceRequests := db.assistanceRequests.map fun row =>
            if row.open requestID caller.orgID then row.respond approved instruction now else row },
          .responded)
  | refused (status : Nat) (message : String) :
      RequestAnswered db claims requestID (db, .refused status message)

theorem handleRespondAssistance_answered (claims : Option Claims) (requestID : String)
    (body : List Char) (now : Nat) :
    RequestAnswered db claims requestID (handleRespondAssistance db claims requestID body now) := by
  unfold handleRespondAssistance
  split
  · exact .refused _ _
  · next caller =>
    split_ifs
    · exact .refused _ _
    · split
      · next approved instruction _ =>
        unfold Database.updateAssistance
        by_cases rejected : !(storable instruction && storable requestID && storable caller.orgID)
        · rw [if_pos rejected]
          exact .refused _ _
        · rw [if_neg rejected]
          simp only
          split_ifs with none_open
          · rw [update_none none_open]
            exact .refused _ _
          · exact .answered caller approved instruction now rfl
      · exact .refused _ _

end Handlers

/-! ## One call -/

section Steps

variable {service next : Service} {history : History} {call : Call} {reply : Option Reply}

theorem projectsMade_append (call : Call) (reply : Option Reply) :
    projectsMade (history ++ [(call, reply)]) =
      projectsMade history ++ (projectMade (call, reply)).toList := by
  rw [projectsMade, List.filterMap_append]
  cases is : projectMade (call, reply) <;> simp [is, projectsMade]

theorem devicesMade_append (call : Call) (reply : Option Reply) :
    devicesMade (history ++ [(call, reply)]) =
      devicesMade history ++ (deviceMade (call, reply)).toList := by
  rw [devicesMade, List.filterMap_append]
  cases is : deviceMade (call, reply) <;> simp [is, devicesMade]

theorem openItems_append (call : Call) (reply : Option Reply) :
    openItems (history ++ [(call, reply)]) = settle (openItems history) (call, reply) := by
  rw [openItems, List.foldl_append]
  rfl

/-- An answer that makes nothing. -/
def Idle (call : Call) (reply : Option Reply) : Prop :=
  projectMade (call, reply) = none ∧ deviceMade (call, reply) = none ∧
    ∀ items, settle items (call, reply) = items

theorem Recorded.idle (recorded : Recorded (service, history)) (idle : Idle call reply)
    (db : next.state.db = service.state.db) (listings : ∀ listing ∈ next.listings,
      listing ∈ service.listings ∨ ∃ row ∈ service.state.db.projects,
        row.id = listing.projectID ∧ row.orgID = listing.orgID ∧ row.name = listing.projectName) :
    Recorded (next, history ++ [(call, reply)]) where
  projects := by
    rw [projectsMade_append, idle.1, db, recorded.projects]
    simp
  vehicles := by
    rw [devicesMade_append, idle.2.1, db, recorded.vehicles]
    simp
  requests := by rw [openItems_append, idle.2.2, db, recorded.requests]
  active := db ▸ recorded.active
  named := db ▸ recorded.named
  listed listing member := by
    rw [db]
    rcases listings listing member with old | found
    · exact recorded.listed listing old
    · exact found

theorem forall_snoc {R : Type} {P : R → Prop} {rows : List R} {row : R} (all : ∀ row ∈ rows, P row)
    (last : P row) : ∀ other ∈ rows ++ [row], P other := by
  intro other member
  rcases List.mem_append.mp member with old | new
  · exact all other old
  · exact List.mem_singleton.mp new ▸ last

-- The rows that were open to the answer are pending no more.
theorem answered_pending (rows : List AssistanceRow) (requestID orgID : String) (approved : Bool)
    (instruction : String) (now : Nat) :
    (((rows.map fun row => if row.open requestID orgID then row.respond approved instruction now
      else row).filter fun row => row.status = .pending).map AssistanceRow.item) =
      ((rows.filter fun row => row.status = .pending).map AssistanceRow.item).filter fun item =>
        !item.named requestID orgID := by
  induction rows with
  | nil => rfl
  | cons row rest ih =>
    rw [List.map_cons]
    by_cases pending : row.status = .pending
    · have opens : row.open requestID orgID = row.item.named requestID orgID := by
        simp [AssistanceRow.open, AssistanceItem.named, AssistanceRow.item, pending]
      cases asked : row.item.named requestID orgID with
      | true =>
        have answered : (row.respond approved instruction now).status ≠ .pending := by
          simp [AssistanceRow.respond]
        rw [if_pos (opens.trans asked), List.filter_cons_of_neg (by simpa using answered),
          List.filter_cons_of_pos (by simpa using pending), List.map_cons,
          List.filter_cons_of_neg (by simp [asked]), ih]
      | false =>
        rw [if_neg (by simp [opens, asked]), List.filter_cons_of_pos (by simpa using pending),
          List.filter_cons_of_pos (by simpa using pending), List.map_cons, List.map_cons,
          List.filter_cons_of_pos (by simp [asked]), ih]
    · have closed : row.open requestID orgID ≠ true := by simp [AssistanceRow.open, pending]
      rw [if_neg closed, List.filter_cons_of_neg (by simpa using pending),
        List.filter_cons_of_neg (by simpa using pending), ih]

theorem Recorded.write {state : State} {action : Action} {response : Option Response}
    (recorded : Recorded (service, history))
    (served : serve readUuid service.state action = some (state, response)) :
    Recorded ({ service with state },
      history ++ [(.write action, response.map Reply.response)]) := by
  have same (listing : PendingListing) (member : listing ∈ service.listings) :
      listing ∈ service.listings ∨ ∃ row ∈ service.state.db.projects,
        row.id = listing.projectID ∧ row.orgID = listing.orgID ∧ row.name = listing.projectName :=
    .inl member
  cases action with
  | createProject claims body id now =>
    rw [serve_createProject] at served
    obtain ⟨rfl, rfl⟩ := Prod.mk.inj (Option.some.inj served)
    have made : ProjectMade service.state.db _ := handleCreateProject_made claims body id now
    generalize handleCreateProject service.state.db claims body id now = result at made
    cases made with
    | made row active fresh =>
      refine ⟨?_, ?_, ?_, ⟨?_, recorded.active.2⟩, ?_, ?_⟩
      · rw [projectsMade_append]
        exact congrArg (· ++ [row]) recorded.projects
      · rw [devicesMade_append]
        exact recorded.vehicles.trans (List.append_nil _).symm
      · rw [openItems_append]
        exact recorded.requests
      · exact forall_snoc recorded.active.1 active
      · simp only [List.map_append, List.map_cons, List.map_nil]
        refine List.nodup_append.mpr ⟨recorded.named, by simp, ?_⟩
        rintro pair old _ new rfl
        obtain ⟨other, member, named⟩ := List.mem_map.mp old
        rw [List.mem_singleton.mp new] at named
        exact fresh other member (Prod.mk.inj named).1 (Prod.mk.inj named).2
      · intro listing member
        obtain ⟨row, there, found⟩ := recorded.listed listing member
        exact ⟨row, List.mem_append_left _ there, found⟩
    | refused status message =>
      exact recorded.idle ⟨rfl, rfl, fun _ => rfl⟩ rfl same
  | createDevice claims projectName body =>
    simp only [serve] at served
    split at served
    · obtain ⟨rfl, rfl⟩ := Prod.mk.inj (Option.some.inj served)
      exact recorded.idle ⟨rfl, rfl, fun _ => rfl⟩ rfl same
    · next refusal begun =>
      obtain ⟨rfl, rfl⟩ := Prod.mk.inj (Option.some.inj served)
      obtain ⟨status, message, rfl⟩ := startCreateDevice_refused begun
      exact recorded.idle ⟨rfl, rfl, fun _ => rfl⟩ rfl same
  | insertDevice index id now =>
    rw [serve_insertDevice] at served
    obtain ⟨device, -, same_answer⟩ := Option.map_eq_some_iff.mp served
    obtain ⟨rfl, rfl⟩ := Prod.mk.inj same_answer
    have made : DeviceMade service.state.db _ := finishCreateDevice_made device id now
    generalize finishCreateDevice service.state.db device id now = result at made
    cases made with
    | made row active =>
      refine ⟨?_, ?_, ?_, ⟨recorded.active.1, ?_⟩, recorded.named, recorded.listed⟩
      · rw [projectsMade_append]
        exact recorded.projects.trans (List.append_nil _).symm
      · rw [devicesMade_append]
        exact congrArg (· ++ [row]) recorded.vehicles
      · rw [openItems_append]
        exact recorded.requests
      · exact forall_snoc recorded.active.2 active
    | refused status message =>
      exact recorded.idle ⟨rfl, rfl, fun _ => rfl⟩ rfl same
  | createAssistance claims body id now =>
    rw [serve_createAssistance] at served
    obtain ⟨rfl, rfl⟩ := Prod.mk.inj (Option.some.inj served)
    have made : RequestMade service.state.db _ :=
      handleCreateAssistance_made readUuid claims body id now
    generalize handleCreateAssistance readUuid service.state.db claims body id now = result at made
    cases made with
    | made row pending =>
      refine ⟨?_, ?_, ?_, recorded.active, recorded.named, recorded.listed⟩
      · rw [projectsMade_append]
        exact recorded.projects.trans (List.append_nil _).symm
      · rw [devicesMade_append]
        exact recorded.vehicles.trans (List.append_nil _).symm
      · rw [openItems_append]
        simp only [List.filter_append, List.map_append, recorded.requests]
        simp [pending, settle]
    | refused status message =>
      exact recorded.idle ⟨rfl, rfl, fun _ => rfl⟩ rfl same
  | respondAssistance claims requestID body now =>
    rw [serve_respondAssistance] at served
    obtain ⟨rfl, rfl⟩ := Prod.mk.inj (Option.some.inj served)
    have answer : RequestAnswered service.state.db claims requestID _ :=
      handleRespondAssistance_answered claims requestID body now
    generalize handleRespondAssistance service.state.db claims requestID body now = result at answer
    cases answer with
    | answered caller approved instruction at_time called =>
      subst called
      refine ⟨?_, ?_, ?_, recorded.active, recorded.named, recorded.listed⟩
      · rw [projectsMade_append]
        exact recorded.projects.trans (List.append_nil _).symm
      · rw [devicesMade_append]
        exact recorded.vehicles.trans (List.append_nil _).symm
      · rw [openItems_append]
        simp only [answered_pending, recorded.requests]
        rfl
    | refused status message =>
      refine recorded.idle ⟨rfl, rfl, fun _ => ?_⟩ rfl same
      cases claims <;> rfl

end Steps

/-! ## What a handler shows -/

def Refusal (reply : Reply) : Prop := ∃ status message, reply = .response (.refused status message)

section Reads

variable {db : Database} {claims : Option Claims} {reply : Reply}

theorem query_some {R : Type} [DecidableEq R] {texts : List String} {createdAt : R → Nat}
    {picked rows : List R} {result : Except DbError (List R)}
    (asked : query texts createdAt picked rows = some result) :
    result = .error .rejected ∨ result = .ok rows ∧ Selects createdAt picked rows := by
  unfold query at asked
  split_ifs at asked with rejected selects
  · exact .inl (Option.some.inj asked).symm
  · exact .inr ⟨(Option.some.inj asked).symm, selects⟩

theorem handleListProjects_shows {rows : List Project}
    (listed : handleListProjects db claims rows = some reply) :
    Refusal reply ∨ ∃ caller, claims = some caller ∧ reply = .projects rows rows.length ∧
      Selects Project.createdAt (db.projectsOf caller.orgID) rows := by
  cases claims with
  | none => exact .inl ⟨_, _, (Option.some.inj listed).symm⟩
  | some caller =>
    obtain ⟨result, asked, rfl⟩ := Option.map_eq_some_iff.mp listed
    rcases query_some asked with rfl | ⟨rfl, selects⟩
    · exact .inl ⟨_, _, rfl⟩
    · exact .inr ⟨caller, rfl, rfl, selects⟩

theorem startListProjectDevices_refused {projectName : String}
    (refused : startListProjectDevices db claims projectName = .error reply) : Refusal reply := by
  cases claims with
  | none => exact ⟨_, _, (Except.error.inj refused).symm⟩
  | some caller =>
    simp only [startListProjectDevices] at refused
    split_ifs at refused
    · exact ⟨_, _, (Except.error.inj refused).symm⟩
    · split at refused
      · exact ⟨_, _, (Except.error.inj refused).symm⟩
      · exact ⟨_, _, (Except.error.inj refused).symm⟩
      · cases refused

theorem finishListProjectDevices_shows {listing : PendingListing} {rows : List Vehicle}
    (listed : finishListProjectDevices db listing rows = some reply) :
    Refusal reply ∨ reply = .devices rows rows.length ∧
      Selects Vehicle.createdAt (db.devicesOf listing.projectID listing.orgID) rows := by
  obtain ⟨result, asked, rfl⟩ := Option.map_eq_some_iff.mp listed
  rcases query_some asked with rfl | ⟨rfl, selects⟩
  · exact .inl ⟨_, _, rfl⟩
  · exact .inr ⟨rfl, selects⟩

theorem handleListVehicles_shows {rows : List Vehicle}
    (listed : handleListVehicles db claims rows = some reply) :
    Refusal reply ∨ ∃ caller, claims = some caller ∧ reply = .vehicles rows rows.length ∧
      Selects Vehicle.createdAt (db.vehiclesOf caller.orgID) rows := by
  cases claims with
  | none => exact .inl ⟨_, _, (Option.some.inj listed).symm⟩
  | some caller =>
    obtain ⟨result, asked, rfl⟩ := Option.map_eq_some_iff.mp listed
    rcases query_some asked with rfl | ⟨rfl, selects⟩
    · exact .inl ⟨_, _, rfl⟩
    · exact .inr ⟨caller, rfl, rfl, selects⟩

theorem handleGetVehicle_shows (readUuid : String → Option Uuid) (db : Database)
    (claims : Option Claims) (vehicleID : String) :
    Refusal (handleGetVehicle readUuid db claims vehicleID) ∨ ∃ caller row, claims = some caller ∧
      handleGetVehicle readUuid db claims vehicleID = .vehicle row ∧ row ∈ db.vehicles ∧
        row.orgID = caller.orgID := by
  cases claims with
  | none => exact .inl ⟨_, _, rfl⟩
  | some caller =>
    simp only [handleGetVehicle]
    split_ifs
    · exact .inl ⟨_, _, rfl⟩
    · split <;> exact .inl ⟨_, _, rfl⟩
    · split
      · exact .inl ⟨_, _, rfl⟩
      · split
        · exact .inl ⟨_, _, rfl⟩
        · next row found =>
          have matched := List.find?_some found
          simp only [Bool.and_eq_true, decide_eq_true_eq] at matched
          exact .inr ⟨caller, row, rfl, rfl, List.mem_of_find?_eq_some found, matched.2⟩

theorem handleListAssistance_shows {rows : List AssistanceRow}
    (listed : handleListAssistance db claims rows = some reply) :
    Refusal reply ∨ ∃ caller, claims = some caller ∧
      reply = .requests (rows.map AssistanceRow.item) ∧
        Selects AssistanceRow.createdAt (db.requestsOf caller.orgID) rows := by
  cases claims with
  | none => exact .inl ⟨_, _, (Option.some.inj listed).symm⟩
  | some caller =>
    obtain ⟨result, asked, rfl⟩ := Option.map_eq_some_iff.mp listed
    rcases query_some asked with rfl | ⟨rfl, selects⟩
    · exact .inl ⟨_, _, rfl⟩
    · exact .inr ⟨caller, rfl, rfl, selects⟩

end Reads

/-! ## Whole runs -/

section Runs

variable {service next : Service} {history : History} {call : Call}

theorem Refusal.idle {reply : Reply} (refused : Refusal reply) : Idle call (some reply) := by
  obtain ⟨status, message, rfl⟩ := refused
  refine ⟨rfl, rfl, fun items => ?_⟩
  cases call <;> rfl

theorem Recorded.step {reply : Option Reply} (recorded : Recorded (service, history))
    (served : serveCall readUuid service call = some (next, reply)) :
    Recorded (next, history ++ [(call, reply)]) := by
  cases call with
  | write action =>
    obtain ⟨⟨state, response⟩, done, same⟩ := Option.map_eq_some_iff.mp served
    obtain ⟨rfl, rfl⟩ := Prod.mk.inj same
    exact recorded.write done
  | listProjects claims rows =>
    obtain ⟨answer, listed, same⟩ := Option.map_eq_some_iff.mp served
    obtain ⟨rfl, rfl⟩ := Prod.mk.inj same
    refine recorded.idle ?_ rfl fun _ member => .inl member
    rcases handleListProjects_shows listed with refused | ⟨_, _, rfl, _⟩
    · exact refused.idle
    · exact ⟨rfl, rfl, fun _ => rfl⟩
  | listDevices claims projectName =>
    simp only [serveCall] at served
    split at served
    · next listing begun =>
      obtain ⟨rfl, rfl⟩ := Prod.mk.inj (Option.some.inj served)
      obtain ⟨caller, -, org, named, selected⟩ := startListProjectDevices_ok begun
      refine recorded.idle ⟨rfl, rfl, fun _ => rfl⟩ rfl fun other member => ?_
      rcases List.mem_append.mp member with old | new
      · exact .inl old
      · obtain rfl := List.mem_singleton.mp new
        obtain ⟨row, there, found⟩ := selectProject_named selected
        exact .inr ⟨row, there, found.1, found.2.1.trans org.symm, found.2.2.trans named.symm⟩
    · next begun =>
      obtain ⟨rfl, rfl⟩ := Prod.mk.inj (Option.some.inj served)
      exact recorded.idle (startListProjectDevices_refused begun).idle rfl fun _ member => .inl member
  | selectDevices listing rows =>
    obtain ⟨pending, -, done⟩ := Option.bind_eq_some_iff.mp served
    obtain ⟨answer, listed, same⟩ := Option.map_eq_some_iff.mp done
    obtain ⟨rfl, rfl⟩ := Prod.mk.inj same
    refine recorded.idle ?_ rfl fun _ member => .inl (List.mem_of_mem_eraseIdx member)
    rcases finishListProjectDevices_shows listed with refused | ⟨rfl, _⟩
    · exact refused.idle
    · exact ⟨rfl, rfl, fun _ => rfl⟩
  | listVehicles claims rows =>
    obtain ⟨answer, listed, same⟩ := Option.map_eq_some_iff.mp served
    obtain ⟨rfl, rfl⟩ := Prod.mk.inj same
    refine recorded.idle ?_ rfl fun _ member => .inl member
    rcases handleListVehicles_shows listed with refused | ⟨_, _, rfl, _⟩
    · exact refused.idle
    · exact ⟨rfl, rfl, fun _ => rfl⟩
  | getVehicle claims vehicleID =>
    obtain ⟨rfl, rfl⟩ := Prod.mk.inj (Option.some.inj served)
    refine recorded.idle ?_ rfl fun _ member => .inl member
    rcases handleGetVehicle_shows _ _ _ vehicleID with refused | ⟨_, _, _, same, _⟩
    · exact refused.idle
    · rw [same]
      exact ⟨rfl, rfl, fun _ => rfl⟩
  | listAssistance claims rows =>
    obtain ⟨answer, listed, same⟩ := Option.map_eq_some_iff.mp served
    obtain ⟨rfl, rfl⟩ := Prod.mk.inj same
    refine recorded.idle ?_ rfl fun _ member => .inl member
    rcases handleListAssistance_shows listed with refused | ⟨_, _, rfl, _⟩
    · exact refused.idle
    · exact ⟨rfl, rfl, fun _ => rfl⟩

theorem Recorded.projectsOf (recorded : Recorded (service, history)) (org : String) :
    service.state.db.projectsOf org = (projectsMade history).filter fun row => row.orgID = org := by
  rw [← recorded.projects]
  exact List.filter_congr fun row member => by simp [recorded.active.1 row member]

theorem Recorded.vehiclesOf (recorded : Recorded (service, history)) (org : String) :
    service.state.db.vehiclesOf org = (devicesMade history).filter fun row => row.orgID = org := by
  rw [← recorded.vehicles]
  exact List.filter_congr fun row member => by simp [recorded.active.2 row member]

theorem Recorded.devicesOf (recorded : Recorded (service, history)) (projectID : Uuid)
    (org : String) : service.state.db.devicesOf projectID org =
      (devicesMade history).filter fun row => row.projectID = projectID && row.orgID = org := by
  rw [← recorded.vehicles]
  exact List.filter_congr fun row member => by simp [recorded.active.2 row member]

theorem Recorded.requestsOf (recorded : Recorded (service, history)) (org : String) :
    (service.state.db.requestsOf org).map AssistanceRow.item =
      (openItems history).filter fun item => item.orgID = org := by
  rw [← recorded.requests, List.filter_map, List.filter_filter]
  rfl

theorem Recorded.shown {reply : Reply} (recorded : Recorded (service, history))
    (served : serveCall readUuid service call = some (next, some reply)) {org projectName : String}
    (asked : asks service call = some (org, projectName)) : Shown history org projectName reply := by
  cases call with
  | write action => cases asked
  | listDevices claims projectName => cases asked
  | listProjects claims rows =>
    obtain ⟨answer, listed, same⟩ := Option.map_eq_some_iff.mp served
    obtain rfl := Option.some.inj (Prod.mk.inj same).2
    rcases handleListProjects_shows listed with ⟨_, _, rfl⟩ | ⟨caller, rfl, rfl, selects⟩
    · exact ⟨_, _, rfl⟩
    · obtain ⟨rfl, rfl⟩ := Prod.mk.inj (Option.some.inj asked)
      rw [recorded.projectsOf] at selects
      exact ⟨selects, rfl⟩
  | selectDevices listing rows =>
    obtain ⟨pending, found, done⟩ := Option.bind_eq_some_iff.mp served
    obtain ⟨answer, listed, same⟩ := Option.map_eq_some_iff.mp done
    obtain rfl := Option.some.inj (Prod.mk.inj same).2
    rw [asks, found] at asked
    obtain ⟨rfl, rfl⟩ := Prod.mk.inj (Option.some.inj asked)
    rcases finishListProjectDevices_shows listed with ⟨_, _, rfl⟩ | ⟨rfl, selects⟩
    · exact ⟨_, _, rfl⟩
    · obtain ⟨project, made, id, org, name⟩ :=
        recorded.listed pending (List.mem_of_getElem? found)
      have only (other : Project) (member : other ∈ projectsMade history)
          (same_org : other.orgID = pending.orgID) (same_name : other.name = pending.projectName) :
          other = project := by
        rw [← recorded.projects] at member
        refine List.inj_on_of_nodup_map recorded.named member made ?_
        simp only [same_org, same_name, org, name]
      rw [recorded.devicesOf, ← id] at selects
      exact ⟨project, recorded.projects ▸ made, org, name, only, selects, rfl⟩
  | listVehicles claims rows =>
    obtain ⟨answer, listed, same⟩ := Option.map_eq_some_iff.mp served
    obtain rfl := Option.some.inj (Prod.mk.inj same).2
    rcases handleListVehicles_shows listed with ⟨_, _, rfl⟩ | ⟨caller, rfl, rfl, selects⟩
    · exact ⟨_, _, rfl⟩
    · obtain ⟨rfl, rfl⟩ := Prod.mk.inj (Option.some.inj asked)
      rw [recorded.vehiclesOf] at selects
      exact ⟨selects, rfl⟩
  | getVehicle claims vehicleID =>
    obtain rfl := Option.some.inj (Prod.mk.inj (Option.some.inj served)).2
    rcases handleGetVehicle_shows readUuid service.state.db claims vehicleID with ⟨_, _, same⟩ |
      ⟨caller, row, rfl, same, made, org⟩
    · rw [same]
      exact ⟨_, _, rfl⟩
    · obtain ⟨rfl, rfl⟩ := Prod.mk.inj (Option.some.inj asked)
      rw [same]
      exact ⟨recorded.vehicles ▸ made, org⟩
  | listAssistance claims rows =>
    obtain ⟨answer, listed, same⟩ := Option.map_eq_some_iff.mp served
    obtain rfl := Option.some.inj (Prod.mk.inj same).2
    rcases handleListAssistance_shows listed with ⟨_, _, rfl⟩ | ⟨caller, rfl, rfl, selects⟩
    · exact ⟨_, _, rfl⟩
    · obtain ⟨rfl, rfl⟩ := Prod.mk.inj (Option.some.inj asked)
      have items := selects.map AssistanceRow.item AssistanceItem.createdAt fun _ => rfl
      rw [recorded.requestsOf] at items
      exact items

def twoMade : History :=
  [(.write (.createProject (userOf "org-a") surveyBody 1 0),
      some (.response (.project (surveyOf "org-a" 1)))),
    (.write (.createProject (userOf "org-b") surveyBody 2 0),
      some (.response (.project (surveyOf "org-b" 2))))]

end Runs

end SystemScale.Cloud.Fleet

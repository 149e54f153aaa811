import Mathlib.Data.List.Find
import SystemScale.Cloud.FleetReads
import SystemScale.Lib.Purge

set_option autoImplicit false

/-!
# An organisation alone with fleet-api

What callers of one organisation are answered does not depend on the calls of the others, but for
ids that only one row may have.
-/

namespace SystemScale.Cloud.Fleet

open Purge (place)

variable {readUuid : String → Option Uuid}

/-! ## The part of one organisation -/

def byOrg (org : String) (claims : Option Claims) : Bool :=
  claims.any fun caller => decide (caller.orgID = org)

def Database.part (db : Database) (org : String) : Database where
  projects := db.projects.filter fun row => row.orgID = org
  vehicles := db.vehicles.filter fun row => row.orgID = org
  assistanceRequests := db.assistanceRequests.filter fun row => row.orgID = org

def State.part (state : State) (org : String) : State :=
  ⟨state.db.part org, state.devices.filter fun device => device.orgID = org⟩

def Service.part (org : String) (service : Service) : Service :=
  ⟨service.state.part org, service.listings.filter fun listing => listing.orgID = org⟩

/-- Whether a caller of the organisation is answered. -/
def ownAction (org : String) (state : State) : Action → Bool
  | .createProject claims _ _ _ => byOrg org claims
  | .createDevice claims _ _ => byOrg org claims
  | .insertDevice device _ _ => state.devices[device]?.any fun pending => decide (pending.orgID = org)
  | .createAssistance claims _ _ _ => byOrg org claims
  | .respondAssistance claims _ _ _ => byOrg org claims

def ownCall (org : String) (service : Service) : Call → Bool
  | .write action => ownAction org service.state action
  | .listProjects claims _ => byOrg org claims
  | .listDevices claims _ => byOrg org claims
  | .selectDevices listing _ =>
    service.listings[listing]?.any fun pending => decide (pending.orgID = org)
  | .listVehicles claims _ => byOrg org claims
  | .getVehicle claims _ => byOrg org claims
  | .listAssistance claims _ => byOrg org claims

/-- The call where only those of the organisation are made: what is pending has another place. -/
def renamed (org : String) (service : Service) : Call → Call
  | .write (.insertDevice device id now) =>
    .write (.insertDevice
      (place (fun pending => decide (pending.orgID = org)) service.state.devices device) id now)
  | .selectDevices listing rows =>
    .selectDevices (place (fun pending => decide (pending.orgID = org)) service.listings listing) rows
  | call => call

/-- The ids of a row that is to be inserted are not those of another organisation's row. -/
def Unclaimed (org : String) (service : Service) : Call → Prop
  | .write (.createProject _ _ id _) =>
    ∀ row ∈ service.state.db.projects, row.orgID ≠ org → row.id ≠ id
  | .write (.insertDevice _ id _) =>
    ∀ row ∈ service.state.db.vehicles, row.orgID ≠ org → row.id ≠ id
  | .write (.createAssistance _ body id _) =>
    ∀ row ∈ service.state.db.assistanceRequests, row.orgID ≠ org →
      row.id ≠ id ∧ ∀ req, decodeCreateAssistance body = some req → row.requestID ≠ req.requestID
  | _ => True

/-- The condition is on the organisation's own calls. -/
def OwnUnclaimed (org : String) (service : Service) (call : Call) : Prop :=
  ownCall org service call = true → Unclaimed org service call

section Parts

variable {db db' : Database} {org : String}

theorem byOrg_some {claims : Option Claims} (own : byOrg org claims = true) :
    ∃ caller, claims = some caller ∧ caller.orgID = org := by
  cases claims with
  | none => cases own
  | some caller => exact ⟨caller, rfl, of_decide_eq_true own⟩

theorem byOrg_other {caller : Claims} (other : byOrg org (some caller) = false) :
    caller.orgID ≠ org :=
  of_decide_eq_false other

-- What is looked for is in the part if it is nowhere else.
theorem any_part {R : Type} {rows : List R} {orgOf : R → String} {found : R → Bool}
    (elsewhere : ∀ row ∈ rows, orgOf row ≠ org → found row = false) :
    ((rows.filter fun row => decide (orgOf row = org)).any found) = rows.any found := by
  rw [List.any_filter, Bool.eq_iff_iff, List.any_eq_true, List.any_eq_true]
  constructor
  · rintro ⟨row, member, both⟩
    exact ⟨row, member, (Bool.and_eq_true _ _ ▸ both).2⟩
  · rintro ⟨row, member, here⟩
    refine ⟨row, member, ?_⟩
    by_cases own : orgOf row = org
    · simp [own, here]
    · rw [elsewhere row member own] at here
      cases here

theorem find_part {R : Type} {rows : List R} {orgOf : R → String} {found : R → Bool}
    (elsewhere : ∀ row ∈ rows, orgOf row ≠ org → found row = false) :
    (rows.filter fun row => decide (orgOf row = org)).find? found = rows.find? found := by
  rw [List.find?_filter]
  refine List.find?_congr fun row member => ?_
  by_cases own : orgOf row = org
  · simp [own]
  · simp [own, elsewhere row member own]

theorem filter_part {R : Type} {rows : List R} {orgOf : R → String} {picked : R → Bool}
    (elsewhere : ∀ row ∈ rows, orgOf row ≠ org → picked row = false) :
    (rows.filter fun row => decide (orgOf row = org)).filter picked = rows.filter picked := by
  rw [List.filter_filter]
  refine List.filter_congr fun row member => ?_
  by_cases own : orgOf row = org
  · simp [own]
  · simp [own, elsewhere row member own]

theorem append_part_own {R : Type} {rows : List R} {orgOf : R → String} {row : R}
    (own : orgOf row = org) :
    ((rows ++ [row]).filter fun row => decide (orgOf row = org)) =
      (rows.filter fun row => decide (orgOf row = org)) ++ [row] := by
  simp [own]

theorem append_part_other {R : Type} {rows : List R} {orgOf : R → String} {row : R}
    (other : orgOf row ≠ org) :
    ((rows ++ [row]).filter fun row => decide (orgOf row = org)) =
      rows.filter fun row => decide (orgOf row = org) := by
  simp [other]

/-! ## Statements on the part -/

theorem insertProject_part {id : Uuid} {now : Nat} {name displayName : String}
    (fresh : ∀ row ∈ db.projects, row.orgID ≠ org → row.id ≠ id) :
    (db.part org).insertProject id now org name displayName =
      (db.insertProject id now org name displayName).map fun (db, row) => (db.part org, row) := by
  have taken : ((db.part org).projects.any fun row =>
      row.id = id || (row.orgID = org && row.name = name)) =
      db.projects.any fun row => row.id = id || (row.orgID = org && row.name = name) := by
    refine any_part fun row member other => ?_
    simp [fresh row member other, other]
  unfold Database.insertProject
  rw [taken]
  split_ifs
  · rfl
  · rfl
  · simp only [Except.map, Database.part, append_part_own]

theorem insertProject_other {id : Uuid} {now : Nat} {orgID name displayName : String} {row : Project}
    (other : orgID ≠ org)
    (inserted : db.insertProject id now orgID name displayName = .ok (db', row)) :
    db'.part org = db.part org := by
  have own : row.orgID = orgID := by
    unfold Database.insertProject at inserted
    split_ifs at inserted
    obtain ⟨-, rfl⟩ := Prod.mk.inj (Except.ok.inj inserted)
    rfl
  obtain rfl := insertProject_ok inserted
  rw [← own] at other
  simp only [Database.part, append_part_other other]

theorem selectProject_part (name : String) :
    (db.part org).selectProject name org = db.selectProject name org := by
  have found : ((db.part org).projects.find? fun row =>
      row.name = name && row.orgID = org && row.active) =
      db.projects.find? fun row => row.name = name && row.orgID = org && row.active := by
    refine find_part fun row _ other => ?_
    simp [other]
  rw [Database.selectProject, Database.selectProject, found]

theorem insertVehicle_part {id projectID : Uuid} {now : Nat}
    {displayName vehicleType adapterType region : String}
    (fresh : ∀ row ∈ db.vehicles, row.orgID ≠ org → row.id ≠ id)
    (owned : db.OwnProject projectID org) :
    (db.part org).insertVehicle id now org projectID displayName vehicleType adapterType region =
      (db.insertVehicle id now org projectID displayName vehicleType adapterType region).map
        fun (db, row) => (db.part org, row) := by
  have taken : ((db.part org).vehicles.any fun row => row.id = id) =
      db.vehicles.any fun row => row.id = id := by
    refine any_part fun row member other => ?_
    simp [fresh row member other]
  obtain ⟨project, member, named, own⟩ := owned
  have there : (db.projects.any fun row => row.id = projectID) = true :=
    List.any_eq_true.mpr ⟨project, member, decide_eq_true named⟩
  have kept : ((db.part org).projects.any fun row => row.id = projectID) = true :=
    List.any_eq_true.mpr ⟨project, List.mem_filter.mpr ⟨member, decide_eq_true own⟩,
      decide_eq_true named⟩
  unfold Database.insertVehicle
  rw [taken, there, kept]
  split_ifs
  · rfl
  · rfl
  · simp only [Except.map, Database.part, append_part_own]
  · contradiction

theorem insertVehicle_other {id projectID : Uuid} {now : Nat}
    {orgID displayName vehicleType adapterType region : String} {row : Vehicle} (other : orgID ≠ org)
    (inserted : db.insertVehicle id now orgID projectID displayName vehicleType adapterType region =
      .ok (db', row)) : db'.part org = db.part org := by
  obtain ⟨rfl, own, -⟩ := insertVehicle_ok inserted
  rw [← own] at other
  simp only [Database.part, append_part_other other]

theorem insertAssistance_part {id : Uuid} {now : Nat} {requestID deviceID projectID reason : String}
    {timeoutS : Int}
    (fresh : ∀ row ∈ db.assistanceRequests, row.orgID ≠ org →
      row.id ≠ id ∧ row.requestID ≠ requestID) :
    (db.part org).insertAssistance readUuid id now requestID deviceID projectID org reason timeoutS =
      (db.insertAssistance readUuid id now requestID deviceID projectID org reason timeoutS).map
        fun (db, row) => (db.part org, row) := by
  have taken : ((db.part org).assistanceRequests.any fun row =>
      row.id = id || row.requestID = requestID) =
      db.assistanceRequests.any fun row => row.id = id || row.requestID = requestID := by
    refine any_part fun row member other => ?_
    simp [fresh row member other]
  unfold Database.insertAssistance
  split
  · rfl
  · rfl
  · rw [taken]
    split_ifs
    · rfl
    · rfl
    · simp only [Except.map, Database.part, append_part_own]

theorem insertAssistance_other {id : Uuid} {now : Nat}
    {requestID deviceID projectID orgID reason : String} {timeoutS : Int} {row : AssistanceRow}
    (other : orgID ≠ org)
    (inserted : db.insertAssistance readUuid id now requestID deviceID projectID orgID reason timeoutS =
      .ok (db', row)) : db'.part org = db.part org := by
  obtain ⟨rfl, -, -, own, -⟩ := insertAssistance_ok inserted
  rw [← own] at other
  simp only [Database.part, append_part_other other]

-- An answer to a request leaves the row in its organisation.
theorem filter_answered {rows : List AssistanceRow} {requestID orgID : String} {approved : Bool}
    {instruction : String} {now : Nat} :
    ((rows.map fun row => if row.open requestID orgID then row.respond approved instruction now
      else row).filter fun row => decide (row.orgID = org)) =
      (rows.filter fun row => decide (row.orgID = org)).map fun row =>
        if row.open requestID orgID then row.respond approved instruction now else row := by
  rw [List.filter_map]
  refine congrArg _ (List.filter_congr fun row _ => ?_)
  simp only [Function.comp]
  split_ifs <;> rfl

theorem updateAssistance_part {now : Nat} {approved : Bool} {instruction requestID : String} :
    (db.part org).updateAssistance now approved instruction requestID org =
      (db.updateAssistance now approved instruction requestID org).map
        fun (db, n) => (db.part org, n) := by
  have counted : (db.part org).assistanceRequests.countP (AssistanceRow.open requestID org) =
      db.assistanceRequests.countP (AssistanceRow.open requestID org) := by
    rw [Database.part, List.countP_filter]
    refine List.countP_congr fun row _ => ?_
    simp only [AssistanceRow.open, Bool.and_eq_true, decide_eq_true_eq]
    tauto
  unfold Database.updateAssistance
  rw [counted]
  split_ifs
  · rfl
  · simp only [Except.map, Database.part, filter_answered]

theorem updateAssistance_other {now n : Nat} {approved : Bool} {instruction requestID orgID : String}
    (other : orgID ≠ org)
    (updated : db.updateAssistance now approved instruction requestID orgID = .ok (db', n)) :
    db'.part org = db.part org := by
  unfold Database.updateAssistance at updated
  split_ifs at updated
  obtain ⟨rfl, -⟩ := Prod.mk.inj (Except.ok.inj updated)
  simp only [Database.part, filter_answered]
  congr 1
  refine (List.map_congr_left fun row member => ?_).trans (List.map_id _)
  have own : row.orgID = org := of_decide_eq_true (List.mem_filter.mp member).2
  have closed : row.open requestID orgID = false := by
    simp [AssistanceRow.open, own, Ne.symm other]
  simp [closed]

end Parts

/-! ## Calls that write -/

/-- An answer and the part of the database behind it. -/
def partly {R : Type} (org : String) (result : Database × R) : Database × R :=
  (result.1.part org, result.2)

section Handlers

variable {db : Database} {org : String} {caller : Claims}

theorem handleCreateProject_part {body : List Char} {id : Uuid} {now : Nat} (own : caller.orgID = org)
    (fresh : ∀ row ∈ db.projects, row.orgID ≠ org → row.id ≠ id) :
    handleCreateProject (db.part org) (some caller) body id now =
      partly org (handleCreateProject db (some caller) body id now) := by
  subst own
  simp only [handleCreateProject]
  cases decodeStruct CreateProjectRequest.set ⟨"", ""⟩ body with
  | none => rfl
  | some req =>
    simp only [insertProject_part fresh]
    split_ifs
    · rfl
    · cases db.insertProject id now caller.orgID req.name req.displayName with
      | ok made => rfl
      | error error =>
        simp only [Except.map]
        split_ifs <;> rfl

theorem handleCreateProject_other {claims : Option Claims} {body : List Char} {id : Uuid} {now : Nat}
    (other : byOrg org claims = false) :
    (handleCreateProject db claims body id now).1.part org = db.part org := by
  cases claims with
  | none => rfl
  | some caller =>
    simp only [handleCreateProject]
    cases decodeStruct CreateProjectRequest.set ⟨"", ""⟩ body with
    | none => rfl
    | some req =>
      simp only
      split_ifs
      · rfl
      · cases is : db.insertProject id now caller.orgID req.name req.displayName with
        | ok made => exact insertProject_other (byOrg_other other) is
        | error error =>
        simp only
        split_ifs <;> rfl

theorem startCreateDevice_part {projectName : String} {body : List Char} (own : caller.orgID = org) :
    startCreateDevice (db.part org) (some caller) projectName body =
      startCreateDevice db (some caller) projectName body := by
  subst own
  simp only [startCreateDevice, selectProject_part]

theorem finishCreateDevice_part {device : PendingDevice} {id : Uuid} {now : Nat}
    (own : device.orgID = org) (fresh : ∀ row ∈ db.vehicles, row.orgID ≠ org → row.id ≠ id)
    (owned : db.OwnProject device.projectID org) :
    finishCreateDevice (db.part org) device id now =
      partly org (finishCreateDevice db device id now) := by
  subst own
  simp only [finishCreateDevice, insertVehicle_part fresh owned]
  cases db.insertVehicle id now device.orgID device.projectID device.displayName device.vehicleType
    device.adapterType device.region <;> rfl

theorem finishCreateDevice_other {device : PendingDevice} {id : Uuid} {now : Nat}
    (other : device.orgID ≠ org) :
    (finishCreateDevice db device id now).1.part org = db.part org := by
  simp only [finishCreateDevice]
  cases is : db.insertVehicle id now device.orgID device.projectID device.displayName
    device.vehicleType device.adapterType device.region with
  | ok made => exact insertVehicle_other other is
  | error error => rfl

theorem handleCreateAssistance_part {body : List Char} {id : Uuid} {now : Nat}
    (own : caller.orgID = org)
    (fresh : ∀ row ∈ db.assistanceRequests, row.orgID ≠ org →
      row.id ≠ id ∧ ∀ req, decodeCreateAssistance body = some req → row.requestID ≠ req.requestID) :
    handleCreateAssistance readUuid (db.part org) (some caller) body id now =
      partly org (handleCreateAssistance readUuid db (some caller) body id now) := by
  subst own
  simp only [handleCreateAssistance]
  cases decoded : decodeCreateAssistance body with
  | none => rfl
  | some req =>
    have apart : ∀ row ∈ db.assistanceRequests, row.orgID ≠ caller.orgID →
        row.id ≠ id ∧ row.requestID ≠ req.requestID := fun row member other =>
      ⟨(fresh row member other).1, (fresh row member other).2 req decoded⟩
    simp only [insertAssistance_part apart]
    cases db.insertAssistance readUuid id now req.requestID req.deviceID req.projectID caller.orgID
      req.reason (if req.timeoutS ≤ 0 then 120 else req.timeoutS) with
    | ok made => rfl
    | error error =>
      simp only [Except.map]
      split_ifs <;> rfl

theorem handleCreateAssistance_other {claims : Option Claims} {body : List Char} {id : Uuid}
    {now : Nat} (other : byOrg org claims = false) :
    (handleCreateAssistance readUuid db claims body id now).1.part org = db.part org := by
  cases claims with
  | none => rfl
  | some caller =>
    simp only [handleCreateAssistance]
    cases decodeCreateAssistance body with
    | none => rfl
    | some req =>
      simp only
      cases is : db.insertAssistance readUuid id now req.requestID req.deviceID req.projectID
        caller.orgID req.reason (if req.timeoutS ≤ 0 then 120 else req.timeoutS) with
      | ok made => exact insertAssistance_other (byOrg_other other) is
      | error error =>
        simp only
        split_ifs <;> rfl

theorem handleRespondAssistance_part {assistanceID : String} {body : List Char} {now : Nat}
    (own : caller.orgID = org) :
    handleRespondAssistance (db.part org) (some caller) assistanceID body now =
      partly org (handleRespondAssistance db (some caller) assistanceID body now) := by
  subst own
  simp only [handleRespondAssistance]
  split_ifs
  · rfl
  · split
    · next approved instruction decoded =>
      simp only [updateAssistance_part]
      cases db.updateAssistance now approved instruction assistanceID caller.orgID with
      | ok updated =>
        simp only [Except.map]
        split_ifs <;> rfl
      | error error => rfl
    · rfl

theorem handleRespondAssistance_other {claims : Option Claims} {assistanceID : String}
    {body : List Char} {now : Nat} (other : byOrg org claims = false) :
    (handleRespondAssistance db claims assistanceID body now).1.part org = db.part org := by
  cases claims with
  | none => rfl
  | some caller =>
    simp only [handleRespondAssistance]
    split_ifs
    · rfl
    · split
      · next approved instruction decoded =>
        cases is : db.updateAssistance now approved instruction assistanceID caller.orgID with
        | ok updated =>
          have same := updateAssistance_other (byOrg_other other) is
          simp only
          split_ifs <;> exact same
        | error error => rfl
      · rfl

end Handlers

/-! ## One action -/

section Actions

variable {state next : State} {org : String} {action : Action} {response : Option Response}

/-- An action that writes, where only those of the organisation are made. -/
def renamedAction (org : String) (state : State) : Action → Action
  | .insertDevice device id now =>
    .insertDevice (place (fun pending => decide (pending.orgID = org)) state.devices device) id now
  | action => action

theorem startCreateDevice_org {db : Database} {claims : Option Claims} {projectName : String}
    {body : List Char} {device : PendingDevice}
    (begun : startCreateDevice db claims projectName body = .ok device) :
    ∃ caller, claims = some caller ∧ device.orgID = caller.orgID := by
  cases claims with
  | none => cases begun
  | some caller =>
    refine ⟨caller, rfl, ?_⟩
    simp only [startCreateDevice] at begun
    split_ifs at begun
    split at begun
    · cases begun
    · cases begun
    · split at begun
      · cases begun
      · next req decoded =>
        by_cases unnamed : req.displayName = ""
        · rw [if_pos unnamed] at begun
          cases begun
        · rw [if_neg unnamed] at begun
          obtain rfl := Except.ok.inj begun
          rfl

theorem serve_unseen (other : ownAction org state action = false)
    (served : serve readUuid state action = some (next, response)) :
    next.part org = state.part org := by
  cases action with
  | createProject claims body id now =>
    rw [serve_createProject] at served
    obtain ⟨rfl, -⟩ := Prod.mk.inj (Option.some.inj served)
    simp only [State.part, handleCreateProject_other other]
  | createDevice claims projectName body =>
    simp only [serve] at served
    split at served
    · next device begun =>
      obtain ⟨rfl, -⟩ := Prod.mk.inj (Option.some.inj served)
      obtain ⟨caller, rfl, same⟩ := startCreateDevice_org begun
      have elsewhere : device.orgID ≠ org := same ▸ byOrg_other other
      simp only [State.part, append_part_other elsewhere]
    · obtain ⟨rfl, -⟩ := Prod.mk.inj (Option.some.inj served)
      rfl
  | insertDevice index id now =>
    rw [serve_insertDevice] at served
    obtain ⟨device, found, same⟩ := Option.map_eq_some_iff.mp served
    obtain ⟨rfl, -⟩ := Prod.mk.inj same
    rw [ownAction, found] at other
    have elsewhere : device.orgID ≠ org := of_decide_eq_false other
    simp only [State.part, finishCreateDevice_other elsewhere]
    rw [Purge.filter_eraseIdx _ found other]
  | createAssistance claims body id now =>
    rw [serve_createAssistance] at served
    obtain ⟨rfl, -⟩ := Prod.mk.inj (Option.some.inj served)
    simp only [State.part, handleCreateAssistance_other other]
  | respondAssistance claims requestID body now =>
    rw [serve_respondAssistance] at served
    obtain ⟨rfl, -⟩ := Prod.mk.inj (Option.some.inj served)
    simp only [State.part, handleRespondAssistance_other other]

theorem serve_alike (prepared : Prepared state) (own : ownAction org state action = true)
    (unclaimed : Unclaimed org ⟨state, []⟩ (.write action))
    (served : serve readUuid state action = some (next, response)) :
    serve readUuid (state.part org) (renamedAction org state action) =
      some (next.part org, response) := by
  cases action with
  | createProject claims body id now =>
    obtain ⟨caller, rfl, here⟩ := byOrg_some own
    rw [serve_createProject] at served
    obtain ⟨rfl, rfl⟩ := Prod.mk.inj (Option.some.inj served)
    simp only [renamedAction, serve_createProject, State.part,
      handleCreateProject_part here unclaimed, partly]
  | createDevice claims projectName body =>
    obtain ⟨caller, rfl, here⟩ := byOrg_some own
    simp only [serve] at served
    simp only [renamedAction, serve, State.part, startCreateDevice_part here]
    split at served
    · next device begun =>
      obtain ⟨rfl, rfl⟩ := Prod.mk.inj (Option.some.inj served)
      obtain ⟨_, ⟨⟩, named⟩ := startCreateDevice_org begun
      simp only [append_part_own (named.trans here)]
    · next refused begun =>
      obtain ⟨rfl, rfl⟩ := Prod.mk.inj (Option.some.inj served)
      rfl
  | insertDevice index id now =>
    rw [serve_insertDevice] at served
    obtain ⟨device, found, same⟩ := Option.map_eq_some_iff.mp served
    obtain ⟨rfl, rfl⟩ := Prod.mk.inj same
    rw [ownAction, found] at own
    have kept : decide (device.orgID = org) = true := own
    have here : device.orgID = org := of_decide_eq_true kept
    have owned := prepared device (List.mem_of_getElem? found)
    rw [here] at owned
    simp only [renamedAction, serve_insertDevice, State.part,
      Purge.getElem_place (fun pending => decide (pending.orgID = org)) found kept,
      Option.map_some, finishCreateDevice_part here unclaimed owned, partly,
      Purge.eraseIdx_place (fun pending => decide (pending.orgID = org)) found kept]
  | createAssistance claims body id now =>
    obtain ⟨caller, rfl, here⟩ := byOrg_some own
    rw [serve_createAssistance] at served
    obtain ⟨rfl, rfl⟩ := Prod.mk.inj (Option.some.inj served)
    simp only [renamedAction, serve_createAssistance, State.part,
      handleCreateAssistance_part here unclaimed, partly]
  | respondAssistance claims requestID body now =>
    obtain ⟨caller, rfl, here⟩ := byOrg_some own
    rw [serve_respondAssistance] at served
    obtain ⟨rfl, rfl⟩ := Prod.mk.inj (Option.some.inj served)
    simp only [renamedAction, serve_respondAssistance, State.part,
      handleRespondAssistance_part here, partly]

end Actions

/-! ## Calls that read -/

section Reads

variable {db : Database} {org : String} {caller : Claims}

theorem projectsOf_part : (db.part org).projectsOf org = db.projectsOf org :=
  filter_part fun _ _ other => by simp [other]

theorem devicesOf_part (projectID : Uuid) :
    (db.part org).devicesOf projectID org = db.devicesOf projectID org :=
  filter_part fun _ _ other => by simp [other]

theorem vehiclesOf_part : (db.part org).vehiclesOf org = db.vehiclesOf org :=
  filter_part fun _ _ other => by simp [other]

theorem requestsOf_part : (db.part org).requestsOf org = db.requestsOf org :=
  filter_part fun _ _ other => by simp [other]

theorem selectVehicle_part (id : Uuid) :
    (db.part org).selectVehicle id org = db.selectVehicle id org :=
  find_part fun _ _ other => by simp [other]

theorem handleListProjects_part {rows : List Project} (own : caller.orgID = org) :
    handleListProjects (db.part org) (some caller) rows =
      handleListProjects db (some caller) rows := by
  subst own
  simp only [handleListProjects, projectsOf_part]

theorem startListProjectDevices_part {projectName : String} (own : caller.orgID = org) :
    startListProjectDevices (db.part org) (some caller) projectName =
      startListProjectDevices db (some caller) projectName := by
  subst own
  simp only [startListProjectDevices, selectProject_part]

theorem finishListProjectDevices_part {listing : PendingListing} {rows : List Vehicle}
    (own : listing.orgID = org) :
    finishListProjectDevices (db.part org) listing rows =
      finishListProjectDevices db listing rows := by
  subst own
  simp only [finishListProjectDevices, devicesOf_part]

theorem handleListVehicles_part {rows : List Vehicle} (own : caller.orgID = org) :
    handleListVehicles (db.part org) (some caller) rows =
      handleListVehicles db (some caller) rows := by
  subst own
  simp only [handleListVehicles, vehiclesOf_part]

theorem handleGetVehicle_part {vehicleID : String} (own : caller.orgID = org) :
    handleGetVehicle readUuid (db.part org) (some caller) vehicleID =
      handleGetVehicle readUuid db (some caller) vehicleID := by
  subst own
  simp only [handleGetVehicle, selectVehicle_part]

theorem handleListAssistance_part {rows : List AssistanceRow} (own : caller.orgID = org) :
    handleListAssistance (db.part org) (some caller) rows =
      handleListAssistance db (some caller) rows := by
  subst own
  simp only [handleListAssistance, requestsOf_part]

end Reads

/-! ## Whole runs -/

section Calls

variable {service next : Service} {org : String} {call : Call} {reply : Option Reply}

theorem serveCall_unseen (other : ownCall org service call = false)
    (served : serveCall readUuid service call = some (next, reply)) :
    next.part org = service.part org := by
  cases call with
  | write action =>
    obtain ⟨⟨state, response⟩, done, same⟩ := Option.map_eq_some_iff.mp served
    obtain ⟨rfl, -⟩ := Prod.mk.inj same
    simp only [Service.part, serve_unseen other done]
  | listProjects claims rows =>
    obtain ⟨_, -, same⟩ := Option.map_eq_some_iff.mp served
    rw [← (Prod.mk.inj same).1]
  | listDevices claims projectName =>
    simp only [serveCall] at served
    split at served
    · next listing begun =>
      obtain ⟨rfl, -⟩ := Prod.mk.inj (Option.some.inj served)
      obtain ⟨caller, rfl, named, -⟩ := startListProjectDevices_ok begun
      have elsewhere : listing.orgID ≠ org := named ▸ byOrg_other other
      simp only [Service.part, append_part_other elsewhere]
    · rw [← (Prod.mk.inj (Option.some.inj served)).1]
  | selectDevices listing rows =>
    obtain ⟨pending, found, done⟩ := Option.bind_eq_some_iff.mp served
    obtain ⟨_, -, same⟩ := Option.map_eq_some_iff.mp done
    obtain ⟨rfl, -⟩ := Prod.mk.inj same
    rw [ownCall, found] at other
    have gone : decide (pending.orgID = org) = false := other
    simp only [Service.part,
      Purge.filter_eraseIdx (fun pending => decide (pending.orgID = org)) found gone]
  | listVehicles claims rows =>
    obtain ⟨_, -, same⟩ := Option.map_eq_some_iff.mp served
    rw [← (Prod.mk.inj same).1]
  | getVehicle claims vehicleID => rw [← (Prod.mk.inj (Option.some.inj served)).1]
  | listAssistance claims rows =>
    obtain ⟨_, -, same⟩ := Option.map_eq_some_iff.mp served
    rw [← (Prod.mk.inj same).1]

theorem serveCall_alike (prepared : Prepared service.state)
    (unclaimed : OwnUnclaimed org service call) (own : ownCall org service call = true)
    (served : serveCall readUuid service call = some (next, reply)) :
    serveCall readUuid (service.part org) (renamed org service call) =
      some (next.part org, reply) := by
  cases call with
  | write action =>
    obtain ⟨⟨state, response⟩, done, same⟩ := Option.map_eq_some_iff.mp served
    obtain ⟨rfl, rfl⟩ := Prod.mk.inj same
    have write : renamed org service (.write action) =
        .write (renamedAction org service.state action) := by
      cases action <;> rfl
    have alone := serve_alike prepared own (by cases action <;> exact unclaimed own) done
    rw [write]
    simp only [serveCall, Service.part, alone, Option.map_some]
  | listProjects claims rows =>
    obtain ⟨caller, rfl, here⟩ := byOrg_some own
    obtain ⟨answer, listed, same⟩ := Option.map_eq_some_iff.mp served
    obtain ⟨rfl, rfl⟩ := Prod.mk.inj same
    simp only [renamed, serveCall, Service.part, State.part, handleListProjects_part here, listed,
      Option.map_some]
  | listDevices claims projectName =>
    obtain ⟨caller, rfl, here⟩ := byOrg_some own
    simp only [serveCall] at served
    simp only [renamed, serveCall, Service.part, State.part, startListProjectDevices_part here]
    split at served
    · next listing begun =>
      obtain ⟨rfl, rfl⟩ := Prod.mk.inj (Option.some.inj served)
      obtain ⟨_, ⟨⟩, named, -⟩ := startListProjectDevices_ok begun
      simp only [append_part_own (named.trans here)]
    · obtain ⟨rfl, rfl⟩ := Prod.mk.inj (Option.some.inj served)
      rfl
  | selectDevices listing rows =>
    obtain ⟨pending, found, done⟩ := Option.bind_eq_some_iff.mp served
    obtain ⟨answer, listed, same⟩ := Option.map_eq_some_iff.mp done
    obtain ⟨rfl, rfl⟩ := Prod.mk.inj same
    rw [ownCall, found] at own
    have kept : decide (pending.orgID = org) = true := own
    simp only [renamed, serveCall, Service.part,
      Purge.getElem_place (fun pending => decide (pending.orgID = org)) found kept,
      Option.bind_some, State.part, finishListProjectDevices_part (of_decide_eq_true kept), listed,
      Option.map_some,
      Purge.eraseIdx_place (fun pending => decide (pending.orgID = org)) found kept]
  | listVehicles claims rows =>
    obtain ⟨caller, rfl, here⟩ := byOrg_some own
    obtain ⟨answer, listed, same⟩ := Option.map_eq_some_iff.mp served
    obtain ⟨rfl, rfl⟩ := Prod.mk.inj same
    simp only [renamed, serveCall, Service.part, State.part, handleListVehicles_part here, listed,
      Option.map_some]
  | getVehicle claims vehicleID =>
    obtain ⟨caller, rfl, here⟩ := byOrg_some own
    obtain ⟨rfl, rfl⟩ := Prod.mk.inj (Option.some.inj served)
    simp only [renamed, serveCall, Service.part, State.part, handleGetVehicle_part here]
  | listAssistance claims rows =>
    obtain ⟨caller, rfl, here⟩ := byOrg_some own
    obtain ⟨answer, listed, same⟩ := Option.map_eq_some_iff.mp served
    obtain ⟨rfl, rfl⟩ := Prod.mk.inj same
    simp only [renamed, serveCall, Service.part, State.part, handleListAssistance_part here, listed,
      Option.map_some]

theorem serveCall_prepared (prepared : Prepared service.state)
    (served : serveCall readUuid service call = some (next, reply)) : Prepared next.state := by
  cases call with
  | write action =>
    obtain ⟨⟨state, response⟩, done, same⟩ := Option.map_eq_some_iff.mp served
    obtain ⟨rfl, -⟩ := Prod.mk.inj same
    exact step_prepared prepared (Option.map_eq_some_iff.mpr ⟨_, done, rfl⟩)
  | listDevices claims projectName =>
    simp only [serveCall] at served
    split at served <;>
    · obtain ⟨rfl, -⟩ := Prod.mk.inj (Option.some.inj served)
      exact prepared
  | selectDevices listing rows =>
    obtain ⟨pending, -, done⟩ := Option.bind_eq_some_iff.mp served
    obtain ⟨_, -, same⟩ := Option.map_eq_some_iff.mp done
    obtain ⟨rfl, -⟩ := Prod.mk.inj same
    exact prepared
  | getVehicle claims vehicleID =>
    obtain ⟨rfl, -⟩ := Prod.mk.inj (Option.some.inj served)
    exact prepared
  | listProjects claims rows =>
    obtain ⟨_, -, same⟩ := Option.map_eq_some_iff.mp served
    obtain ⟨rfl, -⟩ := Prod.mk.inj same
    exact prepared
  | listVehicles claims rows =>
    obtain ⟨_, -, same⟩ := Option.map_eq_some_iff.mp served
    obtain ⟨rfl, -⟩ := Prod.mk.inj same
    exact prepared
  | listAssistance claims rows =>
    obtain ⟨_, -, same⟩ := Option.map_eq_some_iff.mp served
    obtain ⟨rfl, -⟩ := Prod.mk.inj same
    exact prepared

end Calls

theorem fleet_unwinds (org : String) :
    Purge.Unwinds (serveCall readUuid) (ownCall org) (renamed org) (Service.part org)
      (fun service => Prepared service.state) (OwnUnclaimed org) where
  keeps prepared served := serveCall_prepared prepared served
  unseen _ _ served other := serveCall_unseen other served
  alike prepared unclaimed served own := serveCall_alike prepared unclaimed own served

def userOf (org : String) : Option Claims := some ⟨"u1", org, "operator", []⟩

def surveyBody : List Char := Json.Value.write goStyle (.object [("name", .string "survey")])

theorem decode_surveyBody :
    decodeStruct CreateProjectRequest.set ⟨"", ""⟩ surveyBody = some ⟨"survey", ""⟩ := by
  have read := goReader.first_write goStyle (.object [("name", .string "survey")])
    (by simp [Json.Value.Within, goReader])
  rw [decodeStruct, surveyBody, read]
  rfl

def surveyOf (org : String) (id : Uuid) : Project := ⟨id, org, "survey", "", 0, true⟩

/-- Two organisations have a project of one name, and one of them lists its projects. -/
def twoSurveys : List Call :=
  [.write (.createProject (userOf "org-a") surveyBody 1 0),
    .write (.createProject (userOf "org-b") surveyBody 2 0),
    .listProjects (userOf "org-b") [surveyOf "org-b" 2]]

def holding (projects : List Project) : Service := ⟨⟨⟨projects, [], []⟩, []⟩, []⟩

theorem first_survey :
    serveCall hexUuid opened (.write (.createProject (userOf "org-a") surveyBody 1 0)) =
      some (holding [surveyOf "org-a" 1], some (.response (.project (surveyOf "org-a" 1)))) := by
  simp only [serveCall, serve, handleCreateProject, userOf, decode_surveyBody]
  rfl

theorem second_survey : serveCall hexUuid (holding [surveyOf "org-a" 1])
    (.write (.createProject (userOf "org-b") surveyBody 2 0)) =
    some (holding [surveyOf "org-a" 1, surveyOf "org-b" 2],
      some (.response (.project (surveyOf "org-b" 2)))) := by
  simp only [serveCall, serve, handleCreateProject, userOf, decode_surveyBody]
  rfl

theorem surveys_listed : serveCall hexUuid (holding [surveyOf "org-a" 1, surveyOf "org-b" 2])
    (.listProjects (userOf "org-b") [surveyOf "org-b" 2]) =
    some (holding [surveyOf "org-a" 1, surveyOf "org-b" 2],
      some (.projects [surveyOf "org-b" 2] 1)) := by
  rfl

end SystemScale.Cloud.Fleet

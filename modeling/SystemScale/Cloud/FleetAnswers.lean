import Mathlib.Data.List.Nodup
import SystemScale.Cloud.FleetTenants

set_option autoImplicit false

/-!
# Answers to requests for assistance

One statement finds the pending row and answers it, so that of several operators the first one counts.
-/

namespace SystemScale.Cloud.Fleet

open Json (Value)

variable {readUuid : String → Option Uuid}

def decodeRespond (body : List Char) : Option RespondRequest :=
  decodeStruct RespondRequest.set ⟨none, ""⟩ body

/-- A call with a caller and an answer, and no text that the database refuses. -/
def Valid (claims : Option Claims) (assistanceID : String) (body : List Char) : Prop :=
  ∃ caller approved instruction, claims = some caller ∧ assistanceID ≠ "" ∧
    decodeRespond body = some ⟨some approved, instruction⟩ ∧
    storable instruction = true ∧ storable assistanceID = true ∧ storable caller.orgID = true

def notFound : Response :=
  .refused 404 "Not Found: assistance request not found or already responded"

/-! ## One call -/

theorem update_none {db : Database} {now : Nat} {approved : Bool} {instruction requestID orgID : String}
    (none_open : db.assistanceRequests.countP (AssistanceRow.open requestID orgID) = 0) :
    (db.assistanceRequests.map fun row =>
      if row.open requestID orgID then row.respond approved instruction now else row) =
      db.assistanceRequests := by
  have closed := List.countP_eq_zero.mp none_open
  have same : ∀ row ∈ db.assistanceRequests, (if row.open requestID orgID then
      row.respond approved instruction now else row) = id row :=
    fun row member => if_neg (closed row member)
  rw [List.map_congr_left same, List.map_id]

/-- A call answers a row that was open to its caller, or changes nothing. -/
inductive Answer (db : Database) (claims : Option Claims) (assistanceID : String)
    (body : List Char) (now : Nat) : Database × Response → Prop where
  | answered (caller : Claims) (approved : Bool) (instruction : String) (row : AssistanceRow)
      (called : claims = some caller)
      (decoded : decodeRespond body = some ⟨some approved, instruction⟩)
      (member : row ∈ db.assistanceRequests)
      (found : row.open assistanceID caller.orgID = true) :
      Answer db claims assistanceID body now
        ({ db with assistanceRequests := db.assistanceRequests.map fun row =>
            if row.open assistanceID caller.orgID then row.respond approved instruction now else row },
          .responded)
  | refused (response : Response) (unanswered : response ≠ .responded)
      (valid : Valid claims assistanceID body → response = notFound) :
      Answer db claims assistanceID body now (db, response)

theorem handleRespondAssistance_answer (db : Database) (claims : Option Claims)
    (assistanceID : String) (body : List Char) (now : Nat) :
    Answer db claims assistanceID body now (handleRespondAssistance db claims assistanceID body now) := by
  unfold handleRespondAssistance
  split
  · refine .refused _ (by simp) ?_
    rintro ⟨_, _, _, ⟨⟩, -⟩
  · next caller =>
    split_ifs with unnamed
    · refine .refused _ (by simp) ?_
      rintro ⟨_, _, _, -, named, -⟩
      exact absurd unnamed named
    · split
      · next approved instruction decoded =>
        unfold Database.updateAssistance
        by_cases rejected : !(storable instruction && storable assistanceID && storable caller.orgID)
        · rw [if_pos rejected]
          refine .refused _ (by simp) ?_
          rintro ⟨_, _, _, ⟨⟩, -, again, kept⟩
          obtain ⟨rfl, rfl⟩ : approved = _ ∧ instruction = _ := by
            have same := Option.some.inj (decoded.symm.trans again)
            simpa using same
          simp [kept] at rejected
        · rw [if_neg rejected]
          simp only
          split_ifs with none_open
          · rw [update_none none_open]
            exact .refused _ (by simp) fun _ => rfl
          · obtain ⟨row, member, found⟩ := List.countP_pos_iff.mp (Nat.pos_of_ne_zero none_open)
            exact .answered caller approved instruction row rfl decoded member found
      · next undecoded =>
        refine .refused _ (by simp) ?_
        rintro ⟨_, approved, instruction, -, -, decoded, -⟩
        exact absurd decoded (undecoded approved instruction)

/-! ## Whole runs -/

def Distinct (state : State) : Prop :=
  (state.db.assistanceRequests.map AssistanceRow.requestID).Nodup

structure Settled (requestID : String) (approved : Bool) (instruction : String) (state : State) :
    Prop where
  known : requestID ∈ state.db.assistanceRequests.map AssistanceRow.requestID
  answered : ∀ row ∈ state.db.assistanceRequests, row.requestID = requestID →
    row.status = .responded ∧ row.approved = some approved ∧ row.instruction = instruction

theorem responded_id (row : AssistanceRow) (requestID orgID : String) (approved : Bool)
    (instruction : String) (now : Nat) :
    (if row.open requestID orgID then row.respond approved instruction now else row).requestID =
      row.requestID := by
  split_ifs <;> rfl

theorem responded_ids (rows : List AssistanceRow) (requestID orgID : String) (approved : Bool)
    (instruction : String) (now : Nat) :
    (rows.map fun row => if row.open requestID orgID then row.respond approved instruction now
      else row).map AssistanceRow.requestID = rows.map AssistanceRow.requestID := by
  rw [List.map_map]
  exact List.map_congr_left fun row _ => responded_id row requestID orgID approved instruction now

theorem step_distinct {state next : State} {action : Action} (distinct : Distinct state)
    (taken : step readUuid state action = some next) : Distinct next := by
  cases step_change taken with
  | kept => exact distinct
  | project => exact distinct
  | started => exact distinct
  | inserted => exact distinct
  | dropped => exact distinct
  | requested _ _ _ _ req db row _ accepted =>
    obtain ⟨rfl, -, -, -, named, -, fresh⟩ := insertAssistance_ok accepted
    have apart : row.requestID ∉ state.db.assistanceRequests.map AssistanceRow.requestID := by
      intro member
      obtain ⟨other, there, same⟩ := List.mem_map.mp member
      exact fresh other there (same.trans named)
    simp only [Distinct, List.map_append, List.map_cons, List.map_nil]
    refine List.nodup_append.mpr ⟨distinct, by simp, ?_⟩
    rintro id old _ new rfl
    exact apart (List.mem_singleton.mp new ▸ old)
  | responded =>
    simp only [Distinct, responded_ids]
    exact distinct

theorem step_settled {state next : State} {action : Action} {requestID : String} {approved : Bool}
    {instruction : String} (settled : Settled requestID approved instruction state)
    (taken : step readUuid state action = some next) :
    Settled requestID approved instruction next := by
  cases step_change taken with
  | kept => exact settled
  | project => exact ⟨settled.known, settled.answered⟩
  | started => exact ⟨settled.known, settled.answered⟩
  | inserted => exact ⟨settled.known, settled.answered⟩
  | dropped => exact ⟨settled.known, settled.answered⟩
  | requested _ _ _ _ req _ row _ accepted =>
    obtain ⟨rfl, -, -, -, named, -, fresh⟩ := insertAssistance_ok accepted
    refine ⟨by simp [settled.known], fun other member same => ?_⟩
    rcases List.mem_append.mp member with old | new
    · exact settled.answered other old same
    -- The id is taken already.
    · obtain rfl := List.mem_singleton.mp new
      obtain ⟨taker, there, taken⟩ := List.mem_map.mp settled.known
      exact absurd (taken.trans (same.symm.trans named)) (fresh taker there)
  | responded caller id _ now yes text =>
    refine ⟨?_, fun row member same => ?_⟩
    · rw [responded_ids]
      exact settled.known
    · obtain ⟨old, before, rfl⟩ := List.mem_map.mp member
      rw [responded_id] at same
      have closed := settled.answered old before same
      rwa [if_neg (by simp [AssistanceRow.open, closed.1])]

theorem Settled.closed {state : State} {requestID : String} {approved : Bool} {instruction : String}
    (settled : Settled requestID approved instruction state) {row : AssistanceRow}
    (member : row ∈ state.db.assistanceRequests) (orgID : String) :
    row.open requestID orgID ≠ true := by
  intro found
  simp only [AssistanceRow.open, Bool.and_eq_true, decide_eq_true_eq] at found
  have answered := settled.answered row member found.1.1
  rw [answered.1] at found
  cases found.2

theorem serve_respond {state next : State} {claims : Option Claims} {assistanceID : String}
    {body : List Char} {now : Nat} {response : Option Response}
    (served : serve readUuid state (.respondAssistance claims assistanceID body now) =
      some (next, response)) :
    next = { state with db := (handleRespondAssistance state.db claims assistanceID body now).1 } ∧
      response = some (handleRespondAssistance state.db claims assistanceID body now).2 := by
  obtain ⟨rfl, rfl⟩ := Prod.mk.inj (Option.some.inj served)
  exact ⟨rfl, rfl⟩

theorem answer_settles {state : State} (distinct : Distinct state) {row : AssistanceRow}
    {requestID orgID : String} (member : row ∈ state.db.assistanceRequests)
    (found : row.open requestID orgID = true) (approved : Bool) (instruction : String) (now : Nat) :
    Settled requestID approved instruction
      { state with db := { state.db with
          assistanceRequests := state.db.assistanceRequests.map fun row =>
            if row.open requestID orgID then row.respond approved instruction now else row } } := by
  have named : row.requestID = requestID := by
    simp only [AssistanceRow.open, Bool.and_eq_true, decide_eq_true_eq] at found
    exact found.1.1
  constructor
  · simp only [responded_ids]
    exact List.mem_map.mpr ⟨row, member, named⟩
  · intro after there same
    obtain ⟨old, before, rfl⟩ := List.mem_map.mp there
    rw [responded_id] at same
    obtain rfl : old = row :=
      List.inj_on_of_nodup_map distinct before member (same.trans named.symm)
    rw [if_pos found]
    exact ⟨rfl, rfl, rfl⟩

theorem settled_unanswered {state next : State} {requestID : String} {approved : Bool}
    {instruction : String} (settled : Settled requestID approved instruction state)
    {claims : Option Claims} {body : List Char} {now : Nat} {response : Response}
    (served : serve readUuid state (.respondAssistance claims requestID body now) =
      some (next, some response)) : response ≠ .responded := by
  obtain ⟨-, same⟩ := serve_respond served
  have answer := handleRespondAssistance_answer state.db claims requestID body now
  obtain rfl := Option.some.inj same
  generalize handleRespondAssistance state.db claims requestID body now = result at answer
  cases answer with
  | answered caller _ _ row _ _ member found =>
    exact absurd found (settled.closed member caller.orgID)
  | refused _ unanswered => exact unanswered

def operatorA : Option Claims := some ⟨"u1", "org-a", "operator", []⟩

def askAction : Action := .createAssistance operatorA strayBody 1 0

def asked : State :=
  ⟨⟨[], [], [⟨1, "r1", 10, 11, "org-a", "", .pending, none, "", 120, 0, none⟩]⟩, []⟩

theorem asked_reached : Runs.exec (step hexUuid) start [askAction] = some asked := by
  simp only [Runs.exec, askAction, step, serve, operatorA, handleCreateAssistance, decode_strayBody]
  rfl

def yesBody : List Char := Value.write goStyle (.object [("approved", .bool true)])

theorem decode_yesBody : decodeRespond yesBody = some ⟨some true, ""⟩ := by
  have read := goReader.first_write goStyle (.object [("approved", .bool true)])
    (by simp [Value.Within, goReader])
  rw [decodeRespond, decodeStruct, yesBody, read]
  rfl

def answeredYes : State :=
  ⟨⟨[], [], [⟨1, "r1", 10, 11, "org-a", "", .responded, some true, "", 120, 0, some 5⟩]⟩, []⟩

theorem yes_served : serve hexUuid asked (.respondAssistance operatorA "r1" yesBody 5) =
    some (answeredYes, some .responded) := by
  have decoded := decode_yesBody
  unfold decodeRespond at decoded
  simp only [serve, handleRespondAssistance, operatorA, decoded]
  rfl

def emptyBody : List Char := Value.write goStyle (.object [])

end SystemScale.Cloud.Fleet

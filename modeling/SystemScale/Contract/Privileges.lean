import Mathlib.Data.Fintype.EquivFin
import Mathlib.Logic.Function.Basic
import SystemScale.Cloud.ApiKeys
import SystemScale.Cloud.Members
import SystemScale.Lib.Runs

set_option autoImplicit false

/-!
# Privileges that requests hand out

One caller's requests to auth-api and fleet-api, and the tokens and member roles that they yield.
-/

namespace SystemScale.Cloud

open Runs

/-! ## More and less authority -/

-- Every other role can do what a viewer can.
def roleRank (role : String) : Nat :=
  if role = "admin" then 2 else if role = "operator" then 1 else 0

def Claims.unrestricted (claims : Claims) : Bool :=
  isAdmin claims.role || claims.vehicleSet.isEmpty || claims.vehicleSet.contains "*"

/-- The grant adds nothing to the caller's own authority. -/
def Within (caller grant : Claims) : Prop :=
  roleRank grant.role ≤ roleRank caller.role ∧
    ∀ v, grant.canAccessVehicle v = true → caller.canAccessVehicle v = true

/-- Decided on the vehicle sets as they are written. -/
def Claims.covers (caller grant : Claims) : Bool :=
  caller.unrestricted || (!grant.unrestricted && grant.vehicleSet.all caller.vehicleSet.contains)

theorem canAccessVehicle_unrestricted {claims : Claims} (free : claims.unrestricted = true)
    (v : String) : claims.canAccessVehicle v = true := by
  simp only [Claims.unrestricted, Bool.or_eq_true, List.contains_iff_mem] at free
  simp only [Claims.canAccessVehicle, Bool.or_eq_true, List.any_eq_true, decide_eq_true_eq]
  exact free.imp_right fun wildcard => ⟨"*", wildcard, .inl rfl⟩

theorem canAccessVehicle_restricted {claims : Claims} (bound : claims.unrestricted = false)
    (v : String) : claims.canAccessVehicle v = true ↔ v ∈ claims.vehicleSet := by
  simp only [Claims.unrestricted, Bool.or_eq_false_iff, List.contains_eq_mem,
    decide_eq_false_iff_not] at bound
  obtain ⟨⟨admin, listed⟩, wildcard⟩ := bound
  simp only [Claims.canAccessVehicle, admin, listed, Bool.false_or, List.any_eq_true,
    Bool.or_eq_true, decide_eq_true_eq]
  constructor
  · rintro ⟨other, member, rfl | rfl⟩
    · exact absurd member wildcard
    · exact member
  · intro member
    exact ⟨v, member, .inr rfl⟩

theorem fresh_vehicle (vehicleSet : List String) : ∃ v : String, v ∉ vehicleSet := by
  obtain ⟨v, fresh⟩ := Infinite.exists_notMem_finset vehicleSet.toFinset
  exact ⟨v, by simpa using fresh⟩

theorem covers_iff (caller grant : Claims) :
    caller.covers grant = true ↔
      ∀ v, grant.canAccessVehicle v = true → caller.canAccessVehicle v = true := by
  cases free : caller.unrestricted with
  | true => simp [Claims.covers, free, canAccessVehicle_unrestricted free]
  | false =>
    have own := canAccessVehicle_restricted free
    cases wide : grant.unrestricted with
    | true =>
      obtain ⟨v, fresh⟩ := fresh_vehicle caller.vehicleSet
      simp only [Claims.covers, free, wide, Bool.not_true, Bool.false_and, Bool.or_false,
        Bool.false_eq_true, false_iff]
      intro all
      exact fresh ((own v).mp (all v (canAccessVehicle_unrestricted wide v)))
    | false =>
      simp [Claims.covers, free, wide, own, canAccessVehicle_restricted wide, List.all_eq_true]

/-! ## A caller's requests -/

/-- `obtained` is no part of the program: the claims of the tokens that the requests yielded, and of
the members whose role they set. -/
structure Services where
  keys : List ApiKey
  users : String → Option KcUser
  obtained : List Claims

namespace Services

inductive Request where
  | createKey (email : String) (body : List Char) (id randomHex : String)
  | token (body : List Char) (now : Nat)
  | invite (body : List Char) (id : String) (answer : KcAnswer)
  | updateAccess (id : String) (body : List Char) (answer : KcAnswer)

section System

variable (sha256 : String → String) (castTextArray : String → Option String)
  (vehicleSet : List String → List String) (caller : Claims)

def setMember (state : Services) (id : String) : Option KcUser → Services
  | none => state
  | some user =>
    { state with
      users := Function.update state.users id (some user)
      obtained := state.obtained ++ [user.claims vehicleSet id] }

def serve (state : Services) : Request → Services
  | .createKey email body id randomHex =>
    { state with
      keys := (handleCreateKey sha256 castTextArray state.keys caller email body id randomHex).1 }
  | .token body now =>
    match handleToken sha256 state.keys body now with
    | .issued token => { state with obtained := state.obtained ++ [token.claims] }
    | .refused _ _ => state
  | .invite body id answer => state.setMember vehicleSet id (handleInviteMember caller body answer).1
  | .updateAccess id body answer =>
    state.setMember vehicleSet id
      (handleUpdateMemberAccess caller id (state.users id) body answer).1

def step (state : Services) (request : Request) : Option Services :=
  some (state.serve sha256 castTextArray vehicleSet caller request)

def Confined (state : Services) : Prop := ∀ grant ∈ state.obtained, Within caller grant

/-- Tokens are taken by callers who may access every vehicle, those of a key with the scope admin
by admins; members are given a role no higher than the caller's, and have a vehicle set within
the caller's. -/
def Careful (state : Services) : Request → Prop
  | .createKey _ _ _ _ => True
  | .token body _ =>
    ∀ apiKey, decodeStruct setApiKey "" body = some apiKey → apiKey ≠ "" →
      ∀ key, state.keys.find? (fun key => key.keyHash = sha256 apiKey) = some key →
        key.revoked = false →
        caller.unrestricted = true ∧
          ("admin" ∈ parsePGTextArray key.scopes → caller.role = "admin")
  | .invite body _ answer =>
    ∀ req, InviteRequest.decode body = some req → req.email ≠ "" → answer.status = 201 →
      roleRank req.role ≤ roleRank caller.role ∧ caller.unrestricted = true
  | .updateAccess id body answer =>
    ∀ role, decodeStruct setRole "" body = some role → role ≠ "" → id ≠ "" →
      ∀ user, state.users id = some user → user.belongs caller.orgID = true →
        answer.status = 204 ∨ answer.status = 200 →
        roleRank role ≤ roleRank caller.role ∧
          caller.covers ⟨id, caller.orgID, role, (user.claims vehicleSet id).vehicleSet⟩ = true

/-! ## One request -/

variable {sha256 castTextArray vehicleSet caller}

theorem confined_append {state : Services} {users : String → Option KcUser} {grant : Claims} :
    Confined caller { state with users := users, obtained := state.obtained ++ [grant] } ↔
      Confined caller state ∧ Within caller grant := by
  simp only [Confined, List.mem_append, List.mem_singleton]
  constructor
  · intro all
    exact ⟨fun other member => all other (.inl member), all grant (.inr rfl)⟩
  · rintro ⟨before, within⟩ other (member | rfl)
    · exact before other member
    · exact within

theorem within_iff {grant : Claims} :
    Within caller grant ↔
      roleRank grant.role ≤ roleRank caller.role ∧ caller.covers grant = true := by
  rw [Within, covers_iff]

theorem covers_unrestricted {grant : Claims} (free : grant.unrestricted = true) :
    caller.covers grant = caller.unrestricted := by
  simp [Claims.covers, free]

theorem roleRank_admin : roleRank "admin" ≤ roleRank caller.role ↔ caller.role = "admin" := by
  unfold roleRank
  split_ifs <;> simp_all

theorem token_within {id orgID : String} {scopes : List String} :
    Within caller ⟨id, orgID, tokenRole scopes, ["*"]⟩ ↔
      caller.unrestricted = true ∧ ("admin" ∈ scopes → caller.role = "admin") := by
  have wild : Claims.unrestricted ⟨id, orgID, tokenRole scopes, ["*"]⟩ = true := by
    simp [Claims.unrestricted]
  rw [within_iff, covers_unrestricted wild, and_comm]
  refine and_congr_right fun _ => ?_
  by_cases admin : "admin" ∈ scopes
  · simp [tokenRole, admin, roleRank_admin]
  · simp [tokenRole, admin, roleRank]

theorem invited_within {req : InviteRequest} {id : String} :
    Within caller ((req.user caller).claims vehicleSet id) ↔
      roleRank req.role ≤ roleRank caller.role ∧ caller.unrestricted = true := by
  have rank : roleRank ((req.user caller).claims vehicleSet id).role = roleRank req.role := by
    by_cases unset : req.role = "" <;>
      simp [KcUser.claims, InviteRequest.user, Attributes.get, unset, roleRank]
  have wild : ((req.user caller).claims vehicleSet id).unrestricted = true := by
    simp [Claims.unrestricted, KcUser.claims, InviteRequest.user, Attributes.get]
  rw [within_iff, rank, covers_unrestricted wild]

theorem updated_claims {user : KcUser} {role id : String} :
    { user with attributes := user.attributes.put "role" [role] }.claims vehicleSet id =
      ⟨id, (user.claims vehicleSet id).orgID, role, (user.claims vehicleSet id).vehicleSet⟩ := by
  simp [KcUser.claims, get_put]

theorem setMember_confined {state : Services} {id : String} {user : KcUser} :
    Confined caller (state.setMember vehicleSet id (some user)) ↔
      Confined caller state ∧ Within caller (user.claims vehicleSet id) :=
  confined_append

theorem token_confined {state : Services} (confined : Confined caller state) (body : List Char)
    (now : Nat) :
    Confined caller (state.serve sha256 castTextArray vehicleSet caller (.token body now)) ↔
      Careful sha256 vehicleSet caller state (.token body now) := by
  simp only [serve, handleToken, Careful]
  cases decodeStruct setApiKey "" body with
  | none => simp [confined]
  | some apiKey =>
    by_cases empty : apiKey = ""
    · simp [confined, empty]
    · cases found : state.keys.find? fun key => key.keyHash = sha256 apiKey with
      | none => simp [confined, empty, found]
      | some key =>
        cases revoked : key.revoked with
        | true => simp [confined, empty, found, revoked]
        | false => simp [confined_append, token_within, confined, empty, found, revoked]

theorem invite_confined {state : Services} (confined : Confined caller state) (body : List Char)
    (id : String) (answer : KcAnswer) :
    Confined caller (state.serve sha256 castTextArray vehicleSet caller (.invite body id answer)) ↔
      Careful sha256 vehicleSet caller state (.invite body id answer) := by
  simp only [serve, handleInviteMember, Careful]
  cases InviteRequest.decode body with
  | none => simp [setMember, confined]
  | some req =>
    by_cases empty : req.email = ""
    · simp [setMember, confined, empty]
    · by_cases created : answer.status = 201
      · simp [setMember_confined, invited_within, confined, empty, created]
      · simp [setMember, confined, empty, created]

theorem updateAccess_confined {state : Services} (confined : Confined caller state) (id : String)
    (body : List Char) (answer : KcAnswer) :
    Confined caller
        (state.serve sha256 castTextArray vehicleSet caller (.updateAccess id body answer)) ↔
      Careful sha256 vehicleSet caller state (.updateAccess id body answer) := by
  simp only [serve, handleUpdateMemberAccess, Careful]
  by_cases unnamed : id = ""
  · simp [setMember, confined, unnamed]
  · cases decodeStruct setRole "" body with
    | none => simp [setMember, confined, unnamed]
    | some role =>
      by_cases unset : role = ""
      · simp [setMember, confined, unnamed, unset]
      · cases held : state.users id with
        | none => simp [setMember, confined, unnamed, unset]
        | some user =>
          cases own : user.belongs caller.orgID with
          | false => simp [setMember, confined, unnamed, unset, own]
          | true =>
            by_cases taken : answer.status = 204 ∨ answer.status = 200
            · have kept : ¬ (answer.status ≠ 204 ∧ answer.status ≠ 200) := by tauto
              simp only [unnamed, unset, own, if_false, not_true, if_neg kept,
                setMember_confined, updated_claims, within_iff]
              constructor
              · rintro ⟨_, within⟩ _ ⟨⟩ _ _ _ ⟨⟩ _ _
                exact within
              · intro careful
                exact ⟨confined, careful role rfl unset unnamed user rfl own taken⟩
            · have kept : answer.status ≠ 204 ∧ answer.status ≠ 200 := by tauto
              simp [setMember, confined, unnamed, unset, own, kept]

theorem serve_confined {state : Services} (confined : Confined caller state) (request : Request) :
    Confined caller (state.serve sha256 castTextArray vehicleSet caller request) ↔
      Careful sha256 vehicleSet caller state request := by
  cases request with
  | createKey email body id randomHex => exact iff_of_true confined trivial
  | token body now => exact token_confined confined body now
  | invite body id answer => exact invite_confined confined body id answer
  | updateAccess id body answer => exact updateAccess_confined confined id body answer

variable (sha256 castTextArray vehicleSet caller)

/-- A sequence of requests yields no more than the caller has exactly if each of them is careful. -/
theorem requests_confined_iff (keys : List ApiKey) (users : String → Option KcUser)
    (requests : List Request) :
    Throughout (step sha256 castTextArray vehicleSet caller) (Confined caller) ⟨keys, users, []⟩
        requests ↔
      Along (step sha256 castTextArray vehicleSet caller) (Careful sha256 vehicleSet caller)
        ⟨keys, users, []⟩ requests := by
  have preserves (state : Services) (request : Request) (next : Services) (_ : True)
      (_ : Confined caller state) (_ : Careful sha256 vehicleSet caller state request)
      (_ : step sha256 castTextArray vehicleSet caller state request = some next) : True := trivial
  refine throughout_iff_along preserves ?_ trivial (by simp [Confined])
  intro state request next _ confined taken
  obtain rfl := Option.some.inj taken
  exact serve_confined confined request

end System

def viewer : Claims := ⟨"u1", "a", "viewer", ["v1"]⟩

-- The database's cast, for scopes that are plain words.
def unquoted (literal : String) : Option String :=
  some (String.ofList (literal.toList.filter (· ≠ '"')))

def createBody : List Char := "\x7b\"name\":\"n\",\"scopes\":[\"admin\"]\x7d".toList

def tokenBody : List Char := "\x7b\"api_key\":\"ssk_live_00\"\x7d".toList

def inviteBody : List Char := "\x7b\"email\":\"m@x\",\"role\":\"admin\"\x7d".toList

def escalation : List Request :=
  [.createKey "e@x" createBody "k1" "00", .token tokenBody 0, .invite inviteBody "u2" ⟨201, ""⟩]

theorem viewer_becomes_admin :
    (exec (step id unquoted id viewer) ⟨[], fun _ => none, []⟩ escalation).map Services.obtained =
        some [⟨"k1", "a", "admin", ["*"]⟩, ⟨"u2", "a", "admin", []⟩] ∧
      ¬ Throughout (step id unquoted id viewer) (Confined viewer) ⟨[], fun _ => none, []⟩
        escalation := by
  have yielded : (exec (step id unquoted id viewer) ⟨[], fun _ => none, []⟩ escalation).map
      Services.obtained = some [⟨"k1", "a", "admin", ["*"]⟩, ⟨"u2", "a", "admin", []⟩] := rfl
  refine ⟨yielded, ?_⟩
  obtain ⟨final, ran, obtained⟩ := Option.map_eq_some_iff.mp yielded
  rw [throughout_iff_prefixes]
  intro all
  have confined := all escalation [] final (List.append_nil _).symm ran
  have within := (confined ⟨"u2", "a", "admin", []⟩ (by simp [obtained])).1
  simp [roleRank, viewer] at within

end Services

end SystemScale.Cloud

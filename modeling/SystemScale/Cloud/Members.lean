import SystemScale.Cloud.Commands

set_option autoImplicit false

/-!
# Members of an organisation

fleet-api keeps members as users of Keycloak, whose mappers make a member's claims from the user's
attributes.
-/

namespace SystemScale.Cloud

abbrev Attributes := List (String × List String)

def Attributes.get (attributes : Attributes) (name : String) : Option (List String) :=
  (attributes.find? fun entry => entry.1 = name).map Prod.snd

def Attributes.put (attributes : Attributes) (name : String) (values : List String) : Attributes :=
  (name, values) :: attributes.filter fun entry => entry.1 ≠ name

structure KcUser where
  username : String
  email : String
  firstName : String
  lastName : String
  enabled : Bool
  attributes : Attributes

inductive MemberResponse where
  | refused (status : Nat) (message : String)
  | invited
  | updated
  deriving DecidableEq

/-! ## handleInviteMember -/

structure InviteRequest where
  email : String
  username : String
  firstName : String
  lastName : String
  role : String

def InviteRequest.set (req : InviteRequest) (key : String) (value : Json.Value) :
    Option InviteRequest :=
  if foldEqual "email" key then do
    let email ← decodeGoString req.email value
    some { req with email := email }
  else if foldEqual "username" key then do
    let username ← decodeGoString req.username value
    some { req with username := username }
  else if foldEqual "first_name" key then do
    let firstName ← decodeGoString req.firstName value
    some { req with firstName := firstName }
  else if foldEqual "last_name" key then do
    let lastName ← decodeGoString req.lastName value
    some { req with lastName := lastName }
  else if foldEqual "role" key then do
    let role ← decodeGoString req.role value
    some { req with role := role }
  else some req

def InviteRequest.decode (body : List Char) : Option InviteRequest :=
  decodeStruct InviteRequest.set ⟨"", "", "", "", ""⟩ body

/-- Keycloak's answer to a request that changes a user, with its body. -/
structure KcAnswer where
  status : Nat
  body : String

def InviteRequest.user (req : InviteRequest) (claims : Claims) : KcUser :=
  { username := if req.username = "" then req.email else req.username
    email := req.email
    firstName := req.firstName
    lastName := req.lastName
    enabled := true
    attributes := [("org_id", [claims.orgID]),
      ("role", [if req.role = "" then "viewer" else req.role])] }

/-- The user that was created, if one was, and the answer. -/
def handleInviteMember (claims : Claims) (body : List Char) (answer : KcAnswer) :
    Option KcUser × MemberResponse :=
  match InviteRequest.decode body with
  | none => (none, .refused 400 "Bad Request: email required")
  | some req =>
    if req.email = "" then (none, .refused 400 "Bad Request: email required")
    else if answer.status ≠ 201 then
      (none, .refused answer.status ("Keycloak error: " ++ answer.body))
    else (some (req.user claims), .invited)

/-! ## handleUpdateMemberAccess -/

def setRole (role : String) (key : String) (value : Json.Value) : Option String :=
  if foldEqual "role" key then decodeGoString role value else some role

def KcUser.belongs (user : KcUser) (orgID : String) : Bool :=
  match user.attributes.get "org_id" with
  | some (first :: _) => first = orgID
  | _ => false

/-- The user after the request, if it was changed, and the answer. -/
def handleUpdateMemberAccess (claims : Claims) (userID : String) (user : Option KcUser)
    (body : List Char) (answer : KcAnswer) : Option KcUser × MemberResponse :=
  if userID = "" then (none, .refused 400 "Bad Request: userId required")
  else
    match decodeStruct setRole "" body with
    | none => (none, .refused 400 "Bad Request: role required")
    | some role =>
      if role = "" then (none, .refused 400 "Bad Request: role required")
      else
        match user with
        | none => (none, .refused 404 "Not Found")
        | some user =>
          if ¬ user.belongs claims.orgID then (none, .refused 403 "Forbidden: user not in your org")
          else if answer.status ≠ 204 ∧ answer.status ≠ 200 then
            (none, .refused 500 "Internal Server Error")
          else (some { user with attributes := user.attributes.put "role" [role] }, .updated)

/-! ## Claims of a member -/

/-- Keycloak's mappers; `vehicleSet` reads the attribute as JSON. -/
def KcUser.claims (vehicleSet : List String → List String) (id : String) (user : KcUser) : Claims :=
  { subject := id
    orgID := ((user.attributes.get "org_id").bind List.head?).getD ""
    role := ((user.attributes.get "role").bind List.head?).getD ""
    vehicleSet := ((user.attributes.get "vehicle_set").map vehicleSet).getD [] }

theorem get_put (attributes : Attributes) (name other : String) (values : List String) :
    (attributes.put name values).get other =
      if other = name then some values else attributes.get other := by
  unfold Attributes.put Attributes.get
  split_ifs with same
  · simp [same]
  · rw [List.find?_cons_of_neg (by simp [Ne.symm same]), List.find?_filter]
    congr 2
    funext entry
    by_cases here : entry.1 = other <;> simp [here, same]

end SystemScale.Cloud

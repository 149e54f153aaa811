import SystemScale.Cloud.Auth
import SystemScale.Lib.Json

set_option autoImplicit false

/-!
# Claims of validated tokens

`Validate` copies the claims it understands. Parsing and verifying a token is the library's part,
which is a parameter here.
-/

namespace SystemScale.Cloud

open Json

abbrev MapClaims := List (String × Value)

/-- What the library makes of a token whose signature it accepts. -/
structure ParsedToken where
  valid : Bool
  -- Absent if the claims are of another type than `jwt.MapClaims`.
  claims : Option MapClaims

structure ValidatedClaims extends Claims where
  email : String

def stringClaim (m : MapClaims) (key : String) : String :=
  match lookup key m with
  | some (.string text) => text
  | _ => ""

def asString : Value → Option String
  | .string text => some text
  | _ => none

def vehicleSetClaim (m : MapClaims) : List String :=
  match lookup "vehicle_set" m with
  | some (.array items) => items.filterMap asString
  | _ => []

def extractClaims (m : MapClaims) : ValidatedClaims :=
  { subject := stringClaim m "sub"
    email := stringClaim m "email"
    orgID := stringClaim m "org_id"
    role := stringClaim m "role"
    vehicleSet := vehicleSetClaim m }

def validate (parse : String → Except String ParsedToken) (tokenStr : String) :
    Except String ValidatedClaims :=
  match parse tokenStr with
  | .error err => .error ("auth: parse token: " ++ err)
  | .ok token =>
      if token.valid then
        match token.claims with
        | some m => .ok (extractClaims m)
        | none => .error "auth: unexpected claims type"
      else .error "auth: token invalid"

/-! ## Restrictions to vehicles -/

/-- The claim names the vehicle, or all of them. -/
def Lists (claim : Value) (vehicleID : String) : Prop :=
  ∃ items, claim = .array items ∧ (.string vehicleID ∈ items ∨ .string "*" ∈ items)

/-- The claim is an array with a string in it. -/
def NamesSome (claim : Value) : Prop :=
  ∃ items text, claim = .array items ∧ .string text ∈ items

theorem mem_strings {items : List Value} {text : String} :
    text ∈ items.filterMap asString ↔ .string text ∈ items := by
  rw [List.mem_filterMap]
  constructor
  · rintro ⟨item, member, is⟩
    cases item with
    | string other =>
      obtain rfl := Option.some.inj is
      exact member
    | _ => nomatch is
  · intro member
    exact ⟨_, member, rfl⟩

section Access

variable {m : MapClaims} {claim : Value}

theorem mem_vehicleSet (is : lookup "vehicle_set" m = some claim) (text : String) :
    text ∈ vehicleSetClaim m ↔ ∃ items, claim = .array items ∧ .string text ∈ items := by
  rw [vehicleSetClaim, is]
  cases claim with
  | array items => simpa using mem_strings
  | _ => simp

theorem vehicleSet_nonempty (is : lookup "vehicle_set" m = some claim) :
    vehicleSetClaim m ≠ [] ↔ NamesSome claim := by
  constructor
  · intro nonempty
    obtain ⟨text, member⟩ := List.exists_mem_of_ne_nil _ nonempty
    obtain ⟨items, array, there⟩ := (mem_vehicleSet is text).mp member
    exact ⟨items, text, array, there⟩
  · rintro ⟨items, text, array, there⟩
    exact List.ne_nil_of_mem ((mem_vehicleSet is text).mpr ⟨items, array, there⟩)

theorem canAccessVehicle_of_set {claims : Claims} (role : claims.role ≠ "admin")
    (vehicleID : String) : claims.canAccessVehicle vehicleID = true ↔
      claims.vehicleSet = [] ∨ "*" ∈ claims.vehicleSet ∨ vehicleID ∈ claims.vehicleSet := by
  simp only [Claims.canAccessVehicle, isAdmin, role, decide_false, Bool.false_or, Bool.or_eq_true,
    List.isEmpty_iff, List.any_eq_true, decide_eq_true_eq]
  refine or_congr_right ⟨?_, ?_⟩
  · rintro ⟨entry, member, rfl | rfl⟩
    · exact .inl member
    · exact .inr member
  · rintro (wild | member)
    · exact ⟨_, wild, .inl rfl⟩
    · exact ⟨_, member, .inr rfl⟩

-- A claim with strings restricts to what it lists, any other claim restricts nothing.
theorem access_listed_iff (is : lookup "vehicle_set" m = some claim)
    (role : (extractClaims m).role ≠ "admin") (vehicleID : String) :
    ((extractClaims m).canAccessVehicle vehicleID = true → Lists claim vehicleID) ↔
      NamesSome claim := by
  have access := canAccessVehicle_of_set role vehicleID
  have set : (extractClaims m).vehicleSet = vehicleSetClaim m := rfl
  rw [access, set]
  constructor
  · intro only
    by_contra none
    have empty : vehicleSetClaim m = [] := by
      by_contra nonempty
      exact none ((vehicleSet_nonempty is).mp nonempty)
    obtain ⟨items, rfl, named | wild⟩ := only (.inl empty)
    · exact none ⟨items, vehicleID, rfl, named⟩
    · exact none ⟨items, "*", rfl, wild⟩
  · intro some granted
    have nonempty := (vehicleSet_nonempty is).mpr some
    rcases granted with empty | wild | named
    · exact absurd empty nonempty
    · obtain ⟨items, array, member⟩ := (mem_vehicleSet is "*").mp wild
      exact ⟨items, array, .inr member⟩
    · obtain ⟨items, array, member⟩ := (mem_vehicleSet is vehicleID).mp named
      exact ⟨items, array, .inl member⟩

end Access

theorem validate_ok {parse : String → Except String ParsedToken} {tokenStr : String}
    {claims : ValidatedClaims} (validated : validate parse tokenStr = .ok claims) :
    ∃ m, parse tokenStr = .ok ⟨true, some m⟩ ∧ claims = extractClaims m := by
  unfold validate at validated
  split at validated
  next => nomatch validated
  next token parsed =>
    obtain ⟨valid, found⟩ := token
    split_ifs at validated with accepted
    cases found with
    | none => nomatch validated
    | some m =>
      obtain rfl : valid = true := accepted
      exact ⟨m, parsed, (Except.ok.inj validated).symm⟩

/-- The claims of a token that is not an admin's keep to its `vehicle_set` exactly when that is an
array with a string in it. -/
theorem validated_access_iff {parse : String → Except String ParsedToken} {tokenStr : String}
    {token : ParsedToken} {m : MapClaims} {claims : ValidatedClaims} {claim : Value}
    (parsed : parse tokenStr = .ok token) (mapped : token.claims = some m)
    (validated : validate parse tokenStr = .ok claims)
    (is : lookup "vehicle_set" m = some claim) (role : claims.role ≠ "admin") (vehicleID : String) :
    (claims.canAccessVehicle vehicleID = true → Lists claim vehicleID) ↔ NamesSome claim := by
  obtain ⟨found, again, rfl⟩ := validate_ok validated
  obtain rfl := Except.ok.inj (parsed.symm.trans again)
  obtain rfl := Option.some.inj mapped
  exact access_listed_iff is role vehicleID

/-- The library's answer on one token: `vehicle_set` as given, for an operator. -/
def operatorToken (claim : Value) (_ : String) : Except String ParsedToken :=
  .ok ⟨true, some [("sub", .string "u1"), ("role", .string "operator"), ("vehicle_set", claim)]⟩

theorem listed_vehicle_accessible :
    ((extractClaims [("sub", .string "u1"), ("role", .string "operator"),
        ("vehicle_set", .array [.string "drone-001"])]).canAccessVehicle "drone-001" = true →
      Lists (.array [.string "drone-001"]) "drone-001") ↔
      NamesSome (.array [.string "drone-001"]) :=
  @validated_access_iff (operatorToken (.array [.string "drone-001"])) "t" _ _ _ _ rfl rfl rfl rfl
    (by decide) "drone-001"

/-- A `vehicle_set` that is one string, not an array, opens every vehicle. -/
theorem string_claim_unrestricted :
    ¬ ∀ (parse : String → Except String ParsedToken) (tokenStr : String) (token : ParsedToken) (m : MapClaims)
      (claims : ValidatedClaims) (claim : Value), parse tokenStr = .ok token →
      token.claims = some m → validate parse tokenStr = .ok claims →
      lookup "vehicle_set" m = some claim → claim ≠ .null → claim ≠ .array [] →
      claims.role ≠ "admin" → ∀ vehicleID, claims.canAccessVehicle vehicleID = true →
      Lists claim vehicleID := by
  intro only
  have listed := only (operatorToken (.string "drone-001")) "t" _ _ _ (.string "drone-001") rfl rfl
    rfl rfl (by simp) (by simp) (by decide) "drone-002" (by decide)
  obtain ⟨items, array, _⟩ := listed
  nomatch array

end SystemScale.Cloud

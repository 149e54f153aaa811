import Mathlib.Data.List.Nodup
import SystemScale.Cloud.FleetReads
import SystemScale.Cloud.KeyScopes

set_option autoImplicit false

/-!
# Keys from creation to revocation

The handlers of auth-api over whole runs. Each runs one statement, so calls come in between whole
handlers only; a statement may fail, and then the table is as it was.
-/

namespace SystemScale.Cloud.Keys

open Fleet (Selects NewestFirst)

/-! ## Handlers -/

deriving instance DecidableEq for ApiKey

structure KeyRow where
  key : ApiKey
  createdAt : Nat
  deriving DecidableEq

/-- Claims and the email, which they leave out. -/
abbrev Caller := Claims × String

inductive Reply where
  | refused (status : Nat) (message : String)
  | created (id keyPrefix apiKey name : String) (scopes : List String) (createdAt : Nat)
  | keys (items : List (KeyItem × Nat)) (count : Nat)
  | revoked
  | token (token : AccessToken)

def serverError : Reply := .refused 500 "Internal Server Error"

section Handlers

-- SHA-256 in hexadecimal, and the text of an id in the form that the database gives it.
variable (sha256 : String → String) (readUuid : String → Option String)

/-- An id that is taken makes the statement fail. -/
def createKey (rows : List KeyRow) (caller : Option Caller) (body : List Char)
    (id randomHex : String) (now : Nat) (fails : Bool) : List KeyRow × Reply :=
  match caller with
  | none => (rows, .refused 401 "Unauthorized")
  | some (claims, email) =>
    match handleCreateKey sha256 castTextArray [] claims email body id randomHex with
    | (_, .refused status message) => (rows, .refused status message)
    | (inserted, .created id keyPrefix apiKey name scopes) =>
      if fails || rows.any (·.key.id = id) then (rows, serverError)
      else (rows ++ inserted.map (⟨·, now⟩), .created id keyPrefix apiKey name scopes now)

def liveOf (rows : List KeyRow) (orgID : String) : List KeyRow :=
  rows.filter fun row => row.key.orgID = orgID && !row.key.revoked

def shown (row : KeyRow) : KeyItem × Nat := (keyItem row.key, row.createdAt)

/-- `handleListKeys`, if the database may return `found`. -/
def listKeys (rows : List KeyRow) (caller : Option Caller) (found : List KeyRow) (fails : Bool) :
    Option Reply :=
  match caller with
  | none => some (.refused 401 "Unauthorized")
  | some (claims, _) =>
    if fails then some serverError
    else if Selects KeyRow.createdAt (liveOf rows claims.orgID) found then
      some (.keys (found.map shown) found.length)
    else none

def revokes (id orgID : String) (row : KeyRow) : Bool :=
  row.key.id = id && row.key.orgID = orgID && !row.key.revoked

def KeyRow.revoke (row : KeyRow) : KeyRow := { row with key := { row.key with revoked := true } }

def handleRevokeKey (rows : List KeyRow) (caller : Option Caller) (keyID : String) (fails : Bool) :
    List KeyRow × Reply :=
  match caller with
  | none => (rows, .refused 401 "Unauthorized")
  | some (claims, _) =>
    if keyID = "" then (rows, .refused 400 "Bad Request: key id required")
    else
      match readUuid keyID with
      | none => (rows, serverError)
      | some id =>
        if fails then (rows, serverError)
        else if rows.any (revokes id claims.orgID) then
          (rows.map fun row => if revokes id claims.orgID row then row.revoke else row, .revoked)
        else (rows, .refused 404 "Not Found: key not found or already revoked")

/-- The statement is run for a body that names a key. -/
def exchangeKey (rows : List KeyRow) (body : List Char) (now : Nat) (fails : Bool) : Reply :=
  if fails && (decodeStruct setApiKey "" body).any (· ≠ "") then serverError
  else
    match handleToken sha256 (rows.map (·.key)) body now with
    | .refused status message => .refused status message
    | .issued token => .token token

/-! ## Runs -/

inductive Call where
  | create (caller : Option Caller) (body : List Char) (id randomHex : String) (now : Nat)
      (fails : Bool)
  | list (caller : Option Caller) (found : List KeyRow) (fails : Bool)
  | revoke (caller : Option Caller) (keyID : String) (fails : Bool)
  | token (body : List Char) (now : Nat) (fails : Bool)

def serve (rows : List KeyRow) : Call → Option (List KeyRow × Reply)
  | .create caller body id randomHex now fails =>
    some (createKey sha256 rows caller body id randomHex now fails)
  | .list caller found fails => (listKeys rows caller found fails).map (rows, ·)
  | .revoke caller keyID fails => some (handleRevokeKey readUuid rows caller keyID fails)
  | .token body now fails => some (rows, exchangeKey sha256 rows body now fails)

/-- The calls of a run and their answers. -/
abbrev History := List (Call × Reply)

def record (state : List KeyRow × History) (call : Call) : Option (List KeyRow × History) :=
  (serve sha256 readUuid state.1 call).map fun (rows, reply) =>
    (rows, state.2 ++ [(call, reply)])

end Handlers

/-! ## What was answered -/

/-- A key as its creation was answered. -/
structure Made where
  id : String
  orgID : String
  name : String
  keyPrefix : String
  apiKey : String
  scopes : List String
  createdBy : String
  createdAt : Nat

def made : Call × Reply → Option Made
  | (.create (some (claims, email)) _ _ _ _ _, .created id keyPrefix apiKey name scopes createdAt) =>
    some ⟨id, claims.orgID, name, keyPrefix, apiKey, scopes, email, createdAt⟩
  | _ => none

def madeKeys (history : History) : List Made := history.filterMap made

section Answers

variable (sha256 : String → String) (readUuid : String → Option String)

def revokedBy : Call × Reply → Option String
  | (.revoke _ keyID _, .revoked) => readUuid keyID
  | _ => none

/-- The ids whose revocation was answered. -/
def revokedKeys (history : History) : List String := history.filterMap (revokedBy readUuid)

/-- The scopes that the database hands back. -/
def Made.shownScopes (key : Made) : List String :=
  ((castTextArray (scopesLiteral key.scopes)).map parsePGTextArray).getD []

def Made.item (key : Made) : KeyItem × Nat :=
  (⟨key.id, key.name, key.keyPrefix, key.shownScopes, key.createdBy⟩, key.createdAt)

def Made.token (key : Made) (now : Nat) : AccessToken where
  claims := ⟨key.id, key.orgID, tokenRole key.shownScopes, ["*"]⟩
  email := key.createdBy
  issuer := "systemscale-apikey"
  issuedAt := now
  expiresAt := now + 3600

/-- The keys of an organisation that were created and not revoked since. -/
def liveKeys (history : History) (orgID : String) : List Made :=
  (madeKeys history).filter fun key =>
    key.orgID = orgID && !decide (key.id ∈ revokedKeys readUuid history)

/-- What a call is answered after the history. -/
def Answers (history : History) : Call → Reply → Prop
  | .create caller _ id randomHex now _, reply =>
    (∃ status message, reply = .refused status message) ∨
      ∃ claims email keyPrefix name scopes, caller = some (claims, email) ∧
        (∀ key ∈ madeKeys history, key.id ≠ id) ∧
        reply = .created id keyPrefix ("ssk_live_" ++ randomHex) name scopes now
  | .list caller _ fails, reply =>
    match caller with
    | none => reply = .refused 401 "Unauthorized"
    | some (claims, _) =>
      if fails then reply = serverError
      else ∃ items, Selects Prod.snd ((liveKeys readUuid history claims.orgID).map Made.item) items ∧
        reply = .keys items items.length
  | .revoke caller keyID fails, reply =>
    match caller with
    | none => reply = .refused 401 "Unauthorized"
    | some (claims, _) =>
      if keyID = "" then reply = .refused 400 "Bad Request: key id required"
      else if fails || (readUuid keyID).isNone then reply = serverError
      else if ∃ key ∈ liveKeys readUuid history claims.orgID, readUuid keyID = some key.id then
        reply = .revoked
      else reply = .refused 404 "Not Found: key not found or already revoked"
  | .token body now fails, reply =>
    match decodeStruct setApiKey "" body with
    | none => reply = .refused 400 "Bad Request: api_key required"
    | some apiKey =>
      if apiKey = "" then reply = .refused 400 "Bad Request: api_key required"
      else if fails then reply = serverError
      else
        (∃ key ∈ madeKeys history, sha256 key.apiKey = sha256 apiKey ∧
          reply = if key.id ∈ revokedKeys readUuid history then
            .refused 401 "Unauthorized: api key revoked" else .token (key.token now)) ∨
        (∀ key ∈ madeKeys history, sha256 key.apiKey ≠ sha256 apiKey) ∧
          reply = .refused 401 "Unauthorized: invalid api key"

/-- A row as the history has it. -/
structure Stored (revoked : List String) (key : Made) (row : KeyRow) : Prop where
  id : row.key.id = key.id
  org : row.key.orgID = key.orgID
  name : row.key.name = key.name
  shownPrefix : "ssk_live_" ++ row.key.keyPrefix = key.keyPrefix
  hash : row.key.keyHash = sha256 key.apiKey
  scopes : castTextArray (scopesLiteral key.scopes) = some row.key.scopes
  createdBy : row.key.createdBy = key.createdBy
  createdAt : row.createdAt = key.createdAt
  revoked : row.key.revoked = decide (key.id ∈ revoked)

structure Recorded (state : List KeyRow × History) : Prop where
  stored : List.Forall₂ (Stored sha256 (revokedKeys readUuid state.2)) (madeKeys state.2) state.1
  ids : ((madeKeys state.2).map Made.id).Nodup
  revoked : ∀ id ∈ revokedKeys readUuid state.2, ∃ key ∈ madeKeys state.2, key.id = id

end Answers

/-! ## Rows and history -/

section Rows

variable {sha256 : String → String} {revoked : List String} {keys : List Made}
  {rows : List KeyRow}

theorem Stored.of_row (stored : List.Forall₂ (Stored sha256 revoked) keys rows) :
    ∀ row ∈ rows, ∃ key ∈ keys, Stored sha256 revoked key row := by
  induction stored with
  | nil => nofun
  | cons first rest ih =>
    intro row member
    rcases List.mem_cons.mp member with rfl | later
    · exact ⟨_, List.mem_cons_self, first⟩
    · obtain ⟨key, inside, here⟩ := ih row later
      exact ⟨key, List.mem_cons_of_mem _ inside, here⟩

theorem Stored.of_key (stored : List.Forall₂ (Stored sha256 revoked) keys rows) :
    ∀ key ∈ keys, ∃ row ∈ rows, Stored sha256 revoked key row := by
  induction stored with
  | nil => nofun
  | cons first rest ih =>
    intro key member
    rcases List.mem_cons.mp member with rfl | later
    · exact ⟨_, List.mem_cons_self, first⟩
    · obtain ⟨row, inside, here⟩ := ih key later
      exact ⟨row, List.mem_cons_of_mem _ inside, here⟩

theorem Stored.shownScopes {key : Made} {row : KeyRow} (stored : Stored sha256 revoked key row) :
    parsePGTextArray row.key.scopes = key.shownScopes := by
  rw [Made.shownScopes, stored.scopes]
  rfl

theorem Stored.shown {key : Made} {row : KeyRow} (stored : Stored sha256 revoked key row) :
    shown row = key.item := by
  simp only [Keys.shown, keyItem, Made.item, stored.id, stored.name, stored.shownPrefix,
    stored.shownScopes, stored.createdBy, stored.createdAt]

theorem Stored.live (stored : List.Forall₂ (Stored sha256 revoked) keys rows) (orgID : String) :
    (liveOf rows orgID).map Keys.shown =
      (keys.filter fun key => key.orgID = orgID && !decide (key.id ∈ revoked)).map Made.item := by
  induction stored with
  | nil => rfl
  | @cons key row keys rows first rest ih =>
    simp only [liveOf, List.filter_cons, first.org, first.revoked] at ih ⊢
    split_ifs
    · rw [List.map_cons, List.map_cons, first.shown, ih]
    · exact ih

-- One row has the id, so the revocation reaches it alone.
theorem Stored.revoke {id orgID : String}
    (stored : List.Forall₂ (Stored sha256 revoked) keys rows) (ids : (keys.map Made.id).Nodup)
    (found : rows.any (revokes id orgID) = true) :
    List.Forall₂ (Stored sha256 (revoked ++ [id])) keys
      (rows.map fun row => if revokes id orgID row then row.revoke else row) := by
  obtain ⟨there, member, here⟩ := List.any_eq_true.mp found
  obtain ⟨owner, owned, stored_there⟩ := Stored.of_row stored there member
  simp only [revokes, Bool.and_eq_true, decide_eq_true_eq, Bool.not_eq_true'] at here
  have alone : ∀ key ∈ keys, key.id = id → key.orgID = orgID ∧ key.id ∉ revoked := by
    intro key inside same
    obtain rfl := List.inj_on_of_nodup_map ids inside owned
      (same.trans (here.1.1.symm.trans stored_there.id))
    refine ⟨stored_there.org.symm.trans here.1.2, ?_⟩
    have live := stored_there.revoked.symm.trans here.2
    exact of_decide_eq_false live
  rw [List.forall₂_map_right_iff]
  refine ((List.forall₂_and_left _ _).mpr ⟨alone, stored⟩).imp ?_
  rintro key row ⟨alone, row_stored⟩
  by_cases same : key.id = id
  · obtain ⟨org, live⟩ := alone same
    have reached : revokes id orgID row = true := by
      simp [revokes, row_stored.id, row_stored.org, row_stored.revoked, same, org, same ▸ live]
    rw [if_pos reached]
    exact { row_stored with revoked := by simp [KeyRow.revoke, same] }
  · have missed : revokes id orgID row ≠ true := by simp [revokes, row_stored.id, same]
    rw [if_neg missed]
    exact { row_stored with revoked := by simp [row_stored.revoked, same] }

end Rows

/-! ## What a handler does -/

section Handlers

variable {sha256 : String → String} {readUuid : String → Option String} {rows : List KeyRow}

inductive KeyMade (sha256 : String → String) (rows : List KeyRow) (caller : Option Caller)
    (id randomHex : String) (now : Nat) : List KeyRow × Reply → Prop where
  | made (claims : Claims) (email name text : String) (scopes : List String)
      (called : caller = some (claims, email)) (fresh : ∀ row ∈ rows, row.key.id ≠ id)
      (cast : castTextArray (scopesLiteral scopes) = some text) :
      KeyMade sha256 rows caller id randomHex now
        (rows ++ [⟨⟨id, claims.orgID, name, (randomHex.take 12).toString,
            sha256 ("ssk_live_" ++ randomHex), text, email, false⟩, now⟩],
          .created id ("ssk_live_" ++ (randomHex.take 12).toString) ("ssk_live_" ++ randomHex) name
            scopes now)
  | refused (status : Nat) (message : String) :
      KeyMade sha256 rows caller id randomHex now (rows, .refused status message)

theorem handleCreateKey_inserts (sha256 : String → String) (claims : Claims) (email : String)
    (body : List Char) (id randomHex : String) :
    (∃ status message, handleCreateKey sha256 castTextArray [] claims email body id randomHex =
        ([], .refused status message)) ∨
      ∃ name text scopes, castTextArray (scopesLiteral scopes) = some text ∧
        handleCreateKey sha256 castTextArray [] claims email body id randomHex =
          ([⟨id, claims.orgID, name, (randomHex.take 12).toString, sha256 ("ssk_live_" ++ randomHex),
              text, email, false⟩],
            .created id ("ssk_live_" ++ (randomHex.take 12).toString) ("ssk_live_" ++ randomHex) name
              scopes) := by
  unfold handleCreateKey
  split
  · exact .inl ⟨_, _, rfl⟩
  · split_ifs
    · exact .inl ⟨_, _, rfl⟩
    · simp only
      split
      · exact .inl ⟨_, _, rfl⟩
      · next text cast => exact .inr ⟨_, text, _, cast, rfl⟩

theorem createKey_made (caller : Option Caller) (body : List Char) (id randomHex : String)
    (now : Nat) (fails : Bool) : KeyMade sha256 rows caller id randomHex now
      (createKey sha256 rows caller body id randomHex now fails) := by
  cases caller with
  | none => exact .refused _ _
  | some caller =>
    obtain ⟨claims, email⟩ := caller
    rw [createKey]
    rcases handleCreateKey_inserts sha256 claims email body id randomHex with
      ⟨status, message, answer⟩ | ⟨name, text, scopes, cast, answer⟩
    · rw [answer]
      exact .refused _ _
    · rw [answer]
      simp only [List.map_cons, List.map_nil]
      split_ifs with failed
      · exact .refused _ _
      · simp only [Bool.or_eq_true, not_or, List.any_eq_true, decide_eq_true_eq, not_exists,
          not_and] at failed
        exact .made claims email name text scopes rfl failed.2 cast

end Handlers

/-! ## Whole runs -/

section Runs

variable {sha256 : String → String} {readUuid : String → Option String} {rows next : List KeyRow}
  {history : History} {call : Call} {reply : Reply}

theorem madeKeys_append (call : Call) (reply : Reply) :
    madeKeys (history ++ [(call, reply)]) = madeKeys history ++ (made (call, reply)).toList := by
  rw [madeKeys, List.filterMap_append]
  cases is : made (call, reply) <;> simp [is, madeKeys]

theorem revokedKeys_append (call : Call) (reply : Reply) :
    revokedKeys readUuid (history ++ [(call, reply)]) =
      revokedKeys readUuid history ++ (revokedBy readUuid (call, reply)).toList := by
  rw [revokedKeys, List.filterMap_append]
  cases is : revokedBy readUuid (call, reply) <;> simp [is, revokedKeys]

-- An answer that makes and revokes nothing.
theorem Recorded.idle (recorded : Recorded sha256 readUuid (rows, history))
    (makes : made (call, reply) = none) (revokes : revokedBy readUuid (call, reply) = none) :
    Recorded sha256 readUuid (rows, history ++ [(call, reply)]) where
  stored := by
    simp only [madeKeys_append, revokedKeys_append, makes, revokes, Option.toList_none,
      List.append_nil]
    exact recorded.stored
  ids := by
    simp only [madeKeys_append, makes, Option.toList_none, List.append_nil]
    exact recorded.ids
  revoked := by
    simp only [madeKeys_append, revokedKeys_append, makes, revokes, Option.toList_none,
      List.append_nil]
    exact recorded.revoked

theorem Recorded.refused (recorded : Recorded sha256 readUuid (rows, history)) (call : Call)
    (status : Nat) (message : String) :
    Recorded sha256 readUuid (rows, history ++ [(call, .refused status message)]) := by
  refine recorded.idle ?_ ?_
  · unfold made
    split
    · next same => cases same
    · rfl
  · unfold revokedBy
    split
    · next same => cases same
    · rfl

-- The last of the rows is of the key that was made.
theorem Recorded.create {caller : Option Caller} {body : List Char} {id randomHex : String}
    {now : Nat} {fails : Bool} (recorded : Recorded sha256 readUuid (rows, history))
    (result : KeyMade sha256 rows caller id randomHex now (next, reply)) :
    Recorded sha256 readUuid
      (next, history ++ [(.create caller body id randomHex now fails, reply)]) := by
  cases result with
  | refused status message =>
    exact recorded.refused _ _ _
  | made claims email name text scopes called fresh cast =>
    subst called
    have unmade : ∀ key ∈ madeKeys history, key.id ≠ id := by
      intro key member same
      obtain ⟨row, inside, stored⟩ := Stored.of_key recorded.stored key member
      exact fresh row inside (stored.id.trans same)
    have unrevoked : id ∉ revokedKeys readUuid history := by
      intro member
      obtain ⟨key, inside, same⟩ := recorded.revoked id member
      exact unmade key inside same
    refine ⟨?_, ?_, ?_⟩
    · simp only [madeKeys_append, revokedKeys_append, made, revokedBy, Option.toList_some,
        Option.toList_none, List.append_nil]
      refine List.rel_append recorded.stored (.cons ?_ .nil)
      exact ⟨rfl, rfl, rfl, rfl, rfl, cast, rfl, rfl, (decide_eq_false unrevoked).symm⟩
    · simp only [madeKeys_append, made, Option.toList_some, List.map_append, List.map_cons,
        List.map_nil]
      refine List.nodup_append.mpr ⟨recorded.ids, by simp, ?_⟩
      rintro old member _ new rfl
      obtain ⟨key, inside, rfl⟩ := List.mem_map.mp member
      exact unmade key inside (List.mem_singleton.mp new)
    · simp only [madeKeys_append, revokedKeys_append, made, revokedBy, Option.toList_some,
        Option.toList_none, List.append_nil]
      intro other member
      obtain ⟨key, inside, same⟩ := recorded.revoked other member
      exact ⟨key, List.mem_append_left _ inside, same⟩

-- Which keys a revocation may reach.
theorem Recorded.reaches (recorded : Recorded sha256 readUuid (rows, history)) (id orgID : String) :
    rows.any (revokes id orgID) = true ↔
      ∃ key ∈ liveKeys readUuid history orgID, key.id = id := by
  simp only [List.any_eq_true, liveKeys, List.mem_filter, Bool.and_eq_true, decide_eq_true_eq,
    Bool.not_eq_true', revokes]
  constructor
  · rintro ⟨row, member, ⟨same, org⟩, live⟩
    obtain ⟨key, inside, stored⟩ := Stored.of_row recorded.stored row member
    exact ⟨key, ⟨inside, stored.org.symm.trans org, stored.revoked.symm.trans live⟩,
      stored.id.symm.trans same⟩
  · rintro ⟨key, ⟨inside, org, live⟩, same⟩
    obtain ⟨row, member, stored⟩ := Stored.of_key recorded.stored key inside
    exact ⟨row, member, ⟨stored.id.trans same, stored.org.trans org⟩, stored.revoked.trans live⟩

theorem Recorded.revoke {caller : Option Caller} {keyID : String} {fails : Bool}
    (recorded : Recorded sha256 readUuid (rows, history))
    (served : handleRevokeKey readUuid rows caller keyID fails = (next, reply)) :
    Recorded sha256 readUuid (next, history ++ [(.revoke caller keyID fails, reply)]) ∧
      Answers sha256 readUuid history (.revoke caller keyID fails) reply := by
  cases caller with
  | none =>
    obtain ⟨rfl, rfl⟩ := Prod.mk.inj served
    exact ⟨recorded.refused _ _ _, rfl⟩
  | some caller =>
    obtain ⟨claims, email⟩ := caller
    simp only [handleRevokeKey] at served
    simp only [Answers]
    by_cases unnamed : keyID = ""
    · rw [if_pos unnamed] at served ⊢
      obtain ⟨rfl, rfl⟩ := Prod.mk.inj served
      exact ⟨recorded.refused _ _ _, rfl⟩
    rw [if_neg unnamed] at served ⊢
    cases read : readUuid keyID with
    | none =>
      rw [read] at served
      obtain ⟨rfl, rfl⟩ := Prod.mk.inj served
      refine ⟨recorded.refused _ _ _, ?_⟩
      simp
    | some id =>
      rw [read] at served
      cases fails with
      | true =>
        obtain ⟨rfl, rfl⟩ := Prod.mk.inj served
        refine ⟨recorded.refused _ _ _, ?_⟩
        simp
      | false =>
        have same : (∃ key ∈ liveKeys readUuid history claims.orgID, some id = some key.id) ↔
            rows.any (revokes id claims.orgID) = true := by
          rw [recorded.reaches]
          simp only [Option.some.injEq, eq_comm]
        simp only [Bool.false_eq_true, if_false] at served
        simp only [Option.isNone_some, Bool.or_false, Bool.false_eq_true, if_false, same]
        by_cases found : rows.any (revokes id claims.orgID) = true
        · rw [if_pos found] at served ⊢
          obtain ⟨rfl, rfl⟩ := Prod.mk.inj served
          refine ⟨⟨?_, ?_, ?_⟩, rfl⟩
          · simp only [madeKeys_append, revokedKeys_append, made, revokedBy, read,
              Option.toList_some, Option.toList_none, List.append_nil]
            exact Stored.revoke recorded.stored recorded.ids found
          · simp only [madeKeys_append, made, Option.toList_none, List.append_nil]
            exact recorded.ids
          · simp only [madeKeys_append, revokedKeys_append, made, revokedBy, read,
              Option.toList_some, Option.toList_none, List.append_nil]
            intro other member
            rcases List.mem_append.mp member with old | new
            · exact recorded.revoked other old
            · obtain rfl := List.mem_singleton.mp new
              obtain ⟨key, live, is⟩ := (recorded.reaches other claims.orgID).mp found
              exact ⟨key, (List.mem_filter.mp live).1, is⟩
        · rw [if_neg found] at served ⊢
          obtain ⟨rfl, rfl⟩ := Prod.mk.inj served
          exact ⟨recorded.refused _ _ _, rfl⟩

theorem Recorded.list {caller : Option Caller} {found : List KeyRow} {fails : Bool}
    (recorded : Recorded sha256 readUuid (rows, history))
    (listed : listKeys rows caller found fails = some reply) :
    Answers sha256 readUuid history (.list caller found fails) reply := by
  cases caller with
  | none => exact (Option.some.inj listed).symm
  | some caller =>
    obtain ⟨claims, email⟩ := caller
    simp only [listKeys] at listed
    simp only [Answers]
    cases fails with
    | true => exact (Option.some.inj listed).symm
    | false =>
      simp only [Bool.false_eq_true, if_false] at listed ⊢
      split_ifs at listed with selects
      obtain rfl := Option.some.inj listed
      have items := selects.map shown Prod.snd fun _ => rfl
      rw [Stored.live recorded.stored] at items
      exact ⟨_, items, by rw [List.length_map]⟩

theorem Recorded.token {body : List Char} {now : Nat} {fails : Bool}
    (recorded : Recorded sha256 readUuid (rows, history)) :
    Answers sha256 readUuid history (.token body now fails)
      (exchangeKey sha256 rows body now fails) := by
  simp only [Answers, exchangeKey, handleToken]
  cases decodeStruct setApiKey "" body with
  | none => simp
  | some apiKey =>
    by_cases empty : apiKey = ""
    · simp [empty]
    · cases fails with
      | true => simp [empty]
      | false =>
        simp only [Bool.false_and, Bool.false_eq_true, if_false, if_neg empty]
        cases looked : (rows.map (·.key)).find? fun key => key.keyHash = sha256 apiKey with
        | none =>
          refine .inr ⟨fun key member same => ?_, rfl⟩
          obtain ⟨row, inside, stored⟩ := Stored.of_key recorded.stored key member
          have other := List.find?_eq_none.mp looked row.key (List.mem_map_of_mem inside)
          exact other (decide_eq_true (stored.hash.trans same))
        | some found =>
          have hash := List.find?_some looked
          rw [decide_eq_true_eq] at hash
          obtain ⟨row, inside, rfl⟩ := List.mem_map.mp (List.mem_of_find?_eq_some looked)
          obtain ⟨key, member, stored⟩ := Stored.of_row recorded.stored row inside
          refine .inl ⟨key, member, stored.hash.symm.trans hash, ?_⟩
          have revoked := stored.revoked
          by_cases gone : key.id ∈ revokedKeys readUuid history
          · rw [decide_eq_true gone] at revoked
            simp [revoked, gone]
          · rw [decide_eq_false gone] at revoked
            simp [revoked, gone, Made.token, stored.id, stored.org, stored.createdBy,
              stored.shownScopes]

theorem Recorded.step (recorded : Recorded sha256 readUuid (rows, history))
    (served : serve sha256 readUuid rows call = some (next, reply)) :
    Recorded sha256 readUuid (next, history ++ [(call, reply)]) ∧
      Answers sha256 readUuid history call reply := by
  cases call with
  | create caller body id randomHex now fails =>
    have result : KeyMade sha256 rows caller id randomHex now (next, reply) :=
      Option.some.inj served ▸ createKey_made caller body id randomHex now fails
    refine ⟨recorded.create result, ?_⟩
    cases result with
    | refused status message => exact .inl ⟨status, message, rfl⟩
    | made claims email name text scopes called fresh cast =>
      refine .inr ⟨claims, email, _, name, scopes, called, fun key member same => ?_, rfl⟩
      obtain ⟨row, inside, stored⟩ := Stored.of_key recorded.stored key member
      exact fresh row inside (stored.id.trans same)
  | list caller found fails =>
    obtain ⟨answer, listed, same⟩ := Option.map_eq_some_iff.mp served
    obtain ⟨rfl, rfl⟩ := Prod.mk.inj same
    refine ⟨recorded.idle ?_ rfl, recorded.list listed⟩
    cases caller <;> rfl
  | revoke caller keyID fails => exact recorded.revoke (Option.some.inj served)
  | token body now fails =>
    obtain ⟨rfl, rfl⟩ := Prod.mk.inj (Option.some.inj served)
    exact ⟨recorded.idle rfl rfl, recorded.token⟩

def keyAdmin : Option Caller := some (⟨"u1", "a", "admin", []⟩, "e@x")

def nameBody : List Char := "\x7b\"name\":\"n\"\x7d".toList

def keyBody : List Char := "\x7b\"api_key\":\"ssk_live_00\"\x7d".toList

/-- A key is created, and revoked by its organisation. -/
def revokedHistory : History :=
  [(.create keyAdmin nameBody "k1" "00" 5 false,
      .created "k1" "ssk_live_00" "ssk_live_00" "n" [] 5),
    (.revoke keyAdmin "k1" false, .revoked)]

end Runs

end SystemScale.Cloud.Keys

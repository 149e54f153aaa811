import Mathlib.Logic.Function.Basic
import SystemScale.Cloud.Fleet
import SystemScale.Sdk.PythonMessage

set_option autoImplicit false

/-!
# Token exchange

Each SDK posts an API key to the auth service and keeps the token it gets. Times are in nanoseconds.
-/

namespace SystemScale.Sdk.Tokens

open Json (Value lookup)

def nanos (seconds : Int) : Int := seconds * 1000000000

inductive Attempt where
  | answered (status : Nat) (body : List Char)
  | failed

-- `endpoint` is no part of the programs: where the token comes from.
structure Cached (T : Type) where
  token : T
  expiresAt : Int
  endpoint : List Char

/-! ## Python -/

def pythonBody (apiKey : String) : List Char :=
  Value.write pythonStyle (.object [("api_key", .string apiKey)])

def pythonEndpoint (apikeyUrl : String) : List Char :=
  apikeyUrl.toList.rdropWhile (· = '/') ++ "/v1/token".toList

/-- The data of the first good answer within so many attempts, and how many were made. An answer
below 500 that is not good ends the exchange. -/
def tryExchange : Nat → List Attempt → Option Value × Nat
  | 0, _ => (none, 0)
  | _, [] => (none, 0)
  | retries + 1, .failed :: rest =>
    let (data, made) := tryExchange retries rest
    (data, made + 1)
  | retries + 1, .answered status body :: rest =>
    if 200 ≤ status ∧ status < 300 then
      match pythonReader.read body with
      | some data => (some data, 1)
      | none =>
        let (data, made) := tryExchange retries rest
        (data, made + 1)
    else if status < 500 then (none, 1)
    else
      let (data, made) := tryExchange retries rest
      (data, made + 1)

/-- The token and its seconds, which auth-api sends as a whole number. Without them, or with anything
else in their place, the call raises. -/
def readToken : Value → Option (Value × Int)
  | .object data =>
    let token :=
      match lookup "access_token" data with
      | some token => if truthy token then some token else lookup "token" data
      | none => lookup "token" data
    let ttl :=
      match lookup "expires_in" data with
      | some (.number ttl) => ttl.toInt?
      | some _ => none
      | none => some 3600
    token.bind fun token => ttl.map fun ttl => (token, ttl)
  | _ => none

def pythonHit (cache : String → Option (Cached Value)) (apiKey : String) (now : Int) :
    Option (Cached Value) :=
  (cache apiKey).filter fun cached => now < cached.expiresAt

/-- The cache afterwards, the token with the time it is returned at, and the number of attempts. -/
def exchangeToken (cache : String → Option (Cached Value)) (apiKey apikeyUrl : String)
    (checkedAt : Int) (attempts : List Attempt) (storedAt : Int) :
    (String → Option (Cached Value)) × Option (Value × Int) × Nat :=
  match pythonHit cache apiKey checkedAt with
  | some cached => (cache, some (cached.token, checkedAt), 0)
  | none =>
    let (data, made) := tryExchange 3 attempts
    match data.bind readToken with
    | some (token, ttl) =>
      let cached := ⟨token, storedAt + nanos ttl - nanos 2700, pythonEndpoint apikeyUrl⟩
      (Function.update cache apiKey (some cached), some (token, storedAt), made)
    | none => (cache, none, made)

-- A call returns what the cache has, or nothing, or what an answer brings and the cache keeps.
theorem exchangeToken_cases {cache after : String → Option (Cached Value)}
    {apiKey apikeyUrl : String} {checkedAt storedAt : Int} {attempts : List Attempt}
    {result : Option (Value × Int)} {made : Nat}
    (called : exchangeToken cache apiKey apikeyUrl checkedAt attempts storedAt =
      (after, result, made)) :
    (∃ cached, pythonHit cache apiKey checkedAt = some cached ∧ after = cache ∧
      result = some (cached.token, checkedAt)) ∨
    (after = cache ∧ result = none) ∨
    ∃ data token ttl, tryExchange 3 attempts = (some data, made) ∧
      readToken data = some (token, ttl) ∧ result = some (token, storedAt) ∧
      after = Function.update cache apiKey
        (some ⟨token, storedAt + nanos ttl - nanos 2700, pythonEndpoint apikeyUrl⟩) := by
  unfold exchangeToken at called
  split at called
  · next cached hit =>
    obtain ⟨rfl, rfl, rfl⟩ := called
    exact .inl ⟨cached, hit, rfl, rfl⟩
  · cases tried : tryExchange 3 attempts with
    | mk data count =>
      simp only [tried] at called
      split at called
      · next token ttl read =>
        obtain ⟨rfl, rfl, rfl⟩ := called
        obtain ⟨data, rfl, read⟩ := Option.bind_eq_some_iff.mp read
        exact .inr (.inr ⟨data, token, ttl, rfl, read, rfl, rfl⟩)
      · obtain ⟨rfl, rfl, rfl⟩ := called
        exact .inr (.inl ⟨rfl, rfl⟩)

/-! ## Go -/

namespace Go

open Cloud (goStyle decodeStruct foldEqual decodeGoString)
open Cloud.Fleet (decodeGoInt)

def requestBody (apiKey : String) : List Char :=
  Value.write goStyle (.object [("api_key", .string apiKey)])

def endpoint (apikeyURL : String) : List Char := apikeyURL.toList ++ "/v1/token".toList

structure Out where
  token : String
  expiresIn : Int

def Out.set (out : Out) (key : String) (value : Value) : Option Out :=
  if foldEqual "token" key then
    (decodeGoString out.token value).map fun token => { out with token := token }
  else if foldEqual "expires_in" key then
    (decodeGoInt out.expiresIn value).map fun expiresIn => { out with expiresIn := expiresIn }
  else some out

structure OperatorOut where
  token : String
  exp : Int

def OperatorOut.set (out : OperatorOut) (key : String) (value : Value) : Option OperatorOut :=
  if foldEqual "token" key then
    (decodeGoString out.token value).map fun token => { out with token := token }
  else if foldEqual "exp" key then
    (decodeGoInt out.exp value).map fun exp => { out with exp := exp }
  else some out

def decodeAnswer {α : Type} (set : α → String → Value → Option α) (zero : α) : Attempt → Option α
  | .answered status body => if status = 200 then decodeStruct set zero body else none
  | .failed => none

def hit (cache : String → Option (Cached String)) (apiKey : String) (now : Int) :
    Option (Cached String) :=
  (cache apiKey).filter fun cached => now < cached.expiresAt

def exchangeToken (cache : String → Option (Cached String)) (apiKey apikeyURL : String)
    (checkedAt : Int) (attempt : Attempt) (storedAt : Int) :
    (String → Option (Cached String)) × Option (String × Int) :=
  match hit cache apiKey checkedAt with
  | some cached => (cache, some (cached.token, checkedAt))
  | none =>
    match decodeAnswer Out.set ⟨"", 0⟩ attempt with
    | some out =>
      let ttl := if out.expiresIn ≤ 0 then 3600 else out.expiresIn
      let cached := ⟨out.token, storedAt + nanos ttl - nanos 2700, endpoint apikeyURL⟩
      (Function.update cache apiKey (some cached), some (out.token, storedAt))
    | none => (cache, none)

structure OperatorClient where
  apiKey : String
  apiKeyURL : String
  token : String
  tokenExp : Int

def OperatorClient.getToken (o : OperatorClient) (now : Int) (attempt : Attempt) (storedAt : Int) :
    OperatorClient × Option (String × Int) :=
  if o.token ≠ "" ∧ now + nanos 300 < o.tokenExp then (o, some (o.token, now))
  else
    match decodeAnswer OperatorOut.set ⟨"", 0⟩ attempt with
    | some out =>
      let tokenExp := if 0 < out.exp then nanos out.exp else storedAt + nanos 86400
      ({ o with token := out.token, tokenExp := tokenExp }, some (out.token, storedAt))
    | none => (o, none)

end Go

end SystemScale.Sdk.Tokens

import SystemScale.Cloud.Query

set_option autoImplicit false

/-!
# API keys

auth-api stores keys with their scopes and exchanges a key for a token. The database casts the
literal of the scopes to an array and hands it back as text.
-/

namespace SystemScale.Cloud

/-! ## Scopes -/

-- Elements of a list that was decoded before keep their text where the new one is null.
def decodeGoStrings (old : List String) : Json.Value → Option (List String)
  | .null => some []
  | .array items => items.zipIdx.mapM fun item => decodeGoString (old.getD item.2 "") item.1
  | _ => none

def escapeQuotes (s : String) : String :=
  String.ofList (s.toList.flatMap fun c => if c = '"' then ['\\', '"'] else [c])

def quotePGArray (ss : List String) : List String := ss.map fun s => "\"" ++ escapeQuotes s ++ "\""

def scopesLiteral (scopes : List String) : String :=
  "\x7b" ++ ",".intercalate (quotePGArray scopes) ++ "\x7d"

def splitOn (separator : Char) (text : List Char) : List (List Char) :=
  text.foldr
    (fun c parts =>
      if c = separator then [] :: parts
      else
        match parts with
        | part :: rest => (c :: part) :: rest
        | [] => [[c]])
    [[]]

def trimQuotes (text : List Char) : List Char := (text.dropWhile (· = '"')).rdropWhile (· = '"')

def trimBraces (text : List Char) : List Char :=
  let text := if text.head? = some '{' then text.tail else text
  if text.getLast? = some '}' then text.dropLast else text

def parsePGTextArray (s : String) : List String :=
  let s := trimSpace s.toList
  if s = "\x7b\x7d".toList ∨ s = [] then []
  else
    let out := ((splitOn ',' (trimBraces s)).map fun p => trimQuotes (trimSpace p)).filter (· ≠ [])
    out.map String.ofList

example : parsePGTextArray "\x7bread,\"a b\"\x7d" = ["read", "a b"] := by decide

/-! ## handleCreateKey -/

structure ApiKey where
  id : String
  orgID : String
  name : String
  keyPrefix : String
  keyHash : String
  scopes : String
  createdBy : String
  revoked : Bool

structure CreateKeyRequest where
  name : String
  scopes : List String

def CreateKeyRequest.set (req : CreateKeyRequest) (key : String) (value : Json.Value) :
    Option CreateKeyRequest :=
  if foldEqual "name" key then do
    let name ← decodeGoString req.name value
    some { req with name := name }
  else if foldEqual "scopes" key then do
    let scopes ← decodeGoStrings req.scopes value
    some { req with scopes := scopes }
  else some req

inductive CreateKeyResponse where
  | refused (status : Nat) (message : String)
  | created (id keyPrefix apiKey name : String) (scopes : List String)

section Keys

-- SHA-256 in hexadecimal, and the text of an array literal that the database takes.
variable (sha256 : String → String) (castTextArray : String → Option String)

/-- The keys after the request, and its answer. The claims of the model leave out the email. -/
def handleCreateKey (keys : List ApiKey) (claims : Claims) (email : String) (body : List Char)
    (id randomHex : String) : List ApiKey × CreateKeyResponse :=
  match decodeStruct CreateKeyRequest.set ⟨"", []⟩ body with
  | none => (keys, .refused 400 "Bad Request: name required")
  | some req =>
    if req.name = "" then (keys, .refused 400 "Bad Request: name required")
    else
      let fullKey := "ssk_live_" ++ randomHex
      let keyPrefix := (randomHex.take 12).toString
      match castTextArray (scopesLiteral req.scopes) with
      | none => (keys, .refused 500 "Internal Server Error")
      | some scopes =>
        (keys ++ [⟨id, claims.orgID, req.name, keyPrefix, sha256 fullKey, scopes, email, false⟩],
          .created id ("ssk_live_" ++ keyPrefix) fullKey req.name req.scopes)

/-! ## handleToken -/

structure AccessToken where
  claims : Claims
  email : String
  issuer : String
  issuedAt : Nat
  expiresAt : Nat

inductive TokenResponse where
  | refused (status : Nat) (message : String)
  | issued (token : AccessToken)

def setApiKey (apiKey : String) (key : String) (value : Json.Value) : Option String :=
  if foldEqual "api_key" key then decodeGoString apiKey value else some apiKey

def tokenRole (scopes : List String) : String :=
  if scopes.any (· = "admin") then "admin" else "viewer"

def handleToken (keys : List ApiKey) (body : List Char) (now : Nat) : TokenResponse :=
  match decodeStruct setApiKey "" body with
  | none => .refused 400 "Bad Request: api_key required"
  | some apiKey =>
    if apiKey = "" then .refused 400 "Bad Request: api_key required"
    else
      match keys.find? fun key => key.keyHash = sha256 apiKey with
      | none => .refused 401 "Unauthorized: invalid api key"
      | some key =>
        if key.revoked then .refused 401 "Unauthorized: api key revoked"
        else
          .issued
            { claims := ⟨key.id, key.orgID, tokenRole (parsePGTextArray key.scopes), ["*"]⟩
              email := key.createdBy
              issuer := "systemscale-apikey"
              issuedAt := now
              expiresAt := now + 3600 }

end Keys

end SystemScale.Cloud

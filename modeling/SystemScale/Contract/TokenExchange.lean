import SystemScale.Cloud.ApiKeys
import SystemScale.Lib.Lookups
import SystemScale.Lib.Runs
import SystemScale.Sdk.TokenExchange

set_option autoImplicit false

/-!
# Exchanged tokens

The SDKs exchange keys with auth services over time. Each service is named by the endpoint that the
request is posted to, and may have any keys at any time.
-/

namespace SystemScale.Contract.Tokens

open Cloud (AccessToken ApiKey TokenResponse decodeStruct decodeGoString foldEqual foldRune goReader
  goStyle handleToken setApiKey tokenRole parsePGTextArray)
open Json (Number Reader Value)
open Lookups (update_some)
open Runs
open Sdk (pythonReader pythonStyle truthy)
open Sdk.Tokens

section Service

-- SHA-256 in hexadecimal, and the signer, which may fail.
variable (sha256 : String → String) (sign : AccessToken → Option String)

/-! ## The service -/

def errorText (message : String) : List Char := message.toList ++ ['\n']

-- The map, in the order of its keys.
def tokenJson (token : String) : Value :=
  .object
    [("access_token", .string token), ("expires_in", .number (Number.ofInt 3600)),
      ("token_type", .string "bearer")]

def tokenBody (token : String) : List Char := (tokenJson token).write goStyle ++ ['\n']

def tokenAnswer (keys : List ApiKey) (body : List Char) (now : Nat) : Attempt :=
  match handleToken sha256 keys body now with
  | .refused status message => .answered status (errorText message)
  | .issued token =>
    match sign token with
    | some text => .answered 200 (tokenBody text)
    | none => .answered 500 (errorText "Internal Server Error")

/-- A request reaches the service with some keys at some second, or nothing comes back. -/
inductive Exchange where
  | reached (keys : List ApiKey) (now : Nat)
  | failed

def answer (body : List Char) : Exchange → Attempt
  | .reached keys now => tokenAnswer sha256 sign keys body now
  | .failed => .failed

structure Issue where
  endpoint : List Char
  apiKey : String
  token : String
  expiresAt : Nat

/-- The token that the service issues, for the key that it reads in the body. -/
def issue (endpoint body : List Char) : Exchange → Option Issue
  | .reached keys now =>
    match handleToken sha256 keys body now with
    | .refused _ _ => none
    | .issued token => (sign token).map fun text =>
      ⟨endpoint, (decodeStruct setApiKey "" body).getD "", text, token.expiresAt⟩
  | .failed => none

/-! ## Calls -/

structure Return where
  endpoint : List Char
  apiKey : String
  token : Value
  time : Int

structure State where
  pythonCache : String → Option (Cached Value)
  goCache : String → Option (Cached String)
  operators : List Go.OperatorClient
  issued : List Issue
  returned : List Return

def start : State := ⟨fun _ => none, fun _ => none, [], [], []⟩

/-- A call with the time it starts at, what its requests meet and the time it ends at. `connect`
makes an operator client, which asks for a token at once. -/
inductive Action where
  | python (apiKey apikeyUrl : String) (checkedAt : Int) (exchanges : List Exchange) (storedAt : Int)
  | go (apiKey apikeyURL : String) (checkedAt : Int) (exchange : Exchange) (storedAt : Int)
  | connect (apiKey apiKeyURL : String) (now : Int) (exchange : Exchange) (storedAt : Int)
  | getToken (index : Nat) (now : Int) (exchange : Exchange) (storedAt : Int)

def getToken (o : Go.OperatorClient) (now : Int) (exchange : Exchange) (storedAt : Int) :
    (Go.OperatorClient × Option (String × Int)) × List Issue :=
  let body := Go.requestBody o.apiKey
  let kept := o.token ≠ "" ∧ now + nanos 300 < o.tokenExp
  (o.getToken now (answer sha256 sign body exchange) storedAt,
    if kept then [] else (issue sha256 sign (Go.endpoint o.apiKeyURL) body exchange).toList)

def returns (endpoint : List Char) (apiKey : String) (result : Option (Value × Int)) : List Return :=
  (result.map fun result => ⟨endpoint, apiKey, result.1, result.2⟩).toList

def goReturns (endpoint : List Char) (apiKey : String) (result : Option (String × Int)) :
    List Return :=
  returns endpoint apiKey (result.map fun result => (.string result.1, result.2))

def step (state : State) : Action → Option State
  | .python apiKey apikeyUrl checkedAt exchanges storedAt =>
    let body := pythonBody apiKey
    let endpoint := pythonEndpoint apikeyUrl
    let attempts := exchanges.map (answer sha256 sign body)
    let (cache, result, made) :=
      exchangeToken state.pythonCache apiKey apikeyUrl checkedAt attempts storedAt
    some { state with
      pythonCache := cache
      issued := state.issued ++ (exchanges.take made).filterMap (issue sha256 sign endpoint body)
      returned := state.returned ++ returns endpoint apiKey result }
  | .go apiKey apikeyURL checkedAt exchange storedAt =>
    let body := Go.requestBody apiKey
    let endpoint := Go.endpoint apikeyURL
    let (cache, result) := Go.exchangeToken state.goCache apiKey apikeyURL checkedAt
      (answer sha256 sign body exchange) storedAt
    let asked := (Go.hit state.goCache apiKey checkedAt).isNone
    some { state with
      goCache := cache
      issued := state.issued ++
        if asked then (issue sha256 sign endpoint body exchange).toList else []
      returned := state.returned ++ goReturns endpoint apiKey result }
  | .connect apiKey apiKeyURL now exchange storedAt =>
    let ((o, result), issued) := getToken sha256 sign ⟨apiKey, apiKeyURL, "", 0⟩ now exchange storedAt
    some { state with
      operators := if result.isSome then state.operators ++ [o] else state.operators
      issued := state.issued ++ issued
      returned := state.returned ++ goReturns (Go.endpoint apiKeyURL) apiKey result }
  | .getToken index now exchange storedAt =>
    state.operators[index]?.map fun o =>
      let ((next, result), issued) := getToken sha256 sign o now exchange storedAt
      { state with
        operators := state.operators.set index next
        issued := state.issued ++ issued
        returned := state.returned ++ goReturns (Go.endpoint o.apiKeyURL) o.apiKey result }

/-! ## What is promised -/

def Issue.Backs (issue : Issue) (endpoint : List Char) (apiKey : String) (token : Value) : Prop :=
  issue.endpoint = endpoint ∧ issue.apiKey = apiKey ∧ token = .string issue.token

/-- Every token that was returned is one that the service issued for the key of the call, and was
not yet expired. -/
def Sound (state : State) : Prop :=
  ∀ returned ∈ state.returned, ∃ issue ∈ state.issued,
    issue.Backs returned.endpoint returned.apiKey returned.token ∧
      returned.time < nanos issue.expiresAt

/-- A Python call finds no token of another endpoint in the cache, and no answer takes 45 minutes. A
Go call is issued no token. -/
def Careful (state : State) : Action → Prop
  | .python apiKey apikeyUrl checkedAt exchanges storedAt =>
    (∀ cached, pythonHit state.pythonCache apiKey checkedAt = some cached →
      cached.endpoint = pythonEndpoint apikeyUrl) ∧
    ∀ keys (now : Nat), .reached keys now ∈ exchanges → storedAt ≤ nanos (now + 2700)
  | .go apiKey apikeyURL _ exchange _ =>
    issue sha256 sign (Go.endpoint apikeyURL) (Go.requestBody apiKey) exchange = none
  | .connect apiKey apiKeyURL _ exchange _ =>
    issue sha256 sign (Go.endpoint apiKeyURL) (Go.requestBody apiKey) exchange = none
  | .getToken index _ exchange _ => ∀ o, state.operators[index]? = some o →
    issue sha256 sign (Go.endpoint o.apiKeyURL) (Go.requestBody o.apiKey) exchange = none

end Service

/-! ## One answer -/

theorem decode_body (style : Json.Style) (apiKey : String) :
    decodeStruct setApiKey "" (Value.write style (.object [("api_key", .string apiKey)])) =
      some apiKey := by
  have read := Reader.first_write style goReader (.object [("api_key", .string apiKey)])
    (by simp [Value.Within, goReader])
  rw [decodeStruct, read]
  simp [setApiKey, foldEqual, decodeGoString]

theorem tokenJson_within (token : String) {nesting : Nat} (deep : 1 ≤ nesting) :
    (tokenJson token).Within nesting := by
  refine Value.within_mono deep ?_
  simp [tokenJson, Value.Within]

theorem read_tokenBody (token : String) :
    pythonReader.read (tokenBody token) = some (tokenJson token) := by
  refine Reader.read_write_append goStyle pythonReader _ (tokenJson_within token (by decide)) ?_
  intro c member
  obtain rfl := List.mem_singleton.mp member
  rfl

theorem readToken_answer {issued : String} {token : Value} {ttl : Int}
    (read : readToken (tokenJson issued) = some (token, ttl)) :
    token = .string issued ∧ ttl = 3600 := by
  simp only [readToken, tokenJson, Json.lookup, List.reverse_cons, List.reverse_nil, List.nil_append,
    List.cons_append, List.find?_cons] at read
  by_cases taken : truthy (.string issued) = true
  · simp [taken, Number.toInt?_ofInt] at read
    exact ⟨read.1.symm, read.2.symm⟩
  · simp [taken] at read

/-! ## One exchange -/

section Exchanges

variable {sha256 : String → String} {sign : AccessToken → Option String}

theorem handleToken_status {keys : List ApiKey} {body : List Char} {now status : Nat}
    {message : String} (refused : handleToken sha256 keys body now = .refused status message) :
    400 ≤ status := by
  unfold handleToken at refused
  split at refused
  · injection refused with is
    omega
  · split_ifs at refused
    · injection refused with is
      omega
    · split at refused
      · injection refused with is
        omega
      · split_ifs at refused
        injection refused with is
        omega

theorem handleToken_expiresAt {keys : List ApiKey} {body : List Char} {now : Nat}
    {token : AccessToken} (issued : handleToken sha256 keys body now = .issued token) :
    token.expiresAt = now + 3600 := by
  unfold handleToken at issued
  split at issued
  · cases issued
  · split_ifs at issued
    split at issued
    · cases issued
    · split_ifs at issued
      injection issued with is
      rw [← is]

theorem answer_good {body text : List Char} {exchange : Exchange} {status : Nat}
    (answered : answer sha256 sign body exchange = .answered status text) (good : status < 300) :
    ∃ keys now token, exchange = .reached keys now ∧ text = tokenBody token ∧
      ∀ endpoint, issue sha256 sign endpoint body exchange =
        some ⟨endpoint, (decodeStruct setApiKey "" body).getD "", token, now + 3600⟩ := by
  cases exchange with
  | failed => cases answered
  | reached keys now =>
    simp only [answer, tokenAnswer] at answered
    cases handled : handleToken sha256 keys body now with
    | refused refusal message =>
      simp only [handled, Attempt.answered.injEq] at answered
      have high := handleToken_status handled
      omega
    | issued token =>
      simp only [handled] at answered
      cases signed : sign token with
      | none =>
        simp only [signed, Attempt.answered.injEq] at answered
        omega
      | some jwt =>
        simp only [signed, Attempt.answered.injEq] at answered
        refine ⟨keys, now, jwt, rfl, answered.2.symm, fun endpoint => ?_⟩
        simp [issue, handled, signed, handleToken_expiresAt handled]

-- The data come from a good answer to one of the requests that were made.
theorem tryExchange_some {retries : Nat} {attempts : List Attempt} {data : Value} {made : Nat}
    (found : tryExchange retries attempts = (some data, made)) :
    ∃ status body, .answered status body ∈ attempts.take made ∧ status < 300 ∧
      pythonReader.read body = some data := by
  have later (first : Attempt) {rest : List Attempt} {count : Nat}
      (inner : ∃ status body, .answered status body ∈ rest.take count ∧ status < 300 ∧
        pythonReader.read body = some data) :
      ∃ status body, .answered status body ∈ (first :: rest).take (count + 1) ∧ status < 300 ∧
        pythonReader.read body = some data := by
    obtain ⟨status, body, member, good, read⟩ := inner
    exact ⟨status, body, List.mem_cons_of_mem first member, good, read⟩
  induction retries generalizing attempts made with
  | zero => simp [tryExchange] at found
  | succ retries ih =>
    cases attempts with
    | nil => simp [tryExchange] at found
    | cons attempt rest =>
      cases inner : tryExchange retries rest with
      | mk other count =>
        have again (is : (other, count + 1) = (some data, made)) :
            ∃ status body, .answered status body ∈ (attempt :: rest).take made ∧ status < 300 ∧
              pythonReader.read body = some data := by
          obtain ⟨rfl, rfl⟩ := Prod.mk.inj is
          exact later attempt (ih inner)
        cases attempt with
        | failed =>
          simp only [tryExchange, inner] at found
          exact again found
        | answered status body =>
          simp only [tryExchange, inner] at found
          split_ifs at found with good low
          · split at found
            · next value read =>
              obtain ⟨is, rfl⟩ := Prod.mk.inj found
              obtain rfl := Option.some.inj is
              exact ⟨status, body, by simp, good.2, read⟩
            · exact again found
          · cases (Prod.mk.inj found).1
          · exact again found

end Exchanges

/-! ## Calls of the Python SDK -/

section Python

variable {sha256 : String → String} {sign : AccessToken → Option String}

-- A fresh token was issued for the key, and the cache drops it before the service does.
theorem fresh_issued {apiKey : String} {exchanges : List Exchange} {storedAt : Int} {made : Nat}
    {data token : Value} {ttl : Int} (endpoint : List Char)
    (timely : ∀ keys (now : Nat), .reached keys now ∈ exchanges → storedAt ≤ nanos (now + 2700))
    (found : tryExchange 3 (exchanges.map (answer sha256 sign (pythonBody apiKey))) =
      (some data, made))
    (read : readToken data = some (token, ttl)) :
    ∃ given ∈ (exchanges.take made).filterMap (issue sha256 sign endpoint (pythonBody apiKey)),
      given.Backs endpoint apiKey token ∧ storedAt < nanos given.expiresAt ∧
        storedAt + nanos ttl - nanos 2700 ≤ nanos given.expiresAt := by
  obtain ⟨status, text, member, good, parsed⟩ := tryExchange_some found
  rw [← List.map_take] at member
  obtain ⟨exchange, made_one, answered⟩ := List.mem_map.mp member
  obtain ⟨keys, now, jwt, rfl, rfl, issued⟩ := answer_good answered good
  obtain rfl := Option.some.inj ((read_tokenBody jwt).symm.trans parsed)
  obtain ⟨rfl, rfl⟩ := readToken_answer read
  have soon := timely keys now (List.mem_of_mem_take made_one)
  refine ⟨_, List.mem_filterMap.mpr ⟨_, made_one, issued endpoint⟩, ⟨rfl, ?_, rfl⟩, ?_, ?_⟩
  · simp [pythonBody, decode_body]
  · simp only [nanos] at soon ⊢
    omega
  · simp only [nanos] at soon ⊢
    omega

end Python

/-! ## Whole runs -/

/-- The Python cache holds issued tokens and drops them in time, and Go holds none. -/
structure Backed (state : State) : Prop where
  python : ∀ apiKey cached, state.pythonCache apiKey = some cached → ∃ given ∈ state.issued,
    given.Backs cached.endpoint apiKey cached.token ∧ cached.expiresAt ≤ nanos given.expiresAt
  go : ∀ apiKey, state.goCache apiKey = none
  operators : state.operators = []
  sound : Sound state

section Runs

variable {sha256 : String → String} {sign : AccessToken → Option String} {state next : State}

theorem Backed.issued_more (backed : Backed state) {issued : List Issue} {returned : List Return}
    (given : next.issued = state.issued ++ issued)
    (results : next.returned = state.returned ++ returned)
    (python : ∀ apiKey cached, next.pythonCache apiKey = some cached →
      state.pythonCache apiKey = some cached ∨ ∃ given ∈ next.issued,
        given.Backs cached.endpoint apiKey cached.token ∧ cached.expiresAt ≤ nanos given.expiresAt)
    (go : next.goCache = state.goCache) (operators : next.operators = state.operators)
    (sound : ∀ result ∈ returned, ∃ issue ∈ next.issued,
      issue.Backs result.endpoint result.apiKey result.token ∧
        result.time < nanos issue.expiresAt) : Backed next := by
  have kept (one : Issue) (member : one ∈ state.issued) : one ∈ next.issued := by
    rw [given]
    exact List.mem_append_left _ member
  constructor
  · intro apiKey cached is
    rcases python apiKey cached is with old | new
    · obtain ⟨one, member, backs⟩ := backed.python apiKey cached old
      exact ⟨one, kept one member, backs⟩
    · exact new
  · rw [go]
    exact backed.go
  · rw [operators]
    exact backed.operators
  · intro result member
    rw [results] at member
    rcases List.mem_append.mp member with old | new
    · obtain ⟨one, member, backs⟩ := backed.sound result old
      exact ⟨one, kept one member, backs⟩
    · exact sound result new

theorem decodeAnswer_unissued {α : Type} {set : α → String → Value → Option α} {zero : α}
    {endpoint body : List Char} {exchange : Exchange}
    (unissued : issue sha256 sign endpoint body exchange = none) :
    Go.decodeAnswer set zero (answer sha256 sign body exchange) = none := by
  cases answered : answer sha256 sign body exchange with
  | failed => rfl
  | answered status text =>
    simp only [Go.decodeAnswer]
    split_ifs with good
    · obtain ⟨keys, now, token, rfl, rfl, issued⟩ := answer_good answered (by omega)
      rw [issued] at unissued
      cases unissued
    · rfl

theorem step_python {apiKey apikeyUrl : String} {checkedAt storedAt : Int}
    {exchanges : List Exchange} (backed : Backed state)
    (careful : Careful sha256 sign state (.python apiKey apikeyUrl checkedAt exchanges storedAt))
    (taken : step sha256 sign state (.python apiKey apikeyUrl checkedAt exchanges storedAt) =
      some next) : Backed next := by
  obtain ⟨here, timely⟩ := careful
  cases called : exchangeToken state.pythonCache apiKey apikeyUrl checkedAt
    (exchanges.map (answer sha256 sign (pythonBody apiKey))) storedAt with
  | mk after result =>
    obtain ⟨result, made⟩ := result
    simp only [step, called, Option.some.injEq] at taken
    subst taken
    rcases exchangeToken_cases called with ⟨cached, hit, rfl, rfl⟩ | ⟨rfl, rfl⟩ |
      ⟨data, token, ttl, tried, read, rfl, rfl⟩
    · obtain ⟨is, live⟩ := Option.filter_eq_some_iff.mp hit
      obtain ⟨given, there, backs, until_then⟩ := backed.python apiKey cached is
      refine backed.issued_more rfl rfl (fun _ _ => .inl) rfl rfl ?_
      intro returned member
      obtain rfl := List.mem_singleton.mp member
      refine ⟨given, List.mem_append_left _ there, here cached hit ▸ backs, ?_⟩
      exact Int.lt_of_lt_of_le (of_decide_eq_true live) until_then
    · refine backed.issued_more rfl rfl (fun _ _ => .inl) rfl rfl ?_
      intro returned member
      exact absurd member List.not_mem_nil
    · obtain ⟨given, issued, backs, unexpired, dropped⟩ :=
        fresh_issued (pythonEndpoint apikeyUrl) timely tried read
      refine backed.issued_more rfl rfl ?_ rfl rfl ?_
      · intro other entry found
        rcases update_some found with ⟨rfl, rfl⟩ | ⟨-, found⟩
        · exact .inr ⟨given, List.mem_append_right _ issued, backs, dropped⟩
        · exact .inl found
      · intro returned member
        obtain rfl := List.mem_singleton.mp member
        exact ⟨given, List.mem_append_right _ issued, backs, unexpired⟩

theorem step_go {apiKey apikeyURL : String} {checkedAt storedAt : Int} {exchange : Exchange}
    (backed : Backed state)
    (unissued : issue sha256 sign (Go.endpoint apikeyURL) (Go.requestBody apiKey) exchange = none)
    (taken : step sha256 sign state (.go apiKey apikeyURL checkedAt exchange storedAt) =
      some next) : Backed next := by
  have called : Go.exchangeToken state.goCache apiKey apikeyURL checkedAt
      (answer sha256 sign (Go.requestBody apiKey) exchange) storedAt = (state.goCache, none) := by
    simp [Go.exchangeToken, Go.hit, backed.go, decodeAnswer_unissued unissued]
  simp only [step, called, Option.some.injEq] at taken
  subst taken
  refine backed.issued_more rfl rfl (fun _ _ => .inl) rfl rfl ?_
  intro returned member
  exact absurd member List.not_mem_nil

theorem step_connect {apiKey apiKeyURL : String} {now storedAt : Int} {exchange : Exchange}
    (backed : Backed state)
    (unissued : issue sha256 sign (Go.endpoint apiKeyURL) (Go.requestBody apiKey) exchange = none)
    (taken : step sha256 sign state (.connect apiKey apiKeyURL now exchange storedAt) =
      some next) : Backed next := by
  have called : (⟨apiKey, apiKeyURL, "", 0⟩ : Go.OperatorClient).getToken now
      (answer sha256 sign (Go.requestBody apiKey) exchange) storedAt =
        (⟨apiKey, apiKeyURL, "", 0⟩, none) := by
    simp [Go.OperatorClient.getToken, decodeAnswer_unissued unissued]
  simp only [step, getToken, called, Option.some.injEq] at taken
  subst taken
  refine backed.issued_more rfl rfl (fun _ _ => .inl) rfl rfl ?_
  intro returned member
  exact absurd member List.not_mem_nil

theorem step_backed {action : Action} (backed : Backed state)
    (careful : Careful sha256 sign state action)
    (taken : step sha256 sign state action = some next) : Backed next := by
  cases action with
  | python apiKey apikeyUrl checkedAt exchanges storedAt => exact step_python backed careful taken
  | go apiKey apikeyURL checkedAt exchange storedAt => exact step_go backed careful taken
  | connect apiKey apiKeyURL now exchange storedAt => exact step_connect backed careful taken
  | getToken index now exchange storedAt => simp [step, backed.operators] at taken

theorem start_backed : Backed start where
  python apiKey cached is := by cases is
  go _ := rfl
  operators := rfl
  sound returned member := absurd member List.not_mem_nil

end Runs

theorem careful_calls_sound {sha256 : String → String} {sign : AccessToken → Option String}
    {actions : List Action}
    (careful : Along (step sha256 sign) (Careful sha256 sign) start actions) :
    Throughout (step sha256 sign) Sound start actions :=
  throughout_of_along (fun _ _ _ backed => step_backed backed) (fun _ backed => backed.sound)
    start_backed careful

/-! ## One URL for each key -/

/-- A Python call that posts its key where that key is always posted. -/
def KnownUrl (urls : String → String) : Action → Prop
  | .python apiKey apikeyUrl _ exchanges storedAt => apikeyUrl = urls apiKey ∧
    ∀ keys (now : Nat), .reached keys now ∈ exchanges → storedAt ≤ nanos (now + 2700)
  | _ => False

theorem careful_of_knownUrl (sha256 : String → String) (sign : AccessToken → Option String)
    (urls : String → String) {actions : List Action} {state : State}
    (entries : ∀ apiKey cached, state.pythonCache apiKey = some cached →
      cached.endpoint = pythonEndpoint (urls apiKey))
    (known : ∀ action ∈ actions, KnownUrl urls action) :
    Along (step sha256 sign) (Careful sha256 sign) state actions := by
  induction actions generalizing state with
  | nil => trivial
  | cons action rest ih =>
    intro next taken
    have here := known action List.mem_cons_self
    cases action with
    | python apiKey apikeyUrl checkedAt exchanges storedAt =>
      obtain ⟨rfl, timely⟩ := here
      refine ⟨⟨fun cached hit => ?_, timely⟩, ih ?_ fun other member =>
        known other (List.mem_cons_of_mem _ member)⟩
      · exact entries apiKey cached (Option.filter_eq_some_iff.mp hit).1
      · cases called : exchangeToken state.pythonCache apiKey (urls apiKey) checkedAt
          (exchanges.map (answer sha256 sign (pythonBody apiKey))) storedAt with
        | mk after result =>
          simp only [step, called, Option.some.injEq] at taken
          subst taken
          rcases exchangeToken_cases called with ⟨_, _, rfl, _⟩ | ⟨rfl, _⟩ |
            ⟨_, _, _, _, _, _, rfl⟩
          · exact entries
          · exact entries
          · intro other cached found
            rcases update_some found with ⟨rfl, rfl⟩ | ⟨-, found⟩
            · rfl
            · exact entries other cached found
    | _ => exact here.elim

/-! ## What Go makes of a token -/

theorem first_tokenBody (token : String) :
    goReader.first (tokenBody token) = some (tokenJson token) := by
  refine Reader.first_write_append goStyle goReader _ (tokenJson_within token (by decide)) _ ?_
  intro c first
  obtain rfl := Option.some.inj first
  decide

section Issued

variable {sha256 : String → String} {sign : AccessToken → Option String}

theorem answer_issued {endpoint body : List Char} {exchange : Exchange} {given : Issue}
    (issued : issue sha256 sign endpoint body exchange = some given) :
    answer sha256 sign body exchange = .answered 200 (tokenBody given.token) := by
  cases exchange with
  | failed => cases issued
  | reached keys now =>
    simp only [issue] at issued
    simp only [answer, tokenAnswer]
    cases handled : handleToken sha256 keys body now with
    | refused status message =>
      rw [handled] at issued
      cases issued
    | issued token =>
      rw [handled] at issued
      obtain ⟨text, signed, rfl⟩ := Option.map_eq_some_iff.mp issued
      simp only [signed]

-- The answer has no `token`, which `ExchangeToken` takes for an empty one.
theorem exchange_empty {endpoint body : List Char} {exchange : Exchange} {given : Issue}
    (issued : issue sha256 sign endpoint body exchange = some given) :
    Go.decodeAnswer Go.Out.set ⟨"", 0⟩ (answer sha256 sign body exchange) = some ⟨"", 3600⟩ := by
  rw [answer_issued issued, Go.decodeAnswer, if_pos rfl, decodeStruct, first_tokenBody]
  simp [tokenJson, Go.Out.set, foldEqual, foldRune, Cloud.Fleet.decodeGoInt, Number.toInt?_ofInt,
    Option.filter]

theorem operator_empty {endpoint body : List Char} {exchange : Exchange} {given : Issue}
    (issued : issue sha256 sign endpoint body exchange = some given) :
    Go.decodeAnswer Go.OperatorOut.set ⟨"", 0⟩ (answer sha256 sign body exchange) =
      some ⟨"", 0⟩ := by
  rw [answer_issued issued, Go.decodeAnswer, if_pos rfl, decodeStruct, first_tokenBody]
  simp [tokenJson, Go.OperatorOut.set, foldEqual, foldRune]

theorem empty_unsound {state : State} {result : Return} (returned : result ∈ state.returned)
    (empty : result.token = .string "") (filled : ∀ given ∈ state.issued, given.token ≠ "") :
    ¬Sound state := by
  intro sound
  obtain ⟨given, issued, ⟨-, -, same⟩, -⟩ := sound result returned
  exact filled given issued (Value.string.inj (same.symm.trans empty))

-- Where no token is empty, a Go call that is issued one breaks the promise.
theorem go_unsound {state next : State} {apiKey apikeyURL : String} {checkedAt storedAt : Int}
    {exchange : Exchange} {given : Issue}
    (unknown : Go.hit state.goCache apiKey checkedAt = none)
    (issued : issue sha256 sign (Go.endpoint apikeyURL) (Go.requestBody apiKey) exchange =
      some given)
    (taken : step sha256 sign state (.go apiKey apikeyURL checkedAt exchange storedAt) = some next)
    (filled : ∀ given ∈ next.issued, given.token ≠ "") : ¬Sound next := by
  cases called : Go.exchangeToken state.goCache apiKey apikeyURL checkedAt
    (answer sha256 sign (Go.requestBody apiKey) exchange) storedAt with
  | mk cache result =>
    have empty : result = some ("", storedAt) := by
      simp only [Go.exchangeToken, unknown, exchange_empty issued, Prod.mk.injEq] at called
      exact called.2.symm
    simp only [step, called, empty, Option.some.injEq] at taken
    subst taken
    exact empty_unsound (List.mem_append_right _ (List.mem_singleton.mpr rfl)) rfl filled

theorem connect_unsound {state next : State} {apiKey apiKeyURL : String} {now storedAt : Int}
    {exchange : Exchange} {given : Issue}
    (issued : issue sha256 sign (Go.endpoint apiKeyURL) (Go.requestBody apiKey) exchange =
      some given)
    (taken : step sha256 sign state (.connect apiKey apiKeyURL now exchange storedAt) = some next)
    (filled : ∀ given ∈ next.issued, given.token ≠ "") : ¬Sound next := by
  cases called : (⟨apiKey, apiKeyURL, "", 0⟩ : Go.OperatorClient).getToken now
    (answer sha256 sign (Go.requestBody apiKey) exchange) storedAt with
  | mk o result =>
    have empty : result = some ("", storedAt) := by
      simp [Go.OperatorClient.getToken, operator_empty issued] at called
      exact called.2.symm
    simp only [step, getToken, called, empty, Option.some.injEq] at taken
    subst taken
    exact empty_unsound (List.mem_append_right _ (List.mem_singleton.mpr rfl)) rfl filled

end Issued

/-! ## Two runs -/

def sampleHash (apiKey : String) : String :=
  if apiKey = "ssk_live_0123456789abcdef0123456789abcdef" then
    "a4a114fb26c14edcbb463d57238a0c9048068a64ae8ea2a7592a37a6f5f3915d"
  else ""

def sampleSign (_ : AccessToken) : Option String := some "eyJhbGciOiJSUzI1NiJ9.e30.c2ln"

def sampleKeys : List ApiKey :=
  [⟨"k1", "org1", "drone", "0123456789ab",
    "a4a114fb26c14edcbb463d57238a0c9048068a64ae8ea2a7592a37a6f5f3915d", "\x7bread\x7d",
    "ops@example.com", false⟩]

def sampleKey : String := "ssk_live_0123456789abcdef0123456789abcdef"

def sampleUrl : String := "https://auth.example.com"

/-- A fresh token, and the same from the cache ten minutes later. -/
def pythonCalls : List Action :=
  [.python sampleKey sampleUrl (nanos 1700000000) [.reached sampleKeys 1700000000]
      (nanos 1700000001),
    .python sampleKey sampleUrl (nanos 1700000600) [] (nanos 1700000600)]

theorem pythonCalls_sound :
    Throughout (step sampleHash sampleSign) Sound start pythonCalls := by
  refine careful_calls_sound
    (careful_of_knownUrl _ _ (fun _ => sampleUrl) (fun _ _ none => by cases none) ?_)
  intro action member
  simp only [pythonCalls, List.mem_cons, List.not_mem_nil, or_false] at member
  rcases member with rfl | rfl
  · refine ⟨rfl, fun keys now there => ?_⟩
    obtain ⟨rfl, rfl⟩ := Exchange.reached.inj (List.mem_singleton.mp there)
    decide
  · exact ⟨rfl, fun keys now there => absurd there List.not_mem_nil⟩

theorem sample_issue (endpoint : List Char) :
    issue sampleHash sampleSign endpoint (Go.requestBody sampleKey)
      (.reached sampleKeys 1700000000) =
        some ⟨endpoint, sampleKey, "eyJhbGciOiJSUzI1NiJ9.e30.c2ln", 1700003600⟩ := by
  rw [issue, handleToken, Go.requestBody, decode_body]
  rfl

theorem go_returns_nothing :
    ∃ final, exec (step sampleHash sampleSign) start
        [.go sampleKey sampleUrl (nanos 1700000000) (.reached sampleKeys 1700000000)
          (nanos 1700000001)] = some final ∧ ¬Sound final := by
  have issued := sample_issue (Go.endpoint sampleUrl)
  refine ⟨_, rfl, go_unsound rfl issued rfl fun given member => ?_⟩
  rw [issued] at member
  obtain rfl := List.mem_singleton.mp member
  decide

end SystemScale.Contract.Tokens

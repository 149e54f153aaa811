import SystemScale.Contract.FilterPlace

set_option autoImplicit false

/-!
# The parameters of a query

A body of `POST /v1/query` may number placeholders in its text and give their values. The filter has
a placeholder of its own.
-/

namespace SystemScale.Contract

open Cloud

variable (unicode : Unicode)

-- Which placeholders the database finds in a text is up to it.
variable (written : List Char → Nat → Prop)

/-- The caller's placeholders get the values of the body, the filter's the organisation. -/
structure ParamsBound (claims : Claims) (req : QueryRequest) (sql : GoString)
    (args : List String) : Prop where
  callers : ∀ i, written req.sql.toList (i + 1) → args[i]?.map Json.Value.string = req.params[i]?
  filters : sql ≠ goBytes (trimSpace req.sql.toList) → args[0]? = some claims.orgID

/-- A filter is put into the text. -/
def Filtered (text : List Char) : Prop :=
  contains (toLower unicode text) "telemetry" = true ∧
    contains (toLower unicode text) "org_id" = false

instance (text : List Char) : Decidable (Filtered unicode text) := inferInstanceAs (Decidable (_ ∧ _))

/-- No value is given for a placeholder of the text, except that the first one may be given what the
filter's has. -/
def ParamsIdle (claims : Claims) (req : QueryRequest) : Prop :=
  ∀ i, written req.sql.toList (i + 1) →
    if i = 0 ∧ Filtered unicode (trimSpace req.sql.toList) then
      req.params[0]? = some (.string claims.orgID)
    else req.params.length ≤ i

variable {unicode written} in
theorem unfiltered_args {text : List Char} {org : String} {sql : GoString} {args : List String}
    (unfiltered : ¬ Filtered unicode text)
    (injected : injectOrgFilter unicode text org = some (sql, args)) :
    sql = goBytes text ∧ args = [] := by
  cases table : contains (toLower unicode text) "telemetry" with
  | false =>
    rw [injectOrgFilter_other table] at injected
    obtain ⟨rfl, rfl⟩ := Prod.mk.inj (Option.some.inj injected)
    exact ⟨rfl, rfl⟩
  | true =>
    cases named : contains (toLower unicode text) "org_id" with
    | false => exact absurd ⟨table, named⟩ unfiltered
    | true =>
      rw [injectOrgFilter_named named] at injected
      obtain ⟨rfl, rfl⟩ := Prod.mk.inj (Option.some.inj injected)
      exact ⟨rfl, rfl⟩

/-- The values of a body are not passed on. -/
theorem params_bound_iff {method : String} {claims : Claims} {body : List Char}
    {req : QueryRequest} {sql : GoString} {args : List String}
    (decoded : QueryRequest.decode body = some req)
    (answered : handleQuery unicode method (some claims) body = .query sql args) :
    ParamsBound written claims req sql args ↔ ParamsIdle unicode written claims req := by
  have injected := handleQuery_query unicode decoded answered
  by_cases filtered : Filtered unicode (trimSpace req.sql.toList)
  · obtain ⟨_, rfl, _⟩ := injectOrgFilter_unnamed filtered.1 filtered.2 injected
    constructor
    · intro bound i stands
      have value := bound.callers i stands
      cases i with
      | zero =>
        rw [if_pos ⟨rfl, filtered⟩]
        exact value.symm
      | succ i =>
        rw [if_neg (by simp)]
        exact List.getElem?_eq_none_iff.mp value.symm
    · intro idle
      refine ⟨fun i stands => ?_, fun _ => rfl⟩
      have value := idle i stands
      cases i with
      | zero =>
        rw [if_pos ⟨rfl, filtered⟩] at value
        exact value.symm
      | succ i =>
        rw [if_neg (by simp)] at value
        exact (List.getElem?_eq_none_iff.mpr value).symm
  · obtain ⟨unchanged, rfl⟩ := unfiltered_args filtered injected
    constructor
    · intro bound i stands
      rw [if_neg fun both => filtered both.2]
      exact List.getElem?_eq_none_iff.mp (bound.callers i stands).symm
    · intro idle
      refine ⟨fun i stands => ?_, fun other => absurd unchanged other⟩
      have value := idle i stands
      rw [if_neg fun both => filtered both.2] at value
      exact (List.getElem?_eq_none_iff.mpr value).symm

/-- A dollar sign and the digits of the number stand somewhere in the text. -/
def dollarNumber (text : List Char) (k : Nat) : Prop := '$' :: Nat.toDigits 10 k <:+: text

def paramSql : String := "SELECT a FROM telemetry WHERE a = $1"

def paramBody (value : String) : List Char :=
  "\x7b\"sql\":\"".toList ++ paramSql.toList ++ "\",\"params\":[\"".toList ++ value.toList ++
    "\"]\x7d".toList

def paramFiltered : GoString := goBytes "SELECT a FROM telemetry WHERE a = $1 AND org_id = $1 ".toList

theorem paramBody_answered {body : List Char} {params : List Json.Value}
    (decoded : QueryRequest.decode body = some ⟨paramSql, params⟩) :
    handleQuery asciiUnicode "POST" (some acmeCaller) body = .query paramFiltered ["acme"] := by
  have filled : paramSql ≠ "" := by decide
  have select : "SELECT".toList.isPrefixOf
      ((trimSpace paramSql.toList).map asciiUnicode.toUpper) = true := by
    decide +kernel
  have injected : injectOrgFilter asciiUnicode (trimSpace paramSql.toList) acmeCaller.orgID =
      some (paramFiltered, ["acme"]) := by
    decide +kernel
  obtain ⟨sql, args, answered⟩ := handleQuery_accepts asciiUnicode decoded filled select
    (Option.isSome_iff_exists.mpr ⟨_, injected⟩)
  have same := handleQuery_query asciiUnicode decoded answered
  rw [injected] at same
  obtain ⟨rfl, rfl⟩ := Prod.mk.inj (Option.some.inj same)
  exact answered

theorem org_param_bound :
    ParamsBound dollarNumber acmeCaller ⟨paramSql, [.string "acme"]⟩ paramFiltered ["acme"] := by
  have decoded : QueryRequest.decode (paramBody "acme") = some ⟨paramSql, [.string "acme"]⟩ := rfl
  refine (params_bound_iff asciiUnicode dollarNumber decoded (paramBody_answered decoded)).mpr ?_
  intro i _
  split_ifs with first
  · rfl
  · refine Nat.one_le_iff_ne_zero.mpr fun zero => first ⟨zero, ?_⟩
    decide +kernel

/-- The caller's `$1` gets the organisation in the place of `x`. -/
theorem param_not_bound :
    handleQuery asciiUnicode "POST" (some acmeCaller) (paramBody "x") =
        .query paramFiltered ["acme"] ∧
      QueryRequest.decode (paramBody "x") = some ⟨paramSql, [.string "x"]⟩ ∧
      dollarNumber paramSql.toList 1 ∧
      ¬ ParamsBound dollarNumber acmeCaller ⟨paramSql, [.string "x"]⟩ paramFiltered ["acme"] := by
  have decoded : QueryRequest.decode (paramBody "x") = some ⟨paramSql, [.string "x"]⟩ := rfl
  have stands : dollarNumber paramSql.toList 1 :=
    ⟨"SELECT a FROM telemetry WHERE a = ".toList, [], rfl⟩
  refine ⟨paramBody_answered decoded, decoded, stands, fun bound => ?_⟩
  have value : some (Json.Value.string "acme") = some (Json.Value.string "x") :=
    bound.callers 0 stands
  simp at value

end SystemScale.Contract

import SystemScale.Agent.LocalApi
import SystemScale.Cloud.Commands
import SystemScale.Sdk.PythonMessage

set_option autoImplicit false

/-!
# Alerts and requests for assistance

A call merges the caller's data over its own entries, flattens nested maps or leaves them, and posts
the result to the agent.
-/

namespace SystemScale.Sdk

open Agent (mapInsert)
open Cloud (goStyle GoString)
open Json

/-- An entry of a data map: a map again, or what the JSON writer makes of anything else. -/
inductive Item where
  | map (entries : List (String × Item))
  | other (value : Value)

abbrev Entries := List (String × Item)

abbrev Object := List (String × Value)

/-- `payload[k] = v`. A new key comes last. -/
def assign {α : Type} (key : String) (value : α) (payload : List (String × α)) :
    List (String × α) :=
  if key ∈ payload.map Prod.fst then
    payload.map fun entry => if entry.1 = key then (key, value) else entry
  else payload ++ [(key, value)]

def update (payload data : Entries) : Entries :=
  data.foldl (fun payload entry => assign entry.1 entry.2 payload) payload

/-! ## Nested maps -/

section Nested

-- Python keeps the keys of a dict as they came; Go writes those of a map in order.
variable (insert : String → Value → Object → Object)

mutual

def Item.toJson : Item → Value
  | .map entries => .object (objectFrom [] entries)
  | .other value => value

def objectFrom (result : Object) : Entries → Object
  | [] => result
  | (key, item) :: rest => objectFrom (insert key item.toJson result) rest

end

def fullKey (before key : String) : String := if before ≠ "" then before ++ "/" ++ key else key

mutual

def flattenItem (full : String) (result : Object) : Item → Object
  | .map nested =>
    (flattenFrom full [] nested).foldl (fun result field => insert field.1 field.2 result) result
  | .other value => insert full value result

def flattenFrom (before : String) (result : Object) : Entries → Object
  | [] => result
  | (key, item) :: rest => flattenFrom before (flattenItem (fullKey before key) result item) rest

end

/-- The entries in the order they are visited, which Go leaves open. -/
def flattenKeys (data : Entries) (before : String) : Object := flattenFrom insert before [] data

end Nested

/-! ## Entries under their own names -/

mutual

def Item.named (key : String) : Item → Object
  | .map nested => if key = "" then named nested else []
  | .other value => [(key, value)]

/-- The entries that flattening leaves their names. A map under the empty key counts with its own. -/
def named : Entries → Object
  | [] => []
  | (key, item) :: rest => item.named key ++ named rest

end

/-- After a value is put under a key, the key has that value, and other keys have what they had. -/
def Inserts (insert : String → Value → Object → Object) : Prop :=
  ∀ key value fields other, lookup other (insert key value fields) =
    if other = key then some value else lookup other fields

theorem lookup_replace (key other : String) (value : Value) (fields : Object) :
    lookup other (fields.map fun entry => if entry.1 = key then (key, value) else entry) =
      if other = key then (lookup other fields).map fun _ => value else lookup other fields := by
  induction fields with
  | nil => split_ifs <;> rfl
  | cons entry rest ih =>
    obtain ⟨name, old⟩ := entry
    rw [List.map_cons, lookup_cons name old]
    by_cases named : name = key
    · subst named
      rw [if_pos rfl, lookup_cons, ih]
      split_ifs with same
      · cases lookup other rest <;> rfl
      · rfl
    · rw [if_neg named, lookup_cons, ih]
      split_ifs with same here here
      · exact absurd (here.symm.trans same) named
      · cases lookup other rest <;> rfl
      · rfl
      · rfl

theorem assign_inserts : Inserts assign := by
  intro key value fields other
  unfold assign
  by_cases there : key ∈ fields.map Prod.fst
  · rw [if_pos there, lookup_replace]
    split_ifs with same
    · subst same
      cases found : lookup other fields with
      | none => exact absurd there (lookup_eq_none.mp found)
      | some old => rfl
    · rfl
  · rw [if_neg there, lookup_append, lookup_single]
    split_ifs <;> rfl

theorem lookup_split (p : String × Value → Bool) (key : String) (fields : Object) :
    lookup key fields = (lookup key (fields.dropWhile p)).or (lookup key (fields.takeWhile p)) := by
  rw [← lookup_append, List.takeWhile_append_dropWhile]

theorem mapInsert_inserts : Inserts mapInsert := by
  intro key value fields other
  simp only [mapInsert]
  rw [lookup_append, lookup_cons, Option.or_assoc]
  by_cases same : other = key
  · subst same
    have absent : lookup other (fields.filter fun field => field.1 ≠ other) = none := by
      rw [lookup_eq_none]
      simp
    rw [lookup_split fun field => field.1 < other, Option.or_eq_none_iff] at absent
    rw [absent.1, if_pos rfl, if_pos rfl]
    rfl
  · have kept : lookup other (fields.filter fun field => field.1 ≠ key) = lookup other fields :=
      lookup_filter (fun _ => by simpa using same) fields
    rw [lookup_split fun field => field.1 < key] at kept
    rw [if_neg same, if_neg same, Option.none_or, kept]

theorem named_slash (item : Item) {key name : String} (slash : '/' ∈ name.toList)
    (plain : '/' ∉ key.toList) : lookup key (item.named name) = none := by
  cases item with
  | other value =>
    have different : key ≠ name := fun same => plain (same ▸ slash)
    rw [Item.named, lookup_single, if_neg different]
  | map nested =>
    have nonempty : name ≠ "" := by
      rintro rfl
      simp at slash
    rw [Item.named, if_neg nonempty]
    rfl

section Lookups

variable {insert : String → Value → Object → Object} (inserts : Inserts insert) {key : String}
include inserts

theorem lookup_insertAll (fields result : Object) :
    lookup key (fields.foldl (fun result field => insert field.1 field.2 result) result) =
      (lookup key fields).or (lookup key result) := by
  induction fields generalizing result with
  | nil => rfl
  | cons field rest ih =>
    rw [List.foldl_cons, ih, inserts, lookup_cons, Option.or_assoc]
    split_ifs <;> rfl

theorem lookup_objectFrom (entries : Entries) (result : Object) :
    lookup key (objectFrom insert result entries) =
      (lookup key (entries.map fun entry => (entry.1, entry.2.toJson insert))).or
        (lookup key result) := by
  induction entries generalizing result with
  | nil => rw [objectFrom]; rfl
  | cons entry rest ih =>
    rw [objectFrom, ih, inserts, List.map_cons, lookup_cons, Option.or_assoc]
    split_ifs <;> rfl

end Lookups

mutual

theorem lookup_flattenItem {insert : String → Value → Object → Object} (inserts : Inserts insert)
    {key : String} (plain : '/' ∉ key.toList) (item : Item) (full : String)
    (result : Object) : lookup key (flattenItem insert full result item) =
      (lookup key (item.named full)).or (lookup key result) := by
  cases item with
  | other value =>
    rw [flattenItem, inserts, Item.named, lookup_single]
    split_ifs <;> rfl
  | map nested =>
    rw [flattenItem, lookup_insertAll inserts, lookup_flattenFrom inserts plain nested full [], Item.named]
    split_ifs
    · rw [lookup_nil, Option.or_none]
    · rfl

theorem lookup_flattenFrom {insert : String → Value → Object → Object} (inserts : Inserts insert)
    {key : String} (plain : '/' ∉ key.toList) (entries : Entries) (before : String)
    (result : Object) : lookup key (flattenFrom insert before result entries) =
      (if before = "" then lookup key (named entries) else none).or (lookup key result) := by
  cases entries with
  | nil =>
    rw [flattenFrom, named]
    split_ifs <;> rfl
  | cons entry rest =>
    obtain ⟨name, item⟩ := entry
    rw [flattenFrom, lookup_flattenFrom inserts plain rest, lookup_flattenItem inserts plain item, named, lookup_append]
    by_cases top : before = ""
    · rw [if_pos top, if_pos top, fullKey, if_neg (not_not.mpr top), Option.or_assoc]
    · have slash : '/' ∈ (fullKey before name).toList := by simp [fullKey, top]
      rw [if_neg top, if_neg top, named_slash item slash plain]
      rfl

end

theorem lookup_flattenKeys {insert : String → Value → Object → Object} (inserts : Inserts insert)
    {key : String} (plain : '/' ∉ key.toList) (entries : Entries) :
    lookup key (flattenKeys insert entries "") = lookup key (named entries) := by
  rw [flattenKeys, lookup_flattenFrom inserts plain, if_pos rfl, lookup_nil, Option.or_none]

/-! ## Entries that the data leaves alone -/

section Untouched

variable {payload data visited : Entries} {key : String}

theorem mem_assign {α : Type} {value : α} {payload : List (String × α)} {entry : String × α}
    (member : entry ∈ assign key value payload) : entry ∈ payload ∨ entry = (key, value) := by
  unfold assign at member
  split_ifs at member
  · obtain ⟨old, inside, rfl⟩ := List.mem_map.mp member
    split_ifs
    · exact .inr rfl
    · exact .inl inside
  · simpa using member

theorem assign_keeps {α : Type} {value old : α} {payload : List (String × α)} {other : String}
    (different : other ≠ key) (member : (other, old) ∈ payload) :
    (other, old) ∈ assign key value payload := by
  unfold assign
  split_ifs
  · exact List.mem_map.mpr ⟨_, member, by rw [if_neg different]⟩
  · exact List.mem_append_left _ member

theorem mem_update {entry : String × Item} (member : entry ∈ update payload data) :
    entry ∈ payload ∨ entry ∈ data := by
  induction data generalizing payload with
  | nil => exact .inl member
  | cons first rest ih =>
    have merged : entry ∈ update (assign first.1 first.2 payload) rest := member
    rcases ih merged with before | later
    · rcases mem_assign before with old | rfl
      · exact .inl old
      · exact .inr (by simp)
    · exact .inr (List.mem_cons_of_mem _ later)

theorem update_keeps (absent : key ∉ data.map Prod.fst) {item : Item}
    (member : (key, item) ∈ payload) : (key, item) ∈ update payload data := by
  induction data generalizing payload with
  | nil => exact member
  | cons first rest ih =>
    rw [List.map_cons, List.mem_cons, not_or] at absent
    exact ih absent.2 (assign_keeps absent.1 member)

theorem mem_named {field : String × Value} : ∀ {entries : Entries},
    field ∈ named entries ↔ ∃ entry ∈ entries, field ∈ entry.2.named entry.1
  | [] => by simp [named]
  | (name, item) :: rest => by simp [named, mem_named]

/-- Neither an entry of the data nor one of a map under its empty keys has the name. -/
def Untouched (data : Entries) (key : String) : Prop :=
  key ∉ data.map Prod.fst ∧ key ∉ (named data).map Prod.fst

instance (data : Entries) (key : String) : Decidable (Untouched data key) :=
  inferInstanceAs (Decidable (_ ∧ _))

/-- The SDK's own entry of the name, which is no map and the only one. -/
structure Own (payload : Entries) (key : String) (value : Value) : Prop where
  plain : ∀ entry ∈ payload, ∃ value, entry.2 = .other value
  there : (key, .other value) ∈ payload
  only : ∀ item, (key, item) ∈ payload → item = .other value

theorem Own.named {value : Value} (own : Own payload key value) (untouched : Untouched data key)
    (order : visited.Perm (update payload data)) : lookup key (named visited) = some value := by
  have stays : (key, .other value) ∈ visited :=
    order.mem_iff.mpr (update_keeps untouched.1 own.there)
  apply lookup_unique
  · exact mem_named.mpr ⟨_, stays, List.mem_singleton.mpr rfl⟩
  · intro other member
    obtain ⟨⟨name, item⟩, inside, field⟩ := mem_named.mp member
    rcases mem_update (order.mem_iff.mp inside) with reserved | given
    · obtain ⟨found, rfl⟩ := own.plain _ reserved
      obtain ⟨rfl, rfl⟩ := Prod.mk.inj (List.mem_singleton.mp field)
      exact Item.other.inj (own.only _ reserved)
    · have inData := mem_named.mpr ⟨_, given, field⟩
      exact absurd (List.mem_map_of_mem inData) untouched.2

theorem Own.toJson {value : Value} (own : Own payload key value) (untouched : Untouched data key)
    (insert : String → Value → Object → Object) :
    lookup key ((update payload data).map fun entry => (entry.1, entry.2.toJson insert)) =
      some value := by
  have stays := update_keeps untouched.1 own.there
  apply lookup_unique
  · exact List.mem_map.mpr ⟨_, stays, by rw [Item.toJson]⟩
  · intro other member
    obtain ⟨⟨name, item⟩, inside, same⟩ := List.mem_map.mp member
    obtain ⟨rfl, rfl⟩ := Prod.mk.inj same
    rcases mem_update inside with reserved | given
    · rw [own.only _ reserved, Item.toJson]
    · exact absurd (List.mem_map_of_mem given) untouched.1

end Untouched

/-! ## Calls -/

def alertEntries (level message : String) : Entries :=
  [("_event_type", .other (.number (.ofInt 101))), ("level", .other (.string level)),
    ("message", .other (.string message))]

def assistanceEntries (requestId reason : String) : Entries :=
  [("_event_type", .other (.number (.ofInt 102))), ("_request_id", .other (.string requestId)),
    ("reason", .other (.string reason))]

def zero : Value := .number (.ofInt 0)

def floatZero : Value := .number ⟨['0', '.', '0'], by decide, by decide⟩

-- Strings of Go may hold any bytes.
def goString (text : GoString) : String := Utf8.replaceBytes text

@[simp] theorem goString_encode (text : String) : goString (Utf8.encode text) = text :=
  Utf8.replaceBytes_encode text

/-- The frame that `Client.Alert` and `Client.RequestAssistance` queue, as `runSender` posts it. -/
def logFrame (projectID : GoString) (data : Object) : List Char :=
  Value.write goStyle (.object ([("data", .object data), ("stream", .string "event")] ++
    (if projectID ≠ [] then [("project_id", .string (goString projectID))] else []) ++
    [("lat", zero), ("lon", zero), ("alt", zero)]))

/-- The body that Go's `sendEvent` posts. -/
def sendEvent (project : GoString) (message level : GoString) (data : Entries)
    (target : GoString) : List Char :=
  let payload := update (alertEntries (goString level) (goString message)) data
  Value.write goStyle (.object ([("alt", zero), ("data", .object (objectFrom mapInsert [] payload)),
    ("lat", zero), ("lon", zero), ("project_id", .string (goString project)),
    ("stream", .string "event")] ++
    if target ≠ [] then [("to", .string (goString target))] else []))

/-- The body that Python's `_send_event` posts. -/
def pythonSendEvent (project message level : String) (data : Option Entries)
    (target : Option String) : List Char :=
  let payload := update (alertEntries level message) (data.getD [])
  Value.write pythonStyle (.object ([("data", .object (objectFrom assign [] payload)),
    ("stream", .string "event"), ("project_id", .string project), ("lat", floatZero),
    ("lon", floatZero), ("alt", floatZero)] ++
    if target.getD "" ≠ "" then [("to", .string (target.getD ""))] else []))

/-- The body of the frame that Python's `request_assistance` queues. -/
def pythonRequestAssistance (project requestId reason : String) (data : Option Entries) :
    List Char :=
  let payload := update (assistanceEntries requestId reason) (data.getD [])
  Value.write pythonStyle (.object [("data", .object (flattenKeys assign payload "")),
    ("stream", .string "event"), ("lat", floatZero), ("lon", floatZero), ("alt", floatZero),
    ("project_id", .string project)])

end SystemScale.Sdk

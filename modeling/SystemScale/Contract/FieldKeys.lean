import Mathlib.Data.Set.Defs
import SystemScale.Cloud.Questdb
import SystemScale.Sdk.Events

set_option autoImplicit false

/-!
# The columns of logged keys

The storage writer names a column after a key, the Python operator names it in a query, and turns
the names of the columns in the rows back into keys.
-/

namespace SystemScale.Contract.FieldKeys

open Cloud (escapeILPFieldKey storedColumn storedColumn_eq_iff)
open Replace (replace Apart)

/-! ## The query -/

/-- What the operator asks for. Commas come between the columns of several keys. -/
def queryColumn (k : String) : String :=
  String.ofList (replace "/".toList "__".toList k.toList)

def queryKeys (keys : List String) : String := ",".intercalate (keys.map queryColumn)

def rowNames : List String := ["device_id", "timestamp", "stream_type"]

/-- The key that a column of a row becomes, unless the row itself is meant. -/
def fieldName (column : String) : Option String :=
  if column ∈ rowNames then none
  else some (String.ofList (replace "__".toList "/".toList column.toList))

def rowFields {V : Type} (row : List (String × V)) : List (String × V) :=
  (row.filterMap fun (column, value) => (fieldName column).map fun k => (k, value)).foldl
    (fun fields entry => Sdk.assign entry.1 entry.2 fields) []

/-! ## Keys that come back -/

/-- For these keys both sides have one column each, and no two of them the same. -/
structure Faithful (keys : Set String) : Prop where
  same : ∀ k ∈ keys, storedColumn (Utf8.encode k) = some (Utf8.encode (queryColumn k))
  back : ∀ k ∈ keys, fieldName (queryColumn k) = some k
  distinct : ∀ first ∈ keys, ∀ second ∈ keys, first ≠ second →
    storedColumn (Utf8.encode first) ≠ storedColumn (Utf8.encode second)

structure Plain (k : String) : Prop where
  filled : k ≠ ""
  unbroken : '\n' ∉ k.toList ∧ '\r' ∉ k.toList
  closed : k.toList.getLast? ≠ some '\\'
  apart : Apart '_' '/' k.toList
  free : k ∉ rowNames

section Keys

variable {k : String}

theorem replaced_key (k : String) :
    replace (Utf8.encode "/") (Utf8.encode "__") (Utf8.encode k) = Utf8.encode (queryColumn k) :=
  @Replace.replace_encode '/' 0x2F (by decide) rfl "__" k

theorem queryColumn_toList (k : String) :
    (queryColumn k).toList = replace ['/'] ['_', '_'] k.toList := String.toList_ofList

theorem column_byte {c : Char} {b : UInt8} (ascii : b.toNat < 0x80) (is : c.toNat = b.toNat)
    (other : c ≠ '_' ∧ c ≠ '/') : b ∈ Utf8.encode (queryColumn k) ↔ c ∈ k.toList := by
  rw [Utf8.ascii_mem_encode ascii is, queryColumn_toList,
    Replace.mem_replace_double other.1 other.2]

theorem column_last {c : Char} {b : UInt8} (ascii : b.toNat < 0x80) (is : c.toNat = b.toNat)
    (other : c ≠ '_' ∧ c ≠ '/') :
    (Utf8.encode (queryColumn k)).getLast? = some b ↔ k.toList.getLast? = some c := by
  rw [Utf8.ascii_last_encode ascii is, queryColumn_toList,
    Replace.getLast_replace_double other.1 other.2]

theorem column_empty : Utf8.encode (queryColumn k) = [] ↔ k = "" := by
  rw [Utf8.encode_eq_nil, ← String.toList_inj, queryColumn_toList, ← String.toList_inj]
  cases k.toList with
  | nil => exact Iff.rfl
  | cons c rest =>
    refine iff_of_false (fun empty => ?_) (by simp)
    by_cases slash : c = '/'
    · subst slash
      rw [Replace.replace_symbol] at empty
      simp at empty
    · rw [Replace.replace_other slash] at empty
      simp at empty

theorem same_iff : storedColumn (Utf8.encode k) = some (Utf8.encode (queryColumn k)) ↔
    k ≠ "" ∧ ('\n' ∉ k.toList ∧ '\r' ∉ k.toList) ∧ k.toList.getLast? ≠ some '\\' := by
  rw [storedColumn_eq_iff (replaced_key k), Ne, column_empty,
    column_byte (c := '\n') (by decide) rfl (by decide),
    column_byte (c := '\r') (by decide) rfl (by decide), Ne,
    column_last (c := '\\') (by decide) rfl (by decide), and_assoc]

theorem restored_iff : String.ofList (replace "__".toList "/".toList (queryColumn k).toList) = k ↔
    Apart '_' '/' k.toList := by
  rw [← String.toList_inj, String.toList_ofList, queryColumn_toList]
  exact Replace.replace_back_iff (by decide) k.toList

theorem queryColumn_rowName (apart : Apart '_' '/' k.toList) :
    queryColumn k ∈ rowNames ↔ k ∈ rowNames := by
  -- The names have no slash, and no two underscores side by side.
  have fixed : ∀ name ∈ rowNames, queryColumn name = name ∧
      String.ofList (replace "__".toList "/".toList name.toList) = name := by
    decide +kernel
  constructor
  · intro member
    have restored := restored_iff.mpr apart
    rw [(fixed _ member).2] at restored
    exact restored ▸ member
  · intro member
    exact (fixed k member).1.symm ▸ member

theorem back_iff : fieldName (queryColumn k) = some k ↔ Apart '_' '/' k.toList ∧ k ∉ rowNames := by
  rw [fieldName]
  constructor
  · intro back
    split_ifs at back with taken
    have apart := restored_iff.mp (Option.some.inj back)
    exact ⟨apart, fun member => taken ((queryColumn_rowName apart).mpr member)⟩
  · rintro ⟨apart, free⟩
    rw [if_neg fun taken => free ((queryColumn_rowName apart).mp taken), restored_iff.mpr apart]

theorem plain_iff : Plain k ↔
    storedColumn (Utf8.encode k) = some (Utf8.encode (queryColumn k)) ∧
      fieldName (queryColumn k) = some k := by
  rw [same_iff, back_iff]
  exact ⟨fun ⟨filled, unbroken, closed, apart, free⟩ => ⟨⟨filled, unbroken, closed⟩, apart, free⟩,
    fun ⟨⟨filled, unbroken, closed⟩, apart, free⟩ => ⟨filled, unbroken, closed, apart, free⟩⟩

end Keys

/-- Storage and query have the same columns, one for each key, exactly for keys that are plain. -/
theorem faithful_iff (keys : Set String) : Faithful keys ↔ ∀ k ∈ keys, Plain k := by
  constructor
  · rintro ⟨same, back, _⟩ k member
    exact plain_iff.mpr ⟨same k member, back k member⟩
  · intro plain
    have same k member := (plain_iff.mp (plain k member)).1
    have back k member := (plain_iff.mp (plain k member)).2
    refine ⟨same, back, fun first one second two different equal => different ?_⟩
    rw [same first one, same second two, Option.some_inj] at equal
    have column := Utf8.encode_injective equal
    have fields := (back first one).symm.trans ((congrArg fieldName column).trans (back second two))
    exact Option.some.inj fields

theorem assign_fresh {V : Type} {k : String} {fields : List (String × V)}
    (fresh : k ∉ fields.map Prod.fst) (value : V) :
    Sdk.assign k value fields = fields ++ [(k, value)] := by
  rw [Sdk.assign, if_neg fresh]

theorem foldl_assign_fresh {V : Type} {entries fields : List (String × V)}
    (nodup : ((fields ++ entries).map Prod.fst).Nodup) :
    entries.foldl (fun fields entry => Sdk.assign entry.1 entry.2 fields) fields =
      fields ++ entries := by
  induction entries generalizing fields with
  | nil => simp
  | cons entry rest ih =>
    have fresh : entry.1 ∉ fields.map Prod.fst := by
      rw [List.map_append, List.nodup_append] at nodup
      exact fun member => nodup.2.2 _ member _ List.mem_cons_self rfl
    rw [List.foldl_cons, assign_fresh fresh, ih (by simpa using nodup), List.append_assoc]
    rfl

-- A row that was stored under plain keys has its fields back.
theorem rowFields_plain {V : Type} {entries : List (String × V)}
    (plain : ∀ entry ∈ entries, Plain entry.1) (nodup : (entries.map Prod.fst).Nodup) :
    rowFields (entries.map fun (k, value) => (queryColumn k, value)) = entries := by
  have fields : (entries.map fun (k, value) => (queryColumn k, value)).filterMap
      (fun (column, value) => (fieldName column).map fun k => (k, value)) = entries := by
    rw [List.filterMap_map]
    conv_rhs => rw [← @List.filterMap_some _ entries]
    refine List.filterMap_congr fun entry member => ?_
    have back := (plain_iff.mp (plain entry member)).2
    simp [back]
  rw [rowFields, fields]
  exact foldl_assign_fresh nodup

/-- Two underscores come back as a slash, and share the column of the key with the slash. -/
theorem underscores_taken :
    fieldName (queryColumn "motor__temp") = some "motor/temp" ∧
      storedColumn (Utf8.encode "motor__temp") = storedColumn (Utf8.encode "motor/temp") := by
  decide +kernel

end SystemScale.Contract.FieldKeys

import Mathlib.Algebra.Order.BigOperators.Group.List
import Mathlib.Data.List.Nodup
import Mathlib.Data.List.Perm.Subperm
import SystemScale.Sdk.Events

set_option autoImplicit false

/-!
# Nested maps to slash-separated keys

The Go client, the Go emitter and the Python emitter each flatten a map before they log it. Python
visits a dict in the order of its keys, Go a map in any order.
-/

namespace SystemScale.Sdk.Flatten

open Json (Value)

inductive Tree (α : Type) where
  | leaf (value : α)
  | map (entries : List (String × Tree α))

abbrev Forest (α : Type) := List (String × Tree α)

abbrev Flat (α : Type) := List (String × α)

section Model

variable {α : Type}

def assignAll (entries result : Flat α) : Flat α :=
  entries.foldl (fun result entry => assign entry.1 entry.2 result) result

/-! ## Python -/

mutual

def Tree.flatten (fullKey : String) (out : Flat α) : Tree α → Flat α
  | .leaf value => assign fullKey value out
  | .map nested => assignAll (flattenFrom fullKey [] nested) out

def flattenFrom (before : String) (out : Flat α) : Forest α → Flat α
  | [] => out
  | (key, item) :: rest => flattenFrom before (item.flatten (fullKey before key) out) rest

end

def Python.flattenKeys (data : Forest α) (before : String) : Flat α := flattenFrom before [] data

/-! ## Go -/

/-- A run over the entries in the order in which they come up. Where one is a map, that is visited
in some order, and so is the map made of it. -/
inductive Visits : String → Flat α → Forest α → Flat α → Prop where
  | done {before : String} {result : Flat α} : Visits before result [] result
  | leaf {before key : String} {value : α} {rest : Forest α} {result out : Flat α}
      (later : Visits before (assign (fullKey before key) value result) rest out) :
      Visits before result ((key, .leaf value) :: rest) out
  | map {before key : String} {nested visited rest : Forest α} {made order result out : Flat α}
      (visits : visited.Perm nested) (inner : Visits (fullKey before key) [] visited made)
      (ranges : order.Perm made) (later : Visits before (assignAll order result) rest out) :
      Visits before result ((key, .map nested) :: rest) out

def Go.flattenMap (data : Forest α) (before : String) (result : Flat α) : Prop :=
  ∃ visited, visited.Perm data ∧ Visits before [] visited result

def Go.Client.flattenKeys (data : Forest α) (before : String) (result : Flat α) : Prop :=
  Go.flattenMap data before result

def Go.StreamEmitter.flattenKeys (data : Forest α) (before : String) (result : Flat α) : Prop :=
  Go.flattenMap data before result

/-! ## Leaves and paths -/

mutual

def Tree.leaves : Tree α → List (List String × α)
  | .leaf value => [([], value)]
  | .map nested => leaves nested

/-- The leaves, each behind the keys that lead to it. -/
def leaves : Forest α → List (List String × α)
  | [] => []
  | (key, item) :: rest => (item.leaves.map fun leaf => (key :: leaf.1, leaf.2)) ++ leaves rest

end

def slashJoined : List String → String
  | [] => ""
  | [key] => key
  | key :: rest => key ++ "/" ++ slashJoined rest

/-- What a flattened map is to hold: every leaf once, under its joined path. -/
def byPath (data : Forest α) : Flat α := (leaves data).map fun leaf => (slashJoined leaf.1, leaf.2)

/-- No nested map under an empty key at the top holds a leaf, and joined paths are distinct. -/
structure Unambiguous (data : Forest α) : Prop where
  named : ∀ leaf ∈ leaves data, leaf.1.head? = some "" → leaf.1.length = 1
  distinct : ((leaves data).map fun leaf => slashJoined leaf.1).Nodup

/-- Where the code puts a leaf. -/
def placed (before : String) (leaf : List String × α) : String × α :=
  (leaf.1.foldl fullKey before, leaf.2)

end Model

/-! ## Merged maps -/

section Merged

variable {α : Type} {result fields out : Flat α}

/-- What a map becomes when fields are assigned to it, in whatever order. -/
structure Merged (result fields out : Flat α) : Prop where
  sources : ∀ entry ∈ out, entry ∈ result ∨ entry ∈ fields
  keys : ∀ key, key ∈ out.map Prod.fst ↔ key ∈ result.map Prod.fst ∨ key ∈ fields.map Prod.fst
  distinct : (result.map Prod.fst).Nodup → (out.map Prod.fst).Nodup

theorem keys_assign (key : String) (value : α) (result : Flat α) :
    (assign key value result).map Prod.fst =
      if key ∈ result.map Prod.fst then result.map Prod.fst else result.map Prod.fst ++ [key] := by
  unfold assign
  split_ifs
  · rw [List.map_map]
    refine List.map_congr_left fun entry _ => ?_
    simp only [Function.comp_apply]
    split_ifs with same
    · exact same.symm
    · rfl
  · simp

theorem merged_assign (key : String) (value : α) (result : Flat α) :
    Merged result [(key, value)] (assign key value result) := by
  refine ⟨fun entry member => ?_, fun other => ?_, fun distinct => ?_⟩
  · exact (mem_assign member).imp_right fun is => List.mem_singleton.mpr is
  · rw [keys_assign]
    split_ifs with there
    · simp only [List.map_cons, List.map_nil, List.mem_singleton]
      exact ⟨.inl, fun either => either.elim id fun same => same ▸ there⟩
    · simp
  · rw [keys_assign]
    split_ifs with there
    · exact distinct
    · exact List.nodup_append.mpr ⟨distinct, List.nodup_singleton key, by
        rintro first inside second last rfl
        exact there (List.mem_singleton.mp last ▸ inside)⟩

theorem Merged.refl (result : Flat α) : Merged result [] result :=
  ⟨fun _ member => .inl member, by simp, id⟩

theorem Merged.trans {first second middle : Flat α} (begun : Merged result first middle)
    (ended : Merged middle second out) : Merged result (first ++ second) out := by
  refine ⟨fun entry member => ?_, fun key => ?_, fun distinct =>
    ended.distinct (begun.distinct distinct)⟩
  · rcases ended.sources entry member with before | late
    · exact (begun.sources entry before).imp_right (List.mem_append_left _)
    · exact .inr (List.mem_append_right _ late)
  · rw [ended.keys, begun.keys, List.map_append, List.mem_append, or_assoc]

theorem Merged.congr {others : Flat α} (merged : Merged result fields out)
    (same : ∀ entry, entry ∈ fields ↔ entry ∈ others) : Merged result others out := by
  have keys : ∀ key, key ∈ fields.map Prod.fst ↔ key ∈ others.map Prod.fst := by
    intro key
    simp only [List.mem_map, same]
  refine ⟨fun entry member => ?_, fun key => ?_, merged.distinct⟩
  · exact (merged.sources entry member).imp_right (same entry).mp
  · rw [merged.keys, keys]

theorem merged_assignAll (fields result : Flat α) :
    Merged result fields (assignAll fields result) := by
  induction fields generalizing result with
  | nil => exact .refl result
  | cons field rest ih => exact (merged_assign field.1 field.2 result).trans (ih _)

-- A map made of another one's entries has its fields.
theorem Merged.through {made order : Flat α} (inner : Merged [] fields made)
    (ranges : order.Perm made) : Merged result fields (assignAll order result) := by
  have outer := merged_assignAll order result
  refine ⟨fun entry member => ?_, fun key => ?_, outer.distinct⟩
  · refine (outer.sources entry member).imp_right fun here => ?_
    exact (inner.sources entry (ranges.mem_iff.mp here)).resolve_left List.not_mem_nil
  · rw [outer.keys, (ranges.map Prod.fst).mem_iff, inner.keys]
    simp

theorem Merged.perm (merged : Merged [] fields out) (distinct : (fields.map Prod.fst).Nodup) :
    out.Perm fields := by
  have keys : (out.map Prod.fst).Nodup := merged.distinct List.nodup_nil
  have source : ∀ entry ∈ out, entry ∈ fields :=
    fun entry member => (merged.sources entry member).resolve_left List.not_mem_nil
  refine (List.perm_ext_iff_of_nodup (.of_map _ keys) (.of_map _ distinct)).mpr fun entry =>
    ⟨source entry, fun member => ?_⟩
  have there : entry.1 ∈ out.map Prod.fst :=
    (merged.keys entry.1).mpr (.inr (List.mem_map_of_mem member))
  obtain ⟨found, inside, same⟩ := List.mem_map.mp there
  have is : found = entry := List.inj_on_of_nodup_map distinct (source found inside) member same
  exact is ▸ inside

theorem Merged.keys_perm (merged : Merged [] fields out) (long : fields.length ≤ out.length) :
    (out.map Prod.fst).Perm (fields.map Prod.fst) := by
  have keys : (out.map Prod.fst).Nodup := merged.distinct List.nodup_nil
  have inside : out.map Prod.fst ⊆ fields.map Prod.fst := by
    intro key member
    simpa using (merged.keys key).mp member
  exact (keys.subperm inside).perm_of_length_le (by simpa using long)

end Merged

/-! ## Every run merges the leaves -/

section Runs

variable {α : Type}

theorem leaves_eq (data : Forest α) : leaves data = data.flatMap fun entry =>
    entry.2.leaves.map fun leaf => (entry.1 :: leaf.1, leaf.2) := by
  induction data with
  | nil => rw [leaves, List.flatMap_nil]
  | cons entry rest ih => rw [leaves, ih, List.flatMap_cons]

theorem leaves_perm {data visited : Forest α} (visits : visited.Perm data) :
    (leaves visited).Perm (leaves data) := by
  rw [leaves_eq, leaves_eq]
  exact visits.flatMap_right _

-- The leaves under a key are where the map under it has them, with the key in front.
theorem placed_under (before key : String) (found : List (List String × α)) :
    (found.map fun leaf => (key :: leaf.1, leaf.2)).map (placed before) =
      found.map (placed (fullKey before key)) := by
  rw [List.map_map]
  rfl

theorem visits_merged {before : String} {result out : Flat α} {visited : Forest α}
    (ran : Visits before result visited out) :
    Merged result ((leaves visited).map (placed before)) out := by
  induction ran with
  | done => exact .refl _
  | leaf later ih =>
    rw [leaves, List.map_append, placed_under, Tree.leaves]
    exact (merged_assign _ _ _).trans ih
  | map visits inner ranges later inner_ih later_ih =>
    rw [leaves, List.map_append, placed_under, Tree.leaves]
    refine Merged.trans ?_ later_ih
    refine (Merged.through inner_ih ranges).congr fun entry => ?_
    exact ((leaves_perm visits).map _).mem_iff

mutual

theorem flatten_merged (item : Tree α) (key : String) (out : Flat α) :
    Merged out (item.leaves.map (placed key)) (item.flatten key out) := by
  cases item with
  | leaf value =>
    rw [Tree.leaves, Tree.flatten]
    exact merged_assign _ _ _
  | map nested =>
    rw [Tree.leaves, Tree.flatten]
    exact (flattenFrom_merged nested key []).through (List.Perm.refl _)

theorem flattenFrom_merged (data : Forest α) (before : String) (out : Flat α) :
    Merged out ((leaves data).map (placed before)) (flattenFrom before out data) := by
  cases data with
  | nil =>
    rw [leaves, flattenFrom]
    exact .refl out
  | cons entry rest =>
    obtain ⟨key, item⟩ := entry
    rw [leaves, flattenFrom, List.map_append, placed_under]
    exact (flatten_merged item _ out).trans (flattenFrom_merged rest before _)

end

theorem flattenMap_merged {data : Forest α} {before : String} {out : Flat α}
    (ran : Go.flattenMap data before out) : Merged [] ((leaves data).map (placed before)) out := by
  obtain ⟨visited, visits, run⟩ := ran
  exact (visits_merged run).congr fun entry => ((leaves_perm visits).map _).mem_iff

end Runs

/-! ## The names that leaves get -/

theorem slashJoined_cons (key next : String) (rest : List String) :
    slashJoined (key :: next :: rest) = key ++ "/" ++ slashJoined (next :: rest) := rfl

theorem foldl_fullKey {before : String} (some_key : before ≠ "") (key : String)
    (rest : List String) :
    (key :: rest).foldl fullKey before = before ++ "/" ++ slashJoined (key :: rest) := by
  induction rest generalizing before key with
  | nil => simp [fullKey, some_key, slashJoined]
  | cons next rest ih =>
    have longer : before ++ "/" ++ key ≠ "" := by
      intro empty
      have length := congrArg String.length empty
      simp at length
    rw [List.foldl_cons, fullKey, if_pos some_key, ih longer next, slashJoined_cons]
    simp only [String.append_assoc]

-- The empty key at the front of a path is lost, with its slash.
theorem placed_key (path : List String) :
    (path.foldl fullKey "" = slashJoined path ∧ (path.head? = some "" → path.length = 1)) ∨
      ((path.foldl fullKey "").length < (slashJoined path).length ∧
        path.head? = some "" ∧ path.length ≠ 1) := by
  induction path with
  | nil => exact .inl ⟨rfl, fun never => nomatch never⟩
  | cons key rest ih =>
    cases rest with
    | nil => exact .inl ⟨by simp [fullKey, slashJoined], fun _ => rfl⟩
    | cons next rest =>
      have start : fullKey "" key = key := by simp [fullKey]
      by_cases empty : key = ""
      · subst empty
        refine .inr ⟨?_, rfl, by simp⟩
        have shorter : ((next :: rest).foldl fullKey "").length ≤
            (slashJoined (next :: rest)).length := by
          rcases ih with ⟨same, -⟩ | ⟨less, -⟩
          · rw [same]
          · exact less.le
        rw [List.foldl_cons, start, slashJoined_cons]
        simp only [String.length_append]
        have slash : ("/" : String).length = 1 := rfl
        omega
      · refine .inl ⟨?_, fun first => absurd (Option.some.inj first) empty⟩
        rw [List.foldl_cons, start, foldl_fullKey empty, slashJoined_cons]

section Exact

variable {α : Type} {data : Forest α} {out : Flat α}

theorem placed_le (path : List String) :
    (path.foldl fullKey "").length ≤ (slashJoined path).length := by
  rcases placed_key path with ⟨same, -⟩ | ⟨less, -⟩
  · rw [same]
  · exact less.le

-- Where the keys of two tables are the same, with one never longer, none is shorter.
theorem lengths_equal {β : Type} {first second : β → String} {found : List β}
    (le : ∀ leaf, (first leaf).length ≤ (second leaf).length)
    (same : (found.map first).Perm (found.map second)) :
    ∀ leaf ∈ found, (first leaf).length = (second leaf).length := by
  have sums : ((found.map first).map String.length).sum =
      ((found.map second).map String.length).sum := (same.map String.length).sum_eq
  rw [List.map_map, List.map_map] at sums
  clear same
  induction found with
  | nil => simp
  | cons head rest ih =>
    have rest_le : (rest.map (String.length ∘ first)).sum ≤
        (rest.map (String.length ∘ second)).sum :=
      List.sum_le_sum fun leaf _ => le leaf
    have head_le := le head
    simp only [List.map_cons, List.sum_cons, Function.comp_apply] at sums
    intro leaf member
    rcases List.mem_cons.mp member with rfl | later
    · omega
    · exact ih (by omega) leaf later

theorem exact_iff (merged : Merged [] ((leaves data).map (placed "")) out) :
    out.Perm (byPath data) ↔ Unambiguous data := by
  constructor
  · intro exact
    have paths : (byPath data).map Prod.fst = (leaves data).map fun leaf => slashJoined leaf.1 := by
      rw [byPath, List.map_map]
      rfl
    have keys : ((leaves data).map (placed "")).map Prod.fst =
        (leaves data).map fun leaf => leaf.1.foldl fullKey "" := by
      rw [List.map_map]
      rfl
    have long : ((leaves data).map (placed "")).length ≤ out.length := by
      rw [exact.length_eq, byPath, List.length_map, List.length_map]
    have same := (merged.keys_perm long).symm.trans (exact.map Prod.fst)
    rw [paths, keys] at same
    constructor
    · intro leaf member empty
      have equal := lengths_equal (fun leaf => placed_le leaf.1) same leaf member
      rcases placed_key leaf.1 with ⟨-, single⟩ | ⟨less, -⟩
      · exact single empty
      · exact absurd equal less.ne
    · rw [← paths]
      exact (exact.map Prod.fst).nodup (merged.distinct List.nodup_nil)
  · rintro ⟨named, distinct⟩
    have same : (leaves data).map (placed "") = byPath data := by
      refine List.map_congr_left fun leaf member => ?_
      rcases placed_key leaf.1 with ⟨same, -⟩ | ⟨-, empty, long⟩
      · exact Prod.ext same rfl
      · exact absurd (named leaf member empty) long
    rw [same] at merged
    refine merged.perm ?_
    rw [byPath, List.map_map]
    exact distinct

end Exact

/-! ## The three flatteners -/

section Flatteners

variable {α : Type}

mutual

-- Python's run is one of those that Go may make.
theorem flatten_visits (item : Tree α) {before key : String} {result out : Flat α}
    {rest : Forest α}
    (later : Visits before (item.flatten (fullKey before key) result) rest out) :
    Visits before result ((key, item) :: rest) out := by
  cases item with
  | leaf value =>
    rw [Tree.flatten] at later
    exact .leaf later
  | map nested =>
    rw [Tree.flatten] at later
    exact .map (.refl _) (flattenFrom_visits nested (fullKey before key) []) (.refl _) later

theorem flattenFrom_visits (data : Forest α) (before : String) (result : Flat α) :
    Visits before result data (flattenFrom before result data) := by
  cases data with
  | nil =>
    rw [flattenFrom]
    exact .done
  | cons entry rest =>
    obtain ⟨key, item⟩ := entry
    rw [flattenFrom]
    exact flatten_visits item (flattenFrom_visits rest before _)

end

theorem python_visits (data : Forest α) (before : String) :
    Go.flattenMap data before (Python.flattenKeys data before) :=
  ⟨data, .refl _, flattenFrom_visits data before []⟩

/-- Each gives every leaf once under its joined path, in any order of the maps, and all give the
same map. -/
structure Lawful (data : Forest α) : Prop where
  client : ∀ result, Go.Client.flattenKeys data "" result → result.Perm (byPath data)
  emitter : ∀ result, Go.StreamEmitter.flattenKeys data "" result → result.Perm (byPath data)
  python : (Python.flattenKeys data "").Perm (byPath data)
  client_order : ∀ first second, Go.Client.flattenKeys data "" first →
    Go.Client.flattenKeys data "" second → first.Perm second
  emitter_order : ∀ first second, Go.StreamEmitter.flattenKeys data "" first →
    Go.StreamEmitter.flattenKeys data "" second → first.Perm second
  same : ∀ first second, Go.Client.flattenKeys data "" first →
    Go.StreamEmitter.flattenKeys data "" second →
      first.Perm second ∧ first.Perm (Python.flattenKeys data "")

end Flatteners

/-! ## The alerts' maps -/

mutual

def treeOf : Item → Tree Value
  | .map entries => .map (forestOf entries)
  | .other value => .leaf value

def forestOf : Entries → Forest Value
  | [] => []
  | (key, item) :: rest => (key, treeOf item) :: forestOf rest

end

mutual

theorem flattenItem_eq (full : String) (result : Object) (item : Item) :
    flattenItem assign full result item = (treeOf item).flatten full result := by
  cases item with
  | map entries =>
    rw [flattenItem, treeOf, Tree.flatten, flattenFrom_eq full [] entries]
    rfl
  | other value => rw [flattenItem, treeOf, Tree.flatten]

theorem flattenFrom_eq (before : String) (result : Object) (entries : Entries) :
    Sdk.flattenFrom assign before result entries =
      flattenFrom before result (forestOf entries) := by
  cases entries with
  | nil => rw [Sdk.flattenFrom, forestOf, flattenFrom]
  | cons entry rest =>
    obtain ⟨key, item⟩ := entry
    rw [Sdk.flattenFrom, forestOf, flattenFrom, flattenItem_eq _ _ item, flattenFrom_eq _ _ rest]

end

theorem flattenKeys_eq (data : Entries) (before : String) :
    Sdk.flattenKeys assign data before = Python.flattenKeys (forestOf data) before :=
  flattenFrom_eq before [] data

end SystemScale.Sdk.Flatten

import Mathlib.Data.List.Perm.Subperm
import SystemScale.Dashboard.WsManager

set_option autoImplicit false

/-!
# The components that share the manager

Pages subscribe to a vehicle when they mount and unsubscribe from it when they unmount. The manager
keeps a set, so the first of them to unmount takes the vehicle away from the others.
-/

namespace SystemScale.Dashboard.Subscribers

open Runs

variable {C : Type}

/-- The manager with the calls made of it so far, by component and vehicle. -/
structure Pages (C : Type) where
  manager : WsManager
  subscribes : List (C × String)
  unsubscribes : List (C × String)

inductive Action (C : Type) where
  | mount (component : C) (vehicleId : String)
  | unmount (component : C) (vehicleId : String)
  | browser (event : WsManager.Event)

def ofBrowser : WsManager.Event → Bool
  | .subscribe _ => false
  | .unsubscribe _ => false
  | _ => true

/-- A component unsubscribes at most as often as it subscribed. -/
def step [DecidableEq C] (pages : Pages C) : Action C → Option (Pages C)
  | .mount component vehicleId =>
    some { pages with
      manager := pages.manager.subscribe vehicleId
      subscribes := (component, vehicleId) :: pages.subscribes }
  | .unmount component vehicleId =>
    if pages.unsubscribes.count (component, vehicleId) <
        pages.subscribes.count (component, vehicleId) then
      some { pages with
        manager := pages.manager.unsubscribe vehicleId
        unsubscribes := (component, vehicleId) :: pages.unsubscribes }
    else none
  | .browser event =>
    if ofBrowser event then
      (pages.manager.step event).map fun manager => { pages with manager }
    else none

def new : Pages C := ⟨.new, [], []⟩

def made (calls : List (C × String)) (vehicleId : String) : Nat :=
  calls.countP fun call => call.2 = vehicleId

/-- The manager follows the vehicles that have a subscription left. -/
def Counted (pages : Pages C) : Prop :=
  ∀ vehicleId, vehicleId ∈ pages.manager.subscribedIds ↔
    made pages.unsubscribes vehicleId < made pages.subscribes vehicleId

/-- The last one out unsubscribes. -/
def Careful (pages : Pages C) : Action C → Prop
  | .unmount _ vehicleId =>
    made pages.subscribes vehicleId = made pages.unsubscribes vehicleId + 1
  | _ => True

def Balanced (pages : Pages C) : Prop :=
  pages.unsubscribes.Subperm pages.subscribes

section Steps

variable {manager : WsManager} {pages next : Pages C}

theorem mem_subscribe (vehicleId other : String) :
    other ∈ (manager.subscribe vehicleId).subscribedIds ↔
      other ∈ manager.subscribedIds ∨ other = vehicleId := by
  rw [WsManager.subscribe]
  split_ifs with member
  · exact ⟨.inl, fun either => either.elim id fun same => same ▸ member⟩
  · simp

theorem mem_unsubscribe (vehicleId other : String) :
    other ∈ (manager.unsubscribe vehicleId).subscribedIds ↔
      other ∈ manager.subscribedIds ∧ other ≠ vehicleId := by
  rw [WsManager.unsubscribe]
  by_cases member : vehicleId ∈ manager.subscribedIds
  · rw [if_neg (not_not.mpr member)]
    dsimp only
    split_ifs <;> simp
  · rw [if_pos member]
    exact ⟨fun there => ⟨there, fun same => member (same ▸ there)⟩, And.left⟩

theorem browser_subscribedIds {event : WsManager.Event} {later : WsManager}
    (browser : ofBrowser event) (taken : manager.step event = some later) :
    later.subscribedIds = manager.subscribedIds := by
  cases event with
  | subscribe vehicleId => cases browser
  | unsubscribe vehicleId => cases browser
  | socketOpen id =>
    simp only [WsManager.step] at taken
    split at taken
    · obtain rfl := Option.some.inj taken
      rw [WsManager.onopen]
      split <;> rfl
    · cases taken
  | peerClosing id =>
    simp only [WsManager.step] at taken
    split at taken
    · obtain rfl := Option.some.inj taken
      rfl
    · cases taken
  | socketClose id =>
    simp only [WsManager.step] at taken
    split at taken
    · cases taken
    · obtain rfl := Option.some.inj taken
      split_ifs
      · rw [WsManager.onclose, WsManager.scheduleReconnect]
        split_ifs <;> rfl
      · rfl
    · cases taken
  | retry id =>
    simp only [WsManager.step] at taken
    split at taken
    · obtain rfl := Option.some.inj taken
      exact WsManager.connect_subscribedIds _
    · cases taken

theorem made_cons (component : C) (vehicleId other : String) (calls : List (C × String)) :
    made ((component, vehicleId) :: calls) other =
      made calls other + if other = vehicleId then 1 else 0 := by
  simp [made, List.countP_cons, eq_comm (a := other)]

theorem Balanced.made_le (balanced : Balanced pages) (vehicleId : String) :
    made pages.unsubscribes vehicleId ≤ made pages.subscribes vehicleId :=
  List.Subperm.countP_le _ balanced

variable [DecidableEq C]

theorem step_balanced {action : Action C} (balanced : Balanced pages)
    (taken : step pages action = some next) : Balanced next := by
  cases action with
  | mount component vehicleId =>
    obtain rfl := Option.some.inj taken
    exact balanced.trans (List.sublist_cons_self _ _).subperm
  | unmount component vehicleId =>
    simp only [step] at taken
    split_ifs at taken with fewer
    obtain rfl := Option.some.inj taken
    exact List.Subperm.cons_left balanced _ fewer
  | browser event =>
    simp only [step] at taken
    split_ifs at taken
    obtain ⟨manager, _, rfl⟩ := Option.map_eq_some_iff.mp taken
    exact balanced

theorem unmount_counted_iff {component : C} {vehicleId : String} (balanced : Balanced pages)
    (counted : Counted pages)
    (taken : step pages (.unmount component vehicleId) = some next) :
    Counted next ↔ Careful pages (.unmount component vehicleId) := by
  have after : made next.unsubscribes vehicleId ≤ made next.subscribes vehicleId :=
    (step_balanced balanced taken).made_le vehicleId
  simp only [step] at taken
  split_ifs at taken
  obtain rfl := Option.some.inj taken
  dsimp only at after
  rw [made_cons, if_pos rfl] at after
  -- Only the vehicle of the call is at stake, and it has left the set.
  constructor
  · intro all
    have here := (all vehicleId).not.mp fun member =>
      ((mem_unsubscribe vehicleId vehicleId).mp member).2 rfl
    dsimp only at here
    rw [made_cons, if_pos rfl] at here
    exact (Nat.le_antisymm (Nat.not_lt.mp here) after)
  · intro careful other
    dsimp only
    rw [mem_unsubscribe, made_cons]
    by_cases same : other = vehicleId
    · subst same
      have last : made pages.subscribes other = made pages.unsubscribes other + 1 := careful
      simp [last]
    · rw [if_neg same, Nat.add_zero, counted other]
      exact and_iff_left same

theorem step_counted_iff {action : Action C} (balanced : Balanced pages)
    (counted : Counted pages) (taken : step pages action = some next) :
    Counted next ↔ Careful pages action := by
  cases action with
  | mount component vehicleId =>
    obtain rfl := Option.some.inj taken
    refine iff_of_true (fun other => ?_) trivial
    have fewer := balanced.made_le other
    dsimp only
    rw [mem_subscribe, made_cons, counted other]
    by_cases same : other = vehicleId
    · rw [if_pos same]
      exact iff_of_true (.inr same) (Nat.lt_succ_of_le fewer)
    · rw [if_neg same]
      exact or_iff_left same
  | unmount component vehicleId => exact unmount_counted_iff balanced counted taken
  | browser event =>
    simp only [step] at taken
    split_ifs at taken with browser
    obtain ⟨manager, moved, rfl⟩ := Option.map_eq_some_iff.mp taken
    refine iff_of_true (fun other => ?_) trivial
    dsimp only
    rw [browser_subscribedIds browser moved]
    exact counted other

end Steps

/-- The set is what is left of the calls exactly in the runs where nobody unsubscribes from a
vehicle that another subscription still asks for. -/
theorem subscribed_iff [DecidableEq C] (actions : List (Action C)) :
    Throughout step Counted new actions ↔ Along step Careful new actions :=
  throughout_iff_along
    (fun _ _ _ (balanced : Balanced _) _ _ taken => step_balanced balanced taken)
    (fun _ _ _ balanced counted taken => step_counted_iff balanced counted taken)
    List.nil_subperm (fun _ => by simp [new, WsManager.new, made])

/-- Two pages show one vehicle, and one of them goes. -/
theorem second_page_dark :
    ∃ pages : Pages Bool,
      exec step new [.mount true "rover", .mount false "rover", .unmount true "rover"] =
        some pages ∧
      made pages.unsubscribes "rover" < made pages.subscribes "rover" ∧
      "rover" ∉ pages.manager.subscribedIds :=
  ⟨_, rfl, by decide, by decide⟩

end SystemScale.Dashboard.Subscribers

import Mathlib.Algebra.Order.BigOperators.Group.List
import SystemScale.Lib.Subjects
import SystemScale.Relay.Subscriptions

set_option autoImplicit false

/-!
# Whose data a request yields

The names in a request become part of a NATS subscription, whose wildcards they may hold.
-/

namespace SystemScale.Relay

open Runs Subjects

namespace Operator

def Requested (req : SubscribeRequest) (subject : String) : Prop :=
  ∃ vehicleId ∈ req.vehicleIds, ∃ stream ∈ req.streams.getD defaultStreams,
    subject = telemetrySubject vehicleId (natsStream stream).1

def Action.pair : Action → Option Entry
  | .entry pair => some pair
  | _ => none

/-- The request is the only one of the connection, and its pairs are taken in their order. -/
def Serves (req : SubscribeRequest) (actions : List Action) : Prop :=
  actions.filterMap Action.pair <+: req.entries

/-- A message that a subscription gets is offered to the operator only if its subject was named. -/
def OnlyRequested (cfg : WsGatewayConfig) (req : SubscribeRequest) : Prop :=
  ∀ actions state, Serves req actions → exec (step cfg) start actions = some state →
    ∀ subscription subject payload now next, delivers subscription subject = true →
      step cfg state (.message subscription payload now) = some next →
        next.frames ≠ state.frames → Requested req subject

/-- No pair of the request names a subject with a wildcard. -/
def Tame (req : SubscribeRequest) : Prop :=
  ∀ entry ∈ req.entries, ¬Wild ((tokens entry.subject).map part)

theorem requested_iff (req : SubscribeRequest) (subject : String) :
    Requested req subject ↔ ∃ entry ∈ req.entries, entry.subject = subject := by
  simp only [Requested, SubscribeRequest.entries, List.mem_flatMap, List.mem_map, Entry.subject]
  constructor
  · rintro ⟨vehicleId, named, stream, asked, rfl⟩
    exact ⟨_, ⟨vehicleId, named, stream, asked, rfl⟩, rfl⟩
  · rintro ⟨_, ⟨vehicleId, named, stream, asked, rfl⟩, rfl⟩
    exact ⟨vehicleId, named, stream, asked, rfl⟩

/-! ## Subscriptions of the request -/

def OfRequest (req : SubscribeRequest) (state : Operator) : Prop :=
  ∀ subject task, state.active subject = some task → Requested req subject

theorem OfRequest.set {req : SubscribeRequest} {state : Operator} (known : OfRequest req state)
    {subject : String} {task : Option Subscription}
    (named : task ≠ none → Requested req subject) : OfRequest req (state.set subject task) := by
  intro other held is
  rw [active_set] at is
  split_ifs at is with same
  · exact same ▸ named (by simp [is])
  · exact known other held is

theorem step_ofRequest {cfg : WsGatewayConfig} {req : SubscribeRequest} {state next : Operator}
    {action : Action} (known : OfRequest req state)
    (asked : ∀ entry, action = .entry entry → entry ∈ req.entries)
    (taken : step cfg state action = some next) : OfRequest req next := by
  rcases step_cases taken with ⟨entry, is, rfl⟩ | ⟨frames, _, _, rfl⟩ | ⟨subject, _, _, rfl⟩ |
    ⟨subject, task, now, held, _, rfl⟩ | ⟨subject, payload, now, task, held, _, _, rfl⟩
  · have noted : OfRequest req (state.note entry) := by
      intro subject task held
      rw [note_active] at held
      exact known subject task held
    unfold subscribe
    split
    · exact noted
    · exact noted.set fun _ => (requested_iff req _).mpr ⟨entry, asked entry is, rfl⟩
  · exact known
  · exact known.set fun some_task => absurd rfl some_task
  · exact known.set fun _ => known subject task held
  · have placed : OfRequest req
        (state.set subject (some (task.receive cfg state.frames payload now).1)) :=
      known.set fun _ => known subject task held
    exact placed

theorem exec_ofRequest {cfg : WsGatewayConfig} {req : SubscribeRequest} {actions : List Action}
    {state : Operator} (serves : Serves req actions)
    (ran : exec (step cfg) start actions = some state) : OfRequest req state := by
  revert serves
  refine exec_induction (P := fun actions state => Serves req actions → OfRequest req state)
    ?_ ?_ ran
  · intro _ subject task is
    simp [start] at is
  · intro actions action state next _ known taken serves
    unfold Serves at serves
    rw [List.filterMap_append] at serves
    refine step_ofRequest (known ((List.prefix_append _ _).trans serves)) ?_ taken
    rintro entry rfl
    exact serves.subset (by simp [Action.pair])

/-! ## A request with a wildcard -/

structure Fresh (state : Operator) : Prop where
  frames : state.frames = []
  tasks : ∀ subject task, state.active subject = some task →
    task.phase = .subscribing ∧ task.lastSent = 0

theorem note_frames (state : Operator) (entry : Entry) :
    (state.note entry).frames = state.frames := by
  unfold note
  split_ifs <;> rfl

theorem subscribe_fresh {state : Operator} (fresh : Fresh state) (entry : Entry) :
    Fresh (state.subscribe entry) := by
  have noted : Fresh (state.note entry) := by
    constructor
    · rw [note_frames]
      exact fresh.frames
    · intro subject task held
      rw [note_active] at held
      exact fresh.tasks subject task held
  unfold subscribe
  split
  · exact noted
  · refine ⟨noted.frames, fun subject task held => ?_⟩
    rw [active_set] at held
    split_ifs at held
    · obtain rfl := Option.some.inj held
      exact ⟨rfl, rfl⟩
    · exact noted.tasks subject task held

theorem subscribe_active (state : Operator) (entry : Entry) {subject : String}
    (there : subject = entry.subject ∨ (state.active subject).isSome) :
    ((state.subscribe entry).active subject).isSome := by
  unfold subscribe
  split
  · next task held =>
    rw [note_active]
    rcases there with rfl | there
    · rw [held]
      rfl
    · exact there
  · rw [active_set, note_active]
    split_ifs with same
    · rfl
    · exact there.resolve_left same

-- The request is taken as a whole before any of its subscriptions is there.
theorem exec_entries (cfg : WsGatewayConfig) (entries : List Entry) {state : Operator}
    (fresh : Fresh state) :
    ∃ final, exec (step cfg) state (entries.map .entry) = some final ∧ Fresh final ∧
      ∀ subject, (state.active subject).isSome ∨ (∃ entry ∈ entries, subject = entry.subject) →
        (final.active subject).isSome := by
  induction entries generalizing state with
  | nil => exact ⟨state, rfl, fresh, fun subject there => there.resolve_right (by simp)⟩
  | cons entry rest ih =>
    obtain ⟨final, ran, fresh_final, active⟩ := ih (subscribe_fresh fresh entry)
    refine ⟨final, ran, fresh_final, fun subject there => active subject ?_⟩
    rcases there with before | ⟨other, member, named⟩
    · exact .inl (subscribe_active state entry (.inr before))
    · rcases List.mem_cons.mp member with rfl | later
      · exact .inl (subscribe_active state other (.inl named))
      · exact .inr ⟨other, later, named⟩

theorem receive_sampleAlert (cfg : WsGatewayConfig) (task : Subscription)
    (unsent : task.lastSent = 0) :
    (task.receive cfg [] sampleAlert (minInterval cfg)).2 ≠ [] := by
  simp only [Subscription.receive, sampleAlert_routed, unsent, Nat.sub_zero, Nat.lt_irrefl, if_false]
  have decoded : ∃ frame, envelopeToJsonFrame sampleAlert = .ok (some frame) := ⟨_, rfl⟩
  obtain ⟨frame, decoded⟩ := decoded
  split_ifs
  · simp [trySend]
  · cases task.format <;> simp [trySend, decoded]

theorem requested_short {req : SubscribeRequest} {subject : String}
    (requested : Requested req subject) :
    subject.length ≤ (req.entries.map fun entry => entry.subject.length).sum := by
  obtain ⟨entry, member, rfl⟩ := (requested_iff req subject).mp requested
  exact List.le_sum_of_mem (List.mem_map.mpr ⟨entry, member, rfl⟩)

theorem wild_escapes (cfg : WsGatewayConfig) {req : SubscribeRequest} {entry : Entry}
    (asked : entry ∈ req.entries) (wild : Wild ((tokens entry.subject).map part)) :
    ¬OnlyRequested cfg req := by
  intro only
  obtain ⟨state, ran, fresh, active⟩ := exec_entries cfg req.entries
    (show Fresh start from ⟨rfl, fun subject task held => by simp [start] at held⟩)
  obtain ⟨task, held⟩ := Option.isSome_iff_exists.mp
    (active entry.subject (.inr ⟨entry, asked, rfl⟩))
  obtain ⟨waiting, unsent⟩ := fresh.tasks _ task held
  obtain ⟨vehicleId, decodes, format, lastSent, phase⟩ := task
  subst waiting unsent
  -- A subject longer than all that the request names.
  obtain ⟨subject, long, got⟩ := delivers_wild wild
    (req.entries.map fun entry => entry.subject.length).sum
  have started : step cfg state (.subscribed entry.subject 0) =
      some (state.set entry.subject (some ⟨vehicleId, decodes, format, 0, .running⟩)) := by
    simp only [step, held]
  have ran_on : exec (step cfg) start (req.entries.map .entry ++ [.subscribed entry.subject 0]) =
      some (state.set entry.subject (some ⟨vehicleId, decodes, format, 0, .running⟩)) := by
    rw [exec_append, ran, Option.bind_some, exec_cons, started]
    rfl
  have serves : Serves req (req.entries.map .entry ++ [.subscribed entry.subject 0]) := by
    have pairs : (req.entries.map Action.entry).filterMap Action.pair = req.entries := by
      rw [List.filterMap_map]
      exact List.filterMap_some
    have no_pair : [Action.subscribed entry.subject 0].filterMap Action.pair = [] := rfl
    refine ⟨[], ?_⟩
    rw [List.append_nil, List.filterMap_append, pairs, no_pair, List.append_nil]
  have offered := receive_sampleAlert cfg ⟨vehicleId, decodes, format, 0, .running⟩ rfl
  have running : (state.set entry.subject
      (some ⟨vehicleId, decodes, format, 0, .running⟩)).active entry.subject =
      some ⟨vehicleId, decodes, format, 0, .running⟩ := by
    rw [active_set, if_pos rfl]
  have quiet : (state.set entry.subject
      (some ⟨vehicleId, decodes, format, 0, .running⟩)).frames = [] := fresh.frames
  have requested := only _ _ serves ran_on entry.subject subject sampleAlert (minInterval cfg) _ got
    (by simp only [step, running]; rfl) (by rw [quiet]; exact offered)
  exact absurd (requested_short requested) (by omega)

theorem only_requested_iff (cfg : WsGatewayConfig) (req : SubscribeRequest) :
    OnlyRequested cfg req ↔ Tame req := by
  constructor
  · intro only entry asked wild
    exact wild_escapes cfg asked wild only
  · intro tame actions state serves ran subscription subject payload now next got taken _
    have known : ∃ task, state.active subscription = some task := by
      simp only [step] at taken
      split at taken
      · next held => exact ⟨_, held⟩
      · cases taken
    obtain ⟨task, held⟩ := known
    have requested := exec_ofRequest serves ran subscription task held
    obtain ⟨entry, asked, rfl⟩ := (requested_iff req subscription).mp requested
    rw [delivers_tame (tame entry asked) got]
    exact requested

-- A request for the vehicle `*` is shown what another vehicle sends.
theorem star_escapes : ¬OnlyRequested ⟨50⟩ ⟨["*"], some ["telemetry"], none⟩ := by
  have asked : ⟨"*", "telemetry", .binary⟩ ∈
      (SubscribeRequest.mk ["*"] (some ["telemetry"]) none).entries := List.mem_cons_self
  exact wild_escapes ⟨50⟩ asked (by decide)

end Operator

end SystemScale.Relay

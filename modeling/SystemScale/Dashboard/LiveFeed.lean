import Mathlib.Data.List.Sort
import Mathlib.Data.Rat.Defs
import Mathlib.Algebra.Order.Ring.Unbundled.Rat
import SystemScale.Dashboard.CircularBuffer
import SystemScale.Lib.Lookups
import SystemScale.Lib.Runs

set_option autoImplicit false

/-!
# The dashboard's live feed

What the gateway sends goes into the stores as it comes. A project's page draws what they hold when
the browser draws a frame, and only when the telemetry store has counted on since it last did.
-/

namespace SystemScale.Dashboard

open Runs

/-- The numbers are finite doubles. -/
structure TelemetryFrame where
  vehicleId : String
  ts : ℚ
  lat : ℚ
  lon : ℚ
  alt : ℚ
  seq : ℚ
  payloadB64 : String
  deriving DecidableEq

structure AlertFrame where
  device : String
  level : String
  message : String
  deriving DecidableEq

inductive LiveFrame where
  | telemetry (frame : TelemetryFrame)
  | alert (frame : AlertFrame)
  | assistanceRequest (device requestId reason : String)
  | other

/-- What the browser is asked to call. A tick has the devices of the effect that asked for it. -/
inductive Callback where
  | flush
  | tick (ids : List String)
  deriving DecidableEq

structure ProjectPage where
  devices : List String
  feedRows : List TelemetryFrame
  rafRef : Nat
  genRef : Nat

/-- The stores, the page that is open, and the callbacks that wait for the browser's next frame. -/
structure LiveFeed where
  generation : Nat
  buffers : String → Option (CircularBuffer TelemetryFrame)
  rafScheduled : Bool
  dirty : Bool
  alerts : List AlertFrame
  page : Option ProjectPage
  callbacks : List (Nat × Callback)
  nextHandle : Nat

def capacity : Nat := 1000

def maxAlerts : Nat := 200

def maxFeedRows : Nat := 500

namespace LiveFeed

def new : LiveFeed := ⟨0, fun _ => none, false, false, [], none, [], 1⟩

/-! ## What the browser does -/

def requestAnimationFrame (feed : LiveFeed) (callback : Callback) : LiveFeed :=
  { feed with
    callbacks := feed.callbacks ++ [(feed.nextHandle, callback)]
    nextHandle := feed.nextHandle + 1 }

def cancelAnimationFrame (feed : LiveFeed) (handle : Nat) : LiveFeed :=
  { feed with callbacks := feed.callbacks.filter fun waiting => waiting.1 ≠ handle }

/-! ## The stores -/

def scheduleFlush (feed : LiveFeed) : LiveFeed :=
  if feed.rafScheduled then feed
  else { feed with rafScheduled := true }.requestAnimationFrame .flush

def push (feed : LiveFeed) (vehicleId : String) (frame : TelemetryFrame) : LiveFeed :=
  let buf := (feed.buffers vehicleId).getD (.new capacity)
  { feed with
    buffers := Function.update feed.buffers vehicleId (some (buf.push frame))
    dirty := true }.scheduleFlush

def reset (feed : LiveFeed) (vehicleId : String) : LiveFeed :=
  { feed with
    buffers := Function.update feed.buffers vehicleId none
    generation := feed.generation + 1 }

def flush (feed : LiveFeed) : LiveFeed :=
  let feed := { feed with rafScheduled := false }
  if feed.dirty then { feed with dirty := false, generation := feed.generation + 1 } else feed

def pushAlert (feed : LiveFeed) (alert : AlertFrame) : LiveFeed :=
  { feed with alerts := (alert :: feed.alerts).take maxAlerts }

def clearAlerts (feed : LiveFeed) : LiveFeed := { feed with alerts := [] }

/-- `parse` is `JSON.parse`; a text that it refuses, or that is `null`, does nothing. -/
def onmessage (parse : String → Option LiveFrame) (feed : LiveFeed) (data : Option String) :
    LiveFeed :=
  match data.bind parse with
  | some (.telemetry frame) => feed.push frame.vehicleId frame
  | some (.alert frame) => feed.pushAlert frame
  | some (.assistanceRequest device _ reason) =>
    feed.pushAlert ⟨device, "warning", "Assistance requested: " ++ reason⟩
  | some .other => feed
  | none => feed

/-! ## The page -/

/-- The sort is stable. -/
def newestFirst (frames : List TelemetryFrame) : List TelemetryFrame :=
  frames.mergeSort fun a b => b.ts ≤ a.ts

def allFrames (feed : LiveFeed) (ids : List String) : List TelemetryFrame :=
  ids.flatMap fun id =>
    match feed.buffers id with
    | some buf => buf.snapshot.reduceOption
    | none => []

def tick (feed : LiveFeed) (ids : List String) : LiveFeed :=
  match feed.page with
  | some page =>
    let page :=
      if feed.generation ≠ page.genRef then
        { page with
          genRef := feed.generation
          feedRows := (newestFirst (feed.allFrames ids)).take maxFeedRows }
      else page
    { feed with page := some { page with rafRef := feed.nextHandle } }.requestAnimationFrame
      (.tick ids)
  | none => feed.requestAnimationFrame (.tick ids)

/-- What the effect of the page's devices leaves to do when they change or the page closes. -/
def cleanup (feed : LiveFeed) (page : ProjectPage) : LiveFeed :=
  if page.devices.isEmpty then feed else feed.cancelAnimationFrame page.rafRef

def effect (feed : LiveFeed) (page : ProjectPage) (devices : List String) : LiveFeed :=
  if devices.isEmpty then { feed with page := some { page with devices } }
  else
    { feed with
      page := some { page with devices, rafRef := feed.nextHandle } }.requestAnimationFrame
      (.tick devices)

/-- The alerts that the page shows. -/
def alertsShown (feed : LiveFeed) (page : ProjectPage) : List AlertFrame :=
  feed.alerts.filter fun alert => alert.device ∈ page.devices

/-! ## Events -/

def call (feed : LiveFeed) : Callback → LiveFeed
  | .flush => feed.flush
  | .tick ids => feed.tick ids

/-- A callback is called once, and not if another one has cancelled it meanwhile. -/
def callHandle (feed : LiveFeed) (handle : Nat) : LiveFeed :=
  match feed.callbacks.find? fun waiting => waiting.1 = handle with
  | some waiting => (feed.cancelAnimationFrame handle).call waiting.2
  | none => feed

/-- Those that wait when the frame begins are called; what they ask for is for the next one. -/
def animationFrame (feed : LiveFeed) : LiveFeed :=
  (feed.callbacks.map Prod.fst).foldl callHandle feed

inductive Event where
  | message (data : Option String)
  | reset (vehicleId : String)
  | clearAlerts
  | mount
  | setDevices (ids : List String)
  | unmount
  | animationFrame

def step (parse : String → Option LiveFrame) (feed : LiveFeed) : Event → Option LiveFeed
  | .message data => some (feed.onmessage parse data)
  | .reset vehicleId => some (feed.reset vehicleId)
  | .clearAlerts => some feed.clearAlerts
  | .mount =>
    match feed.page with
    | some _ => none
    | none => some { feed with page := some ⟨[], [], 0, 0⟩ }
  | .setDevices ids =>
    match feed.page with
    | some page => some ((feed.cleanup page).effect page ids)
    | none => none
  | .unmount =>
    match feed.page with
    | some page => some { feed.cleanup page with page := none }
    | none => none
  | .animationFrame => some feed.animationFrame

/-! ## What there is to show -/

section History

variable (parse : String → Option LiveFrame)

/-- The frames that came for a vehicle since it was last reset. -/
def record (vehicleId : String) (frames : List TelemetryFrame) : Event → List TelemetryFrame
  | .message data =>
    match data.bind parse with
    | some (.telemetry frame) =>
      if frame.vehicleId = vehicleId then frames ++ [frame] else frames
    | _ => frames
  | .reset other => if other = vehicleId then [] else frames
  | _ => frames

def recorded (events : List Event) (vehicleId : String) : List TelemetryFrame :=
  events.foldl (record parse vehicleId) []

def alertOf : LiveFrame → Option AlertFrame
  | .alert frame => some frame
  | .assistanceRequest device _ reason =>
    some ⟨device, "warning", "Assistance requested: " ++ reason⟩
  | _ => none

/-- The alerts that came since they were last cleared, the last one first. -/
def raise (alerts : List AlertFrame) : Event → List AlertFrame
  | .message data => ((data.bind parse).bind alertOf).toList ++ alerts
  | .clearAlerts => []
  | _ => alerts

def raised (events : List Event) : List AlertFrame := events.foldl (raise parse) []

def opened (devices : List String) : Event → List String
  | .mount => []
  | .setDevices ids => ids
  | .unmount => []
  | _ => devices

def devicesAt (events : List Event) : List String := events.foldl opened []

/-- The feed as it stands after the events. -/
def rowsAt (events : List Event) : List TelemetryFrame :=
  (newestFirst ((devicesAt events).flatMap fun id =>
    let frames := recorded parse events id
    frames.drop (frames.length - min frames.length capacity))).take maxFeedRows

/-- The browser's frames since there has been something new to show for the same devices. -/
def lagging (lag : Option Nat) : Event → Option Nat
  | .message data =>
    match data.bind parse with
    | some (.telemetry _) => some (lag.getD 0)
    | _ => lag
  | .reset _ => some (lag.getD 0)
  | .mount => some (lag.getD 0)
  | .setDevices _ => lag.map fun _ => 0
  | .animationFrame => lag.map (· + 1)
  | _ => lag

def lag (events : List Event) : Option Nat := events.foldl (lagging parse) none

variable {parse}

@[simp] theorem recorded_append (events : List Event) (event : Event) (vehicleId : String) :
    recorded parse (events ++ [event]) vehicleId =
      record parse vehicleId (recorded parse events vehicleId) event := by
  rw [recorded, List.foldl_append]
  rfl

@[simp] theorem raised_append (events : List Event) (event : Event) :
    raised parse (events ++ [event]) = raise parse (raised parse events) event := by
  rw [raised, List.foldl_append]
  rfl

@[simp] theorem devicesAt_append (events : List Event) (event : Event) :
    devicesAt (events ++ [event]) = opened (devicesAt events) event := by
  rw [devicesAt, List.foldl_append]
  rfl

@[simp] theorem lag_append (events : List Event) (event : Event) :
    lag parse (events ++ [event]) = lagging parse (lag parse events) event := by
  rw [lag, List.foldl_append]
  rfl

end History

/-! ## The stores hold what came -/

section Stores

variable {parse : String → Option LiveFrame} {feed next : LiveFeed} {events : List Event}

structure Stored (parse : String → Option LiveFrame) (events : List Event) (feed : LiveFeed) :
    Prop where
  held : ∀ vehicleId buf, feed.buffers vehicleId = some buf →
    buf.Holds capacity (recorded parse events vehicleId)
  none_held : ∀ vehicleId, feed.buffers vehicleId = none → recorded parse events vehicleId = []
  alerts : feed.alerts = (raised parse events).take maxAlerts

theorem Stored.same (stored : Stored parse events feed) {event : Event}
    (frames : ∀ vehicleId, record parse vehicleId (recorded parse events vehicleId) event =
      recorded parse events vehicleId)
    (raised : raise parse (raised parse events) event = raised parse events)
    (buffers : next.buffers = feed.buffers) (alerts : next.alerts = feed.alerts) :
    Stored parse (events ++ [event]) next := by
  constructor
  · intro vehicleId buf is
    rw [recorded_append, frames]
    exact stored.held vehicleId buf (buffers ▸ is)
  · intro vehicleId is
    rw [recorded_append, frames]
    exact stored.none_held vehicleId (buffers ▸ is)
  · rw [raised_append, raised, alerts]
    exact stored.alerts

-- The buffer that a frame goes into holds what came for its vehicle before, if it is a new one too.
theorem Stored.buffer (stored : Stored parse events feed) (vehicleId : String) :
    ((feed.buffers vehicleId).getD (.new capacity)).Holds capacity
      (recorded parse events vehicleId) := by
  cases found : feed.buffers vehicleId with
  | some buf => exact stored.held vehicleId buf found
  | none =>
    rw [stored.none_held vehicleId found]
    exact CircularBuffer.new_holds capacity

@[simp] theorem scheduleFlush_buffers (feed : LiveFeed) :
    feed.scheduleFlush.buffers = feed.buffers := by
  rw [scheduleFlush]
  split <;> rfl

@[simp] theorem scheduleFlush_alerts (feed : LiveFeed) :
    feed.scheduleFlush.alerts = feed.alerts := by
  rw [scheduleFlush]
  split <;> rfl

@[simp] theorem scheduleFlush_generation (feed : LiveFeed) :
    feed.scheduleFlush.generation = feed.generation := by
  rw [scheduleFlush]
  split <;> rfl

@[simp] theorem scheduleFlush_dirty (feed : LiveFeed) : feed.scheduleFlush.dirty = feed.dirty := by
  rw [scheduleFlush]
  split <;> rfl

@[simp] theorem scheduleFlush_page (feed : LiveFeed) : feed.scheduleFlush.page = feed.page := by
  rw [scheduleFlush]
  split <;> rfl

theorem Stored.push (stored : Stored parse events feed) {data : Option String}
    {frame : TelemetryFrame} (came : data.bind parse = some (.telemetry frame)) :
    Stored parse (events ++ [.message data]) (feed.push frame.vehicleId frame) := by
  have own : record parse frame.vehicleId (recorded parse events frame.vehicleId)
      (.message data) = recorded parse events frame.vehicleId ++ [frame] := by
    simp [record, came]
  have others : ∀ other, other ≠ frame.vehicleId →
      record parse other (recorded parse events other) (.message data) =
        recorded parse events other := by
    intro other apart
    simp [record, came, apart.symm]
  constructor
  · intro vehicleId buf is
    rw [LiveFeed.push, scheduleFlush_buffers] at is
    rw [recorded_append]
    rcases Lookups.update_some is with ⟨rfl, rfl⟩ | ⟨apart, before⟩
    · rw [own]
      exact CircularBuffer.push_holds (by decide) (stored.buffer _) frame
    · rw [others vehicleId apart]
      exact stored.held vehicleId buf before
  · intro vehicleId is
    rw [LiveFeed.push, scheduleFlush_buffers] at is
    have apart : vehicleId ≠ frame.vehicleId := by
      rintro rfl
      simp at is
    rw [recorded_append, others vehicleId apart]
    exact stored.none_held vehicleId (by simpa [apart] using is)
  · rw [LiveFeed.push, scheduleFlush_alerts, raised_append]
    simpa [raise, came, alertOf] using stored.alerts

theorem Stored.reset (stored : Stored parse events feed) (vehicleId : String) :
    Stored parse (events ++ [.reset vehicleId]) (feed.reset vehicleId) := by
  constructor
  · intro other buf is
    have apart : other ≠ vehicleId := by
      rintro rfl
      simp [LiveFeed.reset] at is
    rw [recorded_append, record, if_neg apart.symm]
    exact stored.held other buf (by simpa [LiveFeed.reset, apart] using is)
  · intro other is
    rw [recorded_append, record]
    split_ifs with same
    · rfl
    · exact stored.none_held other (by simpa [LiveFeed.reset, Ne.symm same] using is)
  · rw [raised_append]
    exact stored.alerts

theorem Stored.pushAlert (stored : Stored parse events feed) {data : Option String}
    {frame : LiveFrame} {alert : AlertFrame} (came : data.bind parse = some frame)
    (is : alertOf frame = some alert) :
    Stored parse (events ++ [.message data]) (feed.pushAlert alert) := by
  have frames : ∀ vehicleId,
      record parse vehicleId (recorded parse events vehicleId) (.message data) =
        recorded parse events vehicleId := by
    intro vehicleId
    cases frame with
    | telemetry => cases is
    | alert => simp [record, came]
    | assistanceRequest => simp [record, came]
    | other => cases is
  constructor
  · intro vehicleId buf found
    rw [recorded_append, frames]
    exact stored.held vehicleId buf found
  · intro vehicleId found
    rw [recorded_append, frames]
    exact stored.none_held vehicleId found
  · rw [raised_append, LiveFeed.pushAlert, stored.alerts]
    simp [raise, came, is, maxAlerts, List.take_take]

theorem Stored.clearAlerts (stored : Stored parse events feed) :
    Stored parse (events ++ [.clearAlerts]) feed.clearAlerts := by
  refine ⟨fun vehicleId buf is => ?_, fun vehicleId is => ?_, ?_⟩
  · rw [recorded_append]
    exact stored.held vehicleId buf is
  · rw [recorded_append]
    exact stored.none_held vehicleId is
  · rw [raised_append]
    rfl

theorem Stored.snapshot (stored : Stored parse events feed) (vehicleId : String) :
    (match feed.buffers vehicleId with
      | some buf => buf.snapshot.reduceOption
      | none => []) =
    (recorded parse events vehicleId).drop ((recorded parse events vehicleId).length -
      min (recorded parse events vehicleId).length capacity) := by
  split
  · next buf is =>
    rw [(stored.held vehicleId buf is).snapshot]
    change List.filterMap id _ = _
    rw [List.filterMap_map]
    exact List.filterMap_some
  · next is => simp [stored.none_held vehicleId is]

-- What a tick for the devices of the page would draw.
theorem Stored.rows (stored : Stored parse events feed) {ids : List String}
    (devices : devicesAt events = ids) :
    (newestFirst (feed.allFrames ids)).take maxFeedRows = rowsAt parse events := by
  rw [rowsAt, devices, allFrames]
  simp only [stored.snapshot]

end Stores

/-! ## The callbacks that wait -/

section Callbacks

variable {feed : LiveFeed}

/-- Handles go up, and the browser has not given out the next one yet. -/
structure Handles (callbacks : List (Nat × Callback)) (nextHandle : Nat) : Prop where
  increasing : (callbacks.map Prod.fst).Pairwise (· < ·)
  given : ∀ waiting ∈ callbacks, waiting.1 < nextHandle

theorem Handles.request {callbacks : List (Nat × Callback)} {nextHandle : Nat}
    (handles : Handles callbacks nextHandle) (callback : Callback) :
    Handles (callbacks ++ [(nextHandle, callback)]) (nextHandle + 1) := by
  constructor
  · rw [List.map_append, List.pairwise_append]
    refine ⟨handles.increasing, List.pairwise_singleton _ _, ?_⟩
    intro handle member last is
    obtain ⟨waiting, there, rfl⟩ := List.mem_map.mp member
    obtain rfl := List.mem_singleton.mp is
    exact handles.given waiting there
  · intro waiting member
    rcases List.mem_append.mp member with before | last
    · exact Nat.lt_succ_of_lt (handles.given waiting before)
    · rw [List.mem_singleton.mp last]
      exact Nat.lt_succ_self _

theorem Handles.filter {callbacks : List (Nat × Callback)} {nextHandle : Nat}
    (handles : Handles callbacks nextHandle) (kept : Nat × Callback → Bool) :
    Handles (callbacks.filter kept) nextHandle :=
  ⟨handles.increasing.sublist (List.filter_sublist.map _),
    fun waiting member => handles.given waiting (List.mem_of_mem_filter member)⟩

def flushes (dirty : Bool) (handle : Nat) : List (Nat × Callback) :=
  if dirty then [(handle, .flush)] else []

def ticks : Option ProjectPage → List (Nat × Callback)
  | some page => if page.devices.isEmpty then [] else [(page.rafRef, .tick page.devices)]
  | none => []

/-- A flush waits while there is something new, and a tick while the page has devices. -/
structure Waits (feed : LiveFeed) : Prop where
  scheduled : feed.rafScheduled = feed.dirty
  handles : Handles feed.callbacks feed.nextHandle
  waiting : ∃ handle, feed.callbacks = flushes feed.dirty handle ++ ticks feed.page ∨
    feed.callbacks = ticks feed.page ++ flushes feed.dirty handle

theorem scheduleFlush_waits (dirty : feed.dirty = true)
    (handles : Handles feed.callbacks feed.nextHandle)
    (waiting : ∃ handle, feed.callbacks = flushes feed.rafScheduled handle ++ ticks feed.page ∨
      feed.callbacks = ticks feed.page ++ flushes feed.rafScheduled handle) :
    feed.scheduleFlush.Waits := by
  rw [scheduleFlush]
  cases scheduled : feed.rafScheduled with
  | true =>
    rw [scheduled, ← dirty] at waiting
    exact ⟨scheduled.trans dirty.symm, handles, waiting⟩
  | false =>
    have only : feed.callbacks = ticks feed.page := by simpa [scheduled, flushes] using waiting
    refine ⟨dirty.symm, handles.request .flush, feed.nextHandle, .inr ?_⟩
    simp [requestAnimationFrame, only, flushes, dirty]

theorem Waits.push (waits : feed.Waits) (vehicleId : String) (frame : TelemetryFrame) :
    (feed.push vehicleId frame).Waits :=
  scheduleFlush_waits rfl waits.handles (waits.scheduled ▸ waits.waiting)

-- Without its tick, only a flush can wait.
theorem Waits.cleanup (waits : feed.Waits) {page : ProjectPage} (shown : feed.page = some page) :
    ∃ handle, (feed.cleanup page).callbacks = flushes feed.dirty handle := by
  obtain ⟨-, handles, handle, waiting⟩ := waits
  refine ⟨handle, ?_⟩
  rw [shown, ticks] at waiting
  rw [LiveFeed.cleanup]
  cases empty : page.devices.isEmpty with
  | true => simpa [empty] using waiting
  | false =>
    have increasing := handles.increasing
    rw [empty] at waiting
    cases dirty : feed.dirty with
    | false =>
      rw [dirty] at waiting
      have only : feed.callbacks = [(page.rafRef, .tick page.devices)] := by
        simpa [flushes] using waiting
      simp [cancelAnimationFrame, only, flushes]
    | true =>
      rw [dirty] at waiting
      have apart : handle ≠ page.rafRef := by
        rcases waiting with before | after
        · simp only [before, flushes] at increasing
          exact Nat.ne_of_lt (by simpa using increasing)
        · simp only [after, flushes] at increasing
          exact Nat.ne_of_gt (by simpa using increasing)
      rcases waiting with before | after
      · simp [cancelAnimationFrame, before, flushes, apart]
      · simp [cancelAnimationFrame, after, flushes, apart]

theorem cleanup_handles (handles : Handles feed.callbacks feed.nextHandle) (page : ProjectPage) :
    Handles (feed.cleanup page).callbacks (feed.cleanup page).nextHandle := by
  rw [cleanup]
  split
  · exact handles
  · exact handles.filter _

theorem cleanup_eq (feed : LiveFeed) (page : ProjectPage) :
    feed.cleanup page = { feed with callbacks := (feed.cleanup page).callbacks } := by
  rw [cleanup]
  split <;> rfl

theorem callHandle_first {handle : Nat} {callback : Callback} {rest : List (Nat × Callback)}
    (waiting : feed.callbacks = (handle, callback) :: rest)
    (apart : ∀ later ∈ rest, later.1 ≠ handle) :
    feed.callHandle handle = { feed with callbacks := rest }.call callback := by
  have others : rest.filter (fun later => later.1 ≠ handle) = rest :=
    List.filter_eq_self.mpr fun later member => decide_eq_true (apart later member)
  rw [callHandle, cancelAnimationFrame, waiting]
  simp only [List.find?_cons, decide_true, List.filter_cons, ne_eq, not_true_eq_false,
    decide_false, Bool.false_eq_true, if_false]
  rw [others]

theorem callHandle_flush {handle : Nat} {rest : List (Nat × Callback)}
    (waiting : feed.callbacks = (handle, .flush) :: rest)
    (apart : ∀ later ∈ rest, later.1 ≠ handle) (dirty : feed.dirty = true) :
    feed.callHandle handle = { feed with
      callbacks := rest, rafScheduled := false, dirty := false
      generation := feed.generation + 1 } := by
  rw [callHandle_first waiting apart, call, flush, dirty]
  rfl

theorem callHandle_tick {handle : Nat} {ids : List String} {rest : List (Nat × Callback)}
    {page : ProjectPage} (waiting : feed.callbacks = (handle, .tick ids) :: rest)
    (apart : ∀ later ∈ rest, later.1 ≠ handle) (shown : feed.page = some page) :
    feed.callHandle handle = { feed with
      page := some { page with
        rafRef := feed.nextHandle
        genRef := feed.generation
        feedRows := if feed.generation ≠ page.genRef then
            (newestFirst (feed.allFrames ids)).take maxFeedRows
          else page.feedRows }
      callbacks := rest ++ [(feed.nextHandle, .tick ids)]
      nextHandle := feed.nextHandle + 1 } := by
  rw [callHandle_first waiting apart, call, tick, shown]
  dsimp only
  split_ifs with new
  · rfl
  · rw [requestAnimationFrame, ← not_not.mp new]

/-- A page that is drawn shows what the stores hold. One with devices that is not drawn had been
since the store last counted. -/
inductive Redraws (feed : LiveFeed) (generation : Nat) :
    Option ProjectPage → Option ProjectPage → Prop where
  | closed : Redraws feed generation none none
  | drawn {page drawn : ProjectPage} (devices : drawn.devices = page.devices)
      (genRef : drawn.genRef ≤ generation)
      (rows : drawn.feedRows = (newestFirst (feed.allFrames page.devices)).take maxFeedRows) :
      Redraws feed generation (some page) (some drawn)
  | kept {page kept : ProjectPage} (devices : kept.devices = page.devices)
      (genRef : kept.genRef = page.genRef) (rows : kept.feedRows = page.feedRows)
      (seen : page.devices ≠ [] → page.genRef = feed.generation) :
      Redraws feed generation (some page) (some kept)

structure Drawn (feed next : LiveFeed) : Prop where
  buffers : next.buffers = feed.buffers
  alerts : next.alerts = feed.alerts
  clean : next.dirty = false
  generation : next.generation = feed.generation + if feed.dirty then 1 else 0
  waits : next.Waits
  page : Redraws feed next.generation feed.page next.page

-- A frame of the browser without a tick flushes if it has to.
theorem animationFrame_idle (waits : feed.Waits) (idle : ticks feed.page = []) :
    feed.animationFrame = { feed with
      callbacks := [], rafScheduled := false, dirty := false
      generation := feed.generation + if feed.dirty then 1 else 0 } := by
  obtain ⟨scheduled, -, handle, waiting⟩ := waits
  rw [idle, List.append_nil, List.nil_append, or_self] at waiting
  cases dirty : feed.dirty with
  | false =>
    rw [dirty] at waiting scheduled
    have empty : feed.callbacks = [] := waiting
    rw [animationFrame, empty]
    cases feed
    simp_all
  | true =>
    rw [dirty] at waiting
    have called : feed.animationFrame = feed.callHandle handle := by
      rw [animationFrame, waiting]
      rfl
    rw [called, callHandle_flush waiting (by simp) dirty]
    rfl

section Ticking

variable {page : ProjectPage} (shown : feed.page = some page)
  (some_device : page.devices.isEmpty = false) (behind : page.genRef ≤ feed.generation)

include shown some_device in
theorem ticks_shown : ticks feed.page = [(page.rafRef, .tick page.devices)] := by
  rw [shown, ticks, some_device]
  rfl

include shown behind in
-- The flush of the same frame may come before the tick, so it may see the count after it.
theorem redraws {counted generation : Nat} (after : feed.generation ≤ counted)
    (before : counted ≤ generation) (rafRef : Nat) :
    Redraws feed generation feed.page (some { page with
      rafRef
      genRef := counted
      feedRows := if counted ≠ page.genRef then
          (newestFirst (feed.allFrames page.devices)).take maxFeedRows
        else page.feedRows }) := by
  rw [shown]
  by_cases new : counted ≠ page.genRef
  · exact .drawn rfl before (if_pos new)
  · have same : counted = page.genRef := not_not.mp new
    exact .kept rfl same (if_neg new) fun _ => by omega

include shown some_device behind in
theorem animationFrame_tick (waits : feed.Waits) : Drawn feed feed.animationFrame := by
  obtain ⟨scheduled, handles, handle, waiting⟩ := waits
  have increasing := handles.increasing
  rw [ticks_shown shown some_device] at waiting
  cases dirty : feed.dirty with
  | false =>
    have only : feed.callbacks = [(page.rafRef, .tick page.devices)] := by
      simpa [dirty, flushes] using waiting
    have called : feed.animationFrame = feed.callHandle page.rafRef := by
      rw [animationFrame, only]
      rfl
    rw [called, callHandle_tick only (by simp) shown]
    refine ⟨rfl, rfl, dirty, by simp [dirty], ⟨scheduled, ?_, 0, .inl ?_⟩,
      redraws shown behind (Nat.le_refl _) (Nat.le_refl _) _⟩
    · exact ⟨List.pairwise_singleton _ _, by simp⟩
    · simp [flushes, dirty, ticks, some_device]
  | true =>
    rw [dirty] at waiting
    rcases waiting with flushFirst | tickFirst
    · change feed.callbacks =
        [(handle, Callback.flush), (page.rafRef, .tick page.devices)] at flushFirst
      rw [flushFirst] at increasing
      have apart : page.rafRef ≠ handle := Nat.ne_of_gt (by simpa using increasing)
      have flushed := callHandle_flush flushFirst (by simpa using apart) dirty
      have called : feed.animationFrame = (feed.callHandle handle).callHandle page.rafRef := by
        rw [animationFrame, flushFirst]
        rfl
      have last : (feed.callHandle handle).callbacks = [(page.rafRef, .tick page.devices)] := by
        rw [flushed]
      rw [called, callHandle_tick last (by simp) (by rw [flushed]; exact shown), flushed]
      refine ⟨rfl, rfl, rfl, by simp [dirty], ⟨rfl, ?_, 0, .inl ?_⟩,
        redraws shown behind (Nat.le_succ _) (Nat.le_refl _) _⟩
      · exact ⟨List.pairwise_singleton _ _, by simp⟩
      · simp [flushes, ticks, some_device]
    · change feed.callbacks =
        [(page.rafRef, .tick page.devices), (handle, Callback.flush)] at tickFirst
      have given : handle < feed.nextHandle := handles.given (handle, .flush) (by simp [tickFirst])
      rw [tickFirst] at increasing
      have apart : handle ≠ page.rafRef := Nat.ne_of_gt (by simpa using increasing)
      have ticked := callHandle_tick tickFirst (by simpa using apart) shown
      have called : feed.animationFrame = (feed.callHandle page.rafRef).callHandle handle := by
        rw [animationFrame, tickFirst]
        rfl
      have last : (feed.callHandle page.rafRef).callbacks =
          [(handle, .flush), (feed.nextHandle, .tick page.devices)] := by
        rw [ticked]
        rfl
      rw [called, callHandle_flush last (by simpa using Nat.ne_of_gt given)
        (by rw [ticked]; exact dirty), ticked]
      refine ⟨rfl, rfl, rfl, by simp [dirty], ⟨rfl, ?_, 0, .inl ?_⟩,
        redraws shown behind (Nat.le_refl _) (Nat.le_succ _) _⟩
      · exact ⟨List.pairwise_singleton _ _, by simp⟩
      · simp [flushes, ticks, some_device]

end Ticking

end Callbacks

/-! ## What a page shows -/

section Shown

variable {parse : String → Option LiveFrame} {feed next : LiveFeed} {events unseen : List Event}
  {page : ProjectPage}

theorem animationFrame_drawn (waits : feed.Waits)
    (behind : ∀ page, feed.page = some page → page.genRef ≤ feed.generation) :
    Drawn feed feed.animationFrame := by
  by_cases idle : ticks feed.page = []
  · rw [animationFrame_idle waits idle]
    refine ⟨rfl, rfl, rfl, rfl, ⟨rfl, ⟨.nil, by simp⟩, 0, .inl ?_⟩, ?_⟩
    · simp [flushes, idle]
    · cases shown : feed.page with
      | none => exact .closed
      | some page =>
        refine .kept rfl rfl rfl fun some_device => ?_
        simp [shown, ticks, some_device] at idle
  · cases shown : feed.page with
    | none => simp [shown, ticks] at idle
    | some page =>
      have some_device : page.devices.isEmpty = false := by
        simpa [shown, ticks] using idle
      exact animationFrame_tick shown some_device (behind page shown) waits

/-- What holds of the events since the page was drawn. -/
structure Since (parse : String → Option LiveFrame) (feed : LiveFeed) (page : ProjectPage)
    (unseen : List Event) : Prop where
  behind : page.genRef ≤ feed.generation
  nothing : page.genRef = feed.generation → feed.dirty = false → lag parse unseen = none
  waiting : page.genRef = feed.generation → page.devices ≠ [] →
    ∀ frames, lag parse unseen = some frames → frames = 0
  due : page.devices ≠ [] → ∀ frames, lag parse unseen = some frames → frames < 2

def Shown (parse : String → Option LiveFrame) (events : List Event) (feed : LiveFeed)
    (page : ProjectPage) : Prop :=
  ∃ seen unseen, events = seen ++ unseen ∧ page.feedRows = rowsAt parse seen ∧
    Since parse feed page unseen

structure Follows (parse : String → Option LiveFrame) (events : List Event) (feed : LiveFeed) :
    Prop where
  stored : Stored parse events feed
  waits : feed.Waits
  devices : devicesAt events = (feed.page.map ProjectPage.devices).getD []
  shown : ∀ page, feed.page = some page → Shown parse events feed page

-- A change is new while the page has not been drawn for it.
theorem Since.change (since : Since parse feed page unseen) {event : Event}
    (change : lagging parse (lag parse unseen) event = some ((lag parse unseen).getD 0))
    (counts : feed.generation ≤ next.generation)
    (new : page.genRef = next.generation → next.dirty = true) :
    Since parse next page (unseen ++ [event]) := by
  have behind := since.behind
  refine ⟨Nat.le_trans behind counts, fun same clean => ?_, fun same some_device frames is => ?_,
    fun some_device frames is => ?_⟩
  · rw [new same] at clean
    cases clean
  · rw [lag_append, change] at is
    obtain rfl := Option.some.inj is
    cases before : lag parse unseen with
    | none => rfl
    | some frames => exact since.waiting (by omega) some_device frames before
  · rw [lag_append, change] at is
    obtain rfl := Option.some.inj is
    cases before : lag parse unseen with
    | none => exact Nat.zero_lt_two
    | some frames => exact since.due some_device frames before

theorem Since.same (since : Since parse feed page unseen) {event : Event}
    (nothing : lagging parse (lag parse unseen) event = lag parse unseen)
    (generation : next.generation = feed.generation) (dirty : next.dirty = feed.dirty) :
    Since parse next page (unseen ++ [event]) := by
  have lag : lag parse (unseen ++ [event]) = lag parse unseen := by rw [lag_append, nothing]
  constructor
  · exact generation ▸ since.behind
  · rw [generation, dirty, lag]
    exact since.nothing
  · rw [generation, lag]
    exact since.waiting
  · rw [lag]
    exact since.due

theorem Since.setDevices (since : Since parse feed page unseen) {drawn : ProjectPage}
    (genRef : drawn.genRef = page.genRef) (generation : next.generation = feed.generation)
    (dirty : next.dirty = feed.dirty) (ids : List String) :
    Since parse next drawn (unseen ++ [.setDevices ids]) := by
  have restarts : ∀ frames, lag parse (unseen ++ [.setDevices ids]) = some frames →
      frames = 0 := by
    intro frames is
    rw [lag_append] at is
    obtain ⟨_, -, rfl⟩ := Option.map_eq_some_iff.mp is
    rfl
  refine ⟨?_, fun same clean => ?_, fun _ _ => restarts, fun _ frames is => ?_⟩
  · rw [genRef, generation]
    exact since.behind
  · rw [lag_append, since.nothing (by omega) (dirty ▸ clean)]
    rfl
  · rw [restarts frames is]
    exact Nat.zero_lt_two

theorem Since.none (behind : page.genRef ≤ feed.generation) : Since parse feed page [] :=
  ⟨behind, fun _ _ => rfl, fun _ _ _ is => (nomatch is), fun _ _ is => (nomatch is)⟩

-- The page was up to date, or what is new was flushed for the next frame of the browser.
theorem Since.animationFrame (since : Since parse feed page unseen) {kept : ProjectPage}
    (devices : kept.devices = page.devices) (genRef : kept.genRef = page.genRef)
    (seen : page.devices ≠ [] → page.genRef = feed.generation)
    (generation : next.generation = feed.generation + if feed.dirty then 1 else 0) :
    Since parse next kept (unseen ++ [.animationFrame]) := by
  have behind := since.behind
  have up_to_date : kept.genRef = next.generation → lag parse (unseen ++ [.animationFrame]) =
      Option.none := by
    intro same
    cases dirty : feed.dirty with
    | true =>
      rw [dirty, if_pos rfl] at generation
      omega
    | false =>
      rw [dirty] at generation
      rw [lag_append, since.nothing (by simp at generation; omega) dirty]
      rfl
  refine ⟨?_, fun same _ => up_to_date same, fun same _ frames is => ?_,
    fun some_device frames is => ?_⟩
  · rw [genRef, generation]
    exact Nat.le_add_right_of_le behind
  · rw [up_to_date same] at is
    cases is
  · rw [devices] at some_device
    rw [lag_append] at is
    obtain ⟨before, was, rfl⟩ := Option.map_eq_some_iff.mp is
    rw [since.waiting (seen some_device) some_device before was]
    decide

theorem devicesAt_none (none : devicesAt events = []) : rowsAt parse events = [] := by
  rw [rowsAt, none]
  simp [newestFirst]

-- A page that has just been opened shows nothing, which is right before anything came.
theorem mount_shown (stands : devicesAt events = []) (same : next.generation = feed.generation)
    (dirty : next.dirty = feed.dirty) :
    Shown parse (events ++ [.mount]) next ⟨[], [], 0, 0⟩ := by
  by_cases nothing : feed.generation = 0 ∧ feed.dirty = false
  · refine ⟨events ++ [.mount], [], (List.append_nil _).symm, ?_, Since.none (Nat.zero_le _)⟩
    rw [devicesAt_none (by rw [devicesAt_append]; rfl)]
  · refine ⟨events, [.mount], rfl, (devicesAt_none stands).symm, Nat.zero_le _, ?_, ?_, ?_⟩
    · intro zero clean
      exact absurd ⟨(same ▸ zero).symm, dirty ▸ clean⟩ nothing
    · exact fun _ none => absurd rfl none
    · exact fun none => absurd rfl none

theorem Shown.of (shown : Shown parse events feed page) {other : ProjectPage} {event : Event}
    (rows : other.feedRows = page.feedRows)
    (since : ∀ unseen, Since parse feed page unseen →
      Since parse next other (unseen ++ [event])) :
    Shown parse (events ++ [event]) next other := by
  obtain ⟨seen, unseen, rfl, drawn, was⟩ := shown
  exact ⟨seen, unseen ++ [event], List.append_assoc _ _ _, rows.trans drawn, since unseen was⟩

theorem Follows.animationFrame (follows : Follows parse events feed) :
    Follows parse (events ++ [.animationFrame]) feed.animationFrame := by
  have behind : ∀ page, feed.page = some page → page.genRef ≤ feed.generation := by
    intro page shown
    obtain ⟨_, _, _, _, since⟩ := follows.shown page shown
    exact since.behind
  have drawn := animationFrame_drawn follows.waits behind
  have stored : Stored parse (events ++ [.animationFrame]) feed.animationFrame :=
    follows.stored.same (fun _ => rfl) rfl drawn.buffers drawn.alerts
  have devices : devicesAt (events ++ [.animationFrame]) = devicesAt events := by
    rw [devicesAt_append]
    rfl
  have page := drawn.page
  have before := follows.devices
  cases shown : feed.page with
  | none =>
    rw [shown] at page before
    generalize after : feed.animationFrame.page = last at page
    cases page
    exact ⟨stored, drawn.waits, devices.trans (before.trans (by rw [after])),
      fun _ is => absurd (after.symm.trans is) (by simp)⟩
  | some old =>
    rw [shown] at page before
    generalize after : feed.animationFrame.page = last at page
    cases page with
    | drawn same genRef rows =>
      refine ⟨stored, drawn.waits, ?_, ?_⟩
      · rw [devices, before, after]
        exact same.symm
      · intro page is
        obtain rfl := Option.some.inj (after.symm.trans is)
        refine ⟨_, [], (List.append_nil _).symm, ?_, Since.none genRef⟩
        have kept : Stored parse (events ++ [.animationFrame]) feed :=
          follows.stored.same (fun _ => rfl) rfl rfl rfl
        exact rows.trans (kept.rows (devices.trans before))
    | kept same genRef rows seen =>
      refine ⟨stored, drawn.waits, ?_, ?_⟩
      · rw [devices, before, after]
        exact same.symm
      · intro page is
        obtain rfl := Option.some.inj (after.symm.trans is)
        exact (follows.shown old shown).of rows fun unseen since =>
          since.animationFrame same genRef seen drawn.generation

theorem Follows.push (follows : Follows parse events feed) {data : Option String}
    {frame : TelemetryFrame} (came : data.bind parse = some (.telemetry frame)) :
    Follows parse (events ++ [.message data]) (feed.push frame.vehicleId frame) := by
  have page : (feed.push frame.vehicleId frame).page = feed.page := scheduleFlush_page _
  have generation : (feed.push frame.vehicleId frame).generation = feed.generation :=
    scheduleFlush_generation _
  refine ⟨follows.stored.push came, follows.waits.push _ _, ?_, ?_⟩
  · rw [page, devicesAt_append]
    exact follows.devices
  · intro shown is
    refine (follows.shown shown (page ▸ is)).of rfl fun unseen since => since.change ?_ ?_ ?_
    · rw [lagging, came]
    · exact Nat.le_of_eq generation.symm
    · exact fun _ => scheduleFlush_dirty _

-- A step that brings no frame and leaves the page alone.
theorem Follows.same (follows : Follows parse events feed) {event : Event}
    (stored : Stored parse (events ++ [event]) next) (waits : next.Waits)
    (page : next.page = feed.page) (generation : next.generation = feed.generation)
    (dirty : next.dirty = feed.dirty)
    (stays : ∀ devices, opened devices event = devices)
    (nothing : ∀ lag, lagging parse lag event = lag) :
    Follows parse (events ++ [event]) next := by
  refine ⟨stored, waits, ?_, fun shown is => ?_⟩
  · rw [page, devicesAt_append, stays]
    exact follows.devices
  · exact (follows.shown shown (page ▸ is)).of rfl fun unseen since =>
      since.same (nothing _) generation dirty

theorem Follows.message (follows : Follows parse events feed) (data : Option String) :
    Follows parse (events ++ [.message data]) (feed.onmessage parse data) := by
  have waits := follows.waits
  rw [onmessage]
  split
  · next frame came => exact follows.push came
  · next frame came =>
    exact follows.same (follows.stored.pushAlert came rfl)
      ⟨waits.scheduled, waits.handles, waits.waiting⟩ rfl rfl rfl (fun _ => rfl)
      fun lag => by rw [lagging, came]
  · next device _ reason came =>
    exact follows.same (follows.stored.pushAlert came rfl)
      ⟨waits.scheduled, waits.handles, waits.waiting⟩ rfl rfl rfl (fun _ => rfl)
      fun lag => by rw [lagging, came]
  · next came =>
    refine follows.same (follows.stored.same (fun _ => ?_) ?_ rfl rfl) waits rfl rfl rfl
      (fun _ => rfl) fun lag => ?_
    · rw [record, came]
    · rw [raise, came]
      rfl
    · rw [lagging, came]
  · next came =>
    refine follows.same (follows.stored.same (fun _ => ?_) ?_ rfl rfl) waits rfl rfl rfl
      (fun _ => rfl) fun lag => ?_
    · rw [record, came]
    · rw [raise, came]
      rfl
    · rw [lagging, came]

theorem Follows.reset (follows : Follows parse events feed) (vehicleId : String) :
    Follows parse (events ++ [.reset vehicleId]) (feed.reset vehicleId) := by
  have waits := follows.waits
  refine ⟨follows.stored.reset vehicleId, ⟨waits.scheduled, waits.handles, waits.waiting⟩, ?_, ?_⟩
  · rw [devicesAt_append]
    exact follows.devices
  · intro shown is
    refine (follows.shown shown is).of rfl fun unseen since =>
      since.change rfl (Nat.le_succ _) fun same => ?_
    have behind := since.behind
    simp only [LiveFeed.reset] at same
    omega

theorem Follows.setDevices (follows : Follows parse events feed) (shown : feed.page = some page)
    (ids : List String) :
    Follows parse (events ++ [.setDevices ids]) ((feed.cleanup page).effect page ids) := by
  have handles := cleanup_handles follows.waits.handles page
  obtain ⟨handle, flushes⟩ := follows.waits.cleanup shown
  rw [cleanup_eq, effect]
  split_ifs with none
  · refine ⟨follows.stored.same (fun _ => rfl) rfl rfl rfl,
      ⟨follows.waits.scheduled, ?_, handle, .inl ?_⟩, by simp [opened], ?_⟩
    · rw [cleanup_eq] at handles
      exact handles
    · simp [flushes, ticks, none]
    · intro drawn is
      obtain rfl := Option.some.inj is
      exact (follows.shown page shown).of rfl fun unseen since => by
        apply since.setDevices <;> rfl
  · refine ⟨follows.stored.same (fun _ => rfl) rfl rfl rfl,
      ⟨follows.waits.scheduled, ?_, handle, .inl ?_⟩, by simp [opened, requestAnimationFrame], ?_⟩
    · rw [cleanup_eq] at handles
      exact handles.request _
    · simp [requestAnimationFrame, flushes, ticks, none]
    · intro drawn is
      obtain rfl := Option.some.inj is
      exact (follows.shown page shown).of rfl fun unseen since => by
        apply since.setDevices <;> rfl

theorem Follows.unmount (follows : Follows parse events feed) (shown : feed.page = some page) :
    Follows parse (events ++ [.unmount]) { feed.cleanup page with page := none } := by
  have handles := cleanup_handles follows.waits.handles page
  obtain ⟨handle, flushes⟩ := follows.waits.cleanup shown
  rw [cleanup_eq] at handles ⊢
  refine ⟨follows.stored.same (fun _ => rfl) rfl rfl rfl,
    ⟨follows.waits.scheduled, handles, handle, .inl ?_⟩, by simp [opened], fun _ is => nomatch is⟩
  simp [flushes, ticks]

theorem Follows.mount (follows : Follows parse events feed) (closed : feed.page = none) :
    Follows parse (events ++ [.mount]) { feed with page := some ⟨[], [], 0, 0⟩ } := by
  have stands : devicesAt events = [] := by rw [follows.devices, closed]; rfl
  obtain ⟨scheduled, handles, waiting⟩ := follows.waits
  rw [closed] at waiting
  refine ⟨follows.stored.same (fun _ => rfl) rfl rfl rfl, ⟨scheduled, handles, waiting⟩,
    by simp [opened], fun page is => ?_⟩
  obtain rfl := Option.some.inj is
  exact mount_shown stands rfl rfl

theorem Follows.step (follows : Follows parse events feed) {event : Event}
    (taken : feed.step parse event = some next) : Follows parse (events ++ [event]) next := by
  have waits := follows.waits
  cases event with
  | message data => exact Option.some.inj taken ▸ follows.message data
  | reset vehicleId => exact Option.some.inj taken ▸ follows.reset vehicleId
  | clearAlerts =>
    obtain rfl := Option.some.inj taken
    exact follows.same follows.stored.clearAlerts ⟨waits.scheduled, waits.handles, waits.waiting⟩
      rfl rfl rfl (fun _ => rfl) fun _ => rfl
  | mount =>
    rw [LiveFeed.step] at taken
    split at taken
    · cases taken
    · next closed => exact Option.some.inj taken ▸ follows.mount closed
  | setDevices ids =>
    rw [LiveFeed.step] at taken
    split at taken
    · next page shown => exact Option.some.inj taken ▸ follows.setDevices shown ids
    · cases taken
  | unmount =>
    rw [LiveFeed.step] at taken
    split at taken
    · next page shown => exact Option.some.inj taken ▸ follows.unmount shown
    · cases taken
  | animationFrame => exact Option.some.inj taken ▸ follows.animationFrame

theorem new_follows : Follows parse [] new :=
  ⟨⟨fun _ _ is => (nomatch is), fun _ _ => rfl, rfl⟩,
    ⟨rfl, ⟨.nil, by simp [new]⟩, 0, .inl rfl⟩, rfl, fun _ is => nomatch is⟩

theorem exec_follows (ran : exec (step parse) new events = some feed) : Follows parse events feed :=
  exec_induction new_follows (fun _ _ _ _ _ follows taken => follows.step taken) ran

end Shown

def roverFrame : TelemetryFrame := ⟨"rover", 1, 48, 11, 500, 1, ""⟩

def roverEvents : List Event :=
  [.mount, .setDevices ["rover"], .message (some "one frame"), .animationFrame, .animationFrame]

end LiveFeed

end SystemScale.Dashboard

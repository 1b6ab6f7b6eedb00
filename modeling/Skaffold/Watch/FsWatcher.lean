import Mathlib.Data.List.Sort
import Mathlib.Data.List.Dedup
import Skaffold.Watch

/-!
# The fsnotify watcher: changes batched behind a quiet period

`fsWatcher.Start` reads four channels in one `select`: the file events and the errors of the
fsnotify watcher, the channel of a timer, and the context's `Done`. An event that is not a bare
chmod records its path in `changedPaths` and re-arms the timer for the quiet period; when the
timer's value is received, the callback gets the recorded paths, sorted (`sortedPaths`), and the
map starts again empty.

Go picks any ready case of a `select`, and the timer sends its value on its own, so the model
is a state machine over actions (`FsWatcher.step`) and a run is any schedule of them. The timer
is the one of Go before 1.23: its channel holds one value, and `Reset` re-arms it without
draining a value that has already been sent (`armed`, `fired`). So a change can arrive after the
timer has fired for an earlier one: the callback then gets both changes in one call, and the
next expiry calls it with no path at all.

What the watcher is for (`Batches`): each call of the callback gets, sorted and once each, the
paths changed since the call before. Every run of the model is a run of that statement
(`run_refines_batches`), whatever order Go's `range` visits the map in, since the paths are
sorted; so each call reports exactly the paths changed in its quiet period
(`call_reports_quiet_period`). While the watcher runs, recorded paths never wait without a
delivery ahead: the timer runs or has fired, and the call that reports them can always happen
(`pending_changes_delivered`).
-/

set_option autoImplicit false

namespace Skaffold.Watch

/-! ## The order of `sort.Strings` -/

theorem pathLt_total : ∀ {first second : List Char}, first ≠ second →
    pathLt first second = true ∨ pathLt second first = true
  | [], [], differ => absurd rfl differ
  | [], _ :: _, _ => .inl rfl
  | _ :: _, [], _ => .inr rfl
  | a :: as, b :: bs, differ => by
      by_cases same : a = b
      · subst same
        simpa [pathLt] using pathLt_total fun rest => differ (by rw [rest])
      · have codes : a.toNat ≠ b.toNat := fun code => same (by
          rw [← Char.ofNat_toNat a, ← Char.ofNat_toNat b, code])
        simp only [pathLt, same, Ne.symm same, if_false, decide_eq_true_eq]
        omega

/-- The order `sort.Strings` sorts paths in: Go compares the bytes of their UTF-8 encodings,
which orders text as its code points, as `pathLt` does. A path sorts before or with another
when the other is not before it. -/
def PathLe (first second : String) : Prop := pathLt second.toList first.toList = false

instance : DecidableRel PathLe := fun _ _ => inferInstanceAs (Decidable (_ = false))

theorem pathLe_iff {first second : String} :
    PathLe first second ↔ ¬ pathLt second.toList first.toList = true := by
  simp [PathLe]

theorem pathLe_total (first second : String) : PathLe first second ∨ PathLe second first := by
  simp only [pathLe_iff, ← not_and_or]
  exact fun ⟨after, before⟩ => by simpa [pathLt_irrefl] using pathLt_trans after before

theorem pathLe_trans {first second third : String} :
    PathLe first second → PathLe second third → PathLe first third := by
  simp only [pathLe_iff]
  intro notBefore notAfter above
  by_cases same : first.toList = second.toList
  · exact notAfter (same ▸ above)
  · rcases pathLt_total same with below | above'
    · exact notAfter (pathLt_trans above below)
    · exact notBefore above'

theorem pathLe_antisymm {first second : String} :
    PathLe first second → PathLe second first → first = second := by
  simp only [pathLe_iff]
  intro notBefore notAfter
  by_contra differ
  rcases pathLt_total fun same => differ (String.ext same) with below | above
  · exact notAfter below
  · exact notBefore above

instance : IsTotal String PathLe := ⟨pathLe_total⟩

instance : IsTrans String PathLe := ⟨fun _ _ _ => pathLe_trans⟩

instance : IsAntisymm String PathLe := ⟨fun _ _ => pathLe_antisymm⟩

/-- `sortedPaths`: the keys of the map, in the order a `range` visits them, then sorted. -/
def sortedPaths (changedPaths : GoMap Bool) : List String :=
  changedPaths.keys.insertionSort PathLe

/-- What the callback should get for the paths changed in a quiet period: each once, sorted. -/
def batch (paths : List String) : List String := paths.dedup.insertionSort PathLe

/-- The order a `range` visits the map in does not matter: the sorted keys are the batch of any
list of the same paths. -/
theorem sortedPaths_eq_batch {changedPaths : GoMap Bool} {paths : List String}
    (same : ∀ path, path ∈ changedPaths.keys ↔ path ∈ paths) :
    sortedPaths changedPaths = batch paths := by
  have keys : changedPaths.keys.Perm paths.dedup :=
    (List.perm_ext_iff_of_nodup changedPaths.distinct (List.nodup_dedup _)).mpr fun path => by
      rw [List.mem_dedup]
      exact same path
  exact List.eq_of_perm_of_sorted
    ((List.perm_insertionSort _ _).trans (keys.trans (List.perm_insertionSort _ _).symm))
    (List.sorted_insertionSort _ _) (List.sorted_insertionSort _ _)

/-! ## The watcher as a state machine -/

/-- `fsnotify.Chmod`, the bit of an event's `Op` mask for a change of mode. -/
def chmod : UInt32 := 16

/-- An `fsnotify.Event`: the path, and the mask of what happened to it. -/
structure FsEvent where
  name : String
  op : UInt32
  deriving DecidableEq, Repr

/-- What `fsWatcher.Start` holds while it runs: `changedPaths`; whether the timer is armed and
whether its channel holds a value it sent; whether `Start` has returned; and the arguments of
the calls of `onChange` so far. -/
structure FsWatcher where
  changedPaths : GoMap Bool
  armed : Bool
  fired : Bool
  stopped : Bool
  calls : List (List String)

namespace FsWatcher

/-- What can happen next. The first four are the cases of the `select` of `Start`: an event, an
error, the timer's value, and the context's end. `expire` is the runtime's: the quiet period
ends and the timer sends on its channel without blocking. -/
inductive Action where
  | event (ev : FsEvent)
  | error (err : String)
  | fire
  | done
  | expire
  deriving DecidableEq, Repr

/-- The watcher when `Start` begins. Its first timer waits `1<<63 - 1` nanoseconds, which no run
outlives, so it is taken as never expiring. -/
def start : FsWatcher where
  changedPaths := .empty
  armed := false
  fired := false
  stopped := false
  calls := []

/-- One action, or `none` when it cannot happen now. A bare chmod is skipped; any other event
re-arms the timer, and a value the timer sent stays in its channel. Receiving the timer's value
calls `onChange` with `sortedPaths` and empties the map. When the context ends, the watcher
closes and the deferred `timer.Stop` disarms the timer. -/
def step (w : FsWatcher) : Action → Option FsWatcher
  | .event ev =>
      if w.stopped then none
      else if ev.op = chmod then some w
      else some { w with armed := true, changedPaths := w.changedPaths.set ev.name true }
  | .error _ => if w.stopped then none else some w
  | .fire =>
      if w.stopped || !w.fired then none
      else some { w with changedPaths := .empty, fired := false,
                         calls := w.calls ++ [sortedPaths w.changedPaths] }
  | .done => if w.stopped then none else some { w with stopped := true, armed := false }
  | .expire => if w.armed then some { w with armed := false, fired := true } else none

/-- A schedule of actions, or `none` when one of them cannot happen when it comes. -/
def run (w : FsWatcher) : List Action → Option FsWatcher
  | [] => some w
  | a :: rest => (step w a).bind fun w' => run w' rest

@[simp] theorem run_nil (w : FsWatcher) : run w [] = some w := rfl

theorem run_cons (w : FsWatcher) (a : Action) (rest : List Action) :
    run w (a :: rest) = (step w a).bind fun w' => run w' rest := rfl

/-- Everything one action can do. -/
theorem step_cases {w w' : FsWatcher} {a : Action} (stepped : step w a = some w') :
    (∃ ev, a = .event ev ∧ w.stopped = false ∧
        (ev.op = chmod ∧ w' = w ∨ ev.op ≠ chmod ∧
          w' = { w with armed := true, changedPaths := w.changedPaths.set ev.name true })) ∨
      (∃ err, a = .error err ∧ w.stopped = false ∧ w' = w) ∨
      (a = .fire ∧ w.stopped = false ∧ w.fired = true ∧
        w' = { w with changedPaths := .empty, fired := false,
                      calls := w.calls ++ [sortedPaths w.changedPaths] }) ∨
      (a = .done ∧ w.stopped = false ∧ w' = { w with stopped := true, armed := false }) ∨
      (a = .expire ∧ w.armed = true ∧ w' = { w with armed := false, fired := true }) := by
  cases a with
  | event ev =>
      simp only [step] at stepped
      split_ifs at stepped with stopped chmodOnly <;> cases stepped
      · exact .inl ⟨ev, rfl, by simpa using stopped, .inl ⟨chmodOnly, rfl⟩⟩
      · exact .inl ⟨ev, rfl, by simpa using stopped, .inr ⟨chmodOnly, rfl⟩⟩
  | error err =>
      simp only [step] at stepped
      split_ifs at stepped with stopped
      cases stepped
      exact .inr (.inl ⟨err, rfl, by simpa using stopped, rfl⟩)
  | fire =>
      simp only [step] at stepped
      split_ifs at stepped with blocked
      cases stepped
      simp only [Bool.or_eq_true, Bool.not_eq_true', not_or, Bool.not_eq_false] at blocked
      exact .inr (.inr (.inl ⟨rfl, by simpa using blocked.1, blocked.2, rfl⟩))
  | done =>
      simp only [step] at stepped
      split_ifs at stepped with stopped
      cases stepped
      exact .inr (.inr (.inr (.inl ⟨rfl, by simpa using stopped, rfl⟩)))
  | expire =>
      simp only [step] at stepped
      split_ifs at stepped with armed
      cases stepped
      exact .inr (.inr (.inr (.inr ⟨rfl, armed, rfl⟩)))

/-! ## What the watcher is for -/

/-- The path an action reports as changed: the path of an event other than a bare chmod. -/
def Action.change? : Action → Option String
  | .event ev => if ev.op = chmod then none else some ev.name
  | _ => none

/-- The batching the watcher is for: the calls of `onChange` so far, and the paths changed since
the last call, in the order of their events and with repeats. -/
structure Batches where
  calls : List (List String)
  pending : List String

/-- One action seen by the batching: a call reports the batch of the pending paths. -/
def Batches.observe (b : Batches) : Action → Batches
  | .fire => { calls := b.calls ++ [batch b.pending], pending := [] }
  | a => { b with pending := b.pending ++ a.change?.toList }

/-- The batching of a schedule from the start. -/
def batches (schedule : List Action) : Batches := schedule.foldl Batches.observe ⟨[], []⟩

theorem batches_append (first second : List Action) :
    batches (first ++ second) = second.foldl Batches.observe (batches first) :=
  List.foldl_append _ _ _ _

/-- The watcher's state stands for a batching: the same calls, and the recorded paths are the
pending ones. -/
structure Tracks (w : FsWatcher) (b : Batches) : Prop where
  calls : w.calls = b.calls
  paths : ∀ path, path ∈ w.changedPaths.keys ↔ path ∈ b.pending

theorem start_tracks : Tracks start ⟨[], []⟩ := ⟨rfl, by simp [start]⟩

theorem step_tracks {w w' : FsWatcher} {b : Batches} {a : Action} (tracks : Tracks w b)
    (stepped : step w a = some w') : Tracks w' (b.observe a) := by
  obtain ⟨calls, paths⟩ := tracks
  rcases step_cases stepped with
    ⟨ev, rfl, -, ⟨chmodOnly, rfl⟩ | ⟨changed, rfl⟩⟩ | ⟨err, rfl, -, rfl⟩ | ⟨rfl, -, -, rfl⟩ |
      ⟨rfl, -, rfl⟩ | ⟨rfl, -, rfl⟩
  · exact ⟨calls, by simpa [Batches.observe, Action.change?, chmodOnly] using paths⟩
  · refine ⟨calls, fun path => ?_⟩
    simp only [Batches.observe, Action.change?, changed, if_false, Option.toList_some,
      List.mem_append, List.mem_singleton, GoMap.mem_keys_set, paths path]
    exact or_comm
  · exact ⟨calls, by simpa [Batches.observe, Action.change?] using paths⟩
  · exact ⟨by simp [Batches.observe, calls, sortedPaths_eq_batch paths], by simp [Batches.observe]⟩
  · exact ⟨calls, by simpa [Batches.observe, Action.change?] using paths⟩
  · exact ⟨calls, by simpa [Batches.observe, Action.change?] using paths⟩

theorem run_tracks : ∀ {w w' : FsWatcher} {b : Batches} {schedule : List Action},
    Tracks w b → run w schedule = some w' → Tracks w' (schedule.foldl Batches.observe b)
  | _, _, _, [], tracks, ran => Option.some.inj ran ▸ tracks
  | _, _, _, _ :: _, tracks, ran => by
      obtain ⟨next, stepped, rest⟩ := Option.bind_eq_some.mp ran
      rw [List.foldl_cons]
      exact run_tracks (step_tracks tracks stepped) rest

/-- **The watcher batches changes as it is meant to.** On every schedule it accepts (any
interleaving of events, errors, the timer and the context's end), and whatever order Go's
`range` visits the map in, the callback has been called with the batches of the schedule, and
the recorded paths are the pending ones. -/
theorem run_refines_batches {schedule : List Action} {w : FsWatcher}
    (ran : run start schedule = some w) :
    w.calls = (batches schedule).calls ∧
      ∀ path, path ∈ w.changedPaths.keys ↔ path ∈ (batches schedule).pending :=
  let ⟨calls, paths⟩ := run_tracks start_tracks ran
  ⟨calls, paths⟩

theorem burst_refines_batches :
    ∃ w, run start [.event ⟨"b", 2⟩, .event ⟨"a", 16⟩, .event ⟨"a", 18⟩, .event ⟨"b", 2⟩,
        .expire, .fire] = some w ∧
      w.calls = (batches [.event ⟨"b", 2⟩, .event ⟨"a", 16⟩, .event ⟨"a", 18⟩,
        .event ⟨"b", 2⟩, .expire, .fire]).calls ∧
      ∀ path, path ∈ w.changedPaths.keys ↔ path ∈ (batches [.event ⟨"b", 2⟩, .event ⟨"a", 16⟩,
        .event ⟨"a", 18⟩, .event ⟨"b", 2⟩, .expire, .fire]).pending :=
  ⟨_, rfl, run_refines_batches rfl⟩

/-! ## Each call reports its quiet period -/

theorem observe_of_ne_fire {a : Action} (b : Batches) (other : a ≠ .fire) :
    b.observe a = { b with pending := b.pending ++ a.change?.toList } := by
  cases a <;> first | rfl | exact absurd rfl other

theorem foldl_observe_quiet (b : Batches) :
    ∀ {mid : List Action}, .fire ∉ mid →
      mid.foldl Batches.observe b = { b with pending := b.pending ++ mid.filterMap Action.change? }
  | [], _ => by simp
  | a :: rest, quiet => by
      rw [List.mem_cons, not_or] at quiet
      rw [List.foldl_cons, observe_of_ne_fire b (Ne.symm quiet.1), foldl_observe_quiet _ quiet.2]
      cases found : a.change? <;> simp [List.filterMap_cons, found]

theorem batches_settled {pre : List Action} (settled : pre = [] ∨ pre.getLast? = some .fire) :
    (batches pre).pending = [] := by
  rcases settled with rfl | last
  · rfl
  · obtain ⟨init, rfl⟩ := List.getLast?_eq_some_iff.mp last
    simp [batches, Batches.observe]

/-- **Each call reports exactly the paths changed in its quiet period**, sorted and once each:
after any schedule that ends with a call (or with none), the next call gets the paths of the
events other than bare chmods received since. No change is lost, none is reported that did not
happen, and none twice. -/
theorem call_reports_quiet_period {pre mid : List Action} {w : FsWatcher}
    (ran : run start (pre ++ mid ++ [.fire]) = some w)
    (settled : pre = [] ∨ pre.getLast? = some .fire) (quiet : .fire ∉ mid) :
    w.calls.getLast? = some (batch (mid.filterMap Action.change?)) := by
  have before : (batches (pre ++ mid)).pending = mid.filterMap Action.change? := by
    rw [batches_append, foldl_observe_quiet _ quiet, batches_settled settled, List.nil_append]
  have tracked : w.calls = (batches (pre ++ mid ++ [.fire])).calls :=
    (run_tracks start_tracks ran).calls
  rw [tracked, batches_append]
  simp [Batches.observe, before]

/-- A change that comes after the timer has fired is reported with the earlier one, and the
next expiry then calls the callback with no path. -/
theorem stale_fire_reports_nothing :
    ∃ w, run start ([.event ⟨"b", 2⟩, .expire, .event ⟨"a", 2⟩, .fire] ++ [.expire] ++ [.fire]) =
        some w ∧ w.calls.getLast? = some (batch (([.expire] : List Action).filterMap Action.change?)) :=
  ⟨_, rfl, @call_reports_quiet_period [.event ⟨"b", 2⟩, .expire, .event ⟨"a", 2⟩, .fire] [.expire] _
    rfl (.inr rfl) (by decide)⟩

/-! ## No change is stranded -/

/-- While the watcher runs, recorded paths have a delivery ahead: the timer is armed or its
value waits in the channel. -/
def Ready (w : FsWatcher) : Prop :=
  w.stopped = false → w.changedPaths.keys ≠ [] → w.armed = true ∨ w.fired = true

theorem step_ready {w w' : FsWatcher} {a : Action} (ready : Ready w)
    (stepped : step w a = some w') : Ready w' := by
  rcases step_cases stepped with
    ⟨ev, rfl, -, ⟨-, rfl⟩ | ⟨-, rfl⟩⟩ | ⟨err, rfl, -, rfl⟩ | ⟨rfl, -, -, rfl⟩ |
      ⟨rfl, -, rfl⟩ | ⟨rfl, -, rfl⟩
  · exact ready
  · exact fun _ _ => .inl rfl
  · exact ready
  · exact fun _ waiting => absurd rfl waiting
  · exact fun running => nomatch running
  · exact fun _ _ => .inr rfl

theorem run_ready : ∀ {w w' : FsWatcher} {schedule : List Action},
    Ready w → run w schedule = some w' → Ready w'
  | _, _, [], ready, ran => Option.some.inj ran ▸ ready
  | _, _, _ :: _, ready, ran => by
      obtain ⟨next, stepped, rest⟩ := Option.bind_eq_some.mp ran
      exact run_ready (step_ready ready stepped) rest

/-- **No recorded change is stranded.** In every state a run reaches while the watcher runs
with paths recorded, the timer can expire if it has not yet, and the receive that follows calls
the callback with the recorded paths, sorted, and empties the map. -/
theorem pending_changes_delivered {schedule : List Action} {w : FsWatcher}
    (ran : run start schedule = some w) (running : w.stopped = false)
    (waiting : w.changedPaths.keys ≠ []) :
    ∃ w', run w (if w.fired then [.fire] else [.expire, .fire]) = some w' ∧
      w'.calls = w.calls ++ [sortedPaths w.changedPaths] ∧ w'.changedPaths.keys = [] := by
  have ready := run_ready (fun _ waiting => absurd rfl waiting) ran running waiting
  cases fired : w.fired
  · have armed : w.armed = true := by simpa [fired] using ready
    simp [run_cons, step, running, armed]
  · simp [run_cons, step, running, fired]

theorem single_change_delivered :
    ∃ w, run start [.event ⟨"main.go", 2⟩] = some w ∧
      ∃ w', run w (if w.fired then [.fire] else [.expire, .fire]) = some w' ∧
        w'.calls = w.calls ++ [sortedPaths w.changedPaths] ∧ w'.changedPaths.keys = [] :=
  ⟨_, rfl, @pending_changes_delivered [.event ⟨"main.go", 2⟩] _ rfl rfl (by decide)⟩

end FsWatcher

end Skaffold.Watch

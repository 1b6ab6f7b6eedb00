import Skaffold.Basic

/-!
# The polling watcher

The watcher (`watch.watchList`) holds registered components: a dependency listing, a change
handler, and the snapshot of the dependencies taken when the handler last fired. Each tick of
`Run` lists and stats the dependencies of every component again, in registration order, diffs
the new snapshot against the stored one, calls the handler when the diff is not empty and then
stores the new snapshot, even when the handler returns an error. After the loop it calls the
tick callback once when at least one handler fired.

The snapshot functions of the watch package (`stat`, `events`) are not in the sources; they
are modelled from the spec: a snapshot maps each path to what `stat` saw of it, and the events
of two snapshots are their diff. A Go map holds each path once, so the model keeps the paths of
a snapshot strictly increasing (`FileMap`), and two snapshots with the same entries are equal
(`FileMap.ext`). The diff of two snapshots is then empty exactly when they are equal
(`hasChanged_events`).

The watcher is generic in the state its callbacks can write (`σ`): a callback is a function of
that state. One tick of a watch list whose snapshots are the observations of the tick before
calls exactly the handlers of the components whose observation changed, each with the diff of
its last two observations, and leaves the new observations as the snapshots (`tick_watchAt`).
Over a whole run every change between two consecutive observations of a component is reported
to its handler in the tick that observed it and in no other (`run_reports_each_change_once`).
-/

set_option autoImplicit false

namespace Skaffold.Watch

/-! ## Snapshots and their diff -/

/-- What `stat` reports of one dependency. -/
structure FileInfo where
  modTime : Nat
  size : Nat
  deriving DecidableEq, Repr

/-- The order of the paths of a snapshot: character codes compared from the left, a proper
prefix first. -/
def pathLt : List Char → List Char → Bool
  | [], [] => false
  | [], _ :: _ => true
  | _ :: _, [] => false
  | a :: as, b :: bs => if a = b then pathLt as bs else a.toNat < b.toNat

theorem pathLt_irrefl : ∀ path : List Char, pathLt path path = false
  | [] => rfl
  | _ :: rest => by simp [pathLt, pathLt_irrefl rest]

theorem pathLt_trans : ∀ {first second third : List Char},
    pathLt first second = true → pathLt second third = true → pathLt first third = true
  | [], _ :: _, _ :: _, _, _ => rfl
  | a :: as, b :: bs, c :: cs, before, after => by
      simp only [pathLt] at before after ⊢
      by_cases ab : a = b <;> by_cases bc : b = c
      · subst ab bc; simpa using pathLt_trans (by simpa using before) (by simpa using after)
      · subst ab; simpa [bc] using after
      · subst bc; simpa [ab] using before
      · have lower : a.toNat < b.toNat := by simpa [ab] using before
        have higher : b.toNat < c.toNat := by simpa [bc] using after
        have ac : a ≠ c := fun same => by subst same; omega
        simp only [ac, if_false, decide_eq_true_eq]
        omega
  | [], [], _, before, _ => by simp [pathLt] at before
  | _ :: _, [], _, before, _ => by simp [pathLt] at before
  | _, _ :: _, [], _, after => by simp [pathLt] at after

/-- Two paths in snapshot order. -/
def PathBefore (first second : String) : Prop := pathLt first.toList second.toList = true

/-- What a list of entries says of a path: its first entry for the path. -/
def lookupPath : List (String × FileInfo) → String → Option FileInfo
  | [], _ => none
  | (key, info) :: rest, path => if key = path then some info else lookupPath rest path

theorem lookupPath_eq_none {path : String} :
    ∀ {entries : List (String × FileInfo)}, (∀ key ∈ entries.map Prod.fst, key ≠ path) →
      lookupPath entries path = none
  | [], _ => rfl
  | (key, _) :: rest, differ => by
      simp only [lookupPath, differ key (List.mem_cons_self _ _), if_false]
      exact lookupPath_eq_none fun other member =>
        differ other (List.mem_cons_of_mem _ member)

theorem mem_of_lookupPath {path : String} {info : FileInfo} :
    ∀ {entries : List (String × FileInfo)}, lookupPath entries path = some info →
      (path, info) ∈ entries
  | (key, info') :: rest, found => by
      simp only [lookupPath] at found
      split at found
      · cases found; subst ‹key = path›; exact List.mem_cons_self _ _
      · exact List.mem_cons_of_mem _ (mem_of_lookupPath found)

/-- `fileMap`, modelled from the spec: what `stat` saw of a component's dependencies, path by
path, in snapshot order. -/
structure FileMap where
  entries : List (String × FileInfo)
  sorted : (entries.map Prod.fst).Pairwise PathBefore

namespace FileMap

/-- The paths of a snapshot, in snapshot order. -/
def paths (m : FileMap) : List String := m.entries.map Prod.fst

/-- What the snapshot saw of a path, if it lists it. -/
def find? (m : FileMap) (path : String) : Option FileInfo := lookupPath m.entries path

/-- A path listed after the head of a sorted list differs from the head. -/
theorem ne_of_before {key other : String} (before : PathBefore key other) : key ≠ other :=
  fun same => by simp [PathBefore, same, pathLt_irrefl] at before

/-- An entry of a list in snapshot order is its head or comes after it. -/
theorem head_or_before {key key' : String} {info info' : FileInfo}
    {rest : List (String × FileInfo)} (member : (key, info) ∈ (key', info') :: rest)
    (sorted : ∀ other ∈ rest.map Prod.fst, PathBefore key' other) :
    key = key' ∨ PathBefore key' key := by
  rcases List.mem_cons.mp member with head | tail
  · exact .inl (Prod.ext_iff.mp head).1
  · exact .inr (sorted key (List.mem_map_of_mem Prod.fst tail))

/-- Two lists of entries in snapshot order with the same lookups are equal. -/
theorem eq_of_lookupPath : ∀ (xs ys : List (String × FileInfo)),
    (xs.map Prod.fst).Pairwise PathBefore → (ys.map Prod.fst).Pairwise PathBefore →
      (∀ path, lookupPath xs path = lookupPath ys path) → xs = ys
  | [], [], _, _, _ => rfl
  | [], (key, info) :: _, _, _, same => by simpa [lookupPath] using same key
  | (key, info) :: _, [], _, _, same => by simpa [lookupPath] using same key
  | (key, info) :: xs, (key', info') :: ys, sortedX, sortedY, same => by
      simp only [List.map_cons, List.pairwise_cons] at sortedX sortedY
      -- each head is listed by the other list, where it is the head or after it
      have inY : (key, info) ∈ (key', info') :: ys :=
        mem_of_lookupPath (by rw [← same key]; simp [lookupPath])
      have inX : (key', info') ∈ (key, info) :: xs :=
        mem_of_lookupPath (by rw [same key']; simp [lookupPath])
      have keys : key = key' := by
        rcases head_or_before inY sortedY.1 with same | later
        · exact same
        rcases head_or_before inX sortedX.1 with same | earlier
        · exact same.symm
        exact absurd rfl (ne_of_before (pathLt_trans earlier later))
      subst keys
      have infos : info = info' := by simpa [lookupPath] using same key
      subst infos
      congr 1
      refine eq_of_lookupPath xs ys sortedX.2 sortedY.2 fun path => ?_
      by_cases here : key = path
      · subst here
        rw [lookupPath_eq_none fun other member => (ne_of_before (sortedX.1 other member)).symm,
          lookupPath_eq_none fun other member => (ne_of_before (sortedY.1 other member)).symm]
      · simpa [lookupPath, here] using same path

/-- **Two snapshots that see the same of every path are equal.** -/
theorem ext {first second : FileMap} (same : ∀ path, first.find? path = second.find? path) :
    first = second := by
  cases first; cases second
  congr
  exact eq_of_lookupPath _ _ ‹_› ‹_› same

/-- Every entry of a snapshot is what it sees of its path. -/
theorem find?_of_mem {m : FileMap} {path : String} {info : FileInfo}
    (member : (path, info) ∈ m.entries) : m.find? path = some info := by
  obtain ⟨entries, sorted⟩ := m
  simp only [find?] at member ⊢
  induction entries with
  | nil => cases member
  | cons entry rest ih =>
      simp only [List.map_cons, List.pairwise_cons] at sorted
      rcases List.mem_cons.mp member with rfl | member
      · simp [lookupPath]
      · have differ : entry.1 ≠ path :=
          ne_of_before (sorted.1 path (List.mem_map_of_mem Prod.fst member))
        simpa [lookupPath, differ] using ih sorted.2 member

/-- A snapshot lists exactly the paths it sees something of. -/
theorem mem_paths {m : FileMap} {path : String} : path ∈ m.paths ↔ m.find? path ≠ none := by
  constructor
  · intro member
    obtain ⟨⟨_, info⟩, entry, rfl⟩ := List.mem_map.mp member
    simp [find?_of_mem entry]
  · intro seen
    obtain ⟨info, found⟩ := Option.ne_none_iff_exists'.mp seen
    exact List.mem_map_of_mem Prod.fst (mem_of_lookupPath found)

end FileMap

/-- `WatchEvents`: the paths added, modified and deleted between two snapshots. -/
structure WatchEvents where
  added : List String := []
  modified : List String := []
  deleted : List String := []
  deriving DecidableEq, Repr

/-- `WatchEvents.HasChanged`: whether any path was added, modified or deleted. -/
def WatchEvents.hasChanged (e : WatchEvents) : Bool :=
  !e.added.isEmpty || !e.modified.isEmpty || !e.deleted.isEmpty

/-- `events`, modelled from the spec: the diff of the previous snapshot and the current one,
each list in increasing path order. -/
def events (prev curr : FileMap) : WatchEvents where
  added := curr.paths.filter fun path => prev.find? path = none
  modified := prev.entries.filterMap fun (path, info) =>
    match curr.find? path with
    | some info' => if info = info' then none else some path
    | none => none
  deleted := prev.paths.filter fun path => curr.find? path = none

/-- Nothing changed from a snapshot to itself. -/
theorem events_self (m : FileMap) : (events m m).hasChanged = false := by
  simp only [WatchEvents.hasChanged, events, Bool.or_eq_false_iff, Bool.not_eq_false',
    List.isEmpty_iff, List.filter_eq_nil_iff, List.filterMap_eq_nil_iff, decide_eq_true_eq]
  refine ⟨⟨fun path member => FileMap.mem_paths.mp member, ?_⟩,
    fun path member => FileMap.mem_paths.mp member⟩
  rintro ⟨path, info⟩ member
  simp [FileMap.find?_of_mem member]

/-- A diff without changes comes from two equal snapshots. -/
theorem eq_of_events {prev curr : FileMap} (quiet : (events prev curr).hasChanged = false) :
    prev = curr := by
  simp only [WatchEvents.hasChanged, events, Bool.or_eq_false_iff, Bool.not_eq_false',
    List.isEmpty_iff, List.filter_eq_nil_iff, List.filterMap_eq_nil_iff, decide_eq_true_eq]
    at quiet
  obtain ⟨⟨added, modified⟩, deleted⟩ := quiet
  refine FileMap.ext fun path => ?_
  cases before : prev.find? path with
  | none =>
      cases after : curr.find? path with
      | none => rfl
      | some _ => exact absurd before (added path (FileMap.mem_paths.mpr (by simp [after])))
  | some info =>
      have entry : (path, info) ∈ prev.entries := mem_of_lookupPath before
      have seen := deleted path (FileMap.mem_paths.mpr (by simp [before]))
      obtain ⟨info', after⟩ := Option.ne_none_iff_exists'.mp seen
      have same := modified (path, info) entry
      simp only [after] at same
      split at same
      · simp_all
      · cases same

/-- **The diff of two snapshots is empty exactly when they are equal.** -/
theorem hasChanged_events (prev curr : FileMap) :
    (events prev curr).hasChanged = false ↔ prev = curr :=
  ⟨eq_of_events, fun same => same ▸ events_self prev⟩

/-! ## The watch list -/

section WatchList

variable {σ : Type}

/-- `ChangeFn`: a callback of the watcher, as what it does to the state its closure writes,
with the error it returns. -/
abbrev ChangeFn (σ : Type) := WatchEvents → σ → σ × Except String Unit

/-- The dependency listing of a component through `stat`: call `0` is the one `Register` makes,
call `t` the one of tick `t`. -/
abbrev Deps := Nat → Except String FileMap

/-- `component`: a dependency listing, its handler, and the stored snapshot. -/
structure Component (σ : Type) where
  deps : Deps
  onChange : ChangeFn σ
  state : FileMap

/-- `watchList`: the registered components, in registration order. -/
abbrev WatchList (σ : Type) := List (Component σ)

/-- `watchList.Register`: snapshot the dependencies and append the component. -/
def register (w : WatchList σ) (deps : Deps) (onChange : ChangeFn σ) :
    Except String (WatchList σ) :=
  match deps 0 with
  | .error err => .error (wrapError "listing files" err)
  | .ok state => .ok (w ++ [{ deps, onChange, state }])

/-- What the loop of a tick hands back to `Run`: the state the handlers left, and the error of a
listing that failed, or the components with their snapshots, the number of components that
changed and the events of the last component. -/
abbrev Poll (σ : Type) := σ × Except String (WatchList σ × Nat × WatchEvents)

/-- Put a component back in front of what the rest of the loop handed back. -/
def Poll.keep (component : Component σ) : Poll σ → Poll σ
  | (s, result) => (s, result.map fun (rest, changed, e) => (component :: rest, changed, e))

/-- The loop of tick `t` over the components, from the state, the number of components that
changed so far and the events of the component before. A handler's error is only logged. -/
def pollComponents (t : Nat) : WatchList σ → σ → Nat → WatchEvents → Poll σ
  | [], s, changed, e => (s, .ok ([], changed, e))
  | component :: rest, s, changed, _ =>
      match component.deps t with
      | .error err => (s, .error (wrapError "listing files" err))
      | .ok state =>
          let e := events component.state state
          if e.hasChanged then
            Poll.keep { component with state }
              (pollComponents t rest (component.onChange e s).1 (changed + 1) e)
          else
            Poll.keep component (pollComponents t rest s changed e)

/-- Tick `t` of `watchList.Run`: the loop over the components, then the tick callback with the
events of the last component, when at least one component changed. -/
def tick (w : WatchList σ) (onChange : ChangeFn σ) (t : Nat) (s : σ) :
    σ × Except String (WatchList σ) :=
  match pollComponents t w s 0 {} with
  | (s, .error err) => (s, .error err)
  | (s, .ok (w, changed, e)) =>
      if changed > 0 then
        match onChange e s with
        | (s, .error err) => (s, .error (wrapError "calling final callback" err))
        | (s, .ok ()) => (s, .ok w)
      else (s, .ok w)

/-- `watchList.Run`: `ticks` ticks from tick `t`; the context is cancelled after the last one. -/
def run (onChange : ChangeFn σ) : WatchList σ → Nat → Nat → σ → σ × Except String Unit
  | _, _, 0, s => (s, .ok ())
  | w, t, ticks + 1, s =>
      match tick w onChange t s with
      | (s, .error err) => (s, .error err)
      | (s, .ok w) => run onChange w (t + 1) ticks s

/-! ## Reporting every change once -/

/-- A component given by what its listing observes at each call, from the call `Register` makes,
and its handler. -/
structure Watched (σ : Type) where
  observe : Nat → FileMap
  onChange : ChangeFn σ

/-- An observed component registered with a stored snapshot. -/
def Watched.component (c : Watched σ) (state : FileMap) : Component σ :=
  { deps := (fun n => .ok (c.observe n)), onChange := c.onChange, state }

/-- The watch list of observed components whose snapshots are the observations of tick `t`. -/
def watchAt (comps : List (Watched σ)) (t : Nat) : WatchList σ :=
  comps.map fun c => c.component (c.observe t)

/-- The change of a component between its observations of ticks `t` and `t + 1`. -/
def Watched.change (c : Watched σ) (t : Nat) : WatchEvents :=
  events (c.observe t) (c.observe (t + 1))

/-- The components whose observation changed from tick `t` to tick `t + 1`, in registration
order. -/
def firedAt (comps : List (Watched σ)) (t : Nat) : List (Watched σ) :=
  comps.filter fun c => (c.change t).hasChanged

/-- The handlers of a run of fired components, in order, each called with its component's
change. -/
def runHandlers (fired : List (Watched σ)) (t : Nat) (s : σ) : σ :=
  fired.foldl (fun s c => (c.onChange (c.change t) s).1) s

/-- The change of the last registered component, or `e` when there is none. -/
def lastChange (comps : List (Watched σ)) (t : Nat) (e : WatchEvents) : WatchEvents :=
  match comps.getLast? with
  | some c => c.change t
  | none => e

/-- What tick `t + 1` should do: every component whose observation changed since tick `t` has
its handler called once, in registration order, with the diff of its two observations; then, if any
did, the tick callback is called once, with the change of the last registered component. -/
def reportTick (comps : List (Watched σ)) (onChange : ChangeFn σ) (t : Nat) (s : σ) :
    σ × Except String Unit :=
  let s := (firedAt comps t).foldl (fun s c => (c.onChange (c.change t) s).1) s
  if (firedAt comps t).isEmpty then (s, .ok ())
  else
    match onChange (lastChange comps t {}) s with
    | (s, .error err) => (s, .error (wrapError "calling final callback" err))
    | (s, .ok ()) => (s, .ok ())

/-- What the ticks `t + 1`, …, `t + ticks` should do, stopping at a failing tick callback. -/
def reportRun (comps : List (Watched σ)) (onChange : ChangeFn σ) : Nat → Nat → σ →
    σ × Except String Unit
  | _, 0, s => (s, .ok ())
  | t, ticks + 1, s =>
      match reportTick comps onChange t s with
      | (s, .error err) => (s, .error err)
      | (s, .ok ()) => reportRun comps onChange (t + 1) ticks s

/-- Registering one more observed component. -/
theorem register_watchAt (comps : List (Watched σ)) (c : Watched σ) :
    register (watchAt comps 0) (fun n => .ok (c.observe n)) c.onChange =
      .ok (watchAt (comps ++ [c]) 0) := by
  simp [register, watchAt, Watched.component]

theorem lastChange_cons (c : Watched σ) (rest : List (Watched σ)) (t : Nat) (e : WatchEvents) :
    lastChange (c :: rest) t e = lastChange rest t (c.change t) := by
  cases rest <;> simp [lastChange, List.getLast?_cons]

/-! ## Listings that fail -/

/-- A component whose listing can fail: at call `t` it returns the error `fails t` when there is
one, and otherwise observes `observe t`. -/
structure Listing (σ : Type) extends Watched σ where
  fails : Nat → Option String

/-- The dependency listing of a component whose listing can fail. -/
def Listing.deps (c : Listing σ) : Deps := fun t =>
  match c.fails t with
  | some err => .error err
  | none => .ok (c.observe t)

/-- The watch list of components whose snapshots are the observations of tick `t`. -/
def listingAt (comps : List (Listing σ)) (t : Nat) : WatchList σ :=
  comps.map fun c => { deps := c.deps, onChange := c.onChange, state := c.observe t }

/-- Registering a component whose listing can fail after components whose snapshots are their
observations at registration. -/
theorem register_listingAt (done : List (Listing σ)) (c : Listing σ) :
    register (listingAt done 0) c.deps c.onChange =
      match c.fails 0 with
      | some err => .error (wrapError "listing files" err)
      | none => .ok (listingAt (done ++ [c]) 0) := by
  cases failing : c.fails 0 <;> simp [register, Listing.deps, failing, listingAt]

/-- The first listing error of call `t`, in registration order. -/
def firstFailure (comps : List (Listing σ)) (t : Nat) : Option String :=
  comps.findSome? (·.fails t)

/-- The components whose listing of call `t` comes before the first error. -/
def listedBefore (comps : List (Listing σ)) (t : Nat) : List (Listing σ) :=
  comps.takeWhile fun c => (c.fails t).isNone

theorem listedBefore_of_listed {comps : List (Listing σ)} {t : Nat}
    (listed : firstFailure comps t = none) : listedBefore comps t = comps := by
  simpa [listedBefore, List.takeWhile_eq_self_iff, firstFailure, List.findSome?_eq_none_iff]
    using listed

/-- The loop of tick `t + 1` over a watch list whose snapshots are the observations of tick `t`
calls, in order, the handlers of the changed components listed before the first listing error;
it stops at that error, and otherwise leaves the observations of tick `t + 1` as the
snapshots. -/
theorem pollComponents_listingAt (t : Nat) (comps : List (Listing σ)) (s : σ) (changed : Nat)
    (e : WatchEvents) :
    pollComponents (t + 1) (listingAt comps t) s changed e =
      let ran := firedAt ((listedBefore comps (t + 1)).map (·.toWatched)) t
      (runHandlers ran t s,
        match firstFailure comps (t + 1) with
        | some err => .error (wrapError "listing files" err)
        | none => .ok (listingAt comps (t + 1), changed + ran.length,
            lastChange (comps.map (·.toWatched)) t e)) := by
  induction comps generalizing s changed e with
  | nil => rfl
  | cons c rest ih =>
      cases failing : c.fails (t + 1) with
      | some err =>
          simp [listingAt, pollComponents, Listing.deps, failing, listedBefore, firedAt,
            firstFailure, runHandlers]
      | none =>
          have unfolded : pollComponents (t + 1) (listingAt (c :: rest) t) s changed e =
              if (c.change t).hasChanged then
                Poll.keep { deps := c.deps, onChange := c.onChange, state := c.observe (t + 1) }
                  (pollComponents (t + 1) (listingAt rest t) (c.onChange (c.change t) s).1
                    (changed + 1) (c.change t))
              else
                Poll.keep { deps := c.deps, onChange := c.onChange, state := c.observe t }
                  (pollComponents (t + 1) (listingAt rest t) s changed (c.change t)) := by
            simp only [listingAt, List.map_cons, pollComponents, Listing.deps, failing]
            rfl
          have before : listedBefore (c :: rest) (t + 1) = c :: listedBefore rest (t + 1) := by
            simp [listedBefore, failing]
          have first : firstFailure (c :: rest) (t + 1) = firstFailure rest (t + 1) := by
            simp [firstFailure, failing]
          rw [unfolded, before, first, List.map_cons, List.map_cons, lastChange_cons]
          by_cases fired : (c.change t).hasChanged
          · rw [if_pos fired, ih]
            cases firstFailure rest (t + 1) <;>
              simp only [Poll.keep, Except.map, firedAt, List.filter_cons, fired, if_true,
                runHandlers, List.foldl_cons, List.length_cons, listingAt, List.map_cons,
                Nat.add_assoc, Nat.add_comm 1]
          · have quiet : (c.change t).hasChanged = false := Bool.eq_false_iff.mpr fired
            have same : c.observe t = c.observe (t + 1) := eq_of_events quiet
            rw [if_neg fired, ih]
            cases firstFailure rest (t + 1) <;>
              simp only [Poll.keep, Except.map, firedAt, List.filter_cons, quiet, listingAt,
                List.map_cons, Bool.false_eq_true, if_false]
            rw [same]

/-- Tick `t + 1` of a watch list whose snapshots are the observations of tick `t`: the handlers
of the changed components listed before the first listing error, then that error, or else the
tick callback when a handler was called. -/
theorem tick_listingAt (t : Nat) (comps : List (Listing σ)) (onChange : ChangeFn σ) (s : σ) :
    tick (listingAt comps t) onChange (t + 1) s =
      let ran := firedAt ((listedBefore comps (t + 1)).map (·.toWatched)) t
      match firstFailure comps (t + 1) with
      | some err => (runHandlers ran t s, .error (wrapError "listing files" err))
      | none =>
          if ran.isEmpty then (runHandlers ran t s, .ok (listingAt comps (t + 1)))
          else
            let called := onChange (lastChange (comps.map (·.toWatched)) t {}) (runHandlers ran t s)
            (called.1, (called.2.mapError (wrapError "calling final callback")).map
              fun _ => listingAt comps (t + 1)) := by
  simp only [tick, pollComponents_listingAt, Nat.zero_add]
  cases firstFailure comps (t + 1) with
  | some err => rfl
  | none =>
      cases quiet : (firedAt ((listedBefore comps (t + 1)).map (·.toWatched)) t).isEmpty
      · have fired : 0 < (firedAt ((listedBefore comps (t + 1)).map (·.toWatched)) t).length :=
          List.length_pos.mpr (by simpa using quiet)
        simp only [fired, if_true, if_false, Bool.false_eq_true]
        split <;> rename_i called <;> rw [called] <;> rfl
      · simp [List.isEmpty_iff.mp quiet]

/-- An observed component whose listing never fails. -/
def Watched.listing (c : Watched σ) : Listing σ := { c with fails := fun _ => none }

theorem listingAt_listing (comps : List (Watched σ)) (t : Nat) :
    listingAt (comps.map Watched.listing) t = watchAt comps t := by
  simp only [listingAt, watchAt, List.map_map]
  rfl

/-- The loop of tick `t + 1` over a watch list whose snapshots are the observations of tick `t`
calls the handlers of the changed components, in order, and leaves the observations of tick
`t + 1` as the snapshots. -/
theorem pollComponents_watchAt (t : Nat) (comps : List (Watched σ)) (s : σ) (changed : Nat)
    (e : WatchEvents) :
    pollComponents (t + 1) (watchAt comps t) s changed e =
      (runHandlers (firedAt comps t) t s,
        .ok (watchAt comps (t + 1), changed + (firedAt comps t).length, lastChange comps t e)) := by
  have never : firstFailure (comps.map Watched.listing) (t + 1) = none := by
    simp [firstFailure, Watched.listing]
  have all : listedBefore (comps.map Watched.listing) (t + 1) = comps.map Watched.listing := by
    simp [listedBefore, Watched.listing, List.takeWhile_eq_self_iff]
  have back : (comps.map Watched.listing).map (·.toWatched) = comps := by
    simp [Function.comp_def, Watched.listing]
  rw [← listingAt_listing, pollComponents_listingAt, never, all, back, listingAt_listing]

/-- **One tick.** Tick `t + 1` of a watch list whose snapshots are the observations of tick `t`
does what a tick should (`reportTick`), and leaves the observations of tick `t + 1` as the
snapshots. -/
theorem tick_watchAt (t : Nat) (comps : List (Watched σ)) (onChange : ChangeFn σ) (s : σ) :
    tick (watchAt comps t) onChange (t + 1) s =
      ((reportTick comps onChange t s).1,
        (reportTick comps onChange t s).2.map fun _ => watchAt comps (t + 1)) := by
  simp only [tick, pollComponents_watchAt, Nat.zero_add, reportTick, runHandlers]
  cases quiet : (firedAt comps t).isEmpty
  · have fired : 0 < (firedAt comps t).length :=
      List.length_pos.mpr (by simpa using quiet)
    simp only [fired, if_true, if_false, Bool.false_eq_true]
    split <;> rfl
  · simp [List.isEmpty_iff.mp quiet, Except.map]

/-- **Each change is reported once.** Registering components whose dependency listings observe
`observe 0`, `observe 1`, … and running the watcher for any number of ticks does what the
watcher should (`reportRun`): in every tick each handler is called exactly when its component's observation differs
from the observation of the tick before, with the diff of the two, in registration order and at
most once, and the tick callback is called once exactly when a handler was. A change between
two consecutive observations is therefore reported in the tick that observes it, and never in
another. -/
theorem run_reports_each_change_once (comps : List (Watched σ)) (onChange : ChangeFn σ)
    (ticks : Nat) (s : σ) :
    comps.foldlM (fun w c => register w (fun n => .ok (c.observe n)) c.onChange) [] =
        .ok (watchAt comps 0) ∧
      run onChange (watchAt comps 0) 1 ticks s = reportRun comps onChange 0 ticks s := by
  constructor
  · suffices registered : ∀ done : List (Watched σ),
        comps.foldlM (fun w c => register w (fun n => .ok (c.observe n)) c.onChange)
          (watchAt done 0) = .ok (watchAt (done ++ comps) 0) by
      simpa using registered []
    induction comps with
    | nil => simp [pure, Except.pure]
    | cons c rest ih =>
        intro done
        simp only [List.foldlM_cons, register_watchAt, bind, Except.bind]
        simpa using ih (done ++ [c])
  · suffices every : ∀ t s, run onChange (watchAt comps t) (t + 1) ticks s =
        reportRun comps onChange t ticks s from every 0 s
    induction ticks with
    | zero => intro t s; rfl
    | succ ticks ih =>
        intro t s
        simp only [run, reportRun, tick_watchAt]
        rcases reportTick comps onChange t s with ⟨s, _ | _⟩
        · rfl
        · exact ih (t + 1) s

end WatchList

end Skaffold.Watch

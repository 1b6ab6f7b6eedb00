import Skaffold.Runner.Dev

/-!
# The dev loop refines the loop of the spec

The spec describes `Dev` as a machine over the runner's latest-known table: build every artifact
and deploy the table, then, tick after tick, act on what the watcher reports, a changed
configuration first, then dirty artifacts, then the deployer's dependencies. This module states
that machine over tables read as maps from image names (`Table`), one tick at a time
(`TickStep`), over the watch loop (`Watching`) and from registration on (`DevLoop`), and proves
that every run of the model of `Dev` is a run of the machine: the Build and Deploy calls `Dev`
makes, and the error it returns, are those of the machine on the ticks the watcher reports, and
every tick starts from an empty accumulator (`dev_refines_devLoop`).

A list of build results reads as a table when no image name occurs twice (`Represents`), and a
merge of new results reads as the table they update (`Represents.merge`). What the watcher
reports in a tick is computed from the environment (`Env.tickOf`): the first listing error of
the tick, or the artifacts the handlers mark dirty and whether the deployer's dependencies and
the configuration changed. One call of the tick callback is one step of the machine on
whatever the accumulator holds (`onChange_refines`), so one tick of the watcher is one step
(`tick_refines`), and a run of ticks is a run of steps (`run_refines`).
-/

set_option autoImplicit false

namespace Skaffold.Runner

open Watch
open Build (imageNames lookup)

/-! ## The loop of the spec -/

/-- The latest-known table of the spec: the build result recorded for each image name. -/
abbrev Table := String → Option Build.Artifact

/-- New results override the table by image name; the other images keep their entry. -/
def Table.merge (table : Table) (bRes : List Build.Artifact) : Table :=
  fun imageName => (lookup bRes imageName).or (table imageName)

/-- A list of build results represents a table: no image name occurs twice, and the entry of
each name is the table's. -/
def Represents (builds : List Build.Artifact) (table : Table) : Prop :=
  (imageNames builds).Nodup ∧ ∀ imageName, lookup builds imageName = table imageName

/-- What the watcher reports in a tick: the error of a listing that failed, or the artifacts
the handlers marked dirty, whether the deployer's dependencies changed and whether the
configuration changed. -/
inductive Tick where
  | listingFailed (err : String)
  | changed (dirtyArtifacts : List Schema.Artifact) (needsRedeploy needsReload : Bool)

/-- One tick of the loop of the spec, from the table and what the watcher reports: the Build and
Deploy calls of the tick, and the table the next tick starts from or the error that ends the
loop. A changed configuration comes first, then dirty artifacts, then the deployer's
dependencies; a failed build deploys nothing and keeps the table. -/
inductive TickStep : Table → Tick → List Call → Except String Table → Prop
  | listingFailed (table : Table) (err : String) :
      TickStep table (.listingFailed err) [] (.error (wrapError "listing files" err))
  | reload (table : Table) (dirtyArtifacts : List Schema.Artifact) (needsRedeploy : Bool) :
      TickStep table (.changed dirtyArtifacts needsRedeploy true) []
        (.error (wrapError "calling final callback" errorConfigurationChanged))
  | buildFailed (table : Table) {dirtyArtifacts : List Schema.Artifact} (needsRedeploy : Bool)
      (err : String) (dirty : dirtyArtifacts ≠ []) :
      TickStep table (.changed dirtyArtifacts needsRedeploy false)
        [.build dirtyArtifacts (.error err)] (.ok table)
  | rebuilt (table : Table) {dirtyArtifacts : List Schema.Artifact} (needsRedeploy : Bool)
      (bRes builds : List Build.Artifact) (deployed : Except String Unit)
      (dirty : dirtyArtifacts ≠ []) (whole : Represents builds (table.merge bRes)) :
      TickStep table (.changed dirtyArtifacts needsRedeploy false)
        [.build dirtyArtifacts (.ok bRes), .deploy builds deployed] (.ok (table.merge bRes))
  | redeployed (table : Table) (builds : List Build.Artifact) (deployed : Except String Unit)
      (whole : Represents builds table) :
      TickStep table (.changed [] true false) [.deploy builds deployed] (.ok table)
  | idle (table : Table) : TickStep table (.changed [] false false) [] (.ok table)

/-- The watch loop of the spec: one step per tick, until a step ends the loop or the ticks run
out and the context is cancelled. -/
inductive Watching : Table → List Tick → List Call → Except String Unit → Prop
  | cancelled (table : Table) : Watching table [] [] (.ok ())
  | stopped {table : Table} {tick : Tick} {calls : List Call} {err : String} (rest : List Tick) :
      TickStep table tick calls (.error err) → Watching table (tick :: rest) calls (.error err)
  | next {table table' : Table} {tick : Tick} {rest : List Tick} {calls more : List Call}
      {result : Except String Unit} :
      TickStep table tick calls (.ok table') → Watching table' rest more result →
      Watching table (tick :: rest) (calls ++ more) result

/-- The loop of the spec from registration on, for artifacts, whether every listing of the
registration succeeds, how the log aggregator starts, the initial table and the ticks:
registration, the first build of every artifact and the first deploy of the whole table, which
end the loop when they fail, the log aggregator, and then the watch loop. -/
inductive DevLoop (artifacts : List Schema.Artifact) (listed : Bool)
    (logger : Except String Unit) (table : Table) (ticks : List Tick) :
    List Call → Except String Unit → Prop
  | registrationFailed (err : String) (unlisted : listed = false) :
      DevLoop artifacts listed logger table ticks [] (.error err)
  | firstBuildFailed (err : String) (registered : listed = true) :
      DevLoop artifacts listed logger table ticks [.build artifacts (.error err)]
        (.error (wrapError "exiting dev mode because the first build failed" err))
  | firstDeployFailed (bRes builds : List Build.Artifact) (err : String)
      (registered : listed = true) (whole : Represents builds (table.merge bRes)) :
      DevLoop artifacts listed logger table ticks
        [.build artifacts (.ok bRes), .deploy builds (.error err)]
        (.error (wrapError "exiting dev mode because the first deploy failed" err))
  | loggerFailed (bRes builds : List Build.Artifact) (err : String)
      (registered : listed = true) (whole : Represents builds (table.merge bRes))
      (failed : logger = .error err) :
      DevLoop artifacts listed logger table ticks
        [.build artifacts (.ok bRes), .deploy builds (.ok ())]
        (.error (wrapError "starting logger" err))
  | watching (bRes builds : List Build.Artifact) {calls : List Call}
      {result : Except String Unit} (registered : listed = true)
      (whole : Represents builds (table.merge bRes)) (started : logger = .ok ()) :
      Watching (table.merge bRes) ticks calls result →
      DevLoop artifacts listed logger table ticks
        (.build artifacts (.ok bRes) :: .deploy builds (.ok ()) :: calls) result

/-! ## Tables of build results -/

theorem Represents.initial {builds : List Build.Artifact} (unique : (imageNames builds).Nodup) :
    Represents builds (lookup builds) :=
  ⟨unique, fun _ => rfl⟩

/-- **A merge reads as the table updated by the new results.** -/
theorem Represents.merge {builds : List Build.Artifact} {table : Table}
    (whole : Represents builds table) {bRes : List Build.Artifact}
    (fresh : (imageNames bRes).Nodup) :
    Represents (mergeWithPreviousBuilds bRes builds) (table.merge bRes) :=
  ⟨nodup_mergeWithPreviousBuilds fresh whole.1, fun imageName => by
    rw [lookup_mergeWithPreviousBuilds, whole.2]
    rfl⟩

/-! ## The model refines the loop -/

section Refinement

variable (env : Env) (opts : Options) (artifacts : List Schema.Artifact)

/-- The builder answers a successful call with one result per requested artifact, named after
it. -/
def Env.OneResultPerArtifact : Prop :=
  ∀ calls requested bRes, env.build calls requested = .ok bRes →
    (imageNames bRes).Perm (requested.map Schema.Artifact.imageName)

/-- What the watcher reports in tick `t + 1`: the first listing error of the tick, or what the
handlers of the changed components record. -/
def Env.tickOf (t : Nat) : Tick :=
  match firstFailure (devComponents env opts artifacts) (t + 1) with
  | some err => .listingFailed err
  | none => .changed (dirtyAt env opts artifacts t) (env.change .deployer t).hasChanged
      (env.change .configuration t).hasChanged

/-- **One call of the tick callback is one step of the loop.** Whatever the accumulator holds,
when its dirty artifacts have distinct names and the state's builds represent `table`, `onChange`
makes the Build and Deploy calls of a step from `table` on the accumulator; it ends with the
step's error, or succeeds with an empty accumulator and builds that represent the step's table. -/
theorem onChange_refines (builder : env.OneResultPerArtifact) (e : WatchEvents) (s : DevState)
    (table : Table) (whole : Represents s.builds table)
    (distinct : (s.changed.dirtyArtifacts.map Schema.Artifact.imageName).Nodup) :
    ∃ calls next,
      TickStep table
        (.changed s.changed.dirtyArtifacts s.changed.needsRedeploy s.changed.needsReload)
        calls next ∧
      buildDeployCalls (onChange env e s).1.calls = buildDeployCalls s.calls ++ calls ∧
      match next with
      | .error err =>
          (onChange env e s).2.mapError (wrapError "calling final callback") = .error err
      | .ok table' => (onChange env e s).2 = .ok () ∧ (onChange env e s).1.changed = {} ∧
          Represents (onChange env e s).1.builds table' := by
  cases reload : s.changed.needsReload
  · by_cases dirty : s.changed.dirtyArtifacts = []
    · rw [dirty]
      cases redeploy : s.changed.needsRedeploy
      · obtain ⟨done, reset, same⟩ := onChange_idle env e s reload dirty redeploy
        exact ⟨[], .ok table, .idle table, by simp [same.2], done, reset, same.1 ▸ whole⟩
      · obtain ⟨done, reset, builds, calls⟩ := onChange_redeploy env e s reload dirty redeploy
        exact ⟨_, .ok table, .redeployed table s.builds _ whole, calls, done, reset, builds ▸ whole⟩
    · cases built : env.build s.calls s.changed.dirtyArtifacts with
      | error err =>
          obtain ⟨done, reset, builds, calls⟩ := onChange_buildFailed env e s reload dirty built
          exact ⟨_, .ok table, .buildFailed table _ err dirty, calls, done, reset, builds ▸ whole⟩
      | ok bRes =>
          have merged := whole.merge ((builder _ _ _ built).nodup_iff.mpr distinct)
          obtain ⟨done, reset, builds, calls⟩ := onChange_built env e s reload dirty built
          exact ⟨_, .ok (table.merge bRes), .rebuilt table _ bRes _ _ dirty merged, calls, done,
            reset, builds ▸ merged⟩
  · obtain ⟨stopped, same, -⟩ := onChange_reload env e s reload
    exact ⟨[], _, .reload table _ _, by simp [same.2], by rw [stopped]; rfl⟩

/-- **One tick of the watcher is one step of the loop.** From a state with an empty accumulator
whose table represents `table`, tick `t + 1` makes the Build and Deploy calls of a step from
`table` on what the watcher reports; it ends with the step's error, or continues with the
next snapshots, an empty accumulator and a table that represents the step's. -/
theorem tick_refines (distinct : (artifacts.map Schema.Artifact.imageName).Nodup)
    (builder : env.OneResultPerArtifact) (t : Nat) (s s' : DevState)
    (result : Except String (WatchList DevState)) (table : Table) (empty : s.changed = {})
    (whole : Represents s.builds table)
    (ticked : tick (listingAt (devComponents env opts artifacts) t) (onChange env) (t + 1) s =
      (s', result)) :
    ∃ calls next, TickStep table (env.tickOf opts artifacts t) calls next ∧
      buildDeployCalls s'.calls = buildDeployCalls s.calls ++ calls ∧
      match next with
      | .error err => result = .error err
      | .ok table' => result = .ok (listingAt (devComponents env opts artifacts) (t + 1)) ∧
          s'.changed = {} ∧ Represents s'.builds table' := by
  rw [tick_listingAt] at ticked
  cases failing : firstFailure (devComponents env opts artifacts) (t + 1) with
  | some err =>
      have kept := runHandlers_sameTable
        (firedAt ((listedBefore (devComponents env opts artifacts) (t + 1)).map (·.toWatched)) t)
        t s fun c member => by
          obtain ⟨c', listed, rfl⟩ := List.mem_map.mp (List.mem_filter.mp member).1
          exact devComponents_sameTable env opts artifacts c' (List.takeWhile_subset _ listed)
      simp only [failing, Prod.mk.injEq] at ticked
      obtain ⟨rfl, rfl⟩ := ticked
      refine ⟨[], .error (wrapError "listing files" err), ?_, by simp [kept.2], rfl⟩
      simpa [Env.tickOf, failing] using TickStep.listingFailed table err
  | none =>
      have reported : env.tickOf opts artifacts t = .changed (dirtyAt env opts artifacts t)
          (env.change .deployer t).hasChanged (env.change .configuration t).hasChanged := by
        simp [Env.tickOf, failing]
      obtain ⟨kept, accumulated⟩ := handlers_accumulate env opts artifacts t s distinct empty
      simp only [failing, listedBefore_of_listed failing] at ticked
      rw [reported]
      by_cases quiet : (firedAt ((devComponents env opts artifacts).map (·.toWatched)) t).isEmpty
      · -- No component changed: the handlers and the tick callback are not called.
        have nothing : runHandlers (firedAt ((devComponents env opts artifacts).map (·.toWatched))
            t) t s = s := by
          rw [List.isEmpty_iff.mp quiet]
          rfl
        rw [nothing, empty] at accumulated
        obtain ⟨noDirty, noRedeploy, noReload⟩ := Changes.mk.inj accumulated
        simp only [quiet, if_true, nothing, Prod.mk.injEq] at ticked
        obtain ⟨rfl, rfl⟩ := ticked
        rw [← noDirty, ← noRedeploy, ← noReload]
        exact ⟨[], .ok table, .idle table, by simp, rfl, empty, whole⟩
      · simp only [quiet, Bool.false_eq_true, if_false, Prod.mk.injEq] at ticked
        obtain ⟨rfl, rfl⟩ := ticked
        generalize lastChange ((devComponents env opts artifacts).map (·.toWatched)) t {} = e
        generalize runHandlers (firedAt ((devComponents env opts artifacts).map (·.toWatched)) t)
          t s = s1 at kept accumulated ⊢
        have fresh : (s1.changed.dirtyArtifacts.map Schema.Artifact.imageName).Nodup := by
          rw [accumulated]; exact dirtyAt_nodup env opts t distinct
        obtain ⟨calls, next, stepped, called, ended⟩ :=
          onChange_refines env builder e s1 table (kept.1 ▸ whole) fresh
        rw [accumulated] at stepped
        refine ⟨calls, next, stepped, by rw [called, kept.2], ?_⟩
        cases next with
        | error err => exact congrArg (Except.map _) ended
        | ok table' =>
            obtain ⟨done, reset, builds⟩ := ended
            exact ⟨by rw [done]; rfl, reset, builds⟩

/-- **A run of ticks is a run of the watch loop.** From a state with an empty accumulator whose
table represents `table`, the ticks `t + 1`, …, `t + ticks` of the watcher make the Build and
Deploy calls of a run of `Watching` from `table` on what the watcher reports, and end as it
does; a run that no error ended leaves the accumulator empty. -/
theorem run_refines (distinct : (artifacts.map Schema.Artifact.imageName).Nodup)
    (builder : env.OneResultPerArtifact) (ticks : Nat) :
    ∀ (t : Nat) (s s' : DevState) (result : Except String Unit) (table : Table),
      s.changed = {} → Represents s.builds table →
      run (onChange env) (listingAt (devComponents env opts artifacts) t) (t + 1) ticks s =
        (s', result) →
      ∃ calls, Watching table ((List.range' t ticks).map (env.tickOf opts artifacts)) calls result ∧
        buildDeployCalls s'.calls = buildDeployCalls s.calls ++ calls ∧
        (result = .ok () → s'.changed = {}) := by
  induction ticks with
  | zero =>
      intro t s s' result table empty _ ran
      obtain ⟨rfl, rfl⟩ := Prod.mk.inj ran
      exact ⟨[], .cancelled table, by simp, fun _ => empty⟩
  | succ ticks ih =>
      intro t s s' result table empty whole ran
      rcases ticked : tick (listingAt (devComponents env opts artifacts) t) (onChange env) (t + 1) s
        with ⟨s1, outcome⟩
      obtain ⟨calls, next, stepped, recorded, continued⟩ :=
        tick_refines env opts artifacts distinct builder t s s1 outcome table empty whole ticked
      rw [run, ticked] at ran
      cases next with
      | error err =>
          rw [continued] at ran
          obtain ⟨rfl, rfl⟩ := Prod.mk.inj ran
          exact ⟨calls, .stopped _ stepped, recorded, fun never => nomatch never⟩
      | ok table' =>
          obtain ⟨continues, reset, whole'⟩ := continued
          rw [continues] at ran
          obtain ⟨more, watching, recorded', keep⟩ :=
            ih (t + 1) s1 s' result table' reset whole' ran
          exact ⟨calls ++ more, .next stepped watching,
            by rw [recorded', recorded, List.append_assoc], keep⟩

end Refinement

/-- **`Dev` follows the loop of the spec.** For artifacts with distinct image names, a builder
that answers with one result per requested artifact, and an initial table with distinct image
names, every run of `Dev` over any number of ticks, in any environment, makes the Build and
Deploy calls of a run of `DevLoop` on the ticks the watcher reports, and ends as it does. The
first build receives every artifact; each tick acts on what the handlers of that tick recorded,
since a run that no error ended leaves the accumulator empty for the next tick. -/
theorem dev_refines_devLoop (env : Env) (opts : Options) (artifacts : List Schema.Artifact)
    (builds : List Build.Artifact) (ticks : Nat)
    (distinct : (artifacts.map Schema.Artifact.imageName).Nodup)
    (builder : env.OneResultPerArtifact) (unique : (imageNames builds).Nodup) :
    DevLoop artifacts (firstFailure (devComponents env opts artifacts) 0).isNone env.startLogger
        (lookup builds) ((List.range ticks).map (env.tickOf opts artifacts))
        (buildDeployCalls (dev env opts artifacts builds ticks).1.calls)
        (dev env opts artifacts builds ticks).2 ∧
      ((dev env opts artifacts builds ticks).2 = .ok () →
        (dev env opts artifacts builds ticks).1.changed = {}) := by
  obtain ⟨listedOk, listedError⟩ := registerAll_listingAt env opts artifacts
  cases listed : firstFailure (devComponents env opts artifacts) 0 with
  | some failure =>
      obtain ⟨err, failed⟩ := listedError (by simp [listed])
      simp only [dev, failed]
      exact ⟨.registrationFailed err rfl, fun never => nomatch never⟩
  | none =>
      simp only [dev, listedOk listed, Option.isNone_none]
      cases built : env.build (devStart builds).calls artifacts with
      | error err => exact ⟨.firstBuildFailed err rfl, fun never => nomatch never⟩
      | ok bRes =>
          have whole := (Represents.initial unique).merge
            ((builder _ _ _ built).nodup_iff.mpr distinct)
          simp only [DevState.record_calls, DevState.record_builds, updateBuiltImages_builds,
            devStart, List.nil_append]
          cases deployed : env.deploy [.build artifacts (.ok bRes)]
              (mergeWithPreviousBuilds bRes builds) with
          | error err =>
              exact ⟨.firstDeployFailed bRes _ err rfl whole, fun never => nomatch never⟩
          | ok _ =>
              cases started : env.startLogger with
              | error err =>
                  exact ⟨.loggerFailed bRes _ err rfl whole rfl, fun never => nomatch never⟩
              | ok _ =>
                  generalize ran : run (onChange env) _ 1 ticks _ = final
                  obtain ⟨calls, watching, recorded, keep⟩ :=
                    run_refines env opts artifacts distinct builder ticks 0 _ final.1 final.2 _ rfl
                      whole ran
                  have everyCall : buildDeployCalls final.1.calls = .build artifacts (.ok bRes) ::
                      .deploy (mergeWithPreviousBuilds bRes builds) (.ok ()) :: calls := by
                    rw [recorded]
                    rfl
                  rw [everyCall, List.range_eq_range']
                  exact ⟨.watching bRes _ rfl whole rfl watching, keep⟩

/-- An environment whose builder tags each requested artifact `dev`, whose deploys, syncs and
logger succeed, and whose files never change. -/
def quietEnv : Env where
  build _ requested := .ok (requested.map fun artifact => ⟨artifact.imageName, "dev"⟩)
  deploy _ _ := .ok ()
  copyFiles _ _ _ := .ok ()
  deleteFiles _ _ _ := .ok ()
  observe _ _ := ⟨[], List.Pairwise.nil⟩
  fails _ _ := none
  startLogger := .ok ()
  filepathMatch _ _ := .ok true

/-- `Dev` over three ticks, with two artifacts and a table that holds both: the sources of the
first artifact change in tick 1, the deployer's dependencies in tick 2 and the configuration in
tick 3, and no sync pattern matches; so the loop rebuilds the first artifact, then redeploys,
then reloads, and follows the loop of the spec. -/
theorem dev_rebuilds_redeploys_reloads :
    let artifacts : List Schema.Artifact := [⟨"app", ["*.html"]⟩, ⟨"web", ["*.html"]⟩]
    let builds : List Build.Artifact := [⟨"app", "app:v0"⟩, ⟨"web", "web:v0"⟩]
    let changesAt : Nat → Nat → FileMap := fun tick t =>
      ⟨[("main.go", ⟨if t < tick then 0 else 1, 0⟩)], List.pairwise_singleton _ _⟩
    let env : Env := { quietEnv with
      observe := fun source => match source with
        | .artifact 0 => changesAt 1
        | .artifact _ => changesAt 4
        | .deployer => changesAt 2
        | .configuration => changesAt 3
      filepathMatch := fun _ _ => .ok false }
    let opts : Options := ⟨[], "skaffold.yaml"⟩
    (List.range 3).map (env.tickOf opts artifacts) =
        [.changed [⟨"app", ["*.html"]⟩] false false, .changed [] true false,
          .changed [] false true] ∧
      (artifacts.map Schema.Artifact.imageName).Nodup ∧ env.OneResultPerArtifact ∧
      (imageNames builds).Nodup ∧
      DevLoop artifacts (firstFailure (devComponents env opts artifacts) 0).isNone
          env.startLogger (lookup builds) ((List.range 3).map (env.tickOf opts artifacts))
          (buildDeployCalls (dev env opts artifacts builds 3).1.calls)
          (dev env opts artifacts builds 3).2 ∧
        ((dev env opts artifacts builds 3).2 = .ok () →
          (dev env opts artifacts builds 3).1.changed = {}) := by
  intro artifacts builds changesAt env opts
  have ticks : (List.range 3).map (env.tickOf opts artifacts) =
      [.changed [⟨"app", ["*.html"]⟩] false false, .changed [] true false,
        .changed [] false true] := rfl
  have builder : env.OneResultPerArtifact := fun _ requested _ built => by
    cases built
    simp [Build.imageNames, Function.comp_def]
  exact ⟨ticks, by decide, builder, by decide,
    dev_refines_devLoop env opts artifacts builds 3 (by decide) builder (by decide)⟩

end Skaffold.Runner

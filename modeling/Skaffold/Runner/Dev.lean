import Mathlib.Data.List.Infix
import Skaffold.Runner.Builds
import Skaffold.Runner.Sync

/-!
# The dev loop of the runner

`SkaffoldRunner.Dev` registers one watcher component per watched artifact, one for the
deployer's dependencies and one for the configuration file, builds and deploys every artifact
once, and then hands control to the watcher. The components' handlers only record what changed
in a change accumulator (`changes`), or sync files into running pods; the tick callback
(`onChange`) acts on the accumulator: a changed configuration ends the loop with
`ErrorConfigurationChanged`, dirty artifacts are rebuilt and the whole table redeployed, a
change of the deployer's dependencies redeploys the table; the accumulator is reset afterwards.

The collaborators (builder, deployer, syncer) and the file system are the environment of the
loop (`Env`). A collaborator answers each call from the calls made before it, so every pattern
of successes and failures is an environment; the state of the loop logs every call with its
answer (`DevState.calls`).

The type of the accumulator is not in the sources; it is modelled from the spec (`Changes`).
An artifact without sync patterns is synced, never rebuilt, on every change of its files, since
`match` holds vacuously on an empty pattern list (`artifactChanged_without_patterns`). The module
ends with the facts about one tick that the refinement in `Skaffold.Runner.DevLoop`
is built from: what the handlers leave in the accumulator (`handlers_accumulate`) and what the
tick callback does with it (`onChange_reload`, `onChange_buildFailed`, `onChange_built`,
`onChange_redeploy`, `onChange_idle`).
-/

set_option autoImplicit false

namespace Skaffold.Runner

open Watch

/-! ## The change accumulator -/

/-- `changes`, modelled from the spec: the artifacts to rebuild, in the order their handlers ran,
and whether the deployer's dependencies or the configuration changed. -/
structure Changes where
  dirtyArtifacts : List Schema.Artifact := []
  needsRedeploy : Bool := false
  needsReload : Bool := false
  deriving DecidableEq, Repr

/-- `changes.Add`, modelled from the spec (the dirty artifacts are a set): an artifact already
dirty is not added again. -/
def Changes.add (changed : Changes) (artifact : Schema.Artifact) : Changes :=
  if artifact ∈ changed.dirtyArtifacts then changed
  else { changed with dirtyArtifacts := changed.dirtyArtifacts ++ [artifact] }

theorem Changes.add_of_not_mem {changed : Changes} {artifact : Schema.Artifact}
    (fresh : artifact ∉ changed.dirtyArtifacts) :
    changed.add artifact =
      { changed with dirtyArtifacts := changed.dirtyArtifacts ++ [artifact] } :=
  if_neg fresh

/-! ## Collaborators and state -/

/-- A call of the dev loop to a collaborator, with the collaborator's answer. -/
inductive Call where
  | build (artifacts : List Schema.Artifact) (result : Except String (List Build.Artifact))
  | deploy (builds : List Build.Artifact) (result : Except String Unit)
  | copyFiles (image : String) (files : List String) (result : Except String Unit)
  | deleteFiles (image : String) (files : List String) (result : Except String Unit)

/-- The components `Dev` registers with the watcher. -/
inductive Source where
  | artifact (index : Nat)
  | deployer
  | configuration

/-- What `Dev` runs against. The builder, the deployer and the syncer answer each call from the
calls made before it. A dependency listing of a component fails at a call with `fails`, and
otherwise observes `observe`; call `0` is the one at registration, call `t` the one of tick `t`.
`filepathMatch` is Go's `filepath.Match`. -/
structure Env where
  build : List Call → List Schema.Artifact → Except String (List Build.Artifact)
  deploy : List Call → List Build.Artifact → Except String Unit
  copyFiles : List Call → String → List String → Except String Unit
  deleteFiles : List Call → String → List String → Except String Unit
  observe : Source → Nat → FileMap
  fails : Source → Nat → Option String
  startLogger : Except String Unit
  filepathMatch : String → String → Except String Bool

/-- The options `Dev` reads: the `--watch` filter and the configuration file. -/
structure Options where
  watch : List String
  configurationFile : String

/-- What `Dev` changes as it runs: the accumulator, the runner's table `r.builds`, the image
list, the calls made so far, and whether the log aggregator is muted or stopped. -/
structure DevState where
  changed : Changes
  builds : List Build.Artifact
  images : List String
  calls : List Call
  muted : Bool
  loggerStopped : Bool

/-- Log a call. -/
def DevState.record (s : DevState) (call : Call) : DevState := { s with calls := s.calls ++ [call] }

@[simp] theorem DevState.record_changed (s : DevState) (call : Call) :
    (s.record call).changed = s.changed := rfl

@[simp] theorem DevState.record_builds (s : DevState) (call : Call) :
    (s.record call).builds = s.builds := rfl

@[simp] theorem DevState.record_calls (s : DevState) (call : Call) :
    (s.record call).calls = s.calls ++ [call] := rfl

/-! ## The handlers and the tick callback -/

section Handlers

variable (env : Env)

/-- The handler of an artifact: sync the changed files when `shouldSync` says so, and otherwise
mark the artifact dirty. -/
def artifactChanged (artifact : Schema.Artifact) : ChangeFn DevState := fun e s =>
  match shouldSync env.filepathMatch artifact.sync e with
  | .error err => (s, .error (wrapError "checking sync files" err))
  | .ok false => ({ s with changed := s.changed.add artifact }, .ok ())
  | .ok true =>
      let copyFiles := e.added ++ e.modified
      let copied := env.copyFiles s.calls artifact.imageName copyFiles
      let s := s.record (.copyFiles artifact.imageName copyFiles copied)
      match copied with
      | .error err => (s, .error (wrapError "copying files" err))
      | .ok () =>
          let deleted := env.deleteFiles s.calls artifact.imageName e.deleted
          let s := s.record (.deleteFiles artifact.imageName e.deleted deleted)
          match deleted with
          | .error err => (s, .error (wrapError "deleting files" err))
          | .ok () => (s, .ok ())

/-- The handler of the deployer's dependencies. -/
def deployerChanged : ChangeFn DevState := fun _ s =>
  ({ s with changed := { s.changed with needsRedeploy := true } }, .ok ())

/-- The handler of the configuration file. -/
def configurationChanged : ChangeFn DevState := fun _ s =>
  ({ s with changed := { s.changed with needsReload := true } }, .ok ())

/-- `ErrorConfigurationChanged`. -/
def errorConfigurationChanged : String := "configuration changed"

/-- Deploy the whole table `r.builds`; the error is only logged. The flag says whether the
deploy failed. -/
def deployBuilds (s : DevState) : DevState × Bool :=
  let deployed := env.deploy s.calls s.builds
  (s.record (.deploy s.builds deployed), deployed matches .error _)

/-- The `switch` of the tick callback: the state, the error it returns, and `hasError`. -/
def onChangeSwitch (s : DevState) : DevState × Except String Unit × Bool :=
  if s.changed.needsReload then
    ({ s with loggerStopped := true }, .error errorConfigurationChanged, true)
  else if !s.changed.dirtyArtifacts.isEmpty then
    let built := env.build s.calls s.changed.dirtyArtifacts
    let s := s.record (.build s.changed.dirtyArtifacts built)
    match built with
    | .error _ => (s, .ok (), true)
    | .ok bRes =>
        let (images, builds) := updateBuiltImages s.images s.builds bRes
        let (s, failed) := deployBuilds env { s with images, builds }
        (s, .ok (), failed)
  else if s.changed.needsRedeploy then
    let (s, failed) := deployBuilds env s
    (s, .ok (), failed)
  else (s, .ok (), false)

/-- The tick callback of `Dev` (`onChange`): mute the logs, act on the accumulator, and then, as
the deferred function does, reset the accumulator and unmute the logs unless something failed. -/
def onChange : ChangeFn DevState := fun _ s =>
  let (s, result, hasError) := onChangeSwitch env { s with muted := true }
  ({ s with changed := {}, muted := hasError }, result)

end Handlers

/-! ## Registration and the first run -/

section Dev

variable (env : Env)

/-- `shouldWatch`: every artifact when there is no `--watch` filter, and otherwise the artifacts
whose image name contains one of the filter's expressions. -/
def shouldWatch (opts : Options) (artifact : Schema.Artifact) : Bool :=
  opts.watch.isEmpty ||
    opts.watch.any fun watchExpression =>
      decide (watchExpression.toList <:+: artifact.imageName.toList)

/-- The watcher component of a source with its handler. -/
def Env.listing (source : Source) (onChange : ChangeFn DevState) : Listing DevState :=
  { observe := env.observe source, onChange, fails := env.fails source }

@[simp] theorem Env.listing_onChange (source : Source) (onChange : ChangeFn DevState) :
    (env.listing source onChange).onChange = onChange := rfl

@[simp] theorem Env.listing_fails (source : Source) (onChange : ChangeFn DevState) :
    (env.listing source onChange).fails = env.fails source := rfl

/-- The registration loop over the artifacts, from the artifact of index `index`. -/
def registerArtifacts (opts : Options) :
    WatchList DevState → Nat → List Schema.Artifact → Except String (WatchList DevState)
  | w, _, [] => .ok w
  | w, index, artifact :: rest =>
      if shouldWatch opts artifact then
        match register w (env.listing (.artifact index) (artifactChanged env artifact)).deps
            (artifactChanged env artifact) with
        | .error err =>
            .error (wrapError ("watching files for artifact " ++ artifact.imageName) err)
        | .ok w => registerArtifacts opts w (index + 1) rest
      else registerArtifacts opts w (index + 1) rest

/-- The registrations of `Dev`: the watched artifacts, then the deployer's dependencies, then
the configuration file. -/
def registerAll (opts : Options) (artifacts : List Schema.Artifact) :
    Except String (WatchList DevState) := do
  let w ← registerArtifacts env opts [] 0 artifacts
  let w ← (register w (env.listing .deployer deployerChanged).deps deployerChanged).mapError
    (wrapError "watching files for deployer")
  (register w (env.listing .configuration configurationChanged).deps
    configurationChanged).mapError
    (wrapError ("watching skaffold configuration " ++ opts.configurationFile))

/-- The state `Dev` starts from: an empty accumulator and image list, the runner's table, no
call made yet, and the logs not muted. -/
def devStart (builds : List Build.Artifact) : DevState :=
  { changed := {}, builds, images := [], calls := [], muted := false, loggerStopped := false }

/-- `SkaffoldRunner.Dev`, run until the context is cancelled after `ticks` ticks of the watcher.
The port-forwarder's `Start` only spawns its loop and returns `nil`. -/
def dev (opts : Options) (artifacts : List Schema.Artifact) (builds : List Build.Artifact)
    (ticks : Nat) : DevState × Except String Unit :=
  let s := devStart builds
  match registerAll env opts artifacts with
  | .error err => (s, .error err)
  | .ok w =>
      let built := env.build s.calls artifacts
      let s := s.record (.build artifacts built)
      match built with
      | .error err => (s, .error (wrapError "exiting dev mode because the first build failed" err))
      | .ok bRes =>
          let (images, builds) := updateBuiltImages s.images s.builds bRes
          let s := { s with images, builds }
          let deployed := env.deploy s.calls s.builds
          let s := s.record (.deploy s.builds deployed)
          match deployed with
          | .error err =>
              (s, .error (wrapError "exiting dev mode because the first deploy failed" err))
          | .ok () =>
              match env.startLogger with
              | .error err => (s, .error (wrapError "starting logger" err))
              | .ok () => run (onChange env) w 1 ticks s

end Dev

/-! ## Facts about one tick -/

/-- Whether a call goes to the builder or the deployer. -/
def Call.isBuildOrDeploy : Call → Bool
  | .build .. | .deploy .. => true
  | .copyFiles .. | .deleteFiles .. => false

/-- The Build and Deploy calls of a log, in order. -/
def buildDeployCalls (calls : List Call) : List Call := calls.filter Call.isBuildOrDeploy

@[simp] theorem buildDeployCalls_nil : buildDeployCalls [] = [] := rfl

@[simp] theorem buildDeployCalls_append (calls more : List Call) :
    buildDeployCalls (calls ++ more) = buildDeployCalls calls ++ buildDeployCalls more :=
  List.filter_append _ _

@[simp] theorem buildDeployCalls_build (artifacts : List Schema.Artifact)
    (result : Except String (List Build.Artifact)) (calls : List Call) :
    buildDeployCalls (.build artifacts result :: calls) =
      .build artifacts result :: buildDeployCalls calls := rfl

@[simp] theorem buildDeployCalls_deploy (builds : List Build.Artifact)
    (result : Except String Unit) (calls : List Call) :
    buildDeployCalls (.deploy builds result :: calls) =
      .deploy builds result :: buildDeployCalls calls := rfl

@[simp] theorem buildDeployCalls_copyFiles (image : String) (files : List String)
    (result : Except String Unit) (calls : List Call) :
    buildDeployCalls (.copyFiles image files result :: calls) = buildDeployCalls calls := rfl

@[simp] theorem buildDeployCalls_deleteFiles (image : String) (files : List String)
    (result : Except String Unit) (calls : List Call) :
    buildDeployCalls (.deleteFiles image files result :: calls) = buildDeployCalls calls := rfl

/-- A handler step changes neither the table nor the Build and Deploy calls. -/
def DevState.SameTable (s s' : DevState) : Prop :=
  s'.builds = s.builds ∧ buildDeployCalls s'.calls = buildDeployCalls s.calls

theorem DevState.SameTable.trans {s s' s'' : DevState} (first : s.SameTable s')
    (second : s'.SameTable s'') : s.SameTable s'' :=
  ⟨second.1.trans first.1, second.2.trans first.2⟩

section Tick

variable (env : Env)

/-- Whether the handler of an artifact marks it dirty on a change: `shouldSync` answered
`false`. -/
def marksDirty (artifact : Schema.Artifact) (e : WatchEvents) : Bool :=
  match shouldSync env.filepathMatch artifact.sync e with
  | .ok false => true
  | _ => false

/-- **The handler of an artifact** keeps the table and the Build and Deploy calls, and marks the
artifact dirty exactly when `shouldSync` answers `false`. -/
theorem artifactChanged_spec (artifact : Schema.Artifact) (e : WatchEvents) (s : DevState) :
    s.SameTable (artifactChanged env artifact e s).1 ∧
      (artifactChanged env artifact e s).1.changed =
        if marksDirty env artifact e then s.changed.add artifact else s.changed := by
  unfold artifactChanged marksDirty
  rcases shouldSync env.filepathMatch artifact.sync e with err | _ | _
  · exact ⟨⟨rfl, rfl⟩, rfl⟩
  · exact ⟨⟨rfl, rfl⟩, rfl⟩
  · simp only
    rcases env.copyFiles s.calls artifact.imageName (e.added ++ e.modified) with err | _
    · simp [DevState.SameTable]
    · rcases env.deleteFiles _ artifact.imageName e.deleted with err | _ <;>
        simp [DevState.SameTable]

/-- The handler of an artifact without sync patterns never marks it dirty: every change is
synced. -/
theorem artifactChanged_without_patterns (artifact : Schema.Artifact) (e : WatchEvents)
    (s : DevState) (unsynced : artifact.sync = []) (changed : e.hasChanged) :
    (artifactChanged env artifact e s).1.changed = s.changed := by
  rw [(artifactChanged_spec env artifact e s).2, marksDirty, unsynced,
    shouldSync_without_patterns, changed]
  rfl

/-- An artifact without sync patterns whose `main.go` was modified: its handler copies
`main.go` into the running pods and leaves the accumulator as it was, so the artifact is not
rebuilt. -/
theorem main_go_synced_without_patterns (s : DevState) :
    let handled := (artifactChanged env ⟨"app", []⟩ { modified := ["main.go"] } s).1
    handled.changed = s.changed ∧
      .copyFiles "app" ["main.go"] (env.copyFiles s.calls "app" ["main.go"]) ∈ handled.calls := by
  have changed : ({ modified := ["main.go"] } : WatchEvents).hasChanged = true := rfl
  refine ⟨artifactChanged_without_patterns env _ _ s rfl changed, ?_⟩
  simp only [artifactChanged, shouldSync_without_patterns, changed]
  cases copied : env.copyFiles s.calls "app" ["main.go"] with
  | error err => simp [copied]
  | ok _ => cases env.deleteFiles _ "app" [] <;> simp [copied]

theorem deployerChanged_spec (e : WatchEvents) (s : DevState) :
    s.SameTable (deployerChanged e s).1 ∧
      (deployerChanged e s).1.changed = { s.changed with needsRedeploy := true } :=
  ⟨⟨rfl, rfl⟩, rfl⟩

theorem configurationChanged_spec (e : WatchEvents) (s : DevState) :
    s.SameTable (configurationChanged e s).1 ∧
      (configurationChanged e s).1.changed = { s.changed with needsReload := true } :=
  ⟨⟨rfl, rfl⟩, rfl⟩

/-- A changed configuration ends the loop: no call, the table kept, the accumulator reset. -/
theorem onChange_reload (e : WatchEvents) (s : DevState) (reload : s.changed.needsReload) :
    (onChange env e s).2 = .error errorConfigurationChanged ∧
      s.SameTable (onChange env e s).1 ∧ (onChange env e s).1.changed = {} := by
  simp [onChange, onChangeSwitch, reload, DevState.SameTable]

/-- A failed build of the dirty artifacts deploys nothing and keeps the table. -/
theorem onChange_buildFailed (e : WatchEvents) (s : DevState)
    (noReload : s.changed.needsReload = false) (dirty : s.changed.dirtyArtifacts ≠ [])
    {err : String}
    (failed : env.build s.calls s.changed.dirtyArtifacts = .error err) :
    (onChange env e s).2 = .ok () ∧ (onChange env e s).1.changed = {} ∧
      (onChange env e s).1.builds = s.builds ∧
      buildDeployCalls (onChange env e s).1.calls =
        buildDeployCalls s.calls ++ [.build s.changed.dirtyArtifacts (.error err)] := by
  have busy : s.changed.dirtyArtifacts.isEmpty = false := by simpa using dirty
  simp [onChange, onChangeSwitch, noReload, busy, failed]

/-- A successful build of the dirty artifacts merges the results into the table and deploys the
whole table. -/
theorem onChange_built (e : WatchEvents) (s : DevState)
    (noReload : s.changed.needsReload = false) (dirty : s.changed.dirtyArtifacts ≠ [])
    {bRes : List Build.Artifact} (built : env.build s.calls s.changed.dirtyArtifacts = .ok bRes) :
    let merged := mergeWithPreviousBuilds bRes s.builds
    (onChange env e s).2 = .ok () ∧ (onChange env e s).1.changed = {} ∧
      (onChange env e s).1.builds = merged ∧
      buildDeployCalls (onChange env e s).1.calls =
        buildDeployCalls s.calls ++ [.build s.changed.dirtyArtifacts (.ok bRes),
          .deploy merged (env.deploy (s.calls ++ [.build s.changed.dirtyArtifacts (.ok bRes)])
            merged)] := by
  have busy : s.changed.dirtyArtifacts.isEmpty = false := by simpa using dirty
  simp [onChange, onChangeSwitch, noReload, busy, built, deployBuilds, updateBuiltImages,
    DevState.record]

/-- Without a reload or a dirty artifact, a change of the deployer's dependencies deploys the
whole table. -/
theorem onChange_redeploy (e : WatchEvents) (s : DevState)
    (noReload : s.changed.needsReload = false) (clean : s.changed.dirtyArtifacts = [])
    (redeploy : s.changed.needsRedeploy) :
    (onChange env e s).2 = .ok () ∧ (onChange env e s).1.changed = {} ∧
      (onChange env e s).1.builds = s.builds ∧
      buildDeployCalls (onChange env e s).1.calls =
        buildDeployCalls s.calls ++ [.deploy s.builds (env.deploy s.calls s.builds)] := by
  simp [onChange, onChangeSwitch, noReload, clean, redeploy, deployBuilds, DevState.record]

/-- With nothing to rebuild, redeploy or reload, the tick callback calls nothing. -/
theorem onChange_idle (e : WatchEvents) (s : DevState)
    (noReload : s.changed.needsReload = false) (clean : s.changed.dirtyArtifacts = [])
    (noRedeploy : s.changed.needsRedeploy = false) :
    (onChange env e s).2 = .ok () ∧ (onChange env e s).1.changed = {} ∧
      s.SameTable (onChange env e s).1 := by
  simp [onChange, onChangeSwitch, noReload, clean, noRedeploy, DevState.SameTable]

end Tick

/-! ## The components and what their handlers leave -/

section Components

variable (env : Env)

/-- The watched artifacts, with their index in the artifact list. -/
def watchedArtifacts (opts : Options) (artifacts : List Schema.Artifact) :
    List (Nat × Schema.Artifact) :=
  artifacts.enum.filter fun pair => shouldWatch opts pair.2

/-- The watcher component of a watched artifact. -/
def Env.artifactListing : Nat × Schema.Artifact → Listing DevState
  | (index, artifact) => env.listing (.artifact index) (artifactChanged env artifact)

/-- The components `Dev` registers, in registration order. -/
def devComponents (opts : Options) (artifacts : List Schema.Artifact) : List (Listing DevState) :=
  (watchedArtifacts opts artifacts).map env.artifactListing ++
    [env.listing .deployer deployerChanged, env.listing .configuration configurationChanged]

/-- The change a source shows from its observation of tick `t` to that of tick `t + 1`. -/
def Env.change (source : Source) (t : Nat) : WatchEvents :=
  events (env.observe source t) (env.observe source (t + 1))

/-- Whether the handler of a watched artifact fires in tick `t + 1` and marks it dirty. -/
def Env.rebuilds (t : Nat) (pair : Nat × Schema.Artifact) : Bool :=
  (env.change (.artifact pair.1) t).hasChanged &&
    marksDirty env pair.2 (env.change (.artifact pair.1) t)

/-- The artifacts whose handler marks them dirty in tick `t + 1`: the watched artifacts that
changed and that `shouldSync` does not sync, in registration order. -/
def dirtyAt (opts : Options) (artifacts : List Schema.Artifact) (t : Nat) :
    List Schema.Artifact :=
  ((watchedArtifacts opts artifacts).filter (env.rebuilds t)).map Prod.snd

theorem runHandlers_append {σ : Type} (first second : List (Watched σ)) (t : Nat) (s : σ) :
    runHandlers (first ++ second) t s = runHandlers second t (runHandlers first t s) :=
  List.foldl_append _ _ _ _

theorem firedAt_append {σ : Type} (first second : List (Watched σ)) (t : Nat) :
    firedAt (first ++ second) t = firedAt first t ++ firedAt second t :=
  List.filter_append _ _

/-- Every handler of a component of `Dev` keeps the table and the Build and Deploy calls. -/
theorem devComponents_sameTable (opts : Options) (artifacts : List Schema.Artifact) :
    ∀ c ∈ devComponents env opts artifacts, ∀ (e : WatchEvents) (s : DevState),
      s.SameTable (c.onChange e s).1 := by
  intro c member e s
  simp only [devComponents, List.mem_append, List.mem_map, List.mem_cons,
    List.mem_singleton, List.not_mem_nil, or_false] at member
  rcases member with ⟨⟨index, artifact⟩, _, rfl⟩ | rfl | rfl
  · exact (artifactChanged_spec env artifact e s).1
  · exact (deployerChanged_spec e s).1
  · exact (configurationChanged_spec e s).1

/-- Running handlers that each keep the table keeps the table. -/
theorem runHandlers_sameTable (fired : List (Watched DevState)) (t : Nat) (s : DevState)
    (keep : ∀ c ∈ fired, ∀ (e : WatchEvents) (s : DevState), s.SameTable (c.onChange e s).1) :
    s.SameTable (runHandlers fired t s) := by
  induction fired generalizing s with
  | nil => exact ⟨rfl, rfl⟩
  | cons c rest ih =>
      exact (keep c (List.mem_cons_self _ _) _ s).trans
        (ih _ fun c' member => keep c' (List.mem_cons_of_mem _ member))

/-- The handlers of the fired artifacts append, in order, the artifacts they mark dirty. -/
theorem runHandlers_artifacts (pairs : List (Nat × Schema.Artifact)) (t : Nat) (s : DevState)
    (distinct : (pairs.map Prod.snd).Nodup)
    (fresh : ∀ pair ∈ pairs, pair.2 ∉ s.changed.dirtyArtifacts) :
    (runHandlers (firedAt ((pairs.map env.artifactListing).map (·.toWatched)) t) t s).changed =
      { s.changed with dirtyArtifacts := s.changed.dirtyArtifacts ++
          (pairs.filter (env.rebuilds t)).map Prod.snd } := by
  induction pairs generalizing s with
  | nil => simp [runHandlers, firedAt]
  | cons pair rest ih =>
      obtain ⟨index, artifact⟩ := pair
      simp only [List.map_cons, List.nodup_cons] at distinct
      have restFresh : ∀ other ∈ rest, other.2 ∉ s.changed.dirtyArtifacts :=
        fun other member => fresh other (List.mem_cons_of_mem _ member)
      have change : (env.artifactListing (index, artifact)).toWatched.change t =
          env.change (.artifact index) t := rfl
      have here : (env.artifactListing (index, artifact)).onChange = artifactChanged env artifact :=
        rfl
      have handled := (artifactChanged_spec env artifact (env.change (.artifact index) t) s).2
      have notYet := fresh (index, artifact) (List.mem_cons_self _ _)
      by_cases fired : (env.change (.artifact index) t).hasChanged
      · simp only [runHandlers, firedAt, List.map_cons, List.filter_cons, change, fired,
          if_true, List.foldl_cons] at ih ⊢
        rw [ih _ distinct.2, here, handled]
        · by_cases dirty : marksDirty env artifact (env.change (.artifact index) t)
          · simp [dirty, fired, Env.rebuilds, Changes.add_of_not_mem notYet]
          · simp [dirty, fired, Env.rebuilds]
        · intro other member
          have differ : other.2 ≠ artifact := fun same =>
            distinct.1 (same ▸ List.mem_map_of_mem Prod.snd member)
          rw [here, handled]
          split
          · simp [Changes.add_of_not_mem notYet, restFresh other member, differ]
          · exact restFresh other member
      · simp only [runHandlers, firedAt, List.map_cons, List.filter_cons, change, fired,
          Bool.false_eq_true, if_false] at ih ⊢
        rw [ih s distinct.2 restFresh]
        simp [fired, Env.rebuilds]

/-- The handlers of the deployer and of the configuration only raise their flags. -/
theorem runHandlers_flags (t : Nat) (s : DevState) :
    (runHandlers (firedAt ([env.listing .deployer deployerChanged,
        env.listing .configuration configurationChanged].map (·.toWatched)) t) t s).changed =
      { s.changed with
        needsRedeploy := s.changed.needsRedeploy || (env.change .deployer t).hasChanged
        needsReload := s.changed.needsReload || (env.change .configuration t).hasChanged } := by
  have deployer : (env.listing .deployer deployerChanged).toWatched.change t =
      env.change .deployer t := rfl
  have configuration : (env.listing .configuration configurationChanged).toWatched.change t =
      env.change .configuration t := rfl
  cases redeploy : (env.change .deployer t).hasChanged <;>
    cases reload : (env.change .configuration t).hasChanged <;>
    simp only [runHandlers, firedAt, List.map_cons, List.map_nil, List.filter_cons,
      List.filter_nil, deployer, configuration, redeploy, reload] <;>
    simp [Env.listing, deployerChanged, configurationChanged]

/-- The watched artifacts are distinct when the artifacts have distinct image names. -/
theorem watchedArtifacts_nodup (opts : Options) {artifacts : List Schema.Artifact}
    (distinct : (artifacts.map Schema.Artifact.imageName).Nodup) :
    ((watchedArtifacts opts artifacts).map Prod.snd).Nodup := by
  have all : (artifacts.enum.map Prod.snd).Nodup := by
    rw [List.enum_map_snd]
    exact distinct.of_map _
  exact all.sublist ((List.filter_sublist _).map _)

/-- The artifacts marked dirty in a tick have distinct image names. -/
theorem dirtyAt_nodup (opts : Options) {artifacts : List Schema.Artifact} (t : Nat)
    (distinct : (artifacts.map Schema.Artifact.imageName).Nodup) :
    ((dirtyAt env opts artifacts t).map Schema.Artifact.imageName).Nodup := by
  have sub : List.Sublist (dirtyAt env opts artifacts t) (artifacts.enum.map Prod.snd) :=
    (((watchedArtifacts opts artifacts).filter_sublist).trans (List.filter_sublist _)).map _
  rw [List.enum_map_snd] at sub
  exact distinct.sublist (sub.map _)

/-- **What the handlers of a tick leave.** From an empty accumulator, when every listing of tick
`t + 1` succeeds, the handlers keep the table and the Build and Deploy calls and leave the
artifacts marked dirty, whether the deployer's dependencies changed, and whether the
configuration changed. -/
theorem handlers_accumulate (opts : Options) (artifacts : List Schema.Artifact) (t : Nat)
    (s : DevState) (distinct : (artifacts.map Schema.Artifact.imageName).Nodup)
    (empty : s.changed = {}) :
    let s' := runHandlers (firedAt ((devComponents env opts artifacts).map (·.toWatched)) t) t s
    s.SameTable s' ∧
      s'.changed = { dirtyArtifacts := dirtyAt env opts artifacts t
                     needsRedeploy := (env.change .deployer t).hasChanged
                     needsReload := (env.change .configuration t).hasChanged } := by
  refine ⟨runHandlers_sameTable _ t s fun c member => ?_, ?_⟩
  · obtain ⟨c', inComponents, rfl⟩ := List.mem_map.mp (List.mem_filter.mp member).1
    exact devComponents_sameTable env opts artifacts c' inComponents
  · rw [devComponents, List.map_append, firedAt_append, runHandlers_append, runHandlers_flags,
      runHandlers_artifacts env _ t s (watchedArtifacts_nodup opts distinct) (by simp [empty])]
    simp [empty, dirtyAt]

/-- The watcher components of the artifacts from index `index` on that `Dev` watches. -/
def watchedFrom (opts : Options) (index : Nat) (rest : List Schema.Artifact) :
    List (Listing DevState) :=
  ((rest.enumFrom index).filter fun pair => shouldWatch opts pair.2).map env.artifactListing

/-- The registration loop over the artifacts registers the watched ones in order when each of
their listings succeeds, and fails otherwise. -/
theorem registerArtifacts_listingAt (opts : Options) (rest : List Schema.Artifact) :
    ∀ (done : List (Listing DevState)) (index : Nat),
      (firstFailure (watchedFrom env opts index rest) 0 = none →
        registerArtifacts env opts (listingAt done 0) index rest =
          .ok (listingAt (done ++ watchedFrom env opts index rest) 0)) ∧
      (firstFailure (watchedFrom env opts index rest) 0 ≠ none →
        ∃ err, registerArtifacts env opts (listingAt done 0) index rest = .error err) := by
  induction rest with
  | nil => simp [registerArtifacts, watchedFrom, firstFailure]
  | cons artifact rest ih =>
      intro done index
      by_cases watched : shouldWatch opts artifact
      · have registered := register_listingAt done (env.artifactListing (index, artifact))
        have listing : watchedFrom env opts index (artifact :: rest) =
            env.artifactListing (index, artifact) :: watchedFrom env opts (index + 1) rest := by
          simp [watchedFrom, watched]
        simp only [Env.artifactListing, Env.listing_onChange,
          Env.listing_fails] at registered listing
        simp only [registerArtifacts, watched, if_true, listing, registered, firstFailure,
          List.findSome?_cons, Env.listing_fails]
        cases env.fails (.artifact index) 0 with
        | some err => simp
        | none => simpa [firstFailure] using ih (done ++ [env.artifactListing (index, artifact)])
                    (index + 1)
      · have listing : watchedFrom env opts index (artifact :: rest) =
            watchedFrom env opts (index + 1) rest := by
          simp [watchedFrom, watched]
        simpa [registerArtifacts, watched, listing] using ih done (index + 1)

/-- The registrations of `Dev` succeed exactly when every listing of the registration call does,
and then leave the components with their first observations. -/
theorem registerAll_listingAt (opts : Options) (artifacts : List Schema.Artifact) :
    (firstFailure (devComponents env opts artifacts) 0 = none →
      registerAll env opts artifacts = .ok (listingAt (devComponents env opts artifacts) 0)) ∧
    (firstFailure (devComponents env opts artifacts) 0 ≠ none →
      ∃ err, registerAll env opts artifacts = .error err) := by
  have loop := registerArtifacts_listingAt env opts artifacts [] 0
  have components : devComponents env opts artifacts = watchedFrom env opts 0 artifacts ++
      [env.listing .deployer deployerChanged, env.listing .configuration configurationChanged] :=
    rfl
  have deployer := register_listingAt (watchedFrom env opts 0 artifacts)
    (env.listing .deployer deployerChanged)
  have configuration := register_listingAt
    (watchedFrom env opts 0 artifacts ++ [env.listing .deployer deployerChanged])
    (env.listing .configuration configurationChanged)
  simp only [Env.listing_onChange, Env.listing_fails] at deployer configuration
  simp only [components, firstFailure, List.findSome?_append, List.findSome?_cons,
    List.findSome?_nil, Env.listing_fails] at loop ⊢
  simp only [List.nil_append, show listingAt [] 0 = ([] : WatchList DevState) from rfl] at loop
  cases artifactsFailure :
      List.findSome? (fun c => c.fails 0) (watchedFrom env opts 0 artifacts) with
  | some err =>
      obtain ⟨err, failed⟩ := loop.2 (by simp [artifactsFailure])
      exact ⟨fun never => by simp at never, fun _ => ⟨err, by rw [registerAll, failed]; rfl⟩⟩
  | none =>
      simp only [registerAll, loop.1 artifactsFailure, bind, Except.bind, deployer]
      cases env.fails .deployer 0 with
      | some err => simp [Except.mapError]
      | none =>
          simp only [Except.mapError, configuration]
          cases env.fails .configuration 0 <;> simp

end Components

end Skaffold.Runner

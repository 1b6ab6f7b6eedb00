import Skaffold.Basic

/-!
# Syncing files into running containers

`kubernetes.CopyFilesForImage` and `DeleteFilesForImage` change files in the running containers
of an image instead of rebuilding it. Both call `perform`: it gets a client, lists the pods of
every namespace, and for each pod, each container of the pod whose image starts with the
image's name, and each file, runs one `kubectl` command; the first command that fails returns
its error, wrapped.

The repository holds three versions of this code. The two of sync.go differ in the command
that deletes a file and in the message that wraps a failed command (`perform`,
`Earlier.perform`); both are `performWith` with their own messages. The first version
(`Original.copyFilesForImage`, with its helper `copy`) copies file by file in a loop of its own
and wraps errors twice, and its `DeleteFilesForImage` deletes nothing.

A loop of this code is modelled with what it has done: the commands run so far go in, and the
commands run after it, with how it ended, come out (`Loop`). `util.RunCmd` is the cluster's
answer to a command, which may depend on every command run before it (`Cluster.runCmd`).

The three nested loops of `perform` run the commands of `syncCommands` in order, one after
another, until one fails (`syncLoop_runOrReturn`). So a sync either runs all of them, each
succeeding, or runs them up to the first that fails and returns that command's error
(`performWith_outcome`). The first version of `CopyFilesForImage` runs exactly the commands
the current one runs, and stops at the same command; only the texts of its errors differ
(`original_copyFilesForImage_eq`).
-/

set_option autoImplicit false

namespace Skaffold.Kubernetes.Sync

/-! ## Pods, containers and the cluster -/

/-- `strings.HasPrefix(s, prefix)`, on the characters of the two strings. -/
def hasPrefix (s pre : String) : Bool := pre.toList.isPrefixOf s.toList

/-- A container of a pod's spec (`v1.Container`): its name and image. -/
structure Container where
  name : String
  image : String
  deriving DecidableEq, Repr

/-- A pod (`v1.Pod`): its name, its namespace and the containers of its spec. -/
structure Pod where
  name : String
  «namespace» : String
  containers : List Container
  deriving DecidableEq, Repr

/-- The cluster as the sync code sees it: `Client()`, the pods that
`client.CoreV1().Pods("").List` lists, and what `util.RunCmd` answers for a command after the
commands run before it. -/
structure Cluster where
  client : Except String Unit
  pods : Except String (List Pod)
  runCmd : List (List String) → List String → Except String Unit

/-! ## Loops that return on the first error -/

/-- A loop of the sync code: from the commands run so far, the commands run when it is done and
how it ended. -/
abbrev Loop := List (List String) → List (List String) × Except String Unit

/-- A Go loop whose body returns from the function on an error: the body runs for each element
in turn, and the first body that fails ends the loop with its error. -/
def forEach {α : Type} (body : α → Loop) : List α → Loop
  | [], ran => (ran, .ok ())
  | a :: rest, ran =>
      match body a ran with
      | (ran, .ok ()) => forEach body rest ran
      | failed => failed

/-- `if err := util.RunCmd(cmd); err != nil { return errors.Wrap(err, message) }`: the command
runs, after the ones run before it, and its error is wrapped. -/
def runOrReturn (runCmd : List (List String) → List String → Except String Unit)
    (message : String) (cmd : List String) : Loop :=
  fun ran => (ran ++ [cmd], (runCmd ran cmd).mapError (wrapError message))

/-- `errors.Wrap` around the error a loop returns. -/
def wrapLoop (message : String) (loop : Loop) : Loop :=
  fun ran => ((loop ran).1, (loop ran).2.mapError (wrapError message))

/-! ## `perform` -/

/-- `copyFileFn`: `kubectl cp` of the file to the same path in the container, the pod named as
`namespace/name`. Lines 44-46 and 97-99 of sync.go are this same function. -/
def copyFileFn (pod : Pod) (container : Container) (file : String) : List String :=
  ["kubectl", "cp", file, pod.«namespace» ++ "/" ++ pod.name ++ ":" ++ file, "-c",
    container.name]

/-- `deleteFileFn`: `rm -rf` of the file in the container, the pod named by its name alone. -/
def deleteFileFn (pod : Pod) (container : Container) (file : String) : List String :=
  ["kubectl", "exec", pod.name, "-c", container.name, "--", "rm", "-rf", file]

/-- The loops of `perform` and of the first `CopyFilesForImage`: over the pods, over the
containers of each, and the work for a container whose image starts with `image`. -/
def syncLoop (image : String) (inContainer : Pod → Container → Loop) (pods : List Pod) : Loop :=
  forEach (fun p => forEach (fun c ran =>
    if hasPrefix c.image image then inContainer p c ran else (ran, .ok ())) p.containers) pods

/-- `perform`, with the messages its versions wrap errors in: get a client, list the pods of
every namespace, and run the command for each file in each container of the image; the run
starts with no command run. -/
def performWith (podsMessage message : String) (cluster : Cluster) (image : String)
    (files : List String) (cmdFn : Pod → Container → String → List String) :
    List (List String) × Except String Unit :=
  match cluster.client with
  | .error err => ([], .error (wrapError "getting k8s client" err))
  | .ok () =>
      match cluster.pods with
      | .error err => ([], .error (wrapError podsMessage err))
      | .ok pods =>
          syncLoop image (fun p c =>
            forEach (fun f => runOrReturn cluster.runCmd message (cmdFn p c f)) files) pods []

/-- `perform` (sync.go lines 48-71). -/
def perform (cluster : Cluster) (image : String) (files : List String)
    (cmdFn : Pod → Container → String → List String) : List (List String) × Except String Unit :=
  performWith "getting pods" "syncing with kubectl" cluster image files cmdFn

/-- `CopyFilesForImage` (sync.go lines 32-34). -/
def copyFilesForImage (cluster : Cluster) (image : String) (f : List String) :
    List (List String) × Except String Unit :=
  perform cluster image f copyFileFn

/-- `DeleteFilesForImage` (sync.go lines 36-38). -/
def deleteFilesForImage (cluster : Cluster) (image : String) (f : List String) :
    List (List String) × Except String Unit :=
  perform cluster image f deleteFileFn

namespace Earlier

/-- `deleteFileFn` of the earlier version: the pod is named as `namespace/name`, and the
command has no `--` before `rm`. -/
def deleteFileFn (pod : Pod) (container : Container) (file : String) : List String :=
  ["kubectl", "exec", pod.«namespace» ++ "/" ++ pod.name, "-c", container.name, "rm", "-rf",
    file]

/-- `perform` of the earlier version (sync.go lines 101-123). -/
def perform (cluster : Cluster) (image : String) (files : List String)
    (cmdFn : Pod → Container → String → List String) : List (List String) × Except String Unit :=
  performWith "getting pods" "running kubectl cp" cluster image files cmdFn

/-- `CopyFilesForImage` of the earlier version (sync.go lines 85-87). -/
def copyFilesForImage (cluster : Cluster) (image : String) (f : List String) :
    List (List String) × Except String Unit :=
  perform cluster image f copyFileFn

/-- `DeleteFilesForImage` of the earlier version (sync.go lines 89-91). -/
def deleteFilesForImage (cluster : Cluster) (image : String) (f : List String) :
    List (List String) × Except String Unit :=
  perform cluster image f deleteFileFn

end Earlier

namespace Original

/-- `copy`: `kubectl cp` of each file into the container, returning on the first failure. -/
def copy (cluster : Cluster) (pod : Pod) (container : Container) (files : List String) : Loop :=
  forEach (fun f => runOrReturn cluster.runCmd "running kubectl cp" (copyFileFn pod container f))
    files

/-- `CopyFilesForImage` of the first version: the pods are listed as in `perform`, and `copy`
runs for each container of the image, its error wrapped once more. -/
def copyFilesForImage (cluster : Cluster) (image : String) (f : List String) :
    List (List String) × Except String Unit :=
  match cluster.client with
  | .error err => ([], .error (wrapError "getting k8s client" err))
  | .ok () =>
      match cluster.pods with
      | .error err => ([], .error (wrapError "getting all pods" err))
      | .ok pods =>
          syncLoop image (fun p c => wrapLoop "copying files into pod" (copy cluster p c f)) pods []

/-- `DeleteFilesForImage` of the first version: it runs nothing and returns nil. -/
def deleteFilesForImage (_image : String) (_f : List String) :
    List (List String) × Except String Unit :=
  ([], .ok ())

end Original

/-! ## The commands a sync runs -/

/-- The commands `perform` runs when none fails: for each pod, each container of it whose image
starts with `image`, and each file, in that order. -/
def syncCommands (image : String) (files : List String)
    (cmdFn : Pod → Container → String → List String) (pods : List Pod) : List (List String) :=
  pods.flatMap fun p =>
    (p.containers.filter fun c => hasPrefix c.image image).flatMap fun c => files.map (cmdFn p c)

/-- Whether each command succeeds, run after the ones before it. -/
def succeeds (runCmd : List (List String) → List String → Except String Unit) :
    List (List String) → List (List String) → Bool
  | _, [] => true
  | ran, cmd :: cmds =>
      match runCmd ran cmd with
      | .ok () => succeeds runCmd (ran ++ [cmd]) cmds
      | .error _ => false

section Loops

variable {α β : Type} (body : β → Loop)

theorem forEach_append (xs ys : List β) (ran : List (List String)) :
    forEach body (xs ++ ys) ran =
      match forEach body xs ran with
      | (ran, .ok ()) => forEach body ys ran
      | failed => failed := by
  induction xs generalizing ran with
  | nil => rfl
  | cons a rest ih =>
      simp only [List.cons_append, forEach]
      obtain ⟨ran', _ | ⟨⟩⟩ := body a ran
      · rfl
      · exact ih ran'

theorem forEach_flatMap (chunks : α → List β) (xs : List α) :
    forEach (fun a => forEach body (chunks a)) xs = forEach body (xs.flatMap chunks) := by
  funext ran
  induction xs generalizing ran with
  | nil => rfl
  | cons a rest ih =>
      rw [List.flatMap_cons, forEach_append, forEach]
      obtain ⟨ran', _ | ⟨⟩⟩ := forEach body (chunks a) ran
      · rfl
      · exact ih ran'

theorem forEach_map (f : α → β) (xs : List α) :
    forEach (fun a => body (f a)) xs = forEach body (xs.map f) := by
  funext ran
  induction xs generalizing ran with
  | nil => rfl
  | cons a rest ih =>
      simp only [forEach, List.map_cons]
      obtain ⟨ran', _ | ⟨⟩⟩ := body (f a) ran
      · rfl
      · exact ih ran'

theorem forEach_filter (keep : β → Bool) (xs : List β) :
    forEach (fun b ran => if keep b then body b ran else (ran, .ok ())) xs =
      forEach body (xs.filter keep) := by
  funext ran
  induction xs generalizing ran with
  | nil => rfl
  | cons b rest ih =>
      by_cases kept : keep b
      · simp only [forEach, kept, if_true, List.filter_cons_of_pos kept]
        obtain ⟨ran', _ | ⟨⟩⟩ := body b ran
        · rfl
        · exact ih ran'
      · simpa only [forEach, kept, List.filter_cons_of_neg kept] using ih ran

end Loops

/-- The nested loops of `perform` run the commands of `syncCommands` one after another. -/
theorem syncLoop_runOrReturn (runCmd : List (List String) → List String → Except String Unit)
    (message image : String) (files : List String)
    (cmdFn : Pod → Container → String → List String) (pods : List Pod) :
    syncLoop image (fun p c => forEach (fun f => runOrReturn runCmd message (cmdFn p c f)) files)
        pods =
      forEach (runOrReturn runCmd message) (syncCommands image files cmdFn pods) := by
  simp only [syncLoop, syncCommands, ← forEach_flatMap, ← forEach_map, ← forEach_filter]

section Commands

variable (runCmd : List (List String) → List String → Except String Unit) (message : String)

theorem forEach_runOrReturn_of_succeeds (cmds ran : List (List String))
    (ok : succeeds runCmd ran cmds = true) :
    forEach (runOrReturn runCmd message) cmds ran = (ran ++ cmds, .ok ()) := by
  induction cmds generalizing ran with
  | nil => simp [forEach]
  | cons cmd rest ih =>
      simp only [succeeds] at ok
      split at ok
      · next ran_ok => simp [forEach, runOrReturn, ran_ok, ih _ ok]
      · cases ok

theorem forEach_runOrReturn_of_fails (done after ran : List (List String)) (cmd : List String)
    (err : String) (ok : succeeds runCmd ran done = true)
    (fails : runCmd (ran ++ done) cmd = .error err) :
    forEach (runOrReturn runCmd message) (done ++ cmd :: after) ran =
      (ran ++ done ++ [cmd], .error (wrapError message err)) := by
  rw [forEach_append, forEach_runOrReturn_of_succeeds runCmd message done ran ok]
  simp [forEach, runOrReturn, fails, Except.mapError]

/-- Every list of commands either succeeds, or splits at the first command that fails. -/
theorem succeeds_or_first_failure (cmds ran : List (List String)) :
    succeeds runCmd ran cmds = true ∨
      ∃ done cmd after err, cmds = done ++ cmd :: after ∧ succeeds runCmd ran done = true ∧
        runCmd (ran ++ done) cmd = .error err := by
  induction cmds generalizing ran with
  | nil => exact .inl rfl
  | cons cmd rest ih =>
      cases ran_cmd : runCmd ran cmd with
      | error err => exact .inr ⟨[], cmd, rest, err, rfl, rfl, by simpa using ran_cmd⟩
      | ok _ =>
          rcases ih (ran ++ [cmd]) with ok | ⟨done, failing, after, err, rfl, ok, fails⟩
          · exact .inl (by simp [succeeds, ran_cmd, ok])
          · refine .inr ⟨cmd :: done, failing, after, err, rfl, ?_, by simpa using fails⟩
            simp [succeeds, ran_cmd, ok]

/-- A wrapped loop of commands is the loop whose commands wrap their errors in both messages. -/
theorem wrapLoop_forEach {α : Type} (outer : String) (cmdFor : α → List String) (xs : List α) :
    wrapLoop outer (forEach (fun a => runOrReturn runCmd message (cmdFor a)) xs) =
      forEach (fun a => runOrReturn runCmd (wrapError outer message) (cmdFor a)) xs := by
  funext ran
  induction xs generalizing ran with
  | nil => rfl
  | cons a rest ih =>
      cases ran_cmd : runCmd ran (cmdFor a) with
      | error err => simp [wrapLoop, forEach, runOrReturn, ran_cmd, Except.mapError, wrapError,
          String.append_assoc]
      | ok _ => simpa [wrapLoop, forEach, runOrReturn, ran_cmd] using ih (ran ++ [cmdFor a])

end Commands

/-- Every sync of a listed cluster runs the commands of `syncCommands` in order: either all of
them, each succeeding, or those up to the first that fails, whose error it returns wrapped. -/
theorem performWith_outcome (podsMessage message : String) (cluster : Cluster) (image : String)
    (files : List String) (cmdFn : Pod → Container → String → List String) (pods : List Pod)
    (client : cluster.client = .ok ()) (listed : cluster.pods = .ok pods) :
    (succeeds cluster.runCmd [] (syncCommands image files cmdFn pods) = true ∧
        performWith podsMessage message cluster image files cmdFn =
          (syncCommands image files cmdFn pods, .ok ())) ∨
      ∃ done cmd after err, syncCommands image files cmdFn pods = done ++ cmd :: after ∧
        succeeds cluster.runCmd [] done = true ∧ cluster.runCmd done cmd = .error err ∧
        performWith podsMessage message cluster image files cmdFn =
          (done ++ [cmd], .error (wrapError message err)) := by
  have loops : performWith podsMessage message cluster image files cmdFn =
      forEach (runOrReturn cluster.runCmd message) (syncCommands image files cmdFn pods) [] := by
    simp only [performWith, client, listed, syncLoop_runOrReturn]
  rcases succeeds_or_first_failure cluster.runCmd (syncCommands image files cmdFn pods) [] with
    ok | ⟨done, cmd, after, err, split, ok, fails⟩
  · exact .inl ⟨ok, by rw [loops, forEach_runOrReturn_of_succeeds _ _ _ _ ok, List.nil_append]⟩
  · refine .inr ⟨done, cmd, after, err, split, ok, fails, ?_⟩
    rw [loops, split, forEach_runOrReturn_of_fails _ _ _ _ _ _ _ ok (by simpa using fails),
      List.nil_append]

/-- A pod runs the app and a worker whose image name starts with the app's: syncing the app
copies into both containers, and not into the database's. -/
theorem sync_copies_into_prefixed_image :
    let cluster : Cluster := ⟨.ok (), .ok [⟨"web", "default", [⟨"app", "gcr.io/app:v1"⟩,
      ⟨"worker", "gcr.io/app-worker:v1"⟩, ⟨"db", "redis:5"⟩]⟩], fun _ _ => .ok ()⟩
    performWith "getting pods" "syncing with kubectl" cluster "gcr.io/app" ["main.go"]
        copyFileFn =
      ([["kubectl", "cp", "main.go", "default/web:main.go", "-c", "app"],
        ["kubectl", "cp", "main.go", "default/web:main.go", "-c", "worker"]], .ok ()) := by
  intro cluster
  rcases performWith_outcome "getting pods" "syncing with kubectl" cluster "gcr.io/app"
      ["main.go"] copyFileFn _ rfl rfl with ⟨-, ran⟩ | ⟨_, _, _, _, -, -, fails, -⟩
  · exact ran.trans (Prod.ext (by decide) rfl)
  · simp [cluster] at fails

/-- The first version of `CopyFilesForImage` is `perform` with `copyFileFn` and messages of its
own: it runs the same commands in the same order and stops at the same one. -/
theorem original_copyFilesForImage_eq (cluster : Cluster) (image : String) (f : List String) :
    Original.copyFilesForImage cluster image f =
      performWith "getting all pods" (wrapError "copying files into pod" "running kubectl cp")
        cluster image f copyFileFn := by
  simp only [Original.copyFilesForImage, performWith, Original.copy, wrapLoop_forEach]

end Skaffold.Kubernetes.Sync

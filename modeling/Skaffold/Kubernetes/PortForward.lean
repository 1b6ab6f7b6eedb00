import Skaffold.Basic

/-!
# The port-forwarder

`PortForwarder.Start` reads the pod events of the cluster and, for every `Modified` event of a
selected pod that is running and not being deleted, spawns a goroutine running
`portForwardPod`. That goroutine walks the (container, port) pairs of the pod: it loads the
entry stored under the pair's key in `forwardedPods`, stops the stored entry's kubectl process
when the pod's resource version is newer, creates a new `kubectl port-forward` command, stores
the new entry, and runs the command with `util.RunCmdOut`, which returns the command's output
and so returns once the command has exited. When the context is cancelled, `cleanupPorts`
ranges over `forwardedPods` and stops the entries.

The model is the whole port-forwarder as a state machine (`PortForwarder`, `step`): the map,
the kubectl processes by command number, and the goroutines, each at a point of its loop
(`Pc`). One action is one atomic step: an event of `Start`'s loop, a step of one goroutine (a
`Load`, a `stop`, a `Store`, a process start, or the return of `RunCmdOut`), or the exit of a
process. A schedule is a list of actions, so every interleaving of the goroutines is a run
(`run`).

Over every run, `forwardedPods` maps each entry's key to the entry and every stored entry
carries a command created for its key (`reachable_wf`), so `stop` never reports a missing command
(`stop_of_stored`). The rest of what the port-forwarder promises fails:
* a goroutine stores its entry whatever the stored entry's resource version, and stops the old
  process only for a newer one (`load_store_replaces_without_stop`, `stale_pod_replaces_forward`);
  two goroutines that both `Load` before either `Store`s leave a live process that no entry
  tracks (`racing_pods_leave_untracked_forward`);
* a goroutine waits for each kubectl process to exit before it looks at the next pair
  (`wait_blocks_until_exit`), and `stop` panics on a command that has not started and fails on
  one that was waited for (`stop_unstarted_panics`, `stop_reaped_fails`,
  `forward_pod_blocks_and_fails`);
* `cleanupPorts` stops only the first entry of the range, since its callback returns `false`
  (`cleanupPorts_eq`, `cleanup_leaves_second_forward`).
-/

set_option autoImplicit false

namespace Skaffold.Kubernetes

/-! ## Pods, entries and processes -/

/-- A container of a pod's spec: its name and the `ContainerPort` of each of its ports. -/
structure Container where
  name : String
  ports : List Nat

/-- A pod as the port-forwarder reads it: its name, its resource version, whether it is in the
`Running` phase, whether it has a deletion timestamp, and its containers. -/
structure Pod where
  name : String
  resourceVersion : String
  running : Bool
  deleting : Bool
  containers : List Container

/-- The container name and port of every port of every container of a pod, in order. -/
def Pod.pairs (pod : Pod) : List (String × Nat) :=
  pod.containers.flatMap fun c => c.ports.map fun port => (c.name, port)

/-- `portForwardEntry`; its command is the number of a kubectl command. -/
structure PortForwardEntry where
  resourceVersion : Int
  podName : String
  containerName : String
  port : Nat
  cmd : Option Nat := none
  deriving DecidableEq, Repr

/-- `portForwardEntry.key`: the container name and the port. -/
def PortForwardEntry.key (p : PortForwardEntry) : String :=
  p.containerName ++ "-" ++ toString p.port

@[simp] theorem PortForwardEntry.key_withCmd (p : PortForwardEntry) (cmd : Option Nat) :
    { p with cmd }.key = p.key := rfl

/-- A kubectl command as its `exec.Cmd` sees it. -/
inductive ProcessState where
  /-- Created by `exec.Command`; `cmd.Process` is nil. -/
  | unstarted
  /-- `Start` failed; `cmd.Process` stays nil. -/
  | failedToStart
  /-- Started, and whether it was sent SIGTERM. -/
  | running (signalled : Bool)
  /-- Exited and not yet waited for, with the error of its exit status, if any. -/
  | exited (err : Option String)
  /-- Waited for. -/
  | reaped
  deriving DecidableEq, Repr

/-- `cmd.Process.Signal(syscall.SIGTERM)`: the new state of the process, the error of a process
already waited for, or the panic of a nil `Process`. An exited process that was not waited for
can still be signalled. -/
def ProcessState.signal : ProcessState → Except Failure ProcessState
  | .unstarted | .failedToStart =>
      .error (.panic "runtime error: invalid memory address or nil pointer dereference")
  | .running _ => .ok (.running true)
  | .exited err => .ok (.exited err)
  | .reaped => .error (.error "os: process already finished")

/-- A kubectl command: the key of the entry it was created for, and its process. -/
structure Process where
  key : String
  state : ProcessState
  deriving DecidableEq, Repr

/-- `portForwardEntry.stop`: signal the process of the entry's command. -/
def PortForwardEntry.stop (p : PortForwardEntry) (processes : Nat → Process) :
    Except Failure (Nat → Process) :=
  match p.cmd with
  | none => .error (.error ("No port-forward command found for " ++ p.podName ++ "/" ++
      p.containerName ++ ":" ++ toString p.port))
  | some cmd =>
      match (processes cmd).state.signal with
      | .error failure => .error (failure.wrap "terminating port-forward process")
      | .ok state => .ok (Function.update processes cmd { processes cmd with state })

/-! ## The goroutines -/

/-- Where a `portForwardPod` goroutine is in its loop over the pairs of its pod. -/
inductive Pc where
  /-- About to `Load` the key of its current pair. -/
  | load
  /-- Found an older entry under the key, about to stop it. -/
  | stop (prevEntry : PortForwardEntry)
  /-- About to create the command and `Store` the entry (`forward`). -/
  | store
  /-- `RunCmdOut` is about to start the command. -/
  | start (cmd : Nat)
  /-- `RunCmdOut` waits for the command to exit. -/
  | wait (cmd : Nat)
  /-- `portForwardPod` returned. -/
  | returned (result : Except String Unit)
  /-- The goroutine panicked. -/
  | panicked (reason : String)

/-- A `portForwardPod` goroutine: its pod and resource version, the pairs it has not finished,
the current one first, and where it is. -/
structure Goroutine where
  pod : Pod
  resourceVersion : Int
  pairs : List (String × Nat)
  pc : Pc

/-- The entry of a goroutine for a pair, before `forward` gives it its command. -/
def Goroutine.entry (g : Goroutine) (pair : String × Nat) : PortForwardEntry :=
  { resourceVersion := g.resourceVersion, podName := g.pod.name, containerName := pair.1,
    port := pair.2 }

@[simp] theorem Goroutine.entry_withPc (g : Goroutine) (pc : Pc) (pair : String × Nat) :
    { g with pc }.entry pair = g.entry pair := rfl

/-- The value of a nonempty run of decimal digits. -/
def decimal (digits : List Char) : Option Nat :=
  if digits.isEmpty then none
  else digits.foldlM (fun n c => if c.isDigit then some (n * 10 + (c.toNat - '0'.toNat))
    else none) 0

/-- `strconv.Atoi` on a decimal number with an optional sign; the range of Go's `int` is not
modelled. -/
def atoi (text : String) : Option Int :=
  match text.toList with
  | '-' :: digits => (decimal digits).map fun n => -(n : Int)
  | '+' :: digits => (decimal digits).map Int.ofNat
  | digits => (decimal digits).map Int.ofNat

/-- The goroutine `Start` spawns for a pod: `portForwardPod` first converts the resource
version. -/
def spawn (pod : Pod) : Goroutine :=
  match atoi pod.resourceVersion with
  | some resourceVersion => { pod, resourceVersion, pairs := pod.pairs, pc := .load }
  | none =>
      { pod, resourceVersion := 0, pairs := pod.pairs,
        pc := .returned (.error (wrapError "converting resource version to integer"
          ("strconv.Atoi: parsing " ++ pod.resourceVersion.quote ++ ": invalid syntax"))) }

/-- The port-forwarder and what it runs: `forwardedPods`, the kubectl commands by number, the
number of the next command, and the `portForwardPod` goroutines in the order `Start` spawned
them. -/
structure PortForwarder where
  forwardedPods : GoMap PortForwardEntry
  processes : Nat → Process
  nextCmd : Nat
  goroutines : List Goroutine

/-- The port-forwarder before any event. -/
def PortForwarder.initial : PortForwarder where
  forwardedPods := GoMap.empty
  processes := fun _ => { key := "", state := .unstarted }
  nextCmd := 0
  goroutines := []

/-- Set the state of a command's process. -/
def PortForwarder.setState (s : PortForwarder) (cmd : Nat) (state : ProcessState) :
    PortForwarder :=
  { s with processes := Function.update s.processes cmd { s.processes cmd with state } }

/-- The error `portForwardPod` returns when `RunCmdOut` fails for a pair. The output of the
command is not modelled. -/
def forwardError (g : Goroutine) (pair : String × Nat) (err : String) : String :=
  wrapError "port forwarding"
    (wrapError ("port forwarding pod: " ++ g.pod.name ++ ", port: " ++ toString pair.2 ++
      ", err: ") err)

/-- One step of a goroutine on the shared state, when it can take one; a command it starts
starts. -/
def goroutineStep (s : PortForwarder) (g : Goroutine) : Option (PortForwarder × Goroutine) :=
  match g.pc, g.pairs with
  | .load, [] => some (s, { g with pc := .returned (.ok ()) })
  | .load, pair :: _ =>
      match s.forwardedPods.get? (g.entry pair).key with
      | some prevEntry =>
          if g.resourceVersion > prevEntry.resourceVersion then
            some (s, { g with pc := .stop prevEntry })
          else some (s, { g with pc := .store })
      | none => some (s, { g with pc := .store })
  | .stop prevEntry, _ =>
      match prevEntry.stop s.processes with
      | .ok processes => some ({ s with processes }, { g with pc := .store })
      | .error (.error err) =>
          some (s, { g with pc := .returned (.error (wrapError "terminating port-forward process"
            err)) })
      | .error (.panic reason) => some (s, { g with pc := .panicked reason })
  | .store, pair :: _ =>
      let p := { g.entry pair with cmd := some s.nextCmd }
      some ({ s with
          forwardedPods := s.forwardedPods.set p.key p
          processes := Function.update s.processes s.nextCmd { key := p.key, state := .unstarted }
          nextCmd := s.nextCmd + 1 },
        { g with pc := .start s.nextCmd })
  | .start cmd, _ => some (s.setState cmd (.running false), { g with pc := .wait cmd })
  | .wait cmd, pair :: rest =>
      match (s.processes cmd).state with
      | .exited none => some (s.setState cmd .reaped, { g with pairs := rest, pc := .load })
      | .exited (some err) =>
          some (s.setState cmd .reaped,
            { g with pc := .returned (.error (forwardError g pair err)) })
      | _ => none
  | _, _ => none

/-- A goroutine's command fails to start. -/
def startFails (s : PortForwarder) (g : Goroutine) (err : String) :
    Option (PortForwarder × Goroutine) :=
  match g.pc, g.pairs with
  | .start cmd, pair :: _ =>
      some (s.setState cmd .failedToStart,
        { g with pc := .returned (.error (forwardError g pair err)) })
  | _, _ => none

/-- An atomic step of the port-forwarder. -/
inductive Action where
  /-- `Start`'s loop receives a `Modified` event of a pod. -/
  | modified (pod : Pod)
  /-- A goroutine takes its next step. -/
  | step (goroutine : Nat)
  /-- A goroutine's command fails to start. -/
  | failStart (goroutine : Nat) (err : String)
  /-- A running kubectl process exits, with the error of its exit status, if any. -/
  | exit (cmd : Nat) (err : Option String)

/-- Let goroutine `i` act on the shared state. -/
def PortForwarder.advance (s : PortForwarder) (i : Nat)
    (act : PortForwarder → Goroutine → Option (PortForwarder × Goroutine)) :
    Option PortForwarder := do
  let g ← s.goroutines.get? i
  let (s', g') ← act s g
  pure { s' with goroutines := s.goroutines.set i g' }

/-- One step of the port-forwarder, when the action is enabled. `select` is the pod selector. -/
def step (select : Pod → Bool) (s : PortForwarder) : Action → Option PortForwarder
  | .modified pod =>
      some (if select pod && pod.running && !pod.deleting then
        { s with goroutines := s.goroutines ++ [spawn pod] } else s)
  | .step i => s.advance i goroutineStep
  | .failStart i err => s.advance i fun s g => startFails s g err
  | .exit cmd err =>
      match (s.processes cmd).state with
      | .running _ => some (s.setState cmd (.exited err))
      | _ => none

/-- A schedule of actions from a state, when each is enabled in turn. -/
def run (select : Pod → Bool) : PortForwarder → List Action → Option PortForwarder
  | s, [] => some s
  | s, action :: rest => (step select s action).bind fun s => run select s rest

/-! ## Cleanup -/

/-- `sync.Map.Range`: call `f` on the entries in order until it returns `false`; a panic of
`f` ends the range. -/
def range {σ : Type} (f : String → PortForwardEntry → σ → Except Failure (σ × Bool)) :
    List (String × PortForwardEntry) → σ → Except Failure σ
  | [], s => .ok s
  | (k, v) :: rest, s => do
      let (s, more) ← f k v s
      if more then range f rest s else pure s

/-- The callback of `cleanupPorts`: stop the entry, log an error, and return `false`. -/
def cleanupEntry (_ : String) (entry : PortForwardEntry) (processes : Nat → Process) :
    Except Failure ((Nat → Process) × Bool) :=
  match entry.stop processes with
  | .ok processes => .ok (processes, false)
  | .error (.error _) => .ok (processes, false)
  | .error (.panic reason) => .error (.panic reason)

/-- `cleanupPorts`. -/
def cleanupPorts (s : PortForwarder) : Except Failure PortForwarder := do
  let processes ← range cleanupEntry s.forwardedPods.entries s.processes
  pure { s with processes }

/-! ## What a step and the cleanup do -/

section Steps

variable (select : Pod → Bool)

theorem get?_set_of_get? {l : List Goroutine} {i : Nat} {g g' : Goroutine}
    (current : l.get? i = some g) : (l.set i g').get? i = some g' := by
  simp only [List.get?_eq_getElem?, List.getElem?_eq_some_iff] at current
  simp [List.getElem?_set, current.1]

theorem advance_of_get? {s : PortForwarder} {i : Nat} {g : Goroutine}
    (current : s.goroutines.get? i = some g)
    (act : PortForwarder → Goroutine → Option (PortForwarder × Goroutine)) :
    s.advance i act =
      (act s g).map fun next => { next.1 with goroutines := s.goroutines.set i next.2 } := by
  simp only [PortForwarder.advance, current, Option.bind_eq_bind, Option.some_bind]
  cases act s g <;> rfl

/-- **`stop` panics on a command that never started**: `cmd.Process` is nil. -/
theorem stop_unstarted_panics (p : PortForwardEntry) (processes : Nat → Process) {cmd : Nat}
    (command : p.cmd = some cmd)
    (notStarted : (processes cmd).state = .unstarted ∨ (processes cmd).state = .failedToStart) :
    p.stop processes =
      .error (.panic "runtime error: invalid memory address or nil pointer dereference") := by
  rcases notStarted with state | state <;>
    simp [PortForwardEntry.stop, command, state, ProcessState.signal, Failure.wrap]

/-- **`stop` fails on a command that was waited for.** -/
theorem stop_reaped_fails (p : PortForwardEntry) (processes : Nat → Process) {cmd : Nat}
    (command : p.cmd = some cmd) (reaped : (processes cmd).state = .reaped) :
    p.stop processes =
      .error (.error "terminating port-forward process: os: process already finished") := by
  simp [PortForwardEntry.stop, command, reaped, ProcessState.signal, Failure.wrap, wrapError]

/-- **`cleanupPorts` stops the first entry of the range and no other**: its callback returns
`false`, which ends `Range`. -/
theorem cleanupPorts_eq (s : PortForwarder) :
    cleanupPorts s =
      match s.forwardedPods.entries with
      | [] => .ok s
      | (_, first) :: _ =>
          match first.stop s.processes with
          | .ok processes => .ok { s with processes }
          | .error (.error _) => .ok s
          | .error (.panic reason) => .error (.panic reason) := by
  unfold cleanupPorts
  cases s.forwardedPods.entries with
  | nil => rfl
  | cons entry rest =>
      obtain ⟨key, first⟩ := entry
      simp only [range, cleanupEntry]
      rcases first.stop s.processes with (_ | _) | processes <;> rfl

/-- Two forwards of two pods: `cleanupPorts` signals the first and leaves the second running. -/
theorem cleanup_leaves_second_forward :
    ∃ s s', run (fun _ => true) PortForwarder.initial
        [.modified { name := "web-1", resourceVersion := "7", running := true, deleting := false,
                     containers := [⟨"app", [8080]⟩] },
         .step 0, .step 0, .step 0,
         .modified { name := "db-1", resourceVersion := "9", running := true, deleting := false,
                     containers := [⟨"db", [5432]⟩] },
         .step 1, .step 1, .step 1] = some s ∧
      s.forwardedPods.get? "db-5432" =
        some { resourceVersion := 9, podName := "db-1", containerName := "db", port := 5432,
               cmd := some 1 } ∧
      cleanupPorts s = .ok s' ∧
      (s'.processes 0).state = .running true ∧ (s'.processes 1).state = .running false :=
  ⟨_, _, rfl, by decide, rfl, by decide, by decide⟩

/-- A goroutine at `Load` finds under its key an entry at least as new as its pod: it goes on
to `Store` without stopping anything. -/
theorem step_load_stale {s : PortForwarder} {i : Nat} {g : Goroutine} {pair : String × Nat}
    {rest : List (String × Nat)} {prevEntry : PortForwardEntry}
    (current : s.goroutines.get? i = some g) (loading : g.pc = .load)
    (pairs : g.pairs = pair :: rest)
    (stored : s.forwardedPods.get? (g.entry pair).key = some prevEntry)
    (stale : g.resourceVersion ≤ prevEntry.resourceVersion) :
    step select s (.step i) =
      some { s with goroutines := s.goroutines.set i { g with pc := .store } } := by
  have notNewer : ¬ g.resourceVersion > prevEntry.resourceVersion := not_lt.mpr stale
  simp [step, advance_of_get? current, goroutineStep, loading, pairs, stored, notNewer]

/-- A goroutine at `Store` stores its entry with a new command. -/
theorem step_store {s : PortForwarder} {i : Nat} {g : Goroutine} {pair : String × Nat}
    {rest : List (String × Nat)} (current : s.goroutines.get? i = some g)
    (storing : g.pc = .store) (pairs : g.pairs = pair :: rest) :
    step select s (.step i) =
      some { s with
        forwardedPods := s.forwardedPods.set (g.entry pair).key
          { g.entry pair with cmd := some s.nextCmd }
        processes := Function.update s.processes s.nextCmd
          { key := (g.entry pair).key, state := .unstarted }
        nextCmd := s.nextCmd + 1
        goroutines := s.goroutines.set i { g with pc := .start s.nextCmd } } := by
  simp [step, advance_of_get? current, goroutineStep, storing, pairs]

/-- **A goroutine stores its entry whatever the stored entry's version.** When the entry under
the key of a goroutine's current pair is at least as new as the goroutine's pod, the next two
steps of the goroutine replace it by the goroutine's entry, and no process is signalled. -/
theorem load_store_replaces_without_stop (s : PortForwarder) (i : Nat) (g : Goroutine)
    (pair : String × Nat) (rest : List (String × Nat)) (prevEntry : PortForwardEntry)
    (current : s.goroutines.get? i = some g) (loading : g.pc = .load)
    (pairs : g.pairs = pair :: rest)
    (stored : s.forwardedPods.get? (g.entry pair).key = some prevEntry)
    (stale : g.resourceVersion ≤ prevEntry.resourceVersion) :
    ∃ s', run select s [.step i, .step i] = some s' ∧
      s'.forwardedPods.get? (g.entry pair).key =
        some { g.entry pair with cmd := some s.nextCmd } ∧
      ∀ cmd, cmd ≠ s.nextCmd → s'.processes cmd = s.processes cmd := by
  have current' : ({ s with goroutines := s.goroutines.set i { g with pc := .store } } :
      PortForwarder).goroutines.get? i = some { g with pc := .store } := get?_set_of_get? current
  simp only [run, step_load_stale select current loading pairs stored stale, Option.some_bind,
    step_store select current' rfl pairs, Option.some.injEq, exists_eq_left']
  exact ⟨by simp, fun cmd other => by simp [Function.update_noteq other]⟩

/-- A pod whose resource version is below the stored one replaces the stored forward, and the old
kubectl process is left running without a signal. -/
theorem stale_pod_replaces_forward :
    ∃ s, run (fun _ => true) PortForwarder.initial
        [.modified { name := "web-1", resourceVersion := "7", running := true, deleting := false,
                     containers := [⟨"app", [8080]⟩] },
         .step 0, .step 0, .step 0,
         .modified { name := "web-2", resourceVersion := "3", running := true, deleting := false,
                     containers := [⟨"app", [8080]⟩] },
         .step 1, .step 1] = some s ∧
      s.forwardedPods.get? "app-8080" =
        some { resourceVersion := 3, podName := "web-2", containerName := "app", port := 8080,
               cmd := some 1 } ∧
      (s.processes 0).state = .running false :=
  ⟨_, rfl, by decide, by decide⟩

/-- **`RunCmdOut` blocks the goroutine until its command exits.** A goroutine waiting on its
command can take no step while the process has not exited: it does not reach the next pair of
its pod. -/
theorem wait_blocks_until_exit (s : PortForwarder) (i : Nat) (g : Goroutine) (cmd : Nat)
    (pair : String × Nat) (rest : List (String × Nat)) (current : s.goroutines.get? i = some g)
    (waiting : g.pc = .wait cmd) (pairs : g.pairs = pair :: rest) :
    step select s (.step i) = none ↔ ∀ err, (s.processes cmd).state ≠ .exited err := by
  simp only [step, advance_of_get? current, goroutineStep, waiting, pairs, Option.map_eq_none']
  rcases (s.processes cmd).state with _ | _ | _ | (_ | _) | _ <;> simp

/-- A pod with two ports: the goroutine stores and starts the first forward, then waits on it,
and the second port is not forwarded while the first kubectl process runs. A newer pod whose
predecessor's process was already waited for returns an error, and one whose predecessor's
command has not started yet panics. -/
theorem forward_pod_blocks_and_fails :
    (∃ s, run (fun _ => true) PortForwarder.initial
        [.modified { name := "web-1", resourceVersion := "7", running := true, deleting := false,
                     containers := [⟨"app", [8080, 9090]⟩] },
         .step 0, .step 0, .step 0] = some s ∧
      s.forwardedPods.get? "app-9090" = none ∧ step (fun _ => true) s (.step 0) = none) ∧
    (∃ s g, run (fun _ => true) PortForwarder.initial
        [.modified { name := "web-1", resourceVersion := "7", running := true, deleting := false,
                     containers := [⟨"app", [8080]⟩] },
         .step 0, .step 0, .step 0, .exit 0 none, .step 0,
         .modified { name := "web-2", resourceVersion := "8", running := true, deleting := false,
                     containers := [⟨"app", [8080]⟩] },
         .step 1, .step 1] = some s ∧ s.goroutines.get? 1 = some g ∧
      g.pc = .returned (.error ("terminating port-forward process: terminating port-forward " ++
        "process: os: process already finished"))) ∧
    (∃ s g, run (fun _ => true) PortForwarder.initial
        [.modified { name := "web-1", resourceVersion := "7", running := true, deleting := false,
                     containers := [⟨"app", [8080]⟩] },
         .step 0, .step 0,
         .modified { name := "web-2", resourceVersion := "8", running := true, deleting := false,
                     containers := [⟨"app", [8080]⟩] },
         .step 1, .step 1] = some s ∧ s.goroutines.get? 1 = some g ∧
      g.pc = .panicked "runtime error: invalid memory address or nil pointer dereference") :=
  ⟨⟨_, rfl, by decide, rfl⟩, ⟨_, _, rfl, rfl, rfl⟩, ⟨_, _, rfl, rfl, rfl⟩⟩

end Steps

/-! ## Every stored entry carries a command -/

/-- The shape of the state that every run keeps: `forwardedPods` maps each entry's `key()` to the
entry, as its declaration says, and every stored entry carries a command created for its key;
so does every entry a goroutine is about to stop. -/
structure Wf (s : PortForwarder) : Prop where
  stored : ∀ key entry, s.forwardedPods.get? key = some entry →
    entry.key = key ∧ ∃ cmd, entry.cmd = some cmd ∧ cmd < s.nextCmd ∧ (s.processes cmd).key = key
  stopping : ∀ g ∈ s.goroutines, ∀ prevEntry, g.pc = .stop prevEntry →
    ∃ cmd, prevEntry.cmd = some cmd ∧ cmd < s.nextCmd

/-- A step that stores nothing: the map, the next command number and the key of every process
are unchanged. -/
structure Keeps (s s' : PortForwarder) : Prop where
  forwardedPods : s'.forwardedPods = s.forwardedPods
  nextCmd : s'.nextCmd = s.nextCmd
  keys : ∀ cmd, (s'.processes cmd).key = (s.processes cmd).key

theorem Keeps.refl (s : PortForwarder) : Keeps s s := ⟨rfl, rfl, fun _ => rfl⟩

theorem Keeps.setState (s : PortForwarder) (cmd : Nat) (state : ProcessState) :
    Keeps s (s.setState cmd state) := by
  refine ⟨rfl, rfl, fun other => ?_⟩
  by_cases same : other = cmd
  · subst same; simp [PortForwarder.setState]
  · simp [PortForwarder.setState, Function.update_noteq same]

theorem Keeps.stop {s : PortForwarder} {p : PortForwardEntry} {processes : Nat → Process}
    (stopped : p.stop s.processes = .ok processes) : Keeps s { s with processes } := by
  unfold PortForwardEntry.stop at stopped
  split at stopped
  · cases stopped
  · split at stopped
    · cases stopped
    · cases stopped
      exact Keeps.setState s _ _

theorem goroutineStep_cases {s s' : PortForwarder} {g g' : Goroutine}
    (stepped : goroutineStep s g = some (s', g')) :
    (Keeps s s' ∧ ∀ prevEntry, g'.pc = .stop prevEntry →
      ∃ key, s.forwardedPods.get? key = some prevEntry) ∨
    ∃ pair, s' = { s with
        forwardedPods := s.forwardedPods.set (g.entry pair).key
          { g.entry pair with cmd := some s.nextCmd }
        processes := Function.update s.processes s.nextCmd
          { key := (g.entry pair).key, state := .unstarted }
        nextCmd := s.nextCmd + 1 } ∧ g'.pc = .start s.nextCmd := by
  have noStop : ∀ {g'' : Goroutine}, (∀ prevEntry, g''.pc ≠ .stop prevEntry) →
      ∀ prevEntry, g''.pc = .stop prevEntry → ∃ key, s.forwardedPods.get? key = some prevEntry :=
    fun other prevEntry stopping => absurd stopping (other prevEntry)
  unfold goroutineStep at stepped
  split at stepped
  next => cases stepped; exact .inl ⟨.refl s, noStop fun _ => Pc.noConfusion⟩
  next pair _ =>
    split at stepped
    next prevEntry found =>
      split at stepped <;> cases stepped
      · exact .inl ⟨.refl s, fun _ stopping => by cases stopping; exact ⟨_, found⟩⟩
      · exact .inl ⟨.refl s, noStop fun _ => Pc.noConfusion⟩
    next => cases stepped; exact .inl ⟨.refl s, noStop fun _ => Pc.noConfusion⟩
  next prevEntry _ =>
    split at stepped <;> cases stepped
    next stopped => exact .inl ⟨Keeps.stop stopped, noStop fun _ => Pc.noConfusion⟩
    all_goals exact .inl ⟨.refl s, noStop fun _ => Pc.noConfusion⟩
  next => cases stepped; exact .inr ⟨_, rfl, rfl⟩
  next => cases stepped; exact .inl ⟨.setState .., noStop fun _ => Pc.noConfusion⟩
  next =>
    split at stepped <;> cases stepped <;>
      exact .inl ⟨.setState .., noStop fun _ => Pc.noConfusion⟩
  next => cases stepped

theorem Keeps.wf {s s' : PortForwarder} (keeps : Keeps s s') (wf : Wf s)
    {goroutines : List Goroutine}
    (stopping : ∀ g ∈ goroutines, ∀ prevEntry, g.pc = .stop prevEntry →
      ∃ cmd, prevEntry.cmd = some cmd ∧ cmd < s'.nextCmd) : Wf { s' with goroutines } := by
  refine ⟨fun key entry stored => ?_, stopping⟩
  rw [keeps.forwardedPods] at stored
  obtain ⟨keyed, cmd, command, created, owner⟩ := wf.stored key entry stored
  exact ⟨keyed, cmd, command, keeps.nextCmd ▸ created, (keeps.keys cmd).trans owner⟩

/-- Replacing one goroutine by one that is not about to stop an entry without a command keeps the
goroutine half of `Wf`. -/
theorem Wf.stopping_set {s : PortForwarder} (wf : Wf s) {i bound : Nat} {g' : Goroutine}
    (grown : s.nextCmd ≤ bound)
    (next : ∀ prevEntry, g'.pc = .stop prevEntry → ∃ cmd, prevEntry.cmd = some cmd ∧ cmd < bound) :
    ∀ g ∈ s.goroutines.set i g', ∀ prevEntry, g.pc = .stop prevEntry →
      ∃ cmd, prevEntry.cmd = some cmd ∧ cmd < bound := by
  intro g member prevEntry stopping
  rcases List.mem_or_eq_of_mem_set member with old | rfl
  · obtain ⟨cmd, command, created⟩ := wf.stopping g old prevEntry stopping
    exact ⟨cmd, command, by omega⟩
  · exact next prevEntry stopping

/-- The `Store` of a goroutine keeps `Wf`: the new entry is stored under its key with the new
command, whose process is created for that key. -/
theorem Wf.store {s : PortForwarder} (wf : Wf s) (p : PortForwardEntry) (i : Nat)
    (g' : Goroutine) (starting : g'.pc = .start s.nextCmd) :
    Wf { s with
      forwardedPods := s.forwardedPods.set p.key { p with cmd := some s.nextCmd }
      processes := Function.update s.processes s.nextCmd { key := p.key, state := .unstarted }
      nextCmd := s.nextCmd + 1
      goroutines := s.goroutines.set i g' } := by
  refine ⟨fun key entry stored => ?_, wf.stopping_set (Nat.le_succ _) fun _ stopping => ?_⟩
  · simp only [GoMap.get?_set] at stored
    split at stored
    next same =>
      cases stored
      exact ⟨same, s.nextCmd, rfl, Nat.lt_succ_self _, by simp [same]⟩
    next =>
      obtain ⟨keyed, cmd, command, created, owner⟩ := wf.stored key entry stored
      exact ⟨keyed, cmd, command, Nat.lt_succ_of_lt created,
        by simp [Function.update_noteq created.ne, owner]⟩
  · rw [starting] at stopping
    cases stopping

theorem advance_eq_some {s s' : PortForwarder} {i : Nat}
    (act : PortForwarder → Goroutine → Option (PortForwarder × Goroutine))
    (advanced : s.advance i act = some s') :
    ∃ g next, s.goroutines.get? i = some g ∧ act s g = some next ∧
      s' = { next.1 with goroutines := s.goroutines.set i next.2 } := by
  cases current : s.goroutines.get? i with
  | none =>
      simp only [PortForwarder.advance, current, Option.bind_eq_bind, Option.none_bind,
        reduceCtorEq] at advanced
  | some g =>
      rw [advance_of_get? current] at advanced
      obtain ⟨next, acted, rfl⟩ := Option.map_eq_some'.mp advanced
      exact ⟨g, next, rfl, acted, rfl⟩

theorem spawn_not_stopping (pod : Pod) (prevEntry : PortForwardEntry) :
    (spawn pod).pc ≠ .stop prevEntry := by
  unfold spawn
  split <;> exact Pc.noConfusion

theorem startFails_keeps {s s' : PortForwarder} {g g' : Goroutine} {err : String}
    (failed : startFails s g err = some (s', g')) :
    Keeps s s' ∧ ∀ prevEntry, g'.pc ≠ .stop prevEntry := by
  unfold startFails at failed
  split at failed
  · cases failed
    exact ⟨.setState .., fun _ => Pc.noConfusion⟩
  · cases failed

section Runs

variable (select : Pod → Bool)

/-- Every step keeps `Wf`. -/
theorem step_wf {s s' : PortForwarder} {action : Action} (wf : Wf s)
    (stepped : step select s action = some s') : Wf s' := by
  cases action with
  | modified pod =>
      cases stepped
      split
      · refine (Keeps.refl s).wf wf fun g member prevEntry stopping => ?_
        rcases List.mem_append.mp member with old | spawned
        · exact wf.stopping g old prevEntry stopping
        · rw [List.mem_singleton.mp spawned] at stopping
          exact absurd stopping (spawn_not_stopping pod prevEntry)
      · exact wf
  | step i =>
      obtain ⟨g, ⟨s₁, g'⟩, -, acted, rfl⟩ := advance_eq_some _ stepped
      rcases goroutineStep_cases acted with ⟨keeps, loaded⟩ | ⟨pair, rfl, starting⟩
      · refine keeps.wf wf (wf.stopping_set keeps.nextCmd.ge fun prevEntry stopping => ?_)
        obtain ⟨key, stored⟩ := loaded prevEntry stopping
        obtain ⟨-, cmd, command, created, -⟩ := wf.stored key prevEntry stored
        exact ⟨cmd, command, keeps.nextCmd ▸ created⟩
      · exact wf.store (g.entry pair) i g' starting
  | failStart i err =>
      obtain ⟨g, ⟨s₁, g'⟩, -, failed, rfl⟩ :=
        advance_eq_some (fun s g => startFails s g err) stepped
      obtain ⟨keeps, notStopping⟩ := startFails_keeps failed
      exact keeps.wf wf (wf.stopping_set keeps.nextCmd.ge
        fun prevEntry stopping => absurd stopping (notStopping prevEntry))
  | exit cmd err =>
      simp only [step] at stepped
      split at stepped
      · cases stepped
        exact (Keeps.setState s cmd _).wf wf wf.stopping
      · cases stepped

/-- Every run keeps `Wf`. -/
theorem run_wf {s s' : PortForwarder} {actions : List Action} (wf : Wf s)
    (ran : run select s actions = some s') : Wf s' := by
  induction actions generalizing s with
  | nil => cases ran; exact wf
  | cons action rest ih =>
      obtain ⟨s₁, stepped, ran⟩ := Option.bind_eq_some.mp ran
      exact ih (step_wf select wf stepped) ran

theorem initial_wf : Wf PortForwarder.initial :=
  ⟨fun key entry stored => by simp [PortForwarder.initial, GoMap.get?, GoMap.empty] at stored,
    fun _ member => by simp [PortForwarder.initial] at member⟩

/-- **Every reachable state is well formed.** -/
theorem reachable_wf {s : PortForwarder} {actions : List Action}
    (reached : run select PortForwarder.initial actions = some s) : Wf s :=
  run_wf select initial_wf reached

/-- **`stop` never reports a missing command.** In every reachable state, an entry stored under
a key is the entry of that key and carries a command created for that key; so `stop` on it
signals that command's process and never fails with "No port-forward command found". -/
theorem stop_of_stored {s : PortForwarder} {actions : List Action}
    (reached : run select PortForwarder.initial actions = some s) {key : String}
    {entry : PortForwardEntry} (stored : s.forwardedPods.get? key = some entry) :
    entry.key = key ∧ ∃ cmd, entry.cmd = some cmd ∧ (s.processes cmd).key = key ∧
      entry.stop s.processes =
        match (s.processes cmd).state.signal with
        | .error failure => .error (failure.wrap "terminating port-forward process")
        | .ok state => .ok (Function.update s.processes cmd { s.processes cmd with state }) := by
  obtain ⟨keyed, cmd, command, -, owner⟩ := (reachable_wf select reached).stored key entry stored
  exact ⟨keyed, cmd, command, owner, by simp only [PortForwardEntry.stop, command]⟩

end Runs

/-- The forward a running pod's goroutine stores is the entry of its key and carries the command
it started for that key, which `stop` signals. -/
theorem stored_forward_stops_its_command :
    ∃ s entry, run (fun _ => true) PortForwarder.initial
        [.modified { name := "web-1", resourceVersion := "7", running := true, deleting := false,
                     containers := [⟨"app", [8080]⟩] }, .step 0, .step 0, .step 0] = some s ∧
      s.forwardedPods.get? "app-8080" = some entry ∧ entry.key = "app-8080" ∧
      ∃ cmd, entry.cmd = some cmd ∧ (s.processes cmd).key = "app-8080" :=
  let ⟨keyed, cmd, command, owner, _⟩ := @stop_of_stored (fun _ => true) _
    [.modified { name := "web-1", resourceVersion := "7", running := true, deleting := false,
                 containers := [⟨"app", [8080]⟩] }, .step 0, .step 0, .step 0] rfl "app-8080" _ rfl
  ⟨_, _, rfl, rfl, keyed, cmd, command, owner⟩

/-- Two pods with the same container name and port, whose goroutines both `Load` before either
`Store`s: both kubectl processes run for the key, and the first is no longer the stored entry's.
When the second then fails (its port is taken) and is waited for, the first still runs,
untracked. -/
theorem racing_pods_leave_untracked_forward :
    ∃ s, run (fun _ => true) PortForwarder.initial
        [.modified { name := "web-1", resourceVersion := "1", running := true, deleting := false,
                     containers := [⟨"app", [8080]⟩] },
         .modified { name := "web-2", resourceVersion := "2", running := true, deleting := false,
                     containers := [⟨"app", [8080]⟩] },
         .step 0, .step 1, .step 0, .step 0, .step 1, .step 1] = some s ∧
      s.processes 0 = { key := "app-8080", state := .running false } ∧
      s.processes 1 = { key := "app-8080", state := .running false } ∧
      s.forwardedPods.get? "app-8080" =
        some { resourceVersion := 2, podName := "web-2", containerName := "app", port := 8080,
               cmd := some 1 } ∧
      ∃ s', run (fun _ => true) s [.exit 1 (some "exit status 1"), .step 1] = some s' ∧
        s'.processes 0 = { key := "app-8080", state := .running false } ∧
        s'.forwardedPods.get? "app-8080" = s.forwardedPods.get? "app-8080" :=
  ⟨_, rfl, by decide, by decide, by decide, _, rfl, by decide, rfl⟩

end Skaffold.Kubernetes

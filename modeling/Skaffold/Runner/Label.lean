import Skaffold.Basic

/-!
# Labelling the deployed objects

`label.ApplyLabelDeployResults` marks every object a deployment created with skaffold's labels.
For each deployed object it calls `updateRuntimeObject` until the API server accepts the update,
at most `tries` times, and logs a warning when all of them fail; a client that cannot be built
is logged too, and nothing is labelled.

`updateRuntimeObject` writes through two references. It first sets the default labels in the
map its caller passed (`labels[k] = v`), so the caller's map keeps them after the call. Then,
for an object of a kind its type switch knows, it sets every label of that map in the object's
own labels, through the object's pointer (`addSkaffoldLabels`), and sends the object to the
API server, in the namespace `retrieveNamespace` picks. The model threads both: the caller's
map through the whole loop, and each object's labels through the attempts for it.

The API server's answer is the `update` function, which may depend on every update sent before
(an object propagates to the server over time; that is why the code retries).

In the abstract (`labelEach`), each deployed object of a known kind has one update
(`request`): its kind, its namespace, and its own labels overridden by the caller's overridden
by the defaults (`get?_merged`). That update is sent until the server accepts it, at most
`tries` times (`sendUpTo`). The writes of the code change nothing of this: the labels written
into the object on one attempt are those the next attempt writes again, and the defaults set
in the caller's map on one call are those the next call sets again (`setAll_setAll`). So
labelling sends exactly the abstract updates, and leaves the caller's map with the defaults
merged in once there was an object to label (`applyLabelDeployResults_eq_labelEach`).
-/

set_option autoImplicit false

namespace Skaffold

namespace Label

/-- `tries`: how many times an object's update is attempted. -/
def tries : Nat := 3

/-- The kinds of object `updateRuntimeObject` labels, one per case of its type switch. The four
kinds of Deployment are sent with `Update`, the others with `UpdateStatus`. -/
inductive Kind where
  | pod
  | appsV1Deployment
  | appsV1beta1Deployment
  | appsV1beta2Deployment
  | extensionsV1beta1Deployment
  | service
  | appsV1StatefulSet
  | appsV1beta1StatefulSet
  | appsV1beta2StatefulSet
  | extensionsV1beta1DaemonSet
  | appsV1ReplicaSet
  | appsV1beta2ReplicaSet
  deriving DecidableEq, Repr

/-- The metadata of an object (`metav1.ObjectMeta`): its namespace, and its labels (`none` for a
nil map). -/
structure ObjectMeta where
  «namespace» : String
  labels : Option (GoMap String)

/-- A deployed object (`runtime.Object`): its kind, `none` for a type the switch of
`updateRuntimeObject` has no case for, and its metadata. -/
structure RuntimeObject where
  kind : Option Kind
  objectMeta : ObjectMeta

end Label

/-- A deployed object and the namespace it was deployed to (`deploy.Artifact`). -/
structure Deploy.Artifact where
  obj : Label.RuntimeObject
  «namespace» : String

namespace Label

/-- An update sent to the API server: the kind of the object, which names the client and the
call, the namespace it is sent to, and the labels of the object sent. -/
structure Request where
  kind : Kind
  «namespace» : String
  labels : GoMap String

/-! ## The code -/

/-- `addSkaffoldLabels`: the object's labels, a new map if they were nil, with every label of
`labels` set in them. -/
def addSkaffoldLabels (labels : GoMap String) (m : Option (GoMap String)) : GoMap String :=
  (m.getD .empty).setAll labels

/-- `retrieveNamespace`: the namespace deployed to, else the object's own, else `"default"`. -/
def retrieveNamespace (ns : String) (m : ObjectMeta) : String :=
  if ns ≠ "" then ns else if m.«namespace» ≠ "" then m.«namespace» else "default"

/-- `updateRuntimeObject`: the default labels are set in the caller's map; an object of a known
kind gets that map's labels in its own and is sent to the API server, whose answer is the
result; an object of another kind is skipped. Returns the caller's map, the object as written
through its pointer, the updates sent, and the error. -/
def updateRuntimeObject (defaultLabels : GoMap String)
    (update : List Request → Request → Except String Unit) (labels : GoMap String)
    (res : Deploy.Artifact) (sent : List Request) :
    GoMap String × Deploy.Artifact × List Request × Except String Unit :=
  let labels := labels.setAll defaultLabels
  match res.obj.kind with
  | none => (labels, res, sent, .ok ())
  | some kind =>
      let objectMeta : ObjectMeta :=
        { res.obj.objectMeta with labels := some (addSkaffoldLabels labels res.obj.objectMeta.labels) }
      let request : Request :=
        ⟨kind, retrieveNamespace res.«namespace» objectMeta,
          addSkaffoldLabels labels res.obj.objectMeta.labels⟩
      (labels, { res with obj := { res.obj with objectMeta } }, sent ++ [request],
        update sent request)

/-- The retry loop of `ApplyLabelDeployResults` for one object: `updateRuntimeObject` until it
succeeds, at most `n` times. The error after the loop is the last attempt's; before the loop it
is nil. -/
def retry (defaultLabels : GoMap String) (update : List Request → Request → Except String Unit) :
    Nat → GoMap String → Deploy.Artifact → List Request → Except String Unit →
      GoMap String × List Request × Except String Unit
  | 0, labels, _, sent, err => (labels, sent, err)
  | n + 1, labels, res, sent, _ =>
      match updateRuntimeObject defaultLabels update labels res sent with
      | (labels, _, sent, .ok ()) => (labels, sent, .ok ())
      | (labels, res, sent, .error err) => retry defaultLabels update n labels res sent (.error err)

/-- What labelling has done: the caller's label map, the updates sent, and the warnings
logged. -/
structure Labelling where
  labels : GoMap String
  sent : List Request
  warnings : List String

/-- One object of `ApplyLabelDeployResults`: its retry loop, and a warning if the last attempt
failed. -/
def labelResult (defaultLabels : GoMap String)
    (update : List Request → Request → Except String Unit) (s : Labelling)
    (res : Deploy.Artifact) : Labelling :=
  match retry defaultLabels update tries s.labels res s.sent (.ok ()) with
  | (labels, sent, .ok ()) => ⟨labels, sent, s.warnings⟩
  | (labels, sent, .error err) =>
      ⟨labels, sent, s.warnings ++ ["error adding label to runtime object: " ++ err]⟩

/-- `ApplyLabelDeployResults`: without a client, a warning; with one, every deployed object in
turn. -/
def applyLabelDeployResults (defaultLabels : GoMap String) (client : Except String Unit)
    (update : List Request → Request → Except String Unit) (labels : GoMap String)
    (results : List Deploy.Artifact) : Labelling :=
  match client with
  | .error err => ⟨labels, [], ["error retrieving kubernetes client: " ++ err]⟩
  | .ok () => results.foldl (labelResult defaultLabels update) ⟨labels, [], []⟩

/-! ## Labelling in the abstract -/

/-- The labels an object is sent with: its own, overridden by the caller's, overridden by the
defaults. -/
def merged (defaultLabels labels : GoMap String) (m : Option (GoMap String)) : GoMap String :=
  addSkaffoldLabels (labels.setAll defaultLabels) m

@[simp] theorem get?_merged (defaultLabels labels : GoMap String) (m : Option (GoMap String))
    (key : String) :
    (merged defaultLabels labels m).get? key =
      ((defaultLabels.get? key).or (labels.get? key)).or ((m.getD .empty).get? key) := by
  simp [merged, addSkaffoldLabels]

/-- The one update labelling sends for a deployed object, if its kind is one it labels. -/
def request (defaultLabels labels : GoMap String) (res : Deploy.Artifact) : Option Request :=
  res.obj.kind.map fun kind =>
    ⟨kind, retrieveNamespace res.«namespace» res.obj.objectMeta,
      merged defaultLabels labels res.obj.objectMeta.labels⟩

/-- Sending one update until the server accepts it, at most `n` times. -/
def sendUpTo (update : List Request → Request → Except String Unit) (request : Request) :
    Nat → List Request → Except String Unit → List Request × Except String Unit
  | 0, sent, err => (sent, err)
  | n + 1, sent, _ =>
      match update sent request with
      | .ok () => (sent ++ [request], .ok ())
      | .error err => sendUpTo update request n (sent ++ [request]) (.error err)

section Sending

variable (update : List Request → Request → Except String Unit) (request : Request)

theorem sendUpTo_succ_ok (n : Nat) (sent : List Request) (err : Except String Unit)
    (accepted : update sent request = .ok ()) :
    sendUpTo update request (n + 1) sent err = (sent ++ [request], .ok ()) := by
  rw [sendUpTo, accepted]

theorem sendUpTo_succ_error (n : Nat) (sent : List Request) (err : Except String Unit)
    (failure : String) (rejected : update sent request = .error failure) :
    sendUpTo update request (n + 1) sent err =
      sendUpTo update request n (sent ++ [request]) (.error failure) := by
  rw [sendUpTo, rejected]

/-- Sending an update at most `n + 1` times: the server rejects the first `k` attempts and
accepts the next, or rejects all of them and the last error is returned; each attempt sends the
update once more. -/
theorem sendUpTo_outcome (n : Nat) (sent : List Request) (err : Except String Unit) :
    (∃ k ≤ n, (∀ j < k, ∃ e, update (sent ++ List.replicate j request) request = .error e) ∧
        update (sent ++ List.replicate k request) request = .ok () ∧
        sendUpTo update request (n + 1) sent err =
          (sent ++ List.replicate (k + 1) request, .ok ())) ∨
      ((∀ j < n, ∃ e, update (sent ++ List.replicate j request) request = .error e) ∧
        ∃ e, update (sent ++ List.replicate n request) request = .error e ∧
          sendUpTo update request (n + 1) sent err =
            (sent ++ List.replicate (n + 1) request, .error e)) := by
  have shift : ∀ j, sent ++ [request] ++ List.replicate j request =
      sent ++ List.replicate (j + 1) request := fun j => by
    rw [List.append_assoc, List.singleton_append, List.replicate_succ]
  cases answer : update sent request with
  | ok => exact .inl ⟨0, Nat.zero_le n, nofun, by simpa using answer,
      sendUpTo_succ_ok _ _ _ _ _ answer⟩
  | error failure =>
      rw [sendUpTo_succ_error _ _ _ _ _ _ answer]
      cases n with
      | zero => exact .inr ⟨nofun, failure, by simpa using answer, rfl⟩
      | succ n =>
          have earlier : ∀ k, (∀ j < k, ∃ e, update (sent ++ [request] ++
              List.replicate j request) request = .error e) →
              ∀ j < k + 1, ∃ e, update (sent ++ List.replicate j request) request = .error e
            | _, _, 0, _ => ⟨failure, by simpa using answer⟩
            | _, rejected, j + 1, below => by
                simpa only [shift] using rejected j (by omega)
          rcases sendUpTo_outcome n (sent ++ [request]) (.error failure) with
            ⟨k, below, rejected, accepted, result⟩ | ⟨rejected, e, last, result⟩
          · refine .inl ⟨k + 1, by omega, earlier k rejected, ?_, ?_⟩
            · rwa [shift] at accepted
            · rw [result, shift]
          · refine .inr ⟨earlier n rejected, e, ?_, ?_⟩
            · rwa [shift] at last
            · rw [result, shift]

end Sending

/-- Labelling in the abstract: each object's update, if it has one, sent at most `tries` times
until accepted, and a warning for each the server never accepts. -/
def labelEach (update : List Request → Request → Except String Unit) :
    List (Option Request) → List Request → List String → List Request × List String
  | [], sent, warnings => (sent, warnings)
  | none :: rest, sent, warnings => labelEach update rest sent warnings
  | some request :: rest, sent, warnings =>
      match sendUpTo update request tries sent (.ok ()) with
      | (sent, .ok ()) => labelEach update rest sent warnings
      | (sent, .error err) =>
          labelEach update rest sent (warnings ++ ["error adding label to runtime object: " ++ err])

/-! ## The code sends the abstract updates -/

section Refinement

variable (defaultLabels : GoMap String) (update : List Request → Request → Except String Unit)

/-- The object as `updateRuntimeObject` writes it: with the labels it is sent with. -/
def relabel (labels : GoMap String) (res : Deploy.Artifact) : Deploy.Artifact :=
  { res with obj := { res.obj with objectMeta := { res.obj.objectMeta with
      labels := some (merged defaultLabels labels res.obj.objectMeta.labels) } } }

theorem request_setAll (labels : GoMap String) :
    request defaultLabels (labels.setAll defaultLabels) = request defaultLabels labels := by
  funext res
  simp only [request, merged, GoMap.setAll_setAll]

theorem request_relabel (labels : GoMap String) (res : Deploy.Artifact) :
    request defaultLabels (labels.setAll defaultLabels) (relabel defaultLabels labels res) =
      request defaultLabels labels res := by
  simp only [request, relabel, merged, addSkaffoldLabels, GoMap.setAll_setAll, Option.getD_some,
    retrieveNamespace]

/-- One attempt of the code: the defaults set in the caller's map, and the object's one update
sent after the updates before it. -/
theorem updateRuntimeObject_eq (labels : GoMap String) (res : Deploy.Artifact)
    (sent : List Request) :
    updateRuntimeObject defaultLabels update labels res sent =
      match request defaultLabels labels res with
      | none => (labels.setAll defaultLabels, res, sent, .ok ())
      | some request =>
          (labels.setAll defaultLabels, relabel defaultLabels labels res, sent ++ [request],
            update sent request) := by
  obtain ⟨⟨_ | kind, objectMeta⟩, ns⟩ := res <;> rfl

/-- The retry loop of the code sends the object's one update as `sendUpTo` does. -/
theorem retry_succ (n : Nat) (labels : GoMap String) (res : Deploy.Artifact)
    (sent : List Request) (err : Except String Unit) :
    retry defaultLabels update (n + 1) labels res sent err =
      match request defaultLabels labels res with
      | none => (labels.setAll defaultLabels, sent, .ok ())
      | some request =>
          (labels.setAll defaultLabels, sendUpTo update request (n + 1) sent err) := by
  induction n generalizing labels res sent err with
  | zero =>
      rw [retry, updateRuntimeObject_eq]
      rcases request defaultLabels labels res with _ | request
      · rfl
      · cases answer : update sent request with
        | ok => simp only [answer, sendUpTo_succ_ok _ _ _ _ _ answer]
        | error failure => simp only [answer, sendUpTo_succ_error _ _ _ _ _ _ answer]; rfl
  | succ n ih =>
      rw [retry, updateRuntimeObject_eq]
      cases requested : request defaultLabels labels res with
      | none => rfl
      | some request =>
          cases answer : update sent request with
          | ok => simp only [answer, sendUpTo_succ_ok _ _ _ _ _ answer]
          | error failure =>
              simp only [answer, sendUpTo_succ_error _ _ _ _ _ _ answer]
              rw [ih, request_relabel, requested, GoMap.setAll_setAll]

theorem labelResult_eq (s : Labelling) (res : Deploy.Artifact) :
    labelResult defaultLabels update s res =
      ⟨s.labels.setAll defaultLabels,
        (labelEach update [request defaultLabels s.labels res] s.sent s.warnings).1,
        (labelEach update [request defaultLabels s.labels res] s.sent s.warnings).2⟩ := by
  rw [labelResult, show tries = 2 + 1 from rfl, retry_succ]
  cases request defaultLabels s.labels res with
  | none => rfl
  | some request =>
      simp only [labelEach, tries]
      rcases sendUpTo update request (2 + 1) s.sent (.ok ()) with ⟨sent, _ | ⟨⟩⟩ <;> rfl

theorem labelEach_append (first second : List (Option Request)) (sent : List Request)
    (warnings : List String) :
    labelEach update (first ++ second) sent warnings =
      labelEach update second (labelEach update first sent warnings).1
        (labelEach update first sent warnings).2 := by
  induction first generalizing sent warnings with
  | nil => rfl
  | cons request rest ih =>
      rcases request with _ | request
      · exact ih sent warnings
      · simp only [List.cons_append, labelEach]
        rcases sendUpTo update request tries sent (.ok ()) with ⟨sent, _ | ⟨⟩⟩ <;> exact ih _ _

theorem labelEach_cons (request : Option Request) (rest : List (Option Request))
    (sent : List Request) (warnings : List String) :
    labelEach update (request :: rest) sent warnings =
      labelEach update rest (labelEach update [request] sent warnings).1
        (labelEach update [request] sent warnings).2 :=
  labelEach_append update [request] rest sent warnings

theorem foldl_labelResult (results : List Deploy.Artifact) (s : Labelling) :
    results.foldl (labelResult defaultLabels update) s =
      ⟨if results.isEmpty then s.labels else s.labels.setAll defaultLabels,
        (labelEach update (results.map (request defaultLabels s.labels)) s.sent s.warnings).1,
        (labelEach update (results.map (request defaultLabels s.labels)) s.sent s.warnings).2⟩ := by
  induction results generalizing s with
  | nil => rfl
  | cons res rest ih =>
      rw [List.foldl_cons, ih, List.map_cons, labelEach_cons, labelResult_eq]
      simp only [request_setAll, GoMap.setAll_setAll, ite_self, List.isEmpty_cons,
        Bool.false_eq_true, if_false]

/-- The code's retry loop for an object of a known kind sends the object's one update until the
server accepts it, at most `tries` times: after each rejection it is sent again, after an
acceptance never, and when every attempt is rejected the loop ends with the last error. -/
theorem retry_outcome (labels : GoMap String) (res : Deploy.Artifact) (sent : List Request)
    (req : Request) (known : request defaultLabels labels res = some req) :
    (∃ k < tries, (∀ j < k, ∃ e, update (sent ++ List.replicate j req) req = .error e) ∧
        update (sent ++ List.replicate k req) req = .ok () ∧
        retry defaultLabels update tries labels res sent (.ok ()) =
          (labels.setAll defaultLabels, sent ++ List.replicate (k + 1) req, .ok ())) ∨
      ((∀ j < tries - 1, ∃ e, update (sent ++ List.replicate j req) req = .error e) ∧
        ∃ e, update (sent ++ List.replicate (tries - 1) req) req = .error e ∧
          retry defaultLabels update tries labels res sent (.ok ()) =
            (labels.setAll defaultLabels, sent ++ List.replicate tries req, .error e)) := by
  rw [show tries = 2 + 1 from rfl, retry_succ, known]
  rcases sendUpTo_outcome update req 2 sent (.ok ()) with
    ⟨k, below, rejected, accepted, result⟩ | ⟨rejected, e, last, result⟩
  · exact .inl ⟨k, by omega, rejected, accepted, by simp only [result]⟩
  · exact .inr ⟨rejected, e, last, by simp only [result]⟩

/-- A pod the server never finds: its update is sent three times, and the loop ends with the
server's error. -/
theorem unfound_pod_sent_three_times :
    let defaults := GoMap.empty.set "deployed-with" "skaffold"
    let res : Deploy.Artifact := ⟨⟨some .pod, ⟨"", none⟩⟩, ""⟩
    let req : Request := ⟨.pod, "default", merged defaults GoMap.empty none⟩
    retry defaults (fun _ _ => .error "not found") tries GoMap.empty res [] (.ok ()) =
      (GoMap.empty.setAll defaults, [req, req, req], .error "not found") := by
  intro defaults res req
  rcases retry_outcome defaults (fun _ _ => .error "not found") GoMap.empty res [] req rfl with
    ⟨_, _, _, accepted, _⟩ | ⟨_, e, last, result⟩
  · simp at accepted
  · cases last
    exact result

/-- Labelling sends exactly the abstract updates: each deployed object of a kind it knows is
sent its one update, with its own labels overridden by the caller's overridden by the
defaults, at most `tries` times until the server accepts it, and a warning is logged for each
the server never accepts. The caller's map keeps the defaults once an object was labelled. -/
theorem applyLabelDeployResults_eq_labelEach (labels : GoMap String)
    (results : List Deploy.Artifact) :
    applyLabelDeployResults defaultLabels (.ok ()) update labels results =
      ⟨if results.isEmpty then labels else labels.setAll defaultLabels,
        (labelEach update (results.map (request defaultLabels labels)) [] []).1,
        (labelEach update (results.map (request defaultLabels labels)) [] []).2⟩ :=
  foldl_labelResult defaultLabels update results ⟨labels, [], []⟩

end Refinement

end Label

end Skaffold

import Mathlib.Data.List.Basic
import Skaffold.Deploy.Manifests

/-!
# The kubectl deployer's calls

The kubectl deployer reads its manifests through a manifest builder (`noOpManifestBuilder`):
the files the manifest paths expand to (`manifestFiles`), each split into documents, then the
remote manifests, which `readRemoteManifest` fetches with `kubectl get`; the result is rendered
with `manifestList.String`. The same expansion of the same paths is the deployer's
`Dependencies`, the files the dev loop watches to redeploy. `Cleanup` deletes what the builder
renders with `kubectl delete`.

The glob expansion, the test of a file's format, file reads and the runs of kubectl are the
host's answers (`Host`).

Every document the builder renders comes from a file of the deployer's dependencies or from a
remote manifest (`build_documents_from_dependencies`): the dev loop watches every local file
the deployer deploys. A remote manifest named `namespace:name` is fetched as `name` in that
namespace; the name is split at every colon and only the first two parts are read, so whatever
follows a second colon is dropped (`remoteManifestArgs_namespaced`).
-/

set_option autoImplicit false

namespace Skaffold.Deploy

/-- What the kubectl deployer runs against, each call with its answer: the glob expansion of the
manifest paths from a working directory (`util.ExpandPathsGlob`), whether a file has a format
Kubernetes reads (`util.IsSupportedKubernetesFormat`), `ioutil.ReadFile`, and a run of kubectl
with its arguments and standard input, answering its output. -/
structure Host where
  expandPathsGlob : String → List String → Except String (List String)
  isSupportedKubernetesFormat : String → Bool
  readFile : String → Except String (List Char)
  runKubectl : List String → List Char → Except String (List Char)

variable (host : Host)

/-- `kubectl`: a run of kubectl in the context, with the arguments after `--context`. -/
def kubectl (input : List Char) (kubeContext : String) (arg : List String) :
    Except String (List Char) :=
  host.runKubectl ("--context" :: kubeContext :: arg) input

/-- The arguments `readRemoteManifest` gives kubectl for a remote manifest: the name is split at
every colon (`strings.Split`), and with more than one part the first is the namespace and the
second the name. -/
def remoteManifestArgs (name : String) : List String :=
  match name.toList.splitOn ':' with
  | ns :: second :: _ => ["--namespace", String.mk ns, "get", String.mk second, "-o", "yaml"]
  | _ => ["get", name, "-o", "yaml"]

/-- `readRemoteManifest`: the output of `kubectl get` for the manifest, as YAML. -/
def readRemoteManifest (name kubeContext : String) : Except String (List Char) :=
  (kubectl host [] kubeContext (remoteManifestArgs name)).mapError (wrapError "getting manifest")

/-- `manifestFiles`: the files the manifest paths expand to, keeping a file of a format
Kubernetes does not read only when it is named as it is. -/
def manifestFiles (workingDir : String) (manifests : List String) :
    Except String (List String) := do
  let list ← (host.expandPathsGlob workingDir manifests).mapError
    (wrapError "expanding kubectl manifest paths")
  pure (list.filter fun f => host.isSupportedKubernetesFormat f || manifests.contains f)

/-- The manifest builder of the kubectl deployer (`noOpManifestBuilder`). -/
structure NoOpManifestBuilder where
  manifests : List String
  remoteManifests : List String
  context : String
  workingDir : String

/-- `noOpManifestBuilder.build`: the manifests read, rendered as one text. -/
def NoOpManifestBuilder.build (n : NoOpManifestBuilder) : Except String (List Char) := do
  let manifests ← (readManifests (manifestFiles host n.workingDir n.manifests) host.readFile
    (fun name => readRemoteManifest host name n.context) n.remoteManifests).mapError
    (wrapError "reading manifests")
  pure (manifestListString manifests)

/-- `KubectlDeployer.Dependencies`: the files the manifest paths expand to. -/
def dependencies (workingDir : String) (manifests : List String) : Except String (List String) :=
  manifestFiles host workingDir manifests

/-- `kubectlBaseDeployer.Cleanup` with the kubectl deployer's builder: `kubectl delete` of what
the builder renders. The builder's error is wrapped with `"kustomize"` whichever deployer it
belongs to. -/
def cleanup (n : NoOpManifestBuilder) (kubeContext : String) : Except String Unit := do
  let manifests ← (n.build host).mapError (wrapError "kustomize")
  let _ ← (kubectl host manifests kubeContext ["delete", "-f", "-"]).mapError
    (wrapError "kubectl delete")
  pure ()

/-- **The dev loop watches every local file the kubectl deployer deploys.** The text the
manifest builder renders is the rendering of documents each of which was split from a file of
the deployer's dependencies or fetched as a remote manifest. -/
theorem build_documents_from_dependencies (n : NoOpManifestBuilder) {text : List Char}
    (built : n.build host = .ok text) :
    ∃ files l, dependencies host n.workingDir n.manifests = .ok files ∧
      text = manifestListString l ∧
      ∀ doc ∈ l, (∃ file ∈ files, ∃ content, host.readFile file = .ok content ∧
          doc ∈ bytesSplit content) ∨
        ∃ name ∈ n.remoteManifests, readRemoteManifest host name n.context = .ok doc := by
  obtain ⟨l, read, rendered⟩ := bind_eq_ok.mp built
  rw [mapError_eq_ok] at read
  obtain ⟨files, listed, loops⟩ := bind_eq_ok.mp read
  obtain ⟨manifests, fromFiles, remoteLoop⟩ := bind_eq_ok.mp loops
  obtain ⟨remote, fromRemote, joined⟩ := bind_eq_ok.mp remoteLoop
  rw [pure_eq_ok] at joined rendered
  subst joined
  refine ⟨files, _, mapError_eq_ok.mp listed, rendered.symm, fun doc member => ?_⟩
  rcases List.mem_append.mp member with here | there
  · obtain ⟨file, found, given, answered, inside⟩ := mem_of_readEach fromFiles doc here
    obtain ⟨content, readAnswer, rfl⟩ := map_eq_ok.mp answered
    exact .inl ⟨file, found, content, readAnswer, inside⟩
  · obtain ⟨name, found, given, answered, inside⟩ := mem_of_readEach fromRemote doc there
    obtain ⟨fetched, fetchAnswer, rfl⟩ := map_eq_ok.mp answered
    exact .inr ⟨name, found, List.mem_singleton.mp inside ▸ fetchAnswer⟩

/-- A glob that expands to a YAML file and a README: the README is left out, and both documents
the builder renders come from the YAML file, which the deployer's dependencies list. -/
theorem yaml_documents_come_from_dependencies :
    let host : Host := ⟨fun _ _ => .ok ["k8s/app.yaml", "README.md"],
      fun f => f == "k8s/app.yaml", fun _ => .ok "kind: A\n---\nkind: B".toList,
      fun _ _ => .error "not found"⟩
    let n : NoOpManifestBuilder := ⟨["k8s/*"], [], "minikube", "."⟩
    n.build host = .ok "kind: A\n---\nkind: B".toList ∧
      ∃ files l, dependencies host n.workingDir n.manifests = .ok files ∧
        "kind: A\n---\nkind: B".toList = manifestListString l ∧
        ∀ doc ∈ l, (∃ file ∈ files, ∃ content, host.readFile file = .ok content ∧
            doc ∈ bytesSplit content) ∨
          ∃ name ∈ n.remoteManifests, readRemoteManifest host name n.context = .ok doc := by
  intro host n
  have built : n.build host = .ok "kind: A\n---\nkind: B".toList := rfl
  exact ⟨built, build_documents_from_dependencies host n built⟩

/-- Splitting a name at its colons. -/
theorem splitOn_colon (front : List Char) (plain : ':' ∉ front) (rest : List Char) :
    (front ++ ':' :: rest).splitOn ':' = front :: rest.splitOn ':' := by
  refine List.splitOnP_first (· == ':') front (fun c member same => plain ?_) ':'
    (beq_self_eq_true ':') rest
  rwa [beq_iff_eq.mp same] at member

/-- **A remote manifest's name is read up to its second colon.** `namespace:name` is fetched as
`name` in the namespace, and a name with more colons is fetched the same way: what follows the
second colon is dropped. -/
theorem remoteManifestArgs_namespaced (ns name rest : String) (nsPlain : ':' ∉ ns.toList)
    (namePlain : ':' ∉ name.toList) :
    remoteManifestArgs (ns ++ ":" ++ name) = ["--namespace", ns, "get", name, "-o", "yaml"] ∧
      remoteManifestArgs (ns ++ ":" ++ name ++ ":" ++ rest) =
        remoteManifestArgs (ns ++ ":" ++ name) := by
  have single : name.toList.splitOn ':' = [name.toList] := by
    refine List.splitOnP_eq_single (· == ':') _ fun c member same => namePlain ?_
    rwa [beq_iff_eq.mp same] at member
  have short : (ns ++ ":" ++ name).toList.splitOn ':' = [ns.toList, name.toList] := by
    rw [show (ns ++ ":" ++ name).toList = ns.toList ++ ':' :: name.toList by simp,
      splitOn_colon _ nsPlain, single]
  have long : (ns ++ ":" ++ name ++ ":" ++ rest).toList.splitOn ':' =
      ns.toList :: name.toList :: rest.toList.splitOn ':' := by
    rw [show (ns ++ ":" ++ name ++ ":" ++ rest).toList =
        ns.toList ++ ':' :: (name.toList ++ ':' :: rest.toList) by simp,
      splitOn_colon _ nsPlain, splitOn_colon _ namePlain]
  constructor
  · simp only [remoteManifestArgs, short]
    rfl
  · simp only [remoteManifestArgs, short, long]

/-- `prod:deployment/web:v2` is fetched as `deployment/web` in `prod`, as
`prod:deployment/web` is. -/
theorem versioned_remote_manifest_fetched_unversioned :
    ':' ∉ "prod".toList ∧ ':' ∉ "deployment/web".toList ∧
      remoteManifestArgs ("prod" ++ ":" ++ "deployment/web") =
        ["--namespace", "prod", "get", "deployment/web", "-o", "yaml"] ∧
      remoteManifestArgs ("prod" ++ ":" ++ "deployment/web" ++ ":" ++ "v2") =
        remoteManifestArgs ("prod" ++ ":" ++ "deployment/web") :=
  ⟨by decide, by decide,
    remoteManifestArgs_namespaced "prod" "deployment/web" "v2" (by decide) (by decide)⟩

end Skaffold.Deploy

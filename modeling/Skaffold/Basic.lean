import Mathlib.Data.List.Nodup

/-!
# Errors, artifacts and build results

The data every other module of the model shares.

A Go function that can fail returns an `error` value, and the callers in this repository wrap
it with a message of their own (`errors.Wrap`). A Go program can also stop with a run-time
panic: an unchecked type assertion that fails, or a method called through a nil pointer. The
model keeps the two apart (`Failure`), because several properties of the program are about
what it returns *when it does not panic*.

A Go map with string keys is the list of its entries in the order a `range` over it visits
them, with distinct keys (`GoMap`). Go picks that order at random, so a statement about a
`range` is stated for every such list. Assigning a key removes its entry, if present, and
appends the key with the new value (`GoMap.set`); since Go's order is any order, where the
entry ends up says nothing about the program.

An artifact of the configuration (`v1alpha3.Artifact`) is an image to build, with the glob
patterns of the files that may be synced into running pods instead of rebuilt. A build result
(`build.Artifact`) is the tag a builder produced for an image name.
-/

set_option autoImplicit false

namespace Skaffold

/-! ## Go errors and panics -/

/-- `errors.Wrap(err, message)` and `errors.Wrapf`: the message, a colon, and the text of the
wrapped error. -/
def wrapError (message err : String) : String := message ++ ": " ++ err

/-- How a Go call ends when it does not return a value: with an `error` it returns, or with a
run-time panic. -/
inductive Failure where
  | error (message : String)
  | panic (message : String)
  deriving DecidableEq, Repr

namespace Failure

/-- `errors.Wrap` at a call site: a returned error is wrapped, a panic passes through. -/
def wrap (message : String) : Failure → Failure
  | .error err => .error (wrapError message err)
  | .panic reason => .panic reason

/-- Whether a failure is a panic. -/
def isPanic : Failure → Bool
  | .error _ => false
  | .panic _ => true

@[simp] theorem isPanic_wrap (message : String) (failure : Failure) :
    (failure.wrap message).isPanic = failure.isPanic := by
  cases failure <;> rfl

end Failure

/-- A computation that can fail returns `b` after a bind exactly when its first part returned a
value the rest maps to `b`. -/
theorem bind_eq_ok {ε α β : Type} {x : Except ε α} {f : α → Except ε β} {b : β} :
    x >>= f = .ok b ↔ ∃ a, x = .ok a ∧ f a = .ok b := by
  cases x <;> simp [bind, Except.bind]

@[simp] theorem ok_bind {ε α β : Type} (a : α) (f : α → Except ε β) :
    (Except.ok a : Except ε α) >>= f = f a := rfl

@[simp] theorem error_bind {ε α β : Type} (e : ε) (f : α → Except ε β) :
    (Except.error e : Except ε α) >>= f = .error e := rfl

theorem pure_eq_ok {ε α : Type} {a b : α} : (pure a : Except ε α) = .ok b ↔ a = b := by
  simp [pure, Except.pure]

/-- A computation fails after a bind exactly when its first part failed, or returned a value the
rest fails on. -/
theorem bind_eq_error {ε α β : Type} {x : Except ε α} {f : α → Except ε β} {e : ε} :
    x >>= f = .error e ↔ x = .error e ∨ ∃ a, x = .ok a ∧ f a = .error e := by
  cases x <;> simp [bind, Except.bind]

theorem map_eq_ok {ε α β : Type} {x : Except ε α} {f : α → β} {b : β} :
    f <$> x = .ok b ↔ ∃ a, x = .ok a ∧ f a = b := by
  cases x <;> simp [Functor.map, Except.map]

@[simp] theorem mapError_ok {ε ε' α : Type} (f : ε → ε') (a : α) :
    (Except.ok a : Except ε α).mapError f = .ok a := rfl

theorem mapError_eq_ok {ε ε' α : Type} {x : Except ε α} {f : ε → ε'} {a : α} :
    x.mapError f = .ok a ↔ x = .ok a := by
  cases x <;> simp [Except.mapError]

theorem mapError_eq_error {ε ε' α : Type} {x : Except ε α} {f : ε → ε'} {e : ε'} :
    x.mapError f = .error e ↔ ∃ e', x = .error e' ∧ f e' = e := by
  cases x <;> simp [Except.mapError]

/-- Whether a Go call ends in a panic. -/
def panicked {α : Type} : Except Failure α → Bool
  | .error failure => failure.isPanic
  | .ok _ => false

/-! ## Go maps with string keys -/

/-- A Go map with string keys (`map[string]T`, or a `sync.Map` keyed by strings): its entries in
the order a `range` visits them, one per key. -/
structure GoMap (α : Type) where
  entries : List (String × α)
  distinct : (entries.map Prod.fst).Nodup

namespace GoMap

variable {α : Type}

/-- The empty map. -/
def empty : GoMap α := ⟨[], List.nodup_nil⟩

/-- The keys, in the order of a `range`. -/
def keys (m : GoMap α) : List String := m.entries.map Prod.fst

/-- `m[key]` with its `present` flag, or `Load`: the value of the key, if present. -/
def get? (m : GoMap α) (key : String) : Option α :=
  (m.entries.find? (·.1 = key)).map Prod.snd

/-- `m[key] = value`, or `Store`: the key gets the value, in an entry of its own. -/
def set (m : GoMap α) (key : String) (value : α) : GoMap α :=
  ⟨m.entries.filter (·.1 ≠ key) ++ [(key, value)], by
    rw [List.map_append, List.nodup_append]
    refine ⟨m.distinct.sublist ((List.filter_sublist _).map _), List.nodup_singleton _, ?_⟩
    simp [List.Disjoint]⟩

theorem get?_eq_none {m : GoMap α} {key : String} : m.get? key = none ↔ key ∉ m.keys := by
  simp only [get?, keys, Option.map_eq_none', List.find?_eq_none, decide_eq_true_eq,
    List.mem_map, not_exists, not_and]

theorem get?_eq_some {m : GoMap α} {key : String} {value : α} :
    m.get? key = some value ↔ (key, value) ∈ m.entries := by
  obtain ⟨entries, distinct⟩ := m
  simp only [get?]
  induction entries with
  | nil => simp
  | cons entry rest ih =>
      rw [List.map_cons, List.nodup_cons] at distinct
      by_cases here : entry.1 = key
      · have absent : (key, value) ∉ rest := fun member =>
          distinct.1 (here ▸ List.mem_map_of_mem Prod.fst member)
        obtain ⟨name, stored⟩ := entry
        simp only at here
        subst here
        simp [absent, eq_comm]
      · have differ : entry ≠ (key, value) := fun same => here (same ▸ rfl)
        simp [List.find?_cons, here, ih distinct.2, Ne.symm differ]

@[simp] theorem get?_set (m : GoMap α) (key : String) (value : α) (other : String) :
    (m.set key value).get? other = if key = other then some value else m.get? other := by
  simp only [get?, set, List.find?_append, List.find?_filter]
  by_cases same : key = other
  · subst same
    simp
  · have kept : ∀ entry : String × α, (entry.1 ≠ key ∧ entry.1 = other) ↔ entry.1 = other :=
      fun entry => ⟨And.right, fun mine => ⟨mine ▸ Ne.symm same, mine⟩⟩
    simp [same, kept]

@[simp] theorem keys_empty : (empty : GoMap α).keys = [] := rfl

theorem mem_keys_set {m : GoMap α} {key other : String} {value : α} :
    other ∈ (m.set key value).keys ↔ other = key ∨ other ∈ m.keys := by
  by_cases same : other = key <;> simp [keys, set, same]

theorem ext_entries {first second : GoMap α} (same : first.entries = second.entries) :
    first = second := by
  cases first; cases second; cases same; rfl

/-- `for k, v := range source { target[k] = v }`: every entry of `source` is set in `target`. -/
def setAll (target source : GoMap α) : GoMap α :=
  source.entries.foldl (fun acc entry => acc.set entry.1 entry.2) target

/-- Setting entries with distinct keys one by one keeps the target's other entries in their
order and appends the new ones. -/
theorem entries_foldl_set (target : GoMap α) (entries : List (String × α))
    (distinct : (entries.map Prod.fst).Nodup) :
    (entries.foldl (fun acc entry => acc.set entry.1 entry.2) target).entries =
      target.entries.filter (fun entry => entry.1 ∉ entries.map Prod.fst) ++ entries := by
  induction entries generalizing target with
  | nil => simp
  | cons first rest ih =>
      rw [List.map_cons, List.nodup_cons] at distinct
      have fresh : (first.1, first.2) ∉ rest := fun member =>
        distinct.1 (List.mem_map_of_mem Prod.fst member)
      rw [List.foldl_cons, ih _ distinct.2]
      simp only [set, List.filter_append, List.filter_filter, List.map_cons, List.mem_cons,
        not_or, List.cons_append, List.append_assoc, List.singleton_append]
      simp [distinct.1, fresh, Bool.and_comm]

theorem entries_setAll (target source : GoMap α) :
    (target.setAll source).entries =
      target.entries.filter (fun entry => entry.1 ∉ source.keys) ++ source.entries :=
  entries_foldl_set target source.entries source.distinct

/-- Setting the same entries twice is setting them once. -/
theorem setAll_setAll (target source : GoMap α) :
    (target.setAll source).setAll source = target.setAll source := by
  apply ext_entries
  simp only [entries_setAll, List.filter_append, List.filter_filter, Bool.and_self]
  have gone : source.entries.filter (fun entry => entry.1 ∉ source.keys) = [] :=
    List.filter_eq_nil_iff.mpr fun entry member => by
      simpa [keys] using List.mem_map_of_mem Prod.fst member
  rw [gone, List.append_nil]

@[simp] theorem get?_setAll (target source : GoMap α) (key : String) :
    (target.setAll source).get? key = (source.get? key).or (target.get? key) := by
  obtain ⟨entries, distinct⟩ := source
  show (entries.foldl _ target).get? key = ((entries.find? (·.1 = key)).map Prod.snd).or _
  induction entries generalizing target with
  | nil => simp
  | cons first rest ih =>
      rw [List.map_cons, List.nodup_cons] at distinct
      rw [List.foldl_cons, ih _ distinct.2, get?_set]
      by_cases same : first.1 = key
      · have absent : rest.find? (·.1 = key) = none := by
          simp only [List.find?_eq_none, decide_eq_true_eq]
          exact fun entry member found => distinct.1 (same ▸ found ▸ List.mem_map_of_mem _ member)
        simp [same, absent]
      · simp [same]

end GoMap

/-! ## Artifacts and build results -/

namespace Schema

/-- An artifact of the configuration (`v1alpha3.Artifact`): the image it builds and its sync
patterns. -/
structure Artifact where
  imageName : String
  sync : List String
  deriving DecidableEq, Repr

end Schema

namespace Build

/-- A build result (`build.Artifact`): the tag built for an image name. -/
structure Artifact where
  imageName : String
  tag : String
  deriving DecidableEq, Repr

/-- The image names of a list of build results, in order. -/
def imageNames (builds : List Artifact) : List String := builds.map Artifact.imageName

@[simp] theorem imageNames_nil : imageNames [] = [] := rfl

@[simp] theorem imageNames_cons (build : Artifact) (builds : List Artifact) :
    imageNames (build :: builds) = build.imageName :: imageNames builds := rfl

@[simp] theorem imageNames_append (first second : List Artifact) :
    imageNames (first ++ second) = imageNames first ++ imageNames second :=
  List.map_append _ _ _

/-- The entry of a table of build results for an image name: the first result with that name. -/
def lookup (builds : List Artifact) (imageName : String) : Option Artifact :=
  builds.find? (·.imageName = imageName)

@[simp] theorem lookup_nil (imageName : String) : lookup [] imageName = none := rfl

theorem lookup_cons (build : Artifact) (builds : List Artifact) (imageName : String) :
    lookup (build :: builds) imageName =
      if build.imageName = imageName then some build else lookup builds imageName := by
  by_cases same : build.imageName = imageName <;> simp [lookup, List.find?_cons, same]

theorem lookup_eq_none {builds : List Artifact} {imageName : String} :
    lookup builds imageName = none ↔ imageName ∉ imageNames builds := by
  simp [lookup, imageNames]

end Build

end Skaffold

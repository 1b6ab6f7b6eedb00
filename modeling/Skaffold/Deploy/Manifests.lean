import Mathlib.Data.List.DropRight
import Mathlib.Data.List.Infix
import Skaffold.Basic

/-!
# The manifest list as text

The kubectl deployer moves its manifests through text twice. `readManifests` splits each
manifest file at every `"\n---"` (`bytesSplit`) and appends each remote manifest whole; the
manifest builder renders the list with `manifestList.String`, which trims each document
(`trimSpace`) and joins them with `"\n---\n"`; `applyManifests` reads that text back with
`newManifestList`, which splits it at `"\n---"` again. A document is modelled as the text its
bytes encode.

Splitting loses nothing but the separators (`intercalate_bytesSplit`), and no part of a split
holds the separator (`not_infix_of_mem_bytesSplit`). Reading a rendered list back gives its
documents, trimmed, each after the first behind the newline that ends the separator
(`newManifestList_manifestListString`), as long as no document holds the separator and no
document after the first begins with `---`. Documents read from files meet the first condition
by construction, so the documents `applyManifests` receives from the kubectl deployer are the
ones `readManifests` read, up to white space, unless a document after the first begins with a
YAML document marker (`readManifests_reread`). Such a document, wherever it stands after the
first, is read back as an empty document followed by the rest of its text
(`marked_document_reread`).
-/

set_option autoImplicit false

namespace Skaffold.Deploy

/-! ## Splitting at the separator -/

/-- The separator the deployer splits manifest text at, `"\n---"`. -/
def separator : List Char := ['\n', '-', '-', '-']

/-- `bytes.Split(buf, []byte("\n---"))`: the text between the separators, from the left, one
part more than there are separators. -/
def bytesSplit : List Char → List (List Char)
  | [] => [[]]
  | '\n' :: '-' :: '-' :: '-' :: rest => [] :: bytesSplit rest
  | c :: rest => (bytesSplit rest).modifyHead (c :: ·)

@[simp] theorem bytesSplit_nil : bytesSplit [] = [[]] := rfl

theorem bytesSplit_separator (rest : List Char) :
    bytesSplit (separator ++ rest) = [] :: bytesSplit rest := rfl

theorem bytesSplit_cons {c : Char} {rest : List Char} (other : ¬ separator <+: c :: rest) :
    bytesSplit (c :: rest) = (bytesSplit rest).modifyHead (c :: ·) :=
  bytesSplit.eq_3 c rest fun after newline dashes => other ⟨after, by subst newline dashes; rfl⟩

theorem bytesSplit_ne_nil (text : List Char) : bytesSplit text ≠ [] := by
  induction text using bytesSplit.induct with
  | case1 => exact List.cons_ne_nil _ _
  | case2 => exact List.cons_ne_nil _ _
  | case3 c rest other ih =>
      rw [bytesSplit.eq_3 c rest other]
      obtain ⟨part, parts, split⟩ := List.exists_cons_of_ne_nil ih
      simp [split]

theorem intercalate_cons_cons {α : Type} (sep first second : List α) (rest : List (List α)) :
    sep.intercalate (first :: second :: rest) = first ++ sep ++ sep.intercalate (second :: rest) := by
  simp [List.intercalate, List.intersperse_cons_cons]

theorem intercalate_modifyHead {α : Type} (sep : List α) (front : List α) :
    ∀ {parts : List (List α)}, parts ≠ [] →
      sep.intercalate (parts.modifyHead (front ++ ·)) = front ++ sep.intercalate parts
  | [_], _ => by simp [List.intercalate]
  | _ :: _ :: _, _ => by simp [intercalate_cons_cons]

/-- **Splitting loses nothing but the separators**: joining the parts with the separator gives
the text back. -/
theorem intercalate_bytesSplit (text : List Char) :
    separator.intercalate (bytesSplit text) = text := by
  induction text using bytesSplit.induct with
  | case1 => rfl
  | case2 rest ih =>
      obtain ⟨part, parts, split⟩ := List.exists_cons_of_ne_nil (bytesSplit_ne_nil rest)
      rw [show '\n' :: '-' :: '-' :: '-' :: rest = separator ++ rest from rfl, bytesSplit_separator,
        split, intercalate_cons_cons, ← split, ih, List.nil_append]
  | case3 c rest other ih =>
      rw [bytesSplit.eq_3 c rest other]
      simpa [ih] using intercalate_modifyHead separator [c] (bytesSplit_ne_nil rest)

/-- The first part of a split is where the text begins. -/
theorem head_prefix_of_bytesSplit (text : List Char) :
    ∀ part ∈ (bytesSplit text).head?, part <+: text := by
  induction text using bytesSplit.induct with
  | case1 => simp
  | case2 => exact fun _ found => by cases found; exact List.nil_prefix
  | case3 c rest other ih =>
      rw [bytesSplit.eq_3 c rest other]
      obtain ⟨part, parts, split⟩ := List.exists_cons_of_ne_nil (bytesSplit_ne_nil rest)
      simp only [split, List.modifyHead_cons, List.head?_cons, Option.mem_def, Option.some.injEq,
        forall_eq']
      exact List.cons_prefix_cons.mpr ⟨rfl, ih part (by simp [split])⟩

/-- **No part of a split holds the separator.** -/
theorem not_infix_of_mem_bytesSplit (text : List Char) :
    ∀ part ∈ bytesSplit text, ¬ separator <:+: part := by
  induction text using bytesSplit.induct with
  | case1 => simp [separator]
  | case2 rest ih =>
      intro part member
      rcases List.mem_cons.mp member with rfl | later
      · simp [separator]
      · exact ih part later
  | case3 c rest other ih =>
      rw [bytesSplit.eq_3 c rest other]
      obtain ⟨first, parts, split⟩ := List.exists_cons_of_ne_nil (bytesSplit_ne_nil rest)
      have starts : first <+: rest := head_prefix_of_bytesSplit rest first (by simp [split])
      rw [split] at ih
      simp only [split, List.modifyHead_cons, List.mem_cons, forall_eq_or_imp] at ih ⊢
      refine ⟨fun found => ?_, ih.2⟩
      rcases List.infix_cons_iff.mp found with here | inside
      · obtain ⟨after, joined⟩ := here
        obtain ⟨tail, whole⟩ := starts
        exact other (after ++ tail) (by simpa [separator, eq_comm] using congrArg List.head? joined)
          (by simp [separator] at joined; simp [← whole, ← joined.2])
      · exact ih.1 inside

/-- A separator starts inside a text followed by more text only if the text holds one, or the
more text begins with a dash. -/
theorem not_separator_prefix_append {c : Char} {front rest : List Char}
    (clean : ¬ separator <:+: c :: front) (next : rest.head? ≠ some '-') :
    ¬ separator <+: c :: (front ++ rest) := by
  rintro ⟨after, joined⟩
  rcases front with _ | ⟨x, _ | ⟨y, _ | ⟨z, front⟩⟩⟩ <;>
    simp only [separator, List.cons_append, List.nil_append, List.cons.injEq] at joined
  · exact next (by rw [← joined.2]; rfl)
  · exact next (by rw [← joined.2.2]; rfl)
  · exact next (by rw [← joined.2.2.2]; rfl)
  · obtain ⟨rfl, rfl, rfl, rfl, -⟩ := joined
    exact clean (List.IsPrefix.isInfix ⟨front, rfl⟩)

/-- Text that holds no separator, followed by text that does not begin with a dash, is the
start of the first part. -/
theorem bytesSplit_append {front rest : List Char} (clean : ¬ separator <:+: front)
    (next : rest.head? ≠ some '-') :
    bytesSplit (front ++ rest) = (bytesSplit rest).modifyHead (front ++ ·) := by
  induction front with
  | nil => rw [List.nil_append]; cases bytesSplit rest <;> rfl
  | cons c front ih =>
      rw [List.cons_append, bytesSplit_cons (not_separator_prefix_append clean next),
        ih fun inside => clean (List.infix_cons inside), List.modifyHead_modifyHead]
      rfl

theorem bytesSplit_of_clean {text : List Char} (clean : ¬ separator <:+: text) :
    bytesSplit text = [text] := by
  simpa using @bytesSplit_append text [] clean (by simp)

theorem not_infix_newline {text : List Char} (clean : ¬ separator <:+: text)
    (unmarked : ¬ ['-', '-', '-'] <+: text) : ¬ separator <:+: '\n' :: text := fun found =>
  (List.infix_cons_iff.mp found).elim (fun here => unmarked (List.cons_prefix_cons.mp here).2) clean

/-- Documents joined with the separator and a newline split back into the documents, each after
the first behind the newline, when none holds the separator, even behind the newline. -/
theorem bytesSplit_intercalate : ∀ {first : List Char} {rest : List (List Char)},
    ¬ separator <:+: first → (∀ doc ∈ rest, ¬ separator <:+: '\n' :: doc) →
      bytesSplit ((separator ++ ['\n']).intercalate (first :: rest)) =
        first :: rest.map ('\n' :: ·)
  | _, [], clean, _ => by simpa [List.intercalate] using bytesSplit_of_clean clean
  | first, doc :: docs, clean, later => by
      obtain ⟨here, after⟩ := List.forall_mem_cons.mp later
      have behind : '\n' :: (separator ++ ['\n']).intercalate (doc :: docs) =
          (separator ++ ['\n']).intercalate (('\n' :: doc) :: docs) :=
        (intercalate_modifyHead _ ['\n'] (List.cons_ne_nil doc docs)).symm
      rw [intercalate_cons_cons, List.append_assoc, List.append_assoc,
        bytesSplit_append clean (by simp [separator]), List.singleton_append, behind,
        bytesSplit_separator, bytesSplit_intercalate here after]
      simp

/-! ## Trimming and rendering -/

/-- `unicode.IsSpace`: the white space of Latin-1 (tab, newline, vertical tab, form feed,
carriage return, space, U+0085 and U+00A0), and above Latin-1 the rest of Unicode's
`White_Space`. -/
def isSpace (c : Char) : Bool :=
  if c.toNat ≤ 0xFF then
    (0x09 ≤ c.toNat && c.toNat ≤ 0x0D) || c.toNat == 0x20 || c.toNat == 0x85 || c.toNat == 0xA0
  else
    c.toNat == 0x1680 || (0x2000 ≤ c.toNat && c.toNat ≤ 0x200A) || c.toNat == 0x2028 ||
      c.toNat == 0x2029 || c.toNat == 0x202F || c.toNat == 0x205F || c.toNat == 0x3000

/-- `bytes.TrimSpace`: the text without the white space it begins and ends with. -/
def trimSpace (text : List Char) : List Char := (text.dropWhile isSpace).rdropWhile isSpace

theorem infix_trimSpace (text : List Char) : trimSpace text <:+: text :=
  (List.rdropWhile_prefix _ _).isInfix.trans (List.dropWhile_suffix _).isInfix

theorem trimSpace_newline (text : List Char) : trimSpace ('\n' :: text) = trimSpace text := by
  rw [trimSpace, List.dropWhile_cons_of_pos (by decide), trimSpace]

theorem trimSpace_trimSpace (text : List Char) : trimSpace (trimSpace text) = trimSpace text := by
  have front : ((text.dropWhile isSpace).rdropWhile isSpace).dropWhile isSpace =
      (text.dropWhile isSpace).rdropWhile isSpace := by
    rcases kept : (text.dropWhile isSpace).rdropWhile isSpace with _ | ⟨c, rest⟩
    · rfl
    · obtain ⟨tail, whole⟩ := kept ▸ List.rdropWhile_prefix isSpace (text.dropWhile isSpace)
      have first := List.head_dropWhile_not isSpace text (by simp [← whole])
      simp only [← whole, List.cons_append, List.head_cons] at first
      exact List.dropWhile_cons_of_neg (by simp [first])
  rw [trimSpace, trimSpace, front, List.rdropWhile_idempotent]

/-- `manifestList.String`: the documents, trimmed, joined with `"\n---\n"`. -/
def manifestListString (l : List (List Char)) : List Char :=
  (separator ++ ['\n']).intercalate (l.map trimSpace)

/-- `newManifestList`: the text read back and split at the separator. Reading the
`strings.Reader` or `bytes.Reader` the deployer passes does not fail. -/
def newManifestList (buf : List Char) : List (List Char) := bytesSplit buf

/-- **A rendered list reads back as its documents**, trimmed, each after the first behind the
newline that ends the separator, when no document holds the separator and none after the first
begins with `---`. -/
theorem newManifestList_manifestListString {doc : List Char} {docs : List (List Char)}
    (clean : ∀ m ∈ doc :: docs, ¬ separator <:+: trimSpace m)
    (unmarked : ∀ m ∈ docs, ¬ ['-', '-', '-'] <+: trimSpace m) :
    newManifestList (manifestListString (doc :: docs)) =
      trimSpace doc :: docs.map fun m => '\n' :: trimSpace m := by
  obtain ⟨first, later⟩ := List.forall_mem_cons.mp clean
  have behind : ∀ text ∈ docs.map trimSpace, ¬ separator <:+: '\n' :: text := by
    simp only [List.mem_map, forall_exists_index, and_imp, forall_apply_eq_imp_iff₂]
    exact fun m member => not_infix_newline (later m member) (unmarked m member)
  rw [newManifestList, manifestListString, List.map_cons, bytesSplit_intercalate first behind,
    List.map_map]
  rfl

example :
    (∀ m ∈ ["kind: A\n".toList, "  kind: B".toList], ¬ separator <:+: trimSpace m) ∧
      (∀ m ∈ ["  kind: B".toList], ¬ ['-', '-', '-'] <+: trimSpace m) ∧
      newManifestList (manifestListString ["kind: A\n".toList, "  kind: B".toList]) =
        ["kind: A".toList, "\nkind: B".toList] :=
  ⟨by decide, by decide, newManifestList_manifestListString (by decide) (by decide)⟩

/-- Documents joined with the separator and a newline, one of which after the first begins with
`---`, split into the documents before it, an empty part, the rest of the marked document, and
the documents after it, each after the first behind the newline. -/
theorem bytesSplit_intercalate_marked {rest : List Char} {after : List (List Char)}
    (restClean : ¬ separator <:+: rest) (afterClean : ∀ doc ∈ after, ¬ separator <:+: '\n' :: doc) :
    ∀ {first : List Char} {before : List (List Char)}, ¬ separator <:+: first →
      (∀ doc ∈ before, ¬ separator <:+: '\n' :: doc) →
      bytesSplit ((separator ++ ['\n']).intercalate
          (first :: (before ++ ('-' :: '-' :: '-' :: rest) :: after))) =
        first :: (before.map ('\n' :: ·) ++ [] :: rest :: after.map ('\n' :: ·))
  | first, [], clean, _ => by
      have behind : '\n' :: (separator ++ ['\n']).intercalate
          (('-' :: '-' :: '-' :: rest) :: after) =
            separator ++ (separator ++ ['\n']).intercalate (rest :: after) :=
        (intercalate_modifyHead _ ['\n'] (List.cons_ne_nil _ after)).symm.trans
          (intercalate_modifyHead _ separator (List.cons_ne_nil rest after))
      rw [List.nil_append, intercalate_cons_cons, List.append_assoc, List.append_assoc,
        bytesSplit_append clean (by simp [separator]), List.singleton_append, behind,
        bytesSplit_separator, bytesSplit_separator, bytesSplit_intercalate restClean afterClean]
      simp
  | first, doc :: docs, clean, later => by
      obtain ⟨here, others⟩ := List.forall_mem_cons.mp later
      have behind : '\n' :: (separator ++ ['\n']).intercalate
          (doc :: (docs ++ ('-' :: '-' :: '-' :: rest) :: after)) =
            (separator ++ ['\n']).intercalate
              (('\n' :: doc) :: (docs ++ ('-' :: '-' :: '-' :: rest) :: after)) :=
        (intercalate_modifyHead _ ['\n'] (List.cons_ne_nil _ _)).symm
      rw [List.cons_append, intercalate_cons_cons, List.append_assoc, List.append_assoc,
        bytesSplit_append clean (by simp [separator]), List.singleton_append, behind,
        bytesSplit_separator, bytesSplit_intercalate_marked restClean afterClean here others]
      simp

/-- **A document that begins with a YAML document marker** (`---`), at any position after the
first, is read back as an empty document followed by the rest of its text; the documents around
it are read back as they are when it is not there. -/
theorem marked_document_reread {doc marked rest : List Char} {before after : List (List Char)}
    (clean : ∀ m ∈ doc :: before ++ after, ¬ separator <:+: trimSpace m)
    (unmarked : ∀ m ∈ before ++ after, ¬ ['-', '-', '-'] <+: trimSpace m)
    (marker : trimSpace marked = '-' :: '-' :: '-' :: rest) (restClean : ¬ separator <:+: rest) :
    newManifestList (manifestListString (doc :: before ++ marked :: after)) =
      trimSpace doc :: before.map (fun m => '\n' :: trimSpace m) ++
        [] :: rest :: after.map (fun m => '\n' :: trimSpace m) := by
  obtain ⟨first, around⟩ := List.forall_mem_cons.mp clean
  have behind : ∀ m ∈ before ++ after, ¬ separator <:+: '\n' :: trimSpace m := fun m member =>
    not_infix_newline (around m member) (unmarked m member)
  have split := @bytesSplit_intercalate_marked rest (after.map trimSpace) restClean
    (by simpa using fun m member => behind m (List.mem_append_right before member))
    (trimSpace doc) (before.map trimSpace) first
    (by simpa using fun m member => behind m (List.mem_append_left after member))
  rw [← marker] at split
  simpa [newManifestList, manifestListString, List.map_map, Function.comp_def] using split

theorem marked_second_file_reread :
    (∀ m ∈ "kind: A".toList :: ["kind: B".toList] ++ ["kind: D".toList],
        ¬ separator <:+: trimSpace m) ∧
      (∀ m ∈ ["kind: B".toList] ++ ["kind: D".toList], ¬ ['-', '-', '-'] <+: trimSpace m) ∧
      trimSpace "---\nkind: C\n".toList = '-' :: '-' :: '-' :: "\nkind: C".toList ∧
      ¬ separator <:+: "\nkind: C".toList ∧
      newManifestList (manifestListString ("kind: A".toList :: ["kind: B".toList] ++
          "---\nkind: C\n".toList :: ["kind: D".toList])) =
        trimSpace "kind: A".toList :: ["kind: B".toList].map (fun m => '\n' :: trimSpace m) ++
          [] :: "\nkind: C".toList :: ["kind: D".toList].map (fun m => '\n' :: trimSpace m) :=
  ⟨by decide, by decide, by decide, by decide,
    marked_document_reread (by decide) (by decide) (by decide) (by decide)⟩

/-! ## Reading the manifests -/

/-- A loop of `readManifests`: the documents each name gives, in order. The first failure ends
the loop with its error, wrapped with the loop's message. -/
def readEach (message : String) (read : String → Except String (List (List Char))) :
    List String → Except String (List (List Char))
  | [] => pure []
  | name :: names => do
      let docs ← (read name).mapError (wrapError message)
      let rest ← readEach message read names
      pure (docs ++ rest)

/-- `readManifests`, from the files `manifestFiles` expands the manifest paths to (the glob
expansion is not in the sources), with `ioutil.ReadFile` and `readRemoteManifest` as
parameters: each file split at the separator, then each remote manifest whole. -/
def readManifests (manifestFiles : Except String (List String))
    (readFile readRemoteManifest : String → Except String (List Char))
    (remoteManifests : List String) : Except String (List (List Char)) := do
  let files ← manifestFiles.mapError (wrapError "expanding user manifest list")
  let manifests ← readEach "reading manifest" (fun manifest => bytesSplit <$> readFile manifest) files
  let remote ← readEach "get remote manifests"
    (fun m => (fun manifest => [manifest]) <$> readRemoteManifest m) remoteManifests
  pure (manifests ++ remote)

/-- Each document a loop of `readManifests` returns is one of the documents a name gave. -/
theorem mem_of_readEach {message : String} {read : String → Except String (List (List Char))} :
    ∀ {names : List String} {docs : List (List Char)}, readEach message read names = .ok docs →
      ∀ doc ∈ docs, ∃ name ∈ names, ∃ given, read name = .ok given ∧ doc ∈ given
  | [], _, read, doc, member => by cases read; simp at member
  | name :: names, docs, loop, doc, member => by
      obtain ⟨given, first, restRead⟩ := bind_eq_ok.mp loop
      obtain ⟨rest, later, joined⟩ := bind_eq_ok.mp restRead
      rw [pure_eq_ok] at joined
      subst joined
      rcases List.mem_append.mp member with here | there
      · exact ⟨name, List.mem_cons_self _ _, given, mapError_eq_ok.mp first, here⟩
      · obtain ⟨other, found, given', answered, inside⟩ := mem_of_readEach later doc there
        exact ⟨other, List.mem_cons_of_mem _ found, given', answered, inside⟩

/-- No document `readManifests` returns holds the separator, when no remote manifest does. -/
theorem readManifests_clean {manifestFiles : Except String (List String)}
    {readFile readRemoteManifest : String → Except String (List Char)}
    {remoteManifests : List String} {l : List (List Char)}
    (read : readManifests manifestFiles readFile readRemoteManifest remoteManifests = .ok l)
    (remoteClean : ∀ name text, readRemoteManifest name = .ok text → ¬ separator <:+: text) :
    ∀ doc ∈ l, ¬ separator <:+: doc := by
  obtain ⟨files, -, loops⟩ := bind_eq_ok.mp read
  obtain ⟨manifests, fromFiles, remoteLoop⟩ := bind_eq_ok.mp loops
  obtain ⟨remote, fromRemote, joined⟩ := bind_eq_ok.mp remoteLoop
  rw [pure_eq_ok] at joined
  subst joined
  intro doc member
  rcases List.mem_append.mp member with here | there
  · obtain ⟨_, -, given, answered, inside⟩ := mem_of_readEach fromFiles doc here
    obtain ⟨text, -, rfl⟩ := map_eq_ok.mp answered
    exact not_infix_of_mem_bytesSplit text doc inside
  · obtain ⟨name, -, given, answered, inside⟩ := mem_of_readEach fromRemote doc there
    obtain ⟨text, fetched, rfl⟩ := map_eq_ok.mp answered
    rw [List.mem_singleton.mp inside]
    exact remoteClean name text fetched

/-- **The deployer re-reads the documents it read.** The kubectl deployer's manifest builder
renders what `readManifests` read, and `applyManifests` splits that text again: it gets the same
documents, up to the white space around them, when no remote manifest holds the separator and no
document after the first begins with `---`. -/
theorem readManifests_reread {manifestFiles : Except String (List String)}
    {readFile readRemoteManifest : String → Except String (List Char)}
    {remoteManifests : List String} {l : List (List Char)}
    (read : readManifests manifestFiles readFile readRemoteManifest remoteManifests = .ok l)
    (remoteClean : ∀ name text, readRemoteManifest name = .ok text → ¬ separator <:+: text)
    (nonempty : l ≠ []) (unmarked : ∀ m ∈ l.tail, ¬ ['-', '-', '-'] <+: trimSpace m) :
    (newManifestList (manifestListString l)).map trimSpace = l.map trimSpace := by
  have clean := readManifests_clean read remoteClean
  obtain ⟨doc, docs, rfl⟩ := List.exists_cons_of_ne_nil nonempty
  rw [newManifestList_manifestListString
    (fun m member => fun found => clean m member (found.trans (infix_trimSpace m))) unmarked]
  simp [trimSpace_trimSpace, trimSpace_newline]

theorem one_file_reread :
    readManifests (.ok ["app.yaml"]) (fun _ => .ok "kind: A\n---\nkind: B\n".toList)
        (fun _ => .error "not found") [] = .ok ["kind: A".toList, "\nkind: B\n".toList] ∧
      (newManifestList (manifestListString ["kind: A".toList, "\nkind: B\n".toList])).map
          trimSpace = ["kind: A".toList, "\nkind: B\n".toList].map trimSpace :=
  have read : readManifests (.ok ["app.yaml"]) (fun _ => .ok "kind: A\n---\nkind: B\n".toList)
      (fun _ => .error "not found") [] = .ok ["kind: A".toList, "\nkind: B\n".toList] := rfl
  ⟨read, readManifests_reread read (fun _ _ failed => by cases failed) (by decide) (by decide)⟩

end Skaffold.Deploy

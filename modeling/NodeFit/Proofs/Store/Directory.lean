import NodeFit.Command
import NodeFit.Proofs.Path

/-!
# NodeFit.Proofs.Store.Directory

Keys of files stay in their directory.

The keys that are refused are those that name nothing, start at the root or have two dots
between slashes (`escapes_iff`); for these nothing is read.  Any other key is read at one path
(`resolve_eq_ok`), whose normal form is that of the directory with names added, and in a tree
of files what is read lies below the directory (`fetch_ofTree_below`).  The list of deployments
of a namespace lies below the directory of all such lists (`exists_names_deploymentsKey`).

What is read is a parameter, so that "nothing is read" can be said: a refused key has the same
answer whatever the files are (`Refused`), and any other depends on the file at one path only
(`ReadAt`).
-/

namespace NodeFit.DirectoryStore

open FileTree (parts)
open NodeFit.Path (normalize)

/-! ## Keys that are refused -/

/-- A key names nothing, starts at the root or goes up. -/
def LeadsOut (key : String) : Prop :=
  key = "" ∨ key.toList.head? = some '/' ∨ ".." ∈ parts key

instance (key : String) : Decidable (LeadsOut key) :=
  inferInstanceAs (Decidable (_ ∨ _ ∨ _))

theorem isAbsolute_of_not_leadsOut {key : String} (h : ¬LeadsOut key) :
    Path.isAbsolute key = false := by
  rw [Bool.eq_false_iff, ne_eq, Path.isAbsolute_iff]
  exact fun hroot => h (.inr (.inl hroot))

theorem not_mem_parts_of_not_leadsOut {key : String} (h : ¬LeadsOut key) : ".." ∉ parts key :=
  fun hup => h (.inr (.inr hup))

/-- A part goes up if it is two dots. -/
theorem component?_leaves_iff (part : String) :
    (∃ c, Path.component? part = some c ∧ c.descends = false) ↔ part = ".." := by
  by_cases hup : part = ".."
  · subst hup
    exact iff_of_true ⟨.up, rfl, rfl⟩ rfl
  · refine iff_of_false (fun ⟨c, hc, hdescends⟩ => ?_) hup
    rw [Path.component?] at hc
    split at hc
    · contradiction
    · simp [hup] at hc
      simp [← hc, Path.Component.descends] at hdescends

/-- The start of a path leads elsewhere if it is a slash. -/
theorem leading_leaves_iff (path : String) :
    (∃ c ∈ Path.leading path, c.descends = false) ↔ Path.isAbsolute path = true := by
  rw [Path.leading]
  by_cases habsolute : Path.isAbsolute path = true
  · simp [habsolute, Path.Component.descends]
  · rw [if_neg habsolute]
    split <;> simp [habsolute, Path.Component.descends]

/-- **The keys that are refused**, by their components and by their text. -/
theorem escapes_iff (key : String) : escapes key = true ↔ LeadsOut key := by
  have hany : ((Path.components key).any fun c => !c.descends) = true ↔
      Path.isAbsolute key = true ∨ ".." ∈ parts key := by
    rw [Path.components, List.any_append, Bool.or_eq_true]
    refine or_congr ?_ ?_
    · rw [← leading_leaves_iff]
      simp
    · simp only [List.any_eq_true, List.mem_filterMap, Bool.not_eq_true']
      constructor
      · rintro ⟨c, ⟨part, hpart, hc⟩, hdescends⟩
        rwa [← (component?_leaves_iff part).1 ⟨c, hc, hdescends⟩]
      · exact fun hup => ⟨.up, ⟨"..", hup, rfl⟩, rfl⟩
  rw [escapes, Bool.or_eq_true, hany, Path.isAbsolute_iff, LeadsOut, String.isEmpty_iff,
    or_comm]

/-! ## What is read -/

/-- A key that leads out has no path. -/
theorem resolve_eq_error {key : String} (h : LeadsOut key) (root : String) :
    resolve root key = .error ⟨key, .outside⟩ := by
  rw [resolve, if_pos ((escapes_iff key).2 h)]

/-- Any other key has the path that is seen from the directory. -/
theorem resolve_eq_ok {key : String} (h : ¬LeadsOut key) (root : String) :
    resolve root key = .ok (Path.join root key) := by
  rw [resolve, if_neg fun hescapes => h ((escapes_iff key).1 hescapes)]

variable {read : String → Except FileError Bytes}

/-- No file is outside. -/
theorem fetched_ne_outside (key path : String) (answer : Except FileError Bytes) :
    fetched key path answer ≠ .error ⟨key, .outside⟩ := by
  unfold fetched
  split <;> simp

/-- A key with a path is read there. -/
theorem fetch_of_resolve {root key path : String} (h : resolve root key = .ok path) :
    fetch read root key = fetched key path (read path) := by
  rw [fetch, h]
  rfl

/-- A fetch refuses the keys that lead out, and no others. -/
theorem fetch_eq_outside_iff (root key : String) :
    fetch read root key = .error ⟨key, .outside⟩ ↔ LeadsOut key := by
  constructor
  · intro hfetch
    by_cases h : LeadsOut key
    · exact h
    · rw [fetch_of_resolve (resolve_eq_ok h root)] at hfetch
      exact absurd hfetch (fetched_ne_outside key _ _)
  · intro h
    rw [fetch, resolve_eq_error h root]
    rfl

/-- What is fetched is what was read. -/
theorem read_of_fetched {key path : String} {answer : Except FileError Bytes} {bytes : Bytes}
    (h : fetched key path answer = .ok bytes) : answer = .ok bytes := by
  unfold fetched at h
  split at h
  · rw [Except.ok.inj h]
  · contradiction
  · contradiction

/-- A path below a directory starts where the directory does. -/
theorem startOf_join {key : String} (h : Path.isAbsolute key = false) (cwd : List String)
    (root : String) : FileTree.startOf cwd (Path.join root key) = FileTree.startOf cwd root := by
  have hroot := Path.isAbsolute_join h root
  rw [Path.isAbsolute, Path.isAbsolute] at hroot
  rw [FileTree.startOf, FileTree.startOf, hroot]

/-- **What is read from a tree of files lies below the directory.** -/
theorem fetch_ofTree_below {t : FileTree} {cwd : List String} {root key : String} {bytes : Bytes}
    (h : (ofTree t cwd root).fetch key = .ok bytes) :
    ∃ base found, t.walk (FileTree.startOf cwd root) (parts root) = .ok base ∧
      base <+: found ∧ t.node? found = some (.file bytes) := by
  change fetch (t.read cwd) root key = .ok bytes at h
  have hkey : ¬LeadsOut key := by
    intro hkey
    rw [(fetch_eq_outside_iff root key).2 hkey] at h
    contradiction
  have habsolute := isAbsolute_of_not_leadsOut hkey
  rw [fetch_of_resolve (resolve_eq_ok hkey root)] at h
  obtain ⟨found, hfind, hfile⟩ := FileTree.exists_file_of_read (read_of_fetched h)
  have hwalk := FileTree.walk_of_find hfind
  rw [startOf_join habsolute] at hwalk
  obtain ⟨base, hbase, hbelow⟩ :=
    FileTree.walk_parts_join habsolute (not_mem_parts_of_not_leadsOut hkey) hwalk
  exact ⟨base, found, hbase, hbelow, hfile⟩

/-! ## Deployments -/

/-- **The list of deployments of a namespace** lies below the directory of such lists. -/
theorem exists_names_deploymentsKey (ns : String) :
    ∃ names ≠ [], Path.names (deploymentsKey ns) =
      "cluster-resources" :: "deployments" :: names := by
  have hdirectory : "cluster-resources/deployments/" =
      "cluster-resources" ++ "/" ++ ("deployments" ++ "/") := by decide
  have hkey : deploymentsKey ns =
      "cluster-resources" ++ "/" ++ ("deployments" ++ "/" ++ (ns ++ ".json")) := by
    refine (congrArg (· ++ ns ++ ".json") hdirectory).trans ?_
    simp only [String.append_assoc]
  have hparts : parts (deploymentsKey ns) =
      "cluster-resources" :: "deployments" :: parts (ns ++ ".json") := by
    rw [hkey, Path.parts_append_slash, Path.parts_append_slash]
    rfl
  -- the part with the last letter of the key is a name
  have hletter : 'n' ∈ (ns ++ ".json").toList := by simp
  obtain ⟨part, hpart, hn⟩ := Path.exists_mem_parts (by decide) hletter
  have hname : part ∈ (parts (ns ++ ".json")).filter fun part => !Path.isIdle part := by
    refine List.mem_filter.2 ⟨hpart, ?_⟩
    have hempty : part ≠ "" := by
      rintro rfl
      simp at hn
    have hdot : part ≠ "." := by
      rintro rfl
      simp at hn
    simp [Path.isIdle, hempty, hdot]
  refine ⟨_, List.ne_nil_of_mem hname, ?_⟩
  rw [Path.names, hparts]
  rfl

/-! ## Any key -/

/-- The key is refused, and nothing is read. -/
structure Refused (root key : String) : Prop where
  fetch : ∀ read, fetch read root key = .error ⟨key, .outside⟩
  host : ∀ (m : Type → Type) [Monad m] (host : Host m),
    host.fetch root key = pure (.error ⟨key, .outside⟩)

/-- The key is read at a path, and nothing else is read. -/
structure ReadAt (root key path : String) : Prop where
  fetch : ∀ read, fetch read root key = fetched key path (read path)
  host : ∀ (m : Type → Type) [Monad m] (host : Host m),
    host.fetch root key = do return fetched key path (← host.read path)

/-- A key that leads out is refused, whatever the files are. -/
theorem refused_of_leadsOut {key : String} (h : LeadsOut key) (root : String) :
    Refused root key where
  fetch _ := (fetch_eq_outside_iff root key).2 h
  host m _ host := by rw [Host.fetch, resolve_eq_error h root]

/-- Any other key is read at its path, whatever the other files are. -/
theorem readAt_of_not_leadsOut {key : String} (h : ¬LeadsOut key) (root : String) :
    ReadAt root key (Path.join root key) where
  fetch _ := fetch_of_resolve (resolve_eq_ok h root)
  host m _ host := by rw [Host.fetch, resolve_eq_ok h root]

/-- The path of such a key leads down from the directory by the names in the key. -/
theorem normalize_of_not_leadsOut {key : String} (h : ¬LeadsOut key) (root : String) :
    normalize (Path.join root key) = (normalize root).down (Path.names key) :=
  Path.normalize_join (isAbsolute_of_not_leadsOut h) (not_mem_parts_of_not_leadsOut h) root

/-- **A key never leaves its directory.**  It is refused, without reading anything, exactly if
it is empty, starts with a slash or has two dots between slashes.  Any other key is read at the
directory followed by the key, whose normal form is that of the directory and then the names in
the key.  So the list of deployments of any namespace is refused or lies below the directory of
such lists. -/
theorem fetch_confined (root key : String) :
    (∀ read, fetch read root key = .error ⟨key, .outside⟩ ↔ LeadsOut key) ∧
    (LeadsOut key → Refused root key) ∧
    (¬LeadsOut key → ∃ slash ∈ ["", "/"], ReadAt root key (root ++ slash ++ key) ∧
      normalize (root ++ slash ++ key) = (normalize root).down (Path.names key)) ∧
    ∀ ns, Refused root (deploymentsKey ns) ∨
      ∃ path, ReadAt root (deploymentsKey ns) path ∧ ∃ names ≠ [],
        normalize path = (normalize root).down ("cluster-resources" :: "deployments" :: names) := by
  refine ⟨fun read => fetch_eq_outside_iff root key, fun h => refused_of_leadsOut h root, ?_, ?_⟩
  · intro h
    obtain ⟨slash, hslash, hjoin⟩ := Path.exists_join_eq (isAbsolute_of_not_leadsOut h) root
    exact ⟨slash, hslash, hjoin ▸ readAt_of_not_leadsOut h root,
      hjoin ▸ normalize_of_not_leadsOut h root⟩
  · intro ns
    by_cases h : LeadsOut (deploymentsKey ns)
    · exact .inl (refused_of_leadsOut h root)
    · obtain ⟨names, hne, hnames⟩ := exists_names_deploymentsKey ns
      refine .inr ⟨_, readAt_of_not_leadsOut h root, names, hne, ?_⟩
      rw [normalize_of_not_leadsOut h root, hnames]

/-- A key with dots and empty parts, and a namespace that would lead out. -/
theorem fetch_confined_dots :
    ¬LeadsOut "./logs//..x" ∧ LeadsOut (deploymentsKey "a/../../..") ∧
    ∃ slash ∈ ["", "/"], ReadAt "bundle" "./logs//..x" ("bundle" ++ slash ++ "./logs//..x") ∧
      normalize ("bundle" ++ slash ++ "./logs//..x") = ⟨false, 0, ["bundle", "logs", "..x"]⟩ := by
  have hstays : ¬LeadsOut "./logs//..x" := by decide
  obtain ⟨-, -, hread, -⟩ := fetch_confined "bundle" "./logs//..x"
  exact ⟨hstays, by decide, hread hstays⟩

end NodeFit.DirectoryStore

import NodeFit.Path
import NodeFit.Proofs.Except

/-!
# NodeFit.Proofs.Path

Where paths lead.

By its components alone a path has a normal form (`normalize`): it starts at the root or not,
goes up some directories, and then down by names.  A path that does not start at the root and
has no two dots in it only goes down (`normalize_join`).

In a tree of files without links, where every part is looked up, such a path leads to a place
below the one that it is seen from (`walk_parts_join`).

The two are separate statements because a walk can do less than a normal form says: it ends
where a part is missing or a file stands in the way, also in front of two dots that would take
the part back.  For paths that only go down they agree on what matters, which is that what is
found lies below (`prefix_of_walk`).
-/

namespace NodeFit

namespace Path

open FileTree (parts)

/-! ## Parts -/

/-- The parts of a path are what stands between its slashes. -/
theorem parts_eq (path : String) : parts path = (path.toList.splitOn '/').map String.ofList := rfl

@[simp] theorem parts_empty : parts "" = [""] := rfl

/-- A slash divides a path. -/
theorem parts_append_slash (path rest : String) :
    parts (path ++ "/" ++ rest) = parts path ++ parts rest := by
  have hslash : (path ++ "/" ++ rest).toList = path.toList ++ '/' :: rest.toList := by simp
  have hsplit : (path.toList ++ '/' :: rest.toList).splitOn '/' =
      path.toList.splitOn '/' ++ rest.toList.splitOn '/' :=
    List.splitOnP_append_cons path.toList rest.toList rfl
  rw [parts_eq, hslash, hsplit, List.map_append, ← parts_eq, ← parts_eq]

/-- A character that is no slash is in one of the parts. -/
theorem exists_mem_splitOn {cs : List Char} {c : Char} (hne : c ≠ '/') (h : c ∈ cs) :
    ∃ part ∈ cs.splitOn '/', c ∈ part := by
  induction cs with
  | nil => contradiction
  | cons first rest ih =>
      rw [List.splitOn_cons_eq_if_modifyHead]
      split
      · next hfirst =>
        have hrest : c ∈ rest := by
          rcases List.mem_cons.1 h with rfl | hrest
          · exact absurd (eq_of_beq hfirst) hne
          · exact hrest
        obtain ⟨part, hpart, hc⟩ := ih hrest
        exact ⟨part, List.mem_cons_of_mem _ hpart, hc⟩
      · cases hpieces : rest.splitOn '/' with
        | nil => exact absurd hpieces (List.splitOn_ne_nil '/' rest)
        | cons piece pieces =>
            rw [hpieces] at ih
            rw [List.modifyHead_cons]
            rcases List.mem_cons.1 h with rfl | hrest
            · exact ⟨_, List.mem_cons_self, List.mem_cons_self⟩
            · obtain ⟨part, hpart, hc⟩ := ih hrest
              rcases List.mem_cons.1 hpart with rfl | hpart
              · exact ⟨_, List.mem_cons_self, List.mem_cons_of_mem _ hc⟩
              · exact ⟨part, List.mem_cons_of_mem _ hpart, hc⟩

/-- A character that is no slash is in one of the parts. -/
theorem exists_mem_parts {path : String} {c : Char} (hne : c ≠ '/') (h : c ∈ path.toList) :
    ∃ part ∈ parts path, c ∈ part.toList := by
  obtain ⟨cs, hcs, hc⟩ := exists_mem_splitOn hne h
  exact ⟨String.ofList cs, List.mem_map_of_mem hcs, by rwa [String.toList_ofList]⟩

/-! ## Paths seen from others -/

/-- A path starts at the root when its first character is a slash. -/
theorem isAbsolute_iff {path : String} : isAbsolute path = true ↔ path.toList.head? = some '/' :=
  beq_iff_eq

/-- A path that does not start at the root follows what it is seen from, behind a slash. -/
theorem exists_join_eq {path : String} (h : isAbsolute path = false) (base : String) :
    ∃ slash ∈ ["", "/"], join base path = base ++ slash ++ path := by
  rw [join, h]
  by_cases hbase : (base.toList.isEmpty || base.toList.getLast? == some '/') = true
  · exact ⟨"", by simp, by simp [hbase]⟩
  · exact ⟨"/", by simp, by simp [hbase]⟩

/-- Its parts follow those of what it is seen from, but for the empty one behind a slash at
the end. -/
theorem exists_parts_join {path : String} (h : isAbsolute path = false) (base : String) :
    ∃ front, (parts base = front ∨ parts base = front ++ [""]) ∧
      parts (join base path) = front ++ parts path := by
  rw [join, h]
  by_cases hempty : base = ""
  · subst hempty
    exact ⟨[], .inr rfl, by simp⟩
  · have hisEmpty : base.toList.isEmpty = false := by simpa using hempty
    by_cases hlast : base.toList.getLast? = some '/'
    · obtain ⟨cs, hcs⟩ := List.getLast?_eq_some_iff.1 hlast
      obtain rfl : base = String.ofList cs ++ "/" := by
        apply String.toList_injective
        simpa using hcs
      refine ⟨parts (String.ofList cs), .inr ?_, ?_⟩
      · simpa using parts_append_slash (String.ofList cs) ""
      · simpa [hlast] using parts_append_slash (String.ofList cs) path
    · refine ⟨parts base, .inl rfl, ?_⟩
      simpa [hisEmpty, hlast] using parts_append_slash base path

/-- A path that does not start at the root is seen from the root if its base is. -/
theorem isAbsolute_join {path : String} (h : isAbsolute path = false) (base : String) :
    isAbsolute (join base path) = isAbsolute base := by
  obtain ⟨slash, hslash, hjoin⟩ := exists_join_eq h base
  by_cases hempty : base = ""
  · subst hempty
    simp [join, h, show isAbsolute "" = false from rfl]
  · have hne : base.toList ≠ [] := fun hnil => hempty (String.toList_eq_nil_iff.1 hnil)
    obtain ⟨first, rest, hbase⟩ := List.exists_cons_of_ne_nil hne
    simp [hjoin, isAbsolute, hbase]

/-! ## Normal forms -/

/-- Where a path leads by its components alone. -/
structure NormalForm where
  /-- Whether it starts at the root. -/
  absolute : Bool
  /-- How many directories it goes up at first. -/
  ups : Nat
  /-- The names by which it then goes down. -/
  names : List String
deriving DecidableEq, Repr

namespace NormalForm

/-- Further down, by names. -/
def down (n : NormalForm) (names : List String) : NormalForm :=
  { n with names := n.names ++ names }

/-- One step.  Two dots take the last name back; without names they go up, but not from the
root. -/
def step (n : NormalForm) : Component → NormalForm
  | .root => ⟨true, 0, []⟩
  | .here => n
  | .up =>
    if n.names ≠ [] then { n with names := n.names.dropLast }
    else if n.absolute then n
    else { n with ups := n.ups + 1 }
  | .name text => n.down [text]

@[simp] theorem down_nil (n : NormalForm) : n.down [] = n := by
  rw [down, List.append_nil]

theorem down_down (n : NormalForm) (names names' : List String) :
    (n.down names).down names' = n.down (names ++ names') := by
  simp [down]

/-- Names lead down. -/
theorem foldl_step_names (n : NormalForm) (names : List String) :
    (names.map Component.name).foldl step n = n.down names := by
  induction names generalizing n with
  | nil => simp
  | cons name rest ih => rw [List.map_cons, List.foldl_cons, ih, step, down_down]; rfl

end NormalForm

/-- The normal form of a path. -/
def normalize (path : String) : NormalForm := (components path).foldl NormalForm.step ⟨false, 0, []⟩

/-- The normal form follows the components of the parts, one step each. -/
theorem normalize_eq (path : String) :
    normalize path =
      ((parts path).filterMap component?).foldl NormalForm.step ⟨isAbsolute path, 0, []⟩ := by
  have hleading : (leading path).foldl NormalForm.step ⟨false, 0, []⟩ =
      ⟨isAbsolute path, 0, []⟩ := by
    rw [leading]
    by_cases habsolute : isAbsolute path = true
    · rw [if_pos habsolute, habsolute]
      rfl
    · rw [if_neg habsolute, Bool.eq_false_iff.2 habsolute]
      split <;> rfl
  rw [normalize, components, List.foldl_append, hleading]

/-! ## Paths that go down -/

/-- The parts of a path that name something below. -/
def names (path : String) : List String :=
  (parts path).filter fun part => !isIdle part

/-- Without two dots, the components of a path are names. -/
theorem filterMap_component? {segments : List String} (h : ".." ∉ segments) :
    segments.filterMap component? =
      (segments.filter fun part => !isIdle part).map Component.name := by
  induction segments with
  | nil => rfl
  | cons part rest ih =>
      obtain ⟨hpart, hrest⟩ := not_or.1 (mt List.mem_cons.2 h)
      rw [List.filterMap_cons, List.filter_cons, ih hrest, component?]
      by_cases hidle : isIdle part = true
      · simp [hidle]
      · simp [hidle, Ne.symm hpart]

/-- **A path that does not go up leads down** from what it is seen from. -/
theorem normalize_join {path : String} (h : isAbsolute path = false)
    (hup : ".." ∉ parts path) (base : String) :
    normalize (join base path) = (normalize base).down (names path) := by
  obtain ⟨front, hbase, hjoin⟩ := exists_parts_join h base
  have hfront : (parts base).filterMap component? = front.filterMap component? := by
    rcases hbase with hbase | hbase
    · rw [hbase]
    · simp [hbase, component?, isIdle]
  rw [normalize_eq, normalize_eq, isAbsolute_join h, hjoin, hfront, List.filterMap_append,
    List.foldl_append, filterMap_component? hup, NormalForm.foldl_step_names]
  rfl

end Path

/-! ## Walks through a tree -/

namespace FileTree

variable {t : FileTree}

/-- A walk along two lists of parts goes along the first and then along the second. -/
theorem walk_append (place : List String) (front back : List String) :
    t.walk place (front ++ back) = t.walk place front >>= fun base => t.walk base back := by
  induction front generalizing place with
  | nil => rfl
  | cons part rest ih =>
      rw [List.cons_append, walk, walk, bind_assoc]
      exact congrArg _ (funext fun place => ih place)

/-- A part other than two dots leads down, or nowhere. -/
theorem prefix_of_step {place next : List String} {part : String} (hup : part ≠ "..")
    (h : t.step place part = .ok next) : place <+: next := by
  unfold step at h
  split at h
  · contradiction
  · split at h
    · obtain rfl : place = next := Except.ok.inj h
      exact List.prefix_refl place
    · split at h
      · next hdots => exact absurd (eq_of_beq hdots) hup
      · split at h
        · contradiction
        · split at h
          · rw [← Except.ok.inj h]
            exact List.prefix_append place [part]
          · contradiction

/-- **A walk without two dots leads down.** -/
theorem prefix_of_walk {place found : List String} {segments : List String}
    (hup : ".." ∉ segments) (h : t.walk place segments = .ok found) : place <+: found := by
  induction segments generalizing place with
  | nil =>
      obtain rfl : place = found := Except.ok.inj h
      exact List.prefix_refl place
  | cons part rest ih =>
      obtain ⟨hpart, hrest⟩ := not_or.1 (mt List.mem_cons.2 hup)
      rw [walk] at h
      cases hstep : t.step place part with
      | error e => rw [hstep] at h; contradiction
      | ok next =>
          rw [hstep] at h
          exact (prefix_of_step (Ne.symm hpart) hstep).trans (ih hrest h)

/-- A walk that goes on from a place may stay there first. -/
theorem walk_empty_of_walk {place found : List String} {segments : List String}
    (hne : segments ≠ []) (h : t.walk place segments = .ok found) :
    t.walk place [""] = .ok place := by
  cases segments with
  | nil => contradiction
  | cons part rest =>
      have hdirectory : t.node? place = some .directory := by
        refine Decidable.byContradiction fun hnode => ?_
        have hstep : t.step place part = .error .notADirectory := by simp [step, hnode]
        rw [walk, hstep] at h
        contradiction
      simp [walk, step, hdirectory]
      rfl

/-- **A path that does not go up leads to a place below** the one that it is seen from. -/
theorem walk_parts_join {path base : String} {start found : List String}
    (habsolute : Path.isAbsolute path = false) (hup : ".." ∉ parts path)
    (h : t.walk start (parts (Path.join base path)) = .ok found) :
    ∃ place, t.walk start (parts base) = .ok place ∧ place <+: found := by
  obtain ⟨front, hbase, hjoin⟩ := Path.exists_parts_join habsolute base
  rw [hjoin, walk_append] at h
  cases hfront : t.walk start front with
  | error e => rw [hfront] at h; contradiction
  | ok place =>
      rw [hfront] at h
      refine ⟨place, ?_, prefix_of_walk hup h⟩
      have hne : parts path ≠ [] := by
        simp [Path.parts_eq]
      rcases hbase with hbase | hbase
      · rw [hbase, hfront]
      · rw [hbase, walk_append, hfront]
        exact walk_empty_of_walk hne h

/-! ## Files -/

/-- What is found under a path is where a walk along its parts leads. -/
theorem walk_of_find {cwd place : List String} {path : String} (h : t.find cwd path = .ok place) :
    t.walk (startOf cwd path) (parts path) = .ok place := by
  rw [find, bind_eq_ok_iff] at h
  obtain ⟨_, -, hwalk⟩ := h
  exact hwalk

/-- What is read is a file at the place that the path leads to. -/
theorem exists_file_of_read {cwd : List String} {path : String} {bytes : Bytes}
    (h : t.read cwd path = .ok bytes) :
    ∃ place, t.find cwd path = .ok place ∧ t.node? place = some (.file bytes) := by
  rw [read, bind_eq_ok_iff] at h
  obtain ⟨place, hfind, hfile⟩ := h
  refine ⟨place, hfind, ?_⟩
  split at hfile
  · next hnode => rw [hnode, Except.ok.inj hfile]
  · contradiction
  · contradiction

end FileTree
end NodeFit

import Mathlib.Data.List.Dedup
import Mathlib.Data.List.Induction
import NodeFit.Analysis
import NodeFit.Proofs.Dictionary
import NodeFit.Store.Memory

/-!
# NodeFit.Proofs.Store.History

What a memory store answers after any history of operations.

Each layer of the store holds what was last written to it (`Remembers`): one operation keeps
that (`Remembers.step`), so a whole history does (`remembers_after`).  A fetch is then answered
by the history alone, the protected layer first (`fetch_eq_iff`).

Most operations do not matter to a key.  Histories that agree on the operations of the key
answer it alike (`fetch_after_filter`), and a key that is protected somewhere in a history may
be collected anywhere in it (`toStore_after_insert`).

Histories are lists with the latest operation at the end, and the induction adds one there
(`after_concat`).  The answers of the fetches on the way are those of the histories before
them (`perform_getElem?`), so that one statement about the store that a history leaves speaks of
all of them.
-/

namespace NodeFit

/-! ## Operations -/

/-- An operation on a memory store. -/
inductive StoreOperation where
  /-- Collects a file. -/
  | insert (key : String) (bytes : Bytes)
  /-- Adds a file that shadows collected ones. -/
  | protect (key : String) (bytes : Bytes)
  /-- Asks for the file of a key. -/
  | fetch (key : String)
deriving DecidableEq, Repr

namespace StoreOperation

/-- The key that an operation is about. -/
def key : StoreOperation → String
  | .insert key _ => key
  | .protect key _ => key
  | .fetch key => key

/-- Whether an operation only asks. -/
def asks : StoreOperation → Bool
  | .fetch _ => true
  | _ => false

/-- The key that a file is collected under. -/
def insertedKey? : StoreOperation → Option String
  | .insert key _ => some key
  | _ => none

end StoreOperation

namespace MemoryStore

/-- The store after an operation. -/
def apply (s : MemoryStore) : StoreOperation → MemoryStore
  | .insert key bytes => s.insert key bytes
  | .protect key bytes => s.protect key bytes
  | .fetch _ => s

/-- What an operation answers, if it asks for a file. -/
def answer? (s : MemoryStore) : StoreOperation → Option (Except FetchError Bytes)
  | .fetch key => some (s.fetch key)
  | _ => none

/-- Carries out operations in order. -/
def perform (s : MemoryStore) :
    List StoreOperation → MemoryStore × List (Option (Except FetchError Bytes))
  | [] => (s, [])
  | operation :: rest =>
    let (final, answers) := (s.apply operation).perform rest
    (final, s.answer? operation :: answers)

/-- The store that a history leaves, when nothing was there before. -/
def after (history : List StoreOperation) : MemoryStore := (empty.perform history).1

/-- The store after a history is that of its operations one after the other. -/
theorem perform_fst (s : MemoryStore) (history : List StoreOperation) :
    (s.perform history).1 = history.foldl apply s := by
  induction history generalizing s with
  | nil => rfl
  | cons operation rest ih => rw [perform, List.foldl_cons, ← ih]

theorem length_perform (s : MemoryStore) (history : List StoreOperation) :
    (s.perform history).2.length = history.length := by
  induction history generalizing s with
  | nil => rfl
  | cons operation rest ih => rw [perform, List.length_cons, List.length_cons, ← ih]

/-- An operation is answered by the store that the operations before it leave. -/
theorem perform_getElem? (s : MemoryStore) (history : List StoreOperation) (i : Nat) :
    (s.perform history).2[i]? =
      history[i]?.map fun operation => (s.perform (history.take i)).1.answer? operation := by
  induction history generalizing s i with
  | nil => simp [perform]
  | cons operation rest ih =>
      cases i with
      | zero => simp [perform]
      | succ i =>
          rw [perform, List.getElem?_cons_succ, List.getElem?_cons_succ, List.take_succ_cons,
            perform, ih]

theorem after_eq_foldl (history : List StoreOperation) : after history = history.foldl apply empty :=
  perform_fst empty history

/-- The latest operation is applied to the store that the others leave. -/
theorem after_concat (history : List StoreOperation) (operation : StoreOperation) :
    after (history ++ [operation]) = (after history).apply operation := by
  simp [after_eq_foldl]

/-- A store is the same without the fetches of its history. -/
theorem after_filter_not_asks (history : List StoreOperation) :
    after (history.filter fun operation => !operation.asks) = after history := by
  have hskip (s : MemoryStore) : ∀ operation : StoreOperation,
      (if (!operation.asks) = true then s.apply operation else s) = s.apply operation
    | .insert _ _ | .protect _ _ | .fetch _ => rfl
  rw [after_eq_foldl, after_eq_foldl, List.foldl_filter]
  congr 1
  funext s operation
  exact hskip s operation

end MemoryStore

/-! ## Last writes -/

/-- The last operation of a kind has these bytes. -/
def LastWrites (write : Bytes → StoreOperation) (history : List StoreOperation)
    (bytes : Bytes) : Prop :=
  ∃ front back, history = front ++ write bytes :: back ∧ ∀ other, write other ∉ back

section LastWrites

variable {write : Bytes → StoreOperation} {history : List StoreOperation} {bytes : Bytes}

theorem LastWrites.mem (h : LastWrites write history bytes) : write bytes ∈ history := by
  obtain ⟨front, back, rfl, -⟩ := h
  simp

/-- What is last written is written by the latest operation, or by one before it if that is of
another kind. -/
theorem lastWrites_concat_iff {operation : StoreOperation} :
    LastWrites write (history ++ [operation]) bytes ↔
      operation = write bytes ∨
        (∀ other, operation ≠ write other) ∧ LastWrites write history bytes := by
  constructor
  · rintro ⟨front, back, heq, hback⟩
    rcases List.eq_nil_or_concat back with rfl | ⟨middle, last, rfl⟩
    · left
      exact (List.append_inj' heq rfl).2 |> List.head_eq_of_cons_eq
    · right
      have hsplit : history ++ [operation] = (front ++ write bytes :: middle) ++ [last] := by
        simpa using heq
      obtain ⟨hhistory, hlast⟩ := List.append_inj' hsplit rfl
      obtain rfl : operation = last := List.head_eq_of_cons_eq hlast
      refine ⟨fun other hother => hback other ?_, front, middle, hhistory, fun other hmem => ?_⟩
      · simp [hother]
      · exact hback other (by simp [hmem])
  · rintro (rfl | ⟨hother, front, back, rfl, hback⟩)
    · exact ⟨history, [], by simp, by simp⟩
    · refine ⟨front, back ++ [operation], by simp, fun other hmem => ?_⟩
      rcases List.mem_append.1 hmem with hmem | hmem
      · exact hback other hmem
      · exact hother other (List.mem_singleton.1 hmem).symm

/-- What was written at all was written by a last operation. -/
theorem exists_lastWrites_iff :
    (∃ bytes, LastWrites write history bytes) ↔ ∃ bytes, write bytes ∈ history := by
  refine ⟨fun ⟨bytes, h⟩ => ⟨bytes, h.mem⟩, ?_⟩
  induction history using List.reverseRecOn with
  | nil => simp
  | append_singleton front operation ih =>
      rintro ⟨bytes, hmem⟩
      simp only [lastWrites_concat_iff]
      by_cases hlast : ∃ other, operation = write other
      · obtain ⟨other, hother⟩ := hlast
        exact ⟨other, .inl hother⟩
      · have hne : ∀ other, operation ≠ write other := fun other h => hlast ⟨other, h⟩
        have hfront : write bytes ∈ front := by
          rcases List.mem_append.1 hmem with hmem | hmem
          · exact hmem
          · exact absurd (List.mem_singleton.1 hmem).symm (hne bytes)
        obtain ⟨last, h⟩ := ih ⟨bytes, hfront⟩
        exact ⟨last, .inr ⟨hne, h⟩⟩

/-- Operations of other kinds do not count. -/
theorem lastWrites_filter_iff {p : StoreOperation → Bool} (hp : ∀ other, p (write other) = true) :
    LastWrites write (history.filter p) bytes ↔ LastWrites write history bytes := by
  induction history using List.reverseRecOn with
  | nil => rfl
  | append_singleton front operation ih =>
      rw [List.filter_append, lastWrites_concat_iff]
      by_cases hoperation : p operation = true
      · rw [List.filter_cons_of_pos hoperation, List.filter_nil, lastWrites_concat_iff, ih]
      · have hne : ∀ other, operation ≠ write other := fun other h => hoperation (h ▸ hp other)
        rw [List.filter_cons_of_neg hoperation, List.filter_nil, List.append_nil, ih,
          or_iff_right (hne bytes), and_iff_right hne]

end LastWrites

/-! ## Answers of a history -/

/-- What a history lets a fetch of the key answer: the last protected file if there is any,
else the last collected one, else that there is none. -/
inductive Answers (history : List StoreOperation) (key : String) :
    Except FetchError Bytes → Prop
  | shadowed {bytes : Bytes} (h : LastWrites (.protect key) history bytes) :
      Answers history key (.ok bytes)
  | collected {bytes : Bytes} (hnone : ∀ other, .protect key other ∉ history)
      (h : LastWrites (.insert key) history bytes) : Answers history key (.ok bytes)
  | missing (hnone : ∀ other, .protect key other ∉ history)
      (h : ∀ other, .insert key other ∉ history) :
      Answers history key (.error ⟨key, .notCollected⟩)

namespace MemoryStore

/-- Each layer of the store holds what the history last wrote to it. -/
structure Remembers (history : List StoreOperation) (s : MemoryStore) : Prop where
  protectedFiles : ∀ key bytes,
    s.protectedFiles.get? key = some bytes ↔ LastWrites (.protect key) history bytes
  collected : ∀ key bytes,
    s.collected.get? key = some bytes ↔ LastWrites (.insert key) history bytes

/-- The store without files remembers that nothing was done. -/
theorem remembers_empty : Remembers [] empty where
  protectedFiles key bytes :=
    ⟨fun h => by simp [empty] at h, fun h => absurd h.mem List.not_mem_nil⟩
  collected key bytes :=
    ⟨fun h => by simp [empty] at h, fun h => absurd h.mem List.not_mem_nil⟩

/-- **An operation is remembered** with those before it. -/
theorem Remembers.step {history : List StoreOperation} {s : MemoryStore}
    (h : Remembers history s) (operation : StoreOperation) :
    Remembers (history ++ [operation]) (s.apply operation) where
  protectedFiles key bytes := by
    rw [lastWrites_concat_iff, ← h.protectedFiles]
    cases operation with
    | insert other value => simp [apply, insert]
    | protect other value =>
        by_cases hkey : key = other
        · simp [apply, protect, hkey]
        · simp [apply, protect, hkey, Ne.symm hkey]
    | fetch other => simp [apply]
  collected key bytes := by
    rw [lastWrites_concat_iff, ← h.collected]
    cases operation with
    | insert other value =>
        by_cases hkey : key = other
        · simp [apply, insert, hkey]
        · simp [apply, insert, hkey, Ne.symm hkey]
    | protect other value => simp [apply, protect]
    | fetch other => simp [apply]

/-- **A store remembers its history.** -/
theorem remembers_after (history : List StoreOperation) : Remembers history (after history) := by
  induction history using List.reverseRecOn with
  | nil => exact remembers_empty
  | append_singleton front operation ih =>
      rw [after_concat]
      exact ih.step operation

variable {history : List StoreOperation} {s : MemoryStore}

/-- A key has no protected file when none was ever protected. -/
theorem Remembers.protectedFiles_eq_none_iff (h : Remembers history s) (key : String) :
    s.protectedFiles.get? key = none ↔ ∀ other, .protect key other ∉ history := by
  rw [Option.eq_none_iff_forall_ne_some]
  simp only [ne_eq, h.protectedFiles]
  rw [← not_exists, exists_lastWrites_iff, not_exists]

/-- A key has no collected file when none was ever collected. -/
theorem Remembers.collected_eq_none_iff (h : Remembers history s) (key : String) :
    s.collected.get? key = none ↔ ∀ other, .insert key other ∉ history := by
  rw [Option.eq_none_iff_forall_ne_some]
  simp only [ne_eq, h.collected]
  rw [← not_exists, exists_lastWrites_iff, not_exists]

/-- **A fetch answers what the history says.** -/
theorem Remembers.fetch_eq_iff (h : Remembers history s) {key : String}
    {answer : Except FetchError Bytes} : s.fetch key = answer ↔ Answers history key answer := by
  have hanswers : Answers history key (s.fetch key) := by
    rw [fetch]
    cases hp : s.protectedFiles.get? key with
    | some bytes => exact .shadowed ((h.protectedFiles key bytes).1 hp)
    | none =>
        have hnone := (h.protectedFiles_eq_none_iff key).1 hp
        cases hc : s.collected.get? key with
        | some bytes => exact .collected hnone ((h.collected key bytes).1 hc)
        | none => exact .missing hnone ((h.collected_eq_none_iff key).1 hc)
  refine ⟨fun heq => heq ▸ hanswers, fun hanswer => ?_⟩
  rw [fetch]
  cases hanswer with
  | shadowed hlast => simp [(h.protectedFiles key _).2 hlast]
  | collected hnone hlast =>
      simp [(h.protectedFiles_eq_none_iff key).2 hnone, (h.collected key _).2 hlast]
  | missing hnone hinsert =>
      simp [(h.protectedFiles_eq_none_iff key).2 hnone,
        (h.collected_eq_none_iff key).2 hinsert]

/-! ## Operations that do not matter -/

/-- Stores whose layers agree on a key answer it alike. -/
theorem fetch_congr {s t : MemoryStore} {key : String}
    (hprotected : s.protectedFiles.get? key = t.protectedFiles.get? key)
    (hcollected : s.protectedFiles.get? key = none →
      s.collected.get? key = t.collected.get? key) : s.fetch key = t.fetch key := by
  rw [fetch, fetch, ← hprotected]
  cases hp : s.protectedFiles.get? key with
  | some bytes => rfl
  | none => rw [hcollected hp]

/-- The protected file of a key depends on the protections of that key. -/
theorem protectedFiles_after_filter {key : String} {p : StoreOperation → Bool}
    (hp : ∀ bytes, p (.protect key bytes) = true) :
    (after (history.filter p)).protectedFiles.get? key =
      (after history).protectedFiles.get? key := by
  refine Option.ext fun bytes => ?_
  rw [(remembers_after _).protectedFiles, (remembers_after _).protectedFiles,
    lastWrites_filter_iff hp]

/-- The collected file of a key depends on the collections of that key. -/
theorem collected_after_filter {key : String} {p : StoreOperation → Bool}
    (hp : ∀ bytes, p (.insert key bytes) = true) :
    (after (history.filter p)).collected.get? key = (after history).collected.get? key := by
  refine Option.ext fun bytes => ?_
  rw [(remembers_after _).collected, (remembers_after _).collected,
    lastWrites_filter_iff hp]

/-- **Only the operations of a key matter to it.** -/
theorem fetch_after_filter (history : List StoreOperation) (key : String) :
    (after (history.filter fun operation => operation.key == key)).fetch key =
      (after history).fetch key :=
  fetch_congr (protectedFiles_after_filter fun _ => beq_self_eq_true key)
    fun _ => collected_after_filter fun _ => beq_self_eq_true key

/-- **A key that is protected somewhere may be collected anywhere.** -/
theorem toStore_after_insert {front back : List StoreOperation} {key : String}
    (hprotected : ∃ bytes, .protect key bytes ∈ front ++ back) (payload : Bytes) :
    (after (front ++ .insert key payload :: back)).toStore = (after (front ++ back)).toStore := by
  have hfetch (other : String) : (after (front ++ .insert key payload :: back)).fetch other =
      (after (front ++ back)).fetch other := by
    by_cases hother : key = other
    · subst hother
      let p (operation : StoreOperation) : Bool := operation.insertedKey? != some key
      have hsame : (front ++ .insert key payload :: back).filter p = (front ++ back).filter p := by
        simp [p, StoreOperation.insertedKey?]
      have heq : (after (front ++ .insert key payload :: back)).protectedFiles.get? key =
          (after (front ++ back)).protectedFiles.get? key := by
        rw [← protectedFiles_after_filter (p := p) fun _ => rfl, hsame,
          protectedFiles_after_filter fun _ => rfl]
      refine fetch_congr heq fun hnone => ?_
      obtain ⟨bytes, hbytes⟩ := hprotected
      rw [heq, (remembers_after _).protectedFiles_eq_none_iff] at hnone
      exact absurd hbytes (hnone bytes)
    · have hsame : (front ++ .insert key payload :: back).filter (fun o => o.key == other) =
          (front ++ back).filter fun o => o.key == other := by
        simp [StoreOperation.key, hother]
      rw [← fetch_after_filter _ other, hsame, fetch_after_filter]
  exact congrArg Store.mk (funext hfetch)

/-! ## Numbers -/

/-- A store counts the keys that files were collected under, each once. -/
theorem size_after (history : List StoreOperation) :
    (after history).size = (history.filterMap StoreOperation.insertedKey?).dedup.length := by
  have hmem (key : String) : key ∈ history.filterMap StoreOperation.insertedKey? ↔
      ∃ bytes, .insert key bytes ∈ history := by
    rw [List.mem_filterMap]
    constructor
    · rintro ⟨operation, hoperation, hkey⟩
      cases operation with
      | insert other bytes =>
          obtain rfl : other = key := Option.some.inj hkey
          exact ⟨bytes, hoperation⟩
      | protect _ _ => contradiction
      | fetch _ => contradiction
    · rintro ⟨bytes, hbytes⟩
      exact ⟨_, hbytes, rfl⟩
  have hnodup : (after history).collected.keys.Nodup :=
    Dictionary.distinctKeys_iff_nodup.1 (after history).collected.distinct
  -- Neither list has a key twice, so that it is enough that they have the same keys.
  have hperm : (after history).collected.keys.Perm
      (history.filterMap StoreOperation.insertedKey?).dedup := by
    refine (List.perm_ext_iff_of_nodup hnodup (List.nodup_dedup _)).2 fun key => ?_
    rw [Dictionary.mem_keys_iff, List.mem_dedup, hmem, Option.isSome_iff_exists]
    simp only [(remembers_after history).collected]
    exact exists_lastWrites_iff
  rw [size, Dictionary.size, ← hperm.length_eq, Dictionary.keys, List.length_map]

/-- A store is empty when it counts no key. -/
theorem isEmpty_eq_true_iff (s : MemoryStore) : s.isEmpty = true ↔ s.size = 0 := by
  rw [isEmpty, size, Dictionary.isEmpty, Dictionary.size, List.isEmpty_iff,
    List.length_eq_zero_iff]

/-! ## Any history -/

/-- **What a memory store does in any history**, when nothing was there before.  Exactly the
fetches are answered, each by the operations before it: with the last protected file of its key,
else the last collected one, else that there is none.  Fetches change nothing, and only the
operations of a key matter to it.  The store counts the keys that files were collected under, and
is empty when it counts none.  An analysis does not see what is collected under a protected key. -/
theorem perform_answers (history : List StoreOperation) :
    let final := (empty.perform history).1
    let answers := (empty.perform history).2
    answers.length = history.length ∧
    (∀ (i : Nat) (answer : Except FetchError Bytes), answers[i]? = some (some answer) ↔
      ∃ key, history[i]? = some (.fetch key) ∧ Answers (history.take i) key answer) ∧
    (empty.perform (history.filter fun operation => !operation.asks)).1 = final ∧
    (∀ key, (empty.perform (history.filter fun operation => operation.key == key)).1.fetch key =
      final.fetch key) ∧
    final.size = (history.filterMap StoreOperation.insertedKey?).dedup.length ∧
    (final.isEmpty = true ↔ final.size = 0) ∧
    ∀ (front back : List StoreOperation) (key : String), history = front ++ back →
      (∃ bytes, .protect key bytes ∈ history) → ∀ (payload : Bytes) (check : NodeCheck),
        analyze check (empty.perform (front ++ .insert key payload :: back)).1.toStore =
          analyze check final.toStore := by
  intro final answers
  refine ⟨length_perform empty history, fun i answer => ?_, after_filter_not_asks history,
    fetch_after_filter history, size_after history, isEmpty_eq_true_iff final, ?_⟩
  · have hstore := remembers_after (history.take i)
    rw [show answers[i]? = _ from perform_getElem? empty history i, Option.map_eq_some_iff]
    constructor
    · rintro ⟨operation, hoperation, hanswer⟩
      cases operation with
      | fetch key =>
          exact ⟨key, hoperation, hstore.fetch_eq_iff.1 (Option.some.inj hanswer)⟩
      | insert _ _ => contradiction
      | protect _ _ => contradiction
    · rintro ⟨key, hoperation, hanswer⟩
      exact ⟨.fetch key, hoperation, congrArg some (hstore.fetch_eq_iff.2 hanswer)⟩
  · rintro front back key rfl hprotected payload check
    exact congrArg (analyze check) (toStore_after_insert hprotected payload)

/-- A list of nodes that is collected before and after it is protected. -/
theorem perform_answers_protected_nodes :
    let history : List StoreOperation :=
      [.insert nodesKey [1], .protect nodesKey [2], .insert nodesKey [3], .fetch nodesKey,
        .fetch "version.json"]
    (empty.perform history).2 =
      [none, none, none, some (.ok [2]), some (.error ⟨"version.json", .notCollected⟩)] ∧
    (empty.perform history).1.size = 1 ∧
    (∃ bytes, .protect nodesKey bytes ∈ history) ∧ ∀ (payload : Bytes) (check : NodeCheck),
      analyze check (empty.perform (history ++ [.insert nodesKey payload])).1.toStore =
        analyze check (empty.perform history).1.toStore := by
  intro history
  have hprotected : ∃ bytes, StoreOperation.protect nodesKey bytes ∈ history :=
    ⟨[2], by simp [history]⟩
  obtain ⟨-, -, -, -, -, -, hanalyze⟩ := perform_answers history
  refine ⟨by decide +kernel, by decide +kernel, hprotected, ?_⟩
  exact hanalyze history [] nodesKey (List.append_nil history).symm hprotected

end MemoryStore
end NodeFit

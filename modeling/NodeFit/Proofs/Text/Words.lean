import NodeFit.Text.Blank

/-!
# NodeFit.Proofs.Text.Words

Words: what a text is cut into at its blanks, and what it is put together from.

A word is a run of characters of which none is blank, and so is each of the words of a text
(`isWord_of_mem_words`).  Words that are written with blanks between them are read back one
by one, however they are spaced (`spaced_iff_words`).

`Spaced` is the relation between a text and its words that the grammar of conditionals is stated
with.  It allows any blanks at either end of a text and requires one between two words.
-/

namespace NodeFit.Text

/-- Characters that stand together as one word. -/
structure IsWord (cs : List Char) : Prop where
  ne_nil : cs ≠ []
  not_isBlank : ∀ c ∈ cs, isBlank c = false

/-- That no character is blank can be computed. -/
theorem not_isBlank_of_any {cs : List Char} (h : cs.any isBlank = false) :
    ∀ c ∈ cs, isBlank c = false := by
  simpa using h

/-- A blank divides a text. -/
theorem words_append_cons {blank : Char} (h : isBlank blank = true) (cs rest : List Char) :
    words (cs ++ blank :: rest) = words cs ++ words rest := by
  simp only [words]
  rw [List.splitOnP_append_cons cs rest h, List.filter_append]

/-- A word by itself is the only word of its text. -/
theorem words_of_isWord {word : List Char} (h : IsWord word) : words word = [word] := by
  have hne := h.ne_nil
  simp only [words]
  rw [List.splitOnP_eq_singleton h.not_isBlank]
  simp [hne]

/-- The first word of a text is followed by the words behind the blank. -/
theorem words_cons {word : List Char} (h : IsWord word) (rest : List Char) :
    words (word ++ ' ' :: rest) = word :: words rest := by
  rw [words_append_cons (by decide), words_of_isWord h, List.singleton_append]

/-- No blank is left in a piece of a text that is cut at its blanks. -/
theorem not_isBlank_of_mem_splitOnP {cs piece : List Char} (h : piece ∈ cs.splitOnP isBlank) :
    ∀ c ∈ piece, isBlank c = false := by
  induction cs generalizing piece with
  | nil =>
      obtain rfl : piece = [] := by simpa using h
      simp
  | cons c rest ih =>
      rw [List.splitOnP_cons_eq_if_modifyHead] at h
      split at h
      · rcases List.mem_cons.1 h with rfl | h
        · simp
        · exact ih h
      · next hc =>
        cases hpieces : rest.splitOnP isBlank with
        | nil => simp [hpieces] at h
        | cons first pieces =>
            rw [hpieces] at h ih
            simp only [List.modifyHead_cons, List.mem_cons] at h
            rcases h with rfl | h
            · have hfirst := ih List.mem_cons_self
              simpa using ⟨by simpa using hc, by simpa using hfirst⟩
            · exact ih (List.mem_cons_of_mem _ h)

/-- The words of a text are words. -/
theorem isWord_of_mem_words {cs word : List Char} (h : word ∈ words cs) : IsWord word := by
  obtain ⟨hpiece, hne⟩ := List.mem_filter.1 h
  exact ⟨by simpa using hne, not_isBlank_of_mem_splitOnP hpiece⟩

/-! ## Spacing -/

/-- Words as they stand in a text: any number of blanks before and behind each, and at least one
between two of them. -/
inductive Spaced : List Char → List (List Char) → Prop where
  | blanks {cs : List Char} : (∀ c ∈ cs, isBlank c = true) → Spaced cs []
  | word {blanks word rest : List Char} {words : List (List Char)} :
      (∀ c ∈ blanks, isBlank c = true) → IsWord word → (∀ c ∈ rest.head?, isBlank c = true) →
      Spaced rest words → Spaced (blanks ++ (word ++ rest)) (word :: words)

theorem words_cons_of_isBlank {blank : Char} (h : isBlank blank = true) (cs : List Char) :
    words (blank :: cs) = words cs :=
  words_append_cons h [] cs

/-- Blanks in front of a text make no difference. -/
theorem words_append_of_isBlank {blanks : List Char} (h : ∀ c ∈ blanks, isBlank c = true)
    (cs : List Char) : words (blanks ++ cs) = words cs := by
  induction blanks with
  | nil => rfl
  | cons c blanks ih =>
      obtain ⟨hc, hblanks⟩ := List.forall_mem_cons.1 h
      rw [List.cons_append, words_cons_of_isBlank hc, ih hblanks]

/-- A word ends at the next blank, or with the text. -/
theorem words_append_of_head {word rest : List Char} (h : IsWord word)
    (hrest : ∀ c ∈ rest.head?, isBlank c = true) : words (word ++ rest) = word :: words rest := by
  cases rest with
  | nil => rw [List.append_nil, words_of_isWord h]; rfl
  | cons blank rest =>
      have hblank : isBlank blank = true := hrest blank rfl
      rw [words_append_cons hblank, words_of_isWord h, words_cons_of_isBlank hblank,
        List.singleton_append]

/-- The words of a text are those that stand in it. -/
theorem Spaced.words_eq {cs : List Char} {ws : List (List Char)} (h : Spaced cs ws) :
    words cs = ws := by
  induction h with
  | @blanks cs hblanks =>
      rw [← List.append_nil cs, words_append_of_isBlank hblanks]
      rfl
  | word hblanks hword hrest _ ih =>
      rw [words_append_of_isBlank hblanks, words_append_of_head hword hrest, ih]

/-- A text may start with a word. -/
theorem Spaced.start {word rest : List Char} {ws : List (List Char)} (hword : IsWord word)
    (hrest : ∀ c ∈ rest.head?, isBlank c = true) (h : Spaced rest ws) :
    Spaced (word ++ rest) (word :: ws) :=
  @Spaced.word [] word rest ws (fun _ hc => (nomatch hc)) hword hrest h

/-- Every text is some words with blanks around them. -/
theorem exists_spaced (cs : List Char) : ∃ ws, Spaced cs ws := by
  induction cs with
  | nil => exact ⟨[], .blanks (by simp)⟩
  | cons c rest ih =>
      obtain ⟨ws, hrest⟩ := ih
      by_cases hc : isBlank c = true
      · -- One more blank in front of the first word, or of none.
        cases hrest with
        | blanks hblanks => exact ⟨[], .blanks (List.forall_mem_cons.2 ⟨hc, hblanks⟩)⟩
        | word hblanks hword hhead hrest =>
            exact ⟨_, .word (List.forall_mem_cons.2 ⟨hc, hblanks⟩) hword hhead hrest⟩
      · have hletter : IsWord [c] := ⟨by simp, by simpa using hc⟩
        cases hrest with
        | blanks hblanks =>
            have hhead : ∀ d ∈ rest.head?, isBlank d = true := fun d hd =>
              hblanks d (List.mem_of_mem_head? hd)
            exact ⟨_, .start hletter hhead (.blanks hblanks)⟩
        | @word blanks word rest words hblanks hword hhead hrest =>
            cases blanks with
            | nil =>
                -- One more letter in front of the first word.
                have hlonger : IsWord (c :: word) :=
                  ⟨by simp, List.forall_mem_cons.2 ⟨by simpa using hc, hword.not_isBlank⟩⟩
                exact ⟨_, .start hlonger hhead hrest⟩
            | cons blank blanks =>
                have hblank : isBlank blank = true := hblanks blank List.mem_cons_self
                exact ⟨_, .start hletter (by simpa using hblank)
                  (.word hblanks hword hhead hrest)⟩

/-- **A text has the words that stand in it**, and no others. -/
theorem spaced_iff_words {cs : List Char} {ws : List (List Char)} :
    Spaced cs ws ↔ words cs = ws := by
  refine ⟨Spaced.words_eq, ?_⟩
  rintro rfl
  obtain ⟨ws, hws⟩ := exists_spaced cs
  rwa [hws.words_eq]

theorem isBlank_of_isDigit {c : Char} (h : c.isDigit = true) : isBlank c = false := by
  have hdigit : 48 ≤ c.toNat ∧ c.toNat ≤ 57 := Char.isDigit_iff_toNat.1 h
  simp [isBlank]
  omega

end NodeFit.Text

import KnowledgeDesk.Text.Blank

/-!
# The word and line views of a text

Facts about `wordsOf`, `linesOf` and `trim` that the proofs about splitting build on. A *word*
is a non-empty text without blank characters, and the *solid characters* of a text are its
non-blank characters, in order.

Everything about the word view follows from one equation: a blank character cuts a text into
two parts whose words are listed one after the other (`wordsChars_append_blank`). From it:

* the words of words joined by spaces are those words (`wordsOf_intercalate`);
* the characters of the words of a text are its solid characters (`flatMap_wordsOf`);
* trimming keeps the solid characters, and a trimmed text that is not empty starts and ends
  with a solid character (`solidChars_trim`, `solidEnds_trim`);
* the lines of a text hold all its solid characters, in order (`flatMap_solidChars_linesOf`).
-/

namespace KnowledgeDesk.Text

/-- The non-blank characters of a text, in order. -/
def solidChars (s : String) : List Char := s.toList.filter (!isBlank ·)

/-- A word: a non-empty text without blank characters. -/
def IsWord (w : String) : Prop := w ≠ "" ∧ ∀ c ∈ w.toList, isBlank c = false

/-- A text that starts and ends with a non-blank character, so is not empty. -/
def SolidEnds (s : String) : Prop :=
  (∃ c, s.toList.head? = some c ∧ isBlank c = false) ∧
    ∃ c, s.toList.getLast? = some c ∧ isBlank c = false

/-! ## Cutting at blanks -/

theorem flatten_splitOnP_isBlank :
    ∀ cs : List Char, (cs.splitOnP isBlank).flatten = cs.filter (!isBlank ·)
  | [] => by simp [List.splitOnP_nil]
  | x :: xs => by
    have ih := flatten_splitOnP_isBlank xs
    rw [List.splitOnP_cons_eq_if_modifyHead]
    by_cases hx : isBlank x = true
    · simp [hx, ih]
    · obtain ⟨r, rs, hr⟩ := List.exists_cons_of_ne_nil (List.splitOnP_ne_nil isBlank xs)
      rw [hr, List.flatten_cons] at ih
      simp [hx, hr, ih]

/-- The characters of the words of a text are its non-blank characters. -/
theorem flatten_wordsChars (cs : List Char) : (wordsChars cs).flatten = cs.filter (!isBlank ·) := by
  rw [wordsChars, List.flatten_filter_ne_nil, flatten_splitOnP_isBlank]

theorem isBlank_of_mem_wordsChars {cs w : List Char} (hw : w ∈ wordsChars cs) :
    ∀ c ∈ w, isBlank c = false := by
  intro c hc
  have hmem : c ∈ (wordsChars cs).flatten := List.mem_flatten.2 ⟨w, hw, hc⟩
  rw [flatten_wordsChars] at hmem
  simpa using (List.mem_filter.1 hmem).2

/-- **Words split at a blank.** A blank character between two texts joins no word of one with a
word of the other. -/
theorem wordsChars_append_blank {c : Char} (hc : isBlank c = true) (a b : List Char) :
    wordsChars (a ++ c :: b) = wordsChars a ++ wordsChars b := by
  rw [wordsChars, List.splitOnP_append_cons a b hc, List.filter_append]
  rfl

theorem wordsChars_blank_append {g : List Char} (hg : ∀ c ∈ g, isBlank c = true) (b : List Char) :
    wordsChars (g ++ b) = wordsChars b := by
  induction g with
  | nil => rfl
  | cons c g ih =>
    have hc : isBlank c = true := hg c (by simp)
    have hrest : ∀ x ∈ g, isBlank x = true := fun x hx => hg x (by simp [hx])
    have hcut := wordsChars_append_blank hc [] (g ++ b)
    simp only [List.nil_append] at hcut
    rw [List.cons_append, hcut, ih hrest]
    rfl

theorem wordsChars_of_solid {w : List Char} (hne : w ≠ []) (h : ∀ c ∈ w, isBlank c = false) :
    wordsChars w = [w] := by
  simp [wordsChars, List.splitOnP_eq_singleton h, hne]

/-! ## Words of texts -/

theorem isWord_of_mem_wordsOf {s w : String} (hw : w ∈ wordsOf s) : IsWord w := by
  obtain ⟨cs, hcs, rfl⟩ := List.mem_map.1 hw
  have hne : cs ≠ [] := by simpa using (List.mem_filter.1 hcs).2
  refine ⟨?_, ?_⟩
  · rwa [ne_eq, ← String.toList_inj, String.toList_ofList, String.toList_empty]
  · rw [String.toList_ofList]
    exact isBlank_of_mem_wordsChars hcs

theorem wordsOf_of_isWord {w : String} (hw : IsWord w) : wordsOf w = [w] := by
  have hne : w.toList ≠ [] := by rw [ne_eq, String.toList_eq_nil_iff]; exact hw.1
  rw [wordsOf, wordsChars_of_solid hne hw.2]
  simp [String.ofList_toList]

/-- The words of two texts joined by a run of blanks are the words of the first, then of the
second. -/
theorem wordsOf_append_sep {sep : String} (hne : sep ≠ "")
    (hsep : ∀ c ∈ sep.toList, isBlank c = true) (a b : String) :
    wordsOf (a ++ sep ++ b) = wordsOf a ++ wordsOf b := by
  obtain ⟨c, g, hcg⟩ : ∃ c g, sep.toList = c :: g := by
    cases h : sep.toList with
    | nil => exact absurd (String.toList_eq_nil_iff.1 h) hne
    | cons c g => exact ⟨c, g, rfl⟩
  have hc : isBlank c = true := hsep c (by simp [hcg])
  have hg : ∀ x ∈ g, isBlank x = true := fun x hx => hsep x (by simp [hcg, hx])
  have hchars : (a ++ sep ++ b).toList = a.toList ++ c :: (g ++ b.toList) := by
    simp [String.toList_append, hcg]
  rw [wordsOf, hchars, wordsChars_append_blank hc, wordsChars_blank_append hg, List.map_append]
  rfl

theorem wordsOf_append_newline (a b : String) : wordsOf (a ++ "\n" ++ b) = wordsOf a ++ wordsOf b :=
  wordsOf_append_sep (by decide) (by simp [isBlank]) a b

theorem wordsOf_append_space (a b : String) : wordsOf (a ++ " " ++ b) = wordsOf a ++ wordsOf b :=
  wordsOf_append_sep (by decide) (by simp [isBlank]) a b

/-- Words joined by spaces are read back as the same words. -/
theorem wordsOf_intercalate : ∀ {ws : List String}, (∀ w ∈ ws, IsWord w) →
    wordsOf (" ".intercalate ws) = ws
  | [], _ => by simp [wordsOf, wordsChars, List.splitOnP_nil]
  | [w], h => by simpa using wordsOf_of_isWord (h w (by simp))
  | w :: v :: rest, h => by
    have hw : IsWord w := h w (by simp)
    have hrest : ∀ x ∈ v :: rest, IsWord x := fun x hx => h x (List.mem_cons_of_mem w hx)
    rw [String.intercalate_cons_cons, wordsOf_append_space, wordsOf_of_isWord hw,
      wordsOf_intercalate hrest]
    rfl

/-- The characters of the words of a text are its solid characters. -/
theorem flatMap_wordsOf (s : String) : (wordsOf s).flatMap String.toList = solidChars s := by
  rw [wordsOf, List.flatMap_map, solidChars, ← flatten_wordsChars]
  simp [String.toList_ofList, List.flatMap_id']

/-! ## Solid characters -/

@[simp] theorem solidChars_append (a b : String) : solidChars (a ++ b) = solidChars a ++ solidChars b := by
  simp [solidChars, String.toList_append]

theorem solidChars_eq_nil {sep : String} (hsep : ∀ c ∈ sep.toList, isBlank c = true) :
    solidChars sep = [] := by
  simpa [solidChars, List.filter_eq_nil_iff] using hsep

theorem IsWord.solidChars_eq {w : String} (hw : IsWord w) : solidChars w = w.toList := by
  simpa [solidChars, List.filter_eq_self] using hw.2

theorem SolidEnds.ne_empty {s : String} (hs : SolidEnds s) : s ≠ "" := by
  obtain ⟨⟨c, hc, -⟩, -⟩ := hs
  intro h
  simp [h] at hc

theorem SolidEnds.solidChars_ne_nil {s : String} (hs : SolidEnds s) : solidChars s ≠ [] := by
  obtain ⟨⟨c, hc, hcb⟩, -⟩ := hs
  intro hnil
  have hmem : c ∈ solidChars s := List.mem_filter.2 ⟨List.mem_of_head? hc, by simp [hcb]⟩
  simp [hnil] at hmem

theorem isBlankText_iff_solidChars (s : String) : isBlankText s = true ↔ solidChars s = [] := by
  simp [isBlankText, solidChars, List.filter_eq_nil_iff]

/-! ## Solid ends -/

theorem IsWord.solidEnds {w : String} (hw : IsWord w) : SolidEnds w := by
  have hne : w.toList ≠ [] := by rw [ne_eq, String.toList_eq_nil_iff]; exact hw.1
  obtain ⟨c, hc⟩ := Option.ne_none_iff_exists'.1 (mt List.head?_eq_none_iff.1 hne)
  obtain ⟨z, hz⟩ := Option.ne_none_iff_exists'.1 (mt List.getLast?_eq_none_iff.1 hne)
  exact ⟨⟨c, hc, hw.2 c (List.mem_of_head? hc)⟩, ⟨z, hz, hw.2 z (List.mem_of_getLast? hz)⟩⟩

theorem SolidEnds.append {a b : String} (ha : SolidEnds a) (hb : SolidEnds b) (sep : String) :
    SolidEnds (a ++ sep ++ b) := by
  obtain ⟨⟨c, hc, hcb⟩, -⟩ := ha
  obtain ⟨-, ⟨z, hz, hzb⟩⟩ := hb
  refine ⟨⟨c, ?_, hcb⟩, ⟨z, ?_, hzb⟩⟩
  · simp [String.toList_append, hc]
  · simp [String.toList_append, hz]

/-- Words joined by spaces start and end with a non-blank character. -/
theorem solidEnds_intercalate : ∀ {ws : List String}, ws ≠ [] → (∀ w ∈ ws, IsWord w) →
    SolidEnds (" ".intercalate ws)
  | [w], _, h => by simpa using (h w (by simp)).solidEnds
  | w :: v :: rest, _, h => by
    have hrest : ∀ x ∈ v :: rest, IsWord x := fun x hx => h x (List.mem_cons_of_mem w hx)
    rw [String.intercalate_cons_cons]
    exact (h w (by simp)).solidEnds.append (solidEnds_intercalate (by simp) hrest) " "

/-! ## Trimming -/

theorem filter_dropWhile_isBlank :
    ∀ cs : List Char, (cs.dropWhile isBlank).filter (!isBlank ·) = cs.filter (!isBlank ·)
  | [] => rfl
  | c :: cs => by
    by_cases hc : isBlank c = true
    · simp [hc, filter_dropWhile_isBlank cs]
    · simp [hc]

theorem solidChars_trim (s : String) : solidChars (trim s) = solidChars s := by
  simp only [solidChars, trim, trimChars, trimEndChars, trimStartChars, String.toList_ofList,
    List.filter_reverse, filter_dropWhile_isBlank, List.reverse_reverse]

/-- Trimmed characters that are not all gone start and end with a non-blank character. -/
theorem trimChars_ends {cs : List Char} (h : trimChars cs ≠ []) :
    (∃ c, (trimChars cs).head? = some c ∧ isBlank c = false) ∧
      ∃ c, (trimChars cs).getLast? = some c ∧ isBlank c = false := by
  -- `trimChars cs` is `v.reverse`: `u` is `cs` without its leading blanks, `v` is `u` reversed
  -- without its leading (so `u`'s trailing) blanks
  simp only [trimChars, trimEndChars, trimStartChars] at h ⊢
  generalize hu : cs.dropWhile isBlank = u at h ⊢
  generalize hv : u.reverse.dropWhile isBlank = v at h ⊢
  have hvne : v ≠ [] := by simpa using h
  have hune : u ≠ [] := by
    intro hnil
    simp [← hv, hnil] at hvne
  have hsplit : v.reverse ++ (u.reverse.takeWhile isBlank).reverse = u := by
    rw [← List.reverse_append, ← hv, List.takeWhile_append_dropWhile, List.reverse_reverse]
  refine ⟨⟨u.head hune, ?_, ?_⟩, ⟨v.head hvne, ?_, ?_⟩⟩
  · have hrne : v.reverse ≠ [] := by simpa using hvne
    obtain ⟨a, ha⟩ := Option.ne_none_iff_exists'.1 (mt List.head?_eq_none_iff.1 hrne)
    have hua : u.head? = some a := by rw [← hsplit, List.head?_append, ha]; rfl
    rw [ha, ← hua]
    exact List.head?_eq_some_head hune
  · subst hu
    exact List.head_dropWhile_not isBlank hune
  · rw [List.getLast?_reverse, List.head?_eq_some_head hvne]
  · subst hv
    exact List.head_dropWhile_not isBlank hvne

/-- A trimmed text that is not empty starts and ends with a non-blank character. -/
theorem solidEnds_trim {s : String} (h : trim s ≠ "") : SolidEnds (trim s) := by
  have hne : trimChars s.toList ≠ [] := by
    intro hnil
    apply h
    rw [trim, hnil, String.ofList_nil]
  simpa [SolidEnds, trim, String.toList_ofList] using trimChars_ends hne

theorem trimChars_of_ends {cs : List Char} (hhead : ∀ c ∈ cs.head?, isBlank c = false)
    (hlast : ∀ c ∈ cs.getLast?, isBlank c = false) : trimChars cs = cs := by
  have hsolid : ∀ ds : List Char, (∀ c ∈ ds.head?, isBlank c = false) → ds.dropWhile isBlank = ds
    | [], _ => rfl
    | c :: _, h => List.dropWhile_cons_of_neg (by simp [h c rfl])
  rw [trimChars, trimStartChars, hsolid cs hhead, trimEndChars,
    hsolid cs.reverse (by simpa using hlast), List.reverse_reverse]

/-- A text that starts and ends with a non-blank character is its own trim. -/
theorem trim_of_solidEnds {s : String} (hs : SolidEnds s) : trim s = s := by
  obtain ⟨⟨c, hc, hcb⟩, ⟨d, hd, hdb⟩⟩ := hs
  have hhead : ∀ x ∈ s.toList.head?, isBlank x = false := by
    intro x hx
    rw [hc, Option.mem_def, Option.some.injEq] at hx
    exact hx ▸ hcb
  have hlast : ∀ x ∈ s.toList.getLast?, isBlank x = false := by
    intro x hx
    rw [hd, Option.mem_def, Option.some.injEq] at hx
    exact hx ▸ hdb
  rw [trim, trimChars_of_ends hhead hlast, String.ofList_toList]

theorem trimChars_blank_cons {c : Char} (hc : isBlank c = true) (cs : List Char) :
    trimChars (c :: cs) = trimChars cs := by
  rw [trimChars, trimStartChars, List.dropWhile_cons_of_pos hc]
  rfl

theorem IsWord.trim_space_append {w : String} (hw : IsWord w) : trim (" " ++ w) = w := by
  have hspace : (" " ++ w).toList = ' ' :: w.toList := by simp
  rw [trim, hspace, trimChars_blank_cons (by decide), ← trim, trim_of_solidEnds hw.solidEnds]

/-! ## Lines -/

theorem filter_dropCarriageReturn (cs : List Char) :
    (dropCarriageReturn cs).filter (!isBlank ·) = cs.filter (!isBlank ·) := by
  unfold dropCarriageReturn
  split
  · next h =>
    obtain ⟨ys, rfl⟩ := List.getLast?_eq_some_iff.1 h
    simp [isBlank]
  · rfl

theorem filter_intercalate_blank {x : Char} (hx : isBlank x = true) :
    ∀ ls : List (List Char),
      ([x].intercalate ls).filter (!isBlank ·) = ls.flatMap (·.filter (!isBlank ·))
  | [] => rfl
  | [l] => by simp
  | l :: m :: rest => by
    rw [List.intercalate_cons_cons, List.filter_append, List.filter_append,
      filter_intercalate_blank hx (m :: rest)]
    simp [hx]

theorem flatMap_filter_zipIdx_map {l : List (List Char)} {f : List Char × Nat → List Char}
    (hf : ∀ p i, (f (p, i)).filter (!isBlank ·) = p.filter (!isBlank ·)) :
    (l.zipIdx.map f).flatMap (·.filter (!isBlank ·)) = l.flatMap (·.filter (!isBlank ·)) := by
  have hfun : (fun x => (f x).filter (!isBlank ·)) = fun x => x.1.filter (!isBlank ·) :=
    funext fun ⟨p, i⟩ => hf p i
  rw [List.flatMap_map, hfun]
  conv => rhs; rw [← List.zipIdx_map_fst 0 l, List.flatMap_map]

theorem flatMap_filter_linesChars (cs : List Char) :
    (linesChars cs).flatMap (·.filter (!isBlank ·)) = cs.filter (!isBlank ·) := by
  -- the lines are the pieces between line breaks, maybe without an empty last piece, each
  -- maybe without a carriage return: none of that touches a solid character
  have hpieces : ((cs.splitOn '\n').flatMap (·.filter (!isBlank ·))) = cs.filter (!isBlank ·) := by
    have hcs : ['\n'].intercalate (cs.splitOn '\n') = cs := List.intercalate_splitOn '\n'
    conv => rhs; rw [← hcs]
    rw [filter_intercalate_blank (by decide)]
  have hdrop : ((if cs.getLast? = some '\n' || cs.isEmpty then (cs.splitOn '\n').dropLast
      else cs.splitOn '\n').flatMap (·.filter (!isBlank ·))) = cs.filter (!isBlank ·) := by
    split
    · next hlast =>
      rcases Bool.or_eq_true_iff.1 hlast with hl | he
      · obtain ⟨init, rfl⟩ := List.getLast?_eq_some_iff.1 (by simpa using hl)
        rw [List.splitOn_append_cons_self, List.splitOn_nil, List.dropLast_concat, ← hpieces,
          List.splitOn_append_cons_self, List.splitOn_nil]
        simp
      · simp only [List.isEmpty_iff] at he
        subst he
        simp
    · exact hpieces
  rw [linesChars]
  dsimp only
  rw [flatMap_filter_zipIdx_map, hdrop]
  intro p i
  simp only [apply_ite (List.filter _), filter_dropCarriageReturn, ite_self]

/-- The lines of a text hold all its solid characters, in order. -/
theorem flatMap_solidChars_linesOf (s : String) : (linesOf s).flatMap solidChars = solidChars s := by
  rw [linesOf, List.flatMap_map, solidChars, ← flatMap_filter_linesChars]
  simp [solidChars, String.toList_ofList]

end KnowledgeDesk.Text

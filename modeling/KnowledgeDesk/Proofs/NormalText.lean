import KnowledgeDesk.Document.Extract
import Mathlib.Data.List.DropRight

/-!
# The normal form of an extracted text

Every extracted text is normalised: `\r\n` and a lone `\r` become `\n`, the text is cut into
lines, each line loses its trailing blanks, the lines are joined by `\n` again, and line feeds at
either end are dropped. This module says what comes out, for every text.

The lines of a text are the pieces between its line breaks (`breakLines`, which reads the three
kinds of break directly), and the lines a normal text keeps (`keptLines`) are those lines
right-trimmed, less the ones left empty at either end. The main statement,
`normalizeText_normal_form`: the normal text is its kept lines joined by `\n`; it holds no `\r`, no
line of it ends in a blank, it neither starts nor ends with `\n`, its lines are its kept lines,
and normalising it again changes nothing.

The proof has three layers.

* Breaks: `unifyBreaks` leaves no `\r` and its pieces between line feeds are `breakLines`
  (`splitOn_unifyBreaks`); the line view of a text without `\r` is its pieces between line feeds,
  less an empty last one (`linesChars_of_cr_not_mem`).
* Ends: dropping line feeds at the ends of lines joined by `\n` drops the empty lines at the ends
  (`dropWhile_intercalate`, `rdropWhile_intercalate`), so the normal text is the kept lines joined
  (`normalizeText_toList`).
* Normal lines: `NormalLines` collects what the kept lines satisfy (`normalLines_keptLines`);
  lines with these properties, joined, read back as themselves
  (`NormalLines.keptLines_intercalate`), which gives every part of the main statement, idempotence
  included.
-/

namespace KnowledgeDesk.Document

open Text

/-! ## Lines and their breaks -/

/-- The lines of a text: the pieces between its line breaks, where `\r\n`, a lone `\r` and `\n`
each end a line. -/
def breakLines : List Char → List (List Char)
  | '\r' :: '\n' :: rest => [] :: breakLines rest
  | '\r' :: rest => [] :: breakLines rest
  | '\n' :: rest => [] :: breakLines rest
  | c :: rest => (breakLines rest).modifyHead (c :: ·)
  | [] => [[]]

/-- Lines without the empty ones at either end. -/
def dropEmptyEnds (ls : List (List Char)) : List (List Char) :=
  (ls.dropWhile List.isEmpty).rdropWhile List.isEmpty

/-- The lines a text keeps when it is normalised: its lines, each without trailing blanks, less
the lines left empty at either end. -/
def keptLines (cs : List Char) : List (List Char) :=
  dropEmptyEnds ((breakLines cs).map trimEndChars)

theorem cr_not_mem_unifyBreaks (cs : List Char) : '\r' ∉ unifyBreaks cs := by
  fun_induction unifyBreaks cs with
  | case3 c rest _ hc ih => simpa [Ne.symm hc] using ih
  | _ => simp_all

theorem unifyBreaks_of_cr_not_mem {cs : List Char} (h : '\r' ∉ cs) : unifyBreaks cs = cs := by
  fun_induction unifyBreaks cs <;> simp_all

/-- The pieces between the line feeds of a text with its breaks unified are its lines. -/
theorem splitOn_unifyBreaks (cs : List Char) : (unifyBreaks cs).splitOn '\n' = breakLines cs := by
  fun_induction unifyBreaks cs with
  | case1 rest ih => simp [List.splitOn_cons_eq_if_modifyHead, ih, breakLines]
  | case2 rest hrest ih =>
    -- a lone `\r`: what follows does not start with `\n`
    simp only [List.splitOn_cons_eq_if_modifyHead, beq_self_eq_true, if_true, ih]
    simp [breakLines]
  | case3 c rest _ hcr ih =>
    rw [List.splitOn_cons_eq_if_modifyHead, ih]
    by_cases hn : c = '\n'
    · subst hn
      simp [breakLines]
    · simp [breakLines, hn]
  | case4 => rfl

/-! ## Pieces between line feeds -/

theorem subset_intercalate {α : Type} {sep : List α} :
    ∀ {ls : List (List α)} {l : List α}, l ∈ ls → l ⊆ sep.intercalate ls
  | [_], _, h => by
    rw [List.mem_singleton.1 h, List.intercalate_singleton]
    exact List.Subset.refl _
  | m :: m' :: ls, l, h => by
    rw [List.intercalate_cons_cons]
    rcases List.mem_cons.1 h with rfl | h
    · exact List.Subset.trans (List.subset_append_left _ _) (List.subset_append_left _ _)
    · exact List.Subset.trans (subset_intercalate h) (List.subset_append_right _ _)

theorem subset_of_mem_splitOn {x : Char} {cs l : List Char} (h : l ∈ cs.splitOn x) : l ⊆ cs := by
  have hsub : l ⊆ [x].intercalate (cs.splitOn x) := subset_intercalate h
  rwa [List.intercalate_splitOn] at hsub

theorem not_mem_of_mem_splitOn {x : Char} :
    ∀ {cs l : List Char}, l ∈ cs.splitOn x → x ∉ l
  | [], l, h => by
    rw [List.splitOn_nil, List.mem_singleton] at h
    simp [h]
  | c :: cs, l, h => by
    rw [List.splitOn_cons_eq_if_modifyHead] at h
    split at h
    · rcases List.mem_cons.1 h with rfl | h
      · exact List.not_mem_nil
      · exact not_mem_of_mem_splitOn h
    · obtain ⟨r, rs, hr⟩ := List.exists_cons_of_ne_nil (List.splitOn_ne_nil x cs)
      rw [hr, List.modifyHead_cons] at h
      rcases List.mem_cons.1 h with rfl | h
      · have hx : c ≠ x := by simpa using ‹¬(c == x) = true›
        simpa [Ne.symm hx] using not_mem_of_mem_splitOn (hr ▸ List.mem_cons_self)
      · exact not_mem_of_mem_splitOn (hr ▸ List.mem_cons_of_mem _ h)

theorem feed_not_mem_trimEndChars {cs p : List Char} (hp : p ∈ cs.splitOn '\n') :
    '\n' ∉ trimEndChars p :=
  fun hn => not_mem_of_mem_splitOn hp ((List.rdropWhile_prefix _ _).subset hn)

theorem dropCarriageReturn_of_not_mem {cs : List Char} (h : '\r' ∉ cs) :
    dropCarriageReturn cs = cs := by
  have hlast : cs.getLast? ≠ some '\r' := fun hl => h (List.mem_of_getLast? hl)
  unfold dropCarriageReturn
  split
  · contradiction
  · rfl

/-- The line view of a text without `\r`: its pieces between line feeds, less the empty piece
after a final line feed (or of the empty text). -/
theorem linesChars_of_cr_not_mem {cs : List Char} (h : '\r' ∉ cs) :
    linesChars cs =
      if cs.getLast? = some '\n' || cs.isEmpty then (cs.splitOn '\n').dropLast
      else cs.splitOn '\n' := by
  simp only [linesChars]
  generalize hp : (if cs.getLast? = some '\n' || cs.isEmpty then (cs.splitOn '\n').dropLast
    else cs.splitOn '\n') = pieces
  have hmem : ∀ p ∈ pieces, p ⊆ cs := by
    intro p hpm
    rw [← hp] at hpm
    split at hpm
    · exact subset_of_mem_splitOn (List.dropLast_subset _ hpm)
    · exact subset_of_mem_splitOn hpm
  -- no piece holds a `\r`, so no line loses one
  conv => rhs; rw [← List.zipIdx_map_fst 0 pieces]
  refine List.map_congr_left fun x hx => ?_
  have hx1 : '\r' ∉ x.1 := fun hr => h (hmem x.1 (List.fst_mem_of_mem_zipIdx hx) hr)
  split <;> simp [dropCarriageReturn_of_not_mem hx1]

/-! ## Empty lines at the ends -/

theorem dropEmptyEnds_concat_nil (ls : List (List Char)) :
    dropEmptyEnds (ls ++ [[]]) = dropEmptyEnds ls := by
  unfold dropEmptyEnds
  rw [List.dropWhile_append]
  split
  · next hall =>
    rw [List.isEmpty_iff.1 hall]
    simp
  · exact List.rdropWhile_concat_pos _ _ _ rfl

/-- Right-trimmed, the line view of a text without `\r` and its pieces between line feeds keep
the same lines. -/
theorem dropEmptyEnds_linesChars {cs : List Char} (h : '\r' ∉ cs) :
    dropEmptyEnds ((linesChars cs).map trimEndChars) =
      dropEmptyEnds ((cs.splitOn '\n').map trimEndChars) := by
  rw [linesChars_of_cr_not_mem h]
  split
  · next hend =>
    -- the dropped piece is the empty one after the last line feed
    have hlast : (cs.splitOn '\n').getLast (List.splitOn_ne_nil _ _) = [] := by
      rcases Bool.or_eq_true_iff.1 hend with hl | he
      · obtain ⟨front, rfl⟩ := List.getLast?_eq_some_iff.1 (of_decide_eq_true hl)
        simp [List.splitOn_append_cons_self]
      · rw [List.isEmpty_iff.1 he]
        rfl
    conv => rhs; rw [← List.dropLast_append_getLast (List.splitOn_ne_nil '\n' cs), hlast]
    rw [List.map_append, List.map_singleton]
    exact (dropEmptyEnds_concat_nil _).symm
  · rfl

/-! ## Line feeds at the ends of joined lines -/

theorem dropWhile_intercalate :
    ∀ {ls : List (List Char)}, (∀ l ∈ ls, '\n' ∉ l) →
      (['\n'].intercalate ls).dropWhile (· = '\n') = ['\n'].intercalate (ls.dropWhile List.isEmpty)
  | [], _ => rfl
  | [] :: ls, h => by
    have ih := dropWhile_intercalate fun l hl => h l (List.mem_cons_of_mem _ hl)
    cases ls with
    | nil => rfl
    | cons m ls => simpa using ih
  | (c :: l) :: ls, h => by
    have hc : c ≠ '\n' := fun hc => h _ List.mem_cons_self (hc ▸ List.mem_cons_self)
    simp [hc]

theorem intercalate_concat :
    ∀ {ls : List (List Char)}, ls ≠ [] → ∀ l : List Char,
      ['\n'].intercalate (ls ++ [l]) = ['\n'].intercalate ls ++ '\n' :: l
  | [_], _, _ => by simp
  | m :: m' :: ls, _, l => by
    rw [List.cons_append, List.intercalate_cons_of_ne_nil (by simp),
      intercalate_concat (List.cons_ne_nil m' ls) l, List.intercalate_cons_cons]
    simp

theorem rdropWhile_intercalate {ls : List (List Char)} (h : ∀ l ∈ ls, '\n' ∉ l) :
    (['\n'].intercalate ls).rdropWhile (· = '\n') =
      ['\n'].intercalate (ls.rdropWhile List.isEmpty) := by
  induction ls using List.reverseRecOn with
  | nil => rfl
  | append_singleton ls l ih =>
    have ih := ih fun m hm => h m (List.mem_append_left _ hm)
    have hl : '\n' ∉ l := h l (List.mem_append_right _ List.mem_cons_self)
    rcases List.eq_nil_or_concat l with rfl | ⟨front, c, rfl⟩
    · -- a last empty line: its line feed goes, and the line with it
      rw [List.rdropWhile_concat_pos _ _ _ rfl]
      by_cases hls : ls = []
      · subst hls
        rfl
      · rw [intercalate_concat hls, List.rdropWhile_concat_pos _ _ _ (by simp), ih]
    · -- a last line that is not empty ends the text, with a character that is no line feed
      rw [List.concat_eq_append] at hl ⊢
      have hc : c ≠ '\n' := fun hc => hl (hc ▸ List.mem_concat_self)
      rw [List.rdropWhile_concat_neg _ _ _ (by simp)]
      by_cases hls : ls = []
      · subst hls
        simpa using List.rdropWhile_concat_neg (· = '\n') front c (by simpa using hc)
      · rw [intercalate_concat hls, ← List.cons_append, ← List.append_assoc]
        exact List.rdropWhile_concat_neg (· = '\n') _ c (by simpa using hc)

theorem strip_intercalate {ls : List (List Char)} (h : ∀ l ∈ ls, '\n' ∉ l) :
    (((['\n'].intercalate ls).dropWhile (· = '\n')).reverse.dropWhile (· = '\n')).reverse =
      ['\n'].intercalate (dropEmptyEnds ls) := by
  have hdrop : ∀ l ∈ ls.dropWhile List.isEmpty, '\n' ∉ l :=
    fun l hl => h l ((List.dropWhile_sublist _).subset hl)
  rw [dropWhile_intercalate h]
  exact rdropWhile_intercalate hdrop

/-- **The normal text is its kept lines joined by `\n`.** -/
theorem normalizeText_toList (t : String) :
    (normalizeText t).toList = ['\n'].intercalate (keptLines t.toList) := by
  have hcr := cr_not_mem_unifyBreaks t.toList
  have hfeed : ∀ l ∈ (linesChars (unifyBreaks t.toList)).map trimEndChars, '\n' ∉ l := by
    intro l hl
    obtain ⟨p, hp, rfl⟩ := List.mem_map.1 hl
    rw [linesChars_of_cr_not_mem hcr] at hp
    have hp' : p ∈ (unifyBreaks t.toList).splitOn '\n' := by
      split at hp
      · exact List.dropLast_subset _ hp
      · exact hp
    exact feed_not_mem_trimEndChars hp'
  have hjoin :
      ("\n".intercalate ((linesOf (String.ofList (unifyBreaks t.toList))).map trimEnd)).toList =
        ['\n'].intercalate ((linesChars (unifyBreaks t.toList)).map trimEndChars) := by
    simp [linesOf, trimEnd, Function.comp_def]
  rw [normalizeText, String.toList_ofList, hjoin, strip_intercalate hfeed,
    dropEmptyEnds_linesChars hcr, splitOn_unifyBreaks, keptLines]

/-! ## Normal lines -/

/-- Lines as a normal text holds them: no line holds a line feed or a carriage return, none ends
in a blank, and the first and the last line are not empty. -/
structure NormalLines (ls : List (List Char)) : Prop where
  no_feed : ∀ l ∈ ls, '\n' ∉ l
  no_return : ∀ l ∈ ls, '\r' ∉ l
  trimmed : ∀ l ∈ ls, ∀ c ∈ l.getLast?, isBlank c = false
  head_ne_nil : ∀ l ∈ ls.head?, l ≠ []
  last_ne_nil : ∀ l ∈ ls.getLast?, l ≠ []

theorem getLast?_rdropWhile {α : Type} (p : α → Bool) (l : List α) :
    ∀ x ∈ (l.rdropWhile p).getLast?, p x = false := by
  intro x hx
  have hne : l.rdropWhile p ≠ [] := fun h => by simp [h] at hx
  have hlast := List.rdropWhile_last_not _ _ hne
  rw [List.getLast?_eq_some_getLast hne, Option.mem_some_iff] at hx
  simpa [← hx] using hlast

theorem rdropWhile_of_getLast? {α : Type} {p : α → Bool} {l : List α}
    (h : ∀ x ∈ l.getLast?, p x = false) : l.rdropWhile p = l := by
  rw [List.rdropWhile_eq_self_iff]
  intro hne
  simpa using h _ (List.getLast?_eq_some_getLast hne)

theorem mem_of_mem_dropEmptyEnds {ls : List (List Char)} {l : List Char}
    (h : l ∈ dropEmptyEnds ls) : l ∈ ls :=
  (List.dropWhile_sublist _).subset ((List.rdropWhile_prefix _ _).subset h)

theorem head_dropEmptyEnds (ls : List (List Char)) :
    ∀ l ∈ (dropEmptyEnds ls).head?, l ≠ [] := by
  intro l hl
  have hl' : ((ls.dropWhile List.isEmpty).rdropWhile List.isEmpty).head? = some l := hl
  -- what is kept starts where dropping from the front stopped
  obtain ⟨rest, hrest⟩ := List.rdropWhile_prefix List.isEmpty (ls.dropWhile List.isEmpty)
  have hhead : (ls.dropWhile List.isEmpty).head? = some l := by
    rw [← hrest, List.head?_append, hl']
    rfl
  have hstop := List.head?_dropWhile_not List.isEmpty ls
  rw [hhead] at hstop
  simpa using hstop

theorem last_dropEmptyEnds (ls : List (List Char)) :
    ∀ l ∈ (dropEmptyEnds ls).getLast?, l ≠ [] := by
  intro l hl
  simpa using getLast?_rdropWhile List.isEmpty _ l hl

theorem dropEmptyEnds_of_ends {ls : List (List Char)} (hhead : ∀ l ∈ ls.head?, l ≠ [])
    (hlast : ∀ l ∈ ls.getLast?, l ≠ []) : dropEmptyEnds ls = ls := by
  have hfront : ls.dropWhile List.isEmpty = ls := by
    cases ls with
    | nil => rfl
    | cons l ls =>
      have hl : l.isEmpty = false := by simpa using hhead l rfl
      simp [hl]
  rw [dropEmptyEnds, hfront]
  exact rdropWhile_of_getLast? fun l hl => by simpa using hlast l hl

theorem trimEndChars_of_last {cs : List Char} (h : ∀ c ∈ cs.getLast?, isBlank c = false) :
    trimEndChars cs = cs :=
  rdropWhile_of_getLast? h

theorem last_trimEndChars (cs : List Char) :
    ∀ c ∈ (trimEndChars cs).getLast?, isBlank c = false :=
  getLast?_rdropWhile isBlank cs

/-- **The kept lines of every text are normal lines.** -/
theorem normalLines_keptLines (cs : List Char) : NormalLines (keptLines cs) := by
  -- every kept line is a right-trimmed piece between the line feeds of the unified text
  have hpiece : ∀ l ∈ keptLines cs, ∃ p ∈ (unifyBreaks cs).splitOn '\n', l = trimEndChars p := by
    intro l hl
    obtain ⟨p, hp, rfl⟩ := List.mem_map.1 (mem_of_mem_dropEmptyEnds hl)
    exact ⟨p, splitOn_unifyBreaks cs ▸ hp, rfl⟩
  refine ⟨fun l hl => ?_, fun l hl => ?_, fun l hl => ?_, head_dropEmptyEnds _,
    last_dropEmptyEnds _⟩
  · obtain ⟨p, hp, rfl⟩ := hpiece l hl
    exact feed_not_mem_trimEndChars hp
  · obtain ⟨p, hp, rfl⟩ := hpiece l hl
    exact fun hr => cr_not_mem_unifyBreaks cs
      (subset_of_mem_splitOn hp ((List.rdropWhile_prefix _ _).subset hr))
  · obtain ⟨p, -, rfl⟩ := hpiece l hl
    exact last_trimEndChars p

theorem mem_intercalate_newline {c : Char} :
    ∀ {ls : List (List Char)}, c ∈ ['\n'].intercalate ls → c = '\n' ∨ ∃ l ∈ ls, c ∈ l
  | [], h => by simp at h
  | [l], h => .inr ⟨l, List.mem_singleton_self l, by simpa using h⟩
  | l :: l' :: ls, h => by
    rw [List.intercalate_cons_cons, List.mem_append, List.mem_append, List.mem_singleton] at h
    rcases h with (h | h) | h
    · exact .inr ⟨l, List.mem_cons_self, h⟩
    · exact .inl h
    · rcases mem_intercalate_newline h with h | ⟨m, hm, hc⟩
      · exact .inl h
      · exact .inr ⟨m, List.mem_cons_of_mem _ hm, hc⟩

namespace NormalLines

variable {ls : List (List Char)}

theorem cr_not_mem (h : NormalLines ls) : '\r' ∉ ['\n'].intercalate ls := by
  intro hr
  rcases mem_intercalate_newline hr with hr | ⟨l, hl, hr⟩
  · exact absurd hr (by decide)
  · exact h.no_return l hl hr

theorem splitOn_intercalate (h : NormalLines ls) (hne : ls ≠ []) :
    (['\n'].intercalate ls).splitOn '\n' = ls :=
  List.splitOn_intercalate '\n' h.no_feed hne

theorem getLast?_ne (h : NormalLines ls) : (['\n'].intercalate ls).getLast? ≠ some '\n' := by
  intro hlast
  have hne : ls ≠ [] := by
    rintro rfl
    simp at hlast
  -- a text that ends in a line feed has an empty last piece
  obtain ⟨front, hfront⟩ := List.getLast?_eq_some_iff.1 hlast
  have hsplit := h.splitOn_intercalate hne
  rw [hfront, List.splitOn_append_cons_self, List.splitOn_nil] at hsplit
  exact h.last_ne_nil [] (by simp [← hsplit]) rfl

theorem head?_ne (h : NormalLines ls) : (['\n'].intercalate ls).head? ≠ some '\n' := by
  match ls, h with
  | [], _ => simp
  | [] :: _, h => exact absurd rfl (h.head_ne_nil [] rfl)
  | (c :: l) :: rest, h =>
    have hc : c ≠ '\n' := fun hc => h.no_feed _ List.mem_cons_self (hc ▸ List.mem_cons_self)
    simpa using hc

theorem linesChars_intercalate (h : NormalLines ls) : linesChars (['\n'].intercalate ls) = ls := by
  rw [linesChars_of_cr_not_mem h.cr_not_mem]
  by_cases hne : ls = []
  · subst hne
    rfl
  · -- the text is not empty and does not end in a line feed, for its last line is neither
    have hfull : (['\n'].intercalate ls).isEmpty = false := by
      rw [List.isEmpty_eq_false_iff]
      intro hempty
      have hsplit := h.splitOn_intercalate hne
      rw [hempty, List.splitOn_nil] at hsplit
      exact h.last_ne_nil [] (by simp [← hsplit]) rfl
    simp [h.getLast?_ne, hfull, h.splitOn_intercalate hne]

/-- **Normal lines, joined, are the kept lines of the text they make.** -/
theorem keptLines_intercalate (h : NormalLines ls) : keptLines (['\n'].intercalate ls) = ls := by
  by_cases hne : ls = []
  · subst hne
    rfl
  · have htrim : ls.map trimEndChars = ls :=
      (List.map_congr_left fun l hl => trimEndChars_of_last (h.trimmed l hl)).trans (List.map_id _)
    rw [keptLines, ← splitOn_unifyBreaks, unifyBreaks_of_cr_not_mem h.cr_not_mem,
      h.splitOn_intercalate hne, htrim, dropEmptyEnds_of_ends h.head_ne_nil h.last_ne_nil]

end NormalLines

/-! ## The normal form -/

/-- **What normalising a text gives.** The normal text is the kept lines of the text joined by
`\n`: its lines (as the line view reads them) are exactly those lines, each right-trimmed, with
the empty lines at either end dropped and the empty lines between kept. So it holds no `\r`, no
piece of it between line feeds ends in a blank, it neither starts nor ends with `\n`, and
normalising it again gives it back. -/
theorem normalizeText_normal_form (t : String) :
    let n := normalizeText t
    n.toList = ['\n'].intercalate (keptLines t.toList) ∧
      linesOf n = (keptLines t.toList).map String.ofList ∧
      '\r' ∉ n.toList ∧
      (∀ l ∈ n.toList.splitOn '\n', ∀ c ∈ l.getLast?, isBlank c = false) ∧
      n.toList.head? ≠ some '\n' ∧ n.toList.getLast? ≠ some '\n' ∧
      normalizeText n = n := by
  intro n
  have hn : n.toList = ['\n'].intercalate (keptLines t.toList) := normalizeText_toList t
  have hkept := normalLines_keptLines t.toList
  refine ⟨hn, ?_, hn ▸ hkept.cr_not_mem, ?_, hn ▸ hkept.head?_ne, hn ▸ hkept.getLast?_ne, ?_⟩
  · rw [linesOf, hn, hkept.linesChars_intercalate]
  · -- the pieces between line feeds are the kept lines, or the one empty piece of the empty text
    intro l hl c hc
    rw [hn] at hl
    by_cases hne : keptLines t.toList = []
    · rw [hne] at hl
      simp_all
    · rw [hkept.splitOn_intercalate hne] at hl
      exact hkept.trimmed l hl c hc
  · apply String.toList_inj.1
    rw [normalizeText_toList, hn, hkept.keptLines_intercalate]

/-- A text with `\r\n` breaks, trailing blanks and a blank line at the end. -/
example : normalizeText "first line   \r\nsecond line\r\n\r\n" = "first line\nsecond line" := by
  decide

end KnowledgeDesk.Document

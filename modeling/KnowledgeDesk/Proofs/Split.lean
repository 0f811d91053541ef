import KnowledgeDesk.Document.Split
import KnowledgeDesk.Proofs.Words
import KnowledgeDesk.Token.Encode
import Mathlib.Data.List.Basic

/-!
# What a split guarantees

Two guarantees of `SplitLimits.split`, whatever the function that counts tokens:

* **the budget** (`split_within_budget`): every segment counts at most `maxTokens` tokens,
  except a segment of one character, which no cut can make smaller;
* **the cover** (`split_covers_text`): every segment starts and ends with a solid character;
  each segment after the first starts with some last words of the one before it, which count
  at most `maxOverlap` tokens (and there are none when `maxOverlap = 0`); and the solid
  characters of the first segment, then of the other words of each later segment, are exactly
  those of the text. So nothing is lost and nothing repeated but the overlaps, and a text
  splits into nothing exactly when it is blank.

Both rest on what the two inner cuts guarantee on their own (`chunks_and_runs_within_budget`):
the chunks of any text are non-empty and join back to it, the runs of a line have solid ends and
hold its solid characters, and each chunk or run is within the budget or a single character.

A split is three folds, one inside the other: characters into the chunks of a word
(`chunkStep`), words into the runs of a line (`runStep`), passages into segments
(`packStep`). Every invariant below is a statement about what an accumulator holds once its
piece in progress is flushed (`flush`); it is proved for one step and then, by induction on the
folded list, for the whole fold.
-/

namespace KnowledgeDesk.Document

open Text

/-! ## Flushing -/

@[simp] theorem flush_empty (pieces : List String) : flush (pieces, "") = pieces := rfl

theorem flush_of_ne {current : String} (h : current ≠ "") (pieces : List String) :
    flush (pieces, current) = pieces ++ [current] := by
  simp [flush, String.isEmpty_iff, h]

theorem mem_flush {pieces : List String} {current x : String} :
    x ∈ flush (pieces, current) ↔ x ∈ pieces ∨ (x = current ∧ current ≠ "") := by
  by_cases h : current = ""
  · subst h
    simp
  · rw [flush_of_ne h]
    simp [h]

theorem flush_dropLast {chunks : List String} (hne : chunks ≠ []) (hlast : "" ∉ chunks)
    (pieces : List String) :
    flush (pieces ++ chunks.dropLast, chunks.getLast?.getD "") = pieces ++ chunks := by
  obtain ⟨init, z, rfl⟩ := List.eq_nil_or_concat chunks |>.resolve_left hne
  have hz : z ≠ "" := fun h => hlast (by simp [h])
  simp [flush_of_ne hz]

theorem flatMap_flush {α : Type} {f : String → List α} (hf : f "" = []) (pieces : List String)
    (current : String) : (flush (pieces, current)).flatMap f = pieces.flatMap f ++ f current := by
  by_cases h : current = ""
  · simp [h, hf]
  · simp [flush_of_ne h]

theorem push_ne_empty (s : String) (c : Char) : s.push c ≠ "" := by
  rw [ne_eq, ← String.toList_inj, String.toList_push, String.toList_empty]
  simp

theorem singleton_ne_empty (c : Char) : String.singleton c ≠ "" := by
  rw [ne_eq, ← String.toList_inj, String.toList_singleton, String.toList_empty]
  simp

namespace SplitLimits

variable (lim : SplitLimits) (count : String → Nat)

/-! ## The overlap -/

/-- Words a new segment may start with: some words, which count at most `maxOverlap` tokens and
leave room for the passage after them. -/
def OverlapFits (p : Passage) (shared : List String) : Prop :=
  shared ≠ [] ∧ count (" ".intercalate shared) ≤ lim.maxOverlap ∧
    count (" ".intercalate shared ++ p.separator ++ p.text) ≤ lim.maxTokens

variable {lim count}

/-- The overlap found by `growOverlap` is some last words of what it scans, and fits. The scan
keeps `words.reverse ++ taken` equal to all the words, and its best candidate is always the
words taken so far. -/
theorem growOverlap_spec {p : Passage} {all : List String} :
    ∀ (words taken : List String) (best : Option String) (o : String),
      words.reverse ++ taken = all →
      (best = none ∨ best = some (" ".intercalate taken) ∧ lim.OverlapFits count p taken) →
      lim.growOverlap count p words taken best = some o →
      ∃ shared, shared <:+ all ∧ o = " ".intercalate shared ∧ lim.OverlapFits count p shared
  | words, taken, best, o, hall, hbest, h => by
    -- when the scan stops, the best candidate so far is the answer
    have hstop : best = some o →
        ∃ shared, shared <:+ all ∧ o = " ".intercalate shared ∧ lim.OverlapFits count p shared := by
      intro hb
      rcases hbest with rfl | ⟨rfl, hfits⟩
      · cases hb
      · exact ⟨taken, ⟨words.reverse, hall⟩, (Option.some.inj hb).symm, hfits⟩
    match words with
    | [] => exact hstop h
    | w :: rest =>
      simp only [growOverlap] at h
      split at h
      · exact hstop h
      · split at h
        · exact hstop h
        · next hover hroom =>
          refine growOverlap_spec rest (w :: taken) _ o (by simp [← hall]) (Or.inr ?_) h
          exact ⟨rfl, by simp, by omega, by omega⟩

/-- **The overlap of a new segment**: some last words of the segment before, which fit. There
is none when no overlap is allowed. -/
theorem overlapOf_spec {previous o : String} {p : Passage}
    (h : lim.overlapOf count previous p = some o) :
    lim.maxOverlap ≠ 0 ∧ ∃ shared, shared <:+ wordsOf previous ∧ o = " ".intercalate shared ∧
      lim.OverlapFits count p shared := by
  unfold overlapOf at h
  split at h
  · cases h
  · next hz =>
    exact ⟨hz, growOverlap_spec _ [] none o (by simp) (Or.inl rfl) h⟩

/-! ## Passages -/

/-- Where a passage comes from: a non-blank trimmed line of the text, whole and joined by a line
break when it is within the budget, else one of its runs joined by a line break or a space. -/
theorem mem_passages {text : String} {p : Passage} (hp : p ∈ lim.passages count text) :
    ∃ line ∈ linesOf text, trim line ≠ "" ∧
      ((count (trim line) ≤ lim.maxTokens ∧ p = ⟨trim line, "\n"⟩) ∨
        (p.text ∈ lim.lineRuns count (trim line) ∧ (p.separator = "\n" ∨ p.separator = " "))) := by
  obtain ⟨l, hl, hpl⟩ := List.mem_flatMap.1 hp
  obtain ⟨hmem, hne⟩ := List.mem_filter.1 hl
  obtain ⟨line, hline, rfl⟩ := List.mem_map.1 hmem
  refine ⟨line, hline, by simpa [String.isEmpty_iff] using hne, ?_⟩
  unfold linePassages at hpl
  split at hpl
  · next hle => exact Or.inl ⟨hle, by simpa using hpl⟩
  · obtain ⟨⟨run, i⟩, hri, rfl⟩ := List.mem_map.1 hpl
    refine Or.inr ⟨List.fst_mem_of_mem_zipIdx hri, ?_⟩
    by_cases hi : i = 0 <;> simp [hi]

theorem map_text_linePassages (line : String) :
    (lim.linePassages count line).map Passage.text =
      if count line ≤ lim.maxTokens then [line] else lim.lineRuns count line := by
  unfold linePassages
  split
  · rfl
  · rw [List.map_map]
    exact List.zipIdx_map_fst 0 _

/-! ## One step of each fold -/

variable (lim count) in
theorem chunkStep_cases (chunks : List String) (current : String) (c : Char) :
    (lim.maxTokens < count (current.push c) ∧
      lim.chunkStep count (chunks, current) c = (flush (chunks, current), String.singleton c)) ∨
    (count (current.push c) ≤ lim.maxTokens ∧
      lim.chunkStep count (chunks, current) c = (chunks, current.push c)) := by
  simp only [chunkStep]
  split
  · next hover => exact Or.inl ⟨hover, rfl⟩
  · next hle => exact Or.inr ⟨by omega, rfl⟩

variable (lim count) in
/-- What one word does to the runs of a line: it joins the run in progress when the two fit,
else the run is cut off and the word starts the next one, whole when it fits and else as the
last of its chunks, the others cut off. -/
theorem runStep_cases (runs : List String) (current word : String) :
    ∃ candidate, (current = "" ∧ candidate = word ∨ current ≠ "" ∧
        candidate = current ++ " " ++ word) ∧
      ((count candidate ≤ lim.maxTokens ∧
          lim.runStep count (runs, current) word = (runs, candidate)) ∨
        (lim.maxTokens < count candidate ∧ count word ≤ lim.maxTokens ∧
          lim.runStep count (runs, current) word = (flush (runs, current), word)) ∨
        (lim.maxTokens < count candidate ∧ lim.maxTokens < count word ∧
          lim.runStep count (runs, current) word =
            (flush (runs, current) ++ (lim.wordChunks count word).dropLast,
              (lim.wordChunks count word).getLast?.getD ""))) := by
  refine ⟨if current = "" then word else current ++ " " ++ word, ?_, ?_⟩
  · by_cases h : current = "" <;> simp [h]
  · have hcand : (if current.isEmpty = true then word else current ++ " " ++ word) =
        if current = "" then word else current ++ " " ++ word := by
      simp [String.isEmpty_iff]
    simp only [runStep, hcand]
    generalize (if current = "" then word else current ++ " " ++ word) = candidate
    split
    · next hle => exact Or.inl ⟨hle, rfl⟩
    · next hover =>
      split
      · next hword => exact Or.inr (Or.inl ⟨by omega, hword, rfl⟩)
      · next hword => exact Or.inr (Or.inr ⟨by omega, by omega, rfl⟩)

variable (lim count) in
/-- What one passage does to the segments of a text: it is the first segment when there is
none yet; it joins the segment in progress when the two fit; else that segment is cut off and
the next one is the passage, after the overlap when there is one. -/
theorem packStep_cases (segments : List String) (current : String) (p : Passage) :
    (current = "" ∧ lim.packStep count (segments, current) p = (segments, p.text)) ∨
    (current ≠ "" ∧ count (current ++ p.separator ++ p.text) ≤ lim.maxTokens ∧
      lim.packStep count (segments, current) p = (segments, current ++ p.separator ++ p.text)) ∨
    (current ≠ "" ∧ lim.maxTokens < count (current ++ p.separator ++ p.text) ∧
      ∃ o, lim.overlapOf count current p = some o ∧
        lim.packStep count (segments, current) p =
          (segments ++ [current], o ++ p.separator ++ p.text)) ∨
    (current ≠ "" ∧ lim.maxTokens < count (current ++ p.separator ++ p.text) ∧
      lim.overlapOf count current p = none ∧
        lim.packStep count (segments, current) p = (segments ++ [current], p.text)) := by
  simp only [packStep]
  split
  · next hempty => exact Or.inl ⟨String.isEmpty_iff.1 hempty, rfl⟩
  · next hne =>
    have hcur : current ≠ "" := fun hc => hne (String.isEmpty_iff.2 hc)
    split
    · next hle => exact Or.inr (Or.inl ⟨hcur, hle, rfl⟩)
    · next hover =>
      cases ho : lim.overlapOf count current p with
      | some o => exact Or.inr (Or.inr (Or.inl ⟨hcur, by omega, o, rfl, rfl⟩))
      | none => exact Or.inr (Or.inr (Or.inr ⟨hcur, by omega, rfl, rfl⟩))

/-! ## The budget -/

variable (lim count) in
/-- A piece within the budget, or of one character, which no cut can make smaller. -/
def Fits (s : String) : Prop := count s ≤ lim.maxTokens ∨ s.length = 1

variable (lim count) in
/-- Every piece an accumulator holds, once flushed, fits. -/
def AllFit (acc : List String × String) : Prop := ∀ x ∈ flush acc, lim.Fits count x

theorem allFit_nil : lim.AllFit count ([], "") := by
  simp [AllFit]

/-- A chunk grows while it fits; a character that would take it over the budget starts the next
chunk on its own, and a single character fits by definition. -/
theorem allFit_chunkStep {acc : List String × String} (c : Char) (h : lim.AllFit count acc) :
    lim.AllFit count (lim.chunkStep count acc c) := by
  obtain ⟨chunks, current⟩ := acc
  intro x hx
  rcases chunkStep_cases lim count chunks current c with ⟨-, heq⟩ | ⟨hle, heq⟩
  · -- over the budget: the chunk so far is cut off, the character starts the next one
    rw [heq, flush_of_ne (singleton_ne_empty c)] at hx
    rcases List.mem_append.1 hx with hx | hx
    · exact h x hx
    · rw [List.mem_singleton.1 hx]
      exact Or.inr String.length_singleton
  · rw [heq, flush_of_ne (push_ne_empty current c)] at hx
    rcases List.mem_append.1 hx with hx | hx
    · exact h x (mem_flush.2 (Or.inl hx))
    · rw [List.mem_singleton.1 hx]
      exact Or.inl hle

theorem fits_of_mem_wordChunks {word x : String} (hx : x ∈ lim.wordChunks count word) :
    lim.Fits count x :=
  List.foldlRecOn (motive := lim.AllFit count) word.toList (lim.chunkStep count) allFit_nil
    (fun _ hacc c _ => allFit_chunkStep c hacc) x hx

theorem getLast_wordChunks_mem {word x : String}
    (hx : x = (lim.wordChunks count word).getLast?.getD "") (hne : x ≠ "") :
    x ∈ lim.wordChunks count word := by
  cases hlast : (lim.wordChunks count word).getLast? with
  | none => simp [hlast] at hx; exact absurd hx hne
  | some z =>
    rw [hlast, Option.getD_some] at hx
    exact hx ▸ List.mem_of_getLast? hlast

/-- A run grows by a word while it fits; else it is cut off and the word starts the next run,
whole when it fits and else as its chunks, which all fit. -/
theorem allFit_runStep {acc : List String × String} (word : String) (h : lim.AllFit count acc) :
    lim.AllFit count (lim.runStep count acc word) := by
  obtain ⟨runs, current⟩ := acc
  intro x hx
  obtain ⟨candidate, -, ⟨hle, heq⟩ | ⟨-, hword, heq⟩ | ⟨-, -, heq⟩⟩ :=
    runStep_cases lim count runs current word
  · rw [heq] at hx
    rcases mem_flush.1 hx with hx | ⟨rfl, -⟩
    · exact h x (mem_flush.2 (Or.inl hx))
    · exact Or.inl hle
  · rw [heq] at hx
    rcases mem_flush.1 hx with hx | ⟨rfl, -⟩
    · exact h x hx
    · exact Or.inl hword
  · -- the word is cut into chunks: all but the last are runs, the last is in progress
    rw [heq] at hx
    rcases mem_flush.1 hx with hx | ⟨hx, hne⟩
    · rcases List.mem_append.1 hx with hx | hx
      · exact h x hx
      · exact fits_of_mem_wordChunks (List.dropLast_subset _ hx)
    · exact fits_of_mem_wordChunks (getLast_wordChunks_mem hx (hx ▸ hne))

theorem fits_of_mem_lineRuns {line x : String} (hx : x ∈ lim.lineRuns count line) :
    lim.Fits count x :=
  List.foldlRecOn (motive := lim.AllFit count) (wordsOf line) (lim.runStep count) allFit_nil
    (fun _ hacc w _ => allFit_runStep w hacc) x hx

theorem fits_of_mem_passages {text : String} {p : Passage} (hp : p ∈ lim.passages count text) :
    lim.Fits count p.text := by
  obtain ⟨line, -, -, ⟨hle, rfl⟩ | ⟨hrun, -⟩⟩ := mem_passages hp
  · exact Or.inl hle
  · exact fits_of_mem_lineRuns hrun

/-- A segment grows by a passage while it stays within the budget; else it is done, and the
next one is the passage, after an overlap only when the two stay within the budget. -/
theorem allFit_packStep {acc : List String × String} {p : Passage} (hp : lim.Fits count p.text)
    (h : lim.AllFit count acc) : lim.AllFit count (lim.packStep count acc p) := by
  obtain ⟨segments, current⟩ := acc
  intro x hx
  rcases packStep_cases lim count segments current p with
    ⟨rfl, heq⟩ | ⟨-, hle, heq⟩ | ⟨hcur, -, o, ho, heq⟩ | ⟨hcur, -, -, heq⟩
  · rw [heq] at hx
    rcases mem_flush.1 hx with hx | ⟨rfl, -⟩
    · exact h x hx
    · exact hp
  · rw [heq] at hx
    rcases mem_flush.1 hx with hx | ⟨rfl, -⟩
    · exact h x (mem_flush.2 (Or.inl hx))
    · exact Or.inl hle
  · rw [heq, ← flush_of_ne hcur] at hx
    rcases mem_flush.1 hx with hx | ⟨rfl, -⟩
    · exact h x hx
    · obtain ⟨-, shared, -, rfl, -, -, hroom⟩ := overlapOf_spec ho
      exact Or.inl hroom
  · rw [heq, ← flush_of_ne hcur] at hx
    rcases mem_flush.1 hx with hx | ⟨rfl, -⟩
    · exact h x hx
    · exact hp

theorem fits_of_mem_split {text s : String} (hs : s ∈ lim.split count text) :
    lim.Fits count s :=
  List.foldlRecOn (motive := lim.AllFit count) (lim.passages count text) (lim.packStep count)
    allFit_nil (fun _ hacc _ hp => allFit_packStep (fits_of_mem_passages hp) hacc) s hs

/-- **The budget of a split.** Every segment counts at most `max maxTokens 1` tokens, or is a
single character, whatever the function that counts tokens. -/
theorem split_within_budget (count : String → Nat) (maxTokens maxOverlap : Nat) (text : String) :
    ∀ s ∈ (SplitLimits.new maxTokens maxOverlap).split count text,
      count s ≤ max maxTokens 1 ∨ s.length = 1 :=
  fun _ hs => fits_of_mem_split hs

/-- A text of one emoji, counted two tokens a character under a budget of one, is one segment, and
that segment is a single character. -/
theorem split_within_budget_emoji :
    "😀" ∈ (SplitLimits.new 1 0).split (fun t => 2 * t.length) "😀" ∧
      (2 * "😀".length ≤ max 1 1 ∨ "😀".length = 1) :=
  ⟨by decide, split_within_budget (fun t => 2 * t.length) 1 0 "😀" "😀" (by decide)⟩

/-- The budget cannot be kept for a character that alone counts more: a text of one emoji, which
counts two tokens, makes a segment of two tokens under a budget of one. -/
theorem split_single_char_over_budget :
    ∃ s ∈ (SplitLimits.new 1 0).split (fun t => 2 * t.length) "😀", ¬ 2 * s.length ≤ max 1 1 :=
  ⟨"😀", by decide, by decide⟩

/-! ## The cover: chunks and runs -/

/-- Non-empty chunks that hold, in order, the characters `done`. -/
def ChunksHold (done : List Char) (acc : List String × String) : Prop :=
  (∀ x ∈ flush acc, x ≠ "") ∧ (flush acc).flatMap String.toList = done

/-- Chunks that are words and hold, in order, the characters `done`. -/
def WordsHold (done : List Char) (acc : List String × String) : Prop :=
  (∀ x ∈ flush acc, IsWord x) ∧ (flush acc).flatMap String.toList = done

/-- A character either starts a new chunk or grows the one in progress; either way the chunks
stay non-empty and hold one more character. -/
theorem chunksHold_chunkStep {done : List Char} {acc : List String × String} (c : Char)
    (h : ChunksHold done acc) : ChunksHold (done ++ [c]) (lim.chunkStep count acc c) := by
  obtain ⟨chunks, current⟩ := acc
  obtain ⟨hne, hchars⟩ := h
  rw [flatMap_flush rfl] at hchars
  rcases chunkStep_cases lim count chunks current c with ⟨-, heq⟩ | ⟨-, heq⟩
  · -- the chunk so far is cut off and the character starts the next one
    rw [heq, ChunksHold, flush_of_ne (singleton_ne_empty c), List.flatMap_append,
      flatMap_flush rfl, hchars]
    refine ⟨fun x hx => ?_, by simp⟩
    rcases List.mem_append.1 hx with hx | hx
    · exact hne x hx
    · rw [List.mem_singleton.1 hx]
      exact singleton_ne_empty c
  · rw [heq, ChunksHold, flush_of_ne (push_ne_empty current c)]
    refine ⟨fun x hx => ?_, by simp [String.toList_push, ← hchars]⟩
    rcases List.mem_append.1 hx with hx | hx
    · exact hne x (mem_flush.2 (Or.inl hx))
    · rw [List.mem_singleton.1 hx]
      exact push_ne_empty current c

theorem chunksHold_foldl_chunkStep :
    ∀ (cs : List Char) {done : List Char} {acc : List String × String},
      ChunksHold done acc → ChunksHold (done ++ cs) (cs.foldl (lim.chunkStep count) acc)
  | [], _, _, h => by simpa using h
  | c :: cs, _, _, h => by
    simpa using chunksHold_foldl_chunkStep cs (chunksHold_chunkStep c h)

theorem ChunksHold.wordsHold {done : List Char} {acc : List String × String}
    (h : ChunksHold done acc) (hdone : ∀ c ∈ done, isBlank c = false) : WordsHold done acc := by
  refine ⟨fun x hx => ⟨h.1 x hx, fun c hc => hdone c ?_⟩, h.2⟩
  -- a chunk's characters are among those the chunks hold
  rw [← h.2]
  exact List.mem_flatMap.2 ⟨x, hx, hc⟩

variable (lim count) in
/-- **The chunks of any text** are non-empty and hold, in order, its characters. -/
theorem chunksHold_wordChunks (word : String) :
    ChunksHold word.toList (word.toList.foldl (lim.chunkStep count) ([], "")) := by
  have hstart : ChunksHold [] ([], "") := ⟨by simp, rfl⟩
  simpa using chunksHold_foldl_chunkStep word.toList hstart

variable (lim count) in
/-- **The chunks of a word** are words that hold, in order, its characters. -/
theorem wordChunks_spec {word : String} (hw : IsWord word) :
    (∀ x ∈ lim.wordChunks count word, IsWord x) ∧
      (lim.wordChunks count word).flatMap String.toList = word.toList :=
  (chunksHold_wordChunks lim count word).wordsHold hw.2

variable (lim count) in
theorem wordChunks_ne_nil {word : String} (hw : IsWord word) :
    lim.wordChunks count word ≠ [] ∧ "" ∉ lim.wordChunks count word := by
  obtain ⟨hwords, hchars⟩ := wordChunks_spec lim count hw
  refine ⟨fun hnil => ?_, fun hmem => (hwords "" hmem).1 rfl⟩
  rw [hnil, List.flatMap_nil] at hchars
  exact hw.1 (String.toList_eq_nil_iff.1 hchars.symm)

/-- Runs with solid ends that hold, in order, the characters of the words `done`. -/
def RunsHold (done : List String) (acc : List String × String) : Prop :=
  (∀ x ∈ flush acc, SolidEnds x) ∧ (flush acc).flatMap solidChars = done.flatMap String.toList

/-- The candidate a word makes with the run in progress has solid ends and holds the run's
solid characters, then the word's. -/
theorem candidate_spec {runs : List String} {current word candidate : String} (hw : IsWord word)
    (hends : ∀ x ∈ flush (runs, current), SolidEnds x)
    (hcand : current = "" ∧ candidate = word ∨ current ≠ "" ∧ candidate = current ++ " " ++ word) :
    SolidEnds candidate ∧ solidChars candidate = solidChars current ++ solidChars word := by
  rcases hcand with ⟨rfl, rfl⟩ | ⟨hcur, rfl⟩
  · exact ⟨hw.solidEnds, rfl⟩
  · have hcurends : SolidEnds current := hends current (mem_flush.2 (Or.inr ⟨rfl, hcur⟩))
    have hspace : solidChars " " = [] := solidChars_eq_nil (by simp [isBlank])
    exact ⟨hcurends.append hw.solidEnds " ", by simp [hspace]⟩

/-- A word joins the run in progress or starts the next run, whole or as its chunks; either
way the runs keep solid ends and hold the word's characters after the others. -/
theorem runsHold_runStep {done : List String} {acc : List String × String} {word : String}
    (hw : IsWord word) (h : RunsHold done acc) :
    RunsHold (done ++ [word]) (lim.runStep count acc word) := by
  obtain ⟨runs, current⟩ := acc
  obtain ⟨hends, hchars⟩ := h
  have hsolid : solidChars "" = [] := rfl
  have hdone : (done ++ [word]).flatMap String.toList =
      (flush (runs, current)).flatMap solidChars ++ solidChars word := by
    rw [hchars, hw.solidChars_eq]
    simp
  obtain ⟨candidate, hcand, ⟨-, heq⟩ | ⟨-, -, heq⟩ | ⟨-, -, heq⟩⟩ :=
    runStep_cases lim count runs current word
  · -- the word joins the run in progress
    obtain ⟨hcends, hcchars⟩ := candidate_spec hw hends hcand
    rw [heq, RunsHold, flush_of_ne hcends.ne_empty, hdone, flatMap_flush hsolid]
    refine ⟨fun x hx => ?_, by simp [hcchars]⟩
    rcases List.mem_append.1 hx with hx | hx
    · exact hends x (mem_flush.2 (Or.inl hx))
    · rw [List.mem_singleton.1 hx]
      exact hcends
  · -- the run is cut off and the word starts the next one
    rw [heq, RunsHold, flush_of_ne hw.1, hdone]
    refine ⟨fun x hx => ?_, by simp⟩
    rcases List.mem_append.1 hx with hx | hx
    · exact hends x hx
    · rw [List.mem_singleton.1 hx]
      exact hw.solidEnds
  · -- the word is cut into chunks, the last of which is in progress
    obtain ⟨hwords, hwchars⟩ := wordChunks_spec lim count hw
    obtain ⟨hne, hnone⟩ := wordChunks_ne_nil lim count hw
    rw [heq, RunsHold, flush_dropLast hne hnone, hdone, List.flatMap_append]
    refine ⟨fun x hx => ?_, ?_⟩
    · rcases List.mem_append.1 hx with hx | hx
      · exact hends x hx
      · exact (hwords x hx).solidEnds
    · -- every chunk is a word, so all its characters are solid
      rw [List.flatMap_congr fun x hx => (hwords x hx).solidChars_eq, hwchars, hw.solidChars_eq]

theorem runsHold_foldl_runStep :
    ∀ (ws : List String) {done : List String} {acc : List String × String},
      (∀ w ∈ ws, IsWord w) → RunsHold done acc →
      RunsHold (done ++ ws) (ws.foldl (lim.runStep count) acc)
  | [], _, _, _, h => by simpa using h
  | w :: ws, done, acc, hws, h => by
    have hstep : RunsHold (done ++ [w]) (lim.runStep count acc w) :=
      runsHold_runStep (hws w (by simp)) h
    have := runsHold_foldl_runStep ws (fun x hx => hws x (by simp [hx])) hstep
    simpa using this

/-- **The runs of a line** start and end with a solid character and hold, in order, the solid
characters of the line. -/
theorem lineRuns_spec (line : String) :
    (∀ x ∈ lim.lineRuns count line, SolidEnds x) ∧
      (lim.lineRuns count line).flatMap solidChars = solidChars line := by
  have hstart : RunsHold [] ([], "") := ⟨by simp, rfl⟩
  have h : RunsHold ([] ++ wordsOf line) ((wordsOf line).foldl (lim.runStep count) ([], "")) :=
    runsHold_foldl_runStep (wordsOf line) (fun _ hw => isWord_of_mem_wordsOf hw) hstart
  refine ⟨h.1, ?_⟩
  have hchars := h.2
  rw [List.nil_append] at hchars
  rw [← flatMap_wordsOf]
  exact hchars

/-- **Words and lines cut within the budget.** Whatever the function that counts tokens and the
budget: the chunks of any text are non-empty and join back to it; the runs of any line start
and end with a solid character and hold, in order, the solid characters of the line; and every
chunk and every run counts at most `maxTokens` tokens or is a single character. -/
theorem chunks_and_runs_within_budget (lim : SplitLimits) (count : String → Nat) :
    (∀ word : String, String.join (lim.wordChunks count word) = word ∧
      ∀ x ∈ lim.wordChunks count word, x ≠ "" ∧ (count x ≤ lim.maxTokens ∨ x.length = 1)) ∧
    (∀ line : String, (lim.lineRuns count line).flatMap solidChars = solidChars line ∧
      ∀ x ∈ lim.lineRuns count line, SolidEnds x ∧ (count x ≤ lim.maxTokens ∨ x.length = 1)) := by
  constructor
  · intro word
    obtain ⟨hne, hchars⟩ := chunksHold_wordChunks lim count word
    refine ⟨String.toList_inj.mp ?_, fun x hx => ⟨hne x hx, fits_of_mem_wordChunks hx⟩⟩
    rw [String.toList_join]
    exact hchars
  · intro line
    obtain ⟨hends, hsolid⟩ : (∀ x ∈ lim.lineRuns count line, SolidEnds x) ∧
        (lim.lineRuns count line).flatMap solidChars = solidChars line := lineRuns_spec line
    exact ⟨hsolid, fun x hx => ⟨hends x hx, fits_of_mem_lineRuns hx⟩⟩

/-! ## The cover: passages -/

theorem solidEnds_of_mem_passages {text : String} {p : Passage}
    (hp : p ∈ lim.passages count text) : SolidEnds p.text := by
  obtain ⟨line, -, hne, ⟨-, rfl⟩ | ⟨hrun, -⟩⟩ := mem_passages hp
  · exact solidEnds_trim hne
  · exact (lineRuns_spec (trim line)).1 _ hrun

theorem separator_of_mem_passages {text : String} {p : Passage}
    (hp : p ∈ lim.passages count text) : p.separator = "\n" ∨ p.separator = " " := by
  obtain ⟨line, -, -, ⟨-, rfl⟩ | ⟨-, hsep⟩⟩ := mem_passages hp
  · exact Or.inl rfl
  · exact hsep

theorem flatMap_solidChars_linePassages (line : String) :
    (lim.linePassages count line).flatMap (fun p => solidChars p.text) = solidChars line := by
  rw [← List.flatMap_map Passage.text solidChars, map_text_linePassages]
  split
  · simp
  · exact (lineRuns_spec line).2

theorem flatMap_solidChars_passages (text : String) :
    (lim.passages count text).flatMap (fun p => solidChars p.text) = solidChars text := by
  -- a blank line, trimmed to nothing, holds nothing
  have hfilter : ∀ ls : List String,
      (ls.filter (!·.isEmpty)).flatMap solidChars = ls.flatMap solidChars := by
    intro ls
    induction ls with
    | nil => rfl
    | cons l ls ih =>
      by_cases hl : l = ""
      · simp [hl, ih]
        rfl
      · simp [hl, ih]
  rw [passages, List.flatMap_assoc,
    List.flatMap_congr fun line _ => flatMap_solidChars_linePassages line, hfilter,
    List.flatMap_map]
  simp only [solidChars_trim]
  exact flatMap_solidChars_linesOf text

/-! ## The cover: segments -/

variable (lim count) in
/-- How a segment follows the one before it: it opens with `shared`, some last words of the one
before, which together count at most `maxOverlap` tokens (and there are none when no overlap is
allowed), and its other words are `fresh`. -/
def Follows (prev next : String) (fresh : List String) : Prop :=
  ∃ shared, shared <:+ wordsOf prev ∧ wordsOf next = shared ++ fresh ∧
    count (" ".intercalate shared) ≤ lim.maxOverlap ∧ (lim.maxOverlap = 0 → shared = [])

variable (lim count) in
/-- `Chain prev segs cs`: each of `segs` follows the one before it, the first following `prev`,
and the words that each adds to the one before hold, in order, the characters `cs`. -/
inductive Chain : String → List String → List Char → Prop
  | nil (prev : String) : Chain prev [] []
  | cons {prev next : String} {rest fresh : List String} {cs : List Char} :
      lim.Follows count prev next fresh → Chain next rest cs →
      Chain prev (next :: rest) (fresh.flatMap String.toList ++ cs)

variable (lim count) in
/-- Segments that hold the characters `cs`: the solid characters of the first segment, then the
words each later segment adds to the one before it. No segments hold nothing. -/
inductive Covers : List String → List Char → Prop
  | nil : Covers [] []
  | cons {s : String} {rest : List String} {added : List Char} :
      lim.Chain count s rest added → Covers (s :: rest) (solidChars s ++ added)

theorem Covers.eq_nil {cs : List Char} (h : lim.Covers count [] cs) : cs = [] := by
  cases h
  rfl

theorem Covers.cons_inv {s : String} {rest : List String} {cs : List Char}
    (h : lim.Covers count (s :: rest) cs) :
    ∃ added, cs = solidChars s ++ added ∧ lim.Chain count s rest added := by
  cases h with
  | cons hchain => exact ⟨_, rfl, hchain⟩

theorem Chain.grow {last last' : String} {W : List String}
    (hw : wordsOf last' = wordsOf last ++ W) :
    ∀ {prev : String} {segs : List String} {cs : List Char},
      lim.Chain count prev (segs ++ [last]) cs →
      lim.Chain count prev (segs ++ [last']) (cs ++ W.flatMap String.toList)
  | prev, [], _, h => by
    cases h with
    | @cons _ _ _ fresh _ hf hrest =>
      cases hrest
      obtain ⟨shared, hsuf, hwords, hcount, hzero⟩ := hf
      have hf' : lim.Follows count prev last' (fresh ++ W) :=
        ⟨shared, hsuf, by rw [hw, hwords, List.append_assoc], hcount, hzero⟩
      simpa using Chain.cons hf' (Chain.nil last')
  | prev, s :: segs, _, h => by
    cases h with
    | cons hf hrest =>
      simpa using Chain.cons hf (Chain.grow hw hrest)

theorem Chain.snoc {last next : String} {fresh : List String}
    (hf : lim.Follows count last next fresh) :
    ∀ {prev : String} {segs : List String} {cs : List Char},
      lim.Chain count prev (segs ++ [last]) cs →
      lim.Chain count prev (segs ++ [last, next]) (cs ++ fresh.flatMap String.toList)
  | prev, [], _, h => by
    cases h with
    | cons hf0 hrest =>
      cases hrest
      simpa using Chain.cons hf0 (Chain.cons hf (Chain.nil next))
  | prev, s :: segs, _, h => by
    cases h with
    | cons hf0 hrest =>
      simpa using Chain.cons hf0 (Chain.snoc hf hrest)

theorem Covers.grow {segs : List String} {last last' : String} {W : List String} {cs : List Char}
    (h : lim.Covers count (segs ++ [last]) cs) (hw : wordsOf last' = wordsOf last ++ W) :
    lim.Covers count (segs ++ [last']) (cs ++ W.flatMap String.toList) := by
  cases segs with
  | nil =>
    cases h with
    | cons hchain =>
      cases hchain
      have hsolid : solidChars last ++ [] ++ W.flatMap String.toList = solidChars last' ++ [] := by
        rw [← flatMap_wordsOf, ← flatMap_wordsOf, hw]
        simp
      rw [hsolid]
      exact Covers.cons (Chain.nil last')
  | cons s segs =>
    cases h with
    | cons hchain =>
      rw [List.append_assoc]
      exact Covers.cons (hchain.grow hw)

theorem Covers.snoc {segs : List String} {last next : String} {fresh : List String}
    {cs : List Char} (h : lim.Covers count (segs ++ [last]) cs)
    (hf : lim.Follows count last next fresh) :
    lim.Covers count (segs ++ [last, next]) (cs ++ fresh.flatMap String.toList) := by
  cases segs with
  | nil =>
    cases h with
    | cons hchain =>
      cases hchain
      have := Covers.cons (Chain.cons hf (Chain.nil next))
      simpa using this
  | cons s segs =>
    cases h with
    | cons hchain =>
      rw [List.append_assoc]
      exact Covers.cons (hchain.snoc hf)

variable (lim count) in
/-- Segments with solid ends, the last one in progress, that hold the characters `cs`; there is
a segment in progress as soon as there is any segment. -/
def SegmentsHold (cs : List Char) (acc : List String × String) : Prop :=
  (acc.2 = "" → acc.1 = []) ∧ (∀ x ∈ flush acc, SolidEnds x) ∧ lim.Covers count (flush acc) cs

theorem segmentsHold_first {text : String} (hends : SolidEnds text) :
    lim.SegmentsHold count (solidChars text) ([], text) := by
  refine ⟨fun hn => absurd hn hends.ne_empty, ?_, ?_⟩
  · rw [flush_of_ne hends.ne_empty]
    simpa using hends
  · rw [flush_of_ne hends.ne_empty]
    simpa using Covers.cons (Chain.nil text : lim.Chain count text [] [])

theorem SegmentsHold.grow {cs : List Char} {segments : List String} {current grown : String}
    {W : List String} (h : lim.SegmentsHold count cs (segments, current)) (hcur : current ≠ "")
    (hgrown : SolidEnds grown) (hw : wordsOf grown = wordsOf current ++ W) :
    lim.SegmentsHold count (cs ++ W.flatMap String.toList) (segments, grown) := by
  obtain ⟨-, hsolid, hcovers⟩ := h
  rw [flush_of_ne hcur] at hcovers hsolid
  refine ⟨fun hn => absurd hn hgrown.ne_empty, fun x hx => ?_, ?_⟩
  · rw [flush_of_ne hgrown.ne_empty] at hx
    rcases List.mem_append.1 hx with hx | hx
    · exact hsolid x (List.mem_append_left _ hx)
    · rw [List.mem_singleton.1 hx]
      exact hgrown
  · rw [flush_of_ne hgrown.ne_empty]
    exact hcovers.grow hw

theorem SegmentsHold.start {cs : List Char} {segments : List String} {current next : String}
    {fresh : List String} (h : lim.SegmentsHold count cs (segments, current))
    (hcur : current ≠ "") (hnext : SolidEnds next) (hf : lim.Follows count current next fresh) :
    lim.SegmentsHold count (cs ++ fresh.flatMap String.toList) (segments ++ [current], next) := by
  obtain ⟨-, hsolid, hcovers⟩ := h
  rw [flush_of_ne hcur] at hcovers hsolid
  refine ⟨fun hn => absurd hn hnext.ne_empty, fun x hx => ?_, ?_⟩
  · rw [flush_of_ne hnext.ne_empty] at hx
    rcases List.mem_append.1 hx with hx | hx
    · exact hsolid x hx
    · rw [List.mem_singleton.1 hx]
      exact hnext
  · rw [flush_of_ne hnext.ne_empty, List.append_assoc, List.singleton_append]
    exact hcovers.snoc hf

/-- A passage is the first segment, joins the segment in progress, or starts the next segment
after the overlap, if any; either way the segments keep solid ends and hold its solid characters
after the others. -/
theorem segmentsHold_packStep (hempty : count "" = 0) {cs : List Char}
    {acc : List String × String} {p : Passage} (hends : SolidEnds p.text)
    (hsep : p.separator = "\n" ∨ p.separator = " ") (h : lim.SegmentsHold count cs acc) :
    lim.SegmentsHold count (cs ++ solidChars p.text) (lim.packStep count acc p) := by
  obtain ⟨segments, current⟩ := acc
  -- the separator is a blank, so it joins no word of one side with a word of the other
  have hwsep : ∀ a b : String, wordsOf (a ++ p.separator ++ b) = wordsOf a ++ wordsOf b := by
    rcases hsep with hs | hs <;> rw [hs]
    · exact wordsOf_append_newline
    · exact wordsOf_append_space
  have hfresh : (wordsOf p.text).flatMap String.toList = solidChars p.text := flatMap_wordsOf _
  rcases packStep_cases lim count segments current p with
    ⟨rfl, heq⟩ | ⟨hcur, -, heq⟩ | ⟨hcur, -, o, ho, heq⟩ | ⟨hcur, -, -, heq⟩
  · -- the first segment
    obtain ⟨hfirst, -, hcovers⟩ := h
    obtain rfl := hfirst rfl
    cases hcovers
    rw [heq]
    simpa using segmentsHold_first hends
  · -- the passage joins the segment in progress
    have hcurends : SolidEnds current := h.2.1 current (mem_flush.2 (Or.inr ⟨rfl, hcur⟩))
    rw [heq, ← hfresh]
    exact h.grow hcur (hcurends.append hends _) (hwsep current p.text)
  · -- a new segment that starts with the overlap
    obtain ⟨hnz, shared, hsuf, rfl, hne, hcount, -⟩ := overlapOf_spec ho
    have hwords : ∀ w ∈ shared, IsWord w := fun w hw => isWord_of_mem_wordsOf (hsuf.subset hw)
    have hoends : SolidEnds (" ".intercalate shared) := solidEnds_intercalate hne hwords
    rw [heq, ← hfresh]
    refine h.start hcur (hoends.append hends _) ⟨shared, hsuf, ?_, hcount, fun hz => absurd hz hnz⟩
    rw [hwsep, wordsOf_intercalate hwords]
  · -- a new segment that is the passage alone
    rw [heq, ← hfresh]
    exact h.start hcur hends ⟨[], List.nil_suffix, rfl, by simp [hempty], fun _ => rfl⟩

theorem segmentsHold_foldl_packStep (hempty : count "" = 0) :
    ∀ (ps : List Passage) {cs : List Char} {acc : List String × String},
      (∀ p ∈ ps, SolidEnds p.text ∧ (p.separator = "\n" ∨ p.separator = " ")) →
      lim.SegmentsHold count cs acc →
      lim.SegmentsHold count (cs ++ ps.flatMap fun p => solidChars p.text)
        (ps.foldl (lim.packStep count) acc)
  | [], _, _, _, h => by simpa using h
  | p :: ps, cs, acc, hps, h => by
    obtain ⟨hends, hsep⟩ := hps p (by simp)
    have hstep := segmentsHold_packStep hempty hends hsep h
    have := segmentsHold_foldl_packStep hempty ps (fun q hq => hps q (by simp [hq])) hstep
    simpa using this

/-- **The cover of a split.** Every segment starts and ends with a solid character; each
segment follows the one before it, opening with some of its last words that count at most
`maxOverlap` tokens (none when `maxOverlap = 0`); the first segment and the words that each
later segment adds hold exactly the solid characters of the text, in order; and a text has no
segments exactly when it is blank. This holds for any budgets and any way of counting tokens
that counts nothing in the empty text. -/
theorem split_covers_text (count : String → Nat) (hempty : count "" = 0) (lim : SplitLimits)
    (text : String) :
    (∀ s ∈ lim.split count text, SolidEnds s) ∧
      lim.Covers count (lim.split count text) (solidChars text) ∧
      (lim.split count text = [] ↔ isBlankText text = true) := by
  have hsplit : lim.split count text =
      flush ((lim.passages count text).foldl (lim.packStep count) ([], "")) := rfl
  have hstart : lim.SegmentsHold count [] ([], "") := ⟨fun _ => rfl, by simp, Covers.nil⟩
  have h : lim.SegmentsHold count ([] ++ (lim.passages count text).flatMap fun p => solidChars p.text)
      ((lim.passages count text).foldl (lim.packStep count) ([], "")) :=
    segmentsHold_foldl_packStep hempty (lim.passages count text)
      (fun p hp => ⟨solidEnds_of_mem_passages hp, separator_of_mem_passages hp⟩) hstart
  rw [List.nil_append, flatMap_solidChars_passages] at h
  obtain ⟨-, hends, hcovers⟩ := h
  rw [← hsplit] at hends hcovers
  refine ⟨hends, hcovers, ?_⟩
  rw [isBlankText_iff_solidChars]
  constructor
  · intro hnil
    rw [hnil] at hcovers
    exact hcovers.eq_nil
  · -- a first segment would hold a solid character of the text
    intro hblank
    cases hs : lim.split count text with
    | nil => rfl
    | cons s rest =>
      rw [hs, hblank] at hcovers
      obtain ⟨added, hcs, -⟩ := hcovers.cons_inv
      have hfirst : solidChars s = [] := (List.append_eq_nil_iff.1 hcs.symm).1
      exact absurd hfirst (hends s (by simp [hs])).solidChars_ne_nil

/-- The cover with the knowledge desk's own token counter, which counts nothing in the empty
text, on a text of two lines. -/
theorem split_covers_two_lines :
    Token.count "" = 0 ∧
      ((∀ s ∈ (SplitLimits.new 8 5).split Token.count "alpha beta\ngamma", SolidEnds s) ∧
        (SplitLimits.new 8 5).Covers Token.count
          ((SplitLimits.new 8 5).split Token.count "alpha beta\ngamma")
          (solidChars "alpha beta\ngamma") ∧
        ((SplitLimits.new 8 5).split Token.count "alpha beta\ngamma" = [] ↔
          isBlankText "alpha beta\ngamma" = true)) :=
  ⟨Token.count_empty, split_covers_text Token.count Token.count_empty _ _⟩

end SplitLimits

end KnowledgeDesk.Document

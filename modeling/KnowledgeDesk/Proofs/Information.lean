import KnowledgeDesk.Prompt.Context
import KnowledgeDesk.Template.Handlebars

/-!
# The information behind a question

`PromptVariables.ofMatches` walks the matches found for a question, best first. While the
information is empty, a match *opens* it: with its text, or, when the text is over the token
budget, with the front of the text that the budget covers (`opening`), which can be empty; then
the next match opens it in turn. Once the information is not empty, each match is appended after
a blank line while the result fits the budget, and the first that does not fit ends the walk.
Every match the walk takes adds its file name to the sources, whether its text shows in the
information or not.

* `information` says what the taken matches make, without the walk: the matches that open it
  empty are skipped, the first other one stands as its opening, and the texts of the rest follow,
  each after a blank line. `information_concat` adds one match to it.
* `gatherMatches_run`: the walk takes a prefix of the matches, with the information and the
  sources of that prefix; every match appended on the way fitted, and the first match left does
  not.
* `ofMatches_gathers_prefix`: so the prompt variables hold the information of a prefix of the
  matches, and as sources the distinct file names of that prefix, in order of first appearance
  (`foldl_addSource`). A match with an empty text still names its file
  (`empty_match_names_source`).
* `informations_within_budget`: with a tokenizer whose decoded token prefixes take no more
  tokens again (`PrefixReencodes`), the information stays within the budget; it is empty exactly
  when every match opens it empty, and then the mismatch instruction is rendered. A single
  character over the budget opens it empty (`oversized_emoji_opens_nothing`).
-/

namespace KnowledgeDesk

open Token

/-! ## Budgets -/

/-- A text fits a budget: there is none, or the text has at most its limit of tokens. -/
def Fits : Option (Nat × Tokenizer) → String → Prop
  | some (limit, tk), text => tk.count text ≤ limit
  | none, _ => True

instance (budget : Option (Nat × Tokenizer)) (text : String) : Decidable (Fits budget text) :=
  match budget with
  | some (limit, tk) => inferInstanceAs (Decidable (tk.count text ≤ limit))
  | none => isTrue trivial

/-- What a text makes of empty information: itself when it fits the budget, else the front of it
that the budget covers. -/
def opening : Option (Nat × Tokenizer) → String → String
  | some (limit, tk), text => if tk.count text ≤ limit then text else tk.truncate text limit
  | none, text => text

section Budget

variable {budget : Option (Nat × Tokenizer)} {text : String}

theorem not_fits_iff :
    ¬ Fits budget text ↔ ∃ limit tk, budget = some (limit, tk) ∧ limit < tk.count text := by
  cases budget with
  | none => simp [Fits]
  | some b =>
    obtain ⟨limit, tk⟩ := b
    simp only [Fits, Nat.not_le, Option.some.injEq, Prod.mk.injEq]
    exact ⟨fun h => ⟨limit, tk, ⟨rfl, rfl⟩, h⟩, fun ⟨_, _, ⟨h₁, h₂⟩, hlt⟩ => h₁ ▸ h₂ ▸ hlt⟩

end Budget

/-! ## What the taken matches make -/

def fileNames (ms : List EmbeddingMatch) : List String :=
  ms.filterMap (·.segment.meta? metaFileName)

/-- The information that matches make: those that open it empty are skipped, the first other
one stands as its opening, and the texts of the rest follow, each after a blank line. -/
def information (budget : Option (Nat × Tokenizer)) : List EmbeddingMatch → String
  | [] => ""
  | m :: rest =>
    if opening budget m.segment.text = "" then information budget rest
    else "\n\n".intercalate (opening budget m.segment.text :: rest.map (·.segment.text))

section Information

variable (budget : Option (Nat × Tokenizer))

@[simp] theorem information_nil : information budget [] = "" := rfl

@[simp] theorem fileNames_nil : fileNames [] = [] := rfl

theorem fileNames_append (ms ms' : List EmbeddingMatch) :
    fileNames (ms ++ ms') = fileNames ms ++ fileNames ms' :=
  List.filterMap_append

theorem intercalate_ne_empty {t : String} (ht : t ≠ "") (ts : List String) :
    "\n\n".intercalate (t :: ts) ≠ "" := by
  cases ts with
  | nil => simpa using ht
  | cons u ts =>
    rw [String.intercalate_cons_cons, String.append_assoc]
    exact fun h => ht (String.append_eq_empty_iff.mp h).1

theorem information_eq_empty_iff (ms : List EmbeddingMatch) :
    information budget ms = "" ↔ ∀ m ∈ ms, opening budget m.segment.text = "" := by
  induction ms with
  | nil => simp
  | cons m rest ih =>
    rw [information, List.forall_mem_cons]
    split
    · next hm => exact ih.trans ⟨fun h => ⟨hm, h⟩, fun h => h.2⟩
    · next hm => exact ⟨fun h => absurd h (intercalate_ne_empty hm _), fun h => absurd h.1 hm⟩

/-- **One more match**: it opens empty information, and is appended to any other after a blank
line. -/
theorem information_concat (ms : List EmbeddingMatch) (x : EmbeddingMatch) :
    information budget (ms ++ [x]) =
      if information budget ms = "" then opening budget x.segment.text
      else information budget ms ++ "\n\n" ++ x.segment.text := by
  induction ms with
  | nil =>
    by_cases hx : opening budget x.segment.text = "" <;> simp [information, hx]
  | cons m rest ih =>
    rw [List.cons_append, information, information]
    split
    · exact ih
    · next hm =>
      -- the information is opened by `m`, and `x` comes last
      rw [if_neg (intercalate_ne_empty hm _), List.map_append, ← List.cons_append,
        String.intercalate_append_of_ne_nil (by simp) (by simp)]
      simp

end Information

/-! ## The walk -/

section Walk

variable (budget : Option (Nat × Tokenizer))

theorem gatherMatches_cons_empty (x : EmbeddingMatch) (rest : List EmbeddingMatch)
    (sources : List String) :
    gatherMatches budget (x :: rest) "" sources =
      gatherMatches budget rest (opening budget x.segment.text)
        ((fileNames [x]).foldl addSource sources) := by
  have hnil : "".isEmpty = true := rfl
  cases budget with
  | none =>
    cases hm : x.segment.meta? metaFileName <;> simp [gatherMatches, hnil, opening, fileNames, hm]
  | some b =>
    obtain ⟨limit, tk⟩ := b
    cases hm : x.segment.meta? metaFileName <;> simp [gatherMatches, hnil, opening, fileNames, hm]

/-- Onto information that is not empty, a match is appended after a blank line and names its
file when the result fits; otherwise the walk ends. -/
theorem gatherMatches_cons_of_ne {info : String} (hinfo : info ≠ "") (x : EmbeddingMatch)
    (rest : List EmbeddingMatch) (sources : List String) :
    gatherMatches budget (x :: rest) info sources =
      if Fits budget (info ++ "\n\n" ++ x.segment.text) then
        gatherMatches budget rest (info ++ "\n\n" ++ x.segment.text)
          ((fileNames [x]).foldl addSource sources)
      else (info, sources) := by
  have hne : info.isEmpty = false := String.isEmpty_eq_false_iff.mpr hinfo
  cases budget with
  | none =>
    cases hm : x.segment.meta? metaFileName <;> simp [gatherMatches, hne, Fits, fileNames, hm]
  | some b =>
    obtain ⟨limit, tk⟩ := b
    by_cases hfit : tk.count (info ++ "\n\n" ++ x.segment.text) ≤ limit
    · cases hm : x.segment.meta? metaFileName <;>
        simp [gatherMatches, hne, hfit, Fits, fileNames, hm]
    · simp [gatherMatches, hne, hfit, Fits]

/-- **The walk takes a prefix.** Started from the information and the sources of the matches
`pre` taken so far, the walk takes a prefix `taken` of the rest and ends with the information and
the sources of `pre ++ taken`; every match it appended to information that was not empty fitted,
and the first match it left does not. -/
theorem gatherMatches_run (pre ms : List EmbeddingMatch) (sources : List String) :
    ∃ taken left, ms = taken ++ left ∧
      gatherMatches budget ms (information budget pre) ((fileNames pre).foldl addSource sources) =
        (information budget (pre ++ taken), (fileNames (pre ++ taken)).foldl addSource sources) ∧
      (∀ c x d, taken = c ++ x :: d → information budget (pre ++ c) ≠ "" →
        Fits budget (information budget (pre ++ c) ++ "\n\n" ++ x.segment.text)) ∧
      ∀ x r, left = x :: r → information budget (pre ++ taken) ≠ "" ∧
        ¬ Fits budget (information budget (pre ++ taken) ++ "\n\n" ++ x.segment.text) := by
  induction ms generalizing pre with
  | nil =>
    refine ⟨[], [], rfl, by simp [gatherMatches], fun c x d h => ?_, fun x r h => nomatch h⟩
    cases c <;> cases h
  | cons x rest ih =>
    -- whenever the walk takes `x`, it goes on from the state of `pre ++ [x]`
    have hnames : (fileNames [x]).foldl addSource ((fileNames pre).foldl addSource sources) =
        (fileNames (pre ++ [x])).foldl addSource sources := by
      rw [fileNames_append, List.foldl_append]
    have htake : ∀ (hcont : gatherMatches budget (x :: rest) (information budget pre)
          ((fileNames pre).foldl addSource sources) =
        gatherMatches budget rest (information budget (pre ++ [x]))
          ((fileNames (pre ++ [x])).foldl addSource sources)),
        (information budget pre ≠ "" →
          Fits budget (information budget pre ++ "\n\n" ++ x.segment.text)) →
        ∃ taken left, x :: rest = taken ++ left ∧
          gatherMatches budget (x :: rest) (information budget pre)
            ((fileNames pre).foldl addSource sources) =
            (information budget (pre ++ taken), (fileNames (pre ++ taken)).foldl addSource sources) ∧
          (∀ c y d, taken = c ++ y :: d → information budget (pre ++ c) ≠ "" →
            Fits budget (information budget (pre ++ c) ++ "\n\n" ++ y.segment.text)) ∧
          ∀ y r, left = y :: r → information budget (pre ++ taken) ≠ "" ∧
            ¬ Fits budget (information budget (pre ++ taken) ++ "\n\n" ++ y.segment.text) := by
      intro hcont hfirst
      obtain ⟨taken, left, hsplit, hrun, hfits, hleft⟩ := ih (pre ++ [x])
      refine ⟨x :: taken, left, by rw [hsplit, List.cons_append], ?_, ?_, ?_⟩
      · rw [hcont, hrun, List.append_assoc, List.singleton_append]
      · intro c y d hc
        cases c with
        | nil =>
          cases hc
          simpa using hfirst
        | cons z c =>
          rw [List.cons_append] at hc
          obtain ⟨rfl, hrest⟩ := List.cons.inj hc
          simpa [List.append_assoc] using hfits c y d hrest
      · intro y r hy
        simpa [List.append_assoc] using hleft y r hy
    by_cases hempty : information budget pre = ""
    · -- `x` opens the information
      refine htake ?_ (fun h => absurd hempty h)
      rw [hempty, gatherMatches_cons_empty, information_concat, if_pos hempty, hnames]
    · by_cases hfit : Fits budget (information budget pre ++ "\n\n" ++ x.segment.text)
      · -- `x` is appended
        refine htake ?_ (fun _ => hfit)
        rw [gatherMatches_cons_of_ne budget hempty, if_pos hfit, information_concat, if_neg hempty,
          hnames]
      · -- `x` does not fit, and the walk ends before it
        refine ⟨[], x :: rest, rfl, ?_, fun c y d h => ?_, fun y r h => ?_⟩
        · rw [gatherMatches_cons_of_ne budget hempty, if_neg hfit]
          simp
        · cases c <;> cases h
        · obtain ⟨rfl, rfl⟩ := List.cons.inj h
          simpa using ⟨hempty, hfit⟩

end Walk

/-! ## Sources -/

theorem foldl_addSource (acc names : List String) :
    names.foldl addSource acc = acc ++ (names.removeAll acc).eraseDups := by
  induction names generalizing acc with
  | nil => simp
  | cons x names ih =>
    rw [List.foldl_cons, addSource]
    by_cases hx : acc.contains x
    · rw [if_pos hx, ih, List.cons_removeAll, if_neg (by rw [hx]; simp)]
    · -- `x` is new: it goes last, and is no longer new after that
      rw [if_neg hx, ih, List.cons_removeAll, if_pos (by simpa using hx), List.eraseDups_cons,
        List.append_assoc, List.singleton_append]
      congr 3
      simp only [List.removeAll, List.filter_filter, List.elem_eq_contains, List.contains_append,
        List.contains_cons, List.contains_nil, Bool.or_false, Bool.not_or]
      exact List.filter_congr fun y _ => Bool.and_comm _ _

/-! ## The prompt variables -/

/-- **The prompt variables gather a prefix of the matches.** The walk takes a prefix `taken` of
the matches, leaving `left`: the information is what `taken` makes, and the sources are the
distinct file names of `taken`, in order of first appearance, joined by commas, those of matches
with empty texts included. Every match appended to information that was not empty fitted the
budget, and when a match is left, the information is not empty and that match appended to it
would take it over the budget, so with no budget every match is taken. -/
theorem ofMatches_gathers_prefix (question : String) (ms : List EmbeddingMatch)
    (budget : Option (Nat × Tokenizer)) :
    ∃ taken left, ms = taken ++ left ∧
      (PromptVariables.ofMatches question ms budget).informations = information budget taken ∧
      (PromptVariables.ofMatches question ms budget).fileNamesSources =
        ", ".intercalate (fileNames taken).eraseDups ∧
      (∀ c x d, taken = c ++ x :: d → information budget c ≠ "" →
        Fits budget (information budget c ++ "\n\n" ++ x.segment.text)) ∧
      ∀ x r, left = x :: r → information budget taken ≠ "" ∧
        ∃ limit tk, budget = some (limit, tk) ∧
          limit < tk.count (information budget taken ++ "\n\n" ++ x.segment.text) := by
  obtain ⟨taken, left, hsplit, hrun, hfits, hleft⟩ := gatherMatches_run budget [] ms []
  have hrun' : gatherMatches budget ms "" [] =
      (information budget taken, (fileNames taken).foldl addSource []) := by
    simpa using hrun
  have hvars : PromptVariables.ofMatches question ms budget =
      { question, informations := information budget taken,
        fileNamesSources := ", ".intercalate ((fileNames taken).foldl addSource []) } := by
    simp only [PromptVariables.ofMatches, hrun']
  refine ⟨taken, left, hsplit, by rw [hvars], ?_, fun c x d h => by simpa using hfits c x d h,
    fun x r h => ?_⟩
  · rw [hvars, foldl_addSource]
    simp
  · obtain ⟨hne, hover⟩ := hleft x r h
    exact ⟨by simpa using hne, not_fits_iff.mp (by simpa using hover)⟩

/-- A match with an empty text opens nothing, yet its file is named among the sources. -/
theorem empty_match_names_source :
    (PromptVariables.ofMatches "q"
        [⟨"1", 0.9, ⟨"", [(metaFileName, "a.txt")]⟩⟩, ⟨"2", 0.8, ⟨"x", [(metaFileName, "b.txt")]⟩⟩]
        none).informations = "x" ∧
    (PromptVariables.ofMatches "q"
        [⟨"1", 0.9, ⟨"", [(metaFileName, "a.txt")]⟩⟩, ⟨"2", 0.8, ⟨"x", [(metaFileName, "b.txt")]⟩⟩]
        none).fileNamesSources = "a.txt, b.txt" := by
  decide

/-! ## Staying within the budget -/

/-- Decoding the first `e` tokens of a text, when their bytes are whole characters, gives a text
that takes at most `e` tokens again. -/
def PrefixReencodes (tk : Tokenizer) : Prop :=
  ∀ (s : String) (e : Nat) (t : String),
    String.fromUTF8? (ByteArray.mk ((tk.encode s).take e).flatten.toArray) = some t →
      tk.count t ≤ e

section Reencoding

variable {tk : Tokenizer} (htk : PrefixReencodes tk)
include htk

theorem count_empty : tk.count "" = 0 :=
  Nat.le_zero.mp (htk "" 0 "" (by simp only [List.take_zero, List.flatten_nil]; decide))

theorem count_decodePrefix_le (s : String) : ∀ n, tk.count (decodePrefix (tk.encode s) n) ≤ n
  | 0 => Nat.le_of_eq (count_empty htk)
  | n + 1 => by
    unfold decodePrefix
    split
    · next t ht => exact htk s (n + 1) t ht
    · exact Nat.le_trans (count_decodePrefix_le s n) (Nat.le_succ n)

theorem count_truncate_le (s : String) (limit : Nat) : tk.count (tk.truncate s limit) ≤ limit :=
  Nat.le_trans (count_decodePrefix_le htk s _) (Nat.min_le_left _ _)

theorem count_opening_le (limit : Nat) (text : String) :
    tk.count (opening (some (limit, tk)) text) ≤ limit := by
  show tk.count (if tk.count text ≤ limit then text else tk.truncate text limit) ≤ limit
  split
  · next h => exact h
  · exact count_truncate_le htk text limit

/-- The information a walk ends with is within the budget: it is empty, the opening of its last
match, or fitted when that match was appended. -/
theorem count_information_le (limit : Nat) {taken : List EmbeddingMatch}
    (hfits : ∀ c x d, taken = c ++ x :: d → information (some (limit, tk)) c ≠ "" →
      Fits (some (limit, tk)) (information (some (limit, tk)) c ++ "\n\n" ++ x.segment.text)) :
    tk.count (information (some (limit, tk)) taken) ≤ limit := by
  rcases List.eq_nil_or_concat taken with rfl | ⟨c, x, rfl⟩
  · simp [count_empty htk]
  · -- the last match opened the information or was appended to it
    rw [List.concat_eq_append, information_concat]
    split
    · exact count_opening_le htk limit x.segment.text
    · next hne => exact hfits c x [] (List.concat_eq_append ..) hne

end Reencoding

/-- **The information stays within its budget**, for a tokenizer whose decoded token prefixes
take no more tokens again. It is empty exactly when every match opens it empty, and the
instruction rendered is the mismatch one exactly then. A match opens it empty when its text is
empty, or is over the budget and no front of at most `limit` of its tokens is a non-empty run of
whole characters. -/
theorem informations_within_budget (engine : Template.Engine)
    (question matchInstruction mismatchInstruction : String)
    (ms : List EmbeddingMatch) (limit : Nat) (tk : Tokenizer) (htk : PrefixReencodes tk) :
    tk.count (PromptVariables.ofMatches question ms (some (limit, tk))).informations ≤ limit ∧
      ((PromptVariables.ofMatches question ms (some (limit, tk))).informations = "" ↔
        ∀ m ∈ ms, opening (some (limit, tk)) m.segment.text = "") ∧
      renderInstruction engine matchInstruction mismatchInstruction
          (PromptVariables.ofMatches question ms (some (limit, tk))) =
        if ∀ m ∈ ms, opening (some (limit, tk)) m.segment.text = "" then
          renderPrompt engine mismatchInstruction defaultMismatchInstruction
            (PromptVariables.ofMatches question ms (some (limit, tk)))
        else renderPrompt engine matchInstruction defaultMatchInstruction
            (PromptVariables.ofMatches question ms (some (limit, tk))) := by
  obtain ⟨taken, left, hsplit, hinfo, -, hfits, hleft⟩ :=
    ofMatches_gathers_prefix question ms (some (limit, tk))
  -- the information is empty exactly when every match opens it empty
  have hempty : (PromptVariables.ofMatches question ms (some (limit, tk))).informations = "" ↔
      ∀ m ∈ ms, opening (some (limit, tk)) m.segment.text = "" := by
    rw [hinfo, information_eq_empty_iff]
    cases left with
    | nil => simp [hsplit]
    | cons x r =>
      -- a match was left, so the information is not empty and some taken match opened it
      have hne := (hleft x r rfl).1
      rw [Ne, information_eq_empty_iff] at hne
      refine ⟨fun h => absurd h hne, fun h => absurd (fun m hm => h m ?_) hne⟩
      rw [hsplit]
      exact List.mem_append_left _ hm
  refine ⟨hinfo ▸ count_information_le htk limit hfits, hempty, ?_⟩
  unfold renderInstruction
  by_cases hall : ∀ m ∈ ms, opening (some (limit, tk)) m.segment.text = ""
  · rw [if_pos hall, if_pos (String.isEmpty_iff.mpr (hempty.mpr hall))]
  · rw [if_neg hall, if_neg (fun h => hall (hempty.mp (String.isEmpty_iff.mp h)))]

def byteTokens : Tokenizer := ⟨fun s => s.toUTF8.data.toList.map ([·])⟩

theorem prefixReencodes_byteTokens : PrefixReencodes byteTokens := by
  intro s e t ht
  have hbytes : t.toByteArray = ByteArray.mk ((byteTokens.encode s).take e).flatten.toArray := by
    unfold String.fromUTF8? at ht
    split at ht
    · cases ht
      rfl
    · cases ht
  have hflat : ((byteTokens.encode s).take e).flatten = s.toUTF8.data.toList.take e := by
    change ((s.toUTF8.data.toList.map ([·])).take e).flatten = _
    rw [← List.map_take]
    exact List.flatMap_singleton' _
  calc byteTokens.count t = t.toByteArray.data.toList.length := by simp [Tokenizer.count, byteTokens]
    _ = (s.toUTF8.data.toList.take e).length := by rw [hbytes, ← hflat]
    _ ≤ e := List.length_take_le _ _

/-- A one-letter match under a budget of one token, where byte tokens count as the library's
tokenizer does. -/
theorem informations_within_budget_letter :
    PrefixReencodes byteTokens ∧
      (byteTokens.count (PromptVariables.ofMatches "q" [⟨"1", 0.9, ⟨"a", []⟩⟩]
          (some (1, byteTokens))).informations ≤ 1 ∧
        ((PromptVariables.ofMatches "q" [⟨"1", 0.9, ⟨"a", []⟩⟩] (some (1, byteTokens))).informations = "" ↔
          ∀ m ∈ [(⟨"1", 0.9, ⟨"a", []⟩⟩ : EmbeddingMatch)], opening (some (1, byteTokens)) m.segment.text = "") ∧
        renderInstruction Template.handlebars "hit" "miss"
            (PromptVariables.ofMatches "q" [⟨"1", 0.9, ⟨"a", []⟩⟩] (some (1, byteTokens))) =
          if ∀ m ∈ [(⟨"1", 0.9, ⟨"a", []⟩⟩ : EmbeddingMatch)], opening (some (1, byteTokens)) m.segment.text = "" then
            renderPrompt Template.handlebars "miss" defaultMismatchInstruction
              (PromptVariables.ofMatches "q" [⟨"1", 0.9, ⟨"a", []⟩⟩] (some (1, byteTokens)))
          else renderPrompt Template.handlebars "hit" defaultMatchInstruction
              (PromptVariables.ofMatches "q" [⟨"1", 0.9, ⟨"a", []⟩⟩] (some (1, byteTokens)))) :=
  ⟨prefixReencodes_byteTokens,
    informations_within_budget Template.handlebars "q" "hit" "miss" [⟨"1", 0.9, ⟨"a", []⟩⟩] 1 byteTokens
      prefixReencodes_byteTokens⟩

/-- An emoji, four byte tokens, is over a budget of one token: no front of one token is a whole
character, so the first match opens the information empty although its text is not. -/
theorem oversized_emoji_opens_nothing :
    PrefixReencodes byteTokens ∧
      (PromptVariables.ofMatches "q" [⟨"1", 0.9, ⟨"😀", [(metaFileName, "a.txt")]⟩⟩]
        (some (1, byteTokens))).informations = "" :=
  ⟨prefixReencodes_byteTokens, by decide⟩

end KnowledgeDesk

import KnowledgeDesk.Proofs.RemovalCleanup

/-!
# Ranking search results

A search of an in-memory index scores every entry against the query, keeps the entries whose
score reaches the least score, orders them highest score first by the total order of floats, and
keeps the first `k`. The order is stable: entries of equal score keep the order of the index.

* `Ranking scored ranked` says what a stable ranking of `scored` is: best first, and for every
  score the entries with it in the order `scored` has them. `Ranking.unique`: there is one;
* `ranking_byScore`: the merge sort of the store gives it;
* `findRelevant_ranks`: a search answers the first `k` of the ranking of the qualifying matches
  (none for an index that does not exist), so its results are best first, all reach the least
  score, there are `min k` of the qualifying ones, and none that is left out is better than one
  that is answered.
-/

namespace KnowledgeDesk

/-! ## Stable rankings -/

/-- Ranks matches best first: `a` may come before `b`. -/
def scoreBefore (a b : EmbeddingMatch) : Prop := totalKey b.score ≤ totalKey a.score

/-- The matches of a list that have one score, by its key. -/
def withKey (v : Int) (ms : List EmbeddingMatch) : List EmbeddingMatch :=
  ms.filter fun m => totalKey m.score == v

/-- `ranked` is `scored` ordered best first, matches of equal score in the order of `scored`. -/
structure Ranking (scored ranked : List EmbeddingMatch) : Prop where
  sorted : ranked.Pairwise scoreBefore
  stable : ∀ v, withKey v ranked = withKey v scored

theorem mem_withKey {v : Int} {ms : List EmbeddingMatch} {m : EmbeddingMatch} :
    m ∈ withKey v ms ↔ m ∈ ms ∧ totalKey m.score = v := by
  simp [withKey]

theorem withKey_cons_self (m : EmbeddingMatch) (ms : List EmbeddingMatch) :
    withKey (totalKey m.score) (m :: ms) = m :: withKey (totalKey m.score) ms := by
  simp [withKey]

theorem withKey_cons_of_ne {v : Int} {m : EmbeddingMatch} (h : totalKey m.score ≠ v)
    (ms : List EmbeddingMatch) : withKey v (m :: ms) = withKey v ms := by
  simp [withKey, h]

/-- Lists with the same matches of every score hold the same matches. -/
theorem mem_of_withKey_eq {l₁ l₂ : List EmbeddingMatch} (h : ∀ v, withKey v l₁ = withKey v l₂)
    {m : EmbeddingMatch} (hm : m ∈ l₁) : m ∈ l₂ := by
  have hk : m ∈ withKey (totalKey m.score) l₁ := mem_withKey.mpr ⟨hm, rfl⟩
  rw [h] at hk
  exact (mem_withKey.mp hk).1

/-- The head of a list ranked best first is at least as good as all of it. -/
theorem head_best {a m : EmbeddingMatch} {t : List EmbeddingMatch}
    (h : (a :: t).Pairwise scoreBefore) (hm : m ∈ a :: t) :
    totalKey m.score ≤ totalKey a.score := by
  rcases List.mem_cons.mp hm with rfl | hm
  · exact le_refl _
  · exact List.rel_of_pairwise_cons h hm

/-- Two lists ranked best first with the same matches of every score, in the same order, are
equal: both start with a best match, the first of its score. -/
theorem eq_of_sorted_of_withKey :
    ∀ {r₁ r₂ : List EmbeddingMatch}, r₁.Pairwise scoreBefore → r₂.Pairwise scoreBefore →
      (∀ v, withKey v r₁ = withKey v r₂) → r₁ = r₂
  | [], [], _, _, _ => rfl
  | [], _ :: _, _, _, h => absurd (mem_of_withKey_eq (fun v => (h v).symm) List.mem_cons_self)
      List.not_mem_nil
  | _ :: _, [], _, _, h => absurd (mem_of_withKey_eq h List.mem_cons_self) List.not_mem_nil
  | a :: t₁, b :: t₂, h₁, h₂, h => by
    have hkey : totalKey b.score = totalKey a.score := le_antisymm
      (head_best h₁ (mem_of_withKey_eq (fun v => (h v).symm) List.mem_cons_self))
      (head_best h₂ (mem_of_withKey_eq h List.mem_cons_self))
    -- the heads are the first matches of one score in both lists
    have hheads := h (totalKey a.score)
    rw [withKey_cons_self, ← hkey, withKey_cons_self, List.cons.injEq] at hheads
    obtain ⟨rfl, htails⟩ := hheads
    have htail : ∀ v, withKey v t₁ = withKey v t₂ := by
      intro v
      by_cases hv : totalKey a.score = v
      · subst hv
        exact htails
      · have := h v
        rwa [withKey_cons_of_ne hv, withKey_cons_of_ne hv] at this
    rw [eq_of_sorted_of_withKey h₁.of_cons h₂.of_cons htail]

/-- **A stable ranking is unique.** -/
theorem Ranking.unique {scored r₁ r₂ : List EmbeddingMatch} (h₁ : Ranking scored r₁)
    (h₂ : Ranking scored r₂) : r₁ = r₂ :=
  eq_of_sorted_of_withKey h₁.sorted h₂.sorted fun v => (h₁.stable v).trans (h₂.stable v).symm

/-! ## The store's sort -/

/-- **The store's sort is a stable ranking.** Merge sort orders best first, and the matches of one
score, already in order among themselves, stay a sublist of its result. -/
theorem ranking_byScore (scored : List EmbeddingMatch) : Ranking scored (byScore scored) := by
  have trans : ∀ a b c : EmbeddingMatch, decide (totalKey b.score ≤ totalKey a.score) = true →
      decide (totalKey c.score ≤ totalKey b.score) = true →
      decide (totalKey c.score ≤ totalKey a.score) = true := by
    intro a b c hab hbc
    simp only [decide_eq_true_eq] at *
    omega
  have total : ∀ a b : EmbeddingMatch,
      (decide (totalKey b.score ≤ totalKey a.score) ||
        decide (totalKey a.score ≤ totalKey b.score)) = true := by
    intro a b
    simp only [Bool.or_eq_true, decide_eq_true_eq]
    omega
  refine ⟨(List.pairwise_mergeSort trans total scored).imp fun h => by simpa [scoreBefore] using h,
    fun v => ?_⟩
  have hsorted : (withKey v scored).Pairwise
      fun a b => decide (totalKey b.score ≤ totalKey a.score) = true :=
    List.pairwise_of_forall_mem_list fun a ha b hb => by
      simp [(mem_withKey.mp ha).2, (mem_withKey.mp hb).2]
  have hsub : List.Sublist (withKey v scored) (withKey v (byScore scored)) := by
    have := (List.sublist_mergeSort trans total hsorted List.filter_sublist).filter
      (fun m => totalKey m.score == v)
    simpa only [withKey, byScore, List.filter_filter, Bool.and_self] using this
  have hlen : (withKey v scored).length = (withKey v (byScore scored)).length :=
    (((List.mergeSort_perm scored _).filter _).length_eq).symm
  exact (hsub.eq_of_length hlen).symm

/-! ## Searching an index -/

namespace MemoryStore

/-- The matches of an index for a query that reach the least score: every entry scored against
the query, in the index's order, those below the least score left out. -/
def qualifying (s : MemoryStore) (index : String) (query : List Float32) (minScore : Float) :
    List EmbeddingMatch :=
  ((s.entries index).map fun e =>
    (⟨e.id, relevance query e.vector, e.segment⟩ : EmbeddingMatch)).filter
      fun m => m.score >= minScore

/-- A search ranks the qualifying matches and keeps the first `k`. -/
theorem findRelevant_eq (s : MemoryStore) (index : String) (query : List Float32) (k : Nat)
    (minScore : Float) :
    s.findRelevant index query k minScore =
      (byScore (s.qualifying index query minScore)).take k := by
  simp only [findRelevant, qualifying]
  -- scoring and keeping in one pass is scoring all, then keeping
  congr 2
  induction s.entries index with
  | nil => rfl
  | cons e es ih =>
    simp only [List.filterMap_cons, List.map_cons, List.filter_cons]
    split <;> simp_all

/-- **What a search answers.** The matches that qualify are the entries of the index scored
against the query, in the index's order, whose score reaches the least score. A search of an index
that does not exist answers nothing. Otherwise it answers the first `k` of the stable ranking of
the qualifying matches (best first by the total order of floats, matches of equal score in the
index's order), whatever list gives that ranking. So its results are best first, each reaches the
least score, there are `min k` of the qualifying ones, and no qualifying match left out ranks
above one answered. -/
theorem findRelevant_ranks (s : MemoryStore) (index : String) (query : List Float32) (k : Nat)
    (minScore : Float) :
    let found := s.findRelevant index query k minScore
    let scored := s.qualifying index query minScore
    (s.indices.any (·.1 = index) = false → found = []) ∧
      (∀ ranked, Ranking scored ranked → found = ranked.take k) ∧
      ∃ ranked, Ranking scored ranked ∧ ranked.Perm scored ∧ found = ranked.take k ∧
        found.Pairwise scoreBefore ∧ (∀ m ∈ found, m.score >= minScore) ∧
        found.length = min k scored.length ∧
        ∀ a ∈ found, ∀ b ∈ ranked.drop k, ¬ totalKey a.score < totalKey b.score := by
  intro found scored
  have hfound : found = (byScore scored).take k := findRelevant_eq s index query k minScore
  have hrank := ranking_byScore scored
  refine ⟨fun hnone => ?_, fun ranked h => hfound.trans (by rw [hrank.unique h]),
    byScore scored, hrank, List.mergeSort_perm _ _, hfound, ?_, ?_, ?_, ?_⟩
  · -- an index that does not exist has no entries
    rw [hfound]
    have hnil : s.entries index = [] :=
      entries_of_not_any (by rw [hnone]; exact Bool.false_ne_true)
    simp [scored, qualifying, hnil, byScore]
  · rw [hfound]
    exact hrank.sorted.sublist (List.take_sublist _ _)
  · intro m hm
    rw [hfound] at hm
    have hq := mem_of_withKey_eq hrank.stable (List.mem_of_mem_take hm)
    simpa [scored, qualifying] using (List.mem_filter.mp hq).2
  · simp [hfound, byScore]
  · -- what is answered comes before what is left out in the ranking
    intro a ha b hb
    rw [hfound] at ha
    have hsplit := hrank.sorted
    rw [← List.take_append_drop k (byScore scored), List.pairwise_append] at hsplit
    exact not_lt.mpr (hsplit.2.2 a ha b hb)

end MemoryStore

end KnowledgeDesk

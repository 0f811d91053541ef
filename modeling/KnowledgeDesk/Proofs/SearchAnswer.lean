import KnowledgeDesk.Proofs.Ranking
import KnowledgeDesk.Remote.Service

/-!
# The answer to a search of the vector search service

The contract of a vector store asks three things of the answer to a search: best first, at most
`maxResults` matches, each scoring at least `minScore` (`MeetsContract`). The in-memory store meets
it by itself (`MemoryStore.findRelevant_meetsContract`).

The search service is sent the size and the least score with the query, and its answer is read as
it comes: the client ranks the hits it gets and keeps them all (`readSearch_ranks_hits`). So the
answer is always best first, and it meets the contract exactly when the service sent no more hits
than asked and none below the least score (`meetsContract_ranking_iff`). Two hits for a search of
one are both answered (`oversized_answer_kept`).
-/

namespace KnowledgeDesk

/-- What the contract of a vector store asks of the answer to a search: best first, at most
`maxResults` matches, each scoring at least `minScore`. -/
structure MeetsContract (maxResults : Nat) (minScore : Float) (ms : List EmbeddingMatch) :
    Prop where
  sorted : ms.Pairwise scoreBefore
  bounded : ms.length ≤ maxResults
  reaches : ∀ m ∈ ms, m.score >= minScore

/-- A ranking holds the matches it ranks, neither dropping nor adding one. -/
theorem Ranking.perm {scored ranked : List EmbeddingMatch} (h : Ranking scored ranked) :
    ranked.Perm scored := by
  rw [h.unique (ranking_byScore scored)]
  exact List.mergeSort_perm _ _

/-- A ranking meets the contract exactly when the matches it ranks are few enough and all reach
the least score: ranking only orders them. -/
theorem meetsContract_ranking_iff {scored ranked : List EmbeddingMatch} (h : Ranking scored ranked)
    (maxResults : Nat) (minScore : Float) :
    MeetsContract maxResults minScore ranked ↔
      scored.length ≤ maxResults ∧ ∀ m ∈ scored, m.score >= minScore := by
  have hperm := h.perm
  constructor
  · rintro ⟨_, hlen, hscore⟩
    exact ⟨hperm.length_eq ▸ hlen, fun m hm => hscore m (hperm.mem_iff.2 hm)⟩
  · rintro ⟨hlen, hscore⟩
    exact ⟨h.sorted, hperm.length_eq ▸ hlen, fun m hm => hscore m (hperm.mem_iff.1 hm)⟩

namespace MemoryStore

/-- **The in-memory store meets the contract**: it keeps the qualifying matches and the first
`k` of their ranking. -/
theorem findRelevant_meetsContract (s : MemoryStore) (index : String) (query : List Float32)
    (k : Nat) (minScore : Float) :
    MeetsContract k minScore (s.findRelevant index query k minScore) := by
  rw [findRelevant_eq]
  have hrank := ranking_byScore (s.qualifying index query minScore)
  refine ⟨hrank.sorted.sublist (List.take_sublist _ _), List.length_take_le _ _, fun m hm => ?_⟩
  have hq : m ∈ s.qualifying index query minScore :=
    hrank.perm.subset (List.mem_of_mem_take hm)
  simp only [qualifying, List.mem_filter] at hq
  exact of_decide_eq_true hq.2

end MemoryStore

namespace Remote

theorem ne_of_isSuccess {status : Nat} (h : isSuccess status = true) : status ≠ 404 := by
  simp only [isSuccess, Bool.and_eq_true, decide_eq_true_eq] at h
  omega

/-- **Reading the answer to a search.** A request that could not be sent fails with its message;
an index that does not exist (`404`) has no match; any other status outside `2xx` fails with the
status and the body's text; a body that does not read as hits fails to decode. Otherwise the
answer is the stable ranking of the hits, all of them: it is best first, and it meets the
contract of a vector store exactly when the service sent no more hits than asked and none below
the least score. -/
theorem readSearch_ranks_hits (maxResults : Nat) (minScore : Float) :
    (∀ m, readSearch (.error m) = .error (.http m)) ∧
      (∀ resp : Response (List EmbeddingMatch), resp.status = 404 →
        readSearch (.ok resp) = .ok []) ∧
      (∀ resp : Response (List EmbeddingMatch), resp.status ≠ 404 →
        isSuccess resp.status = false →
        readSearch (.ok resp) = .error (.status resp.status resp.text)) ∧
      (∀ (resp : Response (List EmbeddingMatch)) e, isSuccess resp.status = true →
        resp.body = .error e → readSearch (.ok resp) = .error (.decode e)) ∧
      ∀ (resp : Response (List EmbeddingMatch)) hits, isSuccess resp.status = true →
        resp.body = .ok hits →
        ∃ ms, readSearch (.ok resp) = .ok ms ∧ Ranking hits ms ∧
          (MeetsContract maxResults minScore ms ↔
            hits.length ≤ maxResults ∧ ∀ m ∈ hits, m.score >= minScore) := by
  refine ⟨fun m => rfl, fun resp h404 => by simp [readSearch, h404],
    fun resp h404 hfail => by simp [readSearch, h404, hfail], fun resp e hok hbody => ?_,
    fun resp hits hok hbody => ?_⟩
  · simp [readSearch, ne_of_isSuccess hok, hok, hbody]
  · -- a 2xx body of hits: its ranking, whatever the service chose to send
    have hrank := ranking_byScore hits
    refine ⟨byScore hits, by simp [readSearch, ne_of_isSuccess hok, hok, hbody], hrank,
      meetsContract_ranking_iff hrank maxResults minScore⟩

/-- A hit scored by the float of the given bits, its id for its text. -/
def scoredHit (id : String) (bits : UInt64) : EmbeddingMatch := ⟨id, Float.ofBits bits, ⟨id, []⟩⟩

/-- Three hits, sent scored one half, one and three quarters. -/
def threeHits : List EmbeddingMatch :=
  [scoredHit "b" 0x3FE0000000000000, scoredHit "a" 0x3FF0000000000000,
    scoredHit "c" 0x3FE8000000000000]

theorem ranking_threeHits :
    Ranking threeHits [scoredHit "a" 0x3FF0000000000000, scoredHit "c" 0x3FE8000000000000,
      scoredHit "b" 0x3FE0000000000000] := by
  refine ⟨by unfold scoreBefore; decide +kernel, fun v => ?_⟩
  -- each score has a key of its own, so a key picks the same hit, or none, on both sides
  have ha : totalKey (scoredHit "a" 0x3FF0000000000000).score = 0x3FF0000000000000 := by
    decide +kernel
  have hb : totalKey (scoredHit "b" 0x3FE0000000000000).score = 0x3FE0000000000000 := by
    decide +kernel
  have hc : totalKey (scoredHit "c" 0x3FE8000000000000).score = 0x3FE8000000000000 := by
    decide +kernel
  simp only [threeHits, withKey, List.filter_cons, List.filter_nil, ha, hb, hc, beq_iff_eq]
  by_cases h1 : 0x3FF0000000000000 = v
  · subst h1
    simp
  by_cases h2 : 0x3FE0000000000000 = v
  · subst h2
    simp
  by_cases h3 : 0x3FE8000000000000 = v
  · subst h3
    simp
  simp [h1, h2, h3]

/-- Three hits sent out of order come back best first, and meet the contract of a search of three
with least score one half. -/
theorem readSearch_ranks_three_hits :
    ∃ ms, readSearch (.ok ⟨200, "", .ok threeHits⟩) = .ok ms ∧ ms.map (·.id) = ["a", "c", "b"] ∧
      MeetsContract 3 (Float.ofBits 0x3FE0000000000000) ms := by
  obtain ⟨ms, hread, hrank, hcontract⟩ :=
    (readSearch_ranks_hits 3 (Float.ofBits 0x3FE0000000000000)).2.2.2.2 ⟨200, "", .ok threeHits⟩
      threeHits (by decide) rfl
  rw [hrank.unique ranking_threeHits] at hread hcontract
  refine ⟨_, hread, rfl, hcontract.2 ⟨by decide, ?_⟩⟩
  decide +kernel

/-- **More hits than asked are all answered.** The service answers two hits to a search of at
most one: both are the answer, which breaks the contract's bound. -/
theorem oversized_answer_kept :
    readSearch (.ok ⟨200, "", .ok [⟨"a", 1, ⟨"a", []⟩⟩, ⟨"a", 1, ⟨"a", []⟩⟩]⟩) =
        .ok [⟨"a", 1, ⟨"a", []⟩⟩, ⟨"a", 1, ⟨"a", []⟩⟩] ∧
      ¬ MeetsContract 1 0 [⟨"a", 1, ⟨"a", []⟩⟩, ⟨"a", 1, ⟨"a", []⟩⟩] := by
  have hsorted : byScore [⟨"a", 1, ⟨"a", []⟩⟩, ⟨"a", 1, ⟨"a", []⟩⟩] =
      [⟨"a", 1, ⟨"a", []⟩⟩, ⟨"a", 1, ⟨"a", []⟩⟩] :=
    List.mergeSort_of_pairwise (List.pairwise_pair.2 (decide_eq_true (le_refl _)))
  refine ⟨by simp [readSearch, isSuccess, hsorted], fun h => ?_⟩
  have := h.bounded
  simp at this

end Remote

end KnowledgeDesk

import KnowledgeDesk.Remote.Service
import Mathlib.Data.List.Sort

/-!
# Embedding texts in batches

The texts to embed go to the model service in batches of 64, in order: the `k`-th request carries
the texts from `64 * k` on, at most 64 of them, and no request is sent for no text. Each answer
must hold exactly as many data as its batch has texts; the data are ordered by their `index`
(stably) and their vectors taken in that order. The first answer that fails fails the call, and
no batch is sent after it.

The main statement, `embedAll_aligns`: when the call succeeds, the requests were the batches, there
is one vector per text, and the vector of text `i` is the vector at place `i % 64` of the data of
answer `i / 64` ordered by index; when the indices of that answer are exactly `0 … n-1`, it is the
vector of the datum whose index is `i % 64`. The call checks the count of the data and not their
indices: an answer of the right size with a repeated index is taken as it comes
(`duplicate_indices_accepted`).

* `getElem?_batches`: what each batch holds.
* `readEmbeddings_ok`, `readEmbeddings_of_delivers`: what one answer gives.
* `pairwise_byIndex`, `index_byIndex`: ordered data have non-decreasing indices, so data whose
  indices are exactly `0 … n-1` stand, ordered, in index order.
* `embedBatches_error`: a failed run has sent the batches up to the failing one and no further.
* `embedBatches_batches_ok`: the run over the batches, by induction on the texts along `batches`.
-/

namespace KnowledgeDesk.Remote

/-! ## Batches of texts -/

theorem batches_nil {α : Type} : batches ([] : List α) = [] := by
  rw [batches]

theorem batches_cons {α : Type} (x : α) (rest : List α) :
    batches (x :: rest) = (x :: rest).take 64 :: batches ((x :: rest).drop 64) := by
  rw [batches]
  rfl

/-- The `k`-th batch holds the texts from `64 * k` on, at most 64 of them, and there is one batch
for each such start before the end of the texts. -/
theorem getElem?_batches {α : Type} (l : List α) (k : Nat) :
    (batches l)[k]? = if 64 * k < l.length then some ((l.drop (64 * k)).take 64) else none := by
  induction l using batches.induct generalizing k with
  | case1 => simp [batches_nil]
  | case2 x rest ih =>
    simp only [embeddingBatch] at ih
    rw [batches_cons]
    cases k with
    | zero => simp
    | succ k =>
      -- a later batch is a batch of the texts after the first 64
      rw [List.getElem?_cons_succ, ih k, List.drop_drop]
      simp only [List.length_drop]
      have hoff : 64 + 64 * k = 64 * (k + 1) := by omega
      rw [hoff]
      by_cases hk : 64 * (k + 1) < (x :: rest).length
      · rw [if_pos (by omega), if_pos hk]
      · rw [if_neg (by omega), if_neg hk]

/-! ## One batch -/

/-- An answer delivers data: a response with a `2xx` status whose body reads as that data. -/
def Delivers {α : Type} (answer : Except String (Response α)) (data : α) : Prop :=
  ∃ resp, answer = .ok resp ∧ isSuccess resp.status = true ∧ resp.body = .ok data

theorem readEmbeddings_ok {n : Nat} {answer : Except String (Response (List EmbeddingDatum))}
    {vs : List (List Float32)} (h : readEmbeddings n answer = .ok vs) :
    ∃ data, Delivers answer data ∧ data.length = n ∧ vs = (byIndex data).map (·.embedding) := by
  rcases answer with m | resp
  · cases h
  · simp only [readEmbeddings] at h
    split at h
    · cases h
    · next hstatus =>
      split at h
      · cases h
      · next data hbody =>
        simp only [batchVectors] at h
        split at h
        · next hlen =>
          exact ⟨data, ⟨resp, rfl, by simpa using hstatus, hbody⟩, hlen, (Except.ok.inj h).symm⟩
        · cases h

theorem readEmbeddings_of_delivers {answer : Except String (Response (List EmbeddingDatum))}
    {data : List EmbeddingDatum} (h : Delivers answer data) :
    readEmbeddings data.length answer = .ok ((byIndex data).map (·.embedding)) := by
  obtain ⟨resp, rfl, hstatus, hbody⟩ := h
  simp [readEmbeddings, hstatus, hbody, batchVectors]

theorem length_byIndex (data : List EmbeddingDatum) : (byIndex data).length = data.length :=
  List.length_mergeSort data

theorem mem_of_mem_byIndex {data : List EmbeddingDatum} {d : EmbeddingDatum}
    (h : d ∈ byIndex data) : d ∈ data :=
  (List.mergeSort_perm data _).subset h

/-- The indices of the data, once ordered, do not decrease. -/
theorem pairwise_byIndex (data : List EmbeddingDatum) :
    ((byIndex data).map (·.index)).Pairwise (· ≤ ·) := by
  have trans : ∀ a b c : EmbeddingDatum, decide (a.index ≤ b.index) = true →
      decide (b.index ≤ c.index) = true → decide (a.index ≤ c.index) = true := by
    intro a b c hab hbc
    simp only [decide_eq_true_eq] at *
    omega
  have total : ∀ a b : EmbeddingDatum,
      (decide (a.index ≤ b.index) || decide (b.index ≤ a.index)) = true := by
    intro a b
    simp only [Bool.or_eq_true, decide_eq_true_eq]
    omega
  exact List.pairwise_map.2
    ((List.pairwise_mergeSort trans total data).imp fun h => by simpa using h)

/-- Data whose indices are exactly `0 … n-1`, in any order, stand in index order once ordered: the
datum at place `j` has index `j`. -/
theorem index_byIndex {data : List EmbeddingDatum}
    (hperm : (data.map (·.index)).Perm (List.range data.length)) {j : Nat}
    (hj : j < data.length) : ∃ d ∈ data, d.index = j ∧ (byIndex data)[j]? = some d := by
  -- ordered by index, the indices are `0 … n-1` in order
  have hindices : (byIndex data).map (·.index) = List.range data.length :=
    (((List.mergeSort_perm data _).map _).trans hperm).eq_of_pairwise' (pairwise_byIndex data)
      ((List.pairwise_lt_range).imp le_of_lt)
  obtain ⟨d, hd⟩ : ∃ d, (byIndex data)[j]? = some d :=
    ⟨_, List.getElem?_eq_getElem (by rw [length_byIndex]; exact hj)⟩
  have hindex := congrArg (·[j]?) hindices
  simp only [List.getElem?_map, hd, List.getElem?_range hj, Option.map_some,
    Option.some.injEq] at hindex
  exact ⟨d, mem_of_mem_byIndex (List.mem_of_getElem? hd), hindex, hd⟩

/-! ## The run over the batches -/

theorem embedBatches_cons_ok {answer : Nat → Except String (Response (List EmbeddingDatum))}
    {k : Nat} {b : List String} {bs : List (List String)} {vs : List (List Float32)}
    (h : (embedBatches answer k (b :: bs)).2 = .ok vs) :
    ∃ v vs', readEmbeddings b.length (answer k) = .ok v ∧
      (embedBatches answer (k + 1) bs).2 = .ok vs' ∧ vs = v ++ vs' ∧
      (embedBatches answer k (b :: bs)).1 = b :: (embedBatches answer (k + 1) bs).1 := by
  rcases hr : readEmbeddings b.length (answer k) with e | v
  · simp [embedBatches, hr] at h
  · rcases hrest : embedBatches answer (k + 1) bs with ⟨sent, result⟩
    have hsent : (embedBatches answer k (b :: bs)).1 = b :: sent := by
      simp only [embedBatches, hr, hrest]
    simp only [embedBatches, hr, hrest] at h
    cases result with
    | error e => cases h
    | ok vs' => exact ⟨v, vs', rfl, rfl, (Except.ok.inj h).symm, hsent⟩

/-- **A failed run stops at the failing batch.** The batches requested are the first `j + 1`, and
the error is that of the answer to the last of them. -/
theorem embedBatches_error (answer : Nat → Except String (Response (List EmbeddingDatum))) :
    ∀ (bs : List (List String)) (k : Nat) (e : ProviderError),
      (embedBatches answer k bs).2 = .error e →
      ∃ j < bs.length, (embedBatches answer k bs).1 = bs.take (j + 1) ∧
        ∃ b ∈ bs[j]?, readEmbeddings b.length (answer (k + j)) = .error e
  | [], k, e, h => by simp [embedBatches] at h
  | b :: bs, k, e, h => by
    rcases hr : readEmbeddings b.length (answer k) with e' | v
    · -- the first batch fails, and nothing is sent after it
      simp only [embedBatches, hr, Except.error.injEq] at h ⊢
      exact ⟨0, by simp, rfl, b, rfl, by rw [Nat.add_zero, hr, h]⟩
    · -- the first batch is answered: the failure is further down
      rcases hrest : embedBatches answer (k + 1) bs with ⟨sent, result⟩
      simp only [embedBatches, hr, hrest] at h ⊢
      cases result with
      | ok vs => cases h
      | error e'' =>
        obtain ⟨j, hj, hsent, b', hb', hfail⟩ := embedBatches_error answer bs (k + 1) e
          (by rw [hrest]; exact h)
        simp only [hrest] at hsent
        refine ⟨j + 1, by simp [hj], by rw [hsent]; rfl, b', hb', ?_⟩
        rwa [Nat.add_right_comm, Nat.add_assoc] at hfail

/-- **The run over the batches of some texts**, its requests counted from `k`: when it succeeds,
the batches were all requested, there is one vector per text, and the vector of text `i` comes
from the data of answer `k + i / 64`, at place `i % 64` once they are ordered by index. -/
theorem embedBatches_batches_ok (answer : Nat → Except String (Response (List EmbeddingDatum))) :
    ∀ (texts : List String) (k : Nat) (vs : List (List Float32)),
      (embedBatches answer k (batches texts)).2 = .ok vs →
      (embedBatches answer k (batches texts)).1 = batches texts ∧ vs.length = texts.length ∧
      ∀ i < texts.length, ∃ data, Delivers (answer (k + i / 64)) data ∧
        data.length = ((texts.drop (64 * (i / 64))).take 64).length ∧
        vs[i]? = ((byIndex data)[i % 64]?).map (·.embedding) := by
  intro texts
  induction texts using batches.induct with
  | case1 =>
    intro k vs h
    simp only [batches_nil, embedBatches, Except.ok.injEq] at h
    subst h
    simp [batches_nil, embedBatches]
  | case2 x rest ih =>
    intro k vs h
    rw [batches_cons] at h ⊢
    obtain ⟨v, vs', hv, hrest, rfl, hsent⟩ := embedBatches_cons_ok h
    obtain ⟨data, hdel, hlen, rfl⟩ := readEmbeddings_ok hv
    obtain ⟨hsent', hlen', hat⟩ := ih (k + 1) vs' hrest
    simp only [embeddingBatch] at hsent' hlen' hat
    have hfirst : ((byIndex data).map (·.embedding)).length = ((x :: rest).take 64).length := by
      rw [List.length_map, length_byIndex, hlen]
    refine ⟨by rw [hsent, hsent'], ?_, fun i hi => ?_⟩
    · rw [List.length_append, hfirst, hlen', List.length_take, List.length_drop]
      omega
    · by_cases hi64 : i < 64
      · -- a text of the first batch
        have hdiv : i / 64 = 0 := Nat.div_eq_of_lt hi64
        refine ⟨data, by simpa [hdiv] using hdel, by simpa [hdiv] using hlen, ?_⟩
        rw [List.getElem?_append_left (by rw [hfirst, List.length_take]; omega),
          Nat.mod_eq_of_lt hi64, List.getElem?_map]
      · -- a text of a later batch: its place among the texts after the first 64
        have hrest_i : i - 64 < ((x :: rest).drop 64).length := by
          rw [List.length_drop]
          omega
        obtain ⟨data', hdel', hlen'', hat'⟩ := hat (i - 64) hrest_i
        have hdiv : i / 64 = (i - 64) / 64 + 1 := by omega
        have hmod : i % 64 = (i - 64) % 64 := by omega
        have hoff : 64 + 64 * ((i - 64) / 64) = 64 * (i / 64) := by omega
        refine ⟨data', by rwa [hdiv, ← Nat.add_assoc, Nat.add_right_comm k], ?_, ?_⟩
        · rw [hlen'', List.drop_drop, hoff]
        · rw [List.getElem?_append_right (by rw [hfirst, List.length_take]; omega), hfirst,
            List.length_take, hmod, ← hat']
          congr 1
          simp only [List.length_cons] at hi ⊢
          omega

/-- **Embedding in batches aligns each vector with its text.** When embedding texts succeeds:

* the requests were the batches, the `k`-th holding the texts from `64 * k` on, at most 64 of
  them, with no request for no text;
* there is one vector per text;
* the vector of text `i` comes from answer `i / 64`, a `2xx` response whose data are as many as
  the texts of its batch: it is the vector at place `i % 64` of those data ordered by index, and
  when their indices are exactly `0 … n-1`, the vector of the datum whose index is `i % 64`. -/
theorem embedAll_aligns (answer : Nat → Except String (Response (List EmbeddingDatum)))
    (texts : List String) (vs : List (List Float32))
    (h : (embedAllWith answer texts).2 = .ok vs) :
    (embedAllWith answer texts).1 = batches texts ∧
      (∀ k, (batches texts)[k]? =
        if 64 * k < texts.length then some ((texts.drop (64 * k)).take 64) else none) ∧
      vs.length = texts.length ∧
      ∀ i < texts.length, ∃ data, Delivers (answer (i / 64)) data ∧
        data.length = ((texts.drop (64 * (i / 64))).take 64).length ∧
        vs[i]? = ((byIndex data)[i % 64]?).map (·.embedding) ∧
        ((data.map (·.index)).Perm (List.range data.length) →
          ∃ d ∈ data, d.index = i % 64 ∧ vs[i]? = some d.embedding) := by
  obtain ⟨hsent, hlen, hat⟩ := embedBatches_batches_ok answer texts 0 vs h
  refine ⟨hsent, getElem?_batches texts, hlen, fun i hi => ?_⟩
  obtain ⟨data, hdel, hdata, hvec⟩ := hat i hi
  rw [Nat.zero_add] at hdel
  refine ⟨data, hdel, hdata, hvec, fun hperm => ?_⟩
  -- the place `i % 64` is within the batch, so within the data
  have hplace : i % 64 < data.length := by
    rw [hdata, List.length_take, List.length_drop]
    have := Nat.mod_lt i (by omega : 64 > 0)
    have := Nat.div_add_mod i 64
    omega
  obtain ⟨d, hd, hindex, hget⟩ := index_byIndex hperm hplace
  exact ⟨d, hd, hindex, by rw [hvec, hget, Option.map_some]⟩

/-- One text embedded by an answer with one datum of index `0`. -/
theorem embedAll_aligns_one_text :
    (embedAllWith (fun _ => .ok ⟨200, "", .ok [⟨0, [1]⟩]⟩) ["x"]).2 = .ok [[1]] ∧
      (embedAllWith (fun _ => .ok ⟨200, "", .ok [⟨0, [1]⟩]⟩) ["x"]).1 = batches ["x"] :=
  have h : (embedAllWith (fun _ => .ok ⟨200, "", .ok [⟨0, [1]⟩]⟩) ["x"]).2 = .ok [[1]] := by
    simp [embedAllWith, batches_cons, batches_nil, embedBatches, readEmbeddings, isSuccess,
      batchVectors, byIndex, Except.map]
  ⟨h, (embedAll_aligns _ ["x"] [[1]] h).1⟩

/-- **An answer with a repeated index is accepted.** Two texts answered by two data both of index
`0`: the call succeeds, and the second text gets the vector of the second datum, whose index is
not `1`. -/
theorem duplicate_indices_accepted :
    embedAllWith (fun _ => .ok ⟨200, "", .ok [⟨0, [1]⟩, ⟨0, [2]⟩]⟩) ["x", "y"] =
      ([["x", "y"]], .ok [[1], [2]]) := by
  have hsorted : byIndex [⟨0, [1]⟩, ⟨0, [2]⟩] = [⟨0, [1]⟩, ⟨0, [2]⟩] :=
    List.mergeSort_of_pairwise (by decide)
  simp [embedAllWith, batches_cons, batches_nil, embedBatches, readEmbeddings, isSuccess,
    batchVectors, hsorted, Except.map]

end KnowledgeDesk.Remote

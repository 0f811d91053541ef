import KnowledgeDesk.Proofs.IndexUpsert

/-!
# Calls on an in-memory vector store

Three calls change a store: `addAll` adds a batch to an index, each entry replacing the one with
its id or going last; `removeFile` takes the entries of a file key out of an index; `dropIndex`
forgets an index. Main statement (`store_calls_per_index`): after any calls on a new store,

* the store is well formed (`WellFormed`): each index name once, and within each index each id
  once;
* each index holds what the calls that name it make of it, one call after the other
  (`reference`), where an added entry replaces *every* entry with its id, or goes last when there
  is none: with distinct ids, replacing the first such entry is the same (`addEntry_eq_upsert`);
* a call on one index leaves every other index as it was (`entries_apply_of_ne`), and the size
  of an index is the length of its list.

The step lemmas (`WellFormed.apply`, `WellFormed.entries_apply`) give the run lemmas by induction
on the calls.
-/

namespace KnowledgeDesk.MemoryStore

/-- A call that changes a store. -/
inductive Op where
  | addAll (index : String) (entries : List EmbeddingEntry)
  | removeFile (index : String) (fileKey : String)
  | dropIndex (index : String)

/-- The index a call names. -/
def Op.index : Op → String
  | .addAll i _ | .removeFile i _ | .dropIndex i => i

/-- Make a call. -/
def apply (s : MemoryStore) : Op → MemoryStore
  | .addAll i es => s.addAll i es
  | .removeFile i key => s.removeFile i key
  | .dropIndex i => s.dropIndex i

/-- Make calls in order. -/
def run (s : MemoryStore) (ops : List Op) : MemoryStore := ops.foldl apply s

/-! ## The reference, index by index -/

/-- Add an entry: it replaces every entry with its id, or goes last when there is none. -/
def upsert (es : List EmbeddingEntry) (e : EmbeddingEntry) : List EmbeddingEntry :=
  if e.id ∈ ids es then es.map fun x => if x.id = e.id then e else x else es ++ [e]

/-- What a call makes of the entries of index `i`: a call on another index leaves them. -/
def Op.onIndex (i : String) (es : List EmbeddingEntry) : Op → List EmbeddingEntry
  | .addAll j batch => if i = j then batch.foldl upsert es else es
  | .removeFile j key =>
    if i = j then es.filter fun e => e.segment.meta? metaFileKey ≠ some key else es
  | .dropIndex j => if i = j then [] else es

/-- The entries of index `i` after calls on a new store. -/
def reference (ops : List Op) (i : String) : List EmbeddingEntry := ops.foldl (Op.onIndex i) []

/-- Each index name once, and within each index each id once. -/
structure WellFormed (s : MemoryStore) : Prop where
  names_nodup : (s.indices.map Prod.fst).Nodup
  ids_nodup : ∀ p ∈ s.indices, (ids p.2).Nodup

/-! ## Adding entries with distinct ids -/

theorem addEntry_eq_upsert {es : List EmbeddingEntry} (hnd : (ids es).Nodup) (e : EmbeddingEntry) :
    addEntry es e = upsert es e := by
  unfold upsert
  split
  · next h => exact addEntry_of_mem hnd h
  · next h => exact addEntry_of_not_mem h

theorem foldl_addEntry_eq_upsert {es : List EmbeddingEntry} (hnd : (ids es).Nodup)
    (batch : List EmbeddingEntry) : batch.foldl addEntry es = batch.foldl upsert es := by
  induction batch generalizing es with
  | nil => rfl
  | cons e batch ih =>
    rw [List.foldl_cons, List.foldl_cons, ← addEntry_eq_upsert hnd e, ih (nodup_addEntry hnd e)]

/-! ## One call -/

theorem wellFormed_empty : WellFormed {} := ⟨by simp, by simp⟩

theorem WellFormed.nodup_entries {s : MemoryStore} (h : WellFormed s) (i : String) :
    (ids (s.entries i)).Nodup := by
  unfold entries
  cases hf : s.indices.find? (·.1 = i) with
  | none => simp
  | some p => exact h.ids_nodup p (List.mem_of_find?_eq_some hf)

theorem WellFormed.setEntries {s : MemoryStore} (h : WellFormed s) (i : String)
    {es : List EmbeddingEntry} (hes : (ids es).Nodup) : WellFormed (s.setEntries i es) := by
  unfold MemoryStore.setEntries
  split
  · -- the index is there: every name stays, and the lists named `i` become `es`
    refine ⟨by simpa [Function.comp_def, apply_ite Prod.fst] using h.names_nodup, ?_⟩
    intro p hp
    obtain ⟨q, hq, rfl⟩ := List.mem_map.mp hp
    by_cases hqi : q.1 = i
    · simpa [hqi] using hes
    · simpa [hqi] using h.ids_nodup q hq
  · -- a new index goes last, under a name no index has
    next hany =>
    have hnew : i ∉ s.indices.map Prod.fst := fun hi => by
      obtain ⟨q, hq, rfl⟩ := List.mem_map.mp hi
      exact hany (List.any_eq_true.mpr ⟨q, hq, by simp⟩)
    refine ⟨?_, fun p hp => ?_⟩
    · rw [List.map_append, List.nodup_append]
      exact ⟨h.names_nodup, by simp, fun a ha b hb hab => hnew (by simp_all)⟩
    · rcases List.mem_append.mp hp with hp | hp
      · exact h.ids_nodup p hp
      · rw [List.mem_singleton.mp hp]
        exact hes

/-- **Every call keeps the store well formed.** -/
theorem WellFormed.apply {s : MemoryStore} (h : WellFormed s) (op : Op) :
    WellFormed (s.apply op) := by
  cases op with
  | addAll i batch => exact h.setEntries i (nodup_foldl_addEntry (h.nodup_entries i) batch)
  | removeFile i key =>
    show WellFormed (s.removeFile i key)
    unfold removeFile
    split
    · exact h.setEntries i ((h.nodup_entries i).sublist (List.filter_sublist.map _))
    · exact h
  | dropIndex i =>
    exact ⟨h.names_nodup.sublist (List.filter_sublist.map _),
      fun p hp => h.ids_nodup p (List.mem_filter.mp hp).1⟩

/-- **A call on one index leaves every other index.** -/
theorem entries_apply_of_ne (s : MemoryStore) {op : Op} {j : String} (hj : j ≠ op.index) :
    (s.apply op).entries j = s.entries j := by
  cases op with
  | addAll i batch => exact (entries_setEntries s i j _).trans (if_neg hj)
  | removeFile i key => exact (entries_removeFile s i key j).trans (if_neg hj)
  | dropIndex i => exact (entries_dropIndex s i j).trans (if_neg hj)

/-- **One call follows the reference** on a well-formed store. -/
theorem WellFormed.entries_apply {s : MemoryStore} (h : WellFormed s) (op : Op) (j : String) :
    (s.apply op).entries j = op.onIndex j (s.entries j) := by
  cases op with
  | addAll i batch =>
    rw [MemoryStore.apply, addAll, entries_setEntries, Op.onIndex]
    split
    · next hj => rw [hj, foldl_addEntry_eq_upsert (h.nodup_entries i)]
    · rfl
  | removeFile i key =>
    rw [MemoryStore.apply, entries_removeFile, Op.onIndex]
    split
    · next hj => rw [hj]
    · rfl
  | dropIndex i => rw [MemoryStore.apply, entries_dropIndex, Op.onIndex]

/-! ## Runs of calls -/

theorem WellFormed.run {s : MemoryStore} (h : WellFormed s) (ops : List Op) :
    WellFormed (s.run ops) := by
  induction ops generalizing s with
  | nil => exact h
  | cons op ops ih => exact ih (h.apply op)

theorem WellFormed.entries_run {s : MemoryStore} (h : WellFormed s) (ops : List Op) (i : String) :
    (s.run ops).entries i = ops.foldl (Op.onIndex i) (s.entries i) := by
  induction ops generalizing s with
  | nil => rfl
  | cons op ops ih =>
    show ((s.apply op).run ops).entries i = _
    rw [ih (h.apply op), h.entries_apply, List.foldl_cons]

/-- **Calls on a new store, index by index.** The store stays well formed, each index holds what
the reference makes of the calls that name it, its size is the length of that list, and a further
call on one index leaves every other. -/
theorem store_calls_per_index (ops : List Op) :
    WellFormed (run {} ops) ∧
      (∀ i, (run {} ops).entries i = reference ops i ∧
        (run {} ops).size i = (reference ops i).length) ∧
      ∀ op j, j ≠ op.index → ((run {} ops).apply op).entries j = (run {} ops).entries j := by
  have hentries : ∀ i, (run {} ops).entries i = reference ops i := fun i =>
    wellFormed_empty.entries_run ops i
  exact ⟨wellFormed_empty.run ops, fun i => ⟨hentries i, by rw [size, hentries]⟩,
    fun _ _ hj => entries_apply_of_ne _ hj⟩

end KnowledgeDesk.MemoryStore

import KnowledgeDesk.Vector.Memory
import KnowledgeDesk.Proofs.RemovalCleanup

/-!
# Adding entries to an index

An index keeps one entry per id: adding an entry whose id is there replaces that entry in place,
and any other entry goes to the end. So when the ids of an index are distinct they stay distinct,
and after a list of entries is added, the entry under an id is the last added one with that id,
or the one from before when none was added (`find?_foldl_addEntry`).

Adding a second list changes nothing when it writes only ids the first one wrote, each last with
the entry the first one wrote last (`foldl_addEntry_again`). `Replays` says when one run of loads,
a batch per document, replays another in that sense: each batch is the same as before, or new
where the earlier run loaded nothing, with every id in it loaded again by a later batch of the
earlier run (`Replays.lastWith_eq`).
-/

namespace KnowledgeDesk.MemoryStore

/-- The ids of entries, in order. -/
def ids (es : List EmbeddingEntry) : List String := es.map (·.id)

/-- The entry added last under an id. -/
def lastWith (es : List EmbeddingEntry) (i : String) : Option EmbeddingEntry :=
  es.reverse.find? (·.id = i)

@[simp] theorem ids_nil : ids [] = [] := rfl

@[simp] theorem ids_append (es es' : List EmbeddingEntry) : ids (es ++ es') = ids es ++ ids es' :=
  List.map_append

@[simp] theorem mem_ids {es : List EmbeddingEntry} {i : String} : i ∈ ids es ↔ ∃ e ∈ es, e.id = i :=
  List.mem_map

@[simp] theorem lastWith_nil (i : String) : lastWith [] i = none := rfl

theorem lastWith_append (es es' : List EmbeddingEntry) (i : String) :
    lastWith (es ++ es') i = (lastWith es' i).or (lastWith es i) := by
  simp only [lastWith, List.reverse_append, List.find?_append]

theorem lastWith_eq_none {es : List EmbeddingEntry} {i : String} :
    lastWith es i = none ↔ i ∉ ids es := by
  simp [lastWith, List.find?_eq_none]

/-- In entries with distinct ids, an entry is the one found under its id. -/
theorem find?_of_mem {es : List EmbeddingEntry} (hnd : (ids es).Nodup) {x : EmbeddingEntry}
    (hx : x ∈ es) : es.find? (·.id = x.id) = some x := by
  induction es with
  | nil => cases hx
  | cons y es ih =>
    simp only [ids, List.map_cons, List.nodup_cons] at hnd
    rcases List.mem_cons.mp hx with rfl | hx
    · simp
    · -- `y` has another id than every later entry
      have hne : y.id ≠ x.id := fun h => hnd.1 (h ▸ List.mem_map_of_mem hx)
      rw [List.find?_cons_of_neg (by simpa using hne)]
      exact ih hnd.2 hx

/-! ## One entry -/

/-- Replacing the first entry with an id replaces every one when ids are distinct. -/
theorem replaceFirst_eq_map (e : EmbeddingEntry) {es : List EmbeddingEntry} (hnd : (ids es).Nodup) :
    addEntry.replaceFirst e es = es.map fun x => if x.id = e.id then e else x := by
  induction es with
  | nil => rfl
  | cons x es ih =>
    simp only [ids, List.map_cons, List.nodup_cons] at hnd
    by_cases hx : x.id = e.id
    · -- no later entry has the id
      have hrest : ∀ y ∈ es, y.id ≠ e.id := fun y hy h => hnd.1 (hx ▸ h ▸ List.mem_map_of_mem hy)
      simp only [addEntry.replaceFirst, hx, if_true, List.map_cons, List.cons.injEq, true_and]
      exact (List.map_congr_left fun y hy => if_neg (hrest y hy)).trans (List.map_id' es) |>.symm
    · simp only [addEntry.replaceFirst, hx, if_false, List.map_cons, ih hnd.2]

theorem addEntry_of_mem {es : List EmbeddingEntry} (hnd : (ids es).Nodup) {e : EmbeddingEntry}
    (h : e.id ∈ ids es) : addEntry es e = es.map fun x => if x.id = e.id then e else x := by
  have hany : es.any (·.id = e.id) = true := by simpa [ids] using h
  rw [addEntry, if_pos hany, replaceFirst_eq_map e hnd]

theorem addEntry_of_not_mem {es : List EmbeddingEntry} {e : EmbeddingEntry} (h : e.id ∉ ids es) :
    addEntry es e = es ++ [e] := by
  have hany : ¬ es.any (·.id = e.id) = true := by simpa [ids] using h
  rw [addEntry, if_neg hany]

theorem ids_addEntry {es : List EmbeddingEntry} (hnd : (ids es).Nodup) (e : EmbeddingEntry) :
    ids (addEntry es e) = if e.id ∈ ids es then ids es else ids es ++ [e.id] := by
  split
  · next h =>
    rw [addEntry_of_mem hnd h, ids, List.map_map]
    exact List.map_congr_left fun x _ => by by_cases hx : x.id = e.id <;> simp [hx]
  · next h => simp [addEntry_of_not_mem h, ids]

theorem nodup_addEntry {es : List EmbeddingEntry} (hnd : (ids es).Nodup) (e : EmbeddingEntry) :
    (ids (addEntry es e)).Nodup := by
  rw [ids_addEntry hnd]
  split
  · exact hnd
  · next h =>
    refine List.nodup_append.mpr ⟨hnd, by simp, fun a ha b hb => ?_⟩
    rw [List.mem_singleton] at hb
    exact fun hab => h (hb ▸ hab ▸ ha)

theorem find?_addEntry {es : List EmbeddingEntry} (hnd : (ids es).Nodup) (e : EmbeddingEntry)
    (i : String) :
    (addEntry es e).find? (·.id = i) = if e.id = i then some e else es.find? (·.id = i) := by
  by_cases h : e.id ∈ ids es
  · rw [addEntry_of_mem hnd h, List.find?_map]
    by_cases hi : e.id = i
    · subst hi
      -- an entry lands on the id exactly when it had it
      have hpred : (fun x => decide ((if x.id = e.id then e else x).id = e.id)) =
          fun x => decide (x.id = e.id) := funext fun x => by by_cases hx : x.id = e.id <;> simp [hx]
      obtain ⟨x, hx, hxid⟩ := mem_ids.mp h
      have hfind := find?_of_mem hnd hx
      rw [hxid] at hfind
      simp only [Function.comp_def, hpred, hfind, Option.map_some, hxid, if_true]
    · -- the entries with id `i` are left as they are
      have hpred : (fun x => decide ((if x.id = e.id then e else x).id = i)) =
          fun x => decide (x.id = i) := funext fun x => by by_cases hx : x.id = e.id <;> simp [hx, hi]
      simp only [Function.comp_def, hpred, if_neg hi]
      cases hfind : es.find? (·.id = i) with
      | none => rfl
      | some x =>
        have hxi : x.id = i := by simpa using List.find?_some hfind
        have hxe : ¬ x.id = e.id := fun h => hi (h ▸ hxi)
        simp [hxe]
  · rw [addEntry_of_not_mem h, List.find?_append]
    by_cases hi : e.id = i
    · subst hi
      have hnone : es.find? (·.id = e.id) = none := by simpa [List.find?_eq_none, ids] using h
      simp [hnone]
    · simp [hi]

/-! ## A list of entries -/

theorem nodup_foldl_addEntry {es : List EmbeddingEntry} (hnd : (ids es).Nodup)
    (added : List EmbeddingEntry) : (ids (added.foldl addEntry es)).Nodup := by
  induction added generalizing es with
  | nil => exact hnd
  | cons e added ih => exact ih (nodup_addEntry hnd e)

/-- **After adding entries**, the entry under an id is the last one added with it, or the one
from before. -/
theorem find?_foldl_addEntry {es : List EmbeddingEntry} (hnd : (ids es).Nodup)
    (added : List EmbeddingEntry) (i : String) :
    (added.foldl addEntry es).find? (·.id = i) = (lastWith added i).or (es.find? (·.id = i)) := by
  induction added generalizing es with
  | nil => rfl
  | cons e added ih =>
    rw [List.foldl_cons, ih (nodup_addEntry hnd e), find?_addEntry hnd,
      show e :: added = [e] ++ added from rfl, lastWith_append]
    by_cases hi : e.id = i <;> simp [lastWith, hi]

theorem mem_ids_foldl_addEntry {es : List EmbeddingEntry} (hnd : (ids es).Nodup)
    (added : List EmbeddingEntry) {i : String} (h : i ∈ ids added) :
    i ∈ ids (added.foldl addEntry es) := by
  have hfound : (added.foldl addEntry es).find? (·.id = i) ≠ none := by
    rw [find?_foldl_addEntry hnd]
    have hlast : lastWith added i ≠ none := fun hnone => lastWith_eq_none.mp hnone h
    obtain ⟨y, hy⟩ := Option.ne_none_iff_exists'.mp hlast
    simp [hy]
  obtain ⟨x, hx⟩ := Option.ne_none_iff_exists'.mp hfound
  exact mem_ids.mpr ⟨x, List.mem_of_find?_eq_some hx, by simpa using List.find?_some hx⟩

/-- Adding entries under ids the index has replaces each entry by the last one added with its id. -/
theorem foldl_addEntry_of_mem {es : List EmbeddingEntry} (hnd : (ids es).Nodup)
    {added : List EmbeddingEntry} (hmem : ∀ i ∈ ids added, i ∈ ids es) :
    added.foldl addEntry es = es.map fun x => (lastWith added x.id).getD x := by
  induction added generalizing es with
  | nil => simp
  | cons e added ih =>
    have he : e.id ∈ ids es := hmem e.id (by simp)
    have hnd' := nodup_addEntry hnd e
    have hmem' : ∀ i ∈ ids added, i ∈ ids (addEntry es e) := by
      intro i hi
      rw [ids_addEntry hnd, if_pos he]
      exact hmem i (by simp [ids] at hi ⊢; exact Or.inr hi)
    rw [List.foldl_cons, ih hnd' hmem', addEntry_of_mem hnd he, List.map_map]
    refine List.map_congr_left fun x _ => ?_
    rw [show e :: added = [e] ++ added from rfl, lastWith_append]
    by_cases hx : x.id = e.id
    · simp [hx, lastWith]
    · have hnot : ¬ e.id = x.id := fun h => hx h.symm
      simp [hx, lastWith, hnot]

/-- **Adding again what was added.** When a second list writes only ids the first one wrote, and
each last with the entry the first one wrote last, adding it changes nothing. -/
theorem foldl_addEntry_again {es : List EmbeddingEntry} (hnd : (ids es).Nodup)
    {first second : List EmbeddingEntry} (hsub : ∀ i ∈ ids second, i ∈ ids first)
    (hlast : ∀ i ∈ ids second, lastWith second i = lastWith first i) :
    second.foldl addEntry (first.foldl addEntry es) = first.foldl addEntry es := by
  have hnd₁ := nodup_foldl_addEntry hnd first
  rw [foldl_addEntry_of_mem hnd₁ fun i hi => mem_ids_foldl_addEntry hnd first (hsub i hi)]
  conv => rhs; rw [← List.map_id (first.foldl addEntry es)]
  refine List.map_congr_left fun x hx => ?_
  cases hsecond : lastWith second x.id with
  | none => rfl
  | some y =>
    -- `x` is the entry under its id, which is the one the first list wrote last
    have hin : x.id ∈ ids second := by
      by_contra hnot
      rw [lastWith_eq_none.mpr hnot] at hsecond
      cases hsecond
    have hfind := find?_foldl_addEntry hnd first x.id
    rw [find?_of_mem hnd₁ hx, ← hlast x.id hin, hsecond, Option.some_or] at hfind
    exact (Option.some.inj hfind).symm

/-! ## Replayed loads -/

/-- A second run of loads, one batch per document, replays a first: each batch is the first run's
batch again, or is loaded where the first run loaded nothing and writes only ids that a later
batch of the first run writes. Pairs are `(first run's batch, second run's batch)`. -/
inductive Replays : List (List EmbeddingEntry × List EmbeddingEntry) → Prop where
  | nil : Replays []
  | same {batch : List EmbeddingEntry} {rest} : Replays rest → Replays ((batch, batch) :: rest)
  | overwritten {batch : List EmbeddingEntry} {rest}
      (hlater : ∀ i ∈ ids batch, i ∈ ids (rest.flatMap Prod.fst)) :
      Replays rest → Replays (([], batch) :: rest)

/-- **A replay writes what the first run wrote**: the ids of the two runs are the same, and the
second run's last entry under each id is the first run's. -/
theorem Replays.lastWith_eq {bs : List (List EmbeddingEntry × List EmbeddingEntry)} (h : Replays bs) :
    (∀ i ∈ ids (bs.flatMap Prod.snd), i ∈ ids (bs.flatMap Prod.fst)) ∧
      (∀ i ∈ ids (bs.flatMap Prod.fst), i ∈ ids (bs.flatMap Prod.snd)) ∧
      ∀ i ∈ ids (bs.flatMap Prod.snd),
        lastWith (bs.flatMap Prod.snd) i = lastWith (bs.flatMap Prod.fst) i := by
  induction h with
  | nil => simp
  | @same batch rest _ ih =>
    obtain ⟨hsub, hsup, hlast⟩ := ih
    simp only [List.flatMap_cons, ids_append, List.mem_append]
    refine ⟨fun i hi => hi.imp id (hsub i), fun i hi => hi.imp id (hsup i), fun i _ => ?_⟩
    rw [lastWith_append, lastWith_append]
    by_cases hrest : i ∈ ids (rest.flatMap Prod.snd)
    · rw [hlast i hrest]
    · -- neither run writes `i` after this batch
      have hrest₁ : i ∉ ids (rest.flatMap Prod.fst) := fun h => hrest (hsup i h)
      rw [lastWith_eq_none.mpr hrest, lastWith_eq_none.mpr hrest₁]
  | @overwritten batch rest hlater _ ih =>
    obtain ⟨hsub, hsup, hlast⟩ := ih
    simp only [List.flatMap_cons, ids_append, List.nil_append, List.mem_append]
    refine ⟨fun i hi => hi.elim (hlater i) (hsub i), fun i hi => .inr (hsup i hi), fun i hi => ?_⟩
    rw [lastWith_append]
    by_cases hrest : i ∈ ids (rest.flatMap Prod.snd)
    · have hsome : lastWith (rest.flatMap Prod.fst) i ≠ none := by
        rw [← hlast i hrest, Ne, lastWith_eq_none, not_not]
        exact hrest
      obtain ⟨y, hy⟩ := Option.ne_none_iff_exists'.mp hsome
      rw [hlast i hrest, hy]
      rfl
    · -- a later batch of the first run writes `i`, so the second run writes it later too
      exact absurd (hsup i (hlater i (hi.resolve_right hrest))) hrest

end KnowledgeDesk.MemoryStore

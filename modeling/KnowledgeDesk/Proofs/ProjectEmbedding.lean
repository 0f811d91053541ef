import KnowledgeDesk.Proofs.DocumentEmbedding
import KnowledgeDesk.Server.Builtin
import KnowledgeDesk.Proofs.Split

/-!
# Embedding a project, once and again

`embedProject` embeds a project's documents one after another and counts those that embed: it
makes the run `embedEach` (`embedProject_eq`). Along a run:

* a file's rows, once it has some, stay as they are, and a file that had none gets at most the
  rows of one insert, made for one of the documents (`embedEach_keeps_rows`, `embedEach_rows`);
* the project's index gets the entries each document writes, upserted by key
  (`embedEach_entries`), so its keys stay distinct;
* a document that fails changes nothing, so a run of only the documents that embedded ends the
  same (`embedEach_successes`);
* at its end every file is settled: a document whose file has no rows could only be given none
  (`embedEach_settled`).

A second run from a settled state stores no rows, and every document writes there what it would
write at the run's start. Each entry the second run writes is then the one the first run wrote
for the same document, or one that a later document of the first run wrote under the same key
(`replays_embedEach`), so the index ends as it was. The flags need not: a document that found
its file without rows and could not cut it in the first run, while a later document of the same
file made the rows, embeds in the second run and is marked only then.
-/

namespace KnowledgeDesk.Server

open Store

namespace State

/-! ## Runs -/

/-- Documents embedded one after another: the state after, and the documents that embedded, in
order. -/
def embedEach : State → List (Row ProjectDocument) → State × List (Row ProjectDocument)
  | s, [] => (s, [])
  | s, d :: ds =>
    let r := s.embedDocument d
    let rest := embedEach r.1 ds
    (rest.1, if r.2.isOk then d :: rest.2 else rest.2)

def writtenEach : State → List (Row ProjectDocument) → List (List EmbeddingEntry)
  | _, [] => []
  | s, d :: ds => s.written d :: writtenEach (s.embedDocument d).1 ds

@[simp] theorem embedEach_nil (s : State) : s.embedEach [] = (s, []) := rfl

@[simp] theorem embedEach_cons_fst (s : State) (d : Row ProjectDocument)
    (ds : List (Row ProjectDocument)) :
    (s.embedEach (d :: ds)).1 = ((s.embedDocument d).1.embedEach ds).1 := rfl

theorem length_writtenEach (s : State) (docs : List (Row ProjectDocument)) :
    (s.writtenEach docs).length = docs.length := by
  induction docs generalizing s with
  | nil => rfl
  | cons d ds ih => simp [writtenEach, ih]

theorem foldl_eq_embedEach {f : State × Nat → Row ProjectDocument → State × Nat}
    (hf : ∀ t n d, f (t, n) d =
      ((t.embedDocument d).1, if (t.embedDocument d).2.isOk then n + 1 else n))
    (docs : List (Row ProjectDocument)) (s : State) (n : Nat) :
    docs.foldl f (s, n) = ((s.embedEach docs).1, n + (s.embedEach docs).2.length) := by
  induction docs generalizing s n with
  | nil => rfl
  | cons d ds ih =>
    rw [List.foldl_cons, hf, ih]
    by_cases hok : (s.embedDocument d).2.isOk = true
    · simp only [embedEach, hok, if_true, List.length_cons, Prod.mk.injEq, true_and]
      omega
    · simp [embedEach, hok]

/-- **Embedding a project** embeds its documents one after another and answers how many
embedded. -/
theorem embedProject_eq {s : State} {p : Int} (hp : (s.db.projects.find? p).isSome) :
    s.embedProject p =
      ((s.embedEach (s.db.documentsOf p)).1, .ok (s.embedEach (s.db.documentsOf p)).2.length) := by
  obtain ⟨proj, hproj⟩ := Option.isSome_iff_exists.mp hp
  unfold embedProject
  simp only [hproj]
  rw [foldl_eq_embedEach ?_ _ s 0, Nat.zero_add]
  intro t n d
  rcases h : t.embedDocument d with ⟨t', _ | _⟩ <;> simp [Except.isOk, Except.toBool]

@[simp] theorem embedEach_files (s : State) (docs : List (Row ProjectDocument)) :
    (s.embedEach docs).1.files = s.files := by
  induction docs generalizing s with
  | nil => rfl
  | cons d ds ih => simp [ih]

@[simp] theorem embedEach_wiring (s : State) (docs : List (Row ProjectDocument)) :
    (s.embedEach docs).1.wiring = s.wiring := by
  induction docs generalizing s with
  | nil => rfl
  | cons d ds ih => simp [ih]

@[simp] theorem embedEach_libs (s : State) (docs : List (Row ProjectDocument)) :
    (s.embedEach docs).1.libs = s.libs := by
  induction docs generalizing s with
  | nil => rfl
  | cons d ds ih => simp [ih]

@[simp] theorem embedEach_projects (s : State) (docs : List (Row ProjectDocument)) :
    (s.embedEach docs).1.db.projects = s.db.projects := by
  induction docs generalizing s with
  | nil => rfl
  | cons d ds ih => simp [ih]

/-! ## Runs over listed documents -/

/-- Documents that are in the database, whose documents have distinct keys. -/
structure Listed (s : State) (docs : List (Row ProjectDocument)) : Prop where
  nodup : (s.db.documents.rows.map (·.id)).Nodup
  mem : ∀ d ∈ docs, d.id ∈ s.db.documents.rows.map (·.id)

theorem map_id_markedWith (ids : List Int) (rows : List (Row ProjectDocument)) :
    (rows.map (markedWith ids)).map (·.id) = rows.map (·.id) := by
  simp [Function.comp_def]

theorem Listed.step {s : State} {d : Row ProjectDocument} {ds : List (Row ProjectDocument)}
    (h : Listed s (d :: ds)) :
    (s.embedDocument d).1 = (if s.embeds d then s.embedded d else s) ∧
      (s.embedDocument d).2.isOk = s.embeds d := by
  cases hemb : s.embeds d with
  | false =>
    obtain ⟨e, he⟩ := embedDocument_of_not_embeds hemb
    simp [he, Except.isOk, Except.toBool]
  | true =>
    rw [embedDocument_of_embeds h.nodup (h.mem d List.mem_cons_self) hemb]
    simp [Except.isOk, Except.toBool]

theorem Listed.next {s : State} {d : Row ProjectDocument} {ds : List (Row ProjectDocument)}
    (h : Listed s (d :: ds)) : Listed (s.embedDocument d).1 ds := by
  -- embedding keeps every document's key
  have hids : (s.embedDocument d).1.db.documents.rows.map (·.id) =
      s.db.documents.rows.map (·.id) := by
    rw [h.step.1]
    split
    · exact map_id_markedWith [d.id] s.db.documents.rows
    · rfl
  exact ⟨hids ▸ h.nodup, fun d' hd' => hids ▸ h.mem d' (List.mem_cons_of_mem d hd')⟩

theorem Listed.tail {s : State} {d : Row ProjectDocument} {ds : List (Row ProjectDocument)}
    (h : Listed s (d :: ds)) : Listed s ds :=
  ⟨h.nodup, fun d' hd' => h.mem d' (List.mem_cons_of_mem d hd')⟩

@[simp] theorem markedWith_nil : markedWith [] = id := by
  funext r
  simp [markedWith]

theorem markedWith_markedWith (ids ids' : List Int) (r : Row ProjectDocument) :
    markedWith ids (markedWith ids' r) = markedWith (ids' ++ ids) r := by
  unfold markedWith
  by_cases h' : r.id ∈ ids' <;> by_cases h : r.id ∈ ids <;> simp [h, h']

/-- **The flags after a run**: exactly the documents that embedded are marked. -/
theorem embedEach_documents {s : State} {docs : List (Row ProjectDocument)} (h : Listed s docs) :
    (s.embedEach docs).1.db.documents = { s.db.documents with
      rows := s.db.documents.rows.map (markedWith ((s.embedEach docs).2.map (·.id))) } := by
  induction docs generalizing s with
  | nil => simp
  | cons d ds ih =>
    obtain ⟨hstep, hok⟩ := h.step
    rw [embedEach_cons_fst, ih h.next]
    simp only [embedEach, hok]
    rw [hstep]
    cases s.embeds d with
    | false => rfl
    | true =>
      simp only [if_true, List.map_cons, embedded, List.map_map, Function.comp_def,
        markedWith_markedWith, List.singleton_append]

/-! ## What a run does to the stored vectors -/

theorem embedEach_keeps_rows (s : State) (docs : List (Row ProjectDocument)) {k : String}
    (hk : s.db.embeddingsOfFile k ≠ []) :
    (s.embedEach docs).1.db.embeddingsOfFile k = s.db.embeddingsOfFile k := by
  induction docs generalizing s with
  | nil => rfl
  | cons d ds ih =>
    have hstep : (s.embedDocument d).1.db.embeddingsOfFile k = s.db.embeddingsOfFile k := by
      rw [embedDocument_rows]
      rcases withFileRows_rows s d k with h | ⟨h, -⟩
      · exact h
      · exact absurd h hk
    rw [embedEach_cons_fst, ih _ (hstep ▸ hk), hstep]

/-- **The rows of every file after a run** are those it had, or, for a file that had none, the
rows of one insert, made for one of the run's documents. -/
theorem embedEach_rows (s : State) (docs : List (Row ProjectDocument)) (k : String) :
    (s.embedEach docs).1.db.embeddingsOfFile k = s.db.embeddingsOfFile k ∨
      (s.db.embeddingsOfFile k = [] ∧ ∃ d ∈ docs, d.val.fileKey = k ∧
        ∃ fresh, s.freshRows d = .ok fresh ∧ ∃ n : Int,
          (s.embedEach docs).1.db.embeddingsOfFile k =
            fresh.mapIdx fun i e => (⟨n + i, e⟩ : Row EmbeddingRow)) := by
  induction docs generalizing s with
  | nil => exact .inl rfl
  | cons d ds ih =>
    set t := (s.embedDocument d).1 with ht
    have hstep := withFileRows_rows s d k
    rw [← embedDocument_rows s d k, ← ht] at hstep
    rw [embedEach_cons_fst, ← ht]
    rcases ih t with hend | ⟨hnone, d', hd', hkey, fresh, hfresh, n, hrows⟩
    · -- the run after `d` keeps the rows `d` left
      rcases hstep with hsame | ⟨hnone, hkey, fresh, hfresh, hrows⟩
      · exact .inl (hend.trans hsame)
      · exact .inr ⟨hnone, d, List.mem_cons_self, hkey, fresh, hfresh, _, hend.trans hrows⟩
    · -- a later document made the rows; before it the file had none
      have hs : s.db.embeddingsOfFile k = [] := by
        rcases hstep with hsame | ⟨hnone', -⟩
        · exact hsame ▸ hnone
        · exact hnone'
      have hfresh' : s.freshRows d' = .ok fresh := by
        rw [← freshRows_congr (embedDocument_files s d) (embedDocument_wiring s d)
          (embedDocument_libs s d)]
        exact hfresh
      exact .inr ⟨hs, d', List.mem_cons_of_mem d hd', hkey, fresh, hfresh', n, hrows⟩

/-- A run leaves every file settled: a document whose file has no rows at the end could not be
given any. -/
def Settled (s : State) (docs : List (Row ProjectDocument)) : Prop :=
  ∀ d ∈ docs, s.db.embeddingsOfFile d.val.fileKey = [] →
    ∀ fresh, s.freshRows d = .ok fresh → fresh = []

theorem embedEach_settled (s : State) (docs : List (Row ProjectDocument)) :
    Settled (s.embedEach docs).1 docs := by
  induction docs generalizing s with
  | nil => intro d hd; cases hd
  | cons d ds ih =>
    intro d' hd' hnone fresh hfresh
    rw [embedEach_cons_fst] at hnone hfresh
    rcases List.mem_cons.mp hd' with rfl | hlater
    · -- `d'` itself: the file had no rows at its turn, and what it made would have stayed
      have hsame : ((s.embedDocument d').1.embedEach ds).1.freshRows d' = s.freshRows d' :=
        freshRows_congr (by simp) (by simp) (by simp) d'
      rw [hsame] at hfresh
      have hs : s.db.embeddingsOfFile d'.val.fileKey = [] := by
        by_contra hs
        have hkeep := embedEach_keeps_rows s (d' :: ds) hs
        rw [embedEach_cons_fst] at hkeep
        exact hs (hkeep ▸ hnone)
      have hmade := withFileRows_of_fresh hs hfresh
      rw [← embedDocument_rows] at hmade
      by_contra hne
      have hrows : (s.embedDocument d').1.db.embeddingsOfFile d'.val.fileKey ≠ [] := by
        rw [hmade]
        simpa using hne
      exact hrows ((embedEach_keeps_rows _ ds hrows).symm.trans hnone)
    · exact ih _ d' hlater hnone fresh hfresh

/-- Each row a run leaves a file either was there before, or is under a key that the run's
entries use. -/
theorem embedEach_rows_written (s : State) (docs : List (Row ProjectDocument)) (k : String) :
    ∀ r ∈ (s.embedEach docs).1.db.embeddingsOfFile k,
      r ∈ s.db.embeddingsOfFile k ∨ toString r.id ∈ MemoryStore.ids (s.writtenEach docs).flatten := by
  induction docs generalizing s with
  | nil => exact fun r hr => .inl hr
  | cons d ds ih =>
    intro r hr
    rw [embedEach_cons_fst] at hr
    simp only [writtenEach, List.flatten_cons, MemoryStore.ids_append, List.mem_append]
    rcases ih _ r hr with hmid | hlater
    · rw [embedDocument_rows] at hmid
      rcases withFileRows_rows s d k with hsame | ⟨hnone, rfl, fresh, hfresh, -⟩
      · exact .inl (hsame ▸ hmid)
      · -- the row was made for `d`, which wrote an entry under its key
        have hids := ids_written (embeds_of_fresh hnone hfresh)
        exact .inr (.inl (hids ▸ List.mem_map_of_mem hmid))
    · exact .inr (.inr hlater)

/-! ## What a run does to the index -/

/-- The index of a project after a run of its documents holds the entries they wrote, upserted
in order. -/
theorem embedEach_entries (s : State) (docs : List (Row ProjectDocument)) (p : Int)
    (hp : ∀ d ∈ docs, d.val.projectId = p) :
    (s.embedEach docs).1.projectVectors.entries (projectIndex p) =
      (s.writtenEach docs).flatten.foldl MemoryStore.addEntry
        (s.projectVectors.entries (projectIndex p)) := by
  induction docs generalizing s with
  | nil => rfl
  | cons d ds ih =>
    rw [embedEach_cons_fst, ih _ (fun d' hd' => hp d' (List.mem_cons_of_mem d hd')),
      writtenEach, List.flatten_cons, List.foldl_append, ← hp d List.mem_cons_self,
      embedDocument_entries]

/-- **A document that fails changes nothing**: the run of only the documents that embedded ends
in the same state, and they all embed again. -/
theorem embedEach_successes {s : State} {docs : List (Row ProjectDocument)} (h : Listed s docs) :
    s.embedEach (s.embedEach docs).2 = s.embedEach docs := by
  induction docs generalizing s with
  | nil => rfl
  | cons d ds ih =>
    obtain ⟨hstep, hok⟩ := h.step
    cases hemb : s.embeds d with
    | false =>
      have hs : (s.embedDocument d).1 = s := by simp [hstep, hemb]
      have hrun : s.embedEach (d :: ds) = s.embedEach ds := by
        simp only [embedEach, hok, hemb, hs, Bool.false_eq_true, if_false]
      rw [hrun]
      exact ih h.tail
    | true =>
      have hrun : s.embedEach (d :: ds) =
          (((s.embedDocument d).1.embedEach ds).1, d :: ((s.embedDocument d).1.embedEach ds).2) := by
        simp only [embedEach, hok, hemb, if_true]
      rw [hrun]
      simp only [embedEach, hok, hemb, if_true, ih h.next]

/-! ## A second run -/

theorem withFileRows_of_settled {s u : State} {docs : List (Row ProjectDocument)}
    (hs : Settled s docs) (hu : SameSources s u) {d : Row ProjectDocument} (hd : d ∈ docs) :
    (u.withFileRows d).db.embeddings = u.db.embeddings := by
  by_cases hrows : u.db.embeddingsOfFile d.val.fileKey = []
  · cases hfresh : u.freshRows d with
    | error e => simp [withFileRows, hrows, hfresh]
    | ok fresh =>
      have hnil : fresh = [] := by
        refine hs d hd (hu.embeddingsOfFile _ ▸ hrows) fresh ?_
        rw [← freshRows_congr hu.files hu.wiring hu.libs, hfresh]
      subst hnil
      simp [withFileRows, hrows, hfresh, withDb, Database.createEmbeddings]
  · rw [withFileRows_of_ne_nil hrows]

theorem sameSources_embedDocument {s u : State} {docs : List (Row ProjectDocument)}
    (hs : Settled s docs) (hu : SameSources s u) {d : Row ProjectDocument} (hd : d ∈ docs) :
    SameSources s (u.embedDocument d).1 := by
  refine ⟨?_, by simpa using hu.files, by simpa using hu.wiring, by simpa using hu.libs⟩
  rw [embedDocument_embeddings, withFileRows_of_settled hs hu hd, hu.embeddings]

/-- A run from a state that agrees with a settled one keeps agreeing with it, and every document
writes what it would write in the settled state. -/
theorem embedEach_of_settled {s : State} {docs : List (Row ProjectDocument)} (hs : Settled s docs)
    {u : State} (hu : SameSources s u) :
    SameSources s (u.embedEach docs).1 ∧ u.writtenEach docs = docs.map s.written := by
  induction docs generalizing u with
  | nil => exact ⟨hu, rfl⟩
  | cons d ds ih =>
    have hstep := sameSources_embedDocument hs hu List.mem_cons_self
    have hrest := ih (fun d' hd' => hs d' (List.mem_cons_of_mem d hd')) hstep
    refine ⟨by simpa using hrest.1, ?_⟩
    simp only [writtenEach, List.map_cons, hu.written, hrest.2]

theorem embedEach_successes_of_settled {s : State} {docs : List (Row ProjectDocument)}
    (hs : Settled s docs) {u : State} (hu : SameSources s u) (hl : Listed u docs) :
    (u.embedEach docs).2 = docs.filter s.embeds := by
  induction docs generalizing u with
  | nil => rfl
  | cons d ds ih =>
    have hnext := sameSources_embedDocument hs hu List.mem_cons_self
    have hrest := ih (fun d' hd' => hs d' (List.mem_cons_of_mem d hd')) hnext hl.next
    simp only [embedEach, hl.step.2, hu.embeds, hrest, List.filter_cons]

/-- **The second run replays the first**: pairing what each document wrote in a run with what it
writes at the run's end, each entry written at the end was written in the run by the same
document, or by a later one under the same key. -/
theorem replays_embedEach (s : State) (docs : List (Row ProjectDocument)) :
    MemoryStore.Replays ((s.writtenEach docs).zip (docs.map (s.embedEach docs).1.written)) := by
  induction docs generalizing s with
  | nil => exact .nil
  | cons d ds ih =>
    set t := (s.embedDocument d).1 with ht
    set e := (t.embedEach ds).1 with he
    have hend : (s.embedEach (d :: ds)).1 = e := rfl
    simp only [writtenEach, List.map_cons, List.zip_cons_cons, hend]
    have hrest : MemoryStore.Replays ((t.writtenEach ds).zip (ds.map e.written)) := ih t
    by_cases hnone : t.db.embeddingsOfFile d.val.fileKey = []
    · -- `d` wrote nothing; whatever it writes at the end, a later document wrote the same keys
      have hwrote : s.written d = [] := by
        rw [written_eq, ← ht, hnone]
        rfl
      rw [hwrote]
      refine .overwritten ?_ hrest
      rw [List.flatMap_def, List.map_fst_zip (by simp [length_writtenEach])]
      intro i hi
      cases hemb : e.embeds d with
      | false => simp [written_of_not_embeds hemb] at hi
      | true =>
        rw [ids_written hemb] at hi
        obtain ⟨r, hr, rfl⟩ := List.mem_map.mp hi
        -- at the end the file has the rows a later document made
        have hsettled : e.db.embeddingsOfFile d.val.fileKey ≠ [] := by
          intro hempty
          have hfresh : ∃ fresh, e.freshRows d = .ok fresh := by
            simpa [embeds, hempty, isOk_iff] using hemb
          obtain ⟨fresh, hfresh⟩ := hfresh
          have hnil := embedEach_settled s (d :: ds) d List.mem_cons_self hempty fresh hfresh
          subst hnil
          rw [withFileRows_of_fresh hempty hfresh] at hr
          cases hr
        rw [withFileRows_of_ne_nil hsettled] at hr
        rcases embedEach_rows_written t ds _ r hr with hmid | hlater
        · rw [hnone] at hmid
          cases hmid
        · exact hlater
    · -- the file had rows after `d`: they stay, and `d` writes the same entries from them
      have hkeep : e.db.embeddingsOfFile d.val.fileKey = t.db.embeddingsOfFile d.val.fileKey :=
        embedEach_keeps_rows t ds hnone
      have hsame : s.written d = e.written d := by
        rw [written_eq, ← ht, written_of_ne_nil (hkeep ▸ hnone), hkeep]
      rw [hsame]
      exact .same hrest

theorem settled_map_markedWith {s : State} {docs : List (Row ProjectDocument)}
    (hs : Settled s docs) (ids : List Int) : Settled s (docs.map (markedWith ids)) := by
  intro d hd
  obtain ⟨d₀, hd₀, rfl⟩ := List.mem_map.mp hd
  rw [markedWith_fileKey, freshRows_markedWith]
  exact hs d₀ hd₀

/-- **A second run leaves the index as the first left it**, when its keys were distinct. -/
theorem embedEach_again_entries {s : State} {docs : List (Row ProjectDocument)} {p : Int}
    (hp : ∀ d ∈ docs, d.val.projectId = p)
    (hidx : (MemoryStore.ids (s.projectVectors.entries (projectIndex p))).Nodup) (ids : List Int) :
    (((s.embedEach docs).1.embedEach (docs.map (markedWith ids))).1.projectVectors.entries
        (projectIndex p)) =
      (s.embedEach docs).1.projectVectors.entries (projectIndex p) := by
  set e := (s.embedEach docs).1 with he
  have hset : Settled e (docs.map (markedWith ids)) :=
    settled_map_markedWith (embedEach_settled s docs) ids
  have hwritten : e.writtenEach (docs.map (markedWith ids)) = docs.map e.written := by
    rw [(embedEach_of_settled hset ⟨rfl, rfl, rfl, rfl⟩).2, List.map_map]
    exact List.map_congr_left fun d _ => written_markedWith e ids d
  have hp' : ∀ d ∈ docs.map (markedWith ids), d.val.projectId = p := by
    intro d hd
    obtain ⟨d₀, hd₀, rfl⟩ := List.mem_map.mp hd
    rw [markedWith_projectId]
    exact hp d₀ hd₀
  -- the first run's entries, and the second's, as the two sides of the replay
  have hlen : (s.writtenEach docs).length = (docs.map e.written).length := by
    simp [length_writtenEach]
  obtain ⟨hsub, -, hlast⟩ := (replays_embedEach s docs).lastWith_eq
  rw [← he, List.flatMap_def, List.flatMap_def, List.map_fst_zip hlen.le,
    List.map_snd_zip hlen.ge] at hsub hlast
  rw [embedEach_entries _ _ p hp', hwritten, he, embedEach_entries s docs p hp]
  exact MemoryStore.foldl_addEntry_again hidx hsub hlast

/-! ## Embedding a project twice -/

theorem projectId_of_mem_documentsOf {db : Database} {p : Int} {d : Row ProjectDocument}
    (hd : d ∈ db.documentsOf p) : d.val.projectId = p := by
  simpa [Database.documentsOf, Table.select] using (List.mem_filter.mp hd).2

theorem listed_documentsOf {s : State} (hnd : (s.db.documents.rows.map (·.id)).Nodup) (p : Int) :
    Listed s (s.db.documentsOf p) :=
  ⟨hnd, fun _ hd => List.mem_map_of_mem (List.mem_of_mem_filter hd)⟩

theorem documentsOf_embedEach {s : State} {docs : List (Row ProjectDocument)} (h : Listed s docs)
    (p : Int) :
    (s.embedEach docs).1.db.documentsOf p =
      (s.db.documentsOf p).map (markedWith ((s.embedEach docs).2.map (·.id))) := by
  simp only [Database.documentsOf, Table.select, embedEach_documents h, List.filter_map]
  congr 1
  apply List.filter_congr
  intro d _
  simp

/-- **Embedding a project twice.** Embedding a document whose file has rows stores none; after a
first call every file has the rows it had, or the rows of one insert made for one of the
project's documents; the index keeps distinct keys; a document that fails leaves the state as
it was, so a run of only the documents that embedded ends the same; the call answers how many
embedded. A second call stores no rows, leaves the project's index as it was, answers how many
documents embed after the first, and marks exactly those: among them, those that the first call
found without rows and could not cut, while a later document of the same file made the rows, are
marked only now. -/
theorem embed_project_twice (s : State) (p : Int) (hp : (s.db.projects.find? p).isSome)
    (hnd : (s.db.documents.rows.map (·.id)).Nodup)
    (hidx : (MemoryStore.ids (s.projectVectors.entries (projectIndex p))).Nodup)
    {s₁ s₂ : State} {r₁ r₂ : Except Failure Nat}
    (h₁ : s.embedProject p = (s₁, r₁)) (h₂ : s₁.embedProject p = (s₂, r₂)) :
    (∀ (t : State) (d : Row ProjectDocument), t.db.embeddingsOfFile d.val.fileKey ≠ [] →
      (t.embedDocument d).1.db.embeddings = t.db.embeddings) ∧
    (∀ k, s₁.db.embeddingsOfFile k = s.db.embeddingsOfFile k ∨
      (s.db.embeddingsOfFile k = [] ∧ ∃ d ∈ s.db.documentsOf p, d.val.fileKey = k ∧
        ∃ fresh, s.freshRows d = .ok fresh ∧ ∃ n : Int,
          s₁.db.embeddingsOfFile k = fresh.mapIdx fun i e => (⟨n + i, e⟩ : Row EmbeddingRow))) ∧
    (MemoryStore.ids (s₁.projectVectors.entries (projectIndex p))).Nodup ∧
    (∀ (t t' : State) (d : Row ProjectDocument) (e : Failure),
      d.id ∈ t.db.documents.rows.map (·.id) → t.embedDocument d = (t', .error e) → t' = t) ∧
    s.embedEach (s.embedEach (s.db.documentsOf p)).2 = s.embedEach (s.db.documentsOf p) ∧
    s₁ = (s.embedEach (s.db.documentsOf p)).1 ∧
    r₁ = .ok (s.embedEach (s.db.documentsOf p)).2.length ∧
    s₂.db.embeddings = s₁.db.embeddings ∧
    s₂.projectVectors.entries (projectIndex p) = s₁.projectVectors.entries (projectIndex p) ∧
    r₂ = .ok ((s₁.db.documentsOf p).filter s₁.embeds).length ∧
    s₂.db.documents.rows =
      s₁.db.documents.rows.map (markedWith (((s₁.db.documentsOf p).filter s₁.embeds).map (·.id))) := by
  have hl : Listed s (s.db.documentsOf p) := listed_documentsOf hnd p
  have hproj : ∀ d ∈ s.db.documentsOf p, d.val.projectId = p :=
    fun _ hd => projectId_of_mem_documentsOf hd
  rw [embedProject_eq hp] at h₁
  obtain ⟨rfl, rfl⟩ := Prod.mk.inj h₁
  set e := (s.embedEach (s.db.documentsOf p)).1 with he
  -- the second call runs over the same documents, some of them marked
  have hp₁ : (e.db.projects.find? p).isSome := by
    simpa [he, Table.find?] using hp
  have hdocs₁ := documentsOf_embedEach hl p
  rw [← he] at hdocs₁
  have hl₁ : Listed e (e.db.documentsOf p) := by
    refine listed_documentsOf ?_ p
    rw [he, embedEach_documents hl, map_id_markedWith]
    exact hnd
  have hset : Settled e (e.db.documentsOf p) := by
    rw [hdocs₁]
    exact settled_map_markedWith (embedEach_settled _ _) _
  rw [embedProject_eq hp₁] at h₂
  obtain ⟨rfl, rfl⟩ := Prod.mk.inj h₂
  refine ⟨fun t d hrows => embedDocument_keeps_rows hrows, embedEach_rows s _,
    ?_, fun t t' d _ hmem h => embedDocument_error hmem h, embedEach_successes hl, rfl, rfl,
    (embedEach_of_settled hset ⟨rfl, rfl, rfl, rfl⟩).1.embeddings, ?_, ?_, ?_⟩
  · rw [he, embedEach_entries s _ p hproj]
    exact MemoryStore.nodup_foldl_addEntry hidx _
  · rw [hdocs₁]
    exact embedEach_again_entries hproj hidx _
  · rw [embedEach_successes_of_settled hset ⟨rfl, rfl, rfl, rfl⟩ hl₁]
  · rw [embedEach_documents hl₁, embedEach_successes_of_settled hset ⟨rfl, rfl, rfl, rfl⟩ hl₁]

/-! ## A document marked only by the second call -/

def pdfDocument : Row ProjectDocument :=
  ⟨1, { name := "x.pdf", fileKey := sharedKey, projectId := 1 }⟩

def textDocument : Row ProjectDocument :=
  ⟨2, { name := "b.txt", fileKey := sharedKey, projectId := 1 }⟩

/-- A server with project 1, its two documents on one file holding `apple`, and no stored
vectors. -/
def sharedFileServer : State where
  wiring := ⟨.model (.keywords ["apple"] none false), .model (.ofTokens ["ok"] none),
    .memory, ⟨"m", 5, 0.75, 10⟩, none⟩
  libs := Libraries.builtin .unreachable
  db := { projects := ⟨[⟨1, { title := "p" }⟩], 2⟩,
          documents := ⟨[pdfDocument, textDocument], 3⟩ }
  files := ⟨[(sharedKey, "apple".toByteArray)]⟩
  clock := 0
  seed := 0

theorem embed_shared_file_twice :
    (sharedFileServer.db.projects.find? 1).isSome ∧
    (sharedFileServer.db.documents.rows.map (·.id)).Nodup ∧
    (MemoryStore.ids (sharedFileServer.projectVectors.entries (projectIndex 1))).Nodup ∧
    ((∀ (t : State) (d : Row ProjectDocument), t.db.embeddingsOfFile d.val.fileKey ≠ [] →
      (t.embedDocument d).1.db.embeddings = t.db.embeddings) ∧
    (∀ k, (sharedFileServer.embedProject 1).1.db.embeddingsOfFile k =
        sharedFileServer.db.embeddingsOfFile k ∨
      (sharedFileServer.db.embeddingsOfFile k = [] ∧
        ∃ d ∈ sharedFileServer.db.documentsOf 1, d.val.fileKey = k ∧
        ∃ fresh, sharedFileServer.freshRows d = .ok fresh ∧ ∃ n : Int,
          (sharedFileServer.embedProject 1).1.db.embeddingsOfFile k =
            fresh.mapIdx fun i e => (⟨n + i, e⟩ : Row EmbeddingRow))) ∧
    (MemoryStore.ids ((sharedFileServer.embedProject 1).1.projectVectors.entries
      (projectIndex 1))).Nodup ∧
    (∀ (t t' : State) (d : Row ProjectDocument) (e : Failure),
      d.id ∈ t.db.documents.rows.map (·.id) → t.embedDocument d = (t', .error e) → t' = t) ∧
    sharedFileServer.embedEach (sharedFileServer.embedEach (sharedFileServer.db.documentsOf 1)).2 =
      sharedFileServer.embedEach (sharedFileServer.db.documentsOf 1) ∧
    (sharedFileServer.embedProject 1).1 =
      (sharedFileServer.embedEach (sharedFileServer.db.documentsOf 1)).1 ∧
    (sharedFileServer.embedProject 1).2 =
      .ok (sharedFileServer.embedEach (sharedFileServer.db.documentsOf 1)).2.length ∧
    ((sharedFileServer.embedProject 1).1.embedProject 1).1.db.embeddings =
      (sharedFileServer.embedProject 1).1.db.embeddings ∧
    ((sharedFileServer.embedProject 1).1.embedProject 1).1.projectVectors.entries (projectIndex 1) =
      (sharedFileServer.embedProject 1).1.projectVectors.entries (projectIndex 1) ∧
    ((sharedFileServer.embedProject 1).1.embedProject 1).2 =
      .ok (((sharedFileServer.embedProject 1).1.db.documentsOf 1).filter
        (sharedFileServer.embedProject 1).1.embeds).length ∧
    ((sharedFileServer.embedProject 1).1.embedProject 1).1.db.documents.rows =
      (sharedFileServer.embedProject 1).1.db.documents.rows.map (markedWith
        ((((sharedFileServer.embedProject 1).1.db.documentsOf 1).filter
          (sharedFileServer.embedProject 1).1.embeds).map (·.id)))) :=
  ⟨rfl, by decide, by decide,
    embed_project_twice sharedFileServer 1 rfl (by decide) (by decide) rfl rfl⟩

/-- `x.pdf` holding `apple` has no text: it holds no PDF. -/
theorem extractText_apple_pdf :
    ∃ e, Document.extractText Document.builtinReaders (DocumentKind.ofFileName "x.pdf")
      "apple".toByteArray = .error e := by
  have hkind : DocumentKind.ofFileName "x.pdf" = .pdf := by
    simp +decide [DocumentKind.ofFileName, DocumentKind.extensionOf, String.splitOn,
      String.splitOnAux]
  have hpdf : (Document.extractText Document.builtinReaders .pdf "apple".toByteArray).isOk =
      false := by decide +kernel
  rw [hkind]
  cases h : Document.extractText Document.builtinReaders .pdf "apple".toByteArray with
  | ok t => simp [h, Except.isOk, Except.toBool] at hpdf
  | error e => exact ⟨e, rfl⟩

theorem pdfDocument_fails : ∃ e, sharedFileServer.freshRows pdfDocument = .error e := by
  obtain ⟨e, h⟩ := extractText_apple_pdf
  have hread : sharedFileServer.files.read sharedKey = .ok "apple".toByteArray := rfl
  have hlibs : sharedFileServer.libs = Libraries.builtin .unreachable := rfl
  simp only [freshRows, segmentsOf, pdfDocument, hread, hlibs, Libraries.builtin,
    Except.mapError, bind, Except.bind, h]
  exact ⟨_, rfl⟩

/-- A text file that is not blank gets rows when a keyword embedder answers and the tokenizer
gives the empty text no tokens: its text makes at least one segment. -/
theorem freshRows_of_text {s : State} {d : Row ProjectDocument} {bytes : ByteArray}
    {text : String} {words : List String} (hkind : DocumentKind.ofFileName d.val.name = .text)
    (hread : s.files.read d.val.fileKey = .ok bytes)
    (htext : Document.extractText s.libs.readers .text bytes = .ok text)
    (hsolid : Text.isBlankText text = false) (hempty : s.libs.tokenizer.count "" = 0)
    (hembedder : s.wiring.embedder = .model (.keywords words none false)) :
    ∃ fresh, s.freshRows d = .ok fresh ∧ fresh ≠ [] := by
  have hsplit : (Document.SplitLimits.new 300 5).split s.libs.tokenizer.count text ≠ [] := by
    obtain ⟨-, -, hblank⟩ := Document.SplitLimits.split_covers_text s.libs.tokenizer.count hempty
      (Document.SplitLimits.new 300 5) text
    rw [Ne, hblank, hsolid]
    decide
  simp only [freshRows, segmentsOf, embedSegments, embedAll, hread, hkind,
    Except.mapError, bind, Except.bind, htext, pure, Except.pure, hembedder]
  simp [EmbeddingModel.keywords, hsplit]

theorem textDocument_rows :
    ∃ fresh, sharedFileServer.freshRows textDocument = .ok fresh ∧ fresh ≠ [] := by
  have hkind : DocumentKind.ofFileName "b.txt" = .text := by
    simp +decide [DocumentKind.ofFileName, DocumentKind.extensionOf, String.splitOn,
      String.splitOnAux]
  have htext : Document.extractText Document.builtinReaders .text "apple".toByteArray =
      .ok "apple" := by decide +kernel
  exact freshRows_of_text hkind rfl htext (by decide +kernel) Token.count_empty rfl

/-- **The second call marks a document the first skipped.** `x.pdf` comes first and fails, since
its file has no rows and holds no PDF; `b.txt` then gives the file its rows. The first call
leaves `x.pdf` unmarked; in the second its file has rows that read, so it embeds and is marked. -/
theorem second_embed_marks_skipped_document :
    ((sharedFileServer.embedProject 1).1.db.documents.find? 1).map (·.val.isEmbedding) =
        some false ∧
      (((sharedFileServer.embedProject 1).1.embedProject 1).1.db.documents.find? 1).map
        (·.val.isEmbedding) = some true := by
  obtain ⟨e, hpdf⟩ := pdfDocument_fails
  obtain ⟨fresh, htext, hne⟩ := textDocument_rows
  have hnone : sharedFileServer.db.embeddingsOfFile sharedKey = [] := rfl
  have hl : Listed sharedFileServer [pdfDocument, textDocument] := ⟨by decide, by decide⟩
  -- the first call: `x.pdf` fails and leaves the state, `b.txt` embeds
  have hrun₁ : sharedFileServer.embedEach [pdfDocument, textDocument] =
      (sharedFileServer.embedded textDocument, [textDocument]) := by
    have hpdf_no : sharedFileServer.embeds pdfDocument = false := by
      have hkey : pdfDocument.val.fileKey = sharedKey := rfl
      simp [embeds, hkey, hnone, hpdf, Except.isOk, Except.toBool]
    have htext_yes : sharedFileServer.embeds textDocument = true := embeds_of_fresh hnone htext
    obtain ⟨h₁, h₁ok⟩ := hl.step
    obtain ⟨h₂, h₂ok⟩ := hl.tail.step
    rw [hpdf_no] at h₁ h₁ok
    rw [htext_yes] at h₂ h₂ok
    simp only [Bool.false_eq_true, if_false, if_true] at h₁ h₂
    simp only [embedEach, h₁, h₁ok, h₂, h₂ok, Bool.false_eq_true, if_false, if_true]
  have hp : (sharedFileServer.db.projects.find? 1).isSome := rfl
  have hdocs : sharedFileServer.db.documentsOf 1 = [pdfDocument, textDocument] := rfl
  rw [embedProject_eq hp, hdocs, hrun₁]
  refine ⟨rfl, ?_⟩
  -- the second call: the file now has rows that read, so both documents embed
  set s₁ := sharedFileServer.embedded textDocument with hs₁
  have hp₁ : (s₁.db.projects.find? 1).isSome := by simpa [hs₁, embedded] using hp
  have hdocs₁ : s₁.db.documentsOf 1 = [pdfDocument, textDocument].map (markedWith [2]) := rfl
  have hl₁ : Listed s₁ (s₁.db.documentsOf 1) := listed_documentsOf (by decide) 1
  have hset : Settled s₁ (s₁.db.documentsOf 1) := by
    have hsettled := embedEach_settled sharedFileServer [pdfDocument, textDocument]
    rw [hrun₁] at hsettled
    rw [hdocs₁]
    exact settled_map_markedWith hsettled [2]
  have hrows : s₁.db.embeddingsOfFile sharedKey =
      (sharedFileServer.withFileRows textDocument).db.embeddingsOfFile sharedKey := rfl
  have hmade := withFileRows_of_fresh hnone htext
  have hread := withFileRows_rows_read hnone htext
  have hembeds : ∀ d ∈ [pdfDocument, textDocument], s₁.embeds d = true := by
    intro d hd
    have hkey : d.val.fileKey = sharedKey := by
      rcases List.mem_pair.mp hd with rfl | rfl <;> rfl
    refine embeds_of_rows_read ?_ ?_
    · rw [hkey, hrows]
      exact fun hnil => hne (List.mapIdx_eq_nil_iff.mp (hmade ▸ hnil))
    · rw [hkey, hrows]
      exact hread
  have hmarked : ((s₁.db.documentsOf 1).filter s₁.embeds).map (·.id) = [1, 2] := by
    rw [hdocs₁, List.filter_map, List.filter_eq_self.mpr]
    · rfl
    · intro d hd
      simpa [Function.comp_def, embeds_markedWith] using hembeds d hd
  rw [embedProject_eq hp₁, embedEach_documents hl₁,
    embedEach_successes_of_settled hset ⟨rfl, rfl, rfl, rfl⟩ hl₁, hmarked]
  rfl

end State

end KnowledgeDesk.Server

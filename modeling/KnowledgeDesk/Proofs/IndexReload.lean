import Mathlib.Data.List.FinRange
import Mathlib.Data.List.Indexes
import KnowledgeDesk.Proofs.ProjectEmbedding
import KnowledgeDesk.Proofs.ProjectMemory
import KnowledgeDesk.Web.Admin

/-!
# A project's index and its reload

A project's index is built along the way, by embedding its documents, while a process that
starts afresh builds it from the database when a question meets it empty (`ensureProjectIndex`):
one entry for each stored row of the project, named after the first of its documents on the row's
file (`reloadEntries`).

The two agree on every server reached from an empty one by changes to the project records,
uploads, embeddings of projects, loads of indices and deletions of documents and projects
(`Reachable`), as long as each upload gets a file key that no document holds: the index of every
project then is, entry for entry and in order, what a reload builds (`index_matches_reload`). The
invariant behind it is `Consistent`: a `Filed` database, with documents and rows under distinct
keys below the tables' next keys, documents on distinct files and each row on the file and in the
project of a document, and each index equal to its reload. Each operation keeps it
(`Consistent.addDocument`, `Consistent.embedProject`, `Consistent.ensureProjectIndex`,
`Consistent.removeDocument`, `Consistent.removeProject`); embedding a project is a run of
document embeddings, each kept by `Consistent.embedded`.

Deleting a stored row through the administration breaks it: the row goes, its entry stays, and a
reload leaves the entry out (`Consistent.deleteRecord_embedding`, `deleted_row_stays_indexed`).
-/

namespace KnowledgeDesk

namespace MemoryStore

theorem addEntry_of_mem_self {es : List EmbeddingEntry} (hnd : (ids es).Nodup)
    {e : EmbeddingEntry} (he : e ∈ es) : addEntry es e = es := by
  rw [addEntry_of_mem hnd (mem_ids.mpr ⟨e, he, rfl⟩)]
  conv_rhs => rw [← List.map_id es]
  apply List.map_congr_left
  intro x hx
  -- keys being distinct, the entry under `e`'s key is `e` itself
  split
  · next hid => exact (List.inj_on_of_nodup_map hnd hx he hid).symm
  · rfl

theorem foldl_addEntry_of_subset {es : List EmbeddingEntry} (hnd : (ids es).Nodup)
    {added : List EmbeddingEntry} (h : ∀ e ∈ added, e ∈ es) : added.foldl addEntry es = es := by
  induction added with
  | nil => rfl
  | cons e added ih =>
    rw [List.foldl_cons, addEntry_of_mem_self hnd (h e List.mem_cons_self)]
    exact ih fun e' he' => h e' (List.mem_cons_of_mem e he')

theorem entries_addAll (m : MemoryStore) (i j : String) (es : List EmbeddingEntry) :
    (m.addAll i es).entries j = if j = i then es.foldl addEntry (m.entries i) else m.entries j :=
  entries_setEntries m i j _

theorem foldl_addEntry_fresh {es added : List EmbeddingEntry} (hnd : (ids (es ++ added)).Nodup) :
    added.foldl addEntry es = es ++ added := by
  induction added generalizing es with
  | nil => simp
  | cons e added ih =>
    have hnot : e.id ∉ ids es := by
      intro hin
      have hnd' : (ids es ++ e.id :: ids added).Nodup := by simpa [ids] using hnd
      exact (List.nodup_append.mp hnd').2.2 _ hin _ List.mem_cons_self rfl
    rw [List.foldl_cons, addEntry_of_not_mem hnot, ih (by simpa using hnd), List.append_assoc,
      List.singleton_append]

end MemoryStore

namespace Server

open Store

/-! ## Reading rows back -/

namespace State

/-- The name a reload gives the entries of a file: that of the first of the documents on it. -/
def nameIn (docs : List (Row ProjectDocument)) (key : String) : String :=
  ((docs.find? (·.val.fileKey == key)).map (·.val.name)).getD ""

/-- The entries a fresh process loads into a project's index: one for each stored row of the
project, in the table's order, named after the first of the project's documents on its file. -/
def reloadEntries (s : State) (p : Int) : Except Failure (List EmbeddingEntry) :=
  (s.db.embeddingsOfProject p).mapM fun row => rowEntry (nameIn (s.db.documentsOf p) row.val.fileId) row

theorem ensureProjectIndex_empty {s : State} {p : Int} {es : List EmbeddingEntry}
    (h : s.reloadEntries p = .ok es) :
    { s with projectVectors := {} }.ensureProjectIndex p =
      .ok { s with projectVectors := ({} : MemoryStore).addAll (projectIndex p) es } := by
  unfold ensureProjectIndex
  have hsize : ({} : MemoryStore).size (projectIndex p) = 0 := rfl
  simp only [hsize, gt_iff_lt, Nat.lt_irrefl, if_false, bind, Except.bind, pure, Except.pure]
  unfold reloadEntries nameIn at h
  rw [h]

theorem mapM_congr {α β ε : Type} {f g : α → Except ε β} {l : List α}
    (h : ∀ a ∈ l, f a = g a) : l.mapM f = l.mapM g := by
  induction l with
  | nil => rfl
  | cons a l ih =>
    rw [List.mapM_cons, List.mapM_cons, h a List.mem_cons_self,
      ih fun a' ha' => h a' (List.mem_cons_of_mem a ha')]

theorem mem_of_mapM_ok {α β ε : Type} {f : α → Except ε β} {l : List α} {bs : List β}
    (h : l.mapM f = .ok bs) {a : α} (ha : a ∈ l) {b : β} (hb : f a = .ok b) : b ∈ bs := by
  induction l generalizing bs with
  | nil => cases ha
  | cons x l ih =>
    obtain ⟨y, ys, hx, hl, rfl⟩ := mapM_cons_ok.mp h
    rcases List.mem_cons.mp ha with rfl | hmem
    · rw [hx, Except.ok.injEq] at hb
      exact hb ▸ List.mem_cons_self
    · exact List.mem_cons_of_mem y (ih hl hmem)

theorem exists_of_mapM_ok {α β ε : Type} {f : α → Except ε β} {l : List α} {bs : List β}
    (h : l.mapM f = .ok bs) {b : β} (hb : b ∈ bs) : ∃ a ∈ l, f a = .ok b := by
  induction l generalizing bs with
  | nil =>
    cases h
    cases hb
  | cons x l ih =>
    obtain ⟨y, ys, hx, hl, rfl⟩ := mapM_cons_ok.mp h
    rcases List.mem_cons.mp hb with rfl | hmem
    · exact ⟨x, List.mem_cons_self, hx⟩
    · obtain ⟨a, ha, hfa⟩ := ih hl hmem
      exact ⟨a, List.mem_cons_of_mem x ha, hfa⟩

theorem mapM_append_ok {α β ε : Type} {f : α → Except ε β} {l₁ l₂ : List α} {bs₁ bs₂ : List β}
    (h₁ : l₁.mapM f = .ok bs₁) (h₂ : l₂.mapM f = .ok bs₂) : (l₁ ++ l₂).mapM f = .ok (bs₁ ++ bs₂) := by
  rw [List.mapM_append, h₁, h₂]
  rfl

theorem rowEntry_fileKey {name : String} {row : Row EmbeddingRow} {e : EmbeddingEntry}
    (h : rowEntry name row = .ok e) : e.segment.meta? metaFileKey = some row.val.fileId := by
  unfold rowEntry at h
  split at h
  · cases h
  · cases h
    -- the metadata is kept sorted by name: `embedding_id`, `file_key`, `file_name`
    have hkey : "file_key" < "file_name" := by decide +kernel
    have hid : "embedding_id" < "file_key" := by decide +kernel
    simp [TextSegment.meta?, metaOfPairs, setMeta, metaFileKey, metaFileName, metaEmbeddingId,
      hkey, hid]

theorem mapM_filter_ok {α β ε : Type} {f : α → Except ε β} {P : α → Bool} {Q : β → Bool}
    {l : List α} (hPQ : ∀ a ∈ l, ∀ b, f a = .ok b → P a = Q b) {bs : List β}
    (h : l.mapM f = .ok bs) : (l.filter P).mapM f = .ok (bs.filter Q) := by
  induction l generalizing bs with
  | nil =>
    cases h
    rfl
  | cons a l ih =>
    obtain ⟨b, bs', ha, hl, rfl⟩ := mapM_cons_ok.mp h
    have ih := ih (fun a' ha' => hPQ a' (List.mem_cons_of_mem a ha')) hl
    rw [List.filter_cons, List.filter_cons, hPQ a List.mem_cons_self b ha]
    by_cases hq : Q b = true
    · simp only [hq, if_true]
      exact mapM_cons_ok.mpr ⟨b, _, ha, ih, rfl⟩
    · simp only [hq, Bool.false_eq_true, if_false]
      exact ih

theorem projectIndex_inj {p q : Int} (h : projectIndex p = projectIndex q) : p = q := by
  have hl := congrArg String.toList h
  unfold projectIndex at hl
  rw [String.toList_append, String.toList_append] at hl
  exact toString_int_injective (String.toList_inj.mp (List.append_cancel_left hl))

/-- Among documents on distinct files, a file's entries are named after its document. -/
theorem nameIn_of_mem {docs : List (Row ProjectDocument)}
    (hnd : (docs.map (·.val.fileKey)).Nodup) {d : Row ProjectDocument} (hd : d ∈ docs) :
    nameIn docs d.val.fileKey = d.val.name := by
  obtain ⟨x, hx⟩ := Option.isSome_iff_exists.mp
    (List.find?_isSome.mpr ⟨d, hd, by simp⟩ : (docs.find? (·.val.fileKey == d.val.fileKey)).isSome)
  have hkey : x.val.fileKey = d.val.fileKey := by simpa using List.find?_some hx
  -- the first document found on `d`'s file is `d`, files being distinct
  have hxd : x = d := List.inj_on_of_nodup_map hnd (List.mem_of_find?_eq_some hx) hd hkey
  simp [nameIn, hx, hxd]

@[simp] theorem markedWith_name (ids : List Int) (d : Row ProjectDocument) :
    (markedWith ids d).val.name = d.val.name := by
  unfold markedWith
  split <;> rfl

theorem nameIn_map_markedWith (docs : List (Row ProjectDocument)) (ids : List Int) (key : String) :
    nameIn (docs.map (markedWith ids)) key = nameIn docs key := by
  simp [nameIn, List.find?_map, Function.comp_def, Option.map_map]

/-! ## The invariant -/

/-- A database whose documents and rows are under distinct keys below their tables' next keys,
whose documents are on distinct files, and each of whose rows is on the file and in the project
of a document. -/
structure Filed (db : Database) : Prop where
  docIds : (db.documents.rows.map (·.id)).Nodup
  docIdsBelow : ∀ d ∈ db.documents.rows, d.id < db.documents.nextId
  fileKeys : (db.documents.rows.map (·.val.fileKey)).Nodup
  rowIds : (db.embeddings.rows.map (·.id)).Nodup
  rowIdsBelow : ∀ r ∈ db.embeddings.rows, r.id < db.embeddings.nextId
  owned : ∀ r ∈ db.embeddings.rows, ∃ d ∈ db.documents.rows,
    d.val.fileKey = r.val.fileId ∧ d.val.projectId = r.val.projectId

/-- A server whose database is filed and the index of each of whose projects is its reload. -/
structure Consistent (s : State) : Prop where
  filed : Filed s.db
  indexed : ∀ p, s.reloadEntries p = .ok (s.projectVectors.entries (projectIndex p))

theorem consistent_empty (wiring : Wiring) (libs : Libraries) (clock seed : Nat) :
    Consistent { wiring, libs, clock, seed } :=
  ⟨⟨List.nodup_nil, nofun, List.nodup_nil, List.nodup_nil, nofun, nofun⟩, fun _ => rfl⟩

/-- Deleting documents and rows keeps the keys apart; a row kept needs a document kept on its
file and in its project. -/
theorem Filed.of_filter {db db' : Database} (h : Filed db) {keepDoc : Row ProjectDocument → Bool}
    {keepRow : Row EmbeddingRow → Bool}
    (hdocs : db'.documents = ⟨db.documents.rows.filter keepDoc, db.documents.nextId⟩)
    (hrows : db'.embeddings = ⟨db.embeddings.rows.filter keepRow, db.embeddings.nextId⟩)
    (howned : ∀ r ∈ db.embeddings.rows, keepRow r = true → ∃ d ∈ db.documents.rows,
      keepDoc d = true ∧ d.val.fileKey = r.val.fileId ∧ d.val.projectId = r.val.projectId) :
    Filed db' where
  docIds := by
    rw [hdocs]
    exact h.docIds.sublist (List.filter_sublist.map _)
  docIdsBelow d hd := by
    rw [hdocs] at hd ⊢
    exact h.docIdsBelow d (List.mem_of_mem_filter hd)
  fileKeys := by
    rw [hdocs]
    exact h.fileKeys.sublist (List.filter_sublist.map _)
  rowIds := by
    rw [hrows]
    exact h.rowIds.sublist (List.filter_sublist.map _)
  rowIdsBelow r hr := by
    rw [hrows] at hr ⊢
    exact h.rowIdsBelow r (List.mem_of_mem_filter hr)
  owned r hr := by
    rw [hrows] at hr
    rw [hdocs]
    obtain ⟨hrow, hkeep⟩ := List.mem_filter.mp hr
    obtain ⟨d, hd, hk, hkey, hproj⟩ := howned r hrow hkeep
    exact ⟨d, List.mem_filter.mpr ⟨hd, hk⟩, hkey, hproj⟩

section Filed

variable {db : Database} (h : Filed db)
include h

theorem Filed.document_unique {d d' : Row ProjectDocument} (hd : d ∈ db.documents.rows)
    (hd' : d' ∈ db.documents.rows) (hkey : d.val.fileKey = d'.val.fileKey) : d = d' :=
  List.inj_on_of_nodup_map h.fileKeys hd hd' hkey

theorem Filed.document_unique_id {d d' : Row ProjectDocument} (hd : d ∈ db.documents.rows)
    (hd' : d' ∈ db.documents.rows) (hid : d.id = d'.id) : d = d' :=
  List.inj_on_of_nodup_map h.docIds hd hd' hid

theorem Filed.nameIn_documentsOf {d : Row ProjectDocument} (hd : d ∈ db.documents.rows) :
    nameIn (db.documentsOf d.val.projectId) d.val.fileKey = d.val.name :=
  nameIn_of_mem (h.fileKeys.sublist (List.filter_sublist.map _))
    (List.mem_filter.mpr ⟨hd, by simp⟩)

theorem Filed.mem_embeddingsOfProject {d : Row ProjectDocument} (hd : d ∈ db.documents.rows)
    {r : Row EmbeddingRow} (hr : r ∈ db.embeddingsOfFile d.val.fileKey) :
    r ∈ db.embeddingsOfProject d.val.projectId ∧ r.val.fileId = d.val.fileKey := by
  obtain ⟨hrow, hkey⟩ := List.mem_filter.mp hr
  have hkey : r.val.fileId = d.val.fileKey := by simpa using hkey
  -- the row's owner is on `d`'s file, so it is `d`
  obtain ⟨o, ho, hokey, hoproj⟩ := h.owned r hrow
  have hod : o = d := h.document_unique ho hd (hokey.trans hkey)
  subst hod
  exact ⟨List.mem_filter.mpr ⟨hrow, by simp [hoproj]⟩, hkey⟩

theorem Filed.nodup_reload {s : State} (hs : s.db = db) {p : Int} {es : List EmbeddingEntry}
    (hes : s.reloadEntries p = .ok es) : (MemoryStore.ids es).Nodup := by
  rw [ids_of_mapM_entries (fun _ _ he => rowEntry_ok he) hes]
  have hrows : ((s.db.embeddingsOfProject p).map (·.id)).Nodup :=
    (hs ▸ h.rowIds).sublist (List.filter_sublist.map _)
  simpa [List.map_map, Function.comp_def] using hrows.map toString_int_injective

end Filed

theorem nodup_ids_mapIdx {α : Type} (n : Int) (l : List α) :
    ((l.mapIdx fun i e => (⟨n + i, e⟩ : Row α)).map (·.id)).Nodup := by
  rw [List.mapIdx_eq_ofFn, List.map_ofFn, List.nodup_ofFn]
  intro i j hij
  simp only [Function.comp_apply] at hij
  exact Fin.ext (by omega)

theorem mem_mapIdx_rows {α : Type} {n : Int} {l : List α} {r : Row α}
    (hr : r ∈ l.mapIdx fun i e => (⟨n + i, e⟩ : Row α)) :
    r.val ∈ l ∧ n ≤ r.id ∧ r.id < n + l.length := by
  obtain ⟨i, hi, rfl⟩ := List.mem_mapIdx.mp hr
  exact ⟨List.getElem_mem hi, by dsimp only; omega, by dsimp only; omega⟩

/-- Storing rows for a document's file keeps a database filed: they go under keys from the next
one on, on the document's file and in its project. -/
theorem Filed.createEmbeddings {db : Database} (h : Filed db) {o : Row ProjectDocument}
    (ho : o ∈ db.documents.rows) {fresh : List EmbeddingRow}
    (hfresh : ∀ r ∈ fresh, r.fileId = o.val.fileKey ∧ r.projectId = o.val.projectId) :
    Filed (db.createEmbeddings fresh).1 := by
  rw [Database.createEmbeddings_eq]
  refine ⟨h.docIds, h.docIdsBelow, h.fileKeys, ?_, ?_, ?_⟩ <;> dsimp only
  · -- the old keys are below the next key, the new ones from it on
    rw [List.map_append]
    refine List.nodup_append.mpr ⟨h.rowIds, nodup_ids_mapIdx _ _, ?_⟩
    intro a ha b hb hab
    obtain ⟨r, hr, rfl⟩ := List.mem_map.mp ha
    obtain ⟨r', hr', rfl⟩ := List.mem_map.mp hb
    have hlt := h.rowIdsBelow r hr
    have hge := (mem_mapIdx_rows hr').2.1
    omega
  · intro r hr
    rcases List.mem_append.mp hr with hr | hr
    · have hlt := h.rowIdsBelow r hr
      omega
    · exact (mem_mapIdx_rows hr).2.2
  · intro r hr
    rcases List.mem_append.mp hr with hr | hr
    · exact h.owned r hr
    · obtain ⟨hkey, hproj⟩ := hfresh r.val (mem_mapIdx_rows hr).1
      exact ⟨o, ho, hkey.symm, hproj.symm⟩

theorem Filed.of_insert {db db' : Database} (h : Filed db) {doc : ProjectDocument}
    (hkey : doc.fileKey ∉ db.documents.rows.map (·.val.fileKey))
    (hdocs : db'.documents =
      ⟨db.documents.rows ++ [⟨db.documents.nextId, doc⟩], db.documents.nextId + 1⟩)
    (hrows : db'.embeddings = db.embeddings) : Filed db' where
  docIds := by
    -- the new key is the table's next one, above every old key
    rw [hdocs, List.map_append, List.nodup_append]
    exact ⟨h.docIds, List.nodup_singleton _,
      by simpa using fun d hd => (h.docIdsBelow d hd).ne⟩
  docIdsBelow d hd := by
    rw [hdocs] at hd ⊢
    dsimp only at hd ⊢
    rcases List.mem_append.mp hd with hd | hd
    · have hlt := h.docIdsBelow d hd
      omega
    · rw [List.mem_singleton.mp hd]
      exact Int.lt_succ _
  fileKeys := by
    rw [hdocs, List.map_append, List.nodup_append]
    exact ⟨h.fileKeys, List.nodup_singleton _, by simpa using hkey⟩
  rowIds := hrows ▸ h.rowIds
  rowIdsBelow := hrows ▸ h.rowIdsBelow
  owned r hr := by
    rw [hdocs]
    obtain ⟨d, hd, hdkey, hproj⟩ := h.owned r (hrows ▸ hr)
    exact ⟨d, List.mem_append_left _ hd, hdkey, hproj⟩

theorem Filed.nameIn_eq {db db' : Database} (h : Filed db) (h' : Filed db')
    {d : Row ProjectDocument} (hd : d ∈ db.documents.rows) (hd' : d ∈ db'.documents.rows) :
    nameIn (db'.documentsOf d.val.projectId) d.val.fileKey =
      nameIn (db.documentsOf d.val.projectId) d.val.fileKey := by
  rw [h.nameIn_documentsOf hd, h'.nameIn_documentsOf hd']

/-- When the document of each row of the new table is in the old one, a reload names the rows as
the old table does. -/
theorem reloadEntries_eq_mapM {s t : State} (hs : Filed s.db) (ht : Filed t.db)
    (hboth : ∀ r ∈ t.db.embeddings.rows, ∀ d ∈ t.db.documents.rows,
      d.val.fileKey = r.val.fileId → d ∈ s.db.documents.rows) (q : Int) :
    t.reloadEntries q = (t.db.embeddingsOfProject q).mapM
      fun r => rowEntry (nameIn (s.db.documentsOf q) r.val.fileId) r := by
  refine mapM_congr fun r hr => ?_
  obtain ⟨hrow, hq⟩ := List.mem_filter.mp hr
  obtain ⟨d, hd, hkey, hproj⟩ := ht.owned r hrow
  have hq : d.val.projectId = q := by simpa [hproj] using hq
  rw [← hkey, ← hq, hs.nameIn_eq ht (hboth r hrow d hd hkey) hd]

theorem projectId_of_mem_embeddingsOfProject {db : Database} {q : Int} {r : Row EmbeddingRow}
    (hr : r ∈ db.embeddingsOfProject q) : r.val.projectId = q := by
  simpa using (List.mem_filter.mp hr).2

theorem embeddingsOfProject_filter {db db' : Database} {keep : Row EmbeddingRow → Bool}
    (h : db'.embeddings.rows = db.embeddings.rows.filter keep) (q : Int) :
    db'.embeddingsOfProject q = (db.embeddingsOfProject q).filter keep := by
  simp only [Database.embeddingsOfProject, Table.select, h, List.filter_filter]
  exact List.filter_congr fun _ _ => Bool.and_comm _ _

/-- The invariant reads only the documents, the stored vectors and the entries of the indices,
and not whether documents are marked embedded. -/
theorem Consistent.congr {s t : State} (hs : Consistent s) (ids : List Int)
    (hdocs : t.db.documents = { s.db.documents with
      rows := s.db.documents.rows.map (markedWith ids) })
    (hrows : t.db.embeddings = s.db.embeddings)
    (hidx : ∀ i, t.projectVectors.entries i = s.projectVectors.entries i) : Consistent t := by
  have hf := hs.filed
  refine ⟨⟨?_, ?_, ?_, ?_, ?_, ?_⟩, fun p => ?_⟩
  · simpa [hdocs, Function.comp_def] using hf.docIds
  · simpa [hdocs] using hf.docIdsBelow
  · simpa [hdocs, Function.comp_def] using hf.fileKeys
  · simpa [hrows] using hf.rowIds
  · simpa [hrows] using hf.rowIdsBelow
  · intro r hr
    obtain ⟨d, hd, hkey, hproj⟩ := hf.owned r (hrows ▸ hr)
    exact ⟨markedWith ids d, by simp [hdocs, List.mem_map_of_mem hd], by simp [hkey],
      by simp [hproj]⟩
  · -- marking renames no file, so a reload names every row as before
    have hdocsOf : t.db.documentsOf p = (s.db.documentsOf p).map (markedWith ids) := by
      simp [Database.documentsOf, Table.select, hdocs, List.filter_map, Function.comp_def]
    have hrowsOf : t.db.embeddingsOfProject p = s.db.embeddingsOfProject p := by
      simp only [Database.embeddingsOfProject, hrows]
    rw [reloadEntries, hdocsOf, hrowsOf, hidx]
    simp only [nameIn_map_markedWith]
    exact hs.indexed p

theorem Consistent.nodup_entries {s : State} (hs : Consistent s) (p : Int) :
    (MemoryStore.ids (s.projectVectors.entries (projectIndex p))).Nodup :=
  hs.filed.nodup_reload rfl (hs.indexed p)

/-! ## The operations -/

theorem freshUuid_fst (s : State) :
    s.freshUuid.1 = { s with seed := (Text.nextUuid s.seed).2 } := by
  rcases h : Text.nextUuid s.seed with ⟨u, seed⟩
  simp [freshUuid, h]

/-- Uploading to a project adds one document under the table's next key and the key the server
draws, and touches neither the stored vectors nor the indices; uploading elsewhere changes no
document. -/
theorem addDocument_eq {s t : State} {p : Int} {name : String} {bytes : ByteArray}
    {r : Except Failure (Row ProjectDocument)} (h : s.addDocument p name bytes = (t, r)) :
    t.db.embeddings = s.db.embeddings ∧ t.projectVectors = s.projectVectors ∧
      (t.db.documents = s.db.documents ∨
        ∃ doc : ProjectDocument, doc.fileKey = s.freshUuid.2 ∧ doc.projectId = p ∧
          t.db.documents = ⟨s.db.documents.rows ++ [⟨s.db.documents.nextId, doc⟩],
            s.db.documents.nextId + 1⟩) := by
  unfold State.addDocument at h
  cases hp : s.db.projects.find? p with
  | none =>
    simp only [hp, Prod.mk.injEq] at h
    rw [← h.1]
    exact ⟨rfl, rfl, .inl rfl⟩
  | some _ =>
    simp only [hp, freshUuid_fst, Prod.mk.injEq] at h
    rw [← h.1]
    exact ⟨rfl, rfl, .inr ⟨{ name, fileKey := s.freshUuid.2, projectId := p }, rfl, rfl, rfl⟩⟩

/-- Deleting a document takes it, the rows of its file in its project, and its file's entries in
its project's index. -/
theorem removeDocument_ok {s t : State} {id : Int} (h : s.removeDocument id = .ok t) :
    ∃ d ∈ s.db.documents.rows, d.id = id ∧
      t.db.documents = ⟨s.db.documents.rows.filter (·.id != id), s.db.documents.nextId⟩ ∧
      t.db.embeddings = ⟨s.db.embeddings.rows.filter fun e =>
        !(e.val.fileId == d.val.fileKey && e.val.projectId == d.val.projectId),
        s.db.embeddings.nextId⟩ ∧
      t.projectVectors = s.projectVectors.removeFile (projectIndex d.val.projectId) d.val.fileKey := by
  unfold State.removeDocument at h
  rw [Database.removeDocument_eq] at h
  cases hfind : s.db.documents.rows.find? (·.id == id) with
  | none => simp [hfind] at h
  | some d =>
    simp only [hfind, pure, Except.pure, Except.ok.injEq] at h
    subst h
    exact ⟨d, List.mem_of_find?_eq_some hfind, by simpa using List.find?_some hfind, rfl, rfl, rfl⟩

theorem removeProject_ok {s t : State} {id : Int} (h : s.removeProject id = .ok t) :
    t.db.documents = ⟨s.db.documents.rows.filter (·.val.projectId != id), s.db.documents.nextId⟩ ∧
      t.db.embeddings =
        ⟨s.db.embeddings.rows.filter (·.val.projectId != id), s.db.embeddings.nextId⟩ ∧
      t.projectVectors = s.projectVectors.dropIndex (projectIndex id) := by
  unfold State.removeProject at h
  rw [Database.removeProject_eq] at h
  by_cases hany : s.db.projects.rows.any (·.id == id)
  · simp only [hany, if_true, pure, Except.pure, Except.ok.injEq] at h
    subst h
    exact ⟨rfl, rfl, rfl⟩
  · simp [hany] at h

/-! ## Embedding keeps the invariant -/

section Consistent

variable {s : State} (hs : Consistent s)
include hs

theorem Consistent.addAll_written_of_rows {d : Row ProjectDocument} {ids : List Int}
    (hd : markedWith ids d ∈ s.db.documents.rows) (hrows : s.db.embeddingsOfFile d.val.fileKey ≠ [])
    (hemb : s.embeds d = true) :
    Consistent { s.withFileRows d with
      projectVectors := s.projectVectors.addAll (projectIndex d.val.projectId) (s.written d) } := by
  have hw := mapM_written hemb
  rw [withFileRows_of_ne_nil hrows] at hw
  -- every entry written is read from a row of the file, which the index holds already
  have hsub : ∀ e ∈ s.written d, e ∈ s.projectVectors.entries (projectIndex d.val.projectId) := by
    intro e he
    obtain ⟨r, hr, hre⟩ := exists_of_mapM_ok hw he
    obtain ⟨hrp, hkey⟩ := hs.filed.mem_embeddingsOfProject hd (by rwa [markedWith_fileKey])
    have hname := hs.filed.nameIn_documentsOf hd
    simp only [markedWith_projectId, markedWith_fileKey, markedWith_name] at hrp hkey hname
    refine mem_of_mapM_ok (hs.indexed _) hrp ?_
    rw [hkey, hname]
    exact hre
  rw [withFileRows_of_ne_nil hrows]
  refine hs.congr [] (by simp) rfl fun i => ?_
  rw [MemoryStore.entries_addAll]
  split
  · next hi => rw [hi, MemoryStore.foldl_addEntry_of_subset (hs.nodup_entries _) hsub]
  · rfl

/-- The rows made for a file with none go to the end of its project's index and of its
reload alike. -/
theorem Consistent.addAll_written_of_fresh {d : Row ProjectDocument} {ids : List Int}
    (hd : markedWith ids d ∈ s.db.documents.rows) (hrows : s.db.embeddingsOfFile d.val.fileKey = [])
    {fresh : List EmbeddingRow} (hfresh : s.freshRows d = .ok fresh) :
    Consistent { s.withFileRows d with
      projectVectors := s.projectVectors.addAll (projectIndex d.val.projectId) (s.written d) } := by
  set made := fresh.mapIdx fun i e => (⟨s.db.embeddings.nextId + i, e⟩ : Row EmbeddingRow)
  have hdb : (s.withFileRows d).db = (s.db.createEmbeddings fresh).1 := by
    simp [withFileRows, hrows, hfresh, withDb]
  have hmadeRow : ∀ r ∈ made, r.val.fileId = d.val.fileKey ∧ r.val.projectId = d.val.projectId :=
    fun r hr => (freshRows_ok hfresh _ (mem_mapIdx_rows hr).1).imp_right And.left
  have hf := hs.filed
  have hfiled : Filed (s.withFileRows d).db :=
    hdb ▸ hf.createEmbeddings hd fun r hr => by simp [freshRows_ok hfresh r hr]
  refine ⟨hfiled, fun q => ?_⟩
  show (s.withFileRows d).reloadEntries q = .ok ((s.projectVectors.addAll
    (projectIndex d.val.projectId) (s.written d)).entries (projectIndex q))
  have hrowsOf : (s.withFileRows d).db.embeddingsOfProject q =
      s.db.embeddingsOfProject q ++ made.filter (·.val.projectId == q) := by
    simp [Database.embeddingsOfProject, Table.select, hdb, Database.createEmbeddings_eq,
      List.filter_append, made]
  have hdocsOf : (s.withFileRows d).db.documentsOf q = s.db.documentsOf q := by
    simp [Database.documentsOf]
  -- the made rows are all in the document's project and in no other
  by_cases hq : q = d.val.projectId
  · subst hq
    have hall : made.filter (·.val.projectId == d.val.projectId) = made :=
      List.filter_eq_self.mpr fun r hr => by simp [(hmadeRow r hr).2]
    have hw : made.mapM (rowEntry d.val.name) = .ok (s.written d) := by
      have hw := mapM_written (embeds_of_fresh hrows hfresh)
      rwa [withFileRows_of_fresh hrows hfresh] at hw
    have hname : nameIn (s.db.documentsOf d.val.projectId) d.val.fileKey = d.val.name := by
      simpa using hf.nameIn_documentsOf hd
    -- the reload reads the old rows as before and the made ones as the document writes them
    have hreload : (s.withFileRows d).reloadEntries d.val.projectId =
        .ok (s.projectVectors.entries (projectIndex d.val.projectId) ++ s.written d) := by
      rw [reloadEntries, hrowsOf, hdocsOf, hall]
      refine mapM_append_ok (hs.indexed _) ?_
      rw [← hw]
      refine mapM_congr fun r hr => ?_
      rw [(hmadeRow r hr).1, hname]
    rw [hreload, MemoryStore.entries_addAll, if_pos rfl,
      MemoryStore.foldl_addEntry_fresh (hfiled.nodup_reload rfl hreload)]
  · have hnone : made.filter (·.val.projectId == q) = [] :=
      List.filter_eq_nil_iff.mpr fun r hr => by simp [(hmadeRow r hr).2, Ne.symm hq]
    rw [reloadEntries, hrowsOf, hdocsOf, hnone, List.append_nil,
      MemoryStore.entries_addAll, if_neg fun h => hq (projectIndex_inj h)]
    exact hs.indexed q

theorem Consistent.embedded {d : Row ProjectDocument} {ids : List Int}
    (hd : markedWith ids d ∈ s.db.documents.rows) (hemb : s.embeds d = true) :
    Consistent (s.embedded d) := by
  have hu : Consistent { s.withFileRows d with
      projectVectors := s.projectVectors.addAll (projectIndex d.val.projectId) (s.written d) } := by
    -- a file with no rows gets fresh ones; a file with rows has them read back
    by_cases hrows : s.db.embeddingsOfFile d.val.fileKey = []
    · have hok : (s.freshRows d).isOk = true := by simpa [embeds, hrows] using hemb
      obtain ⟨fresh, hfresh⟩ := isOk_iff.mp hok
      exact hs.addAll_written_of_fresh hd hrows hfresh
    · exact hs.addAll_written_of_rows hd hrows hemb
  exact hu.congr [d.id] (by simp [State.embedded]) rfl fun _ => rfl

end Consistent

theorem markedWith_mem_embedded {s : State} {d d' : Row ProjectDocument} {ids : List Int}
    (h : markedWith ids d' ∈ s.db.documents.rows) :
    markedWith (ids ++ [d.id]) d' ∈ (s.embedded d).db.documents.rows := by
  rw [← markedWith_markedWith]
  exact List.mem_map_of_mem h

/-- Embedding documents of the table one after the other keeps a server consistent; the
invariant carries the run, each document staying in the table with its marks. -/
theorem Consistent.embedEach {s : State} (hs : Consistent s) {docs : List (Row ProjectDocument)}
    (hdocs : ∀ d ∈ docs, ∃ ids, markedWith ids d ∈ s.db.documents.rows) :
    Consistent (s.embedEach docs).1 := by
  induction docs generalizing s with
  | nil => exact hs
  | cons d ds ih =>
    obtain ⟨ids, hd⟩ := hdocs d List.mem_cons_self
    have hl : Listed s (d :: ds) := ⟨hs.filed.docIds, fun d' hd' => by
      obtain ⟨ids', h'⟩ := hdocs d' hd'
      exact List.mem_map.mpr ⟨_, h', markedWith_id _ _⟩⟩
    rw [embedEach_cons_fst, hl.step.1]
    -- the document is embedded, marking it in the table, or skipped, changing nothing
    split
    · next hemb =>
      refine ih (hs.embedded hd hemb) fun d' hd' => ?_
      obtain ⟨ids', h'⟩ := hdocs d' (List.mem_cons_of_mem d hd')
      exact ⟨_, markedWith_mem_embedded h'⟩
    · exact ih hs fun d' hd' => hdocs d' (List.mem_cons_of_mem d hd')

theorem Consistent.embedProject {s t : State} (hs : Consistent s) {p : Int}
    {r : Except Failure Nat} (h : s.embedProject p = (t, r)) : Consistent t := by
  -- an unknown project changes nothing; a known one runs over its documents
  cases hp : (s.db.projects.find? p).isSome with
  | false =>
    have hnone : s.db.projects.find? p = none := by simpa using hp
    simp only [State.embedProject, hnone, Prod.mk.injEq] at h
    exact h.1 ▸ hs
  | true =>
    rw [embedProject_eq hp, Prod.mk.injEq] at h
    rw [← h.1]
    exact hs.embedEach fun d hd => ⟨[], by simpa using List.mem_of_mem_filter hd⟩

/-! ## Uploads, deletions and loads -/

section Consistent

variable {s : State} (hs : Consistent s)
include hs

/-- An upload under a file key no document holds keeps a server consistent: the new document
names no row, and no row's file is its. -/
theorem Consistent.addDocument {p : Int} {name : String} {bytes : ByteArray}
    (hfresh : s.freshUuid.2 ∉ s.db.documents.rows.map (·.val.fileKey)) {t : State}
    {r : Except Failure (Row ProjectDocument)} (h : s.addDocument p name bytes = (t, r)) :
    Consistent t := by
  obtain ⟨hrows, hidx, hdocs | ⟨doc, hkey, -, hdocs⟩⟩ := addDocument_eq h
  · exact hs.congr [] (by simp [hdocs]) hrows (by simp [hidx])
  have hf := hs.filed
  have hfiled : Filed t.db := hf.of_insert (hkey ▸ hfresh) hdocs hrows
  refine ⟨hfiled, fun q => ?_⟩
  -- the new document owns no row, so every row's document is an old one
  have hboth : ∀ r ∈ t.db.embeddings.rows, ∀ d ∈ t.db.documents.rows,
      d.val.fileKey = r.val.fileId → d ∈ s.db.documents.rows := by
    intro r hr d hd hdkey
    rcases List.mem_append.mp (hdocs ▸ hd) with hd | hd
    · exact hd
    · obtain ⟨o, ho, hokey, -⟩ := hf.owned r (hrows ▸ hr)
      have hdo : d.val.fileKey = o.val.fileKey := hdkey.trans hokey.symm
      rw [List.mem_singleton.mp hd] at hdo
      exact absurd (hkey ▸ hdo ▸ List.mem_map_of_mem ho) hfresh
  have hrowsOf : t.db.embeddingsOfProject q = s.db.embeddingsOfProject q := by
    simp only [Database.embeddingsOfProject, hrows]
  rw [reloadEntries_eq_mapM hf hfiled hboth, hrowsOf, hidx]
  exact hs.indexed q

/-- Deleting a document keeps a server consistent: the rows of its file in its project go with
it, and so do its file's entries in its project's index. -/
theorem Consistent.removeDocument {id : Int} {t : State} (h : s.removeDocument id = .ok t) :
    Consistent t := by
  obtain ⟨d, hd, hdid, hdocs, hrows, hidx⟩ := removeDocument_ok h
  have hf := hs.filed
  have hfiled : Filed t.db := hf.of_filter hdocs hrows fun r hrow hkeep => by
    obtain ⟨o, ho, hokey, hoproj⟩ := hf.owned r hrow
    -- the deleted document owned none of the rows kept
    have hod : o.id ≠ id := fun hoid => by
      have hod := hf.document_unique_id ho hd (hoid.trans hdid.symm)
      subst hod
      simp [hokey, hoproj] at hkeep
    exact ⟨o, ho, by simpa using hod, hokey, hoproj⟩
  refine ⟨hfiled, fun q => ?_⟩
  rw [reloadEntries_eq_mapM hf hfiled (fun _ _ o ho _ => (List.mem_filter.mp (hdocs ▸ ho)).1) q,
    hidx, MemoryStore.entries_removeFile]
  rw [embeddingsOfProject_filter (congrArg Table.rows hrows)]
  by_cases hq : q = d.val.projectId
  · -- in the document's project, the rows and the entries of its file go
    subst hq
    rw [if_pos rfl]
    refine mapM_filter_ok (fun r hr e he => ?_) (hs.indexed _)
    simp [rowEntry_fileKey he, projectId_of_mem_embeddingsOfProject hr, beq_eq_decide]
  · rw [if_neg fun h => hq (projectIndex_inj h), List.filter_eq_self.mpr fun r hr => by
      simp [projectId_of_mem_embeddingsOfProject hr, hq]]
    exact hs.indexed q

theorem Consistent.removeProject {id : Int} {t : State} (h : s.removeProject id = .ok t) :
    Consistent t := by
  obtain ⟨hdocs, hrows, hidx⟩ := removeProject_ok h
  have hf := hs.filed
  have hfiled : Filed t.db := hf.of_filter hdocs hrows fun r hrow hkeep => by
    obtain ⟨o, ho, hokey, hoproj⟩ := hf.owned r hrow
    exact ⟨o, ho, by simpa [hoproj] using hkeep, hokey, hoproj⟩
  refine ⟨hfiled, fun q => ?_⟩
  rw [reloadEntries_eq_mapM hf hfiled (fun _ _ o ho _ => (List.mem_filter.mp (hdocs ▸ ho)).1) q,
    hidx, MemoryStore.entries_dropIndex]
  rw [embeddingsOfProject_filter (congrArg Table.rows hrows)]
  -- the project's rows all go with its index; other projects keep both
  by_cases hq : q = id
  · subst hq
    rw [if_pos rfl, List.filter_eq_nil_iff.mpr fun r hr => by
      simp [projectId_of_mem_embeddingsOfProject hr]]
    rfl
  · rw [if_neg fun h => hq (projectIndex_inj h), List.filter_eq_self.mpr fun r hr => by
      simp [projectId_of_mem_embeddingsOfProject hr, hq]]
    exact hs.indexed q

theorem Consistent.setProjects (projects : Table Project) :
    Consistent (s.withDb { s.db with projects }) :=
  hs.congr [] (by simp [withDb]) rfl fun _ => rfl

/-- Loading a project's index when it is empty keeps a server consistent: the load finds the
reload empty too. -/
theorem Consistent.ensureProjectIndex {p : Int} {t : State} (h : s.ensureProjectIndex p = .ok t) :
    Consistent t := by
  unfold State.ensureProjectIndex at h
  by_cases hsize : s.projectVectors.size (projectIndex p) > 0
  · simp only [hsize, if_true, pure, Except.pure, Except.ok.injEq] at h
    exact h ▸ hs
  · -- an empty index has an empty reload, so the load adds nothing
    have hnil : s.projectVectors.entries (projectIndex p) = [] := by
      simpa [MemoryStore.size] using hsize
    have hload := hs.indexed p
    unfold reloadEntries nameIn at hload
    simp only [hsize, if_false, bind, Except.bind, hload, pure, Except.pure,
      Except.ok.injEq] at h
    subst h
    refine hs.congr [] (by simp) rfl fun i => ?_
    rw [MemoryStore.entries_addAll]
    split
    · next hi => rw [hi, hnil]; rfl
    · rfl

end Consistent

/-! ## Reachable servers -/

/-- The servers reached from an empty one by creating, changing and deleting project records,
uploading documents under file keys no document holds, embedding projects, loading project
indices, and deleting documents and projects. -/
inductive Reachable : State → Prop
  | empty (wiring : Wiring) (libs : Libraries) (clock seed : Nat) :
      Reachable { wiring, libs, clock, seed }
  | setProjects {s : State} (projects : Table Project) :
      Reachable s → Reachable (s.withDb { s.db with projects })
  | upload {s t : State} (p : Int) (name : String) (bytes : ByteArray)
      {r : Except Failure (Row ProjectDocument)} :
      Reachable s → s.freshUuid.2 ∉ s.db.documents.rows.map (·.val.fileKey) →
      s.addDocument p name bytes = (t, r) → Reachable t
  | embed {s t : State} (p : Int) {r : Except Failure Nat} :
      Reachable s → s.embedProject p = (t, r) → Reachable t
  | load {s t : State} (p : Int) : Reachable s → s.ensureProjectIndex p = .ok t → Reachable t
  | removeDocument {s t : State} (id : Int) :
      Reachable s → s.removeDocument id = .ok t → Reachable t
  | removeProject {s t : State} (id : Int) :
      Reachable s → s.removeProject id = .ok t → Reachable t

/-- Every reachable server is consistent: each operation keeps the invariant. -/
theorem Reachable.consistent {s : State} (h : Reachable s) : Consistent s := by
  induction h with
  | empty wiring libs clock seed => exact consistent_empty wiring libs clock seed
  | setProjects projects _ ih => exact ih.setProjects projects
  | upload p name bytes _ hfresh h ih => exact ih.addDocument hfresh h
  | embed p _ h ih => exact ih.embedProject h
  | load p _ h ih => exact ih.ensureProjectIndex h
  | removeDocument id _ h ih => exact ih.removeDocument h
  | removeProject id _ h ih => exact ih.removeProject h

/-- **A project's index is its reload.** On every reachable server, a process that starts
afresh with the same database and empty indices loads each project's index with exactly the
entries the server's own index holds, in the same order; so a search of the project finds the
same matches in both. -/
theorem index_matches_reload {s : State} (hs : Reachable s) (p : Int) :
    ∃ t, { s with projectVectors := {} }.ensureProjectIndex p = .ok t ∧
      t.projectVectors.entries (projectIndex p) = s.projectVectors.entries (projectIndex p) ∧
      ∀ query maxResults minScore, t.searchProject p query maxResults minScore =
        s.searchProject p query maxResults minScore := by
  have hc := hs.consistent
  -- loading into an empty index appends entries under distinct keys, so keeps them all in order
  have hentries : (({} : MemoryStore).addAll (projectIndex p)
      (s.projectVectors.entries (projectIndex p))).entries (projectIndex p) =
        s.projectVectors.entries (projectIndex p) := by
    have hempty : ({} : MemoryStore).entries (projectIndex p) = [] := rfl
    rw [MemoryStore.entries_addAll, if_pos rfl, hempty,
      MemoryStore.foldl_addEntry_fresh (by simpa using hc.nodup_entries p), List.nil_append]
  refine ⟨_, ensureProjectIndex_empty (hc.indexed p), hentries, fun query maxResults minScore => ?_⟩
  simp only [searchProject, MemoryStore.findRelevant, hentries]

/-! ## A text file embedded -/

/-- Keyword vectors over `apple`, a model that answers `ok`, and indices in memory. -/
def appleWiring : Wiring :=
  ⟨.model (.keywords ["apple"] none false), .model (.ofTokens ["ok"] none), .memory,
    ⟨"m", 5, 0.75, 10⟩, none⟩

def projectServer : State :=
  let s : State :=
    { wiring := appleWiring, libs := Libraries.builtin .unreachable, clock := 0, seed := 0 }
  s.withDb { s.db with projects := ⟨[⟨1, { title := "p" }⟩], 2⟩ }

def appleServer : State := (projectServer.addDocument 1 "a.txt" "apple".toByteArray).1

def appleEmbedded : State := (appleServer.embedProject 1).1

theorem reachable_appleEmbedded : Reachable appleEmbedded := by
  have hproject : Reachable projectServer := .setProjects _ (.empty appleWiring (Libraries.builtin .unreachable) 0 0)
  have hupload : Reachable appleServer :=
    .upload 1 "a.txt" "apple".toByteArray hproject List.not_mem_nil rfl
  exact .embed 1 hupload rfl

theorem appleEmbedded_matches_reload :
    Reachable appleEmbedded ∧ ∃ t, { appleEmbedded with projectVectors := {} }.ensureProjectIndex 1 = .ok t ∧
      t.projectVectors.entries (projectIndex 1) = appleEmbedded.projectVectors.entries (projectIndex 1) ∧
      ∀ query maxResults minScore, t.searchProject 1 query maxResults minScore =
        appleEmbedded.searchProject 1 query maxResults minScore :=
  ⟨reachable_appleEmbedded, index_matches_reload reachable_appleEmbedded 1⟩

/-! ## Deleting a stored row through the administration -/

theorem deleteRecord_embedding_eq {s : State} {r : Row EmbeddingRow}
    (hr : r ∈ s.db.embeddings.rows) {raw : String} (hraw : Web.pathId raw = .ok r.id) :
    (Web.deleteRecord s Web.embeddingShelf raw).1 =
      s.withDb { s.db with embeddings :=
        { s.db.embeddings with rows := s.db.embeddings.rows.filter (·.id != r.id) } } := by
  obtain ⟨r', hfind⟩ : ∃ r', s.db.embeddings.find? r.id = some r' :=
    Option.isSome_iff_exists.mp (List.find?_isSome.mpr ⟨r, hr, by simp⟩)
  simp [Web.deleteRecord, hraw, Table.remove?, hfind, Web.embeddingShelf, Web.plainShelf]

/-- **Deleting a stored row through the administration splits an index from its reload.** On a
consistent server, deleting a row by its key leaves every index as it was, so the row's entry
stays in its project's index; a process that starts afresh loads that index without the entry,
and with every other one. -/
theorem Consistent.deleteRecord_embedding {s : State} (hs : Consistent s) {r : Row EmbeddingRow}
    (hr : r ∈ s.db.embeddings.rows) {raw : String} (hraw : Web.pathId raw = .ok r.id) :
    (Web.deleteRecord s Web.embeddingShelf raw).1.projectVectors = s.projectVectors ∧
      toString r.id ∈ MemoryStore.ids (s.projectVectors.entries (projectIndex r.val.projectId)) ∧
      ∃ u, { (Web.deleteRecord s Web.embeddingShelf raw).1 with projectVectors := {} }.ensureProjectIndex
          r.val.projectId = .ok u ∧
        u.projectVectors.entries (projectIndex r.val.projectId) =
          (s.projectVectors.entries (projectIndex r.val.projectId)).filter
            (·.id != toString r.id) := by
  rw [deleteRecord_embedding_eq hr hraw]
  have hrp : r ∈ s.db.embeddingsOfProject r.val.projectId := List.mem_filter.mpr ⟨hr, by simp⟩
  -- the reload reads every row but `r`, and `r` is the row read as the entry under its key
  have hreload : (s.withDb { s.db with embeddings := { s.db.embeddings with
      rows := s.db.embeddings.rows.filter (·.id != r.id) } }).reloadEntries r.val.projectId =
        .ok ((s.projectVectors.entries (projectIndex r.val.projectId)).filter
          (·.id != toString r.id)) := by
    unfold reloadEntries
    rw [embeddingsOfProject_filter rfl]
    refine mapM_filter_ok (fun x _ e he => ?_) (hs.indexed _)
    rw [rowEntry_ok he]
    simp only [bne, beq_eq_decide, toString_int_injective.eq_iff]
  have hempty : ({} : MemoryStore).entries (projectIndex r.val.projectId) = [] := rfl
  have hnd : (MemoryStore.ids ((s.projectVectors.entries (projectIndex r.val.projectId)).filter
      (·.id != toString r.id))).Nodup :=
    (hs.nodup_entries _).sublist (List.filter_sublist.map _)
  refine ⟨rfl, ?_, _, ensureProjectIndex_empty hreload, ?_⟩
  · rw [ids_of_mapM_entries (fun _ _ he => rowEntry_ok he) (hs.indexed _)]
    exact List.mem_map_of_mem hrp
  · rw [MemoryStore.entries_addAll, if_pos rfl, hempty,
      MemoryStore.foldl_addEntry_fresh (by simpa using hnd), List.nil_append]

theorem pathId_one : Web.pathId "1" = .ok 1 := by
  have hdecode : Http.decodeParam "1" = some "1" := by decide +kernel
  have hint : (Number.parseIntIn (-2147483648) 2147483647 "1").toOption = some 1 := by
    decide +kernel
  cases h : Number.parseIntIn (-2147483648) 2147483647 "1" with
  | error e => simp [h, Except.toOption] at hint
  | ok i =>
    simp only [h, Except.toOption, Option.some.injEq] at hint
    simp [Web.pathId, Web.pathText, hdecode, h, hint, bind, Except.bind, pure, Except.pure]

def appleDocument : Row ProjectDocument :=
  ⟨1, { name := "a.txt", fileKey := projectServer.freshUuid.2, projectId := 1 }⟩

theorem appleEmbedded_row :
    ∃ r ∈ appleEmbedded.db.embeddings.rows, r.id = 1 ∧ r.val.projectId = 1 := by
  have hp : (appleServer.db.projects.find? 1).isSome = true := rfl
  have hdocs : appleServer.db.documentsOf 1 = [appleDocument] := rfl
  have hkind : DocumentKind.ofFileName "a.txt" = .text := by
    simp +decide [DocumentKind.ofFileName, DocumentKind.extensionOf, String.splitOn,
      String.splitOnAux]
  have hvalid : Files.isValidKey projectServer.freshUuid.2 = true := by decide +kernel
  have hread : appleServer.files.read appleDocument.val.fileKey = .ok "apple".toByteArray := by
    have hfiles : appleServer.files = ⟨[(projectServer.freshUuid.2, "apple".toByteArray)]⟩ := rfl
    simp [hfiles, appleDocument, Files.FileStore.read, hvalid]
  have htext : Document.extractText Document.builtinReaders .text "apple".toByteArray =
      .ok "apple" := by decide +kernel
  -- the rows the embedder makes are known only to be some: the vectors are not evaluated
  obtain ⟨fresh, hfresh, hne⟩ := freshRows_of_text hkind hread htext (by decide +kernel)
    Token.count_empty (rfl : appleServer.wiring.embedder = _)
  have hrows : appleServer.db.embeddingsOfFile appleDocument.val.fileKey = [] := rfl
  have hl : Listed appleServer [appleDocument] := ⟨by decide, by decide⟩
  have hembedded : appleEmbedded = appleServer.embedded appleDocument := by
    unfold appleEmbedded
    rw [embedProject_eq hp, hdocs, embedEach_cons_fst, embedEach_nil, hl.step.1,
      if_pos (embeds_of_fresh hrows hfresh)]
  obtain ⟨e, rest, rfl⟩ := List.exists_cons_of_ne_nil hne
  have hmade := withFileRows_of_fresh hrows hfresh
  refine ⟨⟨appleServer.db.embeddings.nextId + 0, e⟩, ?_, rfl, ?_⟩
  · have hmem : (⟨appleServer.db.embeddings.nextId + 0, e⟩ : Row EmbeddingRow) ∈
        (appleServer.withFileRows appleDocument).db.embeddingsOfFile appleDocument.val.fileKey := by
      rw [hmade, List.mapIdx_cons]
      exact List.mem_cons_self
    rw [hembedded]
    exact (List.mem_filter.mp hmem).1
  · exact (freshRows_ok hfresh e List.mem_cons_self).2.1

/-- **A reachable server whose index a deletion splits from its reload.** On `appleEmbedded`,
deleting row 1 through the administration leaves its entry in project 1's index, while a process
that starts afresh loads that index without it. -/
theorem deleted_row_stays_indexed :
    Reachable appleEmbedded ∧
      ∃ u, { (Web.deleteRecord appleEmbedded Web.embeddingShelf "1").1 with
          projectVectors := {} }.ensureProjectIndex 1 = .ok u ∧
        "1" ∈ MemoryStore.ids ((Web.deleteRecord appleEmbedded Web.embeddingShelf "1").1.projectVectors.entries
          (projectIndex 1)) ∧
        "1" ∉ MemoryStore.ids (u.projectVectors.entries (projectIndex 1)) := by
  obtain ⟨r, hr, hid, hproj⟩ := appleEmbedded_row
  have hone : toString (1 : Int) = "1" := rfl
  obtain ⟨hidx, hmem, u, hu, hentries⟩ :=
    reachable_appleEmbedded.consistent.deleteRecord_embedding hr (hid ▸ pathId_one)
  rw [hproj, hid, hone] at hmem hentries
  rw [hproj] at hu
  refine ⟨reachable_appleEmbedded, u, hu, by rw [hidx]; exact hmem, ?_⟩
  rw [hentries]
  simp [MemoryStore.ids]

end State

end Server

end KnowledgeDesk

import KnowledgeDesk.Server.Knowledge
import KnowledgeDesk.Server.Builtin
import KnowledgeDesk.Proofs.Cascade
import Mathlib.Data.List.Find

/-!
# What deleting a record clears

Deleting a dataset file, a dataset, a document or a project also clears what the record names:
its stored file and its vectors. This module says exactly what is cleared, through two views: the
file stored under a key (`FileStore.get?`) and the entries of an index (`MemoryStore.entries`).

* Deleting a dataset file or a document takes away the file under the record's key (when the key
  is well formed: the store refuses any other) and that key's entries from the index of the
  record's *current* dataset or project. Every other file and entry is kept.
* Deleting a dataset or a project takes away the files under the keys of its records and drops
  its index. Every other file and index is kept.

The cleanup goes by the key and the dataset or project a record has when it is deleted, not by
what they were when its vectors were made: records edited through the admin interface may share a
key or have moved to another dataset. Deleting one of two records with one key then takes away the
file that the other still names (`removing_shared_key_loses_file`).
-/

namespace KnowledgeDesk

namespace Files.FileStore

def get? (fs : FileStore) (key : String) : Option ByteArray :=
  (fs.files.find? (·.1 == key)).map (·.2)

theorem discard_eq (fs : FileStore) (k : String) :
    fs.discard k = if isValidKey k then ⟨fs.files.filter (·.1 != k)⟩ else fs := by
  unfold discard delete
  by_cases hk : isValidKey k <;> simp [hk]

theorem get?_discard (fs : FileStore) (k key : String) :
    (fs.discard k).get? key = if key = k ∧ isValidKey k then none else fs.get? key := by
  rw [discard_eq]
  by_cases hk : isValidKey k
  · by_cases hkey : key = k
    · subst hkey
      simp [get?, hk, List.find?_filter]
    · simp only [get?, hk, if_true, hkey, false_and, if_false, List.find?_filter]
      congr 1
      refine List.find?_congr fun x _ => ?_
      by_cases hx : x.1 = key
      · simp [hx, hkey]
      · simp [hx]
  · simp [hk]

theorem get?_foldl_discard (fs : FileStore) (keys : List String) (key : String) :
    (keys.foldl discard fs).get? key =
      if key ∈ keys ∧ isValidKey key then none else fs.get? key := by
  induction keys generalizing fs with
  | nil => simp
  | cons k ks ih =>
    rw [List.foldl_cons, ih, get?_discard]
    by_cases hk : key = k
    · subst hk
      by_cases hv : isValidKey key <;> simp [hv]
    · simp [hk]

end Files.FileStore

namespace MemoryStore

theorem find?_name_eq_none {s : MemoryStore} {i : String} (h : ¬s.indices.any (·.1 = i)) :
    s.indices.find? (·.1 = i) = none :=
  List.find?_eq_none.mpr fun p hp hpi => h (List.any_eq_true.mpr ⟨p, hp, hpi⟩)

theorem entries_of_not_any {s : MemoryStore} {i : String} (h : ¬s.indices.any (·.1 = i)) :
    s.entries i = [] := by
  simp [entries, find?_name_eq_none h]

theorem entries_setEntries (s : MemoryStore) (i j : String) (es : List EmbeddingEntry) :
    (s.setEntries i es).entries j = if j = i then es else s.entries j := by
  unfold setEntries entries
  by_cases hany : s.indices.any (·.1 = i)
  · -- every index keeps its name, so the lookup finds the same index as before
    simp only [hany, if_true, List.find?_map, Function.comp_def, apply_ite Prod.fst, ite_self]
    cases hf : s.indices.find? (·.1 = j) with
    | none =>
      have hj : j ≠ i := by
        rintro rfl
        obtain ⟨p, hp, hpj⟩ := List.any_eq_true.mp hany
        exact absurd hpj (by simpa using List.find?_eq_none.mp hf p hp)
      simp [hj]
    | some p =>
      have hpj : p.1 = j := by simpa using List.find?_some hf
      by_cases hj : j = i <;> simp [hpj, hj]
  · -- the index is new and goes last, after every index of another name
    simp only [hany, Bool.false_eq_true, if_false, List.find?_append]
    by_cases hj : j = i
    · subst hj
      simp [find?_name_eq_none hany]
    · simp [hj, Ne.symm hj]

theorem entries_removeFile (s : MemoryStore) (i key j : String) :
    (s.removeFile i key).entries j =
      if j = i then (s.entries i).filter (fun e => e.segment.meta? metaFileKey ≠ some key)
      else s.entries j := by
  unfold removeFile
  by_cases hany : s.indices.any (·.1 = i)
  · rw [if_pos hany, entries_setEntries]
  · rw [if_neg hany]
    by_cases hj : j = i
    · subst hj
      rw [if_pos rfl, entries_of_not_any hany, List.filter_nil]
    · rw [if_neg hj]

theorem entries_dropIndex (s : MemoryStore) (i j : String) :
    (s.dropIndex i).entries j = if j = i then [] else s.entries j := by
  unfold dropIndex entries
  by_cases hj : j = i
  · subst hj
    have hnone : (s.indices.filter (·.1 ≠ j)).find? (·.1 = j) = none :=
      List.find?_eq_none.mpr fun p hp => by simpa using (List.mem_filter.mp hp).2
    rw [hnone]
    simp
  · simp only [hj, if_false, List.find?_filter]
    congr 2
    refine List.find?_congr fun x _ => ?_
    by_cases hx : x.1 = j
    · simp [hx, hj]
    · simp [hx]

end MemoryStore

namespace Store

theorem Table.find?_of_remove? {α : Type} {t t' : Table α} {id : Int} {r : Row α}
    (h : t.remove? id = some (t', r)) : t.find? id = some r := by
  unfold Table.remove? at h
  cases hf : t.find? id with
  | none => simp [hf] at h
  | some r' =>
    simp only [hf, Option.some.injEq, Prod.mk.injEq] at h
    rw [h.2]

end Store

namespace Server.State

open Files Store

/-- The stored files after deleting records with some keys: the files under the well-formed keys
are gone and every other file is kept. -/
def FilesCleared (before after : FileStore) (keys : List String) : Prop :=
  ∀ key, after.get? key = if key ∈ keys ∧ isValidKey key then none else before.get? key

/-- The entries after clearing a file key from an index: that index keeps the entries of other
keys, and every other index is kept. -/
def KeyCleared (before after : MemoryStore) (index key : String) : Prop :=
  ∀ i, after.entries i =
    if i = index then (before.entries index).filter (fun e => e.segment.meta? metaFileKey ≠ some key)
    else before.entries i

/-- The entries after dropping an index: it has none, and every other index is kept. -/
def IndexDropped (before after : MemoryStore) (index : String) : Prop :=
  ∀ i, after.entries i = if i = index then [] else before.entries i

theorem filesCleared_discard (fs : FileStore) (key : String) :
    FilesCleared fs (fs.discard key) [key] := by
  intro k
  rw [FileStore.get?_discard]
  by_cases hk : k = key
  · subst hk
    simp
  · simp [hk]

theorem filesCleared_foldl {α : Type} (fs : FileStore) (rows : List α) (keyOf : α → String) :
    FilesCleared fs (rows.foldl (fun fs r => fs.discard (keyOf r)) fs) (rows.map keyOf) := by
  intro k
  rw [← List.foldl_map, FileStore.get?_foldl_discard]

theorem removeDatasetFile_clears {s t : State} {id : Int} (hw : s.wiring.datasetIndex = .memory)
    (h : s.removeDatasetFile id = .ok t) :
    ∃ f, s.db.datasetFiles.find? id = some f ∧ FilesCleared s.files t.files [f.val.fileKey] ∧
      KeyCleared s.datasetVectors t.datasetVectors (datasetIndex f.val.datasetId) f.val.fileKey ∧
      t.projectVectors = s.projectVectors := by
  unfold removeDatasetFile at h
  cases hr : s.db.datasetFiles.remove? id with
  | none => simp [hr] at h
  | some p =>
    obtain ⟨tab, f⟩ := p
    simp only [hr, pure, Except.pure, Except.ok.injEq] at h
    subst h
    simp only [datasetRemoveFile, withDb, hw, and_true]
    exact ⟨f, Table.find?_of_remove? hr, filesCleared_discard s.files f.val.fileKey,
      MemoryStore.entries_removeFile s.datasetVectors (datasetIndex f.val.datasetId) f.val.fileKey⟩

theorem removeDataset_clears {s t : State} {id : Int} (hw : s.wiring.datasetIndex = .memory)
    (h : s.removeDataset id = .ok t) :
    FilesCleared s.files t.files
        ((s.db.datasetFiles.rows.filter (·.val.datasetId == id)).map (·.val.fileKey)) ∧
      IndexDropped s.datasetVectors t.datasetVectors (datasetIndex id) ∧
      t.projectVectors = s.projectVectors := by
  unfold removeDataset at h
  rw [Database.removeDataset_eq] at h
  by_cases hany : s.db.datasets.rows.any (·.id == id)
  · simp only [hany, if_true, pure, Except.pure, Except.ok.injEq] at h
    subst h
    simp only [datasetDrop, withDb, hw, and_true]
    exact ⟨filesCleared_foldl s.files _ _, MemoryStore.entries_dropIndex s.datasetVectors _⟩
  · simp [hany] at h

theorem removeDocument_clears {s t : State} {id : Int} (h : s.removeDocument id = .ok t) :
    ∃ d, s.db.documents.find? id = some d ∧ FilesCleared s.files t.files [d.val.fileKey] ∧
      KeyCleared s.projectVectors t.projectVectors (projectIndex d.val.projectId) d.val.fileKey ∧
      t.datasetVectors = s.datasetVectors := by
  unfold removeDocument at h
  rw [Database.removeDocument_eq] at h
  cases hf : s.db.documents.rows.find? (·.id == id) with
  | none => simp [hf] at h
  | some d =>
    simp only [hf, pure, Except.pure, Except.ok.injEq] at h
    subst h
    exact ⟨d, hf, filesCleared_discard s.files d.val.fileKey,
      MemoryStore.entries_removeFile s.projectVectors (projectIndex d.val.projectId) d.val.fileKey, rfl⟩

theorem removeProject_clears {s t : State} {id : Int} (h : s.removeProject id = .ok t) :
    FilesCleared s.files t.files
        ((s.db.documents.rows.filter (·.val.projectId == id)).map (·.val.fileKey)) ∧
      IndexDropped s.projectVectors t.projectVectors (projectIndex id) ∧
      t.datasetVectors = s.datasetVectors := by
  unfold removeProject at h
  rw [Database.removeProject_eq] at h
  by_cases hany : s.db.projects.rows.any (·.id == id)
  · simp only [hany, if_true, pure, Except.pure, Except.ok.injEq] at h
    subst h
    exact ⟨filesCleared_foldl s.files _ _, MemoryStore.entries_dropIndex s.projectVectors _, rfl⟩
  · simp [hany] at h

/-- Deleting a record clears exactly what its values name when it is deleted. A dataset file or a
document takes the file under its key and its key's entries in the index of its dataset or project;
a dataset or a project takes the files under its records' keys and its own index. Every other file,
every entry of another key and every other index is kept. -/
theorem removal_clears_exactly (s : State) (hw : s.wiring.datasetIndex = .memory) :
    (∀ id t, s.removeDatasetFile id = .ok t → ∃ f, s.db.datasetFiles.find? id = some f ∧
        FilesCleared s.files t.files [f.val.fileKey] ∧
        KeyCleared s.datasetVectors t.datasetVectors (datasetIndex f.val.datasetId) f.val.fileKey ∧
        t.projectVectors = s.projectVectors) ∧
    (∀ id t, s.removeDataset id = .ok t →
        FilesCleared s.files t.files
          ((s.db.datasetFiles.rows.filter (·.val.datasetId == id)).map (·.val.fileKey)) ∧
        IndexDropped s.datasetVectors t.datasetVectors (datasetIndex id) ∧
        t.projectVectors = s.projectVectors) ∧
    (∀ id t, s.removeDocument id = .ok t → ∃ d, s.db.documents.find? id = some d ∧
        FilesCleared s.files t.files [d.val.fileKey] ∧
        KeyCleared s.projectVectors t.projectVectors (projectIndex d.val.projectId) d.val.fileKey ∧
        t.datasetVectors = s.datasetVectors) ∧
    (∀ id t, s.removeProject id = .ok t →
        FilesCleared s.files t.files
          ((s.db.documents.rows.filter (·.val.projectId == id)).map (·.val.fileKey)) ∧
        IndexDropped s.projectVectors t.projectVectors (projectIndex id) ∧
        t.datasetVectors = s.datasetVectors) :=
  ⟨fun _ _ => removeDatasetFile_clears hw, fun _ _ => removeDataset_clears hw,
    fun _ _ => removeDocument_clears, fun _ _ => removeProject_clears⟩

def sharedKey : String := "123e4567-e89b-12d3-a456-426614174000"

/-- A server with one dataset whose file was uploaded under `sharedKey`, and a second record of
the dataset that an admin created with the same key. -/
def sharedKeyServer : State where
  wiring := ⟨.model (.keywords ["apple"] none false), .model (.ofTokens ["ok"] none),
    .memory, ⟨"m", 5, 0.75, 10⟩, none⟩
  libs := Libraries.builtin .unreachable
  db := { datasets := ⟨[⟨1, { name := "d" }⟩], 2⟩,
          datasetFiles := ⟨[⟨1, { name := "a.txt", datasetId := 1, fileKey := sharedKey }⟩,
            ⟨2, { name := "copy.txt", datasetId := 1, fileKey := sharedKey }⟩], 3⟩ }
  files := ⟨[(sharedKey, "apple".toUTF8)]⟩
  clock := 0
  seed := 0

theorem removal_clears_shared_key_server :
    sharedKeyServer.wiring.datasetIndex = .memory ∧
    (∀ id t, sharedKeyServer.removeDatasetFile id = .ok t →
      ∃ f, sharedKeyServer.db.datasetFiles.find? id = some f ∧
        FilesCleared sharedKeyServer.files t.files [f.val.fileKey] ∧
        KeyCleared sharedKeyServer.datasetVectors t.datasetVectors (datasetIndex f.val.datasetId)
          f.val.fileKey ∧
        t.projectVectors = sharedKeyServer.projectVectors) ∧
    (∀ id t, sharedKeyServer.removeDataset id = .ok t →
        FilesCleared sharedKeyServer.files t.files
          ((sharedKeyServer.db.datasetFiles.rows.filter (·.val.datasetId == id)).map
            (·.val.fileKey)) ∧
        IndexDropped sharedKeyServer.datasetVectors t.datasetVectors (datasetIndex id) ∧
        t.projectVectors = sharedKeyServer.projectVectors) ∧
    (∀ id t, sharedKeyServer.removeDocument id = .ok t →
      ∃ d, sharedKeyServer.db.documents.find? id = some d ∧
        FilesCleared sharedKeyServer.files t.files [d.val.fileKey] ∧
        KeyCleared sharedKeyServer.projectVectors t.projectVectors (projectIndex d.val.projectId)
          d.val.fileKey ∧
        t.datasetVectors = sharedKeyServer.datasetVectors) ∧
    (∀ id t, sharedKeyServer.removeProject id = .ok t →
        FilesCleared sharedKeyServer.files t.files
          ((sharedKeyServer.db.documents.rows.filter (·.val.projectId == id)).map
            (·.val.fileKey)) ∧
        IndexDropped sharedKeyServer.projectVectors t.projectVectors (projectIndex id) ∧
        t.datasetVectors = sharedKeyServer.datasetVectors) :=
  ⟨rfl, removal_clears_exactly sharedKeyServer rfl⟩

/-- Deleting the admin's record takes away the uploaded file, which the first record still names. -/
theorem removing_shared_key_loses_file :
    ∃ t, sharedKeyServer.removeDatasetFile 2 = .ok t ∧
      (sharedKeyServer.files.get? sharedKey).isSome ∧
      (∃ f ∈ t.db.datasetFiles.rows, f.val.fileKey = sharedKey) ∧
      t.files.get? sharedKey = none := by
  refine ⟨_, rfl, rfl, ⟨⟨1, { name := "a.txt", datasetId := 1, fileKey := sharedKey }⟩, ?_, rfl⟩, ?_⟩
  · exact List.mem_cons_self
  · rfl

end Server.State

end KnowledgeDesk

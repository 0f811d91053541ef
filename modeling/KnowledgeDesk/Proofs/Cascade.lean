import KnowledgeDesk.Store.Database

/-!
# Deletes that take what hangs off a record, all or nothing

The database operations made of several statements run them in one transaction. A cascading
delete removes what hangs off a record before the record itself, and only the last statement
finds out whether the record was there: when it was not, the transaction fails and its rollback
brings the deleted rows back. So each operation either fails with nothing changed, exactly when
the record is missing, or removes the record and exactly the rows that hang off it, and answers
the rows it was asked for; no other row of any table changes.

* `removeBot_eq`, `removeDataset_eq`, `removeToolset_eq`, `removeProject_eq`,
  `removeDocument_eq`: each delete as one `if` on whether the record is there;
* `createBotWith_eq`, `createEmbeddings_eq`: the inserts, which cannot fail, as the rows they add;
* `cascades_all_or_nothing` gathers them.
-/

namespace KnowledgeDesk.Store

namespace Table

variable {α : Type}

/-- No row goes under a key exactly when no row has it. -/
theorem deleteKey_count_eq_zero (t : Table α) (id : Int) :
    (t.deleteKey id).2 = 0 ↔ t.rows.any (·.id == id) = false := by
  simp [deleteKey, List.countP_eq_zero]

/-- Inserting values one by one adds them in order under the keys from `nextId` on. -/
theorem insertAll_eq (t : Table α) (as : List α) :
    t.insertAll as =
      ⟨t.rows ++ as.mapIdx (fun i a => ⟨t.nextId + i, a⟩), t.nextId + as.length⟩ := by
  induction as generalizing t with
  | nil => simp [insertAll]
  | cons a as ih =>
    -- the first value takes `nextId`, the rest the keys after it
    have hstep : t.insertAll (a :: as) = (t.insert a).1.insertAll as := rfl
    have hkeys : (fun (i : Nat) b => (⟨t.nextId + 1 + i, b⟩ : Row α)) =
        fun i b => ⟨t.nextId + ((i + 1 : Nat) : Int), b⟩ := by
      funext i b
      congr 1
      omega
    rw [hstep, ih]
    simp only [insert, List.mapIdx_cons, List.append_assoc, List.singleton_append,
      List.length_cons, hkeys, Table.mk.injEq]
    exact ⟨by rw [Int.natCast_zero, Int.add_zero], by omega⟩

end Table

namespace Database

/-! ## Deletes -/

/-- A transaction that deletes a key as its last statement: it fails exactly when no row has
the key, and then leaves the database as it was. -/
theorem transaction_deleteKey {α β : Type} {db : Database} {t : Table α} {id : Int}
    {body : Database → Except StoreError (Database × β)} (finish : Table α → Database × β)
    (hbody : body db = if (t.deleteKey id).2 = 0 then .error .notFound
      else .ok (finish (t.deleteKey id).1)) :
    db.transaction body =
      if t.rows.any (·.id == id) then
        ((finish ⟨t.rows.filter (·.id != id), t.nextId⟩).1,
          .ok (finish ⟨t.rows.filter (·.id != id), t.nextId⟩).2)
      else (db, .error .notFound) := by
  rw [transaction, hbody]
  by_cases h : t.rows.any (·.id == id)
  · have hcount : (t.deleteKey id).2 ≠ 0 := by simp [Table.deleteKey_count_eq_zero, h]
    rw [if_neg hcount, if_pos h]
    rfl
  · have hcount : (t.deleteKey id).2 = 0 :=
      (Table.deleteKey_count_eq_zero t id).mpr (by simpa using h)
    rw [if_pos hcount, if_neg h]

/-- **Deleting a bot** fails, changing nothing, exactly when there is no such bot; otherwise it
deletes the bot and its sessions and nothing else. -/
theorem removeBot_eq (db : Database) (id : Int) :
    db.removeBot id =
      if db.bots.rows.any (·.id == id) then
        ({ db with bots := ⟨db.bots.rows.filter (·.id != id), db.bots.nextId⟩,
                   sessions := ⟨db.sessions.rows.filter (·.val.botId != id), db.sessions.nextId⟩ },
          .ok ())
      else (db, .error .notFound) := by
  rw [removeBot, transaction_deleteKey (t := db.bots) (fun bots =>
    ({ db with sessions := (db.sessions.deleteWhere (·.botId == id)).1, bots }, ())) rfl]
  simp [Table.deleteWhere, bne]

/-- **Deleting a dataset** fails, changing nothing, exactly when there is no such dataset;
otherwise it deletes the dataset and its files, answers the files, and changes nothing else. -/
theorem removeDataset_eq (db : Database) (id : Int) :
    db.removeDataset id =
      if db.datasets.rows.any (·.id == id) then
        ({ db with datasets := ⟨db.datasets.rows.filter (·.id != id), db.datasets.nextId⟩,
                   datasetFiles :=
                     ⟨db.datasetFiles.rows.filter (·.val.datasetId != id), db.datasetFiles.nextId⟩ },
          .ok (db.datasetFiles.rows.filter (·.val.datasetId == id)))
      else (db, .error .notFound) := by
  rw [removeDataset, transaction_deleteKey (t := db.datasets) (fun datasets =>
    ({ db with datasetFiles := (db.datasetFiles.deleteWhere (·.datasetId == id)).1, datasets },
      (db.datasetFiles.deleteWhere (·.datasetId == id)).2)) rfl]
  simp [Table.deleteWhere, Table.select, bne]

/-- **Deleting a toolset** fails, changing nothing, exactly when there is no such toolset;
otherwise it deletes the toolset and its abilities and nothing else. -/
theorem removeToolset_eq (db : Database) (id : Int) :
    db.removeToolset id =
      if db.toolsets.rows.any (·.id == id) then
        ({ db with toolsets := ⟨db.toolsets.rows.filter (·.id != id), db.toolsets.nextId⟩,
                   abilities :=
                     ⟨db.abilities.rows.filter (·.val.toolsetId != id), db.abilities.nextId⟩ },
          .ok ())
      else (db, .error .notFound) := by
  rw [removeToolset, transaction_deleteKey (t := db.toolsets) (fun toolsets =>
    ({ db with abilities := (db.abilities.deleteWhere (·.toolsetId == id)).1, toolsets }, ())) rfl]
  simp [Table.deleteWhere, bne]

/-- **Deleting a project** fails, changing nothing, exactly when there is no such project;
otherwise it deletes the project and its documents, stored vectors and preset messages, answers
the documents, and changes nothing else. -/
theorem removeProject_eq (db : Database) (id : Int) :
    db.removeProject id =
      if db.projects.rows.any (·.id == id) then
        ({ db with projects := ⟨db.projects.rows.filter (·.id != id), db.projects.nextId⟩,
                   documents :=
                     ⟨db.documents.rows.filter (·.val.projectId != id), db.documents.nextId⟩,
                   embeddings :=
                     ⟨db.embeddings.rows.filter (·.val.projectId != id), db.embeddings.nextId⟩,
                   fineTunings :=
                     ⟨db.fineTunings.rows.filter (·.val.projectId != id), db.fineTunings.nextId⟩ },
          .ok (db.documents.rows.filter (·.val.projectId == id)))
      else (db, .error .notFound) := by
  rw [removeProject, transaction_deleteKey (t := db.projects) (fun projects =>
    ({ db with documents := (db.documents.deleteWhere (·.projectId == id)).1,
               embeddings := (db.embeddings.deleteWhere (·.projectId == id)).1,
               fineTunings := (db.fineTunings.deleteWhere (·.projectId == id)).1, projects },
      (db.documents.deleteWhere (·.projectId == id)).2)) rfl]
  simp [Table.deleteWhere, Table.select, bne]

/-- **Deleting a document** fails, changing nothing, exactly when there is no such document;
otherwise it deletes the document and the stored vectors of its file in its project, answers the
document, and changes nothing else. -/
theorem removeDocument_eq (db : Database) (id : Int) :
    db.removeDocument id =
      match db.documents.rows.find? (·.id == id) with
      | some doc =>
        ({ db with documents := ⟨db.documents.rows.filter (·.id != id), db.documents.nextId⟩,
                   embeddings := ⟨db.embeddings.rows.filter fun e =>
                     !(e.val.fileId == doc.val.fileKey && e.val.projectId == doc.val.projectId),
                     db.embeddings.nextId⟩ },
          .ok doc)
      | none => (db, .error .notFound) := by
  cases hdoc : db.documents.rows.find? (·.id == id) with
  | none => simp [removeDocument, transaction, Table.remove?, Table.find?, hdoc]
  | some doc => simp [removeDocument, transaction, Table.remove?, Table.find?, hdoc,
      Table.deleteWhere]

/-! ## Inserts -/

/-- **Adding a bot with its dataset and toolset** adds the given dataset and toolset, each under
the next key of its table, and the bot pointing at them (or at the ids it names when none is
given) under the next key of the bots; it answers the bot's row and changes nothing else. -/
theorem createBotWith_eq (db : Database) (bot : Bot) (dataset : Option Dataset)
    (toolset : Option Toolset) :
    db.createBotWith bot dataset toolset =
      let row : Row Bot := ⟨db.bots.nextId,
        { bot with datasetId := if dataset.isSome then db.datasets.nextId else bot.datasetId,
                   toolsetId := if toolset.isSome then db.toolsets.nextId else bot.toolsetId }⟩
      ({ db with datasets := db.datasets.insertAll dataset.toList,
                 toolsets := db.toolsets.insertAll toolset.toList,
                 bots := ⟨db.bots.rows ++ [row], db.bots.nextId + 1⟩ }, row) := by
  cases dataset <;> cases toolset <;> rfl

/-- **Adding stored vectors** adds them in order under the next keys of their table, answers how
many, and changes nothing else. -/
theorem createEmbeddings_eq (db : Database) (rows : List EmbeddingRow) :
    db.createEmbeddings rows =
      ({ db with embeddings := ⟨db.embeddings.rows ++
          rows.mapIdx (fun i e => ⟨db.embeddings.nextId + i, e⟩),
          db.embeddings.nextId + rows.length⟩ }, rows.length) := by
  cases rows with
  | nil => simp [createEmbeddings]
  | cons e rest => simp [createEmbeddings, Table.insertAll_eq]

/-! ## All or nothing -/

/-- **The operations of several statements are all or nothing.** For every database: adding a
bot with its dataset and toolset, and adding stored vectors, never fail and add exactly their
rows. Deleting a bot, dataset, toolset, project or document fails exactly when the record is
missing, and then leaves every table as it was, what hangs off the record included; otherwise it
deletes the record and exactly the rows whose parent column names it (for a document, the
stored vectors of its file in its project), answers exactly the deleted files or documents, and
leaves every other row of every table as it was. -/
theorem cascades_all_or_nothing (db : Database) :
    (∀ bot dataset toolset, db.createBotWith bot dataset toolset =
      let row : Row Bot := ⟨db.bots.nextId,
        { bot with datasetId := if dataset.isSome then db.datasets.nextId else bot.datasetId,
                   toolsetId := if toolset.isSome then db.toolsets.nextId else bot.toolsetId }⟩
      ({ db with datasets := db.datasets.insertAll dataset.toList,
                 toolsets := db.toolsets.insertAll toolset.toList,
                 bots := ⟨db.bots.rows ++ [row], db.bots.nextId + 1⟩ }, row)) ∧
    (∀ id, db.removeBot id =
      if db.bots.rows.any (·.id == id) then
        ({ db with bots := ⟨db.bots.rows.filter (·.id != id), db.bots.nextId⟩,
                   sessions := ⟨db.sessions.rows.filter (·.val.botId != id), db.sessions.nextId⟩ },
          .ok ())
      else (db, .error .notFound)) ∧
    (∀ id, db.removeDataset id =
      if db.datasets.rows.any (·.id == id) then
        ({ db with datasets := ⟨db.datasets.rows.filter (·.id != id), db.datasets.nextId⟩,
                   datasetFiles :=
                     ⟨db.datasetFiles.rows.filter (·.val.datasetId != id), db.datasetFiles.nextId⟩ },
          .ok (db.datasetFiles.rows.filter (·.val.datasetId == id)))
      else (db, .error .notFound)) ∧
    (∀ id, db.removeToolset id =
      if db.toolsets.rows.any (·.id == id) then
        ({ db with toolsets := ⟨db.toolsets.rows.filter (·.id != id), db.toolsets.nextId⟩,
                   abilities :=
                     ⟨db.abilities.rows.filter (·.val.toolsetId != id), db.abilities.nextId⟩ },
          .ok ())
      else (db, .error .notFound)) ∧
    (∀ id, db.removeProject id =
      if db.projects.rows.any (·.id == id) then
        ({ db with projects := ⟨db.projects.rows.filter (·.id != id), db.projects.nextId⟩,
                   documents :=
                     ⟨db.documents.rows.filter (·.val.projectId != id), db.documents.nextId⟩,
                   embeddings :=
                     ⟨db.embeddings.rows.filter (·.val.projectId != id), db.embeddings.nextId⟩,
                   fineTunings :=
                     ⟨db.fineTunings.rows.filter (·.val.projectId != id), db.fineTunings.nextId⟩ },
          .ok (db.documents.rows.filter (·.val.projectId == id)))
      else (db, .error .notFound)) ∧
    (∀ id, db.removeDocument id =
      match db.documents.rows.find? (·.id == id) with
      | some doc =>
        ({ db with documents := ⟨db.documents.rows.filter (·.id != id), db.documents.nextId⟩,
                   embeddings := ⟨db.embeddings.rows.filter fun e =>
                     !(e.val.fileId == doc.val.fileKey && e.val.projectId == doc.val.projectId),
                     db.embeddings.nextId⟩ },
          .ok doc)
      | none => (db, .error .notFound)) ∧
    (∀ rows, db.createEmbeddings rows =
      ({ db with embeddings := ⟨db.embeddings.rows ++
          rows.mapIdx (fun i e => ⟨db.embeddings.nextId + i, e⟩),
          db.embeddings.nextId + rows.length⟩ }, rows.length)) :=
  ⟨createBotWith_eq db, removeBot_eq db, removeDataset_eq db, removeToolset_eq db,
    removeProject_eq db, removeDocument_eq db, createEmbeddings_eq db⟩

/-- Deleting a bot that is missing fails and keeps its sessions. -/
example : (({ sessions := ⟨[⟨1, ⟨7, ⟨2024, 1, 2, 3, 4, 5, 0⟩, "[]", 3, "alice", "s1"⟩⟩], 2⟩ } :
    Database).removeBot 3).1.sessions.rows.length = 1 := by decide

end Database

end KnowledgeDesk.Store

import Mathlib.Data.List.Nodup
import KnowledgeDesk.Proofs.VectorText
import KnowledgeDesk.Proofs.IndexUpsert

/-!
# Embedding one document

A document's file gets rows of stored vectors once: when the file has rows, whatever project
they were made for, they are reused; when it has none, the file is read, cut into segments of 300
tokens and each segment embedded, and the rows are stored in one insert (`freshRows`,
`withFileRows`). The rows are then read back into index entries, one per row under the row's
key, named after the document (`written`), and the document is marked embedded (`markedWith`).

* `embeds` says, as a Boolean of the state, whether a document embeds;
* `embedDocument_of_embeds` gives the state after a document that embeds (`embedded`), and
  `embedDocument_of_not_embeds` says that one that does not leaves the state as it was;
* `embedDocument_keeps_rows`: a file that has rows gets none;
* the `_congr` lemmas: all of this reads only the stored vectors, the files and the wiring, and
  of the document only its key, name, file and project, not its flag.
-/

namespace KnowledgeDesk.Server

open Store

namespace State

/-! ## One document -/

/-- The rows a document's file gets when it has none yet: the file read, cut into segments of
300 tokens, each segment with its vector. -/
def freshRows (s : State) (d : Row ProjectDocument) : Except Failure (List EmbeddingRow) := do
  let bytes ← (s.files.read d.val.fileKey).mapError .file
  let segments ← s.segmentsOf bytes d.val.name 300
  let vectors ← s.embedSegments segments
  pure ((segments.zip vectors).map fun (text, v) =>
    { fileId := d.val.fileKey, projectId := d.val.projectId, vectors := vectorText v,
      textSegment := text })

/-- The rows a document is embedded from: those its file has, else those made for it, which
are stored first. -/
theorem documentRows_eq (s : State) (d : Row ProjectDocument) :
    s.documentRows d =
      if s.db.embeddingsOfFile d.val.fileKey = [] then
        match s.freshRows d with
        | .error e => (s, .error e)
        | .ok fresh =>
          (s.withDb (s.db.createEmbeddings fresh).1,
            .ok ((s.db.createEmbeddings fresh).1.embeddingsOfFile d.val.fileKey))
      else (s, .ok (s.db.embeddingsOfFile d.val.fileKey)) := by
  unfold documentRows freshRows
  by_cases hrows : s.db.embeddingsOfFile d.val.fileKey = []
  · simp only [hrows, List.isEmpty_nil, Bool.not_true, Bool.false_eq_true, if_false, if_true]
    -- the file is read, cut into segments and embedded, and each stage can fail
    cases hread : s.files.read d.val.fileKey with
    | error e => simp [Except.mapError, bind, Except.bind]
    | ok bytes =>
      cases hseg : s.segmentsOf bytes d.val.name 300 with
      | error e => simp [Except.mapError, bind, Except.bind, hseg]
      | ok segments =>
        cases hvec : s.embedSegments segments with
        | error e => simp [Except.mapError, bind, Except.bind, hseg, hvec]
        | ok vectors =>
          simp [Except.mapError, bind, Except.bind, pure, Except.pure, withDb, hseg, hvec]
  · have hne : (s.db.embeddingsOfFile d.val.fileKey).isEmpty = false := by simpa using hrows
    simp [hne, hrows]

theorem freshRows_ok {s : State} {d : Row ProjectDocument} {fresh : List EmbeddingRow}
    (h : s.freshRows d = .ok fresh) :
    ∀ r ∈ fresh, r.fileId = d.val.fileKey ∧ r.projectId = d.val.projectId ∧
      ∃ v, r.vectors = vectorText v := by
  unfold freshRows at h
  -- only the last stage makes rows: one for each segment and its vector
  cases hread : s.files.read d.val.fileKey with
  | error e => simp [hread, Except.mapError, bind, Except.bind] at h
  | ok bytes =>
    cases hseg : s.segmentsOf bytes d.val.name 300 with
    | error e => simp [hread, hseg, Except.mapError, bind, Except.bind] at h
    | ok segments =>
      cases hvec : s.embedSegments segments with
      | error e => simp [hread, hseg, hvec, Except.mapError, bind, Except.bind] at h
      | ok vectors =>
        simp only [hread, hseg, hvec, Except.mapError, bind, Except.bind, pure, Except.pure,
          Except.ok.injEq] at h
        subst h
        intro r hr
        obtain ⟨⟨text, v⟩, -, rfl⟩ := List.mem_map.mp hr
        exact ⟨rfl, rfl, v, rfl⟩

/-! ### Rows read as entries -/

theorem rowEntry_ok {name : String} {row : Row EmbeddingRow} {e : EmbeddingEntry}
    (h : rowEntry name row = .ok e) : e.id = toString row.id := by
  unfold rowEntry at h
  split at h
  · cases h
  · cases h
    rfl

theorem rowEntry_ok_iff (name : String) (row : Row EmbeddingRow) :
    (∃ e, rowEntry name row = .ok e) ↔ ∃ v, parseVector row.val.vectors = .ok v := by
  unfold rowEntry
  split
  · next hv => simp [hv]
  · next v hv => simp [hv]

theorem mapM_rowEntry_ok_iff (name : String) (rows : List (Row EmbeddingRow)) :
    (∃ es, rows.mapM (rowEntry name) = .ok es) ↔
      ∀ r ∈ rows, ∃ v, parseVector r.val.vectors = .ok v := by
  induction rows with
  | nil => simp [pure, Except.pure]
  | cons r rows ih =>
    rw [List.forall_mem_cons, ← rowEntry_ok_iff name r, ← ih]
    cases hr : rowEntry name r with
    | error e => simp [List.mapM_cons, hr, bind, Except.bind]
    | ok e =>
      cases hrows : rows.mapM (rowEntry name) with
      | error e' => simp [List.mapM_cons, hr, hrows, bind, Except.bind]
      | ok es => simp [List.mapM_cons, hr, hrows, bind, Except.bind, pure, Except.pure]

theorem mapM_cons_ok {α β ε : Type} {f : α → Except ε β} {a : α} {l : List α} {bs : List β} :
    (a :: l).mapM f = .ok bs ↔ ∃ b bs', f a = .ok b ∧ l.mapM f = .ok bs' ∧ bs = b :: bs' := by
  cases ha : f a with
  | error e => simp [List.mapM_cons, ha, bind, Except.bind]
  | ok b =>
    cases hl : l.mapM f with
    | error e => simp [List.mapM_cons, ha, hl, bind, Except.bind]
    | ok bs' => simp [List.mapM_cons, ha, hl, bind, Except.bind, pure, Except.pure, eq_comm]

theorem ids_of_mapM_entries {f : Row EmbeddingRow → Except Failure EmbeddingEntry}
    (hf : ∀ r e, f r = .ok e → e.id = toString r.id) {rows : List (Row EmbeddingRow)}
    {es : List EmbeddingEntry} (h : rows.mapM f = .ok es) :
    MemoryStore.ids es = rows.map fun r => toString r.id := by
  induction rows generalizing es with
  | nil =>
    cases h
    rfl
  | cons r rows ih =>
    obtain ⟨e, es', hr, hrows, rfl⟩ := mapM_cons_ok.mp h
    simp only [MemoryStore.ids, List.map_cons, hf r e hr] at ih ⊢
    rw [ih hrows]

/-! ### Rows made for a file -/

/-- The rows of a key once rows are stored: those it had, then those of the stored rows that
belong to it, under keys from `nextId` on. -/
theorem embeddingsOfFile_createEmbeddings (db : Database) (fresh : List EmbeddingRow)
    (key : String) :
    (db.createEmbeddings fresh).1.embeddingsOfFile key =
      db.embeddingsOfFile key ++
        (fresh.mapIdx fun i e => (⟨db.embeddings.nextId + i, e⟩ : Row EmbeddingRow)).filter
          (·.val.fileId == key) := by
  rw [Database.createEmbeddings_eq]
  simp [Database.embeddingsOfFile, Table.select, List.filter_append]

/-- The server once a document's file has its rows: with the rows made for the file when it had
none and they could be made, else as it was. -/
def withFileRows (s : State) (d : Row ProjectDocument) : State :=
  if s.db.embeddingsOfFile d.val.fileKey = [] then
    match s.freshRows d with
    | .ok fresh => s.withDb (s.db.createEmbeddings fresh).1
    | .error _ => s
  else s

theorem withFileRows_rows_read {s : State} {d : Row ProjectDocument}
    (hnone : s.db.embeddingsOfFile d.val.fileKey = []) {fresh : List EmbeddingRow}
    (hfresh : s.freshRows d = .ok fresh) :
    ∀ r ∈ (s.withFileRows d).db.embeddingsOfFile d.val.fileKey,
      ∃ v, parseVector r.val.vectors = .ok v := by
  intro r hr
  simp only [withFileRows, hnone, if_true, hfresh, withDb, embeddingsOfFile_createEmbeddings,
    List.nil_append, List.mem_filter, List.mem_mapIdx] at hr
  obtain ⟨⟨i, hi, rfl⟩, -⟩ := hr
  obtain ⟨-, -, v, hv⟩ := freshRows_ok hfresh _ (List.getElem_mem hi)
  obtain ⟨w, hw, -⟩ := parseVector_vectorText v
  exact ⟨w, by simpa [hv] using hw⟩

theorem withFileRows_eq (s : State) (d : Row ProjectDocument) :
    ∃ embeddings, s.withFileRows d = { s with db := { s.db with embeddings } } := by
  unfold withFileRows
  split
  · split
    · next fresh _ =>
      refine ⟨(s.db.createEmbeddings fresh).1.embeddings, ?_⟩
      rw [Database.createEmbeddings_eq]
      rfl
    · exact ⟨s.db.embeddings, rfl⟩
  · exact ⟨s.db.embeddings, rfl⟩

@[simp] theorem withFileRows_files (s : State) (d : Row ProjectDocument) :
    (s.withFileRows d).files = s.files := by
  obtain ⟨_, h⟩ := withFileRows_eq s d
  rw [h]

@[simp] theorem withFileRows_wiring (s : State) (d : Row ProjectDocument) :
    (s.withFileRows d).wiring = s.wiring := by
  obtain ⟨_, h⟩ := withFileRows_eq s d
  rw [h]

@[simp] theorem withFileRows_libs (s : State) (d : Row ProjectDocument) :
    (s.withFileRows d).libs = s.libs := by
  obtain ⟨_, h⟩ := withFileRows_eq s d
  rw [h]

@[simp] theorem withFileRows_projectVectors (s : State) (d : Row ProjectDocument) :
    (s.withFileRows d).projectVectors = s.projectVectors := by
  obtain ⟨_, h⟩ := withFileRows_eq s d
  rw [h]

@[simp] theorem withFileRows_documents (s : State) (d : Row ProjectDocument) :
    (s.withFileRows d).db.documents = s.db.documents := by
  obtain ⟨_, h⟩ := withFileRows_eq s d
  rw [h]

@[simp] theorem withFileRows_projects (s : State) (d : Row ProjectDocument) :
    (s.withFileRows d).db.projects = s.db.projects := by
  obtain ⟨_, h⟩ := withFileRows_eq s d
  rw [h]

theorem withFileRows_of_ne_nil {s : State} {d : Row ProjectDocument}
    (hrows : s.db.embeddingsOfFile d.val.fileKey ≠ []) : s.withFileRows d = s := by
  simp [withFileRows, hrows]

/-! ## Whether a document embeds -/

/-- Whether a document embeds: when its file has rows, whether they all read; when it has none,
whether they can be made. -/
def embeds (s : State) (d : Row ProjectDocument) : Bool :=
  if (s.db.embeddingsOfFile d.val.fileKey).isEmpty then (s.freshRows d).isOk
  else (s.db.embeddingsOfFile d.val.fileKey).all fun r => (parseVector r.val.vectors).isOk

/-- The entries a document writes to its project's index: those its file's rows read as, named
after it; none when it does not embed. -/
def written (s : State) (d : Row ProjectDocument) : List EmbeddingEntry :=
  (((s.withFileRows d).db.embeddingsOfFile d.val.fileKey).mapM
    (rowEntry d.val.name)).toOption.getD []

theorem isOk_iff {ε α : Type} {x : Except ε α} : x.isOk = true ↔ ∃ v, x = .ok v := by
  cases x <;> simp [Except.isOk, Except.toBool]

theorem rows_read_of_embeds {s : State} {d : Row ProjectDocument} (h : s.embeds d = true) :
    ∀ r ∈ (s.withFileRows d).db.embeddingsOfFile d.val.fileKey,
      ∃ v, parseVector r.val.vectors = .ok v := by
  unfold embeds at h
  by_cases hrows : s.db.embeddingsOfFile d.val.fileKey = []
  · simp only [hrows, List.isEmpty_nil, if_true, isOk_iff] at h
    obtain ⟨fresh, hfresh⟩ := h
    exact withFileRows_rows_read hrows hfresh
  · simp only [List.isEmpty_eq_false_iff.mpr hrows, Bool.false_eq_true, if_false,
      List.all_eq_true, isOk_iff] at h
    rwa [withFileRows_of_ne_nil hrows]

theorem documentRows_of_embeds {s : State} {d : Row ProjectDocument} (h : s.embeds d = true) :
    s.documentRows d =
      (s.withFileRows d, .ok ((s.withFileRows d).db.embeddingsOfFile d.val.fileKey)) := by
  rw [documentRows_eq]
  by_cases hrows : s.db.embeddingsOfFile d.val.fileKey = []
  · simp only [embeds, hrows, List.isEmpty_nil, if_true, isOk_iff] at h
    obtain ⟨fresh, hfresh⟩ := h
    simp [withFileRows, withDb, hrows, hfresh]
  · simp [withFileRows, hrows]

theorem mapM_written {s : State} {d : Row ProjectDocument} (h : s.embeds d = true) :
    ((s.withFileRows d).db.embeddingsOfFile d.val.fileKey).mapM (rowEntry d.val.name) =
      .ok (s.written d) := by
  obtain ⟨es, hes⟩ := (mapM_rowEntry_ok_iff d.val.name _).mpr (rows_read_of_embeds h)
  simp [written, hes, Except.toOption]

theorem written_of_not_embeds {s : State} {d : Row ProjectDocument} (h : s.embeds d = false) :
    s.written d = [] := by
  by_cases hrows : s.db.embeddingsOfFile d.val.fileKey = []
  · -- no rows and none can be made: the file keeps none
    simp only [embeds, hrows, List.isEmpty_nil, if_true] at h
    cases hfresh : s.freshRows d with
    | error e => simp [written, withFileRows, hrows, hfresh, Except.toOption, pure, Except.pure]
    | ok fresh => simp [hfresh, Except.isOk, Except.toBool] at h
  · -- a row that does not read fails the whole list
    have hbad : ¬ ∀ r ∈ s.db.embeddingsOfFile d.val.fileKey, ∃ v, parseVector r.val.vectors = .ok v := by
      simpa [embeds, hrows, List.isEmpty_eq_false_iff.mpr hrows, isOk_iff] using h
    rw [← mapM_rowEntry_ok_iff d.val.name] at hbad
    cases hes : (s.db.embeddingsOfFile d.val.fileKey).mapM (rowEntry d.val.name) with
    | error e => simp [written, withFileRows_of_ne_nil hrows, hes, Except.toOption]
    | ok es => exact absurd ⟨es, hes⟩ hbad

/-! ## Marking a document embedded -/

/-- A document row, marked embedded when its key is among `ids`. -/
def markedWith (ids : List Int) (r : Row ProjectDocument) : Row ProjectDocument :=
  if r.id ∈ ids then ⟨r.id, { r.val with isEmbedding := true }⟩ else r

@[simp] theorem markedWith_id (ids : List Int) (r : Row ProjectDocument) :
    (markedWith ids r).id = r.id := by
  unfold markedWith
  split <;> rfl

theorem setEmbedded_isSome {db : Database} {id : Int} (b : Bool)
    (hmem : id ∈ db.documents.rows.map (·.id)) : (db.setEmbedded id b).isSome := by
  obtain ⟨r, hr, rfl⟩ := List.mem_map.mp hmem
  obtain ⟨r₀, hfind⟩ := Option.isSome_iff_exists.mp
    (List.find?_isSome.mpr ⟨r, hr, by simp⟩ : (db.documents.rows.find? (·.id == r.id)).isSome)
  have hany : db.documents.rows.any (·.id == r.id) = true := List.any_eq_true.mpr ⟨r, hr, by simp⟩
  have hid : r₀.id = r.id := by simpa using List.find?_some hfind
  simp [Database.setEmbedded, Table.find?, hfind, Table.replace, hany]

theorem setEmbedded_eq {db : Database} {id : Int} (hnd : (db.documents.rows.map (·.id)).Nodup)
    (hmem : id ∈ db.documents.rows.map (·.id)) :
    db.setEmbedded id true =
      some { db with documents := { db.documents with
        rows := db.documents.rows.map (markedWith [id]) } } := by
  obtain ⟨r, hr, rfl⟩ := List.mem_map.mp hmem
  obtain ⟨r₀, hfind⟩ := Option.isSome_iff_exists.mp
    (List.find?_isSome.mpr ⟨r, hr, by simp⟩ : (db.documents.rows.find? (·.id == r.id)).isSome)
  have hany : db.documents.rows.any (·.id == r.id) = true := List.any_eq_true.mpr ⟨r, hr, by simp⟩
  have hid : r₀.id = r.id := by simpa using List.find?_some hfind
  have hr₀ : r₀ = r := List.inj_on_of_nodup_map hnd (List.mem_of_find?_eq_some hfind) hr hid
  subst hr₀
  simp only [Database.setEmbedded, Table.find?, hfind, Table.replace, hany, if_true,
    Option.bind_eq_bind, Option.bind_some]
  -- the one row under the key is the one found
  congr 3
  apply List.map_congr_left
  intro x hx
  by_cases hx' : x.id = r₀.id
  · have hxr : x = r₀ := List.inj_on_of_nodup_map hnd hx (List.mem_of_find?_eq_some hfind) hx'
    subst hxr
    simp [markedWith]
  · simp [markedWith, hx']

theorem setEmbedded_eq_some {db db' : Database} {id : Int} {b : Bool}
    (h : db.setEmbedded id b = some db') : db' = { db with documents := db'.documents } := by
  unfold Database.setEmbedded at h
  cases hfind : db.documents.find? id with
  | none => simp [hfind] at h
  | some r =>
    cases hrep : db.documents.replace id { r.val with isEmbedding := b } with
    | none => simp [hfind, hrep] at h
    | some t =>
      simp only [hfind, hrep, Option.bind_eq_bind, Option.bind_some, pure,
        Option.some.injEq] at h
      rw [← h]

/-! ## One document embedded -/

/-- The state once a document has embedded: its file with its rows, the entries it writes in its
project's index, and the document marked embedded. -/
def embedded (s : State) (d : Row ProjectDocument) : State :=
  { s with
    db := { (s.withFileRows d).db with
      documents := { s.db.documents with rows := s.db.documents.rows.map (markedWith [d.id]) } }
    projectVectors := s.projectVectors.addAll (projectIndex d.val.projectId) (s.written d) }

theorem embedDocument_eq_of_embeds {s : State} {d : Row ProjectDocument} (h : s.embeds d = true) :
    s.embedDocument d =
      let t : State := { s.withFileRows d with
        projectVectors := s.projectVectors.addAll (projectIndex d.val.projectId) (s.written d) }
      match t.db.setEmbedded d.id true with
      | some db => (t.withDb db, .ok (s.written d).length)
      | none => (t, .error .rowMissing) := by
  unfold embedDocument
  rw [documentRows_of_embeds h]
  simp only [mapM_written h]
  -- the statement's match and the definition's are two matchers: take the lookup's two cases
  cases (s.withFileRows d).db.setEmbedded d.id true <;> simp only [withFileRows_projectVectors]

/-- **A document that embeds**, in a database whose documents have distinct keys, ends in the
state `embedded` and answers how many entries it wrote. -/
theorem embedDocument_of_embeds {s : State} {d : Row ProjectDocument}
    (hnd : (s.db.documents.rows.map (·.id)).Nodup) (hmem : d.id ∈ s.db.documents.rows.map (·.id))
    (h : s.embeds d = true) : s.embedDocument d = (s.embedded d, .ok (s.written d).length) := by
  have hnd' : ((s.withFileRows d).db.documents.rows.map (·.id)).Nodup := by simpa using hnd
  have hmem' : d.id ∈ (s.withFileRows d).db.documents.rows.map (·.id) := by simpa using hmem
  rw [embedDocument_eq_of_embeds h]
  simp only [setEmbedded_eq hnd' hmem', withFileRows_documents]
  obtain ⟨_, hw⟩ := withFileRows_eq s d
  unfold embedded
  rw [hw]
  rfl

/-- **A document that does not embed** fails and leaves the state as it was. -/
theorem embedDocument_of_not_embeds {s : State} {d : Row ProjectDocument}
    (h : s.embeds d = false) : ∃ e, s.embedDocument d = (s, .error e) := by
  unfold embedDocument
  rw [documentRows_eq]
  by_cases hrows : s.db.embeddingsOfFile d.val.fileKey = []
  · simp only [embeds, hrows, List.isEmpty_nil, if_true] at h
    cases hfresh : s.freshRows d with
    | error e => exact ⟨e, by simp [hrows]⟩
    | ok fresh => simp [hfresh, Except.isOk, Except.toBool] at h
  · have hbad : ¬ ∀ r ∈ s.db.embeddingsOfFile d.val.fileKey, ∃ v, parseVector r.val.vectors = .ok v := by
      simpa [embeds, hrows, List.isEmpty_eq_false_iff.mpr hrows, isOk_iff] using h
    rw [← mapM_rowEntry_ok_iff d.val.name] at hbad
    cases hes : (s.db.embeddingsOfFile d.val.fileKey).mapM (rowEntry d.val.name) with
    | error e => exact ⟨e, by simp [hrows, hes]⟩
    | ok es => exact absurd ⟨es, hes⟩ hbad

theorem embedDocument_error {s t : State} {d : Row ProjectDocument} {e : Failure}
    (hmem : d.id ∈ s.db.documents.rows.map (·.id)) (h : s.embedDocument d = (t, .error e)) :
    t = s := by
  cases hemb : s.embeds d with
  | false =>
    obtain ⟨e', he'⟩ := embedDocument_of_not_embeds hemb
    rw [he'] at h
    exact (Prod.mk.inj h).1.symm
  | true =>
    have hmem' : d.id ∈ (s.withFileRows d).db.documents.rows.map (·.id) := by simpa using hmem
    obtain ⟨db, hdb⟩ := Option.isSome_iff_exists.mp (setEmbedded_isSome true hmem')
    rw [embedDocument_eq_of_embeds hemb] at h
    simp [hdb] at h

theorem withFileRows_of_not_embeds {s : State} {d : Row ProjectDocument}
    (h : s.embeds d = false) : s.withFileRows d = s := by
  by_cases hrows : s.db.embeddingsOfFile d.val.fileKey = []
  · simp only [embeds, hrows, List.isEmpty_nil, if_true] at h
    cases hfresh : s.freshRows d with
    | error e => simp [withFileRows, hrows, hfresh]
    | ok fresh => simp [hfresh, Except.isOk, Except.toBool] at h
  · exact withFileRows_of_ne_nil hrows

/-- **What embedding one document can do**: fail and leave the state as it was, or embed, giving
the file its rows, writing its entries to its project's index and changing nothing else but the
documents. -/
theorem embedDocument_cases (s : State) (d : Row ProjectDocument) :
    (s.embeds d = false ∧ (s.embedDocument d).1 = s) ∨
      (s.embeds d = true ∧ ∃ documents, (s.embedDocument d).1 =
        { s with db := { (s.withFileRows d).db with documents },
                 projectVectors := s.projectVectors.addAll (projectIndex d.val.projectId)
                   (s.written d) }) := by
  cases hemb : s.embeds d with
  | false =>
    obtain ⟨e, he⟩ := embedDocument_of_not_embeds hemb
    exact .inl ⟨rfl, by rw [he]⟩
  | true =>
    refine .inr ⟨rfl, ?_⟩
    obtain ⟨_, hw⟩ := withFileRows_eq s d
    rw [embedDocument_eq_of_embeds hemb]
    dsimp only
    -- the mark is set when the document is still in the table, and skipped otherwise
    split
    · next db hdb =>
      refine ⟨db.documents, ?_⟩
      rw [withDb, setEmbedded_eq_some hdb, hw]
    · exact ⟨s.db.documents, by rw [hw]⟩

@[simp] theorem embedDocument_files (s : State) (d : Row ProjectDocument) :
    (s.embedDocument d).1.files = s.files := by
  rcases embedDocument_cases s d with ⟨-, h⟩ | ⟨-, _, h⟩ <;> rw [h]

@[simp] theorem embedDocument_wiring (s : State) (d : Row ProjectDocument) :
    (s.embedDocument d).1.wiring = s.wiring := by
  rcases embedDocument_cases s d with ⟨-, h⟩ | ⟨-, _, h⟩ <;> rw [h]

@[simp] theorem embedDocument_libs (s : State) (d : Row ProjectDocument) :
    (s.embedDocument d).1.libs = s.libs := by
  rcases embedDocument_cases s d with ⟨-, h⟩ | ⟨-, _, h⟩ <;> rw [h]

@[simp] theorem embedDocument_projects (s : State) (d : Row ProjectDocument) :
    (s.embedDocument d).1.db.projects = s.db.projects := by
  rcases embedDocument_cases s d with ⟨-, h⟩ | ⟨-, _, h⟩ <;> rw [h]
  simp

theorem embedDocument_embeddings (s : State) (d : Row ProjectDocument) :
    (s.embedDocument d).1.db.embeddings = (s.withFileRows d).db.embeddings := by
  rcases embedDocument_cases s d with ⟨hemb, h⟩ | ⟨-, _, h⟩
  · rw [h, withFileRows_of_not_embeds hemb]
  · rw [h]

theorem embedDocument_entries (s : State) (d : Row ProjectDocument) :
    (s.embedDocument d).1.projectVectors.entries (projectIndex d.val.projectId) =
      (s.written d).foldl MemoryStore.addEntry
        (s.projectVectors.entries (projectIndex d.val.projectId)) := by
  rcases embedDocument_cases s d with ⟨hemb, h⟩ | ⟨-, _, h⟩
  · rw [h, written_of_not_embeds hemb]
    rfl
  · rw [h, MemoryStore.addAll, MemoryStore.entries_setEntries, if_pos rfl]

/-- **A file that has rows gets none**: embedding a document whose file has rows leaves the
stored vectors as they were, whatever happens. -/
theorem embedDocument_keeps_rows {s : State} {d : Row ProjectDocument}
    (hrows : s.db.embeddingsOfFile d.val.fileKey ≠ []) :
    (s.embedDocument d).1.db.embeddings = s.db.embeddings := by
  rw [embedDocument_embeddings, withFileRows_of_ne_nil hrows]

theorem ids_written {s : State} {d : Row ProjectDocument} (h : s.embeds d = true) :
    MemoryStore.ids (s.written d) =
      ((s.withFileRows d).db.embeddingsOfFile d.val.fileKey).map fun r => toString r.id :=
  ids_of_mapM_entries (fun _ _ => rowEntry_ok) (mapM_written h)

theorem withFileRows_of_fresh {s : State} {d : Row ProjectDocument}
    (hrows : s.db.embeddingsOfFile d.val.fileKey = []) {fresh : List EmbeddingRow}
    (hfresh : s.freshRows d = .ok fresh) :
    (s.withFileRows d).db.embeddingsOfFile d.val.fileKey =
      fresh.mapIdx fun i e => (⟨s.db.embeddings.nextId + i, e⟩ : Row EmbeddingRow) := by
  simp only [withFileRows, hrows, if_true, hfresh, withDb, embeddingsOfFile_createEmbeddings,
    List.nil_append, List.filter_eq_self]
  intro r hr
  obtain ⟨i, hi, rfl⟩ := List.mem_mapIdx.mp hr
  simp [(freshRows_ok hfresh _ (List.getElem_mem hi)).1]

/-- The rows of a file once a document's file has its rows: as they were, or, for the document's
own file when it had none, the rows made for it, under keys from `nextId` on. -/
theorem withFileRows_rows (s : State) (d : Row ProjectDocument) (k : String) :
    (s.withFileRows d).db.embeddingsOfFile k = s.db.embeddingsOfFile k ∨
      (s.db.embeddingsOfFile k = [] ∧ d.val.fileKey = k ∧ ∃ fresh, s.freshRows d = .ok fresh ∧
        (s.withFileRows d).db.embeddingsOfFile k =
          fresh.mapIdx fun i e => (⟨s.db.embeddings.nextId + i, e⟩ : Row EmbeddingRow)) := by
  by_cases hrows : s.db.embeddingsOfFile d.val.fileKey = []
  · cases hfresh : s.freshRows d with
    | error e => exact .inl (by simp [withFileRows, hrows, hfresh])
    | ok fresh =>
      by_cases hk : d.val.fileKey = k
      · subst hk
        exact .inr ⟨hrows, rfl, fresh, rfl, withFileRows_of_fresh hrows hfresh⟩
      · -- the made rows all belong to the document's file, not to `k`
        refine .inl ?_
        simp only [withFileRows, hrows, if_true, hfresh, withDb, embeddingsOfFile_createEmbeddings]
        rw [List.filter_eq_nil_iff.mpr, List.append_nil]
        intro r hr
        obtain ⟨i, hi, rfl⟩ := List.mem_mapIdx.mp hr
        simp [(freshRows_ok hfresh _ (List.getElem_mem hi)).1, hk]
  · exact .inl (by rw [withFileRows_of_ne_nil hrows])

theorem embeds_of_fresh {s : State} {d : Row ProjectDocument}
    (hrows : s.db.embeddingsOfFile d.val.fileKey = []) {fresh : List EmbeddingRow}
    (hfresh : s.freshRows d = .ok fresh) : s.embeds d = true := by
  simp [embeds, hrows, hfresh, Except.isOk, Except.toBool]

theorem embeds_of_rows_read {s : State} {d : Row ProjectDocument}
    (hrows : s.db.embeddingsOfFile d.val.fileKey ≠ [])
    (hread : ∀ r ∈ s.db.embeddingsOfFile d.val.fileKey, ∃ v, parseVector r.val.vectors = .ok v) :
    s.embeds d = true := by
  simpa [embeds, List.isEmpty_eq_false_iff.mpr hrows, isOk_iff] using hread

theorem embedDocument_rows (s : State) (d : Row ProjectDocument) (k : String) :
    (s.embedDocument d).1.db.embeddingsOfFile k = (s.withFileRows d).db.embeddingsOfFile k := by
  simp only [Database.embeddingsOfFile, Table.select, embedDocument_embeddings]

theorem written_eq (s : State) (d : Row ProjectDocument) :
    s.written d = (((s.embedDocument d).1.db.embeddingsOfFile d.val.fileKey).mapM
      (rowEntry d.val.name)).toOption.getD [] := by
  rw [embedDocument_rows]
  rfl

theorem written_of_ne_nil {s : State} {d : Row ProjectDocument}
    (hrows : s.db.embeddingsOfFile d.val.fileKey ≠ []) :
    s.written d = ((s.db.embeddingsOfFile d.val.fileKey).mapM
      (rowEntry d.val.name)).toOption.getD [] := by
  rw [written, withFileRows_of_ne_nil hrows]

/-! ## What embedding reads -/

/-- Two states agree on what embedding a document reads: the stored vectors, the files, the
wiring and the libraries. -/
structure SameSources (s t : State) : Prop where
  embeddings : t.db.embeddings = s.db.embeddings
  files : t.files = s.files
  wiring : t.wiring = s.wiring
  libs : t.libs = s.libs

theorem freshRows_congr {s t : State} (hf : t.files = s.files) (hw : t.wiring = s.wiring)
    (hl : t.libs = s.libs) (d : Row ProjectDocument) : t.freshRows d = s.freshRows d := by
  simp only [freshRows, segmentsOf, embedSegments, embedAll, hf, hw, hl]

namespace SameSources

variable {s t : State}

theorem embeddingsOfFile (h : SameSources s t) (k : String) :
    t.db.embeddingsOfFile k = s.db.embeddingsOfFile k := by
  simp only [Database.embeddingsOfFile, Table.select, h.embeddings]

theorem withFileRows (h : SameSources s t) (d : Row ProjectDocument) :
    SameSources (s.withFileRows d) (t.withFileRows d) := by
  refine ⟨?_, by simpa using h.files, by simpa using h.wiring, by simpa using h.libs⟩
  by_cases hrows : s.db.embeddingsOfFile d.val.fileKey = [] <;> cases hfresh : s.freshRows d <;>
    simp [State.withFileRows, hrows, hfresh, h.embeddingsOfFile,
      freshRows_congr h.files h.wiring h.libs,
      withDb, Database.createEmbeddings_eq, h.embeddings]

theorem embeds (h : SameSources s t) (d : Row ProjectDocument) : t.embeds d = s.embeds d := by
  simp only [State.embeds, h.embeddingsOfFile, freshRows_congr h.files h.wiring h.libs]

theorem written (h : SameSources s t) (d : Row ProjectDocument) : t.written d = s.written d := by
  simp only [State.written, (h.withFileRows d).embeddingsOfFile]

end SameSources

@[simp] theorem markedWith_fileKey (ids : List Int) (d : Row ProjectDocument) :
    (markedWith ids d).val.fileKey = d.val.fileKey := by
  unfold markedWith
  split <;> rfl

@[simp] theorem markedWith_projectId (ids : List Int) (d : Row ProjectDocument) :
    (markedWith ids d).val.projectId = d.val.projectId := by
  unfold markedWith
  split <;> rfl

theorem freshRows_markedWith (s : State) (ids : List Int) (d : Row ProjectDocument) :
    s.freshRows (markedWith ids d) = s.freshRows d := by
  unfold markedWith
  split <;> rfl

theorem embeds_markedWith (s : State) (ids : List Int) (d : Row ProjectDocument) :
    s.embeds (markedWith ids d) = s.embeds d := by
  unfold markedWith
  split <;> rfl

theorem written_markedWith (s : State) (ids : List Int) (d : Row ProjectDocument) :
    s.written (markedWith ids d) = s.written d := by
  unfold markedWith
  split <;> rfl

end State

end KnowledgeDesk.Server

import Mathlib
import KnowledgeDesk.Proofs.IndexReload

/-!
# Uploading a file to a dataset

An upload draws a key, stores the file under it, adds the file's record and cuts the file into
segments whose vectors go to the dataset's index. When cutting or embedding fails, the record,
the file and the key's entries are taken away again.

* `isValidKey_uuidText`: every key the generator draws is a file key, so taking a file back
  always deletes it;
* `ingestDatasetFile_cases`: with the in-process index, indexing a file either fails before it
  writes anything, or appends one entry for each segment under ids drawn in turn;
* `addDatasetFile_of_error`: a failed upload leaves the server as it was but for the generator's
  state, the record table's next key and the key's entries;
* `addDatasetFile_all_or_nothing`: a failed upload is `RolledBack`, a successful one `Uploaded`,
  when the keys and ids drawn are new to the server.
-/

namespace KnowledgeDesk

/-! ## Records, stored files and keys -/

namespace Store.Table

theorem remove?_append_fresh {α : Type} {rows : List (Row α)} {i : Int}
    (h : ∀ x ∈ rows, x.id ≠ i) (a : α) (n : Int) :
    (⟨rows ++ [⟨i, a⟩], n⟩ : Table α).remove? i = some (⟨rows, n⟩, ⟨i, a⟩) := by
  have hnone : rows.find? (·.id == i) = none := List.find?_eq_none.mpr (by simpa using h)
  have hkeep : rows.filter (·.id != i) = rows := List.filter_eq_self.mpr (by simpa using h)
  simp [remove?, find?, List.find?_append, hnone, hkeep]

end Store.Table

namespace Files

theorem isHexChar_digit {d : Nat} (hd : d < 16) :
    isHexChar (if d < 10 then Char.ofNat (48 + d) else Char.ofNat (87 + d)) = true := by
  -- sixteen digits, each checked
  revert d
  decide

theorem utf8Size_of_isHexChar {c : Char} (h : isHexChar c = true) : c.utf8Size = 1 := by
  apply Char.utf8Size_eq_one_iff.mpr
  simp only [isHexChar, Bool.or_eq_true, Bool.and_eq_true, decide_eq_true_eq] at h
  -- every hex digit lies at or below the letter f
  have hf : c.val ≤ 'f'.val := by
    rcases h with (⟨_, h⟩ | ⟨_, h⟩) | ⟨_, h⟩
    · exact UInt32.le_trans h (by decide)
    · exact h
    · exact UInt32.le_trans h (by decide)
  exact UInt32.le_trans hf (by decide)

theorem utf8Size_of_keyCharOk {i : Nat} {c : Char} (h : keyCharOk i c = true) : c.utf8Size = 1 := by
  unfold keyCharOk at h
  split at h
  · rw [decide_eq_true_eq] at h
    rw [h]
    rfl
  · exact utf8Size_of_isHexChar h

theorem utf8ByteSize_ofList (l : List Char) :
    (String.ofList l).utf8ByteSize = (l.map Char.utf8Size).sum := by
  induction l with
  | nil => rfl
  | cons c l ih => simp [String.ofList_cons, String.utf8ByteSize_append, ih]

theorem utf8ByteSize_of_ascii {s : String} (h : ∀ c ∈ s.toList, c.utf8Size = 1) :
    s.utf8ByteSize = s.length := by
  rw [← String.ofList_toList (s := s), utf8ByteSize_ofList, List.map_congr_left h]
  simp [String.length_toList]

theorem isValidKey_of_chars {key : String} (hlen : key.length = 36)
    (hok : key.toList.zipIdx.all (fun (c, i) => keyCharOk i c) = true) : isValidKey key = true := by
  have hascii : ∀ c ∈ key.toList, c.utf8Size = 1 := by
    intro c hc
    obtain ⟨i, hi⟩ := List.mem_iff_getElem?.mp hc
    have hmem : (c, i) ∈ key.toList.zipIdx := List.mem_zipIdx_iff_getElem?.mpr hi
    exact utf8Size_of_keyCharOk (List.all_eq_true.mp hok _ hmem)
  simp [isValidKey, utf8ByteSize_of_ascii hascii, hlen, hok]

theorem length_hexDigits (w n : Nat) : (Text.hexDigits w n).toList.length = w := by
  simp [Text.hexDigits]

theorem isHexChar_of_mem_hexDigits {w n : Nat} {c : Char} (h : c ∈ (Text.hexDigits w n).toList) :
    isHexChar c = true := by
  simp only [Text.hexDigits, String.toList_ofList, List.mem_map] at h
  obtain ⟨i, -, rfl⟩ := h
  exact isHexChar_digit (Nat.mod_lt _ (by decide))

theorem all_keyCharOk_of_hex {l : List Char} {n : Nat} (hl : ∀ c ∈ l, isHexChar c = true)
    (hpos : ∀ i, n ≤ i → i < n + l.length → i ≠ 8 ∧ i ≠ 13 ∧ i ≠ 18 ∧ i ≠ 23) :
    (l.zipIdx n).all (fun (c, i) => keyCharOk i c) = true := by
  rw [List.all_eq_true]
  rintro ⟨c, i⟩ hmem
  obtain ⟨hlo, hhi, -⟩ := List.mem_zipIdx hmem
  obtain ⟨h8, h13, h18, h23⟩ := hpos i hlo hhi
  simp [keyCharOk, h8, h13, h18, h23, hl c (List.fst_mem_of_mem_zipIdx hmem)]

/-- **Every key the generator draws is a file key.** -/
theorem isValidKey_uuidText (bits : Nat) : isValidKey (Text.uuidText bits) = true := by
  set cs := (Text.hexDigits 32 bits).toList
  have hlen : cs.length = 32 := length_hexDigits 32 bits
  have htext : (Text.uuidText bits).toList = cs.take 8 ++ '-' :: ((cs.drop 8).take 4 ++ '-' ::
      ((cs.drop 12).take 4 ++ '-' :: ((cs.drop 16).take 4 ++ '-' :: cs.drop 20))) := by
    simp [Text.uuidText, cs]
  apply isValidKey_of_chars
  · rw [← String.length_toList, htext]
    simp [hlen]
  · rw [htext]
    simp only [List.zipIdx_append, List.zipIdx_cons, List.all_append, List.all_cons,
      List.length_take, List.length_drop, hlen, Bool.and_eq_true]
    -- five groups of the digits between four hyphens
    have hgroup : ∀ (l : List Char) (n : Nat), (∀ c ∈ l, c ∈ cs) →
        (∀ i, n ≤ i → i < n + l.length → i ≠ 8 ∧ i ≠ 13 ∧ i ≠ 18 ∧ i ≠ 23) →
        (l.zipIdx n).all (fun (c, i) => keyCharOk i c) = true :=
      fun l n hl hp => all_keyCharOk_of_hex (fun c hc => isHexChar_of_mem_hexDigits (hl c hc)) hp
    refine ⟨hgroup _ _ (fun c => List.mem_of_mem_take) ?_, rfl,
      hgroup _ _ (fun c hc => List.mem_of_mem_drop (List.mem_of_mem_take hc)) ?_, rfl,
      hgroup _ _ (fun c hc => List.mem_of_mem_drop (List.mem_of_mem_take hc)) ?_, rfl,
      hgroup _ _ (fun c hc => List.mem_of_mem_drop (List.mem_of_mem_take hc)) ?_, rfl,
      hgroup _ _ (fun c => List.mem_of_mem_drop) ?_⟩ <;>
    · intro i hlo hhi
      simp only [List.length_take, List.length_drop, hlen] at hlo hhi
      omega

theorem isValidKey_nextUuid (seed : Nat) : isValidKey (Text.nextUuid seed).1 = true :=
  isValidKey_uuidText _

namespace FileStore

variable {fs : FileStore} {k : String}

theorem filter_files_of_fresh (h : k ∉ fs.files.map (·.1)) :
    fs.files.filter (·.1 != k) = fs.files :=
  List.filter_eq_self.mpr fun p hp => by
    have : p.1 ≠ k := fun he => h (List.mem_map.mpr ⟨p, hp, he⟩)
    simpa using this

theorem put_of_fresh (h : k ∉ fs.files.map (·.1)) (b : ByteArray) :
    fs.put k b = ⟨fs.files ++ [(k, b)]⟩ := by
  rw [put, filter_files_of_fresh h]

theorem discard_put_of_fresh (hk : isValidKey k = true) (h : k ∉ fs.files.map (·.1))
    (b : ByteArray) : (fs.put k b).discard k = fs := by
  rw [discard_eq, if_pos hk, put_of_fresh h, List.filter_append, filter_files_of_fresh h]
  simp

end FileStore

end Files

/-! ## Indexing a file -/

namespace Server

open Store Files MemoryStore

def uuidsFrom (seed : Nat) : Nat → List String
  | 0 => []
  | n + 1 => (Text.nextUuid seed).1 :: uuidsFrom (Text.nextUuid seed).2 n

/-- The token budget of a dataset's segments: its own when it sets one, else 300. -/
def segmentBudget (d : Dataset) : Nat :=
  if d.recordMaxTokens > 0 then d.recordMaxTokens.toNat else 300

namespace State

theorem isValidKey_freshUuid (s : State) : isValidKey s.freshUuid.2 = true :=
  isValidKey_nextUuid s.seed

theorem freshEntries_cons (s : State) (info : List (String × String)) (text : String)
    (v : List Float32) (rest : List (String × List Float32)) :
    s.freshEntries info ((text, v) :: rest) =
      ((s.freshUuid.1.freshEntries info rest).1,
        ⟨s.freshUuid.2, v, ⟨text, info⟩⟩ :: (s.freshUuid.1.freshEntries info rest).2) := rfl

theorem freshEntries_fst (s : State) (info : List (String × String))
    (ps : List (String × List Float32)) :
    (s.freshEntries info ps).1 = { s with seed := (s.freshEntries info ps).1.seed } := by
  induction ps generalizing s with
  | nil => rfl
  | cons p rest ih =>
    obtain ⟨text, v⟩ := p
    rw [freshEntries_cons, ih, freshUuid_fst]

theorem ids_freshEntries (s : State) (info : List (String × String))
    (ps : List (String × List Float32)) :
    ids (s.freshEntries info ps).2 = uuidsFrom s.seed ps.length := by
  induction ps generalizing s with
  | nil => rfl
  | cons p rest ih =>
    obtain ⟨text, v⟩ := p
    have hrest := ih s.freshUuid.1
    rw [freshEntries_cons]
    simp only [ids, List.map_cons] at hrest ⊢
    rw [hrest]
    rfl

theorem segments_freshEntries (s : State) (info : List (String × String))
    (ps : List (String × List Float32)) :
    (s.freshEntries info ps).2.map (·.segment) = ps.map fun p => ⟨p.1, info⟩ := by
  induction ps generalizing s with
  | nil => rfl
  | cons p rest ih =>
    obtain ⟨text, v⟩ := p
    rw [freshEntries_cons]
    simp [ih]

theorem embedSegments_length {s : State} {segments : List String} {vs : List (List Float32)}
    (h : s.embedSegments segments = .ok vs) : vs.length = segments.length := by
  unfold embedSegments at h
  cases he : s.embedAll segments with
  | error e => simp [he, Except.mapError, bind, Except.bind] at h
  | ok ws =>
    simp only [he, Except.mapError, bind, Except.bind] at h
    split at h
    · -- counts that differ are an error
      cases h
    next hcount =>
      cases h
      simpa using hcount

/-- The metadata of a dataset file's segments: the file's name and its key. -/
def fileMeta (f : DatasetFile) : List (String × String) :=
  metaOfPairs [(metaFileName, f.name), (metaFileKey, f.fileKey)]

theorem fileMeta_eq (f : DatasetFile) :
    fileMeta f = [(metaFileKey, f.fileKey), (metaFileName, f.name)] := by
  -- the key's name sorts before the file name's
  have hlt : metaFileKey < metaFileName := by decide
  simp [fileMeta, metaOfPairs, setMeta, hlt]

theorem meta?_fileMeta (text : String) (f : DatasetFile) :
    (⟨text, fileMeta f⟩ : TextSegment).meta? metaFileName = some f.name ∧
      (⟨text, fileMeta f⟩ : TextSegment).meta? metaFileKey = some f.fileKey := by
  have hne : metaFileKey ≠ metaFileName := by decide
  simp [TextSegment.meta?, fileMeta_eq, hne]

/-- The segments of a file are those of its text, cut to the budget with five tokens of overlap. -/
theorem segmentsOf_ok {s : State} {bytes : ByteArray} {fileName : String} {maxTokens : Nat}
    {segments : List String} (h : s.segmentsOf bytes fileName maxTokens = .ok segments) :
    ∃ text, Document.extractText s.libs.readers (DocumentKind.ofFileName fileName) bytes = .ok text ∧
      segments = (Document.SplitLimits.new maxTokens 5).split s.libs.tokenizer.count text := by
  unfold segmentsOf at h
  cases hx : Document.extractText s.libs.readers (DocumentKind.ofFileName fileName) bytes with
  | error e => simp [hx, Except.mapError, bind, Except.bind] at h
  | ok text =>
    simp only [hx, Except.mapError, bind, Except.bind, pure, Except.pure, Except.ok.injEq] at h
    exact ⟨text, rfl, h.symm⟩

section Memory

variable {s : State} (hmem : s.wiring.datasetIndex = .memory)
include hmem

theorem datasetAdd_memory (index : String) (es : List EmbeddingEntry) :
    s.datasetAdd index es = .ok { s with datasetVectors := s.datasetVectors.addAll index es } := by
  simp [datasetAdd, hmem]

/-- Indexing a file with the in-process index either fails and changes nothing, or cuts the file
into segments and appends an entry for each to the dataset's index, under ids drawn in turn,
changing only the generator's state and that index. -/
theorem ingestDatasetFile_cases (d : Row Dataset) (f : Row DatasetFile) (bytes : ByteArray) :
    (∃ e, s.ingestDatasetFile d f bytes = (s, .error e)) ∨
    ∃ segments added, s.segmentsOf bytes f.val.name (segmentBudget d.val) = .ok segments ∧
      ids added = uuidsFrom s.seed segments.length ∧
      added.map (·.segment) = segments.map (⟨·, fileMeta f.val⟩) ∧
      (s.ingestDatasetFile d f bytes).2 = .ok added.length ∧
      (s.ingestDatasetFile d f bytes).1 = { s with
        seed := (s.ingestDatasetFile d f bytes).1.seed
        datasetVectors := (s.ingestDatasetFile d f bytes).1.datasetVectors } ∧
      ∀ j, (s.ingestDatasetFile d f bytes).1.datasetVectors.entries j =
        if j = datasetIndex d.id then added.foldl addEntry (s.datasetVectors.entries j)
        else s.datasetVectors.entries j := by
  simp only [ingestDatasetFile]
  rw [show (if d.val.recordMaxTokens > 0 then d.val.recordMaxTokens.toNat else 300) =
    segmentBudget d.val from rfl, show metaOfPairs [(metaFileName, f.val.name),
      (metaFileKey, f.val.fileKey)] = fileMeta f.val from rfl]
  rcases hseg : s.segmentsOf bytes f.val.name (segmentBudget d.val) with e | _ | ⟨seg, segs⟩ <;>
    dsimp only
  · exact .inl ⟨e, rfl⟩
  · -- no segments: nothing is drawn or written
    exact .inr ⟨[], [], rfl, rfl, rfl, rfl, rfl, fun j => by split <;> rfl⟩
  rcases hemb : s.embedSegments (seg :: segs) with e | vectors <;> dsimp only
  · exact .inl ⟨e, rfl⟩
  have hlen := embedSegments_length hemb
  rcases hfe : s.freshEntries (fileMeta f.val) ((seg :: segs).zip vectors) with ⟨t, es⟩
  have ht : t = { s with seed := t.seed } := by
    have := freshEntries_fst s (fileMeta f.val) ((seg :: segs).zip vectors)
    rwa [hfe] at this
  have hwiring : t.wiring.datasetIndex = .memory := by rw [ht]; exact hmem
  have hids := ids_freshEntries s (fileMeta f.val) ((seg :: segs).zip vectors)
  have hsegs := segments_freshEntries s (fileMeta f.val) ((seg :: segs).zip vectors)
  rw [hfe] at hids hsegs
  dsimp only
  rw [datasetAdd_memory hwiring]
  dsimp only
  refine .inr ⟨seg :: segs, es, rfl, ?_, ?_, rfl, ?_, fun j => ?_⟩
  · rw [hids, List.length_zip, hlen, Nat.min_self]
  · -- a vector for each segment, so the texts are the segments
    rw [hsegs]
    conv_rhs => rw [← List.map_fst_zip (show (seg :: segs).length ≤ vectors.length by omega)]
    rw [List.map_map]
    rfl
  · rw [ht]
  · rw [entries_addAll, ht]
    split_ifs with hj
    · subst hj
      rfl
    · rfl

theorem ingestDatasetFile_error {d : Row Dataset} {f : Row DatasetFile} {bytes : ByteArray}
    {e : Failure} (h : (s.ingestDatasetFile d f bytes).2 = .error e) :
    s.ingestDatasetFile d f bytes = (s, .error e) := by
  rcases ingestDatasetFile_cases hmem d f bytes with ⟨e', hi⟩ | ⟨_, added, _, _, _, hok, _⟩
  · rw [hi] at h ⊢
    cases h
    rfl
  · rw [hok] at h
    cases h

end Memory

/-! ## The upload -/

/-- The record an upload to a dataset adds: under the table's next key, naming the key drawn for
its file. -/
def uploadRow (s : State) (datasetId : Int) (name description : String) : Row DatasetFile :=
  ⟨s.db.datasetFiles.nextId, { name, description, datasetId, fileKey := s.freshUuid.2 }⟩

def staged (s : State) (f : Row DatasetFile) (bytes : ByteArray) : State :=
  { s with
    seed := s.freshUuid.1.seed
    files := s.files.put f.val.fileKey bytes
    db := { s.db with
      datasetFiles := ⟨s.db.datasetFiles.rows ++ [f], s.db.datasetFiles.nextId + 1⟩ } }

@[simp] theorem staged_libs (s : State) (f : Row DatasetFile) (bytes : ByteArray) :
    (staged s f bytes).libs = s.libs := rfl

section Upload

variable {s : State} {datasetId : Int} {name description : String} {bytes : ByteArray}
  {d : Row Dataset}

theorem addDatasetFile_of_ok (hd : s.db.datasets.find? datasetId = some d) {n : Nat}
    (hi : ((staged s (uploadRow s datasetId name description) bytes).ingestDatasetFile d
      (uploadRow s datasetId name description) bytes).2 = .ok n) :
    s.addDatasetFile datasetId name description bytes =
      (((staged s (uploadRow s datasetId name description) bytes).ingestDatasetFile d
        (uploadRow s datasetId name description) bytes).1,
        .ok (uploadRow s datasetId name description)) := by
  unfold addDatasetFile
  rw [hd]
  dsimp only
  split
  next u n' heq =>
    simp only [withDb, freshUuid_fst, Table.insert] at heq
    simp only [staged, uploadRow, freshUuid_fst] at hi ⊢
    rw [heq]
    rfl
  next u e heq =>
    simp only [withDb, freshUuid_fst, Table.insert] at heq
    simp only [staged, uploadRow, freshUuid_fst] at hi
    rw [heq] at hi
    cases hi

/-- An upload whose file cannot be indexed takes the record and the file back and removes the
key's entries from the dataset's index. -/
theorem addDatasetFile_of_error (hmem : s.wiring.datasetIndex = .memory)
    (hd : s.db.datasets.find? datasetId = some d)
    (hrow : ∀ r ∈ s.db.datasetFiles.rows, r.id < s.db.datasetFiles.nextId)
    (hfile : s.freshUuid.2 ∉ s.files.files.map (·.1)) {e : Failure}
    (hi : ((staged s (uploadRow s datasetId name description) bytes).ingestDatasetFile d
      (uploadRow s datasetId name description) bytes).2 = .error e) :
    s.addDatasetFile datasetId name description bytes =
      ({ s with
        seed := s.freshUuid.1.seed
        db := { s.db with
          datasetFiles := { s.db.datasetFiles with nextId := s.db.datasetFiles.nextId + 1 } }
        datasetVectors := s.datasetVectors.removeFile (datasetIndex datasetId) s.freshUuid.2 },
        .error e) := by
  have hstaged :=
    ingestDatasetFile_error (s := staged s (uploadRow s datasetId name description) bytes) hmem hi
  unfold addDatasetFile
  rw [hd]
  dsimp only
  split
  next u n heq =>
    simp only [withDb, freshUuid_fst, Table.insert] at heq
    simp only [staged, uploadRow, freshUuid_fst] at hstaged
    rw [heq] at hstaged
    cases hstaged
  next u e' heq =>
    simp only [withDb, freshUuid_fst, Table.insert] at heq
    simp only [staged, uploadRow, freshUuid_fst] at hstaged
    rw [heq] at hstaged
    cases hstaged
    have hfresh : ∀ x ∈ s.db.datasetFiles.rows, x.id ≠ s.db.datasetFiles.nextId :=
      fun x hx => Int.ne_of_lt (hrow x hx)
    simp only [Table.insert, freshUuid_fst, Table.remove?_append_fresh hfresh, withDb,
      datasetRemoveFile, hmem, FileStore.discard_put_of_fresh (isValidKey_freshUuid s) hfile]

end Upload

/-- A failed upload took back all it wrote: `t` is `s` but for the generator's state and the
record table's next key, with the same records, stored files and index entries. -/
structure RolledBack (s t : State) : Prop where
  frame : t = { s with seed := t.seed, db := t.db, datasetVectors := t.datasetVectors }
  rows : t.db.datasetFiles.rows = s.db.datasetFiles.rows
  tables : { t.db with datasetFiles := s.db.datasetFiles } = s.db
  entries : ∀ j, t.datasetVectors.entries j = s.datasetVectors.entries j

/-- An upload of `bytes` named `name` to dataset `datasetId` stored record `f`: `t` is `s` with
the record added to its table, the bytes stored under the record's key, and, in the dataset's
index, one entry for each segment of the text the server's readers find in the file, cut by its
tokenizer, after the entries it had, each with the segment's text and the file's name and key. -/
structure Uploaded (s : State) (datasetId : Int) (name : String) (bytes : ByteArray)
    (f : Row DatasetFile) (t : State) : Prop where
  frame : t = { s with
    seed := t.seed
    db := { s.db with
      datasetFiles := ⟨s.db.datasetFiles.rows ++ [f], s.db.datasetFiles.nextId + 1⟩ }
    files := ⟨s.files.files ++ [(f.val.fileKey, bytes)]⟩
    datasetVectors := t.datasetVectors }
  others : ∀ j ≠ datasetIndex datasetId, t.datasetVectors.entries j = s.datasetVectors.entries j
  indexed : ∃ d text added, s.db.datasets.find? datasetId = some d ∧
    Document.extractText s.libs.readers (DocumentKind.ofFileName name) bytes = .ok text ∧
    t.datasetVectors.entries (datasetIndex datasetId) =
      s.datasetVectors.entries (datasetIndex datasetId) ++ added ∧
    added.map (·.segment.text) =
      (Document.SplitLimits.new (segmentBudget d.val) 5).split s.libs.tokenizer.count text ∧
    ∀ e ∈ added, e.segment.meta? metaFileName = some name ∧
      e.segment.meta? metaFileKey = some f.val.fileKey

/-- **An upload to a dataset is all or nothing.** With the in-process index, on a server whose
record keys lie below the table's next key, where the key it draws names no stored file and no
entry of the dataset's index, and where the ids it draws for the file's segments are new to the
index: a failed upload leaves every record, stored file and index entry as it was, and a
successful one adds the record under the next key with the drawn key, the bytes under that key,
and one entry for each segment of the file, changing no other index. -/
theorem addDatasetFile_all_or_nothing (s : State) (datasetId : Int) (name description : String)
    (bytes : ByteArray) (hmem : s.wiring.datasetIndex = .memory)
    (hrow : ∀ r ∈ s.db.datasetFiles.rows, r.id < s.db.datasetFiles.nextId)
    (hfile : s.freshUuid.2 ∉ s.files.files.map (·.1))
    (hentry : ∀ e ∈ s.datasetVectors.entries (datasetIndex datasetId),
      e.segment.meta? metaFileKey ≠ some s.freshUuid.2)
    (hids : ∀ d segments, s.db.datasets.find? datasetId = some d →
      s.segmentsOf bytes name (segmentBudget d.val) = .ok segments →
      (ids (s.datasetVectors.entries (datasetIndex datasetId)) ++
        uuidsFrom s.freshUuid.1.seed segments.length).Nodup) :
    let r := s.addDatasetFile datasetId name description bytes
    (∀ e, r.2 = .error e → RolledBack s r.1) ∧
    (∀ f, r.2 = .ok f →
      f = ⟨s.db.datasetFiles.nextId, { name, description, datasetId, fileKey := s.freshUuid.2 }⟩ ∧
      Uploaded s datasetId name bytes f r.1) := by
  intro r
  cases hd : s.db.datasets.find? datasetId with
  | none =>
    -- no such dataset: nothing is drawn or written
    have hr : r = (s, .error (.notFound s!"Dataset {datasetId}")) := by
      simp [r, addDatasetFile, hd]
    rw [hr]
    exact ⟨fun _ _ => ⟨rfl, rfl, rfl, fun _ => rfl⟩, fun _ h => nomatch h⟩
  | some d =>
    have hid : d.id = datasetId := by simpa using List.find?_some hd
    have hmem' : (staged s (uploadRow s datasetId name description) bytes).wiring.datasetIndex =
      .memory := hmem
    rcases ingestDatasetFile_cases hmem' d (uploadRow s datasetId name description) bytes with
      ⟨e, hi⟩ | ⟨segments, added, hseg, haddedIds, hsegs, hok, hframe, hentries⟩
    · -- indexing failed: the record, the file and the key's entries are taken back
      have hr : r = _ := addDatasetFile_of_error hmem hd hrow hfile (congrArg Prod.snd hi)
      rw [hr]
      refine ⟨fun _ _ => ⟨rfl, rfl, rfl, fun j => ?_⟩, fun _ h => nomatch h⟩
      rw [entries_removeFile]
      split_ifs with hj
      · subst hj
        exact List.filter_eq_self.mpr fun x hx => by simpa using hentry x hx
      · rfl
    · have hr : r = _ := addDatasetFile_of_ok hd hok
      rw [hr]
      refine ⟨fun _ h => (nomatch h), fun f hf => ?_⟩
      cases hf
      have hindex : datasetIndex datasetId = datasetIndex d.id := by rw [hid]
      refine ⟨rfl, ⟨?_, fun j hj => ?_, ?_⟩⟩
      · -- only the seed, the record table, the files and the index entries change
        have hput : s.files.put (uploadRow s datasetId name description).val.fileKey bytes =
            ⟨s.files.files ++ [((uploadRow s datasetId name description).val.fileKey, bytes)]⟩ :=
          FileStore.put_of_fresh hfile bytes
        dsimp only
        conv_lhs => rw [hframe]
        simp only [staged, hput]
      · rw [hentries j, if_neg (by rwa [← hindex])]
        rfl
      · obtain ⟨text, hx, hsplit⟩ := segmentsOf_ok hseg
        refine ⟨d, text, added, hd, hx, ?_, ?_, fun e he => ?_⟩
        · -- the drawn ids are new, so the entries come after the index's own
          rw [hentries, if_pos hindex, hindex]
          exact foldl_addEntry_fresh
            (by rw [ids_append, haddedIds, ← hindex]; exact hids d segments hd hseg)
        · have htexts := congrArg (List.map TextSegment.text) hsegs
          simpa [hsplit, Function.comp_def] using htexts
        · have hmem : e.segment ∈
              segments.map (⟨·, fileMeta (uploadRow s datasetId name description).val⟩) :=
            hsegs ▸ List.mem_map_of_mem he
          obtain ⟨t, -, ht⟩ := List.mem_map.mp hmem
          rw [← ht]
          exact meta?_fileMeta t _

/-- A server with dataset 1 holding `a.txt` under `sharedKey`, whose one segment is indexed. -/
def pdfUploadServer : State where
  wiring := ⟨.model (.keywords ["apple"] none false), .model (.ofTokens ["ok"] none),
    .memory, ⟨"m", 5, 0.75, 10⟩, none⟩
  libs := Libraries.builtin .unreachable
  db := { datasets := ⟨[⟨1, { name := "d" }⟩], 2⟩,
          datasetFiles := ⟨[⟨1, { name := "a.txt", datasetId := 1, fileKey := sharedKey }⟩], 2⟩ }
  files := ⟨[(sharedKey, "apple".toByteArray)]⟩
  datasetVectors := ⟨[(datasetIndex 1,
    [⟨"e1", [1], ⟨"apple", fileMeta { name := "a.txt", fileKey := sharedKey }⟩⟩])]⟩
  clock := 0
  seed := 0

/-- **An upload that cannot be indexed is taken back.** Uploading `x.pdf`, which holds no PDF, to
dataset 1 fails, and the record of `a.txt`, its stored file and its indexed segment stay as they
were. -/
theorem pdf_upload_rolls_back :
    ∃ e, (pdfUploadServer.addDatasetFile 1 "x.pdf" "" "apple".toByteArray).2 = .error e ∧
      RolledBack pdfUploadServer
        (pdfUploadServer.addDatasetFile 1 "x.pdf" "" "apple".toByteArray).1 := by
  have hids : ∀ d segments, pdfUploadServer.db.datasets.find? 1 = some d →
      pdfUploadServer.segmentsOf "apple".toByteArray "x.pdf" (segmentBudget d.val) =
        .ok segments →
      (ids (pdfUploadServer.datasetVectors.entries (datasetIndex 1)) ++
        uuidsFrom pdfUploadServer.freshUuid.1.seed segments.length).Nodup := by
    intro d segments _ hseg
    obtain ⟨text, htext, -⟩ := segmentsOf_ok hseg
    obtain ⟨e, he⟩ := extractText_apple_pdf
    -- the server's readers are the library's own
    cases htext.symm.trans he
  have hupload := addDatasetFile_all_or_nothing pdfUploadServer 1 "x.pdf" "" "apple".toByteArray
    rfl (by decide) (by decide +kernel) (by decide +kernel) hids
  cases hr : (pdfUploadServer.addDatasetFile 1 "x.pdf" "" "apple".toByteArray).2 with
  | error e => exact ⟨e, rfl, hupload.1 e hr⟩
  | ok f =>
    -- a stored upload would have a text
    obtain ⟨-, ⟨-, -, ⟨d, text, added, -, htext, -⟩⟩⟩ := hupload.2 f hr
    obtain ⟨e, he⟩ := extractText_apple_pdf
    -- the server's readers are the library's own
    cases htext.symm.trans he

end State

end Server

end KnowledgeDesk

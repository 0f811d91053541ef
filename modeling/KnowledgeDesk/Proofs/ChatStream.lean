import KnowledgeDesk.Provider.Stream
import KnowledgeDesk.Json.Read

/-!
# A streamed answer reads the same whatever its chunks

The body of a streamed chat answer arrives in chunks cut anywhere: inside a line, inside a JSON
object, inside a character. `readChatStream` keeps the bytes after the last line feed until the
next chunk and reads each line once a line feed completes it. This module proves that the cuts do
not matter: for a success status, the tokens passed on and the answer are those of reading the
lines of the whole body (`referenceRead`), and whatever the response, an answer returned is the
tokens passed on, joined.

The argument has three parts, one per loop of the reader.

* `completeLines_append`: completing lines across a cut, with the pending bytes carried over,
  completes the lines of the whole; `completeLines_fst` names them with `List.splitOn`.
* `readLines_append`: reading two runs of lines is reading the first, then the second if the
  first did not stop.
* `readChunks_ok`: the run lemma, by induction on the chunks with the pending bytes generalized.
-/

namespace KnowledgeDesk

/-! ### Lines -/

/-- The lines of some bytes that a line feed ends, each with its line feed; the bytes after the
last line feed are no line. -/
def terminatedLines (bs : List UInt8) : List (List UInt8) :=
  ((bs.splitOn 10).dropLast).map (· ++ [10])

theorem completeLines_lf (line rest : List UInt8) :
    completeLines line (10 :: rest) =
      ((line ++ [10]) :: (completeLines [] rest).1, (completeLines [] rest).2) := rfl

theorem completeLines_of_ne {b : UInt8} (hb : b ≠ 10) (line rest : List UInt8) :
    completeLines line (b :: rest) = completeLines (line ++ [b]) rest := by
  simp [completeLines, hb]

/-- Completing lines over two runs of bytes, the pending bytes of the first carried into the
second, completes the lines of both together. -/
theorem completeLines_append (line x y : List UInt8) :
    completeLines line (x ++ y) =
      ((completeLines line x).1 ++ (completeLines (completeLines line x).2 y).1,
        (completeLines (completeLines line x).2 y).2) := by
  induction x generalizing line with
  | nil => rfl
  | cons b x ih =>
    by_cases hb : b = 10
    · subst hb
      rw [List.cons_append, completeLines_lf, completeLines_lf, ih]
      rfl
    · rw [List.cons_append, completeLines_of_ne hb, completeLines_of_ne hb, ih]

/-- The lines completed after a start with no line feed in it are the terminated lines of the
start and the bytes together. -/
theorem completeLines_fst {line : List UInt8} (hline : 10 ∉ line) (bs : List UInt8) :
    (completeLines line bs).1 = terminatedLines (line ++ bs) := by
  induction bs generalizing line with
  | nil =>
    rw [List.append_nil, terminatedLines, List.splitOn_eq_singleton hline]
    rfl
  | cons b bs ih =>
    by_cases hb : b = 10
    · subst hb
      rw [completeLines_lf, terminatedLines, List.splitOn_append_cons_self_of_not_mem hline,
        List.dropLast_cons_of_ne_nil (List.splitOn_ne_nil _ _), List.map_cons, ih List.not_mem_nil]
      rfl
    · have hline' : 10 ∉ line ++ [b] := by simp [hline, Ne.symm hb]
      rw [completeLines_of_ne hb, ih hline']
      simp

theorem completeLines_nil_fst (bs : List UInt8) : (completeLines [] bs).1 = terminatedLines bs :=
  completeLines_fst List.not_mem_nil bs

/-! ### Reading lines -/

variable (json : Json.Codec)

def thenRead : Gathered × LinesEnd → List (List UInt8) → Gathered × LinesEnd
  | (g, .more), ls => readLines json g ls
  | stopped, _ => stopped

/-- The answer once the lines read have stopped it, or once the stream ends after them. -/
def answerAfter : Gathered × LinesEnd → Gathered × Except ProviderError String
  | (g, .failed e) => (g, .error e)
  | (g, _) => (g, .ok g.text)

theorem answerAfter_fst (r : Gathered × LinesEnd) : (answerAfter r).1 = r.1 := by
  obtain ⟨g, _ | _ | e⟩ := r <;> rfl

theorem answerAfter_answer {r : Gathered × LinesEnd} {answer : String}
    (h : (answerAfter r).2 = .ok answer) : answer = (answerAfter r).1.text := by
  obtain ⟨g, _ | _ | e⟩ := r
  · exact (Except.ok.inj h).symm
  · exact (Except.ok.inj h).symm
  · cases h

theorem readLines_append (g : Gathered) (ls ls' : List (List UInt8)) :
    readLines json g (ls ++ ls') = thenRead json (readLines json g ls) ls' := by
  induction ls generalizing g with
  | nil => rfl
  | cons l ls ih =>
    simp only [List.cons_append, readLines]
    cases parseStreamLine json (Text.stringOfBytesLossy l) with
    | error e => rfl
    | ok line =>
      cases line with
      | token t => exact ih _
      | done => rfl
      | skip => exact ih g

/-! ### Reading chunks -/

/-- A chunk that arrives: the lines it completes are read, and the rest of the chunks only if
those lines did not stop the answer. -/
theorem readChunks_cons_ok (g : Gathered) (pending c : List UInt8)
    (rest : List (Except String (List UInt8))) :
    readChunks json g pending (.ok c :: rest) =
      match readLines json g (completeLines pending c).1 with
      | (g', .more) => readChunks json g' (completeLines pending c).2 rest
      | stopped => answerAfter stopped := by
  rcases hc : completeLines pending c with ⟨lines, rest'⟩
  rcases hr : readLines json g lines with ⟨g', _ | _ | e⟩ <;> simp only [readChunks, hc, hr] <;>
    rfl

/-- Reading chunks that all arrive is reading the lines that the pending bytes and the chunks
complete together. -/
theorem readChunks_ok (g : Gathered) (pending : List UInt8) (chunks : List (List UInt8)) :
    readChunks json g pending (chunks.map .ok) =
      answerAfter (readLines json g (completeLines pending chunks.flatten).1) := by
  induction chunks generalizing g pending with
  | nil => rfl
  | cons c cs ih =>
    rw [List.map_cons, List.flatten_cons, readChunks_cons_ok, completeLines_append,
      readLines_append]
    rcases readLines json g (completeLines pending c).1 with ⟨g', _ | _ | e⟩
    · exact ih g' _
    · rfl
    · rfl

theorem readChunks_answer {g : Gathered} {pending : List UInt8}
    {chunks : List (Except String (List UInt8))} {answer : String}
    (h : (readChunks json g pending chunks).2 = .ok answer) :
    answer = (readChunks json g pending chunks).1.text := by
  induction chunks generalizing g pending with
  | nil => simpa [readChunks] using h.symm
  | cons c cs ih =>
    cases c with
    | error e => simp [readChunks] at h
    | ok c =>
      rw [readChunks_cons_ok] at h ⊢
      rcases hr : readLines json g (completeLines pending c).1 with ⟨g', _ | _ | e⟩ <;>
        rw [hr] at h
      · exact ih h
      · exact answerAfter_answer h
      · exact answerAfter_answer h

/-! ### The text is the tokens joined -/

def Gathered.Joined (g : Gathered) : Prop := g.text = String.join g.sent

theorem Gathered.Joined.token {g : Gathered} (hg : g.Joined) (t : String) :
    Gathered.Joined ⟨g.text ++ t, g.sent ++ [t]⟩ := by
  unfold Gathered.Joined at hg ⊢
  simp [hg, String.join_append]

theorem readLines_joined {g : Gathered} (hg : g.Joined) (ls : List (List UInt8)) :
    (readLines json g ls).1.Joined := by
  induction ls generalizing g with
  | nil => exact hg
  | cons l ls ih =>
    simp only [readLines]
    cases parseStreamLine json (Text.stringOfBytesLossy l) with
    | error e => exact hg
    | ok line =>
      cases line with
      | token t => exact ih (hg.token t)
      | done => exact hg
      | skip => exact ih hg

theorem readChunks_joined {g : Gathered} (hg : g.Joined) (pending : List UInt8)
    (chunks : List (Except String (List UInt8))) : (readChunks json g pending chunks).1.Joined := by
  induction chunks generalizing g pending with
  | nil => exact hg
  | cons c cs ih =>
    cases c with
    | error e => exact hg
    | ok c =>
      -- the lines of the chunk keep the text joined, and so does the rest of the stream
      have hl := readLines_joined json hg (completeLines pending c).1
      rw [readChunks_cons_ok]
      rcases hr : readLines json g (completeLines pending c).1 with ⟨g', _ | _ | e⟩ <;>
        rw [hr] at hl
      · exact ih hl _
      · exact hl
      · exact hl

/-! ### The whole body at once -/

/-- Read whole lines in order: each token is added, the first line that ends the answer stops
it, the first that fails fails it, and the answer is the tokens joined. -/
def readWhole (sent : List String) : List (List UInt8) → List String × Except ProviderError String
  | [] => (sent, .ok (String.join sent))
  | l :: ls =>
    match parseStreamLine json (Text.stringOfBytesLossy l) with
    | .error e => (sent, .error e)
    | .ok .done => (sent, .ok (String.join sent))
    | .ok .skip => readWhole sent ls
    | .ok (.token t) => readWhole (sent ++ [t]) ls

def referenceRead (body : List UInt8) : List String × Except ProviderError String :=
  readWhole json [] (terminatedLines body)

/-- Reading lines one run after another, from a gathering whose text is its tokens joined, is
reading them whole. -/
theorem readWhole_eq {g : Gathered} (hg : g.Joined) (ls : List (List UInt8)) :
    readWhole json g.sent ls =
      ((readLines json g ls).1.sent, (answerAfter (readLines json g ls)).2) := by
  induction ls generalizing g with
  | nil => simp [readWhole, readLines, answerAfter, Eq.symm hg]
  | cons l ls ih =>
    simp only [readWhole, readLines]
    cases parseStreamLine json (Text.stringOfBytesLossy l) with
    | error e => rfl
    | ok line =>
      cases line with
      | token t => exact ih (hg.token t)
      | done => simp [answerAfter, Eq.symm hg]
      | skip => exact ih hg

theorem readChatStream_of_success {resp : ChatResponse} (h : isSuccess resp.status) :
    readChatStream json resp =
      ((readChunks json {} [] resp.chunks).1.sent, (readChunks json {} [] resp.chunks).2) := by
  rw [readChatStream, if_pos h]

theorem readChatStream_of_failure {resp : ChatResponse} (h : ¬isSuccess resp.status) :
    readChatStream json resp = ([], .error (.status resp.status resp.text)) := by
  rw [readChatStream, if_neg h]

/-- Whatever the JSON reader, for a success status, a body read in any chunks passes on the tokens
and gives the answer of reading its terminated lines whole; any other status fails with the
body's text before a line is read. Whatever the response, an answer returned is the tokens passed
on, joined. -/
theorem chat_stream_reads_whole_lines (resp : ChatResponse) :
    (∀ chunks : List (List UInt8), resp.chunks = chunks.map .ok →
      readChatStream json resp =
        if isSuccess resp.status then referenceRead json chunks.flatten
        else ([], .error (.status resp.status resp.text))) ∧
    ∀ answer, (readChatStream json resp).2 = .ok answer →
      answer = String.join (readChatStream json resp).1 := by
  have hjoined : Gathered.Joined {} := rfl
  constructor
  · intro chunks hchunks
    by_cases hs : isSuccess resp.status
    · rw [if_pos hs, readChatStream_of_success json hs, hchunks, readChunks_ok, answerAfter_fst,
        completeLines_nil_fst, referenceRead]
      exact (readWhole_eq json hjoined _).symm
    · rw [if_neg hs, readChatStream_of_failure json hs]
  · intro answer h
    by_cases hs : isSuccess resp.status
    · rw [readChatStream_of_success json hs] at h ⊢
      rw [readChunks_answer json h]
      exact readChunks_joined json hjoined [] resp.chunks
    · rw [readChatStream_of_failure json hs] at h
      cases h

/-- A line cut inside its text by the chunks reads as the whole line. -/
theorem chat_stream_line_across_chunks :
    readChatStream Json.builtinCodec ⟨200, "", [.ok [100, 97, 116, 97], .ok [58, 10]]⟩ =
      referenceRead Json.builtinCodec [100, 97, 116, 97, 58, 10] := by
  have h := (chat_stream_reads_whole_lines Json.builtinCodec
    ⟨200, "", [.ok [100, 97, 116, 97], .ok [58, 10]]⟩).1 [[100, 97, 116, 97], [58, 10]] rfl
  rwa [if_pos (by decide)] at h

/-- An error status is not read as a stream: an empty body with status 500 fails the answer,
where reading its lines would give the empty answer. -/
theorem chat_stream_error_status_unread :
    readChatStream Json.builtinCodec ⟨500, "", []⟩ ≠ referenceRead Json.builtinCodec [] := by
  rw [readChatStream_of_failure Json.builtinCodec (by decide)]
  simp [referenceRead, terminatedLines, readWhole]

end KnowledgeDesk

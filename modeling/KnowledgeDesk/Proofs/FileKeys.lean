import KnowledgeDesk.Proofs.DatasetUpload
import Mathlib.Algebra.Order.BigOperators.Group.List

/-!
# File keys

A stored file is named by its key, and a key is accepted when it is 36 bytes long and a parser
of UUIDs reads it (`keyAccepted`). That parser reads four spellings of a UUID (`UuidSpelling`):
32 hex digits, the hyphenated groups of 8, 4, 4, 4 and 12 digits, that form in braces, and that
form after `urn:uuid:`. Only the hyphenated one is 36 bytes long, so:

* `keyAccepted_eq_isValidKey`: for every parser that reads only those spellings and reads every
  hyphenated one, the check is the store's own `isValidKey`;
* `isValidKey_iff_keyBytes`: which accepts a key exactly when its bytes are `-` at 8, 13, 18 and
  23 and ASCII hex digits of either case elsewhere (`KeyBytes`);
* `ne_of_isValidKey`: so an accepted key holds no `/`, `\` or `.` and names a file directly in
  the store, while the store refuses every other key before looking (`FileStore.read_of_invalid`,
  `FileStore.delete_of_invalid`);
* `refusesBadKeys_datasetFiles`, `refusesBadKeys_documents`: the administration refuses, with a
  400 and no change, a dataset file or document record that names any other key.

Bytes and characters meet in one place: a text whose characters are one byte each is the list
of their codes (`toUTF8_of_ascii`), and a text whose bytes are all below 128 is the list of the
characters of those bytes (`toList_of_ascii_bytes`).
-/

namespace KnowledgeDesk

namespace Files

open Text

/-! ## The bytes of a key -/

def isHexByte (b : UInt8) : Bool :=
  (48 ≤ b && b ≤ 57) || (97 ≤ b && b ≤ 102) || (65 ≤ b && b ≤ 70)

/-- Whether the byte at a position of a key is right: `-` at 8, 13, 18 and 23, a hex digit
elsewhere. -/
def keyByteOk (i : Nat) (b : UInt8) : Bool :=
  if i = 8 || i = 13 || i = 18 || i = 23 then b = 45 else isHexByte b

/-- The bytes of a file key: 36 of them, each right at its position. -/
def KeyBytes (key : String) : Prop :=
  key.toUTF8.size = 36 ∧ ∀ (i : Nat) (h : i < key.toUTF8.size), keyByteOk i key.toUTF8[i] = true

theorem keyByteOk_toUInt8 {c : Char} (hc : c.val.toNat < 128) (i : Nat) :
    keyByteOk i c.val.toUInt8 = keyCharOk i c := by
  have hb : c.val.toUInt8.toNat = c.val.toNat := by
    rw [UInt32.toNat_toUInt8]
    exact Nat.mod_eq_of_lt (by omega)
  unfold keyByteOk keyCharOk isHexByte isHexChar
  split
  · simp only [decide_eq_decide]
    constructor
    · intro h
      apply Char.ext
      apply UInt32.toNat_inj.mp
      have h45 := congrArg UInt8.toNat h
      rw [hb] at h45
      rw [h45]
      rfl
    · rintro rfl
      rfl
  · -- the ranges compared on the codes
    simp only [UInt8.le_iff_toNat_le, Char.le_def, UInt32.le_iff_toNat_le, hb]
    have h0 : '0'.val.toNat = 48 := rfl
    have h9 : '9'.val.toNat = 57 := rfl
    have ha : 'a'.val.toNat = 97 := rfl
    have hf : 'f'.val.toNat = 102 := rfl
    have hA : 'A'.val.toNat = 65 := rfl
    have hF : 'F'.val.toNat = 70 := rfl
    simp only [h0, h9, ha, hf, hA, hF]
    rfl

theorem toNat_lt_of_keyByteOk {i : Nat} {b : UInt8} (h : keyByteOk i b = true) :
    b.toNat < 128 := by
  unfold keyByteOk isHexByte at h
  split at h
  · rw [decide_eq_true_eq] at h
    rw [h]
    decide
  · simp only [Bool.or_eq_true, Bool.and_eq_true, decide_eq_true_eq, UInt8.le_iff_toNat_le] at h
    have h57 : (57 : UInt8).toNat = 57 := rfl
    have h102 : (102 : UInt8).toNat = 102 := rfl
    have h70 : (70 : UInt8).toNat = 70 := rfl
    omega

theorem val_toNat_lt_of_keyCharOk {i : Nat} {c : Char} (h : keyCharOk i c = true) :
    c.val.toNat < 128 := by
  have hle := Char.utf8Size_eq_one_iff.mp (utf8Size_of_keyCharOk h)
  rw [UInt32.le_iff_toNat_le] at hle
  exact Nat.lt_succ_of_le hle

theorem val_toNat_ofNat {n : Nat} (h : n < 128) : (Char.ofNat n).val.toNat = n := by
  rw [Char.ofNat, dif_pos (Or.inl (by omega))]
  rfl

theorem utf8Encode_of_ascii : ∀ {l : List Char}, (∀ c ∈ l, c.utf8Size = 1) →
    l.utf8Encode = (l.map (·.val.toUInt8)).toByteArray
  | [], _ => rfl
  | c :: l, h => by
    have hc : c.utf8Size = 1 := h c List.mem_cons_self
    have hl := utf8Encode_of_ascii (fun d hd => h d (List.mem_cons_of_mem c hd))
    rw [List.utf8Encode_cons, List.utf8Encode_singleton, String.utf8EncodeChar_eq_singleton hc, hl,
      ← List.toByteArray_append]
    rfl

theorem toUTF8_of_ascii {s : String} (h : ∀ c ∈ s.toList, c.utf8Size = 1) :
    s.toUTF8 = (s.toList.map (·.val.toUInt8)).toByteArray := by
  rw [String.toUTF8_eq_toByteArray, ← String.utf8Encode_toList, utf8Encode_of_ascii h]

/-- A text whose bytes are all below 128 is the characters of its bytes: both lists of
characters encode to the same bytes, and decoding those gives each of them back. -/
theorem toList_of_ascii_bytes {s : String} (h : ∀ b ∈ s.toUTF8.data.toList, b.toNat < 128) :
    s.toList = s.toUTF8.data.toList.map (fun b => Char.ofNat b.toNat) := by
  set l := s.toUTF8.data.toList.map (fun b => Char.ofNat b.toNat) with hl
  have hascii : ∀ c ∈ l, c.utf8Size = 1 := by
    intro c hc
    obtain ⟨b, hb, rfl⟩ := List.mem_map.mp hc
    apply Char.utf8Size_eq_one_iff.mpr
    rw [UInt32.le_iff_toNat_le, val_toNat_ofNat (h b hb)]
    exact Nat.le_of_lt_succ (h b hb)
  have hbytes : l.map (·.val.toUInt8) = s.toUTF8.data.toList := by
    rw [hl, List.map_map]
    conv_rhs => rw [← List.map_id s.toUTF8.data.toList]
    apply List.map_congr_left
    intro b hb
    apply UInt8.toNat_inj.mp
    simp only [Function.comp_apply, id_eq, UInt32.toNat_toUInt8, val_toNat_ofNat (h b hb)]
    exact Nat.mod_eq_of_lt (by have := h b hb; omega)
  have henc : s.toList.utf8Encode = l.utf8Encode := by
    rw [utf8Encode_of_ascii hascii, hbytes, String.utf8Encode_toList]
    apply ByteArray.ext
    rw [List.data_toByteArray, Array.toArray_toList]
    rfl
  have hdec := congrArg ByteArray.utf8Decode? henc
  rw [List.utf8Decode?_utf8Encode, List.utf8Decode?_utf8Encode, Option.some.injEq] at hdec
  exact List.toArray_inj hdec

theorem isValidKey_iff_chars (key : String) :
    isValidKey key = true ↔ key.utf8ByteSize = 36 ∧
      ∀ (i : Nat) (c : Char), key.toList[i]? = some c → keyCharOk i c = true := by
  simp only [isValidKey, Bool.and_eq_true, decide_eq_true_eq, List.all_eq_true, Prod.forall]
  exact and_congr_right fun _ =>
    ⟨fun h i c hc => h c i (List.mem_zipIdx_iff_getElem?.mpr hc),
      fun h c i hc => h i c (List.mem_zipIdx_iff_getElem?.mp hc)⟩

/-- **The store's check reads bytes**: it accepts a key exactly when the key's bytes are those
of a file key. -/
theorem isValidKey_iff_keyBytes (key : String) : isValidKey key = true ↔ KeyBytes key := by
  rw [isValidKey_iff_chars]
  constructor
  · rintro ⟨hsize, hok⟩
    -- every character is one of the ASCII characters a key allows, so each is its own byte
    have hascii : ∀ c ∈ key.toList, c.val.toNat < 128 := by
      intro c hc
      obtain ⟨i, hi⟩ := List.mem_iff_getElem?.mp hc
      exact val_toNat_lt_of_keyCharOk (hok i c hi)
    have hbytes := toUTF8_of_ascii fun c hc => Char.utf8Size_eq_one_iff.mpr
      (UInt32.le_iff_toNat_le.mpr (Nat.le_of_lt_succ (hascii c hc)))
    refine ⟨by rw [← hsize, String.toUTF8_eq_toByteArray, String.size_toByteArray],
      fun i hi => ?_⟩
    have hlen : i < key.toList.length := by
      rw [hbytes, List.size_toByteArray, List.length_map] at hi
      exact hi
    have hget : key.toUTF8[i] = key.toList[i].val.toUInt8 := by
      simp only [hbytes, List.getElem_toByteArray, List.getElem_map]
    rw [hget, keyByteOk_toUInt8 (hascii _ (List.getElem_mem hlen))]
    exact hok i _ (List.getElem?_eq_getElem hlen)
  · rintro ⟨hsize, hok⟩
    have hbyte : ∀ (i : Nat) (b : UInt8), key.toUTF8.data.toList[i]? = some b →
        keyByteOk i b = true := by
      intro i b hb
      obtain ⟨hi, rfl⟩ := List.getElem?_eq_some_iff.mp hb
      have hi' : i < key.toUTF8.size := by simpa using hi
      simpa [ByteArray.getElem_eq_getElem_data] using hok i hi'
    -- every byte is ASCII, so the characters are those of the bytes
    have hascii : ∀ b ∈ key.toUTF8.data.toList, b.toNat < 128 := by
      intro b hb
      obtain ⟨i, hi⟩ := List.mem_iff_getElem?.mp hb
      exact toNat_lt_of_keyByteOk (hbyte i b hi)
    refine ⟨by rw [← String.size_toByteArray, ← String.toUTF8_eq_toByteArray]; exact hsize,
      fun i c hc => ?_⟩
    rw [toList_of_ascii_bytes hascii, List.getElem?_map] at hc
    obtain ⟨b, hb, rfl⟩ := Option.map_eq_some_iff.mp hc
    have hb128 := toNat_lt_of_keyByteOk (hbyte i b hb)
    have hround : (Char.ofNat b.toNat).val.toUInt8 = b := by
      apply UInt8.toNat_inj.mp
      rw [UInt32.toNat_toUInt8, val_toNat_ofNat hb128]
      exact Nat.mod_eq_of_lt (by omega)
    rw [← keyByteOk_toUInt8 (by rw [val_toNat_ofNat hb128]; exact hb128), hround]
    exact hbyte i b hb

/-! ## The spellings of a UUID -/

def HexRun (n : Nat) (cs : List Char) : Prop := cs.length = n ∧ ∀ c ∈ cs, isHexChar c = true

/-- The hyphenated spelling of a UUID: groups of 8, 4, 4, 4 and 12 hex digits joined by `-`. -/
def Hyphenated (cs : List Char) : Prop :=
  ∃ a b c d e, HexRun 8 a ∧ HexRun 4 b ∧ HexRun 4 c ∧ HexRun 4 d ∧ HexRun 12 e ∧
    cs = a ++ '-' :: (b ++ '-' :: (c ++ '-' :: (d ++ '-' :: e)))

/-- The spellings of a UUID its parser reads: 32 hex digits, the hyphenated spelling, that
spelling in braces, and that spelling after `urn:uuid:` written in either case. -/
inductive UuidSpelling : List Char → Prop
  | simple {cs : List Char} : HexRun 32 cs → UuidSpelling cs
  | hyphenated {cs : List Char} : Hyphenated cs → UuidSpelling cs
  | braced {cs : List Char} : Hyphenated cs → UuidSpelling ('{' :: cs ++ ['}'])
  | urn {p cs : List Char} : p.map Char.toLower = "urn:uuid:".toList → Hyphenated cs →
      UuidSpelling (p ++ cs)

/-- The check of a file key: 36 bytes long, and read by `parse`, a parser of UUIDs. -/
def keyAccepted (parse : String → Bool) (key : String) : Bool :=
  key.utf8ByteSize = 36 && parse key

theorem hexRun_of_keyChars {cs : List Char} (hok : ∀ i c, cs[i]? = some c → keyCharOk i c = true)
    (n len : Nat) (hlen : n + len ≤ cs.length)
    (hpos : ∀ i, n ≤ i → i < n + len → i ≠ 8 ∧ i ≠ 13 ∧ i ≠ 18 ∧ i ≠ 23) :
    HexRun len ((cs.drop n).take len) := by
  refine ⟨by simp only [List.length_take, List.length_drop]; omega, fun c hc => ?_⟩
  obtain ⟨j, hj⟩ := List.mem_iff_getElem?.mp hc
  have hjlen : j < len := by
    have := (List.getElem?_eq_some_iff.mp hj).1
    simp only [List.length_take, List.length_drop] at this
    omega
  rw [List.getElem?_take, if_pos hjlen, List.getElem?_drop] at hj
  obtain ⟨h8, h13, h18, h23⟩ := hpos (n + j) (by omega) (by omega)
  simpa [keyCharOk, h8, h13, h18, h23] using hok (n + j) c hj

theorem drop_eq_take_hyphen {cs : List Char} (n k : Nat) (h : cs[n + k]? = some '-') :
    cs.drop n = (cs.drop n).take k ++ '-' :: cs.drop (n + k + 1) := by
  obtain ⟨hlt, hget⟩ := List.getElem?_eq_some_iff.mp h
  conv_lhs => rw [← List.take_append_drop k (cs.drop n)]
  rw [List.drop_drop, List.drop_eq_getElem_cons hlt, hget]

/-- Thirty-six characters, each right at its position, are the hyphenated spelling. -/
theorem hyphenated_of_keyChars {cs : List Char} (hlen : cs.length = 36)
    (hok : ∀ i c, cs[i]? = some c → keyCharOk i c = true) : Hyphenated cs := by
  have hyphen : ∀ p, p < 36 → (p = 8 ∨ p = 13 ∨ p = 18 ∨ p = 23) → cs[p]? = some '-' := by
    intro p hp hpos
    have hc := hok p cs[p] (List.getElem?_eq_getElem (by omega))
    have hp' : (p = 8 || p = 13 || p = 18 || p = 23) = true := by
      simp only [Bool.or_eq_true, decide_eq_true_eq]
      omega
    simp only [keyCharOk, hp', if_true, decide_eq_true_eq] at hc
    rw [List.getElem?_eq_getElem (by omega), hc]
  refine ⟨_, _, _, _, _, hexRun_of_keyChars hok 0 8 (by omega) (by omega),
    hexRun_of_keyChars hok 9 4 (by omega) (by omega),
    hexRun_of_keyChars hok 14 4 (by omega) (by omega),
    hexRun_of_keyChars hok 19 4 (by omega) (by omega),
    hexRun_of_keyChars hok 24 12 (by omega) (by omega), ?_⟩
  -- cut at the four hyphens, from the last one back
  have htail : (cs.drop 24).take 12 = cs.drop 24 :=
    List.take_of_length_le (by simp only [List.length_drop]; omega)
  rw [htail, ← drop_eq_take_hyphen 19 4 (hyphen 23 (by omega) (by omega)),
    ← drop_eq_take_hyphen 14 4 (hyphen 18 (by omega) (by omega)),
    ← drop_eq_take_hyphen 9 4 (hyphen 13 (by omega) (by omega)),
    ← drop_eq_take_hyphen 0 8 (hyphen 8 (by omega) (by omega)), List.drop_zero]

theorem keyChars_of_hyphenated {cs : List Char} (h : Hyphenated cs) :
    cs.length = 36 ∧ cs.zipIdx.all (fun (c, i) => keyCharOk i c) = true := by
  obtain ⟨a, b, c, d, e, ha, hb, hc, hd, he, rfl⟩ := h
  refine ⟨by simp [ha.1, hb.1, hc.1, hd.1, he.1], ?_⟩
  simp only [List.zipIdx_append, List.zipIdx_cons, List.all_append, List.all_cons, ha.1, hb.1,
    hc.1, hd.1, Bool.and_eq_true]
  refine ⟨all_keyCharOk_of_hex ha.2 ?_, rfl, all_keyCharOk_of_hex hb.2 ?_, rfl,
    all_keyCharOk_of_hex hc.2 ?_, rfl, all_keyCharOk_of_hex hd.2 ?_, rfl,
    all_keyCharOk_of_hex he.2 ?_⟩ <;>
  · intro i hlo hhi
    simp only [ha.1, hb.1, hc.1, hd.1, he.1] at hlo hhi
    omega

theorem isValidKey_iff_hyphenated (key : String) :
    isValidKey key = true ↔ Hyphenated key.toList := by
  constructor
  · intro h
    obtain ⟨hsize, hok⟩ := (isValidKey_iff_chars key).mp h
    have hascii : ∀ c ∈ key.toList, c.utf8Size = 1 := by
      intro c hc
      obtain ⟨i, hi⟩ := List.mem_iff_getElem?.mp hc
      exact utf8Size_of_keyCharOk (hok i c hi)
    refine hyphenated_of_keyChars ?_ hok
    rw [String.length_toList, ← utf8ByteSize_of_ascii hascii, hsize]
  · intro h
    obtain ⟨hlen, hok⟩ := keyChars_of_hyphenated h
    exact isValidKey_of_chars (by rw [← String.length_toList, hlen]) hok

theorem length_le_utf8ByteSize (s : String) : s.length ≤ s.utf8ByteSize := by
  rw [← String.ofList_toList (s := s), utf8ByteSize_ofList, String.length_ofList]
  calc s.toList.length = (s.toList.map Char.utf8Size).length := (List.length_map _).symm
    _ ≤ (s.toList.map Char.utf8Size).sum :=
      List.length_le_sum_of_one_le _ fun n hn => by
        obtain ⟨c, -, rfl⟩ := List.mem_map.mp hn
        exact Char.utf8Size_pos c

/-- **The length check leaves one spelling.** For every parser that reads only the spellings of
a UUID and reads every hyphenated one, a key passes the check exactly when the store's own
check accepts it: the simple spelling is 32 bytes, the braced one at least 38, the URN at least
45. -/
theorem keyAccepted_eq_isValidKey {parse : String → Bool}
    (hsound : ∀ s, parse s = true → UuidSpelling s.toList)
    (hhyphen : ∀ s, Hyphenated s.toList → parse s = true) (key : String) :
    keyAccepted parse key = isValidKey key := by
  apply Bool.eq_iff_iff.mpr
  rw [isValidKey_iff_hyphenated, keyAccepted, Bool.and_eq_true, decide_eq_true_eq]
  constructor
  · rintro ⟨hsize, hparse⟩
    have hlen := length_le_utf8ByteSize key
    rw [← String.length_toList] at hlen
    generalize hcs : key.toList = cs at hlen hsound
    have hspell := hsound key hparse
    rw [hcs] at hspell
    cases hspell with
    | simple hrun =>
      -- 32 hex digits are 32 bytes
      have hascii : ∀ c ∈ key.toList, c.utf8Size = 1 := fun c hc =>
        utf8Size_of_isHexChar (hrun.2 c (hcs ▸ hc))
      have := utf8ByteSize_of_ascii hascii
      rw [← String.length_toList, hcs, hrun.1] at this
      omega
    | hyphenated h => exact h
    | braced h =>
      have := (keyChars_of_hyphenated h).1
      simp only [List.length_cons, List.length_append] at hlen
      omega
    | urn hp h =>
      have hplen := congrArg List.length hp
      have := (keyChars_of_hyphenated h).1
      simp only [List.length_map, List.length_append] at hplen hlen
      rw [show "urn:uuid:".toList.length = 9 from rfl] at hplen
      omega
  · intro h
    refine ⟨?_, hhyphen key h⟩
    exact (isValidKey_iff_chars key).mp ((isValidKey_iff_hyphenated key).mpr h) |>.1

/-! ## Where a key leads -/

/-- An accepted key holds no path separator and no dot, so it names an entry of the store's own
directory and never `.` or `..`. -/
theorem ne_of_isValidKey {key : String} (h : isValidKey key = true) :
    '/' ∉ key.toList ∧ '\\' ∉ key.toList ∧ '.' ∉ key.toList := by
  obtain ⟨-, hok⟩ := (isValidKey_iff_chars key).mp h
  -- each character is a hyphen or a hex digit
  have hchar : ∀ c ∈ key.toList, c = '-' ∨ isHexChar c = true := by
    intro c hc
    obtain ⟨i, hi⟩ := List.mem_iff_getElem?.mp hc
    have hci := hok i c hi
    unfold keyCharOk at hci
    split at hci
    · exact .inl (of_decide_eq_true hci)
    · exact .inr hci
  refine ⟨fun hc => ?_, fun hc => ?_, fun hc => ?_⟩ <;>
  · rcases hchar _ hc with h | h
    · cases h
    · revert h
      decide

namespace FileStore

variable {fs : FileStore} {key : String}

theorem read_of_invalid (h : isValidKey key = false) : fs.read key = .error (.invalidKey key) := by
  simp [read, h]

theorem delete_of_invalid (h : isValidKey key = false) :
    fs.delete key = .error (.invalidKey key) := by
  simp [delete, h]

end FileStore

end Files

/-! ## Records naming a file -/

namespace Web

open Http Server Store

section Refused

variable {α : Type} [Entity α] {s : State} {shelf : Shelf α} {req : Request} {j : Json}
  {m : String}

theorem createRecord_of_refused (hbody : jsonBody s.libs.json req (Entity.shape α) = .ok j)
    (hcheck : shelf.check (Entity.ofJson j) = some m) :
    createRecord s shelf req = (s, Response.error 400 m) := by
  simp only [createRecord, hbody, hcheck]

theorem updateRecord_of_refused {rawId : String} {id : Int} (hid : pathId rawId = .ok id)
    (hbody : jsonBody s.libs.json req (Entity.shape α) = .ok j)
    (hcheck : shelf.check (Entity.ofJson j) = some m) :
    updateRecord s shelf rawId req = (s, Response.error 400 m) := by
  simp only [updateRecord, hid, hbody, hcheck]

end Refused

theorem keyCheck_of_invalid {key : String} (h : Files.isValidKey key = false) :
    keyCheck key = some ("Invalid file key " ++ key) := by
  simp [keyCheck, h]

/-- The administration refuses a record of a kind `r` that names a file by a key the store
does not accept: creating it or replacing one with it answers a 400 naming the key and leaves
the server as it was. -/
def RefusesBadKeys (r : Resource) (α : Type) [Entity α] : Prop :=
  ∀ (s : State) (req : Request) (j : Json), jsonBody s.libs.json req (Entity.shape α) = .ok j →
    Files.isValidKey (textAt j "fileKey") = false →
      admin s (.collection r) "POST" req =
          (s, Response.error 400 ("Invalid file key " ++ textAt j "fileKey")) ∧
        ∀ (rawId : String) (id : Int), pathId rawId = .ok id →
          admin s (.item r rawId) "PUT" req =
            (s, Response.error 400 ("Invalid file key " ++ textAt j "fileKey"))

theorem refusesBadKeys_datasetFiles : RefusesBadKeys .datasetFiles DatasetFile := by
  intro s req j hbody hkey
  have hcheck : datasetFileShelf.check (Entity.ofJson j) =
      some ("Invalid file key " ++ textAt j "fileKey") := keyCheck_of_invalid hkey
  exact ⟨createRecord_of_refused hbody hcheck,
    fun _ _ hid => updateRecord_of_refused hid hbody hcheck⟩

theorem refusesBadKeys_documents : RefusesBadKeys .documents ProjectDocument := by
  intro s req j hbody hkey
  have hcheck : documentShelf.check (Entity.ofJson j) =
      some ("Invalid file key " ++ textAt j "fileKey") := keyCheck_of_invalid hkey
  exact ⟨createRecord_of_refused hbody hcheck,
    fun _ _ hid => updateRecord_of_refused hid hbody hcheck⟩

end Web

/-! ## File keys stay in the store -/

open Files

/-- **File keys.** For every parser of UUIDs that reads only the spellings of a UUID and every
hyphenated one, the file-key check is the store's `isValidKey`, which accepts a key exactly when
it is 36 bytes with `-` at 8, 13, 18 and 23 and ASCII hex digits elsewhere. Every key the server
draws passes; a key that passes holds no `/`, `\` or `.`; the store refuses any other key before
touching a file; and the administration refuses a dataset file or document naming one with a
400. -/
theorem file_key_check_confines :
    (∀ parse : String → Bool, (∀ s, parse s = true → UuidSpelling s.toList) →
      (∀ s, Hyphenated s.toList → parse s = true) →
      ∀ key, keyAccepted parse key = isValidKey key) ∧
    (∀ key, isValidKey key = true ↔ KeyBytes key) ∧
    (∀ s : Server.State, isValidKey s.freshUuid.2 = true) ∧
    (∀ key, isValidKey key = true → '/' ∉ key.toList ∧ '\\' ∉ key.toList ∧ '.' ∉ key.toList) ∧
    (∀ (fs : FileStore) (key : String), isValidKey key = false →
      fs.read key = .error (.invalidKey key) ∧ fs.delete key = .error (.invalidKey key)) ∧
    Web.RefusesBadKeys .datasetFiles Store.DatasetFile ∧
    Web.RefusesBadKeys .documents Store.ProjectDocument :=
  ⟨fun _ hsound hhyphen key => keyAccepted_eq_isValidKey hsound hhyphen key, isValidKey_iff_keyBytes,
    Server.State.isValidKey_freshUuid, fun _ h => ne_of_isValidKey h,
    fun _ _ h => ⟨FileStore.read_of_invalid h, FileStore.delete_of_invalid h⟩,
    Web.refusesBadKeys_datasetFiles, Web.refusesBadKeys_documents⟩

/-- The store's own check is such a parser, and the key of a UUID in its documentation passes. -/
theorem file_key_check_sample :
    (∀ s, isValidKey s = true → UuidSpelling s.toList) ∧
      (∀ s, Hyphenated s.toList → isValidKey s = true) ∧
      keyAccepted isValidKey "936da01f-9abd-4d9d-80c7-02af85c822a8" = true := by
  have hsound : ∀ s, isValidKey s = true → UuidSpelling s.toList :=
    fun s h => .hyphenated ((isValidKey_iff_hyphenated s).mp h)
  have hhyphen : ∀ s, Hyphenated s.toList → isValidKey s = true :=
    fun s h => (isValidKey_iff_hyphenated s).mpr h
  refine ⟨hsound, hhyphen, ?_⟩
  rw [file_key_check_confines.1 isValidKey hsound hhyphen]
  decide

end KnowledgeDesk

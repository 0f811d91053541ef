import KnowledgeDesk.Vector.Basic
import KnowledgeDesk.Proofs.Words
import Mathlib.Data.String.Basic

/-!
# Stored vectors read back

A vector is stored as the text `[a, b, c]`, each number in its shortest positional form
(`Number.Float32.plainText`). Reading a stored vector trims the text, takes what stands between
the brackets, cuts it at commas and reads each trimmed piece as a float literal. Every text that
storing writes reads back, as a vector of the same length:

* `PlainLiteral` lists the shapes of a number's plain text, and `plainLiteral_spell` shows that
  every binary value is written in one of them;
* `readFloatLiteral_of_plainLiteral`: each of these shapes reads as a float literal;
* `PlainLiteral.isWord`, `PlainLiteral.comma_not_mem`: none of them holds a blank or a comma, so
  the pieces of a stored vector are its numbers' texts;
* `parseVector_vectorText`: the stored text of every vector reads back.
-/

namespace KnowledgeDesk.Number

/-- The sign in front of a plain text: a minus for a negative value, nothing otherwise. -/
def signChars (negative : Bool) : List Char := if negative then ['-'] else []

/-- The shapes of a number's plain text: `NaN`, `inf` with its sign, or digits with their sign and
at most one point, at least one digit before the point. -/
inductive PlainLiteral : List Char → Prop where
  | nan : PlainLiteral ['N', 'a', 'N']
  | infinity (negative : Bool) : PlainLiteral (signChars negative ++ ['i', 'n', 'f'])
  | integral (negative : Bool) {digits : List Char} (hne : digits ≠ [])
      (hdigits : ∀ c ∈ digits, c.isDigit = true) : PlainLiteral (signChars negative ++ digits)
  | pointed (negative : Bool) {whole fraction : List Char} (hne : whole ≠ [])
      (hdigits : ∀ c ∈ whole ++ fraction, c.isDigit = true) :
      PlainLiteral (signChars negative ++ whole ++ '.' :: fraction)

/-! ## Plain texts read as literals -/

/-- Reading digits takes every digit up to the first character that is not one, with their
value. -/
theorem readDigits_append_eq (acc count : Nat) {ds rest : List Char}
    (hds : ∀ c ∈ ds, c.isDigit = true) (hstop : ∀ c ∈ rest.head?, c.isDigit = false) :
    readDigits acc count (ds ++ rest) = (Nat.ofDigitChars 10 ds acc, count + ds.length, rest) := by
  induction ds generalizing acc count with
  | nil =>
    cases rest with
    | nil => rfl
    | cons c rest =>
      have hc : c.isDigit = false := hstop c rfl
      simp [readDigits, hc]
  | cons d ds ih =>
    have hd : d.isDigit = true := hds d List.mem_cons_self
    rw [List.cons_append, readDigits, if_pos hd,
      ih _ _ (fun c hc => hds c (List.mem_cons_of_mem d hc)), Nat.ofDigitChars_cons,
      List.length_cons, Nat.mul_comm acc 10, digitValue, Nat.add_assoc, Nat.add_comm 1]

theorem toLower_of_isDigit {d : Char} (hd : d.isDigit = true) : d.toLower = d := by
  unfold Char.toLower
  rw [dif_neg]
  rintro ⟨hA, -⟩
  simp only [Char.isDigit, Bool.and_eq_true, decide_eq_true_eq] at hd
  exact absurd (UInt32.le_trans hA hd.2) (by decide)

theorem splitSign_signChars (negative : Bool) {d : Char} (hd : d.isDigit = true)
    (rest : List Char) : splitSign (signChars negative ++ d :: rest) = (negative, d :: rest) := by
  cases negative with
  | true => rfl
  | false =>
    -- an unsigned text starts with its digit, which is no sign
    unfold splitSign
    split
    · next h =>
      simp only [signChars, Bool.false_eq_true, if_false, List.nil_append, List.cons.injEq] at h
      rw [h.1] at hd
      cases hd
    · next h =>
      simp only [signChars, Bool.false_eq_true, if_false, List.nil_append, List.cons.injEq] at h
      rw [h.1] at hd
      cases hd
    · rfl

/-- Digits with their sign, then nothing or a point and digits, read as the decimal they
spell. -/
theorem readFloatLiteral_digits (negative : Bool) {ds fraction tail : List Char} (hne : ds ≠ [])
    (hds : ∀ c ∈ ds, c.isDigit = true) (hfraction : ∀ c ∈ fraction, c.isDigit = true)
    (htail : tail = [] ∧ fraction = [] ∨ tail = '.' :: fraction) :
    readFloatLiteral (signChars negative ++ ds ++ tail) =
      .ok (.finite negative (Nat.ofDigitChars 10 (ds ++ fraction) 0) (-(fraction.length : Int))) := by
  obtain ⟨d, ds', rfl⟩ := List.exists_cons_of_ne_nil hne
  have hd : d.isDigit = true := hds d List.mem_cons_self
  have hstop : ∀ c ∈ tail.head?, c.isDigit = false := by
    rcases htail with ⟨rfl, -⟩ | rfl
    · simp
    · simp only [List.head?_cons, Option.mem_def, Option.some.injEq, forall_eq']
      decide
  unfold readFloatLiteral
  rw [List.append_assoc, List.cons_append, splitSign_signChars negative hd, ← List.cons_append]
  have hnonempty : (signChars negative ++ (d :: ds' ++ tail)).isEmpty = false := by
    simp
  rw [hnonempty, if_neg Bool.false_ne_true]
  dsimp only
  -- a text that starts with a digit spells neither `inf` nor `nan`
  have hword : ∀ c : Char, ∀ w : List Char, c.isDigit = false →
      lowerAscii (d :: (ds' ++ tail)) ≠ c :: w := by
    intro c w hc h
    simp only [lowerAscii, List.map_cons, List.cons.injEq, toLower_of_isDigit hd] at h
    rw [h.1] at hd
    exact absurd hd (by simp [hc])
  have hinf : "inf".toList = ['i', 'n', 'f'] := by simp
  have hinfinity : "infinity".toList = ['i', 'n', 'f', 'i', 'n', 'i', 't', 'y'] := by simp
  have hnan : "nan".toList = ['n', 'a', 'n'] := by simp
  rw [hinf, hinfinity, hnan,
    if_neg (by simp [hword 'i' ['n', 'f'] (by decide),
      hword 'i' ['n', 'f', 'i', 'n', 'i', 't', 'y'] (by decide)]),
    if_neg (by simp [hword 'n' ['a', 'n'] (by decide)]), readDigits_append_eq 0 0 hds hstop]
  dsimp only
  rcases htail with ⟨rfl, rfl⟩ | rfl
  · simp [Except.map]
  · have hend : ∀ c ∈ ([] : List Char).head?, c.isDigit = false := by simp
    have hm := readDigits_append_eq (Nat.ofDigitChars 10 (d :: ds') 0) 0 hfraction hend
    rw [List.append_nil] at hm
    simp only [List.length_cons, zero_add, hm, Nat.add_eq_zero_iff, List.length_eq_zero_iff,
      one_ne_zero, and_false, false_and, ↓reduceIte, Except.map, Int.zero_sub, List.cons_append,
      Except.ok.injEq, Literal.finite.injEq, and_true, true_and]
    rw [← List.cons_append, Nat.ofDigitChars_append]

theorem readFloatLiteral_decimal (negative : Bool) {ds tail : List Char} (hne : ds ≠ [])
    (hds : ∀ c ∈ ds, c.isDigit = true)
    (htail : tail = [] ∨ ∃ fraction, tail = '.' :: fraction ∧ ∀ c ∈ fraction, c.isDigit = true) :
    ∃ l, readFloatLiteral (signChars negative ++ ds ++ tail) = .ok l := by
  rcases htail with rfl | ⟨fraction, rfl, hfraction⟩
  · exact ⟨_, readFloatLiteral_digits negative hne hds (by simp) (.inl ⟨rfl, rfl⟩)⟩
  · exact ⟨_, readFloatLiteral_digits negative hne hds hfraction (.inr rfl)⟩

/-- **Every plain text reads as a float literal.** -/
theorem readFloatLiteral_of_plainLiteral {cs : List Char} (h : PlainLiteral cs) :
    ∃ l, readFloatLiteral cs = .ok l := by
  cases h with
  | nan => exact ⟨_, rfl⟩
  | infinity negative => cases negative <;> exact ⟨_, rfl⟩
  | integral negative hne hdigits =>
    simpa using readFloatLiteral_decimal negative hne hdigits (.inl rfl)
  | pointed negative hne hdigits =>
    exact readFloatLiteral_decimal negative hne (fun c hc => hdigits c (List.mem_append_left _ hc))
      (.inr ⟨_, rfl, fun c hc => hdigits c (List.mem_append_right _ hc)⟩)

theorem PlainLiteral.mem {cs : List Char} (h : PlainLiteral cs) :
    ∀ c ∈ cs, c.isDigit = true ∨ c ∈ ['-', '.', 'N', 'a', 'i', 'n', 'f'] := by
  have hsign : ∀ negative, ∀ c ∈ signChars negative, c ∈ ['-', '.', 'N', 'a', 'i', 'n', 'f'] := by
    intro negative c hc
    cases negative <;> simp_all [signChars]
  intro c hc
  cases h with
  | nan =>
    simp only [List.mem_cons, List.not_mem_nil, or_false] at hc
    rcases hc with rfl | rfl | rfl <;> simp
  | infinity negative =>
    rcases List.mem_append.mp hc with hc | hc
    · exact .inr (hsign negative c hc)
    · simp only [List.mem_cons, List.not_mem_nil, or_false] at hc
      rcases hc with rfl | rfl | rfl <;> simp
  | integral negative _ hdigits =>
    rcases List.mem_append.mp hc with hc | hc
    · exact .inr (hsign negative c hc)
    · exact .inl (hdigits c hc)
  | pointed negative _ hdigits =>
    simp only [List.append_assoc, List.mem_append, List.mem_cons] at hc
    rcases hc with hc | hc | rfl | hc
    · exact .inr (hsign negative c hc)
    · exact .inl (hdigits c (List.mem_append_left _ hc))
    · simp
    · exact .inl (hdigits c (List.mem_append_right _ hc))

theorem PlainLiteral.ne_nil {cs : List Char} (h : PlainLiteral cs) : cs ≠ [] := by
  cases h with
  | nan | infinity => simp
  | integral _ hne => simp [hne]
  | pointed => simp

/-! ## Every value is written as a plain text -/

theorem toList_digitsOf (c : Nat) : (digitsOf c).toList = Nat.toDigits 10 c := Nat.toList_repr

theorem isDigit_of_mem_digitsOf {c : Nat} {d : Char} (h : d ∈ (digitsOf c).toList) :
    d.isDigit = true := by
  rw [toList_digitsOf] at h
  exact Nat.isDigit_of_mem_toDigits (by decide) (by decide) h

theorem isDigit_of_mem_zeros {n : Nat} {d : Char} (h : d ∈ (zeros n).toList) : d.isDigit = true := by
  simp only [zeros, String.toList_ofList, List.mem_replicate] at h
  rw [h.2]
  rfl

/-- The positional layout of `c · 10^k`, after a sign, is a plain text. -/
theorem plainLiteral_positional (negative : Bool) (c : Nat) (k : Int) :
    PlainLiteral (signChars negative ++ (positional c k).toList) := by
  have hne : (digitsOf c).toList ≠ [] := by
    rw [toList_digitsOf]
    exact Nat.toDigits_ne_nil
  unfold positional
  dsimp only
  split
  · -- digits, then zeros
    rw [String.toList_append]
    refine .integral negative (by simp [hne]) fun d hd => ?_
    rcases List.mem_append.mp hd with hd | hd
    · exact isDigit_of_mem_digitsOf hd
    · exact isDigit_of_mem_zeros hd
  · split
    · -- the point among the digits
      next hpoint =>
      have hwhole : ((digitsOf c).toList.take (((digitsOf c).length : Int) + k).toNat) ≠ [] := by
        simp only [ne_eq, List.take_eq_nil_iff, hne, or_false]
        omega
      have hshape : (String.ofList ((digitsOf c).toList.take (((digitsOf c).length : Int) + k).toNat) ++
          "." ++ String.ofList ((digitsOf c).toList.drop (((digitsOf c).length : Int) + k).toNat)).toList =
          (digitsOf c).toList.take (((digitsOf c).length : Int) + k).toNat ++
            '.' :: (digitsOf c).toList.drop (((digitsOf c).length : Int) + k).toNat := by
        simp
      rw [hshape, ← List.append_assoc]
      refine .pointed negative hwhole fun d hd => ?_
      rcases List.mem_append.mp hd with hd | hd
      · exact isDigit_of_mem_digitsOf (List.mem_of_mem_take hd)
      · exact isDigit_of_mem_digitsOf (List.mem_of_mem_drop hd)
    · -- a zero, the point, zeros, then the digits
      have hshape : ("0." ++ zeros (-(((digitsOf c).length : Int) + k)).toNat ++ digitsOf c).toList =
          ['0'] ++ '.' :: ((zeros (-(((digitsOf c).length : Int) + k)).toNat).toList ++
            (digitsOf c).toList) := by
        simp
      rw [hshape, ← List.append_assoc]
      refine .pointed negative (by simp) fun d hd => ?_
      simp only [List.singleton_append, List.mem_cons, List.mem_append] at hd
      rcases hd with rfl | hd | hd
      · rfl
      · exact isDigit_of_mem_zeros hd
      · exact isDigit_of_mem_digitsOf hd

/-- **Every binary value is spelled as a plain text.** -/
theorem plainLiteral_spell (f : BinaryFormat) (b : BinaryValue) :
    PlainLiteral (b.spell f .plain).toList := by
  have hsign : ∀ negative : Bool, (if negative then "-" else "").toList = signChars negative := by
    intro negative
    cases negative <;> rfl
  cases b with
  | nan =>
    have hnan : "NaN".toList = ['N', 'a', 'N'] := by simp
    rw [BinaryValue.spell]
    exact hnan ▸ .nan
  | infinity negative =>
    rw [BinaryValue.spell, String.toList_append, hsign]
    exact .infinity negative
  | finite negative m e =>
    rw [BinaryValue.spell]
    dsimp only
    split
    · rw [String.toList_append, hsign]
      exact .integral negative (by simp [FloatSpelling.plain]) (by simp [FloatSpelling.plain])
    · rw [String.toList_append, hsign]
      exact plainLiteral_positional negative _ _

theorem plainLiteral_plainText (x : Float32) : PlainLiteral (Float32.plainText x).toList :=
  plainLiteral_spell _ _

/-! ## Plain texts are words without commas -/

theorem isBlank_of_isDigit {c : Char} (h : c.isDigit = true) : Text.isBlank c = false := by
  obtain ⟨hlow, hhigh⟩ := Char.isDigit_iff_toNat.mp h
  have hlow' : 48 ≤ c.toNat := hlow
  have hhigh' : c.toNat ≤ 57 := hhigh
  simp only [Text.isBlank, Bool.or_eq_false_iff, Bool.and_eq_false_iff, decide_eq_false_iff_not,
    beq_eq_false_iff_ne, ne_eq]
  omega

theorem PlainLiteral.isWord {s : String} (h : PlainLiteral s.toList) : Text.IsWord s := by
  refine ⟨fun hs => h.ne_nil (by simp [hs]), fun c hc => ?_⟩
  rcases h.mem c hc with hdigit | hc
  · exact isBlank_of_isDigit hdigit
  · simp only [List.mem_cons, List.not_mem_nil, or_false] at hc
    rcases hc with rfl | rfl | rfl | rfl | rfl | rfl | rfl <;> decide

theorem PlainLiteral.comma_not_mem {cs : List Char} (h : PlainLiteral cs) : ',' ∉ cs := fun hc => by
  rcases h.mem ',' hc with hdigit | hc
  · cases hdigit
  · simp at hc

end KnowledgeDesk.Number

namespace KnowledgeDesk

open Text Number

/-! ## The pieces of a stored vector -/

theorem intercalate_comma_space (p : List Char) (ps : List (List Char)) :
    [',', ' '].intercalate (p :: ps) = [','].intercalate (p :: ps.map (' ' :: ·)) := by
  induction ps generalizing p with
  | nil => simp
  | cons q ps ih =>
    rw [List.intercalate_cons_cons, ih, List.map_cons, List.intercalate_cons_cons]
    cases ps <;> simp

/-- Texts without commas joined by `, ` are cut at the commas into the texts, a space leading
every text after the first. -/
theorem splitToList_comma_space (p : String) {ps : List String}
    (hcomma : ∀ q ∈ p :: ps, ',' ∉ q.toList) :
    (", ".intercalate (p :: ps)).splitToList (· == ',') = p :: ps.map (" " ++ ·) := by
  have hsep : ", ".toList = [',', ' '] := by simp
  rw [String.splitToList_of_valid, String.toList_intercalate, hsep, List.map_cons,
    intercalate_comma_space, ← List.splitOn_eq_splitOnP, List.splitOn_intercalate]
  · simp [Function.comp_def]
  · intro l hl
    simp only [List.mem_cons, List.mem_map] at hl
    rcases hl with rfl | ⟨_, ⟨q, hq, rfl⟩, rfl⟩
    · exact hcomma p List.mem_cons_self
    · simpa using hcomma q (List.mem_cons_of_mem p hq)
  · simp

theorem readVectorItem_ok {piece p : String} (htrim : trim piece = p) (hp : PlainLiteral p.toList) :
    ∃ x, readVectorItem piece = .ok x := by
  obtain ⟨l, hl⟩ := readFloatLiteral_of_plainLiteral hp
  exact ⟨l.toFloat32, by simp [readVectorItem, htrim, parseFloat32, hl, Except.map]⟩

theorem mapM_ok_of_forall {α β ε : Type} {f : α → Except ε β} :
    ∀ {l : List α}, (∀ a ∈ l, ∃ b, f a = .ok b) → ∃ bs, l.mapM f = .ok bs ∧ bs.length = l.length
  | [], _ => ⟨[], rfl, rfl⟩
  | a :: l, h => by
    obtain ⟨b, hb⟩ := h a List.mem_cons_self
    obtain ⟨bs, hbs, hlen⟩ := mapM_ok_of_forall fun x hx => h x (List.mem_cons_of_mem a hx)
    refine ⟨b :: bs, ?_, by simp [hlen]⟩
    simp only [List.mapM_cons, hb, hbs, bind_pure_comp, Except.map_ok]
    rfl

/-! ## Stored vectors read back -/

/-- The pieces a stored vector is cut into: each number's text, a space in front of every one
after the first. -/
def vectorPieces : List Float32 → List String
  | [] => []
  | x :: xs => x.plainText :: xs.map (" " ++ ·.plainText)

/-- **A stored vector is read piece by piece**: reading its text reads each of its pieces. -/
theorem parseVector_vectorText_eq (v : List Float32) :
    parseVector (vectorText v) = (vectorPieces v).mapM readVectorItem := by
  have hwords : ∀ x : Float32, IsWord x.plainText := fun x => (plainLiteral_plainText x).isWord
  generalize hinner : ", ".intercalate (v.map Number.Float32.plainText) = inner
  have hchars : (vectorText v).toList = '[' :: (inner.toList ++ [']']) := by
    simp [vectorText, hinner]
  have hends : SolidEnds (vectorText v) := by
    refine ⟨⟨'[', by rw [hchars]; rfl, by decide⟩,
      ⟨']', by rw [hchars, ← List.cons_append, List.getLast?_concat], by decide⟩⟩
  unfold parseVector
  rw [trim_of_solidEnds hends, hchars]
  dsimp only
  split
  case h_2 hbracket => exact absurd rfl (hbracket _)
  next rest hrest =>
  rw [List.cons.injEq] at hrest
  rw [← hrest.2, if_pos (by simp), List.dropLast_concat, String.ofList_toList]
  cases v with
  | nil =>
    subst hinner
    simp only [isBlankText, List.map_nil, String.intercalate_nil, String.toList_empty, List.all_nil,
      ↓reduceIte, vectorPieces, List.mapM_nil]
    rfl
  | cons x xs =>
    -- the first number's text is solid, so the inside is not blank
    have hsolid : isBlankText inner = false := by
      rw [Bool.eq_false_iff, ne_eq, isBlankText_iff_solidChars]
      obtain ⟨t, ht⟩ : ∃ t, inner = x.plainText ++ t := by
        cases xs with
        | nil => exact ⟨"", by simp [← hinner]⟩
        | cons y ys =>
          refine ⟨", " ++ ", ".intercalate (y.plainText :: ys.map Float32.plainText), ?_⟩
          rw [← hinner, List.map_cons, List.map_cons, String.intercalate_cons_cons,
            String.append_assoc]
      rw [ht, solidChars_append, (hwords x).solidChars_eq]
      simp [(hwords x).1]
    have hcomma : ∀ q ∈ x.plainText :: xs.map Float32.plainText, ',' ∉ q.toList := by
      intro q hq
      simp only [List.mem_cons, List.mem_map] at hq
      rcases hq with rfl | ⟨y, -, rfl⟩
      · exact (plainLiteral_plainText x).comma_not_mem
      · exact (plainLiteral_plainText y).comma_not_mem
    rw [if_neg (by simp [hsolid]), ← hinner, List.map_cons, splitToList_comma_space _ hcomma,
      List.map_map]
    rfl

/-- **The stored text of every vector reads back**, as a vector of the same length. -/
theorem parseVector_vectorText (v : List Float32) :
    ∃ w, parseVector (vectorText v) = .ok w ∧ w.length = v.length := by
  have hwords : ∀ x : Float32, IsWord x.plainText := fun x => (plainLiteral_plainText x).isWord
  -- each piece is a number's text, after a space from the second on
  have hitems : ∀ piece ∈ vectorPieces v, ∃ y, readVectorItem piece = .ok y := by
    intro piece hpiece
    cases v with
    | nil => cases hpiece
    | cons x xs =>
      simp only [vectorPieces, List.mem_cons, List.mem_map] at hpiece
      rcases hpiece with rfl | ⟨y, -, rfl⟩
      · exact readVectorItem_ok (trim_of_solidEnds (hwords x).solidEnds) (plainLiteral_plainText x)
      · exact readVectorItem_ok (hwords y).trim_space_append (plainLiteral_plainText y)
  obtain ⟨w, hw, hlen⟩ := mapM_ok_of_forall hitems
  refine ⟨w, (parseVector_vectorText_eq v).trans hw, ?_⟩
  cases v <;> simp [hlen, vectorPieces]

end KnowledgeDesk

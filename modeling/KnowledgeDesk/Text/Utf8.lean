/-!
# UTF-8 bytes

Reading bytes as text. Two readers share one step: `decodeStep` reads the character that starts
the bytes, or tells how many bytes form the longest start of a character that cannot be
completed (a *maximal subpart*, in the words of the Unicode standard, §3.9).

* `decodeLossy` replaces each maximal subpart by `U+FFFD`, so every byte list reads as text.
* `decode?` refuses a byte list that holds one.

A character's first byte fixes how many continuation bytes follow and the range of the first of
them: `E0` needs `A0`–`BF` (no overlong form), `ED` needs `80`–`9F` (no surrogate), `F0` needs
`90`–`BF`, `F4` needs `80`–`8F` (nothing above `U+10FFFF`); every other continuation byte is
`80`–`BF`.
-/

namespace KnowledgeDesk.Text

/-- The UTF-8 bytes of a text. -/
def utf8Bytes (s : String) : List UInt8 := s.toUTF8.toList

/-- For a first byte of a multi-byte character: how many continuation bytes follow, and the
least and greatest value of the first of them. -/
def leadByte (b : UInt8) : Option (Nat × UInt8 × UInt8) :=
  if 0xC2 ≤ b ∧ b ≤ 0xDF then some (1, 0x80, 0xBF)
  else if b = 0xE0 then some (2, 0xA0, 0xBF)
  else if 0xE1 ≤ b ∧ b ≤ 0xEC then some (2, 0x80, 0xBF)
  else if b = 0xED then some (2, 0x80, 0x9F)
  else if 0xEE ≤ b ∧ b ≤ 0xEF then some (2, 0x80, 0xBF)
  else if b = 0xF0 then some (3, 0x90, 0xBF)
  else if 0xF1 ≤ b ∧ b ≤ 0xF3 then some (3, 0x80, 0xBF)
  else if b = 0xF4 then some (3, 0x80, 0x8F)
  else none

/-- The payload bits a first byte carries, for a character of `need` continuation bytes. -/
def leadBits (b : UInt8) (need : Nat) : Nat :=
  match need with
  | 1 => b.toNat % 0x20
  | 2 => b.toNat % 0x10
  | _ => b.toNat % 0x08

/-- Read continuation bytes: `need` more, the first within `lo`–`hi`, the rest within `80`–`BF`.
Gives the code point and the bytes used, or how many bytes were good before the first that
was not. -/
def continuation (acc : Nat) (lo hi : UInt8) : Nat → List UInt8 → Except Nat (Nat × Nat)
  | 0, _ => .ok (acc, 0)
  | _ + 1, [] => .error 0
  | n + 1, b :: rest =>
    if lo ≤ b ∧ b ≤ hi then
      match continuation (acc * 64 + b.toNat % 64) 0x80 0xBF n rest with
      | .ok (cp, used) => .ok (cp, used + 1)
      | .error good => .error (good + 1)
    else .error 0

/-- What the front of a byte list holds. -/
inductive Front where
  /-- A character made of this many bytes. -/
  | char (c : Char) (size : Nat)
  /-- A maximal subpart of this many bytes that no character completes. -/
  | broken (size : Nat)

/-- Read the front of a non-empty byte list. -/
def decodeStep (b : UInt8) (rest : List UInt8) : Front :=
  if b < 0x80 then .char (Char.ofNat b.toNat) 1
  else match leadByte b with
    | none => .broken 1
    | some (need, lo, hi) =>
      match continuation (leadBits b need) lo hi need rest with
      | .ok (cp, used) => .char (Char.ofNat cp) (used + 1)
      | .error good => .broken (good + 1)

theorem continuation_used_le (acc : Nat) (lo hi : UInt8) (n : Nat) (bs : List UInt8) :
    ∀ cp used, continuation acc lo hi n bs = .ok (cp, used) → used ≤ bs.length := by
  induction n generalizing acc lo hi bs with
  | zero => intro cp used h; simp [continuation] at h; omega
  | succ n ih =>
    intro cp used h
    cases bs with
    | nil => simp [continuation] at h
    | cons b rest =>
      simp only [continuation] at h
      split at h
      · split at h
        · next cp' used' h' =>
          simp only [Except.ok.injEq, Prod.mk.injEq] at h
          have := ih _ _ _ _ _ _ h'
          simp; omega
        · simp at h
      · simp at h

theorem continuation_good_le (acc : Nat) (lo hi : UInt8) (n : Nat) (bs : List UInt8) :
    ∀ good, continuation acc lo hi n bs = .error good → good ≤ bs.length := by
  induction n generalizing acc lo hi bs with
  | zero => intro good h; simp [continuation] at h
  | succ n ih =>
    intro good h
    cases bs with
    | nil => simp [continuation] at h; omega
    | cons b rest =>
      simp only [continuation] at h
      split at h
      · split at h
        · simp at h
        · next good' h' =>
          simp only [Except.error.injEq] at h
          have := ih _ _ _ _ _ h'
          simp; omega
      · simp at h; omega

/-- The number of bytes the front of `b :: rest` takes. -/
def frontSize (b : UInt8) (rest : List UInt8) : Nat :=
  match decodeStep b rest with
  | .char _ n => n
  | .broken n => n

/-- The front takes at least one byte and never more bytes than there are. -/
theorem frontSize_bounds (b : UInt8) (rest : List UInt8) :
    1 ≤ frontSize b rest ∧ frontSize b rest ≤ rest.length + 1 := by
  unfold frontSize decodeStep
  by_cases h0 : b < 0x80
  · rw [if_pos h0]; simp
  · rw [if_neg h0]
    cases hl : leadByte b with
    | none => simp
    | some t =>
      obtain ⟨need, lo, hi⟩ := t
      simp only
      cases hc : continuation (leadBits b need) lo hi need rest with
      | ok r =>
        obtain ⟨cp, used⟩ := r
        have := continuation_used_le _ _ _ _ _ _ _ hc
        simp only; omega
      | error g =>
        have := continuation_good_le _ _ _ _ _ _ hc
        simp only; omega

/-- Bytes as text, each maximal subpart replaced by `U+FFFD`. -/
def decodeLossy : List UInt8 → List Char
  | [] => []
  | b :: rest =>
    let bs := (b :: rest).drop (frontSize b rest)
    match decodeStep b rest with
    | .char c _ => c :: decodeLossy bs
    | .broken _ => '�' :: decodeLossy bs
termination_by bs => bs.length
decreasing_by
  all_goals
    have h := frontSize_bounds b rest
    simp only [List.length_drop, List.length_cons]
    omega

/-- Bytes as text, or nothing when they hold a byte sequence that is not UTF-8. -/
def decode? : List UInt8 → Option (List Char)
  | [] => some []
  | b :: rest =>
    let bs := (b :: rest).drop (frontSize b rest)
    match decodeStep b rest with
    | .char c _ => (decode? bs).map (c :: ·)
    | .broken _ => none
termination_by bs => bs.length
decreasing_by
  have h := frontSize_bounds b rest
  simp only [List.length_drop, List.length_cons]
  omega

/-- Bytes as a text, each maximal subpart replaced by `U+FFFD`. -/
def stringOfBytesLossy (bs : List UInt8) : String := String.ofList (decodeLossy bs)

/-- Bytes as a text, or nothing when they are not UTF-8. -/
def stringOfBytes? (bs : List UInt8) : Option String := (decode? bs).map String.ofList

end KnowledgeDesk.Text

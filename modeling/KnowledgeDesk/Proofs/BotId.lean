import KnowledgeDesk.Proofs.FloatNumerals
import KnowledgeDesk.Server.Chat

/-!
# The bot a chat request names

A chat request names its bot in its `botId` field, which is read leniently
(`Json.Content.lenient`): a JSON string as it is, an integer within 64 bits in decimal, any other
number as the plain text of the nearest `Float`, a truth value as `true` or `false`; `null` and an
absent field name nothing. The chat reads that text, without blanks at either end, as a 32-bit
integer (`RequestData.botKey?`).

`NamesBot v k` says which values name which bot: a string whose trimmed text is a decimal numeral
of `k`, or a number whose value is the integer `k`, `k` within 32 bits in both cases; so `3`,
`3.0`, `3e0`, `"3"` and `" +3 "` all name bot 3. Main statement (`bot_id_names_bot`): a request
gets past the bot id check with exactly the id its value names; one that names no bot is refused
with `botId is missing or invalid` before any bot is looked up.

The two readings agree on numbers because the text of a float is a numeral of its value when that
value is an integer of at most 53 bits, and of nothing else (`plainText_numeral_iff`), while an
integer beyond 64 bits becomes the nearest `Float`, which stands for at least half of it.
-/

namespace KnowledgeDesk

open Number Text

def InI32 (k : Int) : Prop := -2147483648 ≤ k ∧ k ≤ 2147483647

namespace Json

/-- What a number read stands for: the integer, or the rational of the float (nothing for NaN
and the infinities). -/
def NumberRead.value? : NumberRead → Option ℚ
  | .unsigned n => some (n : ℚ)
  | .signed i => some (i : ℚ)
  | .float x => (Float.value x).toRat?

end Json

/-- The bot a JSON value names as the bot id of a chat request, `none` standing for `null` or an
absent field. -/
inductive NamesBot : Option Json.Content → Int → Prop
  /-- A string whose text without blanks at either end is a numeral of a 32-bit integer. -/
  | text {s : String} {k : Int} :
      DecimalNumeral (trim s).toList k → InI32 k → NamesBot (some (.string s)) k
  /-- A number whose value is a 32-bit integer. -/
  | number {n : Json.NumberRead} {k : Int} :
      n.value? = some (k : ℚ) → InI32 k → NamesBot (some (.number n)) k

theorem namesBot_number_iff (n : Json.NumberRead) (k : Int) :
    NamesBot (some (.number n)) k ↔ n.value? = some (k : ℚ) ∧ InI32 k :=
  ⟨fun h => by cases h with | number hv hk => exact ⟨hv, hk⟩, fun ⟨hv, hk⟩ => .number hv hk⟩

theorem natAbs_lt_of_inI32 {k : Int} (hk : InI32 k) : k.natAbs < 2 ^ 53 := by
  unfold InI32 at hk
  omega

/-! ## Texts read as bot ids -/

/-- **A text reads as the bot id `k`** exactly when, without blanks at either end, it is a
numeral of `k`, a 32-bit integer. -/
theorem toOption_parseI32_eq_some_iff (s : String) (k : Int) :
    (parseI32 (trim s)).toOption = some k ↔ DecimalNumeral (trim s).toList k ∧ InI32 k := by
  show _ ↔ _ ∧ -2147483648 ≤ k ∧ k ≤ 2147483647
  rw [← parseIntIn_eq_ok_iff (by decide) (by decide)]
  unfold parseI32
  cases parseIntIn (-2147483648) 2147483647 (trim s) <;> simp [Except.toOption]

theorem Number.DecimalNumeral.isWord {s : String} {k : Int} (h : DecimalNumeral s.toList k) :
    IsWord s := by
  refine ⟨fun hs => h.ne_nil (by simp [hs]), fun c hc => ?_⟩
  rcases h.mem_chars c hc with hd | rfl | rfl
  · exact isBlank_of_isDigit hd
  · decide
  · decide

theorem toOption_parseI32_of_isWord {t : String} (ht : IsWord t) (k : Int) :
    (parseI32 (trim t)).toOption = some k ↔ DecimalNumeral t.toList k ∧ InI32 k := by
  rw [toOption_parseI32_eq_some_iff, trim_of_solidEnds ht.solidEnds]

/-- The text of a number read as a bot id: the value of the number, when that is a numeral's
value and a 32-bit integer. -/
theorem toOption_parseI32_of_numeral {t : String} {v : Int} (hv : DecimalNumeral t.toList v)
    (k : Int) : (parseI32 (trim t)).toOption = some k ↔ v = k ∧ InI32 k := by
  rw [toOption_parseI32_of_isWord hv.isWord]
  exact and_congr_left fun _ => ⟨hv.unique, fun h => h ▸ hv⟩

/-- The text of a float read as a bot id: the float's value, when that is a 32-bit integer. -/
theorem toOption_parseI32_plainText (x : Float) (k : Int) :
    (parseI32 (trim (Float.plainText x))).toOption = some k ↔
      (Float.value x).toRat? = some (k : ℚ) ∧ InI32 k := by
  have hword : IsWord (Float.plainText x) := PlainLiteral.isWord (plainLiteral_spell _ _)
  rw [toOption_parseI32_of_isWord hword]
  exact ⟨fun ⟨h, hk⟩ => ⟨(plainText_numeral_iff x (natAbs_lt_of_inI32 hk)).mp h, hk⟩,
    fun ⟨h, hk⟩ => ⟨(plainText_numeral_iff x (natAbs_lt_of_inI32 hk)).mpr h, hk⟩⟩

theorem toOption_parseI32_of_mem {t : String} (ht : IsWord t) (c : Char) (hc : c ∈ t.toList)
    (hdigit : c.isDigit = false) (hplus : c ≠ '+') (hminus : c ≠ '-') (k : Int) :
    (parseI32 (trim t)).toOption ≠ some k := by
  rw [ne_eq, toOption_parseI32_of_isWord ht, not_and]
  exact fun h => absurd h (not_decimalNumeral_of_mem c hc hdigit hplus hminus k)

theorem toOption_parseI32_bool (b : Bool) (k : Int) :
    (parseI32 (trim (toString b))).toOption ≠ some k := by
  -- both texts are words whose first letter is no digit and no sign
  cases b
  · show (parseI32 (trim "false")).toOption ≠ some k
    exact toOption_parseI32_of_mem ⟨by simp, by simp; decide⟩ 'f' (by simp) (by decide)
      (by decide) (by decide) k
  · show (parseI32 (trim "true")).toOption ≠ some k
    exact toOption_parseI32_of_mem ⟨by simp, by simp; decide⟩ 't' (by simp) (by decide)
      (by decide) (by decide) k

/-! ## Values read as bot ids -/

/-- An integer beyond 64 bits names no bot, and its text, that of the nearest `Float`, is no bot
id: that float stands for at least half the integer. -/
theorem toOption_parseI32_floatOfNat {n : Nat} (hn : 9223372036854775807 < n) (k : Int) :
    (parseI32 (trim (Number.Float.plainText (Json.floatOfNat n)))).toOption ≠ some k := by
  rw [ne_eq, toOption_parseI32_plainText, not_and]
  intro hvalue hk
  have hhalf := le_two_mul_of_value_floatOfRatio (by omega) hvalue
  have hk' : (k : ℚ) ≤ 2147483647 := by exact_mod_cast hk.2
  have hn' : (9223372036854775807 : ℚ) < n := by exact_mod_cast hn
  linarith

/-- **What the lenient text of a value reads as, as a bot id, is the bot the value names.** -/
theorem lenient_botKey_iff (c : Json.Content) (k : Int) :
    (c.lenient.bind fun b => (parseI32 (trim b)).toOption) = some k ↔ NamesBot (some c) k := by
  cases c with
  | string s =>
    rw [Json.Content.lenient, Option.bind_some, toOption_parseI32_eq_some_iff]
    refine ⟨fun h => .text h.1 h.2, fun h => ?_⟩
    cases h with
    | text h hk => exact ⟨h, hk⟩
  | number n =>
    rw [namesBot_number_iff]
    cases n with
    | unsigned n =>
      simp only [Json.Content.lenient, Json.NumberRead.value?, Option.some.injEq]
      split
      · -- within 64 bits: the decimal text of the integer
        rw [Option.bind_some, toOption_parseI32_of_numeral (decimalNumeral_natToString n)]
        exact and_congr_left fun _ => by norm_cast
      · -- beyond 64 bits: the text of the nearest float, far beyond 32 bits
        next hn =>
        rw [Option.bind_some]
        refine iff_of_false (toOption_parseI32_floatOfNat (by omega) k) fun h => ?_
        have hnk : (n : Int) = k := by exact_mod_cast h.1
        have hk := h.2
        unfold InI32 at hk
        omega
    | signed i =>
      simp only [Json.Content.lenient, Json.NumberRead.value?, Option.bind_some,
        Option.some.injEq, toOption_parseI32_of_numeral (decimalNumeral_intToString i)]
      exact and_congr_left fun _ => by norm_cast
    | float x =>
      simp only [Json.Content.lenient, Json.NumberRead.value?, Option.bind_some]
      exact toOption_parseI32_plainText x k
  | bool b =>
    rw [Json.Content.lenient, Option.bind_some]
    refine iff_of_false (toOption_parseI32_bool b k) fun h => ?_
    cases h
  | null | list _ | map _ =>
    refine iff_of_false (by simp [Json.Content.lenient]) fun h => ?_
    cases h

/-! ## The bot id check of a chat -/

namespace Server.State

variable {s : State} {caller : Caller} {data : RequestData} {question : String}

theorem startChat_of_botKey_none
    (hq : (data.question.map trim).filter (!·.isEmpty) = some question)
    (hkey : data.botKey? = none) :
    s.startChat caller data = (s, .error (.badRequest "botId is missing or invalid")) := by
  unfold startChat
  rw [hq]
  dsimp only
  rw [hkey]

theorem startChat_of_botKey_missing {k : Int}
    (hq : (data.question.map trim).filter (!·.isEmpty) = some question)
    (hkey : data.botKey? = some k) (hbot : s.db.bots.find? k = none) :
    s.startChat caller data = (s, .error (.notFound s!"Bot {k}")) := by
  unfold startChat
  rw [hq]
  dsimp only
  rw [hkey]
  dsimp only
  rw [hbot]

theorem startChat_of_botKey_some {k : Int}
    (hq : (data.question.map trim).filter (!·.isEmpty) = some question)
    (hkey : data.botKey? = some k) :
    (s.startChat caller data).2 ≠ .error (.badRequest "botId is missing or invalid") := by
  unfold startChat
  rw [hq]
  dsimp only
  rw [hkey]
  dsimp only
  split <;> simp

end Server.State

/-- **A chat request gets past the bot id check with exactly the id its value names**: a string
holding a numeral of a 32-bit integer, or a number whose value is a 32-bit integer. A request
that asks a question but names no bot (`null`, an absent field, a truth value, any other string
or number) is refused with `botId is missing or invalid`; one that names a bot the server does
not have is answered that the bot is not found. -/
theorem bot_id_names_bot (v : Option Json.Content) (data : RequestData)
    (hv : data.botId = v.bind Json.Content.lenient) :
    (∀ k, data.botKey? = some k ↔ NamesBot v k) ∧
      ∀ (s : Server.State) (caller : Server.Caller) (question : String),
        (data.question.map trim).filter (!·.isEmpty) = some question →
        (s.startChat caller data = (s, .error (.badRequest "botId is missing or invalid")) ↔
          ∀ k, ¬NamesBot v k) ∧
        ∀ k, NamesBot v k → s.db.bots.find? k = none →
          s.startChat caller data = (s, .error (.notFound s!"Bot {k}")) := by
  have hkey : ∀ k, data.botKey? = some k ↔ NamesBot v k := by
    intro k
    unfold RequestData.botKey?
    rw [hv]
    cases v with
    | none =>
      refine iff_of_false (by simp) fun h => ?_
      cases h
    | some c => exact lenient_botKey_iff c k
  refine ⟨hkey, fun s caller question hq => ⟨⟨fun h k hk => ?_, fun h => ?_⟩, fun k hk hbot => ?_⟩⟩
  · exact Server.State.startChat_of_botKey_some hq ((hkey k).mpr hk) (congrArg Prod.snd h)
  · -- no value names a bot, so the check finds none
    cases hk : data.botKey? with
    | none => exact Server.State.startChat_of_botKey_none hq hk
    | some k => exact absurd ((hkey k).mp hk) (h k)
  · exact Server.State.startChat_of_botKey_missing hq ((hkey k).mpr hk) hbot

/-- The request `{"question": "hi", "botId": 3}` names bot 3. -/
theorem bot_id_names_bot_three :
    ({ question := some "hi", botId := some "3" } : RequestData).botId =
        (some (Json.Content.number (.unsigned 3))).bind Json.Content.lenient ∧
      (∀ k, ({ question := some "hi", botId := some "3" } : RequestData).botKey? = some k ↔
        NamesBot (some (.number (.unsigned 3))) k) ∧
      ∀ (s : Server.State) (caller : Server.Caller) (question : String),
        ((({ question := some "hi", botId := some "3" } : RequestData).question.map trim).filter
          (!·.isEmpty) = some question →
        (s.startChat caller { question := some "hi", botId := some "3" } =
            (s, .error (.badRequest "botId is missing or invalid")) ↔
          ∀ k, ¬NamesBot (some (.number (.unsigned 3))) k) ∧
        ∀ k, NamesBot (some (.number (.unsigned 3))) k → s.db.bots.find? k = none →
          s.startChat caller { question := some "hi", botId := some "3" } =
            (s, .error (.notFound s!"Bot {k}"))) :=
  ⟨rfl, bot_id_names_bot (some (.number (.unsigned 3))) { question := some "hi", botId := some "3" }
    rfl⟩

end KnowledgeDesk

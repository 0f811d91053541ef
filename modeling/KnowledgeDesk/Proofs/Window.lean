import KnowledgeDesk.Proofs.ProjectMemory

/-!
# What a message window holds

A window keeps at most one system message, in front, and evicts the oldest other message when
it overflows; a system message replaces the one in front. Here the window of any list of
messages is given in closed form, whatever system messages the list holds and wherever they
stand:

* `ofMessages_eq_kept`: the window of `ms` holds the last system message of `ms`, if there is
  one, then the last of its other messages that fit beside it, in their order. Each `add` keeps
  that form (`add_kept`), since the front holds the only system message;
* `kept_kept`: so a window read into a window again is unchanged, and reading more messages into
  a stored window is reading them after everything the window came from
  (`ofMessages_window_append`);
* `window_keeps_last_messages` gathers these with the bounds every window keeps: at most
  `max n 1` messages, and no system message after the first.
-/

namespace KnowledgeDesk

theorem List.rtake_cons_of_le {α : Type} {x : α} {l : List α} {k : Nat} (hk : k ≤ l.length) :
    (x :: l).rtake k = l.rtake k := by
  simp only [List.rtake, List.length_cons]
  rw [show l.length + 1 - k = (l.length - k) + 1 by omega, List.drop_succ_cons]

theorem List.rtake_rtake_concat {α : Type} (l : List α) (x : α) (k : Nat) :
    (l.rtake k ++ [x]).rtake k = (l ++ [x]).rtake k := by
  cases k with
  | zero => simp [List.rtake_zero]
  | succ k =>
    rw [List.rtake_concat_succ, List.rtake_concat_succ, List.rtake_rtake,
      Nat.min_eq_left (Nat.le_succ k)]

namespace MessageWindow

/-! ## The closed form -/

/-- The last system message of a list, if it has one. -/
def lastSystem (ms : List ChatMessage) : List ChatMessage :=
  (ms.filter (·.role = .system)).getLast?.toList

/-- The messages of a list that are not system messages, in order. -/
def others (ms : List ChatMessage) : List ChatMessage := ms.filter (·.role ≠ .system)

/-- What the window of `ms` holds: its last system message, then the last of its other messages
that fit beside it. -/
def kept (n : Nat) (ms : List ChatMessage) : List ChatMessage :=
  lastSystem ms ++ (others ms).rtake (max n 1 - (lastSystem ms).length)

@[simp] theorem lastSystem_nil : lastSystem [] = [] := rfl

@[simp] theorem others_nil : others [] = [] := rfl

theorem lastSystem_concat_of_ne (ms : List ChatMessage) {m : ChatMessage} (hm : m.role ≠ .system) :
    lastSystem (ms ++ [m]) = lastSystem ms := by
  simp [lastSystem, hm]

theorem lastSystem_concat_of_eq (ms : List ChatMessage) {m : ChatMessage} (hm : m.role = .system) :
    lastSystem (ms ++ [m]) = [m] := by
  simp [lastSystem, hm]

theorem others_concat_of_ne (ms : List ChatMessage) {m : ChatMessage} (hm : m.role ≠ .system) :
    others (ms ++ [m]) = others ms ++ [m] := by
  simp [others, hm]

theorem others_concat_of_eq (ms : List ChatMessage) {m : ChatMessage} (hm : m.role = .system) :
    others (ms ++ [m]) = others ms := by
  simp [others, hm]

theorem mem_filter_of_mem_lastSystem {ms : List ChatMessage} {m : ChatMessage}
    (h : m ∈ lastSystem ms) : m ∈ ms.filter (·.role = .system) := by
  simp only [lastSystem, Option.mem_toList, List.getLast?_eq_some_iff] at h
  obtain ⟨pre, hpre⟩ := h
  simp [hpre]

theorem role_of_mem_lastSystem {ms : List ChatMessage} {m : ChatMessage} (h : m ∈ lastSystem ms) :
    m.role = .system := by
  simpa using (List.mem_filter.mp (mem_filter_of_mem_lastSystem h)).2

theorem mem_of_mem_lastSystem {ms : List ChatMessage} {m : ChatMessage} (h : m ∈ lastSystem ms) :
    m ∈ ms :=
  (List.mem_filter.mp (mem_filter_of_mem_lastSystem h)).1

theorem lastSystem_eq_nil_iff {ms : List ChatMessage} :
    lastSystem ms = [] ↔ ∀ m ∈ ms, m.role ≠ .system := by
  simp [lastSystem]

theorem role_of_mem_others {ms : List ChatMessage} {m : ChatMessage} (h : m ∈ others ms) :
    m.role ≠ .system := by
  simpa [others] using (List.mem_filter.mp h).2

theorem role_of_mem_rtake_others (ms : List ChatMessage) (k : Nat) :
    ∀ m ∈ (others ms).rtake k, m.role ≠ .system :=
  fun _ hm => role_of_mem_others (List.mem_of_mem_drop hm)

theorem lastSystem_cases (ms : List ChatMessage) :
    lastSystem ms = [] ∨ ∃ old, lastSystem ms = [old] ∧ old.role = .system := by
  cases h : (ms.filter (·.role = .system)).getLast? with
  | none => exact .inl (by simp [lastSystem, h])
  | some old =>
    have hmem : old ∈ lastSystem ms := by simp [lastSystem, h]
    exact .inr ⟨old, by simp [lastSystem, h], role_of_mem_lastSystem hmem⟩

theorem length_lastSystem_le (ms : List ChatMessage) : (lastSystem ms).length ≤ 1 := by
  rcases lastSystem_cases ms with h | ⟨old, h, -⟩ <;> simp [h]

theorem lastSystem_front_append {front rest : List ChatMessage} (hfront : front.length ≤ 1)
    (hsys : ∀ x ∈ front, x.role = .system) (hrest : ∀ x ∈ rest, x.role ≠ .system) :
    lastSystem (front ++ rest) = front := by
  have hfilter : rest.filter (·.role = .system) = [] :=
    List.filter_eq_nil_iff.mpr (by simpa using hrest)
  match front, hfront with
  | [], _ => simp [lastSystem, hfilter]
  | [m], _ => simp [lastSystem, hfilter, hsys m List.mem_cons_self]

theorem others_front_append {front rest : List ChatMessage}
    (hsys : ∀ x ∈ front, x.role = .system) (hrest : ∀ x ∈ rest, x.role ≠ .system) :
    others (front ++ rest) = rest := by
  simp only [others, List.filter_append]
  rw [List.filter_eq_nil_iff.mpr (by simpa using hsys),
    List.filter_eq_self.mpr (by simpa using hrest), List.nil_append]

/-! ## Trimming -/

/-- Trimming a system message followed by other messages keeps it and the last of the others
that fit beside it. -/
theorem trim_system_cons {limit : Nat} (hlim : 1 ≤ limit) {m : ChatMessage}
    (hm : m.role = .system) {rest : List ChatMessage} (hrest : ∀ x ∈ rest, x.role ≠ .system) :
    trim limit (m :: rest) = m :: rest.rtake (limit - 1) := by
  induction rest with
  | nil => rw [trim, if_pos (by simpa using hlim)]; simp
  | cons r rest ih =>
    have hr : r.role ≠ .system := hrest r List.mem_cons_self
    rw [trim]
    split
    next hfit =>
      simp only [List.length_cons] at hfit
      rw [List.rtake, Nat.sub_eq_zero_of_le (by simp; omega), List.drop_zero]
    next hlong =>
      -- the oldest message after the system message goes
      have hdrop : dropOldest (m :: r :: rest) = some (m :: rest) := by
        simp [dropOldest, hm, hr]
      split
      next ms' hd =>
        rw [hdrop, Option.some.injEq] at hd
        subst hd
        simp only [List.length_cons, not_le] at hlong
        rw [ih fun x hx => hrest x (List.mem_cons_of_mem r hx), List.rtake_cons_of_le (by omega)]
      next hd => simp [hdrop] at hd

/-- Trimming at most one system message in front of other messages keeps it and the last of the
others that fit beside it. -/
theorem trim_front_append {limit : Nat} (hlim : 1 ≤ limit) {front rest : List ChatMessage}
    (hfront : front.length ≤ 1) (hsys : ∀ x ∈ front, x.role = .system)
    (hrest : ∀ x ∈ rest, x.role ≠ .system) :
    trim limit (front ++ rest) = front ++ rest.rtake (limit - front.length) := by
  match front, hfront with
  | [], _ => simpa using trim_eq_rtake limit hrest
  | [m], _ => exact trim_system_cons hlim (hsys m List.mem_cons_self) hrest

/-! ## Adding one message -/

theorem find?_kept (n : Nat) (ms : List ChatMessage) :
    (kept n ms).find? (·.role = .system) = (lastSystem ms).head? := by
  have hnone : ((others ms).rtake (max n 1 - (lastSystem ms).length)).find? (·.role = .system) =
      none := List.find?_eq_none.mpr fun x hx => by simpa using role_of_mem_rtake_others _ _ x hx
  simp only [kept, List.find?_append, hnone, Option.or_none]
  rcases lastSystem_cases ms with h | ⟨old, h, hold⟩
  · simp [h]
  · simp [h, hold]

/-- What a system message added after `ms` leaves: it, then the last others that fit beside
it. -/
theorem kept_concat_system (n : Nat) (ms : List ChatMessage) {m : ChatMessage}
    (hm : m.role = .system) : kept n (ms ++ [m]) = m :: (others ms).rtake (max n 1 - 1) := by
  simp [kept, lastSystem_concat_of_eq ms hm, others_concat_of_eq ms hm]

/-- **One step of a window.** Adding a message to the window of `ms` gives the window of `ms`
followed by it. -/
theorem add_kept (n : Nat) (ms : List ChatMessage) (m : ChatMessage) :
    (⟨max n 1, kept n ms⟩ : MessageWindow).add m = ⟨max n 1, kept n (ms ++ [m])⟩ := by
  have hlim : 1 ≤ max n 1 := le_max_right n 1
  have hrest := role_of_mem_rtake_others ms (max n 1 - (lastSystem ms).length)
  by_cases hm : m.role = .system
  · -- a system message goes in front, in place of the one there was
    rw [kept_concat_system n ms hm]
    simp only [add, hm, if_true, find?_kept]
    rcases lastSystem_cases ms with h | ⟨old, h, hold⟩
    · simp only [h, List.head?_nil]
      simp only [kept, h, List.nil_append, List.length_nil, Nat.sub_zero] at hrest ⊢
      rw [trim_system_cons hlim hm hrest, List.rtake_rtake, Nat.min_eq_left (Nat.sub_le _ _)]
    · simp only [h, List.head?_cons]
      simp only [kept, h, List.length_singleton] at hrest ⊢
      split
      next heq => subst heq; rfl
      next =>
        simp only [List.singleton_append, withoutSystem, hold, if_true]
        rw [trim_system_cons hlim hm hrest, List.rtake_rtake, Nat.min_self]
  · -- any other message goes last, and the oldest of the others goes when it overflows
    rw [add_of_ne_system _ hm]
    have hrest' : ∀ x ∈ (others ms).rtake (max n 1 - (lastSystem ms).length) ++ [m],
        x.role ≠ .system := by
      intro x hx
      rcases List.mem_append.mp hx with hx | hx
      · exact hrest x hx
      · rw [List.mem_singleton.mp hx]; exact hm
    simp only [kept, List.append_assoc]
    rw [trim_front_append hlim (length_lastSystem_le ms) (fun _ => role_of_mem_lastSystem) hrest',
      List.rtake_rtake_concat, lastSystem_concat_of_ne ms hm, others_concat_of_ne ms hm]

/-! ## Whole windows -/

/-- **The window of a list of messages** holds its last system message, if any, then the last of
its other messages that fit beside it. -/
theorem ofMessages_eq_kept (n : Nat) (ms : List ChatMessage) :
    ofMessages n ms = ⟨max n 1, kept n ms⟩ := by
  -- the window grows one message at a time, and each `add` keeps the closed form
  induction ms using List.reverseRecOn with
  | nil => simp [ofMessages, empty, kept]
  | append_singleton ms m ih =>
    rw [ofMessages_append, List.foldl_cons, List.foldl_nil, ih, add_kept]

theorem kept_kept (n : Nat) (ms : List ChatMessage) : kept n (kept n ms) = kept n ms := by
  have hrest := role_of_mem_rtake_others ms (max n 1 - (lastSystem ms).length)
  have hsys : ∀ x ∈ lastSystem ms, x.role = .system := fun _ => role_of_mem_lastSystem
  have hls : lastSystem (kept n ms) = lastSystem ms :=
    lastSystem_front_append (length_lastSystem_le ms) hsys hrest
  rw [kept, hls]
  simp only [kept, others_front_append hsys hrest, List.rtake_rtake, Nat.min_self]

theorem ofMessages_window (n : Nat) (ms : List ChatMessage) :
    ofMessages n (ofMessages n ms).messages = ofMessages n ms := by
  rw [ofMessages_eq_kept n ms, ofMessages_eq_kept, kept_kept]

/-- Reading messages into a stored window is reading them after everything it came from. -/
theorem ofMessages_window_append (n : Nat) (xs ys : List ChatMessage) :
    ofMessages n ((ofMessages n xs).messages ++ ys) = ofMessages n (xs ++ ys) := by
  rw [ofMessages_append, ofMessages_window, ← ofMessages_append]

theorem length_kept_le (n : Nat) (ms : List ChatMessage) : (kept n ms).length ≤ max n 1 := by
  have := length_lastSystem_le ms
  simp only [kept, List.length_append, List.rtake, List.length_drop]
  omega

theorem role_of_mem_tail_kept (n : Nat) (ms : List ChatMessage) :
    ∀ m ∈ (kept n ms).tail, m.role ≠ .system := by
  -- the tail is part of the other messages kept
  have htail : (kept n ms).tail ⊆ (others ms).rtake (max n 1 - (lastSystem ms).length) := by
    unfold kept
    rcases lastSystem_cases ms with h | ⟨old, h, -⟩ <;> rw [h]
    · exact (List.tail_sublist _).subset
    · simp
  exact fun m hm => role_of_mem_rtake_others _ _ m (htail hm)

/-- **A window keeps the last messages.** The window of `ms` in `n` messages holds the last system
message of `ms`, if it has one, followed by the last `max n 1 - 1` of its other messages when it
has a system message and the last `max n 1` of them when it has none, in their order. So it
holds at most `max n 1` messages and no system message after the first, and reading more
messages into a stored window is the same as reading them after what the window came from. -/
theorem window_keeps_last_messages (n : Nat) (ms : List ChatMessage) :
    (ofMessages n ms).messages =
        lastSystem ms ++ (others ms).rtake (max n 1 - (lastSystem ms).length) ∧
      (ofMessages n ms).messages.length ≤ max n 1 ∧
      (∀ m ∈ (ofMessages n ms).messages.tail, m.role ≠ .system) ∧
      ∀ ys, ofMessages n ((ofMessages n ms).messages ++ ys) = ofMessages n (ms ++ ys) := by
  rw [ofMessages_eq_kept]
  exact ⟨rfl, length_kept_le n ms, role_of_mem_tail_kept n ms, fun ys => by
    rw [← ofMessages_eq_kept, ofMessages_window_append]⟩

end MessageWindow

end KnowledgeDesk

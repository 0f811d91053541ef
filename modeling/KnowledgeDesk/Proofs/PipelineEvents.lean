import Mathlib
import KnowledgeDesk.Chat.Pipeline

/-!
# The events of a job's steps

A job's steps are a finite map from step numbers to steps (`StepMap`). On that map a call is
simple to say (`StepMap.step`): starting a step puts a pending step without a message under its
number, replacing any step there; the other calls change a step that is there (its message, its
status, or both) and do nothing to a number without one. Each call that takes effect sends one
`pipeline` event carrying the whole map as a JSON object, one field per step in increasing numeric
order, each step's fields in the order status, message, container, written by whatever printer
the JSON library has; a call that does nothing sends nothing. Closing sends one `message` event `CLOSE` and nothing follows it (`StepMap.session`).

The pipeline keeps its steps in a list. The main statement, `session_eq_reference`: for every
sequence of calls, closed or not, the pipeline sends exactly the events of the map, call by call.

* `insertStep` keeps the list strictly increasing by number (`pairwise_insertStep`) and puts the
  step under its number, leaving the others (`lookup_insertStep_self`, `lookup_insertStep_of_ne`);
  a change finds a step exactly where the list has one (`find?_fst_eq`).
* `Holds p m`, the invariant: the list is strictly increasing and looks up as the map. Under it the
  list's fields are the map's, in the same order (`Holds.stepsEvent`), one call keeps it and sends
  what the map sends (`Holds.apply_of_step`, `Holds.apply_of_step_none`), and so does a run of
  calls (`Holds.run`).
-/

namespace KnowledgeDesk

/-! ## The map of steps -/

abbrev StepMap := Finmap fun _ : Int => Step

namespace StepMap

/-- A step as a JSON object: its status, its message or `null`, its container, in that order. -/
def stepObject (s : Step) : Json :=
  .obj [("status", .str s.status.name),
        ("message", match s.message with | some m => .str m | none => .null),
        ("container", .str s.container)]

/-- The map as a JSON object: one field per step, named by the step's number in decimal, the
fields in increasing numeric order. -/
def toJson (m : StepMap) : Json :=
  .obj (m.keys.sort.filterMap fun k => (m.lookup k).map fun s => (toString k, stepObject s))

def step (m : StepMap) : StepOp → Option StepMap
  | .init id container => some (m.insert id ⟨.pending, none, container⟩)
  | .update id message => (m.lookup id).map fun s => m.insert id { s with message := some message }
  | .complete id => (m.lookup id).map fun s => m.insert id { s with status := .completed }
  | .fail id message =>
    (m.lookup id).map fun s => m.insert id { s with status := .failed, message := some message }

variable (print : Json → String)

/-- The events of calls made in order: a call that takes effect sends one `pipeline` event with the
whole map after it, written by `print`; any other sends nothing and changes nothing. -/
def events (m : StepMap) : List StepOp → List (List StreamEvent)
  | [] => []
  | op :: ops =>
    match m.step op with
    | some m' => [⟨"pipeline", print m'.toJson⟩] :: events m' ops
    | none => [] :: events m ops

/-- The events of a job: its calls from no steps, then, when it is closed, one `message` event
`CLOSE`, after which nothing comes. -/
def session (ops : List StepOp) (closed : Bool) : List (List StreamEvent) :=
  events print ∅ ops ++ if closed then [[⟨"message", "CLOSE"⟩]] else []

end StepMap

/-! ## Steps in a list -/

namespace Pipeline

theorem lookup_cons_of_ne {k j : Int} {t : Step} {rest : List (Int × Step)} (h : k ≠ j) :
    ((j, t) :: rest).lookup k = rest.lookup k := by
  rw [List.lookup_cons, beq_eq_false_iff_ne.2 h]

theorem lookup_insertStep_self (id : Int) (s : Step) :
    ∀ l : List (Int × Step), (insertStep id s l).lookup id = some s
  | [] => List.lookup_cons_self
  | (j, t) :: rest => by
    simp only [insertStep]
    split_ifs with hlt heq
    · exact List.lookup_cons_self
    · exact List.lookup_cons_self
    · rw [lookup_cons_of_ne heq, lookup_insertStep_self id s rest]

theorem lookup_insertStep_of_ne {k id : Int} (hk : k ≠ id) (s : Step) :
    ∀ l : List (Int × Step), (insertStep id s l).lookup k = l.lookup k
  | [] => by rw [insertStep, lookup_cons_of_ne hk]
  | (j, t) :: rest => by
    simp only [insertStep]
    split_ifs with hlt heq
    · rw [lookup_cons_of_ne hk]
    · subst heq
      rw [lookup_cons_of_ne hk, lookup_cons_of_ne hk]
    · by_cases hkj : k = j
      · subst hkj
        rw [List.lookup_cons_self, List.lookup_cons_self]
      · rw [lookup_cons_of_ne hkj, lookup_cons_of_ne hkj, lookup_insertStep_of_ne hk s rest]

theorem mem_insertStep {id : Int} {s : Step} {x : Int × Step} :
    ∀ {l : List (Int × Step)}, x ∈ insertStep id s l → x = (id, s) ∨ x ∈ l
  | [], h => by simpa [insertStep] using h
  | (j, t) :: rest, h => by
    simp only [insertStep] at h
    split_ifs at h with hlt heq
    · simpa using h
    · rcases List.mem_cons.1 h with h | h
      · exact .inl h
      · exact .inr (List.mem_cons_of_mem _ h)
    · rcases List.mem_cons.1 h with h | h
      · exact .inr (h ▸ List.mem_cons_self)
      · rcases mem_insertStep h with h | h
        · exact .inl h
        · exact .inr (List.mem_cons_of_mem _ h)

theorem pairwise_insertStep (id : Int) (s : Step) :
    ∀ {l : List (Int × Step)}, l.Pairwise (fun a b => a.1 < b.1) →
      (insertStep id s l).Pairwise (fun a b => a.1 < b.1)
  | [], _ => by simp [insertStep]
  | (j, t) :: rest, h => by
    have hrest : ∀ x ∈ rest, j < x.1 := fun x hx => List.rel_of_pairwise_cons h hx
    simp only [insertStep]
    split_ifs with hlt heq
    · -- a new first step, below every number of the list
      refine List.Pairwise.cons (fun x hx => ?_) h
      rcases List.mem_cons.1 hx with rfl | hx
      · exact hlt
      · exact hlt.trans (hrest x hx)
    · -- the first step replaced
      subst heq
      exact List.Pairwise.cons hrest h.of_cons
    · -- the step goes further down, above the first number
      refine List.Pairwise.cons (fun x hx => ?_) (pairwise_insertStep id s h.of_cons)
      rcases mem_insertStep hx with rfl | hx
      · show j < id
        omega
      · exact hrest x hx

theorem find?_fst_eq (id : Int) :
    ∀ l : List (Int × Step), l.find? (·.1 = id) = (l.lookup id).map fun s => (id, s)
  | [] => rfl
  | (j, t) :: rest => by
    by_cases h : j = id
    · subst h
      simp
    · rw [lookup_cons_of_ne (Ne.symm h)]
      simp [h, find?_fst_eq id rest]

variable (print : Json → String)

theorem change_of_lookup {p : Pipeline} {id : Int} {s : Step} (h : p.steps.lookup id = some s)
    (f : Step → Step) :
    p.change print id f = (⟨insertStep id (f s) p.steps⟩,
      [(⟨insertStep id (f s) p.steps⟩ : Pipeline).stepsEvent print]) := by
  rw [change, find?_fst_eq, h]
  rfl

theorem change_of_lookup_none {p : Pipeline} {id : Int} (h : p.steps.lookup id = none)
    (f : Step → Step) : p.change print id f = (p, []) := by
  rw [change, find?_fst_eq, h]
  rfl

end Pipeline

/-! ## The list holds the map -/

/-- A pipeline holds a map of steps: its steps are in strictly increasing order of number and each
number looks up the map's step. -/
structure Holds (p : Pipeline) (m : StepMap) : Prop where
  sorted : p.steps.Pairwise fun a b => a.1 < b.1
  lookup : ∀ k, p.steps.lookup k = m.lookup k

theorem holds_empty : Holds {} ∅ :=
  ⟨List.Pairwise.nil, fun k => by simp⟩

/-- Reading the steps of a list by its numbers, each with the step it looks up, gives the list
back when no number is there twice. -/
theorem filterMap_lookup {α : Type} (f : Int → Step → α) :
    ∀ {l : List (Int × Step)}, (l.map Prod.fst).Nodup →
      (l.map Prod.fst).filterMap (fun k => (l.lookup k).map (f k)) = l.map fun e => f e.1 e.2
  | [], _ => rfl
  | (j, t) :: rest, h => by
    have hj : j ∉ rest.map Prod.fst := (List.nodup_cons.1 h).1
    -- past the first step the list looks up as its rest
    have hrest : ∀ k ∈ rest.map Prod.fst,
        (((j, t) :: rest).lookup k).map (f k) = (rest.lookup k).map (f k) := by
      intro k hk
      have hkj : k ≠ j := by
        rintro rfl
        exact hj hk
      rw [Pipeline.lookup_cons_of_ne hkj]
    rw [List.map_cons, List.filterMap_cons, List.lookup_cons_self, Option.map_some,
      List.filterMap_congr hrest, filterMap_lookup f (List.nodup_cons.1 h).2]
    rfl

namespace Holds

variable {p : Pipeline} {m : StepMap} (print : Json → String)

theorem map_fst (h : Holds p m) : p.steps.map Prod.fst = m.keys.sort := by
  have hsorted : (p.steps.map Prod.fst).Pairwise (· < ·) := List.pairwise_map.2 h.sorted
  refine hsorted.eq_of_mem_iff (Finset.sortedLT_sort m.keys).pairwise fun k => ?_
  rw [Finset.mem_sort, Finmap.mem_keys, ← Finmap.lookup_isSome, ← h.lookup,
    List.lookup_isSome_iff]
  simp only [List.mem_map, beq_iff_eq]
  exact ⟨fun ⟨e, he, hk⟩ => ⟨e, he, hk.symm⟩, fun ⟨e, he, hk⟩ => ⟨e, he, hk.symm⟩⟩

theorem stepsEvent (h : Holds p m) : p.stepsEvent print = ⟨"pipeline", print m.toJson⟩ := by
  have hnodup : (p.steps.map Prod.fst).Nodup :=
    (List.pairwise_map.2 h.sorted).imp fun hlt => ne_of_lt hlt
  have hfields := filterMap_lookup (fun k s => (toString k, Pipeline.stepJson s)) hnodup
  simp only [h.lookup] at hfields
  rw [h.map_fst] at hfields
  simp only [Pipeline.stepsEvent, Pipeline.stepsText, StepMap.toJson]
  congr 3
  exact hfields.symm

theorem insertStep (h : Holds p m) (id : Int) (s : Step) :
    Holds ⟨Pipeline.insertStep id s p.steps⟩ (m.insert id s) := by
  refine ⟨Pipeline.pairwise_insertStep id s h.sorted, fun k => ?_⟩
  by_cases hk : k = id
  · subst hk
    rw [Pipeline.lookup_insertStep_self, Finmap.lookup_insert]
  · rw [Pipeline.lookup_insertStep_of_ne hk, Finmap.lookup_insert_of_ne _ hk, h.lookup]

theorem change_of_lookup (h : Holds p m) {id : Int} {s : Step} (hs : m.lookup id = some s)
    (f : Step → Step) :
    Holds (p.change print id f).1 (m.insert id (f s)) ∧
      (p.change print id f).2 = [⟨"pipeline", print (StepMap.toJson (m.insert id (f s)))⟩] := by
  have hp : p.steps.lookup id = some s := (h.lookup id).trans hs
  have hnext := h.insertStep id (f s)
  rw [Pipeline.change_of_lookup print hp]
  exact ⟨hnext, by rw [hnext.stepsEvent]⟩

theorem change_of_lookup_none (h : Holds p m) {id : Int} (hs : m.lookup id = none)
    (f : Step → Step) : p.change print id f = (p, []) :=
  Pipeline.change_of_lookup_none print ((h.lookup id).trans hs) f

/-- **A call that takes effect on the map** keeps the list holding the map and sends the map's one
event. -/
theorem apply_of_step (h : Holds p m) {op : StepOp} {m' : StepMap} (hs : m.step op = some m') :
    Holds (p.apply print op).1 m' ∧ (p.apply print op).2 = [⟨"pipeline", print m'.toJson⟩] := by
  cases op with
  | init id container =>
    cases hs
    have hnext := h.insertStep id ⟨.pending, none, container⟩
    exact ⟨hnext, by simp only [Pipeline.apply, Pipeline.initStep, hnext.stepsEvent]⟩
  | update id message =>
    obtain ⟨s, hl, rfl⟩ := Option.map_eq_some_iff.1 hs
    exact h.change_of_lookup print hl _
  | complete id =>
    obtain ⟨s, hl, rfl⟩ := Option.map_eq_some_iff.1 hs
    exact h.change_of_lookup print hl _
  | fail id message =>
    obtain ⟨s, hl, rfl⟩ := Option.map_eq_some_iff.1 hs
    exact h.change_of_lookup print hl _

/-- **A call that does nothing on the map** does nothing to the list and sends nothing. -/
theorem apply_of_step_none (h : Holds p m) {op : StepOp} (hs : m.step op = none) :
    p.apply print op = (p, []) := by
  cases op with
  | init id container => cases hs
  | update id message => exact h.change_of_lookup_none print (Option.map_eq_none_iff.1 hs) _
  | complete id => exact h.change_of_lookup_none print (Option.map_eq_none_iff.1 hs) _
  | fail id message => exact h.change_of_lookup_none print (Option.map_eq_none_iff.1 hs) _

/-- **Every run of calls** sends, call by call, the events of the same calls on the map. -/
theorem run (h : Holds p m) (ops : List StepOp) : (p.run print ops).2 = m.events print ops := by
  induction ops generalizing p m with
  | nil => rfl
  | cons op ops ih =>
    simp only [Pipeline.run, StepMap.events]
    -- split on whether the call takes effect on the map
    cases hs : m.step op with
    | some m' =>
      obtain ⟨hnext, hsent⟩ := h.apply_of_step print hs
      rw [hsent, ih hnext]
    | none =>
      rw [h.apply_of_step_none print hs, ih h]

end Holds

/-- **The pipeline sends the events of the map of steps.** For every JSON printer and every
sequence of calls, closed or not: starting a step puts a pending step without a message under its
number, replacing any there; the other calls change a step that is there and do nothing, and send
nothing, for a number without one; each call that takes effect sends one `pipeline` event with the
printed JSON object of all steps, numbers in increasing numeric order and fields in the order
status, message, container; closing sends one `message` event `CLOSE`, and nothing comes after
it. -/
theorem session_eq_reference (print : Json → String) (ops : List StepOp) (closed : Bool) :
    Pipeline.session print ops closed = StepMap.session print ops closed := by
  rw [Pipeline.session, StepMap.session, holds_empty.run print ops]
  rfl

end KnowledgeDesk

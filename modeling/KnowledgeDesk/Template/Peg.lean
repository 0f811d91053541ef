/-!
# Parsing expression grammars

A grammar is a set of named rules, each a parsing expression over characters. Rules come in four
kinds:

* `normal` rules produce a node for their match and take part in error reports;
* `silent` rules are only names for their expressions;
* `atomic` rules produce a node but nothing inside them does, and skip no blanks inside;
* `compoundAtomic` rules skip no blanks inside but keep the nodes of the rules they call.

Outside atomic rules, a blank run is skipped between the parts of a sequence and between the
rounds of a repetition.

When the input does not match, the report names the rules that failed at the furthest position
where a rule was tried. A rule that fails after its own parts made exactly one attempt there is
represented by that attempt; otherwise its parts' attempts there are replaced by the rule itself.
Under a negative lookahead the roles swap: a rule that matches there is reported as unexpected.
Nothing is reported from inside atomic rules.
-/

namespace KnowledgeDesk.Peg

/-- How a rule reads its body. -/
inductive RuleKind where
  | normal
  | silent
  | atomic
  | compoundAtomic
  deriving Repr, DecidableEq

/-- Whether blanks are skipped and nodes kept at the current point. -/
inductive Atomicity where
  | nonAtomic
  | atomic
  | compoundAtomic
  deriving Repr, DecidableEq

/-- Whether the current point is inside a lookahead, and of which sign. -/
inductive Lookahead where
  | none
  | positive
  | negative
  deriving Repr, DecidableEq

/-- A parsing expression with rules named by `R`. -/
inductive Expr (R : Type) where
  | str (s : List Char)
  | any
  | range (lo hi : Char)
  | seq (a b : Expr R)
  | alt (a b : Expr R)
  | opt (a : Expr R)
  | star (a : Expr R)
  | plus (a : Expr R)
  | ahead (a : Expr R)
  | notAhead (a : Expr R)
  | call (r : R)
  | eoi

/-- A grammar: each rule's kind and body, the order rules are reported in, and the blank
characters skipped between parts. -/
structure Grammar (R : Type) where
  kind : R → RuleKind
  body : R → Expr R
  rank : R → Nat
  isBlank : Char → Bool

/-- A matched rule: its span (start inclusive, stop exclusive, in characters) and the nodes of
the rules matched inside it. -/
inductive Node (R : Type) where
  | node (rule : R) (start stop : Nat) (children : List (Node R))

/-- The state of a parse: position, context, and the attempts at the furthest position. -/
structure State (R : Type) where
  pos : Nat
  atomicity : Atomicity := .nonAtomic
  lookahead : Lookahead := .none
  attemptPos : Nat := 0
  posAttempts : Array R := #[]
  negAttempts : Array R := #[]

variable {R : Type}

def State.attemptsAt (st : State R) (pos : Nat) : Nat :=
  if st.attemptPos = pos then st.posAttempts.size + st.negAttempts.size else 0

/-- Record that a rule started at `pos` failed (or, under a negative lookahead, matched). -/
def State.track (st : State R) (rule : R) (pos posIdx negIdx prev : Nat) : State R :=
  if st.atomicity = .atomic then st else
  let curr := st.attemptsAt pos
  if curr > prev && curr - prev = 1 then st else
  let st := if pos = st.attemptPos then
      { st with posAttempts := st.posAttempts.extract 0 posIdx,
                negAttempts := st.negAttempts.extract 0 negIdx }
    else st
  let st := if pos > st.attemptPos then
      { st with posAttempts := #[], negAttempts := #[], attemptPos := pos }
    else st
  if pos = st.attemptPos then
    if st.lookahead = .negative then { st with negAttempts := st.negAttempts.push rule }
    else { st with posAttempts := st.posAttempts.push rule }
  else st

/-- The outcome of matching: the state after, and the nodes matched if it matched. -/
abbrev Outcome (R : Type) := State R × Option (List (Node R))

section Run

variable (g : Grammar R) (input : Array Char)

def skipBlanks (st : State R) : State R :=
  if st.atomicity ≠ .nonAtomic then st else
  let rec go (pos : Nat) : Nat → Nat
    | 0 => pos
    | fuel + 1 =>
      if h : pos < input.size then
        if g.isBlank input[pos] then go (pos + 1) fuel else pos
      else pos
  { st with pos := go st.pos (input.size - st.pos) }

def matchesAt (s : List Char) (pos : Nat) : Bool :=
  (List.range s.length).all fun i => input[pos + i]? = s[i]?

def withAtomicity (a : Atomicity) (f : State R → Outcome R) (st : State R) : Outcome R :=
  let initial := st.atomicity
  let (st1, r) := f { st with atomicity := a }
  ({ st1 with atomicity := initial }, r)

/-- A rule's match: a node when nodes are kept, and the attempt bookkeeping. -/
def ruleCall (rule : R) (f : State R → Outcome R) (st : State R) : Outcome R :=
  let start := st.pos
  let (posIdx, negIdx) :=
    if start = st.attemptPos then (st.posAttempts.size, st.negAttempts.size) else (0, 0)
  let keeps := st.lookahead = .none && st.atomicity ≠ .atomic
  let prev := st.attemptsAt start
  match f st with
  | (st1, some kids) =>
    let st2 := if st1.lookahead = .negative then st1.track rule start posIdx negIdx prev else st1
    (st2, some (if keeps then [.node rule start st1.pos kids] else kids))
  | (st1, none) =>
    let st2 := if st1.lookahead ≠ .negative then st1.track rule start posIdx negIdx prev else st1
    ({ st2 with pos := start }, none)

def Lookahead.inner (initial : Lookahead) (positive : Bool) : Lookahead :=
  if positive then (if initial = .negative then .negative else .positive)
  else (if initial = .negative then .positive else .negative)

mutual
/-- Match an expression. `fuel` bounds the nesting of the match and the rounds of repetitions. -/
def run : Nat → Expr R → State R → Outcome R
  | 0, _, st => (st, none)
  | fuel + 1, e, st =>
    match e with
    | .str s =>
      if matchesAt input s st.pos then ({ st with pos := st.pos + s.length }, some []) else (st, none)
    | .any => if st.pos < input.size then ({ st with pos := st.pos + 1 }, some []) else (st, none)
    | .range lo hi =>
      match input[st.pos]? with
      | some c => if lo ≤ c && c ≤ hi then ({ st with pos := st.pos + 1 }, some []) else (st, none)
      | none => (st, none)
    | .eoi => if st.pos = input.size then (st, some []) else (st, none)
    | .seq a b =>
      match run fuel a st with
      | (st1, none) => ({ st1 with pos := st.pos }, none)
      | (st1, some k1) =>
        match run fuel b (skipBlanks g input st1) with
        | (st2, none) => ({ st2 with pos := st.pos }, none)
        | (st2, some k2) => (st2, some (k1 ++ k2))
    | .alt a b =>
      match run fuel a st with
      | (st1, some k) => (st1, some k)
      | (st1, none) => run fuel b { st1 with pos := st.pos }
    | .opt a =>
      match run fuel a st with
      | (st1, some k) => (st1, some k)
      | (st1, none) => ({ st1 with pos := st.pos }, some [])
    | .star a =>
      match run fuel a st with
      | (st1, none) => ({ st1 with pos := st.pos }, some [])
      | (st1, some k) => more fuel a st1 k
    | .plus a =>
      match run fuel a st with
      | (st1, none) => ({ st1 with pos := st.pos }, none)
      | (st1, some k) => more fuel a st1 k
    | .ahead a | .notAhead a =>
      let positive := match e with | .ahead _ => true | _ => false
      let initial := st.lookahead
      let (st1, r) := run fuel a { st with lookahead := initial.inner positive }
      let st2 := { st1 with pos := st.pos, lookahead := initial }
      if r.isSome = positive then (st2, some []) else (st2, none)
    | .call r =>
      match g.kind r with
      | .silent => run fuel (g.body r) st
      | .normal => ruleCall r (run fuel (g.body r)) st
      | .atomic => ruleCall r (withAtomicity .atomic (run fuel (g.body r))) st
      | .compoundAtomic => withAtomicity .compoundAtomic (ruleCall r (run fuel (g.body r))) st

def more : Nat → Expr R → State R → List (Node R) → Outcome R
  | 0, _, st, acc => (st, some acc)
  | fuel + 1, a, st, acc =>
    match run fuel a (skipBlanks g input st) with
    | (st1, none) => ({ st1 with pos := st.pos }, some acc)
    | (st1, some k) => more fuel a st1 (acc ++ k)
end

end Run

/-- Why an input does not match: the furthest position where rules were tried, the rules that
failed there, and the rules that matched where they must not, each sorted by rank without
repeats. -/
structure Failure (R : Type) where
  pos : Nat
  expected : List R
  unexpected : List R

def sortRules (g : Grammar R) (rs : List R) : List R :=
  let sorted := rs.mergeSort fun a b => decide (g.rank a ≤ g.rank b)
  sorted.foldr (fun r acc => match acc with
    | s :: _ => if g.rank s = g.rank r then acc else r :: acc
    | [] => [r]) []

/-- Match the start rule against the whole input: its nodes, or why it failed. -/
def parse (g : Grammar R) (input : Array Char) (start : Expr R) :
    Except (Failure R) (List (Node R)) :=
  match run g input (64 * (input.size + 64)) start { pos := 0 } with
  | (_, some nodes) => .ok nodes
  | (st, none) =>
    .error ⟨st.attemptPos, sortRules g st.posAttempts.toList, sortRules g st.negAttempts.toList⟩

end KnowledgeDesk.Peg

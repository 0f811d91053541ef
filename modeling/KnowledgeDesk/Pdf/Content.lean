import KnowledgeDesk.Pdf.Syntax

/-!
# Content streams

A page's content is a run of *operations*: operands (objects without references) followed by
an operator, a word of letters, `*`, `'` and `"`. Reading stops at the first place where no
operation can be read; what follows is ignored.
-/

namespace KnowledgeDesk.Pdf

/-- An operator with its operands. -/
structure Operation where
  operator : String
  operands : List Obj

/-- A byte that may be part of an operator. -/
def isOperatorByte (b : UInt8) : Bool :=
  (0x41 ≤ b && b ≤ 0x5A) || (0x61 ≤ b && b ≤ 0x7A) || b == 0x2A || b == 0x27 || b == 0x22

/-- The operator at `p` and the position after it. -/
def operatorAt (s : ByteArray) (p : Nat) : Option (String × Nat) :=
  let n := ((List.range (s.size - p)).find? fun i => !(s[p + i]?.any isOperatorByte)).getD (s.size - p)
  if n = 0 then none else some (latin1 s p (p + n), p + n)

/-- The operands from `p`, each followed by blanks and comments. -/
def operandsAt (s : ByteArray) : Nat → Nat → List Obj → List Obj × Nat
  | 0, p, acc => (acc.reverse, p)
  | fuel + 1, p, acc =>
    match operandAt s p with
    | some (o, q) => operandsAt s fuel (space s q) (o :: acc)
    | none => (acc.reverse, p)

/-- The operations from `p` on. -/
def operationsAt (s : ByteArray) : Nat → Nat → List Operation → List Operation
  | 0, _, acc => acc.reverse
  | fuel + 1, p, acc =>
    let (operands, q) := operandsAt s (s.size + 1) p []
    match operatorAt s q with
    | some (name, r) => operationsAt s fuel (space s r) (⟨name, operands⟩ :: acc)
    | none => acc.reverse

/-- The operations of a content stream. -/
def operations (s : ByteArray) : List Operation :=
  operationsAt s (s.size + 1) (space s 0) []

end KnowledgeDesk.Pdf

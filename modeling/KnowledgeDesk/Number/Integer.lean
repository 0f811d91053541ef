/-!
# Reading integers

Decimal integers as the standard text-to-integer reading takes them: an optional `+` (or `-` for
signed types), then at least one ASCII digit and nothing else. Digits are read left to right, so
the first problem met decides the error: a character that is no digit, or a value beyond the
type's range.
-/

namespace KnowledgeDesk.Number

/-- Why a text is no integer of a type. -/
inductive IntError where
  | empty
  | invalidDigit
  | posOverflow
  | negOverflow
  deriving Repr, DecidableEq

/-- The message of an integer error. -/
def IntError.message : IntError → String
  | .empty => "cannot parse integer from empty string"
  | .invalidDigit => "invalid digit found in string"
  | .posOverflow => "number too large to fit in target type"
  | .negOverflow => "number too small to fit in target type"

/-- Read digits onto `acc` toward a bound: the first non-digit or the first step past the bound
fails. -/
def readBounded (bound : Nat) (overflow : IntError) (acc : Nat) : List Char → Except IntError Nat
  | [] => .ok acc
  | c :: rest =>
    if c.isDigit then
      let v := acc * 10 + (c.toNat - '0'.toNat)
      if v > bound then .error overflow else readBounded bound overflow v rest
    else .error .invalidDigit

/-- Read an integer in `[lo, hi]` (`lo ≤ 0 ≤ hi`); a `-` is read only when `lo < 0`. -/
def parseIntIn (lo hi : Int) (s : String) : Except IntError Int :=
  match s.toList with
  | [] => .error .empty
  | ['+'] | ['-'] => .error .invalidDigit
  | '+' :: rest => (readBounded hi.toNat .posOverflow 0 rest).map Int.ofNat
  | '-' :: rest =>
    if lo < 0 then (readBounded lo.natAbs .negOverflow 0 rest).map fun n => -(n : Int)
    else .error .invalidDigit
  | cs => (readBounded hi.toNat .posOverflow 0 cs).map Int.ofNat

/-- Read a 64-bit unsigned integer. -/
def parseU64 (s : String) : Except IntError Nat :=
  (parseIntIn 0 18446744073709551615 s).map Int.toNat

/-- Read a 32-bit signed integer. -/
def parseI32 (s : String) : Except IntError Int := parseIntIn (-2147483648) 2147483647 s

end KnowledgeDesk.Number

import KnowledgeDesk.Json.Value

/-!
# Compiled templates

A compiled template is a list of elements: text, value expressions, blocks, comments, partials
and decorators. Each element keeps the line and column of its tag, which render errors report.

Names in tags are paths into the data: `a.b`, `this`, `../a` (one block up), `@root.a` (from the
top), `@index` (a block's local value), `[key with spaces]`.
-/

namespace KnowledgeDesk.Template

/-- A step of a path. -/
inductive PathSeg where
  | named (name : String)
  | root
  | up
  | local
  deriving Repr, DecidableEq

/-- An argument of a tag: a bare name, a path, a literal, or a nested helper call. -/
inductive Param where
  | name (s : String)
  | path (raw : String) (segs : List PathSeg)
  | literal (j : Json)
  | sub (name : Param) (params : List Param) (hash : List (String × Param))
  deriving Inhabited

/-- The contents of a tag: what it names, its arguments, its block parameters, and whether it
trims blanks before (`{{~`) or after (`~}}`). -/
structure Call where
  name : Param
  params : List Param := []
  hash : List (String × Param) := []
  blockParams : Option (String × Option String) := none
  omitPre : Bool := false
  omitPro : Bool := false
  deriving Inhabited

/-- The name a tag gives when read as a helper's name: a bare name, or a path as written. -/
def Param.asName : Param → String
  | .name s => s
  | .path raw _ => raw
  | .literal j => Json.compact j
  | .sub n _ _ => n.asName

/-- Whether a call has no arguments. -/
def Call.nameOnly (c : Call) : Bool := c.params.isEmpty && c.hash.isEmpty

/-- What kind of block a block tag opens. -/
inductive BlockKind where
  | helper
  | raw
  | decorator
  | partialBlock
  deriving Repr, DecidableEq

/-- An element of a template, with the line and column of its tag. -/
inductive Element where
  | text (s : String)
  | value (c : Call) (line col : Nat)
  | block (kind : BlockKind) (c : Call) (body : List Element) (inverse : Option (List Element))
      (line col : Nat)
  | comment (line col : Nat)
  | partialCall (c : Call) (line col : Nat)
  | decorator (c : Call) (line col : Nat)
  deriving Inhabited

/-- The line and column of an element, if it has a tag. -/
def Element.place : Element → Option (Nat × Nat)
  | .text _ => none
  | .value _ l c | .block _ _ _ _ l c | .comment l c | .partialCall _ l c | .decorator _ l c =>
    some (l, c)

/-- Why a template does not compile. -/
inductive CompileReason where
  | invalidSyntax (message : String)
  | mismatchingClosedHelper (opened closing : String)
  | mismatchingClosedDecorator (opened closing : String)
  | invalidParam (text : String)
  deriving Repr, DecidableEq

/-- A text quoted as a debug view shows it. -/
def debugText (s : String) : String :=
  "\"" ++ String.join (s.toList.map fun c =>
    if c = '"' then "\\\"" else if c = '\\' then "\\\\" else if c = '\n' then "\\n"
    else if c = '\r' then "\\r" else if c = '\t' then "\\t" else String.singleton c) ++ "\""

/-- The text of a compile failure. -/
def CompileReason.text : CompileReason → String
  | .invalidSyntax m => "invalid handlebars syntax: " ++ m
  | .mismatchingClosedHelper o c => "helper " ++ debugText o ++ " was opened, but " ++
      debugText c ++ " is closing"
  | .mismatchingClosedDecorator o c => "decorator " ++ debugText o ++ " was opened, but " ++
      debugText c ++ " is closing"
  | .invalidParam t => "invalid parameter " ++ debugText t

/-- A compile failure, with its line, column and the lines around it when known. -/
structure CompileError where
  reason : CompileReason
  place : Option (Nat × Nat × String) := none

/-- The text of a compile failure: the reason, and where it is when known. -/
def CompileError.text (e : CompileError) : String :=
  match e.place with
  | some (line, col, segment) =>
    "Template error: " ++ e.reason.text ++ "\n    --> Template error in \"Unnamed\":" ++
      toString line ++ ":" ++ toString col ++ "\n     |\n" ++ segment ++ "     |\n     = reason: " ++
      e.reason.text ++ "\n"
  | none => "Template error: " ++ e.reason.text

end KnowledgeDesk.Template

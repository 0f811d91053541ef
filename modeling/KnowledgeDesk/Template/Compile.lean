import KnowledgeDesk.Template.Grammar
import KnowledgeDesk.Template.Syntax
import KnowledgeDesk.Json.Read
import KnowledgeDesk.Text.Blank

/-!
# Compiling templates

A template is parsed with `grammar`, and its matched rules are read in order to build elements.

Blanks matter in three ways.

* Blanks that the grammar skips between tags are kept as text, except right after a tag that
  ends with `~}}`, and text right after such a tag loses its leading blanks.
* A tag that starts with `{{~` trims the blanks at the end of the text before it.
* A *standalone* tag — a block tag, an `else`, a comment, a partial or a decorator alone on its
  line — takes its line with it: the blanks before it on its line and the line break after it
  are dropped. A partial keeps the indentation before it.

A backslash before `{{` (`\{{`) keeps the tag as text and is itself dropped.
-/

namespace KnowledgeDesk.Template

open Peg

/-- A matched rule in reading order: its span, the index just past the rules inside it, and for
text, where its escaping backslashes are. -/
structure Pair where
  rule : TemplateRule
  start : Nat
  stop : Nat
  next : Nat
  escapes : List Nat
  deriving Inhabited

mutual
/-- Add a node and the nodes inside it, in reading order. Escapes are not listed on their own. -/
def flattenNode : Node TemplateRule → Array Pair → Array Pair
  | .node r s e kids, acc =>
    if r = .escape then acc else
    let esc := kids.filterMap fun k => match k with
      | .node .escape s' _ _ => some s'
      | _ => none
    let idx := acc.size
    let acc := flattenNodes kids (acc.push ⟨r, s, e, 0, esc⟩)
    acc.modify idx fun p => { p with next := acc.size }

def flattenNodes : List (Node TemplateRule) → Array Pair → Array Pair
  | [], acc => acc
  | n :: rest, acc => flattenNodes rest (flattenNode n acc)
end

def slice (source : Array Char) (a b : Nat) : String := String.ofList (source.extract a b).toList

/-- Line and column (both from 1, the column in characters) of a position. A line ends at a
line feed or at a carriage return followed by a line feed. -/
def lineCol (source : Array Char) (pos : Nat) : Nat × Nat :=
  let rec go (i line col : Nat) : Nat → Nat × Nat
    | 0 => (line, col)
    | fuel + 1 =>
      if i ≥ pos then (line, col) else
      match source[i]? with
      | some '\r' => if source[i + 1]? = some '\n' then go (i + 2) (line + 1) 1 fuel
          else go (i + 1) line (col + 1) fuel
      | some '\n' => go (i + 1) (line + 1) 1 fuel
      | _ => go (i + 1) line (col + 1) fuel
  go 0 1 1 (pos + 1)

/-- The lines of a text: split at line feeds, a carriage return before one dropped, no last empty
line. -/
def textLines (s : String) : List String := Text.linesOf s

/-- The lines around an error: each line within three of it, numbered from 0, and under the
error's line a rule with a caret under the byte whose index equals the column. -/
def segment (source : String) (line col : Nat) : String :=
  let lo := line - 3
  let hi := line + 3
  String.join ((textLines source).zipIdx.map fun (content, n) =>
    if lo ≤ n && n ≤ hi then
      let num := toString n
      let padded := String.ofList (List.replicate (4 - num.length) ' ') ++ num
      let row := padded ++ " | " ++ content ++ "\n"
      if n + 1 = line then
        let bytes := content.utf8ByteSize
        row ++ "     |" ++ String.ofList ((List.range bytes).map fun c => if c = col then '^' else '-') ++ "\n"
      else row
    else "")

def placed (source : String) (reason : CompileReason) (line col : Nat) : CompileError :=
  { reason, place := some (line, col, segment source line col) }

def isSpaceOrTab (c : Char) : Bool := c = ' ' || c = '\t'

def startsWithEmptyLine (cs : List Char) : Bool :=
  match cs.dropWhile isSpaceOrTab with
  | c :: _ => c = '\n' || c = '\r'
  | [] => false

/-- Whether a text ends, before spaces and tabs, with a line break, or is only spaces and
tabs. -/
def endsWithEmptyLine (cs : List Char) : Bool :=
  match (cs.reverse.dropWhile isSpaceOrTab) with
  | c :: _ => c = '\n' || c = '\r'
  | [] => true

/-- Text for a template: escaping backslashes (at `escapes`, counted from the start) removed;
with `trimLeft`, leading blanks removed; with `trimLine`, leading spaces and tabs and then one
line break removed. -/
def textElement (cs : List Char) (escapes : List Nat) (trimLeft trimLine : Bool) : Element :=
  let kept := (cs.zipIdx.filter fun (_, i) => !escapes.contains i).map (·.1)
  let s := String.ofList kept
  let s := if trimLeft then Text.trimStart s else s
  let s := if trimLine then
      let t := (s.toList.dropWhile isSpaceOrTab)
      match t with
      | '\r' :: '\n' :: rest => String.ofList rest
      | '\n' :: rest => String.ofList rest
      | _ => String.ofList t
    else s
  .text s

/-- A block being read: its kind, its opening place, the calls of its parts (the opening call,
each `else` call, `none` for a plain `else`) with their places, and the bodies finished. -/
structure OpenBlock where
  kind : BlockKind
  call : Call
  segments : Array (Option Call × Nat × Nat)
  bodies : Array (List Element)

/-- The compiler's state: the templates being built (innermost first), the open blocks
(innermost first), the pending blank trimming, and where the last tag ended. -/
structure Compiler where
  templates : List (Array Element) := []
  blocks : List OpenBlock := []
  omitPro : Bool := false
  trimLine : Bool := false
  endPos : Option Nat := none

namespace Compiler

def push (c : Compiler) (e : Element) : Compiler :=
  match c.templates with
  | t :: rest => { c with templates := t.push e :: rest }
  | [] => { c with templates := [#[e]] }

def mapLastText (c : Compiler) (f : String → String) : Compiler :=
  match c.templates with
  | t :: rest =>
    match t.back? with
    | some (.text s) => { c with templates := t.pop.push (.text (f s)) :: rest }
    | _ => c
  | [] => c

def trimBefore (c : Compiler) : Compiler := c.mapLastText Text.trimEnd

/-- Handle a tag that may stand alone on its line: when it does, drop the spaces before it
(with `trimIndent`) and ask for the line break after it to be dropped. -/
def standalone (c : Compiler) (source : Array Char) (start stop : Nat) (trimIndent : Bool) :
    Compiler :=
  if startsWithEmptyLine (source.extract stop source.size).toList then
    let lead := endsWithEmptyLine (source.extract 0 start).toList
    let c := if trimIndent && lead then
        c.mapLastText fun s => String.ofList (s.toList.reverse.dropWhile isSpaceOrTab).reverse
      else c
    { c with trimLine := start = 0 || lead }
  else { c with trimLine := false }

end Compiler

section Reading

variable (pairs : Array Pair) (source : Array Char) (text : String)

/-- The steps of a path from the path's rules, up to `limit`. -/
def pathSegs (i limit : Nat) : List PathSeg × Nat :=
  let rec go (i : Nat) (acc : List PathSeg) : Nat → List PathSeg × Nat
    | 0 => (acc.reverse, i)
    | fuel + 1 =>
      match pairs[i]? with
      | some p =>
        if p.stop > limit then (acc.reverse, i) else
        let acc := match p.rule with
          | .pathRoot => .root :: acc
          | .pathLocal => .local :: acc
          | .pathUp => .up :: acc
          | .pathId | .pathRawId =>
            let n := slice source p.start p.stop
            if n = "this" then acc else .named n :: acc
          | _ => acc
        go (i + 1) acc fuel
      | none => (acc.reverse, i)
  go i [] (pairs.size + 1)

def skipWithin (i limit : Nat) : Nat :=
  let rec go (i : Nat) : Nat → Nat
    | 0 => i
    | fuel + 1 =>
      match pairs[i]? with
      | some p => if p.stop ≤ limit then go (i + 1) fuel else i
      | none => i
  go i (pairs.size + 1)

mutual
def readName (fuel i : Nat) : Except CompileError (Param × Nat) :=
  match fuel with
  | 0 => .ok (.name "", i)
  | fuel + 1 =>
  match pairs[i]? with
  | some p =>
    match p.rule with
    | .reference =>
      let (segs, j) := pathSegs pairs source (i + 1) p.stop
      .ok (.path (slice source p.start p.stop) segs, j)
    | .subexpression => readSub fuel (i + 1) p.stop
    | _ => .ok (.name (slice source p.start p.stop), i + 1)
  | none => .ok (.name "", i)

/-- Read an argument at `i`: a path, a literal or a nested call. -/
def readParam (fuel i : Nat) : Except CompileError (Param × Nat) :=
  match fuel with
  | 0 => .ok (.name "", i)
  | fuel + 1 =>
  let i := match pairs[i]? with
    | some p => if p.rule = .param then i + 1 else i
    | none => i
  match pairs[i]? with
  | some p =>
    let raw := slice source p.start p.stop
    let r : Except CompileError (Param × Nat) := match p.rule with
      | .reference =>
        let (segs, j) := pathSegs pairs source (i + 1) p.stop
        .ok (.path raw segs, j)
      | .literal =>
        match Json.parse raw with
        | .ok j => .ok (.literal j, i + 1)
        | .error _ => .error { reason := .invalidParam raw }
      | .subexpression => readSub fuel (i + 1) p.stop
      | _ => .ok (.name raw, i + 1)
    r.map fun (v, j) => (v, skipWithin pairs j p.stop)
  | none => .ok (.name "", i)

def readSub (fuel i limit : Nat) : Except CompileError (Param × Nat) := do
  match fuel with
  | 0 => .ok (.name "", i)
  | fuel + 1 =>
  let (c, j) ← readCall fuel i limit
  pure (.sub c.name c.params c.hash, j)

/-- Read a tag's contents up to `limit`: tildes, name, arguments, named arguments and block
parameters. -/
def readCall (fuel i limit : Nat) : Except CompileError (Call × Nat) := do
  match fuel with
  | 0 => .ok (default, i)
  | fuel + 1 =>
  let (omitPre, i) := match pairs[i]? with
    | some p => if p.rule = .leadingTilde then (true, i + 1) else (false, i)
    | none => (false, i)
  let (name, i) ← readName fuel i
  readArgs fuel i limit { name, omitPre }

def readArgs (fuel i limit : Nat) (c : Call) : Except CompileError (Call × Nat) := do
  match fuel with
  | 0 => .ok (c, i)
  | fuel + 1 =>
  match pairs[i]? with
  | none => .ok (c, i)
  | some p =>
    if p.stop ≥ limit then .ok (c, i) else
    match p.rule with
    | .param =>
      let (v, j) ← readParam fuel (i + 1)
      readArgs fuel j limit { c with params := c.params ++ [v] }
    | .hash =>
      let key := match pairs[i + 1]? with
        | some k => slice source k.start k.stop
        | none => ""
      let (v, j) ← readParam fuel (i + 2)
      readArgs fuel j limit { c with hash := c.hash ++ [(key, v)] }
    | .blockParam =>
      let first := match pairs[i + 1]? with
        | some k => slice source k.start k.stop
        | none => ""
      let (second, j) := match pairs[i + 2]? with
        | some k => if k.stop ≤ p.stop then (some (slice source k.start k.stop), i + 3) else (none, i + 2)
        | none => (none, i + 2)
      readArgs fuel j limit { c with blockParams := some (first, second) }
    | .trailingTilde => readArgs fuel (i + 1) limit { c with omitPro := true }
    | _ => readArgs fuel (i + 1) limit c
end

/-- Assemble a finished block: its parts, each the opening call or an `else` call with its
body, and a final plain `else` as the inverse of the last part. -/
def assemble (b : OpenBlock) : Element :=
  let parts := (b.segments.toList.zip b.bodies.toList)
  let (calls, tail) : List ((Call × Nat × Nat) × List Element) × Option (List Element) :=
    match parts.getLast? with
    | some ((none, _), body) => ((parts.dropLast.filterMap fun ((c, l, k), body) =>
        c.map fun c => ((c, l, k), body)), some body)
    | _ => (parts.filterMap fun ((c, l, k), body) => c.map fun c => ((c, l, k), body), none)
  let rec build : List ((Call × Nat × Nat) × List Element) → Option (List Element) → Option Element
    | [], _ => none
    | [((c, l, k), body)], inv => some (.block b.kind c body inv l k)
    | ((c, l, k), body) :: rest, inv =>
      some (.block b.kind c body ((build rest inv).map fun e => [e]) l k)
  (build calls tail).getD (.text "")

/-- Handle one matched rule at `i`; answer the index of the next rule to handle. -/
def step (i : Nat) (c : Compiler) : Except CompileError (Nat × Compiler) := do
  let some p := pairs[i]? | .ok (pairs.size, c)
  let prevEnd := c.endPos.getD 0
  let gap := p.rule ≠ .template && p.start ≠ prevEnd && !c.omitPro && p.rule ≠ .rawText &&
    p.rule ≠ .rawBlockText
  let c := if gap then
      let el := textElement (source.extract prevEnd p.start).toList [] false c.trimLine
      let c := if p.rule = .rawBlockEnd then { c with templates := #[el] :: c.templates }
        else c.push el
      { c with trimLine := false }
    else c
  let (line, col) := lineCol source p.start
  let fuel := p.next - i + 1
  let (next, c) ← match p.rule with
    | .template => pure (i + 1, { c with templates := #[] :: c.templates })
    | .rawText =>
      let start := if p.start ≠ prevEnd then prevEnd else p.start
      let el := textElement (source.extract start p.stop).toList (p.escapes.map (· - start))
        c.omitPro c.trimLine
      pure (p.next, { c.push el with trimLine := false })
    | .rawBlockText =>
      let el := textElement (source.extract p.start p.stop).toList (p.escapes.map (· - p.start))
        c.omitPro c.trimLine
      pure (p.next, { c with templates := #[el] :: c.templates })
    | .helperBlockStart | .rawBlockStart | .decoratorBlockStart | .partialBlockStart =>
      let (call, j) ← readCall pairs source fuel (i + 1) p.stop
      let c := if call.omitPre then c.trimBefore else c
      let c := { c with omitPro := call.omitPro }
      let kind : BlockKind := match p.rule with
        | .helperBlockStart => .helper
        | .rawBlockStart => .raw
        | .decoratorBlockStart => .decorator
        | _ => .partialBlock
      let c := { c with blocks := ⟨kind, call, #[(some call, line, col)], #[]⟩ :: c.blocks }
      pure (j, c.standalone source p.start p.stop true)
    | .invertTag | .invertChainTag =>
      let j := if p.rule = .invertChainTag then i + 2 else i + 1
      let (call, j) ← readCall pairs source fuel j p.stop
      let c := if call.omitPre then c.trimBefore else c
      let c := { c with omitPro := call.omitPro }
      let c := c.standalone source p.start p.stop true
      match c.templates, c.blocks with
      | t :: ts, b :: bs =>
        let seg := if p.rule = .invertChainTag then some call else none
        let b := { b with bodies := b.bodies.push t.toList, segments := b.segments.push (seg, line, col) }
        pure (j, { c with templates := ts, blocks := b :: bs })
      | _, _ => pure (j, c)
    | .expression | .htmlExpression | .decoratorExpression | .partialExpression
    | .helperBlockEnd | .rawBlockEnd | .decoratorBlockEnd | .partialBlockEnd =>
      let (call, j) ← readCall pairs source fuel (i + 1) p.stop
      let c := if call.omitPre then c.trimBefore else c
      let c := { c with omitPro := call.omitPro }
      match p.rule with
      | .expression | .htmlExpression => pure (j, c.push (.value call line col))
      | .decoratorExpression => pure (j, (c.standalone source p.start p.stop true).push (.decorator call line col))
      | .partialExpression => pure (j, (c.standalone source p.start p.stop false).push (.partialCall call line col))
      | _ =>
        let c := c.standalone source p.start p.stop true
        match c.blocks, c.templates with
        | b :: bs, t :: ts =>
          if b.call.name.asName = call.name.asName then
            let b := { b with bodies := b.bodies.push t.toList }
            pure (j, ({ c with blocks := bs, templates := ts }).push (assemble b))
          else
            let reason := if p.rule = .helperBlockEnd || p.rule = .rawBlockEnd then
                CompileReason.mismatchingClosedHelper b.call.name.asName call.name.asName
              else .mismatchingClosedDecorator b.call.name.asName call.name.asName
            throw (placed text reason line col)
        | _, _ => pure (j, c)
    | .hbsComment | .hbsCommentCompact =>
      pure (p.next, (c.standalone source p.start p.stop true).push (.comment line col))
    | _ => pure (p.next, c)
  let c := if p.rule ≠ .template then { c with endPos := some p.stop } else c
  pure (next, c)

def compileLoop (i : Nat) (c : Compiler) : Nat → Except CompileError (List Element)
  | 0 => .ok []
  | fuel + 1 =>
    if i ≥ pairs.size then
      let prevEnd := c.endPos.getD 0
      let c := if prevEnd < source.size then c.push (.text (slice source prevEnd source.size)) else c
      match c.templates with
      | t :: _ => .ok t.toList
      | [] => .ok []
    else do
      let (j, c) ← step pairs source text i c
      compileLoop (max j (i + 1)) c fuel

end Reading

/-- The text of a parse failure: the rules that were expected (and not wanted) there. -/
def failureMessage (f : Failure TemplateRule) : String :=
  let enumerate : List TemplateRule → String := fun rs =>
    match rs.map TemplateRule.name with
    | [] => ""
    | [a] => a
    | [a, b] => a ++ " or " ++ b
    | names => ", ".intercalate names.dropLast ++ ", or " ++ names.getLast!
  match f.unexpected.isEmpty, f.expected.isEmpty with
  | false, false => "unexpected " ++ enumerate f.unexpected ++ "; expected " ++ enumerate f.expected
  | false, true => "unexpected " ++ enumerate f.unexpected
  | true, false => "expected " ++ enumerate f.expected
  | true, true => "unknown parsing error"

/-- Compile a template text. -/
def compile (text : String) : Except CompileError (List Element) :=
  let source := text.toList.toArray
  match parse grammar source document with
  | .error f =>
    let (line, col) := lineCol source f.pos
    .error (placed text (.invalidSyntax (failureMessage f)) line col)
  | .ok nodes =>
    let pairs := flattenNodes nodes #[]
    compileLoop pairs source text 0 {} (pairs.size + 1)

end KnowledgeDesk.Template

import KnowledgeDesk.Template.Peg

/-!
# The template grammar

The grammar of templates: text with `{{…}}` tags. A tag is an expression (`{{name args}}`), a
raw expression (`{{{…}}}`), a block (`{{#name args}}…{{else}}…{{/name}}`), a raw block
(`{{{{name}}}}…{{{{/name}}}}`), a comment (`{{! … }}`, `{{!-- … --}}`), a partial (`{{> name}}`)
or a decorator (`{{* name}}`). A `~` next to the braces trims the blanks on that side. A
backslash before `{{` keeps the tag as text.

Rules are listed in `TemplateRule` in the order they are reported in errors. Helper expressions
that only group others (a name, an argument line, a block's parts) are plain Lean definitions:
they match like rules but are never reported and make no nodes.
-/

namespace KnowledgeDesk.Template

open Peg

/-- The rules of the template grammar, in report order. -/
inductive TemplateRule where
  | EOI
  | keywords
  | escape
  | rawText
  | rawBlockText
  | literal
  | nullLiteral
  | booleanLiteral
  | numberLiteral
  | jsonChar
  | stringInner
  | stringLiteral
  | arrayLiteral
  | objectLiteral
  | identifier
  | partialIdentifier
  | reference
  | param
  | hash
  | blockParam
  | subexpression
  | leadingTilde
  | trailingTilde
  | expression
  | htmlExpression
  | decoratorExpression
  | partialExpression
  | invertTagItem
  | invertTag
  | invertChainTag
  | helperBlockStart
  | helperBlockEnd
  | decoratorBlockStart
  | decoratorBlockEnd
  | partialBlockStart
  | partialBlockEnd
  | rawBlockStart
  | rawBlockEnd
  | hbsComment
  | hbsCommentCompact
  | template
  | pathId
  | pathRawId
  | pathUp
  | pathRoot
  | pathLocal
  | pathInline
  deriving Repr, DecidableEq, Inhabited

namespace TemplateRule

def rank : TemplateRule → Nat
  | .EOI => 0 | .keywords => 1 | .escape => 2 | .rawText => 3 | .rawBlockText => 4
  | .literal => 5 | .nullLiteral => 6 | .booleanLiteral => 7 | .numberLiteral => 8
  | .jsonChar => 9 | .stringInner => 10 | .stringLiteral => 11 | .arrayLiteral => 12
  | .objectLiteral => 13 | .identifier => 14 | .partialIdentifier => 15 | .reference => 16
  | .param => 17 | .hash => 18 | .blockParam => 19 | .subexpression => 20
  | .leadingTilde => 21 | .trailingTilde => 22 | .expression => 23 | .htmlExpression => 24
  | .decoratorExpression => 25 | .partialExpression => 26 | .invertTagItem => 27
  | .invertTag => 28 | .invertChainTag => 29 | .helperBlockStart => 30
  | .helperBlockEnd => 31 | .decoratorBlockStart => 32 | .decoratorBlockEnd => 33
  | .partialBlockStart => 34 | .partialBlockEnd => 35 | .rawBlockStart => 36
  | .rawBlockEnd => 37 | .hbsComment => 38 | .hbsCommentCompact => 39 | .template => 40
  | .pathId => 41 | .pathRawId => 42 | .pathUp => 43 | .pathRoot => 44 | .pathLocal => 45
  | .pathInline => 46

def name : TemplateRule → String
  | .EOI => "EOI" | .keywords => "keywords" | .escape => "escape" | .rawText => "raw_text"
  | .rawBlockText => "raw_block_text" | .literal => "literal" | .nullLiteral => "null_literal"
  | .booleanLiteral => "boolean_literal" | .numberLiteral => "number_literal"
  | .jsonChar => "json_char" | .stringInner => "string_inner"
  | .stringLiteral => "string_literal" | .arrayLiteral => "array_literal"
  | .objectLiteral => "object_literal" | .identifier => "identifier"
  | .partialIdentifier => "partial_identifier" | .reference => "reference" | .param => "param"
  | .hash => "hash" | .blockParam => "block_param" | .subexpression => "subexpression"
  | .leadingTilde => "leading_tilde_to_omit_whitespace"
  | .trailingTilde => "trailing_tilde_to_omit_whitespace" | .expression => "expression"
  | .htmlExpression => "html_expression" | .decoratorExpression => "decorator_expression"
  | .partialExpression => "partial_expression" | .invertTagItem => "invert_tag_item"
  | .invertTag => "invert_tag" | .invertChainTag => "invert_chain_tag"
  | .helperBlockStart => "helper_block_start" | .helperBlockEnd => "helper_block_end"
  | .decoratorBlockStart => "decorator_block_start"
  | .decoratorBlockEnd => "decorator_block_end" | .partialBlockStart => "partial_block_start"
  | .partialBlockEnd => "partial_block_end" | .rawBlockStart => "raw_block_start"
  | .rawBlockEnd => "raw_block_end" | .hbsComment => "hbs_comment"
  | .hbsCommentCompact => "hbs_comment_compact" | .template => "template"
  | .pathId => "path_id" | .pathRawId => "path_raw_id" | .pathUp => "path_up"
  | .pathRoot => "path_root" | .pathLocal => "path_local" | .pathInline => "path_inline"

end TemplateRule

/-! ## Building blocks -/

def lit (s : String) : Expr TemplateRule := .str s.toList

def seqs : List (Expr TemplateRule) → Expr TemplateRule
  | [] => .str []
  | [e] => e
  | e :: rest => .seq e (seqs rest)

def alts : List (Expr TemplateRule) → Expr TemplateRule
  | [] => .notAhead (.str [])
  | [e] => e
  | e :: rest => .alt e (alts rest)

def openBrace : Char := Char.ofNat 123

def closeBrace : Char := Char.ofNat 125

def opens (n : Nat) : Expr TemplateRule := .str (List.replicate n openBrace)

def closes (n : Nat) : Expr TemplateRule := .str (List.replicate n closeBrace)

def r (x : TemplateRule) : Expr TemplateRule := .call x

def digit : Expr TemplateRule := .range '0' '9'

def alnum : Expr TemplateRule := alts [.range 'a' 'z', .range 'A' 'Z', digit]

def hexDigit : Expr TemplateRule := alts [digit, .range 'a' 'f', .range 'A' 'F']

def beyondAscii : Expr TemplateRule := .range (Char.ofNat 0x80) (Char.ofNat 0x10FFFF)

def symbolChar : Expr TemplateRule := alts [alnum, lit "-", lit "_", lit "$", beyondAscii]

def partialSymbolChar : Expr TemplateRule :=
  alts [alnum, lit "-", lit "_", beyondAscii, lit "/", lit "."]

/-- A helper name or a path. -/
def nameE : Expr TemplateRule := alts [r .subexpression, r .reference]

/-- A helper with its arguments, or a name alone. -/
def callE : Expr TemplateRule :=
  alts [seqs [r .identifier, .plus (alts [r .hash, r .param])], nameE]

/-- A helper name, its arguments and its block parameters. -/
def expLine : Expr TemplateRule :=
  seqs [r .identifier, .star (alts [r .hash, r .param]), .opt (r .blockParam)]

/-- A partial's name and its arguments. -/
def partialExpLine : Expr TemplateRule :=
  seqs [alts [r .partialIdentifier, nameE], .star (alts [r .hash, r .param])]

def leading : Expr TemplateRule := .opt (r .leadingTilde)
def trailing : Expr TemplateRule := .opt (r .trailingTilde)

def pathSep : Expr TemplateRule := alts [lit "/", lit "."]

/-- A step of a path: a name or a bracketed key. -/
def pathItem : Expr TemplateRule := alts [r .pathId, seqs [lit "[", r .pathRawId, lit "]"]]

/-- A block helper with its parts. -/
def helperBlock : Expr TemplateRule :=
  seqs [r .helperBlockStart, r .template,
    .star (seqs [r .invertChainTag, r .template]),
    .opt (seqs [r .invertTag, r .template]),
    r .helperBlockEnd]

def decoratorBlock : Expr TemplateRule :=
  seqs [r .decoratorBlockStart, r .template, r .decoratorBlockEnd]

def partialBlock : Expr TemplateRule :=
  seqs [r .partialBlockStart, r .template, r .partialBlockEnd]

def rawBlock : Expr TemplateRule :=
  seqs [r .rawBlockStart, r .rawBlockText, r .rawBlockEnd]

/-- A whole template: blanks at its start are skipped before its body. -/
def document : Expr TemplateRule := seqs [.str [], r .template, r .EOI]

open TemplateRule in
/-- The body of each rule. -/
def body : TemplateRule → Expr TemplateRule
  | .EOI => .eoi
  | .keywords => alts [lit "as", lit "else"]
  | .escape => alts [seqs [lit "\\", opens 2, .opt (opens 2)],
      seqs [lit "\\", .plus (lit "\\"), .ahead (opens 2)]]
  | .rawText => .plus (alts [r .escape, seqs [.notAhead (opens 2), .any]])
  | .rawBlockText => .star (alts [r .escape, seqs [.notAhead (opens 4), .any]])
  | .literal => alts [r .stringLiteral, r .arrayLiteral, r .objectLiteral, r .numberLiteral,
      r .nullLiteral, r .booleanLiteral]
  | .nullLiteral => seqs [lit "null", .notAhead symbolChar]
  | .booleanLiteral => seqs [alts [lit "true", lit "false"], .notAhead symbolChar]
  | .numberLiteral => seqs [.opt (lit "-"), .plus digit, .opt (lit "."), .star digit,
      .opt (seqs [lit "E", .opt (lit "-"), .plus digit]), .notAhead symbolChar]
  | .jsonChar => alts [seqs [.notAhead (alts [lit "\"", lit "\\"]), .any],
      seqs [lit "\\", alts [lit "\"", lit "\\", lit "/", lit "b", lit "f", lit "n", lit "r", lit "t"]],
      seqs [lit "\\", seqs [lit "u", hexDigit, hexDigit, hexDigit, hexDigit]]]
  | .stringInner => .star (r .jsonChar)
  | .stringLiteral => seqs [lit "\"", r .stringInner, lit "\""]
  | .arrayLiteral => seqs [lit "[", .opt (r .literal), .star (seqs [lit ",", r .literal]), lit "]"]
  | .objectLiteral => seqs [opens 1, .opt (seqs [r .stringLiteral, lit ":", r .literal]),
      .star (seqs [lit ",", r .stringLiteral, lit ":", r .literal]), closes 1]
  | .identifier => .plus symbolChar
  | .partialIdentifier => alts [.plus partialSymbolChar, seqs [lit "[", .plus .any, lit "]"],
      seqs [lit "'", .plus (seqs [.notAhead (lit "'"), alts [lit "\\'", .any]]), lit "'"]]
  | .reference => r .pathInline
  | .param => seqs [.notAhead (seqs [r .keywords, .notAhead symbolChar]),
      alts [r .literal, r .reference, r .subexpression]]
  | .hash => seqs [r .identifier, lit "=", r .param]
  | .blockParam => seqs [lit "as", lit "|", r .identifier, .opt (r .identifier), lit "|"]
  | .subexpression => seqs [lit "(", alts [seqs [r .identifier, .plus (alts [r .hash, r .param])],
      r .reference], lit ")"]
  | .leadingTilde => lit "~"
  | .trailingTilde => lit "~"
  | .expression => seqs [.notAhead (r .invertTag), .notAhead (r .invertChainTag), opens 2,
      leading, callE, trailing, closes 2]
  | .htmlExpression => alts [seqs [opens 3, leading, callE, trailing, closes 3],
      seqs [opens 2, leading, opens 1, callE, closes 1, trailing, closes 2]]
  | .decoratorExpression => seqs [opens 2, leading, lit "*", expLine, trailing, closes 2]
  | .partialExpression => seqs [opens 2, leading, lit ">", partialExpLine, trailing, closes 2]
  | .invertTagItem => alts [lit "else", lit "^"]
  | .invertTag => seqs [.notAhead (r .escape), opens 2, leading, r .invertTagItem, trailing,
      closes 2]
  | .invertChainTag => seqs [.notAhead (r .escape), opens 2, leading, r .invertTagItem, expLine,
      trailing, closes 2]
  | .helperBlockStart => seqs [opens 2, leading, lit "#", expLine, trailing, closes 2]
  | .helperBlockEnd => seqs [opens 2, leading, lit "/", r .identifier, trailing, closes 2]
  | .decoratorBlockStart => seqs [opens 2, leading, lit "#", lit "*", expLine, trailing, closes 2]
  | .decoratorBlockEnd => seqs [opens 2, leading, lit "/", r .identifier, trailing, closes 2]
  | .partialBlockStart => seqs [opens 2, leading, lit "#", lit ">", partialExpLine, trailing,
      closes 2]
  | .partialBlockEnd => seqs [opens 2, leading, lit "/", r .partialIdentifier, trailing, closes 2]
  | .rawBlockStart => seqs [opens 4, leading, expLine, trailing, closes 4]
  | .rawBlockEnd => seqs [opens 4, leading, lit "/", r .identifier, trailing, closes 4]
  | .hbsComment => seqs [opens 2, leading, lit "!--", .star (seqs [.notAhead (.str ['-', '-', closeBrace, closeBrace]), .any]),
      lit "--", trailing, closes 2]
  | .hbsCommentCompact => seqs [opens 2, leading, lit "!", .star (seqs [.notAhead (closes 2), .any]),
      trailing, closes 2]
  | .template => .star (alts [r .rawText, r .expression, r .htmlExpression, helperBlock, rawBlock,
      r .hbsComment, r .hbsCommentCompact, r .decoratorExpression, decoratorBlock,
      r .partialExpression, partialBlock])
  | .pathId => .plus symbolChar
  | .pathRawId => .star (seqs [.notAhead (lit "]"), .any])
  | .pathUp => lit ".."
  | .pathRoot => lit "@root"
  | .pathLocal => lit "@"
  | .pathInline => seqs [.opt (alts [seqs [lit "this", pathSep], lit "./"]),
      .opt (seqs [r .pathRoot, pathSep]), .opt (r .pathLocal), .star (seqs [r .pathUp, pathSep]),
      pathItem, .star (seqs [pathSep, pathItem])]

def kind : TemplateRule → RuleKind
  | .keywords | .escape | .nullLiteral | .booleanLiteral | .numberLiteral | .stringInner
  | .identifier | .partialIdentifier | .pathId => .atomic
  | .rawText | .rawBlockText | .stringLiteral | .reference | .hbsComment | .hbsCommentCompact
  | .pathInline => .compoundAtomic
  | _ => .normal

/-- The template grammar. Blanks are spaces, tabs, line feeds and carriage returns. -/
def grammar : Grammar TemplateRule where
  kind := kind
  body := body
  rank := TemplateRule.rank
  isBlank c := c = ' ' || c = '\t' || c = '\n' || c = '\r'

end KnowledgeDesk.Template

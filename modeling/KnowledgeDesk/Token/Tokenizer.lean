/-!
# Tokenizers

A tokenizer cuts a text into tokens, each a string of bytes; decoding tokens joins their bytes.
`Tokenizer.truncate` keeps at most a given number of tokens from the front of a text, fewer when
the cut would fall inside a character.
-/

namespace KnowledgeDesk.Token

/-- The text of the first `n` tokens, or of fewer when the cut falls inside a character. -/
def decodePrefix (tokens : List (List UInt8)) : Nat → String
  | 0 => ""
  | n + 1 =>
    match String.fromUTF8? (ByteArray.mk (tokens.take (n + 1)).flatten.toArray) with
    | some s => s
    | none => decodePrefix tokens n

structure Tokenizer where
  encode : String → List (List UInt8)

namespace Tokenizer

/-- The number of tokens of a text. -/
def count (tk : Tokenizer) (s : String) : Nat := (tk.encode s).length

/-- The front of a text that at most `limit` of its tokens cover. -/
def truncate (tk : Tokenizer) (s : String) (limit : Nat) : String :=
  let tokens := tk.encode s
  decodePrefix tokens (min limit tokens.length)

end Tokenizer

end KnowledgeDesk.Token

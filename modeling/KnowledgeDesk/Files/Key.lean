/-!
# File keys

A stored file is named by a key the store makes: a UUID in its hyphenated form, 36 characters
in groups of 8, 4, 4, 4 and 12 hex digits (either case). Only such a key names a file, so a key
can never reach outside the store's directory.
-/

namespace KnowledgeDesk.Files

/-- Whether a character is a hex digit of either case. -/
def isHexChar (c : Char) : Bool :=
  ('0' ≤ c && c ≤ '9') || ('a' ≤ c && c ≤ 'f') || ('A' ≤ c && c ≤ 'F')

/-- Whether the character at a position of a key is right: `-` at 8, 13, 18 and 23, a hex digit
elsewhere. -/
def keyCharOk (i : Nat) (c : Char) : Bool :=
  if i = 8 || i = 13 || i = 18 || i = 23 then c = '-' else isHexChar c

/-- Whether a text is a file key. -/
def isValidKey (key : String) : Bool :=
  key.utf8ByteSize = 36 &&
    (key.toList.zipIdx.all fun (c, i) => keyCharOk i c)

end KnowledgeDesk.Files

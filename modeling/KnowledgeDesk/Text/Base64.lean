/-!
# Base64

Bytes as text in the standard alphabet (`A`–`Z`, `a`–`z`, `0`–`9`, `+`, `/`), four characters for
every three bytes, the last group padded with `=`.
-/

namespace KnowledgeDesk.Text

/-- The base64 alphabet. -/
def base64Alphabet : String := "ABCDEFGHIJKLMNOPQRSTUVWXYZabcdefghijklmnopqrstuvwxyz0123456789+/"

/-- The character of a six-bit value. -/
def base64Char (n : Nat) : Char := base64Alphabet.toList.getD n 'A'

/-- The six-bit value of a character. -/
def base64Value (c : Char) : Option Nat := base64Alphabet.toList.idxOf? c

/-- Encode bytes. -/
def base64Encode (bytes : List UInt8) : String :=
  let rec go : List UInt8 → List Char
    | a :: b :: c :: rest =>
      let n := a.toNat * 65536 + b.toNat * 256 + c.toNat
      base64Char (n / 262144) :: base64Char (n / 4096 % 64) :: base64Char (n / 64 % 64) ::
        base64Char (n % 64) :: go rest
    | [a, b] =>
      let n := a.toNat * 65536 + b.toNat * 256
      [base64Char (n / 262144), base64Char (n / 4096 % 64), base64Char (n / 64 % 64), '=']
    | [a] =>
      let n := a.toNat * 65536
      [base64Char (n / 262144), base64Char (n / 4096 % 64), '=', '=']
    | [] => []
  String.ofList (go bytes)

/-- Decode padded base64 text. -/
def base64Decode (s : String) : Option (List UInt8) :=
  let cs := s.toList
  if cs.length % 4 ≠ 0 then none
  else
    let rec go : List Char → Option (List UInt8)
      | [a, b, '=', '='] => do
        let n := (← base64Value a) * 262144 + (← base64Value b) * 4096
        pure [(n / 65536).toUInt8]
      | [a, b, c, '='] => do
        let n := (← base64Value a) * 262144 + (← base64Value b) * 4096 + (← base64Value c) * 64
        pure [(n / 65536).toUInt8, (n / 256 % 256).toUInt8]
      | a :: b :: c :: d :: rest => do
        let n := (← base64Value a) * 262144 + (← base64Value b) * 4096 +
          (← base64Value c) * 64 + (← base64Value d)
        pure ([(n / 65536).toUInt8, (n / 256 % 256).toUInt8, (n % 256).toUInt8] ++ (← go rest))
      | [] => some []
      | _ => none
    go cs

end KnowledgeDesk.Text

/-!
UTF-8 and Base64.

A character is written in UTF-8 as one to four bytes by the size of its code point. Base64
writes each group of three bytes as four characters of its alphabet, six bits each, high bits
first; a last group of one or two bytes is padded with zero bits and written as two or three
characters followed by `=` signs up to four.

Main statement: every three bytes become four characters (`base64Chars_length`).
-/

namespace QueryDiagram.Text

-- ============================================================ UTF-8

/-- The UTF-8 bytes of a character. -/
def utf8Char (c : Char) : List Nat :=
  let n := c.toNat
  if n < 0x80 then [n]
  else if n < 0x800 then [0xC0 + n / 0x40, 0x80 + n % 0x40]
  else if n < 0x10000 then [0xE0 + n / 0x1000, 0x80 + n / 0x40 % 0x40, 0x80 + n % 0x40]
  else [0xF0 + n / 0x40000, 0x80 + n / 0x1000 % 0x40, 0x80 + n / 0x40 % 0x40, 0x80 + n % 0x40]

/-- The UTF-8 bytes of a text. -/
def utf8 (s : String) : List Nat := s.toList.flatMap utf8Char

-- ============================================================ Base64

/-- The Base64 alphabet: capitals, small letters, digits, `+` and `/`. -/
def base64Alphabet : List Char :=
  "ABCDEFGHIJKLMNOPQRSTUVWXYZabcdefghijklmnopqrstuvwxyz0123456789+/".toList

/-- The character for a six-bit value. -/
def base64Digit (v : Nat) : Char := base64Alphabet.getD (v % 64) '='

/-- The Base64 characters of a list of bytes. -/
def base64Chars : List Nat → List Char
  | [] => []
  | [a] => [base64Digit (a / 4), base64Digit (a % 4 * 16), '=', '=']
  | [a, b] =>
    [base64Digit (a / 4), base64Digit (a % 4 * 16 + b / 16), base64Digit (b % 16 * 4), '=']
  | a :: b :: c :: rest =>
    base64Digit (a / 4) :: base64Digit (a % 4 * 16 + b / 16) ::
      base64Digit (b % 16 * 4 + c / 64) :: base64Digit (c % 64) :: base64Chars rest

/-- The Base64 text of a list of bytes. -/
def base64 (bytes : List Nat) : String := String.ofList (base64Chars bytes)

/-- Three bytes more make four characters more. -/
theorem base64Chars_length (a b c : Nat) (rest : List Nat) :
    (base64Chars (a :: b :: c :: rest)).length = (base64Chars rest).length + 4 := by
  simp [base64Chars]

end QueryDiagram.Text

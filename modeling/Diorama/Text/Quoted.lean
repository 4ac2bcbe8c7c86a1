import Diorama.Text.Visible

-- Texts between quotation marks: in messages, where everything that cannot be seen is spelled out,
-- and in documents, where only what the format demands is.

namespace Diorama.Text

def hexDigit (n : Nat) : Char :=
  if n < 10 then Char.ofNat (48 + n) else Char.ofNat (87 + n)

def hexText (n : Nat) : String := String.ofList (Nat.toDigits 16 n)

def quote : Char := Char.ofNat 34

def backslash : Char := Char.ofNat 92

def escapeMessage (c : Char) : String :=
  if c = quote ∨ c = backslash then String.ofList [backslash, c]
  else if c = '\n' then "\\n"
  else if c = '\r' then "\\r"
  else if c = '\t' then "\\t"
  else if c.toNat = 0 then "\\0"
  else if isVisible c then String.ofList [c]
  else "\\u\x7b" ++ hexText c.toNat ++ "\x7d"

def quoteMessage (text : String) : String :=
  "\"" ++ String.join (text.toList.map escapeMessage) ++ "\""

-- One character in a document: quotation mark, backslash and the control characters below the
-- blank are escaped, five of them by a letter.
def escapeDocument (c : Char) : String :=
  if c = quote ∨ c = backslash then String.ofList [backslash, c]
  else if 0x20 ≤ c.toNat then String.ofList [c]
  else if c = '\n' then "\\n"
  else if c = '\r' then "\\r"
  else if c = '\t' then "\\t"
  else if c.toNat = 8 then "\\b"
  else if c.toNat = 12 then "\\f"
  else "\\u00" ++ String.ofList [hexDigit (c.toNat / 16), hexDigit (c.toNat % 16)]

def quoteDocument (text : String) : String :=
  "\"" ++ String.join (text.toList.map escapeDocument) ++ "\""

end Diorama.Text

import Diorama.Json.Fault
import Diorama.Number.Numeral

-- The smallest parts of a document: words, numbers and strings. Each reader takes the cursor
-- behind what already told which kind of part begins, and gives the part and the cursor behind it.

namespace Diorama.Json

abbrev Step (α : Type) := Except Misread (α × Cursor)

def readWord : List Char → Cursor → Except Misread Cursor
  | [], c => .ok c
  | letter :: letters, c =>
    match c.rest with
    | [] => .error ⟨.endInValue, c.place⟩
    | x :: rest =>
      if x = letter then readWord letters ⟨rest, c.place.after x⟩
      else .error ⟨.wordExpected, c.inside⟩

def readDigitsFrom : List Char → Place → List Nat × Cursor
  | [], p => ([], ⟨[], p⟩)
  | x :: rest, p =>
    match Numeral.digit? x with
    | some d => let (digits, c) := readDigitsFrom rest (p.after x); (d :: digits, c)
    | none => ([], ⟨x :: rest, p⟩)

def readDigits (c : Cursor) : List Nat × Cursor := readDigitsFrom c.rest c.place

def readSomeDigits (c : Cursor) : Step (List Nat) :=
  match readDigits c with
  | ([], _) =>
    .error (if c.rest.isEmpty then ⟨.endInValue, c.place⟩ else ⟨.invalidNumber, c.inside⟩)
  | found => .ok found

def wordLimit : Nat := Nat.pow 2 64

def exponentLimit : Nat := Nat.pow 2 31

-- Digits are added to the significand as long as it stays below the limit; the digits from the
-- first one that does not fit are left over.
def accumulate (limit : Nat) (significand : Nat) : List Nat → Nat × List Nat
  | [] => (significand, [])
  | d :: rest =>
    if 10 * significand + d < limit then accumulate limit (10 * significand + d) rest
    else (significand, d :: rest)

def powerOfTen (k : Nat) : Float := Float.ofScientific 1 false k

-- Division by a power of ten in steps that a double can hold. A third step always starts from zero.
def shrink (x : Float) (k : Nat) : Nat → Float
  | 0 => x
  | steps + 1 =>
    if k ≤ 308 then x / powerOfTen k
    else if x == 0 then x
    else shrink (x / powerOfTen 308) (k - 308) steps

-- `significand * 10 ^ exponent`: the significand as a double, then one multiplication or division.
-- Nothing when the product leaves the range of a double.
def scale (significand : Nat) (exponent : Int) : Option Float :=
  let x := significand.toUInt64.toFloat
  match exponent with
  | .ofNat k =>
    if k ≤ 308 then
      let y := x * powerOfTen k
      if y.isInf then none else some y
    else if x == 0 then some x
    else none
  | .negSucc k => some (shrink x (k + 1) 4)

def signed (negative : Bool) (x : Float) : Float := if negative then -x else x

-- The digits of a number as they stand in the text, with the places where it can turn out too big.
structure Lexeme where
  negative : Bool
  whole : List Nat
  -- digits behind a point, if there is one
  fraction : Option (List Nat)
  -- sign and digits of the power of ten, and where its first digit stands
  exponent : Option (Bool × List Nat × Place)
  stop : Place

-- A number with neither fraction nor power stays an integer if 64 bits hold it; minus zero does
-- not. Digits that do not fit the significand count as powers of ten before the point and are
-- dropped behind it.
def Lexeme.number (l : Lexeme) : Except Misread Number :=
  let (significand, leftWhole) := accumulate wordLimit 0 l.whole
  let (significand, leftFraction) := accumulate wordLimit significand (l.fraction.getD [])
  let shift : Int :=
    leftWhole.length - ((l.fraction.getD []).length - leftFraction.length : Nat)
  let real (exponent : Int) : Except Misread Number :=
    match scale significand exponent with
    | some x => .ok (.real (signed l.negative x))
    | none => .error ⟨.numberOutOfRange, l.stop⟩
  match l.exponent with
  | some (down, digits, place) =>
    match accumulate exponentLimit 0 digits with
    | (n, []) => real (if down then shift - n else shift + n)
    | (_, left) =>
      if significand = 0 ∨ down then .ok (.real (signed l.negative 0))
      else
        let taken := digits.length - left.length + 1
        .error ⟨.numberOutOfRange, ⟨place.line, place.column + taken⟩⟩
  | none =>
    if l.fraction.isSome ∨ !leftWhole.isEmpty then real shift
    else if !l.negative then .ok (.integer significand)
    else if 0 < significand ∧ significand ≤ Nat.pow 2 63 then .ok (.integer (-significand))
    else .ok (.real (-significand.toUInt64.toFloat))

-- The digits before the point: a zero stands alone.
def readWhole (c : Cursor) : Step (List Nat) :=
  match readSomeDigits c with
  | .error m => .error m
  | .ok (0 :: _ :: _, _) =>
    let behind : Cursor := ⟨c.rest.drop 1, ⟨c.place.line, c.place.column + 1⟩⟩
    .error ⟨.invalidNumber, behind.inside⟩
  | .ok found => .ok found

def readFraction (c : Cursor) : Step (Option (List Nat)) :=
  match c.rest with
  | '.' :: rest =>
    match readSomeDigits ⟨rest, c.place.after '.'⟩ with
    | .ok (digits, behind) => .ok (some digits, behind)
    | .error m => .error m
  | _ => .ok (none, c)

def readExponent (c : Cursor) : Step (Option (Bool × List Nat × Place)) :=
  match c.rest with
  | x :: rest =>
    if x = 'e' ∨ x = 'E' then
      let c : Cursor := ⟨rest, c.place.after x⟩
      let (down, c) := match c.rest with
        | '+' :: rest => (false, ⟨rest, c.place.after '+'⟩)
        | '-' :: rest => (true, ⟨rest, c.place.after '-'⟩)
        | _ => (false, c)
      match readSomeDigits c with
      | .ok (digits, behind) => .ok (some (down, digits, c.place), behind)
      | .error m => .error m
    else .ok (none, c)
  | [] => .ok (none, c)

def readLexeme (negative : Bool) (c : Cursor) : Except Misread (Lexeme × Cursor) := do
  let (whole, c) ← readWhole c
  let (fraction, c) ← readFraction c
  let (exponent, c) ← readExponent c
  return (⟨negative, whole, fraction, exponent, c.place⟩, c)

-- A number, from its first digit on.
def readNumber (negative : Bool) (c : Cursor) : Except Misread (Number × Cursor) := do
  let (lexeme, c) ← readLexeme negative c
  return (← lexeme.number, c)

def hexDigit? (x : Char) : Option Nat :=
  if '0' ≤ x ∧ x ≤ '9' then some (x.toNat - 48)
  else if 'a' ≤ x ∧ x ≤ 'f' then some (x.toNat - 87)
  else if 'A' ≤ x ∧ x ≤ 'F' then some (x.toNat - 55)
  else none

-- The four hexadecimal digits of an escape. They are looked at together: a complaint points behind
-- all four bytes.
def readHex (c : Cursor) : Step Nat :=
  let refused : Step Nat :=
    if Cursor.byteCount (c.rest.take 4) < 4 then .error ⟨.endInString, c.endPlace⟩
    else .error ⟨.invalidEscape, Cursor.placeAfterBytes 4 c.rest c.place⟩
  match c.rest with
  | x :: y :: z :: w :: rest =>
    match hexDigit? x, hexDigit? y, hexDigit? z, hexDigit? w with
    | some x, some y, some z, some w =>
      .ok (((x * 16 + y) * 16 + z) * 16 + w, ⟨rest, ⟨c.place.line, c.place.column + 4⟩⟩)
    | _, _, _, _ => refused
  | _ => refused

-- The second half of a character above 0xFFFF: another escape, with a low surrogate.
def readLowSurrogate (high : Nat) (c : Cursor) : Step Char :=
  match c.rest with
  | [] => .error ⟨.endInString, c.place⟩
  | '\\' :: rest =>
    let c : Cursor := ⟨rest, c.place.after '\\'⟩
    match c.rest with
    | [] => .error ⟨.endInString, c.place⟩
    | 'u' :: rest =>
      match readHex ⟨rest, c.place.after 'u'⟩ with
      | .error m => .error m
      | .ok (low, behind) =>
        if 0xDC00 ≤ low ∧ low ≤ 0xDFFF then
          .ok (Char.ofNat (0x10000 + (high - 0xD800) * 0x400 + (low - 0xDC00)), behind)
        else .error ⟨.loneSurrogate, behind.place⟩
    | _ => .error ⟨.cutSurrogate, c.inside⟩
  | _ => .error ⟨.cutSurrogate, c.inside⟩

-- The character that an escape stands for, from behind its backslash.
def readEscape (c : Cursor) : Step Char :=
  match c.rest with
  | [] => .error ⟨.endInString, c.place⟩
  | x :: rest =>
    let behind : Cursor := ⟨rest, c.place.after x⟩
    if x = '"' ∨ x = '\\' ∨ x = '/' then .ok (x, behind)
    else if x = 'b' then .ok (Char.ofNat 8, behind)
    else if x = 'f' then .ok (Char.ofNat 12, behind)
    else if x = 'n' then .ok ('\n', behind)
    else if x = 'r' then .ok ('\r', behind)
    else if x = 't' then .ok ('\t', behind)
    else if x = 'u' then
      match readHex behind with
      | .error m => .error m
      | .ok (n, behind) =>
        if 0xDC00 ≤ n ∧ n ≤ 0xDFFF then .error ⟨.loneSurrogate, behind.place⟩
        else if 0xD800 ≤ n ∧ n ≤ 0xDBFF then readLowSurrogate n behind
        else .ok (Char.ofNat n, behind)
    else .error ⟨.invalidEscape, c.inside⟩

-- The characters up to the closing quotation mark. Every step takes at least one character, so as
-- many steps as there are characters are enough.
def readCharacters : Nat → Cursor → Step (List Char)
  | 0, c => .error ⟨.endInString, c.place⟩
  | steps + 1, c =>
    match c.rest with
    | [] => .error ⟨.endInString, c.place⟩
    | x :: rest =>
      let behind : Cursor := ⟨rest, c.place.after x⟩
      if x = '"' then .ok ([], behind)
      else if x.toNat < 0x20 then .error ⟨.controlCharacter, c.inside⟩
      else if x = '\\' then
        match readEscape behind with
        | .error m => .error m
        | .ok (y, behind) =>
          match readCharacters steps behind with
          | .error m => .error m
          | .ok (chars, stop) => .ok (y :: chars, stop)
      else
        match readCharacters steps behind with
        | .error m => .error m
        | .ok (chars, stop) => .ok (x :: chars, stop)

-- A string, from behind its opening quotation mark.
def readString (c : Cursor) : Step String :=
  match readCharacters (c.rest.length + 1) c with
  | .ok (chars, behind) => .ok (String.ofList chars, behind)
  | .error m => .error m

end Diorama.Json

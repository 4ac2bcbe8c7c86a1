import Diorama.Number.Numeral

-- Keys: what a terminal sends for them, and which binding a key matches.

namespace Diorama

inductive KeyCode where
  | char (c : Char)
  | function (number : Nat)
  | left
  | right
  | up
  | down
  | enter
  | esc
  | home
  | tab
  -- keys that no binding can name
  | other
deriving DecidableEq, Inhabited

structure Key where
  code : KeyCode
  control : Bool := false
  alt : Bool := false
  shift : Bool := false
deriving DecidableEq, Inhabited

namespace Key

def ofChar (c : Char) : Key := { code := .char c, shift := c.isUpper }

-- The key behind a number in a control sequence.
def ofSequenceNumber (n : Nat) : Option KeyCode :=
  if n = 1 ∨ n = 7 then some .home
  else if (2 ≤ n ∧ n ≤ 6) ∨ n = 8 then some .other
  else if 11 ≤ n ∧ n ≤ 15 then some (.function (n - 10))
  else if 17 ≤ n ∧ n ≤ 21 then some (.function (n - 11))
  else if 23 ≤ n ∧ n ≤ 26 then some (.function (n - 12))
  else if 28 ≤ n ∧ n ≤ 29 then some (.function (n - 15))
  else if 31 ≤ n ∧ n ≤ 34 then some (.function (n - 17))
  else none

-- The key behind the letter that ends a control sequence.
def ofSequenceLetter (c : Char) : Option KeyCode :=
  if c = 'A' then some .up
  else if c = 'B' then some .down
  else if c = 'C' then some .right
  else if c = 'D' then some .left
  else if c = 'F' ∨ c = 'Z' then some .other
  else if c = 'H' then some .home
  else if c = 'P' then some (.function 1)
  else if c = 'Q' then some (.function 2)
  else if c = 'S' then some (.function 4)
  else none

-- Short sequences have one letter more.
def ofShortLetter (c : Char) : Option KeyCode :=
  if c = 'R' then some (.function 3) else ofSequenceLetter c

-- Modifiers as a control sequence numbers them: one more than a sum of one, two and four.
def withModifiers (n : Nat) (code : KeyCode) : Key :=
  let bits := n - 1
  { code, shift := bits % 2 == 1, alt := bits / 2 % 2 == 1, control := bits / 4 % 2 == 1 }

-- The parameters of a control sequence, separated by semicolons.
def parameters (chars : List Char) : List Nat :=
  ((String.ofList chars).splitOn ";").map fun part =>
    Numeral.value (Numeral.splitDigits part.toList).1

-- A control sequence by its parameters and its last character.
def ofSequence (parameterText : List Char) (last : Char) : Option Key :=
  let numbers := parameters parameterText
  let code :=
    if last = '~' then ofSequenceNumber (numbers.headD 0) else ofSequenceLetter last
  code.map (withModifiers ((numbers[1]?).getD 1))

-- A single character. The control characters stand for letters and digits with Ctrl held down.
def ofCharacter (c : Char) : Key :=
  let n := c.toNat
  if c = '\r' then { code := .enter }
  else if c = '\t' then { code := .tab }
  else if n = 0x7F then { code := .other }
  else if n = 0 then { code := .char ' ', control := true }
  else if n ≤ 0x1A then { code := .char (Char.ofNat (n + 96)), control := true }
  else if 0x1C ≤ n ∧ n ≤ 0x1F then { code := .char (Char.ofNat (n - 0x1C + 52)), control := true }
  else ofChar c

def escape : Char := Char.ofNat 27

def isParameter (c : Char) : Bool := c.isDigit || c == ';'

-- The keys that a terminal has sent; a sequence that stands for none of them is passed over. An
-- escape that nothing follows is the key itself; one before another character is Alt. The state is
-- what has been taken of a sequence: nothing, the escape, the mark of a short sequence, or the
-- parameters of a long one, backwards.
inductive Pending where
  | nothing
  | escape
  | short
  | long (parameters : List Char)

def decodeFrom : Pending → List Char → List Key
  | .nothing, [] => []
  | .escape, [] => [{ code := .esc }]
  | _, [] => []
  | .nothing, c :: rest =>
    if c = escape then decodeFrom .escape rest else ofCharacter c :: decodeFrom .nothing rest
  | .escape, c :: rest =>
    if c = '[' then decodeFrom (.long []) rest
    else if c = 'O' then decodeFrom .short rest
    else if c = escape then { code := .esc } :: decodeFrom .nothing rest
    else { ofCharacter c with alt := true } :: decodeFrom .nothing rest
  | .short, c :: rest =>
    ((ofShortLetter c).map fun code => { code }).toList ++ decodeFrom .nothing rest
  | .long parameters, c :: rest =>
    if isParameter c then decodeFrom (.long (c :: parameters)) rest
    else (ofSequence parameters.reverse c).toList ++ decodeFrom .nothing rest

def decode (typed : String) : List Key := decodeFrom .nothing typed.toList

end Key

namespace Binding

def controlMark : List Char := "Ctrl-".toList

-- The number of a function key, if that is what a text names.
def functionNumber? : List Char → Option Nat
  | 'F' :: rest => (Numeral.count 256 (String.ofList rest)).toOption
  | _ => none

-- The key that a binding without Ctrl names. Anything that is no name of a key stands for its
-- first character.
def plainCode? (binding : String) : Option KeyCode :=
  if binding = "Right" then some .right
  else if binding = "Left" then some .left
  else if binding = "Enter" then some .enter
  else if binding = "Esc" then some .esc
  else if binding = "Space" then some (.char ' ')
  else if binding = "Home" then some .home
  else
    match functionNumber? binding.toList with
    | some n => some (.function n)
    | none => binding.toList.head?.map .char

-- Whether a key is the one that a binding names. Bindings without Ctrl never match while Ctrl or
-- Alt is held down.
def isMatch (binding : String) (key : Key) : Bool :=
  if controlMark.isPrefixOf binding.toList then
    key.control && ((binding.toList.drop controlMark.length).head?.map .char == some key.code)
  else !key.control && !key.alt && plainCode? binding == some key.code

end Binding

end Diorama

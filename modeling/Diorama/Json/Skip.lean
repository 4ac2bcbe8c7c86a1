import Diorama.Json.Token

-- Passing over a value that nobody asked for. The grammar is lighter than that of values that are
-- read: any depth, any number, any escape of four hexadecimal digits.

namespace Diorama.Json

-- The containers that are open, the innermost first.
inductive Frame where
  | list
  | object

def Frame.commaExpected : Frame → TextFault
  | .list => .listCommaExpected
  | .object => .objectCommaExpected

def Frame.endFault : Frame → TextFault
  | .list => .endInList
  | .object => .endInObject

def Frame.closes : Frame → Char → Bool
  | .list, x => x == ']'
  | .object, x => x == '\x7d'

-- At least one digit; the end of the text is no different from any other character here.
def skipSomeDigits (c : Cursor) : Except Misread Cursor :=
  match readDigits c with
  | ([], _) => .error ⟨.invalidNumber, c.inside⟩
  | (_, behind) => .ok behind

def skipWhole (c : Cursor) : Except Misread Cursor :=
  match readDigits c with
  | ([], _) => .error ⟨.invalidNumber, c.inside⟩
  | (0 :: _ :: _, _) =>
    let behind : Cursor := ⟨c.rest.drop 1, ⟨c.place.line, c.place.column + 1⟩⟩
    .error ⟨.invalidNumber, behind.inside⟩
  | (_, behind) => .ok behind

def skipFraction (c : Cursor) : Except Misread Cursor :=
  match c.rest with
  | '.' :: rest => skipSomeDigits ⟨rest, c.place.after '.'⟩
  | _ => .ok c

def skipExponent (c : Cursor) : Except Misread Cursor :=
  match c.rest with
  | x :: rest =>
    if x = 'e' ∨ x = 'E' then
      let c : Cursor := ⟨rest, c.place.after x⟩
      match c.rest with
      | '+' :: rest => skipSomeDigits ⟨rest, c.place.after '+'⟩
      | '-' :: rest => skipSomeDigits ⟨rest, c.place.after '-'⟩
      | _ => skipSomeDigits c
    else .ok c
  | [] => .ok c

def skipNumber (c : Cursor) : Except Misread Cursor := do
  skipExponent (← skipFraction (← skipWhole c))

def skipCharacters : Nat → Cursor → Except Misread Cursor
  | 0, c => .error ⟨.endInString, c.place⟩
  | steps + 1, c =>
    match c.rest with
    | [] => .error ⟨.endInString, c.place⟩
    | x :: rest =>
      let behind : Cursor := ⟨rest, c.place.after x⟩
      if x = '"' then .ok behind
      else if x.toNat < 0x20 then .error ⟨.controlCharacter, c.place⟩
      else if x = '\\' then
        match behind.rest with
        | [] => .error ⟨.endInString, behind.place⟩
        | y :: rest =>
          let beyond : Cursor := ⟨rest, behind.place.after y⟩
          if y = 'u' then
            match readHex beyond with
            | .error m => .error m
            | .ok (_, beyond) => skipCharacters steps beyond
          else if y = '"' ∨ y = '\\' ∨ y = '/' ∨ y = 'b' ∨ y = 'f' ∨ y = 'n' ∨ y = 'r' ∨
              y = 't' then
            skipCharacters steps beyond
          else .error ⟨.invalidEscape, behind.inside⟩
      else skipCharacters steps behind

def skipString (c : Cursor) : Except Misread Cursor := skipCharacters (c.rest.length + 1) c

def skipName (c : Cursor) : Except Misread Cursor := do
  let c := c.skipBlanks
  match c.rest with
  | [] => .error ⟨.endInObject, c.place⟩
  | '"' :: rest =>
    let c := (← skipString ⟨rest, c.place.after '"'⟩).skipBlanks
    match c.rest with
    | [] => .error ⟨.endInObject, c.place⟩
    | ':' :: rest => .ok ⟨rest, c.place.after ':'⟩
    | _ => .error ⟨.colonExpected, c.inside⟩
  | _ => .error ⟨.nameExpected, c.inside⟩

mutual

-- Each step takes a character or leaves a container, so twice the length of the text bounds them.
def skipValueIn : Nat → List Frame → Cursor → Except Misread Cursor
  | 0, _, c => .error ⟨.endInValue, c.place⟩
  | steps + 1, frames, c =>
    let c := c.skipBlanks
    match c.rest with
    | [] => .error ⟨.endInValue, c.place⟩
    | x :: rest =>
      let behind : Cursor := ⟨rest, c.place.after x⟩
      if x = '[' then skipTail steps false .list frames behind
      else if x = '\x7b' then skipTail steps false .object frames behind
      else
        let scalar :=
          if x = 'n' then readWord ['u', 'l', 'l'] behind
          else if x = 't' then readWord ['r', 'u', 'e'] behind
          else if x = 'f' then readWord ['a', 'l', 's', 'e'] behind
          else if x = '-' then skipNumber behind
          else if x.isDigit then skipNumber c
          else if x = '"' then skipString behind
          else .error ⟨.valueExpected, c.inside⟩
        match scalar with
        | .error m => .error m
        | .ok behind =>
          match frames with
          | [] => .ok behind
          | frame :: outer => skipTail steps true frame outer behind
termination_by structural steps => steps

-- Behind an opening bracket or behind a value in a container.
def skipTail : Nat → Bool → Frame → List Frame → Cursor → Except Misread Cursor
  | 0, _, _, _, c => .error ⟨.endInValue, c.place⟩
  | steps + 1, behindValue, frame, outer, c =>
    let c := c.skipBlanks
    let next (c : Cursor) : Except Misread Cursor :=
      match frame with
      | .list => skipValueIn steps (frame :: outer) c
      | .object =>
        match skipName c with
        | .error m => .error m
        | .ok c => skipValueIn steps (frame :: outer) c
    match c.rest with
    | [] => .error ⟨frame.endFault, c.place⟩
    | x :: rest =>
      let behind : Cursor := ⟨rest, c.place.after x⟩
      if behindValue && x == ',' then next behind
      else if frame.closes x then
        match outer with
        | [] => .ok behind
        | frame :: outer => skipTail steps true frame outer behind
      else if behindValue then .error ⟨frame.commaExpected, c.inside⟩
      else next c
termination_by structural steps => steps

end

def skipValue (c : Cursor) : Except Misread Cursor := skipValueIn (2 * c.rest.length + 2) [] c

end Diorama.Json

import Diorama.Terminal.Drawing
import Diorama.Proofs.Text.Printable

namespace Diorama

-- What a terminal takes from its input: characters to show, and control sequences.
inductive Token where
  | letter (c : Char)
  | sequence (code : List Char)
deriving DecidableEq

namespace Token

def escape : Char := Char.ofNat 27

-- A control sequence consists of parameters and a last character that says what to do.
def isParameter (c : Char) : Bool := 48 ≤ c.toNat && c.toNat < 64

def isFinal (c : Char) : Bool := 64 ≤ c.toNat && c.toNat < 127

inductive Reader where
  | ready
  | escaped
  -- the parameters so far, backwards
  | inside (code : List Char)

-- How a terminal reads its input. Where a sequence is not as it should be, its characters are
-- letters again.
def readFrom : Reader → List Char → List Token
  | .ready, [] => []
  | .ready, c :: rest => if c = escape then readFrom .escaped rest else .letter c :: readFrom .ready rest
  | .escaped, [] => [.letter escape]
  | .escaped, c :: rest =>
    if c = '[' then readFrom (.inside []) rest else .letter escape :: .letter c :: readFrom .ready rest
  | .inside code, [] => .letter escape :: .letter '[' :: code.reverse.map .letter
  | .inside code, c :: rest =>
    if isParameter c then readFrom (.inside (c :: code)) rest
    else if isFinal c then .sequence (code.reverse ++ [c]) :: readFrom .ready rest
    else .letter escape :: .letter '[' :: (code.reverse ++ [c]).map .letter ++ readFrom .ready rest

def read (input : List Char) : List Token := readFrom .ready input

def text : Token → List Char
  | .letter c => [c]
  | .sequence code => escape :: '[' :: code

@[simp] theorem text_letter (c : Char) : text (.letter c) = [c] := rfl

-- What is seen of a token.
def shown : Token → List Char
  | .letter c => [c]
  | .sequence _ => []

def letters (tokens : List Token) : List Char := tokens.flatMap shown

@[simp] theorem letters_nil : letters [] = [] := rfl

@[simp] theorem letters_append (tokens rest : List Token) :
    letters (tokens ++ rest) = letters tokens ++ letters rest := List.flatMap_append

@[simp] theorem letters_cons_letter (c : Char) (rest : List Token) :
    letters (.letter c :: rest) = c :: letters rest := rfl

@[simp] theorem letters_map_letter (chars : List Char) : letters (chars.map .letter) = chars := by
  simp [letters, List.flatMap_map, shown]

theorem mem_letters {tokens : List Token} {c : Char} : c ∈ letters tokens ↔ .letter c ∈ tokens := by
  simp only [letters, List.mem_flatMap]
  constructor
  · rintro ⟨token, hmem, hshown⟩
    cases token with
    | letter other => exact List.mem_singleton.mp hshown ▸ hmem
    | sequence code => cases hshown
  · intro hmem
    exact ⟨.letter c, hmem, List.mem_singleton.mpr rfl⟩

-- Parameters and a final character.
def isCode (code : List Char) : Bool :=
  code.dropLast.all isParameter && code.getLast?.any isFinal

theorem isCode_concat {parameters : List Char} {last : Char}
    (h : ∀ c ∈ parameters, isParameter c = true) (hlast : isFinal last = true) :
    isCode (parameters ++ [last]) = true := by
  simpa [isCode, hlast] using h

theorem isParameter_of_isFinal {c : Char} (h : isFinal c = true) : isParameter c = false := by
  simp only [isFinal, isParameter, Bool.and_eq_true, decide_eq_true_eq, Bool.and_eq_false_iff,
    decide_eq_false_iff_not] at h ⊢
  omega

def IsWhole : Token → Prop
  | .letter _ => True
  | .sequence code => isCode code = true

-- A token that is read back from what is written for it.
def IsPlain (token : Token) : Prop := token.IsWhole ∧ token ≠ .letter escape

theorem readFrom_inside {parameters : List Char} (h : ∀ c ∈ parameters, isParameter c = true)
    (code rest : List Char) :
    readFrom (.inside code) (parameters ++ rest) =
      readFrom (.inside (parameters.reverse ++ code)) rest := by
  induction parameters generalizing code with
  | nil => rfl
  | cons c parameters ih =>
      have hfirst := h c List.mem_cons_self
      have hrest := ih (fun other hmem => h other (List.mem_cons_of_mem _ hmem)) (c :: code)
      rw [List.cons_append, readFrom, if_pos hfirst, hrest]
      simp

theorem IsPlain.readFrom_text {token : Token} (h : token.IsPlain) (rest : List Char) :
    readFrom .ready (token.text ++ rest) = token :: readFrom .ready rest := by
  cases token with
  | letter c =>
      have hc : c ≠ escape := fun heq => h.2 (heq ▸ rfl)
      rw [text, List.singleton_append, readFrom, if_neg hc]
  | sequence code =>
      have hcode : isCode code = true := h.1
      rcases List.eq_nil_or_concat code with rfl | ⟨parameters, last, rfl⟩
      · cases hcode
      · rw [List.concat_eq_append] at hcode ⊢
        obtain ⟨hparameters, hlast⟩ :
            (∀ c ∈ parameters, isParameter c = true) ∧ isFinal last = true := by
          simpa [isCode] using hcode
        calc readFrom .ready (text (.sequence (parameters ++ [last])) ++ rest)
            = readFrom (.inside []) (parameters ++ (last :: rest)) := by
              simp [text, readFrom]
          _ = readFrom (.inside (parameters.reverse ++ [])) (last :: rest) :=
              readFrom_inside hparameters [] (last :: rest)
          _ = .sequence (parameters ++ [last]) :: readFrom .ready rest := by
              simp [readFrom, isParameter_of_isFinal hlast, hlast]

-- Plain tokens are read as they are meant.
theorem read_text {tokens : List Token} (h : ∀ token ∈ tokens, token.IsPlain) :
    read (tokens.flatMap text) = tokens := by
  induction tokens with
  | nil => rfl
  | cons token tokens ih =>
      have hfirst := h token List.mem_cons_self
      have hrest := ih fun other hmem => h other (List.mem_cons_of_mem _ hmem)
      rw [List.flatMap_cons, read, hfirst.readFrom_text]
      exact congrArg (token :: ·) hrest

end Token

namespace Menu

-- Nothing of an item is lost where it is split.
theorem splitFrom_flatten (plain : List Char) (inner : Option (List Char)) (item : List Char) :
    (splitFrom plain inner item).flatten = plain.reverse ++ (inner.getD []).reverse ++ item := by
  induction item generalizing plain inner with
  | nil => cases inner <;> simp [splitFrom]
  | cons c rest ih =>
      cases inner with
      | none =>
          by_cases hopen : c = '['
          · simp [splitFrom, hopen, ih]
          · simp [splitFrom, hopen, ih]
      | some inner =>
          by_cases hclose : c = ']'
          · simp [splitFrom, hclose, ih]
          · simp [splitFrom, hclose, ih]

theorem markParts_text (bold : Bool) (texts : List (List Char)) :
    (markParts bold texts).map (·.text) = texts := by
  induction texts generalizing bold with
  | nil => rfl
  | cons text texts ih => simp [markParts, ih]

-- Parts that are empty are left out, which is not seen where nothing comes of them anyway.
theorem flatMap_filter_text {α : Type} {f : Part → List α} (h : ∀ p, p.text = [] → f p = [])
    (parts : List Part) : (parts.filter (!·.text.isEmpty)).flatMap f = parts.flatMap f := by
  induction parts with
  | nil => rfl
  | cons p parts ih =>
      cases htext : p.text with
      | nil => simp [htext, ih, h p htext]
      | cons c rest => simp [htext, ih]

theorem parts_text (item : String) : (parts item).flatMap (·.text) = item.toList := by
  rw [parts, flatMap_filter_text fun _ h => h, List.flatMap_def, markParts_text, split,
    splitFrom_flatten]
  simp

end Menu

namespace Drawing

open Token (letters)

def control (code : String) : Token := .sequence code.toList

def placeToken (column row : Nat) : Token :=
  control (toString (row + 1) ++ ";" ++ toString (column + 1) ++ "H")

def styleTokens (c : Cell) : List Token :=
  (match c.color with
    | some color => [control ("38;" ++ colorCode color ++ "m")]
    | none => []) ++
    (if c.bold then [control "1m"] else []) ++ (if c.dim then [control "2m"] else [])

def unstyleTokens (c : Cell) : List Token :=
  if c.bold || c.dim then [control "0m"] else if c.color.isSome then [control "39m"] else []

def partTokens (p : Menu.Part) : List Token :=
  control (if p.bold then "1m" else "2m") :: p.text.map .letter ++ [control "0m"]

def itemTokens (item : String) : List Token := (Menu.parts item).flatMap partTokens

-- The sequences and letters that a drawing consists of.
def tokens : Drawing → List Token
  | .cell column row c =>
    placeToken column row :: styleTokens c ++ .letter c.character :: unstyleTokens c
  | .enter => [control "?1049h", control "?25l", control "2J"]
  | .clear => [control "2J"]
  | .leave => [control "?25h", control "?1049l"]
  | .menuBar items =>
    placeToken 0 0 :: control "2K" :: .letter ' ' ::
      [.letter ' ', .letter ' '].intercalate (items.map itemTokens)
  | .statusLine row line =>
    placeToken 0 row :: control "2K" :: control "2m" :: line.toList.map .letter ++ [control "0m"]

@[simp] theorem text_control (code : String) : (control code).text = (escape code).toList := by
  simp [control, Token.text, Token.escape, escape]

@[simp] theorem text_placeToken (column row : Nat) :
    (placeToken column row).text = (moveTo column row).toList := text_control _

@[simp] theorem letters_cons_control (code : String) (rest : List Token) :
    letters (control code :: rest) = letters rest := rfl

@[simp] theorem letters_cons_placeToken (column row : Nat) (rest : List Token) :
    letters (placeToken column row :: rest) = letters rest := rfl

@[simp] theorem flatMap_letters (chars : List Char) :
    (chars.map Token.letter).flatMap Token.text = chars := by
  simp [List.flatMap_map]

theorem text_styled (c : Cell) :
    (styled c).toList =
      (styleTokens c ++ .letter c.character :: unstyleTokens c).flatMap Token.text := by
  obtain ⟨character, color, bold, dim⟩ := c
  cases color <;> cases bold <;> cases dim <;> simp [styled, styleTokens, unstyleTokens]

theorem text_menuItem (item : String) :
    (menuItem item).toList = (itemTokens item).flatMap Token.text := by
  rw [menuItem, itemTokens, String.toList_join, List.flatMap_map, List.flatMap_assoc]
  congr 1
  funext p
  simp [menuPart, partTokens]

theorem flatMap_intercalate {α β : Type} (f : α → List β) (separator : List α) (l : List (List α)) :
    (separator.intercalate l).flatMap f =
      (separator.flatMap f).intercalate (l.map (·.flatMap f)) := by
  induction l with
  | nil => rfl
  | cons first rest ih =>
      cases rest with
      | nil => simp
      | cons second rest =>
          rw [List.intercalate_cons_cons, List.flatMap_append, List.flatMap_append, ih]
          simp

-- What is written to the terminal is the text of the tokens.
theorem text_eq (drawing : Drawing) : drawing.text.toList = drawing.tokens.flatMap Token.text := by
  cases drawing with
  | cell column row c =>
      rw [text, String.toList_append, text_styled, tokens, List.cons_append, List.flatMap_cons,
        text_placeToken]
  | enter => simp [text, tokens]
  | clear => simp [text, tokens]
  | leave => simp [text, tokens]
  | menuBar items =>
      have hitems : (String.intercalate "  " (items.map menuItem)).toList =
          ([Token.letter ' ', .letter ' '].intercalate (items.map itemTokens)).flatMap
            Token.text := by
        rw [flatMap_intercalate, String.toList_intercalate]
        simp [Function.comp_def, text_menuItem]
      simp [text, tokens, hitems]
  | statusLine row line => simp [text, tokens]

theorem letters_itemTokens (item : String) : letters (itemTokens item) = item.toList := by
  have hpart : ∀ p, letters (partTokens p) = p.text := fun p => by simp [partTokens]
  simp only [letters] at hpart
  rw [itemTokens, letters, List.flatMap_assoc]
  simp only [hpart, Menu.parts_text]

theorem letters_styleTokens (c : Cell) : letters (styleTokens c) = [] := by
  obtain ⟨character, color, bold, dim⟩ := c
  cases color <;> cases bold <;> cases dim <;> rfl

theorem letters_unstyleTokens (c : Cell) : letters (unstyleTokens c) = [] := by
  rw [unstyleTokens]
  split
  · rfl
  · split <;> rfl

-- The characters of a drawing that a terminal shows: of a cell its own, and of menu and status
-- line what they say.
theorem letters_tokens (drawing : Drawing) :
    letters drawing.tokens = match drawing with
      | .cell _ _ c => [c.character]
      | .menuBar items => (" " ++ String.intercalate "  " items).toList
      | .statusLine _ line => line.toList
      | .enter | .clear | .leave => [] := by
  cases drawing with
  | cell column row c =>
      simp [tokens, letters_styleTokens, letters_unstyleTokens]
  | enter => rfl
  | clear => rfl
  | leave => rfl
  | menuBar items =>
      have hitems : letters ([Token.letter ' ', .letter ' '].intercalate (items.map itemTokens)) =
          (String.intercalate "  " items).toList := by
        rw [letters, flatMap_intercalate, String.toList_intercalate, List.map_map]
        congr 1
        exact List.map_congr_left fun item _ => letters_itemTokens item
      simp [tokens, hitems]
  | statusLine row line => simp [tokens]

-- Texts of nothing but parameters.
def IsParameters (code : String) : Prop := ∀ c ∈ code.toList, Token.isParameter c = true

instance (code : String) : Decidable (IsParameters code) :=
  List.decidableBAll (fun c => Token.isParameter c = true) code.toList

theorem IsParameters.append {code rest : String} (h : IsParameters code) (hrest : IsParameters rest) :
    IsParameters (code ++ rest) := by
  rw [IsParameters, String.toList_append]
  exact List.forall_mem_append.mpr ⟨h, hrest⟩

theorem isParameters_toString (n : Nat) : IsParameters (toString n) := by
  intro c hc
  have hdigit : c.isDigit = true := by
    rw [show toString n = n.repr from rfl, Nat.toList_repr] at hc
    exact Nat.isDigit_of_mem_toDigits (by decide) (by decide) hc
  simp only [Char.isDigit, Bool.and_eq_true, decide_eq_true_eq] at hdigit
  have hlow : 48 ≤ c.toNat := hdigit.1
  have hhigh : c.toNat ≤ 57 := hdigit.2
  simp only [Token.isParameter, Bool.and_eq_true, decide_eq_true_eq]
  omega

theorem isParameters_colorCode (color : Color) : IsParameters (colorCode color) := by
  have hsemicolon : IsParameters ";" := by decide
  cases color with
  | named name =>
      have hpalette : IsParameters "5;" := by decide
      exact hpalette.append (isParameters_toString _)
  | rgb r g b =>
      have htriple : IsParameters "2;" := by decide
      exact ((((htriple.append (isParameters_toString _)).append hsemicolon).append
        (isParameters_toString _)).append hsemicolon).append (isParameters_toString _)

theorem isWhole_control {parameters : String} (h : IsParameters parameters) (final : String)
    {last : Char} (hfinal : final.toList = [last]) (hlast : Token.isFinal last = true) :
    (control (parameters ++ final)).IsWhole := by
  rw [control, String.toList_append, hfinal]
  exact Token.isCode_concat h hlast

theorem isWhole_placeToken (column row : Nat) : (placeToken column row).IsWhole := by
  have hsemicolon : IsParameters ";" := by decide
  have hplace := ((isParameters_toString (row + 1)).append hsemicolon).append
    (isParameters_toString (column + 1))
  exact isWhole_control hplace "H" rfl rfl

theorem isWhole_of_mem_styleTokens {c : Cell} {token : Token} (h : token ∈ styleTokens c) :
    token.IsWhole := by
  simp only [styleTokens, List.mem_append, List.mem_ite_nil_right, List.mem_singleton] at h
  rcases h with (h | ⟨-, rfl⟩) | ⟨-, rfl⟩
  · cases hcolor : c.color with
    | none => simp [hcolor] at h
    | some color =>
        have hkind : IsParameters "38;" := by decide
        simp only [hcolor, List.mem_singleton] at h
        exact h ▸ isWhole_control (hkind.append (isParameters_colorCode color)) "m" rfl rfl
  · rfl
  · rfl

theorem isWhole_of_mem_unstyleTokens {c : Cell} {token : Token} (h : token ∈ unstyleTokens c) :
    token.IsWhole := by
  rw [unstyleTokens] at h
  split at h
  · exact List.mem_singleton.mp h ▸ rfl
  · split at h
    · exact List.mem_singleton.mp h ▸ rfl
    · cases h

theorem isWhole_of_mem_letters {chars : List Char} {token : Token}
    (h : token ∈ chars.map Token.letter) : token.IsWhole := by
  obtain ⟨c, -, rfl⟩ := List.mem_map.mp h
  trivial

theorem isWhole_of_mem_itemTokens {item : String} {token : Token} (h : token ∈ itemTokens item) :
    token.IsWhole := by
  obtain ⟨p, -, h⟩ := List.mem_flatMap.mp h
  simp only [partTokens, List.cons_append, List.mem_cons, List.mem_append, List.not_mem_nil,
    or_false] at h
  rcases h with rfl | h | rfl
  · cases p.bold <;> rfl
  · exact isWhole_of_mem_letters h
  · rfl

theorem mem_intercalate {α : Type} {separator : List α} {l : List (List α)} {a : α}
    (h : a ∈ separator.intercalate l) : a ∈ separator ∨ ∃ part ∈ l, a ∈ part := by
  induction l with
  | nil => cases h
  | cons first rest ih =>
      cases rest with
      | nil => exact .inr ⟨first, List.mem_cons_self, by simpa using h⟩
      | cons second rest =>
          rw [List.intercalate_cons_cons, List.mem_append, List.mem_append] at h
          rcases h with (h | h) | h
          · exact .inr ⟨first, List.mem_cons_self, h⟩
          · exact .inl h
          · exact (ih h).imp_right fun ⟨part, hmem, ha⟩ => ⟨part, List.mem_cons_of_mem _ hmem, ha⟩

-- A drawing has no other sequences than whole ones.
theorem isWhole_of_mem_tokens {drawing : Drawing} {token : Token} (h : token ∈ drawing.tokens) :
    token.IsWhole := by
  cases drawing with
  | cell column row c =>
      simp only [tokens, List.cons_append, List.mem_cons, List.mem_append] at h
      rcases h with rfl | h | rfl | h
      · exact isWhole_placeToken column row
      · exact isWhole_of_mem_styleTokens h
      · trivial
      · exact isWhole_of_mem_unstyleTokens h
  | enter =>
      simp only [tokens, List.mem_cons, List.not_mem_nil, or_false] at h
      rcases h with rfl | rfl | rfl <;> rfl
  | clear => exact List.mem_singleton.mp h ▸ rfl
  | leave =>
      simp only [tokens, List.mem_cons, List.not_mem_nil, or_false] at h
      rcases h with rfl | rfl <;> rfl
  | menuBar items =>
      simp only [tokens, List.mem_cons] at h
      rcases h with rfl | rfl | rfl | h
      · exact isWhole_placeToken 0 0
      · rfl
      · trivial
      · rcases mem_intercalate h with h | ⟨part, hpart, h⟩
        · have hblanks : token ∈ [' ', ' '].map Token.letter := h
          exact isWhole_of_mem_letters hblanks
        · obtain ⟨item, -, rfl⟩ := List.mem_map.mp hpart
          exact isWhole_of_mem_itemTokens h
  | statusLine row line =>
      simp only [tokens, List.cons_append, List.mem_cons, List.mem_append, List.not_mem_nil,
        or_false] at h
      rcases h with rfl | rfl | rfl | h | rfl
      · exact isWhole_placeToken 0 row
      · rfl
      · rfl
      · exact isWhole_of_mem_letters h
      · rfl

-- A terminal finds in drawings what they consist of and nothing else, as long as no character to be
-- shown starts a sequence of its own.
theorem read_drawings {drawings : List Drawing}
    (h : ∀ drawing ∈ drawings, ∀ c ∈ letters drawing.tokens, isControl c = false) :
    Token.read (String.join (drawings.map text)).toList = drawings.flatMap tokens := by
  have htext : (String.join (drawings.map text)).toList =
      (drawings.flatMap tokens).flatMap Token.text := by
    rw [String.toList_join, List.flatMap_map, List.flatMap_assoc]
    congr 1
    funext drawing
    exact drawing.text_eq
  rw [htext]
  apply Token.read_text
  intro token hmem
  obtain ⟨drawing, hdrawing, htoken⟩ := List.mem_flatMap.mp hmem
  refine ⟨isWhole_of_mem_tokens htoken, ?_⟩
  rintro rfl
  have hletter := h drawing hdrawing Token.escape (Token.mem_letters.mpr htoken)
  exact absurd hletter (by decide)

end Drawing

end Diorama

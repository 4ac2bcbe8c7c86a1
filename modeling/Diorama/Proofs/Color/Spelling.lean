import Mathlib
import Diorama.Color
import Diorama.Proofs.Text.Offsets

namespace Diorama

-- The characters that stand for a number below sixteen.
inductive HexDigit : Char → Nat → Prop where
  | decimal {c : Char} (hlow : '0' ≤ c) (hhigh : c ≤ '9') : HexDigit c (c.toNat - '0'.toNat)
  | lower {c : Char} (hlow : 'a' ≤ c) (hhigh : c ≤ 'f') : HexDigit c (c.toNat - 'a'.toNat + 10)
  | upper {c : Char} (hlow : 'A' ≤ c) (hhigh : c ≤ 'F') : HexDigit c (c.toNat - 'A'.toNat + 10)

namespace HexDigit

variable {c : Char} {d : Nat}

theorem bounds (h : HexDigit c d) :
    48 ≤ c.toNat ∧ c.toNat ≤ 57 ∧ d = c.toNat - 48 ∨
      97 ≤ c.toNat ∧ c.toNat ≤ 102 ∧ d = c.toNat - 97 + 10 ∨
        65 ≤ c.toNat ∧ c.toNat ≤ 70 ∧ d = c.toNat - 65 + 10 := by
  cases h with
  | decimal hlow hhigh => exact .inl ⟨hlow, hhigh, rfl⟩
  | lower hlow hhigh => exact .inr (.inl ⟨hlow, hhigh, rfl⟩)
  | upper hlow hhigh => exact .inr (.inr ⟨hlow, hhigh, rfl⟩)

theorem lt (h : HexDigit c d) : d < 16 := by
  have hbounds := h.bounds
  omega

theorem utf8Size (h : HexDigit c d) : c.utf8Size = 1 := by
  have hbounds := h.bounds
  have hascii : c.toNat ≤ 127 := by omega
  exact Char.utf8Size_eq_one_iff.mpr hascii

theorem isBlank (h : HexDigit c d) : Text.isBlank c = false := by
  have hbounds := h.bounds
  have hlow : 48 ≤ c.toNat := by omega
  have hhigh : c.toNat ≤ 102 := by omega
  simp [Text.isBlank]
  omega

theorem ne_plus (h : HexDigit c d) : c ≠ '+' := by
  have hbounds := h.bounds
  rintro rfl
  have hplus : '+'.toNat = 43 := rfl
  omega

end HexDigit

theorem Json.hexDigit?_eq_some_iff {c : Char} {d : Nat} :
    hexDigit? c = some d ↔ HexDigit c d := by
  constructor
  · intro h
    rw [hexDigit?] at h
    split at h
    · rename_i hc
      obtain rfl := Option.some.inj h
      exact .decimal hc.1 hc.2
    · split at h
      · rename_i hc
        have hlow : 97 ≤ c.toNat := hc.1
        obtain rfl : c.toNat - 97 + 10 = d := by
          have heq := Option.some.inj h
          omega
        exact .lower hc.1 hc.2
      · split at h
        · rename_i hc
          have hlow : 65 ≤ c.toNat := hc.1
          obtain rfl : c.toNat - 65 + 10 = d := by
            have heq := Option.some.inj h
            omega
          exact .upper hc.1 hc.2
        · cases h
  · intro h
    cases h with
    | decimal hlow hhigh => exact if_pos ⟨hlow, hhigh⟩
    | lower hlow hhigh =>
        have hc : 97 ≤ c.toNat := hlow
        have hdecimal : ¬('0' ≤ c ∧ c ≤ '9') := fun h => by
          have hnine : c.toNat ≤ 57 := h.2
          omega
        have hvalue : c.toNat - 87 = c.toNat - 'a'.toNat + 10 := by
          have ha : 'a'.toNat = 97 := rfl
          omega
        rw [hexDigit?, if_neg hdecimal, if_pos ⟨hlow, hhigh⟩, hvalue]
    | upper hlow hhigh =>
        have hc : 65 ≤ c.toNat := hlow
        have hc' : c.toNat ≤ 70 := hhigh
        have hdecimal : ¬('0' ≤ c ∧ c ≤ '9') := fun h => by
          have hnine : c.toNat ≤ 57 := h.2
          omega
        have hlower : ¬('a' ≤ c ∧ c ≤ 'f') := fun h => by
          have ha : 97 ≤ c.toNat := h.1
          omega
        have hvalue : c.toNat - 55 = c.toNat - 'A'.toNat + 10 := by
          have ha : 'A'.toNat = 65 := rfl
          omega
        rw [hexDigit?, if_neg hdecimal, if_neg hlower, if_pos ⟨hlow, hhigh⟩, hvalue]

namespace Color

-- A text of digits and the numbers that they stand for.
abbrev Digits : List Char → List Nat → Prop := List.Forall₂ HexDigit

-- What digits say in a row, the first one weighing most.
def place (n : Nat) (ds : List Nat) : Nat := ds.foldl (16 * · + ·) n

theorem foldlM_hexDigit? {text : List Char} {n v : Nat} :
    text.foldlM (fun n c => (Json.hexDigit? c).map (16 * n + ·)) n = some v ↔
      ∃ ds, Digits text ds ∧ place n ds = v := by
  induction text generalizing n with
  | nil => simp [place]
  | cons c rest ih =>
      cases hc : Json.hexDigit? c with
      | none =>
          have hno : ∀ d, ¬HexDigit c d := fun d h => by
            simp [Json.hexDigit?_eq_some_iff.mpr h] at hc
          simp [hc, List.forall₂_cons_left_iff, hno]
      | some d =>
          have hdigit := Json.hexDigit?_eq_some_iff.mp hc
          have hunique : ∀ d', HexDigit c d' → d' = d := fun d' h =>
            Option.some.inj ((Json.hexDigit?_eq_some_iff.mpr h).symm.trans hc)
          simp only [List.foldlM_cons, hc, Option.map_some, Option.bind_eq_bind, Option.bind_some, ih]
          constructor
          · rintro ⟨ds, hds, rfl⟩
            exact ⟨d :: ds, .cons hdigit hds, rfl⟩
          · rintro ⟨ds, hds, rfl⟩
            obtain ⟨d', ds', hd', hds', rfl⟩ := List.forall₂_cons_left_iff.mp hds
            obtain rfl := hunique d' hd'
            exact ⟨ds', hds', rfl⟩

theorem Digits.byteCount_eq {text : List Char} {ds : List Nat} (h : Digits text ds) :
    Cursor.byteCount text = ds.length := by
  induction h with
  | nil => rfl
  | cons hd _ ih => rw [Cursor.byteCount_cons, hd.utf8Size, ih, List.length_cons, Nat.add_comm]

theorem Digits.lt {text : List Char} {ds : List Nat} (h : Digits text ds) :
    ∀ d ∈ ds, d < 16 := by
  induction h with
  | nil => simp
  | cons hd _ ih => exact List.forall_mem_cons.mpr ⟨hd.lt, ih⟩

theorem Digits.isBlank {text : List Char} {ds : List Nat} (h : Digits text ds) :
    ∀ c ∈ text, Text.isBlank c = false := by
  induction h with
  | nil => simp
  | cons hd _ ih => exact List.forall_mem_cons.mpr ⟨hd.isBlank, ih⟩

theorem Digits.ne_plus {text : List Char} {ds : List Nat} (h : Digits text ds)
    (rest : List Char) : text ≠ '+' :: rest := by
  rintro rfl
  obtain ⟨d, _, hd, -, -⟩ := List.forall₂_cons_left_iff.mp h
  exact hd.ne_plus rfl

-- A number without the plus sign that may stand in front of it.
def unsigned : List Char → List Char
  | '+' :: rest => rest
  | digits => digits

theorem unsigned_eq_iff {text digits : List Char} (h : ∀ rest, digits ≠ '+' :: rest) :
    unsigned text = digits ↔ text = digits ∨ text = '+' :: digits := by
  fun_cases unsigned text with
  | case1 rest =>
      rw [or_iff_right (Ne.symm (h rest)), List.cons.injEq]
      exact (and_iff_right rfl).symm
  | case2 _ hplus => rw [or_iff_left fun heq => hplus digits heq]

-- Digits as they are read, where a plus sign in front counts as a zero.
inductive Numeral : List Char → List Nat → Prop where
  | plain {text : List Char} {ds : List Nat} (h : Digits text ds) : Numeral text ds
  | signed {text : List Char} {ds : List Nat} (h : Digits text ds) : Numeral ('+' :: text) (0 :: ds)

namespace Numeral

variable {text : List Char} {ds : List Nat}

theorem byteCount_eq (h : Numeral text ds) : Cursor.byteCount text = ds.length := by
  cases h with
  | plain hds => exact hds.byteCount_eq
  | signed hds =>
      have hplus : Char.utf8Size '+' = 1 := rfl
      rw [Cursor.byteCount_cons, hplus, hds.byteCount_eq, List.length_cons, Nat.add_comm]

theorem lt (h : Numeral text ds) : ∀ d ∈ ds, d < 16 := by
  cases h with
  | plain hds => exact hds.lt
  | signed hds => exact List.forall_mem_cons.mpr ⟨by decide, hds.lt⟩

end Numeral

theorem hexValue?_eq_some_iff {text : List Char} {v : Nat} :
    hexValue? text = some v ↔
      unsigned text ≠ [] ∧ ∃ ds, Digits (unsigned text) ds ∧ place 0 ds = v := by
  rw [← foldlM_hexDigit?, show hexValue? text = if (unsigned text).isEmpty then none else
    (unsigned text).foldlM (fun n c => (Json.hexDigit? c).map (16 * n + ·)) 0 from rfl]
  cases unsigned text <;> simp

theorem exists_numeral {text : List Char} {v : Nat} (h : hexValue? text = some v) :
    ∃ ds, Numeral text ds ∧ place 0 ds = v := by
  obtain ⟨-, ds, hds, rfl⟩ := hexValue?_eq_some_iff.mp h
  rcases (unsigned_eq_iff hds.ne_plus).mp rfl with htext | htext
  · exact ⟨ds, htext ▸ .plain hds, rfl⟩
  · exact ⟨0 :: ds, htext ▸ .signed hds, rfl⟩

theorem hexValue?_of_unsigned {text digits : List Char} {ds : List Nat}
    (hunsigned : unsigned text = digits) (h : Digits digits ds) (hds : ds ≠ []) :
    hexValue? text = some (place 0 ds) := by
  rw [hexValue?_eq_some_iff, hunsigned]
  refine ⟨?_, ds, h, rfl⟩
  rintro rfl
  cases h
  exact hds rfl

theorem Numeral.hexValue?_eq {text : List Char} {ds : List Nat} (h : Numeral text ds)
    (hlength : 1 < ds.length) : hexValue? text = some (place 0 ds) := by
  cases h with
  | plain hds =>
      have hne : ds ≠ [] := List.ne_nil_of_length_pos (by omega)
      exact hexValue?_of_unsigned ((unsigned_eq_iff hds.ne_plus).mpr (.inl rfl)) hds hne
  | @signed text ds hds =>
      rw [List.length_cons] at hlength
      have hne : ds ≠ [] := List.ne_nil_of_length_pos (by omega)
      have hvalue := hexValue?_of_unsigned ((unsigned_eq_iff hds.ne_plus).mpr (.inr rfl)) hds hne
      exact hvalue

-- Two digits make a byte.
def pair (x y : Nat) : UInt8 := UInt8.ofNat (16 * x + y)

-- The colors that six digits stand for, and three, each of which counts twice.
inductive OfDigits : List Nat → Color → Prop where
  | six (a b c d e f : Nat) : OfDigits [a, b, c, d, e, f] (.rgb (pair a b) (pair c d) (pair e f))
  | three (a b c : Nat) : OfDigits [a, b, c] (.rgb (pair a a) (pair b b) (pair c c))

theorem ofNat_eq_pair {n x y : Nat} (h : n % 256 = 16 * x + y) : UInt8.ofNat n = pair x y := by
  rw [pair, ← h]
  exact UInt8.toNat_inj.mp (by simp)

theorem doubled_eq_pair {n x : Nat} (hx : x < 16) (h : n % 16 = x) : doubled n = pair x x := by
  rw [doubled, h]
  exact ofNat_eq_pair (by omega)

-- What is read off the number in six and in three digits.

theorem six_bytes {a b c d e f : Nat} (h : ∀ digit ∈ [a, b, c, d, e, f], digit < 16) :
    let v := place 0 [a, b, c, d, e, f]
    Color.rgb (UInt8.ofNat (v / 65536)) (UInt8.ofNat (v / 256)) (UInt8.ofNat v) =
      .rgb (pair a b) (pair c d) (pair e f) := by
  simp only [List.forall_mem_cons] at h
  simp only [place, List.foldl_cons, List.foldl_nil]
  rw [ofNat_eq_pair (x := a) (y := b), ofNat_eq_pair (x := c) (y := d),
    ofNat_eq_pair (x := e) (y := f)]
  all_goals omega

theorem three_bytes {a b c : Nat} (h : ∀ digit ∈ [a, b, c], digit < 16) :
    let v := place 0 [a, b, c]
    Color.rgb (doubled (v / 256)) (doubled (v / 16)) (doubled v) =
      .rgb (pair a a) (pair b b) (pair c c) := by
  simp only [List.forall_mem_cons] at h
  simp only [place, List.foldl_cons, List.foldl_nil]
  rw [doubled_eq_pair (x := a), doubled_eq_pair (x := b), doubled_eq_pair (x := c)]
  all_goals omega

theorem ofHex?_of_numeral {text : List Char} {ds : List Nat} {color : Color}
    (h : Numeral text ds) (hcolor : OfDigits ds color) : ofHex? text = some color := by
  rw [ofHex?, h.byteCount_eq]
  cases hcolor with
  | six a b c d e f =>
      have hvalue := h.hexValue?_eq (by simp)
      rw [if_pos (by simp), hvalue]
      exact congrArg some (six_bytes h.lt)
  | three a b c =>
      have hvalue := h.hexValue?_eq (by simp)
      rw [if_neg (by simp), if_pos (by simp), hvalue]
      exact congrArg some (three_bytes h.lt)

theorem ofHex?_eq_some_iff {text : List Char} {color : Color} :
    ofHex? text = some color ↔ ∃ ds, Numeral text ds ∧ OfDigits ds color := by
  constructor
  · intro h
    rw [ofHex?] at h
    split at h
    · rename_i hlength
      obtain ⟨v, hv, rfl⟩ := Option.map_eq_some_iff.mp h
      obtain ⟨ds, hds, rfl⟩ := exists_numeral hv
      rw [hds.byteCount_eq] at hlength
      obtain ⟨a, b, c, d, e, f, rfl⟩ : ∃ a b c d e f, ds = [a, b, c, d, e, f] := by
        match ds, hlength with
        | [a, b, c, d, e, f], _ => exact ⟨a, b, c, d, e, f, rfl⟩
      exact ⟨_, hds, six_bytes hds.lt ▸ .six a b c d e f⟩
    · split at h
      · rename_i hlength
        obtain ⟨v, hv, rfl⟩ := Option.map_eq_some_iff.mp h
        obtain ⟨ds, hds, rfl⟩ := exists_numeral hv
        rw [hds.byteCount_eq] at hlength
        obtain ⟨a, b, c, rfl⟩ := List.length_eq_three.mp hlength
        exact ⟨_, hds, three_bytes hds.lt ▸ .three a b c⟩
      · cases h
  · rintro ⟨ds, hds, hcolor⟩
    exact ofHex?_of_numeral hds hcolor

end Color

-- A letter, or the capital that it is written for.
inductive Cased : Char → Char → Prop where
  | same (c : Char) : Cased c c
  | capital {c d : Char} (hc : c.isUpper) (hd : d.toNat = c.toNat + 32) : Cased c d

theorem toNat_toLower {c : Char} (h : c.isUpper) : c.toLower.toNat = c.toNat + 32 := by
  have hhigh : c.toNat ≤ 90 := (of_decide_eq_true h).2
  have hvalid : (c.toNat + 32).isValidChar := .inl (by omega)
  rw [Char.toLower_eq_of_isUpper h, Char.toNat_ofNat, if_pos hvalid]

theorem toLower_eq_iff {c d : Char} (hd : ¬d.isUpper) : c.toLower = d ↔ Cased c d := by
  constructor
  · rintro rfl
    by_cases hc : c.isUpper
    · exact .capital hc (toNat_toLower hc)
    · rw [Char.toLower_eq_of_not_isUpper hc]
      exact .same c
  · intro h
    cases h with
    | same => exact Char.toLower_eq_of_not_isUpper hd
    | capital hc hcased => exact Char.toNat_inj.mp ((toNat_toLower hc).trans hcased.symm)

theorem Cased.forall_isAlpha {text letters : List Char} (h : List.Forall₂ Cased text letters)
    (hletters : ∀ d ∈ letters, d.isAlpha) : ∀ c ∈ text, c.isAlpha := by
  induction h with
  | nil => simp
  | cons hcased _ ih =>
      obtain ⟨hd, hrest⟩ := List.forall_mem_cons.mp hletters
      refine List.forall_mem_cons.mpr ⟨?_, ih hrest⟩
      cases hcased with
      | same => exact hd
      | capital hc _ => simp [Char.isAlpha, hc]

theorem map_toLower_eq_iff {text letters : List Char} (h : ∀ d ∈ letters, ¬d.isUpper) :
    text.map Char.toLower = letters ↔ List.Forall₂ Cased text letters := by
  induction letters generalizing text with
  | nil => simp
  | cons d letters ih =>
      obtain ⟨hd, hletters⟩ := List.forall_mem_cons.mp h
      cases text with
      | nil => simp
      | cons c text => simp [toLower_eq_iff hd, ih hletters]

namespace NamedColor

-- The names of a color; grey has two.
def spellings : NamedColor → List String
  | .grey => ["grey", "gray"]
  | color => [color.name]

theorem spellings_lower (color : NamedColor) :
    ∀ spelling ∈ color.spellings, ∀ d ∈ spelling.toList, ¬d.isUpper := by
  cases color <;> simp [spellings, name]

theorem spellings_alpha (color : NamedColor) :
    ∀ spelling ∈ color.spellings, ∀ d ∈ spelling.toList, d.isAlpha := by
  cases color <;> simp [spellings, name]

theorem ofName?_eq_some_iff {text : String} {color : NamedColor} :
    ofName? text = some color ↔ text = color.name := by
  constructor
  · intro h
    exact (by simpa using List.find?_some h : color.name = text).symm
  · rintro rfl
    cases color <;> rfl

theorem parse?_eq_some_iff {text : String} {color : NamedColor} :
    parse? text = some color ↔
      ∃ spelling ∈ color.spellings, List.Forall₂ Cased text.toList spelling.toList := by
  have hfolded : parse? text = some color ↔
      String.ofList (text.toList.map Char.toLower) ∈ color.spellings := by
    rw [parse?]
    generalize String.ofList (text.toList.map Char.toLower) = folded
    by_cases hgray : folded = "gray"
    · subst hgray
      cases color <;> decide
    · simp only [if_neg hgray, ofName?_eq_some_iff]
      cases color <;> simp [spellings, name, hgray]
  rw [hfolded]
  constructor
  · intro h
    exact ⟨_, h, (map_toLower_eq_iff (spellings_lower color _ h)).mp (by simp)⟩
  · rintro ⟨spelling, hspelling, htext⟩
    rw [(map_toLower_eq_iff (spellings_lower color _ hspelling)).mpr htext]
    simpa using hspelling

end NamedColor

theorem Text.trimBlanks_eq_self {text : List Char} (h : ∀ c ∈ text, isBlank c = false) :
    trimBlanks text = text := by
  have hfront : ∀ {chars : List Char}, (∀ c ∈ chars, isBlank c = false) →
      chars.dropWhile isBlank = chars := fun hchars =>
    List.dropWhile_eq_self_iff.mpr fun hl => by simp [hchars _ (List.getElem_mem hl)]
  rw [trimBlanks, hfront h, hfront (by simpa using h), List.reverse_reverse]

namespace Color

-- What a hexadecimal color starts with.
def marks : List (List Char) := [['#'], ['0', 'x'], ['0', 'X']]

theorem splitMark_eq_some_iff {text digits : List Char} :
    splitMark text = some digits ↔ ∃ mark ∈ marks, text = mark ++ digits := by
  fun_cases splitMark text with
  | case1 rest => simp [marks, eq_comm]
  | case2 rest => simp [marks, eq_comm]
  | case3 rest => simp [marks, eq_comm]
  | case4 _ hhash hlow hhigh =>
      simpa [marks] using ⟨hhash digits, hlow digits, hhigh digits⟩

theorem splitMark_append {mark : List Char} (h : mark ∈ marks) (digits : List Char) :
    splitMark (mark ++ digits) = some digits :=
  splitMark_eq_some_iff.mpr ⟨mark, h, rfl⟩

-- The texts of a color: digits behind a mark, or a name in any case.
inductive Spells : List Char → Color → Prop where
  | hex {mark digits : List Char} {ds : List Nat} {color : Color} (hmark : mark ∈ marks)
      (hdigits : Digits digits ds) (hcolor : OfDigits ds color) : Spells (mark ++ digits) color
  | name {text : List Char} {color : NamedColor} {spelling : String}
      (hspelling : spelling ∈ color.spellings)
      (htext : List.Forall₂ Cased text spelling.toList) : Spells text (.named color)

-- A plus sign where the first digit should be, which then counts as zero.
inductive Signed : List Char → Color → Prop where
  | mk {mark digits : List Char} {ds : List Nat} {color : Color} (hmark : mark ∈ marks)
      (hdigits : Digits digits ds) (hcolor : OfDigits (0 :: ds) color) :
      Signed (mark ++ '+' :: digits) color

variable {text : String} {u : List Char} {color : Color}

theorem Spells.name_no_mark {name : NamedColor} {spelling : String}
    (hspelling : spelling ∈ name.spellings) (hu : List.Forall₂ Cased u spelling.toList) :
    splitMark u = none := by
  have halpha := Cased.forall_isAlpha hu (name.spellings_alpha spelling hspelling)
  rw [Option.eq_none_iff_forall_ne_some]
  intro digits hsplit
  obtain ⟨mark, hmark, rfl⟩ := splitMark_eq_some_iff.mp hsplit
  have hmarks : ∀ mark ∈ marks, ∃ c ∈ mark, ¬c.isAlpha := by simp [marks]
  obtain ⟨c, hc, hnot⟩ := hmarks mark hmark
  exact hnot (halpha c (List.mem_append_left digits hc))

theorem parse?_of_mark {mark digits : List Char} (hmark : mark ∈ marks)
    (hu : Text.trimBlanks text.toList = mark ++ digits) : parse? text = ofHex? digits := by
  simp only [parse?, hu, splitMark_append hmark]

theorem parse?_of_no_mark (h : splitMark (Text.trimBlanks text.toList) = none) :
    parse? text =
      (NamedColor.parse? (String.ofList (Text.trimBlanks text.toList))).map .named := by
  simp only [parse?, h]

theorem Spells.parse?_eq (h : Spells (Text.trimBlanks text.toList) color) :
    parse? text = some color := by
  generalize hu : Text.trimBlanks text.toList = u at h
  cases h with
  | hex hmark hdigits hcolor =>
      rw [parse?_of_mark hmark hu]
      exact ofHex?_of_numeral (.plain hdigits) hcolor
  | @name _ name spelling hspelling htext =>
      have hname : NamedColor.parse? (String.ofList u) = some name :=
        NamedColor.parse?_eq_some_iff.mpr ⟨spelling, hspelling, by simpa using htext⟩
      rw [parse?_of_no_mark (hu ▸ name_no_mark hspelling htext), hu, hname]
      rfl

theorem Signed.parse?_eq (h : Signed (Text.trimBlanks text.toList) color) :
    parse? text = some color := by
  generalize hu : Text.trimBlanks text.toList = u at h
  obtain ⟨hmark, hdigits, hcolor⟩ := h
  rw [parse?_of_mark hmark hu]
  exact ofHex?_of_numeral (.signed hdigits) hcolor

theorem parse?_eq_some_iff : parse? text = some color ↔
    Spells (Text.trimBlanks text.toList) color ∨ Signed (Text.trimBlanks text.toList) color := by
  constructor
  · intro h
    cases hsplit : splitMark (Text.trimBlanks text.toList) with
    | some digits =>
        obtain ⟨mark, hmark, hu⟩ := splitMark_eq_some_iff.mp hsplit
        rw [parse?_of_mark hmark hu] at h
        obtain ⟨ds, hds, hcolor⟩ := ofHex?_eq_some_iff.mp h
        rw [hu]
        cases hds with
        | plain hdigits => exact .inl (.hex hmark hdigits hcolor)
        | signed hdigits => exact .inr (.mk hmark hdigits hcolor)
    | none =>
        rw [parse?_of_no_mark hsplit] at h
        obtain ⟨name, hname, rfl⟩ := Option.map_eq_some_iff.mp h
        obtain ⟨spelling, hspelling, htext⟩ := NamedColor.parse?_eq_some_iff.mp hname
        exact .inl (.name hspelling (by simpa using htext))
  · rintro (h | h)
    · exact h.parse?_eq
    · exact h.parse?_eq

-- No color is written with a plus sign.
theorem Signed.not_spells {color' : Color} (h : Signed u color) : ¬Spells u color' := by
  obtain ⟨hmark, hdigits, hcolor⟩ := h
  rename_i mark digits ds
  have hsplit := splitMark_append hmark ('+' :: digits)
  intro hspells
  generalize mark ++ '+' :: digits = u at hspells hsplit
  cases hspells with
  | hex hmark' hdigits' _ =>
      exact hdigits'.ne_plus digits (Option.some.inj ((splitMark_append hmark' _).symm.trans hsplit))
  | name hspelling htext => simp [Spells.name_no_mark hspelling htext] at hsplit

-- The two digits of a byte.
def hexPair (byte : UInt8) : List Char :=
  [Nat.digitChar (byte.toNat / 16), Nat.digitChar (byte.toNat % 16)]

theorem hexDigit_digitChar {n : Nat} (h : n < 16) : HexDigit (Nat.digitChar n) n := by
  have hall : ∀ n < 16, Json.hexDigit? (Nat.digitChar n) = some n := by decide
  exact Json.hexDigit?_eq_some_iff.mp (hall n h)

theorem digits_hexPair (byte : UInt8) :
    Digits (hexPair byte) [byte.toNat / 16, byte.toNat % 16] := by
  have hlt := byte.toNat_lt
  exact .cons (hexDigit_digitChar (by omega)) (.cons (hexDigit_digitChar (by omega)) .nil)

theorem pair_halves (byte : UInt8) : pair (byte.toNat / 16) (byte.toNat % 16) = byte := by
  rw [pair, Nat.div_add_mod]
  exact UInt8.ofNat_toNat

-- A color in six digits, as it is usually written.
def hexText (r g b : UInt8) : String := String.ofList ('#' :: (hexPair r ++ hexPair g ++ hexPair b))

theorem parse?_hexText (r g b : UInt8) : parse? (hexText r g b) = some (.rgb r g b) := by
  have hdigits : Digits (hexPair r ++ hexPair g ++ hexPair b)
      [r.toNat / 16, r.toNat % 16, g.toNat / 16, g.toNat % 16, b.toNat / 16, b.toNat % 16] :=
    List.rel_append (List.rel_append (digits_hexPair r) (digits_hexPair g)) (digits_hexPair b)
  have hcolor := OfDigits.six (r.toNat / 16) (r.toNat % 16) (g.toNat / 16) (g.toNat % 16)
    (b.toNat / 16) (b.toNat % 16)
  simp only [pair_halves] at hcolor
  have hblank : ∀ c ∈ '#' :: (hexPair r ++ hexPair g ++ hexPair b), Text.isBlank c = false :=
    List.forall_mem_cons.mpr ⟨rfl, hdigits.isBlank⟩
  apply Spells.parse?_eq
  rw [hexText, String.toList_ofList, Text.trimBlanks_eq_self hblank]
  exact .hex List.mem_cons_self hdigits hcolor

-- Exactly the texts that spell a color are read, each as that color, unless there is a plus sign
-- behind the mark: such a text spells none and is read all the same. Six digits stand for any red,
-- green and blue.
theorem parse?_grammar_iff (text : String) :
    let u := Text.trimBlanks text.toList
    ((∀ color, parse? text = some color ↔ Spells u color) ↔ ∀ color, ¬Signed u color) ∧
      (∀ color, parse? text = some color ↔ Spells u color ∨ Signed u color) ∧
      ∀ r g b : UInt8, parse? (hexText r g b) = some (.rgb r g b) := by
  refine ⟨⟨?_, ?_⟩, fun color => parse?_eq_some_iff, parse?_hexText⟩
  · intro h color hsigned
    exact hsigned.not_spells ((h color).mp hsigned.parse?_eq)
  · intro h color
    rw [parse?_eq_some_iff, or_iff_left (h color)]

-- A plus sign passes for the first of six digits.
theorem plus_sign_accepted :
    parse? "#+12345" = some (.rgb 1 0x23 0x45) ∧ ∀ color, ¬Spells "#+12345".toList color := by
  refine ⟨by decide, fun color h => ?_⟩
  have hdigits : Digits ['1', '2', '3', '4', '5'] [1, 2, 3, 4, 5] := by
    simp only [Digits, List.forall₂_cons, List.forall₂_nil_left_iff,
      ← Json.hexDigit?_eq_some_iff]
    decide
  have hsigned : Signed (['#'] ++ '+' :: ['1', '2', '3', '4', '5']) (.rgb 1 0x23 0x45) :=
    .mk List.mem_cons_self hdigits (.six 0 1 2 3 4 5)
  exact hsigned.not_spells h

end Color

end Diorama

import Diorama.Proofs.Terminal.Lettering
import Diorama.Proofs.Text.Offsets

namespace Diorama

namespace Menu

open Cursor (byteCount)
open Text (find? before? from? slice?)

-- The parts of an item found by the byte offsets of their brackets. There is no answer if the item
-- is cut beyond its end or inside a character.
def splitAtOffsets? (item : List Char) : Option (List (List Char)) :=
  match find? '[' item with
  | none => some [item]
  | some opening =>
    match from? opening item with
    | none => none
    | some tail =>
      match find? ']' tail with
      | none => some [item]
      | some closing =>
        match hrest : from? (opening + closing + 1) item with
        | none => none
        | some rest => do
          let plain ← before? opening item
          let bracketed ← slice? opening (opening + closing + 1) item
          let parts ← splitAtOffsets? rest
          some (plain :: bracketed :: parts)
termination_by item.length
decreasing_by exact Text.length_lt_of_from? (Nat.succ_pos _) hrest

-- Text in which no bracket that opens is closed.
def Unclosed (text : List Char) : Prop :=
  ∀ before behind, text = before ++ '[' :: behind → ']' ∉ behind

-- Text in brackets, with no other bracket that closes.
def IsBracketed (text : List Char) : Prop := ∃ inner, text = '[' :: inner ++ [']'] ∧ ']' ∉ inner

-- Plain and bracketed parts in turn, beginning and ending with a plain one.
structure Divided (item : List Char) (parts : List (List Char)) : Prop where
  odd : parts.length % 2 = 1
  flatten_eq : parts.flatten = item
  bracketed : ∀ i part, parts[i]? = some part → i % 2 = 1 → IsBracketed part
  plain : ∀ i part, parts[i]? = some part → i % 2 = 0 → i + 1 < parts.length → '[' ∉ part
  last : ∀ part, parts.getLast? = some part → Unclosed part

-- The same from front to back.
inductive Division : List Char → List (List Char) → Prop where
  | last {text : List Char} (htext : Unclosed text) : Division text [text]
  | next {plain inner rest : List Char} {parts : List (List Char)} (hplain : '[' ∉ plain)
      (hinner : ']' ∉ inner) (hrest : Division rest parts) :
      Division (plain ++ ('[' :: inner ++ [']']) ++ rest) (plain :: ('[' :: inner ++ [']']) :: parts)

theorem unclosed_of_notMem {text : List Char} (h : '[' ∉ text) : Unclosed text := by
  rintro before behind rfl
  simp at h

theorem unclosed_append {plain tail : List Char} (hplain : '[' ∉ plain) (htail : ']' ∉ tail) :
    Unclosed (plain ++ '[' :: tail) := by
  intro before behind heq
  rcases List.append_eq_append_iff.mp heq with ⟨more, rfl, hmore⟩ | ⟨more, rfl, hmore⟩
  · cases more with
    | nil => exact (List.cons.inj hmore).2 ▸ htail
    | cons c more =>
        obtain rfl : tail = more ++ '[' :: behind := (List.cons.inj hmore).2
        exact fun hmem => htail (List.mem_append_right more (List.mem_cons_of_mem _ hmem))
  · cases more with
    | nil => exact (List.cons.inj hmore).2 ▸ htail
    | cons c more =>
        -- the first bracket that opens stands behind the plain text
        obtain rfl : '[' = c := (List.cons.inj hmore).1
        simp at hplain

-- Where nothing is closed, either nothing opens or what follows the first bracket has no end.
theorem Unclosed.cases {text : List Char} (h : Unclosed text) :
    '[' ∉ text ∨ ∃ plain tail, text = plain ++ '[' :: tail ∧ '[' ∉ plain ∧ ']' ∉ tail := by
  by_cases hopens : '[' ∈ text
  · obtain ⟨plain, tail, htext, hplain⟩ := List.eq_append_cons_of_mem hopens
    exact .inr ⟨plain, tail, htext, hplain, h plain tail htext⟩
  · exact .inl hopens

theorem exists_division (item : List Char) : ∃ parts, Division item parts := by
  by_cases hopens : '[' ∈ item
  · obtain ⟨plain, tail, hitem, hplain⟩ := List.eq_append_cons_of_mem hopens
    by_cases hcloses : ']' ∈ tail
    · obtain ⟨inner, rest, htail, hinner⟩ := List.eq_append_cons_of_mem hcloses
      have hshorter : rest.length < item.length := by
        simp only [hitem, htail, List.length_append, List.length_cons]
        omega
      obtain ⟨parts, hrest⟩ := exists_division rest
      have hnext : item = plain ++ ('[' :: inner ++ [']']) ++ rest := by simp [hitem, htail]
      exact ⟨_, hnext ▸ Division.next hplain hinner hrest⟩
    · exact ⟨_, .last (hitem ▸ unclosed_append hplain hcloses)⟩
  · exact ⟨_, .last (unclosed_of_notMem hopens)⟩
termination_by item.length

theorem Division.divided {item : List Char} {parts : List (List Char)} (h : Division item parts) :
    Divided item parts := by
  induction h with
  | @last text htext =>
      refine ⟨rfl, by simp, fun i part hpart hodd => ?_, fun i part hpart _ hnot => ?_,
        fun part hpart => ?_⟩
      · obtain ⟨hi, -⟩ := List.getElem?_eq_some_iff.mp hpart
        rw [List.length_singleton] at hi
        omega
      · rw [List.length_singleton] at hnot
        omega
      · obtain rfl : text = part := Option.some.inj hpart
        exact htext
  | @next plain inner rest parts hplain hinner _ ih =>
      refine ⟨?_, ?_, fun i part hpart hodd => ?_, fun i part hpart heven hnot => ?_,
        fun part hpart => ?_⟩
      · have hodd := ih.odd
        simp only [List.length_cons]
        omega
      · simp [ih.flatten_eq]
      · match i with
        | 1 =>
            obtain rfl : '[' :: inner ++ [']'] = part := Option.some.inj hpart
            exact ⟨inner, rfl, hinner⟩
        | i + 2 => exact ih.bracketed i part hpart (by omega)
      · match i with
        | 0 =>
            obtain rfl : plain = part := Option.some.inj hpart
            exact hplain
        | i + 2 =>
            simp only [List.length_cons] at hnot
            exact ih.plain i part hpart (by omega) (by omega)
      · have hne : parts ≠ [] := by
          rintro rfl
          exact absurd ih.odd (by decide)
        obtain ⟨first, others, rfl⟩ := List.exists_cons_of_ne_nil hne
        exact ih.last part hpart

theorem Divided.division : ∀ {item : List Char} {parts : List (List Char)},
    Divided item parts → Division item parts
  | _, [], h => absurd h.odd (by decide)
  | item, [text], h => by
      obtain rfl : text = item := by simpa using h.flatten_eq
      exact .last (h.last text rfl)
  | item, plain :: bracketed :: rest, h => by
      have hodd := h.odd
      simp only [List.length_cons] at hodd
      obtain ⟨inner, rfl, hinner⟩ := h.bracketed 1 bracketed rfl rfl
      have hplain : '[' ∉ plain := h.plain 0 plain rfl rfl (by simp)
      have hrest : Divided rest.flatten rest := by
        refine ⟨by omega, rfl, fun i part hpart hi => ?_, fun i part hpart hi hnot => ?_,
          fun part hpart => ?_⟩
        · exact h.bracketed (i + 2) part hpart (by omega)
        · have hnot' : i + 2 + 1 < rest.length + 1 + 1 := by omega
          exact h.plain (i + 2) part hpart (by omega) hnot'
        · have hne : rest ≠ [] := by
            rintro rfl
            cases hpart
          obtain ⟨first, others, rfl⟩ := List.exists_cons_of_ne_nil hne
          exact h.last part hpart
      have hitem : item = plain ++ ('[' :: inner ++ [']']) ++ rest.flatten := by
        simp [← h.flatten_eq]
      exact hitem ▸ Division.next hplain hinner hrest.division

-- Going through an item character by character, up to a bracket.

theorem splitFrom_plain {front : List Char} (h : '[' ∉ front) (plain rest : List Char) :
    splitFrom plain none (front ++ rest) = splitFrom (front.reverse ++ plain) none rest := by
  induction front generalizing plain with
  | nil => rfl
  | cons c front ih =>
      rw [List.mem_cons, not_or] at h
      rw [List.cons_append, splitFrom, if_neg (Ne.symm h.1), ih h.2]
      simp

theorem splitFrom_inner {front : List Char} (h : ']' ∉ front) (plain inner rest : List Char) :
    splitFrom plain (some inner) (front ++ rest) =
      splitFrom plain (some (front.reverse ++ inner)) rest := by
  induction front generalizing inner with
  | nil => rfl
  | cons c front ih =>
      rw [List.mem_cons, not_or] at h
      rw [List.cons_append, splitFrom, if_neg (Ne.symm h.1), ih h.2]
      simp

theorem split_of_unclosed {text : List Char} (h : Unclosed text) : split text = [text] := by
  rcases h.cases with hplain | ⟨plain, tail, rfl, hplain, htail⟩
  · have hrun := splitFrom_plain hplain [] []
    rw [List.append_nil] at hrun
    rw [split, hrun]
    simp [splitFrom]
  · have hrun := splitFrom_inner htail plain.reverse ['['] []
    rw [List.append_nil] at hrun
    rw [split, splitFrom_plain hplain, splitFrom, if_pos rfl, List.append_nil, hrun]
    simp [splitFrom]

theorem split_append {plain inner : List Char} (hplain : '[' ∉ plain) (hinner : ']' ∉ inner)
    (rest : List Char) :
    split (plain ++ ('[' :: inner ++ [']']) ++ rest) =
      plain :: ('[' :: inner ++ [']']) :: split rest := by
  have hrun := splitFrom_inner hinner plain.reverse ['['] (']' :: rest)
  rw [split, List.append_assoc, splitFrom_plain hplain]
  simp [splitFrom, split, hrun]

theorem Division.split_eq {item : List Char} {parts : List (List Char)} (h : Division item parts) :
    split item = parts := by
  induction h with
  | last htext => exact split_of_unclosed htext
  | next hplain hinner _ ih => rw [split_append hplain hinner, ih]

-- Cutting an item at the offsets of its brackets.

theorem splitAtOffsets?_of_unclosed {text : List Char} (h : Unclosed text) :
    splitAtOffsets? text = some [text] := by
  rw [splitAtOffsets?]
  rcases h.cases with hplain | ⟨plain, tail, rfl, hplain, htail⟩
  · rw [Text.find?_eq_none_iff.mpr hplain]
  · have hnone : find? ']' ('[' :: tail) = none :=
      Text.find?_eq_none_iff.mpr (by simpa using htail)
    simp only [Text.find?_append hplain, Text.from?_append, hnone]

theorem splitAtOffsets?_append {plain inner : List Char} (hplain : '[' ∉ plain)
    (hinner : ']' ∉ inner) (rest : List Char) :
    splitAtOffsets? (plain ++ ('[' :: inner ++ [']']) ++ rest) =
      (splitAtOffsets? rest).map fun parts => plain :: ('[' :: inner ++ [']']) :: parts := by
  have hassoc : plain ++ ('[' :: inner ++ [']']) ++ rest =
      plain ++ ('[' :: inner ++ ']' :: rest) := by
    simp
  have hopening : find? '[' (plain ++ ('[' :: inner ++ [']']) ++ rest) = some (byteCount plain) :=
    hassoc ▸ Text.find?_append hplain _
  have htail : from? (byteCount plain) (plain ++ ('[' :: inner ++ [']']) ++ rest) =
      some ('[' :: inner ++ ']' :: rest) :=
    hassoc ▸ Text.from?_append plain _
  have hclosing : find? ']' ('[' :: inner ++ ']' :: rest) = some (byteCount ('[' :: inner)) :=
    Text.find?_append (by simpa using hinner) rest
  have hbefore : before? (byteCount plain) (plain ++ ('[' :: inner ++ [']']) ++ rest) = some plain :=
    hassoc ▸ Text.before?_append plain _
  -- a bracket is one byte long
  have hstop : byteCount plain + byteCount ('[' :: inner) + 1 =
      byteCount (plain ++ ('[' :: inner ++ [']'])) := by
    have hbracket : Char.utf8Size ']' = 1 := rfl
    simp [hbracket, Nat.add_assoc]
  have hslice := Text.slice?_append plain ('[' :: inner ++ [']']) rest
  have hrest := Text.from?_append (plain ++ ('[' :: inner ++ [']'])) rest
  rw [← hstop] at hrest
  rw [splitAtOffsets?]
  simp only [hopening, htail, hclosing, hbefore, hstop, hslice]
  split
  · rename_i hnone
    cases hrest.symm.trans hnone
  · rename_i behind hbehind
    obtain rfl : rest = behind := Option.some.inj (hrest.symm.trans hbehind)
    cases splitAtOffsets? rest <;> rfl

theorem Division.splitAtOffsets?_eq {item : List Char} {parts : List (List Char)}
    (h : Division item parts) : splitAtOffsets? item = some parts := by
  induction h with
  | last htext => exact splitAtOffsets?_of_unclosed htext
  | next hplain hinner _ ih =>
      rw [splitAtOffsets?_append hplain hinner, ih]
      rfl

theorem divided_split (item : List Char) : Divided item (split item) := by
  obtain ⟨parts, h⟩ := exists_division item
  exact h.split_eq ▸ h.divided

theorem splitAtOffsets?_eq (item : List Char) : splitAtOffsets? item = some (split item) := by
  obtain ⟨parts, h⟩ := exists_division item
  rw [h.splitAtOffsets?_eq, h.split_eq]

-- Every second part is marked, from the second one on.
theorem markParts_zipIdx (texts : List (List Char)) (start : Nat) :
    markParts (start % 2 == 1) texts =
      (texts.zipIdx start).map fun (text, i) => ⟨text, i % 2 == 1⟩ := by
  induction texts generalizing start with
  | nil => rfl
  | cons text texts ih =>
      have hturn : (!(start % 2 == 1)) = ((start + 1) % 2 == 1) := by
        rcases Nat.mod_two_eq_zero_or_one start with h | h <;> simp [h, Nat.add_mod]
      rw [markParts, hturn, ih, List.zipIdx_cons, List.map_cons]

end Menu

namespace Token

-- How a terminal shows a letter.
structure Style where
  bold : Bool := false
  dim : Bool := false
deriving DecidableEq

namespace Style

def boldFace : Style := { bold := true }

def dimFace : Style := { dim := true }

def after (code : List Char) (style : Style) : Style :=
  if code = "1m".toList then { style with bold := true }
  else if code = "2m".toList then { style with dim := true }
  else if code = "0m".toList then {}
  else style

end Style

-- The letters that a terminal shows, each in the style that the sequences before it leave.
def displayed : Style → List Token → List (Char × Style)
  | _, [] => []
  | style, .letter c :: rest => (c, style) :: displayed style rest
  | style, .sequence code :: rest => displayed (style.after code) rest

theorem displayed_letters (style : Style) (chars : List Char) (rest : List Token) :
    displayed style (chars.map .letter ++ rest) = chars.map (·, style) ++ displayed style rest := by
  induction chars with
  | nil => rfl
  | cons c chars ih => exact congrArg ((c, style) :: ·) ih

end Token

namespace Drawing

open Token (Style displayed letters)

def face (bold : Bool) : Style := if bold then .boldFace else .dimFace

-- A part is shown in its own face and leaves no style behind.
theorem displayed_partTokens (p : Menu.Part) (rest : List Token) :
    displayed {} (partTokens p ++ rest) = p.text.map (·, face p.bold) ++ displayed {} rest := by
  obtain ⟨text, bold⟩ := p
  have hbegin : Style.after (if bold then "1m" else "2m").toList {} = face bold := by
    cases bold <;> rfl
  have hend : Style.after "0m".toList (face bold) = {} := by cases bold <;> rfl
  simp only [partTokens, control, List.cons_append, List.append_assoc, displayed, hbegin,
    Token.displayed_letters, List.nil_append, hend]

theorem displayed_parts (parts : List Menu.Part) :
    displayed {} (parts.flatMap partTokens) = parts.flatMap fun p => p.text.map (·, face p.bold) := by
  induction parts with
  | nil => rfl
  | cons p parts ih => rw [List.flatMap_cons, displayed_partTokens, ih, List.flatMap_cons]

theorem displayed_itemTokens (item : String) :
    displayed {} (itemTokens item) =
      (Menu.split item.toList).zipIdx.flatMap fun (part, i) => part.map (·, face (i % 2 == 1)) := by
  have hmarked := Menu.markParts_zipIdx (Menu.split item.toList) 0
  rw [itemTokens, displayed_parts, Menu.parts,
    Menu.flatMap_filter_text fun p h => by rw [h, List.map_nil]]
  rw [show (false : Bool) = (0 % 2 == 1) from rfl, hmarked, List.flatMap_map]

theorem eq_of_sequence_mem_itemTokens {item : String} {code : List Char}
    (h : .sequence code ∈ itemTokens item) :
    code = "1m".toList ∨ code = "2m".toList ∨ code = "0m".toList := by
  obtain ⟨⟨text, bold⟩, -, hmem⟩ := List.mem_flatMap.mp h
  cases bold with
  | false =>
      have hcode : code = "2m".toList ∨ code = "0m".toList := by
        simpa [partTokens, control] using hmem
      exact .inr hcode
  | true =>
      have hcode : code = "1m".toList ∨ code = "0m".toList := by
        simpa [partTokens, control] using hmem
      exact hcode.imp_right .inr

-- A terminal finds in an item what was written, unless the item has sequences of its own.
theorem read_menuItem {item : String} (h : Token.escape ∉ item.toList) :
    Token.read (menuItem item).toList = itemTokens item := by
  rw [text_menuItem]
  apply Token.read_text
  intro token hmem
  refine ⟨isWhole_of_mem_itemTokens hmem, ?_⟩
  rintro rfl
  have hletter := Token.mem_letters.mpr hmem
  rw [letters_itemTokens] at hletter
  exact h hletter

end Drawing

namespace Menu

open Drawing (face itemTokens menuItem)
open Token (displayed letters)

-- An item is cut at its brackets, never within a character, and divides in one way only. What is
-- written for it is the item with sequences for style in between, which show in bold what lies in
-- brackets and nothing else.
theorem item_divided (item : String) :
    let parts := split item.toList
    splitAtOffsets? item.toList = some parts ∧
      Divided item.toList parts ∧
      (∀ others, Divided item.toList others → others = parts) ∧
      (menuItem item).toList = (itemTokens item).flatMap Token.text ∧
      (∀ code, .sequence code ∈ itemTokens item →
        code = "1m".toList ∨ code = "2m".toList ∨ code = "0m".toList) ∧
      letters (itemTokens item) = item.toList ∧
      displayed {} (itemTokens item) =
        parts.zipIdx.flatMap (fun (part, i) => part.map (·, face (i % 2 == 1))) ∧
      (Token.escape ∉ item.toList → Token.read (menuItem item).toList = itemTokens item) :=
  ⟨splitAtOffsets?_eq item.toList, divided_split item.toList,
    fun _ h => h.division.split_eq.symm, Drawing.text_menuItem item,
    fun _ h => Drawing.eq_of_sequence_mem_itemTokens h, Drawing.letters_itemTokens item,
    Drawing.displayed_itemTokens item, Drawing.read_menuItem⟩

-- Adjacent, nested, empty and unmatched brackets.
example : split "é[q][a[b]] c]d[".toList =
    ["é".toList, "[q]".toList, [], "[a[b]".toList, "] c]d[".toList] := by decide

end Menu

end Diorama

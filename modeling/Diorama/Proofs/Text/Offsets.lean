import Diorama.Json.Cursor

namespace Diorama

namespace Cursor

-- Bytes are counted character by character.

@[simp] theorem byteCount_nil : byteCount [] = 0 := rfl

theorem foldl_utf8Size (chars : List Char) (n : Nat) :
    chars.foldl (fun n c => n + c.utf8Size) n = n + byteCount chars := by
  induction chars generalizing n with
  | nil => rfl
  | cons c rest ih =>
      rw [byteCount, List.foldl_cons, List.foldl_cons, ih, ih, Nat.zero_add, Nat.add_assoc]

@[simp] theorem byteCount_cons (c : Char) (rest : List Char) :
    byteCount (c :: rest) = c.utf8Size + byteCount rest := by
  rw [byteCount, List.foldl_cons, foldl_utf8Size, Nat.zero_add]

@[simp] theorem byteCount_append (front back : List Char) :
    byteCount (front ++ back) = byteCount front + byteCount back := by
  rw [byteCount, List.foldl_append, foldl_utf8Size, ← byteCount]

end Cursor

namespace Text

open Cursor (byteCount)

-- A text cut at a byte offset. Beyond its end and inside a character it cannot be cut.
def cut? : Nat → List Char → Option (List Char × List Char)
  | 0, chars => some ([], chars)
  | _ + 1, [] => none
  | offset + 1, c :: rest =>
    if c.utf8Size ≤ offset + 1 then
      (cut? (offset + 1 - c.utf8Size) rest).map fun (front, back) => (c :: front, back)
    else none

-- What is in front of an offset, and what is from one on.
def before? (offset : Nat) (chars : List Char) : Option (List Char) :=
  (cut? offset chars).map (·.1)

def from? (offset : Nat) (chars : List Char) : Option (List Char) := (cut? offset chars).map (·.2)

-- What is from one offset on and in front of another one.
def slice? (start stop : Nat) (chars : List Char) : Option (List Char) :=
  (before? stop chars).bind (from? start)

-- The offset of the first occurrence of a character.
def find? (wanted : Char) : List Char → Option Nat
  | [] => none
  | c :: rest => if c = wanted then some 0 else (find? wanted rest).map (c.utf8Size + ·)

theorem cut?_append (front back : List Char) :
    cut? (byteCount front) (front ++ back) = some (front, back) := by
  induction front with
  | nil => cases back <;> rfl
  | cons c front ih =>
      have hc := c.utf8Size_pos
      obtain ⟨n, hn⟩ : ∃ n, byteCount (c :: front) = n + 1 :=
        ⟨byteCount (c :: front) - 1, by rw [Cursor.byteCount_cons]; omega⟩
      have hrest : n + 1 - c.utf8Size = byteCount front := by
        rw [Cursor.byteCount_cons] at hn
        omega
      have hfits : c.utf8Size ≤ n + 1 := by
        rw [Cursor.byteCount_cons] at hn
        omega
      rw [hn, List.cons_append, cut?, if_pos hfits, hrest, ih]
      rfl

-- Where a text is cut, the front has as many bytes as the offset says.
theorem eq_of_cut? {offset : Nat} {chars front back : List Char}
    (h : cut? offset chars = some (front, back)) :
    chars = front ++ back ∧ byteCount front = offset := by
  fun_induction cut? offset chars generalizing front with
  | case1 chars =>
      cases h
      exact ⟨rfl, rfl⟩
  | case2 offset => cases h
  | case3 offset c rest hfits ih =>
      obtain ⟨⟨first, last⟩, hcut, heq⟩ := Option.map_eq_some_iff.mp h
      obtain ⟨rfl, rfl⟩ := Prod.mk.inj heq
      obtain ⟨rfl, hcount⟩ := ih hcut
      refine ⟨rfl, ?_⟩
      rw [Cursor.byteCount_cons, hcount]
      omega
  | case4 offset c rest hfits => cases h

theorem before?_append (front back : List Char) :
    before? (byteCount front) (front ++ back) = some front := by
  rw [before?, cut?_append]
  rfl

theorem from?_append (front back : List Char) :
    from? (byteCount front) (front ++ back) = some back := by
  rw [from?, cut?_append]
  rfl

theorem slice?_append (front middle back : List Char) :
    slice? (byteCount front) (byteCount (front ++ middle)) (front ++ middle ++ back) =
      some middle := by
  rw [slice?, before?_append, Option.bind_some, from?_append]

theorem length_lt_of_from? {offset : Nat} (hoffset : 0 < offset) {chars back : List Char}
    (h : from? offset chars = some back) : back.length < chars.length := by
  obtain ⟨⟨front, behind⟩, hcut, heq⟩ := Option.map_eq_some_iff.mp h
  obtain rfl : behind = back := heq
  obtain ⟨rfl, hcount⟩ := eq_of_cut? hcut
  cases front with
  | nil =>
      rw [Cursor.byteCount_nil] at hcount
      omega
  | cons c front =>
      rw [List.length_append, List.length_cons]
      omega

theorem find?_eq_none_iff {wanted : Char} {chars : List Char} :
    find? wanted chars = none ↔ wanted ∉ chars := by
  induction chars with
  | nil => simp [find?]
  | cons c rest ih =>
      by_cases hc : c = wanted
      · simp [find?, hc]
      · simp [find?, hc, ih, Ne.symm hc]

theorem find?_append {wanted : Char} {front : List Char} (h : wanted ∉ front) (back : List Char) :
    find? wanted (front ++ wanted :: back) = some (byteCount front) := by
  induction front with
  | nil => simp [find?]
  | cons c front ih =>
      rw [List.mem_cons, not_or] at h
      rw [List.cons_append, find?, if_neg (Ne.symm h.1), ih h.2, Option.map_some,
        Cursor.byteCount_cons]

end Text

end Diorama

import Diorama.Number.Layout

namespace Diorama

-- The control characters of C0 and C1, with which a terminal does something instead of showing it.
def isControl (c : Char) : Bool := c.toNat < 32 || (128 ≤ c.toNat && c.toNat < 160)

-- Texts without such characters.
def Printable (text : String) : Prop := ∀ c ∈ text.toList, isControl c = false

-- Only the characters of the text are looked at, whatever instances there are for all characters.
instance (text : String) : Decidable (Printable text) :=
  List.decidableBAll (fun c => isControl c = false) text.toList

theorem Printable.notMem {text : String} (h : Printable text) {c : Char} (hc : isControl c = true) :
    c ∉ text.toList := by
  intro hmem
  rw [h c hmem] at hc
  cases hc

theorem printable_append {text rest : String} :
    Printable (text ++ rest) ↔ Printable text ∧ Printable rest := by
  simp only [Printable, String.toList_append]
  exact List.forall_mem_append

theorem Printable.append {text rest : String} (h : Printable text) (hrest : Printable rest) :
    Printable (text ++ rest) := printable_append.mpr ⟨h, hrest⟩

theorem printable_ofList {chars : List Char} (h : ∀ c ∈ chars, isControl c = false) :
    Printable (String.ofList chars) := by
  rwa [Printable, String.toList_ofList]

theorem isControl_of_isDigit {c : Char} (h : c.isDigit = true) : isControl c = false := by
  simp only [Char.isDigit, Bool.and_eq_true, decide_eq_true_eq] at h
  have hlow : 48 ≤ c.toNat := h.1
  have hhigh : c.toNat ≤ 57 := h.2
  simp only [isControl, Bool.or_eq_false_iff, Bool.and_eq_false_iff, decide_eq_false_iff_not]
  omega

theorem printable_fixedMagnitude (places mantissa : Nat) (exponent : Int) :
    Printable (fixedMagnitude places mantissa exponent) := by
  have hdigits : ∀ n width : Nat,
      ∀ c ∈ List.replicate width '0' ++ Nat.toDigits 10 n, isControl c = false := by
    intro n width c hc
    apply isControl_of_isDigit
    rcases List.mem_append.mp hc with hc | hc
    · rw [List.eq_of_mem_replicate hc]
      rfl
    · exact Nat.isDigit_of_mem_toDigits (by decide) (by decide) hc
  rw [fixedMagnitude]
  refine (printable_ofList fun c hc => hdigits _ _ c (List.mem_of_mem_take hc)).append ?_
  split
  · decide
  · have hpoint : Printable "." := by decide
    exact hpoint.append (printable_ofList fun c hc => hdigits _ _ c (List.mem_of_mem_drop hc))

-- A number with a fixed number of places is written in digits, a point and a sign, or in letters.
theorem printable_fixed (places : Nat) (x : Float32) : Printable (fixed places x) := by
  rw [fixed]
  cases Binary.ofSingle x with
  | nan =>
      have hnan : Printable "NaN" := by decide
      exact hnan
  | infinite negative =>
      have hinfinite : Printable (if negative then "-inf" else "inf") := by cases negative <;> decide
      exact hinfinite
  | finite negative mantissa exponent =>
      have hsign : Printable (if negative then "-" else "") := by cases negative <;> decide
      exact hsign.append (printable_fixedMagnitude places mantissa exponent)

theorem printable_padLeft {text : String} (h : Printable text) (width : Nat) :
    Printable (padLeft width text) := by
  have hblanks : Printable (String.ofList (List.replicate (width - text.length) ' ')) := by
    apply printable_ofList
    intro c hc
    rw [List.eq_of_mem_replicate hc]
    rfl
  exact hblanks.append h

end Diorama

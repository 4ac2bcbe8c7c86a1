-- Small tables from numbers to values. The entries stand in rising order of their numbers, so that
-- tables that answer alike are the same table.

namespace Diorama

structure Table (α : Type) where
  entries : List (Nat × α) := []
  rising : entries.Pairwise (fun a b => a.1 < b.1) := by exact List.Pairwise.nil
deriving DecidableEq

namespace Table

variable {α : Type}

def get? (key : Nat) (t : Table α) : Option α := t.entries.lookup key

def contains (key : Nat) (t : Table α) : Bool := (t.get? key).isSome

-- A key that is there takes the new value; a new key goes to its place in the order.
def put (key : Nat) (a : α) : List (Nat × α) → List (Nat × α)
  | [] => [(key, a)]
  | (k, b) :: rest =>
    if key = k then (key, a) :: rest
    else if key < k then (key, a) :: (k, b) :: rest
    else (k, b) :: put key a rest

theorem mem_put {key : Nat} {a : α} {entries : List (Nat × α)} {entry : Nat × α}
    (h : entry ∈ put key a entries) : entry = (key, a) ∨ entry ∈ entries := by
  induction entries with
  | nil => simpa [put] using h
  | cons head rest ih =>
      simp only [put] at h
      split at h
      · rcases List.mem_cons.mp h with h | h
        · exact .inl h
        · exact .inr (List.mem_cons_of_mem _ h)
      · split at h
        · exact List.mem_cons.mp h
        · rcases List.mem_cons.mp h with rfl | h
          · exact .inr List.mem_cons_self
          · exact (ih h).imp id (List.mem_cons_of_mem _)

theorem put_rising (key : Nat) (a : α) {entries : List (Nat × α)}
    (h : entries.Pairwise (fun a b => a.1 < b.1)) :
    (put key a entries).Pairwise (fun a b => a.1 < b.1) := by
  induction entries with
  | nil => simp [put]
  | cons head rest ih =>
      obtain ⟨hhead, hrest⟩ := List.pairwise_cons.mp h
      simp only [put]
      split
      · rename_i hk
        exact List.pairwise_cons.mpr ⟨fun entry he => hk ▸ hhead entry he, hrest⟩
      · split
        · rename_i hk
          refine List.pairwise_cons.mpr ⟨fun entry he => ?_, h⟩
          rcases List.mem_cons.mp he with rfl | he
          · exact hk
          · exact Nat.lt_trans hk (hhead entry he)
        · refine List.pairwise_cons.mpr ⟨fun entry he => ?_, ih hrest⟩
          rcases mem_put he with rfl | he
          · show head.1 < key
            omega
          · exact hhead entry he

def set (key : Nat) (a : α) (t : Table α) : Table α := ⟨put key a t.entries, put_rising key a t.rising⟩

def modify (key : Nat) (f : α → α) (t : Table α) : Table α where
  entries := t.entries.map fun entry => (entry.1, if entry.1 = key then f entry.2 else entry.2)
  rising := List.pairwise_map.mpr t.rising

def erase (key : Nat) (t : Table α) : Table α :=
  ⟨t.entries.filter fun entry => entry.1 != key, t.rising.filter _⟩

def values (t : Table α) : List α := t.entries.map (·.2)

def size (t : Table α) : Nat := t.entries.length

@[simp] theorem get?_empty (key : Nat) : ({} : Table α).get? key = none := rfl

theorem lookup_cons_eq {κ : Type} [DecidableEq κ] (key k : κ) (a : α) (rest : List (κ × α)) :
    ((key, a) :: rest).lookup k = if k = key then some a else rest.lookup k := by
  by_cases h : k = key
  · simp [h]
  · have hb : (k == key) = false := by simpa using h
    simp [List.lookup_cons, hb, h]

theorem lookup_put (key k : Nat) (a : α) (entries : List (Nat × α)) :
    (put key a entries).lookup k = if k = key then some a else entries.lookup k := by
  induction entries with
  | nil => simp [put, lookup_cons_eq]
  | cons head rest ih =>
      obtain ⟨key', b⟩ := head
      simp only [put]
      split
      · rename_i hk
        subst hk
        simp only [lookup_cons_eq]
        split <;> rfl
      · split
        · simp only [lookup_cons_eq]
        · rename_i hne _
          simp only [lookup_cons_eq, ih]
          by_cases h : k = key'
          · simp [h, show key' ≠ key from fun he => hne he.symm]
          · simp [h]

@[simp] theorem get?_set (key k : Nat) (a : α) (t : Table α) :
    (t.set key a).get? k = if k = key then some a else t.get? k :=
  lookup_put key k a t.entries

@[simp] theorem get?_modify (key k : Nat) (f : α → α) (t : Table α) :
    (t.modify key f).get? k = if k = key then (t.get? k).map f else t.get? k := by
  simp only [get?, modify]
  induction t.entries with
  | nil => simp
  | cons head rest ih =>
      obtain ⟨key', b⟩ := head
      simp only [List.map_cons, lookup_cons_eq, ih]
      by_cases h : k = key'
      · by_cases hkey : k = key <;> simp [← h, hkey]
      · simp [h]

@[simp] theorem get?_erase (key k : Nat) (t : Table α) :
    (t.erase key).get? k = if k = key then none else t.get? k := by
  simp only [get?, erase]
  induction t.entries with
  | nil => simp
  | cons head rest ih =>
      obtain ⟨key', b⟩ := head
      by_cases hkey : key' = key
      · simp only [hkey, bne_self_eq_false, Bool.false_eq_true, not_false_eq_true,
          List.filter_cons_of_neg, ih, lookup_cons_eq]
        split <;> rfl
      · simp only [ne_eq, hkey, not_false_eq_true, bne_iff_ne, List.filter_cons_of_pos,
          lookup_cons_eq, ih]
        by_cases h : k = key'
        · simp [h, hkey]
        · simp [h]

theorem get?_eq_some_iff {t : Table α} {key : Nat} {a : α} :
    t.get? key = some a ↔ (key, a) ∈ t.entries := by
  obtain ⟨entries, rising⟩ := t
  simp only [get?]
  induction entries with
  | nil => simp
  | cons head rest ih =>
      obtain ⟨key', b⟩ := head
      obtain ⟨hhead, hrest⟩ := List.pairwise_cons.mp rising
      simp only [lookup_cons_eq, List.mem_cons, Prod.mk.injEq]
      by_cases h : key = key'
      · have hnot : (key, a) ∉ rest := fun hm => Nat.lt_irrefl _ (h ▸ hhead _ hm)
        simp [h, h ▸ hnot, eq_comm]
      · simp [h, ih hrest]

-- Two lists in rising order with the same members are equal.
theorem entries_eq_of_mem_iff {l₁ l₂ : List (Nat × α)}
    (h₁ : l₁.Pairwise (fun a b => a.1 < b.1)) (h₂ : l₂.Pairwise (fun a b => a.1 < b.1))
    (h : ∀ entry, entry ∈ l₁ ↔ entry ∈ l₂) : l₁ = l₂ := by
  induction l₁ generalizing l₂ with
  | nil =>
      cases l₂ with
      | nil => rfl
      | cons head rest => exact absurd ((h head).mpr List.mem_cons_self) List.not_mem_nil
  | cons first rest ih =>
      cases l₂ with
      | nil => exact absurd ((h first).mp List.mem_cons_self) List.not_mem_nil
      | cons second others =>
          obtain ⟨hfirst, hrest⟩ := List.pairwise_cons.mp h₁
          obtain ⟨hsecond, hothers⟩ := List.pairwise_cons.mp h₂
          -- each head is the least entry of its list
          have heq : first = second := by
            rcases List.mem_cons.mp ((h first).mp List.mem_cons_self) with he | he
            · exact he
            · rcases List.mem_cons.mp ((h second).mpr List.mem_cons_self) with he' | he'
              · exact he'.symm
              · exact absurd (hsecond _ he) (Nat.lt_asymm (hfirst _ he'))
          subst heq
          congr 1
          apply ih hrest hothers
          intro entry
          constructor <;> intro he
          · rcases List.mem_cons.mp ((h entry).mp (List.mem_cons_of_mem _ he)) with rfl | he'
            · exact absurd (hfirst _ he) (Nat.lt_irrefl _)
            · exact he'
          · rcases List.mem_cons.mp ((h entry).mpr (List.mem_cons_of_mem _ he)) with rfl | he'
            · exact absurd (hsecond _ he) (Nat.lt_irrefl _)
            · exact he'

theorem ext_get? {t₁ t₂ : Table α} (h : ∀ key, t₁.get? key = t₂.get? key) : t₁ = t₂ := by
  obtain ⟨l₁, h₁⟩ := t₁
  obtain ⟨l₂, h₂⟩ := t₂
  congr 1
  apply entries_eq_of_mem_iff h₁ h₂
  rintro ⟨key, a⟩
  rw [← get?_eq_some_iff (t := ⟨l₁, h₁⟩), ← get?_eq_some_iff (t := ⟨l₂, h₂⟩), h]

end Table

end Diorama

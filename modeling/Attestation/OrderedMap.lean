/-!
# Ordered sets and maps

A finite set is a strictly increasing list, a finite map a list of entries whose keys strictly
increase, so that two maps with the same entries are equal. `insert` replaces what stands under an
equal key.
-/

namespace Attestation

/-! ### Sorted insertion -/

/-- Puts an element in its place in an increasing list; an equal element is there already. -/
def insertSorted {α : Type} [Ord α] (x : α) : List α → List α
  | [] => [x]
  | y :: ys =>
    match compare x y with
    | .lt => x :: y :: ys
    | .eq => y :: ys
    | .gt => y :: insertSorted x ys

theorem mem_insertSorted {α : Type} [Ord α] [Std.LawfulEqOrd α] {x a : α} {l : List α} :
    a ∈ insertSorted x l ↔ a = x ∨ a ∈ l := by
  induction l with
  | nil => simp [insertSorted]
  | cons y ys ih =>
    rw [insertSorted]
    split
    · simp
    · rename_i h
      obtain rfl := Std.LawfulEqOrd.eq_of_compare h
      simp
    · simp only [List.mem_cons, ih]
      exact or_left_comm

theorem pairwise_insertSorted {α : Type} [Ord α] [Std.TransOrd α] [Std.LawfulEqOrd α] {x : α}
    {l : List α} (h : l.Pairwise (compare · · = .lt)) :
    (insertSorted x l).Pairwise (compare · · = .lt) := by
  induction l with
  | nil => simp [insertSorted]
  | cons y ys ih =>
    rw [insertSorted]
    obtain ⟨hy, hys⟩ := List.pairwise_cons.1 h
    split
    · rename_i hxy
      refine List.pairwise_cons.2 ⟨fun a ha => ?_, h⟩
      rcases List.mem_cons.1 ha with rfl | ha
      · exact hxy
      · exact Std.TransCmp.lt_trans hxy (hy a ha)
    · exact h
    · rename_i hxy
      refine List.pairwise_cons.2 ⟨fun a ha => ?_, ih hys⟩
      rcases mem_insertSorted.1 ha with rfl | ha
      · exact Std.OrientedCmp.lt_of_gt hxy
      · exact hy a ha

/-- The increasing list of the elements of a list, each once. -/
def sortedSet {α : Type} [Ord α] (l : List α) : List α := l.foldr insertSorted []

@[simp]
theorem mem_sortedSet {α : Type} [Ord α] [Std.LawfulEqOrd α] {a : α} {l : List α} :
    a ∈ sortedSet l ↔ a ∈ l := by
  induction l with
  | nil => simp [sortedSet]
  | cons x l ih =>
    show a ∈ insertSorted x (sortedSet l) ↔ _
    rw [mem_insertSorted, ih, List.mem_cons]

theorem pairwise_sortedSet {α : Type} [Ord α] [Std.TransOrd α] [Std.LawfulEqOrd α] (l : List α) :
    (sortedSet l).Pairwise (compare · · = .lt) := by
  induction l with
  | nil => simp [sortedSet]
  | cons x l ih => exact pairwise_insertSorted ih

/-! ### Entry lists -/

namespace Entries

variable {κ ν : Type} [Ord κ]

/-- Puts a value under a key, replacing the value of an equal key. -/
def insert (k : κ) (v : ν) : List (κ × ν) → List (κ × ν)
  | [] => [(k, v)]
  | (k₁, v₁) :: rest =>
    match compare k k₁ with
    | .lt => (k, v) :: (k₁, v₁) :: rest
    | .eq => (k, v) :: rest
    | .gt => (k₁, v₁) :: insert k v rest

/-- The value of the first entry under the key. -/
def get? (k : κ) (entries : List (κ × ν)) : Option ν :=
  (entries.find? fun e => compare k e.1 == .eq).map (·.2)

/-- The keys of the entries strictly increase. -/
def Sorted (entries : List (κ × ν)) : Prop := entries.Pairwise (compare ·.1 ·.1 = .lt)

theorem key_mem_insert [Std.LawfulEqOrd κ] {k : κ} {v : ν} {e : κ × ν} {l : List (κ × ν)}
    (h : e ∈ insert k v l) : e = (k, v) ∨ e ∈ l := by
  induction l with
  | nil => simpa [insert] using h
  | cons hd tl ih =>
    obtain ⟨k₁, v₁⟩ := hd
    rw [insert] at h
    split at h
    · exact (List.mem_cons.1 h).imp id id
    · exact (List.mem_cons.1 h).imp id (List.mem_cons_of_mem _)
    · rcases List.mem_cons.1 h with rfl | h
      · exact .inr List.mem_cons_self
      · exact (ih h).imp id (List.mem_cons_of_mem _)

theorem Sorted.insert [Std.TransOrd κ] [Std.LawfulEqOrd κ] {k : κ} {v : ν} {l : List (κ × ν)}
    (h : Sorted l) : Sorted (insert k v l) := by
  induction l with
  | nil => simp [Entries.insert, Sorted]
  | cons hd tl ih =>
    obtain ⟨k₁, v₁⟩ := hd
    obtain ⟨h₁, htl⟩ := List.pairwise_cons.1 h
    rw [Entries.insert]
    split
    · rename_i hlt
      refine List.pairwise_cons.2 ⟨fun e he => ?_, h⟩
      rcases List.mem_cons.1 he with rfl | he
      · exact hlt
      · exact Std.TransCmp.lt_trans hlt (h₁ e he)
    · rename_i heq
      obtain rfl := Std.LawfulEqOrd.eq_of_compare heq
      exact List.pairwise_cons.2 ⟨h₁, htl⟩
    · rename_i hgt
      refine List.pairwise_cons.2 ⟨fun e he => ?_, ih htl⟩
      rcases key_mem_insert he with rfl | he
      · exact Std.OrientedCmp.lt_of_gt hgt
      · exact h₁ e he

end Entries

/-! ### Maps -/

/-- A finite map, as the list of its entries in key order. -/
structure OrderedMap (κ ν : Type) [Ord κ] where
  /-- The entries, keys strictly increasing. -/
  entries : List (κ × ν)
  sorted : Entries.Sorted entries

namespace OrderedMap

variable {κ ν : Type} [Ord κ]

instance [DecidableEq κ] [DecidableEq ν] : DecidableEq (OrderedMap κ ν) := fun a b =>
  decidable_of_iff (a.entries = b.entries) (by cases a; cases b; simp)

/-- The map without entries. -/
def empty : OrderedMap κ ν := ⟨[], List.Pairwise.nil⟩

instance : Inhabited (OrderedMap κ ν) := ⟨empty⟩

/-- The map with one entry. -/
def singleton (k : κ) (v : ν) : OrderedMap κ ν := ⟨[(k, v)], by simp [Entries.Sorted]⟩

/-- The value under a key. -/
def get? (m : OrderedMap κ ν) (k : κ) : Option ν := Entries.get? k m.entries

/-- Puts a value under a key, replacing the one that stood there. -/
def insert [Std.TransOrd κ] [Std.LawfulEqOrd κ] (m : OrderedMap κ ν) (k : κ) (v : ν) :
    OrderedMap κ ν :=
  ⟨Entries.insert k v m.entries, m.sorted.insert⟩

/-- Keeps the entries whose key passes a test. -/
def filterKeys (m : OrderedMap κ ν) (keep : κ → Bool) : OrderedMap κ ν :=
  ⟨m.entries.filter (keep ·.1), m.sorted.filter _⟩

/-- Removes the entry under a key. -/
def erase (m : OrderedMap κ ν) (k : κ) : OrderedMap κ ν :=
  m.filterKeys fun k₁ => compare k k₁ != .eq

/-- The map of a list of entries; of two entries under one key the later one stands. -/
def ofList [Std.TransOrd κ] [Std.LawfulEqOrd κ] (entries : List (κ × ν)) : OrderedMap κ ν :=
  entries.foldl (fun m e => m.insert e.1 e.2) empty

/-- Puts under a key a value that may depend on the one that stood there. -/
def alter [Std.TransOrd κ] [Std.LawfulEqOrd κ] (m : OrderedMap κ ν) (k : κ)
    (f : Option ν → ν) : OrderedMap κ ν :=
  m.insert k (f (m.get? k))

/-- Sorts the elements of a list by a key and folds those of one key, in their order. -/
def foldBy {α : Type} [Std.TransOrd κ] [Std.LawfulEqOrd κ] (key : α → κ)
    (f : Option ν → α → ν) (l : List α) : OrderedMap κ ν :=
  l.foldl (fun m a => m.alter (key a) (f · a)) empty

/-- Replaces every value. -/
def mapValues (m : OrderedMap κ ν) (f : ν → ν) : OrderedMap κ ν :=
  ⟨m.entries.map fun e => (e.1, f e.2), by
    simpa [Entries.Sorted, List.pairwise_map] using m.sorted⟩

/-- Replaces the value under a key, if there is one. -/
def modify [DecidableEq κ] (m : OrderedMap κ ν) (k : κ) (f : ν → ν) : OrderedMap κ ν :=
  ⟨m.entries.map fun e => (e.1, if e.1 = k then f e.2 else e.2), by
    simpa [Entries.Sorted, List.pairwise_map] using m.sorted⟩

/-- The entries in key order. -/
def toList (m : OrderedMap κ ν) : List (κ × ν) := m.entries

/-- The keys in increasing order. -/
def keys (m : OrderedMap κ ν) : List κ := m.entries.map (·.1)

/-- The keys that are not below a bound, in increasing order. -/
def keysFrom (m : OrderedMap κ ν) (bound : κ) : List κ :=
  m.keys.dropWhile fun k => (compare k bound).isLT

/-- The values in the order of their keys. -/
def values (m : OrderedMap κ ν) : List ν := m.entries.map (·.2)

/-- The number of entries. -/
def size (m : OrderedMap κ ν) : Nat := m.entries.length

end OrderedMap

end Attestation

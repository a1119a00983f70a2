import Attestation.OrderedMap
import Mathlib.Data.List.Induction
import Mathlib.Data.List.Sort
import Mathlib.Tactic.SplitIfs

/-!
# Ordered maps through their lookups

Each operation on ordered maps is described by what `get?` finds afterwards; none of these lemmas
asks for sorted entries. Sortedness enters where the entries are listed: an entry is listed exactly
if its key finds its value (`mem_toList`), lists in increasing order are equal if they have the same
elements (`eq_of_increasing`), and to cut such a list where a test begins to fail is to filter it
(`takeWhile_eq_filter`, `dropWhile_eq_filter`).
-/

namespace Attestation

variable {κ ν α : Type} [Ord κ]

/-! ### Increasing lists -/

/-- A list that increases strictly in the order of its elements. -/
abbrev Increasing (l : List κ) : Prop := l.Pairwise (compare · · = .lt)

/-- A list that increases in a key is known by its elements. -/
theorem eq_of_increasing_on [Std.TransOrd κ] (key : α → κ) {l₁ l₂ : List α}
    (h₁ : l₁.Pairwise fun a b => compare (key a) (key b) = .lt)
    (h₂ : l₂.Pairwise fun a b => compare (key a) (key b) = .lt) (h : ∀ a, a ∈ l₁ ↔ a ∈ l₂) :
    l₁ = l₂ := by
  have : Std.Irrefl fun a b => compare (key a) (key b) = .lt :=
    ⟨fun a ha => by rw [Std.ReflOrd.compare_self] at ha; contradiction⟩
  have : Std.Antisymm fun a b => compare (key a) (key b) = .lt :=
    ⟨fun a b hab hba => absurd hba (Std.OrientedCmp.not_lt_of_lt hab)⟩
  exact h₁.eq_of_mem_iff h₂ h

/-- An increasing list is known by its elements. -/
theorem eq_of_increasing [Std.TransOrd κ] {l₁ l₂ : List κ} (h₁ : Increasing l₁)
    (h₂ : Increasing l₂) (h : ∀ a, a ∈ l₁ ↔ a ∈ l₂) : l₁ = l₂ :=
  eq_of_increasing_on id h₁ h₂ h

/-- Nothing is twice in an increasing list. -/
theorem Increasing.nodup [Std.ReflOrd κ] {l : List κ} (h : Increasing l) : l.Nodup :=
  h.imp fun hab he => by rw [he, Std.ReflOrd.compare_self] at hab; contradiction

/-! ### Lists that are cut at a test -/

section Cuts

variable {p : α → Bool} {l : List α}

/-- If what passes a test stands in front, the first elements that pass it are all that do. -/
theorem takeWhile_eq_filter (h : l.Pairwise fun a b => p b → p a) : l.takeWhile p = l.filter p := by
  induction l with
  | nil => rfl
  | cons a l ih =>
    obtain ⟨ha, hl⟩ := List.pairwise_cons.1 h
    by_cases hp : p a
    · rw [List.takeWhile_cons_of_pos hp, List.filter_cons_of_pos hp, ih hl]
    · rw [List.takeWhile_cons_of_neg hp, List.filter_cons_of_neg hp, eq_comm,
        List.filter_eq_nil_iff]
      exact fun b hb hpb => hp (ha b hb hpb)

/-- If what passes a test stands in front, what is left without it fails the test. -/
theorem dropWhile_eq_filter (h : l.Pairwise fun a b => p b → p a) :
    l.dropWhile p = l.filter fun a => !p a := by
  induction l with
  | nil => rfl
  | cons a l ih =>
    obtain ⟨ha, hl⟩ := List.pairwise_cons.1 h
    by_cases hp : p a
    · rw [List.dropWhile_cons_of_pos hp, ih hl, List.filter_cons_of_neg (by simp [hp])]
    · rw [List.dropWhile_cons_of_neg hp, eq_comm, List.filter_eq_self]
      refine List.forall_mem_cons.2 ⟨by simp [hp], fun b hb => ?_⟩
      simpa using mt (ha b hb) hp

end Cuts

/-! ### Entries -/

namespace Entries

variable [Std.LawfulEqOrd κ]

private theorem get?_cons [DecidableEq κ] {k k₁ : κ} {v₁ : ν} {rest : List (κ × ν)} :
    get? k ((k₁, v₁) :: rest) = if k = k₁ then some v₁ else get? k rest := by
  by_cases h : k = k₁
  · simp [get?, h, Std.ReflOrd.compare_self]
  · have hne : compare k k₁ ≠ .eq := fun he => h (Std.LawfulEqOrd.eq_of_compare he)
    rw [if_neg h]
    simp [get?, hne]

theorem get?_insert [DecidableEq κ] {k k' : κ} {v : ν} {entries : List (κ × ν)} :
    get? k' (insert k v entries) = if k' = k then some v else get? k' entries := by
  induction entries with
  | nil => rw [insert, get?_cons]
  | cons e rest ih =>
    obtain ⟨k₁, v₁⟩ := e
    rw [insert]
    split
    · rw [get?_cons]
    · rename_i h
      obtain rfl := Std.LawfulEqOrd.eq_of_compare h
      rw [get?_cons, get?_cons]
      split_ifs <;> rfl
    · rename_i h
      have hne : k ≠ k₁ := fun he => by
        rw [he, Std.ReflOrd.compare_self] at h
        contradiction
      rw [get?_cons, get?_cons, ih]
      by_cases h₁ : k' = k₁
      · rw [if_pos h₁, if_pos h₁, if_neg fun he => hne (he.symm.trans h₁)]
      · rw [if_neg h₁, if_neg h₁]

/-- A lookup in sorted entries finds exactly the entry under the key. -/
theorem get?_eq_some_iff {k : κ} {v : ν} {entries : List (κ × ν)} (h : Sorted entries) :
    get? k entries = some v ↔ (k, v) ∈ entries := by
  classical
  induction entries with
  | nil => simp [get?]
  | cons e rest ih =>
    obtain ⟨k₁, v₁⟩ := e
    obtain ⟨h₁, hrest⟩ := List.pairwise_cons.1 h
    rw [get?_cons, List.mem_cons, Prod.mk.injEq]
    by_cases hk : k = k₁
    · subst hk
      have hnot : (k, v) ∉ rest := fun hmem => by
        have := h₁ _ hmem
        rw [Std.ReflOrd.compare_self] at this
        contradiction
      simp [hnot, eq_comm]
    · simp [hk, ih hrest]

theorem get?_filter [DecidableEq κ] {k : κ} {keep : κ → Bool} {entries : List (κ × ν)} :
    get? k (entries.filter (keep ·.1)) = if keep k then get? k entries else none := by
  induction entries with
  | nil => simp [get?]
  | cons e rest ih =>
    obtain ⟨k₁, v₁⟩ := e
    rw [List.filter_cons, get?_cons]
    by_cases h₁ : keep k₁
    · rw [if_pos h₁, get?_cons, ih]
      by_cases hk : k = k₁
      · simp [hk, h₁]
      · simp [hk]
    · rw [if_neg h₁, ih]
      by_cases hk : k = k₁
      · simp [hk, h₁]
      · simp [hk]

end Entries

/-! ### Listings -/

namespace OrderedMap

variable {m : OrderedMap κ ν} {k k' : κ} {v : ν}

theorem increasing_keys (m : OrderedMap κ ν) : Increasing m.keys :=
  List.pairwise_map.2 m.sorted

/-- An entry is listed exactly if its key finds its value. -/
theorem mem_toList [Std.LawfulEqOrd κ] : (k, v) ∈ m.toList ↔ m.get? k = some v :=
  (Entries.get?_eq_some_iff m.sorted).symm

/-- The keys are those under which something is found. -/
theorem mem_keys [Std.LawfulEqOrd κ] : k ∈ m.keys ↔ ∃ v, m.get? k = some v := by
  simp only [keys, List.mem_map, Prod.exists, exists_and_right, exists_eq_right]
  exact exists_congr fun v => mem_toList

/-- Passing over the keys below a bound leaves exactly the others. -/
theorem keysFrom_eq_filter [Std.TransOrd κ] (m : OrderedMap κ ν) (bound : κ) :
    m.keysFrom bound = m.keys.filter fun k => (compare k bound).isGE := by
  simp only [← Ordering.not_isLT_eq_isGE]
  refine dropWhile_eq_filter (m.increasing_keys.imp fun hab hb => ?_)
  rw [Ordering.isLT_iff_eq_lt] at hb ⊢
  exact Std.TransCmp.lt_trans hab hb

theorem mem_values [Std.LawfulEqOrd κ] : v ∈ m.values ↔ ∃ k, m.get? k = some v := by
  simp only [values, List.mem_map, Prod.exists, exists_eq_right]
  exact exists_congr fun k => mem_toList

/-- What is found first in a listing has the least key. -/
theorem find?_toList [Std.LawfulEqOrd κ] {p : κ × ν → Bool}
    (h : m.toList.find? p = some (k, v)) : m.get? k = some v ∧ p (k, v) ∧
      ∀ k' v', m.get? k' = some v' → p (k', v') → k' = k ∨ compare k k' = .lt := by
  obtain ⟨hp, before, after, happ, hbefore⟩ := List.find?_eq_some_iff_append.1 h
  refine ⟨mem_toList.1 (List.mem_of_find?_eq_some h), hp, fun k' v' hget hp' => ?_⟩
  have hsorted : (before ++ (k, v) :: after).Pairwise (compare ·.1 ·.1 = .lt) := happ ▸ m.sorted
  have hmem : (k', v') ∈ before ++ (k, v) :: after := happ ▸ mem_toList.2 hget
  rcases List.mem_append.1 hmem with hmem | hmem
  · have := hbefore _ hmem
    simp [hp'] at this
  · rcases List.mem_cons.1 hmem with heq | hmem
    · exact .inl (Prod.ext_iff.1 heq).1
    · exact .inr ((List.pairwise_cons.1 (List.pairwise_append.1 hsorted).2.1).1 _ hmem)

/-- What stands last in a listing has the greatest key. -/
theorem getLast?_toList [Std.LawfulEqOrd κ] (h : m.toList.getLast? = some (k, v)) :
    m.get? k = some v ∧ ∀ k' v', m.get? k' = some v' → k' = k ∨ compare k' k = .lt := by
  obtain ⟨before, happ⟩ := List.getLast?_eq_some_iff.1 h
  refine ⟨mem_toList.1 (happ ▸ by simp), fun k' v' hget => ?_⟩
  have hsorted : (before ++ [(k, v)]).Pairwise (compare ·.1 ·.1 = .lt) := happ ▸ m.sorted
  have hmem : (k', v') ∈ before ++ [(k, v)] := happ ▸ mem_toList.2 hget
  rcases List.mem_append.1 hmem with hmem | hmem
  · exact .inr ((List.pairwise_append.1 hsorted).2.2 _ hmem _ List.mem_cons_self)
  · exact .inl (Prod.ext_iff.1 (List.mem_singleton.1 hmem)).1

/-- A map is known by its lookups. -/
theorem ext_get? [Std.TransOrd κ] [Std.LawfulEqOrd κ] {m m' : OrderedMap κ ν}
    (h : ∀ k, m.get? k = m'.get? k) : m = m' := by
  have hentries : m.entries = m'.entries :=
    eq_of_increasing_on Prod.fst m.sorted m'.sorted fun ⟨k, v⟩ =>
      (mem_toList.trans (h k ▸ Iff.rfl)).trans mem_toList.symm
  cases m
  cases m'
  simpa using hentries

/-! ### Lookups -/

@[simp]
theorem get?_empty : (empty : OrderedMap κ ν).get? k = none := rfl

@[simp]
theorem get?_singleton [Std.LawfulEqOrd κ] [DecidableEq κ] :
    (singleton k v).get? k' = if k' = k then some v else none := by
  rw [get?, singleton, Entries.get?_cons]
  rfl

@[simp]
theorem get?_filterKeys [Std.LawfulEqOrd κ] [DecidableEq κ] {keep : κ → Bool} :
    (m.filterKeys keep).get? k = if keep k then m.get? k else none :=
  Entries.get?_filter

@[simp]
theorem get?_erase [Std.LawfulEqOrd κ] [DecidableEq κ] :
    (m.erase k).get? k' = if k' = k then none else m.get? k' := by
  rw [erase, get?_filterKeys]
  by_cases h : k' = k
  · simp [h, Std.ReflOrd.compare_self]
  · have hne : compare k k' ≠ .eq := fun he => h (Std.LawfulEqOrd.eq_of_compare he).symm
    simp [h, hne]

theorem get?_foldl_erase [Std.LawfulEqOrd κ] [DecidableEq κ] {ks : List κ} :
    (ks.foldl erase m).get? k = if k ∈ ks then none else m.get? k := by
  induction ks using List.reverseRecOn with
  | nil => simp
  | append_singleton ks k₁ ih =>
    rw [List.foldl_concat, get?_erase, ih]
    by_cases h : k = k₁
    · simp [h]
    · simp [h]

variable [Std.TransOrd κ] [Std.LawfulEqOrd κ]

@[simp]
theorem get?_insert [DecidableEq κ] :
    (m.insert k v).get? k' = if k' = k then some v else m.get? k' :=
  Entries.get?_insert

@[simp]
theorem get?_alter [DecidableEq κ] {f : Option ν → ν} :
    (m.alter k f).get? k' = if k' = k then some (f (m.get? k)) else m.get? k' :=
  get?_insert

/-! ### Inserting a listing -/

section

variable {f : α → κ} {g : α → ν} {l : List α}

/-- Keys that are not listed keep what stands under them. -/
theorem get?_foldl_insert_of_ne [DecidableEq κ] (h : ∀ a ∈ l, f a ≠ k) :
    (l.foldl (fun m a => m.insert (f a) (g a)) m).get? k = m.get? k := by
  induction l using List.reverseRecOn with
  | nil => rfl
  | append_singleton l a ih =>
    rw [List.foldl_concat, get?_insert, if_neg (Ne.symm (h a (by simp)))]
    exact ih fun b hb => h b (List.mem_append_left _ hb)

/-- Under a listed key stands its value, if no key is listed twice. -/
theorem get?_foldl_insert_of_mem [DecidableEq κ] (hnodup : (l.map f).Nodup) {a : α}
    (ha : a ∈ l) :
    (l.foldl (fun m a => m.insert (f a) (g a)) m).get? (f a) = some (g a) := by
  induction l using List.reverseRecOn with
  | nil => contradiction
  | append_singleton l b ih =>
    rw [List.map_append, List.nodup_append'] at hnodup
    obtain ⟨hl, -, hdisjoint⟩ := hnodup
    rw [List.foldl_concat, get?_insert]
    rcases List.mem_append.1 ha with ha | ha
    · have hne : f a ≠ f b := fun h =>
        hdisjoint (List.mem_map_of_mem ha) (by simp [h])
      rw [if_neg hne, ih hl ha]
    · rw [List.mem_singleton.1 ha, if_pos rfl]

end

/-- A map is made again from its entries. -/
theorem ofList_toList (m : OrderedMap κ ν) : ofList m.toList = m := by
  classical
  have hnodup : (m.toList.map (·.1)).Nodup := m.increasing_keys.nodup
  refine ext_get? fun k => ?_
  cases hget : m.get? k with
  | none =>
    refine (get?_foldl_insert_of_ne fun e he h => ?_).trans get?_empty
    rw [← h, mem_toList.1 he] at hget
    contradiction
  | some v => exact get?_foldl_insert_of_mem hnodup (mem_toList.2 hget)

/-- A map of a listing has no entries of its own. -/
theorem toList_ofList_subset {l : List (κ × ν)} : (ofList l).toList ⊆ l := by
  induction l using List.reverseRecOn with
  | nil => exact fun _ h => h
  | append_singleton l e ih =>
    intro e' he'
    rw [ofList, List.foldl_concat] at he'
    rcases Entries.key_mem_insert he' with rfl | he'
    · exact List.mem_append_right _ (List.mem_singleton.2 rfl)
    · exact List.mem_append_left _ (ih he')

theorem length_toList_ofList_le (l : List (κ × ν)) : (ofList l).toList.length ≤ l.length := by
  have hnodup : (ofList l).toList.Nodup := .of_map _ (ofList l).increasing_keys.nodup
  exact (List.subperm_of_subset hnodup toList_ofList_subset).length_le

/-! ### Folding by a key -/

/-- Taking in one more element. -/
theorem foldBy_append_singleton {key : α → κ} {f : Option ν → α → ν} {l : List α} {a : α} :
    foldBy key f (l ++ [a]) = (foldBy key f l).alter (key a) (f · a) :=
  List.foldl_concat _ _ _ _

/-- Under a key stands the fold over the elements of that key, if there are any. -/
theorem get?_foldBy [DecidableEq κ] {key : α → κ} {f : Option ν → α → ν} {l : List α} {k : κ} :
    (foldBy key f l).get? k =
      (l.filter fun a => decide (key a = k)).foldl (fun o a => some (f o a)) none := by
  induction l using List.reverseRecOn with
  | nil => rfl
  | append_singleton l a ih =>
    rw [foldBy_append_singleton, get?_alter, List.filter_append, List.foldl_append, ← ih]
    by_cases h : key a = k
    · subst h
      simp
    · simp [h, Ne.symm h]

/-- The case of a fold that starts anew from `e` under each key. -/
theorem get?_foldBy_getD [DecidableEq κ] {key : α → κ} {f : ν → α → ν} {e : ν} {l : List α}
    {k : κ} : (foldBy key (fun o a => f (o.getD e) a) l).get? k =
      if l.filter (fun a => decide (key a = k)) = [] then none
      else some ((l.filter fun a => decide (key a = k)).foldl f e) := by
  have hsome : ∀ (l : List α) (v : ν),
      l.foldl (fun o a => some (f (o.getD e) a)) (some v) = some (l.foldl f v) := by
    intro l
    induction l with
    | nil => exact fun v => rfl
    | cons a l ih => exact fun v => ih (f v a)
  rw [get?_foldBy]
  cases l.filter fun a => decide (key a = k) with
  | nil => rfl
  | cons a l => exact hsome l (f e a)

end OrderedMap

end Attestation

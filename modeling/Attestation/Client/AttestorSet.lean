import Attestation.Address
import Attestation.Bisection

/-!
# Attestor sets

The attestors a client trusts, in the order of their ids. A set is not empty, ids and addresses are
unique and weights are positive, so that an id names one address and an address has one vote.
-/

namespace Attestation

/-- A registered attestor. -/
structure Attestor where
  /-- The id that claims are signed under. -/
  id : String
  /-- The address that signs. -/
  address : Address
  /-- The weight of the attestor's vote. -/
  weight : UInt64
deriving DecidableEq

/-- What is wrong with a listing of attestors. -/
inductive AttestorSetError where
  | empty
  | zeroWeight (id : String)
  | duplicateId (id : String)
  | duplicateAddress (address : Address)
deriving DecidableEq

/-- The first element that is equal to its successor. -/
def firstRepeat? {α : Type} [DecidableEq α] : List α → Option α
  | a :: b :: rest => if a = b then some a else firstRepeat? (b :: rest)
  | _ => none

/-- A sorted list without neighbours that are equal strictly increases. -/
theorem pairwise_lt_of_firstRepeat? {α : Type} [DecidableEq α] [Ord α] [Std.TransOrd α]
    [Std.LawfulEqOrd α] {l : List α} (h : firstRepeat? l = none)
    (sorted : l.Pairwise fun a b => (compare a b).isLE) : l.Pairwise (compare · · = .lt) := by
  induction l with
  | nil => simp
  | cons a l ih =>
    cases l with
    | nil => simp
    | cons b rest =>
      rw [firstRepeat?] at h
      split at h
      · exact absurd h (by simp)
      · rename_i hab
        obtain ⟨ha, hrest⟩ := List.pairwise_cons.1 sorted
        have hlt : compare a b = .lt := by
          have hle := ha b List.mem_cons_self
          cases hc : compare a b with
          | lt => rfl
          | eq => exact absurd (Std.LawfulEqOrd.eq_of_compare hc) hab
          | gt => simp [hc] at hle
        refine List.pairwise_cons.2 ⟨fun c hc => ?_, ih h hrest⟩
        rcases List.mem_cons.1 hc with rfl | hc
        · exact hlt
        · exact Std.TransCmp.lt_of_lt_of_isLE hlt ((List.pairwise_cons.1 hrest).1 c hc)

/-- The attestors of a client. -/
structure AttestorSet where
  /-- The attestors, ids strictly increasing. -/
  members : List Attestor
  sorted : (members.map (·.id)).Pairwise (compare · · = .lt)
  nonempty : members ≠ []
  addresses_nodup : (members.map (·.address)).Nodup
  weight_ne_zero : ∀ a ∈ members, a.weight ≠ 0

namespace AttestorSet

instance : DecidableEq AttestorSet := fun a b =>
  decidable_of_iff (a.members = b.members) (by cases a; cases b; simp)

/-- A listing in the order of ids. -/
def sortById (members : List Attestor) : List Attestor :=
  members.mergeSort fun a b => (compare a.id b.id).isLE

/-- The addresses of a listing in order. -/
def sortedAddresses (members : List Attestor) : List Address :=
  (members.map (·.address)).mergeSort fun a b => (compare a b).isLE

/-- What is wrong with a listing, if anything: it is empty, or else a weight is zero, the first
such attestor as listed being named, or else an id occurs twice, the least such id being named, or
else an address does, again the least. -/
def defect? (members : List Attestor) : Option AttestorSetError :=
  if members = [] then some .empty
  else match members.find? (·.weight = 0) with
    | some a => some (.zeroWeight a.id)
    | none => match firstRepeat? ((sortById members).map (·.id)) with
      | some id => some (.duplicateId id)
      | none => (firstRepeat? (sortedAddresses members)).map .duplicateAddress

theorem pairwise_id_sortById (members : List Attestor) :
    ((sortById members).map (·.id)).Pairwise fun a b => (compare a b).isLE := by
  refine List.pairwise_map.2 (List.pairwise_mergeSort (fun a b c => ?_) (fun a b => ?_) members)
  · exact fun h₁ h₂ => Std.TransOrd.isLE_trans h₁ h₂
  · rw [Std.OrientedOrd.eq_swap (a := b.id)]
    cases compare a.id b.id <;> rfl

theorem pairwise_sortedAddresses (members : List Attestor) :
    (sortedAddresses members).Pairwise fun a b => (compare a b).isLE := by
  refine List.pairwise_mergeSort (fun a b c => ?_) (fun a b => ?_) _
  · exact fun h₁ h₂ => Std.TransOrd.isLE_trans h₁ h₂
  · rw [Std.OrientedOrd.eq_swap (a := b)]
    cases compare a b <;> rfl

theorem sortById_perm (members : List Attestor) : (sortById members).Perm members :=
  List.mergeSort_perm ..

/-- A listing has no defect if it is not empty, its weights are positive, and nothing repeats among
its sorted ids and among its sorted addresses. -/
theorem defect?_eq_none {members : List Attestor} : defect? members = none ↔
    members ≠ [] ∧ (∀ a ∈ members, a.weight ≠ 0) ∧
      firstRepeat? ((sortById members).map (·.id)) = none ∧
      firstRepeat? (sortedAddresses members) = none := by
  have hweights : members.find? (·.weight = 0) = none ↔ ∀ a ∈ members, a.weight ≠ 0 := by simp
  rw [← hweights, defect?]
  by_cases hempty : members = []
  · simp [hempty]
  · rw [if_neg hempty, and_iff_right hempty]
    cases members.find? (·.weight = 0) with
    | some a => simp
    | none =>
      cases firstRepeat? ((sortById members).map (·.id)) with
      | some id => simp
      | none => simp

/-- The set of a listing, unless something is wrong with it. -/
def ofList (members : List Attestor) : Except AttestorSetError AttestorSet :=
  match h : defect? members with
  | some e => .error e
  | none => .ok
    { members := sortById members
      sorted := by
        obtain ⟨-, -, hids, -⟩ := defect?_eq_none.1 h
        exact pairwise_lt_of_firstRepeat? hids (pairwise_id_sortById members)
      nonempty := by
        obtain ⟨hnonempty, -⟩ := defect?_eq_none.1 h
        exact fun he => hnonempty (List.perm_nil.1 (he ▸ (sortById_perm members).symm))
      addresses_nodup := by
        obtain ⟨-, -, -, haddresses⟩ := defect?_eq_none.1 h
        have hlt := pairwise_lt_of_firstRepeat? haddresses (pairwise_sortedAddresses members)
        have hnodup : (sortedAddresses members).Nodup := hlt.imp fun hab he => by
          rw [he, Std.ReflOrd.compare_self] at hab
          contradiction
        exact (((sortById_perm members).map _).trans
          (List.mergeSort_perm ..).symm).nodup_iff.2 hnodup
      weight_ne_zero := by
        obtain ⟨-, hweights, -⟩ := defect?_eq_none.1 h
        exact fun a ha => hweights a ((sortById_perm members).mem_iff.1 ha) }

/-- The attestor registered under an id. -/
def find? (s : AttestorSet) (id : String) : Option Attestor :=
  bisect? (fun a => compare a.id id) s.members

/-- Whether an id is registered. -/
def contains (s : AttestorSet) (id : String) : Bool := (s.find? id).isSome

/-- The number of attestors. -/
def size (s : AttestorSet) : Nat := s.members.length

end AttestorSet

namespace AttestorSetError

/-- What is wrong, in words. -/
def reason : AttestorSetError → String
  | empty => "attestor set is empty"
  | zeroWeight id => s!"attestor `{id}` has zero weight"
  | duplicateId id => s!"duplicate attestor id `{id}`"
  | duplicateAddress address => s!"duplicate attestor address {address.checksummed}"

/-- The text of the error. -/
def message (e : AttestorSetError) : String := s!"invalid attestor set: {e.reason}"

end AttestorSetError

end Attestation

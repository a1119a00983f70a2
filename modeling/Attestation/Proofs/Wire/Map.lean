import Attestation.Proofs.OrderedMap
import Attestation.Proofs.Wire.Binary
import Attestation.Proofs.Wire.Text

/-!
# Maps read back

A map is written as the listing of its entries and read as the map of a listing, which for such a
listing is the map again (`OrderedMap.ofList_toList`). In the binary layout the listing is a list of
records; in the JSON text it is an object whose names are decimal numbers.
-/

namespace Attestation.WireFormat

open Json

variable {α : Type} {f : WireFormat α} {fits : α → Prop}

/-! ### The binary layout -/

/-- The binary layout of an entry. -/
def entry (f : WireFormat α) : WireFormat (UInt64 × α) :=
  (record (.cons "key" word (.cons "value" f .nil))).view (fun (k, a, ()) => (k, a))
    fun (k, a) => (k, a, ())

theorem Binary.entry (hf : f.Binary fits) : (entry f).Binary fun e => fits e.2 := by
  have hfields := codes_nil.cons "value" hf |>.cons "key" binary_word
  refine (hfields.record.view (fun _ => rfl) fun _ => rfl).congr fun e => ?_
  simp

private theorem entry_ofBytes (f : WireFormat α) (s : Bytes) :
    (entry f).ofBytes s = do
      let (k, rest) ← word.ofBytes s
      let (a, rest) ← f.ofBytes rest
      return ((k, a), rest) := by
  show (((word.ofBytes s >>= _) >>= _) : Except DecodeError _) = _
  cases word.ofBytes s with
  | error e => rfl
  | ok out =>
    show (((f.ofBytes out.2 >>= _) >>= _) >>= _ : Except DecodeError _) = (f.ofBytes out.2 >>= _)
    cases f.ofBytes out.2 <;> rfl

/-- The entries of a map are a list of records. -/
private theorem takeEntries_eq (f : WireFormat α) (n : Nat) (s : Bytes) :
    f.takeEntries n s = (entry f).takeMany n s := by
  induction n generalizing s with
  | zero => rfl
  | succ n ih => simp [takeEntries, takeMany, entry_ofBytes, ih]

private theorem map_toBytes (f : WireFormat α) (m : OrderedMap UInt64 α) :
    (map f).toBytes m = (list (entry f)).toBytes m.toList := by
  simp [map, list, entry, view, refine, record, Fields.cons, Fields.nil, OrderedMap.size,
    OrderedMap.toList]

/-- A map is read as a list of entries, of which the map is made. -/
private theorem map_ofBytes (f : WireFormat α) (s : Bytes) :
    (map f).ofBytes s =
      ((list (entry f)).refine (fun l => .ok (.ofList l)) OrderedMap.toList).ofBytes s := by
  show (takeNat 8 s >>= _) = ((takeNat 8 s >>= _) >>= _)
  cases takeNat 8 s with
  | error e => rfl
  | ok out =>
    show (f.takeEntries out.1 out.2 >>= _) = ((entry f).takeMany out.1 out.2 >>= _)
    rw [takeEntries_eq]
    rfl

/-- Maps are read back if the number of entries fits and so do the values. -/
theorem Binary.map (hf : f.Binary fits) :
    (map f).Binary fun m => Short m.toList ∧ ∀ e ∈ m.toList, fits e.2 := by
  have hview : ∀ m : OrderedMap UInt64 α,
      (.ok (.ofList m.toList) : Except DecodeError (OrderedMap UInt64 α)) = .ok m :=
    fun m => congrArg _ m.ofList_toList
  have hlist := hf.entry.list.refine hview fun l m hm hl => by
    obtain rfl := Except.ok.inj hm
    exact ⟨(OrderedMap.length_toList_ofList_le l).trans_lt hl.1, fun e he =>
      hl.2 e (OrderedMap.toList_ofList_subset he)⟩
  rw [Binary, funext (map_toBytes f), funext (map_ofBytes f)]
  exact hlist

/-! ### The JSON text -/

/-- The names and values of entries. -/
def entryMembers (f : WireFormat α) (l : List (UInt64 × α)) : List (Bytes × Json) :=
  l.map fun (k, a) => (decimal k.toNat, f.toJson a)

/-- One entry of an object is read: its number in quotes, a colon and its value. -/
private theorem takeNumbered_succ (hf : f.Textual) {k : UInt64} {a : α} {fuel : Nat} {s t : Bytes}
    (hs : skipBlanks s = 0x22 :: decimal k.toNat ++ 0x22 :: 0x3a :: ((f.toJson a).write ++ t))
    (ht : Ends t) :
    f.takeNumbered (fuel + 1) s =
      match skipBlanks t with
      | 0x2c :: rest => do
        let (entries, rest) ← f.takeNumbered fuel rest
        return ((k, a) :: entries, rest)
      | 0x7d :: rest => return ([(k, a)], rest)
      | _ => throw .malformed := by
  have hmark : passMark 0x22 s =
      .ok (decimal k.toNat ++ 0x22 :: 0x3a :: ((f.toJson a).write ++ t)) := passMark_of_eq hs
  have hkey :
      takeNumber UInt64.size (decimal k.toNat ++ 0x22 :: 0x3a :: ((f.toJson a).write ++ t)) =
        .ok (k.toNat, 0x22 :: 0x3a :: ((f.toJson a).write ++ t)) :=
    takeNumber_decimal k.toNat_lt ⟨rfl, by decide⟩
  have hvalue := hf.read_write (hf.opens a).append.skipBlanks_eq ht
  rw [takeNumbered, hmark, ok_bind, hkey, ok_bind]
  show (passMark 0x3a (0x3a :: _) >>= _) = _
  rw [passMark_of_eq rfl, ok_bind, hvalue, ok_bind]
  dsimp only
  rewrite [UInt64.ofNat_toNat]
  rfl

private theorem entries_eq_cons {l : List (UInt64 × α)} (hne : l ≠ []) :
    ∃ rest, writeMembers (entryMembers f l) = 0x22 :: rest :=
  writeMembers_eq_cons (mt List.map_eq_nil_iff.1 hne)

private theorem length_le_entries (l : List (UInt64 × α)) :
    l.length ≤ (writeMembers (entryMembers f l)).length := by
  have hle := length_le_writeMembers (entryMembers f l)
  rwa [entryMembers, List.length_map] at hle

/-- The entries of an object are read back one after the other. -/
private theorem takeNumbered_write (hf : f.Textual) {l : List (UInt64 × α)} {fuel : Nat}
    {s t : Bytes} (hne : l ≠ []) (hfuel : l.length ≤ fuel)
    (hs : skipBlanks s = writeMembers (entryMembers f l) ++ 0x7d :: t) :
    f.takeNumbered fuel s = .ok (l, t) := by
  -- by induction on the entries: each takes one unit of fuel and ends at a comma or at the brace
  induction l generalizing fuel s with
  | nil => contradiction
  | cons e l ih =>
    obtain ⟨k, a⟩ := e
    obtain ⟨fuel, rfl⟩ : ∃ n, fuel = n + 1 := ⟨fuel - 1, by simp at hfuel; omega⟩
    cases l with
    | nil =>
      rw [takeNumbered_succ hf (k := k) (a := a) (t := 0x7d :: t) ?_ ⟨rfl, by decide⟩]
      · rfl
      · rw [hs]
        simp [entryMembers, writeMembers]
    | cons e l =>
      rw [takeNumbered_succ hf (k := k) (a := a)
        (t := 0x2c :: (writeMembers (entryMembers f (e :: l)) ++ 0x7d :: t)) ?_ ⟨rfl, by decide⟩]
      · obtain ⟨rest, htext⟩ := entries_eq_cons (f := f) (l := e :: l) (by simp)
        refine bind_eq_ok.2 ⟨_, ih (by simp) (by simpa using hfuel) ?_, rfl⟩
        rw [htext]
        rfl
      · rw [hs]
        simp [entryMembers, writeMembers]

/-- Maps are read back from objects whose names are numbers. -/
theorem Textual.map (hf : f.Textual) : (map f).Textual where
  opens m := ⟨0x7b, _, rfl, rfl, by decide⟩
  read_write {m s t} hs _ := by
    have hs : skipBlanks s = 0x7b :: (writeMembers (entryMembers f m.toList) ++ 0x7d :: t) := by
      rw [hs]
      simp [WireFormat.map, write, entryMembers]
    refine bind_eq_ok.2 ⟨_, passMark_of_eq hs, ?_⟩
    by_cases hne : m.toList = []
    · obtain rfl : m = .empty := by rw [← m.ofList_toList, hne]; rfl
      rfl
    · obtain ⟨rest, htext⟩ := entries_eq_cons (f := f) hne
      have hfuel :
          m.toList.length ≤ (writeMembers (entryMembers f m.toList) ++ 0x7d :: t).length := by
        rw [List.length_append]
        exact Nat.le_add_right_of_le (length_le_entries m.toList)
      have hskip : skipBlanks (writeMembers (entryMembers f m.toList) ++ 0x7d :: t) =
          writeMembers (entryMembers f m.toList) ++ 0x7d :: t := by
        rw [htext]
        rfl
      have hentries := takeNumbered_write hf hne hfuel hskip
      rw [htext] at hentries ⊢
      refine bind_eq_ok.2 ⟨_, hentries, ?_⟩
      exact congrArg (fun m => Except.ok (m, t)) m.ofList_toList

end Attestation.WireFormat

import Attestation.Wire.Messages
import Attestation.Proofs.Except
import Attestation.Proofs.Wire.Tokens

/-!
# JSON texts read back

`Textual` says that every value of a format is read back from its JSON text, with blanks in front
and anything behind it that does not continue a number. Each way of building formats keeps the law.
The members of an object are read in their order, each into its own slot (`Fills`), for which the
names of a record have to differ.
-/

namespace Attestation.WireFormat

open Json

variable {α β : Type}

/-- How the text of a value begins: with no blank and not with the end of an array. -/
def Opens (text : Bytes) : Prop :=
  ∃ b rest, text = b :: rest ∧ isBlank b = false ∧ b ≠ 0x5d

theorem Opens.append {text t : Bytes} (h : Opens text) : Opens (text ++ t) := by
  obtain ⟨b, rest, rfl, hb⟩ := h
  exact ⟨b, rest ++ t, rfl, hb⟩

theorem Opens.skipBlanks_eq {text : Bytes} (h : Opens text) : skipBlanks text = text := by
  obtain ⟨b, rest, rfl, hblank, -⟩ := h
  exact skipBlanks_cons hblank

/-- Every value is read back from its JSON text. -/
structure Textual (f : WireFormat α) : Prop where
  opens (a : α) : Opens (f.toJson a).write
  read_write {a : α} {s t : Bytes} (hs : skipBlanks s = (f.toJson a).write ++ t) (ht : Ends t) :
    f.ofJson s = .ok (a, t)

/-- A mark is passed, with blanks in front of it. -/
theorem passMark_of_eq {mark : UInt8} {s t : Bytes} (hs : skipBlanks s = mark :: t) :
    passMark mark s = .ok t := by
  rw [passMark, hs]
  exact if_pos rfl

/-! ### Numbers and texts -/

private theorem isBlank_of_isDigit {b : UInt8} (h : isDigit b) : isBlank b = false := by
  rw [Bool.eq_false_iff]
  intro hblank
  simp only [isBlank, Bool.or_eq_true, decide_eq_true_iff] at hblank
  rcases hblank with ((rfl | rfl) | rfl) | rfl <;> contradiction

private theorem opens_decimal (n : Nat) : Opens (decimal n) := by
  obtain ⟨b, rest, hdecimal⟩ := List.exists_cons_of_ne_nil (decimal_ne_nil n)
  have hdigit : isDigit b := isDigit_of_mem_decimal (hdecimal ▸ List.mem_cons_self)
  refine ⟨b, rest, hdecimal, isBlank_of_isDigit hdigit, ?_⟩
  rintro rfl
  contradiction

/-- A number within the bound is read back from its digits. -/
theorem takeNumber_decimal {bound n : Nat} {t : Bytes} (hn : n < bound) (ht : Ends t) :
    takeNumber bound (decimal n ++ t) = .ok (n, t) := by
  refine bind_eq_ok.2 ⟨_, require_eq_ok.2 (scanNumber_decimal ht), ?_⟩
  exact bind_eq_ok.2 ⟨n, require_eq_ok.2 (natural?_decimal n), if_pos hn⟩

theorem textual_word : word.Textual where
  opens w := opens_decimal w.toNat
  read_write {w s t} hs ht := by
    refine bind_eq_ok.2 ⟨_, hs ▸ takeNumber_decimal w.toNat_lt ht, ?_⟩
    exact congrArg (fun w => Except.ok (w, t)) UInt64.ofNat_toNat

theorem textual_byte : byte.Textual where
  opens b := opens_decimal b.toNat
  read_write {b s t} hs ht := by
    refine bind_eq_ok.2 ⟨_, hs ▸ takeNumber_decimal b.toNat_lt ht, ?_⟩
    exact congrArg (fun b => Except.ok (b, t)) UInt8.ofNat_toNat

private theorem opens_ofString (text : String) : Opens (ofString text).write :=
  ⟨0x22, _, rfl, rfl, by decide⟩

private theorem write_ofString_append (text : String) (t : Bytes) :
    (ofString text).write ++ t = 0x22 :: escape (Bytes.ofText text) ++ 0x22 :: t := by
  simp [ofString, write]

/-- Texts are read back from between quotes. -/
theorem textual_text : text.Textual where
  opens := opens_ofString
  read_write {text s t} hs _ := by
    rw [show WireFormat.text.toJson text = ofString text from rfl, write_ofString_append] at hs
    refine bind_eq_ok.2 ⟨_, require_eq_ok.2 (takeString_escape hs), ?_⟩
    exact bind_eq_ok.2 ⟨text, require_eq_ok.2 (unquote?_escape text), rfl⟩

theorem textual_fixed (n : Nat) : (fixed n).Textual where
  opens a := opens_ofString a.toHex
  read_write {a s t} hs ht := by
    have hdigits := textual_text.read_write hs ht
    -- the digits stand between quotes, so this is not read as an array
    rw [show (fixed n).toJson a = ofString a.toHex from rfl, write_ofString_append] at hs
    rw [WireFormat.fixed]
    dsimp only
    rw [hs]
    refine bind_eq_ok.2 ⟨_, hdigits, ?_⟩
    refine bind_eq_ok.2 ⟨a, require_eq_ok.2 ?_, rfl⟩
    rw [FixedBytes.toHex, Bytes.ofHex?_toHex]
    exact dif_pos a.length_eq

/-! ### Lists -/

private theorem opens_writeItems {f : WireFormat α} (hf : f.Textual) {l : List α} (hne : l ≠ []) :
    Opens (writeItems (l.map f.toJson)) := by
  cases l with
  | nil => contradiction
  | cons a l =>
    cases l with
    | nil => exact hf.opens a
    | cons b l => exact (hf.opens a).append

/-- There is at least one byte to each element, so the bytes are fuel enough. -/
private theorem length_le_writeItems {f : WireFormat α} (hf : f.Textual) (l : List α) :
    l.length ≤ (writeItems (l.map f.toJson)).length := by
  induction l with
  | nil => exact Nat.le_refl 0
  | cons a l ih =>
    have hpos : 0 < (f.toJson a).write.length := by
      obtain ⟨b, rest, htext, -⟩ := hf.opens a
      simp [htext]
    cases l with
    | nil => exact hpos
    | cons b l =>
      simp only [List.map_cons, writeItems, List.length_append, List.length_cons] at ih ⊢
      omega

/-- The elements of an array are read back one after the other. -/
private theorem takeItems_write {f : WireFormat α} (hf : f.Textual) {l : List α} {fuel : Nat}
    {s t : Bytes} (hne : l ≠ []) (hfuel : l.length ≤ fuel)
    (hs : skipBlanks s = writeItems (l.map f.toJson) ++ 0x5d :: t) :
    f.takeItems fuel s = .ok (l, t) := by
  -- by induction on the items: each takes one unit of fuel and ends at a comma or at the bracket
  induction l generalizing fuel s with
  | nil => contradiction
  | cons a l ih =>
    obtain ⟨fuel, rfl⟩ : ∃ n, fuel = n + 1 := ⟨fuel - 1, by simp at hfuel; omega⟩
    cases l with
    | nil =>
      refine bind_eq_ok.2 ⟨_, hf.read_write hs ⟨rfl, by decide⟩, ?_⟩
      rfl
    | cons b l =>
      replace hs : skipBlanks s = (f.toJson a).write ++
          0x2c :: (writeItems ((b :: l).map f.toJson) ++ 0x5d :: t) := by
        rw [hs]
        simp [writeItems]
      refine bind_eq_ok.2 ⟨_, hf.read_write hs ⟨rfl, by decide⟩, ?_⟩
      refine bind_eq_ok.2 ⟨_, ih (by simp) (by simpa using hfuel) ?_, rfl⟩
      exact (opens_writeItems hf (by simp)).append.skipBlanks_eq

/-- Lists are read back from arrays. -/
theorem Textual.list {f : WireFormat α} (hf : f.Textual) : (list f).Textual where
  opens l := ⟨0x5b, _, rfl, rfl, by decide⟩
  read_write {l s t} hs _ := by
    have hs : skipBlanks s = 0x5b :: (writeItems (l.map f.toJson) ++ 0x5d :: t) := by
      rw [hs]
      simp [WireFormat.list, ofList, write]
    refine bind_eq_ok.2 ⟨_, passMark_of_eq hs, ?_⟩
    by_cases hne : l = []
    · subst hne
      rfl
    · have hopens : Opens (writeItems (l.map f.toJson) ++ 0x5d :: t) :=
        (opens_writeItems hf hne).append
      have hskip := hopens.skipBlanks_eq
      obtain ⟨b, rest, htext, -, hb⟩ := hopens
      rw [hskip]
      -- the first item opens with no bracket, so the array is not taken for an empty one
      split
      · rename_i h
        exact absurd (List.cons.inj (htext.symm.trans h)).1 hb
      · refine takeItems_write hf hne ?_ hskip
        have := length_le_writeItems hf l
        rw [List.length_append]
        omega

/-! ### Optional values and views -/

/-- A missing value is told apart if no value's text begins like `null`. -/
theorem Textual.optional {f : WireFormat α} (hf : f.Textual)
    (hnull : ∀ a rest, (f.toJson a).write ≠ 0x6e :: rest) : (optional f).Textual where
  opens o := by
    cases o with
    | none => exact ⟨0x6e, _, rfl, rfl, by decide⟩
    | some a => exact hf.opens a
  read_write {o s t} hs ht := by
    cases o with
    | none =>
      rw [WireFormat.optional]
      dsimp only
      rw [hs]
      rfl
    | some a =>
      have hread := hf.read_write (s := skipBlanks s) (by rw [skipBlanks_skipBlanks, hs]; rfl) ht
      rw [WireFormat.optional]
      dsimp only
      split
      · rename_i rest hskip
        obtain ⟨b, tail, htext, -⟩ := hf.opens a
        have htext' : (f.toJson a).write ++ t = _ := hs.symm.trans hskip
        rw [htext] at htext'
        obtain rfl := (List.cons.inj htext').1
        exact absurd htext (hnull a tail)
      · exact bind_eq_ok.2 ⟨_, hread, rfl⟩

/-- A check that passes what is written keeps the law. -/
theorem Textual.refine {f : WireFormat α} (hf : f.Textual) {check : α → Except DecodeError β}
    {view : β → α} (hview : ∀ b, check (view b) = .ok b) : (f.refine check view).Textual where
  opens b := hf.opens (view b)
  read_write {b s t} hs ht := by
    refine bind_eq_ok.2 ⟨_, hf.read_write hs ht, ?_⟩
    exact bind_eq_ok.2 ⟨b, hview b, rfl⟩

/-- The law passes to types that are the same but for their presentation. -/
theorem Textual.view {f : WireFormat α} (hf : f.Textual) {make : α → β} {view : β → α}
    (hmake : ∀ b, make (view b) = b) : (f.view make view).Textual :=
  hf.refine fun b => congrArg _ (hmake b)

/-! ### Records -/

/-- The members are read one after the other, each from its text into a slot. -/
inductive Fills (fs : Fields α) : List (String × Json) → fs.Slots → fs.Slots → Prop
  | nil {slots : fs.Slots} : Fills fs [] slots slots
  | cons {name : String} {value : Json} {members : List (String × Json)}
      {slots slots' slots'' : fs.Slots} (opens : Opens value.write)
      (fill : ∀ s t, skipBlanks s = value.write ++ t → Ends t →
        fs.fill name s slots = .ok (some (slots', t)))
      (rest : Fills fs members slots' slots'') : Fills fs ((name, value) :: members) slots slots''

/-- The text of members, whose names are escaped. -/
def membersText (members : List (String × Json)) : Bytes :=
  writeMembers (members.map fun (key, value) => (escape (Bytes.ofText key), value))

theorem writeMembers_eq_cons {members : List (Bytes × Json)} (hne : members ≠ []) :
    ∃ rest, writeMembers members = 0x22 :: rest := by
  cases members with
  | nil => contradiction
  | cons member members =>
    cases members with
    | nil => exact ⟨_, rfl⟩
    | cons member' members => exact ⟨_, rfl⟩

theorem length_le_writeMembers (members : List (Bytes × Json)) :
    members.length ≤ (writeMembers members).length := by
  induction members with
  | nil => exact Nat.le_refl 0
  | cons member members ih =>
    cases members with
    | nil => simp [writeMembers]
    | cons member' members =>
      simp only [writeMembers, List.length_append, List.length_cons] at ih ⊢
      omega

private theorem membersText_eq_cons {members : List (String × Json)} (hne : members ≠ []) :
    ∃ rest, membersText members = 0x22 :: rest :=
  writeMembers_eq_cons (mt List.map_eq_nil_iff.1 hne)

private theorem length_le_membersText (members : List (String × Json)) :
    members.length ≤ (membersText members).length := by
  have hle := length_le_writeMembers
    (members.map fun (key, value) => (escape (Bytes.ofText key), value))
  rwa [List.length_map] at hle

private theorem skipBlanks_membersText {members : List (String × Json)} (hne : members ≠ [])
    {t : Bytes} :
    skipBlanks (membersText members ++ t) = membersText members ++ t := by
  obtain ⟨rest, htext⟩ := membersText_eq_cons hne
  rw [htext]
  rfl

/-- One member of an object is read: its name in quotes, a colon and its value. -/
private theorem fillOne_write {fs : Fields α} {name : String} {value : Json}
    {slots slots' : fs.Slots} {s t : Bytes} (hopens : Opens value.write)
    (hfill : ∀ s t, skipBlanks s = value.write ++ t → Ends t →
      fs.fill name s slots = .ok (some (slots', t)))
    (hs : skipBlanks s = 0x22 :: escape (Bytes.ofText name) ++ 0x22 :: 0x3a :: (value.write ++ t))
    (ht : Ends t) : fs.fillOne s slots = .ok (slots', t) := by
  refine bind_eq_ok.2 ⟨_, require_eq_ok.2 (takeName_escape hs), ?_⟩
  refine bind_eq_ok.2 ⟨name, require_eq_ok.2 (unquote?_escape name), ?_⟩
  exact bind_eq_ok.2 ⟨_, hfill _ t hopens.append.skipBlanks_eq ht, rfl⟩

/-- The members of an object fill their slots one after the other. -/
theorem Fills.fillAll {fs : Fields α} {members : List (String × Json)} {slots slots' : fs.Slots}
    (h : Fills fs members slots slots') {fuel : Nat} {s t : Bytes} (hne : members ≠ [])
    (hfuel : members.length ≤ fuel)
    (hs : skipBlanks s = membersText members ++ 0x7d :: t) :
    fs.fillAll fuel s slots = .ok (slots', t) := by
  induction h generalizing fuel s with
  | nil => contradiction
  | @cons name value members slots slots₁ slots' opens fill rest ih =>
    obtain ⟨fuel, rfl⟩ : ∃ n, fuel = n + 1 := ⟨fuel - 1, by simp at hfuel; omega⟩
    cases members with
    | nil =>
      cases rest
      refine bind_eq_ok.2 ⟨_, fillOne_write opens fill (t := 0x7d :: t) ?_ ⟨rfl, by decide⟩, rfl⟩
      rw [hs]
      simp [membersText, writeMembers]
    | cons member members =>
      refine bind_eq_ok.2 ⟨_, fillOne_write opens fill
        (t := 0x2c :: membersText (member :: members) ++ 0x7d :: t) ?_ ⟨rfl, by decide⟩, ?_⟩
      · rw [hs]
        simp [membersText, writeMembers]
      · refine ih (by simp) (by simpa using hfuel) ?_
        exact skipBlanks_membersText (by simp)

private theorem write_ofMembers_append (members : List (String × Json)) (t : Bytes) :
    (ofMembers members).write ++ t = 0x7b :: (membersText members ++ 0x7d :: t) := by
  simp [ofMembers, write, membersText]

/-- An object is read back once its members have filled the slots. -/
theorem Fills.ofMembers {fs : Fields α} {members : List (String × Json)} {slots : fs.Slots} {a : α}
    (h : Fills fs members fs.start slots) (ha : fs.finish slots = .ok a) {s t : Bytes}
    (hs : skipBlanks s = (Json.ofMembers members).write ++ t) :
    fs.ofMembers s = .ok (a, t) := by
  rw [write_ofMembers_append] at hs
  refine bind_eq_ok.2 ⟨_, passMark_of_eq hs, ?_⟩
  by_cases hne : members = []
  · subst hne
    cases h
    exact bind_eq_ok.2 ⟨(fs.start, t), rfl, bind_eq_ok.2 ⟨a, ha, rfl⟩⟩
  · have hfuel : members.length ≤ (membersText members ++ 0x7d :: t).length := by
      rw [List.length_append]
      exact Nat.le_add_right_of_le (length_le_membersText members)
    have hall := h.fillAll hne hfuel (skipBlanks_membersText (t := 0x7d :: t) hne)
    obtain ⟨rest, htext⟩ := membersText_eq_cons hne
    rw [htext] at hall ⊢
    exact bind_eq_ok.2 ⟨(slots, t), hall, bind_eq_ok.2 ⟨a, ha, rfl⟩⟩

/-- Every record is read back from its members, which have the given names. -/
structure Fields.Textual (fs : Fields α) (names : List String) : Prop where
  names_eq (a : α) : (fs.toMembers a).map (·.1) = names
  fills (a : α) : ∃ slots, Fills fs (fs.toMembers a) fs.start slots ∧ fs.finish slots = .ok a

theorem textual_nil : Fields.nil.Textual [] where
  names_eq _ := rfl
  fills _ := ⟨(), .nil, rfl⟩

/-- Members of other names go past a field. -/
private theorem Fills.past {name : String} {f : WireFormat α} {fs : Fields β}
    {members : List (String × Json)} {slots slots' : fs.Slots} (h : Fills fs members slots slots')
    (hname : name ∉ members.map (·.1)) (o : Option α) :
    Fills (Fields.cons name f fs) members (o, slots) (o, slots') := by
  induction h with
  | nil => exact .nil
  | @cons key value members slots slots₁ slots' opens fill rest ih =>
    -- the field hands on what does not have its name
    rw [List.map_cons, List.mem_cons, not_or] at hname
    refine .cons opens (fun s t hs ht => ?_) (ih hname.2)
    refine (if_neg (Ne.symm hname.1)).trans ?_
    exact bind_eq_ok.2 ⟨_, fill s t hs ht, rfl⟩

/-- A further field keeps the law if its name is a new one. -/
theorem Fields.Textual.cons {fs : Fields β} {names : List String} (hfs : fs.Textual names)
    (name : String) {f : WireFormat α} (hf : f.Textual) (hname : name ∉ names) :
    (Fields.cons name f fs).Textual (name :: names) where
  names_eq a := congrArg (name :: ·) (hfs.names_eq a.2)
  fills a := by
    obtain ⟨slots, hfills, hfinish⟩ := hfs.fills a.2
    refine ⟨(some a.1, slots), .cons (hf.opens a.1) (fun s t hs ht => ?_)
      (hfills.past (hfs.names_eq a.2 ▸ hname) (some a.1)), ?_⟩
    · refine (if_pos rfl).trans ?_
      exact bind_eq_ok.2 ⟨_, hf.read_write hs ht, rfl⟩
    · exact bind_eq_ok.2 ⟨a.1, rfl, bind_eq_ok.2 ⟨a.2, hfinish, rfl⟩⟩

/-- Records are read back from objects. -/
theorem Fields.Textual.record {fs : Fields α} {names : List String} (h : fs.Textual names) :
    (record fs).Textual where
  opens a := ⟨0x7b, _, rfl, rfl, by decide⟩
  read_write {a s t} hs _ := by
    obtain ⟨slots, hfills, hfinish⟩ := h.fills a
    have hmembers := hfills.ofMembers hfinish hs
    -- the text opens with a brace, so it is not read as an array
    rw [show (WireFormat.record fs).toJson a = Json.ofMembers (fs.toMembers a) from rfl,
      write_ofMembers_append] at hs
    rw [WireFormat.record]
    dsimp only
    rw [hs]
    exact hmembers

/-! ### Choices -/

/-- A case is read back if its content is, or if there is only one. -/
def Case.Textual (c : Case α) : Prop :=
  match c.bare with
  | some only => ∀ a, a = only
  | none => c.content.Textual

theorem textual_unit (name : String) : (Case.unit name).Textual := fun _ => rfl

theorem Fields.Textual.case {fs : Fields α} {names : List String} (h : fs.Textual names)
    (name : String) : (Case.fields name fs).Textual := h.record

/-- A case is written as its name, or as an object with its content under its name. -/
private theorem Case.Textual.toJson_cases {c : Case α} (h : c.Textual) (a : α) :
    c.bare = some a ∧ c.toJson a = ofString c.name ∨
      c.content.Textual ∧ c.toJson a = ofMembers [(c.name, c.content.toJson a)] := by
  rw [Case.Textual] at h
  rw [Case.toJson]
  cases hbare : c.bare with
  | none =>
    rw [hbare] at h
    exact .inr ⟨h, rfl⟩
  | some only =>
    rw [hbare] at h
    exact .inl ⟨congrArg some (h a).symm, rfl⟩

private theorem Case.opens_toJson (c : Case α) (a : α) : Opens (c.toJson a).write := by
  rw [Case.toJson]
  split_ifs
  · exact opens_ofString c.name
  · exact ⟨0x7b, _, rfl, rfl, by decide⟩

section

variable {left : Case α} {right : Case β} {name : String} {s t : Bytes}

/-- A bare name is read as the case of that name. -/
private theorem choice_ofJson_name (hs : skipBlanks s = (ofString name).write ++ t) (ht : Ends t) :
    (choice left right).ofJson s =
      if name = left.name then (require left.bare).map fun a => (.inl a, t)
      else if name = right.name then (require right.bare).map fun b => (.inr b, t)
      else .error .malformed := by
  have htext := textual_text.read_write hs ht
  rw [write_ofString_append] at hs
  rw [WireFormat.choice]
  dsimp only
  rw [hs]
  refine (congrArg (· >>= _) htext).trans ?_
  rw [ok_bind]
  dsimp only
  split_ifs
  · cases left.bare <;> rfl
  · cases right.bare <;> rfl
  · rfl

/-- The one member of an object is read as the content of the case of its name. -/
private theorem choice_ofJson_member {value : Json}
    (hs : skipBlanks s = (ofMembers [(name, value)]).write ++ t) :
    (choice left right).ofJson s =
      if name = left.name then left.content.ofJson (value.write ++ 0x7d :: t) >>= fun out =>
        (passMark 0x7d out.2).map fun rest => (.inl out.1, rest)
      else if name = right.name then right.content.ofJson (value.write ++ 0x7d :: t) >>= fun out =>
        (passMark 0x7d out.2).map fun rest => (.inr out.1, rest)
      else .error .malformed := by
  have hmember : membersText [(name, value)] ++ 0x7d :: t =
      0x22 :: escape (Bytes.ofText name) ++ 0x22 :: 0x3a :: (value.write ++ 0x7d :: t) := by
    simp [membersText, writeMembers]
  rw [write_ofMembers_append, hmember] at hs
  rw [WireFormat.choice]
  dsimp only
  rw [hs]
  show (require (takeName (0x22 :: escape (Bytes.ofText name) ++ _)) >>= _) = _
  rw [takeName_escape rfl, require_eq_ok.2 rfl, ok_bind]
  dsimp only
  rw [unquote?_escape, require_eq_ok.2 rfl, ok_bind]
  have hend : ∀ {γ : Type} {wrap : γ → α ⊕ β} (out : γ × Bytes),
      (passMark 0x7d out.2 >>= fun rest => .ok (wrap out.1, rest)) =
        (passMark 0x7d out.2).map fun rest => (wrap out.1, rest) := by
    intro γ wrap out
    cases passMark 0x7d out.2 <;> rfl
  split_ifs
  · exact congrArg (left.content.ofJson _ >>= ·) (funext hend)
  · exact congrArg (right.content.ofJson _ >>= ·) (funext hend)
  · rfl

end

/-- A choice is read back by the name of its case, which the two have to differ in. -/
theorem Textual.choice {left : Case α} {right : Case β} (hleft : left.Textual)
    (hright : right.Textual) (hname : right.name ≠ left.name) : (choice left right).Textual where
  opens c := by
    cases c with
    | inl a => exact left.opens_toJson a
    | inr b => exact right.opens_toJson b
  read_write {c s t} hs ht := by
    have hends : Ends (0x7d :: t) := ⟨rfl, by decide⟩
    cases c with
    | inl a =>
      replace hs : skipBlanks s = (left.toJson a).write ++ t := hs
      rcases hleft.toJson_cases a with ⟨hbare, hjson⟩ | ⟨hcontent, hjson⟩
      · rw [hjson] at hs
        rw [choice_ofJson_name hs ht, if_pos rfl, hbare]
        rfl
      · rw [hjson] at hs
        rw [choice_ofJson_member hs, if_pos rfl]
        have hskip := ((hcontent.opens a).append (t := 0x7d :: t)).skipBlanks_eq
        exact bind_eq_ok.2 ⟨_, hcontent.read_write hskip hends, rfl⟩
    | inr b =>
      replace hs : skipBlanks s = (right.toJson b).write ++ t := hs
      rcases hright.toJson_cases b with ⟨hbare, hjson⟩ | ⟨hcontent, hjson⟩
      · rw [hjson] at hs
        rw [choice_ofJson_name hs ht, if_neg hname, if_pos rfl, hbare]
        rfl
      · rw [hjson] at hs
        rw [choice_ofJson_member hs, if_neg hname, if_pos rfl]
        have hskip := ((hcontent.opens b).append (t := 0x7d :: t)).skipBlanks_eq
        exact bind_eq_ok.2 ⟨_, hcontent.read_write hskip hends, rfl⟩

end Attestation.WireFormat

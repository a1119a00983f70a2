import Attestation.Proofs.Except
import Attestation.Wire.Messages

/-!
# Formats with a check

Two formats may differ in one part only, which the second reads as the first does and then checks
(`WireFormat.refine`). `WireFormat.Checked` says what this means for the whole: where the first
format reads something, the second comes to what the check makes of it, and where the first reads
nothing, neither does the second. The check is made in the middle of the input, so the two may then
fail for different reasons. The law passes from the part through the fields of records, whichever
form these are written in, up to the codecs (`Codec.checks_decode`).
-/

namespace Attestation

/-! ### Results with a check -/

section Results

variable {ε α α' β β' γ δ : Type} {check : α → Except ε β} {check' : α' → Except ε β'}
  {x x' : Except ε α} {y y' : Except ε β}

/-- `y` comes to what the check makes of the value of `x`, and fails if `x` does. -/
structure Checks (check : α → Except ε β) (x : Except ε α) (y : Except ε β) : Prop where
  eq_check {a : α} (h : x = .ok a) : y = check a
  exists_eq_ok {b : β} (h : y = .ok b) : ∃ a, x = .ok a

/-- A checked result is a value of the unchecked one that passes the check. -/
theorem Checks.eq_ok_iff (h : Checks check x y) {b : β} :
    y = .ok b ↔ ∃ a, x = .ok a ∧ check a = .ok b := by
  constructor
  · intro hy
    obtain ⟨a, hx⟩ := h.exists_eq_ok hy
    exact ⟨a, hx, h.eq_check hx ▸ hy⟩
  · rintro ⟨a, hx, hcheck⟩
    exact (h.eq_check hx).trans hcheck

theorem Checks.congr (h : Checks check x y) (hx : x' = x) (hy : y' = y) : Checks check x' y' :=
  hx ▸ hy ▸ h

/-- The check at once. -/
private theorem checks_bind (x : Except ε α) (check : α → Except ε β) :
    Checks check x (x >>= check) where
  eq_check h := h ▸ rfl
  exists_eq_ok h := by
    obtain ⟨a, hx, -⟩ := bind_eq_ok.1 h
    exact ⟨a, hx⟩

/-- A value that is known is what the check makes of it. -/
private theorem checks_ok {a : α} (h : y = check a) : Checks check (.ok a) y where
  eq_check ha := Except.ok.inj ha ▸ h
  exists_eq_ok _ := ⟨a, rfl⟩

/-- Where there is no value, none may come of it. -/
private theorem checks_error {e : ε} (h : ∀ b, y ≠ .ok b) : Checks check (.error e) y :=
  ⟨nofun, fun hy => absurd hy (h _)⟩

/-- Where there is no value, the other side may go on to none, either. -/
private theorem checks_error_bind {e : ε} {z : Except ε δ} {l : δ → Except ε β}
    (h : ∀ d b, l d ≠ .ok b) :
    Checks check (.error e) (z >>= l) := by
  refine checks_error fun b hy => ?_
  obtain ⟨d, -, hd⟩ := bind_eq_ok.1 hy
  exact h d b hd

/-- Two computations that go on after a check. -/
theorem Checks.bind (h : Checks check x y) {k : α → Except ε α'} {l : β → Except ε β'}
    (hk : ∀ a, Checks check' (k a) (check a >>= l)) : Checks check' (x >>= k) (y >>= l) where
  eq_check hx := by
    obtain ⟨a, hx, hka⟩ := bind_eq_ok.1 hx
    rw [h.eq_check hx]
    exact (hk a).eq_check hka
  exists_eq_ok hy := by
    obtain ⟨b, hy, hlb⟩ := bind_eq_ok.1 hy
    obtain ⟨a, hx, hcheck⟩ := h.eq_ok_iff.1 hy
    obtain ⟨a', hka⟩ := (hk a).exists_eq_ok (bind_eq_ok.2 ⟨b, hcheck, hlb⟩)
    exact ⟨a', bind_eq_ok.2 ⟨a, hx, hka⟩⟩

/-- A common step may come before or behind the check. -/
theorem Checks.after {p : Except ε γ} {k : γ → Except ε α} {z : Except ε δ}
    {l : δ → γ → Except ε β} (h : ∀ c, Checks check (k c) (z >>= fun d => l d c)) :
    Checks check (p >>= k) (z >>= fun d => p >>= l d) := by
  cases p with
  | error e => exact checks_error_bind fun _ _ h => nomatch h
  | ok c => exact h c

/-- A common first step. -/
theorem Checks.behind {p : Except ε γ} {k : γ → Except ε α} {l : γ → Except ε β}
    (h : ∀ c, Checks check (k c) (l c)) : Checks check (p >>= k) (p >>= l) :=
  Checks.after (z := .ok ()) (l := fun _ => l) h

/-- Checks the first of two values. -/
def checkFst (check : α → Except ε β) (a : α × γ) : Except ε (β × γ) := do
  return (← check a.1, a.2)

/-- Checks the second of two values. -/
def checkSnd (check : α → Except ε β) (a : γ × α) : Except ε (γ × β) := do
  return (a.1, ← check a.2)

/-- Checks a value if there is one. -/
def checkSome (check : α → Except ε β) : Option α → Except ε (Option β)
  | none => .ok none
  | some a => do return some (← check a)

theorem checkFst_bind {a : α} {c : γ} {l : β × γ → Except ε δ} :
    checkFst check (a, c) >>= l = check a >>= fun b => l (b, c) :=
  bind_assoc _ _ _

theorem checkSnd_bind {a : α} {c : γ} {l : γ × β → Except ε δ} :
    checkSnd check (c, a) >>= l = check a >>= fun b => l (c, b) :=
  bind_assoc _ _ _

private theorem checkSome_bind {a : α} {l : Option β → Except ε δ} :
    checkSome check (some a) >>= l = check a >>= fun b => l (some b) :=
  bind_assoc _ _ _

/-- A check of the first part of the first part is one check. -/
private theorem checkFst_checkFst {a : α} {c : γ} {d : δ} :
    checkFst (checkFst check) ((a, c), d) = check a >>= fun b => .ok ((b, c), d) :=
  bind_assoc _ _ _

private theorem checkFst_checkSnd {a : α} {c : γ} {d : δ} :
    checkFst (checkSnd check) ((c, a), d) = check a >>= fun b => .ok ((c, b), d) :=
  bind_assoc _ _ _

/-- A check passes through what the value is presented as. -/
private theorem checkFst_make {make : α → α'} {make' : β → β'}
    (hmake : ∀ a, check' (make a) = check a >>= fun b => .ok (make' b)) (a : α) (c : γ) :
    checkFst check' (make a, c) = check a >>= fun b => .ok (make' b, c) := by
  rw [checkFst, hmake, bind_assoc]
  rfl

/-- Two computations that go on after the first of two values has been checked. -/
theorem Checks.bindFst {x : Except ε (α × γ)} {y : Except ε (β × γ)}
    (h : Checks (checkFst check) x y) {k : α × γ → Except ε α'} {l : β × γ → Except ε β'}
    (hk : ∀ a c, Checks check' (k (a, c)) (check a >>= fun b => l (b, c))) :
    Checks check' (x >>= k) (y >>= l) :=
  h.bind fun (a, c) => (hk a c).congr rfl checkFst_bind

end Results

namespace WireFormat

variable {α α' β β' γ : Type} {check : α → Except DecodeError β} {f : WireFormat α}
  {g : WireFormat β}

/-- The second format reads what the first does and checks it. -/
structure Checked (check : α → Except DecodeError β) (f : WireFormat α) (g : WireFormat β) :
    Prop where
  absent_left : f.absent = none
  absent_right : g.absent = none
  ofJson (s : Bytes) : Checks (checkFst check) (f.ofJson s) (g.ofJson s)
  ofBytes (s : Bytes) : Checks (checkFst check) (f.ofBytes s) (g.ofBytes s)

/-- A format that is refined by a check reads what the format does and checks it. -/
theorem checked_refine (habsent : f.absent = none) (check : α → Except DecodeError β)
    (view : β → α) : Checked check f (f.refine check view) where
  absent_left := habsent
  absent_right := rfl
  ofJson s := checks_bind (f.ofJson s) (checkFst check)
  ofBytes s := checks_bind (f.ofBytes s) (checkFst check)

/-- The law passes to types that are the same but for their presentation. -/
theorem Checked.view (h : Checked check f g) {make : α → α'} {view : α' → α} {make' : β → β'}
    {view' : β' → β} {check' : α' → Except DecodeError β'}
    (hmake : ∀ a, check' (make a) = check a >>= fun b => .ok (make' b)) :
    Checked check' (f.view make view) (g.view make' view') where
  absent_left := rfl
  absent_right := rfl
  ofJson s := (h.ofJson s).bindFst fun a rest => checks_ok (checkFst_make hmake a rest).symm
  ofBytes s := (h.ofBytes s).bindFst fun a rest => checks_ok (checkFst_make hmake a rest).symm

/-! ### Fields -/

namespace Fields

/-- Reads the value of one member into its slot. An unknown member is skipped if its form is
right. -/
def fillSlot (fs : Fields α) (name : String) (s : Bytes) (slots : fs.Slots) :
    Except DecodeError (fs.Slots × Bytes) := do
  match ← fs.fill name s slots with
  | some filled => return filled
  | none =>
    let (_, rest) ← require (Json.read? s)
    return (slots, rest)

section Cons

variable {fs : Fields γ} {name key : String} {s : Bytes} {o : Option α} {slots : fs.Slots}

private theorem ofItems_cons {first : Bool} : (cons name f fs).ofItems first s =
    (if first then .ok s else passMark 0x2c s) >>= fun s => f.ofJson s >>= fun out =>
      fs.ofItems false out.2 >>= fun others => .ok ((out.1, others.1), others.2) := by
  cases first <;> rfl

/-- A member under the name of the first field fills its slot. -/
private theorem fillSlot_cons_self : (cons name f fs).fillSlot name s (none, slots) =
    f.ofJson s >>= fun out => .ok ((some out.1, slots), out.2) := by
  have hfill : (cons name f fs).fill name s (none, slots) =
      f.ofJson s >>= fun out => .ok (some ((some out.1, slots), out.2)) := if_pos rfl
  show (cons name f fs).fill name s (none, slots) >>= _ = _
  rw [hfill]
  cases f.ofJson s <;> rfl

private theorem fillSlot_cons_twice {a : α} :
    (cons name f fs).fillSlot name s (some a, slots) = .error .malformed := by
  have hfill : (cons name f fs).fill name s (some a, slots) = .error .malformed := if_pos rfl
  show (cons name f fs).fill name s (some a, slots) >>= _ = _
  rw [hfill]
  rfl

/-- A member under another name is left to the other fields. -/
private theorem fillSlot_cons_of_ne (h : key ≠ name) : (cons name f fs).fillSlot key s (o, slots) =
    fs.fillSlot key s slots >>= fun out => .ok ((o, out.1), out.2) := by
  have hfill : (cons name f fs).fill key s (o, slots) =
      fs.fill key s slots >>= fun r => .ok (r.map fun out => ((o, out.1), out.2)) := if_neg h
  show (cons name f fs).fill key s (o, slots) >>= _ = (fs.fill key s slots >>= _) >>= _
  rw [hfill]
  rcases fs.fill key s slots with _ | _ | filled
  · rfl
  · show (require (Json.read? s) >>= _) = (require (Json.read? s) >>= _) >>= _
    cases require (Json.read? s) <;> rfl
  · rfl

end Cons

/-- The second fields are read as the first ones are and checked, as are the slots. -/
structure Checked (check : α → Except DecodeError β) (fs : Fields α) (gs : Fields β)
    (slots : fs.Slots → Except DecodeError gs.Slots) : Prop where
  start : slots fs.start = .ok gs.start
  fillSlot (name : String) (s : Bytes) (st : fs.Slots) :
    Checks (checkFst slots) (fs.fillSlot name s st) (slots st >>= gs.fillSlot name s)
  finish (st : fs.Slots) : Checks check (fs.finish st) (slots st >>= gs.finish)
  ofItems (first : Bool) (s : Bytes) :
    Checks (checkFst check) (fs.ofItems first s) (gs.ofItems first s)
  ofBytes (s : Bytes) : Checks (checkFst check) (fs.ofBytes s) (gs.ofBytes s)

/-- A field with a check in front of plain ones. -/
theorem checked_cons (hf : WireFormat.Checked check f g) (name : String) (fs : Fields γ) :
    Checked (checkFst check) (.cons name f fs) (.cons name g fs)
      (checkFst (checkSome check)) where
  start := rfl
  fillSlot key s := fun (o, slots) => by
    refine Checks.congr ?_ rfl checkFst_bind
    by_cases hkey : key = name
    · subst hkey
      cases o with
      | none =>
        refine Checks.congr ?_ fillSlot_cons_self (fillSlot_cons_self (f := g))
        refine (hf.ofJson s).bindFst fun a rest => checks_ok ?_
        exact (checkFst_checkFst.trans checkSome_bind).symm
      | some a =>
        -- a second member under the name is refused with or without the check
        refine Checks.congr (checks_error_bind fun b out h => ?_) fillSlot_cons_twice checkSome_bind
        exact nomatch fillSlot_cons_twice.symm.trans h
    · refine Checks.congr ?_ (fillSlot_cons_of_ne hkey)
        (bind_congr fun o' => fillSlot_cons_of_ne hkey)
      exact .after fun out => checks_ok checkFst_checkFst.symm
  finish := fun (o, slots) => by
    refine Checks.congr ?_ rfl checkFst_bind
    cases o with
    | none =>
      show Checks _ (require f.absent >>= _) (require g.absent >>= _)
      rw [hf.absent_left, hf.absent_right]
      exact checks_error nofun
    | some a =>
      refine Checks.congr (x := fs.finish slots >>= fun c => .ok (a, c))
        (y := check a >>= fun b => fs.finish slots >>= fun c => .ok (b, c)) ?_ rfl checkSome_bind
      exact .after fun c => checks_ok rfl
  ofItems first s := by
    refine Checks.congr (.behind fun s => ?_) ofItems_cons ofItems_cons
    exact (hf.ofJson s).bindFst fun a rest => .after fun out => checks_ok checkFst_checkFst.symm
  ofBytes s := (hf.ofBytes s).bindFst fun a rest =>
    .after fun out => checks_ok checkFst_checkFst.symm

/-- A plain field in front of fields with a check. -/
theorem Checked.behind {fs : Fields α} {gs : Fields β}
    {slots : fs.Slots → Except DecodeError gs.Slots} (h : Checked check fs gs slots)
    (name : String) (f : WireFormat γ) :
    Checked (checkSnd check) (.cons name f fs) (.cons name f gs) (checkSnd slots) where
  start := by
    show checkSnd slots (none, fs.start) = _
    rw [checkSnd, h.start]
    rfl
  fillSlot key s := fun (o, st) => by
    refine Checks.congr ?_ rfl checkSnd_bind
    by_cases hkey : key = name
    · subst hkey
      cases o with
      | none =>
        refine Checks.congr ?_ fillSlot_cons_self (bind_congr fun st' => fillSlot_cons_self)
        exact .after fun out => checks_ok checkFst_checkSnd.symm
      | some c =>
        refine Checks.congr (checks_error_bind fun st' out h => ?_) fillSlot_cons_twice rfl
        exact nomatch fillSlot_cons_twice.symm.trans h
    · refine Checks.congr ?_ (fillSlot_cons_of_ne hkey)
        ((bind_congr fun o' => fillSlot_cons_of_ne hkey).trans (bind_assoc _ _ _).symm)
      exact (h.fillSlot key s st).bindFst fun st' rest => checks_ok checkFst_checkSnd.symm
  finish := fun (o, st) => by
    refine Checks.congr ?_ rfl checkSnd_bind
    refine .after (p := require (o <|> f.absent)) fun c => ?_
    refine Checks.congr ?_ rfl (bind_assoc _ _ _).symm
    exact (h.finish st).bind fun a => checks_ok rfl
  ofItems first s := by
    refine Checks.congr (.behind fun s => .behind fun out => ?_) ofItems_cons ofItems_cons
    exact (h.ofItems false out.2).bindFst fun a rest => checks_ok checkFst_checkSnd.symm
  ofBytes s := by
    refine .behind (p := f.ofBytes s) fun out => ?_
    exact (h.ofBytes out.2).bindFst fun a rest => checks_ok checkFst_checkSnd.symm

/-! ### Records -/

section Record

variable {fs : Fields α} {gs : Fields β} {slots : fs.Slots → Except DecodeError gs.Slots}

/-- Members in any order are read as without the check, and the slots are checked. -/
theorem Checked.fillAll (h : Checked check fs gs slots) (fuel : Nat) (s : Bytes) (st : fs.Slots) :
    Checks (checkFst slots) (fs.fillAll fuel s st) (slots st >>= gs.fillAll fuel s) := by
  induction fuel generalizing s st with
  | zero => exact checks_error_bind fun _ _ h => nomatch h
  | succ fuel ih =>
    have hone : Checks (checkFst slots) (fs.fillOne s st) (slots st >>= gs.fillOne s) :=
      .after fun out => .after fun name => h.fillSlot name out.2 st
    refine Checks.congr (hone.bindFst fun st' rest => ?_) rfl (bind_assoc _ _ _).symm
    dsimp only
    split
    · exact ih _ st'
    · exact checks_ok rfl
    · exact checks_error_bind fun _ _ h => nomatch h

/-- An object is read as without the check, and the record is checked. -/
theorem Checked.ofMembers (h : Checked check fs gs slots) (s : Bytes) :
    Checks (checkFst check) (fs.ofMembers s) (gs.ofMembers s) := by
  have hfinish (st : fs.Slots) (rest : Bytes) : Checks (checkFst check)
      (fs.finish st >>= fun a => .ok (a, rest))
      (slots st >>= fun st => gs.finish st >>= fun b => .ok (b, rest)) :=
    .congr ((h.finish st).bind fun a => checks_ok rfl) rfl (bind_assoc _ _ _).symm
  refine .behind fun s => ?_
  dsimp only
  split
  · have hempty := hfinish fs.start
    rw [h.start] at hempty
    exact hempty _
  · have hall := h.fillAll (Json.skipBlanks s).length (Json.skipBlanks s) fs.start
    rw [h.start] at hall
    exact hall.bindFst hfinish

/-- Records keep the law in both forms and both codecs. -/
theorem Checked.record (h : Checked check fs gs slots) :
    WireFormat.Checked check (record fs) (record gs) where
  absent_left := rfl
  absent_right := rfl
  ofJson s := by
    rw [WireFormat.record, WireFormat.record]
    dsimp only
    split
    · exact (h.ofItems true _).bindFst fun a rest => .after fun rest => checks_ok rfl
    · exact h.ofMembers s
  ofBytes := h.ofBytes

end Record

end Fields

end WireFormat

/-! ### Codecs -/

/-- What a codec decodes is what it decodes without the check, checked. -/
theorem Codec.checks_decode {α β : Type} {check : α → Except DecodeError β} {f : WireFormat α}
    {g : WireFormat β} (h : WireFormat.Checked check f g) (codec : Codec) (bytes : Bytes) :
    Checks check (codec.decode f bytes) (codec.decode g bytes) := by
  cases codec with
  | json =>
    refine (h.ofJson bytes).bindFst fun a rest => ?_
    dsimp only
    split
    · exact checks_ok (bind_pure _)
    · exact checks_error_bind fun _ _ h => nomatch h
  | binary =>
    refine Checks.congr ?_ map_eq_bind map_eq_bind
    exact (h.ofBytes bytes).bindFst fun a rest => checks_ok (bind_pure _)

end Attestation

import Attestation.Wire.Json
import Attestation.Proofs.Bytes
import Mathlib.Data.List.DropRight
import Mathlib.Data.List.TakeDrop
import Mathlib.Tactic.IntervalCases

/-!
# The tokens of a JSON text read back

A string is read byte by byte in the pieces in which it was written (`Piece`), so that it ends at
its closing quote and nowhere before (`scanString_escape`) and what stands between the quotes is the
text again (`unquote?_escape`). A number ends where its digits do, if what follows does not continue
a number (`scanNumber_decimal`).
-/

namespace Attestation.Json

/-! ### Blanks -/

theorem skipBlanks_cons {b : UInt8} {s : Bytes} (h : isBlank b = false) :
    skipBlanks (b :: s) = b :: s := by
  rw [skipBlanks, List.dropWhile_cons, h]
  rfl

@[simp]
theorem skipBlanks_skipBlanks (s : Bytes) : skipBlanks (skipBlanks s) = skipBlanks s :=
  List.dropWhile_idempotent isBlank s

/-- Blanks in front make no difference. -/
theorem skipBlanks_append {blanks : Bytes} (h : ∀ b ∈ blanks, isBlank b) (s : Bytes) :
    skipBlanks (blanks ++ s) = skipBlanks s :=
  List.dropWhile_append_of_pos h

theorem skipBlanks_eq_nil {blanks : Bytes} (h : ∀ b ∈ blanks, isBlank b) :
    skipBlanks blanks = [] :=
  List.dropWhile_eq_nil_iff.2 h

/-! ### Strings -/

/-- How a byte of a text is written between quotes: as itself, by a letter or by its digits. -/
inductive Piece (b : UInt8) : Bytes → Prop
  | itself (printable : 0x20 ≤ b) (noQuote : b ≠ 0x22) (noEscape : b ≠ 0x5c) : Piece b [b]
  | letter {c : UInt8} (value : escaped? c = some b) : Piece b [0x5c, c]
  | digits {high low : UInt8} (hex : isHexDigit high ∧ isHexDigit low)
      (value : hex4? 0x30 0x30 high low = some b.toNat) (control : b.toNat < 0x20) :
      Piece b [0x5c, 0x75, 0x30, 0x30, high, low]

/-- The two digits of a control character. -/
private theorem digits_control : ∀ n < 32,
    isHexDigit (UInt8.ofNat (Bytes.hexDigit (n / 16)).toNat) ∧
    isHexDigit (UInt8.ofNat (Bytes.hexDigit (n % 16)).toNat) ∧
    hex4? 0x30 0x30 (UInt8.ofNat (Bytes.hexDigit (n / 16)).toNat)
      (UInt8.ofNat (Bytes.hexDigit (n % 16)).toNat) = some n := by
  decide

/-- Every byte is written in a piece. -/
private theorem piece_escapeByte (b : UInt8) : Piece b (escapeByte b) := by
  rw [escapeByte]
  split_ifs with hquote hescape h₈ h₉ h₁₀ h₁₂ h₁₃ hcontrol
  · exact .letter (by rw [hquote]; rfl)
  · exact .letter (by rw [hescape]; rfl)
  · exact .letter (h₈ ▸ rfl)
  · exact .letter (h₉ ▸ rfl)
  · exact .letter (h₁₀ ▸ rfl)
  · exact .letter (h₁₂ ▸ rfl)
  · exact .letter (h₁₃ ▸ rfl)
  · obtain ⟨hhigh, hlow, hvalue⟩ := digits_control b.toNat (UInt8.lt_iff_toNat_lt.1 hcontrol)
    exact .digits ⟨hhigh, hlow⟩ hvalue (UInt8.lt_iff_toNat_lt.1 hcontrol)
  · exact .itself (UInt8.not_lt.1 hcontrol) hquote hescape

/-- A scan passes over a piece: no quote in it ends the string. -/
theorem Piece.scanString {b : UInt8} {w s raw rest : Bytes} (h : Piece b w)
    (hs : scanString s = some (raw, rest)) : scanString (w ++ s) = some (w ++ raw, rest) := by
  cases h with
  | itself printable noQuote noEscape =>
    simp [Json.scanString, noEscape, printable, hs]
  | @letter c value =>
    have hc : c ≠ 0x75 := fun h => by rw [h] at value; contradiction
    simp [Json.scanString, hc, hs, value]
  | digits hex value control =>
    simp [Json.scanString, hs, hex, show isHexDigit 0x30 from rfl]

/-- A scan ends at the closing quote. -/
theorem scanString_escape (text t : Bytes) :
    scanString (escape text ++ 0x22 :: t) = some (escape text, t) := by
  induction text with
  | nil => rfl
  | cons b text ih =>
    rw [escape, List.flatMap_cons, List.append_assoc]
    exact (piece_escapeByte b).scanString ih

/-- A piece stands for its byte. -/
theorem Piece.unescape? {b : UInt8} {w s text : Bytes} (h : Piece b w)
    (hs : unescape? s = some text) : unescape? (w ++ s) = some (b :: text) := by
  cases h with
  | itself printable noQuote noEscape =>
    simp [Json.unescape?, noEscape, hs]
  | @letter c value =>
    have hc : c ≠ 0x75 := fun h => by rw [h] at value; contradiction
    simp [Json.unescape?, hc, value, hs]
  | digits hex value control =>
    -- a control character is no surrogate and is its own UTF-8 form
    have hlow : ¬ (0xd800 ≤ b.toNat ∧ b.toNat < 0xdc00) := by omega
    have hhigh : ¬ (0xdc00 ≤ b.toNat ∧ b.toNat < 0xe000) := by omega
    have hutf8 : utf8 b.toNat = [b] := by rw [utf8, if_pos (by omega), UInt8.ofNat_toNat]
    simp [Json.unescape?, value, hs, hlow, hhigh, hutf8]

private theorem unescape?_escape (text : Bytes) : unescape? (escape text) = some text := by
  induction text with
  | nil => rfl
  | cons b text ih => exact (piece_escapeByte b).unescape? ih

/-- A text is read back from between its quotes. -/
theorem unquote?_escape (text : String) : unquote? (escape (Bytes.ofText text)) = some text := by
  rw [unquote?, unescape?_escape]
  exact Bytes.toText?_ofText text

theorem takeString_escape {s t text : Bytes} (h : skipBlanks s = 0x22 :: escape text ++ 0x22 :: t) :
    takeString s = some (escape text, t) := by
  rw [takeString, h]
  exact scanString_escape text t

/-- A name is taken off the front with its colon. -/
theorem takeName_escape {s t text : Bytes}
    (h : skipBlanks s = 0x22 :: escape text ++ 0x22 :: 0x3a :: t) :
    takeName s = some (escape text, t) := by
  rw [takeName, takeString_escape h]
  rfl

/-! ### Numbers -/

/-- What may follow a value: it continues no number. -/
def Ends : Bytes → Prop
  | [] => True
  | b :: _ => isDigit b = false ∧ b ≠ 0x2e ∧ b ≠ 0x65 ∧ b ≠ 0x45

theorem ends_of_blanks {blanks : Bytes} (h : ∀ b ∈ blanks, isBlank b) : Ends blanks := by
  cases blanks with
  | nil => trivial
  | cons b blanks =>
    have hblank := h b List.mem_cons_self
    simp only [isBlank, Bool.or_eq_true, decide_eq_true_iff] at hblank
    rcases hblank with ((rfl | rfl) | rfl) | rfl <;> exact ⟨rfl, by decide⟩

/-- A scan for digits ends where they do. -/
private theorem scanDigits_append {digits t : Bytes} (hne : digits ≠ [])
    (hdigits : ∀ b ∈ digits, isDigit b) (ht : Ends t) :
    scanDigits (digits ++ t) = some (digits, t) := by
  have hstop : t.takeWhile isDigit = [] ∧ t.dropWhile isDigit = t := by
    cases t with
    | nil => exact ⟨rfl, rfl⟩
    | cons b t => simp [ht.1]
  have hspan : (digits ++ t).span isDigit = (digits, t) := by
    rw [List.span_eq_takeWhile_dropWhile, List.takeWhile_append_of_pos hdigits,
      List.dropWhile_append_of_pos hdigits, hstop.1, hstop.2, List.append_nil]
  cases digits with
  | nil => contradiction
  | cons b digits => rw [scanDigits, hspan]

private theorem scanFraction_of_ends {t : Bytes} (ht : Ends t) : scanFraction t = some ([], t) := by
  cases t with
  | nil => rfl
  | cons b t => simp [scanFraction, ht.2.1]

private theorem scanExponent_of_ends {t : Bytes} (ht : Ends t) : scanExponent t = some ([], t) := by
  cases t with
  | nil => rfl
  | cons b t => simp [scanExponent, ht.2.2.1, ht.2.2.2]

/-! ### Decimal digits -/

private theorem toNat_bounds {c : Char} (h : c.isDigit) : 48 ≤ c.toNat ∧ c.toNat ≤ 57 := by
  simpa [Char.isDigit, UInt32.le_iff_toNat_le] using h

theorem isDigit_of_mem_decimal {n : Nat} {b : UInt8} (h : b ∈ decimal n) : isDigit b := by
  obtain ⟨c, hc, rfl⟩ := List.mem_map.1 h
  obtain ⟨hlow, hhigh⟩ := toNat_bounds (Nat.isDigit_of_mem_toDigits (by decide) (by decide) hc)
  have hvalue : (UInt8.ofNat c.toNat).toNat = c.toNat := by
    rw [UInt8.toNat_ofNat', Nat.mod_eq_of_lt (by omega)]
  simp [isDigit, UInt8.le_iff_toNat_le, hvalue, hlow, hhigh]

theorem decimal_ne_nil (n : Nat) : decimal n ≠ [] := by
  simp [decimal, Nat.toDigits_ne_nil]

private theorem decimal_zero : decimal 0 = [0x30] := rfl

/-- Only zero begins with a zero. -/
private theorem decimal_of_pos {n : Nat} (h : 0 < n) :
    ∃ first rest, decimal n = first :: rest ∧ first ≠ 0x30 := by
  induction n using Nat.strongRecOn with
  | ind n ih =>
    rw [decimal, Nat.toDigits_eq_if (by decide)]
    split_ifs with hsmall
    · refine ⟨_, [], rfl, ?_⟩
      interval_cases n <;> decide
    · obtain ⟨first, rest, hdecimal, hfirst⟩ := ih (n / 10) (by omega) (by omega)
      rw [List.map_append, ← decimal, hdecimal]
      exact ⟨first, _, rfl, hfirst⟩

/-- A scan for a number ends where its digits do. -/
theorem scanNumber_decimal {n : Nat} {t : Bytes} (ht : Ends t) :
    scanNumber (decimal n ++ t) = some (decimal n, t) := by
  have hwhole : scanUnsigned (decimal n ++ t) = some (decimal n, t) := by
    rcases Nat.eq_zero_or_pos n with rfl | hpos
    · simp [scanUnsigned, decimal_zero, scanFraction_of_ends ht, scanExponent_of_ends ht]
    · obtain ⟨first, rest, hdecimal, hfirst⟩ := decimal_of_pos hpos
      have hdigits : scanDigits (decimal n ++ t) = some (decimal n, t) :=
        scanDigits_append (decimal_ne_nil n) (fun _ hb => isDigit_of_mem_decimal hb) ht
      rw [hdecimal, List.cons_append] at hdigits ⊢
      simp [scanUnsigned, hfirst, hdigits, scanFraction_of_ends ht, scanExponent_of_ends ht]
  obtain ⟨b, rest, hdecimal⟩ := List.exists_cons_of_ne_nil (decimal_ne_nil n)
  have hsign : b ≠ 0x2d := fun h => by
    have hdigit : isDigit b := isDigit_of_mem_decimal (hdecimal ▸ List.mem_cons_self)
    rw [h] at hdigit
    contradiction
  rw [hdecimal, List.cons_append] at hwhole ⊢
  rw [scanNumber, hwhole]
  exact fun _ h => hsign (List.cons.inj h).1

/-- A number is read back from its digits. -/
theorem natural?_decimal (n : Nat) : natural? (decimal n) = some n := by
  rcases Nat.eq_zero_or_pos n with rfl | hpos
  · rfl
  obtain ⟨first, rest, hdecimal, hfirst⟩ := decimal_of_pos hpos
  have hall : (decimal n).all isDigit := List.all_eq_true.2 fun b hb => isDigit_of_mem_decimal hb
  have hvalue : (decimal n).foldl (fun n b => 10 * n + (b.toNat - 0x30)) 0 = n := by
    rw [decimal, List.foldl_map, List.foldl_ext _ (fun n c => 10 * n + (c.toNat - '0'.toNat))]
    · exact Nat.ofDigitChars_toDigits (by decide) (by decide)
    · intro m c hc
      have hbounds := toNat_bounds (Nat.isDigit_of_mem_toDigits (by decide) (by decide) hc)
      rw [UInt8.toNat_ofNat', Nat.mod_eq_of_lt (by omega)]
      rfl
  rw [hdecimal] at hall hvalue ⊢
  rw [natural?, if_pos ⟨hfirst, hall⟩, hvalue]
  exact fun h _ => hfirst h

end Attestation.Json

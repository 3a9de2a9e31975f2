import Mathlib.Tactic.SplitIfs
import Stratalog.Json.Reader
import Stratalog.Json.Writer

/-!
# Reading written tokens

A quoted text that was written is read back, whatever characters it holds, and so is a whole number
of sixty-four bits, positive or negative. What follows the text may be anything; what follows the
number must not go on with it.
-/

namespace Stratalog.Json

section Text

variable {quoted : Quoted} {c letter : Char} {rest : List Char}

/-- A hexadecimal digit has its value. -/
theorem digit?_hexDigit : ∀ n < 16, Text.digit? 16 (hexDigit n) = some n := by
  decide

/-- A control character is read from its number. -/
theorem digits?_hexDigit {n : Nat} (h : n < 0x20) :
    Text.digits? 16 ['0', '0', hexDigit (n / 16), hexDigit (n % 16)] = some n := by
  have hzero : Text.digit? 16 '0' = some 0 := rfl
  have hhigh := digit?_hexDigit (n / 16) (by omega)
  have hlow := digit?_hexDigit (n % 16) (by omega)
  have hsum : 16 * (n / 16) + n % 16 = n := Nat.div_add_mod n 16
  simp [Text.digits?, Text.digitsFrom?, hzero, hhigh, hlow, hsum]

/-- An escape of one letter is read as what it stands for. -/
theorem readChars_escape (hletter : letter ≠ 'u') (h : escaped? letter = some c) :
    readChars quoted ('\\' :: letter :: rest) = readChars (quoted.push c) rest := by
  rw [readChars, h]
  exact fun _ _ _ _ _ hu => absurd hu hletter

/-- A numbered control character is read as that character. -/
theorem readChars_numbered (h : c.toNat < 0x20) :
    readChars quoted ('\\' :: 'u' :: '0' :: '0' :: hexDigit (c.toNat / 16) ::
      hexDigit (c.toNat % 16) :: rest) = readChars (quoted.push c) rest := by
  have hunit : quoted.pushUnit c.toNat = quoted.push c := by
    have hhigh : isHighSurrogate c.toNat = false := by
      simp only [isHighSurrogate, Bool.and_eq_false_iff, decide_eq_false_iff_not]
      omega
    have hlow : isLowSurrogate c.toNat = false := by
      simp only [isLowSurrogate, Bool.and_eq_false_iff, decide_eq_false_iff_not]
      omega
    rw [Quoted.pushUnit, hhigh, hlow, Char.ofNat_toNat]
    rfl
  rw [readChars, digits?_hexDigit h]
  simp only [hunit]

/-- A character that needs no escape is read as itself. -/
theorem readChars_bare (hquote : c ≠ '"') (hslash : c ≠ '\\') (hcontrol : ¬ c.toNat < 0x20) :
    readChars quoted (c :: rest) = readChars (quoted.push c) rest := by
  rw [readChars, if_neg (by simp [hslash, hcontrol])]
  all_goals simp_all

/-- A written character is read as itself. -/
theorem readChars_escapeChar (quoted : Quoted) (c : Char) (rest : List Char) :
    readChars quoted (escapeChar c ++ rest) = readChars (quoted.push c) rest := by
  unfold escapeChar
  split_ifs with hquote hslash hline hreturn htab hback hfeed hcontrol
  · exact readChars_escape (by decide) (by rw [hquote]; rfl)
  · exact readChars_escape (by decide) (by rw [hslash]; rfl)
  · exact readChars_escape (by decide) (by rw [hline]; rfl)
  · exact readChars_escape (by decide) (by rw [hreturn]; rfl)
  · exact readChars_escape (by decide) (by rw [htab]; rfl)
  · exact readChars_escape (by decide) (by rw [hback]; rfl)
  · exact readChars_escape (by decide) (by rw [hfeed]; rfl)
  · exact readChars_numbered hcontrol
  · exact readChars_bare hquote hslash hcontrol

/-- Written characters are read behind those read before. -/
theorem readChars_writeChars (read cs rest : List Char) :
    readChars { read := some read } (writeChars ('"' :: rest) cs) =
      some (some (String.ofList (read.reverse ++ cs)), rest) := by
  induction cs generalizing read with
  | nil => simp [writeChars, readChars, Quoted.text?]
  | cons c cs ih =>
    have hpush : ({ read := some read } : Quoted).push c = { read := some (c :: read) } := rfl
    rw [writeChars, readChars_escapeChar, hpush, ih, List.reverse_cons, List.append_assoc]
    rfl

/-- A written text is read back. -/
theorem readChars_writeString (text : String) (rest : List Char) :
    readChars {} (writeChars ('"' :: rest) text.toList) = some (some text, rest) := by
  rw [readChars_writeChars, List.reverse_nil, List.nil_append, String.ofList_toList]

end Text

section Number

/-- Whether what follows a number does not go on with it. -/
def EndsNumber (rest : List Char) : Prop :=
  ∀ c ∈ rest.head?, Text.digit? 10 c = none ∧ c ≠ '.' ∧ c ≠ 'e' ∧ c ≠ 'E'

/-- The values of decimal digits. -/
def digitValues (digits : List Char) : List Nat :=
  digits.map fun c => c.toNat - '0'.toNat

/-- A decimal digit has a value. -/
theorem digit?_of_isDigit {c : Char} (h : c.isDigit = true) :
    Text.digit? 10 c = some (c.toNat - '0'.toNat) := by
  have hrange : '0' ≤ c ∧ c ≤ '9' := by
    simpa [Char.isDigit, Char.le_def] using h
  have hle : c.toNat ≤ '9'.toNat := hrange.2
  have hlt : c.toNat - '0'.toNat < 10 := Nat.lt_succ_of_le (Nat.sub_le_sub_right hle _)
  rw [Text.digit?, if_pos hrange, Option.filter_some, if_pos (decide_eq_true hlt)]

/-- The digits in front of a text that begins with none are all read. -/
theorem spanDigits_append {digits rest : List Char} (hdigits : ∀ c ∈ digits, c.isDigit = true)
    (hrest : ∀ c ∈ rest.head?, Text.digit? 10 c = none) :
    spanDigits (digits ++ rest) = (digitValues digits, rest) := by
  induction digits with
  | nil =>
    cases rest with
    | nil => rfl
    | cons c rest => simp [spanDigits, hrest c rfl, digitValues]
  | cons c digits ih =>
    obtain ⟨hc, hdigits⟩ := List.forall_mem_cons.1 hdigits
    simp [spanDigits, digit?_of_isDigit hc, ih hdigits, digitValues]

/-- Digits whose number fits sixty-four bits are all accumulated. -/
theorem accumulate_digitValues {significand : Nat} {digits : List Char}
    (h : Nat.ofDigitChars 10 digits significand < Nat.pow 2 64) :
    accumulate significand (digitValues digits) =
      (Nat.ofDigitChars 10 digits significand, []) := by
  induction digits generalizing significand with
  | nil => rfl
  | cons c digits ih =>
    rw [Nat.ofDigitChars_cons] at h ⊢
    have hfits : 10 * significand + (c.toNat - '0'.toNat) < Nat.pow 2 64 := by
      rw [Nat.ofDigitChars_eq_ofDigitChars_zero] at h
      have hpos : 0 < 10 ^ digits.length := Nat.pow_pos (by decide)
      have hle := Nat.le_mul_of_pos_left (10 * significand + (c.toNat - '0'.toNat)) hpos
      exact Nat.lt_of_le_of_lt (Nat.le_trans hle (Nat.le_add_right _ _)) h
    rw [digitValues, List.map_cons, accumulate, if_pos hfits]
    exact ih h

/-- Only the first digit has the value zero. -/
theorem eq_zero_of_digitValue {c : Char} (h : c.isDigit = true) (hzero : c.toNat - '0'.toNat = 0) :
    c = '0' := by
  have hrange : '0'.toNat ≤ c.toNat := by
    simp only [Char.isDigit, Bool.and_eq_true, decide_eq_true_eq] at h
    exact UInt32.le_iff_toNat_le.1 h.1
  exact Char.ext (UInt32.toNat.inj (Nat.le_antisymm (Nat.le_of_sub_eq_zero hzero) hrange))

/-- Digits other than the first one stand for a positive number. -/
theorem digitChar_ne_zero : ∀ n < 10, 0 < n → n.digitChar ≠ '0' := by
  decide

/-- The digits of a positive number begin with no zero. -/
theorem head?_toDigits {n : Nat} (h : 0 < n) : (Nat.toDigits 10 n).head? ≠ some '0' := by
  induction n using Nat.strongRecOn with
  | ind n ih =>
    by_cases hlt : n < 10
    · rw [Nat.toDigits_of_lt_base hlt]
      exact fun hzero => digitChar_ne_zero n hlt h (Option.some.inj hzero)
    · have hne : Nat.toDigits 10 (n / 10) ≠ [] := Nat.toDigits_ne_nil
      rw [Nat.toDigits_of_base_le (by decide) (by omega), List.head?_append,
        Option.or_of_isSome (List.isSome_head?.2 hne)]
      exact ih (n / 10) (by omega) (by omega)

/-- The digits of a number are no refused ones: there are some, and a zero in front stands alone. -/
theorem not_refused_toDigits (n : Nat) :
    ((digitValues (Nat.toDigits 10 n)).isEmpty ||
      ((digitValues (Nat.toDigits 10 n)).head? == some 0 &&
        1 < (digitValues (Nat.toDigits 10 n)).length)) = false := by
  obtain rfl | hpos := Nat.eq_zero_or_pos n
  · rfl
  · have hhead := head?_toDigits hpos
    have hdigit : ∀ c ∈ Nat.toDigits 10 n, c.isDigit = true :=
      fun c hc => Nat.isDigit_of_mem_toDigits (by decide) (by decide) hc
    cases hdigits : Nat.toDigits 10 n with
    | nil => exact absurd hdigits Nat.toDigits_ne_nil
    | cons c digits =>
      rw [hdigits] at hhead hdigit
      have hvalue : c.toNat - '0'.toNat ≠ 0 := by
        intro hzero
        exact hhead (congrArg some (eq_zero_of_digitValue (hdigit c List.mem_cons_self) hzero))
      have hfirst : (digitValues (c :: digits)).head? = some (c.toNat - '0'.toNat) := rfl
      rw [hfirst]
      simpa [digitValues] using fun hzero => absurd hzero hvalue

/-- What the digits of a number are read as. -/
theorem readNumber_toDigits (negative : Bool) {n : Nat} {rest : List Char} (hn : n < Nat.pow 2 64)
    (hrest : EndsNumber rest) :
    readNumber negative (Nat.toDigits 10 n ++ rest) =
      some (ofNumber? (whole? negative n), rest) := by
  have hdigit : ∀ c ∈ Nat.toDigits 10 n, c.isDigit = true :=
    fun c hc => Nat.isDigit_of_mem_toDigits (by decide) (by decide) hc
  have hspan := spanDigits_append hdigit fun c hc => (hrest c hc).1
  have haccumulate : accumulate 0 (digitValues (Nat.toDigits 10 n)) = (n, []) := by
    rw [accumulate_digitValues (by rwa [Nat.ofDigitChars_ten_toDigits]),
      Nat.ofDigitChars_ten_toDigits]
  simp only [readNumber, hspan, not_refused_toDigits, haccumulate]
  cases rest with
  | nil => rfl
  | cons c rest =>
    obtain ⟨-, hpoint, hlower, hupper⟩ := hrest c rfl
    simp only [hlower, hupper]
    split <;> simp_all

end Number

end Stratalog.Json

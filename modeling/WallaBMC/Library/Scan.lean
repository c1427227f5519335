import Mathlib.Tactic

/-! Integers in a text: how `strftime` writes them and how `sscanf` converts them. -/

namespace WallaBMC.Library.Scan

inductive Directive
  | int (width : Option ℕ)
  | lit (c : Char)

def isSpace (c : Char) : Bool := c ∈ [' ', '\t', '\n', '\x0b', '\x0c', '\r']

def field (width : Option ℕ) (text : List Char) : List Char :=
  match width with
  | none => text
  | some w => text.take w

def signLength (text : List Char) : ℕ :=
  if text.head? = some '-' ∨ text.head? = some '+' then 1 else 0

def sign (text : List Char) : ℤ := if text.head? = some '-' then -1 else 1

def digitRun (text : List Char) : List Char := text.takeWhile Char.isDigit

/-- One `%d` conversion, at most `width` characters after the blanks. -/
def scanInt (width : Option ℕ) (text : List Char) : Option (ℤ × List Char) :=
  let body := text.dropWhile isSpace
  let number := field width body
  let digits := digitRun (number.drop (signLength number))
  if digits = [] then none
  else some (sign number * Nat.ofDigitChars 10 digits 0,
    body.drop (signLength number + digits.length))

/-- The converted values, up to the first directive that does not match. -/
def sscanf : List Directive → List Char → List ℤ
  | [], _ => []
  | .lit _ :: _, [] => []
  | .lit c :: fmt, d :: text => if d = c then sscanf fmt text else []
  | .int width :: fmt, text =>
    match scanInt width text with
    | none => []
    | some (n, rest) => n :: sscanf fmt rest

def padded : ℕ → ℕ → List Char
  | 0, _ => []
  | w + 1, n => padded w (n / 10) ++ [(n % 10).digitChar]

def Apart (rest : List Char) : Prop := ∀ c, rest.head? = some c → c.isDigit = false

variable {width : Option ℕ} {w n : ℕ} {ds rest text : List Char} {c : Char} {fmt : List Directive}

lemma apart_cons (h : c.isDigit = false) : Apart (c :: rest) := by
  rintro d ⟨⟩
  exact h

lemma digitRun_append (hds : ∀ c ∈ ds, c.isDigit = true) (h : Apart rest) :
    digitRun (ds ++ rest) = ds := by
  induction ds with
  | nil =>
    cases rest with
    | nil => rfl
    | cons c rest => exact List.takeWhile_cons_of_neg (by simp [h c rfl])
  | cons d ds ih =>
    obtain ⟨hd, hds⟩ := List.forall_mem_cons.mp hds
    rw [List.cons_append, digitRun, List.takeWhile_cons_of_pos hd]
    exact congrArg (List.cons d) (ih hds)

lemma field_append (h : ∀ w, width = some w → ds.length ≤ w) (rest : List Char) :
    ∃ k, field width (ds ++ rest) = ds ++ rest.take k := by
  cases width with
  | none => exact ⟨rest.length, by simp [field]⟩
  | some w =>
    refine ⟨w - ds.length, ?_⟩
    rw [field, List.take_append, List.take_of_length_le (h w rfl)]

lemma apart_take (h : Apart rest) (k : ℕ) : Apart (rest.take k) := by
  intro c hc
  cases k with
  | zero => cases hc
  | succ k =>
    cases rest with
    | nil => cases hc
    | cons d rest => exact h c hc

lemma not_isSpace (h : c.isDigit = true) : isSpace c = false := by
  by_contra hspace
  have hmem : c ∈ [' ', '\t', '\n', '\x0b', '\x0c', '\r'] :=
    of_decide_eq_true (Bool.of_not_eq_false hspace)
  fin_cases hmem <;> simp at h

lemma scanInt_digits (hne : ds ≠ []) (hds : ∀ c ∈ ds, c.isDigit = true) (hrest : Apart rest)
    (hwidth : ∀ w, width = some w → ds.length ≤ w) :
    scanInt width (ds ++ rest) = some ((Nat.ofDigitChars 10 ds 0 : ℤ), rest) := by
  obtain ⟨d, ds', rfl⟩ := List.exists_cons_of_ne_nil hne
  have hd : d.isDigit = true := hds d (List.mem_cons_self ..)
  have hbody : (d :: ds' ++ rest).dropWhile isSpace = d :: ds' ++ rest := by
    simp [not_isSpace hd]
  obtain ⟨k, hfield⟩ := field_append hwidth rest
  have hminus : d ≠ '-' := by
    rintro rfl
    simp at hd
  have hplus : d ≠ '+' := by
    rintro rfl
    simp at hd
  have hsign : signLength (d :: ds' ++ rest.take k) = 0 := by simp [signLength, hminus, hplus]
  have hpos : sign (d :: ds' ++ rest.take k) = 1 := by simp [sign, hminus]
  have hrun : digitRun (d :: ds' ++ rest.take k) = d :: ds' := digitRun_append hds (apart_take hrest k)
  simp only [scanInt, hbody, hfield, hsign, hpos, List.drop_zero, hrun, one_mul, zero_add,
    List.drop_left, if_neg hne]

lemma sscanf_int (h : scanInt width text = some ((n : ℤ), rest)) :
    sscanf (.int width :: fmt) text = (n : ℤ) :: sscanf fmt rest := by
  simp only [sscanf, h]

lemma sscanf_lit (c : Char) (fmt : List Directive) (text : List Char) :
    sscanf (.lit c :: fmt) (c :: text) = sscanf fmt text := by
  rw [sscanf, if_pos rfl]

lemma sscanf_mismatch {d : Char} (h : d ≠ c) (fmt : List Directive) (text : List Char) :
    sscanf (.lit c :: fmt) (d :: text) = [] := by
  rw [sscanf, if_neg h]

lemma padded_digits (w n : ℕ) : ∀ c ∈ padded w n, c.isDigit = true := by
  induction w generalizing n with
  | zero => simp [padded]
  | succ w ih =>
    intro c hc
    rcases List.mem_append.mp hc with hfirst | hlast
    · exact ih (n / 10) c hfirst
    · rw [List.mem_singleton.mp hlast]
      rw [Nat.isDigit_digitChar]
      exact decide_eq_true (Nat.mod_lt n (by norm_num))

lemma padded_length (w n : ℕ) : (padded w n).length = w := by
  induction w generalizing n with
  | zero => rfl
  | succ w ih => simp [padded, ih]

lemma padded_value (h : n < 10 ^ w) : Nat.ofDigitChars 10 (padded w n) 0 = n := by
  induction w generalizing n with
  | zero =>
    have hzero : n = 0 := by simpa using h
    simp [padded, hzero]
  | succ w ih =>
    have hdiv : n / 10 < 10 ^ w := by
      rw [pow_succ'] at h
      exact Nat.div_lt_of_lt_mul h
    have hlast : n % 10 < 10 := Nat.mod_lt _ (by norm_num)
    rw [padded, Nat.ofDigitChars_append, ih hdiv, Nat.ofDigitChars_cons_digitChar_of_lt_ten hlast,
      Nat.ofDigitChars_nil]
    omega

lemma scanInt_padded (hw : 0 < w) (hn : n < 10 ^ w) (hrest : Apart rest)
    (hwidth : ∀ v, width = some v → w ≤ v) :
    scanInt width (padded w n ++ rest) = some ((n : ℤ), rest) := by
  have hne : padded w n ≠ [] := by
    rw [← List.length_pos_iff, padded_length]
    exact hw
  have hscan := scanInt_digits hne (padded_digits w n) hrest
    (by simpa only [padded_length] using hwidth)
  rwa [padded_value hn] at hscan

end WallaBMC.Library.Scan

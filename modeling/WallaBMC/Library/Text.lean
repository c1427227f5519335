import WallaBMC.Library.Bytes

/-! A text as bytes: in UTF-8, with a byte for each code point, and between the quotes of a JSON string. -/

namespace WallaBMC.Library.Text

open Bytes

def utf8 (text : List Char) : List UInt8 := text.flatMap String.utf8EncodeChar

def latin1 (text : List Char) : List UInt8 := text.map (fun c => UInt8.ofNat c.toNat)

def upToNul (text : List Char) : List Char := text.takeWhile (fun c => c.toNat ≠ 0)

def escapeLetter : ℕ → Option UInt8
  | 0x08 => some 98
  | 0x09 => some 116
  | 0x0a => some 110
  | 0x0c => some 102
  | 0x0d => some 114
  | 0x22 => some 34
  | 0x5c => some 92
  | _ => none

def hexDigit (n : ℕ) : UInt8 := if n < 10 then UInt8.ofNat (n + 48) else UInt8.ofNat (n + 87)

def quoted (c : Char) : List UInt8 :=
  match escapeLetter c.toNat with
  | some letter => [92, letter]
  | none =>
    if c.toNat < 0x20 then [92, 117, 48, 48, hexDigit (c.toNat / 16), hexDigit (c.toNat % 16)]
    else String.utf8EncodeChar c

/-- What a JSON string of this text has between its quotes. -/
def stringText (text : List Char) : List UInt8 := text.flatMap quoted

/-- JSON need not escape the character. -/
def Verbatim (c : Char) : Prop := 0x20 ≤ c.toNat ∧ c.toNat ≠ 0x22 ∧ c.toNat ≠ 0x5c

instance (c : Char) : Decidable (Verbatim c) := inferInstanceAs (Decidable (_ ∧ _))

variable {c : Char} {text : List Char}

lemma utf8EncodeChar_ascii (h : c.toNat < 128) : String.utf8EncodeChar c = [UInt8.ofNat c.toNat] := by
  have hle : c.val.toNat ≤ 0x7f := Nat.le_of_lt_succ h
  rw [String.utf8EncodeChar]
  exact if_pos hle

lemma ofNat_eq_zero {n : ℕ} (h : n < 256) (hzero : UInt8.ofNat n = 0) : n = 0 := by
  have htoNat := congrArg UInt8.toNat hzero
  rw [UInt8.toNat_ofNat_of_lt' h] at htoNat
  exact htoNat

lemma zero_notMem_utf8EncodeChar (h : c.toNat ≠ 0) : 0 ∉ String.utf8EncodeChar c := by
  intro hmem
  have hval : c.val.toNat ≠ 0 := h
  unfold String.utf8EncodeChar at hmem
  simp only at hmem
  split_ifs at hmem with h1 h2 h3 <;> simp only [List.mem_cons, List.not_mem_nil, or_false] at hmem
  · have hz := ofNat_eq_zero (by omega) hmem.symm
    omega
  · rcases hmem with hz | hz <;> have := ofNat_eq_zero (by omega) hz.symm <;> omega
  · rcases hmem with hz | hz | hz <;> have := ofNat_eq_zero (by omega) hz.symm <;> omega
  · rcases hmem with hz | hz | hz | hz <;> have := ofNat_eq_zero (by omega) hz.symm <;> omega

lemma utf8EncodeChar_pos (c : Char) : 1 ≤ (String.utf8EncodeChar c).length := by
  rw [String.length_utf8EncodeChar]
  exact c.utf8Size_pos

lemma ascii_of_length (h : (String.utf8EncodeChar c).length ≤ 1) : c.toNat < 128 := by
  rw [String.length_utf8EncodeChar] at h
  have hone := Char.utf8Size_eq_one_iff.mp (le_antisymm h c.utf8Size_pos)
  have hle : c.val.toNat ≤ 127 := hone
  exact Nat.lt_succ_of_le hle

lemma escapeLetter_verbatim (h : Verbatim c) : escapeLetter c.toNat = none := by
  obtain ⟨hlow, hquote, hbackslash⟩ := h
  unfold escapeLetter
  split <;> first | omega | rfl

lemma quoted_verbatim (h : Verbatim c) : quoted c = String.utf8EncodeChar c := by
  rw [quoted, escapeLetter_verbatim h]
  exact if_neg h.1.not_gt

lemma escapeLetter_lt {letter : UInt8} {n : ℕ} (h : escapeLetter n = some letter) : n < 128 := by
  unfold escapeLetter at h
  split at h <;> first | decide | cases h

lemma quoted_longer (h : ¬ Verbatim c) : (String.utf8EncodeChar c).length < (quoted c).length := by
  rw [quoted]
  cases hletter : escapeLetter c.toNat with
  | some letter =>
    rw [utf8EncodeChar_ascii (escapeLetter_lt hletter)]
    exact Nat.one_lt_two
  | none =>
    have hlow : c.toNat < 0x20 := by
      by_contra hge
      apply h
      refine ⟨not_lt.mp hge, ?_, ?_⟩ <;> intro he <;> rw [he] at hletter <;> cases hletter
    simp only [if_pos hlow]
    rw [utf8EncodeChar_ascii (by omega)]
    exact Nat.one_lt_succ_succ 4

lemma hexDigit_ne_zero {n : ℕ} (h : n < 16) : hexDigit n ≠ 0 := by
  have hall : ∀ n < 16, hexDigit n ≠ 0 := by decide
  exact hall n h

lemma escapeLetter_ne_zero {letter : UInt8} {n : ℕ} (h : escapeLetter n = some letter) : letter ≠ 0 := by
  unfold escapeLetter at h
  split at h <;> cases h <;> decide

lemma zero_notMem_quoted (c : Char) : 0 ∉ quoted c := by
  rw [quoted]
  cases hletter : escapeLetter c.toNat with
  | some letter => simp [(escapeLetter_ne_zero hletter).symm]
  | none =>
    by_cases hlow : c.toNat < 0x20
    · have hhigh := hexDigit_ne_zero (n := c.toNat / 16) (by omega)
      have hmod := hexDigit_ne_zero (n := c.toNat % 16) (by omega)
      simp [hlow, hhigh.symm, hmod.symm]
    · simp only [if_neg hlow]
      exact zero_notMem_utf8EncodeChar (by omega)

theorem zero_notMem_stringText (text : List Char) : 0 ∉ stringText text := by
  intro hmem
  obtain ⟨c, -, hc⟩ := List.mem_flatMap.mp hmem
  exact zero_notMem_quoted c hc

lemma length_le_utf8 (text : List Char) : text.length ≤ (utf8 text).length := by
  induction text with
  | nil => exact le_rfl
  | cons c text ih =>
    have hpos := utf8EncodeChar_pos c
    simp only [utf8, List.flatMap_cons, List.length_append, List.length_cons] at ih ⊢
    omega

lemma length_utf8_le (text : List Char) : (utf8 text).length ≤ (stringText text).length := by
  induction text with
  | nil => exact le_rfl
  | cons c text ih =>
    have hc : (String.utf8EncodeChar c).length ≤ (quoted c).length := by
      by_cases h : Verbatim c
      · rw [quoted_verbatim h]
      · exact (quoted_longer h).le
    simp only [utf8, stringText, List.flatMap_cons, List.length_append] at ih ⊢
    omega

theorem ascii_of_utf8_length (h : (utf8 text).length ≤ text.length) : ∀ c ∈ text, c.toNat < 128 := by
  induction text with
  | nil => simp
  | cons c text ih =>
    have hpos := utf8EncodeChar_pos c
    have hle := length_le_utf8 text
    have hcons : (utf8 (c :: text)).length = (String.utf8EncodeChar c).length + (utf8 text).length := by
      simp [utf8]
    rw [hcons, List.length_cons] at h
    rw [List.forall_mem_cons]
    exact ⟨ascii_of_length (by omega), ih (by omega)⟩

theorem verbatim_of_length (h : (stringText text).length ≤ (utf8 text).length) :
    ∀ c ∈ text, Verbatim c := by
  induction text with
  | nil => simp
  | cons c text ih =>
    have hle := length_utf8_le text
    have hutf8 : (utf8 (c :: text)).length = (String.utf8EncodeChar c).length + (utf8 text).length := by
      simp [utf8]
    have htext : (stringText (c :: text)).length = (quoted c).length + (stringText text).length := by
      simp [stringText]
    rw [hutf8, htext] at h
    have hverbatim : Verbatim c := by
      by_contra hc
      have hlonger := quoted_longer hc
      omega
    rw [quoted_verbatim hverbatim] at h
    rw [List.forall_mem_cons]
    exact ⟨hverbatim, ih (by omega)⟩

lemma stringText_verbatim (h : ∀ c ∈ text, Verbatim c) : stringText text = utf8 text :=
  List.flatMap_congr (fun c hc => quoted_verbatim (h c hc))

lemma utf8_ascii (h : ∀ c ∈ text, c.toNat < 128) : utf8 text = latin1 text := by
  induction text with
  | nil => rfl
  | cons c text ih =>
    rw [List.forall_mem_cons] at h
    rw [utf8, List.flatMap_cons, utf8EncodeChar_ascii h.1, ← utf8, ih h.2]
    rfl

lemma length_latin1 (text : List Char) : (latin1 text).length = text.length := List.length_map ..

theorem cstr_utf8 (text : List Char) : cstr (utf8 text) = utf8 (upToNul text) := by
  induction text with
  | nil => rfl
  | cons c text ih =>
    by_cases hc : c.toNat = 0
    · have hnul : String.utf8EncodeChar c = [0] := by
        rw [utf8EncodeChar_ascii (by omega), hc]
        rfl
      simp [utf8, upToNul, hc, hnul, cstr]
    · have hcons : upToNul (c :: text) = c :: upToNul text := by simp [upToNul, hc]
      rw [hcons, utf8, List.flatMap_cons, cstr_append (zero_notMem_utf8EncodeChar hc), ← utf8, ih]
      rfl

theorem cstr_latin1 (h : ∀ c ∈ text, c.toNat < 256) : cstr (latin1 text) = latin1 (upToNul text) := by
  induction text with
  | nil => rfl
  | cons c text ih =>
    rw [List.forall_mem_cons] at h
    by_cases hc : c.toNat = 0
    · simp [latin1, upToNul, hc, cstr]
    · have hne : UInt8.ofNat c.toNat ≠ 0 := fun hz => hc (ofNat_eq_zero h.1 hz)
      have hcons : upToNul (c :: text) = c :: upToNul text := by simp [upToNul, hc]
      have htail := ih h.2
      rw [cstr, latin1] at htail
      rw [hcons, cstr, latin1, List.map_cons, List.takeWhile_cons_of_pos (by simpa using hne), htail]
      rfl

end WallaBMC.Library.Text

import Mathlib.Data.List.TakeWhile
import WallaBMC.Library.Scan

/-! What a conversion `%d` takes from a text: blanks, a sign and digits, as far as they go. -/

namespace WallaBMC.Library.Scan

structure Digits where
  chars : List Char
  ne_nil : chars ≠ []
  digit : ∀ c ∈ chars, c.isDigit = true

def Digits.value (ds : Digits) : ℕ := Nat.ofDigitChars 10 ds.chars 0

structure Numeral where
  blanks : List Char
  signs : List Char
  digits : Digits
  space : ∀ c ∈ blanks, isSpace c = true
  signs_mem : signs ∈ [[], ['-'], ['+']]

def Numeral.text (l : Numeral) : List Char := l.blanks ++ (l.signs ++ l.digits.chars)

def Numeral.value (l : Numeral) : ℤ := sign l.signs * l.digits.value

def Numeral.length (l : Numeral) : ℕ := l.signs.length + l.digits.chars.length

def Numeral.Fits (l : Numeral) (width : Option ℕ) : Prop := ∀ w, width = some w → l.length ≤ w

/-- The conversion does not go on into `rest`. -/
def Numeral.Ends (l : Numeral) (width : Option ℕ) (rest : List Char) : Prop :=
  Apart rest ∨ width = some l.length

def Digits.numeral (ds : Digits) : Numeral := ⟨[], [], ds, by simp, by simp⟩

variable {width : Option ℕ} {rest rest' text signs : List Char} {n m : ℤ} {ns : List ℤ} {c d : Char}
  {fmt : List Directive} {l l' : Numeral}

@[simp] lemma Digits.numeral_value (ds : Digits) : ds.numeral.value = ds.value := one_mul _

@[simp] lemma Digits.numeral_length (ds : Digits) : ds.numeral.length = ds.chars.length := Nat.zero_add _

lemma apart_nil : Apart [] := by
  intro c hc
  cases hc

lemma Numeral.fits_none (l : Numeral) : l.Fits none := by
  intro w hw
  cases hw

lemma exists_digit (h : c.isDigit = true) : ∃ x < 10, c.toNat - '0'.toNat = x ∧ (c = '0' ↔ x = 0) := by
  have hzero : '0'.toNat = 48 := rfl
  have hnine : '9'.toNat = 57 := rfl
  rw [Char.isDigit_iff_toNat, hzero, hnine] at h
  refine ⟨c.toNat - '0'.toNat, ?_, rfl, ?_⟩
  · omega
  · rw [← Char.toNat_inj, hzero]
    omega

lemma ofDigitChars_lt (h : ∀ c ∈ text, c.isDigit = true) : Nat.ofDigitChars 10 text 0 < 10 ^ text.length := by
  induction text using List.reverseRecOn with
  | nil => decide
  | append_singleton text c ih =>
    have hfirst := ih (fun d hd => h d (List.mem_append_left _ hd))
    obtain ⟨x, hx, hc, -⟩ := exists_digit (h c (by simp))
    rw [Nat.ofDigitChars_append, Nat.ofDigitChars_cons, Nat.ofDigitChars_nil, hc, List.length_append,
      List.length_singleton, pow_succ]
    omega

lemma Digits.value_lt (ds : Digits) : ds.value < 10 ^ ds.chars.length := ofDigitChars_lt ds.digit

lemma Numeral.eq_numeral (hblanks : l.blanks = []) (hsigns : l.signs = []) : l.digits.numeral = l := by
  cases l
  simp only at hblanks hsigns
  subst hblanks hsigns
  rfl

lemma sign_signs (h : signs ∈ [[], ['-'], ['+']]) (hd : d.isDigit = true) (text : List Char) :
    signLength (signs ++ d :: text) = signs.length ∧ sign (signs ++ d :: text) = sign signs := by
  have hminus : d ≠ '-' := by
    rintro rfl
    simp at hd
  have hplus : d ≠ '+' := by
    rintro rfl
    simp at hd
  fin_cases h <;> simp [signLength, sign, hminus, hplus]

lemma not_space_signs (h : signs ∈ [[], ['-'], ['+']]) (hd : d.isDigit = true) (text : List Char) :
    (signs ++ d :: text).dropWhile isSpace = signs ++ d :: text := by
  fin_cases h
  · exact List.dropWhile_cons_of_neg (by simp [not_isSpace hd])
  · rfl
  · rfl

lemma signs_take (text : List Char) :
    text.take (signLength text) ∈ [[], ['-'], ['+']] ∧
      (text.take (signLength text)).length = signLength text ∧
      sign (text.take (signLength text)) = sign text := by
  cases text with
  | nil => decide
  | cons c text =>
    by_cases hminus : c = '-'
    · subst hminus
      simp [signLength, sign]
    · by_cases hplus : c = '+'
      · subst hplus
        simp [signLength, sign]
      · simp [signLength, sign, hminus, hplus]

/-- What the width leaves of the text is all of it, or as long as the width. -/
lemma field_split (width : Option ℕ) (text : List Char) :
    ∃ tail, text = field width text ++ tail ∧ (∀ w, width = some w → (field width text).length ≤ w) ∧
      (tail = [] ∨ width = some (field width text).length) := by
  cases width with
  | none => exact ⟨[], by simp [field], by simp, .inl rfl⟩
  | some w =>
    refine ⟨text.drop w, (List.take_append_drop w text).symm, ?_, ?_⟩
    · rintro _ ⟨⟩
      exact List.length_take_le w text
    · rcases le_total text.length w with hshort | hlong
      · exact .inl (List.drop_eq_nil_of_le hshort)
      · exact .inr (by rw [field, List.length_take_of_le hlong])

lemma apart_dropWhile (text : List Char) : Apart (text.dropWhile Char.isDigit) := by
  intro c hc
  have hstop := List.head?_dropWhile_not Char.isDigit text
  rw [hc] at hstop
  simpa using hstop

lemma Apart.append {tail : List Char} (h : Apart text) (htail : text = [] → Apart tail) : Apart (text ++ tail) := by
  cases text with
  | nil => exact htail rfl
  | cons c text =>
    intro d hd
    exact h d hd

lemma Numeral.scanInt_text (h : l.Fits width) (hrest : l.Ends width rest) :
    scanInt width (l.text ++ rest) = some (l.value, rest) := by
  obtain ⟨blanks, signs, ⟨chars, hne, hdigit⟩, hspace, hsigns⟩ := l
  obtain ⟨d, ds, rfl⟩ := List.exists_cons_of_ne_nil hne
  have hd : d.isDigit = true := hdigit d (List.mem_cons_self ..)
  have hbody : (blanks ++ (signs ++ d :: ds) ++ rest).dropWhile isSpace = signs ++ d :: ds ++ rest := by
    rw [List.append_assoc, List.dropWhile_append_of_pos hspace, List.append_assoc]
    exact not_space_signs hsigns hd (ds ++ rest)
  have hfield : ∃ tail, field width (signs ++ d :: ds ++ rest) = signs ++ d :: ds ++ tail ∧ Apart tail := by
    rcases hrest with hapart | hwidth
    · have hfit : ∀ w, width = some w → (signs ++ d :: ds).length ≤ w := by
        simpa [Numeral.Fits, Numeral.length] using h
      obtain ⟨k, hk⟩ := field_append hfit rest
      exact ⟨rest.take k, hk, apart_take hapart k⟩
    · refine ⟨[], ?_, apart_nil⟩
      rw [hwidth, field, Numeral.length, ← List.length_append, List.take_left, List.append_nil]
  obtain ⟨tail, hnumber, htail⟩ := hfield
  obtain ⟨hlength, hsign⟩ := sign_signs hsigns hd (ds ++ tail)
  have hrun : digitRun (d :: ds ++ tail) = d :: ds := digitRun_append hdigit htail
  have hdrop : (signs ++ d :: ds ++ rest).drop (signs.length + (d :: ds).length) = rest := by
    rw [← List.length_append, List.drop_left]
  have hnumber' : field width (signs ++ d :: ds ++ rest) = signs ++ d :: (ds ++ tail) := by
    rw [hnumber, List.append_assoc, List.cons_append]
  rw [List.cons_append] at hrun
  simp only [scanInt, Numeral.text, hbody, hnumber', hlength, hsign, List.drop_left, hrun, hdrop, if_neg hne]
  rfl

lemma exists_numeral (h : scanInt width text = some (n, rest)) :
    ∃ l : Numeral, l.text ++ rest = text ∧ l.value = n ∧ l.Fits width ∧ l.Ends width rest := by
  rw [scanInt] at h
  set body := text.dropWhile isSpace
  set number := field width body
  set digits := digitRun (number.drop (signLength number)) with hdigits
  split_ifs at h with hnil
  obtain ⟨rfl, rfl⟩ := Prod.mk.inj (Option.some.inj h)
  obtain ⟨hsigns, hlength, hsign⟩ := signs_take number
  obtain ⟨tail, hbody, hfits, hends⟩ := field_split width body
  have hspace : ∀ c ∈ text.takeWhile isSpace, isSpace c = true := fun c => List.mem_takeWhile_imp
  have hdigit : ∀ c ∈ digits, c.isDigit = true := fun c => List.mem_takeWhile_imp
  set left := (number.drop (signLength number)).dropWhile Char.isDigit with hleft
  have hnumber : number = number.take (signLength number) ++ (digits ++ left) := by
    rw [hdigits, hleft, digitRun, List.takeWhile_append_dropWhile, List.take_append_drop]
  have hcount : number.length = signLength number + digits.length + left.length := by
    have hsum := congrArg List.length hnumber
    rw [List.length_append, List.length_append, hlength] at hsum
    rw [hsum, add_assoc]
  have hparts : body = number.take (signLength number) ++ digits ++ (left ++ tail) := by
    rw [List.append_assoc, ← List.append_assoc digits, ← List.append_assoc, ← hnumber]
    exact hbody
  have hrest : body.drop (signLength number + digits.length) = left ++ tail := by
    conv_lhs => rw [hparts]
    apply List.drop_left'
    rw [List.length_append, hlength]
  refine ⟨⟨text.takeWhile isSpace, number.take (signLength number), ⟨digits, hnil, hdigit⟩, hspace, hsigns⟩,
    ?_, ?_, ?_, ?_⟩
  · rw [hrest, Numeral.text, List.append_assoc, ← hparts]
    exact List.takeWhile_append_dropWhile
  · rw [Numeral.value, hsign]
    rfl
  · intro w hw
    rw [Numeral.length, hlength]
    exact (Nat.le_add_right _ left.length).trans (hcount.symm.trans_le (hfits w hw))
  · rw [hrest]
    by_cases hend : left = []
    · rcases hends with htail | hwidth
      · refine .inl ?_
        rw [hend, htail]
        exact apart_nil
      · refine .inr (hwidth.trans ?_)
        rw [Numeral.length, hlength]
        exact congrArg some (hcount.trans (by rw [hend, List.length_nil, add_zero]))
    · exact .inl ((apart_dropWhile _).append (fun hnone => absurd hnone hend))

theorem scanInt_eq_some :
    scanInt width text = some (n, rest) ↔
      ∃ l : Numeral, l.text ++ rest = text ∧ l.value = n ∧ l.Fits width ∧ l.Ends width rest := by
  constructor
  · exact exists_numeral
  · rintro ⟨l, rfl, rfl, hfits, hends⟩
    exact l.scanInt_text hfits hends

lemma takeWhile_signs (h : signs ∈ [[], ['-'], ['+']]) (hd : d.isDigit = true) (text : List Char) :
    (signs ++ d :: text).takeWhile isSpace = [] := by
  fin_cases h
  · exact List.takeWhile_cons_of_neg (by simp [not_isSpace hd])
  · rfl
  · rfl

lemma Numeral.text_injective (h : l.text = l'.text) : l = l' := by
  obtain ⟨blanks, signs, ⟨chars, hne, hdigit⟩, hspace, hsigns⟩ := l
  obtain ⟨blanks', signs', ⟨chars', hne', hdigit'⟩, hspace', hsigns'⟩ := l'
  obtain ⟨d, ds, rfl⟩ := List.exists_cons_of_ne_nil hne
  obtain ⟨d', ds', rfl⟩ := List.exists_cons_of_ne_nil hne'
  have hd : d.isDigit = true := hdigit d (List.mem_cons_self ..)
  have hd' : d'.isDigit = true := hdigit' d' (List.mem_cons_self ..)
  simp only [Numeral.text] at h
  have hblanks := congrArg (List.takeWhile isSpace) h
  rw [List.takeWhile_append_of_pos hspace, List.takeWhile_append_of_pos hspace', takeWhile_signs hsigns hd,
    takeWhile_signs hsigns' hd', List.append_nil, List.append_nil] at hblanks
  subst hblanks
  have hnumber := List.append_cancel_left h
  have hlength := congrArg signLength hnumber
  rw [(sign_signs hsigns hd ds).1, (sign_signs hsigns' hd' ds').1] at hlength
  obtain ⟨hsame, hchars⟩ := List.append_inj hnumber hlength
  subst hsame
  simp only [hchars]

/-- A text and a width leave one way to convert. -/
theorem Numeral.unique (h : l.text ++ rest = l'.text ++ rest') (hfits : l.Fits width) (hends : l.Ends width rest)
    (hfits' : l'.Fits width) (hends' : l'.Ends width rest') : l = l' ∧ rest = rest' := by
  have hscan := l.scanInt_text hfits hends
  rw [h, l'.scanInt_text hfits' hends'] at hscan
  obtain ⟨-, rfl⟩ := Prod.mk.inj (Option.some.inj hscan)
  exact ⟨Numeral.text_injective (List.append_cancel_right h), rfl⟩

lemma sscanf_int_iff :
    sscanf (.int width :: fmt) text = n :: ns ↔
      ∃ (l : Numeral) (rest : List Char), l.text ++ rest = text ∧ l.value = n ∧ l.Fits width ∧ l.Ends width rest ∧
        sscanf fmt rest = ns := by
  constructor
  · intro h
    rw [sscanf] at h
    cases hscan : scanInt width text with
    | none =>
      rw [hscan] at h
      cases h
    | some converted =>
      rw [hscan] at h
      obtain ⟨m, rest⟩ := converted
      obtain ⟨l, htext, hvalue, hfits, hends⟩ := scanInt_eq_some.mp hscan
      obtain ⟨rfl, rfl⟩ := List.cons.inj h
      exact ⟨l, rest, htext, hvalue, hfits, hends, rfl⟩
  · rintro ⟨l, rest, htext, hvalue, hfits, hends, rfl⟩
    have hscan := scanInt_eq_some.mpr ⟨l, htext, hvalue, hfits, hends⟩
    simp only [sscanf, hscan]

lemma sscanf_lit_iff : sscanf (.lit c :: fmt) text = n :: ns ↔ ∃ rest, text = c :: rest ∧ sscanf fmt rest = n :: ns := by
  constructor
  · intro h
    cases text with
    | nil => cases h
    | cons d text =>
      rw [sscanf] at h
      split_ifs at h with hd
      exact ⟨text, by rw [hd], h⟩
  · rintro ⟨rest, rfl, h⟩
    rw [sscanf_lit, h]

/-- A number with something other than a digit behind it. -/
theorem sscanf_int_lit (hc : c.isDigit = false) :
    sscanf (.int none :: .lit c :: fmt) text = n :: m :: ns ↔
      ∃ (l : Numeral) (rest : List Char), l.text ++ c :: rest = text ∧ l.value = n ∧ sscanf fmt rest = m :: ns := by
  rw [sscanf_int_iff]
  constructor
  · rintro ⟨l, _, htext, hvalue, -, -, hrest⟩
    obtain ⟨rest, rfl, hscan⟩ := sscanf_lit_iff.mp hrest
    exact ⟨l, rest, htext, hvalue, hscan⟩
  · rintro ⟨l, rest, htext, hvalue, hrest⟩
    exact ⟨l, c :: rest, htext, hvalue, l.fits_none, .inl (apart_cons hc), sscanf_lit_iff.mpr ⟨rest, rfl, hrest⟩⟩

theorem Numeral.unique_lit (hc : c.isDigit = false) (h : l.text ++ c :: rest = l'.text ++ c :: rest') :
    l = l' ∧ rest = rest' := by
  obtain ⟨rfl, hrest⟩ := Numeral.unique h l.fits_none (.inl (apart_cons hc)) l'.fits_none (.inl (apart_cons hc))
  exact ⟨rfl, List.tail_eq_of_cons_eq hrest⟩

end WallaBMC.Library.Scan

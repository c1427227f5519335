import WallaBMC.Library.Text

/-! Four bytes as the text `a.b.c.d` in decimal, and back. -/

namespace WallaBMC.Library.DottedQuad

open Text

def part (b : UInt8) : List UInt8 := latin1 (Nat.toDigits 10 b.toNat)

def text (bytes : List UInt8) : List UInt8 := [46].intercalate (bytes.map part)

def digitsValue (digits : List UInt8) : ℕ := digits.foldl (fun n d => 10 * n + (d.toNat - 48)) 0

def readPart (digits : List UInt8) : Option UInt8 :=
  if !digits.isEmpty && digits.all (fun d => 48 ≤ d.toNat && d.toNat ≤ 57) && digitsValue digits < 256 then
    some (UInt8.ofNat (digitsValue digits))
  else none

def read (text : List UInt8) : Option (List UInt8) :=
  if (text.splitOn 46).length = 4 then (text.splitOn 46).mapM readPart else none

structure PartSpec (b : UInt8) : Prop where
  read : readPart (part b) = some b
  noDot : 46 ∉ part b
  noNul : 0 ∉ part b
  short : (part b).length ≤ 3

variable {digits : List Char}

lemma digit_byte {c : Char} (h : c.isDigit = true) :
    48 ≤ c.toNat ∧ c.toNat ≤ 57 ∧ (UInt8.ofNat c.toNat).toNat = c.toNat := by
  have hzero : '0'.toNat = 48 := rfl
  have hnine : '9'.toNat = 57 := rfl
  rw [Char.isDigit_iff_toNat, hzero, hnine] at h
  exact ⟨h.1, h.2, UInt8.toNat_ofNat_of_lt' (h.2.trans_lt (by norm_num))⟩

lemma latin1_digits (h : ∀ c ∈ digits, c.isDigit = true) :
    ∀ d ∈ latin1 digits, 48 ≤ d.toNat ∧ d.toNat ≤ 57 := by
  intro d hd
  obtain ⟨c, hc, rfl⟩ := List.mem_map.mp hd
  obtain ⟨hlow, hhigh, hbyte⟩ := digit_byte (h c hc)
  rw [hbyte]
  exact ⟨hlow, hhigh⟩

lemma foldl_latin1 (h : ∀ c ∈ digits, c.isDigit = true) (n : ℕ) :
    (latin1 digits).foldl (fun n d => 10 * n + (d.toNat - 48)) n = Nat.ofDigitChars 10 digits n := by
  induction digits generalizing n with
  | nil => rfl
  | cons c digits ih =>
    obtain ⟨hfirst, hrest⟩ := List.forall_mem_cons.mp h
    obtain ⟨-, -, hbyte⟩ := digit_byte hfirst
    have hzero : '0'.toNat = 48 := rfl
    rw [Nat.ofDigitChars_cons, ← ih hrest, latin1, List.map_cons, List.foldl_cons, hbyte, hzero]
    rfl

lemma part_spec (b : UInt8) : PartSpec b := by
  have hdigits : ∀ c ∈ Nat.toDigits 10 b.toNat, c.isDigit = true :=
    fun c hc => Nat.isDigit_of_mem_toDigits (by norm_num) le_rfl hc
  have hbytes := latin1_digits hdigits
  have hvalue : digitsValue (part b) = b.toNat := by
    rw [digitsValue, part, foldl_latin1 hdigits, Nat.ofDigitChars_ten_toDigits]
  have hne : part b ≠ [] := by
    intro hnil
    exact Nat.toDigits_ne_nil (List.map_eq_nil_iff.mp hnil)
  constructor
  · have hread : (!(part b).isEmpty && (part b).all (fun d => 48 ≤ d.toNat && d.toNat ≤ 57) &&
        digitsValue (part b) < 256) = true := by
      simp only [Bool.and_eq_true, List.all_eq_true, decide_eq_true_eq, Bool.not_eq_true',
        List.isEmpty_eq_false_iff, hvalue]
      exact ⟨⟨hne, hbytes⟩, b.toNat_lt⟩
    rw [readPart, if_pos hread, hvalue, UInt8.ofNat_toNat]
  · intro hdot
    exact absurd (hbytes 46 hdot).1 (by decide)
  · intro hnul
    exact absurd (hbytes 0 hnul).1 (by decide)
  · rw [part, length_latin1, Nat.length_toDigits_le_iff (by norm_num) (by norm_num)]
    exact b.toNat_lt.trans_le (by norm_num)

lemma mapM_readPart (bytes : List UInt8) : (bytes.map part).mapM readPart = some bytes := by
  induction bytes with
  | nil => rfl
  | cons b bytes ih =>
    rw [List.map_cons, List.mapM_cons, (part_spec b).read, ih]
    rfl

theorem read_text {bytes : List UInt8} (h : bytes.length = 4) : read (text bytes) = some bytes := by
  have hne : bytes.map part ≠ [] := by
    intro hnil
    rw [List.map_eq_nil_iff.mp hnil] at h
    cases h
  have hdot : ∀ t ∈ bytes.map part, (46 : UInt8) ∉ t := by
    intro t ht
    obtain ⟨b, -, rfl⟩ := List.mem_map.mp ht
    exact (part_spec b).noDot
  have hsplit : (text bytes).splitOn 46 = bytes.map part := List.splitOn_intercalate 46 hdot hne
  rw [read, hsplit, List.length_map, if_pos h, mapM_readPart]

theorem text_injective {bytes bytes' : List UInt8} (h : bytes.length = 4) (h' : bytes'.length = 4)
    (htext : text bytes = text bytes') : bytes = bytes' := by
  have hread := read_text h
  rw [htext, read_text h'] at hread
  exact (Option.some.inj hread).symm

lemma length_text_le {bytes : List UInt8} (h : bytes.length = 4) : (text bytes).length ≤ 15 := by
  match bytes, h with
  | [a, b, c, d], _ =>
    have ha := (part_spec a).short
    have hb := (part_spec b).short
    have hc := (part_spec c).short
    have hd := (part_spec d).short
    simp only [text, List.map_cons, List.map_nil, List.intercalate_cons_cons, List.intercalate_singleton,
      List.length_append, List.length_cons, List.length_nil]
    omega

end WallaBMC.Library.DottedQuad

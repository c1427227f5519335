import Mathlib.Data.List.TakeWhile
import Mathlib.Tactic

/-! Byte arrays of a fixed length: `overwrite` copies to their start, and the C string they hold is what
stands before the first zero byte. -/

namespace WallaBMC.Library.Bytes

def overwrite (mem src : List UInt8) : List UInt8 := src.take mem.length ++ mem.drop src.length

def cstr (mem : List UInt8) : List UInt8 := mem.takeWhile (· ≠ 0)

variable {mem src rest : List UInt8}

@[simp] lemma length_overwrite (mem src : List UInt8) : (overwrite mem src).length = mem.length := by
  simp only [overwrite, List.length_append, List.length_take, List.length_drop]
  omega

@[simp] lemma overwrite_nil (mem : List UInt8) : overwrite mem [] = mem := by
  simp [overwrite]

lemma overwrite_full (h : src.length = mem.length) : overwrite mem src = src := by
  rw [overwrite, ← h, List.take_length, h, List.drop_length, List.append_nil]

lemma overwrite_append (h : src.length ≤ mem.length) :
    overwrite mem src = src ++ mem.drop src.length := by
  rw [overwrite, List.take_of_length_le h]

/-- A zero byte put behind what was copied is as good as copying it along. -/
lemma overwrite_set (h : src.length < mem.length) :
    (overwrite mem src).set src.length 0 = overwrite mem (src ++ [0]) := by
  have hlen : (src ++ [0]).length = src.length + 1 := by simp
  rw [overwrite_append h.le, overwrite_append (by rw [hlen]; exact h),
    List.set_append_right _ _ le_rfl, Nat.sub_self, List.drop_eq_getElem_cons h, List.set_cons_zero,
    hlen, List.append_assoc, List.singleton_append]

lemma zero_notMem_cstr (mem : List UInt8) : 0 ∉ cstr mem := by
  intro h
  have hne := List.mem_takeWhile_imp h
  simp at hne

lemma cstr_of_notMem (h : 0 ∉ mem) : cstr mem = mem := by
  rw [cstr, List.takeWhile_eq_self_iff]
  intro b hb
  have hne : b ≠ 0 := fun he => h (he ▸ hb)
  simpa using hne

lemma cstr_append (h : 0 ∉ src) : cstr (src ++ rest) = src ++ cstr rest := by
  apply List.takeWhile_append_of_pos
  intro b hb
  have hne : b ≠ 0 := fun he => h (he ▸ hb)
  simpa using hne

lemma cstr_take (n : ℕ) : cstr (mem.take n) = (cstr mem).take n := by
  rw [cstr, cstr, List.take_takeWhile]

lemma cstr_append_zero (src rest : List UInt8) : cstr (src ++ 0 :: rest) = cstr src := by
  induction src with
  | nil => simp [cstr]
  | cons b src ih =>
    by_cases hb : b = 0
    · simp [cstr, hb]
    · simpa [cstr, hb] using ih

lemma cstr_split (mem : List UInt8) : mem = cstr mem ∨ ∃ junk, mem = cstr mem ++ 0 :: junk := by
  induction mem with
  | nil => exact .inl rfl
  | cons b mem ih =>
    by_cases hb : b = 0
    · exact .inr ⟨mem, by simp [cstr, hb]⟩
    · have hcons : cstr (b :: mem) = b :: cstr mem := by simp [cstr, hb]
      rw [hcons]
      rcases ih with hall | ⟨junk, hjunk⟩
      · exact .inl (congrArg (List.cons b) hall)
      · exact .inr ⟨junk, congrArg (List.cons b) hjunk⟩

lemma cstr_eq_iff (h : 0 ∉ src) : cstr mem = src ↔ mem = src ∨ ∃ junk, mem = src ++ 0 :: junk := by
  constructor
  · rintro rfl
    exact cstr_split mem
  · rintro (rfl | ⟨junk, rfl⟩)
    · exact cstr_of_notMem h
    · rw [cstr_append_zero, cstr_of_notMem h]

lemma cstr_take_eq_iff {n : ℕ} (hn : src.length < n) :
    cstr (mem.take n) = src ↔ cstr mem = src := by
  rw [cstr_take]
  constructor
  · rintro rfl
    have hshort : (cstr mem).length ≤ n := by
      rw [List.length_take] at hn
      omega
    exact (List.take_of_length_le hshort).symm
  · rintro rfl
    exact List.take_of_length_le hn.le

lemma cstr_overwrite (h : src.length < mem.length) : cstr (overwrite mem (src ++ [0])) = cstr src := by
  rw [overwrite_append (by simpa using h), List.append_assoc, List.singleton_append, cstr_append_zero]

lemma length_cstr_le (mem : List UInt8) : (cstr mem).length ≤ mem.length :=
  (List.takeWhile_prefix _).length_le

lemma length_cstr_lt (h : 0 ∈ mem) : (cstr mem).length < mem.length := by
  apply lt_of_le_of_ne (length_cstr_le mem)
  intro he
  have hself : cstr mem = mem := (List.takeWhile_prefix _).eq_of_length he
  rw [← hself] at h
  exact zero_notMem_cstr mem h

lemma zero_mem_overwrite (h : src.length < mem.length) : 0 ∈ overwrite mem (src ++ [0]) := by
  rw [overwrite_append (by simpa using h)]
  simp

end WallaBMC.Library.Bytes

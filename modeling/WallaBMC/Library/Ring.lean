import Mathlib.Tactic

/-! A memory used as a ring: stream position `p` lives at cell `p % size`. `slots size lo k` are the
cells of the `k` positions from `lo` on, and `Keeps size m stream` says that the memory holds the last
`size` elements of the stream. -/

namespace WallaBMC.Library.Ring

variable {α : Type*} {size lo k p q : ℕ} {m : ℕ → α} {stream : List α}

def slots (size lo k : ℕ) : List ℕ := (List.range' lo k).map (fun p => p % size)

@[simp] lemma slots_length : (slots size lo k).length = k := by simp [slots]

@[simp] lemma slots_zero : slots size lo 0 = [] := rfl

lemma slots_succ : slots size lo (k + 1) = lo % size :: slots size (lo + 1) k := by
  simp [slots, List.range'_succ]

lemma slots_append (j : ℕ) : slots size lo (k + j) = slots size lo k ++ slots size (lo + k) j := by
  simp only [slots, ← List.range'_append_1, List.map_append]

lemma mem_slots {a : ℕ} : a ∈ slots size lo k ↔ ∃ p, lo ≤ p ∧ p < lo + k ∧ p % size = a := by
  simp [slots, and_assoc]

lemma slots_contiguous (h : lo % size + k ≤ size) : slots size lo k = List.range' (lo % size) k := by
  induction k generalizing lo with
  | zero => rfl
  | succ k ih =>
    rw [slots_succ, List.range'_succ]
    cases k with
    | zero => simp
    | succ k =>
      have hn : (lo + 1) % size = lo % size + 1 := by
        rw [Nat.add_mod, Nat.mod_eq_of_lt (by omega : 1 < size), Nat.mod_eq_of_lt (by omega)]
      rw [ih (by omega), hn]

lemma mod_ne_of_lt (h : p < q) (hq : q < p + size) : p % size ≠ q % size := by
  intro he
  have hd : size ∣ q - p := (Nat.modEq_iff_dvd' h.le).mp he
  have := Nat.le_of_dvd (by omega) hd
  omega

section Chunks

variable {c a b N : ℕ}

lemma mod_add_le (hsize : 0 < size) (hc : c ∣ size) (ha : c ∣ a) : a % size + c ≤ size := by
  obtain ⟨m, rfl⟩ := hc
  obtain ⟨k, rfl⟩ := ha
  have hm : 0 < m := Nat.pos_of_mul_pos_left hsize
  rw [Nat.mul_mod_mul_left, ← Nat.mul_succ]
  exact Nat.mul_le_mul_left c (Nat.mod_lt k hm)

lemma disjoint_of_dvd (ha : c ∣ a) (hb : c ∣ b) (hne : a ≠ b) : a + c ≤ b ∨ b + c ≤ a := by
  rcases Nat.lt_or_gt_of_ne hne with h | h
  · have := Nat.le_of_dvd (by omega) (Nat.dvd_sub hb ha)
    omega
  · have := Nat.le_of_dvd (by omega) (Nat.dvd_sub ha hb)
    omega

lemma exists_mul_mod_eq {t : ℕ} (hN : c.gcd N < N) (ht : t < N) (hg : c.gcd N ∣ t) :
    ∃ k, k * c % N = t := by
  obtain ⟨m, -, hm⟩ := Nat.exists_mul_mod_eq_gcd hN
  obtain ⟨q, hq⟩ := hg
  refine ⟨m * q, ?_⟩
  calc m * q * c % N = c * m % N * q % N := by rw [Nat.mod_mul_mod, Nat.mul_comm c m, Nat.mul_right_comm]
    _ = t := by rw [hm, ← hq, Nat.mod_eq_of_lt ht]

end Chunks

def Keeps (size : ℕ) (m : ℕ → α) (stream : List α) : Prop :=
  ∀ p, stream.length ≤ p + size → p < stream.length → stream[p]? = some (m (p % size))

lemma keeps_nil : Keeps size m [] := by
  intro p _ hp
  simp at hp

lemma Keeps.push (h : Keeps size m stream) (a : α) :
    Keeps size (Function.update m (stream.length % size) a) (stream ++ [a]) := by
  intro p hlo hp
  simp only [List.length_append, List.length_singleton] at hlo hp
  rcases Nat.lt_or_eq_of_le (Nat.le_of_lt_succ hp) with hlt | rfl
  · have hne : p % size ≠ stream.length % size := mod_ne_of_lt hlt (by omega)
    rw [Function.update_of_ne hne, List.getElem?_append_left hlt]
    exact h p (by omega) hlt
  · simp

lemma Keeps.slice (h : Keeps size m stream) (hlo : stream.length ≤ lo + size)
    (hk : lo + k ≤ stream.length) : (slots size lo k).map m = (stream.drop lo).take k := by
  induction k generalizing lo with
  | zero => simp
  | succ k ih =>
    have hget := h lo hlo (by omega)
    obtain ⟨hlt, hval⟩ := List.getElem?_eq_some_iff.mp hget
    rw [slots_succ, List.map_cons, ih (by omega) (by omega), List.drop_eq_getElem_cons hlt,
      List.take_succ_cons, hval]

end WallaBMC.Library.Ring

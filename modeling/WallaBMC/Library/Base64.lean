import Mathlib.Tactic

/-! Base64 with the standard alphabet and padding: three bytes become four digits of six bits each. -/

namespace WallaBMC.Library.Base64

def digit (n : ℕ) : UInt8 :=
  if n < 26 then UInt8.ofNat (n + 65)
  else if n < 52 then UInt8.ofNat (n + 71)
  else if n < 62 then UInt8.ofNat (n - 4)
  else if n = 62 then 43
  else 47

def pad : UInt8 := 61

def value (c : UInt8) : Option ℕ :=
  if 65 ≤ c.toNat ∧ c.toNat ≤ 90 then some (c.toNat - 65)
  else if 97 ≤ c.toNat ∧ c.toNat ≤ 122 then some (c.toNat - 71)
  else if 48 ≤ c.toNat ∧ c.toNat ≤ 57 then some (c.toNat + 4)
  else if c = 43 then some 62
  else if c = 47 then some 63
  else none

def encode : List UInt8 → List UInt8
  | [] => []
  | [a] => [digit (a.toNat / 4), digit (a.toNat % 4 * 16), pad, pad]
  | [a, b] =>
    [digit (a.toNat / 4), digit (a.toNat % 4 * 16 + b.toNat / 16), digit (b.toNat % 16 * 4), pad]
  | a :: b :: c :: rest =>
    digit (a.toNat / 4) :: digit (a.toNat % 4 * 16 + b.toNat / 16) ::
      digit (b.toNat % 16 * 4 + c.toNat / 64) :: digit (c.toNat % 64) :: encode rest

def first (i j : ℕ) : UInt8 := UInt8.ofNat (i * 4 + j / 16)

def second (j k : ℕ) : UInt8 := UInt8.ofNat (j % 16 * 16 + k / 4)

def third (k l : ℕ) : UInt8 := UInt8.ofNat (k % 4 * 64 + l)

def decode : List UInt8 → Option (List UInt8)
  | [] => some []
  | w :: x :: y :: z :: rest =>
    match value w, value x, value y, value z with
    | some i, some j, some k, some l =>
      (decode rest).map (fun bytes => first i j :: second j k :: third k l :: bytes)
    | some i, some j, some k, none => if z = pad ∧ rest = [] then some [first i j, second j k] else none
    | some i, some j, none, none => if y = pad ∧ z = pad ∧ rest = [] then some [first i j] else none
    | _, _, _, _ => none
  | _ => none

lemma value_digit {n : ℕ} (h : n < 64) : value (digit n) = some n := by
  have hall : ∀ n < 64, value (digit n) = some n := by decide
  exact hall n h

lemma value_pad : value pad = none := rfl

lemma digit_ne_zero {n : ℕ} (h : n < 64) : digit n ≠ 0 := by
  have hall : ∀ n < 64, digit n ≠ 0 := by decide
  exact hall n h

lemma first_digits (a : UInt8) {m : ℕ} (h : m < 16) :
    first (a.toNat / 4) (a.toNat % 4 * 16 + m) = a := by
  have hsum : a.toNat / 4 * 4 + (a.toNat % 4 * 16 + m) / 16 = a.toNat := by omega
  rw [first, hsum, UInt8.ofNat_toNat]

lemma second_digits (b : UInt8) (k : ℕ) {m : ℕ} (h : m < 4) :
    second (k * 16 + b.toNat / 16) (b.toNat % 16 * 4 + m) = b := by
  have hlt := b.toNat_lt
  have hsum : (k * 16 + b.toNat / 16) % 16 * 16 + (b.toNat % 16 * 4 + m) / 4 = b.toNat := by omega
  rw [second, hsum, UInt8.ofNat_toNat]

lemma third_digits (c : UInt8) (k : ℕ) : third (k * 4 + c.toNat / 64) (c.toNat % 64) = c := by
  have hlt := c.toNat_lt
  have hsum : (k * 4 + c.toNat / 64) % 4 * 64 + c.toNat % 64 = c.toNat := by omega
  rw [third, hsum, UInt8.ofNat_toNat]

theorem decode_encode (bytes : List UInt8) : decode (encode bytes) = some bytes := by
  induction bytes using encode.induct with
  | case1 => rfl
  | case2 a =>
    have ha := a.toNat_lt
    have hi := value_digit (n := a.toNat / 4) (by omega)
    have hj := value_digit (n := a.toNat % 4 * 16) (by omega)
    have hfirst := first_digits a (m := 0) (by omega)
    rw [Nat.add_zero] at hfirst
    simp only [encode, decode, hi, hj, value_pad, and_self, if_true, hfirst]
  | case3 a b =>
    have ha := a.toNat_lt
    have hb := b.toNat_lt
    have hi := value_digit (n := a.toNat / 4) (by omega)
    have hj := value_digit (n := a.toNat % 4 * 16 + b.toNat / 16) (by omega)
    have hk := value_digit (n := b.toNat % 16 * 4) (by omega)
    have hfirst := first_digits a (m := b.toNat / 16) (by omega)
    have hsecond := second_digits b (a.toNat % 4) (m := 0) (by omega)
    rw [Nat.add_zero] at hsecond
    simp only [encode, decode, hi, hj, hk, value_pad, and_self, if_true, hfirst, hsecond]
  | case4 a b c rest ih =>
    have ha := a.toNat_lt
    have hb := b.toNat_lt
    have hc := c.toNat_lt
    have hi := value_digit (n := a.toNat / 4) (by omega)
    have hj := value_digit (n := a.toNat % 4 * 16 + b.toNat / 16) (by omega)
    have hk := value_digit (n := b.toNat % 16 * 4 + c.toNat / 64) (by omega)
    have hl := value_digit (n := c.toNat % 64) (by omega)
    have hfirst := first_digits a (m := b.toNat / 16) (by omega)
    have hsecond := second_digits b (a.toNat % 4) (m := c.toNat / 64) (by omega)
    have hthird := third_digits c (b.toNat % 16)
    simp only [encode, decode, hi, hj, hk, hl, ih, Option.map_some, hfirst, hsecond, hthird]

theorem zero_notMem_encode (bytes : List UInt8) : 0 ∉ encode bytes := by
  have hpad : (0 : UInt8) ≠ pad := by decide
  induction bytes using encode.induct with
  | case1 => simp [encode]
  | case2 a =>
    have ha := a.toNat_lt
    have hi := digit_ne_zero (n := a.toNat / 4) (by omega)
    have hj := digit_ne_zero (n := a.toNat % 4 * 16) (by omega)
    simp [encode, hi.symm, hj.symm, hpad]
  | case3 a b =>
    have ha := a.toNat_lt
    have hb := b.toNat_lt
    have hi := digit_ne_zero (n := a.toNat / 4) (by omega)
    have hj := digit_ne_zero (n := a.toNat % 4 * 16 + b.toNat / 16) (by omega)
    have hk := digit_ne_zero (n := b.toNat % 16 * 4) (by omega)
    simp [encode, hi.symm, hj.symm, hk.symm, hpad]
  | case4 a b c rest ih =>
    have ha := a.toNat_lt
    have hb := b.toNat_lt
    have hc := c.toNat_lt
    have hi := digit_ne_zero (n := a.toNat / 4) (by omega)
    have hj := digit_ne_zero (n := a.toNat % 4 * 16 + b.toNat / 16) (by omega)
    have hk := digit_ne_zero (n := b.toNat % 16 * 4 + c.toNat / 64) (by omega)
    have hl := digit_ne_zero (n := c.toNat % 64) (by omega)
    simp [encode, hi.symm, hj.symm, hk.symm, hl.symm, ih]

end WallaBMC.Library.Base64

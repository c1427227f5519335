import WallaBMC.Library.Text

/-! JSON values, the compact text that a serialiser without blanks writes for them, and its length. Strings and
names are bytes; of these only the ones with a letter of their own are escaped. -/

namespace WallaBMC.Library

inductive Json
  | str (bytes : List UInt8)
  | num (n : ℤ)
  | bool (b : Bool)
  | arr (elems : List Json)
  | obj (members : List (List UInt8 × Json))

namespace Json

open Text

def escaped (b : UInt8) : List UInt8 :=
  match escapeLetter b.toNat with
  | some letter => [92, letter]
  | none => [b]

def quote (bytes : List UInt8) : List UInt8 := 34 :: (bytes.flatMap escaped ++ [34])

def decimal (n : ℤ) : List UInt8 :=
  (if n < 0 then [45] else []) ++ latin1 (Nat.toDigits 10 n.natAbs)

def literal (b : Bool) : List UInt8 := if b then [116, 114, 117, 101] else [102, 97, 108, 115, 101]

def listed (texts : List (List UInt8)) : List UInt8 := [44].intercalate texts

mutual

def text : Json → List UInt8
  | .str bytes => quote bytes
  | .num n => decimal n
  | .bool b => literal b
  | .arr elems => 91 :: (listed (texts elems) ++ [93])
  | .obj members => 123 :: (listed (memberTexts members) ++ [125])

def texts : List Json → List (List UInt8)
  | [] => []
  | elem :: elems => text elem :: texts elems

def memberTexts : List (List UInt8 × Json) → List (List UInt8)
  | [] => []
  | (name, value) :: members => (quote name ++ 58 :: text value) :: memberTexts members

end

mutual

/-- The strings that are members called `name`, at any depth. -/
def named (name : List UInt8) : Json → List (List UInt8)
  | .arr elems => namedElems name elems
  | .obj members => namedMembers name members
  | _ => []

def namedElems (name : List UInt8) : List Json → List (List UInt8)
  | [] => []
  | elem :: elems => named name elem ++ namedElems name elems

def namedMembers (name : List UInt8) : List (List UInt8 × Json) → List (List UInt8)
  | [] => []
  | (other, .str bytes) :: members =>
    if other = name then bytes :: namedMembers name members else namedMembers name members
  | (_, value) :: members => named name value ++ namedMembers name members

end

variable {bytes name : List UInt8} {value : Json} {elems : List Json} {members : List (List UInt8 × Json)}

/-- With a separator behind each of the texts there is one too many. -/
lemma length_listed (ts : List (List UInt8)) :
    (listed ts).length = (ts.map (fun t => t.length + 1)).sum - 1 := by
  induction ts with
  | nil => rfl
  | cons t ts ih =>
    cases ts with
    | nil => simp [listed]
    | cons t' ts =>
      rw [listed] at ih ⊢
      rw [List.intercalate_cons_cons, List.length_append, List.length_append, ih]
      simp only [List.map_cons, List.sum_cons, List.length_singleton]
      omega

lemma length_escaped_le (b : UInt8) : (escaped b).length ≤ 2 := by
  rw [escaped]
  cases escapeLetter b.toNat with
  | none => exact Nat.le_succ 1
  | some letter => exact le_rfl

lemma length_quote_le (bytes : List UInt8) : (quote bytes).length ≤ 2 * bytes.length + 2 := by
  induction bytes with
  | nil => exact le_rfl
  | cons b bytes ih =>
    have hb := length_escaped_le b
    simp only [quote, List.flatMap_cons, List.length_cons, List.length_append] at ih ⊢
    omega

end Json

end WallaBMC.Library

import Mathlib.Tactic

/-! Sequences from several sources, sent in pieces over one line. -/

namespace WallaBMC.Library.Interleaving

variable {ι α : Type*}

def merged (pieces : List (ι × List α)) : List α := pieces.flatMap Prod.snd

def ofSource [DecidableEq ι] (i : ι) (pieces : List (ι × List α)) : List α :=
  (pieces.filter (fun p => p.1 = i)).flatMap Prod.snd

variable {i j : ι} {piece : List α} {pieces : List (ι × List α)}

@[simp] lemma merged_concat : merged (pieces ++ [(i, piece)]) = merged pieces ++ piece := by
  simp [merged]

lemma ofSource_concat_self [DecidableEq ι] : ofSource i (pieces ++ [(i, piece)]) = ofSource i pieces ++ piece := by
  simp [ofSource]

lemma ofSource_concat_of_ne [DecidableEq ι] (h : i ≠ j) : ofSource j (pieces ++ [(i, piece)]) = ofSource j pieces := by
  simp [ofSource, h]

end WallaBMC.Library.Interleaving

import Mathlib.Tactic

/-! An event object: pending bits, and threads blocked until one of the bits they wait for is posted. A thread
takes the bits it returns for; a post wakes every thread that waits for one of the bits, and these take
them together. -/

namespace WallaBMC.Library.EventFlags

structure Flags (τ β : Type*) where
  pending : Finset β
  waiting : τ → Option (Finset β)

namespace Flags

variable {τ β : Type*}

def idle : Flags τ β := ⟨∅, fun _ => none⟩

/-- No thread is blocked although a bit it waits for is pending. -/
def Quiet (flags : Flags τ β) : Prop :=
  ∀ t mask, flags.waiting t = some mask → Disjoint flags.pending mask

lemma quiet_idle : (idle : Flags τ β).Quiet := by
  intro t mask h
  cases h

variable [DecidableEq β] {flags : Flags τ β} {t u : τ} {b : β} {mask mask' bits : Finset β}

section Wait

variable [DecidableEq τ]

/-- Returns `true` if the thread goes on, `false` if it is blocked. -/
def wait (flags : Flags τ β) (t : τ) (mask : Finset β) : Bool × Flags τ β :=
  if (flags.pending ∩ mask).Nonempty then (true, { flags with pending := flags.pending \ mask })
  else (false, { flags with waiting := Function.update flags.waiting t (some mask) })

theorem mem_pending_wait : b ∈ (flags.wait t mask).2.pending ↔ b ∈ flags.pending ∧ b ∉ mask := by
  rw [wait]
  split_ifs with h
  · exact Finset.mem_sdiff
  · refine ⟨fun hb => ⟨hb, fun hmem => h ⟨b, Finset.mem_inter.mpr ⟨hb, hmem⟩⟩⟩, And.left⟩

lemma wait_returns (h : ¬ Disjoint flags.pending mask) :
    flags.wait t mask = (true, { flags with pending := flags.pending \ mask }) :=
  if_pos (Finset.not_disjoint_iff_nonempty_inter.mp h)

lemma wait_blocks (h : Disjoint flags.pending mask) :
    flags.wait t mask = (false, { flags with waiting := Function.update flags.waiting t (some mask) }) :=
  if_neg (fun hne => Finset.not_disjoint_iff_nonempty_inter.mpr hne h)

lemma waiting_wait_of_ne (h : u ≠ t) : (flags.wait t mask).2.waiting u = flags.waiting u := by
  rw [wait]
  split_ifs
  · rfl
  · exact Function.update_of_ne h ..

theorem quiet_wait (hquiet : flags.Quiet) (t : τ) (mask : Finset β) : (flags.wait t mask).2.Quiet := by
  by_cases h : Disjoint flags.pending mask
  · rw [wait_blocks h]
    intro u mask' hu
    by_cases he : u = t
    · simp only [he, Function.update_self, Option.some.injEq] at hu
      rwa [← hu]
    · simp only [Function.update_of_ne he] at hu
      exact hquiet u mask' hu
  · rw [wait_returns h]
    intro u mask' hu
    exact (hquiet u mask' hu).mono_left Finset.sdiff_subset

end Wait

section Post

def wakes (flags : Flags τ β) (bits : Finset β) (t : τ) : Bool :=
  match flags.waiting t with
  | none => false
  | some mask => (bits ∩ mask).Nonempty

lemma wakes_iff : flags.wakes bits t = true ↔ ∃ mask, flags.waiting t = some mask ∧ ¬ Disjoint bits mask := by
  rw [wakes]
  cases flags.waiting t with
  | none => simp
  | some mask => simp [Finset.not_disjoint_iff_nonempty_inter]

variable [Fintype τ]

def taken (flags : Flags τ β) (bits : Finset β) : Finset β :=
  Finset.univ.biUnion (fun t => if flags.wakes bits t then (flags.waiting t).getD ∅ else ∅)

def post (flags : Flags τ β) (mask : Finset β) : Flags τ β :=
  let bits := flags.pending ∪ mask
  { pending := bits \ flags.taken bits
    waiting := fun t => if flags.wakes bits t then none else flags.waiting t }

lemma mem_taken : b ∈ flags.taken bits ↔
    ∃ t mask, flags.waiting t = some mask ∧ ¬ Disjoint bits mask ∧ b ∈ mask := by
  simp only [taken, Finset.mem_biUnion, Finset.mem_univ, true_and]
  constructor
  · rintro ⟨t, ht⟩
    by_cases hwakes : flags.wakes bits t = true
    · obtain ⟨mask, hmask, hbits⟩ := wakes_iff.mp hwakes
      rw [if_pos hwakes, hmask] at ht
      exact ⟨t, mask, hmask, hbits, ht⟩
    · rw [if_neg hwakes] at ht
      exact absurd ht (Finset.notMem_empty b)
  · rintro ⟨t, mask, hmask, hbits, hb⟩
    refine ⟨t, ?_⟩
    rw [if_pos (wakes_iff.mpr ⟨mask, hmask, hbits⟩), hmask]
    exact hb

theorem mem_pending_post : b ∈ (flags.post mask).pending ↔
    (b ∈ flags.pending ∨ b ∈ mask) ∧ ∀ t mask', flags.waiting t = some mask' → b ∉ mask' := by
  simp only [post, Finset.mem_sdiff, Finset.mem_union, mem_taken]
  constructor
  · rintro ⟨hb, htaken⟩
    refine ⟨hb, fun t mask' hmask' hmem => htaken ⟨t, mask', hmask', ?_, hmem⟩⟩
    exact Finset.not_disjoint_iff.mpr ⟨b, Finset.mem_union.mpr hb, hmem⟩
  · rintro ⟨hb, hnobody⟩
    refine ⟨hb, ?_⟩
    rintro ⟨t, mask', hmask', -, hmem⟩
    exact hnobody t mask' hmask' hmem

theorem waiting_post (hquiet : flags.Quiet) : (flags.post mask).waiting t = some mask' ↔
    flags.waiting t = some mask' ∧ Disjoint mask mask' := by
  have hunion : ∀ mask', flags.waiting t = some mask' →
      (Disjoint (flags.pending ∪ mask) mask' ↔ Disjoint mask mask') := fun mask' h => by
    rw [Finset.disjoint_union_left, and_iff_right (hquiet t mask' h)]
  simp only [post]
  by_cases hwakes : flags.wakes (flags.pending ∪ mask) t = true
  · obtain ⟨other, hother, hbits⟩ := wakes_iff.mp hwakes
    rw [if_pos hwakes]
    refine iff_of_false (fun h => by cases h) ?_
    rintro ⟨hmask', hdisjoint⟩
    rw [hother, Option.some.injEq] at hmask'
    subst hmask'
    exact hbits ((hunion other hother).mpr hdisjoint)
  · rw [if_neg hwakes]
    refine ⟨fun h => ⟨h, ?_⟩, And.left⟩
    by_contra hdisjoint
    exact hwakes (wakes_iff.mpr ⟨mask', h, fun hd => hdisjoint ((hunion mask' h).mp hd)⟩)

lemma waiting_post_none (h : flags.waiting t = none) : (flags.post mask).waiting t = none := by
  simp only [post]
  split_ifs
  · rfl
  · exact h

lemma mem_post_of_mem (hquiet : flags.Quiet) (h : b ∈ flags.pending) : b ∈ (flags.post mask).pending :=
  mem_pending_post.mpr ⟨.inl h, fun t mask' hmask' => Finset.disjoint_left.mp (hquiet t mask' hmask') h⟩

theorem quiet_post (hquiet : flags.Quiet) (mask : Finset β) : (flags.post mask).Quiet := by
  intro t mask' h
  have hwaiting := ((waiting_post hquiet).mp h).1
  apply Finset.disjoint_left.mpr
  intro b hb hmem
  exact (mem_pending_post.mp hb).2 t mask' hwaiting hmem

end Post

end Flags

end WallaBMC.Library.EventFlags

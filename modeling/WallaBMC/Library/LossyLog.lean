import WallaBMC.Library.Runs

/-! An unbounded log with independent readers. A reader is opened once, inside the log. A read may be
moved forward to a window start, which is the only way a reader loses entries. What is read of a stream is
an excerpt of it: its entries at increasing positions. -/

namespace WallaBMC.Library.LossyLog

open Runs

variable {α ι : Type*}

structure Log (α ι : Type*) where
  entries : List α
  next : ι → Option ℕ

inductive Event (α ι : Type*)
  | append (xs : List α)
  | openAt (r : ι) (p : ℕ)
  | read (r : ι) (n window : ℕ)

structure Excerpt (stream : List α) (ps : List ℕ) (out : List α) : Prop where
  increasing : ps.Pairwise (· < ·)
  entries : out.map some = ps.map (fun p => stream[p]?)

namespace Excerpt

variable {stream out out' : List α} {ps qs : List ℕ} {p lo : ℕ}

lemma nil : Excerpt stream [] ([] : List α) := ⟨List.Pairwise.nil, rfl⟩

lemma append (h : Excerpt stream ps out) (h' : Excerpt stream qs out') (hlt : ∀ p ∈ ps, ∀ q ∈ qs, p < q) :
    Excerpt stream (ps ++ qs) (out ++ out') where
  increasing := List.pairwise_append.mpr ⟨h.increasing, h'.increasing, hlt⟩
  entries := by rw [List.map_append, List.map_append, h.entries, h'.entries]

lemma lt_length (h : Excerpt stream ps out) (hp : p ∈ ps) : p < stream.length := by
  have hmem : stream[p]? ∈ out.map some := by
    rw [h.entries]
    exact List.mem_map_of_mem hp
  obtain ⟨a, -, ha⟩ := List.mem_map.mp hmem
  exact (List.getElem?_eq_some_iff.mp ha.symm).1

lemma extend (h : Excerpt stream ps out) (more : List α) : Excerpt (stream ++ more) ps out where
  increasing := h.increasing
  entries := by
    rw [h.entries]
    refine List.map_congr_left fun p hp => ?_
    rw [List.getElem?_append_left (h.lt_length hp)]

lemma slice (h : out <+: stream.drop lo) : Excerpt stream (List.range' lo out.length) out where
  increasing := List.pairwise_lt_range'
  entries := by
    obtain ⟨rest, hrest⟩ := h
    apply List.ext_getElem (by simp)
    intro i hi _
    rw [List.length_map] at hi
    have hentry : stream[lo + i]? = some out[i] := by
      rw [← List.getElem?_drop, ← hrest, List.getElem?_append_left hi, List.getElem?_eq_getElem hi]
    simp [hentry]

end Excerpt

/-- `out` is the stream at increasing positions of `[lo, hi)`; positions left out are `lost`. -/
def Delivers (stream : List α) (lo hi : ℕ) (lost : ℕ → Prop) (out : List α) : Prop :=
  ∃ ps : List ℕ, ps.Pairwise (· < ·) ∧ (∀ p ∈ ps, lo ≤ p ∧ p < hi) ∧
    out.map some = ps.map (fun p => stream[p]?) ∧
    ∀ p, lo ≤ p → p < hi → p ∉ ps → lost p

namespace Delivers

variable {stream out out' : List α} {lo mid hi : ℕ} {lost lost' : ℕ → Prop}

lemma nil : Delivers stream lo lo lost ([] : List α) :=
  ⟨[], by simp, by simp, by simp, fun p h h' => by omega⟩

lemma append (h : Delivers stream lo mid lost out) (h' : Delivers stream mid hi lost out')
    (hlo : lo ≤ mid) (hhi : mid ≤ hi) : Delivers stream lo hi lost (out ++ out') := by
  obtain ⟨ps, hps, hb, ho, hl⟩ := h
  obtain ⟨qs, hqs, hb', ho', hl'⟩ := h'
  have hjoin : Excerpt stream (ps ++ qs) (out ++ out') :=
    Excerpt.append ⟨hps, ho⟩ ⟨hqs, ho'⟩ fun p hp q hq => (hb p hp).2.trans_le (hb' q hq).1
  refine ⟨ps ++ qs, hjoin.increasing, ?_, hjoin.entries, ?_⟩
  · intro p hp
    rcases List.mem_append.mp hp with hp | hp
    · exact ⟨(hb p hp).1, (hb p hp).2.trans_le hhi⟩
    · exact ⟨hlo.trans (hb' p hp).1, (hb' p hp).2⟩
  · intro p hp hp' hn
    simp only [List.mem_append, not_or] at hn
    by_cases hm : p < mid
    · exact hl p hp hm hn.1
    · exact hl' p (by omega) hp' hn.2

lemma mono (h : Delivers stream lo hi lost out) (hl : ∀ p, lost p → lost' p) :
    Delivers stream lo hi lost' out := by
  obtain ⟨ps, hps, hb, ho, hlost⟩ := h
  exact ⟨ps, hps, hb, ho, fun p hp hp' hn => hl p (hlost p hp hp' hn)⟩

lemma extend (h : Delivers stream lo hi lost out) (more : List α) :
    Delivers (stream ++ more) lo hi lost out := by
  obtain ⟨ps, hps, hb, ho, hlost⟩ := h
  exact ⟨ps, hps, hb, (Excerpt.extend ⟨hps, ho⟩ more).entries, hlost⟩

lemma read (p w n : ℕ) :
    Delivers stream p (max p w + ((stream.drop (max p w)).take n).length) (· < w)
      ((stream.drop (max p w)).take n) := by
  set q := max p w with hq
  set out := (stream.drop q).take n with hout
  have hslice : Excerpt stream (List.range' q out.length) out := Excerpt.slice (List.take_prefix _ _)
  refine ⟨List.range' q out.length, hslice.increasing, ?_, hslice.entries, ?_⟩
  · intro x hx
    simp only [List.mem_range'_1] at hx
    omega
  · intro x hx hx' hn
    simp only [List.mem_range'_1, not_and, not_lt] at hn
    omega

end Delivers

variable [DecidableEq ι]

def readOut (a : Log α ι) (p n w : ℕ) : List α := (a.entries.drop (max p w)).take n

def step (a : Log α ι) : Event α ι → Log α ι × List α
  | .append xs => ({ a with entries := a.entries ++ xs }, [])
  | .openAt r p => ({ a with next := Function.update a.next r (some p) }, [])
  | .read r n w =>
    match a.next r with
    | none => (a, [])
    | some p =>
      let out := readOut a p n w
      ({ a with next := Function.update a.next r (some (max p w + out.length)) }, out)

lemma step_read_closed {a : Log α ι} {r : ι} (h : a.next r = none) (n w : ℕ) :
    step a (.read r n w) = (a, []) := by
  simp only [step, h]

lemma step_read {a : Log α ι} {r : ι} {p : ℕ} (h : a.next r = some p) (n w : ℕ) :
    step a (.read r n w) = (⟨a.entries,
      Function.update a.next r (some (max p w + (readOut a p n w).length))⟩, readOut a p n w) := by
  simp only [step, h]

def Possible (a : Log α ι) : Event α ι → Prop
  | .append _ => True
  | .openAt r p => a.next r = none ∧ p ≤ a.entries.length
  | .read r _ w => a.next r ≠ none ∧ w ≤ a.entries.length

def Event.reads (r : ι) : Event α ι → Bool
  | .read r' _ _ => r' = r
  | _ => false

def outputs (r : ι) (tr : List (Visit (Log α ι) (Event α ι) (List α))) : List α :=
  tr.flatMap (fun v => if v.event.reads r then v.output else [])

def Lost (r : ι) (tr : List (Visit (Log α ι) (Event α ι) (List α))) (p : ℕ) : Prop :=
  ∃ v ∈ tr, ∃ n w, v.event = .read r n w ∧ p < w

def Inside (a : Log α ι) : Prop := ∀ r p, a.next r = some p → p ≤ a.entries.length

variable {a : Log α ι} {e : Event α ι} {es : List (Event α ι)} {r : ι} {p : ℕ}

lemma step_entries (a : Log α ι) (e : Event α ι) :
    ∃ xs, (step a e).1.entries = a.entries ++ xs := by
  cases e with
  | append xs => exact ⟨xs, rfl⟩
  | openAt r p => exact ⟨[], by simp [step]⟩
  | read r n w => cases h : a.next r <;> exact ⟨[], by simp [step, h]⟩

lemma exec_entries (a : Log α ι) (es : List (Event α ι)) :
    ∃ xs, (exec step a es).entries = a.entries ++ xs := by
  induction es generalizing a with
  | nil => exact ⟨[], by simp⟩
  | cons e es ih =>
    obtain ⟨xs, hx⟩ := step_entries a e
    obtain ⟨ys, hy⟩ := ih (step a e).1
    exact ⟨xs ++ ys, by rw [exec_cons, hy, hx, List.append_assoc]⟩

lemma step_inside (h : Inside a) (he : Possible a e) : Inside (step a e).1 := by
  intro r' p' hp
  cases e with
  | append xs =>
    have := h r' p' hp
    simp only [step, List.length_append]
    omega
  | openAt r p =>
    by_cases hr : r' = r
    · subst hr
      simp only [step, Function.update_self, Option.some.injEq] at hp
      exact hp ▸ he.2
    · exact h r' p' (by simpa [step, hr] using hp)
  | read r n w =>
    cases hn : a.next r with
    | none =>
      rw [step_read_closed hn] at hp ⊢
      exact h r' p' hp
    | some q =>
      rw [step_read hn] at hp ⊢
      by_cases hr : r' = r
      · subst hr
        simp only [Function.update_self, Option.some.injEq, readOut, List.length_take,
          List.length_drop] at hp
        have := h r' q hn
        have := he.2
        dsimp only
        omega
      · simp only [Function.update_of_ne hr] at hp
        exact h r' p' hp

lemma step_delivers (he : Possible a e) (hp : a.next r = some p) :
    ∃ p', (step a e).1.next r = some p' ∧ p ≤ p' ∧
      Delivers (step a e).1.entries p p' (fun x => ∃ n w, e = .read r n w ∧ x < w)
        (if e.reads r then (step a e).2 else []) := by
  cases e with
  | append xs => exact ⟨p, hp, le_rfl, by simpa [Event.reads] using Delivers.nil⟩
  | openAt r' q =>
    have hr : r ≠ r' := fun hr => by
      have := he.1
      simp [← hr, hp] at this
    exact ⟨p, by simpa [step, hr] using hp, le_rfl, by simpa [Event.reads] using Delivers.nil⟩
  | read r' n w =>
    by_cases hr : r' = r
    · subst hr
      rw [step_read hp]
      refine ⟨max p w + (readOut a p n w).length, Function.update_self .., by omega, ?_⟩
      simpa only [Event.reads, decide_true, if_true, readOut] using
        (Delivers.read p w n).mono fun x hx => ⟨n, w, rfl, hx⟩
    · refine ⟨p, ?_, le_rfl, by simpa [Event.reads, hr] using Delivers.nil⟩
      cases hn : a.next r' with
      | none => rwa [step_read_closed hn]
      | some q => simpa [step_read hn, Function.update_of_ne (Ne.symm hr)] using hp

theorem run_delivers (h : Inside a) (hes : Along step Possible a es) (hp : a.next r = some p) :
    ∃ p', (exec step a es).next r = some p' ∧ p ≤ p' ∧
      Delivers (exec step a es).entries p p' (Lost r (trace step a es))
        (outputs r (trace step a es)) := by
  induction es generalizing a p with
  | nil => exact ⟨p, hp, le_rfl, Delivers.nil⟩
  | cons e es ih =>
    obtain ⟨q, hq, hpq, hd⟩ := step_delivers hes.1 hp
    have hin := step_inside h hes.1
    obtain ⟨p', hp', hqp, hd'⟩ := ih hin hes.2 hq
    obtain ⟨xs, hx⟩ := exec_entries (step a e).1 es
    refine ⟨p', hp', hpq.trans hqp, ?_⟩
    have hfirst : Delivers ((step a e).1.entries ++ xs) p q (Lost r (trace step a (e :: es)))
        (if e.reads r then (step a e).2 else []) := by
      apply (hd.extend xs).mono
      rintro x ⟨n, w, rfl, hw⟩
      exact ⟨_, List.mem_cons_self, n, w, rfl, hw⟩
    have hrest : Delivers (exec step (step a e).1 es).entries q p'
        (Lost r (trace step a (e :: es))) (outputs r (trace step (step a e).1 es)) := by
      apply hd'.mono
      rintro x ⟨v, hv, n, w, hvw, hw⟩
      exact ⟨v, List.mem_cons_of_mem _ hv, n, w, hvw, hw⟩
    rw [← hx] at hfirst
    exact hfirst.append hrest hpq hqp

end WallaBMC.Library.LossyLog

/-
Events that happen at most once along a run.

An event of a kind leaves a mark on the state, and a mark is never taken away. So the kind
happens at most once along a run exactly if no event of it meets a state that is marked.
-/
import EnvMgr.Lib.Runs
import Mathlib.Data.Nat.Notation

namespace EnvMgr.Runs

variable {σ ε : Type*} {step : σ → ε → σ}

/-- How many events of the run are of the kind `p`, each at the state it meets. -/
def tally (step : σ → ε → σ) (p : σ → ε → Bool) : σ → List ε → ℕ
  | _, [] => 0
  | s, e :: es => (if p s e then 1 else 0) + tally step p (step s e) es

theorem along_forall {ι : Type*} {p : ι → σ → ε → Prop} {s : σ} {es : List ε} :
    Along step (fun s e => ∀ i, p i s e) s es ↔ ∀ i, Along step (p i) s es := by
  induction es generalizing s with
  | nil => exact ⟨fun _ _ => trivial, fun _ => trivial⟩
  | cons e es ih => simp only [along_cons, ih, forall_and]

theorem along_congr_event {p q : σ → ε → Prop} (hpq : ∀ s e, p s e ↔ q s e) {s : σ}
    {es : List ε} : Along step p s es ↔ Along step q s es :=
  @along_congr σ ε step (fun _ => True) p q (fun _ _ _ => trivial) (fun s e _ => hpq s e) s trivial
    es

section

variable {p : σ → ε → Bool} {mark : σ → Prop}

/-- The state is marked, so the kind must not happen any more. -/
theorem tally_eq_zero_iff (hmark : ∀ s e, mark (step s e) ↔ mark s ∨ p s e = true) {s : σ}
    (hs : mark s) {es : List ε} :
    tally step p s es = 0 ↔ Along step (fun s e => mark s → p s e = false) s es := by
  induction es generalizing s with
  | nil => exact iff_of_true rfl trivial
  | cons e es ih =>
    have hnext : mark (step s e) := (hmark s e).2 (Or.inl hs)
    rw [tally, along_cons, ← ih hnext, Nat.add_eq_zero_iff]
    cases p s e with
    | true => simp [hs]
    | false => simp

/-- **At most once.** -/
theorem tally_le_one_iff (hmark : ∀ s e, mark (step s e) ↔ mark s ∨ p s e = true) {s : σ}
    (hs : ¬ mark s) {es : List ε} :
    tally step p s es ≤ 1 ↔ Along step (fun s e => mark s → p s e = false) s es := by
  induction es generalizing s with
  | nil => exact iff_of_true (Nat.zero_le 1) trivial
  | cons e es ih =>
    rw [tally, along_cons]
    cases hp : p s e with
    | true =>
      -- this event is the one, and marks the state
      have hnext : mark (step s e) := (hmark s e).2 (Or.inr hp)
      rw [← tally_eq_zero_iff hmark hnext, if_pos rfl]
      simp only [hs, false_implies, true_and]
      omega
    | false =>
      have hnext : ¬ mark (step s e) := by
        rw [hmark, hp]
        simpa using hs
      rw [← ih hnext]
      simp

end

/-! ## What an event makes -/

section

variable {α : Type*} {made : σ → ε → α → Prop} {s : σ} {es before before' : List ε} {a a' : α}

/-- The event that comes after `before` in the run makes `a`. -/
def MakesAt (step : σ → ε → σ) (made : σ → ε → α → Prop) (s : σ) (es before : List ε) (a : α) :
    Prop :=
  ∃ e after, es = before ++ e :: after ∧ made (run step s before) e a

section

variable {wf mark : σ → Prop}

/-- No place after one where something is made makes anything. -/
theorem not_made_later (hwf : ∀ s e, wf s → wf (step s e))
    (hmade : ∀ s e a, wf s → made s e a → ¬ mark s ∧ mark (step s e))
    (hmark : ∀ s e, wf s → mark s → mark (step s e)) (hs : wf s) {e e' : ε} {rest : List ε}
    (hfirst : made (run step s before) e a) :
    ¬ made (run step s (before ++ e :: rest)) e' a' := by
  intro hsecond
  have hreached := run_inv hwf hs before
  have hstep : ∀ t e, wf t ∧ mark t → wf (step t e) ∧ mark (step t e) :=
    fun t e h => ⟨hwf t e h.1, hmark t e h.1 h.2⟩
  have hkept := run_inv hstep ⟨hwf _ e hreached, (hmade _ e a hreached hfirst).2⟩ rest
  rw [run_append, run_cons] at hsecond
  exact (hmade _ e' a' hkept.1 hsecond).1 hkept.2

/-- Of two places of one run where something is made, the later is the earlier. -/
theorem made_at_later (hwf : ∀ s e, wf s → wf (step s e))
    (hmade : ∀ s e a, wf s → made s e a → ¬ mark s ∧ mark (step s e))
    (hmark : ∀ s e, wf s → mark s → mark (step s e))
    (hone : ∀ s e a a', wf s → made s e a → made s e a' → a = a') (hs : wf s)
    {e e' : ε} {after after' rest : List ε} (hrest : e :: after = rest ++ e' :: after')
    (hfirst : made (run step s before) e a) (hsecond : made (run step s (before ++ rest)) e' a') :
    before = before ++ rest ∧ a = a' := by
  cases rest with
  | nil =>
    obtain ⟨rfl, -⟩ := List.cons.inj hrest
    rw [List.append_nil] at hsecond ⊢
    exact ⟨rfl, hone _ _ _ _ (run_inv hwf hs _) hfirst hsecond⟩
  | cons x rest =>
    obtain ⟨rfl, -⟩ := List.cons.inj hrest
    exact absurd hsecond (not_made_later hwf hmade hmark hs hfirst)

/-- **Something is made once at most**, if making it needs a state without the mark and leaves
one with it, and one event makes one thing. -/
theorem MakesAt.unique (hwf : ∀ s e, wf s → wf (step s e))
    (hmade : ∀ s e a, wf s → made s e a → ¬ mark s ∧ mark (step s e))
    (hmark : ∀ s e, wf s → mark s → mark (step s e))
    (hone : ∀ s e a a', wf s → made s e a → made s e a' → a = a') (hs : wf s)
    (h : MakesAt step made s es before a) (h' : MakesAt step made s es before' a') :
    before = before' ∧ a = a' := by
  obtain ⟨e, after, hsplit, hfirst⟩ := h
  obtain ⟨e', after', hsplit', hsecond⟩ := h'
  -- one of the two places comes no later than the other
  rcases List.append_eq_append_iff.1 (hsplit.symm.trans hsplit') with
    ⟨rest, hbefore, hrest⟩ | ⟨rest, hbefore, hrest⟩
  · rw [hbefore] at hsecond ⊢
    exact made_at_later hwf hmade hmark hone hs hrest hfirst hsecond
  · rw [hbefore] at hfirst ⊢
    obtain ⟨hat, hthing⟩ := made_at_later hwf hmade hmark hone hs hrest hsecond hfirst
    exact ⟨hat.symm, hthing.symm⟩

end

end

end EnvMgr.Runs

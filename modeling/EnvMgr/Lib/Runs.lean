/-
Runs of a deterministic step function.

A service that handles one request at a time is a step function `σ → ε → σ`; a
schedule of an interleaved system is one too, once each event names the party
that moves. What is proved about such a system is nearly always one of four
things, and this file has a rule for each: an invariant of every state reached,
an invariant that holds as long as every event meets a side condition, the
exact side condition under which an invariant holds, and a relation that every
later state bears to an earlier one.

A round takes a state to the next one or raises. Where every round that has something to do goes
through, keeps an invariant and lowers a measure, the rounds come to an end, and the invariant
holds there. What a round does is often to put more into a set of things, out of what those that
are in it lead to; a set that leads nowhere else has in it all that can be reached.
-/
import EnvMgr.Lib.Raising
import Mathlib.Logic.Relation
import Mathlib.Order.Defs.Unbundled

namespace EnvMgr.Runs

variable {σ ε : Type*}

/-! ## Runs -/

/-- The state after the events of `es`, taken one after another. -/
def run (step : σ → ε → σ) (s : σ) (es : List ε) : σ := es.foldl step s

/-- `p` holds of every event of `es` at the state that event meets. -/
def Along (step : σ → ε → σ) (p : σ → ε → Prop) : σ → List ε → Prop
  | _, [] => True
  | s, e :: es => p s e ∧ Along step p (step s e) es

/-- `inv` holds of every state the run passes through, its first and last
included. -/
def Always (step : σ → ε → σ) (inv : σ → Prop) : σ → List ε → Prop
  | s, [] => inv s
  | s, e :: es => inv s ∧ Always step inv (step s e) es

variable {step : σ → ε → σ}

@[simp] theorem run_nil (s : σ) : run step s [] = s := rfl

@[simp] theorem run_cons (s : σ) (e : ε) (es : List ε) :
    run step s (e :: es) = run step (step s e) es := rfl

theorem run_append (s : σ) (es₁ es₂ : List ε) :
    run step s (es₁ ++ es₂) = run step (run step s es₁) es₂ :=
  List.foldl_append

@[simp] theorem along_nil (p : σ → ε → Prop) (s : σ) : Along step p s [] := trivial

@[simp] theorem along_cons (p : σ → ε → Prop) (s : σ) (e : ε) (es : List ε) :
    Along step p s (e :: es) ↔ p s e ∧ Along step p (step s e) es := Iff.rfl

instance decidableAlong (p : σ → ε → Prop) [∀ s e, Decidable (p s e)] :
    ∀ (s : σ) (es : List ε), Decidable (Along step p s es)
  | _, [] => .isTrue trivial
  | s, e :: es =>
    have : Decidable (Along step p (step s e) es) := decidableAlong p (step s e) es
    inferInstanceAs (Decidable (_ ∧ _))

theorem along_append (p : σ → ε → Prop) (s : σ) (es₁ es₂ : List ε) :
    Along step p s (es₁ ++ es₂) ↔
      Along step p s es₁ ∧ Along step p (run step s es₁) es₂ := by
  induction es₁ generalizing s with
  | nil => simp
  | cons e es₁ ih => simp only [List.cons_append, along_cons, run_cons, ih, and_assoc]

/-! ## Invariants -/

/-- An invariant kept by every event that meets its side condition `p` is kept
by every run whose events all meet it. -/
theorem run_inv_along {inv : σ → Prop} {p : σ → ε → Prop}
    (hstep : ∀ s e, inv s → p s e → inv (step s e)) {s : σ} (hs : inv s)
    {es : List ε} (hes : Along step p s es) : inv (run step s es) := by
  induction es generalizing s with
  | nil => exact hs
  | cons e es ih => exact ih (hstep s e hs hes.1) hes.2

/-- The unconditional rule: what every event keeps, every run keeps. -/
theorem run_inv {inv : σ → Prop} (hstep : ∀ s e, inv s → inv (step s e)) {s : σ}
    (hs : inv s) (es : List ε) : inv (run step s es) := by
  induction es generalizing s with
  | nil => exact hs
  | cons e es ih => exact ih (hstep s e hs)

/-- `Always` is `inv` at the end of every prefix of the run. -/
theorem always_iff (inv : σ → Prop) (s : σ) (es : List ε) :
    Always step inv s es ↔ ∀ es₁ es₂, es = es₁ ++ es₂ → inv (run step s es₁) := by
  induction es generalizing s with
  | nil =>
    constructor
    · intro h es₁ es₂ heq
      obtain ⟨rfl, rfl⟩ := List.append_eq_nil_iff.1 heq.symm
      exact h
    · intro h
      exact h [] [] rfl
  | cons e es ih =>
    constructor
    · rintro ⟨h₀, h⟩ es₁ es₂ heq
      cases es₁ with
      | nil => exact h₀
      | cons e' es₁ =>
        simp only [List.cons_append, List.cons.injEq] at heq
        obtain ⟨rfl, heq⟩ := heq
        exact (ih _).1 h es₁ es₂ heq
    · intro h
      refine ⟨h [] (e :: es) rfl, (ih _).2 (fun es₁ es₂ heq => ?_)⟩
      exact h (e :: es₁) es₂ (by rw [heq, List.cons_append])

theorem Always.head {inv : σ → Prop} {s : σ} {es : List ε} (h : Always step inv s es) : inv s := by
  cases es with
  | nil => exact h
  | cons e es => exact h.1

theorem along_true (s : σ) (es : List ε) : Along step (fun _ _ => True) s es := by
  induction es generalizing s with
  | nil => trivial
  | cons e es ih => exact ⟨trivial, ih _⟩

/-- The exact side condition, along the runs whose events all meet `r`. -/
theorem always_iff_along_given {wf inv : σ → Prop} {p r : σ → ε → Prop}
    (hwf : ∀ s e, wf s → wf (step s e))
    (hstep : ∀ s e, wf s → r s e → inv s → (inv (step s e) ↔ p s e)) {s : σ} (hs : wf s)
    (hi : inv s) {es : List ε} (hr : Along step r s es) :
    Always step inv s es ↔ Along step p s es := by
  induction es generalizing s with
  | nil => exact ⟨fun _ => trivial, fun _ => hi⟩
  | cons e es ih =>
    constructor
    · rintro ⟨-, h⟩
      have hgood : inv (step s e) := h.head
      exact ⟨(hstep s e hs hr.1 hi).1 hgood, (ih (hwf s e hs) hgood hr.2).1 h⟩
    · rintro ⟨hp, h⟩
      have hgood : inv (step s e) := (hstep s e hs hr.1 hi).2 hp
      exact ⟨hi, (ih (hwf s e hs) hgood hr.2).2 h⟩

/-- **The exact side condition.** Where a step from a good state stays good
exactly when its event meets `p`, the whole run stays good exactly when all its
events do. `wf` carries what is true of every state anyway. -/
theorem always_iff_along {wf inv : σ → Prop} {p : σ → ε → Prop} (hwf : ∀ s e, wf s → wf (step s e))
    (hstep : ∀ s e, wf s → inv s → (inv (step s e) ↔ p s e)) {s : σ} (hs : wf s) (hi : inv s)
    (es : List ε) : Always step inv s es ↔ Along step p s es :=
  always_iff_along_given hwf (fun s e hs _ hi => hstep s e hs hi) hs hi (along_true s es)

/-- Two laws of a single event that agree on well-formed states agree along
every run. -/
theorem along_congr {wf : σ → Prop} {p q : σ → ε → Prop}
    (hwf : ∀ s e, wf s → wf (step s e)) (hpq : ∀ s e, wf s → (p s e ↔ q s e))
    {s : σ} (hs : wf s) (es : List ε) : Along step p s es ↔ Along step q s es := by
  induction es generalizing s with
  | nil => exact Iff.rfl
  | cons e es ih => exact and_congr (hpq s e hs) (ih (hwf s e hs))

/-! ## Relations between earlier and later states -/

/-- A reflexive and transitive relation that every event respects holds between
the two ends of every run. -/
theorem run_rel {R : σ → σ → Prop} (hrefl : ∀ s, R s s) (htrans : ∀ {a b c}, R a b → R b c → R a c)
    (hstep : ∀ s e, R s (step s e)) (s : σ) (es : List ε) : R s (run step s es) := by
  induction es generalizing s with
  | nil => exact hrefl s
  | cons e es ih => exact htrans (hstep s e) (ih _)

/-- The same along the runs whose events all meet a side condition. -/
theorem run_rel_along {R : σ → σ → Prop} {p : σ → ε → Prop} (hrefl : ∀ s, R s s)
    (htrans : ∀ {a b c}, R a b → R b c → R a c) (hstep : ∀ s e, p s e → R s (step s e))
    {s : σ} {es : List ε} (hes : Along step p s es) : R s (run step s es) := by
  induction es generalizing s with
  | nil => exact hrefl s
  | cons e es ih => exact htrans (hstep s e hes.1) (ih hes.2)

/-- **Where a thing comes from.** If whatever a state holds after one event is a
later version (`R`) of something held before it, or was made by that event, then
whatever the state holds after a run is a later version of something held at
its start or of something that one of its events made. -/
theorem run_origin {α : Type*} {wf : σ → Prop} (has : σ → α → Prop) {R : α → α → Prop}
    {made : σ → ε → α → Prop} (hrefl : ∀ a, R a a) (htrans : ∀ {a b c}, R a b → R b c → R a c)
    (hwf : ∀ s e, wf s → wf (step s e))
    (hstep : ∀ s e, wf s → ∀ a, has (step s e) a → (∃ a₀, has s a₀ ∧ R a₀ a) ∨ made s e a)
    {s : σ} (hs : wf s) {es : List ε} {a : α} (ha : has (run step s es) a) :
    (∃ a₀, has s a₀ ∧ R a₀ a) ∨
      ∃ es₁ e es₂ a₀, es = es₁ ++ e :: es₂ ∧ made (run step s es₁) e a₀ ∧ R a₀ a := by
  induction es generalizing s with
  | nil => exact Or.inl ⟨a, ha, hrefl a⟩
  | cons e es ih =>
    rcases ih (hwf s e hs) ha with ⟨b, hb, hba⟩ | ⟨es₁, e', es₂, b, rfl, hmade, hba⟩
    · rcases hstep s e hs b hb with ⟨c, hc, hcb⟩ | hmade
      · exact Or.inl ⟨c, hc, htrans hcb hba⟩
      · exact Or.inr ⟨[], e, es, b, rfl, hmade, hba⟩
    · exact Or.inr ⟨e :: es₁, e', es₂, b, rfl, hmade, hba⟩

/-- **Since when it holds.** If whatever a state holds after one event it held before or was
made to by that event, then what it holds after a run it has held since the start, or ever
since one of the events made it. -/
theorem run_since {α : Type*} (has : σ → α → Prop) {made : σ → ε → α → Prop}
    (hstep : ∀ s e a, has (step s e) a → has s a ∨ made s e a) {s : σ} {es : List ε} {a : α}
    (ha : has (run step s es) a) :
    Always step (fun t => has t a) s es ∨
      ∃ es₁ e es₂, es = es₁ ++ e :: es₂ ∧ made (run step s es₁) e a ∧
        Always step (fun t => has t a) (run step s (es₁ ++ [e])) es₂ := by
  induction es generalizing s with
  | nil => exact Or.inl ha
  | cons e es ih =>
    rcases ih ha with hall | ⟨es₁, e', es₂, rfl, hmade, hall⟩
    · rcases hstep s e a hall.head with hs | hmade
      · exact Or.inl ⟨hs, hall⟩
      · exact Or.inr ⟨[], e, es, rfl, hmade, hall⟩
    · exact Or.inr ⟨e :: es₁, e', es₂, rfl, hmade, hall⟩

/-- Whatever a state holds, the states after it hold a later version of. -/
theorem run_later {α : Type*} {wf : σ → Prop} (has : σ → α → Prop) {R : α → α → Prop}
    (hrefl : ∀ a, R a a) (htrans : ∀ {a b c}, R a b → R b c → R a c)
    (hwf : ∀ s e, wf s → wf (step s e))
    (hstep : ∀ s e, wf s → ∀ a, has s a → ∃ a', has (step s e) a' ∧ R a a')
    {s : σ} (hs : wf s) {a : α} (ha : has s a) (es : List ε) :
    ∃ a', has (run step s es) a' ∧ R a a' := by
  induction es generalizing s a with
  | nil => exact ⟨a, ha, hrefl a⟩
  | cons e es ih =>
    obtain ⟨b, hb, hab⟩ := hstep s e hs a ha
    obtain ⟨c, hc, hbc⟩ := ih (hwf s e hs) hb
    exact ⟨c, hc, htrans hab hbc⟩

/-! ## A run as one of its parties sees it -/

/-- **Simulation of one party's events.** Where the events of one party keep a relation to a
machine of its own, and the events of the others keep it with that machine standing still, the
whole run is related to that machine's run over the party's own events. -/
theorem run_view {τ : Type*} {R : σ → τ → Prop} {step' : τ → ε → τ} {mine : ε → Bool}
    (hmine : ∀ s t e, mine e = true → R s t → R (step s e) (step' t e))
    (hother : ∀ s t e, mine e = false → R s t → R (step s e) t) {s : σ} {t : τ} (h : R s t)
    (es : List ε) : R (run step s es) (run step' t (es.filter mine)) := by
  induction es generalizing s t with
  | nil => exact h
  | cons e es ih =>
    rw [List.filter_cons]
    split
    · next he => exact ih (hmine s t e he h)
    · next he => exact ih (hother s t e (by simpa using he) h)

end EnvMgr.Runs

/-! ## Until nothing is left to do -/

namespace EnvMgr.Rounds

open Relation (ReflTransGen)

/-! ## Rounds -/

section

variable {σ : Type} {ρ : Type*} {round : σ → Except ρ σ} {inv done : σ → Prop} {s s' : σ}

/-- `n` rounds, one after the other. -/
def rounds (round : σ → Except ρ σ) : ℕ → σ → Except ρ σ
  | 0, s => .ok s
  | n + 1, s => round s >>= rounds round n

theorem rounds_inv (hround : ∀ s s', inv s → round s = .ok s' → inv s') {n : ℕ} (hs : inv s)
    (h : rounds round n s = .ok s') : inv s' := by
  induction n generalizing s with
  | zero =>
    cases h
    exact hs
  | succ n ih =>
    obtain ⟨t, ht, hrest⟩ := bind_eq_ok.1 h
    exact ih (hround s t hs ht) hrest

/-- **The variant rule.** -/
theorem ends_of_decreasing (measure : σ → ℕ)
    (hround : ∀ s, inv s → ¬ done s → ∃ s', round s = .ok s' ∧ inv s' ∧ measure s' < measure s)
    (hs : inv s) : ∃ n s', rounds round n s = .ok s' ∧ inv s' ∧ done s' := by
  induction hm : measure s using Nat.strongRecOn generalizing s with
  | ind m ih =>
    by_cases hdone : done s
    · exact ⟨0, s, rfl, hs, hdone⟩
    · obtain ⟨t, ht, hinv, hlt⟩ := hround s hs hdone
      obtain ⟨n, s', hrest, hgood⟩ := ih (measure t) (hm ▸ hlt) hinv rfl
      exact ⟨n + 1, s', bind_eq_ok.2 ⟨t, ht, hrest⟩, hgood⟩

end

/-! ## What is reached -/

section

variable {α : Type*} {leads : α → α → Prop} {A B : α → Prop} {y : α}

/-- It can be reached from what is in `A`. -/
def Reached (leads : α → α → Prop) (A : α → Prop) (y : α) : Prop :=
  ∃ x, A x ∧ ReflTransGen leads x y

theorem reached_of_mem (h : A y) : Reached leads A y := ⟨y, h, ReflTransGen.refl⟩

theorem Reached.next {z : α} (h : Reached leads A y) (hz : leads y z) : Reached leads A z := by
  obtain ⟨x, hx, hpath⟩ := h
  exact ⟨x, hx, hpath.tail hz⟩

/-- **A set that leads nowhere else** has everything in it that can be reached from a part of it. -/
theorem Reached.mem_of_closed (h : Reached leads A y) (hsub : ∀ x, A x → B x)
    (hclosed : ∀ x z, B x → leads x z → B z) : B y := by
  obtain ⟨x, hx, hpath⟩ := h
  induction hpath with
  | refl => exact hsub x hx
  | tail _ hlast ih => exact hclosed _ _ ih hlast

/-- Putting in what is reached anyway leads nowhere new. -/
theorem Reached.of_grown (h : Reached leads B y) (hgrown : ∀ x, B x → Reached leads A x) :
    Reached leads A y :=
  h.mem_of_closed hgrown fun _ _ hx hz => hx.next hz

end

end EnvMgr.Rounds

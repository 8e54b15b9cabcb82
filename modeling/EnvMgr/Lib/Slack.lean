/-
Critical paths.

Nodes have a start and a finish, and an edge from a node to what waits for it. A
backward pass gives each node the latest finish that delays nothing; a node is
critical when that is its own finish. A delay of one node spreads to the nodes
that start the moment it finishes, and so on. The two agree: the latest finish is
the finish exactly when a chain without gaps leads to the end of the whole, and
exactly then a delay of the node delays the end. What this needs is that
everything that comes after the node moves with what it waits for.
-/
import EnvMgr.Lib.Acyclic
import Mathlib.Algebra.Order.Group.Int
import Mathlib.Algebra.Ring.Divisibility.Basic
import Mathlib.Algebra.Ring.Int.Defs
import Mathlib.Order.Bounds.Basic

namespace EnvMgr.Slack

open Relation

variable {ι : Type*} {edge : ι → ι → Prop} {start finish : ι → ℤ}

/-- `s` starts the moment that `p`, which it waits for, finishes. -/
def Tight (edge : ι → ι → Prop) (start finish : ι → ℤ) (p s : ι) : Prop :=
  edge p s ∧ finish p = start s

theorem edge_of_tight {x y : ι} (h : ReflTransGen (Tight edge start finish) x y) :
    ReflTransGen edge x y :=
  ReflTransGen.mono (fun _ _ htight => htight.1) _ _ h

/-! ## The backward pass -/

/-- `latest x` is the earliest latest start of what waits for `x`, and the end of
the whole if nothing does. -/
structure Latest (edge : ι → ι → Prop) (start finish : ι → ℤ) (last : ℤ) (latest : ι → ℤ)
    (x : ι) : Prop where
  of_none : (∀ s, ¬ edge x s) → latest x = last
  le : ∀ s, edge x s → latest x ≤ latest s - (finish s - start s)
  attained : (∃ s, edge x s) → ∃ s, edge x s ∧ latest x = latest s - (finish s - start s)

/-- **A latest finish is met exactly by a chain without gaps to the end.** -/
theorem latest_spec {last : ℤ} {latest : ι → ℤ} {k : ι} (hwf : WellFounded fun s x => edge x s)
    (hlatest : ∀ x, ReflTransGen edge k x → Latest edge start finish last latest x)
    (hstart : ∀ x s, ReflTransGen edge k x → edge x s → finish x ≤ start s)
    (hlong : ∀ x s, ReflTransGen edge k x → edge x s → start s ≤ finish s)
    (hlast : ∀ x, ReflTransGen edge k x → finish x ≤ last) (x : ι) (hx : ReflTransGen edge k x) :
    finish x ≤ latest x ∧ latest x ≤ last ∧
      (latest x = finish x ↔ ∃ y, ReflTransGen (Tight edge start finish) x y ∧ finish y = last) := by
  induction x using hwf.induction with
  | h x ih =>
    -- the induction goes against the edges: what waits for `x` is settled before `x`
    have hnext : ∀ s, edge x s → ReflTransGen edge k s := fun s hs => hx.tail hs
    by_cases hsome : ∃ s, edge x s
    · obtain ⟨s, hs, heq⟩ := (hlatest x hx).attained hsome
      obtain ⟨hlow, hhigh, hiff⟩ := ih s hs (hnext s hs)
      have hxs := hstart x s hx hs
      have hss := hlong x s hx hs
      refine ⟨by omega, by omega, ?_, ?_⟩
      · intro hmet
        obtain ⟨y, hpath, hy⟩ := hiff.1 (by omega)
        exact ⟨y, ReflTransGen.head ⟨hs, by omega⟩ hpath, hy⟩
      · rintro ⟨y, hpath, hy⟩
        rcases ReflTransGen.cases_head hpath with rfl | ⟨z, ⟨hz, htight⟩, hrest⟩
        · omega
        · have hmet := (ih z hz (hnext z hz)).2.2.2 ⟨y, hrest, hy⟩
          have hle := (hlatest x hx).le z hz
          omega
    · have hnone : ∀ s, ¬ edge x s := fun s hs => hsome ⟨s, hs⟩
      have heq := (hlatest x hx).of_none hnone
      have hle := hlast x hx
      refine ⟨by omega, by omega, fun hmet => ⟨x, ReflTransGen.refl, by omega⟩, ?_⟩
      rintro ⟨y, hpath, hy⟩
      rcases ReflTransGen.cases_head hpath with rfl | ⟨z, ⟨hz, -⟩, -⟩
      · omega
      · exact absurd hz (hnone z)

/-! ## A delay -/

/-- What a node may not start before: the values of `base`, and the finish of
everything it waits for. It starts at the greatest of them. -/
def StartsAt (edge : ι → ι → Prop) (base : ι → Set ℤ) (finish : ι → ℤ) (x : ι) (at_ : ℤ) : Prop :=
  IsGreatest (base x ∪ {v | ∃ p, edge p x ∧ finish p = v}) at_

/-- The finish of `k` is `δ` later, and everything else follows by its rule. All
times lie on a grid of `δ`. -/
structure Delay (edge : ι → ι → Prop) (base : ι → Set ℤ) (moves : ι → Prop)
    (start finish start' finish' : ι → ℤ) (k : ι) (δ : ℤ) : Prop where
  pos : 0 < δ
  grid : ∀ x, δ ∣ start x ∧ δ ∣ finish x
  source : finish' k = finish k + δ
  still : ∀ x, x ≠ k → ¬ moves x → finish' x = finish x
  moved : ∀ x, x ≠ k → moves x → StartsAt edge base finish x (start x) ∧
    StartsAt edge base finish' x (start' x) ∧ finish' x - start' x = finish x - start x
  follows : ∀ x, TransGen edge k x → moves x

section Delay

variable {base : ι → Set ℤ} {moves : ι → Prop} {start' finish' : ι → ℤ} {k : ι} {δ : ℤ}

/-- Two times of the grid are apart by `δ` at least. -/
theorem add_le_of_grid {a b : ℤ} (ha : δ ∣ a) (hb : δ ∣ b) (hlt : a < b) :
    a + δ ≤ b := by
  have hdvd : δ ∣ b - a := Int.dvd_sub hb ha
  have hle : δ ≤ b - a := Int.le_of_dvd (Int.sub_pos_of_lt hlt) hdvd
  omega

/-- The delay passes through a predecessor that `x` starts right after. -/
theorem Delay.start_late (h : Delay edge base moves start finish start' finish' k δ) {x p : ι}
    (hxk : x ≠ k) (hmoves : moves x) (hle : ∀ q, edge q x → finish' q ≤ finish q + δ)
    (hedge : edge p x) (htight : finish p = start x) (hlate : finish' p = finish p + δ) :
    start' x = start x + δ := by
  obtain ⟨hold, hnew, -⟩ := h.moved x hxk hmoves
  have hpos := h.pos
  refine hnew.unique ⟨Or.inr ⟨p, hedge, ?_⟩, ?_⟩
  · rw [hlate, htight]
  · rintro v (hbase | ⟨q, hq, rfl⟩)
    · have hv := hold.2 (Or.inl hbase)
      omega
    · have hv := hold.2 (Or.inr ⟨q, hq, rfl⟩)
      have hq' := hle q hq
      omega

/-- A node starts as before if what it starts right after ends as before, and what is late has a
gap before it. -/
theorem Delay.start_kept (h : Delay edge base moves start finish start' finish' k δ) {x : ι}
    (hxk : x ≠ k) (hmoves : moves x)
    (hkept : ∀ p, edge p x → finish p = start x → finish' p = finish p)
    (hle : ∀ p, edge p x → finish' p ≤ start x) : start' x = start x := by
  obtain ⟨hold, hnew, -⟩ := h.moved x hxk hmoves
  refine hnew.unique ⟨?_, ?_⟩
  · rcases hold.1 with hbase | ⟨p, hedge, htight⟩
    · exact Or.inl hbase
    · exact Or.inr ⟨p, hedge, (hkept p hedge htight).trans htight⟩
  · rintro v (hbase | ⟨q, hq, rfl⟩)
    · exact hold.2 (Or.inl hbase)
    · exact hle q hq

/-- **How a delay spreads**: by `δ` to what a chain without gaps reaches, and not
at all to the rest. -/
theorem Delay.finish_eq (h : Delay edge base moves start finish start' finish' k δ)
    (hwf : WellFounded edge) (x : ι) :
    (ReflTransGen (Tight edge start finish) k x → finish' x = finish x + δ) ∧
      (¬ ReflTransGen (Tight edge start finish) k x → finish' x = finish x) := by
  induction x using hwf.induction with
  | h x ih =>
    -- the induction goes along the edges: what `x` waits for is settled before `x`
    by_cases hxk : x = k
    · subst hxk
      exact ⟨fun _ => h.source, fun hnot => absurd ReflTransGen.refl hnot⟩
    by_cases hmoves : moves x
    · obtain ⟨hold, -, hlength⟩ := h.moved x hxk hmoves
      constructor
      · intro hpath
        rcases ReflTransGen.cases_tail hpath with rfl | ⟨p, hkp, hedge, htight⟩
        · exact absurd rfl hxk
        have hle : ∀ q, edge q x → finish' q ≤ finish q + δ := by
          intro q hq
          have hpos := h.pos
          by_cases hreach : ReflTransGen (Tight edge start finish) k q
          · exact ((ih q hq).1 hreach).le
          · have heq := (ih q hq).2 hreach
            omega
        have hstart' := h.start_late hxk hmoves hle hedge htight ((ih p hedge).1 hkp)
        omega
      · intro hnot
        -- a chain without gaps to a predecessor that `x` starts right after would reach `x`
        have hapart : ∀ p, edge p x → finish p = start x →
            ¬ ReflTransGen (Tight edge start finish) k p :=
          fun p hedge htight hkp => hnot (hkp.tail ⟨hedge, htight⟩)
        have hstart' := h.start_kept hxk hmoves
          (fun p hedge htight => (ih p hedge).2 (hapart p hedge htight)) fun q hq => by
            have hv := hold.2 (Or.inr ⟨q, hq, rfl⟩)
            by_cases hkq : ReflTransGen (Tight edge start finish) k q
            · -- a gap on the grid is wide enough for the delay
              have hne : finish q ≠ start x := fun heq => hapart q hq heq hkq
              have hgap := add_le_of_grid (h.grid q).2 (h.grid x).1 (lt_of_le_of_ne hv hne)
              rw [(ih q hq).1 hkq]
              exact hgap
            · rw [(ih q hq).2 hkq]
              exact hv
        omega
    · refine ⟨fun hpath => absurd (h.follows x ?_) hmoves, fun _ => h.still x hxk hmoves⟩
      rcases reflTransGen_iff_eq_or_transGen.1 (edge_of_tight hpath) with heq | htrans
      · exact absurd heq hxk
      · exact htrans

/-- **A delay moves the end** exactly when a chain without gaps leads there. -/
theorem Delay.end_lt_iff (h : Delay edge base moves start finish start' finish' k δ)
    (hwf : WellFounded edge) {nodes : Set ι} {last last' : ℤ}
    (hlast : IsGreatest (finish '' nodes) last) (hlast' : IsGreatest (Set.image finish' nodes) last')
    (hnodes : ∀ y, ReflTransGen edge k y → y ∈ nodes) :
    last < last' ↔ ∃ y, ReflTransGen (Tight edge start finish) k y ∧ finish y = last := by
  constructor
  · intro hlt
    obtain ⟨y, hy, hy'⟩ := hlast'.1
    have hle : finish y ≤ last := hlast.2 ⟨y, hy, rfl⟩
    -- what ends the whole now has moved, so a chain leads to it
    have hreach : ReflTransGen (Tight edge start finish) k y := by
      by_contra hnot
      have heq := (h.finish_eq hwf y).2 hnot
      omega
    refine ⟨y, hreach, ?_⟩
    -- and it was the end before: any gap to the end would have taken up the delay
    by_contra hne
    obtain ⟨z, -, hz⟩ := hlast.1
    have hgrid : δ ∣ last := hz ▸ (h.grid z).2
    have hgap := add_le_of_grid (h.grid y).2 hgrid (lt_of_le_of_ne hle hne)
    have heq := (h.finish_eq hwf y).1 hreach
    omega
  · rintro ⟨y, hreach, rfl⟩
    have heq := (h.finish_eq hwf y).1 hreach
    have hle : finish' y ≤ last' := hlast'.2 ⟨y, hnodes y (edge_of_tight hreach), rfl⟩
    have hpos := h.pos
    omega

end Delay

end EnvMgr.Slack

/-
The lists that pickers share: `hooks/useSharedList.ts` of the frontend.

A component that mounts runs an effect, which joins the request in flight under its key or starts
one, and subscribes to it. The request settles, its entry in the map is cleared, and only then are
its subscribers called back, each on its own; in between anything else may happen, and a component
may have unmounted or taken another key. It is rendered under another key first, with the rows it
has, and the effect runs after. Every one of these is an event here, in any order that the chain
`load().catch(..).finally(..)` leaves open. (A component that has rendered for the first time and
not run its effect shows what it shows right after: no rows, and that it is loading.)
-/
import EnvMgr.Lib.Runs
import Mathlib.Logic.Function.Basic

namespace EnvMgr.Grid.SharedList

open Runs (run)
open Function (update)

/-! ## State -/

structure ListResult (T : Type) where
  rows : List T
  total : ℕ

def EMPTY {T : Type} : ListResult T := ⟨[], 0⟩

/-- How far `load().catch(..).finally(..)` has come. -/
inductive Phase (T : Type)
  | loading
  | settled (result : ListResult T)
  /-- `inFlight.delete(key)` has run, and the subscribers are called with the result. -/
  | cleared (result : ListResult T)

structure Request (κ T : Type) where
  key : κ
  phase : Phase T

/-- One run of the effect: its closure, and whether its callback has been called. -/
structure Effect where
  component : ℕ
  request : ℕ
  cancelled : Bool
  notified : Bool

/-- A mounted component. `key` is that of its last render, `effect` its latest run of the effect,
and `deps` the key which that ran with. -/
structure Component (κ T : Type) where
  key : κ
  deps : κ
  rows : List T
  total : ℕ
  loading : Bool
  effect : ℕ

def Component.truncated {κ T : Type} (comp : Component κ T) : Bool := comp.rows.length < comp.total

structure State (κ T : Type) where
  inFlight : κ → Option ℕ
  requests : ℕ → Option (Request κ T)
  /-- How often `load` was called. -/
  loads : ℕ
  effects : ℕ → Option Effect
  runs : ℕ
  components : ℕ → Option (Component κ T)

variable {κ T : Type} [DecidableEq κ]

def State.initial : State κ T :=
  ⟨fun _ => none, fun _ => none, 0, fun _ => none, 0, fun _ => none⟩

/-! ## The effect -/

/-- `load()`, and `inFlight.set(key, request)`. -/
def State.start (s : State κ T) (key : κ) : State κ T :=
  { s with
    requests := update s.requests s.loads (some ⟨key, .loading⟩)
    inFlight := update s.inFlight key (some s.loads)
    loads := s.loads + 1 }

/-- `setLoading(true)` and `request.then(..)`. -/
def State.subscribe (s : State κ T) (c : ℕ) (comp : Component κ T) (key : κ) (r : ℕ) : State κ T :=
  { s with
    effects := update s.effects s.runs (some ⟨c, r, false, false⟩)
    components :=
      update s.components c (some { comp with deps := key, loading := true, effect := s.runs })
    runs := s.runs + 1 }

def State.useEffect (s : State κ T) (c : ℕ) (comp : Component κ T) (key : κ) : State κ T :=
  match s.inFlight key with
  | some r => s.subscribe c comp key r
  | none => (s.start key).subscribe c comp key s.loads

/-- The function that the effect returns: `cancelled = true`. -/
def State.cleanup (s : State κ T) (e : ℕ) : State κ T :=
  { s with effects := update s.effects e ((s.effects e).map ({ · with cancelled := true })) }

def State.unmount (s : State κ T) (c e : ℕ) : State κ T :=
  { s.cleanup e with components := update s.components c none }

/-- `.catch(() => EMPTY)` has run. -/
def State.settle (s : State κ T) (r : ℕ) (key : κ) (result : ListResult T) : State κ T :=
  { s with requests := update s.requests r (some ⟨key, .settled result⟩) }

/-- `.finally(() => { inFlight.delete(key) })` has run. -/
def State.clear (s : State κ T) (r : ℕ) (key : κ) (result : ListResult T) : State κ T :=
  { s with
    requests := update s.requests r (some ⟨key, .cleared result⟩)
    inFlight := update s.inFlight key none }

/-- The callback: the component shows the result, where the effect is not cancelled. -/
def State.callback (s : State κ T) (ef : Effect) (result : ListResult T) : State κ T :=
  if ef.cancelled then s
  else
    { s with
      components := update s.components ef.component ((s.components ef.component).map
        ({ · with rows := result.rows, total := result.total, loading := false })) }

/-! ## Events -/

inductive Event (κ T : Type)
  | mount (c : ℕ) (key : κ)
  /-- It is rendered under another key. -/
  | rekey (c : ℕ) (key : κ)
  /-- The effect that such a render has due, after the cleanup of the one before. -/
  | effect (c : ℕ)
  | unmount (c : ℕ)
  /-- `load()` is fulfilled, or rejected. -/
  | settle (r : ℕ) (outcome : Except Unit (ListResult T))
  | clear (r : ℕ)
  | notify (e : ℕ)

/-- `.catch(() => EMPTY)` -/
def caught (outcome : Except Unit (ListResult T)) : ListResult T := outcome.toOption.getD EMPTY

/-- What is not open to happen changes nothing. -/
def step (s : State κ T) : Event κ T → State κ T
  | .mount c key =>
    match s.components c with
    | some _ => s
    | none => s.useEffect c ⟨key, key, [], 0, true, s.runs⟩ key
  | .rekey c key =>
    match s.components c with
    | some comp => { s with components := update s.components c (some { comp with key := key }) }
    | none => s
  | .effect c =>
    match s.components c with
    | some comp =>
      if comp.key = comp.deps then s else (s.cleanup comp.effect).useEffect c comp comp.key
    | none => s
  | .unmount c =>
    match s.components c with
    | some comp => s.unmount c comp.effect
    | none => s
  | .settle r outcome =>
    match s.requests r with
    | some ⟨key, .loading⟩ => s.settle r key (caught outcome)
    | _ => s
  | .clear r =>
    match s.requests r with
    | some ⟨key, .settled result⟩ => s.clear r key result
    | _ => s
  | .notify e =>
    match s.effects e with
    | some ⟨c, r, cancelled, false⟩ =>
      match s.requests r with
      | some ⟨_, .cleared result⟩ =>
        { s with effects := update s.effects e (some ⟨c, r, cancelled, true⟩) }.callback
          ⟨c, r, cancelled, true⟩ result
      | _ => s
    | _ => s

/-! ## What is in flight -/

/-- The entry of the request has not been cleared. -/
def Phase.pending {T : Type} : Phase T → Bool
  | .cleared _ => false
  | _ => true

/-- The key under which a request is waited for. -/
def State.awaited (s : State κ T) (r : ℕ) : Option κ :=
  (s.requests r).bind fun req => if req.phase.pending then some req.key else none

/-- The map and the requests say the same: each is the other, read backwards. -/
structure InFlight (s : State κ T) : Prop where
  bounded : ∀ r req, s.requests r = some req → r < s.loads
  entry : ∀ key r, s.inFlight key = some r ↔ s.awaited r = some key

section

variable {s : State κ T} {key : κ} {r : ℕ} {result : ListResult T}

omit [DecidableEq κ] in
theorem awaited_iff : s.awaited r = some key ↔
    ∃ phase, s.requests r = some ⟨key, phase⟩ ∧ phase.pending = true := by
  unfold State.awaited
  constructor
  · intro h
    obtain ⟨req, hr, hreq⟩ := Option.bind_eq_some_iff.1 h
    split at hreq
    · next hpending =>
      cases hreq
      exact ⟨req.phase, hr, hpending⟩
    · cases hreq
  · rintro ⟨phase, hr, hpending⟩
    rw [hr, Option.bind_some, if_pos hpending]

omit [DecidableEq κ] in
theorem InFlight.fresh (h : InFlight s) : s.requests s.loads = none :=
  Option.eq_none_iff_forall_ne_some.2 fun req hreq => absurd (h.bounded _ req hreq) (by omega)

theorem awaited_start (s : State κ T) (key : κ) :
    (s.start key).awaited = update s.awaited s.loads (some key) := by
  funext r
  unfold State.awaited State.start
  by_cases hr : r = s.loads <;> simp [hr, Phase.pending]

omit [DecidableEq κ] in
/-- A request that has settled is still waited for. -/
theorem awaited_settle (hr : s.requests r = some ⟨key, .loading⟩) :
    (s.settle r key result).awaited = s.awaited := by
  funext r'
  unfold State.awaited State.settle
  by_cases heq : r' = r <;> simp [heq, hr, Phase.pending]

theorem awaited_clear (s : State κ T) (r : ℕ) (key : κ) (result : ListResult T) :
    (s.clear r key result).awaited = update s.awaited r none := by
  funext r'
  unfold State.awaited State.clear
  by_cases heq : r' = r <;> simp [heq, Phase.pending]

omit [DecidableEq κ] in
/-- A request is written where there is one, or where the next one goes. -/
theorem bounded_update (h : InFlight s) {n : ℕ} (hn : s.loads ≤ n) (hr : r < n)
    (req : Request κ T) : ∀ r' req', update s.requests r (some req) r' = some req' → r' < n := by
  intro r' req' hr'
  rw [Function.update_apply] at hr'
  split at hr'
  · omega
  · have := h.bounded r' req' hr'
    omega

theorem InFlight.start (h : InFlight s) (hnone : s.inFlight key = none) :
    InFlight (s.start key) where
  bounded := bounded_update h (Nat.le_succ _) (Nat.lt_succ_self _) _
  entry k r := by
    have hload : s.awaited s.loads = none := by
      unfold State.awaited
      rw [h.fresh]
      rfl
    have hk := h.entry k r
    rw [awaited_start]
    simp only [State.start, Function.update_apply]
    grind

omit [DecidableEq κ] in
theorem InFlight.settle (h : InFlight s) (hr : s.requests r = some ⟨key, .loading⟩) :
    InFlight (s.settle r key result) where
  bounded := bounded_update h (Nat.le_refl _) (h.bounded r _ hr) _
  entry k r' := by
    rw [awaited_settle hr]
    exact h.entry k r'

theorem InFlight.clear (h : InFlight s) (hr : s.requests r = some ⟨key, .settled result⟩) :
    InFlight (s.clear r key result) where
  bounded := bounded_update h (Nat.le_refl _) (h.bounded r _ hr) _
  entry k r' := by
    -- the entry that is deleted is the request's own
    have hown : s.awaited r = some key := awaited_iff.2 ⟨_, hr, rfl⟩
    have hkey := (h.entry key r).2 hown
    have hk := h.entry k r'
    rw [awaited_clear]
    simp only [State.clear, Function.update_apply]
    grind

theorem InFlight.useEffect (h : InFlight s) (c : ℕ) (comp : Component κ T) (key : κ) :
    InFlight (s.useEffect c comp key) := by
  unfold State.useEffect
  split
  · exact ⟨h.bounded, h.entry⟩
  · next hnone => exact ⟨(h.start hnone).bounded, (h.start hnone).entry⟩

/-- An event that writes one of the two writes the other. -/
theorem step_inFlight (s : State κ T) (event : Event κ T) (h : InFlight s) :
    InFlight (step s event) := by
  unfold step
  cases event with
  | mount c key =>
    dsimp only
    split
    · exact h
    · exact h.useEffect ..
  | rekey c key =>
    dsimp only
    split
    · exact ⟨h.bounded, h.entry⟩
    · exact h
  | effect c =>
    dsimp only
    split
    · next comp _ =>
      have hcleanup : InFlight (s.cleanup comp.effect) := ⟨h.bounded, h.entry⟩
      split
      · exact h
      · exact hcleanup.useEffect ..
    · exact h
  | unmount c =>
    dsimp only
    split
    · exact ⟨h.bounded, h.entry⟩
    · exact h
  | settle r outcome =>
    dsimp only
    split
    · next hr => exact h.settle hr
    · exact h
  | clear r =>
    dsimp only
    split
    · next hr => exact h.clear hr
    · exact h
  | notify e =>
    dsimp only
    split
    · split
      · unfold State.callback
        split <;> exact ⟨h.bounded, h.entry⟩
      · exact h
    · exact h

omit [DecidableEq κ] in
theorem initial_inFlight : InFlight (State.initial : State κ T) where
  bounded _ _ h := by cases h
  entry _ _ := ⟨nofun, nofun⟩

theorem run_inFlight (events : List (Event κ T)) : InFlight (run step State.initial events) :=
  Runs.run_inv step_inFlight initial_inFlight events

end

/-- **One request at a time.** Whatever the order of events, the map has under a key the one
request that is waited for there, and nothing where none is. -/
theorem one_in_flight (events : List (Event κ T)) (key : κ) (r : ℕ) :
    let s := run step State.initial events
    (s.inFlight key = some r ↔ s.awaited r = some key) ∧
      ∀ r', s.awaited r = some key → s.awaited r' = some key → r' = r := by
  have h := run_inFlight events
  refine ⟨h.entry key r, fun r' hr hr' => ?_⟩
  have hsame := ((h.entry key r).2 hr).symm.trans ((h.entry key r').2 hr')
  exact (Option.some.inj hsame).symm

/-! ## What a component shows -/

/-- The effects that are not cancelled are those of the mounted components, and a component that
is not loading shows what the request of its effect came to. -/
structure Mounted (s : State κ T) : Prop where
  ran : ∀ e ef, s.effects e = some ef → e < s.runs
  alive : ∀ e ef, s.effects e = some ef → ef.cancelled = false →
    ∃ comp, s.components ef.component = some comp ∧ comp.effect = e
  current : ∀ c comp, s.components c = some comp → ∃ r notified phase,
    s.effects comp.effect = some ⟨c, r, false, notified⟩ ∧
      s.requests r = some ⟨comp.deps, phase⟩ ∧ comp.loading = !notified ∧
      (notified = true → phase = .cleared ⟨comp.rows, comp.total⟩)

section

variable {s : State κ T} {key : κ} {r c : ℕ} {comp : Component κ T} {result : ListResult T}

omit [DecidableEq κ] in
theorem Mounted.subscribe (h : Mounted s) (hnone : s.components c = none)
    (hr : ∃ phase, s.requests r = some ⟨key, phase⟩) : Mounted (s.subscribe c comp key r) where
  ran e ef he := by
    have := h.ran e ef
    simp only [State.subscribe, Function.update_apply] at he ⊢
    grind
  alive e ef he hef := by
    simp only [State.subscribe, Function.update_apply] at he ⊢
    split at he
    · next heq =>
      cases he
      exact ⟨_, if_pos rfl, heq.symm⟩
    · obtain ⟨comp', hcomp', heq⟩ := h.alive e ef he hef
      have hne : ef.component ≠ c := fun hc => by simp [hc, hnone] at hcomp'
      exact ⟨comp', (if_neg hne).trans hcomp', heq⟩
  current c' comp' hc' := by
    simp only [State.subscribe, Function.update_apply] at hc' ⊢
    split at hc'
    · next heq =>
      obtain ⟨phase, hr⟩ := hr
      cases hc'
      exact ⟨r, false, phase, by rw [if_pos rfl, heq], hr, rfl, nofun⟩
    · obtain ⟨r', notified, phase, he, hrest⟩ := h.current c' comp' hc'
      have hold := h.ran _ _ he
      exact ⟨r', notified, phase, by rw [if_neg (by omega), he], hrest⟩

omit [DecidableEq κ] in
/-- What becomes of a request that no effect has been told the end of. -/
theorem Mounted.advance (h : Mounted s) {phase phase' : Phase T} (hr : s.requests r = some ⟨key, phase⟩)
    (hphase : phase.pending = true) {s' : State κ T}
    (hs' : s'.requests = update s.requests r (some ⟨key, phase'⟩)) (hruns : s'.runs = s.runs)
    (heffects : s'.effects = s.effects) (hcomponents : s'.components = s.components) :
    Mounted s' where
  ran := by
    rw [heffects, hruns]
    exact h.ran
  alive := by
    rw [heffects, hcomponents]
    exact h.alive
  current c comp hc := by
    rw [hcomponents] at hc
    obtain ⟨r', notified, phase₀, he, hr', hloading, hshown⟩ := h.current c comp hc
    rw [hs', heffects]
    by_cases heq : r' = r
    · -- it has not been cleared, so the effect has not been called back
      rw [heq, hr] at hr'
      cases hr'
      have hnotified : notified = false := by
        refine Bool.eq_false_iff.2 fun hn => ?_
        rw [hshown hn] at hphase
        cases hphase
      refine ⟨r, notified, phase', heq ▸ he, by rw [Function.update_self], hloading, ?_⟩
      rw [hnotified]
      exact nofun
    · exact ⟨r', notified, phase₀, he, by rw [Function.update_of_ne heq, hr'], hloading, hshown⟩

theorem Mounted.useEffect (h : Mounted s) (hs : InFlight s) (hnone : s.components c = none)
    (comp : Component κ T) (key : κ) : Mounted (s.useEffect c comp key) := by
  unfold State.useEffect
  split
  · next r hr =>
    obtain ⟨phase, hr, -⟩ := awaited_iff.1 ((hs.entry key r).1 hr)
    exact h.subscribe hnone ⟨phase, hr⟩
  · -- the new request is no effect's yet
    have hstart : Mounted (s.start key) := by
      refine ⟨h.ran, h.alive, fun c comp hc => ?_⟩
      obtain ⟨r, notified, phase, he, hr, hrest⟩ := h.current c comp hc
      have hold := hs.bounded r _ hr
      exact ⟨r, notified, phase, he, (Function.update_of_ne (by omega) ..).trans hr, hrest⟩
    exact hstart.subscribe hnone ⟨.loading, by simp [State.start]⟩

omit [DecidableEq κ] in
/-- A component goes, and its effect is cancelled. -/
theorem Mounted.unmount (h : Mounted s) (hc : s.components c = some comp) :
    Mounted (s.unmount c comp.effect) where
  ran e ef he := by
    simp only [State.unmount, State.cleanup, Function.update_apply] at he ⊢
    split at he
    · next heq =>
      obtain ⟨ef₀, he₀, -⟩ := Option.map_eq_some_iff.1 he
      exact heq ▸ h.ran _ _ he₀
    · exact h.ran _ _ he
  alive e ef he hef := by
    simp only [State.unmount, State.cleanup, Function.update_apply] at he ⊢
    split at he
    · obtain ⟨ef₀, -, rfl⟩ := Option.map_eq_some_iff.1 he
      cases hef
    · next hne =>
      obtain ⟨comp', hcomp', heq⟩ := h.alive e ef he hef
      refine ⟨comp', ?_, heq⟩
      rw [if_neg fun hsame => ?_, hcomp']
      rw [hsame, hc] at hcomp'
      cases hcomp'
      exact hne heq.symm
  current c' comp' hc' := by
    simp only [State.unmount, State.cleanup, Function.update_apply] at hc' ⊢
    split at hc'
    · cases hc'
    · next hne =>
      obtain ⟨r, notified, phase, he, hrest⟩ := h.current c' comp' hc'
      refine ⟨r, notified, phase, ?_, hrest⟩
      rw [if_neg fun hsame => ?_, he]
      obtain ⟨_, _, _, he', -⟩ := h.current c comp hc
      rw [hsame, he'] at he
      cases he
      exact hne rfl

omit [DecidableEq κ] in
theorem Mounted.notify (h : Mounted s) {e : ℕ} {cancelled : Bool}
    (he : s.effects e = some ⟨c, r, cancelled, false⟩)
    (hr : s.requests r = some ⟨key, .cleared result⟩) :
    Mounted (State.callback { s with effects := update s.effects e (some ⟨c, r, cancelled, true⟩) }
      ⟨c, r, cancelled, true⟩ result) := by
  have hran : ∀ e' ef, update s.effects e (some ⟨c, r, cancelled, true⟩) e' = some ef →
      e' < s.runs := by
    intro e' ef he'
    rw [Function.update_apply] at he'
    split at he'
    · next heq => exact heq ▸ h.ran _ _ he
    · exact h.ran _ _ he'
  -- the effect of another component, or a later one of this, is another effect
  have hother : ∀ c' comp', s.components c' = some comp' → comp'.effect ≠ e ∨
      c' = c ∧ cancelled = false := by
    intro c' comp' hc'
    obtain ⟨_, _, _, he', -⟩ := h.current c' comp' hc'
    by_cases heq : comp'.effect = e
    · rw [heq, he] at he'
      cases he'
      exact Or.inr ⟨rfl, rfl⟩
    · exact Or.inl heq
  unfold State.callback
  cases cancelled with
  | true =>
    rw [if_pos rfl]
    refine ⟨hran, fun e' ef he' hef => ?_, fun c' comp' hc' => ?_⟩
    · dsimp only at he'
      rw [Function.update_apply] at he'
      split at he'
      · cases he'
        cases hef
      · exact h.alive e' ef he' hef
    · obtain ⟨r', notified, phase, he', hrest⟩ := h.current c' comp' hc'
      have hne := (hother c' comp' hc').resolve_right fun hsame => nomatch hsame.2
      exact ⟨r', notified, phase, (Function.update_of_ne hne ..).trans he', hrest⟩
  | false =>
    obtain ⟨comp, hc, hcomp⟩ := h.alive e _ he rfl
    dsimp only at hc
    rw [if_neg Bool.false_ne_true]
    dsimp only
    rw [hc]
    refine ⟨hran, fun e' ef he' hef => ?_, fun c' comp' hc' => ?_⟩
    · dsimp only at he' ⊢
      rw [Function.update_apply] at he' ⊢
      split at he'
      · next heq =>
        cases he'
        exact ⟨_, if_pos rfl, hcomp.trans heq.symm⟩
      · next hne =>
        obtain ⟨comp', hc', heq⟩ := h.alive e' ef he' hef
        refine ⟨comp', ?_, heq⟩
        rw [if_neg fun hsame => ?_, hc']
        rw [hsame, hc] at hc'
        cases hc'
        exact hne (heq.symm.trans hcomp)
    · dsimp only at hc' ⊢
      rw [Function.update_apply] at hc'
      split at hc'
      · next heq =>
        -- the component that is called back
        cases hc'
        obtain ⟨r', notified, phase, he', hr', -⟩ := h.current c comp hc
        rw [hcomp, he] at he'
        cases he'
        rw [hr] at hr'
        cases hr'
        exact ⟨r, true, _, by rw [hcomp, Function.update_self, heq], hr, rfl, fun _ => rfl⟩
      · next hne =>
        obtain ⟨r', notified, phase, he', hrest⟩ := h.current c' comp' hc'
        have hne := (hother c' comp' hc').resolve_right fun hsame => hne hsame.1
        exact ⟨r', notified, phase, (Function.update_of_ne hne ..).trans he', hrest⟩

omit [DecidableEq κ] in
/-- A render under another key leaves the effect and what is shown. -/
theorem Mounted.rekey (h : Mounted s) (hc : s.components c = some comp) (key : κ) :
    Mounted { s with components := update s.components c (some { comp with key := key }) } where
  ran := h.ran
  alive e ef he hef := by
    obtain ⟨comp', hcomp', heq⟩ := h.alive e ef he hef
    dsimp only
    rw [Function.update_apply]
    split
    · next hsame =>
      rw [hsame, hc] at hcomp'
      cases hcomp'
      exact ⟨_, rfl, heq⟩
    · exact ⟨comp', hcomp', heq⟩
  current c' comp' hc' := by
    dsimp only at hc'
    rw [Function.update_apply] at hc'
    split at hc'
    · next hsame =>
      cases hc'
      exact hsame ▸ h.current c comp hc
    · exact h.current c' comp' hc'

/-- To run the effect again is to go, and to come back with what was there. -/
theorem useEffect_unmount (s : State κ T) (c e : ℕ) (comp : Component κ T) (key : κ) :
    (s.unmount c e).useEffect c comp key = (s.cleanup e).useEffect c comp key := by
  unfold State.useEffect State.start State.subscribe State.unmount State.cleanup
  cases s.inFlight key <;> simp

theorem step_mounted (s : State κ T) (event : Event κ T) (h : InFlight s ∧ Mounted s) :
    InFlight (step s event) ∧ Mounted (step s event) := by
  refine ⟨step_inFlight s event h.1, ?_⟩
  obtain ⟨hs, h⟩ := h
  unfold step
  cases event with
  | mount c key =>
    dsimp only
    split
    · exact h
    · next hnone => exact h.useEffect hs hnone ..
  | rekey c key =>
    dsimp only
    split
    · next hc => exact h.rekey hc key
    · exact h
  | effect c =>
    dsimp only
    split
    · next comp hc =>
      -- the clean-up of the old key, and the effect anew
      have hgone := (h.unmount hc).useEffect ⟨hs.bounded, hs.entry⟩
        (Function.update_self ..) comp comp.key
      rw [useEffect_unmount] at hgone
      split
      · exact h
      · exact hgone
    · exact h
  | unmount c =>
    dsimp only
    split
    · next hc => exact h.unmount hc
    · exact h
  | settle r outcome =>
    dsimp only
    split
    · next hr => exact h.advance hr rfl rfl rfl rfl rfl
    · exact h
  | clear r =>
    dsimp only
    split
    · next hr => exact h.advance hr rfl rfl rfl rfl rfl
    · exact h
  | notify e =>
    dsimp only
    split
    · next he =>
      split
      · next hr => exact h.notify he hr
      · exact h
    · exact h

omit [DecidableEq κ] in
theorem initial_mounted : Mounted (State.initial : State κ T) where
  ran _ _ h := by cases h
  alive _ _ h := by cases h
  current _ _ h := by cases h

theorem run_mounted (events : List (Event κ T)) : Mounted (run step State.initial events) :=
  (Runs.run_inv step_mounted ⟨initial_inFlight, initial_mounted⟩ events).2

end

/-! ## Where it comes from -/

section

variable {s : State κ T} {r : ℕ}

/-- The effect of the component runs, with the key. -/
def Began (s : State κ T) (c : ℕ) (key : κ) (event : Event κ T) : Prop :=
  event = .mount c key ∨
    event = .effect c ∧ ∃ comp, s.components c = some comp ∧ comp.key = key

/-- A step on the way of a request, by the event that makes it. -/
inductive Advances (r : ℕ) : Option (Request κ T) → Event κ T → Option (Request κ T) → Prop
  | started (event : Event κ T) (key : κ) : Advances r none event (some ⟨key, .loading⟩)
  | settled (key : κ) (outcome : Except Unit (ListResult T)) : Advances r (some ⟨key, .loading⟩)
      (.settle r outcome) (some ⟨key, .settled (caught outcome)⟩)
  | cleared (key : κ) (result : ListResult T) : Advances r (some ⟨key, .settled result⟩)
      (.clear r) (some ⟨key, .cleared result⟩)

theorem useEffect_requests (h : InFlight s) (c : ℕ) (comp : Component κ T) (key : κ)
    (event : Event κ T) (r : ℕ) : (s.useEffect c comp key).requests r = s.requests r ∨
      Advances r (s.requests r) event ((s.useEffect c comp key).requests r) := by
  unfold State.useEffect
  split
  · exact Or.inl rfl
  · simp only [State.subscribe, State.start, Function.update_apply]
    split
    · next heq =>
      rw [heq, h.fresh]
      exact Or.inr (.started event key)
    · exact Or.inl rfl

/-- What an event does to a request. -/
theorem step_requests (h : InFlight s) (event : Event κ T) (r : ℕ) :
    (step s event).requests r = s.requests r ∨
      Advances r (s.requests r) event ((step s event).requests r) := by
  unfold step
  cases event with
  | mount c key =>
    dsimp only
    split
    · exact Or.inl rfl
    · exact useEffect_requests h ..
  | rekey c key =>
    dsimp only
    split <;> exact Or.inl rfl
  | effect c =>
    dsimp only
    split
    · next comp _ =>
      have hcleanup : InFlight (s.cleanup comp.effect) := ⟨h.bounded, h.entry⟩
      split
      · exact Or.inl rfl
      · exact useEffect_requests hcleanup ..
    · exact Or.inl rfl
  | unmount c =>
    dsimp only
    split <;> exact Or.inl rfl
  | settle r' outcome =>
    dsimp only
    split
    · next key hr =>
      simp only [State.settle, Function.update_apply]
      split
      · next heq =>
        rw [heq, hr]
        exact Or.inr (.settled key outcome)
      · exact Or.inl rfl
    · exact Or.inl rfl
  | clear r' =>
    dsimp only
    split
    · next key result hr =>
      simp only [State.clear, Function.update_apply]
      split
      · next heq =>
        rw [heq, hr]
        exact Or.inr (.cleared key result)
      · exact Or.inl rfl
    · exact Or.inl rfl
  | notify e =>
    dsimp only
    split
    · split
      · unfold State.callback
        split <;> exact Or.inl rfl
      · exact Or.inl rfl
    · exact Or.inl rfl

/-- What an effect waits for was in flight when it ran. -/
theorem useEffect_effects {c e : ℕ} {comp : Component κ T} {key : κ} {ef : Effect}
    (h : (s.useEffect c comp key).effects e = some ef) : s.effects e = some ef ∨
      ef.component = c ∧ (s.useEffect c comp key).inFlight key = some ef.request := by
  unfold State.useEffect at h ⊢
  split at h
  · next hr =>
    simp only [State.subscribe, Function.update_apply] at h
    split at h
    · cases h
      exact Or.inr ⟨rfl, hr⟩
    · exact Or.inl h
  · simp only [State.subscribe, State.start, Function.update_apply] at h
    split at h
    · cases h
      exact Or.inr ⟨rfl, by simp [State.subscribe, State.start]⟩
    · exact Or.inl h

/-- The effect is of this component, and waits for this request. -/
def Waits (e : ℕ) (s : State κ T) (a : ℕ × ℕ) : Prop :=
  ∃ ef, s.effects e = some ef ∧ ef.component = a.1 ∧ ef.request = a.2

omit [DecidableEq κ] in
theorem cleanup_effects {e e' : ℕ} {ef : Effect} (h : (s.cleanup e').effects e = some ef) :
    Waits e s (ef.component, ef.request) := by
  simp only [State.cleanup, Function.update_apply] at h
  split at h
  · next heq =>
    obtain ⟨ef₀, he, rfl⟩ := Option.map_eq_some_iff.1 h
    exact ⟨ef₀, heq ▸ he, rfl, rfl⟩
  · exact ⟨ef, h, rfl, rfl⟩

/-- An effect there is after an event was there before, or the event ran it. -/
theorem step_effects (event : Event κ T) {e : ℕ} {ef : Effect}
    (h : (step s event).effects e = some ef) :
    Waits e s (ef.component, ef.request) ∨
      ∃ key, Began s ef.component key event ∧ (step s event).inFlight key = some ef.request := by
  unfold step at h ⊢
  cases event with
  | mount c key =>
    dsimp only at h ⊢
    split at h
    · exact Or.inl ⟨ef, h, rfl, rfl⟩
    · rcases useEffect_effects h with he | ⟨rfl, hin⟩
      · exact Or.inl ⟨ef, he, rfl, rfl⟩
      · exact Or.inr ⟨key, Or.inl rfl, hin⟩
  | rekey c key =>
    dsimp only at h
    split at h <;> exact Or.inl ⟨ef, h, rfl, rfl⟩
  | effect c =>
    dsimp only at h ⊢
    split at h
    · next comp hc =>
      split at h
      · exact Or.inl ⟨ef, h, rfl, rfl⟩
      · next hdue =>
        rcases useEffect_effects h with he | ⟨rfl, hin⟩
        · exact Or.inl (cleanup_effects he)
        · rw [if_neg hdue]
          exact Or.inr ⟨comp.key, Or.inr ⟨rfl, comp, hc, rfl⟩, hin⟩
    · exact Or.inl ⟨ef, h, rfl, rfl⟩
  | unmount c =>
    dsimp only at h
    split at h
    · exact Or.inl (cleanup_effects h)
    · exact Or.inl ⟨ef, h, rfl, rfl⟩
  | settle r outcome =>
    dsimp only at h
    split at h <;> exact Or.inl ⟨ef, h, rfl, rfl⟩
  | clear r =>
    dsimp only at h
    split at h <;> exact Or.inl ⟨ef, h, rfl, rfl⟩
  | notify e' =>
    dsimp only at h
    split at h
    · next c r cancelled he' =>
      split at h
      · have h : update s.effects e' (some ⟨c, r, cancelled, true⟩) e = some ef := by
          unfold State.callback at h
          split at h <;> exact h
        rw [Function.update_apply] at h
        split at h
        · next heq =>
          cases h
          exact Or.inl ⟨⟨c, r, cancelled, false⟩, heq ▸ he', rfl, rfl⟩
        · exact Or.inl ⟨ef, h, rfl, rfl⟩
      · exact Or.inl ⟨ef, h, rfl, rfl⟩
    · exact Or.inl ⟨ef, h, rfl, rfl⟩

theorem step_waits (e : ℕ) (s : State κ T) (event : Event κ T) (a : ℕ × ℕ)
    (h : Waits e (step s event) a) :
    Waits e s a ∨ ∃ key, Began s a.1 key event ∧ (step s event).inFlight key = some a.2 := by
  obtain ⟨ef, hef, hcomponent, hrequest⟩ := h
  have hcases := step_effects event hef
  rwa [hcomponent, hrequest] at hcases

/-- A request keeps its key, and stops being waited for by its own `clear`. -/
theorem run_request {key key' : κ} {phase phase' : Phase T} {events : List (Event κ T)}
    (hs : InFlight s) (hr : s.requests r = some ⟨key, phase⟩)
    (hr' : (run step s events).requests r = some ⟨key', phase'⟩) :
    key' = key ∧ (phase.pending = true → phase'.pending = false → .clear r ∈ events) := by
  induction events generalizing s phase with
  | nil =>
    rw [Runs.run_nil, hr] at hr'
    cases hr'
    exact ⟨rfl, fun h h' => absurd (h.symm.trans h') nofun⟩
  | cons event events ih =>
    rw [Runs.run_cons] at hr'
    have hs' := step_inFlight s event hs
    have hstep := step_requests hs event r
    rw [hr] at hstep
    rcases hstep with hsame | hadvances
    · obtain ⟨hkey, hclear⟩ := ih hs' hsame hr'
      exact ⟨hkey, fun h h' => List.mem_cons_of_mem _ (hclear h h')⟩
    · generalize hnext : (step s event).requests r = next at hadvances
      cases hadvances with
      | settled _ outcome =>
        obtain ⟨hkey, hclear⟩ := ih hs' hnext hr'
        exact ⟨hkey, fun _ h' => List.mem_cons_of_mem _ (hclear rfl h')⟩
      | cleared _ result =>
        exact ⟨(ih hs' hnext hr').1, fun _ _ => List.mem_cons_self⟩

/-- What a request came to. -/
def Phase.result {T : Type} : Phase T → Option (ListResult T)
  | .loading => none
  | .settled result | .cleared result => some result

theorem step_result (hs : InFlight s) {event : Event κ T} {result : ListResult T}
    (h : ∃ req, (step s event).requests r = some req ∧ req.phase.result = some result) :
    (∃ req, s.requests r = some req ∧ req.phase.result = some result) ∨
      ∃ outcome, event = .settle r outcome ∧ caught outcome = result := by
  obtain ⟨req, hr, hresult⟩ := h
  rcases step_requests hs event r with hsame | hadvances
  · exact Or.inl ⟨req, hsame ▸ hr, hresult⟩
  · rw [hr] at hadvances
    generalize hold : s.requests r = old at hadvances
    cases hadvances with
    | started => cases hresult
    | settled key outcome =>
      cases hresult
      exact Or.inr ⟨outcome, rfl, rfl⟩
    | cleared key result' => exact Or.inl ⟨_, rfl, hresult⟩

/-- A result is that of an event that settled the request. -/
theorem run_result {events : List (Event κ T)} {result : ListResult T} (hs : InFlight s)
    (h : ∃ req, (run step s events).requests r = some req ∧ req.phase.result = some result) :
    (∃ req, s.requests r = some req ∧ req.phase.result = some result) ∨
      ∃ outcome, .settle r outcome ∈ events ∧ caught outcome = result := by
  induction events generalizing s with
  | nil => exact Or.inl h
  | cons event events ih =>
    rcases ih (step_inFlight s event hs) h with h | ⟨outcome, hmem, hcaught⟩
    · rcases step_result hs h with h | ⟨outcome, rfl, hcaught⟩
      · exact Or.inl h
      · exact Or.inr ⟨outcome, List.mem_cons_self, hcaught⟩
    · exact Or.inr ⟨outcome, List.mem_cons_of_mem _ hmem, hcaught⟩

end

/-! ## Whose key it shows -/

section

variable {s : State κ T} {c : ℕ} {key : κ}

/-- The component was rendered under the key, and its effect has not run for it. -/
def Due (c : ℕ) (s : State κ T) (key : κ) : Prop :=
  ∃ comp, s.components c = some comp ∧ comp.key = key ∧ comp.deps ≠ key

theorem useEffect_components (s : State κ T) (c : ℕ) (comp : Component κ T) (key : κ) :
    (s.useEffect c comp key).components =
      update s.components c (some { comp with deps := key, loading := true, effect := s.runs }) := by
  unfold State.useEffect
  split <;> rfl

/-- The effect is due since a render. -/
theorem step_due (s : State κ T) (event : Event κ T) (key : κ) (h : Due c (step s event) key) :
    Due c s key ∨ event = .rekey c key := by
  obtain ⟨comp, hc, hkey, hdue⟩ := h
  have hkept : s.components c = some comp → Due c s key ∨ event = .rekey c key :=
    fun hc => Or.inl ⟨comp, hc, hkey, hdue⟩
  unfold step at hc
  cases event with
  | mount c' key' =>
    dsimp only at hc
    split at hc
    · exact hkept hc
    · rw [useEffect_components, Function.update_apply] at hc
      split at hc
      · cases hc
        exact absurd hkey hdue
      · exact hkept hc
  | rekey c' key' =>
    dsimp only at hc
    split at hc
    · dsimp only at hc
      rw [Function.update_apply] at hc
      split at hc
      · next hsame =>
        cases hc
        exact Or.inr (by rw [hsame, ← hkey])
      · exact hkept hc
    · exact hkept hc
  | effect c' =>
    dsimp only at hc
    split at hc
    · split at hc
      · exact hkept hc
      · rw [useEffect_components, Function.update_apply] at hc
        split at hc
        · cases hc
          exact absurd hkey hdue
        · exact hkept hc
    · exact hkept hc
  | unmount c' =>
    dsimp only at hc
    split at hc
    · dsimp only [State.unmount] at hc
      rw [Function.update_apply] at hc
      split at hc
      · cases hc
      · exact hkept hc
    · exact hkept hc
  | settle r outcome =>
    dsimp only at hc
    split at hc <;> exact hkept hc
  | clear r =>
    dsimp only at hc
    split at hc <;> exact hkept hc
  | notify e =>
    dsimp only at hc
    split at hc
    · split at hc
      · unfold State.callback at hc
        split at hc
        · exact hkept hc
        · -- a callback sets the rows, and no key
          dsimp only at hc
          rw [Function.update_apply] at hc
          split at hc
          · next hsame =>
            obtain ⟨comp₀, hc₀, rfl⟩ := Option.map_eq_some_iff.1 hc
            exact Or.inl ⟨comp₀, hsame ▸ hc₀, hkey, hdue⟩
          · exact hkept hc
      · exact hkept hc
    · exact hkept hc

/-- The effect runs with the key that is due. -/
theorem Due.effect (h : Due c s key) : ¬ Due c (step s (.effect c)) key := by
  obtain ⟨comp, hc, rfl, hdue⟩ := h
  have hstep : step s (.effect c) = (s.cleanup comp.effect).useEffect c comp comp.key := by
    simp only [step, hc, if_neg hdue.symm]
  rintro ⟨comp', hc', -, hdue'⟩
  rw [hstep, useEffect_components, Function.update_self] at hc'
  cases hc'
  exact hdue' rfl

end

/-- **What a component shows it has asked for.** Whatever the order of events, a component that is
not loading shows the result of a request under the key that its effect last ran with, or the empty
list where that failed; the request was in flight when that effect ran, and was cleared only after.
So no list is shown whose request was over when the component asked. The key is that of the last
render, unless that was under another key and its effect has still to run: so long what is shown is
the old key's. -/
theorem shows_what_was_asked {events : List (Event κ T)} {c : ℕ} {comp : Component κ T}
    (hc : (run step State.initial events).components c = some comp) :
    (comp.loading = false → ∃ es₁ began es₂ r outcome, events = es₁ ++ began :: es₂ ∧
      Began (run step State.initial es₁) c comp.deps began ∧
      (run step State.initial (es₁ ++ [began])).inFlight comp.deps = some r ∧ .clear r ∈ es₂ ∧
      .settle r outcome ∈ events ∧ caught outcome = ⟨comp.rows, comp.total⟩) ∧
    (comp.key ≠ comp.deps → ∃ es₁ es₂, events = es₁ ++ .rekey c comp.key :: es₂ ∧
      .effect c ∉ es₂) := by
  refine ⟨fun hloaded => ?_, fun hkey => ?_⟩
  · obtain ⟨r, notified, phase, he, hr, hloading, hshown⟩ := (run_mounted events).current c comp hc
    have hnotified : notified = true := by
      rw [hloaded] at hloading
      simpa using hloading
    obtain rfl := hshown hnotified
    -- the event that ran the effect, and what was in flight then
    have hwaits : Waits comp.effect (run step State.initial events) (c, r) := ⟨_, he, rfl, rfl⟩
    rcases Runs.run_since (Waits comp.effect) (step_waits comp.effect) hwaits with
      hall | ⟨es₁, began, es₂, rfl, ⟨key, hbegan, hin⟩, -⟩
    · obtain ⟨ef, hef, -⟩ := hall.head
      cases hef
    · have hbefore := run_inFlight (es₁ ++ [began])
      have hrun : run step State.initial (es₁ ++ [began]) =
          step (run step State.initial es₁) began := Runs.run_append ..
      rw [← hrun] at hin
      obtain ⟨phase, hwaiting, hpending⟩ := awaited_iff.1 ((hbefore.entry key r).1 hin)
      have hsplit : es₁ ++ began :: es₂ = es₁ ++ [began] ++ es₂ := by simp
      have hr' := hr
      rw [hsplit, Runs.run_append] at hr'
      obtain ⟨hsame, hclear⟩ := run_request hbefore hwaiting hr'
      rw [hsame]
      rcases run_result initial_inFlight ⟨_, hr, rfl⟩ with
        ⟨req, hreq, -⟩ | ⟨outcome, hsettle, hcaught⟩
      · cases hreq
      · exact ⟨es₁, began, es₂, r, outcome, rfl, hbegan, hin, hclear hpending rfl, hsettle, hcaught⟩
  · have hdue : Due c (run step State.initial events) comp.key := ⟨comp, hc, rfl, hkey.symm⟩
    rcases Runs.run_since (Due c) step_due hdue with hall | ⟨es₁, _, es₂, rfl, rfl, hall⟩
    · obtain ⟨comp', hc', -⟩ := hall.head
      cases hc'
    · refine ⟨es₁, es₂, rfl, fun heffect => ?_⟩
      -- it is due ever since, so the effect has not run
      obtain ⟨before, after, rfl⟩ := List.append_of_mem heffect
      have hdue := (Runs.always_iff _ _ _).1 hall
      have hafter := hdue (before ++ [.effect c]) after (by simp)
      rw [Runs.run_append] at hafter
      exact (hdue before (.effect c :: after) rfl).effect hafter

/-- **No component loads forever.** Whatever became of the others, the end of the request that a
component waits for, when it comes, is the end of its loading. -/
theorem loading_ends {events : List (Event κ T)} {c : ℕ} {comp : Component κ T}
    (hc : (run step State.initial events).components c = some comp) :
    ∃ r, ∀ outcome, ∃ result : ListResult T,
      (run step (run step State.initial events)
        [.settle r outcome, .clear r, .notify comp.effect]).components c =
        some { comp with rows := result.rows, total := result.total, loading := false } := by
  obtain ⟨r, notified, phase, he, hr, hloading, hshown⟩ := (run_mounted events).current c comp hc
  generalize run step State.initial events = s at hc he hr
  refine ⟨r, fun outcome => ?_⟩
  cases notified with
  | true =>
    -- it has been called back, and nothing is left to happen
    obtain rfl := hshown rfl
    have hsame : comp = { comp with loading := false } := by
      cases comp
      cases hloading
      rfl
    refine ⟨⟨comp.rows, comp.total⟩, ?_⟩
    dsimp only
    rw [← hsame]
    simp [step, hr, he, hc]
  | false =>
    cases phase with
    | loading =>
      exact ⟨caught outcome, by
        simp [step, hr, he, hc, State.settle, State.clear, State.callback]⟩
    | settled result =>
      exact ⟨result, by simp [step, hr, he, hc, State.clear, State.callback]⟩
    | cleared result => exact ⟨result, by simp [step, hr, he, hc, State.callback]⟩

/-- Two pickers mount; the first is rendered under another key before the request they share has
settled, the second after it has its rows. -/
def two_pickers : List (Event String ℕ) :=
  [.mount 0 "hosts", .mount 1 "hosts", .rekey 0 "systems", .effect 0, .settle 0 (.ok ⟨[7], 9⟩),
    .clear 0, .notify 0, .notify 1, .rekey 1 "systems"]

/-- The second shows the hosts under the key of the systems, until its effect runs. -/
theorem shows_what_was_asked_two_pickers :
    (run step State.initial two_pickers).components 1 =
      some ⟨"systems", "hosts", [7], 9, false, 1⟩ ∧
    (∃ es₁ began es₂ r outcome, two_pickers = es₁ ++ began :: es₂ ∧
      Began (run step State.initial es₁) 1 "hosts" began ∧
      (run step State.initial (es₁ ++ [began])).inFlight "hosts" = some r ∧ .clear r ∈ es₂ ∧
      .settle r outcome ∈ two_pickers ∧ caught outcome = ⟨[7], 9⟩) ∧
    ∃ es₁ es₂, two_pickers = es₁ ++ .rekey 1 "systems" :: es₂ ∧ .effect 1 ∉ es₂ :=
  have hshown : (run step State.initial two_pickers).components 1 =
      some ⟨"systems", "hosts", [7], 9, false, 1⟩ := rfl
  have hasked := shows_what_was_asked hshown
  ⟨hshown, hasked.1 rfl, hasked.2 (by decide)⟩

theorem loading_ends_two_pickers : ∃ r, ∀ outcome, ∃ result : ListResult ℕ,
    (run step (run step State.initial (two_pickers.take 3))
      [.settle r outcome, .clear r, .notify 1]).components 1 =
      some ⟨"hosts", "hosts", result.rows, result.total, false, 1⟩ :=
  loading_ends (rfl : (run step State.initial (two_pickers.take 3)).components 1 =
    some ⟨"hosts", "hosts", [], 0, true, 1⟩)

end EnvMgr.Grid.SharedList

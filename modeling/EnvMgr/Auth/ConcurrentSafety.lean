/-
Exactly when concurrent rotation is single use.

What holds in every interleaving is little: the row a request carries stays
where it was, and is used only if some request has succeeded. Whether two
succeed is decided at one statement, the commit of an exchange, by whether the
row it spends was still unspent.
-/
import EnvMgr.Auth.Concurrent

namespace EnvMgr.Auth.Concurrent

variable {v : Version} {token_hash : String}

variable {n : ℕ} {sha256 : String → String} {token : String} {clients : Fin n → Client}
  {draws : Fin n → Draw}

/-! ## The invariant of every interleaving -/

/-- The row a request has found exchangeable and not yet let go of. -/
def Phase.carries : Phase → Option RefreshToken
  | .loaded row => some row
  | .authorised row _ => some row
  | .inserted row => some row
  | .found row _ => some row
  | .spent row _ _ => some row
  | _ => none

/-- The same, once the request has an uncommitted successor. -/
def Phase.inserting : Phase → Option RefreshToken
  | .inserted row => some row
  | .found row _ => some row
  | .spent row _ _ => some row
  | _ => none

theorem Phase.carries_of_inserting {ph : Phase} {row : RefreshToken}
    (h : ph.inserting = some row) : ph.carries = some row := by
  cases ph <;> simp_all [Phase.inserting, Phase.carries]

/-- No two requests have succeeded. -/
def OneSuccess (s : State n) : Prop :=
  ∀ p q, s.requests p = .succeeded → s.requests q = .succeeded → p = q

structure Sound (sha256 : String → String) (token : String) (draws : Fin n → Draw)
    (s : State n) : Prop where
  unique_hash : ∀ v ∈ s.versions, ∀ v' ∈ s.versions,
    v.row.token_hash = v'.row.token_hash → v = v'
  pending : ∀ v ∈ s.versions, ∀ i, v.inserted_by = some i → ∃ p : Fin n, p.val = i ∧
    ∃ row, (s.requests p).inserting = some row ∧ v.row.family_id = row.family_id ∧
      v.row.token_hash = sha256 (draws p).refresh_token
  carried : ∀ p row, (s.requests p).carries = some row → ∃ v ∈ s.versions,
    v.inserted_by = none ∧ v.row.id = row.id ∧ v.row.family_id = row.family_id ∧
      v.row.token_hash = sha256 token ∧
      (v.row.used_at ≠ none → ∃ q, s.requests q = .succeeded)
  spent_by_success : ∀ p, s.requests p = .succeeded → ∃ v ∈ s.versions,
    v.inserted_by = none ∧ v.row.token_hash = sha256 token ∧ v.row.used_at ≠ none
  one_unused : OneSuccess s → ∀ v ∈ s.versions, ∀ v' ∈ s.versions, v.inserted_by = none →
    v'.inserted_by = none → v.row.used_at = none → v'.row.used_at = none →
    v.row.family_id = v'.row.family_id → v = v'

theorem mem_start {db : Db} :
    v ∈ (start n db).versions ↔ ∃ r ∈ db.tokens, v = ⟨r, none⟩ := by
  simp only [start, Table.mem_def, List.mem_map]
  constructor
  · rintro ⟨r, hr, rfl⟩
    exact ⟨r, hr, rfl⟩
  · rintro ⟨r, hr, rfl⟩
    exact ⟨r, hr, rfl⟩

theorem sound_start {db : Db} (h : Auth.Sound db) :
    Sound sha256 token draws (start n db) where
  unique_hash := by
    intro v hv v' hv' heq
    obtain ⟨r, hr, rfl⟩ := mem_start.1 hv
    obtain ⟨r', hr', rfl⟩ := mem_start.1 hv'
    rw [h.unique_hash r hr r' hr' heq]
  pending := by
    intro v hv i hi
    obtain ⟨r, hr, rfl⟩ := mem_start.1 hv
    simp at hi
  carried := by
    intro p row hp
    simp [start, Phase.carries] at hp
  spent_by_success := by
    intro p hp
    simp [start] at hp
  one_unused := by
    intro _ v hv v' hv' _ _ hu hu' hfam
    obtain ⟨r, hr, rfl⟩ := mem_start.1 hv
    obtain ⟨r', hr', rfl⟩ := mem_start.1 hv'
    rw [h.one_unused r hr r' hr' hu hu' hfam]

/-! ## Statements that end nothing -/

/-- Request `p` moves to `ph` without touching the table. -/
def moved (s : State n) (p : Fin n) (ph : Phase) : State n :=
  { s with requests := Function.update s.requests p ph }

theorem moved_self (s : State n) (p : Fin n) (ph : Phase) : (moved s p ph).requests p = ph :=
  Function.update_self _ _ _

theorem moved_of_ne (s : State n) {p q : Fin n} (h : q ≠ p) (ph : Phase) :
    (moved s p ph).requests q = s.requests q :=
  Function.update_of_ne h _ _

/-- What such a move may do: it carries what it carried, or a row it has just
read unspent; it keeps an uncommitted successor if it has one; and it neither
succeeds nor was done. -/
structure Quiet (token_hash : String) (s : State n) (p : Fin n) (ph : Phase) : Prop where
  carries : ∀ row, ph.carries = some row → (s.requests p).carries = some row ∨
    ∃ v ∈ s.versions, v.inserted_by = none ∧ v.row = row ∧ v.row.token_hash = token_hash ∧
      v.row.used_at = none
  inserting : ∀ v ∈ s.versions, v.inserted_by = some p.val →
    ph.inserting = (s.requests p).inserting
  succeeded : ph = .succeeded ↔ s.requests p = .succeeded

theorem Quiet.success_iff {s : State n} {p : Fin n} {ph : Phase}
    (hq : Quiet token_hash s p ph) (q : Fin n) :
    (moved s p ph).requests q = .succeeded ↔ s.requests q = .succeeded := by
  by_cases hqp : q = p
  · subst hqp
    rw [moved_self]
    exact hq.succeeded
  · rw [moved_of_ne s hqp]

/-- A statement that only reads keeps the invariant. -/
theorem Sound.move {s : State n} (h : Sound sha256 token draws s) {p : Fin n} {ph : Phase}
    (hq : Quiet (sha256 token) s p ph) : Sound sha256 token draws (moved s p ph) where
  unique_hash := h.unique_hash
  pending := by
    intro v hv i hi
    obtain ⟨q, hqi, row, hrow, hfam, hhash⟩ := h.pending v hv i hi
    refine ⟨q, hqi, row, ?_, hfam, hhash⟩
    by_cases hqp : q = p
    · subst hqp
      rw [moved_self, hq.inserting v hv (by rw [hi, hqi])]
      exact hrow
    · rwa [moved_of_ne s hqp]
  carried := by
    have hold : ∀ q row, (s.requests q).carries = some row → ∃ v ∈ s.versions,
        v.inserted_by = none ∧ v.row.id = row.id ∧ v.row.family_id = row.family_id ∧
          v.row.token_hash = sha256 token ∧
          (v.row.used_at ≠ none → ∃ q, (moved s p ph).requests q = .succeeded) := by
      intro q row hcarries
      obtain ⟨v, hv, hcommitted, hid, hfam, hhash, hused⟩ := h.carried q row hcarries
      refine ⟨v, hv, hcommitted, hid, hfam, hhash, fun hne => ?_⟩
      obtain ⟨q', hq'⟩ := hused hne
      exact ⟨q', (hq.success_iff q').2 hq'⟩
    intro q row hcarries
    by_cases hqp : q = p
    · subst hqp
      rw [moved_self] at hcarries
      rcases hq.carries row hcarries with hcarried | ⟨v, hv, hcommitted, rfl, hhash, hunused⟩
      · exact hold q row hcarried
      · exact ⟨v, hv, hcommitted, rfl, rfl, hhash, fun hne => absurd hunused hne⟩
    · rw [moved_of_ne s hqp] at hcarries
      exact hold q row hcarries
  spent_by_success := fun q hsucc => h.spent_by_success q ((hq.success_iff q).1 hsucc)
  one_unused := by
    intro hone
    exact h.one_unused fun a b ha hb =>
      hone a b ((hq.success_iff a).2 ha) ((hq.success_iff b).2 hb)

/-- A move to a phase that carries nothing, by a request with nothing pending. -/
theorem quiet_of_idle {s : State n} {p : Fin n} {ph : Phase}
    (hcarries : ph.carries = none) (hne : ph ≠ .succeeded) (hp : s.requests p ≠ .succeeded)
    (hpending : ∀ v ∈ s.versions, v.inserted_by ≠ some p.val) : Quiet token_hash s p ph where
  carries := by
    intro row hrow
    rw [hcarries] at hrow
    exact absurd hrow (Option.some_ne_none row).symm
  inserting := fun v hv hi => absurd hi (hpending v hv)
  succeeded := iff_of_false hne hp

/-- A move that goes on with the row it carries. -/
theorem quiet_of_carrying {s : State n} {p : Fin n} {ph : Phase}
    (hcarries : ph.carries = (s.requests p).carries)
    (hinserting : ph.inserting = (s.requests p).inserting) (hne : ph ≠ .succeeded)
    (hp : s.requests p ≠ .succeeded) : Quiet token_hash s p ph where
  carries := fun _ hrow => Or.inl (hcarries ▸ hrow)
  inserting := fun _ _ _ => hinserting
  succeeded := iff_of_false hne hp

theorem Sound.no_pending {s : State n} (h : Sound sha256 token draws s) {p : Fin n}
    (hp : (s.requests p).inserting = none) : ∀ v ∈ s.versions, v.inserted_by ≠ some p.val := by
  intro v hv hi
  obtain ⟨q, hqi, row, hrow, -⟩ := h.pending v hv p.val hi
  rw [Fin.ext hqi, hp] at hrow
  exact absurd hrow (Option.some_ne_none row).symm

/-! ## Statements that write -/

/-- The `INSERT` of a successor under a hash nobody has. -/
theorem Sound.insert {s : State n} (h : Sound sha256 token draws s) {p : Fin n} {row : RefreshToken}
    (hp : (s.requests p).inserting = some row) {user : User} {now : DateTime}
    (hfree : ∀ v ∈ s.versions, v.row.token_hash ≠ sha256 (draws p).refresh_token) :
    Sound sha256 token draws { s with
      versions := s.versions.insert
        ⟨fun id => ⟨issued_row sha256 user (clients p) row.family_id (draws p).refresh_token
            now id, some p⟩, fun _ => rfl⟩ } where
  unique_hash :=
    Table.unique_insert (C := fun v v' : Version => v.row.token_hash = v'.row.token_hash) Eq.symm
      h.unique_hash hfree
  pending := by
    intro v hv i hi
    rcases Table.mem_insert.1 hv with hv | rfl
    · exact h.pending v hv i hi
    · exact ⟨p, by simpa using hi, row, hp, rfl, rfl⟩
  carried := by
    intro q row' hq
    obtain ⟨v, hv, hrest⟩ := h.carried q row' hq
    exact ⟨v, Table.mem_insert.2 (Or.inl hv), hrest⟩
  spent_by_success := by
    intro q hq
    obtain ⟨v, hv, hrest⟩ := h.spent_by_success q hq
    exact ⟨v, Table.mem_insert.2 (Or.inl hv), hrest⟩
  one_unused := by
    intro hone v hv v' hv' hc hc'
    rcases Table.mem_insert.1 hv with hv | rfl
    · rcases Table.mem_insert.1 hv' with hv' | rfl
      · exact h.one_unused hone v hv v' hv' hc hc'
      · simp at hc'
    · simp at hc

theorem Sound.rollback {s : State n} (h : Sound sha256 token draws s) (p : Fin n) :
    Sound sha256 token draws { s with versions := rollback s.versions p } where
  unique_hash := fun v hv v' hv' =>
    h.unique_hash v (Table.mem_delete.1 hv).1 v' (Table.mem_delete.1 hv').1
  pending := fun v hv => h.pending v (Table.mem_delete.1 hv).1
  carried := by
    intro q row hq
    obtain ⟨v, hv, hcommitted, hrest⟩ := h.carried q row hq
    exact ⟨v, Table.mem_delete.2 ⟨hv, by simp [hcommitted]⟩, hcommitted, hrest⟩
  spent_by_success := by
    intro q hq
    obtain ⟨v, hv, hcommitted, hrest⟩ := h.spent_by_success q hq
    exact ⟨v, Table.mem_delete.2 ⟨hv, by simp [hcommitted]⟩, hcommitted, hrest⟩
  one_unused := fun hone v hv v' hv' =>
    h.one_unused hone v (Table.mem_delete.1 hv).1 v' (Table.mem_delete.1 hv').1

theorem rollback_pending {s : State n} {p : Fin n}
    (hv : v ∈ rollback s.versions p) : v.inserted_by ≠ some p.val := by
  simpa [rollback] using (Table.mem_delete.1 hv).2

theorem Sound.revoke {s : State n} (h : Sound sha256 token draws s) (c : Version → Bool)
    (reason : String) (revoked_at : DateTime) :
    Sound sha256 token draws { s with
      versions := s.versions.update c (commit_revocation reason revoked_at) } := by
  -- a revocation touches none of the columns the invariant is about
  have hg : ∀ v : Version,
      let v' := if c v then (commit_revocation reason revoked_at).apply v else v
      v'.inserted_by = v.inserted_by ∧ v'.row.id = v.row.id ∧
        v'.row.family_id = v.row.family_id ∧ v'.row.token_hash = v.row.token_hash ∧
        v'.row.used_at = v.row.used_at := by
    intro v
    by_cases hc : c v <;> simp [hc, commit_revocation, Auth.revoke]
  constructor
  · intro v hv v' hv' heq
    obtain ⟨w, hw, rfl⟩ := Table.mem_update.1 hv
    obtain ⟨w', hw', rfl⟩ := Table.mem_update.1 hv'
    rw [(hg w).2.2.2.1, (hg w').2.2.2.1] at heq
    rw [h.unique_hash w hw w' hw' heq]
  · intro v hv i hi
    obtain ⟨w, hw, rfl⟩ := Table.mem_update.1 hv
    obtain ⟨hinserted, -, hfamily, htoken, -⟩ := hg w
    rw [hinserted] at hi
    obtain ⟨p, hpi, row, hrow, hfam, hhash⟩ := h.pending w hw i hi
    refine ⟨p, hpi, row, hrow, ?_, ?_⟩
    · rw [hfamily, hfam]
    · rw [htoken, hhash]
  · intro p row hp
    obtain ⟨w, hw, hcommitted, hid, hfam, hhash, hused⟩ := h.carried p row hp
    obtain ⟨hinserted, hkey, hfamily, htoken, husage⟩ := hg w
    refine ⟨_, Table.mem_update.2 ⟨w, hw, rfl⟩, ?_, ?_, ?_, ?_, fun hne => ?_⟩
    · rw [hinserted, hcommitted]
    · rw [hkey, hid]
    · rw [hfamily, hfam]
    · rw [htoken, hhash]
    · rw [husage] at hne
      exact hused hne
  · intro p hp
    obtain ⟨w, hw, hcommitted, hhash, hused⟩ := h.spent_by_success p hp
    obtain ⟨hinserted, -, -, htoken, husage⟩ := hg w
    refine ⟨_, Table.mem_update.2 ⟨w, hw, rfl⟩, ?_, ?_, ?_⟩
    · rw [hinserted, hcommitted]
    · rw [htoken, hhash]
    · rwa [husage]
  · intro hone v hv v' hv' hc hc' hu hu' hfam
    obtain ⟨w, hw, rfl⟩ := Table.mem_update.1 hv
    obtain ⟨w', hw', rfl⟩ := Table.mem_update.1 hv'
    obtain ⟨hinserted, -, hfamily, -, husage⟩ := hg w
    obtain ⟨hinserted', -, hfamily', -, husage'⟩ := hg w'
    rw [hinserted] at hc
    rw [hinserted'] at hc'
    rw [husage] at hu
    rw [husage'] at hu'
    rw [hfamily, hfamily'] at hfam
    rw [h.one_unused hone w hw w' hw' hc hc' hu hu' hfam]

/-! ## The commit of an exchange -/

section Commit

variable {s : State n} {p : Fin n} {row : RefreshToken} {successor_id : ℕ} {used_at : DateTime}

/-- The state after request `p` has committed. -/
def committed (s : State n) (p : Fin n) (row : RefreshToken) (successor_id : ℕ)
    (used_at : DateTime) : State n :=
  { s with
    versions := s.versions.update (fun _ => true)
      (commit_exchange p row.id successor_id used_at)
    requests := Function.update s.requests p .succeeded }

theorem mem_committed {v' : Version} :
    v' ∈ (committed s p row successor_id used_at).versions ↔
      ∃ v ∈ s.versions, (commit_exchange p row.id successor_id used_at).apply v = v' := by
  simp [committed, Table.mem_update]

theorem commit_hash (v : Version) :
    ((commit_exchange p row.id successor_id used_at).apply v).row.token_hash
      = v.row.token_hash := by
  by_cases h : v.row.id = row.id <;> simp [commit_exchange, h, spend]

theorem commit_family (v : Version) :
    ((commit_exchange p row.id successor_id used_at).apply v).row.family_id
      = v.row.family_id := by
  by_cases h : v.row.id = row.id <;> simp [commit_exchange, h, spend]

theorem commit_id (v : Version) :
    ((commit_exchange p row.id successor_id used_at).apply v).row.id = v.row.id := by
  by_cases h : v.row.id = row.id <;> simp [commit_exchange, h, spend]

/-- A row unused after the commit is not the spent one, and was unused before. -/
theorem commit_unused
    (h : ((commit_exchange p row.id successor_id used_at).apply v).row.used_at = none) :
    v.row.id ≠ row.id ∧ v.row.used_at = none := by
  by_cases hid : v.row.id = row.id
  · simp [commit_exchange, hid, spend] at h
  · exact ⟨hid, by simpa [commit_exchange, hid] using h⟩

theorem committed_self :
    (committed s p row successor_id used_at).requests p = .succeeded :=
  Function.update_self _ _ _

theorem committed_of_ne {q : Fin n} (h : q ≠ p) :
    (committed s p row successor_id used_at).requests q = s.requests q :=
  Function.update_of_ne h _ _

theorem committed_success {q : Fin n}
    (hq : (committed s p row successor_id used_at).requests q = .succeeded) :
    q = p ∨ s.requests q = .succeeded := by
  by_cases hqp : q = p
  · exact Or.inl hqp
  · rw [committed_of_ne hqp] at hq
    exact Or.inr hq

theorem success_committed {q : Fin n} (hq : q = p ∨ s.requests q = .succeeded) :
    (committed s p row successor_id used_at).requests q = .succeeded := by
  by_cases hqp : q = p
  · rw [hqp, committed_self]
  · rw [committed_of_ne hqp]
    exact hq.resolve_left hqp

/-- **Who spent the row**: if it is used already when `p` commits, another
request has succeeded. -/
theorem Sound.unspent_of_one_success (h : Sound sha256 token draws s)
    (hp : s.requests p = .spent row successor_id used_at)
    (hone : OneSuccess (committed s p row successor_id used_at)) :
    OneSuccess s ∧ ∀ v ∈ s.versions, v.row.id = row.id → v.row.used_at = none := by
  refine ⟨fun a b ha hb => hone a b (success_committed (Or.inr ha))
    (success_committed (Or.inr hb)), fun v hv hid => ?_⟩
  by_contra hne
  -- `p` itself has not succeeded yet, so somebody else has
  obtain ⟨w, hw, -, hwid, -, -, hused⟩ := h.carried p row (by rw [hp]; rfl)
  have hvw : v = w := Table.eq_of_key_eq hv hw (hid.trans hwid.symm)
  obtain ⟨q, hq⟩ := hused (hvw ▸ hne)
  have hqp : q = p := hone q p (success_committed (Or.inr hq)) (success_committed (Or.inl rfl))
  rw [hqp, hp] at hq
  simp at hq

/-- What is still pending after the commit was inserted by another request. -/
theorem commit_pending {i : ℕ}
    (hi : ((commit_exchange p row.id successor_id used_at).apply v).inserted_by = some i) :
    v.inserted_by = some i ∧ i ≠ p.val := by
  by_cases hvp : v.inserted_by = some p.val
  · simp [commit_exchange, hvp] at hi
  · have hi : v.inserted_by = some i := by simpa [commit_exchange, hvp] using hi
    exact ⟨hi, fun heq => hvp (heq ▸ hi)⟩

/-- A row that shows after the commit showed before, or is the successor of `row`. -/
theorem Sound.shown_by_commit (h : Sound sha256 token draws s)
    (hinserting : (s.requests p).inserting = some row) (hv : v ∈ s.versions)
    (hvc : ((commit_exchange p row.id successor_id used_at).apply v).inserted_by = none) :
    v.inserted_by = none ∨ v.row.family_id = row.family_id ∧
      v.row.token_hash = sha256 (draws p).refresh_token := by
  cases hvi : v.inserted_by with
  | none => exact Or.inl rfl
  | some i =>
    obtain ⟨q, hqi, row', hrow', hfam, hhash⟩ := h.pending v hv i hvi
    have hip : i = p.val := by
      by_contra hne
      simp [commit_exchange, hvi, hne] at hvc
    have hqp : q = p := Fin.ext (hqi.trans hip)
    rw [hqp, hinserting] at hrow'
    cases hrow'
    exact Or.inr ⟨hfam, hqp ▸ hhash⟩

/-- With one success, the family of the spent row has its successor unused and no other. -/
theorem Sound.one_unused_committed (h : Sound sha256 token draws s)
    (hp : s.requests p = .spent row successor_id used_at)
    (hone : OneSuccess (committed s p row successor_id used_at)) {u : Version}
    (hv : v ∈ s.versions) (hu : u ∈ s.versions)
    (hvc : ((commit_exchange p row.id successor_id used_at).apply v).inserted_by = none)
    (huc : ((commit_exchange p row.id successor_id used_at).apply u).inserted_by = none)
    (hvu : ((commit_exchange p row.id successor_id used_at).apply v).row.used_at = none)
    (huu : ((commit_exchange p row.id successor_id used_at).apply u).row.used_at = none)
    (hfam : v.row.family_id = u.row.family_id) : v = u := by
  have hinserting : (s.requests p).inserting = some row := by rw [hp]; rfl
  obtain ⟨w, hw, hwc, hwid, hwfam, -, -⟩ :=
    h.carried p row (Phase.carries_of_inserting hinserting)
  obtain ⟨hone_s, hunspent⟩ := h.unspent_of_one_success hp hone
  obtain ⟨hvid, hvu⟩ := commit_unused hvu
  obtain ⟨huid, huu⟩ := commit_unused huu
  -- no unused row of that family showed before, but `row` itself
  have hnot_family : ∀ x ∈ s.versions, x.inserted_by = none → x.row.used_at = none →
      x.row.id ≠ row.id → x.row.family_id ≠ row.family_id := by
    intro x hx hxc hxu hxid hxfam
    have hxw : x = w := h.one_unused hone_s x hx w hw hxc hwc hxu (hunspent w hw hwid)
      (hxfam.trans hwfam.symm)
    exact hxid (hxw ▸ hwid)
  rcases h.shown_by_commit hinserting hv hvc with hv₀ | ⟨hvf, hvh⟩
  · rcases h.shown_by_commit hinserting hu huc with hu₀ | ⟨huf, huh⟩
    · exact h.one_unused hone_s v hv u hu hv₀ hu₀ hvu huu hfam
    · rw [huf] at hfam
      exact absurd hfam (hnot_family v hv hv₀ hvu hvid)
  · rcases h.shown_by_commit hinserting hu huc with hu₀ | ⟨huf, huh⟩
    · rw [hvf] at hfam
      exact absurd hfam.symm (hnot_family u hu hu₀ huu huid)
    · have hsame : v.row.token_hash = u.row.token_hash := by rw [hvh, huh]
      exact h.unique_hash v hv u hu hsame

theorem Sound.commit (h : Sound sha256 token draws s)
    (hp : s.requests p = .spent row successor_id used_at) :
    Sound sha256 token draws (committed s p row successor_id used_at) := by
  obtain ⟨w, hw, hwc, hwid, -, hwhash, -⟩ := h.carried p row (by rw [hp]; rfl)
  have hnone : ∀ v : Version, v.inserted_by = none →
      ((commit_exchange p row.id successor_id used_at).apply v).inserted_by = none := by
    intro v hv
    simp [commit_exchange, hv]
  constructor
  · -- unique_hash
    intro v' hv' u' hu' heq
    obtain ⟨v, hv, rfl⟩ := mem_committed.1 hv'
    obtain ⟨u, hu, rfl⟩ := mem_committed.1 hu'
    rw [commit_hash, commit_hash] at heq
    rw [h.unique_hash v hv u hu heq]
  · -- pending
    intro v' hv' i hi
    obtain ⟨v, hv, rfl⟩ := mem_committed.1 hv'
    obtain ⟨hvi, hip⟩ := commit_pending hi
    obtain ⟨q, hqi, row', hrow', hfam, hhash⟩ := h.pending v hv i hvi
    have hqp : q ≠ p := fun heq => hip (heq ▸ hqi.symm)
    refine ⟨q, hqi, row', ?_, ?_, ?_⟩
    · rwa [committed_of_ne hqp]
    · rw [commit_family, hfam]
    · rw [commit_hash, hhash]
  · -- carried
    intro q row' hq
    -- a request that has succeeded carries nothing
    have hqp : q ≠ p := by
      rintro rfl
      rw [committed_self] at hq
      simp [Phase.carries] at hq
    rw [committed_of_ne hqp] at hq
    obtain ⟨v, hv, hvc, hid, hfam, hhash, -⟩ := h.carried q row' hq
    refine ⟨_, mem_committed.2 ⟨v, hv, rfl⟩, hnone v hvc, ?_, ?_, ?_, fun _ => ?_⟩
    · rw [commit_id, hid]
    · rw [commit_family, hfam]
    · rw [commit_hash, hhash]
    · exact ⟨p, success_committed (Or.inl rfl)⟩
  · -- spent_by_success: the row that `p` has just spent will do for everybody
    intro q _
    refine ⟨_, mem_committed.2 ⟨w, hw, rfl⟩, hnone w hwc, ?_, ?_⟩
    · rw [commit_hash, hwhash]
    · simp [commit_exchange, hwid, spend]
  · -- one_unused
    intro hone v' hv' u' hu' hvc huc hvu huu hfam
    obtain ⟨v, hv, rfl⟩ := mem_committed.1 hv'
    obtain ⟨u, hu, rfl⟩ := mem_committed.1 hu'
    rw [commit_family, commit_family] at hfam
    rw [h.one_unused_committed hp hone hv hu hvc huc hvu huu hfam]

end Commit

/-! ## Every event -/

/-- Whether request `p` is about to commit an exchange. -/
def Phase.is_spent : Phase → Bool
  | .spent .. => true
  | _ => false

theorem load_cases (sha256 : String → String) (token : String)
    (versions : Table Version Version.id) (now : DateTime) :
    (load sha256 token versions now).carries = none ∧
        load sha256 token versions now ≠ .succeeded ∧
        (load sha256 token versions now).inserting = none ∨
      ∃ v ∈ versions, load sha256 token versions now = .loaded v.row ∧ v.inserted_by = none ∧
        v.row.token_hash = sha256 token ∧ v.row.used_at = none := by
  unfold load
  split
  · exact Or.inl ⟨rfl, by simp, rfl⟩
  · rename_i v hv
    obtain ⟨hmem, hp⟩ := Table.select_one_some hv
    obtain ⟨hcommitted, hhash⟩ := of_decide_eq_true hp
    split_ifs with hused hrevoked hexpired
    · exact Or.inl ⟨rfl, by simp, rfl⟩
    · exact Or.inl ⟨rfl, by simp, rfl⟩
    · exact Or.inl ⟨rfl, by simp, rfl⟩
    · exact Or.inr ⟨v, hmem, rfl, hcommitted, hhash, not_not.1 hused⟩

theorem authorise_cases (users : List User) (row : RefreshToken) :
    (authorise users row).carries = none ∧ authorise users row ≠ .succeeded ∨
      ∃ user, authorise users row = .authorised row user := by
  unfold authorise
  split
  · exact Or.inl ⟨rfl, by simp⟩
  · rename_i user _
    split_ifs
    · exact Or.inr ⟨user, rfl⟩
    · exact Or.inl ⟨rfl, by simp⟩

/-- The invariant is kept and everybody's success is what it was. -/
def Kept (sha256 : String → String) (token : String) (draws : Fin n → Draw)
    (s s' : State n) : Prop :=
  Sound sha256 token draws s' ∧
    ∀ q, s'.requests q = .succeeded ↔ s.requests q = .succeeded

theorem Sound.kept_of_quiet {s : State n} (h : Sound sha256 token draws s) {p : Fin n}
    {ph : Phase} (hq : Quiet (sha256 token) s p ph) :
    Kept sha256 token draws s (moved s p ph) :=
  ⟨h.move hq, hq.success_iff⟩

section

variable {s : State n} {p : Fin n}

/-- A request carries no row yet, or the unused one that it has loaded. -/
theorem Sound.quiet_load (h : Sound sha256 token draws s) (hp : s.requests p = .received)
    (now : DateTime) : Quiet (sha256 token) s p (load sha256 token s.versions now) := by
  have hpending := h.no_pending (p := p) (by rw [hp]; rfl)
  rcases load_cases sha256 token s.versions now with
    ⟨hcarries, hne, -⟩ | ⟨v, hv, hload, hcommitted, hhash, hunused⟩
  · exact quiet_of_idle hcarries hne (by simp [hp]) hpending
  · rw [hload]
    refine ⟨fun row hrow => Or.inr ⟨v, hv, hcommitted, ?_, hhash, hunused⟩, fun w hw hi => ?_,
      by simp [hp]⟩
    · simpa [Phase.carries] using hrow
    · exact absurd hi (hpending w hw)

theorem Sound.quiet_authorise (h : Sound sha256 token draws s)
    (hp : s.requests p = .loaded row) : Quiet (sha256 token) s p (authorise s.users row) := by
  rcases authorise_cases s.users row with ⟨hcarries, hne⟩ | ⟨user, hauth⟩
  · exact quiet_of_idle hcarries hne (by simp [hp]) (h.no_pending (by rw [hp]; rfl))
  · rw [hauth]
    exact quiet_of_carrying (by rw [hp]; rfl) (by rw [hp]; rfl) (by simp) (by simp [hp])

/-- The hash of the successor is taken, or taken by a transaction still open, or free. -/
theorem Sound.proceed_authorised (h : Sound sha256 token draws s) {user : User}
    (hp : s.requests p = .authorised row user) (now : DateTime) :
    Kept sha256 token draws s (step sha256 token clients draws s (.proceed p now)) := by
  have hpending := h.no_pending (p := p) (by rw [hp]; rfl)
  rw [step]
  simp only [advance, hp]
  split_ifs with hcommitted htaken
  · exact h.kept_of_quiet (quiet_of_idle rfl (by simp) (by simp [hp]) hpending)
  · exact h.kept_of_quiet (quiet_of_carrying (by rw [hp]) (by rw [hp]) (by simp) (by simp [hp]))
  · have hq : Quiet (sha256 token) s p (.inserted row) :=
      ⟨fun r hr => Or.inl (by rw [hp]; exact hr),
        fun v hv hi => absurd hi (hpending v hv), by simp [hp]⟩
    refine ⟨?_, hq.success_iff⟩
    exact (h.move hq).insert (by rw [moved_self]; rfl) (fun v hv heq => htaken ⟨v, hv, heq⟩)

/-- A revocation goes from row to row, and its last statement commits. -/
theorem Sound.proceed_scanned (h : Sound sha256 token draws s) {todo done : List ℕ}
    {reason : String} {revoked_at : DateTime}
    (hp : s.requests p = .scanned todo done reason revoked_at) (now : DateTime) :
    Kept sha256 token draws s (step sha256 token clients draws s (.proceed p now)) := by
  have hpending := h.no_pending (p := p) (by rw [hp]; rfl)
  rw [step]
  cases todo with
  | nil =>
    simp only [advance, hp]
    have hsound := h.revoke (fun v => v.row.id ∈ done) reason revoked_at
    exact hsound.kept_of_quiet (quiet_of_idle rfl (by simp) (by simp [hp])
      (hsound.no_pending (by simp [hp, Phase.inserting])))
  | cons id todo =>
    simp only [advance, hp]
    split_ifs
    · exact h.kept_of_quiet (quiet_of_idle rfl (by simp) (by simp [hp]) hpending)
    · exact h.kept_of_quiet (quiet_of_idle rfl (by simp) (by simp [hp]) hpending)
    · exact h.kept_of_quiet (quiet_of_idle rfl (by simp) (by simp [hp]) hpending)

/-- **One statement of a request** that is not about to commit an exchange. Only the insertion of
the successor and the end of a revocation write versions; a rollback takes them away. -/
theorem Sound.proceed (h : Sound sha256 token draws s) (p : Fin n) (now : DateTime)
    (hns : (s.requests p).is_spent = false) :
    Kept sha256 token draws s (step sha256 token clients draws s (.proceed p now)) := by
  cases hp : s.requests p with
  | received =>
    simp only [step, advance, hp]
    exact h.kept_of_quiet (h.quiet_load hp now)
  | loaded row =>
    simp only [step, advance, hp]
    exact h.kept_of_quiet (h.quiet_authorise hp)
  | authorised row user => exact h.proceed_authorised hp now
  | inserted row =>
    simp only [step, advance, hp]
    split
    · have hq : Quiet (sha256 token)
          { s with versions := Concurrent.rollback s.versions p } p .refused :=
        quiet_of_idle rfl (by simp) (by simp [hp]) (fun v hv => rollback_pending hv)
      exact ⟨(h.rollback p).move hq, hq.success_iff⟩
    · exact h.kept_of_quiet
        (quiet_of_carrying (by rw [hp]; rfl) (by rw [hp]; rfl) (by simp) (by simp [hp]))
  | found row successor_id =>
    simp only [step, advance, hp]
    split_ifs
    · exact h.kept_of_quiet
        (quiet_of_carrying (by rw [hp]) (by rw [hp]) (by simp) (by simp [hp]))
    · exact h.kept_of_quiet
        (quiet_of_carrying (by rw [hp]; rfl) (by rw [hp]; rfl) (by simp) (by simp [hp]))
  | spent row successor_id used_at => simp [hp, Phase.is_spent] at hns
  | revoking family_id reason =>
    simp only [step, advance, hp]
    exact h.kept_of_quiet
      (quiet_of_idle rfl (by simp) (by simp [hp]) (h.no_pending (by rw [hp]; rfl)))
  | scanned todo done reason revoked_at => exact h.proceed_scanned hp now
  | succeeded =>
    simp only [step, advance, hp]
    exact h.kept_of_quiet ⟨fun row hrow => by simp [Phase.carries] at hrow,
      fun v hv hi => absurd hi (h.no_pending (by rw [hp]; rfl) v hv), by simp [hp]⟩
  | refused =>
    simp only [step, advance, hp]
    exact h.kept_of_quiet
      (quiet_of_idle rfl (by simp) (by simp [hp]) (h.no_pending (by rw [hp]; rfl)))

end

theorem Sound.abort {s : State n} (h : Sound sha256 token draws s) (p : Fin n) :
    Kept sha256 token draws s (step sha256 token clients draws s (.abort p)) := by
  rw [step]
  split_ifs with hp
  · exact ⟨h, fun _ => Iff.rfl⟩
  · have hq : Quiet (sha256 token)
        { s with versions := Concurrent.rollback s.versions p } p .refused :=
      quiet_of_idle rfl (by simp) hp (fun v hv => rollback_pending hv)
    exact ⟨(h.rollback p).move hq, hq.success_iff⟩

/-- The commit of an exchange, as an event. -/
theorem step_spent {s : State n} {p : Fin n} {row : RefreshToken} {successor_id : ℕ}
    {used_at : DateTime} (hp : s.requests p = .spent row successor_id used_at) (now : DateTime) :
    step sha256 token clients draws s (.proceed p now)
      = committed s p row successor_id used_at := by
  simp only [step, advance, hp, committed]

theorem Sound.step {s : State n} (h : Sound sha256 token draws s) (e : Event n) :
    Sound sha256 token draws (step sha256 token clients draws s e) := by
  cases e with
  | proceed p now =>
    by_cases hns : (s.requests p).is_spent = false
    · exact (h.proceed p now hns).1
    · cases hp : s.requests p with
      | spent row successor_id used_at =>
        rw [step_spent hp]
        exact h.commit hp
      | _ => simp [hp, Phase.is_spent] at hns
  | abort p => exact (h.abort p).1
  | users rows =>
    exact ⟨h.unique_hash, h.pending, h.carried, h.spent_by_success, h.one_unused⟩

/-! ## Runs -/

theorem Sound.single_use {s : State n} (h : Sound sha256 token draws s) (hone : OneSuccess s) :
    SingleUse s :=
  ⟨hone, fun _ v hv v' hv' hc hc' hl hl' hfam =>
    h.one_unused hone v hv v' hv' hc hc' hl.1 hl'.1 hfam⟩

/-- An event that leaves every success alone keeps single use. -/
theorem single_use_iff_of_kept {s s' : State n} (hs : SingleUse s)
    (hk : Kept sha256 token draws s s') : SingleUse s' :=
  hk.1.single_use fun p q hp hq => hs.one_success p q ((hk.2 p).1 hp) ((hk.2 q).1 hq)

/-- **The deciding statement.** From a state that is single use, an event keeps
it so exactly if what it commits was still unspent. -/
theorem single_use_step_iff {s : State n} (h : Sound sha256 token draws s) (hs : SingleUse s)
    (e : Event n) :
    SingleUse (step sha256 token clients draws s e) ↔ StillUnspent s e := by
  cases e with
  | abort p => exact iff_of_true (single_use_iff_of_kept hs (h.abort p)) trivial
  | users rows => exact iff_of_true ⟨hs.one_success, hs.one_live⟩ trivial
  | proceed p now =>
    by_cases hns : (s.requests p).is_spent = false
    · refine iff_of_true (single_use_iff_of_kept hs (h.proceed p now hns)) ?_
      rw [StillUnspent]
      cases hp : s.requests p with
      | spent row successor_id used_at => simp [hp, Phase.is_spent] at hns
      | _ => trivial
    · cases hp : s.requests p with
      | spent row successor_id used_at =>
        rw [step_spent hp, StillUnspent, hp]
        constructor
        · intro hsingle
          exact (h.unspent_of_one_success hp hsingle.one_success).2
        · intro hunspent
          refine (h.commit hp).single_use ?_
          -- an earlier success would have spent the row that `p` carries
          have hfirst : ∀ q, s.requests q ≠ .succeeded := by
            intro q hq
            obtain ⟨v, hv, -, hvhash, hvused⟩ := h.spent_by_success q hq
            obtain ⟨w, hw, -, hwid, -, hwhash, -⟩ := h.carried p row (by rw [hp]; rfl)
            have hvw : v = w := h.unique_hash v hv w hw (hvhash.trans hwhash.symm)
            exact hvused (hunspent v hv (hvw ▸ hwid))
          intro a b ha hb
          rcases committed_success ha with rfl | ha
          · rcases committed_success hb with rfl | hb
            · rfl
            · exact absurd hb (hfirst b)
          · exact absurd ha (hfirst a)
      | _ => simp [hp, Phase.is_spent] at hns

/-- **Exactly which interleavings are single use.** `n` requests present one
token to a store that sign-ins, refreshes, logouts and revocations have reached:
at most one of them succeeds and no family ever has two live tokens, in every
state the interleaving passes through, if and only if every request that commits
an exchange finds the row it loaded still unspent. -/
theorem concurrent_rotation_single_use_iff (sha256 : String → String) (users : List User)
    (history : List Auth.Event)
    (hhistory : Runs.Along (Auth.step sha256) FreshFamily (Db.fresh users) history) (n : ℕ)
    (token : String) (clients : Fin n → Client) (draws : Fin n → Draw) (schedule : List (Event n)) :
    Runs.Always (step sha256 token clients draws) SingleUse
        (start n (Runs.run (Auth.step sha256) (Db.fresh users) history)) schedule ↔
      Runs.Along (step sha256 token clients draws) StillUnspent
        (start n (Runs.run (Auth.step sha256) (Db.fresh users) history)) schedule := by
  have hstart : Sound sha256 token draws
      (start n (Runs.run (Auth.step sha256) (Db.fresh users) history)) :=
    sound_start (sound_run hhistory)
  have hone : OneSuccess (start n (Runs.run (Auth.step sha256) (Db.fresh users) history)) := by
    intro p q hp
    simp [start] at hp
  have hkeep : ∀ (s : State n) (e : Event n), Sound sha256 token draws s →
      Sound sha256 token draws (step sha256 token clients draws s e) := fun _ e h => h.step e
  have hexact : ∀ (s : State n) (e : Event n), Sound sha256 token draws s → SingleUse s →
      (SingleUse (step sha256 token clients draws s e) ↔ StillUnspent s e) :=
    fun _ e h hs => single_use_step_iff h hs e
  exact Runs.always_iff_along hkeep hexact hstart (hstart.single_use hone) schedule

/-- In turn, the second request is refused. -/
theorem concurrent_rotation_in_turn :
    Runs.Always (step Auth.Sample.sha256 "first" (fun _ => Auth.Sample.browser) Sample.draws)
      SingleUse Sample.signed_in Sample.in_turn :=
  (concurrent_rotation_single_use_iff Auth.Sample.sha256 [Auth.Sample.alice]
    [Auth.Sample.sign_in] (by decide) 2 "first" (fun _ => Auth.Sample.browser) Sample.draws
    Sample.in_turn).2 (by decide)

/-- **At once, both succeed**: the one token has bought two live ones. -/
theorem concurrent_rotation_at_once :
    ¬ Runs.Always (step Auth.Sample.sha256 "first" (fun _ => Auth.Sample.browser) Sample.draws)
      SingleUse Sample.signed_in Sample.at_once := by
  intro h
  have hend := (Runs.always_iff _ _ _).1 h Sample.at_once [] (List.append_nil _).symm
  exact absurd (hend.one_success Sample.one Sample.other (by decide) (by decide)) (by decide)

end EnvMgr.Auth.Concurrent

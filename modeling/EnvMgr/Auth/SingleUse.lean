/-
A refresh token buys one session.

The guarantees of rotation, over every run of sign-ins, refreshes, logouts and
revocations and at any times: a token is exchanged once at most, a family has
one live token at most, and a replayed token or a revoked user takes every
token issued so far along.
-/
import EnvMgr.Auth.Rotation

namespace EnvMgr.Auth

variable {db : Db} {token : String} {e : Event} {now : DateTime}
variable {r row : RefreshToken} {draw : Draw} {reason : String}
variable {es : List Event}

variable {sha256 : String → String}

/-- Unused, unrevoked and unexpired. -/
def live (now : DateTime) (r : RefreshToken) : Prop :=
  r.used_at = none ∧ r.revoked_at = none ∧ now < r.expires_at
  deriving Decidable

/-! ## Dead tokens are never exchanged -/

theorem exchanges_iff :
    exchanges sha256 token db e = true ↔
      ∃ client draw now out, e = .refresh token client draw now ∧
        rotate_refresh_token sha256 db token client draw now = .ok out := by
  constructor
  · intro h
    cases e with
    | refresh presented client draw now =>
      simp only [exchanges, Bool.and_eq_true, decide_eq_true_eq] at h
      obtain ⟨rfl, hsome⟩ := h
      cases hrot : rotate_refresh_token sha256 db presented client draw now with
      | ok out => exact ⟨client, draw, now, out, rfl, hrot⟩
      | error e => simp [hrot, Except.toOption] at hsome
    | issue_session => simp [exchanges] at h
    | logout => simp [exchanges] at h
    | revoke_all_for_user => simp [exchanges] at h
    | users => simp [exchanges] at h
  · rintro ⟨client, draw, now, out, rfl, hrot⟩
    simp [exchanges, hrot, Except.toOption]

/-- An exchange happens on the one row with the token's hash, and leaves the
store an `Exchanged` one. -/
theorem exchanged_of_exchanges (h : exchanges sha256 token db e = true) :
    ∃ draw now row, Exchanged sha256 db (step sha256 db e) token draw now row := by
  obtain ⟨client, draw, now, ⟨db', issued⟩, rfl, hrot⟩ := exchanges_iff.1 h
  obtain ⟨row, hex⟩ := (rotate_ok hrot).1
  refine ⟨draw, now, row, ?_⟩
  simpa only [step, hrot] using hex

theorem not_exchanges_of_dead (h : Sound db) (hr : r ∈ db.tokens) (hdead : Dead r)
    (htoken : r.token_hash = sha256 token) (e : Event) :
    exchanges sha256 token db e = false := by
  by_contra hne
  obtain ⟨draw, now, row, hex⟩ := exchanged_of_exchanges (Bool.eq_true_of_not_eq_false hne)
  have hrow : r = row := h.unique_hash r hr row hex.mem (htoken.trans hex.presented.symm)
  subst hrow
  rcases hdead with hused | hrevoked
  · exact hused hex.unused
  · exact hrevoked hex.unrevoked

/-- A dead row is never exchanged again, whatever happens next. -/
theorem exchange_count_of_dead (h : Sound db) (hr : r ∈ db.tokens) (hdead : Dead r)
    (htoken : r.token_hash = sha256 token) (hes : Runs.Along (step sha256) FreshFamily db es) :
    exchange_count sha256 token db es = 0 := by
  induction es generalizing db r with
  | nil => rfl
  | cons e es ih =>
    obtain ⟨r', hr', hages⟩ := later_step sha256 db e r hr
    have hrest := ih (h.step hes.1) hr' (hages.dead hdead)
      (hages.token_hash.trans htoken) hes.2
    rw [exchange_count, not_exchanges_of_dead h hr hdead htoken e, hrest]
    rfl

/-- The exchanged row is spent afterwards. -/
theorem Exchanged.spent {db' : Db} (hex : Exchanged sha256 db db' token draw now row) :
    ∃ r' ∈ db'.tokens, r'.token_hash = sha256 token ∧ Dead r' := by
  obtain ⟨user, client, successor, rfl⟩ := hex.written
  refine ⟨(spend successor now).apply row, ?_, hex.presented, Or.inl (Option.some_ne_none now)⟩
  exact Table.mem_update_of_pos (Table.mem_insert.2 (Or.inl hex.mem)) (by simp)

theorem exchange_count_le_one (h : Sound db) (token : String)
    (hes : Runs.Along (step sha256) FreshFamily db es) :
    exchange_count sha256 token db es ≤ 1 := by
  induction es generalizing db with
  | nil => exact Nat.zero_le 1
  | cons e es ih =>
    rw [exchange_count]
    by_cases hex : exchanges sha256 token db e = true
    -- once exchanged it is dead, so the rest of the run counts nothing
    · obtain ⟨draw, now, row, hexchanged⟩ := exchanged_of_exchanges hex
      obtain ⟨r', hr', htoken, hdead⟩ := hexchanged.spent
      rw [exchange_count_of_dead (h.step hes.1) hr' hdead htoken hes.2, if_pos hex]
    · have := ih (h.step hes.1) hes.2
      rw [if_neg hex]
      omega

/-! ## What ends a family, and what ends a user's sessions -/

/-- After `e`, no token that was stored before it and meets `p` is exchanged in
`es`. -/
def Ends (sha256 : String → String) (db : Db) (e : Event) (es : List Event)
    (p : RefreshToken → Prop) : Prop :=
  ∀ r ∈ db.tokens, p r → ∀ token, sha256 token = r.token_hash →
    exchange_count sha256 token (step sha256 db e) es = 0

/-- An event that revokes every unrevoked row meeting `p` ends them all. -/
theorem ends_of_revoke (h : Sound db) (hes : Runs.Along (step sha256) FreshFamily db (e :: es))
    {p : RefreshToken → Prop} [DecidablePred p] (hstep : (step sha256 db e).tokens
      = db.tokens.update (fun r => p r ∧ r.revoked_at = none) (revoke reason now)) :
    Ends sha256 db e es p := by
  intro r hr hp token htoken
  obtain ⟨r', hr', hages⟩ := later_step sha256 db e r hr
  -- either this event revokes the row or an earlier one has
  by_cases hrevoked : r.revoked_at = none
  · have hmem : (revoke reason now).apply r ∈ (step sha256 db e).tokens := by
      rw [hstep]
      exact Table.mem_update_of_pos hr (by simp [hp, hrevoked])
    exact exchange_count_of_dead (h.step hes.1) hmem (Or.inr (Option.some_ne_none now))
      htoken.symm hes.2
  · exact exchange_count_of_dead (h.step hes.1) hr' (Or.inr (hages.revoked hrevoked))
      (hages.token_hash.trans htoken.symm) hes.2

theorem replay_ends_family (h : Sound db) {client : Client}
    (hes : Runs.Along (step sha256) FreshFamily db (.refresh token client draw now :: es))
    (hrow : row ∈ db.tokens) (htoken : row.token_hash = sha256 token) (hused : row.used_at ≠ none) :
    Ends sha256 db (.refresh token client draw now) es
      (fun r => r.family_id = row.family_id) :=
  ends_of_revoke h hes (congrArg Db.tokens (refresh_spent (load_of_hash h hrow htoken) hused))

theorem revoke_all_ends_user (h : Sound db) {user_id : ℕ}
    (hes : Runs.Along (step sha256) FreshFamily db
      (.revoke_all_for_user user_id reason now :: es)) :
    Ends sha256 db (.revoke_all_for_user user_id reason now) es
      (fun r => r.user_id = user_id) :=
  ends_of_revoke h hes rfl

/-- **Rotation, over every run.** As long as no UUID is drawn twice, every token
is exchanged once at most; a family has one live token at most at any time;
presenting a spent token ends its family, and revoking a user ends every token
issued to that user before. -/
theorem refresh_tokens_are_single_use (sha256 : String → String) (users : List User)
    (es : List Event) (hes : Runs.Along (step sha256) FreshFamily (Db.fresh users) es) :
    (∀ token, exchange_count sha256 token (Db.fresh users) es ≤ 1) ∧
    (∀ now, ∀ r ∈ (Runs.run (step sha256) (Db.fresh users) es).tokens,
      ∀ r' ∈ (Runs.run (step sha256) (Db.fresh users) es).tokens,
        live now r → live now r' → r.family_id = r'.family_id → r = r') ∧
    (∀ es₁ token client draw now es₂,
      es = es₁ ++ .refresh token client draw now :: es₂ →
      ∀ row ∈ (Runs.run (step sha256) (Db.fresh users) es₁).tokens,
        row.token_hash = sha256 token → row.used_at ≠ none →
        Ends sha256 (Runs.run (step sha256) (Db.fresh users) es₁)
          (.refresh token client draw now) es₂ (fun r => r.family_id = row.family_id)) ∧
    (∀ es₁ user_id reason now es₂,
      es = es₁ ++ .revoke_all_for_user user_id reason now :: es₂ →
      Ends sha256 (Runs.run (step sha256) (Db.fresh users) es₁)
        (.revoke_all_for_user user_id reason now) es₂ (fun r => r.user_id = user_id)) := by
  refine ⟨fun token => ?_, fun now r hr r' hr' hl hl' hfam => ?_, ?_, ?_⟩
  · exact exchange_count_le_one (sound_fresh users) token hes
  · exact (sound_run hes).one_unused r hr r' hr' hl.1 hl'.1 hfam
  · rintro es₁ token client draw now es₂ rfl row hrow htoken hused
    obtain ⟨hes₁, hes₂⟩ := (Runs.along_append _ _ _ _).1 hes
    exact replay_ends_family (sound_run hes₁) hes₂ hrow htoken hused
  · rintro es₁ user_id reason now es₂ rfl
    obtain ⟨hes₁, hes₂⟩ := (Runs.along_append _ _ _ _).1 hes
    exact revoke_all_ends_user (sound_run hes₁) hes₂

/-- The first exchange counts, a replay does not. -/
theorem refresh_tokens_are_single_use_sample :
    exchange_count Sample.sha256 "first" (Db.fresh [Sample.alice])
      [Sample.sign_in, Sample.first_refresh, .refresh "first" Sample.browser ⟨"third", 3#128⟩ 70]
      = 1 :=
  le_antisymm
    ((refresh_tokens_are_single_use Sample.sha256 [Sample.alice] _ (by decide)).1 "first")
    (by decide)

end EnvMgr.Auth

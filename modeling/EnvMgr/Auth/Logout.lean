/-
What a logout ends.

`revoke_refresh_token` revokes the row it is shown and no other. That ends the
session when the row is the family's unused one, which is what an up-to-date
client shows. A client that shows a token its family has already exchanged, as
a tab does whose neighbour has refreshed in between, revokes a spent row and
leaves the successor live.
-/
import EnvMgr.Auth.SingleUse

namespace EnvMgr.Auth

variable {family_id : Uuid} {now : DateTime} {db : Db}

variable {sha256 : String → String}

/-- The event reads a clock that has reached `now`, if it reads one. -/
def NotBefore (now : DateTime) (e : Event) : Prop := ∀ t ∈ e.now, now ≤ t

/-- What the later events of a session are allowed to be: at no earlier time,
and without a UUID drawn before. -/
def Onward (now : DateTime) (db : Db) (e : Event) : Prop := FreshFamily db e ∧ NotBefore now e

/-- No token of the family is live at `now`, and none is exchanged later. -/
structure SessionEnded (sha256 : String → String) (family_id : Uuid) (now : DateTime)
    (db : Db) : Prop where
  none_live : ∀ r ∈ db.tokens, r.family_id = family_id → ¬ live now r
  none_exchanged : ∀ es₁ e es₂, Runs.Along (step sha256) (Onward now) db (es₁ ++ e :: es₂) →
    ∀ r ∈ (Runs.run (step sha256) db es₁).tokens, r.family_id = family_id →
      ∀ token, sha256 token = r.token_hash →
        exchanges sha256 token (Runs.run (step sha256) db es₁) e = false

/-! ## A family that is over stays over -/

/-- The family has rows, and each is used, revoked or expired. -/
structure FamilyOver (family_id : Uuid) (now : DateTime) (db : Db) : Prop where
  known : ∃ r ∈ db.tokens, r.family_id = family_id
  ended : ∀ r ∈ db.tokens, r.family_id = family_id → Dead r ∨ r.expires_at ≤ now

theorem FamilyOver.not_exchanged {db' : Db} (h : FamilyOver family_id now db) {token : String}
    {draw : Draw} {later : DateTime} (hlater : now ≤ later) {row : RefreshToken}
    (hex : Exchanged sha256 db db' token draw later row) : row.family_id ≠ family_id := by
  intro hfam
  rcases h.ended row hex.mem hfam with (hused | hrevoked) | hexpired
  · exact hused hex.unused
  · exact hrevoked hex.unrevoked
  · have hunexpired : now < row.expires_at := hlater.trans_lt hex.unexpired
    exact absurd hexpired (not_le.2 hunexpired)

theorem FamilyOver.step (h : FamilyOver family_id now db) {e : Event} (he : Onward now db e) :
    FamilyOver family_id now (step sha256 db e) := by
  obtain ⟨r₀, hr₀, hfam₀⟩ := h.known
  constructor
  · obtain ⟨r', hr', hages⟩ := later_step sha256 db e r₀ hr₀
    exact ⟨r', hr', hages.family_id.trans hfam₀⟩
  · intro r' hr' hfam
    -- an old row aged, a family of its own, or the successor of an exchanged row
    rcases step_mem_cases hr' with ⟨r, hr, hages⟩ | ⟨user, client, imp, draw, t, rfl, hnew⟩ |
      ⟨token, client, draw, t, row, rfl, hex, hnew⟩
    · rcases h.ended r hr (hages.family_id.symm.trans hfam) with hdead | hexpired
      · exact Or.inl (hages.dead hdead)
      · exact Or.inr (hages.expires_at.trans_le hexpired)
    · have hdrawn : r₀.family_id = draw.uuid := by rw [hfam₀, ← hfam, hnew]
      exact absurd hdrawn (he.1 r₀ hr₀)
    · have hrow : row.family_id = family_id := by rw [← hnew, hfam]
      exact absurd hrow (h.not_exchanged (he.2 t rfl) hex)

theorem FamilyOver.session_ended (hs : Sound db)
    (h : FamilyOver family_id now db) : SessionEnded sha256 family_id now db where
  none_live := by
    rintro r hr hfam ⟨hunused, hunrevoked, hunexpired⟩
    rcases h.ended r hr hfam with (hused | hrevoked) | hexpired
    · exact hused hunused
    · exact hrevoked hunrevoked
    · exact absurd hexpired (not_le.2 hunexpired)
  none_exchanged := by
    intro es₁ e es₂ hes r hr hfam token htoken
    obtain ⟨hes₁, hes₂⟩ := (Runs.along_append _ _ _ _).1 hes
    have hkeep : ∀ (db : Db) (e : Event), Sound db ∧ FamilyOver family_id now db →
        Onward now db e → Sound (Auth.step sha256 db e) ∧
          FamilyOver family_id now (Auth.step sha256 db e) :=
      fun _ _ hinv he => ⟨hinv.1.step he.1, hinv.2.step he⟩
    have hinv : Sound (Runs.run (Auth.step sha256) db es₁) ∧
        FamilyOver family_id now (Runs.run (Auth.step sha256) db es₁) :=
      Runs.run_inv_along hkeep ⟨hs, h⟩ hes₁
    by_contra hne
    obtain ⟨client, draw, t, ⟨db', issued⟩, rfl, hrot⟩ :=
      exchanges_iff.1 (Bool.eq_true_of_not_eq_false hne)
    obtain ⟨row, hex⟩ := (rotate_ok hrot).1
    have hrow : r = row :=
      hinv.1.unique_hash r hr row hex.mem (htoken.symm.trans hex.presented.symm)
    exact hinv.2.not_exchanged (hes₂.1.2 t rfl) hex (hrow ▸ hfam)

/-! ## Logout -/

/-- The token is still the one its family would exchange next, or that one could
not be exchanged any more. -/
def LogoutEnds (db : Db) (row : RefreshToken) (now : DateTime) : Prop :=
  row.used_at = none ∨
    ∀ r ∈ db.tokens, r.family_id = row.family_id → r.used_at = none →
      r.revoked_at ≠ none ∨ r.expires_at ≤ now

/-- Every row but the presented one is as it was, and the presented one is
revoked. -/
theorem logout_mem (h : Sound db) {row : RefreshToken} (hrow : row ∈ db.tokens)
    {token : String} (reason : String) (now : DateTime) (htoken : row.token_hash = sha256 token) :
    (∀ r ∈ db.tokens, r ≠ row → r ∈ (step sha256 db (.logout token reason now)).tokens) ∧
      ∀ r ∈ (step sha256 db (.logout token reason now)).tokens,
        r ∈ db.tokens ∧ r ≠ row ∨ r.revoked_at ≠ none ∧ Ages row r := by
  have hload := load_of_hash h hrow htoken
  have hother : ∀ r ∈ db.tokens, r ≠ row → ¬ r.id = row.id :=
    fun r hr hne hid => hne (Table.eq_of_key_eq hr hrow hid)
  rcases logout_cases sha256 db token reason now with ⟨row', hrow', -, hdb'⟩ | ⟨hdb', hrevoked⟩
  · obtain rfl : row = row' := by simpa [hload] using hrow'
    rw [hdb']
    constructor
    · intro r hr hne
      exact Table.mem_update_of_neg hr (by simpa using hother r hr hne)
    · intro r hr
      rcases Table.mem_update_cases hr with ⟨r₀, hr₀, hid, rfl⟩ | ⟨hr, hid⟩
      · obtain rfl : r₀ = row := Table.eq_of_key_eq hr₀ hrow (of_decide_eq_true hid)
        exact Or.inr ⟨Option.some_ne_none now, ages_revoke reason now r₀⟩
      · exact Or.inl ⟨hr, by rintro rfl; simp at hid⟩
  · rw [hdb']
    refine ⟨fun r hr _ => hr, fun r hr => ?_⟩
    by_cases hne : r = row
    · rw [hne]
      exact Or.inr ⟨hrevoked row hload, Ages.refl row⟩
    · exact Or.inl ⟨hr, hne⟩

/-- **Exactly when a logout ends the session**, in every state that sign-ins,
refreshes, logouts and revocations can reach and for every token it knows. -/
theorem logout_ends_session_iff (sha256 : String → String) (users : List User)
    (es : List Event) (hes : Runs.Along (step sha256) FreshFamily (Db.fresh users) es)
    (token reason : String) (now : DateTime) (row : RefreshToken)
    (hrow : row ∈ (Runs.run (step sha256) (Db.fresh users) es).tokens)
    (htoken : row.token_hash = sha256 token) :
    SessionEnded sha256 row.family_id now
        (step sha256 (Runs.run (step sha256) (Db.fresh users) es) (.logout token reason now)) ↔
      LogoutEnds (Runs.run (step sha256) (Db.fresh users) es) row now := by
  have hsound := sound_run hes
  obtain ⟨hkept, hafter⟩ := logout_mem hsound hrow reason now htoken
  constructor
  · -- otherwise the token is spent, and an unused row of the family stays live
    intro hended
    by_contra hnot
    simp only [LogoutEnds, not_or, not_forall, not_le, not_not] at hnot
    obtain ⟨hused, r, hr, hfam, hunused, hunrevoked, hunexpired⟩ := hnot
    have hne : r ≠ row := by
      rintro rfl
      exact hused hunused
    exact hended.none_live r (hkept r hr hne) hfam ⟨hunused, hunrevoked, hunexpired⟩
  · intro hcond
    refine FamilyOver.session_ended (hsound.step trivial) ⟨?_, fun r hr hfam => ?_⟩
    · obtain ⟨r', hr', hages⟩ := later_step sha256 _ (.logout token reason now) row hrow
      exact ⟨r', hr', hages.family_id⟩
    · rcases hafter r hr with ⟨hr, hne⟩ | ⟨hrevoked, -⟩
      -- the unused row is the presented one, or one that had ended anyway
      · by_cases hunused : r.used_at = none
        · rcases hcond with hrow_unused | hothers
          · exact absurd (hsound.one_unused r hr row hrow hunused hrow_unused hfam) hne
          · rcases hothers r hr hfam hunused with hrevoked | hexpired
            · exact Or.inl (Or.inr hrevoked)
            · exact Or.inr hexpired
        · exact Or.inl (Or.inl hunused)
      · exact Or.inl (Or.inr hrevoked)

/-- A logout with the token that is still to be exchanged ends the session. -/
theorem logout_ends_session_unspent :
    SessionEnded Sample.sha256 1#128 60
      (step Sample.sha256
        (Runs.run (step Sample.sha256) (Db.fresh [Sample.alice]) [Sample.sign_in])
        (.logout "first" "logout" 60)) :=
  (logout_ends_session_iff Sample.sha256 [Sample.alice] [Sample.sign_in] (by decide) "first"
    "logout" 60 (issued_row Sample.sha256 Sample.alice Sample.browser 1#128 "first" 0 1)
    (by decide) rfl).2 (Or.inl rfl)

/-- **A logout with a spent token does not**: the successor stays live and buys
the next session. -/
theorem logout_with_spent_token :
    ¬ SessionEnded Sample.sha256 1#128 70
        (step Sample.sha256
          (Runs.run (step Sample.sha256) (Db.fresh [Sample.alice])
            [Sample.sign_in, Sample.first_refresh])
          (.logout "first" "logout" 70)) ∧
      exchanges Sample.sha256 "second"
        (step Sample.sha256
          (Runs.run (step Sample.sha256) (Db.fresh [Sample.alice])
            [Sample.sign_in, Sample.first_refresh])
          (.logout "first" "logout" 70))
        (.refresh "second" Sample.browser ⟨"third", 3#128⟩ 80) = true :=
  ⟨fun h => absurd h.none_live (by decide), by decide⟩

end EnvMgr.Auth

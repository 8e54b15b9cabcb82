/-
Rotation, one request at a time.

Two facts carry everything. Rows only age: whatever a request does, each row
keeps its identity, its hash, its family and its owner, and once it is used or
revoked it stays so. And a family has one unused row at most: an exchange marks
one and adds one. The first makes a spent or revoked token worthless for ever,
the second makes the live token of a family unique.
-/
import EnvMgr.Auth.Session
import EnvMgr.Lib.Runs

namespace EnvMgr.Auth

variable {r' row : RefreshToken} {db db' : Db} {client : Client} {draw : Draw} {now : DateTime}
  {issued : IssuedSession} {token : String}
variable {user : User} {imp : Option ℕ} {e : Event}
variable {p : RefreshToken → Bool} {f : Table.Edit RefreshToken.id}

variable {sha256 : String → String}

/-! ## Rows only age -/

/-- `r'` is the row `r` at a later time. -/
structure Ages (r r' : RefreshToken) : Prop where
  id : r'.id = r.id
  user_id : r'.user_id = r.user_id
  token_hash : r'.token_hash = r.token_hash
  family_id : r'.family_id = r.family_id
  expires_at : r'.expires_at = r.expires_at
  used : r.used_at ≠ none → r'.used_at ≠ none
  revoked : r.revoked_at ≠ none → r'.revoked_at ≠ none

theorem Ages.refl (r : RefreshToken) : Ages r r :=
  ⟨rfl, rfl, rfl, rfl, rfl, fun h => h, fun h => h⟩

theorem Ages.trans {a b c : RefreshToken} (hab : Ages a b) (hbc : Ages b c) : Ages a c where
  id := hbc.id.trans hab.id
  user_id := hbc.user_id.trans hab.user_id
  token_hash := hbc.token_hash.trans hab.token_hash
  family_id := hbc.family_id.trans hab.family_id
  expires_at := hbc.expires_at.trans hab.expires_at
  used := fun h => hbc.used (hab.used h)
  revoked := fun h => hbc.revoked (hab.revoked h)

/-- A token that no request exchanges: used or revoked. -/
def Dead (r : RefreshToken) : Prop := r.used_at ≠ none ∨ r.revoked_at ≠ none

theorem Ages.dead {r : RefreshToken} (h : Ages r r') (hdead : Dead r) : Dead r' := by
  rcases hdead with hused | hrevoked
  · exact Or.inl (h.used hused)
  · exact Or.inr (h.revoked hrevoked)

theorem ages_revoke (reason : String) (now : DateTime) (r : RefreshToken) :
    Ages r ((revoke reason now).apply r) :=
  ⟨rfl, rfl, rfl, rfl, rfl, fun h => h, fun _ => Option.some_ne_none now⟩

theorem ages_spend (successor : ℕ) (now : DateTime) (r : RefreshToken) :
    Ages r ((spend successor now).apply r) :=
  ⟨rfl, rfl, rfl, rfl, rfl, fun _ => Option.some_ne_none now, fun h => h⟩

/-- Every row of the earlier store is in the later one, aged. -/
def Later (db db' : Db) : Prop := Table.Retains Ages db.tokens db'.tokens

theorem Later.refl (db : Db) : Later db db := Table.retains_refl Ages.refl db.tokens

theorem Later.trans {a b c : Db} (hab : Later a b) (hbc : Later b c) : Later a c :=
  Table.Retains.trans hab hbc (fun _ _ _ => Ages.trans)

theorem ite_ages (hf : ∀ r, Ages r (f.apply r)) (r : RefreshToken) :
    Ages r (if p r then f.apply r else r) := by
  by_cases hp : p r
  · simpa [hp] using hf r
  · simpa [hp] using Ages.refl r

theorem later_update (hf : ∀ r, Ages r (f.apply r)) (htokens : db'.tokens = db.tokens.update p f) :
    Later db db' := by
  rw [Later, htokens]
  exact Table.retains_update Ages.refl db.tokens p hf

/-! ## What each service function has done -/

theorem issue_session_ok {family : Option Uuid}
    (hok : issue_session sha256 db user client imp family draw now = .ok (db', issued)) :
    (∀ r ∈ db.tokens, r.token_hash ≠ sha256 draw.refresh_token) ∧
      db' = { db with
        tokens := db.tokens.insert
          ⟨issued_row sha256 user client (family.getD draw.uuid) draw.refresh_token now,
            fun _ => rfl⟩ } ∧
      issued.refresh_token = draw.refresh_token := by
  simp only [issue_session, bind_eq_ok, raise_if_eq_ok, Except.ok.injEq, Prod.mk.injEq] at hok
  obtain ⟨_, hunique, rfl, rfl⟩ := hok
  exact ⟨fun r hr heq => hunique ⟨r, hr, heq⟩, rfl, rfl⟩

theorem _load_token_ok (hok : _load_token sha256 db token = .ok row) :
    row ∈ db.tokens ∧ row.token_hash = sha256 token := by
  obtain ⟨hmem, hp⟩ := Table.select_one_some (get_or_raise_eq_ok.1 hok)
  exact ⟨hmem, of_decide_eq_true hp⟩

/-- **What an exchange of `row` has checked and done**: the row was unused,
unrevoked and unexpired; a successor of its family is added and the row spent. -/
structure Exchanged (sha256 : String → String) (db db' : Db) (token : String) (draw : Draw)
    (now : DateTime) (row : RefreshToken) : Prop where
  mem : row ∈ db.tokens
  presented : row.token_hash = sha256 token
  unused : row.used_at = none
  unrevoked : row.revoked_at = none
  unexpired : now < row.expires_at
  new_hash : ∀ r ∈ db.tokens, r.token_hash ≠ sha256 draw.refresh_token
  written : ∃ user client successor, db' = { db with
    tokens := Table.update
      (db.tokens.insert
        ⟨issued_row sha256 user client row.family_id draw.refresh_token now, fun _ => rfl⟩)
      (fun r => r.id = row.id) (spend successor now) }

theorem rotate_ok (hok : rotate_refresh_token sha256 db token client draw now = .ok (db', issued)) :
    (∃ row, Exchanged sha256 db db' token draw now row) ∧
      issued.refresh_token = draw.refresh_token := by
  simp only [rotate_refresh_token, bind_eq_ok, raise_if_eq_ok, Except.ok.injEq,
    Prod.mk.injEq, Prod.exists] at hok
  obtain ⟨row, hrow, _, hused, _, hrevoked, _, hexpired, user, -, _, -, db₁, issued₁, hissue,
    successor, -, rfl, rfl⟩ := hok
  obtain ⟨hmem, hhash⟩ := _load_token_ok hrow
  obtain ⟨hunique, rfl, hissued⟩ := issue_session_ok hissue
  refine ⟨⟨row, ?_⟩, hissued⟩
  exact ⟨hmem, hhash, not_not.1 hused, not_not.1 hrevoked, not_le.1 hexpired, hunique,
    user, client, successor.id, rfl⟩

/-- A revocation that a refusal has written is that of the presented row's
family. -/
theorem rotate_revocation {written : Db} {message : String}
    (herr : rotate_refresh_token sha256 db token client draw now
      = .error (.RefreshTokenRevocationWritten written message)) :
    ∃ row ∈ db.tokens, ∃ reason, written = _revoke_family db row.family_id reason now := by
  simp only [rotate_refresh_token, issue_session, bind_eq_error, raise_if_eq_error,
    get_or_raise_eq_error, get_or_raise_eq_ok, reduceCtorEq, and_false, false_or,
    exists_const, or_false, RotationRaised.RefreshTokenRevocationWritten.injEq] at herr
  rcases herr with hload | ⟨row, hload, herr⟩
  -- an unknown token is refused without a word to the store
  · simp [_load_token] at hload
  have hmem : row ∈ db.tokens := (_load_token_ok hload).1
  -- used already, no such user, or a user who is not active
  rcases herr with ⟨-, hwritten, -⟩ | ⟨_, -, _, -, _, -, ⟨-, hwritten, -⟩ | ⟨user, -, herr⟩⟩
  · exact ⟨row, hmem, _, hwritten.symm⟩
  · exact ⟨row, hmem, _, hwritten.symm⟩
  · rcases herr with ⟨-, hwritten, -⟩ | ⟨_, -, _, -, hnever⟩
    · exact ⟨row, hmem, _, hwritten.symm⟩
    · simp at hnever

/-- Presenting a spent token revokes its family. -/
theorem refresh_spent (hload : _load_token sha256 db token = .ok row) (hused : row.used_at ≠ none) :
    step sha256 db (.refresh token client draw now)
      = _revoke_family db row.family_id "reuse_detected" now := by
  have hrot : rotate_refresh_token sha256 db token client draw now
      = .error (.RefreshTokenRevocationWritten
          (_revoke_family db row.family_id "reuse_detected" now) "refresh token already used") := by
    simp only [rotate_refresh_token, bind_eq_error]
    exact Or.inr ⟨row, hload, Or.inl (raise_if_eq_error.2 ⟨hused, rfl⟩)⟩
  rw [step, hrot]

/-- **What a refresh can do to the store**: an exchange, the revocation of a
family, or nothing. -/
theorem refresh_cases (sha256 : String → String) (db : Db) (token : String) (client : Client)
    (draw : Draw) (now : DateTime) :
    (∃ row, Exchanged sha256 db (step sha256 db (.refresh token client draw now))
        token draw now row) ∨
      (∃ row ∈ db.tokens, ∃ reason, step sha256 db (.refresh token client draw now)
        = _revoke_family db row.family_id reason now) ∨
      step sha256 db (.refresh token client draw now) = db := by
  simp only [step]
  cases hrot : rotate_refresh_token sha256 db token client draw now with
  | ok out => exact Or.inl (rotate_ok hrot).1
  | error e =>
    cases e with
    | RefreshTokenRevocationWritten written message =>
      exact Or.inr (Or.inl (rotate_revocation hrot))
    | InvalidRefreshToken message => exact Or.inr (Or.inr rfl)
    | IntegrityError => exact Or.inr (Or.inr rfl)
    | NoResultFound => exact Or.inr (Or.inr rfl)

/-- A logout revokes one row at most. -/
theorem logout_cases (sha256 : String → String) (db : Db) (token reason : String) (now : DateTime) :
    (∃ row, _load_token sha256 db token = .ok row ∧ row.revoked_at = none ∧
      step sha256 db (.logout token reason now) = { db with
        tokens := db.tokens.update (fun r => r.id = row.id) (revoke reason now) }) ∨
      step sha256 db (.logout token reason now) = db ∧
        ∀ row, _load_token sha256 db token = .ok row → row.revoked_at ≠ none := by
  simp only [step, revoke_refresh_token]
  cases hload : _load_token sha256 db token with
  | error e => exact Or.inr ⟨rfl, by simp⟩
  | ok row =>
    by_cases hrevoked : row.revoked_at = none
    · exact Or.inl ⟨row, rfl, hrevoked, by simp [hrevoked]⟩
    · exact Or.inr ⟨by simp [hrevoked], by simpa using hrevoked⟩

/-- **Every event ages the store.** -/
theorem later_step (sha256 : String → String) (db : Db) (e : Event) :
    Later db (step sha256 db e) := by
  cases e with
  | issue_session user client imp draw now =>
    simp only [step]
    cases hissue : issue_session sha256 db user client imp none draw now with
    | error e => exact Later.refl db
    | ok out =>
      obtain ⟨db', issued⟩ := out
      obtain ⟨-, rfl, -⟩ := issue_session_ok hissue
      exact Table.retains_insert Ages.refl db.tokens _
  | refresh token client draw now =>
    rcases refresh_cases sha256 db token client draw now with
      ⟨row, hex⟩ | ⟨row, -, reason, hdb'⟩ | hdb'
    · obtain ⟨user, client', successor, hdb'⟩ := hex.written
      rw [hdb']
      exact Table.Retains.trans (Table.retains_insert Ages.refl db.tokens _)
        (Table.retains_update Ages.refl _ _ (ages_spend successor now))
        (fun _ _ _ => Ages.trans)
    · rw [hdb']
      exact later_update (ages_revoke reason now) rfl
    · rw [hdb']
      exact Later.refl db
  | logout token reason now =>
    rcases logout_cases sha256 db token reason now with ⟨row, -, -, hdb'⟩ | ⟨hdb', -⟩
    · rw [hdb']
      exact later_update (ages_revoke reason now) rfl
    · rw [hdb']
      exact Later.refl db
  | revoke_all_for_user user_id reason now => exact later_update (ages_revoke reason now) rfl
  | users rows => exact Later.refl db

/-- **Rows only age.** No run gives a spent or revoked token back. -/
theorem later_run (sha256 : String → String) (db : Db) (es : List Event) :
    Later db (Runs.run (step sha256) db es) :=
  Runs.run_rel Later.refl Later.trans (later_step sha256) db es

/-- The rows after an exchange: the spent one, the successor, and the others as
they were. -/
theorem Exchanged.mem_cases (hex : Exchanged sha256 db db' token draw now row)
    (hr' : r' ∈ db'.tokens) :
    (Ages row r' ∧ r'.used_at ≠ none) ∨
      (r'.used_at = none ∧ r'.family_id = row.family_id ∧
        r'.token_hash = sha256 draw.refresh_token ∧ r'.id = db.tokens.next) ∨
      (r' ∈ db.tokens ∧ r' ≠ row) := by
  obtain ⟨user, client, successor, rfl⟩ := hex.written
  rcases Table.mem_update_cases hr' with ⟨r, hr, hid, rfl⟩ | ⟨hr, hid⟩
  · have hid : r.id = row.id := of_decide_eq_true hid
    rcases Table.mem_insert.1 hr with hr | rfl
    -- the update touches the row with `row`'s id, which the successor's is not
    · rw [Table.eq_of_key_eq hr hex.mem hid]
      exact Or.inl ⟨ages_spend successor now row, Option.some_ne_none now⟩
    · exact absurd (hid ▸ Table.key_lt_next hex.mem) (lt_irrefl _)
  · rcases Table.mem_insert.1 hr with hr | rfl
    · refine Or.inr (Or.inr ⟨hr, ?_⟩)
      rintro rfl
      simp at hid
    · exact Or.inr (Or.inl ⟨rfl, rfl, rfl, rfl⟩)

theorem aged_of_mem_update {t : Table RefreshToken RefreshToken.id} (hf : ∀ r, Ages r (f.apply r))
    (hr' : r' ∈ t.update p f) : ∃ r ∈ t, Ages r r' := by
  obtain ⟨r, hr, rfl⟩ := Table.mem_update.1 hr'
  exact ⟨r, hr, ite_ages hf r⟩

/-- **Where a row comes from**: it is an older row aged, or the first of the
family a sign-in starts, or the successor of the row a refresh has exchanged. -/
theorem step_mem_cases (hr' : r' ∈ (step sha256 db e).tokens) :
    (∃ r ∈ db.tokens, Ages r r') ∨
      (∃ user client imp draw now, e = .issue_session user client imp draw now ∧
        r'.family_id = draw.uuid) ∨
      (∃ token client draw now row, e = .refresh token client draw now ∧
        Exchanged sha256 db (step sha256 db e) token draw now row ∧
        r'.family_id = row.family_id) := by
  cases e with
  | issue_session user client imp draw now =>
    simp only [step] at hr'
    cases hissue : issue_session sha256 db user client imp none draw now with
    | error e =>
      rw [hissue] at hr'
      exact Or.inl ⟨r', hr', Ages.refl r'⟩
    | ok out =>
      rw [hissue] at hr'
      obtain ⟨db', issued⟩ := out
      obtain ⟨-, rfl, -⟩ := issue_session_ok hissue
      rcases Table.mem_insert.1 hr' with hr' | rfl
      · exact Or.inl ⟨r', hr', Ages.refl r'⟩
      · exact Or.inr (Or.inl ⟨user, client, imp, draw, now, rfl, rfl⟩)
  | refresh token client draw now =>
    rcases refresh_cases sha256 db token client draw now with
      ⟨row, hex⟩ | ⟨row, -, reason, hdb'⟩ | hdb'
    · rcases hex.mem_cases hr' with ⟨hages, -⟩ | ⟨-, hfam, -⟩ | ⟨hr', -⟩
      · exact Or.inl ⟨row, hex.mem, hages⟩
      · exact Or.inr (Or.inr ⟨token, client, draw, now, row, rfl, hex, hfam⟩)
      · exact Or.inl ⟨r', hr', Ages.refl r'⟩
    · rw [hdb'] at hr'
      exact Or.inl (aged_of_mem_update (ages_revoke reason now) hr')
    · rw [hdb'] at hr'
      exact Or.inl ⟨r', hr', Ages.refl r'⟩
  | logout token reason now =>
    rcases logout_cases sha256 db token reason now with ⟨row, -, -, hdb'⟩ | ⟨hdb', -⟩
    · rw [hdb'] at hr'
      exact Or.inl (aged_of_mem_update (ages_revoke reason now) hr')
    · rw [hdb'] at hr'
      exact Or.inl ⟨r', hr', Ages.refl r'⟩
  | revoke_all_for_user user_id reason now =>
    exact Or.inl (aged_of_mem_update (ages_revoke reason now) hr')
  | users rows => exact Or.inl ⟨r', hr', Ages.refl r'⟩

/-! ## The store's invariant -/

/-- `token_hash` is unique, and a family has one unused row at most. -/
structure Sound (db : Db) : Prop where
  unique_hash : ∀ r ∈ db.tokens, ∀ r' ∈ db.tokens, r.token_hash = r'.token_hash → r = r'
  one_unused : ∀ r ∈ db.tokens, ∀ r' ∈ db.tokens,
    r.used_at = none → r'.used_at = none → r.family_id = r'.family_id → r = r'

theorem sound_fresh (users : List User) : Sound (Db.fresh users) where
  unique_hash := by simp [Db.fresh]
  one_unused := by simp [Db.fresh]

/-- Ageing some of the rows keeps the invariant: hashes and families stay, and a
row that is unused now was unused before. -/
theorem Sound.update (h : Sound db) (hf : ∀ r, Ages r (f.apply r))
    (htokens : db'.tokens = db.tokens.update p f) : Sound db' := by
  have hages := ite_ages (p := p) hf
  constructor
  · intro r' hr' s' hs' heq
    rw [htokens] at hr' hs'
    obtain ⟨r, hr, rfl⟩ := Table.mem_update.1 hr'
    obtain ⟨s, hs, rfl⟩ := Table.mem_update.1 hs'
    rw [(hages r).token_hash, (hages s).token_hash] at heq
    rw [h.unique_hash r hr s hs heq]
  · intro r' hr' s' hs' hur hus heq
    rw [htokens] at hr' hs'
    obtain ⟨r, hr, rfl⟩ := Table.mem_update.1 hr'
    obtain ⟨s, hs, rfl⟩ := Table.mem_update.1 hs'
    rw [(hages r).family_id, (hages s).family_id] at heq
    have hr0 : r.used_at = none := by
      by_contra hne
      exact (hages r).used hne hur
    have hs0 : s.used_at = none := by
      by_contra hne
      exact (hages s).used hne hus
    rw [h.one_unused r hr s hs hr0 hs0 heq]

/-- The row with the token's hash is the one that is loaded. -/
theorem load_of_hash (h : Sound db) (hrow : row ∈ db.tokens)
    (htoken : row.token_hash = sha256 token) :
    _load_token sha256 db token = .ok row := by
  rw [_load_token, get_or_raise_eq_ok]
  refine Table.select_one_eq hrow (by simpa using htoken) (fun r hr hr' => ?_)
  exact h.unique_hash r hr row hrow ((of_decide_eq_true hr').trans htoken.symm)

/-- The UUID an event draws for a new session is not one already given out. -/
def FreshFamily (db : Db) : Event → Prop
  | .issue_session _ _ _ draw _ => ∀ r ∈ db.tokens, r.family_id ≠ draw.uuid
  | _ => True

instance (db : Db) : (e : Event) → Decidable (FreshFamily db e)
  | .issue_session _ _ _ draw _ =>
    inferInstanceAs (Decidable (∀ r ∈ db.tokens, r.family_id ≠ draw.uuid))
  | .refresh .. => .isTrue trivial
  | .logout .. => .isTrue trivial
  | .revoke_all_for_user .. => .isTrue trivial
  | .users _ => .isTrue trivial

/-- A sign-in starts a family of its own. -/
theorem Sound.issue (h : Sound db) (hfresh : ∀ r ∈ db.tokens, r.family_id ≠ draw.uuid)
    (hok : issue_session sha256 db user client imp none draw now = .ok (db', issued)) :
    Sound db' := by
  obtain ⟨hhash, rfl, -⟩ := issue_session_ok hok
  constructor
  · exact Table.unique_insert (C := fun r s : RefreshToken => r.token_hash = s.token_hash) Eq.symm
      h.unique_hash hhash
  · intro r hr s hs hur hus heq
    exact Table.unique_insert
      (C := fun r s : RefreshToken => r.used_at = none ∧ s.used_at = none ∧ r.family_id = s.family_id)
      (fun hrs => ⟨hrs.2.1, hrs.1, hrs.2.2.symm⟩)
      (fun a ha b hb hab => h.one_unused a ha b hb hab.1 hab.2.1 hab.2.2)
      (fun a ha hab => hfresh a ha hab.2.2) r hr s hs ⟨hur, hus, heq⟩

/-- An exchange moves the one unused row of the family on. -/
theorem Sound.exchange (h : Sound db) (hex : Exchanged sha256 db db' token draw now row) :
    Sound db' := by
  have hnext : ∀ r ∈ db'.tokens, ∀ s ∈ db'.tokens, r.id = db.tokens.next →
      s.id = db.tokens.next → r = s :=
    fun r hr s hs hri hsi => Table.eq_of_key_eq hr hs (hri.trans hsi.symm)
  constructor
  · -- either row is the spent one, the successor, or neither
    intro r hr s hs heq
    rcases hex.mem_cases hr with ⟨hages, -⟩ | ⟨-, -, hhash, hid⟩ | ⟨hr₀, hne⟩ <;>
      rcases hex.mem_cases hs with ⟨hages', -⟩ | ⟨-, -, hhash', hid'⟩ | ⟨hs₀, hne'⟩
    · exact Table.eq_of_key_eq hr hs (hages.id.trans hages'.id.symm)
    · rw [hages.token_hash, hhash'] at heq
      exact absurd heq (hex.new_hash row hex.mem)
    · rw [hages.token_hash] at heq
      exact absurd (h.unique_hash row hex.mem s hs₀ heq).symm hne'
    · rw [hages'.token_hash, hhash] at heq
      exact absurd heq.symm (hex.new_hash row hex.mem)
    · exact hnext r hr s hs hid hid'
    · rw [hhash] at heq
      exact absurd heq.symm (hex.new_hash s hs₀)
    · rw [hages'.token_hash] at heq
      exact absurd (h.unique_hash r hr₀ row hex.mem heq) hne
    · rw [hhash'] at heq
      exact absurd heq (hex.new_hash r hr₀)
    · exact h.unique_hash r hr₀ s hs₀ heq
  · -- the family's unused row was `row`, and is the successor now
    intro r hr s hs hur hus heq
    rcases hex.mem_cases hr with ⟨-, hused⟩ | ⟨-, hfam, -, hid⟩ | ⟨hr₀, hne⟩
    · exact absurd hur hused
    · rcases hex.mem_cases hs with ⟨-, hused⟩ | ⟨-, -, -, hid'⟩ | ⟨hs₀, hne⟩
      · exact absurd hus hused
      · exact hnext r hr s hs hid hid'
      · exact absurd (h.one_unused s hs₀ row hex.mem hus hex.unused
          (heq.symm.trans hfam)) hne
    · rcases hex.mem_cases hs with ⟨-, hused⟩ | ⟨-, hfam, -, -⟩ | ⟨hs₀, -⟩
      · exact absurd hus hused
      · exact absurd (h.one_unused r hr₀ row hex.mem hur hex.unused (heq.trans hfam)) hne
      · exact h.one_unused r hr₀ s hs₀ hur hus heq

theorem Sound.step (h : Sound db) (hfresh : FreshFamily db e) :
    Sound (step sha256 db e) := by
  cases e with
  | issue_session user client imp draw now =>
    simp only [Auth.step]
    cases hissue : issue_session sha256 db user client imp none draw now with
    | error e => exact h
    | ok out => exact h.issue hfresh hissue
  | refresh token client draw now =>
    rcases refresh_cases sha256 db token client draw now with
      ⟨row, hex⟩ | ⟨row, -, reason, hdb'⟩ | hdb'
    · exact h.exchange hex
    · rw [hdb']
      exact h.update (ages_revoke reason now) rfl
    · rwa [hdb']
  | logout token reason now =>
    rcases logout_cases sha256 db token reason now with ⟨row, -, -, hdb'⟩ | ⟨hdb', -⟩
    · rw [hdb']
      exact h.update (ages_revoke reason now) rfl
    · rwa [hdb']
  | revoke_all_for_user user_id reason now => exact h.update (ages_revoke reason now) rfl
  | users rows => exact ⟨h.unique_hash, h.one_unused⟩

theorem sound_run {users : List User} {es : List Event}
    (hes : Runs.Along (step sha256) FreshFamily (Db.fresh users) es) :
    Sound (Runs.run (step sha256) (Db.fresh users) es) :=
  Runs.run_inv_along (fun _ _ h hfresh => h.step hfresh) (sound_fresh users) hes

end EnvMgr.Auth

/-
When the tabs of a browser keep a session honest.

Within a tab the shared promise works: a second 401 joins the refresh under
way, and by the time the promise is cleared the storage holds the new token.
Between tabs nothing is shared but the storage, which holds the old token until
the refresh settles. So the one thing that can go wrong is a tab that starts a
refresh with the token another tab has in flight, and if that never happens,
nothing does.
-/
import Mathlib.Data.List.Infix
import EnvMgr.Auth.Browser
import EnvMgr.Auth.Rotation

namespace EnvMgr.Auth.Browser

variable {t u : String} {request : Request}
variable {v presented : String} {client : Client} {draw : Draw} {now : DateTime}
  {data : IssuedSession}

variable {n : ℕ} {sha256 : String → String}

/-! ## The server's side of a token -/

/-- The server has a row for the token. -/
def Known (sha256 : String → String) (server : Db) (t : String) : Prop :=
  ∃ row ∈ server.tokens, row.token_hash = sha256 t

/-- No row of the token has been exchanged. -/
def Unused (sha256 : String → String) (server : Db) (t : String) : Prop :=
  ∀ row ∈ server.tokens, row.token_hash = sha256 t → row.used_at = none

theorem Known.later {server server' : Db} (h : Known sha256 server t)
    (hlater : Later server server') : Known sha256 server' t := by
  obtain ⟨row, hrow, hhash⟩ := h
  obtain ⟨row', hrow', hages⟩ := hlater row hrow
  exact ⟨row', hrow', hages.token_hash.trans hhash⟩

theorem Unused.revoke {server : Db} (h : Unused sha256 server t)
    (c : RefreshToken → Bool) (reason : String) (now : DateTime) :
    Unused sha256 { server with tokens := server.tokens.update c (revoke reason now) } t := by
  intro row hrow hhash
  rcases Table.mem_update_cases hrow with ⟨r, hr, -, rfl⟩ | ⟨hr, -⟩
  · exact h r hr hhash
  · exact h row hr hhash

/-- A refresh marks no token but the one presented. -/
theorem Unused.refresh {server : Db} (h : Unused sha256 server t)
    (hne : sha256 presented ≠ sha256 t) (client : Client) (draw : Draw) (now : DateTime) :
    Unused sha256 (Auth.step sha256 server (.refresh presented client draw now)) t := by
  rcases refresh_cases sha256 server presented client draw now with
    ⟨row, hex⟩ | ⟨row, -, reason, hserver⟩ | hserver
  · intro r hr hhash
    rcases hex.mem_cases hr with ⟨hages, -⟩ | ⟨hunused, -⟩ | ⟨hr, -⟩
    · rw [hages.token_hash, hex.presented] at hhash
      exact absurd hhash hne
    · exact hunused
    · exact h r hr hhash
  · rw [hserver]
    exact h.revoke _ reason now
  · rwa [hserver]

theorem Unused.logout {server : Db} (h : Unused sha256 server t)
    (presented reason : String) (now : DateTime) :
    Unused sha256 (Auth.step sha256 server (.logout presented reason now)) t := by
  rcases logout_cases sha256 server presented reason now with ⟨row, -, -, hserver⟩ | ⟨hserver, -⟩
  · rw [hserver]
    exact h.revoke _ reason now
  · rwa [hserver]

/-- A token the server has just issued: new to it, and unused. -/
structure Issued (sha256 : String → String) (server server' : Db) (t : String) : Prop where
  unknown : ¬ Known sha256 server t
  known : Known sha256 server' t
  unused : Unused sha256 server' t

/-- A token just issued is none that the server knew. -/
theorem Issued.ne_of_known {server server' : Db}
    (h : Issued sha256 server server' t) (hu : Known sha256 server u) : sha256 t ≠ sha256 u := by
  intro heq
  obtain ⟨row, hrow, hhash⟩ := hu
  exact h.unknown ⟨row, hrow, hhash.trans heq.symm⟩

theorem issued_of_reply {server : Db}
    (hreply : reply_to sha256 server presented client draw now = .issued data) :
    Issued sha256 server (Auth.step sha256 server (.refresh presented client draw now))
      data.refresh_token := by
  unfold reply_to at hreply
  split at hreply
  · rename_i server' issued hrot
    cases hreply
    obtain ⟨⟨row, hex⟩, htoken⟩ := rotate_ok hrot
    have hstep : Auth.step sha256 server (.refresh presented client draw now) = server' := by
      simp only [Auth.step, hrot]
    rw [hstep, htoken]
    refine ⟨?_, ?_, ?_⟩
    · rintro ⟨r, hr, hhash⟩
      exact hex.new_hash r hr hhash
    · obtain ⟨user, client', successor, rfl⟩ := hex.written
      refine ⟨_, Table.mem_update.2 ⟨_, Table.mem_insert.2 (Or.inr rfl), rfl⟩, ?_⟩
      split_ifs <;> rfl
    · intro r hr hhash
      rcases hex.mem_cases hr with ⟨hages, -⟩ | ⟨hunused, -⟩ | ⟨hr, -⟩
      · exact absurd (hages.token_hash.symm.trans hhash) (hex.new_hash row hex.mem)
      · exact hunused
      · exact absurd hhash (hex.new_hash r hr)
  · simp at hreply

theorem issued_of_sign_in {server server' : Db} {user : User}
    (hok : issue_session sha256 server user client none none draw now = .ok (server', data)) :
    Issued sha256 server server' data.refresh_token ∧ Later server server' ∧
      ∀ t, Unused sha256 server t → t ≠ data.refresh_token → Known sha256 server t →
        Unused sha256 server' t := by
  obtain ⟨hhash, rfl, htoken⟩ := issue_session_ok hok
  rw [htoken]
  refine ⟨⟨?_, ⟨_, Table.mem_insert.2 (Or.inr rfl), rfl⟩, ?_⟩, ?_, ?_⟩
  · rintro ⟨r, hr, heq⟩
    exact hhash r hr heq
  · intro r hr heq
    rcases Table.mem_insert.1 hr with hr | rfl
    · exact absurd heq (hhash r hr)
    · rfl
  · exact Table.retains_insert Ages.refl server.tokens _
  · intro t ht _ _ r hr heq
    rcases Table.mem_insert.1 hr with hr | rfl
    · exact ht r hr heq
    · rfl

theorem not_reuse {server : Db} (h : Unused sha256 server t) :
    is_reuse sha256 server t = false := by
  unfold is_reuse
  split
  · rename_i row hload
    obtain ⟨hmem, hhash⟩ := _load_token_ok hload
    rw [h row hmem hhash]
    rfl
  · rfl

/-! ## The browser's tokens -/

/-- The tokens the browser has or has had: posted, stored, or on their way back. -/
inductive Held (stored : Option String) (calls : Fin n → Option RefreshCall)
    (posted : List String) (t : String) : Prop
  | posted (h : t ∈ posted)
  | stored (h : stored = some t)
  | reply (tab : Fin n) (presented : String) (data : IssuedSession)
      (h : calls tab = some ⟨presented, .issued data⟩) (ht : data.refresh_token = t)

/-- What holds as long as no token has been posted twice. -/
structure Sound (sha256 : String → String) (server : Db) (stored : Option String)
    (calls : Fin n → Option RefreshCall) (posted : List String)
    (wire : List (Fin n × String)) : Prop where
  known : ∀ t, Held stored calls posted t → Known sha256 server t
  inj : ∀ a b, Held stored calls posted a → Held stored calls posted b →
    sha256 a = sha256 b → a = b
  call_posted : ∀ tab call, calls tab = some call → call.refresh_token ∈ posted
  calls_distinct : ∀ i j ci cj, calls i = some ci → calls j = some cj →
    ci.refresh_token = cj.refresh_token → i = j
  stored_in_flight : ∀ t, stored = some t → t ∈ posted →
    ∃ tab call, calls tab = some call ∧ call.refresh_token = t
  reply_new : ∀ tab presented data, calls tab = some ⟨presented, .issued data⟩ →
    data.refresh_token ∉ posted ∧ stored ≠ some data.refresh_token
  replies_distinct : ∀ i j pi pj di dj, calls i = some ⟨pi, .issued di⟩ →
    calls j = some ⟨pj, .issued dj⟩ → di.refresh_token = dj.refresh_token → i = j
  wire_posted : ∀ x ∈ wire, x.2 ∈ posted
  wire_once : (wire.map Prod.snd).Nodup
  unused : ∀ t, Held stored calls posted t → (t ∉ posted ∨ t ∈ wire.map Prod.snd) →
    Unused sha256 server t

section Changes

variable {server server' : Db} {stored : Option String} {calls : Fin n → Option RefreshCall}
  {posted : List String} {wire : List (Fin n × String)}

/-- A server that has only revoked something. -/
theorem Sound.revocation (h : Sound sha256 server stored calls posted wire)
    (hlater : Later server server')
    (hunused : ∀ t, Unused sha256 server t → Unused sha256 server' t) :
    Sound sha256 server' stored calls posted wire :=
  { h with
    known := fun t ht => (h.known t ht).later hlater
    unused := fun t ht hor => hunused t (h.unused t ht hor) }

/-- A refresh that is under way after a tab's own was set. -/
theorem update_eq_some {tab i : Fin n} {new : Option RefreshCall} {c : RefreshCall}
    (hc : Function.update calls tab new i = some c) :
    i = tab ∧ new = some c ∨ i ≠ tab ∧ calls i = some c := by
  by_cases hi : i = tab
  · subst hi
    rw [Function.update_self] at hc
    exact Or.inl ⟨rfl, hc⟩
  · rw [Function.update_of_ne hi] at hc
    exact Or.inr ⟨hi, hc⟩

/-! ## Posting a token -/

/-- The tab has posted the token, and waits. -/
def posting (calls : Fin n → Option RefreshCall) (tab : Fin n) (t : String) :
    Fin n → Option RefreshCall :=
  Function.update calls tab (some ⟨t, .pending⟩)

section

variable {tab i j : Fin n} {c ci cj : RefreshCall}

/-- The refreshes under way then: the new one, which has no reply, and the old ones. -/
theorem posting_cases (hc : posting calls tab t i = some c) :
    (i = tab ∧ c = ⟨t, .pending⟩) ∨ calls i = some c :=
  (update_eq_some hc).imp (fun h => ⟨h.1, (Option.some.inj h.2).symm⟩) And.right

theorem posting_reply (hc : posting calls tab t i = some ⟨presented, .issued data⟩) :
    calls i = some ⟨presented, .issued data⟩ := by
  rcases posting_cases hc with ⟨-, heq⟩ | hc
  · simp at heq
  · exact hc

/-- The browser has no other token for it. -/
theorem Held.of_posting (hstored : stored = some t)
    (hu : Held stored (posting calls tab t) (posted ++ [t]) u) : Held stored calls posted u := by
  rcases hu with hu | hu | ⟨i, p, d, hd, rfl⟩
  · rcases List.mem_append.1 hu with hu | hu
    · exact .posted hu
    · rw [List.mem_singleton.1 hu]
      exact .stored hstored
  · exact .stored hu
  · exact .reply i p d (posting_reply hd) rfl

/-- The tokens of the other refreshes have been posted, this one has not. -/
theorem Sound.posting_distinct (h : Sound sha256 server stored calls posted wire)
    (hnew : t ∉ posted) (hi : posting calls tab t i = some ci)
    (hj : posting calls tab t j = some cj) (heq : ci.refresh_token = cj.refresh_token) :
    i = j := by
  rcases posting_cases hi with ⟨hit, rfl⟩ | hi
  · rcases posting_cases hj with ⟨hjt, -⟩ | hj
    · rw [hit, hjt]
    · have heq : t = cj.refresh_token := heq
      rw [heq] at hnew
      exact absurd (h.call_posted j cj hj) hnew
  · rcases posting_cases hj with ⟨-, rfl⟩ | hj
    · have heq : ci.refresh_token = t := heq
      rw [← heq] at hnew
      exact absurd (h.call_posted i ci hi) hnew
    · exact h.calls_distinct i j ci cj hi hj heq

/-- The token was unused, being stored and not posted; what is known of the others stays. -/
theorem Sound.posting_unused (h : Sound sha256 server stored calls posted wire)
    (hstored : stored = some t) (hnew : t ∉ posted)
    (hu : Held stored (posting calls tab t) (posted ++ [t]) u)
    (hor : u ∉ posted ++ [t] ∨ u ∈ (wire ++ [(tab, t)]).map Prod.snd) :
    Unused sha256 server u := by
  by_cases hut : u = t
  · subst hut
    exact h.unused u (.stored hstored) (Or.inl hnew)
  · refine h.unused u (hu.of_posting hstored) ?_
    rcases hor with hnot | hmem
    · exact Or.inl fun hmem => hnot (List.mem_append_left [t] hmem)
    · rw [List.map_append] at hmem
      rcases List.mem_append.1 hmem with hmem | hmem
      · exact Or.inr hmem
      · exact absurd (List.mem_singleton.1 hmem) hut

end

/-- Posting the stored token for the first time. -/
theorem Sound.post (h : Sound sha256 server stored calls posted wire) {tab : Fin n}
    (hstored : stored = some t) (hnew : t ∉ posted) :
    Sound sha256 server stored (posting calls tab t) (posted ++ [t]) (wire ++ [(tab, t)]) where
  known u hu := h.known u (hu.of_posting hstored)
  inj a b ha hb := h.inj a b (ha.of_posting hstored) (hb.of_posting hstored)
  call_posted i c hc := by
    rcases posting_cases hc with ⟨-, rfl⟩ | hc
    · exact List.mem_append_right posted List.mem_cons_self
    · exact List.mem_append_left [t] (h.call_posted i c hc)
  calls_distinct _ _ _ _ hi hj heq := h.posting_distinct hnew hi hj heq
  stored_in_flight u hu _ := by
    -- it is this tab's now
    rw [hstored] at hu
    cases hu
    exact ⟨tab, _, Function.update_self _ _ _, rfl⟩
  reply_new i p d hd := by
    obtain ⟨hnot, hne⟩ := h.reply_new i p d (posting_reply hd)
    refine ⟨fun hmem => ?_, hne⟩
    rcases List.mem_append.1 hmem with hmem | hmem
    · exact hnot hmem
    · exact hne (hstored.trans (congrArg some (List.mem_singleton.1 hmem).symm))
  replies_distinct i j pi pj di dj hi hj :=
    h.replies_distinct i j pi pj di dj (posting_reply hi) (posting_reply hj)
  wire_posted x hx := by
    rcases List.mem_append.1 hx with hx | hx
    · exact List.mem_append_left [t] (h.wire_posted x hx)
    · rw [List.mem_singleton.1 hx]
      exact List.mem_append_right posted List.mem_cons_self
  wire_once := by
    rw [List.map_append]
    refine h.wire_once.append (List.nodup_singleton t) ?_
    intro u hu hut
    obtain ⟨x, hx, rfl⟩ := List.mem_map.1 hu
    have hxt : x.2 = t := List.mem_singleton.1 hut
    rw [← hxt] at hnew
    exact hnew (h.wire_posted x hx)
  unused _ hu hor := h.posting_unused hstored hnew hu hor

/-- The refreshes under way after one of them got a reply, or gave up: the same
tokens, and as replies those there were and perhaps a token just issued. -/
structure Answered (calls calls' : Fin n → Option RefreshCall) (new : Option (Fin n × String)) :
    Prop where
  back : ∀ i c', calls' i = some c' → ∃ c, calls i = some c ∧ c.refresh_token = c'.refresh_token
  forth : ∀ i c, calls i = some c → ∃ c', calls' i = some c' ∧ c'.refresh_token = c.refresh_token
  replies : ∀ i p d, calls' i = some ⟨p, .issued d⟩ →
    calls i = some ⟨p, .issued d⟩ ∨ new = some (i, d.refresh_token)

section

variable {calls' : Fin n → Option RefreshCall} {new : Option (Fin n × String)}

/-- What is held after an answer was held before, or has just been issued. -/
theorem Answered.held (ha : Answered calls calls' new)
    (hnew : ∀ x ∈ new, Issued sha256 server server' x.2) (hu : Held stored calls' posted u) :
    Held stored calls posted u ∨ Issued sha256 server server' u := by
  rcases hu with hu | hu | ⟨i, p, d, hd, rfl⟩
  · exact Or.inl (.posted hu)
  · exact Or.inl (.stored hu)
  · rcases ha.replies i p d hd with hd | hd
    · exact Or.inl (.reply i p d hd rfl)
    · exact Or.inr (hnew _ hd)

/-- A token just issued is none of those held before. -/
theorem Sound.issued_fresh (h : Sound sha256 server stored calls posted wire)
    (hu : Issued sha256 server server' u) (hv : Held stored calls posted v) :
    sha256 u ≠ sha256 v := hu.ne_of_known (h.known v hv)

theorem Sound.issued_ne (h : Sound sha256 server stored calls posted wire)
    (hu : Issued sha256 server server' u) (hv : Held stored calls posted v) : u ≠ v :=
  fun heq => h.issued_fresh hu hv (congrArg sha256 heq)

/-- No two refreshes have one token for a reply. -/
theorem Sound.answered_distinct (h : Sound sha256 server stored calls posted wire)
    (ha : Answered calls calls' new) (hnew : ∀ x ∈ new, Issued sha256 server server' x.2)
    {i j : Fin n} {p q : String} {d e : IssuedSession} (hi : calls' i = some ⟨p, .issued d⟩)
    (hj : calls' j = some ⟨q, .issued e⟩)
    (heq : sha256 d.refresh_token = sha256 e.refresh_token) : i = j := by
  rcases ha.replies i p d hi with hi | hi
  · rcases ha.replies j q e hj with hj | hj
    · exact h.replies_distinct i j p q d e hi hj
        (h.inj _ _ (.reply i p d hi rfl) (.reply j q e hj rfl) heq)
    · exact absurd heq.symm (h.issued_fresh (hnew _ hj) (.reply i p d hi rfl))
  · rcases ha.replies j q e hj with hj | hj
    · exact absurd heq (h.issued_fresh (hnew _ hi) (.reply j q e hj rfl))
    · rw [hi] at hj
      exact (congrArg Prod.fst (Option.some.inj hj))

/-- Two tokens just issued are one. -/
theorem Sound.issued_unique (h : Sound sha256 server stored calls posted wire)
    (ha : Answered calls calls' new) (hnew : ∀ x ∈ new, Issued sha256 server server' x.2)
    {a b : String} (hissued : Issued sha256 server server' a)
    (hissued' : Issued sha256 server server' b) (hheld : Held stored calls' posted a)
    (hheld' : Held stored calls' posted b) (heq : sha256 a = sha256 b) : a = b := by
  rcases hheld with hp | hs | ⟨i, p, d, hd, rfl⟩
  · exact absurd rfl (h.issued_ne hissued (.posted hp))
  · exact absurd rfl (h.issued_ne hissued (.stored hs))
  · rcases hheld' with hp | hs | ⟨j, q, e, he, rfl⟩
    · exact absurd rfl (h.issued_ne hissued' (.posted hp))
    · exact absurd rfl (h.issued_ne hissued' (.stored hs))
    · obtain rfl := h.answered_distinct ha hnew hd he heq
      rw [hd] at he
      simp only [Option.some.injEq, RefreshCall.mk.injEq, Reply.issued.injEq] at he
      rw [he.2]

/-- A reply that brings a token the server has just issued, or none. -/
theorem Sound.answer (h : Sound sha256 server stored calls posted wire)
    (ha : Answered calls calls' new) {wire' : List (Fin n × String)} (hwire : ∀ x ∈ wire', x ∈ wire)
    (honce : (wire'.map Prod.snd).Nodup) (hlater : Later server server')
    (hunused : ∀ t, Held stored calls posted t → (t ∉ posted ∨ t ∈ wire'.map Prod.snd) →
      Unused sha256 server' t) (hnew : ∀ x ∈ new, Issued sha256 server server' x.2) :
    Sound sha256 server' stored calls' posted wire' := by
  constructor
  · -- known
    intro u hu
    rcases ha.held hnew hu with hu | hu
    · exact (h.known u hu).later hlater
    · exact hu.known
  · -- inj
    intro a b hheld hheld' heq
    rcases ha.held hnew hheld with hold | hissued
    · rcases ha.held hnew hheld' with hold' | hissued'
      · exact h.inj a b hold hold' heq
      · exact absurd heq.symm (h.issued_fresh hissued' hold)
    · rcases ha.held hnew hheld' with hold' | hissued'
      · exact absurd heq (h.issued_fresh hissued hold')
      · exact h.issued_unique ha hnew hissued hissued' hheld hheld' heq
  · -- call_posted, calls_distinct and stored_in_flight are about the same tokens as before
    intro i c' hc'
    obtain ⟨c, hc, heq⟩ := ha.back i c' hc'
    exact heq ▸ h.call_posted i c hc
  · intro i j ci' cj' hi' hj' heq
    obtain ⟨ci, hi, hci⟩ := ha.back i ci' hi'
    obtain ⟨cj, hj, hcj⟩ := ha.back j cj' hj'
    refine h.calls_distinct i j ci cj hi hj ?_
    rw [hci, heq, hcj]
  · intro t ht hposted
    obtain ⟨i, c, hc, hct⟩ := h.stored_in_flight t ht hposted
    obtain ⟨c', hc', hct'⟩ := ha.forth i c hc
    exact ⟨i, c', hc', hct'.trans hct⟩
  · -- reply_new: a token just issued is neither posted nor stored
    intro i p d hd
    rcases ha.replies i p d hd with hd | hd
    · exact h.reply_new i p d hd
    · exact ⟨fun hmem => h.issued_ne (hnew _ hd) (.posted hmem) rfl,
        fun hs => h.issued_ne (hnew _ hd) (.stored hs) rfl⟩
  · intro i j p q d e hi hj heq
    exact h.answered_distinct ha hnew hi hj (congrArg sha256 heq)
  · exact fun x hx => h.wire_posted x (hwire x hx)
  · exact honce
  · intro t ht hor
    rcases ha.held hnew ht with ht | ht
    · exact hunused t ht hor
    · exact ht.unused

end

/-- A refresh settles and its token, if it brought one, replaces the stored one. -/
theorem Sound.settle (h : Sound sha256 server stored calls posted wire) {tab : Fin n}
    {stored' : Option String} (hstored : ∀ t, stored' = some t →
      ∃ presented data, calls tab = some ⟨presented, .issued data⟩ ∧ data.refresh_token = t) :
    Sound sha256 server stored' (Function.update calls tab none) posted wire := by
  have hcalls : ∀ i c, Function.update calls tab none i = some c → i ≠ tab ∧ calls i = some c := by
    intro i c hc
    exact (update_eq_some hc).resolve_left fun h => absurd h.2.symm (Option.some_ne_none c)
  have hheld : ∀ u, Held stored' (Function.update calls tab none) posted u →
      Held stored calls posted u := by
    rintro u (hu | hu | ⟨i, p, d, hd, rfl⟩)
    · exact .posted hu
    · obtain ⟨p, d, hd, rfl⟩ := hstored u hu
      exact .reply tab p d hd rfl
    · exact .reply i p d (hcalls i _ hd).2 rfl
  refine ⟨fun u hu => h.known u (hheld u hu), fun a b ha hb => h.inj a b (hheld a ha) (hheld b hb),
    fun i c hc => h.call_posted i c (hcalls i c hc).2, ?_, ?_, ?_, ?_, h.wire_posted, h.wire_once,
    fun u hu => h.unused u (hheld u hu)⟩
  · intro i j ci cj hi hj
    exact h.calls_distinct i j ci cj (hcalls i ci hi).2 (hcalls j cj hj).2
  · -- stored_in_flight: what is stored now came with the reply, and nobody has posted it
    intro t ht hposted
    obtain ⟨p, d, hd, rfl⟩ := hstored t ht
    exact absurd hposted (h.reply_new tab p d hd).1
  · intro i p d hd
    obtain ⟨hne, hd⟩ := hcalls i _ hd
    refine ⟨(h.reply_new i p d hd).1, fun hs => ?_⟩
    obtain ⟨q, e, he, heq⟩ := hstored _ hs
    exact hne (h.replies_distinct i tab p q d e hd he heq.symm)
  · intro i j pi pj di dj hi hj
    exact h.replies_distinct i j pi pj di dj (hcalls i _ hi).2 (hcalls j _ hj).2

/-- The storage is cleared. -/
theorem Sound.clear (h : Sound sha256 server stored calls posted wire) :
    Sound sha256 server none calls posted wire := by
  have hheld : ∀ u, Held none calls posted u → Held stored calls posted u := by
    rintro u (hu | hu | ⟨i, p, d, hd, rfl⟩)
    · exact .posted hu
    · simp at hu
    · exact .reply i p d hd rfl
  exact { h with
    known := fun u hu => h.known u (hheld u hu)
    inj := fun a b ha hb => h.inj a b (hheld a ha) (hheld b hb)
    stored_in_flight := by simp
    reply_new := fun i p d hd => ⟨(h.reply_new i p d hd).1, by simp⟩
    unused := fun u hu => h.unused u (hheld u hu) }

/-- A sign-in stores a token just issued. -/
theorem Sound.store (h : Sound sha256 server stored calls posted wire)
    (hissued : Issued sha256 server server' t) (hlater : Later server server')
    (hunused : ∀ u, Unused sha256 server u → Known sha256 server u → Unused sha256 server' u) :
    Sound sha256 server' (some t) calls posted wire := by
  have hheld : ∀ u, Held (some t) calls posted u → u = t ∨ Held stored calls posted u := by
    rintro u (hu | hu | ⟨i, p, d, hd, rfl⟩)
    · exact Or.inr (.posted hu)
    · exact Or.inl (Option.some.inj hu).symm
    · exact Or.inr (.reply i p d hd rfl)
  have hfresh : ∀ v, Held stored calls posted v → sha256 t ≠ sha256 v :=
    fun v hv => hissued.ne_of_known (h.known v hv)
  refine { h with known := ?_, inj := ?_, stored_in_flight := ?_, reply_new := ?_, unused := ?_ }
  · intro u hu
    rcases hheld u hu with rfl | hu
    · exact hissued.known
    · exact (h.known u hu).later hlater
  · intro a b ha hb heq
    rcases hheld a ha with rfl | ha'
    · rcases hheld b hb with rfl | hb'
      · rfl
      · exact absurd heq (hfresh b hb')
    · rcases hheld b hb with rfl | hb'
      · exact absurd heq.symm (hfresh a ha')
      · exact h.inj a b ha' hb' heq
  · intro u hu hposted
    cases hu
    exact absurd rfl (hfresh t (.posted hposted))
  · intro i p d hd
    refine ⟨(h.reply_new i p d hd).1, fun heq => ?_⟩
    exact hfresh _ (.reply i p d hd rfl) (congrArg sha256 (Option.some.inj heq))
  · intro u hu hor
    rcases hheld u hu with rfl | hu
    · exact hissued.unused
    · exact hunused u (h.unused u hu hor) (h.known u hu)

end Changes

/-! ## Every event -/

/-- The state is sound and the server has seen no reuse. -/
def Clean (sha256 : String → String) (s : State n) : Prop :=
  s.reuse_detected = false ∧
    Sound sha256 s.server s.localStorage.refresh_token s.refreshInFlight s.posted s.wire

theorem Clean.end_session {s : State n} (h : Clean sha256 s) : Clean sha256 (endSession s) :=
  ⟨h.1, h.2.clear⟩

theorem refreshToken_eq {storage : Storage} (h : storage.refreshToken = some t) :
    storage.refresh_token = some t :=
  (Option.filter_eq_some_iff.1 h).1

/-- **What a 401 does to the tokens**: it posts the stored one, or leaves them
all but perhaps the stored one alone. -/
theorem answer_401_cases (sha256 : String → String) (s : State n) (tab : Fin n) (r : ℕ) :
    (posts s tab r = true ∧ ∃ t, s.localStorage.refreshToken = some t ∧
      ∃ requests, step sha256 s (.answer_401 tab r) = { s with
        refreshInFlight := Function.update s.refreshInFlight tab (some ⟨t, .pending⟩)
        requests := requests
        posted := s.posted ++ [t]
        wire := s.wire ++ [(tab, t)] }) ∨
    (posts s tab r = false ∧ ∃ storage requests, (storage = s.localStorage ∨
        storage = ⟨none, none⟩) ∧
      step sha256 s (.answer_401 tab r) = { s with
        localStorage := storage
        requests := requests }) := by
  rw [step]
  by_cases hsent : (s.requests tab r).progress = .sent
  · rw [if_pos hsent, on_401]
    by_cases hretry : canRetry s (s.requests tab r) = true
    · have htoken : s.localStorage.refreshToken.isSome = true := by
        simp only [canRetry, Bool.and_eq_true] at hretry
        exact hretry.2
      obtain ⟨t, ht⟩ := Option.isSome_iff_exists.1 htoken
      simp only [hretry, if_true, refresh_or_join, ht]
      -- `??`: a refresh of the tab's own under way is joined, and nothing is posted
      cases hcall : s.refreshInFlight tab with
      | none => exact Or.inl ⟨by simp [posts, hsent, hretry, hcall], t, rfl, _, rfl⟩
      | some call =>
        exact Or.inr ⟨by simp [posts, hcall], s.localStorage, _, Or.inl rfl, rfl⟩
    · have hposts : posts s tab r = false := by simp [posts, hretry]
      simp only [hretry]
      cases htoken : s.localStorage.token.isSome with
      | true => exact Or.inr ⟨hposts, ⟨none, none⟩, _, Or.inr rfl, rfl⟩
      | false => exact Or.inr ⟨hposts, s.localStorage, _, Or.inl rfl, rfl⟩
  · rw [if_neg hsent]
    exact Or.inr ⟨by simp [posts, hsent], s.localStorage, s.requests, Or.inl rfl, rfl⟩

/-- The token a tab may post has not been posted, unless another tab has it in
flight. -/
theorem Clean.not_posted_iff {s : State n} (h : Clean sha256 s) {tab : Fin n}
    (ht : s.localStorage.refresh_token = some t) (hidle : s.refreshInFlight tab = none) :
    t ∉ s.posted ↔ ∀ other : Fin n, other ≠ tab → ∀ call ∈ s.refreshInFlight other,
      s.localStorage.refresh_token ≠ some call.refresh_token := by
  constructor
  · intro hnot other _ call hcall heq
    rw [ht] at heq
    exact hnot (Option.some.inj heq ▸ h.2.call_posted other call hcall)
  · intro hall hposted
    obtain ⟨other, call, hcall, rfl⟩ := h.2.stored_in_flight t ht hposted
    refine hall other ?_ call hcall ht
    rintro rfl
    rw [hidle] at hcall
    exact absurd hcall (Option.some_ne_none call).symm

/-- A tab's refresh gets another reply. -/
theorem answered_update {calls : Fin n → Option RefreshCall} {tab : Fin n}
    {reply reply' : Reply} (hcall : calls tab = some ⟨t, reply⟩) {new : Option (Fin n × String)}
    (hissued : ∀ d, reply' = .issued d → new = some (tab, d.refresh_token)) :
    Answered calls (Function.update calls tab (some ⟨t, reply'⟩)) new where
  back := by
    intro i c' hc'
    rcases update_eq_some hc' with ⟨rfl, hnew⟩ | ⟨-, hc'⟩
    · cases hnew
      exact ⟨_, hcall, rfl⟩
    · exact ⟨c', hc', rfl⟩
  forth := by
    intro i c hc
    by_cases hi : i = tab
    · subst hi
      cases hcall.symm.trans hc
      exact ⟨_, Function.update_self _ _ _, rfl⟩
    · exact ⟨c, by rwa [Function.update_of_ne hi], rfl⟩
  replies := by
    intro i p d hd
    rcases update_eq_some hd with ⟨rfl, hnew⟩ | ⟨-, hd⟩
    · cases hnew
      exact Or.inr (hissued d rfl)
    · exact Or.inl hd

theorem deliver_answered (calls : Fin n → Option RefreshCall) (tab : Fin n) (t : String)
    (reply : Reply) :
    Answered calls (deliver calls tab t reply)
      (match reply with
        | .issued data => some (tab, data.refresh_token)
        | _ => none) := by
  unfold deliver
  split_ifs with hcall
  · refine answered_update hcall fun d hd => ?_
    rw [hd]
  · exact ⟨fun i c' hc' => ⟨c', hc', rfl⟩, fun i c hc => ⟨c, hc, rfl⟩, fun i p d hd => Or.inl hd⟩

theorem lose_answered {calls : Fin n → Option RefreshCall} {tab : Fin n} {call : RefreshCall}
    (hcall : calls tab = some call) :
    Answered calls (Function.update calls tab (some { call with reply := .failed })) none := by
  refine answered_update hcall fun d hd => ?_
  cases hd

/-- A post is served: its token is unused until then, and leaves the wire. -/
theorem Clean.serve {s : State n} (h : Clean sha256 s) (tab : Fin n) (t : String)
    (client : Client) (draw : Draw) (now : DateTime) :
    Clean sha256 (serve sha256 s tab t client draw now) := by
  unfold Browser.serve
  split_ifs with hwire
  · have hmem : t ∈ s.wire.map Prod.snd := List.mem_map.2 ⟨(tab, t), hwire, rfl⟩
    have hheld : Held s.localStorage.refresh_token s.refreshInFlight s.posted t :=
      .posted (h.2.wire_posted _ hwire)
    have hperm : (s.wire.map Prod.snd).Perm (t :: (s.wire.erase (tab, t)).map Prod.snd) :=
      (List.perm_cons_erase hwire).map Prod.snd
    have honce := hperm.nodup_iff.1 h.2.wire_once
    refine ⟨?_, h.2.answer (deliver_answered s.refreshInFlight tab t _)
      (fun x hx => List.mem_of_mem_erase hx) (List.nodup_cons.1 honce).2
      (later_step sha256 s.server _) (fun u hu hor => ?_) (fun x hx => ?_)⟩
    · rw [Bool.or_eq_false_iff]
      exact ⟨h.1, not_reuse (h.2.unused t hheld (Or.inr hmem))⟩
    · -- `t` itself is posted and no longer on the wire, so `u` is another token
      have hut : u ≠ t := by
        rintro rfl
        rcases hor with hnot | hin
        · exact hnot (h.2.wire_posted _ hwire)
        · exact (List.nodup_cons.1 honce).1 hin
      refine (h.2.unused u hu ?_).refresh (fun heq => hut (h.2.inj u t hu hheld heq.symm))
        client draw now
      rcases hor with hnot | hin
      · exact Or.inl hnot
      · exact Or.inr (hperm.mem_iff.2 (List.mem_cons_of_mem t hin))
    · -- only a reply that was issued brings a token
      cases hreply : reply_to sha256 s.server t client draw now with
      | issued data =>
        rw [hreply] at hx
        cases hx
        exact issued_of_reply hreply
      | pending => simp [hreply] at hx
      | failed => simp [hreply] at hx
  · exact h

theorem Clean.settle {s : State n} (h : Clean sha256 s) (tab : Fin n) :
    Clean sha256 (settle s tab) := by
  unfold Browser.settle
  split
  · rename_i presented data hcall
    -- the reply's token replaces the stored one
    refine ⟨h.1, h.2.settle (fun t ht => ?_)⟩
    exact ⟨presented, data, hcall, Option.some.inj ht⟩
  -- the refresh has failed, and the session is ended
  · exact ⟨h.1, h.2.settle (fun t ht => by simp [endSession] at ht)⟩
  · exact h

/-- **Every event**: as long as nothing is posted twice the tokens stay clean. -/
theorem Clean.step {s : State n} (h : Clean sha256 s) (e : Event n)
    (hposted : (step sha256 s e).posted.Nodup) : Clean sha256 (step sha256 s e) := by
  cases e with
  | call tab r auth_url =>
    rw [Browser.step]
    split_ifs
    · exact h
    · exact h
  | answer tab r =>
    rw [Browser.step]
    split_ifs
    · exact h
    · exact h
  | answer_401 tab r =>
    rcases answer_401_cases sha256 s tab r with
      ⟨-, t, ht, requests, hstep⟩ | ⟨-, storage, requests, hstorage, hstep⟩
    · rw [hstep] at hposted ⊢
      -- or else it would be posted twice now
      have hnew : t ∉ s.posted := by
        intro hmem
        exact (List.nodup_append.1 hposted).2.2 t hmem t (List.mem_singleton_self t) rfl
      exact ⟨h.1, h.2.post (refreshToken_eq ht) hnew⟩
    · rw [hstep]
      rcases hstorage with rfl | rfl
      · exact h
      · exact h.end_session
  | serve tab t client draw now => exact h.serve tab t client draw now
  | lose tab =>
    rw [Browser.step]
    split
    · rename_i call hcall
      exact ⟨h.1, h.2.answer (lose_answered hcall) (fun x hx => hx) h.2.wire_once
        (Later.refl s.server) (fun t ht hor => h.2.unused t ht hor) (by simp)⟩
    · exact h
  | settle tab => exact h.settle tab
  | sign_in user client draw now =>
    rw [Browser.step, sign_in]
    split
    · rename_i server data hissue
      obtain ⟨hissued, hlater, hunused⟩ := issued_of_sign_in hissue
      refine ⟨h.1, h.2.store hissued hlater (fun u hu hknown => hunused u hu ?_ hknown)⟩
      rintro rfl
      exact hissued.unknown hknown
    · exact h
  | sign_out now =>
    rw [Browser.step, sign_out]
    split
    · rename_i t _
      have hlogout : Clean sha256 { s with
          server := revoke_refresh_token sha256 s.server t "logout" now } :=
        ⟨h.1, h.2.revocation (later_step sha256 s.server (.logout t "logout" now))
          (fun u hu => hu.logout t "logout" now)⟩
      exact hlogout.end_session
    · exact h.end_session
  | revoke_all_for_user user_id reason now =>
    exact ⟨h.1, h.2.revocation
      (later_step sha256 s.server (.revoke_all_for_user user_id reason now))
      (fun u hu => hu.revoke _ reason now)⟩

/-! ## Replays -/

/-- A request is replayed once, when it stops waiting, and never waits again. -/
structure Paced (request : Request) : Prop where
  waiting : request.progress = .waiting → request._retried = false
  first : request._retried = false → request.replays = 0
  once : request.replays ≤ 1

theorem Paced.replay (h : Paced request) : Paced (replay request) := by
  unfold Browser.replay
  split_ifs with hwaiting
  · have h0 : request.replays = 0 := h.first (h.waiting hwaiting)
    exact ⟨by simp, by simp, by simp only [h0]; omega⟩
  · exact h

theorem Paced.reject (h : Paced request) : Paced (reject request) := by
  unfold Browser.reject
  split_ifs
  · exact ⟨by simp, h.first, h.once⟩
  · exact h

theorem paced_set_request {s : State n} (h : ∀ tab r, Paced (s.requests tab r)) (tab : Fin n)
    (r : ℕ) (hr : Paced request) :
    ∀ tab' r', Paced ((set_request s tab r request).requests tab' r') := by
  intro tab' r'
  by_cases htab : tab' = tab
  · subst htab
    by_cases hr' : r' = r
    · subst hr'
      simpa [set_request] using hr
    · simpa [set_request, hr'] using h tab' r'
  · simpa [set_request, htab] using h tab' r'

theorem paced_update {s : State n} (h : ∀ tab r, Paced (s.requests tab r)) (tab : Fin n)
    {f : Request → Request} (hf : ∀ q, Paced q → Paced (f q)) :
    ∀ tab' r', Paced (Function.update s.requests tab (fun r => f (s.requests tab r)) tab' r') := by
  intro tab' r'
  by_cases htab : tab' = tab
  · subst htab
    rw [Function.update_self]
    exact hf _ (h tab' r')
  · rw [Function.update_of_ne htab]
    exact h tab' r'

/-- A request is replayed only by the refresh it waits for, and it waits for one only once. -/
theorem paced_step {s : State n} (h : ∀ tab r, Paced (s.requests tab r)) (e : Event n) :
    ∀ tab r, Paced ((step sha256 s e).requests tab r) := by
  cases e with
  | call tab r auth_url =>
    rw [step]
    split_ifs
    · exact paced_set_request h tab r ⟨by simp, fun _ => rfl, Nat.zero_le 1⟩
    · exact h
  | answer tab r =>
    rw [step]
    split_ifs
    · exact paced_set_request h tab r ⟨by simp, (h tab r).first, (h tab r).once⟩
    · exact h
  | answer_401 tab r =>
    rw [step]
    split_ifs
    · -- it joins a refresh where it may, or is settled as refused
      rw [on_401]
      have hsettled : Paced { s.requests tab r with progress := .settled } :=
        ⟨by simp, (h tab r).first, (h tab r).once⟩
      by_cases hretry : canRetry s (s.requests tab r) = true
      · have hfirst : (s.requests tab r)._retried = false := by
          simp only [canRetry, Bool.and_eq_true, Bool.not_eq_true'] at hretry
          exact hretry.1.1
        have hjoined : ∀ tab' r', Paced ((refresh_or_join s tab).requests tab' r') := by
          unfold refresh_or_join
          split
          · exact h
          · exact h
        simp only [hretry, if_true]
        exact paced_set_request hjoined tab r
          ⟨fun _ => hfirst, (h tab r).first, (h tab r).once⟩
      · simp only [hretry]
        cases s.localStorage.token.isSome with
        | true => exact paced_set_request h tab r hsettled
        | false => exact paced_set_request h tab r hsettled
    · exact h
  | serve tab t client draw now =>
    rw [step, serve]
    split_ifs
    · exact h
    · exact h
  | lose tab =>
    rw [step]
    split
    · exact h
    · exact h
  | settle tab =>
    rw [step, settle]
    split
    · exact paced_update h tab (fun _ hq => hq.replay)
    · exact paced_update h tab (fun _ hq => hq.reject)
    · exact h
  | sign_in user client draw now =>
    rw [step, sign_in]
    split
    · exact h
    · exact h
  | sign_out now =>
    rw [step, sign_out]
    split
    · exact h
    · exact h
  | revoke_all_for_user user_id reason now => exact h

/-! ## Runs -/

/-- What holds of every state: the requests are paced, and the tokens clean
unless one has been posted twice. -/
structure Wf (sha256 : String → String) (s : State n) : Prop where
  paced : ∀ tab r, Paced (s.requests tab r)
  clean : s.posted.Nodup → Clean sha256 s

theorem Wf.honest {s : State n} (h : Wf sha256 s) (hposted : s.posted.Nodup) : Honest s :=
  ⟨hposted, (h.clean hposted).1, fun tab r => (h.paced tab r).once⟩

/-- Nothing but a 401 posts a refresh. -/
theorem posted_of_not_401 (s : State n) {e : Event n} (he : ∀ tab r, e ≠ .answer_401 tab r) :
    (step sha256 s e).posted = s.posted := by
  cases e with
  | answer_401 tab r => exact absurd rfl (he tab r)
  | call tab r auth_url =>
    rw [step]
    split_ifs <;> rfl
  | answer tab r =>
    rw [step]
    split_ifs <;> rfl
  | serve tab t client draw now =>
    rw [step, serve]
    split_ifs <;> rfl
  | lose tab =>
    rw [step]
    split <;> rfl
  | settle tab =>
    rw [step, settle]
    split <;> rfl
  | sign_in user client draw now =>
    rw [step, sign_in]
    split <;> rfl
  | sign_out now =>
    rw [step, sign_out]
    split <;> rfl
  | revoke_all_for_user user_id reason now => rfl

/-- What has been posted stays posted. -/
theorem posted_step (s : State n) (e : Event n) :
    s.posted <+: (step sha256 s e).posted := by
  by_cases he : ∀ tab r, e ≠ .answer_401 tab r
  · rw [posted_of_not_401 s he]
  · simp only [not_forall, not_not] at he
    obtain ⟨tab, r, rfl⟩ := he
    rcases answer_401_cases sha256 s tab r with
      ⟨-, t, -, requests, hstep⟩ | ⟨-, storage, requests, -, hstep⟩
    · rw [hstep]
      exact List.prefix_append _ _
    · rw [hstep]

theorem Wf.step {s : State n} (h : Wf sha256 s) (e : Event n) : Wf sha256 (step sha256 s e) where
  paced := paced_step h.paced e
  clean := fun hposted =>
    (h.clean (hposted.sublist (posted_step s e).sublist)).step e hposted

/-- **The deciding turn.** From an honest state, an event leads to an honest one
exactly if it does not post a token that another tab has in flight. -/
theorem honest_step_iff {s : State n} (h : Wf sha256 s) (hs : Honest s) (e : Event n) :
    Honest (step sha256 s e) ↔ NotInFlightElsewhere s e := by
  have hhonest : Honest (step sha256 s e) ↔ (step sha256 s e).posted.Nodup :=
    ⟨fun hn => hn.posted_once, (h.step e).honest⟩
  rw [hhonest]
  cases e with
  | answer_401 tab r =>
    rcases answer_401_cases sha256 s tab r with
      ⟨hposts, t, ht, requests, hstep⟩ | ⟨hposts, storage, requests, -, hstep⟩
    · have hidle : s.refreshInFlight tab = none := by
        simp only [posts, Bool.and_eq_true, Option.isNone_iff_eq_none] at hposts
        exact hposts.2
      have hnodup : (s.posted ++ [t]).Nodup ↔ t ∉ s.posted := by
        rw [List.nodup_append_comm, List.singleton_append, List.nodup_cons]
        exact and_iff_left hs.posted_once
      rw [hstep, hnodup, (h.clean hs.posted_once).not_posted_iff (refreshToken_eq ht) hidle]
      exact ⟨fun hall _ => hall, fun hall => hall hposts⟩
    · rw [hstep]
      refine iff_of_true hs.posted_once (fun htrue => ?_)
      rw [hposts] at htrue
      exact absurd htrue Bool.false_ne_true
  | call | answer | serve | lose | settle | sign_in | sign_out | revoke_all_for_user =>
    rw [posted_of_not_401 s (by simp)]
    exact iff_of_true hs.posted_once trivial

theorem wf_opened (sha256 : String → String) (n : ℕ) (server : Db) :
    Wf sha256 (opened n server) where
  paced := fun _ _ => ⟨by simp [opened], fun _ => rfl, Nat.zero_le 1⟩
  clean := by
    have hnone : ∀ t, ¬ Held (n := n) none (fun _ => none) [] t := by
      rintro t (ht | ht | ⟨i, p, d, hd, -⟩)
      · simp at ht
      · simp at ht
      · simp at hd
    intro _
    refine ⟨rfl, fun t ht => absurd ht (hnone t), fun a _ ha => absurd ha (hnone a), ?_, ?_, ?_,
      ?_, ?_, ?_, ?_, fun t ht => absurd ht (hnone t)⟩ <;> simp [opened]

/-- **Exactly which interleavings are honest.** However many tabs are open and
requests under way, in every state of the run no refresh token has been posted
twice, the server has seen no reuse and no request has been replayed twice, if
and only if no tab ever starts a refresh with the token that another tab is
refreshing. -/
theorem tabs_honest_iff (sha256 : String → String) (server : Db) (n : ℕ) (events : List (Event n)) :
    Runs.Always (step sha256) Honest (opened n server) events ↔
      Runs.Along (step sha256) NotInFlightElsewhere (opened n server) events := by
  have hwf := wf_opened sha256 n server
  have hstart : Honest (opened n server) := hwf.honest List.nodup_nil
  have hkeep : ∀ (s : State n) (e : Event n), Wf sha256 s → Wf sha256 (step sha256 s e) :=
    fun _ e h => h.step e
  have hexact : ∀ (s : State n) (e : Event n), Wf sha256 s → Honest s →
      (Honest (step sha256 s e) ↔ NotInFlightElsewhere s e) :=
    fun _ e h hs => honest_step_iff h hs e
  exact Runs.always_iff_along hkeep hexact hwf hstart events

/-- **Two tabs, one token**: both are told 401 before either refresh settles, and
the second post is reuse to the server. -/
theorem two_tabs_post_one_token :
    ¬ Runs.Always (step Auth.Sample.sha256) Honest (opened 2 (Db.fresh [Auth.Sample.alice]))
        Sample.two_tabs ∧
      (Runs.run (step Auth.Sample.sha256) (opened 2 (Db.fresh [Auth.Sample.alice]))
        Sample.two_tabs).reuse_detected = true := by
  refine ⟨fun h => ?_, by decide⟩
  have hend := (Runs.always_iff _ _ _).1 h Sample.two_tabs [] (List.append_nil _).symm
  exact absurd hend.no_reuse (by decide)

end EnvMgr.Auth.Browser

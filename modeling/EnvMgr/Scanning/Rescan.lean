/-
Scanning again after users have worked on the catalogue.

The second scan of the same declaration finds every subsystem where the first one
left it, so only its edge half matters. That half is refused as a whole when a
user has given some declared edge to another source; otherwise it replaces every
declared edge by one as the importer writes it.
-/
import EnvMgr.Scanning.Editing

namespace EnvMgr.Scanning

variable {d : ComponentDependency} {db₂ : Db}
variable {db₀ db₁ db₃ : Db} {es : DependencySource}

section

variable (system_id tenant_id : ℕ) (source : SubSystemSource)
  (edge_source : Option DependencySource) (declared : DeclaredState)

/-- One detector's write, in the savepoint the scanner puts around it. -/
def scan (db : Db) : Db :=
  commit_or_rollback db
    ((apply system_id tenant_id source db edge_source declared).map Prod.fst)

/-- An endpoint without its ids: what it documents. -/
def ComponentEndpoint.content (e : ComponentEndpoint) :
    Option HttpMethod × String × Option String :=
  (e.http_method, e.path, e.description)

/-- The edge `d` of `db` is in `db'` still, perhaps under another id, with what users
wrote on it. -/
def Keeps (db db' : Db) (d : ComponentDependency) : Prop :=
  ∃ d' ∈ db'.dependencies, d'.Clashes d ∧ d'.dependency_type = d.dependency_type ∧
    d'.direction = d.direction ∧ d'.protocol = d.protocol ∧ d'.label = d.label ∧
    (db'.endpoints_of d').map ComponentEndpoint.content =
      (db.endpoints_of d).map ComponentEndpoint.content
  deriving Decidable

/-- The row of an edge the declaration still has. -/
def StillDeclared (db : Db) (d : ComponentDependency) : Prop :=
  d ∈ db.dependencies ∧ d.tenant_id = tenant_id ∧
    ∃ key ∈ (declared_edges declared).keys, listed_pair db system_id tenant_id key =
      some (d.from_subsystem_id, d.to_subsystem_id)
  deriving Decidable

end

section

variable {system_id tenant_id : ℕ} {source : SubSystemSource}
  {edge_source : Option DependencySource} {declared : DeclaredState}

theorem keeps_self {db : Db} (hd : d ∈ db.dependencies) :
    Keeps db db d :=
  ⟨d, hd, ⟨rfl, rfl, rfl⟩, rfl, rfl, rfl, rfl, rfl⟩

/-- The loop over the subsystems, on what users left of a scanned catalogue. -/
theorem Scanned.loop_after_edits
    (h : Scanned system_id tenant_id source edge_source declared db₀ db₁) (hedits : Edited db₁ db₂) :
    ∃ st, declared.subsystems.foldlM (apply_subsystem system_id tenant_id source)
        { db := db₂
          existing := catalogue db₂ system_id tenant_id
          declared_ids := Index.empty
          result := ⟨0, 0, 0⟩ } = .ok st ∧ st.db.subsystems = db₂.subsystems := by
  have hcat : catalogue db₂ system_id tenant_id = catalogue db₁ system_id tenant_id :=
    catalogue_congr hedits.subsystems
  refine loop_again (fun name hname => ?_) fun name sub hsub => ?_
  · rw [hcat]
    exact (h.listed name).2 (Or.inr hname)
  · rw [hcat]
    exact h.stamped name sub hsub

/-- **The two ways a second scan ends.** -/
theorem rescan_cases (h : Scanned system_id tenant_id source (some es) declared db₀ db₁)
    (hedits : Edited db₁ db₂) :
    (∃ db₃, scan system_id tenant_id source (some es) declared db₂ = db₃ ∧
        Scanned system_id tenant_id source (some es) declared db₂ db₃ ∧
        db₃.subsystems = db₂.subsystems ∧
        ∀ d, StillDeclared system_id tenant_id declared db₂ d → d.source = es) ∨
      (scan system_id tenant_id source (some es) declared db₂ = db₂ ∧
        ∃ d, StillDeclared system_id tenant_id declared db₂ d ∧ d.source ≠ es) := by
  obtain ⟨st, hloop, hsubs⟩ := h.loop_after_edits hedits
  have hw : Written system_id tenant_id source db₂ declared.subsystems st :=
    (Written.start db₂).run hloop
  have hpair : listed_pair st.db system_id tenant_id = listed_pair db₂ system_id tenant_id :=
    listed_pair_congr hsubs
  rcases apply_edges_cases hw es with ⟨db₃, r, hok, hsubs₃, -, -, -, hfree⟩ |
    ⟨herr, key, pair, hdeclared, hkey, d, hd, hocc, hne⟩
  · -- no pair was occupied: every declared edge there was is the source's own
    have happly : apply system_id tenant_id source db₂ (some es) declared = .ok (db₃, r) :=
      apply_eq_ok.2 ⟨st, hloop, hok⟩
    refine Or.inl ⟨db₃, ?_, apply_scanned happly, hsubs₃.trans hsubs, ?_⟩
    · rw [scan, happly]
      rfl
    · rintro d ⟨hd, htenant, key, hmem, hkey⟩
      obtain ⟨edge, hedge⟩ := Index.mem_keys.1 hmem
      rw [← hpair] at hkey
      rw [← hw.dependencies] at hd
      exact hfree key _ (by rw [hedge]; nofun) hkey d hd ⟨rfl, rfl, htenant⟩
  · -- the savepoint is rolled back
    have happly : apply system_id tenant_id source db₂ (some es) declared
        = .error (.violates .uq_component_dep) := by
      unfold apply
      rw [hloop]
      exact herr
    refine Or.inr ⟨?_, d, ⟨?_, hocc.2.2, key, ?_, ?_⟩, hne⟩
    · rw [scan, happly]
      rfl
    · rwa [hw.dependencies] at hd
    · exact Index.mem_keys.2 (Option.ne_none_iff_exists'.1 hdeclared)
    · rw [hpair] at hkey
      rw [hkey, hocc.1, hocc.2.1]

/-- What an edge is replaced by keeps what was on it only if there was nothing on it. -/
theorem keeps_replaced (h : Scanned system_id tenant_id source (some es) declared db₂ db₃)
    (hsubs : db₃.subsystems = db₂.subsystems)
    (hd : StillDeclared system_id tenant_id declared db₂ d) :
    Keeps db₂ db₃ d ↔ d.AsImported ∧ db₂.endpoints_of d = [] := by
  obtain ⟨-, htenant, key, hmem, hkey⟩ := hd
  obtain ⟨edge, hedge⟩ := Index.mem_keys.1 hmem
  obtain ⟨d', hd', howned, hkey', -, himported⟩ := h.written key edge hedge
  rw [listed_pair_congr hsubs, hkey] at hkey'
  obtain ⟨hfrom, hto⟩ := Prod.mk.inj (Option.some.inj hkey')
  have hends : db₃.endpoints_of d' = [] := by
    refine List.filter_eq_nil_iff.2 fun e he => ?_
    simpa using h.undocumented d' hd' howned e he
  obtain ⟨htype, hdirection, hprotocol, hlabel⟩ := himported
  -- the pair has one edge, so what is kept is kept by the new row
  constructor
  · rintro ⟨d'', hd'', hpair, hattrs⟩
    obtain rfl : d'' = d' := db₃.uq_component_dep d'' hd'' d' hd'
      ⟨hpair.1.trans hfrom, hpair.2.1.trans hto, hpair.2.2.trans (htenant.trans howned.1.symm)⟩
    obtain ⟨htype', hdirection', hprotocol', hlabel', hcontent⟩ := hattrs
    refine ⟨⟨htype'.symm.trans htype, hdirection'.symm.trans hdirection,
      hprotocol'.symm.trans hprotocol, hlabel'.symm.trans hlabel⟩, ?_⟩
    rw [hends, List.map_nil] at hcontent
    exact List.map_eq_nil_iff.1 hcontent.symm
  · rintro ⟨⟨htype', hdirection', hprotocol', hlabel'⟩, hnone⟩
    refine ⟨d', hd', ⟨hfrom.symm, hto.symm, howned.1.trans htenant.symm⟩, htype.trans htype'.symm,
      hdirection.trans hdirection'.symm, hprotocol.trans hprotocol'.symm, hlabel.trans hlabel'.symm,
      ?_⟩
    rw [hends, hnone]

/-- An edge that is not the scan's to delete stays, with what is documented on it. -/
theorem Scanned.keeps_others (h : Scanned system_id tenant_id source edge_source declared db₂ db₃)
    (hd : d ∈ db₂.dependencies) (hother : ¬ Owned db₃ system_id tenant_id edge_source d) :
    d ∈ db₃.dependencies ∧ ∀ e, e ∈ db₃.endpoints_of d ↔ e ∈ db₂.endpoints_of d := by
  refine ⟨(h.others d hother).2 hd, fun e => ?_⟩
  simp only [Db.endpoints_of, Table.mem_select, decide_eq_true_eq, h.endpoints]
  constructor
  · rintro ⟨⟨he, -⟩, hid⟩
    exact ⟨he, hid⟩
  · rintro ⟨he, hid⟩
    refine ⟨⟨he, ?_⟩, hid⟩
    rintro ⟨d', hd', hid', howned⟩
    rw [Table.eq_of_key_eq hd' hd (hid'.trans hid)] at howned
    exact hother howned

/-- **What a second scan leaves of users' work.** A declared edge keeps its endpoints and
attributes exactly if it has no endpoints and the attributes the importer gives, or the
scan is refused because some declared edge has another source by now. An edge the source
does not own keeps everything. -/
theorem rescan_keeps (db₀ db₁ : Db) (system_id tenant_id : ℕ) (source : SubSystemSource)
    (edge_source : Option DependencySource) (declared : DeclaredState) (result : ApplyResult)
    (h : apply system_id tenant_id source db₀ edge_source declared = .ok (db₁, result))
    (edits : List Edit) :
    let db₂ := Runs.run edit_step db₁ edits
    let db₃ := scan system_id tenant_id source edge_source declared db₂
    (∀ d, StillDeclared system_id tenant_id declared db₂ d →
      (Keeps db₂ db₃ d ↔
        (d.AsImported ∧ db₂.endpoints_of d = []) ∨
          ∃ d', StillDeclared system_id tenant_id declared db₂ d' ∧
            some d'.source ≠ edge_source)) ∧
    ∀ d ∈ db₂.dependencies, ¬ Owned db₂ system_id tenant_id edge_source d →
      d ∈ db₃.dependencies ∧ ∀ e, e ∈ db₃.endpoints_of d ↔ e ∈ db₂.endpoints_of d := by
  intro db₂ db₃
  have hscanned := apply_scanned h
  have hedits : Edited db₁ db₂ := edits_edited db₁ edits
  cases edge_source with
  | none =>
    obtain ⟨-, -, hedges, -, -⟩ := apply_eq_ok.1 h
    constructor
    · -- a source without edges declares none
      rintro d ⟨-, -, key, hmem, -⟩
      obtain ⟨edge, hedge⟩ := Index.mem_keys.1 hmem
      rw [declared_edges_nil hedges] at hedge
      cases hedge
    · intro d hd _
      obtain ⟨st, hloop, -⟩ := hscanned.loop_after_edits hedits
      have happly : apply system_id tenant_id source db₂ none declared = .ok (st.db, st.result) :=
        apply_eq_ok.2 ⟨st, hloop, hedges, rfl, rfl⟩
      have hdb₃ : db₃ = st.db := by
        change commit_or_rollback _ _ = _
        rw [happly]
        rfl
      rw [hdb₃]
      exact (apply_scanned happly).keeps_others hd nofun
  | some es =>
    rcases rescan_cases hscanned hedits with
      ⟨_, rfl, hscanned₃, hsubs, hall⟩ | ⟨hrefused, d₀, hd₀, hne⟩
    · refine ⟨fun d hd => ?_, fun d hd hother => ?_⟩
      · rw [keeps_replaced hscanned₃ hsubs hd, iff_comm, or_iff_left]
        rintro ⟨d', hd', hne⟩
        exact hne (congrArg some (hall d' hd'))
      · refine hscanned₃.keeps_others hd ?_
        rw [owned_congr hsubs]
        exact hother
    · have hdb₃ : db₃ = db₂ := hrefused
      rw [hdb₃]
      refine ⟨fun d hd => ?_, fun d hd _ => ⟨hd, fun _ => Iff.rfl⟩⟩
      refine iff_of_true (keeps_self hd.1) (Or.inr ⟨d₀, hd₀, ?_⟩)
      exact fun heq => hne (Option.some.inj heq)

end

/-- A label and an endpoint, on the one edge that `compose` leaves. -/
def documenting : List Edit :=
  [.update_component_dependency 1 1 1
    { dependency_type := .omitted, protocol := .omitted, port := .omitted, source := .omitted,
      direction := .omitted, label := .value "orders" },
   .create_component_endpoint 1 1 1 ⟨some .GET, "/health", none⟩]

theorem rescan_keeps_documenting : ∃ db₁ result,
    apply 1 1 .DOCKER_COMPOSE Db.fresh (some .DOCKER_COMPOSE) compose = .ok (db₁, result) ∧
    let db₂ := Runs.run edit_step db₁ documenting
    let db₃ := scan 1 1 .DOCKER_COMPOSE (some .DOCKER_COMPOSE) compose db₂
    (∀ d, StillDeclared 1 1 compose db₂ d →
      (Keeps db₂ db₃ d ↔
        (d.AsImported ∧ db₂.endpoints_of d = []) ∨
          ∃ d', StillDeclared 1 1 compose db₂ d' ∧ some d'.source ≠ some .DOCKER_COMPOSE)) ∧
    ∀ d ∈ db₂.dependencies, ¬ Owned db₂ 1 1 (some .DOCKER_COMPOSE) d →
      d ∈ db₃.dependencies ∧ ∀ e, e ∈ db₃.endpoints_of d ↔ e ∈ db₂.endpoints_of d := by
  obtain ⟨⟨db₁, result⟩, h⟩ := eq_ok_of_isOk (x := apply 1 1 .DOCKER_COMPOSE Db.fresh
    (some .DOCKER_COMPOSE) compose) (by decide)
  exact ⟨db₁, result, h, rescan_keeps _ _ _ _ _ _ _ _ h documenting⟩

/-- The edge `api` to `db` is declared still, and a scan that goes through takes both
away. -/
theorem rescan_loses_documenting :
    let db₁ := scan 1 1 .DOCKER_COMPOSE (some .DOCKER_COMPOSE) compose Db.fresh
    let db₂ := Runs.run edit_step db₁ documenting
    let db₃ := scan 1 1 .DOCKER_COMPOSE (some .DOCKER_COMPOSE) compose db₂
    (apply 1 1 .DOCKER_COMPOSE Db.fresh (some .DOCKER_COMPOSE) compose).isOk = true ∧
      (apply 1 1 .DOCKER_COMPOSE db₂ (some .DOCKER_COMPOSE) compose).isOk = true ∧
      ∃ d ∈ db₂.dependencies, StillDeclared 1 1 compose db₂ d ∧ ¬ Keeps db₂ db₃ d := by
  decide

end EnvMgr.Scanning

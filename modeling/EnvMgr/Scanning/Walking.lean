/-
What a walk gives each detector.

The loop goes over the files, and each file goes to several detectors. Seen from one of
them, it is the fold of that detector's own outcomes over the files it claims: what it
declares in the end is the sum of what the files declare that could be read.
-/
import EnvMgr.Scanning.Scanner

namespace EnvMgr.Scanning

variable {paths : List String} {registry : Registry}

section

variable (client : GitHubClient) (ref : String)

/-- What comes of one file: an error's text, or what it declares. -/
def Detector.reads (d : Detector) (path : String) : Except String DeclaredState :=
  match client.get_blob path ref with
  | .error e => .error e.text
  | .ok content => d.parse content path

/-- What the file adds to what the detector declares. -/
def Detector.adds (d : Detector) (path : String) : DeclaredState :=
  (d.reads client ref path).toOption.getD DeclaredState.empty

/-- What the detector declares, of the files among `paths` that it claims. -/
def Detector.declares (d : Detector) (paths : List String) : DeclaredState :=
  (paths.filter d.matches_path).foldl (fun declared path => declared + d.adds client ref path)
    DeclaredState.empty

/-- One file, seen from one detector. -/
def DetectorWalk.read (walk : DetectorWalk) (path : String) : DetectorWalk :=
  if walk.detector.matches_path path then
    match client.get_blob path ref with
    | .error e => walk.failed path e
    | .ok content => walk.parsed path content
  else walk

end

section

variable {client : GitHubClient} {ref : String}

@[simp] theorem DeclaredState.add_empty (declared : DeclaredState) :
    declared + DeclaredState.empty = declared := by
  cases declared
  simp [HAdd.hAdd, Add.add, DeclaredState.empty]

theorem read_path_ok {walks walks' : List DetectorWalk} {path : String}
    (h : read_path client ref walks path = .ok walks') :
    walks' = walks.map fun walk => walk.read client ref path := by
  unfold read_path at h
  unfold DetectorWalk.read
  cases hblob : client.get_blob path ref with
  | ok content =>
    rw [hblob] at h
    exact (Except.ok.inj h).symm
  | error e =>
    rw [hblob] at h
    dsimp only at h
    split_ifs at h
    exact (Except.ok.inj h).symm

theorem read_paths_ok {walks walks' : List DetectorWalk}
    (h : paths.foldlM (read_path client ref) walks = .ok walks') :
    walks' = walks.map fun walk => paths.foldl (·.read client ref ·) walk := by
  induction paths generalizing walks with
  | nil =>
    cases h
    exact (List.map_id _).symm
  | cons path paths ih =>
    rw [List.foldlM_cons, bind_eq_ok] at h
    obtain ⟨mid, hstep, hrest⟩ := h
    rw [ih hrest, read_path_ok hstep, List.map_map]
    rfl

end

/-- One file, as the detector has it afterwards. -/
theorem DetectorWalk.read_spec (client : GitHubClient) (ref : String) (walk : DetectorWalk)
    (path : String) :
    (walk.read client ref path).detector = walk.detector ∧
      (walk.read client ref path).paths_unread = walk.paths_unread ∧
      (walk.read client ref path).declared =
        (if walk.detector.matches_path path then
          walk.declared + walk.detector.adds client ref path else walk.declared) ∧
      ((walk.read client ref path).errors = [] ↔ walk.errors = [] ∧
        (walk.detector.matches_path path = true →
          ∃ declared, walk.detector.reads client ref path = .ok declared)) := by
  unfold DetectorWalk.read
  by_cases hmatch : walk.detector.matches_path path = true
  swap
  · rw [if_neg hmatch, if_neg hmatch]
    exact ⟨rfl, rfl, rfl, by simp [hmatch]⟩
  rw [if_pos hmatch, if_pos hmatch, Detector.adds, Detector.reads]
  cases client.get_blob path ref with
  | error e => exact ⟨rfl, rfl, by simp [failed, Except.toOption], by simp [failed, hmatch]⟩
  | ok content =>
    simp only [parsed]
    cases walk.detector.parse content path with
    | error text => exact ⟨rfl, rfl, by simp [Except.toOption], by simp [hmatch]⟩
    | ok declared => exact ⟨rfl, rfl, rfl, by simp [hmatch]⟩

/-- All the files, as the detector has them afterwards. -/
theorem DetectorWalk.run_spec (client : GitHubClient) (ref : String) (walk : DetectorWalk)
    (paths : List String) :
    (paths.foldl (·.read client ref ·) walk).detector = walk.detector ∧
      (paths.foldl (·.read client ref ·) walk).paths_unread = walk.paths_unread ∧
      (paths.foldl (·.read client ref ·) walk).declared =
        (paths.filter walk.detector.matches_path).foldl
          (fun declared path => declared + walk.detector.adds client ref path) walk.declared ∧
      ((paths.foldl (·.read client ref ·) walk).errors = [] ↔ walk.errors = [] ∧
        ∀ path ∈ paths, walk.detector.matches_path path = true →
          ∃ declared, walk.detector.reads client ref path = .ok declared) := by
  induction paths generalizing walk with
  | nil => exact ⟨rfl, rfl, rfl, by simp⟩
  | cons path paths ih =>
    obtain ⟨hdetector, hunread, hdeclared, herrors⟩ := walk.read_spec client ref path
    obtain ⟨hdetector', hunread', hdeclared', herrors'⟩ := ih (walk.read client ref path)
    rw [hdetector] at hdetector' hdeclared' herrors'
    rw [List.foldl_cons, hdetector', hunread', hunread, hdeclared', herrors', herrors, hdeclared]
    refine ⟨rfl, rfl, ?_, ?_⟩
    · by_cases hmatch : walk.detector.matches_path path = true
      · rw [if_pos hmatch, List.filter_cons_of_pos hmatch, List.foldl_cons]
      · rw [if_neg hmatch, List.filter_cons_of_neg hmatch]
    · rw [List.forall_mem_cons, and_assoc]

/-! ## The result -/

/-- What a walk has of one detector. -/
structure Walked (client : GitHubClient) (ref : String) (read dropped : List String) (d : Detector)
    (walk : DetectorWalk) : Prop where
  detector : walk.detector = d
  declared : walk.declared = d.declares client ref read
  unread : walk.paths_unread = 0 ↔ ∀ path ∈ dropped, d.matches_path path = false
  errors : walk.errors = [] ↔ ∀ path ∈ read, d.matches_path path = true →
    ∃ declared, d.reads client ref path = .ok declared

theorem walked_run (client : GitHubClient) (ref : String) (read dropped : List String)
    (d : Detector) :
    Walked client ref read dropped d (read.foldl (·.read client ref ·) (d.started dropped)) := by
  obtain ⟨hdetector, hunread, hdeclared, herrors⟩ :=
    (d.started dropped).run_spec client ref read
  refine ⟨hdetector, hdeclared, ?_, ?_⟩
  · rw [hunread, Detector.started, List.length_eq_zero_iff, List.filter_eq_nil_iff]
    simp
  · rw [herrors]
    exact and_iff_right rfl

/-- What a walk that went through has read, and what it has of each detector. -/
theorem walk_repository_ok {max_scan_files : ℕ} {client : GitHubClient} {result : WalkResult}
    (h : walk_repository registry max_scan_files client = .ok result) :
    ∃ ref tree, client.get_default_branch = .ok ref ∧ client.get_tree ref = .ok tree ∧
      result.truncated = tree.truncated ∧
      result.stopped_early = decide ((claimed registry tree.paths).length > max_scan_files) ∧
      result.walks = registry.detectors.map fun d =>
        ((claimed registry tree.paths).take max_scan_files).foldl (·.read client ref ·)
          (d.started ((claimed registry tree.paths).drop max_scan_files)) := by
  simp only [walk_repository, bind_eq_ok, Except.ok.injEq] at h
  obtain ⟨ref, href, tree, htree, walks, hwalks, rfl⟩ := h
  refine ⟨ref, tree, href, htree, rfl, rfl, ?_⟩
  rw [read_paths_ok hwalks, List.map_map]
  rfl

/-- A detector claims the same of the claimed paths as of all of them. -/
theorem filter_claimed {d : Detector} (hd : d ∈ registry.detectors) (paths : List String) :
    (claimed registry paths).filter d.matches_path = paths.filter d.matches_path := by
  rw [claimed, List.filter_filter]
  refine List.filter_congr ?_
  intro path _
  rw [Bool.and_eq_left_iff_imp]
  intro hmatch
  exact List.any_eq_true.2 ⟨d, hd, hmatch⟩

theorem declares_claimed {d : Detector} (hd : d ∈ registry.detectors) (client : GitHubClient)
    (ref : String) (paths : List String) :
    d.declares client ref (claimed registry paths) = d.declares client ref paths := by
  rw [Detector.declares, filter_claimed hd, Detector.declares]

/-! ## Sums of declarations -/

section

variable {d : Detector} {client : GitHubClient} {ref : String}

theorem foldl_adds (paths : List String) (start : DeclaredState) :
    (paths.foldl (fun declared path => declared + d.adds client ref path) start).subsystems =
        start.subsystems ++ paths.flatMap (fun path => (d.adds client ref path).subsystems) ∧
      (paths.foldl (fun declared path => declared + d.adds client ref path) start).edges =
        start.edges ++ paths.flatMap (fun path => (d.adds client ref path).edges) := by
  induction paths generalizing start with
  | nil => simp
  | cons path paths ih =>
    obtain ⟨hsubs, hedges⟩ := ih (start + d.adds client ref path)
    rw [List.foldl_cons, hsubs, hedges, List.flatMap_cons, List.flatMap_cons, ← List.append_assoc,
      ← List.append_assoc]
    exact ⟨rfl, rfl⟩

theorem mem_declares_subsystems {sub : DeclaredSubsystem} :
    sub ∈ (d.declares client ref paths).subsystems ↔
      ∃ path ∈ paths, d.matches_path path = true ∧ sub ∈ (d.adds client ref path).subsystems := by
  rw [Detector.declares, (foldl_adds _ _).1, DeclaredState.empty, List.nil_append]
  simp only [List.mem_flatMap, List.mem_filter, and_assoc]

theorem mem_declares_edges {edge : DeclaredEdge} :
    edge ∈ (d.declares client ref paths).edges ↔
      ∃ path ∈ paths, d.matches_path path = true ∧ edge ∈ (d.adds client ref path).edges := by
  rw [Detector.declares, (foldl_adds _ _).2, DeclaredState.empty, List.nil_append]
  simp only [List.mem_flatMap, List.mem_filter, and_assoc]

/-- Two clients with the same outcomes give the same sum. -/
theorem declares_congr {client' : GitHubClient} (h : ∀ path ∈ paths, d.matches_path path = true →
      d.reads client ref path = d.reads client' ref path) :
    d.declares client ref paths = d.declares client' ref paths := by
  rw [Detector.declares, Detector.declares]
  refine List.foldl_ext _ _ _ ?_
  intro declared path hpath
  obtain ⟨hmem, hmatch⟩ := List.mem_filter.1 hpath
  rw [Detector.adds, Detector.adds, h path hmem hmatch]

end

end EnvMgr.Scanning

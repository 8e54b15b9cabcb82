/-
What there is to draw, said without the diagram.

An instance is a subsystem of the answer in one group: in its system, or on one of its
hosts. A dependency is an arrow from each instance of the one end to each instance of the
other. An arrow shows if both its ends have a type that is not hidden, and are not drawn as
one node. `Depicts` says that a graph is made of these instances and arrows, whatever ids it
gives them, and a graph that is can be drawn and counts them right.
-/
import EnvMgr.Topology.Collapse

namespace EnvMgr.Topology

open Scanning (ComponentDependency)

variable {data : EnvironmentTopologyResponse} {groupBy : GroupBy}

/-! ## Instances and arrows -/

structure Instance where
  position : ℕ
  node : EnvSubsystemNode
  group : String
  deriving DecidableEq

def groupsOf : GroupBy → EnvSubsystemNode → List String
  | .system, s => [toString s.system_id]
  | .host, s =>
    if s.hosts = [] then ["unassigned"]
    else s.hosts.map fun h => toString h.infrastructure_component_id

def outsideGroup : GroupBy → EnvSubsystemNode → String
  | .system, s => toString s.system_id
  | .host, _ => "external"

def placed (data : EnvironmentTopologyResponse) (groupBy : GroupBy) :
    List (EnvSubsystemNode × String) :=
  (data.subsystems.flatMap fun s => (groupsOf groupBy s).map fun k => (s, k)) ++
    data.outside_subsystems.map fun s => (s, outsideGroup groupBy s)

/-- Two instances are told apart by where they come in the list. -/
def number : ℕ → List (EnvSubsystemNode × String) → List Instance
  | _, [] => []
  | n, p :: ps => ⟨n, p.1, p.2⟩ :: number (n + 1) ps

def instances (data : EnvironmentTopologyResponse) (groupBy : GroupBy) : List Instance :=
  number 0 (placed data groupBy)

/-- An instance of the one end with an instance of the other. -/
def pairs (is : List Instance) (d : ComponentDependency) : List (Instance × Instance) :=
  (is.filter fun i => i.node.id = d.from_subsystem_id) ×ˢ
    (is.filter fun i => i.node.id = d.to_subsystem_id)

def arrows (data : EnvironmentTopologyResponse) (groupBy : GroupBy) : List (Instance × Instance) :=
  (data.dependencies ++ data.outside_dependencies).flatMap (pairs (instances data groupBy))

def Instance.Shown (hiddenTypes : Finset String) (i : Instance) : Prop :=
  i.node.component_type ∉ hiddenTypes
  deriving Decidable

/-- They are drawn as one node: they are one instance, or members of one folded group. -/
def Instance.Together (collapsedGroups : Finset String) (i j : Instance) : Prop :=
  i = j ∨ (i.group ∈ collapsedGroups ∧ i.group = j.group)
  deriving Decidable

/-- The arrows with two ends that show, at two different nodes. -/
def arrowCount (data : EnvironmentTopologyResponse) (groupBy : GroupBy)
    (hiddenTypes collapsedGroups : Finset String) : ℕ :=
  (arrows data groupBy).countP fun a =>
    a.1.Shown hiddenTypes ∧ a.2.Shown hiddenTypes ∧ ¬ a.1.Together collapsedGroups a.2

/-! ## Numbering -/

theorem number_append (n : ℕ) (ps qs : List (EnvSubsystemNode × String)) :
    number n (ps ++ qs) = number n ps ++ number (n + ps.length) qs := by
  induction ps generalizing n with
  | nil => rfl
  | cons p ps ih =>
    rw [List.cons_append, number, number, ih, List.cons_append, List.length_cons]
    congr 3
    omega

theorem map_number (n : ℕ) (ps : List (EnvSubsystemNode × String)) :
    (number n ps).map (fun i => (i.node, i.group)) = ps := by
  induction ps generalizing n with
  | nil => rfl
  | cons p ps ih => rw [number, List.map_cons, ih]

theorem length_number (n : ℕ) (ps : List (EnvSubsystemNode × String)) :
    (number n ps).length = ps.length := by
  have hlength := congrArg List.length (map_number n ps)
  rwa [List.length_map] at hlength

theorem number_position (n : ℕ) (ps : List (EnvSubsystemNode × String)) :
    (number n ps).map Instance.position = List.range' n ps.length := by
  induction ps generalizing n with
  | nil => rfl
  | cons p ps ih => rw [number, List.map_cons, ih, List.length_cons, List.range'_succ]

theorem instances_position_nodup (data : EnvironmentTopologyResponse) (groupBy : GroupBy) :
    ((instances data groupBy).map Instance.position).Nodup := by
  rw [instances, number_position]
  exact List.nodup_range'

theorem mem_placed {i : Instance}
    (h : i ∈ instances data groupBy) : (i.node, i.group) ∈ placed data groupBy := by
  have hmem := List.mem_map_of_mem (f := fun i : Instance => (i.node, i.group)) h
  rwa [instances, map_number] at hmem

/-- No group's name has the end of an arrow in it. -/
theorem group_plain {i : Instance} (h : i ∈ instances data groupBy) : '>' ∉ i.group.toList := by
  have htext : ∀ n : ℕ, '>' ∉ (toString n).toList := by
    intro n hmem
    exact absurd (isDigit_of_mem_toString hmem) (by decide)
  rcases List.mem_append.1 (mem_placed h) with hmem | hmem
  · obtain ⟨s, -, hk⟩ := List.mem_flatMap.1 hmem
    obtain ⟨k, hk, heq⟩ := List.mem_map.1 hk
    obtain ⟨-, rfl⟩ := Prod.mk.inj heq
    cases groupBy with
    | system =>
      rw [List.mem_singleton.1 hk]
      exact htext _
    | host =>
      dsimp only [groupsOf] at hk
      split_ifs at hk
      · rw [List.mem_singleton.1 hk]
        decide
      · obtain ⟨host, -, heq⟩ := List.mem_map.1 hk
        rw [← heq]
        exact htext _
  · obtain ⟨s, -, heq⟩ := List.mem_map.1 hmem
    obtain ⟨-, hgroup⟩ := Prod.mk.inj heq
    rw [← hgroup]
    cases groupBy with
    | system => exact htext _
    | host =>
      rw [outsideGroup]
      decide

theorem arrows_mem :
    ∀ a ∈ arrows data groupBy, a.1 ∈ instances data groupBy ∧ a.2 ∈ instances data groupBy := by
  intro a ha
  obtain ⟨d, -, hpair⟩ := List.mem_flatMap.1 ha
  obtain ⟨hi, hj⟩ := List.mem_product.1 hpair
  exact ⟨List.mem_of_mem_filter hi, List.mem_of_mem_filter hj⟩

/-! ## Depicting -/

/-- The ends of a dependency, as ids. -/
def VisibleDependency.ends (d : VisibleDependency) : ℕ × ℕ :=
  (d.from_subsystem_id, d.to_subsystem_id)

/-- The graph has a subsystem for each instance, with an id of its own, and a dependency for
each arrow. -/
structure Depicts (G : VisibilityInput) (g : Grouping) (is : List Instance)
    (as : List (Instance × Instance)) (ref : Instance → VisibleSubsystem) : Prop where
  subs : G.allSubs = is.map ref
  inj : ∀ i ∈ is, ∀ j ∈ is, (ref i).id = (ref j).id → i = j
  key : ∀ i ∈ is, g.keyOf (ref i) = i.group
  type : ∀ i ∈ is, (ref i).component_type = i.node.component_type
  deps : G.allDeps.map VisibleDependency.ends =
    as.map fun a => ((ref a.1).id, (ref a.2).id)
  deps_nodup : (G.allDeps.map (·.id)).Nodup
  closed : ∀ a ∈ as, a.1 ∈ is ∧ a.2 ∈ is
  nodup : is.Nodup
  plain : ∀ i ∈ is, '>' ∉ i.group.toList

section Depicted

variable {G : VisibilityInput} {g : Grouping} {is : List Instance}
  {as : List (Instance × Instance)} {ref : Instance → VisibleSubsystem}

theorem Depicts.drawable (h : Depicts G g is as ref) : Drawable G g where
  ids_nodup := by
    rw [h.subs, List.map_map]
    exact h.nodup.map_on fun i hi j hj hid => h.inj i hi j hj hid
  deps_nodup := h.deps_nodup
  closed := by
    intro d hd
    have hends := List.mem_map_of_mem (f := VisibleDependency.ends) hd
    rw [h.deps] at hends
    obtain ⟨a, ha, heq⟩ := List.mem_map.1 hends
    obtain ⟨hfrom, hto⟩ := Prod.mk.inj heq
    obtain ⟨hi, hj⟩ := h.closed a ha
    rw [h.subs]
    exact ⟨⟨_, List.mem_map_of_mem hi, hfrom⟩, _, List.mem_map_of_mem hj, hto⟩
  plain := by
    intro s hs
    rw [h.subs] at hs
    obtain ⟨i, hi, rfl⟩ := List.mem_map.1 hs
    rw [h.key i hi]
    exact h.plain i hi

theorem Depicts.mem (h : Depicts G g is as ref) {i : Instance} (hi : i ∈ is) :
    ref i ∈ G.allSubs := by
  rw [h.subs]
  exact List.mem_map_of_mem hi

/-- The arrows that the graph draws between different nodes. -/
theorem Depicts.countP_eq (h : Depicts G g is as ref) (collapsed : Finset String) :
    G.allDeps.countP (drawnApart G collapsed g) =
      as.countP fun a => ¬ a.1.Together collapsed a.2 := by
  have hends : G.allDeps.countP (drawnApart G collapsed g) =
      (G.allDeps.map VisibleDependency.ends).countP fun e =>
        displayNode G collapsed g e.1 ≠ displayNode G collapsed g e.2 := by
    rw [List.countP_map]
    rfl
  rw [hends, h.deps, List.countP_map]
  refine List.countP_congr ?_
  intro a ha
  obtain ⟨hi, hj⟩ := h.closed a ha
  have hsame := h.drawable.drawnAs_eq_iff collapsed (h.mem hi) (h.mem hj)
  have hone : ref a.1 = ref a.2 ↔ a.1 = a.2 :=
    ⟨fun heq => h.inj _ hi _ hj (by rw [heq]), fun heq => by rw [heq]⟩
  rw [h.key _ hi, h.key _ hj, hone] at hsame
  rw [Function.comp_apply, decide_eq_true_eq, decide_eq_true_eq,
    h.drawable.displayNode_eq (h.mem hi), h.drawable.displayNode_eq (h.mem hj), ne_eq, hsame]
  rfl

/-! ## Hiding types -/

theorem allSubs_visible (hidden : Finset String) (G : VisibilityInput) :
    (computeVisibleGraph hidden G).allSubs = G.allSubs.filter (visible hidden) := by
  rw [VisibilityInput.allSubs, VisibilityInput.allSubs, List.filter_append]
  rfl

theorem allDeps_visible (hidden : Finset String) (G : VisibilityInput) :
    (computeVisibleGraph hidden G).allDeps = G.allDeps.filter (bothSurvive hidden G) := by
  rw [VisibilityInput.allDeps, VisibilityInput.allDeps, List.filter_append]
  rfl

theorem survivingIds_eq (hidden : Finset String) (G : VisibilityInput) :
    survivingIds hidden G = (G.allSubs.filter (visible hidden)).map (·.id) := by
  rw [VisibilityInput.allSubs, List.filter_append, List.map_append]
  rfl

theorem Depicts.survives_iff (h : Depicts G g is as ref) (hidden : Finset String) {i : Instance}
    (hi : i ∈ is) : (ref i).id ∈ survivingIds hidden G ↔ i.Shown hidden := by
  have hvisible : visible hidden (ref i) = true ↔ i.Shown hidden := by
    rw [visible, decide_eq_true_eq, h.type i hi]
    rfl
  rw [survivingIds_eq, List.mem_map]
  constructor
  · rintro ⟨s, hs, hid⟩
    obtain ⟨hmem, hshown⟩ := List.mem_filter.1 hs
    rwa [h.drawable.eq_of_id hmem (h.mem hi) hid, hvisible] at hshown
  · intro hshown
    exact ⟨ref i, List.mem_filter.2 ⟨h.mem hi, hvisible.2 hshown⟩, rfl⟩

/-- An arrow of which both ends show. -/
def bothShown (hidden : Finset String) (a : Instance × Instance) : Bool :=
  a.1.Shown hidden ∧ a.2.Shown hidden

/-- **What is left when types are hidden** depicts the instances and arrows that show. -/
theorem Depicts.visible (h : Depicts G g is as ref) (hidden : Finset String) :
    Depicts (computeVisibleGraph hidden G) g (is.filter fun i => i.Shown hidden)
      (as.filter (bothShown hidden)) ref where
  subs := by
    rw [allSubs_visible, h.subs, List.filter_map]
    congr 1
    refine List.filter_congr ?_
    intro i hi
    rw [Function.comp_apply, Topology.visible, h.type i hi]
    rfl
  inj := fun i hi j hj => h.inj i (List.mem_of_mem_filter hi) j (List.mem_of_mem_filter hj)
  key := fun i hi => h.key i (List.mem_of_mem_filter hi)
  type := fun i hi => h.type i (List.mem_of_mem_filter hi)
  deps := by
    have hfilter : (G.allDeps.filter (bothSurvive hidden G)).map VisibleDependency.ends =
        (G.allDeps.map VisibleDependency.ends).filter fun e =>
          e.1 ∈ survivingIds hidden G ∧ e.2 ∈ survivingIds hidden G := by
      rw [List.filter_map]
      rfl
    rw [allDeps_visible, hfilter, h.deps, List.filter_map]
    congr 1
    refine List.filter_congr ?_
    intro a ha
    obtain ⟨hi, hj⟩ := h.closed a ha
    rw [Function.comp_apply, bothShown]
    simp only [h.survives_iff hidden hi, h.survives_iff hidden hj]
  deps_nodup := by
    rw [allDeps_visible]
    exact h.deps_nodup.sublist (List.filter_sublist.map _)
  closed := by
    intro a ha
    obtain ⟨hmem, hshown⟩ := List.mem_filter.1 ha
    rw [bothShown, decide_eq_true_eq] at hshown
    obtain ⟨hi, hj⟩ := h.closed a hmem
    exact ⟨List.mem_filter.2 ⟨hi, decide_eq_true hshown.1⟩,
      List.mem_filter.2 ⟨hj, decide_eq_true hshown.2⟩⟩
  nodup := h.nodup.filter _
  plain := fun i hi => h.plain i (List.mem_of_mem_filter hi)

end Depicted

end EnvMgr.Topology

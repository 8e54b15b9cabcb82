/-
What `computeCollapseModel` makes of a graph whose ids are distinct and whose
dependencies have their ends in it.

A subsystem is drawn as its group's node where the group is collapsed, and as itself
where it is not. The names of the two kinds of node cannot be confused, and neither can
the key of a bucket be taken apart in two ways. The rest is counting.
-/
import EnvMgr.Topology.Model
import Mathlib.Data.List.Flatten
import Std.Data.String.ToNat

namespace EnvMgr.Topology

variable {k : String} {s : VisibleSubsystem} {d : VisibleDependency}
variable {n : ℕ} {c : Char} {p x k' : String} {s' : VisibleSubsystem}

/-! ## Names of nodes -/

theorem isDigit_of_mem_toString (h : c ∈ (toString n).toList) :
    c.isDigit = true := by
  rw [Nat.toString_eq_repr, Nat.toList_repr] at h
  exact Nat.isDigit_of_mem_toDigits (by decide) (by decide) h

theorem toString_inj {m : ℕ} : toString m = toString n ↔ m = n := by
  rw [Nat.toString_eq_repr, Nat.toString_eq_repr, Nat.repr_inj]

/-- A name with a letter in its prefix is not the text of an id. -/
theorem prefixed_ne_toString (hp : c ∈ p.toList) (hc : c.isDigit = false) (k : String) (n : ℕ) :
    p ++ k ≠ toString n := by
  intro heq
  have hmem : c ∈ (toString n).toList := by
    rw [← heq, String.toList_append]
    exact List.mem_append_left _ hp
  rw [isDigit_of_mem_toString hmem] at hc
  cases hc

theorem sys_ne_toString (k : String) (n : ℕ) : "sys-" ++ k ≠ toString n :=
  prefixed_ne_toString (c := 's') (by decide) (by decide) k n

theorem group_ne_toString (k : String) (n : ℕ) : "group-" ++ k ≠ toString n :=
  prefixed_ne_toString (c := 'g') (by decide) (by decide) k n

theorem agg_ne_toString (k : String) (n : ℕ) : "agg:" ++ k ≠ toString n :=
  prefixed_ne_toString (c := 'a') (by decide) (by decide) k n

theorem append_inj_left (h : p ++ k = p ++ k') : k = k' := by
  have hlist := congrArg String.toList h
  rw [String.toList_append, String.toList_append] at hlist
  exact String.toList_inj.1 (List.append_cancel_left hlist)

theorem sys_ne_group (k k' : String) : "sys-" ++ k ≠ "group-" ++ k' := by
  intro h
  have hlist := congrArg (fun s => s.toList.head?) h
  rw [String.toList_append, String.toList_append] at hlist
  exact absurd hlist (by simp)

/-! ## What a subsystem is drawn as -/

/-- The graph can be drawn: an id names one node or one edge, the ends of the edges are
nodes, and no group's key has the end of an arrow in it. -/
structure Drawable (input : VisibilityInput) (g : Grouping) : Prop where
  ids_nodup : (input.allSubs.map (·.id)).Nodup
  deps_nodup : (input.allDeps.map (·.id)).Nodup
  closed : ∀ d ∈ input.allDeps,
    (∃ s ∈ input.allSubs, s.id = d.from_subsystem_id) ∧
      ∃ s ∈ input.allSubs, s.id = d.to_subsystem_id
  plain : ∀ s ∈ input.allSubs, '>' ∉ (g.keyOf s).toList

/-- The name of the node a subsystem is drawn as. -/
def drawnAs (collapsed : Finset String) (g : Grouping) (s : VisibleSubsystem) : String :=
  if g.keyOf s ∈ collapsed then "sys-" ++ g.keyOf s else toString s.id

section Draw

variable {input : VisibilityInput} {collapsed : Finset String} {g : Grouping}

theorem Drawable.eq_of_id (hd : Drawable input g) (hs : s ∈ input.allSubs)
    (hs' : s' ∈ input.allSubs) (h : s.id = s'.id) : s = s' :=
  List.inj_on_of_nodup_map hd.ids_nodup hs hs' h

theorem Drawable.groupOf_eq (hd : Drawable input g)
    (hs : s ∈ input.allSubs) : groupOf input g s.id = some (g.keyOf s) := by
  have hget : (Index.collect (fun s : VisibleSubsystem => some s.id) input.allSubs).get s.id =
      some s := by
    refine Index.get_collect_of_unique hs rfl ?_
    intro s' hs' hid
    exact hd.eq_of_id hs' hs (Option.some.inj hid)
  rw [groupOf, hget, Option.map_some]

theorem Drawable.displayNode_eq (hd : Drawable input g)
    (hs : s ∈ input.allSubs) : displayNode input collapsed g s.id = drawnAs collapsed g s := by
  rw [displayNode, hd.groupOf_eq hs, drawnAs]

/-- **Two subsystems are drawn as one node** exactly if they are one, or share a collapsed
group. -/
theorem Drawable.drawnAs_eq_iff (hd : Drawable input g) (collapsed : Finset String)
    (hs : s ∈ input.allSubs) (hs' : s' ∈ input.allSubs) :
    drawnAs collapsed g s = drawnAs collapsed g s' ↔
      s = s' ∨ (g.keyOf s ∈ collapsed ∧ g.keyOf s = g.keyOf s') := by
  constructor
  · intro h
    unfold drawnAs at h
    split_ifs at h with hk hk' hk'
    · exact Or.inr ⟨hk, append_inj_left h⟩
    · exact absurd h (sys_ne_toString _ _)
    · exact absurd h.symm (sys_ne_toString _ _)
    · exact Or.inl (hd.eq_of_id hs hs' (toString_inj.1 h))
  · rintro (rfl | ⟨hk, hkey⟩)
    · rfl
    · rw [drawnAs, drawnAs, ← hkey, if_pos hk, if_pos hk]

theorem Drawable.drawnAs_plain (hd : Drawable input g)
    (hs : s ∈ input.allSubs) : '>' ∉ (drawnAs collapsed g s).toList := by
  unfold drawnAs
  split_ifs
  · rw [String.toList_append, List.mem_append]
    rintro (hmem | hmem)
    · exact absurd hmem (by decide)
    · exact hd.plain s hs hmem
  · intro hmem
    exact absurd (isDigit_of_mem_toString hmem) (by decide)

/-! ## Nodes -/

/-- The nodes an edge can be attached to. -/
def ModelGroup.drawn (m : ModelGroup) : List String :=
  if m.collapsed then ["sys-" ++ m.groupId] else m.components.map fun c => toString c.id

def TopologyModel.drawn (model : TopologyModel) : List String := model.groups.flatMap (·.drawn)

/-- Every name on the canvas, the frames around the groups included. -/
def TopologyModel.nodeIds (model : TopologyModel) : List String :=
  (buildElkGraph model).flatMap fun n => n.id :: n.children

theorem Drawable.byGroup_eq (hd : Drawable input g) :
    byGroup input g = Index.group g.keyOf id input.allSubs := by
  unfold byGroup Index.group
  refine List.foldl_ext _ _ _ ?_
  intro d s hs
  simp only [hd.groupOf_eq hs, Option.getD_some]

theorem Drawable.mem_groups (hd : Drawable input g) {m : ModelGroup} :
    m ∈ (computeCollapseModel input collapsed g).groups ↔
      ∃ k, (∃ s ∈ input.allSubs, g.keyOf s = k) ∧
        m = modelGroup collapsed g k (input.allSubs.filter fun s => g.keyOf s = k) := by
  rw [computeCollapseModel, hd.byGroup_eq, List.mem_map]
  constructor
  · rintro ⟨⟨k, comps⟩, hi, rfl⟩
    obtain ⟨hk, rfl⟩ := Index.mem_group.1 hi
    exact ⟨k, hk, by rw [List.map_id]⟩
  · rintro ⟨k, hk, rfl⟩
    exact ⟨(k, _), Index.mem_group.2 ⟨hk, rfl⟩, by rw [List.map_id]⟩

/-- **Every subsystem is drawn.** -/
theorem Drawable.mem_drawn (hd : Drawable input g) (hs : s ∈ input.allSubs) :
    drawnAs collapsed g s ∈ (computeCollapseModel input collapsed g).drawn := by
  rw [TopologyModel.drawn, List.mem_flatMap]
  refine ⟨_, hd.mem_groups.2 ⟨g.keyOf s, ⟨s, hs, rfl⟩, rfl⟩, ?_⟩
  rw [ModelGroup.drawn, drawnAs, modelGroup]
  by_cases hk : g.keyOf s ∈ collapsed
  · simp [hk]
  · simp only [hk, decide_false, Bool.false_eq_true, if_false, List.mem_map]
    exact ⟨s, List.mem_filter.2 ⟨hs, by simp⟩, rfl⟩

/-- The names that a group puts on the canvas: its own, or a frame's and its members'. -/
theorem mem_elkNode {comps : List VisibleSubsystem} :
    x ∈ (elkNode (modelGroup collapsed g k comps)).id ::
        (elkNode (modelGroup collapsed g k comps)).children ↔
      (k ∈ collapsed ∧ x = "sys-" ++ k) ∨
        (k ∉ collapsed ∧ (x = "group-" ++ k ∨ ∃ c ∈ comps, toString c.id = x)) := by
  rw [elkNode, modelGroup]
  by_cases hk : k ∈ collapsed
  · simp [hk]
  · simp [hk]

/-- No name comes from two groups. -/
theorem Drawable.elkNode_disjoint (hd : Drawable input g) (hne : k ≠ k')
    (hx : x ∈ (elkNode (modelGroup collapsed g k (input.allSubs.filter (g.keyOf · = k)))).id ::
      (elkNode (modelGroup collapsed g k (input.allSubs.filter (g.keyOf · = k)))).children)
    (hx' : x ∈ (elkNode (modelGroup collapsed g k' (input.allSubs.filter (g.keyOf · = k')))).id ::
      (elkNode (modelGroup collapsed g k' (input.allSubs.filter (g.keyOf · = k')))).children) :
    False := by
  rw [mem_elkNode] at hx hx'
  rcases hx with ⟨-, rfl⟩ | ⟨-, rfl | ⟨c, hc, rfl⟩⟩
  · rcases hx' with ⟨-, heq⟩ | ⟨-, heq | ⟨c', -, heq⟩⟩
    · exact hne (append_inj_left heq)
    · exact sys_ne_group _ _ heq
    · exact sys_ne_toString _ _ heq.symm
  · rcases hx' with ⟨-, heq⟩ | ⟨-, heq | ⟨c', -, heq⟩⟩
    · exact sys_ne_group _ _ heq.symm
    · exact hne (append_inj_left heq)
    · exact group_ne_toString _ _ heq.symm
  · rcases hx' with ⟨-, heq⟩ | ⟨-, heq | ⟨c', hc', heq⟩⟩
    · exact sys_ne_toString _ _ heq.symm
    · exact group_ne_toString _ _ heq.symm
    · obtain ⟨hmem, hkey⟩ := List.mem_filter.1 hc
      obtain ⟨hmem', hkey'⟩ := List.mem_filter.1 hc'
      rw [decide_eq_true_eq] at hkey hkey'
      have hsame := hd.eq_of_id hmem' hmem (toString_inj.1 heq)
      exact hne (by rw [← hkey, ← hkey', hsame])

theorem Drawable.elkNode_nodup (hd : Drawable input g) (k : String) :
    ((elkNode (modelGroup collapsed g k (input.allSubs.filter (g.keyOf · = k)))).id ::
      (elkNode (modelGroup collapsed g k
        (input.allSubs.filter (g.keyOf · = k)))).children).Nodup := by
  rw [elkNode, modelGroup]
  by_cases hk : k ∈ collapsed
  · simp [hk]
  · have hids : ((input.allSubs.filter (g.keyOf · = k)).map (·.id)).Nodup :=
      hd.ids_nodup.sublist (List.filter_sublist.map _)
    have htexts := hids.map (f := fun n : ℕ => toString n) fun m n h => toString_inj.1 h
    rw [List.map_map] at htexts
    simp only [hk, decide_false, Bool.false_eq_true, if_false, List.nodup_cons]
    refine ⟨?_, htexts⟩
    rintro hmem
    obtain ⟨c, -, heq⟩ := List.mem_map.1 hmem
    exact group_ne_toString _ _ heq.symm

/-- **Node ids are distinct.** -/
theorem Drawable.nodeIds_nodup (hd : Drawable input g) :
    (computeCollapseModel input collapsed g).nodeIds.Nodup := by
  have hkeys := (byGroup input g).keys_nodup
  have hcomps : ∀ i ∈ (byGroup input g).items,
      i.2 = input.allSubs.filter (g.keyOf · = i.1) := by
    rintro ⟨k, comps⟩ hi
    rw [hd.byGroup_eq] at hi
    rw [(Index.mem_group.1 hi).2, List.map_id]
  rw [TopologyModel.nodeIds, buildElkGraph, computeCollapseModel, List.map_map, List.flatMap_map,
    List.nodup_flatMap]
  constructor
  · intro i hi
    rw [Function.comp_apply, hcomps i hi]
    exact hd.elkNode_nodup i.1
  · rw [List.Nodup, List.pairwise_map] at hkeys
    refine hkeys.imp_of_mem ?_
    intro i j hi hj hne x hx hx'
    dsimp only [Function.comp_apply] at hx hx'
    rw [hcomps i hi] at hx
    rw [hcomps j hj] at hx'
    exact hd.elkNode_disjoint hne hx hx'

/-! ## Edges -/

theorem toList_arrow (a b : String) :
    (a ++ "->" ++ b).toList = a.toList ++ ((['-'] ++ ['>']) ++ b.toList) := by
  rw [String.toList_append, String.toList_append, List.append_assoc]
  rfl

/-- Both ends of a dependency are drawn, under names an arrow can stand between. -/
theorem Drawable.ends (hd : Drawable input g) (collapsed : Finset String) (h : d ∈ input.allDeps) :
    ∃ s ∈ input.allSubs, ∃ t ∈ input.allSubs,
      s.id = d.from_subsystem_id ∧ t.id = d.to_subsystem_id ∧
        displayNode input collapsed g d.from_subsystem_id = drawnAs collapsed g s ∧
        displayNode input collapsed g d.to_subsystem_id = drawnAs collapsed g t := by
  obtain ⟨⟨s, hs, hfrom⟩, t, ht, hto⟩ := hd.closed d h
  exact ⟨s, hs, t, ht, hfrom, hto, by rw [← hfrom, hd.displayNode_eq hs],
    by rw [← hto, hd.displayNode_eq ht]⟩

theorem Drawable.displayNode_plain (hd : Drawable input g) (collapsed : Finset String)
    (h : d ∈ input.allDeps) :
    '>' ∉ (displayNode input collapsed g d.from_subsystem_id).toList := by
  obtain ⟨s, hs, -, -, -, -, hfrom, -⟩ := hd.ends collapsed h
  rw [hfrom]
  exact hd.drawnAs_plain hs

theorem modelEdge_ends (key : String) (deps : List VisibleDependency) :
    (modelEdge key deps).source =
        String.ofList (key.toList.take (Joined.indexOf "->".toList key.toList)) ∧
      (modelEdge key deps).target =
        String.ofList (key.toList.drop (Joined.indexOf "->".toList key.toList + 2)) := by
  unfold modelEdge
  split
  · exact ⟨rfl, rfl⟩
  · exact ⟨rfl, rfl⟩

theorem modelEdge_count (key : String) (deps : List VisibleDependency) :
    (modelEdge key deps).aggregatedCount = deps.length := by
  unfold modelEdge
  split
  · rfl
  · rfl

/-- The ends that are read back from a bucket's key are those it was made of. -/
theorem Drawable.modelEdge_bucket (hd : Drawable input g) (collapsed : Finset String)
    (h : d ∈ input.allDeps) (deps : List VisibleDependency) :
    (modelEdge (bucketKey input collapsed g d) deps).source =
        displayNode input collapsed g d.from_subsystem_id ∧
      (modelEdge (bucketKey input collapsed g d) deps).target =
        displayNode input collapsed g d.to_subsystem_id := by
  have hplain := hd.displayNode_plain collapsed h
  have hdash : '>' ∉ ['-'] := by decide
  obtain ⟨hsource, htarget⟩ := modelEdge_ends (bucketKey input collapsed g d) deps
  rw [bucketKey, toList_arrow] at hsource htarget
  rw [bucketKey, hsource, htarget]
  constructor
  · exact (congrArg String.ofList (Joined.take_indexOf_join hplain hdash)).trans
      String.ofList_toList
  · exact (congrArg String.ofList (Joined.drop_indexOf_join hplain hdash)).trans
      String.ofList_toList

/-- A bucket holds the dependencies between one node and another. -/
theorem Drawable.mem_buckets {deps : List VisibleDependency}
    (h : (k, deps) ∈ (buckets input collapsed g).items) :
    deps ≠ [] ∧ ∀ d ∈ deps, d ∈ input.allDeps ∧ bucketKey input collapsed g d = k := by
  obtain ⟨⟨d, hd, hkey⟩, rfl⟩ := Index.mem_group.1 h
  rw [List.map_id]
  constructor
  · exact List.ne_nil_of_mem (List.mem_filter.2 ⟨hd, decide_eq_true hkey⟩)
  · intro d' hd'
    obtain ⟨hmem, hkey'⟩ := List.mem_filter.1 hd'
    exact ⟨List.mem_of_mem_filter hmem, of_decide_eq_true hkey'⟩

/-- **Nothing dangles.** -/
theorem Drawable.edge_ends (hd : Drawable input g) {e : ModelEdge}
    (he : e ∈ (computeCollapseModel input collapsed g).edges) :
    e.source ∈ (computeCollapseModel input collapsed g).drawn ∧
      e.target ∈ (computeCollapseModel input collapsed g).drawn := by
  obtain ⟨⟨k, deps⟩, hi, rfl⟩ := List.mem_map.1 he
  obtain ⟨hne, hall⟩ := Drawable.mem_buckets hi
  obtain ⟨d, hdeps⟩ := List.exists_mem_of_ne_nil deps hne
  obtain ⟨hmem, rfl⟩ := hall d hdeps
  obtain ⟨hsource, htarget⟩ := hd.modelEdge_bucket collapsed hmem deps
  obtain ⟨s, hs, t, ht, -, -, hfrom, hto⟩ := hd.ends collapsed hmem
  dsimp only
  rw [hsource, htarget, hfrom, hto]
  exact ⟨hd.mem_drawn hs, hd.mem_drawn ht⟩

/-- The name of an edge: that of its one dependency, or of its bucket. -/
theorem modelEdge_id (key : String) (deps : List VisibleDependency) :
    (∃ d, deps = [d] ∧ (modelEdge key deps).id = toString d.id) ∨
      (modelEdge key deps).id = "agg:" ++ key := by
  unfold modelEdge
  split
  · exact Or.inl ⟨_, rfl, rfl⟩
  · exact Or.inr rfl

/-- **Edge ids are distinct.** -/
theorem Drawable.edgeIds_nodup (hd : Drawable input g) :
    ((computeCollapseModel input collapsed g).edges.map ModelEdge.id).Nodup := by
  rw [computeCollapseModel, List.map_map]
  refine List.Nodup.map_on ?_ (buckets input collapsed g).keys_nodup.of_map
  rintro ⟨k, deps⟩ hi ⟨k', deps'⟩ hi' heq
  have hkeys : k = k' := by
    dsimp only [Function.comp_apply] at heq
    rcases modelEdge_id k deps with ⟨d, rfl, hid⟩ | hid
    · rcases modelEdge_id k' deps' with ⟨d', rfl, hid'⟩ | hid'
      · rw [hid, hid'] at heq
        obtain ⟨hmem, hkey⟩ := (Drawable.mem_buckets hi).2 d (List.mem_singleton_self d)
        obtain ⟨hmem', hkey'⟩ := (Drawable.mem_buckets hi').2 d' (List.mem_singleton_self d')
        have hsame := List.inj_on_of_nodup_map hd.deps_nodup hmem hmem' (toString_inj.1 heq)
        rw [← hkey, ← hkey', hsame]
      · rw [hid, hid'] at heq
        exact absurd heq.symm (agg_ne_toString _ _)
    · rcases modelEdge_id k' deps' with ⟨d', rfl, hid'⟩ | hid'
      · rw [hid, hid'] at heq
        exact absurd heq (agg_ne_toString _ _)
      · rw [hid, hid'] at heq
        exact append_inj_left heq
  subst hkeys
  rw [Index.value_eq hi hi']

/-- **Nothing is lost**: the edges stand for the dependencies between different nodes. -/
theorem sum_aggregatedCount (input : VisibilityInput) (collapsed : Finset String) (g : Grouping) :
    ((computeCollapseModel input collapsed g).edges.map ModelEdge.aggregatedCount).sum =
      input.allDeps.countP (drawnApart input collapsed g) := by
  have hcounts : (computeCollapseModel input collapsed g).edges.map ModelEdge.aggregatedCount =
      (buckets input collapsed g).items.map fun i => i.2.length := by
    rw [computeCollapseModel, List.map_map]
    exact List.map_congr_left fun i _ => modelEdge_count i.1 i.2
  rw [hcounts, buckets, Index.sum_length_group, List.countP_eq_length_filter]

end Draw

end EnvMgr.Topology

/-
The colour of a RAID item.

The score of an item is probability times impact, and its colour is the first band of the
tenant's configuration that the score lies in. `rag` computes it; the list filters on it
in SQL, where a band says which earlier bands it gives way to.
-/
import EnvMgr.Lib.Sql
import EnvMgr.Raid.Service

namespace EnvMgr.Raid

open Sql (Condition Truth)

/-! ## Scores and colours -/

/-- `min` and `max` are part of it. -/
structure Band where
  min : ℤ
  max : ℤ
  rag : String
  deriving DecidableEq

/-- The levels of a scale are only counted. -/
structure RaidConfig where
  probability_scale : List String
  impact_scale : List String
  rag_bands : List Band
  deriving DecidableEq

def Value.as_number : Value → Option ℤ
  | .number n => some n
  | _ => none

def Value.as_instant : Value → Option DateTime
  | .instant dt => some dt
  | _ => none

def RaidItem.probability (item : RaidItem) : Option ℤ := (item.columns .probability).as_number

def RaidItem.impact (item : RaidItem) : Option ℤ := (item.columns .impact).as_number

def RaidItem.review_date (item : RaidItem) : Option DateTime :=
  (item.columns .review_date).as_instant

/-- `None` if either factor is unset. -/
def severity (probability impact : Option ℤ) : Option ℤ :=
  match probability, impact with
  | some probability, some impact => some (probability * impact)
  | _, _ => none

def RaidItem.severity (item : RaidItem) : Option ℤ := Raid.severity item.probability item.impact

def Band.contains (band : Band) (sev : ℤ) : Bool := band.min ≤ sev ∧ sev ≤ band.max

/-- The first band that the score lies in. -/
def rag (sev : Option ℤ) (bands : List Band) : Option String :=
  match sev with
  | none => none
  | some sev => (bands.find? fun band => band.contains sev).map Band.rag

/-! ## The filter -/

/-- The loop over the bands; `earlier` are those it has been through. -/
def matching (wanted : String) : List Band → List Band → List (Condition Band)
  | _, [] => []
  | earlier, band :: bands =>
    if band.rag = wanted then
      earlier.foldl (fun cond prev => .and_ cond (.not_ (.test prev))) (.test band) ::
        matching wanted (earlier ++ [band]) bands
    else matching wanted (earlier ++ [band]) bands

def _rag_sql_condition (bands : List Band) (wanted : String) : Condition Band :=
  Condition.any (matching wanted [] bands)

/-- `severity_expr.between(band["min"], band["max"])`. -/
def between (sev : Option ℤ) (band : Band) : Truth := Sql.compare band.contains sev

/-! ## The condition picks the colour -/

theorem rag_cons (sev : ℤ) (band : Band) (bands : List Band) :
    rag (some sev) (band :: bands) =
      if band.contains sev = true then some band.rag else rag (some sev) bands := by
  by_cases hband : band.contains sev = true
  · simp [rag, hband]
  · simp [rag, hband]

/-- A band under the bands it gives way to. -/
theorem selects_guarded {holds : Band → Truth} {cond : Condition Band} {earlier : List Band} :
    (earlier.foldl (fun cond prev => Condition.and_ cond (.not_ (.test prev))) cond).Selects
        holds ↔
      cond.Selects holds ∧ ∀ prev ∈ earlier, holds prev = some false := by
  induction earlier generalizing cond with
  | nil => simp
  | cons prev earlier ih =>
    rw [List.foldl_cons, ih, Condition.selects_and, Condition.selects_not, Condition.refuses_test,
      List.forall_mem_cons, and_assoc]

theorem mem_tests_guarded {cond : Condition Band} {earlier : List Band} {band : Band} :
    band ∈ (earlier.foldl (fun cond prev => Condition.and_ cond (.not_ (.test prev))) cond).tests ↔
      band ∈ cond.tests ∨ band ∈ earlier := by
  induction earlier generalizing cond with
  | nil => simp
  | cons prev earlier ih =>
    rw [List.foldl_cons, ih]
    simp only [Condition.tests, List.mem_append, List.mem_cons, List.not_mem_nil, false_or, or_assoc]

/-- Of an item with a score, one of the conditions holds exactly if no band before has
claimed it and the first band of the rest that does is of the colour. -/
theorem matching_selects {wanted : String} {sev : ℤ} {earlier bands : List Band} :
    (∃ cond ∈ matching wanted earlier bands, cond.Selects (between (some sev))) ↔
      (∀ prev ∈ earlier, prev.contains sev = false) ∧ rag (some sev) bands = some wanted := by
  have hbetween : ∀ (band : Band) (b : Bool),
      between (some sev) band = some b ↔ band.contains sev = b := by
    intro band b
    simp [between, Sql.compare]
  -- the induction is on the bands to come, whatever those that were passed
  induction bands generalizing earlier with
  | nil => simp [matching, rag]
  | cons band bands ih =>
    have hrest : (∃ cond ∈ matching wanted (earlier ++ [band]) bands,
        cond.Selects (between (some sev))) ↔
          (∀ prev ∈ earlier, prev.contains sev = false) ∧ band.contains sev = false ∧
            rag (some sev) bands = some wanted := by
      refine Iff.trans ih ?_
      rw [List.forall_mem_append, List.forall_mem_singleton, and_assoc]
    rw [rag_cons]
    by_cases hwanted : band.rag = wanted
    · rw [matching, if_pos hwanted]
      simp only [List.mem_cons, exists_eq_or_imp, hrest, selects_guarded, Condition.selects_test,
        hbetween]
      by_cases hband : band.contains sev = true
      · simp [hband, hwanted]
      · simp [hband]
    · rw [matching, if_neg hwanted, hrest]
      by_cases hband : band.contains sev = true
      · simp [hband, hwanted]
      · simp [hband]

/-- Without a score every band is unknown, and no condition holds. -/
theorem matching_unset {wanted : String} {earlier bands : List Band} :
    ¬ ∃ cond ∈ matching wanted earlier bands, cond.Selects (between none) := by
  induction bands generalizing earlier with
  | nil => simp [matching]
  | cons band bands ih =>
    by_cases hwanted : band.rag = wanted
    · rw [matching, if_pos hwanted]
      simp only [List.mem_cons, exists_eq_or_imp, selects_guarded, Condition.selects_test, ih,
        or_false]
      rintro ⟨hselects, -⟩
      cases hselects
    · rw [matching, if_neg hwanted]
      exact ih

/-- **The filter is the function.** -/
theorem rag_sql_condition_selects (bands : List Band) (wanted : String) (sev : Option ℤ) :
    (_rag_sql_condition bands wanted).Selects (between sev) ↔ rag sev bands = some wanted := by
  rw [_rag_sql_condition, Condition.selects_any]
  cases sev with
  | none => exact iff_of_false matching_unset nofun
  | some sev => rw [matching_selects]; simp

theorem tests_matching {wanted : String} {earlier bands : List Band} {band : Band}
    (h : ∃ cond ∈ matching wanted earlier bands, band ∈ cond.tests) : band ∈ earlier ++ bands := by
  induction bands generalizing earlier with
  | nil => simp [matching] at h
  | cons next bands ih =>
    have hrest : (∃ cond ∈ matching wanted (earlier ++ [next]) bands, band ∈ cond.tests) →
        band ∈ earlier ++ next :: bands := by
      intro hmem
      simpa using ih hmem
    by_cases hwanted : next.rag = wanted
    · rw [matching, if_pos hwanted] at h
      simp only [List.mem_cons, exists_eq_or_imp, mem_tests_guarded, Condition.tests,
        List.not_mem_nil, or_false] at h
      rcases h with (rfl | hearlier) | hmem
      · simp
      · exact List.mem_append_left _ hearlier
      · exact hrest hmem
    · rw [matching, if_neg hwanted] at h
      exact hrest h

/-- Its own band is in the condition of a colour. -/
theorem mem_tests_matching {wanted : String} {earlier bands : List Band} {band : Band}
    (hmem : band ∈ bands) (hwanted : band.rag = wanted) :
    ∃ cond ∈ matching wanted earlier bands, band ∈ cond.tests := by
  induction bands generalizing earlier with
  | nil => cases hmem
  | cons next bands ih =>
    rcases List.mem_cons.1 hmem with rfl | hmem
    · rw [matching, if_pos hwanted]
      refine ⟨_, List.mem_cons_self, mem_tests_guarded.2 (Or.inl ?_)⟩
      exact List.mem_singleton.2 rfl
    · obtain ⟨cond, hcond, htest⟩ := @ih (earlier ++ [next]) hmem
      by_cases hnext : next.rag = wanted
      · rw [matching, if_pos hnext]
        exact ⟨cond, List.mem_cons_of_mem _ hcond, htest⟩
      · rw [matching, if_neg hnext]
        exact ⟨cond, hcond, htest⟩

end EnvMgr.Raid

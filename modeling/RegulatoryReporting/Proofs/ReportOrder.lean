import Mathlib.Data.List.Basic
import RegulatoryReporting.Report

/-!
# The Order and the Counts of a Report

A report is made of findings in whatever order they come. This module describes the order in
which the report has them without reference to how it is made: failed findings before passed
ones, the more severe ones first, and findings of one rank as they came. There is exactly one
such order for every list of findings, and putting findings in order again changes nothing.

The verdict and the counts do not depend on the order at all. They are made separately, the one
by looking for failures and the other by counting, but the verdict can be read off the counts,
and both can be put together from parts: counts are added, and of two verdicts the worse one
holds.

## Main results

* `isStableSortOf_iff` — the findings of a report are the one stable sort of what was found.
* `filter_sortFindings` — leaving findings out commutes with sorting.
* `countP_sortFindings` — the order of a report does not change what is counted.
* `ValidationReport.isAggregation_ofFindings` — the laws of reports together.
-/

namespace RegulatoryReporting

/-! ### The order of findings -/

/-- A finding may stand before another: it has failed and the other has passed, or both have
failed or passed and it is no less severe. -/
def Finding.Precedes (f g : Finding) : Prop :=
  f.passed = false ∧ g.passed = true ∨
    f.passed = g.passed ∧ f.severity.rank ≤ g.severity.rank

/-- A list holds the findings of another in report order, those of one rank as they were. -/
structure IsStableSortOf (gs fs : List Finding) : Prop where
  perm : gs.Perm fs
  sorted : gs.Pairwise Finding.Precedes
  stable : ∀ passed severity,
    gs.filter (fun f => f.passed == passed && f.severity == severity) =
      fs.filter fun f => f.passed == passed && f.severity == severity

/-- Sorting does not change how many findings satisfy a predicate: each finding has one
rank, and is taken once. -/
theorem countP_sortFindings (q : Finding → Bool) (fs : List Finding) :
    (sortFindings fs).countP q = fs.countP q := by
  induction fs with
  | nil => rfl
  | cons f fs ih =>
    simp only [sortFindings, findingRanks, Severity.all, List.flatMap_cons, List.flatMap_nil,
      List.map_cons, List.map_nil, List.cons_append, List.nil_append, List.append_nil,
      List.countP_append, List.countP_filter, List.countP_cons] at ih ⊢
    rw [← ih]
    obtain ⟨passed, severity⟩ := f.rank
    cases passed <;> cases severity <;> simp <;> omega

/-- Sorting keeps the findings. -/
theorem sortFindings_perm (fs : List Finding) : (sortFindings fs).Perm fs :=
  List.perm_iff_count.2 fun f => countP_sortFindings (· == f) fs

/-- Leaving findings out of a sorted list is sorting what is left. -/
theorem filter_sortFindings (q : Finding → Bool) (fs : List Finding) :
    (sortFindings fs).filter q = sortFindings (fs.filter q) := by
  rw [sortFindings, sortFindings, List.filter_flatMap]
  refine List.flatMap_congr fun rank _ => ?_
  rw [List.filter_filter, List.filter_filter]
  exact List.filter_congr fun f _ => Bool.and_comm _ _

/-- One rank stands before another. -/
def RankBefore (a b : Bool × Severity) : Prop :=
  a.1 = false ∧ b.1 = true ∨ a.1 = b.1 ∧ a.2.rank < b.2.rank

instance : DecidableRel RankBefore :=
  fun _ _ => inferInstanceAs (Decidable (_ ∨ _))

/-- The ranks go from failed to passed and from severe to less severe. -/
theorem pairwise_findingRanks : findingRanks.Pairwise RankBefore := by
  decide

/-- A finding that may stand before another is not of a later rank. -/
theorem Finding.Precedes.not_rankBefore {f g : Finding} (h : f.Precedes g) :
    ¬ RankBefore g.rank f.rank := by
  rintro (⟨hg, hf⟩ | ⟨hsame, hlt⟩) <;> rcases h with ⟨hf', hg'⟩ | ⟨hsame', hle⟩ <;>
    simp_all [rank]
  omega

/-- Findings of one rank may stand in any order. -/
theorem pairwise_filter_rank (fs : List Finding) (r : Bool × Severity) :
    (fs.filter fun f => f.rank == r).Pairwise Finding.Precedes := by
  refine List.pairwise_of_forall_mem_list fun f hf g hg => .inr ?_
  have hsame : f.rank = g.rank :=
    (eq_of_beq (List.mem_filter.1 hf).2).trans (eq_of_beq (List.mem_filter.1 hg).2).symm
  exact ⟨congrArg Prod.fst hsame, Nat.le_of_eq (congrArg (·.2.rank) hsame)⟩

/-- Sorted findings are in report order. -/
theorem pairwise_sortFindings (fs : List Finding) :
    (sortFindings fs).Pairwise Finding.Precedes := by
  rw [sortFindings, List.pairwise_flatMap]
  refine ⟨fun r _ => pairwise_filter_rank fs r, ?_⟩
  refine pairwise_findingRanks.imp fun {a b} hbefore f hf g hg => ?_
  obtain rfl : f.rank = a := eq_of_beq (List.mem_filter.1 hf).2
  obtain rfl : g.rank = b := eq_of_beq (List.mem_filter.1 hg).2
  exact hbefore.imp_right (And.imp_right Nat.le_of_lt)

/-- A finding that may stand before all others is the first of the sorted ones. -/
theorem sortFindings_cons {f : Finding} {fs : List Finding} (h : ∀ g ∈ fs, f.Precedes g) :
    sortFindings (f :: fs) = f :: sortFindings fs := by
  obtain ⟨before, after, hranks⟩ := List.append_of_mem (mem_findingRanks f.rank)
  have hsorted := pairwise_findingRanks
  rw [hranks, List.pairwise_append, List.pairwise_cons] at hsorted
  obtain ⟨-, ⟨hafter, -⟩, hbefore⟩ := hsorted
  have hself : f.Precedes f := .inr ⟨rfl, Nat.le_refl _⟩
  -- No finding is of a rank before that of the first, and the first is of none after it.
  have hnone : ∀ gs : List Finding, (∀ g ∈ gs, f.Precedes g) →
      before.flatMap (fun r => gs.filter fun g => g.rank == r) = [] := by
    intro gs hgs
    rw [List.flatMap_eq_nil_iff]
    intro r hr
    rw [List.filter_eq_nil_iff]
    intro g hg hrank
    obtain rfl : g.rank = r := eq_of_beq hrank
    exact (hgs g hg).not_rankBefore (hbefore _ hr _ List.mem_cons_self)
  have hrest : after.flatMap (fun r => (f :: fs).filter fun g => g.rank == r) =
      after.flatMap fun r => fs.filter fun g => g.rank == r := by
    refine List.flatMap_congr fun r hr => List.filter_cons_of_neg ?_
    intro hrank
    obtain rfl : f.rank = r := eq_of_beq hrank
    exact hself.not_rankBefore (hafter _ hr)
  have hfirst : (f :: fs).filter (fun g => g.rank == f.rank) =
      f :: fs.filter fun g => g.rank == f.rank :=
    List.filter_cons_of_pos (beq_self_eq_true _)
  rw [sortFindings, sortFindings, hranks, List.flatMap_append, List.flatMap_append,
    List.flatMap_cons, List.flatMap_cons, hnone (f :: fs) (List.forall_mem_cons.2 ⟨hself, h⟩),
    hnone fs h, hfirst, hrest]
  rfl

/-- Findings in report order stay as they are. -/
theorem sortFindings_eq_self {fs : List Finding} (h : fs.Pairwise Finding.Precedes) :
    sortFindings fs = fs := by
  induction fs with
  | nil => rfl
  | cons f fs ih =>
    rw [List.pairwise_cons] at h
    rw [sortFindings_cons h.1, ih h.2]

/-- Every list of findings has exactly one stable sort, and sorting gives it. -/
theorem isStableSortOf_iff {gs fs : List Finding} :
    IsStableSortOf gs fs ↔ gs = sortFindings fs := by
  constructor
  · rintro ⟨-, hsorted, hstable⟩
    rw [← sortFindings_eq_self hsorted]
    exact List.flatMap_congr fun r _ => hstable r.1 r.2
  · rintro rfl
    refine ⟨sortFindings_perm fs, pairwise_sortFindings fs, fun passed severity => ?_⟩
    rw [filter_sortFindings]
    exact sortFindings_eq_self (pairwise_filter_rank fs (passed, severity))

/-! ### Verdicts and counts -/

/-- The worse one of two verdicts. -/
def OverallStatus.worse : OverallStatus → OverallStatus → OverallStatus
  | fail, _ | _, fail => fail
  | warn, _ | _, warn => warn
  | pass, pass => pass

/-- Counts are added one by one. -/
instance : Add ReportCounts where
  add a b :=
    { mandatoryMissing := a.mandatoryMissing + b.mandatoryMissing
      conditionalUnresolved := a.conditionalUnresolved + b.conditionalUnresolved
      errors := a.errors + b.errors
      warnings := a.warnings + b.warnings
      infos := a.infos + b.infos }

/-- The verdict of findings in any order. -/
theorem OverallStatus.ofFindings_perm {fs gs : List Finding} (h : fs.Perm gs) :
    ofFindings fs = ofFindings gs := by
  rw [ofFindings, ofFindings, h.any_eq, h.any_eq]

/-- The verdict of findings from two parts is the worse one. -/
theorem OverallStatus.ofFindings_append (fs gs : List Finding) :
    ofFindings (fs ++ gs) = (ofFindings fs).worse (ofFindings gs) := by
  simp only [ofFindings, List.any_append]
  cases fs.any (·.isFailureAt .error) <;> cases gs.any (·.isFailureAt .error) <;>
    cases fs.any (·.isFailureAt .warning) <;> cases gs.any (·.isFailureAt .warning) <;> rfl

/-- The counts of findings in any order. -/
theorem ReportCounts.ofFindings_perm {fs gs : List Finding} (h : fs.Perm gs) :
    ofFindings fs = ofFindings gs := by
  simp only [ofFindings, h.countP_eq]

/-- The counts of findings from two parts are added. -/
theorem ReportCounts.ofFindings_append (fs gs : List Finding) :
    ofFindings (fs ++ gs) = ofFindings fs + ofFindings gs := by
  simp only [ofFindings, List.countP_append]
  rfl

namespace ValidationReport

variable {packageId reportType : String} {fs : List Finding}

/-- The verdict of a report is that of the findings as they came. -/
theorem overallStatus_ofFindings :
    (ofFindings packageId reportType fs).overallStatus = .ofFindings fs :=
  OverallStatus.ofFindings_perm (sortFindings_perm fs)

/-- The counts of a report are those of the findings as they came. -/
theorem counts_ofFindings : (ofFindings packageId reportType fs).counts = .ofFindings fs :=
  ReportCounts.ofFindings_perm (sortFindings_perm fs)

/-- A record fails exactly when some finding is a failed error. -/
theorem overallStatus_eq_fail_iff :
    (ofFindings packageId reportType fs).overallStatus = .fail ↔
      ∃ g ∈ fs, g.isFailureAt .error = true := by
  rw [overallStatus_ofFindings, OverallStatus.ofFindings, ← List.any_eq_true]
  split
  next h => simp [h]
  next h => split <;> simp [h]

/-- A record warns exactly when it does not fail and some finding is a failed warning. -/
theorem overallStatus_eq_warn_iff :
    (ofFindings packageId reportType fs).overallStatus = .warn ↔
      (ofFindings packageId reportType fs).overallStatus ≠ .fail ∧
        ∃ g ∈ fs, g.isFailureAt .warning = true := by
  rw [overallStatus_ofFindings, OverallStatus.ofFindings, ← List.any_eq_true]
  split
  next => simp
  next => split <;> simp [*]

/-- A record passes exactly when it neither fails nor warns. -/
theorem overallStatus_eq_pass_iff :
    (ofFindings packageId reportType fs).overallStatus = .pass ↔
      (ofFindings packageId reportType fs).overallStatus ≠ .fail ∧
        ¬ ∃ g ∈ fs, g.isFailureAt .warning = true := by
  rw [overallStatus_ofFindings, OverallStatus.ofFindings, ← List.any_eq_true]
  split
  next => simp
  next => split <;> simp [*]

/-- There is a failed error exactly when one is counted. -/
theorem errors_pos_iff :
    0 < (ofFindings packageId reportType fs).counts.errors ↔
      ∃ g ∈ fs, g.isFailureAt .error = true := by
  rw [counts_ofFindings]
  exact List.countP_pos_iff

/-- There is a failed warning exactly when one is counted. -/
theorem warnings_pos_iff :
    0 < (ofFindings packageId reportType fs).counts.warnings ↔
      ∃ g ∈ fs, g.isFailureAt .warning = true := by
  rw [counts_ofFindings]
  exact List.countP_pos_iff

/-- The laws of making a report of findings. -/
structure IsAggregation (aggregate : List Finding → ValidationReport) : Prop where
  /-- The findings are sorted, in the one stable way. -/
  findings : ∀ fs gs, IsStableSortOf gs fs ↔ gs = (aggregate fs).findings
  /-- A report of the findings of a report is the same. -/
  idempotent : ∀ fs, aggregate (aggregate fs).findings = aggregate fs
  /-- Failures are counted severity by severity. -/
  failures : ∀ fs, (aggregate fs).counts.errors = fs.countP (·.isFailureAt .error) ∧
    (aggregate fs).counts.warnings = fs.countP (·.isFailureAt .warning) ∧
    (aggregate fs).counts.infos = fs.countP (·.isFailureAt .info)
  /-- The order of the findings does not matter to the counts and to the verdict. -/
  perm : ∀ fs gs, fs.Perm gs → (aggregate fs).counts = (aggregate gs).counts ∧
    (aggregate fs).overallStatus = (aggregate gs).overallStatus
  /-- Counts are added, and the worse verdict holds. -/
  append : ∀ fs gs,
    (aggregate (fs ++ gs)).counts = (aggregate fs).counts + (aggregate gs).counts ∧
    (aggregate (fs ++ gs)).overallStatus =
      (aggregate fs).overallStatus.worse (aggregate gs).overallStatus
  /-- The verdict can be read off the counts. -/
  fail : ∀ fs, (aggregate fs).overallStatus = .fail ↔ 0 < (aggregate fs).counts.errors
  warn : ∀ fs, (aggregate fs).overallStatus = .warn ↔
    (aggregate fs).counts.errors = 0 ∧ 0 < (aggregate fs).counts.warnings
  pass : ∀ fs, (aggregate fs).overallStatus = .pass ↔
    (aggregate fs).counts.errors = 0 ∧ (aggregate fs).counts.warnings = 0
  /-- The findings about one subject are those of the report on them alone. -/
  findingsFor : ∀ fs subject, (aggregate fs).findingsFor subject =
    (aggregate (fs.filter fun f => f.subject == subject)).findings

/-- **Making a report.** For every package and report type, the report of findings has them in
the one stable order of failures and severities, and its verdict and its counts agree with each
other and do not depend on the order in which the findings came. -/
theorem isAggregation_ofFindings (packageId reportType : String) :
    IsAggregation (ofFindings packageId reportType) where
  findings _ _ := isStableSortOf_iff
  idempotent fs := by
    have hsame : sortFindings (sortFindings fs) = sortFindings fs :=
      sortFindings_eq_self (pairwise_sortFindings fs)
    rw [ofFindings, ofFindings, hsame]
  failures _ := by
    rw [counts_ofFindings]
    exact ⟨rfl, rfl, rfl⟩
  perm _ _ h := by
    rw [counts_ofFindings, counts_ofFindings, overallStatus_ofFindings, overallStatus_ofFindings]
    exact ⟨ReportCounts.ofFindings_perm h, OverallStatus.ofFindings_perm h⟩
  append fs gs := by
    simp only [counts_ofFindings, overallStatus_ofFindings]
    exact ⟨ReportCounts.ofFindings_append fs gs, OverallStatus.ofFindings_append fs gs⟩
  fail _ := overallStatus_eq_fail_iff.trans errors_pos_iff.symm
  warn _ := by
    rw [overallStatus_eq_warn_iff, Ne, overallStatus_eq_fail_iff, ← errors_pos_iff,
      ← warnings_pos_iff, Nat.pos_iff_ne_zero, not_not]
  pass _ := by
    rw [overallStatus_eq_pass_iff, Ne, overallStatus_eq_fail_iff, ← errors_pos_iff,
      ← warnings_pos_iff, Nat.pos_iff_ne_zero, Nat.pos_iff_ne_zero, not_not, not_not]
  findingsFor fs subject := filter_sortFindings (fun f => f.subject == subject) fs

end ValidationReport

end RegulatoryReporting

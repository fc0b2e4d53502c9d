import RegulatoryReporting.Condition.Evaluation

/-!
# Faults of Evaluation

Evaluating a condition fails for two reasons only: some subtree lies deeper than the limit,
or some leaf matches against a text that is no pattern. This module traces every fault back
to its reason (`Evaluator.FaultFrom`), by one induction over the tree.

The induction is on the tree with the depth of its root as a parameter: a subtree of depth
`d` whose root lies at depth `n` reaches down to depth `n + d - 1`, and this sum does not
change from a node to its deepest child.

## Main results

* `Evaluator.faultFrom_of_evaluateAt` — every fault comes from the depth or from a leaf.
* `Evaluator.faultFrom_of_evaluate?` — the same for a whole condition.
-/

namespace RegulatoryReporting

/-- A condition has at least its root. -/
theorem Condition.one_le_depth (c : Condition) : 1 ≤ c.depth := by
  cases c <;> simp [Condition.depth]

/-- Evaluating a leaf fails only when it matches against a text that is no pattern. -/
theorem ConditionLeaf.eq_invalidPattern_of_holds {l : ConditionLeaf} {record : Json}
    {fault : EvaluationError} (h : l.holds record = .error fault) :
    ∃ pattern, l.pattern? = some pattern ∧ Pattern.ofText? pattern = none ∧
      fault = .invalidPattern pattern := by
  rw [holds, holdsOf.eq_def] at h
  cases hoperator : l.operator with
  | «matches» =>
    simp only [hoperator] at h
    rw [matchesPattern, matchesBy.eq_def] at h
    split at h
    next pattern text hpattern htext =>
      split at h
      · cases h
      next hno =>
        obtain rfl : EvaluationError.invalidPattern pattern = fault := Except.error.inj h
        exact ⟨pattern, hpattern, hno, rfl⟩
    · cases h
  | _ =>
    simp only [hoperator] at h
    cases h

namespace Evaluator

/-- Where a fault comes from: the evaluation reached below the limit, `reach` being one more
than the depth of the deepest node, or it met one of the leaves. -/
inductive FaultFrom (e : Evaluator) (reach : Nat) (leaves : List ConditionLeaf) :
    EvaluationError → Prop
  /-- Some node lies deeper than the limit. -/
  | tooDeep (h : e.maxDepth + 1 < reach) : FaultFrom e reach leaves (.depthExceeded e.maxDepth)
  /-- Some leaf matches against a text that is no pattern. -/
  | noPattern {l : ConditionLeaf} {pattern : String} (mem : l ∈ leaves)
      (text : l.pattern? = some pattern) (h : Pattern.ofText? pattern = none) :
      FaultFrom e reach leaves (.invalidPattern pattern)

variable {e : Evaluator} {record : Json} {fault : EvaluationError}

/-- A fault of a part is one of the whole. -/
theorem FaultFrom.mono {reach₁ reach₂ : Nat} {leaves₁ leaves₂ : List ConditionLeaf}
    (h : e.FaultFrom reach₁ leaves₁ fault) (hreach : reach₁ ≤ reach₂)
    (hleaves : leaves₁ ⊆ leaves₂) : e.FaultFrom reach₂ leaves₂ fault := by
  cases h with
  | tooDeep hdeep => exact .tooDeep (by omega)
  | noPattern hmem htext hno => exact .noPattern (hleaves hmem) htext hno

/-- Below the limit nothing is looked at. -/
theorem evaluateAt_of_lt {depth : Nat} (h : e.maxDepth < depth) (c : Condition) :
    e.evaluateAt record depth c = .error (.depthExceeded e.maxDepth) := by
  cases c <;> rw [evaluateAt, if_pos h]

mutual

/-- Every fault of evaluating a subtree comes from its depth or from one of its leaves. -/
theorem faultFrom_of_evaluateAt : ∀ (c : Condition) {depth : Nat} {fault : EvaluationError},
    e.evaluateAt record depth c = .error fault → e.FaultFrom (depth + c.depth) c.leaves fault
  | c, depth, fault, h => by
    by_cases hdeep : e.maxDepth < depth
    · rw [evaluateAt_of_lt hdeep] at h
      obtain rfl := Except.error.inj h
      exact .tooDeep (by have := c.one_le_depth; omega)
    · match c with
      | .leaf l =>
        rw [evaluateAt, if_neg hdeep] at h
        obtain ⟨pattern, htext, hno, rfl⟩ := l.eq_invalidPattern_of_holds h
        exact .noPattern (by simp [Condition.leaves]) htext hno
      | .and children =>
        rw [evaluateAt, if_neg hdeep] at h
        rw [Condition.depth, Condition.leaves, ← Nat.add_assoc]
        exact faultFrom_of_evaluateAll children h
      | .or children =>
        rw [evaluateAt, if_neg hdeep] at h
        rw [Condition.depth, Condition.leaves, ← Nat.add_assoc]
        exact faultFrom_of_evaluateAny children h
      | .not inner =>
        rw [evaluateAt, if_neg hdeep] at h
        rw [Condition.depth, Condition.leaves, ← Nat.add_assoc]
        cases hinner : e.evaluateAt record (depth + 1) inner with
        | ok b =>
          rw [hinner] at h
          cases h
        | error other =>
          rw [hinner] at h
          obtain rfl : other = fault := Except.error.inj h
          exact faultFrom_of_evaluateAt inner hinner

/-- Every fault of a conjunction comes from the depth or from a leaf of its operands. -/
theorem faultFrom_of_evaluateAll : ∀ (cs : List Condition) {depth : Nat}
    {fault : EvaluationError}, e.evaluateAll record depth cs = .error fault →
      e.FaultFrom (depth + Condition.childrenDepth cs) (Condition.childrenLeaves cs) fault
  | [], _, _, h => by
    rw [evaluateAll] at h
    cases h
  | c :: cs, depth, fault, h => by
    rw [evaluateAll] at h
    rw [Condition.childrenDepth, Condition.childrenLeaves]
    split at h
    next other hc =>
      obtain rfl := Except.error.inj h
      exact (faultFrom_of_evaluateAt c hc).mono (by omega) (List.subset_append_left _ _)
    · cases h
    · exact (faultFrom_of_evaluateAll cs h).mono (by omega) (List.subset_append_right _ _)

/-- Every fault of a disjunction comes from the depth or from a leaf of its operands. -/
theorem faultFrom_of_evaluateAny : ∀ (cs : List Condition) {depth : Nat}
    {fault : EvaluationError}, e.evaluateAny record depth cs = .error fault →
      e.FaultFrom (depth + Condition.childrenDepth cs) (Condition.childrenLeaves cs) fault
  | [], _, _, h => by
    rw [evaluateAny] at h
    cases h
  | c :: cs, depth, fault, h => by
    rw [evaluateAny] at h
    rw [Condition.childrenDepth, Condition.childrenLeaves]
    split at h
    next other hc =>
      obtain rfl := Except.error.inj h
      exact (faultFrom_of_evaluateAt c hc).mono (by omega) (List.subset_append_left _ _)
    · cases h
    · exact (faultFrom_of_evaluateAny cs h).mono (by omega) (List.subset_append_right _ _)

end

/-- Every fault of evaluating a condition comes from its depth or from one of its leaves. -/
theorem faultFrom_of_evaluate? {c : Condition} (h : e.evaluate? c record = .error fault) :
    e.FaultFrom (1 + c.depth) c.leaves fault :=
  faultFrom_of_evaluateAt c h

end Evaluator

end RegulatoryReporting

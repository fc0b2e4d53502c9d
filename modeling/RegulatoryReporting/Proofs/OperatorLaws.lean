import RegulatoryReporting.Proofs.BooleanReading

/-!
# The Algebra of Conditions

The operators of a condition are tied to each other: three of them are the negations of three
others, the weak comparisons are disjunctions, and membership is a disjunction of equalities.
Negation moves inwards over conjunction and disjunction.

These laws are about evaluation and not about formulas. Evaluation stops early and may fail, so
a law says that both sides answer alike and fail alike. Moving a negation inwards keeps the
depth of every operand: it lies below a negation and a conjunction on one side, below a
disjunction and a negation on the other. So both sides look at the same operands in the same
order, meet the same faults, and stop at the same place. Without an operand they differ under
the limit one: the inner node of one side is already too deep, the other side has none.

## Main results

* `Evaluator.isAlgebra_truthOf` — the operators on one field.
* `Evaluator.evaluate?_leaf_of_absent` — what holds of an absent value.
* `Evaluator.evaluateAny_map_not`, `Evaluator.evaluateAll_map_not` — negations moved inwards.
* `Evaluator.operator_laws` — all laws together.
-/

namespace RegulatoryReporting

/-! ### Operators on one field -/

/-- How the answers of the operators about one field and one value are tied to each other. -/
structure Operator.IsAlgebra (answer : Operator → Bool) : Prop where
  ne : answer .ne = !answer .eq
  notIn : answer .notIn = !answer .in
  notExists : answer .notExists = !answer .exists
  gte : answer .gte = (answer .gt || answer .eq)
  lte : answer .lte = (answer .lt || answer .eq)
  /-- At most one of the strict comparisons and equality holds. -/
  exclusive : [answer .lt, answer .eq, answer .gt].count true ≤ 1

/-- A path that is none, or leads nowhere, to null or to a blank text, leads to no value. -/
theorem presentValue?_eq_none {record : Json} {path : String}
    (h : (∃ fault, FieldPath.ofText path = .error fault) ∨ resolve record path = none ∨
      resolve record path = some .null ∨
      ∃ s, resolve record path = some (.str s) ∧ Text.isBlank s = true) :
    presentValue? record path = none := by
  have habsent : Json.isAbsent (resolve record path) = true := by
    rcases h with ⟨fault, hfault⟩ | habsent
    · rw [resolve, hfault]
      rfl
    · exact Json.isAbsent_iff.2 habsent
  rw [presentValue?]
  cases hplace : resolve record path with
  | none => rfl
  | some v =>
    rw [hplace] at habsent
    rw [Option.filter_some, habsent]
    rfl

namespace Evaluator

variable (e : Evaluator) (record : Json) (path : String)

/-- An operator other than `matches` has an answer. -/
theorem holds_eq_truthOf {op : Operator} (hop : op ≠ .matches) (value : Option Json) :
    ConditionLeaf.holds ⟨path, op, value⟩ record = .ok (e.truthOf record ⟨path, op, value⟩) := by
  have hdecided : ConditionLeaf.isUndecided ⟨path, op, value⟩ record = false := by
    refine ConditionLeaf.isUndecided_of_compiles fun text htext => ?_
    cases op <;> first | exact absurd rfl hop | cases htext
  obtain ⟨b, hholds⟩ := ConditionLeaf.exists_holds_eq_ok_iff.2 hdecided
  rw [hholds, truthOf_of_holds hholds]

/-- A comparison asks for the order of the values, if both are there. -/
theorem truthOf_comparison {op : Operator} (hop : op.isComparison = true) (value : Option Json) :
    e.truthOf record ⟨path, op, value⟩ =
      match presentValue? record path, value with
      | some v, some w => op.admits (v.compare w)
      | _, _ => op == .ne := by
  refine truthOf_of_holds ?_
  cases op with
  | eq | ne | gt | lt | gte | lte => rfl
  | «in» | notIn | «exists» | notExists | «matches» => cases hop

/-- The operators on one field are tied to each other. -/
theorem isAlgebra_truthOf (value : Option Json) :
    Operator.IsAlgebra fun op => e.truthOf record ⟨path, op, value⟩ where
  ne := by
    rw [truthOf_comparison e record path rfl, truthOf_comparison e record path rfl]
    cases presentValue? record path <;> cases value <;> rfl
  notIn := by
    rw [truthOf_of_holds rfl, truthOf_of_holds rfl]
    cases presentValue? record path <;> rfl
  notExists := by
    rw [truthOf_of_holds rfl, truthOf_of_holds rfl]
    cases presentValue? record path <;> rfl
  gte := by
    rw [truthOf_comparison e record path rfl, truthOf_comparison e record path rfl,
      truthOf_comparison e record path rfl]
    cases presentValue? record path <;> cases value <;> rfl
  lte := by
    rw [truthOf_comparison e record path rfl, truthOf_comparison e record path rfl,
      truthOf_comparison e record path rfl]
    cases presentValue? record path <;> cases value <;> rfl
  exclusive := by
    rw [truthOf_comparison e record path rfl, truthOf_comparison e record path rfl,
      truthOf_comparison e record path rfl]
    cases presentValue? record path with
    | none => exact Nat.zero_le 1
    | some v =>
      cases value with
      | none => exact Nat.zero_le 1
      | some w =>
        dsimp only
        cases v.compare w with
        | none => exact Nat.zero_le 1
        | some order => cases order <;> decide

/-- Of an absent value hold exactly the negative operators, and it matches no pattern. -/
theorem evaluate?_leaf_of_absent (h : presentValue? record path = none) (op : Operator)
    (value : Option Json) :
    e.evaluate? (.leaf ⟨path, op, value⟩) record =
      .ok (op == .ne || op == .notIn || op == .notExists) := by
  rw [evaluate?_leaf, ConditionLeaf.holds, h]
  cases op with
  | «matches» =>
    rw [ConditionLeaf.holdsOf, matchesPattern, matchesBy]
    · rfl
    · intro _ _ _ htext
      cases htext
  | eq | ne | gt | lt | gte | lte | «in» | notIn | «exists» | notExists => rfl

/-! ### Membership -/

variable {e record path} {depth : Nat}

/-- A disjunction of leaves that answer is their disjunction. -/
theorem evaluateAny_map_leaf {α : Type} {leaf : α → ConditionLeaf} {answer : α → Bool}
    (hdepth : depth ≤ e.maxDepth) (xs : List α)
    (h : ∀ x ∈ xs, (leaf x).holds record = .ok (answer x)) :
    e.evaluateAny record depth (xs.map fun x => .leaf (leaf x)) = .ok (xs.any answer) := by
  induction xs with
  | nil => rfl
  | cons x xs ih =>
    rw [List.forall_mem_cons] at h
    rw [List.map_cons, evaluateAny, evaluateAt, if_neg (Nat.not_lt.2 hdepth), h.1, List.any_cons]
    cases answer x with
    | true => rfl
    | false => exact ih h.2

/-- A conjunction of leaves that answer is their conjunction. -/
theorem evaluateAll_map_leaf {α : Type} {leaf : α → ConditionLeaf} {answer : α → Bool}
    (hdepth : depth ≤ e.maxDepth) (xs : List α)
    (h : ∀ x ∈ xs, (leaf x).holds record = .ok (answer x)) :
    e.evaluateAll record depth (xs.map fun x => .leaf (leaf x)) = .ok (xs.all answer) := by
  induction xs with
  | nil => rfl
  | cons x xs ih =>
    rw [List.forall_mem_cons] at h
    rw [List.map_cons, evaluateAll, evaluateAt, if_neg (Nat.not_lt.2 hdepth), h.1, List.all_cons]
    cases answer x with
    | false => rfl
    | true => exact ih h.2

/-- A value is in a list if it is equal to one of its members. -/
theorem truthOf_in (xs : List Json) :
    e.truthOf record ⟨path, .in, some (.arr xs)⟩ =
      xs.any fun x => e.truthOf record ⟨path, .eq, some x⟩ := by
  simp only [truthOf_comparison e record path (rfl : Operator.isComparison .eq = true)]
  rw [truthOf_of_holds rfl]
  cases presentValue? record path with
  | none => exact List.any_eq_false.2 (fun _ _ => Bool.false_ne_true) |>.symm
  | some v => rfl

/-- Membership in a list is the disjunction of the equalities with its members. -/
theorem evaluate?_in (hlimit : 2 ≤ e.maxDepth) (xs : List Json) :
    e.evaluate? (.leaf ⟨path, .in, some (.arr xs)⟩) record =
      e.evaluate? (.or (xs.map fun x => .leaf ⟨path, .eq, some x⟩)) record := by
  have hequal : ∀ x ∈ xs, ConditionLeaf.holds ⟨path, .eq, some x⟩ record =
      .ok (e.truthOf record ⟨path, .eq, some x⟩) := fun x _ =>
    holds_eq_truthOf e record path (by decide) _
  calc e.evaluate? (.leaf ⟨path, .in, some (.arr xs)⟩) record
      = .ok (e.truthOf record ⟨path, .in, some (.arr xs)⟩) :=
        (evaluate?_leaf e _ record).trans (holds_eq_truthOf e record path (by decide) _)
    _ = .ok (xs.any fun x => e.truthOf record ⟨path, .eq, some x⟩) := by rw [truthOf_in]
    _ = e.evaluateAny record 2 (xs.map fun x => .leaf ⟨path, .eq, some x⟩) :=
        (evaluateAny_map_leaf hlimit xs hequal).symm
    _ = e.evaluate? (.or (xs.map fun x => .leaf ⟨path, .eq, some x⟩)) record := by
        rw [evaluate?, evaluateAt, if_neg (Nat.not_lt.2 e.one_le)]

/-- Not to be in a list is the conjunction of being different from its members. -/
theorem evaluate?_notIn (hlimit : 2 ≤ e.maxDepth) (xs : List Json) :
    e.evaluate? (.leaf ⟨path, .notIn, some (.arr xs)⟩) record =
      e.evaluate? (.and (xs.map fun x => .leaf ⟨path, .ne, some x⟩)) record := by
  have hdifferent : ∀ x ∈ xs, ConditionLeaf.holds ⟨path, .ne, some x⟩ record =
      .ok (e.truthOf record ⟨path, .ne, some x⟩) := fun x _ =>
    holds_eq_truthOf e record path (by decide) _
  have hnegated : e.truthOf record ⟨path, .notIn, some (.arr xs)⟩ =
      xs.all fun x => e.truthOf record ⟨path, .ne, some x⟩ := by
    rw [(isAlgebra_truthOf e record path _).notIn, truthOf_in, List.not_any_eq_all_not]
    congr 1
    exact funext fun x => ((isAlgebra_truthOf e record path (some x)).ne).symm
  calc e.evaluate? (.leaf ⟨path, .notIn, some (.arr xs)⟩) record
      = .ok (e.truthOf record ⟨path, .notIn, some (.arr xs)⟩) :=
        (evaluate?_leaf e _ record).trans (holds_eq_truthOf e record path (by decide) _)
    _ = .ok (xs.all fun x => e.truthOf record ⟨path, .ne, some x⟩) := by rw [hnegated]
    _ = e.evaluateAll record 2 (xs.map fun x => .leaf ⟨path, .ne, some x⟩) :=
        (evaluateAll_map_leaf hlimit xs hdifferent).symm
    _ = e.evaluate? (.and (xs.map fun x => .leaf ⟨path, .ne, some x⟩)) record := by
        rw [evaluate?, evaluateAt, if_neg (Nat.not_lt.2 e.one_le)]

/-! ### Negations moved inwards -/

/-- Operands that are negated one by one are a negated conjunction. -/
theorem evaluateAny_map_not (hdepth : depth ≤ e.maxDepth) (cs : List Condition) :
    e.evaluateAny record depth (cs.map .not) =
      (e.evaluateAll record (depth + 1) cs).map (!·) := by
  induction cs with
  | nil => rfl
  | cons c cs ih =>
    rw [List.map_cons, evaluateAny, evaluateAll, evaluateAt, if_neg (Nat.not_lt.2 hdepth)]
    cases e.evaluateAt record (depth + 1) c with
    | error fault => rfl
    | ok b =>
      cases b with
      | false => rfl
      | true => exact ih

/-- Operands that are negated one by one are a negated disjunction. -/
theorem evaluateAll_map_not (hdepth : depth ≤ e.maxDepth) (cs : List Condition) :
    e.evaluateAll record depth (cs.map .not) =
      (e.evaluateAny record (depth + 1) cs).map (!·) := by
  induction cs with
  | nil => rfl
  | cons c cs ih =>
    rw [List.map_cons, evaluateAll, evaluateAny, evaluateAt, if_neg (Nat.not_lt.2 hdepth)]
    cases e.evaluateAt record (depth + 1) c with
    | error fault => rfl
    | ok b =>
      cases b with
      | true => rfl
      | false => exact ih

/-- The negation of a conjunction is the disjunction of the negations. -/
theorem evaluate?_not_and {cs : List Condition} (hne : cs ≠ []) :
    e.evaluate? (.not (.and cs)) record = e.evaluate? (.or (cs.map .not)) record := by
  have hroot : ¬ e.maxDepth < 1 := Nat.not_lt.2 e.one_le
  rw [evaluate?, evaluate?, evaluateAt, evaluateAt, evaluateAt, if_neg hroot, if_neg hroot]
  rcases Nat.lt_or_ge e.maxDepth 2 with hlimit | hlimit
  · -- Nothing below the root is looked at, and on both sides there is something.
    obtain ⟨c, cs, rfl⟩ := List.exists_cons_of_ne_nil hne
    rw [if_pos hlimit, List.map_cons, evaluateAny, evaluateAt_of_lt hlimit]
    rfl
  · rw [if_neg (Nat.not_lt.2 hlimit), evaluateAny_map_not hlimit]

/-- The negation of a disjunction is the conjunction of the negations. -/
theorem evaluate?_not_or {cs : List Condition} (hne : cs ≠ []) :
    e.evaluate? (.not (.or cs)) record = e.evaluate? (.and (cs.map .not)) record := by
  have hroot : ¬ e.maxDepth < 1 := Nat.not_lt.2 e.one_le
  rw [evaluate?, evaluate?, evaluateAt, evaluateAt, evaluateAt, if_neg hroot, if_neg hroot]
  rcases Nat.lt_or_ge e.maxDepth 2 with hlimit | hlimit
  · obtain ⟨c, cs, rfl⟩ := List.exists_cons_of_ne_nil hne
    rw [if_pos hlimit, List.map_cons, evaluateAll, evaluateAt_of_lt hlimit]
    rfl
  · rw [if_neg (Nat.not_lt.2 hlimit), evaluateAll_map_not hlimit]

/-- **The laws of the operators and combinators**, for every record, path and limit.

* Whatever value a leaf has, every operator but `matches` answers, and the answers are tied to
  each other.
* Where the path is no path, or leads nowhere, to null or to a blank text, exactly the negative
  operators hold, and no pattern matches.
* From the limit two on, membership is a disjunction of equalities, and its negation a
  conjunction of inequalities.
* A negation moves inwards over the operands of a conjunction or disjunction that has some,
  with the same answer or the same fault. -/
theorem operator_laws (e : Evaluator) (record : Json) (path : String) :
    (∀ value, ∃ answer : Operator → Bool, Operator.IsAlgebra answer ∧ ∀ op, op ≠ .matches →
      e.evaluate? (.leaf ⟨path, op, value⟩) record = .ok (answer op)) ∧
    ((∃ fault, FieldPath.ofText path = .error fault) ∨ resolve record path = none ∨
        resolve record path = some .null ∨
        (∃ s, resolve record path = some (.str s) ∧ Text.isBlank s = true) →
      ∀ op value, e.evaluate? (.leaf ⟨path, op, value⟩) record =
        .ok (op == .ne || op == .notIn || op == .notExists)) ∧
    (2 ≤ e.maxDepth → ∀ xs : List Json,
      e.evaluate? (.leaf ⟨path, .in, some (.arr xs)⟩) record =
          e.evaluate? (.or (xs.map fun x => .leaf ⟨path, .eq, some x⟩)) record ∧
        e.evaluate? (.leaf ⟨path, .notIn, some (.arr xs)⟩) record =
          e.evaluate? (.and (xs.map fun x => .leaf ⟨path, .ne, some x⟩)) record) ∧
    (∀ cs : List Condition, cs ≠ [] →
      e.evaluate? (.not (.and cs)) record = e.evaluate? (.or (cs.map .not)) record ∧
        e.evaluate? (.not (.or cs)) record = e.evaluate? (.and (cs.map .not)) record) := by
  refine ⟨fun value => ⟨_, isAlgebra_truthOf e record path value, fun op hop => ?_⟩,
    fun habsent op value => ?_, fun hlimit xs => ⟨evaluate?_in hlimit xs, evaluate?_notIn hlimit xs⟩,
    fun cs hne => ⟨evaluate?_not_and hne, evaluate?_not_or hne⟩⟩
  · rw [evaluate?_leaf, holds_eq_truthOf e record path hop]
  · exact evaluate?_leaf_of_absent e record path (presentValue?_eq_none habsent) op value

/-- A record with a blank venue. -/
def blankVenueRecord : Json := .obj [("cleared", .str "Y"), ("venue", .str " ")]

/-- The trade is cleared, and matches a text that is no pattern. -/
def clearedAndUnknown : List Condition :=
  [.fieldExists "cleared", .leaf ⟨"cleared", .matches, some (.str "(")⟩]

/-- A blank venue is in no list, not even in one that holds a blank, and so it differs from all
members. A negated conjunction fails on the text that is no pattern, and so does the
disjunction of the negations. -/
theorem blankVenue_operator_laws :
    resolve blankVenueRecord "venue" = some (.str " ") ∧ Text.isBlank " " = true ∧
      (∀ list, (ofLimit 2).evaluate? (.leaf ⟨"venue", .notIn, list⟩) blankVenueRecord =
        .ok true) ∧
      (ofLimit 2).evaluate? (.and [.leaf ⟨"venue", .ne, some (.str " ")⟩,
        .leaf ⟨"venue", .ne, some .null⟩]) blankVenueRecord = .ok true ∧
      clearedAndUnknown ≠ [] ∧
      (ofLimit 3).evaluate? (.or (clearedAndUnknown.map .not)) blankVenueRecord =
        .error (.invalidPattern "(") := by
  have hblank : resolve blankVenueRecord "venue" = some (.str " ") := rfl
  obtain ⟨-, habsent, hlist, -⟩ := operator_laws (ofLimit 2) blankVenueRecord "venue"
  obtain ⟨-, -, -, hnegation⟩ := operator_laws (ofLimit 3) blankVenueRecord "venue"
  have hnone := habsent (.inr (.inr (.inr ⟨" ", hblank, by decide⟩)))
  obtain ⟨-, hnotIn⟩ := hlist (by decide) [.str " ", .null]
  obtain ⟨hand, -⟩ := hnegation clearedAndUnknown (List.cons_ne_nil _ _)
  refine ⟨hblank, by decide, fun list => hnone .notIn list, ?_, List.cons_ne_nil _ _, ?_⟩
  · exact hnotIn.symm.trans (hnone .notIn _)
  · rw [← hand]
    rfl

end Evaluator

end RegulatoryReporting

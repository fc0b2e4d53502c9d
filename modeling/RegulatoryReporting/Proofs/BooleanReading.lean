import RegulatoryReporting.Proofs.Evaluation

/-!
# The Boolean Reading of Conditions

A condition reads as a boolean formula over its leaves (`Condition.valueOf`). Evaluation
departs from this reading in two ways: it stops as soon as the answer is known, and it fails
where a subtree lies below the limit or a leaf matches against a text that is no pattern.
This module shows that neither is visible in an answer. An answer is the value of the
formula whatever the parts that cannot be evaluated would have said
(`Evaluator.valueUnder`), and a higher limit never changes it.

Assumptions about the parts that cannot be evaluated are made by position, so that two
occurrences of one subtree may be assumed to say different things. The depth of a node is one
more than the length of its position, which is how the two sides of the main induction stay
aligned.

## Main results

* `Evaluator.evaluateAt_mono` — what is answered under a limit is answered the same way with
  more room.
* `Evaluator.valueUnder_of_evaluateAt` — an answer is the value under every assumption.
* `Evaluator.evaluate?_reading` — conditions within the limit are boolean formulas, and the
  limit only withholds answers.
* `Evaluator.evaluate?_assured` — no answer depends on a part that cannot be evaluated.
-/

namespace RegulatoryReporting

/-! ### Formulas -/

namespace Condition

mutual

/-- The value of a condition as a boolean formula, given those of its leaves. -/
def valueOf (truth : ConditionLeaf → Bool) : Condition → Bool
  | leaf l => truth l
  | and children => allOf truth children
  | or children => anyOf truth children
  | not inner => !valueOf truth inner

/-- Whether all of several formulas are true. -/
def allOf (truth : ConditionLeaf → Bool) : List Condition → Bool
  | [] => true
  | c :: cs => valueOf truth c && allOf truth cs

/-- Whether one of several formulas is true. -/
def anyOf (truth : ConditionLeaf → Bool) : List Condition → Bool
  | [] => false
  | c :: cs => valueOf truth c || anyOf truth cs

end

variable {truth : ConditionLeaf → Bool}

/-- The value of a conjunction is true when all its children are. -/
theorem valueOf_and (children : List Condition) :
    (and children).valueOf truth = children.all (·.valueOf truth) := by
  rw [valueOf]
  induction children with
  | nil => rfl
  | cons c cs ih => rw [allOf, ih, List.all_cons]

/-- The value of a disjunction is true when one of its children is. -/
theorem valueOf_or (children : List Condition) :
    (or children).valueOf truth = children.any (·.valueOf truth) := by
  rw [valueOf]
  induction children with
  | nil => rfl
  | cons c cs ih => rw [anyOf, ih, List.any_cons]

end Condition

/-! ### Leaves that cannot be evaluated -/

/-- Whether a leaf matches the text of a value that is there against a text that is no
pattern. -/
def ConditionLeaf.isUndecided (l : ConditionLeaf) (record : Json) : Bool :=
  match l.pattern?, (presentValue? record l.field).bind Json.scalarText? with
  | some pattern, some _ => (Pattern.ofText? pattern).isNone
  | _, _ => false

/-- A leaf can be evaluated exactly when it is not undecided. -/
theorem ConditionLeaf.exists_holds_eq_ok_iff {l : ConditionLeaf} {record : Json} :
    (∃ b, l.holds record = .ok b) ↔ l.isUndecided record = false := by
  rw [holds, holdsOf.eq_def, isUndecided]
  cases hoperator : l.operator with
  | «matches» =>
    rw [matchesPattern, matchesBy.eq_def]
    cases l.pattern? with
    | none => simp
    | some pattern =>
      cases (presentValue? record l.field).bind Json.scalarText? with
      | none => simp
      | some text => cases hcompiled : Pattern.ofText? pattern <;> simp [hcompiled]
  | _ => simp [pattern?, hoperator]

/-- A leaf whose pattern compiles, if it has one, is decided. -/
theorem ConditionLeaf.isUndecided_of_compiles {l : ConditionLeaf} {record : Json}
    (h : ∀ text, l.pattern? = some text → (Pattern.ofText? text).isSome) :
    l.isUndecided record = false := by
  rw [isUndecided]
  split
  next text _ htext _ => rw [Option.isNone_eq_false_iff, h text htext]
  next => rfl

namespace Evaluator

variable {e e' : Evaluator} {record : Json}

/-- What a leaf says when it is evaluated by itself. -/
def truthOf (e : Evaluator) (record : Json) (l : ConditionLeaf) : Bool :=
  e.evaluate (.leaf l) record

/-- The root of a tree is always within the limit. -/
theorem evaluate?_leaf (e : Evaluator) (l : ConditionLeaf) (record : Json) :
    e.evaluate? (.leaf l) record = l.holds record := by
  rw [evaluate?, evaluateAt, if_neg (Nat.not_lt.2 e.one_le)]

/-- The answer of a leaf is what it says by itself. -/
theorem truthOf_of_holds {l : ConditionLeaf} {b : Bool} (h : l.holds record = .ok b) :
    e.truthOf record l = b := by
  rw [truthOf, evaluate, evaluate?_leaf, h]

/-! ### Conditions within the limit -/

mutual

/-- A subtree that stays within the limit and has no undecided leaf is evaluated to its value
as a boolean formula. -/
theorem evaluateAt_eq_valueOf : ∀ (c : Condition) {depth : Nat},
    depth + c.depth ≤ e.maxDepth + 1 → (∀ l ∈ c.leaves, l.isUndecided record = false) →
    e.evaluateAt record depth c = .ok (c.valueOf (e.truthOf record))
  | c, depth, hdepth, hleaves => by
    have hwithin : ¬ e.maxDepth < depth := by
      have := c.one_le_depth
      omega
    match c with
    | .leaf l =>
      obtain ⟨b, hholds⟩ :=
        ConditionLeaf.exists_holds_eq_ok_iff.2 (hleaves l (by simp [Condition.leaves]))
      rw [evaluateAt, if_neg hwithin, Condition.valueOf, truthOf_of_holds hholds, hholds]
    | .and children =>
      rw [Condition.depth, ← Nat.add_assoc] at hdepth
      rw [Condition.leaves] at hleaves
      rw [evaluateAt, if_neg hwithin, Condition.valueOf]
      exact evaluateAll_eq_allOf children hdepth hleaves
    | .or children =>
      rw [Condition.depth, ← Nat.add_assoc] at hdepth
      rw [Condition.leaves] at hleaves
      rw [evaluateAt, if_neg hwithin, Condition.valueOf]
      exact evaluateAny_eq_anyOf children hdepth hleaves
    | .not inner =>
      rw [Condition.depth, ← Nat.add_assoc] at hdepth
      rw [Condition.leaves] at hleaves
      rw [evaluateAt, if_neg hwithin, Condition.valueOf,
        evaluateAt_eq_valueOf inner hdepth hleaves]
      rfl

/-- The same for the operands of a conjunction. -/
theorem evaluateAll_eq_allOf : ∀ (cs : List Condition) {depth : Nat},
    depth + Condition.childrenDepth cs ≤ e.maxDepth + 1 →
    (∀ l ∈ Condition.childrenLeaves cs, l.isUndecided record = false) →
    e.evaluateAll record depth cs = .ok (Condition.allOf (e.truthOf record) cs)
  | [], _, _, _ => by rw [evaluateAll, Condition.allOf]
  | c :: cs, depth, hdepth, hleaves => by
    rw [Condition.childrenDepth] at hdepth
    rw [Condition.childrenLeaves, List.forall_mem_append] at hleaves
    rw [evaluateAll, Condition.allOf, evaluateAt_eq_valueOf c (by omega) hleaves.1]
    cases c.valueOf (e.truthOf record) with
    | false => rfl
    | true => exact evaluateAll_eq_allOf cs (by omega) hleaves.2

/-- The same for the operands of a disjunction. -/
theorem evaluateAny_eq_anyOf : ∀ (cs : List Condition) {depth : Nat},
    depth + Condition.childrenDepth cs ≤ e.maxDepth + 1 →
    (∀ l ∈ Condition.childrenLeaves cs, l.isUndecided record = false) →
    e.evaluateAny record depth cs = .ok (Condition.anyOf (e.truthOf record) cs)
  | [], _, _, _ => by rw [evaluateAny, Condition.anyOf]
  | c :: cs, depth, hdepth, hleaves => by
    rw [Condition.childrenDepth] at hdepth
    rw [Condition.childrenLeaves, List.forall_mem_append] at hleaves
    rw [evaluateAny, Condition.anyOf, evaluateAt_eq_valueOf c (by omega) hleaves.1]
    cases c.valueOf (e.truthOf record) with
    | true => rfl
    | false => exact evaluateAny_eq_anyOf cs (by omega) hleaves.2

end

/-! ### Room -/

mutual

/-- A subtree whose evaluation does not run into the limit is evaluated the same way where
there is at least as much room below its root. -/
theorem evaluateAt_mono : ∀ (c : Condition) {depth depth' : Nat},
    e.maxDepth + depth' ≤ e'.maxDepth + depth →
    (∀ n, e.evaluateAt record depth c ≠ .error (.depthExceeded n)) →
    e'.evaluateAt record depth' c = e.evaluateAt record depth c
  | c, depth, depth', hroom, hlimit => by
    by_cases hdeep : e.maxDepth < depth
    · exact absurd (evaluateAt_of_lt hdeep c) (hlimit _)
    have hdeep' : ¬ e'.maxDepth < depth' := by omega
    have hbelow : e.maxDepth + (depth' + 1) ≤ e'.maxDepth + (depth + 1) := by omega
    match c with
    | .leaf l => rw [evaluateAt, evaluateAt, if_neg hdeep, if_neg hdeep']
    | .and children =>
      rw [evaluateAt, if_neg hdeep']
      rw [evaluateAt, if_neg hdeep] at hlimit ⊢
      exact evaluateAll_mono children hbelow hlimit
    | .or children =>
      rw [evaluateAt, if_neg hdeep']
      rw [evaluateAt, if_neg hdeep] at hlimit ⊢
      exact evaluateAny_mono children hbelow hlimit
    | .not inner =>
      rw [evaluateAt, if_neg hdeep']
      rw [evaluateAt, if_neg hdeep] at hlimit ⊢
      have hinner : ∀ n, e.evaluateAt record (depth + 1) inner ≠ .error (.depthExceeded n) := by
        intro n h
        exact hlimit n (by rw [h]; rfl)
      rw [evaluateAt_mono inner hbelow hinner]

/-- The same for the operands of a conjunction. -/
theorem evaluateAll_mono : ∀ (cs : List Condition) {depth depth' : Nat},
    e.maxDepth + depth' ≤ e'.maxDepth + depth →
    (∀ n, e.evaluateAll record depth cs ≠ .error (.depthExceeded n)) →
    e'.evaluateAll record depth' cs = e.evaluateAll record depth cs
  | [], _, _, _, _ => by rw [evaluateAll, evaluateAll]
  | c :: cs, depth, depth', hroom, hlimit => by
    rw [evaluateAll] at hlimit ⊢
    have hfirst : ∀ n, e.evaluateAt record depth c ≠ .error (.depthExceeded n) := by
      intro n h
      exact hlimit n (by rw [h])
    rw [evaluateAll, evaluateAt_mono c hroom hfirst]
    split
    next => rfl
    next => rfl
    next htrue =>
      rw [htrue] at hlimit
      exact evaluateAll_mono cs hroom hlimit

/-- The same for the operands of a disjunction. -/
theorem evaluateAny_mono : ∀ (cs : List Condition) {depth depth' : Nat},
    e.maxDepth + depth' ≤ e'.maxDepth + depth →
    (∀ n, e.evaluateAny record depth cs ≠ .error (.depthExceeded n)) →
    e'.evaluateAny record depth' cs = e.evaluateAny record depth cs
  | [], _, _, _, _ => by rw [evaluateAny, evaluateAny]
  | c :: cs, depth, depth', hroom, hlimit => by
    rw [evaluateAny] at hlimit ⊢
    have hfirst : ∀ n, e.evaluateAt record depth c ≠ .error (.depthExceeded n) := by
      intro n h
      exact hlimit n (by rw [h])
    rw [evaluateAny, evaluateAt_mono c hroom hfirst]
    split
    next => rfl
    next => rfl
    next hfalse =>
      rw [hfalse] at hlimit
      exact evaluateAny_mono cs hroom hlimit

end

/-- A higher limit does not change a result that does not come from the limit. -/
theorem evaluate?_mono {c : Condition} (h : e.maxDepth ≤ e'.maxDepth)
    (hlimit : ∀ n, e.evaluate? c record ≠ .error (.depthExceeded n)) :
    e'.evaluate? c record = e.evaluate? c record :=
  evaluateAt_mono c (by omega) hlimit

/-- What the negation of a condition answers, the condition itself answers to the contrary:
as a root it has more room than below a negation. -/
theorem evaluate?_of_not {c : Condition} {b : Bool} (h : e.evaluate? (.not c) record = .ok b) :
    e.evaluate? c record = .ok !b := by
  have hdeep : ¬ e.maxDepth < 1 := Nat.not_lt.2 e.one_le
  rw [evaluate?, evaluateAt, if_neg hdeep] at h
  cases hinner : e.evaluateAt record (1 + 1) c with
  | error fault =>
    rw [hinner] at h
    cases h
  | ok inner =>
    rw [hinner] at h
    obtain rfl : (!inner) = b := Except.ok.inj h
    have hlimit : ∀ n, e.evaluateAt record (1 + 1) c ≠ .error (.depthExceeded n) := by
      intro n h
      rw [hinner] at h
      cases h
    rw [evaluate?, evaluateAt_mono c (by omega) hlimit, hinner, Bool.not_not]

/-! ### Assumptions -/

/-- A position in a tree: which child is taken at each node, read from the position up to the
root. -/
abbrev Position := List Nat

mutual

/-- The value of a subtree as a boolean formula, if every part of it that cannot be evaluated
says what is assumed about its position. Such parts are the subtrees whose root lies deeper
than the limit, and the undecided leaves. -/
def valueUnder (e : Evaluator) (record : Json) (assumed : Position → Bool) (pos : Position) :
    Condition → Bool
  | .leaf l =>
    if e.maxDepth < pos.length + 1 || l.isUndecided record then assumed pos
    else e.truthOf record l
  | .and children =>
    if e.maxDepth < pos.length + 1 then assumed pos
    else allUnder e record assumed pos 0 children
  | .or children =>
    if e.maxDepth < pos.length + 1 then assumed pos
    else anyUnder e record assumed pos 0 children
  | .not inner =>
    if e.maxDepth < pos.length + 1 then assumed pos
    else !valueUnder e record assumed (0 :: pos) inner

/-- Whether the children of a node from a number on are all true under assumptions. -/
def allUnder (e : Evaluator) (record : Json) (assumed : Position → Bool) (pos : Position)
    (number : Nat) : List Condition → Bool
  | [] => true
  | c :: cs =>
    valueUnder e record assumed (number :: pos) c &&
      allUnder e record assumed pos (number + 1) cs

/-- Whether one of the children of a node from a number on is true under assumptions. -/
def anyUnder (e : Evaluator) (record : Json) (assumed : Position → Bool) (pos : Position)
    (number : Nat) : List Condition → Bool
  | [] => false
  | c :: cs =>
    valueUnder e record assumed (number :: pos) c ||
      anyUnder e record assumed pos (number + 1) cs

end

variable {assumed : Position → Bool}

mutual

/-- An answer about a subtree is its value under every assumption. -/
theorem valueUnder_of_evaluateAt : ∀ (c : Condition) (pos : Position) {b : Bool},
    e.evaluateAt record (pos.length + 1) c = .ok b → e.valueUnder record assumed pos c = b
  | c, pos, b, h => by
    by_cases hdeep : e.maxDepth < pos.length + 1
    · rw [evaluateAt_of_lt hdeep] at h
      cases h
    match c with
    | .leaf l =>
      rw [evaluateAt, if_neg hdeep] at h
      have hdecided : l.isUndecided record = false :=
        ConditionLeaf.exists_holds_eq_ok_iff.1 ⟨b, h⟩
      rw [valueUnder, hdecided, decide_eq_false hdeep]
      exact truthOf_of_holds h
    | .and children =>
      rw [evaluateAt, if_neg hdeep] at h
      rw [valueUnder, if_neg hdeep]
      exact allUnder_of_evaluateAll children h
    | .or children =>
      rw [evaluateAt, if_neg hdeep] at h
      rw [valueUnder, if_neg hdeep]
      exact anyUnder_of_evaluateAny children h
    | .not inner =>
      rw [evaluateAt, if_neg hdeep] at h
      rw [valueUnder, if_neg hdeep]
      cases hinner : e.evaluateAt record (pos.length + 1 + 1) inner with
      | error fault =>
        rw [hinner] at h
        cases h
      | ok answer =>
        rw [hinner] at h
        obtain rfl : (!answer) = b := Except.ok.inj h
        rw [valueUnder_of_evaluateAt inner (0 :: pos) hinner]

/-- An answer about a conjunction is its value under every assumption: the operands behind
the first that is false do not matter. -/
theorem allUnder_of_evaluateAll : ∀ (cs : List Condition) {pos : Position} {number : Nat}
    {b : Bool}, e.evaluateAll record (pos.length + 1 + 1) cs = .ok b →
      e.allUnder record assumed pos number cs = b
  | [], _, _, b, h => by
    rw [evaluateAll] at h
    obtain rfl : true = b := Except.ok.inj h
    rw [allUnder]
  | c :: cs, pos, number, b, h => by
    rw [evaluateAll] at h
    rw [allUnder]
    split at h
    next => cases h
    next hfalse =>
      obtain rfl : false = b := Except.ok.inj h
      rw [valueUnder_of_evaluateAt c (number :: pos) hfalse, Bool.false_and]
    next htrue =>
      rw [valueUnder_of_evaluateAt c (number :: pos) htrue, Bool.true_and]
      exact allUnder_of_evaluateAll cs h

/-- An answer about a disjunction is its value under every assumption: the operands behind
the first that is true do not matter. -/
theorem anyUnder_of_evaluateAny : ∀ (cs : List Condition) {pos : Position} {number : Nat}
    {b : Bool}, e.evaluateAny record (pos.length + 1 + 1) cs = .ok b →
      e.anyUnder record assumed pos number cs = b
  | [], _, _, b, h => by
    rw [evaluateAny] at h
    obtain rfl : false = b := Except.ok.inj h
    rw [anyUnder]
  | c :: cs, pos, number, b, h => by
    rw [evaluateAny] at h
    rw [anyUnder]
    split at h
    next => cases h
    next htrue =>
      obtain rfl : true = b := Except.ok.inj h
      rw [valueUnder_of_evaluateAt c (number :: pos) htrue, Bool.true_or]
    next hfalse =>
      rw [valueUnder_of_evaluateAt c (number :: pos) hfalse, Bool.false_or]
      exact anyUnder_of_evaluateAny cs h

end

/-! ### Main results -/

/-- Evaluation agrees with the boolean reading, and the limit only withholds answers.

* A condition that is nested within the limit, and whose patterns all compile, is answered;
  the answer is its value as a boolean formula over what its leaves say by themselves.
* A result that does not come from the limit is the same under every higher limit.
* A result that comes from the limit means that the condition is nested deeper.
* A result that comes from a pattern means that a leaf matches against it and that it does
  not compile. -/
theorem evaluate?_reading (e : Evaluator) (c : Condition) (record : Json) :
    (c.depth ≤ e.maxDepth →
      (∀ l ∈ c.leaves, ∀ text, l.pattern? = some text → (Pattern.ofText? text).isSome) →
      (∀ l ∈ c.leaves, e.evaluate? (.leaf l) record = .ok (e.truthOf record l)) ∧
        e.evaluate? c record = .ok (c.valueOf (e.truthOf record))) ∧
    (∀ e' : Evaluator, e.maxDepth ≤ e'.maxDepth →
      (∀ n, e.evaluate? c record ≠ .error (.depthExceeded n)) →
      e'.evaluate? c record = e.evaluate? c record) ∧
    (∀ n, e.evaluate? c record = .error (.depthExceeded n) →
      n = e.maxDepth ∧ e.maxDepth < c.depth) ∧
    (∀ text, e.evaluate? c record = .error (.invalidPattern text) →
      ∃ l ∈ c.leaves, l.pattern? = some text ∧ Pattern.ofText? text = none) := by
  refine ⟨?_, ?_, ?_, ?_⟩
  · intro hdepth hcompile
    have hdecided : ∀ l ∈ c.leaves, l.isUndecided record = false :=
      fun l hl => ConditionLeaf.isUndecided_of_compiles (hcompile l hl)
    refine ⟨fun l hl => ?_, evaluateAt_eq_valueOf c (by omega) hdecided⟩
    obtain ⟨b, hholds⟩ := ConditionLeaf.exists_holds_eq_ok_iff.2 (hdecided l hl)
    rw [evaluate?_leaf, truthOf_of_holds hholds, hholds]
  · intro e' hle hlimit
    exact evaluate?_mono hle hlimit
  · intro n h
    cases faultFrom_of_evaluate? h with
    | tooDeep hdeep => exact ⟨rfl, by omega⟩
  · intro text h
    cases faultFrom_of_evaluate? h with
    | noPattern hmem htext hno => exact ⟨_, hmem, htext, hno⟩

/-- A cleared trade on a venue whose code does not begin with an X. -/
def clearedElsewhere : Condition :=
  .and [.fieldExists "cleared", .not (.leaf ⟨"venue", .matches, some (.str "^X")⟩)]

/-- A record of such a trade. -/
def clearedRecord : Json := .obj [("cleared", .str "Y"), ("venue", .str "BOTC")]

/-- This condition has depth three. Under a limit of three it is answered as a formula, and
the answer stays for every higher limit; under a limit of two it is not answered. -/
theorem clearedElsewhere_reading :
    (ofLimit 3).evaluate? clearedElsewhere clearedRecord =
        .ok (clearedElsewhere.valueOf ((ofLimit 3).truthOf clearedRecord)) ∧
      (∀ e : Evaluator, 3 ≤ e.maxDepth →
        e.evaluate? clearedElsewhere clearedRecord = .ok true) ∧
      2 < clearedElsewhere.depth := by
  have htrue : (ofLimit 3).evaluate? clearedElsewhere clearedRecord = .ok true :=
    (evaluate_eq _ _ _).1 (by decide +kernel)
  have hdeep : (ofLimit 2).evaluate? clearedElsewhere clearedRecord =
      .error (.depthExceeded 2) := by rfl
  obtain ⟨hformula, hmono, -⟩ := evaluate?_reading (ofLimit 3) clearedElsewhere clearedRecord
  obtain ⟨-, -, hlimit, -⟩ := evaluate?_reading (ofLimit 2) clearedElsewhere clearedRecord
  refine ⟨(hformula (by decide) (by decide +kernel)).2, fun e he => ?_, (hlimit 2 hdeep).2⟩
  rw [hmono e he (by rw [htrue]; simp), htrue]

/-- No answer depends on a part that cannot be evaluated.

* An answer is the value of the condition, whatever is assumed about such parts.
* A condition and its negation do not both hold.
* A condition that holds is true, whatever is assumed about such parts. -/
theorem evaluate?_assured (e : Evaluator) (c : Condition) (record : Json) :
    (∀ b, e.evaluate? c record = .ok b →
      ∀ assumed : Position → Bool, e.valueUnder record assumed [] c = b) ∧
    ¬ (e.evaluate c record = true ∧ e.evaluate (.not c) record = true) ∧
    (e.evaluate c record = true →
      ∀ assumed : Position → Bool, e.valueUnder record assumed [] c = true) := by
  refine ⟨?_, ?_, ?_⟩
  · intro b h assumed
    exact valueUnder_of_evaluateAt c [] h
  · rintro ⟨hholds, hnot⟩
    have hfalse := evaluate?_of_not ((evaluate_eq e _ record).1 hnot)
    rw [(evaluate_eq e c record).1 hholds] at hfalse
    cases hfalse
  · intro h assumed
    exact valueUnder_of_evaluateAt c [] ((evaluate_eq e c record).1 h)

/-- A cleared trade, or one whose venue matches a text that is no pattern, or one that a
subtree below the limit speaks of. -/
def clearedOrUnknown : Condition :=
  .or [.fieldExists "cleared", .leaf ⟨"venue", .matches, some (.str "(")⟩,
    .not (.fieldExists "venue")]

/-- Two parts of this condition cannot be evaluated on a cleared trade under a limit of two.
It holds all the same, whatever they are assumed to say. -/
theorem clearedOrUnknown_assured :
    ConditionLeaf.isUndecided ⟨"venue", .matches, some (.str "(")⟩ clearedRecord = true ∧
      (ofLimit 2).maxDepth < clearedOrUnknown.depth ∧
      ∀ assumed : Position → Bool,
        (ofLimit 2).valueUnder clearedRecord assumed [] clearedOrUnknown = true := by
  have hholds : (ofLimit 2).evaluate clearedOrUnknown clearedRecord = true := by decide +kernel
  obtain ⟨-, -, hassured⟩ := evaluate?_assured (ofLimit 2) clearedOrUnknown clearedRecord
  exact ⟨by decide +kernel, by decide, hassured hholds⟩

end Evaluator

end RegulatoryReporting

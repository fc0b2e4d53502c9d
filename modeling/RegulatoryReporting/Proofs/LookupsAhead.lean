import Mathlib.Data.List.Basic
import RegulatoryReporting.Validation.Record

/-!
# Registers That Are Asked Beforehand

Where registers are far away, a record is validated in three steps: its questions are
collected as if every code were known, the registers answer them, and the record is
validated against the answers alone. This module shows that the detour changes nothing,
whatever the registers answer.

The questions are recorded by a run of the rules. Forgetting them gives the ordinary run where
every code is known (`Engine.result_recordAll`), so what is recorded cannot drift away from
what is checked.

Two more things have to be seen. First, no question is missing: a validator that refuses a text
although every code is known refuses it under all registers, so the questions that are
recorded include all that any registers would be asked (`Validator.refuses?_of_everything`,
`Engine.judgeAll_congr`); and no question is idle, for where one is asked the answer decides
(`Validator.refuses?_of_mem_lookups`). Second, the answers are kept under normalised codes, while nothing
is assumed about how a register treats blanks and case; but a question is only ever about a
code of the right shape, and such a code is its own normal form
(`Validator.normalizeCode_of_mem_lookups`).

## Main results

* `Engine.result_recordAll` — the recording run has the results of a run that knows every code.
* `Engine.judgeAll_congr` — the rules depend on the registers only through the answers to
  the questions of the record.
* `ReferenceCodes.lookup_ofAnswers` — the kept answers agree with the registers.
* `Engine.validateAhead_eq_validate` — validating against answers obtained beforehand is
  validating against the registers, alone and in a batch.
-/

namespace RegulatoryReporting

/-! ### Codes are their own normal form -/

/-- A digit or capital letter is not blank. -/
theorem Text.isWhiteSpace_of_admits {c : Char} (h : Place.capitalOrDigit.admits c = true) :
    Text.isWhiteSpace c = false := by
  have hrange := Place.toNat_of_admits h
  simp only [Text.isWhiteSpace, Bool.or_eq_false_iff, Bool.and_eq_false_iff,
    decide_eq_false_iff_not, beq_eq_false_iff_ne]
  omega

/-- A digit or capital letter is its own capital form. -/
theorem Text.upperChar_of_admits {c : Char} (h : Place.capitalOrDigit.admits c = true) :
    Text.upperChar c = [c] := by
  have hrange := Place.toNat_of_admits h
  have hascii : c.toNat < 128 := by omega
  have hsmall : ¬('a'.val ≤ c.val ∧ c.val ≤ 'z'.val) := by
    have ha : 'a'.val.toNat = 97 := rfl
    have hc : c.val.toNat = c.toNat := rfl
    rw [UInt32.le_iff_toNat_le, ha, hc]
    omega
  have hkept : c.toUpper = c := dif_neg hsmall
  rw [Text.upperChar, if_pos hascii, hkept]

/-- A text of digits and capital letters is its own normal form. -/
theorem Text.normalizeCode_of_admits {s : String}
    (h : ∀ c ∈ s.toList, Place.capitalOrDigit.admits c = true) : Text.normalizeCode s = s := by
  have htrim : Text.trimList s.toList = s.toList :=
    Text.trimList_of_forall fun c hc => Text.isWhiteSpace_of_admits (h c hc)
  have hupper : ∀ cs : List Char, (∀ c ∈ cs, Place.capitalOrDigit.admits c = true) →
      cs.flatMap Text.upperChar = cs := by
    intro cs
    induction cs with
    | nil => intro _; rfl
    | cons c cs ih =>
      intro hcs
      rw [List.flatMap_cons, Text.upperChar_of_admits (hcs c (by simp)),
        ih fun d hd => hcs d (by simp [hd])]
      rfl
  rw [Text.normalizeCode, Text.trim, htrim, Text.toUpper, String.toList_ofList, hupper _ h,
    String.ofList_toList]

/-- The codes of every register consist of digits and capital letters. -/
theorem ReferenceKind.admits_of_fits {kind : ReferenceKind} {cs : List Char}
    (h : kind.shape.fits cs = true) : ∀ c ∈ cs, Place.capitalOrDigit.admits c = true := by
  intro c hc
  obtain ⟨place, hplace, hadmits⟩ := Shape.admits_of_fits h c hc
  have hkinds : place = .capital ∨ place = .capitalOrDigit := by
    cases kind <;> simp_all [ReferenceKind.shape, Shape.currency, Shape.country, Shape.mic,
      Shape.run]
  rcases hkinds with rfl | rfl
  · simp only [Place.admits] at hadmits
    simp [Place.admits, hadmits]
  · exact hadmits

/-- A validator asks its own register about the trimmed text, provided that this has the
shape of a code. -/
theorem Validator.mem_lookups {v : Validator} {text : String} {q : Inquiry} :
    q ∈ v.lookups text ↔
      v.referenceKind? = some q.1 ∧ q.2 = Text.trim text ∧ q.1.shape.fits q.2.toList = true := by
  obtain ⟨kind, code⟩ := q
  simp only [Validator.lookups]
  cases v.referenceKind? with
  | none => simp
  | some k =>
    by_cases hfits : k.shape.fits (Text.trim text).toList = true
    · simp only [hfits, if_true, List.mem_singleton, Prod.mk.injEq, Option.some.injEq]
      constructor
      · rintro ⟨rfl, rfl⟩
        exact ⟨rfl, rfl, hfits⟩
      · rintro ⟨rfl, rfl, -⟩
        exact ⟨rfl, rfl⟩
    · simp only [if_neg hfits, List.not_mem_nil, Option.some.injEq, false_iff]
      rintro ⟨rfl, rfl, h⟩
      exact hfits h

/-- A validator asks about codes that are their own normal form. -/
theorem Validator.normalizeCode_of_mem_lookups {v : Validator} {text : String} {q : Inquiry}
    (h : q ∈ v.lookups text) : Text.normalizeCode q.2 = q.2 :=
  Text.normalizeCode_of_admits (ReferenceKind.admits_of_fits (Validator.mem_lookups.1 h).2.2)

/-! ### What validators ask -/

/-- Where a validator asks a question, the answer decides. -/
theorem Validator.refuses?_of_mem_lookups {v : Validator} {text : String} {q : Inquiry}
    (h : q ∈ v.lookups text) (allowed : List String) (known : Lookup) :
    v.refuses? allowed (some known) text =
      if known q.1 q.2 then none else some s!"'{q.2}' is not a known {q.1.name} code" := by
  obtain ⟨kind, code⟩ := q
  obtain ⟨hkind, rfl, hfits⟩ := Validator.mem_lookups.1 h
  have hknown : v.refuses? allowed (some known) text =
      notKnown? kind (some known) (Text.trim text) := by
    cases v with
    | isoCurrency | isoCountry | micFormat =>
      obtain rfl := Option.some.inj hkind
      rfl
    | _ => cases hkind
  rw [hknown, notKnown?, if_pos hfits]

/-- Where a validator asks nothing, it says the same under all registers. -/
theorem Validator.refuses?_of_lookups_eq_nil {v : Validator} {text : String}
    (h : v.lookups text = []) (allowed : List String) (known₁ known₂ : Lookup) :
    v.refuses? allowed (some known₁) text = v.refuses? allowed (some known₂) text := by
  have hkind : ∀ kind, v.referenceKind? = some kind →
      notKnown? kind (some known₁) (Text.trim text) =
        notKnown? kind (some known₂) (Text.trim text) := by
    intro kind hv
    have hfits : ¬ kind.shape.fits (Text.trim text).toList = true := by
      intro hfits
      have hasked : (kind, Text.trim text) ∈ v.lookups text :=
        Validator.mem_lookups.2 ⟨hv, rfl, hfits⟩
      rw [h] at hasked
      cases hasked
    rw [notKnown?, notKnown?, if_neg hfits, if_neg hfits]
  cases v with
  | isoCurrency | isoCountry | micFormat => exact hkind _ rfl
  | _ => rfl

/-- What a validator says of a text depends on the registers only through the answer to
its own question. -/
theorem Validator.refuses?_congr {v : Validator} {allowed : List String} {text : String}
    {known₁ known₂ : Lookup} (h : ∀ q ∈ v.lookups text, known₁ q.1 q.2 = known₂ q.1 q.2) :
    v.refuses? allowed (some known₁) text = v.refuses? allowed (some known₂) text := by
  cases hasked : v.lookups text with
  | nil => exact Validator.refuses?_of_lookups_eq_nil hasked allowed known₁ known₂
  | cons q rest =>
    have hq : q ∈ v.lookups text := hasked ▸ List.mem_cons_self
    rw [Validator.refuses?_of_mem_lookups hq, Validator.refuses?_of_mem_lookups hq, h q hq]

/-- A text that is refused although every code is known is refused for the same reason
under all registers. -/
theorem Validator.refuses?_of_everything {v : Validator} {allowed : List String}
    {text reason : String} (h : v.refuses? allowed (some Lookup.everything) text = some reason)
    (known : Lookup) : v.refuses? allowed (some known) text = some reason := by
  cases hasked : v.lookups text with
  | nil => rw [Validator.refuses?_of_lookups_eq_nil hasked allowed known Lookup.everything, h]
  | cons q rest =>
    have hq : q ∈ v.lookups text := hasked ▸ List.mem_cons_self
    rw [Validator.refuses?_of_mem_lookups hq, Lookup.everything, if_pos rfl] at h
    cases h

/-- What validators say of a text, one after the other, depends on the registers only
through the answers to the questions that are recorded for it. -/
theorem Rule.validatorCheck_congr {vs : List Validator} {text : String} {known₁ known₂ : Lookup}
    (h : ∀ q ∈ (recordCheck vs text).questions, known₁ q.1 q.2 = known₂ q.1 q.2) :
    validatorCheck vs (some known₁) text = validatorCheck vs (some known₂) text := by
  rw [validatorCheck, validatorCheck]
  induction vs with
  | nil => rfl
  | cons v vs ih =>
    rw [recordCheck, Recorded.questions_findSomeM?_cons] at h
    have hv : v.refuses? [] (some known₁) text = v.refuses? [] (some known₂) text :=
      Validator.refuses?_congr fun q hq => h q (List.mem_append_left _ hq)
    rw [List.findSome?_cons, List.findSome?_cons, ← hv]
    cases hrefused : v.refuses? [] (some known₁) text with
    | some reason => rfl
    | none =>
      -- The text passes `v` under some registers, so it passes when every code is known,
      -- and the questions of the later validators have been recorded too.
      have hpasses : (v.record text).result = none := by
        cases heverything : (v.record text).result with
        | none => rfl
        | some reason =>
          rw [Validator.refuses?_of_everything heverything known₁] at hrefused
          cases hrefused
      exact ih fun q hq => h q (List.mem_append_right _ (by simpa [hpasses, recordCheck] using hq))

/-! ### What rules ask -/

namespace Rule

variable {r : Rule} {vs : List Validator} {values : List AffectedValue} {known₁ known₂ : Lookup}

/-- The objections to the values of a rule depend on the check of a value only through what this
says of the value. -/
theorem objections_congr {check₁ check₂ : AffectedValue → TextCheck}
    (h : ∀ v ∈ values, v.objection? (check₁ v) = v.objection? (check₂ v)) :
    objections (values.map fun v => (v, check₁ v)) =
      objections (values.map fun v => (v, check₂ v)) := by
  rw [objections, objections, List.filterMap_map, List.filterMap_map]
  refine List.filterMap_congr fun v hv => ?_
  simp only [Function.comp_apply, h v hv]

/-- The finding of a rule over its values depends on the check of a value only through what this
says of the value. -/
theorem valueFinding_congr {check₁ check₂ : AffectedValue → TextCheck}
    (h : ∀ v ∈ values, v.objection? (check₁ v) = v.objection? (check₂ v)) :
    r.valueFinding (values.map fun v => (v, check₁ v)) =
      r.valueFinding (values.map fun v => (v, check₂ v)) := by
  have hcount : ∀ check : AffectedValue → TextCheck,
      (values.map fun v => (v, check v)).countP (fun c => c.1.content != .absent) =
        values.countP fun v => v.content != .absent := by
    intro check
    rw [List.countP_map]
    rfl
  rw [valueFinding, valueFinding, objections_congr h, hcount, hcount]

/-- The recorded check of a value says of it what its validators say if every code is known. -/
theorem objection?_recordValue (vs : List Validator) (v : AffectedValue) :
    v.objection? (recordValue vs v).result =
      v.objection? (validatorCheck vs (some Lookup.everything)) := by
  rw [recordValue, AffectedValue.objection?, AffectedValue.objection?]
  cases v.content with
  | absent | compound _ => rfl
  | scalar text => exact Recorded.result_findSomeM? _ _

/-- The recorded finding is the one where every code is known. -/
theorem result_recordFinding (r : Rule) (vs : List Validator) (values : List AffectedValue) :
    (r.recordFinding vs values).result =
      r.valueFinding (alike values (validatorCheck vs (some Lookup.everything))) := by
  rw [recordFinding, Recorded.result_bind, Recorded.result_mapM]
  exact valueFinding_congr fun v _ => objection?_recordValue vs v

/-- A recorded finding asks what the checks of its values ask. -/
theorem mem_questions_recordFinding {q : Inquiry} :
    q ∈ (r.recordFinding vs values).questions ↔
      ∃ v ∈ values, ∃ text, v.content = .scalar text ∧ q ∈ (recordCheck vs text).questions := by
  simp only [recordFinding, Recorded.questions_bind, Recorded.questions_mapM,
    Recorded.questions_pure, List.append_nil, List.mem_flatMap, recordValue]
  refine exists_congr fun v => and_congr_right fun _ => ?_
  cases v.content <;> simp

/-- The finding of a rule that runs validators over its values depends on the registers
only through the answers to the questions about these values. -/
theorem valueFinding_validatorCheck_congr
    (h : ∀ q ∈ (r.recordFinding vs values).questions, known₁ q.1 q.2 = known₂ q.1 q.2) :
    r.valueFinding (alike values (validatorCheck vs (some known₁))) =
      r.valueFinding (alike values (validatorCheck vs (some known₂))) := by
  refine valueFinding_congr fun v hv => ?_
  rw [AffectedValue.objection?, AffectedValue.objection?]
  cases hcontent : v.content with
  | absent | compound _ => rfl
  | scalar text =>
    refine validatorCheck_congr fun q hq => h q ?_
    exact mem_questions_recordFinding.2 ⟨v, hv, text, hcontent, hq⟩

/-- The questions about a text are about codes that are their own normal form. -/
theorem normalizeCode_of_mem_recordCheck {text : String} {q : Inquiry}
    (h : q ∈ (recordCheck vs text).questions) : Text.normalizeCode q.2 = q.2 := by
  induction vs with
  | nil => cases h
  | cons v vs ih =>
    rw [recordCheck, Recorded.questions_findSomeM?_cons] at h
    rcases List.mem_append.1 h with hq | hq
    · exact Validator.normalizeCode_of_mem_lookups hq
    · split at hq
      · cases hq
      · exact ih hq

end Rule

/-- The order of questions tells different questions apart. -/
theorem Inquiry.eq_of_compare {a b : Inquiry} (h : Inquiry.compare a b = .eq) : a = b := by
  obtain ⟨kind₁, code₁⟩ := a
  obtain ⟨kind₂, code₂⟩ := b
  rw [Inquiry.compare, Ordering.then_eq_eq] at h
  have hcode : code₁ = code₂ := Std.LawfulEqCmp.eq_of_compare h.2
  have hplace : kind₁.place = kind₂.place := Std.LawfulEqCmp.eq_of_compare h.1
  have hkind : kind₁ = kind₂ := by
    cases kind₁ <;> cases kind₂ <;> simp_all [ReferenceKind.place]
  rw [hkind, hcode]

namespace Engine

variable {e : Engine} {p : Package} {record : Json} {known₁ known₂ : Lookup}

/-- A rule whose values validators look at is settled by what they say. -/
theorem judgeTriggered_of_consulted {r : Rule} (h : e.consulted r ≠ []) (known : Lookup) :
    { e with reference := some known }.judgeTriggered p r record =
      .settled (r.valueFinding (Rule.alike (p.affectedValues r record)
        (Rule.validatorCheck (e.consulted r) (some known)))) := by
  rw [judgeTriggered]
  rw [consulted] at h ⊢
  cases htype : r.type with
  | format =>
    simp only [htype] at h ⊢
    rw [Rule.formatFinding]
    cases hvalidators : e.catalog.validatorsFor r with
    | nil => exact absurd hvalidators h
    | cons v vs => rfl
  | referential =>
    simp only [htype] at h ⊢
    rw [Rule.referenceFinding]
    cases hkind : e.catalog.registerFor? r with
    | none =>
      rw [hkind] at h
      exact absurd rfl h
    | some kind => rfl
  | _ => simp [htype] at h

/-- A rule whose values no validators look at does not depend on the registers. -/
theorem judgeTriggered_congr_of_consulted {r : Rule} (h : e.consulted r = []) :
    { e with reference := some known₁ }.judgeTriggered p r record =
      { e with reference := some known₂ }.judgeTriggered p r record := by
  rw [judgeTriggered, judgeTriggered]
  rw [consulted] at h
  cases htype : r.type with
  | format =>
    simp only [htype] at h ⊢
    rw [Rule.formatFinding, Rule.formatFinding, h]
  | referential =>
    simp only [htype, List.map_eq_nil_iff, Option.toList_eq_nil_iff] at h ⊢
    rw [Rule.referenceFinding, Rule.referenceFinding, h]
  | _ => rfl

/-- The recorded judgement is the one where every code is known. -/
theorem result_recordRule (e : Engine) (p : Package) (record : Json) (r : Rule) :
    (e.recordRule p record r).result =
      { e with reference := some Lookup.everything }.judge p r record := by
  have htriggers : { e with reference := some Lookup.everything }.triggers r record =
      e.triggers r record := rfl
  rw [recordRule, judge, htriggers]
  split
  next =>
    split
    next => rfl
    next vs hvs hsome =>
      rw [judgeTriggered_of_consulted hsome, ← Rule.result_recordFinding]
      rfl
  · rfl

/-- **The recording run is a run.** Forgetting its questions leaves what the rules say of the
record if every code is known. -/
theorem result_recordAll (e : Engine) (p : Package) (reportType : String) (record : Json) :
    (e.recordAll p reportType record).result =
      { e with reference := some Lookup.everything }.judgeAll p reportType record := by
  rw [recordAll, Recorded.result_mapM, judgeAll]
  exact List.map_congr_left fun r _ => e.result_recordRule p record r

/-- A rule asks about a record what its validators ask about its values, if it is triggered. -/
theorem mem_questions_recordRule {r : Rule} {q : Inquiry} :
    q ∈ (e.recordRule p record r).questions ↔
      e.triggers r record = true ∧
        q ∈ (r.recordFinding (e.consulted r) (p.affectedValues r record)).questions := by
  rw [recordRule]
  split
  next htriggers =>
    rw [and_iff_right htriggers]
    split
    next hnone =>
      rw [hnone, Rule.mem_questions_recordFinding]
      exact iff_of_false List.not_mem_nil fun ⟨_, _, _, _, hq⟩ => List.not_mem_nil hq
    next => simp
  next htriggers => simp [htriggers]

/-- What a record says about a rule depends on the registers only through the answers to
the questions of the rule. -/
theorem judge_congr {r : Rule}
    (h : ∀ q ∈ (e.recordRule p record r).questions, known₁ q.1 q.2 = known₂ q.1 q.2) :
    { e with reference := some known₁ }.judge p r record =
      { e with reference := some known₂ }.judge p r record := by
  have htriggers : ∀ known : Lookup,
      { e with reference := some known }.triggers r record = e.triggers r record :=
    fun _ => rfl
  rw [judge, judge, htriggers, htriggers]
  split
  next htriggered =>
    by_cases hnone : e.consulted r = []
    · exact judgeTriggered_congr_of_consulted hnone
    · rw [judgeTriggered_of_consulted hnone, judgeTriggered_of_consulted hnone]
      refine congrArg Judgement.settled (Rule.valueFinding_validatorCheck_congr fun q hq => ?_)
      exact h q (mem_questions_recordRule.2 ⟨htriggered, hq⟩)
  · rfl

/-- The questions of a record are those of the rules of its report type. -/
theorem mem_inquiries {reportType : String} {q : Inquiry} :
    q ∈ e.inquiries p reportType record ↔
      ∃ r ∈ p.rules, r.appliesTo reportType = true ∧ q ∈ (e.recordRule p record r).questions := by
  rw [inquiries, Ordered.mem_ofList fun _ _ => Inquiry.eq_of_compare, recordAll,
    Recorded.questions_mapM]
  simp only [List.mem_flatMap, List.mem_filter, and_assoc]

/-- What a record says about the rules of a report type depends on the registers only
through the answers to the questions of the record. -/
theorem judgeAll_congr {reportType : String}
    (h : ∀ q ∈ e.inquiries p reportType record, known₁ q.1 q.2 = known₂ q.1 q.2) :
    { e with reference := some known₁ }.judgeAll p reportType record =
      { e with reference := some known₂ }.judgeAll p reportType record := by
  rw [judgeAll, judgeAll]
  refine List.map_congr_left fun r hr => ?_
  obtain ⟨hmem, happlies⟩ := List.mem_filter.1 hr
  exact judge_congr fun q hq => h q (mem_inquiries.2 ⟨r, hmem, happlies, hq⟩)

/-- The questions of a record are about codes that are their own normal form. -/
theorem normalizeCode_of_mem_inquiries {reportType : String} {q : Inquiry}
    (h : q ∈ e.inquiries p reportType record) : Text.normalizeCode q.2 = q.2 := by
  obtain ⟨r, -, -, hq⟩ := mem_inquiries.1 h
  obtain ⟨-, hq⟩ := mem_questions_recordRule.1 hq
  obtain ⟨v, -, text, -, hq⟩ := Rule.mem_questions_recordFinding.1 hq
  exact Rule.normalizeCode_of_mem_recordCheck hq

end Engine

/-! ### Kept answers -/

namespace ReferenceCodes

/-- The kept answers hold a code if it is the normal form of a code that was asked about
and known. -/
theorem contains_ofAnswers {inquiries : List Inquiry} {known : Lookup} {kind : ReferenceKind}
    {code : String} :
    (ofAnswers inquiries known).contains kind code = true ↔
      ∃ q ∈ inquiries, known q.1 q.2 = true ∧ kind = q.1 ∧
        Text.normalizeCode code = Text.normalizeCode q.2 := by
  suffices ∀ (qs : List Inquiry) (r : ReferenceCodes),
      (qs.foldl (fun r q => r.insert q.1 q.2) r).contains kind code = true ↔
        (∃ q ∈ qs, kind = q.1 ∧ Text.normalizeCode code = Text.normalizeCode q.2) ∨
          r.contains kind code = true by
    have hnothing : ({} : ReferenceCodes).contains kind code = false := by
      cases kind <;> rfl
    rw [ofAnswers, this, hnothing]
    simp only [List.mem_filter, Bool.false_eq_true, or_false, and_assoc]
  intro qs
  induction qs with
  | nil => simp
  | cons q qs ih =>
    intro r
    rw [List.foldl_cons, ih, contains_insert, List.exists_mem_cons_iff]
    constructor
    · rintro (h | h | h)
      · exact .inl (.inr h)
      · exact .inl (.inl h)
      · exact .inr h
    · rintro ((h | h) | h)
      · exact .inr (.inl h)
      · exact .inl h
      · exact .inr (.inr h)

/-- The kept answers to questions about normal forms agree with the registers. -/
theorem lookup_ofAnswers {inquiries : List Inquiry} {known : Lookup}
    (normal : ∀ q ∈ inquiries, Text.normalizeCode q.2 = q.2) {q : Inquiry} (hq : q ∈ inquiries) :
    (ofAnswers inquiries known).lookup q.1 q.2 = known q.1 q.2 := by
  rw [Bool.eq_iff_iff, lookup, contains_ofAnswers]
  constructor
  · rintro ⟨other, hother, hknown, hkind, hcode⟩
    rw [normal q hq, normal other hother] at hcode
    rw [hkind, hcode]
    exact hknown
  · intro hknown
    exact ⟨q, hq, hknown, rfl, rfl⟩

end ReferenceCodes

/-! ### Validation -/

namespace Engine

/-- Over the answers to its questions a record says about the rules what it says over the
registers. -/
theorem judgeAll_withAnswers (e : Engine) (p : Package) (reportType : String) (record : Json)
    (known : Lookup) :
    (e.withAnswers p reportType record known).judgeAll p reportType record =
      { e with reference := some known }.judgeAll p reportType record :=
  judgeAll_congr fun _ hq =>
    ReferenceCodes.lookup_ofAnswers (fun _ hq => normalizeCode_of_mem_inquiries hq) hq

/-- **Asking beforehand changes nothing.** For all registers, whatever they answer, and for
every engine, package, record and choice of a report type, validating against the answers
to the questions of the record has the outcome of validating against the registers: the
same error or the same report, and in a batch the same keys afterwards. -/
theorem validateAhead_eq_validate (e : Engine) (p : Package) (reportType : Option String)
    (record : Json) (known : Lookup) :
    e.validateAhead p reportType record known =
        { e with reference := some known }.validate p reportType record ∧
      ∀ (label : String) (b : Batch),
        e.validateAheadIn p reportType record known label b =
          { e with reference := some known }.validateIn p reportType record label b := by
  refine ⟨?_, fun label b => ?_⟩
  · rw [validateAhead, validate]
    refine congrArg (fun f => Except.map f _) (funext fun t => ?_)
    rw [reportAlone, ruleFindings, judgeAll_withAnswers]
    rfl
  · rw [validateAheadIn, validateIn]
    refine congrArg (fun f => Except.map f _) (funext fun t => ?_)
    rw [reportIn, judgeAll_withAnswers]
    rfl

end Engine

end RegulatoryReporting

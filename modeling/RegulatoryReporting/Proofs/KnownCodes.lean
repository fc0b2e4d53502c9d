import RegulatoryReporting.Proofs.RecordSequence
import RegulatoryReporting.Proofs.Verdict

/-!
# Registers That Know More

Validators and reference rules ask registers whether they know a code. A register that knows
more never makes a record worse: a text that is accepted stays accepted, because a validator
refuses a code only for not being known, and because a chain of validators accepts a text only
if each of its validators does. Messages may change: another validator of the chain may now be
the first to refuse.

Two runs of one engine with two registers are compared finding by finding
(`Finding.Improves`). What a record says about a rule is settled by findings that improve, or
is the same key (`Judgement.Improves`); so both runs leave the same batch, and the comparison
goes from one rule to the next and from one record to the next.

## Main results

* `Validator.refuses?_eq_none_mono` — what a validator accepts it still accepts.
* `Engine.improves_judge` — one rule, by its type.
* `Engine.improves_ruleFindingsOf`, `Engine.noWorse_report` — all rules of a record.
* `Engine.validateOf_mono` — a call, alone or in a batch.
-/

namespace RegulatoryReporting

/-- Every code that one register knows is known to the other. -/
def Lookup.Within (known more : Lookup) : Prop :=
  ∀ kind code, known kind code = true → more kind code = true

/-- Reference data knows what it knew before a code was added. -/
theorem ReferenceCodes.within_insert (r : ReferenceCodes) (kind : ReferenceKind)
    (code : String) : r.lookup.Within (r.insert kind code).lookup := by
  intro other asked hknown
  exact (contains_insert r kind other code asked).2 (.inr hknown)

/-- The engine with a register to ask. -/
def Engine.asking (e : Engine) (known : Lookup) : Engine := { e with reference := some known }

/-! ### Comparing findings -/

/-- One finding is as good as another about the same check: it differs in its message and
path at most, unless it has passed and the other has not. -/
structure Finding.Improves (f g : Finding) : Prop where
  subject : g.subject = f.subject
  code : g.code = f.code
  severity : g.severity = f.severity
  passed : f.passed = true → g.passed = true

/-- A finding is as good as itself. -/
theorem Finding.Improves.refl (f : Finding) : f.Improves f := ⟨rfl, rfl, rfl, id⟩

/-- A failure among better findings was a failure before. -/
theorem Finding.Improves.isFailureAt {f g : Finding} (h : f.Improves g) {severity : Severity}
    (hfailure : g.isFailureAt severity = true) : f.isFailureAt severity = true := by
  rw [Finding.isFailureAt, Bool.and_eq_true, Bool.not_eq_true'] at hfailure ⊢
  obtain ⟨hfailed, hseverity⟩ := hfailure
  refine ⟨?_, h.severity ▸ hseverity⟩
  cases hpassed : f.passed with
  | false => rfl
  | true =>
    rw [h.passed hpassed] at hfailed
    cases hfailed

/-- A judgement is settled by a better finding, or it is the same key. -/
inductive Judgement.Improves : Judgement → Judgement → Prop
  | settled {f g : Finding} (h : f.Improves g) : Improves (.settled f) (.settled g)
  | keyed (r : Rule) (key : Option (List String)) (path : String) :
    Improves (.keyed r key path) (.keyed r key path)

/-- A judgement is as good as itself. -/
theorem Judgement.Improves.refl : ∀ j : Judgement, j.Improves j
  | .settled f => .settled (.refl f)
  | .keyed r key path => .keyed r key path

variable {known more : Lookup}

/-! ### Validators -/

section

variable (h : known.Within more)

include h

/-- A code that is known stays known. -/
theorem notKnown?_eq_none_mono {kind : ReferenceKind} {value : String}
    (hnone : notKnown? kind (some known) value = none) :
    notKnown? kind (some more) value = none := by
  rw [notKnown?] at hnone ⊢
  split at hnone
  next hshape =>
    rw [if_pos hshape]
    by_cases hknown : known kind value = true
    · simp [h kind value hknown]
    · simp [hknown] at hnone
  · cases hnone

/-- What a validator accepts it still accepts. -/
theorem Validator.refuses?_eq_none_mono {v : Validator} {allowed : List String} {value : String}
    (hnone : v.refuses? allowed (some known) value = none) :
    v.refuses? allowed (some more) value = none := by
  rw [refuses?] at hnone ⊢
  cases v with
  | isoCurrency | isoCountry | micFormat => exact notKnown?_eq_none_mono h hnone
  | leiFormat | leiChecksum | isinFormat | isinChecksum | utiFormat | upiFormat | cfiFormat
  | enumValue => exact hnone

namespace Rule

/-- A text that all validators of a chain accept is still accepted by all of them. -/
theorem validatorCheck_eq_none_mono {validators : List Validator} {text : String}
    (hnone : validatorCheck validators (some known) text = none) :
    validatorCheck validators (some more) text = none := by
  rw [validatorCheck, List.findSome?_eq_none_iff] at hnone ⊢
  intro v hv
  exact Validator.refuses?_eq_none_mono h (hnone v hv)

/-- Values to which a chain of validators does not object are not objected to. -/
theorem objections_eq_nil_mono {validators : List Validator} {values : List AffectedValue}
    (hnil : objections (alike values (validatorCheck validators (some known))) = []) :
    objections (alike values (validatorCheck validators (some more))) = [] := by
  simp only [objections, alike, List.filterMap_map, List.filterMap_eq_nil_iff,
    Function.comp_apply, Option.map_eq_none_iff] at hnil ⊢
  intro v hv
  have hv := hnil v hv
  rw [AffectedValue.objection?] at hv ⊢
  cases hcontent : v.content with
  | absent => rfl
  | scalar text =>
    rw [hcontent] at hv
    exact validatorCheck_eq_none_mono h hv
  | compound text =>
    rw [hcontent] at hv
    cases hv

end Rule

end

/-! ### Rules -/

namespace Rule

variable {r : Rule}

/-- Checks that do not object any more give a better finding. -/
theorem improves_valueFinding {checks others : List (AffectedValue × TextCheck)}
    (h : objections checks = [] → objections others = []) :
    (r.valueFinding checks).Improves (r.valueFinding others) := by
  obtain ⟨hsubject, hcode, hseverity, hpassed⟩ := valueFinding_header (r := r) checks
  obtain ⟨hsubject', hcode', hseverity', hpassed'⟩ := valueFinding_header (r := r) others
  exact
    { subject := hsubject'.trans hsubject.symm
      code := hcode'.trans hcode.symm
      severity := hseverity'.trans hseverity.symm
      passed := fun hp => hpassed'.2 (h (hpassed.1 hp)) }

variable (h : known.Within more) (e : Engine) (values : List AffectedValue)

include h

/-- A format rule gives a better finding. -/
theorem improves_formatFinding :
    (formatFinding (e.asking known) r values).Improves
      (formatFinding (e.asking more) r values) := by
  rw [formatFinding, formatFinding]
  simp only [Engine.asking]
  cases e.catalog.validatorsFor r with
  | nil => exact .refl _
  | cons v vs => exact improves_valueFinding (objections_eq_nil_mono h)

/-- A reference rule gives a better finding. -/
theorem improves_referenceFinding :
    (referenceFinding (e.asking known) r values).Improves
      (referenceFinding (e.asking more) r values) := by
  rw [referenceFinding, referenceFinding]
  simp only [Engine.asking]
  cases e.catalog.registerFor? r with
  | none => exact .refl _
  | some kind => exact improves_valueFinding (objections_eq_nil_mono h)

end Rule

/-! ### Records -/

namespace Judgement

variable {j k : Judgement}

/-- Settled alone, a better judgement gives a better finding. -/
theorem Improves.settleAlone (h : j.Improves k) : j.settleAlone.Improves k.settleAlone := by
  cases h with
  | settled hf => exact hf
  | keyed r key path => exact .refl _

/-- Settled in a batch, a better judgement gives a better finding and leaves the same
batch. -/
theorem Improves.settleIn (h : j.Improves k) (label : String) (b : Batch) :
    (j.settleIn label b).1.Improves (k.settleIn label b).1 ∧
      (k.settleIn label b).2 = (j.settleIn label b).2 := by
  cases h with
  | settled hf => exact ⟨hf, rfl⟩
  | keyed r key path => exact ⟨.refl _, rfl⟩

/-- Settled in turn, better judgements give better findings, one by one, and leave the same
batch. -/
theorem improves_settleAllIn {js ks : List Judgement} (h : List.Forall₂ Improves js ks)
    (label : String) (b : Batch) :
    List.Forall₂ Finding.Improves (settleAllIn label js b).1 (settleAllIn label ks b).1 ∧
      (settleAllIn label ks b).2 = (settleAllIn label js b).2 := by
  induction h generalizing b with
  | nil => exact ⟨.nil, rfl⟩
  | @cons j k _ _ hj _ ih =>
    obtain ⟨hfinding, hbatch⟩ := hj.settleIn label b
    obtain ⟨hfindings, hafter⟩ := ih (j.settleIn label b).2
    rw [settleAllIn_cons, settleAllIn_cons, hbatch]
    exact ⟨.cons hfinding hfindings, hafter⟩

end Judgement

/-! ### Reports -/

/-- The place of a verdict, the best first. -/
def OverallStatus.rank : OverallStatus → Nat
  | pass => 0
  | warn => 1
  | fail => 2

/-- One report is no worse than another: neither its verdict nor its numbers of failures. -/
structure ValidationReport.NoWorse (report other : ValidationReport) : Prop where
  status : other.overallStatus.rank ≤ report.overallStatus.rank
  errors : other.counts.errors ≤ report.counts.errors
  warnings : other.counts.warnings ≤ report.counts.warnings
  infos : other.counts.infos ≤ report.counts.infos

/-- Better findings have no more failures of a severity. -/
theorem Finding.countP_isFailureAt_le {fs gs : List Finding}
    (h : List.Forall₂ Finding.Improves fs gs) (severity : Severity) :
    gs.countP (·.isFailureAt severity) ≤ fs.countP (·.isFailureAt severity) := by
  induction h with
  | nil => exact Nat.le_refl _
  | @cons f g _ _ hfg _ ih =>
    rw [List.countP_cons, List.countP_cons]
    by_cases hg : g.isFailureAt severity = true
    · have hf : f.isFailureAt severity = true := hfg.isFailureAt hg
      rw [if_pos hg, if_pos hf]
      omega
    · rw [if_neg hg]
      omega

/-- Findings without more failures of any severity have no worse verdict. -/
theorem OverallStatus.rank_ofFindings_le {fs gs : List Finding}
    (h : ∀ severity, gs.countP (·.isFailureAt severity) ≤ fs.countP (·.isFailureAt severity)) :
    (ofFindings gs).rank ≤ (ofFindings fs).rank := by
  have hany : ∀ severity, gs.any (·.isFailureAt severity) = true →
      fs.any (·.isFailureAt severity) = true := by
    intro severity hgs
    rw [List.any_eq_true, ← List.countP_pos_iff] at hgs ⊢
    have hle := h severity
    omega
  rw [ofFindings, ofFindings]
  by_cases herror : gs.any (·.isFailureAt .error) = true
  · rw [if_pos herror, if_pos (hany .error herror)]
  · rw [if_neg herror]
    by_cases hwarning : gs.any (·.isFailureAt .warning) = true
    · rw [if_pos hwarning, if_pos (hany .warning hwarning)]
      split <;> decide
    · rw [if_neg hwarning]
      exact Nat.zero_le _

namespace Engine

variable (h : known.Within more) (e : Engine) (p : Package) (record : Json)

include h

/-- A record says something better about a rule: format and reference rules ask the register,
and no other rule does. -/
theorem improves_judge (r : Rule) :
    ((e.asking known).judge p r record).Improves ((e.asking more).judge p r record) := by
  rw [judge, judge]
  have htriggers : (e.asking more).triggers r record = (e.asking known).triggers r record := rfl
  rw [htriggers]
  split
  · rw [judgeTriggered, judgeTriggered]
    cases r.type with
    | format => exact .settled (Rule.improves_formatFinding h e _)
    | referential => exact .settled (Rule.improves_referenceFinding h e _)
    | enum | enumeration | crossField | business | required | uniqueness => exact .refl _
  · exact .refl _

variable (reportType : String)

/-- A record says something better about each rule in scope. -/
theorem improves_judgeAll :
    List.Forall₂ Judgement.Improves ((e.asking known).judgeAll p reportType record)
      ((e.asking more).judgeAll p reportType record) := by
  rw [judgeAll, judgeAll, List.forall₂_map_left_iff, List.forall₂_map_right_iff,
    List.forall₂_same]
  intro r _
  exact improves_judge h e p record r

/-- The findings about the rules in scope get better, one by one. -/
theorem improves_ruleFindingsOf (batch : Option (String × Batch)) :
    List.Forall₂ Finding.Improves ((e.asking known).ruleFindingsOf p reportType record batch)
      ((e.asking more).ruleFindingsOf p reportType record batch) := by
  have hjudged := improves_judgeAll h e p record reportType
  cases batch with
  | none =>
    rw [ruleFindingsOf, ruleFindingsOf, ruleFindings, ruleFindings, List.forall₂_map_left_iff,
      List.forall₂_map_right_iff]
    exact hjudged.imp fun _ _ hj => hj.settleAlone
  | some place => exact (Judgement.improves_settleAllIn hjudged place.1 place.2).1

/-- A record leaves the same batch. -/
theorem reportIn_snd_eq (label : String) (b : Batch) :
    ((e.asking more).reportIn p reportType record label b).2 =
      ((e.asking known).reportIn p reportType record label b).2 :=
  (Judgement.improves_settleAllIn (improves_judgeAll h e p record reportType) label b).2

omit h in
/-- The findings about fields do not depend on the register. -/
theorem fieldFindings_asking :
    (e.asking known).fieldFindings p reportType record = e.fieldFindings p reportType record :=
  rfl

/-- The report on a record is no worse. -/
theorem noWorse_report (batch : Option (String × Batch)) :
    ((e.asking known).report p reportType record
        ((e.asking known).ruleFindingsOf p reportType record batch)).NoWorse
      ((e.asking more).report p reportType record
        ((e.asking more).ruleFindingsOf p reportType record batch)) := by
  have hcount : ∀ severity,
      (sortFindings ((e.asking more).fieldFindings p reportType record ++
        (e.asking more).ruleFindingsOf p reportType record batch)).countP
          (·.isFailureAt severity) ≤
      (sortFindings ((e.asking known).fieldFindings p reportType record ++
        (e.asking known).ruleFindingsOf p reportType record batch)).countP
          (·.isFailureAt severity) := by
    intro severity
    have hrules := Finding.countP_isFailureAt_le
      (improves_ruleFindingsOf h e p record reportType batch) severity
    rw [countP_sortFindings, countP_sortFindings, List.countP_append, List.countP_append,
      fieldFindings_asking, fieldFindings_asking]
    omega
  exact
    { status := OverallStatus.rank_ofFindings_le hcount
      errors := hcount .error
      warnings := hcount .warning
      infos := hcount .info }

/-- Every record of a list has a report that is no worse, under the same label, and the list
leaves the same batch. -/
theorem noWorse_outcomesFrom (index : Nat) (records : List Json) (b : Batch) :
    List.Forall₂ (fun o o' : RecordOutcome => o'.label = o.label ∧ o.report.NoWorse o'.report)
        ((e.asking known).outcomesFrom p reportType index records b)
        ((e.asking more).outcomesFrom p reportType index records b) ∧
      (e.asking more).batchFrom p reportType index records b =
        (e.asking known).batchFrom p reportType index records b := by
  induction records generalizing index b with
  | nil => exact ⟨.nil, rfl⟩
  | cons record rest ih =>
    have hbatch := reportIn_snd_eq h e p record reportType (indexLabel index) b
    have hreport := noWorse_report h e p record reportType (some (indexLabel index, b))
    obtain ⟨houtcomes, hafter⟩ :=
      ih (index + 1) ((e.asking known).reportIn p reportType record (indexLabel index) b).2
    rw [outcomesFrom, outcomesFrom, batchFrom, batchFrom, hbatch]
    exact ⟨.cons ⟨rfl, hreport⟩ houtcomes, hafter⟩

/-- **More known codes make no record worse.** Take any engine, package and record, alone or in
any state of a batch, and two registers, the second of which knows every code that the first
knows. For a report type that is accepted, both runs

* find the same about the fields,
* find about the rules, one by one, the same subjects, codes and severities, and what passes
  with the first register passes with the second,
* give reports, of which the second has no worse verdict and no more failed errors and
  warnings,
* leave the same batch behind, so that the next record can be compared in the same way. -/
theorem validateOf_mono {t : ReportType} {code : Option String}
    (hselect : p.selectReportType code = .ok t) (batch : Option (String × Batch)) :
    (e.asking more).fieldFindings p t.code record =
        (e.asking known).fieldFindings p t.code record ∧
      List.Forall₂ (fun f g : Finding => g.subject = f.subject ∧ g.code = f.code ∧
          g.severity = f.severity ∧ (f.passed = true → g.passed = true))
        ((e.asking known).ruleFindingsOf p t.code record batch)
        ((e.asking more).ruleFindingsOf p t.code record batch) ∧
      (∃ report other,
        (e.asking known).validateOf p record batch code = .ok report ∧
        (e.asking more).validateOf p record batch code = .ok other ∧
        report = (e.asking known).report p t.code record
          ((e.asking known).ruleFindingsOf p t.code record batch) ∧
        other = (e.asking more).report p t.code record
          ((e.asking more).ruleFindingsOf p t.code record batch) ∧
        other.overallStatus.rank ≤ report.overallStatus.rank ∧
        other.counts.errors ≤ report.counts.errors ∧
        other.counts.warnings ≤ report.counts.warnings) ∧
      ∀ label b, ((e.asking more).reportIn p t.code record label b).2 =
        ((e.asking known).reportIn p t.code record label b).2 := by
  have hrules := improves_ruleFindingsOf h e p record t.code batch
  have hreport := noWorse_report h e p record t.code batch
  refine ⟨rfl, ?_, ?_, ?_⟩
  · exact hrules.imp fun _ _ hfg => ⟨hfg.subject, hfg.code, hfg.severity, hfg.passed⟩
  · exact ⟨_, _, validateOf_of_select (e.asking known) p record batch hselect,
      validateOf_of_select (e.asking more) p record batch hselect, rfl, rfl,
      hreport.status, hreport.errors, hreport.warnings⟩
  · exact fun label b => reportIn_snd_eq h e p record t.code label b

end Engine

/-! ### A currency that becomes known -/

/-- A package with a format rule and a reference rule for the currency of a trade. -/
def Package.currencyPackage : Package where
  id := "CURRENCIES"
  regulationCode := "EMIR"
  version := "1"
  reportTypes := [{ code := "TRADE" }]
  rules := [
    { id := "R1", type := .format, severity := .warning, affectedFields := ["ccy"] },
    { id := "R2", type := .referential, severity := .error, affectedFields := ["ccy"] }]

/-- An engine whose format rule asks for a known currency and then for the shape of a
market. -/
def Engine.currencyEngine : Engine where
  catalog :=
    { validators := [("R1", [.isoCurrency, .micFormat])], registers := [("R2", .currency)] }

/-- Reference data that knows the dollar only. -/
def ReferenceCodes.dollar : ReferenceCodes := .ofLists ["USD"] [] []

/-- A trade in euros fails as long as only the dollar is known. Once the euro is known too, the
reference rule passes; the chain of the format rule still refuses the text, now by its second
validator, so the trade warns. -/
theorem Package.currencyPackage_improves :
    ∃ report other,
      (Engine.currencyEngine.asking ReferenceCodes.dollar.lookup).validateOf currencyPackage
        (.obj [("ccy", .str "EUR")]) none none = .ok report ∧
      (Engine.currencyEngine.asking
        (ReferenceCodes.dollar.insert .currency "eur").lookup).validateOf currencyPackage
          (.obj [("ccy", .str "EUR")]) none none = .ok other ∧
      report.overallStatus = .fail ∧ other.overallStatus = .warn ∧
      other.counts.errors ≤ report.counts.errors ∧
      other.counts.warnings ≤ report.counts.warnings := by
  have hwithin := ReferenceCodes.dollar.within_insert .currency "eur"
  have hselect : currencyPackage.selectReportType none = .ok { code := "TRADE" } := rfl
  obtain ⟨-, -, ⟨report, other, hreport, hother, heq, heq', -, herrors, hwarnings⟩, -⟩ :=
    Engine.validateOf_mono hwithin Engine.currencyEngine currencyPackage
      (.obj [("ccy", .str "EUR")]) hselect none
  refine ⟨report, other, hreport, hother, ?_, ?_, herrors, hwarnings⟩
  · rw [heq]
    decide +kernel
  · rw [heq']
    decide +kernel

end RegulatoryReporting

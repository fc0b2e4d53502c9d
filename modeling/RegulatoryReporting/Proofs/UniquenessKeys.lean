import RegulatoryReporting.Proofs.Collecting
import RegulatoryReporting.Proofs.FirstSeen
import RegulatoryReporting.Proofs.ReadValues
import RegulatoryReporting.Proofs.ValueOrder

/-!
# What the Same Key Means

The parts of a uniqueness key are texts: a scalar stands for itself as a text, an array or
object as compact JSON. Two records are told to be duplicates if these texts agree. This
module says what then holds of the values.

Values that are not strings are known from their texts. So values of the same text are the
same, unless one of them is a string. A string is the text of itself, of a number or truth
value, which it equals in the order of values, and of an array or object. The last case is
the only one in which the values are not equal (`Json.IsTextOf`).

All of this is about values with numbers that JSON can hold. The records of a file are of
this kind (`isRepresentable_of_readRecords`), so for them nothing need be assumed.

## Main results

* `Json.looselyEqual_or_isTextOf` — what the same text means for two values.
* `Engine.validateAll_agree` — what a duplicate says about the values of the two records.
* `Engine.duplicatesAgree_of_readRecords` — the same of all records that were read from a text.
-/

namespace RegulatoryReporting

namespace Json

/-! ### Texts of values -/

/-- The text of a value in a key: a scalar as its text, an array or object as compact
JSON. -/
def keyText (v : Json) : String := v.scalarText?.getD v.print

/-- The compact text of an array or object, as a string. -/
def IsTextOf (v w : Json) : Prop := v = str w.print ∧ w.isContainer = true

/-- The text of a value that is no string is its compact text. -/
theorem keyText_eq_print {v : Json} (hv : ∀ s, v ≠ str s) : v.keyText = v.print := by
  cases v with
  | str s => exact absurd rfl (hv s)
  | bool b => cases b <;> rfl
  | _ => rfl

/-- No character of a number is blank. -/
theorem isWhiteSpace_eq_false_of_isNumberChar {c : Char} (hc : isNumberChar c = true) :
    Text.isWhiteSpace c = false := by
  simp only [isNumberChar, Bool.or_eq_true, beq_iff_eq] at hc
  rcases hc with (((hdigit | rfl) | rfl) | rfl) | rfl
  · exact isWhiteSpace_eq_false_of_isDigit hdigit
  all_goals rfl

/-- The text of a number has no blanks around it. -/
theorem trim_text {n : Number} (hn : n.IsRepresentable) : Text.trim n.text = n.text := by
  rw [Text.trim, Text.trimList_of_forall fun c hc =>
    isWhiteSpace_eq_false_of_isNumberChar ((Number.text_spec hn).1 c hc), String.ofList_toList]

/-- The text of a number is read to the number. -/
theorem toNumber?_str_text {n : Number} (hn : n.IsRepresentable) :
    (str n.text).toNumber? = some n.toBinary64 := by
  obtain ⟨l, -, -, -, hread⟩ := Number.exists_literal_text hn
  rw [toNumber?, trim_text hn, hread]

/-- The text of a number or truth value, as a string, is equal to it on both sides. -/
theorem looselyEqual_str_print {v : Json} (hv : v.IsRepresentable) (hnull : v ≠ null)
    (hcontainer : v.isContainer = false) (hstr : ∀ s, v ≠ str s) :
    (str v.print).looselyEqual v = true ∧ v.looselyEqual (str v.print) = true := by
  cases hv with
  | null => exact absurd rfl hnull
  | bool b => cases b <;> decide
  | @num n hn =>
    have hread := toNumber?_str_text hn
    constructor
    · rw [looselyEqual, beq_iff_eq, compare, asNumbers?, print, hread]
      exact congrArg some (Binary64.compare_self _)
    · rw [looselyEqual, beq_iff_eq, compare, asNumbers?, print, hread]
      exact congrArg some (Binary64.compare_self _)
  | str s => exact absurd rfl (hstr s)
  | arr _ => cases hcontainer
  | obj _ => cases hcontainer

/-- **What the same text means.** Two values of the same text, none of them null, are equal,
or one of them is a string and the other one an array or object of which it is the text. -/
theorem looselyEqual_or_isTextOf {v w : Json} (hv : v.IsRepresentable) (hw : w.IsRepresentable)
    (hvnull : v ≠ null) (hwnull : w ≠ null) (h : v.keyText = w.keyText) :
    v.looselyEqual w = true ∨ v.IsTextOf w ∨ w.IsTextOf v := by
  by_cases hvstr : ∃ s, v = str s
  · obtain ⟨s, rfl⟩ := hvstr
    by_cases hwstr : ∃ t, w = str t
    · obtain ⟨t, rfl⟩ := hwstr
      obtain rfl : s = t := h
      exact .inl (looselyEqual_self hvnull)
    · have hwstr : ∀ t, w ≠ str t := not_exists.1 hwstr
      obtain rfl : s = w.print := h.trans (keyText_eq_print hwstr)
      cases hcontainer : w.isContainer with
      | true => exact .inr (.inl ⟨rfl, hcontainer⟩)
      | false => exact .inl (looselyEqual_str_print hw hwnull hcontainer hwstr).1
  · have hvstr : ∀ s, v ≠ str s := not_exists.1 hvstr
    rw [keyText_eq_print hvstr] at h
    by_cases hwstr : ∃ t, w = str t
    · obtain ⟨t, rfl⟩ := hwstr
      obtain rfl : v.print = t := h
      cases hcontainer : v.isContainer with
      | true => exact .inr (.inr ⟨rfl, hcontainer⟩)
      | false => exact .inl (looselyEqual_str_print hv hvnull hcontainer hvstr).2
    · rw [keyText_eq_print (not_exists.1 hwstr)] at h
      obtain rfl := eq_of_print_eq hv hw h
      exact .inl (looselyEqual_self hvnull)

/-! ### Values of a record -/

/-- A member of a representable value is representable. -/
theorem IsRepresentable.of_get? {v w : Json} {key : String} (h : v.IsRepresentable)
    (hget : v.get? key = some w) : w.IsRepresentable := by
  cases h with
  | obj each =>
    obtain ⟨before, after, hsplit, _⟩ := List.lookup_eq_some_iff.1 hget
    exact each (key, w) (hsplit ▸ List.mem_append_right _ List.mem_cons_self)
  | _ => cases hget

/-- The items of a representable value are representable. -/
theorem IsRepresentable.of_items? {v : Json} {items : List Json} (h : v.IsRepresentable)
    (hitems : v.items? = some items) : ∀ w ∈ items, w.IsRepresentable := by
  cases h with
  | arr each => exact Option.some.inj hitems ▸ each
  | _ => cases hitems

end Json

/-- A step of a path leads to a representable value. -/
theorem PathSegment.isRepresentable_of_step {segment : PathSegment} {v w : Json}
    (h : v.IsRepresentable) (hstep : segment.step v = some w) : w.IsRepresentable := by
  have hitem : ∀ {name : String} {items : List Json},
      (v.get? name).bind Json.items? = some items → ∀ w ∈ items, w.IsRepresentable := by
    intro name items hitems
    obtain ⟨u, hu, hitems⟩ := Option.bind_eq_some_iff.1 hitems
    exact (h.of_get? hu).of_items? hitems
  cases segment with
  | key name => exact h.of_get? hstep
  | filter name key value =>
    obtain ⟨items, hitems, hfind⟩ := Option.bind_eq_some_iff.1 hstep
    exact hitem hitems w (List.mem_of_find?_eq_some hfind)
  | index name i =>
    obtain ⟨items, hitems, hget⟩ := Option.bind_eq_some_iff.1 hstep
    exact hitem hitems w (List.mem_of_getElem? hget)

/-- The steps of a path lead to a representable value. -/
theorem isRepresentable_of_resolveSegments {segments : List PathSegment} {v w : Json}
    (h : v.IsRepresentable) (hresolve : resolveSegments segments v = some w) :
    w.IsRepresentable := by
  induction segments generalizing v with
  | nil => exact Option.some.inj hresolve ▸ h
  | cons segment rest ih =>
    obtain ⟨u, hstep, hrest⟩ := Option.bind_eq_some_iff.1 hresolve
    exact ih (segment.isRepresentable_of_step h hstep) hrest

/-- Every place of a representable record holds a representable value. -/
theorem isRepresentable_of_resolve {record v : Json} {path : String}
    (h : record.IsRepresentable) (hresolve : resolve record path = some v) :
    v.IsRepresentable := by
  rw [resolve] at hresolve
  split at hresolve
  next => exact isRepresentable_of_resolveSegments h hresolve
  next => cases hresolve

/-- A value that is present at a place of a representable record is representable, and it is
not null. -/
theorem isRepresentable_of_presentValue? {record v : Json} {path : String}
    (h : record.IsRepresentable) (hpresent : presentValue? record path = some v) :
    v.IsRepresentable ∧ v ≠ .null := by
  rw [presentValue?, Option.filter_eq_some_iff] at hpresent
  refine ⟨isRepresentable_of_resolve h hpresent.1, ?_⟩
  rintro rfl
  exact absurd hpresent.2 (by decide)

/-- Two records agree on an affected field: both have a value there, and these values are
equal, or one is a string and the other an array or object of which it is the text. -/
def Package.AgreeOn (p : Package) (field : String) (record other : Json) : Prop :=
  ∃ v w, presentValue? record (p.affectedPath field) = some v ∧
    presentValue? other (p.affectedPath field) = some w ∧
    (v.looselyEqual w = true ∨ v.IsTextOf w ∨ w.IsTextOf v)

/-- Whenever a record of a list is told to be a duplicate of another one of it, the rule is a
uniqueness rule, the other record comes before, and both agree on all affected fields. -/
def Package.DuplicatesAgree (p : Package) (records : List Json) (outcomes : List RecordOutcome) :
    Prop :=
  ∀ (i : Nat) (outcome : RecordOutcome), outcomes[i]? = some outcome →
    ∀ r ∈ p.rules, ∀ f ∈ outcome.report.findings, f.subject = r.id →
      ∀ j, f.Accuses (indexLabel j) →
        r.type = .uniqueness ∧ j < i ∧
          ∃ record other, records[i]? = some record ∧ records[j]? = some other ∧
            ∀ field ∈ r.affectedFields, p.AgreeOn field record other

namespace Engine

variable {e : Engine} {p : Package} {record other : Json} {r : Rule} {key : BatchKey}

/-- The key of a record for a rule has the texts of its values as parts. -/
theorem mapM_populatedText?_of_registeredKey? (h : e.registeredKey? p record r = some key) :
    r.affectedFields.mapM (p.populatedText? record) = some key.parts := by
  rw [registeredKey?] at h
  split at h
  next =>
    obtain ⟨parts, hparts, rfl⟩ := Option.map_eq_some_iff.1 h
    exact hparts
  next => cases h

/-- Records with one key for a rule agree on all of its affected fields. -/
theorem agreeOn_of_registeredKey? (hrecord : record.IsRepresentable)
    (hother : other.IsRepresentable) (hkey : e.registeredKey? p record r = some key)
    (hotherKey : e.registeredKey? p other r = some key) :
    ∀ field ∈ r.affectedFields, p.AgreeOn field record other := by
  intro field hfield
  obtain ⟨text, hv, hw⟩ := exists_eq_of_mapM_eq (mapM_populatedText?_of_registeredKey? hkey)
    (mapM_populatedText?_of_registeredKey? hotherKey) field hfield
  obtain ⟨v, hv, htext⟩ := Option.map_eq_some_iff.1 hv
  obtain ⟨w, hw, hsame⟩ := Option.map_eq_some_iff.1 hw
  obtain ⟨hvrep, hvnull⟩ := isRepresentable_of_presentValue? hrecord hv
  obtain ⟨hwrep, hwnull⟩ := isRepresentable_of_presentValue? hother hw
  exact ⟨v, w, hv, hw,
    Json.looselyEqual_or_isTextOf hvrep hwrep hvnull hwnull (htext.trans hsame.symm)⟩

/-- In every run over records whose numbers JSON can hold, duplicates agree. -/
theorem duplicatesAgree_of_validateAll {code : Option String} {records : List Json}
    {result : BatchReport} (hids : (p.rules.map (·.id)).Nodup)
    (hrecords : ∀ record ∈ records, record.IsRepresentable)
    (hrun : e.validateAll p code records = .ok result) :
    p.DuplicatesAgree records result.outcomes := by
  cases hselect : p.selectReportType code with
  | error fault =>
    obtain ⟨label, hfault⟩ := exists_validateAll_of_error (e := e) hselect records
    rw [hfault] at hrun
    cases hrun
  | ok t =>
    rw [validateAll_of_select hselect] at hrun
    obtain rfl := Except.ok.inj hrun
    intro i outcome houtcome r hr f hf hsubject j haccuses
    obtain ⟨record, hrecord, hreport⟩ := report_of_getElem?_outcomesFrom houtcome
    rw [hreport] at hf
    obtain ⟨found, hfound, key, k, hkey, hfoundId, hfirst, hhas, hk⟩ :=
      exists_accused_of_duplicate hrecord hf haccuses.1
    obtain rfl := haccuses.index_unique hfirst
    -- The ids are different, so the key of either record is one for this very rule.
    have hsame : ∀ s ∈ p.rulesFor t.code, s.id = r.id → s = r := fun s hs hid =>
      List.inj_on_of_nodup_map hids (List.mem_of_mem_filter hs) hr hid
    obtain rfl := hsame found hfound (hfoundId.symm.trans hsubject)
    obtain ⟨other, hother, s, hs, hotherKey⟩ := hhas
    obtain ⟨htype, hkeyRule, -⟩ := judge_of_registeredKey? hkey
    obtain ⟨-, hotherRule, -⟩ := judge_of_registeredKey? hotherKey
    obtain rfl := hsame s hs (hotherRule.symm.trans hkeyRule)
    have hnodup : (((p.rulesFor t.code).filter (·.type = .uniqueness)).map (·.id)).Nodup :=
      hids.sublist ((List.filter_sublist.trans List.filter_sublist).map _)
    exact ⟨htype, hk.resolve_right fun h => not_repeatsKeyAt_of_nodup hnodup h.2, record, other,
      hrecord, hother, agreeOn_of_registeredKey? (hrecords _ (List.mem_of_getElem? hrecord))
        (hrecords _ (List.mem_of_getElem? hother)) hkey hotherKey⟩

/-- **What a duplicate says about values.** For every engine, every package whose rules have
different ids and every list of records, their numbers being ones that JSON can hold: if the
report type is accepted, every record has an outcome. If a finding in it about a rule is a
duplicate, first seen in a record of the list, then the rule is a uniqueness rule, the other
record comes before, and for each affected field of the rule both records have a value: these
are equal in the order of values, or one of them is a string and the other one an array or
object of which it is the text. -/
theorem validateAll_agree (e : Engine) (p : Package) (hids : (p.rules.map (·.id)).Nodup)
    (code : Option String) (records : List Json)
    (hrecords : ∀ record ∈ records, record.IsRepresentable) :
    match p.selectReportType code with
    | .error fault => ∃ label, e.validateAll p code records = .error ⟨label, fault⟩
    | .ok _ =>
      ∃ result, e.validateAll p code records = .ok result ∧
        result.outcomes.length = records.length ∧
        ∀ (i : Nat) (outcome : RecordOutcome), result.outcomes[i]? = some outcome →
          ∀ r ∈ p.rules, ∀ f ∈ outcome.report.findings, f.subject = r.id →
            ∀ j, f.Accuses (indexLabel j) →
              r.type = .uniqueness ∧ j < i ∧
                ∃ record other, records[i]? = some record ∧ records[j]? = some other ∧
                  ∀ field ∈ r.affectedFields, p.AgreeOn field record other := by
  cases hselect : p.selectReportType code with
  | error fault => exact exists_validateAll_of_error hselect records
  | ok t =>
    have hrun := validateAll_of_select (e := e) hselect records
    exact ⟨_, hrun, length_outcomesFrom, duplicatesAgree_of_validateAll hids hrecords hrun⟩

/-- **What a duplicate says about the values of a file.** Records that were read from a text
agree on all affected fields whenever one is told to be a duplicate of another. -/
theorem duplicatesAgree_of_readRecords {text : String} {code : Option String}
    {records : List Json} {result : BatchReport} (hids : (p.rules.map (·.id)).Nodup)
    (hread : readRecords text = .ok records)
    (hrun : e.validateAll p code records = .ok result) :
    p.DuplicatesAgree records result.outcomes :=
  duplicatesAgree_of_validateAll hids (isRepresentable_of_readRecords hread) hrun

end Engine

namespace Package

/-- A package with one uniqueness rule. -/
def uniqueTradePackage : Package where
  id := "LEGS"
  regulationCode := "EMIR"
  version := "1"
  reportTypes := [{ code := "TRADE" }]
  rules := [{ id := "R1", type := .uniqueness, severity := .error, affectedFields := ["uti"] }]

/-- A record of this package. -/
def tradeOf (uti : Json) : Json := .obj [("uti", uti)]

/-- A number and its text are one key, and equal. -/
theorem tradeOf_number_agree :
    ∃ result, (default : Engine).validateAll uniqueTradePackage none
        [tradeOf (.num (.int 7)), tradeOf (.str "7")] = .ok result ∧
      (∃ outcome, result.outcomes[1]? = some outcome ∧
        ∃ f ∈ outcome.report.findings, f.Accuses (indexLabel 0)) ∧
      uniqueTradePackage.AgreeOn "uti" (tradeOf (.str "7")) (tradeOf (.num (.int 7))) := by
  have hseven : (Number.int 7).IsRepresentable := ⟨by decide +kernel, by decide +kernel⟩
  have hrecords : ∀ record ∈ [tradeOf (.num (.int 7)), tradeOf (.str "7")],
      record.IsRepresentable := by
    simp only [List.forall_mem_cons, List.not_mem_nil, false_implies, implies_true, and_true]
    exact ⟨.obj (List.forall_mem_singleton.2 (.num hseven)),
      .obj (List.forall_mem_singleton.2 (.str "7"))⟩
  have hselect : uniqueTradePackage.selectReportType none = .ok { code := "TRADE" } := rfl
  have hagree := Engine.validateAll_agree default uniqueTradePackage (by decide) none _ hrecords
  rw [hselect] at hagree
  obtain ⟨result, hresult, -, hagree⟩ := hagree
  obtain ⟨outcome, houtcome, f, hf, hsubject, haccuses⟩ :
      ∃ outcome, result.outcomes[1]? = some outcome ∧
        ∃ f ∈ outcome.report.findings, f.subject = "R1" ∧ f.Accuses (indexLabel 0) := by
    rw [Engine.validateAll_of_select hselect] at hresult
    obtain rfl := Except.ok.inj hresult
    exact ⟨_, rfl, ⟨"R1", .duplicate, .error, false, "duplicate key 7; first seen in record #0",
      some "uti"⟩, by decide +kernel, rfl, rfl, "7", by decide +kernel⟩
  obtain ⟨-, -, record, other, hrecord, hother, hfields⟩ :=
    hagree 1 outcome houtcome _ List.mem_cons_self f hf hsubject 0 haccuses
  obtain rfl := Option.some.inj hrecord
  obtain rfl := Option.some.inj hother
  exact ⟨result, hresult, ⟨outcome, houtcome, f, hf, haccuses⟩, hfields "uti" List.mem_cons_self⟩

/-- An array and the string that is its text are one key, and not equal. -/
theorem tradeOf_array_duplicate :
    uniqueTradePackage.verify = .ok () ∧ (uniqueTradePackage.rules.map (·.id)).Nodup ∧
      ∃ result, (default : Engine).validateAll uniqueTradePackage none
          [tradeOf (.arr [.str "U1"]), tradeOf (.str "[\"U1\"]")] = .ok result ∧
        ∃ outcome, result.outcomes[1]? = some outcome ∧
          ∃ f ∈ outcome.report.findings, f.subject = "R1" ∧ f.Accuses (indexLabel 0) ∧
            ∃ v w, presentValue? (tradeOf (.str "[\"U1\"]"))
                (uniqueTradePackage.affectedPath "uti") = some v ∧
              presentValue? (tradeOf (.arr [.str "U1"]))
                (uniqueTradePackage.affectedPath "uti") = some w ∧
              v.looselyEqual w = false := by
  refine ⟨by decide +kernel, by decide, _,
    Engine.validateAll_of_select rfl _, _, rfl,
    ⟨"R1", .duplicate, .error, false, "duplicate key [\"U1\"]; first seen in record #0",
      some "uti"⟩, by decide +kernel, rfl, ⟨rfl, "[\"U1\"]", by decide +kernel⟩, _, _, rfl, rfl, ?_⟩
  decide

end Package

end RegulatoryReporting

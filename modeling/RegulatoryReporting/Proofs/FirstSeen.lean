import RegulatoryReporting.Package.Verification
import RegulatoryReporting.Proofs.FieldFindings
import RegulatoryReporting.Proofs.RecordSequence

/-!
# The Record Seen First

A finding that a key is a duplicate names the record in which the key was seen first. In a
list of records this is a record of the list, and the label in the message is that of one
record only. It is never a later record. It is the record itself in one case: the record has
the key for two rules of one id, and no earlier record has it. The batch cannot tell these
rules apart, so the second one meets what the first one has left.

Rules of one id are accepted by the verification of a package. If the ids of the uniqueness
rules in scope are distinct, a duplicate always names an earlier record.

## Main results

* `Finding.Accuses.index_unique` — a message names one record.
* `Engine.exists_registeredKey?_of_duplicate` — what every duplicate rests on.
* `Engine.validateAll_accuses` — which records are named, and when a record names itself.
-/

namespace RegulatoryReporting

/-! ### The record that a finding names -/

/-- A duplicate, first seen in the record of a label. -/
def Finding.Accuses (f : Finding) (label : String) : Prop :=
  f.code = .duplicate ∧
    ∃ key, f.message = "duplicate key " ++ key ++ "; first seen in record " ++ label

/-- A label is a number sign and the digits of the index. -/
theorem toList_indexLabel (index : Nat) :
    (indexLabel index).toList = '#' :: Nat.toDigits 10 index := by
  rw [indexLabel, String.toList_append]
  exact congrArg ('#' :: ·) Nat.toList_repr

/-- Only one label can stand at the end of a text: it begins at the last number sign. -/
theorem eq_of_append_indexLabel_eq {s t : String} {i j : Nat}
    (h : s ++ indexLabel i = t ++ indexLabel j) : i = j := by
  have hlast : ∀ (s : String) (i : Nat),
      ((s ++ indexLabel i).toList.reverse.takeWhile (· != '#')).reverse = Nat.toDigits 10 i := by
    intro s i
    have hdigits : ∀ c ∈ (Nat.toDigits 10 i).reverse, (c != '#') = true := by
      intro c hc
      have hdigit := Nat.isDigit_of_mem_toDigits (by decide) (by decide) (List.mem_reverse.1 hc)
      rw [bne_iff_ne]
      rintro rfl
      exact absurd hdigit (by decide)
    rw [String.toList_append, toList_indexLabel, List.reverse_append, List.reverse_cons,
      List.append_assoc, List.takeWhile_append_of_pos hdigits, List.singleton_append,
      List.takeWhile_cons_of_neg (by decide), List.append_nil, List.reverse_reverse]
  have hdigits : Nat.toDigits 10 i = Nat.toDigits 10 j := by rw [← hlast s i, h, hlast]
  calc i = Nat.ofDigitChars 10 (Nat.toDigits 10 i) 0 := Nat.ofDigitChars_ten_toDigits.symm
    _ = Nat.ofDigitChars 10 (Nat.toDigits 10 j) 0 := by rw [hdigits]
    _ = j := Nat.ofDigitChars_ten_toDigits

/-- A finding names at most one record of a list. -/
theorem Finding.Accuses.index_unique {f : Finding} {i j : Nat}
    (hi : f.Accuses (indexLabel i)) (hj : f.Accuses (indexLabel j)) : i = j := by
  obtain ⟨-, key, hkey⟩ := hi
  obtain ⟨-, other, hother⟩ := hj
  exact eq_of_append_indexLabel_eq (hkey.symm.trans hother)

namespace Engine

variable {e : Engine} {p : Package} {reportType : String} {record : Json} {label : String}

/-! ### Duplicates of one record -/

/-- A rule of a record is settled against the history of the batch and what the record has
registered for the rules before it. -/
theorem settles_judge_after (e : Engine) (p : Package) (record : Json) (label : String)
    {history : List Registration} {b : Batch} (hb : b.Holds history) (before : List Rule)
    (r : Rule) :
    e.Settles p record label (history ++ e.registrations p record label before) r
      (e.batchAfter p record label before b)
      ((e.judge p r record).settleIn label (e.batchAfter p record label before b)).1
      ((e.judge p r record).settleIn label (e.batchAfter p record label before b)).2 :=
  settles_judge (holds_batchAfter hb before)

/-- A finding about the rules of a record is that of settling one of them in the batch that
the rules before it have left. -/
theorem exists_settleIn_of_mem_settleAllIn {rs : List Rule} {b : Batch} {f : Finding}
    (h : f ∈ (Judgement.settleAllIn label (rs.map fun r => e.judge p r record) b).1) :
    ∃ before r after, rs = before ++ r :: after ∧
      f = ((e.judge p r record).settleIn label (e.batchAfter p record label before b)).1 := by
  obtain ⟨n, hn, hf⟩ := List.getElem_of_mem h
  have hrule : n < rs.length := by simpa using hn
  have hrules : rs = rs.take n ++ rs[n] :: rs.drop (n + 1) := by
    rw [List.cons_getElem_drop_succ, List.take_append_drop]
  have hplace : (Judgement.settleAllIn label
      ((rs.take n ++ rs[n] :: rs.drop (n + 1)).map fun r => e.judge p r record)
        b).1[(rs.take n).length]? =
      some ((e.judge p rs[n] record).settleIn label
        (e.batchAfter p record label (rs.take n) b)).1 :=
    getElem?_settleAllIn _ _
  rw [← hrules, List.length_take_of_le hrule.le, List.getElem?_eq_getElem hn] at hplace
  exact ⟨_, _, _, hrules, hf.symm.trans (Option.some.inj hplace)⟩

/-- A finding about one of the rules of a record is in its report. -/
theorem mem_findings_of_settleIn {before after : List Rule} {r : Rule} {b : Batch}
    (hrules : p.rulesFor reportType = before ++ r :: after) :
    ((e.judge p r record).settleIn label (e.batchAfter p record label before b)).1 ∈
      (e.reportIn p reportType record label b).1.findings := by
  refine mem_sortFindings.2 (List.mem_append_right _ ?_)
  rw [judgeAll, ← Package.rulesFor, hrules]
  exact List.mem_of_getElem? (getElem?_settleAllIn before after)

/-- Every duplicate of a record in a batch rests on a key of the record for one of its
rules; the message names the first record that the history has for this key. -/
theorem exists_registeredKey?_of_duplicate {history : List Registration} {b : Batch}
    {f : Finding} (hb : b.Holds history)
    (hf : f ∈ (e.reportIn p reportType record label b).1.findings) (hcode : f.code = .duplicate) :
    ∃ before r after key first, p.rulesFor reportType = before ++ r :: after ∧
      e.registeredKey? p record r = some key ∧
      (history ++ e.registrations p record label before).lookup key = some first ∧
      f.subject = r.id ∧ f.Accuses first := by
  have hrule : f ∈ (Judgement.settleAllIn label (e.judgeAll p reportType record) b).1 := by
    refine (List.mem_append.1 (mem_sortFindings.1 hf)).resolve_left fun hfield => ?_
    obtain ⟨field, -, hfield⟩ := List.mem_flatMap.1 hfield
    exact field.code_ne_duplicate_of_mem_findings _ _ _ hfield hcode
  obtain ⟨before, r, after, hrules, rfl⟩ := exists_settleIn_of_mem_settleAllIn hrule
  have hsettles := settles_judge_after e p record label hb before r
  obtain ⟨key, hkey, hseen⟩ := hsettles.duplicate_iff.1 hcode
  cases hfirst : (history ++ e.registrations p record label before).lookup key with
  | none =>
    obtain ⟨entry, hentry, rfl⟩ := List.mem_map.1 hseen
    simpa using List.lookup_eq_none_iff.1 hfirst entry hentry
  | some first =>
    obtain ⟨-, -, hmessage, -⟩ := hsettles.seen key first hkey hfirst
    exact ⟨before, r, after, key, first, hrules, hkey, hfirst,
      ((e.isAbout_judge p r record).finds_settleIn _ _).subject_eq, hcode, _, hmessage⟩

/-! ### What was seen before -/

/-- What a record has registered is known under its label. -/
theorem lookup_registrations_eq_some_iff {rs : List Rule} {key : BatchKey} {first : String} :
    (e.registrations p record label rs).lookup key = some first ↔
      first = label ∧ ∃ r ∈ rs, e.registeredKey? p record r = some key := by
  constructor
  · intro h
    obtain ⟨before, after, hsplit, -⟩ := List.lookup_eq_some_iff.1 h
    exact mem_registrations.1 (hsplit ▸ List.mem_append_right _ List.mem_cons_self)
  · rintro ⟨rfl, hkey⟩
    cases hlookup : (e.registrations p record first rs).lookup key with
    | none =>
      have hmem : (key, first) ∈ e.registrations p record first rs :=
        mem_registrations.2 ⟨rfl, hkey⟩
      simpa using List.lookup_eq_none_iff.1 hlookup _ hmem
    | some other =>
      obtain ⟨before, after, hsplit, -⟩ := List.lookup_eq_some_iff.1 hlookup
      have hmem : (key, other) ∈ e.registrations p record first rs :=
        hsplit ▸ List.mem_append_right _ List.mem_cons_self
      rw [(mem_registrations.1 hmem).1]

section

variable {records : List Json} {i : Nat} {key : BatchKey}

/-- A record of a list has a key for one of the rules in scope. -/
def HasKeyAt (e : Engine) (p : Package) (reportType : String) (records : List Json)
    (i : Nat) (key : BatchKey) : Prop :=
  ∃ record, records[i]? = some record ∧
    ∃ r ∈ p.rulesFor reportType, e.registeredKey? p record r = some key

/-- A record of a list has one key for two of the rules in scope, and none of the records
before has this key. -/
def RepeatsKeyAt (e : Engine) (p : Package) (reportType : String) (records : List Json)
    (i : Nat) : Prop :=
  ∃ record key before r after, records[i]? = some record ∧
    p.rulesFor reportType = before ++ r :: after ∧
    (∃ other ∈ before, e.registeredKey? p record other = some key) ∧
    e.registeredKey? p record r = some key ∧
    ∀ j < i, ¬ e.HasKeyAt p reportType records j key

/-- What was registered by the records before an index was registered by one of them, under
the label of its own index. -/
theorem exists_hasKeyAt_of_mem_registrationsFrom {first : String}
    (h : (key, first) ∈ e.registrationsFrom p reportType 0 (records.take i)) :
    ∃ j < i, first = indexLabel j ∧ e.HasKeyAt p reportType records j key := by
  obtain ⟨j, record, hrecord, hfirst, hkey⟩ := mem_registrationsFrom.1 h
  rw [List.getElem?_take] at hrecord
  split at hrecord
  next hj => exact ⟨j, hj, by rw [hfirst, Nat.zero_add], record, hrecord, hkey⟩
  next => cases hrecord

/-- A key is unknown to the records before an index exactly when none of them has it. -/
theorem lookup_registrationsFrom_eq_none_iff :
    (e.registrationsFrom p reportType 0 (records.take i)).lookup key = none ↔
      ∀ j < i, ¬ e.HasKeyAt p reportType records j key := by
  rw [List.lookup_eq_none_iff]
  constructor
  · rintro h j hj ⟨record, hrecord, hkey⟩
    have hmem : (key, indexLabel j) ∈ e.registrationsFrom p reportType 0 (records.take i) :=
      mem_registrationsFrom.2 ⟨j, record, by rw [List.getElem?_take, if_pos hj, hrecord],
        by rw [Nat.zero_add], hkey⟩
    simpa using h _ hmem
  · rintro h ⟨other, first⟩ hmem
    rw [bne_iff_ne]
    rintro rfl
    obtain ⟨j, hj, -, hkey⟩ := exists_hasKeyAt_of_mem_registrationsFrom hmem
    exact h j hj hkey

/-! ### Duplicates in a list of records -/

/-- The report on a record of a list, in the batch that the records before have left. -/
def reportAt (e : Engine) (p : Package) (reportType : String) (records : List Json) (i : Nat)
    (record : Json) : ValidationReport :=
  (e.reportIn p reportType record (indexLabel i)
    (e.batchFrom p reportType 0 (records.take i) .empty)).1

/-- The batch that the records before an index have left. -/
theorem holds_batchFrom_take (e : Engine) (p : Package) (reportType : String)
    (records : List Json) (i : Nat) :
    (e.batchFrom p reportType 0 (records.take i) .empty).Holds
      (e.registrationsFrom p reportType 0 (records.take i)) :=
  holds_batchFrom .empty (records.take i)

/-- Every duplicate of a record of a list names a record that has the key: one before it, or
the record itself, which then repeats the key. -/
theorem exists_accused_of_duplicate {f : Finding} (hrecord : records[i]? = some record)
    (hf : f ∈ (e.reportAt p reportType records i record).findings)
    (hcode : f.code = .duplicate) :
    ∃ r ∈ p.rulesFor reportType, ∃ key j, e.registeredKey? p record r = some key ∧
      f.subject = r.id ∧ f.Accuses (indexLabel j) ∧ e.HasKeyAt p reportType records j key ∧
      (j < i ∨ j = i ∧ e.RepeatsKeyAt p reportType records i) := by
  obtain ⟨before, r, after, key, first, hrules, hkey, hfirst, hsubject, haccuses⟩ :=
    exists_registeredKey?_of_duplicate (holds_batchFrom_take e p reportType records i) hf hcode
  have hr : r ∈ p.rulesFor reportType := hrules ▸ List.mem_append_right _ List.mem_cons_self
  rw [List.lookup_append] at hfirst
  cases hearlier : (e.registrationsFrom p reportType 0 (records.take i)).lookup key with
  | some earlier =>
    rw [hearlier, Option.some_or] at hfirst
    obtain rfl := Option.some.inj hfirst
    obtain ⟨_, _, hsplit, -⟩ := List.lookup_eq_some_iff.1 hearlier
    obtain ⟨j, hj, rfl, hhas⟩ := exists_hasKeyAt_of_mem_registrationsFrom
      (hsplit ▸ List.mem_append_right _ List.mem_cons_self)
    exact ⟨r, hr, key, j, hkey, hsubject, haccuses, hhas, .inl hj⟩
  | none =>
    rw [hearlier, Option.none_or, lookup_registrations_eq_some_iff] at hfirst
    obtain ⟨rfl, hother⟩ := hfirst
    exact ⟨r, hr, key, i, hkey, hsubject, haccuses, ⟨record, hrecord, r, hr, hkey⟩,
      .inr ⟨rfl, record, key, before, r, after, hrecord, hrules, hother, hkey,
        lookup_registrationsFrom_eq_none_iff.1 hearlier⟩⟩

/-- A record that repeats a key is named by its own report. -/
theorem exists_accuses_of_repeatsKeyAt (hrecord : records[i]? = some record)
    (h : e.RepeatsKeyAt p reportType records i) :
    ∃ f ∈ (e.reportAt p reportType records i record).findings, f.Accuses (indexLabel i) := by
  obtain ⟨repeating, key, before, r, after, hrepeating, hrules, hother, hkey, hnew⟩ := h
  obtain rfl := Option.some.inj (hrecord.symm.trans hrepeating)
  have hsettles := settles_judge_after e p record (indexLabel i)
    (holds_batchFrom_take e p reportType records i) before r
  have hfirst : (e.registrationsFrom p reportType 0 (records.take i) ++
      e.registrations p record (indexLabel i) before).lookup key = some (indexLabel i) := by
    rw [List.lookup_append, lookup_registrationsFrom_eq_none_iff.2 hnew, Option.none_or,
      lookup_registrations_eq_some_iff]
    exact ⟨rfl, hother⟩
  have hseen : key ∈ (e.registrationsFrom p reportType 0 (records.take i) ++
      e.registrations p record (indexLabel i) before).map Prod.fst := by
    obtain ⟨_, _, hsplit, -⟩ := List.lookup_eq_some_iff.1 hfirst
    exact List.mem_map_of_mem (hsplit ▸ List.mem_append_right _ List.mem_cons_self)
  obtain ⟨-, -, hmessage, -⟩ := hsettles.seen key _ hkey hfirst
  exact ⟨_, mem_findings_of_settleIn hrules, hsettles.duplicate_iff.2 ⟨key, hkey, hseen⟩, _,
    hmessage⟩

/-- No record repeats a key if the uniqueness rules in scope have different ids. -/
theorem not_repeatsKeyAt_of_nodup
    (h : (((p.rulesFor reportType).filter (·.type = .uniqueness)).map (·.id)).Nodup) :
    ¬ e.RepeatsKeyAt p reportType records i := by
  rintro ⟨record, key, before, r, after, -, hrules, ⟨other, hother, hotherKey⟩, hkey, -⟩
  obtain ⟨htype, hid, -⟩ := judge_of_registeredKey? hkey
  obtain ⟨hotherType, hotherId, -⟩ := judge_of_registeredKey? hotherKey
  rw [hrules, List.filter_append, List.filter_cons_of_pos (by simpa using htype),
    List.map_append, List.map_cons, List.nodup_append] at h
  refine h.2.2 other.id ?_ r.id List.mem_cons_self (hotherId.symm.trans hid)
  exact List.mem_map_of_mem (List.mem_filter.2 ⟨hother, by simpa using hotherType⟩)

/-- The outcome of a record of a list is its report. -/
theorem report_of_getElem?_outcomesFrom {outcome : RecordOutcome}
    (h : (e.outcomesFrom p reportType 0 records .empty)[i]? = some outcome) :
    ∃ record, records[i]? = some record ∧
      outcome.report = e.reportAt p reportType records i record := by
  rw [getElem?_outcomesFrom, Option.map_eq_some_iff, Nat.zero_add] at h
  obtain ⟨record, hrecord, rfl⟩ := h
  exact ⟨record, hrecord, rfl⟩

end

/-- **Which record a duplicate names.** For every engine, package and list of records: if the
report type is accepted, every record has an outcome. Each duplicate in it names exactly one
record of the list, and no later one. It names the record itself if and only if the record
has one key for two rules in scope and no record before has this key. If the uniqueness
rules in scope have different ids, it always names a record before. -/
theorem validateAll_accuses (e : Engine) (p : Package) (code : Option String)
    (records : List Json) :
    match p.selectReportType code with
    | .error fault => ∃ label, e.validateAll p code records = .error ⟨label, fault⟩
    | .ok t =>
      ∃ result, e.validateAll p code records = .ok result ∧
        result.outcomes.length = records.length ∧
        ∀ i outcome, result.outcomes[i]? = some outcome →
          (∀ f ∈ outcome.report.findings, f.code = .duplicate →
            ∃ j ≤ i, ∀ k, f.Accuses (indexLabel k) ↔ k = j) ∧
          ((∃ f ∈ outcome.report.findings, f.Accuses (indexLabel i)) ↔
            e.RepeatsKeyAt p t.code records i) ∧
          ((((p.rulesFor t.code).filter (·.type = .uniqueness)).map (·.id)).Nodup →
            ∀ f ∈ outcome.report.findings, f.code = .duplicate →
              ∃ j < i, f.Accuses (indexLabel j)) := by
  cases hselect : p.selectReportType code with
  | error fault => exact exists_validateAll_of_error hselect records
  | ok t =>
    refine ⟨_, validateAll_of_select hselect records, length_outcomesFrom, ?_⟩
    intro i outcome houtcome
    obtain ⟨record, hrecord, hreport⟩ := report_of_getElem?_outcomesFrom houtcome
    rw [hreport]
    refine ⟨fun f hf hcode => ?_, ⟨?_, exists_accuses_of_repeatsKeyAt hrecord⟩, ?_⟩
    · obtain ⟨_, _, _, j, _, _, haccuses, _, hj⟩ := exists_accused_of_duplicate hrecord hf hcode
      refine ⟨j, by omega, fun k => ⟨fun hk => hk.index_unique haccuses, ?_⟩⟩
      rintro rfl
      exact haccuses
    · rintro ⟨f, hf, hself⟩
      obtain ⟨_, _, _, j, _, _, haccuses, _, hj⟩ :=
        exists_accused_of_duplicate hrecord hf hself.1
      obtain rfl := hself.index_unique haccuses
      exact (hj.resolve_left (Nat.lt_irrefl i)).2
    · intro hnodup f hf hcode
      obtain ⟨_, _, _, j, _, _, haccuses, _, hj⟩ := exists_accused_of_duplicate hrecord hf hcode
      exact ⟨j, hj.resolve_right fun h => not_repeatsKeyAt_of_nodup hnodup h.2, haccuses⟩

end Engine

/-! ### Rules of one id -/

/-- A package with a uniqueness rule that is written twice. -/
def Package.twiceWrittenPackage : Package where
  id := "TWICE"
  regulationCode := "EMIR"
  version := "1"
  reportTypes := [{ code := "TRADE" }]
  rules := List.replicate 2
    { id := "R1", type := .uniqueness, severity := .error, affectedFields := ["uti"] }

/-- A record of this package. -/
def Package.singleTrade : Json := .obj [("uti", .str "U1")]

/-- Rules of one id are accepted, and with them a record that is validated on its own in a
new batch is said to be its own duplicate. -/
theorem Package.singleTrade_accuses_itself :
    twiceWrittenPackage.verify = .ok () ∧
      ∃ result, (default : Engine).validateAll twiceWrittenPackage none [singleTrade] =
          .ok result ∧
        ∃ outcome, result.outcomes[0]? = some outcome ∧
          ∃ f ∈ outcome.report.findings, f.Accuses (indexLabel 0) := by
  refine ⟨by decide +kernel, _, Engine.validateAll_of_select rfl _, _,
    rfl, ⟨"R1", .duplicate, .error, false, "duplicate key U1; first seen in record #0",
      some "uti"⟩, by decide +kernel, rfl, "U1", by decide +kernel⟩

end RegulatoryReporting

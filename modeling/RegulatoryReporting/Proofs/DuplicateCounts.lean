import Mathlib.Algebra.Order.Ring.Nat
import RegulatoryReporting.Proofs.FieldFindings
import RegulatoryReporting.Proofs.RecordSequence
import RegulatoryReporting.Proofs.Verdict

/-!
# Counting Duplicates

Which record is reported as a duplicate, and which record it is compared with, depends on the
order of the records. How many duplicates there are does not: a key that is registered `n`
times, over all records and all rules in scope, is a duplicate all but the first time.

The reason is a balance. A registration either finds its key in the batch, which gives a
duplicate, or adds the key to the batch. So duplicates and keys of the batch together grow by
one with every registration (`Engine.balance_settleIn`), over the rules of a record
(`Engine.balance_settleAllIn`) and over the records of a list (`Engine.balance_batchFrom`).
The balance holds for all keys together, counted by the size of the batch, and for each key
alone, counted by whether the batch knows it (`Batch.Counts`).

## Main results

* `Engine.balance_batchFrom` — duplicates and keys add up to the registrations.
* `Engine.duplicatesOf_eq` — how often a key is a duplicate.
* `Engine.duplicates_of_perm` — the order of the records does not matter.
-/

namespace RegulatoryReporting

/-! ### Counting the keys of a batch -/

/-- A measure of batches counts the wanted keys: it is zero for the empty batch, and a
registration raises it by one if it adds a wanted key, else not at all. -/
structure Batch.Counts (wanted : BatchKey → Bool) (measure : Batch → Nat) : Prop where
  empty : measure .empty = 0
  register : ∀ (b : Batch) (key : BatchKey) (label : String),
    measure (b.register key label).2 =
      measure b + if wanted key && (b.first? key).isNone then 1 else 0

/-- The size of a batch counts all keys. -/
theorem Batch.counts_size : Counts (fun _ => true) size where
  empty := rfl
  register b key label := by rw [size_register, Bool.true_and]

/-- Whether a batch knows a key, as a number. -/
def Batch.known (key : BatchKey) (b : Batch) : Nat := if (b.first? key).isSome then 1 else 0

/-- Knowing a key counts this key only. -/
theorem Batch.counts_known (key : BatchKey) : Counts (· == key) (known key) where
  empty := rfl
  register b other label := by
    rw [known, first?_register, known]
    by_cases h : other = key
    · subst h
      cases b.first? other <;> simp
    · have hne : (other == key) = false := beq_eq_false_iff_ne.2 h
      rw [if_neg (Ne.symm h), hne]
      simp

/-- The number of duplicates in the reports on a batch. -/
def BatchReport.duplicates (r : BatchReport) : Nat :=
  (r.outcomes.map fun o => o.report.findings.countP (·.code == .duplicate)).sum

namespace Engine

variable (e : Engine) (p : Package)

/-! ### Counting duplicates and registrations -/

/-- How many rules a record has a wanted key for. -/
def registrationsAmong (record : Json) (wanted : BatchKey → Bool) (rs : List Rule) : Nat :=
  rs.countP fun r => (e.registeredKey? p record r).any wanted

/-- How many findings of a record are duplicates of a wanted key, each finding standing where
its rule stands. -/
def duplicatesAmong (record : Json) (wanted : BatchKey → Bool) (rs : List Rule)
    (fs : List Finding) : Nat :=
  (rs.zip fs).countP fun entry =>
    entry.2.code == .duplicate && (e.registeredKey? p record entry.1).any wanted

variable (reportType : String)

/-- The findings about rules that records from an index on get, given the batch of those
before. -/
def ruleFindingsFrom : Nat → List Json → Batch → List (List Finding)
  | _, [], _ => []
  | index, record :: rest, b =>
    e.ruleFindingsOf p reportType record (some (indexLabel index, b)) ::
      ruleFindingsFrom (index + 1) rest (e.reportIn p reportType record (indexLabel index) b).2

/-- How many wanted keys the records of a list register, each for the rules in scope. -/
def wantedRegistrations (wanted : BatchKey → Bool) (records : List Json) : Nat :=
  (records.map fun record =>
    e.registrationsAmong p record wanted (p.rulesFor reportType)).sum

/-- How many findings about records from an index on are duplicates of a wanted key, given
the batch of those before. -/
def wantedDuplicates (wanted : BatchKey → Bool) (index : Nat) (records : List Json)
    (b : Batch) : Nat :=
  (List.zipWith (fun record => e.duplicatesAmong p record wanted (p.rulesFor reportType))
    records (e.ruleFindingsFrom p reportType index records b)).sum

/-- How often records register a key, over all records and all rules in scope. -/
def registrationsOf (records : List Json) (key : BatchKey) : Nat :=
  e.wantedRegistrations p reportType (· == key) records

/-- How often a key is a duplicate when records are validated as one batch. -/
def duplicatesOf (records : List Json) (key : BatchKey) : Nat :=
  e.wantedDuplicates p reportType (· == key) 0 records .empty

/-! ### The balance -/

section

variable (record : Json) (label : String) {wanted : BatchKey → Bool} {measure : Batch → Nat}
  (h : Batch.Counts wanted measure)

include h

/-- The balance of one rule: its registration is a duplicate, or it adds a key. -/
theorem balance_settleIn (r : Rule) (b : Batch) :
    (if ((e.judge p r record).settleIn label b).1.code == .duplicate &&
        (e.registeredKey? p record r).any wanted then 1 else 0) +
      measure ((e.judge p r record).settleIn label b).2 =
    (if (e.registeredKey? p record r).any wanted then 1 else 0) + measure b := by
  cases hkey : e.registeredKey? p record r with
  | none =>
    obtain ⟨hafter, -⟩ := settleIn_judge_of_registeredKey?_none label b hkey
    simp [hafter]
  | some key =>
    rw [settleIn_judge_of_registeredKey? hkey, h.register]
    cases b.first? key with
    | none =>
      have hcode : ((r.keyFinding key.parts (Rule.keyPath (p.affectedValues r record)) none).code ==
        .duplicate) = false := rfl
      simp only [hcode, Bool.false_and, Option.any_some, Option.isNone_none, Bool.and_true]
      rw [if_neg Bool.false_ne_true, Nat.zero_add, Nat.add_comm]
    | some first =>
      have hcode : ((r.keyFinding key.parts (Rule.keyPath (p.affectedValues r record))
        (some first)).code == .duplicate) = true := rfl
      simp only [hcode, Bool.true_and, Option.any_some, Option.isNone_some, Bool.and_false]
      simp

/-- The balance of the rules of a record. -/
theorem balance_settleAllIn (rs : List Rule) (b : Batch) :
    e.duplicatesAmong p record wanted rs
        (Judgement.settleAllIn label (rs.map fun r => e.judge p r record) b).1 +
      measure (Judgement.settleAllIn label (rs.map fun r => e.judge p r record) b).2 =
    e.registrationsAmong p record wanted rs + measure b := by
  induction rs generalizing b with
  | nil => rfl
  | cons r rs ih =>
    have hstep := balance_settleIn e p record label h r b
    have hrest := ih ((e.judge p r record).settleIn label b).2
    rw [duplicatesAmong, registrationsAmong] at hrest ⊢
    rw [List.map_cons, Judgement.settleAllIn_cons, List.zip_cons_cons, List.countP_cons,
      List.countP_cons]
    dsimp only
    omega

/-- The balance of the records of a list: duplicates and keys add up to the registrations. -/
theorem balance_batchFrom (index : Nat) (records : List Json) (b : Batch) :
    e.wantedDuplicates p reportType wanted index records b +
      measure (e.batchFrom p reportType index records b) =
    e.wantedRegistrations p reportType wanted records + measure b := by
  induction records generalizing index b with
  | nil => rfl
  | cons record rest ih =>
    have hrecord := balance_settleAllIn e p record (indexLabel index) h (p.rulesFor reportType) b
    have hrest := ih (index + 1) (e.reportIn p reportType record (indexLabel index) b).2
    rw [wantedDuplicates, wantedRegistrations] at hrest ⊢
    rw [ruleFindingsFrom, List.zipWith_cons_cons, List.sum_cons, List.map_cons, List.sum_cons,
      batchFrom]
    have hafter : (e.reportIn p reportType record (indexLabel index) b).2 =
      (Judgement.settleAllIn (indexLabel index)
        ((p.rulesFor reportType).map fun r => e.judge p r record) b).2 := rfl
    have hfindings : e.ruleFindingsOf p reportType record (some (indexLabel index, b)) =
      (Judgement.settleAllIn (indexLabel index)
        ((p.rulesFor reportType).map fun r => e.judge p r record) b).1 := rfl
    rw [hafter] at hrest
    rw [hafter, hfindings]
    omega

end

/-! ### Keys -/

section

variable {e p reportType} {records : List Json} {key : BatchKey}

/-- A key is registered exactly if some record has it for a rule in scope. -/
theorem registrationsOf_pos_iff :
    0 < e.registrationsOf p reportType records key ↔
      ∃ record ∈ records, ∃ r ∈ p.rulesFor reportType,
        e.registeredKey? p record r = some key := by
  rw [registrationsOf, wantedRegistrations, List.sum_pos_iff_exists_pos_nat]
  simp only [List.mem_map, exists_exists_and_eq_and, registrationsAmong, List.countP_pos_iff]
  constructor
  · rintro ⟨record, hrecord, r, hr, hany⟩
    obtain ⟨found, hfound, hsame⟩ := (Option.any_eq_true _ _).1 hany
    exact ⟨record, hrecord, r, hr, eq_of_beq hsame ▸ hfound⟩
  · rintro ⟨record, hrecord, r, hr, hkey⟩
    exact ⟨record, hrecord, r, hr, by simp [hkey]⟩

/-- In the end the batch holds what the records have registered. -/
theorem holds_batchFrom_empty :
    (e.batchFrom p reportType 0 records .empty).Holds
      (e.registrationsFrom p reportType 0 records) := by
  simpa using holds_batchFrom (e := e) (p := p) Batch.Holds.empty records

/-- After the records the batch knows the keys that were registered, and no others. -/
theorem first?_batchFrom_isSome_iff :
    ((e.batchFrom p reportType 0 records .empty).first? key).isSome = true ↔
      0 < e.registrationsOf p reportType records key := by
  have hholds : (e.batchFrom p reportType 0 records .empty).Holds _ := holds_batchFrom_empty
  rw [Option.isSome_iff_ne_none, ne_eq, hholds.first?_eq_none_iff, not_not,
    registrationsOf_pos_iff]
  constructor
  · intro hmem
    obtain ⟨⟨_, label⟩, hregistration, rfl⟩ := List.mem_map.1 hmem
    obtain ⟨i, record, hrecord, -, hkey⟩ := mem_registrationsFrom.1 hregistration
    exact ⟨record, List.mem_of_getElem? hrecord, hkey⟩
  · rintro ⟨record, hrecord, hkey⟩
    obtain ⟨i, hi⟩ := List.mem_iff_getElem?.1 hrecord
    exact List.mem_map.2 ⟨(key, indexLabel (0 + i)),
      mem_registrationsFrom.2 ⟨i, record, hi, rfl, hkey⟩, rfl⟩

/-- A key that is registered is a duplicate all but the first time. -/
theorem duplicatesOf_eq :
    e.duplicatesOf p reportType records key = e.registrationsOf p reportType records key - 1 := by
  have hbalance := balance_batchFrom e p reportType (Batch.counts_known key) 0 records .empty
  have hempty : Batch.known key .empty = 0 := rfl
  rw [hempty, Nat.add_zero] at hbalance
  have hknown : Batch.known key (e.batchFrom p reportType 0 records .empty) =
      if 0 < e.registrationsOf p reportType records key then 1 else 0 := by
    simp only [Batch.known, first?_batchFrom_isSome_iff]
  rw [duplicatesOf]
  rw [registrationsOf] at hknown ⊢
  split at hknown <;> omega

/-- The keys of the batch after the records are as many as there are different keys. -/
theorem size_batchFrom_eq_of_first? {xs ys : List Json}
    (h : ∀ key, ((e.batchFrom p reportType 0 xs .empty).first? key).isSome =
      ((e.batchFrom p reportType 0 ys .empty).first? key).isSome) :
    (e.batchFrom p reportType 0 xs .empty).size =
      (e.batchFrom p reportType 0 ys .empty).size := by
  have hxs : (e.batchFrom p reportType 0 xs .empty).Holds _ := holds_batchFrom_empty
  have hys : (e.batchFrom p reportType 0 ys .empty).Holds _ := holds_batchFrom_empty
  rw [hxs.size, hys.size]
  congr 1
  ext key
  have hkey := h key
  rw [List.mem_toFinset, List.mem_toFinset, ← not_iff_not, ← hxs.first?_eq_none_iff,
    ← hys.first?_eq_none_iff, ← Option.not_isSome_iff_eq_none,
    ← Option.not_isSome_iff_eq_none, hkey]

/-! ### Reports -/

/-- Every duplicate among the findings about rules is one of a registered key. -/
theorem duplicatesAmong_true_settleAllIn (record : Json) (label : String) (rs : List Rule)
    (b : Batch) :
    e.duplicatesAmong p record (fun _ => true) rs
        (Judgement.settleAllIn label (rs.map fun r => e.judge p r record) b).1 =
      (Judgement.settleAllIn label (rs.map fun r => e.judge p r record) b).1.countP
        (·.code == .duplicate) := by
  induction rs generalizing b with
  | nil => rfl
  | cons r rs ih =>
    have hrest := ih ((e.judge p r record).settleIn label b).2
    rw [duplicatesAmong] at hrest ⊢
    rw [List.map_cons, Judgement.settleAllIn_cons, List.zip_cons_cons, List.countP_cons,
      List.countP_cons, hrest]
    cases hkey : e.registeredKey? p record r with
    | some key => simp
    | none =>
      obtain ⟨-, hcode⟩ := settleIn_judge_of_registeredKey?_none label b hkey
      simp [hcode]

/-- A report has the duplicates that the findings about rules have: those about fields are
none. -/
theorem countP_duplicate_report (record : Json) (fs : List Finding) :
    (e.report p reportType record fs).findings.countP (·.code == .duplicate) =
      fs.countP (·.code == .duplicate) := by
  have hfields : (e.fieldFindings p reportType record).countP (·.code == .duplicate) = 0 := by
    rw [List.countP_eq_zero]
    intro g hg hcode
    obtain ⟨f, -, hg⟩ := List.mem_flatMap.1 hg
    exact f.code_ne_duplicate_of_mem_findings e.evaluator reportType record hg (eq_of_beq hcode)
  rw [report, ValidationReport.ofFindings, countP_sortFindings, List.countP_append, hfields,
    Nat.zero_add]

/-- The reports on records are made of their findings about rules. -/
theorem reports_outcomesFrom (index : Nat) (records : List Json) (b : Batch) :
    (e.outcomesFrom p reportType index records b).map (·.report) =
      List.zipWith (e.report p reportType) records
        (e.ruleFindingsFrom p reportType index records b) := by
  induction records generalizing index b with
  | nil => rfl
  | cons record rest ih =>
    rw [outcomesFrom, List.map_cons, ih, ruleFindingsFrom, List.zipWith_cons_cons]
    rfl

/-- The duplicates in reports are those of all keys. -/
theorem sum_duplicates_outcomesFrom (index : Nat) (records : List Json) (b : Batch) :
    ((e.outcomesFrom p reportType index records b).map fun o =>
        o.report.findings.countP (·.code == .duplicate)).sum =
      e.wantedDuplicates p reportType (fun _ => true) index records b := by
  induction records generalizing index b with
  | nil => rfl
  | cons record rest ih =>
    simp only [wantedDuplicates] at ih ⊢
    rw [outcomesFrom, List.map_cons, List.sum_cons, ih, ruleFindingsFrom, List.zipWith_cons_cons,
      List.sum_cons]
    congr 1
    exact (countP_duplicate_report record _).trans
      (duplicatesAmong_true_settleAllIn record _ _ b).symm

end

/-! ### Other orders -/

/-- Registrations are counted record by record, so their order does not matter. -/
theorem wantedRegistrations_perm {xs ys : List Json} (h : xs.Perm ys)
    (wanted : BatchKey → Bool) :
    e.wantedRegistrations p reportType wanted xs =
      e.wantedRegistrations p reportType wanted ys :=
  (h.map _).sum_nat

/-- **The order of the records does not matter for the number of duplicates.** Whatever the
package and the context, for a report type that is accepted a list of records has its reports,
and so has every permutation of it.

A key of a rule is a duplicate, in the findings that stand where rules with this key stand, as
often as it is registered over all records and rules in scope, less one; it is so in both
orders. Hence the reports have as many duplicates in both orders, and in the end the batches
know the same keys. -/
theorem duplicates_of_perm {code : Option String} {t : ReportType}
    (hselect : p.selectReportType code = .ok t) {xs ys : List Json} (hperm : xs.Perm ys) :
    ∃ rx ry, e.validateAll p code xs = .ok rx ∧ e.validateAll p code ys = .ok ry ∧
      rx.outcomes.map (·.report) =
        List.zipWith (e.report p t.code) xs (e.ruleFindingsFrom p t.code 0 xs .empty) ∧
      ry.outcomes.map (·.report) =
        List.zipWith (e.report p t.code) ys (e.ruleFindingsFrom p t.code 0 ys .empty) ∧
      (∀ key,
        e.registrationsOf p t.code xs key = e.registrationsOf p t.code ys key ∧
        e.duplicatesOf p t.code xs key = e.registrationsOf p t.code xs key - 1 ∧
        e.duplicatesOf p t.code ys key = e.registrationsOf p t.code xs key - 1) ∧
      rx.duplicates = ry.duplicates ∧
      (∀ key, ((e.batchFrom p t.code 0 xs .empty).first? key).isSome =
        ((e.batchFrom p t.code 0 ys .empty).first? key).isSome) ∧
      (e.batchFrom p t.code 0 xs .empty).size = (e.batchFrom p t.code 0 ys .empty).size := by
  have hregistrations : ∀ key,
      e.registrationsOf p t.code xs key = e.registrationsOf p t.code ys key :=
    fun key => wantedRegistrations_perm e p t.code hperm (· == key)
  have hknown : ∀ key, ((e.batchFrom p t.code 0 xs .empty).first? key).isSome =
      ((e.batchFrom p t.code 0 ys .empty).first? key).isSome := by
    intro key
    rw [Bool.eq_iff_iff, first?_batchFrom_isSome_iff, first?_batchFrom_isSome_iff,
      hregistrations]
  have hsize := size_batchFrom_eq_of_first? hknown
  refine ⟨_, _, validateAll_of_select hselect xs, validateAll_of_select hselect ys,
    reports_outcomesFrom 0 xs .empty, reports_outcomesFrom 0 ys .empty, fun key => ?_, ?_,
    hknown, hsize⟩
  · exact ⟨hregistrations key, duplicatesOf_eq, hregistrations key ▸ duplicatesOf_eq⟩
  · -- Both orders have the same balance of all keys, and end with batches of the same size.
    have hxs := balance_batchFrom e p t.code Batch.counts_size 0 xs .empty
    have hys := balance_batchFrom e p t.code Batch.counts_size 0 ys .empty
    have hsame := wantedRegistrations_perm e p t.code hperm fun _ => true
    rw [BatchReport.duplicates, BatchReport.duplicates, sum_duplicates_outcomesFrom,
      sum_duplicates_outcomesFrom]
    omega

end Engine

/-! ### Trades of two desks -/

/-- A package with two uniqueness rules: the identifier of a trade alone, and together with
its desk. -/
def Package.tradesByDesk : Package where
  id := "DESKS"
  regulationCode := "EMIR"
  version := "1"
  reportTypes := [{ code := "TRADE" }]
  rules := [
    { id := "R1", type := .uniqueness, severity := .error, affectedFields := ["uti"] },
    { id := "R2", type := .uniqueness, severity := .warning, affectedFields := ["uti", "desk"] }]

/-- The trade U1 of a desk. -/
def Package.tradeOfDesk (desk : String) : Json := .obj [("desk", .str desk), ("uti", .str "U1")]

/-- The same trade of the desks A, B and A, in two orders: the identifier is a duplicate
twice, together with the desk A once, in both. -/
theorem Package.tradesByDesk_in_two_orders :
    ∃ rx ry, (default : Engine).validateAll tradesByDesk none
        [tradeOfDesk "A", tradeOfDesk "B", tradeOfDesk "A"] = .ok rx ∧
      (default : Engine).validateAll tradesByDesk none
        [tradeOfDesk "B", tradeOfDesk "A", tradeOfDesk "A"] = .ok ry ∧
      rx.duplicates = 3 ∧ ry.duplicates = 3 ∧
      (default : Engine).duplicatesOf tradesByDesk "TRADE"
        [tradeOfDesk "B", tradeOfDesk "A", tradeOfDesk "A"] ⟨"R1", ["U1"]⟩ = 2 ∧
      (default : Engine).duplicatesOf tradesByDesk "TRADE"
        [tradeOfDesk "B", tradeOfDesk "A", tradeOfDesk "A"] ⟨"R2", ["U1", "A"]⟩ = 1 := by
  have hselect : tradesByDesk.selectReportType none = .ok { code := "TRADE" } := rfl
  obtain ⟨rx, ry, hx, hy, -, -, hkeys, htotal, -, -⟩ :=
    (default : Engine).duplicates_of_perm tradesByDesk hselect
      (List.Perm.swap (tradeOfDesk "B") (tradeOfDesk "A") [tradeOfDesk "A"])
  have hthree : rx.duplicates = 3 := by
    obtain rfl := Except.ok.inj (hx.symm.trans (Engine.validateAll_of_select hselect _))
    decide +kernel
  refine ⟨rx, ry, hx, hy, hthree, htotal ▸ hthree, ?_, ?_⟩
  · rw [(hkeys ⟨"R1", ["U1"]⟩).2.2]
    decide +kernel
  · rw [(hkeys ⟨"R2", ["U1", "A"]⟩).2.2]
    decide +kernel

end RegulatoryReporting

import RegulatoryReporting.Proofs.BatchHistory
import RegulatoryReporting.Validation.BatchReport

/-!
# Records in Turn

Validating a list of records is validating them in turn, each in the batch that those before
it have left (`Engine.outcomesFrom`, `Engine.batchFrom`). The only thing that can go wrong is
the choice of the report type, and this is the same for all records: either no record has a
report or all have one.

What a record finds in the batch is what the records before it have registered
(`Engine.registrationsFrom`), each under the label of its own index.

## Main results

* `Engine.validateAll_of_select`, `Engine.exists_validateAll_of_error` — when a list of
  records has a report, and which.
* `Engine.getElem?_outcomesFrom` — the outcome of one record among others.
* `Engine.holds_batchFrom`, `Engine.mem_registrationsFrom` — what records leave behind.
-/

namespace RegulatoryReporting

namespace Engine

/-- The outcomes of records from an index on, given the batch of those before. -/
def outcomesFrom (e : Engine) (p : Package) (reportType : String) :
    Nat → List Json → Batch → List RecordOutcome
  | _, [], _ => []
  | index, record :: rest, b =>
    ⟨indexLabel index, (e.reportIn p reportType record (indexLabel index) b).1⟩ ::
      outcomesFrom e p reportType (index + 1) rest
        (e.reportIn p reportType record (indexLabel index) b).2

/-- The batch after records from an index on, given the batch of those before. -/
def batchFrom (e : Engine) (p : Package) (reportType : String) :
    Nat → List Json → Batch → Batch
  | _, [], b => b
  | index, record :: rest, b =>
    batchFrom e p reportType (index + 1) rest
      (e.reportIn p reportType record (indexLabel index) b).2

/-- What records from an index on register, each for the rules in scope and under the label
of its index. -/
def registrationsFrom (e : Engine) (p : Package) (reportType : String) :
    Nat → List Json → List Registration
  | _, [] => []
  | index, record :: rest =>
    e.registrations p record (indexLabel index) (p.rulesFor reportType) ++
      registrationsFrom e p reportType (index + 1) rest

section

variable {e : Engine} {p : Package}

/-! ### One record after the other -/

section

variable {reportType : String} {index : Nat} {b : Batch}

/-- There is one outcome for each record. -/
@[simp] theorem length_outcomesFrom {records : List Json} :
    (e.outcomesFrom p reportType index records b).length = records.length := by
  induction records generalizing index b with
  | nil => rfl
  | cons record rest ih => rw [outcomesFrom, List.length_cons, List.length_cons, ih]

/-- Records that come later do not change the outcomes of those before. -/
theorem outcomesFrom_append (xs ys : List Json) :
    e.outcomesFrom p reportType index (xs ++ ys) b =
      e.outcomesFrom p reportType index xs b ++
        e.outcomesFrom p reportType (index + xs.length) ys
          (e.batchFrom p reportType index xs b) := by
  induction xs generalizing index b with
  | nil => rfl
  | cons x xs ih =>
    rw [List.cons_append, outcomesFrom, outcomesFrom, batchFrom, ih, List.cons_append,
      List.length_cons, Nat.add_right_comm, Nat.add_assoc]

/-- The outcome of a record is its report in the batch that the records before have left. -/
theorem getElem?_outcomesFrom (records : List Json) (i : Nat) :
    (e.outcomesFrom p reportType index records b)[i]? = records[i]?.map fun record =>
      ⟨indexLabel (index + i), (e.reportIn p reportType record (indexLabel (index + i))
        (e.batchFrom p reportType index (records.take i) b)).1⟩ := by
  induction records generalizing index b i with
  | nil => rfl
  | cons record rest ih =>
    cases i with
    | zero => rfl
    | succ i =>
      rw [outcomesFrom, List.getElem?_cons_succ, List.getElem?_cons_succ, ih,
        List.take_succ_cons, batchFrom, Nat.add_right_comm, Nat.add_assoc]

/-- A record extends the history of the batch by what it registers. -/
theorem holds_reportIn {history : List Registration} (h : b.Holds history) (record : Json)
    (label : String) :
    (e.reportIn p reportType record label b).2.Holds
      (history ++ e.registrations p record label (p.rulesFor reportType)) :=
  holds_batchAfter h (p.rulesFor reportType)

/-- Records extend the history of the batch by what they register. -/
theorem holds_batchFrom {history : List Registration} (h : b.Holds history)
    (records : List Json) :
    (e.batchFrom p reportType index records b).Holds
      (history ++ e.registrationsFrom p reportType index records) := by
  induction records generalizing index b history with
  | nil => simpa [batchFrom, registrationsFrom] using h
  | cons record rest ih =>
    rw [batchFrom, registrationsFrom, ← List.append_assoc]
    exact ih (holds_reportIn h record (indexLabel index))

/-- A record registers a key exactly when this is its key for one of the rules. -/
theorem mem_registrations {record : Json} {label other : String} {rs : List Rule}
    {key : BatchKey} :
    (key, other) ∈ e.registrations p record label rs ↔
      other = label ∧ ∃ r ∈ rs, e.registeredKey? p record r = some key := by
  simp only [registrations, List.mem_filterMap, Option.map_eq_some_iff, Prod.mk.injEq]
  constructor
  · rintro ⟨r, hr, found, hfound, rfl, rfl⟩
    exact ⟨rfl, r, hr, hfound⟩
  · rintro ⟨rfl, r, hr, hkey⟩
    exact ⟨r, hr, key, hkey, rfl, rfl⟩

/-- What records register is what each of them registers, under the label of its index. -/
theorem mem_registrationsFrom {records : List Json} {key : BatchKey} {label : String} :
    (key, label) ∈ e.registrationsFrom p reportType index records ↔
      ∃ i record, records[i]? = some record ∧ label = indexLabel (index + i) ∧
        ∃ r ∈ p.rulesFor reportType, e.registeredKey? p record r = some key := by
  induction records generalizing index with
  | nil => simp [registrationsFrom]
  | cons first rest ih =>
    rw [registrationsFrom, List.mem_append, mem_registrations, ih]
    constructor
    · rintro (⟨rfl, hkey⟩ | ⟨i, record, hrecord, rfl, hkey⟩)
      · exact ⟨0, first, rfl, rfl, hkey⟩
      · exact ⟨i + 1, record, hrecord, by rw [Nat.add_right_comm, Nat.add_assoc], hkey⟩
    · rintro ⟨i, record, hrecord, rfl, hkey⟩
      cases i with
      | zero =>
        obtain rfl := Option.some.inj hrecord
        exact .inl ⟨rfl, hkey⟩
      | succ i => exact .inr ⟨i, record, hrecord, by rw [Nat.add_right_comm, Nat.add_assoc], hkey⟩

end

/-! ### All records of a list -/

section

variable {code : Option String}

/-- If the report type is accepted, every record has its outcome. -/
theorem validateFrom_of_select {t : ReportType} (hselect : p.selectReportType code = .ok t)
    (index : Nat) (records : List Json) (b : Batch) :
    e.validateFrom p code index records b = .ok (e.outcomesFrom p t.code index records b) := by
  induction records generalizing index b with
  | nil => rfl
  | cons record rest ih =>
    simp only [validateFrom, validateIn, hselect, Except.map, ih, outcomesFrom]

/-- If the report type is accepted, a list of records has a report: the outcomes of the
records in turn, beginning with the empty batch. -/
theorem validateAll_of_select {t : ReportType} (hselect : p.selectReportType code = .ok t)
    (records : List Json) :
    e.validateAll p code records =
      .ok ⟨p.id, t.code, e.outcomesFrom p t.code 0 records .empty⟩ := by
  rw [validateAll, validateFrom_of_select hselect]
  cases records with
  | nil => simp only [outcomesFrom, bind, Except.bind, List.head?_nil, hselect]; rfl
  | cons record rest => rfl

/-- If the report type is not accepted, no list of records has a report, not even an empty
one. -/
theorem exists_validateAll_of_error {fault : ReportTypeError}
    (hselect : p.selectReportType code = .error fault) (records : List Json) :
    ∃ label, e.validateAll p code records = .error ⟨label, fault⟩ := by
  cases records with
  | nil =>
    refine ⟨none, ?_⟩
    simp only [validateAll, validateFrom, bind, Except.bind, List.head?_nil, hselect]
  | cons record rest =>
    refine ⟨some (indexLabel 0), ?_⟩
    simp only [validateAll, validateFrom, validateIn, hselect, Except.map, bind, Except.bind]

end

end

end Engine

end RegulatoryReporting

import Mathlib.Data.Finset.Card
import RegulatoryReporting.Proofs.RuleFindings

/-!
# The History of a Batch

A batch is used in steps: records are validated in it, each with an engine, a package and a
report type of its own, and now and then it is emptied. This module says what the batch
knows after any such run, without looking into the batch: its **history** is the list of the
keys that were registered since it was emptied last, each with the label of its record.

A record registers at most one key for each rule in scope, and only if the rule is a
uniqueness rule that is checked on the record, has affected fields and finds a value at all
of them (`Engine.registeredKey?`). The batch then maps every key to the record that
registered it first, and holds nothing else (`Batch.Holds`).

The invariant is carried by three lemmas: one registration (`Batch.Holds.register`), the
rules of one record (`Engine.holds_batchAfter`), one step (`BatchStep.holds_run`).

## Main results

* `BatchStep.holds_runAll` — after every run the batch holds the history of the run.
* `Engine.settles_judge` — what becomes of one rule after a history.
* `BatchStep.runAll_settles` — both together, for every run and every further record.
-/

namespace RegulatoryReporting

/-- A key, with the label of the record that had it. -/
abbrev Registration := BatchKey × String

/-! ### Registrations -/

/-- The text of the value at the place of an affected field, if a value is there: a scalar
as its text, an array or object as compact JSON. -/
def Package.populatedText? (p : Package) (record : Json) (field : String) : Option String :=
  (presentValue? record (p.affectedPath field)).map fun v => v.scalarText?.getD v.print

namespace Engine

/-- The key that a record registers for a rule, if it registers one: the rule is a
uniqueness rule that is checked on the record, it has affected fields, and all of them have
a value. -/
def registeredKey? (e : Engine) (p : Package) (record : Json) (r : Rule) : Option BatchKey :=
  if r.type = .uniqueness ∧ e.triggers r record = true ∧ r.affectedFields ≠ [] then
    (r.affectedFields.mapM (p.populatedText? record)).map fun parts => ⟨r.id, parts⟩
  else none

/-- What a record registers for some rules, in their order. -/
def registrations (e : Engine) (p : Package) (record : Json) (label : String)
    (rs : List Rule) : List Registration :=
  rs.filterMap fun r => (e.registeredKey? p record r).map fun key => (key, label)

end Engine

/-! ### Runs -/

/-- One use of a batch. -/
inductive BatchStep
  /-- A record is validated in the batch. -/
  | validate (engine : Engine) (package : Package) (reportType : Option String) (record : Json)
      (label : String)
  /-- The batch is emptied. -/
  | reset

namespace BatchStep

/-- The batch after a step. A call that fails gives no batch back, and leaves it as it
was. -/
def run (b : Batch) : BatchStep → Batch
  | validate e p reportType record label =>
    match e.validateIn p reportType record label b with
    | .ok (_, after) => after
    | .error _ => b
  | reset => .empty

/-- The batch after several steps, beginning with the empty batch. -/
def runAll (steps : List BatchStep) : Batch := steps.foldl run .empty

/-- The history after a step: a reset forgets it, a record adds what it registers for the
rules in scope, and a call that fails adds nothing. -/
def extend (history : List Registration) : BatchStep → List Registration
  | validate e p reportType record label =>
    match p.selectReportType reportType with
    | .ok t => history ++ e.registrations p record label (p.rulesFor t.code)
    | .error _ => history
  | reset => []

/-- The registrations of several steps since the last reset, the oldest first. -/
def history (steps : List BatchStep) : List Registration := steps.foldl extend []

end BatchStep

/-! ### What a batch holds -/

/-- A batch holds a history: it knows every key of the history with the record that
registered it first, and has no other entry. -/
structure Batch.Holds (b : Batch) (history : List Registration) : Prop where
  /-- Each key belongs to its first registration, and a key without one is unknown. -/
  first : ∀ key, b.first? key = history.lookup key
  /-- There are as many entries as different keys. -/
  size : b.size = (history.map Prod.fst).toFinset.card

namespace Batch.Holds

variable {b : Batch} {history : List Registration}

/-- The empty batch holds the empty history. -/
theorem empty : Batch.empty.Holds [] := ⟨fun _ => rfl, rfl⟩

/-- A key is unknown exactly when the history does not have it. -/
theorem first?_eq_none_iff (h : b.Holds history) {key : BatchKey} :
    b.first? key = none ↔ key ∉ history.map Prod.fst := by
  rw [h.first, List.lookup_eq_none_iff]
  simp only [List.mem_map, not_exists, not_and, bne_iff_ne]
  exact ⟨fun hne q hq hkey => hne q hq hkey.symm, fun hne q hq hkey => hne q hq hkey.symm⟩

/-- A registration goes to the end of the history. -/
theorem register (h : b.Holds history) (key : BatchKey) (label : String) :
    (b.register key label).2.Holds (history ++ [(key, label)]) := by
  constructor
  · intro other
    rw [Batch.first?_register, List.lookup_append, ← h.first, List.lookup_cons, List.lookup_nil]
    by_cases hother : other = key
    · subst hother
      cases b.first? other <;> simp
    · have hne : (other == key) = false := beq_eq_false_iff_ne.2 hother
      simp [hother, hne]
  · have hkeys : ((history ++ [(key, label)]).map Prod.fst).toFinset =
        insert key (history.map Prod.fst).toFinset := by
      rw [List.map_append, List.toFinset_append, Finset.union_comm]
      rfl
    rw [Batch.size_register, h.size, hkeys]
    by_cases hkey : key ∈ history.map Prod.fst
    · have hknown : b.first? key ≠ none := fun hnone => h.first?_eq_none_iff.1 hnone hkey
      rw [Finset.insert_eq_of_mem (List.mem_toFinset.2 hkey), if_neg (by simpa using hknown)]
      rfl
    · have hnew : b.first? key = none := h.first?_eq_none_iff.2 hkey
      rw [Finset.card_insert_of_notMem (by simpa using hkey), hnew]
      rfl

end Batch.Holds

/-! ### Keys -/

/-- The text of the content of a place is that of the value that is there. -/
theorem Content.text?_ofPlace (place : Option Json) :
    (Content.ofPlace place).text? =
      (place.filter fun v => !Json.isAbsent (some v)).map fun v => v.scalarText?.getD v.print := by
  rw [Content.ofPlace_eq]
  cases place.filter fun v => !Json.isAbsent (some v) with
  | none => rfl
  | some v =>
    rw [Option.elim_some, Option.map_some]
    cases v.scalarText? <;> rfl

/-- The key of a rule is complete if there are affected fields and all of them have a
value; its parts are the texts of these values in order. -/
theorem Rule.key?_affectedValues (p : Package) (r : Rule) (record : Json) :
    Rule.key? (p.affectedValues r record) =
      if r.affectedFields = [] then none
      else r.affectedFields.mapM (p.populatedText? record) := by
  have htexts : (fun v : AffectedValue => v.content.text?) ∘ (fun field =>
      { field, path := p.affectedPath field,
        content := .ofPlace (resolve record (p.affectedPath field)) }) =
      p.populatedText? record := by
    funext field
    exact Content.text?_ofPlace _
  rw [Rule.key?, Package.affectedValues, List.mapM_map, htexts]
  cases r.affectedFields with
  | nil => rfl
  | cons field fields =>
    rw [if_neg (List.cons_ne_nil _ _), List.mapM_cons]
    cases p.populatedText? record field with
    | none => rfl
    | some text => cases fields.mapM (p.populatedText? record) <;> rfl

namespace Engine

variable {e : Engine} {p : Package} {record : Json} {label : String} {r : Rule} {b : Batch}

/-- What a record says about a uniqueness rule that is checked on it: its key. -/
theorem judge_of_uniqueness (htype : r.type = .uniqueness) (htriggers : e.triggers r record = true) :
    e.judge p r record = .keyed r (Rule.key? (p.affectedValues r record))
      (Rule.keyPath (p.affectedValues r record)) := by
  rw [judge, if_pos htriggers, judgeTriggered, htype]

/-- A record that registers a key for a rule is judged by this key. -/
theorem judge_of_registeredKey? {key : BatchKey} (h : e.registeredKey? p record r = some key) :
    r.type = .uniqueness ∧ key.rule = r.id ∧
      e.judge p r record = .keyed r (some key.parts) (Rule.keyPath (p.affectedValues r record)) := by
  rw [registeredKey?] at h
  split at h
  next hcond =>
    obtain ⟨htype, htriggers, hfields⟩ := hcond
    obtain ⟨parts, hparts, rfl⟩ := Option.map_eq_some_iff.1 h
    refine ⟨htype, rfl, ?_⟩
    rw [judge_of_uniqueness htype htriggers, Rule.key?_affectedValues, if_neg hfields, hparts]
  · cases h

/-- A record that registers a key for a rule is settled by the registration. -/
theorem settleIn_judge_of_registeredKey? {key : BatchKey}
    (h : e.registeredKey? p record r = some key) :
    (e.judge p r record).settleIn label b =
      (r.keyFinding key.parts (Rule.keyPath (p.affectedValues r record)) (b.first? key),
        (b.register key label).2) := by
  obtain ⟨-, hrule, hjudge⟩ := judge_of_registeredKey? h
  obtain ⟨rule, parts⟩ := key
  obtain rfl : rule = r.id := hrule
  rw [hjudge, Judgement.settleIn]
  simp only [Batch.register_fst]

/-- A record is judged by a key only if the rule is a uniqueness rule that is checked. -/
theorem checked_of_judge_keyed {rule : Rule} {key : Option (List String)} {path : String}
    (h : e.judge p r record = .keyed rule key path) :
    r.type = .uniqueness ∧ e.triggers r record = true := by
  have habout := e.isAbout_judge p r record
  rw [h] at habout
  cases habout with
  | keyed htype =>
    refine ⟨htype, ?_⟩
    by_contra htriggers
    rw [judge, if_neg htriggers] at h
    cases h

/-- A record that registers no key for a rule leaves the batch as it is, and its finding is
no duplicate. -/
theorem settleIn_judge_of_registeredKey?_none (label : String) (b : Batch)
    (h : e.registeredKey? p record r = none) :
    ((e.judge p r record).settleIn label b).2 = b ∧
      ((e.judge p r record).settleIn label b).1.code ≠ .duplicate := by
  by_cases hchecked : r.type = .uniqueness ∧ e.triggers r record = true
  · -- The rule is checked and registers nothing, so its key must be incomplete.
    obtain ⟨htype, htriggers⟩ := hchecked
    have hkey : Rule.key? (p.affectedValues r record) = none := by
      rw [Rule.key?_affectedValues]
      split
      · rfl
      next hfields =>
        rw [registeredKey?, if_pos ⟨htype, htriggers, hfields⟩, Option.map_eq_none_iff] at h
        exact h
    rw [judge_of_uniqueness htype htriggers, hkey]
    exact ⟨rfl, by simp [Judgement.settleIn, Rule.incompleteKeyFinding, Rule.finding]⟩
  · have habout := e.isAbout_judge p r record
    cases hjudge : e.judge p r record with
    | settled f =>
      rw [hjudge] at habout
      cases habout with
      | settled _ hcode => exact ⟨rfl, hcode⟩
    | keyed _ _ _ => exact absurd (checked_of_judge_keyed hjudge) hchecked

/-- What a record registers for a rule that comes after others. -/
theorem registrations_append (before after : List Rule) :
    e.registrations p record label (before ++ after) =
      e.registrations p record label before ++ e.registrations p record label after :=
  List.filterMap_append

/-- What a record registers for one rule: its key, if it has one. -/
theorem registrations_singleton :
    e.registrations p record label [r] =
      ((e.registeredKey? p record r).map fun key => (key, label)).toList := by
  rw [registrations, List.filterMap_cons, List.filterMap_nil]
  cases e.registeredKey? p record r <;> rfl

/-- The batch after some rules of a record were settled in it. -/
def batchAfter (e : Engine) (p : Package) (record : Json) (label : String) (rs : List Rule)
    (b : Batch) : Batch :=
  (Judgement.settleAllIn label (rs.map fun r => e.judge p r record) b).2

/-- What becomes of one rule for a record in a batch that holds a history: its finding, and
the batch afterwards. -/
structure Settles (e : Engine) (p : Package) (record : Json) (label : String)
    (history : List Registration) (r : Rule) (before : Batch) (f : Finding) (after : Batch) :
    Prop where
  /-- The finding is a duplicate exactly when the record registers a key that was registered
  before. -/
  duplicate_iff : f.code = .duplicate ↔
    ∃ key, e.registeredKey? p record r = some key ∧ key ∈ history.map Prod.fst
  /-- A key that was registered before fails with the severity of the rule and names the
  record that registered it first, which it remains. -/
  seen : ∀ key first, e.registeredKey? p record r = some key → history.lookup key = some first →
    f.passed = false ∧ f.severity = r.severity ∧
      f.message = "duplicate key " ++ String.intercalate ", " key.parts ++
        "; first seen in record " ++ first ∧
      after = before
  /-- A key that was not registered before passes and is added. -/
  new : ∀ key, e.registeredKey? p record r = some key → key ∉ history.map Prod.fst →
    f.passed = true ∧ f.code = .rule ∧ f.severity = r.severity ∧
      after.Holds (history ++ [(key, label)])
  /-- Without a key the batch stays as it is. -/
  unchanged : e.registeredKey? p record r = none → after = before

/-- Without a key, nothing is a duplicate and the batch stays as it is. -/
theorem settles_of_registeredKey?_none {history : List Registration}
    (hkey : e.registeredKey? p record r = none) :
    e.Settles p record label history r b ((e.judge p r record).settleIn label b).1
      ((e.judge p r record).settleIn label b).2 := by
  obtain ⟨hafter, hcode⟩ := settleIn_judge_of_registeredKey?_none label b hkey
  exact
    { duplicate_iff := by simp [hkey, hcode]
      seen := by simp [hkey]
      new := by simp [hkey]
      unchanged := fun _ => hafter }

/-- A key that the history does not have passes and is added. -/
theorem settles_of_new {history : List Registration} {key : BatchKey} (h : b.Holds history)
    (hkey : e.registeredKey? p record r = some key) (hnew : key ∉ history.map Prod.fst) :
    e.Settles p record label history r b
      (r.keyFinding key.parts (Rule.keyPath (p.affectedValues r record)) none)
      (b.register key label).2 := by
  have hsame : ∀ other, e.registeredKey? p record r = some other → other = key :=
    fun other hother => Option.some.inj (hother.symm.trans hkey)
  constructor
  · constructor
    · intro hcode
      cases hcode
    · rintro ⟨other, hother, hmem⟩
      exact absurd (hsame other hother ▸ hmem) hnew
  · intro other first hother hlookup
    rw [hsame other hother, ← h.first, h.first?_eq_none_iff.2 hnew] at hlookup
    cases hlookup
  · intro other hother _
    obtain rfl := hsame other hother
    exact ⟨rfl, rfl, rfl, h.register other label⟩
  · intro hnone
    rw [hkey] at hnone
    cases hnone

/-- A key that the history has fails, names its first record, and leaves the batch as it
is. -/
theorem settles_of_seen {history : List Registration} {key : BatchKey} {first : String}
    (h : b.Holds history) (hkey : e.registeredKey? p record r = some key)
    (hfirst : b.first? key = some first) :
    e.Settles p record label history r b
      (r.keyFinding key.parts (Rule.keyPath (p.affectedValues r record)) (some first))
      (b.register key label).2 := by
  have hsame : ∀ other, e.registeredKey? p record r = some other → other = key :=
    fun other hother => Option.some.inj (hother.symm.trans hkey)
  have hseen : key ∈ history.map Prod.fst := by
    by_contra hnew
    rw [h.first?_eq_none_iff.2 hnew] at hfirst
    cases hfirst
  constructor
  · exact ⟨fun _ => ⟨key, hkey, hseen⟩, fun _ => rfl⟩
  · intro other first' hother hlookup
    obtain rfl := hsame other hother
    rw [← h.first, hfirst] at hlookup
    obtain rfl := Option.some.inj hlookup
    refine ⟨rfl, rfl, rfl, ?_⟩
    simp only [Batch.register, hfirst]
  · intro other hother hnew
    exact absurd (hsame other hother ▸ hseen) hnew
  · intro hnone
    rw [hkey] at hnone
    cases hnone

/-- Settling the judgement of a rule against a batch that holds a history does to the rule
what the history says. -/
theorem settles_judge {history : List Registration} (h : b.Holds history) :
    e.Settles p record label history r b ((e.judge p r record).settleIn label b).1
      ((e.judge p r record).settleIn label b).2 := by
  cases hkey : e.registeredKey? p record r with
  | none => exact settles_of_registeredKey?_none hkey
  | some key =>
    rw [settleIn_judge_of_registeredKey? hkey]
    cases hfirst : b.first? key with
    | none => exact settles_of_new h hkey (h.first?_eq_none_iff.1 hfirst)
    | some first => exact settles_of_seen h hkey hfirst

/-- One rule of a record extends the history by what the record registers for it. -/
theorem holds_settleIn {history : List Registration} (h : b.Holds history) :
    ((e.judge p r record).settleIn label b).2.Holds
      (history ++ e.registrations p record label [r]) := by
  rw [registrations_singleton]
  cases hkey : e.registeredKey? p record r with
  | some key =>
    rw [settleIn_judge_of_registeredKey? hkey]
    exact h.register key label
  | none =>
    rw [(settleIn_judge_of_registeredKey?_none label b hkey).1]
    simpa using h

/-- The rules of a record, one after the other, extend the history by what the record
registers for them. -/
theorem holds_batchAfter {history : List Registration} (h : b.Holds history) (rs : List Rule) :
    (e.batchAfter p record label rs b).Holds (history ++ e.registrations p record label rs) := by
  induction rs generalizing b history with
  | nil => simpa [registrations, batchAfter, Judgement.settleAllIn] using h
  | cons r rs ih =>
    rw [batchAfter, List.map_cons, Judgement.settleAllIn, ← List.singleton_append,
      registrations_append, ← List.append_assoc]
    exact ih (holds_settleIn h)

/-- The batch after one more rule is that of settling the rule in the batch before. -/
theorem batchAfter_concat (before : List Rule) :
    e.batchAfter p record label (before ++ [r]) b =
      ((e.judge p r record).settleIn label (e.batchAfter p record label before b)).2 := by
  rw [batchAfter, List.map_append, Judgement.settleAllIn_append]
  rfl

/-- The finding of a rule among others is that of settling it in the batch before. -/
theorem getElem?_settleAllIn (before after : List Rule) :
    (Judgement.settleAllIn label ((before ++ r :: after).map fun r => e.judge p r record)
        b).1[before.length]? =
      some ((e.judge p r record).settleIn label (e.batchAfter p record label before b)).1 := by
  rw [List.map_append, Judgement.settleAllIn_append, List.map_cons, Judgement.settleAllIn,
    List.getElem?_append_right (by simp)]
  simp [batchAfter]

end Engine

/-! ### Runs and histories -/

namespace BatchStep

/-- A step extends the history that the batch holds. -/
theorem holds_run {b : Batch} {history : List Registration} (h : b.Holds history)
    (step : BatchStep) : (step.run b).Holds (step.extend history) := by
  cases step with
  | reset => exact .empty
  | validate e p reportType record label =>
    rw [run, extend, Engine.validateIn]
    cases p.selectReportType reportType with
    | error fault => exact h
    | ok t => exact Engine.holds_batchAfter h (p.rulesFor t.code)

/-- After every run the batch holds the history of the run. -/
theorem holds_runAll (steps : List BatchStep) : (runAll steps).Holds (history steps) := by
  suffices ∀ (b : Batch) (past : List Registration), b.Holds past →
      (steps.foldl run b).Holds (steps.foldl extend past) from this _ _ .empty
  induction steps with
  | nil => exact fun _ _ h => h
  | cons step steps ih => exact fun _ _ h => ih _ _ (holds_run h step)

/-- **Uniqueness over whole runs.** After every run, beginning with the empty batch, the
batch maps each key to its first registration since the last reset and holds nothing else.
When a further record is validated, in whatever engine and package, a call that fails leaves
the batch as it is; otherwise there is one finding for each rule in scope, and each rule is
settled against the history of the run and of the rules before it. -/
theorem runAll_settles (steps : List BatchStep) :
    (runAll steps).Holds (history steps) ∧
      ∀ (e : Engine) (p : Package) (reportType : Option String) (record : Json) (label : String),
        match p.selectReportType reportType with
        | .error fault =>
          e.validateIn p reportType record label (runAll steps) = .error fault ∧
            runAll (steps ++ [.validate e p reportType record label]) = runAll steps
        | .ok t =>
          ∃ fs : List Finding,
            e.validateIn p reportType record label (runAll steps) =
                .ok (e.report p t.code record fs,
                  runAll (steps ++ [.validate e p reportType record label])) ∧
              fs.length = (p.rulesFor t.code).length ∧
              ∀ before r after, p.rulesFor t.code = before ++ r :: after →
                ∃ f, fs[before.length]? = some f ∧
                  e.Settles p record label
                    (history steps ++ e.registrations p record label before) r
                    (e.batchAfter p record label before (runAll steps)) f
                    (e.batchAfter p record label (before ++ [r]) (runAll steps)) := by
  refine ⟨holds_runAll steps, fun e p reportType record label => ?_⟩
  have hrun : runAll (steps ++ [.validate e p reportType record label]) =
      run (runAll steps) (.validate e p reportType record label) := by
    rw [runAll, List.foldl_append]
    rfl
  cases hselect : p.selectReportType reportType with
  | error fault =>
    have hfails : e.validateIn p reportType record label (runAll steps) = .error fault := by
      rw [Engine.validateIn, hselect]
      rfl
    refine ⟨hfails, ?_⟩
    rw [hrun, run, hfails]
  | ok t =>
    have hreport : e.validateIn p reportType record label (runAll steps) =
        .ok (e.reportIn p t.code record label (runAll steps)) := by
      rw [Engine.validateIn, hselect]
      rfl
    refine ⟨(Judgement.settleAllIn label (e.judgeAll p t.code record) (runAll steps)).1, ?_, ?_, ?_⟩
    · rw [hrun, run, hreport]
      rfl
    · rw [Judgement.length_settleAllIn, Engine.judgeAll, List.length_map, Package.rulesFor]
    · intro before r after hrules
      rw [Engine.judgeAll, ← Package.rulesFor, hrules, Engine.batchAfter_concat]
      exact ⟨_, Engine.getElem?_settleAllIn before after,
        Engine.settles_judge (Engine.holds_batchAfter (holds_runAll steps) before)⟩

end BatchStep

end RegulatoryReporting

import RegulatoryReporting.Reference.Codes
import RegulatoryReporting.Validation.Rule

/-!
# Lookups of a Record

Registers may be far away. So that a record can be validated in one go, the lookups that
it needs are collected first, as if every register knew every code; then they are made,
in a fixed order and each once, and the record is validated against the answers.

They are collected by a run of the rules that records what it asks (`Recorded`). Each step of
this run is the step of an ordinary run with the list of questions beside it: validators one
after the other up to the first that refuses the text, values one after the other, rules one
after the other. A question is asked in one place only (`Validator.record`).

## Main results

* `Recorded.result_mapM`, `Recorded.result_findSomeM?` — forgetting the questions gives the
  ordinary step.
-/

namespace RegulatoryReporting

/-- A question to a register. -/
abbrev Inquiry := ReferenceKind × String

/-- The order in which questions are asked: by register, then by code. -/
def Inquiry.compare (a b : Inquiry) : Ordering :=
  (Ord.compare a.1.place b.1.place).then (Ord.compare a.2 b.2)

/-- The lookup that knows every code. -/
def Lookup.everything : Lookup := fun _ _ => true

/-! ### Recording questions -/

/-- A result with the questions that were asked on the way to it, in order. -/
structure Recorded (α : Type) where
  /-- The result. -/
  result : α
  /-- The questions. -/
  questions : List Inquiry

namespace Recorded

instance : Monad Recorded where
  pure a := ⟨a, []⟩
  bind x f := ⟨(f x.result).result, x.questions ++ (f x.result).questions⟩

variable {α β : Type}

@[simp] theorem result_pure (a : α) : (pure a : Recorded α).result = a := rfl

@[simp] theorem questions_pure (a : α) : (pure a : Recorded α).questions = [] := rfl

@[simp] theorem result_bind (x : Recorded α) (f : α → Recorded β) :
    (x >>= f).result = (f x.result).result := rfl

@[simp] theorem questions_bind (x : Recorded α) (f : α → Recorded β) :
    (x >>= f).questions = x.questions ++ (f x.result).questions := rfl

@[simp] theorem result_map (f : α → β) (x : Recorded α) : (f <$> x).result = f x.result := rfl

@[simp] theorem questions_map (f : α → β) (x : Recorded α) :
    (f <$> x).questions = x.questions :=
  List.append_nil x.questions

instance : LawfulMonad Recorded := LawfulMonad.mk' Recorded
  (fun x => congrArg (Recorded.mk x.result) (List.append_nil x.questions))
  (fun _ _ => rfl)
  (fun x f g => congrArg (Recorded.mk (g (f x.result).result).result)
    (List.append_assoc x.questions (f x.result).questions (g (f x.result).result).questions))

/-- Forgetting the questions, a traversal is a map. -/
@[simp]
theorem result_mapM (f : α → Recorded β) (xs : List α) :
    (xs.mapM f).result = xs.map fun x => (f x).result := by
  induction xs with
  | nil => rfl
  | cons x xs ih => simp [ih]

/-- A traversal asks what its steps ask. -/
@[simp]
theorem questions_mapM (f : α → Recorded β) (xs : List α) :
    (xs.mapM f).questions = xs.flatMap fun x => (f x).questions := by
  induction xs with
  | nil => rfl
  | cons x xs ih => simp [ih]

/-- A search asks what its steps ask, up to the first that finds something. -/
theorem questions_findSomeM?_cons (f : α → Recorded (Option β)) (x : α) (xs : List α) :
    ((x :: xs).findSomeM? f).questions =
      (f x).questions ++ if (f x).result.isSome then [] else (xs.findSomeM? f).questions := by
  rw [List.findSomeM?, questions_bind]
  cases (f x).result <;> rfl

/-- Forgetting the questions, a search is a search. -/
@[simp]
theorem result_findSomeM? (f : α → Recorded (Option β)) (xs : List α) :
    (xs.findSomeM? f).result = xs.findSome? fun x => (f x).result := by
  induction xs with
  | nil => rfl
  | cons x xs ih =>
    rw [List.findSomeM?, result_bind, List.findSome?_cons]
    cases (f x).result with
    | none => exact ih
    | some y => rfl

end Recorded

/-! ### The recording run -/

/-- What a validator says of a text if every code is known, and what it asks. -/
def Validator.record (v : Validator) (text : String) : Recorded (Option String) :=
  ⟨v.refuses? [] (some Lookup.everything) text, v.lookups text⟩

namespace Rule

/-- Check a text by validators up to the first that refuses it although every code is known. -/
def recordCheck (validators : List Validator) (text : String) : Recorded (Option String) :=
  validators.findSomeM? fun v => v.record text

/-- The check of a value whose text, if it has one, is checked by validators. -/
def recordValue (validators : List Validator) (v : AffectedValue) : Recorded TextCheck :=
  match v.content with
  | .scalar text => do
    let reason ← recordCheck validators text
    return fun _ => reason
  | .absent | .compound _ => return fun _ => none

/-- The finding of a rule whose values are checked by validators. -/
def recordFinding (r : Rule) (validators : List Validator) (values : List AffectedValue) :
    Recorded Finding := do
  let checks ← values.mapM fun v => do return (v, ← recordValue validators v)
  return r.valueFinding checks

end Rule

namespace Engine

/-- The validators that look at the values of a rule. -/
def consulted (e : Engine) (r : Rule) : List Validator :=
  match r.type with
  | .format => e.catalog.validatorsFor r
  | .referential => (e.catalog.registerFor? r).toList.map .ofReferenceKind
  | _ => []

/-- What a record says about a rule if every code is known. -/
def recordRule (e : Engine) (p : Package) (record : Json) (r : Rule) : Recorded Judgement :=
  if e.triggers r record then
    match e.consulted r with
    | [] => return { e with reference := some Lookup.everything }.judgeTriggered p r record
    | validators =>
      return .settled (← r.recordFinding validators (p.affectedValues r record))
  else return .settled r.notTriggered

/-- What a record says about the rules of a report type if every code is known. -/
def recordAll (e : Engine) (p : Package) (reportType : String) (record : Json) :
    Recorded (List Judgement) :=
  (p.rules.filter fun r => r.appliesTo reportType).mapM (e.recordRule p record)

/-- The questions that the rules of a report type ask about a record, each once and in
order. -/
def inquiries (e : Engine) (p : Package) (reportType : String) (record : Json) :
    List Inquiry :=
  Ordered.ofList Inquiry.compare (e.recordAll p reportType record).questions

end Engine

/-- The codes among some questions that a lookup knows. -/
def ReferenceCodes.ofAnswers (inquiries : List Inquiry) (known : Lookup) : ReferenceCodes :=
  (inquiries.filter fun q => known q.1 q.2).foldl (fun r q => r.insert q.1 q.2) {}

end RegulatoryReporting

import RegulatoryReporting.Package.Selection
import RegulatoryReporting.Proofs.CodeCase
import RegulatoryReporting.Proofs.ConsistentPackage

/-!
# Declared Report Types

A package declares report types; its fields and rules may be limited to some of them, and a
record is validated against one of them. The codes of report types are compared at three
places, each time differently. Verification compares trimmed codes in full capitals. A scope
compares trimmed codes up to the case of ASCII letters. A record is validated against the
type whose code, as it is declared, equals the trimmed code asked for, again up to the case of
ASCII letters. Both comparisons of the run are finer than the one of verification, so they
never take one declared type for another. But they may miss the one that verification has
found: a scope misses it if its code differs in the case of a letter beyond ASCII, and a
declared code with blanks around it is missed whatever is asked for.

## Main results

* `Package.nodup_declaredCodes`, `Package.mem_declaredCodes_of_scope` — what verification says
  about declared codes.
* `Package.exists_declared_of_scope` — the declared type that a code of a scope names, and
  when the scope holds it.
* `Package.selectReportType_of_declared` — which declared types can be selected.
-/

namespace RegulatoryReporting

/-! ### What verification says -/

/-- A field or a rule of the package is limited to the given codes. -/
def Package.HasScope (p : Package) (codes : List String) : Prop :=
  (∃ f ∈ p.fields, f.reportTypes = some codes) ∨ ∃ r ∈ p.rules, r.reportTypes = some codes

namespace Package

variable {p : Package} (h : p.verify = .ok ())

include h

/-- The codes that an accepted package declares differ, normalised. -/
theorem nodup_declaredCodes : p.declaredCodes.Nodup :=
  (verify_eq_ok_iff_isConsistent.1 h).distinct

/-- In an accepted package, the code of a scope is declared. -/
theorem mem_declaredCodes_of_scope {codes : List String} (hscope : p.HasScope codes)
    {code : String} (hcode : code ∈ codes) : Text.normalizeCode code ∈ p.declaredCodes := by
  have hconsistent := verify_eq_ok_iff_isConsistent.1 h
  rcases hscope with ⟨f, hf, hcodes⟩ | ⟨r, hr, hcodes⟩
  · exact (hconsistent.fields f hf).scope codes hcodes code hcode
  · exact (hconsistent.rules r hr).scope codes hcodes code hcode

/-- An accepted package declares a code once. -/
theorem index_eq_of_normalizeCode {i j : Nat} {t u : ReportType}
    (ht : p.reportTypes[i]? = some t) (hu : p.reportTypes[j]? = some u)
    (hcode : Text.normalizeCode t.code = Text.normalizeCode u.code) : i = j := by
  have hdeclared : ∀ {k : Nat} {s : ReportType}, p.reportTypes[k]? = some s →
      p.declaredCodes[k]? = some (Text.normalizeCode s.code) := by
    intro k s hs
    rw [declaredCodes, reportTypeCodes, List.map_map, List.getElem?_map, hs]
    rfl
  have hlength : i < p.declaredCodes.length :=
    (List.getElem?_eq_some_iff.1 (hdeclared ht)).1
  refine (List.getElem?_inj hlength (nodup_declaredCodes h)).1 ?_
  rw [hdeclared ht, hdeclared hu, hcode]

/-- Declared types of one code are one type. -/
theorem eq_of_normalizeCode {t u : ReportType} (ht : t ∈ p.reportTypes) (hu : u ∈ p.reportTypes)
    (hcode : Text.normalizeCode t.code = Text.normalizeCode u.code) : t = u := by
  obtain ⟨i, hi⟩ := List.mem_iff_getElem?.1 ht
  obtain ⟨j, hj⟩ := List.mem_iff_getElem?.1 hu
  obtain rfl := index_eq_of_normalizeCode h hi hj hcode
  exact Option.some.inj (hi.symm.trans hj)

end Package

/-! ### Scopes -/

/-- A scope holds a report type that one of its codes names. -/
theorem inScope_of_mem {codes : List String} {code reportType : String} (hcode : code ∈ codes)
    (h : scopeCodeMatches code reportType = true) : inScope (some codes) reportType = true := by
  cases codes with
  | nil => rfl
  | cons first rest => exact List.any_eq_true.2 ⟨code, hcode, h⟩

/-- A code of a scope names types of one normalised code only. -/
theorem normalizeCode_of_scopeCodeMatches {code reportType : String}
    (h : scopeCodeMatches code reportType = true) :
    Text.normalizeCode reportType = Text.normalizeCode code := by
  have hcode := Text.normalizeCode_eq_of_asciiCaseEq h
  rw [Text.normalizeCode_trim, Text.normalizeCode_trim] at hcode
  exact hcode.symm

/-- A code of a scope of an accepted package stands for exactly one declared report type: the
one of its normalised code. The scope never holds another type because of this code, and it
holds this type because of it exactly if the trimmed codes are equal up to the case of ASCII
letters. That is always so for codes in ASCII. -/
theorem Package.exists_declared_of_scope {p : Package} (h : p.verify = .ok ())
    {codes : List String} (hscope : p.HasScope codes) {code : String} (hcode : code ∈ codes) :
    ∃ t ∈ p.reportTypes,
      (∀ u ∈ p.reportTypes, Text.normalizeCode u.code = Text.normalizeCode code ↔ u = t) ∧
      (∀ u ∈ p.reportTypes, scopeCodeMatches code u.code = true ↔
        u = t ∧ Text.asciiCaseEq (Text.trim code) (Text.trim t.code) = true) ∧
      (Text.IsAscii code → Text.IsAscii t.code → scopeCodeMatches code t.code = true) ∧
      (scopeCodeMatches code t.code = true → inScope (some codes) t.code = true) := by
  have hdeclared := mem_declaredCodes_of_scope h hscope hcode
  rw [declaredCodes, reportTypeCodes, List.map_map] at hdeclared
  obtain ⟨t, ht, htcode⟩ := List.mem_map.1 hdeclared
  have hunique : ∀ u ∈ p.reportTypes,
      Text.normalizeCode u.code = Text.normalizeCode code → u = t :=
    fun u hu hucode => eq_of_normalizeCode h hu ht (hucode.trans htcode.symm)
  refine ⟨t, ht, fun u hu => ⟨hunique u hu, ?_⟩, fun u hu => ⟨fun hmatch => ?_, ?_⟩,
    fun hascii htascii => ?_, inScope_of_mem hcode⟩
  · rintro rfl
    exact htcode
  · obtain rfl := hunique u hu (normalizeCode_of_scopeCodeMatches hmatch)
    exact ⟨rfl, hmatch⟩
  · rintro ⟨rfl, hmatch⟩
    exact hmatch
  · exact (Text.asciiCaseEq_trim_iff_of_isAscii hascii htascii).2 htcode.symm

/-- A package for transactions. One of its fields is limited to a type that is declared in
capitals, another to a type with blanks around its code. -/
def Package.transactions : Package where
  id := "GESCHÄFTE"
  regulationCode := "EMIR"
  version := "1"
  reportTypes := [{ code := "GESCHÄFT" }, { code := " Position " }]
  fields := [
    { id := "uti", requirement := .mandatory, reportTypes := some ["Geschäft"] },
    { id := "lots", requirement := .optional, reportTypes := some ["POSITION "] }]

/-- Verification accepts the package of transactions. -/
theorem Package.verify_transactions : transactions.verify = .ok () :=
  by decide +kernel

/-- The scope with a code in ASCII holds the declared type. -/
theorem Package.transactions_position_declared :
    transactions.verify = .ok () ∧ transactions.HasScope ["POSITION "] ∧
      inScope (some ["POSITION "]) " Position " = true := by
  have hscope : transactions.HasScope ["POSITION "] :=
    .inl ⟨_, List.mem_cons_of_mem _ List.mem_cons_self, rfl⟩
  obtain ⟨t, ht, hnames, -, hascii, hholds⟩ :=
    exists_declared_of_scope verify_transactions hscope List.mem_cons_self
  have hcode : t.code = " Position " := by
    have hposition := (hnames ⟨" Position ", "", none⟩
      (List.mem_cons_of_mem _ List.mem_cons_self)).1 (by decide +kernel)
    rw [← hposition]
  rw [hcode] at hascii hholds
  exact ⟨verify_transactions, hscope, hholds (hascii (by decide) (by decide))⟩

/-- The scope of the mandatory field is accepted, and yet the field belongs to no report type
that the package declares: `ä` and `Ä` are one letter to verification and two to the scope. -/
theorem Package.transactions_uti_unreachable :
    transactions.verify = .ok () ∧
    ∃ f ∈ transactions.fields, f.reportTypes = some ["Geschäft"] ∧
      ∀ t ∈ transactions.reportTypes, f.appliesTo t.code = false :=
  ⟨verify_transactions, _, List.mem_cons_self, rfl, by decide +kernel⟩

/-! ### Selection -/

/-- A declared type that a code stands for is the first one, so it is selected. -/
theorem Package.selectReportType_eq_ok_iff {p : Package} (h : p.verify = .ok ()) {code : String}
    {t : ReportType} :
    p.selectReportType (some code) = .ok t ↔
      t ∈ p.reportTypes ∧ Text.asciiCaseEq t.code (Text.trim code) = true := by
  have hfound : p.selectReportType (some code) = .ok t ↔ p.reportType? code = some t := by
    simp only [selectReportType]
    cases p.reportType? code <;> simp
  rw [hfound, reportType?]
  constructor
  · intro hfind
    have hcode := List.find?_some hfind
    exact ⟨List.mem_of_find?_eq_some hfind, hcode⟩
  · rintro ⟨ht, hcode⟩
    cases hfind : p.reportTypes.find? fun u => Text.asciiCaseEq u.code (Text.trim code) with
    | none => exact absurd hcode (List.find?_eq_none.1 hfind t ht)
    | some u =>
      have hu := List.find?_some hfind
      have hsame := Text.asciiCaseEq_trans hu (Text.asciiCaseEq_symm hcode)
      rw [eq_of_normalizeCode h (List.mem_of_find?_eq_some hfind) ht
        (Text.normalizeCode_eq_of_asciiCaseEq hsame)]

/-- Which of the declared types of an accepted package can be selected. A type whose code has
no blanks around it is selected by its code. A type whose code has blanks around it is not
selected by its code, which the package is then said not to declare, nor by any other. And no
code asked for stands for two declared types. -/
theorem Package.selectReportType_of_declared {p : Package} (h : p.verify = .ok ()) :
    (∀ t ∈ p.reportTypes, Text.trim t.code = t.code →
      p.selectReportType (some t.code) = .ok t) ∧
    (∀ t ∈ p.reportTypes, Text.trim t.code ≠ t.code →
      p.selectReportType (some t.code) = .error (.unknown p.id t.code p.reportTypeCodes) ∧
      ∀ code, p.selectReportType (some code) ≠ .ok t) ∧
    ∀ (code : String) (i j : Nat) (t u : ReportType),
      p.reportTypes[i]? = some t → p.reportTypes[j]? = some u →
      Text.asciiCaseEq t.code (Text.trim code) = true →
      Text.asciiCaseEq u.code (Text.trim code) = true → i = j := by
  have hpadded : ∀ t : ReportType, Text.trim t.code ≠ t.code →
      ∀ code, p.selectReportType (some code) ≠ .ok t := by
    intro t hblanks code hselected
    have hcode := ((selectReportType_eq_ok_iff h).1 hselected).2
    exact hblanks (Text.trim_eq_self_of_asciiCaseEq hcode)
  refine ⟨fun t ht htrimmed => ?_, fun t ht hblanks => ⟨?_, hpadded t hblanks⟩, ?_⟩
  · rw [selectReportType_eq_ok_iff h, htrimmed]
    exact ⟨ht, Text.asciiCaseEq_refl _⟩
  · cases hselected : p.reportType? t.code with
    | none => simp only [selectReportType, hselected]
    | some u =>
      -- Another type of this code would be the padded type itself.
      have hu : p.selectReportType (some t.code) = .ok u := by
        simp only [selectReportType, hselected]
      obtain ⟨humem, hucode⟩ := (selectReportType_eq_ok_iff h).1 hu
      have hsame := Text.normalizeCode_eq_of_asciiCaseEq hucode
      rw [Text.normalizeCode_trim] at hsame
      obtain rfl := eq_of_normalizeCode h humem ht hsame
      exact absurd hu (hpadded u hblanks _)
  · intro code i j t u hi hj ht hu
    have hsame := Text.asciiCaseEq_trans ht (Text.asciiCaseEq_symm hu)
    exact index_eq_of_normalizeCode h hi hj (Text.normalizeCode_eq_of_asciiCaseEq hsame)

/-- Of the two types of the package of transactions, one is selected by its code, and no code
selects the other. -/
theorem Package.transactions_selected :
    transactions.verify = .ok () ∧
    transactions.selectReportType (some "GESCHÄFT") = .ok { code := "GESCHÄFT" } ∧
    ∀ code, transactions.selectReportType (some code) ≠ .ok { code := " Position " } := by
  obtain ⟨htrimmed, hpadded, -⟩ := selectReportType_of_declared verify_transactions
  exact ⟨verify_transactions, htrimmed ⟨"GESCHÄFT", "", none⟩ List.mem_cons_self
      (by decide +kernel),
    (hpadded ⟨" Position ", "", none⟩ (List.mem_cons_of_mem _ List.mem_cons_self)
      (by decide +kernel)).2⟩

/-- Asked for one of its declared codes, an accepted package answers that it does not declare
this code. -/
theorem Package.transactions_position_unknown :
    transactions.verify = .ok () ∧
    ∃ t ∈ transactions.reportTypes, transactions.selectReportType (some t.code) =
      .error (.unknown "GESCHÄFTE" t.code ["GESCHÄFT", t.code]) :=
  ⟨verify_transactions, ⟨" Position ", "", none⟩,
    List.mem_cons_of_mem _ List.mem_cons_self, rfl⟩

end RegulatoryReporting

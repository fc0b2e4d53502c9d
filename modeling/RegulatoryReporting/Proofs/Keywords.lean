import Mathlib.Data.List.Infix
import RegulatoryReporting.Catalog.Basic
import RegulatoryReporting.Proofs.CodeCase

/-!
# Which Keyword Decides

The prose of a rule is searched for the phrases of a table, and two questions are asked of what is
found: which validator a format rule runs, and which register a reference rule consults. Both are
answered by the first entry of the table that qualifies (`IsFirst`).

A phrase stands in a text where no letter or digit touches it (`StandsIn`). The search does not go
through the text again that it has found a phrase in, so it could pass over a phrase that begins
within another one. No phrase of the table can do that: its end is never its beginning
(`IsUnbordered`), so two places where it is found have no character in common.

What stands in a text stands in every text that has it as a part set off by blanks. So the entry
that is selected can only move towards the beginning of the table when prose is added.

## Main results

* `mem_neighbours_iff` — the search finds a phrase wherever it is.
* `mentions_iff` — a phrase of the table is mentioned exactly if it stands in the text.
* `StandsIn.append_blank`, `StandsIn.blank_append` — more prose hides no phrase.
* `Catalog.first_keyword_decides` — both questions, for every text.
-/

namespace RegulatoryReporting

open Text (toUpper)

/-! ### The search -/

section

variable {phrase cs : List Char} {taken : Nat} {before : Option Char} {c : Char}
  {p : Option Char × Option Char}

/-- A phrase with no proper end that is its beginning, so that it does not overlap itself. -/
def IsUnbordered (phrase : List Char) : Prop :=
  phrase ≠ [] ∧ ∀ n < phrase.length, 0 < n → ¬ phrase.drop n <+: phrase

instance : Decidable (IsUnbordered phrase) :=
  inferInstanceAs (Decidable (phrase ≠ [] ∧
    ∀ n < phrase.length, 0 < n → ¬ phrase.drop n <+: phrase))

/-- A phrase is in a text, behind at least `taken` characters, between the given neighbours. -/
def IsBetween (phrase : List Char) (taken : Nat) (before : Option Char) (cs : List Char)
    (p : Option Char × Option Char) : Prop :=
  ∃ pre post, cs = pre ++ phrase ++ post ∧ taken ≤ pre.length ∧
    pre.getLast?.or before = p.1 ∧ post.head? = p.2

/-- What is behind one character more is behind the first character of the text. -/
theorem isBetween_succ_cons (before : Option Char) :
    IsBetween phrase (taken + 1) before (c :: cs) p ↔ IsBetween phrase taken (some c) cs p := by
  have hlast : ∀ pre : List Char, (c :: pre).getLast?.or before = pre.getLast?.or (some c) := by
    intro pre
    cases h : pre.getLast? <;> simp [List.getLast?_cons, h]
  constructor
  · rintro ⟨pre, post, hcs, htaken, hbefore, hafter⟩
    cases pre with
    | nil => cases htaken
    | cons d pre =>
      obtain ⟨rfl, rfl⟩ := List.cons.inj hcs
      exact ⟨pre, post, rfl, Nat.le_of_succ_le_succ htaken, hlast pre ▸ hbefore, hafter⟩
  · rintro ⟨pre, post, rfl, htaken, hbefore, hafter⟩
    exact ⟨c :: pre, post, rfl, Nat.succ_le_succ htaken, (hlast pre).trans hbefore, hafter⟩

/-- A phrase in a text is its beginning, or behind its first character. -/
theorem isBetween_zero_iff :
    IsBetween phrase 0 before cs p ↔
      (∃ post, cs = phrase ++ post ∧ before = p.1 ∧ post.head? = p.2) ∨
        IsBetween phrase 1 before cs p := by
  constructor
  · rintro ⟨pre, post, hcs, -, hbefore, hafter⟩
    cases pre with
    | nil => exact .inl ⟨post, hcs, hbefore, hafter⟩
    | cons d pre => exact .inr ⟨d :: pre, post, hcs, Nat.succ_pos _, hbefore, hafter⟩
  · rintro (⟨post, hcs, hbefore, hafter⟩ | ⟨pre, post, hcs, -, hbefore, hafter⟩)
    · exact ⟨[], post, hcs, Nat.le_refl 0, hbefore, hafter⟩
    · exact ⟨pre, post, hcs, Nat.zero_le _, hbefore, hafter⟩

/-- Where an unbordered phrase begins a text, the next one is behind all of it. -/
theorem IsUnbordered.length_le {pre post : List Char} (h : IsUnbordered phrase)
    (hbegins : phrase <+: pre ++ phrase ++ post) (hpre : 0 < pre.length) :
    phrase.length ≤ pre.length := by
  by_contra hshort
  rw [List.append_assoc] at hbegins
  -- The phrase begins with `pre`, so the rest of it begins the phrase behind `pre`.
  obtain ⟨rest, rfl⟩ : pre <+: phrase :=
    List.prefix_of_prefix_length_le (List.prefix_append _ _) hbegins (by omega)
  have hrest : rest <+: pre ++ rest ++ post := (List.prefix_append_right_inj pre).1 hbegins
  have hborder : rest <+: pre ++ rest :=
    List.prefix_of_prefix_length_le hrest (List.prefix_append _ _) (by simp)
  refine h.2 pre.length (by omega) hpre ?_
  rwa [List.drop_left]

/-- An unbordered phrase that begins a text is found next behind all of it. -/
theorem IsUnbordered.isBetween_iff (h : IsUnbordered phrase) (hbegins : phrase <+: cs) :
    IsBetween phrase 1 before cs p ↔ IsBetween phrase phrase.length before cs p := by
  have hlength : 1 ≤ phrase.length := List.length_pos_iff.2 h.1
  constructor
  · rintro ⟨pre, post, rfl, htaken, hneighbours⟩
    exact ⟨pre, post, rfl, h.length_le hbegins htaken, hneighbours⟩
  · rintro ⟨pre, post, rfl, htaken, hneighbours⟩
    exact ⟨pre, post, rfl, hlength.trans htaken, hneighbours⟩

/-- The search finds an unbordered phrase wherever it is. -/
theorem mem_neighbours_iff (h : IsUnbordered phrase) :
    p ∈ neighbours phrase taken before cs ↔ IsBetween phrase taken before cs p := by
  fun_induction neighbours phrase taken before cs with
  | case1 taken before hempty => exact absurd (List.isEmpty_iff.1 hempty) h.1
  | case2 taken before _ =>
    refine ⟨fun hp => absurd hp List.not_mem_nil, ?_⟩
    rintro ⟨pre, post, hcs, -⟩
    simp only [List.nil_eq, List.append_eq_nil_iff] at hcs
    exact absurd hcs.1.2 h.1
  | case3 before c cs taken ih => rw [ih, isBetween_succ_cons]
  | case4 before c cs hbegins ih =>
    rw [List.isPrefixOf_iff_prefix] at hbegins
    have hlength : phrase.length - 1 + 1 = phrase.length :=
      Nat.sub_add_cancel (List.length_pos_iff.2 h.1)
    rw [List.mem_cons, ih, ← isBetween_succ_cons before, hlength,
      ← h.isBetween_iff hbegins, isBetween_zero_iff]
    refine or_congr_left ?_
    obtain ⟨post, hpost⟩ := hbegins
    rw [← hpost, List.drop_left]
    constructor
    · rintro rfl
      exact ⟨post, rfl, rfl, rfl⟩
    · rintro ⟨post', hsame, hbefore, hafter⟩
      rw [List.append_cancel_left hsame, hbefore, hafter]
  | case5 before c cs hbegins ih =>
    rw [ih, ← isBetween_succ_cons before, isBetween_zero_iff, or_iff_right]
    rintro ⟨post, hcs, -⟩
    exact hbegins (List.isPrefixOf_iff_prefix.2 ⟨post, hcs.symm⟩)

end

/-! ### Whole words -/

section

variable {phrase a b s t : String}

/-- A phrase is in the capital form of a text, and no letter or digit touches it. -/
def StandsIn (phrase text : String) : Prop :=
  ∃ pre post, (toUpper text).toList = pre ++ phrase.toList ++ post ∧
    touches pre.getLast? = false ∧ touches post.head? = false

/-- An unbordered phrase is mentioned exactly if it stands in the text. -/
theorem mentions_iff (h : IsUnbordered phrase.toList) :
    mentions t phrase = true ↔ StandsIn phrase t := by
  simp only [mentions, List.any_eq_true, mem_neighbours_iff h, Bool.and_eq_true, Bool.not_eq_true']
  constructor
  · rintro ⟨p, ⟨pre, post, htext, -, hbefore, hafter⟩, hfirst, hsecond⟩
    rw [Option.or_none] at hbefore
    exact ⟨pre, post, htext, hbefore ▸ hfirst, hafter ▸ hsecond⟩
  · rintro ⟨pre, post, htext, hfirst, hsecond⟩
    exact ⟨(pre.getLast?, post.head?), ⟨pre, post, htext, Nat.zero_le _, Option.or_none, rfl⟩,
      hfirst, hsecond⟩

/-- Texts that differ in the case of ASCII letters only have the same phrases standing in them. -/
theorem mentions_eq_of_asciiCaseEq (h : Text.asciiCaseEq s t = true) : mentions s = mentions t := by
  funext phrase
  rw [mentions, mentions, Text.toUpper_eq_of_asciiCaseEq h]

/-- The capital form of two texts and the blank between them. -/
theorem toList_toUpper_blank (a b : String) :
    (toUpper (a ++ " " ++ b)).toList = (toUpper a).toList ++ ' ' :: (toUpper b).toList := by
  have hblank : Text.upperChar ' ' = [' '] := rfl
  simp [toUpper, hblank]

/-- What stands in a text stands in it when more follows, behind a blank. -/
theorem StandsIn.append_blank (h : StandsIn phrase a) (b : String) :
    StandsIn phrase (a ++ " " ++ b) := by
  obtain ⟨pre, post, htext, hbefore, hafter⟩ := h
  refine ⟨pre, post ++ ' ' :: (toUpper b).toList, ?_, hbefore, ?_⟩
  · rw [toList_toUpper_blank, htext, List.append_assoc]
  · cases post with
    | nil => rfl
    | cons c post => exact hafter

/-- What stands in a text stands in it when more precedes, before a blank. -/
theorem StandsIn.blank_append (h : StandsIn phrase a) (b : String) :
    StandsIn phrase (b ++ " " ++ a) := by
  obtain ⟨pre, post, htext, hbefore, hafter⟩ := h
  refine ⟨(toUpper b).toList ++ ' ' :: pre, post, ?_, ?_, hafter⟩
  · rw [toList_toUpper_blank, htext]
    simp
  · cases hlast : pre.getLast? with
    | none => simp [List.getLast?_append, List.getLast?_cons, hlast, touches]
    | some c =>
      rw [hlast] at hbefore
      simpa [List.getLast?_append, List.getLast?_cons, hlast] using hbefore

/-- What stands in a part of the prose of a rule stands in the prose. -/
theorem StandsIn.descriptiveText {r : Rule} {part : String} (h : StandsIn phrase part)
    (hpart : part ∈ r.name :: r.expression :: r.description.toList) :
    StandsIn phrase r.descriptiveText := by
  simp only [List.mem_cons, Option.mem_toList] at hpart
  rw [Rule.descriptiveText]
  obtain rfl | rfl | hdescription := hpart
  · cases r.description with
    | none => exact h.append_blank _
    | some d => exact (h.append_blank d).append_blank _
  · exact h.blank_append _
  · rw [hdescription]
    exact (h.blank_append _).append_blank _

end

/-! ### The table -/

section

variable {wanted : String × Validator → Prop} {i : Nat} {entry : String × Validator}
  {text : String}

/-- No phrase of the table overlaps itself. -/
theorem isUnbordered_of_mem_keywords : ∀ entry ∈ keywords, IsUnbordered entry.1.toList := by
  decide +kernel

/-- An entry of the table is the first that is wanted. -/
structure IsFirst (wanted : String × Validator → Prop) (i : Nat) (entry : String × Validator) :
    Prop where
  inTable : keywords[i]? = some entry
  isWanted : wanted entry
  noneEarlier : ∀ j < i, ∀ e, keywords[j]? = some e → ¬ wanted e

/-- A text selects the first entry whose phrase stands in it. -/
abbrev Selects (text : String) : Nat → String × Validator → Prop :=
  IsFirst fun e => StandsIn e.1 text

/-- A text consults the first entry with a register whose phrase stands in it. -/
abbrev Consults (text : String) : Nat → String × Validator → Prop :=
  IsFirst fun e => StandsIn e.1 text ∧ e.2.referenceKind?.isSome = true

/-- If an entry is wanted, it or an earlier one is the first. -/
theorem exists_isFirst (hentry : keywords[i]? = some entry) (hwanted : wanted entry) :
    ∃ j ≤ i, ∃ e, IsFirst wanted j e := by
  induction i using Nat.strongRecOn generalizing entry with
  | ind i ih =>
    by_cases hearlier : ∃ j < i, ∃ e, keywords[j]? = some e ∧ wanted e
    · obtain ⟨j, hj, e, he, hw⟩ := hearlier
      obtain ⟨k, hk, hfirst⟩ := ih j hj he hw
      exact ⟨k, hk.trans hj.le, hfirst⟩
    · exact ⟨i, le_rfl, entry, hentry, hwanted, fun j hj e he hw => hearlier ⟨j, hj, e, he, hw⟩⟩

/-- Where more is wanted, the first entry is the same or an earlier one. -/
theorem IsFirst.mono {wider : String × Validator → Prop} (h : IsFirst wanted i entry)
    (hwider : ∀ e, wanted e → wider e) : ∃ j ≤ i, ∃ e, IsFirst wider j e :=
  exists_isFirst h.inTable (hwider entry h.isWanted)

/-- Searching the table leads to the first entry that is wanted. -/
theorem find?_keywords_eq_some_iff {test : String × Validator → Bool}
    (htest : ∀ e ∈ keywords, test e = true ↔ wanted e) :
    keywords.find? test = some entry ↔ ∃ i, IsFirst wanted i entry := by
  rw [List.find?_eq_some_iff_getElem]
  constructor
  · rintro ⟨hentry, i, hi, rfl, hearlier⟩
    refine ⟨i, List.getElem?_eq_getElem hi, (htest _ (List.getElem_mem hi)).1 hentry, ?_⟩
    intro j hj e he hw
    obtain ⟨hlength, rfl⟩ := List.getElem?_eq_some_iff.1 he
    have hfails := hearlier j hj
    rw [(htest _ (List.getElem_mem hlength)).2 hw] at hfails
    cases hfails
  · rintro ⟨i, hfirst⟩
    obtain ⟨hi, hentry⟩ := List.getElem?_eq_some_iff.1 hfirst.inTable
    refine ⟨(htest _ (List.mem_of_getElem? hfirst.inTable)).2 hfirst.isWanted, i, hi, hentry, ?_⟩
    intro j hj
    rw [Bool.not_eq_true', Bool.eq_false_iff]
    exact fun hw => hfirst.noneEarlier j hj _ (List.getElem?_eq_getElem (hj.trans hi))
      ((htest _ (List.getElem_mem _)).1 hw)

/-- A phrase of the table is mentioned exactly if it stands in the text. -/
theorem mentions_iff_of_mem_keywords (h : entry ∈ keywords) :
    mentions text entry.1 = true ↔ StandsIn entry.1 text :=
  mentions_iff (isUnbordered_of_mem_keywords entry h)

/-- The validator of a text is that of the entry that it selects. -/
theorem keywordValidator?_eq_some_iff {v : Validator} :
    keywordValidator? text = some v ↔ ∃ i entry, Selects text i entry ∧ entry.2 = v := by
  have hfind : ∀ entry, keywords.find? (fun e => mentions text e.1) = some entry ↔
      ∃ i, Selects text i entry := fun _ =>
    find?_keywords_eq_some_iff fun _ he => mentions_iff_of_mem_keywords he
  simp only [keywordValidator?, Option.map_eq_some_iff, hfind]
  constructor
  · rintro ⟨e, ⟨i, hfirst⟩, hv⟩
    exact ⟨i, e, hfirst, hv⟩
  · rintro ⟨i, e, hfirst, hv⟩
    exact ⟨e, ⟨i, hfirst⟩, hv⟩

/-- The first answer that the mentioned entries give is that of the first mentioned entry that
gives one. -/
theorem findSome?_filter_eq {α β : Type} (f : α → Option β) (keep : α → Bool) (as : List α) :
    (as.filter keep).findSome? f = (as.find? fun a => keep a && (f a).isSome).bind f := by
  induction as with
  | nil => rfl
  | cons a as ih =>
    cases hkeep : keep a with
    | false => simp [hkeep, ih]
    | true =>
      cases hanswer : f a with
      | none => simp [hkeep, hanswer, ih]
      | some b => simp [hkeep, hanswer]

/-- The register of a text is that of the entry that it consults. -/
theorem keywordReference?_eq_some_iff {kind : ReferenceKind} :
    keywordReference? text = some kind ↔
      ∃ i entry, Consults text i entry ∧ entry.2.referenceKind? = some kind := by
  have hfind : ∀ entry,
      keywords.find? (fun e => mentions text e.1 && e.2.referenceKind?.isSome) = some entry ↔
        ∃ i, Consults text i entry := fun _ =>
    find?_keywords_eq_some_iff fun _ he => by
      rw [Bool.and_eq_true, mentions_iff_of_mem_keywords he]
  simp only [keywordReference?, mentioned, findSome?_filter_eq, Option.bind_eq_some_iff, hfind]
  constructor
  · rintro ⟨e, ⟨i, hfirst⟩, hkind⟩
    exact ⟨i, e, hfirst, hkind⟩
  · rintro ⟨i, e, hfirst, hkind⟩
    exact ⟨e, ⟨i, hfirst⟩, hkind⟩

/-- A text has no validator exactly if no phrase of the table stands in it. -/
theorem keywordValidator?_eq_none_iff :
    keywordValidator? text = none ↔ ∀ entry ∈ keywords, ¬ StandsIn entry.1 text := by
  rw [keywordValidator?, Option.map_eq_none_iff, List.find?_eq_none]
  exact forall₂_congr fun entry hentry => not_congr (mentions_iff_of_mem_keywords hentry)

/-- The validator of a text does not depend on the case of its ASCII letters. -/
theorem keywordValidator?_eq_of_asciiCaseEq {s t : String} (h : Text.asciiCaseEq s t = true) :
    keywordValidator? s = keywordValidator? t := by
  rw [keywordValidator?, keywordValidator?, mentions_eq_of_asciiCaseEq h]

/-- The entry that a text selects is the one that it consults, if it has a register. -/
theorem IsFirst.consults (h : Selects text i entry) (hkind : entry.2.referenceKind?.isSome = true) :
    Consults text i entry :=
  ⟨h.inTable, ⟨h.isWanted, hkind⟩, fun j hj e he hw => h.noneEarlier j hj e he hw.1⟩

end

/-! ### Two questions -/

namespace Catalog

variable {c : Catalog} {r : Rule} {kind : ReferenceKind}

/-- Without an entry of its own, a rule has the register of the entry that its prose consults. -/
theorem registerFor?_eq_some_iff (h : c.registers.lookup r.id = none) :
    c.registerFor? r = some kind ↔
      ∃ i entry, Consults r.descriptiveText i entry ∧ entry.2.referenceKind? = some kind := by
  rw [registerFor?, h, Option.none_or, keywordReference?_eq_some_iff]

/-- Without an entry of its own, a rule has the register of the validator of its prose, if that has
one. -/
theorem registerFor?_eq_of_keywordValidator? {v : Validator} (h : c.registers.lookup r.id = none)
    (hv : keywordValidator? r.descriptiveText = some v) (hkind : v.referenceKind? = some kind) :
    c.registerFor? r = some kind := by
  obtain ⟨i, entry, hselects, rfl⟩ := keywordValidator?_eq_some_iff.1 hv
  have hregister : entry.2.referenceKind?.isSome = true := Option.isSome_of_eq_some hkind
  exact (registerFor?_eq_some_iff h).2 ⟨i, entry, hselects.consults hregister, hkind⟩

/-- The validator of a text is that of the first entry whose phrase stands in it, in any case, and
more prose never leads to a later entry. The register of a rule without an entry of its own is that
of the first entry standing in its prose that has one, so it is the register of the validator of
the prose, and of the validators that the rule runs, where these have one. -/
theorem first_keyword_decides :
    (∀ text v, keywordValidator? text = some v ↔
      ∃ i entry, Selects text i entry ∧ entry.2 = v) ∧
    (∀ text, keywordValidator? text = none ↔ ∀ entry ∈ keywords, ¬ StandsIn entry.1 text) ∧
    (∀ s t, Text.asciiCaseEq s t = true → keywordValidator? s = keywordValidator? t) ∧
    (∀ a b i entry, Selects a i entry →
      (∃ j ≤ i, ∃ e, Selects (a ++ " " ++ b) j e) ∧ ∃ j ≤ i, ∃ e, Selects (b ++ " " ++ a) j e) ∧
    (∀ r : Rule, ∀ part ∈ r.name :: r.expression :: r.description.toList, ∀ i entry,
      Selects part i entry → ∃ j ≤ i, ∃ e, Selects r.descriptiveText j e) ∧
    ∀ (c : Catalog) (r : Rule), c.registers.lookup r.id = none →
      (∀ kind, c.registerFor? r = some kind ↔
        ∃ i entry, Consults r.descriptiveText i entry ∧ entry.2.referenceKind? = some kind) ∧
      (∀ v kind, keywordValidator? r.descriptiveText = some v → v.referenceKind? = some kind →
        c.registerFor? r = some kind) ∧
      (c.validators.lookup r.id = none → ∀ v ∈ c.validatorsFor r, ∀ kind,
        v.referenceKind? = some kind → c.registerFor? r = some kind) := by
  refine ⟨fun _ _ => keywordValidator?_eq_some_iff, fun _ => keywordValidator?_eq_none_iff,
    fun _ _ => keywordValidator?_eq_of_asciiCaseEq, fun a b i entry hselects => ?_,
    fun r part hpart i entry hselects => ?_, fun c r hregister => ?_⟩
  · exact ⟨hselects.mono fun _ h => h.append_blank b, hselects.mono fun _ h => h.blank_append b⟩
  · exact hselects.mono fun _ h => h.descriptiveText hpart
  · refine ⟨fun _ => registerFor?_eq_some_iff hregister,
      fun _ _ => registerFor?_eq_of_keywordValidator? hregister, fun hvalidators v hv kind => ?_⟩
    rw [validatorsFor, hvalidators, Option.mem_toList] at hv
    exact registerFor?_eq_of_keywordValidator? hregister hv

/-- The prose of a rule on a venue mentions an identifier without a register before one that has a
register. That of a rule on a currency mentions one with a register first. -/
theorem venueAndCurrency_keywords :
    let venue : Rule := { Rule.new "venue" .referential .error with name := "Venue LEI or mic" }
    let currency : Rule := { Rule.new "currency" .referential .error with name := "Currency (ISO)" }
    (∃ i entry, Selects venue.descriptiveText i entry ∧ entry.2 = .leiFormat ∧
      ∃ j ≤ i, ∃ e, Selects (venue.descriptiveText ++ " " ++ "UTI") j e) ∧
    keywordValidator? "Venue LEI or mic" = keywordValidator? "Venue lei or MIC" ∧
    (∃ i entry, Consults venue.descriptiveText i entry ∧ entry.2.referenceKind? = some .mic) ∧
    ({} : Catalog).registerFor? currency = some .currency := by
  intro venue currency
  obtain ⟨hselected, -, hcase, hmore, -, hregisters⟩ := first_keyword_decides
  obtain ⟨hconsulted, -, -⟩ := hregisters {} venue rfl
  obtain ⟨-, hagree, -⟩ := hregisters {} currency rfl
  have hvenue : keywordValidator? venue.descriptiveText = some .leiFormat := by decide +kernel
  obtain ⟨i, entry, hselects, hlei⟩ := (hselected _ _).1 hvenue
  refine ⟨⟨i, entry, hselects, hlei, (hmore _ "UTI" i entry hselects).1⟩, hcase _ _ (by decide),
    (hconsulted .mic).1 (by decide +kernel), ?_⟩
  exact hagree .isoCurrency .currency (by decide +kernel) rfl

end Catalog

end RegulatoryReporting

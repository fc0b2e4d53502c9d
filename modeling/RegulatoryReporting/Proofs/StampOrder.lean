import Mathlib.Data.String.Basic
import RegulatoryReporting.Proofs.TimeStamps
import RegulatoryReporting.Proofs.ValueOrder

/-!
# The Order of Time Stamps

Strings that stand for instants are compared by these. For time stamps this is the order in
which a clock of universal time shows them, and it can be seen without reading them: time
stamps of universal time are in their lexical order. This is because every number has a fixed
width, so that a text goes through the same places as the order of dates and times, from the
year down to the second.

## Main results

* `Json.compareChars_append_of_isDigits` — numbers of as many digits are ordered as their
  digits are.
* `Json.compareChars_toList` — the order of characters is the lexical order of texts.
* `TimeStamp.compare_text` — time stamps are compared as a clock of universal time shows them.
* `TimeStamp.ordered_as_instants` — the lexical order, the offset that is taken away, and the
  forms of midnight.
-/

namespace RegulatoryReporting

/-! ### Numbers of as many digits -/

/-- A digit is less than ten. -/
theorem digitValue_lt {c : Char} (hc : c.isDigit = true) : digitValue c < 10 := by
  have hrange : 48 ≤ c.toNat ∧ c.toNat ≤ 57 := Char.isDigit_iff_toNat.1 hc
  rw [digitValue]
  omega

/-- The first digit counts the most. -/
theorem digitsValue_cons (c : Char) (cs : List Char) :
    digitsValue (c :: cs) = 10 ^ cs.length * digitValue c + digitsValue cs := by
  rw [digitsValue_eq, digitsValue_eq, Nat.ofDigitChars_cons, Nat.mul_zero, Nat.zero_add,
    Nat.ofDigitChars_eq_ofDigitChars_zero]
  rfl

/-- What is left of a unit does not make up for a whole one. -/
theorem mul_add_lt_mul {unit m n rest : Nat} (hrest : rest < unit) (h : m < n) :
    unit * m + rest < unit * n :=
  calc unit * m + rest
      < unit * m + unit := Nat.add_lt_add_left hrest _
    _ = unit * (m + 1) := (Nat.mul_succ unit m).symm
    _ ≤ unit * n := Nat.mul_le_mul_left unit h

/-- Digits do not reach the power of ten of their number. -/
theorem digitsValue_lt {cs : List Char} (h : IsDigits cs) : digitsValue cs < 10 ^ cs.length := by
  induction cs with
  | nil => decide
  | cons c cs ih =>
    obtain ⟨hc, hcs⟩ := List.forall_mem_cons.1 h
    rw [digitsValue_cons, List.length_cons, Nat.pow_succ]
    exact mul_add_lt_mul (ih hcs) (digitValue_lt hc)

/-- Numbers of as many digits are compared by the first ones. -/
theorem compare_digitsValue_cons {c d : Char} {cs ds : List Char} (hcs : IsDigits (c :: cs))
    (hds : IsDigits (d :: ds)) (hlength : cs.length = ds.length) :
    Ord.compare (digitsValue (c :: cs)) (digitsValue (d :: ds)) =
      (Ord.compare c.toNat d.toNat).then (Ord.compare (digitsValue cs) (digitsValue ds)) := by
  obtain ⟨hc, hcs⟩ := List.forall_mem_cons.1 hcs
  obtain ⟨hd, hds⟩ := List.forall_mem_cons.1 hds
  have hcs := digitsValue_lt hcs
  have hds := digitsValue_lt hds
  have hcmin := (Char.isDigit_iff_toNat.1 hc).1
  have hdmin := (Char.isDigit_iff_toNat.1 hd).1
  rw [digitsValue_cons, digitsValue_cons, hlength]
  rw [hlength] at hcs
  refine compare_eq_then (fun h => ?_) (fun h => ?_) fun h => ?_
  · exact (mul_add_lt_mul hcs (Nat.sub_lt_sub_right hcmin h)).trans_le (Nat.le_add_right _ _)
  · exact (mul_add_lt_mul hds (Nat.sub_lt_sub_right hdmin h)).trans_le (Nat.le_add_right _ _)
  · rw [digitValue, digitValue, h]
    exact compare_eq_compare (by omega) (by omega) (by omega)

/-- Numbers of as many digits are ordered as their digits are, and then what follows them. -/
theorem Json.compareChars_append_of_isDigits {cs ds : List Char} (hcs : IsDigits cs)
    (hds : IsDigits ds) (hlength : cs.length = ds.length) (es fs : List Char) :
    compareChars (cs ++ es) (ds ++ fs) =
      (Ord.compare (digitsValue cs) (digitsValue ds)).then (compareChars es fs) := by
  induction cs generalizing ds with
  | nil =>
    obtain rfl := List.length_eq_zero_iff.1 hlength.symm
    rfl
  | cons c cs ih =>
    cases ds with
    | nil => cases hlength
    | cons d ds =>
      have hlength := Nat.succ.inj hlength
      rw [List.cons_append, List.cons_append, compareChars,
        ih (List.forall_mem_cons.1 hcs).2 (List.forall_mem_cons.1 hds).2 hlength,
        ← Ordering.then_assoc, compare_digitsValue_cons hcs hds hlength]

/-! ### The lexical order -/

/-- One text comes before another in the order of characters as in the lexical order. -/
theorem Json.compareChars_eq_lt_iff {cs ds : List Char} : compareChars cs ds = .lt ↔ cs < ds := by
  induction cs generalizing ds with
  | nil => cases ds <;> simp [compareChars]
  | cons c cs ih =>
    cases ds with
    | nil => simp [compareChars]
    | cons d ds =>
      rw [compareChars, Ordering.then_eq_lt, ih, List.cons_lt_cons_iff, compare_lt_iff_lt,
        compare_eq_iff_eq, Char.toNat_inj]
      rfl

/-- The order of characters is the lexical order of texts. -/
theorem Json.compareChars_toList (s t : String) :
    compareChars s.toList t.toList = Ord.compare s t := by
  have hlt : ∀ {s t : String}, compareChars s.toList t.toList = .lt ↔ s < t :=
    Json.compareChars_eq_lt_iff.trans String.lt_iff.symm
  have hswap : compareChars t.toList s.toList = (compareChars s.toList t.toList).swap :=
    Std.OrientedCmp.eq_swap
  rcases lt_trichotomy s t with h | h | h
  · rw [hlt.2 h, compare_lt_iff_lt.2 h]
  · rw [h, compare_eq_iff_eq.2 rfl]
    exact Std.ReflCmp.compare_self
  · rw [compare_gt_iff_gt.2 h, ← Ordering.swap_inj, ← hswap, hlt.2 h]
    rfl

/-- Numbers of one width are compared, and then what follows them. -/
theorem Json.compareChars_paddedDigits {width m n : Nat} (hwidth : 0 < width)
    (hm : m < 10 ^ width) (hn : n < 10 ^ width) (cs ds : List Char) :
    compareChars (paddedDigits width m ++ cs) (paddedDigits width n ++ ds) =
      (Ord.compare m n).then (compareChars cs ds) := by
  have hlength := (length_paddedDigits width hwidth hm).trans
    (length_paddedDigits width hwidth hn).symm
  simpa using compareChars_append_of_isDigits (isDigits_paddedDigits width m)
    (isDigits_paddedDigits width n) hlength cs ds

/-- A mark that both texts have does not count. -/
theorem Json.compareChars_cons_self (c : Char) (cs ds : List Char) :
    compareChars (c :: cs) (c :: ds) = compareChars cs ds := by
  rw [compareChars, compare_eq_iff_eq.2 rfl, Ordering.eq_then]

/-- The texts of dates and times are in the lexical order if these are in theirs. -/
theorem CivilTime.compare_text {s t : CivilTime} (hs : s.date.InRange) (ht : t.date.InRange) :
    Ord.compare (s.text ++ "Z") (t.text ++ "Z") = s.compare t := by
  obtain ⟨hyear, hfour⟩ := hs.toNat_year
  obtain ⟨hyear', hfour'⟩ := ht.toNat_year
  obtain ⟨hhour, hminute, hsecond⟩ := s.fields_lt
  obtain ⟨hhour', hminute', hsecond'⟩ := t.fields_lt
  have hyears : Ord.compare s.date.year.toNat t.date.year.toNat =
      Ord.compare s.date.year t.date.year :=
    compare_eq_compare (by omega) (by omega) (by omega)
  have hfourDigits := Json.compareChars_paddedDigits (by decide : 0 < 4) hfour hfour'
  have htwo : ∀ {m n : Nat}, m < 100 → n < 100 → _ := fun hm hn =>
    Json.compareChars_paddedDigits (by decide : 0 < 2) hm hn
  have hend : Json.compareChars "Z".toList "Z".toList = .eq := Std.ReflCmp.compare_self
  rw [← Json.compareChars_toList, compare, Date.compare]
  simp only [String.toList_append, toList_text, toList_clock, toList_minuteClock, Date.toList_text,
    List.append_assoc, List.cons_append, Json.compareChars_cons_self, hfourDigits, hyears,
    htwo s.inCalendar.month_lt t.inCalendar.month_lt, htwo s.inCalendar.day_lt t.inCalendar.day_lt,
    htwo hhour hhour', htwo hminute hminute', htwo hsecond hsecond', hend,
    Ordering.then_eq, Ordering.then_assoc]

/-! ### The order of time stamps -/

/-- The texts that stand for the midnight of a date. -/
def Date.midnightTexts (d : Date) : List String :=
  [d.text, d.text ++ "T00:00", d.text ++ "T00:00:00", d.text ++ "T00:00:00Z"]

namespace TimeStamp

/-- **Time stamps are compared as a clock of universal time shows them.** -/
theorem compare_text {a b : TimeStamp} (ha : a.InRange) (hb : b.InRange) :
    (Json.str a.text).compare (Json.str b.text) = some (a.universal.compare b.universal) := by
  have hstrings : Json.compareStrings a.text b.text = a.universal.compare b.universal := by
    rw [Json.compareStrings, ofText?_text ha, ofText?_text hb, ← CivilTime.compare_seconds]
    exact Ordering.then_eq
  exact congrArg some hstrings

/-- Time stamps of one instant are equal. -/
theorem compare_text_of_eq {a b : TimeStamp} (ha : a.InRange) (hb : b.InRange)
    (h : a.universal = b.universal) :
    (Json.str a.text).compare (Json.str b.text) = some .eq := by
  rw [compare_text ha hb, h, ← CivilTime.compare_seconds, compare_eq_iff_eq.2 rfl]

/-- A date and a time of universal time, with the letter for it. -/
def utc (t : CivilTime) : TimeStamp := zoned .large t (.letter true)

/-- What stands for the midnight of a date is a time stamp of it. -/
theorem exists_of_mem_midnightTexts {d : Date} (h : d.InCalendar) {a : String}
    (ha : a ∈ d.midnightTexts) :
    ∃ s : TimeStamp, s.text = a ∧ s.written = .midnight d h ∧ s.universal = .midnight d h := by
  have htwo : fixedWidth 2 0 = "00" := by decide
  have hminutes : d.text ++ "T" ++ (CivilTime.midnight d h).minuteClock = d.text ++ "T00:00" := by
    change d.text ++ "T" ++ (fixedWidth 2 0 ++ ":" ++ fixedWidth 2 0) = _
    simp only [htwo, String.append_assoc]
    rfl
  have htext : (CivilTime.midnight d h).text = d.text ++ "T00:00:00" := by
    change d.text ++ "T" ++ ((CivilTime.midnight d h).minuteClock ++ ":" ++ fixedWidth 2 0) = _
    simp only [← String.append_assoc, hminutes, htwo]
    simp only [String.append_assoc]
    rfl
  simp only [Date.midnightTexts, List.mem_cons, List.not_mem_nil, or_false] at ha
  obtain rfl | rfl | rfl | rfl := ha
  · exact ⟨date d h, rfl, rfl, rfl⟩
  · exact ⟨minutes (.midnight d h) rfl, hminutes, rfl, rfl⟩
  · exact ⟨plain (.midnight d h), htext, rfl, rfl⟩
  · refine ⟨utc (.midnight d h), ?_, rfl, rfl⟩
    change (CivilTime.midnight d h).text ++ "Z" = _
    rw [htext, String.append_assoc]
    rfl

/-- **Time stamps are ordered as instants of universal time.**

* Time stamps of universal time are in their lexical order.
* A clock of universal time shows what is left once the offset is taken away from the time of
  another clock, and a time stamp with the offset equals that of universal time, if this too
  has a year of four digits.
* Any two time stamps, whatever their forms, are compared as a clock of universal time shows
  them: by the date, then by the hour, the minute and the second.
* A date equals its midnight in each of its forms, and a time stamp without a zone equals the
  one of universal time. -/
theorem ordered_as_instants :
    (∀ s t : CivilTime, s.date.InRange → t.date.InRange →
      (Json.str (s.text ++ "Z")).compare (.str (t.text ++ "Z")) =
        some (Ord.compare (s.text ++ "Z") (t.text ++ "Z"))) ∧
    (∀ (t : CivilTime) (o : UtcOffset), (t.universal o).seconds = t.seconds - 60 * o.total) ∧
    (∀ (t : CivilTime) (o : UtcOffset), t.date.InRange → (t.universal o).date.InRange →
      ∀ separator hyphen,
        (Json.str (zoned separator t (.offset o hyphen)).text).compare
          (.str ((t.universal o).text ++ "Z")) = some .eq) ∧
    (∀ a b : TimeStamp, a.InRange → b.InRange →
      (Json.str a.text).compare (.str b.text) = some (a.universal.compare b.universal)) ∧
    (∀ d : Date, d.InCalendar → d.InRange → ∀ a ∈ d.midnightTexts, ∀ b ∈ d.midnightTexts,
      (Json.str a).compare (.str b) = some .eq) ∧
    (∀ t : CivilTime, t.date.InRange →
      (Json.str t.text).compare (.str (t.text ++ "Z")) = some .eq) := by
  refine ⟨fun s t hs ht => ?_, CivilTime.seconds_universal,
    fun t o ht hrange separator hyphen => ?_, fun a b => compare_text,
    fun d h hrange a ha b hb => ?_, fun t ht => ?_⟩
  · rw [CivilTime.compare_text hs ht]
    exact compare_text (a := utc s) (b := utc t) hs ht
  · exact compare_text_of_eq (b := utc (t.universal o)) ht hrange rfl
  · obtain ⟨s, rfl, hs, hs'⟩ := exists_of_mem_midnightTexts h ha
    obtain ⟨t, rfl, ht, ht'⟩ := exists_of_mem_midnightTexts h hb
    refine compare_text_of_eq ?_ ?_ (hs'.trans ht'.symm)
    · rw [InRange, hs]
      exact hrange
    · rw [InRange, ht]
      exact hrange
  · exact compare_text_of_eq (a := plain t) (b := utc t) ht ht rfl

/-- Half an hour after the midnight that begins March, in a leap year. -/
def leapMarch : CivilTime where
  date := ⟨2024, 3, 1⟩
  hour := ⟨0, by decide⟩
  minute := ⟨30, by decide⟩
  second := ⟨0, by decide⟩
  inCalendar := ⟨by decide, by decide⟩

/-- One hour ahead of universal time. -/
def hourAhead : UtcOffset := ⟨false, ⟨1, by decide⟩, ⟨0, by decide⟩⟩

/-- When a clock that is an hour ahead shows half past midnight on the first of March, it is
still the leap day of universal time; this is after the midnight that began the leap day. -/
theorem leapMarch_ordered_as_instants :
    (Json.str "2024-03-01T00:30:00+01:00").compare (.str "2024-02-29T23:30:00Z") = some .eq ∧
    (Json.str "2024-03-01T00:30:00+01:00").compare (.str "2024-02-29") = some .gt ∧
    (Json.str "2024-02-29T23:30:00Z").compare (.str "2024-03-01T00:30:00Z") = some .lt ∧
    (Json.str "2024-02-29").compare (.str "2024-02-29T00:00") = some .eq ∧
    (Json.str "2024-03-01T00:30:00").compare (.str "2024-03-01T00:30:00Z") = some .eq := by
  obtain ⟨hlexical, -, hoffset, horder, hmidnight, hzulu⟩ := ordered_as_instants
  have hmarch : leapMarch.date.InRange := ⟨by decide, by decide⟩
  have hfebruary : (leapMarch.universal hourAhead).date.InRange := ⟨by decide, by decide⟩
  have hleap : Date.InCalendar ⟨2024, 2, 29⟩ := ⟨by decide, by decide⟩
  have hyear : Date.InRange ⟨2024, 2, 29⟩ := ⟨by decide, by decide⟩
  have htext : leapMarch.text = "2024-03-01T00:30:00" := by decide +kernel
  have hahead : (zoned .large leapMarch (.offset hourAhead true)).text =
      "2024-03-01T00:30:00+01:00" := by
    decide +kernel
  have huniversal : (leapMarch.universal hourAhead).text ++ "Z" = "2024-02-29T23:30:00Z" := by
    decide +kernel
  have hdate : Date.text ⟨2024, 2, 29⟩ = "2024-02-29" := by decide +kernel
  have hequal := hoffset leapMarch hourAhead hmarch hfebruary .large true
  have hafter := horder (zoned .large leapMarch (.offset hourAhead true))
    (date ⟨2024, 2, 29⟩ hleap) hmarch hyear
  have hbefore := hlexical (leapMarch.universal hourAhead) leapMarch hfebruary hmarch
  have hmidnights := hmidnight ⟨2024, 2, 29⟩ hleap hyear
  have hplain := hzulu leapMarch hmarch
  rw [hahead, huniversal] at hequal
  rw [hahead, text, hdate] at hafter
  rw [huniversal, htext] at hbefore
  rw [htext] at hplain
  rw [Date.midnightTexts, hdate] at hmidnights
  exact ⟨hequal, hafter, hbefore.trans (by decide +kernel),
    hmidnights "2024-02-29" (by decide) "2024-02-29T00:00" (by decide), hplain⟩

end TimeStamp

end RegulatoryReporting

import RegulatoryReporting.Json.Reader
import RegulatoryReporting.Proofs.NumberText

/-!
# Values Told Apart by Their Texts

Two JSON values with the same compact text are the same value. This holds of all values that
JSON can hold: their numbers are integers of 64 bits or numbers of the binary64 format
(`Json.IsRepresentable`).

The first character of a text tells the kind of the value. Where the text of a value ends is
told by the value itself, except for a number, which ends where a comma, a bracket or a brace
follows, or nothing. So a text is taken apart from the left, value by value: what follows the
text of a value never matters (`Json.isTold`). Strings are taken apart by
reading them: the reader undoes all escapes.

## Main results

* `Document.readString_quoted` — a string is read from its text.
* `Number.eq_of_text_eq` — numbers of the same text are the same.
* `Json.eq_of_print_eq` — values of the same text are the same.
-/

namespace RegulatoryReporting

/-! ### Strings -/

namespace Document

/-- A control character is read from its four digits. -/
theorem escapedUnit?_control {c : Char} (hc : c.toNat < 0x20) (rest : List Char) :
    escapedUnit? ('0' :: '0' :: (if c.toNat < 16 then '0' else '1') ::
      Nat.digitChar (c.toNat % 16) :: rest) = some (some c, rest) := by
  have hhigh : ∀ n < 0x20, hexValue? (if n < 16 then '0' else '1') = some (n / 16) := by decide
  have hlow : ∀ n < 16, hexValue? (Nat.digitChar n) = some n := by decide
  have hquad : hexQuad? ('0' :: '0' :: (if c.toNat < 16 then '0' else '1') ::
      Nat.digitChar (c.toNat % 16) :: rest) = some (c.toNat, rest) := by
    have hzero : hexValue? '0' = some 0 := rfl
    simp only [hexQuad?, hzero, hhigh _ hc, hlow _ (Nat.mod_lt _ (by decide)),
      Option.bind_eq_bind, Option.bind_some]
    have hdigits : ((0 * 16 + 0) * 16 + c.toNat / 16) * 16 + c.toNat % 16 = c.toNat := by omega
    rw [hdigits]
    rfl
  have hplain : (c.toNat < 0xD800 || 0xE000 ≤ c.toNat) = true := by
    rw [Bool.or_eq_true, decide_eq_true_iff]
    omega
  rw [escapedUnit?, hquad]
  simp only [Option.bind_eq_bind, Option.bind_some, hplain, if_true, Char.ofNat_toNat]
  rfl

/-- A character is read from its escaped form in one step. -/
theorem readString_escapeChar (c : Char) (r rest : List Char) (fuel : Nat) :
    readString (some r) (fuel + 1) (Json.escapeChar c ++ rest) =
      readString (some (c :: r)) fuel rest := by
  unfold Json.escapeChar
  split
  iterate 7 rfl
  next hquote hbackslash _ _ _ _ _ =>
    split
    next hcontrol =>
      simp only [List.cons_append, List.nil_append]
      rw [readString]
      simp only [escapedUnit?_control hcontrol]
      rfl
    next hprintable =>
      have hends : ¬ (c == '"') = true := fun h => hquote (eq_of_beq h)
      have hescapes : ¬ (c == '\\') = true := fun h => hbackslash (eq_of_beq h)
      rw [List.singleton_append, readString.eq_def]
      simp only [if_neg hends, if_neg hescapes, if_neg hprintable]
      rfl

/-- A string is read from its text between the quotes. -/
theorem readString_quoted (cs r rest : List Char) (fuel : Nat) (h : cs.length < fuel) :
    readString (some r) fuel (cs.flatMap Json.escapeChar ++ '"' :: rest) =
      some (some (String.ofList (r.reverse ++ cs)), rest) := by
  induction cs generalizing r fuel with
  | nil =>
    obtain ⟨fuel, rfl⟩ := Nat.exists_eq_add_one_of_ne_zero (Nat.ne_of_gt h)
    rw [List.flatMap_nil, List.nil_append, List.append_nil]
    rfl
  | cons c cs ih =>
    obtain ⟨fuel, rfl⟩ := Nat.exists_eq_add_one_of_ne_zero (Nat.ne_of_gt (Nat.lt_of_le_of_lt
      (Nat.zero_le _) h))
    rw [List.flatMap_cons, List.append_assoc, readString_escapeChar,
      ih (c :: r) fuel (Nat.lt_of_succ_lt_succ h), List.reverse_cons, List.append_assoc,
      List.singleton_append]

end Document

namespace Json

/-- The text of a string, character by character. -/
theorem toList_quoteText (a : String) (s : List Char) :
    (quoteText a).toList ++ s = '"' :: (a.toList.flatMap escapeChar ++ '"' :: s) := by
  simp [quoteText]

/-- What follows the text of a string never matters. -/
theorem eq_of_quoteText_append_eq {a b : String} {s t : List Char}
    (h : (quoteText a).toList ++ s = (quoteText b).toList ++ t) : a = b ∧ s = t := by
  rw [toList_quoteText, toList_quoteText, List.cons_inj_right] at h
  have ha := Document.readString_quoted a.toList [] s
    (max a.toList.length b.toList.length + 1) (by omega)
  have hb := Document.readString_quoted b.toList [] t
    (max a.toList.length b.toList.length + 1) (by omega)
  rw [h, hb] at ha
  simp only [List.reverse_nil, List.nil_append, String.ofList_toList, Option.some.injEq,
    Prod.mk.injEq] at ha
  exact ⟨ha.1.symm, ha.2.symm⟩

end Json

/-! ### Numbers -/

/-- The characters that occur in the text of a number. -/
def isNumberChar (c : Char) : Bool :=
  c.isDigit || c == '-' || c == '+' || c == '.' || c == 'e'

/-- The characters that only a number with a point or an exponent has. -/
def isNumberMark (c : Char) : Bool := c == '.' || c == 'e'

/-- Digits occur in the text of a number, and are no marks. -/
theorem isNumberChar_of_isDigit {c : Char} (hc : c.isDigit = true) :
    isNumberChar c = true ∧ isNumberMark c = false := by
  refine ⟨by simp [isNumberChar, hc], ?_⟩
  rw [isNumberMark, Bool.or_eq_false_iff, beq_eq_false_iff_ne, beq_eq_false_iff_ne]
  constructor <;> rintro rfl <;> exact absurd hc (by decide)

/-- No other character follows the text of a number directly. -/
def Stops (s : List Char) : Prop := ∀ c ∈ s.head?, isNumberChar c = false

namespace Literal

variable {l : Literal}

/-- The text of an exponent has a mark and then no other. -/
theorem exponentChars_spec (e : Int) :
    (∀ c ∈ exponentChars e, isNumberChar c = true) ∧ (exponentChars e).any isNumberMark = true := by
  refine ⟨fun c hc => ?_, rfl⟩
  rw [exponentChars, List.mem_cons, List.mem_cons] at hc
  rcases hc with rfl | rfl | hc
  · rfl
  · split <;> rfl
  · exact (isNumberChar_of_isDigit (isDigits_toDigits _ c hc)).1

/-- The text of the parts has no other characters. -/
theorem IsWritten.isNumberChar (h : l.IsWritten) {c : Char} (hc : c ∈ l.chars) :
    isNumberChar c = true := by
  have hbody : ∀ c ∈ l.body, RegulatoryReporting.isNumberChar c = true := by
    intro c hc
    rw [body, List.mem_append, List.mem_append] at hc
    rcases hc with (hwhole | hfraction) | hexponent
    · exact (isNumberChar_of_isDigit (h.whole c hwhole)).1
    · cases hf : l.fraction with
      | none => rw [hf] at hfraction; cases hfraction
      | some f =>
        rw [hf, Option.elim_some, List.mem_cons] at hfraction
        rcases hfraction with rfl | hdigit
        · rfl
        · exact (isNumberChar_of_isDigit (h.fraction f hf c hdigit)).1
    · cases he : l.exponent with
      | none => rw [he] at hexponent; cases hexponent
      | some e =>
        rw [he, Option.elim_some] at hexponent
        exact (exponentChars_spec e).1 c hexponent
  rw [chars] at hc
  split at hc
  · rcases List.mem_cons.1 hc with rfl | hc
    · rfl
    · exact hbody c hc
  · exact hbody c hc

/-- Digits have no marks. -/
theorem any_isNumberMark_of_isDigits {cs : List Char} (h : IsDigits cs) :
    cs.any isNumberMark = false :=
  List.any_eq_false.2 fun c hc => by rw [(isNumberChar_of_isDigit (h c hc)).2]; decide

/-- The text of the parts shows whether there is a point or an exponent. -/
theorem IsWritten.any_isNumberMark (h : l.IsWritten) :
    l.chars.any isNumberMark = !(l.fraction.isNone && l.exponent.isNone) := by
  have hsign : l.chars.any isNumberMark = l.body.any isNumberMark := by
    rw [chars]
    split
    · exact Bool.false_or _
    · rfl
  rw [hsign, body, List.any_append, List.any_append, any_isNumberMark_of_isDigits h.whole,
    Bool.false_or, Bool.not_and]
  congr 1
  · cases l.fraction <;> rfl
  · cases l.exponent <;> rfl

/-- An integer is known from its text. -/
theorem eq_of_chars_ofInt_eq {m n : Int} (h : (ofInt m).chars = (ofInt n).chars) : m = n := by
  have hminus : ∀ {k : Nat} {cs : List Char}, Nat.toDigits 10 k ≠ '-' :: cs := by
    intro k cs hcs
    exact absurd (isDigits_toDigits k '-' (hcs ▸ List.mem_cons_self)) (by decide)
  have habs : ∀ {j k : Nat}, Nat.toDigits 10 j = Nat.toDigits 10 k → j = k := by
    intro j k hjk
    rw [← digitsValue_toDigits j, hjk, digitsValue_toDigits]
  simp only [chars, body, ofInt, Option.elim_none, List.append_nil, decide_eq_true_eq] at h
  split_ifs at h with hm hn hn
  · have := habs (List.cons.inj h).2
    omega
  · exact absurd h.symm hminus
  · exact absurd h hminus
  · have := habs h
    omega

end Literal

namespace Number

variable {m n : Number}

/-- The text of a number begins with a minus sign or a digit, and no other characters occur
in it. -/
theorem text_spec (hn : n.IsRepresentable) :
    (∀ c ∈ n.text.toList, isNumberChar c = true) ∧
      ∃ c cs, n.text.toList = c :: cs ∧ (c.isDigit || c == '-') = true := by
  obtain ⟨l, hwritten, htext, -, -⟩ := exists_literal_text hn
  rw [htext, String.toList_ofList]
  refine ⟨fun c hc => hwritten.isNumberChar hc, ?_⟩
  rw [Literal.chars]
  split
  · exact ⟨'-', _, rfl, rfl⟩
  · obtain ⟨c, rest, hbody, hc⟩ := hwritten.exists_body_eq
    exact ⟨c, rest, hbody, by rw [hc, Bool.true_or]⟩

/-- Numbers of the same text are the same. -/
theorem eq_of_text_eq (hm : m.IsRepresentable) (hn : n.IsRepresentable)
    (h : m.text = n.text) : m = n := by
  obtain ⟨k, hk, hktext, hkint, hkread⟩ := exists_literal_text hm
  obtain ⟨l, hl, hltext, hlint, hlread⟩ := exists_literal_text hn
  have hchars : k.chars = l.chars := by
    rw [← String.toList_ofList (l := k.chars), ← hktext, h, hltext, String.toList_ofList]
  have hint : m.isInt = n.isInt := by
    rw [← hkint, ← hlint, ← Bool.not_inj_iff, ← hk.any_isNumberMark, hchars, hl.any_isNumberMark]
  have hvalue : m.toBinary64 = n.toBinary64 :=
    Option.some.inj (hkread.symm.trans (h ▸ hlread))
  cases m with
  | int i =>
    cases n with
    | int j =>
      rw [text_int, text_int, String.ofList_inj] at h
      rw [Literal.eq_of_chars_ofInt_eq h]
    | float y => cases hint
  | float x =>
    cases n with
    | int j => cases hint
    | float y => exact congrArg float hvalue

/-- The text of a number ends where no other such character follows. -/
theorem eq_of_text_append_eq (hm : m.IsRepresentable) (hn : n.IsRepresentable)
    {s t : List Char} (hs : Stops s) (ht : Stops t)
    (h : m.text.toList ++ s = n.text.toList ++ t) : m = n ∧ s = t := by
  have htext : m.text.toList = n.text.toList := by
    rw [← takeWhile_append_of_head? (text_spec hm).1 hs, h,
      takeWhile_append_of_head? (text_spec hn).1 ht]
  refine ⟨eq_of_text_eq hm hn (String.toList_inj.1 htext), ?_⟩
  rw [htext] at h
  exact List.append_cancel_left h

end Number

/-! ### Values -/

namespace Json

/-- The numbers in the value are ones that JSON can hold. -/
inductive IsRepresentable : Json → Prop
  | null : IsRepresentable null
  | bool (b : Bool) : IsRepresentable (bool b)
  | num {n : Number} (h : n.IsRepresentable) : IsRepresentable (num n)
  | str (s : String) : IsRepresentable (str s)
  | arr {items : List Json} (each : ∀ v ∈ items, IsRepresentable v) : IsRepresentable (arr items)
  | obj {members : List (String × Json)} (each : ∀ m ∈ members, IsRepresentable m.2) :
    IsRepresentable (obj members)

/-- The items of an array are representable if the array is. -/
theorem IsRepresentable.of_mem_arr {items : List Json} (h : (Json.arr items).IsRepresentable) :
    ∀ v ∈ items, v.IsRepresentable := by
  cases h with
  | arr each => exact each

/-- The first character of the text of a value, one digit standing for all that begin a
number. -/
def opening : Json → Char
  | null => 'n'
  | bool b => if b then 't' else 'f'
  | num _ => '0'
  | str _ => '"'
  | arr _ => '['
  | obj _ => '\x7b'

/-- A character as `opening` has it. -/
def openingOf (c : Char) : Char := if c.isDigit || c == '-' then '0' else c

/-- The text of an array with an item, character by character. -/
theorem toList_print_arr_cons (x : Json) (xs : List Json) (s : List Char) :
    (arr (x :: xs)).print.toList ++ s =
      '[' :: (x.print.toList ++ ((printItems xs).toList ++ ']' :: s)) := by
  simp [print]

/-- The text of an object with a member, character by character. -/
theorem toList_print_obj_cons (k : String) (x : Json) (ms : List (String × Json))
    (s : List Char) :
    (obj ((k, x) :: ms)).print.toList ++ s =
      '\x7b' :: ((quoteText k).toList ++
        ':' :: (x.print.toList ++ ((printMembers ms).toList ++ '\x7d' :: s))) := by
  simp [print]

/-- The text of further items, character by character. -/
theorem toList_printItems_cons (x : Json) (xs : List Json) (s : List Char) :
    (printItems (x :: xs)).toList ++ s =
      ',' :: (x.print.toList ++ ((printItems xs).toList ++ s)) := by
  simp [printItems]

/-- The text of further members, character by character. -/
theorem toList_printMembers_cons (k : String) (x : Json) (ms : List (String × Json))
    (s : List Char) :
    (printMembers ((k, x) :: ms)).toList ++ s =
      ',' :: ((quoteText k).toList ++
        ':' :: (x.print.toList ++ ((printMembers ms).toList ++ s))) := by
  simp [printMembers]

/-- The text of a value begins as its kind says. -/
theorem exists_print_eq {v : Json} (hv : v.IsRepresentable) :
    ∃ c cs, v.print.toList = c :: cs ∧ openingOf c = v.opening := by
  cases hv with
  | null => exact ⟨'n', _, rfl, rfl⟩
  | bool b => cases b <;> exact ⟨_, _, rfl, rfl⟩
  | num h =>
    obtain ⟨c, cs, htext, hc⟩ := (Number.text_spec h).2
    exact ⟨c, cs, htext, if_pos hc⟩
  | str s => exact ⟨'"', _, (List.append_nil _).symm.trans (toList_quoteText s []), rfl⟩
  | @arr items _ =>
    cases items with
    | nil => exact ⟨'[', _, rfl, rfl⟩
    | cons x xs =>
      exact ⟨'[', _, (List.append_nil _).symm.trans (toList_print_arr_cons x xs []), rfl⟩
  | @obj members _ =>
    cases members with
    | nil => exact ⟨'\x7b', _, rfl, rfl⟩
    | cons m ms =>
      exact ⟨'\x7b', _, (List.append_nil _).symm.trans (toList_print_obj_cons m.1 m.2 ms []), rfl⟩

/-- Texts that begin alike are those of values of one kind. -/
theorem opening_eq_of_print_append_eq {v w : Json} (hv : v.IsRepresentable)
    (hw : w.IsRepresentable) {s t : List Char}
    (h : v.print.toList ++ s = w.print.toList ++ t) : v.opening = w.opening := by
  obtain ⟨c, cs, hprint, hc⟩ := exists_print_eq hv
  obtain ⟨d, ds, hother, hd⟩ := exists_print_eq hw
  rw [hprint, hother] at h
  rw [← hc, ← hd, (List.cons.inj h).1]

/-- No text of a value begins with the bracket that closes an array. -/
theorem print_append_ne_close {v : Json} (hv : v.IsRepresentable) {s t : List Char} :
    v.print.toList ++ s ≠ ']' :: t := by
  intro h
  obtain ⟨c, cs, hprint, hc⟩ := exists_print_eq hv
  rw [hprint] at h
  obtain ⟨rfl, -⟩ := List.cons.inj h
  cases hv with
  | bool b => cases b <;> exact absurd hc (by decide)
  | _ => exact absurd hc (by simp [openingOf, opening])

/-- After an item of an array the text of a number stops. -/
theorem stops_printItems (xs : List Json) (s : List Char) :
    Stops ((printItems xs).toList ++ ']' :: s) := by
  cases xs with
  | nil => simp [printItems, Stops]; decide
  | cons x xs => rw [toList_printItems_cons]; simp [Stops]; decide

/-- After a member of an object the text of a number stops. -/
theorem stops_printMembers (ms : List (String × Json)) (s : List Char) :
    Stops ((printMembers ms).toList ++ '\x7d' :: s) := by
  cases ms with
  | nil => simp [printMembers, Stops]; decide
  | cons m ms => rw [toList_printMembers_cons]; simp [Stops]; decide

/-- The text of the value tells which value it is and where it ends. -/
def IsTold (v : Json) : Prop :=
  ∀ {w : Json} {s t : List Char}, w.IsRepresentable → Stops s → Stops t →
    v.print.toList ++ s = w.print.toList ++ t → v = w ∧ s = t

/-- The text of further items tells these and where it ends. -/
theorem eq_of_printItems_append_eq {xs ys : List Json} {s t : List Char}
    (hxs : ∀ x ∈ xs, IsTold x) (hys : ∀ y ∈ ys, y.IsRepresentable)
    (h : (printItems xs).toList ++ ']' :: s = (printItems ys).toList ++ ']' :: t) :
    xs = ys ∧ s = t := by
  induction xs generalizing ys with
  | nil =>
    cases ys with
    | nil => exact ⟨rfl, (List.cons.inj h).2⟩
    | cons y ys => rw [toList_printItems_cons] at h; exact absurd (List.cons.inj h).1 (by decide)
  | cons x xs ih =>
    cases ys with
    | nil => rw [toList_printItems_cons] at h; exact absurd (List.cons.inj h).1 (by decide)
    | cons y ys =>
      obtain ⟨hx, hxs⟩ := List.forall_mem_cons.1 hxs
      obtain ⟨hy, hys⟩ := List.forall_mem_cons.1 hys
      rw [toList_printItems_cons, toList_printItems_cons, List.cons_inj_right] at h
      obtain ⟨hvalue, hrest⟩ := hx hy (stops_printItems xs s) (stops_printItems ys t) h
      obtain ⟨rfl, rfl⟩ := ih hxs hys hrest
      exact ⟨by rw [hvalue], rfl⟩

/-- The text of further members tells these and where it ends. -/
theorem eq_of_printMembers_append_eq {ms ns : List (String × Json)} {s t : List Char}
    (hms : ∀ m ∈ ms, IsTold m.2) (hns : ∀ n ∈ ns, n.2.IsRepresentable)
    (h : (printMembers ms).toList ++ '\x7d' :: s = (printMembers ns).toList ++ '\x7d' :: t) :
    ms = ns ∧ s = t := by
  induction ms generalizing ns with
  | nil =>
    cases ns with
    | nil => exact ⟨rfl, (List.cons.inj h).2⟩
    | cons n ns => rw [toList_printMembers_cons] at h; exact absurd (List.cons.inj h).1 (by decide)
  | cons m ms ih =>
    cases ns with
    | nil => rw [toList_printMembers_cons] at h; exact absurd (List.cons.inj h).1 (by decide)
    | cons n ns =>
      obtain ⟨hm, hms⟩ := List.forall_mem_cons.1 hms
      obtain ⟨hn, hns⟩ := List.forall_mem_cons.1 hns
      rw [toList_printMembers_cons, toList_printMembers_cons, List.cons_inj_right] at h
      obtain ⟨hkey, hrest⟩ := eq_of_quoteText_append_eq h
      obtain ⟨hvalue, hrest⟩ := hm hn (stops_printMembers ms s) (stops_printMembers ns t)
        (List.cons.inj hrest).2
      obtain ⟨rfl, rfl⟩ := ih hms hns hrest
      exact ⟨by rw [Prod.ext hkey hvalue], rfl⟩

/-- The text of an array tells its items. -/
theorem isTold_arr {xs : List Json} (hv : (arr xs).IsRepresentable)
    (hxs : ∀ x ∈ xs, IsTold x) : IsTold (arr xs) := by
  intro w s t hw _ _ h
  have hkind := opening_eq_of_print_append_eq hv hw h
  cases hw with
  | @arr ys hothers =>
    cases xs with
    | nil =>
      cases ys with
      | nil => exact ⟨rfl, (List.cons.inj (List.cons.inj h).2).2⟩
      | cons y ys =>
        rw [toList_print_arr_cons] at h
        exact absurd (List.cons.inj h).2.symm
          (print_append_ne_close (hothers y List.mem_cons_self))
    | cons x xs =>
      cases ys with
      | nil =>
        rw [toList_print_arr_cons] at h
        exact absurd (List.cons.inj h).2
          (print_append_ne_close (hv.of_mem_arr x List.mem_cons_self))
      | cons y ys =>
        -- With commas for the brackets, these are the texts of further items.
        rw [toList_print_arr_cons, toList_print_arr_cons, List.cons_inj_right,
          ← List.cons_inj_right ',', ← toList_printItems_cons, ← toList_printItems_cons] at h
        obtain ⟨hitems, hrest⟩ := eq_of_printItems_append_eq hxs hothers h
        exact ⟨congrArg arr hitems, hrest⟩
  | _ => grind [opening]

/-- The text of an object tells its members. -/
theorem isTold_obj {ms : List (String × Json)} (hv : (obj ms).IsRepresentable)
    (hms : ∀ m ∈ ms, IsTold m.2) : IsTold (obj ms) := by
  intro w s t hw _ _ h
  have hkind := opening_eq_of_print_append_eq hv hw h
  cases hw with
  | @obj ns hothers =>
    cases ms with
    | nil =>
      cases ns with
      | nil => exact ⟨rfl, (List.cons.inj (List.cons.inj h).2).2⟩
      | cons n ns =>
        rw [toList_print_obj_cons, toList_quoteText] at h
        exact absurd (List.cons.inj (List.cons.inj h).2).1 (by decide)
    | cons m ms =>
      cases ns with
      | nil =>
        rw [toList_print_obj_cons, toList_quoteText] at h
        exact absurd (List.cons.inj (List.cons.inj h).2).1 (by decide)
      | cons n ns =>
        -- With commas for the braces, these are the texts of further members.
        rw [toList_print_obj_cons, toList_print_obj_cons, List.cons_inj_right,
          ← List.cons_inj_right ',', ← toList_printMembers_cons, ← toList_printMembers_cons] at h
        obtain ⟨hmembers, hrest⟩ := eq_of_printMembers_append_eq hms hothers h
        exact ⟨congrArg obj hmembers, hrest⟩
  | _ => grind [opening]

/-- The text of every value tells which value it is and where it ends. -/
theorem isTold {v : Json} (hv : v.IsRepresentable) : IsTold v := by
  induction hv with
  | null =>
    intro w s t hw _ _ h
    have hkind := opening_eq_of_print_append_eq .null hw h
    cases hw with
    | null => exact ⟨rfl, List.append_cancel_left h⟩
    | _ => grind [opening]
  | bool a =>
    intro w s t hw _ _ h
    have hkind := opening_eq_of_print_append_eq (.bool a) hw h
    cases hw with
    | bool b =>
      obtain rfl : a = b := by grind [opening]
      exact ⟨rfl, List.append_cancel_left h⟩
    | _ => grind [opening]
  | num hm =>
    intro w s t hw hs ht h
    have hkind := opening_eq_of_print_append_eq (.num hm) hw h
    cases hw with
    | num hn =>
      obtain ⟨rfl, rfl⟩ := Number.eq_of_text_append_eq hm hn hs ht h
      exact ⟨rfl, rfl⟩
    | _ => grind [opening]
  | str a =>
    intro w s t hw _ _ h
    have hkind := opening_eq_of_print_append_eq (.str a) hw h
    cases hw with
    | str b =>
      obtain ⟨rfl, rfl⟩ := eq_of_quoteText_append_eq h
      exact ⟨rfl, rfl⟩
    | _ => grind [opening]
  | arr each ih => exact isTold_arr (.arr each) ih
  | obj each ih => exact isTold_obj (.obj each) ih

/-- **Values of the same text are the same.** -/
theorem eq_of_print_eq {v w : Json} (hv : v.IsRepresentable) (hw : w.IsRepresentable)
    (h : v.print = w.print) : v = w :=
  (isTold hv hw (s := []) (t := []) nofun nofun (by rw [h])).1

end Json

end RegulatoryReporting

import RegulatoryReporting.Proofs.PrintedValues

/-!
# Values Read Back from Their Texts

A value is read back from its compact text: the reader finds the document of the value, and
nothing is left. This holds of strings, and of arrays and objects whose parts are read back, as
long as they are not nested too deeply; numbers are left out, since reading a number may round
it.

The reader goes through the text of a value with a bound on its steps and on the containers
that may still be nested. Both are enough for a value if they are enough for its parts, one
container further in; what follows the text is left to be read (`Json.IsReadBack`).

## Main results

* `Json.isReadBack_str`, `Json.isReadBack_arr`, `Json.isReadBack_obj` — values of each kind.
* `Document.ofText_print` — a value that is read back is the document of its text.
-/

namespace RegulatoryReporting

open Document

variable {room fuel : Nat}

/-! ### Strings -/

/-- A string has no more characters than its text. -/
theorem Json.length_le_flatMap_escapeChar (cs : List Char) :
    cs.length ≤ (cs.flatMap escapeChar).length := by
  have hstep : ∀ c, 1 ≤ (escapeChar c).length := by
    intro c
    unfold escapeChar
    split
    iterate 7 decide
    split <;> simp
  induction cs with
  | nil => exact Nat.le_refl _
  | cons c cs ih =>
    have hc := hstep c
    rw [List.length_cons, List.flatMap_cons, List.length_append]
    omega

/-- A string is read from its text after the first quote, with a step for each character. -/
theorem Document.readString_quoteText (s : String) (rest : List Char) :
    readString (some []) ((s.toList.flatMap Json.escapeChar ++ '"' :: rest).length + 1)
      (s.toList.flatMap Json.escapeChar ++ '"' :: rest) = some (some s, rest) := by
  have hlength := Json.length_le_flatMap_escapeChar s.toList
  rw [readString_quoted]
  · simp
  · rw [List.length_append]
    omega

/-! ### Values -/

namespace Json

/-- A value is read back where `room` more containers may be nested: its text begins with
neither a gap nor the bracket that closes an array, and the reader stops behind it. -/
structure IsReadBack (room : Nat) (v : Json) : Prop where
  begins : ∃ c cs, v.print.toList = c :: cs ∧ isGap c = false ∧ c ≠ ']'
  reads : ∀ fuel rest, v.print.toList.length < fuel →
    readValue fuel room (v.print.toList ++ rest) = ⟨.ofValue v, some rest⟩

/-- A bound on the steps that is beyond a number leaves one step more than the number. -/
private theorem exists_step {n fuel : Nat} (h : n < fuel) : ∃ steps, fuel = steps + 1 ∧ n ≤ steps :=
  ⟨fuel - 1, by omega, by omega⟩

/-- A string is read back. -/
theorem isReadBack_str (room : Nat) (s : String) : IsReadBack room (str s) where
  begins := ⟨'"', _, (List.append_nil _).symm.trans (toList_quoteText s []), rfl, by decide⟩
  reads fuel rest hfuel := by
    obtain ⟨steps, rfl, -⟩ := exists_step hfuel
    have hscalar : readValue (steps + 1) room ((str s).print.toList ++ rest) =
        readScalar '"' (s.toList.flatMap escapeChar ++ '"' :: rest) := by
      rw [print, toList_quoteText]
      rfl
    rw [hscalar]
    simp only [readScalar, beq_self_eq_true, if_true, readString_quoteText]
    rfl

/-! ### Arrays -/

/-- After its bracket an array is read item by item, unless it is empty. -/
theorem readValue_array {c : Char} {cs : List Char} {items : List Document}
    {after : Option (List Char)} (hgap : isGap c = false) (hclose : c ≠ ']')
    (hitems : readItems fuel room (c :: cs) = (items, after)) :
    readValue (fuel + 1) (room + 1) ('[' :: c :: cs) = ⟨array items, after⟩ := by
  have hopen : skipGap ('[' :: c :: cs) = '[' :: c :: cs := rfl
  have hskip : skipGap (c :: cs) = c :: cs := by
    rw [skipGap, List.dropWhile_cons_of_neg (by simp [hgap])]
  simp only [readValue, hopen, hskip]
  split
  next heq => exact absurd (List.cons.inj heq).1 hclose
  next => rw [hitems]

/-- Items are read one after the other, up to the bracket behind them. -/
theorem readItems_print {x : Json} {xs : List Json} (h : ∀ y ∈ x :: xs, IsReadBack room y)
    (fuel : Nat) (rest : List Char)
    (hfuel : x.print.toList.length + (printItems xs).toList.length + 1 < fuel) :
    readItems fuel room (x.print.toList ++ ((printItems xs).toList ++ ']' :: rest)) =
      (ofItems (x :: xs), some rest) := by
  induction xs generalizing x fuel with
  | nil =>
    obtain ⟨steps, rfl, hsteps⟩ := exists_step hfuel
    rw [readItems, (h x List.mem_cons_self).reads _ _ (by omega)]
    rfl
  | cons y ys ih =>
    obtain ⟨steps, rfl, hsteps⟩ := exists_step hfuel
    obtain ⟨hx, hothers⟩ := List.forall_mem_cons.1 h
    have hlength := congrArg List.length (toList_printItems_cons y ys [])
    rw [List.append_nil, List.append_nil, List.length_cons, List.length_append] at hlength
    have hcomma : ∀ cs, skipGap (',' :: cs) = ',' :: cs := fun _ => rfl
    rw [readItems, hx.reads _ _ (by omega), toList_printItems_cons]
    simp only [hcomma, ih hothers steps (by omega)]
    rfl

/-- An array is read back if its items are, one container further in. -/
theorem isReadBack_arr {xs : List Json} (h : ∀ x ∈ xs, IsReadBack room x) :
    IsReadBack (room + 1) (arr xs) := by
  cases xs with
  | nil =>
    refine ⟨⟨'[', _, rfl, rfl, by decide⟩, fun fuel rest hfuel => ?_⟩
    obtain ⟨steps, rfl, -⟩ := exists_step hfuel
    rfl
  | cons x xs =>
    have hprint := toList_print_arr_cons x xs
    refine ⟨⟨'[', _, (List.append_nil _).symm.trans (hprint []), rfl, by decide⟩,
      fun fuel rest hfuel => ?_⟩
    obtain ⟨steps, rfl, hsteps⟩ := exists_step hfuel
    have hlength := congrArg List.length (hprint [])
    simp only [List.append_nil, List.length_cons, List.length_append] at hlength
    obtain ⟨c, cs, hbegins, hgap, hclose⟩ := (h x List.mem_cons_self).begins
    have hitems := readItems_print h steps rest (by omega)
    rw [hprint]
    rw [hbegins, List.cons_append] at hitems ⊢
    exact readValue_array hgap hclose hitems

/-! ### Objects -/

/-- After its brace an object is read member by member, unless it is empty. -/
theorem readValue_object {cs : List Char} {members : List (Option String × Document)}
    {after : Option (List Char)} (hmembers : readMembers fuel room ('"' :: cs) = (members, after)) :
    readValue (fuel + 1) (room + 1) ('\x7b' :: '"' :: cs) = ⟨object members, after⟩ := by
  have hopen : skipGap ('\x7b' :: '"' :: cs) = '\x7b' :: '"' :: cs := rfl
  have hskip : skipGap ('"' :: cs) = '"' :: cs := rfl
  simp only [readValue, hopen, hskip]
  split
  next heq => exact absurd (List.cons.inj heq).1 (by decide)
  next => rw [hmembers]

/-- Members are read one after the other, each with its key, up to the brace behind them. -/
theorem readMembers_print {k : String} {x : Json} {ms : List (String × Json)}
    (hx : IsReadBack room x) (hms : ∀ m ∈ ms, IsReadBack room m.2) (fuel : Nat)
    (rest : List Char)
    (hfuel : x.print.toList.length + (printMembers ms).toList.length + 1 < fuel) :
    readMembers fuel room ((quoteText k).toList ++ ':' :: (x.print.toList ++
      ((printMembers ms).toList ++ '\x7d' :: rest))) =
      (Document.ofMembers ((k, x) :: ms), some rest) := by
  have hquote : ∀ cs, skipGap ('"' :: cs) = '"' :: cs := fun _ => rfl
  have hcolon : ∀ cs, skipGap (':' :: cs) = ':' :: cs := fun _ => rfl
  induction ms generalizing k x fuel with
  | nil =>
    obtain ⟨steps, rfl, hsteps⟩ := exists_step hfuel
    rw [readMembers, toList_quoteText]
    simp only [hquote, readString_quoteText, hcolon]
    rw [hx.reads _ _ (by omega)]
    rfl
  | cons m ms ih =>
    obtain ⟨j, y⟩ := m
    obtain ⟨steps, rfl, hsteps⟩ := exists_step hfuel
    obtain ⟨(hy : IsReadBack room y), hothers⟩ := List.forall_mem_cons.1 hms
    have hlength := congrArg List.length (toList_printMembers_cons j y ms [])
    simp only [List.append_nil, List.length_cons, List.length_append] at hlength
    have hcomma : ∀ cs, skipGap (',' :: cs) = ',' :: cs := fun _ => rfl
    rw [readMembers, toList_quoteText]
    simp only [hquote, readString_quoteText, hcolon]
    rw [hx.reads _ _ (by omega), toList_printMembers_cons]
    simp only [hcomma, ih hy hothers steps (by omega)]
    rfl

/-- An object is read back if its members are, one container further in. -/
theorem isReadBack_obj {ms : List (String × Json)} (h : ∀ m ∈ ms, IsReadBack room m.2) :
    IsReadBack (room + 1) (obj ms) := by
  cases ms with
  | nil =>
    refine ⟨⟨'\x7b', _, rfl, rfl, by decide⟩, fun fuel rest hfuel => ?_⟩
    obtain ⟨steps, rfl, -⟩ := exists_step hfuel
    rfl
  | cons m ms =>
    obtain ⟨k, x⟩ := m
    obtain ⟨(hx : IsReadBack room x), hms⟩ := List.forall_mem_cons.1 h
    have hprint := toList_print_obj_cons k x ms
    refine ⟨⟨'\x7b', _, (List.append_nil _).symm.trans (hprint []), rfl, by decide⟩,
      fun fuel rest hfuel => ?_⟩
    obtain ⟨steps, rfl, hsteps⟩ := exists_step hfuel
    have hlength := congrArg List.length (hprint [])
    simp only [List.append_nil, List.length_cons, List.length_append, List.length_nil] at hlength
    have hmembers := readMembers_print (k := k) hx hms steps rest (by omega)
    rw [hprint]
    rw [toList_quoteText] at hmembers ⊢
    exact readValue_object hmembers

end Json

/-- A value that is read back is the document of its text, and nothing is left of the text. -/
theorem Document.ofText_print {v : Json} (h : v.IsReadBack maxNesting) :
    ofText v.print = (ofValue v, true) := by
  have hread := h.reads (v.print.toList.length + 1) [] (Nat.lt_succ_self _)
  rw [List.append_nil] at hread
  simp only [ofText, hread]
  rfl

end RegulatoryReporting

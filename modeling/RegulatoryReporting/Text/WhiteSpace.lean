/-!
# White Space

The text of a package or a record is compared without the blank characters around it.
Blank means the Unicode property White_Space, not the six characters of ASCII: a value
padded with a no-break space is trimmed, one padded with a zero-width space is not.

Characters are handled as lists; `trim` is the same function on strings.

## Main results

* `Text.trimList_eq_nil_iff` — trimming leaves nothing exactly when every character is
  blank;
* `Text.trimList_of_trimmed` — a text without blanks at its ends is left as it is;
* `Text.trim_trim` — what was trimmed stays as it is.
-/

namespace RegulatoryReporting.Text

/-- The Unicode property White_Space. -/
def isWhiteSpace (c : Char) : Bool :=
  let n := c.toNat
  (9 ≤ n && n ≤ 13) || n == 0x20 || n == 0x85 || n == 0xA0 || n == 0x1680 ||
    (0x2000 ≤ n && n ≤ 0x200A) || n == 0x2028 || n == 0x2029 || n == 0x202F ||
    n == 0x205F || n == 0x3000

/-- The characters without the blanks at the end. -/
def dropTrailing (cs : List Char) : List Char :=
  cs.foldr (fun c rest => if rest.isEmpty && isWhiteSpace c then [] else c :: rest) []

/-- The characters without the blanks at either end. -/
def trimList (cs : List Char) : List Char :=
  dropTrailing (cs.dropWhile isWhiteSpace)

/-- The text without the blanks at either end. -/
def trim (s : String) : String :=
  String.ofList (trimList s.toList)

/-- A text is blank when it holds nothing but white space. -/
def isBlank (s : String) : Bool :=
  s.toList.all isWhiteSpace

@[simp] theorem dropTrailing_nil : dropTrailing [] = [] := rfl

theorem dropTrailing_cons (c : Char) (cs : List Char) :
    dropTrailing (c :: cs) =
      if (dropTrailing cs).isEmpty && isWhiteSpace c then [] else c :: dropTrailing cs := rfl

/-- Nothing is left of a list exactly when it is blank. -/
theorem dropTrailing_eq_nil_iff {cs : List Char} :
    dropTrailing cs = [] ↔ ∀ c ∈ cs, isWhiteSpace c = true := by
  induction cs with
  | nil => simp
  | cons c cs ih =>
    rw [dropTrailing_cons]
    by_cases h : ((dropTrailing cs).isEmpty && isWhiteSpace c) = true
    · rw [if_pos h]
      simp only [Bool.and_eq_true, List.isEmpty_iff] at h
      simpa [h.2] using ih.1 h.1
    · rw [if_neg h]
      simp only [Bool.and_eq_true, List.isEmpty_iff, not_and] at h
      constructor
      · intro hc
        cases hc
      · intro hall
        exact absurd (hall c (by simp)) (h (ih.2 fun d hd => hall d (by simp [hd])))

/-- Trimming leaves nothing exactly when every character is blank. -/
theorem trimList_eq_nil_iff {cs : List Char} :
    trimList cs = [] ↔ ∀ c ∈ cs, isWhiteSpace c = true := by
  rw [trimList, dropTrailing_eq_nil_iff]
  induction cs with
  | nil => simp
  | cons c cs ih =>
    by_cases h : isWhiteSpace c = true
    · simpa [List.dropWhile_cons, h] using ih
    · simp [h]

/-- A list that ends in a character that is not blank keeps its end. -/
theorem dropTrailing_of_getLast {cs : List Char}
    (h : ∀ c ∈ cs.getLast?, isWhiteSpace c = false) : dropTrailing cs = cs := by
  induction cs with
  | nil => rfl
  | cons c cs ih =>
    rw [dropTrailing_cons]
    cases cs with
    | nil => simp [h c (by simp)]
    | cons d ds =>
      rw [ih (fun x hx => h x (by simpa [List.getLast?_cons_cons] using hx))]
      simp

/-- A list without blanks at its ends is left as it is. -/
theorem trimList_of_trimmed {cs : List Char}
    (first : ∀ c ∈ cs.head?, isWhiteSpace c = false)
    (last : ∀ c ∈ cs.getLast?, isWhiteSpace c = false) : trimList cs = cs := by
  have hdrop : cs.dropWhile isWhiteSpace = cs := by
    cases cs with
    | nil => rfl
    | cons c cs => simp [first c (by simp)]
  rw [trimList, hdrop, dropTrailing_of_getLast last]

/-- A list without blanks is left as it is. -/
theorem trimList_of_forall {cs : List Char} (h : ∀ c ∈ cs, isWhiteSpace c = false) :
    trimList cs = cs :=
  trimList_of_trimmed (fun c hc => h c (List.mem_of_mem_head? hc))
    (fun c hc => h c (List.mem_of_mem_getLast? hc))

/-- What is left begins as the list did. -/
theorem head?_of_head?_dropTrailing {cs : List Char} {c : Char}
    (h : c ∈ (dropTrailing cs).head?) : c ∈ cs.head? := by
  cases cs with
  | nil => exact h
  | cons d ds =>
    rw [dropTrailing_cons] at h
    split at h
    · cases h
    · exact h

/-- What is left ends in a character that is not blank. -/
theorem isWhiteSpace_of_getLast?_dropTrailing {cs : List Char} {c : Char}
    (h : c ∈ (dropTrailing cs).getLast?) : isWhiteSpace c = false := by
  induction cs with
  | nil => cases h
  | cons d ds ih =>
    rw [dropTrailing_cons] at h
    split at h
    next => cases h
    next hkept =>
      cases hrest : dropTrailing ds with
      | nil =>
        obtain rfl : d = c := by simpa [hrest] using h
        simpa [hrest] using hkept
      | cons x xs =>
        rw [hrest, List.getLast?_cons_cons, ← hrest] at h
        exact ih h

/-- What is left after trimming begins with a character that is not blank. -/
theorem isWhiteSpace_of_head?_trimList {cs : List Char} {c : Char}
    (h : c ∈ (trimList cs).head?) : isWhiteSpace c = false := by
  have hfirst : c ∈ (cs.dropWhile isWhiteSpace).head? := head?_of_head?_dropTrailing h
  have hkept := List.head?_dropWhile_not isWhiteSpace cs
  rw [hfirst] at hkept
  exact hkept

/-- What is left after trimming ends in a character that is not blank. -/
theorem isWhiteSpace_of_getLast?_trimList {cs : List Char} {c : Char}
    (h : c ∈ (trimList cs).getLast?) : isWhiteSpace c = false :=
  isWhiteSpace_of_getLast?_dropTrailing h

/-- Trimming a second time changes nothing. -/
theorem trimList_trimList (cs : List Char) : trimList (trimList cs) = trimList cs :=
  trimList_of_trimmed (fun _ hc => isWhiteSpace_of_head?_trimList hc)
    (fun _ hc => isWhiteSpace_of_getLast?_trimList hc)

/-- What remains without the blanks at the end stood there in this order. -/
theorem dropTrailing_sublist (cs : List Char) : (dropTrailing cs).Sublist cs := by
  induction cs with
  | nil => exact List.Sublist.refl _
  | cons c cs ih =>
    rw [dropTrailing_cons]
    split
    · exact List.nil_sublist _
    · exact ih.cons_cons c

/-- What remains after trimming stood there in this order. -/
theorem trimList_sublist (cs : List Char) : (trimList cs).Sublist cs :=
  (dropTrailing_sublist _).trans (List.dropWhile_sublist _)

/-- What was trimmed stays as it is. -/
theorem trim_trim (s : String) : trim (trim s) = trim s := by
  rw [trim, trim, String.toList_ofList, trimList_trimList]

end RegulatoryReporting.Text

import Mathlib
import RegulatoryReporting.Text.Case

/-!
# Capitals Stay Capitals

A text in capitals is its own capital form, and writing a text in capitals makes no character
blank. So a code that was normalised is its own normal form, and normalising it again, when
it is asked for or read back, changes nothing.

The capital forms are given by tables, and what has to be shown of them is that no character
they lead to is led on, or is blank. The tables hold runs of characters, so this is a fact about
runs that have no member in common (`CaseRun.isApart`), and it is checked run by run.

## Main results

* `Text.isSettled_or_eq_of_mem_upperChar` — a capital form is made of settled characters.
* `Text.toUpper_toUpper` — capitals stay as they are.
* `Text.normalizeCode_normalizeCode` — a normalised code is its own normal form.
-/

namespace RegulatoryReporting.Text

/-! ### Runs -/

namespace CaseRun

variable {r s : CaseRun} {n m : Nat}

/-- A character is a member of a run. -/
def Has (r : CaseRun) (n : Nat) : Prop :=
  r.first ≤ n ∧ n ≤ r.last ∧ (n - r.first) % r.step = 0

/-- The run of one character. -/
def single (n : Nat) : CaseRun := ⟨n, n, 1, 0⟩

/-- The characters to which a run leads. -/
def imageRun (r : CaseRun) : CaseRun :=
  ⟨((r.first : Int) + r.shift).toNat, ((r.last : Int) + r.shift).toNat, r.step, 0⟩

/-- Two runs have no member in common: one ends before the other begins, or the second has
every other character and the first those between. -/
def isApart (r s : CaseRun) : Bool :=
  r.last.blt s.first || s.last.blt r.first ||
    (s.step == 2 && (r.step == 2 || r.first == r.last) && (r.first + s.first) % 2 == 1)

/-- Members of a run are no members of a run that is apart from it. -/
theorem not_has_of_isApart (h : r.isApart s = true) (hr : r.Has n) : ¬ s.Has n := by
  rintro ⟨hfirst, hlast, hstep⟩
  obtain ⟨hrfirst, hrlast, hrstep⟩ := hr
  simp only [isApart, Bool.or_eq_true, Bool.and_eq_true, Nat.blt_eq, beq_iff_eq] at h
  rcases h with (hbefore | hafter) | ⟨⟨hs, hr | hr⟩, hparity⟩
  · omega
  · omega
  · rw [hs] at hstep
    rw [hr] at hrstep
    omega
  · rw [hs] at hstep
    omega

/-- The single character is the member of its run. -/
theorem has_single : (single n).Has n := ⟨Nat.le_refl n, Nat.le_refl n, Nat.mod_one _⟩

/-- A run leads its members, and no other characters, somewhere. -/
theorem image?_eq_some_iff :
    r.image? n = some m ↔ r.Has n ∧ ((n : Int) + r.shift).toNat = m := by
  rw [image?, Has]
  split
  next h => simp [h]
  next h => simp [h]

/-- What a run leads to is a member of the run of its images. -/
theorem has_imageRun (hshift : 0 ≤ (r.first : Int) + r.shift) (h : r.image? n = some m) :
    r.imageRun.Has m := by
  obtain ⟨⟨hfirst, hlast, hstep⟩, rfl⟩ := image?_eq_some_iff.1 h
  have hdistance : ((n : Int) + r.shift).toNat - ((r.first : Int) + r.shift).toNat =
      n - r.first := by omega
  refine ⟨?_, ?_, ?_⟩
  · simp only [imageRun]; omega
  · simp only [imageRun]; omega
  · simp only [imageRun, hdistance, hstep]

end CaseRun

/-! ### Settled characters -/

/-- A character that is its own capital form, and is not blank. -/
structure IsSettled (c : Char) : Prop where
  capital : upperChar c = [c]
  visible : isWhiteSpace c = false

/-- The blank characters as runs. -/
def blankRuns : List CaseRun :=
  [⟨9, 13, 1, 0⟩, .single 0x20, .single 0x85, .single 0xA0, .single 0x1680,
    ⟨0x2000, 0x200A, 1, 0⟩, .single 0x2028, .single 0x2029, .single 0x202F, .single 0x205F,
    .single 0x3000]

/-- Everything that may not be settled: what the tables lead elsewhere, the small letters of
ASCII, the blanks, and the numbers that are no characters. -/
def unsettledRuns : List CaseRun :=
  upperRuns ++ upperExpansions.map (fun entry => .single entry.1) ++
    ⟨97, 122, 1, 0⟩ :: ⟨0xD800, 0xDFFF, 1, 0⟩ :: blankRuns

/-- No member of a run may be unsettled. -/
def CaseRun.settles (r : CaseRun) : Bool :=
  r.last.blt 0x110000 && unsettledRuns.all r.isApart

/-- A blank character is a member of a run of blanks. -/
theorem exists_blankRun {c : Char} (h : isWhiteSpace c = true) :
    ∃ r ∈ blankRuns, r.Has c.toNat := by
  simp only [isWhiteSpace, Bool.or_eq_true, Bool.and_eq_true, decide_eq_true_eq,
    beq_iff_eq] at h
  simp only [blankRuns, List.mem_cons, List.not_mem_nil, or_false, exists_eq_or_imp,
    exists_eq_left, CaseRun.single, CaseRun.Has, Nat.mod_one, and_true]
  omega

/-- A character is its own capital form if no table leads it elsewhere and it is no small letter of
ASCII. -/
theorem upperChar_eq_self {c : Char} (hsmall : ¬ c.isLower = true)
    (hexpansions : ∀ entry ∈ upperExpansions, c.toNat ≠ entry.1)
    (hruns : ∀ r ∈ upperRuns, ¬ r.Has c.toNat) : upperChar c = [c] := by
  rw [upperChar]
  split
  · rw [Char.toUpper_eq_of_not_isLower hsmall]
  · have hlookup : upperExpansions.lookup c.toNat = none :=
      List.lookup_eq_none_iff.2 fun entry hentry => bne_iff_ne.2 (hexpansions entry hentry)
    have hrun : upperRuns.findSome? (·.image? c.toNat) = none := by
      refine List.findSome?_eq_none_iff.2 fun r hr => ?_
      cases himage : r.image? c.toNat with
      | none => rfl
      | some m => exact absurd (CaseRun.image?_eq_some_iff.1 himage).1 (hruns r hr)
    rw [hlookup, hrun]
    rfl

/-- The members of a run that settles them are settled characters. -/
theorem CaseRun.isSettled_of_settles {r : CaseRun} {n : Nat} (h : r.settles = true)
    (hn : r.Has n) : IsSettled (Char.ofNat n) := by
  rw [settles, Bool.and_eq_true, Nat.blt_eq, List.all_eq_true] at h
  obtain ⟨hbound, hapart⟩ := h
  have hfree : ∀ s ∈ unsettledRuns, ¬ s.Has n := fun s hs => not_has_of_isApart (hapart s hs) hn
  obtain ⟨htables, hrest⟩ := List.forall_mem_append.1 hfree
  obtain ⟨hruns, hexpansions⟩ := List.forall_mem_append.1 htables
  obtain ⟨hsmall, hrest⟩ := List.forall_mem_cons.1 hrest
  obtain ⟨hsurrogate, hblank⟩ := List.forall_mem_cons.1 hrest
  simp only [Has, Nat.mod_one, and_true] at hsmall hsurrogate
  have hnumber : (Char.ofNat n).toNat = n := by
    have hlast := hn.2.1
    rw [Char.toNat_ofNat, if_pos]
    rw [Nat.isValidChar]
    omega
  refine ⟨upperChar_eq_self ?_ (fun entry hentry heq => ?_) ?_, ?_⟩
  · simp only [Char.isLower, Bool.and_eq_true, decide_eq_true_eq, UInt32.le_iff_toNat_le]
    rw [Char.toNat] at hnumber
    rw [hnumber]
    exact hsmall
  · rw [hnumber] at heq
    exact hexpansions _ (List.mem_map_of_mem hentry) (heq ▸ has_single)
  · rwa [hnumber]
  · cases hwhite : isWhiteSpace (Char.ofNat n) with
    | false => rfl
    | true =>
      obtain ⟨s, hs, hhas⟩ := exists_blankRun hwhite
      exact absurd (hnumber ▸ hhas) (hblank s hs)

/-! ### The tables -/

/-- Every run leads to settled characters. -/
theorem settles_upperRuns : ∀ r ∈ upperRuns,
    0 ≤ (r.first : Int) + r.shift ∧ r.imageRun.settles = true := by
  have hall : upperRuns.all (fun r => 0 ≤ (r.first : Int) + r.shift && r.imageRun.settles) =
      true := by decide +kernel
  simpa using hall

/-- Every expansion is made of settled characters. -/
theorem settles_upperExpansions : ∀ entry ∈ upperExpansions, ∀ n ∈ entry.2,
    (CaseRun.single n).settles = true := by
  -- Most characters occur in several expansions, so they are gathered first.
  have hall : (upperExpansions.flatMap (·.2)).eraseDups.all
      (fun n => (CaseRun.single n).settles) = true := by decide +kernel
  intro entry hentry n hn
  exact List.all_eq_true.1 hall n (List.mem_eraseDups.2 (List.mem_flatMap.2 ⟨entry, hentry, hn⟩))

/-- The capital form of a character is made of settled characters, or it is the character
itself. -/
theorem isSettled_or_eq_of_mem_upperChar {c d : Char} (hd : d ∈ upperChar c) :
    IsSettled d ∨ d = c ∧ upperChar c = [c] := by
  rw [upperChar] at hd ⊢
  split at hd
  next hascii =>
    rw [if_pos hascii]
    by_cases hlower : c.isLower = true
    · have hrange : 97 ≤ c.toNat ∧ c.toNat ≤ 122 := by
        simpa [Char.isLower, UInt32.le_iff_toNat_le] using hlower
      have hcapitals : (⟨65, 90, 1, 0⟩ : CaseRun).settles = true := by decide +kernel
      rw [Char.toUpper_eq_of_isLower hlower, List.mem_singleton] at hd
      exact .inl (hd ▸ CaseRun.isSettled_of_settles hcapitals
        ⟨by show 65 ≤ _; omega, by show _ ≤ 90; omega, Nat.mod_one _⟩)
    · rw [Char.toUpper_eq_of_not_isLower hlower] at hd ⊢
      exact .inr ⟨List.mem_singleton.1 hd, rfl⟩
  next hbeyond =>
    rw [if_neg hbeyond]
    split at hd
    next ns hns =>
      obtain ⟨n, hn, rfl⟩ := List.mem_map.1 hd
      obtain ⟨before, after, htable, -⟩ := List.lookup_eq_some_iff.1 hns
      have hentry : (c.toNat, ns) ∈ upperExpansions := by
        rw [htable]
        exact List.mem_append_right _ List.mem_cons_self
      exact .inl (CaseRun.isSettled_of_settles (settles_upperExpansions _ hentry n hn)
        CaseRun.has_single)
    next hns =>
      cases himage : upperRuns.findSome? (·.image? c.toNat) with
      | none =>
        rw [himage] at hd
        exact .inr ⟨List.mem_singleton.1 hd, rfl⟩
      | some n =>
        rw [himage] at hd
        obtain rfl := List.mem_singleton.1 hd
        obtain ⟨r, hr, hrun⟩ := List.exists_of_findSome?_eq_some himage
        obtain ⟨hshift, hsettles⟩ := settles_upperRuns r hr
        exact .inl (CaseRun.isSettled_of_settles hsettles (CaseRun.has_imageRun hshift hrun))

/-- A character that is not blank does not become blank in capitals. -/
theorem isWhiteSpace_of_mem_upperChar {c d : Char} (hc : isWhiteSpace c = false)
    (hd : d ∈ upperChar c) : isWhiteSpace d = false := by
  rcases isSettled_or_eq_of_mem_upperChar hd with hsettled | ⟨rfl, -⟩
  · exact hsettled.visible
  · exact hc

/-! ### Texts -/

/-- Capitals stay as they are, character by character. -/
theorem flatMap_upperChar_upperChar (c : Char) :
    (upperChar c).flatMap upperChar = upperChar c := by
  have hkept : ∀ d ∈ upperChar c, upperChar d = [d] := by
    intro d hd
    rcases isSettled_or_eq_of_mem_upperChar hd with hsettled | ⟨rfl, hself⟩
    · exact hsettled.capital
    · exact hself
  rw [List.flatMap_congr hkept, List.flatMap_singleton']

/-- A text in capitals is its own capital form. -/
theorem toUpper_toUpper (s : String) : toUpper (toUpper s) = toUpper s := by
  rw [toUpper, toUpper, String.toList_ofList, List.flatMap_assoc,
    List.flatMap_congr fun c _ => flatMap_upperChar_upperChar c]

/-- A text without blanks at its ends has none in capitals. -/
theorem trimList_flatMap_upperChar {cs : List Char}
    (first : ∀ c ∈ cs.head?, isWhiteSpace c = false)
    (last : ∀ c ∈ cs.getLast?, isWhiteSpace c = false) :
    trimList (cs.flatMap upperChar) = cs.flatMap upperChar := by
  refine trimList_of_trimmed (fun d hd => ?_) (fun d hd => ?_)
  · cases cs with
    | nil => cases hd
    | cons c cs =>
      rw [List.flatMap_cons, List.head?_append_of_ne_nil _ (upperChar_ne_nil c)] at hd
      exact isWhiteSpace_of_mem_upperChar (first c rfl) (List.mem_of_mem_head? hd)
  · cases cs using List.reverseRecOn with
    | nil => cases hd
    | append_singleton cs c _ =>
      rw [List.flatMap_append, List.flatMap_singleton,
        List.getLast?_append_of_ne_nil _ (upperChar_ne_nil c)] at hd
      exact isWhiteSpace_of_mem_upperChar (last c (by simp)) (List.mem_of_mem_getLast? hd)

/-- A normalised code has no blanks around it. -/
theorem trim_normalizeCode (s : String) : trim (normalizeCode s) = normalizeCode s := by
  rw [normalizeCode, trim, toUpper, trim, String.toList_ofList, String.toList_ofList,
    trimList_flatMap_upperChar (fun _ hc => isWhiteSpace_of_head?_trimList hc)
      (fun _ hc => isWhiteSpace_of_getLast?_trimList hc)]

/-- A normalised code is its own normal form. -/
theorem normalizeCode_normalizeCode (s : String) :
    normalizeCode (normalizeCode s) = normalizeCode s := by
  calc normalizeCode (normalizeCode s)
      = toUpper (trim (normalizeCode s)) := rfl
    _ = toUpper (normalizeCode s) := by rw [trim_normalizeCode]
    _ = normalizeCode s := toUpper_toUpper _

end RegulatoryReporting.Text

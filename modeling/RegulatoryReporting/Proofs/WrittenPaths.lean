import Mathlib.Data.List.TakeWhile
import RegulatoryReporting.Path.Syntax
import RegulatoryReporting.Proofs.NumberText
import RegulatoryReporting.Wire.Decoder

/-!
# Paths Read Back

The segments of a path are told by their texts: names, keys and values have no blanks at their
ends and none of the characters that would end them there, and only the value of a filter may
be empty (`PathSegment.IsWellFormed`). Exactly the lists of such segments, apart from the empty
one, are the segments of some path, and each of them is read from its own text.

The reader walks along the characters with the text that it has taken since the last segment.
Two facts about this text carry the two directions. It holds none of the characters that would
have ended it (`PathPosition.IsSound`), so that whatever is cut off is well formed. And a text
without these characters is taken as a whole (`PathSegment.scan_inName_append`,
`PathSegment.scan_inFilter_append`), so that a segment is read from its text up to the point
that follows.

## Main results

* `PathSegment.isWellFormed_of_scan` — whatever is read is well formed.
* `PathSegment.scan_print_append` — a segment is read from its text.
* `FieldPath.ofText_printSegments` — a path is read from the text of its segments.
* `FieldPath.reads_written` — both directions, and what becomes of an accepted text.
-/

namespace RegulatoryReporting

/-! ### Well-formed segments -/

/-- A text as it stands in a path: it has no blanks at its ends, and none of the characters
that would end it there. -/
structure IsPathText (ends : List Char) (s : String) : Prop where
  /-- It does not begin with a blank. -/
  first : ∀ c ∈ s.toList.head?, Text.isWhiteSpace c = false
  /-- It does not end in a blank. -/
  last : ∀ c ∈ s.toList.getLast?, Text.isWhiteSpace c = false
  /-- No character ends it early. -/
  free : ∀ c ∈ s.toList, c ∉ ends

/-- The name of a segment ends at a point or at an opening bracket, and is not empty. -/
structure IsSegmentName (name : String) : Prop extends IsPathText ['.', '['] name where
  /-- There is a name. -/
  ne_empty : name ≠ ""

/-- A segment that a path can write. -/
inductive PathSegment.IsWellFormed : PathSegment → Prop
  | key {name : String} (hname : IsSegmentName name) : IsWellFormed (.key name)
  /-- The key ends at an equals sign, and both parts before a closing bracket. -/
  | filter {name key value : String} (hname : IsSegmentName name)
      (hkey : IsPathText ['=', ']'] key) (hne : key ≠ "") (hvalue : IsPathText [']'] value) :
      IsWellFormed (.filter name key value)
  /-- An index has 64 bits. -/
  | index {name : String} {i : Nat} (hname : IsSegmentName name) (hi : i ≤ 2 ^ 64 - 1) :
      IsWellFormed (.index name i)

/-- The segments of a path: at least one, each of them well formed. -/
structure AreWellFormed (segments : List PathSegment) : Prop where
  /-- There is a segment. -/
  ne_nil : segments ≠ []
  /-- Each segment is well formed. -/
  each : ∀ segment ∈ segments, segment.IsWellFormed

variable {ends cs taken rest : List Char} {name key value : String} {s : PathSegment}

/-- What is cut off and trimmed is a text of a path. -/
theorem isPathText_trimList (h : ∀ c ∈ cs, c ∉ ends) :
    IsPathText ends (String.ofList (Text.trimList cs)) := by
  refine ⟨fun c hc => ?_, fun c hc => ?_, fun c hc => ?_⟩
  · rw [String.toList_ofList] at hc
    exact Text.isWhiteSpace_of_head?_trimList hc
  · rw [String.toList_ofList] at hc
    exact Text.isWhiteSpace_of_getLast?_trimList hc
  · rw [String.toList_ofList] at hc
    exact h c ((Text.trimList_sublist cs).subset hc)

/-- A text of a path is left by trimming as it is. -/
theorem IsPathText.trimList_eq (h : IsPathText ends value) :
    Text.trimList value.toList = value.toList :=
  Text.trimList_of_trimmed h.first h.last

/-- A text that is not empty has characters. -/
theorem toList_ne_nil (h : value ≠ "") : value.toList ≠ [] :=
  fun hnil => h (String.toList_eq_nil_iff.1 hnil)

/-- A text of characters is not empty. -/
theorem ofList_ne_empty (h : cs ≠ []) : String.ofList cs ≠ "" :=
  fun hempty => h (by rw [← String.toList_ofList (l := cs), hempty, String.toList_empty])

/-! ### What is read is well formed -/

/-- A name is read from characters without a point and without an opening bracket. -/
theorem isSegmentName_of_readName (h : readName cs = .ok name) (hcs : ∀ c ∈ cs, c ∉ ['.', '[']) :
    IsSegmentName name := by
  rw [readName] at h
  split at h
  next => cases h
  next hne =>
    obtain rfl := Except.ok.inj h
    exact ⟨isPathText_trimList hcs, ofList_ne_empty hne⟩

/-- An index that is read has 64 bits. -/
theorem le_of_readIndex? {i : Nat} (h : readIndex? cs = some i) : i ≤ 2 ^ 64 - 1 := by
  have hread : ∀ digits : List Char, (if digits.isEmpty || !digits.all Char.isDigit then none
      else if digitsValue digits ≤ maxIndex then some (digitsValue digits) else none) = some i →
      i ≤ 2 ^ 64 - 1 := by
    intro digits hdigits
    split at hdigits
    next => cases hdigits
    next =>
      split at hdigits
      next hle =>
        obtain rfl := Option.some.inj hdigits
        exact hle
      next => cases hdigits
  exact hread _ h

/-- A filter or an index is read from characters without a closing bracket. -/
theorem isWellFormed_of_readFilter (h : readFilter name cs = .ok s) (hname : IsSegmentName name)
    (hcs : ∀ c ∈ cs, c ≠ ']') : s.IsWellFormed := by
  have hsplit := List.takeWhile_append_dropWhile (p := (· != '=')) (l := cs)
  rw [readFilter] at h
  split at h
  next sign value hrest =>
    split at h
    next => cases h
    next hne =>
      obtain rfl := Except.ok.inj h
      refine .filter hname (isPathText_trimList fun c hc => ?_) (ofList_ne_empty hne)
        (isPathText_trimList fun c hc => ?_)
      · have hsign : c ≠ '=' := by simpa using List.mem_takeWhile_imp hc
        have hbracket := hcs c ((List.takeWhile_sublist _).subset hc)
        simp [hsign, hbracket]
      · have hmem : c ∈ cs := by
          rw [← hsplit, hrest]
          simp [hc]
        simpa using hcs c hmem
  next =>
    split at h
    next i hindex =>
      obtain rfl := Except.ok.inj h
      exact .index hname (le_of_readIndex? hindex)
    next => cases h

/-- What the reader has taken holds none of the characters that would have ended it. -/
inductive PathPosition.IsSound : PathPosition → Prop
  | inName (taken : List Char) (h : ∀ c ∈ taken, c ∉ ['.', '[']) : IsSound (.inName taken)
  | inFilter {name : String} (hname : IsSegmentName name) (taken : List Char)
      (h : ∀ c ∈ taken, c ≠ ']') : IsSound (.inFilter name taken)
  | closed : IsSound .closed

namespace PathSegment

/-- Whatever is read is well formed, and only after a bracket the path may be at its end. -/
theorem isWellFormed_of_scan {position : PathPosition} {segments : List PathSegment}
    (hposition : position.IsSound) (h : scan position cs = .ok segments) :
    (∀ s ∈ segments, s.IsWellFormed) ∧ (segments = [] → position = .closed) := by
  induction cs generalizing position segments with
  | nil =>
    cases hposition with
    | inName taken htaken =>
      rw [scan] at h
      obtain ⟨name, hname, h⟩ := Except.bind_eq_ok_iff.1 h
      obtain rfl := Except.ok.inj h
      refine ⟨?_, nofun⟩
      rw [List.forall_mem_singleton]
      exact .key (isSegmentName_of_readName hname htaken)
    | inFilter => cases h
    | closed =>
      obtain rfl := Except.ok.inj h
      exact ⟨nofun, fun _ => rfl⟩
  | cons c cs ih =>
    have hstart : PathPosition.IsSound (.inName []) := .inName [] nofun
    cases hposition with
    | inName taken htaken =>
      rw [scan] at h
      split at h
      next =>
        obtain ⟨name, hname, h⟩ := Except.bind_eq_ok_iff.1 h
        obtain ⟨rest, hrest, h⟩ := Except.bind_eq_ok_iff.1 h
        obtain rfl := Except.ok.inj h
        refine ⟨?_, nofun⟩
        rw [List.forall_mem_cons]
        exact ⟨.key (isSegmentName_of_readName hname htaken), (ih hstart hrest).1⟩
      next hpoint =>
        split at h
        next =>
          obtain ⟨name, hname, h⟩ := Except.bind_eq_ok_iff.1 h
          obtain ⟨hall, hend⟩ := ih (.inFilter (isSegmentName_of_readName hname htaken) [] nofun) h
          exact ⟨hall, fun hnil => nomatch hend hnil⟩
        next hbracket =>
          have hlonger : ∀ d ∈ taken ++ [c], d ∉ ['.', '['] := by
            rw [List.forall_mem_append, List.forall_mem_singleton]
            exact ⟨htaken, by simp_all⟩
          obtain ⟨hall, hend⟩ := ih (.inName _ hlonger) h
          exact ⟨hall, fun hnil => nomatch hend hnil⟩
    | inFilter hname taken htaken =>
      rw [scan] at h
      split at h
      next =>
        obtain ⟨segment, hsegment, h⟩ := Except.bind_eq_ok_iff.1 h
        obtain ⟨rest, hrest, h⟩ := Except.bind_eq_ok_iff.1 h
        obtain rfl := Except.ok.inj h
        refine ⟨?_, nofun⟩
        rw [List.forall_mem_cons]
        exact ⟨isWellFormed_of_readFilter hsegment hname htaken, (ih .closed hrest).1⟩
      next hbracket =>
        have hlonger : ∀ d ∈ taken ++ [c], d ≠ ']' := by
          rw [List.forall_mem_append, List.forall_mem_singleton]
          exact ⟨htaken, by simpa using hbracket⟩
        obtain ⟨hall, hend⟩ := ih (.inFilter hname _ hlonger) h
        exact ⟨hall, fun hnil => nomatch hend hnil⟩
    | closed =>
      rw [scan] at h
      split at h
      next => exact ⟨(ih hstart h).1, fun _ => rfl⟩
      next => cases h

/-! ### What is written is read -/

/-- A name goes on up to a point or an opening bracket. -/
theorem scan_inName_append (h : ∀ c ∈ cs, c ∉ ['.', '[']) (taken rest : List Char) :
    scan (.inName taken) (cs ++ rest) = scan (.inName (taken ++ cs)) rest := by
  induction cs generalizing taken with
  | nil => rw [List.nil_append, List.append_nil]
  | cons c cs ih =>
    rw [List.forall_mem_cons] at h
    have hpoint : ¬ (c == '.') = true := fun hc => h.1 (by simp [eq_of_beq hc])
    have hbracket : ¬ (c == '[') = true := fun hc => h.1 (by simp [eq_of_beq hc])
    rw [List.cons_append, scan, if_neg hpoint, if_neg hbracket, ih h.2, List.append_assoc,
      List.singleton_append]

/-- What is in brackets goes on up to the closing one. -/
theorem scan_inFilter_append (h : ∀ c ∈ cs, c ≠ ']') (name : String) (taken rest : List Char) :
    scan (.inFilter name taken) (cs ++ ']' :: rest) = (do
      let segment ← readFilter name (taken ++ cs)
      let segments ← scan .closed rest
      return segment :: segments) := by
  induction cs generalizing taken with
  | nil => rw [List.nil_append, List.append_nil, scan, if_pos (beq_self_eq_true _)]
  | cons c cs ih =>
    rw [List.forall_mem_cons] at h
    have hbracket : ¬ (c == ']') = true := fun hc => h.1 (eq_of_beq hc)
    rw [List.cons_append, scan, if_neg hbracket, ih h.2, List.append_assoc, List.singleton_append]

end PathSegment

/-- A name is read from its text. -/
theorem IsSegmentName.readName_eq (h : IsSegmentName name) : readName name.toList = .ok name := by
  rw [readName, h.trimList_eq]
  split
  next hnil => exact absurd hnil (toList_ne_nil h.ne_empty)
  next => rw [String.ofList_toList]

/-- A filter is read from its text. -/
theorem readFilter_filter (hkey : IsPathText ['=', ']'] key) (hne : key ≠ "")
    (hvalue : IsPathText [']'] value) :
    readFilter name (key.toList ++ '=' :: value.toList) = .ok (.filter name key value) := by
  have hsign : ∀ c ∈ key.toList, (c != '=') = true := fun c hc => by
    have hfree := hkey.free c hc
    rw [bne_iff_ne]
    rintro rfl
    exact hfree (by simp)
  have hstop : ∀ c ∈ ('=' :: value.toList).head?, (c != '=') = false := by
    rintro c ⟨rfl⟩
    rfl
  rw [readFilter, dropWhile_append_of_head? hsign hstop, takeWhile_append_of_head? hsign hstop]
  dsimp only
  rw [hkey.trimList_eq, hvalue.trimList_eq]
  split
  next hnil => exact absurd hnil (toList_ne_nil hne)
  next => rw [String.ofList_toList, String.ofList_toList]

/-- The digits of a number of 64 bits are read as an index. -/
theorem readIndex?_toDigits {i : Nat} (hi : i ≤ 2 ^ 64 - 1) :
    readIndex? (Nat.toDigits 10 i) = some i := by
  have hdigits := isDigits_toDigits i
  have hall : (Nat.toDigits 10 i).all Char.isDigit = true := List.all_eq_true.2 hdigits
  have hne : (Nat.toDigits 10 i).isEmpty = false := by simp
  have hle : i ≤ maxIndex := hi
  have hplus : ∀ rest, Nat.toDigits 10 i = '+' :: rest → False := fun rest hrest =>
    absurd (hdigits '+' (hrest ▸ List.mem_cons_self)) (by decide)
  rw [readIndex?]
  · simp only [hall, hne, Bool.not_true, Bool.or_false, Bool.false_eq_true, if_false,
      digitsValue_toDigits, if_pos hle]
  · exact hplus

/-- An index is read from its digits. -/
theorem readFilter_index {i : Nat} (hi : i ≤ 2 ^ 64 - 1) :
    readFilter name (Nat.toDigits 10 i) = .ok (.index name i) := by
  have hdigits := isDigits_toDigits i
  have hblank : ∀ c ∈ Nat.toDigits 10 i, Text.isWhiteSpace c = false := fun c hc =>
    isWhiteSpace_eq_false_of_isDigit (hdigits c hc)
  have hsign : (Nat.toDigits 10 i).dropWhile (· != '=') = [] := by
    rw [List.dropWhile_eq_nil_iff]
    intro c hc
    rw [bne_iff_ne]
    rintro rfl
    exact absurd (hdigits _ hc) (by decide)
  rw [readFilter, hsign]
  dsimp only
  rw [Text.trimList_of_forall hblank, readIndex?_toDigits hi]

namespace PathSegment

/-- A name with brackets is read from its parts, and then the rest. -/
theorem scan_brackets (hname : IsSegmentName name) (hcs : ∀ c ∈ cs, c ≠ ']')
    (rest : List Char) :
    scan (.inName []) (name.toList ++ '[' :: (cs ++ ']' :: rest)) = (do
      let segment ← readFilter name cs
      let segments ← scan .closed rest
      return segment :: segments) := by
  rw [scan_inName_append hname.free, List.nil_append, scan, if_neg (by decide),
    if_pos (beq_self_eq_true _), hname.readName_eq]
  exact scan_inFilter_append hcs name [] rest

/-- A segment is read from its text, if a point follows or nothing. -/
theorem scan_print_append (h : s.IsWellFormed) (hrest : ∀ c ∈ rest.head?, c = '.') :
    scan (.inName []) (s.print ++ rest) = (scan .closed rest).map (s :: ·) := by
  cases h with
  | key hname =>
    rw [print, scan_inName_append hname.free, List.nil_append]
    cases rest with
    | nil => rw [scan, hname.readName_eq]; rfl
    | cons c rest =>
      obtain rfl := hrest c rfl
      rw [scan, if_pos (beq_self_eq_true _), hname.readName_eq, scan, if_pos (beq_self_eq_true _)]
      cases scan (.inName []) rest <;> rfl
  | @filter name key value hname hkey hne hvalue =>
    have hfree : ∀ c ∈ key.toList ++ '=' :: value.toList, c ≠ ']' := by
      rw [List.forall_mem_append, List.forall_mem_cons]
      refine ⟨fun c hc hend => hkey.free c hc (by simp [hend]), by decide, fun c hc hend => ?_⟩
      exact hvalue.free c hc (by simp [hend])
    have htext : (filter name key value).print ++ rest =
        name.toList ++ '[' :: ((key.toList ++ '=' :: value.toList) ++ ']' :: rest) := by
      simp [print]
    rw [htext, scan_brackets hname hfree, readFilter_filter hkey hne hvalue]
    rfl
  | @index name i hname hi =>
    have hfree : ∀ c ∈ Nat.toDigits 10 i, c ≠ ']' := by
      rintro c hc rfl
      exact absurd (isDigits_toDigits i _ hc) (by decide)
    have htext : (index name i).print ++ rest =
        name.toList ++ '[' :: (Nat.toDigits 10 i ++ ']' :: rest) := by
      simp [print]
    rw [htext, scan_brackets hname hfree, readFilter_index hi]
    rfl

/-- The text of a segment begins with its name. -/
theorem exists_print_eq_name (h : s.IsWellFormed) :
    ∃ name rest, IsSegmentName name ∧ s.print = name.toList ++ rest := by
  cases h with
  | key hname => exact ⟨_, [], hname, (List.append_nil _).symm⟩
  | filter hname =>
    rw [print, List.append_assoc, List.append_assoc]
    exact ⟨_, _, hname, rfl⟩
  | index hname =>
    rw [print, List.append_assoc]
    exact ⟨_, _, hname, rfl⟩

/-- The text of a segment ends in no blank. -/
theorem isWhiteSpace_of_getLast?_print (h : s.IsWellFormed) :
    ∀ c ∈ s.print.getLast?, Text.isWhiteSpace c = false := by
  have hbracket : ∀ (cs : List Char), ∀ c ∈ (cs ++ [']']).getLast?, Text.isWhiteSpace c = false := by
    intro cs c hc
    rw [List.getLast?_concat] at hc
    obtain rfl := Option.some.inj hc
    rfl
  cases h with
  | key hname => exact hname.last
  | filter => exact hbracket _
  | index => exact hbracket _

/-- A segment has a text. -/
theorem print_ne_nil (h : s.IsWellFormed) : s.print ≠ [] := by
  obtain ⟨name, rest, hname, htext⟩ := exists_print_eq_name h
  rw [htext]
  exact List.append_ne_nil_of_left_ne_nil (toList_ne_nil hname.ne_empty) _

end PathSegment

variable {segments : List PathSegment}

/-- Several segments are written with a point after the first one. -/
theorem printSegments_cons_cons (t : PathSegment) :
    printSegments (s :: t :: segments) = s.print ++ '.' :: printSegments (t :: segments) := rfl

/-- Segments are read from their text. -/
theorem scan_printSegments (h : AreWellFormed segments) :
    PathSegment.scan (.inName []) (printSegments segments) = .ok segments := by
  obtain ⟨hne, heach⟩ := h
  induction segments with
  | nil => exact absurd rfl hne
  | cons s segments ih =>
    rw [List.forall_mem_cons] at heach
    cases segments with
    | nil =>
      have hread : PathSegment.scan (.inName []) (s.print ++ []) = .ok [s] :=
        PathSegment.scan_print_append heach.1 nofun
      rwa [List.append_nil] at hread
    | cons t segments =>
      have hpoint : ∀ c ∈ ('.' :: printSegments (t :: segments)).head?, c = '.' := by
        rintro c ⟨rfl⟩
        rfl
      rw [printSegments_cons_cons, PathSegment.scan_print_append heach.1 hpoint, PathSegment.scan,
        if_pos (beq_self_eq_true _), ih (List.cons_ne_nil _ _) heach.2]
      rfl

/-- The text of segments begins with the text of the first one. -/
theorem exists_printSegments_eq (s : PathSegment) (segments : List PathSegment) :
    ∃ rest, printSegments (s :: segments) = s.print ++ rest := by
  cases segments with
  | nil => exact ⟨[], (List.append_nil _).symm⟩
  | cons t segments => exact ⟨_, rfl⟩

/-- The text of segments ends in no blank. -/
theorem isWhiteSpace_of_getLast?_printSegments (h : ∀ s ∈ segments, s.IsWellFormed) :
    ∀ c ∈ (printSegments segments).getLast?, Text.isWhiteSpace c = false := by
  induction segments with
  | nil => exact nofun
  | cons s segments ih =>
    rw [List.forall_mem_cons] at h
    cases segments with
    | nil => exact PathSegment.isWhiteSpace_of_getLast?_print h.1
    | cons t segments =>
      obtain ⟨rest, hrest⟩ := exists_printSegments_eq t segments
      have hne : printSegments (t :: segments) ≠ [] := by
        rw [hrest]
        exact List.append_ne_nil_of_left_ne_nil
          (PathSegment.print_ne_nil (h.2 t List.mem_cons_self)) rest
      rw [printSegments_cons_cons, List.getLast?_append_of_ne_nil _ (List.cons_ne_nil _ _),
        List.getLast?_cons_of_ne_nil hne]
      exact ih h.2

/-- The text of segments is not empty, and has no blanks at its ends. -/
theorem trimList_printSegments (h : AreWellFormed segments) :
    printSegments segments ≠ [] ∧
      Text.trimList (printSegments segments) = printSegments segments := by
  obtain ⟨s, others, rfl⟩ := List.exists_cons_of_ne_nil h.ne_nil
  obtain ⟨name, after, hname, htext⟩ :=
    PathSegment.exists_print_eq_name (h.each s List.mem_cons_self)
  obtain ⟨more, hmore⟩ := exists_printSegments_eq s others
  have hstart : printSegments (s :: others) = name.toList ++ (after ++ more) := by
    rw [hmore, htext, List.append_assoc]
  refine ⟨?_, Text.trimList_of_trimmed ?_ (isWhiteSpace_of_getLast?_printSegments h.each)⟩
  · rw [hstart]
    exact List.append_ne_nil_of_left_ne_nil (toList_ne_nil hname.ne_empty) _
  · rw [hstart, List.head?_append_of_ne_nil _ (toList_ne_nil hname.ne_empty)]
    exact hname.first

namespace FieldPath

variable {raw : String} {p : FieldPath}

/-- A path is read from its characters without the blanks at either end. -/
theorem ofText_eq_ok_iff :
    ofText raw = .ok p ↔ p.text = Text.trim raw ∧ Text.trimList raw.toList ≠ [] ∧
      PathSegment.scan (.inName []) (Text.trimList raw.toList) = .ok p.segments := by
  rw [ofText, Text.trim]
  generalize Text.trimList raw.toList = cs
  cases cs with
  | nil => simp
  | cons c cs =>
    cases hscan : PathSegment.scan (.inName []) (c :: cs) with
    | error fault => simp [hscan]
    | ok segments =>
      obtain ⟨text, read⟩ := p
      simp only [hscan, Except.ok.injEq, FieldPath.mk.injEq, ne_eq, reduceCtorEq,
        not_false_eq_true, true_and, eq_comm]

/-- A text that is no path is named in the error. -/
theorem path_eq_of_ofText {e : InvalidPath} (h : ofText raw = .error e) : e.path = raw := by
  rw [ofText] at h
  split at h
  next =>
    obtain rfl := Except.error.inj h
    rfl
  next =>
    split at h
    next => cases h
    next =>
      obtain rfl := Except.error.inj h
      rfl

/-- The segments of a path are well formed. -/
theorem areWellFormed_of_ofText (h : ofText raw = .ok p) : AreWellFormed p.segments := by
  obtain ⟨-, -, hscan⟩ := ofText_eq_ok_iff.1 h
  obtain ⟨heach, hend⟩ := PathSegment.isWellFormed_of_scan (.inName [] nofun) hscan
  exact ⟨fun hnil => (nomatch hend hnil), heach⟩

/-- The text of a path is read to the path again. -/
theorem ofText_text (h : ofText raw = .ok p) : ofText p.text = .ok p := by
  obtain ⟨htext, hne, hscan⟩ := ofText_eq_ok_iff.1 h
  rw [ofText_eq_ok_iff, htext, Text.trim_trim, Text.trim, String.toList_ofList,
    Text.trimList_trimList]
  exact ⟨rfl, hne, hscan⟩

/-- A path is read from the text of its segments. -/
theorem ofText_printSegments (h : AreWellFormed segments) :
    ofText (String.ofList (printSegments segments)) =
      .ok ⟨String.ofList (printSegments segments), segments⟩ := by
  obtain ⟨hne, htrim⟩ := trimList_printSegments h
  rw [ofText_eq_ok_iff, Text.trim, String.toList_ofList, htrim]
  exact ⟨rfl, hne, scan_printSegments h⟩

/-- **Reading undoes writing, on exactly the well-formed segments.**

* Every text is read: it is a path, or the error names it.
* The segments of a path are well formed. They are read again from their own text, and the text
  of the path, which is the given text without the blanks around it, is read to the path again.
* Segments are read from their text exactly if they are well formed. -/
theorem reads_written :
    (∀ raw : String, (∃ fault, ofText raw = .error ⟨raw, fault⟩) ∨
      ∃ p, ofText raw = .ok p ∧ p.text = Text.trim raw ∧ AreWellFormed p.segments ∧
        ofText (String.ofList (printSegments p.segments)) =
          .ok ⟨String.ofList (printSegments p.segments), p.segments⟩ ∧
        ofText p.text = .ok p) ∧
    ∀ segments : List PathSegment,
      ofText (String.ofList (printSegments segments)) =
        .ok ⟨String.ofList (printSegments segments), segments⟩ ↔ AreWellFormed segments := by
  refine ⟨fun raw => ?_, fun segments => ⟨areWellFormed_of_ofText, ofText_printSegments⟩⟩
  cases hread : ofText raw with
  | error e =>
    obtain rfl := path_eq_of_ofText hread
    exact .inl ⟨e.fault, rfl⟩
  | ok p =>
    have hsegments := areWellFormed_of_ofText hread
    exact .inr ⟨p, rfl, (ofText_eq_ok_iff.1 hread).1, hsegments, ofText_printSegments hsegments,
      ofText_text hread⟩

-- Where they end nothing, points, brackets and equals signs are like other characters.
example : ofText " a]=b[k.[==v[.]. legs [+007]" = .ok ⟨"a]=b[k.[==v[.]. legs [+007]",
    [.filter "a]=b" "k.[" "=v[.", .index "legs" 7]⟩ := by
  decide +kernel

end FieldPath

end RegulatoryReporting

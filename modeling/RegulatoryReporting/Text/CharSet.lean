/-!
# Sets of Characters

A set of characters is held by its boundaries: the code points, in ascending order, at
which membership changes when one walks up from zero. Two sets with the same members have
the same boundaries, and every operation on two sets is one walk along both lists.

A set can be listed as text: code points in base sixteen, two of them joined by a hyphen for a
range, a range followed by `:2` for every other code point of it. A listing takes several lines
and is in ascending order.

## Main results

* `CharSet.has_combine` — an operation on sets is the operation on membership;
* `CharSet.has_union`, `CharSet.has_inter`, `CharSet.has_diff`, `CharSet.has_symmDiff` —
  the four operations that patterns write;
* `CharSet.has_unionAll` — the union of many sets.
-/

namespace RegulatoryReporting.Text

/-- The code points from `first` to `last`, both included. -/
structure CharRange where
  /-- The least code point of the range. -/
  first : Nat
  /-- The greatest code point of the range. -/
  last : Nat
  deriving DecidableEq, Repr

/-- Whether numbers ascend strictly, none being below `low`. -/
def ascendFrom : Nat → List Nat → Bool
  | _, [] => true
  | low, b :: bs => low ≤ b && ascendFrom (b + 1) bs

/-- A set of code points. -/
structure CharSet where
  /-- Where membership changes; below the first boundary nothing belongs to the set. -/
  boundaries : List Nat
  /-- The boundaries ascend. -/
  ascending : ascendFrom 0 boundaries = true
  deriving DecidableEq, Repr

namespace CharSet

/-! ### Membership -/

/-- Walk up the boundaries to a code point; `inside` tells what holds below the first. -/
def walk (inside : Bool) : List Nat → Nat → Bool
  | [], _ => inside
  | b :: bs, n => if n < b then inside else walk (!inside) bs n

/-- Whether a code point belongs to the set. -/
def has (s : CharSet) (n : Nat) : Bool := walk false s.boundaries n

/-- Whether a character belongs to the set. -/
def contains (s : CharSet) (c : Char) : Bool := s.has c.toNat

/-! ### Operations on two sets -/

/-- Record a boundary if the result of an operation changes there. -/
def changeAt (place : Nat) (before after : Bool) (rest : List Nat) : List Nat :=
  if before == after then rest else place :: rest

/-- Walk along two lists of boundaries; `x` and `y` tell whether the place reached lies
inside the first set and the second. -/
def combineFrom (f : Bool → Bool → Bool) (x y : Bool) : List Nat → List Nat → List Nat
  | [], [] => []
  | a :: as, [] => changeAt a (f x y) (f (!x) y) (combineFrom f (!x) y as [])
  | [], b :: bs => changeAt b (f x y) (f x (!y)) (combineFrom f x (!y) [] bs)
  | a :: as, b :: bs =>
    if a < b then changeAt a (f x y) (f (!x) y) (combineFrom f (!x) y as (b :: bs))
    else if b < a then changeAt b (f x y) (f x (!y)) (combineFrom f x (!y) (a :: as) bs)
    else changeAt a (f x y) (f (!x) (!y)) (combineFrom f (!x) (!y) as bs)
termination_by as bs => as.length + bs.length

theorem ascendFrom_mono {low high : Nat} {bs : List Nat} (h : low ≤ high)
    (hbs : ascendFrom high bs = true) : ascendFrom low bs = true := by
  cases bs with
  | nil => rfl
  | cons b bs =>
    simp only [ascendFrom, Bool.and_eq_true, decide_eq_true_eq] at hbs ⊢
    exact ⟨Nat.le_trans h hbs.1, hbs.2⟩

/-- Below all boundaries nothing has changed yet. -/
theorem walk_of_lt {low n : Nat} {bs : List Nat} (inside : Bool) (hn : n < low)
    (hbs : ascendFrom low bs = true) : walk inside bs n = inside := by
  cases bs with
  | nil => rfl
  | cons b bs =>
    simp only [ascendFrom, Bool.and_eq_true, decide_eq_true_eq] at hbs
    rw [walk, if_pos (Nat.lt_of_lt_of_le hn hbs.1)]

theorem ascendFrom_changeAt {low place : Nat} {before after : Bool} {rest : List Nat}
    (hplace : low ≤ place) (hrest : ascendFrom (place + 1) rest = true) :
    ascendFrom low (changeAt place before after rest) = true := by
  unfold changeAt
  split
  · exact ascendFrom_mono (by omega) hrest
  · simp [ascendFrom, hplace, hrest]

/-- The boundaries of the result ascend as those of the two sets do. -/
theorem ascendFrom_combineFrom (f : Bool → Bool → Bool) {x y : Bool} {low : Nat}
    {as bs : List Nat} (has : ascendFrom low as = true) (hbs : ascendFrom low bs = true) :
    ascendFrom low (combineFrom f x y as bs) = true := by
  fun_induction combineFrom f x y as bs generalizing low with
  | case1 => rfl
  | case2 x y a as ih =>
    simp only [ascendFrom, Bool.and_eq_true, decide_eq_true_eq] at has
    exact ascendFrom_changeAt has.1 (ih has.2 rfl)
  | case3 x y b bs ih =>
    simp only [ascendFrom, Bool.and_eq_true, decide_eq_true_eq] at hbs
    exact ascendFrom_changeAt hbs.1 (ih rfl hbs.2)
  | case4 x y a as b bs h ih =>
    simp only [ascendFrom, Bool.and_eq_true, decide_eq_true_eq] at has hbs
    refine ascendFrom_changeAt has.1 (ih has.2 ?_)
    simp only [ascendFrom, Bool.and_eq_true, decide_eq_true_eq]
    exact ⟨h, hbs.2⟩
  | case5 x y a as b bs h h' ih =>
    simp only [ascendFrom, Bool.and_eq_true, decide_eq_true_eq] at has hbs
    refine ascendFrom_changeAt hbs.1 (ih ?_ hbs.2)
    simp only [ascendFrom, Bool.and_eq_true, decide_eq_true_eq]
    exact ⟨h', has.2⟩
  | case6 x y a as b bs h h' ih =>
    obtain rfl : a = b := by omega
    simp only [ascendFrom, Bool.and_eq_true, decide_eq_true_eq] at has hbs
    exact ascendFrom_changeAt has.1 (ih has.2 hbs.2)

/-- A boundary that is left out because nothing changes is not missed. -/
theorem walk_changeAt {place n : Nat} {before after : Bool} {rest : List Nat}
    (hrest : ascendFrom (place + 1) rest = true) :
    walk before (changeAt place before after rest) n =
      if n < place then before else walk after rest n := by
  unfold changeAt
  split
  next h =>
    obtain rfl : before = after := by simpa using h
    split
    next hn => exact walk_of_lt before (by omega) hrest
    next => rfl
  next h =>
    have : after = !before := by
      cases before <;> cases after <;> simp_all
    rw [walk, this]

/-- The walk along the result is the operation on the two walks. -/
theorem walk_combineFrom (f : Bool → Bool → Bool) {x y : Bool} {low : Nat}
    {as bs : List Nat} (has : ascendFrom low as = true) (hbs : ascendFrom low bs = true)
    (n : Nat) :
    walk (f x y) (combineFrom f x y as bs) n = f (walk x as n) (walk y bs n) := by
  fun_induction combineFrom f x y as bs generalizing low with
  | case1 => rfl
  | case2 x y a as ih =>
    simp only [ascendFrom, Bool.and_eq_true, decide_eq_true_eq] at has
    rw [walk_changeAt (ascendFrom_combineFrom f has.2 rfl), ih has.2 rfl, walk.eq_2]
    split <;> rfl
  | case3 x y b bs ih =>
    simp only [ascendFrom, Bool.and_eq_true, decide_eq_true_eq] at hbs
    rw [walk_changeAt (ascendFrom_combineFrom f rfl hbs.2), ih rfl hbs.2, walk.eq_2 y]
    split <;> rfl
  | case4 x y a as b bs h ih =>
    simp only [ascendFrom, Bool.and_eq_true, decide_eq_true_eq] at has hbs
    have hb : ascendFrom (a + 1) (b :: bs) = true := by
      simp only [ascendFrom, Bool.and_eq_true, decide_eq_true_eq]
      exact ⟨h, hbs.2⟩
    rw [walk_changeAt (ascendFrom_combineFrom f has.2 hb), ih has.2 hb, walk.eq_2 x]
    split
    next hn => rw [walk_of_lt y (by omega : n < a + 1) hb]
    next => rfl
  | case5 x y a as b bs h h' ih =>
    simp only [ascendFrom, Bool.and_eq_true, decide_eq_true_eq] at has hbs
    have ha : ascendFrom (b + 1) (a :: as) = true := by
      simp only [ascendFrom, Bool.and_eq_true, decide_eq_true_eq]
      exact ⟨h', has.2⟩
    rw [walk_changeAt (ascendFrom_combineFrom f ha hbs.2), ih ha hbs.2, walk.eq_2 y]
    split
    next hn => rw [walk_of_lt x (by omega : n < b + 1) ha]
    next => rfl
  | case6 x y a as b bs h h' ih =>
    obtain rfl : a = b := by omega
    simp only [ascendFrom, Bool.and_eq_true, decide_eq_true_eq] at has hbs
    rw [walk_changeAt (ascendFrom_combineFrom f has.2 hbs.2), ih has.2 hbs.2, walk.eq_2 x,
      walk.eq_2 y]
    split <;> rfl

/-- The code points for which an operation on membership in the two sets answers true. -/
def combine (f : Bool → Bool → Bool) (s t : CharSet) : CharSet :=
  ⟨combineFrom f false false s.boundaries t.boundaries,
    ascendFrom_combineFrom f s.ascending t.ascending⟩

/-- An operation that is false outside both sets acts on membership alone. -/
theorem has_combine {f : Bool → Bool → Bool} (hf : f false false = false) (s t : CharSet)
    (n : Nat) : (combine f s t).has n = f (s.has n) (t.has n) := by
  have := walk_combineFrom f (x := false) (y := false) s.ascending t.ascending n
  rwa [hf] at this

/-- The members of either set. -/
def union : CharSet → CharSet → CharSet := combine (· || ·)

/-- The members of both sets. -/
def inter : CharSet → CharSet → CharSet := combine (· && ·)

/-- The members of the first set that the second does not have. -/
def diff : CharSet → CharSet → CharSet := combine fun x y => x && !y

/-- The members of one set that the other does not have. -/
def symmDiff : CharSet → CharSet → CharSet := combine (· ^^ ·)

theorem has_union (s t : CharSet) (n : Nat) : (s.union t).has n = (s.has n || t.has n) :=
  has_combine rfl s t n

theorem has_inter (s t : CharSet) (n : Nat) : (s.inter t).has n = (s.has n && t.has n) :=
  has_combine rfl s t n

theorem has_diff (s t : CharSet) (n : Nat) : (s.diff t).has n = (s.has n && !t.has n) :=
  has_combine rfl s t n

theorem has_symmDiff (s t : CharSet) (n : Nat) :
    (s.symmDiff t).has n = (s.has n ^^ t.has n) :=
  has_combine rfl s t n

/-! ### Sets from their members -/

/-- The set without members. -/
def empty : CharSet := ⟨[], rfl⟩

/-- Every character; the surrogate code points are none. -/
def all : CharSet := ⟨[0, 0xD800, 0xE000, 0x110000], rfl⟩

/-- The set with the given boundaries; nothing if they do not ascend. -/
def ofBoundaries (bs : List Nat) : CharSet :=
  if h : ascendFrom 0 bs = true then ⟨bs, h⟩ else empty

/-- The characters from one code point to another, both included. -/
def interval (first last : Nat) : CharSet :=
  inter (ofBoundaries [first, last + 1]) all

/-- One character. -/
def single (c : Char) : CharSet := interval c.toNat c.toNat

/-- The characters that do not belong to a set. -/
def compl (s : CharSet) : CharSet := all.diff s

theorem has_compl (s : CharSet) (n : Nat) : s.compl.has n = (all.has n && !s.has n) :=
  has_diff all s n

/-! ### Unions of many sets -/

/-- Unite every set with its neighbour, which halves their number. -/
def unitePairs : List CharSet → List CharSet
  | s :: t :: sets => s.union t :: unitePairs sets
  | sets => sets

theorem length_unitePairs_le (sets : List CharSet) :
    (unitePairs sets).length ≤ sets.length := by
  fun_induction unitePairs sets with
  | case1 s t sets ih => simp only [List.length_cons]; omega
  | case2 => exact Nat.le_refl _

/-- The members of any of the sets. -/
def unionAll : List CharSet → CharSet
  | [] => empty
  | [s] => s
  | s :: t :: sets => unionAll (s.union t :: unitePairs sets)
termination_by sets => sets.length
decreasing_by
  have := length_unitePairs_le sets
  simp only [List.length_cons]
  omega

theorem any_has_unitePairs (sets : List CharSet) (n : Nat) :
    (unitePairs sets).any (·.has n) = sets.any (·.has n) := by
  fun_induction unitePairs sets with
  | case1 s t sets ih => simp [ih, has_union, Bool.or_assoc]
  | case2 => rfl

/-- A union has what one of its sets has. -/
theorem has_unionAll (sets : List CharSet) (n : Nat) :
    (unionAll sets).has n = sets.any (·.has n) := by
  fun_induction unionAll sets with
  | case1 => rfl
  | case2 => simp
  | case3 s t sets ih => simp [ih, any_has_unitePairs, has_union, Bool.or_assoc]

/-! ### Ranges -/

/-- The ranges between every other boundary and the next. -/
def rangesOf : List Nat → List CharRange
  | first :: past :: bs => ⟨first, past - 1⟩ :: rangesOf bs
  | _ => []

/-- The set as ranges in ascending order. -/
def ranges (s : CharSet) : List CharRange := rangesOf s.boundaries

/-- The only character of a set that has but one. -/
def only? (s : CharSet) : Option Char :=
  match s.boundaries with
  | [first, past] => if past == first + 1 then some (Char.ofNat first) else none
  | _ => none

/-- Whether every member is a character of ASCII. -/
def isAscii (s : CharSet) : Bool := s.boundaries.all (· ≤ 0x80)

end CharSet

/-! ### Listings -/

/-- The value of a digit in base sixteen; letters are capitals. -/
def listedDigit (c : Char) : Nat :=
  if c.isDigit then c.toNat - '0'.toNat else c.toNat - 'A'.toNat + 10

/-- The number that digits in base sixteen write. -/
def listedNumber (digits : List Char) : Nat :=
  digits.foldl (fun n c => 16 * n + listedDigit c) 0

/-- Every other code point of a range, each with the one after it. -/
def everyOther (first last : Nat) : List Nat :=
  (List.range ((last - first) / 2 + 1)).flatMap fun i =>
    [first + 2 * i, first + 2 * i + 1]

/-- The boundaries of one item of a listing. -/
def itemBoundaries (item : List Char) : List Nat :=
  let first := listedNumber (item.takeWhile (· != '-'))
  match item.dropWhile (· != '-') with
  | [] => [first, first + 1]
  | _ :: rest =>
    let last := listedNumber (rest.takeWhile (· != ':'))
    if rest.contains ':' then everyOther first last else [first, last + 1]

/-- The set that a listing describes. -/
def listed (lines : List String) : CharSet :=
  .ofBoundaries (lines.flatMap fun line =>
    (line.splitOn " ").flatMap fun item => itemBoundaries item.toList)

end RegulatoryReporting.Text

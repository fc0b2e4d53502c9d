import RegulatoryReporting.Pattern.Automaton
import RegulatoryReporting.Pattern.Footprint.Total
import RegulatoryReporting.Pattern.Meaning
import RegulatoryReporting.Pattern.Reader

/-!
# Compiled Patterns

A text is a pattern if it can be read, if it does not nest too deep, if what it says means
something under the flags that hold, and if its automata are small enough.
`Pattern.ofText?` is a function of the text alone.

The same few patterns are compiled again and again, so compiled patterns may be kept under
their texts. The cache holds a bounded number of entries and starts over when it is full;
a text that does not compile is not kept. It has two sections, each of which is taken
alone: looking a text up, and storing what was compiled in between. The cache is
parametric in how a text is compiled.

## Main results

* `Pattern.isWithinLimit_of_ofText?` — every pattern that a text writes is small enough.
* `PatternCache.length_store_le` — storing never exceeds the capacity.
-/

namespace RegulatoryReporting

namespace Pattern

/-- The pattern that a text writes, if it is one. -/
def ofText? (s : String) : Option Pattern :=
  ((Expression.ofText? s).filter fun e => e.nestsWithin Expression.nestLimit).bind fun e =>
    ((e.meaning? {}).map Prod.fst).filter isWithinLimit

/-- Every pattern that a text writes is small enough. -/
theorem isWithinLimit_of_ofText? {s : String} {p : Pattern} (h : ofText? s = some p) :
    p.isWithinLimit = true := by
  unfold ofText? at h
  obtain ⟨e, -, he⟩ := Option.bind_eq_some_iff.1 h
  exact (Option.filter_eq_some_iff.1 he).2

end Pattern

/-! ### A cache -/

/-- Compiled patterns under their texts. -/
structure PatternCache (α : Type) where
  /-- The entries, at most one for each text. -/
  entries : List (String × α)

namespace PatternCache

/-- How many entries are kept before the cache starts over. -/
def capacity : Nat := 512

/-- The cache without entries. -/
def empty : PatternCache α := ⟨[]⟩

/-- The compiled form that is kept under a text. -/
def find? (cache : PatternCache α) (text : String) : Option α :=
  cache.entries.lookup text

/-- Keep a compiled form under a text; a full cache forgets everything else. -/
def store (cache : PatternCache α) (text : String) (compiled : α) : PatternCache α :=
  let kept := if capacity ≤ cache.entries.length then [] else cache.entries
  ⟨(text, compiled) :: kept.filter (·.1 != text)⟩

/-- Compile a text, reusing what is kept under it. -/
def get (compile : String → Option α) (cache : PatternCache α) (text : String) :
    Option α × PatternCache α :=
  match cache.find? text with
  | some compiled => (some compiled, cache)
  | none =>
    match compile text with
    | none => (none, cache)
    | some compiled => (some compiled, cache.store text compiled)

/-- What a text compiles to by way of a cache. -/
def compiled (cache : PatternCache Pattern) (text : String) : Option Pattern :=
  (cache.get Pattern.ofText? text).1

/-- Storing never exceeds the capacity. -/
theorem length_store_le (cache : PatternCache α) (text : String) (compiled : α) :
    (cache.store text compiled).entries.length ≤ capacity := by
  simp only [store, List.length_cons]
  split
  · simp [capacity]
  next h =>
    have := List.length_filter_le (·.1 != text) cache.entries
    omega

end PatternCache

end RegulatoryReporting

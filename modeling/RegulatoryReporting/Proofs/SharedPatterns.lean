import Mathlib.Data.List.Nodup
import Mathlib.Logic.Function.Basic
import RegulatoryReporting.Validation.Field

/-!
# A Cache That Several Callers Share

A call looks a text up in the cache, compiles it if it is not there, and stores what was
compiled. The cache is locked for the lookup and for the storing, but not in between: before
a caller stores its pattern, others may have stored the same text, or the cache may have
started over. So callers take **turns** here, in any order, and a call takes up to three of
them (`Caller.turn`). A caller has a list of texts ahead of it, one call for each.

No caller can tell. What it was told so far, together with what it is still to be told, never
changes (`Caller.outlook`), as long as the cache keeps under every text what the text compiles
to (`PatternCache.IsSound`). Both are kept by one turn (`Caller.isSound_turn`), hence by
every schedule (`SharedCache.Serves.run`). No turn waits for another caller, so a caller that is
given enough turns is told everything (`SharedCache.left_run`).

## Main results

* `PatternCache.IsSound.store` — storing keeps a cache sound, whatever happened before.
* `SharedCache.exists_run_eq_get` — a call that is not interrupted is `PatternCache.get`.
* `PatternCache.transparent_when_shared` — no sequence of calls and no schedule of several
  callers can tell the cache from compiling anew, and it stays within its bound.
* `SharedCache.checks_run` — conditions match and fields are checked alike with and without it.
-/

namespace RegulatoryReporting

variable {α ι : Type} {compile : String → Option α} {cache : PatternCache α} {text : String}

/-! ### What the cache keeps -/

namespace PatternCache

/-- The cache keeps what texts compile to, each text once, and not too many of them. -/
structure IsSound (compile : String → Option α) (cache : PatternCache α) : Prop where
  /-- Under a text stands what it compiles to. -/
  faithful : ∀ entry ∈ cache.entries, compile entry.1 = some entry.2
  /-- No text has two entries. -/
  distinct : (cache.entries.map (·.1)).Nodup
  /-- The entries are within the bound. -/
  bounded : cache.entries.length ≤ capacity

/-- The empty cache is sound. -/
theorem isSound_empty : (empty : PatternCache α).IsSound compile :=
  ⟨List.forall_mem_nil _, List.nodup_nil, Nat.zero_le _⟩

namespace IsSound

variable (h : cache.IsSound compile)

include h

/-- What is found under a text is what the text compiles to. -/
theorem compile_eq_of_find? {pattern : α} (hfind : cache.find? text = some pattern) :
    compile text = some pattern := by
  obtain ⟨before, after, hentries, -⟩ := List.lookup_eq_some_iff.1 hfind
  refine h.faithful (text, pattern) ?_
  rw [hentries]
  exact List.mem_append_right _ List.mem_cons_self

/-- Nothing is found under a text that does not compile. -/
theorem find?_eq_none_of_compile (hcompile : compile text = none) : cache.find? text = none := by
  cases hfind : cache.find? text with
  | none => rfl
  | some pattern => exact absurd (h.compile_eq_of_find? hfind) (by simp [hcompile])

/-- Storing what a text compiles to keeps the cache sound, even if the text was stored in the
meantime or the cache has to start over. -/
theorem store {pattern : α} (hcompile : compile text = some pattern) :
    (cache.store text pattern).IsSound compile := by
  -- All that is left of the old entries are entries of other texts.
  have hkept : ∃ kept : List (String × α), kept.Sublist cache.entries ∧
      (cache.store text pattern).entries = (text, pattern) :: kept.filter (·.1 != text) := by
    rw [PatternCache.store]
    split
    · exact ⟨[], List.nil_sublist _, rfl⟩
    · exact ⟨_, List.Sublist.refl _, rfl⟩
  obtain ⟨kept, hsub, hentries⟩ := hkept
  refine ⟨?_, ?_, length_store_le cache text pattern⟩
  · rw [hentries]
    refine List.forall_mem_cons.2 ⟨hcompile, fun entry hentry => ?_⟩
    exact h.faithful entry (hsub.subset (List.mem_of_mem_filter hentry))
  · rw [hentries, List.map_cons, List.nodup_cons]
    constructor
    · intro hmem
      obtain ⟨entry, hentry, htext⟩ := List.mem_map.1 hmem
      have hother := (List.mem_filter.1 hentry).2
      rw [htext, bne_self_eq_false] at hother
      cases hother
    · exact h.distinct.sublist ((List.filter_sublist.trans hsub).map _)

/-- A call answers what the text compiles to, and leaves a sound cache. -/
theorem get (text : String) :
    (PatternCache.get compile cache text).1 = compile text ∧
      (PatternCache.get compile cache text).2.IsSound compile := by
  rw [PatternCache.get]
  split
  next pattern hfind => exact ⟨(h.compile_eq_of_find? hfind).symm, h⟩
  next =>
    split
    next hcompile => exact ⟨hcompile.symm, h⟩
    next pattern hcompile => exact ⟨hcompile.symm, h.store hcompile⟩

end IsSound

/-- One call after the other: the answers, and the cache in the end. -/
def getAll (compile : String → Option α) (cache : PatternCache α) :
    List String → List (Option α) × PatternCache α
  | [] => ([], cache)
  | text :: texts =>
    let first := get compile cache text
    let rest := getAll compile first.2 texts
    (first.1 :: rest.1, rest.2)

/-- A sequence of calls answers what the texts compile to, and leaves a sound cache. -/
theorem IsSound.getAll (h : cache.IsSound compile) (texts : List String) :
    (PatternCache.getAll compile cache texts).1 = texts.map compile ∧
      (PatternCache.getAll compile cache texts).2.IsSound compile := by
  induction texts generalizing cache with
  | nil => exact ⟨rfl, h⟩
  | cons text texts ih =>
    obtain ⟨hfirst, hcache⟩ := h.get text
    obtain ⟨hrest, hafter⟩ := ih hcache
    exact ⟨by rw [PatternCache.getAll, List.map_cons, hfirst, hrest], hafter⟩

end PatternCache

/-! ### Callers -/

/-- Where a caller stands in a call. -/
inductive Stage (α : Type)
  /-- Between two calls. -/
  | resting
  /-- The text was looked up and is not there; the cache was unlocked. -/
  | missed (text : String)
  /-- The text was compiled, and the cache is still to be locked for storing. -/
  | compiled (text : String) (pattern : α)

/-- One user of the cache. -/
structure Caller (α : Type) where
  /-- The texts that it is still to ask for. -/
  ahead : List String
  /-- Where it stands in the present call. -/
  stage : Stage α := .resting
  /-- The answers it was given, the oldest first. -/
  answers : List (Option α) := []

namespace Stage

/-- The answer that the present call is still to give. -/
def due (compile : String → Option α) : Stage α → List (Option α)
  | resting => []
  | missed text => [compile text]
  | compiled _ pattern => [some pattern]

/-- What waits to be stored is what its text compiles to. -/
def IsSound (compile : String → Option α) (stage : Stage α) : Prop :=
  ∀ text pattern, stage = compiled text pattern → compile text = some pattern

/-- How many turns the present call still takes. -/
def left : Stage α → Nat
  | resting => 0
  | missed _ => 2
  | compiled _ _ => 1

end Stage

namespace Caller

/-- One turn of a caller: it locks the cache to look a text up, compiles a text that was not
there, or locks the cache to store the pattern. A text that does not compile ends its call
without the cache being locked again. -/
def turn (compile : String → Option α) (cache : PatternCache α) (caller : Caller α) :
    PatternCache α × Caller α :=
  match caller.stage, caller.ahead with
  | .resting, [] => (cache, caller)
  | .resting, text :: rest =>
    match cache.find? text with
    | some pattern => (cache, ⟨rest, .resting, caller.answers ++ [some pattern]⟩)
    | none => (cache, ⟨rest, .missed text, caller.answers⟩)
  | .missed text, ahead =>
    match compile text with
    | some pattern => (cache, ⟨ahead, .compiled text pattern, caller.answers⟩)
    | none => (cache, ⟨ahead, .resting, caller.answers ++ [none]⟩)
  | .compiled text pattern, ahead =>
    (cache.store text pattern, ⟨ahead, .resting, caller.answers ++ [some pattern]⟩)

/-- What a caller was told and will be told, if every text is answered by what it compiles
to. -/
def outlook (compile : String → Option α) (caller : Caller α) : List (Option α) :=
  caller.answers ++ caller.stage.due compile ++ caller.ahead.map compile

/-- How many turns a caller needs at most until it has asked for everything. -/
def left (caller : Caller α) : Nat := caller.stage.left + 3 * caller.ahead.length

/-- A caller that needs no more turns was told everything. -/
theorem answers_eq_outlook_of_left (compile : String → Option α) {caller : Caller α}
    (h : caller.left = 0) :
    caller.answers = caller.outlook compile := by
  obtain ⟨ahead, stage, answers⟩ := caller
  obtain ⟨hstage, hahead⟩ := Nat.add_eq_zero_iff.1 h
  have hlength : ahead.length = 0 := (Nat.mul_eq_zero.1 hahead).resolve_left (by decide)
  obtain rfl : ahead = [] := List.length_eq_zero_iff.1 hlength
  cases stage with
  | resting => simp [outlook, Stage.due]
  | missed _ | compiled _ _ => cases hstage

/-- One turn keeps the cache sound and the outlook of the caller as it is, and brings the caller
closer to its end. -/
theorem isSound_turn (h : cache.IsSound compile) {caller : Caller α}
    (hstage : caller.stage.IsSound compile) :
    (caller.turn compile cache).1.IsSound compile ∧
      (caller.turn compile cache).2.stage.IsSound compile ∧
      (caller.turn compile cache).2.outlook compile = caller.outlook compile ∧
      (caller.turn compile cache).2.left ≤ caller.left - 1 := by
  obtain ⟨ahead, stage, answers⟩ := caller
  have hresting : (Stage.resting : Stage α).IsSound compile := nofun
  cases stage with
  | resting =>
    cases ahead with
    | nil => exact ⟨h, hresting, rfl, Nat.le_refl _⟩
    | cons text rest =>
      cases hfind : cache.find? text with
      | some pattern =>
        simp only [turn, hfind]
        refine ⟨h, hresting, ?_, ?_⟩
        · simp [outlook, Stage.due, h.compile_eq_of_find? hfind]
        · simp [left, Stage.left]; omega
      | none =>
        simp only [turn, hfind]
        refine ⟨h, nofun, ?_, ?_⟩
        · simp [outlook, Stage.due]
        · simp [left, Stage.left]; omega
  | missed text =>
    cases hcompile : compile text with
    | some pattern =>
      simp only [turn, hcompile]
      refine ⟨h, ?_, ?_, ?_⟩
      · rintro _ _ ⟨rfl, rfl⟩
        exact hcompile
      · simp [outlook, Stage.due, hcompile]
      · simp [left, Stage.left]
    | none =>
      simp only [turn, hcompile]
      refine ⟨h, hresting, ?_, ?_⟩
      · simp [outlook, Stage.due, hcompile]
      · simp [left, Stage.left]
  | compiled text pattern =>
    refine ⟨h.store (hstage text pattern rfl), hresting, ?_, ?_⟩
    · simp [turn, outlook, Stage.due]
    · simp [turn, left, Stage.left]

end Caller

/-! ### Schedules -/

/-- A cache and its callers. -/
structure SharedCache (ι α : Type) where
  /-- The cache that they share. -/
  cache : PatternCache α
  /-- The callers. -/
  callers : ι → Caller α

namespace SharedCache

variable [DecidableEq ι]

/-- The beginning: the cache is empty, and every caller has its texts ahead of it. -/
def start (programs : ι → List String) : SharedCache ι α :=
  ⟨.empty, fun c => { ahead := programs c }⟩

/-- One caller takes a turn. -/
def turn (compile : String → Option α) (s : SharedCache ι α) (c : ι) : SharedCache ι α :=
  let (cache, caller) := (s.callers c).turn compile s.cache
  ⟨cache, Function.update s.callers c caller⟩

/-- Turns are taken in the order of a schedule. -/
def run (compile : String → Option α) (s : SharedCache ι α) (schedule : List ι) :
    SharedCache ι α :=
  schedule.foldl (turn compile) s

/-- The cache is sound, and every caller was told, or will be told, what its texts compile
to. -/
structure Serves (compile : String → Option α) (programs : ι → List String)
    (s : SharedCache ι α) : Prop where
  cache : s.cache.IsSound compile
  stage : ∀ c, (s.callers c).stage.IsSound compile
  outlook : ∀ c, (s.callers c).outlook compile = (programs c).map compile

variable {programs : ι → List String} {s : SharedCache ι α}

omit [DecidableEq ι] in
/-- In the beginning everything is still to be told. -/
theorem serves_start (compile : String → Option α) (programs : ι → List String) :
    (start programs).Serves compile programs where
  cache := PatternCache.isSound_empty
  stage _ := nofun
  outlook _ := rfl

/-- A turn of one caller leaves the others where they are. -/
theorem callers_turn (c d : ι) :
    (s.turn compile c).callers d =
      if d = c then ((s.callers c).turn compile s.cache).2 else s.callers d :=
  Function.update_apply _ _ _ _

/-- One turn of any caller keeps what everyone is told. -/
theorem Serves.turn (h : s.Serves compile programs) (c : ι) :
    (s.turn compile c).Serves compile programs := by
  obtain ⟨hcache, hstage, houtlook, -⟩ := Caller.isSound_turn h.cache (h.stage c)
  refine ⟨hcache, fun d => ?_, fun d => ?_⟩
  · rw [callers_turn]
    split
    · exact hstage
    · exact h.stage d
  · rw [callers_turn]
    split
    next hd => rw [houtlook, hd, h.outlook c]
    · exact h.outlook d

/-- Every schedule keeps what everyone is told. -/
theorem Serves.run (h : s.Serves compile programs) (schedule : List ι) :
    (s.run compile schedule).Serves compile programs := by
  induction schedule generalizing s with
  | nil => exact h
  | cons c schedule ih => exact ih (h.turn c)

/-- With every turn of its own a caller comes closer to its end. -/
theorem left_run (h : s.Serves compile programs) (schedule : List ι) (c : ι) :
    ((s.run compile schedule).callers c).left ≤ (s.callers c).left - schedule.count c := by
  induction schedule generalizing s with
  | nil => exact Nat.le_refl _
  | cons d schedule ih =>
    have hrest : ((s.run compile (d :: schedule)).callers c).left ≤
        ((s.turn compile d).callers c).left - schedule.count c := ih (h.turn d)
    obtain ⟨-, -, -, hleft⟩ := Caller.isSound_turn h.cache (h.stage d)
    rw [callers_turn] at hrest
    by_cases hd : d = c
    · subst hd
      rw [if_pos rfl] at hrest
      rw [List.count_cons_self]
      omega
    · rw [if_neg (Ne.symm hd)] at hrest
      rw [List.count_cons_of_ne hd]
      exact hrest

/-- A call that is not interrupted is the call of one caller alone: it takes up to three turns,
answers what `get` answers, and leaves the cache that `get` leaves. -/
theorem exists_run_eq_get (s : SharedCache ι α) {c : ι} {rest : List String}
    {answers : List (Option α)} (hc : s.callers c = ⟨text :: rest, .resting, answers⟩) :
    ∃ n ≤ 3, s.run compile (List.replicate n c) =
      ⟨(PatternCache.get compile s.cache text).2, Function.update s.callers c
        ⟨rest, .resting, answers ++ [(PatternCache.get compile s.cache text).1]⟩⟩ := by
  rw [PatternCache.get]
  cases hfind : s.cache.find? text with
  | some pattern =>
    refine ⟨1, by decide, ?_⟩
    simp [run, turn, Caller.turn, hc, hfind]
  | none =>
    cases hcompile : compile text with
    | none =>
      refine ⟨2, by decide, ?_⟩
      simp [List.replicate, run, turn, Caller.turn, hc, hfind, hcompile]
    | some pattern =>
      refine ⟨3, by decide, ?_⟩
      simp [List.replicate, run, turn, Caller.turn, hc, hfind, hcompile]

end SharedCache

/-! ### The cache cannot be told from compiling anew -/

namespace PatternCache

/-- From the empty cache, every sequence of calls answers what the texts compile to. The same
holds of several callers, in whatever order they take their turns: what a caller was told is what
its texts compile to, as far as it has come, and it is told everything within three turns a
text. At any time the cache keeps what texts compile to, nothing under a text that does not
compile, and at most 512 entries. A call that is not interrupted is a call of the sequence. -/
theorem transparent_when_shared [DecidableEq ι] (compile : String → Option α) :
    (∀ texts, (getAll compile empty texts).1 = texts.map compile ∧
      (getAll compile empty texts).2.IsSound compile) ∧
    (∀ (programs : ι → List String) (schedule : List ι),
      let s := (SharedCache.start programs).run compile schedule
      (∀ c, (s.callers c).answers <+: (programs c).map compile ∧
        (3 * (programs c).length ≤ schedule.count c →
          (s.callers c).answers = (programs c).map compile)) ∧
      (∀ entry ∈ s.cache.entries, compile entry.1 = some entry.2) ∧
      (∀ text, compile text = none → s.cache.find? text = none) ∧
      (s.cache.entries.map (·.1)).Nodup ∧ s.cache.entries.length ≤ 512) ∧
    ∀ (s : SharedCache ι α) (c : ι) (text : String) (rest : List String)
      (answers : List (Option α)), s.callers c = ⟨text :: rest, .resting, answers⟩ →
      ∃ n ≤ 3, s.run compile (List.replicate n c) =
        ⟨(get compile s.cache text).2, Function.update s.callers c
          ⟨rest, .resting, answers ++ [(get compile s.cache text).1]⟩⟩ := by
  refine ⟨fun texts => isSound_empty.getAll texts, fun programs schedule => ?_,
    fun s c text rest answers hc => s.exists_run_eq_get hc⟩
  have hstart := SharedCache.serves_start compile programs
  have hserves := hstart.run schedule
  refine ⟨fun c => ⟨?_, fun hturns => ?_⟩, hserves.cache.faithful,
    fun text => hserves.cache.find?_eq_none_of_compile, hserves.cache.distinct,
    hserves.cache.bounded⟩
  · rw [← hserves.outlook c, Caller.outlook, List.append_assoc]
    exact List.prefix_append _ _
  · have hleft := SharedCache.left_run hstart schedule c
    have hbegin : ((SharedCache.start programs : SharedCache ι α).callers c).left =
        3 * (programs c).length := Nat.zero_add _
    rw [hbegin] at hleft
    rw [Caller.answers_eq_outlook_of_left compile (by omega), hserves.outlook c]

/-- The texts of two callers; both begin with the same, and one asks for a text that is no
pattern. -/
def overlappingTexts : Bool → List String
  | false => ["^[A-Z]$", "[unclosed"]
  | true => ["^[A-Z]$"]

/-- A compiler that takes texts for patterns unless a bracket stays open. -/
def closedLength (text : String) : Option Nat :=
  if text = "[unclosed" then none else some text.length

/-- Both callers miss the first text and store it, one after the other; yet each is told what its
texts compile to, and the text is kept once. -/
theorem overlappingTexts_transparent :
    let schedule := [false, true, true, false, false, true, false, false, false]
    let s := (SharedCache.start overlappingTexts).run closedLength schedule
    3 * (overlappingTexts false).length ≤ schedule.count false ∧
    3 * (overlappingTexts true).length ≤ schedule.count true ∧
    (s.callers false).answers = [some 7, none] ∧ (s.callers true).answers = [some 7] ∧
    s.cache.entries = [("^[A-Z]$", 7)] ∧ s.cache.find? "[unclosed" = none := by
  intro schedule s
  obtain ⟨-, hshared, -⟩ := transparent_when_shared (ι := Bool) closedLength
  obtain ⟨hanswers, -, habsent, -⟩ := hshared overlappingTexts schedule
  have hfirst : 3 * (overlappingTexts false).length ≤ schedule.count false := by decide
  have hsecond : 3 * (overlappingTexts true).length ≤ schedule.count true := by decide
  refine ⟨hfirst, hsecond, ?_, ?_, rfl, habsent _ (by decide)⟩
  · exact ((hanswers false).2 hfirst).trans (by decide)
  · exact ((hanswers true).2 hsecond).trans (by decide)

/-! ### Checks through the cache -/

namespace IsSound

variable {cache : PatternCache Pattern} (h : cache.IsSound Pattern.ofText?)

include h

/-- Through a sound cache every text compiles to what it compiles to without it. -/
theorem compiled_eq : cache.compiled = Pattern.ofText? := funext fun text => (h.get text).1

/-- **Conditions match alike** with and without the cache. -/
theorem matchesBy_compiled : matchesBy cache.compiled = matchesPattern := by
  funext pattern actual
  rw [h.compiled_eq, matchesPattern]

/-- **Fields are checked alike** with and without the cache. -/
theorem patternFindingBy?_compiled (f : Field) :
    f.patternFindingBy? cache.compiled = f.patternFinding? := by
  funext text
  rw [h.compiled_eq, Field.patternFinding?]

end IsSound

end PatternCache

/-- **Checks through the shared cache.** However the turns of its callers interleave, at any time
conditions match and fields are checked through the cache as they are without it. -/
theorem SharedCache.checks_run [DecidableEq ι] (programs : ι → List String)
    (schedule : List ι) :
    let s := (start programs).run Pattern.ofText? schedule
    matchesBy s.cache.compiled = matchesPattern ∧
      ∀ f : Field, f.patternFindingBy? s.cache.compiled = f.patternFinding? := by
  have hserves := (serves_start Pattern.ofText? programs).run schedule
  exact ⟨hserves.cache.matchesBy_compiled, hserves.cache.patternFindingBy?_compiled⟩

end RegulatoryReporting

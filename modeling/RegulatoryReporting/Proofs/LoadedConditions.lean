import RegulatoryReporting.Proofs.PackageWire
import RegulatoryReporting.Proofs.RegistryIndex
import RegulatoryReporting.Proofs.VerifiedPackage

/-!
# The Conditions of a Registry

What a loaded condition must look like is checked in two places. Decoding sees to the shape of
a tree: no empty combinator, and at every leaf the value that its operator calls for.
Verification sees to the leaves: their paths are paths, and the texts that they match against
are patterns. A tree that has passed both is well formed (`Condition.IsLoadable`).

Verification never looks at the shape. So all conditions of a registry have sound leaves, and
those that were decoded are well formed; a tree that was put together by hand is well formed
exactly if it has the shape that decoding would have demanded, and one that has not is taken
all the same (`Registry.takes_misshapenPackage`).

## Main results

* `Condition.ofLeaves_and_iff` — a tree is well formed if it has the shape and its leaves are
  sound.
* `Registry.conditions_of_ofPackages` — what holds of the conditions of a registry.
-/

namespace RegulatoryReporting

/-! ### Shapes -/

/-- The value of a leaf is of the kind that its operator calls for. Presence tests call for
none. -/
def ConditionLeaf.HasShape (l : ConditionLeaf) : Prop :=
  match l.operator with
  | .exists | .notExists => True
  | .in | .notIn => ∃ vs, l.value = some (.arr vs)
  | .matches => ∃ pattern, l.value = some (.str pattern)
  | .eq | .ne | .gt | .lt | .gte | .lte => ∃ v, l.value = some v ∧ v ≠ .null

/-- A leaf with the shape that its operator calls for; if it matches against a text, the text
is a pattern. -/
def ConditionLeaf.IsLoadable (l : ConditionLeaf) : Prop :=
  l.HasShape ∧ ∀ pattern, l.pattern? = some pattern → Compiles pattern

/-- A well-formed leaf has the shape that its operator calls for. -/
theorem ConditionLeaf.hasShape_of_isWellFormed {l : ConditionLeaf} (h : l.isWellFormed = true) :
    l.HasShape := by
  obtain ⟨field, op, value⟩ := l
  obtain ⟨-, haccepts⟩ := Bool.and_eq_true_iff.1 h
  cases op with
  | «exists» | notExists => trivial
  | eq | ne | gt | lt | gte | lte =>
    cases value with
    | none => cases haccepts
    | some v => exact ⟨v, rfl, by rintro rfl; cases haccepts⟩
  | «in» | notIn =>
    rcases value with - | (_ | _ | _ | _ | _ | _) <;> first | exact ⟨_, rfl⟩ | cases haccepts
  | «matches» =>
    rcases value with - | (_ | _ | _ | _ | _ | _) <;> first | exact ⟨_, rfl⟩ | cases haccepts

namespace Condition

/-- A tree without empty combinators, all of whose leaves fit. -/
inductive OfLeaves (fits : ConditionLeaf → Prop) : Condition → Prop
  | leaf {l : ConditionLeaf} (h : fits l) : OfLeaves fits (.leaf l)
  | and {children : List Condition} (some_child : children ≠ [])
      (each : ∀ c ∈ children, OfLeaves fits c) : OfLeaves fits (.and children)
  | or {children : List Condition} (some_child : children ≠ [])
      (each : ∀ c ∈ children, OfLeaves fits c) : OfLeaves fits (.or children)
  | not {inner : Condition} (h : OfLeaves fits inner) : OfLeaves fits (.not inner)

/-- A tree of the shape that decoding demands. -/
def HasShape (c : Condition) : Prop := c.OfLeaves ConditionLeaf.HasShape

/-- A tree that the checks at load time let pass: no empty combinator, no comparison without
a value, no membership test without an array, and no match without a pattern. -/
def IsLoadable (c : Condition) : Prop := c.OfLeaves ConditionLeaf.IsLoadable

/-! ### Shape and leaves -/

variable {c : Condition} {p q : ConditionLeaf → Prop}

/-- The leaves of a tree fit. -/
theorem OfLeaves.forall_mem_leaves (h : c.OfLeaves p) : ∀ l ∈ c.leaves, p l := by
  induction h with
  | leaf h =>
    intro l hl
    obtain rfl := List.mem_singleton.1 hl
    exact h
  | and _ _ ih => exact forall_mem_childrenLeaves.2 ih
  | or _ _ ih => exact forall_mem_childrenLeaves.2 ih
  | not _ ih => exact ih

/-- What the leaves of a tree satisfy besides may be asked of each of them. -/
theorem OfLeaves.imp (h : c.OfLeaves p) (himp : ∀ l ∈ c.leaves, p l → q l) : c.OfLeaves q := by
  induction h with
  | leaf h => exact .leaf (himp _ (List.mem_singleton_self _) h)
  | and some_child _ ih =>
    have hchildren := forall_mem_childrenLeaves.1 himp
    exact .and some_child fun c hc => ih c hc (hchildren c hc)
  | or some_child _ ih =>
    have hchildren := forall_mem_childrenLeaves.1 himp
    exact .or some_child fun c hc => ih c hc (hchildren c hc)
  | not _ ih => exact .not (ih himp)

/-- Of two demands on leaves, one may be made of the tree and the other of its leaves alone. -/
theorem ofLeaves_and_iff :
    (c.OfLeaves fun l => p l ∧ q l) ↔ c.OfLeaves p ∧ ∀ l ∈ c.leaves, q l := by
  constructor
  · intro h
    exact ⟨h.imp fun _ _ hl => hl.1, fun l hl => (h.forall_mem_leaves l hl).2⟩
  · rintro ⟨hshape, hleaves⟩
    exact hshape.imp fun l hl hp => ⟨hp, hleaves l hl⟩

/-- A tree passes the checks if it has the shape and its patterns compile. -/
theorem isLoadable_iff :
    c.IsLoadable ↔
      c.HasShape ∧ ∀ l ∈ c.leaves, ∀ pattern, l.pattern? = some pattern → Compiles pattern :=
  ofLeaves_and_iff

/-- A well-formed tree has the shape. -/
theorem WellFormed.hasShape (h : c.WellFormed) : c.HasShape := by
  induction h with
  | leaf h => exact .leaf (ConditionLeaf.hasShape_of_isWellFormed h)
  | and some_child _ ih => exact .and some_child ih
  | or some_child _ ih => exact .or some_child ih
  | not _ ih => exact .not ih

end Condition

/-! ### Conditions of packages -/

namespace Package

variable {p : Package} {c : Condition}

/-- The conditions of a package with sound conditions are sound. -/
theorem IsSound.of_mem_conditions (hp : p.IsSound) : ∀ c ∈ p.conditions, c.IsSound :=
  forall_mem_conditions hp.fields (fun r hr => (hp.rules r hr).assertion)
    (fun r hr => (hp.rules r hr).precondition)

/-- In an accepted package, a condition is well formed exactly if it has the shape. -/
theorem isLoadable_iff_hasShape (h : p.verify = .ok ()) (hc : c ∈ p.conditions) :
    c.IsLoadable ↔ c.HasShape := by
  rw [Condition.isLoadable_iff]
  constructor
  · rintro ⟨hshape, -⟩
    exact hshape
  · intro hshape
    exact ⟨hshape, fun l hl pattern hpattern => compiles_of_mem_conditions h hc hl hpattern⟩

end Package

/-- **The conditions of a registry.** A registry holds the packages that it was given, and
looks at the leaves of their conditions: every path can be read, and every text that is
matched against is a pattern.

A condition that was decoded is well formed, and so is every condition of a package that was
decoded; any other condition is well formed exactly if it has the shape that decoding
demands. -/
theorem Registry.conditions_of_ofPackages {ps : List Package} {r : Registry}
    (h : ofPackages ps = .ok r) :
    r.packages = ps ∧
    ∀ p ∈ r.packages,
      (∀ c ∈ p.conditions,
        (∀ l ∈ c.leaves, IsReadable l.field ∧
          ∀ pattern, l.pattern? = some pattern → Compiles pattern) ∧
        (c.IsLoadable ↔ c.HasShape) ∧
        ∀ m d, Condition.decode m d = .ok c → c.IsLoadable) ∧
      ∀ m d, Package.decoder m d = .ok p → ∀ c ∈ p.conditions, c.IsLoadable := by
  have hpackages := packages_of_ofPackages h
  refine ⟨hpackages, fun p hp => ?_⟩
  rw [hpackages] at hp
  have hverified := (acceptable_of_ofPackages h).verified p hp
  have hloadable : ∀ c ∈ p.conditions, c.IsSound → c.IsLoadable := by
    intro c hc hsound
    have hshape := hsound.wellFormed.hasShape
    exact (Package.isLoadable_iff_hasShape hverified hc).2 hshape
  refine ⟨fun c hc => ⟨fun l hl => ?_, ?_, fun m d hd => ?_⟩, fun m d hd c hc => ?_⟩
  · have hdefects := Package.defects_leaf_eq_nil hverified hc hl
    exact ConditionLeaf.defects_eq_nil_iff.1 hdefects
  · exact Package.isLoadable_iff_hasShape hverified hc
  · exact hloadable c hc (Condition.isSound_of_decode d hd)
  · have hsound := Package.isSound_of_decoder hd
    exact hloadable c hc (hsound.of_mem_conditions c hc)

/-- A registry of one package that was decoded and one that was put together by hand: the
conditions of both are well formed, those of the second because they have the shape. -/
theorem Registry.conditions_of_careless_and_swaps :
    ∃ r, ofPackages [Package.careless, Package.swapPackage] = .ok r ∧
      (∀ c ∈ Package.careless.conditions, c.IsLoadable) ∧
      ∀ c ∈ Package.swapPackage.conditions, c.IsLoadable := by
  have hcareless : Package.careless.verify = .ok () := by decide +kernel
  have hswap : Package.swapPackage.verify = .ok () := by decide +kernel
  have hok : Acceptable [Package.careless, Package.swapPackage] :=
    ⟨by simp [hcareless, hswap], by decide +kernel⟩
  obtain ⟨r, hr⟩ := exists_ofPackages_iff.2 hok
  obtain ⟨hpackages, hconditions⟩ := conditions_of_ofPackages hr
  obtain ⟨-, hdecoded⟩ := hconditions Package.careless (by simp [hpackages])
  obtain ⟨hmade, -⟩ := hconditions Package.swapPackage (by simp [hpackages])
  have hform : Package.decoder.ofValue Package.carelessForm = .ok Package.careless := rfl
  refine ⟨r, hr, hdecoded _ _ hform, fun c hc => ?_⟩
  obtain ⟨-, hiff, -⟩ := hmade c hc
  obtain rfl := List.mem_singleton.1 hc
  exact hiff.2 (.not (.leaf ⟨"draft|test", rfl⟩))

/-! ### Misshapen conditions -/

/-- A package that was put together by hand. Its conditions are an empty disjunction, a
conjunction with an empty one inside, a comparison with null, a comparison without a value, a
membership test on a text, and a match against a number. -/
def Package.misshapenPackage : Package where
  id := "MISSHAPEN"
  regulationCode := "EMIR"
  version := "1"
  reportTypes := [{ code := "TRADE" }]
  fields := [{ id := "ccp", requirement := .conditional, condition := some (.or []) }]
  rules := [
    { id := "R1", severity := .error, type := .required, affectedFields := ["ccp"]
      precondition := some (.and [.fieldExists "desk", .not (.and [])]) },
    { id := "R2", severity := .error, type := .business
      assertion := some (.leaf ⟨"price", .gt, some .null⟩)
      precondition := some (.leaf ⟨"side", .eq, none⟩) },
    { id := "R3", severity := .error, type := .business
      assertion := some (.leaf ⟨"isin", .matches, some (.ofNat 12)⟩)
      precondition := some (.leaf ⟨"desk", .in, some (.str "FX")⟩) }]

/-- The package makes a registry, although none of its conditions is well formed. -/
theorem Registry.takes_misshapenPackage :
    ∃ r, ofPackages [Package.misshapenPackage] = .ok r ∧
      Package.misshapenPackage ∈ r.packages ∧
      Package.misshapenPackage.conditions.length = 6 ∧
      ∀ c ∈ Package.misshapenPackage.conditions, ¬ c.IsLoadable := by
  have hverify : Package.misshapenPackage.verify = .ok () := by decide +kernel
  obtain ⟨r, hr⟩ := exists_ofPackages_iff.2
    (⟨by simpa using hverify, List.nodup_singleton _⟩ : Acceptable [Package.misshapenPackage])
  refine ⟨r, hr, ?_, rfl, ?_⟩
  · rw [packages_of_ofPackages hr]
    exact List.mem_singleton_self _
  · intro c hc hloadable
    obtain ⟨hshape, -⟩ := Condition.isLoadable_iff.1 hloadable
    have hall : Package.misshapenPackage.conditions = [.or [], .leaf ⟨"price", .gt, some .null⟩,
        .leaf ⟨"isin", .matches, some (.ofNat 12)⟩, .and [.fieldExists "desk", .not (.and [])],
        .leaf ⟨"side", .eq, none⟩, .leaf ⟨"desk", .in, some (.str "FX")⟩] := rfl
    rw [hall] at hc
    simp only [List.mem_cons, List.not_mem_nil, or_false] at hc
    rcases hc with rfl | rfl | rfl | rfl | rfl | rfl
    · cases hshape with
      | or some_child _ => exact some_child rfl
    · cases hshape with
      | leaf h =>
        obtain ⟨v, hvalue, hnull⟩ := h
        exact hnull (Option.some.inj hvalue).symm
    · cases hshape with
      | leaf h =>
        obtain ⟨pattern, hvalue⟩ := h
        cases hvalue
    · cases hshape with
      | and _ each =>
        have hinner : Condition.HasShape (.not (.and [])) := each _ (by simp)
        cases hinner with
        | not h => cases h with
          | and some_child _ => exact some_child rfl
    · cases hshape with
      | leaf h =>
        obtain ⟨v, hvalue, -⟩ := h
        cases hvalue
    · cases hshape with
      | leaf h =>
        obtain ⟨vs, hvalue⟩ := h
        cases hvalue

end RegulatoryReporting

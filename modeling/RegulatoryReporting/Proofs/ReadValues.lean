import RegulatoryReporting.Proofs.PrintedValues
import RegulatoryReporting.Validation.RecordFile

/-!
# Values Read from Text

Whatever text is read, the numbers of its value are ones that JSON can hold: integers of 64
bits, or numbers of the binary64 format. So statements about representable values speak of
all records that a file can hold.

A literal with a point or an exponent, or with too many digits, is rounded several times:
first its digits, then the power of ten, then the product or quotient of both. Only the
product can leave the range, and then there is no number. A quotient stays in range because
the digits are less than `2 ^ 64` and a power of ten is at least one.

## Main results

* `Literal.isRepresentable_of_number?` — the number of a literal.
* `Document.readsRepresentable` — reading a value, items or members.
* `isRepresentable_of_readRecords` — the records of a file.
-/

namespace RegulatoryReporting

/-! ### Numbers -/

namespace Binary64

/-- A ratio of at least one is rounded to a number of at least one. -/
theorem le_magnitude_nearest (negative : Bool) {num den : Nat} (hden : 0 < den)
    (h : den ≤ num) : twoPow 1074 ≤ (nearest negative num den).magnitude := by
  have hone : twoPow 1074 ≤ num * twoPow 1074 / den := by
    rw [Nat.le_div_iff_mul_le hden, Nat.mul_comm]
    exact Nat.mul_le_mul_right _ h
  have hlog := le_log2_of_twoPow_le hone
  have hscale : 1022 ≤ (nearest negative num den).scale := by
    rw [nearest_of_scale rfl]
    split <;> simp only <;> omega
  obtain ⟨-, hzero | hmantissa⟩ := mantissa_nearest negative num den
  · omega
  · calc twoPow 1074 = twoPow 52 * twoPow 1022 := twoPow_add 52 1022
      _ ≤ _ := Nat.mul_le_mul hmantissa (twoPow_le_twoPow hscale)

/-- The quotient of a small number by a number of at least one. -/
theorem div_spec {x y : Binary64} {k : Nat} (hm : x.mantissa < twoPow 53)
    (hs : x.scale ≤ k + 1021) (hy : twoPow 1074 ≤ y.magnitude) (hk : k ≤ 1023) :
    (x.div y).IsNormal ∧ (x.div y).scale ≤ k + 1022 := by
  have hbits : 53 + (k + 1021) = k + 1074 := by omega
  have hlt : x.magnitude < twoPow k * y.magnitude := by
    calc x.magnitude < twoPow (k + 1074) := hbits ▸ magnitude_lt hm hs
      _ = twoPow k * twoPow 1074 := twoPow_add k 1074
      _ ≤ twoPow k * y.magnitude := Nat.mul_le_mul_left _ hy
  exact ⟨isNormal_nearest hlt hk, scale_nearest_le _ hlt⟩

end Binary64

/-- A power of ten is at least one. -/
theorem le_magnitude_tenPower (k : Nat) : twoPow 1074 ≤ (tenPower k).magnitude :=
  Binary64.le_magnitude_nearest false (by decide) (tenPow_pos k)

/-- A number of 64 bits, scaled by a power of ten, is a number of the format. -/
theorem isNormal_of_scaleByTen? {negative : Bool} {n : Nat} {e : Int} {x : Binary64}
    (hn : n < twoPow 64) (h : scaleByTen? (.nearest negative n 1) e = some x) : x.IsNormal := by
  have hlt : n < twoPow 64 * 1 := by rwa [Nat.mul_one]
  have hnormal : (Binary64.nearest negative n 1).IsNormal :=
    Binary64.isNormal_nearest hlt (by decide)
  have hscale : (Binary64.nearest negative n 1).scale ≤ 65 + 1021 :=
    Binary64.scale_nearest_le negative hlt
  have hfirst := fun k => Binary64.div_spec hnormal.mantissa_lt hscale (le_magnitude_tenPower k)
    (by decide)
  rw [scaleByTen?] at h
  split_ifs at h
  · obtain rfl := Option.some.inj h
    exact hnormal
  · exact Binary64.isNormal_of_ofRatio? h
  · obtain rfl := Option.some.inj h
    exact (hfirst _).1
  · obtain rfl := Option.some.inj h
    exact (Binary64.div_spec (hfirst 308).1.mantissa_lt (k := 66) (hfirst 308).2
      (le_magnitude_tenPower _) (by decide)).1
  · obtain rfl := Option.some.inj h
    exact ⟨twoPow_pos 53, .inl rfl, Nat.zero_le _⟩

/-- The digits that fit are a number of 64 bits. -/
theorem takeSignificand_le {n : Nat} (hn : n ≤ maxSignificand) (cs : List Char) :
    (takeSignificand n cs).1 ≤ maxSignificand := by
  induction cs generalizing n with
  | nil => exact hn
  | cons c cs ih =>
    rw [takeSignificand]
    split
    next => exact hn
    next h => exact ih (Nat.le_of_not_lt h)

/-- A literal that is no integer of 64 bits has a number of the format. -/
theorem Literal.isNormal_of_float? {l : Literal} {x : Binary64} (h : l.float? = some x) :
    x.IsNormal := by
  have hwhole := takeSignificand_le (Nat.zero_le maxSignificand) l.whole
  have hdigits := takeSignificand_le hwhole (l.fraction.getD [])
  refine isNormal_of_scaleByTen? (Nat.lt_of_le_of_lt hdigits ?_) h
  exact Nat.sub_lt (twoPow_pos 64) Nat.one_pos

/-- The number of a literal is one that JSON can hold. -/
theorem Literal.isRepresentable_of_number? {l : Literal} {n : Number}
    (h : l.number? = some n) : n.IsRepresentable := by
  rw [number?] at h
  split_ifs at h with hsign hexact hexact
  · obtain rfl := Option.some.inj h
    simp only [Bool.and_eq_true, decide_eq_true_eq] at hexact
    exact ⟨by omega, by omega⟩
  · obtain ⟨x, hx, rfl⟩ := Option.map_eq_some_iff.1 h
    exact isNormal_of_float? hx
  · obtain rfl := Option.some.inj h
    simp only [Bool.and_eq_true, decide_eq_true_eq] at hexact
    exact ⟨by omega, by omega⟩
  · obtain ⟨x, hx, rfl⟩ := Option.map_eq_some_iff.1 h
    exact isNormal_of_float? hx

/-! ### Documents -/

/-- An object of representable members is representable. -/
theorem Json.isRepresentable_ofMembers {members : List (String × Json)}
    (h : ∀ m ∈ members, m.2.IsRepresentable) : (ofMembers members).IsRepresentable := by
  obtain ⟨sorted, hsorted, -, hmem⟩ := exists_ofMembers_eq members
  rw [hsorted]
  exact .obj fun m hm => h m (hmem m hm)

namespace Document

/-- The numbers in the document are ones that JSON can hold, as far as they may be used. -/
inductive IsRepresentable : Document → Prop
  | null : IsRepresentable null
  | bool (b : Bool) : IsRepresentable (bool b)
  | number {n : Number} (h : n.IsRepresentable) : IsRepresentable (number n)
  | text (s : String) : IsRepresentable (text s)
  | array {items : List Document} (each : ∀ d ∈ items, IsRepresentable d) :
    IsRepresentable (array items)
  | object {members : List (Option String × Document)} (each : ∀ m ∈ members, IsRepresentable m.2) :
    IsRepresentable (object members)
  | refused : IsRepresentable refused
  | broken : IsRepresentable broken
  | misplaced (d : Document) : IsRepresentable (misplaced d)

/-- The reading of a number. -/
theorem isRepresentable_readNumber (negative : Bool) (cs : List Char) :
    (readNumber negative cs).document.IsRepresentable := by
  rw [readNumber]
  split
  next => exact .broken
  next l rest _ =>
    cases hnumber : l.number? with
    | none => exact .refused
    | some n => exact .number (l.isRepresentable_of_number? hnumber)

/-- The reading of a word. -/
theorem isRepresentable_readWord {d : Document} (hd : d.IsRepresentable) (word : String)
    (cs : List Char) : (readWord word d cs).document.IsRepresentable := by
  rw [readWord]
  split
  next => exact .broken
  next => exact hd

/-- The reading of a value that is no container. -/
theorem isRepresentable_readScalar (c : Char) (rest : List Char) :
    (readScalar c rest).document.IsRepresentable := by
  rw [readScalar]
  split_ifs
  · split
    next => exact .broken
    next s _ _ =>
      cases s with
      | none => exact .refused
      | some s => exact .text s
  · exact isRepresentable_readWord .null _ _
  · exact isRepresentable_readWord (.bool true) _ _
  · exact isRepresentable_readWord (.bool false) _ _
  · exact isRepresentable_readNumber _ _
  · exact isRepresentable_readNumber _ _
  · exact .broken

/-- What a container shows that is nested too deeply. -/
theorem isRepresentable_of_mem_refusedItems {rest : Option (List Char)} {d : Document}
    (h : d ∈ refusedItems rest) : d.IsRepresentable := by
  rw [refusedItems] at h
  split at h
  next =>
    obtain rfl := List.mem_singleton.1 h
    exact .refused
  next =>
    rcases List.mem_pair.1 h with rfl | rfl
    · exact .refused
    · exact .broken

/-- Whatever is read in so many steps is representable. -/
structure ReadsRepresentable (fuel : Nat) : Prop where
  /-- A value. -/
  value : ∀ room cs, (readValue fuel room cs).document.IsRepresentable
  /-- The items of an array. -/
  items : ∀ room cs, ∀ d ∈ (readItems fuel room cs).1, d.IsRepresentable
  /-- The members of an object. -/
  members : ∀ room cs, ∀ m ∈ (readMembers fuel room cs).1, m.2.IsRepresentable

/-- One step more for a value. -/
theorem ReadsRepresentable.value_succ {fuel : Nat} (h : ReadsRepresentable fuel) (room : Nat)
    (cs : List Char) : (readValue (fuel + 1) room cs).document.IsRepresentable := by
  rw [readValue]
  split
  next => exact .broken
  next rest _ =>
    cases room with
    | zero => exact .array fun d hd => isRepresentable_of_mem_refusedItems hd
    | succ room =>
      dsimp only
      split
      next => exact .array nofun
      next => exact .array (h.items room _)
  next rest _ =>
    cases room with
    | zero =>
      refine .object fun m hm => ?_
      obtain ⟨d, hd, rfl⟩ := List.mem_map.1 hm
      exact isRepresentable_of_mem_refusedItems hd
    | succ room =>
      dsimp only
      split
      next => exact .object nofun
      next => exact .object (h.members room _)
  next => exact isRepresentable_readScalar _ _

/-- One step more for items. -/
theorem ReadsRepresentable.items_succ {fuel : Nat} (h : ReadsRepresentable fuel) (room : Nat)
    (cs : List Char) : ∀ d ∈ (readItems (fuel + 1) room cs).1, d.IsRepresentable := by
  have hfirst := h.value room cs
  rw [readItems]
  split
  next => exact List.forall_mem_singleton.2 hfirst
  next rest _ =>
    dsimp only
    split
    next => exact List.forall_mem_singleton.2 hfirst
    next => exact List.forall_mem_cons.2 ⟨hfirst, h.items room _⟩
    next => exact List.forall_mem_cons.2 ⟨hfirst, List.forall_mem_singleton.2 .broken⟩

/-- One step more for members. -/
theorem ReadsRepresentable.members_succ {fuel : Nat} (h : ReadsRepresentable fuel) (room : Nat)
    (cs : List Char) : ∀ m ∈ (readMembers (fuel + 1) room cs).1, m.2.IsRepresentable := by
  rw [readMembers]
  split
  next rest _ =>
    split
    next => exact List.forall_mem_singleton.2 .broken
    next key rest _ =>
      dsimp only
      split
      next rest _ =>
        have hfirst := h.value room rest
        split
        next => exact List.forall_mem_singleton.2 hfirst
        next =>
          split
          next => exact List.forall_mem_singleton.2 hfirst
          next => exact List.forall_mem_cons.2 ⟨hfirst, h.members room _⟩
          next => exact List.forall_mem_cons.2 ⟨hfirst, List.forall_mem_singleton.2 .broken⟩
      next => exact List.forall_mem_singleton.2 .broken
  next => exact List.forall_mem_singleton.2 (.misplaced _)

/-- Whatever is read is representable, in any number of steps. -/
theorem readsRepresentable (fuel : Nat) : ReadsRepresentable fuel := by
  induction fuel with
  | zero =>
    exact ⟨fun _ _ => .broken, fun _ _ => List.forall_mem_singleton.2 .broken,
      fun _ _ => List.forall_mem_singleton.2 .broken⟩
  | succ fuel ih => exact ⟨ih.value_succ, ih.items_succ, ih.members_succ⟩

/-! ### Values -/

mutual

/-- The value of a representable document is representable. -/
theorem isRepresentable_of_toValue? : ∀ (d : Document) {v : Json}, d.IsRepresentable →
    d.toValue? = some v → v.IsRepresentable
  | null, _, _, h => Option.some.inj h ▸ .null
  | bool b, _, _, h => Option.some.inj h ▸ .bool b
  | number _, _, .number hn, h => Option.some.inj h ▸ .num hn
  | text s, _, _, h => Option.some.inj h ▸ .str s
  | array items, _, .array each, h => by
    rw [toValue?, Option.map_eq_some_iff] at h
    obtain ⟨vs, hvs, rfl⟩ := h
    exact .arr (isRepresentable_of_toItems? items each hvs)
  | object members, _, .object each, h => by
    rw [toValue?, Option.map_eq_some_iff] at h
    obtain ⟨ms, hms, rfl⟩ := h
    exact Json.isRepresentable_ofMembers (isRepresentable_of_toMembers? members each hms)
  | refused, _, _, h | broken, _, _, h | misplaced _, _, _, h => nomatch h

/-- The values of representable items are representable. -/
theorem isRepresentable_of_toItems? : ∀ (ds : List Document) {vs : List Json},
    (∀ d ∈ ds, d.IsRepresentable) → toItems? ds = some vs → ∀ v ∈ vs, v.IsRepresentable
  | [], _, _, h => by
    obtain rfl := Option.some.inj h
    exact nofun
  | d :: ds, _, heach, h => by
    simp only [toItems?, Option.bind_eq_bind, Option.bind_eq_some_iff] at h
    obtain ⟨v, hv, vs, hvs, h⟩ := h
    obtain rfl := Option.some.inj h
    obtain ⟨hfirst, hrest⟩ := List.forall_mem_cons.1 heach
    exact List.forall_mem_cons.2
      ⟨isRepresentable_of_toValue? d hfirst hv, isRepresentable_of_toItems? ds hrest hvs⟩

/-- The values of representable members are representable. -/
theorem isRepresentable_of_toMembers? : ∀ (ds : List (Option String × Document))
    {ms : List (String × Json)}, (∀ d ∈ ds, d.2.IsRepresentable) → toMembers? ds = some ms →
      ∀ m ∈ ms, m.2.IsRepresentable
  | [], _, _, h => by
    obtain rfl := Option.some.inj h
    exact nofun
  | (key, d) :: ds, _, heach, h => by
    simp only [toMembers?, Option.bind_eq_bind, Option.bind_eq_some_iff] at h
    obtain ⟨k, _, v, hv, ms, hms, h⟩ := h
    obtain rfl := Option.some.inj h
    obtain ⟨hfirst, hrest⟩ := List.forall_mem_cons.1 heach
    exact List.forall_mem_cons.2
      ⟨isRepresentable_of_toValue? d hfirst hv, isRepresentable_of_toMembers? ds hrest hms⟩

end

end Document

/-- The value of a text is representable. -/
theorem Json.isRepresentable_of_ofText? {text : String} {v : Json}
    (h : Json.ofText? text = .ok v) : v.IsRepresentable := by
  simp only [ofText?, Decoder.ofText] at h
  split at h
  next => cases h
  next w hvalue =>
    split at h
    next =>
      obtain rfl := Except.ok.inj h
      exact Document.isRepresentable_of_toValue? _
        ((Document.readsRepresentable _).value _ _) (Decoder.value_eq_ok_iff.1 hvalue)
    next => cases h

/-- The records of a representable value are representable. -/
theorem isRepresentable_of_recordsOf {v : Json} {records : List Json} (hv : v.IsRepresentable)
    (h : recordsOf v = .ok records) : ∀ record ∈ records, record.IsRepresentable := by
  cases hv with
  | @arr items each =>
    simp only [recordsOf] at h
    split at h
    next => cases h
    next => exact Except.ok.inj h ▸ each
  | obj each => exact Except.ok.inj h ▸ List.forall_mem_singleton.2 (.obj each)
  | _ => cases h

/-- **Records that are read from a text are representable.** -/
theorem isRepresentable_of_readRecords {text : String} {records : List Json}
    (h : readRecords text = .ok records) : ∀ record ∈ records, record.IsRepresentable := by
  rw [readRecords] at h
  split at h
  next => cases h
  next v hv => exact isRepresentable_of_recordsOf (Json.isRepresentable_of_ofText? hv) h

end RegulatoryReporting

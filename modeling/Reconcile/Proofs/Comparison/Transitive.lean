import Reconcile.Proofs.Comparison.Equality
import Reconcile.Proofs.Number.Rounding
import Reconcile.Proofs.Schema.Parts

/-!
# How far the comparison is transitive

Two integers are compared exactly and every other pair of numbers as binary64 values, so one float can be
the same as two integers that differ. Nothing else stands in the way: two values that are the same as a
third are the same as each other exactly when they have no two different integers in one place. Up to
`2 ^ 53` integers are held exactly, and there the comparison is an equivalence. All of it is in
`Json.sameValue_equivalence_iff`.
-/

namespace Reconcile

namespace Number

variable {a b c : Number}

/-- Numbers are compared as binary64 values, and two integers by themselves as well. -/
theorem sameValue_iff : a.sameValue b = true ↔
    a.toBinary64.sameValue b.toBinary64 = true ∧ ∀ m n, a = .integer m → b = .integer n → m = n := by
  cases a with
  | integer m =>
    cases b with
    | integer n =>
      rw [sameValue, beq_iff_eq]
      constructor
      · intro h
        obtain rfl : m = n := Subtype.ext h
        exact ⟨Binary64.sameValue_refl _, fun _ _ hm hn => integer.inj (hm.symm.trans hn)⟩
      · rintro ⟨-, h⟩
        exact congrArg Subtype.val (h m n rfl rfl)
    | float y => simp [sameValue]
  | float x => cases b <;> simp [sameValue]

/-- Two numbers that are the same as a third are the same unless they are different integers. -/
theorem sameValue_trans_iff (hab : a.sameValue b = true) (hbc : b.sameValue c = true) :
    a.sameValue c = true ↔ ∀ m n, a = .integer m → c = .integer n → m = n := by
  rw [sameValue_iff]
  exact and_iff_right (Binary64.sameValue_trans (sameValue_iff.mp hab).1 (sameValue_iff.mp hbc).1)

end Number

namespace Json

open Schema (partAt partAt_cons partAt_key partAt_index wellFormed_partAt)

/-- Nowhere do two values have different integers in the same place. -/
def IntegersAgree (a b : Json) : Prop :=
  ∀ place m n, partAt place a = some (.number (.integer m)) →
    partAt place b = some (.number (.integer n)) → m = n

/-- Where the integers of two values agree, those of their parts do. -/
theorem IntegersAgree.part {a b v w : Json} {place : Path} (h : IntegersAgree a b)
    (hv : partAt place a = some v) (hw : partAt place b = some w) : IntegersAgree v w := by
  intro below m n hm hn
  refine h (place ++ below) m n ?_ ?_
  · rw [Schema.partAt_append, hv, Option.bind_some, hm]
  · rw [Schema.partAt_append, hw, Option.bind_some, hn]

section Parts

/-- Induction over values by their parts: what holds of a value may use that it holds of its parts. -/
@[elab_as_elim]
theorem part_induction {P : Json → Prop}
    (step : ∀ v, (∀ step w, partAt [step] v = some w → P w) → P v) (v : Json) : P v := by
  induction v with
  | array items ih =>
    refine step _ fun s w hw => ?_
    cases s with
    | key key => simp [partAt, get?] at hw
    | index i => exact ih w (List.mem_of_getElem? (partAt_index i items ▸ hw))
  | object members ih =>
    refine step _ fun s w hw => ?_
    cases s with
    | key key => exact ih _ (Fields.mem_of_get? (partAt_key key members ▸ hw))
    | index i => simp [partAt] at hw
  | _ => exact step _ fun s w hw => by cases s <;> simp [partAt, get?] at hw

/-- Lists are the same when they are at every position. -/
theorem sameItems_iff {a b : List Json} : sameItems a b = true ↔ ∀ i : Nat, SameAt a[i]? b[i]? := by
  induction a generalizing b with
  | nil =>
    cases b with
    | nil => simp [sameItems]
    | cons w others => exact iff_of_false Bool.false_ne_true fun h => by simpa using h 0
  | cons v rest ih =>
    cases b with
    | nil => exact iff_of_false Bool.false_ne_true fun h => by simpa using h 0
    | cons w others =>
      have hpositions : (∀ i : Nat, SameAt (v :: rest)[i]? (w :: others)[i]?) ↔
          SameAt (some v) (some w) ∧ ∀ i : Nat, SameAt rest[i]? others[i]? := Nat.and_forall_add_one.symm
      rw [sameItems, Bool.and_eq_true, ih, hpositions, sameAt_some]

/-- What is the same is the same part by part. -/
theorem sameAt_step {a b : Json} (ha : a.WellFormed) (hb : b.WellFormed) (h : a.sameValue b = true)
    (step : PathStep) : SameAt (partAt [step] a) (partAt [step] b) := by
  cases a with
  | array items =>
    cases b with
    | array others =>
      cases step with
      | key key => exact .none
      | index i =>
        rw [partAt_index, partAt_index]
        exact sameItems_iff.mp h i
    | _ => simp [sameValue] at h
  | object members =>
    cases b with
    | object others =>
      cases step with
      | key key =>
        rw [partAt_key, partAt_key]
        exact (sameValue_object_iff (wellFormed_object_iff.mp ha).1 (wellFormed_object_iff.mp hb).1).mp h key
      | index i => exact .none
    | _ => simp [sameValue] at h
  | _ => cases b <;> cases step <;> first | exact .none | simp [sameValue] at h

/-- What is the same is so at every place. -/
theorem sameAt_partAt {a b : Json} (ha : a.WellFormed) (hb : b.WellFormed) (h : a.sameValue b = true)
    (place : Path) : SameAt (partAt place a) (partAt place b) := by
  induction place generalizing a b with
  | nil => exact .some h
  | cons step rest ih =>
    rw [partAt_cons, partAt_cons step rest b]
    have hstep := sameAt_step ha hb h step
    cases hv : partAt [step] a with
    | none =>
      rw [hv, sameAt_none_left] at hstep
      rw [hstep]
      exact .none
    | some v =>
      cases hw : partAt [step] b with
      | none => simp [hv, hw] at hstep
      | some w =>
        rw [hv, hw, sameAt_some] at hstep
        exact ih (wellFormed_partAt ha hv) (wellFormed_partAt hb hw) hstep

end Parts

section Transitive

variable {a b c : Json}

/-- Integers are in the same places of values that are the same, and they are equal. -/
theorem integersAgree_of_sameValue (ha : a.WellFormed) (hb : b.WellFormed) (h : a.sameValue b = true) :
    IntegersAgree a b := by
  intro place m n hm hn
  have hsame := sameAt_partAt ha hb h place
  rw [hm, hn, sameAt_some, sameValue] at hsame
  exact (Number.sameValue_iff.mp hsame).2 m n rfl rfl

/-- Where one value is the same as the next in both steps, the first is the same as the last if it is so
in every part that the three have. -/
theorem sameAt_trans {x y z : Option Json} (hxy : SameAt x y) (hyz : SameAt y z)
    (h : ∀ v w u, x = some v → y = some w → z = some u → v.sameValue w = true → w.sameValue u = true →
      v.sameValue u = true) : SameAt x z := by
  cases hxy with
  | none => exact hyz
  | some hvw =>
    cases hyz with
    | some hwu => exact .some (h _ _ _ rfl rfl rfl hvw hwu)

/-- Two values that are the same as a third are the same if their integers agree. -/
theorem sameValue_trans (ha : a.WellFormed) (hb : b.WellFormed) (hc : c.WellFormed)
    (hab : a.sameValue b = true) (hbc : b.sameValue c = true) (h : IntegersAgree a c) :
    a.sameValue c = true := by
  induction a using part_induction generalizing b c with
  | step a ih =>
    -- what the three have in one part are three values again, and the integers in them agree
    have hparts (step : PathStep) : SameAt (partAt [step] a) (partAt [step] c) :=
      sameAt_trans (sameAt_step ha hb hab step) (sameAt_step hb hc hbc step)
        fun v w u hv hw hu hvw hwu =>
          ih step v hv (wellFormed_partAt ha hv) (wellFormed_partAt hb hw) (wellFormed_partAt hc hu) hvw hwu
            (h.part hv hu)
    cases a with
    | number m =>
      cases b with
      | number l =>
        cases c with
        | number n =>
          refine (Number.sameValue_trans_iff hab hbc).mpr fun i j hi hj => h [] i j ?_ ?_
          · rw [hi]; rfl
          · rw [hj]; rfl
        | _ => simp [sameValue] at hbc
      | _ => simp [sameValue] at hab
    | array items =>
      cases b with
      | array others =>
        cases c with
        | array thirds => exact sameItems_iff.mpr fun i => by simpa only [partAt_index] using hparts (.index i)
        | _ => simp [sameValue] at hbc
      | _ => simp [sameValue] at hab
    | object members =>
      cases b with
      | object others =>
        cases c with
        | object thirds =>
          refine (sameValue_object_iff (wellFormed_object_iff.mp ha).1 (wellFormed_object_iff.mp hc).1).mpr
            fun key => ?_
          simpa only [partAt_key] using hparts (.key key)
        | _ => simp [sameValue] at hbc
      | _ => simp [sameValue] at hab
    | _ => cases b <;> cases c <;> simp_all [sameValue]

/-- Every integer in a value is held exactly as a binary64 value. -/
def IntegersExact (v : Json) : Prop :=
  ∀ place n, partAt place v = some (.number (.integer n)) → n.val.natAbs ≤ 0x20000000000000

/-- Integers that are held exactly agree once one value stands between them. -/
theorem integersAgree_of_exact (ha : a.WellFormed) (hb : b.WellFormed) (hc : c.WellFormed)
    (hab : a.sameValue b = true) (hbc : b.sameValue c = true) (hea : a.IntegersExact)
    (hec : c.IntegersExact) : IntegersAgree a c := by
  intro place m n hm hn
  have hfirst := sameAt_partAt ha hb hab place
  have hsecond := sameAt_partAt hb hc hbc place
  rw [hm] at hfirst
  rw [hn] at hsecond
  -- the value in the middle has a number there too, and both integers are rounded to it
  cases hl : partAt place b with
  | none => simp [hl] at hfirst
  | some w =>
    rw [hl, sameAt_some] at hfirst hsecond
    cases w with
    | number l =>
      have hml : (Number.integer m).toBinary64.sameValue l.toBinary64 = true :=
        (Number.sameValue_iff.mp hfirst).1
      have hln : l.toBinary64.sameValue (Number.integer n).toBinary64 = true :=
        (Number.sameValue_iff.mp hsecond).1
      exact WideInt.eq_of_sameValue (hea place m hm) (hec place n hn) (Binary64.sameValue_trans hml hln)
    | _ => simp [sameValue] at hfirst

end Transitive

/-- The comparison is reflexive and symmetric. It carries over a value in the middle exactly where the two
outer ones have no different integers in one place, so it is an equivalence on values whose integers are
held exactly. -/
theorem sameValue_equivalence_iff :
    (∀ a : Json, a.WellFormed → a.sameValue a = true) ∧
      (∀ a b : Json, a.WellFormed → b.WellFormed → a.sameValue b = true → b.sameValue a = true) ∧
      ∀ a b c : Json, a.WellFormed → b.WellFormed → c.WellFormed →
        a.sameValue b = true → b.sameValue c = true →
          (a.sameValue c = true ↔ IntegersAgree a c) ∧
            (a.IntegersExact → c.IntegersExact → a.sameValue c = true) := by
  refine ⟨fun a => sameValue_self, fun a b ha hb h => sameValue_comm ha hb ▸ h, ?_⟩
  intro a b c ha hb hc hab hbc
  have hagree (h : IntegersAgree a c) : a.sameValue c = true := sameValue_trans ha hb hc hab hbc h
  exact ⟨⟨integersAgree_of_sameValue ha hc, hagree⟩,
    fun hea hec => hagree (integersAgree_of_exact ha hb hc hab hbc hea hec)⟩

/-- The last integer of those that are held exactly and the next one have one binary64 value, and zero has
two. -/
theorem sameValue_equivalence_iff_of_rounded :
    let odd : Json := .number (.integer ⟨0x20000000000001, by decide⟩)
    let even : Json := .number (.integer ⟨0x20000000000000, by decide⟩)
    let rounded : Json := .number (.float ⟨false, 0x10000000000000, 1, by decide⟩)
    let zero : Json := .number (.integer .zero)
    let floatZero (negative : Bool) : Json := .number (.float (.zero negative))
    odd.sameValue odd = true ∧ odd.sameValue rounded = true ∧ rounded.sameValue odd = true ∧
      rounded.sameValue even = true ∧ ¬IntegersAgree odd even ∧
      zero.sameValue (floatZero false) = true ∧ (floatZero false).sameValue (floatZero true) = true ∧
      zero.IntegersExact ∧ (floatZero true).IntegersExact ∧ zero.sameValue (floatZero true) = true := by
  intro odd even rounded zero floatZero
  have hodd : odd.sameValue rounded = true := by decide
  have heven : rounded.sameValue even = true := by decide
  have hzero : zero.sameValue (floatZero false) = true := by decide
  have hsigns : (floatZero false).sameValue (floatZero true) = true := by decide
  have hexact : zero.IntegersExact := by
    rintro (_ | ⟨_ | _, _⟩) n h
    · obtain rfl : WideInt.zero = n := by simpa [zero, partAt] using h
      decide
    all_goals simp [zero, partAt, get?] at h
  have hexactFloat : (floatZero true).IntegersExact := by
    rintro (_ | ⟨_ | _, _⟩) n h <;> simp [floatZero, partAt, get?] at h
  obtain ⟨hself, hback, hbetween⟩ := sameValue_equivalence_iff
  have hdiffer := (hbetween odd rounded even (.number _) (.number _) (.number _) hodd heven).1
  have hsame := (hbetween zero (floatZero false) (floatZero true) (.number _) (.number _) (.number _)
    hzero hsigns).2 hexact hexactFloat
  refine ⟨hself odd (.number _), hodd, hback odd rounded (.number _) (.number _) hodd, heven, ?_, hzero,
    hsigns, hexact, hexactFloat, hsame⟩
  rw [← hdiffer]
  decide

/-- Two integers that differ are the same as one binary64 value. -/
theorem sameValue_not_transitive :
    let odd : Json := .number (.integer ⟨0x20000000000001, by decide⟩)
    let rounded : Json := .number (.float ⟨false, 0x10000000000000, 1, by decide⟩)
    let even : Json := .number (.integer ⟨0x20000000000000, by decide⟩)
    odd.sameValue rounded = true ∧ rounded.sameValue even = true ∧ odd.sameValue even = false := by
  decide

end Json

end Reconcile

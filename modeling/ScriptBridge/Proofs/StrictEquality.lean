/-
This file says what strict equality of script values is. Values are strictly equal
in one of five ways: as the same value, as nulls, as numbers, as dates, or as proxies
that hold equal host values. Each of them is symmetric and goes on from one value to
the next, so that on values that are not a NaN it is an equivalence. Integers of
script are compared as numbers too, that is, after they are rounded: from two to
the power of 53 on, integers that are not the same may be strictly equal.
-/

import ScriptBridge.Proofs.PassingThrough
import ScriptBridge.Proofs.Rounding

namespace ScriptBridge

/-! ### Equality of numbers -/

namespace Number

variable {format : Format} {first second third : Binary format}

theorem Binary.equals_symm (same : first.equals second = true) : second.equals first = true := by
  unfold Binary.equals at *
  simp only [Bool.and_eq_true, Bool.or_eq_true, beq_iff_eq] at *
  exact ⟨same.1.symm, same.2.imp And.symm fun alike => ⟨alike.1.symm, alike.2.symm⟩⟩

theorem Binary.equals_trans (same : first.equals second = true)
    (next : second.equals third = true) : first.equals third = true := by
  unfold Binary.equals at *
  simp only [Bool.and_eq_true, Bool.or_eq_true, beq_iff_eq] at *
  refine ⟨⟨same.1.1, next.1.2⟩, ?_⟩
  rcases same.2 with ⟨zero, zeroToo⟩ | ⟨signs, sizes⟩
  · rcases next.2 with ⟨-, zeroLast⟩ | ⟨-, sizes⟩
    · exact .inl ⟨zero, zeroLast⟩
    · exact .inl ⟨zero, sizes ▸ zeroToo⟩
  · rw [signs, sizes]
    exact next.2

theorem Decimal.equals_symm {left right : Decimal} (same : left.equals right = true) :
    right.equals left = true :=
  beq_iff_eq.mpr (beq_iff_eq.mp same).symm

theorem Decimal.equals_trans {first second third : Decimal} (same : first.equals second = true)
    (next : second.equals third = true) : first.equals third = true := by
  unfold Decimal.equals at *
  rw [beq_iff_eq] at *
  have positive : (10 : Int) ^ second.scale ≠ 0 := Int.pow_ne_zero (by decide)
  refine Int.eq_of_mul_eq_mul_right positive ?_
  calc first.signedMantissa * 10 ^ third.scale * 10 ^ second.scale
      = first.signedMantissa * 10 ^ second.scale * 10 ^ third.scale := Int.mul_right_comm ..
    _ = second.signedMantissa * 10 ^ third.scale * 10 ^ first.scale := by
        rw [same, Int.mul_right_comm]
    _ = third.signedMantissa * 10 ^ first.scale * 10 ^ second.scale := by
        rw [next, Int.mul_right_comm]

end Number

/-! ### Equality of host values -/

namespace Host.Value

open Number

/-- The ways host values are equal: numbers by what they are worth, structs field by field, and
whatever else as the same value. -/
inductive Matches : Value → Value → Prop
  | self (value : Value) : Matches value value
  | single {left right : Single} : left.equals right = true → Matches (.single left) (.single right)
  | double {left right : Double} : left.equals right = true → Matches (.double left) (.double right)
  | decimal {left right : Decimal} : left.equals right = true →
      Matches (.decimal left) (.decimal right)
  | struct (type : TypeKey) {left right : List Value} : equalsAll left right = true →
      Matches (.struct type left) (.struct type right)

theorem matches_of_equals {left right : Value} (same : left.equals right = true) :
    left.Matches right := by
  fun_cases equals left right
  case case4 left right =>
    -- Integers of one kind and value are the same, since the rest of them is a proof.
    obtain ⟨kind, value, _⟩ := left
    obtain ⟨otherKind, otherValue, _⟩ := right
    simp only [equals, Bool.and_eq_true, beq_iff_eq] at same
    obtain ⟨rfl, rfl⟩ := same
    exact .self _
  case case5 left right => exact .single same
  case case6 left right => exact .double same
  case case7 left right => exact .decimal same
  case case12 type left otherType right =>
    simp only [equals, Bool.and_eq_true, beq_iff_eq] at same
    obtain ⟨rfl, among⟩ := same
    exact .struct _ among
  case case21 => simp_all only [equals, Bool.false_eq_true]
  all_goals
    simp only [equals, Bool.and_eq_true, beq_iff_eq] at same
    first
    | exact .self _
    | exact same ▸ .self _
    | exact same.1 ▸ same.2 ▸ .self _

mutual

theorem equals_symm : ∀ {left right : Value}, left.equals right = true → right.equals left = true
  | left, right, same => by
    cases matches_of_equals same with
    | self => exact same
    | single alike | double alike => exact Binary.equals_symm alike
    | decimal alike => exact Decimal.equals_symm alike
    | struct type among =>
      unfold equals
      rw [beq_self_eq_true, equalsAll_symm among]
      rfl

theorem equalsAll_symm : ∀ {left right : List Value}, equalsAll left right = true →
    equalsAll right left = true
  | [], [], _ => rfl
  | _ :: _, _ :: _, same => by
    unfold equalsAll at *
    rw [Bool.and_eq_true] at *
    exact ⟨equals_symm same.1, equalsAll_symm same.2⟩

end

mutual

theorem equals_trans : ∀ {first second third : Value}, first.equals second = true →
    second.equals third = true → first.equals third = true
  | first, second, third, same, next => by
    cases matches_of_equals same with
    | self => exact next
    | single alike =>
      cases matches_of_equals next with
      | self => exact same
      | single alikeNext => exact Binary.equals_trans alike alikeNext
    | double alike =>
      cases matches_of_equals next with
      | self => exact same
      | double alikeNext => exact Binary.equals_trans alike alikeNext
    | decimal alike =>
      cases matches_of_equals next with
      | self => exact same
      | decimal alikeNext => exact Decimal.equals_trans alike alikeNext
    | struct type among =>
      cases matches_of_equals next with
      | self => exact same
      | struct _ amongNext =>
        unfold equals
        rw [beq_self_eq_true, equalsAll_trans among amongNext]
        rfl

theorem equalsAll_trans : ∀ {first second third : List Value}, equalsAll first second = true →
    equalsAll second third = true → equalsAll first third = true
  | [], [], [], _, _ => rfl
  | _ :: _, _ :: _, _ :: _, same, next => by
    unfold equalsAll at *
    rw [Bool.and_eq_true] at *
    exact ⟨equals_trans same.1 next.1, equalsAll_trans same.2 next.2⟩

end

end Host.Value

/-! ### Strict equality -/

namespace Script.Value

variable {value : Value}

/-- Is the value null, declared as some type or not? -/
def isNull : Value → Bool
  | null | wrappedNull _ => true
  | _ => false

theorem isNull_iff : value.isNull = true ↔ value = .null ∨ ∃ type, value = .wrappedNull type := by
  constructor
  · intro null
    cases value with
    | null => exact .inl rfl
    | wrappedNull type => exact .inr ⟨type, rfl⟩
    | _ => cases null
  · rintro (rfl | ⟨_, rfl⟩) <;> rfl

theorem toDouble?_of_isNull (null : value.isNull = true) : value.toDouble? = none := by
  rcases isNull_iff.mp null with rfl | ⟨_, rfl⟩ <;> rfl

end Script.Value

namespace World

open Script

/-- The ways script values are strictly equal. -/
inductive StrictlyMatches (world : World) : Value → Value → Prop
  | self (value : Value) : StrictlyMatches world value value
  | nulls {left right : Value} : left.isNull = true → right.isNull = true →
      StrictlyMatches world left right
  | numbers {left right : Value} {one other : Number.Double} : left.toDouble? = some one →
      right.toDouble? = some other → one.equals other = true → StrictlyMatches world left right
  | dates {left right : Number.Double} : left.equals right = true →
      StrictlyMatches world (.date left) (.date right)
  | boxes {left right : CellId} {one other : Host.Value} :
      (world.store.proxy left).target = .boxed one →
      (world.store.proxy right).target = .boxed other → one.equals other = true →
      StrictlyMatches world (.proxy left) (.proxy right)

variable {world : World} {first second third : Value}

theorem strictlyMatches_of_strictEquals (same : world.strictEquals first second = true) :
    world.StrictlyMatches first second := by
  fun_cases strictEquals world first second
  case case8 left right => exact .dates same
  case case15 left right =>
    unfold strictEquals at same
    rw [Bool.or_eq_true, beq_iff_eq] at same
    rcases same with rfl | same
    · exact .self _
    · split at same
      next leftHeld rightHeld => exact .boxes leftHeld rightHeld same
      next => exact absurd same Bool.false_ne_true
  case case16 one other reads readsOther _ _ _ _ _ _ _ _ _ _ _ _ _ _ _ =>
    refine .numbers reads readsOther ?_
    unfold strictEquals at same
    simp_all only
  case case17 =>
    unfold strictEquals at same
    simp_all only [Bool.false_eq_true]
  all_goals
    simp only [strictEquals, beq_iff_eq] at same
    first
    | exact same ▸ .self _
    | exact .self _
    | exact .nulls rfl rfl

theorem strictEquals_of_nulls (left : first.isNull = true) (right : second.isNull = true) :
    world.strictEquals first second = true := by
  rcases Value.isNull_iff.mp left with rfl | ⟨_, rfl⟩ <;>
    rcases Value.isNull_iff.mp right with rfl | ⟨_, rfl⟩ <;> rfl

/-- Numbers of either form are compared by the binary numbers they have. -/
theorem strictEquals_of_numbers {one other : Number.Double} (reads : first.toDouble? = some one)
    (readsOther : second.toDouble? = some other) :
    world.strictEquals first second = one.equals other := by
  unfold strictEquals
  cases first <;> cases second <;> first | (dsimp only; rw [reads, readsOther]) | cases reads

theorem strictEquals_of_boxes {left right : CellId} {one other : Host.Value}
    (held : (world.store.proxy left).target = .boxed one)
    (heldOther : (world.store.proxy right).target = .boxed other)
    (alike : one.equals other = true) :
    world.strictEquals (.proxy left) (.proxy right) = true := by
  unfold strictEquals
  dsimp only
  rw [held, heldOther, Bool.or_eq_true]
  exact .inr alike

theorem strictEquals_symm (same : world.strictEquals first second = true) :
    world.strictEquals second first = true := by
  cases strictlyMatches_of_strictEquals same with
  | self => exact same
  | nulls left right => exact strictEquals_of_nulls right left
  | numbers reads readsOther alike =>
    rw [strictEquals_of_numbers readsOther reads]
    exact Number.Binary.equals_symm alike
  | dates alike => exact Number.Binary.equals_symm alike
  | boxes held heldOther alike =>
    exact strictEquals_of_boxes heldOther held (Host.Value.equals_symm alike)

theorem strictEquals_trans (same : world.strictEquals first second = true)
    (next : world.strictEquals second third = true) : world.strictEquals first third = true := by
  cases strictlyMatches_of_strictEquals same with
  | self => exact next
  | nulls left middle =>
    cases strictlyMatches_of_strictEquals next with
    | self => exact same
    | nulls _ right => exact strictEquals_of_nulls left right
    | numbers reads => exact nomatch reads.symm.trans (Value.toDouble?_of_isNull middle)
    | dates | boxes => cases middle
  | numbers reads readsMiddle alike =>
    cases strictlyMatches_of_strictEquals next with
    | self => exact same
    | nulls middle => exact nomatch readsMiddle.symm.trans (Value.toDouble?_of_isNull middle)
    | numbers readsAgain readsLast alikeNext =>
      obtain rfl := Option.some.inj (readsMiddle.symm.trans readsAgain)
      rw [strictEquals_of_numbers reads readsLast]
      exact Number.Binary.equals_trans alike alikeNext
    | dates | boxes => cases readsMiddle
  | dates alike =>
    cases strictlyMatches_of_strictEquals next with
    | self => exact same
    | nulls middle => cases middle
    | numbers reads => cases reads
    | dates alikeNext => exact Number.Binary.equals_trans alike alikeNext
  | boxes held heldMiddle alike =>
    cases strictlyMatches_of_strictEquals next with
    | self => exact same
    | nulls middle => cases middle
    | numbers reads => cases reads
    | boxes heldAgain heldLast alikeNext =>
      cases heldMiddle.symm.trans heldAgain
      exact strictEquals_of_boxes held heldLast (Host.Value.equals_trans alike alikeNext)

end World

/-! ### Integers -/

open Number Script

/-- Integers of script are strictly equal where the integers nearest to them among those of 53
digits are the same. -/
theorem strictEquals_int_iff (world : World) (left right : Int64) :
    world.strictEquals (.int left) (.int right) = true ↔
      nearest .double left.toInt = nearest .double right.toInt := by
  have compared : world.strictEquals (.int left) (.int right) =
      (Binary.ofInt .double left.toInt).equals (.ofInt .double right.toInt) :=
    World.strictEquals_of_numbers rfl rfl
  rw [compared]
  exact Binary.equals_ofInt_iff (Binary.isFinite_ofInt_toInt left)
    (Binary.isFinite_ofInt_toInt right)

/-- On integers of script strict equality is exact as long as one of them is below two to the power
of 53 in size, and beyond that as exact as rounding to 53 digits; and it is an equivalence on values
that are not a NaN, whatever proxies among them hold. -/
theorem strict_equality_rounds_integers (world : World) :
    (∀ left right : Int64, world.strictEquals (.int left) (.int right) = true ↔
      left = right ∨ 2 ^ 53 ≤ left.toInt.natAbs ∧ 2 ^ 53 ≤ right.toInt.natAbs ∧
        nearest .double left.toInt = nearest .double right.toInt) ∧
    Equivalence fun left right : { value : Script.Value // value.IsProper } =>
      world.strictEquals left right = true := by
  refine ⟨fun left right => ?_, ?_, World.strictEquals_symm, World.strictEquals_trans⟩
  · rw [strictEquals_int_iff]
    constructor
    · intro same
      by_cases short : left.toInt.natAbs < 2 ^ 53
      · exact .inl (Int64.toInt_inj.mp (eq_of_nearest_eq short same))
      · by_cases shortOther : right.toInt.natAbs < 2 ^ 53
        · exact .inl (Int64.toInt_inj.mp (eq_of_nearest_eq shortOther same.symm).symm)
        · exact .inr ⟨Nat.le_of_not_lt short, Nat.le_of_not_lt shortOther, same⟩
    · rintro (rfl | ⟨-, -, same⟩)
      · rfl
      · exact same
  · exact fun value => Bridge.strictEquals_self value.2 world

/-- The first integer that is rounded to another one. -/
theorem successive_integers_may_be_equal :
    ¬ ((default : World).strictEquals (.int 9007199254740992) (.int 9007199254740993) = true ↔
      (9007199254740992 : Int64) = 9007199254740993) := by
  decide +kernel

end ScriptBridge

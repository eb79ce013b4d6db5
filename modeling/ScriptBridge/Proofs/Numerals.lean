/-
This file says what becomes of an integer that is written out. A numeral is decimal
digits after a sign or none, and blanks around it do not matter; every integer has one.
It is read as a binary number, so what a coercion finds in it is the nearest integer
of 53 digits, which is taken exactly. That is the integer itself for kinds of up to 32
bits, and for the wider ones as long as the integer is of no more than 53 digits.
-/

import ScriptBridge.Proofs.Exactness
import ScriptBridge.Proofs.Rounding
import ScriptBridge.Proofs.Texts

namespace ScriptBridge

open Run Bridge Binding Conversion Host Number

/-! ### Digits -/

namespace Number

variable {text digits : List Char} {value : Int}

theorem bounds_of_isDigit {c : Char} (digit : c.isDigit = true) : 48 ≤ c.toNat ∧ c.toNat ≤ 57 :=
  Char.isDigit_iff_toNat.mp digit

theorem isBlank_of_isDigit {c : Char} (digit : c.isDigit = true) : Text.isBlank c = false := by
  obtain ⟨least, greatest⟩ := bounds_of_isDigit digit
  unfold Text.isBlank
  dsimp only
  generalize c.toNat = code at least greatest
  simp only [Bool.or_eq_false_iff, Bool.and_eq_false_iff, decide_eq_false_iff_not,
    beq_eq_false_iff_ne]
  omega

theorem toLower_of_isDigit {c : Char} (digit : c.isDigit = true) : c.toLower = c := by
  have greatest : c.val ≤ 57 := (bounds_of_isDigit digit).2
  unfold Char.toLower
  rw [dif_neg fun upper => absurd (UInt32.le_trans upper.1 greatest) (by decide)]

theorem readScientific?_of_digits (some_ : digits ≠ [])
    (decimal : ∀ c ∈ digits, c.isDigit = true) :
    readScientific? digits = some ⟨digitsValue digits, 0⟩ := by
  have taken : (digits ++ []).takeWhile Char.isDigit = digits ++ [].takeWhile Char.isDigit :=
    List.takeWhile_append_of_pos decimal
  have dropped : (digits ++ []).dropWhile Char.isDigit = [].dropWhile Char.isDigit :=
    List.dropWhile_append_of_pos decimal
  rw [List.takeWhile_nil, List.append_nil] at taken
  rw [List.dropWhile_nil, List.append_nil] at dropped
  have filled : digits.isEmpty = false := List.isEmpty_eq_false_iff.mpr some_
  unfold readScientific?
  dsimp only
  rw [taken, dropped]
  dsimp only
  rw [filled, Bool.false_and, if_neg Bool.false_ne_true, List.append_nil]
  rfl

/-! ### Numerals -/

/-- An integer of a sign and a size. -/
def signed (negative : Bool) (size : Nat) : Int := if negative then -(size : Int) else size

theorem natAbs_signed (negative : Bool) (size : Nat) : (signed negative size).natAbs = size := by
  cases negative with
  | true => exact Int.natAbs_neg size
  | false => exact Int.natAbs_natCast size

theorem signed_neg_iff {negative : Bool} {size : Nat} (nonzero : size ≠ 0) :
    signed negative size < 0 ↔ negative = true := by
  unfold signed
  split
  next minus => exact ⟨fun _ => minus, fun _ => by omega⟩
  next plus => exact ⟨fun below => by omega, fun minus => absurd minus plus⟩

/-- Is the text the integer in decimal digits, after a sign or none? -/
theorem readInteger?_eq_some_iff : readInteger? text = some value ↔
    (splitSign text).2 ≠ [] ∧ (∀ c ∈ (splitSign text).2, c.isDigit = true) ∧
      value = signed (splitSign text).1 (digitsValue (splitSign text).2) := by
  unfold readInteger? signed
  dsimp only
  rw [Option.ite_none_left_eq_some, Bool.or_eq_true, not_or, List.isEmpty_iff, Bool.not_eq_true',
    Bool.not_eq_false, List.all_eq_true, Option.some.injEq, and_assoc, eq_comm (a := value)]

theorem mem_splitSign {c : Char} (member : c ∈ text) :
    c = '-' ∨ c = '+' ∨ c ∈ (splitSign text).2 := by
  unfold splitSign
  split
  · exact (List.mem_cons.mp member).imp_right .inr
  · exact .inr (List.mem_cons.mp member)
  · exact .inr (.inr member)

theorem splitSign_of_digits (decimal : ∀ c ∈ digits, c.isDigit = true) :
    splitSign digits = (false, digits) := by
  unfold splitSign
  split
  · exact absurd (decimal '-' List.mem_cons_self) (by decide)
  · exact absurd (decimal '+' List.mem_cons_self) (by decide)
  · rfl

theorem digitsValue_toDigits (size : Nat) : digitsValue (Nat.toDigits 10 size) = size := by
  refine Eq.trans ?_ (Nat.ofDigitChars_toDigits (b := 10) (by decide) (by decide))
  rw [Nat.ofDigitChars_eq_foldl]
  rfl

/-- Is the text the integer in decimal digits, after a sign or none, with blanks around it or
none? -/
def Denotes (text : List Char) (value : Int) : Prop :=
  ∃ before numeral after, text = before ++ (numeral ++ after) ∧
    (∀ c ∈ before, Text.isBlank c = true) ∧ (∀ c ∈ after, Text.isBlank c = true) ∧
      readInteger? numeral = some value

/-- Every integer has a numeral. -/
theorem denotes_toString (value : Int) : Denotes (toString value).toList value := by
  refine ⟨[], (toString value).toList, [], ?_, List.forall_mem_nil _, List.forall_mem_nil _, ?_⟩
  · rw [List.nil_append, List.append_nil]
  have decimal (size : Nat) : ∀ c ∈ Nat.toDigits 10 size, c.isDigit = true :=
    fun c => Nat.isDigit_of_mem_toDigits (by decide) (by decide)
  rw [readInteger?_eq_some_iff]
  cases value with
  | ofNat size =>
    have written : (toString (Int.ofNat size)).toList = Nat.toDigits 10 size := by
      show size.repr.toList = _
      rw [Nat.repr_eq_ofList_toDigits, String.toList_ofList]
    rw [written, splitSign_of_digits (decimal size), digitsValue_toDigits]
    exact ⟨Nat.toDigits_ne_nil, decimal size, rfl⟩
  | negSucc size =>
    have written : (toString (Int.negSucc size)).toList = '-' :: Nat.toDigits 10 (size + 1) := by
      show ("-" ++ (size + 1).repr).toList = _
      rw [Nat.repr_eq_ofList_toDigits, String.toList_append]
      exact congrArg ('-' :: ·) String.toList_ofList
    have split : splitSign ('-' :: Nat.toDigits 10 (size + 1)) =
        (true, Nat.toDigits 10 (size + 1)) := rfl
    rw [written, split, digitsValue_toDigits]
    exact ⟨Nat.toDigits_ne_nil, decimal (size + 1), rfl⟩

/-- Without the blanks, there is the numeral. -/
theorem Denotes.readInteger? (denotes : Denotes text value) :
    readInteger? (Text.trim text) = some value := by
  obtain ⟨before, numeral, after, rfl, leading, trailing, reads⟩ := denotes
  obtain ⟨some_, decimal, -⟩ := readInteger?_eq_some_iff.mp reads
  have nonempty : numeral ≠ [] := by
    rintro rfl
    exact some_ rfl
  rw [Text.trim_surrounded nonempty leading trailing fun c member => ?_]
  · exact reads
  · rcases mem_splitSign member with rfl | rfl | digit
    · rfl
    · rfl
    · exact isBlank_of_isDigit (decimal c digit)

/-! ### Numerals read as binary numbers -/

/-- Is the number what a binary number can be for an integer? It loses nothing beyond rounding
unless it is infinite, and then the integer is beyond 64 bits. -/
inductive Approximates (number : Double) (value : Int) : Prop
  | nearest : number.isFinite = true → number.truncate = nearest .double value →
      Approximates number value
  | infinite : number.isFinite = false → 2 ^ 64 ≤ value.natAbs → Approximates number value

theorem approximates_ofInt (value : Int) : Approximates (.ofInt .double value) value := by
  cases finite : (Binary.ofInt Format.double value).isFinite with
  | true => exact .nearest finite (Binary.truncate_ofInt finite)
  | false =>
    refine .infinite finite (Nat.le_of_not_lt fun below => ?_)
    rw [Binary.isFinite_ofInt (by decide) below] at finite
    cases finite

/-- Digits are read as the number that their integer is rounded to, but for the sign of zero and the
digits after the four hundredth. -/
theorem approximates_toBinary (negative : Bool) (size : Nat) :
    Approximates (Scientific.toBinary .double negative ⟨size, 0⟩) (signed negative size) := by
  unfold Scientific.toBinary
  dsimp only
  rw [Int.add_zero]
  split
  next zero =>
    obtain rfl := beq_iff_eq.mp zero
    cases negative <;> exact .nearest (by decide +kernel) (by decide +kernel)
  next nonzero =>
    replace nonzero := mt beq_iff_eq.mpr nonzero
    split
    next long =>
      refine .infinite (decide_eq_false (Nat.lt_irrefl _)) ?_
      rw [natAbs_signed]
      have many : ¬(Nat.toDigits 10 size).length ≤ 20 := by omega
      rw [Nat.length_toDigits_le_iff (by decide) (by decide)] at many
      omega
    next =>
      rw [if_neg (by omega)]
      show Approximates (Binary.ofQuotient .double negative (size * 10 ^ 0) 1) _
      have same : Binary.ofQuotient .double negative (size * 10 ^ 0) 1 =
          .ofInt .double (signed negative size) := by
        have sign : decide (signed negative size < 0) = negative :=
          Bool.eq_iff_iff.mpr (decide_eq_true_iff.trans (signed_neg_iff nonzero))
        unfold Binary.ofInt
        rw [natAbs_signed, Nat.pow_zero, Nat.mul_one, sign]
      rw [same]
      exact approximates_ofInt _

theorem readDouble?_of_readInteger? (reads : readInteger? text = some value) :
    ∃ number, readDouble? text = some number ∧ Approximates number value := by
  obtain ⟨some_, decimal, rfl⟩ := readInteger?_eq_some_iff.mp reads
  refine ⟨_, ?_, approximates_toBinary _ _⟩
  unfold readDouble?
  generalize splitSign text = split at some_ decimal
  obtain ⟨negative, digits⟩ := split
  dsimp only at some_ decimal ⊢
  have lower : digits.map Char.toLower = digits :=
    (List.map_congr_left fun c member => toLower_of_isDigit (decimal c member)).trans
      (List.map_id digits)
  have unnamed (name : List Char) (letter : ∃ c ∈ name, c.isDigit = false) :
      (digits == name) = false := by
    refine beq_eq_false_iff_ne.mpr ?_
    rintro rfl
    obtain ⟨c, member, other⟩ := letter
    rw [decimal c member] at other
    cases other
  rw [lower, unnamed "inf".toList ⟨'i', by decide, by decide⟩,
    unnamed "infinity".toList ⟨'i', by decide, by decide⟩,
    unnamed "nan".toList ⟨'n', by decide, by decide⟩, readScientific?_of_digits some_ decimal]
  rfl

end Number

/-! ### Numerals coerced to a kind -/

section

variable {kind : Kind} {text : String} {value : Int} {world : World} {engine : EngineId}

/-- What a kind holds is of no more digits than the kind is wide. -/
theorem natAbs_lt_of_contains (held : kind.contains value = true) :
    value.natAbs < 2 ^ kind.bits := by
  unfold Kind.contains Kind.range? at held
  cases kind <;> simp [Kind.isIntegral, Kind.isSigned, Kind.bits] at held ⊢ <;> omega

/-- Rounding takes nothing into a narrow kind, and nothing out of it. -/
theorem nearest_of_contains (narrow : kind.bits ≤ 32)
    (held : kind.contains value = true ∨ kind.contains (nearest .double value) = true) :
    nearest .double value = value := by
  have few : 2 ^ kind.bits ≤ 2 ^ 32 := Nat.pow_le_pow_right Nat.two_pos narrow
  rcases held with held | held
  · have bounded := natAbs_lt_of_contains held
    exact nearest_of_le (show _ ≤ 2 ^ 53 by omega)
  · have bounded := natAbs_lt_of_contains held
    exact nearest_eq_of_lt (show _ < 2 ^ 53 by omega)

/-- What a narrow kind does not hold stays outside when it is rounded. -/
theorem contains_nearest (narrow : kind.bits ≤ 32) :
    kind.contains (nearest .double value) = kind.contains value := by
  rw [Bool.eq_iff_iff]
  constructor
  · intro held
    rwa [nearest_of_contains narrow (.inr held)] at held
  · intro held
    rwa [nearest_of_contains narrow (.inl held)]

theorem isExact_of_approximates (integral : kind.isIntegral = true) {number : Double}
    (approximates : Approximates number value) :
    IsExact kind (nearest .double value) (ofDoubleTruncating number kind) := by
  cases approximates with
  | nearest finite truncate =>
    rw [← truncate]
    exact ofDoubleTruncating_isExact integral finite
  | infinite infinite beyond =>
    have overflow : ofDoubleTruncating number kind = .error (outside number.toText kind) := by
      unfold ofDoubleTruncating
      rw [integral, infinite]
      rfl
    refine ⟨fun held => ?_, fun _ => ⟨_, overflow⟩⟩
    have bounded := natAbs_lt_of_contains held
    have reached : 2 ^ 64 ≤ (nearest .double value).natAbs := by
      rw [natAbs_nearest]
      exact two_pow_le_nearestSize beyond
    have wide : 2 ^ kind.bits ≤ 2 ^ 64 :=
      Nat.pow_le_pow_right Nat.two_pos (by cases kind <;> first | decide | cases integral)
    omega

/-- A coercion finds the nearest integer in a numeral. -/
theorem outcome_coerce_numeral (engine : EngineId) (world : World)
    (integral : kind.isIntegral = true) (denotes : Denotes text.toList value) :
    ∃ converting, IsExact kind (nearest .double value) converting ∧
      (coerce engine (.string text) kind).outcome world = ((match converting with
        | .ok number => .ok number
        | .error error => .error (.raised (.argumentConversion error))), world) := by
  obtain ⟨number, reads, approximates⟩ := readDouble?_of_readInteger? denotes.readInteger?
  refine ⟨_, isExact_of_approximates integral approximates, ?_⟩
  unfold coerce
  dsimp only
  rw [reads]
  exact outcome_coerced (.string text) kind _ world

end

/-- An integral kind takes from a numeral the integer nearest to it among those of 53 digits, where
it holds that one, and anything else is an overflow. So the integer itself is taken, or is an
overflow, for kinds of no more than 32 bits and for integers of no more than 53 digits. -/
theorem numerals_are_coerced_as_nearest (world : World) (calls : Calls) (engine : EngineId)
    {kind : Kind} (integral : kind.isIntegral = true) {text : String} {value : Int}
    (denotes : Denotes text.toList value) (rest : List Script.Value) :
    let helper := runHelper calls engine (.number kind) (.string text :: rest)
    (BoxesExactly helper engine world kind kind.name (nearest .double value)
      fun held => .integer ⟨kind, nearest .double value, held⟩) ∧
    (kind.bits ≤ 32 ∨ value.natAbs ≤ 2 ^ 53 →
      BoxesExactly helper engine world kind kind.name value
        fun held => .integer ⟨kind, value, held⟩) := by
  intro helper
  have boxes : BoxesExactly helper engine world kind kind.name (nearest .double value)
      fun held => .integer ⟨kind, nearest .double value, held⟩ :=
    boxesExactly_of_coerced calls (outcome_coerce_numeral engine world integral denotes) rest
  refine ⟨boxes, fun close => ?_⟩
  have unchanged (held : kind.contains value = true) : nearest .double value = value :=
    close.elim (nearest_of_contains · (.inl held)) (nearest_of_le ·)
  have alike : kind.contains (nearest .double value) = kind.contains value :=
    close.elim contains_nearest fun short => by rw [nearest_of_le (show _ ≤ 2 ^ 53 from short)]
  constructor
  · intro held
    have boxed := boxes.inside (alike.trans held)
    simp only [unchanged held] at boxed
    exact boxed
  · exact fun beyond => boxes.outside (alike.trans beyond)

/-- The greatest integer of the narrowest signed kind is taken from its numeral, blanks and sign
included. -/
theorem numerals_are_coerced_as_nearest_int8 :
    let world : World := { engines := #[Engine.new "main" {} none] }
    Kind.int8.isIntegral = true ∧ Denotes "\t+127 ".toList 127 ∧
      ∃ cell after, (runHelper .exhausted 0 (.number .int8) [.string "\t+127 "]).outcome world =
        (.ok (.proxy cell), after) ∧
          after.targetOf cell = .ok (.integer ⟨.int8, 127, by decide⟩) := by
  intro world
  have denotes : Denotes "\t+127 ".toList 127 :=
    ⟨['\t'], ['+', '1', '2', '7'], [' '], by decide, List.forall_mem_singleton.mpr rfl,
      List.forall_mem_singleton.mpr rfl, by decide⟩
  have integral : Kind.int8.isIntegral = true := rfl
  have taken := (numerals_are_coerced_as_nearest world .exhausted 0 integral denotes []).2
    (.inl (by decide))
  have room : world.HasRoom 0 := ⟨rfl, rfl⟩
  exact ⟨integral, denotes, (taken.inside rfl).resolve_right fun refused => refused.1 room⟩

/-- A numeral of more digits is taken as another integer, although the kind holds its own. -/
theorem long_numeral_is_rounded :
    let world : World := { engines := #[Engine.new "main" {} none] }
    Denotes "9007199254740993".toList 9007199254740993 ∧
    ¬ BoxesExactly (runHelper .exhausted 0 (.number .int64) [.string "9007199254740993"]) 0 world
      .int64 "Int64" 9007199254740993 fun held => .integer ⟨.int64, 9007199254740993, held⟩ := by
  intro world
  have denotes : Denotes "9007199254740993".toList 9007199254740993 :=
    ⟨[], "9007199254740993".toList, [], by decide, List.forall_mem_nil _,
      List.forall_mem_nil _, by decide⟩
  have rounded : nearest .double 9007199254740993 = 9007199254740992 := by decide +kernel
  have room : world.HasRoom 0 := ⟨rfl, rfl⟩
  have integral : Kind.int64.isIntegral = true := rfl
  have boxes := boxesExactly_of_coerced .exhausted
    (outcome_coerce_numeral 0 world integral denotes) []
  refine ⟨denotes, fun claimed => ?_⟩
  obtain ⟨cell, after, made, target⟩ := (boxes.inside (by rw [rounded]; decide)).resolve_right
    fun refused => refused.1 room
  obtain ⟨other, afterOther, madeOther, targetOther⟩ :=
    (claimed.inside (by decide)).resolve_right fun refused => refused.1 room
  cases made.symm.trans madeOther
  have same := target.symm.trans targetOther
  simp only [rounded, Except.ok.injEq, Value.integer.injEq, Integer.mk.injEq] at same
  exact absurd same.2 (by decide)

end ScriptBridge

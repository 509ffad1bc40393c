import Turtle.Drawing.Primitive

/-!
# Primitives and their calls

What a primitive makes of its arguments.  If they are as many as it takes, and a number where it
takes one, it makes calls, all of which are finite; and otherwise it says what is wrong and makes
none.
-/

set_option autoImplicit false

namespace Turtle

namespace Number

open Float.Model (Format)
open Float.Model.UnpackedFloat (Sign pack unpack unpackExponent unpackMantissa packComponents
  unpackExponent_packComponents)

/-- The exponent field of a double, which is full for an infinity and for what is no number. -/
def exponentField (x : Float) : BitVec 11 :=
  @unpackExponent .binary64 x.toBits.toBitVec

theorem isFinite_iff (x : Float) : isFinite x = true ↔ exponentField x ≠ -1#11 := by
  have field_eq : (exponentField x).toNat = x.toBits.toNat / 2 ^ 52 % 2 ^ 11 := by
    rw [exponentField, unpackExponent, BitVec.toNat_cast, BitVec.extractLsb_toNat,
      Nat.shiftRight_eq_div_pow]
    rfl
  rw [ne_eq, ← BitVec.toNat_inj, field_eq]
  exact bne_iff_ne

/-- A number whose exponent falls short of the full one is packed with one that still does. -/
theorem unpackExponent_pack_finite (sign : Sign) {mantissa : Nat} {exponent : Int}
    (positive : 0 < mantissa) (short : exponent + 1075 < 2047) :
    unpackExponent (pack .binary64 (.finite sign mantissa exponent positive)) ≠ -1#11 := by
  have biased : (exponent + (1023 : Nat) + (52 : Nat)).toNat < 2047 := by omega
  have packed : pack .binary64 (.finite sign mantissa exponent positive) =
      if mantissa.log2 + 1 = 53 then
        packComponents .binary64 sign (.ofNat 11 (exponent + (1023 : Nat) + (52 : Nat)).toNat)
          (.ofNat 52 mantissa)
      else packComponents .binary64 sign 0#11 (.ofNat 52 mantissa) :=
    if_neg (show ¬2 ^ 11 ≤ (exponent + (1023 : Nat) + (52 : Nat)).toNat + 1 by omega)
  rw [packed]
  split <;> rw [unpackExponent_packComponents]
  · intro full
    have := congrArg BitVec.toNat full
    change _ % 2 ^ 11 = 2047 at this
    omega
  · decide

variable {bits : BitVec Format.binary64.numBits}

theorem unpack_of_full (full : unpackExponent bits = -1#11) :
    (∃ sign, unpack .binary64 bits = .infinity sign) ∨ unpack .binary64 bits = .notANumber := by
  by_cases exact : unpackMantissa bits = 0#52
  · exact Or.inl ⟨_, (if_pos full).trans (if_pos exact)⟩
  · exact Or.inr ((if_pos full).trans (if_neg exact))

theorem unpack_of_short (short : unpackExponent bits ≠ -1#11) :
    (∃ sign, unpack .binary64 bits = .zero sign) ∨
      ∃ sign mantissa exponent positive,
        unpack .binary64 bits = .finite sign mantissa exponent positive ∧
          exponent + 1075 < 2047 := by
  have bounded : (unpackExponent bits).toNat < 2 ^ 11 := (unpackExponent bits).isLt
  have unequal : (unpackExponent bits).toNat ≠ 2047 :=
    fun same => short (BitVec.eq_of_toNat_eq same)
  by_cases none : unpackExponent bits = 0#11
  · by_cases exact : unpackMantissa bits = 0#52
    · exact Or.inl ⟨_, (if_neg short).trans ((if_pos none).trans (dif_pos exact))⟩
    · refine Or.inr ⟨_, _, _, _, (if_neg short).trans ((if_pos none).trans (dif_neg exact)), ?_⟩
      rw [none]
      decide
  · refine Or.inr ⟨_, _, _, _, (if_neg short).trans (if_neg none), ?_⟩
    change ((unpackExponent bits).toNat : Int) - ((1023 : Nat) + (52 : Nat)) + 1075 < 2047
    omega

/-- The sign has no part in whether the exponent is full. -/
theorem unpackExponent_pack_neg :
    unpackExponent (pack .binary64 (unpack .binary64 bits).neg) = -1#11 ↔
      unpackExponent bits = -1#11 := by
  by_cases full : unpackExponent bits = -1#11
  · refine iff_of_true ?_ full
    rcases unpack_of_full full with ⟨sign, unpacked⟩ | unpacked <;> rw [unpacked] <;>
      exact unpackExponent_packComponents
  · refine iff_of_false ?_ full
    rcases unpack_of_short full with ⟨sign, unpacked⟩ |
      ⟨sign, mantissa, exponent, positive, unpacked, short⟩ <;> rw [unpacked]
    · change unpackExponent (packComponents .binary64 (-sign) 0#11 0#52) ≠ _
      rw [unpackExponent_packComponents]
      decide
    · exact unpackExponent_pack_finite _ positive short

theorem exponentField_neg (x : Float) : exponentField (-x) = -1#11 ↔ exponentField x = -1#11 :=
  unpackExponent_pack_neg

theorem isFinite_neg (x : Float) : isFinite (-x) = isFinite x := by
  rw [Bool.eq_iff_iff, isFinite_iff, isFinite_iff, ne_eq, exponentField_neg]

/-- A token denotes a number that is finite. -/
structure Denotes (token : String) (value : Float) : Prop where
  reads : readReal token = some value
  finite : isFinite value = true

end Number

/-- The number that a call hands over is finite, if there is one. -/
def Call.isFinite : Call → Bool
  | .forward distance => Number.isFinite distance
  | .turn degrees => Number.isFinite degrees
  | .penUp | .penDown | .clear => true

namespace Primitive

/-- With these arguments a primitive makes these calls. -/
inductive Performs : Primitive → List String → List Call → Prop where
  | forward {token : String} {value : Float} : Number.Denotes token value →
    Performs .forward [token] [.forward value]
  | back {token : String} {value : Float} : Number.Denotes token value →
    Performs .back [token] [.turn 180.0, .forward value, .turn 180.0]
  | right {token : String} {value : Float} : Number.Denotes token value →
    Performs .right [token] [.turn value]
  | left {token : String} {value : Float} : Number.Denotes token value →
    Performs .left [token] [.turn (-value)]
  | penUp : Performs .penUp [] [.penUp]
  | penDown : Performs .penDown [] [.penDown]
  | clear : Performs .clear [] [.clear]

/-- What is wrong with some arguments of a primitive. -/
inductive Refuses (primitive : Primitive) : List String → FaultCause → Prop where
  | tooFew {args : List String} : args.length < primitive.arity →
    Refuses primitive args (.tooFewArguments primitive.name primitive.arity)
  | tooMany {args : List String} : primitive.arity < args.length →
    Refuses primitive args (.tooManyArguments primitive.name primitive.arity)
  | notNumber {token : String} : primitive.arity = 1 → Number.readReal token = none →
    Refuses primitive [token] (.notNumber primitive.name token)
  | notFinite {token : String} {value : Float} : primitive.arity = 1 →
    Number.readReal token = some value → Number.isFinite value = false →
    Refuses primitive [token] (.notFinite primitive.name token)

variable {primitive : Primitive} {args : List String} {calls : List Call} {cause : FaultCause}

theorem Refuses.kind (refuses : primitive.Refuses args cause) :
    cause.kind = .arityMismatch ∨ cause.kind = .invalidArgument := by
  cases refuses with
  | tooFew | tooMany => exact Or.inl rfl
  | notNumber | notFinite => exact Or.inr rfl

theorem Performs.isFinite (performs : primitive.Performs args calls) :
    ∀ call ∈ calls, call.isFinite = true := by
  have half : Number.isFinite 180.0 = true := by decide +kernel
  cases performs with
  | forward denotes => simpa [Call.isFinite] using denotes.finite
  | back denotes => simpa [Call.isFinite, half] using denotes.finite
  | right denotes => simpa [Call.isFinite] using denotes.finite
  | left denotes => simpa [Call.isFinite, Number.isFinite_neg] using denotes.finite
  | penUp | penDown | clear => simp [Call.isFinite]

/-- With a name for each of its words, a primitive is found by its own name. -/
theorem ofWord?_name (primitive : Primitive) : ofWord? primitive.name = some primitive := by
  cases primitive <;> decide

theorem calls_of_denotes {token : String} {value : Float} (takes : primitive.arity = 1)
    (denotes : Number.Denotes token value) :
    primitive.calls [token] = .ok (primitive.callsFor value) := by
  simp [calls, checkArity, number, takes, denotes.reads, denotes.finite, bind, Except.bind, pure,
    Except.pure]

theorem calls_of_refuses (refuses : primitive.Refuses args cause) :
    primitive.calls args = .error cause := by
  cases refuses with
  | tooFew less => simp [calls, checkArity, less, bind, Except.bind]
  | tooMany more => simp [calls, checkArity, more, Nat.lt_asymm more, bind, Except.bind]
  | notNumber takes unread =>
    simp [calls, checkArity, number, takes, unread, bind, Except.bind]
  | notFinite takes reads infinite =>
    simp [calls, checkArity, number, takes, reads, infinite, bind, Except.bind]

theorem calls_of_performs (performs : primitive.Performs args calls) :
    primitive.calls args = .ok calls := by
  cases performs with
  | forward denotes | back denotes | right denotes | left denotes =>
    exact calls_of_denotes rfl denotes
  | penUp | penDown | clear => rfl

/-- A primitive that takes a number performs with one. -/
theorem performs_of_denotes {token : String} {value : Float} (takes : primitive.arity = 1)
    (denotes : Number.Denotes token value) :
    primitive.Performs [token] (primitive.callsFor value) := by
  cases primitive with
  | forward => exact .forward denotes
  | back => exact .back denotes
  | right => exact .right denotes
  | left => exact .left denotes
  | penUp | penDown | clear => contradiction

/-- Some arguments are refused, or there are calls to be made with them. -/
theorem refuses_or_performs (primitive : Primitive) (args : List String) :
    (∃ cause, primitive.Refuses args cause) ∨ ∃ calls, primitive.Performs args calls := by
  rcases Nat.lt_trichotomy args.length primitive.arity with less | same | more
  · exact Or.inl ⟨_, .tooFew less⟩
  · match args, same with
    | [], same =>
      right
      cases primitive with
      | penUp => exact ⟨_, .penUp⟩
      | penDown => exact ⟨_, .penDown⟩
      | clear => exact ⟨_, .clear⟩
      | _ => contradiction
    | [token], same =>
      cases reads : Number.readReal token with
      | none => exact Or.inl ⟨_, .notNumber same.symm reads⟩
      | some value =>
        cases finite : Number.isFinite value with
        | false => exact Or.inl ⟨_, .notFinite same.symm reads finite⟩
        | true => exact Or.inr ⟨_, performs_of_denotes same.symm ⟨reads, finite⟩⟩
    | token :: other :: rest, same => cases primitive <;> simp [arity] at same
  · exact Or.inl ⟨_, .tooMany more⟩

theorem calls_eq_ok_iff : primitive.calls args = .ok calls ↔ primitive.Performs args calls := by
  refine ⟨fun fit => ?_, calls_of_performs⟩
  rcases primitive.refuses_or_performs args with ⟨cause, refuses⟩ | ⟨others, performs⟩
  · rw [calls_of_refuses refuses] at fit
    contradiction
  · rw [calls_of_performs performs] at fit
    exact Except.ok.inj fit ▸ performs

theorem calls_eq_error_iff :
    primitive.calls args = .error cause ↔ primitive.Refuses args cause := by
  refine ⟨fun unfit => ?_, calls_of_refuses⟩
  rcases primitive.refuses_or_performs args with ⟨other, refuses⟩ | ⟨calls, performs⟩
  · rw [calls_of_refuses refuses] at unfit
    exact Except.error.inj unfit ▸ refuses
  · rw [calls_of_performs performs] at unfit
    contradiction

end Primitive

end Turtle

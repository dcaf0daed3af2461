import LaunchConfig.Text.Numeral
import Mathlib.Algebra.Group.Int.Defs
import Mathlib.Algebra.Group.Nat.Defs

/-!
Integers and their decimal text: the limits of 64 bits as powers of two, the characters that a
printed integer is made of, reading what was printed, and which texts are read at all.
-/
namespace LaunchConfig.Numeral

theorem le_maxSigned_iff {n : Nat} : n ≤ maxSigned ↔ n < 2 ^ 63 := by
  unfold maxSigned
  omega

theorem cast_le_maxSigned_iff {n : Int} : n ≤ maxSigned ↔ n < 2 ^ 63 := by
  unfold maxSigned
  omega

theorem le_maxUnsigned_iff {n : Nat} : n ≤ maxUnsigned ↔ n < 2 ^ 64 := by
  unfold maxUnsigned
  omega

@[simp] theorem u64_le_maxUnsigned (n : UInt64) : n.toNat ≤ maxUnsigned :=
  le_maxUnsigned_iff.mpr n.toNat_lt

@[simp] theorem u32_le_maxUnsigned (n : UInt32) : n.toNat ≤ maxUnsigned :=
  le_maxUnsigned_iff.mpr (Nat.lt_trans n.toNat_lt (by decide))

@[simp] theorem u16_le_maxUnsigned (n : UInt16) : n.toNat ≤ maxUnsigned :=
  le_maxUnsigned_iff.mpr (Nat.lt_trans n.toNat_lt (by decide))

theorem head?_toDigits {n : Nat} (positive : 0 < n) : (Nat.toDigits 10 n).head? ≠ some '0' := by
  induction n using Nat.strongRecOn with
  | _ n ih =>
    rcases Nat.lt_or_ge n 10 with small | large
    · rw [Nat.toDigits_of_lt_base small]
      simp [Nat.pos_iff_ne_zero.mp positive]
    · have higher := ih (n / 10) (by omega) (by omega)
      rw [Nat.toDigits_of_base_le (by decide) large, List.head?_append]
      cases starts : (Nat.toDigits 10 (n / 10)).head? with
      | none => exact absurd (List.head?_eq_none_iff.mp starts) Nat.toDigits_ne_nil
      | some c => rwa [starts] at higher

theorem no_leading_zero (n : Nat) :
    ¬ (1 < (Nat.toDigits 10 n).length ∧ (Nat.toDigits 10 n).head? = some '0') := by
  rintro ⟨long, zero⟩
  rcases Nat.eq_zero_or_pos n with rfl | positive
  · exact absurd long (by decide)
  · exact head?_toDigits positive zero

theorem isDigit_of_toDigits {n : Nat} : ∀ c ∈ Nat.toDigits 10 n, c.isDigit = true :=
  fun _ member => Nat.isDigit_of_mem_toDigits (by decide) (by decide) member

theorem toDigits_cons (n : Nat) : ∃ c rest, Nat.toDigits 10 n = c :: rest ∧ c.isDigit = true := by
  cases written : Nat.toDigits 10 n with
  | nil => exact absurd written Nat.toDigits_ne_nil
  | cons c rest => exact ⟨c, rest, rfl, isDigit_of_toDigits c (written ▸ List.mem_cons_self)⟩

/-- The first character of an integer is a digit or a sign. -/
theorem decimal_cons (n : Int) : ∃ c tail, decimal n = c :: tail ∧ (c = '-' ∨ c.isDigit = true) := by
  unfold decimal
  split
  · exact ⟨_, _, rfl, Or.inl rfl⟩
  · obtain ⟨c, tail, written, digit⟩ := toDigits_cons n.natAbs
    exact ⟨c, tail, written, Or.inr digit⟩

theorem le_ofDigitChars (cs : List Char) (value : Nat) : value ≤ Nat.ofDigitChars 10 cs value := by
  induction cs generalizing value with
  | nil => simp
  | cons c rest ih =>
    rw [Nat.ofDigitChars_cons]
    apply Nat.le_trans _ (ih _)
    omega

/-- Digits of a number within the limit are read to their end. -/
theorem magnitude_of_le {limit : Nat} {beyond : NumeralFault} {cs : List Char} {value : Nat}
    (digits : ∀ c ∈ cs, c.isDigit = true) (within : Nat.ofDigitChars 10 cs value ≤ limit) :
    magnitude limit beyond value cs = .ok (Nat.ofDigitChars 10 cs value) := by
  induction cs generalizing value with
  | nil => rfl
  | cons c rest ih =>
    have next : Nat.ofDigitChars 10 (c :: rest) value =
        Nat.ofDigitChars 10 rest (value * 10 + digitValue c) := by
      rw [Nat.ofDigitChars_cons, Nat.mul_comm]
      rfl
    rw [next] at within ⊢
    have small := Nat.le_trans (le_ofDigitChars rest (value * 10 + digitValue c)) within
    rw [magnitude, if_pos (digits c List.mem_cons_self), if_pos small]
    exact ih (fun other member => digits other (List.mem_cons_of_mem c member)) within

/-- Decimal digits, at least one, that write a number. Zeros may stand in front of the others. -/
structure Writes (cs : List Char) (n : Nat) : Prop where
  nonempty : cs ≠ []
  digits : ∀ c ∈ cs, '0' ≤ c ∧ c ≤ '9'
  value : Nat.ofDigitChars 10 cs 0 = n

theorem isDigit_iff {c : Char} : c.isDigit = true ↔ '0' ≤ c ∧ c ≤ '9' := by
  simp [Char.isDigit, Char.le_def]

-- The limit is tested after each digit, and a value never gets smaller on the way.
theorem magnitude_eq_ok_iff {limit : Nat} {beyond : NumeralFault} {cs : List Char} {value n : Nat}
    (within : value ≤ limit) : magnitude limit beyond value cs = .ok n ↔
      (∀ c ∈ cs, '0' ≤ c ∧ c ≤ '9') ∧ Nat.ofDigitChars 10 cs value = n ∧ n ≤ limit := by
  constructor
  · intro read
    induction cs generalizing value with
    | nil =>
      cases read
      exact ⟨by simp, rfl, within⟩
    | cons c rest ih =>
      rw [magnitude] at read
      split at read
      · rename_i digit
        dsimp only at read
        split at read
        · rename_i small
          obtain ⟨digits, same, fits⟩ := ih small read
          refine ⟨List.forall_mem_cons.mpr ⟨isDigit_iff.mp digit, digits⟩, ?_, fits⟩
          rw [Nat.ofDigitChars_cons, Nat.mul_comm]
          exact same
        · cases read
      · cases read
  · rintro ⟨digits, rfl, fits⟩
    exact magnitude_of_le (fun c member => isDigit_iff.mpr (digits c member)) fits

theorem digits_eq_ok_iff {limit : Nat} {beyond : NumeralFault} {cs : List Char} {n : Nat} :
    digits limit beyond cs = .ok n ↔ Writes cs n ∧ n ≤ limit := by
  cases cs with
  | nil => exact ⟨nofun, fun written => absurd rfl written.1.nonempty⟩
  | cons c rest =>
    refine (magnitude_eq_ok_iff (Nat.zero_le limit)).trans ?_
    exact ⟨fun ⟨digits, value, fits⟩ => ⟨⟨by simp, digits, value⟩, fits⟩,
      fun ⟨written, fits⟩ => ⟨written.digits, written.value, fits⟩⟩

/-- A number without a sign is read from its digits, which may follow a plus sign. -/
theorem unsigned_eq_ok_iff {limit : Nat} {cs : List Char} {n : Nat} :
    unsigned limit cs = .ok n ↔
      ∃ sign digits, cs = sign ++ digits ∧ (sign = [] ∨ sign = ['+']) ∧ Writes digits n ∧
        n ≤ limit := by
  constructor
  · intro read
    unfold unsigned at read
    split at read
    next => cases read
    next rest => exact ⟨['+'], rest, rfl, Or.inr rfl, digits_eq_ok_iff.mp read⟩
    next => exact ⟨[], cs, rfl, Or.inl rfl, digits_eq_ok_iff.mp read⟩
  · rintro ⟨_, digits, rfl, rfl | rfl, written⟩
    · rw [List.nil_append]
      unfold unsigned
      split
      next => exact absurd rfl written.1.nonempty
      next rest => exact absurd (written.1.digits '+' List.mem_cons_self) (by decide)
      next => exact digits_eq_ok_iff.mpr written
    · exact digits_eq_ok_iff.mpr written

theorem writes_toDigits (n : Nat) : Writes (Nat.toDigits 10 n) n where
  nonempty := Nat.toDigits_ne_nil
  digits c member := isDigit_iff.mp (isDigit_of_toDigits c member)
  value := Nat.ofDigitChars_ten_toDigits

theorem unsigned_toDigits {limit n : Nat} (within : n ≤ limit) :
    unsigned limit (Nat.toDigits 10 n) = .ok n :=
  unsigned_eq_ok_iff.mpr ⟨[], _, rfl, Or.inl rfl, writes_toDigits n, within⟩

/-- Digits, after a sign or not, that write an integer. -/
def WritesInteger (cs : List Char) (n : Int) : Prop :=
  ∃ sign digits size, cs = sign ++ digits ∧ Writes digits size ∧
    ((sign = [] ∨ sign = ['+']) ∧ n = size ∨ sign = ['-'] ∧ n = -size)

theorem toInt_ofInt_natCast {n : Nat} (small : n ≤ maxSigned) : (Int64.ofInt n).toInt = n := by
  unfold maxSigned at small
  apply Int64.toInt_ofInt_of_le
  · omega
  · omega

-- There is one negative integer more than there are positive ones.
theorem toInt_ofInt_neg {n : Nat} (small : n ≤ maxSigned + 1) : (Int64.ofInt (-n)).toInt = -n := by
  unfold maxSigned at small
  apply Int64.toInt_ofInt_of_le
  · omega
  · omega

theorem changed_digits_eq_ok_iff (limit : Nat) (beyond : NumeralFault) (cs : List Char)
    (change : Int → Int64) {held : Int64} :
    (digits limit beyond cs >>= fun n => pure (n : Int)).map change = .ok held ↔
      ∃ n : Nat, (Writes cs n ∧ n ≤ limit) ∧ change n = held := by
  simp only [← @digits_eq_ok_iff limit beyond]
  cases digits limit beyond cs <;> simp [bind, Except.bind, pure, Except.pure, Except.map]

/-- An integer is read from its digits and the sign before them, within the limits of 64 bits. -/
theorem signed_eq_ok_iff {cs : List Char} {n : Int64} :
    signed cs = .ok n ↔ WritesInteger cs n.toInt := by
  constructor
  · intro read
    unfold signed at read
    split at read
    next => cases read
    next rest =>
      obtain ⟨size, ⟨written, small⟩, rfl⟩ := (changed_digits_eq_ok_iff _ _ _ _).mp read
      exact ⟨['-'], rest, size, rfl, written, Or.inr ⟨rfl, toInt_ofInt_neg small⟩⟩
    next rest =>
      obtain ⟨size, ⟨written, small⟩, rfl⟩ := (changed_digits_eq_ok_iff _ _ _ _).mp read
      exact ⟨['+'], rest, size, rfl, written, Or.inl ⟨Or.inr rfl, toInt_ofInt_natCast small⟩⟩
    next =>
      obtain ⟨size, ⟨written, small⟩, rfl⟩ := (changed_digits_eq_ok_iff _ _ _ _).mp read
      exact ⟨[], cs, size, rfl, written, Or.inl ⟨Or.inl rfl, toInt_ofInt_natCast small⟩⟩
  · have low := n.le_toInt
    have high := n.toInt_lt
    rintro ⟨sign, digits, size, rfl, written, ⟨unsigned, value⟩ | ⟨rfl, value⟩⟩
    · have small : size ≤ maxSigned := le_maxSigned_iff.mpr (by omega)
      have back : Int64.ofInt size = n := by rw [← value, Int64.ofInt_toInt]
      have read := (changed_digits_eq_ok_iff _ .tooLarge _ _).mpr ⟨size, ⟨written, small⟩, back⟩
      rcases unsigned with rfl | rfl
      · rw [List.nil_append]
        unfold signed
        split
        next => exact absurd rfl written.nonempty
        next rest => exact absurd (written.digits '-' List.mem_cons_self) (by decide)
        next rest => exact absurd (written.digits '+' List.mem_cons_self) (by decide)
        next => exact read
      · exact read
    · have small : size ≤ maxSigned + 1 := by
        unfold maxSigned
        omega
      have back : Int64.ofInt (-size) = n := by rw [← value, Int64.ofInt_toInt]
      exact (changed_digits_eq_ok_iff _ .tooSmall _ fun n => Int64.ofInt (-n)).mpr
        ⟨size, ⟨written, small⟩, back⟩

/-- Reading the text of an integer gives the integer, up to both limits. -/
theorem signed_decimal (n : Int64) : signed (decimal n.toInt) = .ok n := by
  apply signed_eq_ok_iff.mpr
  unfold decimal
  split
  · exact ⟨['-'], _, _, rfl, writes_toDigits _, Or.inr ⟨rfl, by omega⟩⟩
  · exact ⟨[], _, _, rfl, writes_toDigits _, Or.inl ⟨Or.inl rfl, by omega⟩⟩

end LaunchConfig.Numeral

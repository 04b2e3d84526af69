import Mathlib.Data.Nat.Digits

/-!
# Support — the digits `fmt` prints

Go prints an integer with `%d` or `%v` in decimal and with `%X` in upper-case hexadecimal, most
significant digit first, with no leading zero except in `0` itself.  Lean's own printing of
numbers, `Nat.toDigits`, writes the same digits (in lower case), so the model prints with it.

`Nat.toDigits b n` is related here to Mathlib's `Nat.digits` (least significant digit first),
so that a reader of digits is proved to invert the printer, and the printed digits are the
only ones without a leading zero that denote `n`.

* `toDigits_eq_digits`: the digits printed for `n > 0` are `Nat.digits b n`, reversed, as
  characters.
* `foldl_toDigits`: reading them back, most significant first, gives `n`.
* `formatHex_hexValue`, `exists_zeros_formatHex_iff`: `%X` prints the one numeral of
  upper-case hexadecimal digits with no leading zero that denotes `n`, so the numerals of `n`
  with leading zeros are exactly the non-empty numerals whose value is `n`.
-/

namespace WsManager

theorem isDigit_iff_toNat {c : Char} : c.isDigit ↔ 48 ≤ c.toNat ∧ c.toNat ≤ 57 := by
  simp only [Char.isDigit, Bool.and_eq_true, decide_eq_true_eq, UInt32.le_def, BitVec.le_def]
  rfl

/-- A digit's value, `c - '0'`, is below ten. -/
theorem digit_sub_lt {c : Char} (h : c.isDigit) : c.toNat - '0'.toNat < 10 := by
  have : '0'.toNat = 48 := rfl
  have := isDigit_iff_toNat.mp h
  omega

/-- Reading digit values most significant first is `Nat.ofDigits` of the list reversed. -/
theorem foldl_reverse_eq_ofDigits (b : Nat) :
    ∀ L : List Nat, L.reverse.foldl (fun a d => a * b + d) 0 = Nat.ofDigits b L
  | [] => rfl
  | d :: L => by
    rw [List.reverse_cons, List.foldl_append, foldl_reverse_eq_ofDigits b L, Nat.ofDigits_cons]
    simp only [List.foldl_cons, List.foldl_nil]
    ring

theorem toDigitsCore_eq {b : Nat} (hb : 1 < b) :
    ∀ (f n : Nat) (acc : List Char), 0 < n → n < f →
      Nat.toDigitsCore b f n acc = (Nat.digits b n).reverse.map Nat.digitChar ++ acc
  | 0, n, _, _, hf => absurd hf (Nat.not_lt_zero n)
  | f + 1, n, acc, hn, hf => by
    have hdiv : n / b < n := Nat.div_lt_self hn hb
    rw [Nat.toDigitsCore, Nat.digits_def' hb hn]
    simp only [List.reverse_cons, List.map_append, List.map_cons, List.map_nil,
      List.append_assoc, List.singleton_append]
    split
    · rename_i h0
      rw [h0, Nat.digits_zero]
      rfl
    · rename_i h0
      exact toDigitsCore_eq hb f (n / b) _ (Nat.pos_of_ne_zero h0) (by omega)

/-- The digits printed for a positive `n` are its digits in base `b`, most significant first. -/
theorem toDigits_eq_digits {b n : Nat} (hb : 1 < b) (hn : 0 < n) :
    Nat.toDigits b n = (Nat.digits b n).reverse.map Nat.digitChar := by
  rw [Nat.toDigits, toDigitsCore_eq hb _ _ _ hn (Nat.lt_succ_self n), List.append_nil]

@[simp]
theorem toDigits_zero (b : Nat) : Nat.toDigits b 0 = ['0'] := by
  simp [Nat.toDigits, Nat.toDigitsCore, Nat.digitChar]

section
variable {b : Nat} (val : Char → Nat)

/-- Reading the printed digits back with a `val` that inverts `Nat.digitChar` below `b`
gives `n`. -/
theorem foldl_toDigits (hb : 1 < b) (hval : ∀ d < b, val (Nat.digitChar d) = d) (n : Nat) :
    (Nat.toDigits b n).foldl (fun a c => a * b + val c) 0 = n := by
  rcases Nat.eq_zero_or_pos n with rfl | hn
  · simpa using hval 0 (by omega)
  · rw [toDigits_eq_digits hb hn, List.foldl_map]
    calc (Nat.digits b n).reverse.foldl (fun a d => a * b + val (Nat.digitChar d)) 0
        = (Nat.digits b n).reverse.foldl (fun a d => a * b + d) 0 :=
          List.foldl_ext _ _ _ fun a d hd => by
            rw [hval d (Nat.digits_lt_base hb (List.mem_reverse.mp hd))]
      _ = n := by rw [foldl_reverse_eq_ofDigits, Nat.ofDigits_digits]

end

theorem toDigits_ne_nil {b : Nat} (hb : 1 < b) (n : Nat) : Nat.toDigits b n ≠ [] := by
  rcases Nat.eq_zero_or_pos n with rfl | hn
  · simp
  · simp [toDigits_eq_digits hb hn, Nat.digits_ne_nil_iff_ne_zero, hn.ne']

/-- A number below `b ^ k` has at most `k` digits in base `b`, for `0 < k`. -/
theorem length_toDigits_le {b m k : Nat} (hb : 1 < b) (hk : 0 < k) (h : m < b ^ k) :
    (Nat.toDigits b m).length ≤ k := by
  rcases Nat.eq_zero_or_pos m with rfl | hm
  · simpa using hk
  · rw [toDigits_eq_digits hb hm, List.length_map, List.length_reverse, Nat.digits_len b m hb hm.ne']
    exact Nat.log_lt_of_lt_pow hm.ne' h

/-- Every character of a decimal numeral is a digit. -/
theorem isDigit_of_mem_toDigits {n : Nat} {c : Char} (h : c ∈ Nat.toDigits 10 n) : c.isDigit := by
  have hdig : ∀ d < 10, (Nat.digitChar d).isDigit := by decide
  rcases Nat.eq_zero_or_pos n with rfl | hn
  · simp_all
  · rw [toDigits_eq_digits (by norm_num) hn, List.mem_map] at h
    obtain ⟨d, hd, rfl⟩ := h
    exact hdig d (Nat.digits_lt_base (by norm_num) (List.mem_reverse.mp hd))

/-! ### `%X` -/

/-- `fmt`'s `%X` of an unsigned integer: its hexadecimal digits, in upper case. -/
def formatHex (n : Nat) : List Char := (Nat.toDigits 16 n).map Char.toUpper

/-- The upper-case hexadecimal digits, by value. -/
def upperHexDigits : List Char := "0123456789ABCDEF".toList

/-- The value of an upper-case hexadecimal digit. -/
def hexDigitValue (c : Char) : Nat := upperHexDigits.indexOf c

/-- The value of a numeral of upper-case hexadecimal digits. -/
def hexValue (cs : List Char) : Nat := cs.foldl (fun a c => a * 16 + hexDigitValue c) 0

theorem hexValue_formatHex (n : Nat) : hexValue (formatHex n) = n := by
  rw [hexValue, formatHex, List.foldl_map]
  exact foldl_toDigits (fun c => hexDigitValue c.toUpper) (by norm_num) (by decide) n

theorem mem_upperHexDigits_of_formatHex {n : Nat} {c : Char} (h : c ∈ formatHex n) :
    c ∈ upperHexDigits := by
  have hd : ∀ d < 16, (Nat.digitChar d).toUpper ∈ upperHexDigits := by decide
  rcases Nat.eq_zero_or_pos n with rfl | hn
  · simp_all [formatHex]; decide
  · rw [formatHex, toDigits_eq_digits (by norm_num) hn, List.map_map, List.mem_map] at h
    obtain ⟨d, hd', rfl⟩ := h
    exact hd d (Nat.digits_lt_base (by norm_num) (List.mem_reverse.mp hd'))

theorem hexValue_replicate_zero (z : Nat) (cs : List Char) :
    hexValue (List.replicate z '0' ++ cs) = hexValue cs := by
  have : (List.replicate z '0').foldl (fun a c => a * 16 + hexDigitValue c) 0 = 0 := by
    induction z with
    | zero => rfl
    | succ z ih => rw [List.replicate_succ, List.foldl_cons]; exact ih
  rw [hexValue, List.foldl_append, this, hexValue]

/-- `%X` inverts the value of a numeral of upper-case hexadecimal digits with no leading zero. -/
theorem formatHex_hexValue {d : Char} {g : List Char} (hhex : ∀ c ∈ d :: g, c ∈ upperHexDigits)
    (hd : d ≠ '0') : formatHex (hexValue (d :: g)) = d :: g := by
  have hlt : ∀ x ∈ ((d :: g).map hexDigitValue).reverse, x < 16 := by
    intro x hx
    obtain ⟨c, hc, rfl⟩ := List.mem_map.mp (List.mem_reverse.mp hx)
    have h16 : ∀ c ∈ upperHexDigits, hexDigitValue c < 16 := by decide
    exact h16 c (hhex c hc)
  have hlast : ∀ h : ((d :: g).map hexDigitValue).reverse ≠ [],
      ((d :: g).map hexDigitValue).reverse.getLast h ≠ 0 := by
    intro h
    rw [List.getLast_reverse]
    have h0 : ∀ c ∈ upperHexDigits, c ≠ '0' → hexDigitValue c ≠ 0 := by decide
    exact h0 d (hhex d (List.mem_cons_self _ _)) hd
  have hdigits : Nat.digits 16 (hexValue (d :: g)) = ((d :: g).map hexDigitValue).reverse := by
    have hv : hexValue (d :: g) = Nat.ofDigits 16 ((d :: g).map hexDigitValue).reverse := by
      rw [← foldl_reverse_eq_ofDigits, List.reverse_reverse, hexValue, List.foldl_map]
    rw [hv]
    exact Nat.digits_ofDigits 16 (by norm_num) _ hlt hlast
  have hpos : 0 < hexValue (d :: g) := Nat.pos_of_ne_zero fun h => by
    rw [h, Nat.digits_zero] at hdigits; simp at hdigits
  have hinv : ∀ c ∈ upperHexDigits, (Nat.digitChar (hexDigitValue c)).toUpper = c := by decide
  rw [formatHex, toDigits_eq_digits (by norm_num) hpos, hdigits, List.reverse_reverse,
    List.map_map, List.map_map]
  exact (List.map_congr_left fun c hc => hinv c (hhex c hc)).trans (List.map_id _)

/-- The numerals of `n` with leading zeros are exactly the non-empty numerals of upper-case
hexadecimal digits whose value is `n`. -/
theorem exists_zeros_formatHex_iff (n : Nat) (f : List Char) :
    (∃ z, f = List.replicate z '0' ++ formatHex n) ↔
      f ≠ [] ∧ (∀ c ∈ f, c ∈ upperHexDigits) ∧ hexValue f = n := by
  constructor
  · rintro ⟨z, rfl⟩
    refine ⟨by simp [formatHex, toDigits_ne_nil], fun c hc => ?_, ?_⟩
    · rcases List.mem_append.mp hc with h | h
      · rw [List.eq_of_mem_replicate h]; decide
      · exact mem_upperHexDigits_of_formatHex h
    · rw [hexValue_replicate_zero, hexValue_formatHex]
  · rintro ⟨hne, hhex, rfl⟩
    have hz : f.takeWhile (· = '0') = List.replicate (f.takeWhile (· = '0')).length '0' :=
      List.eq_replicate_iff.mpr ⟨rfl, fun b hb => by simpa using List.mem_takeWhile_imp hb⟩
    have hf : f = List.replicate (f.takeWhile (· = '0')).length '0' ++ f.dropWhile (· = '0') := by
      rw [← hz, List.takeWhile_append_dropWhile]
    generalize (f.takeWhile (· = '0')).length = z at hf
    generalize hg : f.dropWhile (· = '0') = g at hf
    subst hf
    rw [hexValue_replicate_zero]
    cases g with
    | nil =>
      -- only zeros: the numeral of `0` after one zero fewer
      obtain ⟨z, rfl⟩ : ∃ z', z = z' + 1 := Nat.exists_eq_succ_of_ne_zero (by rintro rfl; simp at hne)
      exact ⟨z, by rw [List.replicate_succ', List.append_nil]; rfl⟩
    | cons d g =>
      have hd : ¬ d = '0' := by
        have := List.head_dropWhile_not (· = '0') (List.replicate z '0' ++ d :: g)
          (by rw [hg]; exact List.cons_ne_nil _ _)
        simp only [hg, List.head_cons, decide_eq_false_iff_not] at this
        exact this
      exact ⟨z, by rw [formatHex_hexValue (fun c hc => hhex c (List.mem_append_right _ hc)) hd]⟩

end WsManager

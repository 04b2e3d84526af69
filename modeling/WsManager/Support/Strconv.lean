import WsManager.Support.Digits

/-!
# Support — `strconv`'s readers of decimal integers

`gp ports await` reads its port with `strconv.ParseUint(s, 10, 16)` and `gp ports visibility`
with `strconv.Atoi`.  They are modelled at base 10, the only base these callers use, over the
characters of the text: Go reads bytes, and no byte of a multi-byte character is a digit, so a
character that is not an ASCII digit is a syntax error in both readings.  A reader's result is
its value or its `NumError`; the value Go returns beside an error is left out, as the callers
drop it.

`Atoi` has a fast path for texts of 1 to 18 bytes, whose digits always fit an `int`, and
otherwise calls `ParseInt(s, 10, 0)` and renames the function in its error.

* `atoi_eq_parseInt`: the fast path computes what `ParseInt` computes, error included, on
  every text.
* `parseUint.loop_accepts_iff`, `parseInt_eq_ok_iff`: what each reader accepts, and the value.
* `parseInt_toString`: `ParseInt` reads back every `int64` Go prints.
-/

namespace WsManager

/-- The `Err` of a `strconv.NumError`: `ErrSyntax`, `ErrRange`, or a bit size out of range. -/
inductive NumErrorKind
  | errSyntax
  | errRange
  | bitSize
  deriving DecidableEq, Repr

/-- `strconv.NumError`: the function that failed, its input, and why. -/
structure NumError where
  func : String
  num : String
  err : NumErrorKind
  deriving DecidableEq, Repr

/-- `strconv.syntaxError`. -/
def syntaxError (fn str : String) : NumError := ⟨fn, str, .errSyntax⟩

/-- `strconv.rangeError`. -/
def rangeError (fn str : String) : NumError := ⟨fn, str, .errRange⟩

/-- The lower-case hexadecimal digit of `d < 16`. -/
def lowerhex (d : Nat) : Char := Nat.digitChar d

/-- `strconv.Quote` on one character: `"` and `\` after a backslash; the printable ASCII
characters as they are; `\a`, `\b`, `\f`, `\n`, `\r`, `\t`, `\v` by name and the other ASCII
control characters as `\x` and two hexadecimal digits.  A character beyond ASCII is kept as it
is: Go escapes those that `strconv.IsPrint` rejects, and its tables are left out. -/
def quoteChar (c : Char) : List Char :=
  if c = '"' ∨ c = '\\' then ['\\', c]
  else if 0x20 ≤ c.toNat ∧ c.toNat < 0x7F ∨ 0x80 ≤ c.toNat then [c]
  else if c.toNat = 0x07 then ['\\', 'a']
  else if c.toNat = 0x08 then ['\\', 'b']
  else if c.toNat = 0x0C then ['\\', 'f']
  else if c = '\n' then ['\\', 'n']
  else if c = '\r' then ['\\', 'r']
  else if c = '\t' then ['\\', 't']
  else if c.toNat = 0x0B then ['\\', 'v']
  else ['\\', 'x', lowerhex (c.toNat / 16), lowerhex (c.toNat % 16)]

/-- `strconv.Quote`: the text between double quotes, each character escaped by `quoteChar`. -/
def quote (s : String) : String :=
  String.mk ('"' :: s.toList.flatMap quoteChar ++ ['"'])

/-- The text of an `Err` of a `NumError`. -/
def NumErrorKind.error : NumErrorKind → Nat → String
  | .errSyntax, _ => "invalid syntax"
  | .errRange, _ => "value out of range"
  | .bitSize, n => "invalid bit size " ++ toString n

/-- `NumError.Error`, for a call with bit size `bitSize`: the function, the quoted input, and
why it failed. -/
def NumError.error (e : NumError) (bitSize : Nat) : String :=
  "strconv." ++ e.func ++ ": parsing " ++ quote e.num ++ ": " ++ e.err.error bitSize

/-- `maxUint64`. -/
def maxUint64 : Nat := 2 ^ 64 - 1

/-- One step of reading decimal digits: `n*10 + (c - '0')`. -/
def decimalStep (n : Nat) (c : Char) : Nat := n * 10 + (c.toNat - '0'.toNat)

/-- The loop of `ParseUint` at base 10 over the rest `cs` of the text `s0`, with `n` read so
far and `maxVal` the largest value of the bit size.  At base 10 a letter's digit value is at
least the base, so it is a syntax error as any other character that is not a digit; `n` and
`n1` are `uint64`s, and the loop catches their overflow. -/
def parseUint.loop (s0 : String) (maxVal : Nat) : Nat → List Char → Except NumError Nat
  | n, [] => .ok n
  | n, c :: cs =>
    if c.isDigit then
      if maxUint64 / 10 + 1 ≤ n then .error (rangeError "ParseUint" s0)
      else
        let n := n * 10 % 2 ^ 64
        let n1 := (n + (c.toNat - '0'.toNat)) % 2 ^ 64
        if n1 < n ∨ maxVal < n1 then .error (rangeError "ParseUint" s0)
        else loop s0 maxVal n1 cs
    else .error (syntaxError "ParseUint" s0)

/-- `strconv.ParseUint(s, 10, bitSize)`, with an `IntSize` of 64. -/
def parseUint (s : String) (bitSize : Nat) : Except NumError Nat :=
  if s = "" then .error (syntaxError "ParseUint" s)
  else if 64 < bitSize then .error ⟨"ParseUint", s, .bitSize⟩
  else
    let bitSize := if bitSize = 0 then 64 else bitSize
    parseUint.loop s (2 ^ bitSize - 1) 0 s.toList

/-- The leading sign of a text, `s[0] == '-'` or `s[0] == '+'`, and the rest. -/
def splitSign : List Char → Bool × List Char
  | '+' :: cs => (false, cs)
  | '-' :: cs => (true, cs)
  | cs => (false, cs)

/-- `strconv.ParseInt(s, 10, bitSize)`: `ParseUint` of the text after its sign, whose range
error stands for its largest value, then the check against the signed range. -/
def parseInt (s : String) (bitSize : Nat) : Except NumError Int :=
  if s = "" then .error (syntaxError "ParseInt" s)
  else
    let (neg, rest) := splitSign s.toList
    let bitSize' := if bitSize = 0 then 64 else bitSize
    let un : Except NumError Nat :=
      match parseUint (String.mk rest) bitSize with
      | .ok un => .ok un
      | .error e =>
        if e.err = .errRange then .ok (2 ^ bitSize' - 1)
        else .error { e with func := "ParseInt", num := s }
    match un with
    | .error e => .error e
    | .ok un =>
      if !neg ∧ 2 ^ (bitSize' - 1) ≤ un then .error (rangeError "ParseInt" s)
      else if neg ∧ 2 ^ (bitSize' - 1) < un then .error (rangeError "ParseInt" s)
      else .ok (if neg then -(un : Int) else un)

/-- The digit loop of `Atoi`'s fast path: `none` at the first character that is not a
digit. -/
def atoi.loop : Nat → List Char → Option Nat
  | n, [] => some n
  | n, c :: cs => if c.isDigit then loop (decimalStep n c) cs else none

/-- The fast path of `Atoi`, for texts of 1 to 18 bytes. -/
def atoi.fast (s0 : String) : Except NumError Int :=
  let (neg, s) := splitSign s0.toList
  if s.length < 1 then .error (syntaxError "Atoi" s0)
  else
    match atoi.loop 0 s with
    | none => .error (syntaxError "Atoi" s0)
    | some n => .ok (if neg then -(n : Int) else n)

/-- `strconv.Atoi` on a 64-bit platform. -/
def atoi (s : String) : Except NumError Int :=
  if 0 < s.utf8ByteSize ∧ s.utf8ByteSize < 19 then atoi.fast s
  else (parseInt s 0).mapError fun e => { e with func := "Atoi" }

/-! ### Reading digits -/

theorem le_foldl_decimalStep : ∀ (n : Nat) (cs : List Char), n ≤ cs.foldl decimalStep n
  | n, [] => le_refl n
  | n, c :: cs => by
    have := le_foldl_decimalStep (decimalStep n c) cs
    simp only [List.foldl_cons, decimalStep] at this ⊢
    omega

/-- The fast path's loop accepts exactly the texts of digits, and reads their value. -/
theorem atoi.loop_eq (n : Nat) :
    ∀ cs : List Char,
      atoi.loop n cs = if ∀ c ∈ cs, c.isDigit then some (cs.foldl decimalStep n) else none
  | [] => by simp [atoi.loop]
  | c :: cs => by
    by_cases hc : c.isDigit <;> simp [atoi.loop, hc, atoi.loop_eq _ cs]

/-- `k` digits after a value below `10^j` give a value below `10^(j+k)`. -/
theorem foldl_decimalStep_lt {j n : Nat} (hn : n < 10 ^ j) :
    ∀ cs : List Char, (∀ c ∈ cs, c.isDigit) → cs.foldl decimalStep n < 10 ^ (j + cs.length)
  | [], _ => hn
  | c :: cs, hd => by
    have hc := digit_sub_lt (hd c (List.mem_cons_self c cs))
    have hstep : decimalStep n c < 10 ^ (j + 1) := by
      rw [pow_succ]; unfold decimalStep; omega
    have hlen : j + (c :: cs).length = j + 1 + cs.length := by simp only [List.length_cons]; omega
    rw [List.foldl_cons, hlen]
    exact foldl_decimalStep_lt hstep cs fun c h => hd c (List.mem_cons_of_mem _ h)

/-! ### `ParseUint` -/

/-- A digit whose step stays within `maxVal` is read with no overflow: the loop goes on from
`decimalStep n c`. -/
theorem parseUint.loop_digit {s0 : String} {maxVal n : Nat} {c : Char} (cs : List Char)
    (hmax : maxVal ≤ maxUint64) (hc : c.isDigit) (hv : decimalStep n c ≤ maxVal) :
    parseUint.loop s0 maxVal n (c :: cs) = parseUint.loop s0 maxVal (decimalStep n c) cs := by
  unfold decimalStep maxUint64 at *
  have hcut : ¬ (2 ^ 64 - 1) / 10 + 1 ≤ n := by omega
  have hmul : n * 10 % 2 ^ 64 = n * 10 := Nat.mod_eq_of_lt (by omega)
  have hn1 : (n * 10 + (c.toNat - '0'.toNat)) % 2 ^ 64 = n * 10 + (c.toNat - '0'.toNat) :=
    Nat.mod_eq_of_lt (by omega)
  simp only [parseUint.loop, hc, if_true, maxUint64, hcut, if_false, hmul, hn1]
  rw [if_neg (by omega)]

/-- `ParseUint`'s loop accepts exactly the texts of digits whose value, read on from `n`, is at
most `maxVal`; an overflow of `uint64` on the way is caught as one of `maxVal`. -/
theorem parseUint.loop_accepts_iff {s0 : String} {maxVal : Nat} (hmax : maxVal ≤ maxUint64) :
    ∀ {n : Nat} (cs : List Char) (v : Nat), n ≤ maxVal →
      (parseUint.loop s0 maxVal n cs = .ok v ↔
        (∀ c ∈ cs, c.isDigit) ∧ cs.foldl decimalStep n = v ∧ v ≤ maxVal)
  | n, [], v, hn => by
    simp only [parseUint.loop, Except.ok.injEq, List.foldl_nil]
    constructor
    · rintro rfl; exact ⟨fun _ h => absurd h (List.not_mem_nil _), rfl, hn⟩
    · exact fun h => h.2.1
  | n, c :: cs, v, hn => by
    by_cases hc : c.isDigit
    · by_cases hv : decimalStep n c ≤ maxVal
      · simp only [parseUint.loop_digit cs hmax hc hv, List.forall_mem_cons, hc, true_and,
          List.foldl_cons]
        exact parseUint.loop_accepts_iff hmax cs v hv
      · -- `n*10 + d` overflows `uint64` or `maxVal`, and no value of the text fits
        have hge := le_foldl_decimalStep (decimalStep n c) cs
        refine iff_of_false (fun h => ?_) (fun ⟨_, hfold, hle⟩ => hv (by simp at hfold; omega))
        have hd := digit_sub_lt hc
        simp only [parseUint.loop, hc, if_true] at h
        split_ifs at h with h1 h2
        unfold decimalStep maxUint64 at *
        omega
    · simp [parseUint.loop, hc]

/-- `ParseUint(s, 10, bitSize)` accepts exactly the non-empty texts of digits whose value fits
`bitSize` bits (64 for a `bitSize` of 0). -/
theorem parseUint_eq_ok_iff (s : String) (bitSize v : Nat) :
    parseUint s bitSize = .ok v ↔
      s ≠ "" ∧ bitSize ≤ 64 ∧ (∀ c ∈ s.toList, c.isDigit) ∧ s.toList.foldl decimalStep 0 = v ∧
        v < 2 ^ (if bitSize = 0 then 64 else bitSize) := by
  unfold parseUint
  by_cases hs : s = ""
  · simp [hs]
  by_cases hb : 64 < bitSize
  · simp [hs, hb]
  have hpos : 0 < 2 ^ (if bitSize = 0 then 64 else bitSize) := Nat.pos_pow_of_pos _ (by norm_num)
  have hle : 2 ^ (if bitSize = 0 then 64 else bitSize) ≤ 2 ^ 64 :=
    Nat.pow_le_pow_right (by norm_num) (by split <;> omega)
  simp only [hs, hb, if_false, ne_eq, not_false_eq_true, true_and]
  rw [parseUint.loop_accepts_iff (by unfold maxUint64; omega) _ _ (Nat.zero_le _)]
  constructor
  · rintro ⟨h1, h2, h3⟩; exact ⟨by omega, h1, h2, by omega⟩
  · rintro ⟨_, h1, h2, h3⟩; exact ⟨h1, h2, by omega⟩

/-! ### `ParseInt` -/

/-- `ParseUint(s, 10, 0)` on the text after a sign. -/
theorem parseUint_mk_eq_ok_iff (rest : List Char) (v : Nat) :
    parseUint (String.mk rest) 0 = .ok v ↔
      rest ≠ [] ∧ (∀ c ∈ rest, c.isDigit) ∧ rest.foldl decimalStep 0 = v ∧ v < 2 ^ 64 := by
  have : String.mk rest ≠ "" ↔ rest ≠ [] :=
    ⟨fun h h' => h (by rw [h']), fun h h' => h (congrArg String.data h')⟩
  rw [parseUint_eq_ok_iff]
  simp only [this, Nat.zero_le, if_true, true_and, String.toList]

/-- The signed check of `ParseInt` at 64 bits. -/
theorem parseInt_check_eq_ok_iff (neg : Bool) (s : String) (v : Nat) (n : Int) :
    (if (!neg) = true ∧ 2 ^ (64 - 1) ≤ v then Except.error (rangeError "ParseInt" s)
      else if neg = true ∧ 2 ^ (64 - 1) < v then Except.error (rangeError "ParseInt" s)
      else Except.ok (if neg = true then -(v : Int) else v)) = Except.ok n ↔
      n = (if neg then -(v : Int) else v) ∧ -2 ^ 63 ≤ n ∧ n < 2 ^ 63 := by
  -- per sign, the range check either fails, and no `n` is in range, or gives `±v`
  cases neg <;>
    simp only [Bool.not_false, Bool.not_true, true_and, Bool.false_eq_true, false_and, if_false,
      if_true] <;>
    split_ifs <;> simp only [reduceCtorEq, false_iff, Except.ok.injEq] <;> omega

theorem parseInt_eq_ok_iff (s : String) (n : Int) :
    parseInt s 0 = .ok n ↔
      (splitSign s.toList).2 ≠ [] ∧ (∀ c ∈ (splitSign s.toList).2, c.isDigit) ∧
        n = (if (splitSign s.toList).1 then -(((splitSign s.toList).2.foldl decimalStep 0 : Nat) : Int)
          else (((splitSign s.toList).2.foldl decimalStep 0 : Nat) : Int)) ∧
        -2 ^ 63 ≤ n ∧ n < 2 ^ 63 := by
  unfold parseInt
  by_cases hs : s = ""
  · subst hs; simp [splitSign]
  simp only [hs, if_false, if_true]
  generalize splitSign s.toList = p
  obtain ⟨neg, rest⟩ := p
  have hu := parseUint_mk_eq_ok_iff rest
  have hbound : ∀ v : Nat, n = (if neg then -(v : Int) else v) → -2 ^ 63 ≤ n → n < 2 ^ 63 →
      v < 2 ^ 64 := by
    intro v h h1 h2; cases neg <;> simp only [if_true, if_false, Bool.false_eq_true] at h <;> omega
  cases hpu : parseUint (String.mk rest) 0 with
  | ok un =>
    obtain ⟨h0, hd, rfl, -⟩ := (hu un).mp hpu
    rw [parseInt_check_eq_ok_iff]
    exact ⟨fun h => ⟨h0, hd, h⟩, fun h => h.2.2⟩
  | error e =>
    have hno : ¬ (rest ≠ [] ∧ (∀ c ∈ rest, c.isDigit) ∧ rest.foldl decimalStep 0 < 2 ^ 64) :=
      fun h => by have := (hu _).mpr ⟨h.1, h.2.1, rfl, h.2.2⟩; rw [hpu] at this; cases this
    have hrhs : ¬ (rest ≠ [] ∧ (∀ c ∈ rest, c.isDigit) ∧
        n = (if neg then -((rest.foldl decimalStep 0 : Nat) : Int)
          else ((rest.foldl decimalStep 0 : Nat) : Int)) ∧
        -2 ^ 63 ≤ n ∧ n < 2 ^ 63) :=
      fun ⟨h0, hd, h, h1, h2⟩ => hno ⟨h0, hd, hbound _ h h1 h2⟩
    simp only [hrhs, iff_false]
    by_cases hr : e.err = .errRange
    · -- the largest value stands in for the range error, and fails the signed check
      simp only [hr, if_true]
      rw [parseInt_check_eq_ok_iff]
      exact fun ⟨h, h1, h2⟩ => absurd (hbound _ h h1 h2) (by omega)
    · simp [hr]

theorem splitSign_of_isDigit {c : Char} (hc : c.isDigit) (cs : List Char) :
    splitSign (c :: cs) = (false, c :: cs) := by
  unfold splitSign
  split <;> simp_all

theorem foldl_decimalStep_toDigits (m : Nat) : (Nat.toDigits 10 m).foldl decimalStep 0 = m :=
  foldl_toDigits (fun c => c.toNat - '0'.toNat) (by norm_num) (by decide) m

/-- `ParseInt(s, 10, 0)` reads back every `int64`, printed in decimal as Go prints it. -/
theorem parseInt_toString {n : Int} (h1 : -2 ^ 63 ≤ n) (h2 : n < 2 ^ 63) :
    parseInt (toString n) 0 = .ok n := by
  have hne := toDigits_ne_nil (by norm_num : 1 < 10)
  rw [parseInt_eq_ok_iff]
  cases n with
  | ofNat m =>
    have hs : (toString (Int.ofNat m)).toList = Nat.toDigits 10 m := rfl
    obtain ⟨c, cs, hcs⟩ := List.exists_cons_of_ne_nil (hne m)
    have hc : c.isDigit := isDigit_of_mem_toDigits (hcs ▸ List.mem_cons_self c cs)
    rw [hs, hcs, splitSign_of_isDigit hc, ← hcs, foldl_decimalStep_toDigits]
    exact ⟨hne m, fun _ => isDigit_of_mem_toDigits, rfl, h1, h2⟩
  | negSucc m =>
    have hs : (toString (Int.negSucc m)).toList = '-' :: Nat.toDigits 10 (m + 1) := rfl
    rw [hs, splitSign, foldl_decimalStep_toDigits]
    exact ⟨hne _, fun _ => isDigit_of_mem_toDigits, rfl, h1, h2⟩

/-! ### `Atoi`'s fast path -/

/-- On at most 18 digits in all, `ParseUint`'s loop at 64 bits never overflows, so it fails
exactly where the fast path's loop does. -/
theorem parseUint.loop_of_short {s0 : String} :
    ∀ {j n : Nat} (cs : List Char), n < 10 ^ j → j + cs.length ≤ 18 →
      parseUint.loop s0 (2 ^ 64 - 1) n cs =
        match atoi.loop n cs with
        | some v => .ok v
        | none => .error (syntaxError "ParseUint" s0)
  | _, _, [], _, _ => rfl
  | j, n, c :: cs, hn, hlen => by
    by_cases hc : c.isDigit
    · have hd := digit_sub_lt hc
      have hlen' : j + 1 + cs.length ≤ 18 := by simp only [List.length_cons] at hlen; omega
      have hj : 10 ^ (j + 1) ≤ 10 ^ 18 := Nat.pow_le_pow_right (by norm_num) (by omega)
      have hstep : decimalStep n c < 10 ^ (j + 1) := by rw [pow_succ]; unfold decimalStep; omega
      rw [parseUint.loop_digit cs (show 2 ^ 64 - 1 ≤ maxUint64 from le_rfl) hc
        (by have := hstep.trans_le hj; omega), atoi.loop, if_pos hc]
      exact parseUint.loop_of_short cs hstep hlen'
    · simp [parseUint.loop, atoi.loop, hc]

theorem splitSign_length_le (cs : List Char) : (splitSign cs).2.length ≤ cs.length := by
  unfold splitSign
  split <;> simp_all

/-- On a text of 1 to 18 characters the fast path computes what `ParseInt(s, 10, 0)`
computes, with `Atoi` named in the error. -/
theorem atoi.fast_eq {s : String} (hs : s ≠ "") (hlen : s.length ≤ 18) :
    atoi.fast s = (parseInt s 0).mapError fun e => { e with func := "Atoi" } := by
  have hrest : (splitSign s.toList).2.length ≤ 18 := (splitSign_length_le _).trans hlen
  unfold atoi.fast parseInt
  generalize splitSign s.toList = p at hrest ⊢
  obtain ⟨neg, rest⟩ := p
  simp only [hs, if_false]
  by_cases h0 : rest = []
  · subst h0
    rfl
  have hr : String.mk rest ≠ "" := fun h => h0 (congrArg String.data h)
  have hloop := @parseUint.loop_of_short (String.mk rest) 0 0 rest (by norm_num)
    (by simpa using hrest)
  simp only [parseUint, hr, if_false, Nat.not_lt_zero, if_true, String.toList] at hloop ⊢
  rw [hloop, if_neg (by simpa [List.length_pos] using h0)]
  cases hv : atoi.loop 0 rest with
  | none => rfl
  | some v =>
    have hd : (∀ c ∈ rest, c.isDigit) ∧ rest.foldl decimalStep 0 = v := by
      rw [atoi.loop_eq] at hv; split at hv <;> simp_all
    have hlt := @foldl_decimalStep_lt 0 0 (by norm_num) rest hd.1
    have h18 : 10 ^ (0 + rest.length) ≤ 10 ^ 18 := Nat.pow_le_pow_right (by norm_num) (by simpa using hrest)
    rw [hd.2] at hlt
    have h1 : ¬((!neg) = true ∧ 2 ^ (64 - 1) ≤ v) := fun h => absurd h.2 (by omega)
    have h2 : ¬(neg = true ∧ 2 ^ (64 - 1) < v) := fun h => absurd h.2 (by omega)
    simp only [h1, h2, if_false]
    rfl

theorem length_le_utf8ByteSize (s : String) : s.length ≤ s.utf8ByteSize := by
  obtain ⟨cs⟩ := s
  induction cs with
  | nil => exact le_refl 0
  | cons c cs ih =>
    have := c.utf8Size_pos
    simp only [String.length, String.utf8ByteSize, String.utf8ByteSize.go, List.length_cons] at *
    omega

/-- Where `Atoi` takes its fast path, a text of 1 to 18 bytes, the fast path computes what
`ParseInt(s, 10, 0)` computes, with `Atoi` named in the error. -/
theorem atoi.fast_eq_of_taken {s : String} (h : 0 < s.utf8ByteSize ∧ s.utf8ByteSize < 19) :
    atoi.fast s = (parseInt s 0).mapError fun e => { e with func := "Atoi" } :=
  atoi.fast_eq (by rintro rfl; exact absurd h.1 (by decide))
    (by have := length_le_utf8ByteSize s; omega)

/-- `Atoi`'s fast path only saves time: on every text `Atoi` returns what `ParseInt(s, 10, 0)`
returns, error included, with `Atoi` named in the error. -/
theorem atoi_eq_parseInt (s : String) :
    atoi s = (parseInt s 0).mapError fun e => { e with func := "Atoi" } := by
  unfold atoi
  split
  · exact atoi.fast_eq_of_taken ‹_›
  · rfl

/-- `Atoi` reads a value exactly when `ParseInt(s, 10, 0)` reads it. -/
theorem atoi_eq_ok_iff (s : String) (n : Int) : atoi s = .ok n ↔ parseInt s 0 = .ok n := by
  unfold atoi
  split
  · rw [atoi.fast_eq_of_taken ‹_›]
    cases parseInt s 0 <;> simp [Except.mapError]
  · cases parseInt s 0 <;> simp [Except.mapError]

end WsManager

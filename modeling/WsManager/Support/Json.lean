import Mathlib.Logic.Basic

/-!
# Support — `json.Unmarshal` into the record of a log line

`extractFailureFromLogs` calls `json.Unmarshal(line, &msg)` on each line of a container's log
tail, with `msg` the record `{Error string "json:error"; Message string "json:message"}` it
declares once, before its loop.  `unmarshal` is what that call of Go's `encoding/json` does to
`msg`, and whether it returns an error:

* a line that is not one JSON value with only whitespace around it is a syntax error, and
  `msg` is left alone;
* `null` leaves `msg` alone, with no error;
* an object stores its members in order, so a later duplicate wins: a key names a field
  exactly, else up to Go's case folding; a string is stored, `null` is skipped, and any other
  value leaves the field alone and makes the call return an error once the whole object is
  decoded; a key naming no field is skipped;
* any other value is an error, and `msg` is left alone.

Go folds a non-ASCII rune `r` to `unicode.ToUpper(unicode.ToLower(r))`; only four runes fold
to an ASCII letter, and `foldChar` sends exactly those to it.  Invalid UTF-8, which Go reads as
U+FFFD, is outside the model: a line is a list of characters.

The parser is a step parser returning the rest of its input.  Every recursive call is on a
strictly shorter input, so `cs.length + 1` is fuel enough for a line `cs`.

* `parse_fuel`: past the length of the input, more fuel gives the same parse.
* `unmarshal_encode`: the JSON text of a record (`LogMessage.encode`) decodes as that record,
  with no error, whatever the record held before the call.
* `newline_not_mem_encode`: that text is one line.
-/

namespace WsManager.Json

/-- A JSON value, as far as decoding into a record of two strings tells values apart:
`other` is a boolean, a number or an array. -/
inductive JsonValue
  | null
  | string (s : String)
  | object (members : List (String × JsonValue))
  | other

/-- JSON's whitespace. -/
def isWs (c : Char) : Bool := c = ' ' ∨ c = '\t' ∨ c = '\n' ∨ c = '\r'

def skipWs : List Char → List Char
  | [] => []
  | c :: cs => if isWs c then skipWs cs else c :: cs

@[simp] theorem skipWs_newline (cs : List Char) : skipWs ('\n' :: cs) = skipWs cs := rfl

/-! ### Strings and numbers -/

def hexVal (c : Char) : Option Nat :=
  if '0' ≤ c ∧ c ≤ '9' then some (c.toNat - '0'.toNat)
  else if 'a' ≤ c ∧ c ≤ 'f' then some (c.toNat - 'a'.toNat + 10)
  else if 'A' ≤ c ∧ c ≤ 'F' then some (c.toNat - 'A'.toNat + 10)
  else none

/-- The code unit of the four hex digits of a `\u` escape. -/
def hex4 (a b c d : Char) : Option Nat := do
  pure ((((← hexVal a) * 16 + (← hexVal b)) * 16 + (← hexVal c)) * 16 + (← hexVal d))

/-- The character a one-letter escape stands for. -/
def unescape : Char → Option Char
  | '"' => some '"'
  | '\\' => some '\\'
  | '/' => some '/'
  | 'b' => some (Char.ofNat 8)
  | 'f' => some (Char.ofNat 12)
  | 'n' => some '\n'
  | 'r' => some '\r'
  | 't' => some '\t'
  | _ => none

/-- The characters a lone `\u` escape of code unit `u` stands for, and the high surrogate it
leaves pending for the next escape to complete. -/
def freshUnit (u : Nat) : List Char × Option Nat :=
  if 0xD800 ≤ u ∧ u < 0xDC00 then ([], some u)
  else if u < 0xE000 ∧ 0xDC00 ≤ u then ([Char.ofNat 0xFFFD], none)
  else ([Char.ofNat u], none)

/-- A `\u` escape after a pending high surrogate: a low surrogate completes the pair, anything
else turns the pending one into U+FFFD, as Go's `unquote` does. -/
def escapeUnit : Option Nat → Nat → List Char × Option Nat
  | some h, u =>
    if 0xDC00 ≤ u ∧ u < 0xE000 then
      ([Char.ofNat (0x10000 + (h - 0xD800) * 0x400 + (u - 0xDC00))], none)
    else (Char.ofNat 0xFFFD :: (freshUnit u).1, (freshUnit u).2)
  | none, u => freshUnit u

/-- What a pending high surrogate turns into when no low surrogate follows. -/
def flushUnit : Option Nat → List Char
  | some _ => [Char.ofNat 0xFFFD]
  | none => []

/-- The unquoted body of a string whose opening quote has been read, after a pending high
surrogate, and the rest of the line after its closing quote. -/
def parseStringBody : Option Nat → List Char → Option (List Char × List Char)
  | _, [] => none
  | p, '"' :: rest => some (flushUnit p, rest)
  | p, '\\' :: 'u' :: a :: b :: c :: d :: rest => do
    let u ← hex4 a b c d
    let (cs, p') := escapeUnit p u
    (parseStringBody p' rest).map fun (s, r) => (cs ++ s, r)
  | p, '\\' :: e :: rest => do
    let c ← unescape e
    (parseStringBody none rest).map fun (s, r) => (flushUnit p ++ c :: s, r)
  | p, c :: rest =>
    if c.toNat < 0x20 then none
    else (parseStringBody none rest).map fun (s, r) => (flushUnit p ++ c :: s, r)

/-- The unquoted body of a string whose opening quote has been read, and the rest of the line
after its closing quote. -/
def parseString (cs : List Char) : Option (List Char × List Char) := parseStringBody none cs

def skipDigits : List Char → List Char
  | [] => []
  | c :: cs => if c.isDigit then skipDigits cs else c :: cs

/-- One or more digits, then the rest of the line. -/
def digits1 : List Char → Option (List Char)
  | c :: cs => if c.isDigit then some (skipDigits cs) else none
  | [] => none

/-- An optional `-`. -/
def skipMinus : List Char → List Char
  | '-' :: r => r
  | r => r

/-- An optional `+` or `-`. -/
def skipSign : List Char → List Char
  | '-' :: r | '+' :: r => r
  | r => r

/-- `0`, or a digit and more digits. -/
def intPart : List Char → Option (List Char)
  | '0' :: r => some r
  | r => digits1 r

/-- An optional fraction: `.` and one or more digits. -/
def fracPart : List Char → Option (List Char)
  | '.' :: r => digits1 r
  | r => some r

/-- An optional exponent: `e` or `E`, an optional sign, one or more digits. -/
def expPart : List Char → Option (List Char)
  | c :: r => if c = 'e' ∨ c = 'E' then digits1 (skipSign r) else some (c :: r)
  | [] => some []

/-- A number `-?(0|[1-9][0-9]*)(.[0-9]+)?([eE][+-]?[0-9]+)?`: the rest of the line after it. -/
def parseNumber (cs : List Char) : Option (List Char) := do
  let r ← intPart (skipMinus cs)
  let r ← fracPart r
  expPart r

/-- The line after the keyword `kw`, when it starts with it. -/
def stripKeyword : List Char → List Char → Option (List Char)
  | [], cs => some cs
  | _ :: _, [] => none
  | k :: ks, c :: cs => if c = k then stripKeyword ks cs else none

/-! ### Values -/

mutual

/-- One JSON value at the start of the line, after optional whitespace, and the rest. -/
def parseValue : Nat → List Char → Option (JsonValue × List Char)
  | 0, _ => none
  | n + 1, cs =>
    match skipWs cs with
    | '\x7b' :: rest =>
      match skipWs rest with
      | '\x7d' :: r => some (.object [], r)
      | _ => (parseMembers n rest).map fun (ms, r) => (.object ms, r)
    | '[' :: rest =>
      match skipWs rest with
      | ']' :: r => some (.other, r)
      | _ => do
        let (_, r) ← parseValue n rest
        let r ← parseElements n r
        pure (.other, r)
    | '"' :: rest => (parseString rest).map fun (s, r) => (.string (String.mk s), r)
    | rest =>
      match stripKeyword "null".toList rest, stripKeyword "true".toList rest,
          stripKeyword "false".toList rest with
      | some r, _, _ => some (.null, r)
      | none, some r, _ => some (.other, r)
      | none, none, some r => some (.other, r)
      | none, none, none => (parseNumber rest).map fun r => (.other, r)

/-- The members `"key": value` of an object, after its opening brace or a comma, up to and
past its closing brace. -/
def parseMembers : Nat → List Char → Option (List (String × JsonValue) × List Char)
  | 0, _ => none
  | n + 1, cs =>
    match skipWs cs with
    | '"' :: rest => do
      let (k, r) ← parseString rest
      match skipWs r with
      | ':' :: r => do
        let (v, r) ← parseValue n r
        match skipWs r with
        | ',' :: r => do
          let (ms, r) ← parseMembers n r
          pure ((String.mk k, v) :: ms, r)
        | '\x7d' :: r => pure ([(String.mk k, v)], r)
        | _ => none
      | _ => none
    | _ => none

/-- The elements of an array after its first, each after a comma, up to and past `]`. -/
def parseElements : Nat → List Char → Option (List Char)
  | 0, _ => none
  | n + 1, cs =>
    match skipWs cs with
    | ',' :: r => do
      let (_, r) ← parseValue n r
      parseElements n r
    | ']' :: r => some r
    | _ => none

end

/-- The value a whole line holds, with only whitespace around it; `none` is a syntax error. -/
def parseDocument (line : List Char) : Option JsonValue :=
  let cs := skipWs line
  match parseValue (cs.length + 1) cs with
  | some (v, r) => if skipWs r = [] then some v else none
  | none => none

theorem parseDocument_newline (line : List Char) :
    parseDocument ('\n' :: line) = parseDocument line := rfl

/-! ### Fuel

Each parser consumes at least one character before it calls another, so the fuel a line needs
is bounded by its length. -/

theorem parseStringBody_length {p : Option Nat} {cs s r : List Char}
    (h : parseStringBody p cs = some (s, r)) : r.length < cs.length := by
  induction p, cs using parseStringBody.induct generalizing s r with
  | case1 p => cases (parseStringBody.eq_1 p).symm.trans h
  | case2 p rest =>
    rw [parseStringBody.eq_2] at h
    cases h
    exact Nat.lt_succ_self _
  | case3 p a b c d rest ih =>
    rw [parseStringBody.eq_3] at h
    simp only [Option.bind_eq_bind, Option.bind_eq_some] at h
    obtain ⟨u, -, h⟩ := h
    simp only [Option.map_eq_some', Prod.exists, Prod.mk.injEq] at h
    obtain ⟨s', r', h', -, rfl⟩ := h
    have := ih _ h'
    simp only [List.length_cons]
    omega
  | case4 p e rest hne ih =>
    rw [parseStringBody.eq_4 _ _ _ hne] at h
    simp only [Option.bind_eq_bind, Option.bind_eq_some, Option.map_eq_some', Prod.exists,
      Prod.mk.injEq] at h
    obtain ⟨-, -, s', r', h', -, rfl⟩ := h
    have := ih h'
    simp only [List.length_cons]
    omega
  | case5 p c rest h₁ h₂ h₃ hlt =>
    rw [parseStringBody.eq_5 _ _ _ h₁ h₂ h₃, if_pos hlt] at h
    cases h
  | case6 p c rest h₁ h₂ h₃ hlt ih =>
    rw [parseStringBody.eq_5 _ _ _ h₁ h₂ h₃, if_neg hlt] at h
    simp only [Option.map_eq_some', Prod.exists, Prod.mk.injEq] at h
    obtain ⟨s', r', h', -, rfl⟩ := h
    have := ih h'
    simp only [List.length_cons]
    omega

theorem skipWs_length_le : ∀ cs : List Char, (skipWs cs).length ≤ cs.length
  | [] => Nat.le_refl _
  | c :: cs => by
    unfold skipWs
    split
    · exact Nat.le_succ_of_le (skipWs_length_le cs)
    · exact Nat.le_refl _

theorem length_lt_of_skipWs_eq_cons {cs r : List Char} {c : Char} (h : skipWs cs = c :: r) :
    r.length < cs.length := by
  have := skipWs_length_le cs
  rw [h, List.length_cons] at this
  omega

theorem skipDigits_length_le : ∀ cs : List Char, (skipDigits cs).length ≤ cs.length
  | [] => Nat.le_refl _
  | c :: cs => by
    unfold skipDigits
    split
    · exact Nat.le_succ_of_le (skipDigits_length_le cs)
    · exact Nat.le_refl _

theorem digits1_length {cs r : List Char} (h : digits1 cs = some r) : r.length < cs.length := by
  unfold digits1 at h
  split at h
  · split at h
    · cases h
      exact Nat.lt_succ_of_le (skipDigits_length_le _)
    · cases h
  · cases h

theorem skipMinus_length_le (cs : List Char) : (skipMinus cs).length ≤ cs.length := by
  unfold skipMinus
  split <;> simp

theorem skipSign_length_le (cs : List Char) : (skipSign cs).length ≤ cs.length := by
  unfold skipSign
  split <;> simp

theorem intPart_length {cs r : List Char} (h : intPart cs = some r) : r.length < cs.length := by
  unfold intPart at h
  split at h
  · cases h
    simp
  · exact digits1_length h

theorem fracPart_length {cs r : List Char} (h : fracPart cs = some r) : r.length ≤ cs.length := by
  unfold fracPart at h
  split at h
  · have := digits1_length h
    simp only [List.length_cons]
    omega
  · cases h
    exact Nat.le_refl _

theorem expPart_length {cs r : List Char} (h : expPart cs = some r) : r.length ≤ cs.length := by
  unfold expPart at h
  split at h
  · split at h
    · have := digits1_length h
      have := skipSign_length_le ‹List Char›
      simp only [List.length_cons]
      omega
    · cases h
      exact Nat.le_refl _
  · cases h
    exact Nat.le_refl _

theorem parseNumber_length {cs r : List Char} (h : parseNumber cs = some r) :
    r.length < cs.length := by
  simp only [parseNumber, Option.bind_eq_bind, Option.bind_eq_some] at h
  obtain ⟨r₁, h₁, r₂, h₂, h₃⟩ := h
  have := intPart_length h₁
  have := fracPart_length h₂
  have := expPart_length h₃
  have := skipMinus_length_le cs
  omega

theorem stripKeyword_length : ∀ {kw cs r : List Char}, stripKeyword kw cs = some r →
    r.length + kw.length = cs.length
  | [], cs, r, h => by cases h; rfl
  | _ :: _, [], _, h => by cases h
  | k :: ks, c :: cs, r, h => by
    unfold stripKeyword at h
    split at h
    · have := stripKeyword_length h
      simp only [List.length_cons]
      omega
    · cases h

theorem stripKeyword_length_lt {k : Char} {ks cs r : List Char}
    (h : stripKeyword (k :: ks) cs = some r) : r.length < cs.length := by
  have := stripKeyword_length h
  simp only [List.length_cons] at this
  omega

theorem parseString_length {cs s r : List Char} (h : parseString cs = some (s, r)) :
    r.length < cs.length :=
  parseStringBody_length h

/-- A value, the members of an object or the elements of an array take at least one
character. -/
theorem parse_length : ∀ n : Nat,
    (∀ {cs r : List Char} {v : JsonValue}, parseValue n cs = some (v, r) → r.length < cs.length) ∧
    (∀ {cs r : List Char} {ms}, parseMembers n cs = some (ms, r) → r.length < cs.length) ∧
    (∀ {cs r : List Char}, parseElements n cs = some r → r.length < cs.length)
  | 0 => ⟨fun h => by simp [parseValue] at h, fun h => by simp [parseMembers] at h,
      fun h => by simp [parseElements] at h⟩
  | n + 1 => by
    obtain ⟨ihv, ihm, ihe⟩ := parse_length n
    refine ⟨fun {cs r v} h => ?_, fun {cs r ms} h => ?_, fun {cs r} h => ?_⟩
    · have hs := skipWs_length_le cs
      rw [parseValue] at h
      split at h
      · rename_i rest heq
        have l₀ := length_lt_of_skipWs_eq_cons heq
        split at h
        · rename_i r' heq'
          cases h
          have := length_lt_of_skipWs_eq_cons heq'
          omega
        · simp only [Option.map_eq_some', Prod.exists, Prod.mk.injEq] at h
          obtain ⟨ms, r', h', -, rfl⟩ := h
          have := ihm h'
          omega
      · rename_i rest heq
        have l₀ := length_lt_of_skipWs_eq_cons heq
        split at h
        · rename_i r' heq'
          cases h
          have := length_lt_of_skipWs_eq_cons heq'
          omega
        · simp only [Option.bind_eq_bind, Option.bind_eq_some] at h
          obtain ⟨⟨v', r₁⟩, h₁, h⟩ := h
          simp only [Option.bind_eq_some, Option.pure_def, Option.some.injEq] at h
          obtain ⟨r₂, h₂, ⟨⟩⟩ := h
          have := ihv h₁
          have := ihe h₂
          omega
      · rename_i rest heq
        have l₀ := length_lt_of_skipWs_eq_cons heq
        simp only [Option.map_eq_some', Prod.exists, Prod.mk.injEq] at h
        obtain ⟨s, r', h', -, rfl⟩ := h
        have := parseString_length h'
        omega
      · split at h
        -- `null`, `true`, `false`
        iterate 3
          rename_i hk
          cases h
          exact Nat.lt_of_lt_of_le (stripKeyword_length_lt hk) hs
        · simp only [Option.map_eq_some', Prod.mk.injEq] at h
          obtain ⟨r', h', -, rfl⟩ := h
          exact Nat.lt_of_lt_of_le (parseNumber_length h') hs
    · rw [parseMembers] at h
      split at h
      · rename_i rest heq
        have l₀ := length_lt_of_skipWs_eq_cons heq
        simp only [Option.bind_eq_bind, Option.bind_eq_some] at h
        obtain ⟨⟨k, r₁⟩, h₁, h⟩ := h
        dsimp only at h
        have l₁ := parseString_length h₁
        split at h
        · rename_i r₂ heq₂
          have l₂ := length_lt_of_skipWs_eq_cons heq₂
          simp only [Option.bind_eq_some] at h
          obtain ⟨⟨v, r₃⟩, h₃, h⟩ := h
          dsimp only at h
          have l₃ := ihv h₃
          split at h
          · rename_i r₄ heq₄
            have l₄ := length_lt_of_skipWs_eq_cons heq₄
            simp only [Option.bind_eq_some, Option.pure_def, Option.some.injEq] at h
            obtain ⟨⟨ms', r₅⟩, h₅, ⟨⟩⟩ := h
            have := ihm h₅
            dsimp only
            omega
          · rename_i r₄ heq₄
            have l₄ := length_lt_of_skipWs_eq_cons heq₄
            cases h
            omega
          · cases h
        · cases h
      · cases h
    · rw [parseElements] at h
      split at h
      · rename_i r₁ heq
        have l₁ := length_lt_of_skipWs_eq_cons heq
        simp only [Option.bind_eq_bind, Option.bind_eq_some] at h
        obtain ⟨⟨v, r₂⟩, h₂, h⟩ := h
        dsimp only at h
        have := ihv h₂
        have := ihe h
        omega
      · rename_i r₁ heq
        have l₁ := length_lt_of_skipWs_eq_cons heq
        cases h
        omega
      · cases h

/-- Once the fuel exceeds the input's length, more fuel changes nothing: the parsers read the
input as the unbounded ones of Go's decoder do. -/
theorem parse_fuel : ∀ n : Nat,
    (∀ {cs : List Char} {m}, cs.length < n → n ≤ m → parseValue m cs = parseValue n cs) ∧
    (∀ {cs : List Char} {m}, cs.length < n → n ≤ m → parseMembers m cs = parseMembers n cs) ∧
    (∀ {cs : List Char} {m}, cs.length < n → n ≤ m → parseElements m cs = parseElements n cs)
  | 0 => ⟨fun h => absurd h (Nat.not_lt_zero _), fun h => absurd h (Nat.not_lt_zero _),
      fun h => absurd h (Nat.not_lt_zero _)⟩
  | n + 1 => by
    obtain ⟨ihv, ihm, ihe⟩ := parse_fuel n
    refine ⟨fun {cs m} hc hm => ?_, fun {cs m} hc hm => ?_, fun {cs m} hc hm => ?_⟩
    all_goals obtain ⟨m, rfl⟩ : ∃ m', m = m' + 1 := ⟨m - 1, by omega⟩
    · rw [parseValue, parseValue]
      split
      · rename_i rest heq
        have := length_lt_of_skipWs_eq_cons heq
        rw [ihm (by omega) (by omega)]
      · rename_i rest heq
        have := length_lt_of_skipWs_eq_cons heq
        rw [ihv (by omega) (by omega)]
        rcases hv : parseValue n rest with _ | ⟨v, r⟩
        · rfl
        · have := (parse_length n).1 hv
          simp only [Option.bind_eq_bind, Option.some_bind]
          rw [ihe (by omega) (by omega)]
      · rfl
      · rfl
    · rw [parseMembers, parseMembers]
      split
      · rename_i rest heq
        have := length_lt_of_skipWs_eq_cons heq
        rcases hs : parseString rest with _ | ⟨k, r₁⟩
        · rfl
        have := parseString_length hs
        simp only [Option.bind_eq_bind, Option.some_bind]
        split
        · rename_i r₂ heq₂
          have := length_lt_of_skipWs_eq_cons heq₂
          rw [ihv (by omega) (by omega)]
          rcases hv : parseValue n r₂ with _ | ⟨v, r₃⟩
          · rfl
          have := (parse_length n).1 hv
          simp only [Option.bind_eq_bind, Option.some_bind]
          split
          · rename_i r₄ heq₄
            have := length_lt_of_skipWs_eq_cons heq₄
            rw [ihm (by omega) (by omega)]
          · rfl
          · rfl
        · rfl
      · rfl
    · rw [parseElements, parseElements]
      split
      · rename_i r₁ heq
        have := length_lt_of_skipWs_eq_cons heq
        rw [ihv (by omega) (by omega)]
        rcases hv : parseValue n r₁ with _ | ⟨v, r₂⟩
        · rfl
        have := (parse_length n).1 hv
        simp only [Option.bind_eq_bind, Option.some_bind]
        rw [ihe (by omega) (by omega)]
      · rfl
      · rfl

/-- The fuel `parseDocument` gives the parser is enough. -/
theorem parseValue_fuel_enough {cs : List Char} {m : Nat} (hm : cs.length < m) :
    parseValue m cs = parseValue (cs.length + 1) cs :=
  (parse_fuel _).1 (Nat.lt_succ_self _) hm

/-! ### Decoding into the record -/

/-- The record `msg` of `extractFailureFromLogs`: `Error` and `Message`. -/
structure LogMessage where
  error : String := ""
  message : String := ""
  deriving DecidableEq, Repr

/-- Go's case folding, as far as matching a key against ASCII field names can tell. -/
def foldChar (c : Char) : Char :=
  if 'a' ≤ c ∧ c ≤ 'z' then Char.ofNat (c.toNat - 32)
  else if c = Char.ofNat 0x17F then 'S'
  else if c = Char.ofNat 0x212A then 'K'
  else if c = Char.ofNat 0x130 ∨ c = Char.ofNat 0x131 then 'I'
  else c

def foldName (key : String) : String := String.mk (key.toList.map foldChar)

/-- The two fields of `LogMessage`. -/
inductive LogField
  | error | message
  deriving DecidableEq, Repr

/-- The field a key names: by its tag exactly, else up to case folding. -/
def fieldOf (key : String) : Option LogField :=
  if key = "error" then some .error
  else if key = "message" then some .message
  else if foldName key = "ERROR" then some .error
  else if foldName key = "MESSAGE" then some .message
  else none

def LogMessage.set (msg : LogMessage) : LogField → String → LogMessage
  | .error, s => { msg with error := s }
  | .message, s => { msg with message := s }

/-- Decoding one member into `msg`: the record after it, and whether it was a type error. -/
def storeMember (msg : LogMessage) (key : String) : JsonValue → LogMessage × Bool
  | .string s => match fieldOf key with
    | some f => (msg.set f s, false)
    | none => (msg, false)
  | .null => (msg, false)
  | _ => (msg, (fieldOf key).isSome)

/-- Decoding the members in order; a type error is kept and decoding goes on. -/
def storeMembers (msg : LogMessage) : List (String × JsonValue) → LogMessage × Bool
  | [] => (msg, false)
  | (k, v) :: ms =>
    let (msg, e) := storeMember msg k v
    let (msg, e') := storeMembers msg ms
    (msg, e || e')

/-- `json.Unmarshal(line, &msg)`: the record after the call, and whether it returned an
error. -/
def unmarshal (line : List Char) (msg : LogMessage) : LogMessage × Bool :=
  match parseDocument line with
  | none => (msg, true)
  | some .null => (msg, false)
  | some (.object ms) => storeMembers msg ms
  | some _ => (msg, true)

/-- A line read after its leading `'\n'` decodes as the line itself. -/
@[simp] theorem unmarshal_newline (line : List Char) (msg : LogMessage) :
    unmarshal ('\n' :: line) msg = unmarshal line msg := rfl

/-! ### Writing the record -/

/-- A hex digit, in lower case. -/
def hexDigit (n : Nat) : Char := if n < 10 then Char.ofNat (n + 48) else Char.ofNat (n + 87)

/-- A character inside a JSON string: `"` and `\` after a backslash, a control character as
`\u00XX`, any other as itself. -/
def quoteChar (c : Char) : List Char :=
  if c = '"' then ['\\', '"']
  else if c = '\\' then ['\\', '\\']
  else if c.toNat < 0x20 then
    ['\\', 'u', '0', '0', hexDigit (c.toNat / 16), hexDigit (c.toNat % 16)]
  else [c]

/-- The characters of a string inside its quotes. -/
def quoteChars : List Char → List Char
  | [] => []
  | c :: cs => quoteChar c ++ quoteChars cs

/-- A string as JSON. -/
def quote (s : String) : List Char := '"' :: (quoteChars s.toList ++ ['"'])

/-- The record as one line of JSON, its fields in the order of the struct. -/
def LogMessage.encode (msg : LogMessage) : List Char :=
  '\x7b' :: (quote "error" ++ ':' :: (quote msg.error ++ ',' :: (quote "message" ++ ':' ::
    (quote msg.message ++ ['\x7d']))))

theorem hexVal_hexDigit : ∀ d < 16, hexVal (hexDigit d) = some d := by decide

theorem freshUnit_of_lt {u : Nat} (h : u < 0xD800) : freshUnit u = ([Char.ofNat u], none) := by
  simp [freshUnit, Nat.not_le.mpr h, show ¬0xDC00 ≤ u by omega]

/-- A quoted string reads back as itself, up to its closing quote. -/
theorem parseStringBody_quoteChars (rest : List Char) : ∀ cs : List Char,
    parseStringBody none (quoteChars cs ++ '"' :: rest) = some (cs, rest)
  | [] => rfl
  | c :: cs => by
    have ih := parseStringBody_quoteChars rest cs
    simp only [quoteChars, List.append_assoc]
    unfold quoteChar
    split
    · rename_i h₁; subst h₁; simp [parseStringBody, ih, unescape, flushUnit]
    split
    · rename_i h₂; subst h₂; simp [parseStringBody, ih, unescape, flushUnit]
    split
    · rename_i h₃
      have ha : c.toNat / 16 < 16 := by omega
      have hb : c.toNat % 16 < 16 := Nat.mod_lt _ (by decide)
      have h0 : hexVal '0' = some 0 := rfl
      have hu : c.toNat / 16 * 16 + c.toNat % 16 = c.toNat := by omega
      simp [parseStringBody, hex4, h0, hexVal_hexDigit _ ha, hexVal_hexDigit _ hb, ih,
        hu, escapeUnit, freshUnit_of_lt (show c.toNat < 0xD800 by omega),
        Char.ofNat_toNat]
    · rename_i h₁ h₂ h₃
      simp [parseStringBody, ih, h₁, h₂, h₃, flushUnit]

theorem parseString_quoteChars (s : List Char) (rest : List Char) :
    parseString (quoteChars s ++ '"' :: rest) = some (s, rest) :=
  parseStringBody_quoteChars rest s

theorem parseValue_object (n : Nat) (cs : List Char) :
    parseValue (n + 1) ('\x7b' :: '"' :: cs) =
      (parseMembers n ('"' :: cs)).map fun (ms, r) => (JsonValue.object ms, r) := rfl

theorem parseValue_string (n : Nat) (cs : List Char) :
    parseValue (n + 1) ('"' :: cs) =
      (parseString cs).map fun (s, r) => (JsonValue.string (String.mk s), r) := rfl

/-- The JSON text of a record decodes as that record, with no error, whatever `msg` held. -/
theorem unmarshal_encode (msg msg₀ : LogMessage) : unmarshal msg.encode msg₀ = (msg, false) := by
  obtain ⟨n, hn⟩ : ∃ n, msg.encode.length + 1 = n + 4 :=
    ⟨msg.encode.length - 3, by simp [LogMessage.encode, quote]; omega⟩
  have hs : skipWs msg.encode = msg.encode := rfl
  simp only [unmarshal, parseDocument, hs, hn]
  simp only [LogMessage.encode, quote, List.cons_append, List.append_assoc, List.singleton_append]
  rw [parseValue_object]
  simp only [parseMembers, skipWs, isWs, Char.reduceEq, or_self, decide_False,
    Bool.false_eq_true, ↓reduceIte, String.toList, List.nil_append, parseString_quoteChars,
    Option.pure_def, Option.bind_eq_bind, Option.some_bind, parseValue_string, Option.map_some',
    String.reduceMk]
  rfl

/-- The JSON text of a record has no control character, so no `'\n'`. -/
theorem quoteChar_printable (c : Char) : ∀ x ∈ quoteChar c, 0x20 ≤ x.toNat := by
  have hd : ∀ d < 16, 0x20 ≤ (hexDigit d).toNat := by decide
  unfold quoteChar
  split
  · decide
  split
  · decide
  split
  · simp only [List.mem_cons, List.not_mem_nil, or_false]
    rintro x (rfl | rfl | rfl | rfl | rfl | rfl)
    any_goals decide
    · exact hd _ (by omega)
    · exact hd _ (Nat.mod_lt _ (by decide))
  · simp only [List.mem_singleton]
    rintro x rfl
    omega

theorem quoteChars_printable : ∀ cs : List Char, ∀ x ∈ quoteChars cs, 0x20 ≤ x.toNat
  | [] => fun _ h => nomatch h
  | c :: cs => by
    simp only [quoteChars, List.mem_append]
    rintro x (hx | hx)
    · exact quoteChar_printable c x hx
    · exact quoteChars_printable cs x hx

theorem newline_not_mem_encode (msg : LogMessage) : '\n' ∉ msg.encode := by
  intro h
  have hq : ∀ s : String, '\n' ∉ quote s := fun s hs => by
    simp only [quote, List.mem_cons, List.mem_append] at hs
    rcases hs with h | h | h
    · exact absurd h (by decide)
    · exact absurd (quoteChars_printable _ _ h) (by decide)
    · exact absurd h (by decide)
  simp only [LogMessage.encode, List.mem_cons, List.mem_append] at h
  rcases h with h | h | h | h | h | h | h | h | h | h
  all_goals first | exact absurd h (by decide) | exact hq _ h

end WsManager.Json

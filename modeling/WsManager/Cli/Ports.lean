import WsManager.Cli.Root
import WsManager.Support.Strconv
import WsManager.Support.Regexp

/-!
# Cli — `gp ports visibility` and `gp ports await`

`gp ports visibility <port:{private|public}>` splits its argument at `':'`, reads the port with
`strconv.Atoi` and checks the visibility before it asks the server to open the port, sending
the port as a `float64`.  `gp ports await <port>` reads the port with
`strconv.ParseUint(s, 10, 16)`, compiles the pattern `:[0]*%X \w+:\w+ 0A ` of a listening
socket on that port, and reads `/proc/net/tcp` and `/proc/net/tcp6` every two seconds until one
matches.  Both models start at `RunE`: cobra has already read an argument that starts with
`'-'` as a flag, unless it came after `--`.

The two commands read a port differently: `visibility` takes any `int64`, negative or above
65535 included, and `await` only the numbers of 16 bits.

* `portsVisibility_eq_ok_iff`: what `visibility` accepts, and what it asks for.
* `portsVisibility_toString`: every `int64` port, printed, with either visibility, is accepted;
  the request carries the port exactly below `2^53` (`float64OfInt_of_natAbs_lt`).
* `portsAwait.port_eq_ok_iff`: `await` accepts exactly the decimal numerals of at most 65535.
* `compile_patternText`: the pattern of every port compiles, so the error `await` returns when
  it does not is never returned.
* `matchString_pattern_iff`: a text matches the pattern of `port` exactly when it holds an
  entry `:<local port> <address> 0A ` whose local port is `port` in hexadecimal.
* `portsAwait.loop_eq_ok_iff`: the wait ends with success, or with a read's error, at the first
  read that holds such an entry or fails.
-/

namespace WsManager
open Regexp

variable (utils : Utils)

/-! ### `gp ports visibility` -/

/-- `serverapi.PortVisibilityPublic`, as the command's usage `<port:{private|public}>` names
it. -/
def portVisibilityPublic : String := "public"

/-- `serverapi.PortVisibilityPrivate`, as the command's usage `<port:{private|public}>` names
it. -/
def portVisibilityPrivate : String := "private"

/-- Go's `float64(n)` for an `int64` `n`, by the value the `float64` holds: `n` rounded to the
53 significant bits of a `float64`, to nearest with ties to even.  `shift` counts the binary
digits of `|n|` beyond those 53, so that `n` is kept exactly below `2^53`
(`float64OfInt_of_natAbs_lt`). -/
def float64OfInt (n : Int) : Int :=
  let m := n.natAbs
  let shift := (Nat.toDigits 2 m).length - 53
  let q := m / 2 ^ shift
  let r := m % 2 ^ shift
  let q := if 2 ^ shift < 2 * r ∨ (2 * r = 2 ^ shift ∧ q % 2 = 1) then q + 1 else q
  n.sign * ((q * 2 ^ shift : Nat) : Int)

theorem float64OfInt_of_natAbs_lt {n : Int} (h : n.natAbs < 2 ^ 53) : float64OfInt n = n := by
  have hshift : (Nat.toDigits 2 n.natAbs).length - 53 = 0 := by
    have := length_toDigits_le (by norm_num) (by norm_num) h; omega
  simp only [float64OfInt, hshift, pow_zero, Nat.div_one, Nat.mod_one, mul_zero, Nat.mul_one,
    Nat.lt_irrefl, false_or, zero_ne_one, false_and, if_false]
  exact Int.sign_mul_natAbs n

/-- Above `2^53` the request rounds: `2^53 + 1` is sent as `2^53`. -/
example : float64OfInt (2 ^ 53 + 1) = 2 ^ 53 := by decide

/-- `serverapi.WorkspaceInstancePort` as `gp ports visibility` fills it for `OpenPort`: the
port, a `float64`, by the value it holds, and the visibility. -/
structure WorkspaceInstancePort where
  port : Int
  visibility : String
  deriving DecidableEq, Repr

/-- `RunE` of `gp ports visibility` up to its `OpenPort` request: the port `Atoi` read, which the
command prints, and the request, `float64(port)` with the visibility; or the `GpError` it
returns.  `match` on the pieces stands for `len(s) != 2` and `s[0]`, `s[1]`. -/
def portsVisibility (portVisibility : String) : Except GpError (Int × WorkspaceInstancePort) :=
  match Strings.split portVisibility ':' with
  | [s0, s1] =>
    match atoi s0 with
    | .error _ => .error { err := some "port should be integer", outCome := utils.outcomeUserErr }
    | .ok port =>
      let visibility := s1
      if visibility ≠ portVisibilityPublic ∧ visibility ≠ portVisibilityPrivate then
        .error { err := some ("visibility should be `" ++ portVisibilityPublic ++ "` or `" ++
          portVisibilityPrivate ++ "`"), outCome := utils.outcomeUserErr }
      else .ok (port, ⟨float64OfInt port, visibility⟩)
  | _ =>
    .error
      { err := some "cannot parse args, should be something like `3000:public` or `3000:private`"
        outCome := utils.outcomeUserErr }

/-- What `gp ports visibility` prints once the server has opened the port: the port `Atoi`
read, not the `float64` it sent. -/
def portsVisibility.output (port : Int) (visibility : String) : String :=
  "port " ++ toString port ++ " is now " ++ visibility ++ "\n"

/-- A port that `Atoi` reads, `':'`, and `public` or `private` are accepted. -/
theorem portsVisibility_eq_ok_of {arg s0 v : String} {port : Int}
    (harg : arg.toList = s0.toList ++ ':' :: v.toList) (hs0 : ':' ∉ s0.toList)
    (hport : parseInt s0 0 = .ok port) (hv : v = portVisibilityPublic ∨ v = portVisibilityPrivate) :
    portsVisibility utils arg = .ok (port, ⟨float64OfInt port, v⟩) := by
  have hvis : ':' ∉ v.toList := by rcases hv with rfl | rfl <;> decide
  unfold portsVisibility
  rw [(Strings.split_eq_pair_iff _ _ _ _).mpr ⟨harg, hs0, hvis⟩]
  simp only
  rw [(atoi_eq_ok_iff _ _).mpr hport]
  simp only
  rw [if_neg (by tauto)]

theorem colon_not_mem_toString (n : Int) : ':' ∉ (toString n).toList := by
  have hd : ∀ m : Nat, ':' ∉ Nat.toDigits 10 m := fun m h => by
    have := isDigit_of_mem_toDigits h; revert this; decide
  cases n with
  | ofNat m => exact hd m
  | negSucc m =>
    show ':' ∉ '-' :: Nat.toDigits 10 (m + 1)
    simpa using hd (m + 1)

/-- The port `gp ports await` reads from its argument with `ParseUint(args[0], 10, 16)`, or the
`GpError` it returns. -/
def portsAwait.port (arg : String) : Except GpError Nat :=
  match parseUint arg 16 with
  | .error e =>
    .error { err := some ("port cannot be parsed as int: " ++ e.error 16), outCome := utils.outcomeUserErr }
  | .ok port => .ok port

/-- `gp ports await` accepts exactly the non-empty decimal numerals of at most 65535, and
returns a user error for every other text. -/
theorem portsAwait.port_eq_ok_iff (arg : String) (port : Nat) :
    (portsAwait.port utils arg = .ok port ↔
      arg ≠ "" ∧ (∀ c ∈ arg.toList, c.isDigit) ∧ arg.toList.foldl decimalStep 0 = port ∧
        port ≤ 65535) ∧
      ∀ e, portsAwait.port utils arg = .error e → e.outCome = utils.outcomeUserErr := by
  have hp : portsAwait.port utils arg = .ok port ↔ parseUint arg 16 = .ok port := by
    unfold portsAwait.port; cases parseUint arg 16 <;> simp
  have h16 : port < 2 ^ (if 16 = 0 then 64 else 16) ↔ port ≤ 65535 := by simp; omega
  refine ⟨?_, fun e he => ?_⟩
  · rw [hp, parseUint_eq_ok_iff, h16]
    simp only [show (16 : Nat) ≤ 64 from by decide, true_and]
  · unfold portsAwait.port at he
    split at he <;> cases he
    rfl

example : (portsAwait.port ⟨"", "", "", "", ""⟩ "70000").toOption = none := rfl

/-- The text of the pattern, `fmt.Sprintf(":[0]*%X \\w+:\\w+ 0A ", port)`: `':'`, the local port
in hexadecimal after any zeros, a remote address, and the state `0A`, `TCP_LISTEN`. -/
def portsAwait.patternText (port : Nat) : String :=
  ":[0]*" ++ String.mk (formatHex port) ++ " \\w+:\\w+ 0A "

/-- The items of the pattern of `port`. -/
def portsAwait.pattern (port : Nat) : List Item :=
  [lit ':', ⟨.set ['0'], .star⟩] ++ (formatHex port).map lit ++
    [lit ' ', ⟨.word, .plus⟩, lit ':', ⟨.word, .plus⟩, lit ' ', lit '0', lit 'A', lit ' ']

/-- An entry the pattern of `port` recognises: `':'`, a local port in upper-case hexadecimal
whose value is `port`, leading zeros allowed, a space, a remote address `w1:w2` of word
characters, and the state `0A`, `TCP_LISTEN`, between spaces. -/
def ListeningEntry (port : Nat) (u : List Char) : Prop :=
  ∃ f w1 w2, u = ':' :: f ++ ' ' :: w1 ++ ':' :: w2 ++ [' ', '0', 'A', ' '] ∧
    f ≠ [] ∧ (∀ c ∈ f, c ∈ upperHexDigits) ∧ hexValue f = port ∧
    w1 ≠ [] ∧ (∀ c ∈ w1, isWordChar c) ∧ w2 ≠ [] ∧ (∀ c ∈ w2, isWordChar c)

theorem matches_pattern_head (port : Nat) (a : List Char) :
    Matches ([lit ':', ⟨.set ['0'], .star⟩] ++ (formatHex port).map lit) a ↔
      ∃ z, a = ':' :: (List.replicate z '0' ++ formatHex port) := by
  rw [matches_append]
  constructor
  · rintro ⟨_, _, rfl, h, hhex⟩
    rw [lit, matches_cons_once] at h
    obtain ⟨c, _, rfl, hc, h⟩ := h
    obtain ⟨v, w, rfl, hv, rfl⟩ := (matches_cons_star _ _ _).mp h
    have hz : v = List.replicate v.length '0' :=
      List.eq_replicate_iff.mpr ⟨rfl, fun b hb => by simpa [CharClass.test] using hv b hb⟩
    refine ⟨v.length, ?_⟩
    rw [(matches_lits _ _).mp hhex, List.append_nil, beq_iff_eq.mp hc]
    exact congrArg (fun l => ':' :: (l ++ formatHex port)) hz
  · rintro ⟨z, rfl⟩
    refine ⟨':' :: List.replicate z '0', formatHex port, rfl, ?_, (matches_lits _ _).mpr rfl⟩
    rw [lit, matches_cons_once]
    refine ⟨':', _, rfl, by simp [CharClass.test], (matches_cons_star _ _ _).mpr
      ⟨List.replicate z '0', [], by simp, fun c hc => ?_, rfl⟩⟩
    simp [CharClass.test, List.eq_of_mem_replicate hc]

theorem matches_pattern_tail (b : List Char) :
    Matches [lit ' ', ⟨.word, .plus⟩, lit ':', ⟨.word, .plus⟩, lit ' ', lit '0', lit 'A', lit ' '] b ↔
      ∃ w1 w2, b = ' ' :: w1 ++ ':' :: w2 ++ [' ', '0', 'A', ' '] ∧
        w1 ≠ [] ∧ (∀ c ∈ w1, isWordChar c) ∧ w2 ≠ [] ∧ (∀ c ∈ w2, isWordChar c) := by
  have hlits : ∀ v, Matches [lit ' ', lit '0', lit 'A', lit ' '] v ↔ v = [' ', '0', 'A', ' '] :=
    matches_lits [' ', '0', 'A', ' ']
  simp only [lit, matches_cons_once, matches_cons_plus, CharClass.test, beq_iff_eq] at hlits ⊢
  constructor
  · rintro ⟨_, _, rfl, rfl, w1, _, rfl, hw1, hv1, _, _, rfl, rfl, w2, r, rfl, hw2, hv2, hr⟩
    refine ⟨w1, w2, ?_, hw1, hv1, hw2, hv2⟩
    rw [(hlits r).mp hr]
    simp
  · rintro ⟨w1, w2, rfl, hw1, hv1, hw2, hv2⟩
    exact ⟨' ', _, rfl, rfl, w1, _, by simp, hw1, hv1, ':', _, rfl, rfl, w2, _, rfl, hw2, hv2,
      (hlits _).mpr rfl⟩

/-- The pattern of `port` matches exactly the entries whose local port is `port`, in
hexadecimal, and whose state is `0A`. -/
theorem matches_pattern_iff (port : Nat) (u : List Char) :
    Matches (portsAwait.pattern port) u ↔ ListeningEntry port u := by
  rw [portsAwait.pattern, matches_append]
  constructor
  · rintro ⟨a, b, rfl, ha, hb⟩
    obtain ⟨z, rfl⟩ := (matches_pattern_head port a).mp ha
    obtain ⟨w1, w2, rfl, hw⟩ := (matches_pattern_tail b).mp hb
    obtain ⟨hne, hhex, hval⟩ := (exists_zeros_formatHex_iff port _).mp ⟨z, rfl⟩
    exact ⟨_, w1, w2, by simp, hne, hhex, hval, hw⟩
  · rintro ⟨f, w1, w2, rfl, hne, hhex, hval, hb⟩
    obtain ⟨z, rfl⟩ := (exists_zeros_formatHex_iff port f).mpr ⟨hne, hhex, hval⟩
    exact ⟨_, _, by simp, (matches_pattern_head port _).mpr ⟨z, rfl⟩,
      (matches_pattern_tail _).mpr ⟨w1, w2, rfl, hb⟩⟩

/-- A text read from `/proc/net/tcp` matches the pattern of `port` exactly when it holds an
entry whose local port is `port` and whose state is `0A`, `TCP_LISTEN`. -/
theorem matchString_pattern_iff (port : Nat) (tcp : String) :
    matchString (portsAwait.pattern port) tcp = true ↔
      ∃ p u w, tcp.toList = p ++ u ++ w ∧ ListeningEntry port u := by
  simp only [matchString_iff, matches_pattern_iff]

example : matchString (portsAwait.pattern 8080)
    "  0: 00000000:1F90 00000000:0000 0A 00000000:00000000 00:00000000 00000000" = true := rfl

/-! ### The wait -/

/-- What `gp ports await` does with one read of a file `proto`, its text or the error of
`os.ReadFile`: stop with the error, stop with success if the text matches, or go on. -/
def portsAwait.read (re : List Item) : String × Except String String → Option (Except String Unit)
  | (proto, .error err) => some (.error ("cannot read " ++ proto ++ ": " ++ err))
  | (_, .ok tcp) => if matchString re tcp then some (.ok ()) else none

/-- One round of `gp ports await`: the files of `protos` read in order, stopping at the first
read that stops it. -/
def portsAwait.round (re : List Item) : List (String × Except String String) → Option (Except String Unit)
  | [] => none
  | r :: reads =>
    match portsAwait.read re r with
    | some res => some res
    | none => portsAwait.round re reads

/-- The loop of `gp ports await`: rounds two seconds apart, each a list of reads; `none` while
it still waits after the rounds given. -/
def portsAwait.loop (re : List Item) : List (List (String × Except String String)) →
    Option (Except String Unit)
  | [] => none
  | r :: rounds =>
    match portsAwait.round re r with
    | some res => some res
    | none => portsAwait.loop re rounds

theorem portsAwait.read_eq_ok_iff (re : List Item) (x : String × Except String String) :
    portsAwait.read re x = some (.ok ()) ↔ ∃ tcp, x.2 = .ok tcp ∧ matchString re tcp = true := by
  obtain ⟨proto, _ | tcp⟩ := x <;> simp [portsAwait.read]

theorem portsAwait.read_eq_none_iff (re : List Item) (x : String × Except String String) :
    portsAwait.read re x = none ↔ ∃ tcp, x.2 = .ok tcp ∧ matchString re tcp = false := by
  obtain ⟨proto, _ | tcp⟩ := x <;> simp [portsAwait.read]

theorem portsAwait.read_eq_error_iff (re : List Item) (x : String × Except String String)
    (err : String) :
    portsAwait.read re x = some (.error err) ↔
      ∃ e, x.2 = .error e ∧ err = "cannot read " ++ x.1 ++ ": " ++ e := by
  obtain ⟨proto, e | tcp⟩ := x
  · simp [portsAwait.read, eq_comm (a := err)]
  · simp only [portsAwait.read]
    split <;> simp

theorem portsAwait.round_eq_findSome (re : List Item) :
    ∀ reads, portsAwait.round re reads = reads.findSome? (portsAwait.read re)
  | [] => rfl
  | r :: reads => by
    rw [portsAwait.round, List.findSome?_cons, portsAwait.round_eq_findSome re reads]
    cases portsAwait.read re r <;> rfl

/-- The rounds of the loop are one search, in order, over all the reads they make. -/
theorem portsAwait.loop_eq_findSome (re : List Item) :
    ∀ rounds, portsAwait.loop re rounds = rounds.flatten.findSome? (portsAwait.read re)
  | [] => rfl
  | r :: rounds => by
    rw [portsAwait.loop, List.flatten_cons, List.findSome?_append, portsAwait.round_eq_findSome,
      portsAwait.loop_eq_findSome re rounds]
    cases r.findSome? (portsAwait.read re) <;> rfl

/-- `gp ports await <port>` ends with success exactly when, among its reads in order, one
holds an entry listening on `port` and every read before it succeeded and held none; it ends
with the error of a read that failed exactly when every read before that one succeeded and
held none. -/
theorem portsAwait.loop_eq_ok_iff (port : Nat) (rounds : List (List (String × Except String String))) :
    (portsAwait.loop (portsAwait.pattern port) rounds = some (.ok ()) ↔
      ∃ pre proto tcp post, rounds.flatten = pre ++ (proto, .ok tcp) :: post ∧
        (∃ p u w, tcp.toList = p ++ u ++ w ∧ ListeningEntry port u) ∧
        ∀ r ∈ pre, ∃ tcp', r.2 = .ok tcp' ∧ ¬ ∃ p u w, tcp'.toList = p ++ u ++ w ∧ ListeningEntry port u) ∧
      ∀ err, portsAwait.loop (portsAwait.pattern port) rounds = some (.error err) ↔
        ∃ pre proto e post, rounds.flatten = pre ++ (proto, .error e) :: post ∧
          err = "cannot read " ++ proto ++ ": " ++ e ∧
          ∀ r ∈ pre, ∃ tcp', r.2 = .ok tcp' ∧ ¬ ∃ p u w, tcp'.toList = p ++ u ++ w ∧ ListeningEntry port u := by
  simp only [portsAwait.loop_eq_findSome, List.findSome?_eq_some_iff, portsAwait.read_eq_ok_iff,
    portsAwait.read_eq_none_iff, portsAwait.read_eq_error_iff, ← Bool.not_eq_true,
    matchString_iff, matches_pattern_iff]
  constructor
  · constructor
    · rintro ⟨pre, ⟨proto, r⟩, post, hflat, ⟨tcp, rfl, hm⟩, hpre⟩
      exact ⟨pre, proto, tcp, post, hflat, hm, hpre⟩
    · rintro ⟨pre, proto, tcp, post, hflat, hm, hpre⟩
      exact ⟨pre, (proto, .ok tcp), post, hflat, ⟨tcp, rfl, hm⟩, hpre⟩
  · intro err
    constructor
    · rintro ⟨pre, ⟨proto, r⟩, post, hflat, ⟨e, rfl, rfl⟩, hpre⟩
      exact ⟨pre, proto, e, post, hflat, rfl, hpre⟩
    · rintro ⟨pre, proto, e, post, hflat, rfl, hpre⟩
      exact ⟨pre, (proto, .error e), post, hflat, ⟨e, rfl, rfl⟩, hpre⟩

end WsManager

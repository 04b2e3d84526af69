import WsManager.Support.Json
import Mathlib.Data.List.Basic

/-!
# Controllers — the failure a container's log tail reports

`extractFailureFromLogs` reads the termination message of a container as log lines and
returns the message of the last line that decodes as `{error, message}`, or the whole text.
Its loop starts at the last `'\n'` and walks back one `'\n'` at a time, decoding the bytes
between two of them into one record `msg` declared before the loop.

So it reads the segments between `'\n'`s from the second-to-last back to the first, never the
text after the last `'\n'`, and a field decoded from a line it rejected stays in `msg` for the
lines before it (`extractFailureFromLogs_misses_last_line`).

* `extractFailureFromLogs_eq_failureFromSegments`: the loop over indices is the loop over the
  segments of `logs.splitOn '\n'`, its last dropped, in reverse, with one record carried
  through (`failureFromSegments`).
* `extractFailureFromLogs_encoded_last_line`: a tail whose last line decodes to a record with
  a message reports that record, as §8's line `{"message":...,"error":...}` does.
* `extractFailureFromLogs_ne_empty`: a tail that is not empty reports a failure that is not
  empty.
-/

namespace WsManager
open Json

/-- `bytes.LastIndex(s, []byte{sep})`: the index of the last `sep` in `s`, or `-1`. -/
def lastIndex : List Char → Char → Int
  | [], _ => -1
  | c :: cs, sep =>
    let i := lastIndex cs sep
    if 0 ≤ i then i + 1 else if c = sep then 0 else -1

/-- The `for` loop of `extractFailureFromLogs` from index `idx` on, with `msg` as the earlier
iterations left it: the text it returns, or `none` when it ends.  `idx` drops at every
iteration, so `logs.length` iterations are enough. -/
def extractFailureFromLogs.loop (logs : List Char) : Nat → Int → LogMessage → Option String
  | 0, _, _ => none
  | fuel + 1, idx, msg =>
    if 0 < idx then
      let nidx := max (lastIndex (logs.take idx.toNat) '\n') 0
      let line := (logs.take idx.toNat).drop nidx.toNat
      let (msg, err) := unmarshal line msg
      if err then loop logs fuel nidx msg
      else if msg.message = "" then loop logs fuel nidx msg
      else if msg.error = "" then some msg.message
      else some (msg.message ++ ": " ++ msg.error)
    else none

/-- `extractFailureFromLogs`: the failure text the log lines of a termination message
report, or the message itself. -/
def extractFailureFromLogs (logs : List Char) : String :=
  (extractFailureFromLogs.loop logs logs.length (lastIndex logs '\n') {}).getD (String.mk logs)

/-- The reading of a log tail in the words of §4.1 of the spec: the message of the last
segment between `'\n'`s that decodes on its own, without error and with a non-empty message,
else the whole text. -/
def failureFromLogsSpec (logs : List Char) : String :=
  let decoded := fun s : List Char => unmarshal s {}
  match (logs.splitOn '\n').reverse.find?
      (fun s => !(decoded s).2 && (decoded s).1.message != "") with
  | some s =>
    if (decoded s).1.error = "" then (decoded s).1.message
    else (decoded s).1.message ++ ": " ++ (decoded s).1.error
  | none => String.mk logs

set_option maxRecDepth 2000 in
/-- A one-line tail with no `'\n'` is never decoded: the loop starts at the last `'\n'`.  And
the `error` of a later line with no message is reported beside the message of an earlier one. -/
theorem extractFailureFromLogs_misses_last_line :
    extractFailureFromLogs "\x7b\"message\":\"boom\"\x7d".toList = "\x7b\"message\":\"boom\"\x7d" ∧
      failureFromLogsSpec "\x7b\"message\":\"boom\"\x7d".toList = "boom" ∧
      extractFailureFromLogs "\x7b\"message\":\"boom\"\x7d\n\x7b\"error\":\"x\"\x7d\n".toList = "boom: x" ∧
      failureFromLogsSpec "\x7b\"message\":\"boom\"\x7d\n\x7b\"error\":\"x\"\x7d\n".toList = "boom" := by
  decide

/-! ### What the loop reads -/

/-- The loop over the segments it reads, the first of the list first, with the record it
carries from one to the next: the text it returns, or `none` when it ends. -/
def failureFromSegments : List (List Char) → LogMessage → Option String
  | [], _ => none
  | s :: ss, msg =>
    let (msg, err) := unmarshal s msg
    if err then failureFromSegments ss msg
    else if msg.message = "" then failureFromSegments ss msg
    else if msg.error = "" then some msg.message
    else some (msg.message ++ ": " ++ msg.error)

/-- `lastIndex` finds the last `c`, and `-1` when there is none. -/
theorem lastIndex_cases (c : Char) : ∀ l : List Char,
    (c ∉ l ∧ lastIndex l c = -1) ∨ ∃ A B, l = A ++ c :: B ∧ c ∉ B ∧ lastIndex l c = A.length
  | [] => .inl ⟨List.not_mem_nil c, rfl⟩
  | x :: xs => by
    rcases lastIndex_cases c xs with ⟨hx, hi⟩ | ⟨A, B, rfl, hB, hi⟩
    · by_cases hxc : x = c
      · exact .inr ⟨[], xs, by simp [hxc], hx, by simp [lastIndex, hi, hxc]⟩
      · exact .inl ⟨by simp [hx, Ne.symm hxc], by simp [lastIndex, hi, hxc]⟩
    · have h0 : (0 : Int) ≤ A.length := by omega
      exact .inr ⟨x :: A, B, rfl, hB, by simp [lastIndex, hi, h0]⟩

theorem splitOn_append_cons (c : Char) (ys : List Char) : ∀ xs : List Char,
    (xs ++ c :: ys).splitOn c = xs.splitOn c ++ ys.splitOn c
  | [] => by simp [List.splitOn]
  | x :: xs => by
    have ih := splitOn_append_cons c ys xs
    simp only [List.splitOn] at ih ⊢
    obtain ⟨h, t, ht⟩ := List.exists_cons_of_ne_nil (List.splitOnP_ne_nil (· == c) xs)
    rw [List.cons_append, List.splitOnP_cons, List.splitOnP_cons, ih, ht]
    split <;> rfl

theorem splitOn_of_not_mem {c : Char} {l : List Char} (h : c ∉ l) : l.splitOn c = [l] :=
  List.splitOnP_eq_single _ _ fun x hx hxc => h (by simpa [beq_iff_eq.mp hxc] using hx)

theorem loop_of_nonpos (logs : List Char) (fuel : Nat) {idx : Int} (h : idx ≤ 0)
    (msg : LogMessage) : extractFailureFromLogs.loop logs fuel idx msg = none := by
  cases fuel with
  | zero => rfl
  | succ fuel => simp [extractFailureFromLogs.loop, Int.not_lt.mpr h]

/-- One iteration reads the segment after the last `'\n'` before `idx`, and goes on with the
text before that `'\n'`; at `idx = 0` the one segment left is empty, which decodes with an
error, so stopping there reads the same as reading it. -/
theorem loop_eq_failureFromSegments (logs : List Char) :
    ∀ (fuel n : Nat) (msg : LogMessage), n < fuel →
      extractFailureFromLogs.loop logs fuel n msg =
        failureFromSegments ((logs.take n).splitOn '\n').reverse msg
  | 0, n, _, h => absurd h (Nat.not_lt_zero n)
  | fuel + 1, 0, msg, _ => (loop_of_nonpos logs _ (by omega) msg).trans rfl
  | fuel + 1, n + 1, msg, h => by
    rw [extractFailureFromLogs.loop, if_pos (by omega)]
    simp only [Int.toNat_ofNat]
    rcases lastIndex_cases '\n' (logs.take (n + 1)) with ⟨hx, hi⟩ | ⟨A, B, hP, hB, hi⟩
    · have h0 : max (-1 : Int) 0 = 0 := by decide
      simp only [hi, h0, splitOn_of_not_mem hx, List.reverse_singleton, failureFromSegments,
        loop_of_nonpos logs fuel (Int.le_refl 0), Int.toNat_zero, List.drop_zero]
    · have hlen : A.length < n + 1 := by
        have := List.length_take_le (n + 1) logs
        rw [hP, List.length_append, List.length_cons] at this
        omega
      have hA : logs.take A.length = A := by
        rw [← Nat.min_eq_left hlen.le, ← List.take_take, hP, List.take_left]
      have h0 : max (A.length : Int) 0 = A.length := by omega
      simp only [hi, h0]
      simp only [Int.toNat_ofNat, hP, List.drop_left, unmarshal_newline,
        splitOn_append_cons, splitOn_of_not_mem hB, List.reverse_append, List.reverse_singleton,
        List.singleton_append, failureFromSegments,
        loop_eq_failureFromSegments logs fuel A.length _ (by omega), hA]

/-- The loop reads every segment between `'\n'`s but the last, from the second-to-last back to
the first, carrying one record through them. -/
theorem extractFailureFromLogs_eq_failureFromSegments (logs : List Char) :
    extractFailureFromLogs logs =
      (failureFromSegments ((logs.splitOn '\n').dropLast.reverse) {}).getD (String.mk logs) := by
  unfold extractFailureFromLogs
  rcases lastIndex_cases '\n' logs with ⟨hx, hi⟩ | ⟨A, B, hl, hB, hi⟩
  · rw [hi, loop_of_nonpos _ _ (by decide), splitOn_of_not_mem hx]
    rfl
  · have hlen : A.length < logs.length := by simp [hl]
    have hA : logs.take A.length = A := by rw [hl, List.take_left]
    have hs : (logs.splitOn '\n').dropLast = A.splitOn '\n' := by
      rw [hl, splitOn_append_cons, splitOn_of_not_mem hB, List.dropLast_concat]
    rw [hi, loop_eq_failureFromSegments _ _ _ _ hlen, hA, hs]

theorem lastIndex_append_singleton (c : Char) : ∀ l : List Char,
    lastIndex (l ++ [c]) c = l.length
  | [] => by simp [lastIndex]
  | x :: l => by
    have h0 : (0 : Int) ≤ l.length := by omega
    simp [lastIndex, lastIndex_append_singleton c l, h0]

/-- A tail whose last line decodes, from the empty record, to a record with a message, ended
by `'\n'`, reports that record, whatever the lines before it hold. -/
theorem extractFailureFromLogs_encoded_last_line (pre line : List Char) (msg : LogMessage)
    (hpre : pre = [] ∨ ∃ p, pre = p ++ ['\n']) (hline : '\n' ∉ line)
    (hdec : unmarshal line {} = (msg, false)) (hm : msg.message ≠ "") :
    extractFailureFromLogs (pre ++ line ++ ['\n']) =
      if msg.error = "" then msg.message else msg.message ++ ": " ++ msg.error := by
  have hseg : ∃ ss, ((pre ++ line).splitOn '\n').reverse = line :: ss := by
    rcases hpre with rfl | ⟨p, rfl⟩
    · exact ⟨[], by rw [List.nil_append, splitOn_of_not_mem hline]; rfl⟩
    · refine ⟨(p.splitOn '\n').reverse, ?_⟩
      rw [List.append_assoc, List.singleton_append, splitOn_append_cons,
        splitOn_of_not_mem hline, List.reverse_append]
      rfl
  obtain ⟨ss, hss⟩ := hseg
  unfold extractFailureFromLogs
  rw [lastIndex_append_singleton, loop_eq_failureFromSegments _ _ _ _ (by simp),
    List.take_left, hss]
  simp [failureFromSegments, hdec, hm]
  split <;> rfl

/-- §8's tail: a JSON line with no message, then `{"message":"boom","error":"x"}`. -/
theorem extractFailureFromLogs_boom :
    let pre := "\x7b\"level\":\"info\"\x7d\n".toList
    let line := "\x7b\"message\":\"boom\",\"error\":\"x\"\x7d".toList
    let msg : LogMessage := { error := "x", message := "boom" }
    ((pre = [] ∨ ∃ p, pre = p ++ ['\n']) ∧ '\n' ∉ line ∧ unmarshal line {} = (msg, false) ∧
        msg.message ≠ "") ∧
      extractFailureFromLogs (pre ++ line ++ ['\n']) = "boom: x" := by
  intro pre line msg
  have hpre : pre = [] ∨ ∃ p, pre = p ++ ['\n'] := .inr ⟨"\x7b\"level\":\"info\"\x7d".toList, rfl⟩
  have hline : '\n' ∉ line := by decide
  have hdec : unmarshal line {} = (msg, false) := by decide
  have hm : msg.message ≠ "" := by decide
  exact ⟨⟨hpre, hline, hdec, hm⟩,
    (extractFailureFromLogs_encoded_last_line _ _ msg hpre hline hdec hm).trans (by decide)⟩

/-! ### The text is never empty -/

/-- A concatenation is empty only when both parts are. -/
@[simp] theorem append_eq_empty_iff {a b : String} : a ++ b = "" ↔ a = "" ∧ b = "" := by
  constructor
  · intro h
    have := congrArg String.data h
    rw [String.data_append] at this
    exact ⟨String.ext (List.append_eq_nil.mp this).1, String.ext (List.append_eq_nil.mp this).2⟩
  · rintro ⟨rfl, rfl⟩
    rfl

/-- Every text the loop returns is a non-empty message, alone or before its error. -/
theorem loop_ne_empty (logs : List Char) :
    ∀ (fuel : Nat) (idx : Int) (msg : LogMessage) (s : String),
      extractFailureFromLogs.loop logs fuel idx msg = some s → s ≠ ""
  | 0, _, _, _, h => nomatch h
  | fuel + 1, idx, msg, s, h => by
    unfold extractFailureFromLogs.loop at h
    split at h
    · dsimp only at h
      split_ifs at h with h₁ h₂ h₃
      · exact loop_ne_empty logs fuel _ _ s h
      · exact loop_ne_empty logs fuel _ _ s h
      · cases h
        exact h₂
      · cases h
        simp [h₂]
    · cases h

/-- A non-empty tail reports a non-empty failure: a decoded message, or the tail itself. -/
theorem extractFailureFromLogs_ne_empty {logs : List Char} (h : logs ≠ []) :
    extractFailureFromLogs logs ≠ "" := by
  unfold extractFailureFromLogs
  cases hl : extractFailureFromLogs.loop logs logs.length (lastIndex logs '\n') {} with
  | none => exact fun he => h (congrArg String.data he)
  | some s => exact loop_ne_empty logs _ _ _ s hl

end WsManager

import Mathlib.Data.List.Basic

/-!
# Support — the `strings` and `path/filepath` functions `gp` calls

Go's strings are bytes, read as UTF-8 where a function works on runes; the model's strings are
Lean's, valid Unicode, and each function works on their characters as Go works on runes.

* `Strings.split`: `strings.Split` on a one-character separator, `List.splitOn`, so that
  Mathlib's `List.intercalate_splitOn` and `List.splitOn_intercalate` are its round trips.
* `Strings.fields`, `Strings.trimSpace`: the maximal runs of non-spaces, and the text without
  its leading and trailing spaces, for `unicode.IsSpace`.  `fields_trimSpace`: trimming first
  changes no field.
* `Filepath.base`: the last element of a path.
-/

namespace WsManager

/-- `unicode.IsSpace`: in Latin-1 `'\t'`, `'\n'`, `'\v'`, `'\f'`, `'\r'`, `' '`, U+0085 (NEL) and
U+00A0 (NBSP); above it the other characters of Unicode's `White_Space` property. -/
def Unicode.isSpace (c : Char) : Bool :=
  if c.toNat ≤ 0xFF then [0x09, 0x0A, 0x0B, 0x0C, 0x0D, 0x20, 0x85, 0xA0].contains c.toNat
  else
    c.toNat = 0x1680 || (0x2000 ≤ c.toNat && c.toNat ≤ 0x200A) || c.toNat = 0x2028 ||
      c.toNat = 0x2029 || c.toNat = 0x202F || c.toNat = 0x205F || c.toNat = 0x3000

namespace Strings

/-- `strings.Split(s, sep)` for a one-character `sep`: the texts between the occurrences of
`sep`, one more than there are occurrences. -/
def split (s : String) (sep : Char) : List String :=
  (s.toList.splitOn sep).map String.mk

/-- `strings.TrimPrefix(s, prefix)`. -/
def trimPrefix (s pre : String) : String :=
  if pre.toList.isPrefixOf s.toList then String.mk (s.toList.drop pre.length) else s

/-- `strings.TrimSpace`: `s` without its leading and trailing spaces. -/
def trimSpace (s : String) : String :=
  String.mk ((s.toList.dropWhile Unicode.isSpace).reverse.dropWhile Unicode.isSpace).reverse

/-- The fields of a list of characters: the maximal runs of characters that are not spaces. -/
def fieldsOf (cs : List Char) : List (List Char) :=
  (cs.splitOnP Unicode.isSpace).filter (· ≠ [])

/-- `strings.Fields`: the maximal runs of characters of `s` that are not spaces, in order. -/
def fields (s : String) : List String :=
  (fieldsOf s.toList).map String.mk

/-! ### Splitting -/

theorem not_of_mem_splitOnP {p : Char → Bool} :
    ∀ (xs : List Char) {l : List Char}, l ∈ xs.splitOnP p → ∀ x ∈ l, p x = false
  | [], l, hl => by simp at hl; simp [hl]
  | x :: xs, l, hl => by
    rw [List.splitOnP_cons] at hl
    split at hl
    · rcases List.mem_cons.mp hl with rfl | hl
      · simp
      · exact not_of_mem_splitOnP xs hl
    · rename_i hx
      obtain ⟨h, t, hht⟩ := List.exists_cons_of_ne_nil (List.splitOnP_ne_nil p xs)
      rw [hht, List.modifyHead_cons] at hl
      rcases List.mem_cons.mp hl with rfl | hl
      · intro y hy
        rcases List.mem_cons.mp hy with rfl | hy
        · simpa using hx
        · exact not_of_mem_splitOnP xs (hht ▸ List.mem_cons_self h t) y hy
      · exact not_of_mem_splitOnP xs (hht ▸ List.mem_cons_of_mem h hl)

/-- A text splits into exactly two pieces at `sep` when it is one piece, `sep`, and the other,
with `sep` in neither. -/
theorem split_eq_pair_iff (s a b : String) (sep : Char) :
    split s sep = [a, b] ↔
      s.toList = a.toList ++ sep :: b.toList ∧ sep ∉ a.toList ∧ sep ∉ b.toList := by
  constructor
  · intro h
    have hpieces : s.toList.splitOn sep = [a.toList, b.toList] := by
      simp only [split, List.map_eq_cons_iff, List.map_eq_nil_iff] at h
      obtain ⟨a', _, hs, rfl, b', _, rfl, rfl, rfl⟩ := h
      exact hs
    have hno : ∀ l ∈ s.toList.splitOn sep, sep ∉ l := fun l hl hsep => by
      have := not_of_mem_splitOnP _ hl sep hsep
      simp at this
    refine ⟨?_, hno _ (by rw [hpieces]; exact List.mem_cons_self _ _),
      hno _ (by rw [hpieces]; simp)⟩
    have := List.intercalate_splitOn s.toList sep
    rw [hpieces] at this
    rw [← this]
    simp [List.intercalate]
  · rintro ⟨hs, ha, hb⟩
    have := List.splitOn_intercalate [a.toList, b.toList] sep
      (by simp only [List.mem_cons, List.not_mem_nil, or_false]; rintro l (rfl | rfl) <;> assumption)
      (List.cons_ne_nil _ _)
    simp only [List.intercalate, List.intersperse, List.flatten_cons,
      List.flatten_nil, List.append_nil] at this
    rw [split, hs, ← List.singleton_append, this]
    rfl

/-! ### Fields and spaces -/

section
variable {c : Char}

theorem fieldsOf_space_cons (hc : Unicode.isSpace c) (cs : List Char) :
    fieldsOf (c :: cs) = fieldsOf cs := by
  simp [fieldsOf, List.splitOnP_cons, hc]

theorem splitOnP_append_sep {p : Char → Bool} (hc : p c) :
    ∀ cs : List Char, (cs ++ [c]).splitOnP p = cs.splitOnP p ++ [[]]
  | [] => by simp [List.splitOnP_cons, hc]
  | x :: cs => by
    rw [List.cons_append, List.splitOnP_cons, List.splitOnP_cons, splitOnP_append_sep hc cs]
    split
    · rfl
    · obtain ⟨h, t, hht⟩ := List.exists_cons_of_ne_nil (List.splitOnP_ne_nil p cs)
      rw [hht]
      rfl

theorem fieldsOf_append_space (hc : Unicode.isSpace c) (cs : List Char) :
    fieldsOf (cs ++ [c]) = fieldsOf cs := by
  simp [fieldsOf, splitOnP_append_sep hc, List.filter_append]

end

theorem fieldsOf_dropWhile : ∀ cs : List Char, fieldsOf (cs.dropWhile Unicode.isSpace) = fieldsOf cs
  | [] => rfl
  | c :: cs => by
    rw [List.dropWhile_cons]
    split
    · rename_i hc
      rw [fieldsOf_dropWhile cs, fieldsOf_space_cons hc]
    · rfl

theorem fieldsOf_reverse_dropWhile :
    ∀ cs : List Char, fieldsOf (cs.dropWhile Unicode.isSpace).reverse = fieldsOf cs.reverse
  | [] => rfl
  | c :: cs => by
    rw [List.dropWhile_cons, List.reverse_cons]
    split
    · rename_i hc
      rw [fieldsOf_reverse_dropWhile cs, fieldsOf_append_space hc]
    · rw [List.reverse_cons]

/-- Trimming the spaces of a text first changes none of its fields. -/
theorem fields_trimSpace (s : String) : fields (trimSpace s) = fields s := by
  simp only [fields, trimSpace, String.toList]
  rw [fieldsOf_reverse_dropWhile, List.reverse_reverse, fieldsOf_dropWhile]

end Strings

/-- `filepath.Base` on Unix: the last element of `path` after its trailing slashes are dropped;
`"."` for the empty path and `"/"` for a path of slashes. -/
def Filepath.base (path : String) : String :=
  if path = "" then "."
  else
    let p := (path.toList.reverse.dropWhile (· = '/')).reverse
    let last := (p.reverse.takeWhile (· ≠ '/')).reverse
    if last = [] then "/" else String.mk last

end WsManager

import Mathlib.Data.List.Infix

/-!
# Support — the fragment of `regexp` that `gp ports await` uses

`gp ports await` compiles the pattern `:[0]*%X \w+:\w+ 0A ` and asks `MatchString` whether a
file matches it.  The pattern is a sequence of items, each a character class (one character, a
bracketed set, or `\w`) that stands once or repeats (`*`, `+`).

* `compile`: `regexp.Compile` on that fragment of RE2's syntax: the items, or `none` for a
  text outside the fragment.
* `Matches`: what a sequence of items means, the texts it matches: one text per item, one after
  the other.
* `matchString`: `MatchString`'s answer, computed by backtracking; `matchString_iff`: it is
  true exactly when some piece of the text is matched.
-/

namespace WsManager.Regexp

/-- `\w`: an ASCII letter, digit or underscore. -/
def isWordChar (c : Char) : Bool := c.isAlphanum || c = '_'

/-- A character class of the fragment: one character, a bracketed set, or `\w`. -/
inductive CharClass
  | char (c : Char)
  | set (cs : List Char)
  | word
  deriving DecidableEq, Repr

/-- Whether a character is in a class. -/
def CharClass.test : CharClass → Char → Bool
  | .char c, d => d == c
  | .set cs, d => cs.contains d
  | .word, d => isWordChar d

/-- How often an item's class repeats: once, `*` or `+`. -/
inductive Repeat
  | once
  | star
  | plus
  deriving DecidableEq, Repr

/-- An item of a pattern: a class and its repetition. -/
structure Item where
  cls : CharClass
  rep : Repeat
  deriving DecidableEq, Repr

/-- The item that matches the character `c` once. -/
def lit (c : Char) : Item := ⟨.char c, .once⟩

/-! ### Compiling -/

/-- RE2's metacharacters, `\.+*?()|[]{}^$`. -/
def isMeta (c : Char) : Bool := "\\.+*?()|[]\x7b\x7d^$".toList.contains c

/-- The character class at the head of a pattern, and the rest: `\w`, a bracketed character,
or a character that is not a metacharacter. -/
def parseClass : List Char → Option (CharClass × List Char)
  | '\\' :: 'w' :: rest => some (.word, rest)
  | '[' :: c :: ']' :: rest => if isMeta c then none else some (.set [c], rest)
  | c :: rest => if isMeta c then none else some (.char c, rest)
  | [] => none

/-- The repetition after a class, and the rest. -/
def parseRepeat : List Char → Repeat × List Char
  | '*' :: rest => (.star, rest)
  | '+' :: rest => (.plus, rest)
  | rest => (.once, rest)

/-- The items of a pattern, read one class and its repetition at a time; each item takes at
least one character, so `fuel` at the pattern's length is enough. -/
def compile.go : Nat → List Char → Option (List Item)
  | _, [] => some []
  | 0, _ :: _ => none
  | fuel + 1, c :: cs => do
    let (k, rest) ← parseClass (c :: cs)
    let (r, rest) := parseRepeat rest
    let items ← compile.go fuel rest
    pure (⟨k, r⟩ :: items)

/-- `regexp.Compile` on the fragment of RE2's syntax made of literal characters, `\w`,
bracketed characters and the repetitions `*` and `+`: the items of the pattern, or `none` for a
text outside the fragment. -/
def compile (pattern : String) : Option (List Item) :=
  compile.go pattern.length pattern.toList

theorem parseClass_lit {c : Char} (hc : isMeta c = false) (rest : List Char) :
    parseClass (c :: rest) = some (.char c, rest) := by
  have hb : isMeta '\\' = true := by decide
  have hk : isMeta '[' = true := by decide
  unfold parseClass
  split <;> simp_all

theorem parseRepeat_lit {c : Char} (hc : isMeta c = false) (rest : List Char) :
    parseRepeat (c :: rest) = (.once, c :: rest) := by
  have hs : isMeta '*' = true := by decide
  have hp : isMeta '+' = true := by decide
  unfold parseRepeat
  split <;> simp_all

/-- One step of `compile.go`: the class at the head, its repetition, then the rest. -/
theorem compile.go_cons {fuel : Nat} {c : Char} {cs rest : List Char} {k : CharClass}
    (h : parseClass (c :: cs) = some (k, rest)) :
    compile.go (fuel + 1) (c :: cs) =
      (compile.go fuel (parseRepeat rest).2).map (⟨k, (parseRepeat rest).1⟩ :: ·) := by
  rw [compile.go, h]
  simp only [Option.bind_eq_bind, Option.some_bind]
  cases compile.go fuel (parseRepeat rest).2 <;> rfl

/-- A run of characters that are not metacharacters compiles to literal items, when what
follows it does not start with a repetition. -/
theorem compile.go_lits (rest : List Char) (hrest : parseRepeat rest = (.once, rest))
    (fuel : Nat) :
    ∀ cs : List Char, (∀ c ∈ cs, isMeta c = false) →
      compile.go (fuel + cs.length) (cs ++ rest) = (compile.go fuel rest).map (cs.map lit ++ ·)
  | [], _ => by simp
  | c :: cs, h => by
    have hc := h c (List.mem_cons_self c cs)
    have hcs : ∀ d ∈ cs, isMeta d = false := fun d hd => h d (List.mem_cons_of_mem c hd)
    have hrep : parseRepeat (cs ++ rest) = (.once, cs ++ rest) := by
      cases cs with
      | nil => exact hrest
      | cons d cs => exact parseRepeat_lit (hcs d (List.mem_cons_self d cs)) _
    rw [List.length_cons, ← Nat.add_assoc, List.cons_append, compile.go_cons (parseClass_lit hc _),
      hrep, compile.go_lits rest hrest fuel cs hcs, Option.map_map]
    rfl

/-! ### What a pattern means -/

/-- The texts an item matches: characters of its class, one of them, any number (`*`), or at
least one (`+`). -/
def Item.Matches (i : Item) (u : List Char) : Prop :=
  (∀ c ∈ u, i.cls.test c) ∧
    match i.rep with
    | .once => u.length = 1
    | .star => True
    | .plus => u ≠ []

/-- The texts a sequence of items matches: one text per item, one after the other. -/
def Matches : List Item → List Char → Prop
  | [], u => u = []
  | i :: is, u => ∃ v w, u = v ++ w ∧ i.Matches v ∧ Matches is w

theorem matches_append : ∀ (is js : List Item) (u : List Char),
    Matches (is ++ js) u ↔ ∃ v w, u = v ++ w ∧ Matches is v ∧ Matches js w
  | [], js, u => ⟨fun h => ⟨[], u, rfl, rfl, h⟩, by rintro ⟨v, w, rfl, rfl, h⟩; exact h⟩
  | i :: is, js, u => by
    show (∃ v w, u = v ++ w ∧ i.Matches v ∧ Matches (is ++ js) w) ↔
      ∃ v w, u = v ++ w ∧ (∃ v' w', v = v' ++ w' ∧ i.Matches v' ∧ Matches is w') ∧ Matches js w
    simp only [matches_append is js]
    constructor
    · rintro ⟨v, _, rfl, hv, w, x, rfl, hw, hx⟩
      exact ⟨v ++ w, x, (List.append_assoc _ _ _).symm, ⟨v, w, rfl, hv, hw⟩, hx⟩
    · rintro ⟨_, x, rfl, ⟨v, w, rfl, hv, hw⟩, hx⟩
      exact ⟨v, w ++ x, List.append_assoc _ _ _, hv, w, x, rfl, hw, hx⟩

theorem matches_cons_once (k : CharClass) (is : List Item) (u : List Char) :
    Matches (⟨k, .once⟩ :: is) u ↔ ∃ c w, u = c :: w ∧ k.test c ∧ Matches is w := by
  simp only [Matches, Item.Matches, List.length_eq_one]
  constructor
  · rintro ⟨_, w, rfl, ⟨hv, c, rfl⟩, hw⟩
    exact ⟨c, w, rfl, hv c (List.mem_singleton_self c), hw⟩
  · rintro ⟨c, w, rfl, hc, hw⟩
    exact ⟨[c], w, rfl, ⟨by simpa using hc, c, rfl⟩, hw⟩

theorem matches_cons_star (k : CharClass) (is : List Item) (u : List Char) :
    Matches (⟨k, .star⟩ :: is) u ↔ ∃ v w, u = v ++ w ∧ (∀ c ∈ v, k.test c) ∧ Matches is w := by
  simp [Matches, Item.Matches]

theorem matches_cons_plus (k : CharClass) (is : List Item) (u : List Char) :
    Matches (⟨k, .plus⟩ :: is) u ↔
      ∃ v w, u = v ++ w ∧ v ≠ [] ∧ (∀ c ∈ v, k.test c) ∧ Matches is w := by
  simp only [Matches, Item.Matches]
  constructor
  · rintro ⟨v, w, rfl, ⟨hv, hne⟩, hw⟩; exact ⟨v, w, rfl, hne, hv, hw⟩
  · rintro ⟨v, w, rfl, hne, hv, hw⟩; exact ⟨v, w, rfl, ⟨hv, hne⟩, hw⟩

/-- Literal items match exactly their characters. -/
theorem matches_lits : ∀ (cs : List Char) (u : List Char), Matches (cs.map lit) u ↔ u = cs
  | [], u => Iff.rfl
  | c :: cs, u => by
    rw [List.map_cons, lit, matches_cons_once]
    simp only [CharClass.test, beq_iff_eq, matches_lits cs]
    constructor
    · rintro ⟨d, w, rfl, rfl, rfl⟩; rfl
    · rintro rfl; exact ⟨c, cs, rfl, rfl, rfl⟩

/-! ### Matching -/

/-- Backtracking over a starred class: `m` on the text, or one more character of the class
and again. -/
def matchStar (k : CharClass) (m : List Char → Bool) : List Char → Bool
  | [] => m []
  | c :: s => m (c :: s) || (k.test c && matchStar k m s)

/-- Whether a prefix of the text matches the items. -/
def matchPrefix : List Item → List Char → Bool
  | [], _ => true
  | ⟨k, .once⟩ :: is, c :: s => k.test c && matchPrefix is s
  | ⟨_, .once⟩ :: _, [] => false
  | ⟨k, .star⟩ :: is, s => matchStar k (matchPrefix is) s
  | ⟨k, .plus⟩ :: is, c :: s => k.test c && matchStar k (matchPrefix is) s
  | ⟨_, .plus⟩ :: _, [] => false

/-- `Regexp.MatchString`: whether some piece of the text matches the items. -/
def matchString (re : List Item) (s : String) : Bool :=
  s.toList.tails.any (matchPrefix re)

theorem matchStar_iff (k : CharClass) (m : List Char → Bool) :
    ∀ s : List Char, matchStar k m s = true ↔
      ∃ v w, s = v ++ w ∧ (∀ c ∈ v, k.test c) ∧ m w = true
  | [] => by
    rw [matchStar]
    constructor
    · intro h; exact ⟨[], [], rfl, by simp, h⟩
    · rintro ⟨v, w, hs, -, h⟩
      obtain ⟨rfl, rfl⟩ := List.append_eq_nil.mp hs.symm
      exact h
  | c :: s => by
    rw [matchStar, Bool.or_eq_true, Bool.and_eq_true, matchStar_iff k m s]
    constructor
    · rintro (h | ⟨hc, v, w, rfl, hv, hw⟩)
      · exact ⟨[], c :: s, rfl, by simp, h⟩
      · exact ⟨c :: v, w, rfl, List.forall_mem_cons.mpr ⟨hc, hv⟩, hw⟩
    · rintro ⟨_ | ⟨d, v⟩, w, hs, hv, hw⟩
      · exact Or.inl (by simpa [hs] using hw)
      · obtain ⟨rfl, rfl⟩ := List.cons_eq_cons.mp hs
        exact Or.inr ⟨hv _ (List.mem_cons_self _ _), v, w, rfl,
          fun c hc => hv c (List.mem_cons_of_mem _ hc), hw⟩

/-- A prefix of the text matches a sequence of items. -/
def PrefixMatches (re : List Item) (s : List Char) : Prop :=
  ∃ u w, s = u ++ w ∧ Matches re u

theorem prefixMatches_nil (s : List Char) : PrefixMatches [] s :=
  ⟨[], s, rfl, rfl⟩

/-- A prefix matches `i :: is` when a prefix matches `i` and a prefix of what follows
matches `is`. -/
theorem prefixMatches_cons (i : Item) (is : List Item) (s : List Char) :
    PrefixMatches (i :: is) s ↔ ∃ v w, s = v ++ w ∧ i.Matches v ∧ PrefixMatches is w := by
  constructor
  · rintro ⟨_, w, rfl, v, u, rfl, hv, hu⟩
    exact ⟨v, u ++ w, List.append_assoc _ _ _, hv, u, w, rfl, hu⟩
  · rintro ⟨v, _, rfl, hv, u, w, rfl, hu⟩
    exact ⟨v ++ u, w, (List.append_assoc _ _ _).symm, v, u, rfl, hv, hu⟩

theorem item_matches_once {k : CharClass} {v : List Char} :
    Item.Matches ⟨k, .once⟩ v ↔ ∃ c, v = [c] ∧ k.test c := by
  simp only [Item.Matches, List.length_eq_one]
  constructor
  · rintro ⟨hv, c, rfl⟩; exact ⟨c, rfl, hv c (List.mem_singleton_self c)⟩
  · rintro ⟨c, rfl, hc⟩; exact ⟨by simpa using hc, c, rfl⟩

/-- The backtracking matcher finds a matching prefix exactly when there is one. -/
theorem matchPrefix_iff : ∀ (re : List Item) (s : List Char),
    matchPrefix re s = true ↔ PrefixMatches re s
  | [], s => by simp [matchPrefix, prefixMatches_nil]
  | ⟨k, .once⟩ :: is, s => by
    rw [prefixMatches_cons]
    cases s with
    | nil => simp [matchPrefix, item_matches_once]
    | cons c s =>
      rw [matchPrefix, Bool.and_eq_true, matchPrefix_iff is s]
      constructor
      · rintro ⟨hc, h⟩; exact ⟨[c], s, rfl, item_matches_once.mpr ⟨c, rfl, hc⟩, h⟩
      · rintro ⟨v, w, hs, hv, h⟩
        obtain ⟨d, rfl, hd⟩ := item_matches_once.mp hv
        obtain ⟨rfl, rfl⟩ := List.cons_eq_cons.mp hs
        exact ⟨hd, h⟩
  | ⟨k, .star⟩ :: is, s => by
    rw [prefixMatches_cons, matchPrefix, matchStar_iff]
    simp only [matchPrefix_iff is, Item.Matches, and_true]
  | ⟨k, .plus⟩ :: is, s => by
    rw [prefixMatches_cons]
    cases s with
    | nil => simp [matchPrefix, Item.Matches]
    | cons c s =>
      rw [matchPrefix, Bool.and_eq_true, matchStar_iff]
      simp only [matchPrefix_iff is, Item.Matches]
      constructor
      · rintro ⟨hc, v, w, rfl, hv, h⟩
        exact ⟨c :: v, w, rfl, ⟨List.forall_mem_cons.mpr ⟨hc, hv⟩, List.cons_ne_nil _ _⟩, h⟩
      · rintro ⟨_ | ⟨d, v⟩, w, hs, ⟨hv, hne⟩, h⟩
        · exact absurd rfl hne
        · obtain ⟨rfl, rfl⟩ := List.cons_eq_cons.mp hs
          exact ⟨hv _ (List.mem_cons_self _ _), v, w, rfl,
            fun c hc => hv c (List.mem_cons_of_mem _ hc), h⟩

/-- `MatchString` is true exactly when some piece of the text matches the items. -/
theorem matchString_iff (re : List Item) (s : String) :
    matchString re s = true ↔ ∃ p u w, s.toList = p ++ u ++ w ∧ Matches re u := by
  simp only [matchString, List.any_eq_true, List.mem_tails, matchPrefix_iff]
  constructor
  · rintro ⟨_, ⟨p, hp⟩, u, w, rfl, h⟩
    exact ⟨p, u, w, by rw [← hp, List.append_assoc], h⟩
  · rintro ⟨p, u, w, hs, h⟩
    exact ⟨u ++ w, ⟨p, by rw [hs, List.append_assoc]⟩, u, w, rfl, h⟩

end WsManager.Regexp

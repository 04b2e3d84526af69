import WsManager.Support.Strings

/-!
# Cli — the root command of `gp`

`Execute` runs the command `gp` was asked for and records its use for analytics: the command's
name, taken from its path by `GetCommandName`, the outcome, and an error code.  A binary named
`gp-<name>` (or `<name>`) for a registered command `<name>` runs that command.

The outcomes and error codes are constants of the `utils` package, which is not under src/; the
model takes them as a parameter `utils`.

* `getCommandName_commandPath`: the name recorded for a command is the list of the names of
  the subcommands on its path below `gp`.
* `entrypointArgs_symlink`: called through `<dir>/gp-<name>` for a registered `<name>`, `gp`
  runs `<name>` with the same arguments.
-/

namespace WsManager

/-- `GpError`: an error of a `gp` command, with what `Execute` records of it.  `err` is the
text of the wrapped `error`, `none` for `nil`. -/
structure GpError where
  err : Option String := none
  message : String := ""
  outCome : String := ""
  errorCode : String := ""
  silence : Bool := false
  deriving DecidableEq, Repr

/-- `GpError.Error`: nothing for a silenced error, else the message and the wrapped error's
text, with `": "` between them when both are there. -/
def GpError.error (e : GpError) : String :=
  if e.silence then ""
  else
    let ret := e.message
    let ret := if ret ≠ "" ∧ e.err.isSome then ret ++ ": " else ret
    match e.err with
    | some err => ret ++ err
    | none => ret

/-- The constants of `gitpod-cli/pkg/utils` that `gp` records: outcomes and error codes. -/
structure Utils where
  outcomeSuccess : String
  outcomeUserErr : String
  outcomeSystemErr : String
  userErrorCode : String
  systemErrorCode : String

/-! ### The command's name -/

/-- `rootCmdName`. -/
def rootCmdName : String := "gp"

/-- `GetCommandName`: the words of a command path after `gp`. -/
def getCommandName (path : String) : List String :=
  Strings.fields (Strings.trimSpace (Strings.trimPrefix path rootCmdName))

/-- cobra's `CommandPath` of the command reached from the root through the subcommands named
`names`: each name after its parent's path and a space. -/
def commandPath (names : List String) : String :=
  names.foldl (fun path name => path ++ " " ++ name) rootCmdName

theorem commandPath_toList_aux :
    ∀ (names : List String) (path : String),
      (names.foldl (fun path name => path ++ " " ++ name) path).toList =
        path.toList ++ names.flatMap fun n => ' ' :: n.toList
  | [], path => (List.append_nil _).symm
  | n :: names, path => by
    rw [List.foldl_cons, commandPath_toList_aux names, List.flatMap_cons]
    simp only [String.toList, String.data_append, List.append_assoc]
    rfl

theorem commandPath_toList (names : List String) :
    (commandPath names).toList = ['g', 'p'] ++ names.flatMap fun n => ' ' :: n.toList :=
  commandPath_toList_aux names rootCmdName

/-- A command's name is fit to be a field: not empty, and with no space in it. -/
def IsWord (w : List Char) : Prop := w ≠ [] ∧ ∀ c ∈ w, Unicode.isSpace c = false

instance : DecidablePred IsWord := fun w => inferInstanceAs (Decidable (w ≠ [] ∧ _))

theorem fieldsOf_word {w : List Char} (hw : IsWord w) : Strings.fieldsOf w = [w] := by
  rw [Strings.fieldsOf, List.splitOnP_eq_single _ _ fun c hc h => by simp [hw.2 c hc] at h]
  simp [hw.1]

theorem fieldsOf_word_space {w : List Char} (hw : IsWord w) (rest : List Char) :
    Strings.fieldsOf (w ++ ' ' :: rest) = w :: Strings.fieldsOf rest := by
  rw [Strings.fieldsOf, List.splitOnP_first _ _ (fun c hc h => by simp [hw.2 c hc] at h) ' '
    (by decide)]
  simp [hw.1, Strings.fieldsOf]

/-- The fields of words each after a space are the words. -/
theorem fieldsOf_flatMap_space :
    ∀ ws : List (List Char), (∀ w ∈ ws, IsWord w) →
      Strings.fieldsOf (ws.flatMap fun w => ' ' :: w) = ws
  | [], _ => rfl
  | [w], h => by
    rw [List.flatMap_singleton, Strings.fieldsOf_space_cons (by decide),
      fieldsOf_word (h w (List.mem_singleton_self w))]
  | w :: w' :: ws, h => by
    have ih := fieldsOf_flatMap_space (w' :: ws) fun v hv => h v (List.mem_cons_of_mem _ hv)
    rw [List.flatMap_cons, List.cons_append, Strings.fieldsOf_space_cons (by decide),
      List.flatMap_cons, List.cons_append, fieldsOf_word_space (h w (List.mem_cons_self _ _)),
      ← Strings.fieldsOf_space_cons (c := ' ') (by decide), ← List.cons_append,
      ← List.flatMap_cons, ih]

/-- The name `gp` records for a command is the list of the names of the subcommands on its
path below `gp`, when each is a word. -/
theorem getCommandName_commandPath (names : List String)
    (h : ∀ n ∈ names, IsWord n.toList) :
    getCommandName (commandPath names) = names := by
  have hpre : (['g', 'p'] : List Char).isPrefixOf (commandPath names).toList = true := by
    rw [commandPath_toList, List.isPrefixOf_iff_prefix]
    exact List.prefix_append _ _
  rw [getCommandName, Strings.fields_trimSpace, Strings.trimPrefix, rootCmdName]
  simp only [String.toList] at hpre ⊢
  have hmap : (names.flatMap fun n => ' ' :: n.toList) =
      (names.map String.toList).flatMap fun w => ' ' :: w := by
    rw [List.flatMap_map]
  rw [if_pos hpre]
  simp only [Strings.fields, String.toList, String.length]
  rw [← String.toList, commandPath_toList, List.drop_left, hmap,
    fieldsOf_flatMap_space _ (by simpa using h), List.map_map]
  exact List.map_id'' (fun _ => rfl) names

/-- `gp ports await` is recorded as `["ports", "await"]`. -/
theorem getCommandName_commandPath_ports_await :
    (∀ n ∈ ["ports", "await"], IsWord n.toList) ∧
      getCommandName (commandPath ["ports", "await"]) = ["ports", "await"] :=
  ⟨by decide, getCommandName_commandPath _ (by decide)⟩

/-- The `TrimSpace` of `GetCommandName` changes nothing: the fields of the path after `gp` are
the same without it. -/
theorem getCommandName_eq_fields (path : String) :
    getCommandName path = Strings.fields (Strings.trimPrefix path rootCmdName) :=
  Strings.fields_trimSpace _

/-! ### The entry point -/

theorem takeWhile_reverse_sep {name : List Char} (hs : '/' ∉ name) (dir : List Char) :
    (name.reverse ++ '/' :: dir).takeWhile (· ≠ '/') = name.reverse := by
  rw [List.takeWhile_append_of_pos (fun c hc => by
    simp only [ne_eq, decide_eq_true_eq]; rintro rfl; exact hs (List.mem_reverse.mp hc))]
  simp

/-- The base of a path is its last element, when that is not empty and the path does not end
in a slash. -/
theorem Filepath.base_append {dir name : List Char} (hn : name ≠ []) (hs : '/' ∉ name) :
    Filepath.base (String.mk (dir ++ '/' :: name)) = String.mk name := by
  have hrev : (dir ++ '/' :: name).reverse = name.reverse ++ '/' :: dir.reverse := by simp
  obtain ⟨x, rest, hxr⟩ := List.exists_cons_of_ne_nil (List.reverse_ne_nil_iff.mpr hn)
  have hx : ¬ x = '/' := fun h => hs (List.mem_reverse.mp (hxr ▸ h ▸ List.mem_cons_self x rest))
  have hdrop : (name.reverse ++ '/' :: dir.reverse).dropWhile (· = '/') =
      name.reverse ++ '/' :: dir.reverse := by
    rw [hxr, List.cons_append, List.dropWhile_cons_of_neg (by simpa using hx)]
  have hne : String.mk (dir ++ '/' :: name) ≠ "" := fun h => by
    have := congrArg String.data h; simp at this
  unfold Filepath.base
  simp only [String.toList, hrev, hdrop, takeWhile_reverse_sep hs, List.reverse_reverse, hne,
    if_false, hn]

/-- The arguments `Execute` hands to cobra: when the base name of the binary, without a leading
`gp-`, is the name of one of the root's `commands`, that name is put before the arguments, so
that `gp` runs that command. -/
def execute.entrypointArgs (commands : List String) (arg0 : String) (args : List String) :
    List String :=
  let entrypoint := Strings.trimPrefix (Filepath.base arg0) "gp-"
  match commands.find? (· = entrypoint) with
  | some _ => arg0 :: entrypoint :: args
  | none => arg0 :: args

/-- Called through `<dir>/gp-<name>` for a registered command `<name>`, `gp` runs `<name>`
with the same arguments. -/
theorem entrypointArgs_symlink {commands : List String} {name : String} (hc : name ∈ commands)
    (hs : '/' ∉ name.toList) (dir : String) (args : List String) :
    execute.entrypointArgs commands (dir ++ "/gp-" ++ name) args =
      (dir ++ "/gp-" ++ name) :: name :: args := by
  have hpath : dir ++ "/gp-" ++ name =
      String.mk (dir.toList ++ '/' :: 'g' :: 'p' :: '-' :: name.toList) :=
    String.ext (by simp only [String.data_append, List.append_assoc]; rfl)
  have hbase : Filepath.base (dir ++ "/gp-" ++ name) = "gp-" ++ name := by
    rw [hpath]
    exact Filepath.base_append (List.cons_ne_nil _ _) (by simpa using hs)
  have htrim : Strings.trimPrefix ("gp-" ++ name) "gp-" = name := by
    simp [Strings.trimPrefix, List.isPrefixOf_iff_prefix]
    rfl
  obtain ⟨y, hy⟩ := Option.isSome_iff_exists.mp
    ((List.find?_isSome (p := fun x => decide (x = name))).mpr ⟨name, hc, by simp⟩)
  simp only [execute.entrypointArgs, hbase, htrim, hy]

/-- `/usr/local/bin/gp-open a.txt` runs `gp open a.txt`. -/
theorem entrypointArgs_symlink_open :
    "open" ∈ ["ports", "open", "stop"] ∧ '/' ∉ "open".toList ∧
      execute.entrypointArgs ["ports", "open", "stop"] ("/usr/local/bin" ++ "/gp-" ++ "open")
          ["a.txt"] = ("/usr/local/bin" ++ "/gp-" ++ "open") :: "open" :: ["a.txt"] :=
  ⟨by decide, by decide, entrypointArgs_symlink (by decide) (by decide) "/usr/local/bin" ["a.txt"]⟩

/-! ### What is recorded -/

/-- The error `rootCmd.Execute` returned: a `GpError`, or an error of another type, by its
text. -/
inductive CmdError
  | gpError (e : GpError)
  | other (text : String)
  deriving DecidableEq, Repr

section
variable (utils : Utils)

/-- What `Execute` records of a run in `TrackCommandUsageEvent`, its outcome and error code,
and the exit code, for the error the command returned; `errorCode` is the error code recorded
before. -/
def execute.track (errorCode : String) : Option CmdError → String × String × Nat
  | none => (utils.outcomeSuccess, errorCode, 0)
  | some err =>
    let (outcome, errorCode) : String × String :=
      match err with
      | .gpError e =>
        (if e.outCome ≠ "" then e.outCome else utils.outcomeSystemErr,
          if e.errorCode ≠ "" then e.errorCode else errorCode)
      | .other _ => (utils.outcomeSystemErr, errorCode)
    let errorCode :=
      if errorCode = "" then
        if outcome = utils.outcomeUserErr then utils.userErrorCode
        else if outcome = utils.outcomeSystemErr then utils.systemErrorCode
        else errorCode
      else errorCode
    (outcome, errorCode, 1)

/-- What `Execute` prints on standard error: the error's text and a new line. -/
def execute.stderr : Option CmdError → String
  | none => ""
  | some (.gpError e) => e.error ++ "\n"
  | some (.other text) => text ++ "\n"

end

end WsManager

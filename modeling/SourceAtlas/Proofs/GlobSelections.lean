import Mathlib.Data.List.DropRight
import SourceAtlas.Discovery.Basic

/-! What a selection of globs says about an entry. The globs to ignore come after those to include
and the last one that matches decides, so a glob to ignore always wins. One more glob to ignore can
only make a selection stricter. One more glob to include can only make it less strict, once there
is one: the first one leaves out every file that it does not match. -/
namespace SourceAtlas.GlobSelections

/-- A glob that says what to include: it is not blank, and it does not start with the mark of the
opposite or of a comment. -/
structure Positive (glob : String) : Prop where
  written : ∃ c ∈ glob.toList, Chars.isBlank c = false
  unmarked : glob.toList.head? ≠ some '!'
  noComment : glob.toList.head? ≠ some '#'

/-- Whether a line is valid in a selection: it has no fault, and its rule does not nest too deep. -/
def accepts (line : String) : Bool :=
  match Selection.rule line with
  | .error _ => false
  | .ok none => true
  | .ok (some rule) => Glob.isPlain rule.glob || !Glob.isTooDeep rule.glob

/-- Valid globs. A glob to ignore is read behind the mark of the opposite. -/
structure Accepted (included ignored : List String) : Prop where
  positive : ∀ glob ∈ included, Positive glob
  included : ∀ glob ∈ included, accepts glob = true
  ignored : ∀ glob ∈ ignored, accepts ("!" ++ glob) = true

/-- The rule of a line, if it has one. -/
def ruleOf? (line : String) : Option IgnoreRule :=
  (Selection.rule line).toOption.join

/-- The rules of some lines. -/
def rulesOf (lines : List String) : IgnoreRules :=
  lines.filterMap ruleOf?

/-- The selection of some globs to include and to ignore. -/
def selected (included ignored : List String) : Selection :=
  ⟨rulesOf included ++ rulesOf (ignored.map ("!" ++ ·))⟩

theorem accepted_lines (accepted : Accepted included ignored) :
    ∀ line ∈ Selection.lines included ignored, accepts line = true := by
  intro line member
  rcases List.mem_append.mp member with asked | marked
  · exact accepted.included line asked
  · obtain ⟨glob, asked, rfl⟩ := List.mem_map.mp marked
    exact accepted.ignored glob asked

theorem accepted_ignoring (accepted : Accepted included ignored)
    (valid : accepts ("!" ++ glob) = true) : Accepted included (ignored ++ [glob]) := by
  refine ⟨accepted.positive, accepted.included, ?_⟩
  exact List.forall_mem_append.mpr ⟨accepted.ignored, List.forall_mem_singleton.mpr valid⟩

theorem accepted_including (accepted : Accepted included ignored) (positive : Positive glob)
    (valid : accepts glob = true) : Accepted (included ++ [glob]) ignored := by
  refine ⟨?_, ?_, accepted.ignored⟩
  · exact List.forall_mem_append.mpr ⟨accepted.positive, List.forall_mem_singleton.mpr positive⟩
  · exact List.forall_mem_append.mpr ⟨accepted.included, List.forall_mem_singleton.mpr valid⟩

/-! Valid globs make a selection. -/

theorem rule_accepted (accepted : accepts line = true) :
    Selection.rule line = .ok (ruleOf? line) := by
  rw [ruleOf?]
  rw [accepts] at accepted
  cases read : Selection.rule line with
  | error fault =>
    rw [read] at accepted
    cases accepted
  | ok rule => rfl

theorem rule_usable (accepted : accepts line = true) (found : ruleOf? line = some rule) :
    Glob.isPlain rule.glob = true ∨ Glob.isTooDeep rule.glob = false := by
  rw [accepts, rule_accepted accepted, found] at accepted
  simpa using accepted

theorem mapM_accepted {lines : List String} (accepted : ∀ line ∈ lines, accepts line = true) :
    lines.mapM Selection.rule = .ok (lines.map ruleOf?) := by
  induction lines with
  | nil => rfl
  | cons line rest ih =>
    obtain ⟨first, others⟩ := List.forall_mem_cons.mp accepted
    rw [List.mapM_cons, rule_accepted first, ih others]
    rfl

theorem depthFault_usable
    (usable : ∀ glob ∈ globs, Glob.isPlain glob = true ∨ Glob.isTooDeep glob = false) :
    Glob.depthFault? globs = none := by
  have shallow (p : Glob → Bool) :
      ∀ glob ∈ (globs.filter (!Glob.isPlain ·)).filter p, Glob.isTooDeep glob = false := by
    intro glob member
    obtain ⟨given, compound⟩ := List.mem_filter.mp (List.mem_filter.mp member).1
    rcases usable glob given with plain | shallow
    · simp [plain] at compound
    · exact shallow
  simp only [Glob.depthFault?, List.partition_eq_filter_filter]
  rw [List.find?_eq_none.mpr fun glob member => by simp [shallow _ glob member]]
  simp only [Option.map_eq_none_iff]
  exact List.findIdx?_eq_none_iff.mpr (shallow _)

/-- Globs that are valid one by one are valid together. -/
theorem ofGlobs_accepted (accepted : Accepted included ignored) :
    Selection.ofGlobs included ignored = .ok (selected included ignored) := by
  have valid := accepted_lines accepted
  have rules : ((Selection.lines included ignored).map ruleOf?).filterMap id =
      (selected included ignored).rules := by
    rw [List.filterMap_map, Function.id_comp, Selection.lines, List.filterMap_append]
    rfl
  have shallow : IgnoreRules.depthFault? (selected included ignored).rules = none := by
    apply depthFault_usable
    intro glob member
    obtain ⟨rule, given, rfl⟩ := List.mem_map.mp member
    rw [← rules, List.filterMap_map, Function.id_comp] at given
    obtain ⟨line, asked, found⟩ := List.mem_filterMap.mp given
    exact rule_usable (valid line asked) found
  simp only [Selection.ofGlobs, mapM_accepted valid, bind, Except.bind, rules, shallow]
  rfl

/-! The verdicts of the rules. -/

theorem dropMarks_verdict (line : List Char) :
    (IgnoreRule.dropMarks line).2.1 = if line.head? = some '!' then .keep else .skip := by
  unfold IgnoreRule.dropMarks
  split
  · rfl
  · rfl
  · dsimp only
    split <;> simp
  · rename_i unmarked
    have plain : ¬ line.head? = some '!' := by
      intro mark
      obtain ⟨rest, rfl⟩ := List.head?_eq_some_iff.mp mark
      exact unmarked rest rfl
    rw [if_neg plain]
    dsimp only
    split <;> rfl

/-- A line that is not blank keeps its first character when it is trimmed. -/
theorem trimLine_head (written : ∃ c ∈ line, Chars.isBlank c = false) :
    (IgnoreRule.trimLine line).head? = line.head? := by
  rw [IgnoreRule.trimLine]
  split
  · rfl
  · obtain ⟨c, member, visible⟩ := written
    have nonempty : Chars.trimEnd line ≠ [] := by
      intro empty
      rw [List.rdropWhile_eq_nil_iff.mp empty c member] at visible
      cases visible
    obtain ⟨rest, joined⟩ : Chars.trimEnd line <+: line := List.rdropWhile_prefix _ _
    rw [← List.head?_append_of_ne_nil _ nonempty, joined]

/-- A line that is neither blank nor a comment is a rule, and its mark decides the verdict. -/
theorem parse_written (written : ∃ c ∈ line, Chars.isBlank c = false)
    (noComment : line.head? ≠ some '#') :
    ∃ text onlyDirectories, IgnoreRule.parse false line = (Glob.parse false text).map fun glob =>
      some ⟨glob, if line.head? = some '!' then .keep else .skip, onlyDirectories⟩ := by
  have first := trimLine_head written
  have verdict := dropMarks_verdict (IgnoreRule.trimLine line)
  have nonempty : ¬ (IgnoreRule.trimLine line).isEmpty = true := by
    intro empty
    rw [List.isEmpty_iff.mp empty] at first
    obtain ⟨c, member, -⟩ := written
    rw [List.head?_eq_none_iff.mp first.symm] at member
    cases member
  rw [first] at verdict
  rw [← verdict, IgnoreRule.parse, if_neg (by simpa using noComment), if_neg nonempty]
  exact ⟨_, _, rfl⟩

theorem rule_written (written : ∃ c ∈ line.toList, Chars.isBlank c = false)
    (noComment : line.toList.head? ≠ some '#') (accepted : accepts line = true) :
    ∃ rule, ruleOf? line = some rule ∧
      rule.verdict = if line.toList.head? = some '!' then .keep else .skip := by
  obtain ⟨text, onlyDirectories, parsed⟩ := parse_written written noComment
  have read := rule_accepted accepted
  rw [Selection.rule, parsed] at read
  cases glob : Glob.parse false text with
  | error fault =>
    rw [glob] at read
    cases read
  | ok tokens =>
    rw [glob] at read
    exact ⟨_, (Except.ok.inj read).symm, rfl⟩

theorem included_rule (positive : Positive glob) (valid : accepts glob = true) :
    ∃ rule, ruleOf? glob = some rule ∧ rule.verdict = .skip := by
  obtain ⟨rule, found, verdict⟩ := rule_written positive.written positive.noComment valid
  rw [if_neg positive.unmarked] at verdict
  exact ⟨rule, found, verdict⟩

theorem ignored_rule (valid : accepts ("!" ++ glob) = true) :
    ∃ rule, ruleOf? ("!" ++ glob) = some rule ∧ rule.verdict = .keep := by
  have mark : ("!" ++ glob).toList = '!' :: glob.toList := by
    rw [String.toList_append]
    rfl
  obtain ⟨rule, found, verdict⟩ := rule_written
    ⟨'!', by rw [mark]; exact List.mem_cons_self, by decide⟩ (by simp [mark]) valid
  rw [mark, List.head?_cons, if_pos rfl] at verdict
  exact ⟨rule, found, verdict⟩

theorem rulesOf_uniform
    (each : ∀ line ∈ lines, ∃ rule, ruleOf? line = some rule ∧ rule.verdict = verdict) :
    ∀ rule ∈ rulesOf lines, rule.verdict = verdict := by
  intro rule member
  obtain ⟨line, asked, found⟩ := List.mem_filterMap.mp member
  obtain ⟨own, same, decided⟩ := each line asked
  rw [found] at same
  cases same
  exact decided

theorem rulesOf_included (accepted : Accepted included ignored) :
    ∀ rule ∈ rulesOf included, rule.verdict = .skip := by
  apply rulesOf_uniform
  intro glob asked
  exact included_rule (accepted.positive glob asked) (accepted.included glob asked)

theorem rulesOf_ignored (accepted : Accepted included ignored) :
    ∀ rule ∈ rulesOf (ignored.map ("!" ++ ·)), rule.verdict = .keep := by
  apply rulesOf_uniform
  intro line marked
  obtain ⟨glob, asked, rfl⟩ := List.mem_map.mp marked
  exact ignored_rule (accepted.ignored glob asked)

theorem rulesOf_isEmpty (accepted : Accepted included ignored) :
    (rulesOf included).isEmpty = included.isEmpty := by
  cases included with
  | nil => rfl
  | cons glob others =>
    obtain ⟨rule, found, -⟩ := included_rule (accepted.positive glob List.mem_cons_self)
      (accepted.included glob List.mem_cons_self)
    rw [rulesOf, List.filterMap_cons_some found]
    rfl

/-! The verdict of a selection. -/

/-- Whether a rule matches an entry. -/
def applies (path : List Char) (isDirectory : Bool) (rule : IgnoreRule) : Bool :=
  rule.covers (String.ofList path).toUTF8.toList isDirectory

/-- Whether one of some lines matches an entry. -/
def applyAny (lines : List String) (path : List Char) (isDirectory : Bool) : Bool :=
  (rulesOf lines).any (applies path isDirectory)

theorem applyAny_append (first second : List String) (path : List Char) (isDirectory : Bool) :
    applyAny (first ++ second) path isDirectory =
      (applyAny first path isDirectory || applyAny second path isDirectory) := by
  rw [applyAny, rulesOf, List.filterMap_append, List.any_append]
  rfl

/-- Of two lists of rules the second decides, unless none of its rules matches. -/
theorem verdict_append (first second : IgnoreRules) (path : List Char) (isDirectory : Bool) :
    IgnoreRules.verdict? (first ++ second) path isDirectory =
      (second.verdict? path isDirectory).or (first.verdict? path isDirectory) := by
  simp only [IgnoreRules.verdict?, List.filter_append, List.getLast?_append, Option.map_or]

theorem verdict_uniform (same : ∀ rule ∈ rulesOf lines, rule.verdict = verdict)
    (path : List Char) (isDirectory : Bool) :
    (rulesOf lines).verdict? path isDirectory =
      if applyAny lines path isDirectory then some verdict else none := by
  have spelled : (rulesOf lines).verdict? path isDirectory =
      ((rulesOf lines).filter (applies path isDirectory)).getLast?.map (·.verdict) := rfl
  rw [spelled]
  cases last : ((rulesOf lines).filter (applies path isDirectory)).getLast? with
  | none =>
    have missing : applyAny lines path isDirectory = false := by
      simpa [applyAny] using List.filter_eq_nil_iff.mp (List.getLast?_eq_none_iff.mp last)
    rw [missing]
    rfl
  | some rule =>
    obtain ⟨given, hit⟩ := List.mem_filter.mp (List.mem_of_getLast? last)
    have found : applyAny lines path isDirectory = true := List.any_eq_true.mpr ⟨rule, given, hit⟩
    rw [if_pos found, ← same rule given]
    rfl

theorem selected_asks (accepted : Accepted included ignored) :
    (selected included ignored).rules.any (·.verdict == .skip) = !included.isEmpty := by
  have leaving : (rulesOf (ignored.map ("!" ++ ·))).any (·.verdict == .skip) = false := by
    apply List.any_eq_false.mpr
    intro rule member
    rw [rulesOf_ignored accepted rule member]
    decide
  rw [selected, List.any_append, leaving, Bool.or_false, ← rulesOf_isEmpty accepted]
  have keeping := rulesOf_included accepted
  cases shape : rulesOf included with
  | nil => rfl
  | cons rule others =>
    rw [shape] at keeping
    rw [List.any_cons, keeping rule List.mem_cons_self]
    rfl

/-- A glob to ignore decides first, then a glob to include. An entry that none of them matches is
left out if it is a file and something is to be included. -/
theorem verdict_eq (accepted : Accepted included ignored) (path : List Char)
    (isDirectory : Bool) :
    (selected included ignored).verdict? path isDirectory =
      if applyAny (ignored.map ("!" ++ ·)) path isDirectory then some .skip
      else if applyAny included path isDirectory then some .keep
      else if !isDirectory && !included.isEmpty then some .skip
      else none := by
  rw [Selection.verdict?, selected_asks accepted, selected, verdict_append,
    verdict_uniform (rulesOf_included accepted), verdict_uniform (rulesOf_ignored accepted)]
  by_cases ignores : applyAny (ignored.map ("!" ++ ·)) path isDirectory = true
  · rw [if_pos ignores, if_pos ignores]
    rfl
  · rw [if_neg ignores, if_neg ignores, Option.none_or]
    by_cases includes : applyAny included path isDirectory = true
    · rw [if_pos includes, if_pos includes]
      rfl
    · rw [if_neg includes, if_neg includes]

/-- A verdict that leaves out at least what another one leaves out. -/
def Stricter (narrow wide : Option Verdict) : Prop :=
  narrow = wide ∨ narrow = some .skip ∨ wide = some .keep

theorem ignoring_stricter (accepted : Accepted included ignored)
    (valid : accepts ("!" ++ glob) = true) (path : List Char) (isDirectory : Bool) :
    Stricter ((selected included (ignored ++ [glob])).verdict? path isDirectory)
      ((selected included ignored).verdict? path isDirectory) := by
  rw [verdict_eq accepted, verdict_eq (accepted_ignoring accepted valid), List.map_append,
    List.map_singleton, applyAny_append]
  cases applyAny (ignored.map ("!" ++ ·)) path isDirectory with
  | true => exact .inl rfl
  | false =>
    cases applyAny ["!" ++ glob] path isDirectory with
    | true => exact .inr (.inl rfl)
    | false => exact .inl rfl

theorem including_stricter (accepted : Accepted included ignored) (asked : included ≠ [])
    (positive : Positive glob) (valid : accepts glob = true) (path : List Char)
    (isDirectory : Bool) :
    Stricter ((selected included ignored).verdict? path isDirectory)
      ((selected (included ++ [glob]) ignored).verdict? path isDirectory) := by
  have asks : (included ++ [glob]).isEmpty = included.isEmpty := by
    cases included with
    | nil => exact absurd rfl asked
    | cons first others => rfl
  rw [verdict_eq accepted, verdict_eq (accepted_including accepted positive valid), asks,
    applyAny_append]
  cases applyAny (ignored.map ("!" ++ ·)) path isDirectory with
  | true => exact .inl rfl
  | false =>
    cases applyAny included path isDirectory with
    | true => exact .inl rfl
    | false =>
      cases applyAny [glob] path isDirectory with
      | true => exact .inr (.inr rfl)
      | false => exact .inl rfl

end SourceAtlas.GlobSelections

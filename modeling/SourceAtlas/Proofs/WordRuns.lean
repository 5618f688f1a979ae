import Mathlib.Data.List.DropRight
import SourceAtlas.Text

/-! White space in texts. Trimming only takes it from the ends, so a trimmed text has none left to
take. -/
namespace SourceAtlas.TrimmedTexts

private theorem dropWhile_of_prefix {p : α → Bool} {l cs : List α} (lead : l <+: cs.dropWhile p) :
    l.dropWhile p = l := by
  cases l with
  | nil => rfl
  | cons first rest =>
    obtain ⟨tail, shape⟩ := lead
    have heads := List.head?_dropWhile_not p cs
    rw [← shape] at heads
    have kept : p first = false := by simpa using heads
    simp [kept]

private theorem chars_trim_trim (cs : List Char) : Chars.trim (Chars.trim cs) = Chars.trim cs := by
  have lead : Chars.trim cs <+: cs.dropWhile Chars.isBlank := List.rdropWhile_prefix _ _
  have start : Chars.trimStart (Chars.trim cs) = Chars.trim cs := dropWhile_of_prefix lead
  calc Chars.trim (Chars.trim cs) = Chars.trimEnd (Chars.trim cs) := congrArg Chars.trimEnd start
    _ = Chars.trim cs := List.rdropWhile_idempotent _ _

/-- Trimming a trimmed text changes nothing. -/
theorem trim_trim (s : String) : Text.trim (Text.trim s) = Text.trim s := by
  simp only [Text.trim, String.toList_ofList, chars_trim_trim]

end SourceAtlas.TrimmedTexts

/-! Squeezing white space. A text is gaps of white space and runs of other characters, in turn, and
it can be read so in one way only. Squeezing keeps the runs and puts one space between them,
whatever the gaps were and whether or not the text starts or ends with one. -/
namespace SourceAtlas.WordRuns
open Chars

/-- Only white space. -/
def Gap (cs : List Char) : Prop :=
  ∀ c ∈ cs, isBlank c = true

/-- At least one character and no white space. -/
structure Word (cs : List Char) : Prop where
  nonempty : cs ≠ []
  solid : ∀ c ∈ cs, isBlank c = false

/-- Nothing, or a text that starts with white space. -/
def Ended (cs : List Char) : Prop :=
  ∀ c ∈ cs.head?, isBlank c = true

/-- The maximal runs of a text that hold no white space, in order. A run starts behind a gap and
goes on until white space or the end. -/
inductive Runs : List Char → List (List Char) → Prop
  | none (gap : List Char) : Gap gap → Runs gap []
  | next (gap : List Char) {run rest : List Char} {later : List (List Char)} :
      Gap gap → Word run → Ended rest → Runs rest later → Runs (gap ++ (run ++ rest)) (run :: later)

theorem gap_nil : Gap [] :=
  List.forall_mem_nil _

theorem gap_single (blank : isBlank c = true) : Gap [c] :=
  List.forall_mem_singleton.mpr blank

theorem ended_nil : Ended [] := by
  rintro c ⟨⟩

theorem ended_cons (blank : isBlank c = true) (cs : List Char) : Ended (c :: cs) := by
  rintro d ⟨⟩
  exact blank

theorem runs_words (read : Runs cs runs) : ∀ run ∈ runs, Word run := by
  induction read with
  | none gap blank => exact List.forall_mem_nil _
  | next gap blank word ended read ih => exact List.forall_mem_cons.mpr ⟨word, ih⟩

/-- White space in front adds no run. -/
theorem runs_behind_gap (blank : Gap gap) (read : Runs cs runs) : Runs (gap ++ cs) runs := by
  cases read with
  | none after also => exact .none _ (List.forall_mem_append.mpr ⟨blank, also⟩)
  | next after also word ended read =>
    rw [← List.append_assoc]
    exact .next _ (List.forall_mem_append.mpr ⟨blank, also⟩) word ended read

/-- A character in front of a text belongs to its first run, unless the text starts with a gap or is
empty; then the character is a run for itself. -/
theorem runs_behind_solid (solid : isBlank c = false) (read : Runs cs runs) :
    ∃ runs', Runs (c :: cs) runs' := by
  have single : Word [c] := ⟨List.cons_ne_nil _ _, List.forall_mem_singleton.mpr solid⟩
  have alone (ended : Ended cs) : Runs (c :: cs) ([c] :: runs) := .next [] gap_nil single ended read
  cases read with
  | none _ blank =>
    cases cs with
    | nil => exact ⟨_, alone ended_nil⟩
    | cons b gap => exact ⟨_, alone (ended_cons (blank b List.mem_cons_self) gap)⟩
  | @next gap run rest later blank word ended read =>
    cases gap with
    | nil =>
      have longer : Word (c :: run) :=
        ⟨List.cons_ne_nil _ _, List.forall_mem_cons.mpr ⟨solid, word.solid⟩⟩
      exact ⟨(c :: run) :: later, .next [] gap_nil longer ended read⟩
    | cons b gap => exact ⟨_, alone (ended_cons (blank b List.mem_cons_self) _)⟩

theorem exists_runs (cs : List Char) : ∃ runs, Runs cs runs := by
  induction cs with
  | nil => exact ⟨[], .none [] gap_nil⟩
  | cons c rest ih =>
    obtain ⟨runs, read⟩ := ih
    cases blank : isBlank c with
    | false => exact runs_behind_solid blank read
    | true => exact ⟨runs, runs_behind_gap (gap_single blank) read⟩

/-! The words of a text are its runs, so there is one way to read them. -/

theorem words_gap (blank : Gap gap) (cs : List Char) : words (gap ++ cs) = words cs := by
  induction gap with
  | nil => rfl
  | cons c gap ih =>
    obtain ⟨first, others⟩ := List.forall_mem_cons.mp blank
    rw [← ih others, List.cons_append, words, split, if_pos first]
    rfl

theorem split_solid (solid : ∀ c ∈ run, isBlank c = false)
    (pieces : split isBlank cs = piece :: others) :
    split isBlank (run ++ cs) = (run ++ piece) :: others := by
  induction run with
  | nil => exact pieces
  | cons c run ih =>
    obtain ⟨first, deeper⟩ := List.forall_mem_cons.mp solid
    rw [List.cons_append, split, if_neg (Bool.eq_false_iff.mp first), ih deeper]
    rfl

theorem words_word (word : Word run) (ended : Ended rest) :
    words (run ++ rest) = run :: words rest := by
  cases rest with
  | nil =>
    rw [words, split_solid word.solid rfl, List.append_nil,
      List.filter_cons_of_pos (by simpa using word.nonempty)]
    rfl
  | cons b rest =>
    have blank : isBlank b = true := ended b rfl
    have pieces : split isBlank (b :: rest) = [] :: split isBlank rest := by
      rw [split, if_pos blank]
    rw [words, split_solid word.solid pieces, List.append_nil,
      List.filter_cons_of_pos (by simpa using word.nonempty), words, pieces]
    rfl

theorem words_eq (read : Runs cs runs) : words cs = runs := by
  induction read with
  | none gap blank =>
    have nothing := words_gap blank []
    rw [List.append_nil] at nothing
    exact nothing
  | next gap blank word ended read ih => rw [words_gap blank, words_word word ended, ih]

theorem runs_iff_words (cs : List Char) (runs : List (List Char)) :
    Runs cs runs ↔ runs = words cs := by
  constructor
  · exact fun read => (words_eq read).symm
  · rintro rfl
    obtain ⟨runs, read⟩ := exists_runs cs
    rw [words_eq read]
    exact read

/-! The squeezing pass, one gap or one run at a time. -/

theorem squeeze_gap (blank : Gap gap) (cs : List Char) :
    squeeze true (gap ++ cs) = squeeze true cs := by
  induction gap with
  | nil => rfl
  | cons c gap ih =>
    obtain ⟨first, others⟩ := List.forall_mem_cons.mp blank
    rw [List.cons_append, squeeze, if_pos first]
    exact ih others

theorem squeeze_solid (solid : ∀ c ∈ run, isBlank c = false) (cs : List Char) :
    squeeze false (run ++ cs) = run ++ squeeze false cs := by
  induction run with
  | nil => rfl
  | cons c run ih =>
    obtain ⟨first, others⟩ := List.forall_mem_cons.mp solid
    rw [List.cons_append, squeeze, first, ih others]
    rfl

theorem squeeze_word (word : Word run) (cs : List Char) :
    squeeze true (run ++ cs) = run ++ squeeze false cs := by
  cases run with
  | nil => exact absurd rfl word.nonempty
  | cons c run =>
    obtain ⟨first, others⟩ := List.forall_mem_cons.mp word.solid
    rw [List.cons_append, squeeze, first, squeeze_solid others]
    rfl

theorem squeeze_ended (blank : isBlank c = true) (cs : List Char) :
    squeeze false (c :: cs) = [' '] ++ squeeze true (c :: cs) := by
  simp only [squeeze, blank, if_true, Bool.false_eq_true, if_false, List.singleton_append]

/-- Trimming the start of what was squeezed takes the space of a leading gap. -/
theorem trimStart_squeeze (cs : List Char) : trimStart (squeeze false cs) = squeeze true cs := by
  have settled : trimStart (squeeze true cs) = squeeze true cs := by
    induction cs with
    | nil => rfl
    | cons c rest ih =>
      cases blank : isBlank c with
      | true => simpa only [squeeze, blank, if_true] using ih
      | false => simp [squeeze, trimStart, blank]
  cases cs with
  | nil => rfl
  | cons c rest =>
    cases blank : isBlank c with
    | true =>
      rw [squeeze_ended blank]
      exact settled
    | false => simp [squeeze, trimStart, blank]

theorem trimEnd_append (cs ds : List Char) :
    trimEnd (cs ++ ds) = if trimEnd ds = [] then trimEnd cs else cs ++ trimEnd ds := by
  simp only [trimEnd, dropTail, List.reverse_append, List.dropWhile_append, List.isEmpty_iff,
    List.reverse_eq_nil_iff]
  split
  · rfl
  · simp

theorem trimEnd_word (word : Word run) : trimEnd run = run := by
  apply List.rdropWhile_eq_self_iff.mpr
  intro nonempty
  simpa using word.solid _ (List.getLast_mem nonempty)

theorem join_cons (run : List Char) (runs : List (List Char)) :
    join ' ' (run :: runs) = if runs = [] then run else run ++ ' ' :: join ' ' runs := by
  cases runs with
  | nil => simp [join]
  | cons next later => simp [join, List.intercalate_cons_cons]

theorem join_eq_nil_iff (solid : ∀ run ∈ runs, Word run) : join ' ' runs = [] ↔ runs = [] := by
  cases runs with
  | nil => simp [join]
  | cons run later =>
    have nonempty := (solid run List.mem_cons_self).nonempty
    rw [join_cons]
    split <;> simp [nonempty]

/-- What the pass writes behind a leading gap is the runs with single spaces between them, and a
space more where the text ends in a gap. -/
theorem trimEnd_squeeze (read : Runs cs runs) : trimEnd (squeeze true cs) = join ' ' runs := by
  induction read with
  | none gap blank =>
    have nothing := squeeze_gap blank []
    rw [List.append_nil] at nothing
    rw [nothing]
    rfl
  | @next gap run rest later blank word ended read ih =>
    rw [squeeze_gap blank, squeeze_word word, join_cons]
    cases rest with
    | nil =>
      have last : later = [] := (join_eq_nil_iff (runs_words read)).mp ih.symm
      rw [last, if_pos rfl, squeeze, List.append_nil, trimEnd_word word]
    | cons c rest =>
      have space : trimEnd [' '] = [] := by decide
      rw [squeeze_ended (ended c rfl), trimEnd_append, trimEnd_append [' '], ih, space]
      simp only [join_eq_nil_iff (runs_words read)]
      by_cases last : later = []
      · simp only [last, if_true, trimEnd_word word]
      · simp [last]

theorem collapse_eq (read : Runs cs runs) : collapse cs = join ' ' runs := by
  rw [collapse, trim, trimStart_squeeze, trimEnd_squeeze read]

/-! Texts put together from runs. -/

/-- Where white space divides a text, its runs are those of the two parts. -/
theorem runs_append (first : Runs cs runs) (second : Runs ds later) (blank : Gap gap)
    (nonempty : gap ≠ []) : Runs (cs ++ (gap ++ ds)) (runs ++ later) := by
  induction first with
  | none before also => exact runs_behind_gap also (runs_behind_gap blank second)
  | @next before run rest _ also word ended read ih =>
    rw [List.append_assoc, List.append_assoc]
    refine .next before also word ?_ ih
    cases rest with
    | nil =>
      cases gap with
      | nil => exact absurd rfl nonempty
      | cons b gap => exact ended_cons (blank b List.mem_cons_self) _
    | cons b rest => exact ended_cons (ended b rfl) _

theorem runs_join (solid : ∀ run ∈ runs, Word run) : Runs (join ' ' runs) runs := by
  induction runs with
  | nil => exact .none [] gap_nil
  | cons run later ih =>
    obtain ⟨word, others⟩ := List.forall_mem_cons.mp solid
    have lone : Runs run [run] := by
      simpa using Runs.next [] gap_nil word ended_nil (.none [] gap_nil)
    rw [join_cons]
    by_cases last : later = []
    · rw [if_pos last, last]
      exact lone
    · rw [if_neg last]
      exact runs_append lone (ih others) (gap_single (by decide)) (List.cons_ne_nil _ _)

/-- Every text has one reading as runs, and squeezed it is these runs with single spaces between
them. So nothing is left to squeeze, and a text that white space divides is squeezed into the runs
of the one part and the runs of the other. -/
theorem collapse_joins_runs :
    (∀ s : String, ∃ runs, Runs s.toList runs ∧ (∀ other, Runs s.toList other → other = runs) ∧
      (Text.collapse s).toList = join ' ' runs) ∧
    (∀ s, Text.collapse (Text.collapse s) = Text.collapse s) ∧
    ∀ (a w b : String) (left right : List (List Char)), w ≠ "" → Gap w.toList →
      Runs a.toList left → Runs b.toList right →
        (Text.collapse (a ++ w ++ b)).toList = join ' ' (left ++ right) := by
  refine ⟨?_, ?_, ?_⟩
  · intro s
    obtain ⟨runs, read⟩ := exists_runs s.toList
    refine ⟨runs, read, ?_, ?_⟩
    · exact fun other again => (words_eq again).symm.trans (words_eq read)
    · rw [Text.collapse, String.toList_ofList, collapse_eq read]
  · intro s
    obtain ⟨runs, read⟩ := exists_runs s.toList
    have again := runs_join (runs_words read)
    simp only [Text.collapse, String.toList_ofList, collapse_eq read, collapse_eq again]
  · intro a w b left right nonempty blank first second
    have divided : w.toList ≠ [] := fun empty => nonempty (String.toList_eq_nil_iff.mp empty)
    have read := runs_append first second blank divided
    rw [Text.collapse, String.toList_ofList, String.toList_append, String.toList_append,
      List.append_assoc, collapse_eq read]

/-- White space of three kinds between two names, and at both ends. -/
theorem two_names_joined :
    (" \t" ≠ "" ∧ Gap " \t".toList) ∧ Runs "\n a\u00A0".toList [['a']] ∧
      Runs "b  ".toList [['b']] ∧
      (Text.collapse ("\n a\u00A0" ++ " \t" ++ "b  ")).toList = "a b".toList := by
  obtain ⟨-, -, divided⟩ := collapse_joins_runs
  have blank : Gap " \t".toList := List.all_eq_true.mp (by decide)
  have first : Runs "\n a\u00A0".toList [['a']] := (runs_iff_words _ _).mpr (by decide)
  have second : Runs "b  ".toList [['b']] := (runs_iff_words _ _).mpr (by decide)
  exact ⟨⟨by decide, blank⟩, first, second, divided _ _ _ _ _ (by decide) blank first second⟩

end SourceAtlas.WordRuns

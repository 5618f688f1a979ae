import Mathlib.Algebra.Group.Nat.Even
import Mathlib.Data.List.DropRight
import SourceAtlas.Import.KnownFiles
import SourceAtlas.Proofs.SplitTexts

/-! The segments of a module path, one word at a time. White space, a renaming, a group and a glob
are only taken from the end of a path, so a word in front of it is read as it stands, and what is
read behind the word does not depend on it. -/
namespace SourceAtlas.ModulePaths
open Import SplitTexts

/-- A text whose leading colons, if it has any, are whole double colons. -/
def Paired (cs : List Char) : Prop :=
  Even (cs.takeWhile (· == ':')).length

/-- A lead of a text that ends between double colons and not inside of one. -/
def Whole (lead cs : List Char) : Prop :=
  ∃ rest, lead ++ rest = cs ∧ Paired rest

/-- A text that nothing is taken from when a path is read: it has no white space and no group, and
it does not end like a glob. -/
structure Solid (lead : List Char) : Prop where
  plain : ∀ c ∈ lead, Chars.isBlank c = false ∧ c ≠ '\x7b'
  ends : ∃ init last, lead = init ++ [last] ∧ last ≠ ':' ∧ last ≠ '*'

/-- A solid text without colons. -/
structure Word (word : List Char) : Prop extends Solid word where
  single : ':' ∉ word

/-- What stands before a renaming. -/
def unrenamed (cs : List Char) : List Char :=
  ((Chars.cut? " as ".toList cs).map (·.1)).getD cs

/-- What is read of a text that stands behind a solid one. -/
def readBehind (cs : List Char) : List Char :=
  Chars.dropEnd "::".toList (Chars.dropEnd "::*".toList
    (Chars.trimEnd (Chars.before (· == '\x7b') (unrenamed (Chars.trimEnd cs)))))

/-- The segments between double colons. -/
def namesIn (cs : List Char) : List String :=
  (((Module.splitColons cs).map Chars.trim).filter fun s => !s.isEmpty).map String.ofList

/-- The segments that follow a word and a double colon. -/
def following (rest : String) : List String :=
  match readBehind (':' :: ':' :: rest.toList) with
  | ':' :: ':' :: cs => namesIn cs
  | _ => []

/-- A text that leaves a double colon in front of it whole. -/
def Continues (rest : String) : Prop :=
  readBehind (':' :: ':' :: rest.toList) ≠ [':']

theorem paired_append (paired : Paired rest) (lead : List Char) :
    Paired (lead ++ rest) ↔ Paired lead := by
  unfold Paired at *
  rw [List.takeWhile_append]
  split
  · rename_i colons
    rw [List.length_append, Nat.even_add, colons]
    exact iff_true_right paired
  · rfl

theorem paired_other (other : cs.head? ≠ some ':') : Paired cs := by
  cases cs with
  | nil => exact Even.zero
  | cons c rest =>
    have stops : (c == ':') = false := by simpa using other
    simp [Paired, stops]

namespace Whole

theorem refl (cs : List Char) : Whole cs cs :=
  ⟨[], List.append_nil cs, Even.zero⟩

theorem trans (first : Whole lead mid) (second : Whole mid cs) : Whole lead cs := by
  obtain ⟨near, rfl, pairedNear⟩ := first
  obtain ⟨far, rfl, pairedFar⟩ := second
  exact ⟨near ++ far, by simp, (paired_append pairedFar near).mpr pairedNear⟩

theorem paired_iff (whole : Whole lead cs) : Paired cs ↔ Paired lead := by
  obtain ⟨rest, rfl, paired⟩ := whole
  exact paired_append paired lead

end Whole

theorem dropLead_copy (lead cs : List Char) :
    Chars.dropLead lead (lead ++ cs) = Chars.dropLead lead cs := by
  cases lead with
  | nil => rfl
  | cons l ls =>
    have found := List.isPrefixOf_iff_prefix.mpr (List.prefix_append (l :: ls) cs)
    rw [Chars.dropLead, if_pos found, List.drop_left]

section
variable {P : List Char → Prop}

/-- What stays when one copy is taken away stays when all are. -/
theorem dropLead_keeps (keeps : ∀ cs, P (lead ++ cs) → P cs) (start : P cs) :
    P (Chars.dropLead lead cs) := by
  induction lead, cs using Chars.dropLead.induct with
  | case1 cs => simpa [Chars.dropLead] using start
  | case2 l ls cs found ih =>
    obtain ⟨rest, rfl⟩ := List.isPrefixOf_iff_prefix.mp found
    rw [dropLead_copy]
    rw [List.drop_left] at ih
    exact ih keeps (keeps rest start)
  | case3 l ls cs missing =>
    rw [Chars.dropLead, if_neg missing]
    exact start

theorem dropEnd_keeps (keeps : ∀ cs, P (cs ++ tail) → P cs) (start : P cs) :
    P (Chars.dropEnd tail cs) := by
  refine dropLead_keeps (P := fun cs => P cs.reverse) ?_ ?_
  · intro cs held
    exact keeps _ (by simpa using held)
  · simpa using start

end

theorem dropEnd_whole (paired : Paired tail) (cs : List Char) :
    Whole (Chars.dropEnd tail cs) cs := by
  refine dropEnd_keeps (P := (Whole · cs)) ?_ (.refl cs)
  intro lead whole
  exact .trans ⟨tail, rfl, paired⟩ whole

theorem trimEnd_whole (cs : List Char) : Whole (Chars.trimEnd cs) cs := by
  refine ⟨cs.rtakeWhile Chars.isBlank, List.rdropWhile_append_rtakeWhile .., paired_other ?_⟩
  intro colon
  have blank := List.mem_rtakeWhile_imp (List.mem_of_head? colon)
  exact absurd blank (by decide)

/-- The parts of a cut and what it is made at give the text back. -/
theorem unrenamed_whole (cs : List Char) : Whole (unrenamed cs) cs := by
  rw [unrenamed]
  cases found : Chars.cut? " as ".toList cs with
  | none => exact .refl cs
  | some parts => exact ⟨_, cut_joined found, paired_other (by simp)⟩

theorem before_whole (other : stop ':' = false) (cs : List Char) :
    Whole (Chars.before stop cs) cs := by
  refine ⟨cs.dropWhile fun c => !stop c, List.takeWhile_append_dropWhile, paired_other ?_⟩
  intro colon
  have stops := List.head?_dropWhile_not (fun c => !stop c) cs
  rw [colon] at stops
  simp [other] at stops

/-- What is read ends between double colons. -/
theorem readBehind_whole (cs : List Char) : Whole (readBehind cs) cs := by
  have glob : Paired "::*".toList := ⟨1, rfl⟩
  have colons : Paired "::".toList := ⟨1, rfl⟩
  exact (dropEnd_whole colons _).trans <| (dropEnd_whole glob _).trans <|
    (trimEnd_whole _).trans <| (before_whole rfl _).trans <|
    (unrenamed_whole _).trans (trimEnd_whole cs)

theorem readBehind_shape (continues : Continues rest) :
    readBehind (':' :: ':' :: rest.toList) = [] ∨
      ∃ cs, readBehind (':' :: ':' :: rest.toList) = ':' :: ':' :: cs := by
  obtain ⟨later, joined, -⟩ := readBehind_whole (':' :: ':' :: rest.toList)
  unfold Continues at continues
  generalize readBehind (':' :: ':' :: rest.toList) = read at *
  cases read with
  | nil => exact .inl rfl
  | cons c more =>
    obtain ⟨rfl, behind⟩ := List.cons.inj joined
    cases more with
    | nil => exact absurd rfl continues
    | cons d cs =>
      obtain ⟨rfl, -⟩ := List.cons.inj behind
      exact .inr ⟨cs, rfl⟩

/-- Whole double colons are taken away or stay, so none is left in half. -/
theorem continues_of_paired (paired : Paired rest.toList) : Continues rest := by
  intro half
  have all : Paired (':' :: ':' :: rest.toList) := by
    simpa [Paired, Nat.even_add_one] using paired
  have part := (readBehind_whole (':' :: ':' :: rest.toList)).paired_iff.mp all
  simp [half, Paired] at part

/-- A cut is made behind a lead that holds no beginning of what it is made at. -/
theorem cut_behind {first : Char} (missing : first ∉ lead) (needle cs : List Char) :
    Chars.cut? (first :: needle) (lead ++ cs) =
      (Chars.cut? (first :: needle) cs).map fun parts => (lead ++ parts.1, parts.2) := by
  induction lead with
  | nil => simp
  | cons c lead ih =>
    obtain ⟨other, missing⟩ := not_or.mp (List.mem_cons.not.mp missing)
    have starts : (first :: needle).isPrefixOf (c :: (lead ++ cs)) = false := by
      simp [List.isPrefixOf, other]
    rw [List.cons_append, Chars.cut?, starts, if_neg Bool.false_ne_true, ih missing, Option.map_map]
    rfl

/-- A text that does not hold a character is no lead beyond it. -/
theorem prefix_before (missing : stop ∉ lead) (cs behind : List Char) :
    lead <+: cs ++ stop :: behind ↔ lead <+: cs := by
  constructor
  · rintro ⟨rest, joined⟩
    rcases List.append_eq_append_iff.mp joined with ⟨more, rfl, -⟩ | ⟨more, rfl, later⟩
    · exact List.prefix_append ..
    · cases more with
      | nil => simp
      | cons c more =>
        obtain ⟨rfl, -⟩ := List.cons.inj later
        simp at missing
  · exact fun starts => starts.trans (List.prefix_append ..)

theorem dropLead_before (missing : stop ∉ lead) (cs behind : List Char) :
    Chars.dropLead lead (cs ++ stop :: behind) = Chars.dropLead lead cs ++ stop :: behind := by
  induction lead, cs using Chars.dropLead.induct with
  | case1 cs => simp [Chars.dropLead]
  | case2 l ls cs found ih =>
    obtain ⟨rest, rfl⟩ := List.isPrefixOf_iff_prefix.mp found
    rw [List.append_assoc, dropLead_copy, dropLead_copy]
    rw [List.drop_left] at ih
    exact ih missing
  | case3 l ls cs other =>
    have longer : ¬(l :: ls).isPrefixOf (cs ++ stop :: behind) = true := by
      rwa [List.isPrefixOf_iff_prefix, prefix_before missing, ← List.isPrefixOf_iff_prefix]
    rw [Chars.dropLead, if_neg longer, Chars.dropLead, if_neg other]

section
variable {lead : List Char}

theorem trimEnd_solid (solid : Solid lead) (cs : List Char) :
    Chars.trimEnd (lead ++ cs) = lead ++ Chars.trimEnd cs := by
  obtain ⟨init, last, rfl, -⟩ := solid.ends
  have kept : Chars.isBlank last = false := (solid.plain last (by simp)).1
  simp only [Chars.trimEnd, Chars.dropTail, List.reverse_append, List.dropWhile_append]
  split
  · rename_i blank
    rw [List.isEmpty_iff] at blank
    simp [blank, kept]
  · simp

theorem trim_solid (solid : Solid lead) (cs : List Char) :
    Chars.trim (lead ++ cs) = lead ++ Chars.trimEnd cs := by
  have start : Chars.trimStart (lead ++ cs) = lead ++ cs := by
    cases lead with
    | nil =>
      obtain ⟨init, last, shape, -⟩ := solid.ends
      simp at shape
    | cons c rest => simp [Chars.trimStart, (solid.plain c List.mem_cons_self).1]
  rw [Chars.trim, start, trimEnd_solid solid]

theorem unrenamed_solid (solid : Solid lead) (cs : List Char) :
    unrenamed (lead ++ cs) = lead ++ unrenamed cs := by
  have missing : ' ' ∉ lead := by
    intro member
    exact absurd (solid.plain ' ' member).1 (by decide)
  have cut := cut_behind missing "as ".toList cs
  change Chars.cut? " as ".toList _ = (Chars.cut? " as ".toList _).map _ at cut
  rw [unrenamed, unrenamed, cut]
  cases Chars.cut? " as ".toList cs <;> rfl

theorem before_solid (solid : Solid lead) (cs : List Char) :
    Chars.before (· == '\x7b') (lead ++ cs) = lead ++ Chars.before (· == '\x7b') cs := by
  refine List.takeWhile_append_of_pos fun c member => ?_
  simpa using (solid.plain c member).2

theorem dropEnd_solid (solid : Solid lead) (inside : ∀ c ∈ tail, c = ':' ∨ c = '*')
    (cs : List Char) : Chars.dropEnd tail (lead ++ cs) = lead ++ Chars.dropEnd tail cs := by
  obtain ⟨init, last, rfl, noColon, noStar⟩ := solid.ends
  have missing : last ∉ tail.reverse := by
    intro member
    rcases inside last (List.mem_reverse.mp member) with colon | star
    · exact noColon colon
    · exact noStar star
  have dropped := dropLead_before missing cs.reverse init.reverse
  simp [Chars.dropEnd, dropped]

/-- A solid text is read as it stands. -/
theorem segments_solid (solid : Solid lead) (cs : List Char) :
    Module.segments (String.ofList (lead ++ cs)) = namesIn (lead ++ readBehind cs) := by
  have glob : ∀ c ∈ "::*".toList, c = ':' ∨ c = '*' := by simp
  have colons : ∀ c ∈ "::".toList, c = ':' ∨ c = '*' := by simp
  have read : Chars.dropEnd "::".toList (Chars.dropEnd "::*".toList (Chars.trim
      (Chars.before (· == '\x7b') (unrenamed (Chars.trim (lead ++ cs)))))) =
      lead ++ readBehind cs := by
    rw [trim_solid solid, unrenamed_solid solid, before_solid solid, trim_solid solid,
      dropEnd_solid solid glob, dropEnd_solid solid colons, readBehind]
  rw [unrenamed] at read
  simp only [Module.segments, String.toList_ofList, namesIn, read]

end

theorem splitColons_other (other : ':' ≠ c) (split : Module.splitColons cs = piece :: pieces) :
    Module.splitColons (c :: cs) = (c :: piece) :: pieces := by
  rw [Module.splitColons, split]
  rintro - rfl
  exact absurd rfl other

theorem splitColons_append (single : ':' ∉ word) (split : Module.splitColons cs = piece :: pieces) :
    Module.splitColons (word ++ cs) = (word ++ piece) :: pieces := by
  induction word with
  | nil => exact split
  | cons c rest ih =>
    obtain ⟨other, single⟩ := not_or.mp (List.mem_cons.not.mp single)
    exact splitColons_other other (ih single)

section
variable {word first rest : String}

/-- A word and the rest of its segment are the first name. -/
theorem namesIn_append (solid : Word word.toList)
    (split : Module.splitColons cs = piece :: pieces) :
    namesIn (word.toList ++ cs) = String.ofList (word.toList ++ Chars.trimEnd piece) ::
      ((pieces.map Chars.trim).filter fun s => !s.isEmpty).map String.ofList := by
  have nonempty : (word.toList ++ Chars.trimEnd piece).isEmpty = false := by
    obtain ⟨init, last, shape, -⟩ := solid.ends
    simp [shape]
  simp only [namesIn, splitColons_append solid.single split, List.map_cons,
    trim_solid solid.toSolid]
  rw [List.filter_cons_of_pos (by simp only [nonempty, Bool.not_false]), List.map_cons]

theorem namesIn_behind (solid : Word word.toList) (cs : List Char) :
    namesIn (word.toList ++ ':' :: ':' :: cs) = word :: namesIn cs := by
  rw [namesIn_append solid (Module.splitColons.eq_2 cs)]
  simp [Chars.trimEnd, Chars.dropTail, namesIn]

theorem segments_read (solid : Word word.toList) (rest : String) :
    Module.segments (word ++ "::" ++ rest) =
      namesIn (word.toList ++ readBehind (':' :: ':' :: rest.toList)) := by
  have text : word ++ "::" ++ rest = String.ofList (word.toList ++ ':' :: ':' :: rest.toList) := by
    simp [← String.toList_inj]
  rw [text, segments_solid solid.toSolid]

/-- A word is the first segment of a path, and those that follow do not depend on it. -/
theorem segments_word (solid : Word word.toList) (continues : Continues rest) :
    Module.segments (word ++ "::" ++ rest) = word :: following rest := by
  rw [segments_read solid, following]
  rcases readBehind_shape continues with none | ⟨cs, some⟩
  · rw [none, namesIn_append solid rfl]
    simp [Chars.trimEnd, Chars.dropTail]
  · rw [some]
    exact namesIn_behind solid cs

/-- Otherwise a colon is read as a part of the word. -/
theorem continues_of_segments (solid : Word word.toList)
    (read : Module.segments (word ++ "::" ++ rest) = word :: segments) : Continues rest := by
  intro half
  rw [segments_read solid, half, namesIn_append solid rfl] at read
  have same := congrArg String.toList (List.cons.inj read).1
  have colon : Chars.isBlank ':' = false := by decide
  simp [Chars.trimEnd, Chars.dropTail, colon] at same

example : Module.segments ("super" ++ "::" ++ ":") = ["super:"] := by decide +kernel

/-- Behind a word a path that starts with one has its own segments. -/
theorem segments_behind (solid : Word word.toList) (next : Word first.toList) (rest : String) :
    Module.segments (word ++ "::" ++ (first ++ rest)) = word :: Module.segments (first ++ rest) := by
  have both : Solid (word.toList ++ ':' :: ':' :: first.toList) := by
    refine ⟨?_, ?_⟩
    · have colon : Chars.isBlank ':' = false ∧ ':' ≠ '\x7b' := by decide
      exact List.forall_mem_append.mpr ⟨solid.plain,
        List.forall_mem_cons.mpr ⟨colon, List.forall_mem_cons.mpr ⟨colon, next.plain⟩⟩⟩
    · obtain ⟨init, last, shape, other⟩ := next.ends
      exact ⟨word.toList ++ ':' :: ':' :: init, last, by simp [shape], other⟩
  have text : word ++ "::" ++ (first ++ rest) =
      String.ofList (word.toList ++ ':' :: ':' :: first.toList ++ rest.toList) := by
    simp [← String.toList_inj]
  have behind : first ++ rest = String.ofList (first.toList ++ rest.toList) := by
    simp
  rw [text, segments_solid both, behind, segments_solid next.toSolid, List.append_assoc]
  exact namesIn_behind solid _

/-- A path that starts with any number of the same word. -/
theorem segments_repeated (solid : Word word.toList) (continues : Continues rest) (count : Nat) :
    Module.segments ((word ++ "::" ++ ·)^[count + 1] rest) =
      List.replicate (count + 1) word ++ following rest := by
  induction count with
  | zero => exact segments_word solid continues
  | succ count ih =>
    have shape : (word ++ "::" ++ ·)^[count + 1] rest =
        word ++ ("::" ++ (word ++ "::" ++ ·)^[count] rest) := by
      rw [Function.iterate_succ_apply', String.append_assoc]
    rw [Function.iterate_succ_apply', List.replicate_succ, List.cons_append, ← ih, shape]
    exact segments_behind solid solid _

end

end SourceAtlas.ModulePaths

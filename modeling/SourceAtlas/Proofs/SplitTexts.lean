import SourceAtlas.Chars.Basic

/-! Splitting at a separator. The pieces of a text are the only texts without the separator that give
it back when they are joined, so what a split finds can be said without splitting. -/
namespace SourceAtlas.SplitTexts

/-- Texts without the separator that give `cs` when it is put between them. -/
structure Pieces (separator : Char) (cs : List Char) (pieces : List (List Char)) : Prop where
  nonempty : pieces ≠ []
  joined : Chars.join separator pieces = cs
  clean : ∀ piece ∈ pieces, separator ∉ piece

private theorem split_eq (isSeparator : Char → Bool) (cs : List Char) :
    Chars.split isSeparator cs = cs.splitOnP isSeparator := by
  induction cs with
  | nil => rfl
  | cons c rest ih =>
    rw [Chars.split, List.splitOnP_cons_eq_if_modifyHead, ih]
    split
    · rfl
    · cases pieces : rest.splitOnP isSeparator with
      | nil => exact absurd pieces (List.splitOnP_ne_nil isSeparator rest)
      | cons piece later => rfl

theorem splitOn_eq (separator : Char) (cs : List Char) :
    Chars.splitOn separator cs = cs.splitOn separator :=
  split_eq _ cs

/-- A separator divides a text into two, and their pieces are split apart from each other. -/
theorem splitOn_append (separator : Char) (before behind : List Char) :
    Chars.splitOn separator (before ++ separator :: behind) =
      Chars.splitOn separator before ++ Chars.splitOn separator behind := by
  rw [splitOn_eq, splitOn_eq, splitOn_eq]
  exact List.splitOnP_append_cons _ _ (beq_self_eq_true separator)

private theorem split_clean (isSeparator : Char → Bool) (cs : List Char) :
    ∀ piece ∈ Chars.split isSeparator cs, ∀ c ∈ piece, isSeparator c = false := by
  induction cs with
  | nil => simp [Chars.split]
  | cons c rest ih =>
    intro piece member
    rw [Chars.split] at member
    split at member
    · rcases List.mem_cons.mp member with rfl | later
      · intro c inside
        cases inside
      · exact ih piece later
    · rename_i other
      split at member
      · obtain rfl := List.mem_singleton.mp member
        intro d inside
        obtain rfl := List.mem_singleton.mp inside
        exact Bool.eq_false_iff.mpr other
      · rename_i first pieces shape
        rw [shape] at ih
        rcases List.mem_cons.mp member with rfl | later
        · intro d inside
          rcases List.mem_cons.mp inside with rfl | deeper
          · exact Bool.eq_false_iff.mpr other
          · exact ih first List.mem_cons_self d deeper
        · exact ih piece (List.mem_cons_of_mem _ later)

/-- A split finds the pieces, and there are no other pieces. -/
theorem splitOn_iff (separator : Char) (cs : List Char) (pieces : List (List Char)) :
    Chars.splitOn separator cs = pieces ↔ Pieces separator cs pieces := by
  constructor
  · rintro rfl
    refine ⟨?_, ?_, ?_⟩
    · rw [splitOn_eq]
      exact List.splitOn_ne_nil separator cs
    · rw [splitOn_eq]
      exact List.intercalate_splitOn separator
    · intro piece member inside
      simpa using split_clean (· == separator) cs piece member separator inside
  · rintro ⟨nonempty, rfl, clean⟩
    rw [splitOn_eq]
    exact List.splitOn_intercalate separator clean nonempty

/-- A text without the separator is its only piece. -/
theorem splitOn_whole (absent : separator ∉ cs) : Chars.splitOn separator cs = [cs] := by
  apply (splitOn_iff _ _ _).mpr
  exact ⟨List.cons_ne_nil _ _, by simp [Chars.join], List.forall_mem_singleton.mpr absent⟩

/-- What stands before and after the text that a cut finds gives back the whole. -/
theorem cut_joined (found : Chars.cut? needle cs = some (lead, behind)) :
    lead ++ (needle ++ behind) = cs := by
  induction cs generalizing lead with
  | nil =>
    rw [Chars.cut?] at found
    split at found
    · rename_i empty
      cases found
      simpa using empty
    · cases found
  | cons c rest ih =>
    rw [Chars.cut?] at found
    split at found
    · rename_i here
      obtain ⟨behind, shape⟩ := List.isPrefixOf_iff_prefix.mp here
      rw [← shape, List.drop_left] at found
      cases found
      exact shape
    · obtain ⟨parts, later, equal⟩ := Option.map_eq_some_iff.mp found
      cases equal
      exact congrArg (c :: ·) (ih later)

/-- A cut at one character is made at its first occurrence. -/
theorem cut_first (found : Chars.cut? [separator] cs = some (lead, behind)) : separator ∉ lead := by
  induction cs generalizing lead with
  | nil => cases found
  | cons c rest ih =>
    rw [Chars.cut?] at found
    split at found
    · cases found
      exact List.not_mem_nil
    · rename_i elsewhere
      obtain ⟨parts, later, equal⟩ := Option.map_eq_some_iff.mp found
      cases equal
      intro inside
      rcases List.mem_cons.mp inside with rfl | deeper
      · exact elsewhere (by simp)
      · exact ih later deeper

theorem cut_none (missing : Chars.cut? [separator] cs = none) : separator ∉ cs := by
  induction cs with
  | nil => exact List.not_mem_nil
  | cons c rest ih =>
    rw [Chars.cut?] at missing
    split at missing
    · cases missing
    · rename_i elsewhere
      intro inside
      rcases List.mem_cons.mp inside with rfl | deeper
      · exact elsewhere (by simp)
      · exact ih (Option.map_eq_none_iff.mp missing) deeper

end SourceAtlas.SplitTexts

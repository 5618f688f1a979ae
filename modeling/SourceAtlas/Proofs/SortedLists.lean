import Mathlib.Data.List.Sort
import Mathlib.Data.String.Basic
import SourceAtlas.Text

/-! Lists as sets and as finite maps. First occurrences keep exactly the members of a list and their
order, and a list that increases by a key is determined by its members, so neither the order nor the
number of the insertions that built it can be seen. -/
namespace SourceAtlas.SortedLists
open Sorted

theorem mem_distinct [DecidableEq α] (a : α) (l : List α) : a ∈ distinct l ↔ a ∈ l := by
  induction l with
  | nil => simp [distinct]
  | cons b rest ih =>
    simp only [distinct, List.mem_cons, List.mem_filter, ih, decide_eq_true_eq]
    by_cases same : a = b
    · simp [same]
    · simp [same]

theorem distinct_nodup [DecidableEq α] (l : List α) : (distinct l).Nodup := by
  induction l with
  | nil => exact List.nodup_nil
  | cons b rest ih =>
    refine List.nodup_cons.mpr ⟨?_, ih.filter _⟩
    intro member
    simpa using (List.mem_filter.mp member).2

/-- Dropping repetitions leaves the remaining elements in their order. -/
theorem distinct_sublist [DecidableEq α] (l : List α) : (distinct l).Sublist l := by
  induction l with
  | nil => exact List.Sublist.refl []
  | cons b rest ih => exact (List.filter_sublist.trans ih).cons_cons b

/-- One more element is kept exactly when it has not occurred before. -/
theorem distinct_concat [DecidableEq α] (l : List α) (a : α) :
    distinct (l ++ [a]) = if a ∈ l then distinct l else distinct l ++ [a] := by
  induction l with
  | nil => simp [distinct]
  | cons b rest ih =>
    rw [List.cons_append, distinct, ih]
    by_cases same : a = b
    · subst same
      by_cases again : a ∈ rest
      · simp [distinct, again]
      · simp [distinct, again, List.filter_append]
    · by_cases again : a ∈ rest
      · simp [distinct, again]
      · simp [distinct, again, same, List.filter_append]

theorem distinct_of_nodup [DecidableEq α] {l : List α} (nodup : l.Nodup) : distinct l = l := by
  induction l with
  | nil => rfl
  | cons b rest ih =>
    obtain ⟨absent, restNodup⟩ := List.nodup_cons.mp nodup
    rw [distinct, ih restNodup, List.filter_eq_self.mpr]
    intro a member
    refine decide_eq_true ?_
    rintro rfl
    exact absent member

/-- The keys of a list increase strictly. -/
def Increasing (key : α → String) (l : List α) : Prop :=
  l.Pairwise fun a b => key a < key b

theorem increasing_nodup {key : α → String} {l : List α} (increasing : Increasing key l) :
    l.Nodup := by
  refine List.Pairwise.imp ?_ increasing
  rintro a b less rfl
  exact lt_irrefl _ less

/-- An increasing list is determined by its members. -/
theorem increasing_unique {key : α → String} {l l' : List α} (first : Increasing key l)
    (second : Increasing key l') (same : ∀ a, a ∈ l ↔ a ∈ l') : l = l' := by
  refine List.Perm.eq_of_pairwise ?_ first second
    ((List.perm_ext_iff_of_nodup (increasing_nodup first) (increasing_nodup second)).mpr same)
  intro a b _ _ less greater
  exact absurd (less.trans greater) (lt_irrefl _)

theorem increasing_key_injective {key : α → String} {l : List α} (increasing : Increasing key l)
    (memberA : a ∈ l) (memberB : b ∈ l) (same : key a = key b) : a = b := by
  induction l with
  | nil => cases memberA
  | cons c rest ih =>
    obtain ⟨least, restIncreasing⟩ := List.pairwise_cons.mp increasing
    rcases List.mem_cons.mp memberA with rfl | laterA
    · rcases List.mem_cons.mp memberB with rfl | laterB
      · rfl
      · exact absurd same (least b laterB).ne
    · rcases List.mem_cons.mp memberB with rfl | laterB
      · exact absurd same (least a laterA).ne'
      · exact ih restIncreasing laterA laterB

/-- An insertion adds its element exactly when the key is new. -/
theorem mem_insertNew {key : α → String} {l : List α} (increasing : Increasing key l) (a b : α) :
    b ∈ insertNew key a l ↔ b ∈ l ∨ (b = a ∧ ∀ c ∈ l, key c ≠ key a) := by
  induction l with
  | nil => simp [insertNew]
  | cons first rest ih =>
    obtain ⟨least, restIncreasing⟩ := List.pairwise_cons.mp increasing
    unfold insertNew
    split
    · rename_i less
      have fresh : ∀ c ∈ first :: rest, key c ≠ key a := by
        intro c member
        rcases List.mem_cons.mp member with rfl | member
        · exact less.ne'
        · exact (less.trans (least c member)).ne'
      rw [List.mem_cons]
      constructor
      · rintro (same | member)
        · exact .inr ⟨same, fresh⟩
        · exact .inl member
      · rintro (member | ⟨same, _⟩)
        · exact .inr member
        · exact .inl same
    · rename_i notLess
      split
      · rename_i same
        constructor
        · exact .inl
        · rintro (member | ⟨_, fresh⟩)
          · exact member
          · exact absurd same.symm (fresh first List.mem_cons_self)
      · rename_i differs
        have other : key first ≠ key a := fun equal => differs equal.symm
        rw [List.forall_mem_cons, List.mem_cons, List.mem_cons, ih restIncreasing, or_assoc]
        simp only [ne_eq, other, not_false_eq_true, true_and]

theorem insertNew_increasing {key : α → String} {l : List α} (increasing : Increasing key l)
    (a : α) : Increasing key (insertNew key a l) := by
  induction l with
  | nil => exact List.pairwise_singleton _ _
  | cons first rest ih =>
    obtain ⟨least, restIncreasing⟩ := List.pairwise_cons.mp increasing
    unfold insertNew
    split
    · rename_i less
      refine List.pairwise_cons.mpr ⟨?_, increasing⟩
      intro b member
      rcases List.mem_cons.mp member with rfl | member
      · exact less
      · exact less.trans (least b member)
    · rename_i notLess
      split
      · exact increasing
      · rename_i differs
        have greater : key first < key a :=
          lt_of_le_of_ne (not_lt.mp notLess) fun equal => differs equal.symm
        refine List.pairwise_cons.mpr ⟨?_, ih restIncreasing⟩
        intro b member
        rcases (mem_insertNew restIncreasing a b).mp member with member | ⟨rfl, _⟩
        · exact least b member
        · exact greater

/-- Searching an increasing list finds the hit with the least key. -/
theorem findSome_increasing {key : α → String} {l : List α} (increasing : Increasing key l)
    (f : α → Option β) (b : β) :
    l.findSome? f = some b ↔
      ∃ a ∈ l, f a = some b ∧ ∀ other ∈ l, (f other).isSome → key a ≤ key other := by
  induction l with
  | nil => simp
  | cons first rest ih =>
    obtain ⟨least, restIncreasing⟩ := List.pairwise_cons.mp increasing
    rw [List.findSome?_cons]
    cases hit : f first with
    | some found =>
      constructor
      · rintro ⟨⟩
        refine ⟨first, List.mem_cons_self, hit, ?_⟩
        intro other member _
        rcases List.mem_cons.mp member with rfl | later
        · exact le_refl _
        · exact (least other later).le
      · rintro ⟨a, member, found, minimal⟩
        rcases List.mem_cons.mp member with rfl | later
        · exact hit.symm.trans found
        · have before := minimal first List.mem_cons_self (by rw [hit]; rfl)
          exact absurd (least a later) (not_lt.mpr before)
    | none =>
      rw [ih restIncreasing]
      constructor
      · rintro ⟨a, member, found, minimal⟩
        refine ⟨a, List.mem_cons_of_mem _ member, found, ?_⟩
        intro other memberOther isHit
        rcases List.mem_cons.mp memberOther with rfl | later
        · rw [hit] at isHit
          cases isHit
        · exact minimal other later isHit
      · rintro ⟨a, member, found, minimal⟩
        rcases List.mem_cons.mp member with rfl | later
        · rw [hit] at found
          cases found
        · exact ⟨a, later, found, fun other memberOther =>
            minimal other (List.mem_cons_of_mem _ memberOther)⟩

/-- Searching an increasing list finds the element with the least key among those that pass. -/
theorem find_increasing {key : α → String} {l : List α} (increasing : Increasing key l)
    (p : α → Bool) (a : α) :
    l.find? p = some a ↔ a ∈ l ∧ p a = true ∧ ∀ other ∈ l, p other = true → key a ≤ key other := by
  rw [← List.findSome?_guard, findSome_increasing increasing]
  constructor
  · rintro ⟨b, member, hit, minimal⟩
    obtain ⟨rfl, passes⟩ := Option.guard_eq_some_iff.mp hit
    exact ⟨member, passes, fun other memberOther passesOther =>
      minimal other memberOther (by simp [Option.guard, passesOther])⟩
  · rintro ⟨member, passes, minimal⟩
    refine ⟨a, member, by simp [Option.guard, passes], ?_⟩
    intro other memberOther isHit
    exact minimal other memberOther (by simpa [Option.guard] using isHit)

private theorem fold_texts (texts : List String) (sorted : List String)
    (increasing : Increasing id sorted) :
    Increasing id (texts.foldl (fun sorted text => insertNew id text sorted) sorted) ∧
      ∀ text, text ∈ texts.foldl (fun sorted text => insertNew id text sorted) sorted ↔
        text ∈ sorted ∨ text ∈ texts := by
  induction texts generalizing sorted with
  | nil => exact ⟨increasing, by simp⟩
  | cons first rest ih =>
    obtain ⟨ordered, members⟩ := ih _ (insertNew_increasing increasing first)
    refine ⟨ordered, fun text => ?_⟩
    rw [List.foldl_cons, members, mem_insertNew increasing, List.mem_cons]
    constructor
    · rintro ((held | ⟨rfl, _⟩) | later)
      · exact .inl held
      · exact .inr (.inl rfl)
      · exact .inr (.inr later)
    · rintro (held | rfl | later)
      · exact .inl (.inl held)
      · by_cases held : text ∈ sorted
        · exact .inl (.inl held)
        · refine .inl (.inr ⟨rfl, ?_⟩)
          rintro c member (rfl : c = text)
          exact held member
      · exact .inr later

theorem ofTexts_increasing (texts : List String) : Increasing id (ofTexts texts) :=
  (fold_texts texts [] List.Pairwise.nil).1

theorem mem_ofTexts (text : String) (texts : List String) : text ∈ ofTexts texts ↔ text ∈ texts := by
  simpa [ofTexts] using (fold_texts texts [] List.Pairwise.nil).2 text

/-- A sorted set of texts depends only on which texts occur. -/
theorem ofTexts_congr {texts texts' : List String} (same : ∀ text, text ∈ texts ↔ text ∈ texts') :
    ofTexts texts = ofTexts texts' := by
  refine increasing_unique (ofTexts_increasing texts) (ofTexts_increasing texts') ?_
  intro text
  rw [mem_ofTexts, mem_ofTexts, same]

end SourceAtlas.SortedLists

import SourceAtlas.Proofs.RosterInvariants

/-! What qualifies the members inside a node. A definition opens its node to members when it is a
container and is kept, or repeats one that may be split. The roster records the latest path a node
was opened with, and only captures of that very node can change it. -/
namespace SourceAtlas.MemberPaths
open RosterInvariants

/-- A captured definition opens its node: it is judged, it is a container, and it is kept, or its id
is taken but its kind may be split. -/
structure Opens (r : Reading) (roster : Roster) (kind : SymbolKind) (node : Nat) (path : String) :
    Prop where
  judged : ¬ Dismissed r roster kind node
  members : (r.candidate roster kind node).memberPath = some path
  joined : roster.hasId (r.candidate roster kind node).symbol.id = false ∨
    r.conventions.merges (r.candidate roster kind node).symbol.kind = true

/-- The path a node is open with after some captures: the latest it was opened with. -/
inductive Open (r : Reading) (node : Nat) (path : String) : List Capture → Prop where
  | now (role : capture.role = .definition kind) (here : capture.node = node)
      (opens : Opens r (r.roster seen) kind node path) : Open r node path (seen ++ [capture])
  | still (before : Open r node path seen)
      (untouched : ∀ kind, capture.role = .definition kind → capture.node = node →
        ∀ other, ¬ Opens r (r.roster seen) kind node other) : Open r node path (seen ++ [capture])

private theorem find_unkept (judged : ¬ Dismissed r roster kind node) :
    Roster.find? roster node = none := by
  by_contra found
  have kept : roster.keeps node = true := Option.isSome_iff_ne_none.mpr found
  exact judged (.inl (by simp [Reading.passesOver, kept]))

private theorem memberPath_repeat (roster : Roster) (new : Repeat) (node : Nat) :
    { roster with repeats := roster.repeats ++ [new] : Roster }.memberPath? node =
      ((roster.find? node).bind (·.memberPath)).or ((if new.node = node then new.memberPath
        else none).or ((roster.repeats.reverse.filter (·.node == node)).findSome? (·.memberPath))) := by
  by_cases here : new.node = node
  · cases path : new.memberPath <;> simp [Roster.memberPath?, Roster.find?, here, path]
  · simp [Roster.memberPath?, Roster.find?, here]

private theorem memberPath_kept (unkept : Roster.find? roster d.node = none) (node : Nat) :
    { roster with kept := roster.kept ++ [d] : Roster }.memberPath? node =
      if d.node = node then d.memberPath.or (roster.memberPath? node) else roster.memberPath? node := by
  by_cases here : d.node = node
  · subst here
    have absent := unkept
    simp only [Roster.find?] at absent
    simp [Roster.memberPath?, Roster.find?, List.find?_append, absent]
  · simp [Roster.memberPath?, Roster.find?, List.find?_append, here]

/-- What a definition opens its node with is recorded. -/
theorem memberPath_opened (judged : Judged r roster kind node after)
    (opens : Opens r roster kind node path) : after.memberPath? node = some path := by
  cases judged with
  | dismissed dismissed => exact absurd dismissed opens.judged
  | repeated judged taken =>
    have merges := opens.joined.resolve_left (by simp [taken])
    rw [memberPath_repeat, find_unkept judged]
    simp [merges, opens.members]
  | kept judged fresh =>
    have here : (r.candidate roster kind node).node = node := rfl
    rw [memberPath_kept (find_unkept judged), if_pos here, opens.members]
    rfl

/-- Nothing else changes what is recorded for a node. -/
theorem memberPath_untouched (judged : Judged r roster kind node after)
    (untouched : node = other → ∀ path, ¬ Opens r roster kind node path) :
    after.memberPath? other = roster.memberPath? other := by
  cases judged with
  | dismissed dismissed => rfl
  | repeated judged taken =>
    have unjoined (here : node = other) :
        (if r.conventions.merges (r.candidate roster kind node).symbol.kind then
          (r.candidate roster kind node).memberPath else none) = none := by
      by_contra joins
      obtain ⟨path, joins⟩ := Option.ne_none_iff_exists'.mp joins
      split at joins
      · rename_i merges
        exact untouched here path ⟨judged, joins, .inr merges⟩
      · cases joins
    have added : (if node = other then
        (if r.conventions.merges (r.candidate roster kind node).symbol.kind then
          (r.candidate roster kind node).memberPath else none) else none) = none := by
      by_cases here : node = other
      · rw [if_pos here, unjoined here]
      · rw [if_neg here]
    rw [memberPath_repeat, added, Option.none_or]
    rfl
  | kept judged fresh =>
    rw [memberPath_kept (find_unkept judged)]
    split
    · rename_i here
      have memberless : (r.candidate roster kind node).memberPath = none := by
        by_contra members
        obtain ⟨path, members⟩ := Option.ne_none_iff_exists'.mp members
        exact untouched here path ⟨judged, members, .inl fresh⟩
      rw [memberless, Option.none_or]
    · rfl

/-- A capture leaves a node alone that it does not open. -/
theorem roster_untouched (untouched : ∀ kind, capture.role = .definition kind → capture.node = node →
      ∀ other, ¬ Opens r (r.roster seen) kind node other) :
    (r.roster (seen ++ [capture])).memberPath? node = (r.roster seen).memberPath? node := by
  by_cases defines : ∃ kind, capture.role = .definition kind
  · obtain ⟨kind, role⟩ := defines
    refine memberPath_untouched (roster_judged r seen role) fun here path opens => ?_
    exact untouched kind role here path (here ▸ opens)
  · rw [roster_passed r seen fun kind role => defines ⟨kind, role⟩]

/-- A node stays open with its path as long as nothing opens it with another one. -/
theorem open_stays (isOpen : Open r node path seen)
    (same : ∀ capture ∈ after, ∀ kind, capture.role = .definition kind → capture.node = node →
      ∀ roster other, Opens r roster kind node other → other = path) :
    Open r node path (seen ++ after) := by
  induction after using List.reverseRecOn with
  | nil => rwa [List.append_nil]
  | append_singleton after capture ih =>
    have before := ih fun earlier member => same earlier (List.mem_append_left _ member)
    rw [← List.append_assoc]
    by_cases touched : ∃ kind other, capture.role = .definition kind ∧ capture.node = node ∧
        Opens r (r.roster (seen ++ after)) kind node other
    · obtain ⟨kind, other, role, here, opens⟩ := touched
      obtain rfl := same capture (by simp) kind role here _ other opens
      exact .now role here opens
    · exact .still before fun kind role here other opens => touched ⟨kind, other, role, here, opens⟩

/-- The roster records for each node the path it is open with. -/
theorem memberPath_iff_open (r : Reading) (node : Nat) (path : String) (captures : List Capture) :
    (r.roster captures).memberPath? node = some path ↔ Open r node path captures := by
  constructor
  · induction captures using List.reverseRecOn with
    | nil => simp [Reading.roster, Roster.memberPath?, Roster.find?]
    | append_singleton seen capture ih =>
      intro recorded
      by_cases touched : ∃ kind other, capture.role = .definition kind ∧ capture.node = node ∧
          Opens r (r.roster seen) kind node other
      · obtain ⟨kind, other, role, rfl, opens⟩ := touched
        rw [memberPath_opened (roster_judged r seen role) opens] at recorded
        cases recorded
        exact .now role rfl opens
      · have untouched : ∀ kind, capture.role = .definition kind → capture.node = node →
            ∀ other, ¬ Opens r (r.roster seen) kind node other :=
          fun kind role here other opens => touched ⟨kind, other, role, here, opens⟩
        rw [roster_untouched untouched] at recorded
        exact .still (ih recorded) untouched
  · intro isOpen
    induction isOpen with
    | now role here opens =>
      subst here
      exact memberPath_opened (roster_judged r _ role) opens
    | still _ untouched ih => rw [roster_untouched untouched, ih]

/-- Captures of other nodes leave a node open as it was. -/
theorem memberPath_behind (r : Reading) (before after : List Capture)
    (elsewhere : ∀ capture ∈ after, ∀ kind, capture.role = .definition kind → capture.node ≠ node) :
    (r.roster (before ++ after)).memberPath? node = (r.roster before).memberPath? node := by
  induction after using List.reverseRecOn with
  | nil => rw [List.append_nil]
  | append_singleton after capture ih =>
    have untouched : ∀ kind, capture.role = .definition kind → capture.node = node →
        ∀ other, ¬ Opens r (r.roster (before ++ after)) kind node other :=
      fun kind role here => absurd here (elsewhere capture (by simp) kind role)
    rw [← List.append_assoc, roster_untouched untouched]
    exact ih fun other member => elsewhere other (List.mem_append_left _ member)

end SourceAtlas.MemberPaths

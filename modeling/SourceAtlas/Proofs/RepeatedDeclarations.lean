import Mathlib.Data.List.Nodup
import SourceAtlas.Proofs.CaptureOrder
import SourceAtlas.Proofs.ExtractionShape
import SourceAtlas.Proofs.QualifierOwners

/-! What stands inside a declaration that was discarded as a repeat. It is not on the roster, so every
search climbs through it as if it were not there: a mention starts at the definition around it, and a
qualifier is stopped only where the declaration itself bars the way. -/
namespace SourceAtlas.RepeatedDeclarations
open RosterInvariants SyntaxNesting ExtractionShape QualifierOwners

/-- A node stands inside a discarded declaration, with the rows `inner` in between, and inside no
kept definition that the declaration holds. -/
structure InsideRepeat (r : Reading) (roster : Roster) (node : Nat) (discarded : Repeat)
    (inner : List Nat) : Prop where
  repeated : discarded ∈ roster.repeats
  inside : ∃ outer, r.tree.ancestors node = inner ++ discarded.node :: outer
  unkept : ∀ row ∈ inner ++ [discarded.node], roster.keeps row = false

/-- Nothing up to a discarded declaration bars the way, nor does the declaration itself, and from
there the way leads to the definition at `owner`. -/
structure Escapes (r : Reading) (roster : Roster) (discarded : Repeat) (inner : List Nat)
    (owner : Nat) : Prop where
  free : ∀ row ∈ inner ++ [discarded.node], ¬ Bars r roster row
  reaches : Reaches r roster discarded.node owner

theorem inside_escapes {inner : List Nat}
    (inside : InsideRepeat r roster node discarded inner) (owner : Nat) :
    Reaches r roster node owner ↔ Escapes r roster discarded inner owner := by
  obtain ⟨outer, split⟩ := inside.inside
  rw [reaches_through split inside.unkept]
  exact ⟨fun ⟨free, reaches⟩ => ⟨free, reaches⟩, fun ⟨free, reaches⟩ => ⟨free, reaches⟩⟩

section
variable {r : Reading} {before after : List Capture} {capture : Capture} {qualifier : Qualifier}
  {discarded : Repeat} {inner : List Nat}

/-- A qualifier other than a throw inside a discarded declaration leaves no trace where the
declaration bars the way. Where it does not, the qualifier marks the nearest definition around the
declaration that the way leads to, and no other symbol depends on it. -/
theorem repeat_leaves_no_trace
    (split : r.captures = before ++ capture :: after)
    (role : capture.role = .qualifier qualifier) (other : qualifier ≠ .throws)
    (inside : InsideRepeat r (r.roster r.captures) capture.node discarded inner) :
    (Bars r (r.roster r.captures) discarded.node →
      r.extractFrom (before ++ after) = r.extract) ∧
    ∀ d ∈ (r.roster r.captures).kept,
      (Escapes r (r.roster r.captures) discarded inner d.node →
        ⟨d.node, qualifier, capture.node⟩ ∈
          r.marks (r.roster r.captures) r.captures) ∧
      (¬ Escapes r (r.roster r.captures) discarded inner d.node →
        symbolOf r (before ++ after) d = symbolOf r r.captures d) := by
  have declares : ∀ kind, capture.role ≠ .definition kind := by
    rw [role]
    nofun
  rw [r.extract_eq]
  rw [split] at inside ⊢
  refine ⟨fun barred => ?_, fun d _ => ⟨fun escapes => ?_, fun enclosed => ?_⟩⟩
  · refine extractFrom_without role other fun owner reaches => ?_
    exact ((inside_escapes inside owner).mp reaches).free discarded.node (by simp) barred
  · rw [marks_split]
    have reaches := (inside_escapes inside d.node).mpr escapes
    have marked := (mem_marksOf role other ⟨d.node, qualifier, capture.node⟩).mpr
      ⟨reaches, rfl, rfl⟩
    exact List.mem_append_right _ (List.mem_append_left _ marked)
  · have unreached := mt (inside_escapes inside d.node).mp enclosed
    unfold symbolOf
    rw [roster_without r declares before after]
    exact complete_without role other d unreached before after

end

/-- A class that declares a method three times, twice by its signature and then with a body. The
second signature has a parameter. -/
def overloads : Reading where
  language := .typescript
  file := {
    path := "overload.ts"
    content := "class O \x7b m(): void; m(a: A): void; m() \x7b\x7d \x7d\n"
    rows := #[
      ⟨0, "program", true, "", 0, 45, []⟩, ⟨1, "class_declaration", true, "", 0, 44, []⟩,
      ⟨2, "class", false, "", 0, 5, []⟩, ⟨2, "type_identifier", true, "name", 6, 7, []⟩,
      ⟨2, "class_body", true, "body", 8, 44, []⟩, ⟨3, "\x7b", false, "", 8, 9, []⟩,
      ⟨3, "method_signature", true, "", 10, 19, []⟩,
      ⟨4, "property_identifier", true, "name", 10, 11, []⟩,
      ⟨4, "formal_parameters", true, "parameters", 11, 13, []⟩, ⟨5, "(", false, "", 11, 12, []⟩,
      ⟨5, ")", false, "", 12, 13, []⟩, ⟨4, "type_annotation", true, "return_type", 13, 19, []⟩,
      ⟨5, ":", false, "", 13, 14, []⟩, ⟨5, "predefined_type", true, "", 15, 19, []⟩,
      ⟨6, "void", false, "", 15, 19, []⟩, ⟨3, ";", false, "", 19, 20, []⟩,
      ⟨3, "method_signature", true, "", 21, 34, []⟩,
      ⟨4, "property_identifier", true, "name", 21, 22, []⟩,
      ⟨4, "formal_parameters", true, "parameters", 22, 28, []⟩, ⟨5, "(", false, "", 22, 23, []⟩,
      ⟨5, "required_parameter", true, "", 23, 27, []⟩,
      ⟨6, "identifier", true, "pattern", 23, 24, []⟩,
      ⟨6, "type_annotation", true, "type", 24, 27, []⟩, ⟨7, ":", false, "", 24, 25, []⟩,
      ⟨7, "type_identifier", true, "", 26, 27, []⟩, ⟨5, ")", false, "", 27, 28, []⟩,
      ⟨4, "type_annotation", true, "return_type", 28, 34, []⟩, ⟨5, ":", false, "", 28, 29, []⟩,
      ⟨5, "predefined_type", true, "", 30, 34, []⟩, ⟨6, "void", false, "", 30, 34, []⟩,
      ⟨3, ";", false, "", 34, 35, []⟩, ⟨3, "method_definition", true, "", 36, 42, []⟩,
      ⟨4, "property_identifier", true, "name", 36, 37, []⟩,
      ⟨4, "formal_parameters", true, "parameters", 37, 39, []⟩, ⟨5, "(", false, "", 37, 38, []⟩,
      ⟨5, ")", false, "", 38, 39, []⟩, ⟨4, "statement_block", true, "body", 40, 42, []⟩,
      ⟨5, "\x7b", false, "", 40, 41, []⟩, ⟨5, "\x7d", false, "", 41, 42, []⟩,
      ⟨3, "\x7d", false, "", 43, 44, []⟩] }

/-- The class of that file. -/
def overloadedClass : Definition where
  node := 1
  isMember := false
  memberPath := some "O"
  symbol := {
    id := "overload.ts#O"
    kind := .classType
    name := "O"
    filePath := "overload.ts"
    startLine := 1
    endLine := 1
    language := some "typescript" }

/-- The first of its methods, the only one that is kept. -/
def firstOverload : Definition where
  node := 6
  isMember := true
  memberPath := none
  symbol := {
    id := "overload.ts#O.m"
    kind := .method
    name := "m"
    filePath := "overload.ts"
    startLine := 1
    endLine := 1
    language := some "typescript" }

private theorem overloads_captures : overloads.captures =
    [⟨.definition .classType, 1⟩, ⟨.definition .method, 6⟩, ⟨.qualifier .parameters, 8⟩,
      ⟨.qualifier .returnType, 11⟩, ⟨.definition .method, 16⟩, ⟨.qualifier .parameters, 18⟩,
      ⟨.mention .reference, 24⟩, ⟨.qualifier .returnType, 26⟩, ⟨.definition .method, 31⟩,
      ⟨.qualifier .parameters, 33⟩] := by
  have same : [(1, 1), (6, 6), (18, 8), (19, 11), (6, 16), (18, 18), (14, 24), (19, 26), (6, 31),
      (18, 33)].Perm (CaptureOrder.found overloads.language.query overloads.tree) := by
    decide +kernel
  refine (CaptureOrder.run_of_sorted same ?_).trans ?_ <;> decide +kernel

private theorem overloads_roster : overloads.roster overloads.captures =
    { kept := [overloadedClass, firstOverload]
      repeats := [⟨16, "overload.ts#O.m", none⟩, ⟨31, "overload.ts#O.m", none⟩] } := by
  rw [overloads_captures]
  decide +kernel

private theorem body_in_repeat : InsideRepeat overloads (overloads.roster overloads.captures) 33
    ⟨31, "overload.ts#O.m", none⟩ [] := by
  rw [overloads_roster]
  exact ⟨by decide, ⟨[4, 1, 0], by decide +kernel⟩, by decide⟩

private theorem signature_in_repeat : InsideRepeat overloads (overloads.roster overloads.captures) 18
    ⟨16, "overload.ts#O.m", none⟩ [] := by
  rw [overloads_roster]
  exact ⟨by decide, ⟨[4, 1, 0], by decide +kernel⟩, by decide⟩

/-- The parameter list of the repeated method with a body is that of a local function, so it might as
well be left out. -/
theorem repeated_body_untraced :
    overloads.captures =
        overloads.captures.take 9 ++ ⟨.qualifier .parameters, 33⟩ :: overloads.captures.drop 10 ∧
      InsideRepeat overloads (overloads.roster overloads.captures) 33
        ⟨31, "overload.ts#O.m", none⟩ [] ∧
      Bars overloads (overloads.roster overloads.captures) 31 ∧
      overloads.extractFrom (overloads.captures.take 9 ++ overloads.captures.drop 10) =
        overloads.extract := by
  have split : overloads.captures =
      overloads.captures.take 9 ++ ⟨.qualifier .parameters, 33⟩ :: overloads.captures.drop 10 := by
    rw [overloads_captures]
    rfl
  have barred : Bars overloads (overloads.roster overloads.captures) 31 := by
    rw [overloads_roster]
    decide +kernel
  exact ⟨split, body_in_repeat, barred,
    (repeat_leaves_no_trace split rfl (by decide) body_in_repeat).1 barred⟩

/-- A repeated signature does not bar the way: its parameter list becomes that of the class. -/
theorem overload_marks_its_class :
    overloads.captures =
        overloads.captures.take 5 ++ ⟨.qualifier .parameters, 18⟩ :: overloads.captures.drop 6 ∧
      InsideRepeat overloads (overloads.roster overloads.captures) 18
        ⟨16, "overload.ts#O.m", none⟩ [] ∧
      overloadedClass ∈ (overloads.roster overloads.captures).kept ∧
      (symbolOf overloads (overloads.captures.take 5 ++ overloads.captures.drop 6)
        overloadedClass).parameters = [] ∧
      (symbolOf overloads overloads.captures overloadedClass).parameters = [⟨"a", some "A"⟩] := by
  refine ⟨?_, signature_in_repeat, ?_, ?_, ?_⟩
  · rw [overloads_captures]
    rfl
  · simp [overloads_roster]
  · rw [overloads_captures]
    decide +kernel
  · rw [overloads_captures]
    decide +kernel

/-- Every repeat has the id of a kept definition. -/
theorem repeat_taken (r : Reading) (captures : List Capture) :
    ∀ discarded ∈ (r.roster captures).repeats,
      ∃ first ∈ (r.roster captures).kept, first.symbol.id = discarded.id := by
  refine roster_induction (motive := fun _ roster => ∀ discarded ∈ roster.repeats,
    ∃ first ∈ roster.kept, first.symbol.id = discarded.id) r ?_ ?_ ?_ captures
  · simp
  · intro seen roster capture _ ih
    exact ih
  · intro seen roster capture kind after role judged ih discarded member
    cases judged with
    | dismissed => exact ih discarded member
    | repeated _ taken =>
      rcases List.mem_append.mp member with earlier | new
      · exact ih discarded earlier
      · obtain rfl := List.mem_singleton.mp new
        obtain ⟨first, kept, same⟩ := List.any_eq_true.mp taken
        exact ⟨first, kept, beq_iff_eq.mp same⟩
    | kept =>
      obtain ⟨first, kept, same⟩ := ih discarded member
      exact ⟨first, List.mem_append_left _ kept, same⟩

/-- Of all declarations around a node, those kept and those discarded as repeats, the closest is a
discarded one. -/
structure InnermostRepeat (r : Reading) (roster : Roster) (node : Nat) (discarded : Repeat) :
    Prop where
  repeated : discarded ∈ roster.repeats
  around : Encloses r.tree discarded.node node
  closest : ∀ other, (roster.keeps other = true ∨ ∃ e ∈ roster.repeats, e.node = other) →
    Encloses r.tree other node → Encloses r.tree other discarded.node

/-- Attribution looks through a discarded declaration: what is mentioned in it starts where the
declaration itself stands. -/
theorem enclosingId_through (innermost : InnermostRepeat r roster node discarded) :
    r.enclosingId roster node = r.enclosingId roster discarded.node := by
  obtain ⟨inner, outer, split⟩ := List.append_of_mem innermost.around
  have unkept : inner.findSome? roster.find? = none := by
    refine List.findSome?_eq_none_iff.mpr fun row member => ?_
    by_contra found
    have kept : roster.keeps row = true := Option.isSome_iff_ne_none.mpr found
    have around : Encloses r.tree row node := by
      rw [Encloses, split]
      exact List.mem_append_left _ member
    obtain ⟨below, above, rfl⟩ := List.append_of_mem member
    rw [List.append_assoc, List.cons_append] at split
    have inside : discarded.node ∈ r.tree.ancestors row := by
      rw [← around_split split]
      simp
    -- a kept row below the repeat would be closer than the closest declaration
    have closer := encloses_le (innermost.closest row (.inl kept) around)
    exact absurd (ancestor_lt inside) (Nat.not_lt.mpr closer)
  unfold Reading.enclosingId
  rw [split, List.findSome?_append, unkept, Option.none_or, around_split split]

/-- Two kept definitions that are both innermost around a node are one. -/
theorem innermost_unique (sound : Sound r captures roster) (one : Innermost r roster node d)
    (two : Innermost r roster node e) : d = e := by
  have below := encloses_le (two.closest d one.kept one.around)
  have above := encloses_le (one.closest e two.kept two.around)
  exact List.inj_on_of_nodup_map sound.nodes one.kept two.kept (Nat.le_antisymm below above)

/-- A relation mentioned inside a discarded declaration starts at the innermost kept definition
around that declaration. So it starts at the id of the declaration exactly if the definition that
took this id is the one around it. -/
theorem repeat_relation_starts {r : Reading} {capture : Capture} {relation : Relation}
    {discarded : Repeat}
    (innermost : InnermostRepeat r (r.roster r.captures) capture.node discarded)
    (member : relation ∈ r.relationsOf (r.roster r.captures) capture) :
    StartsAt r (r.roster r.captures) discarded.node relation.fromId ∧
    ∃ first ∈ (r.roster r.captures).kept, first.symbol.id = discarded.id ∧
      (relation.fromId = discarded.id ↔
        Innermost r (r.roster r.captures) discarded.node first) := by
  have sound : Sound r r.captures (r.roster r.captures) := extract_sound r
  have starts : StartsAt r (r.roster r.captures) discarded.node
      relation.fromId := by
    rw [(relationsOf_spec member).1, enclosingId_through innermost]
    exact enclosingId_starts r _ discarded.node
  obtain ⟨first, kept, taken⟩ := repeat_taken r _ discarded innermost.repeated
  refine ⟨starts, first, kept, taken, fun same => ?_, fun around => ?_⟩
  · rcases starts with ⟨d, closest, id⟩ | ⟨-, id⟩
    · have ids : d.symbol.id = first.symbol.id := by rw [← id, same, taken]
      exact List.inj_on_of_nodup_map sound.ids closest.kept kept ids ▸ closest
    · obtain ⟨own, hashed⟩ := (sound.grounded first kept).id
      have behind : r.file.path = r.file.path ++ "#" ++ own :=
        calc
          r.file.path = discarded.id := id.symm.trans same
          _ = first.symbol.id := taken.symm
          _ = r.file.path ++ "#" ++ own := hashed
      exact absurd behind (path_not_behind_hash r.file.path own)
  · rcases starts with ⟨d, closest, id⟩ | ⟨alone, -⟩
    · rw [id, innermost_unique sound closest around, taken]
    · exact absurd around.around (alone first kept)

private theorem type_in_repeat : InnermostRepeat overloads (overloads.roster overloads.captures) 24
    ⟨16, "overload.ts#O.m", none⟩ := by
  rw [overloads_roster]
  refine ⟨by decide, by decide +kernel, fun other declared around => ?_⟩
  have closest : ∀ row ∈ 24 :: overloads.tree.ancestors 24, row ∈ [1, 6, 16, 31] →
      row ∈ 16 :: overloads.tree.ancestors 16 := by decide +kernel
  refine closest other around ?_
  rcases declared with kept | ⟨discarded, member, rfl⟩
  · obtain ⟨d, member, rfl⟩ := (keeps_iff _ other).mp kept
    have nodes : ∀ d ∈ [overloadedClass, firstOverload], d.node ∈ [1, 6, 16, 31] := by decide
    exact nodes d member
  · have nodes := List.mem_map_of_mem member (f := (·.node))
    simp at nodes ⊢
    omega

private theorem type_mentioned : ⟨"overload.ts#O", "A", .reference⟩ ∈
    overloads.relationsOf (overloads.roster overloads.captures) ⟨.mention .reference, 24⟩ := by
  rw [overloads_roster]
  decide +kernel

/-- The type of the parameter in the repeated signature is mentioned by the class, the innermost kept
definition around that signature. -/
theorem type_in_overload_starts :
    InnermostRepeat overloads (overloads.roster overloads.captures) 24
        ⟨16, "overload.ts#O.m", none⟩ ∧
      StartsAt overloads (overloads.roster overloads.captures) 16 "overload.ts#O" ∧
      ∃ first ∈ (overloads.roster overloads.captures).kept, first.symbol.id = "overload.ts#O.m" ∧
        ("overload.ts#O" = "overload.ts#O.m" ↔
          Innermost overloads (overloads.roster overloads.captures) 16 first) :=
  ⟨type_in_repeat, repeat_relation_starts type_in_repeat type_mentioned⟩

/-- So the relation does not start at the method, although a repeat of the method is the innermost
declaration around it. -/
theorem overload_misses_its_method :
    ⟨.mention .reference, 24⟩ ∈ overloads.captures ∧
      InnermostRepeat overloads (overloads.roster overloads.captures) 24
        ⟨16, "overload.ts#O.m", none⟩ ∧
      ∃ relation ∈ overloads.relationsOf (overloads.roster overloads.captures)
        ⟨.mention .reference, 24⟩, relation.fromId ≠ "overload.ts#O.m" :=
  ⟨by simp [overloads_captures], type_in_repeat, _, type_mentioned, by decide⟩

end SourceAtlas.RepeatedDeclarations

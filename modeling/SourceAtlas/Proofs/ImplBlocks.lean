import SourceAtlas.Proofs.ContainerMembers
import SourceAtlas.Proofs.QualifierOwners
import SourceAtlas.Proofs.QueryCaptures

/-! Types of Rust and the implementation blocks that add members to them. A block takes the name of
its type for its members, and a type takes its own name for its fields; whichever is kept first has
it. So a type is named plainly unless a block stands before it, and the methods of a block are named
after the type wherever the block stands. -/
namespace SourceAtlas.ImplBlocks
open RosterInvariants MemberPaths ContainerMembers QueryCaptures

/-- A name like those of types: no sign in it that qualifies, adds a line or describes a block. -/
def Plain (name : String) : Prop :=
  ∀ c ∈ name.toList, c ≠ '.' ∧ c ≠ ':' ∧ c ≠ ' '

/-- A captured definition of a name that nothing around it qualifies. -/
structure DeclaresBare (r : Reading) (captures before : List Capture) (kind : SymbolKind)
    (node : Nat) (name : String) : Prop where
  declares : Declares r captures before kind node
  named : r.nameOf kind node = name
  bare : r.enclosingPath? (r.roster before) node = none

/-- The one declaration of a type: a struct, an enum, a union or a trait that nothing qualifies. No
other definition has its name and is neither qualified nor an implementation block. -/
structure OnlyType (r : Reading) (before : List Capture) (kind : SymbolKind) (node : Nat)
    (name : String) : Prop where
  declares : DeclaresBare r r.captures before kind node name
  type : kind ∈ [SymbolKind.struct, .enum, .union, .trait]
  only : ∀ before' kind' node', DeclaresBare r r.captures before' kind' node' name →
    kind' ≠ .impl → before' = before

/-- An implementation block for the type with this name, type arguments left out. -/
structure BlockFor (r : Reading) (node : Nat) (name : String) : Prop where
  block : r.tree.kind node = "impl_item"
  type : ∃ type ∈ r.tree.field? "type" node,
    Declaration.withoutGenerics (r.tree.nodeText type) = name

/-- A kept implementation block gives its members this name. -/
def Holds (roster : Roster) (name : String) : Prop :=
  ∃ block ∈ roster.kept, block.symbol.kind = .impl ∧ block.memberPath = some name

/-- The name of a definition behind the path that qualifies it. -/
def qualifiedName (r : Reading) (roster : Roster) (kind : SymbolKind) (node : Nat) : String :=
  match r.enclosingPath? roster node with
  | some path => path ++ "." ++ r.nameOf kind node
  | none => r.nameOf kind node

theorem bare_of_plain (plain : Plain name) (same : qualifiedName r roster kind node = name) :
    r.nameOf kind node = name ∧ r.enclosingPath? roster node = none := by
  unfold qualifiedName at same
  split at same
  · have dotted : '.' ∈ name.toList := by simp [← same]
    exact absurd rfl (plain '.' dotted).1
  · exact ⟨same, by assumption⟩

/-- The kind of a definition, once it is known whether something qualifies it. -/
def settledKind (r : Reading) (roster : Roster) (kind : SymbolKind) (node : Nat) : SymbolKind :=
  Reading.adjustKind kind (r.enclosingPath? roster node).isSome

theorem settledKind_impl (r : Reading) (roster : Roster) (kind : SymbolKind) (node : Nat) :
    settledKind r roster kind node = .impl ↔ kind = .impl := by
  unfold settledKind
  cases kind <;> cases (r.enclosingPath? roster node).isSome <;> simp [Reading.adjustKind]

/-- What a definition would name its members after. -/
def membersName (r : Reading) (roster : Roster) (kind : SymbolKind) (node : Nat) : String :=
  Conventions.Rust.memberPath r.tree (settledKind r roster kind node) node
    (qualifiedName r roster kind node)

theorem membersName_own (other : kind ≠ .impl) (r : Reading) (roster : Roster) (node : Nat) :
    membersName r roster kind node = qualifiedName r roster kind node := by
  have settled : settledKind r roster kind node ≠ .impl := mt (settledKind_impl ..).mp other
  simp [membersName, Conventions.Rust.memberPath, settled]

/-- A text of a definition, with its line added if it is a type and a kept definition has the name
that its members would get. -/
def withLine (r : Reading) (roster : Roster) (kind : SymbolKind) (node : Nat) (text : String) :
    String :=
  if (settledKind r roster kind node).qualifiesMembers &&
      roster.isTaken (membersName r roster kind node) &&
      !(settledKind r roster kind node == .impl) then
    text ++ ":" ++ toString (r.tree.startLine node)
  else text

/-- A plain text is never one with a line. -/
theorem withLine_plain (plain : Plain name) (same : withLine r roster kind node text = name) :
    text = name := by
  unfold withLine at same
  split at same
  · have colon : ':' ∈ name.toList := by simp [← same]
    exact absurd rfl (plain ':' colon).2.1
  · exact same

theorem withLine_impl (r : Reading) (roster : Roster) (node : Nat) (text : String) :
    withLine r roster .impl node text = text := by
  have settled := (settledKind_impl r roster .impl node).mpr rfl
  simp [withLine, settled]

section
variable {r : Reading} (rust : r.language = .rust)
include rust

theorem rust_kind (roster : Roster) (kind : SymbolKind) (node : Nat) :
    (r.candidate roster kind node).symbol.kind = settledKind r roster kind node := by
  simp [Reading.candidate, Reading.rust_conventions rust, Conventions.Rust.conventions, settledKind]

/-- The id of a definition in Rust, where there are no elements. -/
theorem rust_id (roster : Roster) (node : Nat) (other : kind ≠ .markupElement) :
    (r.candidate roster kind node).symbol.id =
      r.file.path ++ "#" ++ withLine r roster kind node (qualifiedName r roster kind node) := by
  have unmarked : (r.candidate roster kind node).symbol.kind ≠ .markupElement :=
    candidate_avoids other (by decide) r roster node
  rw [rust_kind rust, settledKind] at unmarked
  simp only [Reading.candidate, Reading.rust_conventions rust, Conventions.Rust.conventions,
    Option.or_none, beq_iff_eq, unmarked, if_false]
  rfl

theorem rust_members (roster : Roster) (kind : SymbolKind) (node : Nat) :
    (r.candidate roster kind node).memberPath =
      if (settledKind r roster kind node).qualifiesMembers then
        some (withLine r roster kind node (membersName r roster kind node))
      else none := by
  simp only [Reading.candidate, Reading.rust_conventions rust, Conventions.Rust.conventions,
    Option.or_none]
  rfl

theorem rust_declares_no_element (declares : Declares r r.captures before kind node) :
    kind ≠ .markupElement := by
  rintro rfl
  obtain ⟨capture, after, split, role, -⟩ := declares.captured
  have member : capture ∈ r.language.query.run r.tree := by
    rw [← Reading.captures, split]
    simp
  cases rust.symm.trans (element_in_markup member role)

/-- What is not a block gives its members a plain name only if this is its own. -/
theorem bare_of_members (plain : Plain name) (other : kind ≠ .impl)
    (members : (r.candidate roster kind node).memberPath = some name) :
    r.nameOf kind node = name ∧ r.enclosingPath? roster node = none := by
  rw [rust_members rust, membersName_own other] at members
  split at members
  · exact bare_of_plain plain (withLine_plain plain (Option.some.inj members))
  · cases members

/-- What has the id of a plain name has this name. -/
theorem bare_of_id (plain : Plain name) (other : kind ≠ .markupElement)
    (id : (r.candidate roster kind node).symbol.id = r.file.path ++ "#" ++ name) :
    r.nameOf kind node = name ∧ r.enclosingPath? roster node = none := by
  rw [rust_id rust roster node other] at id
  exact bare_of_plain plain (withLine_plain plain ((String.append_right_inj _).mp id))

theorem rust_block_members (roster : Roster) (node : Nat) :
    (r.candidate roster .impl node).memberPath = some (Conventions.Rust.memberPath r.tree .impl node
      (qualifiedName r roster .impl node)) := by
  have settled := (settledKind_impl r roster .impl node).mpr rfl
  have container : SymbolKind.impl.qualifiesMembers = true := rfl
  rw [rust_members rust, withLine_impl, settled, if_pos container, membersName, settled]

/-- A block gives its members the name of the type it is for. -/
theorem block_members (block : BlockFor r node name) (roster : Roster) :
    (r.candidate roster .impl node).memberPath = some name := by
  obtain ⟨type, found, rfl⟩ := block.type
  rw [rust_block_members rust]
  simp [Conventions.Rust.memberPath, Option.mem_def.mp found]

/-- A block with a plain name is for no type, so its members get the name of the block. -/
theorem nameless_block_members (plain : Plain name) (named : r.nameOf .impl node = name)
    (bare : r.enclosingPath? roster node = none) :
    (r.candidate roster .impl node).memberPath = some name := by
  cases type : r.tree.field? "type" node with
  | none =>
    rw [rust_block_members rust, qualifiedName, bare]
    simp [Conventions.Rust.memberPath, type, named]
  | some type =>
    -- the name would describe the block and have a space in it
    have spaced : ' ' ∈ name.toList := by
      rw [← named, Reading.nameOf, Reading.rust_conventions rust]
      simp only [Conventions.Rust.conventions, Conventions.Rust.symbolName?,
        Conventions.Rust.implName?, type, beq_self_eq_true, if_true, Option.map_some,
        Option.getD_some]
      split <;> simp [String.toList_append]
    exact absurd rfl (plain ' ' spaced).2.2

/-- A block that is not dismissed stays open to members under the name of its type. -/
theorem block_open (block : BlockFor r host name) (carries : CarriesContainer r r.captures host) :
    Open r host name r.captures := by
  have captured_impl (capture : Capture) (member : capture ∈ r.captures) (kind : SymbolKind)
      (role : capture.role = .definition kind) (here : capture.node = host) : kind = .impl := by
    rw [Reading.rust_captures rust] at member
    exact rust_impl member role (here ▸ block.block)
  obtain ⟨before, kind, declares, -⟩ := carries
  obtain ⟨capture, after, split, role, here⟩ := declares.captured
  obtain rfl := captured_impl capture (by simp [split]) kind role here
  have merges : r.conventions.merges (r.candidate (r.roster before) .impl host).symbol.kind = true := by
    rw [rust_kind rust, (settledKind_impl ..).mpr rfl, Reading.rust_conventions rust]
    rfl
  have opened : Open r host name (before ++ [capture]) :=
    .now role here ⟨declares.judged, block_members rust block _, .inr merges⟩
  rw [split, List.append_cons]
  refine open_stays opened fun later member kind' role' here' roster other opens => ?_
  obtain rfl := captured_impl later (by simp [split, member]) kind' role' here'
  exact Option.some.inj (opens.members.symm.trans (block_members rust block roster))

/-- The methods of a block are named after the type that the block is for. -/
theorem block_method_id (layered : Layered r.tree r.captures) (block : BlockFor r host name)
    (kept : d ∈ (r.roster r.captures).kept) (nearest : NearestContainer r r.captures d.node host)
    (method : d.symbol.kind = .method) :
    d.symbol.id = r.file.path ++ "#" ++ (name ++ "." ++ d.symbol.name) := by
  obtain ⟨earlier, later, parts⟩ := List.append_of_mem kept
  obtain ⟨before, kind, declares, -, made⟩ := kept_declared parts
  obtain ⟨capture, after, split, role, here⟩ := declares.captured
  have around : host ∈ r.tree.ancestors capture.node := by
    obtain ⟨inner, outer, chain, -⟩ := nearest.around
    simp [here, chain]
  have isOpen := block_open rust block nearest.carries
  have openBefore : Open r host name before := by
    have order := CaptureOrder.run_wider_first r.language.query r.tree
    have elsewhere := outer_captured_before layered order split role around
    rw [← memberPath_iff_open, split, memberPath_behind r before _ elsewhere] at isOpen
    exact (memberPath_iff_open ..).mp isOpen
  rw [split] at nearest
  have qualified := candidate_qualified (enclosing_nearest nearest openBefore) made (by simp [method])
  refine qualified.named fun clashes => ?_
  -- a method has no members that could be named like others
  have container := clashes.1
  rw [method] at container
  cases container

end

section
variable {r : Reading} {before : List Capture} {kind : SymbolKind} {node : Nat} {name : String}
  (type : OnlyType r before kind node name)
include type

/-- Before its only type a name is declared by blocks alone. -/
private theorem declared_before (earlier : DeclaresBare r before before' kind' node' name) :
    kind' = .impl := by
  by_contra other
  obtain ⟨capture, after, split, -⟩ := type.declares.declares.captured
  have declares : Declares r r.captures before' kind' node' := by
    rw [split]
    exact declares_append earlier.declares _
  have same := type.only before' kind' node' ⟨declares, earlier.named, earlier.bare⟩ other
  obtain ⟨own, between, shorter, -⟩ := earlier.declares.captured
  have lengths := congrArg List.length shorter
  simp [same] at lengths

/-- A type is a container of its own kind. -/
private theorem type_settled (roster : Roster) : kind ≠ .impl ∧ kind ≠ .markupElement ∧
    settledKind r roster kind node = kind ∧ kind.qualifiesMembers = true := by
  have listed := type.type
  simp only [List.mem_cons, List.not_mem_nil, or_false] at listed
  unfold settledKind
  rcases listed with rfl | rfl | rfl | rfl <;> simp [Reading.adjustKind] <;> rfl

variable (rust : r.language = .rust)
include rust

/-- The id of a type has its line if a kept definition before it gives its members the same name. -/
private theorem type_id : (r.candidate (r.roster before) kind node).symbol.id =
    r.file.path ++ "#" ++ (if (r.roster before).isTaken name = true then
      name ++ ":" ++ toString (r.tree.startLine node) else name) := by
  obtain ⟨other, unmarked, settled, container⟩ := type_settled type (r.roster before)
  have own : qualifiedName r (r.roster before) kind node = name := by
    rw [qualifiedName, type.declares.bare, type.declares.named]
  have unsplit : (kind == .impl) = false := beq_eq_false_iff_ne.mpr other
  rw [rust_id rust _ _ unmarked, withLine, membersName_own other, settled, own, container, unsplit]
  simp

/-- A kept definition before the type that has its name for its members, or its id, is a block that
holds the name. -/
private theorem held_before (plain : Plain name) (kept : e ∈ (r.roster before).kept)
    (same : e.memberPath = some name ∨ e.symbol.id = r.file.path ++ "#" ++ name) :
    Holds (r.roster before) name := by
  obtain ⟨earlier, later, parts⟩ := List.append_of_mem kept
  obtain ⟨before', kind', declares, -, made⟩ := kept_declared parts
  obtain ⟨capture, after, split, -⟩ := type.declares.declares.captured
  have declared : Declares r r.captures before' kind' e.node := by
    rw [split]
    exact declares_append declares _
  have unmarked := rust_declares_no_element rust declared
  by_cases block : kind' = .impl
  · subst block
    have block : e.symbol.kind = .impl := by
      rw [made, rust_kind rust]
      exact (settledKind_impl ..).mpr rfl
    refine ⟨e, kept, block, ?_⟩
    rcases same with members | id
    · exact members
    · rw [made] at id ⊢
      obtain ⟨named, bare⟩ := bare_of_id rust plain unmarked id
      exact nameless_block_members rust plain named bare
  · rw [made] at same
    have bare : r.nameOf kind' e.node = name ∧ r.enclosingPath? (r.roster before') e.node = none := by
      rcases same with members | id
      · exact bare_of_members rust plain block members
      · exact bare_of_id rust plain unmarked id
    exact absurd (declared_before type ⟨declares, bare.1, bare.2⟩) block

/-- The one declaration of a type in a file is kept under its plain name if no block before it holds
the name, and gets its line added if one does. The methods of the blocks for the type are named after
it wherever they stand. -/
theorem type_and_block_ids :
    (Plain name → ¬ Holds (r.roster before) name →
      r.candidate (r.roster before) kind node ∈ (r.roster r.captures).kept ∧
        (r.candidate (r.roster before) kind node).symbol.id = r.file.path ++ "#" ++ name) ∧
    (Holds (r.roster before) name → (r.candidate (r.roster before) kind node).symbol.id =
      r.file.path ++ "#" ++ (name ++ ":" ++ toString (r.tree.startLine node))) ∧
    (Layered r.tree r.captures → ∀ host, BlockFor r host name →
      ∀ d ∈ (r.roster r.captures).kept, NearestContainer r r.captures d.node host →
        d.symbol.kind = .method →
          d.symbol.id = r.file.path ++ "#" ++ (name ++ "." ++ d.symbol.name)) := by
  have id := type_id type rust
  refine ⟨fun plain unheld => ?_, fun held => ?_, fun layered host block d kept nearest method => ?_⟩
  · have free : (r.roster before).isTaken name = false := by
      refine List.any_eq_false.mpr fun e kept members => unheld ?_
      exact held_before type rust plain kept (.inl (beq_iff_eq.mp members))
    rw [free, if_neg Bool.false_ne_true] at id
    have fresh : (r.roster before).hasId (r.candidate (r.roster before) kind node).symbol.id =
        false := by
      refine List.any_eq_false.mpr fun e kept taken => unheld ?_
      exact held_before type rust plain kept (.inr ((beq_iff_eq.mp taken).trans id))
    exact ⟨fresh_kept type.declares.declares fresh, id⟩
  · obtain ⟨block, kept, -, members⟩ := held
    have taken : (r.roster before).isTaken name = true :=
      List.any_eq_true.mpr ⟨block, kept, beq_iff_eq.mpr members⟩
    rw [id, if_pos taken]
  · exact block_method_id rust layered block kept nearest method

end

/-- The name that a capture declares, if it is not a block. -/
def declaredName? (r : Reading) (capture : Capture) : Option String :=
  match capture.role with
  | .definition .impl => none
  | .definition kind => some (r.nameOf kind capture.node)
  | _ => none

/-- Where the captures declare a name at one place only, it is declared nowhere else. -/
theorem only_at {r : Reading} {place : Nat} (places : ∀ index < r.captures.length,
      (r.captures[index]?).bind (declaredName? r) = some name → index = place)
    (declares : DeclaresBare r r.captures before kind node name) (other : kind ≠ .impl) :
    before = r.captures.take place := by
  obtain ⟨capture, after, split, role, rfl⟩ := declares.declares.captured
  have declared : (r.captures[before.length]?).bind (declaredName? r) = some name := by
    rw [split, List.getElem?_append_right (Nat.le_refl _), Nat.sub_self, List.getElem?_cons_zero,
      Option.bind_some, declaredName?, role]
    cases kind with
    | impl => exact absurd rfl other
    | _ => exact congrArg some declares.named
  rw [← places before.length (by simp [split]) declared, split, List.take_left]

/-- A type with its block behind it, and a type with its block before it. -/
def scattered : Reading where
  language := .rust
  file := {
    path := "order.rs"
    content := "struct A;\nimpl A \x7b fn a() \x7b\x7d \x7d\nimpl B \x7b fn b() \x7b\x7d \x7d\nstruct B;\n"
    rows := #[
      ⟨0, "source_file", true, "", 0, 62, []⟩, ⟨1, "struct_item", true, "", 0, 9, []⟩,
      ⟨2, "struct", false, "", 0, 6, []⟩, ⟨2, "type_identifier", true, "name", 7, 8, []⟩,
      ⟨2, ";", false, "", 8, 9, []⟩, ⟨1, "impl_item", true, "", 10, 30, []⟩,
      ⟨2, "impl", false, "", 10, 14, []⟩, ⟨2, "type_identifier", true, "type", 15, 16, []⟩,
      ⟨2, "declaration_list", true, "body", 17, 30, []⟩, ⟨3, "\x7b", false, "", 17, 18, []⟩,
      ⟨3, "function_item", true, "", 19, 28, []⟩, ⟨4, "fn", false, "", 19, 21, []⟩,
      ⟨4, "identifier", true, "name", 22, 23, []⟩,
      ⟨4, "parameters", true, "parameters", 23, 25, []⟩, ⟨5, "(", false, "", 23, 24, []⟩,
      ⟨5, ")", false, "", 24, 25, []⟩, ⟨4, "block", true, "body", 26, 28, []⟩,
      ⟨5, "\x7b", false, "", 26, 27, []⟩, ⟨5, "\x7d", false, "", 27, 28, []⟩,
      ⟨3, "\x7d", false, "", 29, 30, []⟩, ⟨1, "impl_item", true, "", 31, 51, []⟩,
      ⟨2, "impl", false, "", 31, 35, []⟩, ⟨2, "type_identifier", true, "type", 36, 37, []⟩,
      ⟨2, "declaration_list", true, "body", 38, 51, []⟩, ⟨3, "\x7b", false, "", 38, 39, []⟩,
      ⟨3, "function_item", true, "", 40, 49, []⟩, ⟨4, "fn", false, "", 40, 42, []⟩,
      ⟨4, "identifier", true, "name", 43, 44, []⟩,
      ⟨4, "parameters", true, "parameters", 44, 46, []⟩, ⟨5, "(", false, "", 44, 45, []⟩,
      ⟨5, ")", false, "", 45, 46, []⟩, ⟨4, "block", true, "body", 47, 49, []⟩,
      ⟨5, "\x7b", false, "", 47, 48, []⟩, ⟨5, "\x7d", false, "", 48, 49, []⟩,
      ⟨3, "\x7d", false, "", 50, 51, []⟩, ⟨1, "struct_item", true, "", 52, 61, []⟩,
      ⟨2, "struct", false, "", 52, 58, []⟩, ⟨2, "type_identifier", true, "name", 59, 60, []⟩,
      ⟨2, ";", false, "", 60, 61, []⟩] }

private theorem scattered_captures : scattered.captures =
    [⟨.definition .struct, 1⟩, ⟨.definition .impl, 5⟩, ⟨.definition .function, 10⟩,
      ⟨.qualifier .parameters, 13⟩, ⟨.definition .impl, 20⟩, ⟨.definition .function, 25⟩,
      ⟨.qualifier .parameters, 28⟩, ⟨.definition .struct, 35⟩] := by
  have same : [(2, 1), (6, 5), (0, 10), (19, 13), (6, 20), (0, 25), (19, 28), (2, 35)].Perm
      (CaptureOrder.found scattered.language.query scattered.tree) := by
    decide +kernel
  refine (CaptureOrder.run_of_sorted same ?_).trans ?_ <;> decide +kernel

private theorem scattered_layered : Layered scattered.tree scattered.captures := by
  rw [scattered_captures]
  exact layered_of_apart (by decide +kernel) (by decide +kernel)

private theorem first_type : OnlyType scattered [] .struct 1 "A" := by
  have judged : ¬ Dismissed scattered (scattered.roster []) .struct 1 := by decide +kernel
  have named : scattered.nameOf .struct 1 = "A" := by decide +kernel
  have places : ∀ index < scattered.captures.length,
      (scattered.captures[index]?).bind (declaredName? scattered) = some "A" → index = 0 := by
    rw [scattered_captures]
    decide +kernel
  refine ⟨⟨⟨⟨_, _, scattered_captures, rfl, rfl⟩, judged⟩, named, by decide +kernel⟩, by decide, ?_⟩
  intro before kind node declares other
  exact only_at places declares other

private theorem second_type : OnlyType scattered (scattered.captures.take 7) .struct 35 "B" := by
  have places : ∀ index < scattered.captures.length,
      (scattered.captures[index]?).bind (declaredName? scattered) = some "B" → index = 7 := by
    rw [scattered_captures]
    decide +kernel
  have judged : ¬ Dismissed scattered (scattered.roster (scattered.captures.take 7)) .struct 35 := by
    rw [scattered_captures]
    decide +kernel
  have named : scattered.nameOf .struct 35 = "B" := by decide +kernel
  have bare : scattered.enclosingPath? (scattered.roster (scattered.captures.take 7)) 35 = none := by
    rw [scattered_captures]
    decide +kernel
  refine ⟨⟨⟨⟨⟨.definition .struct, 35⟩, [], ?_, rfl, rfl⟩, judged⟩, named, bare⟩, by decide, ?_⟩
  · rw [scattered_captures]
    rfl
  · intro before kind node declares other
    exact only_at places declares other

private theorem first_block : BlockFor scattered 5 "A" :=
  ⟨by decide +kernel, 7, by decide +kernel, by decide +kernel⟩

private theorem method_nearest : NearestContainer scattered scattered.captures 10 5 := by
  rw [scattered_captures]
  have container : ¬ Dismissed scattered (scattered.roster [⟨.definition .struct, 1⟩]) .impl 5 ∧
      (scattered.candidate (scattered.roster [⟨.definition .struct, 1⟩])
        .impl 5).symbol.kind.qualifiesMembers = true := by
    decide +kernel
  refine ⟨⟨[8], [0], by decide +kernel, ?_⟩, ?_⟩
  · intro between inside
    obtain rfl := List.mem_singleton.mp inside
    exact uncaptured_plain (by decide)
  · exact ⟨_, _, ⟨⟨_, _, rfl, rfl, rfl⟩, container.1⟩, container.2⟩

/-- The first type stands before its block and is kept under its plain name; so is the method of the
block. -/
theorem type_before_its_block :
    OnlyType scattered [] .struct 1 "A" ∧
      (scattered.candidate (scattered.roster []) .struct 1 ∈
          (scattered.roster scattered.captures).kept ∧
        (scattered.candidate (scattered.roster []) .struct 1).symbol.id = "order.rs#A") ∧
      BlockFor scattered 5 "A" ∧
      ∃ d ∈ (scattered.roster scattered.captures).kept,
        NearestContainer scattered scattered.captures d.node 5 ∧ d.symbol.id = "order.rs#A.a" := by
  obtain ⟨kept, -, methods⟩ := type_and_block_ids first_type rfl
  have plain : Plain "A" := by
    intro c member
    obtain rfl : c = 'A' := by simpa using member
    decide
  have unheld : ¬ Holds (scattered.roster []) "A" := by simp [Holds, Reading.roster]
  have method : ∃ d ∈ (scattered.roster scattered.captures).kept,
      d.node = 10 ∧ d.symbol.kind = .method ∧ d.symbol.name = "a" := by
    rw [scattered_captures]
    decide +kernel
  obtain ⟨d, member, here, kind, name⟩ := method
  have nearest : NearestContainer scattered scattered.captures d.node 5 := here ▸ method_nearest
  have id := methods scattered_layered 5 first_block d member nearest kind
  rw [name] at id
  exact ⟨first_type, kept plain unheld, first_block, d, member, nearest, id⟩

/-- The second type stands behind its block, which holds the name: its id has its line. -/
theorem type_behind_its_block :
    OnlyType scattered (scattered.captures.take 7) .struct 35 "B" ∧
      ∃ d ∈ (scattered.roster scattered.captures).kept, d.node = 35 ∧
        d.symbol.kind = .struct ∧ d.symbol.name = "B" ∧ d.symbol.id = "order.rs#B:4" ∧
        d.symbol.id ≠ "order.rs#B" := by
  refine ⟨second_type, ?_⟩
  rw [scattered_captures]
  decide +kernel

end SourceAtlas.ImplBlocks

import Mathlib.Data.List.Chain
import SourceAtlas.Declaration.Text
import SourceAtlas.Proofs.ByteOffsets
import SourceAtlas.Proofs.WordRuns

/-! Excerpts of declarations. The offsets between which an excerpt is cut come from searches of the
bytes of a text, from outside, or from a limit on the size, and all of them stand between two
characters. What is shown is the squeezed excerpt, so it has single spaces only, and as much of it
as fits. -/
namespace SourceAtlas.SnippetExcerpts
open Chars ByteOffsets SplitTexts WordRuns Snippet

/-- Whether a byte is one of some signs. -/
def among (signs : List Char) (b : UInt8) : Bool :=
  (signs.map Char.toUInt8).contains b

/-- Whether the bytes start with an equals sign that stands alone. -/
def loneEquals (previous : Option UInt8) : List UInt8 → Bool
  | [] => false
  | b :: rest =>
    let bound := previous.any (among "=!<>:".toList) || rest.head?.any (among "=>".toList)
    b == '='.toUInt8 && !bound

/-- The offset of the end of the first line. A carriage return belongs to the line end. -/
def lineEnd (bytes : List UInt8) : Nat :=
  match offset? (startsWith ['\n']) none bytes with
  | some n => if (bytes.take n).getLast? == some '\r'.toUInt8 then n - 1 else n
  | none => bytes.length

/-- The offsets between which the excerpt of a declaration is cut. The offset of the body only
counts where a text may be cut. -/
def bounds (kind : SymbolKind) (text : String) (body : Option Nat) : Nat × Nat :=
  let bytes := ByteOrder.bytes text
  match kind with
  | .arrowFunction => match offset? (startsWith ['=', '>']) none bytes with
    | some n => (0, n + 2)
    | none => (0, lineEnd bytes)
  | .binding | .constant | .static | .field | .property =>
    match offset? loneEquals none bytes with
    | some n => (n + 1, bytes.length)
    | none => (0, lineEnd bytes)
  | .styleRule | .markupElement => (0, lineEnd bytes)
  | _ => match body.filter fun n => String.Pos.Raw.isValid text ⟨n⟩ with
    | some n => (0, n)
    | none => match offset? (startsWith ['\x7b']) none bytes with
      | some n => (0, n)
      | none => (0, lineEnd bytes)

/-- The characters from one offset to another. -/
def Between (cs : List Char) (offsets : Nat × Nat) (part : List Char) : Prop :=
  ∃ before after, cs = before ++ (part ++ after) ∧
    offsets = (byteLength before, byteLength before + byteLength part)

theorem lead_between (part after : List Char) :
    Between (part ++ after) (0, byteLength part) part := by
  refine ⟨[], after, rfl, ?_⟩
  change _ = (0, 0 + _)
  rw [Nat.zero_add]

/-! The first line. -/

theorem firstLine_of_cut (cut : cut? ['\n'] cs = some (line, behind)) :
    Text.firstLine cs = if line.getLast? == some '\r' then line.dropLast else line := by
  have pieces : splitOn '\n' cs = line :: splitOn '\n' behind := by
    rw [← cut_joined cut, List.singleton_append, splitOn_append, splitOn_whole (cut_first cut),
      List.singleton_append]
  have more : splitOn '\n' behind ≠ [] := ((splitOn_iff '\n' behind _).mp rfl).nonempty
  rw [Text.firstLine, lines, pieces, List.dropLast_cons_of_ne_nil more]
  split <;> rfl

theorem firstLine_of_none (missing : cut? ['\n'] cs = none) : Text.firstLine cs = cs := by
  rw [Text.firstLine, lines, splitOn_whole (cut_none missing)]
  cases cs <;> rfl

theorem getLast_encoded (cs : List Char) : (encoded cs).getLast? = cs.getLast?.map lastByte := by
  rcases List.eq_nil_or_concat cs with rfl | ⟨rest, c, rfl⟩
  · rfl
  · have single : encoded [c] = String.utf8EncodeChar c := by
      rw [encoded_cons]
      exact List.append_nil _
    rw [List.concat_eq_append, encoded_append, single, List.getLast?_append_of_ne_nil _
      String.utf8EncodeChar_ne_nil, List.getLast?_eq_some_getLast String.utf8EncodeChar_ne_nil,
      List.getLast?_concat]
    rfl

theorem take_encoded (cs ds : List Char) :
    (encoded (cs ++ ds)).take (byteLength cs) = encoded cs := by
  rw [encoded_append, ← length_encoded]
  exact List.take_left

/-- The first line is found in the bytes as it is found in the characters. -/
theorem firstLine_between (cs : List Char) :
    Between cs (0, lineEnd (encoded cs)) (Text.firstLine cs) := by
  have search := offset_cut ['\n'] (plain_all (by decide)) (List.cons_ne_nil _ _) none cs
  cases cut : cut? ['\n'] cs with
  | none =>
    rw [cut] at search
    rw [lineEnd, search, firstLine_of_none cut]
    simpa [length_encoded] using lead_between cs []
  | some parts =>
    obtain ⟨line, behind⟩ := parts
    have joined := cut_joined cut
    rw [cut] at search
    rw [lineEnd, search, firstLine_of_cut cut, ← joined]
    simp only [Option.map_some, take_encoded, getLast_encoded]
    rcases List.eq_nil_or_concat line with rfl | ⟨shorter, c, rfl⟩
    · exact lead_between [] _
    · have sameTest : (some (lastByte c) == some '\r'.toUInt8) = (some c == some '\r') := by
        apply Bool.eq_iff_iff.mpr
        simpa using lastByte_eq_iff (by decide) c
      simp only [List.concat_eq_append, List.getLast?_concat, Option.map_some, sameTest]
      by_cases returns : c = '\r'
      · have shortened : byteLength (shorter ++ [c]) - 1 = byteLength shorter := by
          rw [byteLength_append, returns]
          rfl
        simp only [returns, beq_self_eq_true, if_true, List.dropLast_concat] at shortened ⊢
        rw [shortened, List.append_assoc]
        exact lead_between shorter _
      · simp only [beq_iff_eq, Option.some.injEq, returns, if_false]
        exact lead_between _ _

/-! The value of a declaration. -/

theorem among_byte (plain : ∀ a ∈ signs, Plain a) (member : b ∈ String.utf8EncodeChar c) :
    among signs b = signs.contains c := by
  apply Bool.eq_iff_iff.mpr
  rw [among, List.contains_iff_mem, List.contains_iff_mem, List.mem_map]
  constructor
  · rintro ⟨a, sign, rfl⟩
    rw [mem_encode_plain (plain a sign) member]
    exact sign
  · intro sign
    rw [encode_plain (plain c sign), List.mem_singleton] at member
    exact ⟨c, sign, member.symm⟩

theorem loneEquals_plainOnly : PlainOnly loneEquals := by
  intro previous b rest high
  have other : (b == '='.toUInt8) = false := by
    apply beq_false_of_ne
    rintro rfl
    exact absurd high (by decide)
  rw [loneEquals, other, Bool.false_and]

/-- Of the bytes of a text the scan sees what it would see of the characters. -/
theorem loneEquals_encoded (previous : Option Char) (c : Char) (cs : List Char) :
    loneEquals (previous.map lastByte) (encoded (c :: cs)) =
      (c == '=' && !(previous.any ("=!<>:".toList.contains ·) ||
        cs.head?.any ("=>".toList.contains ·))) := by
  by_cases sign : c = '='
  · have before : (previous.map lastByte).any (among "=!<>:".toList) =
        previous.any ("=!<>:".toList.contains ·) := by
      cases previous with
      | none => rfl
      | some p => exact among_byte (plain_all (by decide)) (List.getLast_mem _)
    have behind : (encoded cs).head?.any (among "=>".toList) =
        cs.head?.any ("=>".toList.contains ·) := by
      cases cs with
      | nil => rfl
      | cons d cs =>
        obtain ⟨b, others, member, shape⟩ := encoded_shape d cs
        rw [shape]
        exact among_byte (plain_all (by decide)) member
    rw [sign, encoded_cons, encode_plain (by decide), List.singleton_append, loneEquals, before,
      behind, beq_self_eq_true, beq_self_eq_true]
  · obtain ⟨b, others, member, shape⟩ := encoded_shape c cs
    have other : (b == '='.toUInt8) = false := by
      apply beq_false_of_ne
      rintro rfl
      exact sign (mem_encode_plain (by decide) member)
    rw [shape, loneEquals, other, beq_false_of_ne sign, Bool.false_and, Bool.false_and]

/-- What a scan for the value of a declaration comes to. -/
inductive Scanned (cs : List Char) : Option Nat → Option (List Char) → Prop
  | missing : Scanned cs none none
  | found (before rest : List Char) : cs = before ++ '=' :: rest →
      Scanned cs (some (byteLength before)) (some rest)

theorem initializer_scanned (previous : Option Char) (cs : List Char) :
    Scanned cs (offset? loneEquals (previous.map lastByte) (encoded cs))
      (initializer? previous cs) := by
  induction cs generalizing previous with
  | nil => exact .missing
  | cons c cs ih =>
    rw [offset_step loneEquals_plainOnly, loneEquals_encoded, initializer?]
    split
    · rename_i here
      have sign : c = '=' := by
        rw [Bool.and_eq_true] at here
        exact beq_iff_eq.mp here.1
      rw [sign]
      exact .found [] cs rfl
    · have later := ih (some c)
      rw [Option.map_some] at later
      generalize offset? loneEquals (some (lastByte c)) (encoded cs) = offset at later ⊢
      generalize initializer? (some c) cs = value at later ⊢
      cases later with
      | missing => exact .missing
      | found before rest shape =>
        have counted : byteLength before + c.utf8Size = byteLength (c :: before) := by
          rw [byteLength_cons, Nat.add_comm]
        rw [Option.map_some, counted]
        exact .found (c :: before) rest (congrArg (c :: ·) shape)

/-! The excerpt of each kind of declaration. -/

theorem bytes_encoded (text : String) : ByteOrder.bytes text = encoded text.toList :=
  ByteOrder.bytes_eq text

theorem arrow_between (text : String) (body : Option Nat) :
    Between text.toList (bounds .arrowFunction text body)
      (excerpt .arrowFunction text.toList body) := by
  have search := offset_cut ['=', '>'] (plain_all (by decide)) (List.cons_ne_nil _ _) none text.toList
  simp only [bounds, excerpt, bytes_encoded, search]
  cases cut : cut? ['=', '>'] text.toList with
  | none => exact firstLine_between text.toList
  | some parts =>
    obtain ⟨head, behind⟩ := parts
    have joined := cut_joined cut
    have counted : byteLength head + 2 = byteLength (head ++ ['=', '>']) := by
      rw [byteLength_append]
      rfl
    simp only [Option.map_some, counted]
    rw [← joined, ← List.append_assoc]
    exact lead_between _ behind

theorem value_between (text : String) :
    Between text.toList
      (match offset? loneEquals none (encoded text.toList) with
        | some n => (n + 1, (encoded text.toList).length)
        | none => (0, lineEnd (encoded text.toList)))
      ((initializer? none text.toList).getD (Text.firstLine text.toList)) := by
  have scanned := initializer_scanned none text.toList
  rw [Option.map_none] at scanned
  generalize offset? loneEquals none (encoded text.toList) = offset at scanned ⊢
  generalize initializer? none text.toList = value at scanned ⊢
  cases scanned with
  | missing => exact firstLine_between text.toList
  | found before rest shape =>
    refine ⟨before ++ ['='], [], ?_, ?_⟩
    · rw [List.append_nil, List.append_assoc]
      exact shape
    · have sign : byteLength ['='] = 1 := rfl
      rw [length_encoded, shape, ← List.singleton_append, ← List.append_assoc, byteLength_append,
        byteLength_append, sign]
      rfl

theorem brace_between (cs : List Char) :
    Between cs
      (match offset? (startsWith ['\x7b']) none (encoded cs) with
        | some n => (0, n)
        | none => (0, lineEnd (encoded cs)))
      (beforeBrace cs) := by
  have search := offset_cut ['\x7b'] (plain_all (by decide)) (List.cons_ne_nil _ _) none cs
  rw [beforeBrace, search]
  cases cut : cut? ['\x7b'] cs with
  | none => exact firstLine_between cs
  | some parts =>
    obtain ⟨head, behind⟩ := parts
    have joined := cut_joined cut
    rw [← joined]
    exact lead_between head _

/-- An offset of the body that stands inside a character, or behind the text, is passed over. -/
theorem head_between (text : String) (body : Option Nat) :
    Between text.toList
      (match body.filter fun n => String.Pos.Raw.isValid text ⟨n⟩ with
        | some n => (0, n)
        | none => match offset? (startsWith ['\x7b']) none (encoded text.toList) with
          | some n => (0, n)
          | none => (0, lineEnd (encoded text.toList)))
      ((body.bind (takeBytes? · text.toList)).getD (beforeBrace text.toList)) := by
  cases body with
  | none => exact brace_between text.toList
  | some n =>
    cases taken : takeBytes? n text.toList with
    | none =>
      have inside : String.Pos.Raw.isValid text ⟨n⟩ = false := by
        rw [String.Pos.Raw.isValid_eq_false_iff, isValid_iff]
        rintro ⟨lead, counted⟩
        rw [(takeBytes_iff n text.toList lead).mpr counted] at taken
        cases taken
      simp only [Option.filter_some, inside, Option.bind_some, taken]
      exact brace_between text.toList
    | some lead =>
      obtain ⟨⟨rest, joined⟩, counted⟩ := (takeBytes_iff n text.toList lead).mp taken
      have valid : String.Pos.Raw.isValid text ⟨n⟩ = true := by
        rw [String.Pos.Raw.isValid_eq_true_iff, isValid_iff]
        exact ⟨lead, ⟨rest, joined⟩, counted⟩
      simp only [Option.filter_some, valid, Option.bind_some, taken]
      rw [← joined, ← counted]
      exact lead_between lead rest

/-- Every excerpt is the characters between the offsets at which it is cut. -/
theorem excerpt_between (kind : SymbolKind) (text : String) (body : Option Nat) :
    Between text.toList (bounds kind text body) (excerpt kind text.toList body) := by
  cases kind with
  | arrowFunction => exact arrow_between text body
  | binding | constant | static | field | property =>
    simp only [bounds, excerpt, bytes_encoded]
    exact value_between text
  | styleRule | markupElement =>
    simp only [bounds, excerpt, bytes_encoded]
    exact firstLine_between text.toList
  | _ =>
    simp only [bounds, excerpt, bytes_encoded]
    exact head_between text body

/-! What is shown of an excerpt. -/

/-- A text on one line: its only white space is single spaces, and it does not start with one. -/
structure Tidy (cs : List Char) : Prop where
  spaces : ∀ c ∈ cs, isBlank c = true → c = ' '
  single : cs.IsChain fun c d => ¬ (c = ' ' ∧ d = ' ')
  start : cs.head? ≠ some ' '

theorem tidy_lead (tidy : Tidy cs) (lead : part <+: cs) : Tidy part := by
  obtain ⟨rest, rfl⟩ := lead
  refine ⟨?_, (List.isChain_append.mp tidy.single).1, ?_⟩
  · exact fun c member => tidy.spaces c (List.mem_append_left rest member)
  · cases part with
    | nil => rintro ⟨⟩
    | cons c part => exact tidy.start

theorem word_tidy (word : Word run) : Tidy run := by
  have visible : ∀ c ∈ run, c ≠ ' ' := by
    rintro c member rfl
    exact absurd (word.solid ' ' member) (by decide)
  refine ⟨?_, ?_, ?_⟩
  · intro c member blank
    rw [word.solid c member] at blank
    cases blank
  · apply List.Pairwise.isChain
    apply List.pairwise_of_forall_mem_list
    rintro c member d - ⟨space, -⟩
    exact visible c member space
  · intro space
    exact visible ' ' (List.mem_of_head? space) rfl

/-- A space may be put between a word and a tidy text, because neither has one there. -/
theorem tidy_append (word : Word run) (tidy : Tidy cs) : Tidy (run ++ ' ' :: cs) := by
  have first := word_tidy word
  refine ⟨?_, ?_, ?_⟩
  · intro c member blank
    rcases List.mem_append.mp member with inside | behind
    · exact first.spaces c inside blank
    · rcases List.mem_cons.mp behind with space | deeper
      · exact space
      · exact tidy.spaces c deeper blank
  · refine List.isChain_append.mpr ⟨first.single, List.isChain_cons.mpr ⟨?_, tidy.single⟩, ?_⟩
    · rintro d starts ⟨-, rfl⟩
      exact tidy.start starts
    · rintro c ends d - ⟨rfl, -⟩
      exact absurd (word.solid ' ' (List.mem_of_getLast? ends)) (by decide)
  · cases run with
    | nil => exact absurd rfl word.nonempty
    | cons c run => exact first.start

theorem join_tidy (solid : ∀ run ∈ runs, Word run) : Tidy (join ' ' runs) := by
  induction runs with
  | nil => exact ⟨List.forall_mem_nil _, List.IsChain.nil, Option.some_ne_none _ ∘ Eq.symm⟩
  | cons run later ih =>
    obtain ⟨word, others⟩ := List.forall_mem_cons.mp solid
    rw [join_cons]
    split
    · exact word_tidy word
    · exact tidy_append word (ih others)

theorem collapse_tidy (cs : List Char) : Tidy (collapse cs) := by
  obtain ⟨runs, read⟩ := exists_runs cs
  rw [collapse_eq read]
  exact join_tidy (runs_words read)

theorem clean_lead (cs : List Char) : clean cs <+: collapse cs :=
  (List.rdropWhile_prefix _ _).trans (List.rdropWhile_prefix _ _)

theorem fitBytes_nonempty (nonempty : cs ≠ []) : fitBytes maxBytes cs ≠ [] := by
  cases cs with
  | nil => exact absurd rfl nonempty
  | cons c rest =>
    have small : c.utf8Size ≤ maxBytes := c.utf8Size_le_four.trans (by decide)
    rw [fitBytes, if_pos small]
    exact List.cons_ne_nil _ _

theorem between_valid (part : Between text.toList offsets cs) :
    String.Pos.Raw.IsValid text ⟨offsets.1⟩ ∧ String.Pos.Raw.IsValid text ⟨offsets.2⟩ := by
  obtain ⟨before, after, shape, rfl⟩ := part
  constructor
  · exact (isValid_iff _ _).mpr ⟨before, ⟨cs ++ after, shape.symm⟩, rfl⟩
  · refine (isValid_iff _ _).mpr ⟨before ++ cs, ⟨after, ?_⟩, byteLength_append before cs⟩
    rw [List.append_assoc]
    exact shape.symm

theorem ofDeclaration_eq (kind : SymbolKind) (text : String) (body : Option Nat) :
    ofDeclaration kind text body =
      if clean (excerpt kind text.toList body) = [] then none
      else some (String.ofList (fitBytes maxBytes (clean (excerpt kind text.toList body)))) := by
  simp only [ofDeclaration, List.isEmpty_iff]

/-- An excerpt is cut between characters, wherever its offsets come from. What is shown of it is not
empty, stands on one line with single spaces, begins the squeezed form of a slice of the text, and
is as much of the cleaned excerpt as fits. Only an excerpt of which nothing is left is not
shown. -/
theorem excerpt_of_whole_characters (kind : SymbolKind) (text : String) (body : Option Nat) :
    (String.Pos.Raw.IsValid text ⟨(bounds kind text body).1⟩ ∧
      String.Pos.Raw.IsValid text ⟨(bounds kind text body).2⟩ ∧
      Between text.toList (bounds kind text body) (excerpt kind text.toList body)) ∧
    (ofDeclaration kind text body = none ↔ clean (excerpt kind text.toList body) = []) ∧
    ∀ s, ofDeclaration kind text body = some s →
      (s ≠ "" ∧ s.utf8ByteSize ≤ 200 ∧ Tidy s.toList) ∧
      (∃ slice, slice <:+: text.toList ∧ s.toList <+: collapse slice) ∧
      Longest 200 (clean (excerpt kind text.toList body)) s.toList := by
  have part := excerpt_between kind text body
  obtain ⟨starts, stops⟩ := between_valid part
  refine ⟨⟨starts, stops, part⟩, ?_, ?_⟩
  · rw [ofDeclaration_eq]
    split
    · rename_i empty
      exact iff_of_true rfl empty
    · rename_i nonempty
      exact iff_of_false (Option.some_ne_none _) nonempty
  · intro s shown
    rw [ofDeclaration_eq] at shown
    split at shown
    · cases shown
    · rename_i nonempty
      cases shown
      obtain ⟨before, after, shape, -⟩ := part
      generalize excerpt kind text.toList body = slice at shape nonempty ⊢
      have longest : Longest 200 (clean slice) (fitBytes maxBytes (clean slice)) :=
        fitBytes_longest maxBytes (clean slice)
      have squeezed := longest.begins.trans (clean_lead slice)
      simp only [String.toList_ofList, byteLength_ofList]
      refine ⟨⟨?_, longest.fits, tidy_lead (collapse_tidy slice) squeezed⟩,
        ⟨slice, ⟨before, after, ?_⟩, squeezed⟩, longest⟩
      · intro empty
        exact fitBytes_nonempty nonempty (String.ofList_eq_empty_iff.mp empty)
      · rw [List.append_assoc]
        exact shape.symm

/-- A body is said to start inside a letter of two bytes, so the excerpt ends at the brace
instead. -/
theorem offset_inside_letter :
    String.Pos.Raw.isValid "fn  é :\x7b\x7d" ⟨5⟩ = false ∧
      bounds .function "fn  é :\x7b\x7d" (some 5) = (0, 8) ∧
      String.Pos.Raw.IsValid "fn  é :\x7b\x7d" ⟨8⟩ ∧
      ofDeclaration .function "fn  é :\x7b\x7d" (some 5) = some "fn é" ∧
      Tidy "fn é".toList ∧ Longest 200 (clean "fn  é :".toList) "fn é".toList := by
  have inside : String.Pos.Raw.isValid "fn  é :\x7b\x7d" ⟨5⟩ = false := by decide +kernel
  have offsets : bounds .function "fn  é :\x7b\x7d" (some 5) = (0, 8) := by decide +kernel
  have shown : ofDeclaration .function "fn  é :\x7b\x7d" (some 5) = some "fn é" := by decide +kernel
  have cut : excerpt .function "fn  é :\x7b\x7d".toList (some 5) = "fn  é :".toList := by
    decide +kernel
  obtain ⟨⟨-, stops, -⟩, -, fits⟩ :=
    excerpt_of_whole_characters .function "fn  é :\x7b\x7d" (some 5)
  obtain ⟨⟨-, -, tidy⟩, -, longest⟩ := fits "fn é" shown
  rw [offsets] at stops
  rw [cut] at longest
  exact ⟨inside, offsets, stops, shown, tidy, longest⟩

end SourceAtlas.SnippetExcerpts

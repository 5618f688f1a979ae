import Mathlib.Data.Prod.Lex
import Mathlib.Data.String.Basic
import SourceAtlas.Graph
import SourceAtlas.Proofs.GraphEdges
import SourceAtlas.Proofs.SplitTexts

/-! The order of edges in the fingerprint of a graph. It is lexicographic in source, target and kind,
so sorting leaves nothing of the order in which edges were found. -/
namespace SourceAtlas.GraphFingerprint

/-- Source, target and place of the kind, ordered lexicographically. -/
def key (edge : Edge) : String ×ₗ (String ×ₗ Nat) :=
  toLex (edge.fromId, toLex (edge.toId, edge.kind.rank))

private theorem rank_injective (same : EdgeKind.rank a = EdgeKind.rank b) : a = b := by
  cases a <;> cases b <;> first | rfl | cases same

theorem key_injective : Function.Injective key := by
  rintro ⟨fromId, toId, kind⟩ ⟨fromId', toId', kind'⟩ same
  obtain ⟨source, rest⟩ := Prod.mk.inj (toLex_inj.mp same)
  obtain ⟨target, rank⟩ := Prod.mk.inj (toLex_inj.mp rest)
  obtain rfl : fromId = fromId' := source
  obtain rfl : toId = toId' := target
  obtain rfl : kind = kind' := rank_injective rank
  rfl

/-- The order of edges is the order of their keys. -/
theorem before_iff (a b : Edge) : a.before b = true ↔ key a ≤ key b := by
  simp only [Edge.before, key, Prod.Lex.le_iff, ofLex_toLex]
  by_cases source : a.fromId = b.fromId
  · by_cases target : a.toId = b.toId
    · simp only [source, target, if_true, decide_eq_true_eq, lt_irrefl, true_and, false_or]
    · simp only [source, target, if_true, if_false, decide_eq_true_eq, lt_irrefl, true_and,
        false_or, false_and, or_false]
  · simp only [source, if_false, decide_eq_true_eq, false_and, or_false]

private theorem sortedEdges_pairwise (g : Graph) :
    g.sortedEdges.Pairwise fun a b => a.before b = true := by
  refine List.pairwise_mergeSort ?_ ?_ g.edges
  · intro a b c first second
    exact (before_iff a c).mpr (((before_iff a b).mp first).trans ((before_iff b c).mp second))
  · intro a b
    rw [Bool.or_eq_true, before_iff, before_iff]
    exact le_total _ _

/-- Edges found in any order are sorted into the same list. -/
theorem sortedEdges_congr {g g' : Graph} (perm : g.edges.Perm g'.edges) :
    g.sortedEdges = g'.sortedEdges := by
  have arrange : g.sortedEdges.Perm g'.sortedEdges :=
    (List.mergeSort_perm _ _).trans (perm.trans (List.mergeSort_perm _ _).symm)
  refine List.Perm.eq_of_pairwise ?_ (sortedEdges_pairwise g) (sortedEdges_pairwise g') arrange
  intro a b _ _ first second
  exact key_injective (le_antisymm ((before_iff a b).mp first) ((before_iff b a).mp second))

/-- The fingerprint sees the symbols and the set of edges, not the order of the edges. -/
theorem digest_congr {g g' : Graph} (table : g.table = g'.table) (perm : g.edges.Perm g'.edges) :
    g.digest = g'.digest := by
  rw [Graph.digest, Graph.digest, Graph.digestText, Graph.digestText, table, sortedEdges_congr perm]

end SourceAtlas.GraphFingerprint

/-! The text that stands for a graph when its fingerprint is taken. It has no lengths and nothing
that divides the symbols from the edges, but as long as no id holds a separator it can be read
back: the line feeds give the lines, the null characters give the fields, and the number of fields
tells symbols from edges. So two graphs have the same text exactly when they have the same symbols
with the same kinds, and the same edges. -/
namespace SourceAtlas.DigestLines
open SortedLists MergedSymbols GraphFingerprint SplitTexts SourceAtlas.Graph

/-- Neither of the separators occurs. -/
def Clean (cs : List Char) : Prop :=
  '\x00' ∉ cs ∧ '\n' ∉ cs

instance : DecidablePred Clean :=
  fun _ => inferInstanceAs (Decidable (_ ∧ _))

/-- The ids of a table with the kinds of their symbols. -/
def labels (table : SymbolTable) : List (String × SymbolKind) :=
  table.symbols.map fun symbol => (symbol.id, symbol.kind)

/-- The bytes whose hash is the fingerprint. -/
def hashed (g : Graph) : ByteArray :=
  (String.ofList g.digestText).toUTF8

/-- Fields divided by null characters, and the end of the line. -/
def line (fields : List (List Char)) : List Char :=
  Chars.join '\x00' fields ++ ['\n']

def labelFields (label : String × SymbolKind) : List (List Char) :=
  [label.1.toList, label.2.name.toList]

def edgeFields (edge : Edge) : List (List Char) :=
  [edge.fromId.toList, edge.toId.toList, edge.kind.name.toList]

/-- The fields of all lines. -/
def records (g : Graph) : List (List (List Char)) :=
  (labels g.table).map labelFields ++ g.sortedEdges.map edgeFields

/-- There are fields, and no separator occurs in them. -/
def Readable (fields : List (List Char)) : Prop :=
  fields ≠ [] ∧ ∀ field ∈ fields, Clean field

theorem symbolLine_eq (symbol : Symbol) :
    symbolLine symbol = line (labelFields (symbol.id, symbol.kind)) := by
  simp [symbolLine, line, labelFields, Chars.join, List.intercalate]

theorem edgeLine_eq (edge : Edge) : edgeLine edge = line (edgeFields edge) := by
  simp [edgeLine, line, edgeFields, Chars.join, List.intercalate]

theorem digestText_eq (g : Graph) : g.digestText = (records g).flatMap line := by
  simp only [digestText, records, labels, List.flatMap_append, List.flatMap_map, ← symbolLine_eq,
    ← edgeLine_eq]

theorem hashed_inj {g g' : Graph} : hashed g = hashed g' ↔ g.digestText = g'.digestText := by
  rw [hashed, hashed, String.toUTF8_eq_toByteArray, String.toUTF8_eq_toByteArray,
    String.toByteArray_inj]
  constructor
  · intro same
    simpa only [String.toList_ofList] using congrArg String.toList same
  · exact congrArg String.ofList

section
variable {rows rows' : List (List (List Char))}

theorem splitOn_fields (readable : Readable fields) :
    Chars.splitOn '\x00' (Chars.join '\x00' fields) = fields :=
  (splitOn_iff _ _ _).mpr ⟨readable.1, rfl, fun field member => (readable.2 field member).1⟩

private theorem newline_not_joined (clean : ∀ field ∈ fields, Clean field) :
    '\n' ∉ Chars.join '\x00' fields := by
  induction fields with
  | nil => simp [Chars.join]
  | cons field rest ih =>
    obtain ⟨here, later⟩ := List.forall_mem_cons.mp clean
    cases rest with
    | nil => simpa [Chars.join] using here.2
    | cons next others =>
      rw [Chars.join, List.intercalate_cons_cons]
      simp only [List.mem_append, List.mem_singleton, not_or]
      exact ⟨⟨here.2, by decide⟩, ih later⟩

private theorem flatMap_line (rows : List (List (List Char))) :
    rows.flatMap line = Chars.join '\n' (rows.map (Chars.join '\x00') ++ [[]]) := by
  induction rows with
  | nil => simp [Chars.join]
  | cons fields rest ih =>
    rw [List.flatMap_cons, ih, List.map_cons, List.cons_append, line, Chars.join, Chars.join,
      Chars.join, List.intercalate_cons_of_ne_nil (by simp)]

private theorem read_rows (readable : ∀ fields ∈ rows, Readable fields) :
    (rows.map (Chars.join '\x00')).map (Chars.splitOn '\x00') = rows := by
  rw [List.map_map]
  calc rows.map (Chars.splitOn '\x00' ∘ Chars.join '\x00') = rows.map id :=
        List.map_congr_left fun fields listed => splitOn_fields (readable fields listed)
    _ = rows := List.map_id rows

/-- The lines of a text can be read back. -/
theorem rows_pieces (readable : ∀ fields ∈ rows, Readable fields) :
    Pieces '\n' (rows.flatMap line) (rows.map (Chars.join '\x00') ++ [[]]) := by
  refine ⟨by simp, (flatMap_line rows).symm, ?_⟩
  intro piece member
  rcases List.mem_append.mp member with lined | last
  · obtain ⟨fields, listed, rfl⟩ := List.mem_map.mp lined
    exact newline_not_joined (readable fields listed).2
  · simp [List.mem_singleton.mp last]

/-- Different rows of readable fields have different texts. -/
theorem rows_of_text (readable : ∀ fields ∈ rows, Readable fields)
    (readable' : ∀ fields ∈ rows', Readable fields)
    (same : rows.flatMap line = rows'.flatMap line) : rows = rows' := by
  have pieces := (splitOn_iff _ _ _).mpr (rows_pieces readable)
  have pieces' := (splitOn_iff _ _ _).mpr (rows_pieces readable')
  rw [same] at pieces
  have lines : rows.map (Chars.join '\x00') = rows'.map (Chars.join '\x00') :=
    List.append_cancel_right (pieces.symm.trans pieces')
  rw [← read_rows readable, lines, read_rows readable']

end

private theorem symbolKind_name_clean (kind : SymbolKind) : Clean kind.name.toList := by
  cases kind <;> exact ⟨by decide +kernel, by decide +kernel⟩

private theorem edgeKind_name_clean (kind : EdgeKind) : Clean kind.name.toList := by
  cases kind <;> exact ⟨by decide +kernel, by decide +kernel⟩

theorem symbolKind_ofName (kind : SymbolKind) : SymbolKind.ofName? kind.name = some kind := by
  cases kind <;> decide +kernel

theorem edgeKind_ofName (kind : EdgeKind) : EdgeKind.ofName? kind.name = some kind := by
  cases kind <;> decide +kernel

theorem labelFields_injective : Function.Injective labelFields := by
  rintro ⟨id, kind⟩ ⟨id', kind'⟩ same
  simp only [labelFields, List.cons.injEq, String.toList_inj, and_true] at same
  have kinds : some kind = some kind' := by
    rw [← symbolKind_ofName kind, same.2, symbolKind_ofName]
  rw [same.1, Option.some.inj kinds]

theorem edgeFields_injective : Function.Injective edgeFields := by
  rintro ⟨fromId, toId, kind⟩ ⟨fromId', toId', kind'⟩ same
  simp only [edgeFields, List.cons.injEq, String.toList_inj, and_true] at same
  have kinds : some kind = some kind' := by
    rw [← edgeKind_ofName kind, same.2.2, edgeKind_ofName]
  rw [same.1, same.2.1, Option.some.inj kinds]

/-- The records are told apart by the number of their fields. -/
theorem records_inj {g g' : Graph} :
    records g = records g' ↔ labels g.table = labels g'.table ∧ g.sortedEdges = g'.sortedEdges := by
  constructor
  · intro same
    have symbols (g : Graph) :
        (records g).filter (·.length == 2) = (labels g.table).map labelFields := by
      simp [records, labelFields, edgeFields, List.filter_map, Function.comp_def]
    have edges (g : Graph) : (records g).filter (·.length == 3) = g.sortedEdges.map edgeFields := by
      simp [records, labelFields, edgeFields, List.filter_map, Function.comp_def]
    constructor
    · refine List.map_injective_iff.mpr labelFields_injective ?_
      rw [← symbols g, same, symbols g']
    · refine List.map_injective_iff.mpr edgeFields_injective ?_
      rw [← edges g, same, edges g']
  · rintro ⟨symbols, edges⟩
    rw [records, records, symbols, edges]

theorem mem_sortedEdges (g : Graph) (edge : Edge) : edge ∈ g.sortedEdges ↔ edge ∈ g.edges :=
  (List.mergeSort_perm g.edges Edge.before).mem_iff

section
variable {table table' : SymbolTable}

theorem kept_edge_readable {edges : List Edge} (clean : ∀ id ∈ table.ids, Clean id.toList)
    (kept : edge ∈ (build table edges).edges) : Readable (edgeFields edge) := by
  obtain ⟨-, source, target⟩ := ((GraphEdges.mem_build table edges edge).mp kept).2
  refine ⟨List.cons_ne_nil _ _, ?_⟩
  simp only [edgeFields, List.forall_mem_cons, List.not_mem_nil, false_imp_iff, implies_true,
    and_true]
  exact ⟨clean _ source, clean _ target, edgeKind_name_clean edge.kind⟩

theorem symbol_readable (clean : ∀ id ∈ table.ids, Clean id.toList)
    (held : symbol ∈ table.symbols) : Readable (labelFields (symbol.id, symbol.kind)) := by
  refine ⟨List.cons_ne_nil _ _, ?_⟩
  simp only [labelFields, List.forall_mem_cons, List.not_mem_nil, false_imp_iff, implies_true,
    and_true]
  exact ⟨clean _ (List.mem_map_of_mem held), symbolKind_name_clean symbol.kind⟩

/-- All lines of a graph are readable when its ids are. -/
theorem records_readable (clean : ∀ id ∈ table.ids, Clean id.toList) (edges : List Edge) :
    ∀ fields ∈ records (build table edges), Readable fields := by
  intro fields member
  rcases List.mem_append.mp member with ofSymbol | ofEdge
  · obtain ⟨label, listed, rfl⟩ := List.mem_map.mp ofSymbol
    obtain ⟨symbol, held, rfl⟩ := List.mem_map.mp listed
    exact symbol_readable clean held
  · obtain ⟨edge, sorted, rfl⟩ := List.mem_map.mp ofEdge
    exact kept_edge_readable clean ((mem_sortedEdges _ edge).mp sorted)

/-- The labels of a table are determined by which labels occur. -/
theorem labels_unique (ordered : Ordered table) (ordered' : Ordered table') :
    labels table = labels table' ↔ ∀ label, label ∈ labels table ↔ label ∈ labels table' := by
  refine ⟨fun same label => by rw [same], fun same => ?_⟩
  have increasing (table : SymbolTable) (ordered : Ordered table) :
      Increasing Prod.fst (labels table) := List.pairwise_map.mpr ordered
  exact increasing_unique (increasing table ordered) (increasing table' ordered') same

end

theorem sortedEdges_unique {g g' : Graph} (distinct : g.edges.Nodup) (distinct' : g'.edges.Nodup) :
    g.sortedEdges = g'.sortedEdges ↔ ∀ edge, edge ∈ g.edges ↔ edge ∈ g'.edges := by
  constructor
  · intro same edge
    rw [← mem_sortedEdges g, same, mem_sortedEdges g']
  · intro same
    exact sortedEdges_congr ((List.perm_ext_iff_of_nodup distinct distinct').mpr same)

/-- The fingerprint of a graph tells everything about its ids, kinds and edges, as far as the hash
does. For graphs whose ids hold neither a null character nor a line feed, the bytes that are hashed
are the same exactly when the same ids occur with the same kinds, and the same edges. The order of
the edges does not matter, and the line of a symbol is never the line of an edge. -/
theorem hashed_bytes_faithful {table table' : SymbolTable} (ordered : Ordered table)
    (ordered' : Ordered table') (clean : ∀ id ∈ table.ids, Clean id.toList)
    (clean' : ∀ id ∈ table'.ids, Clean id.toList) (edges edges' : List Edge) :
    (∀ g : Graph, g.digest = Blake3.hexDigest (hashed g)) ∧
    (hashed (build table edges) = hashed (build table' edges') ↔
      (∀ label, label ∈ labels table ↔ label ∈ labels table') ∧
        ∀ edge, edge ∈ (build table edges).edges ↔ edge ∈ (build table' edges').edges) ∧
    (∀ reordered, reordered.Perm (build table edges).edges →
      (Graph.mk table reordered).digest = (build table edges).digest) ∧
    ∀ symbol ∈ table.symbols, ∀ edge ∈ (build table' edges').edges,
      symbolLine symbol ≠ edgeLine edge := by
  refine ⟨fun _ => rfl, ?_, fun reordered perm => digest_congr rfl perm, ?_⟩
  · have decoded : hashed (build table edges) = hashed (build table' edges') ↔
        records (build table edges) = records (build table' edges') := by
      rw [hashed_inj, digestText_eq, digestText_eq]
      refine ⟨rows_of_text (records_readable clean edges) (records_readable clean' edges'), ?_⟩
      exact congrArg (List.flatMap line)
    rw [decoded, records_inj, sortedEdges_unique (GraphEdges.build_nodup table edges)
      (GraphEdges.build_nodup table' edges')]
    exact and_congr_left' (labels_unique ordered ordered')
  · intro symbol held edge kept same
    rw [symbolLine_eq, edgeLine_eq] at same
    have rows : [labelFields (symbol.id, symbol.kind)] = [edgeFields edge] :=
      rows_of_text (List.forall_mem_singleton.mpr (symbol_readable clean held))
        (List.forall_mem_singleton.mpr (kept_edge_readable clean' kept))
        (by simpa only [List.flatMap_singleton] using same)
    have lengths := congrArg (List.map List.length) rows
    cases lengths

open GraphEdges in
/-- A call and the call back have different bytes. -/
theorem direction_is_hashed :
    Ordered twoSymbols ∧ (∀ id ∈ twoSymbols.ids, Clean id.toList) ∧
      hashed (build twoSymbols [⟨"a", "b", .calls⟩]) ≠
        hashed (build twoSymbols [⟨"b", "a", .calls⟩]) := by
  have ordered : Ordered twoSymbols := ofFirsts_ordered _
  have clean : ∀ id ∈ twoSymbols.ids, Clean id.toList := by decide +kernel
  refine ⟨ordered, clean, fun same => ?_⟩
  have edges := ((hashed_bytes_faithful ordered ordered clean clean [⟨"a", "b", .calls⟩]
    [⟨"b", "a", .calls⟩]).2.1.mp same).2 ⟨"a", "b", .calls⟩
  exact absurd edges (by decide +kernel)

end SourceAtlas.DigestLines

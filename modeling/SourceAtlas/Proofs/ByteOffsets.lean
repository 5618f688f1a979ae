import SourceAtlas.Proofs.ByteOrder
import SourceAtlas.Proofs.SplitTexts
import SourceAtlas.Text

/-! Offsets in the bytes of a text. An offset that leads of whole characters have is one between two
characters. Searching the bytes for ASCII characters stops between two characters, because every
byte of any other character lies beyond ASCII, and it stops where the search of the characters
stops. -/
namespace SourceAtlas.ByteOffsets
open Chars ByteOrder SplitTexts

theorem byteLength_cons (c : Char) (cs : List Char) :
    byteLength (c :: cs) = c.utf8Size + byteLength cs := by
  have shifted (total : Nat) (ds : List Char) :
      ds.foldl (fun total c => total + c.utf8Size) total = total + byteLength ds := by
    induction ds generalizing total with
    | nil => rfl
    | cons d ds ih =>
      rw [byteLength, List.foldl_cons, List.foldl_cons, ih, ih (0 + d.utf8Size)]
      omega
  rw [byteLength, List.foldl_cons, shifted]
  omega

theorem byteLength_append (cs ds : List Char) :
    byteLength (cs ++ ds) = byteLength cs + byteLength ds := by
  induction cs with
  | nil => exact (Nat.zero_add _).symm
  | cons c cs ih => rw [List.cons_append, byteLength_cons, byteLength_cons, ih, Nat.add_assoc]

theorem byteLength_ofList (cs : List Char) : (String.ofList cs).utf8ByteSize = byteLength cs := by
  induction cs with
  | nil => rfl
  | cons c cs ih =>
    rw [byteLength_cons, ← ih, String.utf8ByteSize_ofList, String.utf8ByteSize_ofList]
    exact Nat.add_comm _ _

/-- A lead of some characters ends between two of them. -/
theorem isValid_iff (text : String) (offset : Nat) :
    String.Pos.Raw.IsValid text ⟨offset⟩ ↔
      ∃ lead, lead <+: text.toList ∧ byteLength lead = offset := by
  rw [String.Pos.Raw.isValid_iff_exists_append]
  constructor
  · rintro ⟨lead, rest, rfl, place⟩
    refine ⟨lead.toList, ?_, ?_⟩
    · rw [String.toList_append]
      exact List.prefix_append _ _
    · rw [← byteLength_ofList, String.ofList_toList]
      exact (congrArg String.Pos.Raw.byteIdx place).symm
  · rintro ⟨lead, ⟨rest, shape⟩, rfl⟩
    refine ⟨String.ofList lead, String.ofList rest, ?_, ?_⟩
    · apply String.toList_inj.mp
      simpa using shape.symm
    · rw [← byteLength_ofList]
      rfl

theorem takeBytes_lead (lead cs : List Char) :
    takeBytes? (byteLength lead) (lead ++ cs) = some lead := by
  induction lead with
  | nil => cases cs <;> rfl
  | cons c lead ih =>
    have positive := c.utf8Size_pos
    have nonzero : c.utf8Size + byteLength lead = c.utf8Size + byteLength lead - 1 + 1 := by omega
    rw [byteLength_cons, nonzero, List.cons_append, takeBytes?, if_pos (by omega), ← nonzero,
      Nat.add_sub_cancel_left, ih]
    rfl

/-- Taking a number of bytes takes the lead that has as many, if there is one. -/
theorem takeBytes_iff (count : Nat) (cs lead : List Char) :
    takeBytes? count cs = some lead ↔ lead <+: cs ∧ byteLength lead = count := by
  constructor
  · intro taken
    fun_induction takeBytes? count cs generalizing lead with
    | case1 cs =>
      cases taken
      exact ⟨List.nil_prefix, rfl⟩
    | case2 count => cases taken
    | case3 count c rest fits ih =>
      obtain ⟨shorter, found, rfl⟩ := Option.map_eq_some_iff.mp taken
      obtain ⟨lead, counted⟩ := ih shorter found
      refine ⟨List.prefix_cons_inj c |>.mpr lead, ?_⟩
      rw [byteLength_cons, counted]
      omega
    | case4 count c rest exceeds => cases taken
  · rintro ⟨⟨rest, rfl⟩, rfl⟩
    exact takeBytes_lead lead rest

/-- The lead of at most so many bytes that no other one goes beyond. -/
structure Longest (budget : Nat) (cs lead : List Char) : Prop where
  begins : lead <+: cs
  fits : byteLength lead ≤ budget
  longest : ∀ other, other <+: cs → byteLength other ≤ budget → other <+: lead

theorem fitBytes_longest (budget : Nat) (cs : List Char) :
    Longest budget cs (fitBytes budget cs) := by
  induction cs generalizing budget with
  | nil => exact ⟨List.prefix_refl _, Nat.zero_le _, fun other lead _ => lead⟩
  | cons c rest ih =>
    rw [fitBytes]
    split
    · rename_i fits
      obtain ⟨lead, within, longest⟩ := ih (budget - c.utf8Size)
      refine ⟨(List.prefix_cons_inj c).mpr lead, ?_, ?_⟩
      · rw [byteLength_cons]
        omega
      · intro other isLead small
        cases other with
        | nil => exact List.nil_prefix
        | cons d other =>
          obtain ⟨rfl, deeper⟩ := List.cons_prefix_cons.mp isLead
          rw [byteLength_cons] at small
          exact (List.prefix_cons_inj d).mpr (longest other deeper (by omega))
    · rename_i exceeds
      refine ⟨List.nil_prefix, Nat.zero_le _, ?_⟩
      intro other isLead small
      cases other with
      | nil => exact List.prefix_refl _
      | cons d other =>
        obtain ⟨rfl, -⟩ := List.cons_prefix_cons.mp isLead
        rw [byteLength_cons] at small
        omega

/-! Bytes of characters. A character of ASCII is one byte, and all bytes of any other lie beyond. -/

/-- The bytes of some characters. -/
def encoded (cs : List Char) : List UInt8 :=
  cs.flatMap String.utf8EncodeChar

/-- The last byte of a character. -/
def lastByte (c : Char) : UInt8 :=
  (String.utf8EncodeChar c).getLast String.utf8EncodeChar_ne_nil

/-- A character of ASCII. -/
def Plain (c : Char) : Prop :=
  c.toNat < 128
deriving Decidable

theorem plain_all {cs : List Char} (all : cs.all (fun c => decide (Plain c)) = true) :
    ∀ c ∈ cs, Plain c := by
  simpa using all

theorem encoded_cons (c : Char) (cs : List Char) :
    encoded (c :: cs) = String.utf8EncodeChar c ++ encoded cs :=
  List.flatMap_cons

theorem encoded_append (cs ds : List Char) : encoded (cs ++ ds) = encoded cs ++ encoded ds :=
  List.flatMap_append

theorem encoded_shape (c : Char) (cs : List Char) :
    ∃ b others, b ∈ String.utf8EncodeChar c ∧ encoded (c :: cs) = b :: others := by
  rw [encoded_cons]
  cases shape : String.utf8EncodeChar c with
  | nil => exact absurd shape String.utf8EncodeChar_ne_nil
  | cons b others => exact ⟨b, _, List.mem_cons_self, rfl⟩

theorem length_encoded (cs : List Char) : (encoded cs).length = byteLength cs := by
  induction cs with
  | nil => rfl
  | cons c cs ih =>
    rw [encoded_cons, List.length_append, String.length_utf8EncodeChar, ih, byteLength_cons]

theorem encode_plain (plain : Plain c) : String.utf8EncodeChar c = [c.toUInt8] := by
  apply String.utf8EncodeChar_eq_singleton
  rw [Char.utf8Size_eq_one_iff, UInt32.le_iff_toNat_le]
  exact Nat.le_of_lt_succ plain

private theorem byte_beyond (low : 128 ≤ n) (high : n < 256) : 128 ≤ UInt8.ofNat n := by
  rw [UInt8.le_iff_toNat_le, UInt8.toNat_ofNat']
  change 128 ≤ n % 256
  omega

theorem encode_beyond (beyond : ¬ Plain c) : ∀ b ∈ String.utf8EncodeChar c, 128 ≤ b := by
  have large : ¬ c.val.toNat ≤ 0x7f := fun small => beyond (Nat.lt_succ_of_le small)
  simp only [String.utf8EncodeChar, large, if_false]
  generalize c.val.toNat = n
  -- the lead byte is at least 192, and every later one is six bits above 128
  split_ifs
  · simp only [List.forall_mem_cons]
    exact ⟨byte_beyond (by omega) (by omega), byte_beyond (by omega) (by omega),
      List.forall_mem_nil _⟩
  · simp only [List.forall_mem_cons]
    exact ⟨byte_beyond (by omega) (by omega), byte_beyond (by omega) (by omega),
      byte_beyond (by omega) (by omega), List.forall_mem_nil _⟩
  · simp only [List.forall_mem_cons]
    exact ⟨byte_beyond (by omega) (by omega), byte_beyond (by omega) (by omega),
      byte_beyond (by omega) (by omega), byte_beyond (by omega) (by omega), List.forall_mem_nil _⟩

theorem plain_byte (plain : Plain c) : c.toUInt8.toNat = c.toNat := by
  have small : c.toNat < 128 := plain
  change c.toNat % 256 = c.toNat
  omega

/-- A byte of a character is that of a character of ASCII only if it is the same character. -/
theorem mem_encode_plain (plain : Plain a) (member : a.toUInt8 ∈ String.utf8EncodeChar c) :
    c = a := by
  by_cases also : Plain c
  · rw [encode_plain also, List.mem_singleton] at member
    have same := congrArg UInt8.toNat member
    rw [plain_byte plain, plain_byte also] at same
    exact (Char.toNat_inj.mp same).symm
  · have high := UInt8.le_iff_toNat_le.mp (encode_beyond also _ member)
    rw [plain_byte plain] at high
    exact absurd plain (Nat.not_lt.mpr high)

theorem lastByte_plain (plain : Plain c) : lastByte c = c.toUInt8 := by
  simp [lastByte, encode_plain plain]

theorem lastByte_eq_iff (plain : Plain a) (c : Char) : lastByte c = a.toUInt8 ↔ c = a := by
  constructor
  · intro same
    exact mem_encode_plain plain (same ▸ List.getLast_mem _)
  · rintro rfl
    exact lastByte_plain plain

/-! Searching bytes. -/

/-- The first offset at which the bytes pass a test, which also sees the byte before them. -/
def offset? (test : Option UInt8 → List UInt8 → Bool) (previous : Option UInt8) :
    List UInt8 → Option Nat
  | [] => none
  | b :: rest =>
    if test previous (b :: rest) then some 0 else (offset? test (some b) rest).map (· + 1)

/-- A test that no byte beyond ASCII passes. -/
def PlainOnly (test : Option UInt8 → List UInt8 → Bool) : Prop :=
  ∀ previous b rest, 128 ≤ b → test previous (b :: rest) = false

theorem offset_beyond (plainOnly : PlainOnly test) (beyond : ∀ b ∈ run, 128 ≤ b)
    (nonempty : run ≠ []) (previous : Option UInt8) (rest : List UInt8) :
    offset? test previous (run ++ rest) =
      (offset? test (some (run.getLast nonempty)) rest).map (· + run.length) := by
  induction run generalizing previous with
  | nil => exact absurd rfl nonempty
  | cons b run ih =>
    obtain ⟨high, others⟩ := List.forall_mem_cons.mp beyond
    have failed := plainOnly previous b (run ++ rest) high
    rw [List.cons_append, offset?, failed, if_neg Bool.false_ne_true]
    cases run with
    | nil => rfl
    | cons d run =>
      rw [ih others (List.cons_ne_nil _ _), Option.map_map,
        List.getLast_cons (List.cons_ne_nil _ _)]
      rfl

/-- The search goes from one character to the next: inside a character nothing passes. -/
theorem offset_step (plainOnly : PlainOnly test) (previous : Option UInt8) (c : Char)
    (cs : List Char) :
    offset? test previous (encoded (c :: cs)) =
      if test previous (encoded (c :: cs)) then some 0
      else (offset? test (some (lastByte c)) (encoded cs)).map (· + c.utf8Size) := by
  by_cases plain : Plain c
  · rw [encoded_cons, lastByte_plain plain, ← String.length_utf8EncodeChar, encode_plain plain]
    rfl
  · have beyond := encode_beyond plain
    have failed : test previous (encoded (c :: cs)) = false := by
      obtain ⟨b, others, member, shape⟩ := encoded_shape c cs
      rw [shape]
      exact plainOnly _ _ _ (beyond b member)
    rw [failed, if_neg Bool.false_ne_true, encoded_cons,
      offset_beyond plainOnly beyond String.utf8EncodeChar_ne_nil, String.length_utf8EncodeChar]
    rfl

/-- Whether the bytes start with those of some characters. -/
def startsWith (needle : List Char) (_previous : Option UInt8) (bytes : List UInt8) : Bool :=
  (encoded needle).isPrefixOf bytes

theorem startsWith_encoded (plain : ∀ c ∈ needle, Plain c) (previous : Option UInt8)
    (cs : List Char) : startsWith needle previous (encoded cs) = needle.isPrefixOf cs := by
  induction needle generalizing cs with
  | nil => rfl
  | cons a needle ih =>
    obtain ⟨first, others⟩ := List.forall_mem_cons.mp plain
    rw [startsWith, encoded_cons, encode_plain first, List.singleton_append]
    cases cs with
    | nil => rfl
    | cons c cs =>
      by_cases same : c = a
      · subst same
        have later := ih others cs
        rw [startsWith] at later
        rw [encoded_cons, encode_plain first, List.singleton_append, List.isPrefixOf_cons_cons,
          List.isPrefixOf_cons_cons, beq_self_eq_true, beq_self_eq_true, later]
      · obtain ⟨b, rest, member, shape⟩ := encoded_shape c cs
        have differs : (a.toUInt8 == b) = false := by
          apply beq_false_of_ne
          rintro rfl
          exact same (mem_encode_plain first member)
        have other : (a == c) = false := beq_false_of_ne fun equal => same equal.symm
        rw [shape, List.isPrefixOf_cons_cons, List.isPrefixOf_cons_cons, differs, other]
        rfl

theorem startsWith_plainOnly (plain : ∀ c ∈ needle, Plain c) (nonempty : needle ≠ []) :
    PlainOnly (startsWith needle) := by
  intro previous b rest high
  cases needle with
  | nil => exact absurd rfl nonempty
  | cons a needle =>
    obtain ⟨first, -⟩ := List.forall_mem_cons.mp plain
    have differs : (a.toUInt8 == b) = false := by
      apply beq_false_of_ne
      rintro rfl
      have beyond := UInt8.le_iff_toNat_le.mp high
      rw [plain_byte first] at beyond
      exact absurd first (Nat.not_lt.mpr beyond)
    rw [startsWith, encoded_cons, encode_plain first, List.singleton_append,
      List.isPrefixOf_cons_cons, differs, Bool.false_and]

/-- Where the bytes of some ASCII characters are found first, the characters are found first. -/
theorem offset_cut (needle : List Char) (plain : ∀ c ∈ needle, Plain c) (nonempty : needle ≠ [])
    (previous : Option UInt8) (cs : List Char) :
    offset? (startsWith needle) previous (encoded cs) =
      (cut? needle cs).map fun parts => byteLength parts.1 := by
  induction cs generalizing previous with
  | nil =>
    have written : ¬ needle.isEmpty = true := fun empty => nonempty (List.isEmpty_iff.mp empty)
    rw [cut?, if_neg written]
    rfl
  | cons c cs ih =>
    rw [offset_step (startsWith_plainOnly plain nonempty), startsWith_encoded plain, cut?]
    by_cases here : needle.isPrefixOf (c :: cs) = true
    · rw [if_pos here, if_pos here]
      rfl
    · rw [if_neg here, if_neg here, ih, Option.map_map, Option.map_map]
      congr 1
      funext parts
      exact (Nat.add_comm _ _).trans (byteLength_cons c parts.1).symm

end SourceAtlas.ByteOffsets

import Mathlib.Data.List.Forall2
import Mathlib.Data.List.TakeWhile
import SourceAtlas.Json.Text

/-! Written JSON reads back. The two written forms of a value differ only in white space, so they
have the same tokens, and these tokens build the value again. This is said of values whose numbers
are counts and whose objects have no key twice; records are made of nothing else. -/
namespace SourceAtlas.JsonText
open Json

/-- A value whose numbers are counts and whose objects have no key twice. -/
inductive Plain : Json → Prop where
  | null : Plain .null
  | bool (value : Bool) : Plain (.bool value)
  | count (n : Nat) : Plain (.ofNat n)
  | string (value : String) : Plain (.string value)
  | array {items : List Json} (each : ∀ item ∈ items, Plain item) : Plain (.array items)
  | object {fields : List (String × Json)} (keys : (fields.map (·.1)).Nodup)
      (each : ∀ field ∈ fields, Plain field.2) : Plain (.object fields)

section Scanning

/-- The tokens of a scan at the end of the text. -/
def ended : Scanner → Option (List Token)
  | ⟨.between, tokens⟩ => some tokens.reverse
  | ⟨.bare gathered, tokens⟩ => some (.bare gathered.reverse :: tokens).reverse
  | _ => none

/-- The tokens of a text whose beginning has been scanned. -/
def scanned (s : Scanner) (cs : List Char) : Option (List Token) :=
  (cs.foldlM Scanner.step s).bind ended

theorem tokens_scanned (text : String) : tokens? text = scanned ⟨.between, []⟩ text.toList := by
  unfold tokens? scanned
  cases text.toList.foldlM Scanner.step ⟨.between, []⟩ with
  | none => rfl
  | some s =>
    obtain ⟨scan, tokens⟩ := s
    cases scan <;> rfl

theorem scanned_cons (s : Scanner) (c : Char) (rest : List Char) :
    scanned s (c :: rest) = (s.step c).bind (scanned · rest) := by
  simp only [scanned, List.foldlM_cons, Option.bind_eq_bind, Option.bind_assoc]

/-- A character that ends a bare run. -/
def isBound (c : Char) : Bool :=
  isSpace c || isMark c || c == '\x22'

/-- A text that cannot go on with a bare run before it. -/
def Bounded (cs : List Char) : Prop :=
  ∀ c ∈ cs.head?, isBound c = true

/-- The characters make these tokens, whatever stands before them and whatever follows that cannot
go on with the last of them. -/
def Spells (cs : List Char) (tokens : List Token) : Prop :=
  ∀ earlier rest, Bounded rest →
    scanned ⟨.between, earlier⟩ (cs ++ rest) = scanned ⟨.between, tokens.reverse ++ earlier⟩ rest

theorem spells_nil : Spells [] [] :=
  fun _ _ _ => rfl

theorem spells_append {first second : List Char} {tokens later : List Token}
    (spells : Spells first tokens) (next : Spells second later) (lead : Bounded second)
    (some : second ≠ []) : Spells (first ++ second) (tokens ++ later) := by
  intro earlier rest bounded
  have between : Bounded (second ++ rest) := by
    intro c head
    rw [List.head?_append_of_ne_nil _ some] at head
    exact lead c head
  rw [List.append_assoc, spells earlier _ between, next _ rest bounded, List.reverse_append,
    List.append_assoc]

theorem spells_mark {c : Char} (mark : isMark c = true) (spells : Spells cs tokens) :
    Spells (c :: cs) (.mark c :: tokens) := by
  intro earlier rest bounded
  have ordinary : isSpace c = false ∧ (c == '\x22') = false := by
    simp only [isMark, Bool.or_eq_true, beq_iff_eq] at mark
    rcases mark with ((((rfl | rfl) | rfl) | rfl) | rfl) | rfl <;> decide
  have stepped : Scanner.step ⟨.between, earlier⟩ c = some ⟨.between, .mark c :: earlier⟩ := by
    simp [Scanner.step, Scanner.fresh, ordinary, mark]
  rw [List.cons_append, scanned_cons, stepped, Option.bind_some, spells _ rest bounded]
  simp

theorem spells_blank {blanks : List Char} (blank : ∀ c ∈ blanks, isSpace c = true)
    (spells : Spells cs tokens) : Spells (blanks ++ cs) tokens := by
  induction blanks with
  | nil => exact spells
  | cons c blanks ih =>
    intro earlier rest bounded
    have stepped : Scanner.step ⟨.between, earlier⟩ c = some ⟨.between, earlier⟩ := by
      simp [Scanner.step, Scanner.fresh, blank c (by simp)]
    rw [List.cons_append, List.cons_append, scanned_cons, stepped, Option.bind_some]
    exact ih (fun c member => blank c (by simp [member])) earlier rest bounded

/-- A bare run gathers its characters and becomes a token when it cannot go on. -/
private theorem scanned_bare {lexeme : List Char} (free : ∀ c ∈ lexeme, isBound c = false)
    (gathered : List Char) (earlier : List Token) (bounded : Bounded rest) :
    scanned ⟨.bare gathered, earlier⟩ (lexeme ++ rest) =
      scanned ⟨.between, .bare (gathered.reverse ++ lexeme) :: earlier⟩ rest := by
  induction lexeme generalizing gathered with
  | nil =>
    cases rest with
    | nil => simp [scanned, ended]
    | cons c rest =>
      have bound : isBound c = true := bounded c rfl
      simp only [isBound] at bound
      simp [scanned_cons, Scanner.step, bound]
  | cons c lexeme ih =>
    have goesOn : isBound c = false := free c (by simp)
    simp only [isBound] at goesOn
    have stepped : Scanner.step ⟨.bare gathered, earlier⟩ c =
        some ⟨.bare (c :: gathered), earlier⟩ := by
      simp [Scanner.step, goesOn]
    rw [List.cons_append, scanned_cons, stepped, Option.bind_some,
      ih (fun c member => free c (by simp [member]))]
    simp

theorem spells_bare {lexeme : List Char} (some : lexeme ≠ [])
    (free : ∀ c ∈ lexeme, isBound c = false) : Spells lexeme [.bare lexeme] := by
  intro earlier rest bounded
  cases lexeme with
  | nil => exact absurd rfl some
  | cons c lexeme =>
    have starts : isBound c = false := free c (by simp)
    simp only [isBound, Bool.or_eq_false_iff] at starts
    have stepped : Scanner.step ⟨.between, earlier⟩ c = .some ⟨.bare [c], earlier⟩ := by
      simp [Scanner.step, Scanner.fresh, starts]
    rw [List.cons_append, scanned_cons, stepped, Option.bind_some,
      scanned_bare (fun c member => free c (by simp [member])) [c] earlier bounded]
    simp

private theorem hexValue_hexDigit : ∀ n < 16, Chars.hexValue? (Chars.hexDigit n) = some n := by
  decide

/-- A letter behind a backslash is read as the character it stands for. -/
private theorem scanned_letter {letter c : Char} (stands : escapedChar? letter = some c)
    (other : letter ≠ 'u') (gathered : List Char) (earlier : List Token) (rest : List Char) :
    scanned ⟨.quoted gathered, earlier⟩ ('\\' :: letter :: rest) =
      scanned ⟨.quoted (c :: gathered), earlier⟩ rest := by
  simp [scanned_cons, Scanner.step, stands, other]

/-- A control character without a letter of its own is read from its number. -/
private theorem scanned_control {c : Char} (control : c.toNat < 0x20) (gathered : List Char)
    (earlier : List Token) (rest : List Char) :
    scanned ⟨.quoted gathered, earlier⟩ ('\\' :: 'u' :: '0' :: '0' ::
        Chars.hexDigit (c.toNat / 16) :: Chars.hexDigit (c.toNat % 16) :: rest) =
      scanned ⟨.quoted (c :: gathered), earlier⟩ rest := by
  have high := hexValue_hexDigit (c.toNat / 16) (by omega)
  have low := hexValue_hexDigit (c.toNat % 16) (by omega)
  have zero : Chars.hexValue? '0' = some 0 := by decide
  have number : c.toNat / 16 * 16 + c.toNat % 16 = c.toNat := by omega
  have whole : ¬ 55296 ≤ c.toNat ∧ ¬ 56320 ≤ c.toNat := by omega
  simp [scanned_cons, Scanner.step, zero, high, low, closeHex, number, whole, Char.ofNat_toNat]

/-- A character of a string is read as itself, escaped or not. -/
private theorem scanned_escape (gathered : List Char) (earlier : List Token) (c : Char)
    (rest : List Char) :
    scanned ⟨.quoted gathered, earlier⟩ (escape c ++ rest) =
      scanned ⟨.quoted (c :: gathered), earlier⟩ rest := by
  by_cases lettered : c ∈ ['\x22', '\\', '\n', '\r', '\t', '\x08', '\x0c']
  · simp only [List.mem_cons, List.not_mem_nil, or_false] at lettered
    rcases lettered with rfl | rfl | rfl | rfl | rfl | rfl | rfl <;>
      exact scanned_letter (by decide) (by decide) gathered earlier rest
  · simp only [List.mem_cons, List.not_mem_nil, or_false, not_or] at lettered
    by_cases control : c.toNat < 0x20
    · simpa [escape, lettered, control] using scanned_control control gathered earlier rest
    · simp [escape, lettered, control, scanned_cons, Scanner.step]

private theorem scanned_escaped (gathered : List Char) (earlier : List Token) (cs rest : List Char) :
    scanned ⟨.quoted gathered, earlier⟩ (cs.flatMap escape ++ rest) =
      scanned ⟨.quoted (cs.reverse ++ gathered), earlier⟩ rest := by
  induction cs generalizing gathered with
  | nil => rfl
  | cons c cs ih =>
    rw [List.flatMap_cons, List.append_assoc, scanned_escape, ih]
    simp

theorem spells_quote (s : String) : Spells (quote s).toList [.text s] := by
  intro earlier rest _
  have written : (quote s).toList ++ rest =
      '\x22' :: (s.toList.flatMap escape ++ '\x22' :: rest) := by
    simp [quote, String.toList_append]
  have opened : Scanner.step ⟨.between, earlier⟩ '\x22' = some ⟨.quoted [], earlier⟩ := by
    simp [Scanner.step, Scanner.fresh, isSpace]
  rw [written, scanned_cons, opened, Option.bind_some, scanned_escaped, scanned_cons]
  simp [Scanner.step]

end Scanning

section Printing

mutual

/-- The tokens of a value in either written form. -/
def tokensOf : Json → List Token
  | .null => [.bare "null".toList]
  | .bool value => [.bare (if value then "true" else "false").toList]
  | .number value => [.bare value.text.toList]
  | .string value => [.text value]
  | .array items => .mark '[' :: ([.mark ','].intercalate (itemTokens items) ++ [.mark ']'])
  | .object fields =>
    .mark '\x7b' :: ([.mark ','].intercalate (fieldTokens fields) ++ [.mark '\x7d'])

/-- The tokens of each item of an array. -/
def itemTokens : List Json → List (List Token)
  | [] => []
  | item :: rest => tokensOf item :: itemTokens rest

/-- The tokens of each field of an object. -/
def fieldTokens : List (String × Json) → List (List Token)
  | [] => []
  | (key, value) :: rest => (.text key :: .mark ':' :: tokensOf value) :: fieldTokens rest

end

/-- Texts with commas between them spell their tokens with commas between them. -/
theorem spells_separated {texts : List (List Char)} {tokens : List (List Token)}
    (each : List.Forall₂ Spells texts tokens) :
    Spells ([','].intercalate texts) ([.mark ','].intercalate tokens) := by
  induction each with
  | nil => exact spells_nil
  | cons first each ih =>
    cases each with
    | nil => simpa using first
    | cons second each =>
      rw [List.intercalate_cons_cons, List.intercalate_cons_cons, List.append_assoc,
        List.append_assoc]
      exact spells_append first (spells_mark (by decide) ih) (by simp [Bounded, isBound, isMark])
        (by simp)

/-- Brackets around what stands between them, with white space before the closing one. -/
theorem spells_bracketed {opening closing : Char} (opens : isMark opening = true)
    (closes : isMark closing = true) (blanks : List Char) (blank : ∀ c ∈ blanks, isSpace c = true)
    (inside : Spells cs tokens) :
    Spells (opening :: (cs ++ (blanks ++ [closing])))
      (.mark opening :: (tokens ++ [.mark closing])) := by
  have closed : Spells (blanks ++ [closing]) [.mark closing] :=
    spells_blank blank (spells_mark closes spells_nil)
  have lead : Bounded (blanks ++ [closing]) := by
    intro c head
    cases blanks with
    | nil =>
      obtain rfl : closing = c := by simpa using head
      simp [isBound, closes]
    | cons first blanks =>
      obtain rfl : first = c := by simpa using head
      simp [isBound, blank]
  exact spells_mark opens (spells_append inside closed lead (by simp))

/-- A key, a colon and a value, with white space before the value. -/
theorem spells_field (key : String) (blanks : List Char) (blank : ∀ c ∈ blanks, isSpace c = true)
    {written : List Char} (value : Spells written tokens) :
    Spells ((quote key).toList ++ (':' :: blanks ++ written)) (.text key :: .mark ':' :: tokens) :=
  spells_append (spells_quote key) (spells_mark (by decide) (spells_blank blank value))
    (by simp [Bounded, isBound, isMark]) (by simp)

private theorem toDigits_digit (member : c ∈ Nat.toDigits 10 n) : c.isDigit = true :=
  Nat.isDigit_of_mem_toDigits (by decide) (by decide) member

private theorem toDigits_ne_nil (n : Nat) : Nat.toDigits 10 n ≠ [] :=
  List.ne_nil_of_length_pos Nat.length_toDigits_pos

private theorem digit_free {c : Char} (digit : c.isDigit = true) : isBound c = false := by
  have range : 48 ≤ c.toNat ∧ c.toNat ≤ 57 := Char.isDigit_iff_toNat.mp digit
  apply Bool.eq_false_iff.mpr
  intro bound
  simp only [isBound, isSpace, isMark, Bool.or_eq_true, beq_iff_eq, or_assoc] at bound
  rcases bound with rfl | rfl | rfl | rfl | rfl | rfl | rfl | rfl | rfl | rfl | rfl <;>
    revert range <;> decide

theorem count_text (n : Nat) : (JsonNumber.ofNat n).text.toList = Nat.toDigits 10 n := by
  simp [JsonNumber.ofNat, JsonNumber.text, Nat.toList_repr]

theorem spells_count (n : Nat) :
    Spells (JsonNumber.ofNat n).text.toList [.bare (JsonNumber.ofNat n).text.toList] := by
  rw [count_text]
  exact spells_bare (toDigits_ne_nil n) fun c member => digit_free (toDigits_digit member)

private theorem compactItems_eq (items : List Json) :
    compactItems items = items.map compact := by
  induction items with
  | nil => rfl
  | cons item rest ih => rw [compactItems, ih, List.map_cons]

private theorem compactFields_eq (fields : List (String × Json)) :
    compactFields fields = fields.map fun field => quote field.1 ++ ":" ++ compact field.2 := by
  induction fields with
  | nil => rfl
  | cons field rest ih => rw [compactFields, ih, List.map_cons]

private theorem prettyItems_eq (depth : Nat) (items : List Json) :
    prettyItems depth items = items.map (prettyAt depth) := by
  induction items with
  | nil => rfl
  | cons item rest ih => rw [prettyItems, ih, List.map_cons]

private theorem prettyFields_eq (depth : Nat) (fields : List (String × Json)) :
    prettyFields depth fields =
      fields.map fun field => quote field.1 ++ ": " ++ prettyAt depth field.2 := by
  induction fields with
  | nil => rfl
  | cons field rest ih => rw [prettyFields, ih, List.map_cons]

private theorem itemTokens_eq (items : List Json) : itemTokens items = items.map tokensOf := by
  induction items with
  | nil => rfl
  | cons item rest ih => rw [itemTokens, ih, List.map_cons]

/-- The tokens of one field. -/
def fieldToken (field : String × Json) : List Token :=
  .text field.1 :: .mark ':' :: tokensOf field.2

private theorem fieldTokens_eq (fields : List (String × Json)) :
    fieldTokens fields = fields.map fieldToken := by
  induction fields with
  | nil => rfl
  | cons field rest ih => rw [fieldTokens, ih, List.map_cons, fieldToken]

/-- What is written for each of some elements, with commas between, spells their tokens. -/
private theorem spells_elements (write : α → String) (tokens : α → List Token) {elements : List α}
    (each : ∀ element ∈ elements, Spells (write element).toList (tokens element)) :
    Spells (",".intercalate (elements.map write)).toList
      ([.mark ','].intercalate (elements.map tokens)) := by
  rw [String.toList_intercalate, List.map_map]
  refine spells_separated ?_
  rw [List.forall₂_map_left_iff, List.forall₂_map_right_iff, List.forall₂_same]
  exact each

/-- The one-line form of a value has the tokens of the value. -/
theorem spells_compact (plain : Plain value) : Spells value.compact.toList (tokensOf value) := by
  induction plain with
  | null => exact spells_bare (by decide) (by simp [compact, isBound, isSpace, isMark])
  | bool value =>
    cases value <;> exact spells_bare (by decide) (by simp [compact, isBound, isSpace, isMark])
  | count n => exact spells_count n
  | string value => exact spells_quote value
  | array _ ih =>
    have inside := spells_elements compact tokensOf ih
    rw [compact, tokensOf, compactItems_eq, itemTokens_eq, String.toList_append,
      String.toList_append]
    exact spells_bracketed (by decide) (by decide) [] (by simp) inside
  | object _ _ ih =>
    have inside := spells_elements (fun field : String × Json =>
      quote field.1 ++ ":" ++ compact field.2) fieldToken fun field member => by
        rw [String.toList_append, String.toList_append, List.append_assoc]
        exact spells_field field.1 [] (by simp) (ih field member)
    rw [compact, tokensOf, compactFields_eq, fieldTokens_eq, String.toList_append,
      String.toList_append]
    exact spells_bracketed (by decide) (by decide) [] (by simp) inside

private theorem indent_blank (levels : Nat) :
    ∀ c ∈ ("\n" ++ String.ofList (List.replicate (2 * levels) ' ')).toList, isSpace c = true := by
  intro c member
  simp only [String.toList_append, String.toList_ofList, List.mem_append, List.mem_replicate]
    at member
  rcases member with feed | ⟨-, rfl⟩
  · obtain rfl : c = '\n' := by simpa using feed
    decide
  · decide

/-- Elements one to a line between brackets. -/
private theorem spells_block (write : α → String) (tokens : α → List Token) {elements : List α}
    {opening closing : String} {first last : Char} (opens : opening.toList = [first])
    (closes : closing.toList = [last]) (left : isMark first = true) (right : isMark last = true)
    (depth : Nat) (each : ∀ element ∈ elements, Spells (write element).toList (tokens element)) :
    Spells (block depth opening closing (elements.map write)).toList
      (.mark first :: ([.mark ','].intercalate (elements.map tokens) ++ [.mark last])) := by
  unfold block
  dsimp only
  split
  · rename_i none
    obtain rfl : elements = [] := by simpa using none
    rw [String.toList_append, opens, closes]
    exact spells_bracketed left right [] (by simp) spells_nil
  · have lines := spells_elements (fun element =>
      "\n" ++ String.ofList (List.replicate (2 * (depth + 1)) ' ') ++ write element) tokens
        fun element member => by
          rw [String.toList_append]
          exact spells_blank (indent_blank (depth + 1)) (each element member)
    rw [List.map_map, String.toList_append, String.toList_append, String.toList_append, opens,
      closes, List.append_assoc, List.append_assoc]
    exact spells_bracketed left right _ (indent_blank depth) lines

/-- The form with one element to a line has the tokens of the value. -/
theorem spells_pretty (plain : Plain value) (depth : Nat) :
    Spells (prettyAt depth value).toList (tokensOf value) := by
  induction plain generalizing depth with
  | null => exact spells_compact .null
  | bool value => exact spells_compact (.bool value)
  | count n => exact spells_compact (.count n)
  | string value => exact spells_compact (.string value)
  | array _ ih =>
    rw [prettyAt, tokensOf, prettyItems_eq, itemTokens_eq]
    exact spells_block _ _ rfl rfl (by decide) (by decide) depth fun item member =>
      ih item member (depth + 1)
  | object _ _ ih =>
    rw [prettyAt, tokensOf, prettyFields_eq, fieldTokens_eq]
    refine spells_block _ _ rfl rfl (by decide) (by decide) depth fun field member => ?_
    rw [String.toList_append, String.toList_append, List.append_assoc]
    exact spells_field field.1 [' '] (by simp [isSpace]) (ih field member (depth + 1))

end Printing

section Building

/-- A value may come next. -/
def Ready (expect : Expect) : Prop :=
  expect = .value ∨ expect = .valueOrClose

/-- Where a value may come next, the tokens put this value there. -/
def Builds (tokens : List Token) (value : Json) : Prop :=
  ∀ b rest, Ready b.expect →
    (tokens ++ rest).foldlM Builder.step b = rest.foldlM Builder.step (b.place value)

/-- A token that does not close an array is taken as a value. -/
private theorem step_ready {b : Builder} (ready : Ready b.expect) (other : token ≠ .mark ']') :
    b.step token = b.value? token := by
  rcases ready with value | first
  · simp [Builder.step, value]
  · simp [Builder.step, first, other]

private theorem builds_token {token : Token} (other : token ≠ .mark ']')
    (taken : ∀ b : Builder, b.value? token = some (b.place value)) : Builds [token] value := by
  intro b rest ready
  simp [step_ready ready other, taken]

private theorem foldl_toDigits (n : Nat) :
    (Nat.toDigits 10 n).foldl (fun n c => 10 * n + (c.toNat - 48)) 0 = n := by
  have digit : ∀ d < 10, d.digitChar.toNat - 48 = d := by decide
  induction n using Nat.strongRecOn with
  | _ n ih =>
    rw [Nat.toDigits_eq_if (by decide)]
    split
    · rename_i small
      simpa using digit n small
    · rename_i large
      rw [List.foldl_append, ih (n / 10) (by omega), List.foldl_cons, List.foldl_nil,
        digit (n % 10) (by omega)]
      omega

private theorem digits_toDigits (n : Nat) : Chars.digits? (Nat.toDigits 10 n) = some n := by
  have digits : (Nat.toDigits 10 n).all Char.isDigit = true :=
    List.all_eq_true.mpr fun c member => toDigits_digit member
  simp [Chars.digits?, digits, foldl_toDigits]

private theorem head_toDigits (positive : n ≠ 0) : (Nat.toDigits 10 n).head? ≠ some '0' := by
  have digit : ∀ d < 10, d ≠ 0 → d.digitChar ≠ '0' := by decide
  induction n using Nat.strongRecOn with
  | _ n ih =>
    rw [Nat.toDigits_eq_if (by decide)]
    split
    · rename_i small
      simpa using digit n small positive
    · rename_i large
      rw [List.head?_append_of_ne_nil _ (toDigits_ne_nil _)]
      exact ih (n / 10) (by omega) (by omega)

/-- The digits of a count are read as that count: they have no sign, no fraction, no exponent and no
needless zero. -/
private theorem numberOf_toDigits (n : Nat) :
    numberOf? (Nat.toDigits 10 n) = some (JsonNumber.ofNat n) := by
  have value := digits_toDigits n
  have zeros : ((Nat.toDigits 10 n).length > 1 && (Nat.toDigits 10 n).head? == some '0') = false := by
    by_cases zero : n = 0
    · simp [zero]
    · simp [head_toDigits zero]
  have free (other : Char) (outside : other.isDigit = false) : ∀ c ∈ Nat.toDigits 10 n, c ≠ other := by
    rintro c member rfl
    rw [toDigits_digit member] at outside
    cases outside
  generalize Nat.toDigits 10 n = cs at value zeros free
  have unsigned : ∀ rest, cs ≠ '-' :: rest := by
    rintro rest rfl
    exact free '-' (by decide) '-' (by simp) rfl
  have power : ∀ c ∈ cs, (!(c == 'e' || c == 'E')) = true := by
    intro c member
    simp [free 'e' (by decide) c member, free 'E' (by decide) c member]
  have fraction : ∀ c ∈ cs, (c != '.') = true := by
    intro c member
    simp [free '.' (by decide) c member]
  unfold numberOf?
  split
  rename_i negative rest sign
  obtain ⟨rfl, rfl⟩ : negative = false ∧ rest = cs := by
    split at sign
    · exact absurd rfl (unsigned _)
    · cases sign
      exact ⟨rfl, rfl⟩
  dsimp only
  rw [List.takeWhile_eq_self_iff.mpr power, List.dropWhile_eq_nil_iff.mpr power,
    List.takeWhile_eq_self_iff.mpr fraction, List.dropWhile_eq_nil_iff.mpr fraction, value]
  simp [zeros, JsonNumber.ofNat]

/-- A run of digits is no word, so it is read as a number. -/
private theorem bare_count (n : Nat) :
    bare? (JsonNumber.ofNat n).text.toList = some (.ofNat n) := by
  rw [count_text]
  have noWord (word : String) (lead : word.toList.head?.any Char.isDigit = false) :
      String.ofList (Nat.toDigits 10 n) ≠ word := by
    rintro rfl
    cases shape : Nat.toDigits 10 n with
    | nil => exact absurd shape (toDigits_ne_nil n)
    | cons c rest =>
      have digit : c.isDigit = true := toDigits_digit (n := n) (by rw [shape]; simp)
      simp [shape, digit] at lead
  unfold bare?
  split
  · rename_i same
    exact absurd same (noWord "null" (by decide))
  · rename_i same
    exact absurd same (noWord "true" (by decide))
  · rename_i same
    exact absurd same (noWord "false" (by decide))
  · rw [numberOf_toDigits]
    rfl

/-- Items with commas between them fill an array, behind those that it has. -/
private theorem builds_items {items : List Json} (some : items ≠ [])
    (each : ∀ item ∈ items, Builds (tokensOf item) item) (earlier : List Json)
    (frames : List Frame) (expect : Expect) (result : Option Json)
    (ready : Ready expect) (rest : List Token) :
    ([.mark ','].intercalate (items.map tokensOf) ++ .mark ']' :: rest).foldlM Builder.step
        ⟨.array earlier :: frames, expect, result⟩ =
      rest.foldlM Builder.step
        (Builder.place ⟨frames, .commaOrClose, result⟩ (.array (earlier.reverse ++ items))) := by
  induction items generalizing earlier expect with
  | nil => exact absurd rfl some
  | cons item items ih =>
    have placed := each item (by simp)
    cases items with
    | nil =>
      rw [List.map_singleton, List.intercalate_singleton,
        placed ⟨_, expect, _⟩ _ ready]
      simp [Builder.place, Builder.step, Builder.next?, Builder.close?]
    | cons second items =>
      rw [List.map_cons, List.map_cons, List.intercalate_cons_cons, List.append_assoc,
        List.append_assoc, placed ⟨_, expect, _⟩ _ ready, ← List.map_cons, List.singleton_append,
        List.foldlM_cons]
      have next : Builder.step (Builder.place ⟨.array earlier :: frames, expect, result⟩ item)
          (.mark ',') = .some ⟨.array (item :: earlier) :: frames, .value, result⟩ := rfl
      rw [next]
      have later := ih (by simp) (fun item member => each item (by simp [member])) (item :: earlier)
        .value (.inl rfl)
      simpa using later

/-- Fields with commas between them fill an object, behind those that it has, as long as no key comes
again. -/
private theorem builds_fields {fields : List (String × Json)} (some : fields ≠ [])
    (each : ∀ field ∈ fields, Builds (tokensOf field.2) field.2)
    (earlier : List (String × Json))
    (keys : ((earlier.reverse ++ fields).map (·.1)).Nodup) (key : String) (frames : List Frame)
    (expect : Expect) (result : Option Json) (ready : expect = .key ∨ expect = .keyOrClose)
    (rest : List Token) :
    ([.mark ','].intercalate (fields.map fieldToken) ++ .mark '\x7d' :: rest).foldlM Builder.step
        ⟨.object earlier key :: frames, expect, result⟩ =
      rest.foldlM Builder.step
        (Builder.place ⟨frames, .commaOrClose, result⟩ (.object (earlier.reverse ++ fields))) := by
  induction fields generalizing earlier key expect with
  | nil => exact absurd rfl some
  | cons field fields ih =>
    have fresh : earlier.filter (·.1 != field.1) = earlier := by
      refine List.filter_eq_self.mpr fun other member => bne_iff_ne.mpr ?_
      rw [List.map_append, List.nodup_append] at keys
      exact keys.2.2 other.1 (List.mem_map_of_mem (List.mem_reverse.mpr member)) field.1 (by simp)
    -- a key and its colon leave room for the value
    have opened (later : List Token) :
        (fieldToken field ++ later).foldlM Builder.step
            ⟨.object earlier key :: frames, expect, result⟩ =
          later.foldlM Builder.step
            ⟨.object (field :: earlier) field.1 :: frames, .commaOrClose, result⟩ := by
      have named : Builder.step ⟨.object earlier key :: frames, expect, result⟩ (.text field.1) =
          .some ⟨.object earlier field.1 :: frames, .colon, result⟩ := by
        rcases ready with rfl | rfl <;> rfl
      have divided : Builder.step ⟨.object earlier field.1 :: frames, .colon, result⟩ (.mark ':') =
          .some ⟨.object earlier field.1 :: frames, .value, result⟩ := rfl
      rw [fieldToken, List.cons_append, List.cons_append, List.foldlM_cons, named,
        Option.bind_eq_bind, Option.bind_some, List.foldlM_cons, divided, Option.bind_eq_bind,
        Option.bind_some, each field (by simp) _ later (.inl rfl)]
      simp only [Builder.place, fresh]
    cases fields with
    | nil =>
      rw [List.map_singleton, List.intercalate_singleton, opened]
      simp [Builder.step, Builder.next?, Builder.close?]
    | cons second fields =>
      rw [List.map_cons, List.map_cons, List.intercalate_cons_cons, List.append_assoc,
        List.append_assoc, opened, ← List.map_cons, List.singleton_append, List.foldlM_cons]
      have next : Builder.step ⟨.object (field :: earlier) field.1 :: frames, .commaOrClose, result⟩
          (.mark ',') = .some ⟨.object (field :: earlier) field.1 :: frames, .key, result⟩ := rfl
      rw [next]
      have later := ih (by simp) (fun field member => each field (by simp [member]))
        (field :: earlier) (by simpa using keys) field.1 .key (.inl rfl)
      simpa using later

/-- The tokens of a value build it. -/
theorem builds_tokensOf (plain : Plain value) : Builds (tokensOf value) value := by
  induction plain with
  | null => exact builds_token (by decide) fun _ => rfl
  | bool value => cases value <;> exact builds_token (by decide) fun _ => rfl
  | count n =>
    refine builds_token (by simp) fun b => ?_
    rw [Builder.value?, bare_count]
    rfl
  | string value => exact builds_token (by simp) fun _ => rfl
  | @array items _ ih =>
    intro b rest ready
    rw [tokensOf, itemTokens_eq, List.cons_append, List.foldlM_cons, step_ready ready (by simp),
      List.append_assoc]
    cases items with
    | nil => rfl
    | cons item items =>
      exact builds_items (by simp) ih [] b.frames .valueOrClose b.result (.inr rfl) rest
  | @object fields keys _ ih =>
    intro b rest ready
    rw [tokensOf, fieldTokens_eq, List.cons_append, List.foldlM_cons, step_ready ready (by simp),
      List.append_assoc]
    cases fields with
    | nil => rfl
    | cons field fields =>
      exact builds_fields (by simp) ih [] keys "" b.frames .keyOrClose b.result (.inr rfl) rest

end Building

/-- A text whose tokens are those of a value is read as that value. -/
theorem parse_of_spells (plain : Plain value) (spells : Spells text.toList (tokensOf value)) :
    parse? text = some value := by
  have tokens : tokens? text = some (tokensOf value) := by
    have scanned := spells [] [] (by simp [Bounded])
    rw [List.append_nil] at scanned
    rw [tokens_scanned, scanned]
    simp [JsonText.scanned, ended]
  have built := builds_tokensOf plain ⟨[], .value, none⟩ [] (.inl rfl)
  rw [List.append_nil] at built
  simp only [parse?, tokens, Option.bind_eq_bind, Option.bind_some, built]
  rfl

/-- A value reads back from its one-line form. -/
theorem parse_compact (plain : Plain value) : parse? value.compact = some value :=
  parse_of_spells plain (spells_compact plain)

/-- A value reads back from its form with one element to a line. -/
theorem parse_pretty (plain : Plain value) : parse? value.pretty = some value :=
  parse_of_spells plain (spells_pretty plain 0)

end SourceAtlas.JsonText

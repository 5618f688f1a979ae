import SourceAtlas.Json.Text
import SourceAtlas.Run

/-! Snapshots of a project as JSON: its files, each with its bytes and the rows of its syntax tree,
and what version control says about it. -/
namespace SourceAtlas

/-- Reads a row of a syntax tree: depth, kind, whether it is named (one or zero), field, start and
end, and the redirected fields, of which a negative row stands for none. -/
def SyntaxRow.ofJson? (json : Json) : Option SyntaxRow := do
  let count := Json.nat? 64
  let redirect : String × Json → Option (String × Option Nat) := fun (field, row) =>
    row.number?.map fun number => (field, number.toNat? (Nat.pow 2 64))
  match ← json.items? with
  | depth :: kind :: named :: field :: start :: stop :: more =>
    let redirects ← match more with
      | [.object fields] => fields.mapM redirect
      | _ => some []
    some { depth := ← count depth, kind := ← kind.text?, named := (← count named) == 1,
           field := ← field.text?, start := ← count start, stop := ← count stop, redirects }
  | _ => none

namespace Snapshot

/-- Reads the rows of a syntax tree; a file without a tree has none. -/
def rows? (file : Json) : Option (Array SyntaxRow) :=
  match file.get? "tree" with
  | none | some .null => some #[]
  | some tree => (Json.readList SyntaxRow.ofJson? tree).map List.toArray

/-- The bytes that pairs of hexadecimal digits stand for. -/
def hexBytes? : List Char → Option (List UInt8)
  | [] => some []
  | [_] => none
  | high :: low :: rest => do
    let byte := UInt8.ofNat (16 * (← Chars.hexValue? high) + (← Chars.hexValue? low))
    some (byte :: (← hexBytes? rest))

/-- The bytes of a file: those of a text, or those given in hexadecimal digits. -/
def bytes? (file : Json) : Option ByteArray :=
  match file.get? "hex" with
  | some digits => (digits.text?.bind fun text => hexBytes? text.toList).map List.toByteArray
  | none => ((file.get? "content").bind Json.text?).map String.toUTF8

/-- Reads a stored file. -/
def storedFile? (file : Json) : Option StoredFile := do
  some ⟨← (← file.get? "path").text?, ← bytes? file, ← rows? file⟩

/-- Reads a source file. -/
def sourceFile? (file : Json) : Option SourceFile := do
  some ⟨← (← file.get? "path").text?, ← (← file.get? "content").text?, ← rows? file⟩

/-- Reads all of a list that may be missing. -/
def listed? (json : Json) (key : String) (read : Json → Option α) : Option (List α) :=
  json.readOr key [] (Json.readList read)

/-- Reads a history. Null stands for no version control, and a failure for the answer that one of
its commands gives. -/
def history? : Json → Option History
  | .null => some History.missing
  | json => do
    let place ← json.readOr "prefix" "" Json.text?
    let base := History.ofCommits place (← listed? json "commits" Json.text?)
    match json.get? "fail" with
    | none | some .null => some base
    | some fail => do
      let error := .failed (← (← fail.get? "code").nat? 32) (← fail.readOr "stderr" "" Json.text?)
      match ← (← fail.get? "at").text? with
      | "rev-parse" => some { base with place := .error error }
      | "log" => some { base with changes := fun _ => .error error }
      | _ => none

/-- Reads what a command runs in, from a snapshot and the environment. -/
def surroundings? (env : List (String × String)) (json : Json) : Option Surroundings := do
  let files ← listed? json "files" storedFile?
  let history ← history? ((json.get? "git").getD .null)
  some ⟨FileTree.ofList files, history, env⟩

end Snapshot
end SourceAtlas

import TemporalQuery.Text.Hex

/-!
# JSON

JSON values with fields in a fixed order, written in ASCII, on one line or indented.
-/

namespace TemporalQuery

inductive Json
  | null
  | bool (b : Bool)
  | int (n : Int)
  | str (s : String)
  | arr (items : List Json)
  | obj (fields : List (String × Json))

namespace Json

/-- One character between quotes. Beyond the basic plane it is written as two surrogates. -/
def escapeChar (c : Char) : List Char :=
  let n := c.toNat
  match c with
  | '"' => ['\\', '"']
  | '\\' => ['\\', '\\']
  | '\n' => ['\\', 'n']
  | '\r' => ['\\', 'r']
  | '\t' => ['\\', 't']
  | '\x08' => ['\\', 'b']
  | '\x0c' => ['\\', 'f']
  | _ =>
    if 32 ≤ n ∧ n < 127 then [c]
    else if n < 0x10000 then '\\' :: 'u' :: Text.hexPadded 4 n
    else
      let k := n - 0x10000
      '\\' :: 'u' :: Text.hexPadded 4 (0xd800 + k / 0x400) ++ '\\' :: 'u' :: Text.hexPadded 4 (0xdc00 + k % 0x400)

def quote (s : String) : String := String.ofList ('"' :: s.toList.flatMap escapeChar ++ ['"'])

mutual

def compact : Json → String
  | null => "null"
  | bool b => toString b
  | int n => toString n
  | str s => quote s
  | arr items => "[" ++ ",".intercalate (compactItems items) ++ "]"
  | obj fields => "\x7b" ++ ",".intercalate (compactFields fields) ++ "\x7d"

def compactItems : List Json → List String
  | [] => []
  | j :: js => j.compact :: compactItems js

def compactFields : List (String × Json) → List String
  | [] => []
  | (k, j) :: js => (quote k ++ ":" ++ j.compact) :: compactFields js

end

/-- Lines between two brackets, each one level deeper than the brackets at `depth`. -/
def block (opening closing : String) (depth : Nat) (lines : List String) : String :=
  let pad (d : Nat) := "\n" ++ String.ofList (List.replicate (2 * d) ' ')
  if lines.isEmpty then opening ++ closing
  else opening ++ pad (depth + 1) ++ ("," ++ pad (depth + 1)).intercalate lines ++ pad depth ++ closing

mutual

/-- The value with each item and each field on a line of its own, by two blanks a level. -/
def indented (depth : Nat) : Json → String
  | null => "null"
  | bool b => toString b
  | int n => toString n
  | str s => quote s
  | arr items => block "[" "]" depth (indentedItems (depth + 1) items)
  | obj fields => block "\x7b" "\x7d" depth (indentedFields (depth + 1) fields)

def indentedItems (depth : Nat) : List Json → List String
  | [] => []
  | j :: js => j.indented depth :: indentedItems depth js

def indentedFields (depth : Nat) : List (String × Json) → List String
  | [] => []
  | (k, j) :: js => (quote k ++ ": " ++ j.indented depth) :: indentedFields depth js

end

end Json

end TemporalQuery

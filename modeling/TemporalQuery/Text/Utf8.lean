import TemporalQuery.Text.Hex

/-!
# UTF-8

Strict decoding. A fault names the bytes that are no character: as many as could have started one,
or all that are left when the text ends inside a character.
-/

namespace TemporalQuery.Text

inductive Utf8Reason
  | startByte
  | continuationByte
  | endOfData
  deriving DecidableEq

def Utf8Reason.message : Utf8Reason → String
  | startByte => "invalid start byte"
  | continuationByte => "invalid continuation byte"
  | endOfData => "unexpected end of data"

/-- The bytes at fault are `count` from offset `start` on, the first one being `byte`. -/
structure Utf8Fault where
  reason : Utf8Reason
  start : Nat
  count : Nat
  byte : UInt8
  deriving DecidableEq

def Utf8Fault.message (f : Utf8Fault) : String :=
  let place :=
    if f.count = 1 then
      "byte 0x" ++ String.ofList (hexPadded 2 f.byte.toNat) ++ " in position " ++ toString f.start
    else
      "bytes in position " ++ toString f.start ++ "-" ++ toString (f.start + f.count - 1)
  "'utf-8' codec can't decode " ++ place ++ ": " ++ f.reason.message

/-- What a first byte announces: how many bytes follow, the range of the second byte, and the bits
that the first byte holds. -/
structure Utf8Lead where
  following : Nat
  low : Nat := 0x80
  high : Nat := 0xbf
  bits : Nat

/-- Overlong forms, surrogates and code points past the last are excluded by the second byte. -/
def Utf8Lead.ofByte? (b : UInt8) : Option Utf8Lead :=
  let n := b.toNat
  if n < 0x80 then some { following := 0, bits := n }
  else if n < 0xc2 then none
  else if n < 0xe0 then some { following := 1, bits := n - 0xc0 }
  else if n = 0xe0 then some { following := 2, low := 0xa0, bits := 0 }
  else if n = 0xed then some { following := 2, high := 0x9f, bits := 0xd }
  else if n < 0xf0 then some { following := 2, bits := n - 0xe0 }
  else if n = 0xf0 then some { following := 3, low := 0x90, bits := 0 }
  else if n < 0xf4 then some { following := 3, bits := n - 0xf0 }
  else if n = 0xf4 then some { following := 3, high := 0x8f, bits := 4 }
  else none

/-- The code point that `following` bytes complete, or why and after how many bytes they do not. -/
def continuation (following low high bits taken : Nat) (bytes : List UInt8) :
    Except (Utf8Reason × Nat) Nat :=
  match following, bytes with
  | 0, _ => .ok bits
  | _ + 1, [] => .error (.endOfData, taken)
  | n + 1, b :: bytes =>
    if low ≤ b.toNat ∧ b.toNat ≤ high then
      continuation n 0x80 0xbf (bits * 64 + (b.toNat - 0x80)) (taken + 1) bytes
    else .error (.continuationByte, taken)

def decodeFrom (start : Nat) (bytes : List UInt8) : Except Utf8Fault (List Char) :=
  match bytes with
  | [] => .ok []
  | b :: bytes =>
    match Utf8Lead.ofByte? b with
    | none => .error ⟨.startByte, start, 1, b⟩
    | some lead =>
      match continuation lead.following lead.low lead.high lead.bits 1 bytes with
      | .error (reason, count) => .error ⟨reason, start, count, b⟩
      | .ok code =>
        (decodeFrom (start + lead.following + 1) (bytes.drop lead.following)).map
          (Char.ofNat code :: ·)
termination_by bytes.length
decreasing_by simp only [List.length_cons, List.length_drop]; omega

def decodeUtf8 (bytes : List UInt8) : Except Utf8Fault (List Char) := decodeFrom 0 bytes

end TemporalQuery.Text

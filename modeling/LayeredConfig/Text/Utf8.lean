import LayeredConfig.Instances

namespace LayeredConfig.Text

def decode? (bytes : ByteArray) : Option String := String.fromUTF8? bytes

/-- The lead byte's sequence length, and the bounds of the byte after it. Between them the bounds
leave out overlong forms, surrogates and numbers beyond the last character. -/
def leadByte? (b : Nat) : Option (Nat × Nat × Nat) :=
  if 0xC2 ≤ b ∧ b ≤ 0xDF then some (2, 0x80, 0xBF)
  else if b = 0xE0 then some (3, 0xA0, 0xBF)
  else if b = 0xED then some (3, 0x80, 0x9F)
  else if 0xE1 ≤ b ∧ b ≤ 0xEF then some (3, 0x80, 0xBF)
  else if b = 0xF0 then some (4, 0x90, 0xBF)
  else if 0xF1 ≤ b ∧ b ≤ 0xF3 then some (4, 0x80, 0xBF)
  else if b = 0xF4 then some (4, 0x80, 0x8F)
  else none

/-- Continuation bytes in front of `bytes`, at most `count`, the first one within the bounds. -/
def continuation (count low high : Nat) : List Nat → List Nat
  | [] => []
  | b :: bytes =>
    match count with
    | 0 => []
    | n + 1 => if low ≤ b ∧ b ≤ high then b :: continuation n 0x80 0xBF bytes else []

def assemble (lead length : Nat) (tail : List Nat) : Char :=
  Char.ofNat (tail.foldl (fun n b => n * 64 + b % 64) (lead % 2 ^ (7 - length)))

/-- Reads bytes as UTF-8; each longest start of a sequence that breaks off becomes one replacement
character. `skip` counts the bytes that the character before has used up. -/
def decodeFrom (skip : Nat) : List Nat → List Char
  | [] => []
  | b :: bytes =>
    match skip with
    | n + 1 => decodeFrom n bytes
    | 0 =>
      if b < 0x80 then Char.ofNat b :: decodeFrom 0 bytes
      else match leadByte? b with
        | none => Char.ofNat 0xFFFD :: decodeFrom 0 bytes
        | some (length, low, high) =>
          let tail := continuation (length - 1) low high bytes
          let c := if tail.length + 1 = length then assemble b length tail else Char.ofNat 0xFFFD
          c :: decodeFrom tail.length bytes

def decodeLossy (bytes : ByteArray) : String :=
  String.ofList (decodeFrom 0 (bytes.toList.map UInt8.toNat))

end LayeredConfig.Text

import Scaffold.Text.Quoted

/-!
# UTF-8

Decoding stops at the first malformed sequence and says where it lies and why.
-/

namespace Scaffold.Text

/-- Why bytes are not UTF-8, for the byte or bytes at a position. -/
inductive Utf8Fault where
  | badStart
  | badContinuation
  | truncated

structure Utf8Error where
  position : Nat
  /-- The malformed sequence, never empty. -/
  bytes : List UInt8
  fault : Utf8Fault

def Utf8Error.message (e : Utf8Error) : String :=
  let reason := match e.fault with
    | .badStart => "invalid start byte"
    | .badContinuation => "invalid continuation byte"
    | .truncated => "unexpected end of data"
  let place := match e.bytes with
    | [b] => "byte 0x" ++ String.ofList (hex 2 b.toNat) ++ " in position " ++ toString e.position
    | bs => "bytes in position " ++ toString e.position ++ "-" ++
        toString (e.position + bs.length - 1)
  "'utf-8' codec can't decode " ++ place ++ ": " ++ reason

def isContinuation (b : UInt8) : Bool := 0x80 ≤ b && b ≤ 0xBF

/-- Whether a second byte keeps the sequence shortest, below the last code point and off the
surrogates. -/
def fitsSecond (lead b : UInt8) : Bool :=
  isContinuation b &&
    (lead != 0xE0 || 0xA0 ≤ b) && (lead != 0xED || b < 0xA0) &&
    (lead != 0xF0 || 0x90 ≤ b) && (lead != 0xF4 || b < 0x90)

/-- The number of bytes that a first byte announces, 0 for none. -/
def announced (b : UInt8) : Nat :=
  if b < 0x80 then 1
  else if 0xC2 ≤ b ∧ b ≤ 0xDF then 2
  else if 0xE0 ≤ b ∧ b ≤ 0xEF then 3
  else if 0xF0 ≤ b ∧ b ≤ 0xF4 then 4
  else 0

def low6 (b : UInt8) : Nat := b.toNat % 64

def decodeUtf8 (position : Nat) : List UInt8 → Except Utf8Error (List Char)
  | [] => .ok []
  | b :: r =>
    match announced b, r with
    | 0, _ => .error ⟨position, [b], .badStart⟩
    | 1, r => (decodeUtf8 (position + 1) r).map (Char.ofNat b.toNat :: ·)
    | _, [] => .error ⟨position, [b], .truncated⟩
    | n, b₂ :: r₂ =>
      if !fitsSecond b b₂ then .error ⟨position, [b], .badContinuation⟩
      else if n = 2 then
        (decodeUtf8 (position + 2) r₂).map (Char.ofNat (b.toNat % 32 * 64 + low6 b₂) :: ·)
      else match r₂ with
        | [] => .error ⟨position, [b, b₂], .truncated⟩
        | b₃ :: r₃ =>
          if !isContinuation b₃ then .error ⟨position, [b, b₂], .badContinuation⟩
          else if n = 3 then
            let c := (b.toNat % 16 * 64 + low6 b₂) * 64 + low6 b₃
            (decodeUtf8 (position + 3) r₃).map (Char.ofNat c :: ·)
          else match r₃ with
            | [] => .error ⟨position, [b, b₂, b₃], .truncated⟩
            | b₄ :: r₄ =>
              if !isContinuation b₄ then .error ⟨position, [b, b₂, b₃], .badContinuation⟩
              else
                let c := ((b.toNat % 8 * 64 + low6 b₂) * 64 + low6 b₃) * 64 + low6 b₄
                (decodeUtf8 (position + 4) r₄).map (Char.ofNat c :: ·)

def encodeUtf8 (s : String) : List UInt8 := s.toUTF8.toList

end Scaffold.Text

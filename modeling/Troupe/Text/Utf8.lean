/-!
# UTF-8 with located faults

Text travels as UTF-8.  Encoding is character by character; decoding reads one
well-formed sequence at a time and, where there is none, says at which byte the
well-formed part of the input ends and how many bytes of it can be skipped as
one faulty unit.

## Sequences

The lead byte of a sequence fixes its length and the range of its second byte;
all later bytes are continuation bytes `80` to `BF`.  The tightened second
ranges are what excludes overlong forms, surrogates, and code points beyond
`10FFFF`.
-/

namespace Troupe
namespace Text

/-- Where text stops being well formed.  A truncated sequence at the very end of
the input has no `skip`. -/
structure Utf8Fault where
  validUpTo : Nat
  skip : Option Nat
deriving DecidableEq, Repr

def Utf8Fault.message (fault : Utf8Fault) : String :=
  match fault.skip with
  | some n =>
      "invalid utf-8 sequence of " ++ toString n ++ " bytes from index " ++
        toString fault.validUpTo
  | none => "incomplete utf-8 byte sequence from index " ++ toString fault.validUpTo

def utf8Bytes (s : String) : List UInt8 :=
  s.toList.flatMap String.utf8EncodeChar

def isContinuation (b : UInt8) : Bool :=
  0x80 ≤ b && b ≤ 0xbf

/-- The closed range of second bytes that may follow a lead byte, with the
number of bytes after the second; `none` for a byte that leads nothing. -/
def leadInfo (lead : UInt8) : Option (UInt8 × UInt8 × Nat) :=
  if 0xc2 ≤ lead && lead ≤ 0xdf then some (0x80, 0xbf, 0)
  else if lead == 0xe0 then some (0xa0, 0xbf, 1)
  else if lead == 0xed then some (0x80, 0x9f, 1)
  else if 0xe1 ≤ lead && lead ≤ 0xef then some (0x80, 0xbf, 1)
  else if lead == 0xf0 then some (0x90, 0xbf, 2)
  else if 0xf1 ≤ lead && lead ≤ 0xf3 then some (0x80, 0xbf, 2)
  else if lead == 0xf4 then some (0x80, 0x8f, 2)
  else none

def leadBits (lead : UInt8) : Nat :=
  if lead < 0xe0 then lead.toNat % 32
  else if lead < 0xf0 then lead.toNat % 16
  else lead.toNat % 8

/-- One character from the front of the bytes, with how many bytes it took;
failing that, how many bytes form one faulty unit. -/
def decodeChar : List UInt8 -> Except (Option Nat) (Char × Nat)
  | [] => .error none
  | a :: rest =>
      if a < 0x80 then .ok (Char.ofNat a.toNat, 1)
      else
        match leadInfo a, rest with
        | none, _ => .error (some 1)
        | some _, [] => .error none
        | some (low, high, more), b :: rest =>
            if !(low ≤ b && b ≤ high) then .error (some 1)
            else
              let two := leadBits a * 64 + b.toNat % 64
              match more, rest with
              | 0, _ => .ok (Char.ofNat two, 2)
              | _ + 1, [] => .error none
              | 1, c :: _ =>
                  if isContinuation c then .ok (Char.ofNat (two * 64 + c.toNat % 64), 3)
                  else .error (some 2)
              | _ + 2, c :: rest =>
                  if !isContinuation c then .error (some 2)
                  else
                    match rest with
                    | [] => .error none
                    | d :: _ =>
                        if isContinuation d then
                          .ok (Char.ofNat ((two * 64 + c.toNat % 64) * 64 + d.toNat % 64), 4)
                        else .error (some 3)

/-!
## Whole texts

The number of bytes bounds the number of characters, so it bounds the loop.
-/

/-- Decodes at most `fuel` characters, `offset` being the bytes read before. -/
def decodeCharsFrom : Nat -> Nat -> List UInt8 -> Except Utf8Fault (List Char)
  | _, _, [] => .ok []
  | 0, offset, _ :: _ => .error { validUpTo := offset, skip := none }
  | fuel + 1, offset, bytes =>
      match decodeChar bytes with
      | .error skip => .error { validUpTo := offset, skip := skip }
      | .ok (c, n) =>
          match decodeCharsFrom fuel (offset + n) (bytes.drop n) with
          | .error fault => .error fault
          | .ok cs => .ok (c :: cs)

def decodeUtf8 (bytes : List UInt8) : Except Utf8Fault String :=
  match decodeCharsFrom bytes.length 0 bytes with
  | .error fault => .error fault
  | .ok cs => .ok (String.ofList cs)

end Text
end Troupe

import ResolverGen.Text.Quoted

/-!
# UTF-8

Reading and writing UTF-8. A reader that meets bytes that are no character tells where they stand,
how many they are and what is wrong with the first offending one.
-/
namespace ResolverGen.Text

abbrev Bytes := List UInt8

/-- What is wrong with a byte sequence. -/
inductive Utf8Fault where
  | startByte
  | continuationByte
  | endOfData
deriving DecidableEq, Repr

def Utf8Fault.text : Utf8Fault → String
  | startByte => "invalid start byte"
  | continuationByte => "invalid continuation byte"
  | endOfData => "unexpected end of data"

/-- Bytes that are no character. -/
structure Undecodable where
  fault : Utf8Fault
  position : Nat
  /-- How many bytes are at fault. -/
  length : Nat
  first : UInt8
deriving DecidableEq, Repr

def Undecodable.message (e : Undecodable) : String :=
  let place :=
    if e.length = 1 then
      "byte 0x" ++ String.ofList (hexDigits 2 e.first.toNat) ++ " in position " ++
        toString e.position
    else
      "bytes in position " ++ toString e.position ++ "-" ++ toString (e.position + e.length - 1)
  "'utf-8' codec can't decode " ++ place ++ ": " ++ e.fault.text

def isContinuation (b : UInt8) : Bool := 0x80 ≤ b && b < 0xC0

/-- Whether a second byte may follow a first one: no overlong form, no surrogate, nothing beyond the
last code point. -/
def followsFirst (a b : UInt8) : Bool :=
  isContinuation b && (a != 0xE0 || 0xA0 ≤ b) && (a != 0xED || b < 0xA0) &&
    (a != 0xF0 || 0x90 ≤ b) && (a != 0xF4 || b < 0x90)

/-- The low bits of a byte of a longer sequence. -/
def payload (b : UInt8) (width : Nat) : Nat := b.toNat % Nat.pow 2 width

/-- The characters of the bytes from a position on. -/
def decodeFrom (position : Nat) : Bytes → Except Undecodable (List Char)
  | [] => .ok []
  | a :: rest =>
    let fail (fault : Utf8Fault) (length : Nat) : Except Undecodable (List Char) :=
      .error ⟨fault, position, length, a⟩
    if a < 0x80 then do
      let cs ← decodeFrom (position + 1) rest
      return Char.ofNat a.toNat :: cs
    else if a < 0xC2 || 0xF5 ≤ a then fail .startByte 1
    else match rest with
      | [] => fail .endOfData 1
      | b :: rest =>
        if !followsFirst a b then fail .continuationByte 1
        else if a < 0xE0 then do
          let cs ← decodeFrom (position + 2) rest
          return Char.ofNat (payload a 5 * 64 + payload b 6) :: cs
        else match rest with
          | [] => fail .endOfData 2
          | c :: rest =>
            if !isContinuation c then fail .continuationByte 2
            else if a < 0xF0 then do
              let cs ← decodeFrom (position + 3) rest
              return Char.ofNat ((payload a 4 * 64 + payload b 6) * 64 + payload c 6) :: cs
            else match rest with
              | [] => fail .endOfData 3
              | d :: rest =>
                if !isContinuation d then fail .continuationByte 3
                else do
                  let cs ← decodeFrom (position + 4) rest
                  return Char.ofNat
                    (((payload a 3 * 64 + payload b 6) * 64 + payload c 6) * 64 + payload d 6) :: cs

def decodeUtf8 (bytes : Bytes) : Except Undecodable (List Char) := decodeFrom 0 bytes

/-- The bytes of a character. -/
def encodeChar (c : Char) : Bytes :=
  let n := c.toNat
  let tail (shift : Nat) : UInt8 := UInt8.ofNat (0x80 + n / Nat.pow 2 shift % 64)
  if n < 0x80 then [UInt8.ofNat n]
  else if n < 0x800 then [UInt8.ofNat (0xC0 + n / 64), tail 0]
  else if n < 0x10000 then [UInt8.ofNat (0xE0 + n / 4096), tail 6, tail 0]
  else [UInt8.ofNat (0xF0 + n / 262144), tail 12, tail 6, tail 0]

def encodeUtf8 (s : List Char) : Bytes := s.flatMap encodeChar

end ResolverGen.Text

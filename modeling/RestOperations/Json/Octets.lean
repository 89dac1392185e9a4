import RestOperations.Json.Reader
import RestOperations.Text.Utf16
import RestOperations.Text.Utf8

/-!
JSON from octets. The encoding is told by the byte order mark, or by where the zeros are among the
first octets, since a JSON text starts with an ASCII character.
-/

namespace RestOperations.Json

open Text

inductive Encoding
  | utf8
  | utf16 (e : Endian)
  | utf32 (e : Endian)
deriving DecidableEq, Repr

/-- The encoding, and the octets after the byte order mark. -/
def detectEncoding (bs : List UInt8) : Encoding × List UInt8 :=
  match bs with
  | 0x00 :: 0x00 :: 0xFE :: 0xFF :: rest => (.utf32 .big, rest)
  | 0xFF :: 0xFE :: 0x00 :: 0x00 :: rest => (.utf32 .little, rest)
  | 0xFE :: 0xFF :: rest => (.utf16 .big, rest)
  | 0xFF :: 0xFE :: rest => (.utf16 .little, rest)
  | 0xEF :: 0xBB :: 0xBF :: rest => (.utf8, rest)
  | a :: b :: c :: d :: _ =>
    if a = 0 then (if b = 0 then .utf32 .big else .utf16 .big, bs)
    else if b = 0 then (if c = 0 ∧ d = 0 then .utf32 .little else .utf16 .little, bs)
    else (.utf8, bs)
  | [a, b] => (if a = 0 then .utf16 .big else if b = 0 then .utf16 .little else .utf8, bs)
  | _ => (.utf8, bs)

/-- How many octets of a mark the position of a defect counts: the short mark is not counted. -/
def markLength (bs : List UInt8) : Nat :=
  match detectEncoding bs with
  | (.utf8, _) => 0
  | (_, rest) => bs.length - rest.length

structure DecodeError where
  encoding : Encoding
  reason : String
  position : Nat
  octets : List UInt8
deriving DecidableEq, Repr

def Encoding.name : Encoding → String
  | utf8 => "utf-8"
  | utf16 .little => "utf-16-le"
  | utf16 .big => "utf-16-be"
  | utf32 .little => "utf-32-le"
  | utf32 .big => "utf-32-be"

def DecodeError.message (e : DecodeError) : String :=
  "'" ++ e.encoding.name ++ "' codec can't decode " ++
    (match e.octets with
      | [b] => "byte 0x" ++ String.ofList (Text.hex 2 b.toNat) ++ " in position " ++
          toString e.position
      | bs => "bytes in position " ++ toString e.position ++ "-" ++
          toString (e.position + bs.length - 1)) ++
    ": " ++ e.reason

def defectText : Utf8.Defect → String
  | .invalidStart => "invalid start byte"
  | .invalidContinuation => "invalid continuation byte"
  | .unexpectedEnd => "unexpected end of data"

def unitDefectText : UnitDefect → String
  | .truncated => "truncated data"
  | .loneHalf => "illegal encoding"
  | .tooLarge => "code point not in range(0x110000)"

/-- Decodes the octets that follow `skipped` others. -/
def Encoding.decode (encoding : Encoding) (skipped : Nat) (bs : List UInt8) :
    Except DecodeError (List Char) :=
  match encoding with
  | utf8 => (Utf8.decodeHalves bs).mapError fun f =>
      ⟨utf8, defectText f.defect, skipped + f.position, f.octets⟩
  | utf16 e => (Utf16.decode true e bs).mapError fun f =>
      ⟨utf16 e, unitDefectText f.defect, skipped + f.position, f.octets⟩
  | utf32 e => (Utf32.decode e bs).mapError fun f =>
      ⟨utf32 e, unitDefectText f.defect, skipped + f.position, f.octets⟩

def decodeOctets (bs : List UInt8) : Except DecodeError String :=
  let (encoding, rest) := detectEncoding bs
  (encoding.decode (markLength bs) rest).map String.ofList

/-- Why octets could not be read. -/
inductive OctetError
  | encoding (e : DecodeError)
  | json (e : ReadError)
deriving DecidableEq, Repr

def OctetError.message : OctetError → String
  | encoding e => e.message
  | json e => e.message

def OctetError.isTooDeep : OctetError → Bool
  | encoding _ => false
  | json e => e.isTooDeep

def readOctets [Depth] (bs : List UInt8) : Except OctetError Value := do
  let s ← (decodeOctets bs).mapError .encoding
  (read s).mapError .json

end RestOperations.Json

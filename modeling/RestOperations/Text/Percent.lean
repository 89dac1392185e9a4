import RestOperations.Text.Hex

/-!
Percent encoding of a text within a URL: unreserved characters stand for themselves, and every other
character is written by its octets in UTF-8.
-/

namespace RestOperations.Text.Percent

def isUnreserved (c : Char) : Bool :=
  c.isAlphanum || c == '_' || c == '.' || c == '-' || c == '~'

def encodeOctet (b : UInt8) : List Char := '%' :: Text.hexUpper 2 b.toNat

def encodeChar (c : Char) : List Char :=
  if isUnreserved c then [c] else (String.utf8EncodeChar c).flatMap encodeOctet

def encodeChars (cs : List Char) : List Char := cs.flatMap encodeChar

def encode (s : String) : String := String.ofList (encodeChars s.toList)

@[simp] theorem encodeChars_nil : encodeChars [] = [] := rfl

@[simp] theorem encodeChars_cons (c : Char) (cs : List Char) :
    encodeChars (c :: cs) = encodeChar c ++ encodeChars cs := rfl

end RestOperations.Text.Percent

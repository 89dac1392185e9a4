import RestOperations.Text.Hex
import RestOperations.Text.Printable

/-!
A text between quotation marks, for messages. Single marks are used unless the text holds one and no
double mark; what cannot be shown is escaped.
-/

namespace RestOperations.Text

def quoteMark (cs : List Char) : Char := if cs.contains '\'' && !cs.contains '"' then '"' else '\''

/-- The escape of a character that is not shown, as short as its code point allows. -/
def escapeCode (c : Char) : List Char :=
  let n := c.toNat
  if n < 0x100 then '\\' :: 'x' :: hex 2 n
  else if n < 0x10000 then '\\' :: 'u' :: hex 4 n
  else '\\' :: 'U' :: hex 8 n

def quoteChar (mark c : Char) : List Char :=
  if c = mark ∨ c = '\\' then ['\\', c]
  else if c = '\n' then ['\\', 'n']
  else if c = '\r' then ['\\', 'r']
  else if c = '\t' then ['\\', 't']
  else if isPrintable c then [c]
  else escapeCode c

def quote (s : String) : String :=
  let mark := quoteMark s.toList
  String.ofList (mark :: s.toList.flatMap (quoteChar mark) ++ [mark])

/-- Octets between quotation marks after the letter b, the printable ones of ASCII as characters. -/
def quoteOctets (bs : List UInt8) : String :=
  let cs := bs.map fun b => Char.ofNat b.toNat
  let mark := quoteMark cs
  let show1 (c : Char) : List Char := if c.val < 127 then quoteChar mark c else escapeCode c
  String.ofList ('b' :: mark :: cs.flatMap show1 ++ [mark])

end RestOperations.Text

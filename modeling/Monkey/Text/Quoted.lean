import Monkey.Text.Utf8
import Monkey.Unicode.Shapeless
import Monkey.Unicode.Unassigned

/-
  Quoted text, which shows every character and every byte of a name on one line.
  The quote and the backslash get a backslash, a few controls have a letter, and any other
  character that cannot be seen by itself is written as its code point. A byte that belongs to no
  character is written as its number.
-/

namespace Monkey

namespace Quoted

/-- The character has no shape of its own, or none yet. -/
def isHidden (c : Char) : Bool :=
  Unicode.shapeless.contains c.toNat || Unicode.unassigned.contains c.toNat

/-- One character, as it is written between two quotes of this sort. -/
def escape (quote c : Char) : List Char :=
  if c = quote ∨ c = '\\' then ['\\', c]
  else if c = '\x00' then ['\\', '0']
  else if c = '\t' then ['\\', 't']
  else if c = '\n' then ['\\', 'n']
  else if c = '\r' then ['\\', 'r']
  else if isHidden c then
    ['\\', 'u', '\x7b'] ++ Nat.toDigits 16 c.toNat ++ ['\x7d']
  else [c]

/-- A byte as two capital hexadecimal digits. -/
def escapeByte (b : UInt8) : List Char :=
  ['\\', 'x'] ++ ((Nat.toDigits 16 b.toNat).leftpad 2 '0').map Char.toUpper

/-- A character between single quotes. -/
def ofChar (c : Char) : String :=
  String.ofList (['\x27'] ++ escape '\x27' c ++ ['\x27'])

/-- Bytes between double quotes. -/
def ofBytes (bytes : Bytes) : String :=
  String.ofList (['\x22'] ++ ((Utf8.pieces bytes).flatMap fun
    | .char c => escape '\x22' c
    | .malformed bs => bs.flatMap escapeByte) ++ ['\x22'])

end Quoted

end Monkey

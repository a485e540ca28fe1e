import Linkshelf.Text.Lowercase
import Linkshelf.Text.PrintTable

/-! Text shown between double quotes, with what cannot be seen escaped. -/
namespace Linkshelf.Text

/-- Shown as it is inside quotes. -/
def isPlain (c : Char) : Bool :=
  if c.toNat < 128 then 32 ≤ c.toNat && c.toNat < 127 && c != '"' && c != '\\'
  else !inRanges graphemeExtendRanges c && !inRanges unprintableRanges c

def quotedChar (c : Char) : List Char :=
  if c = '"' then ['\\', '"']
  else if c = '\\' then ['\\', '\\']
  else if c = '\n' then ['\\', 'n']
  else if c = '\r' then ['\\', 'r']
  else if c = '\t' then ['\\', 't']
  else if c = '\x00' then ['\\', '0']
  else if isPlain c then [c]
  else ['\\', 'u', '\x7b'] ++ Nat.toDigits 16 c.toNat ++ ['\x7d']

def quoted (s : String) : String :=
  .ofList (['"'] ++ s.toList.flatMap quotedChar ++ ['"'])

end Linkshelf.Text

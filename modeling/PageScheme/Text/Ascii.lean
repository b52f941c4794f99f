/-!
# Capitals of ASCII

Keywords of markup and of selectors are recognized whether they are written in capitals or not. Only
the letters of ASCII count for that; all other characters stay as they are.
-/
namespace PageScheme.Text

def smallAscii (c : Char) : Char := if 'A' ≤ c && c ≤ 'Z' then Char.ofNat (c.toNat + 0x20) else c

def lowerAscii (s : String) : String := String.ofList (s.toList.map smallAscii)

end PageScheme.Text

import ScriptFront.CodeSet.Basic

/-!
# Characters with the property White_Space

The blanks between tokens: the twenty-five code points with the Unicode property White_Space. The
zero-width space U+200B and the byte-order mark U+FEFF do not have it.
-/

namespace ScriptFront.CodeSet

/-- The code points with the property White_Space. -/
def whiteSpace : CodeSet :=
  ⟨[(0x9, 0xD), (0x20, 0x20), (0x85, 0x85), (0xA0, 0xA0), (0x1680, 0x1680), (0x2000, 0x200A),
    (0x2028, 0x2029), (0x202F, 0x202F), (0x205F, 0x205F), (0x3000, 0x3000)]⟩

end ScriptFront.CodeSet

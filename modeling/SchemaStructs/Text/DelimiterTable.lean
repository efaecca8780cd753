import SchemaStructs.Text.Range

/-! # Characters that are compatible with a delimiter of an address -/

namespace SchemaStructs.Text

/-- Characters from U+0080 on whose compatibility form holds one of the characters /, ?, #, @ and
the colon. -/
def delimiterLookalikes : List Range := [
  (0x2047, 0x2049), (0x2100, 0x2101), (0x2105, 0x2106), (0x2a74, 0x2a74), (0xfe13, 0xfe13),
  (0xfe16, 0xfe16), (0xfe55, 0xfe56), (0xfe5f, 0xfe5f), (0xfe6b, 0xfe6b), (0xff03, 0xff03),
  (0xff0f, 0xff0f), (0xff1a, 0xff1a), (0xff1f, 0xff20)]

end SchemaStructs.Text

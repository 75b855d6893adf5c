/-!
# Ascii — names for single bytes

The bytes that delimit the parts of a JSON text, for use in patterns.
-/

namespace RestTemplates

namespace Ascii

@[match_pattern] abbrev quote : UInt8 := 0x22

@[match_pattern] abbrev plus : UInt8 := 0x2B

@[match_pattern] abbrev comma : UInt8 := 0x2C

@[match_pattern] abbrev minus : UInt8 := 0x2D

@[match_pattern] abbrev dot : UInt8 := 0x2E

@[match_pattern] abbrev slash : UInt8 := 0x2F

@[match_pattern] abbrev zero : UInt8 := 0x30

@[match_pattern] abbrev colon : UInt8 := 0x3A

@[match_pattern] abbrev upperE : UInt8 := 0x45

@[match_pattern] abbrev openBracket : UInt8 := 0x5B

@[match_pattern] abbrev backslash : UInt8 := 0x5C

@[match_pattern] abbrev closeBracket : UInt8 := 0x5D

@[match_pattern] abbrev b : UInt8 := 0x62

@[match_pattern] abbrev e : UInt8 := 0x65

@[match_pattern] abbrev f : UInt8 := 0x66

@[match_pattern] abbrev n : UInt8 := 0x6E

@[match_pattern] abbrev r : UInt8 := 0x72

@[match_pattern] abbrev t : UInt8 := 0x74

@[match_pattern] abbrev u : UInt8 := 0x75

@[match_pattern] abbrev openBrace : UInt8 := 0x7B

@[match_pattern] abbrev closeBrace : UInt8 := 0x7D

def isDigit (byte : UInt8) : Bool := 0x30 ≤ byte && byte ≤ 0x39

/-- The bytes of a text in ASCII. -/
def bytes (text : String) : List UInt8 := text.toList.map fun c => UInt8.ofNat c.toNat

end Ascii

end RestTemplates

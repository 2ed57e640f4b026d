/-!
Further names of characters: those of control characters, which have no other name, abbreviations,
and corrected names.
-/
namespace ResourceQuery.Text

/-- The further names with their code points. -/
def nameAliases : List (String × Nat) :=
  [("NUL", 0x0), ("NULL", 0x0), ("SOH", 0x1), ("START OF HEADING", 0x1), ("START OF TEXT", 0x2),
   ("STX", 0x2), ("END OF TEXT", 0x3), ("ETX", 0x3), ("END OF TRANSMISSION", 0x4), ("EOT", 0x4),
   ("ENQ", 0x5), ("ENQUIRY", 0x5), ("ACK", 0x6), ("ACKNOWLEDGE", 0x6), ("ALERT", 0x7), ("BEL", 0x7),
   ("BACKSPACE", 0x8), ("BS", 0x8), ("CHARACTER TABULATION", 0x9), ("HORIZONTAL TABULATION", 0x9),
   ("HT", 0x9), ("TAB", 0x9), ("END OF LINE", 0xA), ("EOL", 0xA), ("LF", 0xA), ("LINE FEED", 0xA),
   ("NEW LINE", 0xA), ("NL", 0xA), ("LINE TABULATION", 0xB), ("VERTICAL TABULATION", 0xB),
   ("VT", 0xB), ("FF", 0xC), ("FORM FEED", 0xC), ("CARRIAGE RETURN", 0xD), ("CR", 0xD),
   ("LOCKING-SHIFT ONE", 0xE), ("SHIFT OUT", 0xE), ("SO", 0xE), ("LOCKING-SHIFT ZERO", 0xF),
   ("SHIFT IN", 0xF), ("SI", 0xF), ("DATA LINK ESCAPE", 0x10), ("DLE", 0x10), ("DC1", 0x11),
   ("DEVICE CONTROL ONE", 0x11), ("DC2", 0x12), ("DEVICE CONTROL TWO", 0x12), ("DC3", 0x13),
   ("DEVICE CONTROL THREE", 0x13), ("DC4", 0x14), ("DEVICE CONTROL FOUR", 0x14), ("NAK", 0x15),
   ("NEGATIVE ACKNOWLEDGE", 0x15), ("SYN", 0x16), ("SYNCHRONOUS IDLE", 0x16),
   ("END OF TRANSMISSION BLOCK", 0x17), ("ETB", 0x17), ("CAN", 0x18), ("CANCEL", 0x18),
   ("END OF MEDIUM", 0x19), ("EOM", 0x19), ("SUB", 0x1A), ("SUBSTITUTE", 0x1A), ("ESC", 0x1B),
   ("ESCAPE", 0x1B), ("FILE SEPARATOR", 0x1C), ("FS", 0x1C), ("INFORMATION SEPARATOR FOUR", 0x1C),
   ("GROUP SEPARATOR", 0x1D), ("GS", 0x1D), ("INFORMATION SEPARATOR THREE", 0x1D),
   ("INFORMATION SEPARATOR TWO", 0x1E), ("RECORD SEPARATOR", 0x1E), ("RS", 0x1E),
   ("INFORMATION SEPARATOR ONE", 0x1F), ("UNIT SEPARATOR", 0x1F), ("US", 0x1F), ("SP", 0x20),
   ("DEL", 0x7F), ("DELETE", 0x7F), ("PAD", 0x80), ("PADDING CHARACTER", 0x80),
   ("HIGH OCTET PRESET", 0x81), ("HOP", 0x81), ("BPH", 0x82), ("BREAK PERMITTED HERE", 0x82),
   ("NBH", 0x83), ("NO BREAK HERE", 0x83), ("IND", 0x84), ("INDEX", 0x84), ("NEL", 0x85),
   ("NEXT LINE", 0x85), ("SSA", 0x86), ("START OF SELECTED AREA", 0x86),
   ("END OF SELECTED AREA", 0x87), ("ESA", 0x87), ("CHARACTER TABULATION SET", 0x88),
   ("HORIZONTAL TABULATION SET", 0x88), ("HTS", 0x88),
   ("CHARACTER TABULATION WITH JUSTIFICATION", 0x89),
   ("HORIZONTAL TABULATION WITH JUSTIFICATION", 0x89), ("HTJ", 0x89), ("LINE TABULATION SET", 0x8A),
   ("VERTICAL TABULATION SET", 0x8A), ("VTS", 0x8A), ("PARTIAL LINE DOWN", 0x8B),
   ("PARTIAL LINE FORWARD", 0x8B), ("PLD", 0x8B), ("PARTIAL LINE BACKWARD", 0x8C),
   ("PARTIAL LINE UP", 0x8C), ("PLU", 0x8C), ("REVERSE INDEX", 0x8D), ("REVERSE LINE FEED", 0x8D),
   ("RI", 0x8D), ("SINGLE SHIFT TWO", 0x8E), ("SINGLE-SHIFT-2", 0x8E), ("SS2", 0x8E),
   ("SINGLE SHIFT THREE", 0x8F), ("SINGLE-SHIFT-3", 0x8F), ("SS3", 0x8F), ("DCS", 0x90),
   ("DEVICE CONTROL STRING", 0x90), ("PRIVATE USE ONE", 0x91), ("PRIVATE USE-1", 0x91),
   ("PU1", 0x91), ("PRIVATE USE TWO", 0x92), ("PRIVATE USE-2", 0x92), ("PU2", 0x92),
   ("SET TRANSMIT STATE", 0x93), ("STS", 0x93), ("CANCEL CHARACTER", 0x94), ("CCH", 0x94),
   ("MESSAGE WAITING", 0x95), ("MW", 0x95), ("SPA", 0x96), ("START OF GUARDED AREA", 0x96),
   ("START OF PROTECTED AREA", 0x96), ("END OF GUARDED AREA", 0x97),
   ("END OF PROTECTED AREA", 0x97), ("EPA", 0x97), ("SOS", 0x98), ("START OF STRING", 0x98),
   ("SGC", 0x99), ("SINGLE GRAPHIC CHARACTER INTRODUCER", 0x99), ("SCI", 0x9A),
   ("SINGLE CHARACTER INTRODUCER", 0x9A), ("CONTROL SEQUENCE INTRODUCER", 0x9B), ("CSI", 0x9B),
   ("ST", 0x9C), ("STRING TERMINATOR", 0x9C), ("OPERATING SYSTEM COMMAND", 0x9D), ("OSC", 0x9D),
   ("PM", 0x9E), ("PRIVACY MESSAGE", 0x9E), ("APC", 0x9F), ("APPLICATION PROGRAM COMMAND", 0x9F),
   ("NBSP", 0xA0), ("SHY", 0xAD), ("LATIN CAPITAL LETTER GHA", 0x1A2),
   ("LATIN SMALL LETTER GHA", 0x1A3), ("CGJ", 0x34F), ("ALM", 0x61C),
   ("SYRIAC SUBLINEAR COLON SKEWED LEFT", 0x709), ("KANNADA LETTER LLLA", 0xCDE),
   ("LAO LETTER FO FON", 0xE9D), ("LAO LETTER FO FAY", 0xE9F), ("LAO LETTER RO", 0xEA3),
   ("LAO LETTER LO", 0xEA5), ("TIBETAN MARK BKA- SHOG GI MGO RGYAN", 0xFD0),
   ("HANGUL JONGSEONG YESIEUNG-KIYEOK", 0x11EC), ("HANGUL JONGSEONG YESIEUNG-SSANGKIYEOK", 0x11ED),
   ("HANGUL JONGSEONG SSANGYESIEUNG", 0x11EE), ("HANGUL JONGSEONG YESIEUNG-KHIEUKH", 0x11EF),
   ("FVS1", 0x180B), ("FVS2", 0x180C), ("FVS3", 0x180D), ("MVS", 0x180E), ("FVS4", 0x180F),
   ("ZWSP", 0x200B), ("ZWNJ", 0x200C), ("ZWJ", 0x200D), ("LRM", 0x200E), ("RLM", 0x200F),
   ("LRE", 0x202A), ("RLE", 0x202B), ("PDF", 0x202C), ("LRO", 0x202D), ("RLO", 0x202E),
   ("NNBSP", 0x202F), ("MMSP", 0x205F), ("WJ", 0x2060), ("LRI", 0x2066), ("RLI", 0x2067),
   ("FSI", 0x2068), ("PDI", 0x2069), ("WEIERSTRASS ELLIPTIC FUNCTION", 0x2118),
   ("MICR ON US SYMBOL", 0x2448), ("MICR DASH SYMBOL", 0x2449),
   ("LEFTWARDS TRIANGLE-HEADED ARROW WITH DOUBLE VERTICAL STROKE", 0x2B7A),
   ("RIGHTWARDS TRIANGLE-HEADED ARROW WITH DOUBLE VERTICAL STROKE", 0x2B7C),
   ("YI SYLLABLE ITERATION MARK", 0xA015), ("MYANMAR LETTER KHAMTI LLA", 0xAA6E),
   ("PRESENTATION FORM FOR VERTICAL RIGHT WHITE LENTICULAR BRACKET", 0xFE18), ("BOM", 0xFEFF),
   ("BYTE ORDER MARK", 0xFEFF), ("ZWNBSP", 0xFEFF), ("CUNEIFORM SIGN NU11 TENU", 0x122D4),
   ("CUNEIFORM SIGN NU11 OVER NU11 BUR OVER BUR", 0x122D5),
   ("MEDEFAIDRIN CAPITAL LETTER H", 0x16E56), ("MEDEFAIDRIN CAPITAL LETTER NG", 0x16E57),
   ("MEDEFAIDRIN SMALL LETTER H", 0x16E76), ("MEDEFAIDRIN SMALL LETTER NG", 0x16E77),
   ("HENTAIGANA LETTER E-1", 0x1B001),
   ("BYZANTINE MUSICAL SYMBOL FTHORA SKLIRON CHROMA VASIS", 0x1D0C5)]

end ResourceQuery.Text

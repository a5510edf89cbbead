import GitPractice.Text.Ranges

/-!
# Names of characters

Characters have names in the Unicode standard, such as `BULLET`, which may be
written in small letters too. Those of common signs and letters are known here,
and the systematic names of ideographs and of Korean syllables.
-/

namespace GitPractice
namespace Text

/-- Names by how they begin. -/
def characterNames : List (String × List String) :=
  [("LATIN SMALL LETTER ",
     ["A", "B", "C", "D", "E", "F", "G", "H", "I", "J", "K", "L", "M", "N", "O", "P", "Q", "R", "S", "T",
      "U", "V", "W", "X", "Y", "Z", "SHARP S", "A WITH GRAVE", "A WITH ACUTE", "A WITH CIRCUMFLEX",
      "A WITH TILDE", "A WITH DIAERESIS", "A WITH RING ABOVE", "AE", "C WITH CEDILLA", "E WITH GRAVE",
      "E WITH ACUTE", "E WITH CIRCUMFLEX", "E WITH DIAERESIS", "I WITH GRAVE", "I WITH ACUTE",
      "I WITH CIRCUMFLEX", "I WITH DIAERESIS", "ETH", "N WITH TILDE", "O WITH GRAVE", "O WITH ACUTE",
      "O WITH CIRCUMFLEX", "O WITH TILDE", "O WITH DIAERESIS", "O WITH STROKE", "U WITH GRAVE",
      "U WITH ACUTE", "U WITH CIRCUMFLEX", "U WITH DIAERESIS", "Y WITH ACUTE", "THORN", "Y WITH DIAERESIS",
      "A WITH MACRON", "A WITH BREVE", "A WITH OGONEK", "C WITH ACUTE", "C WITH CIRCUMFLEX",
      "C WITH DOT ABOVE", "C WITH CARON", "D WITH CARON", "D WITH STROKE", "E WITH MACRON", "E WITH BREVE",
      "E WITH DOT ABOVE", "E WITH OGONEK", "E WITH CARON", "G WITH CIRCUMFLEX", "G WITH BREVE",
      "G WITH DOT ABOVE", "G WITH CEDILLA", "H WITH CIRCUMFLEX", "H WITH STROKE", "I WITH TILDE",
      "I WITH MACRON", "I WITH BREVE", "I WITH OGONEK", "DOTLESS I", "J WITH CIRCUMFLEX", "K WITH CEDILLA",
      "KRA", "L WITH ACUTE", "L WITH CEDILLA", "L WITH CARON", "L WITH MIDDLE DOT", "L WITH STROKE",
      "N WITH ACUTE", "N WITH CEDILLA", "N WITH CARON", "N PRECEDED BY APOSTROPHE", "ENG", "O WITH MACRON",
      "O WITH BREVE", "O WITH DOUBLE ACUTE", "R WITH ACUTE", "R WITH CEDILLA", "R WITH CARON",
      "S WITH ACUTE", "S WITH CIRCUMFLEX", "S WITH CEDILLA", "S WITH CARON", "T WITH CEDILLA",
      "T WITH CARON", "T WITH STROKE", "U WITH TILDE", "U WITH MACRON", "U WITH BREVE", "U WITH RING ABOVE",
      "U WITH DOUBLE ACUTE", "U WITH OGONEK", "W WITH CIRCUMFLEX", "Y WITH CIRCUMFLEX", "Z WITH ACUTE",
      "Z WITH DOT ABOVE", "Z WITH CARON", "LONG S", "GHA"]),
   ("LATIN CAPITAL LETTER ",
     ["A", "B", "C", "D", "E", "F", "G", "H", "I", "J", "K", "L", "M", "N", "O", "P", "Q", "R", "S", "T",
      "U", "V", "W", "X", "Y", "Z", "A WITH GRAVE", "A WITH ACUTE", "A WITH CIRCUMFLEX", "A WITH TILDE",
      "A WITH DIAERESIS", "A WITH RING ABOVE", "AE", "C WITH CEDILLA", "E WITH GRAVE", "E WITH ACUTE",
      "E WITH CIRCUMFLEX", "E WITH DIAERESIS", "I WITH GRAVE", "I WITH ACUTE", "I WITH CIRCUMFLEX",
      "I WITH DIAERESIS", "ETH", "N WITH TILDE", "O WITH GRAVE", "O WITH ACUTE", "O WITH CIRCUMFLEX",
      "O WITH TILDE", "O WITH DIAERESIS", "O WITH STROKE", "U WITH GRAVE", "U WITH ACUTE",
      "U WITH CIRCUMFLEX", "U WITH DIAERESIS", "Y WITH ACUTE", "THORN", "A WITH MACRON", "A WITH BREVE",
      "A WITH OGONEK", "C WITH ACUTE", "C WITH CIRCUMFLEX", "C WITH DOT ABOVE", "C WITH CARON",
      "D WITH CARON", "D WITH STROKE", "E WITH MACRON", "E WITH BREVE", "E WITH DOT ABOVE", "E WITH OGONEK",
      "E WITH CARON", "G WITH CIRCUMFLEX", "G WITH BREVE", "G WITH DOT ABOVE", "G WITH CEDILLA",
      "H WITH CIRCUMFLEX", "H WITH STROKE", "I WITH TILDE", "I WITH MACRON", "I WITH BREVE",
      "I WITH OGONEK", "I WITH DOT ABOVE", "J WITH CIRCUMFLEX", "K WITH CEDILLA", "L WITH ACUTE",
      "L WITH CEDILLA", "L WITH CARON", "L WITH MIDDLE DOT", "L WITH STROKE", "N WITH ACUTE",
      "N WITH CEDILLA", "N WITH CARON", "ENG", "O WITH MACRON", "O WITH BREVE", "O WITH DOUBLE ACUTE",
      "R WITH ACUTE", "R WITH CEDILLA", "R WITH CARON", "S WITH ACUTE", "S WITH CIRCUMFLEX",
      "S WITH CEDILLA", "S WITH CARON", "T WITH CEDILLA", "T WITH CARON", "T WITH STROKE", "U WITH TILDE",
      "U WITH MACRON", "U WITH BREVE", "U WITH RING ABOVE", "U WITH DOUBLE ACUTE", "U WITH OGONEK",
      "W WITH CIRCUMFLEX", "Y WITH CIRCUMFLEX", "Y WITH DIAERESIS", "Z WITH ACUTE", "Z WITH DOT ABOVE",
      "Z WITH CARON"]),
   ("GREEK SMALL LETTER ",
     ["ALPHA", "BETA", "GAMMA", "DELTA", "EPSILON", "ZETA", "ETA", "THETA", "IOTA", "KAPPA", "LAMDA", "MU",
      "NU", "XI", "OMICRON", "PI", "RHO", "FINAL SIGMA", "SIGMA", "TAU", "UPSILON", "PHI", "CHI", "PSI",
      "OMEGA"]),
   ("GREEK CAPITAL LETTER ",
     ["ALPHA", "BETA", "GAMMA", "DELTA", "EPSILON", "ZETA", "ETA", "THETA", "IOTA", "KAPPA", "LAMDA", "MU",
      "NU", "XI", "OMICRON", "PI", "RHO", "SIGMA", "TAU", "UPSILON", "PHI", "CHI", "PSI", "OMEGA"]),
   ("CYRILLIC SMALL LETTER ",
     ["A", "BE", "VE", "GHE", "DE", "IE", "ZHE", "ZE", "I", "SHORT I", "KA", "EL", "EM", "EN", "O", "PE",
      "ER", "ES", "TE", "U", "EF", "HA", "TSE", "CHE", "SHA", "SHCHA", "HARD SIGN", "YERU", "SOFT SIGN",
      "E", "YU", "YA"]),
   ("CYRILLIC CAPITAL LETTER ",
     ["A", "BE", "VE", "GHE", "DE", "IE", "ZHE", "ZE", "I", "SHORT I", "KA", "EL", "EM", "EN", "O", "PE",
      "ER", "ES", "TE", "U", "EF", "HA", "TSE", "CHE", "SHA", "SHCHA", "HARD SIGN", "YERU", "SOFT SIGN",
      "E", "YU", "YA"]),
   ("REGIONAL INDICATOR SYMBOL LETTER ",
     ["A", "B", "C", "D", "E", "F", "G", "H", "I", "J", "K", "L", "M", "N", "O", "P", "Q", "R", "S", "T",
      "U", "V", "W", "X", "Y", "Z"]),
   ("DIGIT ",
     ["ZERO", "ONE", "TWO", "THREE", "FOUR", "FIVE", "SIX", "SEVEN", "EIGHT", "NINE"]),
   ("BLACK ",
     ["RIGHT-POINTING DOUBLE TRIANGLE", "LEFT-POINTING DOUBLE TRIANGLE", "UP-POINTING DOUBLE TRIANGLE",
      "DOWN-POINTING DOUBLE TRIANGLE", "RIGHT-POINTING DOUBLE TRIANGLE WITH VERTICAL BAR",
      "LEFT-POINTING DOUBLE TRIANGLE WITH VERTICAL BAR", "RIGHT-POINTING TRIANGLE WITH DOUBLE VERTICAL BAR",
      "SQUARE", "UP-POINTING TRIANGLE", "RIGHT-POINTING TRIANGLE", "DOWN-POINTING TRIANGLE",
      "LEFT-POINTING TRIANGLE", "DIAMOND", "CIRCLE", "SUN WITH RAYS", "STAR", "TELEPHONE", "SMILING FACE",
      "CHESS KING", "CHESS QUEEN", "CHESS ROOK", "CHESS BISHOP", "CHESS KNIGHT", "CHESS PAWN", "SPADE SUIT",
      "CLUB SUIT", "HEART SUIT", "DIAMOND SUIT", "UNIVERSAL RECYCLING SYMBOL", "SCISSORS",
      "QUESTION MARK ORNAMENT", "RIGHTWARDS ARROW"]),
   ("WHITE ",
     ["SQUARE", "UP-POINTING TRIANGLE", "RIGHT-POINTING TRIANGLE", "DOWN-POINTING TRIANGLE",
      "LEFT-POINTING TRIANGLE", "DIAMOND", "CIRCLE", "STAR", "TELEPHONE", "UP POINTING INDEX",
      "FROWNING FACE", "SMILING FACE", "SUN WITH RAYS", "CHESS KING", "CHESS QUEEN", "CHESS ROOK",
      "CHESS BISHOP", "CHESS KNIGHT", "CHESS PAWN", "HEART SUIT", "DIAMOND SUIT", "SPADE SUIT", "CLUB SUIT",
      "HEAVY CHECK MARK", "QUESTION MARK ORNAMENT", "EXCLAMATION MARK ORNAMENT", "MEDIUM STAR"]),
   ("SMILING FACE ",
     ["WITH OPEN MOUTH", "WITH OPEN MOUTH AND SMILING EYES", "WITH OPEN MOUTH AND COLD SWEAT",
      "WITH OPEN MOUTH AND TIGHTLY-CLOSED EYES", "WITH HALO", "WITH HORNS", "WITH SMILING EYES",
      "WITH HEART-SHAPED EYES", "WITH SUNGLASSES"]),
   ("FACE ",
     ["WITH TEARS OF JOY", "SAVOURING DELICIOUS FOOD", "WITH COLD SWEAT", "THROWING A KISS",
      "WITH STUCK-OUT TONGUE", "WITH STUCK-OUT TONGUE AND WINKING EYE",
      "WITH STUCK-OUT TONGUE AND TIGHTLY-CLOSED EYES", "WITH LOOK OF TRIUMPH", "WITH OPEN MOUTH",
      "WITH OPEN MOUTH AND COLD SWEAT", "SCREAMING IN FEAR", "WITHOUT MOUTH", "WITH MEDICAL MASK",
      "WITH ROLLING EYES", "WITH NO GOOD GESTURE", "WITH OK GESTURE"]),
   ("",
     ["SPACE", "EXCLAMATION MARK", "QUOTATION MARK", "NUMBER SIGN", "DOLLAR SIGN", "PERCENT SIGN",
      "AMPERSAND", "APOSTROPHE", "LEFT PARENTHESIS", "RIGHT PARENTHESIS", "ASTERISK", "PLUS SIGN", "COMMA",
      "HYPHEN-MINUS", "FULL STOP", "SOLIDUS", "COLON", "SEMICOLON", "LESS-THAN SIGN", "EQUALS SIGN",
      "GREATER-THAN SIGN", "QUESTION MARK", "COMMERCIAL AT", "LEFT SQUARE BRACKET", "REVERSE SOLIDUS",
      "RIGHT SQUARE BRACKET", "CIRCUMFLEX ACCENT", "LOW LINE", "GRAVE ACCENT", "LEFT CURLY BRACKET",
      "VERTICAL LINE", "RIGHT CURLY BRACKET", "TILDE", "NO-BREAK SPACE", "INVERTED EXCLAMATION MARK",
      "CENT SIGN", "POUND SIGN", "CURRENCY SIGN", "YEN SIGN", "BROKEN BAR", "SECTION SIGN", "DIAERESIS",
      "COPYRIGHT SIGN", "FEMININE ORDINAL INDICATOR", "LEFT-POINTING DOUBLE ANGLE QUOTATION MARK",
      "NOT SIGN", "SOFT HYPHEN", "REGISTERED SIGN", "MACRON", "DEGREE SIGN", "PLUS-MINUS SIGN",
      "SUPERSCRIPT TWO", "SUPERSCRIPT THREE", "ACUTE ACCENT", "MICRO SIGN", "PILCROW SIGN", "MIDDLE DOT",
      "CEDILLA", "SUPERSCRIPT ONE", "MASCULINE ORDINAL INDICATOR",
      "RIGHT-POINTING DOUBLE ANGLE QUOTATION MARK", "VULGAR FRACTION ONE QUARTER",
      "VULGAR FRACTION ONE HALF", "VULGAR FRACTION THREE QUARTERS", "INVERTED QUESTION MARK",
      "MULTIPLICATION SIGN", "DIVISION SIGN", "LATIN CAPITAL LIGATURE IJ", "LATIN SMALL LIGATURE IJ",
      "LATIN CAPITAL LIGATURE OE", "LATIN SMALL LIGATURE OE", "EN SPACE", "EM SPACE", "THREE-PER-EM SPACE",
      "FOUR-PER-EM SPACE", "SIX-PER-EM SPACE", "FIGURE SPACE", "PUNCTUATION SPACE", "THIN SPACE",
      "HAIR SPACE", "ZERO WIDTH SPACE", "ZERO WIDTH NON-JOINER", "ZERO WIDTH JOINER", "HYPHEN",
      "NON-BREAKING HYPHEN", "FIGURE DASH", "EN DASH", "EM DASH", "HORIZONTAL BAR",
      "LEFT SINGLE QUOTATION MARK", "RIGHT SINGLE QUOTATION MARK", "SINGLE LOW-9 QUOTATION MARK",
      "SINGLE HIGH-REVERSED-9 QUOTATION MARK", "LEFT DOUBLE QUOTATION MARK", "RIGHT DOUBLE QUOTATION MARK",
      "DOUBLE LOW-9 QUOTATION MARK", "DOUBLE HIGH-REVERSED-9 QUOTATION MARK", "DAGGER", "DOUBLE DAGGER",
      "BULLET", "TRIANGULAR BULLET", "ONE DOT LEADER", "TWO DOT LEADER", "HORIZONTAL ELLIPSIS",
      "PER MILLE SIGN", "PRIME", "DOUBLE PRIME", "SINGLE LEFT-POINTING ANGLE QUOTATION MARK",
      "SINGLE RIGHT-POINTING ANGLE QUOTATION MARK", "REFERENCE MARK", "DOUBLE EXCLAMATION MARK",
      "INTERROBANG", "FRACTION SLASH", "WORD JOINER", "EURO SIGN", "INDIAN RUPEE SIGN", "BITCOIN SIGN",
      "DEGREE CELSIUS", "EULER CONSTANT", "SCRUPLE", "DEGREE FAHRENHEIT", "NUMERO SIGN",
      "SOUND RECORDING COPYRIGHT", "SCRIPT CAPITAL P", "DOUBLE-STRUCK CAPITAL P", "DOUBLE-STRUCK CAPITAL Q",
      "SCRIPT CAPITAL R", "BLACK-LETTER CAPITAL R", "DOUBLE-STRUCK CAPITAL R", "PRESCRIPTION TAKE",
      "SERVICE MARK", "TELEPHONE SIGN", "TRADE MARK SIGN", "VERSICLE", "DOUBLE-STRUCK CAPITAL Z",
      "OUNCE SIGN", "OHM SIGN", "KELVIN SIGN", "ANGSTROM SIGN", "ALEF SYMBOL", "INFORMATION SOURCE",
      "LEFTWARDS ARROW", "UPWARDS ARROW", "RIGHTWARDS ARROW", "DOWNWARDS ARROW", "LEFT RIGHT ARROW",
      "UP DOWN ARROW", "NORTH WEST ARROW", "NORTH EAST ARROW", "SOUTH EAST ARROW", "SOUTH WEST ARROW",
      "LEFTWARDS ARROW WITH HOOK", "RIGHTWARDS ARROW WITH HOOK", "LEFTWARDS DOUBLE ARROW",
      "UPWARDS DOUBLE ARROW", "RIGHTWARDS DOUBLE ARROW", "DOWNWARDS DOUBLE ARROW",
      "LEFT RIGHT DOUBLE ARROW", "UP DOWN DOUBLE ARROW", "FOR ALL", "COMPLEMENT", "PARTIAL DIFFERENTIAL",
      "THERE EXISTS", "THERE DOES NOT EXIST", "EMPTY SET", "INCREMENT", "NABLA", "ELEMENT OF",
      "NOT AN ELEMENT OF", "SMALL ELEMENT OF", "CONTAINS AS MEMBER", "DOES NOT CONTAIN AS MEMBER",
      "N-ARY PRODUCT", "N-ARY COPRODUCT", "N-ARY SUMMATION", "MINUS SIGN", "MINUS-OR-PLUS SIGN",
      "DIVISION SLASH", "SET MINUS", "ASTERISK OPERATOR", "RING OPERATOR", "BULLET OPERATOR", "SQUARE ROOT",
      "CUBE ROOT", "FOURTH ROOT", "PROPORTIONAL TO", "INFINITY", "LOGICAL AND", "LOGICAL OR",
      "INTERSECTION", "UNION", "INTEGRAL", "THEREFORE", "BECAUSE", "ALMOST EQUAL TO", "NOT EQUAL TO",
      "IDENTICAL TO", "NOT IDENTICAL TO", "STRICTLY EQUIVALENT TO", "LESS-THAN OR EQUAL TO",
      "GREATER-THAN OR EQUAL TO", "SUBSET OF", "SUPERSET OF", "NOT A SUBSET OF", "NOT A SUPERSET OF",
      "SUBSET OF OR EQUAL TO", "SUPERSET OF OR EQUAL TO", "DIAMETER SIGN", "ELECTRIC ARROW", "HOUSE",
      "UP ARROWHEAD", "WATCH", "HOURGLASS", "PLACE OF INTEREST SIGN", "OPTION KEY", "ERASE TO THE RIGHT",
      "ERASE TO THE LEFT", "RETURN SYMBOL", "EJECT SYMBOL", "ALARM CLOCK", "STOPWATCH", "TIMER CLOCK",
      "HOURGLASS WITH FLOWING SAND", "BOX DRAWINGS LIGHT HORIZONTAL", "BOX DRAWINGS HEAVY HORIZONTAL",
      "BOX DRAWINGS LIGHT VERTICAL", "BOX DRAWINGS HEAVY VERTICAL", "FULL BLOCK", "LIGHT SHADE",
      "MEDIUM SHADE", "DARK SHADE", "LOZENGE", "CLOUD", "UMBRELLA", "SNOWMAN", "COMET", "BALLOT BOX",
      "BALLOT BOX WITH CHECK", "BALLOT BOX WITH X", "SALTIRE", "UMBRELLA WITH RAIN DROPS", "HOT BEVERAGE",
      "SHAMROCK", "SKULL AND CROSSBONES", "CAUTION SIGN", "RADIOACTIVE SIGN", "BIOHAZARD SIGN", "YIN YANG",
      "FEMALE SIGN", "EARTH", "MALE SIGN", "ARIES", "TAURUS", "GEMINI", "CANCER", "LEO", "VIRGO", "LIBRA",
      "SCORPIUS", "SAGITTARIUS", "CAPRICORN", "AQUARIUS", "PISCES", "QUARTER NOTE", "EIGHTH NOTE",
      "BEAMED EIGHTH NOTES", "BEAMED SIXTEENTH NOTES", "MUSIC FLAT SIGN", "MUSIC NATURAL SIGN",
      "MUSIC SHARP SIGN", "HAMMER AND PICK", "ANCHOR", "CROSSED SWORDS", "STAFF OF AESCULAPIUS", "SCALES",
      "ALEMBIC", "FLOWER", "GEAR", "WARNING SIGN", "HIGH VOLTAGE SIGN", "SOCCER BALL", "BASEBALL",
      "SNOWMAN WITHOUT SNOW", "NO ENTRY", "AIRPLANE", "ENVELOPE", "RAISED FIST", "RAISED HAND",
      "VICTORY HAND", "WRITING HAND", "CHECK MARK", "HEAVY CHECK MARK", "MULTIPLICATION X",
      "HEAVY MULTIPLICATION X", "BALLOT X", "HEAVY BALLOT X", "SPARKLES", "SNOWFLAKE", "CROSS MARK",
      "HEAVY EXCLAMATION MARK SYMBOL", "HEAVY BLACK HEART", "HEAVY PLUS SIGN", "HEAVY MINUS SIGN",
      "HEAVY DIVISION SIGN", "IDEOGRAPHIC SPACE", "IDEOGRAPHIC COMMA", "IDEOGRAPHIC FULL STOP",
      "VARIATION SELECTOR-15", "VARIATION SELECTOR-16", "ZERO WIDTH NO-BREAK SPACE",
      "OBJECT REPLACEMENT CHARACTER", "REPLACEMENT CHARACTER", "EARTH GLOBE EUROPE-AFRICA",
      "EARTH GLOBE AMERICAS", "EARTH GLOBE ASIA-AUSTRALIA", "CRESCENT MOON", "NEW MOON WITH FACE",
      "FIRST QUARTER MOON WITH FACE", "LAST QUARTER MOON WITH FACE", "FULL MOON WITH FACE", "SUN WITH FACE",
      "GLOWING STAR", "SUNFLOWER", "RED APPLE", "SLICE OF PIZZA", "BEER MUG", "WRAPPED PRESENT",
      "BIRTHDAY CAKE", "CHRISTMAS TREE", "PARTY POPPER", "HOUSE BUILDING", "SNAKE", "CAT FACE",
      "DRAGON FACE", "SPOUTING WHALE", "HORSE FACE", "MONKEY FACE", "DOG FACE", "EYES", "WAVING HAND SIGN",
      "OK HAND SIGN", "THUMBS UP SIGN", "THUMBS DOWN SIGN", "CLAPPING HANDS SIGN", "MAN", "WOMAN", "GHOST",
      "BABY ANGEL", "EXTRATERRESTRIAL ALIEN", "SKULL", "BROKEN HEART", "TWO HEARTS", "SPARKLING HEART",
      "GROWING HEART", "HEART WITH ARROW", "BLUE HEART", "GREEN HEART", "YELLOW HEART", "PURPLE HEART",
      "PILE OF POO", "HUNDRED POINTS SYMBOL", "PERSONAL COMPUTER", "PAGE FACING UP", "LOCK", "OPEN LOCK",
      "FIRE", "GRINNING FACE", "GRINNING FACE WITH SMILING EYES", "WINKING FACE", "RELIEVED FACE",
      "SMIRKING FACE", "NEUTRAL FACE", "EXPRESSIONLESS FACE", "UNAMUSED FACE", "PENSIVE FACE",
      "CONFUSED FACE", "CONFOUNDED FACE", "KISSING FACE", "KISSING FACE WITH SMILING EYES",
      "KISSING FACE WITH CLOSED EYES", "DISAPPOINTED FACE", "WORRIED FACE", "ANGRY FACE", "POUTING FACE",
      "CRYING FACE", "PERSEVERING FACE", "DISAPPOINTED BUT RELIEVED FACE", "FROWNING FACE WITH OPEN MOUTH",
      "ANGUISHED FACE", "FEARFUL FACE", "WEARY FACE", "SLEEPY FACE", "TIRED FACE", "GRIMACING FACE",
      "LOUDLY CRYING FACE", "HUSHED FACE", "ASTONISHED FACE", "FLUSHED FACE", "SLEEPING FACE", "DIZZY FACE",
      "GRINNING CAT FACE WITH SMILING EYES", "CAT FACE WITH TEARS OF JOY",
      "SMILING CAT FACE WITH OPEN MOUTH", "SMILING CAT FACE WITH HEART-SHAPED EYES",
      "CAT FACE WITH WRY SMILE", "KISSING CAT FACE WITH CLOSED EYES", "POUTING CAT FACE", "CRYING CAT FACE",
      "WEARY CAT FACE", "SLIGHTLY FROWNING FACE", "SLIGHTLY SMILING FACE", "UPSIDE-DOWN FACE",
      "PERSON BOWING DEEPLY", "SEE-NO-EVIL MONKEY", "HEAR-NO-EVIL MONKEY", "SPEAK-NO-EVIL MONKEY",
      "HAPPY PERSON RAISING ONE HAND", "PERSON RAISING BOTH HANDS IN CELEBRATION", "PERSON FROWNING",
      "PERSON WITH POUTING FACE", "PERSON WITH FOLDED HANDS", "ROCKET", "THINKING FACE", "SHRUG",
      "UNICORN FACE", "NULL", "START OF HEADING", "START OF TEXT", "END OF TEXT", "END OF TRANSMISSION",
      "ENQUIRY", "ACKNOWLEDGE", "ALERT", "BACKSPACE", "CHARACTER TABULATION", "HORIZONTAL TABULATION",
      "LINE FEED", "NEW LINE", "END OF LINE", "LINE TABULATION", "VERTICAL TABULATION", "FORM FEED",
      "CARRIAGE RETURN", "SHIFT OUT", "SHIFT IN", "ESCAPE", "DELETE", "NEXT LINE", "TAB", "NUL", "LF", "CR",
      "NBSP", "ZWJ", "ZWNJ", "BOM", "ZWNBSP", "SP", "ESC", "DEL", "BEL", "BS", "HT", "EOL", "NL", "VT",
      "FF", "NEL", "VS16", "VS15", "BELL", "BYTE ORDER MARK"])]

/-- The parts of Korean syllables: how they begin, go on and end. -/
def syllableStarts : List String :=
  ["G", "GG", "N", "D", "DD", "R", "M", "B", "BB", "S", "SS", "", "J", "JJ", "C", "K", "T", "P", "H"]

def syllableMiddles : List String :=
  ["A", "AE", "YA", "YAE", "EO", "E", "YEO", "YE", "O", "WA", "WAE", "OE", "YO", "U", "WEO", "WE", "WI",
   "YU", "EU", "YI", "I"]

def syllableEnds : List String :=
  ["", "G", "GG", "GS", "N", "NJ", "NH", "D", "L", "LG", "LM", "LB", "LS", "LT", "LP", "LH", "M", "B",
   "BS", "S", "SS", "NG", "J", "C", "K", "T", "P", "H"]

/-- Code points of ideographs that are named by their numbers. -/
def ideographRanges : List (Nat × Nat) :=
  [(0x3400, 0x4dbf), (0x4e00, 0x9fff), (0x20000, 0x2a6df), (0x2a700, 0x2b738), (0x2b740, 0x2b81d),
   (0x2b820, 0x2cea1), (0x2ceb0, 0x2ebe0), (0x30000, 0x3134a)]

/-- What stands behind this beginning. -/
def behind? (start : String) (s : String) : Option String :=
  if start.toList.isPrefixOf s.toList then some (String.ofList (s.toList.drop start.length)) else none

/-- Whether a syllable is put together from its parts. -/
def isSyllable (s : String) : Bool :=
  syllableStarts.any fun a => syllableMiddles.any fun b =>
    match behind? (a ++ b) s with
    | some rest => syllableEnds.contains rest
    | none => false

/-- The number that capital hexadecimal digits write, four or five of them. -/
def codeNumber? (s : String) : Option Nat :=
  let isDigit (c : Char) : Bool := c.isDigit || 'A' ≤ c && c ≤ 'F'
  if (s.length = 4 || s.length = 5) && s.toList.all isDigit then
    some (s.toList.foldl (fun n c => 16 * n + (if c.isDigit then c.toNat - 48 else c.toNat - 55)) 0)
  else none

/-- Whether this is the name of a character. -/
def isCharacterName (name : String) : Bool :=
  match behind? "HANGUL SYLLABLE " name, behind? "CJK UNIFIED IDEOGRAPH-" name with
  | some rest, _ => isSyllable rest
  | _, some rest => (codeNumber? rest).any (inRanges ideographRanges)
  | none, none =>
    let capitals := String.ofList (name.toList.map Char.toUpper)
    characterNames.any fun (start, ends) => (behind? start capitals).any ends.contains

end Text
end GitPractice

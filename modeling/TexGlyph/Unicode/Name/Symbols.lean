import TexGlyph.Unicode.Name.Basic

/-!
# Names of symbols and East Asian characters

Data of the Unicode Character Database, version 14.0.0, in ascending order of code points.
-/

namespace TexGlyph.NameData

/-- Names of punctuation and symbols, U+2000 to U+2DFF. -/
def symbols : List NameRun := [
  ⟨0x2002, "EN ", ["SPACE"]⟩,
  ⟨0x2003, "EM ", ["SPACE"]⟩,
  ⟨0x2004, "THREE-PER-EM ", ["SPACE"]⟩,
  ⟨0x2005, "FOUR-PER-EM ", ["SPACE"]⟩,
  ⟨0x2006, "SIX-PER-EM ", ["SPACE"]⟩,
  ⟨0x2008, "PUNCTUATION ", ["SPACE"]⟩,
  ⟨0x2009, "THIN ", ["SPACE"]⟩,
  ⟨0x200A, "HAIR ", ["SPACE"]⟩,
  ⟨0x2017, "DOUBLE LOW ", ["LINE"]⟩,
  ⟨0x2024, "ONE DOT ", ["LEADER"]⟩,
  ⟨0x2025, "TWO DOT ", ["LEADER"]⟩,
  ⟨0x2026, "HORIZONTAL ", ["ELLIPSIS"]⟩,
  ⟨0x2033, "DOUBLE ", ["PRIME"]⟩,
  ⟨0x2034, "TRIPLE ", ["PRIME"]⟩,
  ⟨0x2036, "REVERSED DOUBLE ", ["PRIME"]⟩,
  ⟨0x2037, "REVERSED TRIPLE ", ["PRIME"]⟩,
  ⟨0x203C, "DOUBLE EXCLAMATION ", ["MARK"]⟩,
  ⟨0x203E, "", ["OVERLINE"]⟩,
  ⟨0x2047, "DOUBLE QUESTION ", ["MARK"]⟩,
  ⟨0x2048, "QUESTION EXCLAMATION ", ["MARK"]⟩,
  ⟨0x2049, "EXCLAMATION QUESTION ", ["MARK"]⟩,
  ⟨0x2057, "QUADRUPLE ", ["PRIME"]⟩,
  ⟨0x205F, "MEDIUM MATHEMATICAL ", ["SPACE"]⟩,
  ⟨0x20A8, "RUPEE ", ["SIGN"]⟩,
  ⟨0x2100, "ACCOUNT ", ["OF"]⟩,
  ⟨0x2101, "ADDRESSED TO THE ", ["SUBJECT"]⟩,
  ⟨0x2102, "DOUBLE-STRUCK CAPITAL ", ["C"]⟩,
  ⟨0x2103, "DEGREE ", ["CELSIUS"]⟩,
  ⟨0x2105, "CARE ", ["OF"]⟩,
  ⟨0x2106, "CADA ", ["UNA"]⟩,
  ⟨0x2107, "EULER ", ["CONSTANT"]⟩,
  ⟨0x2109, "DEGREE ", ["FAHRENHEIT"]⟩,
  ⟨0x210A, "SCRIPT SMALL ", ["G"]⟩,
  ⟨0x210B, "SCRIPT CAPITAL ", ["H"]⟩,
  ⟨0x210C, "BLACK-LETTER CAPITAL ", ["H"]⟩,
  ⟨0x210D, "DOUBLE-STRUCK CAPITAL ", ["H"]⟩,
  ⟨0x210E, "PLANCK ", ["CONSTANT"]⟩,
  ⟨0x210F, "PLANCK CONSTANT OVER TWO ", ["PI"]⟩,
  ⟨0x2110, "SCRIPT CAPITAL ", ["I"]⟩,
  ⟨0x2111, "BLACK-LETTER CAPITAL ", ["I"]⟩,
  ⟨0x2112, "SCRIPT CAPITAL ", ["L"]⟩,
  ⟨0x2113, "SCRIPT SMALL ", ["L"]⟩,
  ⟨0x2115, "DOUBLE-STRUCK CAPITAL ", ["N"]⟩,
  ⟨0x2116, "NUMERO ", ["SIGN"]⟩,
  ⟨0x2119, "DOUBLE-STRUCK CAPITAL ", ["P", "Q"]⟩,
  ⟨0x211B, "SCRIPT CAPITAL ", ["R"]⟩,
  ⟨0x211C, "BLACK-LETTER CAPITAL ", ["R"]⟩,
  ⟨0x211D, "DOUBLE-STRUCK CAPITAL ", ["R"]⟩,
  ⟨0x2121, "TELEPHONE ", ["SIGN"]⟩,
  ⟨0x2124, "DOUBLE-STRUCK CAPITAL ", ["Z"]⟩,
  ⟨0x2128, "BLACK-LETTER CAPITAL ", ["Z"]⟩,
  ⟨0x212C, "SCRIPT CAPITAL ", ["B"]⟩,
  ⟨0x212D, "BLACK-LETTER CAPITAL ", ["C"]⟩,
  ⟨0x212F, "SCRIPT SMALL ", ["E"]⟩,
  ⟨0x2130, "SCRIPT CAPITAL ", ["E", "F"]⟩,
  ⟨0x2133, "SCRIPT CAPITAL ", ["M"]⟩,
  ⟨0x2134, "SCRIPT SMALL ", ["O"]⟩,
  ⟨0x2135, "ALEF ", ["SYMBOL"]⟩,
  ⟨0x2136, "BET ", ["SYMBOL"]⟩,
  ⟨0x2137, "GIMEL ", ["SYMBOL"]⟩,
  ⟨0x2138, "DALET ", ["SYMBOL"]⟩,
  ⟨0x2139, "INFORMATION ", ["SOURCE"]⟩,
  ⟨0x213B, "FACSIMILE ", ["SIGN"]⟩,
  ⟨0x213C, "DOUBLE-STRUCK SMALL ", ["PI", "GAMMA"]⟩,
  ⟨0x213E, "DOUBLE-STRUCK CAPITAL ", ["GAMMA", "PI"]⟩,
  ⟨0x2140, "DOUBLE-STRUCK N-ARY ", ["SUMMATION"]⟩,
  ⟨0x2145, "DOUBLE-STRUCK ITALIC CAPITAL ", ["D"]⟩,
  ⟨0x2146, "DOUBLE-STRUCK ITALIC SMALL ", ["D", "E", "I", "J"]⟩,
  ⟨0x2160, "ROMAN NUMERAL ", ["ONE", "TWO", "THREE", "FOUR", "FIVE", "SIX", "SEVEN", "EIGHT",
    "NINE", "TEN", "ELEVEN", "TWELVE", "FIFTY"]⟩,
  ⟨0x216D, "ROMAN NUMERAL ONE ", ["HUNDRED"]⟩,
  ⟨0x216E, "ROMAN NUMERAL FIVE ", ["HUNDRED"]⟩,
  ⟨0x216F, "ROMAN NUMERAL ONE ", ["THOUSAND"]⟩,
  ⟨0x2170, "SMALL ROMAN NUMERAL ", ["ONE", "TWO", "THREE", "FOUR", "FIVE", "SIX", "SEVEN",
    "EIGHT", "NINE", "TEN", "ELEVEN", "TWELVE", "FIFTY"]⟩,
  ⟨0x217D, "SMALL ROMAN NUMERAL ONE ", ["HUNDRED"]⟩,
  ⟨0x217E, "SMALL ROMAN NUMERAL FIVE ", ["HUNDRED"]⟩,
  ⟨0x217F, "SMALL ROMAN NUMERAL ONE ", ["THOUSAND"]⟩,
  ⟨0x222C, "DOUBLE ", ["INTEGRAL"]⟩,
  ⟨0x222D, "TRIPLE ", ["INTEGRAL"]⟩,
  ⟨0x222F, "SURFACE ", ["INTEGRAL"]⟩,
  ⟨0x2230, "VOLUME ", ["INTEGRAL"]⟩,
  ⟨0x2474, "PARENTHESIZED DIGIT ", ["ONE", "TWO", "THREE", "FOUR", "FIVE", "SIX", "SEVEN",
    "EIGHT", "NINE"]⟩,
  ⟨0x247D, "PARENTHESIZED NUMBER ", ["TEN", "ELEVEN", "TWELVE", "THIRTEEN", "FOURTEEN", "FIFTEEN",
    "SIXTEEN", "SEVENTEEN", "EIGHTEEN", "NINETEEN", "TWENTY"]⟩,
  ⟨0x2488, "DIGIT ONE FULL ", ["STOP"]⟩,
  ⟨0x2489, "DIGIT TWO FULL ", ["STOP"]⟩,
  ⟨0x248A, "DIGIT THREE FULL ", ["STOP"]⟩,
  ⟨0x248B, "DIGIT FOUR FULL ", ["STOP"]⟩,
  ⟨0x248C, "DIGIT FIVE FULL ", ["STOP"]⟩,
  ⟨0x248D, "DIGIT SIX FULL ", ["STOP"]⟩,
  ⟨0x248E, "DIGIT SEVEN FULL ", ["STOP"]⟩,
  ⟨0x248F, "DIGIT EIGHT FULL ", ["STOP"]⟩,
  ⟨0x2490, "DIGIT NINE FULL ", ["STOP"]⟩,
  ⟨0x2491, "NUMBER TEN FULL ", ["STOP"]⟩,
  ⟨0x2492, "NUMBER ELEVEN FULL ", ["STOP"]⟩,
  ⟨0x2493, "NUMBER TWELVE FULL ", ["STOP"]⟩,
  ⟨0x2494, "NUMBER THIRTEEN FULL ", ["STOP"]⟩,
  ⟨0x2495, "NUMBER FOURTEEN FULL ", ["STOP"]⟩,
  ⟨0x2496, "NUMBER FIFTEEN FULL ", ["STOP"]⟩,
  ⟨0x2497, "NUMBER SIXTEEN FULL ", ["STOP"]⟩,
  ⟨0x2498, "NUMBER SEVENTEEN FULL ", ["STOP"]⟩,
  ⟨0x2499, "NUMBER EIGHTEEN FULL ", ["STOP"]⟩,
  ⟨0x249A, "NUMBER NINETEEN FULL ", ["STOP"]⟩,
  ⟨0x249B, "NUMBER TWENTY FULL ", ["STOP"]⟩,
  ⟨0x249C, "PARENTHESIZED LATIN SMALL LETTER ", ["A", "B", "C", "D", "E", "F", "G", "H", "I", "J",
    "K", "L", "M", "N", "O", "P", "Q", "R", "S", "T", "U", "V", "W", "X", "Y", "Z"]⟩,
  ⟨0x2A0C, "QUADRUPLE INTEGRAL ", ["OPERATOR"]⟩,
  ⟨0x2A74, "DOUBLE COLON ", ["EQUAL"]⟩,
  ⟨0x2A75, "TWO CONSECUTIVE EQUALS ", ["SIGNS"]⟩,
  ⟨0x2A76, "THREE CONSECUTIVE EQUALS ", ["SIGNS"]⟩]

/-- Names of radicals, Korean letters and enclosed ideographs, U+2E80 to U+ABFF. -/
def ideographs : List NameRun := [
  ⟨0x2E9F, "CJK RADICAL ", ["MOTHER"]⟩,
  ⟨0x2EF3, "CJK RADICAL C-SIMPLIFIED ", ["TURTLE"]⟩,
  ⟨0x2F00, "KANGXI RADICAL ", ["ONE", "LINE", "DOT", "SLASH", "SECOND", "HOOK", "TWO", "LID",
    "MAN", "LEGS", "ENTER", "EIGHT"]⟩,
  ⟨0x2F0C, "KANGXI RADICAL DOWN ", ["BOX"]⟩,
  ⟨0x2F0D, "KANGXI RADICAL ", ["COVER", "ICE", "TABLE"]⟩,
  ⟨0x2F10, "KANGXI RADICAL OPEN ", ["BOX"]⟩,
  ⟨0x2F11, "KANGXI RADICAL ", ["KNIFE", "POWER", "WRAP", "SPOON"]⟩,
  ⟨0x2F15, "KANGXI RADICAL RIGHT OPEN ", ["BOX"]⟩,
  ⟨0x2F16, "KANGXI RADICAL HIDING ", ["ENCLOSURE"]⟩,
  ⟨0x2F17, "KANGXI RADICAL ", ["TEN", "DIVINATION", "SEAL", "CLIFF", "PRIVATE", "AGAIN", "MOUTH",
    "ENCLOSURE", "EARTH", "SCHOLAR", "GO"]⟩,
  ⟨0x2F22, "KANGXI RADICAL GO ", ["SLOWLY"]⟩,
  ⟨0x2F23, "KANGXI RADICAL ", ["EVENING", "BIG", "WOMAN", "CHILD", "ROOF", "INCH", "SMALL",
    "LAME", "CORPSE", "SPROUT", "MOUNTAIN", "RIVER", "WORK", "ONESELF", "TURBAN", "DRY"]⟩,
  ⟨0x2F33, "KANGXI RADICAL SHORT ", ["THREAD"]⟩,
  ⟨0x2F34, "KANGXI RADICAL DOTTED ", ["CLIFF"]⟩,
  ⟨0x2F35, "KANGXI RADICAL LONG ", ["STRIDE"]⟩,
  ⟨0x2F36, "KANGXI RADICAL TWO ", ["HANDS"]⟩,
  ⟨0x2F37, "KANGXI RADICAL ", ["SHOOT", "BOW", "SNOUT", "BRISTLE", "STEP", "HEART", "HALBERD",
    "DOOR", "HAND", "BRANCH", "RAP", "SCRIPT", "DIPPER", "AXE", "SQUARE", "NOT", "SUN", "SAY",
    "MOON", "TREE", "LACK", "STOP", "DEATH", "WEAPON"]⟩,
  ⟨0x2F4F, "KANGXI RADICAL DO ", ["NOT"]⟩,
  ⟨0x2F50, "KANGXI RADICAL ", ["COMPARE", "FUR", "CLAN", "STEAM", "WATER", "FIRE", "CLAW",
    "FATHER"]⟩,
  ⟨0x2F58, "KANGXI RADICAL DOUBLE ", ["X"]⟩,
  ⟨0x2F59, "KANGXI RADICAL HALF TREE ", ["TRUNK"]⟩,
  ⟨0x2F5A, "KANGXI RADICAL ", ["SLICE", "FANG", "COW", "DOG", "PROFOUND", "JADE", "MELON", "TILE",
    "SWEET", "LIFE", "USE", "FIELD"]⟩,
  ⟨0x2F66, "KANGXI RADICAL BOLT OF ", ["CLOTH"]⟩,
  ⟨0x2F67, "KANGXI RADICAL ", ["SICKNESS"]⟩,
  ⟨0x2F68, "KANGXI RADICAL DOTTED ", ["TENT"]⟩,
  ⟨0x2F69, "KANGXI RADICAL ", ["WHITE", "SKIN", "DISH", "EYE", "SPEAR", "ARROW", "STONE",
    "SPIRIT", "TRACK", "GRAIN", "CAVE", "STAND", "BAMBOO", "RICE", "SILK", "JAR", "NET", "SHEEP",
    "FEATHER", "OLD", "AND", "PLOW", "EAR", "BRUSH", "MEAT", "MINISTER", "SELF", "ARRIVE",
    "MORTAR", "TONGUE", "OPPOSE", "BOAT", "STOPPING", "COLOR", "GRASS", "TIGER", "INSECT",
    "BLOOD"]⟩,
  ⟨0x2F8F, "KANGXI RADICAL WALK ", ["ENCLOSURE"]⟩,
  ⟨0x2F90, "KANGXI RADICAL ", ["CLOTHES", "WEST", "SEE", "HORN", "SPEECH", "VALLEY", "BEAN",
    "PIG", "BADGER", "SHELL", "RED", "RUN", "FOOT", "BODY", "CART", "BITTER", "MORNING", "WALK",
    "CITY", "WINE", "DISTINGUISH", "VILLAGE", "GOLD", "LONG", "GATE", "MOUND", "SLAVE"]⟩,
  ⟨0x2FAB, "KANGXI RADICAL SHORT TAILED ", ["BIRD"]⟩,
  ⟨0x2FAC, "KANGXI RADICAL ", ["RAIN", "BLUE", "WRONG", "FACE", "LEATHER"]⟩,
  ⟨0x2FB1, "KANGXI RADICAL TANNED ", ["LEATHER"]⟩,
  ⟨0x2FB2, "KANGXI RADICAL ", ["LEEK", "SOUND", "LEAF", "WIND", "FLY", "EAT", "HEAD", "FRAGRANT",
    "HORSE", "BONE", "TALL", "HAIR", "FIGHT"]⟩,
  ⟨0x2FBF, "KANGXI RADICAL SACRIFICIAL ", ["WINE"]⟩,
  ⟨0x2FC0, "KANGXI RADICAL ", ["CAULDRON", "GHOST", "FISH", "BIRD", "SALT", "DEER", "WHEAT",
    "HEMP", "YELLOW", "MILLET", "BLACK", "EMBROIDERY", "FROG", "TRIPOD", "DRUM", "RAT", "NOSE",
    "EVEN", "TOOTH", "DRAGON", "TURTLE", "FLUTE"]⟩,
  ⟨0x3036, "CIRCLED POSTAL ", ["MARK"]⟩,
  ⟨0x3038, "HANGZHOU NUMERAL ", ["TEN", "TWENTY", "THIRTY"]⟩,
  ⟨0x309B, "KATAKANA-HIRAGANA VOICED SOUND ", ["MARK"]⟩,
  ⟨0x309C, "KATAKANA-HIRAGANA SEMI-VOICED SOUND ", ["MARK"]⟩,
  ⟨0x3131, "HANGUL LETTER ", ["KIYEOK", "SSANGKIYEOK", "KIYEOK-SIOS", "NIEUN", "NIEUN-CIEUC",
    "NIEUN-HIEUH", "TIKEUT", "SSANGTIKEUT", "RIEUL", "RIEUL-KIYEOK", "RIEUL-MIEUM", "RIEUL-PIEUP",
    "RIEUL-SIOS", "RIEUL-THIEUTH", "RIEUL-PHIEUPH", "RIEUL-HIEUH", "MIEUM", "PIEUP", "SSANGPIEUP",
    "PIEUP-SIOS", "SIOS", "SSANGSIOS", "IEUNG", "CIEUC", "SSANGCIEUC", "CHIEUCH", "KHIEUKH",
    "THIEUTH", "PHIEUPH", "HIEUH", "A", "AE", "YA", "YAE", "EO", "E", "YEO", "YE", "O", "WA",
    "WAE", "OE", "YO", "U", "WEO", "WE", "WI", "YU", "EU", "YI", "I"]⟩,
  ⟨0x3164, "HANGUL ", ["FILLER"]⟩,
  ⟨0x3165, "HANGUL LETTER ", ["SSANGNIEUN", "NIEUN-TIKEUT", "NIEUN-SIOS", "NIEUN-PANSIOS",
    "RIEUL-KIYEOK-SIOS", "RIEUL-TIKEUT", "RIEUL-PIEUP-SIOS", "RIEUL-PANSIOS", "RIEUL-YEORINHIEUH",
    "MIEUM-PIEUP", "MIEUM-SIOS", "MIEUM-PANSIOS", "KAPYEOUNMIEUM", "PIEUP-KIYEOK", "PIEUP-TIKEUT",
    "PIEUP-SIOS-KIYEOK", "PIEUP-SIOS-TIKEUT", "PIEUP-CIEUC", "PIEUP-THIEUTH", "KAPYEOUNPIEUP",
    "KAPYEOUNSSANGPIEUP", "SIOS-KIYEOK", "SIOS-NIEUN", "SIOS-TIKEUT", "SIOS-PIEUP", "SIOS-CIEUC",
    "PANSIOS", "SSANGIEUNG", "YESIEUNG", "YESIEUNG-SIOS", "YESIEUNG-PANSIOS", "KAPYEOUNPHIEUPH",
    "SSANGHIEUH", "YEORINHIEUH", "YO-YA", "YO-YAE", "YO-I", "YU-YEO", "YU-YE", "YU-I", "ARAEA",
    "ARAEAE"]⟩,
  ⟨0x3200, "PARENTHESIZED HANGUL ", ["KIYEOK", "NIEUN", "TIKEUT", "RIEUL", "MIEUM", "PIEUP",
    "SIOS", "IEUNG", "CIEUC", "CHIEUCH", "KHIEUKH", "THIEUTH", "PHIEUPH", "HIEUH"]⟩,
  ⟨0x320E, "PARENTHESIZED HANGUL KIYEOK ", ["A"]⟩,
  ⟨0x320F, "PARENTHESIZED HANGUL NIEUN ", ["A"]⟩,
  ⟨0x3210, "PARENTHESIZED HANGUL TIKEUT ", ["A"]⟩,
  ⟨0x3211, "PARENTHESIZED HANGUL RIEUL ", ["A"]⟩,
  ⟨0x3212, "PARENTHESIZED HANGUL MIEUM ", ["A"]⟩,
  ⟨0x3213, "PARENTHESIZED HANGUL PIEUP ", ["A"]⟩,
  ⟨0x3214, "PARENTHESIZED HANGUL SIOS ", ["A"]⟩,
  ⟨0x3215, "PARENTHESIZED HANGUL IEUNG ", ["A"]⟩,
  ⟨0x3216, "PARENTHESIZED HANGUL CIEUC ", ["A"]⟩,
  ⟨0x3217, "PARENTHESIZED HANGUL CHIEUCH ", ["A"]⟩,
  ⟨0x3218, "PARENTHESIZED HANGUL KHIEUKH ", ["A"]⟩,
  ⟨0x3219, "PARENTHESIZED HANGUL THIEUTH ", ["A"]⟩,
  ⟨0x321A, "PARENTHESIZED HANGUL PHIEUPH ", ["A"]⟩,
  ⟨0x321B, "PARENTHESIZED HANGUL HIEUH ", ["A"]⟩,
  ⟨0x321C, "PARENTHESIZED HANGUL CIEUC ", ["U"]⟩,
  ⟨0x321D, "PARENTHESIZED KOREAN CHARACTER ", ["OJEON"]⟩,
  ⟨0x321E, "PARENTHESIZED KOREAN CHARACTER O ", ["HU"]⟩,
  ⟨0x3220, "PARENTHESIZED IDEOGRAPH ", ["ONE", "TWO", "THREE", "FOUR", "FIVE", "SIX", "SEVEN",
    "EIGHT", "NINE", "TEN", "MOON", "FIRE", "WATER", "WOOD", "METAL", "EARTH", "SUN", "STOCK",
    "HAVE", "SOCIETY", "NAME", "SPECIAL", "FINANCIAL", "CONGRATULATION", "LABOR", "REPRESENT",
    "CALL", "STUDY", "SUPERVISE", "ENTERPRISE", "RESOURCE", "ALLIANCE", "FESTIVAL", "REST",
    "SELF", "REACH"]⟩,
  ⟨0x32C0, "IDEOGRAPHIC TELEGRAPH SYMBOL FOR ", ["JANUARY", "FEBRUARY", "MARCH", "APRIL", "MAY",
    "JUNE", "JULY", "AUGUST", "SEPTEMBER", "OCTOBER", "NOVEMBER", "DECEMBER"]⟩,
  ⟨0x3358, "IDEOGRAPHIC TELEGRAPH SYMBOL FOR HOUR ", ["ZERO", "ONE", "TWO", "THREE", "FOUR",
    "FIVE", "SIX", "SEVEN", "EIGHT", "NINE", "TEN", "ELEVEN", "TWELVE", "THIRTEEN", "FOURTEEN",
    "FIFTEEN", "SIXTEEN", "SEVENTEEN", "EIGHTEEN", "NINETEEN", "TWENTY", "TWENTY-ONE",
    "TWENTY-TWO", "TWENTY-THREE", "TWENTY-FOUR"]⟩,
  ⟨0x33E0, "IDEOGRAPHIC TELEGRAPH SYMBOL FOR DAY ", ["ONE", "TWO", "THREE", "FOUR", "FIVE", "SIX",
    "SEVEN", "EIGHT", "NINE", "TEN", "ELEVEN", "TWELVE", "THIRTEEN", "FOURTEEN", "FIFTEEN",
    "SIXTEEN", "SEVENTEEN", "EIGHTEEN", "NINETEEN", "TWENTY", "TWENTY-ONE", "TWENTY-TWO",
    "TWENTY-THREE", "TWENTY-FOUR", "TWENTY-FIVE", "TWENTY-SIX", "TWENTY-SEVEN", "TWENTY-EIGHT",
    "TWENTY-NINE", "THIRTY", "THIRTY-ONE"]⟩,
  ⟨0xAB65, "GREEK LETTER SMALL CAPITAL ", ["OMEGA"]⟩]

/-- Names of presentation forms, U+F900 to U+FFFF. -/
def forms : List NameRun := [
  ⟨0xFB00, "LATIN SMALL LIGATURE ", ["FF", "FI", "FL", "FFI", "FFL"]⟩,
  ⟨0xFB05, "LATIN SMALL LIGATURE LONG S ", ["T"]⟩,
  ⟨0xFB06, "LATIN SMALL LIGATURE ", ["ST"]⟩,
  ⟨0xFB13, "ARMENIAN SMALL LIGATURE MEN ", ["NOW", "ECH", "INI"]⟩,
  ⟨0xFB16, "ARMENIAN SMALL LIGATURE VEW ", ["NOW"]⟩,
  ⟨0xFB17, "ARMENIAN SMALL LIGATURE MEN ", ["XEH"]⟩,
  ⟨0xFB20, "HEBREW LETTER ALTERNATIVE ", ["AYIN"]⟩,
  ⟨0xFB21, "HEBREW LETTER WIDE ", ["ALEF", "DALET", "HE", "KAF", "LAMED"]⟩,
  ⟨0xFB26, "HEBREW LETTER WIDE FINAL ", ["MEM"]⟩,
  ⟨0xFB27, "HEBREW LETTER WIDE ", ["RESH", "TAV"]⟩,
  ⟨0xFB29, "HEBREW LETTER ALTERNATIVE PLUS ", ["SIGN"]⟩,
  ⟨0xFB4F, "HEBREW LIGATURE ALEF ", ["LAMED"]⟩,
  ⟨0xFE49, "DASHED ", ["OVERLINE"]⟩,
  ⟨0xFE4A, "CENTRELINE ", ["OVERLINE"]⟩,
  ⟨0xFE4B, "WAVY ", ["OVERLINE"]⟩,
  ⟨0xFE4C, "DOUBLE WAVY ", ["OVERLINE"]⟩,
  ⟨0xFE4D, "DASHED LOW ", ["LINE"]⟩,
  ⟨0xFE4E, "CENTRELINE LOW ", ["LINE"]⟩,
  ⟨0xFE4F, "WAVY LOW ", ["LINE"]⟩]

end TexGlyph.NameData

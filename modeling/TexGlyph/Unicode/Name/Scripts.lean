import TexGlyph.Unicode.Name.Basic

/-!
# Names of letters

Data of the Unicode Character Database, version 14.0.0, in ascending order of code points.
-/

namespace TexGlyph.NameData

/-- Names of Latin and Greek letters, U+00A0 to U+058F. -/
def latinGreek : List NameRun := [
  ⟨0x00A8, "", ["DIAERESIS"]⟩,
  ⟨0x00AF, "", ["MACRON"]⟩,
  ⟨0x00B4, "ACUTE ", ["ACCENT"]⟩,
  ⟨0x00B5, "MICRO ", ["SIGN"]⟩,
  ⟨0x00B8, "", ["CEDILLA"]⟩,
  ⟨0x0132, "LATIN CAPITAL LIGATURE ", ["IJ"]⟩,
  ⟨0x0133, "LATIN SMALL LIGATURE ", ["IJ"]⟩,
  ⟨0x013F, "LATIN CAPITAL LETTER L WITH MIDDLE ", ["DOT"]⟩,
  ⟨0x0140, "LATIN SMALL LETTER L WITH MIDDLE ", ["DOT"]⟩,
  ⟨0x0149, "LATIN SMALL LETTER N PRECEDED BY ", ["APOSTROPHE"]⟩,
  ⟨0x017F, "LATIN SMALL LETTER LONG ", ["S"]⟩,
  ⟨0x01C4, "LATIN CAPITAL LETTER DZ WITH ", ["CARON"]⟩,
  ⟨0x01C5, "LATIN CAPITAL LETTER D WITH SMALL LETTER Z WITH ", ["CARON"]⟩,
  ⟨0x01C6, "LATIN SMALL LETTER DZ WITH ", ["CARON"]⟩,
  ⟨0x01C7, "LATIN CAPITAL LETTER ", ["LJ"]⟩,
  ⟨0x01C8, "LATIN CAPITAL LETTER L WITH SMALL LETTER ", ["J"]⟩,
  ⟨0x01C9, "LATIN SMALL LETTER ", ["LJ"]⟩,
  ⟨0x01CA, "LATIN CAPITAL LETTER ", ["NJ"]⟩,
  ⟨0x01CB, "LATIN CAPITAL LETTER N WITH SMALL LETTER ", ["J"]⟩,
  ⟨0x01CC, "LATIN SMALL LETTER ", ["NJ"]⟩,
  ⟨0x01F1, "LATIN CAPITAL LETTER ", ["DZ"]⟩,
  ⟨0x01F2, "LATIN CAPITAL LETTER D WITH SMALL LETTER ", ["Z"]⟩,
  ⟨0x01F3, "LATIN SMALL LETTER ", ["DZ"]⟩,
  ⟨0x02D8, "", ["BREVE"]⟩,
  ⟨0x02D9, "DOT ", ["ABOVE"]⟩,
  ⟨0x02DA, "RING ", ["ABOVE"]⟩,
  ⟨0x02DB, "", ["OGONEK"]⟩,
  ⟨0x02DC, "SMALL ", ["TILDE"]⟩,
  ⟨0x02DD, "DOUBLE ACUTE ", ["ACCENT"]⟩,
  ⟨0x0370, "GREEK CAPITAL LETTER ", ["HETA"]⟩,
  ⟨0x0371, "GREEK SMALL LETTER ", ["HETA"]⟩,
  ⟨0x0372, "GREEK CAPITAL LETTER ARCHAIC ", ["SAMPI"]⟩,
  ⟨0x0373, "GREEK SMALL LETTER ARCHAIC ", ["SAMPI"]⟩,
  ⟨0x0374, "GREEK NUMERAL ", ["SIGN"]⟩,
  ⟨0x0375, "GREEK LOWER NUMERAL ", ["SIGN"]⟩,
  ⟨0x0376, "GREEK CAPITAL LETTER PAMPHYLIAN ", ["DIGAMMA"]⟩,
  ⟨0x0377, "GREEK SMALL LETTER PAMPHYLIAN ", ["DIGAMMA"]⟩,
  ⟨0x037A, "GREEK ", ["YPOGEGRAMMENI"]⟩,
  ⟨0x037B, "GREEK SMALL REVERSED LUNATE SIGMA ", ["SYMBOL"]⟩,
  ⟨0x037C, "GREEK SMALL DOTTED LUNATE SIGMA ", ["SYMBOL"]⟩,
  ⟨0x037D, "GREEK SMALL REVERSED DOTTED LUNATE SIGMA ", ["SYMBOL"]⟩,
  ⟨0x037E, "GREEK QUESTION ", ["MARK"]⟩,
  ⟨0x037F, "GREEK CAPITAL LETTER ", ["YOT"]⟩,
  ⟨0x0384, "GREEK ", ["TONOS"]⟩,
  ⟨0x0385, "GREEK DIALYTIKA ", ["TONOS"]⟩,
  ⟨0x0386, "GREEK CAPITAL LETTER ALPHA WITH ", ["TONOS"]⟩,
  ⟨0x0387, "GREEK ANO ", ["TELEIA"]⟩,
  ⟨0x0388, "GREEK CAPITAL LETTER EPSILON WITH ", ["TONOS"]⟩,
  ⟨0x0389, "GREEK CAPITAL LETTER ETA WITH ", ["TONOS"]⟩,
  ⟨0x038A, "GREEK CAPITAL LETTER IOTA WITH ", ["TONOS"]⟩,
  ⟨0x038C, "GREEK CAPITAL LETTER OMICRON WITH ", ["TONOS"]⟩,
  ⟨0x038E, "GREEK CAPITAL LETTER UPSILON WITH ", ["TONOS"]⟩,
  ⟨0x038F, "GREEK CAPITAL LETTER OMEGA WITH ", ["TONOS"]⟩,
  ⟨0x0390, "GREEK SMALL LETTER IOTA WITH DIALYTIKA AND ", ["TONOS"]⟩,
  ⟨0x0391, "GREEK CAPITAL LETTER ", ["ALPHA", "BETA", "GAMMA", "DELTA", "EPSILON", "ZETA", "ETA",
    "THETA", "IOTA", "KAPPA", "LAMDA", "MU", "NU", "XI", "OMICRON", "PI", "RHO"]⟩,
  ⟨0x03A3, "GREEK CAPITAL LETTER ", ["SIGMA", "TAU", "UPSILON", "PHI", "CHI", "PSI", "OMEGA"]⟩,
  ⟨0x03AA, "GREEK CAPITAL LETTER IOTA WITH ", ["DIALYTIKA"]⟩,
  ⟨0x03AB, "GREEK CAPITAL LETTER UPSILON WITH ", ["DIALYTIKA"]⟩,
  ⟨0x03AC, "GREEK SMALL LETTER ALPHA WITH ", ["TONOS"]⟩,
  ⟨0x03AD, "GREEK SMALL LETTER EPSILON WITH ", ["TONOS"]⟩,
  ⟨0x03AE, "GREEK SMALL LETTER ETA WITH ", ["TONOS"]⟩,
  ⟨0x03AF, "GREEK SMALL LETTER IOTA WITH ", ["TONOS"]⟩,
  ⟨0x03B0, "GREEK SMALL LETTER UPSILON WITH DIALYTIKA AND ", ["TONOS"]⟩,
  ⟨0x03B1, "GREEK SMALL LETTER ", ["ALPHA", "BETA", "GAMMA", "DELTA", "EPSILON", "ZETA", "ETA",
    "THETA", "IOTA", "KAPPA", "LAMDA", "MU", "NU", "XI", "OMICRON", "PI", "RHO"]⟩,
  ⟨0x03C2, "GREEK SMALL LETTER FINAL ", ["SIGMA"]⟩,
  ⟨0x03C3, "GREEK SMALL LETTER ", ["SIGMA", "TAU", "UPSILON", "PHI", "CHI", "PSI", "OMEGA"]⟩,
  ⟨0x03CA, "GREEK SMALL LETTER IOTA WITH ", ["DIALYTIKA"]⟩,
  ⟨0x03CB, "GREEK SMALL LETTER UPSILON WITH ", ["DIALYTIKA"]⟩,
  ⟨0x03CC, "GREEK SMALL LETTER OMICRON WITH ", ["TONOS"]⟩,
  ⟨0x03CD, "GREEK SMALL LETTER UPSILON WITH ", ["TONOS"]⟩,
  ⟨0x03CE, "GREEK SMALL LETTER OMEGA WITH ", ["TONOS"]⟩,
  ⟨0x03CF, "GREEK CAPITAL KAI ", ["SYMBOL"]⟩,
  ⟨0x03D0, "GREEK BETA ", ["SYMBOL"]⟩,
  ⟨0x03D1, "GREEK THETA ", ["SYMBOL"]⟩,
  ⟨0x03D2, "GREEK UPSILON WITH HOOK ", ["SYMBOL"]⟩,
  ⟨0x03D3, "GREEK UPSILON WITH ACUTE AND HOOK ", ["SYMBOL"]⟩,
  ⟨0x03D4, "GREEK UPSILON WITH DIAERESIS AND HOOK ", ["SYMBOL"]⟩,
  ⟨0x03D5, "GREEK PHI ", ["SYMBOL"]⟩,
  ⟨0x03D6, "GREEK PI ", ["SYMBOL"]⟩,
  ⟨0x03D7, "GREEK KAI ", ["SYMBOL"]⟩,
  ⟨0x03D8, "GREEK LETTER ARCHAIC ", ["KOPPA"]⟩,
  ⟨0x03D9, "GREEK SMALL LETTER ARCHAIC ", ["KOPPA"]⟩,
  ⟨0x03DA, "GREEK LETTER ", ["STIGMA"]⟩,
  ⟨0x03DB, "GREEK SMALL LETTER ", ["STIGMA"]⟩,
  ⟨0x03DC, "GREEK LETTER ", ["DIGAMMA"]⟩,
  ⟨0x03DD, "GREEK SMALL LETTER ", ["DIGAMMA"]⟩,
  ⟨0x03DE, "GREEK LETTER ", ["KOPPA"]⟩,
  ⟨0x03DF, "GREEK SMALL LETTER ", ["KOPPA"]⟩,
  ⟨0x03E0, "GREEK LETTER ", ["SAMPI"]⟩,
  ⟨0x03E1, "GREEK SMALL LETTER ", ["SAMPI"]⟩,
  ⟨0x03F0, "GREEK KAPPA ", ["SYMBOL"]⟩,
  ⟨0x03F1, "GREEK RHO ", ["SYMBOL"]⟩,
  ⟨0x03F2, "GREEK LUNATE SIGMA ", ["SYMBOL"]⟩,
  ⟨0x03F3, "GREEK LETTER ", ["YOT"]⟩,
  ⟨0x03F4, "GREEK CAPITAL THETA ", ["SYMBOL"]⟩,
  ⟨0x03F5, "GREEK LUNATE EPSILON ", ["SYMBOL"]⟩,
  ⟨0x03F6, "GREEK REVERSED LUNATE EPSILON ", ["SYMBOL"]⟩,
  ⟨0x03F7, "GREEK CAPITAL LETTER ", ["SHO"]⟩,
  ⟨0x03F8, "GREEK SMALL LETTER ", ["SHO"]⟩,
  ⟨0x03F9, "GREEK CAPITAL LUNATE SIGMA ", ["SYMBOL"]⟩,
  ⟨0x03FA, "GREEK CAPITAL LETTER ", ["SAN"]⟩,
  ⟨0x03FB, "GREEK SMALL LETTER ", ["SAN"]⟩,
  ⟨0x03FC, "GREEK RHO WITH STROKE ", ["SYMBOL"]⟩,
  ⟨0x03FD, "GREEK CAPITAL REVERSED LUNATE SIGMA ", ["SYMBOL"]⟩,
  ⟨0x03FE, "GREEK CAPITAL DOTTED LUNATE SIGMA ", ["SYMBOL"]⟩,
  ⟨0x03FF, "GREEK CAPITAL REVERSED DOTTED LUNATE SIGMA ", ["SYMBOL"]⟩,
  ⟨0x0587, "ARMENIAN SMALL LIGATURE ECH ", ["YIWN"]⟩]

/-- Names of letters of other scripts, U+0590 to U+1DFF. -/
def eastern : List NameRun := [
  ⟨0x0675, "ARABIC LETTER HIGH HAMZA ", ["ALEF", "WAW"]⟩,
  ⟨0x0677, "ARABIC LETTER U WITH HAMZA ", ["ABOVE"]⟩,
  ⟨0x0678, "ARABIC LETTER HIGH HAMZA ", ["YEH"]⟩,
  ⟨0x0E33, "THAI CHARACTER SARA ", ["AM"]⟩,
  ⟨0x0EB3, "LAO VOWEL SIGN ", ["AM"]⟩,
  ⟨0x0EDC, "LAO HO ", ["NO", "MO"]⟩,
  ⟨0x0F77, "TIBETAN VOWEL SIGN VOCALIC ", ["RR"]⟩,
  ⟨0x0F79, "TIBETAN VOWEL SIGN VOCALIC ", ["LL"]⟩,
  ⟨0x1D26, "GREEK LETTER SMALL CAPITAL ", ["GAMMA", "LAMDA", "PI", "RHO", "PSI"]⟩,
  ⟨0x1D66, "GREEK SUBSCRIPT SMALL LETTER ", ["BETA", "GAMMA", "RHO", "PHI", "CHI"]⟩]

/-- Names of further Latin and Greek letters, U+1E00 to U+1FFF. -/
def extendedGreek : List NameRun := [
  ⟨0x1E9A, "LATIN SMALL LETTER A WITH RIGHT HALF ", ["RING"]⟩,
  ⟨0x1F00, "GREEK SMALL LETTER ALPHA WITH ", ["PSILI", "DASIA"]⟩,
  ⟨0x1F02, "GREEK SMALL LETTER ALPHA WITH PSILI AND ", ["VARIA"]⟩,
  ⟨0x1F03, "GREEK SMALL LETTER ALPHA WITH DASIA AND ", ["VARIA"]⟩,
  ⟨0x1F04, "GREEK SMALL LETTER ALPHA WITH PSILI AND ", ["OXIA"]⟩,
  ⟨0x1F05, "GREEK SMALL LETTER ALPHA WITH DASIA AND ", ["OXIA"]⟩,
  ⟨0x1F06, "GREEK SMALL LETTER ALPHA WITH PSILI AND ", ["PERISPOMENI"]⟩,
  ⟨0x1F07, "GREEK SMALL LETTER ALPHA WITH DASIA AND ", ["PERISPOMENI"]⟩,
  ⟨0x1F08, "GREEK CAPITAL LETTER ALPHA WITH ", ["PSILI", "DASIA"]⟩,
  ⟨0x1F0A, "GREEK CAPITAL LETTER ALPHA WITH PSILI AND ", ["VARIA"]⟩,
  ⟨0x1F0B, "GREEK CAPITAL LETTER ALPHA WITH DASIA AND ", ["VARIA"]⟩,
  ⟨0x1F0C, "GREEK CAPITAL LETTER ALPHA WITH PSILI AND ", ["OXIA"]⟩,
  ⟨0x1F0D, "GREEK CAPITAL LETTER ALPHA WITH DASIA AND ", ["OXIA"]⟩,
  ⟨0x1F0E, "GREEK CAPITAL LETTER ALPHA WITH PSILI AND ", ["PERISPOMENI"]⟩,
  ⟨0x1F0F, "GREEK CAPITAL LETTER ALPHA WITH DASIA AND ", ["PERISPOMENI"]⟩,
  ⟨0x1F10, "GREEK SMALL LETTER EPSILON WITH ", ["PSILI", "DASIA"]⟩,
  ⟨0x1F12, "GREEK SMALL LETTER EPSILON WITH PSILI AND ", ["VARIA"]⟩,
  ⟨0x1F13, "GREEK SMALL LETTER EPSILON WITH DASIA AND ", ["VARIA"]⟩,
  ⟨0x1F14, "GREEK SMALL LETTER EPSILON WITH PSILI AND ", ["OXIA"]⟩,
  ⟨0x1F15, "GREEK SMALL LETTER EPSILON WITH DASIA AND ", ["OXIA"]⟩,
  ⟨0x1F18, "GREEK CAPITAL LETTER EPSILON WITH ", ["PSILI", "DASIA"]⟩,
  ⟨0x1F1A, "GREEK CAPITAL LETTER EPSILON WITH PSILI AND ", ["VARIA"]⟩,
  ⟨0x1F1B, "GREEK CAPITAL LETTER EPSILON WITH DASIA AND ", ["VARIA"]⟩,
  ⟨0x1F1C, "GREEK CAPITAL LETTER EPSILON WITH PSILI AND ", ["OXIA"]⟩,
  ⟨0x1F1D, "GREEK CAPITAL LETTER EPSILON WITH DASIA AND ", ["OXIA"]⟩,
  ⟨0x1F20, "GREEK SMALL LETTER ETA WITH ", ["PSILI", "DASIA"]⟩,
  ⟨0x1F22, "GREEK SMALL LETTER ETA WITH PSILI AND ", ["VARIA"]⟩,
  ⟨0x1F23, "GREEK SMALL LETTER ETA WITH DASIA AND ", ["VARIA"]⟩,
  ⟨0x1F24, "GREEK SMALL LETTER ETA WITH PSILI AND ", ["OXIA"]⟩,
  ⟨0x1F25, "GREEK SMALL LETTER ETA WITH DASIA AND ", ["OXIA"]⟩,
  ⟨0x1F26, "GREEK SMALL LETTER ETA WITH PSILI AND ", ["PERISPOMENI"]⟩,
  ⟨0x1F27, "GREEK SMALL LETTER ETA WITH DASIA AND ", ["PERISPOMENI"]⟩,
  ⟨0x1F28, "GREEK CAPITAL LETTER ETA WITH ", ["PSILI", "DASIA"]⟩,
  ⟨0x1F2A, "GREEK CAPITAL LETTER ETA WITH PSILI AND ", ["VARIA"]⟩,
  ⟨0x1F2B, "GREEK CAPITAL LETTER ETA WITH DASIA AND ", ["VARIA"]⟩,
  ⟨0x1F2C, "GREEK CAPITAL LETTER ETA WITH PSILI AND ", ["OXIA"]⟩,
  ⟨0x1F2D, "GREEK CAPITAL LETTER ETA WITH DASIA AND ", ["OXIA"]⟩,
  ⟨0x1F2E, "GREEK CAPITAL LETTER ETA WITH PSILI AND ", ["PERISPOMENI"]⟩,
  ⟨0x1F2F, "GREEK CAPITAL LETTER ETA WITH DASIA AND ", ["PERISPOMENI"]⟩,
  ⟨0x1F30, "GREEK SMALL LETTER IOTA WITH ", ["PSILI", "DASIA"]⟩,
  ⟨0x1F32, "GREEK SMALL LETTER IOTA WITH PSILI AND ", ["VARIA"]⟩,
  ⟨0x1F33, "GREEK SMALL LETTER IOTA WITH DASIA AND ", ["VARIA"]⟩,
  ⟨0x1F34, "GREEK SMALL LETTER IOTA WITH PSILI AND ", ["OXIA"]⟩,
  ⟨0x1F35, "GREEK SMALL LETTER IOTA WITH DASIA AND ", ["OXIA"]⟩,
  ⟨0x1F36, "GREEK SMALL LETTER IOTA WITH PSILI AND ", ["PERISPOMENI"]⟩,
  ⟨0x1F37, "GREEK SMALL LETTER IOTA WITH DASIA AND ", ["PERISPOMENI"]⟩,
  ⟨0x1F38, "GREEK CAPITAL LETTER IOTA WITH ", ["PSILI", "DASIA"]⟩,
  ⟨0x1F3A, "GREEK CAPITAL LETTER IOTA WITH PSILI AND ", ["VARIA"]⟩,
  ⟨0x1F3B, "GREEK CAPITAL LETTER IOTA WITH DASIA AND ", ["VARIA"]⟩,
  ⟨0x1F3C, "GREEK CAPITAL LETTER IOTA WITH PSILI AND ", ["OXIA"]⟩,
  ⟨0x1F3D, "GREEK CAPITAL LETTER IOTA WITH DASIA AND ", ["OXIA"]⟩,
  ⟨0x1F3E, "GREEK CAPITAL LETTER IOTA WITH PSILI AND ", ["PERISPOMENI"]⟩,
  ⟨0x1F3F, "GREEK CAPITAL LETTER IOTA WITH DASIA AND ", ["PERISPOMENI"]⟩,
  ⟨0x1F40, "GREEK SMALL LETTER OMICRON WITH ", ["PSILI", "DASIA"]⟩,
  ⟨0x1F42, "GREEK SMALL LETTER OMICRON WITH PSILI AND ", ["VARIA"]⟩,
  ⟨0x1F43, "GREEK SMALL LETTER OMICRON WITH DASIA AND ", ["VARIA"]⟩,
  ⟨0x1F44, "GREEK SMALL LETTER OMICRON WITH PSILI AND ", ["OXIA"]⟩,
  ⟨0x1F45, "GREEK SMALL LETTER OMICRON WITH DASIA AND ", ["OXIA"]⟩,
  ⟨0x1F48, "GREEK CAPITAL LETTER OMICRON WITH ", ["PSILI", "DASIA"]⟩,
  ⟨0x1F4A, "GREEK CAPITAL LETTER OMICRON WITH PSILI AND ", ["VARIA"]⟩,
  ⟨0x1F4B, "GREEK CAPITAL LETTER OMICRON WITH DASIA AND ", ["VARIA"]⟩,
  ⟨0x1F4C, "GREEK CAPITAL LETTER OMICRON WITH PSILI AND ", ["OXIA"]⟩,
  ⟨0x1F4D, "GREEK CAPITAL LETTER OMICRON WITH DASIA AND ", ["OXIA"]⟩,
  ⟨0x1F50, "GREEK SMALL LETTER UPSILON WITH ", ["PSILI", "DASIA"]⟩,
  ⟨0x1F52, "GREEK SMALL LETTER UPSILON WITH PSILI AND ", ["VARIA"]⟩,
  ⟨0x1F53, "GREEK SMALL LETTER UPSILON WITH DASIA AND ", ["VARIA"]⟩,
  ⟨0x1F54, "GREEK SMALL LETTER UPSILON WITH PSILI AND ", ["OXIA"]⟩,
  ⟨0x1F55, "GREEK SMALL LETTER UPSILON WITH DASIA AND ", ["OXIA"]⟩,
  ⟨0x1F56, "GREEK SMALL LETTER UPSILON WITH PSILI AND ", ["PERISPOMENI"]⟩,
  ⟨0x1F57, "GREEK SMALL LETTER UPSILON WITH DASIA AND ", ["PERISPOMENI"]⟩,
  ⟨0x1F59, "GREEK CAPITAL LETTER UPSILON WITH ", ["DASIA"]⟩,
  ⟨0x1F5B, "GREEK CAPITAL LETTER UPSILON WITH DASIA AND ", ["VARIA"]⟩,
  ⟨0x1F5D, "GREEK CAPITAL LETTER UPSILON WITH DASIA AND ", ["OXIA"]⟩,
  ⟨0x1F5F, "GREEK CAPITAL LETTER UPSILON WITH DASIA AND ", ["PERISPOMENI"]⟩,
  ⟨0x1F60, "GREEK SMALL LETTER OMEGA WITH ", ["PSILI", "DASIA"]⟩,
  ⟨0x1F62, "GREEK SMALL LETTER OMEGA WITH PSILI AND ", ["VARIA"]⟩,
  ⟨0x1F63, "GREEK SMALL LETTER OMEGA WITH DASIA AND ", ["VARIA"]⟩,
  ⟨0x1F64, "GREEK SMALL LETTER OMEGA WITH PSILI AND ", ["OXIA"]⟩,
  ⟨0x1F65, "GREEK SMALL LETTER OMEGA WITH DASIA AND ", ["OXIA"]⟩,
  ⟨0x1F66, "GREEK SMALL LETTER OMEGA WITH PSILI AND ", ["PERISPOMENI"]⟩,
  ⟨0x1F67, "GREEK SMALL LETTER OMEGA WITH DASIA AND ", ["PERISPOMENI"]⟩,
  ⟨0x1F68, "GREEK CAPITAL LETTER OMEGA WITH ", ["PSILI", "DASIA"]⟩,
  ⟨0x1F6A, "GREEK CAPITAL LETTER OMEGA WITH PSILI AND ", ["VARIA"]⟩,
  ⟨0x1F6B, "GREEK CAPITAL LETTER OMEGA WITH DASIA AND ", ["VARIA"]⟩,
  ⟨0x1F6C, "GREEK CAPITAL LETTER OMEGA WITH PSILI AND ", ["OXIA"]⟩,
  ⟨0x1F6D, "GREEK CAPITAL LETTER OMEGA WITH DASIA AND ", ["OXIA"]⟩,
  ⟨0x1F6E, "GREEK CAPITAL LETTER OMEGA WITH PSILI AND ", ["PERISPOMENI"]⟩,
  ⟨0x1F6F, "GREEK CAPITAL LETTER OMEGA WITH DASIA AND ", ["PERISPOMENI"]⟩,
  ⟨0x1F70, "GREEK SMALL LETTER ALPHA WITH ", ["VARIA", "OXIA"]⟩,
  ⟨0x1F72, "GREEK SMALL LETTER EPSILON WITH ", ["VARIA", "OXIA"]⟩,
  ⟨0x1F74, "GREEK SMALL LETTER ETA WITH ", ["VARIA", "OXIA"]⟩,
  ⟨0x1F76, "GREEK SMALL LETTER IOTA WITH ", ["VARIA", "OXIA"]⟩,
  ⟨0x1F78, "GREEK SMALL LETTER OMICRON WITH ", ["VARIA", "OXIA"]⟩,
  ⟨0x1F7A, "GREEK SMALL LETTER UPSILON WITH ", ["VARIA", "OXIA"]⟩,
  ⟨0x1F7C, "GREEK SMALL LETTER OMEGA WITH ", ["VARIA", "OXIA"]⟩,
  ⟨0x1F80, "GREEK SMALL LETTER ALPHA WITH PSILI AND ", ["YPOGEGRAMMENI"]⟩,
  ⟨0x1F81, "GREEK SMALL LETTER ALPHA WITH DASIA AND ", ["YPOGEGRAMMENI"]⟩,
  ⟨0x1F82, "GREEK SMALL LETTER ALPHA WITH PSILI AND VARIA AND ", ["YPOGEGRAMMENI"]⟩,
  ⟨0x1F83, "GREEK SMALL LETTER ALPHA WITH DASIA AND VARIA AND ", ["YPOGEGRAMMENI"]⟩,
  ⟨0x1F84, "GREEK SMALL LETTER ALPHA WITH PSILI AND OXIA AND ", ["YPOGEGRAMMENI"]⟩,
  ⟨0x1F85, "GREEK SMALL LETTER ALPHA WITH DASIA AND OXIA AND ", ["YPOGEGRAMMENI"]⟩,
  ⟨0x1F86, "GREEK SMALL LETTER ALPHA WITH PSILI AND PERISPOMENI AND ", ["YPOGEGRAMMENI"]⟩,
  ⟨0x1F87, "GREEK SMALL LETTER ALPHA WITH DASIA AND PERISPOMENI AND ", ["YPOGEGRAMMENI"]⟩,
  ⟨0x1F88, "GREEK CAPITAL LETTER ALPHA WITH PSILI AND ", ["PROSGEGRAMMENI"]⟩,
  ⟨0x1F89, "GREEK CAPITAL LETTER ALPHA WITH DASIA AND ", ["PROSGEGRAMMENI"]⟩,
  ⟨0x1F8A, "GREEK CAPITAL LETTER ALPHA WITH PSILI AND VARIA AND ", ["PROSGEGRAMMENI"]⟩,
  ⟨0x1F8B, "GREEK CAPITAL LETTER ALPHA WITH DASIA AND VARIA AND ", ["PROSGEGRAMMENI"]⟩,
  ⟨0x1F8C, "GREEK CAPITAL LETTER ALPHA WITH PSILI AND OXIA AND ", ["PROSGEGRAMMENI"]⟩,
  ⟨0x1F8D, "GREEK CAPITAL LETTER ALPHA WITH DASIA AND OXIA AND ", ["PROSGEGRAMMENI"]⟩,
  ⟨0x1F8E, "GREEK CAPITAL LETTER ALPHA WITH PSILI AND PERISPOMENI AND ", ["PROSGEGRAMMENI"]⟩,
  ⟨0x1F8F, "GREEK CAPITAL LETTER ALPHA WITH DASIA AND PERISPOMENI AND ", ["PROSGEGRAMMENI"]⟩,
  ⟨0x1F90, "GREEK SMALL LETTER ETA WITH PSILI AND ", ["YPOGEGRAMMENI"]⟩,
  ⟨0x1F91, "GREEK SMALL LETTER ETA WITH DASIA AND ", ["YPOGEGRAMMENI"]⟩,
  ⟨0x1F92, "GREEK SMALL LETTER ETA WITH PSILI AND VARIA AND ", ["YPOGEGRAMMENI"]⟩,
  ⟨0x1F93, "GREEK SMALL LETTER ETA WITH DASIA AND VARIA AND ", ["YPOGEGRAMMENI"]⟩,
  ⟨0x1F94, "GREEK SMALL LETTER ETA WITH PSILI AND OXIA AND ", ["YPOGEGRAMMENI"]⟩,
  ⟨0x1F95, "GREEK SMALL LETTER ETA WITH DASIA AND OXIA AND ", ["YPOGEGRAMMENI"]⟩,
  ⟨0x1F96, "GREEK SMALL LETTER ETA WITH PSILI AND PERISPOMENI AND ", ["YPOGEGRAMMENI"]⟩,
  ⟨0x1F97, "GREEK SMALL LETTER ETA WITH DASIA AND PERISPOMENI AND ", ["YPOGEGRAMMENI"]⟩,
  ⟨0x1F98, "GREEK CAPITAL LETTER ETA WITH PSILI AND ", ["PROSGEGRAMMENI"]⟩,
  ⟨0x1F99, "GREEK CAPITAL LETTER ETA WITH DASIA AND ", ["PROSGEGRAMMENI"]⟩,
  ⟨0x1F9A, "GREEK CAPITAL LETTER ETA WITH PSILI AND VARIA AND ", ["PROSGEGRAMMENI"]⟩,
  ⟨0x1F9B, "GREEK CAPITAL LETTER ETA WITH DASIA AND VARIA AND ", ["PROSGEGRAMMENI"]⟩,
  ⟨0x1F9C, "GREEK CAPITAL LETTER ETA WITH PSILI AND OXIA AND ", ["PROSGEGRAMMENI"]⟩,
  ⟨0x1F9D, "GREEK CAPITAL LETTER ETA WITH DASIA AND OXIA AND ", ["PROSGEGRAMMENI"]⟩,
  ⟨0x1F9E, "GREEK CAPITAL LETTER ETA WITH PSILI AND PERISPOMENI AND ", ["PROSGEGRAMMENI"]⟩,
  ⟨0x1F9F, "GREEK CAPITAL LETTER ETA WITH DASIA AND PERISPOMENI AND ", ["PROSGEGRAMMENI"]⟩,
  ⟨0x1FA0, "GREEK SMALL LETTER OMEGA WITH PSILI AND ", ["YPOGEGRAMMENI"]⟩,
  ⟨0x1FA1, "GREEK SMALL LETTER OMEGA WITH DASIA AND ", ["YPOGEGRAMMENI"]⟩,
  ⟨0x1FA2, "GREEK SMALL LETTER OMEGA WITH PSILI AND VARIA AND ", ["YPOGEGRAMMENI"]⟩,
  ⟨0x1FA3, "GREEK SMALL LETTER OMEGA WITH DASIA AND VARIA AND ", ["YPOGEGRAMMENI"]⟩,
  ⟨0x1FA4, "GREEK SMALL LETTER OMEGA WITH PSILI AND OXIA AND ", ["YPOGEGRAMMENI"]⟩,
  ⟨0x1FA5, "GREEK SMALL LETTER OMEGA WITH DASIA AND OXIA AND ", ["YPOGEGRAMMENI"]⟩,
  ⟨0x1FA6, "GREEK SMALL LETTER OMEGA WITH PSILI AND PERISPOMENI AND ", ["YPOGEGRAMMENI"]⟩,
  ⟨0x1FA7, "GREEK SMALL LETTER OMEGA WITH DASIA AND PERISPOMENI AND ", ["YPOGEGRAMMENI"]⟩,
  ⟨0x1FA8, "GREEK CAPITAL LETTER OMEGA WITH PSILI AND ", ["PROSGEGRAMMENI"]⟩,
  ⟨0x1FA9, "GREEK CAPITAL LETTER OMEGA WITH DASIA AND ", ["PROSGEGRAMMENI"]⟩,
  ⟨0x1FAA, "GREEK CAPITAL LETTER OMEGA WITH PSILI AND VARIA AND ", ["PROSGEGRAMMENI"]⟩,
  ⟨0x1FAB, "GREEK CAPITAL LETTER OMEGA WITH DASIA AND VARIA AND ", ["PROSGEGRAMMENI"]⟩,
  ⟨0x1FAC, "GREEK CAPITAL LETTER OMEGA WITH PSILI AND OXIA AND ", ["PROSGEGRAMMENI"]⟩,
  ⟨0x1FAD, "GREEK CAPITAL LETTER OMEGA WITH DASIA AND OXIA AND ", ["PROSGEGRAMMENI"]⟩,
  ⟨0x1FAE, "GREEK CAPITAL LETTER OMEGA WITH PSILI AND PERISPOMENI AND ", ["PROSGEGRAMMENI"]⟩,
  ⟨0x1FAF, "GREEK CAPITAL LETTER OMEGA WITH DASIA AND PERISPOMENI AND ", ["PROSGEGRAMMENI"]⟩,
  ⟨0x1FB0, "GREEK SMALL LETTER ALPHA WITH ", ["VRACHY", "MACRON"]⟩,
  ⟨0x1FB2, "GREEK SMALL LETTER ALPHA WITH VARIA AND ", ["YPOGEGRAMMENI"]⟩,
  ⟨0x1FB3, "GREEK SMALL LETTER ALPHA WITH ", ["YPOGEGRAMMENI"]⟩,
  ⟨0x1FB4, "GREEK SMALL LETTER ALPHA WITH OXIA AND ", ["YPOGEGRAMMENI"]⟩,
  ⟨0x1FB6, "GREEK SMALL LETTER ALPHA WITH ", ["PERISPOMENI"]⟩,
  ⟨0x1FB7, "GREEK SMALL LETTER ALPHA WITH PERISPOMENI AND ", ["YPOGEGRAMMENI"]⟩,
  ⟨0x1FB8, "GREEK CAPITAL LETTER ALPHA WITH ", ["VRACHY", "MACRON", "VARIA", "OXIA",
    "PROSGEGRAMMENI"]⟩,
  ⟨0x1FBD, "GREEK ", ["KORONIS", "PROSGEGRAMMENI", "PSILI", "PERISPOMENI"]⟩,
  ⟨0x1FC1, "GREEK DIALYTIKA AND ", ["PERISPOMENI"]⟩,
  ⟨0x1FC2, "GREEK SMALL LETTER ETA WITH VARIA AND ", ["YPOGEGRAMMENI"]⟩,
  ⟨0x1FC3, "GREEK SMALL LETTER ETA WITH ", ["YPOGEGRAMMENI"]⟩,
  ⟨0x1FC4, "GREEK SMALL LETTER ETA WITH OXIA AND ", ["YPOGEGRAMMENI"]⟩,
  ⟨0x1FC6, "GREEK SMALL LETTER ETA WITH ", ["PERISPOMENI"]⟩,
  ⟨0x1FC7, "GREEK SMALL LETTER ETA WITH PERISPOMENI AND ", ["YPOGEGRAMMENI"]⟩,
  ⟨0x1FC8, "GREEK CAPITAL LETTER EPSILON WITH ", ["VARIA", "OXIA"]⟩,
  ⟨0x1FCA, "GREEK CAPITAL LETTER ETA WITH ", ["VARIA", "OXIA", "PROSGEGRAMMENI"]⟩,
  ⟨0x1FCD, "GREEK PSILI AND ", ["VARIA", "OXIA", "PERISPOMENI"]⟩,
  ⟨0x1FD0, "GREEK SMALL LETTER IOTA WITH ", ["VRACHY", "MACRON"]⟩,
  ⟨0x1FD2, "GREEK SMALL LETTER IOTA WITH DIALYTIKA AND ", ["VARIA", "OXIA"]⟩,
  ⟨0x1FD6, "GREEK SMALL LETTER IOTA WITH ", ["PERISPOMENI"]⟩,
  ⟨0x1FD7, "GREEK SMALL LETTER IOTA WITH DIALYTIKA AND ", ["PERISPOMENI"]⟩,
  ⟨0x1FD8, "GREEK CAPITAL LETTER IOTA WITH ", ["VRACHY", "MACRON", "VARIA", "OXIA"]⟩,
  ⟨0x1FDD, "GREEK DASIA AND ", ["VARIA", "OXIA", "PERISPOMENI"]⟩,
  ⟨0x1FE0, "GREEK SMALL LETTER UPSILON WITH ", ["VRACHY", "MACRON"]⟩,
  ⟨0x1FE2, "GREEK SMALL LETTER UPSILON WITH DIALYTIKA AND ", ["VARIA", "OXIA"]⟩,
  ⟨0x1FE4, "GREEK SMALL LETTER RHO WITH ", ["PSILI", "DASIA"]⟩,
  ⟨0x1FE6, "GREEK SMALL LETTER UPSILON WITH ", ["PERISPOMENI"]⟩,
  ⟨0x1FE7, "GREEK SMALL LETTER UPSILON WITH DIALYTIKA AND ", ["PERISPOMENI"]⟩,
  ⟨0x1FE8, "GREEK CAPITAL LETTER UPSILON WITH ", ["VRACHY", "MACRON", "VARIA", "OXIA"]⟩,
  ⟨0x1FEC, "GREEK CAPITAL LETTER RHO WITH ", ["DASIA"]⟩,
  ⟨0x1FED, "GREEK DIALYTIKA AND ", ["VARIA", "OXIA"]⟩,
  ⟨0x1FEF, "GREEK ", ["VARIA"]⟩,
  ⟨0x1FF2, "GREEK SMALL LETTER OMEGA WITH VARIA AND ", ["YPOGEGRAMMENI"]⟩,
  ⟨0x1FF3, "GREEK SMALL LETTER OMEGA WITH ", ["YPOGEGRAMMENI"]⟩,
  ⟨0x1FF4, "GREEK SMALL LETTER OMEGA WITH OXIA AND ", ["YPOGEGRAMMENI"]⟩,
  ⟨0x1FF6, "GREEK SMALL LETTER OMEGA WITH ", ["PERISPOMENI"]⟩,
  ⟨0x1FF7, "GREEK SMALL LETTER OMEGA WITH PERISPOMENI AND ", ["YPOGEGRAMMENI"]⟩,
  ⟨0x1FF8, "GREEK CAPITAL LETTER OMICRON WITH ", ["VARIA", "OXIA"]⟩,
  ⟨0x1FFA, "GREEK CAPITAL LETTER OMEGA WITH ", ["VARIA", "OXIA", "PROSGEGRAMMENI"]⟩,
  ⟨0x1FFD, "GREEK ", ["OXIA", "DASIA"]⟩]

end TexGlyph.NameData

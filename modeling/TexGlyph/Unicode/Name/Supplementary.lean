import TexGlyph.Unicode.Name.Basic

/-!
# Names of the supplementary characters

Data of the Unicode Character Database, version 14.0.0, in ascending order of code points.
-/

namespace TexGlyph.NameData

/-- Names of ancient Greek signs and musical symbols, U+10000 to U+1D3FF. -/
def ancientGreek : List NameRun := [
  ⟨0x10140, "GREEK ACROPHONIC ATTIC ONE ", ["QUARTER", "HALF", "DRACHMA"]⟩,
  ⟨0x10143, "GREEK ACROPHONIC ATTIC ", ["FIVE", "FIFTY"]⟩,
  ⟨0x10145, "GREEK ACROPHONIC ATTIC FIVE ", ["HUNDRED", "THOUSAND"]⟩,
  ⟨0x10147, "GREEK ACROPHONIC ATTIC FIFTY ", ["THOUSAND"]⟩,
  ⟨0x10148, "GREEK ACROPHONIC ATTIC FIVE ", ["TALENTS"]⟩,
  ⟨0x10149, "GREEK ACROPHONIC ATTIC TEN ", ["TALENTS"]⟩,
  ⟨0x1014A, "GREEK ACROPHONIC ATTIC FIFTY ", ["TALENTS"]⟩,
  ⟨0x1014B, "GREEK ACROPHONIC ATTIC ONE HUNDRED ", ["TALENTS"]⟩,
  ⟨0x1014C, "GREEK ACROPHONIC ATTIC FIVE HUNDRED ", ["TALENTS"]⟩,
  ⟨0x1014D, "GREEK ACROPHONIC ATTIC ONE THOUSAND ", ["TALENTS"]⟩,
  ⟨0x1014E, "GREEK ACROPHONIC ATTIC FIVE THOUSAND ", ["TALENTS"]⟩,
  ⟨0x1014F, "GREEK ACROPHONIC ATTIC FIVE ", ["STATERS"]⟩,
  ⟨0x10150, "GREEK ACROPHONIC ATTIC TEN ", ["STATERS"]⟩,
  ⟨0x10151, "GREEK ACROPHONIC ATTIC FIFTY ", ["STATERS"]⟩,
  ⟨0x10152, "GREEK ACROPHONIC ATTIC ONE HUNDRED ", ["STATERS"]⟩,
  ⟨0x10153, "GREEK ACROPHONIC ATTIC FIVE HUNDRED ", ["STATERS"]⟩,
  ⟨0x10154, "GREEK ACROPHONIC ATTIC ONE THOUSAND ", ["STATERS"]⟩,
  ⟨0x10155, "GREEK ACROPHONIC ATTIC TEN THOUSAND ", ["STATERS"]⟩,
  ⟨0x10156, "GREEK ACROPHONIC ATTIC FIFTY THOUSAND ", ["STATERS"]⟩,
  ⟨0x10157, "GREEK ACROPHONIC ATTIC TEN ", ["MNAS"]⟩,
  ⟨0x10158, "GREEK ACROPHONIC HERAEUM ONE ", ["PLETHRON"]⟩,
  ⟨0x10159, "GREEK ACROPHONIC THESPIAN ", ["ONE"]⟩,
  ⟨0x1015A, "GREEK ACROPHONIC HERMIONIAN ", ["ONE"]⟩,
  ⟨0x1015B, "GREEK ACROPHONIC EPIDAUREAN ", ["TWO"]⟩,
  ⟨0x1015C, "GREEK ACROPHONIC THESPIAN ", ["TWO"]⟩,
  ⟨0x1015D, "GREEK ACROPHONIC CYRENAIC TWO ", ["DRACHMAS"]⟩,
  ⟨0x1015E, "GREEK ACROPHONIC EPIDAUREAN TWO ", ["DRACHMAS"]⟩,
  ⟨0x1015F, "GREEK ACROPHONIC TROEZENIAN ", ["FIVE", "TEN"]⟩,
  ⟨0x10161, "GREEK ACROPHONIC TROEZENIAN TEN ALTERNATE ", ["FORM"]⟩,
  ⟨0x10162, "GREEK ACROPHONIC HERMIONIAN ", ["TEN"]⟩,
  ⟨0x10163, "GREEK ACROPHONIC MESSENIAN ", ["TEN"]⟩,
  ⟨0x10164, "GREEK ACROPHONIC THESPIAN ", ["TEN", "THIRTY"]⟩,
  ⟨0x10166, "GREEK ACROPHONIC TROEZENIAN ", ["FIFTY"]⟩,
  ⟨0x10167, "GREEK ACROPHONIC TROEZENIAN FIFTY ALTERNATE ", ["FORM"]⟩,
  ⟨0x10168, "GREEK ACROPHONIC HERMIONIAN ", ["FIFTY"]⟩,
  ⟨0x10169, "GREEK ACROPHONIC THESPIAN ", ["FIFTY"]⟩,
  ⟨0x1016A, "GREEK ACROPHONIC THESPIAN ONE ", ["HUNDRED"]⟩,
  ⟨0x1016B, "GREEK ACROPHONIC THESPIAN THREE ", ["HUNDRED"]⟩,
  ⟨0x1016C, "GREEK ACROPHONIC EPIDAUREAN FIVE ", ["HUNDRED"]⟩,
  ⟨0x1016D, "GREEK ACROPHONIC TROEZENIAN FIVE ", ["HUNDRED"]⟩,
  ⟨0x1016E, "GREEK ACROPHONIC THESPIAN FIVE ", ["HUNDRED"]⟩,
  ⟨0x1016F, "GREEK ACROPHONIC CARYSTIAN FIVE ", ["HUNDRED"]⟩,
  ⟨0x10170, "GREEK ACROPHONIC NAXIAN FIVE ", ["HUNDRED"]⟩,
  ⟨0x10171, "GREEK ACROPHONIC THESPIAN ONE ", ["THOUSAND"]⟩,
  ⟨0x10172, "GREEK ACROPHONIC THESPIAN FIVE ", ["THOUSAND"]⟩,
  ⟨0x10173, "GREEK ACROPHONIC DELPHIC FIVE ", ["MNAS"]⟩,
  ⟨0x10174, "GREEK ACROPHONIC STRATIAN FIFTY ", ["MNAS"]⟩,
  ⟨0x10175, "GREEK ONE HALF ", ["SIGN"]⟩,
  ⟨0x10176, "GREEK ONE HALF SIGN ALTERNATE ", ["FORM"]⟩,
  ⟨0x10177, "GREEK TWO THIRDS ", ["SIGN"]⟩,
  ⟨0x10178, "GREEK THREE QUARTERS ", ["SIGN"]⟩,
  ⟨0x10179, "GREEK YEAR ", ["SIGN"]⟩,
  ⟨0x1017A, "GREEK TALENT ", ["SIGN"]⟩,
  ⟨0x1017B, "GREEK DRACHMA ", ["SIGN"]⟩,
  ⟨0x1017C, "GREEK OBOL ", ["SIGN"]⟩,
  ⟨0x1017D, "GREEK TWO OBOLS ", ["SIGN"]⟩,
  ⟨0x1017E, "GREEK THREE OBOLS ", ["SIGN"]⟩,
  ⟨0x1017F, "GREEK FOUR OBOLS ", ["SIGN"]⟩,
  ⟨0x10180, "GREEK FIVE OBOLS ", ["SIGN"]⟩,
  ⟨0x10181, "GREEK METRETES ", ["SIGN"]⟩,
  ⟨0x10182, "GREEK KYATHOS BASE ", ["SIGN"]⟩,
  ⟨0x10183, "GREEK LITRA ", ["SIGN"]⟩,
  ⟨0x10184, "GREEK OUNKIA ", ["SIGN"]⟩,
  ⟨0x10185, "GREEK XESTES ", ["SIGN"]⟩,
  ⟨0x10186, "GREEK ARTABE ", ["SIGN"]⟩,
  ⟨0x10187, "GREEK AROURA ", ["SIGN"]⟩,
  ⟨0x10188, "GREEK GRAMMA ", ["SIGN"]⟩,
  ⟨0x10189, "GREEK TRYBLION BASE ", ["SIGN"]⟩,
  ⟨0x1018A, "GREEK ZERO ", ["SIGN"]⟩,
  ⟨0x1018B, "GREEK ONE QUARTER ", ["SIGN"]⟩,
  ⟨0x1018C, "GREEK SINUSOID ", ["SIGN"]⟩,
  ⟨0x1018D, "GREEK INDICTION ", ["SIGN"]⟩,
  ⟨0x101A0, "GREEK SYMBOL TAU ", ["RHO"]⟩,
  ⟨0x1D200, "GREEK VOCAL NOTATION ", ["SYMBOL-1", "SYMBOL-2", "SYMBOL-3", "SYMBOL-4", "SYMBOL-5",
    "SYMBOL-6", "SYMBOL-7", "SYMBOL-8", "SYMBOL-9", "SYMBOL-10", "SYMBOL-11", "SYMBOL-12",
    "SYMBOL-13", "SYMBOL-14", "SYMBOL-15", "SYMBOL-16", "SYMBOL-17", "SYMBOL-18", "SYMBOL-19",
    "SYMBOL-20", "SYMBOL-21", "SYMBOL-22", "SYMBOL-23", "SYMBOL-24", "SYMBOL-50", "SYMBOL-51",
    "SYMBOL-52", "SYMBOL-53", "SYMBOL-54"]⟩,
  ⟨0x1D21D, "GREEK INSTRUMENTAL NOTATION ", ["SYMBOL-1", "SYMBOL-2", "SYMBOL-4", "SYMBOL-5",
    "SYMBOL-7", "SYMBOL-8", "SYMBOL-11", "SYMBOL-12", "SYMBOL-13", "SYMBOL-14", "SYMBOL-17",
    "SYMBOL-18", "SYMBOL-19", "SYMBOL-23", "SYMBOL-24", "SYMBOL-25", "SYMBOL-26", "SYMBOL-27",
    "SYMBOL-29", "SYMBOL-30", "SYMBOL-32", "SYMBOL-36", "SYMBOL-37", "SYMBOL-38", "SYMBOL-39",
    "SYMBOL-40", "SYMBOL-42", "SYMBOL-43", "SYMBOL-45", "SYMBOL-47", "SYMBOL-48", "SYMBOL-49",
    "SYMBOL-50", "SYMBOL-51", "SYMBOL-52", "SYMBOL-53", "SYMBOL-54"]⟩,
  ⟨0x1D245, "GREEK MUSICAL ", ["LEIMMA"]⟩]

/-- Names of the mathematical alphanumeric symbols, U+1D400 to U+1D7FF. -/
def mathematical : List NameRun := [
  ⟨0x1D400, "MATHEMATICAL BOLD CAPITAL ", ["A", "B", "C", "D", "E", "F", "G", "H", "I", "J", "K",
    "L", "M", "N", "O", "P", "Q", "R", "S", "T", "U", "V", "W", "X", "Y", "Z"]⟩,
  ⟨0x1D41A, "MATHEMATICAL BOLD SMALL ", ["A", "B", "C", "D", "E", "F", "G", "H", "I", "J", "K",
    "L", "M", "N", "O", "P", "Q", "R", "S", "T", "U", "V", "W", "X", "Y", "Z"]⟩,
  ⟨0x1D434, "MATHEMATICAL ITALIC CAPITAL ", ["A", "B", "C", "D", "E", "F", "G", "H", "I", "J",
    "K", "L", "M", "N", "O", "P", "Q", "R", "S", "T", "U", "V", "W", "X", "Y", "Z"]⟩,
  ⟨0x1D44E, "MATHEMATICAL ITALIC SMALL ", ["A", "B", "C", "D", "E", "F", "G"]⟩,
  ⟨0x1D456, "MATHEMATICAL ITALIC SMALL ", ["I", "J", "K", "L", "M", "N", "O", "P", "Q", "R", "S",
    "T", "U", "V", "W", "X", "Y", "Z"]⟩,
  ⟨0x1D468, "MATHEMATICAL BOLD ITALIC CAPITAL ", ["A", "B", "C", "D", "E", "F", "G", "H", "I",
    "J", "K", "L", "M", "N", "O", "P", "Q", "R", "S", "T", "U", "V", "W", "X", "Y", "Z"]⟩,
  ⟨0x1D482, "MATHEMATICAL BOLD ITALIC SMALL ", ["A", "B", "C", "D", "E", "F", "G", "H", "I", "J",
    "K", "L", "M", "N", "O", "P", "Q", "R", "S", "T", "U", "V", "W", "X", "Y", "Z"]⟩,
  ⟨0x1D49C, "MATHEMATICAL SCRIPT CAPITAL ", ["A"]⟩,
  ⟨0x1D49E, "MATHEMATICAL SCRIPT CAPITAL ", ["C", "D"]⟩,
  ⟨0x1D4A2, "MATHEMATICAL SCRIPT CAPITAL ", ["G"]⟩,
  ⟨0x1D4A5, "MATHEMATICAL SCRIPT CAPITAL ", ["J", "K"]⟩,
  ⟨0x1D4A9, "MATHEMATICAL SCRIPT CAPITAL ", ["N", "O", "P", "Q"]⟩,
  ⟨0x1D4AE, "MATHEMATICAL SCRIPT CAPITAL ", ["S", "T", "U", "V", "W", "X", "Y", "Z"]⟩,
  ⟨0x1D4B6, "MATHEMATICAL SCRIPT SMALL ", ["A", "B", "C", "D"]⟩,
  ⟨0x1D4BB, "MATHEMATICAL SCRIPT SMALL ", ["F"]⟩,
  ⟨0x1D4BD, "MATHEMATICAL SCRIPT SMALL ", ["H", "I", "J", "K", "L", "M", "N"]⟩,
  ⟨0x1D4C5, "MATHEMATICAL SCRIPT SMALL ", ["P", "Q", "R", "S", "T", "U", "V", "W", "X", "Y",
    "Z"]⟩,
  ⟨0x1D4D0, "MATHEMATICAL BOLD SCRIPT CAPITAL ", ["A", "B", "C", "D", "E", "F", "G", "H", "I",
    "J", "K", "L", "M", "N", "O", "P", "Q", "R", "S", "T", "U", "V", "W", "X", "Y", "Z"]⟩,
  ⟨0x1D4EA, "MATHEMATICAL BOLD SCRIPT SMALL ", ["A", "B", "C", "D", "E", "F", "G", "H", "I", "J",
    "K", "L", "M", "N", "O", "P", "Q", "R", "S", "T", "U", "V", "W", "X", "Y", "Z"]⟩,
  ⟨0x1D504, "MATHEMATICAL FRAKTUR CAPITAL ", ["A", "B"]⟩,
  ⟨0x1D507, "MATHEMATICAL FRAKTUR CAPITAL ", ["D", "E", "F", "G"]⟩,
  ⟨0x1D50D, "MATHEMATICAL FRAKTUR CAPITAL ", ["J", "K", "L", "M", "N", "O", "P", "Q"]⟩,
  ⟨0x1D516, "MATHEMATICAL FRAKTUR CAPITAL ", ["S", "T", "U", "V", "W", "X", "Y"]⟩,
  ⟨0x1D51E, "MATHEMATICAL FRAKTUR SMALL ", ["A", "B", "C", "D", "E", "F", "G", "H", "I", "J", "K",
    "L", "M", "N", "O", "P", "Q", "R", "S", "T", "U", "V", "W", "X", "Y", "Z"]⟩,
  ⟨0x1D538, "MATHEMATICAL DOUBLE-STRUCK CAPITAL ", ["A", "B"]⟩,
  ⟨0x1D53B, "MATHEMATICAL DOUBLE-STRUCK CAPITAL ", ["D", "E", "F", "G"]⟩,
  ⟨0x1D540, "MATHEMATICAL DOUBLE-STRUCK CAPITAL ", ["I", "J", "K", "L", "M"]⟩,
  ⟨0x1D546, "MATHEMATICAL DOUBLE-STRUCK CAPITAL ", ["O"]⟩,
  ⟨0x1D54A, "MATHEMATICAL DOUBLE-STRUCK CAPITAL ", ["S", "T", "U", "V", "W", "X", "Y"]⟩,
  ⟨0x1D552, "MATHEMATICAL DOUBLE-STRUCK SMALL ", ["A", "B", "C", "D", "E", "F", "G", "H", "I",
    "J", "K", "L", "M", "N", "O", "P", "Q", "R", "S", "T", "U", "V", "W", "X", "Y", "Z"]⟩,
  ⟨0x1D56C, "MATHEMATICAL BOLD FRAKTUR CAPITAL ", ["A", "B", "C", "D", "E", "F", "G", "H", "I",
    "J", "K", "L", "M", "N", "O", "P", "Q", "R", "S", "T", "U", "V", "W", "X", "Y", "Z"]⟩,
  ⟨0x1D586, "MATHEMATICAL BOLD FRAKTUR SMALL ", ["A", "B", "C", "D", "E", "F", "G", "H", "I", "J",
    "K", "L", "M", "N", "O", "P", "Q", "R", "S", "T", "U", "V", "W", "X", "Y", "Z"]⟩,
  ⟨0x1D5A0, "MATHEMATICAL SANS-SERIF CAPITAL ", ["A", "B", "C", "D", "E", "F", "G", "H", "I", "J",
    "K", "L", "M", "N", "O", "P", "Q", "R", "S", "T", "U", "V", "W", "X", "Y", "Z"]⟩,
  ⟨0x1D5BA, "MATHEMATICAL SANS-SERIF SMALL ", ["A", "B", "C", "D", "E", "F", "G", "H", "I", "J",
    "K", "L", "M", "N", "O", "P", "Q", "R", "S", "T", "U", "V", "W", "X", "Y", "Z"]⟩,
  ⟨0x1D5D4, "MATHEMATICAL SANS-SERIF BOLD CAPITAL ", ["A", "B", "C", "D", "E", "F", "G", "H", "I",
    "J", "K", "L", "M", "N", "O", "P", "Q", "R", "S", "T", "U", "V", "W", "X", "Y", "Z"]⟩,
  ⟨0x1D5EE, "MATHEMATICAL SANS-SERIF BOLD SMALL ", ["A", "B", "C", "D", "E", "F", "G", "H", "I",
    "J", "K", "L", "M", "N", "O", "P", "Q", "R", "S", "T", "U", "V", "W", "X", "Y", "Z"]⟩,
  ⟨0x1D608, "MATHEMATICAL SANS-SERIF ITALIC CAPITAL ", ["A", "B", "C", "D", "E", "F", "G", "H",
    "I", "J", "K", "L", "M", "N", "O", "P", "Q", "R", "S", "T", "U", "V", "W", "X", "Y", "Z"]⟩,
  ⟨0x1D622, "MATHEMATICAL SANS-SERIF ITALIC SMALL ", ["A", "B", "C", "D", "E", "F", "G", "H", "I",
    "J", "K", "L", "M", "N", "O", "P", "Q", "R", "S", "T", "U", "V", "W", "X", "Y", "Z"]⟩,
  ⟨0x1D63C, "MATHEMATICAL SANS-SERIF BOLD ITALIC CAPITAL ", ["A", "B", "C", "D", "E", "F", "G",
    "H", "I", "J", "K", "L", "M", "N", "O", "P", "Q", "R", "S", "T", "U", "V", "W", "X", "Y",
    "Z"]⟩,
  ⟨0x1D656, "MATHEMATICAL SANS-SERIF BOLD ITALIC SMALL ", ["A", "B", "C", "D", "E", "F", "G", "H",
    "I", "J", "K", "L", "M", "N", "O", "P", "Q", "R", "S", "T", "U", "V", "W", "X", "Y", "Z"]⟩,
  ⟨0x1D670, "MATHEMATICAL MONOSPACE CAPITAL ", ["A", "B", "C", "D", "E", "F", "G", "H", "I", "J",
    "K", "L", "M", "N", "O", "P", "Q", "R", "S", "T", "U", "V", "W", "X", "Y", "Z"]⟩,
  ⟨0x1D68A, "MATHEMATICAL MONOSPACE SMALL ", ["A", "B", "C", "D", "E", "F", "G", "H", "I", "J",
    "K", "L", "M", "N", "O", "P", "Q", "R", "S", "T", "U", "V", "W", "X", "Y", "Z"]⟩,
  ⟨0x1D6A4, "MATHEMATICAL ITALIC SMALL DOTLESS ", ["I", "J"]⟩,
  ⟨0x1D6A8, "MATHEMATICAL BOLD CAPITAL ", ["ALPHA", "BETA", "GAMMA", "DELTA", "EPSILON", "ZETA",
    "ETA", "THETA", "IOTA", "KAPPA", "LAMDA", "MU", "NU", "XI", "OMICRON", "PI", "RHO"]⟩,
  ⟨0x1D6B9, "MATHEMATICAL BOLD CAPITAL THETA ", ["SYMBOL"]⟩,
  ⟨0x1D6BA, "MATHEMATICAL BOLD CAPITAL ", ["SIGMA", "TAU", "UPSILON", "PHI", "CHI", "PSI",
    "OMEGA"]⟩,
  ⟨0x1D6C1, "MATHEMATICAL BOLD ", ["NABLA"]⟩,
  ⟨0x1D6C2, "MATHEMATICAL BOLD SMALL ", ["ALPHA", "BETA", "GAMMA", "DELTA", "EPSILON", "ZETA",
    "ETA", "THETA", "IOTA", "KAPPA", "LAMDA", "MU", "NU", "XI", "OMICRON", "PI", "RHO"]⟩,
  ⟨0x1D6D3, "MATHEMATICAL BOLD SMALL FINAL ", ["SIGMA"]⟩,
  ⟨0x1D6D4, "MATHEMATICAL BOLD SMALL ", ["SIGMA", "TAU", "UPSILON", "PHI", "CHI", "PSI",
    "OMEGA"]⟩,
  ⟨0x1D6DB, "MATHEMATICAL BOLD PARTIAL ", ["DIFFERENTIAL"]⟩,
  ⟨0x1D6DC, "MATHEMATICAL BOLD EPSILON ", ["SYMBOL"]⟩,
  ⟨0x1D6DD, "MATHEMATICAL BOLD THETA ", ["SYMBOL"]⟩,
  ⟨0x1D6DE, "MATHEMATICAL BOLD KAPPA ", ["SYMBOL"]⟩,
  ⟨0x1D6DF, "MATHEMATICAL BOLD PHI ", ["SYMBOL"]⟩,
  ⟨0x1D6E0, "MATHEMATICAL BOLD RHO ", ["SYMBOL"]⟩,
  ⟨0x1D6E1, "MATHEMATICAL BOLD PI ", ["SYMBOL"]⟩,
  ⟨0x1D6E2, "MATHEMATICAL ITALIC CAPITAL ", ["ALPHA", "BETA", "GAMMA", "DELTA", "EPSILON", "ZETA",
    "ETA", "THETA", "IOTA", "KAPPA", "LAMDA", "MU", "NU", "XI", "OMICRON", "PI", "RHO"]⟩,
  ⟨0x1D6F3, "MATHEMATICAL ITALIC CAPITAL THETA ", ["SYMBOL"]⟩,
  ⟨0x1D6F4, "MATHEMATICAL ITALIC CAPITAL ", ["SIGMA", "TAU", "UPSILON", "PHI", "CHI", "PSI",
    "OMEGA"]⟩,
  ⟨0x1D6FB, "MATHEMATICAL ITALIC ", ["NABLA"]⟩,
  ⟨0x1D6FC, "MATHEMATICAL ITALIC SMALL ", ["ALPHA", "BETA", "GAMMA", "DELTA", "EPSILON", "ZETA",
    "ETA", "THETA", "IOTA", "KAPPA", "LAMDA", "MU", "NU", "XI", "OMICRON", "PI", "RHO"]⟩,
  ⟨0x1D70D, "MATHEMATICAL ITALIC SMALL FINAL ", ["SIGMA"]⟩,
  ⟨0x1D70E, "MATHEMATICAL ITALIC SMALL ", ["SIGMA", "TAU", "UPSILON", "PHI", "CHI", "PSI",
    "OMEGA"]⟩,
  ⟨0x1D715, "MATHEMATICAL ITALIC PARTIAL ", ["DIFFERENTIAL"]⟩,
  ⟨0x1D716, "MATHEMATICAL ITALIC EPSILON ", ["SYMBOL"]⟩,
  ⟨0x1D717, "MATHEMATICAL ITALIC THETA ", ["SYMBOL"]⟩,
  ⟨0x1D718, "MATHEMATICAL ITALIC KAPPA ", ["SYMBOL"]⟩,
  ⟨0x1D719, "MATHEMATICAL ITALIC PHI ", ["SYMBOL"]⟩,
  ⟨0x1D71A, "MATHEMATICAL ITALIC RHO ", ["SYMBOL"]⟩,
  ⟨0x1D71B, "MATHEMATICAL ITALIC PI ", ["SYMBOL"]⟩,
  ⟨0x1D71C, "MATHEMATICAL BOLD ITALIC CAPITAL ", ["ALPHA", "BETA", "GAMMA", "DELTA", "EPSILON",
    "ZETA", "ETA", "THETA", "IOTA", "KAPPA", "LAMDA", "MU", "NU", "XI", "OMICRON", "PI", "RHO"]⟩,
  ⟨0x1D72D, "MATHEMATICAL BOLD ITALIC CAPITAL THETA ", ["SYMBOL"]⟩,
  ⟨0x1D72E, "MATHEMATICAL BOLD ITALIC CAPITAL ", ["SIGMA", "TAU", "UPSILON", "PHI", "CHI", "PSI",
    "OMEGA"]⟩,
  ⟨0x1D735, "MATHEMATICAL BOLD ITALIC ", ["NABLA"]⟩,
  ⟨0x1D736, "MATHEMATICAL BOLD ITALIC SMALL ", ["ALPHA", "BETA", "GAMMA", "DELTA", "EPSILON",
    "ZETA", "ETA", "THETA", "IOTA", "KAPPA", "LAMDA", "MU", "NU", "XI", "OMICRON", "PI", "RHO"]⟩,
  ⟨0x1D747, "MATHEMATICAL BOLD ITALIC SMALL FINAL ", ["SIGMA"]⟩,
  ⟨0x1D748, "MATHEMATICAL BOLD ITALIC SMALL ", ["SIGMA", "TAU", "UPSILON", "PHI", "CHI", "PSI",
    "OMEGA"]⟩,
  ⟨0x1D74F, "MATHEMATICAL BOLD ITALIC PARTIAL ", ["DIFFERENTIAL"]⟩,
  ⟨0x1D750, "MATHEMATICAL BOLD ITALIC EPSILON ", ["SYMBOL"]⟩,
  ⟨0x1D751, "MATHEMATICAL BOLD ITALIC THETA ", ["SYMBOL"]⟩,
  ⟨0x1D752, "MATHEMATICAL BOLD ITALIC KAPPA ", ["SYMBOL"]⟩,
  ⟨0x1D753, "MATHEMATICAL BOLD ITALIC PHI ", ["SYMBOL"]⟩,
  ⟨0x1D754, "MATHEMATICAL BOLD ITALIC RHO ", ["SYMBOL"]⟩,
  ⟨0x1D755, "MATHEMATICAL BOLD ITALIC PI ", ["SYMBOL"]⟩,
  ⟨0x1D756, "MATHEMATICAL SANS-SERIF BOLD CAPITAL ", ["ALPHA", "BETA", "GAMMA", "DELTA",
    "EPSILON", "ZETA", "ETA", "THETA", "IOTA", "KAPPA", "LAMDA", "MU", "NU", "XI", "OMICRON",
    "PI", "RHO"]⟩,
  ⟨0x1D767, "MATHEMATICAL SANS-SERIF BOLD CAPITAL THETA ", ["SYMBOL"]⟩,
  ⟨0x1D768, "MATHEMATICAL SANS-SERIF BOLD CAPITAL ", ["SIGMA", "TAU", "UPSILON", "PHI", "CHI",
    "PSI", "OMEGA"]⟩,
  ⟨0x1D76F, "MATHEMATICAL SANS-SERIF BOLD ", ["NABLA"]⟩,
  ⟨0x1D770, "MATHEMATICAL SANS-SERIF BOLD SMALL ", ["ALPHA", "BETA", "GAMMA", "DELTA", "EPSILON",
    "ZETA", "ETA", "THETA", "IOTA", "KAPPA", "LAMDA", "MU", "NU", "XI", "OMICRON", "PI", "RHO"]⟩,
  ⟨0x1D781, "MATHEMATICAL SANS-SERIF BOLD SMALL FINAL ", ["SIGMA"]⟩,
  ⟨0x1D782, "MATHEMATICAL SANS-SERIF BOLD SMALL ", ["SIGMA", "TAU", "UPSILON", "PHI", "CHI",
    "PSI", "OMEGA"]⟩,
  ⟨0x1D789, "MATHEMATICAL SANS-SERIF BOLD PARTIAL ", ["DIFFERENTIAL"]⟩,
  ⟨0x1D78A, "MATHEMATICAL SANS-SERIF BOLD EPSILON ", ["SYMBOL"]⟩,
  ⟨0x1D78B, "MATHEMATICAL SANS-SERIF BOLD THETA ", ["SYMBOL"]⟩,
  ⟨0x1D78C, "MATHEMATICAL SANS-SERIF BOLD KAPPA ", ["SYMBOL"]⟩,
  ⟨0x1D78D, "MATHEMATICAL SANS-SERIF BOLD PHI ", ["SYMBOL"]⟩,
  ⟨0x1D78E, "MATHEMATICAL SANS-SERIF BOLD RHO ", ["SYMBOL"]⟩,
  ⟨0x1D78F, "MATHEMATICAL SANS-SERIF BOLD PI ", ["SYMBOL"]⟩,
  ⟨0x1D790, "MATHEMATICAL SANS-SERIF BOLD ITALIC CAPITAL ", ["ALPHA", "BETA", "GAMMA", "DELTA",
    "EPSILON", "ZETA", "ETA", "THETA", "IOTA", "KAPPA", "LAMDA", "MU", "NU", "XI", "OMICRON",
    "PI", "RHO"]⟩,
  ⟨0x1D7A1, "MATHEMATICAL SANS-SERIF BOLD ITALIC CAPITAL THETA ", ["SYMBOL"]⟩,
  ⟨0x1D7A2, "MATHEMATICAL SANS-SERIF BOLD ITALIC CAPITAL ", ["SIGMA", "TAU", "UPSILON", "PHI",
    "CHI", "PSI", "OMEGA"]⟩,
  ⟨0x1D7A9, "MATHEMATICAL SANS-SERIF BOLD ITALIC ", ["NABLA"]⟩,
  ⟨0x1D7AA, "MATHEMATICAL SANS-SERIF BOLD ITALIC SMALL ", ["ALPHA", "BETA", "GAMMA", "DELTA",
    "EPSILON", "ZETA", "ETA", "THETA", "IOTA", "KAPPA", "LAMDA", "MU", "NU", "XI", "OMICRON",
    "PI", "RHO"]⟩,
  ⟨0x1D7BB, "MATHEMATICAL SANS-SERIF BOLD ITALIC SMALL FINAL ", ["SIGMA"]⟩,
  ⟨0x1D7BC, "MATHEMATICAL SANS-SERIF BOLD ITALIC SMALL ", ["SIGMA", "TAU", "UPSILON", "PHI",
    "CHI", "PSI", "OMEGA"]⟩,
  ⟨0x1D7C3, "MATHEMATICAL SANS-SERIF BOLD ITALIC PARTIAL ", ["DIFFERENTIAL"]⟩,
  ⟨0x1D7C4, "MATHEMATICAL SANS-SERIF BOLD ITALIC EPSILON ", ["SYMBOL"]⟩,
  ⟨0x1D7C5, "MATHEMATICAL SANS-SERIF BOLD ITALIC THETA ", ["SYMBOL"]⟩,
  ⟨0x1D7C6, "MATHEMATICAL SANS-SERIF BOLD ITALIC KAPPA ", ["SYMBOL"]⟩,
  ⟨0x1D7C7, "MATHEMATICAL SANS-SERIF BOLD ITALIC PHI ", ["SYMBOL"]⟩,
  ⟨0x1D7C8, "MATHEMATICAL SANS-SERIF BOLD ITALIC RHO ", ["SYMBOL"]⟩,
  ⟨0x1D7C9, "MATHEMATICAL SANS-SERIF BOLD ITALIC PI ", ["SYMBOL"]⟩,
  ⟨0x1D7CA, "MATHEMATICAL BOLD CAPITAL ", ["DIGAMMA"]⟩,
  ⟨0x1D7CB, "MATHEMATICAL BOLD SMALL ", ["DIGAMMA"]⟩,
  ⟨0x1D7CE, "MATHEMATICAL BOLD DIGIT ", ["ZERO", "ONE", "TWO", "THREE", "FOUR", "FIVE", "SIX",
    "SEVEN", "EIGHT", "NINE"]⟩,
  ⟨0x1D7D8, "MATHEMATICAL DOUBLE-STRUCK DIGIT ", ["ZERO", "ONE", "TWO", "THREE", "FOUR", "FIVE",
    "SIX", "SEVEN", "EIGHT", "NINE"]⟩,
  ⟨0x1D7E2, "MATHEMATICAL SANS-SERIF DIGIT ", ["ZERO", "ONE", "TWO", "THREE", "FOUR", "FIVE",
    "SIX", "SEVEN", "EIGHT", "NINE"]⟩,
  ⟨0x1D7EC, "MATHEMATICAL SANS-SERIF BOLD DIGIT ", ["ZERO", "ONE", "TWO", "THREE", "FOUR", "FIVE",
    "SIX", "SEVEN", "EIGHT", "NINE"]⟩,
  ⟨0x1D7F6, "MATHEMATICAL MONOSPACE DIGIT ", ["ZERO", "ONE", "TWO", "THREE", "FOUR", "FIVE",
    "SIX", "SEVEN", "EIGHT", "NINE"]⟩]

/-- Names of Arabic mathematical and enclosed symbols, U+1D800 to U+2FFFF. -/
def enclosed : List NameRun := [
  ⟨0x1EE00, "ARABIC MATHEMATICAL ", ["ALEF", "BEH", "JEEM", "DAL"]⟩,
  ⟨0x1EE05, "ARABIC MATHEMATICAL ", ["WAW", "ZAIN", "HAH", "TAH", "YEH", "KAF", "LAM", "MEEM",
    "NOON", "SEEN", "AIN", "FEH", "SAD", "QAF", "REH", "SHEEN", "TEH", "THEH", "KHAH", "THAL",
    "DAD", "ZAH", "GHAIN"]⟩,
  ⟨0x1EE1C, "ARABIC MATHEMATICAL DOTLESS ", ["BEH", "NOON", "FEH", "QAF"]⟩,
  ⟨0x1EE21, "ARABIC MATHEMATICAL INITIAL ", ["BEH", "JEEM"]⟩,
  ⟨0x1EE24, "ARABIC MATHEMATICAL INITIAL ", ["HEH"]⟩,
  ⟨0x1EE27, "ARABIC MATHEMATICAL INITIAL ", ["HAH"]⟩,
  ⟨0x1EE29, "ARABIC MATHEMATICAL INITIAL ", ["YEH", "KAF", "LAM", "MEEM", "NOON", "SEEN", "AIN",
    "FEH", "SAD", "QAF"]⟩,
  ⟨0x1EE34, "ARABIC MATHEMATICAL INITIAL ", ["SHEEN", "TEH", "THEH", "KHAH"]⟩,
  ⟨0x1EE39, "ARABIC MATHEMATICAL INITIAL ", ["DAD"]⟩,
  ⟨0x1EE3B, "ARABIC MATHEMATICAL INITIAL ", ["GHAIN"]⟩,
  ⟨0x1EE42, "ARABIC MATHEMATICAL TAILED ", ["JEEM"]⟩,
  ⟨0x1EE47, "ARABIC MATHEMATICAL TAILED ", ["HAH"]⟩,
  ⟨0x1EE49, "ARABIC MATHEMATICAL TAILED ", ["YEH"]⟩,
  ⟨0x1EE4B, "ARABIC MATHEMATICAL TAILED ", ["LAM"]⟩,
  ⟨0x1EE4D, "ARABIC MATHEMATICAL TAILED ", ["NOON", "SEEN", "AIN"]⟩,
  ⟨0x1EE51, "ARABIC MATHEMATICAL TAILED ", ["SAD", "QAF"]⟩,
  ⟨0x1EE54, "ARABIC MATHEMATICAL TAILED ", ["SHEEN"]⟩,
  ⟨0x1EE57, "ARABIC MATHEMATICAL TAILED ", ["KHAH"]⟩,
  ⟨0x1EE59, "ARABIC MATHEMATICAL TAILED ", ["DAD"]⟩,
  ⟨0x1EE5B, "ARABIC MATHEMATICAL TAILED ", ["GHAIN"]⟩,
  ⟨0x1EE5D, "ARABIC MATHEMATICAL TAILED DOTLESS ", ["NOON"]⟩,
  ⟨0x1EE5F, "ARABIC MATHEMATICAL TAILED DOTLESS ", ["QAF"]⟩,
  ⟨0x1EE61, "ARABIC MATHEMATICAL STRETCHED ", ["BEH", "JEEM"]⟩,
  ⟨0x1EE64, "ARABIC MATHEMATICAL STRETCHED ", ["HEH"]⟩,
  ⟨0x1EE67, "ARABIC MATHEMATICAL STRETCHED ", ["HAH", "TAH", "YEH", "KAF"]⟩,
  ⟨0x1EE6C, "ARABIC MATHEMATICAL STRETCHED ", ["MEEM", "NOON", "SEEN", "AIN", "FEH", "SAD",
    "QAF"]⟩,
  ⟨0x1EE74, "ARABIC MATHEMATICAL STRETCHED ", ["SHEEN", "TEH", "THEH", "KHAH"]⟩,
  ⟨0x1EE79, "ARABIC MATHEMATICAL STRETCHED ", ["DAD", "ZAH", "GHAIN"]⟩,
  ⟨0x1EE7C, "ARABIC MATHEMATICAL STRETCHED DOTLESS ", ["BEH"]⟩,
  ⟨0x1EE7E, "ARABIC MATHEMATICAL STRETCHED DOTLESS ", ["FEH"]⟩,
  ⟨0x1EE80, "ARABIC MATHEMATICAL LOOPED ", ["ALEF", "BEH", "JEEM", "DAL", "HEH", "WAW", "ZAIN",
    "HAH", "TAH", "YEH"]⟩,
  ⟨0x1EE8B, "ARABIC MATHEMATICAL LOOPED ", ["LAM", "MEEM", "NOON", "SEEN", "AIN", "FEH", "SAD",
    "QAF", "REH", "SHEEN", "TEH", "THEH", "KHAH", "THAL", "DAD", "ZAH", "GHAIN"]⟩,
  ⟨0x1EEA1, "ARABIC MATHEMATICAL DOUBLE-STRUCK ", ["BEH", "JEEM", "DAL"]⟩,
  ⟨0x1EEA5, "ARABIC MATHEMATICAL DOUBLE-STRUCK ", ["WAW", "ZAIN", "HAH", "TAH", "YEH"]⟩,
  ⟨0x1EEAB, "ARABIC MATHEMATICAL DOUBLE-STRUCK ", ["LAM", "MEEM", "NOON", "SEEN", "AIN", "FEH",
    "SAD", "QAF", "REH", "SHEEN", "TEH", "THEH", "KHAH", "THAL", "DAD", "ZAH", "GHAIN"]⟩,
  ⟨0x1F100, "DIGIT ZERO FULL ", ["STOP"]⟩,
  ⟨0x1F101, "DIGIT ZERO ", ["COMMA"]⟩,
  ⟨0x1F102, "DIGIT ONE ", ["COMMA"]⟩,
  ⟨0x1F103, "DIGIT TWO ", ["COMMA"]⟩,
  ⟨0x1F104, "DIGIT THREE ", ["COMMA"]⟩,
  ⟨0x1F105, "DIGIT FOUR ", ["COMMA"]⟩,
  ⟨0x1F106, "DIGIT FIVE ", ["COMMA"]⟩,
  ⟨0x1F107, "DIGIT SIX ", ["COMMA"]⟩,
  ⟨0x1F108, "DIGIT SEVEN ", ["COMMA"]⟩,
  ⟨0x1F109, "DIGIT EIGHT ", ["COMMA"]⟩,
  ⟨0x1F10A, "DIGIT NINE ", ["COMMA"]⟩,
  ⟨0x1F110, "PARENTHESIZED LATIN CAPITAL LETTER ", ["A", "B", "C", "D", "E", "F", "G", "H", "I",
    "J", "K", "L", "M", "N", "O", "P", "Q", "R", "S", "T", "U", "V", "W", "X", "Y", "Z"]⟩,
  ⟨0x1F12A, "TORTOISE SHELL BRACKETED LATIN CAPITAL LETTER ", ["S"]⟩,
  ⟨0x1F240, "TORTOISE SHELL BRACKETED CJK UNIFIED ", ["IDEOGRAPH-672C", "IDEOGRAPH-4E09",
    "IDEOGRAPH-4E8C", "IDEOGRAPH-5B89", "IDEOGRAPH-70B9", "IDEOGRAPH-6253", "IDEOGRAPH-76D7",
    "IDEOGRAPH-52DD", "IDEOGRAPH-6557"]⟩,
  ⟨0x1FBF0, "SEGMENTED DIGIT ", ["ZERO", "ONE", "TWO", "THREE", "FOUR", "FIVE", "SIX", "SEVEN",
    "EIGHT", "NINE"]⟩]

end TexGlyph.NameData

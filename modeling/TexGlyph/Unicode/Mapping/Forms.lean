import TexGlyph.Unicode.Mapping.Basic

/-!
# Mappings of presentation forms

Data of the Unicode Character Database, version 14.0.0, in ascending order of code points.
-/

namespace TexGlyph.MappingData

/-- Mappings of the alphabetic and the first Arabic presentation forms, U+FB00 to U+FDFF. -/
def ligatures : List MappingRun := [
  ⟨0xFB00, some .compat, [[0x0066, 0x0066], [0x0066, 0x0069], [0x0066, 0x006C],
    [0x0066, 0x0066, 0x0069], [0x0066, 0x0066, 0x006C], [0x017F, 0x0074], [0x0073, 0x0074]]⟩,
  ⟨0xFB13, some .compat, [[0x0574, 0x0576], [0x0574, 0x0565], [0x0574, 0x056B], [0x057E, 0x0576],
    [0x0574, 0x056D]]⟩,
  ⟨0xFB1D, none, [[0x05D9, 0x05B4]]⟩,
  ⟨0xFB1F, none, [[0x05F2, 0x05B7]]⟩,
  ⟨0xFB20, some .font, [[0x05E2], [0x05D0], [0x05D3], [0x05D4], [0x05DB], [0x05DC], [0x05DD],
    [0x05E8], [0x05EA], [0x002B]]⟩,
  ⟨0xFB2A, none, [[0x05E9, 0x05C1], [0x05E9, 0x05C2], [0xFB49, 0x05C1], [0xFB49, 0x05C2],
    [0x05D0, 0x05B7], [0x05D0, 0x05B8], [0x05D0, 0x05BC], [0x05D1, 0x05BC], [0x05D2, 0x05BC],
    [0x05D3, 0x05BC], [0x05D4, 0x05BC], [0x05D5, 0x05BC], [0x05D6, 0x05BC]]⟩,
  ⟨0xFB38, none, [[0x05D8, 0x05BC], [0x05D9, 0x05BC], [0x05DA, 0x05BC], [0x05DB, 0x05BC],
    [0x05DC, 0x05BC]]⟩,
  ⟨0xFB3E, none, [[0x05DE, 0x05BC]]⟩,
  ⟨0xFB40, none, [[0x05E0, 0x05BC], [0x05E1, 0x05BC]]⟩,
  ⟨0xFB43, none, [[0x05E3, 0x05BC], [0x05E4, 0x05BC]]⟩,
  ⟨0xFB46, none, [[0x05E6, 0x05BC], [0x05E7, 0x05BC], [0x05E8, 0x05BC], [0x05E9, 0x05BC],
    [0x05EA, 0x05BC], [0x05D5, 0x05B9], [0x05D1, 0x05BF], [0x05DB, 0x05BF], [0x05E4, 0x05BF]]⟩,
  ⟨0xFB4F, some .compat, [[0x05D0, 0x05DC]]⟩,
  ⟨0xFB50, some .isolated, [[0x0671]]⟩,
  ⟨0xFB51, some .final, [[0x0671]]⟩,
  ⟨0xFB52, some .isolated, [[0x067B]]⟩,
  ⟨0xFB53, some .final, [[0x067B]]⟩,
  ⟨0xFB54, some .initial, [[0x067B]]⟩,
  ⟨0xFB55, some .medial, [[0x067B]]⟩,
  ⟨0xFB56, some .isolated, [[0x067E]]⟩,
  ⟨0xFB57, some .final, [[0x067E]]⟩,
  ⟨0xFB58, some .initial, [[0x067E]]⟩,
  ⟨0xFB59, some .medial, [[0x067E]]⟩,
  ⟨0xFB5A, some .isolated, [[0x0680]]⟩,
  ⟨0xFB5B, some .final, [[0x0680]]⟩,
  ⟨0xFB5C, some .initial, [[0x0680]]⟩,
  ⟨0xFB5D, some .medial, [[0x0680]]⟩,
  ⟨0xFB5E, some .isolated, [[0x067A]]⟩,
  ⟨0xFB5F, some .final, [[0x067A]]⟩,
  ⟨0xFB60, some .initial, [[0x067A]]⟩,
  ⟨0xFB61, some .medial, [[0x067A]]⟩,
  ⟨0xFB62, some .isolated, [[0x067F]]⟩,
  ⟨0xFB63, some .final, [[0x067F]]⟩,
  ⟨0xFB64, some .initial, [[0x067F]]⟩,
  ⟨0xFB65, some .medial, [[0x067F]]⟩,
  ⟨0xFB66, some .isolated, [[0x0679]]⟩,
  ⟨0xFB67, some .final, [[0x0679]]⟩,
  ⟨0xFB68, some .initial, [[0x0679]]⟩,
  ⟨0xFB69, some .medial, [[0x0679]]⟩,
  ⟨0xFB6A, some .isolated, [[0x06A4]]⟩,
  ⟨0xFB6B, some .final, [[0x06A4]]⟩,
  ⟨0xFB6C, some .initial, [[0x06A4]]⟩,
  ⟨0xFB6D, some .medial, [[0x06A4]]⟩,
  ⟨0xFB6E, some .isolated, [[0x06A6]]⟩,
  ⟨0xFB6F, some .final, [[0x06A6]]⟩,
  ⟨0xFB70, some .initial, [[0x06A6]]⟩,
  ⟨0xFB71, some .medial, [[0x06A6]]⟩,
  ⟨0xFB72, some .isolated, [[0x0684]]⟩,
  ⟨0xFB73, some .final, [[0x0684]]⟩,
  ⟨0xFB74, some .initial, [[0x0684]]⟩,
  ⟨0xFB75, some .medial, [[0x0684]]⟩,
  ⟨0xFB76, some .isolated, [[0x0683]]⟩,
  ⟨0xFB77, some .final, [[0x0683]]⟩,
  ⟨0xFB78, some .initial, [[0x0683]]⟩,
  ⟨0xFB79, some .medial, [[0x0683]]⟩,
  ⟨0xFB7A, some .isolated, [[0x0686]]⟩,
  ⟨0xFB7B, some .final, [[0x0686]]⟩,
  ⟨0xFB7C, some .initial, [[0x0686]]⟩,
  ⟨0xFB7D, some .medial, [[0x0686]]⟩,
  ⟨0xFB7E, some .isolated, [[0x0687]]⟩,
  ⟨0xFB7F, some .final, [[0x0687]]⟩,
  ⟨0xFB80, some .initial, [[0x0687]]⟩,
  ⟨0xFB81, some .medial, [[0x0687]]⟩,
  ⟨0xFB82, some .isolated, [[0x068D]]⟩,
  ⟨0xFB83, some .final, [[0x068D]]⟩,
  ⟨0xFB84, some .isolated, [[0x068C]]⟩,
  ⟨0xFB85, some .final, [[0x068C]]⟩,
  ⟨0xFB86, some .isolated, [[0x068E]]⟩,
  ⟨0xFB87, some .final, [[0x068E]]⟩,
  ⟨0xFB88, some .isolated, [[0x0688]]⟩,
  ⟨0xFB89, some .final, [[0x0688]]⟩,
  ⟨0xFB8A, some .isolated, [[0x0698]]⟩,
  ⟨0xFB8B, some .final, [[0x0698]]⟩,
  ⟨0xFB8C, some .isolated, [[0x0691]]⟩,
  ⟨0xFB8D, some .final, [[0x0691]]⟩,
  ⟨0xFB8E, some .isolated, [[0x06A9]]⟩,
  ⟨0xFB8F, some .final, [[0x06A9]]⟩,
  ⟨0xFB90, some .initial, [[0x06A9]]⟩,
  ⟨0xFB91, some .medial, [[0x06A9]]⟩,
  ⟨0xFB92, some .isolated, [[0x06AF]]⟩,
  ⟨0xFB93, some .final, [[0x06AF]]⟩,
  ⟨0xFB94, some .initial, [[0x06AF]]⟩,
  ⟨0xFB95, some .medial, [[0x06AF]]⟩,
  ⟨0xFB96, some .isolated, [[0x06B3]]⟩,
  ⟨0xFB97, some .final, [[0x06B3]]⟩,
  ⟨0xFB98, some .initial, [[0x06B3]]⟩,
  ⟨0xFB99, some .medial, [[0x06B3]]⟩,
  ⟨0xFB9A, some .isolated, [[0x06B1]]⟩,
  ⟨0xFB9B, some .final, [[0x06B1]]⟩,
  ⟨0xFB9C, some .initial, [[0x06B1]]⟩,
  ⟨0xFB9D, some .medial, [[0x06B1]]⟩,
  ⟨0xFB9E, some .isolated, [[0x06BA]]⟩,
  ⟨0xFB9F, some .final, [[0x06BA]]⟩,
  ⟨0xFBA0, some .isolated, [[0x06BB]]⟩,
  ⟨0xFBA1, some .final, [[0x06BB]]⟩,
  ⟨0xFBA2, some .initial, [[0x06BB]]⟩,
  ⟨0xFBA3, some .medial, [[0x06BB]]⟩,
  ⟨0xFBA4, some .isolated, [[0x06C0]]⟩,
  ⟨0xFBA5, some .final, [[0x06C0]]⟩,
  ⟨0xFBA6, some .isolated, [[0x06C1]]⟩,
  ⟨0xFBA7, some .final, [[0x06C1]]⟩,
  ⟨0xFBA8, some .initial, [[0x06C1]]⟩,
  ⟨0xFBA9, some .medial, [[0x06C1]]⟩,
  ⟨0xFBAA, some .isolated, [[0x06BE]]⟩,
  ⟨0xFBAB, some .final, [[0x06BE]]⟩,
  ⟨0xFBAC, some .initial, [[0x06BE]]⟩,
  ⟨0xFBAD, some .medial, [[0x06BE]]⟩,
  ⟨0xFBAE, some .isolated, [[0x06D2]]⟩,
  ⟨0xFBAF, some .final, [[0x06D2]]⟩,
  ⟨0xFBB0, some .isolated, [[0x06D3]]⟩,
  ⟨0xFBB1, some .final, [[0x06D3]]⟩,
  ⟨0xFBD3, some .isolated, [[0x06AD]]⟩,
  ⟨0xFBD4, some .final, [[0x06AD]]⟩,
  ⟨0xFBD5, some .initial, [[0x06AD]]⟩,
  ⟨0xFBD6, some .medial, [[0x06AD]]⟩,
  ⟨0xFBD7, some .isolated, [[0x06C7]]⟩,
  ⟨0xFBD8, some .final, [[0x06C7]]⟩,
  ⟨0xFBD9, some .isolated, [[0x06C6]]⟩,
  ⟨0xFBDA, some .final, [[0x06C6]]⟩,
  ⟨0xFBDB, some .isolated, [[0x06C8]]⟩,
  ⟨0xFBDC, some .final, [[0x06C8]]⟩,
  ⟨0xFBDD, some .isolated, [[0x0677], [0x06CB]]⟩,
  ⟨0xFBDF, some .final, [[0x06CB]]⟩,
  ⟨0xFBE0, some .isolated, [[0x06C5]]⟩,
  ⟨0xFBE1, some .final, [[0x06C5]]⟩,
  ⟨0xFBE2, some .isolated, [[0x06C9]]⟩,
  ⟨0xFBE3, some .final, [[0x06C9]]⟩,
  ⟨0xFBE4, some .isolated, [[0x06D0]]⟩,
  ⟨0xFBE5, some .final, [[0x06D0]]⟩,
  ⟨0xFBE6, some .initial, [[0x06D0]]⟩,
  ⟨0xFBE7, some .medial, [[0x06D0]]⟩,
  ⟨0xFBE8, some .initial, [[0x0649]]⟩,
  ⟨0xFBE9, some .medial, [[0x0649]]⟩,
  ⟨0xFBEA, some .isolated, [[0x0626, 0x0627]]⟩,
  ⟨0xFBEB, some .final, [[0x0626, 0x0627]]⟩,
  ⟨0xFBEC, some .isolated, [[0x0626, 0x06D5]]⟩,
  ⟨0xFBED, some .final, [[0x0626, 0x06D5]]⟩,
  ⟨0xFBEE, some .isolated, [[0x0626, 0x0648]]⟩,
  ⟨0xFBEF, some .final, [[0x0626, 0x0648]]⟩,
  ⟨0xFBF0, some .isolated, [[0x0626, 0x06C7]]⟩,
  ⟨0xFBF1, some .final, [[0x0626, 0x06C7]]⟩,
  ⟨0xFBF2, some .isolated, [[0x0626, 0x06C6]]⟩,
  ⟨0xFBF3, some .final, [[0x0626, 0x06C6]]⟩,
  ⟨0xFBF4, some .isolated, [[0x0626, 0x06C8]]⟩,
  ⟨0xFBF5, some .final, [[0x0626, 0x06C8]]⟩,
  ⟨0xFBF6, some .isolated, [[0x0626, 0x06D0]]⟩,
  ⟨0xFBF7, some .final, [[0x0626, 0x06D0]]⟩,
  ⟨0xFBF8, some .initial, [[0x0626, 0x06D0]]⟩,
  ⟨0xFBF9, some .isolated, [[0x0626, 0x0649]]⟩,
  ⟨0xFBFA, some .final, [[0x0626, 0x0649]]⟩,
  ⟨0xFBFB, some .initial, [[0x0626, 0x0649]]⟩,
  ⟨0xFBFC, some .isolated, [[0x06CC]]⟩,
  ⟨0xFBFD, some .final, [[0x06CC]]⟩,
  ⟨0xFBFE, some .initial, [[0x06CC]]⟩,
  ⟨0xFBFF, some .medial, [[0x06CC]]⟩,
  ⟨0xFC00, some .isolated, [[0x0626, 0x062C], [0x0626, 0x062D], [0x0626, 0x0645],
    [0x0626, 0x0649], [0x0626, 0x064A], [0x0628, 0x062C], [0x0628, 0x062D], [0x0628, 0x062E],
    [0x0628, 0x0645], [0x0628, 0x0649], [0x0628, 0x064A], [0x062A, 0x062C], [0x062A, 0x062D],
    [0x062A, 0x062E], [0x062A, 0x0645], [0x062A, 0x0649], [0x062A, 0x064A], [0x062B, 0x062C],
    [0x062B, 0x0645], [0x062B, 0x0649], [0x062B, 0x064A], [0x062C, 0x062D], [0x062C, 0x0645],
    [0x062D, 0x062C], [0x062D, 0x0645], [0x062E, 0x062C], [0x062E, 0x062D], [0x062E, 0x0645],
    [0x0633, 0x062C], [0x0633, 0x062D], [0x0633, 0x062E], [0x0633, 0x0645], [0x0635, 0x062D],
    [0x0635, 0x0645], [0x0636, 0x062C], [0x0636, 0x062D], [0x0636, 0x062E], [0x0636, 0x0645],
    [0x0637, 0x062D], [0x0637, 0x0645], [0x0638, 0x0645], [0x0639, 0x062C], [0x0639, 0x0645],
    [0x063A, 0x062C], [0x063A, 0x0645], [0x0641, 0x062C], [0x0641, 0x062D], [0x0641, 0x062E],
    [0x0641, 0x0645], [0x0641, 0x0649], [0x0641, 0x064A], [0x0642, 0x062D], [0x0642, 0x0645],
    [0x0642, 0x0649], [0x0642, 0x064A], [0x0643, 0x0627], [0x0643, 0x062C], [0x0643, 0x062D],
    [0x0643, 0x062E], [0x0643, 0x0644], [0x0643, 0x0645], [0x0643, 0x0649], [0x0643, 0x064A],
    [0x0644, 0x062C], [0x0644, 0x062D], [0x0644, 0x062E], [0x0644, 0x0645], [0x0644, 0x0649],
    [0x0644, 0x064A], [0x0645, 0x062C], [0x0645, 0x062D], [0x0645, 0x062E], [0x0645, 0x0645],
    [0x0645, 0x0649], [0x0645, 0x064A], [0x0646, 0x062C], [0x0646, 0x062D], [0x0646, 0x062E],
    [0x0646, 0x0645], [0x0646, 0x0649], [0x0646, 0x064A], [0x0647, 0x062C], [0x0647, 0x0645],
    [0x0647, 0x0649], [0x0647, 0x064A], [0x064A, 0x062C], [0x064A, 0x062D], [0x064A, 0x062E],
    [0x064A, 0x0645], [0x064A, 0x0649], [0x064A, 0x064A], [0x0630, 0x0670], [0x0631, 0x0670],
    [0x0649, 0x0670], [0x0020, 0x064C, 0x0651], [0x0020, 0x064D, 0x0651],
    [0x0020, 0x064E, 0x0651], [0x0020, 0x064F, 0x0651], [0x0020, 0x0650, 0x0651],
    [0x0020, 0x0651, 0x0670]]⟩,
  ⟨0xFC64, some .final, [[0x0626, 0x0631], [0x0626, 0x0632], [0x0626, 0x0645], [0x0626, 0x0646],
    [0x0626, 0x0649], [0x0626, 0x064A], [0x0628, 0x0631], [0x0628, 0x0632], [0x0628, 0x0645],
    [0x0628, 0x0646], [0x0628, 0x0649], [0x0628, 0x064A], [0x062A, 0x0631], [0x062A, 0x0632],
    [0x062A, 0x0645], [0x062A, 0x0646], [0x062A, 0x0649], [0x062A, 0x064A], [0x062B, 0x0631],
    [0x062B, 0x0632], [0x062B, 0x0645], [0x062B, 0x0646], [0x062B, 0x0649], [0x062B, 0x064A],
    [0x0641, 0x0649], [0x0641, 0x064A], [0x0642, 0x0649], [0x0642, 0x064A], [0x0643, 0x0627],
    [0x0643, 0x0644], [0x0643, 0x0645], [0x0643, 0x0649], [0x0643, 0x064A], [0x0644, 0x0645],
    [0x0644, 0x0649], [0x0644, 0x064A], [0x0645, 0x0627], [0x0645, 0x0645], [0x0646, 0x0631],
    [0x0646, 0x0632], [0x0646, 0x0645], [0x0646, 0x0646], [0x0646, 0x0649], [0x0646, 0x064A],
    [0x0649, 0x0670], [0x064A, 0x0631], [0x064A, 0x0632], [0x064A, 0x0645], [0x064A, 0x0646],
    [0x064A, 0x0649], [0x064A, 0x064A]]⟩,
  ⟨0xFC97, some .initial, [[0x0626, 0x062C], [0x0626, 0x062D], [0x0626, 0x062E], [0x0626, 0x0645],
    [0x0626, 0x0647], [0x0628, 0x062C], [0x0628, 0x062D], [0x0628, 0x062E], [0x0628, 0x0645],
    [0x0628, 0x0647], [0x062A, 0x062C], [0x062A, 0x062D], [0x062A, 0x062E], [0x062A, 0x0645],
    [0x062A, 0x0647], [0x062B, 0x0645], [0x062C, 0x062D], [0x062C, 0x0645], [0x062D, 0x062C],
    [0x062D, 0x0645], [0x062E, 0x062C], [0x062E, 0x0645], [0x0633, 0x062C], [0x0633, 0x062D],
    [0x0633, 0x062E], [0x0633, 0x0645], [0x0635, 0x062D], [0x0635, 0x062E], [0x0635, 0x0645],
    [0x0636, 0x062C], [0x0636, 0x062D], [0x0636, 0x062E], [0x0636, 0x0645], [0x0637, 0x062D],
    [0x0638, 0x0645], [0x0639, 0x062C], [0x0639, 0x0645], [0x063A, 0x062C], [0x063A, 0x0645],
    [0x0641, 0x062C], [0x0641, 0x062D], [0x0641, 0x062E], [0x0641, 0x0645], [0x0642, 0x062D],
    [0x0642, 0x0645], [0x0643, 0x062C], [0x0643, 0x062D], [0x0643, 0x062E], [0x0643, 0x0644],
    [0x0643, 0x0645], [0x0644, 0x062C], [0x0644, 0x062D], [0x0644, 0x062E], [0x0644, 0x0645],
    [0x0644, 0x0647], [0x0645, 0x062C], [0x0645, 0x062D], [0x0645, 0x062E], [0x0645, 0x0645],
    [0x0646, 0x062C], [0x0646, 0x062D], [0x0646, 0x062E], [0x0646, 0x0645], [0x0646, 0x0647],
    [0x0647, 0x062C], [0x0647, 0x0645], [0x0647, 0x0670], [0x064A, 0x062C], [0x064A, 0x062D],
    [0x064A, 0x062E], [0x064A, 0x0645], [0x064A, 0x0647]]⟩,
  ⟨0xFCDF, some .medial, [[0x0626, 0x0645], [0x0626, 0x0647], [0x0628, 0x0645], [0x0628, 0x0647],
    [0x062A, 0x0645], [0x062A, 0x0647], [0x062B, 0x0645], [0x062B, 0x0647], [0x0633, 0x0645],
    [0x0633, 0x0647], [0x0634, 0x0645], [0x0634, 0x0647], [0x0643, 0x0644], [0x0643, 0x0645],
    [0x0644, 0x0645], [0x0646, 0x0645], [0x0646, 0x0647], [0x064A, 0x0645], [0x064A, 0x0647],
    [0x0640, 0x064E, 0x0651], [0x0640, 0x064F, 0x0651], [0x0640, 0x0650, 0x0651]]⟩,
  ⟨0xFCF5, some .isolated, [[0x0637, 0x0649], [0x0637, 0x064A], [0x0639, 0x0649],
    [0x0639, 0x064A], [0x063A, 0x0649], [0x063A, 0x064A], [0x0633, 0x0649], [0x0633, 0x064A],
    [0x0634, 0x0649], [0x0634, 0x064A], [0x062D, 0x0649], [0x062D, 0x064A], [0x062C, 0x0649],
    [0x062C, 0x064A], [0x062E, 0x0649], [0x062E, 0x064A], [0x0635, 0x0649], [0x0635, 0x064A],
    [0x0636, 0x0649], [0x0636, 0x064A], [0x0634, 0x062C], [0x0634, 0x062D], [0x0634, 0x062E],
    [0x0634, 0x0645], [0x0634, 0x0631], [0x0633, 0x0631], [0x0635, 0x0631], [0x0636, 0x0631]]⟩,
  ⟨0xFD11, some .final, [[0x0637, 0x0649], [0x0637, 0x064A], [0x0639, 0x0649], [0x0639, 0x064A],
    [0x063A, 0x0649], [0x063A, 0x064A], [0x0633, 0x0649], [0x0633, 0x064A], [0x0634, 0x0649],
    [0x0634, 0x064A], [0x062D, 0x0649], [0x062D, 0x064A], [0x062C, 0x0649], [0x062C, 0x064A],
    [0x062E, 0x0649], [0x062E, 0x064A], [0x0635, 0x0649], [0x0635, 0x064A], [0x0636, 0x0649],
    [0x0636, 0x064A], [0x0634, 0x062C], [0x0634, 0x062D], [0x0634, 0x062E], [0x0634, 0x0645],
    [0x0634, 0x0631], [0x0633, 0x0631], [0x0635, 0x0631], [0x0636, 0x0631]]⟩,
  ⟨0xFD2D, some .initial, [[0x0634, 0x062C], [0x0634, 0x062D], [0x0634, 0x062E], [0x0634, 0x0645],
    [0x0633, 0x0647], [0x0634, 0x0647], [0x0637, 0x0645]]⟩,
  ⟨0xFD34, some .medial, [[0x0633, 0x062C], [0x0633, 0x062D], [0x0633, 0x062E], [0x0634, 0x062C],
    [0x0634, 0x062D], [0x0634, 0x062E], [0x0637, 0x0645], [0x0638, 0x0645]]⟩,
  ⟨0xFD3C, some .final, [[0x0627, 0x064B]]⟩,
  ⟨0xFD3D, some .isolated, [[0x0627, 0x064B]]⟩,
  ⟨0xFD50, some .initial, [[0x062A, 0x062C, 0x0645]]⟩,
  ⟨0xFD51, some .final, [[0x062A, 0x062D, 0x062C]]⟩,
  ⟨0xFD52, some .initial, [[0x062A, 0x062D, 0x062C], [0x062A, 0x062D, 0x0645],
    [0x062A, 0x062E, 0x0645], [0x062A, 0x0645, 0x062C], [0x062A, 0x0645, 0x062D],
    [0x062A, 0x0645, 0x062E]]⟩,
  ⟨0xFD58, some .final, [[0x062C, 0x0645, 0x062D]]⟩,
  ⟨0xFD59, some .initial, [[0x062C, 0x0645, 0x062D]]⟩,
  ⟨0xFD5A, some .final, [[0x062D, 0x0645, 0x064A], [0x062D, 0x0645, 0x0649]]⟩,
  ⟨0xFD5C, some .initial, [[0x0633, 0x062D, 0x062C], [0x0633, 0x062C, 0x062D]]⟩,
  ⟨0xFD5E, some .final, [[0x0633, 0x062C, 0x0649], [0x0633, 0x0645, 0x062D]]⟩,
  ⟨0xFD60, some .initial, [[0x0633, 0x0645, 0x062D], [0x0633, 0x0645, 0x062C]]⟩,
  ⟨0xFD62, some .final, [[0x0633, 0x0645, 0x0645]]⟩,
  ⟨0xFD63, some .initial, [[0x0633, 0x0645, 0x0645]]⟩,
  ⟨0xFD64, some .final, [[0x0635, 0x062D, 0x062D]]⟩,
  ⟨0xFD65, some .initial, [[0x0635, 0x062D, 0x062D]]⟩,
  ⟨0xFD66, some .final, [[0x0635, 0x0645, 0x0645], [0x0634, 0x062D, 0x0645]]⟩,
  ⟨0xFD68, some .initial, [[0x0634, 0x062D, 0x0645]]⟩,
  ⟨0xFD69, some .final, [[0x0634, 0x062C, 0x064A], [0x0634, 0x0645, 0x062E]]⟩,
  ⟨0xFD6B, some .initial, [[0x0634, 0x0645, 0x062E]]⟩,
  ⟨0xFD6C, some .final, [[0x0634, 0x0645, 0x0645]]⟩,
  ⟨0xFD6D, some .initial, [[0x0634, 0x0645, 0x0645]]⟩,
  ⟨0xFD6E, some .final, [[0x0636, 0x062D, 0x0649], [0x0636, 0x062E, 0x0645]]⟩,
  ⟨0xFD70, some .initial, [[0x0636, 0x062E, 0x0645]]⟩,
  ⟨0xFD71, some .final, [[0x0637, 0x0645, 0x062D]]⟩,
  ⟨0xFD72, some .initial, [[0x0637, 0x0645, 0x062D], [0x0637, 0x0645, 0x0645]]⟩,
  ⟨0xFD74, some .final, [[0x0637, 0x0645, 0x064A], [0x0639, 0x062C, 0x0645],
    [0x0639, 0x0645, 0x0645]]⟩,
  ⟨0xFD77, some .initial, [[0x0639, 0x0645, 0x0645]]⟩,
  ⟨0xFD78, some .final, [[0x0639, 0x0645, 0x0649], [0x063A, 0x0645, 0x0645],
    [0x063A, 0x0645, 0x064A], [0x063A, 0x0645, 0x0649], [0x0641, 0x062E, 0x0645]]⟩,
  ⟨0xFD7D, some .initial, [[0x0641, 0x062E, 0x0645]]⟩,
  ⟨0xFD7E, some .final, [[0x0642, 0x0645, 0x062D], [0x0642, 0x0645, 0x0645],
    [0x0644, 0x062D, 0x0645], [0x0644, 0x062D, 0x064A], [0x0644, 0x062D, 0x0649]]⟩,
  ⟨0xFD83, some .initial, [[0x0644, 0x062C, 0x062C]]⟩,
  ⟨0xFD84, some .final, [[0x0644, 0x062C, 0x062C], [0x0644, 0x062E, 0x0645]]⟩,
  ⟨0xFD86, some .initial, [[0x0644, 0x062E, 0x0645]]⟩,
  ⟨0xFD87, some .final, [[0x0644, 0x0645, 0x062D]]⟩,
  ⟨0xFD88, some .initial, [[0x0644, 0x0645, 0x062D], [0x0645, 0x062D, 0x062C],
    [0x0645, 0x062D, 0x0645]]⟩,
  ⟨0xFD8B, some .final, [[0x0645, 0x062D, 0x064A]]⟩,
  ⟨0xFD8C, some .initial, [[0x0645, 0x062C, 0x062D], [0x0645, 0x062C, 0x0645],
    [0x0645, 0x062E, 0x062C], [0x0645, 0x062E, 0x0645]]⟩,
  ⟨0xFD92, some .initial, [[0x0645, 0x062C, 0x062E], [0x0647, 0x0645, 0x062C],
    [0x0647, 0x0645, 0x0645], [0x0646, 0x062D, 0x0645]]⟩,
  ⟨0xFD96, some .final, [[0x0646, 0x062D, 0x0649], [0x0646, 0x062C, 0x0645]]⟩,
  ⟨0xFD98, some .initial, [[0x0646, 0x062C, 0x0645]]⟩,
  ⟨0xFD99, some .final, [[0x0646, 0x062C, 0x0649], [0x0646, 0x0645, 0x064A],
    [0x0646, 0x0645, 0x0649], [0x064A, 0x0645, 0x0645]]⟩,
  ⟨0xFD9D, some .initial, [[0x064A, 0x0645, 0x0645]]⟩,
  ⟨0xFD9E, some .final, [[0x0628, 0x062E, 0x064A], [0x062A, 0x062C, 0x064A],
    [0x062A, 0x062C, 0x0649], [0x062A, 0x062E, 0x064A], [0x062A, 0x062E, 0x0649],
    [0x062A, 0x0645, 0x064A], [0x062A, 0x0645, 0x0649], [0x062C, 0x0645, 0x064A],
    [0x062C, 0x062D, 0x0649], [0x062C, 0x0645, 0x0649], [0x0633, 0x062E, 0x0649],
    [0x0635, 0x062D, 0x064A], [0x0634, 0x062D, 0x064A], [0x0636, 0x062D, 0x064A],
    [0x0644, 0x062C, 0x064A], [0x0644, 0x0645, 0x064A], [0x064A, 0x062D, 0x064A],
    [0x064A, 0x062C, 0x064A], [0x064A, 0x0645, 0x064A], [0x0645, 0x0645, 0x064A],
    [0x0642, 0x0645, 0x064A], [0x0646, 0x062D, 0x064A]]⟩,
  ⟨0xFDB4, some .initial, [[0x0642, 0x0645, 0x062D], [0x0644, 0x062D, 0x0645]]⟩,
  ⟨0xFDB6, some .final, [[0x0639, 0x0645, 0x064A], [0x0643, 0x0645, 0x064A]]⟩,
  ⟨0xFDB8, some .initial, [[0x0646, 0x062C, 0x062D]]⟩,
  ⟨0xFDB9, some .final, [[0x0645, 0x062E, 0x064A]]⟩,
  ⟨0xFDBA, some .initial, [[0x0644, 0x062C, 0x0645]]⟩,
  ⟨0xFDBB, some .final, [[0x0643, 0x0645, 0x0645], [0x0644, 0x062C, 0x0645],
    [0x0646, 0x062C, 0x062D], [0x062C, 0x062D, 0x064A], [0x062D, 0x062C, 0x064A],
    [0x0645, 0x062C, 0x064A], [0x0641, 0x0645, 0x064A], [0x0628, 0x062D, 0x064A]]⟩,
  ⟨0xFDC3, some .initial, [[0x0643, 0x0645, 0x0645], [0x0639, 0x062C, 0x0645],
    [0x0635, 0x0645, 0x0645]]⟩,
  ⟨0xFDC6, some .final, [[0x0633, 0x062E, 0x064A], [0x0646, 0x062C, 0x064A]]⟩,
  ⟨0xFDF0, some .isolated, [[0x0635, 0x0644, 0x06D2], [0x0642, 0x0644, 0x06D2],
    [0x0627, 0x0644, 0x0644, 0x0647], [0x0627, 0x0643, 0x0628, 0x0631],
    [0x0645, 0x062D, 0x0645, 0x062F], [0x0635, 0x0644, 0x0639, 0x0645],
    [0x0631, 0x0633, 0x0648, 0x0644], [0x0639, 0x0644, 0x064A, 0x0647],
    [0x0648, 0x0633, 0x0644, 0x0645], [0x0635, 0x0644, 0x0649],
    [0x0635, 0x0644, 0x0649, 0x0020, 0x0627, 0x0644, 0x0644, 0x0647, 0x0020, 0x0639, 0x0644, 0x064A, 0x0647, 0x0020, 0x0648, 0x0633, 0x0644, 0x0645],
    [0x062C, 0x0644, 0x0020, 0x062C, 0x0644, 0x0627, 0x0644, 0x0647],
    [0x0631, 0x06CC, 0x0627, 0x0644]]⟩]

/-- Mappings of the vertical, small and further Arabic forms, U+FE00 to U+FEFF. -/
def arabicForms : List MappingRun := [
  ⟨0xFE10, some .vertical, [[0x002C], [0x3001], [0x3002], [0x003A], [0x003B], [0x0021], [0x003F],
    [0x3016], [0x3017], [0x2026]]⟩,
  ⟨0xFE30, some .vertical, [[0x2025], [0x2014], [0x2013], [0x005F], [0x005F], [0x0028], [0x0029],
    [0x007B], [0x007D], [0x3014], [0x3015], [0x3010], [0x3011], [0x300A], [0x300B], [0x3008],
    [0x3009], [0x300C], [0x300D], [0x300E], [0x300F]]⟩,
  ⟨0xFE47, some .vertical, [[0x005B], [0x005D]]⟩,
  ⟨0xFE49, some .compat, [[0x203E], [0x203E], [0x203E], [0x203E], [0x005F], [0x005F], [0x005F]]⟩,
  ⟨0xFE50, some .small, [[0x002C], [0x3001], [0x002E]]⟩,
  ⟨0xFE54, some .small, [[0x003B], [0x003A], [0x003F], [0x0021], [0x2014], [0x0028], [0x0029],
    [0x007B], [0x007D], [0x3014], [0x3015], [0x0023], [0x0026], [0x002A], [0x002B], [0x002D],
    [0x003C], [0x003E], [0x003D]]⟩,
  ⟨0xFE68, some .small, [[0x005C], [0x0024], [0x0025], [0x0040]]⟩,
  ⟨0xFE70, some .isolated, [[0x0020, 0x064B]]⟩,
  ⟨0xFE71, some .medial, [[0x0640, 0x064B]]⟩,
  ⟨0xFE72, some .isolated, [[0x0020, 0x064C]]⟩,
  ⟨0xFE74, some .isolated, [[0x0020, 0x064D]]⟩,
  ⟨0xFE76, some .isolated, [[0x0020, 0x064E]]⟩,
  ⟨0xFE77, some .medial, [[0x0640, 0x064E]]⟩,
  ⟨0xFE78, some .isolated, [[0x0020, 0x064F]]⟩,
  ⟨0xFE79, some .medial, [[0x0640, 0x064F]]⟩,
  ⟨0xFE7A, some .isolated, [[0x0020, 0x0650]]⟩,
  ⟨0xFE7B, some .medial, [[0x0640, 0x0650]]⟩,
  ⟨0xFE7C, some .isolated, [[0x0020, 0x0651]]⟩,
  ⟨0xFE7D, some .medial, [[0x0640, 0x0651]]⟩,
  ⟨0xFE7E, some .isolated, [[0x0020, 0x0652]]⟩,
  ⟨0xFE7F, some .medial, [[0x0640, 0x0652]]⟩,
  ⟨0xFE80, some .isolated, [[0x0621], [0x0622]]⟩,
  ⟨0xFE82, some .final, [[0x0622]]⟩,
  ⟨0xFE83, some .isolated, [[0x0623]]⟩,
  ⟨0xFE84, some .final, [[0x0623]]⟩,
  ⟨0xFE85, some .isolated, [[0x0624]]⟩,
  ⟨0xFE86, some .final, [[0x0624]]⟩,
  ⟨0xFE87, some .isolated, [[0x0625]]⟩,
  ⟨0xFE88, some .final, [[0x0625]]⟩,
  ⟨0xFE89, some .isolated, [[0x0626]]⟩,
  ⟨0xFE8A, some .final, [[0x0626]]⟩,
  ⟨0xFE8B, some .initial, [[0x0626]]⟩,
  ⟨0xFE8C, some .medial, [[0x0626]]⟩,
  ⟨0xFE8D, some .isolated, [[0x0627]]⟩,
  ⟨0xFE8E, some .final, [[0x0627]]⟩,
  ⟨0xFE8F, some .isolated, [[0x0628]]⟩,
  ⟨0xFE90, some .final, [[0x0628]]⟩,
  ⟨0xFE91, some .initial, [[0x0628]]⟩,
  ⟨0xFE92, some .medial, [[0x0628]]⟩,
  ⟨0xFE93, some .isolated, [[0x0629]]⟩,
  ⟨0xFE94, some .final, [[0x0629]]⟩,
  ⟨0xFE95, some .isolated, [[0x062A]]⟩,
  ⟨0xFE96, some .final, [[0x062A]]⟩,
  ⟨0xFE97, some .initial, [[0x062A]]⟩,
  ⟨0xFE98, some .medial, [[0x062A]]⟩,
  ⟨0xFE99, some .isolated, [[0x062B]]⟩,
  ⟨0xFE9A, some .final, [[0x062B]]⟩,
  ⟨0xFE9B, some .initial, [[0x062B]]⟩,
  ⟨0xFE9C, some .medial, [[0x062B]]⟩,
  ⟨0xFE9D, some .isolated, [[0x062C]]⟩,
  ⟨0xFE9E, some .final, [[0x062C]]⟩,
  ⟨0xFE9F, some .initial, [[0x062C]]⟩,
  ⟨0xFEA0, some .medial, [[0x062C]]⟩,
  ⟨0xFEA1, some .isolated, [[0x062D]]⟩,
  ⟨0xFEA2, some .final, [[0x062D]]⟩,
  ⟨0xFEA3, some .initial, [[0x062D]]⟩,
  ⟨0xFEA4, some .medial, [[0x062D]]⟩,
  ⟨0xFEA5, some .isolated, [[0x062E]]⟩,
  ⟨0xFEA6, some .final, [[0x062E]]⟩,
  ⟨0xFEA7, some .initial, [[0x062E]]⟩,
  ⟨0xFEA8, some .medial, [[0x062E]]⟩,
  ⟨0xFEA9, some .isolated, [[0x062F]]⟩,
  ⟨0xFEAA, some .final, [[0x062F]]⟩,
  ⟨0xFEAB, some .isolated, [[0x0630]]⟩,
  ⟨0xFEAC, some .final, [[0x0630]]⟩,
  ⟨0xFEAD, some .isolated, [[0x0631]]⟩,
  ⟨0xFEAE, some .final, [[0x0631]]⟩,
  ⟨0xFEAF, some .isolated, [[0x0632]]⟩,
  ⟨0xFEB0, some .final, [[0x0632]]⟩,
  ⟨0xFEB1, some .isolated, [[0x0633]]⟩,
  ⟨0xFEB2, some .final, [[0x0633]]⟩,
  ⟨0xFEB3, some .initial, [[0x0633]]⟩,
  ⟨0xFEB4, some .medial, [[0x0633]]⟩,
  ⟨0xFEB5, some .isolated, [[0x0634]]⟩,
  ⟨0xFEB6, some .final, [[0x0634]]⟩,
  ⟨0xFEB7, some .initial, [[0x0634]]⟩,
  ⟨0xFEB8, some .medial, [[0x0634]]⟩,
  ⟨0xFEB9, some .isolated, [[0x0635]]⟩,
  ⟨0xFEBA, some .final, [[0x0635]]⟩,
  ⟨0xFEBB, some .initial, [[0x0635]]⟩,
  ⟨0xFEBC, some .medial, [[0x0635]]⟩,
  ⟨0xFEBD, some .isolated, [[0x0636]]⟩,
  ⟨0xFEBE, some .final, [[0x0636]]⟩,
  ⟨0xFEBF, some .initial, [[0x0636]]⟩,
  ⟨0xFEC0, some .medial, [[0x0636]]⟩,
  ⟨0xFEC1, some .isolated, [[0x0637]]⟩,
  ⟨0xFEC2, some .final, [[0x0637]]⟩,
  ⟨0xFEC3, some .initial, [[0x0637]]⟩,
  ⟨0xFEC4, some .medial, [[0x0637]]⟩,
  ⟨0xFEC5, some .isolated, [[0x0638]]⟩,
  ⟨0xFEC6, some .final, [[0x0638]]⟩,
  ⟨0xFEC7, some .initial, [[0x0638]]⟩,
  ⟨0xFEC8, some .medial, [[0x0638]]⟩,
  ⟨0xFEC9, some .isolated, [[0x0639]]⟩,
  ⟨0xFECA, some .final, [[0x0639]]⟩,
  ⟨0xFECB, some .initial, [[0x0639]]⟩,
  ⟨0xFECC, some .medial, [[0x0639]]⟩,
  ⟨0xFECD, some .isolated, [[0x063A]]⟩,
  ⟨0xFECE, some .final, [[0x063A]]⟩,
  ⟨0xFECF, some .initial, [[0x063A]]⟩,
  ⟨0xFED0, some .medial, [[0x063A]]⟩,
  ⟨0xFED1, some .isolated, [[0x0641]]⟩,
  ⟨0xFED2, some .final, [[0x0641]]⟩,
  ⟨0xFED3, some .initial, [[0x0641]]⟩,
  ⟨0xFED4, some .medial, [[0x0641]]⟩,
  ⟨0xFED5, some .isolated, [[0x0642]]⟩,
  ⟨0xFED6, some .final, [[0x0642]]⟩,
  ⟨0xFED7, some .initial, [[0x0642]]⟩,
  ⟨0xFED8, some .medial, [[0x0642]]⟩,
  ⟨0xFED9, some .isolated, [[0x0643]]⟩,
  ⟨0xFEDA, some .final, [[0x0643]]⟩,
  ⟨0xFEDB, some .initial, [[0x0643]]⟩,
  ⟨0xFEDC, some .medial, [[0x0643]]⟩,
  ⟨0xFEDD, some .isolated, [[0x0644]]⟩,
  ⟨0xFEDE, some .final, [[0x0644]]⟩,
  ⟨0xFEDF, some .initial, [[0x0644]]⟩,
  ⟨0xFEE0, some .medial, [[0x0644]]⟩,
  ⟨0xFEE1, some .isolated, [[0x0645]]⟩,
  ⟨0xFEE2, some .final, [[0x0645]]⟩,
  ⟨0xFEE3, some .initial, [[0x0645]]⟩,
  ⟨0xFEE4, some .medial, [[0x0645]]⟩,
  ⟨0xFEE5, some .isolated, [[0x0646]]⟩,
  ⟨0xFEE6, some .final, [[0x0646]]⟩,
  ⟨0xFEE7, some .initial, [[0x0646]]⟩,
  ⟨0xFEE8, some .medial, [[0x0646]]⟩,
  ⟨0xFEE9, some .isolated, [[0x0647]]⟩,
  ⟨0xFEEA, some .final, [[0x0647]]⟩,
  ⟨0xFEEB, some .initial, [[0x0647]]⟩,
  ⟨0xFEEC, some .medial, [[0x0647]]⟩,
  ⟨0xFEED, some .isolated, [[0x0648]]⟩,
  ⟨0xFEEE, some .final, [[0x0648]]⟩,
  ⟨0xFEEF, some .isolated, [[0x0649]]⟩,
  ⟨0xFEF0, some .final, [[0x0649]]⟩,
  ⟨0xFEF1, some .isolated, [[0x064A]]⟩,
  ⟨0xFEF2, some .final, [[0x064A]]⟩,
  ⟨0xFEF3, some .initial, [[0x064A]]⟩,
  ⟨0xFEF4, some .medial, [[0x064A]]⟩,
  ⟨0xFEF5, some .isolated, [[0x0644, 0x0622]]⟩,
  ⟨0xFEF6, some .final, [[0x0644, 0x0622]]⟩,
  ⟨0xFEF7, some .isolated, [[0x0644, 0x0623]]⟩,
  ⟨0xFEF8, some .final, [[0x0644, 0x0623]]⟩,
  ⟨0xFEF9, some .isolated, [[0x0644, 0x0625]]⟩,
  ⟨0xFEFA, some .final, [[0x0644, 0x0625]]⟩,
  ⟨0xFEFB, some .isolated, [[0x0644, 0x0627]]⟩,
  ⟨0xFEFC, some .final, [[0x0644, 0x0627]]⟩]

/-- Mappings of the half-width and full-width forms, U+FF00 to U+FFFF. -/
def widths : List MappingRun := [
  ⟨0xFF01, some .wide, [[0x0021], [0x0022], [0x0023], [0x0024], [0x0025], [0x0026], [0x0027],
    [0x0028], [0x0029], [0x002A], [0x002B], [0x002C], [0x002D], [0x002E], [0x002F], [0x0030],
    [0x0031], [0x0032], [0x0033], [0x0034], [0x0035], [0x0036], [0x0037], [0x0038], [0x0039],
    [0x003A], [0x003B], [0x003C], [0x003D], [0x003E], [0x003F], [0x0040], [0x0041], [0x0042],
    [0x0043], [0x0044], [0x0045], [0x0046], [0x0047], [0x0048], [0x0049], [0x004A], [0x004B],
    [0x004C], [0x004D], [0x004E], [0x004F], [0x0050], [0x0051], [0x0052], [0x0053], [0x0054],
    [0x0055], [0x0056], [0x0057], [0x0058], [0x0059], [0x005A], [0x005B], [0x005C], [0x005D],
    [0x005E], [0x005F], [0x0060], [0x0061], [0x0062], [0x0063], [0x0064], [0x0065], [0x0066],
    [0x0067], [0x0068], [0x0069], [0x006A], [0x006B], [0x006C], [0x006D], [0x006E], [0x006F],
    [0x0070], [0x0071], [0x0072], [0x0073], [0x0074], [0x0075], [0x0076], [0x0077], [0x0078],
    [0x0079], [0x007A], [0x007B], [0x007C], [0x007D], [0x007E], [0x2985], [0x2986]]⟩,
  ⟨0xFF61, some .narrow, [[0x3002], [0x300C], [0x300D], [0x3001], [0x30FB], [0x30F2], [0x30A1],
    [0x30A3], [0x30A5], [0x30A7], [0x30A9], [0x30E3], [0x30E5], [0x30E7], [0x30C3], [0x30FC],
    [0x30A2], [0x30A4], [0x30A6], [0x30A8], [0x30AA], [0x30AB], [0x30AD], [0x30AF], [0x30B1],
    [0x30B3], [0x30B5], [0x30B7], [0x30B9], [0x30BB], [0x30BD], [0x30BF], [0x30C1], [0x30C4],
    [0x30C6], [0x30C8], [0x30CA], [0x30CB], [0x30CC], [0x30CD], [0x30CE], [0x30CF], [0x30D2],
    [0x30D5], [0x30D8], [0x30DB], [0x30DE], [0x30DF], [0x30E0], [0x30E1], [0x30E2], [0x30E4],
    [0x30E6], [0x30E8], [0x30E9], [0x30EA], [0x30EB], [0x30EC], [0x30ED], [0x30EF], [0x30F3],
    [0x3099], [0x309A], [0x3164], [0x3131], [0x3132], [0x3133], [0x3134], [0x3135], [0x3136],
    [0x3137], [0x3138], [0x3139], [0x313A], [0x313B], [0x313C], [0x313D], [0x313E], [0x313F],
    [0x3140], [0x3141], [0x3142], [0x3143], [0x3144], [0x3145], [0x3146], [0x3147], [0x3148],
    [0x3149], [0x314A], [0x314B], [0x314C], [0x314D], [0x314E]]⟩,
  ⟨0xFFC2, some .narrow, [[0x314F], [0x3150], [0x3151], [0x3152], [0x3153], [0x3154]]⟩,
  ⟨0xFFCA, some .narrow, [[0x3155], [0x3156], [0x3157], [0x3158], [0x3159], [0x315A]]⟩,
  ⟨0xFFD2, some .narrow, [[0x315B], [0x315C], [0x315D], [0x315E], [0x315F], [0x3160]]⟩,
  ⟨0xFFDA, some .narrow, [[0x3161], [0x3162], [0x3163]]⟩,
  ⟨0xFFE0, some .wide, [[0x00A2], [0x00A3], [0x00AC], [0x00AF], [0x00A6], [0x00A5], [0x20A9]]⟩,
  ⟨0xFFE8, some .narrow, [[0x2502], [0x2190], [0x2191], [0x2192], [0x2193], [0x25A0], [0x25CB]]⟩]

end TexGlyph.MappingData

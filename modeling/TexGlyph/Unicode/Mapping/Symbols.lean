import TexGlyph.Unicode.Mapping.Basic

/-!
# Mappings of punctuation and symbols

Data of the Unicode Character Database, version 14.0.0, in ascending order of code points.
-/

namespace TexGlyph.MappingData

/-- Mappings of punctuation, superscripts and letterlike symbols, U+2000 to U+218F. -/
def punctuation : List MappingRun := [
  ⟨0x2000, none, [[0x2002], [0x2003]]⟩,
  ⟨0x2002, some .compat, [[0x0020], [0x0020], [0x0020], [0x0020], [0x0020]]⟩,
  ⟨0x2007, some .noBreak, [[0x0020]]⟩,
  ⟨0x2008, some .compat, [[0x0020], [0x0020], [0x0020]]⟩,
  ⟨0x2011, some .noBreak, [[0x2010]]⟩,
  ⟨0x2017, some .compat, [[0x0020, 0x0333]]⟩,
  ⟨0x2024, some .compat, [[0x002E], [0x002E, 0x002E], [0x002E, 0x002E, 0x002E]]⟩,
  ⟨0x202F, some .noBreak, [[0x0020]]⟩,
  ⟨0x2033, some .compat, [[0x2032, 0x2032], [0x2032, 0x2032, 0x2032]]⟩,
  ⟨0x2036, some .compat, [[0x2035, 0x2035], [0x2035, 0x2035, 0x2035]]⟩,
  ⟨0x203C, some .compat, [[0x0021, 0x0021]]⟩,
  ⟨0x203E, some .compat, [[0x0020, 0x0305]]⟩,
  ⟨0x2047, some .compat, [[0x003F, 0x003F], [0x003F, 0x0021], [0x0021, 0x003F]]⟩,
  ⟨0x2057, some .compat, [[0x2032, 0x2032, 0x2032, 0x2032]]⟩,
  ⟨0x205F, some .compat, [[0x0020]]⟩,
  ⟨0x2070, some .super, [[0x0030], [0x0069]]⟩,
  ⟨0x2074, some .super, [[0x0034], [0x0035], [0x0036], [0x0037], [0x0038], [0x0039], [0x002B],
    [0x2212], [0x003D], [0x0028], [0x0029], [0x006E]]⟩,
  ⟨0x2080, some .sub, [[0x0030], [0x0031], [0x0032], [0x0033], [0x0034], [0x0035], [0x0036],
    [0x0037], [0x0038], [0x0039], [0x002B], [0x2212], [0x003D], [0x0028], [0x0029]]⟩,
  ⟨0x2090, some .sub, [[0x0061], [0x0065], [0x006F], [0x0078], [0x0259], [0x0068], [0x006B],
    [0x006C], [0x006D], [0x006E], [0x0070], [0x0073], [0x0074]]⟩,
  ⟨0x20A8, some .compat, [[0x0052, 0x0073]]⟩,
  ⟨0x2100, some .compat, [[0x0061, 0x002F, 0x0063], [0x0061, 0x002F, 0x0073]]⟩,
  ⟨0x2102, some .font, [[0x0043]]⟩,
  ⟨0x2103, some .compat, [[0x00B0, 0x0043]]⟩,
  ⟨0x2105, some .compat, [[0x0063, 0x002F, 0x006F], [0x0063, 0x002F, 0x0075], [0x0190]]⟩,
  ⟨0x2109, some .compat, [[0x00B0, 0x0046]]⟩,
  ⟨0x210A, some .font, [[0x0067], [0x0048], [0x0048], [0x0048], [0x0068], [0x0127], [0x0049],
    [0x0049], [0x004C], [0x006C]]⟩,
  ⟨0x2115, some .font, [[0x004E]]⟩,
  ⟨0x2116, some .compat, [[0x004E, 0x006F]]⟩,
  ⟨0x2119, some .font, [[0x0050], [0x0051], [0x0052], [0x0052], [0x0052]]⟩,
  ⟨0x2120, some .super, [[0x0053, 0x004D]]⟩,
  ⟨0x2121, some .compat, [[0x0054, 0x0045, 0x004C]]⟩,
  ⟨0x2122, some .super, [[0x0054, 0x004D]]⟩,
  ⟨0x2124, some .font, [[0x005A]]⟩,
  ⟨0x2126, none, [[0x03A9]]⟩,
  ⟨0x2128, some .font, [[0x005A]]⟩,
  ⟨0x212A, none, [[0x004B], [0x00C5]]⟩,
  ⟨0x212C, some .font, [[0x0042], [0x0043]]⟩,
  ⟨0x212F, some .font, [[0x0065], [0x0045], [0x0046]]⟩,
  ⟨0x2133, some .font, [[0x004D], [0x006F]]⟩,
  ⟨0x2135, some .compat, [[0x05D0], [0x05D1], [0x05D2], [0x05D3]]⟩,
  ⟨0x2139, some .font, [[0x0069]]⟩,
  ⟨0x213B, some .compat, [[0x0046, 0x0041, 0x0058]]⟩,
  ⟨0x213C, some .font, [[0x03C0], [0x03B3], [0x0393], [0x03A0], [0x2211]]⟩,
  ⟨0x2145, some .font, [[0x0044], [0x0064], [0x0065], [0x0069], [0x006A]]⟩,
  ⟨0x2150, some .fraction, [[0x0031, 0x2044, 0x0037], [0x0031, 0x2044, 0x0039],
    [0x0031, 0x2044, 0x0031, 0x0030], [0x0031, 0x2044, 0x0033], [0x0032, 0x2044, 0x0033],
    [0x0031, 0x2044, 0x0035], [0x0032, 0x2044, 0x0035], [0x0033, 0x2044, 0x0035],
    [0x0034, 0x2044, 0x0035], [0x0031, 0x2044, 0x0036], [0x0035, 0x2044, 0x0036],
    [0x0031, 0x2044, 0x0038], [0x0033, 0x2044, 0x0038], [0x0035, 0x2044, 0x0038],
    [0x0037, 0x2044, 0x0038], [0x0031, 0x2044]]⟩,
  ⟨0x2160, some .compat, [[0x0049], [0x0049, 0x0049], [0x0049, 0x0049, 0x0049], [0x0049, 0x0056],
    [0x0056], [0x0056, 0x0049], [0x0056, 0x0049, 0x0049], [0x0056, 0x0049, 0x0049, 0x0049],
    [0x0049, 0x0058], [0x0058], [0x0058, 0x0049], [0x0058, 0x0049, 0x0049], [0x004C], [0x0043],
    [0x0044], [0x004D], [0x0069], [0x0069, 0x0069], [0x0069, 0x0069, 0x0069], [0x0069, 0x0076],
    [0x0076], [0x0076, 0x0069], [0x0076, 0x0069, 0x0069], [0x0076, 0x0069, 0x0069, 0x0069],
    [0x0069, 0x0078], [0x0078], [0x0078, 0x0069], [0x0078, 0x0069, 0x0069], [0x006C], [0x0063],
    [0x0064], [0x006D]]⟩,
  ⟨0x2189, some .fraction, [[0x0030, 0x2044, 0x0033]]⟩]

/-- Mappings of arrows, operators, enclosed characters and further letters, U+2190 to U+2DFF. -/
def technical : List MappingRun := [
  ⟨0x219A, none, [[0x2190, 0x0338], [0x2192, 0x0338]]⟩,
  ⟨0x21AE, none, [[0x2194, 0x0338]]⟩,
  ⟨0x21CD, none, [[0x21D0, 0x0338], [0x21D4, 0x0338], [0x21D2, 0x0338]]⟩,
  ⟨0x2204, none, [[0x2203, 0x0338]]⟩,
  ⟨0x2209, none, [[0x2208, 0x0338]]⟩,
  ⟨0x220C, none, [[0x220B, 0x0338]]⟩,
  ⟨0x2224, none, [[0x2223, 0x0338]]⟩,
  ⟨0x2226, none, [[0x2225, 0x0338]]⟩,
  ⟨0x222C, some .compat, [[0x222B, 0x222B], [0x222B, 0x222B, 0x222B]]⟩,
  ⟨0x222F, some .compat, [[0x222E, 0x222E], [0x222E, 0x222E, 0x222E]]⟩,
  ⟨0x2241, none, [[0x223C, 0x0338]]⟩,
  ⟨0x2244, none, [[0x2243, 0x0338]]⟩,
  ⟨0x2247, none, [[0x2245, 0x0338]]⟩,
  ⟨0x2249, none, [[0x2248, 0x0338]]⟩,
  ⟨0x2260, none, [[0x003D, 0x0338]]⟩,
  ⟨0x2262, none, [[0x2261, 0x0338]]⟩,
  ⟨0x226D, none, [[0x224D, 0x0338], [0x003C, 0x0338], [0x003E, 0x0338], [0x2264, 0x0338],
    [0x2265, 0x0338]]⟩,
  ⟨0x2274, none, [[0x2272, 0x0338], [0x2273, 0x0338]]⟩,
  ⟨0x2278, none, [[0x2276, 0x0338], [0x2277, 0x0338]]⟩,
  ⟨0x2280, none, [[0x227A, 0x0338], [0x227B, 0x0338]]⟩,
  ⟨0x2284, none, [[0x2282, 0x0338], [0x2283, 0x0338]]⟩,
  ⟨0x2288, none, [[0x2286, 0x0338], [0x2287, 0x0338]]⟩,
  ⟨0x22AC, none, [[0x22A2, 0x0338], [0x22A8, 0x0338], [0x22A9, 0x0338], [0x22AB, 0x0338]]⟩,
  ⟨0x22E0, none, [[0x227C, 0x0338], [0x227D, 0x0338], [0x2291, 0x0338], [0x2292, 0x0338]]⟩,
  ⟨0x22EA, none, [[0x22B2, 0x0338], [0x22B3, 0x0338], [0x22B4, 0x0338], [0x22B5, 0x0338]]⟩,
  ⟨0x2329, none, [[0x3008], [0x3009]]⟩,
  ⟨0x2460, some .circle, [[0x0031], [0x0032], [0x0033], [0x0034], [0x0035], [0x0036], [0x0037],
    [0x0038], [0x0039], [0x0031, 0x0030], [0x0031, 0x0031], [0x0031, 0x0032], [0x0031, 0x0033],
    [0x0031, 0x0034], [0x0031, 0x0035], [0x0031, 0x0036], [0x0031, 0x0037], [0x0031, 0x0038],
    [0x0031, 0x0039], [0x0032, 0x0030]]⟩,
  ⟨0x2474, some .compat, [[0x0028, 0x0031, 0x0029], [0x0028, 0x0032, 0x0029],
    [0x0028, 0x0033, 0x0029], [0x0028, 0x0034, 0x0029], [0x0028, 0x0035, 0x0029],
    [0x0028, 0x0036, 0x0029], [0x0028, 0x0037, 0x0029], [0x0028, 0x0038, 0x0029],
    [0x0028, 0x0039, 0x0029], [0x0028, 0x0031, 0x0030, 0x0029], [0x0028, 0x0031, 0x0031, 0x0029],
    [0x0028, 0x0031, 0x0032, 0x0029], [0x0028, 0x0031, 0x0033, 0x0029],
    [0x0028, 0x0031, 0x0034, 0x0029], [0x0028, 0x0031, 0x0035, 0x0029],
    [0x0028, 0x0031, 0x0036, 0x0029], [0x0028, 0x0031, 0x0037, 0x0029],
    [0x0028, 0x0031, 0x0038, 0x0029], [0x0028, 0x0031, 0x0039, 0x0029],
    [0x0028, 0x0032, 0x0030, 0x0029], [0x0031, 0x002E], [0x0032, 0x002E], [0x0033, 0x002E],
    [0x0034, 0x002E], [0x0035, 0x002E], [0x0036, 0x002E], [0x0037, 0x002E], [0x0038, 0x002E],
    [0x0039, 0x002E], [0x0031, 0x0030, 0x002E], [0x0031, 0x0031, 0x002E],
    [0x0031, 0x0032, 0x002E], [0x0031, 0x0033, 0x002E], [0x0031, 0x0034, 0x002E],
    [0x0031, 0x0035, 0x002E], [0x0031, 0x0036, 0x002E], [0x0031, 0x0037, 0x002E],
    [0x0031, 0x0038, 0x002E], [0x0031, 0x0039, 0x002E], [0x0032, 0x0030, 0x002E],
    [0x0028, 0x0061, 0x0029], [0x0028, 0x0062, 0x0029], [0x0028, 0x0063, 0x0029],
    [0x0028, 0x0064, 0x0029], [0x0028, 0x0065, 0x0029], [0x0028, 0x0066, 0x0029],
    [0x0028, 0x0067, 0x0029], [0x0028, 0x0068, 0x0029], [0x0028, 0x0069, 0x0029],
    [0x0028, 0x006A, 0x0029], [0x0028, 0x006B, 0x0029], [0x0028, 0x006C, 0x0029],
    [0x0028, 0x006D, 0x0029], [0x0028, 0x006E, 0x0029], [0x0028, 0x006F, 0x0029],
    [0x0028, 0x0070, 0x0029], [0x0028, 0x0071, 0x0029], [0x0028, 0x0072, 0x0029],
    [0x0028, 0x0073, 0x0029], [0x0028, 0x0074, 0x0029], [0x0028, 0x0075, 0x0029],
    [0x0028, 0x0076, 0x0029], [0x0028, 0x0077, 0x0029], [0x0028, 0x0078, 0x0029],
    [0x0028, 0x0079, 0x0029], [0x0028, 0x007A, 0x0029]]⟩,
  ⟨0x24B6, some .circle, [[0x0041], [0x0042], [0x0043], [0x0044], [0x0045], [0x0046], [0x0047],
    [0x0048], [0x0049], [0x004A], [0x004B], [0x004C], [0x004D], [0x004E], [0x004F], [0x0050],
    [0x0051], [0x0052], [0x0053], [0x0054], [0x0055], [0x0056], [0x0057], [0x0058], [0x0059],
    [0x005A], [0x0061], [0x0062], [0x0063], [0x0064], [0x0065], [0x0066], [0x0067], [0x0068],
    [0x0069], [0x006A], [0x006B], [0x006C], [0x006D], [0x006E], [0x006F], [0x0070], [0x0071],
    [0x0072], [0x0073], [0x0074], [0x0075], [0x0076], [0x0077], [0x0078], [0x0079], [0x007A],
    [0x0030]]⟩,
  ⟨0x2A0C, some .compat, [[0x222B, 0x222B, 0x222B, 0x222B]]⟩,
  ⟨0x2A74, some .compat, [[0x003A, 0x003A, 0x003D], [0x003D, 0x003D], [0x003D, 0x003D, 0x003D]]⟩,
  ⟨0x2ADC, none, [[0x2ADD, 0x0338]]⟩,
  ⟨0x2C7C, some .sub, [[0x006A]]⟩,
  ⟨0x2C7D, some .super, [[0x0056]]⟩,
  ⟨0x2D6F, some .super, [[0x2D61]]⟩]

end TexGlyph.MappingData

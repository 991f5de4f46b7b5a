import TexGlyph.Unicode.Mapping.Basic

/-!
# Mappings of the supplementary characters

Data of the Unicode Character Database, version 14.0.0, in ascending order of code points.
-/

namespace TexGlyph.MappingData

/-- Mappings of letters and musical symbols, U+10000 to U+1D3FF. -/
def supplementaryScripts : List MappingRun := [
  ⟨0x10781, some .super, [[0x02D0], [0x02D1], [0x00E6], [0x0299], [0x0253]]⟩,
  ⟨0x10787, some .super, [[0x02A3], [0xAB66], [0x02A5], [0x02A4], [0x0256], [0x0257], [0x1D91],
    [0x0258], [0x025E], [0x02A9], [0x0264], [0x0262], [0x0260], [0x029B], [0x0127], [0x029C],
    [0x0267], [0x0284], [0x02AA], [0x02AB], [0x026C], [0x1DF04], [0xA78E], [0x026E], [0x1DF05],
    [0x028E], [0x1DF06], [0x00F8], [0x0276], [0x0277], [0x0071], [0x027A], [0x1DF08], [0x027D],
    [0x027E], [0x0280], [0x02A8], [0x02A6], [0xAB67], [0x02A7], [0x0288], [0x2C71]]⟩,
  ⟨0x107B2, some .super, [[0x028F], [0x02A1], [0x02A2], [0x0298], [0x01C0], [0x01C1], [0x01C2],
    [0x1DF0A], [0x1DF1E]]⟩,
  ⟨0x1109A, none, [[0x11099, 0x110BA]]⟩,
  ⟨0x1109C, none, [[0x1109B, 0x110BA]]⟩,
  ⟨0x110AB, none, [[0x110A5, 0x110BA]]⟩,
  ⟨0x1112E, none, [[0x11131, 0x11127], [0x11132, 0x11127]]⟩,
  ⟨0x1134B, none, [[0x11347, 0x1133E], [0x11347, 0x11357]]⟩,
  ⟨0x114BB, none, [[0x114B9, 0x114BA], [0x114B9, 0x114B0]]⟩,
  ⟨0x114BE, none, [[0x114B9, 0x114BD]]⟩,
  ⟨0x115BA, none, [[0x115B8, 0x115AF], [0x115B9, 0x115AF]]⟩,
  ⟨0x11938, none, [[0x11935, 0x11930]]⟩,
  ⟨0x1D15E, none, [[0x1D157, 0x1D165], [0x1D158, 0x1D165], [0x1D15F, 0x1D16E], [0x1D15F, 0x1D16F],
    [0x1D15F, 0x1D170], [0x1D15F, 0x1D171], [0x1D15F, 0x1D172]]⟩,
  ⟨0x1D1BB, none, [[0x1D1B9, 0x1D165], [0x1D1BA, 0x1D165], [0x1D1BB, 0x1D16E], [0x1D1BC, 0x1D16E],
    [0x1D1BB, 0x1D16F], [0x1D1BC, 0x1D16F]]⟩]

/-- Mappings of the mathematical alphanumeric symbols, U+1D400 to U+1D7FF. -/
def mathematical : List MappingRun := [
  ⟨0x1D400, some .font, [[0x0041], [0x0042], [0x0043], [0x0044], [0x0045], [0x0046], [0x0047],
    [0x0048], [0x0049], [0x004A], [0x004B], [0x004C], [0x004D], [0x004E], [0x004F], [0x0050],
    [0x0051], [0x0052], [0x0053], [0x0054], [0x0055], [0x0056], [0x0057], [0x0058], [0x0059],
    [0x005A], [0x0061], [0x0062], [0x0063], [0x0064], [0x0065], [0x0066], [0x0067], [0x0068],
    [0x0069], [0x006A], [0x006B], [0x006C], [0x006D], [0x006E], [0x006F], [0x0070], [0x0071],
    [0x0072], [0x0073], [0x0074], [0x0075], [0x0076], [0x0077], [0x0078], [0x0079], [0x007A],
    [0x0041], [0x0042], [0x0043], [0x0044], [0x0045], [0x0046], [0x0047], [0x0048], [0x0049],
    [0x004A], [0x004B], [0x004C], [0x004D], [0x004E], [0x004F], [0x0050], [0x0051], [0x0052],
    [0x0053], [0x0054], [0x0055], [0x0056], [0x0057], [0x0058], [0x0059], [0x005A], [0x0061],
    [0x0062], [0x0063], [0x0064], [0x0065], [0x0066], [0x0067]]⟩,
  ⟨0x1D456, some .font, [[0x0069], [0x006A], [0x006B], [0x006C], [0x006D], [0x006E], [0x006F],
    [0x0070], [0x0071], [0x0072], [0x0073], [0x0074], [0x0075], [0x0076], [0x0077], [0x0078],
    [0x0079], [0x007A], [0x0041], [0x0042], [0x0043], [0x0044], [0x0045], [0x0046], [0x0047],
    [0x0048], [0x0049], [0x004A], [0x004B], [0x004C], [0x004D], [0x004E], [0x004F], [0x0050],
    [0x0051], [0x0052], [0x0053], [0x0054], [0x0055], [0x0056], [0x0057], [0x0058], [0x0059],
    [0x005A], [0x0061], [0x0062], [0x0063], [0x0064], [0x0065], [0x0066], [0x0067], [0x0068],
    [0x0069], [0x006A], [0x006B], [0x006C], [0x006D], [0x006E], [0x006F], [0x0070], [0x0071],
    [0x0072], [0x0073], [0x0074], [0x0075], [0x0076], [0x0077], [0x0078], [0x0079], [0x007A],
    [0x0041]]⟩,
  ⟨0x1D49E, some .font, [[0x0043], [0x0044]]⟩,
  ⟨0x1D4A2, some .font, [[0x0047]]⟩,
  ⟨0x1D4A5, some .font, [[0x004A], [0x004B]]⟩,
  ⟨0x1D4A9, some .font, [[0x004E], [0x004F], [0x0050], [0x0051]]⟩,
  ⟨0x1D4AE, some .font, [[0x0053], [0x0054], [0x0055], [0x0056], [0x0057], [0x0058], [0x0059],
    [0x005A], [0x0061], [0x0062], [0x0063], [0x0064]]⟩,
  ⟨0x1D4BB, some .font, [[0x0066]]⟩,
  ⟨0x1D4BD, some .font, [[0x0068], [0x0069], [0x006A], [0x006B], [0x006C], [0x006D], [0x006E]]⟩,
  ⟨0x1D4C5, some .font, [[0x0070], [0x0071], [0x0072], [0x0073], [0x0074], [0x0075], [0x0076],
    [0x0077], [0x0078], [0x0079], [0x007A], [0x0041], [0x0042], [0x0043], [0x0044], [0x0045],
    [0x0046], [0x0047], [0x0048], [0x0049], [0x004A], [0x004B], [0x004C], [0x004D], [0x004E],
    [0x004F], [0x0050], [0x0051], [0x0052], [0x0053], [0x0054], [0x0055], [0x0056], [0x0057],
    [0x0058], [0x0059], [0x005A], [0x0061], [0x0062], [0x0063], [0x0064], [0x0065], [0x0066],
    [0x0067], [0x0068], [0x0069], [0x006A], [0x006B], [0x006C], [0x006D], [0x006E], [0x006F],
    [0x0070], [0x0071], [0x0072], [0x0073], [0x0074], [0x0075], [0x0076], [0x0077], [0x0078],
    [0x0079], [0x007A], [0x0041], [0x0042]]⟩,
  ⟨0x1D507, some .font, [[0x0044], [0x0045], [0x0046], [0x0047]]⟩,
  ⟨0x1D50D, some .font, [[0x004A], [0x004B], [0x004C], [0x004D], [0x004E], [0x004F], [0x0050],
    [0x0051]]⟩,
  ⟨0x1D516, some .font, [[0x0053], [0x0054], [0x0055], [0x0056], [0x0057], [0x0058], [0x0059]]⟩,
  ⟨0x1D51E, some .font, [[0x0061], [0x0062], [0x0063], [0x0064], [0x0065], [0x0066], [0x0067],
    [0x0068], [0x0069], [0x006A], [0x006B], [0x006C], [0x006D], [0x006E], [0x006F], [0x0070],
    [0x0071], [0x0072], [0x0073], [0x0074], [0x0075], [0x0076], [0x0077], [0x0078], [0x0079],
    [0x007A], [0x0041], [0x0042]]⟩,
  ⟨0x1D53B, some .font, [[0x0044], [0x0045], [0x0046], [0x0047]]⟩,
  ⟨0x1D540, some .font, [[0x0049], [0x004A], [0x004B], [0x004C], [0x004D]]⟩,
  ⟨0x1D546, some .font, [[0x004F]]⟩,
  ⟨0x1D54A, some .font, [[0x0053], [0x0054], [0x0055], [0x0056], [0x0057], [0x0058], [0x0059]]⟩,
  ⟨0x1D552, some .font, [[0x0061], [0x0062], [0x0063], [0x0064], [0x0065], [0x0066], [0x0067],
    [0x0068], [0x0069], [0x006A], [0x006B], [0x006C], [0x006D], [0x006E], [0x006F], [0x0070],
    [0x0071], [0x0072], [0x0073], [0x0074], [0x0075], [0x0076], [0x0077], [0x0078], [0x0079],
    [0x007A], [0x0041], [0x0042], [0x0043], [0x0044], [0x0045], [0x0046], [0x0047], [0x0048],
    [0x0049], [0x004A], [0x004B], [0x004C], [0x004D], [0x004E], [0x004F], [0x0050], [0x0051],
    [0x0052], [0x0053], [0x0054], [0x0055], [0x0056], [0x0057], [0x0058], [0x0059], [0x005A],
    [0x0061], [0x0062], [0x0063], [0x0064], [0x0065], [0x0066], [0x0067], [0x0068], [0x0069],
    [0x006A], [0x006B], [0x006C], [0x006D], [0x006E], [0x006F], [0x0070], [0x0071], [0x0072],
    [0x0073], [0x0074], [0x0075], [0x0076], [0x0077], [0x0078], [0x0079], [0x007A], [0x0041],
    [0x0042], [0x0043], [0x0044], [0x0045], [0x0046], [0x0047], [0x0048], [0x0049], [0x004A],
    [0x004B], [0x004C], [0x004D], [0x004E], [0x004F], [0x0050], [0x0051], [0x0052], [0x0053],
    [0x0054], [0x0055], [0x0056], [0x0057], [0x0058], [0x0059], [0x005A], [0x0061], [0x0062],
    [0x0063], [0x0064], [0x0065], [0x0066], [0x0067], [0x0068], [0x0069], [0x006A], [0x006B],
    [0x006C], [0x006D], [0x006E], [0x006F], [0x0070], [0x0071], [0x0072], [0x0073], [0x0074],
    [0x0075], [0x0076], [0x0077], [0x0078], [0x0079], [0x007A], [0x0041], [0x0042], [0x0043],
    [0x0044], [0x0045], [0x0046], [0x0047], [0x0048], [0x0049], [0x004A], [0x004B], [0x004C],
    [0x004D], [0x004E], [0x004F], [0x0050], [0x0051], [0x0052], [0x0053], [0x0054], [0x0055],
    [0x0056], [0x0057], [0x0058], [0x0059], [0x005A], [0x0061], [0x0062], [0x0063], [0x0064],
    [0x0065], [0x0066], [0x0067], [0x0068], [0x0069], [0x006A], [0x006B], [0x006C], [0x006D],
    [0x006E], [0x006F], [0x0070], [0x0071], [0x0072], [0x0073], [0x0074], [0x0075], [0x0076],
    [0x0077], [0x0078], [0x0079], [0x007A], [0x0041], [0x0042], [0x0043], [0x0044], [0x0045],
    [0x0046], [0x0047], [0x0048], [0x0049], [0x004A], [0x004B], [0x004C], [0x004D], [0x004E],
    [0x004F], [0x0050], [0x0051], [0x0052], [0x0053], [0x0054], [0x0055], [0x0056], [0x0057],
    [0x0058], [0x0059], [0x005A], [0x0061], [0x0062], [0x0063], [0x0064], [0x0065], [0x0066],
    [0x0067], [0x0068], [0x0069], [0x006A], [0x006B], [0x006C], [0x006D], [0x006E], [0x006F],
    [0x0070], [0x0071], [0x0072], [0x0073], [0x0074], [0x0075], [0x0076], [0x0077], [0x0078],
    [0x0079], [0x007A], [0x0041], [0x0042], [0x0043], [0x0044], [0x0045], [0x0046], [0x0047],
    [0x0048], [0x0049], [0x004A], [0x004B], [0x004C], [0x004D], [0x004E], [0x004F], [0x0050],
    [0x0051], [0x0052], [0x0053], [0x0054], [0x0055], [0x0056], [0x0057], [0x0058], [0x0059],
    [0x005A], [0x0061], [0x0062], [0x0063], [0x0064], [0x0065], [0x0066], [0x0067], [0x0068],
    [0x0069], [0x006A], [0x006B], [0x006C], [0x006D], [0x006E], [0x006F], [0x0070], [0x0071],
    [0x0072], [0x0073], [0x0074], [0x0075], [0x0076], [0x0077], [0x0078], [0x0079], [0x007A],
    [0x0041], [0x0042], [0x0043], [0x0044], [0x0045], [0x0046], [0x0047], [0x0048], [0x0049],
    [0x004A], [0x004B], [0x004C], [0x004D], [0x004E], [0x004F], [0x0050], [0x0051], [0x0052],
    [0x0053], [0x0054], [0x0055], [0x0056], [0x0057], [0x0058], [0x0059], [0x005A], [0x0061],
    [0x0062], [0x0063], [0x0064], [0x0065], [0x0066], [0x0067], [0x0068], [0x0069], [0x006A],
    [0x006B], [0x006C], [0x006D], [0x006E], [0x006F], [0x0070], [0x0071], [0x0072], [0x0073],
    [0x0074], [0x0075], [0x0076], [0x0077], [0x0078], [0x0079], [0x007A], [0x0131], [0x0237]]⟩,
  ⟨0x1D6A8, some .font, [[0x0391], [0x0392], [0x0393], [0x0394], [0x0395], [0x0396], [0x0397],
    [0x0398], [0x0399], [0x039A], [0x039B], [0x039C], [0x039D], [0x039E], [0x039F], [0x03A0],
    [0x03A1], [0x03F4], [0x03A3], [0x03A4], [0x03A5], [0x03A6], [0x03A7], [0x03A8], [0x03A9],
    [0x2207], [0x03B1], [0x03B2], [0x03B3], [0x03B4], [0x03B5], [0x03B6], [0x03B7], [0x03B8],
    [0x03B9], [0x03BA], [0x03BB], [0x03BC], [0x03BD], [0x03BE], [0x03BF], [0x03C0], [0x03C1],
    [0x03C2], [0x03C3], [0x03C4], [0x03C5], [0x03C6], [0x03C7], [0x03C8], [0x03C9], [0x2202],
    [0x03F5], [0x03D1], [0x03F0], [0x03D5], [0x03F1], [0x03D6], [0x0391], [0x0392], [0x0393],
    [0x0394], [0x0395], [0x0396], [0x0397], [0x0398], [0x0399], [0x039A], [0x039B], [0x039C],
    [0x039D], [0x039E], [0x039F], [0x03A0], [0x03A1], [0x03F4], [0x03A3], [0x03A4], [0x03A5],
    [0x03A6], [0x03A7], [0x03A8], [0x03A9], [0x2207], [0x03B1], [0x03B2], [0x03B3], [0x03B4],
    [0x03B5], [0x03B6], [0x03B7], [0x03B8], [0x03B9], [0x03BA], [0x03BB], [0x03BC], [0x03BD],
    [0x03BE], [0x03BF], [0x03C0], [0x03C1], [0x03C2], [0x03C3], [0x03C4], [0x03C5], [0x03C6],
    [0x03C7], [0x03C8], [0x03C9], [0x2202], [0x03F5], [0x03D1], [0x03F0], [0x03D5], [0x03F1],
    [0x03D6], [0x0391], [0x0392], [0x0393], [0x0394], [0x0395], [0x0396], [0x0397], [0x0398],
    [0x0399], [0x039A], [0x039B], [0x039C], [0x039D], [0x039E], [0x039F], [0x03A0], [0x03A1],
    [0x03F4], [0x03A3], [0x03A4], [0x03A5], [0x03A6], [0x03A7], [0x03A8], [0x03A9], [0x2207],
    [0x03B1], [0x03B2], [0x03B3], [0x03B4], [0x03B5], [0x03B6], [0x03B7], [0x03B8], [0x03B9],
    [0x03BA], [0x03BB], [0x03BC], [0x03BD], [0x03BE], [0x03BF], [0x03C0], [0x03C1], [0x03C2],
    [0x03C3], [0x03C4], [0x03C5], [0x03C6], [0x03C7], [0x03C8], [0x03C9], [0x2202], [0x03F5],
    [0x03D1], [0x03F0], [0x03D5], [0x03F1], [0x03D6], [0x0391], [0x0392], [0x0393], [0x0394],
    [0x0395], [0x0396], [0x0397], [0x0398], [0x0399], [0x039A], [0x039B], [0x039C], [0x039D],
    [0x039E], [0x039F], [0x03A0], [0x03A1], [0x03F4], [0x03A3], [0x03A4], [0x03A5], [0x03A6],
    [0x03A7], [0x03A8], [0x03A9], [0x2207], [0x03B1], [0x03B2], [0x03B3], [0x03B4], [0x03B5],
    [0x03B6], [0x03B7], [0x03B8], [0x03B9], [0x03BA], [0x03BB], [0x03BC], [0x03BD], [0x03BE],
    [0x03BF], [0x03C0], [0x03C1], [0x03C2], [0x03C3], [0x03C4], [0x03C5], [0x03C6], [0x03C7],
    [0x03C8], [0x03C9], [0x2202], [0x03F5], [0x03D1], [0x03F0], [0x03D5], [0x03F1], [0x03D6],
    [0x0391], [0x0392], [0x0393], [0x0394], [0x0395], [0x0396], [0x0397], [0x0398], [0x0399],
    [0x039A], [0x039B], [0x039C], [0x039D], [0x039E], [0x039F], [0x03A0], [0x03A1], [0x03F4],
    [0x03A3], [0x03A4], [0x03A5], [0x03A6], [0x03A7], [0x03A8], [0x03A9], [0x2207], [0x03B1],
    [0x03B2], [0x03B3], [0x03B4], [0x03B5], [0x03B6], [0x03B7], [0x03B8], [0x03B9], [0x03BA],
    [0x03BB], [0x03BC], [0x03BD], [0x03BE], [0x03BF], [0x03C0], [0x03C1], [0x03C2], [0x03C3],
    [0x03C4], [0x03C5], [0x03C6], [0x03C7], [0x03C8], [0x03C9], [0x2202], [0x03F5], [0x03D1],
    [0x03F0], [0x03D5], [0x03F1], [0x03D6], [0x03DC], [0x03DD]]⟩,
  ⟨0x1D7CE, some .font, [[0x0030], [0x0031], [0x0032], [0x0033], [0x0034], [0x0035], [0x0036],
    [0x0037], [0x0038], [0x0039], [0x0030], [0x0031], [0x0032], [0x0033], [0x0034], [0x0035],
    [0x0036], [0x0037], [0x0038], [0x0039], [0x0030], [0x0031], [0x0032], [0x0033], [0x0034],
    [0x0035], [0x0036], [0x0037], [0x0038], [0x0039], [0x0030], [0x0031], [0x0032], [0x0033],
    [0x0034], [0x0035], [0x0036], [0x0037], [0x0038], [0x0039], [0x0030], [0x0031], [0x0032],
    [0x0033], [0x0034], [0x0035], [0x0036], [0x0037], [0x0038], [0x0039]]⟩]

/-- Mappings of Arabic mathematical and enclosed symbols, U+1D800 to U+1FFFF. -/
def enclosed : List MappingRun := [
  ⟨0x1EE00, some .font, [[0x0627], [0x0628], [0x062C], [0x062F]]⟩,
  ⟨0x1EE05, some .font, [[0x0648], [0x0632], [0x062D], [0x0637], [0x064A], [0x0643], [0x0644],
    [0x0645], [0x0646], [0x0633], [0x0639], [0x0641], [0x0635], [0x0642], [0x0631], [0x0634],
    [0x062A], [0x062B], [0x062E], [0x0630], [0x0636], [0x0638], [0x063A], [0x066E], [0x06BA],
    [0x06A1], [0x066F]]⟩,
  ⟨0x1EE21, some .font, [[0x0628], [0x062C]]⟩,
  ⟨0x1EE24, some .font, [[0x0647]]⟩,
  ⟨0x1EE27, some .font, [[0x062D]]⟩,
  ⟨0x1EE29, some .font, [[0x064A], [0x0643], [0x0644], [0x0645], [0x0646], [0x0633], [0x0639],
    [0x0641], [0x0635], [0x0642]]⟩,
  ⟨0x1EE34, some .font, [[0x0634], [0x062A], [0x062B], [0x062E]]⟩,
  ⟨0x1EE39, some .font, [[0x0636]]⟩,
  ⟨0x1EE3B, some .font, [[0x063A]]⟩,
  ⟨0x1EE42, some .font, [[0x062C]]⟩,
  ⟨0x1EE47, some .font, [[0x062D]]⟩,
  ⟨0x1EE49, some .font, [[0x064A]]⟩,
  ⟨0x1EE4B, some .font, [[0x0644]]⟩,
  ⟨0x1EE4D, some .font, [[0x0646], [0x0633], [0x0639]]⟩,
  ⟨0x1EE51, some .font, [[0x0635], [0x0642]]⟩,
  ⟨0x1EE54, some .font, [[0x0634]]⟩,
  ⟨0x1EE57, some .font, [[0x062E]]⟩,
  ⟨0x1EE59, some .font, [[0x0636]]⟩,
  ⟨0x1EE5B, some .font, [[0x063A]]⟩,
  ⟨0x1EE5D, some .font, [[0x06BA]]⟩,
  ⟨0x1EE5F, some .font, [[0x066F]]⟩,
  ⟨0x1EE61, some .font, [[0x0628], [0x062C]]⟩,
  ⟨0x1EE64, some .font, [[0x0647]]⟩,
  ⟨0x1EE67, some .font, [[0x062D], [0x0637], [0x064A], [0x0643]]⟩,
  ⟨0x1EE6C, some .font, [[0x0645], [0x0646], [0x0633], [0x0639], [0x0641], [0x0635], [0x0642]]⟩,
  ⟨0x1EE74, some .font, [[0x0634], [0x062A], [0x062B], [0x062E]]⟩,
  ⟨0x1EE79, some .font, [[0x0636], [0x0638], [0x063A], [0x066E]]⟩,
  ⟨0x1EE7E, some .font, [[0x06A1]]⟩,
  ⟨0x1EE80, some .font, [[0x0627], [0x0628], [0x062C], [0x062F], [0x0647], [0x0648], [0x0632],
    [0x062D], [0x0637], [0x064A]]⟩,
  ⟨0x1EE8B, some .font, [[0x0644], [0x0645], [0x0646], [0x0633], [0x0639], [0x0641], [0x0635],
    [0x0642], [0x0631], [0x0634], [0x062A], [0x062B], [0x062E], [0x0630], [0x0636], [0x0638],
    [0x063A]]⟩,
  ⟨0x1EEA1, some .font, [[0x0628], [0x062C], [0x062F]]⟩,
  ⟨0x1EEA5, some .font, [[0x0648], [0x0632], [0x062D], [0x0637], [0x064A]]⟩,
  ⟨0x1EEAB, some .font, [[0x0644], [0x0645], [0x0646], [0x0633], [0x0639], [0x0641], [0x0635],
    [0x0642], [0x0631], [0x0634], [0x062A], [0x062B], [0x062E], [0x0630], [0x0636], [0x0638],
    [0x063A]]⟩,
  ⟨0x1F100, some .compat, [[0x0030, 0x002E], [0x0030, 0x002C], [0x0031, 0x002C], [0x0032, 0x002C],
    [0x0033, 0x002C], [0x0034, 0x002C], [0x0035, 0x002C], [0x0036, 0x002C], [0x0037, 0x002C],
    [0x0038, 0x002C], [0x0039, 0x002C]]⟩,
  ⟨0x1F110, some .compat, [[0x0028, 0x0041, 0x0029], [0x0028, 0x0042, 0x0029],
    [0x0028, 0x0043, 0x0029], [0x0028, 0x0044, 0x0029], [0x0028, 0x0045, 0x0029],
    [0x0028, 0x0046, 0x0029], [0x0028, 0x0047, 0x0029], [0x0028, 0x0048, 0x0029],
    [0x0028, 0x0049, 0x0029], [0x0028, 0x004A, 0x0029], [0x0028, 0x004B, 0x0029],
    [0x0028, 0x004C, 0x0029], [0x0028, 0x004D, 0x0029], [0x0028, 0x004E, 0x0029],
    [0x0028, 0x004F, 0x0029], [0x0028, 0x0050, 0x0029], [0x0028, 0x0051, 0x0029],
    [0x0028, 0x0052, 0x0029], [0x0028, 0x0053, 0x0029], [0x0028, 0x0054, 0x0029],
    [0x0028, 0x0055, 0x0029], [0x0028, 0x0056, 0x0029], [0x0028, 0x0057, 0x0029],
    [0x0028, 0x0058, 0x0029], [0x0028, 0x0059, 0x0029], [0x0028, 0x005A, 0x0029],
    [0x3014, 0x0053, 0x3015]]⟩,
  ⟨0x1F12B, some .circle, [[0x0043], [0x0052], [0x0043, 0x0044], [0x0057, 0x005A]]⟩,
  ⟨0x1F130, some .square, [[0x0041], [0x0042], [0x0043], [0x0044], [0x0045], [0x0046], [0x0047],
    [0x0048], [0x0049], [0x004A], [0x004B], [0x004C], [0x004D], [0x004E], [0x004F], [0x0050],
    [0x0051], [0x0052], [0x0053], [0x0054], [0x0055], [0x0056], [0x0057], [0x0058], [0x0059],
    [0x005A], [0x0048, 0x0056], [0x004D, 0x0056], [0x0053, 0x0044], [0x0053, 0x0053],
    [0x0050, 0x0050, 0x0056], [0x0057, 0x0043]]⟩,
  ⟨0x1F16A, some .super, [[0x004D, 0x0043], [0x004D, 0x0044], [0x004D, 0x0052]]⟩,
  ⟨0x1F190, some .square, [[0x0044, 0x004A]]⟩,
  ⟨0x1F200, some .square, [[0x307B, 0x304B], [0x30B3, 0x30B3], [0x30B5]]⟩,
  ⟨0x1F210, some .square, [[0x624B], [0x5B57], [0x53CC], [0x30C7], [0x4E8C], [0x591A], [0x89E3],
    [0x5929], [0x4EA4], [0x6620], [0x7121], [0x6599], [0x524D], [0x5F8C], [0x518D], [0x65B0],
    [0x521D], [0x7D42], [0x751F], [0x8CA9], [0x58F0], [0x5439], [0x6F14], [0x6295], [0x6355],
    [0x4E00], [0x4E09], [0x904A], [0x5DE6], [0x4E2D], [0x53F3], [0x6307], [0x8D70], [0x6253],
    [0x7981], [0x7A7A], [0x5408], [0x6E80], [0x6709], [0x6708], [0x7533], [0x5272], [0x55B6],
    [0x914D]]⟩,
  ⟨0x1F240, some .compat, [[0x3014, 0x672C, 0x3015], [0x3014, 0x4E09, 0x3015],
    [0x3014, 0x4E8C, 0x3015], [0x3014, 0x5B89, 0x3015], [0x3014, 0x70B9, 0x3015],
    [0x3014, 0x6253, 0x3015], [0x3014, 0x76D7, 0x3015], [0x3014, 0x52DD, 0x3015],
    [0x3014, 0x6557, 0x3015]]⟩,
  ⟨0x1F250, some .circle, [[0x5F97], [0x53EF]]⟩,
  ⟨0x1FBF0, some .font, [[0x0030], [0x0031], [0x0032], [0x0033], [0x0034], [0x0035], [0x0036],
    [0x0037], [0x0038], [0x0039]]⟩]

end TexGlyph.MappingData

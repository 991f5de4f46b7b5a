import TexGlyph.Unicode.Mapping.Basic

/-!
# Mappings of letters and marks

Data of the Unicode Character Database, version 14.0.0, in ascending order of code points.
-/

namespace TexGlyph.MappingData

/-- Mappings of the Latin letters and the modifier letters, U+00A0 to U+02FF. -/
def latin : List MappingRun := [
  ⟨0x00A0, some .noBreak, [[0x0020]]⟩,
  ⟨0x00A8, some .compat, [[0x0020, 0x0308]]⟩,
  ⟨0x00AA, some .super, [[0x0061]]⟩,
  ⟨0x00AF, some .compat, [[0x0020, 0x0304]]⟩,
  ⟨0x00B2, some .super, [[0x0032], [0x0033]]⟩,
  ⟨0x00B4, some .compat, [[0x0020, 0x0301], [0x03BC]]⟩,
  ⟨0x00B8, some .compat, [[0x0020, 0x0327]]⟩,
  ⟨0x00B9, some .super, [[0x0031], [0x006F]]⟩,
  ⟨0x00BC, some .fraction, [[0x0031, 0x2044, 0x0034], [0x0031, 0x2044, 0x0032],
    [0x0033, 0x2044, 0x0034]]⟩,
  ⟨0x00C0, none, [[0x0041, 0x0300], [0x0041, 0x0301], [0x0041, 0x0302], [0x0041, 0x0303],
    [0x0041, 0x0308], [0x0041, 0x030A]]⟩,
  ⟨0x00C7, none, [[0x0043, 0x0327], [0x0045, 0x0300], [0x0045, 0x0301], [0x0045, 0x0302],
    [0x0045, 0x0308], [0x0049, 0x0300], [0x0049, 0x0301], [0x0049, 0x0302], [0x0049, 0x0308]]⟩,
  ⟨0x00D1, none, [[0x004E, 0x0303], [0x004F, 0x0300], [0x004F, 0x0301], [0x004F, 0x0302],
    [0x004F, 0x0303], [0x004F, 0x0308]]⟩,
  ⟨0x00D9, none, [[0x0055, 0x0300], [0x0055, 0x0301], [0x0055, 0x0302], [0x0055, 0x0308],
    [0x0059, 0x0301]]⟩,
  ⟨0x00E0, none, [[0x0061, 0x0300], [0x0061, 0x0301], [0x0061, 0x0302], [0x0061, 0x0303],
    [0x0061, 0x0308], [0x0061, 0x030A]]⟩,
  ⟨0x00E7, none, [[0x0063, 0x0327], [0x0065, 0x0300], [0x0065, 0x0301], [0x0065, 0x0302],
    [0x0065, 0x0308], [0x0069, 0x0300], [0x0069, 0x0301], [0x0069, 0x0302], [0x0069, 0x0308]]⟩,
  ⟨0x00F1, none, [[0x006E, 0x0303], [0x006F, 0x0300], [0x006F, 0x0301], [0x006F, 0x0302],
    [0x006F, 0x0303], [0x006F, 0x0308]]⟩,
  ⟨0x00F9, none, [[0x0075, 0x0300], [0x0075, 0x0301], [0x0075, 0x0302], [0x0075, 0x0308],
    [0x0079, 0x0301]]⟩,
  ⟨0x00FF, none, [[0x0079, 0x0308], [0x0041, 0x0304], [0x0061, 0x0304], [0x0041, 0x0306],
    [0x0061, 0x0306], [0x0041, 0x0328], [0x0061, 0x0328], [0x0043, 0x0301], [0x0063, 0x0301],
    [0x0043, 0x0302], [0x0063, 0x0302], [0x0043, 0x0307], [0x0063, 0x0307], [0x0043, 0x030C],
    [0x0063, 0x030C], [0x0044, 0x030C], [0x0064, 0x030C]]⟩,
  ⟨0x0112, none, [[0x0045, 0x0304], [0x0065, 0x0304], [0x0045, 0x0306], [0x0065, 0x0306],
    [0x0045, 0x0307], [0x0065, 0x0307], [0x0045, 0x0328], [0x0065, 0x0328], [0x0045, 0x030C],
    [0x0065, 0x030C], [0x0047, 0x0302], [0x0067, 0x0302], [0x0047, 0x0306], [0x0067, 0x0306],
    [0x0047, 0x0307], [0x0067, 0x0307], [0x0047, 0x0327], [0x0067, 0x0327], [0x0048, 0x0302],
    [0x0068, 0x0302]]⟩,
  ⟨0x0128, none, [[0x0049, 0x0303], [0x0069, 0x0303], [0x0049, 0x0304], [0x0069, 0x0304],
    [0x0049, 0x0306], [0x0069, 0x0306], [0x0049, 0x0328], [0x0069, 0x0328], [0x0049, 0x0307]]⟩,
  ⟨0x0132, some .compat, [[0x0049, 0x004A], [0x0069, 0x006A]]⟩,
  ⟨0x0134, none, [[0x004A, 0x0302], [0x006A, 0x0302], [0x004B, 0x0327], [0x006B, 0x0327]]⟩,
  ⟨0x0139, none, [[0x004C, 0x0301], [0x006C, 0x0301], [0x004C, 0x0327], [0x006C, 0x0327],
    [0x004C, 0x030C], [0x006C, 0x030C]]⟩,
  ⟨0x013F, some .compat, [[0x004C, 0x00B7], [0x006C, 0x00B7]]⟩,
  ⟨0x0143, none, [[0x004E, 0x0301], [0x006E, 0x0301], [0x004E, 0x0327], [0x006E, 0x0327],
    [0x004E, 0x030C], [0x006E, 0x030C]]⟩,
  ⟨0x0149, some .compat, [[0x02BC, 0x006E]]⟩,
  ⟨0x014C, none, [[0x004F, 0x0304], [0x006F, 0x0304], [0x004F, 0x0306], [0x006F, 0x0306],
    [0x004F, 0x030B], [0x006F, 0x030B]]⟩,
  ⟨0x0154, none, [[0x0052, 0x0301], [0x0072, 0x0301], [0x0052, 0x0327], [0x0072, 0x0327],
    [0x0052, 0x030C], [0x0072, 0x030C], [0x0053, 0x0301], [0x0073, 0x0301], [0x0053, 0x0302],
    [0x0073, 0x0302], [0x0053, 0x0327], [0x0073, 0x0327], [0x0053, 0x030C], [0x0073, 0x030C],
    [0x0054, 0x0327], [0x0074, 0x0327], [0x0054, 0x030C], [0x0074, 0x030C]]⟩,
  ⟨0x0168, none, [[0x0055, 0x0303], [0x0075, 0x0303], [0x0055, 0x0304], [0x0075, 0x0304],
    [0x0055, 0x0306], [0x0075, 0x0306], [0x0055, 0x030A], [0x0075, 0x030A], [0x0055, 0x030B],
    [0x0075, 0x030B], [0x0055, 0x0328], [0x0075, 0x0328], [0x0057, 0x0302], [0x0077, 0x0302],
    [0x0059, 0x0302], [0x0079, 0x0302], [0x0059, 0x0308], [0x005A, 0x0301], [0x007A, 0x0301],
    [0x005A, 0x0307], [0x007A, 0x0307], [0x005A, 0x030C], [0x007A, 0x030C]]⟩,
  ⟨0x017F, some .compat, [[0x0073]]⟩,
  ⟨0x01A0, none, [[0x004F, 0x031B], [0x006F, 0x031B]]⟩,
  ⟨0x01AF, none, [[0x0055, 0x031B], [0x0075, 0x031B]]⟩,
  ⟨0x01C4, some .compat, [[0x0044, 0x017D], [0x0044, 0x017E], [0x0064, 0x017E], [0x004C, 0x004A],
    [0x004C, 0x006A], [0x006C, 0x006A], [0x004E, 0x004A], [0x004E, 0x006A], [0x006E, 0x006A]]⟩,
  ⟨0x01CD, none, [[0x0041, 0x030C], [0x0061, 0x030C], [0x0049, 0x030C], [0x0069, 0x030C],
    [0x004F, 0x030C], [0x006F, 0x030C], [0x0055, 0x030C], [0x0075, 0x030C], [0x00DC, 0x0304],
    [0x00FC, 0x0304], [0x00DC, 0x0301], [0x00FC, 0x0301], [0x00DC, 0x030C], [0x00FC, 0x030C],
    [0x00DC, 0x0300], [0x00FC, 0x0300]]⟩,
  ⟨0x01DE, none, [[0x00C4, 0x0304], [0x00E4, 0x0304], [0x0226, 0x0304], [0x0227, 0x0304],
    [0x00C6, 0x0304], [0x00E6, 0x0304]]⟩,
  ⟨0x01E6, none, [[0x0047, 0x030C], [0x0067, 0x030C], [0x004B, 0x030C], [0x006B, 0x030C],
    [0x004F, 0x0328], [0x006F, 0x0328], [0x01EA, 0x0304], [0x01EB, 0x0304], [0x01B7, 0x030C],
    [0x0292, 0x030C], [0x006A, 0x030C]]⟩,
  ⟨0x01F1, some .compat, [[0x0044, 0x005A], [0x0044, 0x007A], [0x0064, 0x007A]]⟩,
  ⟨0x01F4, none, [[0x0047, 0x0301], [0x0067, 0x0301]]⟩,
  ⟨0x01F8, none, [[0x004E, 0x0300], [0x006E, 0x0300], [0x00C5, 0x0301], [0x00E5, 0x0301],
    [0x00C6, 0x0301], [0x00E6, 0x0301], [0x00D8, 0x0301], [0x00F8, 0x0301], [0x0041, 0x030F],
    [0x0061, 0x030F], [0x0041, 0x0311], [0x0061, 0x0311], [0x0045, 0x030F], [0x0065, 0x030F],
    [0x0045, 0x0311], [0x0065, 0x0311], [0x0049, 0x030F], [0x0069, 0x030F], [0x0049, 0x0311],
    [0x0069, 0x0311], [0x004F, 0x030F], [0x006F, 0x030F], [0x004F, 0x0311], [0x006F, 0x0311],
    [0x0052, 0x030F], [0x0072, 0x030F], [0x0052, 0x0311], [0x0072, 0x0311], [0x0055, 0x030F],
    [0x0075, 0x030F], [0x0055, 0x0311], [0x0075, 0x0311], [0x0053, 0x0326], [0x0073, 0x0326],
    [0x0054, 0x0326], [0x0074, 0x0326]]⟩,
  ⟨0x021E, none, [[0x0048, 0x030C], [0x0068, 0x030C]]⟩,
  ⟨0x0226, none, [[0x0041, 0x0307], [0x0061, 0x0307], [0x0045, 0x0327], [0x0065, 0x0327],
    [0x00D6, 0x0304], [0x00F6, 0x0304], [0x00D5, 0x0304], [0x00F5, 0x0304], [0x004F, 0x0307],
    [0x006F, 0x0307], [0x022E, 0x0304], [0x022F, 0x0304], [0x0059, 0x0304], [0x0079, 0x0304]]⟩,
  ⟨0x02B0, some .super, [[0x0068], [0x0266], [0x006A], [0x0072], [0x0279], [0x027B], [0x0281],
    [0x0077], [0x0079]]⟩,
  ⟨0x02D8, some .compat, [[0x0020, 0x0306], [0x0020, 0x0307], [0x0020, 0x030A], [0x0020, 0x0328],
    [0x0020, 0x0303], [0x0020, 0x030B]]⟩,
  ⟨0x02E0, some .super, [[0x0263], [0x006C], [0x0073], [0x0078], [0x0295]]⟩]

/-- Mappings of the combining marks and of Greek and Cyrillic letters, U+0300 to U+058F. -/
def greekCyrillic : List MappingRun := [
  ⟨0x0340, none, [[0x0300], [0x0301]]⟩,
  ⟨0x0343, none, [[0x0313], [0x0308, 0x0301]]⟩,
  ⟨0x0374, none, [[0x02B9]]⟩,
  ⟨0x037A, some .compat, [[0x0020, 0x0345]]⟩,
  ⟨0x037E, none, [[0x003B]]⟩,
  ⟨0x0384, some .compat, [[0x0020, 0x0301]]⟩,
  ⟨0x0385, none, [[0x00A8, 0x0301], [0x0391, 0x0301], [0x00B7], [0x0395, 0x0301],
    [0x0397, 0x0301], [0x0399, 0x0301]]⟩,
  ⟨0x038C, none, [[0x039F, 0x0301]]⟩,
  ⟨0x038E, none, [[0x03A5, 0x0301], [0x03A9, 0x0301], [0x03CA, 0x0301]]⟩,
  ⟨0x03AA, none, [[0x0399, 0x0308], [0x03A5, 0x0308], [0x03B1, 0x0301], [0x03B5, 0x0301],
    [0x03B7, 0x0301], [0x03B9, 0x0301], [0x03CB, 0x0301]]⟩,
  ⟨0x03CA, none, [[0x03B9, 0x0308], [0x03C5, 0x0308], [0x03BF, 0x0301], [0x03C5, 0x0301],
    [0x03C9, 0x0301]]⟩,
  ⟨0x03D0, some .compat, [[0x03B2], [0x03B8], [0x03A5]]⟩,
  ⟨0x03D3, none, [[0x03D2, 0x0301], [0x03D2, 0x0308]]⟩,
  ⟨0x03D5, some .compat, [[0x03C6], [0x03C0]]⟩,
  ⟨0x03F0, some .compat, [[0x03BA], [0x03C1], [0x03C2]]⟩,
  ⟨0x03F4, some .compat, [[0x0398], [0x03B5]]⟩,
  ⟨0x03F9, some .compat, [[0x03A3]]⟩,
  ⟨0x0400, none, [[0x0415, 0x0300], [0x0415, 0x0308]]⟩,
  ⟨0x0403, none, [[0x0413, 0x0301]]⟩,
  ⟨0x0407, none, [[0x0406, 0x0308]]⟩,
  ⟨0x040C, none, [[0x041A, 0x0301], [0x0418, 0x0300], [0x0423, 0x0306]]⟩,
  ⟨0x0419, none, [[0x0418, 0x0306]]⟩,
  ⟨0x0439, none, [[0x0438, 0x0306]]⟩,
  ⟨0x0450, none, [[0x0435, 0x0300], [0x0435, 0x0308]]⟩,
  ⟨0x0453, none, [[0x0433, 0x0301]]⟩,
  ⟨0x0457, none, [[0x0456, 0x0308]]⟩,
  ⟨0x045C, none, [[0x043A, 0x0301], [0x0438, 0x0300], [0x0443, 0x0306]]⟩,
  ⟨0x0476, none, [[0x0474, 0x030F], [0x0475, 0x030F]]⟩,
  ⟨0x04C1, none, [[0x0416, 0x0306], [0x0436, 0x0306]]⟩,
  ⟨0x04D0, none, [[0x0410, 0x0306], [0x0430, 0x0306], [0x0410, 0x0308], [0x0430, 0x0308]]⟩,
  ⟨0x04D6, none, [[0x0415, 0x0306], [0x0435, 0x0306]]⟩,
  ⟨0x04DA, none, [[0x04D8, 0x0308], [0x04D9, 0x0308], [0x0416, 0x0308], [0x0436, 0x0308],
    [0x0417, 0x0308], [0x0437, 0x0308]]⟩,
  ⟨0x04E2, none, [[0x0418, 0x0304], [0x0438, 0x0304], [0x0418, 0x0308], [0x0438, 0x0308],
    [0x041E, 0x0308], [0x043E, 0x0308]]⟩,
  ⟨0x04EA, none, [[0x04E8, 0x0308], [0x04E9, 0x0308], [0x042D, 0x0308], [0x044D, 0x0308],
    [0x0423, 0x0304], [0x0443, 0x0304], [0x0423, 0x0308], [0x0443, 0x0308], [0x0423, 0x030B],
    [0x0443, 0x030B], [0x0427, 0x0308], [0x0447, 0x0308]]⟩,
  ⟨0x04F8, none, [[0x042B, 0x0308], [0x044B, 0x0308]]⟩,
  ⟨0x0587, some .compat, [[0x0565, 0x0582]]⟩]

/-- Mappings of the Semitic, Indic and other scripts, U+0590 to U+1CFF. -/
def eastern : List MappingRun := [
  ⟨0x0622, none, [[0x0627, 0x0653], [0x0627, 0x0654], [0x0648, 0x0654], [0x0627, 0x0655],
    [0x064A, 0x0654]]⟩,
  ⟨0x0675, some .compat, [[0x0627, 0x0674], [0x0648, 0x0674], [0x06C7, 0x0674],
    [0x064A, 0x0674]]⟩,
  ⟨0x06C0, none, [[0x06D5, 0x0654]]⟩,
  ⟨0x06C2, none, [[0x06C1, 0x0654]]⟩,
  ⟨0x06D3, none, [[0x06D2, 0x0654]]⟩,
  ⟨0x0929, none, [[0x0928, 0x093C]]⟩,
  ⟨0x0931, none, [[0x0930, 0x093C]]⟩,
  ⟨0x0934, none, [[0x0933, 0x093C]]⟩,
  ⟨0x0958, none, [[0x0915, 0x093C], [0x0916, 0x093C], [0x0917, 0x093C], [0x091C, 0x093C],
    [0x0921, 0x093C], [0x0922, 0x093C], [0x092B, 0x093C], [0x092F, 0x093C]]⟩,
  ⟨0x09CB, none, [[0x09C7, 0x09BE], [0x09C7, 0x09D7]]⟩,
  ⟨0x09DC, none, [[0x09A1, 0x09BC], [0x09A2, 0x09BC]]⟩,
  ⟨0x09DF, none, [[0x09AF, 0x09BC]]⟩,
  ⟨0x0A33, none, [[0x0A32, 0x0A3C]]⟩,
  ⟨0x0A36, none, [[0x0A38, 0x0A3C]]⟩,
  ⟨0x0A59, none, [[0x0A16, 0x0A3C], [0x0A17, 0x0A3C], [0x0A1C, 0x0A3C]]⟩,
  ⟨0x0A5E, none, [[0x0A2B, 0x0A3C]]⟩,
  ⟨0x0B48, none, [[0x0B47, 0x0B56]]⟩,
  ⟨0x0B4B, none, [[0x0B47, 0x0B3E], [0x0B47, 0x0B57]]⟩,
  ⟨0x0B5C, none, [[0x0B21, 0x0B3C], [0x0B22, 0x0B3C]]⟩,
  ⟨0x0B94, none, [[0x0B92, 0x0BD7]]⟩,
  ⟨0x0BCA, none, [[0x0BC6, 0x0BBE], [0x0BC7, 0x0BBE], [0x0BC6, 0x0BD7]]⟩,
  ⟨0x0C48, none, [[0x0C46, 0x0C56]]⟩,
  ⟨0x0CC0, none, [[0x0CBF, 0x0CD5]]⟩,
  ⟨0x0CC7, none, [[0x0CC6, 0x0CD5], [0x0CC6, 0x0CD6]]⟩,
  ⟨0x0CCA, none, [[0x0CC6, 0x0CC2], [0x0CCA, 0x0CD5]]⟩,
  ⟨0x0D4A, none, [[0x0D46, 0x0D3E], [0x0D47, 0x0D3E], [0x0D46, 0x0D57]]⟩,
  ⟨0x0DDA, none, [[0x0DD9, 0x0DCA]]⟩,
  ⟨0x0DDC, none, [[0x0DD9, 0x0DCF], [0x0DDC, 0x0DCA], [0x0DD9, 0x0DDF]]⟩,
  ⟨0x0E33, some .compat, [[0x0E4D, 0x0E32]]⟩,
  ⟨0x0EB3, some .compat, [[0x0ECD, 0x0EB2]]⟩,
  ⟨0x0EDC, some .compat, [[0x0EAB, 0x0E99], [0x0EAB, 0x0EA1]]⟩,
  ⟨0x0F0C, some .noBreak, [[0x0F0B]]⟩,
  ⟨0x0F43, none, [[0x0F42, 0x0FB7]]⟩,
  ⟨0x0F4D, none, [[0x0F4C, 0x0FB7]]⟩,
  ⟨0x0F52, none, [[0x0F51, 0x0FB7]]⟩,
  ⟨0x0F57, none, [[0x0F56, 0x0FB7]]⟩,
  ⟨0x0F5C, none, [[0x0F5B, 0x0FB7]]⟩,
  ⟨0x0F69, none, [[0x0F40, 0x0FB5]]⟩,
  ⟨0x0F73, none, [[0x0F71, 0x0F72]]⟩,
  ⟨0x0F75, none, [[0x0F71, 0x0F74], [0x0FB2, 0x0F80]]⟩,
  ⟨0x0F77, some .compat, [[0x0FB2, 0x0F81]]⟩,
  ⟨0x0F78, none, [[0x0FB3, 0x0F80]]⟩,
  ⟨0x0F79, some .compat, [[0x0FB3, 0x0F81]]⟩,
  ⟨0x0F81, none, [[0x0F71, 0x0F80]]⟩,
  ⟨0x0F93, none, [[0x0F92, 0x0FB7]]⟩,
  ⟨0x0F9D, none, [[0x0F9C, 0x0FB7]]⟩,
  ⟨0x0FA2, none, [[0x0FA1, 0x0FB7]]⟩,
  ⟨0x0FA7, none, [[0x0FA6, 0x0FB7]]⟩,
  ⟨0x0FAC, none, [[0x0FAB, 0x0FB7]]⟩,
  ⟨0x0FB9, none, [[0x0F90, 0x0FB5]]⟩,
  ⟨0x1026, none, [[0x1025, 0x102E]]⟩,
  ⟨0x10FC, some .super, [[0x10DC]]⟩,
  ⟨0x1B06, none, [[0x1B05, 0x1B35]]⟩,
  ⟨0x1B08, none, [[0x1B07, 0x1B35]]⟩,
  ⟨0x1B0A, none, [[0x1B09, 0x1B35]]⟩,
  ⟨0x1B0C, none, [[0x1B0B, 0x1B35]]⟩,
  ⟨0x1B0E, none, [[0x1B0D, 0x1B35]]⟩,
  ⟨0x1B12, none, [[0x1B11, 0x1B35]]⟩,
  ⟨0x1B3B, none, [[0x1B3A, 0x1B35]]⟩,
  ⟨0x1B3D, none, [[0x1B3C, 0x1B35]]⟩,
  ⟨0x1B40, none, [[0x1B3E, 0x1B35], [0x1B3F, 0x1B35]]⟩,
  ⟨0x1B43, none, [[0x1B42, 0x1B35]]⟩]

/-- Mappings of the phonetic extensions and of further Latin and Greek letters, U+1D00 to U+1FFF. -/
def extended : List MappingRun := [
  ⟨0x1D2C, some .super, [[0x0041], [0x00C6], [0x0042]]⟩,
  ⟨0x1D30, some .super, [[0x0044], [0x0045], [0x018E], [0x0047], [0x0048], [0x0049], [0x004A],
    [0x004B], [0x004C], [0x004D], [0x004E]]⟩,
  ⟨0x1D3C, some .super, [[0x004F], [0x0222], [0x0050], [0x0052], [0x0054], [0x0055], [0x0057],
    [0x0061], [0x0250], [0x0251], [0x1D02], [0x0062], [0x0064], [0x0065], [0x0259], [0x025B],
    [0x025C], [0x0067]]⟩,
  ⟨0x1D4F, some .super, [[0x006B], [0x006D], [0x014B], [0x006F], [0x0254], [0x1D16], [0x1D17],
    [0x0070], [0x0074], [0x0075], [0x1D1D], [0x026F], [0x0076], [0x1D25], [0x03B2], [0x03B3],
    [0x03B4], [0x03C6], [0x03C7]]⟩,
  ⟨0x1D62, some .sub, [[0x0069], [0x0072], [0x0075], [0x0076], [0x03B2], [0x03B3], [0x03C1],
    [0x03C6], [0x03C7]]⟩,
  ⟨0x1D78, some .super, [[0x043D]]⟩,
  ⟨0x1D9B, some .super, [[0x0252], [0x0063], [0x0255], [0x00F0], [0x025C], [0x0066], [0x025F],
    [0x0261], [0x0265], [0x0268], [0x0269], [0x026A], [0x1D7B], [0x029D], [0x026D], [0x1D85],
    [0x029F], [0x0271], [0x0270], [0x0272], [0x0273], [0x0274], [0x0275], [0x0278], [0x0282],
    [0x0283], [0x01AB], [0x0289], [0x028A], [0x1D1C], [0x028B], [0x028C], [0x007A], [0x0290],
    [0x0291], [0x0292], [0x03B8]]⟩,
  ⟨0x1E00, none, [[0x0041, 0x0325], [0x0061, 0x0325], [0x0042, 0x0307], [0x0062, 0x0307],
    [0x0042, 0x0323], [0x0062, 0x0323], [0x0042, 0x0331], [0x0062, 0x0331], [0x00C7, 0x0301],
    [0x00E7, 0x0301], [0x0044, 0x0307], [0x0064, 0x0307], [0x0044, 0x0323], [0x0064, 0x0323],
    [0x0044, 0x0331], [0x0064, 0x0331], [0x0044, 0x0327], [0x0064, 0x0327], [0x0044, 0x032D],
    [0x0064, 0x032D], [0x0112, 0x0300], [0x0113, 0x0300], [0x0112, 0x0301], [0x0113, 0x0301],
    [0x0045, 0x032D], [0x0065, 0x032D], [0x0045, 0x0330], [0x0065, 0x0330], [0x0228, 0x0306],
    [0x0229, 0x0306], [0x0046, 0x0307], [0x0066, 0x0307], [0x0047, 0x0304], [0x0067, 0x0304],
    [0x0048, 0x0307], [0x0068, 0x0307], [0x0048, 0x0323], [0x0068, 0x0323], [0x0048, 0x0308],
    [0x0068, 0x0308], [0x0048, 0x0327], [0x0068, 0x0327], [0x0048, 0x032E], [0x0068, 0x032E],
    [0x0049, 0x0330], [0x0069, 0x0330], [0x00CF, 0x0301], [0x00EF, 0x0301], [0x004B, 0x0301],
    [0x006B, 0x0301], [0x004B, 0x0323], [0x006B, 0x0323], [0x004B, 0x0331], [0x006B, 0x0331],
    [0x004C, 0x0323], [0x006C, 0x0323], [0x1E36, 0x0304], [0x1E37, 0x0304], [0x004C, 0x0331],
    [0x006C, 0x0331], [0x004C, 0x032D], [0x006C, 0x032D], [0x004D, 0x0301], [0x006D, 0x0301],
    [0x004D, 0x0307], [0x006D, 0x0307], [0x004D, 0x0323], [0x006D, 0x0323], [0x004E, 0x0307],
    [0x006E, 0x0307], [0x004E, 0x0323], [0x006E, 0x0323], [0x004E, 0x0331], [0x006E, 0x0331],
    [0x004E, 0x032D], [0x006E, 0x032D], [0x00D5, 0x0301], [0x00F5, 0x0301], [0x00D5, 0x0308],
    [0x00F5, 0x0308], [0x014C, 0x0300], [0x014D, 0x0300], [0x014C, 0x0301], [0x014D, 0x0301],
    [0x0050, 0x0301], [0x0070, 0x0301], [0x0050, 0x0307], [0x0070, 0x0307], [0x0052, 0x0307],
    [0x0072, 0x0307], [0x0052, 0x0323], [0x0072, 0x0323], [0x1E5A, 0x0304], [0x1E5B, 0x0304],
    [0x0052, 0x0331], [0x0072, 0x0331], [0x0053, 0x0307], [0x0073, 0x0307], [0x0053, 0x0323],
    [0x0073, 0x0323], [0x015A, 0x0307], [0x015B, 0x0307], [0x0160, 0x0307], [0x0161, 0x0307],
    [0x1E62, 0x0307], [0x1E63, 0x0307], [0x0054, 0x0307], [0x0074, 0x0307], [0x0054, 0x0323],
    [0x0074, 0x0323], [0x0054, 0x0331], [0x0074, 0x0331], [0x0054, 0x032D], [0x0074, 0x032D],
    [0x0055, 0x0324], [0x0075, 0x0324], [0x0055, 0x0330], [0x0075, 0x0330], [0x0055, 0x032D],
    [0x0075, 0x032D], [0x0168, 0x0301], [0x0169, 0x0301], [0x016A, 0x0308], [0x016B, 0x0308],
    [0x0056, 0x0303], [0x0076, 0x0303], [0x0056, 0x0323], [0x0076, 0x0323], [0x0057, 0x0300],
    [0x0077, 0x0300], [0x0057, 0x0301], [0x0077, 0x0301], [0x0057, 0x0308], [0x0077, 0x0308],
    [0x0057, 0x0307], [0x0077, 0x0307], [0x0057, 0x0323], [0x0077, 0x0323], [0x0058, 0x0307],
    [0x0078, 0x0307], [0x0058, 0x0308], [0x0078, 0x0308], [0x0059, 0x0307], [0x0079, 0x0307],
    [0x005A, 0x0302], [0x007A, 0x0302], [0x005A, 0x0323], [0x007A, 0x0323], [0x005A, 0x0331],
    [0x007A, 0x0331], [0x0068, 0x0331], [0x0074, 0x0308], [0x0077, 0x030A], [0x0079, 0x030A]]⟩,
  ⟨0x1E9A, some .compat, [[0x0061, 0x02BE]]⟩,
  ⟨0x1E9B, none, [[0x017F, 0x0307]]⟩,
  ⟨0x1EA0, none, [[0x0041, 0x0323], [0x0061, 0x0323], [0x0041, 0x0309], [0x0061, 0x0309],
    [0x00C2, 0x0301], [0x00E2, 0x0301], [0x00C2, 0x0300], [0x00E2, 0x0300], [0x00C2, 0x0309],
    [0x00E2, 0x0309], [0x00C2, 0x0303], [0x00E2, 0x0303], [0x1EA0, 0x0302], [0x1EA1, 0x0302],
    [0x0102, 0x0301], [0x0103, 0x0301], [0x0102, 0x0300], [0x0103, 0x0300], [0x0102, 0x0309],
    [0x0103, 0x0309], [0x0102, 0x0303], [0x0103, 0x0303], [0x1EA0, 0x0306], [0x1EA1, 0x0306],
    [0x0045, 0x0323], [0x0065, 0x0323], [0x0045, 0x0309], [0x0065, 0x0309], [0x0045, 0x0303],
    [0x0065, 0x0303], [0x00CA, 0x0301], [0x00EA, 0x0301], [0x00CA, 0x0300], [0x00EA, 0x0300],
    [0x00CA, 0x0309], [0x00EA, 0x0309], [0x00CA, 0x0303], [0x00EA, 0x0303], [0x1EB8, 0x0302],
    [0x1EB9, 0x0302], [0x0049, 0x0309], [0x0069, 0x0309], [0x0049, 0x0323], [0x0069, 0x0323],
    [0x004F, 0x0323], [0x006F, 0x0323], [0x004F, 0x0309], [0x006F, 0x0309], [0x00D4, 0x0301],
    [0x00F4, 0x0301], [0x00D4, 0x0300], [0x00F4, 0x0300], [0x00D4, 0x0309], [0x00F4, 0x0309],
    [0x00D4, 0x0303], [0x00F4, 0x0303], [0x1ECC, 0x0302], [0x1ECD, 0x0302], [0x01A0, 0x0301],
    [0x01A1, 0x0301], [0x01A0, 0x0300], [0x01A1, 0x0300], [0x01A0, 0x0309], [0x01A1, 0x0309],
    [0x01A0, 0x0303], [0x01A1, 0x0303], [0x01A0, 0x0323], [0x01A1, 0x0323], [0x0055, 0x0323],
    [0x0075, 0x0323], [0x0055, 0x0309], [0x0075, 0x0309], [0x01AF, 0x0301], [0x01B0, 0x0301],
    [0x01AF, 0x0300], [0x01B0, 0x0300], [0x01AF, 0x0309], [0x01B0, 0x0309], [0x01AF, 0x0303],
    [0x01B0, 0x0303], [0x01AF, 0x0323], [0x01B0, 0x0323], [0x0059, 0x0300], [0x0079, 0x0300],
    [0x0059, 0x0323], [0x0079, 0x0323], [0x0059, 0x0309], [0x0079, 0x0309], [0x0059, 0x0303],
    [0x0079, 0x0303]]⟩,
  ⟨0x1F00, none, [[0x03B1, 0x0313], [0x03B1, 0x0314], [0x1F00, 0x0300], [0x1F01, 0x0300],
    [0x1F00, 0x0301], [0x1F01, 0x0301], [0x1F00, 0x0342], [0x1F01, 0x0342], [0x0391, 0x0313],
    [0x0391, 0x0314], [0x1F08, 0x0300], [0x1F09, 0x0300], [0x1F08, 0x0301], [0x1F09, 0x0301],
    [0x1F08, 0x0342], [0x1F09, 0x0342], [0x03B5, 0x0313], [0x03B5, 0x0314], [0x1F10, 0x0300],
    [0x1F11, 0x0300], [0x1F10, 0x0301], [0x1F11, 0x0301]]⟩,
  ⟨0x1F18, none, [[0x0395, 0x0313], [0x0395, 0x0314], [0x1F18, 0x0300], [0x1F19, 0x0300],
    [0x1F18, 0x0301], [0x1F19, 0x0301]]⟩,
  ⟨0x1F20, none, [[0x03B7, 0x0313], [0x03B7, 0x0314], [0x1F20, 0x0300], [0x1F21, 0x0300],
    [0x1F20, 0x0301], [0x1F21, 0x0301], [0x1F20, 0x0342], [0x1F21, 0x0342], [0x0397, 0x0313],
    [0x0397, 0x0314], [0x1F28, 0x0300], [0x1F29, 0x0300], [0x1F28, 0x0301], [0x1F29, 0x0301],
    [0x1F28, 0x0342], [0x1F29, 0x0342], [0x03B9, 0x0313], [0x03B9, 0x0314], [0x1F30, 0x0300],
    [0x1F31, 0x0300], [0x1F30, 0x0301], [0x1F31, 0x0301], [0x1F30, 0x0342], [0x1F31, 0x0342],
    [0x0399, 0x0313], [0x0399, 0x0314], [0x1F38, 0x0300], [0x1F39, 0x0300], [0x1F38, 0x0301],
    [0x1F39, 0x0301], [0x1F38, 0x0342], [0x1F39, 0x0342], [0x03BF, 0x0313], [0x03BF, 0x0314],
    [0x1F40, 0x0300], [0x1F41, 0x0300], [0x1F40, 0x0301], [0x1F41, 0x0301]]⟩,
  ⟨0x1F48, none, [[0x039F, 0x0313], [0x039F, 0x0314], [0x1F48, 0x0300], [0x1F49, 0x0300],
    [0x1F48, 0x0301], [0x1F49, 0x0301]]⟩,
  ⟨0x1F50, none, [[0x03C5, 0x0313], [0x03C5, 0x0314], [0x1F50, 0x0300], [0x1F51, 0x0300],
    [0x1F50, 0x0301], [0x1F51, 0x0301], [0x1F50, 0x0342], [0x1F51, 0x0342]]⟩,
  ⟨0x1F59, none, [[0x03A5, 0x0314]]⟩,
  ⟨0x1F5B, none, [[0x1F59, 0x0300]]⟩,
  ⟨0x1F5D, none, [[0x1F59, 0x0301]]⟩,
  ⟨0x1F5F, none, [[0x1F59, 0x0342], [0x03C9, 0x0313], [0x03C9, 0x0314], [0x1F60, 0x0300],
    [0x1F61, 0x0300], [0x1F60, 0x0301], [0x1F61, 0x0301], [0x1F60, 0x0342], [0x1F61, 0x0342],
    [0x03A9, 0x0313], [0x03A9, 0x0314], [0x1F68, 0x0300], [0x1F69, 0x0300], [0x1F68, 0x0301],
    [0x1F69, 0x0301], [0x1F68, 0x0342], [0x1F69, 0x0342], [0x03B1, 0x0300], [0x03AC],
    [0x03B5, 0x0300], [0x03AD], [0x03B7, 0x0300], [0x03AE], [0x03B9, 0x0300], [0x03AF],
    [0x03BF, 0x0300], [0x03CC], [0x03C5, 0x0300], [0x03CD], [0x03C9, 0x0300], [0x03CE]]⟩,
  ⟨0x1F80, none, [[0x1F00, 0x0345], [0x1F01, 0x0345], [0x1F02, 0x0345], [0x1F03, 0x0345],
    [0x1F04, 0x0345], [0x1F05, 0x0345], [0x1F06, 0x0345], [0x1F07, 0x0345], [0x1F08, 0x0345],
    [0x1F09, 0x0345], [0x1F0A, 0x0345], [0x1F0B, 0x0345], [0x1F0C, 0x0345], [0x1F0D, 0x0345],
    [0x1F0E, 0x0345], [0x1F0F, 0x0345], [0x1F20, 0x0345], [0x1F21, 0x0345], [0x1F22, 0x0345],
    [0x1F23, 0x0345], [0x1F24, 0x0345], [0x1F25, 0x0345], [0x1F26, 0x0345], [0x1F27, 0x0345],
    [0x1F28, 0x0345], [0x1F29, 0x0345], [0x1F2A, 0x0345], [0x1F2B, 0x0345], [0x1F2C, 0x0345],
    [0x1F2D, 0x0345], [0x1F2E, 0x0345], [0x1F2F, 0x0345], [0x1F60, 0x0345], [0x1F61, 0x0345],
    [0x1F62, 0x0345], [0x1F63, 0x0345], [0x1F64, 0x0345], [0x1F65, 0x0345], [0x1F66, 0x0345],
    [0x1F67, 0x0345], [0x1F68, 0x0345], [0x1F69, 0x0345], [0x1F6A, 0x0345], [0x1F6B, 0x0345],
    [0x1F6C, 0x0345], [0x1F6D, 0x0345], [0x1F6E, 0x0345], [0x1F6F, 0x0345], [0x03B1, 0x0306],
    [0x03B1, 0x0304], [0x1F70, 0x0345], [0x03B1, 0x0345], [0x03AC, 0x0345]]⟩,
  ⟨0x1FB6, none, [[0x03B1, 0x0342], [0x1FB6, 0x0345], [0x0391, 0x0306], [0x0391, 0x0304],
    [0x0391, 0x0300], [0x0386], [0x0391, 0x0345]]⟩,
  ⟨0x1FBD, some .compat, [[0x0020, 0x0313]]⟩,
  ⟨0x1FBE, none, [[0x03B9]]⟩,
  ⟨0x1FBF, some .compat, [[0x0020, 0x0313], [0x0020, 0x0342]]⟩,
  ⟨0x1FC1, none, [[0x00A8, 0x0342], [0x1F74, 0x0345], [0x03B7, 0x0345], [0x03AE, 0x0345]]⟩,
  ⟨0x1FC6, none, [[0x03B7, 0x0342], [0x1FC6, 0x0345], [0x0395, 0x0300], [0x0388],
    [0x0397, 0x0300], [0x0389], [0x0397, 0x0345], [0x1FBF, 0x0300], [0x1FBF, 0x0301],
    [0x1FBF, 0x0342], [0x03B9, 0x0306], [0x03B9, 0x0304], [0x03CA, 0x0300], [0x0390]]⟩,
  ⟨0x1FD6, none, [[0x03B9, 0x0342], [0x03CA, 0x0342], [0x0399, 0x0306], [0x0399, 0x0304],
    [0x0399, 0x0300], [0x038A]]⟩,
  ⟨0x1FDD, none, [[0x1FFE, 0x0300], [0x1FFE, 0x0301], [0x1FFE, 0x0342], [0x03C5, 0x0306],
    [0x03C5, 0x0304], [0x03CB, 0x0300], [0x03B0], [0x03C1, 0x0313], [0x03C1, 0x0314],
    [0x03C5, 0x0342], [0x03CB, 0x0342], [0x03A5, 0x0306], [0x03A5, 0x0304], [0x03A5, 0x0300],
    [0x038E], [0x03A1, 0x0314], [0x00A8, 0x0300], [0x0385], [0x0060]]⟩,
  ⟨0x1FF2, none, [[0x1F7C, 0x0345], [0x03C9, 0x0345], [0x03CE, 0x0345]]⟩,
  ⟨0x1FF6, none, [[0x03C9, 0x0342], [0x1FF6, 0x0345], [0x039F, 0x0300], [0x038C],
    [0x03A9, 0x0300], [0x038F], [0x03A9, 0x0345], [0x00B4]]⟩,
  ⟨0x1FFE, some .compat, [[0x0020, 0x0314]]⟩]

end TexGlyph.MappingData

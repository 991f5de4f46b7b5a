import TexGlyph.Lexicon.Definition.Basic

/-!
# The bundled definitions

The symbols and aliases that are used where no definition file with symbols is found.
-/

namespace TexGlyph

namespace BundledData

/-- Symbols of the Latin blocks and the marks of accents. -/
def latin : List SymbolRecord := [
  ⟨'\u0021', "\\mathexclam", "\\mathclose", "exclamation mark"⟩,
  ⟨'\u0023', "\\mathoctothorpe", "\\mathord", "number sign"⟩,
  ⟨'\u0024', "\\mathdollar", "\\mathord", "dollar sign"⟩,
  ⟨'\u0025', "\\mathpercent", "\\mathord", "percent sign"⟩,
  ⟨'\u0026', "\\mathampersand", "\\mathord", "ampersand"⟩,
  ⟨'\u002B', "\\mathplus", "\\mathbin", "plus sign"⟩,
  ⟨'\u002F', "\\mathslash", "\\mathord", "solidus"⟩,
  ⟨'\u003C', "\\less", "\\mathrel", "less-than sign"⟩,
  ⟨'\u003D', "\\equal", "\\mathrel", "equals sign"⟩,
  ⟨'\u003E', "\\greater", "\\mathrel", "greater-than sign"⟩,
  ⟨'\u003F', "\\mathquestion", "\\mathord", "question mark"⟩,
  ⟨'\u0040', "\\mathatsign", "\\mathord", "commercial at"⟩,
  ⟨'\u005C', "\\backslash", "\\mathord", "reverse solidus"⟩,
  ⟨'\u007C', "\\vert", "\\mathfence", "vertical line"⟩,
  ⟨'\u00A3', "\\mathsterling", "\\mathord", "pound sign"⟩,
  ⟨'\u00A5', "\\mathyen", "\\mathord", "yen sign"⟩,
  ⟨'\u00AC', "\\neg", "\\mathord", "/neg /lnot not sign"⟩,
  ⟨'\u00B1', "\\pm", "\\mathbin", "plus-minus sign"⟩,
  ⟨'\u00B7', "\\cdotp", "\\mathpunct", "/centerdot middle dot"⟩,
  ⟨'\u00D7', "\\times", "\\mathbin", "multiplication sign"⟩,
  ⟨'\u00F0', "\\matheth", "\\mathalpha", "latin small letter eth"⟩,
  ⟨'\u00F7', "\\div", "\\mathbin", "division sign"⟩,
  ⟨'\u01B5', "\\Zbar", "\\mathord", "latin capital letter z with stroke"⟩,
  ⟨'\u0300', "\\grave", "\\mathaccent", "combining grave accent"⟩,
  ⟨'\u0301', "\\acute", "\\mathaccent", "combining acute accent"⟩,
  ⟨'\u0302', "\\hat", "\\mathaccent", "combining circumflex accent"⟩,
  ⟨'\u0303', "\\tilde", "\\mathaccent", "combining tilde"⟩,
  ⟨'\u0304', "\\bar", "\\mathaccent", "combining macron"⟩,
  ⟨'\u0305', "\\overbar", "\\mathaccent", "combining overline"⟩,
  ⟨'\u0306', "\\breve", "\\mathaccent", "combining breve"⟩,
  ⟨'\u0307', "\\dot", "\\mathaccent", "combining dot above"⟩,
  ⟨'\u0308', "\\ddot", "\\mathaccent", "combining diaeresis"⟩,
  ⟨'\u0309', "\\ovhook", "\\mathaccent", "combining hook above"⟩,
  ⟨'\u030A', "\\ocirc", "\\mathaccent", "combining ring above"⟩,
  ⟨'\u030C', "\\check", "\\mathaccent", "combining caron"⟩,
  ⟨'\u0310', "\\candra", "\\mathaccent", "combining candrabindu"⟩,
  ⟨'\u0312', "\\oturnedcomma", "\\mathaccent", "combining turned comma above"⟩,
  ⟨'\u0315', "\\ocommatopright", "\\mathaccent", "combining comma above right"⟩,
  ⟨'\u031A', "\\droang", "\\mathaccent", "combining left angle above"⟩,
  ⟨'\u0330', "\\wideutilde", "\\mathbotaccent", "combining tilde below"⟩,
  ⟨'\u0331', "\\underbar", "\\mathbotaccent", "combining macron below"⟩,
  ⟨'\u0338', "\\not", "\\mathaccent", "combining long solidus overlay"⟩]

/-- Greek symbols. -/
def greek : List SymbolRecord := [
  ⟨'\u0391', "\\mupAlpha", "\\mathalpha", "greek capital letter alpha"⟩,
  ⟨'\u0392', "\\mupBeta", "\\mathalpha", "greek capital letter beta"⟩,
  ⟨'\u0393', "\\mupGamma", "\\mathalpha", "greek capital letter gamma"⟩,
  ⟨'\u0394', "\\mupDelta", "\\mathalpha", "greek capital letter delta"⟩,
  ⟨'\u0395', "\\mupEpsilon", "\\mathalpha", "greek capital letter epsilon"⟩,
  ⟨'\u0396', "\\mupZeta", "\\mathalpha", "greek capital letter zeta"⟩,
  ⟨'\u0397', "\\mupEta", "\\mathalpha", "greek capital letter eta"⟩,
  ⟨'\u0398', "\\mupTheta", "\\mathalpha", "greek capital letter theta"⟩,
  ⟨'\u0399', "\\mupIota", "\\mathalpha", "greek capital letter iota"⟩,
  ⟨'\u039A', "\\mupKappa", "\\mathalpha", "greek capital letter kappa"⟩,
  ⟨'\u039B', "\\mupLambda", "\\mathalpha", "greek capital letter lamda"⟩,
  ⟨'\u039C', "\\mupMu", "\\mathalpha", "greek capital letter mu"⟩,
  ⟨'\u039D', "\\mupNu", "\\mathalpha", "greek capital letter nu"⟩,
  ⟨'\u039E', "\\mupXi", "\\mathalpha", "greek capital letter xi"⟩,
  ⟨'\u039F', "\\mupOmicron", "\\mathalpha", "greek capital letter omicron"⟩,
  ⟨'\u03A0', "\\mupPi", "\\mathalpha", "greek capital letter pi"⟩,
  ⟨'\u03A1', "\\mupRho", "\\mathalpha", "greek capital letter rho"⟩,
  ⟨'\u03A3', "\\mupSigma", "\\mathalpha", "greek capital letter sigma"⟩,
  ⟨'\u03A4', "\\mupTau", "\\mathalpha", "greek capital letter tau"⟩,
  ⟨'\u03A5', "\\mupUpsilon", "\\mathalpha", "greek capital letter upsilon"⟩,
  ⟨'\u03A6', "\\mupPhi", "\\mathalpha", "greek capital letter phi"⟩,
  ⟨'\u03A7', "\\mupChi", "\\mathalpha", "greek capital letter chi"⟩,
  ⟨'\u03A8', "\\mupPsi", "\\mathalpha", "greek capital letter psi"⟩,
  ⟨'\u03A9', "\\mupOmega", "\\mathalpha", "greek capital letter omega"⟩,
  ⟨'\u03B1', "\\mupalpha", "\\mathalpha", "greek small letter alpha"⟩,
  ⟨'\u03B2', "\\mupbeta", "\\mathalpha", "greek small letter beta"⟩,
  ⟨'\u03B3', "\\mupgamma", "\\mathalpha", "greek small letter gamma"⟩,
  ⟨'\u03B4', "\\mupdelta", "\\mathalpha", "greek small letter delta"⟩,
  ⟨'\u03B5', "\\mupvarepsilon", "\\mathalpha", "greek small letter epsilon"⟩,
  ⟨'\u03B6', "\\mupzeta", "\\mathalpha", "greek small letter zeta"⟩,
  ⟨'\u03B7', "\\mupeta", "\\mathalpha", "greek small letter eta"⟩,
  ⟨'\u03B8', "\\muptheta", "\\mathalpha", "greek small letter theta"⟩,
  ⟨'\u03B9', "\\mupiota", "\\mathalpha", "greek small letter iota"⟩,
  ⟨'\u03BA', "\\mupkappa", "\\mathalpha", "greek small letter kappa"⟩,
  ⟨'\u03BB', "\\muplambda", "\\mathalpha", "greek small letter lamda"⟩,
  ⟨'\u03BC', "\\mupmu", "\\mathalpha", "greek small letter mu"⟩,
  ⟨'\u03BD', "\\mupnu", "\\mathalpha", "greek small letter nu"⟩,
  ⟨'\u03BE', "\\mupxi", "\\mathalpha", "greek small letter xi"⟩,
  ⟨'\u03BF', "\\mupomicron", "\\mathalpha", "greek small letter omicron"⟩,
  ⟨'\u03C0', "\\muppi", "\\mathalpha", "greek small letter pi"⟩,
  ⟨'\u03C1', "\\muprho", "\\mathalpha", "greek small letter rho"⟩,
  ⟨'\u03C2', "\\mupvarsigma", "\\mathalpha", "greek small letter final sigma"⟩,
  ⟨'\u03C3', "\\mupsigma", "\\mathalpha", "greek small letter sigma"⟩,
  ⟨'\u03C4', "\\muptau", "\\mathalpha", "greek small letter tau"⟩,
  ⟨'\u03C5', "\\mupupsilon", "\\mathalpha", "greek small letter upsilon"⟩,
  ⟨'\u03C6', "\\mupvarphi", "\\mathalpha", "greek small letter phi"⟩,
  ⟨'\u03C7', "\\mupchi", "\\mathalpha", "greek small letter chi"⟩,
  ⟨'\u03C8', "\\muppsi", "\\mathalpha", "greek small letter psi"⟩,
  ⟨'\u03C9', "\\mupomega", "\\mathalpha", "greek small letter omega"⟩,
  ⟨'\u03D1', "\\mupvartheta", "\\mathalpha", "greek theta symbol"⟩,
  ⟨'\u03D5', "\\mupphi", "\\mathalpha", "greek phi symbol"⟩,
  ⟨'\u03D6', "\\mupvarpi", "\\mathalpha", "greek pi symbol"⟩,
  ⟨'\u03F0', "\\mupvarkappa", "\\mathalpha", "greek kappa symbol"⟩,
  ⟨'\u03F1', "\\mupvarrho", "\\mathalpha", "greek rho symbol"⟩,
  ⟨'\u03F5', "\\mupepsilon", "\\mathalpha", "greek lunate epsilon symbol"⟩]

/-- Punctuation, the marks for symbols and letterlike symbols. -/
def punctuation : List SymbolRecord := [
  ⟨'\u2016', "\\Vert", "\\mathfence", "double vertical line"⟩,
  ⟨'\u2020', "\\dagger", "\\mathbin", "dagger"⟩,
  ⟨'\u2021', "\\ddagger", "\\mathbin", "double dagger"⟩,
  ⟨'\u2022', "\\smblkcircle", "\\mathbin", "/bullet bullet"⟩,
  ⟨'\u2025', "\\enleadertwodots", "\\mathord", "two dot leader"⟩,
  ⟨'\u2026', "\\unicodeellipsis", "\\mathord", "horizontal ellipsis"⟩,
  ⟨'\u2032', "\\prime", "\\mathord", "prime"⟩,
  ⟨'\u2033', "\\dprime", "\\mathord", "double prime"⟩,
  ⟨'\u2034', "\\trprime", "\\mathord", "triple prime"⟩,
  ⟨'\u2035', "\\backprime", "\\mathord", "reversed prime"⟩,
  ⟨'\u2040', "\\tieconcat", "\\mathbin", "character tie"⟩,
  ⟨'\u2044', "\\fracslash", "\\mathbin", "fraction slash"⟩,
  ⟨'\u2057', "\\qprime", "\\mathord", "quadruple prime"⟩,
  ⟨'\u20D0', "\\leftharpoonaccent", "\\mathaccent", "combining left harpoon above"⟩,
  ⟨'\u20D1', "\\rightharpoonaccent", "\\mathaccent", "combining right harpoon above"⟩,
  ⟨'\u20D6', "\\overleftarrow", "\\mathaccent", "combining left arrow above"⟩,
  ⟨'\u20D7', "\\vec", "\\mathaccent", "combining right arrow above"⟩,
  ⟨'\u20DB', "\\dddot", "\\mathaccent", "combining three dots above"⟩,
  ⟨'\u20DC', "\\ddddot", "\\mathaccent", "combining four dots above"⟩,
  ⟨'\u20E1', "\\overleftrightarrow", "\\mathaccent", "combining left right arrow above"⟩,
  ⟨'\u2102', "\\BbbC", "\\mathalpha", "double-struck capital c"⟩,
  ⟨'\u2107', "\\Eulerconst", "\\mathord", "euler constant"⟩,
  ⟨'\u210A', "\\mscrg", "\\mathalpha", "script small g"⟩,
  ⟨'\u210B', "\\mscrH", "\\mathalpha", "script capital h"⟩,
  ⟨'\u210C', "\\mfrakH", "\\mathalpha", "black-letter capital h"⟩,
  ⟨'\u210D', "\\BbbH", "\\mathalpha", "double-struck capital h"⟩,
  ⟨'\u210E', "\\Planckconst", "\\mathord", "planck constant"⟩,
  ⟨'\u210F', "\\hslash", "\\mathalpha", "/hslash planck constant over two pi"⟩,
  ⟨'\u2110', "\\mscrI", "\\mathalpha", "script capital i"⟩,
  ⟨'\u2111', "\\Im", "\\mathalpha", "black-letter capital i"⟩,
  ⟨'\u2112', "\\mscrL", "\\mathalpha", "script capital l"⟩,
  ⟨'\u2113', "\\ell", "\\mathalpha", "script small l"⟩,
  ⟨'\u2115', "\\BbbN", "\\mathalpha", "double-struck capital n"⟩,
  ⟨'\u2118', "\\wp", "\\mathalpha", "script capital p"⟩,
  ⟨'\u2119', "\\BbbP", "\\mathalpha", "double-struck capital p"⟩,
  ⟨'\u211A', "\\BbbQ", "\\mathalpha", "double-struck capital q"⟩,
  ⟨'\u211B', "\\mscrR", "\\mathalpha", "script capital r"⟩,
  ⟨'\u211C', "\\Re", "\\mathalpha", "black-letter capital r"⟩,
  ⟨'\u211D', "\\BbbR", "\\mathalpha", "double-struck capital r"⟩,
  ⟨'\u2124', "\\BbbZ", "\\mathalpha", "double-struck capital z"⟩,
  ⟨'\u2127', "\\mho", "\\mathord", "inverted ohm sign"⟩,
  ⟨'\u2128', "\\mfrakZ", "\\mathalpha", "black-letter capital z"⟩,
  ⟨'\u212B', "\\Angstrom", "\\mathalpha", "angstrom sign"⟩,
  ⟨'\u212C', "\\mscrB", "\\mathalpha", "script capital b"⟩,
  ⟨'\u212D', "\\mfrakC", "\\mathalpha", "black-letter capital c"⟩,
  ⟨'\u212F', "\\mscre", "\\mathalpha", "script small e"⟩,
  ⟨'\u2130', "\\mscrE", "\\mathalpha", "script capital e"⟩,
  ⟨'\u2131', "\\mscrF", "\\mathalpha", "script capital f"⟩,
  ⟨'\u2133', "\\mscrM", "\\mathalpha", "script capital m"⟩,
  ⟨'\u2134', "\\mscro", "\\mathalpha", "script small o"⟩,
  ⟨'\u2135', "\\aleph", "\\mathalpha", "alef symbol"⟩,
  ⟨'\u2136', "\\beth", "\\mathalpha", "bet symbol"⟩,
  ⟨'\u2137', "\\gimel", "\\mathalpha", "gimel symbol"⟩,
  ⟨'\u2138', "\\daleth", "\\mathalpha", "dalet symbol"⟩]

/-- Arrows. -/
def arrows : List SymbolRecord := [
  ⟨'\u2190', "\\leftarrow", "\\mathrel", "/leftarrow /gets leftwards arrow"⟩,
  ⟨'\u2191', "\\uparrow", "\\mathrel", "upwards arrow"⟩,
  ⟨'\u2192', "\\rightarrow", "\\mathrel", "/rightarrow /to rightwards arrow"⟩,
  ⟨'\u2193', "\\downarrow", "\\mathrel", "downwards arrow"⟩,
  ⟨'\u2194', "\\leftrightarrow", "\\mathrel", "left right arrow"⟩,
  ⟨'\u2195', "\\updownarrow", "\\mathrel", "up down arrow"⟩,
  ⟨'\u2196', "\\nwarrow", "\\mathrel", "north west arrow"⟩,
  ⟨'\u2197', "\\nearrow", "\\mathrel", "north east arrow"⟩,
  ⟨'\u2198', "\\searrow", "\\mathrel", "south east arrow"⟩,
  ⟨'\u2199', "\\swarrow", "\\mathrel", "south west arrow"⟩,
  ⟨'\u219A', "\\nleftarrow", "\\mathrel", "leftwards arrow with stroke"⟩,
  ⟨'\u219B', "\\nrightarrow", "\\mathrel", "rightwards arrow with stroke"⟩,
  ⟨'\u21A6', "\\mapsto", "\\mathrel", "rightwards arrow from bar"⟩,
  ⟨'\u21A9', "\\hookleftarrow", "\\mathrel", "leftwards arrow with hook"⟩,
  ⟨'\u21AA', "\\hookrightarrow", "\\mathrel", "rightwards arrow with hook"⟩,
  ⟨'\u21BC', "\\leftharpoonup", "\\mathrel", "leftwards harpoon with barb upwards"⟩,
  ⟨'\u21BD', "\\leftharpoondown", "\\mathrel", "leftwards harpoon with barb downwards"⟩,
  ⟨'\u21C0', "\\rightharpoonup", "\\mathrel", "rightwards harpoon with barb upwards"⟩,
  ⟨'\u21C1', "\\rightharpoondown", "\\mathrel", "rightwards harpoon with barb downwards"⟩,
  ⟨'\u21CC', "\\rightleftharpoons", "\\mathrel", "rightwards harpoon over leftwards harpoon"⟩,
  ⟨'\u21D0', "\\Leftarrow", "\\mathrel", "leftwards double arrow"⟩,
  ⟨'\u21D1', "\\Uparrow", "\\mathrel", "upwards double arrow"⟩,
  ⟨'\u21D2', "\\Rightarrow", "\\mathrel", "rightwards double arrow"⟩,
  ⟨'\u21D3', "\\Downarrow", "\\mathrel", "downwards double arrow"⟩,
  ⟨'\u21D4', "\\Leftrightarrow", "\\mathrel", "left right double arrow"⟩,
  ⟨'\u21D5', "\\Updownarrow", "\\mathrel", "up down double arrow"⟩]

/-- Mathematical operators. -/
def operators : List SymbolRecord := [
  ⟨'\u2200', "\\forall", "\\mathord", "for all"⟩,
  ⟨'\u2201', "\\complement", "\\mathord", "complement"⟩,
  ⟨'\u2202', "\\partial", "\\mathalpha", "partial differential"⟩,
  ⟨'\u2203', "\\exists", "\\mathord", "there exists"⟩,
  ⟨'\u2204', "\\nexists", "\\mathord", "there does not exist"⟩,
  ⟨'\u2205', "\\emptyset", "\\mathord", "empty set"⟩,
  ⟨'\u2206', "\\increment", "\\mathord", "increment"⟩,
  ⟨'\u2207', "\\nabla", "\\mathord", "nabla"⟩,
  ⟨'\u2208', "\\in", "\\mathrel", "element of"⟩,
  ⟨'\u2209', "\\notin", "\\mathrel", "not an element of"⟩,
  ⟨'\u220A', "\\smallin", "\\mathrel", "small element of"⟩,
  ⟨'\u220B', "\\ni", "\\mathrel", "/ni /owns contains as member"⟩,
  ⟨'\u220C', "\\nni", "\\mathrel", "does not contain as member"⟩,
  ⟨'\u220D', "\\smallni", "\\mathrel", "small contains as member"⟩,
  ⟨'\u220E', "\\QED", "\\mathord", "end of proof"⟩,
  ⟨'\u220F', "\\prod", "\\mathop", "n-ary product"⟩,
  ⟨'\u2210', "\\coprod", "\\mathop", "n-ary coproduct"⟩,
  ⟨'\u2211', "\\sum", "\\mathop", "n-ary summation"⟩,
  ⟨'\u2212', "\\minus", "\\mathbin", "minus sign"⟩,
  ⟨'\u2213', "\\mp", "\\mathbin", "minus-or-plus sign"⟩,
  ⟨'\u2214', "\\dotplus", "\\mathbin", "dot plus"⟩,
  ⟨'\u2216', "\\setminus", "\\mathbin", "set minus"⟩,
  ⟨'\u2217', "\\ast", "\\mathbin", "asterisk operator"⟩,
  ⟨'\u2218', "\\vysmwhtcircle", "\\mathbin", "ring operator"⟩,
  ⟨'\u2219', "\\vysmblkcircle", "\\mathbin", "bullet operator"⟩,
  ⟨'\u221A', "\\sqrt", "\\mathradical", "square root"⟩,
  ⟨'\u221B', "\\cuberoot", "\\mathradical", "cube root"⟩,
  ⟨'\u221C', "\\fourthroot", "\\mathradical", "fourth root"⟩,
  ⟨'\u221D', "\\propto", "\\mathrel", "proportional to"⟩,
  ⟨'\u221E', "\\infty", "\\mathord", "infinity"⟩,
  ⟨'\u2220', "\\angle", "\\mathord", "angle"⟩,
  ⟨'\u2221', "\\measuredangle", "\\mathord", "measured angle"⟩,
  ⟨'\u2222', "\\sphericalangle", "\\mathord", "spherical angle"⟩,
  ⟨'\u2223', "\\mid", "\\mathrel", "divides"⟩,
  ⟨'\u2224', "\\nmid", "\\mathrel", "does not divide"⟩,
  ⟨'\u2225', "\\parallel", "\\mathrel", "parallel to"⟩,
  ⟨'\u2226', "\\nparallel", "\\mathrel", "not parallel to"⟩,
  ⟨'\u2227', "\\wedge", "\\mathbin", "/wedge /land logical and"⟩,
  ⟨'\u2228', "\\vee", "\\mathbin", "/vee /lor logical or"⟩,
  ⟨'\u2229', "\\cap", "\\mathbin", "intersection"⟩,
  ⟨'\u222A', "\\cup", "\\mathbin", "union"⟩,
  ⟨'\u222B', "\\int", "\\mathop", "integral"⟩,
  ⟨'\u222C', "\\iint", "\\mathop", "double integral"⟩,
  ⟨'\u222D', "\\iiint", "\\mathop", "triple integral"⟩,
  ⟨'\u222E', "\\oint", "\\mathop", "contour integral"⟩,
  ⟨'\u2234', "\\therefore", "\\mathord", "therefore"⟩,
  ⟨'\u2235', "\\because", "\\mathord", "because"⟩,
  ⟨'\u223C', "\\sim", "\\mathrel", "tilde operator"⟩,
  ⟨'\u223D', "\\backsim", "\\mathrel", "reversed tilde"⟩,
  ⟨'\u2240', "\\wr", "\\mathbin", "wreath product"⟩,
  ⟨'\u2241', "\\nsim", "\\mathrel", "not tilde"⟩,
  ⟨'\u2243', "\\simeq", "\\mathrel", "asymptotically equal to"⟩,
  ⟨'\u2245', "\\cong", "\\mathrel", "approximately equal to"⟩,
  ⟨'\u2248', "\\approx", "\\mathrel", "almost equal to"⟩,
  ⟨'\u224D', "\\asymp", "\\mathrel", "equivalent to"⟩,
  ⟨'\u2250', "\\doteq", "\\mathrel", "approaches the limit"⟩,
  ⟨'\u225C', "\\triangleq", "\\mathrel", "delta equal to"⟩,
  ⟨'\u2260', "\\ne", "\\mathrel", "/ne /neq not equal to"⟩,
  ⟨'\u2261', "\\equiv", "\\mathrel", "identical to"⟩,
  ⟨'\u2262', "\\nequiv", "\\mathrel", "not identical to"⟩,
  ⟨'\u2264', "\\leq", "\\mathrel", "/leq /le less-than or equal to"⟩,
  ⟨'\u2265', "\\geq", "\\mathrel", "/geq /ge greater-than or equal to"⟩,
  ⟨'\u2266', "\\leqq", "\\mathrel", "less-than over equal to"⟩,
  ⟨'\u2267', "\\geqq", "\\mathrel", "greater-than over equal to"⟩,
  ⟨'\u226A', "\\ll", "\\mathrel", "much less-than"⟩,
  ⟨'\u226B', "\\gg", "\\mathrel", "much greater-than"⟩,
  ⟨'\u226E', "\\nless", "\\mathrel", "not less-than"⟩,
  ⟨'\u226F', "\\ngtr", "\\mathrel", "not greater-than"⟩,
  ⟨'\u2270', "\\nleq", "\\mathrel", "neither less-than nor equal to"⟩,
  ⟨'\u2271', "\\ngeq", "\\mathrel", "neither greater-than nor equal to"⟩,
  ⟨'\u2272', "\\lesssim", "\\mathrel", "less-than or equivalent to"⟩,
  ⟨'\u2273', "\\gtrsim", "\\mathrel", "greater-than or equivalent to"⟩,
  ⟨'\u2276', "\\lessgtr", "\\mathrel", "less-than or greater-than"⟩,
  ⟨'\u2277', "\\gtrless", "\\mathrel", "greater-than or less-than"⟩,
  ⟨'\u227A', "\\prec", "\\mathrel", "precedes"⟩,
  ⟨'\u227B', "\\succ", "\\mathrel", "succeeds"⟩,
  ⟨'\u2282', "\\subset", "\\mathrel", "subset of"⟩,
  ⟨'\u2283', "\\supset", "\\mathrel", "superset of"⟩,
  ⟨'\u2284', "\\nsubset", "\\mathrel", "not a subset of"⟩,
  ⟨'\u2285', "\\nsupset", "\\mathrel", "not a superset of"⟩,
  ⟨'\u2286', "\\subseteq", "\\mathrel", "subset of or equal to"⟩,
  ⟨'\u2287', "\\supseteq", "\\mathrel", "superset of or equal to"⟩,
  ⟨'\u2288', "\\nsubseteq", "\\mathrel", "neither a subset of nor equal to"⟩,
  ⟨'\u2289', "\\nsupseteq", "\\mathrel", "neither a superset of nor equal to"⟩,
  ⟨'\u228A', "\\subsetneq", "\\mathrel", "subset of with not equal to"⟩,
  ⟨'\u228B', "\\supsetneq", "\\mathrel", "superset of with not equal to"⟩,
  ⟨'\u228E', "\\uplus", "\\mathbin", "multiset union"⟩,
  ⟨'\u228F', "\\sqsubset", "\\mathrel", "square image of"⟩,
  ⟨'\u2290', "\\sqsupset", "\\mathrel", "square original of"⟩,
  ⟨'\u2291', "\\sqsubseteq", "\\mathrel", "square image of or equal to"⟩,
  ⟨'\u2292', "\\sqsupseteq", "\\mathrel", "square original of or equal to"⟩,
  ⟨'\u2293', "\\sqcap", "\\mathbin", "square cap"⟩,
  ⟨'\u2294', "\\sqcup", "\\mathbin", "square cup"⟩,
  ⟨'\u2295', "\\oplus", "\\mathbin", "circled plus"⟩,
  ⟨'\u2296', "\\ominus", "\\mathbin", "circled minus"⟩,
  ⟨'\u2297', "\\otimes", "\\mathbin", "circled times"⟩,
  ⟨'\u2298', "\\oslash", "\\mathbin", "circled division slash"⟩,
  ⟨'\u2299', "\\odot", "\\mathbin", "circled dot operator"⟩,
  ⟨'\u22A2', "\\vdash", "\\mathrel", "right tack"⟩,
  ⟨'\u22A3', "\\dashv", "\\mathrel", "left tack"⟩,
  ⟨'\u22A4', "\\top", "\\mathord", "down tack"⟩,
  ⟨'\u22A5', "\\bot", "\\mathord", "up tack"⟩,
  ⟨'\u22A8', "\\vDash", "\\mathrel", "true"⟩,
  ⟨'\u22C0', "\\bigwedge", "\\mathop", "n-ary logical and"⟩,
  ⟨'\u22C1', "\\bigvee", "\\mathop", "n-ary logical or"⟩,
  ⟨'\u22C2', "\\bigcap", "\\mathop", "n-ary intersection"⟩,
  ⟨'\u22C3', "\\bigcup", "\\mathop", "n-ary union"⟩,
  ⟨'\u22C4', "\\smwhtdiamond", "\\mathbin", "diamond operator"⟩,
  ⟨'\u22C5', "\\cdot", "\\mathbin", "dot operator"⟩,
  ⟨'\u22C6', "\\star", "\\mathbin", "star operator"⟩,
  ⟨'\u22C8', "\\bowtie", "\\mathrel", "bowtie"⟩,
  ⟨'\u22EE', "\\vdots", "\\mathrel", "vertical ellipsis"⟩,
  ⟨'\u22EF', "\\unicodecdots", "\\mathord", "midline horizontal ellipsis"⟩,
  ⟨'\u22F1', "\\ddots", "\\mathrel", "down right diagonal ellipsis"⟩]

/-- Technical symbols and geometric shapes. -/
def shapes : List SymbolRecord := [
  ⟨'\u2308', "\\lceil", "\\mathopen", "left ceiling"⟩,
  ⟨'\u2309', "\\rceil", "\\mathclose", "right ceiling"⟩,
  ⟨'\u230A', "\\lfloor", "\\mathopen", "left floor"⟩,
  ⟨'\u230B', "\\rfloor", "\\mathclose", "right floor"⟩,
  ⟨'\u23DE', "\\overbrace", "\\mathover", "top curly bracket"⟩,
  ⟨'\u23DF', "\\underbrace", "\\mathunder", "bottom curly bracket"⟩,
  ⟨'\u25A1', "\\mdlgwhtsquare", "\\mathord", "white square"⟩,
  ⟨'\u25B3', "\\bigtriangleup", "\\mathbin", "white up-pointing triangle"⟩,
  ⟨'\u25B7', "\\triangleright", "\\mathbin", "white right-pointing triangle"⟩,
  ⟨'\u25BD', "\\bigtriangledown", "\\mathbin", "white down-pointing triangle"⟩,
  ⟨'\u25C1', "\\triangleleft", "\\mathbin", "white left-pointing triangle"⟩,
  ⟨'\u25CB', "\\mdlgwhtcircle", "\\mathord", "white circle"⟩,
  ⟨'\u25E6', "\\smwhtcircle", "\\mathbin", "white bullet"⟩,
  ⟨'\u25EF', "\\lgwhtcircle", "\\mathord", "large circle"⟩,
  ⟨'\u2605', "\\bigstar", "\\mathord", "black star"⟩,
  ⟨'\u2660', "\\spadesuit", "\\mathord", "black spade suit"⟩,
  ⟨'\u2661', "\\heartsuit", "\\mathord", "white heart suit"⟩,
  ⟨'\u2662', "\\diamondsuit", "\\mathord", "white diamond suit"⟩,
  ⟨'\u2663', "\\clubsuit", "\\mathord", "black club suit"⟩,
  ⟨'\u266D', "\\flat", "\\mathord", "music flat sign"⟩,
  ⟨'\u266E', "\\natural", "\\mathord", "music natural sign"⟩,
  ⟨'\u266F', "\\sharp", "\\mathord", "music sharp sign"⟩]

/-- Further brackets, arrows and operators. -/
def supplement : List SymbolRecord := [
  ⟨'\u27E8', "\\langle", "\\mathopen", "mathematical left angle bracket"⟩,
  ⟨'\u27E9', "\\rangle", "\\mathclose", "mathematical right angle bracket"⟩,
  ⟨'\u27F5', "\\longleftarrow", "\\mathrel", "long leftwards arrow"⟩,
  ⟨'\u27F6', "\\longrightarrow", "\\mathrel", "long rightwards arrow"⟩,
  ⟨'\u27F7', "\\longleftrightarrow", "\\mathrel", "long left right arrow"⟩,
  ⟨'\u27F8', "\\Longleftarrow", "\\mathrel", "long leftwards double arrow"⟩,
  ⟨'\u27F9', "\\Longrightarrow", "\\mathrel", "long rightwards double arrow"⟩,
  ⟨'\u27FA', "\\Longleftrightarrow", "\\mathrel", "long left right double arrow"⟩,
  ⟨'\u27FC', "\\longmapsto", "\\mathrel", "long rightwards arrow from bar"⟩,
  ⟨'\u2A00', "\\bigodot", "\\mathop", "n-ary circled dot operator"⟩,
  ⟨'\u2A01', "\\bigoplus", "\\mathop", "n-ary circled plus operator"⟩,
  ⟨'\u2A02', "\\bigotimes", "\\mathop", "n-ary circled times operator"⟩,
  ⟨'\u2A7D', "\\leqslant", "\\mathrel", "less-than or slanted equal to"⟩,
  ⟨'\u2A7E', "\\geqslant", "\\mathrel", "greater-than or slanted equal to"⟩,
  ⟨'\u2AAF', "\\preceq", "\\mathrel", "precedes above single-line equals sign"⟩,
  ⟨'\u2AB0', "\\succeq", "\\mathrel", "succeeds above single-line equals sign"⟩]

end BundledData

namespace Definitions

/-- The bundled symbols. -/
def bundledSymbols : Definitions where
  name := "<bundled math-symbols.tex>"
  records := BundledData.latin ++ BundledData.greek ++ BundledData.punctuation ++
    BundledData.arrows ++ BundledData.operators ++ BundledData.shapes ++
    BundledData.supplement

/-- The bundled aliases. -/
def bundledAliases : Definitions where
  name := "<bundled math-aliases.sty>"
  aliases := [
    ⟨"\\neq", "\\ne"⟩,
    ⟨"\\le", "\\leq"⟩,
    ⟨"\\ge", "\\geq"⟩,
    ⟨"\\to", "\\rightarrow"⟩,
    ⟨"\\gets", "\\leftarrow"⟩,
    ⟨"\\lnot", "\\neg"⟩,
    ⟨"\\land", "\\wedge"⟩,
    ⟨"\\lor", "\\vee"⟩,
    ⟨"\\owns", "\\ni"⟩,
    ⟨"\\hbar", "\\hslash"⟩,
    ⟨"\\dots", "\\unicodeellipsis"⟩,
    ⟨"\\ldots", "\\unicodeellipsis"⟩,
    ⟨"\\cdots", "\\unicodecdots"⟩,
    ⟨"\\Box", "\\mdlgwhtsquare"⟩,
    ⟨"\\diamond", "\\smwhtdiamond"⟩,
    ⟨"\\bigcirc", "\\lgwhtcircle"⟩,
    ⟨"\\varnothing", "\\emptyset"⟩,
    ⟨"\\implies", "\\Longrightarrow"⟩,
    ⟨"\\impliedby", "\\Longleftarrow"⟩,
    ⟨"\\bullet", "\\smblkcircle"⟩,
    ⟨"\\centerdot", "\\cdotp"⟩,
    ⟨"\\restriction", "\\upharpoonright"⟩]

end Definitions

end TexGlyph

/-!
# Font encodings

The tables that turn a one-byte character code of a simple font into a character: the named
encodings a font dictionary may give (`WinAnsiEncoding`, `MacRomanEncoding`), the standard Latin
encoding built into the core text fonts, and `PDFDocEncoding`, used when a font says nothing.
A code a table leaves undefined maps to `0`. Glyph names, used by an encoding's `Differences`,
name characters too.
-/

namespace KnowledgeDesk.Pdf

/-- The characters of `WinAnsiEncoding` by code, `0` where a code has none. -/
def winAnsiTable : Array Nat := #[
  0x0, 0x0, 0x0, 0x0, 0x0, 0x0, 0x0, 0x0, 0x0, 0x0, 0x0, 0x0, 0x0, 0x0, 0x0, 0x0, 0x0, 0x0, 0x0,
  0x0, 0x0, 0x0, 0x0, 0x0, 0x0, 0x0, 0x0, 0x0, 0x0, 0x0, 0x0, 0x0, 0x20, 0x21, 0x22, 0x23, 0x24,
  0x25, 0x26, 0x27, 0x28, 0x29, 0x2A, 0x2B, 0x2C, 0x2D, 0x2E, 0x2F, 0x30, 0x31, 0x32, 0x33, 0x34,
  0x35, 0x36, 0x37, 0x38, 0x39, 0x3A, 0x3B, 0x3C, 0x3D, 0x3E, 0x3F, 0x40, 0x41, 0x42, 0x43, 0x44,
  0x45, 0x46, 0x47, 0x48, 0x49, 0x4A, 0x4B, 0x4C, 0x4D, 0x4E, 0x4F, 0x50, 0x51, 0x52, 0x53, 0x54,
  0x55, 0x56, 0x57, 0x58, 0x59, 0x5A, 0x5B, 0x5C, 0x5D, 0x5E, 0x5F, 0x60, 0x61, 0x62, 0x63, 0x64,
  0x65, 0x66, 0x67, 0x68, 0x69, 0x6A, 0x6B, 0x6C, 0x6D, 0x6E, 0x6F, 0x70, 0x71, 0x72, 0x73, 0x74,
  0x75, 0x76, 0x77, 0x78, 0x79, 0x7A, 0x7B, 0x7C, 0x7D, 0x7E, 0x2022, 0x20AC, 0x2022, 0x201A,
  0x192, 0x201E, 0x2026, 0x2020, 0x2021, 0x2C6, 0x2030, 0x160, 0x2039, 0x152, 0x2022, 0x17D,
  0x2022, 0x2022, 0x2018, 0x2019, 0x201C, 0x201D, 0x2022, 0x2013, 0x2014, 0x2DC, 0x2122, 0x161,
  0x203A, 0x153, 0x2022, 0x17E, 0x178, 0x20, 0xA1, 0xA2, 0xA3, 0xA4, 0xA5, 0xA6, 0xA7, 0xA8,
  0xA9, 0xAA, 0xAB, 0xAC, 0x2D, 0xAE, 0xAF, 0xB0, 0xB1, 0xB2, 0xB3, 0xB4, 0xB5, 0xB6, 0xB7, 0xB8,
  0xB9, 0xBA, 0xBB, 0xBC, 0xBD, 0xBE, 0xBF, 0xC0, 0xC1, 0xC2, 0xC3, 0xC4, 0xC5, 0xC6, 0xC7, 0xC8,
  0xC9, 0xCA, 0xCB, 0xCC, 0xCD, 0xCE, 0xCF, 0xD0, 0xD1, 0xD2, 0xD3, 0xD4, 0xD5, 0xD6, 0xD7, 0xD8,
  0xD9, 0xDA, 0xDB, 0xDC, 0xDD, 0xDE, 0xDF, 0xE0, 0xE1, 0xE2, 0xE3, 0xE4, 0xE5, 0xE6, 0xE7, 0xE8,
  0xE9, 0xEA, 0xEB, 0xEC, 0xED, 0xEE, 0xEF, 0xF0, 0xF1, 0xF2, 0xF3, 0xF4, 0xF5, 0xF6, 0xF7, 0xF8,
  0xF9, 0xFA, 0xFB, 0xFC, 0xFD, 0xFE, 0xFF]

/-- The characters of the standard Latin encoding, the built-in encoding of the core text
fonts, by code, `0` where a code has none. -/
def standardTable : Array Nat := #[
  0x0, 0x0, 0x0, 0x0, 0x0, 0x0, 0x0, 0x0, 0x0, 0x0, 0x0, 0x0, 0x0, 0x0, 0x0, 0x0, 0x0, 0x0, 0x0,
  0x0, 0x0, 0x0, 0x0, 0x0, 0x0, 0x0, 0x0, 0x0, 0x0, 0x0, 0x0, 0x0, 0x20, 0x21, 0x22, 0x23, 0x24,
  0x25, 0x26, 0x2019, 0x28, 0x29, 0x2A, 0x2B, 0x2C, 0x2D, 0x2E, 0x2F, 0x30, 0x31, 0x32, 0x33,
  0x34, 0x35, 0x36, 0x37, 0x38, 0x39, 0x3A, 0x3B, 0x3C, 0x3D, 0x3E, 0x3F, 0x40, 0x41, 0x42, 0x43,
  0x44, 0x45, 0x46, 0x47, 0x48, 0x49, 0x4A, 0x4B, 0x4C, 0x4D, 0x4E, 0x4F, 0x50, 0x51, 0x52, 0x53,
  0x54, 0x55, 0x56, 0x57, 0x58, 0x59, 0x5A, 0x5B, 0x5C, 0x5D, 0x5E, 0x5F, 0x2018, 0x61, 0x62,
  0x63, 0x64, 0x65, 0x66, 0x67, 0x68, 0x69, 0x6A, 0x6B, 0x6C, 0x6D, 0x6E, 0x6F, 0x70, 0x71, 0x72,
  0x73, 0x74, 0x75, 0x76, 0x77, 0x78, 0x79, 0x7A, 0x7B, 0x7C, 0x7D, 0x7E, 0x0, 0x0, 0x0, 0x0,
  0x0, 0x0, 0x0, 0x0, 0x0, 0x0, 0x0, 0x0, 0x0, 0x0, 0x0, 0x0, 0x0, 0x0, 0x0, 0x0, 0x0, 0x0, 0x0,
  0x0, 0x0, 0x0, 0x0, 0x0, 0x0, 0x0, 0x0, 0x0, 0x0, 0x0, 0xA1, 0xA2, 0xA3, 0x2044, 0xA5, 0x192,
  0xA7, 0xA4, 0x27, 0x201C, 0xAB, 0x2039, 0x203A, 0xFB01, 0xFB02, 0x0, 0x2013, 0x2020, 0x2021,
  0xB7, 0x0, 0xB6, 0x2022, 0x201A, 0x201E, 0x201D, 0xBB, 0x2026, 0x2030, 0x0, 0xBF, 0x0, 0x60,
  0xB4, 0x2C6, 0x2DC, 0xAF, 0x2D8, 0x2D9, 0xA8, 0x0, 0x2DA, 0xB8, 0x0, 0x2DD, 0x2DB, 0x2C7,
  0x2014, 0x0, 0x0, 0x0, 0x0, 0x0, 0x0, 0x0, 0x0, 0x0, 0x0, 0x0, 0x0, 0x0, 0x0, 0x0, 0x0, 0xC6,
  0x0, 0xAA, 0x0, 0x0, 0x0, 0x0, 0x141, 0xD8, 0x152, 0xBA, 0x0, 0x0, 0x0, 0x0, 0x0, 0xE6, 0x0,
  0x0, 0x0, 0x131, 0x0, 0x0, 0x142, 0xF8, 0x153, 0xDF, 0x0, 0x0, 0x0, 0x0]

/-- The characters of `PDFDocEncoding` by code, `0` where a code has none. -/
def pdfDocTable : Array Nat := #[
  0x0, 0x1, 0x2, 0x3, 0x4, 0x5, 0x6, 0x7, 0x8, 0x9, 0xA, 0xB, 0xC, 0xD, 0xE, 0xF, 0x10, 0x11,
  0x12, 0x13, 0x14, 0x15, 0x16, 0x17, 0x2D8, 0x2C7, 0x2C6, 0x2D9, 0x2DD, 0x2DB, 0x2DA, 0x2DC,
  0x20, 0x21, 0x22, 0x23, 0x24, 0x25, 0x26, 0x27, 0x28, 0x29, 0x2A, 0x2B, 0x2C, 0x2D, 0x2E, 0x2F,
  0x30, 0x31, 0x32, 0x33, 0x34, 0x35, 0x36, 0x37, 0x38, 0x39, 0x3A, 0x3B, 0x3C, 0x3D, 0x3E, 0x3F,
  0x40, 0x41, 0x42, 0x43, 0x44, 0x45, 0x46, 0x47, 0x48, 0x49, 0x4A, 0x4B, 0x4C, 0x4D, 0x4E, 0x4F,
  0x50, 0x51, 0x52, 0x53, 0x54, 0x55, 0x56, 0x57, 0x58, 0x59, 0x5A, 0x5B, 0x5C, 0x5D, 0x5E, 0x5F,
  0x60, 0x61, 0x62, 0x63, 0x64, 0x65, 0x66, 0x67, 0x68, 0x69, 0x6A, 0x6B, 0x6C, 0x6D, 0x6E, 0x6F,
  0x70, 0x71, 0x72, 0x73, 0x74, 0x75, 0x76, 0x77, 0x78, 0x79, 0x7A, 0x7B, 0x7C, 0x7D, 0x7E, 0x0,
  0x2022, 0x2020, 0x2021, 0x2026, 0x2014, 0x2013, 0x192, 0x2044, 0x2039, 0x203A, 0x2212, 0x2030,
  0x201E, 0x201C, 0x201D, 0x2018, 0x2019, 0x201A, 0x2122, 0xFB01, 0xFB02, 0x141, 0x152, 0x160,
  0x178, 0x17D, 0x131, 0x142, 0x153, 0x161, 0x17E, 0x0, 0x20AC, 0xA1, 0xA2, 0xA3, 0xA4, 0xA5,
  0xA6, 0xA7, 0xA8, 0xA9, 0xAA, 0xAB, 0xAC, 0x0, 0xAE, 0xAF, 0xB0, 0xB1, 0xB2, 0xB3, 0xB4, 0xB5,
  0xB6, 0xB7, 0xB8, 0xB9, 0xBA, 0xBB, 0xBC, 0xBD, 0xBE, 0xBF, 0xC0, 0xC1, 0xC2, 0xC3, 0xC4, 0xC5,
  0xC6, 0xC7, 0xC8, 0xC9, 0xCA, 0xCB, 0xCC, 0xCD, 0xCE, 0xCF, 0xD0, 0xD1, 0xD2, 0xD3, 0xD4, 0xD5,
  0xD6, 0xD7, 0xD8, 0xD9, 0xDA, 0xDB, 0xDC, 0xDD, 0xDE, 0xDF, 0xE0, 0xE1, 0xE2, 0xE3, 0xE4, 0xE5,
  0xE6, 0xE7, 0xE8, 0xE9, 0xEA, 0xEB, 0xEC, 0xED, 0xEE, 0xEF, 0xF0, 0xF1, 0xF2, 0xF3, 0xF4, 0xF5,
  0xF6, 0xF7, 0xF8, 0xF9, 0xFA, 0xFB, 0xFC, 0xFD, 0xFE, 0xFF]

/-- Glyph names and their characters. -/
def glyphNames : List (String × Nat) := [
  ("A", 0x41), ("AE", 0xC6), ("Aacute", 0xC1), ("Acircumflex", 0xC2), ("Adieresis", 0xC4),
  ("Agrave", 0xC0), ("Aring", 0xC5), ("Atilde", 0xC3), ("B", 0x42), ("C", 0x43),
  ("Ccedilla", 0xC7), ("D", 0x44), ("E", 0x45), ("Eacute", 0xC9), ("Ecircumflex", 0xCA),
  ("Edieresis", 0xCB), ("Egrave", 0xC8), ("Eth", 0xD0), ("Euro", 0x20AC), ("F", 0x46),
  ("G", 0x47), ("H", 0x48), ("I", 0x49), ("Iacute", 0xCD), ("Icircumflex", 0xCE),
  ("Idieresis", 0xCF), ("Igrave", 0xCC), ("J", 0x4A), ("K", 0x4B), ("L", 0x4C),
  ("Lslash", 0x141), ("M", 0x4D), ("N", 0x4E), ("Ntilde", 0xD1), ("O", 0x4F), ("OE", 0x152),
  ("Oacute", 0xD3), ("Ocircumflex", 0xD4), ("Odieresis", 0xD6), ("Ograve", 0xD2),
  ("Oslash", 0xD8), ("Otilde", 0xD5), ("P", 0x50), ("Q", 0x51), ("R", 0x52), ("S", 0x53),
  ("Scaron", 0x160), ("T", 0x54), ("Thorn", 0xDE), ("U", 0x55), ("Uacute", 0xDA),
  ("Ucircumflex", 0xDB), ("Udieresis", 0xDC), ("Ugrave", 0xD9), ("V", 0x56), ("W", 0x57),
  ("X", 0x58), ("Y", 0x59), ("Yacute", 0xDD), ("Ydieresis", 0x178), ("Z", 0x5A),
  ("Zcaron", 0x17D), ("a", 0x61), ("aacute", 0xE1), ("acircumflex", 0xE2), ("acute", 0xB4),
  ("adieresis", 0xE4), ("ae", 0xE6), ("agrave", 0xE0), ("ampersand", 0x26), ("aring", 0xE5),
  ("asciicircum", 0x5E), ("asciitilde", 0x7E), ("asterisk", 0x2A), ("at", 0x40),
  ("atilde", 0xE3), ("b", 0x62), ("backslash", 0x5C), ("bar", 0x7C), ("braceleft", 0x7B),
  ("braceright", 0x7D), ("bracketleft", 0x5B), ("bracketright", 0x5D), ("breve", 0x2D8),
  ("brokenbar", 0xA6), ("bullet", 0x2022), ("c", 0x63), ("caron", 0x2C7), ("ccedilla", 0xE7),
  ("cedilla", 0xB8), ("cent", 0xA2), ("circumflex", 0x2C6), ("colon", 0x3A), ("comma", 0x2C),
  ("copyright", 0xA9), ("currency", 0xA4), ("d", 0x64), ("dagger", 0x2020),
  ("daggerdbl", 0x2021), ("degree", 0xB0), ("dieresis", 0xA8), ("divide", 0xF7),
  ("dollar", 0x24), ("dotaccent", 0x2D9), ("dotlessi", 0x131), ("e", 0x65), ("eacute", 0xE9),
  ("ecircumflex", 0xEA), ("edieresis", 0xEB), ("egrave", 0xE8), ("eight", 0x38),
  ("ellipsis", 0x2026), ("emdash", 0x2014), ("endash", 0x2013), ("equal", 0x3D), ("eth", 0xF0),
  ("exclam", 0x21), ("exclamdown", 0xA1), ("f", 0x66), ("fi", 0xFB01), ("five", 0x35),
  ("fl", 0xFB02), ("florin", 0x192), ("four", 0x34), ("fraction", 0x2044), ("g", 0x67),
  ("germandbls", 0xDF), ("grave", 0x60), ("greater", 0x3E), ("guillemotleft", 0xAB),
  ("guillemotright", 0xBB), ("guilsinglleft", 0x2039), ("guilsinglright", 0x203A), ("h", 0x68),
  ("hungarumlaut", 0x2DD), ("hyphen", 0x2D), ("i", 0x69), ("iacute", 0xED),
  ("icircumflex", 0xEE), ("idieresis", 0xEF), ("igrave", 0xEC), ("j", 0x6A), ("k", 0x6B),
  ("l", 0x6C), ("less", 0x3C), ("logicalnot", 0xAC), ("lslash", 0x142), ("m", 0x6D),
  ("macron", 0xAF), ("minus", 0x2212), ("mu", 0xB5), ("multiply", 0xD7), ("n", 0x6E),
  ("nbspace", 0xA0), ("nine", 0x39), ("ntilde", 0xF1), ("numbersign", 0x23), ("o", 0x6F),
  ("oacute", 0xF3), ("ocircumflex", 0xF4), ("odieresis", 0xF6), ("oe", 0x153), ("ogonek", 0x2DB),
  ("ograve", 0xF2), ("one", 0x31), ("onehalf", 0xBD), ("onequarter", 0xBC),
  ("onesuperior", 0xB9), ("ordfeminine", 0xAA), ("ordmasculine", 0xBA), ("oslash", 0xF8),
  ("otilde", 0xF5), ("p", 0x70), ("paragraph", 0xB6), ("parenleft", 0x28), ("parenright", 0x29),
  ("percent", 0x25), ("period", 0x2E), ("periodcentered", 0xB7), ("perthousand", 0x2030),
  ("plus", 0x2B), ("plusminus", 0xB1), ("q", 0x71), ("question", 0x3F), ("questiondown", 0xBF),
  ("quotedbl", 0x22), ("quotedblbase", 0x201E), ("quotedblleft", 0x201C),
  ("quotedblright", 0x201D), ("quoteleft", 0x2018), ("quoteright", 0x2019),
  ("quotesinglbase", 0x201A), ("quotesingle", 0x27), ("r", 0x72), ("registered", 0xAE),
  ("ring", 0x2DA), ("s", 0x73), ("scaron", 0x161), ("section", 0xA7), ("semicolon", 0x3B),
  ("seven", 0x37), ("sfthyphen", 0xAD), ("six", 0x36), ("slash", 0x2F), ("space", 0x20),
  ("sterling", 0xA3), ("t", 0x74), ("thorn", 0xFE), ("three", 0x33), ("threequarters", 0xBE),
  ("threesuperior", 0xB3), ("tilde", 0x2DC), ("trademark", 0x2122), ("two", 0x32),
  ("twosuperior", 0xB2), ("u", 0x75), ("uacute", 0xFA), ("ucircumflex", 0xFB),
  ("udieresis", 0xFC), ("ugrave", 0xF9), ("underscore", 0x5F), ("v", 0x76), ("w", 0x77),
  ("x", 0x78), ("y", 0x79), ("yacute", 0xFD), ("ydieresis", 0xFF), ("yen", 0xA5), ("z", 0x7A),
  ("zcaron", 0x17E), ("zero", 0x30)]

/-- The characters of `MacRomanEncoding` by code, `0` where a code has none. -/
def macRomanTable : Array Nat := #[
  0x0, 0x0, 0x0, 0x0, 0x0, 0x0, 0x0, 0x0, 0x0, 0x0, 0x0, 0x0, 0x0, 0x0, 0x0, 0x0, 0x0, 0x0, 0x0,
  0x0, 0x0, 0x0, 0x0, 0x0, 0x0, 0x0, 0x0, 0x0, 0x0, 0x0, 0x0, 0x0, 0x20, 0x21, 0x22, 0x23, 0x24,
  0x25, 0x26, 0x27, 0x28, 0x29, 0x2A, 0x2B, 0x2C, 0x2D, 0x2E, 0x2F, 0x30, 0x31, 0x32, 0x33, 0x34,
  0x35, 0x36, 0x37, 0x38, 0x39, 0x3A, 0x3B, 0x3C, 0x3D, 0x3E, 0x3F, 0x40, 0x41, 0x42, 0x43, 0x44,
  0x45, 0x46, 0x47, 0x48, 0x49, 0x4A, 0x4B, 0x4C, 0x4D, 0x4E, 0x4F, 0x50, 0x51, 0x52, 0x53, 0x54,
  0x55, 0x56, 0x57, 0x58, 0x59, 0x5A, 0x5B, 0x5C, 0x5D, 0x5E, 0x5F, 0x60, 0x61, 0x62, 0x63, 0x64,
  0x65, 0x66, 0x67, 0x68, 0x69, 0x6A, 0x6B, 0x6C, 0x6D, 0x6E, 0x6F, 0x70, 0x71, 0x72, 0x73, 0x74,
  0x75, 0x76, 0x77, 0x78, 0x79, 0x7A, 0x7B, 0x7C, 0x7D, 0x7E, 0x0, 0xC4, 0xC5, 0xC7, 0xC9, 0xD1,
  0xD6, 0xDC, 0xE1, 0xE0, 0xE2, 0xE4, 0xE3, 0xE5, 0xE7, 0xE9, 0xE8, 0xEA, 0xEB, 0xED, 0xEC, 0xEE,
  0xEF, 0xF1, 0xF3, 0xF2, 0xF4, 0xF6, 0xF5, 0xFA, 0xF9, 0xFB, 0xFC, 0x2020, 0xB0, 0xA2, 0xA3,
  0xA7, 0x2022, 0xB6, 0xDF, 0xAE, 0xA9, 0x2122, 0xB4, 0xA8, 0x2260, 0xC6, 0xD8, 0x221E, 0xB1,
  0x2264, 0x2265, 0xA5, 0xB5, 0x2202, 0x2211, 0x220F, 0x3C0, 0x222B, 0xAA, 0xBA, 0x2126, 0xE6,
  0xF8, 0xBF, 0xA1, 0xAC, 0x221A, 0x192, 0x2248, 0x2206, 0xAB, 0xBB, 0x2026, 0x20, 0xC0, 0xC3,
  0xD5, 0x152, 0x153, 0x2013, 0x2014, 0x201C, 0x201D, 0x2018, 0x2019, 0xF7, 0x25CA, 0xFF, 0x178,
  0x2044, 0xA4, 0x2039, 0x203A, 0xFB01, 0xFB02, 0x2021, 0xB7, 0x201A, 0x201E, 0x2030, 0xC2, 0xCA,
  0xC1, 0xCB, 0xC8, 0xCD, 0xCE, 0xCF, 0xCC, 0xD3, 0xD4, 0x0, 0xD2, 0xDA, 0xDB, 0xD9, 0x131,
  0x2C6, 0x2DC, 0xAF, 0x2D8, 0x2D9, 0x2DA, 0xB8, 0x2DD, 0x2DB, 0x2C7]

/-- The character a glyph name stands for. -/
def glyphChar? (name : String) : Option Nat :=
  (glyphNames.find? (·.1 == name)).map (·.2)

/-- The table of a named encoding. -/
def namedEncoding? : String → Option (Array Nat)
  | "WinAnsiEncoding" => some winAnsiTable
  | "MacRomanEncoding" => some macRomanTable
  | _ => none

end KnowledgeDesk.Pdf

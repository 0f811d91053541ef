import Std.Data.HashMap

/-!
# Widths of the core fonts

Text extraction places characters by their advance widths, in thousandths of the text size. A
font dictionary that names one of the fourteen core fonts without widths of its own takes them
from the font's standard metrics, kept here by character: the printable ASCII characters in a
list from the space on, the others by code point. Courier's characters are all 600 wide.
-/

namespace KnowledgeDesk.Pdf

/-- Widths of Helvetica and its oblique for the printable ASCII characters, space first. -/
def widthsHelveticaAscii : List Nat := [
  278, 278, 355, 556, 556, 889, 667, 191, 333, 333, 389, 584, 278, 333, 278, 278, 556, 556, 556,
  556, 556, 556, 556, 556, 556, 556, 278, 278, 584, 584, 584, 556, 1015, 667, 667, 722, 722, 667,
  611, 778, 722, 278, 500, 667, 556, 833, 722, 778, 667, 778, 722, 667, 611, 722, 667, 944, 667,
  667, 611, 278, 278, 278, 469, 556, 333, 556, 556, 500, 556, 556, 278, 556, 556, 222, 222, 500,
  222, 833, 556, 556, 556, 556, 333, 500, 278, 556, 500, 722, 500, 500, 500, 334, 260, 334, 584]

def widthsHelveticaMore : List (Nat × Nat) := [
  (0xA1, 333), (0xA2, 556), (0xA3, 556), (0xA4, 556), (0xA5, 556), (0xA6, 260), (0xA7, 556),
  (0xA8, 333), (0xA9, 737), (0xAA, 370), (0xAB, 556), (0xAC, 584), (0xAE, 737), (0xAF, 333),
  (0xB0, 400), (0xB1, 584), (0xB2, 333), (0xB3, 333), (0xB4, 333), (0xB5, 556), (0xB6, 537),
  (0xB7, 278), (0xB8, 333), (0xB9, 333), (0xBA, 365), (0xBB, 556), (0xBC, 834), (0xBD, 834),
  (0xBE, 834), (0xBF, 611), (0xC0, 667), (0xC1, 667), (0xC2, 667), (0xC3, 667), (0xC4, 667),
  (0xC5, 667), (0xC6, 1000), (0xC7, 722), (0xC8, 667), (0xC9, 667), (0xCA, 667), (0xCB, 667),
  (0xCC, 278), (0xCD, 278), (0xCE, 278), (0xCF, 278), (0xD0, 722), (0xD1, 722), (0xD2, 778),
  (0xD3, 778), (0xD4, 778), (0xD5, 778), (0xD6, 778), (0xD7, 584), (0xD8, 778), (0xD9, 722),
  (0xDA, 722), (0xDB, 722), (0xDC, 722), (0xDD, 667), (0xDE, 667), (0xDF, 611), (0xE0, 556),
  (0xE1, 556), (0xE2, 556), (0xE3, 556), (0xE4, 556), (0xE5, 556), (0xE6, 889), (0xE7, 500),
  (0xE8, 556), (0xE9, 556), (0xEA, 556), (0xEB, 556), (0xEC, 278), (0xED, 278), (0xEE, 278),
  (0xEF, 278), (0xF0, 556), (0xF1, 556), (0xF2, 556), (0xF3, 556), (0xF4, 556), (0xF5, 556),
  (0xF6, 556), (0xF7, 584), (0xF8, 611), (0xF9, 556), (0xFA, 556), (0xFB, 556), (0xFC, 556),
  (0xFD, 500), (0xFE, 556), (0xFF, 500), (0x131, 278), (0x141, 556), (0x142, 222), (0x152, 1000),
  (0x153, 944), (0x160, 667), (0x161, 500), (0x178, 667), (0x17D, 611), (0x17E, 500),
  (0x192, 556), (0x2C6, 333), (0x2C7, 333), (0x2D8, 333), (0x2D9, 333), (0x2DA, 333),
  (0x2DB, 333), (0x2DC, 333), (0x2DD, 333), (0x2013, 556), (0x2014, 1000), (0x2018, 222),
  (0x2019, 222), (0x201A, 222), (0x201C, 333), (0x201D, 333), (0x201E, 333), (0x2020, 556),
  (0x2021, 556), (0x2022, 350), (0x2026, 1000), (0x2030, 1000), (0x2039, 333), (0x203A, 333),
  (0x2044, 167), (0x20AC, 556), (0x2122, 1000), (0x2212, 584), (0xFB01, 500), (0xFB02, 500)]

def widthsHelveticaBoldAscii : List Nat := [
  278, 333, 474, 556, 556, 889, 722, 238, 333, 333, 389, 584, 278, 333, 278, 278, 556, 556, 556,
  556, 556, 556, 556, 556, 556, 556, 333, 333, 584, 584, 584, 611, 975, 722, 722, 722, 722, 667,
  611, 778, 722, 278, 556, 722, 611, 833, 722, 778, 667, 778, 722, 667, 611, 722, 667, 944, 667,
  667, 611, 333, 278, 333, 584, 556, 333, 556, 611, 556, 611, 556, 333, 611, 611, 278, 278, 556,
  278, 889, 611, 611, 611, 611, 389, 556, 333, 611, 556, 778, 556, 556, 500, 389, 280, 389, 584]

def widthsHelveticaBoldMore : List (Nat × Nat) := [
  (0xA1, 333), (0xA2, 556), (0xA3, 556), (0xA4, 556), (0xA5, 556), (0xA6, 280), (0xA7, 556),
  (0xA8, 333), (0xA9, 737), (0xAA, 370), (0xAB, 556), (0xAC, 584), (0xAE, 737), (0xAF, 333),
  (0xB0, 400), (0xB1, 584), (0xB2, 333), (0xB3, 333), (0xB4, 333), (0xB5, 611), (0xB6, 556),
  (0xB7, 278), (0xB8, 333), (0xB9, 333), (0xBA, 365), (0xBB, 556), (0xBC, 834), (0xBD, 834),
  (0xBE, 834), (0xBF, 611), (0xC0, 722), (0xC1, 722), (0xC2, 722), (0xC3, 722), (0xC4, 722),
  (0xC5, 722), (0xC6, 1000), (0xC7, 722), (0xC8, 667), (0xC9, 667), (0xCA, 667), (0xCB, 667),
  (0xCC, 278), (0xCD, 278), (0xCE, 278), (0xCF, 278), (0xD0, 722), (0xD1, 722), (0xD2, 778),
  (0xD3, 778), (0xD4, 778), (0xD5, 778), (0xD6, 778), (0xD7, 584), (0xD8, 778), (0xD9, 722),
  (0xDA, 722), (0xDB, 722), (0xDC, 722), (0xDD, 667), (0xDE, 667), (0xDF, 611), (0xE0, 556),
  (0xE1, 556), (0xE2, 556), (0xE3, 556), (0xE4, 556), (0xE5, 556), (0xE6, 889), (0xE7, 556),
  (0xE8, 556), (0xE9, 556), (0xEA, 556), (0xEB, 556), (0xEC, 278), (0xED, 278), (0xEE, 278),
  (0xEF, 278), (0xF0, 611), (0xF1, 611), (0xF2, 611), (0xF3, 611), (0xF4, 611), (0xF5, 611),
  (0xF6, 611), (0xF7, 584), (0xF8, 611), (0xF9, 611), (0xFA, 611), (0xFB, 611), (0xFC, 611),
  (0xFD, 556), (0xFE, 611), (0xFF, 556), (0x131, 278), (0x141, 611), (0x142, 278), (0x152, 1000),
  (0x153, 944), (0x160, 667), (0x161, 556), (0x178, 667), (0x17D, 611), (0x17E, 500),
  (0x192, 556), (0x2C6, 333), (0x2DC, 333), (0x2013, 556), (0x2014, 1000), (0x2018, 278),
  (0x2019, 278), (0x201A, 278), (0x201C, 500), (0x201D, 500), (0x201E, 500), (0x2020, 556),
  (0x2021, 556), (0x2022, 350), (0x2026, 1000), (0x2030, 1000), (0x2039, 333), (0x203A, 333),
  (0x2044, 167), (0x20AC, 556), (0x2122, 1000), (0xFB01, 611), (0xFB02, 611)]

/-- Widths of Times roman for the printable ASCII characters, space first. -/
def widthsTimesRomanAscii : List Nat := [
  250, 333, 408, 500, 500, 833, 778, 180, 333, 333, 500, 564, 250, 333, 250, 278, 500, 500, 500,
  500, 500, 500, 500, 500, 500, 500, 278, 278, 564, 564, 564, 444, 921, 722, 667, 667, 722, 611,
  556, 722, 722, 333, 389, 722, 611, 889, 722, 722, 556, 722, 667, 556, 611, 722, 722, 944, 722,
  722, 611, 333, 278, 333, 469, 500, 333, 444, 500, 444, 500, 444, 333, 500, 500, 278, 278, 500,
  278, 778, 500, 500, 500, 500, 333, 389, 278, 500, 500, 722, 500, 500, 444, 480, 200, 480, 541]

def widthsTimesRomanMore : List (Nat × Nat) := [
  (0xA1, 333), (0xA2, 500), (0xA3, 500), (0xA4, 500), (0xA5, 500), (0xA6, 200), (0xA7, 500),
  (0xA8, 333), (0xA9, 760), (0xAA, 276), (0xAB, 500), (0xAC, 564), (0xAE, 760), (0xAF, 333),
  (0xB0, 400), (0xB1, 564), (0xB2, 300), (0xB3, 300), (0xB4, 333), (0xB5, 500), (0xB6, 453),
  (0xB7, 250), (0xB8, 333), (0xB9, 300), (0xBA, 310), (0xBB, 500), (0xBC, 750), (0xBD, 750),
  (0xBE, 750), (0xBF, 444), (0xC0, 722), (0xC1, 722), (0xC2, 722), (0xC3, 722), (0xC4, 722),
  (0xC5, 722), (0xC6, 889), (0xC7, 667), (0xC8, 611), (0xC9, 611), (0xCA, 611), (0xCB, 611),
  (0xCC, 333), (0xCD, 333), (0xCE, 333), (0xCF, 333), (0xD0, 722), (0xD1, 722), (0xD2, 722),
  (0xD3, 722), (0xD4, 722), (0xD5, 722), (0xD6, 722), (0xD7, 564), (0xD8, 722), (0xD9, 722),
  (0xDA, 722), (0xDB, 722), (0xDC, 722), (0xDD, 722), (0xDE, 556), (0xDF, 500), (0xE0, 444),
  (0xE1, 444), (0xE2, 444), (0xE3, 444), (0xE4, 444), (0xE5, 444), (0xE6, 667), (0xE7, 444),
  (0xE8, 444), (0xE9, 444), (0xEA, 444), (0xEB, 444), (0xEC, 278), (0xED, 278), (0xEE, 278),
  (0xEF, 278), (0xF0, 500), (0xF1, 500), (0xF2, 500), (0xF3, 500), (0xF4, 500), (0xF5, 500),
  (0xF6, 500), (0xF7, 564), (0xF8, 500), (0xF9, 500), (0xFA, 500), (0xFB, 500), (0xFC, 500),
  (0xFD, 500), (0xFE, 500), (0xFF, 500), (0x131, 278), (0x141, 611), (0x142, 278), (0x152, 889),
  (0x153, 722), (0x160, 556), (0x161, 389), (0x178, 722), (0x17D, 611), (0x17E, 444),
  (0x192, 500), (0x2C6, 333), (0x2DC, 333), (0x2013, 500), (0x2014, 1000), (0x2018, 333),
  (0x2019, 333), (0x201A, 333), (0x201C, 444), (0x201D, 444), (0x201E, 444), (0x2020, 500),
  (0x2021, 500), (0x2022, 350), (0x2026, 1000), (0x2030, 1000), (0x2039, 333), (0x203A, 333),
  (0x2044, 167), (0x20AC, 500), (0x2122, 980), (0xFB01, 556), (0xFB02, 556)]

def widthsTimesBoldAscii : List Nat := [
  250, 333, 555, 500, 500, 1000, 833, 278, 333, 333, 500, 570, 250, 333, 250, 278, 500, 500, 500,
  500, 500, 500, 500, 500, 500, 500, 333, 333, 570, 570, 570, 500, 930, 722, 667, 722, 722, 667,
  611, 778, 778, 389, 500, 778, 667, 944, 722, 778, 611, 778, 722, 556, 667, 722, 722, 1000, 722,
  722, 667, 333, 278, 333, 581, 500, 333, 500, 556, 444, 556, 444, 333, 500, 556, 278, 333, 556,
  278, 833, 556, 500, 556, 556, 444, 389, 333, 556, 500, 722, 500, 500, 444, 394, 220, 394, 520]

def widthsTimesItalicAscii : List Nat := [
  250, 333, 420, 500, 500, 833, 778, 214, 333, 333, 500, 675, 250, 333, 250, 278, 500, 500, 500,
  500, 500, 500, 500, 500, 500, 500, 333, 333, 675, 675, 675, 500, 920, 611, 611, 667, 722, 611,
  611, 722, 722, 333, 444, 667, 556, 833, 667, 722, 611, 722, 611, 500, 556, 722, 611, 833, 611,
  556, 556, 389, 278, 389, 422, 500, 333, 500, 500, 444, 500, 444, 278, 500, 500, 278, 278, 444,
  278, 722, 500, 500, 500, 500, 389, 389, 278, 500, 444, 667, 444, 444, 389, 400, 275, 400, 541]

def widthsTimesBoldItalicAscii : List Nat := [
  250, 389, 555, 500, 500, 833, 778, 278, 333, 333, 500, 570, 250, 333, 250, 278, 500, 500, 500,
  500, 500, 500, 500, 500, 500, 500, 333, 333, 570, 570, 570, 500, 832, 667, 667, 667, 722, 667,
  667, 722, 778, 389, 500, 667, 611, 889, 722, 722, 611, 722, 667, 556, 611, 722, 667, 889, 667,
  611, 611, 333, 278, 333, 570, 500, 333, 500, 500, 444, 500, 444, 333, 500, 556, 278, 278, 500,
  278, 778, 556, 500, 500, 500, 389, 389, 278, 556, 444, 667, 500, 444, 389, 348, 220, 348, 570]

/-- The widths of a font by character, from its ASCII list and its other characters. -/
def metricTable (ascii : List Nat) (more : List (Nat × Nat)) : Std.HashMap Nat Nat :=
  let table := ascii.zipIdx.foldl (fun t (w, i) => t.insert (32 + i) w) {}
  more.foldl (fun t (c, w) => t.insert c w) table

/-- The fourteen core fonts. -/
def coreFonts : List String :=
  ["Courier-Bold", "Courier-BoldOblique", "Courier-Oblique", "Courier", "Helvetica-Bold",
    "Helvetica-BoldOblique", "Helvetica-Oblique", "Helvetica", "Symbol", "Times-Bold",
    "Times-BoldItalic", "Times-Italic", "Times-Roman", "ZapfDingbats"]

def isCoreFont (name : String) : Bool := coreFonts.contains name

/-- What is known of a core font's widths. -/
inductive CoreMetrics where
  /-- Every character has the same width. -/
  | fixed (w : Nat)
  /-- Widths by character. -/
  | table (t : Std.HashMap Nat Nat)
  /-- Nothing. -/
  | unknown

def coreMetrics : String → CoreMetrics
  | "Helvetica" | "Helvetica-Oblique" => .table (metricTable widthsHelveticaAscii widthsHelveticaMore)
  | "Helvetica-Bold" | "Helvetica-BoldOblique" =>
    .table (metricTable widthsHelveticaBoldAscii widthsHelveticaBoldMore)
  | "Times-Roman" => .table (metricTable widthsTimesRomanAscii widthsTimesRomanMore)
  | "Times-Bold" => .table (metricTable widthsTimesBoldAscii [])
  | "Times-Italic" => .table (metricTable widthsTimesItalicAscii [])
  | "Times-BoldItalic" => .table (metricTable widthsTimesBoldItalicAscii [])
  | "Courier" | "Courier-Bold" | "Courier-Oblique" | "Courier-BoldOblique" => .fixed 600
  | _ => .unknown

def CoreMetrics.width? : CoreMetrics → Nat → Option Nat
  | .fixed w, c => if c = 0 then none else some w
  | .table t, c => t[c]?
  | .unknown, _ => none

end KnowledgeDesk.Pdf

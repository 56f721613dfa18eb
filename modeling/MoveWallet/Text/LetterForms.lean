/-! # Other forms of the small ASCII letters

Capital, circled, raised, mathematical and other variants of letters, and single characters that
stand for several, are folded to small ASCII letters: the result of lower-casing a character and
taking its compatibility decomposition, for those characters whose result is such letters only.
-/

namespace MoveWallet.Text

/-- Runs of characters that fold to consecutive letters, from the one given. -/
def letterRuns : List (Nat × Nat × Char) :=
  [(0xAA, 0xAA, 'a'), (0xBA, 0xBA, 'o'), (0x17F, 0x17F, 's'), (0x2B0, 0x2B0, 'h'),
   (0x2B2, 0x2B2, 'j'), (0x2B3, 0x2B3, 'r'), (0x2B7, 0x2B7, 'w'), (0x2B8, 0x2B8, 'y'),
   (0x2E1, 0x2E1, 'l'), (0x2E2, 0x2E2, 's'), (0x2E3, 0x2E3, 'x'), (0x1D43, 0x1D43, 'a'),
   (0x1D47, 0x1D47, 'b'), (0x1D48, 0x1D49, 'd'), (0x1D4D, 0x1D4D, 'g'), (0x1D4F, 0x1D4F, 'k'),
   (0x1D50, 0x1D50, 'm'), (0x1D52, 0x1D52, 'o'), (0x1D56, 0x1D56, 'p'), (0x1D57, 0x1D58, 't'),
   (0x1D5B, 0x1D5B, 'v'), (0x1D62, 0x1D62, 'i'), (0x1D63, 0x1D63, 'r'), (0x1D64, 0x1D65, 'u'),
   (0x1D9C, 0x1D9C, 'c'), (0x1DA0, 0x1DA0, 'f'), (0x1DBB, 0x1DBB, 'z'), (0x2071, 0x2071, 'i'),
   (0x207F, 0x207F, 'n'), (0x2090, 0x2090, 'a'), (0x2091, 0x2091, 'e'), (0x2092, 0x2092, 'o'),
   (0x2093, 0x2093, 'x'), (0x2095, 0x2095, 'h'), (0x2096, 0x2099, 'k'), (0x209A, 0x209A, 'p'),
   (0x209B, 0x209C, 's'), (0x209D, 0x209D, 'w'), (0x209E, 0x209F, 'y'), (0x210A, 0x210A, 'g'),
   (0x210E, 0x210E, 'h'), (0x2113, 0x2113, 'l'),
   (0x212A, 0x212A, 'k'), (0x212F, 0x212F, 'e'), (0x2134, 0x2134, 'o'), (0x2139, 0x2139, 'i'),
   (0x2146, 0x2147, 'd'), (0x2148, 0x2149, 'i'), (0x2160, 0x2160, 'i'), (0x2164, 0x2164, 'v'),
   (0x2169, 0x2169, 'x'), (0x216C, 0x216C, 'l'), (0x216D, 0x216E, 'c'), (0x216F, 0x216F, 'm'),
   (0x2170, 0x2170, 'i'), (0x2174, 0x2174, 'v'), (0x2179, 0x2179, 'x'), (0x217C, 0x217C, 'l'),
   (0x217D, 0x217E, 'c'), (0x217F, 0x217F, 'm'), (0x24B6, 0x24CF, 'a'), (0x24D0, 0x24E9, 'a'),
   (0x2C7C, 0x2C7C, 'j'), (0xFF21, 0xFF3A, 'a'), (0xFF41, 0xFF5A, 'a'), (0x107A5, 0x107A5, 'q'),
   (0x1D41A, 0x1D433, 'a'), (0x1D44E, 0x1D454, 'a'), (0x1D456, 0x1D467, 'i'),
   (0x1D482, 0x1D49B, 'a'), (0x1D4B6, 0x1D4B9, 'a'), (0x1D4BB, 0x1D4BB, 'f'),
   (0x1D4BD, 0x1D4C3, 'h'), (0x1D4C5, 0x1D4CF, 'p'), (0x1D4EA, 0x1D503, 'a'),
   (0x1D51E, 0x1D537, 'a'), (0x1D552, 0x1D56B, 'a'), (0x1D586, 0x1D59F, 'a'),
   (0x1D5BA, 0x1D5D3, 'a'), (0x1D5EE, 0x1D607, 'a'), (0x1D622, 0x1D63B, 'a'),
   (0x1D656, 0x1D66F, 'a'), (0x1D68A, 0x1D6A3, 'a')]

/-- Characters that fold to several letters. -/
def letterGroups : List (Nat × String) :=
  [(0x132, "ij"), (0x133, "ij"), (0x1C7, "lj"), (0x1C8, "lj"), (0x1C9, "lj"), (0x1CA, "nj"),
   (0x1CB, "nj"), (0x1CC, "nj"), (0x1F1, "dz"), (0x1F2, "dz"), (0x1F3, "dz"), (0x2161, "ii"),
   (0x2162, "iii"), (0x2163, "iv"), (0x2165, "vi"), (0x2166, "vii"), (0x2167, "viii"),
   (0x2168, "ix"), (0x216A, "xi"), (0x216B, "xii"), (0x2171, "ii"), (0x2172, "iii"),
   (0x2173, "iv"), (0x2175, "vi"), (0x2176, "vii"), (0x2177, "viii"), (0x2178, "ix"),
   (0x217A, "xi"), (0x217B, "xii"), (0x32CD, "erg"), (0x3372, "da"), (0x3374, "bar"),
   (0x3376, "pc"), (0x3377, "dm"), (0x3388, "cal"), (0x3389, "kcal"), (0x338E, "mg"),
   (0x338F, "kg"), (0x3396, "ml"), (0x3397, "dl"), (0x3398, "kl"), (0x3399, "fm"), (0x339A, "nm"),
   (0x339C, "mm"), (0x339D, "cm"), (0x339E, "km"), (0x33AD, "rad"), (0x33B0, "ps"),
   (0x33B1, "ns"), (0x33B3, "ms"), (0x33C4, "cc"), (0x33C5, "cd"), (0x33CA, "ha"), (0x33CC, "in"),
   (0x33CF, "kt"), (0x33D0, "lm"), (0x33D1, "ln"), (0x33D2, "log"), (0x33D3, "lx"),
   (0x33D4, "mb"), (0x33D5, "mil"), (0x33D6, "mol"), (0x33DB, "sr"), (0x33FF, "gal"),
   (0xFB00, "ff"), (0xFB01, "fi"), (0xFB02, "fl"), (0xFB03, "ffi"), (0xFB04, "ffl"),
   (0xFB05, "st"), (0xFB06, "st")]

/-- The small ASCII letters that a character folds to; any other character is kept. -/
def foldLetter (c : Char) : List Char :=
  if c.toNat < 0x80 then [c.toLower]
  else
    match letterRuns.find? fun run => run.1 ≤ c.toNat && c.toNat ≤ run.2.1 with
    | some (first, _, letter) => [Char.ofNat (letter.toNat + (c.toNat - first))]
    | none =>
      match letterGroups.find? fun group => group.1 = c.toNat with
      | some (_, letters) => letters.toList
      | none => [c]

def foldWord (word : List Char) : List Char := word.flatMap foldLetter

end MoveWallet.Text

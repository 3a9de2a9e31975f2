/-!
# Case tables

Runs of characters that a case mapping sends to another character: the first code point of a run,
how many there are, the step from one to the next, and what the first is sent to. The others keep
its distance.
-/

namespace Stratalog.Text

/-- A run of a case mapping: first source, count, step, first target. -/
abbrev CaseRun := Nat × Nat × Nat × Nat

/-- The simple case folding. -/
def foldRuns : List CaseRun :=
  [(0x41, 26, 1, 0x61), (0xB5, 1, 1, 0x3BC), (0xC0, 23, 1, 0xE0), (0xD8, 7, 1, 0xF8),
    (0x100, 24, 2, 0x101), (0x132, 3, 2, 0x133), (0x139, 8, 2, 0x13A), (0x14A, 23, 2, 0x14B),
    (0x178, 1, 1, 0xFF), (0x179, 3, 2, 0x17A), (0x17F, 1, 1, 0x73), (0x181, 1, 1, 0x253),
    (0x182, 2, 2, 0x183), (0x186, 1, 1, 0x254), (0x187, 1, 1, 0x188), (0x189, 2, 1, 0x256),
    (0x18B, 1, 1, 0x18C), (0x18E, 1, 1, 0x1DD), (0x18F, 1, 1, 0x259), (0x190, 1, 1, 0x25B),
    (0x191, 1, 1, 0x192), (0x193, 1, 1, 0x260), (0x194, 1, 1, 0x263), (0x196, 1, 1, 0x269),
    (0x197, 1, 1, 0x268), (0x198, 1, 1, 0x199), (0x19C, 1, 1, 0x26F), (0x19D, 1, 1, 0x272),
    (0x19F, 1, 1, 0x275), (0x1A0, 3, 2, 0x1A1), (0x1A6, 1, 1, 0x280), (0x1A7, 1, 1, 0x1A8),
    (0x1A9, 1, 1, 0x283), (0x1AC, 1, 1, 0x1AD), (0x1AE, 1, 1, 0x288), (0x1AF, 1, 1, 0x1B0),
    (0x1B1, 2, 1, 0x28A), (0x1B3, 2, 2, 0x1B4), (0x1B7, 1, 1, 0x292), (0x1B8, 1, 1, 0x1B9),
    (0x1BC, 1, 1, 0x1BD), (0x1C4, 1, 1, 0x1C6), (0x1C5, 1, 1, 0x1C6), (0x1C7, 1, 1, 0x1C9),
    (0x1C8, 1, 1, 0x1C9), (0x1CA, 1, 1, 0x1CC), (0x1CB, 9, 2, 0x1CC), (0x1DE, 9, 2, 0x1DF),
    (0x1F1, 1, 1, 0x1F3), (0x1F2, 2, 2, 0x1F3), (0x1F6, 1, 1, 0x195), (0x1F7, 1, 1, 0x1BF),
    (0x1F8, 20, 2, 0x1F9), (0x220, 1, 1, 0x19E), (0x222, 9, 2, 0x223), (0x23A, 1, 1, 0x2C65),
    (0x23B, 1, 1, 0x23C), (0x23D, 1, 1, 0x19A), (0x23E, 1, 1, 0x2C66), (0x241, 1, 1, 0x242),
    (0x243, 1, 1, 0x180), (0x244, 1, 1, 0x289), (0x245, 1, 1, 0x28C), (0x246, 5, 2, 0x247),
    (0x345, 1, 1, 0x3B9), (0x370, 2, 2, 0x371), (0x376, 1, 1, 0x377), (0x37F, 1, 1, 0x3F3),
    (0x386, 1, 1, 0x3AC), (0x388, 3, 1, 0x3AD), (0x38C, 1, 1, 0x3CC), (0x38E, 2, 1, 0x3CD),
    (0x391, 17, 1, 0x3B1), (0x3A3, 9, 1, 0x3C3), (0x3C2, 1, 1, 0x3C3), (0x3CF, 1, 1, 0x3D7),
    (0x3D0, 1, 1, 0x3B2), (0x3D1, 1, 1, 0x3B8), (0x3D5, 1, 1, 0x3C6), (0x3D6, 1, 1, 0x3C0),
    (0x3D8, 12, 2, 0x3D9), (0x3F0, 1, 1, 0x3BA), (0x3F1, 1, 1, 0x3C1), (0x3F4, 1, 1, 0x3B8),
    (0x3F5, 1, 1, 0x3B5), (0x3F7, 1, 1, 0x3F8), (0x3F9, 1, 1, 0x3F2), (0x3FA, 1, 1, 0x3FB),
    (0x3FD, 3, 1, 0x37B), (0x400, 16, 1, 0x450), (0x410, 32, 1, 0x430), (0x460, 17, 2, 0x461),
    (0x48A, 27, 2, 0x48B), (0x4C0, 1, 1, 0x4CF), (0x4C1, 7, 2, 0x4C2), (0x4D0, 48, 2, 0x4D1),
    (0x531, 38, 1, 0x561), (0x10A0, 38, 1, 0x2D00), (0x10C7, 1, 1, 0x2D27),
    (0x10CD, 1, 1, 0x2D2D), (0x13F8, 6, 1, 0x13F0), (0x1C80, 1, 1, 0x432), (0x1C81, 1, 1, 0x434),
    (0x1C82, 1, 1, 0x43E), (0x1C83, 2, 1, 0x441), (0x1C85, 1, 1, 0x442), (0x1C86, 1, 1, 0x44A),
    (0x1C87, 1, 1, 0x463), (0x1C88, 1, 1, 0xA64B), (0x1C90, 43, 1, 0x10D0),
    (0x1CBD, 3, 1, 0x10FD), (0x1E00, 75, 2, 0x1E01), (0x1E9B, 1, 1, 0x1E61),
    (0x1E9E, 1, 1, 0xDF), (0x1EA0, 48, 2, 0x1EA1), (0x1F08, 8, 1, 0x1F00),
    (0x1F18, 6, 1, 0x1F10), (0x1F28, 8, 1, 0x1F20), (0x1F38, 8, 1, 0x1F30),
    (0x1F48, 6, 1, 0x1F40), (0x1F59, 4, 2, 0x1F51), (0x1F68, 8, 1, 0x1F60),
    (0x1F88, 8, 1, 0x1F80), (0x1F98, 8, 1, 0x1F90), (0x1FA8, 8, 1, 0x1FA0),
    (0x1FB8, 2, 1, 0x1FB0), (0x1FBA, 2, 1, 0x1F70), (0x1FBC, 1, 1, 0x1FB3),
    (0x1FBE, 1, 1, 0x3B9), (0x1FC8, 4, 1, 0x1F72), (0x1FCC, 1, 1, 0x1FC3),
    (0x1FD8, 2, 1, 0x1FD0), (0x1FDA, 2, 1, 0x1F76), (0x1FE8, 2, 1, 0x1FE0),
    (0x1FEA, 2, 1, 0x1F7A), (0x1FEC, 1, 1, 0x1FE5), (0x1FF8, 2, 1, 0x1F78),
    (0x1FFA, 2, 1, 0x1F7C), (0x1FFC, 1, 1, 0x1FF3), (0x2126, 1, 1, 0x3C9), (0x212A, 1, 1, 0x6B),
    (0x212B, 1, 1, 0xE5), (0x2132, 1, 1, 0x214E), (0x2160, 16, 1, 0x2170),
    (0x2183, 1, 1, 0x2184), (0x24B6, 26, 1, 0x24D0), (0x2C00, 48, 1, 0x2C30),
    (0x2C60, 1, 1, 0x2C61), (0x2C62, 1, 1, 0x26B), (0x2C63, 1, 1, 0x1D7D), (0x2C64, 1, 1, 0x27D),
    (0x2C67, 3, 2, 0x2C68), (0x2C6D, 1, 1, 0x251), (0x2C6E, 1, 1, 0x271), (0x2C6F, 1, 1, 0x250),
    (0x2C70, 1, 1, 0x252), (0x2C72, 1, 1, 0x2C73), (0x2C75, 1, 1, 0x2C76), (0x2C7E, 2, 1, 0x23F),
    (0x2C80, 50, 2, 0x2C81), (0x2CEB, 2, 2, 0x2CEC), (0x2CF2, 1, 1, 0x2CF3),
    (0xA640, 23, 2, 0xA641), (0xA680, 14, 2, 0xA681), (0xA722, 7, 2, 0xA723),
    (0xA732, 31, 2, 0xA733), (0xA779, 2, 2, 0xA77A), (0xA77D, 1, 1, 0x1D79),
    (0xA77E, 5, 2, 0xA77F), (0xA78B, 1, 1, 0xA78C), (0xA78D, 1, 1, 0x265),
    (0xA790, 2, 2, 0xA791), (0xA796, 10, 2, 0xA797), (0xA7AA, 1, 1, 0x266),
    (0xA7AB, 1, 1, 0x25C), (0xA7AC, 1, 1, 0x261), (0xA7AD, 1, 1, 0x26C), (0xA7AE, 1, 1, 0x26A),
    (0xA7B0, 1, 1, 0x29E), (0xA7B1, 1, 1, 0x287), (0xA7B2, 1, 1, 0x29D), (0xA7B3, 1, 1, 0xAB53),
    (0xA7B4, 8, 2, 0xA7B5), (0xA7C4, 1, 1, 0xA794), (0xA7C5, 1, 1, 0x282),
    (0xA7C6, 1, 1, 0x1D8E), (0xA7C7, 2, 2, 0xA7C8), (0xA7D0, 1, 1, 0xA7D1),
    (0xA7D6, 2, 2, 0xA7D7), (0xA7F5, 1, 1, 0xA7F6), (0xAB70, 80, 1, 0x13A0),
    (0xFF21, 26, 1, 0xFF41), (0x10400, 40, 1, 0x10428), (0x104B0, 36, 1, 0x104D8),
    (0x10570, 11, 1, 0x10597), (0x1057C, 15, 1, 0x105A3), (0x1058C, 7, 1, 0x105B3),
    (0x10594, 2, 1, 0x105BB), (0x10C80, 51, 1, 0x10CC0), (0x118A0, 32, 1, 0x118C0),
    (0x16E40, 32, 1, 0x16E60), (0x1E900, 34, 1, 0x1E922)]

/-- The lower case of single characters. -/
def lowerRuns : List CaseRun :=
  [(0x41, 26, 1, 0x61), (0xC0, 23, 1, 0xE0), (0xD8, 7, 1, 0xF8), (0x100, 24, 2, 0x101),
    (0x132, 3, 2, 0x133), (0x139, 8, 2, 0x13A), (0x14A, 23, 2, 0x14B), (0x178, 1, 1, 0xFF),
    (0x179, 3, 2, 0x17A), (0x181, 1, 1, 0x253), (0x182, 2, 2, 0x183), (0x186, 1, 1, 0x254),
    (0x187, 1, 1, 0x188), (0x189, 2, 1, 0x256), (0x18B, 1, 1, 0x18C), (0x18E, 1, 1, 0x1DD),
    (0x18F, 1, 1, 0x259), (0x190, 1, 1, 0x25B), (0x191, 1, 1, 0x192), (0x193, 1, 1, 0x260),
    (0x194, 1, 1, 0x263), (0x196, 1, 1, 0x269), (0x197, 1, 1, 0x268), (0x198, 1, 1, 0x199),
    (0x19C, 1, 1, 0x26F), (0x19D, 1, 1, 0x272), (0x19F, 1, 1, 0x275), (0x1A0, 3, 2, 0x1A1),
    (0x1A6, 1, 1, 0x280), (0x1A7, 1, 1, 0x1A8), (0x1A9, 1, 1, 0x283), (0x1AC, 1, 1, 0x1AD),
    (0x1AE, 1, 1, 0x288), (0x1AF, 1, 1, 0x1B0), (0x1B1, 2, 1, 0x28A), (0x1B3, 2, 2, 0x1B4),
    (0x1B7, 1, 1, 0x292), (0x1B8, 1, 1, 0x1B9), (0x1BC, 1, 1, 0x1BD), (0x1C4, 1, 1, 0x1C6),
    (0x1C5, 1, 1, 0x1C6), (0x1C7, 1, 1, 0x1C9), (0x1C8, 1, 1, 0x1C9), (0x1CA, 1, 1, 0x1CC),
    (0x1CB, 9, 2, 0x1CC), (0x1DE, 9, 2, 0x1DF), (0x1F1, 1, 1, 0x1F3), (0x1F2, 2, 2, 0x1F3),
    (0x1F6, 1, 1, 0x195), (0x1F7, 1, 1, 0x1BF), (0x1F8, 20, 2, 0x1F9), (0x220, 1, 1, 0x19E),
    (0x222, 9, 2, 0x223), (0x23A, 1, 1, 0x2C65), (0x23B, 1, 1, 0x23C), (0x23D, 1, 1, 0x19A),
    (0x23E, 1, 1, 0x2C66), (0x241, 1, 1, 0x242), (0x243, 1, 1, 0x180), (0x244, 1, 1, 0x289),
    (0x245, 1, 1, 0x28C), (0x246, 5, 2, 0x247), (0x370, 2, 2, 0x371), (0x376, 1, 1, 0x377),
    (0x37F, 1, 1, 0x3F3), (0x386, 1, 1, 0x3AC), (0x388, 3, 1, 0x3AD), (0x38C, 1, 1, 0x3CC),
    (0x38E, 2, 1, 0x3CD), (0x391, 17, 1, 0x3B1), (0x3A3, 9, 1, 0x3C3), (0x3CF, 1, 1, 0x3D7),
    (0x3D8, 12, 2, 0x3D9), (0x3F4, 1, 1, 0x3B8), (0x3F7, 1, 1, 0x3F8), (0x3F9, 1, 1, 0x3F2),
    (0x3FA, 1, 1, 0x3FB), (0x3FD, 3, 1, 0x37B), (0x400, 16, 1, 0x450), (0x410, 32, 1, 0x430),
    (0x460, 17, 2, 0x461), (0x48A, 27, 2, 0x48B), (0x4C0, 1, 1, 0x4CF), (0x4C1, 7, 2, 0x4C2),
    (0x4D0, 48, 2, 0x4D1), (0x531, 38, 1, 0x561), (0x10A0, 38, 1, 0x2D00),
    (0x10C7, 1, 1, 0x2D27), (0x10CD, 1, 1, 0x2D2D), (0x13A0, 80, 1, 0xAB70),
    (0x13F0, 6, 1, 0x13F8), (0x1C90, 43, 1, 0x10D0), (0x1CBD, 3, 1, 0x10FD),
    (0x1E00, 75, 2, 0x1E01), (0x1E9E, 1, 1, 0xDF), (0x1EA0, 48, 2, 0x1EA1),
    (0x1F08, 8, 1, 0x1F00), (0x1F18, 6, 1, 0x1F10), (0x1F28, 8, 1, 0x1F20),
    (0x1F38, 8, 1, 0x1F30), (0x1F48, 6, 1, 0x1F40), (0x1F59, 4, 2, 0x1F51),
    (0x1F68, 8, 1, 0x1F60), (0x1F88, 8, 1, 0x1F80), (0x1F98, 8, 1, 0x1F90),
    (0x1FA8, 8, 1, 0x1FA0), (0x1FB8, 2, 1, 0x1FB0), (0x1FBA, 2, 1, 0x1F70),
    (0x1FBC, 1, 1, 0x1FB3), (0x1FC8, 4, 1, 0x1F72), (0x1FCC, 1, 1, 0x1FC3),
    (0x1FD8, 2, 1, 0x1FD0), (0x1FDA, 2, 1, 0x1F76), (0x1FE8, 2, 1, 0x1FE0),
    (0x1FEA, 2, 1, 0x1F7A), (0x1FEC, 1, 1, 0x1FE5), (0x1FF8, 2, 1, 0x1F78),
    (0x1FFA, 2, 1, 0x1F7C), (0x1FFC, 1, 1, 0x1FF3), (0x2126, 1, 1, 0x3C9), (0x212A, 1, 1, 0x6B),
    (0x212B, 1, 1, 0xE5), (0x2132, 1, 1, 0x214E), (0x2160, 16, 1, 0x2170),
    (0x2183, 1, 1, 0x2184), (0x24B6, 26, 1, 0x24D0), (0x2C00, 48, 1, 0x2C30),
    (0x2C60, 1, 1, 0x2C61), (0x2C62, 1, 1, 0x26B), (0x2C63, 1, 1, 0x1D7D), (0x2C64, 1, 1, 0x27D),
    (0x2C67, 3, 2, 0x2C68), (0x2C6D, 1, 1, 0x251), (0x2C6E, 1, 1, 0x271), (0x2C6F, 1, 1, 0x250),
    (0x2C70, 1, 1, 0x252), (0x2C72, 1, 1, 0x2C73), (0x2C75, 1, 1, 0x2C76), (0x2C7E, 2, 1, 0x23F),
    (0x2C80, 50, 2, 0x2C81), (0x2CEB, 2, 2, 0x2CEC), (0x2CF2, 1, 1, 0x2CF3),
    (0xA640, 23, 2, 0xA641), (0xA680, 14, 2, 0xA681), (0xA722, 7, 2, 0xA723),
    (0xA732, 31, 2, 0xA733), (0xA779, 2, 2, 0xA77A), (0xA77D, 1, 1, 0x1D79),
    (0xA77E, 5, 2, 0xA77F), (0xA78B, 1, 1, 0xA78C), (0xA78D, 1, 1, 0x265),
    (0xA790, 2, 2, 0xA791), (0xA796, 10, 2, 0xA797), (0xA7AA, 1, 1, 0x266),
    (0xA7AB, 1, 1, 0x25C), (0xA7AC, 1, 1, 0x261), (0xA7AD, 1, 1, 0x26C), (0xA7AE, 1, 1, 0x26A),
    (0xA7B0, 1, 1, 0x29E), (0xA7B1, 1, 1, 0x287), (0xA7B2, 1, 1, 0x29D), (0xA7B3, 1, 1, 0xAB53),
    (0xA7B4, 8, 2, 0xA7B5), (0xA7C4, 1, 1, 0xA794), (0xA7C5, 1, 1, 0x282),
    (0xA7C6, 1, 1, 0x1D8E), (0xA7C7, 2, 2, 0xA7C8), (0xA7D0, 1, 1, 0xA7D1),
    (0xA7D6, 2, 2, 0xA7D7), (0xA7F5, 1, 1, 0xA7F6), (0xFF21, 26, 1, 0xFF41),
    (0x10400, 40, 1, 0x10428), (0x104B0, 36, 1, 0x104D8), (0x10570, 11, 1, 0x10597),
    (0x1057C, 15, 1, 0x105A3), (0x1058C, 7, 1, 0x105B3), (0x10594, 2, 1, 0x105BB),
    (0x10C80, 51, 1, 0x10CC0), (0x118A0, 32, 1, 0x118C0), (0x16E40, 32, 1, 0x16E60),
    (0x1E900, 34, 1, 0x1E922)]

/-- The target of a code point under the runs of a mapping, itself if there is none. -/
def applyRuns (runs : List CaseRun) (code : Nat) : Nat :=
  match runs.find? fun (first, count, step, _) =>
      first ≤ code && code < first + count * step && (code - first) % step == 0 with
  | some (first, _, _, target) => target + (code - first)
  | none => code

end Stratalog.Text

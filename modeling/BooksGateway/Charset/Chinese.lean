import BooksGateway.Charset.Grid
import BooksGateway.Charset.Grid.Hanzi
import BooksGateway.Charset.Grid.HongKong
import BooksGateway.Charset.Grid.TraditionalHanzi

/-!
# Chinese

The simplified characters come in three forms, each with more characters than the one before: the
first set, all characters of the grid, and every character there is, most of them by four octets.
The traditional characters come in two forms that differ in a few places, and in one with the
characters of Hong Kong. The first set can also be written with octets below 0x80 only.

1. The grids.
2. The first set of simplified characters.
3. Every character.
4. Traditional characters.
5. The characters of Hong Kong.
6. Simplified characters between marks.
-/

namespace BooksGateway.Chinese

/-! ## 1. The grids -/

/-- The grid of simplified characters. -/
def hanzi : Grid where
  leads := [(0x81, 0xFE)]
  spans := [(0x40, 0x7E), (0x80, 0xA0), (0xA1, 0xFE)]
  rows := Grid.hanziRows.toArray

/-- The grid of traditional characters. -/
def traditional : Grid where
  leads := [(0xA1, 0xF9)]
  spans := [(0x40, 0x7E), (0xA1, 0xFE)]
  rows := Grid.traditionalHanziRows.toArray

/-- The number of a pair. -/
def pairNumber (lead trail : Nat) : Nat := 0x100 * lead + trail

/-- The character for a number in runs: characters one after another, with the first number. -/
def inRuns? (runs : List (Nat × String)) (n : Nat) : Option Char :=
  runs.findSome? fun (first, chars) => if first ≤ n then chars.toList[n - first]? else none

/-! ## 2. The first set of simplified characters -/

/-- The parts of the grid that hold the first set: closed ranges of first octets, and of second
    octets. -/
def firstSetParts : List (Nat × Nat × Nat × Nat) := [
  (0xA1, 0xA1, 0xA1, 0xFE), (0xA2, 0xA2, 0xB1, 0xE2), (0xA2, 0xA2, 0xE5, 0xEE),
  (0xA2, 0xA2, 0xF1, 0xFC), (0xA3, 0xA3, 0xA1, 0xFE), (0xA4, 0xA4, 0xA1, 0xF3),
  (0xA5, 0xA5, 0xA1, 0xF6), (0xA6, 0xA6, 0xA1, 0xB8), (0xA6, 0xA6, 0xC1, 0xD8),
  (0xA7, 0xA7, 0xA1, 0xC1), (0xA7, 0xA7, 0xD1, 0xF1), (0xA8, 0xA8, 0xA1, 0xBA),
  (0xA8, 0xA8, 0xC5, 0xE9), (0xA9, 0xA9, 0xA4, 0xEF), (0xB0, 0xD6, 0xA1, 0xFE),
  (0xD7, 0xD7, 0xA1, 0xF9), (0xD8, 0xF7, 0xA1, 0xFE)]

/-- The places at which the first set has a character of its own. -/
def firstSetOwn : List (Nat × String) := [(0xA1A4, "・"), (0xA1AA, "―")]

/-- The character of a pair in the first set. -/
def firstSet? (lead trail : Nat) : Option Char :=
  let isIn := fun (part : Nat × Nat × Nat × Nat) =>
    let (firstLead, lastLead, firstTrail, lastTrail) := part
    firstLead ≤ lead && lead ≤ lastLead && firstTrail ≤ trail && trail ≤ lastTrail
  if firstSetParts.any isIn then
    inRuns? firstSetOwn (pairNumber lead trail) <|> hanzi.charOf? lead trail
  else none

/-! ## 3. Every character -/

/-- Additions to the grid. -/
def additions : List (Nat × String) := [
  (0xA2E3, "€"), (0xA8BF, "ǹ"), (0xA989, "〾⿰⿱⿲⿳⿴⿵⿶⿷⿸⿹⿺⿻"), (0xFE50, "⺁"), (0xFE54, "⺄㑳㑇⺈⺋"),
  (0xFE5A, "㖞㘚㘎⺌⺗㥮㤘"), (0xFE62, "㧏㧟㩳㧐"), (0xFE68, "㭎㱮㳠⺧"), (0xFE6E, "⺪䁖䅟⺮䌷⺳⺶⺷"),
  (0xFE77, "䎱䎬⺻䏝䓖䙡䙌"), (0xFE80, "䜣䜩䝼䞍⻊䥇䥺䥽䦂䦃䦅䦆䦟䦛䦷䦶"), (0xFE92, "䲣䲟䲠䲡䱷䲢䴓䴔䴕䴖䴗䴘䴙䶮")]

/-- Closed ranges of pairs for private use, with the number of the first character. -/
def privatePairs : List (Nat × Nat × Nat) := [
  (0xA2AB, 0xA2B0, 0xE766), (0xA2E4, 0xA2E4, 0xE76D), (0xA2EF, 0xA2F0, 0xE76E),
  (0xA2FD, 0xA2FE, 0xE770), (0xA4F4, 0xA4FE, 0xE772), (0xA5F7, 0xA5FE, 0xE77D),
  (0xA6B9, 0xA6C0, 0xE785), (0xA6D9, 0xA6DF, 0xE78D), (0xA6EC, 0xA6ED, 0xE794),
  (0xA6F3, 0xA6F3, 0xE796), (0xA6F6, 0xA6FE, 0xE797), (0xA7C2, 0xA7D0, 0xE7A0),
  (0xA7F2, 0xA7FE, 0xE7AF), (0xA896, 0xA8A0, 0xE7BC), (0xA8BC, 0xA8BC, 0xE7C7),
  (0xA8C1, 0xA8C4, 0xE7C9), (0xA8EA, 0xA8FE, 0xE7CD), (0xA958, 0xA958, 0xE7E2),
  (0xA95B, 0xA95B, 0xE7E3), (0xA95D, 0xA95F, 0xE7E4), (0xA997, 0xA9A3, 0xE7F4),
  (0xA9F0, 0xA9FE, 0xE801), (0xD7FA, 0xD7FE, 0xE810), (0xFE51, 0xFE53, 0xE816),
  (0xFE59, 0xFE59, 0xE81E), (0xFE61, 0xFE61, 0xE826), (0xFE66, 0xFE67, 0xE82B),
  (0xFE6C, 0xFE6D, 0xE831), (0xFE76, 0xFE76, 0xE83B), (0xFE7E, 0xFE7E, 0xE843),
  (0xFE90, 0xFE91, 0xE854), (0xFEA0, 0xFEA0, 0xE864)]

/-- The number of the character for private use that a pair leads to. Three parts of the grid are
    set apart for them, and so are the places that would be empty. -/
def private? (lead trail : Nat) : Option Nat :=
  if 0xAA ≤ lead && lead ≤ 0xAF && 0xA1 ≤ trail && trail ≤ 0xFE then
    some (0xE000 + 94 * (lead - 0xAA) + (trail - 0xA1))
  else if 0xF8 ≤ lead && lead ≤ 0xFE && 0xA1 ≤ trail && trail ≤ 0xFE then
    some (0xE234 + 94 * (lead - 0xF8) + (trail - 0xA1))
  else if 0xA1 ≤ lead && lead ≤ 0xA7 && 0x40 ≤ trail && trail ≤ 0xA0 && trail != 0x7F then
    some (0xE4C6 + 96 * (lead - 0xA1) + (trail - 0x40) - if 0x7F < trail then 1 else 0)
  else
    let n := pairNumber lead trail
    privatePairs.findSome? fun (first, last, code) =>
      if first ≤ n && n ≤ last then some (code + (n - first)) else none

/-- The character of a pair. -/
def pair? (lead trail : Nat) : Option Char :=
  hanzi.charOf? lead trail <|> inRuns? additions (pairNumber lead trail)
    <|> (private? lead trail).map Char.ofNat

/-- The characters of the first plane that no pair leads to are numbered in order. These are the
    first ones of their runs: the number, and the character. -/
def quadRuns : List (Nat × Nat) := [
  (0, 0x80), (36, 0xA5), (38, 0xA9), (45, 0xB2), (50, 0xB8), (81, 0xD8), (89, 0xE2), (95, 0xEB),
  (96, 0xEE), (100, 0xF4), (103, 0xF8), (104, 0xFB), (105, 0xFD), (109, 0x102), (126, 0x114),
  (133, 0x11C), (148, 0x12C), (172, 0x145), (175, 0x149), (179, 0x14E), (208, 0x16C), (306, 0x1CF),
  (307, 0x1D1), (308, 0x1D3), (309, 0x1D5), (310, 0x1D7), (311, 0x1D9), (312, 0x1DB), (313, 0x1DD),
  (341, 0x1FA), (428, 0x252), (443, 0x262), (544, 0x2C8), (545, 0x2CC), (558, 0x2DA), (741, 0x3A2),
  (742, 0x3AA), (749, 0x3C2), (750, 0x3CA), (805, 0x402), (819, 0x450), (820, 0x452),
  (7922, 0x2011), (7924, 0x2017), (7925, 0x201A), (7927, 0x201E), (7934, 0x2027), (7943, 0x2031),
  (7944, 0x2034), (7945, 0x2036), (7950, 0x203C), (8062, 0x20AD), (8148, 0x2104), (8149, 0x2106),
  (8152, 0x210A), (8164, 0x2117), (8174, 0x2122), (8236, 0x216C), (8240, 0x217A), (8262, 0x2194),
  (8264, 0x219A), (8374, 0x2209), (8380, 0x2210), (8381, 0x2212), (8384, 0x2216), (8388, 0x221B),
  (8390, 0x2221), (8392, 0x2224), (8393, 0x2226), (8394, 0x222C), (8396, 0x222F), (8401, 0x2238),
  (8406, 0x223E), (8416, 0x2249), (8419, 0x224D), (8424, 0x2253), (8437, 0x2262), (8439, 0x2268),
  (8445, 0x2270), (8482, 0x2296), (8485, 0x229A), (8496, 0x22A6), (8521, 0x22C0), (8603, 0x2313),
  (8936, 0x246A), (8946, 0x249C), (9046, 0x254C), (9050, 0x2574), (9063, 0x2590), (9066, 0x2596),
  (9076, 0x25A2), (9092, 0x25B4), (9100, 0x25BE), (9108, 0x25C8), (9111, 0x25CC), (9113, 0x25D0),
  (9131, 0x25E6), (9162, 0x2607), (9164, 0x260A), (9218, 0x2641), (9219, 0x2643), (11329, 0x2E82),
  (11331, 0x2E85), (11334, 0x2E89), (11336, 0x2E8D), (11346, 0x2E98), (11361, 0x2EA8),
  (11363, 0x2EAB), (11366, 0x2EAF), (11370, 0x2EB4), (11372, 0x2EB8), (11375, 0x2EBC),
  (11389, 0x2ECB), (11682, 0x2FFC), (11686, 0x3004), (11687, 0x3018), (11692, 0x301F),
  (11694, 0x302A), (11714, 0x303F), (11716, 0x3094), (11723, 0x309F), (11725, 0x30F7),
  (11730, 0x30FF), (11736, 0x312A), (11982, 0x322A), (11989, 0x3232), (12102, 0x32A4),
  (12336, 0x3390), (12348, 0x339F), (12350, 0x33A2), (12384, 0x33C5), (12393, 0x33CF),
  (12395, 0x33D3), (12397, 0x33D6), (12510, 0x3448), (12553, 0x3474), (12851, 0x359F),
  (12962, 0x360F), (12973, 0x361B), (13738, 0x3919), (13823, 0x396F), (13919, 0x39D1),
  (13933, 0x39E0), (14080, 0x3A74), (14298, 0x3B4F), (14585, 0x3C6F), (14698, 0x3CE1),
  (15583, 0x4057), (15847, 0x4160), (16318, 0x4338), (16434, 0x43AD), (16438, 0x43B2),
  (16481, 0x43DE), (16729, 0x44D7), (17102, 0x464D), (17122, 0x4662), (17315, 0x4724),
  (17320, 0x472A), (17402, 0x477D), (17418, 0x478E), (17859, 0x4948), (17909, 0x497B),
  (17911, 0x497E), (17915, 0x4984), (17916, 0x4987), (17936, 0x499C), (17939, 0x49A0),
  (17961, 0x49B8), (18664, 0x4C78), (18703, 0x4CA4), (18814, 0x4D1A), (18962, 0x4DAF),
  (19043, 0x9FA6), (33469, 0xE76C), (33470, 0xE7C8), (33471, 0xE7E7), (33484, 0xE815),
  (33485, 0xE819), (33490, 0xE81F), (33497, 0xE827), (33501, 0xE82D), (33505, 0xE833),
  (33513, 0xE83C), (33520, 0xE844), (33536, 0xE856), (33550, 0xE865), (37845, 0xF92D),
  (37921, 0xF97A), (37948, 0xF996), (38029, 0xF9E8), (38038, 0xF9F2), (38064, 0xFA10),
  (38065, 0xFA12), (38066, 0xFA15), (38069, 0xFA19), (38075, 0xFA22), (38076, 0xFA25),
  (38078, 0xFA2A), (39108, 0xFE32), (39109, 0xFE45), (39113, 0xFE53), (39114, 0xFE58),
  (39115, 0xFE67), (39116, 0xFE6C), (39265, 0xFF5F), (39394, 0xFFE6)]

/-- How many characters of the first plane no pair leads to. -/
def quadCount : Nat := 39420

/-- The character of the first plane with a number among those that no pair leads to. -/
def quadOf (n : Nat) : Nat :=
  (quadRuns.foldl (fun found (first, code) => if first ≤ n then (first, code) else found) (0, 0))
    |> fun (first, code) => code + (n - first)

/-- The character of four octets. -/
def quad? (a b c d : Nat) : Option Char :=
  if a < 0x81 || 0xFE < a || c < 0x81 || 0xFE < c || d < 0x30 || 0x39 < d then none
  else
    let tail := (b - 0x30) * 1260 + (c - 0x81) * 10 + (d - 0x30)
    let n := (a - 0x81) * 12600 + tail
    if a < 0x85 then if n < quadCount then some (Char.ofNat (quadOf n)) else none
    else if a < 0x90 then none
    else
      let code := 0x10000 + (a - 0x90) * 12600 + tail
      if code ≤ 0x10FFFF then some (Char.ofNat code) else none

/-- The piece at the start of octets. A digit in the second place announces four octets. -/
def piece (octets : List Nat) : List Char × Nat :=
  match octets with
  | a :: b :: rest =>
    if 0x30 ≤ b && b ≤ 0x39 then
      match rest with
      | c :: d :: _ => (quad? a b c d).elim (Octets.damage 1) (Octets.one · 4)
      | _ => Octets.damage octets.length
    else Octets.pairPiece pair? octets
  | _ => Octets.damage octets.length

/-- The reader of every character. -/
def reader : Octets.Reader Unit := .plain (Octets.pieceOr piece)

/-! ## 4. Traditional characters -/

/-- The places at which the smaller form has characters of its own. -/
def traditionalOwn : List (Nat × String) := [
  (0xA145, "•"), (0xA14E, "､"), (0xA1C2, "‾"), (0xA1E3, "∼"), (0xA1F2, "♁☉"), (0xA241, "／＼"),
  (0xA244, "¥"), (0xA246, "¢£")]

/-- The character of a pair in the smaller form, which lacks the last additions and the sign of a
    currency. -/
def smaller? (lead trail : Nat) : Option Char :=
  let n := pairNumber lead trail
  if n = 0xA3E1 || 0xF9D6 ≤ n then none
  else inRuns? traditionalOwn n <|> traditional.charOf? lead trail

/-! ## 5. The characters of Hong Kong -/

/-- The grid of the characters of Hong Kong. -/
def hongKong : Grid where
  leads := [(0x87, 0xA0), (0xC6, 0xC8), (0xF9, 0xFE)]
  spans := [(0x40, 0x7E), (0xA1, 0xFE)]
  rows := Grid.hongKongRows.toArray

/-- The pairs that stand for a letter and a mark above it. -/
def marked : List (Nat × String) := [
  (0x8862, "\u00ca\u0304"), (0x8864, "\u00ca\u030c"), (0x88A3, "\u00ea\u0304"),
  (0x88A5, "\u00ea\u030c")]

/-- Whether a pair is in the part of the grid of traditional characters that is given up for others
    in Hong Kong. -/
def isGivenUp (lead trail : Nat) : Bool :=
  0xC6 ≤ lead && lead ≤ 0xC8 && (0xC7 ≤ lead || 0xA1 ≤ trail)

/-- The characters of a pair in Hong Kong. -/
def hongKongPair? (lead trail : Nat) : Option (List Char) :=
  let common := if isGivenUp lead trail then none else smaller? lead trail
  match common <|> hongKong.charOf? lead trail with
  | some c => some [c]
  | none => (marked.lookup (pairNumber lead trail)).map String.toList

/-- The piece at the start of octets in Hong Kong. -/
def hongKongPiece (octets : List Nat) : List Char × Nat :=
  match octets with
  | a :: b :: _ => (hongKongPair? a b).elim (Octets.damage 1) (·, 2)
  | _ => Octets.damage octets.length

/-- The reader of the characters of Hong Kong. -/
def hongKongReader : Octets.Reader Unit := .plain (Octets.pieceOr hongKongPiece)

/-! ## 6. Simplified characters between marks -/

/-- The octet that begins a mark. -/
def tilde : Nat := '~'.toNat

/-- What a mark means, outside and between the marks for simplified characters: what it stands for,
    and whether it stands before such characters. -/
def markMeaning? (between : Bool) (octet : Nat) : Option (List Char × Bool) :=
  if between then if octet = '\x7d'.toNat then some ([], false) else none
  else if octet = tilde then some (['~'], false)
  else if octet = '\x7b'.toNat then some ([], true)
  else if octet = '\n'.toNat then some ([], false)
  else none

/-- What stands at the start of octets, outside and between marks. -/
def markedPiece (between : Bool) (octets : List Nat) : Octets.Piece Bool :=
  match octets with
  | [] => ⟨[], 0, between⟩
  | a :: rest =>
    if a = tilde then
      match rest with
      | b :: _ =>
        match markMeaning? between b with
        | some (chars, between) => ⟨chars, 2, between⟩
        | none => ⟨[Octets.mark], 1, between⟩
      | [] => ⟨[Octets.mark], 1, between⟩
    else if 0x80 ≤ a then ⟨[Octets.mark], 1, between⟩
    else if between then
      match rest with
      | b :: _ =>
        match firstSet? (a + 0x80) (b + 0x80) with
        | some c => ⟨[c], 2, between⟩
        | none => ⟨[Octets.mark], 1, between⟩
      | [] => ⟨[Octets.mark], 1, between⟩
    else ⟨[Char.ofNat a], 1, between⟩

/-- The reader of simplified characters between marks. -/
def markedReader : Octets.Reader Bool where
  start := false
  next := markedPiece

end BooksGateway.Chinese

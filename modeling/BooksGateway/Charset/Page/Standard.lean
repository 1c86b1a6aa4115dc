import BooksGateway.Charset.CodePage

/-!
# Pages of the standards

Pages with the first 128 characters in their places: the family of the first 256 characters, the
national standards, and their relatives for Cyrillic and Thai.
-/

namespace BooksGateway.CodePage

/-- The pages of the standards. -/
def standardPages : List CodePage := [
  ⟨"ascii", ["646", "ansi_x3.4_1968", "ansi_x3.4_1986", "ansi_x3_4_1968", "cp367", "csascii",
      "ibm367", "iso646_us", "iso_646.irv_1991", "iso_ir_6", "us", "us_ascii"], [],
    [(0x80, 0xFF)]⟩,
  ⟨"latin_1", ["8859", "cp819", "csisolatin1", "ibm819", "iso8859", "iso8859_1", "iso_8859_1",
      "iso_8859_1_1987", "iso_ir_100", "l1", "latin", "latin1"], [], []⟩,
  ⟨"charmap", [], [], []⟩,
  ⟨"iso8859_1", [], [], []⟩,
  ⟨"iso8859_2", ["csisolatin2", "iso_8859_2", "iso_8859_2_1987", "iso_ir_101", "l2", "latin2"],
    [(0xA1, "Ą˘Ł¤ĽŚ§¨ŠŞŤŹ\u00adŽŻ°ą˛ł´ľśˇ¸šşťź˝žżŔÁÂĂÄĹĆÇČÉĘËĚÍÎĎĐŃŇÓÔŐÖ×ŘŮÚŰÜÝŢßŕáâăäĺćçčéęë"),
      (0xEC, "ěíîďđńňóôőö÷řůúűüýţ˙")], []⟩,
  ⟨"iso8859_3", ["csisolatin3", "iso_8859_3", "iso_8859_3_1988", "iso_ir_109", "l3", "latin3"],
    [(0xA1, "Ħ˘"), (0xA6, "Ĥ§¨İŞĞĴ"), (0xAF, "Ż°ħ²³´µĥ·¸ışğĵ"), (0xBF, "ż"), (0xC5, "ĊĈ"),
      (0xD5, "ĠÖ×ĜÙÚÛÜŬŜ"), (0xE5, "ċĉ"), (0xF5, "ġö÷ĝùúûüŭŝ˙")],
    [(0xA5, 0xA5), (0xAE, 0xAE), (0xBE, 0xBE), (0xC3, 0xC3), (0xD0, 0xD0), (0xE3, 0xE3),
      (0xF0, 0xF0)]⟩,
  ⟨"iso8859_4", ["csisolatin4", "iso_8859_4", "iso_8859_4_1988", "iso_ir_110", "l4", "latin4"],
    [(0xA1, "ĄĸŖ¤ĨĻ§¨ŠĒĢŦ\u00adŽ¯°ą˛ŗ´ĩļˇ¸šēģŧŊžŋĀ"), (0xC7, "ĮČÉĘËĖÍÎĪĐŅŌĶÔÕÖ×ØŲÚÛÜŨŪßā"),
      (0xE7, "įčéęëėíîīđņōķôõö÷øųúûüũū˙")], []⟩,
  ⟨"iso8859_5", ["csisolatincyrillic", "cyrillic", "iso_8859_5", "iso_8859_5_1988", "iso_ir_144"],
    [(0xA1, "ЁЂЃЄЅІЇЈЉЊЋЌ\u00adЎЏАБВГДЕЖЗИЙКЛМНОПРСТУФХЦЧШЩЪЫЬЭЮЯабвгдежзийклмнопрстуфхцчшщъы"),
      (0xEC, "ьэюя№ёђѓєѕіїјљњћќ§ўџ")], []⟩,
  ⟨"iso8859_6", ["arabic", "asmo_708", "csisolatinarabic", "ecma_114", "iso_8859_6",
      "iso_8859_6_1987", "iso_ir_127"],
    [(0xAC, "،"), (0xBB, "\u061b"), (0xBF, "\u061f"),
      (0xC1, "\u0621\u0622\u0623\u0624\u0625\u0626\u0627\u0628\u0629\u062a\u062b\u062c\u062d"),
      (0xCE, "\u062e\u062f\u0630\u0631\u0632\u0633\u0634\u0635\u0636\u0637\u0638\u0639\u063a"),
      (0xE0, "\u0640\u0641\u0642\u0643\u0644\u0645\u0646\u0647\u0648\u0649\u064a\u064b\u064c"),
      (0xED, "\u064d\u064e\u064f\u0650\u0651\u0652")],
    [(0xA1, 0xA3), (0xA5, 0xAB), (0xAE, 0xBA), (0xBC, 0xBE), (0xC0, 0xC0), (0xDB, 0xDF),
      (0xF3, 0xFF)]⟩,
  ⟨"iso8859_7", ["csisolatingreek", "ecma_118", "elot_928", "greek", "greek8", "iso_8859_7",
      "iso_8859_7_1987", "iso_ir_126"],
    [(0xA1, "‘’£€₯¦§¨©ͺ"), (0xAF, "―°±²³΄΅Ά·ΈΉΊ»Ό½ΎΏΐΑΒΓΔΕΖΗΘΙΚΛΜΝΞΟΠΡ"),
      (0xD3, "ΣΤΥΦΧΨΩΪΫάέήίΰαβγδεζηθικλμνξοπρςστυφχψωϊϋόύώ")],
    [(0xAE, 0xAE), (0xD2, 0xD2), (0xFF, 0xFF)]⟩,
  ⟨"iso8859_8", ["csisolatinhebrew", "hebrew", "iso_8859_8", "iso_8859_8_1988", "iso_ir_138"],
    [(0xAA, "×"), (0xBA, "÷"),
      (0xDF, "‗\u05d0\u05d1\u05d2\u05d3\u05d4\u05d5\u05d6\u05d7\u05d8\u05d9\u05da\u05db\u05dc"),
      (0xED, "\u05dd\u05de\u05df\u05e0\u05e1\u05e2\u05e3\u05e4\u05e5\u05e6\u05e7\u05e8\u05e9"),
      (0xFA, "\u05ea"), (0xFD, "\u200e\u200f")],
    [(0xA1, 0xA1), (0xBF, 0xDE), (0xFB, 0xFC), (0xFF, 0xFF)]⟩,
  ⟨"iso8859_9", ["csisolatin5", "iso_8859_9", "iso_8859_9_1989", "iso_ir_148", "l5", "latin5"],
    [(0xD0, "Ğ"), (0xDD, "İŞ"), (0xF0, "ğ"), (0xFD, "ış")], []⟩,
  ⟨"iso8859_10", ["csisolatin6", "iso_8859_10", "iso_8859_10_1992", "iso_ir_157", "l6", "latin6"],
    [(0xA1, "ĄĒĢĪĨĶ§ĻĐŠŦŽ\u00adŪŊ°ąēģīĩķ·ļđšŧž―ūŋĀ"), (0xC7, "ĮČÉĘËĖÍÎÏÐŅŌÓÔÕÖŨØŲ"), (0xE0, "ā"),
      (0xE7, "įčéęëėíîïðņōóôõöũøųúûüýþĸ")], []⟩,
  ⟨"iso8859_11", ["iso_8859_11", "iso_8859_11_2001", "thai"],
    [(0xA1, "กขฃคฅฆงจฉชซฌญฎฏฐฑฒณดตถทธนบปผฝพฟภมยรฤลฦวศษสหฬอฮฯะ\u0e31าำ\u0e34\u0e35\u0e36\u0e37"),
      (0xD8, "\u0e38\u0e39\u0e3a"),
      (0xDF, "฿เแโใไๅๆ\u0e47\u0e48\u0e49\u0e4a\u0e4b\u0e4c\u0e4d\u0e4e๏๐๑๒๓๔๕๖๗๘๙๚๛")],
    [(0xDB, 0xDE), (0xFC, 0xFF)]⟩,
  ⟨"iso8859_13", ["iso_8859_13", "l7", "latin7"],
    [(0xA1, "”¢£¤„¦§Ø©Ŗ«¬\u00ad®Æ°±²³“µ¶·ø¹ŗ»¼½¾æĄĮĀĆÄÅĘĒČÉŹĖĢĶĪĻŠŃŅÓŌÕÖ×ŲŁŚŪÜŻŽßąįāćäåęēčéźė"),
      (0xEC, "ģķīļšńņóōõö÷ųłśūüżž’")], []⟩,
  ⟨"iso8859_14", ["iso_8859_14", "iso_8859_14_1998", "iso_celtic", "iso_ir_199", "l8", "latin8"],
    [(0xA1, "Ḃḃ£ĊċḊ§Ẁ©ẂḋỲ\u00ad®ŸḞḟĠġṀṁ¶ṖẁṗẃṠỳẄẅṡ"), (0xD0, "Ŵ"), (0xD7, "Ṫ"), (0xDE, "Ŷ"),
      (0xF0, "ŵ"), (0xF7, "ṫ"), (0xFE, "ŷ")], []⟩,
  ⟨"iso8859_15", ["iso_8859_15", "l9", "latin9"],
    [(0xA4, "€¥Š§š"), (0xB4, "Žµ¶·ž¹º»ŒœŸ")], []⟩,
  ⟨"iso8859_16", ["iso_8859_16", "iso_8859_16_2001", "iso_ir_226", "l10", "latin10"],
    [(0xA1, "ĄąŁ€„Š§š©Ș«Ź\u00adźŻ°±ČłŽ”¶·žčș»ŒœŸżÀÁÂĂÄĆ"), (0xD0, "ĐŃÒÓÔŐÖŚŰÙÚÛÜĘȚßàáâăäć"),
      (0xF0, "đńòóôőöśűùúûüęț")], []⟩,
  ⟨"tis_620", ["iso_ir_166", "tis620", "tis_620_0", "tis_620_2529_0", "tis_620_2529_1"],
    [(0xA1, "กขฃคฅฆงจฉชซฌญฎฏฐฑฒณดตถทธนบปผฝพฟภมยรฤลฦวศษสหฬอฮฯะ\u0e31าำ\u0e34\u0e35\u0e36\u0e37"),
      (0xD8, "\u0e38\u0e39\u0e3a"),
      (0xDF, "฿เแโใไๅๆ\u0e47\u0e48\u0e49\u0e4a\u0e4b\u0e4c\u0e4d\u0e4e๏๐๑๒๓๔๕๖๗๘๙๚๛")],
    [(0xA0, 0xA0), (0xDB, 0xDE), (0xFC, 0xFF)]⟩,
  ⟨"koi8_r", ["cskoi8r"],
    [(0x80, "─│┌┐└┘├┤┬┴┼▀▄█▌▐░▒▓⌠■∙√≈≤≥\u00a0⌡°²·÷═║╒ё╓╔╕╖╗╘╙╚╛╜╝╞╟╠╡Ё╢╣╤╥╦╧╨╩╪╫╬©юабцдефгхий"),
      (0xCB, "клмнопярстужвьызшэщчъЮАБЦДЕФГХИЙКЛМНОПЯРСТУЖВЬЫЗШЭЩЧЪ")], []⟩,
  ⟨"koi8_t", [],
    [(0x80, "қғ‚Ғ„…†‡"), (0x89, "‰ҳ‹ҲҷҶ"), (0x90, "Қ‘’“”•–—"), (0x99, "™"), (0x9B, "›"),
      (0xA1, "ӯӮё¤ӣ"), (0xB3, "Ё"), (0xB5, "Ӣ"), (0xB9, "№"),
      (0xBF, "©юабцдефгхийклмнопярстужвьызшэщчъЮАБЦДЕФГХИЙКЛМНОПЯРСТУЖВЬЫЗШЭЩЧЪ")],
    [(0x88, 0x88), (0x8F, 0x8F), (0x98, 0x98), (0x9A, 0x9A), (0x9C, 0xA0), (0xA8, 0xAA),
      (0xAF, 0xAF), (0xB4, 0xB4), (0xB8, 0xB8), (0xBA, 0xBA), (0xBC, 0xBE)]⟩,
  ⟨"koi8_u", [],
    [(0x80, "─│┌┐└┘├┤┬┴┼▀▄█▌▐░▒▓⌠■∙√≈≤≥\u00a0⌡°²·÷═║╒ёє╔ії╗╘╙╚╛ґ╝╞╟╠╡ЁЄ╣ІЇ╦╧╨╩╪Ґ╬©юабцдефгхий"),
      (0xCB, "клмнопярстужвьызшэщчъЮАБЦДЕФГХИЙКЛМНОПЯРСТУЖВЬЫЗШЭЩЧЪ")], []⟩,
  ⟨"kz1048", ["kz_1048", "rk1048", "strk1048_2002"],
    [(0x80, "ЂЃ‚ѓ„…†‡€‰Љ‹ЊҚҺЏђ‘’“”•–—"),
      (0x99, "™љ›њқһџ\u00a0ҰұӘ¤Ө¦§Ё©Ғ«¬\u00ad®Ү°±Ііөµ¶·ё№ғ»әҢңүАБВГДЕЖЗИЙКЛМНОПРСТУФХЦЧШЩЪЫЬЭЮ"),
      (0xDF, "Яабвгдежзийклмнопрстуфхцчшщъыьэюя")],
    [(0x98, 0x98)]⟩,
  ⟨"ptcp154", ["cp154", "csptcp154", "cyrillic_asian", "pt154"],
    [(0x80, "ҖҒӮғ„…ҶҮҲүҠӢҢҚҺҸҗ‘’“”•–—ҳҷҡӣңқһҹ\u00a0ЎўЈӨҘҰ§Ё©Ә«¬ӯ®Ҝ°ұІіҙө¶·ё№ә»јҪҫҝАБВГДЕЖЗИЙК"),
      (0xCB, "ЛМНОПРСТУФХЦЧШЩЪЫЬЭЮЯабвгдежзийклмнопрстуфхцчшщъыьэюя")], []⟩,
  ⟨"hp_roman8", ["cp1051", "csHPRoman8", "ibm1051", "r8", "roman8"],
    [(0xA1, "ÀÂÈÊËÎÏ´ˋˆ¨˜ÙÛ₤¯Ýý°ÇçÑñ¡¿¤£¥§ƒ¢âêôûáéóúàèòùäëöüÅîØÆåíøæÄìÖÜÉïßÔÁÃãÐðÍÌÓÒÕõŠšÚŸÿÞ"),
      (0xF1, "þ·µ¶¾—¼½ªº«■»±")],
    [(0xFF, 0xFF)]⟩]

end BooksGateway.CodePage

import BooksGateway.Charset.CodePage

/-!
# Pages of windowing systems

Pages with the first 128 characters in their places and punctuation from 0x80 on.
-/

namespace BooksGateway.CodePage

/-- The pages of windowing systems. -/
def windowsPages : List CodePage := [
  ⟨"cp874", [],
    [(0x80, "€"), (0x85, "…"), (0x91, "‘’“”•–—"),
      (0xA1, "กขฃคฅฆงจฉชซฌญฎฏฐฑฒณดตถทธนบปผฝพฟภมยรฤลฦวศษสหฬอฮฯะ\u0e31าำ\u0e34\u0e35\u0e36\u0e37"),
      (0xD8, "\u0e38\u0e39\u0e3a"),
      (0xDF, "฿เแโใไๅๆ\u0e47\u0e48\u0e49\u0e4a\u0e4b\u0e4c\u0e4d\u0e4e๏๐๑๒๓๔๕๖๗๘๙๚๛")],
    [(0x81, 0x84), (0x86, 0x90), (0x98, 0x9F), (0xDB, 0xDE), (0xFC, 0xFF)]⟩,
  ⟨"cp1250", ["1250", "windows_1250"],
    [(0x80, "€"), (0x82, "‚"), (0x84, "„…†‡"), (0x89, "‰Š‹ŚŤŽŹ"), (0x91, "‘’“”•–—"),
      (0x99, "™š›śťžź\u00a0ˇ˘Ł¤Ą¦§¨©Ş«¬\u00ad®Ż°±˛ł´µ¶·¸ąş»Ľ˝ľżŔÁÂĂÄĹĆÇČÉĘËĚÍÎĎĐŃŇÓÔŐÖ×ŘŮÚŰÜÝŢ"),
      (0xDF, "ßŕáâăäĺćçčéęëěíîďđńňóôőö÷řůúűüýţ˙")],
    [(0x81, 0x81), (0x83, 0x83), (0x88, 0x88), (0x90, 0x90), (0x98, 0x98)]⟩,
  ⟨"cp1251", ["1251", "windows_1251"],
    [(0x80, "ЂЃ‚ѓ„…†‡€‰Љ‹ЊЌЋЏђ‘’“”•–—"),
      (0x99, "™љ›њќћџ\u00a0ЎўЈ¤Ґ¦§Ё©Є«¬\u00ad®Ї°±Ііґµ¶·ё№є»јЅѕїАБВГДЕЖЗИЙКЛМНОПРСТУФХЦЧШЩЪЫЬЭЮ"),
      (0xDF, "Яабвгдежзийклмнопрстуфхцчшщъыьэюя")],
    [(0x98, 0x98)]⟩,
  ⟨"cp1252", ["1252", "windows_1252"],
    [(0x80, "€"), (0x82, "‚ƒ„…†‡ˆ‰Š‹Œ"), (0x8E, "Ž"), (0x91, "‘’“”•–—˜™š›œ"), (0x9E, "žŸ")],
    [(0x81, 0x81), (0x8D, 0x8D), (0x8F, 0x90), (0x9D, 0x9D)]⟩,
  ⟨"cp1253", ["1253", "windows_1253"],
    [(0x80, "€"), (0x82, "‚ƒ„…†‡"), (0x89, "‰"), (0x8B, "‹"), (0x91, "‘’“”•–—"), (0x99, "™"),
      (0x9B, "›"), (0xA1, "΅Ά"), (0xAF, "―°±²³΄µ¶·ΈΉΊ»Ό½ΎΏΐΑΒΓΔΕΖΗΘΙΚΛΜΝΞΟΠΡ"),
      (0xD3, "ΣΤΥΦΧΨΩΪΫάέήίΰαβγδεζηθικλμνξοπρςστυφχψωϊϋόύώ")],
    [(0x81, 0x81), (0x88, 0x88), (0x8A, 0x8A), (0x8C, 0x90), (0x98, 0x98), (0x9A, 0x9A),
      (0x9C, 0x9F), (0xAA, 0xAA), (0xD2, 0xD2), (0xFF, 0xFF)]⟩,
  ⟨"cp1254", ["1254", "windows_1254"],
    [(0x80, "€"), (0x82, "‚ƒ„…†‡ˆ‰Š‹Œ"), (0x91, "‘’“”•–—˜™š›œ"), (0x9F, "Ÿ"), (0xD0, "Ğ"),
      (0xDD, "İŞ"), (0xF0, "ğ"), (0xFD, "ış")],
    [(0x81, 0x81), (0x8D, 0x90), (0x9D, 0x9E)]⟩,
  ⟨"cp1255", ["1255", "windows_1255"],
    [(0x80, "€"), (0x82, "‚ƒ„…†‡ˆ‰"), (0x8B, "‹"), (0x91, "‘’“”•–—˜™"), (0x9B, "›"),
      (0xA4, "₪¥¦§¨©×"),
      (0xBA, "÷»¼½¾¿\u05b0\u05b1\u05b2\u05b3\u05b4\u05b5\u05b6\u05b7\u05b8\u05b9"),
      (0xCB, "\u05bb\u05bc\u05bd\u05be\u05bf\u05c0\u05c1\u05c2\u05c3\u05f0\u05f1\u05f2\u05f3"),
      (0xD8, "\u05f4"),
      (0xE0, "\u05d0\u05d1\u05d2\u05d3\u05d4\u05d5\u05d6\u05d7\u05d8\u05d9\u05da\u05db\u05dc"),
      (0xED, "\u05dd\u05de\u05df\u05e0\u05e1\u05e2\u05e3\u05e4\u05e5\u05e6\u05e7\u05e8\u05e9"),
      (0xFA, "\u05ea"), (0xFD, "\u200e\u200f")],
    [(0x81, 0x81), (0x8A, 0x8A), (0x8C, 0x90), (0x9A, 0x9A), (0x9C, 0x9F), (0xCA, 0xCA),
      (0xD9, 0xDF), (0xFB, 0xFC), (0xFF, 0xFF)]⟩,
  ⟨"cp1256", ["1256", "windows_1256"],
    [(0x80, "€\u067e‚ƒ„…†‡ˆ‰\u0679‹Œ\u0686\u0698\u0688\u06af‘’“”•–—\u06a9™\u0691›œ\u200c"),
      (0x9E, "\u200d\u06ba\u00a0،"), (0xAA, "\u06be"),
      (0xBA, "\u061b»¼½¾\u061f\u06c1\u0621\u0622\u0623\u0624\u0625\u0626\u0627\u0628\u0629"),
      (0xCA, "\u062a\u062b\u062c\u062d\u062e\u062f\u0630\u0631\u0632\u0633\u0634\u0635\u0636×"),
      (0xD8, "\u0637\u0638\u0639\u063a\u0640\u0641\u0642\u0643à\u0644â\u0645\u0646\u0647\u0648"),
      (0xE7, "çèéêë\u0649\u064aîï\u064b\u064c\u064d\u064eô\u064f\u0650÷\u0651ù\u0652ûü\u200e"),
      (0xFE, "\u200f\u06d2")], []⟩,
  ⟨"cp1257", ["1257", "windows_1257"],
    [(0x80, "€"), (0x82, "‚"), (0x84, "„…†‡"), (0x89, "‰"), (0x8B, "‹"), (0x8D, "¨ˇ¸"),
      (0x91, "‘’“”•–—"), (0x99, "™"), (0x9B, "›"), (0x9D, "¯˛"), (0xA8, "Ø©Ŗ«¬\u00ad®Æ"),
      (0xB8, "ø¹ŗ»¼½¾æĄĮĀĆÄÅĘĒČÉŹĖĢĶĪĻŠŃŅÓŌÕÖ×ŲŁŚŪÜŻŽßąįāćäåęēčéźėģķīļšńņóōõö÷ųłśūüżž˙")],
    [(0x81, 0x81), (0x83, 0x83), (0x88, 0x88), (0x8A, 0x8A), (0x8C, 0x8C), (0x90, 0x90),
      (0x98, 0x98), (0x9A, 0x9A), (0x9C, 0x9C), (0x9F, 0x9F), (0xA1, 0xA1), (0xA5, 0xA5)]⟩,
  ⟨"cp1258", ["1258", "windows_1258"],
    [(0x80, "€"), (0x82, "‚ƒ„…†‡ˆ‰"), (0x8B, "‹Œ"), (0x91, "‘’“”•–—˜™"), (0x9B, "›œ"), (0x9F, "Ÿ"),
      (0xC3, "Ă"), (0xCC, "\u0300ÍÎÏĐÑ\u0309ÓÔƠ"), (0xDD, "Ư\u0303ßàáâă"),
      (0xEC, "\u0301íîïđñ\u0323óôơ"), (0xFD, "ư₫")],
    [(0x81, 0x81), (0x8A, 0x8A), (0x8D, 0x90), (0x9A, 0x9A), (0x9D, 0x9E)]⟩,
  ⟨"palmos", [],
    [(0x80, "€\u0081‚ƒ„…†‡ˆ‰Š‹Œ♦♣♥♠‘’“”•–—˜™š\u009bœ\u009d\u009eŸ")], []⟩]

end BooksGateway.CodePage

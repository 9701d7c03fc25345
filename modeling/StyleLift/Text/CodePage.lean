import StyleLift.Text.CodePoint

/-! # Character sets of one byte

What the bytes of single-byte character sets stand for. In most of them the first 128 bytes are
ASCII. A name is in plain form: lowercase, with one underscore for whatever parts its words.
-/
namespace StyleLift

/-- The characters of the bytes from `first` on; a byte below it stands for itself. Of the names the
first is the set's own, and the others are its aliases. -/
structure CodePage where
  names : List String
  first : Nat
  upper : String
deriving DecidableEq

namespace CodePage

/-- The character of a byte, if it has one. -/
def character? (page : CodePage) (byte : UInt8) : Option CodePoint :=
  if byte.toNat < page.first then some (CodePoint.ofNat byte.toNat)
  else (page.upper.toList.drop (byte.toNat - page.first)).head?.map .char

/-- Decodes with a replacement character for every byte that stands for nothing. -/
def decode (page : CodePage) (bytes : List UInt8) : Text :=
  bytes.map fun b => (page.character? b).getD .replacement

def all : List CodePage := [
  ⟨["ascii", "646", "ansi_x3.4_1968", "ansi_x3.4_1986", "ansi_x3_4_1968", "cp367", "csascii",
    "ibm367", "iso646_us", "iso_646.irv_1991", "iso_ir_6", "us", "us_ascii"], 128,
    ""⟩,
  ⟨["latin_1", "8859", "cp819", "csisolatin1", "ibm819", "iso8859", "iso8859_1", "iso_8859_1",
    "iso_8859_1_1987", "iso_ir_100", "l1", "latin", "latin1"], 256,
    ""⟩,
  ⟨["charmap"], 256, ""⟩,
  ⟨["iso8859_2", "csisolatin2", "iso_8859_2", "iso_8859_2_1987", "iso_ir_101", "l2", "latin2"], 160,
    "\u00a0Ą˘Ł¤ĽŚ§¨ŠŞŤŹ\u00adŽŻ°ą˛ł´ľś\u02c7¸šşťź˝žżŔÁÂĂÄĹĆÇČÉĘËĚÍÎĎĐŃŇÓÔŐÖ×ŘŮÚŰÜÝŢßŕ" ++
    "áâăäĺćçčéęëěíîďđńňóôőö÷řůúűüýţ˙"⟩,
  ⟨["iso8859_3", "csisolatin3", "iso_8859_3", "iso_8859_3_1988", "iso_ir_109", "l3", "latin3"], 160,
    "\u00a0Ħ˘£¤\ufffdĤ§¨İŞĞĴ\u00ad\ufffdŻ°ħ²³´µĥ·¸ışğĵ½\ufffdżÀÁÂ\ufffdÄĊĈÇÈÉÊËÌÍÎÏ" ++
    "\ufffdÑÒÓÔĠÖ×ĜÙÚÛÜŬŜßàáâ\ufffdäċĉçèéêëìíîï\ufffdñòóôġö÷ĝùúûüŭŝ˙"⟩,
  ⟨["iso8859_4", "csisolatin4", "iso_8859_4", "iso_8859_4_1988", "iso_ir_110", "l4", "latin4"], 160,
    "\u00a0ĄĸŖ¤ĨĻ§¨ŠĒĢŦ\u00adŽ¯°ą˛ŗ´ĩļ\u02c7¸šēģŧŊžŋĀÁÂÃÄÅÆĮČÉĘËĖÍÎĪĐŅŌĶÔÕÖ×ØŲÚÛÜŨŪßā" ++
    "áâãäåæįčéęëėíîīđņōķôõö÷øųúûüũū˙"⟩,
  ⟨["iso8859_5", "csisolatincyrillic", "cyrillic", "iso_8859_5", "iso_8859_5_1988",
    "iso_ir_144"], 160,
    "\u00a0ЁЂЃЄЅІЇЈЉЊЋЌ\u00adЎЏАБВГДЕЖЗИЙКЛМНОПРСТУФХЦЧШЩЪЫЬЭЮЯабвгдежзийклмнопрстуфх" ++
    "цчшщъыьэюя№ёђѓєѕіїјљњћќ§ўџ"⟩,
  ⟨["iso8859_6", "arabic", "asmo_708", "csisolatinarabic", "ecma_114", "iso_8859_6",
    "iso_8859_6_1987", "iso_ir_127"], 160,
    "\u00a0\ufffd\ufffd\ufffd¤\ufffd\ufffd\ufffd\ufffd\ufffd\ufffd\ufffd،\u00ad\ufffd" ++
    "\ufffd\ufffd\ufffd\ufffd\ufffd\ufffd\ufffd\ufffd\ufffd\ufffd\ufffd\ufffd\u061b" ++
    "\ufffd\ufffd\ufffd\u061f\ufffd\u0621\u0622\u0623\u0624\u0625\u0626\u0627\u0628" ++
    "\u0629\u062a\u062b\u062c\u062d\u062e\u062f\u0630\u0631\u0632\u0633\u0634\u0635" ++
    "\u0636\u0637\u0638\u0639\u063a\ufffd\ufffd\ufffd\ufffd\ufffd\u0640\u0641\u0642" ++
    "\u0643\u0644\u0645\u0646\u0647\u0648\u0649\u064a\u064b\u064c\u064d\u064e\u064f" ++
    "\u0650\u0651\u0652\ufffd\ufffd\ufffd\ufffd\ufffd\ufffd\ufffd\ufffd\ufffd\ufffd" ++
    "\ufffd\ufffd\ufffd"⟩,
  ⟨["iso8859_7", "csisolatingreek", "ecma_118", "elot_928", "greek", "greek8", "iso_8859_7",
    "iso_8859_7_1987", "iso_ir_126"], 160,
    "\u00a0‘’£€₯¦§¨©\u037a«¬\u00ad\ufffd―°±²³΄΅Ά·ΈΉΊ»Ό½ΎΏΐΑΒΓΔΕΖΗΘΙΚΛΜΝΞΟΠΡ\ufffdΣΤΥΦ" ++
    "ΧΨΩΪΫάέήίΰαβγδεζηθικλμνξοπρςστυφχψωϊϋόύώ\ufffd"⟩,
  ⟨["iso8859_8", "csisolatinhebrew", "hebrew", "iso_8859_8", "iso_8859_8_1988", "iso_ir_138"], 160,
    "\u00a0\ufffd¢£¤¥¦§¨©×«¬\u00ad®¯°±²³´µ¶·¸¹÷»¼½¾\ufffd\ufffd\ufffd\ufffd\ufffd" ++
    "\ufffd\ufffd\ufffd\ufffd\ufffd\ufffd\ufffd\ufffd\ufffd\ufffd\ufffd\ufffd\ufffd" ++
    "\ufffd\ufffd\ufffd\ufffd\ufffd\ufffd\ufffd\ufffd\ufffd\ufffd\ufffd\ufffd\ufffd" ++
    "\ufffd‗\u05d0\u05d1\u05d2\u05d3\u05d4\u05d5\u05d6\u05d7\u05d8\u05d9\u05da\u05db" ++
    "\u05dc\u05dd\u05de\u05df\u05e0\u05e1\u05e2\u05e3\u05e4\u05e5\u05e6\u05e7\u05e8" ++
    "\u05e9\u05ea\ufffd\ufffd\u200e\u200f\ufffd"⟩,
  ⟨["iso8859_9", "csisolatin5", "iso_8859_9", "iso_8859_9_1989", "iso_ir_148", "l5", "latin5"], 160,
    "\u00a0¡¢£¤¥¦§¨©ª«¬\u00ad®¯°±²³´µ¶·¸¹º»¼½¾¿ÀÁÂÃÄÅÆÇÈÉÊËÌÍÎÏĞÑÒÓÔÕÖ×ØÙÚÛÜİŞßàáâãäå" ++
    "æçèéêëìíîïğñòóôõö÷øùúûüışÿ"⟩,
  ⟨["iso8859_10", "csisolatin6", "iso_8859_10", "iso_8859_10_1992", "iso_ir_157", "l6",
    "latin6"], 160,
    "\u00a0ĄĒĢĪĨĶ§ĻĐŠŦŽ\u00adŪŊ°ąēģīĩķ·ļđšŧž―ūŋĀÁÂÃÄÅÆĮČÉĘËĖÍÎÏÐŅŌÓÔÕÖŨØŲÚÛÜÝÞßāáâãäå" ++
    "æįčéęëėíîïðņōóôõöũøųúûüýþĸ"⟩,
  ⟨["iso8859_11", "iso_8859_11", "iso_8859_11_2001", "thai"], 160,
    "\u00a0กขฃคฅฆงจฉชซฌญฎฏฐฑฒณดตถทธนบปผฝพฟภมยรฤลฦวศษสหฬอฮฯะ\u0e31าำ\u0e34\u0e35\u0e36" ++
    "\u0e37\u0e38\u0e39\u0e3a\ufffd\ufffd\ufffd\ufffd฿เแโใไๅ\u0e46\u0e47\u0e48\u0e49" ++
    "\u0e4a\u0e4b\u0e4c\u0e4d\u0e4e๏๐๑๒๓๔๕๖๗๘๙๚๛\ufffd\ufffd\ufffd\ufffd"⟩,
  ⟨["iso8859_13", "iso_8859_13", "l7", "latin7"], 160,
    "\u00a0”¢£¤„¦§Ø©Ŗ«¬\u00ad®Æ°±²³“µ¶·ø¹ŗ»¼½¾æĄĮĀĆÄÅĘĒČÉŹĖĢĶĪĻŠŃŅÓŌÕÖ×ŲŁŚŪÜŻŽßąįāćäå" ++
    "ęēčéźėģķīļšńņóōõö÷ųłśūüżž’"⟩,
  ⟨["iso8859_14", "iso_8859_14", "iso_8859_14_1998", "iso_celtic", "iso_ir_199", "l8",
    "latin8"], 160,
    "\u00a0Ḃḃ£ĊċḊ§Ẁ©ẂḋỲ\u00ad®ŸḞḟĠġṀṁ¶ṖẁṗẃṠỳẄẅṡÀÁÂÃÄÅÆÇÈÉÊËÌÍÎÏŴÑÒÓÔÕÖṪØÙÚÛÜÝŶßàáâãäå" ++
    "æçèéêëìíîïŵñòóôõöṫøùúûüýŷÿ"⟩,
  ⟨["iso8859_15", "iso_8859_15", "l9", "latin9"], 160,
    "\u00a0¡¢£€¥Š§š©ª«¬\u00ad®¯°±²³Žµ¶·ž¹º»ŒœŸ¿ÀÁÂÃÄÅÆÇÈÉÊËÌÍÎÏÐÑÒÓÔÕÖ×ØÙÚÛÜÝÞßàáâãäå" ++
    "æçèéêëìíîïðñòóôõö÷øùúûüýþÿ"⟩,
  ⟨["iso8859_16", "iso_8859_16", "iso_8859_16_2001", "iso_ir_226", "l10", "latin10"], 160,
    "\u00a0ĄąŁ€„Š§š©Ș«Ź\u00adźŻ°±ČłŽ”¶·žčș»ŒœŸżÀÁÂĂÄĆÆÇÈÉÊËÌÍÎÏĐŃÒÓÔŐÖŚŰÙÚÛÜĘȚßàáâăäć" ++
    "æçèéêëìíîïđńòóôőöśűùúûüęțÿ"⟩,
  ⟨["cp1250", "1250", "windows_1250"], 128,
    "€\ufffd‚\ufffd„…†‡\ufffd‰Š‹ŚŤŽŹ\ufffd‘’“”•–—\ufffd™š›śťžź\u00a0\u02c7˘Ł¤Ą¦§¨©Ş«¬" ++
    "\u00ad®Ż°±˛ł´µ¶·¸ąş»Ľ˝ľżŔÁÂĂÄĹĆÇČÉĘËĚÍÎĎĐŃŇÓÔŐÖ×ŘŮÚŰÜÝŢßŕáâăäĺćçčéęëěíîďđńňóôőö÷" ++
    "řůúűüýţ˙"⟩,
  ⟨["cp1251", "1251", "windows_1251"], 128,
    "ЂЃ‚ѓ„…†‡€‰Љ‹ЊЌЋЏђ‘’“”•–—\ufffd™љ›њќћџ\u00a0ЎўЈ¤Ґ¦§Ё©Є«¬\u00ad®Ї°±Ііґµ¶·ё№є»јЅѕїА" ++
    "БВГДЕЖЗИЙКЛМНОПРСТУФХЦЧШЩЪЫЬЭЮЯабвгдежзийклмнопрстуфхцчшщъыьэюя"⟩,
  ⟨["cp1252", "1252", "windows_1252"], 128,
    "€\ufffd‚ƒ„…†‡\u02c6‰Š‹Œ\ufffdŽ\ufffd\ufffd‘’“”•–—˜™š›œ\ufffdžŸ\u00a0¡¢£¤¥¦§¨©ª«¬" ++
    "\u00ad®¯°±²³´µ¶·¸¹º»¼½¾¿ÀÁÂÃÄÅÆÇÈÉÊËÌÍÎÏÐÑÒÓÔÕÖ×ØÙÚÛÜÝÞßàáâãäåæçèéêëìíîïðñòóôõö÷" ++
    "øùúûüýþÿ"⟩,
  ⟨["cp1253", "1253", "windows_1253"], 128,
    "€\ufffd‚ƒ„…†‡\ufffd‰\ufffd‹\ufffd\ufffd\ufffd\ufffd\ufffd‘’“”•–—\ufffd™\ufffd›" ++
    "\ufffd\ufffd\ufffd\ufffd\u00a0΅Ά£¤¥¦§¨©\ufffd«¬\u00ad®―°±²³΄µ¶·ΈΉΊ»Ό½ΎΏΐΑΒΓΔΕΖΗΘ" ++
    "ΙΚΛΜΝΞΟΠΡ\ufffdΣΤΥΦΧΨΩΪΫάέήίΰαβγδεζηθικλμνξοπρςστυφχψωϊϋόύώ\ufffd"⟩,
  ⟨["cp1254", "1254", "windows_1254"], 128,
    "€\ufffd‚ƒ„…†‡\u02c6‰Š‹Œ\ufffd\ufffd\ufffd\ufffd‘’“”•–—˜™š›œ\ufffd\ufffdŸ\u00a0¡¢" ++
    "£¤¥¦§¨©ª«¬\u00ad®¯°±²³´µ¶·¸¹º»¼½¾¿ÀÁÂÃÄÅÆÇÈÉÊËÌÍÎÏĞÑÒÓÔÕÖ×ØÙÚÛÜİŞßàáâãäåæçèéêëìí" ++
    "îïğñòóôõö÷øùúûüışÿ"⟩,
  ⟨["cp1255", "1255", "windows_1255"], 128,
    "€\ufffd‚ƒ„…†‡\u02c6‰\ufffd‹\ufffd\ufffd\ufffd\ufffd\ufffd‘’“”•–—˜™\ufffd›\ufffd" ++
    "\ufffd\ufffd\ufffd\u00a0¡¢£₪¥¦§¨©×«¬\u00ad®¯°±²³´µ¶·¸¹÷»¼½¾¿\u05b0\u05b1\u05b2" ++
    "\u05b3\u05b4\u05b5\u05b6\u05b7\u05b8\u05b9\ufffd\u05bb\u05bc\u05bd\u05be\u05bf" ++
    "\u05c0\u05c1\u05c2\u05c3\u05f0\u05f1\u05f2\u05f3\u05f4\ufffd\ufffd\ufffd\ufffd" ++
    "\ufffd\ufffd\ufffd\u05d0\u05d1\u05d2\u05d3\u05d4\u05d5\u05d6\u05d7\u05d8\u05d9" ++
    "\u05da\u05db\u05dc\u05dd\u05de\u05df\u05e0\u05e1\u05e2\u05e3\u05e4\u05e5\u05e6" ++
    "\u05e7\u05e8\u05e9\u05ea\ufffd\ufffd\u200e\u200f\ufffd"⟩,
  ⟨["cp1256", "1256", "windows_1256"], 128,
    "€\u067e‚ƒ„…†‡\u02c6‰\u0679‹Œ\u0686\u0698\u0688\u06af‘’“”•–—\u06a9™\u0691›œ\u200c" ++
    "\u200d\u06ba\u00a0،¢£¤¥¦§¨©\u06be«¬\u00ad®¯°±²³´µ¶·¸¹\u061b»¼½¾\u061f\u06c1" ++
    "\u0621\u0622\u0623\u0624\u0625\u0626\u0627\u0628\u0629\u062a\u062b\u062c\u062d" ++
    "\u062e\u062f\u0630\u0631\u0632\u0633\u0634\u0635\u0636×\u0637\u0638\u0639\u063a" ++
    "\u0640\u0641\u0642\u0643à\u0644â\u0645\u0646\u0647\u0648çèéêë\u0649\u064aîï" ++
    "\u064b\u064c\u064d\u064eô\u064f\u0650÷\u0651ù\u0652ûü\u200e\u200f\u06d2"⟩,
  ⟨["cp1257", "1257", "windows_1257"], 128,
    "€\ufffd‚\ufffd„…†‡\ufffd‰\ufffd‹\ufffd¨\u02c7¸\ufffd‘’“”•–—\ufffd™\ufffd›\ufffd¯" ++
    "˛\ufffd\u00a0\ufffd¢£¤\ufffd¦§Ø©Ŗ«¬\u00ad®Æ°±²³´µ¶·ø¹ŗ»¼½¾æĄĮĀĆÄÅĘĒČÉŹĖĢĶĪĻŠŃŅÓŌ" ++
    "ÕÖ×ŲŁŚŪÜŻŽßąįāćäåęēčéźėģķīļšńņóōõö÷ųłśūüżž˙"⟩,
  ⟨["cp1258", "1258", "windows_1258"], 128,
    "€\ufffd‚ƒ„…†‡\u02c6‰\ufffd‹Œ\ufffd\ufffd\ufffd\ufffd‘’“”•–—˜™\ufffd›œ\ufffd" ++
    "\ufffdŸ\u00a0¡¢£¤¥¦§¨©ª«¬\u00ad®¯°±²³´µ¶·¸¹º»¼½¾¿ÀÁÂĂÄÅÆÇÈÉÊË\u0300ÍÎÏĐÑ\u0309ÓÔ" ++
    "ƠÖ×ØÙÚÛÜƯ\u0303ßàáâăäåæçèéêë\u0301íîïđñ\u0323óôơö÷øùúûüư₫ÿ"⟩,
  ⟨["koi8_r", "cskoi8r"], 128,
    "─│┌┐└┘├┤┬┴┼▀▄█▌▐░▒▓⌠■∙√≈≤≥\u00a0⌡°²·÷═║╒ё╓╔╕╖╗╘╙╚╛╜╝╞╟╠╡Ё╢╣╤╥╦╧╨╩╪╫╬©юабцдефгхий" ++
    "клмнопярстужвьызшэщчъЮАБЦДЕФГХИЙКЛМНОПЯРСТУЖВЬЫЗШЭЩЧЪ"⟩,
  ⟨["koi8_u"], 128,
    "─│┌┐└┘├┤┬┴┼▀▄█▌▐░▒▓⌠■∙√≈≤≥\u00a0⌡°²·÷═║╒ёє╔ії╗╘╙╚╛ґ╝╞╟╠╡ЁЄ╣ІЇ╦╧╨╩╪Ґ╬©юабцдефгхий" ++
    "клмнопярстужвьызшэщчъЮАБЦДЕФГХИЙКЛМНОПЯРСТУЖВЬЫЗШЭЩЧЪ"⟩,
  ⟨["cp437", "437", "cspc8codepage437", "ibm437"], 128,
    "ÇüéâäàåçêëèïîìÄÅÉæÆôöòûùÿÖÜ¢£¥₧ƒáíóúñÑªº¿⌐¬½¼¡«»░▒▓│┤╡╢╖╕╣║╗╝╜╛┐└┴┬├─┼╞╟╚╔╩╦╠═╬╧" ++
    "╨╤╥╙╘╒╓╫╪┘┌█▄▌▐▀αßΓπΣσµτΦΘΩδ∞φε∩≡±≥≤⌠⌡÷≈°∙·√\u207f²■\u00a0"⟩,
  ⟨["cp850", "850", "cspc850multilingual", "ibm850"], 128,
    "ÇüéâäàåçêëèïîìÄÅÉæÆôöòûùÿÖÜø£Ø×ƒáíóúñÑªº¿®¬½¼¡«»░▒▓│┤ÁÂÀ©╣║╗╝¢¥┐└┴┬├─┼ãÃ╚╔╩╦╠═╬¤" ++
    "ðÐÊËÈıÍÎÏ┘┌█▄¦Ì▀ÓßÔÒõÕµþÞÚÛÙýÝ¯´\u00ad±‗¾¶§÷¸°¨·¹³²■\u00a0"⟩,
  ⟨["cp866", "866", "csibm866", "ibm866"], 128,
    "АБВГДЕЖЗИЙКЛМНОПРСТУФХЦЧШЩЪЫЬЭЮЯабвгдежзийклмноп░▒▓│┤╡╢╖╕╣║╗╝╜╛┐└┴┬├─┼╞╟╚╔╩╦╠═╬╧" ++
    "╨╤╥╙╘╒╓╫╪┘┌█▄▌▐▀рстуфхцчшщъыьэюяЁёЄєЇїЎў°∙·√№¤■\u00a0"⟩,
  ⟨["mac_roman", "macintosh", "macroman"], 128,
    "ÄÅÇÉÑÖÜáàâäãåçéèêëíìîïñóòôöõúùûü†°¢£§•¶ß®©™´¨≠ÆØ∞±≤≥¥µ∂∑∏π∫ªºΩæø¿¡¬√ƒ≈∆«»…\u00a0" ++
    "ÀÃÕŒœ–—“”‘’÷◊ÿŸ⁄€‹›\ufb01\ufb02‡·‚„‰ÂÊÁËÈÍÎÏÌÓÔ\uf8ffÒÚÛÙı\u02c6˜¯˘˙˚¸˝˛\u02c7"⟩,
  ⟨["cp720"], 130,
    "éâ\u0084à\u0086çêëèïî\u008d\u008e\u008f\u0090\u0651\u0652ô¤\u0640ûù\u0621\u0622" ++
    "\u0623\u0624£\u0625\u0626\u0627\u0628\u0629\u062a\u062b\u062c\u062d\u062e\u062f" ++
    "\u0630\u0631\u0632\u0633\u0634\u0635«»░▒▓│┤╡╢╖╕╣║╗╝╜╛┐└┴┬├─┼╞╟╚╔╩╦╠═╬╧╨╤╥╙╘╒╓╫╪┘" ++
    "┌█▄▌▐▀\u0636\u0637\u0638\u0639\u063a\u0641µ\u0642\u0643\u0644\u0645\u0646\u0647" ++
    "\u0648\u0649\u064a≡\u064b\u064c\u064d\u064e\u064f\u0650≈°∙·√\u207f²■\u00a0"⟩,
  ⟨["cp737"], 128,
    "ΑΒΓΔΕΖΗΘΙΚΛΜΝΞΟΠΡΣΤΥΦΧΨΩαβγδεζηθικλμνξοπρσςτυφχψ░▒▓│┤╡╢╖╕╣║╗╝╜╛┐└┴┬├─┼╞╟╚╔╩╦╠═╬╧" ++
    "╨╤╥╙╘╒╓╫╪┘┌█▄▌▐▀ωάέήϊίόύϋώΆΈΉΊΌΎΏ±≥≤ΪΫ÷≈°∙·√\u207f²■\u00a0"⟩,
  ⟨["cp775", "775", "cspc775baltic", "ibm775"], 128,
    "ĆüéāäģåćłēŖŗīŹÄÅÉæÆōöĢ¢ŚśÖÜø£Ø×¤ĀĪóŻżź”¦©®¬½¼Ł«»░▒▓│┤ĄČĘĖ╣║╗╝ĮŠ┐└┴┬├─┼ŲŪ╚╔╩╦╠═╬Ž" ++
    "ąčęėįšųūž┘┌█▄▌▐▀ÓßŌŃõÕµńĶķĻļņĒŅ’\u00ad±“¾¶§÷„°∙·¹³²■\u00a0"⟩,
  ⟨["cp852", "852", "cspcp852", "ibm852"], 128,
    "ÇüéâäůćçłëŐőîŹÄĆÉĹĺôöĽľŚśÖÜŤťŁ×čáíóúĄąŽžĘę¬źČş«»░▒▓│┤ÁÂĚŞ╣║╗╝Żż┐└┴┬├─┼Ăă╚╔╩╦╠═╬¤" ++
    "đĐĎËďŇÍÎě┘┌█▄ŢŮ▀ÓßÔŃńňŠšŔÚŕŰýÝţ´\u00ad˝˛\u02c7˘§÷¸°¨˙űŘř■\u00a0"⟩,
  ⟨["cp855", "855", "csibm855", "ibm855"], 128,
    "ђЂѓЃёЁєЄѕЅіІїЇјЈљЉњЊћЋќЌўЎџЏюЮъЪаАбБцЦдДеЕфФгГ«»░▒▓│┤хХиИ╣║╗╝йЙ┐└┴┬├─┼кК╚╔╩╦╠═╬¤" ++
    "лЛмМнНоОп┘┌█▄Пя▀ЯрРсСтТуУжЖвВьЬ№\u00adыЫзЗшШэЭщЩчЧ§■\u00a0"⟩,
  ⟨["cp856"], 128,
    "\u05d0\u05d1\u05d2\u05d3\u05d4\u05d5\u05d6\u05d7\u05d8\u05d9\u05da\u05db\u05dc" ++
    "\u05dd\u05de\u05df\u05e0\u05e1\u05e2\u05e3\u05e4\u05e5\u05e6\u05e7\u05e8\u05e9" ++
    "\u05ea\ufffd£\ufffd×\ufffd\ufffd\ufffd\ufffd\ufffd\ufffd\ufffd\ufffd\ufffd\ufffd" ++
    "®¬½¼\ufffd«»░▒▓│┤\ufffd\ufffd\ufffd©╣║╗╝¢¥┐└┴┬├─┼\ufffd\ufffd╚╔╩╦╠═╬¤\ufffd" ++
    "\ufffd\ufffd\ufffd\ufffd\ufffd\ufffd\ufffd\ufffd┘┌█▄¦\ufffd▀\ufffd\ufffd\ufffd" ++
    "\ufffd\ufffd\ufffdµ\ufffd\ufffd\ufffd\ufffd\ufffd\ufffd\ufffd¯´\u00ad±‗¾¶§÷¸°¨·¹" ++
    "³²■\u00a0"⟩,
  ⟨["cp857", "857", "csibm857", "ibm857"], 128,
    "ÇüéâäàåçêëèïîıÄÅÉæÆôöòûùİÖÜø£ØŞşáíóúñÑĞğ¿®¬½¼¡«»░▒▓│┤ÁÂÀ©╣║╗╝¢¥┐└┴┬├─┼ãÃ╚╔╩╦╠═╬¤" ++
    "ºªÊËÈ\ufffdÍÎÏ┘┌█▄¦Ì▀ÓßÔÒõÕµ\ufffd×ÚÛÙìÿ¯´\u00ad±\ufffd¾¶§÷¸°¨·¹³²■\u00a0"⟩,
  ⟨["cp858", "858", "csibm858", "ibm858"], 128,
    "ÇüéâäàåçêëèïîìÄÅÉæÆôöòûùÿÖÜø£Ø×ƒáíóúñÑªº¿®¬½¼¡«»░▒▓│┤ÁÂÀ©╣║╗╝¢¥┐└┴┬├─┼ãÃ╚╔╩╦╠═╬¤" ++
    "ðÐÊËÈ€ÍÎÏ┘┌█▄¦Ì▀ÓßÔÒõÕµþÞÚÛÙýÝ¯´\u00ad±‗¾¶§÷¸°¨·¹³²■\u00a0"⟩,
  ⟨["cp860", "860", "csibm860", "ibm860"], 128,
    "ÇüéâãàÁçêÊèÍÔìÃÂÉÀÈôõòÚùÌÕÜ¢£Ù₧ÓáíóúñÑªº¿Ò¬½¼¡«»░▒▓│┤╡╢╖╕╣║╗╝╜╛┐└┴┬├─┼╞╟╚╔╩╦╠═╬╧" ++
    "╨╤╥╙╘╒╓╫╪┘┌█▄▌▐▀αßΓπΣσµτΦΘΩδ∞φε∩≡±≥≤⌠⌡÷≈°∙·√\u207f²■\u00a0"⟩,
  ⟨["cp861", "861", "cp_is", "csibm861", "ibm861"], 128,
    "ÇüéâäàåçêëèÐðÞÄÅÉæÆôöþûÝýÖÜø£Ø₧ƒáíóúÁÍÓÚ¿⌐¬½¼¡«»░▒▓│┤╡╢╖╕╣║╗╝╜╛┐└┴┬├─┼╞╟╚╔╩╦╠═╬╧" ++
    "╨╤╥╙╘╒╓╫╪┘┌█▄▌▐▀αßΓπΣσµτΦΘΩδ∞φε∩≡±≥≤⌠⌡÷≈°∙·√\u207f²■\u00a0"⟩,
  ⟨["cp862", "862", "cspc862latinhebrew", "ibm862"], 128,
    "\u05d0\u05d1\u05d2\u05d3\u05d4\u05d5\u05d6\u05d7\u05d8\u05d9\u05da\u05db\u05dc" ++
    "\u05dd\u05de\u05df\u05e0\u05e1\u05e2\u05e3\u05e4\u05e5\u05e6\u05e7\u05e8\u05e9" ++
    "\u05ea¢£¥₧ƒáíóúñÑªº¿⌐¬½¼¡«»░▒▓│┤╡╢╖╕╣║╗╝╜╛┐└┴┬├─┼╞╟╚╔╩╦╠═╬╧╨╤╥╙╘╒╓╫╪┘┌█▄▌▐▀αßΓπΣ" ++
    "σµτΦΘΩδ∞φε∩≡±≥≤⌠⌡÷≈°∙·√\u207f²■\u00a0"⟩,
  ⟨["cp863", "863", "csibm863", "ibm863"], 128,
    "ÇüéâÂà¶çêëèïî‗À§ÉÈÊôËÏûù¤ÔÜ¢£ÙÛƒ¦´óú¨¸³¯Î⌐¬½¼¾«»░▒▓│┤╡╢╖╕╣║╗╝╜╛┐└┴┬├─┼╞╟╚╔╩╦╠═╬╧" ++
    "╨╤╥╙╘╒╓╫╪┘┌█▄▌▐▀αßΓπΣσµτΦΘΩδ∞φε∩≡±≥≤⌠⌡÷≈°∙·√\u207f²■\u00a0"⟩,
  ⟨["cp864", "864", "csibm864", "ibm864"], 37,
    "٪&\x27()*+,\x2d.\x2f0123456789:;<=>?@ABCDEFGHIJKLMNOPQRSTUVWXYZ[\x5c]^_\x60abcde" ++
    "fghijklmnopqrstuvwxyz\x7b|\x7d~\x7f°·∙√▒─│┼┤┬├┴┐┌└┘β∞φ±½¼≈«»\ufef7\ufef8\ufffd" ++
    "\ufffd\ufefb\ufefc\ufffd\u00a0\u00ad\ufe82£¤\ufe84\ufffd\ufffd\ufe8e\ufe8f\ufe95" ++
    "\ufe99،\ufe9d\ufea1\ufea5٠١٢٣٤٥٦٧٨٩\ufed1\u061b\ufeb1\ufeb5\ufeb9\u061f¢\ufe80" ++
    "\ufe81\ufe83\ufe85\ufeca\ufe8b\ufe8d\ufe91\ufe93\ufe97\ufe9b\ufe9f\ufea3\ufea7" ++
    "\ufea9\ufeab\ufead\ufeaf\ufeb3\ufeb7\ufebb\ufebf\ufec1\ufec5\ufecb\ufecf¦¬÷×" ++
    "\ufec9\u0640\ufed3\ufed7\ufedb\ufedf\ufee3\ufee7\ufeeb\ufeed\ufeef\ufef3\ufebd" ++
    "\ufecc\ufece\ufecd\ufee1\ufe7d\u0651\ufee5\ufee9\ufeec\ufef0\ufef2\ufed0\ufed5" ++
    "\ufef5\ufef6\ufedd\ufed9\ufef1■\ufffd"⟩,
  ⟨["cp865", "865", "csibm865", "ibm865"], 128,
    "ÇüéâäàåçêëèïîìÄÅÉæÆôöòûùÿÖÜø£Ø₧ƒáíóúñÑªº¿⌐¬½¼¡«¤░▒▓│┤╡╢╖╕╣║╗╝╜╛┐└┴┬├─┼╞╟╚╔╩╦╠═╬╧" ++
    "╨╤╥╙╘╒╓╫╪┘┌█▄▌▐▀αßΓπΣσµτΦΘΩδ∞φε∩≡±≥≤⌠⌡÷≈°∙·√\u207f²■\u00a0"⟩,
  ⟨["cp869", "869", "cp_gr", "csibm869", "ibm869"], 128,
    "\ufffd\ufffd\ufffd\ufffd\ufffd\ufffdΆ\ufffd·¬¦‘’Έ―ΉΊΪΌ\ufffd\ufffdΎΫ©Ώ²³ά£έήίϊΐό" ++
    "ύΑΒΓΔΕΖΗ½ΘΙ«»░▒▓│┤ΚΛΜΝ╣║╗╝ΞΟ┐└┴┬├─┼ΠΡ╚╔╩╦╠═╬ΣΤΥΦΧΨΩαβγ┘┌█▄δε▀ζηθικλμνξοπρσςτ΄" ++
    "\u00ad±υφχ§ψ΅°¨ωϋΰώ■\u00a0"⟩,
  ⟨["cp874"], 128,
    "€\ufffd\ufffd\ufffd\ufffd…\ufffd\ufffd\ufffd\ufffd\ufffd\ufffd\ufffd\ufffd\ufffd" ++
    "\ufffd\ufffd‘’“”•–—\ufffd\ufffd\ufffd\ufffd\ufffd\ufffd\ufffd\ufffd\u00a0กขฃคฅฆง" ++
    "จฉชซฌญฎฏฐฑฒณดตถทธนบปผฝพฟภมยรฤลฦวศษสหฬอฮฯะ\u0e31าำ\u0e34\u0e35\u0e36\u0e37\u0e38" ++
    "\u0e39\u0e3a\ufffd\ufffd\ufffd\ufffd฿เแโใไๅ\u0e46\u0e47\u0e48\u0e49\u0e4a\u0e4b" ++
    "\u0e4c\u0e4d\u0e4e๏๐๑๒๓๔๕๖๗๘๙๚๛\ufffd\ufffd\ufffd\ufffd"⟩,
  ⟨["cp1006"], 161,
    "۰۱۲۳۴۵۶۷۸۹،\u061b\u00ad\u061f\ufe81\ufe8d\ufe8e\ufe8e\ufe8f\ufe91\ufb56\ufb58" ++
    "\ufe93\ufe95\ufe97\ufb66\ufb68\ufe99\ufe9b\ufe9d\ufe9f\ufb7a\ufb7c\ufea1\ufea3" ++
    "\ufea5\ufea7\ufea9\ufb84\ufeab\ufead\ufb8c\ufeaf\ufb8a\ufeb1\ufeb3\ufeb5\ufeb7" ++
    "\ufeb9\ufebb\ufebd\ufebf\ufec1\ufec5\ufec9\ufeca\ufecb\ufecc\ufecd\ufece\ufecf" ++
    "\ufed0\ufed1\ufed3\ufed5\ufed7\ufed9\ufedb\ufb92\ufb94\ufedd\ufedf\ufee0\ufee1" ++
    "\ufee3\ufb9e\ufee5\ufee7\ufe85\ufeed\ufba6\ufba8\ufba9\ufbaa\ufe80\ufe89\ufe8a" ++
    "\ufe8b\ufef1\ufef2\ufef3\ufbb0\ufbae\ufe7c\ufe7d"⟩,
  ⟨["cp1125", "1125", "cp866u", "ibm1125", "ruscii"], 128,
    "АБВГДЕЖЗИЙКЛМНОПРСТУФХЦЧШЩЪЫЬЭЮЯабвгдежзийклмноп░▒▓│┤╡╢╖╕╣║╗╝╜╛┐└┴┬├─┼╞╟╚╔╩╦╠═╬╧" ++
    "╨╤╥╙╘╒╓╫╪┘┌█▄▌▐▀рстуфхцчшщъыьэюяЁёҐґЄєІіЇї·√№¤■\u00a0"⟩,
  ⟨["koi8_t"], 128,
    "қғ‚Ғ„…†‡\ufffd‰ҳ‹ҲҷҶ\ufffdҚ‘’“”•–—\ufffd™\ufffd›\ufffd\ufffd\ufffd\ufffd\ufffdӯӮ" ++
    "ё¤ӣ¦§\ufffd\ufffd\ufffd«¬\u00ad®\ufffd°±²Ё\ufffdӢ¶·\ufffd№\ufffd»\ufffd\ufffd" ++
    "\ufffd©юабцдефгхийклмнопярстужвьызшэщчъЮАБЦДЕФГХИЙКЛМНОПЯРСТУЖВЬЫЗШЭЩЧЪ"⟩,
  ⟨["kz1048", "kz_1048", "rk1048", "strk1048_2002"], 128,
    "ЂЃ‚ѓ„…†‡€‰Љ‹ЊҚҺЏђ‘’“”•–—\ufffd™љ›њқһџ\u00a0ҰұӘ¤Ө¦§Ё©Ғ«¬\u00ad®Ү°±Ііөµ¶·ё№ғ»әҢңүА" ++
    "БВГДЕЖЗИЙКЛМНОПРСТУФХЦЧШЩЪЫЬЭЮЯабвгдежзийклмнопрстуфхцчшщъыьэюя"⟩,
  ⟨["ptcp154", "cp154", "csptcp154", "cyrillic_asian", "pt154"], 128,
    "ҖҒӮғ„…ҶҮҲүҠӢҢҚҺҸҗ‘’“”•–—ҳҷҡӣңқһҹ\u00a0ЎўЈӨҘҰ§Ё©Ә«¬ӯ®Ҝ°ұІіҙө¶·ё№ә»јҪҫҝАБВГДЕЖЗИЙК" ++
    "ЛМНОПРСТУФХЦЧШЩЪЫЬЭЮЯабвгдежзийклмнопрстуфхцчшщъыьэюя"⟩,
  ⟨["tis_620", "iso_ir_166", "tis620", "tis_620_0", "tis_620_2529_0", "tis_620_2529_1"], 160,
    "\ufffdกขฃคฅฆงจฉชซฌญฎฏฐฑฒณดตถทธนบปผฝพฟภมยรฤลฦวศษสหฬอฮฯะ\u0e31าำ\u0e34\u0e35\u0e36" ++
    "\u0e37\u0e38\u0e39\u0e3a\ufffd\ufffd\ufffd\ufffd฿เแโใไๅ\u0e46\u0e47\u0e48\u0e49" ++
    "\u0e4a\u0e4b\u0e4c\u0e4d\u0e4e๏๐๑๒๓๔๕๖๗๘๙๚๛\ufffd\ufffd\ufffd\ufffd"⟩,
  ⟨["hp_roman8", "cp1051", "csHPRoman8", "ibm1051", "r8", "roman8"], 161,
    "ÀÂÈÊËÎÏ´\u02cb\u02c6¨˜ÙÛ₤¯Ýý°ÇçÑñ¡¿¤£¥§ƒ¢âêôûáéóúàèòùäëöüÅîØÆåíøæÄìÖÜÉïßÔÁÃãÐðÍÌ" ++
    "ÓÒÕõŠšÚŸÿÞþ·µ¶¾—¼½ªº«■»±\ufffd"⟩,
  ⟨["palmos"], 128,
    "€\u0081‚ƒ„…†‡\u02c6‰Š‹Œ♦♣♥♠‘’“”•–—˜™š\u009bœ\u009d\u009eŸ\u00a0¡¢£¤¥¦§¨©ª«¬" ++
    "\u00ad®¯°±²³´µ¶·¸¹º»¼½¾¿ÀÁÂÃÄÅÆÇÈÉÊËÌÍÎÏÐÑÒÓÔÕÖ×ØÙÚÛÜÝÞßàáâãäåæçèéêëìíîïðñòóôõö÷" ++
    "øùúûüýþÿ"⟩,
  ⟨["mac_arabic"], 128,
    "Ä\u00a0ÇÉÑÖÜáàâä\u06ba«çéèêëí…îïñó»ôö÷úùûü !\x22#$٪&\x27()*+،\x2d.\x2f٠١٢٣٤٥٦٧٨٩" ++
    ":\u061b<=>\u061f❊\u0621\u0622\u0623\u0624\u0625\u0626\u0627\u0628\u0629\u062a" ++
    "\u062b\u062c\u062d\u062e\u062f\u0630\u0631\u0632\u0633\u0634\u0635\u0636\u0637" ++
    "\u0638\u0639\u063a[\x5c]^_\u0640\u0641\u0642\u0643\u0644\u0645\u0646\u0647\u0648" ++
    "\u0649\u064a\u064b\u064c\u064d\u064e\u064f\u0650\u0651\u0652\u067e\u0679\u0686" ++
    "\u06d5\u06a4\u06af\u0688\u0691\x7b|\x7d\u0698\u06d2"⟩,
  ⟨["mac_croatian"], 128,
    "ÄÅÇÉÑÖÜáàâäãåçéèêëíìîïñóòôöõúùûü†°¢£§•¶ß®Š™´¨≠ŽØ∞±≤≥∆µ∂∑∏š∫ªºΩžø¿¡¬√ƒ≈Ć«Č…\u00a0" ++
    "ÀÃÕŒœĐ—“”‘’÷◊\uf8ff©⁄€‹›Æ»–·‚„‰ÂćÁčÈÍÎÏÌÓÔđÒÚÛÙı\u02c6˜¯πË˚¸Êæ\u02c7"⟩,
  ⟨["mac_cyrillic", "maccyrillic"], 128,
    "АБВГДЕЖЗИЙКЛМНОПРСТУФХЦЧШЩЪЫЬЭЮЯ†°Ґ£§•¶І®©™Ђђ≠Ѓѓ∞±≤≥іµґЈЄєЇїЉљЊњјЅ¬√ƒ≈∆«»…\u00a0" ++
    "ЋћЌќѕ–—“”‘’÷„ЎўЏџ№Ёёяабвгдежзийклмнопрстуфхцчшщъыьэю€"⟩,
  ⟨["mac_farsi"], 128,
    "Ä\u00a0ÇÉÑÖÜáàâä\u06ba«çéèêëí…îïñó»ôö÷úùûü !\x22#$٪&\x27()*+،\x2d.\x2f۰۱۲۳۴۵۶۷۸۹" ++
    ":\u061b<=>\u061f❊\u0621\u0622\u0623\u0624\u0625\u0626\u0627\u0628\u0629\u062a" ++
    "\u062b\u062c\u062d\u062e\u062f\u0630\u0631\u0632\u0633\u0634\u0635\u0636\u0637" ++
    "\u0638\u0639\u063a[\x5c]^_\u0640\u0641\u0642\u0643\u0644\u0645\u0646\u0647\u0648" ++
    "\u0649\u064a\u064b\u064c\u064d\u064e\u064f\u0650\u0651\u0652\u067e\u0679\u0686" ++
    "\u06d5\u06a4\u06af\u0688\u0691\x7b|\x7d\u0698\u06d2"⟩,
  ⟨["mac_greek", "macgreek"], 128,
    "Ä¹²É³ÖÜ΅àâä΄¨çéèêë£™îï•½‰ôö¦€ùûü†ΓΔΘΛΞΠß®©ΣΪ§≠°·Α±≤≥¥ΒΕΖΗΙΚΜΦΫΨΩάΝ¬ΟΡ≈Τ«»…\u00a0" ++
    "ΥΧΆΈœ–―“”‘’÷ΉΊΌΎέήίόΏύαβψδεφγηιξκλμνοπώρστθωςχυζϊϋΐΰ\u00ad"⟩,
  ⟨["mac_iceland", "maciceland"], 128,
    "ÄÅÇÉÑÖÜáàâäãåçéèêëíìîïñóòôöõúùûüÝ°¢£§•¶ß®©™´¨≠ÆØ∞±≤≥¥µ∂∑∏π∫ªºΩæø¿¡¬√ƒ≈∆«»…\u00a0" ++
    "ÀÃÕŒœ–—“”‘’÷◊ÿŸ⁄€ÐðÞþý·‚„‰ÂÊÁËÈÍÎÏÌÓÔ\uf8ffÒÚÛÙı\u02c6˜¯˘˙˚¸˝˛\u02c7"⟩,
  ⟨["mac_latin2", "mac_centeuro", "maccentraleurope", "maclatin2"], 128,
    "ÄĀāÉĄÖÜáąČäčĆćéŹźĎíďĒēĖóėôöõúĚěü†°Ę£§•¶ß®©™ę¨≠ģĮįĪ≤≥īĶ∂∑łĻļĽľĹĺŅņŃ¬√ńŇ∆«»…\u00a0" ++
    "ňŐÕőŌ–—“”‘’÷◊ōŔŕŘ‹›řŖŗŠ‚„šŚśÁŤťÍŽžŪÓÔūŮÚůŰűŲųÝýķŻŁżĢ\u02c7"⟩,
  ⟨["mac_romanian"], 128,
    "ÄÅÇÉÑÖÜáàâäãåçéèêëíìîïñóòôöõúùûü†°¢£§•¶ß®©™´¨≠ĂȘ∞±≤≥¥µ∂∑∏π∫ªºΩăș¿¡¬√ƒ≈∆«»…\u00a0" ++
    "ÀÃÕŒœ–—“”‘’÷◊ÿŸ⁄€‹›Țț‡·‚„‰ÂÊÁËÈÍÎÏÌÓÔ\uf8ffÒÚÛÙı\u02c6˜¯˘˙˚¸˝˛\u02c7"⟩,
  ⟨["mac_turkish", "macturkish"], 128,
    "ÄÅÇÉÑÖÜáàâäãåçéèêëíìîïñóòôöõúùûü†°¢£§•¶ß®©™´¨≠ÆØ∞±≤≥¥µ∂∑∏π∫ªºΩæø¿¡¬√ƒ≈∆«»…\u00a0" ++
    "ÀÃÕŒœ–—“”‘’÷◊ÿŸĞğİıŞş‡·‚„‰ÂÊÁËÈÍÎÏÌÓÔ\uf8ffÒÚÛÙ\uf8a0\u02c6˜¯˘˙˚¸˝˛\u02c7"⟩,
  ⟨["cp037", "037", "csibm037", "ebcdic_cp_ca", "ebcdic_cp_nl", "ebcdic_cp_us", "ebcdic_cp_wt",
    "ibm037", "ibm039"], 4,
    "\u009c\x09\u0086\x7f\u0097\u008d\u008e\x0b\x0c\x0d\x0e\x0f\x10\x11\x12\x13\u009d" ++
    "\u0085\x08\u0087\x18\x19\u0092\u008f\x1c\x1d\x1e\x1f\u0080\u0081\u0082\u0083" ++
    "\u0084\x0a\x17\x1b\u0088\u0089\u008a\u008b\u008c\x05\x06\x07\u0090\u0091\x16" ++
    "\u0093\u0094\u0095\u0096\x04\u0098\u0099\u009a\u009b\x14\x15\u009e\x1a \u00a0âäà" ++
    "áãåçñ¢.<(+|&éêëèíîïìß!$*);¬\x2d\x2fÂÄÀÁÃÅÇÑ¦,%_>?øÉÊËÈÍÎÏÌ\x60:#@\x27=\x22Øabcde" ++
    "fghi«»ðýþ±°jklmnopqrªºæ¸Æ¤µ~stuvwxyz¡¿ÐÝÞ®^£¥·©§¶¼½¾[]¯¨´×\x7bABCDEFGHI\u00adôöò" ++
    "óõ\x7dJKLMNOPQR¹ûüùúÿ\x5c÷STUVWXYZ²ÔÖÒÓÕ0123456789³ÛÜÙÚ\u009f"⟩,
  ⟨["cp273", "273", "csibm273", "ibm273"], 4,
    "\u009c\x09\u0086\x7f\u0097\u008d\u008e\x0b\x0c\x0d\x0e\x0f\x10\x11\x12\x13\u009d" ++
    "\u0085\x08\u0087\x18\x19\u0092\u008f\x1c\x1d\x1e\x1f\u0080\u0081\u0082\u0083" ++
    "\u0084\x0a\x17\x1b\u0088\u0089\u008a\u008b\u008c\x05\x06\x07\u0090\u0091\x16" ++
    "\u0093\u0094\u0095\u0096\x04\u0098\u0099\u009a\u009b\x14\x15\u009e\x1a \u00a0â" ++
    "\x7bàáãåçñÄ.<(+!&éêëèíîïì~Ü$*);^\x2d\x2fÂ[ÀÁÃÅÇÑö,%_>?øÉÊËÈÍÎÏÌ\x60:#§\x27=\x22Ø" ++
    "abcdefghi«»ðýþ±°jklmnopqrªºæ¸Æ¤µßstuvwxyz¡¿ÐÝÞ®¢£¥·©@¶¼½¾¬|‾¨´×äABCDEFGHI\u00adô" ++
    "¦òóõüJKLMNOPQR¹û\x7dùúÿÖ÷STUVWXYZ²Ô\x5cÒÓÕ0123456789³Û]ÙÚ\u009f"⟩,
  ⟨["cp424", "424", "csibm424", "ebcdic_cp_he", "ibm424"], 4,
    "\u009c\x09\u0086\x7f\u0097\u008d\u008e\x0b\x0c\x0d\x0e\x0f\x10\x11\x12\x13\u009d" ++
    "\u0085\x08\u0087\x18\x19\u0092\u008f\x1c\x1d\x1e\x1f\u0080\u0081\u0082\u0083" ++
    "\u0084\x0a\x17\x1b\u0088\u0089\u008a\u008b\u008c\x05\x06\x07\u0090\u0091\x16" ++
    "\u0093\u0094\u0095\u0096\x04\u0098\u0099\u009a\u009b\x14\x15\u009e\x1a \u05d0" ++
    "\u05d1\u05d2\u05d3\u05d4\u05d5\u05d6\u05d7\u05d8¢.<(+|&\u05d9\u05da\u05db\u05dc" ++
    "\u05dd\u05de\u05df\u05e0\u05e1!$*);¬\x2d\x2f\u05e2\u05e3\u05e4\u05e5\u05e6\u05e7" ++
    "\u05e8\u05e9¦,%_>?\ufffd\u05ea\ufffd\ufffd\u00a0\ufffd\ufffd\ufffd‗\x60:#@\x27=" ++
    "\x22\ufffdabcdefghi«»\ufffd\ufffd\ufffd±°jklmnopqr\ufffd\ufffd\ufffd¸\ufffd¤µ~st" ++
    "uvwxyz\ufffd\ufffd\ufffd\ufffd\ufffd®^£¥·©§¶¼½¾[]¯¨´×\x7bABCDEFGHI\u00ad\ufffd" ++
    "\ufffd\ufffd\ufffd\ufffd\x7dJKLMNOPQR¹\ufffd\ufffd\ufffd\ufffd\ufffd\x5c÷STUVWXY" ++
    "Z²\ufffd\ufffd\ufffd\ufffd\ufffd0123456789³\ufffd\ufffd\ufffd\ufffd\u009f"⟩,
  ⟨["cp500", "500", "csibm500", "ebcdic_cp_be", "ebcdic_cp_ch", "ibm500"], 4,
    "\u009c\x09\u0086\x7f\u0097\u008d\u008e\x0b\x0c\x0d\x0e\x0f\x10\x11\x12\x13\u009d" ++
    "\u0085\x08\u0087\x18\x19\u0092\u008f\x1c\x1d\x1e\x1f\u0080\u0081\u0082\u0083" ++
    "\u0084\x0a\x17\x1b\u0088\u0089\u008a\u008b\u008c\x05\x06\x07\u0090\u0091\x16" ++
    "\u0093\u0094\u0095\u0096\x04\u0098\u0099\u009a\u009b\x14\x15\u009e\x1a \u00a0âäà" ++
    "áãåçñ[.<(+!&éêëèíîïìß]$*);^\x2d\x2fÂÄÀÁÃÅÇÑ¦,%_>?øÉÊËÈÍÎÏÌ\x60:#@\x27=\x22Øabcde" ++
    "fghi«»ðýþ±°jklmnopqrªºæ¸Æ¤µ~stuvwxyz¡¿ÐÝÞ®¢£¥·©§¶¼½¾¬|¯¨´×\x7bABCDEFGHI\u00adôöò" ++
    "óõ\x7dJKLMNOPQR¹ûüùúÿ\x5c÷STUVWXYZ²ÔÖÒÓÕ0123456789³ÛÜÙÚ\u009f"⟩,
  ⟨["cp875"], 4,
    "\u009c\x09\u0086\x7f\u0097\u008d\u008e\x0b\x0c\x0d\x0e\x0f\x10\x11\x12\x13\u009d" ++
    "\u0085\x08\u0087\x18\x19\u0092\u008f\x1c\x1d\x1e\x1f\u0080\u0081\u0082\u0083" ++
    "\u0084\x0a\x17\x1b\u0088\u0089\u008a\u008b\u008c\x05\x06\x07\u0090\u0091\x16" ++
    "\u0093\u0094\u0095\u0096\x04\u0098\u0099\u009a\u009b\x14\x15\u009e\x1a ΑΒΓΔΕΖΗΘΙ" ++
    "[.<(+!&ΚΛΜΝΞΟΠΡΣ]$*);^\x2d\x2fΤΥΦΧΨΩΪΫ|,%_>?¨ΆΈΉ\u00a0ΊΌΎΏ\x60:#@\x27=\x22΅abcde" ++
    "fghiαβγδεζ°jklmnopqrηθικλμ´~stuvwxyzνξοπρσ£άέήϊίόύϋώςτυφχψ\x7bABCDEFGHI\u00adωΐΰ" ++
    "‘―\x7dJKLMNOPQR±½\x1a·’¦\x5c\x1aSTUVWXYZ²§\x1a\x1a«¬0123456789³©\x1a\x1a»\u009f"⟩,
  ⟨["cp1026", "1026", "csibm1026", "ibm1026"], 4,
    "\u009c\x09\u0086\x7f\u0097\u008d\u008e\x0b\x0c\x0d\x0e\x0f\x10\x11\x12\x13\u009d" ++
    "\u0085\x08\u0087\x18\x19\u0092\u008f\x1c\x1d\x1e\x1f\u0080\u0081\u0082\u0083" ++
    "\u0084\x0a\x17\x1b\u0088\u0089\u008a\u008b\u008c\x05\x06\x07\u0090\u0091\x16" ++
    "\u0093\u0094\u0095\u0096\x04\u0098\u0099\u009a\u009b\x14\x15\u009e\x1a \u00a0âäà" ++
    "áãå\x7bñÇ.<(+!&éêëèíîïìßĞİ*);^\x2d\x2fÂÄÀÁÃÅ[Ñş,%_>?øÉÊËÈÍÎÏÌı:ÖŞ\x27=ÜØabcdefgh" ++
    "i«»\x7d\x60¦±°jklmnopqrªºæ¸Æ¤µöstuvwxyz¡¿]$@®¢£¥·©§¶¼½¾¬|¯¨´×çABCDEFGHI\u00adô~ò" ++
    "óõğJKLMNOPQR¹û\x5cùúÿü÷STUVWXYZ²Ô#ÒÓÕ0123456789³Û\x22ÙÚ\u009f"⟩,
  ⟨["cp1140", "1140", "ibm1140"], 4,
    "\u009c\x09\u0086\x7f\u0097\u008d\u008e\x0b\x0c\x0d\x0e\x0f\x10\x11\x12\x13\u009d" ++
    "\u0085\x08\u0087\x18\x19\u0092\u008f\x1c\x1d\x1e\x1f\u0080\u0081\u0082\u0083" ++
    "\u0084\x0a\x17\x1b\u0088\u0089\u008a\u008b\u008c\x05\x06\x07\u0090\u0091\x16" ++
    "\u0093\u0094\u0095\u0096\x04\u0098\u0099\u009a\u009b\x14\x15\u009e\x1a \u00a0âäà" ++
    "áãåçñ¢.<(+|&éêëèíîïìß!$*);¬\x2d\x2fÂÄÀÁÃÅÇÑ¦,%_>?øÉÊËÈÍÎÏÌ\x60:#@\x27=\x22Øabcde" ++
    "fghi«»ðýþ±°jklmnopqrªºæ¸Æ€µ~stuvwxyz¡¿ÐÝÞ®^£¥·©§¶¼½¾[]¯¨´×\x7bABCDEFGHI\u00adôöò" ++
    "óõ\x7dJKLMNOPQR¹ûüùúÿ\x5c÷STUVWXYZ²ÔÖÒÓÕ0123456789³ÛÜÙÚ\u009f"⟩]

end CodePage
end StyleLift

/-!
# Sets of single bytes

In these sets each byte is a character. The first half of the bytes are the basic characters in all
of them; a set is given by the characters of the other half.
-/

namespace NodeTelemetry.Text.Charset

/-- A set of single bytes. -/
inductive SingleByte where
  /-- Cyrillic letters with lines and boxes. -/
  | ibm866
  /-- Latin letters of Central Europe. -/
  | latin2
  /-- Latin letters of Southern Europe. -/
  | latin3
  /-- Latin letters of Northern Europe. -/
  | latin4
  /-- Cyrillic letters, by the international standard. -/
  | isoCyrillic
  /-- Arabic letters, by the international standard. -/
  | isoArabic
  /-- Greek letters, by the international standard. -/
  | isoGreek
  /-- Hebrew letters, by the international standard. -/
  | isoHebrew
  /-- Latin letters of the Nordic languages. -/
  | latin6
  /-- Latin letters of the Baltic languages. -/
  | latin7
  /-- Latin letters of the Celtic languages. -/
  | latin8
  /-- Latin letters of Western Europe with the euro sign. -/
  | latin9
  /-- Latin letters of South-Eastern Europe. -/
  | latin10
  /-- Cyrillic letters in the order of the Latin ones, for Russian. -/
  | koi8Russian
  /-- Cyrillic letters in the order of the Latin ones, for Ukrainian. -/
  | koi8Ukrainian
  /-- Latin letters with typographic signs. -/
  | macRoman
  /-- Cyrillic letters with typographic signs. -/
  | macCyrillic
  /-- Thai letters. -/
  | thai
  /-- Latin letters of Central Europe with typographic quotes. -/
  | centralEuropean
  /-- Cyrillic letters with typographic quotes. -/
  | cyrillic
  /-- Latin letters of Western Europe with typographic quotes. -/
  | western
  /-- Greek letters with typographic quotes. -/
  | greek
  /-- Latin letters of Turkish and Western Europe with typographic quotes. -/
  | turkish
  /-- Hebrew letters with typographic quotes. -/
  | hebrew
  /-- Arabic letters with typographic quotes. -/
  | arabic
  /-- Latin letters of the Baltic languages with typographic quotes. -/
  | baltic
  /-- Latin letters of Vietnamese with typographic quotes. -/
  | vietnamese
  deriving DecidableEq, Repr

namespace SingleByte

/-- The control characters that some sets have first. -/
def controls : String := String.ofList ((List.range 32).map fun k => Char.ofNat (0x80 + k))

/-- The characters of the bytes from 80 on. U+FFFD marks bytes that are none. -/
def high : SingleByte → String
  | ibm866 =>
    "АБВГДЕЖЗИЙКЛМНОПРСТУФХЦЧШЩЪЫЬЭЮЯабвгдежзийклмноп░▒▓│┤╡╢╖╕╣║╗╝╜╛┐└┴┬├─┼╞╟╚╔╩╦╠═╬╧" ++
      "╨╤╥╙╘╒╓╫╪┘┌█▄▌▐▀рстуфхцчшщъыьэюяЁёЄєЇїЎў°∙·√№¤■\u00a0"
  | latin2 =>
    controls ++
      "\u00a0Ą˘Ł¤ĽŚ§¨ŠŞŤŹ\u00adŽŻ°ą˛ł´ľśˇ¸šşťź˝žżŔÁÂĂÄĹĆÇČÉĘËĚÍÎĎĐŃŇÓÔŐÖ×ŘŮÚŰÜÝŢßŕáâăäĺ" ++
      "ćçčéęëěíîďđńňóôőö÷řůúűüýţ˙"
  | latin3 =>
    controls ++
      "\u00a0Ħ˘£¤\ufffdĤ§¨İŞĞĴ\u00ad\ufffdŻ°ħ²³´µĥ·¸ışğĵ½\ufffdżÀÁÂ\ufffdÄĊĈÇÈÉÊËÌÍÎÏ" ++
      "\ufffdÑÒÓÔĠÖ×ĜÙÚÛÜŬŜßàáâ\ufffdäċĉçèéêëìíîï\ufffdñòóôġö÷ĝùúûüŭŝ˙"
  | latin4 =>
    controls ++
      "\u00a0ĄĸŖ¤ĨĻ§¨ŠĒĢŦ\u00adŽ¯°ą˛ŗ´ĩļˇ¸šēģŧŊžŋĀÁÂÃÄÅÆĮČÉĘËĖÍÎĪĐŅŌĶÔÕÖ×ØŲÚÛÜŨŪßāáâãäå" ++
      "æįčéęëėíîīđņōķôõö÷øųúûüũū˙"
  | isoCyrillic =>
    controls ++
      "\u00a0ЁЂЃЄЅІЇЈЉЊЋЌ\u00adЎЏАБВГДЕЖЗИЙКЛМНОПРСТУФХЦЧШЩЪЫЬЭЮЯабвгдежзийклмнопрстуфх" ++
      "цчшщъыьэюя№ёђѓєѕіїјљњћќ§ўџ"
  | isoArabic =>
    controls ++
      "\u00a0\ufffd\ufffd\ufffd¤\ufffd\ufffd\ufffd\ufffd\ufffd\ufffd\ufffd،\u00ad\ufffd" ++
      "\ufffd\ufffd\ufffd\ufffd\ufffd\ufffd\ufffd\ufffd\ufffd\ufffd\ufffd\ufffd؛\ufffd" ++
      "\ufffd\ufffd؟\ufffdءآأؤإئابةتثجحخدذرزسشصضطظعغ\ufffd\ufffd\ufffd\ufffd\ufffdـفقكل" ++
      "منهوىي\u064b\u064c\u064d\u064e\u064f\u0650\u0651\u0652\ufffd\ufffd\ufffd\ufffd" ++
      "\ufffd\ufffd\ufffd\ufffd\ufffd\ufffd\ufffd\ufffd\ufffd"
  | isoGreek =>
    controls ++
      "\u00a0‘’£€₯¦§¨©ͺ«¬\u00ad\ufffd―°±²³΄΅Ά·ΈΉΊ»Ό½ΎΏΐΑΒΓΔΕΖΗΘΙΚΛΜΝΞΟΠΡ\ufffdΣΤΥΦΧΨΩΪΫ" ++
      "άέήίΰαβγδεζηθικλμνξοπρςστυφχψωϊϋόύώ\ufffd"
  | isoHebrew =>
    controls ++
      "\u00a0\ufffd¢£¤¥¦§¨©×«¬\u00ad®¯°±²³´µ¶·¸¹÷»¼½¾\ufffd\ufffd\ufffd\ufffd\ufffd" ++
      "\ufffd\ufffd\ufffd\ufffd\ufffd\ufffd\ufffd\ufffd\ufffd\ufffd\ufffd\ufffd\ufffd" ++
      "\ufffd\ufffd\ufffd\ufffd\ufffd\ufffd\ufffd\ufffd\ufffd\ufffd\ufffd\ufffd\ufffd" ++
      "\ufffd‗אבגדהוזחטיךכלםמןנסעףפץצקרשת\ufffd\ufffd\u200e\u200f\ufffd"
  | latin6 =>
    controls ++
      "\u00a0ĄĒĢĪĨĶ§ĻĐŠŦŽ\u00adŪŊ°ąēģīĩķ·ļđšŧž―ūŋĀÁÂÃÄÅÆĮČÉĘËĖÍÎÏÐŅŌÓÔÕÖŨØŲÚÛÜÝÞßāáâãäå" ++
      "æįčéęëėíîïðņōóôõöũøųúûüýþĸ"
  | latin7 =>
    controls ++
      "\u00a0”¢£¤„¦§Ø©Ŗ«¬\u00ad®Æ°±²³“µ¶·ø¹ŗ»¼½¾æĄĮĀĆÄÅĘĒČÉŹĖĢĶĪĻŠŃŅÓŌÕÖ×ŲŁŚŪÜŻŽßąįāćäå" ++
      "ęēčéźėģķīļšńņóōõö÷ųłśūüżž’"
  | latin8 =>
    controls ++
      "\u00a0Ḃḃ£ĊċḊ§Ẁ©ẂḋỲ\u00ad®ŸḞḟĠġṀṁ¶ṖẁṗẃṠỳẄẅṡÀÁÂÃÄÅÆÇÈÉÊËÌÍÎÏŴÑÒÓÔÕÖṪØÙÚÛÜÝŶßàáâãäå" ++
      "æçèéêëìíîïŵñòóôõöṫøùúûüýŷÿ"
  | latin9 =>
    controls ++
      "\u00a0¡¢£€¥Š§š©ª«¬\u00ad®¯°±²³Žµ¶·ž¹º»ŒœŸ¿ÀÁÂÃÄÅÆÇÈÉÊËÌÍÎÏÐÑÒÓÔÕÖ×ØÙÚÛÜÝÞßàáâãäå" ++
      "æçèéêëìíîïðñòóôõö÷øùúûüýþÿ"
  | latin10 =>
    controls ++
      "\u00a0ĄąŁ€„Š§š©Ș«Ź\u00adźŻ°±ČłŽ”¶·žčș»ŒœŸżÀÁÂĂÄĆÆÇÈÉÊËÌÍÎÏĐŃÒÓÔŐÖŚŰÙÚÛÜĘȚßàáâăäć" ++
      "æçèéêëìíîïđńòóôőöśűùúûüęțÿ"
  | koi8Russian =>
    "─│┌┐└┘├┤┬┴┼▀▄█▌▐░▒▓⌠■∙√≈≤≥\u00a0⌡°²·÷═║╒ё╓╔╕╖╗╘╙╚╛╜╝╞╟╠╡Ё╢╣╤╥╦╧╨╩╪╫╬©юабцдефгхий" ++
      "клмнопярстужвьызшэщчъЮАБЦДЕФГХИЙКЛМНОПЯРСТУЖВЬЫЗШЭЩЧЪ"
  | koi8Ukrainian =>
    "─│┌┐└┘├┤┬┴┼▀▄█▌▐░▒▓⌠■∙√≈≤≥\u00a0⌡°²·÷═║╒ёє╔ії╗╘╙╚╛ґў╞╟╠╡ЁЄ╣ІЇ╦╧╨╩╪ҐЎ©юабцдефгхий" ++
      "клмнопярстужвьызшэщчъЮАБЦДЕФГХИЙКЛМНОПЯРСТУЖВЬЫЗШЭЩЧЪ"
  | macRoman =>
    "ÄÅÇÉÑÖÜáàâäãåçéèêëíìîïñóòôöõúùûü†°¢£§•¶ß®©™´¨≠ÆØ∞±≤≥¥µ∂∑∏π∫ªºΩæø¿¡¬√ƒ≈∆«»…\u00a0" ++
      "ÀÃÕŒœ–—“”‘’÷◊ÿŸ⁄€‹›ﬁﬂ‡·‚„‰ÂÊÁËÈÍÎÏÌÓÔ\uf8ffÒÚÛÙıˆ˜¯˘˙˚¸˝˛ˇ"
  | macCyrillic =>
    "АБВГДЕЖЗИЙКЛМНОПРСТУФХЦЧШЩЪЫЬЭЮЯ†°Ґ£§•¶І®©™Ђђ≠Ѓѓ∞±≤≥іµґЈЄєЇїЉљЊњјЅ¬√ƒ≈∆«»…\u00a0" ++
      "ЋћЌќѕ–—“”‘’÷„ЎўЏџ№Ёёяабвгдежзийклмнопрстуфхцчшщъыьэю€"
  | thai =>
    "€\u0081\u0082\u0083\u0084…\u0086\u0087\u0088\u0089\u008a\u008b\u008c\u008d\u008e" ++
      "\u008f\u0090‘’“”•–—\u0098\u0099\u009a\u009b\u009c\u009d\u009e\u009f\u00a0กขฃคฅฆง" ++
      "จฉชซฌญฎฏฐฑฒณดตถทธนบปผฝพฟภมยรฤลฦวศษสหฬอฮฯะ\u0e31าำ\u0e34\u0e35\u0e36\u0e37\u0e38" ++
      "\u0e39\u0e3a\ufffd\ufffd\ufffd\ufffd฿เแโใไๅๆ\u0e47\u0e48\u0e49\u0e4a\u0e4b\u0e4c" ++
      "\u0e4d\u0e4e๏๐๑๒๓๔๕๖๗๘๙๚๛\ufffd\ufffd\ufffd\ufffd"
  | centralEuropean =>
    "€\u0081‚\u0083„…†‡\u0088‰Š‹ŚŤŽŹ\u0090‘’“”•–—\u0098™š›śťžź\u00a0ˇ˘Ł¤Ą¦§¨©Ş«¬" ++
      "\u00ad®Ż°±˛ł´µ¶·¸ąş»Ľ˝ľżŔÁÂĂÄĹĆÇČÉĘËĚÍÎĎĐŃŇÓÔŐÖ×ŘŮÚŰÜÝŢßŕáâăäĺćçčéęëěíîďđńňóôőö÷" ++
      "řůúűüýţ˙"
  | cyrillic =>
    "ЂЃ‚ѓ„…†‡€‰Љ‹ЊЌЋЏђ‘’“”•–—\u0098™љ›њќћџ\u00a0ЎўЈ¤Ґ¦§Ё©Є«¬\u00ad®Ї°±Ііґµ¶·ё№є»јЅѕїА" ++
      "БВГДЕЖЗИЙКЛМНОПРСТУФХЦЧШЩЪЫЬЭЮЯабвгдежзийклмнопрстуфхцчшщъыьэюя"
  | western =>
    "€\u0081‚ƒ„…†‡ˆ‰Š‹Œ\u008dŽ\u008f\u0090‘’“”•–—˜™š›œ\u009džŸ\u00a0¡¢£¤¥¦§¨©ª«¬" ++
      "\u00ad®¯°±²³´µ¶·¸¹º»¼½¾¿ÀÁÂÃÄÅÆÇÈÉÊËÌÍÎÏÐÑÒÓÔÕÖ×ØÙÚÛÜÝÞßàáâãäåæçèéêëìíîïðñòóôõö÷" ++
      "øùúûüýþÿ"
  | greek =>
    "€\u0081‚ƒ„…†‡\u0088‰\u008a‹\u008c\u008d\u008e\u008f\u0090‘’“”•–—\u0098™\u009a›" ++
      "\u009c\u009d\u009e\u009f\u00a0΅Ά£¤¥¦§¨©\ufffd«¬\u00ad®―°±²³΄µ¶·ΈΉΊ»Ό½ΎΏΐΑΒΓΔΕΖΗΘ" ++
      "ΙΚΛΜΝΞΟΠΡ\ufffdΣΤΥΦΧΨΩΪΫάέήίΰαβγδεζηθικλμνξοπρςστυφχψωϊϋόύώ\ufffd"
  | turkish =>
    "€\u0081‚ƒ„…†‡ˆ‰Š‹Œ\u008d\u008e\u008f\u0090‘’“”•–—˜™š›œ\u009d\u009eŸ\u00a0¡¢£¤¥¦§" ++
      "¨©ª«¬\u00ad®¯°±²³´µ¶·¸¹º»¼½¾¿ÀÁÂÃÄÅÆÇÈÉÊËÌÍÎÏĞÑÒÓÔÕÖ×ØÙÚÛÜİŞßàáâãäåæçèéêëìíîïğñò" ++
      "óôõö÷øùúûüışÿ"
  | hebrew =>
    "€\u0081‚ƒ„…†‡ˆ‰\u008a‹\u008c\u008d\u008e\u008f\u0090‘’“”•–—˜™\u009a›\u009c\u009d" ++
      "\u009e\u009f\u00a0¡¢£₪¥¦§¨©×«¬\u00ad®¯°±²³´µ¶·¸¹÷»¼½¾¿\u05b0\u05b1\u05b2\u05b3" ++
      "\u05b4\u05b5\u05b6\u05b7\u05b8\u05b9\u05ba\u05bb\u05bc\u05bd־\u05bf׀\u05c1\u05c2" ++
      "׃װױײ׳״\ufffd\ufffd\ufffd\ufffd\ufffd\ufffd\ufffdאבגדהוזחטיךכלםמןנסעףפץצקרשת" ++
      "\ufffd\ufffd\u200e\u200f\ufffd"
  | arabic =>
    "€پ‚ƒ„…†‡ˆ‰ٹ‹Œچژڈگ‘’“”•–—ک™ڑ›œ\u200c\u200dں\u00a0،¢£¤¥¦§¨©ھ«¬\u00ad®¯°±²³´µ¶·¸¹؛»" ++
      "¼½¾؟ہءآأؤإئابةتثجحخدذرزسشصض×طظعغـفقكàلâمنهوçèéêëىيîï\u064b\u064c\u064d\u064eô" ++
      "\u064f\u0650÷\u0651ù\u0652ûü\u200e\u200fے"
  | baltic =>
    "€\u0081‚\u0083„…†‡\u0088‰\u008a‹\u008c¨ˇ¸\u0090‘’“”•–—\u0098™\u009a›\u009c¯˛" ++
      "\u009f\u00a0\ufffd¢£¤\ufffd¦§Ø©Ŗ«¬\u00ad®Æ°±²³´µ¶·ø¹ŗ»¼½¾æĄĮĀĆÄÅĘĒČÉŹĖĢĶĪĻŠŃŅÓŌÕ" ++
      "Ö×ŲŁŚŪÜŻŽßąįāćäåęēčéźėģķīļšńņóōõö÷ųłśūüżž˙"
  | vietnamese =>
    "€\u0081‚ƒ„…†‡ˆ‰\u008a‹Œ\u008d\u008e\u008f\u0090‘’“”•–—˜™\u009a›œ\u009d\u009eŸ" ++
      "\u00a0¡¢£¤¥¦§¨©ª«¬\u00ad®¯°±²³´µ¶·¸¹º»¼½¾¿ÀÁÂĂÄÅÆÇÈÉÊË\u0300ÍÎÏĐÑ\u0309ÓÔƠÖ×ØÙÚÛ" ++
      "ÜƯ\u0303ßàáâăäåæçèéêë\u0301íîïđñ\u0323óôơö÷øùúûüư₫ÿ"

/-- The characters of bytes. -/
def decode (s : SingleByte) (bytes : List UInt8) : List Char :=
  let table := s.high.toList.toArray
  bytes.map fun b => if b < 0x80 then Char.ofNat b.toNat else table.getD (b.toNat - 0x80) '\ufffd'

end SingleByte

end NodeTelemetry.Text.Charset

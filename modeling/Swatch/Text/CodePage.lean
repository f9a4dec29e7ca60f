/-!
# Code pages

The encodings that write each character as one byte. A page tells for every byte which character
it stands for. It is given by the bytes in which it differs from another page or, where none is
named, from the first 256 characters; a run of such bytes is given by the first of them and the
characters in order. A page stands before the one that it is compared with, and U+FFFD marks a byte
without a character.
-/

namespace Swatch.Text

/-- An encoding that writes each character as one byte. -/
structure CodePage where
  name : String
  /-- The name of the page that it is compared with; empty for the first 256 characters. -/
  base : String
  /-- The bytes in which it differs: the first one of each run, and the characters of the run. -/
  runs : List (Nat × String)

namespace CodePage

/-- The mark of a byte without a character. -/
def unused : Char := '\ufffd'

/-- The character of a byte in a run that starts with the byte `first`. -/
def runChar? (byte : Nat) (run : Nat × String) : Option Char :=
  if run.1 ≤ byte then run.2.toList[byte - run.1]? else none

/-- The character of a byte in the page of a name. -/
def charIn (name : String) (byte : Nat) : List CodePage → Char
  | [] => Char.ofNat byte
  | page :: pages =>
    if page.name = name then
      (page.runs.findSome? (runChar? byte)).getD (charIn page.base byte pages)
    else charIn name byte pages

/-- The pages. -/
def all : List CodePage := [
  ⟨"cp424", "cp037", [(0x41, "\u05d0\u05d1\u05d2\u05d3\u05d4\u05d5\u05d6\u05d7\u05d8"),
    (0x51, "\u05d9\u05da\u05db\u05dc\u05dd\u05de\u05df\u05e0\u05e1"),
    (0x62, "\u05e2\u05e3\u05e4\u05e5\u05e6\u05e7\u05e8\u05e9"), (0x70, "�\u05ea��\xa0���‗"),
    (0x80, "�"), (0x8C, "���"), (0x9A, "���"), (0x9E, "�"), (0xAA, "�����"), (0xCB, "�����"),
    (0xDB, "�����"), (0xEB, "�����"), (0xFB, "����")]⟩,
  ⟨"cp1026", "cp500", [(0x48, "\x7b"), (0x4A, "Ç"), (0x5A, "Ğİ"), (0x68, "["), (0x6A, "ş"),
    (0x79, "ı"), (0x7B, "ÖŞ"), (0x7F, "Ü"), (0x8C, "\x7d\x60¦"), (0xA1, "ö"), (0xAC, "]$@"),
    (0xC0, "ç"), (0xCC, "~"), (0xD0, "ğ"), (0xDC, "\x5c"), (0xE0, "ü"), (0xEC, "#"),
    (0xFC, "\x22")]⟩,
  ⟨"cp273", "cp500", [(0x43, "\x7b"), (0x4A, "Ä"), (0x59, "~Ü"), (0x63, "["), (0x6A, "ö"),
    (0x7C, "§"), (0xA1, "ß"), (0xB5, "@"), (0xBC, "‾"), (0xC0, "ä"), (0xCC, "¦"), (0xD0, "ü"),
    (0xDC, "\x7d"), (0xE0, "Ö"), (0xEC, "\x5c"), (0xFC, "]")]⟩,
  ⟨"cp1140", "cp037", [(0x9F, "€")]⟩,
  ⟨"cp037", "cp500", [(0x4A, "¢"), (0x4F, "|"), (0x5A, "!"), (0x5F, "¬"), (0xB0, "^"),
    (0xBA, "[]")]⟩,
  ⟨"cp500", "cp875", [(0x41, "\xa0âäàáãåçñ"), (0x51, "éêëèíîïìß"), (0x62, "ÂÄÀÁÃÅÇÑ¦"),
    (0x70, "øÉÊËÈÍÎÏÌ"), (0x80, "Ø"), (0x8A, "«»ðýþ±"), (0x9A, "ªºæ¸Æ¤µ"),
    (0xAA, "¡¿ÐÝÞ®¢£¥·©§¶¼½¾¬|¯¨´×"), (0xCB, "ôöòóõ"), (0xDA, "¹ûüùúÿ"), (0xE1, "÷"),
    (0xEB, "ÔÖÒÓÕ"), (0xFB, "ÛÜÙÚ")]⟩,
  ⟨"cp875", "", [(0x04, "\x9c\x09\x86\x7f\x97\x8d\x8e"), (0x14, "\x9d\x85\x08\x87"),
    (0x1A, "\x92\x8f"),
    (0x20, "\x80\x81\x82\x83\x84\x0a\x17\x1b\x88\x89\x8a\x8b\x8c\x05\x06\x07\x90\x91"),
    (0x32, "\x16\x93\x94\x95\x96\x04\x98\x99\x9a\x9b\x14\x15\x9e\x1a ΑΒΓΔΕΖΗΘΙ[.<(+!"),
    (0x50, "&ΚΛΜΝΞΟΠΡΣ]$*);^-/ΤΥΦΧΨΩΪΫ|,%_>?¨ΆΈΉ\xa0ΊΌΎΏ\x60:#@\x27=\x22΅abcdefghiαβ"),
    (0x8C, "γδεζ°jklmnopqrηθικλμ´~stuvwxyzνξοπρσ£άέήϊίόύϋώςτυφχψ\x7bABCDEFGHI\u00adω"),
    (0xCC, "ΐΰ‘―\x7dJKLMNOPQR±½\x1a·’¦\x5c\x1aSTUVWXYZ²§\x1a\x1a«¬0123456789³©\x1a"),
    (0xFD, "\x1a»\x9f")]⟩,
  ⟨"cp1250", "cp1253", [(0x83, "�"), (0x8A, "Š"), (0x8C, "ŚŤŽŹ"), (0x9A, "š"), (0x9C, "śťžź"),
    (0xA1, "\u02c7˘Ł"), (0xA5, "Ą"), (0xAA, "Ş"), (0xAF, "Ż"), (0xB2, "˛ł´"), (0xB8, "¸ąş"),
    (0xBC, "Ľ˝ľżŔÁÂĂÄĹĆÇČÉĘËĚÍÎĎĐŃŇÓÔŐÖ×ŘŮÚŰÜÝŢßŕáâăäĺćçčéęëěíîďđńňóôőö÷řůúűüýţ˙")]⟩,
  ⟨"cp1257", "cp1253", [(0x83, "�"), (0x8D, "¨\u02c7¸"), (0x9D, "¯˛"), (0xA1, "�¢"), (0xA5, "�"),
    (0xA8, "Ø"), (0xAA, "Ŗ"), (0xAF, "Æ"), (0xB4, "´"), (0xB8, "ø¹ŗ"), (0xBC, "¼"),
    (0xBE, "¾æĄĮĀĆÄÅĘĒČÉŹĖĢĶĪĻŠŃŅÓŌÕÖ×ŲŁŚŪÜŻŽßąįāćäåęēčéźėģķīļšńņóōõö÷ųłśūüżž˙")]⟩,
  ⟨"cp1256", "", [
    (0x80, "€\u067e‚ƒ„…†‡\u02c6‰\u0679‹Œ\u0686\u0698\u0688\u06af‘’“”•–—\u06a9™\u0691"),
    (0x9B, "›œ\u200c\u200d\u06ba"), (0xA1, "،"), (0xAA, "\u06be"), (0xBA, "\u061b"),
    (0xBF, "\u061f\u06c1\u0621\u0622\u0623\u0624\u0625\u0626\u0627\u0628\u0629\u062a"),
    (0xCB, "\u062b\u062c\u062d\u062e\u062f\u0630\u0631\u0632\u0633\u0634\u0635\u0636"),
    (0xD8, "\u0637\u0638\u0639\u063a\u0640\u0641\u0642\u0643"), (0xE1, "\u0644"),
    (0xE3, "\u0645\u0646\u0647\u0648"), (0xEC, "\u0649\u064a"),
    (0xF0, "\u064b\u064c\u064d\u064e"), (0xF5, "\u064f\u0650"), (0xF8, "\u0651"),
    (0xFA, "\u0652"), (0xFD, "\u200e\u200f\u06d2")]⟩,
  ⟨"ptcp154", "cp1251", [(0x80, "ҖҒӮғ"), (0x86, "ҶҮҲүҠӢҢҚҺҸҗ"), (0x98, "ҳҷҡӣңқһҹ"), (0xA4, "ӨҘҰ"),
    (0xAA, "Ә"), (0xAD, "ӯ"), (0xAF, "Ҝ"), (0xB1, "ұ"), (0xB4, "ҙө"), (0xBA, "ә"),
    (0xBD, "Ҫҫҝ")]⟩,
  ⟨"kz1048", "cp1251", [(0x8D, "ҚҺ"), (0x9D, "қһ"), (0xA1, "ҰұӘ"), (0xA5, "Ө"), (0xAA, "Ғ"),
    (0xAF, "Ү"), (0xB4, "ө"), (0xBA, "ғ"), (0xBC, "әҢңү")]⟩,
  ⟨"cp1251", "", [(0x80, "ЂЃ‚ѓ„…†‡€‰Љ‹ЊЌЋЏђ‘’“”•–—�™љ›њќћџ"), (0xA1, "ЎўЈ"), (0xA5, "Ґ"),
    (0xA8, "Ё"), (0xAA, "Є"), (0xAF, "Ї"), (0xB2, "Ііґ"), (0xB8, "ё№є"),
    (0xBC, "јЅѕїАБВГДЕЖЗИЙКЛМНОПРСТУФХЦЧШЩЪЫЬЭЮЯабвгдежзийклмнопрстуфхцчшщъыьэюя")]⟩,
  ⟨"cp1253", "", [(0x80, "€�‚ƒ„…†‡�‰�‹�����‘’“”•–—�™�›����"), (0xA1, "΅Ά"), (0xAA, "�"),
    (0xAF, "―"), (0xB4, "΄"), (0xB8, "ΈΉΊ"), (0xBC, "Ό"),
    (0xBE, "ΎΏΐΑΒΓΔΕΖΗΘΙΚΛΜΝΞΟΠΡ�ΣΤΥΦΧΨΩΪΫάέήίΰαβγδεζηθικλμνξοπρςστυφχψωϊϋόύώ�")]⟩,
  ⟨"mac_romanian", "mac_roman", [(0xAE, "ĂȘ"), (0xBE, "ăș"), (0xDE, "Țț")]⟩,
  ⟨"mac_turkish", "mac_roman", [(0xDA, "ĞğİıŞş"), (0xF5, "\uf8a0")]⟩,
  ⟨"mac_iceland", "mac_roman", [(0xA0, "Ý"), (0xDC, "ÐðÞþý")]⟩,
  ⟨"mac_roman", "", [(0x80, "ÄÅÇÉÑÖÜáàâäãåçéèêëíìîïñóòôöõúùûü†°"), (0xA4, "§•¶ß®"),
    (0xAA, "™´¨≠ÆØ∞"), (0xB2, "≤≥¥"),
    (0xB6, "∂∑∏π∫ªºΩæø¿¡¬√ƒ≈∆«»…\xa0ÀÃÕŒœ–—“”‘’÷◊ÿŸ⁄€‹›ﬁﬂ‡·‚„‰ÂÊÁËÈÍÎÏÌÓÔ\uf8ffÒÚÛÙı"),
    (0xF6, "\u02c6˜¯˘˙˚¸˝˛\u02c7")]⟩,
  ⟨"mac_cyrillic", "mac_arabic", [
    (0x80, "АБВГДЕЖЗИЙКЛМНОПРСТУФХЦЧШЩЪЫЬЭЮЯ†°Ґ£§•¶І®©™Ђђ≠Ѓѓ∞±≤≥іµґЈЄєЇїЉљЊњјЅ¬√ƒ≈∆«"),
    (0xC8, "»…\xa0ЋћЌќѕ–—“”‘’÷„ЎўЏџ№Ёёяабвгдежзийклмнопрстуфхцчшщъыьэю€")]⟩,
  ⟨"cp864", "", [(0x25, "٪"), (0x80, "°·∙√▒─│┼┤┬├┴┐┌└┘β∞φ±½¼≈«»\ufef7\ufef8��\ufefb\ufefc�"),
    (0xA1, "\u00ad\ufe82"),
    (0xA5, "\ufe84��\ufe8e\ufe8f\ufe95\ufe99،\ufe9d\ufea1\ufea5\u0660\u0661\u0662"),
    (0xB3, "\u0663\u0664\u0665\u0666\u0667\u0668\u0669\ufed1\u061b\ufeb1\ufeb5\ufeb9"),
    (0xBF, "\u061f¢\ufe80\ufe81\ufe83\ufe85\ufeca\ufe8b\ufe8d\ufe91\ufe93\ufe97"),
    (0xCB, "\ufe9b\ufe9f\ufea3\ufea7\ufea9\ufeab\ufead\ufeaf\ufeb3\ufeb7\ufebb\ufebf"),
    (0xD7, "\ufec1\ufec5\ufecb\ufecf¦¬÷×\ufec9\u0640\ufed3\ufed7\ufedb\ufedf\ufee3"),
    (0xE6, "\ufee7\ufeeb\ufeed\ufeef\ufef3\ufebd\ufecc\ufece\ufecd\ufee1\ufe7d\u0651"),
    (0xF2, "\ufee5\ufee9\ufeec\ufef0\ufef2\ufed0\ufed5\ufef5\ufef6\ufedd\ufed9\ufef1"),
    (0xFE, "■�")]⟩,
  ⟨"mac_croatian", "", [(0x80, "ÄÅÇÉÑÖÜáàâäãåçéèêëíìîïñóòôöõúùûü†°"), (0xA4, "§•¶ß®Š™´¨≠ŽØ∞"),
    (0xB2, "≤≥∆"),
    (0xB6, "∂∑∏š∫ªºΩžø¿¡¬√ƒ≈Ć«Č…\xa0ÀÃÕŒœĐ—“”‘’÷◊\uf8ff©⁄€‹›Æ»–·‚„‰ÂćÁčÈÍÎÏÌÓÔđÒÚÛÙı"),
    (0xF6, "\u02c6˜¯πË˚¸Êæ\u02c7")]⟩,
  ⟨"mac_latin2", "", [(0x80, "ÄĀāÉĄÖÜáąČäčĆćéŹźĎíďĒēĖóėôöõúĚěü†°Ę"), (0xA4, "§•¶ß®"),
    (0xAA, "™ę¨≠ģĮįĪ≤≥īĶ∂∑łĻļĽľĹĺŅņŃ¬√ńŇ∆«»…\xa0ňŐÕőŌ–—“”‘’÷◊ōŔŕŘ‹›řŖŗŠ‚„šŚśÁŤťÍŽžŪÓ"),
    (0xEF, "ÔūŮÚůŰűŲųÝýķŻŁżĢ\u02c7")]⟩,
  ⟨"mac_greek", "", [(0x80, "Ä¹²É³ÖÜ΅àâä΄¨çéèêë£™îï•½‰ôö¦€ùûü†ΓΔΘΛΞΠß®"), (0xAA, "ΣΪ§≠°·Α"),
    (0xB2, "≤≥¥ΒΕΖΗΙΚΜΦΫΨΩάΝ¬ΟΡ≈Τ«»…\xa0ΥΧΆΈœ–―“”‘’÷ΉΊΌΎέήίόΏύαβψδεφγηιξκλμνοπώρστθω"),
    (0xF7, "ςχυζϊϋΐΰ\u00ad")]⟩,
  ⟨"cp1258", "", [(0x80, "€�‚ƒ„…†‡\u02c6‰�‹Œ����‘’“”•–—˜™�›œ��Ÿ"), (0xC3, "Ă"), (0xCC, "\u0300"),
    (0xD0, "Đ"), (0xD2, "\u0309"), (0xD5, "Ơ"), (0xDD, "Ư\u0303"), (0xE3, "ă"), (0xEC, "\u0301"),
    (0xF0, "đ"), (0xF2, "\u0323"), (0xF5, "ơ"), (0xFD, "ư₫")]⟩,
  ⟨"cp1255", "", [(0x80, "€�‚ƒ„…†‡\u02c6‰�‹�����‘’“”•–—˜™�›����"), (0xA4, "₪"), (0xAA, "×"),
    (0xBA, "÷"), (0xC0, "\u05b0\u05b1\u05b2\u05b3\u05b4\u05b5\u05b6\u05b7\u05b8\u05b9�\u05bb"),
    (0xCC, "\u05bc\u05bd\u05be\u05bf\u05c0\u05c1\u05c2\u05c3\u05f0\u05f1\u05f2\u05f3"),
    (0xD8, "\u05f4�������\u05d0\u05d1\u05d2\u05d3\u05d4\u05d5\u05d6\u05d7\u05d8"),
    (0xE9, "\u05d9\u05da\u05db\u05dc\u05dd\u05de\u05df\u05e0\u05e1\u05e2\u05e3\u05e4"),
    (0xF5, "\u05e5\u05e6\u05e7\u05e8\u05e9\u05ea��\u200e\u200f�")]⟩,
  ⟨"mac_farsi", "mac_arabic", [(0xB0, "۰۱۲۳۴۵۶۷۸۹")]⟩,
  ⟨"mac_arabic", "", [
    (0x80, "Ä\xa0ÇÉÑÖÜáàâä\u06ba«çéèêëí…îïñó»ôö÷úùûü !\x22#$٪&\x27()*+،-./\u0660"),
    (0xB1, "\u0661\u0662\u0663\u0664\u0665\u0666\u0667\u0668\u0669:\u061b<=>\u061f❊"),
    (0xC1, "\u0621\u0622\u0623\u0624\u0625\u0626\u0627\u0628\u0629\u062a\u062b\u062c"),
    (0xCD, "\u062d\u062e\u062f\u0630\u0631\u0632\u0633\u0634\u0635\u0636\u0637\u0638"),
    (0xD9, "\u0639\u063a[\x5c]^_\u0640\u0641\u0642\u0643\u0644\u0645\u0646\u0647"),
    (0xE8, "\u0648\u0649\u064a\u064b\u064c\u064d\u064e\u064f\u0650\u0651\u0652\u067e"),
    (0xF4, "\u0679\u0686\u06d5\u06a4\u06af\u0688\u0691\x7b|\x7d\u0698\u06d2")]⟩,
  ⟨"koi8_t", "koi8_r", [(0x80, "қғ‚Ғ„…†‡�‰ҳ‹ҲҷҶ�Қ‘’“”•–—�™�›�����ӯӮ"),
    (0xA4, "¤ӣ¦§���«¬\u00ad®�°±²"), (0xB4, "�Ӣ¶·�№�»���")]⟩,
  ⟨"koi8_u", "koi8_r", [(0xA4, "є"), (0xA6, "ії"), (0xAD, "ґ"), (0xB4, "Є"), (0xB6, "ІЇ"),
    (0xBD, "Ґ")]⟩,
  ⟨"koi8_r", "", [
    (0x80, "─│┌┐└┘├┤┬┴┼▀▄█▌▐░▒▓⌠■∙√≈≤≥\xa0⌡°²·÷═║╒ё╓╔╕╖╗╘╙╚╛╜╝╞╟╠╡Ё╢╣╤╥╦╧╨╩╪╫╬©юабцд"),
    (0xC5, "ефгхийклмнопярстужвьызшэщчъЮАБЦДЕФГХИЙКЛМНОПЯРСТУЖВЬЫЗШЭЩЧЪ")]⟩,
  ⟨"cp869", "", [
    (0x80, "������Ά�·¬¦‘’Έ―ΉΊΪΌ��ΎΫ©Ώ²³ά£έήίϊΐόύΑΒΓΔΕΖΗ½ΘΙ«»░▒▓│┤ΚΛΜΝ╣║╗╝ΞΟ┐└┴┬├─┼ΠΡ"),
    (0xC8, "╚╔╩╦╠═╬ΣΤΥΦΧΨΩαβγ┘┌█▄δε▀ζηθικλμνξοπρσςτ΄\u00ad±υφχ§ψ΅°¨ωϋΰώ■\xa0")]⟩,
  ⟨"cp856", "", [
    (0x80, "\u05d0\u05d1\u05d2\u05d3\u05d4\u05d5\u05d6\u05d7\u05d8\u05d9\u05da\u05db"),
    (0x8C, "\u05dc\u05dd\u05de\u05df\u05e0\u05e1\u05e2\u05e3\u05e4\u05e5\u05e6\u05e7"),
    (0x98, "\u05e8\u05e9\u05ea�£�×����������®¬½¼�«»░▒▓│┤���©╣║╗╝¢¥┐└┴┬├─┼��╚╔╩╦╠═╬¤�"),
    (0xD1, "��������┘┌█▄¦�▀������µ�������¯´\u00ad±‗¾¶§÷¸°¨·¹³²■\xa0")]⟩,
  ⟨"cp855", "", [
    (0x80, "ђЂѓЃёЁєЄѕЅіІїЇјЈљЉњЊћЋќЌўЎџЏюЮъЪаАбБцЦдДеЕфФгГ«»░▒▓│┤хХиИ╣║╗╝йЙ┐└┴┬├─┼кК"),
    (0xC8, "╚╔╩╦╠═╬¤лЛмМнНоОп┘┌█▄Пя▀ЯрРсСтТуУжЖвВьЬ№\u00adыЫзЗшШэЭщЩчЧ§■\xa0")]⟩,
  ⟨"cp852", "", [
    (0x80, "ÇüéâäůćçłëŐőîŹÄĆÉĹĺôöĽľŚśÖÜŤťŁ×čáíóúĄąŽžĘę¬źČş«»░▒▓│┤ÁÂĚŞ╣║╗╝Żż┐└┴┬├─┼Ăă"),
    (0xC8, "╚╔╩╦╠═╬¤đĐĎËďŇÍÎě┘┌█▄ŢŮ▀ÓßÔŃńňŠšŔÚŕŰýÝţ´\u00ad˝˛\u02c7˘§÷¸°¨˙űŘř■\xa0")]⟩,
  ⟨"cp857", "cp850", [(0x8D, "ı"), (0x98, "İ"), (0x9E, "Şş"), (0xA6, "Ğğ"), (0xD0, "ºª"),
    (0xD5, "�"), (0xE7, "�×"), (0xEC, "ìÿ"), (0xF2, "�")]⟩,
  ⟨"cp858", "cp850", [(0xD5, "€")]⟩,
  ⟨"cp850", "", [
    (0x80, "ÇüéâäàåçêëèïîìÄÅÉæÆôöòûùÿÖÜø£Ø×ƒáíóúñÑªº¿®¬½¼¡«»░▒▓│┤ÁÂÀ©╣║╗╝¢¥┐└┴┬├─┼ãÃ"),
    (0xC8, "╚╔╩╦╠═╬¤ðÐÊËÈıÍÎÏ┘┌█▄¦Ì▀ÓßÔÒõÕµþÞÚÛÙýÝ¯´\u00ad±‗¾¶§÷¸°¨·¹³²■\xa0")]⟩,
  ⟨"cp775", "", [
    (0x80, "ĆüéāäģåćłēŖŗīŹÄÅÉæÆōöĢ¢ŚśÖÜø£Ø×¤ĀĪóŻżź”¦©®¬½¼Ł«»░▒▓│┤ĄČĘĖ╣║╗╝ĮŠ┐└┴┬├─┼ŲŪ"),
    (0xC8, "╚╔╩╦╠═╬Žąčęėįšųūž┘┌█▄▌▐▀ÓßŌŃõÕµńĶķĻļņĒŅ’\u00ad±“¾¶§÷„°∙·¹³²■\xa0")]⟩,
  ⟨"cp720", "cp737", [
    (0x80, "\x80\x81éâ\x84à\x86çêëèïî\x8d\x8e\x8f\x90\u0651\u0652ô¤\u0640ûù\u0621"),
    (0x99, "\u0622\u0623\u0624£\u0625\u0626\u0627\u0628\u0629\u062a\u062b\u062c"),
    (0xA5, "\u062d\u062e\u062f\u0630\u0631\u0632\u0633\u0634\u0635«»"),
    (0xE0, "\u0636\u0637\u0638\u0639\u063a\u0641µ\u0642\u0643\u0644\u0645\u0646"),
    (0xEC, "\u0647\u0648\u0649\u064a≡\u064b\u064c\u064d\u064e\u064f\u0650")]⟩,
  ⟨"cp737", "cp437", [(0x80, "ΑΒΓΔΕΖΗΘΙΚΛΜΝΞΟΠΡΣΤΥΦΧΨΩαβγδεζηθικλμνξοπρσςτυφχψ"),
    (0xE0, "ωάέήϊίόύϋώΆΈΉΊΌΎΏ"), (0xF4, "ΪΫ")]⟩,
  ⟨"cp863", "cp862", [(0x80, "ÇüéâÂà¶çêëèïî‗À§ÉÈÊôËÏûù¤ÔÜ"), (0x9D, "ÙÛ"), (0xA0, "¦´"),
    (0xA4, "¨¸³¯Î"), (0xAD, "¾")]⟩,
  ⟨"cp860", "cp862", [(0x80, "ÇüéâãàÁçêÊèÍÔìÃÂÉÀÈôõòÚùÌÕÜ"), (0x9D, "Ù"), (0x9F, "Ó"),
    (0xA9, "Ò")]⟩,
  ⟨"cp861", "cp865", [(0x8B, "ÐðÞ"), (0x95, "þ"), (0x97, "Ýý"), (0xA4, "ÁÍÓÚ"), (0xAF, "»")]⟩,
  ⟨"cp862", "cp437", [
    (0x80, "\u05d0\u05d1\u05d2\u05d3\u05d4\u05d5\u05d6\u05d7\u05d8\u05d9\u05da\u05db"),
    (0x8C, "\u05dc\u05dd\u05de\u05df\u05e0\u05e1\u05e2\u05e3\u05e4\u05e5\u05e6\u05e7"),
    (0x98, "\u05e8\u05e9\u05ea")]⟩,
  ⟨"cp865", "cp437", [(0x9B, "ø"), (0x9D, "Ø"), (0xAF, "¤")]⟩,
  ⟨"cp437", "cp866", [(0x80, "ÇüéâäàåçêëèïîìÄÅÉæÆôöòûùÿÖÜ¢£¥₧ƒáíóúñÑªº¿⌐¬½¼¡«»"),
    (0xE0, "αßΓπΣσµτΦΘΩδ∞φε∩≡±≥≤⌠⌡÷≈"), (0xFC, "\u207f²")]⟩,
  ⟨"cp866", "cp1125", [(0xF2, "ЄєЇїЎў°∙")]⟩,
  ⟨"cp1125", "", [
    (0x80, "АБВГДЕЖЗИЙКЛМНОПРСТУФХЦЧШЩЪЫЬЭЮЯабвгдежзийклмноп░▒▓│┤╡╢╖╕╣║╗╝╜╛┐└┴┬├─┼╞╟"),
    (0xC8, "╚╔╩╦╠═╬╧╨╤╥╙╘╒╓╫╪┘┌█▄▌▐▀рстуфхцчшщъыьэюяЁёҐґЄєІіЇї·√№¤■\xa0")]⟩,
  ⟨"iso8859_4", "iso8859_11", [
    (0xA1, "ĄĸŖ¤ĨĻ§¨ŠĒĢŦ\u00adŽ¯°ą˛ŗ´ĩļ\u02c7¸šēģŧŊžŋĀÁÂÃÄÅÆĮČÉĘËĖÍÎĪĐŅŌĶÔÕÖ×ØŲÚÛÜŨŪ"),
    (0xDF, "ßāáâãäåæįčéęëėíîīđņōķôõö÷øųúûüũū˙")]⟩,
  ⟨"iso8859_3", "iso8859_11", [
    (0xA1, "Ħ˘£¤�Ĥ§¨İŞĞĴ\u00ad�Ż°ħ²³´µĥ·¸ışğĵ½�żÀÁÂ�ÄĊĈÇÈÉÊËÌÍÎÏ�ÑÒÓÔĠÖ×ĜÙÚÛÜŬŜßàáâ�"),
    (0xE4, "äċĉçèéêëìíîï�ñòóôġö÷ĝùúûüŭŝ˙")]⟩,
  ⟨"iso8859_2", "iso8859_11", [
    (0xA1, "Ą˘Ł¤ĽŚ§¨ŠŞŤŹ\u00adŽŻ°ą˛ł´ľś\u02c7¸šşťź˝žżŔÁÂĂÄĹĆÇČÉĘËĚÍÎĎĐŃŇÓÔŐÖ×ŘŮÚŰÜÝŢ"),
    (0xDF, "ßŕáâăäĺćçčéęëěíîďđńňóôőö÷řůúűüýţ˙")]⟩,
  ⟨"iso8859_16", "iso8859_11", [
    (0xA1, "ĄąŁ€„Š§š©Ș«Ź\u00adźŻ°±ČłŽ”¶·žčș»ŒœŸżÀÁÂĂÄĆÆÇÈÉÊËÌÍÎÏĐŃÒÓÔŐÖŚŰÙÚÛÜĘȚßàáâă"),
    (0xE4, "äćæçèéêëìíîïđńòóôőöśűùúûüęțÿ")]⟩,
  ⟨"iso8859_13", "iso8859_11", [
    (0xA1, "”¢£¤„¦§Ø©Ŗ«¬\u00ad®Æ°±²³“µ¶·ø¹ŗ»¼½¾æĄĮĀĆÄÅĘĒČÉŹĖĢĶĪĻŠŃŅÓŌÕÖ×ŲŁŚŪÜŻŽßąįāć"),
    (0xE4, "äåęēčéźėģķīļšńņóōõö÷ųłśūüżž’")]⟩,
  ⟨"iso8859_10", "iso8859_11", [
    (0xA1, "ĄĒĢĪĨĶ§ĻĐŠŦŽ\u00adŪŊ°ąēģīĩķ·ļđšŧž―ūŋĀÁÂÃÄÅÆĮČÉĘËĖÍÎÏÐŅŌÓÔÕÖŨØŲÚÛÜÝÞßāáâã"),
    (0xE4, "äåæįčéęëėíîïðņōóôõöũøųúûüýþĸ")]⟩,
  ⟨"iso8859_7", "iso8859_11", [
    (0xA1, "‘’£€₯¦§¨©\u037a«¬\u00ad�―°±²³΄΅Ά·ΈΉΊ»Ό½ΎΏΐΑΒΓΔΕΖΗΘΙΚΛΜΝΞΟΠΡ�ΣΤΥΦΧΨΩΪΫάέή"),
    (0xDF, "ίΰαβγδεζηθικλμνξοπρςστυφχψωϊϋόύώ")]⟩,
  ⟨"iso8859_14", "", [(0xA1, "Ḃḃ"), (0xA4, "ĊċḊ"), (0xA8, "Ẁ"), (0xAA, "ẂḋỲ"), (0xAF, "ŸḞḟĠġṀṁ"),
    (0xB7, "ṖẁṗẃṠỳẄẅṡ"), (0xD0, "Ŵ"), (0xD7, "Ṫ"), (0xDE, "Ŷ"), (0xF0, "ŵ"), (0xF7, "ṫ"),
    (0xFE, "ŷ")]⟩,
  ⟨"iso8859_6", "", [(0xA1, "���"), (0xA5, "�������،"),
    (0xAE, "�������������\u061b���\u061f�\u0621\u0622\u0623\u0624\u0625\u0626\u0627"),
    (0xC8, "\u0628\u0629\u062a\u062b\u062c\u062d\u062e\u062f\u0630\u0631\u0632\u0633"),
    (0xD4, "\u0634\u0635\u0636\u0637\u0638\u0639\u063a�����\u0640\u0641\u0642\u0643"),
    (0xE4, "\u0644\u0645\u0646\u0647\u0648\u0649\u064a\u064b\u064c\u064d\u064e\u064f"),
    (0xF0, "\u0650\u0651\u0652�������������")]⟩,
  ⟨"iso8859_5", "", [(0xA1, "ЁЂЃЄЅІЇЈЉЊЋЌ"),
    (0xAE, "ЎЏАБВГДЕЖЗИЙКЛМНОПРСТУФХЦЧШЩЪЫЬЭЮЯабвгдежзийклмнопрстуфхцчшщъыьэюя№ёђѓєѕ"),
    (0xF6, "іїјљњћќ§ўџ")]⟩,
  ⟨"cp1006", "", [(0xA1, "۰۱۲۳۴۵۶۷۸۹،\u061b"),
    (0xAE, "\u061f\ufe81\ufe8d\ufe8e\ufe8e\ufe8f\ufe91\ufb56\ufb58\ufe93\ufe95\ufe97"),
    (0xBA, "\ufb66\ufb68\ufe99\ufe9b\ufe9d\ufe9f\ufb7a\ufb7c\ufea1\ufea3\ufea5\ufea7"),
    (0xC6, "\ufea9\ufb84\ufeab\ufead\ufb8c\ufeaf\ufb8a\ufeb1\ufeb3\ufeb5\ufeb7\ufeb9"),
    (0xD2, "\ufebb\ufebd\ufebf\ufec1\ufec5\ufec9\ufeca\ufecb\ufecc\ufecd\ufece\ufecf"),
    (0xDE, "\ufed0\ufed1\ufed3\ufed5\ufed7\ufed9\ufedb\ufb92\ufb94\ufedd\ufedf\ufee0"),
    (0xEA, "\ufee1\ufee3\ufb9e\ufee5\ufee7\ufe85\ufeed\ufba6\ufba8\ufba9\ufbaa\ufe80"),
    (0xF6, "\ufe89\ufe8a\ufe8b\ufef1\ufef2\ufef3\ufbb0\ufbae\ufe7c\ufe7d")]⟩,
  ⟨"cp874", "iso8859_11", [(0x80, "€����…�����������‘’“”•–—��������")]⟩,
  ⟨"tis_620", "iso8859_11", [(0xA0, "�")]⟩,
  ⟨"iso8859_11", "", [
    (0xA1, "กขฃคฅฆงจฉชซฌญฎฏฐฑฒณดตถทธนบปผฝพฟภมยรฤลฦวศษสหฬอฮฯะ\u0e31าำ\u0e34\u0e35"),
    (0xD6, "\u0e36\u0e37\u0e38\u0e39\u0e3a����฿เแโใไๅ\u0e46\u0e47\u0e48\u0e49\u0e4a"),
    (0xEB, "\u0e4b\u0e4c\u0e4d\u0e4e๏๐๑๒๓๔๕๖๗๘๙๚๛����")]⟩,
  ⟨"hp_roman8", "", [
    (0xA1, "ÀÂÈÊËÎÏ´\u02cb\u02c6¨˜ÙÛ₤¯Ýý°ÇçÑñ¡¿¤£¥§ƒ¢âêôûáéóúàèòùäëöüÅîØÆåíøæÄìÖÜÉïß"),
    (0xDF, "ÔÁÃãÐðÍÌÓÒÕõŠšÚŸÿÞþ·µ¶¾—¼½ªº«■»±�")]⟩,
  ⟨"iso8859_8", "", [(0xA1, "�"), (0xAA, "×"), (0xBA, "÷"),
    (0xBF, "��������������������������������‗\u05d0\u05d1\u05d2\u05d3\u05d4\u05d5"),
    (0xE6, "\u05d6\u05d7\u05d8\u05d9\u05da\u05db\u05dc\u05dd\u05de\u05df\u05e0\u05e1"),
    (0xF2, "\u05e2\u05e3\u05e4\u05e5\u05e6\u05e7\u05e8\u05e9\u05ea��\u200e\u200f�")]⟩,
  ⟨"cp1254", "", [(0x80, "€�‚ƒ„…†‡\u02c6‰Š‹Œ����‘’“”•–—˜™š›œ��Ÿ"), (0xD0, "Ğ"), (0xDD, "İŞ"),
    (0xF0, "ğ"), (0xFD, "ış")]⟩,
  ⟨"palmos", "", [(0x80, "€"), (0x82, "‚ƒ„…†‡\u02c6‰Š‹Œ♦♣♥♠‘’“”•–—˜™š"), (0x9C, "œ"),
    (0x9F, "Ÿ")]⟩,
  ⟨"iso8859_15", "", [(0xA4, "€"), (0xA6, "Š"), (0xA8, "š"), (0xB4, "Ž"), (0xB8, "ž"),
    (0xBC, "ŒœŸ")]⟩,
  ⟨"cp1252", "", [(0x80, "€�‚ƒ„…†‡\u02c6‰Š‹Œ�Ž��‘’“”•–—˜™š›œ�žŸ")]⟩,
  ⟨"iso8859_9", "", [(0xD0, "Ğ"), (0xDD, "İŞ"), (0xF0, "ğ"), (0xFD, "ış")]⟩]

/-- The character that a byte stands for in the page of a name. -/
def char? (name : String) (byte : UInt8) : Option Char :=
  let c := charIn name byte.toNat all
  if c = unused then none else some c

end CodePage

end Swatch.Text

/-
**Charts of desktops and terminals.**

They are those of one maker each, and those that order letters by their sound.

* `Chart.desktop`: the charts.
-/

import RouteCompiler.Text.Charset.Chart

namespace RouteCompiler.Text

/-- Charts of desktops and terminals. -/
def Chart.desktop : List Chart := [
  { name := "mac_arabic"
    aliases := []
    rows := [
      "Ä\xa0ÇÉÑÖÜáàâäں«çéè",
      "êëí…îïñó»ôö÷úùûü",
      " !\"#$٪&'()*+،-./",
      "٠١٢٣٤٥٦٧٨٩:؛<=>؟",
      "❊ءآأؤإئابةتثجحخد",
      "ذرزسشصضطظعغ[\\]^_",
      "ـفقكلمنهوىي\u064b\u064c\u064d\u064e\u064f",
      "\u0650\u0651\u0652پٹچەڤگڈڑ\x7b|\x7dژے"] },
  { name := "mac_croatian"
    aliases := []
    rows := [
      "ÄÅÇÉÑÖÜáàâäãåçéè",
      "êëíìîïñóòôöõúùûü",
      "†°¢£§•¶ß®Š™´¨≠ŽØ",
      "∞±≤≥∆µ∂∑∏š∫ªºΩžø",
      "¿¡¬√ƒ≈Ć«Č…\xa0ÀÃÕŒœ",
      "Đ—“”‘’÷◊\uf8ff©⁄€‹›Æ»",
      "–·‚„‰ÂćÁčÈÍÎÏÌÓÔ",
      "đÒÚÛÙıˆ˜¯πË˚¸Êæˇ"] },
  { name := "mac_cyrillic"
    aliases := ["maccyrillic"]
    rows := [
      "АБВГДЕЖЗИЙКЛМНОП",
      "РСТУФХЦЧШЩЪЫЬЭЮЯ",
      "†°Ґ£§•¶І®©™Ђђ≠Ѓѓ",
      "∞±≤≥іµґЈЄєЇїЉљЊњ",
      "јЅ¬√ƒ≈∆«»…\xa0ЋћЌќѕ",
      "–—“”‘’÷„ЎўЏџ№Ёёя",
      "абвгдежзийклмноп",
      "рстуфхцчшщъыьэю€"] },
  { name := "mac_farsi"
    aliases := []
    rows := [
      "Ä\xa0ÇÉÑÖÜáàâäں«çéè",
      "êëí…îïñó»ôö÷úùûü",
      " !\"#$٪&'()*+،-./",
      "۰۱۲۳۴۵۶۷۸۹:؛<=>؟",
      "❊ءآأؤإئابةتثجحخد",
      "ذرزسشصضطظعغ[\\]^_",
      "ـفقكلمنهوىي\u064b\u064c\u064d\u064e\u064f",
      "\u0650\u0651\u0652پٹچەڤگڈڑ\x7b|\x7dژے"] },
  { name := "mac_greek"
    aliases := ["macgreek"]
    rows := [
      "Ä¹²É³ÖÜ΅àâä΄¨çéè",
      "êë£™îï•½‰ôö¦€ùûü",
      "†ΓΔΘΛΞΠß®©ΣΪ§≠°·",
      "Α±≤≥¥ΒΕΖΗΙΚΜΦΫΨΩ",
      "άΝ¬ΟΡ≈Τ«»…\xa0ΥΧΆΈœ",
      "–―“”‘’÷ΉΊΌΎέήίόΏ",
      "ύαβψδεφγηιξκλμνο",
      "πώρστθωςχυζϊϋΐΰ\xad"] },
  { name := "mac_iceland"
    aliases := ["maciceland"]
    rows := [
      "ÄÅÇÉÑÖÜáàâäãåçéè",
      "êëíìîïñóòôöõúùûü",
      "Ý°¢£§•¶ß®©™´¨≠ÆØ",
      "∞±≤≥¥µ∂∑∏π∫ªºΩæø",
      "¿¡¬√ƒ≈∆«»…\xa0ÀÃÕŒœ",
      "–—“”‘’÷◊ÿŸ⁄€ÐðÞþ",
      "ý·‚„‰ÂÊÁËÈÍÎÏÌÓÔ",
      "\uf8ffÒÚÛÙıˆ˜¯˘˙˚¸˝˛ˇ"] },
  { name := "mac_latin2"
    aliases := ["maccentraleurope", "mac_centeuro", "maclatin2"]
    rows := [
      "ÄĀāÉĄÖÜáąČäčĆćéŹ",
      "źĎíďĒēĖóėôöõúĚěü",
      "†°Ę£§•¶ß®©™ę¨≠ģĮ",
      "įĪ≤≥īĶ∂∑łĻļĽľĹĺŅ",
      "ņŃ¬√ńŇ∆«»…\xa0ňŐÕőŌ",
      "–—“”‘’÷◊ōŔŕŘ‹›řŖ",
      "ŗŠ‚„šŚśÁŤťÍŽžŪÓÔ",
      "ūŮÚůŰűŲųÝýķŻŁżĢˇ"] },
  { name := "mac_roman"
    aliases := ["macintosh", "macroman"]
    rows := [
      "ÄÅÇÉÑÖÜáàâäãåçéè",
      "êëíìîïñóòôöõúùûü",
      "†°¢£§•¶ß®©™´¨≠ÆØ",
      "∞±≤≥¥µ∂∑∏π∫ªºΩæø",
      "¿¡¬√ƒ≈∆«»…\xa0ÀÃÕŒœ",
      "–—“”‘’÷◊ÿŸ⁄€‹›ﬁﬂ",
      "‡·‚„‰ÂÊÁËÈÍÎÏÌÓÔ",
      "\uf8ffÒÚÛÙıˆ˜¯˘˙˚¸˝˛ˇ"] },
  { name := "mac_romanian"
    aliases := []
    rows := [
      "ÄÅÇÉÑÖÜáàâäãåçéè",
      "êëíìîïñóòôöõúùûü",
      "†°¢£§•¶ß®©™´¨≠ĂȘ",
      "∞±≤≥¥µ∂∑∏π∫ªºΩăș",
      "¿¡¬√ƒ≈∆«»…\xa0ÀÃÕŒœ",
      "–—“”‘’÷◊ÿŸ⁄€‹›Țț",
      "‡·‚„‰ÂÊÁËÈÍÎÏÌÓÔ",
      "\uf8ffÒÚÛÙıˆ˜¯˘˙˚¸˝˛ˇ"] },
  { name := "mac_turkish"
    aliases := ["macturkish"]
    rows := [
      "ÄÅÇÉÑÖÜáàâäãåçéè",
      "êëíìîïñóòôöõúùûü",
      "†°¢£§•¶ß®©™´¨≠ÆØ",
      "∞±≤≥¥µ∂∑∏π∫ªºΩæø",
      "¿¡¬√ƒ≈∆«»…\xa0ÀÃÕŒœ",
      "–—“”‘’÷◊ÿŸĞğİıŞş",
      "‡·‚„‰ÂÊÁËÈÍÎÏÌÓÔ",
      "\uf8ffÒÚÛÙ\uf8a0ˆ˜¯˘˙˚¸˝˛ˇ"] },
  { name := "hp_roman8"
    aliases := ["roman8", "r8", "cp1051", "ibm1051"]
    rows := [
      "\x80\x81\x82\x83\x84\x85\x86\x87\x88\x89\x8a\x8b\x8c\x8d\x8e\x8f",
      "\x90\x91\x92\x93\x94\x95\x96\x97\x98\x99\x9a\x9b\x9c\x9d\x9e\x9f",
      "\xa0ÀÂÈÊËÎÏ´ˋˆ¨˜ÙÛ₤",
      "¯Ýý°ÇçÑñ¡¿¤£¥§ƒ¢",
      "âêôûáéóúàèòùäëöü",
      "ÅîØÆåíøæÄìÖÜÉïßÔ",
      "ÁÃãÐðÍÌÓÒÕõŠšÚŸÿ",
      "Þþ·µ¶¾—¼½ªº«■»±\ufffd"] },
  { name := "koi8_r"
    aliases := ["cskoi8r"]
    rows := [
      "─│┌┐└┘├┤┬┴┼▀▄█▌▐",
      "░▒▓⌠■∙√≈≤≥\xa0⌡°²·÷",
      "═║╒ё╓╔╕╖╗╘╙╚╛╜╝╞",
      "╟╠╡Ё╢╣╤╥╦╧╨╩╪╫╬©",
      "юабцдефгхийклмно",
      "пярстужвьызшэщчъ",
      "ЮАБЦДЕФГХИЙКЛМНО",
      "ПЯРСТУЖВЬЫЗШЭЩЧЪ"] },
  { name := "koi8_t"
    aliases := []
    rows := [
      "қғ‚Ғ„…†‡\ufffd‰ҳ‹ҲҷҶ\ufffd",
      "Қ‘’“”•–—\ufffd™\ufffd›\ufffd\ufffd\ufffd\ufffd",
      "\ufffdӯӮё¤ӣ¦§\ufffd\ufffd\ufffd«¬\xad®\ufffd",
      "°±²Ё\ufffdӢ¶·\ufffd№\ufffd»\ufffd\ufffd\ufffd©",
      "юабцдефгхийклмно",
      "пярстужвьызшэщчъ",
      "ЮАБЦДЕФГХИЙКЛМНО",
      "ПЯРСТУЖВЬЫЗШЭЩЧЪ"] },
  { name := "koi8_u"
    aliases := []
    rows := [
      "─│┌┐└┘├┤┬┴┼▀▄█▌▐",
      "░▒▓⌠■∙√≈≤≥\xa0⌡°²·÷",
      "═║╒ёє╔ії╗╘╙╚╛ґ╝╞",
      "╟╠╡ЁЄ╣ІЇ╦╧╨╩╪Ґ╬©",
      "юабцдефгхийклмно",
      "пярстужвьызшэщчъ",
      "ЮАБЦДЕФГХИЙКЛМНО",
      "ПЯРСТУЖВЬЫЗШЭЩЧЪ"] }]

end RouteCompiler.Text

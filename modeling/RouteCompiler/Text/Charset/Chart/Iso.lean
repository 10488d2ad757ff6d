/-
**Charts of the ISO standards.**

Each chart keeps the characters below 0x80 and gives those above it to a language or a region.

* `Chart.iso`: the charts.
-/

import RouteCompiler.Text.Charset.Chart

namespace RouteCompiler.Text

/-- Charts of the ISO standards. -/
def Chart.iso : List Chart := [
  { name := "iso8859_2"
    aliases := ["csisolatin2", "iso_8859_2", "iso_8859_2_1987", "iso_ir_101", "l2", "latin2"]
    rows := [
      "\x80\x81\x82\x83\x84\x85\x86\x87\x88\x89\x8a\x8b\x8c\x8d\x8e\x8f",
      "\x90\x91\x92\x93\x94\x95\x96\x97\x98\x99\x9a\x9b\x9c\x9d\x9e\x9f",
      "\xa0Ą˘Ł¤ĽŚ§¨ŠŞŤŹ\xadŽŻ",
      "°ą˛ł´ľśˇ¸šşťź˝žż",
      "ŔÁÂĂÄĹĆÇČÉĘËĚÍÎĎ",
      "ĐŃŇÓÔŐÖ×ŘŮÚŰÜÝŢß",
      "ŕáâăäĺćçčéęëěíîď",
      "đńňóôőö÷řůúűüýţ˙"] },
  { name := "iso8859_3"
    aliases := ["csisolatin3", "iso_8859_3", "iso_8859_3_1988", "iso_ir_109", "l3", "latin3"]
    rows := [
      "\x80\x81\x82\x83\x84\x85\x86\x87\x88\x89\x8a\x8b\x8c\x8d\x8e\x8f",
      "\x90\x91\x92\x93\x94\x95\x96\x97\x98\x99\x9a\x9b\x9c\x9d\x9e\x9f",
      "\xa0Ħ˘£¤\ufffdĤ§¨İŞĞĴ\xad\ufffdŻ",
      "°ħ²³´µĥ·¸ışğĵ½\ufffdż",
      "ÀÁÂ\ufffdÄĊĈÇÈÉÊËÌÍÎÏ",
      "\ufffdÑÒÓÔĠÖ×ĜÙÚÛÜŬŜß",
      "àáâ\ufffdäċĉçèéêëìíîï",
      "\ufffdñòóôġö÷ĝùúûüŭŝ˙"] },
  { name := "iso8859_4"
    aliases := ["csisolatin4", "iso_8859_4", "iso_8859_4_1988", "iso_ir_110", "l4", "latin4"]
    rows := [
      "\x80\x81\x82\x83\x84\x85\x86\x87\x88\x89\x8a\x8b\x8c\x8d\x8e\x8f",
      "\x90\x91\x92\x93\x94\x95\x96\x97\x98\x99\x9a\x9b\x9c\x9d\x9e\x9f",
      "\xa0ĄĸŖ¤ĨĻ§¨ŠĒĢŦ\xadŽ¯",
      "°ą˛ŗ´ĩļˇ¸šēģŧŊžŋ",
      "ĀÁÂÃÄÅÆĮČÉĘËĖÍÎĪ",
      "ĐŅŌĶÔÕÖ×ØŲÚÛÜŨŪß",
      "āáâãäåæįčéęëėíîī",
      "đņōķôõö÷øųúûüũū˙"] },
  { name := "iso8859_5"
    aliases := ["csisolatincyrillic", "cyrillic", "iso_8859_5", "iso_8859_5_1988", "iso_ir_144"]
    rows := [
      "\x80\x81\x82\x83\x84\x85\x86\x87\x88\x89\x8a\x8b\x8c\x8d\x8e\x8f",
      "\x90\x91\x92\x93\x94\x95\x96\x97\x98\x99\x9a\x9b\x9c\x9d\x9e\x9f",
      "\xa0ЁЂЃЄЅІЇЈЉЊЋЌ\xadЎЏ",
      "АБВГДЕЖЗИЙКЛМНОП",
      "РСТУФХЦЧШЩЪЫЬЭЮЯ",
      "абвгдежзийклмноп",
      "рстуфхцчшщъыьэюя",
      "№ёђѓєѕіїјљњћќ§ўџ"] },
  { name := "iso8859_6"
    aliases := ["arabic", "asmo_708", "csisolatinarabic", "ecma_114", "iso_8859_6",
      "iso_8859_6_1987", "iso_ir_127"]
    rows := [
      "\x80\x81\x82\x83\x84\x85\x86\x87\x88\x89\x8a\x8b\x8c\x8d\x8e\x8f",
      "\x90\x91\x92\x93\x94\x95\x96\x97\x98\x99\x9a\x9b\x9c\x9d\x9e\x9f",
      "\xa0\ufffd\ufffd\ufffd¤\ufffd\ufffd\ufffd\ufffd\ufffd\ufffd\ufffd،\xad\ufffd\ufffd",
      "\ufffd\ufffd\ufffd\ufffd\ufffd\ufffd\ufffd\ufffd\ufffd\ufffd\ufffd؛\ufffd\ufffd\ufffd؟",
      "\ufffdءآأؤإئابةتثجحخد",
      "ذرزسشصضطظعغ\ufffd\ufffd\ufffd\ufffd\ufffd",
      "ـفقكلمنهوىي\u064b\u064c\u064d\u064e\u064f",
      "\u0650\u0651\u0652\ufffd\ufffd\ufffd\ufffd\ufffd\ufffd\ufffd\ufffd\ufffd\ufffd\ufffd\ufffd\ufffd"] },
  { name := "iso8859_7"
    aliases := ["csisolatingreek", "ecma_118", "elot_928", "greek", "greek8", "iso_8859_7",
      "iso_8859_7_1987", "iso_ir_126"]
    rows := [
      "\x80\x81\x82\x83\x84\x85\x86\x87\x88\x89\x8a\x8b\x8c\x8d\x8e\x8f",
      "\x90\x91\x92\x93\x94\x95\x96\x97\x98\x99\x9a\x9b\x9c\x9d\x9e\x9f",
      "\xa0‘’£€₯¦§¨©ͺ«¬\xad\ufffd―",
      "°±²³΄΅Ά·ΈΉΊ»Ό½ΎΏ",
      "ΐΑΒΓΔΕΖΗΘΙΚΛΜΝΞΟ",
      "ΠΡ\ufffdΣΤΥΦΧΨΩΪΫάέήί",
      "ΰαβγδεζηθικλμνξο",
      "πρςστυφχψωϊϋόύώ\ufffd"] },
  { name := "iso8859_8"
    aliases := ["csisolatinhebrew", "hebrew", "iso_8859_8", "iso_8859_8_1988", "iso_ir_138"]
    rows := [
      "\x80\x81\x82\x83\x84\x85\x86\x87\x88\x89\x8a\x8b\x8c\x8d\x8e\x8f",
      "\x90\x91\x92\x93\x94\x95\x96\x97\x98\x99\x9a\x9b\x9c\x9d\x9e\x9f",
      "\xa0\ufffd¢£¤¥¦§¨©×«¬\xad®¯",
      "°±²³´µ¶·¸¹÷»¼½¾\ufffd",
      "\ufffd\ufffd\ufffd\ufffd\ufffd\ufffd\ufffd\ufffd\ufffd\ufffd\ufffd\ufffd\ufffd\ufffd\ufffd\ufffd",
      "\ufffd\ufffd\ufffd\ufffd\ufffd\ufffd\ufffd\ufffd\ufffd\ufffd\ufffd\ufffd\ufffd\ufffd\ufffd‗",
      "אבגדהוזחטיךכלםמן",
      "נסעףפץצקרשת\ufffd\ufffd\u200e\u200f\ufffd"] },
  { name := "iso8859_9"
    aliases := ["csisolatin5", "iso_8859_9", "iso_8859_9_1989", "iso_ir_148", "l5", "latin5"]
    rows := [
      "\x80\x81\x82\x83\x84\x85\x86\x87\x88\x89\x8a\x8b\x8c\x8d\x8e\x8f",
      "\x90\x91\x92\x93\x94\x95\x96\x97\x98\x99\x9a\x9b\x9c\x9d\x9e\x9f",
      "\xa0¡¢£¤¥¦§¨©ª«¬\xad®¯",
      "°±²³´µ¶·¸¹º»¼½¾¿",
      "ÀÁÂÃÄÅÆÇÈÉÊËÌÍÎÏ",
      "ĞÑÒÓÔÕÖ×ØÙÚÛÜİŞß",
      "àáâãäåæçèéêëìíîï",
      "ğñòóôõö÷øùúûüışÿ"] },
  { name := "iso8859_10"
    aliases := ["csisolatin6", "iso_8859_10", "iso_8859_10_1992", "iso_ir_157", "l6", "latin6"]
    rows := [
      "\x80\x81\x82\x83\x84\x85\x86\x87\x88\x89\x8a\x8b\x8c\x8d\x8e\x8f",
      "\x90\x91\x92\x93\x94\x95\x96\x97\x98\x99\x9a\x9b\x9c\x9d\x9e\x9f",
      "\xa0ĄĒĢĪĨĶ§ĻĐŠŦŽ\xadŪŊ",
      "°ąēģīĩķ·ļđšŧž―ūŋ",
      "ĀÁÂÃÄÅÆĮČÉĘËĖÍÎÏ",
      "ÐŅŌÓÔÕÖŨØŲÚÛÜÝÞß",
      "āáâãäåæįčéęëėíîï",
      "ðņōóôõöũøųúûüýþĸ"] },
  { name := "iso8859_11"
    aliases := ["thai", "iso_8859_11", "iso_8859_11_2001"]
    rows := [
      "\x80\x81\x82\x83\x84\x85\x86\x87\x88\x89\x8a\x8b\x8c\x8d\x8e\x8f",
      "\x90\x91\x92\x93\x94\x95\x96\x97\x98\x99\x9a\x9b\x9c\x9d\x9e\x9f",
      "\xa0กขฃคฅฆงจฉชซฌญฎฏ",
      "ฐฑฒณดตถทธนบปผฝพฟ",
      "ภมยรฤลฦวศษสหฬอฮฯ",
      "ะ\u0e31าำ\u0e34\u0e35\u0e36\u0e37\u0e38\u0e39\u0e3a\ufffd\ufffd\ufffd\ufffd฿",
      "เแโใไๅๆ\u0e47\u0e48\u0e49\u0e4a\u0e4b\u0e4c\u0e4d\u0e4e๏",
      "๐๑๒๓๔๕๖๗๘๙๚๛\ufffd\ufffd\ufffd\ufffd"] },
  { name := "iso8859_13"
    aliases := ["iso_8859_13", "l7", "latin7"]
    rows := [
      "\x80\x81\x82\x83\x84\x85\x86\x87\x88\x89\x8a\x8b\x8c\x8d\x8e\x8f",
      "\x90\x91\x92\x93\x94\x95\x96\x97\x98\x99\x9a\x9b\x9c\x9d\x9e\x9f",
      "\xa0”¢£¤„¦§Ø©Ŗ«¬\xad®Æ",
      "°±²³“µ¶·ø¹ŗ»¼½¾æ",
      "ĄĮĀĆÄÅĘĒČÉŹĖĢĶĪĻ",
      "ŠŃŅÓŌÕÖ×ŲŁŚŪÜŻŽß",
      "ąįāćäåęēčéźėģķīļ",
      "šńņóōõö÷ųłśūüżž’"] },
  { name := "iso8859_14"
    aliases := ["iso_8859_14", "iso_8859_14_1998", "iso_celtic", "iso_ir_199", "l8", "latin8"]
    rows := [
      "\x80\x81\x82\x83\x84\x85\x86\x87\x88\x89\x8a\x8b\x8c\x8d\x8e\x8f",
      "\x90\x91\x92\x93\x94\x95\x96\x97\x98\x99\x9a\x9b\x9c\x9d\x9e\x9f",
      "\xa0Ḃḃ£ĊċḊ§Ẁ©ẂḋỲ\xad®Ÿ",
      "ḞḟĠġṀṁ¶ṖẁṗẃṠỳẄẅṡ",
      "ÀÁÂÃÄÅÆÇÈÉÊËÌÍÎÏ",
      "ŴÑÒÓÔÕÖṪØÙÚÛÜÝŶß",
      "àáâãäåæçèéêëìíîï",
      "ŵñòóôõöṫøùúûüýŷÿ"] },
  { name := "iso8859_15"
    aliases := ["iso_8859_15", "l9", "latin9"]
    rows := [
      "\x80\x81\x82\x83\x84\x85\x86\x87\x88\x89\x8a\x8b\x8c\x8d\x8e\x8f",
      "\x90\x91\x92\x93\x94\x95\x96\x97\x98\x99\x9a\x9b\x9c\x9d\x9e\x9f",
      "\xa0¡¢£€¥Š§š©ª«¬\xad®¯",
      "°±²³Žµ¶·ž¹º»ŒœŸ¿",
      "ÀÁÂÃÄÅÆÇÈÉÊËÌÍÎÏ",
      "ÐÑÒÓÔÕÖ×ØÙÚÛÜÝÞß",
      "àáâãäåæçèéêëìíîï",
      "ðñòóôõö÷øùúûüýþÿ"] },
  { name := "iso8859_16"
    aliases := ["iso_8859_16", "iso_8859_16_2001", "iso_ir_226", "l10", "latin10"]
    rows := [
      "\x80\x81\x82\x83\x84\x85\x86\x87\x88\x89\x8a\x8b\x8c\x8d\x8e\x8f",
      "\x90\x91\x92\x93\x94\x95\x96\x97\x98\x99\x9a\x9b\x9c\x9d\x9e\x9f",
      "\xa0ĄąŁ€„Š§š©Ș«Ź\xadźŻ",
      "°±ČłŽ”¶·žčș»ŒœŸż",
      "ÀÁÂĂÄĆÆÇÈÉÊËÌÍÎÏ",
      "ĐŃÒÓÔŐÖŚŰÙÚÛÜĘȚß",
      "àáâăäćæçèéêëìíîï",
      "đńòóôőöśűùúûüęțÿ"] },
  { name := "tis_620"
    aliases := ["tis620", "tis_620_0", "tis_620_2529_0", "tis_620_2529_1", "iso_ir_166"]
    rows := [
      "\x80\x81\x82\x83\x84\x85\x86\x87\x88\x89\x8a\x8b\x8c\x8d\x8e\x8f",
      "\x90\x91\x92\x93\x94\x95\x96\x97\x98\x99\x9a\x9b\x9c\x9d\x9e\x9f",
      "\ufffdกขฃคฅฆงจฉชซฌญฎฏ",
      "ฐฑฒณดตถทธนบปผฝพฟ",
      "ภมยรฤลฦวศษสหฬอฮฯ",
      "ะ\u0e31าำ\u0e34\u0e35\u0e36\u0e37\u0e38\u0e39\u0e3a\ufffd\ufffd\ufffd\ufffd฿",
      "เแโใไๅๆ\u0e47\u0e48\u0e49\u0e4a\u0e4b\u0e4c\u0e4d\u0e4e๏",
      "๐๑๒๓๔๕๖๗๘๙๚๛\ufffd\ufffd\ufffd\ufffd"] }]

end RouteCompiler.Text

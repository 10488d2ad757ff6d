/-
**Charts of windowed systems.**

They fill the places that the ISO charts leave to control characters.

* `Chart.windows`: the charts.
-/

import RouteCompiler.Text.Charset.Chart

namespace RouteCompiler.Text

/-- Charts of windowed systems. -/
def Chart.windows : List Chart := [
  { name := "cp1250"
    aliases := ["1250", "windows_1250"]
    rows := [
      "€\ufffd‚\ufffd„…†‡\ufffd‰Š‹ŚŤŽŹ",
      "\ufffd‘’“”•–—\ufffd™š›śťžź",
      "\xa0ˇ˘Ł¤Ą¦§¨©Ş«¬\xad®Ż",
      "°±˛ł´µ¶·¸ąş»Ľ˝ľż",
      "ŔÁÂĂÄĹĆÇČÉĘËĚÍÎĎ",
      "ĐŃŇÓÔŐÖ×ŘŮÚŰÜÝŢß",
      "ŕáâăäĺćçčéęëěíîď",
      "đńňóôőö÷řůúűüýţ˙"] },
  { name := "cp1251"
    aliases := ["1251", "windows_1251"]
    rows := [
      "ЂЃ‚ѓ„…†‡€‰Љ‹ЊЌЋЏ",
      "ђ‘’“”•–—\ufffd™љ›њќћџ",
      "\xa0ЎўЈ¤Ґ¦§Ё©Є«¬\xad®Ї",
      "°±Ііґµ¶·ё№є»јЅѕї",
      "АБВГДЕЖЗИЙКЛМНОП",
      "РСТУФХЦЧШЩЪЫЬЭЮЯ",
      "абвгдежзийклмноп",
      "рстуфхцчшщъыьэюя"] },
  { name := "cp1252"
    aliases := ["1252", "windows_1252"]
    rows := [
      "€\ufffd‚ƒ„…†‡ˆ‰Š‹Œ\ufffdŽ\ufffd",
      "\ufffd‘’“”•–—˜™š›œ\ufffdžŸ",
      "\xa0¡¢£¤¥¦§¨©ª«¬\xad®¯",
      "°±²³´µ¶·¸¹º»¼½¾¿",
      "ÀÁÂÃÄÅÆÇÈÉÊËÌÍÎÏ",
      "ÐÑÒÓÔÕÖ×ØÙÚÛÜÝÞß",
      "àáâãäåæçèéêëìíîï",
      "ðñòóôõö÷øùúûüýþÿ"] },
  { name := "cp1253"
    aliases := ["1253", "windows_1253"]
    rows := [
      "€\ufffd‚ƒ„…†‡\ufffd‰\ufffd‹\ufffd\ufffd\ufffd\ufffd",
      "\ufffd‘’“”•–—\ufffd™\ufffd›\ufffd\ufffd\ufffd\ufffd",
      "\xa0΅Ά£¤¥¦§¨©\ufffd«¬\xad®―",
      "°±²³΄µ¶·ΈΉΊ»Ό½ΎΏ",
      "ΐΑΒΓΔΕΖΗΘΙΚΛΜΝΞΟ",
      "ΠΡ\ufffdΣΤΥΦΧΨΩΪΫάέήί",
      "ΰαβγδεζηθικλμνξο",
      "πρςστυφχψωϊϋόύώ\ufffd"] },
  { name := "cp1254"
    aliases := ["1254", "windows_1254"]
    rows := [
      "€\ufffd‚ƒ„…†‡ˆ‰Š‹Œ\ufffd\ufffd\ufffd",
      "\ufffd‘’“”•–—˜™š›œ\ufffd\ufffdŸ",
      "\xa0¡¢£¤¥¦§¨©ª«¬\xad®¯",
      "°±²³´µ¶·¸¹º»¼½¾¿",
      "ÀÁÂÃÄÅÆÇÈÉÊËÌÍÎÏ",
      "ĞÑÒÓÔÕÖ×ØÙÚÛÜİŞß",
      "àáâãäåæçèéêëìíîï",
      "ğñòóôõö÷øùúûüışÿ"] },
  { name := "cp1255"
    aliases := ["1255", "windows_1255"]
    rows := [
      "€\ufffd‚ƒ„…†‡ˆ‰\ufffd‹\ufffd\ufffd\ufffd\ufffd",
      "\ufffd‘’“”•–—˜™\ufffd›\ufffd\ufffd\ufffd\ufffd",
      "\xa0¡¢£₪¥¦§¨©×«¬\xad®¯",
      "°±²³´µ¶·¸¹÷»¼½¾¿",
      "\u05b0\u05b1\u05b2\u05b3\u05b4\u05b5\u05b6\u05b7\u05b8\u05b9\ufffd\u05bb\u05bc\u05bd־\u05bf",
      "׀\u05c1\u05c2׃װױײ׳״\ufffd\ufffd\ufffd\ufffd\ufffd\ufffd\ufffd",
      "אבגדהוזחטיךכלםמן",
      "נסעףפץצקרשת\ufffd\ufffd\u200e\u200f\ufffd"] },
  { name := "cp1256"
    aliases := ["1256", "windows_1256"]
    rows := [
      "€پ‚ƒ„…†‡ˆ‰ٹ‹Œچژڈ",
      "گ‘’“”•–—ک™ڑ›œ\u200c\u200dں",
      "\xa0،¢£¤¥¦§¨©ھ«¬\xad®¯",
      "°±²³´µ¶·¸¹؛»¼½¾؟",
      "ہءآأؤإئابةتثجحخد",
      "ذرزسشصض×طظعغـفقك",
      "àلâمنهوçèéêëىيîï",
      "\u064b\u064c\u064d\u064eô\u064f\u0650÷\u0651ù\u0652ûü\u200e\u200fے"] },
  { name := "cp1257"
    aliases := ["1257", "windows_1257"]
    rows := [
      "€\ufffd‚\ufffd„…†‡\ufffd‰\ufffd‹\ufffd¨ˇ¸",
      "\ufffd‘’“”•–—\ufffd™\ufffd›\ufffd¯˛\ufffd",
      "\xa0\ufffd¢£¤\ufffd¦§Ø©Ŗ«¬\xad®Æ",
      "°±²³´µ¶·ø¹ŗ»¼½¾æ",
      "ĄĮĀĆÄÅĘĒČÉŹĖĢĶĪĻ",
      "ŠŃŅÓŌÕÖ×ŲŁŚŪÜŻŽß",
      "ąįāćäåęēčéźėģķīļ",
      "šńņóōõö÷ųłśūüżž˙"] },
  { name := "cp1258"
    aliases := ["1258", "windows_1258"]
    rows := [
      "€\ufffd‚ƒ„…†‡ˆ‰\ufffd‹Œ\ufffd\ufffd\ufffd",
      "\ufffd‘’“”•–—˜™\ufffd›œ\ufffd\ufffdŸ",
      "\xa0¡¢£¤¥¦§¨©ª«¬\xad®¯",
      "°±²³´µ¶·¸¹º»¼½¾¿",
      "ÀÁÂĂÄÅÆÇÈÉÊË\u0300ÍÎÏ",
      "ĐÑ\u0309ÓÔƠÖ×ØÙÚÛÜƯ\u0303ß",
      "àáâăäåæçèéêë\u0301íîï",
      "đñ\u0323óôơö÷øùúûüư₫ÿ"] },
  { name := "cp874"
    aliases := []
    rows := [
      "€\ufffd\ufffd\ufffd\ufffd…\ufffd\ufffd\ufffd\ufffd\ufffd\ufffd\ufffd\ufffd\ufffd\ufffd",
      "\ufffd‘’“”•–—\ufffd\ufffd\ufffd\ufffd\ufffd\ufffd\ufffd\ufffd",
      "\xa0กขฃคฅฆงจฉชซฌญฎฏ",
      "ฐฑฒณดตถทธนบปผฝพฟ",
      "ภมยรฤลฦวศษสหฬอฮฯ",
      "ะ\u0e31าำ\u0e34\u0e35\u0e36\u0e37\u0e38\u0e39\u0e3a\ufffd\ufffd\ufffd\ufffd฿",
      "เแโใไๅๆ\u0e47\u0e48\u0e49\u0e4a\u0e4b\u0e4c\u0e4d\u0e4e๏",
      "๐๑๒๓๔๕๖๗๘๙๚๛\ufffd\ufffd\ufffd\ufffd"] },
  { name := "kz1048"
    aliases := ["kz_1048", "rk1048", "strk1048_2002"]
    rows := [
      "ЂЃ‚ѓ„…†‡€‰Љ‹ЊҚҺЏ",
      "ђ‘’“”•–—\ufffd™љ›њқһџ",
      "\xa0ҰұӘ¤Ө¦§Ё©Ғ«¬\xad®Ү",
      "°±Ііөµ¶·ё№ғ»әҢңү",
      "АБВГДЕЖЗИЙКЛМНОП",
      "РСТУФХЦЧШЩЪЫЬЭЮЯ",
      "абвгдежзийклмноп",
      "рстуфхцчшщъыьэюя"] },
  { name := "ptcp154"
    aliases := ["csptcp154", "pt154", "cp154", "cyrillic_asian"]
    rows := [
      "ҖҒӮғ„…ҶҮҲүҠӢҢҚҺҸ",
      "җ‘’“”•–—ҳҷҡӣңқһҹ",
      "\xa0ЎўЈӨҘҰ§Ё©Ә«¬ӯ®Ҝ",
      "°ұІіҙө¶·ё№ә»јҪҫҝ",
      "АБВГДЕЖЗИЙКЛМНОП",
      "РСТУФХЦЧШЩЪЫЬЭЮЯ",
      "абвгдежзийклмноп",
      "рстуфхцчшщъыьэюя"] },
  { name := "palmos"
    aliases := []
    rows := [
      "€\x81‚ƒ„…†‡ˆ‰Š‹Œ♦♣♥",
      "♠‘’“”•–—˜™š\x9bœ\x9d\x9eŸ",
      "\xa0¡¢£¤¥¦§¨©ª«¬\xad®¯",
      "°±²³´µ¶·¸¹º»¼½¾¿",
      "ÀÁÂÃÄÅÆÇÈÉÊËÌÍÎÏ",
      "ÐÑÒÓÔÕÖ×ØÙÚÛÜÝÞß",
      "àáâãäåæçèéêëìíîï",
      "ðñòóôõö÷øùúûüýþÿ"] },
  { name := "cp1006"
    aliases := []
    rows := [
      "\x80\x81\x82\x83\x84\x85\x86\x87\x88\x89\x8a\x8b\x8c\x8d\x8e\x8f",
      "\x90\x91\x92\x93\x94\x95\x96\x97\x98\x99\x9a\x9b\x9c\x9d\x9e\x9f",
      "\xa0۰۱۲۳۴۵۶۷۸۹،؛\xad؟ﺁ",
      "ﺍﺎﺎﺏﺑﭖﭘﺓﺕﺗﭦﭨﺙﺛﺝﺟ",
      "ﭺﭼﺡﺣﺥﺧﺩﮄﺫﺭﮌﺯﮊﺱﺳﺵ",
      "ﺷﺹﺻﺽﺿﻁﻅﻉﻊﻋﻌﻍﻎﻏﻐﻑ",
      "ﻓﻕﻗﻙﻛﮒﮔﻝﻟﻠﻡﻣﮞﻥﻧﺅ",
      "ﻭﮦﮨﮩﮪﺀﺉﺊﺋﻱﻲﻳﮰﮮﹼﹽ"] }]

end RouteCompiler.Text

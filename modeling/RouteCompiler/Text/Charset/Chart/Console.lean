/-
**Charts of consoles.**

Beside letters they hold the lines and blocks that frames are drawn with.

* `Chart.console`: the charts.
-/

import RouteCompiler.Text.Charset.Chart

namespace RouteCompiler.Text

/-- Charts of consoles. -/
def Chart.console : List Chart := [
  { name := "cp437"
    aliases := ["437", "cspc8codepage437", "ibm437"]
    rows := [
      "ÇüéâäàåçêëèïîìÄÅ",
      "ÉæÆôöòûùÿÖÜ¢£¥₧ƒ",
      "áíóúñÑªº¿⌐¬½¼¡«»",
      "░▒▓│┤╡╢╖╕╣║╗╝╜╛┐",
      "└┴┬├─┼╞╟╚╔╩╦╠═╬╧",
      "╨╤╥╙╘╒╓╫╪┘┌█▄▌▐▀",
      "αßΓπΣσµτΦΘΩδ∞φε∩",
      "≡±≥≤⌠⌡÷≈°∙·√ⁿ²■\xa0"] },
  { name := "cp720"
    aliases := []
    rows := [
      "\x80\x81éâ\x84à\x86çêëèïî\x8d\x8e\x8f",
      "\x90\u0651\u0652ô¤ـûùءآأؤ£إئا",
      "بةتثجحخدذرزسشص«»",
      "░▒▓│┤╡╢╖╕╣║╗╝╜╛┐",
      "└┴┬├─┼╞╟╚╔╩╦╠═╬╧",
      "╨╤╥╙╘╒╓╫╪┘┌█▄▌▐▀",
      "ضطظعغفµقكلمنهوىي",
      "≡\u064b\u064c\u064d\u064e\u064f\u0650≈°∙·√ⁿ²■\xa0"] },
  { name := "cp737"
    aliases := []
    rows := [
      "ΑΒΓΔΕΖΗΘΙΚΛΜΝΞΟΠ",
      "ΡΣΤΥΦΧΨΩαβγδεζηθ",
      "ικλμνξοπρσςτυφχψ",
      "░▒▓│┤╡╢╖╕╣║╗╝╜╛┐",
      "└┴┬├─┼╞╟╚╔╩╦╠═╬╧",
      "╨╤╥╙╘╒╓╫╪┘┌█▄▌▐▀",
      "ωάέήϊίόύϋώΆΈΉΊΌΎ",
      "Ώ±≥≤ΪΫ÷≈°∙·√ⁿ²■\xa0"] },
  { name := "cp775"
    aliases := ["775", "cspc775baltic", "ibm775"]
    rows := [
      "ĆüéāäģåćłēŖŗīŹÄÅ",
      "ÉæÆōöĢ¢ŚśÖÜø£Ø×¤",
      "ĀĪóŻżź”¦©®¬½¼Ł«»",
      "░▒▓│┤ĄČĘĖ╣║╗╝ĮŠ┐",
      "└┴┬├─┼ŲŪ╚╔╩╦╠═╬Ž",
      "ąčęėįšųūž┘┌█▄▌▐▀",
      "ÓßŌŃõÕµńĶķĻļņĒŅ’",
      "\xad±“¾¶§÷„°∙·¹³²■\xa0"] },
  { name := "cp850"
    aliases := ["850", "cspc850multilingual", "ibm850"]
    rows := [
      "ÇüéâäàåçêëèïîìÄÅ",
      "ÉæÆôöòûùÿÖÜø£Ø×ƒ",
      "áíóúñÑªº¿®¬½¼¡«»",
      "░▒▓│┤ÁÂÀ©╣║╗╝¢¥┐",
      "└┴┬├─┼ãÃ╚╔╩╦╠═╬¤",
      "ðÐÊËÈıÍÎÏ┘┌█▄¦Ì▀",
      "ÓßÔÒõÕµþÞÚÛÙýÝ¯´",
      "\xad±‗¾¶§÷¸°¨·¹³²■\xa0"] },
  { name := "cp852"
    aliases := ["852", "cspcp852", "ibm852"]
    rows := [
      "ÇüéâäůćçłëŐőîŹÄĆ",
      "ÉĹĺôöĽľŚśÖÜŤťŁ×č",
      "áíóúĄąŽžĘę¬źČş«»",
      "░▒▓│┤ÁÂĚŞ╣║╗╝Żż┐",
      "└┴┬├─┼Ăă╚╔╩╦╠═╬¤",
      "đĐĎËďŇÍÎě┘┌█▄ŢŮ▀",
      "ÓßÔŃńňŠšŔÚŕŰýÝţ´",
      "\xad˝˛ˇ˘§÷¸°¨˙űŘř■\xa0"] },
  { name := "cp855"
    aliases := ["855", "csibm855", "ibm855"]
    rows := [
      "ђЂѓЃёЁєЄѕЅіІїЇјЈ",
      "љЉњЊћЋќЌўЎџЏюЮъЪ",
      "аАбБцЦдДеЕфФгГ«»",
      "░▒▓│┤хХиИ╣║╗╝йЙ┐",
      "└┴┬├─┼кК╚╔╩╦╠═╬¤",
      "лЛмМнНоОп┘┌█▄Пя▀",
      "ЯрРсСтТуУжЖвВьЬ№",
      "\xadыЫзЗшШэЭщЩчЧ§■\xa0"] },
  { name := "cp856"
    aliases := []
    rows := [
      "אבגדהוזחטיךכלםמן",
      "נסעףפץצקרשת\ufffd£\ufffd×\ufffd",
      "\ufffd\ufffd\ufffd\ufffd\ufffd\ufffd\ufffd\ufffd\ufffd®¬½¼\ufffd«»",
      "░▒▓│┤\ufffd\ufffd\ufffd©╣║╗╝¢¥┐",
      "└┴┬├─┼\ufffd\ufffd╚╔╩╦╠═╬¤",
      "\ufffd\ufffd\ufffd\ufffd\ufffd\ufffd\ufffd\ufffd\ufffd┘┌█▄¦\ufffd▀",
      "\ufffd\ufffd\ufffd\ufffd\ufffd\ufffdµ\ufffd\ufffd\ufffd\ufffd\ufffd\ufffd\ufffd¯´",
      "\xad±‗¾¶§÷¸°¨·¹³²■\xa0"] },
  { name := "cp857"
    aliases := ["857", "csibm857", "ibm857"]
    rows := [
      "ÇüéâäàåçêëèïîıÄÅ",
      "ÉæÆôöòûùİÖÜø£ØŞş",
      "áíóúñÑĞğ¿®¬½¼¡«»",
      "░▒▓│┤ÁÂÀ©╣║╗╝¢¥┐",
      "└┴┬├─┼ãÃ╚╔╩╦╠═╬¤",
      "ºªÊËÈ\ufffdÍÎÏ┘┌█▄¦Ì▀",
      "ÓßÔÒõÕµ\ufffd×ÚÛÙìÿ¯´",
      "\xad±\ufffd¾¶§÷¸°¨·¹³²■\xa0"] },
  { name := "cp858"
    aliases := ["858", "csibm858", "ibm858"]
    rows := [
      "ÇüéâäàåçêëèïîìÄÅ",
      "ÉæÆôöòûùÿÖÜø£Ø×ƒ",
      "áíóúñÑªº¿®¬½¼¡«»",
      "░▒▓│┤ÁÂÀ©╣║╗╝¢¥┐",
      "└┴┬├─┼ãÃ╚╔╩╦╠═╬¤",
      "ðÐÊËÈ€ÍÎÏ┘┌█▄¦Ì▀",
      "ÓßÔÒõÕµþÞÚÛÙýÝ¯´",
      "\xad±‗¾¶§÷¸°¨·¹³²■\xa0"] },
  { name := "cp860"
    aliases := ["860", "csibm860", "ibm860"]
    rows := [
      "ÇüéâãàÁçêÊèÍÔìÃÂ",
      "ÉÀÈôõòÚùÌÕÜ¢£Ù₧Ó",
      "áíóúñÑªº¿Ò¬½¼¡«»",
      "░▒▓│┤╡╢╖╕╣║╗╝╜╛┐",
      "└┴┬├─┼╞╟╚╔╩╦╠═╬╧",
      "╨╤╥╙╘╒╓╫╪┘┌█▄▌▐▀",
      "αßΓπΣσµτΦΘΩδ∞φε∩",
      "≡±≥≤⌠⌡÷≈°∙·√ⁿ²■\xa0"] },
  { name := "cp861"
    aliases := ["861", "cp_is", "csibm861", "ibm861"]
    rows := [
      "ÇüéâäàåçêëèÐðÞÄÅ",
      "ÉæÆôöþûÝýÖÜø£Ø₧ƒ",
      "áíóúÁÍÓÚ¿⌐¬½¼¡«»",
      "░▒▓│┤╡╢╖╕╣║╗╝╜╛┐",
      "└┴┬├─┼╞╟╚╔╩╦╠═╬╧",
      "╨╤╥╙╘╒╓╫╪┘┌█▄▌▐▀",
      "αßΓπΣσµτΦΘΩδ∞φε∩",
      "≡±≥≤⌠⌡÷≈°∙·√ⁿ²■\xa0"] },
  { name := "cp862"
    aliases := ["862", "cspc862latinhebrew", "ibm862"]
    rows := [
      "אבגדהוזחטיךכלםמן",
      "נסעףפץצקרשת¢£¥₧ƒ",
      "áíóúñÑªº¿⌐¬½¼¡«»",
      "░▒▓│┤╡╢╖╕╣║╗╝╜╛┐",
      "└┴┬├─┼╞╟╚╔╩╦╠═╬╧",
      "╨╤╥╙╘╒╓╫╪┘┌█▄▌▐▀",
      "αßΓπΣσµτΦΘΩδ∞φε∩",
      "≡±≥≤⌠⌡÷≈°∙·√ⁿ²■\xa0"] },
  { name := "cp863"
    aliases := ["863", "csibm863", "ibm863"]
    rows := [
      "ÇüéâÂà¶çêëèïî‗À§",
      "ÉÈÊôËÏûù¤ÔÜ¢£ÙÛƒ",
      "¦´óú¨¸³¯Î⌐¬½¼¾«»",
      "░▒▓│┤╡╢╖╕╣║╗╝╜╛┐",
      "└┴┬├─┼╞╟╚╔╩╦╠═╬╧",
      "╨╤╥╙╘╒╓╫╪┘┌█▄▌▐▀",
      "αßΓπΣσµτΦΘΩδ∞φε∩",
      "≡±≥≤⌠⌡÷≈°∙·√ⁿ²■\xa0"] },
  { name := "cp864"
    aliases := ["864", "csibm864", "ibm864"]
    rows := [
      "\x00\x01\x02\x03\x04\x05\x06\x07\x08\t\n\x0b\x0c\x0d\x0e\x0f",
      "\x10\x11\x12\x13\x14\x15\x16\x17\x18\x19\x1a\x1b\x1c\x1d\x1e\x1f",
      " !\"#$٪&'()*+,-./",
      "0123456789:;<=>?",
      "@ABCDEFGHIJKLMNO",
      "PQRSTUVWXYZ[\\]^_",
      "\x60abcdefghijklmno",
      "pqrstuvwxyz\x7b|\x7d~\x7f",
      "°·∙√▒─│┼┤┬├┴┐┌└┘",
      "β∞φ±½¼≈«»ﻷﻸ\ufffd\ufffdﻻﻼ\ufffd",
      "\xa0\xadﺂ£¤ﺄ\ufffd\ufffdﺎﺏﺕﺙ،ﺝﺡﺥ",
      "٠١٢٣٤٥٦٧٨٩ﻑ؛ﺱﺵﺹ؟",
      "¢ﺀﺁﺃﺅﻊﺋﺍﺑﺓﺗﺛﺟﺣﺧﺩ",
      "ﺫﺭﺯﺳﺷﺻﺿﻁﻅﻋﻏ¦¬÷×ﻉ",
      "ـﻓﻗﻛﻟﻣﻧﻫﻭﻯﻳﺽﻌﻎﻍﻡ",
      "ﹽ\u0651ﻥﻩﻬﻰﻲﻐﻕﻵﻶﻝﻙﻱ■\ufffd"] },
  { name := "cp865"
    aliases := ["865", "csibm865", "ibm865"]
    rows := [
      "ÇüéâäàåçêëèïîìÄÅ",
      "ÉæÆôöòûùÿÖÜø£Ø₧ƒ",
      "áíóúñÑªº¿⌐¬½¼¡«¤",
      "░▒▓│┤╡╢╖╕╣║╗╝╜╛┐",
      "└┴┬├─┼╞╟╚╔╩╦╠═╬╧",
      "╨╤╥╙╘╒╓╫╪┘┌█▄▌▐▀",
      "αßΓπΣσµτΦΘΩδ∞φε∩",
      "≡±≥≤⌠⌡÷≈°∙·√ⁿ²■\xa0"] },
  { name := "cp866"
    aliases := ["866", "csibm866", "ibm866"]
    rows := [
      "АБВГДЕЖЗИЙКЛМНОП",
      "РСТУФХЦЧШЩЪЫЬЭЮЯ",
      "абвгдежзийклмноп",
      "░▒▓│┤╡╢╖╕╣║╗╝╜╛┐",
      "└┴┬├─┼╞╟╚╔╩╦╠═╬╧",
      "╨╤╥╙╘╒╓╫╪┘┌█▄▌▐▀",
      "рстуфхцчшщъыьэюя",
      "ЁёЄєЇїЎў°∙·√№¤■\xa0"] },
  { name := "cp869"
    aliases := ["869", "cp_gr", "csibm869", "ibm869"]
    rows := [
      "\ufffd\ufffd\ufffd\ufffd\ufffd\ufffdΆ\ufffd·¬¦‘’Έ―Ή",
      "ΊΪΌ\ufffd\ufffdΎΫ©Ώ²³ά£έήί",
      "ϊΐόύΑΒΓΔΕΖΗ½ΘΙ«»",
      "░▒▓│┤ΚΛΜΝ╣║╗╝ΞΟ┐",
      "└┴┬├─┼ΠΡ╚╔╩╦╠═╬Σ",
      "ΤΥΦΧΨΩαβγ┘┌█▄δε▀",
      "ζηθικλμνξοπρσςτ΄",
      "\xad±υφχ§ψ΅°¨ωϋΰώ■\xa0"] },
  { name := "cp1125"
    aliases := ["1125", "ibm1125", "cp866u", "ruscii"]
    rows := [
      "АБВГДЕЖЗИЙКЛМНОП",
      "РСТУФХЦЧШЩЪЫЬЭЮЯ",
      "абвгдежзийклмноп",
      "░▒▓│┤╡╢╖╕╣║╗╝╜╛┐",
      "└┴┬├─┼╞╟╚╔╩╦╠═╬╧",
      "╨╤╥╙╘╒╓╫╪┘┌█▄▌▐▀",
      "рстуфхцчшщъыьэюя",
      "ЁёҐґЄєІіЇї·√№¤■\xa0"] }]

end RouteCompiler.Text

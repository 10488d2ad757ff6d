/-
**Japanese on windowed systems.**

They know more characters than the rows have, and read some cells of the rows as others.

* `japaneseChanges`: the characters of two bytes that differ from those of the rows.
-/

import RouteCompiler.Text.Charset.Plane

namespace RouteCompiler.Text.Plane

/-- The characters of two bytes that differ from those of the rows. -/
def japaneseChanges : List Strip := [
  ⟨0x81, 0x60, "～∥"⟩,
  ⟨0x81, 0x7C, "－"⟩,
  ⟨0x81, 0x91, "￠￡"⟩,
  ⟨0x81, 0xCA, "￢"⟩,
  ⟨0x87, 0x40, "①②③④⑤⑥⑦⑧⑨⑩⑪⑫⑬⑭⑮⑯⑰⑱⑲⑳ⅠⅡⅢⅣⅤⅥⅦⅧⅨⅩ"⟩,
  ⟨0x87, 0x5F, "㍉"⟩,
  ⟨0x87, 0x60, "㌔㌢㍍㌘㌧㌃㌶㍑㍗㌍㌦㌣㌫㍊㌻㎜㎝㎞㎎㎏㏄㎡"⟩,
  ⟨0x87, 0x7E, "㍻"⟩,
  ⟨0x87, 0x80, "〝〟№㏍℡㊤㊥㊦㊧㊨㈱㈲㈹㍾㍽㍼≒≡∫∮∑√⊥∠∟⊿∵∩∪"⟩,
  ⟨0xED, 0x40, "纊褜鍈銈蓜俉炻昱棈鋹曻彅丨仡仼伀伃伹佖侒侊侚侔俍偀倢俿倞偆偰偂傔"⟩,
  ⟨0xED, 0x60, "僴僘兊兤冝冾凬刕劜劦勀勛匀匇匤卲厓厲叝﨎咜咊咩哿喆坙坥垬埈埇﨏"⟩,
  ⟨0xED, 0x80, "塚增墲夋奓奛奝奣妤妺孖寀甯寘寬尞岦岺峵崧嵓﨑嵂嵭嶸嶹巐弡弴彧德忞恝"⟩,
  ⟨0xED, 0xA1, "悅悊惞惕愠惲愑愷愰憘戓抦揵摠撝擎敎昀昕昻昉昮昞昤晥晗晙晴晳暙暠"⟩,
  ⟨0xED, 0xC0, "暲暿曺朎朗杦枻桒柀栁桄棏﨓楨﨔榘槢樰橫橆橳橾櫢櫤毖氿汜沆汯泚洄涇"⟩,
  ⟨0xED, 0xE0, "浯涖涬淏淸淲淼渹湜渧渼溿澈澵濵瀅瀇瀨炅炫焏焄煜煆煇凞燁燾犱"⟩,
  ⟨0xEE, 0x40, "犾猤猪獷玽珉珖珣珒琇珵琦琪琩琮瑢璉璟甁畯皂皜皞皛皦益睆劯砡硎硤硺"⟩,
  ⟨0xEE, 0x60, "礰礼神祥禔福禛竑竧靖竫箞精絈絜綷綠緖繒罇羡羽茁荢荿菇菶葈蒴蕓蕙"⟩,
  ⟨0xEE, 0x80, "蕫﨟薰蘒﨡蠇裵訒訷詹誧誾諟諸諶譓譿賰賴贒赶﨣軏﨤逸遧郞都鄕鄧釚釗釞"⟩,
  ⟨0xEE, 0xA1, "釭釮釤釥鈆鈐鈊鈺鉀鈼鉎鉙鉑鈹鉧銧鉷鉸鋧鋗鋙鋐﨧鋕鋠鋓錥錡鋻﨨錞"⟩,
  ⟨0xEE, 0xC0, "鋿錝錂鍰鍗鎤鏆鏞鏸鐱鑅鑈閒隆﨩隝隯霳霻靃靍靏靑靕顗顥飯飼餧館馞驎"⟩,
  ⟨0xEE, 0xE0, "髙髜魵魲鮏鮱鮻鰀鵰鵫鶴鸙黑"⟩,
  ⟨0xEE, 0xEF, "ⅰⅱⅲⅳⅴⅵⅶⅷⅸⅹ￢￤＇＂"⟩,
  ⟨0xFA, 0x40, "ⅰⅱⅲⅳⅴⅵⅶⅷⅸⅹⅠⅡⅢⅣⅤⅥⅦⅧⅨⅩ￢￤＇＂㈱№℡∵纊褜鍈銈"⟩,
  ⟨0xFA, 0x60, "蓜俉炻昱棈鋹曻彅丨仡仼伀伃伹佖侒侊侚侔俍偀倢俿倞偆偰偂傔僴僘兊"⟩,
  ⟨0xFA, 0x80, "兤冝冾凬刕劜劦勀勛匀匇匤卲厓厲叝﨎咜咊咩哿喆坙坥垬埈埇﨏塚增墲夋奓"⟩,
  ⟨0xFA, 0xA1, "奛奝奣妤妺孖寀甯寘寬尞岦岺峵崧嵓﨑嵂嵭嶸嶹巐弡弴彧德忞恝悅悊惞"⟩,
  ⟨0xFA, 0xC0, "惕愠惲愑愷愰憘戓抦揵摠撝擎敎昀昕昻昉昮昞昤晥晗晙晴晳暙暠暲暿曺朎"⟩,
  ⟨0xFA, 0xE0, "朗杦枻桒柀栁桄棏﨓楨﨔榘槢樰橫橆橳橾櫢櫤毖氿汜沆汯泚洄涇浯"⟩,
  ⟨0xFB, 0x40, "涖涬淏淸淲淼渹湜渧渼溿澈澵濵瀅瀇瀨炅炫焏焄煜煆煇凞燁燾犱犾猤猪獷"⟩,
  ⟨0xFB, 0x60, "玽珉珖珣珒琇珵琦琪琩琮瑢璉璟甁畯皂皜皞皛皦益睆劯砡硎硤硺礰礼神"⟩,
  ⟨0xFB, 0x80, "祥禔福禛竑竧靖竫箞精絈絜綷綠緖繒罇羡羽茁荢荿菇菶葈蒴蕓蕙蕫﨟薰蘒﨡"⟩,
  ⟨0xFB, 0xA1, "蠇裵訒訷詹誧誾諟諸諶譓譿賰賴贒赶﨣軏﨤逸遧郞都鄕鄧釚釗釞釭釮釤"⟩,
  ⟨0xFB, 0xC0, "釥鈆鈐鈊鈺鉀鈼鉎鉙鉑鈹鉧銧鉷鉸鋧鋗鋙鋐﨧鋕鋠鋓錥錡鋻﨨錞鋿錝錂鍰"⟩,
  ⟨0xFB, 0xE0, "鍗鎤鏆鏞鏸鐱鑅鑈閒隆﨩隝隯霳霻靃靍靏靑靕顗顥飯飼餧館馞驎髙"⟩,
  ⟨0xFC, 0x40, "髜魵魲鮏鮱鮻鰀鵰鵫鶴鸙黑"⟩]

end RouteCompiler.Text.Plane

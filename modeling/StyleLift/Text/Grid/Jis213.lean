import StyleLift.Text.Grid

/-! # More Japanese characters

What JIS X 0213 adds to the rows of JIS X 0208, and its second plane.
-/
namespace StyleLift.Grid

/-- What the first plane has beyond JIS X 0208. -/
def jis213First : List Strip := [
  ⟨1, 14, "＇＂－~〳〴〵〻〼ヿゟ��������⊄⊅⊊⊋∉∅⌅⌆�������⊕⊖⊗∥∦⦅⦆〘〙〖〗"⟩,
  ⟨1, 74, "≢≃≅≈≶≷↔��������♮♫♬♩"⟩,
  ⟨2, 0, "▷▶◁◀↗↘↖↙⇄⇨⇦⇧⇩⤴⤵"⟩,
  ⟨2, 25, "⦿◉〽﹆﹅◦•"⟩,
  ⟨2, 58, "∓ℵℏ㏋ℓ℧"⟩,
  ⟨2, 90, "゠–⧺⧻"⟩,
  ⟨3, 83, "ゔゕゖ"⟩,
  ⟨5, 24, "♤♠♢♦♡♥♧♣"⟩,
  ⟨5, 56, "ς⓵⓶⓷⓸⓹⓺⓻⓼⓽⓾☖☗〠☎☀☁☂☃♨▱ㇰㇱㇲㇳㇴㇵㇶㇷㇸㇹ�ㇺㇻㇼㇽㇾㇿ"⟩,
  ⟨6, 33, "⎾⎿⏀⏁⏂⏃⏄⏅⏆⏇⏈⏉⏊⏋⏌"⟩,
  ⟨6, 81, "ヷヸヹヺ⋚⋛⅓⅔⅕✓⌘␣⏎"⟩,
  ⟨7, 32, "㉑㉒㉓㉔㉕㉖㉗㉘㉙㉚㉛㉜㉝㉞㉟㊱㊲㊳㊴㊵㊶㊷㊸㊹㊺㊻㊼㊽㊾㊿��������◐◑◒◓‼⁇⁈⁉ǍǎǐḾḿǸǹǑǒǔǖǘǚǜ"⟩,
  ⟨8, 0, "€\u00a0¡¤¦©ª«\u00ad®¯²³·¸¹º»¼½¾¿ÀÁÂÃÄÅÆÇÈÉÊËÌÍÎÏÐÑÒÓÔÕÖØÙÚÛÜÝÞßàáâãäåæçèéêëìíîïð" ++
    "ñòóôõöøùúûüýþÿĀĪŪĒŌāīūēō"⟩,
  ⟨9, 0, "Ą˘ŁĽŚŠŞŤŹŽŻą˛łľśˇšşťź˝žżŔĂĹĆČĘĚĎŃŇŐŘŮŰŢŕăĺćčęěďđńňőřůűţ˙ĈĜĤĴŜŬĉĝĥĵŝŭɱʋɾʃʒɬɮɹʈɖɳɽ" ++
    "ʂʐɻɭɟɲʝʎɡŋɰʁħʕ"⟩,
  ⟨10, 0, "ʔɦʘǂɓɗʄɠƓœŒɨʉɘɵəɜɞɐɯʊɤʌɔɑɒʍɥʢʡɕʑɺɧɚ�ǽὰ\u1f71��������ὲ\u1f73\u0361ˈˌːˑ\u0306‿" ++
    "\u030b\u0301\u0304\u0300\u030f\u030c\u0302˥˦˧˨˩��\u0325\u032c\u0339\u031c\u031f" ++
    "\u0320\u0308\u033d\u0329\u032f˞\u0324\u0330\u033c\u0334\u031d\u031e\u0318\u0319" ++
    "\u032a\u033a\u033b\u0303\u031a"⟩,
  ⟨11, 0, "❶❷❸❹❺❻❼❽❾❿⓫⓬⓭⓮⓯⓰⓱⓲⓳⓴ⅰⅱⅲⅳⅴⅵⅶⅷⅸⅹⅺⅻⓐⓑⓒⓓⓔⓕⓖⓗⓘⓙⓚⓛⓜⓝⓞⓟⓠⓡⓢⓣⓤⓥⓦⓧⓨⓩ㋐㋑㋒㋓㋔㋕㋖㋗㋘㋙㋚㋛㋜㋝㋞㋟㋠㋡㋢㋣㋺" ++
    "㋩㋥㋭㋬���������⁑⁂"⟩,
  ⟨12, 0, "①②③④⑤⑥⑦⑧⑨⑩⑪⑫⑬⑭⑮⑯⑰⑱⑲⑳ⅠⅡⅢⅣⅤⅥⅦⅧⅨⅩⅪ㍉㌔㌢㍍㌘㌧㌃㌶㍑㍗㌍㌦㌣㌫㍊㌻㎜㎝㎞㎎㎏㏄㎡Ⅻ�������㍻〝〟№㏍℡㊤㊥㊦㊧㊨㈱㈲㈹㍾㍽㍼" ++
    "���∮����∟⊿���❖☞"⟩,
  ⟨13, 0, "俱𠀋㐂丨丯丰亍仡份仿伃伋你佈佉佖佟佪佬佾侊侔侗\ufa30俉俠倁倂倎倘倧倮偀倻偁傔僌僲僐僦\ufa31儆儃儋儞儵兊\ufa32兕兗㒵冝凃凊凞凢凮刁㓛刓刕剉剗剡" ++
    "劓勈\ufa33勌勐勖勛\ufa34勰勻匀匇匜\ufa35卡卣卽厓厝厲吒吧呍咜呫呴呿咈咖咡"⟩,
  ⟨14, 0, "咩哆哿唎唫唵啐啞喁喆喎\ufa36喭嗎\ufa37嘈嘎嘻噉噶噦\ufa38噯噱噲嚙嚞嚩嚬嚳囉囊圊𡈽圡圯圳圴坰坷坼垜﨏𡌛垸埇埈埏埤埭埵埶埿堉\ufa10塡塤" ++
    "\ufa39塼墉增\ufa3a墩𡑮壒壎壔壚壠壩夌虁奝奭妋妒妤姃姒姝娓娣婧婭婷婾媄媞媧嫄𡢽嬙嬥剝"⟩,
  ⟨46, 51, "𠮟孁孖孽宓寘寬尒尞尣尫㞍屢\ufa3b\ufa3c𡚴屺岏岟岣岪岺峋峐峒峴𡸴㟢崍崧﨑嵆嵇嵓嵊嵭嶁嶠嶤嶧嶸巋吞"⟩,
  ⟨83, 6, "噓巢帔帘幘幞庾\uf928廋廹开异弇弝弣弴弶弽彀彅彔彘彤彧彽徉徜徧徯徵德忉忞忡忩怍怔怘怳怵恇\ufa3d悝悞惋惔惕惝惸愜愫愰愷\ufa3e憍\ufa3f憼憹" ++
    "\ufa40戢戾扃扖扚扯抅拄拖拼挊挘挹捃捥捼揥揭揵搐搔搢摹摑摠摭擎撾撿"⟩,
  ⟨84, 0, "擄擊擐擷擻攢攩\ufa41敧斝\ufa42昀昉昕昞昺昢昤昫昰昱昳曻晈晌𣇄晙晚晡晥晳晷晸暍\ufa43暠暲暻曆曈㬢曛曨曺朓\uf929朳杦杇杈杻极枓枘枛枻柹柀柗" ++
    "柼栁桒栝栬栱桛桲桵\ufa44梣梥梲棈棐棨棭棰棱棼椊楉𣗄椵楂楗楣楤楨榀﨔榥榭槏㮶"⟩,
  ⟨85, 0, "㯃槢槩槪槵槶樏樕𣜿樻樾橅橐橖橛橫橳𣝣檉檔檝檞檥櫤櫧㰏\uf91d欛欞欬欵歆歖歠步歧歷殂殩殭\uf970每毖毗毿氅氐氳汙汜沪汴汶沅沆沘沜泻泆泔泠泫泮𣳾洄洎洮洱洹" ++
    "洿浘浥\ufa45涂涇涉涔涪涬涿淄淖淚淛淝淼\ufa46渴湄湜湞溫溱滁"⟩,
  ⟨86, 0, "滇滎漐漚\ufa47漪漯漳潑潙潞潡潢潾澈澌澍澔澠澧澶澼濇濊濹濰濵瀅瀆瀨灊灝灞灎灤灵炅炤炫炷烔烘烤焏焫焞焠焮焰煆煇煑\ufa48煒煜煠煨\ufa15熅熇熒燁熺燄" ++
    "燾爀爕牕牖㸿犍犛犾狀狻𤟱猧猨\ufa16獐獦獼玕玟玠玢玦玫珉珏珖珙珣珩"⟩,
  ⟨87, 0, "琇琊琚琛\ufa4a琦琨琪琫琬琮琯琰瑄瑆瑇瑋瑗瑢瑫瑭璆璇璉璘璜璟璣璐璦璨璩璵璿瓈瓉瓚瓿甁甗甯畯畹疒㽲痎痤瘀瘂瘈瘕瘖瘙瘞瘭瘵癃癋癤癥癭癯癱皁皛皝皞皦皪皶盅盌盎盔" ++
    "盦盱盼眊眙眴眶睆睍睎睜睟睢睺瞀瞔瞪矠砭𥒎"⟩,
  ⟨88, 0, "硃硎硏硑硨确\ufa4b碰𥔎碭磤磲礀磷礜礮礱礴\ufa4c\ufa4d祅祆\ufa4e\ufa4f\ufa50祜\ufa51\ufa19\ufa1a祹" ++
    "\ufa52\ufa53\ufa1b禘禱禸秈秊𥝱秔秞秫秭稃\ufa54稹穝穭\ufa55窅窠𥧄窳窻竎竫竽笒笭笻筇筎筠筭筯筲箞\ufa56篗篙簁簱簞簠簳簶䉤𥶡籙籭籹粏粔粠" ++
    "粼糕糙糝紇紈紓紝紣紱"⟩,
  ⟨89, 0, "絁絈絓絜絺綃綋綠綦緂緌緖緣\ufa57縨縈縑縕\ufa59繇繒繡纊纍罇\ufa5a羑羗羿翎翛翟翬翮翺\ufa5b耔耦耵耷耼胊胗胠胳脘腊腠腧腨腭膻臊臏臗" ++
    "\ufa5c䑓䑛艠艴𦫿芎芡芣芤芩芮芷芾芿苆苕苽苾茀茁荢茢茭茺荃荇荑荕荽莆莒莘莧莩莿菀菇菏"⟩,
  ⟨90, 0, "菑菡菪萁萆萊\ufa5f葈葟葰葳蒅蒞蒯蒴蒺蓀蓂𦹀蔲蔞蔣蔯蕙蕤﨟薭蕺薌薏薢薰藋藎藭蘒藿蘄蘅蘐𧃴蘘蘩蘸虗虛\uf936虢䖝虬虵蚘蚸蛺蛼蛽蜋蝱螇螈螬螭螵䗪蟖蟬蠆蠊蠐" ++
    "蠔蠟袘袪裊裎𧚄裵褜\ufa60褘褙褚褧褰褲褹襀覔\ufa61觔觥觶訒訕"⟩,
  ⟨91, 0, "訢訷詇詎詝詡詵詹誧諐諟諴諶\ufa22\ufa62\ufa63譆譔譙譩讝豉豨\ufa64賡賴賸賾\ufa65贒贛趯跎跑跗踠踣踽蹰蹻𨉷軀䡄軺輞輭輶轔𨏍辦辵迤迨迮" ++
    "逈逭\ufa67邈邕邗邙邛邢邳邾郄郅郇郗郝郞郯郴\ufa26鄔鄕鄖鄢鄣鄧鄯鄱鄴鄽酈酛醃醞醬醱醼釗釻釤"⟩,
  ⟨92, 0, "釥釭釱鈇鈐鈸鈹鈺鈼鉀鉃鉏鉸銈鋂鋋鋌鋓鋠鋿錄錟錡錥鍈鍉鍊鍤鍥鍪鍰鎛鎣鎺鏆鏞鏟鐄鏽鐳鑊鑣鑫鑱鑲閎閟閦閩閬閶閽闋闐闓䦰闚闞陘隄\uf9dc隝隤隥雒雞\ufa68雩雯" ++
    "霳霻靍靎靏靚靮靳鞕鞮鞺韁韉韞韛韴\ufa69頊頞頫頰\ufa6a顒顓顖"⟩,
  ⟨93, 0, "顗顙顚\uf9d0顥顬颺飈飧饘馞騂騃騤騭騮騸驊驎驒骶髁髃髎髖髹鬂鬈鬠䰗鬭魞魹魦魲魵鮄鮊鮏鮞鮧鯁鯎鯥鯸鯽鰀鰣鱁鱏鱐鱓鱣鱥鱷鴝鴞鵃鵇鵒鵣鵰鵼鶊鶖鷀鶬鶼鷗𪆐鷧鸇鸕鹼" ++
    "麞麤麬麯麴麵黃黑鼐鼹齗龐龔龗龢姸屛幷瘦繫"⟩]

/-- The cells of the first plane that hold two code points. -/
def jis213Pairs : List ((Nat × Nat) × String) := [
  ((3, 86), "\u304b\u309a"), ((3, 87), "\u304d\u309a"), ((3, 88), "\u304f\u309a"),
  ((3, 89), "\u3051\u309a"), ((3, 90), "\u3053\u309a"), ((4, 86), "\u30ab\u309a"),
  ((4, 87), "\u30ad\u309a"), ((4, 88), "\u30af\u309a"), ((4, 89), "\u30b1\u309a"),
  ((4, 90), "\u30b3\u309a"), ((4, 91), "\u30bb\u309a"), ((4, 92), "\u30c4\u309a"),
  ((4, 93), "\u30c8\u309a"), ((5, 87), "\u31f7\u309a"), ((10, 35), "\u00e6\u0300"),
  ((10, 39), "\u0254\u0300"), ((10, 40), "\u0254\u0301"), ((10, 41), "\u028c\u0300"),
  ((10, 42), "\u028c\u0301"), ((10, 43), "\u0259\u0300"), ((10, 44), "\u0259\u0301"),
  ((10, 45), "\u025a\u0300"), ((10, 46), "\u025a\u0301"), ((10, 68), "\u02e9\u02e5"),
  ((10, 69), "\u02e5\u02e9")]

def jis213Second : List Strip := [
  ⟨0, 0, "𠂉丂丏丒丩丫丮乀乇么𠂢乑㐆𠂤乚乩亝㐬㐮亹亻𠆢亼仃仈仐仫仚仱仵伀伖佤伷伾佔佘𠈓佷佸佺佽侂侅侒侚俦侲侾俅俋俏俒㑪俲倀倐倓倜倞倢㑨偂偆偎偓偗偣偦偪偰傣傈傒傓傕傖傜傪𠌫" ++
    "傱傺傻僄僇僳𠎁僎𠍱僔僙僡僩㒒"⟩,
  ⟨2, 0, "儈𠏹儗儛𠑊兠𠔉关冃冋㒼冘冣冭㓇冼𠗖𠘨凳凴刂划刖𠝏剕剜剬剷劄劂𠠇劘𠠺劤劦劯劺劻勊㔟勑𠢹勷匊匋匤匵匾卂𠥼𠦝卧卬卺厤厴𠫓厷叀𠬝㕝㕞叕叚㕣叴叵呕吤吨㕮呃呢呦呬咊咍咕咠咦" ++
    "咭咮咷咺咿哃𠵅哬哯哱哳唀唁唉"⟩,
  ⟨3, 0, "唼啁㖦啇啊㖨啠啡啤𠷡啽喂喈喑㗅嗒𠺕𠹭喿嗉嗌嗑嗝㗚嗢𠹤嗩嘨𠽟嘇嘐嘰嘷㗴嘽嘿噀噇噞噠噭㘅嚈嚌嚕嚚嚝嚨嚭嚲囅囍囟囨囶囷𡈁圕圣𡉕圩𡉻坅坆坌坍𡉴坨坯坳坴坵坻𡋤𡋗垬垚垝垞垨" ++
    "埗𡋽埌𡌶𡍄埞埦埰㙊埸埻埽堄堞"⟩,
  ⟨4, 0, "堠堧堲堹𡏄塉塌塧墊墋墍墏墐墔墝墪墱𡑭壃壍壢壳壴夅夆夋复夔夤𡗗㚑夽㚙奆㚖𦰩奛奟𡙇奵奶奼妟妮妼姈姍姞姣姤姧姮𡜆𡝂㛏娌娍娗娧娭婕婥婺媋媜媟媠媢媱媳媵媺媿嫚嫜嫠嫥嫰嫮嫵" ++
    "嬀嬈嬗嬴嬭孌孒孨孯孼孿宁宄𡧃"⟩,
  ⟨7, 0, "宖宬㝡寀㝢寎寖㝬㝫寱寽㝵尃尩尰𡱖屟屣屧屨屩屰𡴭𡵅屼𡵸𡵢岈岊㟁𡶡𡶜岠岢岦岧𡶒岭岵𡶷峉𡷠𡸳崆崐崫崝崠崤崦崱崹嵂㟨嵡嵪㟴嵰𡼞㟽嶈㠀嶒嶔嶗嶙嶰嶲嶴𡽶嶹巑巗巘巠𡿺巤巩㠯帀" ++
    "㠶帒帕㡀帟帮帾幉㡜幖㡡幫幬幭"⟩,
  ⟨11, 0, "幮𢅻庥庪庬庹庿廆廒廙𢌞廽弈弎弜𢎭弞彇彣彲彾徏徢徤徸忄㣺忇忋忒忓忔忢忮忯忳忼㤗怗怢怤㤚恌恿悊悕您𢛳悰悱悾惈惙惛惮惲惵愐愒愓愙愞愺㥯慁慆慠慼𢡛憒憓憗憘憥憨憭𢢫懕懝" ++
    "懟懵𢦏戕戣戩扆扌扑扒扡扤扻扭扳"⟩,
  ⟨12, 0, "抙抦拕𢪸拽挃挍挐𢭏𢭐挲挵挻挼捁捄捎𢭆捙𢰝𢮦捬掄掙𢰤掔掽揷揔揕揜揠揫揬揲搉搞搥搩搯摚摛摝摳摽撇撑撝撟擋擌擕擗𢷡擤擥擿攄㩮攏攔攖㩳攞攲敄敔敫敺斁斄斅斊斲斵斸斿旂旉" ++
    "旔㫖旲旹旼昄昈昡昪晅晑晎㫪𣇃晗"⟩,
  ⟨13, 0, "晛晣𣇵𣆶晪晫晬晭晻暀暐暒暙㬎暭暱暵㬚暿㬜曬㫗朁朅朒𣍲朙𣏓𣏒杌杍杔杝𣏐𣏤𣏕杴杶𣏚枒𣏟荣栐枰枲柃柈柒柙柛柰柷𣑊𣑑𣑋栘栟栭𣑥栳栻栾桄桅桉桌桕桗㭷桫桮桺桼梂梐梖㭭梘梙" ++
    "梚梜梪梫梴梻棻𣓤𣕚﨓棃棅棌棏棖"⟩,
  ⟨14, 0, "棙棤棥棬棷椃椇㮇㮈𣖔椻㮍楆楩楬楲楺楿榒㮤榖榘榦榰榷榺榼槀槑槖𣘹𣙇樰𣘸𣘺槣槮槯槳㯍槴槾樑樚樝𣜜樲樳樴樿橆橉橺橎橒橤𣜌橾檃檋㯰檑檟檡𣝤檫檽櫆櫔櫐櫜櫝𣟿𣟧櫬櫱櫲櫳櫽" ++
    "𣠤欋欏欐欑𣠽欗㰦欯歊歘歬歵歺殁"⟩,
  ⟨77, 0, "殛殮𣪘殽殾毇毈毉毚毦毧毮毱氂氊氎氵氶氺𣱿氿汍汛汭沄沉㳃沔沕沗沭泂泐㳒泖泚泜泩泬泭𣴀洀洊洤洦洧汧洯洼浛浞浠浰涀涁涊涍涑涘𣵀渗𣷺𣷹𣷓涫涮涴淂洴淈淎淏淐淟淩淶渶渞渢" ++
    "渧㴑渲渼湈湉湋湌湏湑湓湔湗湣㴞"⟩,
  ⟨78, 0, "溓溧溴溿滃滊滙漵滫滹滻漊漌漘漥漶漼𣽾潒潗潚潠潨澘潽澐澖澾澟澥澯㵤澵濈濉濚濞濩𤂖濼瀀瀇瀊瀣𤄃瀹瀺瀼灃灇灋㶚灔灥灩灬灮灶灾炁炆炕炗炻𤇆炟炱𤇾烬烊烑烓烜焃焄焆焇焈焌" ++
    "㷀焯焱煐煊煓煞㷔熖熀熛熠熢熮熯"⟩,
  ⟨79, 0, "熳𤎼燋燓燙燜爇㸅\ufa49爫爴爸爹丬牂牓牗牣𤘩牮牯牸牿犎𤚥犭犮犰犱狁㹠狌㹦㹨狳狺猇猒猘猙㺃猹猬猱猳猽獒㺔獫獬𤢖獮獯獱獷玁玅玊玔玘玜玞玥玨玵玷玹玼玿珅珋珡珧珹" ++
    "琓珺琁琤琱琹瑓瑀瑃瑍瑒瑝瑱璁璅璈𤩍璒璗璙"⟩,
  ⟨80, 0, "璠璡璥璪璫璹璻璺瓖瓘瓞瓯瓫𤭖瓺𤭯甠甤甪㽗𤰖甽甾畀畈畎畐畒畬畲畱畺畽畾疁𤴔疌㽵疢㽷疰疷疿痀痆痏痓痝痟痠痧痬痮痱痹瘃瘘瘇瘏㾮𤸎瘓瘛瘜𤸷瘥瘨瘼瘳𤹪㿉癁𤺋癉癕㿗癮皕皜" ++
    "皡皠皧皨皯𥁊盉𥁕盨盬𥄢眗眚眭眵"⟩,
  ⟨81, 0, "𥆩䀹𥇥𥇍睘睠睪𥈞睲睼睽𥉌䁘瞚瞟瞢瞤瞩矞矟矤矦矪矬䂓矰矴矻𥐮砅砆砉砍砙砡砬硇硤硪𥓙碊碔碤碝碞碟碻磈磌磎磕磠磡磦磹磺磻磾𥖧礐礛礰礥礻祊祘祛䄅祧祲禔禕禖禛禡禩禴离秂" ++
    "秇秌种秖䅈𥞩𥞴䅏稊稑稕稛稞䅣稭"⟩,
  ⟨82, 0, "稸穇穌穖穙穜穟穠穧穪穵穸窂窊窐窣窬𥧔䆴窹窼窾䆿竌竑竧竨竴𥫤𥫣笇𥫱笽笧笪笮笯笱䇦䇳筿筁䇮筕筹筤筦筩筳𥮲䈇箐箑箛䈎箯箵箼篅篊𥱋𥱤篔篖篚篪篰簃簋簎簏簦籅籊籑籗籞籡籩" ++
    "籮籯籰𥸮𥹖𥹥粦𥹢粶粷粿𥻘糄𥻂糈"⟩,
  ⟨83, 0, "糍𥻨糗𥼣糦糫𥽜糵紃紉䋆紒紞𥿠𥿔紽紾絀絇𦀌𥿻䋖絙絚絪絰䋝絿𦀗綆綈綌綗𦁠綝綧綪綶綷緀緗緙緦緱緹䌂𦃭\ufa58縐縗縝縠縧縬繅繳繵繾纆纇䌫纑纘纚䍃缼缻缾罃罄罏㓁𦉰罒" ++
    "𦊆罡罣罤罭罽罾𦍌羐养𣴎羖羜羭𦐂翃翏翣翥翯"⟩,
  ⟨84, 0, "翲耂耊耈耎耑耖耤耬耰聃聦聱聵聻肙肜肤肧肸𦙾胅胕胘胦𦚰脍胵胻䏮脵脖脞䏰脤脧脬𦜝脽䐈腩䐗膁䐜膄膅䐢膘膲臁臃臖臛𦣝臤𦣪臬𦥑臽臿𦥯舄𦧝舙舡舢𦨞舲舴舼艆艉艅𦩘艋䑶艏䑺艗" ++
    "𦪌艜艣𦪷\ufa5d\ufa5e艹䒑艽艿芃芊芓芧芨"⟩,
  ⟨85, 0, "芲芴芺芼苢苨苷茇茈茌荔茛茝茰茼荄荗䒾荿䓔䒳莍莔莕莛莝菉菐菔菝菥菹萏萑萕𦱳萗萹葊葏葑葒葙葚葜𦳝葥葶葸葼蒁䔍蓜蒗蒦蒾䔈蓎蓏蓓𦹥蓧蓪蓯蓰蓱蓺蓽蔌蔛蔤蔥蔫蔴蕏蕯䔥䕃蔾" ++
    "蕑蕓蕞蕡蕢𦾔蕻蕽蕿薁薆薓薝薟𦿸"⟩,
  ⟨86, 0, "𦿶𦿷薷薼藇藊藘藙藟藡藦藶蘀蘑蘞蘡蘤蘧𧄍蘹蘼𧄹虀\ufa20虓虖虯虷虺蚇蚉蚍蚑蚜蚝蚨﨡蚱蚳蛁蛃蛑蛕蛗蛣蛦䖸蜅蜇蜎蜐蜓蜙蜟蜡蜣蜱蜺蜾蝀蝃蝑蝘蝤蝥蝲蝼𧏛𧏚螧螉螋螓螠" ++
    "𧏾䗥螾𧐐蟁蟎蟵蟟𧑉蟣蟥蟦蟪蟫蟭蠁蠃蠋蠓蠨"⟩,
  ⟨87, 0, "蠮蠲蠼䘏衊衘衟衤𧘕𧘔衩𧘱衯袠袼袽袾裀裒𧚓裑裓裛裰裱䙁褁𧜎褷𧜣襂襅襉𧝒䙥襢覀覉覐覟覰覷觖觘觫䚡觱觳觽觿䚯訑訔𧦅訡訵訾詅詍詘誮誐誷誾諗諼𧪄謊謅謍謜謟謭譃䜌譑譞譶譿" ++
    "讁讋讔讕讜讞谹𧮳谽𧮾𧯇豅豇豏豔"⟩,
  ⟨88, 0, "豗豩豭豳𧲸貓貒貙䝤貛貤賖賕賙𧶠賰賱𧸐贉贎赬趄趕趦𧾷跆跈跙跬踌䟽跽踆𨂊踔踖踡踢踧𨂻䠖踶踹蹋蹔蹢蹬蹭蹯躘躞躮躳躵躶躻𨊂軑軔䡎軹𨋳輀輈輗輫轀轊轘𨐌辤辴\ufa66辶" ++
    "𨑕迁迆﨤迊迍迓迕迠迱迵迻适逌逷𨕫遃遄遝𨗈"⟩,
  ⟨89, 0, "𨗉邅邌邐阝邡䢵邰邶郃郈𨛗郜郟𨛺郶郲鄀郫郾郿鄄鄆鄘鄜鄞鄷鄹鄺酆酇酗酙酡酤酴酹醅醎醨醮醳醶釃釄釚𨥉𨥆釬釮鈁鈊鈖鈗𨥫鈳鉂鉇鉊鉎鉑鉖鉙鉠鉡鉥鉧鉨𨦇𨦈鉼鉽鉿銉銍銗銙銟銧" ++
    "銫𨦺𨦻銲銿鋀鋆鋎鋐鋗鋙鋥鋧錑𨨞"⟩,
  ⟨90, 0, "𨨩鋷鋹鋻錂錍錕錝錞錧錩𨩱𨩃鍇鍑鍗鍚鍫鍱鍳鎡𨪙𨫍鎈鎋鎏鎞鏵𨫤𨫝鏱鏁鏇鏜鏢鏧鐉鐏鐖鐗鏻鐲鐴鐻鑅𨯁𨯯鑭鑯镸镹閆閌閍𨴐閫閴𨵱闈𨷻𨸟阬阳阴𨸶阼陁陡𨺉隂𨻫隚𨼲䧧隩隯隳隺隽" ++
    "䧺𨿸雘雚雝䨄霔霣䨩霶靁靇靕靗靛"⟩,
  ⟨91, 0, "靪𩊠𩊱鞖鞚鞞鞢鞱鞲鞾韌韑韔韘韙韡韱頄頍頎頔頖䪼𩒐頣頲頳頥顇顦颫颭颰𩗏颷颸颻颼颿飂飇飋飠𩙿飡飣飥飪飰飱飳餈䬻𩛰餖餗𩜙餚餛餜𩝐餱餲餳餺餻餼饀饁饆饍饎饜饟饠馣馦馹馽" ++
    "馿駃駉駔駙駞𩣆駰駹駼騊騑騖騚騠"⟩,
  ⟨92, 0, "騱騶驄驌驘䯂骯䯊骷䯒骹𩩲髆髐髒髕䯨髜髠髥髩鬃鬌鬐鬒鬖鬜鬫鬳鬽䰠魋魣魥魫魬魳魶魷鮦鮬鮱𩷛𩸽鮲鮸鮾鯇鯳鯘鯝鯧鯪鯫鯯鯮𩸕鯺𩺊鯷𩹉鰖鰘鰙鰚鰝鰢鰧鰩鰪𩻄鰱鰶鰷鱅鱜𩻩鱉鱊" ++
    "𩻛鱔鱘鱛鱝鱟鱩鱪鱫鱭鱮鱰鱲鱵鱺"⟩,
  ⟨93, 0, "鳦鳲鴋鴂𩿎鴑鴗鴘𪀯䳄𪀚鴲䳑鵂鵊鵟鵢𪃹鵩鵫𪂂鵳鵶鵷鵾鶄鶍鶙鶡鶿鶵鶹鶽鷃鷇鷉鷖鷚鷟鷠鷣鷴䴇鸊鸂鸍鸙鸜鸝鹻𢈘麀麅麛麨𪎌麽𪐷黟黧黮黿鼂䵷鼃鼗鼙鼯鼷鼺鼽齁齅齆齓齕齘𪗱齝" ++
    "𪘂齩𪘚齭齰齵𪚲"⟩]

end StyleLift.Grid

/-!
# Compatible characters

Characters that are another form of others, which are given without composite characters. U+FFFD
stands in a run for a character that is the form of no other one.
-/

namespace Swatch.Text.Normal

/-- The forms of one character each: the first code of each run, and what the characters of the run
are forms of. -/
def simpleForms : List (Nat × String) := [
  (0x00A0, " "), (0x00AA, "a"), (0x00B2, "23�μ"), (0x00B9, "1o"), (0x017F, "s"),
  (0x02B0, "hɦjrɹɻʁwy"), (0x02E0, "ɣlsxʕ"), (0x0340, "\u0300\u0301�\u0313"), (0x0374, "\u02b9"),
  (0x037E, ";"), (0x0387, "·"), (0x03D0, "βθΥ��φπ"), (0x03F0, "κρς�Θε"), (0x0F0C, "་"),
  (0x1FBE, "ι"), (0x1FEF, "\x60"), (0x2000, "           "), (0x2011, "‐"), (0x2024, "."),
  (0x202F, " "), (0x205F, " "), (0x2070, "0i��456789+−=()n0123456789+−=()"), (0x2102, "C"),
  (0x2107, "Ɛ��gHHHhħIILl�N"), (0x2119, "PQRRR"),
  (0x2124, "Z�Ω�Z�K�BC�eEF�Mo\u05d0\u05d1\u05d2\u05d3i"), (0x213D, "γΓΠ∑"), (0x2145, "Ddeij"),
  (0x2160, "I"), (0x2164, "V"), (0x2169, "X��LCDMi"), (0x2174, "v"), (0x2179, "x��lcdm"),
  (0x2329, "〈〉"), (0x2460, "123456789"),
  (0x24B6, "ABCDEFGHIJKLMNOPQRSTUVWXYZabcdefghijklmnopqrstuvwxyz0"), (0x2E9F, "母"), (0x2EF3, "龟"),
  (0x2F00, "一丨丶丿乙亅二亠人儿入八冂冖冫几凵刀力勹匕匚匸十卜卩厂厶又口囗土士夂夊夕大女子宀寸小尢尸屮山巛工己巾干幺广廴廾弋弓彐彡彳心戈戶手支攴文斗斤方"),
  (0x2F46, "无日曰月木欠止歹殳毋比毛氏气水火爪父爻爿片牙牛犬玄玉瓜瓦甘生用田疋疒癶白皮皿目矛矢石示禸禾穴立竹米糸缶网羊羽老而耒耳聿肉臣自至臼舌舛舟艮色艸"),
  (0x2F8C, "虍虫血行衣襾見角言谷豆豕豸貝赤走足身車辛辰辵邑酉釆里金長門阜隶隹雨靑非面革韋韭音頁風飛食首香馬骨高髟鬥鬯鬲鬼魚鳥鹵鹿麥麻黃黍黑黹黽鼎鼓鼠鼻齊"),
  (0x2FD2, "齒龍龜龠"), (0x3000, " "), (0x3036, "〒�十卄卅"),
  (0x3131, "ᄀᄁᆪᄂᆬᆭᄃᄄᄅᆰᆱᆲᆳᆴᆵᄚᄆᄇᄈᄡᄉᄊᄋᄌᄍᄎᄏᄐᄑ하ᅢᅣᅤᅥᅦᅧᅨᅩᅪᅫᅬᅭᅮᅯᅰᅱᅲᅳᅴᅵᅠᄔᄕᇇᇈᇌᇎᇓᇗᇙᄜᇝᇟᄝᄞᄠᄢᄣᄧ"),
  (0x3177, "ᄩᄫᄬᄭᄮᄯᄲᄶᅀᅇᅌᇱᇲᅗᅘᅙᆄᆅᆈᆑᆒᆔᆞᆡ"), (0x3192, "一二三四上中下甲乙丙丁天地人"), (0x3260, "ᄀᄂᄃᄅᄆᄇᄉᄋᄌᄎᄏᄐᄑᄒ"),
  (0x3280, "一二三四五六七八九十月火水木金土日株有社名特財祝労秘男女適優印注項休写正上中下左右医宗学監企資協夜"),
  (0x32D0, "アイウエオカキクケコサシスセソタチツテトナニヌネノハヒフヘホマミムメモヤユヨラリルレロワヰヱヲ"),
  (0xF900, "豈更車賈滑串句龜龜契金喇奈懶癩羅蘿螺裸邏樂洛烙珞落酪駱亂卵欄爛蘭鸞嵐濫藍襤拉臘蠟廊朗浪狼郎來冷勞擄櫓爐盧老蘆虜路露魯鷺碌祿綠菉錄鹿論壟弄籠聾"),
  (0xF946, "牢磊賂雷壘屢樓淚漏累縷陋勒肋凜凌稜綾菱陵讀拏樂諾丹寧怒率異北磻便復不泌數索參塞省葉說殺辰沈拾若掠略亮兩凉梁糧良諒量勵呂女廬旅濾礪閭驪麗黎力曆"),
  (0xF98C, "歷轢年憐戀撚漣煉璉秊練聯輦蓮連鍊列劣咽烈裂說廉念捻殮簾獵令囹寧嶺怜玲瑩羚聆鈴零靈領例禮醴隸惡了僚寮尿料樂燎療蓼遼龍暈阮劉杻柳流溜琉留硫紐類六"),
  (0xF9D2, "戮陸倫崙淪輪律慄栗率隆利吏履易李梨泥理痢罹裏裡里離匿溺吝燐璘藺隣鱗麟林淋臨立笠粒狀炙識什茶刺切度拓糖宅洞暴輻行降見廓兀嗀��塚�晴��凞猪益"),
  (0xFA18, "礼神祥福靖精羽�蘒�諸��逸都"),
  (0xFA2A, "飯飼館鶴��侮僧免勉勤卑喝嘆器塀墨層屮悔慨憎懲敏既暑梅海渚漢煮爫琢碑社祉祈祐祖祝禍禎穀突節練縉繁署者臭艹艹著褐視謁謹賓贈辶逸難響頻"),
  (0xFB20, "\u05e2\u05d0\u05d3\u05d4\u05db\u05dc\u05dd\u05e8\u05ea+"),
  (0xFB50, "\u0671\u0671\u067b\u067b\u067b\u067b\u067e\u067e\u067e\u067e\u0680\u0680"),
  (0xFB5C, "\u0680\u0680\u067a\u067a\u067a\u067a\u067f\u067f\u067f\u067f\u0679\u0679"),
  (0xFB68, "\u0679\u0679\u06a4\u06a4\u06a4\u06a4\u06a6\u06a6\u06a6\u06a6\u0684\u0684"),
  (0xFB74, "\u0684\u0684\u0683\u0683\u0683\u0683\u0686\u0686\u0686\u0686\u0687\u0687"),
  (0xFB80, "\u0687\u0687\u068d\u068d\u068c\u068c\u068e\u068e\u0688\u0688\u0698\u0698"),
  (0xFB8C, "\u0691\u0691\u06a9\u06a9\u06a9\u06a9\u06af\u06af\u06af\u06af\u06b3\u06b3"),
  (0xFB98, "\u06b3\u06b3\u06b1\u06b1\u06b1\u06b1\u06ba\u06ba\u06bb\u06bb\u06bb\u06bb"),
  (0xFBA6, "\u06c1\u06c1\u06c1\u06c1\u06be\u06be\u06be\u06be\u06d2\u06d2"),
  (0xFBD3, "\u06ad\u06ad\u06ad\u06ad\u06c7\u06c7\u06c6\u06c6\u06c8\u06c8�\u06cb\u06cb"),
  (0xFBE0, "\u06c5\u06c5\u06c9\u06c9\u06d0\u06d0\u06d0\u06d0\u0649\u0649"),
  (0xFBFC, "\u06cc\u06cc\u06cc\u06cc"), (0xFE31, "—–__()\x7b\x7d〔〕【】《》〈〉「」『』"),
  (0xFE4D, "___,、.�;:?!—()\x7b\x7d〔〕#&*+-<>=�\x5c$%@"), (0xFE80, "\u0621"),
  (0xFE8D, "\u0627\u0627\u0628\u0628\u0628\u0628\u0629\u0629\u062a\u062a\u062a\u062a"),
  (0xFE99, "\u062b\u062b\u062b\u062b\u062c\u062c\u062c\u062c\u062d\u062d\u062d\u062d"),
  (0xFEA5, "\u062e\u062e\u062e\u062e\u062f\u062f\u0630\u0630\u0631\u0631\u0632\u0632"),
  (0xFEB1, "\u0633\u0633\u0633\u0633\u0634\u0634\u0634\u0634\u0635\u0635\u0635\u0635"),
  (0xFEBD, "\u0636\u0636\u0636\u0636\u0637\u0637\u0637\u0637\u0638\u0638\u0638\u0638"),
  (0xFEC9, "\u0639\u0639\u0639\u0639\u063a\u063a\u063a\u063a\u0641\u0641\u0641\u0641"),
  (0xFED5, "\u0642\u0642\u0642\u0642\u0643\u0643\u0643\u0643\u0644\u0644\u0644\u0644"),
  (0xFEE1, "\u0645\u0645\u0645\u0645\u0646\u0646\u0646\u0646\u0647\u0647\u0647\u0647"),
  (0xFEED, "\u0648\u0648\u0649\u0649\u064a\u064a\u064a\u064a"),
  (0xFF01, "!\x22#$%&\x27()*+,-./0123456789:;<=>?@ABCDEFGHIJKLMNOPQRSTUVWXYZ[\x5c]"),
  (0xFF3E, "^_\x60abcdefghijklmnopqrstuvwxyz\x7b|\x7d~⦅⦆。「」、・ヲァィゥェォャュョッ\u30fcアイウエオ"),
  (0xFF76, "カキクケコサシスセソタチツテトナニヌネノハヒフヘホマミムメモヤユヨラリルレロワン\u3099\u309aᅠᄀᄁᆪᄂᆬᆭᄃᄄᄅᆰᆱᆲᆳᆴᆵᄚᄆ"),
  (0xFFB2, "ᄇᄈᄡᄉᄊᄋᄌᄍᄎᄏᄐᄑᄒ"), (0xFFC2, "ᅡᅢᅣᅤᅥᅦ��ᅧᅨᅩᅪᅫᅬ��ᅭᅮᅯᅰᅱᅲ��ᅳᅴᅵ"), (0xFFE0, "¢£¬�¦¥₩�│←↑→↓■○"),
  (0x1D400, "ABCDEFGHIJKLMNOPQRSTUVWXYZabcdefghijklmnopqrstuvwxyzABCDEFGHIJKLMNOPQR"),
  (0x1D446, "STUVWXYZabcdefg�ijklmnopqrstuvwxyzABCDEFGHIJKLMNOPQRSTUVWXYZabcdefghij"),
  (0x1D48C, "klmnopqrstuvwxyzA�CD��G��JK��NOPQ�STUVWXYZabcd�f�hijk�mn�pqrstuvwxyzAB"),
  (0x1D4D2, "CDEFGHIJKLMNOPQRSTUVWXYZabcdefghijklmnopqrstuvwxyzAB�DEFG��JKLMNOPQ�ST"),
  (0x1D518, "UVWXY�abcdefghijklmnopqrstuvwxyzAB�DEFG�IJKLM�O"),
  (0x1D54A, "STUVWXY�abcdefghijklmnopqrstuvwxyzABCDEFGHIJKLMNOPQRSTUVWXYZabcdefghij"),
  (0x1D590, "klmnopqrstuvwxyzABCDEFGHIJKLMNOPQRSTUVWXYZabcdefghijklmnopqrstuvwxyzAB"),
  (0x1D5D6, "CDEFGHIJKLMNOPQRSTUVWXYZabcdefghijklmnopqrstuvwxyzABCDEFGHIJKLMNOPQRST"),
  (0x1D61C, "UVWXYZabcdefghijklmnopqrstuvwxyzABCDEFGHIJKLMNOPQRSTUVWXYZabcdefghijkl"),
  (0x1D662, "mnopqrstuvwxyzABCDEFGHIJKLMNOPQRSTUVWXYZabcdefghijklmnopqrstuvwxyz"),
  (0x1D6A8, "ΑΒΓΔΕΖΗΘΙΚΛΜΝΞΟΠΡΘΣΤΥΦΧΨΩ∇αβγδεζηθικλμνξοπρςστυφχψω∂εθκφρπΑΒΓΔΕΖΗΘΙΚΛΜ"),
  (0x1D6EE, "ΝΞΟΠΡΘΣΤΥΦΧΨΩ∇αβγδεζηθικλμνξοπρςστυφχψω∂εθκφρπΑΒΓΔΕΖΗΘΙΚΛΜΝΞΟΠΡΘΣΤΥΦΧΨ"),
  (0x1D734, "Ω∇αβγδεζηθικλμνξοπρςστυφχψω∂εθκφρπΑΒΓΔΕΖΗΘΙΚΛΜΝΞΟΠΡΘΣΤΥΦΧΨΩ∇αβγδεζηθικ"),
  (0x1D77A, "λμνξοπρςστυφχψω∂εθκφρπΑΒΓΔΕΖΗΘΙΚΛΜΝΞΟΠΡΘΣΤΥΦΧΨΩ∇αβγδεζηθικλμνξοπρςστυφ"),
  (0x1D7C0, "χψω∂εθκφρπ"), (0x1D7CE, "01234567890123456789012345678901234567890123456789"),
  (0x2F800, "丽丸乁𠄢你侮侻倂偺備僧像㒞𠘺免兔兤具𠔜㒹內再𠕋冗冤仌冬况𩇟凵刃㓟刻剆割剷㔕勇勉勤勺包匆北卉卑博即卽卿卿卿𠨬灰及叟𠭣叫叱吆咞吸呈周咢哶唐啓啣善"),
  (0x2F846, "善喙喫喳嗂圖嘆圗噑噴切壮城埴堍型堲報墬𡓤売壷夆多夢奢𡚨𡛪姬娛娧姘婦㛮𡍪嬈嬾嬾𡧈寃寘寧寳𡬘寿将弳尢㞁屠屮峀岍𡷤嵃𡷦嵮嵫嵼巡巢㠯巽帨帽幩㡢𢆃㡼庰"),
  (0x2F88C, "庳庶廊𪎒廾𢌱𢌱舁弢弢㣇𣊸𦇚形彫㣣徚忍志忹悁㤺㤜悔𢛔惇慈慌慎慌慺憎憲憤憯懞懲懶成戛扝抱拔捐𢬌挽拼捨掃揤𢯱搢揅掩㨮摩摾撝摷㩬敏敬𣀊旣書晉㬙暑㬈㫤"),
  (0x2F8D2, "冒冕最暜肭䏙朗望朡杞杓𣏃㭉柺枅桒梅𣑭梎栟椔㮝楂榣槪檨𣚣櫛㰘次𣢧歔㱎歲殟殺殻𣪍𡴋𣫺汎𣲼沿泍汧洖派海流浩浸涅𣴞洴港湮㴳滋滇𣻑淹潮𣽞𣾎濆瀹瀞瀛㶖灊"),
  (0x2F918, "災灷炭𠔥煅𤉣熜䎫爨爵牐𤘈犀犕𤜵𤠔獺王㺬玥㺸㺸瑇瑜瑱璅瓊㼛甤𤰶甾𤲒異𢆟瘐𤾡𤾸𥁄㿼䀈直𥃳𥃲𥄙𥄳眞真真睊䀹瞋䁆䂖𥐝硎碌磌䃣𥘦祖𥚚𥛅福秫䄯穀穊穏𥥼𥪧"),
  (0x2F95E, "𥪧窮䈂𥮫篆築䈧𥲀糒䊠糨糣紀𥾆絣䌁緇縂繅䌴𦈨𦉇䍙𦋙罺𦌾羕翺者𦓚𦔣聠𦖨聰𣍟䏕育脃䐋脾媵𦞧𦞵𣎓𣎜舁舄辞䑫芑芋芝劳花芳芽苦𦬼若茝荣莭茣莽菧著荓菊菌菜"),
  (0x2F9A4, "𦰶𦵫𦳕䔫蓱蓳蔖𧏊蕤𦼬䕝䕡𦾱𧃒䕫虐虜虧虩蚩蚈蜎蛢蝹蜨蝫螆䵗蟡蠁䗹衠衣𧙧裗裞䘵裺㒻𧢮𧥦䚾䛇誠諭變豕𧲨貫賁贛起𧼯𠠄跋趼跰𠣞軔輸𨗒𨗭邔郱鄑𨜮鄛鈸鋗鋘"),
  (0x2F9EA, "鉼鏹鐕𨯺開䦕閷𨵷䧦雃嶲霣𩅅𩈚䩮䩶韠𩐊䪲𩒖頋頋頩𩖶飢䬳餩馧駂駾䯎𩬰鬒鱀鳽䳎䳭鵧𪃎䳸𪄅𪈎𪊑麻䵖黹黾鼅鼏鼖鼻𪘀")]

/-- The forms of several characters. -/
def severalForms : List (Nat × String) := [
  (0x00A8, " \u0308"), (0x00AF, " \u0304"), (0x00B4, " \u0301"), (0x00B8, " \u0327"),
  (0x00BC, "1⁄4"), (0x00BD, "1⁄2"), (0x00BE, "3⁄4"), (0x0132, "IJ"), (0x0133, "ij"),
  (0x013F, "L·"), (0x0140, "l·"), (0x0149, "\u02bcn"), (0x01C4, "DZ\u030c"), (0x01C5, "Dz\u030c"),
  (0x01C6, "dz\u030c"), (0x01C7, "LJ"), (0x01C8, "Lj"), (0x01C9, "lj"), (0x01CA, "NJ"),
  (0x01CB, "Nj"), (0x01CC, "nj"), (0x01F1, "DZ"), (0x01F2, "Dz"), (0x01F3, "dz"),
  (0x02D8, " \u0306"), (0x02D9, " \u0307"), (0x02DA, " \u030a"), (0x02DB, " \u0328"),
  (0x02DC, " \u0303"), (0x02DD, " \u030b"), (0x0344, "\u0308\u0301"), (0x037A, " \u0345"),
  (0x0384, " \u0301"), (0x0587, "եւ"), (0x0675, "\u0627\u0674"), (0x0676, "\u0648\u0674"),
  (0x0677, "\u06c7\u0674"), (0x0678, "\u064a\u0674"), (0x0958, "क\u093c"), (0x0959, "ख\u093c"),
  (0x095A, "ग\u093c"), (0x095B, "ज\u093c"), (0x095C, "ड\u093c"), (0x095D, "ढ\u093c"),
  (0x095E, "फ\u093c"), (0x095F, "य\u093c"), (0x09DC, "ড\u09bc"), (0x09DD, "ঢ\u09bc"),
  (0x09DF, "য\u09bc"), (0x0A33, "ਲ\u0a3c"), (0x0A36, "ਸ\u0a3c"), (0x0A59, "ਖ\u0a3c"),
  (0x0A5A, "ਗ\u0a3c"), (0x0A5B, "ਜ\u0a3c"), (0x0A5E, "ਫ\u0a3c"), (0x0B5C, "ଡ\u0b3c"),
  (0x0B5D, "ଢ\u0b3c"), (0x0E33, "\u0e4dา"), (0x0EB3, "\u0ecdາ"), (0x0EDC, "ຫນ"), (0x0EDD, "ຫມ"),
  (0x0F43, "ག\u0fb7"), (0x0F4D, "ཌ\u0fb7"), (0x0F52, "ད\u0fb7"), (0x0F57, "བ\u0fb7"),
  (0x0F5C, "ཛ\u0fb7"), (0x0F69, "ཀ\u0fb5"), (0x0F73, "\u0f71\u0f72"), (0x0F75, "\u0f71\u0f74"),
  (0x0F76, "\u0fb2\u0f80"), (0x0F77, "\u0fb2\u0f71\u0f80"), (0x0F78, "\u0fb3\u0f80"),
  (0x0F79, "\u0fb3\u0f71\u0f80"), (0x0F81, "\u0f71\u0f80"), (0x0F93, "\u0f92\u0fb7"),
  (0x0F9D, "\u0f9c\u0fb7"), (0x0FA2, "\u0fa1\u0fb7"), (0x0FA7, "\u0fa6\u0fb7"),
  (0x0FAC, "\u0fab\u0fb7"), (0x0FB9, "\u0f90\u0fb5"), (0x1E9A, "a\u02be"), (0x1F71, "α\u0301"),
  (0x1F73, "ε\u0301"), (0x1F75, "η\u0301"), (0x1F77, "ι\u0301"), (0x1F79, "ο\u0301"),
  (0x1F7B, "υ\u0301"), (0x1F7D, "ω\u0301"), (0x1FBB, "Α\u0301"), (0x1FBD, " \u0313"),
  (0x1FBF, " \u0313"), (0x1FC0, " \u0342"), (0x1FC9, "Ε\u0301"), (0x1FCB, "Η\u0301"),
  (0x1FD3, "ι\u0308\u0301"), (0x1FDB, "Ι\u0301"), (0x1FE3, "υ\u0308\u0301"), (0x1FEB, "Υ\u0301"),
  (0x1FEE, " \u0308\u0301"), (0x1FF9, "Ο\u0301"), (0x1FFB, "Ω\u0301"), (0x1FFD, " \u0301"),
  (0x1FFE, " \u0314"), (0x2017, " \u0333"), (0x2025, ".."), (0x2026, "..."), (0x2033, "′′"),
  (0x2034, "′′′"), (0x2036, "‵‵"), (0x2037, "‵‵‵"), (0x203C, "!!"), (0x203E, " \u0305"),
  (0x2047, "??"), (0x2048, "?!"), (0x2049, "!?"), (0x2057, "′′′′"), (0x20A8, "Rs"),
  (0x2100, "a/c"), (0x2101, "a/s"), (0x2103, "°C"), (0x2105, "c/o"), (0x2106, "c/u"),
  (0x2109, "°F"), (0x2116, "No"), (0x2120, "SM"), (0x2121, "TEL"), (0x2122, "TM"),
  (0x212B, "A\u030a"), (0x2153, "1⁄3"), (0x2154, "2⁄3"), (0x2155, "1⁄5"), (0x2156, "2⁄5"),
  (0x2157, "3⁄5"), (0x2158, "4⁄5"), (0x2159, "1⁄6"), (0x215A, "5⁄6"), (0x215B, "1⁄8"),
  (0x215C, "3⁄8"), (0x215D, "5⁄8"), (0x215E, "7⁄8"), (0x215F, "1⁄"), (0x2161, "II"),
  (0x2162, "III"), (0x2163, "IV"), (0x2165, "VI"), (0x2166, "VII"), (0x2167, "VIII"),
  (0x2168, "IX"), (0x216A, "XI"), (0x216B, "XII"), (0x2171, "ii"), (0x2172, "iii"), (0x2173, "iv"),
  (0x2175, "vi"), (0x2176, "vii"), (0x2177, "viii"), (0x2178, "ix"), (0x217A, "xi"),
  (0x217B, "xii"), (0x222C, "∫∫"), (0x222D, "∫∫∫"), (0x222F, "∮∮"), (0x2230, "∮∮∮"),
  (0x2469, "10"), (0x246A, "11"), (0x246B, "12"), (0x246C, "13"), (0x246D, "14"), (0x246E, "15"),
  (0x246F, "16"), (0x2470, "17"), (0x2471, "18"), (0x2472, "19"), (0x2473, "20"), (0x2474, "(1)"),
  (0x2475, "(2)"), (0x2476, "(3)"), (0x2477, "(4)"), (0x2478, "(5)"), (0x2479, "(6)"),
  (0x247A, "(7)"), (0x247B, "(8)"), (0x247C, "(9)"), (0x247D, "(10)"), (0x247E, "(11)"),
  (0x247F, "(12)"), (0x2480, "(13)"), (0x2481, "(14)"), (0x2482, "(15)"), (0x2483, "(16)"),
  (0x2484, "(17)"), (0x2485, "(18)"), (0x2486, "(19)"), (0x2487, "(20)"), (0x2488, "1."),
  (0x2489, "2."), (0x248A, "3."), (0x248B, "4."), (0x248C, "5."), (0x248D, "6."), (0x248E, "7."),
  (0x248F, "8."), (0x2490, "9."), (0x2491, "10."), (0x2492, "11."), (0x2493, "12."),
  (0x2494, "13."), (0x2495, "14."), (0x2496, "15."), (0x2497, "16."), (0x2498, "17."),
  (0x2499, "18."), (0x249A, "19."), (0x249B, "20."), (0x249C, "(a)"), (0x249D, "(b)"),
  (0x249E, "(c)"), (0x249F, "(d)"), (0x24A0, "(e)"), (0x24A1, "(f)"), (0x24A2, "(g)"),
  (0x24A3, "(h)"), (0x24A4, "(i)"), (0x24A5, "(j)"), (0x24A6, "(k)"), (0x24A7, "(l)"),
  (0x24A8, "(m)"), (0x24A9, "(n)"), (0x24AA, "(o)"), (0x24AB, "(p)"), (0x24AC, "(q)"),
  (0x24AD, "(r)"), (0x24AE, "(s)"), (0x24AF, "(t)"), (0x24B0, "(u)"), (0x24B1, "(v)"),
  (0x24B2, "(w)"), (0x24B3, "(x)"), (0x24B4, "(y)"), (0x24B5, "(z)"), (0x2A0C, "∫∫∫∫"),
  (0x2A74, "::="), (0x2A75, "=="), (0x2A76, "==="), (0x2ADC, "⫝\u0338"), (0x309B, " \u3099"),
  (0x309C, " \u309a"), (0x309F, "より"), (0x30FF, "コト"), (0x3200, "(ᄀ)"), (0x3201, "(ᄂ)"),
  (0x3202, "(ᄃ)"), (0x3203, "(ᄅ)"), (0x3204, "(ᄆ)"), (0x3205, "(ᄇ)"), (0x3206, "(ᄉ)"),
  (0x3207, "(ᄋ)"), (0x3208, "(ᄌ)"), (0x3209, "(ᄎ)"), (0x320A, "(ᄏ)"), (0x320B, "(ᄐ)"),
  (0x320C, "(ᄑ)"), (0x320D, "(ᄒ)"), (0x320E, "(가)"), (0x320F, "(나)"), (0x3210, "(다)"),
  (0x3211, "(라)"), (0x3212, "(마)"), (0x3213, "(바)"), (0x3214, "(사)"), (0x3215, "(아)"),
  (0x3216, "(자)"), (0x3217, "(차)"), (0x3218, "(카)"), (0x3219, "(타)"), (0x321A, "(파)"),
  (0x321B, "(하)"), (0x321C, "(주)"), (0x3220, "(一)"), (0x3221, "(二)"), (0x3222, "(三)"),
  (0x3223, "(四)"), (0x3224, "(五)"), (0x3225, "(六)"), (0x3226, "(七)"), (0x3227, "(八)"),
  (0x3228, "(九)"), (0x3229, "(十)"), (0x322A, "(月)"), (0x322B, "(火)"), (0x322C, "(水)"),
  (0x322D, "(木)"), (0x322E, "(金)"), (0x322F, "(土)"), (0x3230, "(日)"), (0x3231, "(株)"),
  (0x3232, "(有)"), (0x3233, "(社)"), (0x3234, "(名)"), (0x3235, "(特)"), (0x3236, "(財)"),
  (0x3237, "(祝)"), (0x3238, "(労)"), (0x3239, "(代)"), (0x323A, "(呼)"), (0x323B, "(学)"),
  (0x323C, "(監)"), (0x323D, "(企)"), (0x323E, "(資)"), (0x323F, "(協)"), (0x3240, "(祭)"),
  (0x3241, "(休)"), (0x3242, "(自)"), (0x3243, "(至)"), (0x3251, "21"), (0x3252, "22"),
  (0x3253, "23"), (0x3254, "24"), (0x3255, "25"), (0x3256, "26"), (0x3257, "27"), (0x3258, "28"),
  (0x3259, "29"), (0x325A, "30"), (0x325B, "31"), (0x325C, "32"), (0x325D, "33"), (0x325E, "34"),
  (0x325F, "35"), (0x326E, "가"), (0x326F, "나"), (0x3270, "다"), (0x3271, "라"), (0x3272, "마"),
  (0x3273, "바"), (0x3274, "사"), (0x3275, "아"), (0x3276, "자"), (0x3277, "차"), (0x3278, "카"),
  (0x3279, "타"), (0x327A, "파"), (0x327B, "하"), (0x32B1, "36"), (0x32B2, "37"), (0x32B3, "38"),
  (0x32B4, "39"), (0x32B5, "40"), (0x32B6, "41"), (0x32B7, "42"), (0x32B8, "43"), (0x32B9, "44"),
  (0x32BA, "45"), (0x32BB, "46"), (0x32BC, "47"), (0x32BD, "48"), (0x32BE, "49"), (0x32BF, "50"),
  (0x32C0, "1月"), (0x32C1, "2月"), (0x32C2, "3月"), (0x32C3, "4月"), (0x32C4, "5月"), (0x32C5, "6月"),
  (0x32C6, "7月"), (0x32C7, "8月"), (0x32C8, "9月"), (0x32C9, "10月"), (0x32CA, "11月"),
  (0x32CB, "12月"), (0x3300, "アハ\u309a\u30fcト"), (0x3301, "アルファ"), (0x3302, "アンヘ\u309aア"),
  (0x3303, "ア\u30fcル"), (0x3304, "イニンク\u3099"), (0x3305, "インチ"), (0x3306, "ウォン"),
  (0x3307, "エスク\u30fcト\u3099"), (0x3308, "エ\u30fcカ\u30fc"), (0x3309, "オンス"), (0x330A, "オ\u30fcム"),
  (0x330B, "カイリ"), (0x330C, "カラット"), (0x330D, "カロリ\u30fc"), (0x330E, "カ\u3099ロン"),
  (0x330F, "カ\u3099ンマ"), (0x3310, "キ\u3099カ\u3099"), (0x3311, "キ\u3099ニ\u30fc"),
  (0x3312, "キュリ\u30fc"), (0x3313, "キ\u3099ルタ\u3099\u30fc"), (0x3314, "キロ"),
  (0x3315, "キロク\u3099ラム"), (0x3316, "キロメ\u30fcトル"), (0x3317, "キロワット"), (0x3318, "ク\u3099ラム"),
  (0x3319, "ク\u3099ラムトン"), (0x331A, "クルセ\u3099イロ"), (0x331B, "クロ\u30fcネ"), (0x331C, "ケ\u30fcス"),
  (0x331D, "コルナ"), (0x331E, "コ\u30fcホ\u309a"), (0x331F, "サイクル"), (0x3320, "サンチ\u30fcム"),
  (0x3321, "シリンク\u3099"), (0x3322, "センチ"), (0x3323, "セント"), (0x3324, "タ\u3099\u30fcス"),
  (0x3325, "テ\u3099シ"), (0x3326, "ト\u3099ル"), (0x3327, "トン"), (0x3328, "ナノ"), (0x3329, "ノット"),
  (0x332A, "ハイツ"), (0x332B, "ハ\u309a\u30fcセント"), (0x332C, "ハ\u309a\u30fcツ"),
  (0x332D, "ハ\u3099\u30fcレル"), (0x332E, "ヒ\u309aアストル"), (0x332F, "ヒ\u309aクル"),
  (0x3330, "ヒ\u309aコ"), (0x3331, "ヒ\u3099ル"), (0x3332, "ファラット\u3099"), (0x3333, "フィ\u30fcト"),
  (0x3334, "フ\u3099ッシェル"), (0x3335, "フラン"), (0x3336, "ヘクタ\u30fcル"), (0x3337, "ヘ\u309aソ"),
  (0x3338, "ヘ\u309aニヒ"), (0x3339, "ヘルツ"), (0x333A, "ヘ\u309aンス"), (0x333B, "ヘ\u309a\u30fcシ\u3099"),
  (0x333C, "ヘ\u3099\u30fcタ"), (0x333D, "ホ\u309aイント"), (0x333E, "ホ\u3099ルト"), (0x333F, "ホン"),
  (0x3340, "ホ\u309aント\u3099"), (0x3341, "ホ\u30fcル"), (0x3342, "ホ\u30fcン"), (0x3343, "マイクロ"),
  (0x3344, "マイル"), (0x3345, "マッハ"), (0x3346, "マルク"), (0x3347, "マンション"), (0x3348, "ミクロン"),
  (0x3349, "ミリ"), (0x334A, "ミリハ\u3099\u30fcル"), (0x334B, "メカ\u3099"), (0x334C, "メカ\u3099トン"),
  (0x334D, "メ\u30fcトル"), (0x334E, "ヤ\u30fcト\u3099"), (0x334F, "ヤ\u30fcル"), (0x3350, "ユアン"),
  (0x3351, "リットル"), (0x3352, "リラ"), (0x3353, "ルヒ\u309a\u30fc"), (0x3354, "ル\u30fcフ\u3099ル"),
  (0x3355, "レム"), (0x3356, "レントケ\u3099ン"), (0x3357, "ワット"), (0x3358, "0点"), (0x3359, "1点"),
  (0x335A, "2点"), (0x335B, "3点"), (0x335C, "4点"), (0x335D, "5点"), (0x335E, "6点"), (0x335F, "7点"),
  (0x3360, "8点"), (0x3361, "9点"), (0x3362, "10点"), (0x3363, "11点"), (0x3364, "12点"),
  (0x3365, "13点"), (0x3366, "14点"), (0x3367, "15点"), (0x3368, "16点"), (0x3369, "17点"),
  (0x336A, "18点"), (0x336B, "19点"), (0x336C, "20点"), (0x336D, "21点"), (0x336E, "22点"),
  (0x336F, "23点"), (0x3370, "24点"), (0x3371, "hPa"), (0x3372, "da"), (0x3373, "AU"),
  (0x3374, "bar"), (0x3375, "oV"), (0x3376, "pc"), (0x337B, "平成"), (0x337C, "昭和"), (0x337D, "大正"),
  (0x337E, "明治"), (0x337F, "株式会社"), (0x3380, "pA"), (0x3381, "nA"), (0x3382, "μA"), (0x3383, "mA"),
  (0x3384, "kA"), (0x3385, "KB"), (0x3386, "MB"), (0x3387, "GB"), (0x3388, "cal"),
  (0x3389, "kcal"), (0x338A, "pF"), (0x338B, "nF"), (0x338C, "μF"), (0x338D, "μg"), (0x338E, "mg"),
  (0x338F, "kg"), (0x3390, "Hz"), (0x3391, "kHz"), (0x3392, "MHz"), (0x3393, "GHz"),
  (0x3394, "THz"), (0x3395, "μl"), (0x3396, "ml"), (0x3397, "dl"), (0x3398, "kl"), (0x3399, "fm"),
  (0x339A, "nm"), (0x339B, "μm"), (0x339C, "mm"), (0x339D, "cm"), (0x339E, "km"), (0x339F, "mm2"),
  (0x33A0, "cm2"), (0x33A1, "m2"), (0x33A2, "km2"), (0x33A3, "mm3"), (0x33A4, "cm3"),
  (0x33A5, "m3"), (0x33A6, "km3"), (0x33A7, "m∕s"), (0x33A8, "m∕s2"), (0x33A9, "Pa"),
  (0x33AA, "kPa"), (0x33AB, "MPa"), (0x33AC, "GPa"), (0x33AD, "rad"), (0x33AE, "rad∕s"),
  (0x33AF, "rad∕s2"), (0x33B0, "ps"), (0x33B1, "ns"), (0x33B2, "μs"), (0x33B3, "ms"),
  (0x33B4, "pV"), (0x33B5, "nV"), (0x33B6, "μV"), (0x33B7, "mV"), (0x33B8, "kV"), (0x33B9, "MV"),
  (0x33BA, "pW"), (0x33BB, "nW"), (0x33BC, "μW"), (0x33BD, "mW"), (0x33BE, "kW"), (0x33BF, "MW"),
  (0x33C0, "kΩ"), (0x33C1, "MΩ"), (0x33C2, "a.m."), (0x33C3, "Bq"), (0x33C4, "cc"), (0x33C5, "cd"),
  (0x33C6, "C∕kg"), (0x33C7, "Co."), (0x33C8, "dB"), (0x33C9, "Gy"), (0x33CA, "ha"),
  (0x33CB, "HP"), (0x33CC, "in"), (0x33CD, "KK"), (0x33CE, "KM"), (0x33CF, "kt"), (0x33D0, "lm"),
  (0x33D1, "ln"), (0x33D2, "log"), (0x33D3, "lx"), (0x33D4, "mb"), (0x33D5, "mil"),
  (0x33D6, "mol"), (0x33D7, "PH"), (0x33D8, "p.m."), (0x33D9, "PPM"), (0x33DA, "PR"),
  (0x33DB, "sr"), (0x33DC, "Sv"), (0x33DD, "Wb"), (0x33E0, "1日"), (0x33E1, "2日"), (0x33E2, "3日"),
  (0x33E3, "4日"), (0x33E4, "5日"), (0x33E5, "6日"), (0x33E6, "7日"), (0x33E7, "8日"), (0x33E8, "9日"),
  (0x33E9, "10日"), (0x33EA, "11日"), (0x33EB, "12日"), (0x33EC, "13日"), (0x33ED, "14日"),
  (0x33EE, "15日"), (0x33EF, "16日"), (0x33F0, "17日"), (0x33F1, "18日"), (0x33F2, "19日"),
  (0x33F3, "20日"), (0x33F4, "21日"), (0x33F5, "22日"), (0x33F6, "23日"), (0x33F7, "24日"),
  (0x33F8, "25日"), (0x33F9, "26日"), (0x33FA, "27日"), (0x33FB, "28日"), (0x33FC, "29日"),
  (0x33FD, "30日"), (0x33FE, "31日"), (0xFB00, "ff"), (0xFB01, "fi"), (0xFB02, "fl"),
  (0xFB03, "ffi"), (0xFB04, "ffl"), (0xFB05, "st"), (0xFB06, "st"), (0xFB13, "մն"), (0xFB14, "մե"),
  (0xFB15, "մի"), (0xFB16, "վն"), (0xFB17, "մխ"), (0xFB1D, "\u05d9\u05b4"),
  (0xFB1F, "\u05f2\u05b7"), (0xFB2A, "\u05e9\u05c1"), (0xFB2B, "\u05e9\u05c2"),
  (0xFB2C, "\u05e9\u05bc\u05c1"), (0xFB2D, "\u05e9\u05bc\u05c2"), (0xFB2E, "\u05d0\u05b7"),
  (0xFB2F, "\u05d0\u05b8"), (0xFB30, "\u05d0\u05bc"), (0xFB31, "\u05d1\u05bc"),
  (0xFB32, "\u05d2\u05bc"), (0xFB33, "\u05d3\u05bc"), (0xFB34, "\u05d4\u05bc"),
  (0xFB35, "\u05d5\u05bc"), (0xFB36, "\u05d6\u05bc"), (0xFB38, "\u05d8\u05bc"),
  (0xFB39, "\u05d9\u05bc"), (0xFB3A, "\u05da\u05bc"), (0xFB3B, "\u05db\u05bc"),
  (0xFB3C, "\u05dc\u05bc"), (0xFB3E, "\u05de\u05bc"), (0xFB40, "\u05e0\u05bc"),
  (0xFB41, "\u05e1\u05bc"), (0xFB43, "\u05e3\u05bc"), (0xFB44, "\u05e4\u05bc"),
  (0xFB46, "\u05e6\u05bc"), (0xFB47, "\u05e7\u05bc"), (0xFB48, "\u05e8\u05bc"),
  (0xFB49, "\u05e9\u05bc"), (0xFB4A, "\u05ea\u05bc"), (0xFB4B, "\u05d5\u05b9"),
  (0xFB4C, "\u05d1\u05bf"), (0xFB4D, "\u05db\u05bf"), (0xFB4E, "\u05e4\u05bf"),
  (0xFB4F, "\u05d0\u05dc"), (0xFBA4, "\u06d5\u0654"), (0xFBA5, "\u06d5\u0654"),
  (0xFBB0, "\u06d2\u0654"), (0xFBB1, "\u06d2\u0654"), (0xFBDD, "\u06c7\u0674"),
  (0xFBEA, "\u064a\u0654\u0627"), (0xFBEB, "\u064a\u0654\u0627"), (0xFBEC, "\u064a\u0654\u06d5"),
  (0xFBED, "\u064a\u0654\u06d5"), (0xFBEE, "\u064a\u0654\u0648"), (0xFBEF, "\u064a\u0654\u0648"),
  (0xFBF0, "\u064a\u0654\u06c7"), (0xFBF1, "\u064a\u0654\u06c7"), (0xFBF2, "\u064a\u0654\u06c6"),
  (0xFBF3, "\u064a\u0654\u06c6"), (0xFBF4, "\u064a\u0654\u06c8"), (0xFBF5, "\u064a\u0654\u06c8"),
  (0xFBF6, "\u064a\u0654\u06d0"), (0xFBF7, "\u064a\u0654\u06d0"), (0xFBF8, "\u064a\u0654\u06d0"),
  (0xFBF9, "\u064a\u0654\u0649"), (0xFBFA, "\u064a\u0654\u0649"), (0xFBFB, "\u064a\u0654\u0649"),
  (0xFC00, "\u064a\u0654\u062c"), (0xFC01, "\u064a\u0654\u062d"), (0xFC02, "\u064a\u0654\u0645"),
  (0xFC03, "\u064a\u0654\u0649"), (0xFC04, "\u064a\u0654\u064a"), (0xFC05, "\u0628\u062c"),
  (0xFC06, "\u0628\u062d"), (0xFC07, "\u0628\u062e"), (0xFC08, "\u0628\u0645"),
  (0xFC09, "\u0628\u0649"), (0xFC0A, "\u0628\u064a"), (0xFC0B, "\u062a\u062c"),
  (0xFC0C, "\u062a\u062d"), (0xFC0D, "\u062a\u062e"), (0xFC0E, "\u062a\u0645"),
  (0xFC0F, "\u062a\u0649"), (0xFC10, "\u062a\u064a"), (0xFC11, "\u062b\u062c"),
  (0xFC12, "\u062b\u0645"), (0xFC13, "\u062b\u0649"), (0xFC14, "\u062b\u064a"),
  (0xFC15, "\u062c\u062d"), (0xFC16, "\u062c\u0645"), (0xFC17, "\u062d\u062c"),
  (0xFC18, "\u062d\u0645"), (0xFC19, "\u062e\u062c"), (0xFC1A, "\u062e\u062d"),
  (0xFC1B, "\u062e\u0645"), (0xFC1C, "\u0633\u062c"), (0xFC1D, "\u0633\u062d"),
  (0xFC1E, "\u0633\u062e"), (0xFC1F, "\u0633\u0645"), (0xFC20, "\u0635\u062d"),
  (0xFC21, "\u0635\u0645"), (0xFC22, "\u0636\u062c"), (0xFC23, "\u0636\u062d"),
  (0xFC24, "\u0636\u062e"), (0xFC25, "\u0636\u0645"), (0xFC26, "\u0637\u062d"),
  (0xFC27, "\u0637\u0645"), (0xFC28, "\u0638\u0645"), (0xFC29, "\u0639\u062c"),
  (0xFC2A, "\u0639\u0645"), (0xFC2B, "\u063a\u062c"), (0xFC2C, "\u063a\u0645"),
  (0xFC2D, "\u0641\u062c"), (0xFC2E, "\u0641\u062d"), (0xFC2F, "\u0641\u062e"),
  (0xFC30, "\u0641\u0645"), (0xFC31, "\u0641\u0649"), (0xFC32, "\u0641\u064a"),
  (0xFC33, "\u0642\u062d"), (0xFC34, "\u0642\u0645"), (0xFC35, "\u0642\u0649"),
  (0xFC36, "\u0642\u064a"), (0xFC37, "\u0643\u0627"), (0xFC38, "\u0643\u062c"),
  (0xFC39, "\u0643\u062d"), (0xFC3A, "\u0643\u062e"), (0xFC3B, "\u0643\u0644"),
  (0xFC3C, "\u0643\u0645"), (0xFC3D, "\u0643\u0649"), (0xFC3E, "\u0643\u064a"),
  (0xFC3F, "\u0644\u062c"), (0xFC40, "\u0644\u062d"), (0xFC41, "\u0644\u062e"),
  (0xFC42, "\u0644\u0645"), (0xFC43, "\u0644\u0649"), (0xFC44, "\u0644\u064a"),
  (0xFC45, "\u0645\u062c"), (0xFC46, "\u0645\u062d"), (0xFC47, "\u0645\u062e"),
  (0xFC48, "\u0645\u0645"), (0xFC49, "\u0645\u0649"), (0xFC4A, "\u0645\u064a"),
  (0xFC4B, "\u0646\u062c"), (0xFC4C, "\u0646\u062d"), (0xFC4D, "\u0646\u062e"),
  (0xFC4E, "\u0646\u0645"), (0xFC4F, "\u0646\u0649"), (0xFC50, "\u0646\u064a"),
  (0xFC51, "\u0647\u062c"), (0xFC52, "\u0647\u0645"), (0xFC53, "\u0647\u0649"),
  (0xFC54, "\u0647\u064a"), (0xFC55, "\u064a\u062c"), (0xFC56, "\u064a\u062d"),
  (0xFC57, "\u064a\u062e"), (0xFC58, "\u064a\u0645"), (0xFC59, "\u064a\u0649"),
  (0xFC5A, "\u064a\u064a"), (0xFC5B, "\u0630\u0670"), (0xFC5C, "\u0631\u0670"),
  (0xFC5D, "\u0649\u0670"), (0xFC5E, " \u064c\u0651"), (0xFC5F, " \u064d\u0651"),
  (0xFC60, " \u064e\u0651"), (0xFC61, " \u064f\u0651"), (0xFC62, " \u0650\u0651"),
  (0xFC63, " \u0651\u0670"), (0xFC64, "\u064a\u0654\u0631"), (0xFC65, "\u064a\u0654\u0632"),
  (0xFC66, "\u064a\u0654\u0645"), (0xFC67, "\u064a\u0654\u0646"), (0xFC68, "\u064a\u0654\u0649"),
  (0xFC69, "\u064a\u0654\u064a"), (0xFC6A, "\u0628\u0631"), (0xFC6B, "\u0628\u0632"),
  (0xFC6C, "\u0628\u0645"), (0xFC6D, "\u0628\u0646"), (0xFC6E, "\u0628\u0649"),
  (0xFC6F, "\u0628\u064a"), (0xFC70, "\u062a\u0631"), (0xFC71, "\u062a\u0632"),
  (0xFC72, "\u062a\u0645"), (0xFC73, "\u062a\u0646"), (0xFC74, "\u062a\u0649"),
  (0xFC75, "\u062a\u064a"), (0xFC76, "\u062b\u0631"), (0xFC77, "\u062b\u0632"),
  (0xFC78, "\u062b\u0645"), (0xFC79, "\u062b\u0646"), (0xFC7A, "\u062b\u0649"),
  (0xFC7B, "\u062b\u064a"), (0xFC7C, "\u0641\u0649"), (0xFC7D, "\u0641\u064a"),
  (0xFC7E, "\u0642\u0649"), (0xFC7F, "\u0642\u064a"), (0xFC80, "\u0643\u0627"),
  (0xFC81, "\u0643\u0644"), (0xFC82, "\u0643\u0645"), (0xFC83, "\u0643\u0649"),
  (0xFC84, "\u0643\u064a"), (0xFC85, "\u0644\u0645"), (0xFC86, "\u0644\u0649"),
  (0xFC87, "\u0644\u064a"), (0xFC88, "\u0645\u0627"), (0xFC89, "\u0645\u0645"),
  (0xFC8A, "\u0646\u0631"), (0xFC8B, "\u0646\u0632"), (0xFC8C, "\u0646\u0645"),
  (0xFC8D, "\u0646\u0646"), (0xFC8E, "\u0646\u0649"), (0xFC8F, "\u0646\u064a"),
  (0xFC90, "\u0649\u0670"), (0xFC91, "\u064a\u0631"), (0xFC92, "\u064a\u0632"),
  (0xFC93, "\u064a\u0645"), (0xFC94, "\u064a\u0646"), (0xFC95, "\u064a\u0649"),
  (0xFC96, "\u064a\u064a"), (0xFC97, "\u064a\u0654\u062c"), (0xFC98, "\u064a\u0654\u062d"),
  (0xFC99, "\u064a\u0654\u062e"), (0xFC9A, "\u064a\u0654\u0645"), (0xFC9B, "\u064a\u0654\u0647"),
  (0xFC9C, "\u0628\u062c"), (0xFC9D, "\u0628\u062d"), (0xFC9E, "\u0628\u062e"),
  (0xFC9F, "\u0628\u0645"), (0xFCA0, "\u0628\u0647"), (0xFCA1, "\u062a\u062c"),
  (0xFCA2, "\u062a\u062d"), (0xFCA3, "\u062a\u062e"), (0xFCA4, "\u062a\u0645"),
  (0xFCA5, "\u062a\u0647"), (0xFCA6, "\u062b\u0645"), (0xFCA7, "\u062c\u062d"),
  (0xFCA8, "\u062c\u0645"), (0xFCA9, "\u062d\u062c"), (0xFCAA, "\u062d\u0645"),
  (0xFCAB, "\u062e\u062c"), (0xFCAC, "\u062e\u0645"), (0xFCAD, "\u0633\u062c"),
  (0xFCAE, "\u0633\u062d"), (0xFCAF, "\u0633\u062e"), (0xFCB0, "\u0633\u0645"),
  (0xFCB1, "\u0635\u062d"), (0xFCB2, "\u0635\u062e"), (0xFCB3, "\u0635\u0645"),
  (0xFCB4, "\u0636\u062c"), (0xFCB5, "\u0636\u062d"), (0xFCB6, "\u0636\u062e"),
  (0xFCB7, "\u0636\u0645"), (0xFCB8, "\u0637\u062d"), (0xFCB9, "\u0638\u0645"),
  (0xFCBA, "\u0639\u062c"), (0xFCBB, "\u0639\u0645"), (0xFCBC, "\u063a\u062c"),
  (0xFCBD, "\u063a\u0645"), (0xFCBE, "\u0641\u062c"), (0xFCBF, "\u0641\u062d"),
  (0xFCC0, "\u0641\u062e"), (0xFCC1, "\u0641\u0645"), (0xFCC2, "\u0642\u062d"),
  (0xFCC3, "\u0642\u0645"), (0xFCC4, "\u0643\u062c"), (0xFCC5, "\u0643\u062d"),
  (0xFCC6, "\u0643\u062e"), (0xFCC7, "\u0643\u0644"), (0xFCC8, "\u0643\u0645"),
  (0xFCC9, "\u0644\u062c"), (0xFCCA, "\u0644\u062d"), (0xFCCB, "\u0644\u062e"),
  (0xFCCC, "\u0644\u0645"), (0xFCCD, "\u0644\u0647"), (0xFCCE, "\u0645\u062c"),
  (0xFCCF, "\u0645\u062d"), (0xFCD0, "\u0645\u062e"), (0xFCD1, "\u0645\u0645"),
  (0xFCD2, "\u0646\u062c"), (0xFCD3, "\u0646\u062d"), (0xFCD4, "\u0646\u062e"),
  (0xFCD5, "\u0646\u0645"), (0xFCD6, "\u0646\u0647"), (0xFCD7, "\u0647\u062c"),
  (0xFCD8, "\u0647\u0645"), (0xFCD9, "\u0647\u0670"), (0xFCDA, "\u064a\u062c"),
  (0xFCDB, "\u064a\u062d"), (0xFCDC, "\u064a\u062e"), (0xFCDD, "\u064a\u0645"),
  (0xFCDE, "\u064a\u0647"), (0xFCDF, "\u064a\u0654\u0645"), (0xFCE0, "\u064a\u0654\u0647"),
  (0xFCE1, "\u0628\u0645"), (0xFCE2, "\u0628\u0647"), (0xFCE3, "\u062a\u0645"),
  (0xFCE4, "\u062a\u0647"), (0xFCE5, "\u062b\u0645"), (0xFCE6, "\u062b\u0647"),
  (0xFCE7, "\u0633\u0645"), (0xFCE8, "\u0633\u0647"), (0xFCE9, "\u0634\u0645"),
  (0xFCEA, "\u0634\u0647"), (0xFCEB, "\u0643\u0644"), (0xFCEC, "\u0643\u0645"),
  (0xFCED, "\u0644\u0645"), (0xFCEE, "\u0646\u0645"), (0xFCEF, "\u0646\u0647"),
  (0xFCF0, "\u064a\u0645"), (0xFCF1, "\u064a\u0647"), (0xFCF2, "\u0640\u064e\u0651"),
  (0xFCF3, "\u0640\u064f\u0651"), (0xFCF4, "\u0640\u0650\u0651"), (0xFCF5, "\u0637\u0649"),
  (0xFCF6, "\u0637\u064a"), (0xFCF7, "\u0639\u0649"), (0xFCF8, "\u0639\u064a"),
  (0xFCF9, "\u063a\u0649"), (0xFCFA, "\u063a\u064a"), (0xFCFB, "\u0633\u0649"),
  (0xFCFC, "\u0633\u064a"), (0xFCFD, "\u0634\u0649"), (0xFCFE, "\u0634\u064a"),
  (0xFCFF, "\u062d\u0649"), (0xFD00, "\u062d\u064a"), (0xFD01, "\u062c\u0649"),
  (0xFD02, "\u062c\u064a"), (0xFD03, "\u062e\u0649"), (0xFD04, "\u062e\u064a"),
  (0xFD05, "\u0635\u0649"), (0xFD06, "\u0635\u064a"), (0xFD07, "\u0636\u0649"),
  (0xFD08, "\u0636\u064a"), (0xFD09, "\u0634\u062c"), (0xFD0A, "\u0634\u062d"),
  (0xFD0B, "\u0634\u062e"), (0xFD0C, "\u0634\u0645"), (0xFD0D, "\u0634\u0631"),
  (0xFD0E, "\u0633\u0631"), (0xFD0F, "\u0635\u0631"), (0xFD10, "\u0636\u0631"),
  (0xFD11, "\u0637\u0649"), (0xFD12, "\u0637\u064a"), (0xFD13, "\u0639\u0649"),
  (0xFD14, "\u0639\u064a"), (0xFD15, "\u063a\u0649"), (0xFD16, "\u063a\u064a"),
  (0xFD17, "\u0633\u0649"), (0xFD18, "\u0633\u064a"), (0xFD19, "\u0634\u0649"),
  (0xFD1A, "\u0634\u064a"), (0xFD1B, "\u062d\u0649"), (0xFD1C, "\u062d\u064a"),
  (0xFD1D, "\u062c\u0649"), (0xFD1E, "\u062c\u064a"), (0xFD1F, "\u062e\u0649"),
  (0xFD20, "\u062e\u064a"), (0xFD21, "\u0635\u0649"), (0xFD22, "\u0635\u064a"),
  (0xFD23, "\u0636\u0649"), (0xFD24, "\u0636\u064a"), (0xFD25, "\u0634\u062c"),
  (0xFD26, "\u0634\u062d"), (0xFD27, "\u0634\u062e"), (0xFD28, "\u0634\u0645"),
  (0xFD29, "\u0634\u0631"), (0xFD2A, "\u0633\u0631"), (0xFD2B, "\u0635\u0631"),
  (0xFD2C, "\u0636\u0631"), (0xFD2D, "\u0634\u062c"), (0xFD2E, "\u0634\u062d"),
  (0xFD2F, "\u0634\u062e"), (0xFD30, "\u0634\u0645"), (0xFD31, "\u0633\u0647"),
  (0xFD32, "\u0634\u0647"), (0xFD33, "\u0637\u0645"), (0xFD34, "\u0633\u062c"),
  (0xFD35, "\u0633\u062d"), (0xFD36, "\u0633\u062e"), (0xFD37, "\u0634\u062c"),
  (0xFD38, "\u0634\u062d"), (0xFD39, "\u0634\u062e"), (0xFD3A, "\u0637\u0645"),
  (0xFD3B, "\u0638\u0645"), (0xFD3C, "\u0627\u064b"), (0xFD3D, "\u0627\u064b"),
  (0xFD50, "\u062a\u062c\u0645"), (0xFD51, "\u062a\u062d\u062c"), (0xFD52, "\u062a\u062d\u062c"),
  (0xFD53, "\u062a\u062d\u0645"), (0xFD54, "\u062a\u062e\u0645"), (0xFD55, "\u062a\u0645\u062c"),
  (0xFD56, "\u062a\u0645\u062d"), (0xFD57, "\u062a\u0645\u062e"), (0xFD58, "\u062c\u0645\u062d"),
  (0xFD59, "\u062c\u0645\u062d"), (0xFD5A, "\u062d\u0645\u064a"), (0xFD5B, "\u062d\u0645\u0649"),
  (0xFD5C, "\u0633\u062d\u062c"), (0xFD5D, "\u0633\u062c\u062d"), (0xFD5E, "\u0633\u062c\u0649"),
  (0xFD5F, "\u0633\u0645\u062d"), (0xFD60, "\u0633\u0645\u062d"), (0xFD61, "\u0633\u0645\u062c"),
  (0xFD62, "\u0633\u0645\u0645"), (0xFD63, "\u0633\u0645\u0645"), (0xFD64, "\u0635\u062d\u062d"),
  (0xFD65, "\u0635\u062d\u062d"), (0xFD66, "\u0635\u0645\u0645"), (0xFD67, "\u0634\u062d\u0645"),
  (0xFD68, "\u0634\u062d\u0645"), (0xFD69, "\u0634\u062c\u064a"), (0xFD6A, "\u0634\u0645\u062e"),
  (0xFD6B, "\u0634\u0645\u062e"), (0xFD6C, "\u0634\u0645\u0645"), (0xFD6D, "\u0634\u0645\u0645"),
  (0xFD6E, "\u0636\u062d\u0649"), (0xFD6F, "\u0636\u062e\u0645"), (0xFD70, "\u0636\u062e\u0645"),
  (0xFD71, "\u0637\u0645\u062d"), (0xFD72, "\u0637\u0645\u062d"), (0xFD73, "\u0637\u0645\u0645"),
  (0xFD74, "\u0637\u0645\u064a"), (0xFD75, "\u0639\u062c\u0645"), (0xFD76, "\u0639\u0645\u0645"),
  (0xFD77, "\u0639\u0645\u0645"), (0xFD78, "\u0639\u0645\u0649"), (0xFD79, "\u063a\u0645\u0645"),
  (0xFD7A, "\u063a\u0645\u064a"), (0xFD7B, "\u063a\u0645\u0649"), (0xFD7C, "\u0641\u062e\u0645"),
  (0xFD7D, "\u0641\u062e\u0645"), (0xFD7E, "\u0642\u0645\u062d"), (0xFD7F, "\u0642\u0645\u0645"),
  (0xFD80, "\u0644\u062d\u0645"), (0xFD81, "\u0644\u062d\u064a"), (0xFD82, "\u0644\u062d\u0649"),
  (0xFD83, "\u0644\u062c\u062c"), (0xFD84, "\u0644\u062c\u062c"), (0xFD85, "\u0644\u062e\u0645"),
  (0xFD86, "\u0644\u062e\u0645"), (0xFD87, "\u0644\u0645\u062d"), (0xFD88, "\u0644\u0645\u062d"),
  (0xFD89, "\u0645\u062d\u062c"), (0xFD8A, "\u0645\u062d\u0645"), (0xFD8B, "\u0645\u062d\u064a"),
  (0xFD8C, "\u0645\u062c\u062d"), (0xFD8D, "\u0645\u062c\u0645"), (0xFD8E, "\u0645\u062e\u062c"),
  (0xFD8F, "\u0645\u062e\u0645"), (0xFD92, "\u0645\u062c\u062e"), (0xFD93, "\u0647\u0645\u062c"),
  (0xFD94, "\u0647\u0645\u0645"), (0xFD95, "\u0646\u062d\u0645"), (0xFD96, "\u0646\u062d\u0649"),
  (0xFD97, "\u0646\u062c\u0645"), (0xFD98, "\u0646\u062c\u0645"), (0xFD99, "\u0646\u062c\u0649"),
  (0xFD9A, "\u0646\u0645\u064a"), (0xFD9B, "\u0646\u0645\u0649"), (0xFD9C, "\u064a\u0645\u0645"),
  (0xFD9D, "\u064a\u0645\u0645"), (0xFD9E, "\u0628\u062e\u064a"), (0xFD9F, "\u062a\u062c\u064a"),
  (0xFDA0, "\u062a\u062c\u0649"), (0xFDA1, "\u062a\u062e\u064a"), (0xFDA2, "\u062a\u062e\u0649"),
  (0xFDA3, "\u062a\u0645\u064a"), (0xFDA4, "\u062a\u0645\u0649"), (0xFDA5, "\u062c\u0645\u064a"),
  (0xFDA6, "\u062c\u062d\u0649"), (0xFDA7, "\u062c\u0645\u0649"), (0xFDA8, "\u0633\u062e\u0649"),
  (0xFDA9, "\u0635\u062d\u064a"), (0xFDAA, "\u0634\u062d\u064a"), (0xFDAB, "\u0636\u062d\u064a"),
  (0xFDAC, "\u0644\u062c\u064a"), (0xFDAD, "\u0644\u0645\u064a"), (0xFDAE, "\u064a\u062d\u064a"),
  (0xFDAF, "\u064a\u062c\u064a"), (0xFDB0, "\u064a\u0645\u064a"), (0xFDB1, "\u0645\u0645\u064a"),
  (0xFDB2, "\u0642\u0645\u064a"), (0xFDB3, "\u0646\u062d\u064a"), (0xFDB4, "\u0642\u0645\u062d"),
  (0xFDB5, "\u0644\u062d\u0645"), (0xFDB6, "\u0639\u0645\u064a"), (0xFDB7, "\u0643\u0645\u064a"),
  (0xFDB8, "\u0646\u062c\u062d"), (0xFDB9, "\u0645\u062e\u064a"), (0xFDBA, "\u0644\u062c\u0645"),
  (0xFDBB, "\u0643\u0645\u0645"), (0xFDBC, "\u0644\u062c\u0645"), (0xFDBD, "\u0646\u062c\u062d"),
  (0xFDBE, "\u062c\u062d\u064a"), (0xFDBF, "\u062d\u062c\u064a"), (0xFDC0, "\u0645\u062c\u064a"),
  (0xFDC1, "\u0641\u0645\u064a"), (0xFDC2, "\u0628\u062d\u064a"), (0xFDC3, "\u0643\u0645\u0645"),
  (0xFDC4, "\u0639\u062c\u0645"), (0xFDC5, "\u0635\u0645\u0645"), (0xFDC6, "\u0633\u062e\u064a"),
  (0xFDC7, "\u0646\u062c\u064a"), (0xFDF0, "\u0635\u0644\u06d2"), (0xFDF1, "\u0642\u0644\u06d2"),
  (0xFDF2, "\u0627\u0644\u0644\u0647"), (0xFDF3, "\u0627\u0643\u0628\u0631"),
  (0xFDF4, "\u0645\u062d\u0645\u062f"), (0xFDF5, "\u0635\u0644\u0639\u0645"),
  (0xFDF6, "\u0631\u0633\u0648\u0644"), (0xFDF7, "\u0639\u0644\u064a\u0647"),
  (0xFDF8, "\u0648\u0633\u0644\u0645"), (0xFDF9, "\u0635\u0644\u0649"),
  (0xFDFA,
   "\u0635\u0644\u0649 \u0627\u0644\u0644\u0647 \u0639\u0644\u064a\u0647 \u0648\u0633\u0644\u0645"),
  (0xFDFB, "\u062c\u0644 \u062c\u0644\u0627\u0644\u0647"), (0xFDFC, "\u0631\u06cc\u0627\u0644"),
  (0xFE30, ".."), (0xFE49, " \u0305"), (0xFE4A, " \u0305"), (0xFE4B, " \u0305"),
  (0xFE4C, " \u0305"), (0xFE70, " \u064b"), (0xFE71, "\u0640\u064b"), (0xFE72, " \u064c"),
  (0xFE74, " \u064d"), (0xFE76, " \u064e"), (0xFE77, "\u0640\u064e"), (0xFE78, " \u064f"),
  (0xFE79, "\u0640\u064f"), (0xFE7A, " \u0650"), (0xFE7B, "\u0640\u0650"), (0xFE7C, " \u0651"),
  (0xFE7D, "\u0640\u0651"), (0xFE7E, " \u0652"), (0xFE7F, "\u0640\u0652"),
  (0xFE81, "\u0627\u0653"), (0xFE82, "\u0627\u0653"), (0xFE83, "\u0627\u0654"),
  (0xFE84, "\u0627\u0654"), (0xFE85, "\u0648\u0654"), (0xFE86, "\u0648\u0654"),
  (0xFE87, "\u0627\u0655"), (0xFE88, "\u0627\u0655"), (0xFE89, "\u064a\u0654"),
  (0xFE8A, "\u064a\u0654"), (0xFE8B, "\u064a\u0654"), (0xFE8C, "\u064a\u0654"),
  (0xFEF5, "\u0644\u0627\u0653"), (0xFEF6, "\u0644\u0627\u0653"), (0xFEF7, "\u0644\u0627\u0654"),
  (0xFEF8, "\u0644\u0627\u0654"), (0xFEF9, "\u0644\u0627\u0655"), (0xFEFA, "\u0644\u0627\u0655"),
  (0xFEFB, "\u0644\u0627"), (0xFEFC, "\u0644\u0627"), (0xFFE3, " \u0304"), (0x1D15E, "𝅗𝅥"),
  (0x1D15F, "𝅘𝅥"), (0x1D160, "𝅘𝅥𝅮"), (0x1D161, "𝅘𝅥𝅯"), (0x1D162, "𝅘𝅥𝅰"), (0x1D163, "𝅘𝅥𝅱"),
  (0x1D164, "𝅘𝅥𝅲"), (0x1D1BB, "𝆹𝅥"), (0x1D1BC, "𝆺𝅥"), (0x1D1BD, "𝆹𝅥𝅮"), (0x1D1BE, "𝆺𝅥𝅮"),
  (0x1D1BF, "𝆹𝅥𝅯"), (0x1D1C0, "𝆺𝅥𝅯")]

end Swatch.Text.Normal

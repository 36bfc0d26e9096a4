/-!
# Charsets with one byte for each character

The tables of the charsets whose first half is that of ASCII. Each gives the characters of the bytes
from 128 to 255. The replacement character marks a byte that stands for nothing.
-/

namespace Codebook.Text.Charset

/-- What marks a place of a table that is not in use. -/
def vacant : Char := '\ufffd'

/-- The charsets with the characters of their upper bytes, after the name of one that is like them; the
empty name is for the charset whose bytes are the code points. A small letter stands for as many
characters of the other charset, those of the same bytes, as its place in the alphabet says, and a
capital letter for as many of the code points after the last one. A slash stands for a byte that is not
in use and all else for itself, after an apostrophe also what is in ASCII. -/
def upperTable : List (String × String × String) := [
  ("cp1006", "",
    "gZ۰I،\u061ba\u061f\ufe81\ufe8dA\ufe8eA\ufe91\ufb56\ufb58\ufe93\ufe95\ufe97\ufb66\ufb68" ++
    "\ufe99\ufe9b\ufe9d\ufe9f\ufb7a\ufb7c\ufea1\ufea3\ufea5\ufea7\ufea9\ufb84\ufeab\ufead\ufb8c" ++
    "\ufeaf\ufb8a\ufeb1\ufeb3\ufeb5\ufeb7\ufeb9\ufebb\ufebd\ufebf\ufec1\ufec5\ufec9H\ufed3" ++
    "\ufed5\ufed7\ufed9\ufedb\ufb92\ufb94\ufedd\ufedfB\ufee3\ufb9e\ufee5\ufee7\ufe85\ufeed" ++
    "\ufba6\ufba8B\ufe80\ufe89B\ufef1B\ufbb0\ufbae\ufe7cA"),
  ("cp720", "",
    "béâaàaçêAèïîd\u0651Aô¤\u0640ûù\u0621C£\u0625P«»░B│┤╡A╖╕╣║╗╝╜╛┐└┴┬├─┼╞A╚╔╩╦╠═╬╧A╤A╙╘╒A╫╪┘┌█" ++
    "▄▌▐▀\u0636D\u0641µ\u0642H≡\u064bE≈°∙·√ⁿ²■\u00a0"),
  ("cp437", "cp720", "ÇübäaåfìÄAÉæÆaöòbÿÖÜ¢A¥₧ƒáíóúñÑªº¿⌐¬½¼¡xzαßΓπΣσaτΦΘΩδ∞φε∩a±≥≤⌠A÷i"),
  ("cp737", "cp437", "ΑPΣFαPσςτDvzωάBϊίόAϋώΆΈBΌΎAcΪAj"),
  ("cp860", "cp437", "dAaÁbÊaÍÔaÃÂaÀÈaAaÚaÌÕcÙaÓiÒhzzz"),
  ("cp862", "cp437", "\u05d0Zwzzz"),
  ("cp863", "cp437", "dÂa¶f‗À§aÈÊaËÏb¤ÔcÙÛa¦´b¨¸³¯Îd¾dzzz"),
  ("cp865", "cp437", "azøaØq¤bzzz"),
  ("cp850", "cp865", "dz×j®e»eÁAÀ©d¢¥gãÃg¤ðÐÊAÈıÍBd¦ÌaÓaÔÒõÕaþÞÚAÙýÝ¯´\u00ada‗¾¶§a¸a¨a¹³c"),
  ("cp775", "cp850",
    "ĆbāaģaćłēŖAīŹeōaĢ¢ŚAf¤ĀĪaŻAź”¦©dŁgĄČĘĖdĮŠgŲŪgŽąčęėįšųūžd▌▐cŌŃcńĶAĻAņĒŅ’b“d„a∙f"),
  ("cp852", "cp850",
    "eůćałaŐAaŹaĆaĹAbĽAŚAbŤAŁačdĄAŽAĘAaźČşiĚŞdŻAgĂAhđĐĎaďŇbědŢŮdŃAňŠAŔaŕŰbţb˝˛ˇ˘e˙űŘAb"),
  ("cp855", "cp850",
    "ђЂѓЃёЁєЄѕЅіІїЇјЈљЉњЊћЋќЌўЎџЏюЮъЪаАбБцЦдДеЕфФгГgхХиИdйЙgкКhлЛмМнНоОпdПяaЯрРсСтТуУжЖвВьЬ№aыЫ" ++
    "зЗшШэЭщЩчЧ§b"),
  ("cp856", "cp850", "\u05d0Z/a/a//////////d/g///n//h/////////e/a//////a///////r"),
  ("cp857", "cp850", "mıjİeŞAfĞAnzºªc/q/×cìÿd/m"),
  ("cp858", "cp850", "gzzz€pz"),
  ("cp869", "cp850",
    "//////Ά/·¬¦‘AΈ―ΉAΪΌ//ΎΫ©Ώ²AάaέBϊΐόAΑFaΘAgΚCdΞAgΠAgΣFαBdδAaζKσςτ΄bυBaψ΅bωϋΰώb"),
  ("cp861", "cp865", "kÐðÞgþaÝýkÁÍÓÚg»bzzz"),
  ("cp866", "cp437", "АUZvzрOЁёЄєЇїЎўd№¤b"),
  ("cp1125", "cp866", "jZzzzҐAЄєІіЇїf"),
  ("hp_roman8", "",
    "gZÀÂÈÊAÎA´ˋˆ¨˜ÙÛ₤¯Ýý°ÇçÑñ¡¿¤£¥§ƒ¢âêôûáéóúàèòùäëöüÅîØÆåíøæÄìÖÜÉïßÔÁÃãÐðÍÌÓÒÕõŠAÚŸÿÞþ·µA¾—¼A" ++
    "ªº«■»±/"),
  ("iso8859_14", "", "gZḂAaĊAḊaẀaẂḋỲbŸḞAĠAṀAaṖẁṗẃṠỳẄAṡpŴfṪfŶqŵfṫfŷa"),
  ("iso8859_15", "", "jZ€aŠaškŽcžcŒAŸmZZ"),
  ("iso8859_16", "iso8859_15", "gZĄAŁa„dȘaŹaźAbČła”cčșdżcĂaĆjĐŃcŐaŚŰdĘȚdăaćjđńcőaśűdęța"),
  ("iso8859_3", "", "gZĦ˘b/ĤbİŞĞĴa/Żaħdĥbışğĵa/żc/aĊĈi/dĠbĜdŬŜd/aċĉi/dġbĝdŭŝ˙"),
  ("iso8859_5", "", "gZЁKaЎMZZ№ёK§ўA"),
  ("iso8859_6", "", "gZ///a///////،a/////////////\u061b///\u061f/\u0621Y/////\u0640R/////////////"),
  ("cp864", "iso8859_6",
    "°·∙A▒─│┼┤┬├┴┐┌└┘β∞φ±½¼≈«»\ufef7A//\ufefbA/a\u00ad\ufe82£A\ufe84b\ufe8eA\ufe95\ufe99a\ufe9d" ++
    "\ufea1\ufea5٠I\ufed1a\ufeb1\ufeb5\ufeb9a¢\ufe80A\ufe83\ufe85\ufeca\ufe8b\ufe8d\ufe91\ufe93" ++
    "\ufe97\ufe9b\ufe9f\ufea3\ufea7\ufea9\ufeab\ufead\ufeaf\ufeb3\ufeb7\ufebb\ufebf\ufec1\ufec5" ++
    "\ufecb\ufecf¦¬÷×\ufec9a\ufed3\ufed7\ufedb\ufedf\ufee3\ufee7\ufeeb\ufeed\ufeef\ufef3\ufebd" ++
    "\ufecc\ufece\ufecd\ufee1\ufe7da\ufee5\ufee9\ufeec\ufef0\ufef2\ufed0\ufed5\ufef5A\ufedd" ++
    "\ufed9\ufef1■/"),
  ("mac_farsi", "iso8859_6",
    "Ä\u00a0ÇÉÑÖÜáàâä\u06ba«çéèêAí…îAñó»ôöAúùûA' D٪'&Ea'-B۰I':a'<Ba❊z'[Ds\u067e\u0679\u0686" ++
    "\u06d5\u06a4\u06af\u0688\u0691'\x7bB\u0698\u06d2"),
  ("mac_arabic", "mac_farsi", "vz٠Irzz"),
  ("mac_roman", "mac_farsi",
    "aAiãåfìdòbõd†°¢A§•¶ß®©™´¨≠ÆØ∞±≤A¥µ∂∑∏π∫ªºΩæø¿¡¬√ƒ≈∆«»…\u00a0ÀÃÕŒA–A“A‘A÷◊ÿŸ⁄€‹AﬁA‡·‚„‰ÂÊÁË" ++
    "ÈÍBÌÓA\uf8ffÒÚAÙıˆ˜¯˘B¸˝˛ˇ"),
  ("mac_croatian", "mac_roman", "ozŠdŽe∆dšdžgĆaČgĐg\uf8ff©dÆ»–ećačgđhπËbÊæa"),
  ("mac_cyrillic", "mac_roman", "АEZbҐdІcЂђaЃѓdіaґЈЄєЇїЉљЊњјЅiЋћЌќѕg„ЎўЏџ№ЁёяаDZ€"),
  ("mac_greek", "mac_roman",
    "a¹²a³b΅c΄¨e£™b•½‰b¦€dΓAΘΛΞΠcΣΪ§a°·ΑdΒΕBΙAΜΦΫΨAάΝaΟΡaΤdΥΧΆΈb―eΉAΌΎέBόΏύαAψδAφγηιξκCοAώρσAθω" ++
    "ςχυζϊAΐΰ\u00ad"),
  ("mac_iceland", "mac_roman", "fzÝgzzÐðÞþýez"),
  ("mac_latin2", "mac_roman",
    "aĀAaĄcąČačĆAaŹAĎaďĒAĖaėdĚAcĘhębģĮAĪbīĶbłĻCĹAŅAŃbńŇeňŐaőŌhōŔAŘbřŖAŠbšŚAaŤAaŽAŪbūŮaůDÝýķŻŁżĢ" ++
    "a"),
  ("mac_romanian", "mac_roman", "tzĂȘnășdzȚAfz"),
  ("mac_turkish", "mac_roman", "lzzzĞAİAŞAu\uf8a0j"),
  ("palmos", "", "€a‚ƒ„…†Aˆ‰Š‹Œ♦♣♥♠‘A“A•–A˜™šaœbŸrZZZ"),
  ("cp1252", "palmos", "a/k/Ž//j›a/žsZZZ"),
  ("cp1250", "cp1252",
    "c/d/cŚŤaŹh/cśťaźaˇ˘ŁaĄdŞdŻb˛łeąşaĽ˝ľżŔbĂaĹĆaČaĘaĚbĎĐŃŇbŐbŘŮaŰbŢaŕbăaĺćačaęaěbďđńňbőbřůaűbţ" ++
    "˙"),
  ("cp1251", "cp1250", "ЂAaѓd€aЉaЊЌЋЏђiљaњќћџaЎўЈaҐbЁaЄdЇbІіґcё№єaјЅѕїАKZZ"),
  ("kz1048", "cp1251", "mҚҺnқһbҰAӘaӨdҒdҮdөeғaәҢAүlZZ"),
  ("ptcp154", "cp1251", "ҖҒӮғbҶҮҲүҠӢҢҚҺҸҗgҳҷҡӣңқһҹdӨҘҰcӘbӯaҜaұbҙөdәbҪAҝlZZ"),
  ("cp1257", "cp1250",
    "j/a/¨ˇ¸j/a/¯˛/a/¢B/bØaŖdÆaGø¹ŗaCæĄĮĀĆaAĘĒbŹĖĢĶĪĻŠaŅaŌÕBŲŁŚŪaŻŽaąįāćaAęēbźėģķīļšaņaōõBųłśūa" ++
    "żža"),
  ("iso8859_13", "cp1257", "\u0080FZ”c„n“vzz’"),
  ("iso8859_2", "cp1250", "\u0080FZĄcĽŚbŠaŤŹaŽbącľśˇašaťźažmzz"),
  ("iso8859_4", "iso8859_2", "hzĸŖaĨĻcĒĢŦb¯cŗaĩļcēģŧŊaŋĀaEĮdĖbĪaŅŌĶaDŲaBŨŪaāaEįdėbīaņōķaDųaBũūa"),
  ("iso8859_10", "iso8859_4", "hzĒĢĪaĶaĻĐŠŦŽaŪŊbēģīaķ·ļđšŧž―ūoCbÓCŨcDoCbóCũcDĸ"),
  ("cp1254", "cp1252", "n/o/wZĞlİŞqğlışa"),
  ("cp1258", "cp1254", "j/o/nZĂh\u0300cĐa\u0309bƠgƯ\u0303dăh\u0301cđa\u0323bơgư₫a"),
  ("cp1255", "cp1258", "l/o/b/d₪e×o÷e\u05b0I/\u05bbH\u05f0D///////\u05d0Z//\u200eA/"),
  ("cp1253", "cp1255", "h/o/h΅AaF/d―d΄cΈBaΌaΎS/ΣQZ/"),
  ("iso8859_7", "cp1253", "\u0080FZ‘Aa€₯dͺc/fBuzz"),
  ("koi8_t", "cp1253",
    "қғaҒfҳaҲҷҶ/Қo/ӯӮёaӣb//e/cЁ/Ӣb/№/a///©юаAцдAфгхиGярCжвьызшэщчъЮАAЦДAФГХИGЯРCЖВЬЫЗШЭЩЧЪ"),
  ("koi8_r", "koi8_t", "─│┌┐└┘├┤┬┴┼▀▄█▌▐C⌠■∙A≈≤A\u00a0⌡°²·÷═Ba╓Na╢Jmzz"),
  ("koi8_u", "koi8_r", "jzєaіAeґfЄaІAeҐnzz"),
  ("cp874", "cp1255", "b///a//////l////eกEZZd฿BZ////"),
  ("tis_620", "cp874", "\u0080EZ/qZzz"),
  ("iso8859_11", "tis_620", "gZqZzz"),
  ("iso8859_8", "cp1255", "\u0080FZ/aBz//////////////////////////f‗fz"),
  ("iso8859_9", "cp1254", "\u0080WZZzz"),
  ("cp1256", "cp1252",
    "a\u067eh\u0679b\u0686\u0698\u0688\u06afg\u06a9a\u0691b\u200cA\u06baa،h\u06beo\u061bd\u061f" ++
    "\u06c1\u0621Ua\u0637C\u0640Ca\u0644a\u0645Ce\u0649Ab\u064bCa\u064fAa\u0651a\u0652b\u200eA" ++
    "\u06d2")]

/-- The characters that a table gives, where `other` are those of the other charset from the same byte
on and `last` is the character before. -/
def upperFrom (last : Char) (other : List Char) : List Char → List Char
  | [] => []
  | '/' :: cs => vacant :: upperFrom last other.tail cs
  | '\'' :: c :: cs => c :: upperFrom c other.tail cs
  | c :: cs =>
    let found :=
      if c.isLower then other.take (c.toNat - 96)
      else if c.isUpper then
        (List.range (c.toNat - 64)).map fun i => Char.ofNat (last.toNat + 1 + i)
      else [c]
    found ++ upperFrom (found.getLast?.getD last) (other.drop found.length) cs

/-- The characters of the upper bytes, by the name of the charset. -/
def upperHalves : List (String × String) :=
  upperTable.foldl (fun known (name, other, text) =>
    let shared := match known.lookup other with
      | some upper => upper.toList
      | none => (List.range 128).map fun i => Char.ofNat (128 + i)
    (name, String.ofList (upperFrom vacant shared text.toList)) :: known) []

end Codebook.Text.Charset

import DeltaLint.Unicode.CharSet

/-
  DeltaLint.Unicode.Script — the scripts of Unicode 16 and the characters that each is written with.

  Every character belongs to one script, or is common to scripts, or inherits the script of what it
  follows. Some characters of either kind, and a few others, are used by a small number of scripts
  only: those count among the extended characters of each of these scripts, and then no longer as
  common or inherited.
-/

namespace DeltaLint.Unicode

/-- A script: its names in loose form (lower case, without spaces, hyphens and low lines), its own characters, and
those of other scripts that it uses. -/
structure Script where
  names : List String
  own : Spans
  used : Spans
  deriving DecidableEq, Repr

namespace Script

/-- The code points of Adlam. -/
def adlamSpans : Spans :=
  Spans.read [
    "1E900-1E94B 1E950-1E959 1E95E-1E95F"]

/-- The code points of other scripts that Adlam uses. -/
def adlamUses : Spans :=
  Spans.read [
    "61F 640 204F 2E41"]

/-- The code points of Ahom. -/
def ahomSpans : Spans :=
  Spans.read [
    "11700-1171A 1171D-1172B 11730-11746"]

/-- The code points of Anatolian Hieroglyphs. -/
def anatolianHieroglyphsSpans : Spans :=
  Spans.read [
    "14400-14646"]

/-- The code points of Arabic. -/
def arabicSpans : Spans :=
  Spans.read [
    "600-604 606-60B 60D-61A 61C-61E 620-63F 641-64A 656-66F 671-6DC 6DE-6FF 750-77F 870-88E 890-891",
    "897-8E1 8E3-8FF FB50-FBC2 FBD3-FD3D FD40-FD8F FD92-FDC7 FDCF FDF0-FDFF FE70-FE74 FE76-FEFC",
    "10E60-10E7E 10EC2-10EC4 10EFC-10EFF 1EE00-1EE03 1EE05-1EE1F 1EE21-1EE22 1EE24 1EE27 1EE29-1EE32",
    "1EE34-1EE37 1EE39 1EE3B 1EE42 1EE47-1EE4B/2 1EE4D-1EE4F 1EE51-1EE52 1EE54 1EE57-1EE5F/2 1EE61-1EE62",
    "1EE64 1EE67-1EE6A 1EE6C-1EE72 1EE74-1EE77 1EE79-1EE7C 1EE7E 1EE80-1EE89 1EE8B-1EE9B 1EEA1-1EEA3",
    "1EEA5-1EEA9 1EEAB-1EEBB 1EEF0-1EEF1"]

/-- The code points of other scripts that Arabic uses. -/
def arabicUses : Spans :=
  Spans.read [
    "60C 61B 61F 640 64B-655 670 204F 2E41 FD3E-FD3F 102E0-102FB"]

/-- The code points of Armenian. -/
def armenianSpans : Spans :=
  Spans.read [
    "531-556 559-58A 58D-58F FB13-FB17"]

/-- The code points of other scripts that Armenian uses. -/
def armenianUses : Spans :=
  Spans.read [
    "308"]

/-- The code points of Avestan. -/
def avestanSpans : Spans :=
  Spans.read [
    "10B00-10B35 10B39-10B3F"]

/-- The code points of other scripts that Avestan uses. -/
def avestanUses : Spans :=
  Spans.read [
    "B7 2E30-2E31"]

/-- The code points of Balinese. -/
def balineseSpans : Spans :=
  Spans.read [
    "1B00-1B4C 1B4E-1B7F"]

/-- The code points of Bamum. -/
def bamumSpans : Spans :=
  Spans.read [
    "A6A0-A6F7 16800-16A38"]

/-- The code points of Bassa Vah. -/
def bassaVahSpans : Spans :=
  Spans.read [
    "16AD0-16AED 16AF0-16AF5"]

/-- The code points of Batak. -/
def batakSpans : Spans :=
  Spans.read [
    "1BC0-1BF3 1BFC-1BFF"]

/-- The code points of Bengali. -/
def bengaliSpans : Spans :=
  Spans.read [
    "980-983 985-98C 98F-990 993-9A8 9AA-9B0 9B2 9B6-9B9 9BC-9C4 9C7-9C8 9CB-9CE 9D7 9DC-9DD 9DF-9E3",
    "9E6-9FE"]

/-- The code points of other scripts that Bengali uses. -/
def bengaliUses : Spans :=
  Spans.read [
    "2BC 951-952 964-965 1CD0 1CD2 1CD5-1CD6 1CD8 1CE1 1CEA 1CED 1CF2 1CF5-1CF7 A8F1"]

/-- The code points of Bhaiksuki. -/
def bhaiksukiSpans : Spans :=
  Spans.read [
    "11C00-11C08 11C0A-11C36 11C38-11C45 11C50-11C6C"]

/-- The code points of Bopomofo. -/
def bopomofoSpans : Spans :=
  Spans.read [
    "2EA-2EB 3105-312F 31A0-31BF"]

/-- The code points of other scripts that Bopomofo uses. -/
def bopomofoUses : Spans :=
  Spans.read [
    "2C7 2C9-2CB 2D9 3001-3003 3008-3011 3013-301F 302A-302D 3030 3037 30FB FE45-FE46 FF61-FF65"]

/-- The code points of Brahmi. -/
def brahmiSpans : Spans :=
  Spans.read [
    "11000-1104D 11052-11075 1107F"]

/-- The code points of Braille. -/
def brailleSpans : Spans :=
  Spans.read [
    "2800-28FF"]

/-- The code points of Buginese. -/
def bugineseSpans : Spans :=
  Spans.read [
    "1A00-1A1B 1A1E-1A1F"]

/-- The code points of other scripts that Buginese uses. -/
def bugineseUses : Spans :=
  Spans.read [
    "A9CF"]

/-- The code points of Buhid. -/
def buhidSpans : Spans :=
  Spans.read [
    "1740-1753"]

/-- The code points of other scripts that Buhid uses. -/
def buhidUses : Spans :=
  Spans.read [
    "1735-1736"]

/-- The code points of Canadian Aboriginal. -/
def canadianAboriginalSpans : Spans :=
  Spans.read [
    "1400-167F 18B0-18F5 11AB0-11ABF"]

/-- The code points of Carian. -/
def carianSpans : Spans :=
  Spans.read [
    "102A0-102D0"]

/-- The code points of other scripts that Carian uses. -/
def carianUses : Spans :=
  Spans.read [
    "B7 205A 205D 2E31"]

/-- The code points of Caucasian Albanian. -/
def caucasianAlbanianSpans : Spans :=
  Spans.read [
    "10530-10563 1056F"]

/-- The code points of other scripts that Caucasian Albanian uses. -/
def caucasianAlbanianUses : Spans :=
  Spans.read [
    "304 331 35E"]

/-- The code points of Chakma. -/
def chakmaSpans : Spans :=
  Spans.read [
    "11100-11134 11136-11147"]

/-- The code points of other scripts that Chakma uses. -/
def chakmaUses : Spans :=
  Spans.read [
    "9E6-9EF 1040-1049"]

/-- The code points of Cham. -/
def chamSpans : Spans :=
  Spans.read [
    "AA00-AA36 AA40-AA4D AA50-AA59 AA5C-AA5F"]

/-- The code points of Cherokee. -/
def cherokeeSpans : Spans :=
  Spans.read [
    "13A0-13F5 13F8-13FD AB70-ABBF"]

/-- The code points of other scripts that Cherokee uses. -/
def cherokeeUses : Spans :=
  Spans.read [
    "300-302 304 30B-30C 323-324 330-331"]

/-- The code points of Chorasmian. -/
def chorasmianSpans : Spans :=
  Spans.read [
    "10FB0-10FCB"]

/-- The code points of Common. -/
def commonSpans : Spans :=
  Spans.read [
    "0-40 5B-60 7B-A9 AB-B9 BB-BF D7 F7 2B9-2DF 2E5-2E9 2EC-2FF 374 37E 385 387 605 60C 61B 61F 640 6DD",
    "8E2 964-965 E3F FD5-FD8 10FB 16EB-16ED 1735-1736 1802-1803 1805 1CD3 1CE1 1CE9-1CEC 1CEE-1CF3",
    "1CF5-1CF7 1CFA 2000-200B 200E-2064 2066-2070 2074-207E 2080-208E 20A0-20C0 2100-2125 2127-2129",
    "212C-2131 2133-214D 214F-215F 2189-218B 2190-2429 2440-244A 2460-27FF 2900-2B73 2B76-2B95 2B97-2BFF",
    "2E00-2E5D 2FF0-3004 3006 3008-3020 3030-3037 303C-303F 309B-309C 30A0 30FB-30FC 3190-319F 31C0-31E5",
    "31EF 3220-325F 327F-32CF 32FF 3358-33FF 4DC0-4DFF A700-A721 A788-A78A A830-A839 A92E A9CF AB5B",
    "AB6A-AB6B FD3E-FD3F FE10-FE19 FE30-FE52 FE54-FE66 FE68-FE6B FEFF FF01-FF20 FF3B-FF40 FF5B-FF65 FF70",
    "FF9E-FF9F FFE0-FFE6 FFE8-FFEE FFF9-FFFD 10100-10102 10107-10133 10137-1013F 10190-1019C 101D0-101FC",
    "102E1-102FB 1BCA0-1BCA3 1CC00-1CCF9 1CD00-1CEB3 1CF50-1CFC3 1D000-1D0F5 1D100-1D126 1D129-1D166",
    "1D16A-1D17A 1D183-1D184 1D18C-1D1A9 1D1AE-1D1EA 1D2C0-1D2D3 1D2E0-1D2F3 1D300-1D356 1D360-1D378",
    "1D400-1D454 1D456-1D49C 1D49E-1D49F 1D4A2 1D4A5-1D4A6 1D4A9-1D4AC 1D4AE-1D4B9 1D4BB 1D4BD-1D4C3",
    "1D4C5-1D505 1D507-1D50A 1D50D-1D514 1D516-1D51C 1D51E-1D539 1D53B-1D53E 1D540-1D544 1D546",
    "1D54A-1D550 1D552-1D6A5 1D6A8-1D7CB 1D7CE-1D7FF 1EC71-1ECB4 1ED01-1ED3D 1F000-1F02B 1F030-1F093",
    "1F0A0-1F0AE 1F0B1-1F0BF 1F0C1-1F0CF 1F0D1-1F0F5 1F100-1F1AD 1F1E6-1F1FF 1F201-1F202 1F210-1F23B",
    "1F240-1F248 1F250-1F251 1F260-1F265 1F300-1F6D7 1F6DC-1F6EC 1F6F0-1F6FC 1F700-1F776 1F77B-1F7D9",
    "1F7E0-1F7EB 1F7F0 1F800-1F80B 1F810-1F847 1F850-1F859 1F860-1F887 1F890-1F8AD 1F8B0-1F8BB",
    "1F8C0-1F8C1 1F900-1FA53 1FA60-1FA6D 1FA70-1FA7C 1FA80-1FA89 1FA8F-1FAC6 1FACE-1FADC 1FADF-1FAE9",
    "1FAF0-1FAF8 1FB00-1FB92 1FB94-1FBF9 E0001 E0020-E007F"]

/-- The code points of Coptic. -/
def copticSpans : Spans :=
  Spans.read [
    "3E2-3EF 2C80-2CF3 2CF9-2CFF"]

/-- The code points of other scripts that Coptic uses. -/
def copticUses : Spans :=
  Spans.read [
    "B7 300 304-305 307 374-375 2E17 102E0-102FB"]

/-- The code points of Cuneiform. -/
def cuneiformSpans : Spans :=
  Spans.read [
    "12000-12399 12400-1246E 12470-12474 12480-12543"]

/-- The code points of Cypriot. -/
def cypriotSpans : Spans :=
  Spans.read [
    "10800-10805 10808 1080A-10835 10837-10838 1083C 1083F"]

/-- The code points of other scripts that Cypriot uses. -/
def cypriotUses : Spans :=
  Spans.read [
    "10100-10102 10107-10133 10137-1013F"]

/-- The code points of Cypro Minoan. -/
def cyproMinoanSpans : Spans :=
  Spans.read [
    "12F90-12FF2"]

/-- The code points of other scripts that Cypro Minoan uses. -/
def cyproMinoanUses : Spans :=
  Spans.read [
    "10100-10101"]

/-- The code points of Cyrillic. -/
def cyrillicSpans : Spans :=
  Spans.read [
    "400-484 487-52F 1C80-1C8A 1D2B 1D78 2DE0-2DFF A640-A69F FE2E-FE2F 1E030-1E06D 1E08F"]

/-- The code points of other scripts that Cyrillic uses. -/
def cyrillicUses : Spans :=
  Spans.read [
    "2BC 300-302 304-308/2 30B 311 485-486 1DF8 2E43"]

/-- The code points of Deseret. -/
def deseretSpans : Spans :=
  Spans.read [
    "10400-1044F"]

/-- The code points of Devanagari. -/
def devanagariSpans : Spans :=
  Spans.read [
    "900-950 955-963 966-97F A8E0-A8FF 11B00-11B09"]

/-- The code points of other scripts that Devanagari uses. -/
def devanagariUses : Spans :=
  Spans.read [
    "2BC 951-952 964-965 1CD0-1CF6 1CF8-1CF9 20F0 A830-A839"]

/-- The code points of Dives Akuru. -/
def divesAkuruSpans : Spans :=
  Spans.read [
    "11900-11906 11909 1190C-11913 11915-11916 11918-11935 11937-11938 1193B-11946 11950-11959"]

/-- The code points of Dogra. -/
def dograSpans : Spans :=
  Spans.read [
    "11800-1183B"]

/-- The code points of other scripts that Dogra uses. -/
def dograUses : Spans :=
  Spans.read [
    "964-96F A830-A839"]

/-- The code points of Duployan. -/
def duployanSpans : Spans :=
  Spans.read [
    "1BC00-1BC6A 1BC70-1BC7C 1BC80-1BC88 1BC90-1BC99 1BC9C-1BC9F"]

/-- The code points of other scripts that Duployan uses. -/
def duployanUses : Spans :=
  Spans.read [
    "B7 307-308 30A 323-324 2E3C 1BCA0-1BCA3"]

/-- The code points of Egyptian Hieroglyphs. -/
def egyptianHieroglyphsSpans : Spans :=
  Spans.read [
    "13000-13455 13460-143FA"]

/-- The code points of Elbasan. -/
def elbasanSpans : Spans :=
  Spans.read [
    "10500-10527"]

/-- The code points of other scripts that Elbasan uses. -/
def elbasanUses : Spans :=
  Spans.read [
    "B7 305"]

/-- The code points of Elymaic. -/
def elymaicSpans : Spans :=
  Spans.read [
    "10FE0-10FF6"]

/-- The code points of Ethiopic. -/
def ethiopicSpans : Spans :=
  Spans.read [
    "1200-1248 124A-124D 1250-1256 1258 125A-125D 1260-1288 128A-128D 1290-12B0 12B2-12B5 12B8-12BE 12C0",
    "12C2-12C5 12C8-12D6 12D8-1310 1312-1315 1318-135A 135D-137C 1380-1399 2D80-2D96 2DA0-2DA6 2DA8-2DAE",
    "2DB0-2DB6 2DB8-2DBE 2DC0-2DC6 2DC8-2DCE 2DD0-2DD6 2DD8-2DDE AB01-AB06 AB09-AB0E AB11-AB16 AB20-AB26",
    "AB28-AB2E 1E7E0-1E7E6 1E7E8-1E7EB 1E7ED-1E7EE 1E7F0-1E7FE"]

/-- The code points of other scripts that Ethiopic uses. -/
def ethiopicUses : Spans :=
  Spans.read [
    "30E"]

/-- The code points of Garay. -/
def garaySpans : Spans :=
  Spans.read [
    "10D40-10D65 10D69-10D85 10D8E-10D8F"]

/-- The code points of other scripts that Garay uses. -/
def garayUses : Spans :=
  Spans.read [
    "60C 61B 61F"]

/-- The code points of Georgian. -/
def georgianSpans : Spans :=
  Spans.read [
    "10A0-10C5 10C7 10CD 10D0-10FA 10FC-10FF 1C90-1CBA 1CBD-1CBF 2D00-2D25 2D27 2D2D"]

/-- The code points of other scripts that Georgian uses. -/
def georgianUses : Spans :=
  Spans.read [
    "B7 589 10FB 205A 2E31"]

/-- The code points of Glagolitic. -/
def glagoliticSpans : Spans :=
  Spans.read [
    "2C00-2C5F 1E000-1E006 1E008-1E018 1E01B-1E021 1E023-1E024 1E026-1E02A"]

/-- The code points of other scripts that Glagolitic uses. -/
def glagoliticUses : Spans :=
  Spans.read [
    "B7 303 305 484 487 589 10FB 205A 2E43 A66F"]

/-- The code points of Gothic. -/
def gothicSpans : Spans :=
  Spans.read [
    "10330-1034A"]

/-- The code points of other scripts that Gothic uses. -/
def gothicUses : Spans :=
  Spans.read [
    "B7 304-305 308 331"]

/-- The code points of Grantha. -/
def granthaSpans : Spans :=
  Spans.read [
    "11300-11303 11305-1130C 1130F-11310 11313-11328 1132A-11330 11332-11333 11335-11339 1133C-11344",
    "11347-11348 1134B-1134D 11350 11357 1135D-11363 11366-1136C 11370-11374"]

/-- The code points of other scripts that Grantha uses. -/
def granthaUses : Spans :=
  Spans.read [
    "951-952 964-965 BE6-BF3 1CD0 1CD2-1CD3 1CF2-1CF4 1CF8-1CF9 20F0 1133B 11FD0-11FD1 11FD3"]

/-- The code points of Greek. -/
def greekSpans : Spans :=
  Spans.read [
    "370-373 375-377 37A-37D 37F 384 386 388-38A 38C 38E-3A1 3A3-3E1 3F0-3FF 1D26-1D2A 1D5D-1D61",
    "1D66-1D6A 1DBF 1F00-1F15 1F18-1F1D 1F20-1F45 1F48-1F4D 1F50-1F57 1F59-1F5D/2 1F5F-1F7D 1F80-1FB4",
    "1FB6-1FC4 1FC6-1FD3 1FD6-1FDB 1FDD-1FEF 1FF2-1FF4 1FF6-1FFE 2126 AB65 10140-1018E 101A0 1D200-1D245"]

/-- The code points of other scripts that Greek uses. -/
def greekUses : Spans :=
  Spans.read [
    "B7 300-301 304-308/2 313 342 345 374 1DC0-1DC1 205D"]

/-- The code points of Gujarati. -/
def gujaratiSpans : Spans :=
  Spans.read [
    "A81-A83 A85-A8D A8F-A91 A93-AA8 AAA-AB0 AB2-AB3 AB5-AB9 ABC-AC5 AC7-AC9 ACB-ACD AD0 AE0-AE3 AE6-AF1",
    "AF9-AFF"]

/-- The code points of other scripts that Gujarati uses. -/
def gujaratiUses : Spans :=
  Spans.read [
    "951-952 964-965 A830-A839"]

/-- The code points of Gunjala Gondi. -/
def gunjalaGondiSpans : Spans :=
  Spans.read [
    "11D60-11D65 11D67-11D68 11D6A-11D8E 11D90-11D91 11D93-11D98 11DA0-11DA9"]

/-- The code points of other scripts that Gunjala Gondi uses. -/
def gunjalaGondiUses : Spans :=
  Spans.read [
    "B7 964-965"]

/-- The code points of Gurmukhi. -/
def gurmukhiSpans : Spans :=
  Spans.read [
    "A01-A03 A05-A0A A0F-A10 A13-A28 A2A-A30 A32-A33 A35-A36 A38-A39 A3C A3E-A42 A47-A48 A4B-A4D A51",
    "A59-A5C A5E A66-A76"]

/-- The code points of other scripts that Gurmukhi uses. -/
def gurmukhiUses : Spans :=
  Spans.read [
    "951-952 964-965 A830-A839"]

/-- The code points of Gurung Khema. -/
def gurungKhemaSpans : Spans :=
  Spans.read [
    "16100-16139"]

/-- The code points of other scripts that Gurung Khema uses. -/
def gurungKhemaUses : Spans :=
  Spans.read [
    "965"]

/-- The code points of Han. -/
def hanSpans : Spans :=
  Spans.read [
    "2E80-2E99 2E9B-2EF3 2F00-2FD5 3005 3007 3021-3029 3038-303B 3400-4DBF 4E00-9FFF F900-FA6D FA70-FAD9",
    "16FE2-16FE3 16FF0-16FF1 20000-2A6DF 2A700-2B739 2B740-2B81D 2B820-2CEA1 2CEB0-2EBE0 2EBF0-2EE5D",
    "2F800-2FA1D 30000-3134A 31350-323AF"]

/-- The code points of other scripts that Han uses. -/
def hanUses : Spans :=
  Spans.read [
    "B7 2FF0-2FFF 3001-3003 3006 3008-3011 3013-301F 302A-302D 3030 3037 303C-303F 30FB 3190-319F",
    "31C0-31E5 31EF 3220-3247 3280-32B0 32C0-32CB 32FF 3358-3370 337B-337F 33E0-33FE A700-A707 FE45-FE46",
    "FF61-FF65 1D360-1D371 1F250-1F251"]

/-- The code points of Hangul. -/
def hangulSpans : Spans :=
  Spans.read [
    "1100-11FF 302E-302F 3131-318E 3200-321E 3260-327E A960-A97C AC00-D7A3 D7B0-D7C6 D7CB-D7FB FFA0-FFBE",
    "FFC2-FFC7 FFCA-FFCF FFD2-FFD7 FFDA-FFDC"]

/-- The code points of other scripts that Hangul uses. -/
def hangulUses : Spans :=
  Spans.read [
    "3001-3003 3008-3011 3013-301F 3030 3037 30FB FE45-FE46 FF61-FF65"]

/-- The code points of Hanifi Rohingya. -/
def hanifiRohingyaSpans : Spans :=
  Spans.read [
    "10D00-10D27 10D30-10D39"]

/-- The code points of other scripts that Hanifi Rohingya uses. -/
def hanifiRohingyaUses : Spans :=
  Spans.read [
    "60C 61B 61F 640 6D4"]

/-- The code points of Hanunoo. -/
def hanunooSpans : Spans :=
  Spans.read [
    "1720-1734"]

/-- The code points of other scripts that Hanunoo uses. -/
def hanunooUses : Spans :=
  Spans.read [
    "1735-1736"]

/-- The code points of Hatran. -/
def hatranSpans : Spans :=
  Spans.read [
    "108E0-108F2 108F4-108F5 108FB-108FF"]

/-- The code points of Hebrew. -/
def hebrewSpans : Spans :=
  Spans.read [
    "591-5C7 5D0-5EA 5EF-5F4 FB1D-FB36 FB38-FB3C FB3E FB40-FB41 FB43-FB44 FB46-FB4F"]

/-- The code points of other scripts that Hebrew uses. -/
def hebrewUses : Spans :=
  Spans.read [
    "307-308"]

/-- The code points of Hiragana. -/
def hiraganaSpans : Spans :=
  Spans.read [
    "3041-3096 309D-309F 1B001-1B11F 1B132 1B150-1B152 1F200"]

/-- The code points of other scripts that Hiragana uses. -/
def hiraganaUses : Spans :=
  Spans.read [
    "3001-3003 3008-3011 3013-301F 3030-3035 3037 303C-303D 3099-309C 30A0 30FB-30FC FE45-FE46 FF61-FF65",
    "FF70 FF9E-FF9F"]

/-- The code points of Imperial Aramaic. -/
def imperialAramaicSpans : Spans :=
  Spans.read [
    "10840-10855 10857-1085F"]

/-- The code points of Inherited. -/
def inheritedSpans : Spans :=
  Spans.read [
    "300-36F 485-486 64B-655 670 951-954 1AB0-1ACE 1CD0-1CD2 1CD4-1CE0 1CE2-1CE8 1CED 1CF4 1CF8-1CF9",
    "1DC0-1DFF 200C-200D 20D0-20F0 302A-302D 3099-309A FE00-FE0F FE20-FE2D 101FD 102E0 1133B 1CF00-1CF2D",
    "1CF30-1CF46 1D167-1D169 1D17B-1D182 1D185-1D18B 1D1AA-1D1AD E0100-E01EF"]

/-- The code points of Inscriptional Pahlavi. -/
def inscriptionalPahlaviSpans : Spans :=
  Spans.read [
    "10B60-10B72 10B78-10B7F"]

/-- The code points of Inscriptional Parthian. -/
def inscriptionalParthianSpans : Spans :=
  Spans.read [
    "10B40-10B55 10B58-10B5F"]

/-- The code points of Javanese. -/
def javaneseSpans : Spans :=
  Spans.read [
    "A980-A9CD A9D0-A9D9 A9DE-A9DF"]

/-- The code points of other scripts that Javanese uses. -/
def javaneseUses : Spans :=
  Spans.read [
    "A9CF"]

/-- The code points of Kaithi. -/
def kaithiSpans : Spans :=
  Spans.read [
    "11080-110C2 110CD"]

/-- The code points of other scripts that Kaithi uses. -/
def kaithiUses : Spans :=
  Spans.read [
    "966-96F 2E31 A830-A839"]

/-- The code points of Kannada. -/
def kannadaSpans : Spans :=
  Spans.read [
    "C80-C8C C8E-C90 C92-CA8 CAA-CB3 CB5-CB9 CBC-CC4 CC6-CC8 CCA-CCD CD5-CD6 CDD-CDE CE0-CE3 CE6-CEF",
    "CF1-CF3"]

/-- The code points of other scripts that Kannada uses. -/
def kannadaUses : Spans :=
  Spans.read [
    "951-952 964-965 1CD0 1CD2-1CD3 1CDA 1CF2 1CF4 A830-A835"]

/-- The code points of Katakana. -/
def katakanaSpans : Spans :=
  Spans.read [
    "30A1-30FA 30FD-30FF 31F0-31FF 32D0-32FE 3300-3357 FF66-FF6F FF71-FF9D 1AFF0-1AFF3 1AFF5-1AFFB",
    "1AFFD-1AFFE 1B000 1B120-1B122 1B155 1B164-1B167"]

/-- The code points of other scripts that Katakana uses. -/
def katakanaUses : Spans :=
  Spans.read [
    "305 323 3001-3003 3008-3011 3013-301F 3030-3035 3037 303C-303D 3099-309C 30A0 30FB-30FC FE45-FE46",
    "FF61-FF65 FF70 FF9E-FF9F"]

/-- The code points of Kawi. -/
def kawiSpans : Spans :=
  Spans.read [
    "11F00-11F10 11F12-11F3A 11F3E-11F5A"]

/-- The code points of Kayah Li. -/
def kayahLiSpans : Spans :=
  Spans.read [
    "A900-A92D A92F"]

/-- The code points of other scripts that Kayah Li uses. -/
def kayahLiUses : Spans :=
  Spans.read [
    "A92E"]

/-- The code points of Kharoshthi. -/
def kharoshthiSpans : Spans :=
  Spans.read [
    "10A00-10A03 10A05-10A06 10A0C-10A13 10A15-10A17 10A19-10A35 10A38-10A3A 10A3F-10A48 10A50-10A58"]

/-- The code points of Khitan Small Script. -/
def khitanSmallScriptSpans : Spans :=
  Spans.read [
    "16FE4 18B00-18CD5 18CFF"]

/-- The code points of Khmer. -/
def khmerSpans : Spans :=
  Spans.read [
    "1780-17DD 17E0-17E9 17F0-17F9 19E0-19FF"]

/-- The code points of Khojki. -/
def khojkiSpans : Spans :=
  Spans.read [
    "11200-11211 11213-11241"]

/-- The code points of other scripts that Khojki uses. -/
def khojkiUses : Spans :=
  Spans.read [
    "AE6-AEF A830-A839"]

/-- The code points of Khudawadi. -/
def khudawadiSpans : Spans :=
  Spans.read [
    "112B0-112EA 112F0-112F9"]

/-- The code points of other scripts that Khudawadi uses. -/
def khudawadiUses : Spans :=
  Spans.read [
    "964-965 A830-A839"]

/-- The code points of Kirat Rai. -/
def kiratRaiSpans : Spans :=
  Spans.read [
    "16D40-16D79"]

/-- The code points of Lao. -/
def laoSpans : Spans :=
  Spans.read [
    "E81-E82 E84 E86-E8A E8C-EA3 EA5 EA7-EBD EC0-EC4 EC6 EC8-ECE ED0-ED9 EDC-EDF"]

/-- The code points of Latin. -/
def latinSpans : Spans :=
  Spans.read [
    "41-5A 61-7A AA BA C0-D6 D8-F6 F8-2B8 2E0-2E4 1D00-1D25 1D2C-1D5C 1D62-1D65 1D6B-1D77 1D79-1DBE",
    "1E00-1EFF 2071 207F 2090-209C 212A-212B 2132 214E 2160-2188 2C60-2C7F A722-A787 A78B-A7CD A7D0-A7D1",
    "A7D3 A7D5-A7DC A7F2-A7FF AB30-AB5A AB5C-AB64 AB66-AB69 FB00-FB06 FF21-FF3A FF41-FF5A 10780-10785",
    "10787-107B0 107B2-107BA 1DF00-1DF1E 1DF25-1DF2A"]

/-- The code points of other scripts that Latin uses. -/
def latinUses : Spans :=
  Spans.read [
    "B7 2BC 2C7 2C9-2CB 2CD 2D7 2D9 300-30E 310-311 313 320 323-325 32D-32E 330-331 358 35E 363-36F",
    "485-486 951-952 10FB 1DF8 202F 20F0 2E17 A700-A707 A92E"]

/-- The code points of Lepcha. -/
def lepchaSpans : Spans :=
  Spans.read [
    "1C00-1C37 1C3B-1C49 1C4D-1C4F"]

/-- The code points of Limbu. -/
def limbuSpans : Spans :=
  Spans.read [
    "1900-191E 1920-192B 1930-193B 1940 1944-194F"]

/-- The code points of other scripts that Limbu uses. -/
def limbuUses : Spans :=
  Spans.read [
    "965"]

/-- The code points of Linear A. -/
def linearASpans : Spans :=
  Spans.read [
    "10600-10736 10740-10755 10760-10767"]

/-- The code points of other scripts that Linear A uses. -/
def linearAUses : Spans :=
  Spans.read [
    "10107-10133"]

/-- The code points of Linear B. -/
def linearBSpans : Spans :=
  Spans.read [
    "10000-1000B 1000D-10026 10028-1003A 1003C-1003D 1003F-1004D 10050-1005D 10080-100FA"]

/-- The code points of other scripts that Linear B uses. -/
def linearBUses : Spans :=
  Spans.read [
    "10100-10102 10107-10133 10137-1013F"]

/-- The code points of Lisu. -/
def lisuSpans : Spans :=
  Spans.read [
    "A4D0-A4FF 11FB0"]

/-- The code points of other scripts that Lisu uses. -/
def lisuUses : Spans :=
  Spans.read [
    "2BC 2CD 300A-300B"]

/-- The code points of Lycian. -/
def lycianSpans : Spans :=
  Spans.read [
    "10280-1029C"]

/-- The code points of other scripts that Lycian uses. -/
def lycianUses : Spans :=
  Spans.read [
    "205A"]

/-- The code points of Lydian. -/
def lydianSpans : Spans :=
  Spans.read [
    "10920-10939 1093F"]

/-- The code points of other scripts that Lydian uses. -/
def lydianUses : Spans :=
  Spans.read [
    "B7 2E31"]

/-- The code points of Mahajani. -/
def mahajaniSpans : Spans :=
  Spans.read [
    "11150-11176"]

/-- The code points of other scripts that Mahajani uses. -/
def mahajaniUses : Spans :=
  Spans.read [
    "B7 964-96F A830-A839"]

/-- The code points of Makasar. -/
def makasarSpans : Spans :=
  Spans.read [
    "11EE0-11EF8"]

/-- The code points of Malayalam. -/
def malayalamSpans : Spans :=
  Spans.read [
    "D00-D0C D0E-D10 D12-D44 D46-D48 D4A-D4F D54-D63 D66-D7F"]

/-- The code points of other scripts that Malayalam uses. -/
def malayalamUses : Spans :=
  Spans.read [
    "951-952 964-965 1CDA 1CF2 A830-A832"]

/-- The code points of Mandaic. -/
def mandaicSpans : Spans :=
  Spans.read [
    "840-85B 85E"]

/-- The code points of other scripts that Mandaic uses. -/
def mandaicUses : Spans :=
  Spans.read [
    "640"]

/-- The code points of Manichaean. -/
def manichaeanSpans : Spans :=
  Spans.read [
    "10AC0-10AE6 10AEB-10AF6"]

/-- The code points of other scripts that Manichaean uses. -/
def manichaeanUses : Spans :=
  Spans.read [
    "640"]

/-- The code points of Marchen. -/
def marchenSpans : Spans :=
  Spans.read [
    "11C70-11C8F 11C92-11CA7 11CA9-11CB6"]

/-- The code points of Masaram Gondi. -/
def masaramGondiSpans : Spans :=
  Spans.read [
    "11D00-11D06 11D08-11D09 11D0B-11D36 11D3A 11D3C-11D3D 11D3F-11D47 11D50-11D59"]

/-- The code points of other scripts that Masaram Gondi uses. -/
def masaramGondiUses : Spans :=
  Spans.read [
    "964-965"]

/-- The code points of Medefaidrin. -/
def medefaidrinSpans : Spans :=
  Spans.read [
    "16E40-16E9A"]

/-- The code points of Meetei Mayek. -/
def meeteiMayekSpans : Spans :=
  Spans.read [
    "AAE0-AAF6 ABC0-ABED ABF0-ABF9"]

/-- The code points of Mende Kikakui. -/
def mendeKikakuiSpans : Spans :=
  Spans.read [
    "1E800-1E8C4 1E8C7-1E8D6"]

/-- The code points of Meroitic Cursive. -/
def meroiticCursiveSpans : Spans :=
  Spans.read [
    "109A0-109B7 109BC-109CF 109D2-109FF"]

/-- The code points of Meroitic Hieroglyphs. -/
def meroiticHieroglyphsSpans : Spans :=
  Spans.read [
    "10980-1099F"]

/-- The code points of other scripts that Meroitic Hieroglyphs uses. -/
def meroiticHieroglyphsUses : Spans :=
  Spans.read [
    "205D"]

/-- The code points of Miao. -/
def miaoSpans : Spans :=
  Spans.read [
    "16F00-16F4A 16F4F-16F87 16F8F-16F9F"]

/-- The code points of Modi. -/
def modiSpans : Spans :=
  Spans.read [
    "11600-11644 11650-11659"]

/-- The code points of other scripts that Modi uses. -/
def modiUses : Spans :=
  Spans.read [
    "A830-A839"]

/-- The code points of Mongolian. -/
def mongolianSpans : Spans :=
  Spans.read [
    "1800-1801 1804 1806-1819 1820-1878 1880-18AA 11660-1166C"]

/-- The code points of other scripts that Mongolian uses. -/
def mongolianUses : Spans :=
  Spans.read [
    "1802-1803 1805 202F 3001-3002 3008-300B"]

/-- The code points of Mro. -/
def mroSpans : Spans :=
  Spans.read [
    "16A40-16A5E 16A60-16A69 16A6E-16A6F"]

/-- The code points of Multani. -/
def multaniSpans : Spans :=
  Spans.read [
    "11280-11286 11288 1128A-1128D 1128F-1129D 1129F-112A9"]

/-- The code points of other scripts that Multani uses. -/
def multaniUses : Spans :=
  Spans.read [
    "A66-A6F"]

/-- The code points of Myanmar. -/
def myanmarSpans : Spans :=
  Spans.read [
    "1000-109F A9E0-A9FE AA60-AA7F 116D0-116E3"]

/-- The code points of other scripts that Myanmar uses. -/
def myanmarUses : Spans :=
  Spans.read [
    "A92E"]

/-- The code points of Nabataean. -/
def nabataeanSpans : Spans :=
  Spans.read [
    "10880-1089E 108A7-108AF"]

/-- The code points of Nag Mundari. -/
def nagMundariSpans : Spans :=
  Spans.read [
    "1E4D0-1E4F9"]

/-- The code points of Nandinagari. -/
def nandinagariSpans : Spans :=
  Spans.read [
    "119A0-119A7 119AA-119D7 119DA-119E4"]

/-- The code points of other scripts that Nandinagari uses. -/
def nandinagariUses : Spans :=
  Spans.read [
    "964-965 CE6-CEF 1CE9 1CF2 1CFA A830-A835"]

/-- The code points of New Tai Lue. -/
def newTaiLueSpans : Spans :=
  Spans.read [
    "1980-19AB 19B0-19C9 19D0-19DA 19DE-19DF"]

/-- The code points of Newa. -/
def newaSpans : Spans :=
  Spans.read [
    "11400-1145B 1145D-11461"]

/-- The code points of Nko. -/
def nkoSpans : Spans :=
  Spans.read [
    "7C0-7FA 7FD-7FF"]

/-- The code points of other scripts that Nko uses. -/
def nkoUses : Spans :=
  Spans.read [
    "60C 61B 61F FD3E-FD3F"]

/-- The code points of Nushu. -/
def nushuSpans : Spans :=
  Spans.read [
    "16FE1 1B170-1B2FB"]

/-- The code points of Nyiakeng Puachue Hmong. -/
def nyiakengPuachueHmongSpans : Spans :=
  Spans.read [
    "1E100-1E12C 1E130-1E13D 1E140-1E149 1E14E-1E14F"]

/-- The code points of Ogham. -/
def oghamSpans : Spans :=
  Spans.read [
    "1680-169C"]

/-- The code points of Ol Chiki. -/
def olChikiSpans : Spans :=
  Spans.read [
    "1C50-1C7F"]

/-- The code points of Ol Onal. -/
def olOnalSpans : Spans :=
  Spans.read [
    "1E5D0-1E5FA 1E5FF"]

/-- The code points of other scripts that Ol Onal uses. -/
def olOnalUses : Spans :=
  Spans.read [
    "964-965"]

/-- The code points of Old Hungarian. -/
def oldHungarianSpans : Spans :=
  Spans.read [
    "10C80-10CB2 10CC0-10CF2 10CFA-10CFF"]

/-- The code points of other scripts that Old Hungarian uses. -/
def oldHungarianUses : Spans :=
  Spans.read [
    "205A 205D 2E31 2E41"]

/-- The code points of Old Italic. -/
def oldItalicSpans : Spans :=
  Spans.read [
    "10300-10323 1032D-1032F"]

/-- The code points of Old North Arabian. -/
def oldNorthArabianSpans : Spans :=
  Spans.read [
    "10A80-10A9F"]

/-- The code points of Old Permic. -/
def oldPermicSpans : Spans :=
  Spans.read [
    "10350-1037A"]

/-- The code points of other scripts that Old Permic uses. -/
def oldPermicUses : Spans :=
  Spans.read [
    "B7 300 306-308 313 483"]

/-- The code points of Old Persian. -/
def oldPersianSpans : Spans :=
  Spans.read [
    "103A0-103C3 103C8-103D5"]

/-- The code points of Old Sogdian. -/
def oldSogdianSpans : Spans :=
  Spans.read [
    "10F00-10F27"]

/-- The code points of Old South Arabian. -/
def oldSouthArabianSpans : Spans :=
  Spans.read [
    "10A60-10A7F"]

/-- The code points of Old Turkic. -/
def oldTurkicSpans : Spans :=
  Spans.read [
    "10C00-10C48"]

/-- The code points of other scripts that Old Turkic uses. -/
def oldTurkicUses : Spans :=
  Spans.read [
    "205A 2E30"]

/-- The code points of Old Uyghur. -/
def oldUyghurSpans : Spans :=
  Spans.read [
    "10F70-10F89"]

/-- The code points of other scripts that Old Uyghur uses. -/
def oldUyghurUses : Spans :=
  Spans.read [
    "640 10AF2"]

/-- The code points of Oriya. -/
def oriyaSpans : Spans :=
  Spans.read [
    "B01-B03 B05-B0C B0F-B10 B13-B28 B2A-B30 B32-B33 B35-B39 B3C-B44 B47-B48 B4B-B4D B55-B57 B5C-B5D",
    "B5F-B63 B66-B77"]

/-- The code points of other scripts that Oriya uses. -/
def oriyaUses : Spans :=
  Spans.read [
    "951-952 964-965 1CDA 1CF2"]

/-- The code points of Osage. -/
def osageSpans : Spans :=
  Spans.read [
    "104B0-104D3 104D8-104FB"]

/-- The code points of other scripts that Osage uses. -/
def osageUses : Spans :=
  Spans.read [
    "301 304 30B 358"]

/-- The code points of Osmanya. -/
def osmanyaSpans : Spans :=
  Spans.read [
    "10480-1049D 104A0-104A9"]

/-- The code points of Pahawh Hmong. -/
def pahawhHmongSpans : Spans :=
  Spans.read [
    "16B00-16B45 16B50-16B59 16B5B-16B61 16B63-16B77 16B7D-16B8F"]

/-- The code points of Palmyrene. -/
def palmyreneSpans : Spans :=
  Spans.read [
    "10860-1087F"]

/-- The code points of Pau Cin Hau. -/
def pauCinHauSpans : Spans :=
  Spans.read [
    "11AC0-11AF8"]

/-- The code points of Phags Pa. -/
def phagsPaSpans : Spans :=
  Spans.read [
    "A840-A877"]

/-- The code points of other scripts that Phags Pa uses. -/
def phagsPaUses : Spans :=
  Spans.read [
    "1802-1803 1805 202F 3002"]

/-- The code points of Phoenician. -/
def phoenicianSpans : Spans :=
  Spans.read [
    "10900-1091B 1091F"]

/-- The code points of Psalter Pahlavi. -/
def psalterPahlaviSpans : Spans :=
  Spans.read [
    "10B80-10B91 10B99-10B9C 10BA9-10BAF"]

/-- The code points of other scripts that Psalter Pahlavi uses. -/
def psalterPahlaviUses : Spans :=
  Spans.read [
    "640"]

/-- The code points of Rejang. -/
def rejangSpans : Spans :=
  Spans.read [
    "A930-A953 A95F"]

/-- The code points of Runic. -/
def runicSpans : Spans :=
  Spans.read [
    "16A0-16EA 16EE-16F8"]

/-- The code points of other scripts that Runic uses. -/
def runicUses : Spans :=
  Spans.read [
    "16EB-16ED"]

/-- The code points of Samaritan. -/
def samaritanSpans : Spans :=
  Spans.read [
    "800-82D 830-83E"]

/-- The code points of other scripts that Samaritan uses. -/
def samaritanUses : Spans :=
  Spans.read [
    "2E31"]

/-- The code points of Saurashtra. -/
def saurashtraSpans : Spans :=
  Spans.read [
    "A880-A8C5 A8CE-A8D9"]

/-- The code points of Sharada. -/
def sharadaSpans : Spans :=
  Spans.read [
    "11180-111DF"]

/-- The code points of other scripts that Sharada uses. -/
def sharadaUses : Spans :=
  Spans.read [
    "951 1CD7 1CD9 1CDC-1CDD 1CE0 A830-A835 A838"]

/-- The code points of Shavian. -/
def shavianSpans : Spans :=
  Spans.read [
    "10450-1047F"]

/-- The code points of other scripts that Shavian uses. -/
def shavianUses : Spans :=
  Spans.read [
    "B7"]

/-- The code points of Siddham. -/
def siddhamSpans : Spans :=
  Spans.read [
    "11580-115B5 115B8-115DD"]

/-- The code points of SignWriting. -/
def signWritingSpans : Spans :=
  Spans.read [
    "1D800-1DA8B 1DA9B-1DA9F 1DAA1-1DAAF"]

/-- The code points of Sinhala. -/
def sinhalaSpans : Spans :=
  Spans.read [
    "D81-D83 D85-D96 D9A-DB1 DB3-DBB DBD DC0-DC6 DCA DCF-DD4 DD6 DD8-DDF DE6-DEF DF2-DF4 111E1-111F4"]

/-- The code points of other scripts that Sinhala uses. -/
def sinhalaUses : Spans :=
  Spans.read [
    "964-965 1CF2"]

/-- The code points of Sogdian. -/
def sogdianSpans : Spans :=
  Spans.read [
    "10F30-10F59"]

/-- The code points of other scripts that Sogdian uses. -/
def sogdianUses : Spans :=
  Spans.read [
    "640"]

/-- The code points of Sora Sompeng. -/
def soraSompengSpans : Spans :=
  Spans.read [
    "110D0-110E8 110F0-110F9"]

/-- The code points of Soyombo. -/
def soyomboSpans : Spans :=
  Spans.read [
    "11A50-11AA2"]

/-- The code points of Sundanese. -/
def sundaneseSpans : Spans :=
  Spans.read [
    "1B80-1BBF 1CC0-1CC7"]

/-- The code points of Sunuwar. -/
def sunuwarSpans : Spans :=
  Spans.read [
    "11BC0-11BE1 11BF0-11BF9"]

/-- The code points of other scripts that Sunuwar uses. -/
def sunuwarUses : Spans :=
  Spans.read [
    "300-301 303 30D 310 32D 331"]

/-- The code points of Syloti Nagri. -/
def sylotiNagriSpans : Spans :=
  Spans.read [
    "A800-A82C"]

/-- The code points of other scripts that Syloti Nagri uses. -/
def sylotiNagriUses : Spans :=
  Spans.read [
    "964-965 9E6-9EF"]

/-- The code points of Syriac. -/
def syriacSpans : Spans :=
  Spans.read [
    "700-70D 70F-74A 74D-74F 860-86A"]

/-- The code points of other scripts that Syriac uses. -/
def syriacUses : Spans :=
  Spans.read [
    "303-304 307-308 30A 320 323-325 32D-32E 330 60C 61B-61C 61F 640 64B-655 670 1DF8 1DFA"]

/-- The code points of Tagalog. -/
def tagalogSpans : Spans :=
  Spans.read [
    "1700-1715 171F"]

/-- The code points of other scripts that Tagalog uses. -/
def tagalogUses : Spans :=
  Spans.read [
    "1735-1736"]

/-- The code points of Tagbanwa. -/
def tagbanwaSpans : Spans :=
  Spans.read [
    "1760-176C 176E-1770 1772-1773"]

/-- The code points of other scripts that Tagbanwa uses. -/
def tagbanwaUses : Spans :=
  Spans.read [
    "1735-1736"]

/-- The code points of Tai Le. -/
def taiLeSpans : Spans :=
  Spans.read [
    "1950-196D 1970-1974"]

/-- The code points of other scripts that Tai Le uses. -/
def taiLeUses : Spans :=
  Spans.read [
    "300-301 307-308 30C 1040-1049"]

/-- The code points of Tai Tham. -/
def taiThamSpans : Spans :=
  Spans.read [
    "1A20-1A5E 1A60-1A7C 1A7F-1A89 1A90-1A99 1AA0-1AAD"]

/-- The code points of Tai Viet. -/
def taiVietSpans : Spans :=
  Spans.read [
    "AA80-AAC2 AADB-AADF"]

/-- The code points of Takri. -/
def takriSpans : Spans :=
  Spans.read [
    "11680-116B9 116C0-116C9"]

/-- The code points of other scripts that Takri uses. -/
def takriUses : Spans :=
  Spans.read [
    "964-965 A830-A839"]

/-- The code points of Tamil. -/
def tamilSpans : Spans :=
  Spans.read [
    "B82-B83 B85-B8A B8E-B90 B92-B95 B99-B9A B9C B9E-B9F BA3-BA4 BA8-BAA BAE-BB9 BBE-BC2 BC6-BC8 BCA-BCD",
    "BD0 BD7 BE6-BFA 11FC0-11FF1 11FFF"]

/-- The code points of other scripts that Tamil uses. -/
def tamilUses : Spans :=
  Spans.read [
    "951-952 964-965 1CDA A8F3 11301 11303 1133B-1133C"]

/-- The code points of Tangsa. -/
def tangsaSpans : Spans :=
  Spans.read [
    "16A70-16ABE 16AC0-16AC9"]

/-- The code points of Tangut. -/
def tangutSpans : Spans :=
  Spans.read [
    "16FE0 17000-187F7 18800-18AFF 18D00-18D08"]

/-- The code points of other scripts that Tangut uses. -/
def tangutUses : Spans :=
  Spans.read [
    "2FF0-2FFF 31EF"]

/-- The code points of Telugu. -/
def teluguSpans : Spans :=
  Spans.read [
    "C00-C0C C0E-C10 C12-C28 C2A-C39 C3C-C44 C46-C48 C4A-C4D C55-C56 C58-C5A C5D C60-C63 C66-C6F C77-C7F"]

/-- The code points of other scripts that Telugu uses. -/
def teluguUses : Spans :=
  Spans.read [
    "951-952 964-965 1CDA 1CF2"]

/-- The code points of Thaana. -/
def thaanaSpans : Spans :=
  Spans.read [
    "780-7B1"]

/-- The code points of other scripts that Thaana uses. -/
def thaanaUses : Spans :=
  Spans.read [
    "60C 61B-61C 61F 660-669 FDF2 FDFD"]

/-- The code points of Thai. -/
def thaiSpans : Spans :=
  Spans.read [
    "E01-E3A E40-E5B"]

/-- The code points of other scripts that Thai uses. -/
def thaiUses : Spans :=
  Spans.read [
    "2BC 2D7 303 331"]

/-- The code points of Tibetan. -/
def tibetanSpans : Spans :=
  Spans.read [
    "F00-F47 F49-F6C F71-F97 F99-FBC FBE-FCC FCE-FD4 FD9-FDA"]

/-- The code points of other scripts that Tibetan uses. -/
def tibetanUses : Spans :=
  Spans.read [
    "3008-300B"]

/-- The code points of Tifinagh. -/
def tifinaghSpans : Spans :=
  Spans.read [
    "2D30-2D67 2D6F-2D70 2D7F"]

/-- The code points of other scripts that Tifinagh uses. -/
def tifinaghUses : Spans :=
  Spans.read [
    "302 304 307 309"]

/-- The code points of Tirhuta. -/
def tirhutaSpans : Spans :=
  Spans.read [
    "11480-114C7 114D0-114D9"]

/-- The code points of other scripts that Tirhuta uses. -/
def tirhutaUses : Spans :=
  Spans.read [
    "951-952 964-965 1CF2 A830-A839"]

/-- The code points of Todhri. -/
def todhriSpans : Spans :=
  Spans.read [
    "105C0-105F3"]

/-- The code points of other scripts that Todhri uses. -/
def todhriUses : Spans :=
  Spans.read [
    "301 304 307 311 313 35E"]

/-- The code points of Toto. -/
def totoSpans : Spans :=
  Spans.read [
    "1E290-1E2AE"]

/-- The code points of other scripts that Toto uses. -/
def totoUses : Spans :=
  Spans.read [
    "2BC"]

/-- The code points of Tulu Tigalari. -/
def tuluTigalariSpans : Spans :=
  Spans.read [
    "11380-11389 1138B 1138E 11390-113B5 113B7-113C0 113C2 113C5 113C7-113CA 113CC-113D5 113D7-113D8",
    "113E1-113E2"]

/-- The code points of other scripts that Tulu Tigalari uses. -/
def tuluTigalariUses : Spans :=
  Spans.read [
    "CE6-CEF 1CF2 1CF4 A830-A835 A8F1"]

/-- The code points of Ugaritic. -/
def ugariticSpans : Spans :=
  Spans.read [
    "10380-1039D 1039F"]

/-- The code points of Vai. -/
def vaiSpans : Spans :=
  Spans.read [
    "A500-A62B"]

/-- The code points of Vithkuqi. -/
def vithkuqiSpans : Spans :=
  Spans.read [
    "10570-1057A 1057C-1058A 1058C-10592 10594-10595 10597-105A1 105A3-105B1 105B3-105B9 105BB-105BC"]

/-- The code points of Wancho. -/
def wanchoSpans : Spans :=
  Spans.read [
    "1E2C0-1E2F9 1E2FF"]

/-- The code points of Warang Citi. -/
def warangCitiSpans : Spans :=
  Spans.read [
    "118A0-118F2 118FF"]

/-- The code points of Yezidi. -/
def yezidiSpans : Spans :=
  Spans.read [
    "10E80-10EA9 10EAB-10EAD 10EB0-10EB1"]

/-- The code points of other scripts that Yezidi uses. -/
def yezidiUses : Spans :=
  Spans.read [
    "60C 61B 61F 660-669"]

/-- The code points of Yi. -/
def yiSpans : Spans :=
  Spans.read [
    "A000-A48C A490-A4C6"]

/-- The code points of other scripts that Yi uses. -/
def yiUses : Spans :=
  Spans.read [
    "3001-3002 3008-3011 3014-301B 30FB FF61-FF65"]

/-- The code points of Zanabazar Square. -/
def zanabazarSquareSpans : Spans :=
  Spans.read [
    "11A00-11A47"]

/-- The script of the characters common to all. -/
def common : Script := ⟨["common", "zyyy"], commonSpans, []⟩

/-- The script of the characters that inherit theirs. -/
def inherited : Script := ⟨["inherited", "qaai", "zinh"], inheritedSpans, []⟩

/-- Every script with characters of its own alphabet. -/
def written : List Script :=
  [⟨["adlam", "adlm"], adlamSpans, adlamUses⟩,
   ⟨["ahom"], ahomSpans, []⟩,
   ⟨["anatolianhieroglyphs", "hluw"], anatolianHieroglyphsSpans, []⟩,
   ⟨["arabic", "arab"], arabicSpans, arabicUses⟩,
   ⟨["armenian", "armn"], armenianSpans, armenianUses⟩,
   ⟨["avestan", "avst"], avestanSpans, avestanUses⟩,
   ⟨["balinese", "bali"], balineseSpans, []⟩,
   ⟨["bamum", "bamu"], bamumSpans, []⟩,
   ⟨["bassavah", "bass"], bassaVahSpans, []⟩,
   ⟨["batak", "batk"], batakSpans, []⟩,
   ⟨["bengali", "beng"], bengaliSpans, bengaliUses⟩,
   ⟨["bhaiksuki", "bhks"], bhaiksukiSpans, []⟩,
   ⟨["bopomofo", "bopo"], bopomofoSpans, bopomofoUses⟩,
   ⟨["brahmi", "brah"], brahmiSpans, []⟩,
   ⟨["braille", "brai"], brailleSpans, []⟩,
   ⟨["buginese", "bugi"], bugineseSpans, bugineseUses⟩,
   ⟨["buhid", "buhd"], buhidSpans, buhidUses⟩,
   ⟨["canadianaboriginal", "cans"], canadianAboriginalSpans, []⟩,
   ⟨["carian", "cari"], carianSpans, carianUses⟩,
   ⟨["caucasianalbanian", "aghb"], caucasianAlbanianSpans, caucasianAlbanianUses⟩,
   ⟨["chakma", "cakm"], chakmaSpans, chakmaUses⟩,
   ⟨["cham"], chamSpans, []⟩,
   ⟨["cherokee", "cher"], cherokeeSpans, cherokeeUses⟩,
   ⟨["chorasmian", "chrs"], chorasmianSpans, []⟩,
   ⟨["coptic", "copt", "qaac"], copticSpans, copticUses⟩,
   ⟨["cuneiform", "xsux"], cuneiformSpans, []⟩,
   ⟨["cypriot", "cprt"], cypriotSpans, cypriotUses⟩,
   ⟨["cyprominoan", "cpmn"], cyproMinoanSpans, cyproMinoanUses⟩,
   ⟨["cyrillic", "cyrl"], cyrillicSpans, cyrillicUses⟩,
   ⟨["deseret", "dsrt"], deseretSpans, []⟩,
   ⟨["devanagari", "deva"], devanagariSpans, devanagariUses⟩,
   ⟨["divesakuru", "diak"], divesAkuruSpans, []⟩,
   ⟨["dogra", "dogr"], dograSpans, dograUses⟩,
   ⟨["duployan", "dupl"], duployanSpans, duployanUses⟩,
   ⟨["egyptianhieroglyphs", "egyp"], egyptianHieroglyphsSpans, []⟩,
   ⟨["elbasan", "elba"], elbasanSpans, elbasanUses⟩,
   ⟨["elymaic", "elym"], elymaicSpans, []⟩,
   ⟨["ethiopic", "ethi"], ethiopicSpans, ethiopicUses⟩,
   ⟨["garay", "gara"], garaySpans, garayUses⟩,
   ⟨["georgian", "geor"], georgianSpans, georgianUses⟩,
   ⟨["glagolitic", "glag"], glagoliticSpans, glagoliticUses⟩,
   ⟨["gothic", "goth"], gothicSpans, gothicUses⟩,
   ⟨["grantha", "gran"], granthaSpans, granthaUses⟩,
   ⟨["greek", "grek"], greekSpans, greekUses⟩,
   ⟨["gujarati", "gujr"], gujaratiSpans, gujaratiUses⟩,
   ⟨["gunjalagondi", "gong"], gunjalaGondiSpans, gunjalaGondiUses⟩,
   ⟨["gurmukhi", "guru"], gurmukhiSpans, gurmukhiUses⟩,
   ⟨["gurungkhema", "gukh"], gurungKhemaSpans, gurungKhemaUses⟩,
   ⟨["han", "hani"], hanSpans, hanUses⟩,
   ⟨["hangul", "hang"], hangulSpans, hangulUses⟩,
   ⟨["hanifirohingya", "rohg"], hanifiRohingyaSpans, hanifiRohingyaUses⟩,
   ⟨["hanunoo", "hano"], hanunooSpans, hanunooUses⟩,
   ⟨["hatran", "hatr"], hatranSpans, []⟩,
   ⟨["hebrew", "hebr"], hebrewSpans, hebrewUses⟩,
   ⟨["hiragana", "hira"], hiraganaSpans, hiraganaUses⟩,
   ⟨["imperialaramaic", "armi"], imperialAramaicSpans, []⟩,
   ⟨["inscriptionalpahlavi", "phli"], inscriptionalPahlaviSpans, []⟩,
   ⟨["inscriptionalparthian", "prti"], inscriptionalParthianSpans, []⟩,
   ⟨["javanese", "java"], javaneseSpans, javaneseUses⟩,
   ⟨["kaithi", "kthi"], kaithiSpans, kaithiUses⟩,
   ⟨["kannada", "knda"], kannadaSpans, kannadaUses⟩,
   ⟨["katakana", "kana"], katakanaSpans, katakanaUses⟩,
   ⟨["kawi"], kawiSpans, []⟩,
   ⟨["kayahli", "kali"], kayahLiSpans, kayahLiUses⟩,
   ⟨["kharoshthi", "khar"], kharoshthiSpans, []⟩,
   ⟨["khitansmallscript", "kits"], khitanSmallScriptSpans, []⟩,
   ⟨["khmer", "khmr"], khmerSpans, []⟩,
   ⟨["khojki", "khoj"], khojkiSpans, khojkiUses⟩,
   ⟨["khudawadi", "sind"], khudawadiSpans, khudawadiUses⟩,
   ⟨["kiratrai", "krai"], kiratRaiSpans, []⟩,
   ⟨["lao", "laoo"], laoSpans, []⟩,
   ⟨["latin", "latn"], latinSpans, latinUses⟩,
   ⟨["lepcha", "lepc"], lepchaSpans, []⟩,
   ⟨["limbu", "limb"], limbuSpans, limbuUses⟩,
   ⟨["lineara", "lina"], linearASpans, linearAUses⟩,
   ⟨["linearb", "linb"], linearBSpans, linearBUses⟩,
   ⟨["lisu"], lisuSpans, lisuUses⟩,
   ⟨["lycian", "lyci"], lycianSpans, lycianUses⟩,
   ⟨["lydian", "lydi"], lydianSpans, lydianUses⟩,
   ⟨["mahajani", "mahj"], mahajaniSpans, mahajaniUses⟩,
   ⟨["makasar", "maka"], makasarSpans, []⟩,
   ⟨["malayalam", "mlym"], malayalamSpans, malayalamUses⟩,
   ⟨["mandaic", "mand"], mandaicSpans, mandaicUses⟩,
   ⟨["manichaean", "mani"], manichaeanSpans, manichaeanUses⟩,
   ⟨["marchen", "marc"], marchenSpans, []⟩,
   ⟨["masaramgondi", "gonm"], masaramGondiSpans, masaramGondiUses⟩,
   ⟨["medefaidrin", "medf"], medefaidrinSpans, []⟩,
   ⟨["meeteimayek", "mtei"], meeteiMayekSpans, []⟩,
   ⟨["mendekikakui", "mend"], mendeKikakuiSpans, []⟩,
   ⟨["meroiticcursive", "merc"], meroiticCursiveSpans, []⟩,
   ⟨["meroitichieroglyphs", "mero"], meroiticHieroglyphsSpans, meroiticHieroglyphsUses⟩,
   ⟨["miao", "plrd"], miaoSpans, []⟩,
   ⟨["modi"], modiSpans, modiUses⟩,
   ⟨["mongolian", "mong"], mongolianSpans, mongolianUses⟩,
   ⟨["mro", "mroo"], mroSpans, []⟩,
   ⟨["multani", "mult"], multaniSpans, multaniUses⟩,
   ⟨["myanmar", "mymr"], myanmarSpans, myanmarUses⟩,
   ⟨["nabataean", "nbat"], nabataeanSpans, []⟩,
   ⟨["nagmundari", "nagm"], nagMundariSpans, []⟩,
   ⟨["nandinagari", "nand"], nandinagariSpans, nandinagariUses⟩,
   ⟨["newtailue", "talu"], newTaiLueSpans, []⟩,
   ⟨["newa"], newaSpans, []⟩,
   ⟨["nko", "nkoo"], nkoSpans, nkoUses⟩,
   ⟨["nushu", "nshu"], nushuSpans, []⟩,
   ⟨["nyiakengpuachuehmong", "hmnp"], nyiakengPuachueHmongSpans, []⟩,
   ⟨["ogham", "ogam"], oghamSpans, []⟩,
   ⟨["olchiki", "olck"], olChikiSpans, []⟩,
   ⟨["olonal", "onao"], olOnalSpans, olOnalUses⟩,
   ⟨["oldhungarian", "hung"], oldHungarianSpans, oldHungarianUses⟩,
   ⟨["olditalic", "ital"], oldItalicSpans, []⟩,
   ⟨["oldnortharabian", "narb"], oldNorthArabianSpans, []⟩,
   ⟨["oldpermic", "perm"], oldPermicSpans, oldPermicUses⟩,
   ⟨["oldpersian", "xpeo"], oldPersianSpans, []⟩,
   ⟨["oldsogdian", "sogo"], oldSogdianSpans, []⟩,
   ⟨["oldsoutharabian", "sarb"], oldSouthArabianSpans, []⟩,
   ⟨["oldturkic", "orkh"], oldTurkicSpans, oldTurkicUses⟩,
   ⟨["olduyghur", "ougr"], oldUyghurSpans, oldUyghurUses⟩,
   ⟨["oriya", "orya"], oriyaSpans, oriyaUses⟩,
   ⟨["osage", "osge"], osageSpans, osageUses⟩,
   ⟨["osmanya", "osma"], osmanyaSpans, []⟩,
   ⟨["pahawhhmong", "hmng"], pahawhHmongSpans, []⟩,
   ⟨["palmyrene", "palm"], palmyreneSpans, []⟩,
   ⟨["paucinhau", "pauc"], pauCinHauSpans, []⟩,
   ⟨["phagspa", "phag"], phagsPaSpans, phagsPaUses⟩,
   ⟨["phoenician", "phnx"], phoenicianSpans, []⟩,
   ⟨["psalterpahlavi", "phlp"], psalterPahlaviSpans, psalterPahlaviUses⟩,
   ⟨["rejang", "rjng"], rejangSpans, []⟩,
   ⟨["runic", "runr"], runicSpans, runicUses⟩,
   ⟨["samaritan", "samr"], samaritanSpans, samaritanUses⟩,
   ⟨["saurashtra", "saur"], saurashtraSpans, []⟩,
   ⟨["sharada", "shrd"], sharadaSpans, sharadaUses⟩,
   ⟨["shavian", "shaw"], shavianSpans, shavianUses⟩,
   ⟨["siddham", "sidd"], siddhamSpans, []⟩,
   ⟨["signwriting", "sgnw"], signWritingSpans, []⟩,
   ⟨["sinhala", "sinh"], sinhalaSpans, sinhalaUses⟩,
   ⟨["sogdian", "sogd"], sogdianSpans, sogdianUses⟩,
   ⟨["sorasompeng", "sora"], soraSompengSpans, []⟩,
   ⟨["soyombo", "soyo"], soyomboSpans, []⟩,
   ⟨["sundanese", "sund"], sundaneseSpans, []⟩,
   ⟨["sunuwar", "sunu"], sunuwarSpans, sunuwarUses⟩,
   ⟨["sylotinagri", "sylo"], sylotiNagriSpans, sylotiNagriUses⟩,
   ⟨["syriac", "syrc"], syriacSpans, syriacUses⟩,
   ⟨["tagalog", "tglg"], tagalogSpans, tagalogUses⟩,
   ⟨["tagbanwa", "tagb"], tagbanwaSpans, tagbanwaUses⟩,
   ⟨["taile", "tale"], taiLeSpans, taiLeUses⟩,
   ⟨["taitham", "lana"], taiThamSpans, []⟩,
   ⟨["taiviet", "tavt"], taiVietSpans, []⟩,
   ⟨["takri", "takr"], takriSpans, takriUses⟩,
   ⟨["tamil", "taml"], tamilSpans, tamilUses⟩,
   ⟨["tangsa", "tnsa"], tangsaSpans, []⟩,
   ⟨["tangut", "tang"], tangutSpans, tangutUses⟩,
   ⟨["telugu", "telu"], teluguSpans, teluguUses⟩,
   ⟨["thaana", "thaa"], thaanaSpans, thaanaUses⟩,
   ⟨["thai"], thaiSpans, thaiUses⟩,
   ⟨["tibetan", "tibt"], tibetanSpans, tibetanUses⟩,
   ⟨["tifinagh", "tfng"], tifinaghSpans, tifinaghUses⟩,
   ⟨["tirhuta", "tirh"], tirhutaSpans, tirhutaUses⟩,
   ⟨["todhri", "todr"], todhriSpans, todhriUses⟩,
   ⟨["toto"], totoSpans, totoUses⟩,
   ⟨["tulutigalari", "tutg"], tuluTigalariSpans, tuluTigalariUses⟩,
   ⟨["ugaritic", "ugar"], ugariticSpans, []⟩,
   ⟨["vai", "vaii"], vaiSpans, []⟩,
   ⟨["vithkuqi", "vith"], vithkuqiSpans, []⟩,
   ⟨["wancho", "wcho"], wanchoSpans, []⟩,
   ⟨["warangciti", "wara"], warangCitiSpans, []⟩,
   ⟨["yezidi", "yezi"], yezidiSpans, yezidiUses⟩,
   ⟨["yi", "yiii"], yiSpans, yiUses⟩,
   ⟨["zanabazarsquare", "zanb"], zanabazarSquareSpans, []⟩]

/-- The script with the given loose name. -/
def named? (name : String) : Option Script :=
  (common :: inherited :: written).find? (·.names.contains name)

/-- The characters of the script. -/
def characters (s : Script) : CharSet := .spans s.own

/-- The characters of the script and those of others that it uses; of what is common or inherited, all that no
script in particular uses. -/
def extended (s : Script) : CharSet :=
  if s = common ∨ s = inherited then .minus s.characters (.union ((written.filter (!·.used.isEmpty)).map (.spans ·.used)))
  else .or s.characters (.spans s.used)

end Script

end DeltaLint.Unicode

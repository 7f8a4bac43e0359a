/-!
# Scripts

The script of every assigned character, version 16 of the character database.
Each entry gives the names, in small letters and without separators, and the code points as
alternating decimal numbers: the distance from the last code point of the range before, and the
number of further code points in the range. The numbers go on from text to text.
-/

namespace Catalog.Unicode

/-- The scripts. -/
def scripts : List (List String × List String) :=
  [ (["adlam", "adlm"],
      ["125184 75 5 9 5 1"])
  , (["ahom"],
      ["71424 26 3 14 5 22"])
  , (["anatolianhieroglyphs", "hluw"],
      ["82944 582"])
  , (["arabic", "arab"],
      ["1536 4 2 5 2 13 2 2 2 31 2 9 12 25 2 107 2 33 81 47 241 30 2 1 6 74 2 28 62033 114 17",
      "362 3 79 3 53 8 0 33 15 113 4 2 134 3940 30 68 2 56 3 57089 3 2 26 2 1 2 0 3 0 2 9 2 3",
      "2 0 2 0 7 0 5 0 2 0 2 0 2 2 2 1 2 0 3 0 2 0 2 0 2 0 2 0 2 1 2 0 3 3 2 6 2 3 2 3 2 0 2 9",
      "2 16 6 2 2 4 2 16 53 1"])
  , (["armenian", "armn"],
      ["1329 37 3 49 3 2 62852 4"])
  , (["avestan", "avst"],
      ["68352 53 4 6"])
  , (["balinese", "bali"],
      ["6912 76 2 49"])
  , (["bamum", "bamu"],
      ["42656 87 49417 568"])
  , (["bassavah", "bass"],
      ["92880 29 3 5"])
  , (["batak", "batk"],
      ["7104 51 9 3"])
  , (["bengali", "beng"],
      ["2432 3 2 7 3 1 3 21 2 6 2 0 4 3 3 8 3 1 3 3 9 0 5 1 2 4 3 24"])
  , (["bhaiksuki", "bhks"],
      ["72704 8 2 44 2 13 11 28"])
  , (["bopomofo", "bopo"],
      ["746 1 11802 42 113 31"])
  , (["brahmi", "brah"],
      ["69632 77 5 35 10 0"])
  , (["braille", "brai"],
      ["10240 255"])
  , (["buginese", "bugi"],
      ["6656 27 3 1"])
  , (["buhid", "buhd"],
      ["5952 19"])
  , (["canadianaboriginal", "cans"],
      ["5120 639 561 69 65979 15"])
  , (["carian", "cari"],
      ["66208 48"])
  , (["caucasianalbanian", "aghb"],
      ["66864 51 12 0"])
  , (["chakma", "cakm"],
      ["69888 52 2 17"])
  , (["cham"],
      ["43520 54 10 13 3 9 3 3"])
  , (["cherokee", "cher"],
      ["5024 85 3 5 38771 79"])
  , (["chorasmian", "chrs"],
      ["69552 27"])
  , (["common", "zyyy"],
      ["0 64 27 5 27 46 2 14 2 4 24 0 32 0 450 38 6 4 3 19 117 0 10 0 7 0 2 0 638 0 7 0 15 0 4",
      "0 33 0 157 0 517 0 130 1 1242 0 406 3 291 0 1520 2 72 1 204 1 2 0 1230 0 14 0 8 3 2 5 2",
      "2 3 0 774 11 3 86 2 10 4 10 2 14 18 32 64 37 2 2 3 5 2 26 2 16 42 2 5 665 23 10 22 927",
      "257 627 3 31 2 104 513 93 403 20 2 0 2 24 16 7 5 3 92 1 4 0 91 1 148 15 33 37 10 0 49",
      "63 32 80 48 0 89 167 6593 63 22785 33 103 2 166 9 245 0 161 0 396 0 15 1 20947 1 209 9",
      "23 34 2 18 2 3 148 0 2 31 27 5 27 10 11 0 46 1 65 6 2 6 11 4 259 2 5 44 4 8 81 12 52 44",
      "229 26 47525 3 3933 249 7 435 157 115 61 245 11 38 3 61 4 16 9 1 8 29 5 60 214 19 13 19",
      "13 86 10 24 136 84 2 70 2 1 3 0 3 1 3 3 2 11 2 0 2 6 2 64 2 3 3 7 2 6 2 27 2 3 2 4 2 0",
      "4 6 2 339 3 291 3 49 5234 67 77 60 707 43 5 99 13 14 3 14 2 14 2 36 11 173 57 25 2 1 14",
      "43 5 8 8 1 15 5 155 983 5 16 4 12 4 118 5 94 7 11 5 0 16 11 5 55 9 9 7 39 9 29 3 11 5 1",
      "63 339 13 13 3 12 4 9 6 55 8 14 3 10 7 8 8 146 2 101 787464 0 31 95"])
  , (["coptic", "copt", "qaac"],
      ["994 13 10385 115 6 6"])
  , (["cuneiform", "xsux"],
      ["73728 921 103 110 2 4 12 195"])
  , (["cypriot", "cprt"],
      ["67584 5 3 0 2 43 2 1 4 0 3 0"])
  , (["cyprominoan", "cpmn"],
      ["77712 98"])
  , (["cyrillic", "cyrl"],
      ["1024 132 3 168 5969 10 161 0 77 0 4200 31 30785 95 22415 1 57857 61 34 0"])
  , (["deseret", "dsrt"],
      ["66560 79"])
  , (["devanagari", "deva"],
      ["2304 80 5 14 3 25 40801 31 29185 9"])
  , (["divesakuru", "diak"],
      ["71936 6 3 0 3 7 2 1 2 29 2 1 3 11 10 9"])
  , (["dogra", "dogr"],
      ["71680 59"])
  , (["duployan", "dupl"],
      ["113664 106 6 12 4 8 8 9 3 3"])
  , (["egyptianhieroglyphs", "egyp"],
      ["77824 1109 11 3994"])
  , (["elbasan", "elba"],
      ["66816 39"])
  , (["elymaic", "elym"],
      ["69600 22"])
  , (["ethiopic", "ethi"],
      ["4608 72 2 3 3 6 2 0 2 3 3 40 2 3 3 32 2 3 3 6 2 0 2 3 3 14 2 56 2 3 3 66 3 31 4 25 6631",
      "22 10 6 2 6 2 6 2 6 2 6 2 6 2 6 2 6 32035 5 3 5 3 5 10 6 2 6 81074 6 2 3 2 1 2 14"])
  , (["garay", "gara"],
      ["68928 37 4 28 9 1"])
  , (["georgian", "geor"],
      ["4256 37 2 0 6 0 3 42 2 3 2961 42 3 2 4161 37 2 0 6 0"])
  , (["glagolitic", "glag"],
      ["11264 95 111521 6 2 16 3 6 2 1 2 4"])
  , (["gothic", "goth"],
      ["66352 26"])
  , (["grantha", "gran"],
      ["70400 3 2 7 3 1 3 21 2 6 2 1 2 4 3 8 3 1 3 2 3 0 7 0 6 6 3 6 4 4"])
  , (["greek", "grek"],
      ["880 3 2 2 3 3 2 0 5 0 2 0 2 2 2 0 2 19 2 62 15 15 6439 4 51 4 5 4 85 0 321 21 3 5 3 37",
      "3 5 3 7 2 0 2 0 2 0 2 30 3 52 2 14 2 13 3 5 2 18 3 2 2 8 296 0 35391 0 21979 78 18 0",
      "53344 69"])
  , (["gujarati", "gujr"],
      ["2689 2 2 8 2 2 2 21 2 6 2 1 2 4 3 9 2 2 2 2 3 0 16 3 3 11 8 6"])
  , (["gunjalagondi", "gong"],
      ["73056 5 2 1 2 36 2 1 2 5 8 9"])
  , (["gurmukhi", "guru"],
      ["2561 2 2 5 5 1 3 21 2 6 2 1 2 1 2 1 3 0 2 4 5 1 3 2 4 0 8 3 2 0 8 16"])
  , (["gurungkhema", "gukh"],
      ["90368 57"])
  , (["han", "hani"],
      ["11904 25 2 88 13 213 48 0 2 0 26 8 15 3 965 6591 65 20991 22785 365 3 105 29961 1 13 1",
      "36879 42719 33 4153 7 221 3 5761 15 7472 16 621 2467 541 1507 4938 6 4191"])
  , (["hangul", "hang"],
      ["4352 255 7727 1 258 93 114 30 66 30 30434 28 644 11171 13 22 5 48 10149 30 4 5 3 5 3 5",
      "3 2"])
  , (["hanifirohingya", "rohg"],
      ["68864 39 9 9"])
  , (["hanunoo", "hano"],
      ["5920 20"])
  , (["hatran", "hatr"],
      ["67808 18 2 1 6 4"])
  , (["hebrew", "hebr"],
      ["1425 54 9 26 5 5 62761 25 2 4 2 0 2 1 2 1 2 9"])
  , (["hiragana", "hira"],
      ["12353 85 7 2 98146 286 19 0 30 2 16558 0"])
  , (["imperialaramaic", "armi"],
      ["67648 21 2 8"])
  , (["inherited", "zinh", "qaai"],
      ["768 111 278 1 453 10 27 0 737 3 4444 30 514 2 2 12 2 6 5 0 7 0 4 1 199 63 525 1 195 32",
      "3898 3 108 1 52582 15 17 13 976 0 227 0 4187 0 48069 45 3 22 545 2 18 7 3 6 31 3 798547",
      "239"])
  , (["inscriptionalpahlavi", "phli"],
      ["68448 18 6 7"])
  , (["inscriptionalparthian", "prti"],
      ["68416 21 3 7"])
  , (["javanese", "java"],
      ["43392 77 3 9 5 1"])
  , (["kaithi", "kthi"],
      ["69760 66 11 0"])
  , (["kannada", "knda"],
      ["3200 12 2 2 2 22 2 9 2 4 3 8 2 2 2 3 8 1 7 1 2 3 3 9 2 2"])
  , (["katakana", "kana"],
      ["12449 89 3 2 241 15 209 46 2 87 52239 9 2 44 45139 3 2 6 2 1 2 0 288 2 51 0 15 3"])
  , (["kawi"],
      ["73472 16 2 40 4 28"])
  , (["kayahli", "kali"],
      ["43264 45 2 0"])
  , (["kharoshthi", "khar"],
      ["68096 3 2 1 6 7 2 2 2 28 3 2 5 9 8 8"])
  , (["khitansmallscript", "kits"],
      ["94180 0 6940 469 42 0"])
  , (["khmer", "khmr"],
      ["6016 93 3 9 7 9 487 31"])
  , (["khojki", "khoj"],
      ["70144 17 2 46"])
  , (["khudawadi", "sind"],
      ["70320 58 6 9"])
  , (["kiratrai", "krai"],
      ["93504 57"])
  , (["lao", "laoo"],
      ["3713 1 2 0 2 4 2 23 2 0 2 22 3 4 2 0 2 6 2 9 3 3"])
  , (["latin", "latn"],
      ["65 25 7 25 48 0 16 0 6 22 2 30 2 448 40 4 6684 37 7 48 6 3 6 12 2 69 66 255 370 0 14 0",
      "17 12 142 1 7 0 28 0 18 40 2776 31 31395 101 4 66 3 1 2 0 2 7 22 13 817 42 2 8 2 3",
      "20375 6 1051 25 7 25 2086 5 2 41 2 8 55110 30 7 5"])
  , (["lepcha", "lepc"],
      ["7168 55 4 14 4 2"])
  , (["limbu", "limb"],
      ["6400 30 2 11 5 11 5 0 4 11"])
  , (["lineara", "lina"],
      ["67072 310 10 21 11 7"])
  , (["linearb", "linb"],
      ["65536 11 2 25 2 18 2 1 2 14 3 13 35 122"])
  , (["lisu"],
      ["42192 47 31409 0"])
  , (["lycian", "lyci"],
      ["66176 28"])
  , (["lydian", "lydi"],
      ["67872 25 6 0"])
  , (["mahajani", "mahj"],
      ["69968 38"])
  , (["makasar", "maka"],
      ["73440 24"])
  , (["malayalam", "mlym"],
      ["3328 12 2 2 2 50 2 2 2 5 5 15 3 25"])
  , (["mandaic", "mand"],
      ["2112 27 3 0"])
  , (["manichaean", "mani"],
      ["68288 38 5 11"])
  , (["marchen", "marc"],
      ["72816 31 3 21 2 13"])
  , (["masaramgondi", "gonm"],
      ["72960 6 2 1 2 43 4 0 2 1 2 8 9 9"])
  , (["medefaidrin", "medf"],
      ["93760 90"])
  , (["meeteimayek", "mtei"],
      ["43744 22 202 45 3 9"])
  , (["mendekikakui", "mend"],
      ["124928 196 3 15"])
  , (["meroiticcursive", "merc"],
      ["68000 23 5 19 3 45"])
  , (["meroitichieroglyphs", "mero"],
      ["67968 31"])
  , (["miao", "plrd"],
      ["93952 74 5 56 8 16"])
  , (["modi"],
      ["71168 68 12 9"])
  , (["mongolian", "mong"],
      ["6144 1 3 0 2 19 7 88 8 42 64950 12"])
  , (["mro", "mroo"],
      ["92736 30 2 9 5 1"])
  , (["multani", "mult"],
      ["70272 6 2 0 2 3 2 14 2 10"])
  , (["myanmar", "mymr"],
      ["4096 159 39233 30 98 31 27729 19"])
  , (["nabataean", "nbat"],
      ["67712 30 9 8"])
  , (["nagmundari", "nagm"],
      ["124112 41"])
  , (["nandinagari", "nand"],
      ["72096 7 3 45 3 10"])
  , (["newtailue", "talu"],
      ["6528 43 5 25 7 10 4 1"])
  , (["newa"],
      ["70656 91 2 4"])
  , (["nko", "nkoo"],
      ["1984 58 3 2"])
  , (["nushu", "nshu"],
      ["94177 0 16783 395"])
  , (["nyiakengpuachuehmong", "hmnp"],
      ["123136 44 4 13 3 9 5 1"])
  , (["ogham", "ogam"],
      ["5760 28"])
  , (["olchiki", "olck"],
      ["7248 47"])
  , (["olonal", "onao"],
      ["124368 42 5 0"])
  , (["oldhungarian", "hung"],
      ["68736 50 14 50 8 5"])
  , (["olditalic", "ital"],
      ["66304 35 10 2"])
  , (["oldnortharabian", "narb"],
      ["68224 31"])
  , (["oldpermic", "perm"],
      ["66384 42"])
  , (["oldpersian", "xpeo"],
      ["66464 35 5 13"])
  , (["oldsogdian", "sogo"],
      ["69376 39"])
  , (["oldsoutharabian", "sarb"],
      ["68192 31"])
  , (["oldturkic", "orkh"],
      ["68608 72"])
  , (["olduyghur", "ougr"],
      ["69488 25"])
  , (["oriya", "orya"],
      ["2817 2 2 7 3 1 3 21 2 6 2 1 2 4 3 8 3 1 3 2 8 2 5 1 2 4 3 17"])
  , (["osage", "osge"],
      ["66736 35 5 35"])
  , (["osmanya", "osma"],
      ["66688 29 3 9"])
  , (["pahawhhmong", "hmng"],
      ["92928 69 11 9 2 6 2 20 6 18"])
  , (["palmyrene", "palm"],
      ["67680 31"])
  , (["paucinhau", "pauc"],
      ["72384 56"])
  , (["phagspa", "phag"],
      ["43072 55"])
  , (["phoenician", "phnx"],
      ["67840 27 4 0"])
  , (["psalterpahlavi", "phlp"],
      ["68480 17 8 3 13 6"])
  , (["rejang", "rjng"],
      ["43312 35 12 0"])
  , (["runic", "runr"],
      ["5792 74 4 10"])
  , (["samaritan", "samr"],
      ["2048 45 3 14"])
  , (["saurashtra", "saur"],
      ["43136 69 9 11"])
  , (["sharada", "shrd"],
      ["70016 95"])
  , (["shavian", "shaw"],
      ["66640 47"])
  , (["siddham", "sidd"],
      ["71040 53 3 37"])
  , (["signwriting", "sgnw"],
      ["120832 651 16 4 2 14"])
  , (["sinhala", "sinh"],
      ["3457 2 2 17 4 23 2 8 2 0 3 6 4 0 5 5 2 0 2 7 7 9 3 2 66541 19"])
  , (["sogdian", "sogd"],
      ["69424 41"])
  , (["sorasompeng", "sora"],
      ["69840 24 8 9"])
  , (["soyombo", "soyo"],
      ["72272 82"])
  , (["sundanese", "sund"],
      ["7040 63 257 7"])
  , (["sunuwar", "sunu"],
      ["72640 33 15 9"])
  , (["sylotinagri", "sylo"],
      ["43008 44"])
  , (["syriac", "syrc"],
      ["1792 13 2 59 3 2 273 10"])
  , (["tagalog", "tglg"],
      ["5888 21 10 0"])
  , (["tagbanwa", "tagb"],
      ["5984 12 2 2 2 1"])
  , (["taile", "tale"],
      ["6480 29 3 4"])
  , (["taitham", "lana"],
      ["6688 62 2 28 3 10 7 9 7 13"])
  , (["taiviet", "tavt"],
      ["43648 66 25 4"])
  , (["takri", "takr"],
      ["71296 57 7 9"])
  , (["tamil", "taml"],
      ["2946 1 2 5 4 2 2 3 4 1 2 0 2 1 4 1 4 2 4 11 5 4 4 2 2 3 3 0 7 0 15 20 70598 49 14 0"])
  , (["tangsa", "tnsa"],
      ["92784 78 2 9"])
  , (["tangut", "tang"],
      ["94176 0 32 6135 9 767 513 8"])
  , (["telugu", "telu"],
      ["3072 12 2 2 2 22 2 15 3 8 2 2 2 3 8 1 2 2 3 0 3 3 3 9 8 8"])
  , (["thaana", "thaa"],
      ["1920 49"])
  , (["thai"],
      ["3585 57 6 27"])
  , (["tibetan", "tibt"],
      ["3840 71 2 35 5 38 2 35 2 14 2 6 5 1"])
  , (["tifinagh", "tfng"],
      ["11568 55 8 1 15 0"])
  , (["tirhuta", "tirh"],
      ["70784 71 9 9"])
  , (["todhri", "todr"],
      ["67008 51"])
  , (["toto"],
      ["123536 30"])
  , (["tulutigalari", "tutg"],
      ["70528 9 2 0 3 0 2 37 2 9 2 0 3 0 2 3 2 9 2 1 9 1"])
  , (["ugaritic", "ugar"],
      ["66432 29 2 0"])
  , (["vai", "vaii"],
      ["42240 299"])
  , (["vithkuqi", "vith"],
      ["66928 10 2 14 2 6 2 1 2 10 2 14 2 6 2 1"])
  , (["wancho", "wcho"],
      ["123584 57 6 0"])
  , (["warangciti", "wara"],
      ["71840 82 13 0"])
  , (["yezidi", "yezi"],
      ["69248 41 2 2 3 1"])
  , (["yi", "yiii"],
      ["40960 1164 4 54"])
  , (["zanabazarsquare", "zanb"],
      ["72192 71"]) ]

end Catalog.Unicode

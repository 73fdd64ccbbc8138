import Settlement.Unicode.CharSet

/-!
# Scripts

The characters of every script, by its long and short names: spelled in lower case and without
separators.
-/

namespace Settlement.Unicode

/-- The characters that belong to each script. -/
def scripts : List NamedSet :=
  [ ⟨["adlam", "adlm"],
      "1e900 4c 4 a 4 2"⟩,
    ⟨["ahom"],
      "11700 1b 2 f 4 17"⟩,
    ⟨["anatolianhieroglyphs", "hluw"],
      "14400 247"⟩,
    ⟨["arabic", "arab"],
      "600 5 1 6 1 e 1 3 1 20 1 a b 1a 1 6c 1 22 50 30 f0 22 5 4b 1 1d f250 1ee 2 90 20 10 70 5
       1 87 f63 1f 43 6 8 9 21 6 df00 4 1 1b 1 2 1 1 2 1 1 a 1 4 1 1 1 1 6 1 4 1 1 1 1 1 1 3 1 2
       1 1 2 1 1 1 1 1 1 1 1 1 1 2 1 1 2 4 1 7 1 4 1 4 1 1 1 a 1 11 5 3 1 5 1 11 34 2"⟩,
    ⟨["armenian", "armn"],
      "531 26 2 32 2 3 f583 5"⟩,
    ⟨["avestan", "avst"],
      "10b00 36 3 7"⟩,
    ⟨["balinese", "bali"],
      "1b00 4d 1 32"⟩,
    ⟨["bamum", "bamu"],
      "a6a0 58 c108 239"⟩,
    ⟨["bassavah", "bass"],
      "16ad0 1e 2 6"⟩,
    ⟨["batak", "batk"],
      "1bc0 34 8 4"⟩,
    ⟨["bengali", "beng"],
      "980 4 1 8 2 2 2 16 1 7 1 1 3 4 2 9 2 2 2 4 8 1 4 2 1 5 2 19"⟩,
    ⟨["beriaerfe", "berf"],
      "16ea0 19 2 19"⟩,
    ⟨["bhaiksuki", "bhks"],
      "11c00 9 1 2d 1 e a 1d"⟩,
    ⟨["bopomofo", "bopo"],
      "2ea 2 2e19 2b 70 20"⟩,
    ⟨["brahmi", "brah"],
      "11000 4e 4 24 9 1"⟩,
    ⟨["braille", "brai"],
      "2800 100"⟩,
    ⟨["buginese", "bugi"],
      "1a00 1c 2 2"⟩,
    ⟨["buhid", "buhd"],
      "1740 14"⟩,
    ⟨["canadianaboriginal", "cans"],
      "1400 280 230 46 101ba 10"⟩,
    ⟨["carian", "cari"],
      "102a0 31"⟩,
    ⟨["caucasianalbanian", "aghb"],
      "10530 34 b 1"⟩,
    ⟨["chakma", "cakm"],
      "11100 35 1 12"⟩,
    ⟨["cham"],
      "aa00 37 9 e 2 a 2 4"⟩,
    ⟨["cherokee", "cher"],
      "13a0 56 2 6 9772 50"⟩,
    ⟨["chorasmian", "chrs"],
      "10fb0 1c"⟩,
    ⟨["common", "zyyy"],
      "0 41 1a 6 1a 2f 1 f 1 5 17 1 1f 1 1c1 27 5 5 2 14 74 1 9 1 6 1 1 1 27d 1 6 1 e 1 3 1 20 1
       9c 1 204 1 81 2 4d9 1 195 4 122 1 5ef 3 47 2 cb 2 1 1 4cd 1 d 1 7 4 1 6 1 3 2 1 305 c 2
       57 1 b 3 b 1 f 11 22 3e 26 1 3 2 6 1 1b 1 11 29 3 4 29a 16 b 15 3a0 100 274 2 8a 200 5e
       192 15 1 1 1 19 f 8 4 4 5b 2 3 1 5a 2 93 10 20 26 9 1 30 40 1f 51 2f 1 58 a8 19c0 40 5900
       22 66 3 a5 a f4 1 a0 1 18b 1 e 2 51d2 2 d0 a 16 23 1 13 1 4 93 1 1 20 1a 6 1a b a 1 2d 2
       40 7 1 7 a 5 102 3 4 2d 3 9 50 d 33 2d e4 1b b9a4 4 f5c fd 3 1b4 6 17 f 11 5f 74 3c f6 a
       27 2 3e 3 11 8 2 7 1e 4 3d d5 14 c 14 c 57 9 19 87 55 1 47 1 2 2 1 2 2 2 4 1 c 1 1 1 7 1
       41 1 4 2 8 1 7 1 1c 1 4 1 5 1 1 3 7 1 154 2 124 2 32 1471 44 4c 3d 2c2 2c 4 64 c f 2 f 1
       f 1 25 a ae 38 1a 1 2 d 2c 4 9 7 2 e 6 9a 3d9 3 11 3 d 3 da 6 c 4 1 f c 4 38 8 a 6 28 8
       1e 2 c 4 2 e 9 27 158 8 e 2 d 3 b 3 39 1 1 4 10 2 c 4 a 7 93 1 67 c0406 1 1e 60"⟩,
    ⟨["coptic", "copt", "qaac"],
      "3e2 e 2890 74 5 7"⟩,
    ⟨["cuneiform", "xsux"],
      "12000 39a 66 6f 1 5 b c4"⟩,
    ⟨["cypriot", "cprt"],
      "10800 6 2 1 1 2c 1 2 3 1 2 1"⟩,
    ⟨["cyprominoan", "cpmn"],
      "12f90 63"⟩,
    ⟨["cyrillic", "cyrl"],
      "400 85 2 a9 1750 b a0 1 4c 1 1067 20 7840 60 578e 2 e200 3e 21 1"⟩,
    ⟨["deseret", "dsrt"],
      "10400 50"⟩,
    ⟨["devanagari", "deva"],
      "900 51 4 f 2 1a 9f60 20 7200 a"⟩,
    ⟨["divesakuru", "diak"],
      "11900 7 2 1 2 8 1 2 1 1e 1 2 2 c 9 a"⟩,
    ⟨["dogra", "dogr"],
      "11800 3c"⟩,
    ⟨["duployan", "dupl"],
      "1bc00 6b 5 d 3 9 7 a 2 4"⟩,
    ⟨["egyptianhieroglyphs", "egyp"],
      "13000 456 a f9b"⟩,
    ⟨["elbasan", "elba"],
      "10500 28"⟩,
    ⟨["elymaic", "elym"],
      "10fe0 17"⟩,
    ⟨["ethiopic", "ethi"],
      "1200 49 1 4 2 7 1 1 1 4 2 29 1 4 2 21 1 4 2 7 1 1 1 4 2 f 1 39 1 4 2 43 2 20 3 1a 19e6 17
       9 7 1 7 1 7 1 7 1 7 1 7 1 7 1 7 7d22 6 2 6 2 6 9 7 1 7 13cb1 7 1 4 1 2 1 f"⟩,
    ⟨["garay", "gara"],
      "10d40 26 3 1d 8 2"⟩,
    ⟨["georgian", "geor"],
      "10a0 26 1 1 5 1 2 2b 1 4 b90 2b 2 3 1040 26 1 1 5 1"⟩,
    ⟨["glagolitic", "glag"],
      "2c00 60 1b3a0 7 1 11 2 7 1 2 1 5"⟩,
    ⟨["gothic", "goth"],
      "10330 1b"⟩,
    ⟨["grantha", "gran"],
      "11300 4 1 8 2 2 2 16 1 7 1 2 1 5 2 9 2 2 2 3 2 1 6 1 5 7 2 7 3 5"⟩,
    ⟨["greek", "grek"],
      "370 4 1 3 2 4 1 1 4 1 1 1 1 3 1 1 1 14 1 3f e 10 1926 5 32 5 4 5 54 1 140 16 2 6 2 26 2 6
       2 8 1 1 1 1 1 1 1 1f 2 35 1 f 1 e 2 6 1 13 2 3 1 9 127 1 8a3e 1 55da 4f 11 1 d05f 46"⟩,
    ⟨["gujarati", "gujr"],
      "a81 3 1 9 1 3 1 16 1 7 1 2 1 5 2 a 1 3 1 3 2 1 f 4 2 c 7 7"⟩,
    ⟨["gunjalagondi", "gong"],
      "11d60 6 1 2 1 25 1 2 1 6 7 a"⟩,
    ⟨["gurmukhi", "guru"],
      "a01 3 1 6 4 2 2 16 1 7 1 2 1 2 1 2 2 1 1 5 4 2 2 3 3 1 7 4 1 1 7 11"⟩,
    ⟨["gurungkhema", "gukh"],
      "16100 3a"⟩,
    ⟨["han", "hani"],
      "2e80 1a 1 59 c d6 2f 1 1 1 19 9 e 4 3c4 19c0 40 5200 5900 16e 2 6a 7508 2 c 7 9009 a6e0
       20 111e 2 168e 2 1d31 f 26e 9a2 21e 5e2 134b 5 212a"⟩,
    ⟨["hangul", "hang"],
      "1100 100 1e2e 2 101 5e 71 1f 41 1f 76e1 1d 283 2ba4 c 17 4 31 27a4 1f 3 6 2 6 2 6 2 3"⟩,
    ⟨["hanifirohingya", "rohg"],
      "10d00 28 8 a"⟩,
    ⟨["hanunoo", "hano"],
      "1720 15"⟩,
    ⟨["hatran", "hatr"],
      "108e0 13 1 2 5 5"⟩,
    ⟨["hebrew", "hebr"],
      "591 37 8 1b 4 6 f528 1a 1 5 1 1 1 2 1 2 1 a"⟩,
    ⟨["hiragana", "hira"],
      "3041 56 6 3 17f61 11f 12 1 1d 3 40ad 1"⟩,
    ⟨["imperialaramaic", "armi"],
      "10840 16 1 9"⟩,
    ⟨["inherited", "zinh", "qaai"],
      "300 70 115 2 1c4 b 1a 1 2e0 4 115b 2e 2 c 1e4 3 1 d 1 7 4 1 6 1 3 2 c6 40 20c 2 c2 21 f39
       4 6b 2 cd65 10 10 e 3cf 1 e2 1 105a 1 bbc4 2e 2 17 220 3 11 8 2 7 1e 4 c2f52 f0"⟩,
    ⟨["inscriptionalpahlavi", "phli"],
      "10b60 13 5 8"⟩,
    ⟨["inscriptionalparthian", "prti"],
      "10b40 16 2 8"⟩,
    ⟨["javanese", "java"],
      "a980 4e 2 a 4 2"⟩,
    ⟨["kaithi", "kthi"],
      "11080 43 a 1"⟩,
    ⟨["kannada", "knda"],
      "c80 d 1 3 1 17 1 a 1 5 2 9 1 3 1 4 7 2 5 3 1 4 2 a 1 3"⟩,
    ⟨["katakana", "kana"],
      "30a1 5a 2 3 f0 10 d0 2f 1 58 cc0e a 1 2d b052 4 1 7 1 2 1 1 11f 3 32 1 e 4"⟩,
    ⟨["kawi"],
      "11f00 11 1 29 3 1d"⟩,
    ⟨["kayahli", "kali"],
      "a900 2e 1 1"⟩,
    ⟨["kharoshthi", "khar"],
      "10a00 4 1 2 5 8 1 3 1 1d 2 3 4 a 7 9"⟩,
    ⟨["khitansmallscript", "kits"],
      "16fe4 1 1b1b 1d6 29 1"⟩,
    ⟨["khmer", "khmr"],
      "1780 5e 2 a 6 a 1e6 20"⟩,
    ⟨["khojki", "khoj"],
      "11200 12 1 2f"⟩,
    ⟨["khudawadi", "sind"],
      "112b0 3b 5 a"⟩,
    ⟨["kiratrai", "krai"],
      "16d40 3a"⟩,
    ⟨["lao", "laoo"],
      "e81 2 1 1 1 5 1 18 1 1 1 17 2 5 1 1 1 7 1 a 2 4"⟩,
    ⟨["latin", "latn"],
      "41 1a 6 1a 2f 1 f 1 5 17 1 1f 1 1c1 27 5 1a1b 26 6 31 5 4 5 d 1 46 41 100 171 1 d 1 10 d
       8d 2 6 1 1b 1 11 29 ad7 20 7aa2 66 3 52 14 f 330 2b 1 9 1 4 4f96 7 41a 1a 6 1a 825 6 1 2a
       1 9 d745 1f 6 6"⟩,
    ⟨["lepcha", "lepc"],
      "1c00 38 3 f 3 3"⟩,
    ⟨["limbu", "limb"],
      "1900 1f 1 c 4 c 4 1 3 c"⟩,
    ⟨["lineara", "lina"],
      "10600 137 9 16 a 8"⟩,
    ⟨["linearb", "linb"],
      "10000 c 1 1a 1 13 1 2 1 f 2 e 22 7b"⟩,
    ⟨["lisu"],
      "a4d0 30 7ab0 1"⟩,
    ⟨["lycian", "lyci"],
      "10280 1d"⟩,
    ⟨["lydian", "lydi"],
      "10920 1a 5 1"⟩,
    ⟨["mahajani", "mahj"],
      "11150 27"⟩,
    ⟨["makasar", "maka"],
      "11ee0 19"⟩,
    ⟨["malayalam", "mlym"],
      "d00 d 1 3 1 33 1 3 1 6 4 10 2 1a"⟩,
    ⟨["mandaic", "mand"],
      "840 1c 2 1"⟩,
    ⟨["manichaean", "mani"],
      "10ac0 27 4 c"⟩,
    ⟨["marchen", "marc"],
      "11c70 20 2 16 1 e"⟩,
    ⟨["masaramgondi", "gonm"],
      "11d00 7 1 2 1 2c 3 1 1 2 1 9 8 a"⟩,
    ⟨["medefaidrin", "medf"],
      "16e40 5b"⟩,
    ⟨["meeteimayek", "mtei"],
      "aae0 17 c9 2e 2 a"⟩,
    ⟨["mendekikakui", "mend"],
      "1e800 c5 2 10"⟩,
    ⟨["meroiticcursive", "merc"],
      "109a0 18 4 14 2 2e"⟩,
    ⟨["meroitichieroglyphs", "mero"],
      "10980 20"⟩,
    ⟨["miao", "plrd"],
      "16f00 4b 4 39 7 11"⟩,
    ⟨["modi"],
      "11600 45 b a"⟩,
    ⟨["mongolian", "mong"],
      "1800 2 2 1 1 14 6 59 7 2b fdb5 d"⟩,
    ⟨["mro", "mroo"],
      "16a40 1f 1 a 4 2"⟩,
    ⟨["multani", "mult"],
      "11280 7 1 1 1 4 1 f 1 b"⟩,
    ⟨["myanmar", "mymr"],
      "1000 a0 9940 1f 61 20 6c50 14"⟩,
    ⟨["nabataean", "nbat"],
      "10880 1f 8 9"⟩,
    ⟨["nagmundari", "nagm"],
      "1e4d0 2a"⟩,
    ⟨["nandinagari", "nand"],
      "119a0 8 2 2e 2 b"⟩,
    ⟨["newtailue", "talu"],
      "1980 2c 4 1a 6 b 3 2"⟩,
    ⟨["newa"],
      "11400 5c 1 5"⟩,
    ⟨["nko", "nkoo"],
      "7c0 3b 2 3"⟩,
    ⟨["nushu", "nshu"],
      "16fe1 1 418e 18c"⟩,
    ⟨["nyiakengpuachuehmong", "hmnp"],
      "1e100 2d 3 e 2 a 4 2"⟩,
    ⟨["ogham", "ogam"],
      "1680 1d"⟩,
    ⟨["olchiki", "olck"],
      "1c50 30"⟩,
    ⟨["olonal", "onao"],
      "1e5d0 2b 4 1"⟩,
    ⟨["oldhungarian", "hung"],
      "10c80 33 d 33 7 6"⟩,
    ⟨["olditalic", "ital"],
      "10300 24 9 3"⟩,
    ⟨["oldnortharabian", "narb"],
      "10a80 20"⟩,
    ⟨["oldpermic", "perm"],
      "10350 2b"⟩,
    ⟨["oldpersian", "xpeo"],
      "103a0 24 4 e"⟩,
    ⟨["oldsogdian", "sogo"],
      "10f00 28"⟩,
    ⟨["oldsoutharabian", "sarb"],
      "10a60 20"⟩,
    ⟨["oldturkic", "orkh"],
      "10c00 49"⟩,
    ⟨["olduyghur", "ougr"],
      "10f70 1a"⟩,
    ⟨["oriya", "orya"],
      "b01 3 1 8 2 2 2 16 1 7 1 2 1 5 2 9 2 2 2 3 7 3 4 2 1 5 2 12"⟩,
    ⟨["osage", "osge"],
      "104b0 24 4 24"⟩,
    ⟨["osmanya", "osma"],
      "10480 1e 2 a"⟩,
    ⟨["pahawhhmong", "hmng"],
      "16b00 46 a a 1 7 1 15 5 13"⟩,
    ⟨["palmyrene", "palm"],
      "10860 20"⟩,
    ⟨["paucinhau", "pauc"],
      "11ac0 39"⟩,
    ⟨["phagspa", "phag"],
      "a840 38"⟩,
    ⟨["phoenician", "phnx"],
      "10900 1c 3 1"⟩,
    ⟨["psalterpahlavi", "phlp"],
      "10b80 12 7 4 c 7"⟩,
    ⟨["rejang", "rjng"],
      "a930 24 b 1"⟩,
    ⟨["runic", "runr"],
      "16a0 4b 3 b"⟩,
    ⟨["samaritan", "samr"],
      "800 2e 2 f"⟩,
    ⟨["saurashtra", "saur"],
      "a880 46 8 c"⟩,
    ⟨["sharada", "shrd"],
      "11180 60 980 8"⟩,
    ⟨["shavian", "shaw"],
      "10450 30"⟩,
    ⟨["siddham", "sidd"],
      "11580 36 2 26"⟩,
    ⟨["sidetic", "sidt"],
      "10940 1a"⟩,
    ⟨["signwriting", "sgnw"],
      "1d800 28c f 5 1 f"⟩,
    ⟨["sinhala", "sinh"],
      "d81 3 1 12 3 18 1 9 1 1 2 7 3 1 4 6 1 1 1 8 6 a 2 3 103ec 14"⟩,
    ⟨["sogdian", "sogd"],
      "10f30 2a"⟩,
    ⟨["sorasompeng", "sora"],
      "110d0 19 7 a"⟩,
    ⟨["soyombo", "soyo"],
      "11a50 53"⟩,
    ⟨["sundanese", "sund"],
      "1b80 40 100 8"⟩,
    ⟨["sunuwar", "sunu"],
      "11bc0 22 e a"⟩,
    ⟨["sylotinagri", "sylo"],
      "a800 2d"⟩,
    ⟨["syriac", "syrc"],
      "700 e 1 3c 2 3 110 b"⟩,
    ⟨["tagalog", "tglg"],
      "1700 16 9 1"⟩,
    ⟨["tagbanwa", "tagb"],
      "1760 d 1 3 1 2"⟩,
    ⟨["taile", "tale"],
      "1950 1e 2 5"⟩,
    ⟨["taitham", "lana"],
      "1a20 3f 1 1d 2 b 6 a 6 e"⟩,
    ⟨["taiviet", "tavt"],
      "aa80 43 18 5"⟩,
    ⟨["taiyo", "tayo"],
      "1e6c0 1f 1 16 8 2"⟩,
    ⟨["takri", "takr"],
      "11680 3a 6 a"⟩,
    ⟨["tamil", "taml"],
      "b82 2 1 6 3 3 1 4 3 2 1 1 1 2 3 2 3 3 3 c 4 5 3 3 1 4 2 1 6 1 e 15 113c5 32 d 1"⟩,
    ⟨["tangsa", "tnsa"],
      "16a70 4f 1 a"⟩,
    ⟨["tangut", "tang"],
      "16fe0 1 1f 1b00 200 1f 61 73"⟩,
    ⟨["telugu", "telu"],
      "c00 d 1 3 1 17 1 10 2 9 1 3 1 4 7 2 1 3 1 2 2 4 2 a 7 9"⟩,
    ⟨["thaana", "thaa"],
      "780 32"⟩,
    ⟨["thai"],
      "e01 3a 5 1c"⟩,
    ⟨["tibetan", "tibt"],
      "f00 48 1 24 4 27 1 24 1 f 1 7 4 2"⟩,
    ⟨["tifinagh", "tfng"],
      "2d30 38 7 2 e 1"⟩,
    ⟨["tirhuta", "tirh"],
      "11480 48 8 a"⟩,
    ⟨["todhri", "todr"],
      "105c0 34"⟩,
    ⟨["tolongsiki", "tols"],
      "11db0 2c 4 a"⟩,
    ⟨["toto"],
      "1e290 1f"⟩,
    ⟨["tulutigalari", "tutg"],
      "11380 a 1 1 2 1 1 26 1 a 1 1 2 1 1 4 1 a 1 2 8 2"⟩,
    ⟨["ugaritic", "ugar"],
      "10380 1e 1 1"⟩,
    ⟨["unknown", "zzzz"],
      "378 2 6 4 7 1 1 1 14 1 18d 1 26 2 32 2 3 1 37 8 1b 4 6 b 10e 1 3c 2 65 e 3b 2 31 2 f 1 1c
       2 1 1 b 5 22 5 ed 1 8 2 2 2 16 1 7 1 1 3 4 2 9 2 2 2 4 8 1 4 2 1 5 2 19 2 3 1 6 4 2 2 16
       1 7 1 2 1 2 1 2 2 1 1 5 4 2 2 3 3 1 7 4 1 1 7 11 a 3 1 9 1 3 1 16 1 7 1 2 1 5 2 a 1 3 1 3
       2 1 f 4 2 c 7 7 1 3 1 8 2 2 2 16 1 7 1 2 1 5 2 9 2 2 2 3 7 3 4 2 1 5 2 12 a 2 1 6 3 3 1 4
       3 2 1 1 1 2 3 2 3 3 3 c 4 5 3 3 1 4 2 1 6 1 e 15 5 d 1 3 1 17 1 10 2 9 1 3 1 4 7 2 1 3 1
       2 2 4 2 a 7 16 1 3 1 17 1 a 1 5 2 9 1 3 1 4 7 2 5 3 1 4 2 a 1 3 c d 1 3 1 33 1 3 1 6 4 10
       2 1a 1 3 1 12 3 18 1 9 1 1 2 7 3 1 4 6 1 1 1 8 6 a 2 3 c 3a 4 1d 25 2 1 1 1 5 1 18 1 1 1
       17 2 5 1 1 1 7 1 a 2 4 20 48 1 24 4 27 1 24 1 f 1 d 25 c6 1 1 5 1 2 179 1 4 2 7 1 1 1 4 2
       29 1 4 2 21 1 4 2 7 1 1 1 4 2 f 1 39 1 4 2 43 2 20 3 1a 6 56 2 6 2 29d 3 59 7 16 9 18 9
       14 c d 1 3 1 2 c 5e 2 a 6 a 6 1a 6 59 7 2b 5 46 a 1f 1 c 4 c 4 1 3 2a 2 5 b 2c 4 1a 6 b 3
       3e 2 41 1 1d 2 b 6 a 6 e 2 2e 2 c 14 4d 1 a6 8 3c 3 f 3 3e 5 2b 2 b 8 2b 5 216 2 6 2 26 2
       6 2 8 1 1 1 1 1 1 1 1f 2 35 1 f 1 e 2 6 1 13 2 3 1 9 1 65 1 c 2 1b 1 d 3 22 e 21 f 8c 4
       29a 16 b 15 714 2 17e 5 2d 1 1 5 1 2 38 7 2 e 18 9 7 1 7 1 7 1 7 1 7 1 7 1 7 1 7 1 7e 22
       1a 1 59 c d6 1a 50 1 56 2 67 5 2b 1 5e 1 56 9 30 1 726d 3 37 9 15c 14 b8 8 dd 14 3c 3 a 6
       38 8 46 8 c 6 74 b 1e 3 4e 1 b 4 21 1 37 9 e 2 a 2 67 18 1c a 6 2 6 2 6 9 7 1 7 1 3c 4 7e
       2 a 6 2ba4 c 17 4 31 4 800 1900 16e 2 6a 26 7 c 5 5 1a 1 5 1 1 1 2 1 2 1 28a 20 2a 6 33 1
       13 1 4 4 5 1 87 2 1 1 be 3 6 2 6 2 6 2 3 3 7 1 7 a 5 2 c 1 1a 1 13 1 2 1 f 2 e 22 7b 5 3
       4 2d 3 58 1 d 3 1 2f 2e 82 1d 3 31 f 1c 4 24 9 1e 5 2b 5 1e 1 25 4 e 2a 9e 2 a 6 24 4 24
       4 28 8 34 b c 1 f 1 7 1 2 1 b 1 f 1 7 1 2 3 34 c 137 9 16 a 8 18 6 1 2a 1 9 45 6 2 1 1 2c
       1 2 3 1 2 17 1 48 8 9 30 13 1 2 5 21 3 1b 5 1b 26 38 4 14 2 32 1 2 5 8 1 3 1 1d 2 3 4 a 7
       9 7 40 20 27 4 c 9 36 3 1d 2 1b 5 1a 7 4 c 7 50 49 37 33 d 33 7 2e 8 a 6 26 3 1d 8 2 d0
       1f 1 2a 1 3 2 2 10 6 8 9 21 2e 8 2a 16 1a 26 1c 14 17 9 4e 4 24 9 44 a 1 2 19 7 a 6 35 1
       12 8 27 9 60 1 14 b 12 1 2f 3e 7 1 1 1 4 1 f 1 b 6 3b 5 a 6 4 1 8 2 2 2 16 1 7 1 2 1 5 1
       a 2 2 2 3 2 1 6 1 5 7 2 7 3 5 b a 1 1 2 1 1 26 1 a 1 1 2 1 1 4 1 a 1 2 8 2 1d 5c 1 5 1e
       48 8 a a6 36 2 26 22 45 b a 6 d 13 3a 6 a 6 14 1c 1b 2 f 4 17 b9 3c 64 53 c 8 2 1 2 8 1 2
       1 1e 1 2 2 c 9 a 46 8 2 2e 2 b 1b 48 8 53 d 49 7 a 56 8 58 22 e a 6 9 1 2d 1 e a 1d 3 20
       2 16 1 e 49 7 1 2 1 2c 3 1 1 2 1 9 8 a 6 6 1 2 1 25 1 2 1 6 7 a 6 2c 4 a f6 19 7 11 1 29
       3 1d 55 1 f 32 d 39b 66 6f 1 5 b c4 a4c 63 d 456 a f9b 5 247 1ab9 3a 6c6 239 7 1f 1 a 4
       51 1 a 6 1e 2 6 a 46 a a 1 7 1 15 5 13 1b0 3a c6 5b 5 19 2 19 2c 4b 4 39 7 11 40 5 b 7 9
       1cd6 29 20 61 73 21fd 4 1 7 1 2 1 123 f 1 1d 3 2 1 e 4 8 18c 904 6b 5 d 3 9 7 a 2 8 f5c
       fd 3 1b4 6 17 f 11 f 2e 2 17 9 74 3c f6 a 27 2 c2 15 46 7a 14 c 14 c 57 9 19 87 55 1 47 1
       2 2 1 2 2 2 4 1 c 1 1 1 7 1 41 1 4 2 8 1 7 1 1c 1 4 1 5 1 1 3 7 1 154 2 124 2 2be f 5 1 f
       450 1f 6 6 d5 7 1 11 2 7 1 2 1 5 5 3e 21 1 70 2d 3 e 2 a 4 2 140 1f 11 3a 5 1 1d0 2a d6
       2b 4 1 c0 1f 1 16 8 2 e0 7 1 4 1 2 1 f 1 c5 2 10 29 4c 4 a 4 2 311 44 4c 3d c2 4 1 1b 1 2
       1 1 2 1 1 a 1 4 1 1 1 1 6 1 4 1 1 1 1 1 1 3 1 2 1 1 2 1 1 1 1 1 1 1 1 1 1 2 1 1 2 4 1 7 1
       4 1 4 1 1 1 a 1 11 5 3 1 5 1 11 34 2 10e 2c 4 64 c f 2 f 1 f 1 25 a ae 38 1d d 2c 4 9 7 2
       e 6 9a 3d9 3 11 3 d 3 da 6 c 4 1 f c 4 38 8 a 6 28 8 1e 2 c 4 2 e 9 27 158 8 e 2 d 3 b 3
       39 1 1 4 10 2 c 4 a 7 93 1 67 405 a6e0 20 111e 2 168e 2 1d31 f 26e 9a2 21e 5e2 134b 5
       212a acb87 1 1e 60 80 f0 2fe10"⟩,
    ⟨["vai", "vaii"],
      "a500 12c"⟩,
    ⟨["vithkuqi", "vith"],
      "10570 b 1 f 1 7 1 2 1 b 1 f 1 7 1 2"⟩,
    ⟨["wancho", "wcho"],
      "1e2c0 3a 5 1"⟩,
    ⟨["warangciti", "wara"],
      "118a0 53 c 1"⟩,
    ⟨["yezidi", "yezi"],
      "10e80 2a 1 3 2 2"⟩,
    ⟨["yi", "yiii"],
      "a000 48d 3 37"⟩,
    ⟨["zanabazarsquare", "zanb"],
      "11a00 48"⟩ ]

end Settlement.Unicode

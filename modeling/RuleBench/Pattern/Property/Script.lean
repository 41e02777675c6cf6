import RuleBench.Text.CodeSet

set_option autoImplicit false

/-!
# Scripts

The code points of each script, under its four-letter code.
-/

namespace RuleBench.Pattern

/-- The names of each script, without blanks, hyphens and capitals. -/
def scriptNames : List (String × List String) :=
  [("Adlm", ["adlm", "adlam"]),
   ("Aghb", ["aghb", "caucasianalbanian"]),
   ("Ahom", ["ahom"]),
   ("Arab", ["arab", "arabic"]),
   ("Armi", ["armi", "imperialaramaic"]),
   ("Armn", ["armn", "armenian"]),
   ("Avst", ["avst", "avestan"]),
   ("Bali", ["bali", "balinese"]),
   ("Bamu", ["bamu", "bamum"]),
   ("Bass", ["bass", "bassavah"]),
   ("Batk", ["batk", "batak"]),
   ("Beng", ["beng", "bengali"]),
   ("Bhks", ["bhks", "bhaiksuki"]),
   ("Bopo", ["bopo", "bopomofo"]),
   ("Brah", ["brah", "brahmi"]),
   ("Brai", ["brai", "braille"]),
   ("Bugi", ["bugi", "buginese"]),
   ("Buhd", ["buhd", "buhid"]),
   ("Cakm", ["cakm", "chakma"]),
   ("Cans", ["cans", "canadianaboriginal"]),
   ("Cari", ["cari", "carian"]),
   ("Cham", ["cham"]),
   ("Cher", ["cher", "cherokee"]),
   ("Chrs", ["chrs", "chorasmian"]),
   ("Copt", ["copt", "coptic", "qaac"]),
   ("Cpmn", ["cpmn", "cyprominoan"]),
   ("Cprt", ["cprt", "cypriot"]),
   ("Cyrl", ["cyrl", "cyrillic"]),
   ("Deva", ["deva", "devanagari"]),
   ("Diak", ["diak", "divesakuru"]),
   ("Dogr", ["dogr", "dogra"]),
   ("Dsrt", ["dsrt", "deseret"]),
   ("Dupl", ["dupl", "duployan"]),
   ("Egyp", ["egyp", "egyptianhieroglyphs"]),
   ("Elba", ["elba", "elbasan"]),
   ("Elym", ["elym", "elymaic"]),
   ("Ethi", ["ethi", "ethiopic"]),
   ("Gara", ["gara", "garay"]),
   ("Geor", ["geor", "georgian"]),
   ("Glag", ["glag", "glagolitic"]),
   ("Gong", ["gong", "gunjalagondi"]),
   ("Gonm", ["gonm", "masaramgondi"]),
   ("Goth", ["goth", "gothic"]),
   ("Gran", ["gran", "grantha"]),
   ("Grek", ["grek", "greek"]),
   ("Gujr", ["gujr", "gujarati"]),
   ("Gukh", ["gukh", "gurungkhema"]),
   ("Guru", ["guru", "gurmukhi"]),
   ("Hang", ["hang", "hangul"]),
   ("Hani", ["hani", "han"]),
   ("Hano", ["hano", "hanunoo"]),
   ("Hatr", ["hatr", "hatran"]),
   ("Hebr", ["hebr", "hebrew"]),
   ("Hira", ["hira", "hiragana"]),
   ("Hluw", ["hluw", "anatolianhieroglyphs"]),
   ("Hmng", ["hmng", "pahawhhmong"]),
   ("Hmnp", ["hmnp", "nyiakengpuachuehmong"]),
   ("Hung", ["hung", "oldhungarian"]),
   ("Ital", ["ital", "olditalic"]),
   ("Java", ["java", "javanese"]),
   ("Kali", ["kali", "kayahli"]),
   ("Kana", ["kana", "katakana"]),
   ("Kawi", ["kawi"]),
   ("Khar", ["khar", "kharoshthi"]),
   ("Khmr", ["khmr", "khmer"]),
   ("Khoj", ["khoj", "khojki"]),
   ("Kits", ["kits", "khitansmallscript"]),
   ("Knda", ["knda", "kannada"]),
   ("Krai", ["krai", "kiratrai"]),
   ("Kthi", ["kthi", "kaithi"]),
   ("Lana", ["lana", "taitham"]),
   ("Laoo", ["laoo", "lao"]),
   ("Latn", ["latn", "latin"]),
   ("Lepc", ["lepc", "lepcha"]),
   ("Limb", ["limb", "limbu"]),
   ("Lina", ["lina", "lineara"]),
   ("Linb", ["linb", "linearb"]),
   ("Lisu", ["lisu"]),
   ("Lyci", ["lyci", "lycian"]),
   ("Lydi", ["lydi", "lydian"]),
   ("Mahj", ["mahj", "mahajani"]),
   ("Maka", ["maka", "makasar"]),
   ("Mand", ["mand", "mandaic"]),
   ("Mani", ["mani", "manichaean"]),
   ("Marc", ["marc", "marchen"]),
   ("Medf", ["medf", "medefaidrin"]),
   ("Mend", ["mend", "mendekikakui"]),
   ("Merc", ["merc", "meroiticcursive"]),
   ("Mero", ["mero", "meroitichieroglyphs"]),
   ("Mlym", ["mlym", "malayalam"]),
   ("Modi", ["modi"]),
   ("Mong", ["mong", "mongolian"]),
   ("Mroo", ["mroo", "mro"]),
   ("Mtei", ["mtei", "meeteimayek"]),
   ("Mult", ["mult", "multani"]),
   ("Mymr", ["mymr", "myanmar"]),
   ("Nagm", ["nagm", "nagmundari"]),
   ("Nand", ["nand", "nandinagari"]),
   ("Narb", ["narb", "oldnortharabian"]),
   ("Nbat", ["nbat", "nabataean"]),
   ("Newa", ["newa"]),
   ("Nkoo", ["nkoo", "nko"]),
   ("Nshu", ["nshu", "nushu"]),
   ("Ogam", ["ogam", "ogham"]),
   ("Olck", ["olck", "olchiki"]),
   ("Onao", ["onao", "olonal"]),
   ("Orkh", ["orkh", "oldturkic"]),
   ("Orya", ["orya", "oriya"]),
   ("Osge", ["osge", "osage"]),
   ("Osma", ["osma", "osmanya"]),
   ("Ougr", ["ougr", "olduyghur"]),
   ("Palm", ["palm", "palmyrene"]),
   ("Pauc", ["pauc", "paucinhau"]),
   ("Perm", ["perm", "oldpermic"]),
   ("Phag", ["phag", "phagspa"]),
   ("Phli", ["phli", "inscriptionalpahlavi"]),
   ("Phlp", ["phlp", "psalterpahlavi"]),
   ("Phnx", ["phnx", "phoenician"]),
   ("Plrd", ["plrd", "miao"]),
   ("Prti", ["prti", "inscriptionalparthian"]),
   ("Rjng", ["rjng", "rejang"]),
   ("Rohg", ["rohg", "hanifirohingya"]),
   ("Runr", ["runr", "runic"]),
   ("Samr", ["samr", "samaritan"]),
   ("Sarb", ["sarb", "oldsoutharabian"]),
   ("Saur", ["saur", "saurashtra"]),
   ("Sgnw", ["sgnw", "signwriting"]),
   ("Shaw", ["shaw", "shavian"]),
   ("Shrd", ["shrd", "sharada"]),
   ("Sidd", ["sidd", "siddham"]),
   ("Sind", ["sind", "khudawadi"]),
   ("Sinh", ["sinh", "sinhala"]),
   ("Sogd", ["sogd", "sogdian"]),
   ("Sogo", ["sogo", "oldsogdian"]),
   ("Sora", ["sora", "sorasompeng"]),
   ("Soyo", ["soyo", "soyombo"]),
   ("Sund", ["sund", "sundanese"]),
   ("Sunu", ["sunu", "sunuwar"]),
   ("Sylo", ["sylo", "sylotinagri"]),
   ("Syrc", ["syrc", "syriac"]),
   ("Tagb", ["tagb", "tagbanwa"]),
   ("Takr", ["takr", "takri"]),
   ("Tale", ["tale", "taile"]),
   ("Talu", ["talu", "newtailue"]),
   ("Taml", ["taml", "tamil"]),
   ("Tang", ["tang", "tangut"]),
   ("Tavt", ["tavt", "taiviet"]),
   ("Telu", ["telu", "telugu"]),
   ("Tfng", ["tfng", "tifinagh"]),
   ("Tglg", ["tglg", "tagalog"]),
   ("Thaa", ["thaa", "thaana"]),
   ("Thai", ["thai"]),
   ("Tibt", ["tibt", "tibetan"]),
   ("Tirh", ["tirh", "tirhuta"]),
   ("Tnsa", ["tnsa", "tangsa"]),
   ("Todr", ["todr", "todhri"]),
   ("Toto", ["toto"]),
   ("Tutg", ["tutg", "tulutigalari"]),
   ("Ugar", ["ugar", "ugaritic"]),
   ("Vaii", ["vaii", "vai"]),
   ("Vith", ["vith", "vithkuqi"]),
   ("Wara", ["wara", "warangciti"]),
   ("Wcho", ["wcho", "wancho"]),
   ("Xpeo", ["xpeo", "oldpersian"]),
   ("Xsux", ["xsux", "cuneiform"]),
   ("Yezi", ["yezi", "yezidi"]),
   ("Yiii", ["yiii", "yi"]),
   ("Zanb", ["zanb", "zanabazarsquare"]),
   ("Zinh", ["zinh", "inherited", "qaai"]),
   ("Zyyy", ["zyyy", "common"]),
   ("Zzzz", ["zzzz", "unknown"])]

/-- Packed runs of each script. -/
def scriptCode : List (String × List String) :=
  [("Adlm",
     ["2olc 23 5 9 5 1"]),
   ("Aghb",
     ["1flc 1f c 0"]),
   ("Ahom",
     ["1j40 q 3 e 5 m"]),
   ("Arab",
     ["16o 4 2 5 2 d 2 2 2 v 2 9 c p 2 2z 2 x 29 1b 6p u 2 1 6 22 2 s 1bv5 36 h a2 3 27 3 1h 8 0 x",
      "f 35 4 2 3q 31g u 1w 2 1k 3 181t 3 2 q 2 1 2 0 3 0 2 9 2 3 2 0 2 0 7 0 5 0 2 0 2 0 2 2 2 1 2",
      "0 3 0 2 0 2 0 2 0 2 0 2 1 2 0 3 3 2 6 2 3 2 3 2 0 2 9 2 g 6 2 2 4 2 g 1h 1"]),
   ("Armi",
     ["1g74 l 2 8"]),
   ("Armn",
     ["10x 11 3 1d 3 2 1chw 4"]),
   ("Avst",
     ["1gqo 1h 4 6"]),
   ("Bali",
     ["5c0 24 2 1d"]),
   ("Bamu",
     ["www 2f 124p fs"]),
   ("Bass",
     ["1zo0 t 3 5"]),
   ("Batk",
     ["5hc 1f 9 3"]),
   ("Beng",
     ["1vk 3 2 7 3 1 3 l 2 6 2 0 4 3 3 8 3 1 3 3 9 0 5 1 2 4 3 o"]),
   ("Bhks",
     ["1k3k 8 2 18 2 d b s"]),
   ("Bopo",
     ["kq 1 93u 16 35 v"]),
   ("Brah",
     ["1hq8 25 5 z a 0"]),
   ("Brai",
     ["7wg 73"]),
   ("Bugi",
     ["54w r 3 1"]),
   ("Buhd",
     ["4lc j"]),
   ("Cakm",
     ["1hxc 1g 2 h"]),
   ("Cans",
     ["3y8 hr fl 1x 1ewr f"]),
   ("Cari",
     ["1f34 1c"]),
   ("Cham",
     ["xkw 1i a d 3 9 3 3"]),
   ("Cher",
     ["3vk 2d 3 5 twz 27"]),
   ("Chrs",
     ["1ho0 r"]),
   ("Copt",
     ["rm d 80h 37 6 6"]),
   ("Cpmn",
     ["1nyo 2q"]),
   ("Cprt",
     ["1g5c 5 3 0 2 17 2 1 4 0 3 0"]),
   ("Cyrl",
     ["sg 3o 3 4o 4lt a 4h 0 25 0 38o v nr5 2n han 1 18n5 1p y 0"]),
   ("Deva",
     ["1s0 28 5 e 3 p vhd v mip 9"]),
   ("Diak",
     ["1ji8 6 3 0 3 7 2 1 2 t 2 1 3 b a 9"]),
   ("Dogr",
     ["1jb4 1n"]),
   ("Dsrt",
     ["1fcw 27"]),
   ("Dupl",
     ["2fpc 2y 6 c 4 8 8 9 3 3"]),
   ("Egyp",
     ["1o1s ut b 32y"]),
   ("Elba",
     ["1fk0 13"]),
   ("Elym",
     ["1hpc m"]),
   ("Ethi",
     ["3k0 20 2 3 3 6 2 0 2 3 3 14 2 3 3 w 2 3 3 6 2 0 2 3 3 e 2 1k 2 3 3 1u 3 v 4 p 547 m a 6 2 6",
      "2 6 2 6 2 6 2 6 2 6 2 6 opv 5 3 5 3 5 a 6 2 6 1qk2 6 2 3 2 1 2 e"]),
   ("Gara",
     ["1h6o 11 4 s 9 1"]),
   ("Geor",
     ["3a8 11 2 0 6 0 3 16 2 3 2a9 16 3 2 37l 11 2 0 6 0"]),
   ("Glag",
     ["8ow 2n 2e1t 6 2 g 3 6 2 1 2 4"]),
   ("Gong",
     ["1kdc 5 2 1 2 10 2 1 2 5 8 9"]),
   ("Gonm",
     ["1kao 6 2 1 2 17 4 0 2 1 2 8 9 9"]),
   ("Goth",
     ["1f74 q"]),
   ("Gran",
     ["1ibk 3 2 7 3 1 3 l 2 6 2 1 2 4 3 8 3 1 3 2 3 0 7 0 6 6 3 6 4 4"]),
   ("Grek",
     ["og 3 2 2 3 3 2 0 5 0 2 0 2 2 2 0 2 j 2 1q f f 4yv 4 1f 4 5 4 2d 0 8x l 3 5 3 11 3 5 3 7 2 0",
      "2 0 2 0 2 u 3 1g 2 e 2 d 3 5 2 i 3 2 2 8 88 0 rb3 0 gyj 26 i 0 155s 1x"]),
   ("Gujr",
     ["22p 2 2 8 2 2 2 l 2 6 2 1 2 4 3 9 2 2 2 2 3 0 g 3 3 b 8 6"]),
   ("Gukh",
     ["1xq8 1l"]),
   ("Guru",
     ["1z5 2 2 5 5 1 3 l 2 6 2 1 2 1 2 1 3 0 2 4 5 1 3 2 4 0 8 3 2 0 8 g"]),
   ("Hang",
     ["3cw 73 5yn 1 76 2l 36 u 1u u nhe s hw 8mb d m 5 1c 7tx u 4 5 3 5 3 5 3 2"]),
   ("Hani",
     ["96o p 2 2g d 5x 1c 0 2 0 q 8 f 3 qt 533 1t g73 hkx a5 3 2x n49 1 d 1 sgf wyn x 37d 7 65 3",
      "4g1 f 5rk g h9 1wj f1 15v 3t6 6 38f"]),
   ("Hano",
     ["4kg k"]),
   ("Hatr",
     ["1gbk i 2 1 6 4"]),
   ("Hebr",
     ["13l 1i 9 q 5 5 1cfd p 2 4 2 0 2 1 2 1 2 9"]),
   ("Hira",
     ["9j5 2d 7 2 23qa 7y j 0 u 2 cry 0"]),
   ("Hluw",
     ["1s00 g6"]),
   ("Hmng",
     ["1zpc 1x b 9 2 6 2 k 6 i"]),
   ("Hmnp",
     ["2n0g 18 4 d 3 9 5 1"]),
   ("Hung",
     ["1h1c 1e e 1e 8 5"]),
   ("Ital",
     ["1f5s z a 2"]),
   ("Java",
     ["xhc 25 3 9 5 1"]),
   ("Kali",
     ["xds 19 2 0"]),
   ("Kana",
     ["9lt 2h 3 2 6p f 5t 1a 2 2f 14b3 9 2 18 ytv 3 2 6 2 1 2 0 80 2 1f 0 f 3"]),
   ("Kawi",
     ["1kow g 2 14 4 s"]),
   ("Khar",
     ["1gjk 3 2 1 6 7 2 2 2 s 3 2 5 9 8 8"]),
   ("Khmr",
     ["4n4 2l 3 9 7 9 dj v"]),
   ("Khoj",
     ["1i4g h 2 1a"]),
   ("Kits",
     ["20o4 0 5cs d1 16 0"]),
   ("Knda",
     ["2gw c 2 2 2 m 2 9 2 4 3 8 2 2 2 3 8 1 7 1 2 3 3 9 2 2"]),
   ("Krai",
     ["205c 1l"]),
   ("Kthi",
     ["1hts 1u b 0"]),
   ("Lana",
     ["55s 1q 2 s 3 a 7 9 7 d"]),
   ("Laoo",
     ["2v5 1 2 0 2 4 2 n 2 0 2 m 3 4 2 0 2 6 2 9 3 3"]),
   ("Latn",
     ["1t p 7 p 1c 0 g 0 6 m 2 u 2 cg 14 4 55o 11 7 1c 6 3 6 c 2 1x 1u 73 aa 0 e 0 h c 3y 1 7 0 s 0",
      "i 14 254 v o83 2t 4 1u 3 1 2 0 2 7 m d mp 16 2 8 2 3 fpz 6 t7 p 7 p 1ly 5 2 15 2 8 16iu u 7",
      "5"]),
   ("Lepc",
     ["5j4 1j 4 e 4 2"]),
   ("Limb",
     ["4xs u 2 b 5 b 5 0 4 b"]),
   ("Lina",
     ["1fr4 8m a l b 7"]),
   ("Linb",
     ["1ekg b 2 p 2 i 2 1 2 e 3 d z 3e"]),
   ("Lisu",
     ["wk0 1b o8h 0"]),
   ("Lyci",
     ["1f28 s"]),
   ("Lydi",
     ["1gdc p 6 0"]),
   ("Mahj",
     ["1hzk 12"]),
   ("Maka",
     ["1ko0 o"]),
   ("Mand",
     ["1mo r 3 0"]),
   ("Mani",
     ["1gow 12 5 b"]),
   ("Marc",
     ["1k6o v 3 l 2 d"]),
   ("Medf",
     ["20cg 2i"]),
   ("Mend",
     ["2oe8 5g 3 f"]),
   ("Merc",
     ["1ggw n 5 j 3 19"]),
   ("Mero",
     ["1gg0 v"]),
   ("Mlym",
     ["2kg c 2 2 2 1e 2 2 2 5 5 f 3 p"]),
   ("Modi",
     ["1iww 1w c 9"]),
   ("Mong",
     ["4qo 1 3 0 2 j 7 2g 8 16 1e46 c"]),
   ("Mroo",
     ["1zk0 u 2 9 5 1"]),
   ("Mtei",
     ["xr4 m 5m 19 3 9"]),
   ("Mult",
     ["1i80 6 2 0 2 3 2 e 2 a"]),
   ("Mymr",
     ["35s 4f u9t u 2q v le9 j"]),
   ("Nagm",
     ["2nrk 15"]),
   ("Nand",
     ["1jmo 7 3 19 3 a"]),
   ("Narb",
     ["1gn4 v"]),
   ("Nbat",
     ["1g8w u 9 8"]),
   ("Newa",
     ["1iio 2j 2 4"]),
   ("Nkoo",
     ["1j4 1m 3 2"]),
   ("Nshu",
     ["20o1 0 cy7 az"]),
   ("Ogam",
     ["4g0 s"]),
   ("Olck",
     ["5lc 1b"]),
   ("Onao",
     ["2nyo 16 5 0"]),
   ("Orkh",
     ["1gxs 20"]),
   ("Orya",
     ["269 2 2 7 3 1 3 l 2 6 2 1 2 4 3 8 3 1 3 2 8 2 5 1 2 4 3 h"]),
   ("Osge",
     ["1fhs z 5 z"]),
   ("Osma",
     ["1fgg t 3 9"]),
   ("Ougr",
     ["1hm8 p"]),
   ("Palm",
     ["1g80 v"]),
   ("Pauc",
     ["1juo 1k"]),
   ("Perm",
     ["1f80 16"]),
   ("Phag",
     ["x8g 1j"]),
   ("Phli",
     ["1gtc i 6 7"]),
   ("Phlp",
     ["1gu8 h 8 3 d 6"]),
   ("Phnx",
     ["1gcg r 4 0"]),
   ("Plrd",
     ["20hs 22 5 1k 8 g"]),
   ("Prti",
     ["1gsg l 3 7"]),
   ("Rjng",
     ["xf4 z c 0"]),
   ("Rohg",
     ["1h4w 13 9 9"]),
   ("Runr",
     ["4gw 22 4 a"]),
   ("Samr",
     ["1kw 19 3 e"]),
   ("Sarb",
     ["1gm8 v"]),
   ("Saur",
     ["xa8 1x 9 b"]),
   ("Sgnw",
     ["2l8g i3 g 4 2 e"]),
   ("Shaw",
     ["1ff4 1b"]),
   ("Shrd",
     ["1i0w 2n"]),
   ("Sidd",
     ["1itc 1h 3 11"]),
   ("Sind",
     ["1i9c 1m 6 9"]),
   ("Sinh",
     ["2o1 2 2 h 4 n 2 8 2 0 3 6 4 0 5 5 2 0 2 7 7 9 3 2 1fcd j"]),
   ("Sogd",
     ["1hkg 15"]),
   ("Sogo",
     ["1hj4 13"]),
   ("Sora",
     ["1hw0 o 8 9"]),
   ("Soyo",
     ["1jrk 2a"]),
   ("Sund",
     ["5fk 1r 75 7"]),
   ("Sunu",
     ["1k1s x f 9"]),
   ("Sylo",
     ["x6o 18"]),
   ("Syrc",
     ["1ds d 2 1n 3 2 7l a"]),
   ("Tagb",
     ["4m8 c 2 2 2 1"]),
   ("Takr",
     ["1j0g 1l 7 9"]),
   ("Tale",
     ["500 t 3 4"]),
   ("Talu",
     ["51c 17 5 p 7 a 4 1"]),
   ("Taml",
     ["29u 1 2 5 4 2 2 3 4 1 2 0 2 1 4 1 4 2 4 b 5 4 4 2 2 3 3 0 7 0 f k 1ih2 1d e 0"]),
   ("Tang",
     ["20o0 0 w 4qf 9 lb e9 8"]),
   ("Tavt",
     ["xog 1u p 4"]),
   ("Telu",
     ["2dc c 2 2 2 m 2 f 3 8 2 2 2 3 8 1 2 2 3 0 3 3 3 9 8 8"]),
   ("Tfng",
     ["8xc 1j 8 1 f 0"]),
   ("Tglg",
     ["4jk l a 0"]),
   ("Thaa",
     ["1hc 1d"]),
   ("Thai",
     ["2rl 1l 6 r"]),
   ("Tibt",
     ["2yo 1z 2 z 5 12 2 z 2 e 2 6 5 1"]),
   ("Tirh",
     ["1im8 1z 9 9"]),
   ("Tnsa",
     ["1zlc 26 2 9"]),
   ("Todr",
     ["1fpc 1f"]),
   ("Toto",
     ["2nbk u"]),
   ("Tutg",
     ["1if4 9 2 0 3 0 2 11 2 9 2 0 3 0 2 3 2 9 2 1 9 1"]),
   ("Ugar",
     ["1f9c t 2 0"]),
   ("Vaii",
     ["wlc 8b"]),
   ("Vith",
     ["1fn4 a 2 e 2 6 2 1 2 a 2 e 2 6 2 1"]),
   ("Wara",
     ["1jfk 2a d 0"]),
   ("Wcho",
     ["2ncw 1l 6 0"]),
   ("Xpeo",
     ["1fa8 z 5 d"]),
   ("Xsux",
     ["1kw0 pl 2v 32 2 4 c 5f"]),
   ("Yezi",
     ["1hfk 15 2 2 3 1"]),
   ("Yiii",
     ["vls wc 4 1i"]),
   ("Zanb",
     ["1jpc 1z"]),
   ("Zinh",
     ["lc 33 7q 1 cl a r 0 kh 3 3fg u ea 2 2 c 2 6 5 0 7 0 4 1 5j 1r el 1 5f w 30a 3 30 1 14km f h",
      "d r4 0 6b 0 38b 0 1139 19 3 m f5 2 i 7 3 6 v 3 h45v 6n"]),
   ("Zyyy",
     ["0 1s r 5 r 1a 2 e 2 4 o 0 w 0 ci 12 6 4 3 j 39 0 a 0 7 0 2 0 hq 0 7 0 f 0 4 0 x 0 4d 0 ed 0",
      "3m 1 yi 0 ba 3 83 0 168 2 20 1 5o 1 2 0 y6 0 e 0 8 3 2 5 2 2 3 0 li b 3 2e 2 a 4 a 2 e i w",
      "1s 11 2 2 3 5 2 q 2 g 16 2 5 ih n a m pr 75 hf 3 v 2 2w e9 2l b7 k 2 0 2 o g 7 5 3 2k 1 4 0",
      "2j 1 44 f x 11 a 0 1d 1r w 28 1c 0 2h 4n 535 1r hkx x 2v 2 4m 9 6t 0 4h 0 b0 0 f 1 g5v 1 5t",
      "9 n y 2 i 2 3 44 0 2 v r 5 r a b 0 1a 1 1t 6 2 6 b 4 77 2 5 18 4 8 29 c 1g 18 6d q 10o5 3",
      "319 6x 7 c3 4d 37 1p 6t b 12 3 1p 4 g 9 1 8 t 5 1o 5y j d j d 2e a o 3s 2c 2 1y 2 1 3 0 3 1",
      "3 3 2 b 2 0 2 6 2 1s 2 3 3 7 2 6 2 r 2 3 2 4 2 0 4 6 2 9f 3 83 3 1d 41e 1v 25 1o jn 17 5 2r",
      "d e 3 e 2 e 2 10 b 4t 1l p 2 1 e 17 5 8 8 1 f 5 4b rb 5 g 4 c 4 3a 5 2m 7 b 5 0 g b 5 1j 9 9",
      "7 13 9 t 3 b 5 1 1r 9f d d 3 c 4 9 6 1j 8 e 3 a 7 8 8 42 2 2t gvm0 0 v 2n"]),
   ("Zzzz",
     ["oo 1 7 3 8 0 2 0 l 0 b2 0 13 1 1f 1 4 0 1k 7 s 3 7 a 7j 0 1p 1 2u d 1o 1 1e 1 g 0 t 1 2 0 c",
      "4 z 4 6m 0 9 1 3 1 n 0 8 0 2 2 5 1 a 1 3 1 5 7 2 3 3 0 6 1 q 1 4 0 7 3 3 1 n 0 8 0 3 0 3 0 3",
      "1 2 0 6 3 3 1 4 2 2 6 5 0 2 6 i 9 4 0 a 0 4 0 n 0 8 0 3 0 6 1 b 0 4 0 4 1 2 e 5 1 d 6 8 0 4",
      "0 9 1 3 1 n 0 8 0 3 0 6 1 a 1 3 1 4 6 4 3 3 0 6 1 j 9 3 0 7 2 4 0 5 2 3 0 2 0 3 2 3 2 4 2 d",
      "3 6 2 4 0 5 1 2 5 2 d m 4 e 0 4 0 o 0 h 1 a 0 4 0 5 6 3 0 4 0 3 1 5 1 b 6 n 0 4 0 o 0 b 0 6",
      "1 a 0 4 0 5 6 3 4 4 0 5 1 b 0 4 b e 0 4 0 1g 0 4 0 7 3 h 1 r 0 4 0 j 2 p 0 a 0 2 1 8 2 2 3 7",
      "0 2 0 9 5 b 1 4 b 1n 3 u 10 3 0 2 0 6 0 p 0 2 0 o 1 6 0 2 0 8 0 b 1 5 v 21 0 11 3 14 0 11 0",
      "g 0 e 10 5j 0 2 4 2 1 ai 0 5 1 8 0 2 0 5 1 16 0 5 1 y 0 5 1 8 0 2 0 5 1 g 0 1m 0 5 1 1w 1 x",
      "2 r 5 2f 1 7 1 im 2 2i 6 n 8 p 8 l b e 0 4 0 3 b 2n 1 b 5 b 5 r 5 2i 6 18 4 1z 9 w 0 d 3 d 3",
      "2 2 17 1 6 a 19 3 r 5 c 2 1r 1 1u 0 u 1 c 5 b 5 f 1 1b 1 d j 26 0 4n 7 1p 2 g 2 1r 4 18 1 c",
      "7 18 4 ev 1 7 1 13 1 7 1 9 0 2 0 2 0 2 0 w 1 1i 0 g 0 f 1 7 0 k 1 4 0 a 0 2u 0 d 1 s 0 e 2 z",
      "d y e 3x 3 ij l c k 1ed 1 an 4 1a 0 2 4 2 1 1l 6 3 d p 8 8 0 8 0 8 0 8 0 8 0 8 0 8 0 8 0 3j",
      "x r 0 2i b 5z p 29 0 2f 1 2w 4 18 0 2n 0 2f 8 1d 0 mlq 2 1k 8 9p j 55 7 66 j 1p 2 b 5 1l 7",
      "1z 7 d 5 39 a v 2 27 0 c 3 y 0 1k 8 f 1 b 1 2w n t 9 7 1 7 1 7 8 8 0 8 0 1p 3 3j 1 b 5 8md b",
      "o 3 1e 3 1kx 4xr a7 1 2z 11 8 b 6 4 r 0 6 0 2 0 3 0 3 0 i3 v 17 5 1g 0 k 0 5 3 6 0 3s 1 2 0",
      "5b 2 7 1 7 1 7 1 4 2 8 0 8 9 6 1 d 0 r 0 k 0 3 0 g 1 f x 3g 4 4 3 1a 2 2h 0 e 2 2 1a 1b 3l u",
      "2 1e e t 3 11 8 v 4 18 4 v 0 12 3 f 15 4f 1 b 5 11 3 11 3 15 7 1h a d 0 g 0 8 0 3 0 c 0 g 0",
      "8 0 3 2 1h b 8o 8 n 9 9 n 7 0 17 0 a 1w 7 1 2 0 19 0 3 2 2 1 o 0 21 7 a 1b k 0 3 4 y 2 s 4 y",
      "v 1l 3 l 1 1f 0 3 4 9 0 4 0 u 1 4 3 b 6 a 6 1t v 14 3 d 8 1j 2 u 1 s 4 r 6 5 b 8 27 22 1i 1g",
      "c 1g 6 1b 7 b 5 13 2 u 7 3 5r w 0 17 0 4 1 3 f 7 7 a w 1b 7 17 l r 11 t j o 8 27 3 11 8 1x 9",
      "2 1 q 6 b 5 1i 0 j 7 14 8 2p 0 l a j 0 1c 1p 8 0 2 0 5 0 g 0 c 5 1o 4 b 5 5 0 9 1 3 1 n 0 8",
      "0 3 0 6 0 b 1 3 1 4 1 2 5 2 4 8 1 8 2 6 a b 0 2 1 2 0 13 0 b 0 2 1 2 0 5 0 b 0 3 7 3 s 2l 0",
      "6 t 21 7 b 4l 1j 1 13 x 1y a b 5 e i 1n 5 b 5 l r s 1 g 3 o 54 1p 2r 2c b 9 1 2 1 9 0 3 0 v",
      "0 3 1 d 8 b 1x 9 1 1b 1 c q 21 7 2c c 22 6 b 2d 9 2f z d b 5 a 0 1a 0 f 9 u 2 x 1 n 0 f 20 8",
      "0 3 0 19 2 2 0 3 0 a 7 b 5 7 0 3 0 12 0 3 0 7 6 b 5 1t 6n q 6 i 0 16 2 u 2c 2 e 1f c po 2t",
      "34 0 6 a 5h 217 2s c uv 9 330 4 g8 5a0 1n 1c5 fu 6 w 0 b 3 2a 0 b 5 v 1 7 9 1z 9 b 0 8 0 m 4",
      "k bz 1n 5h 2k 4 1t v 24 3 1m 6 i 1r 6 a 8 8 5p3 14 x 2o 3l 6pb 5 0 8 0 3 0 84 e 2 s 4 1 2 d",
      "5 7 b1 1s3 30 4 e 2 a 6 b 1 9 317 72 2 c5 5 1k e 1b 1 o 8 39 1n 6v 9 14 1 5f k 1z 3d l b l b",
      "2g 8 q 3q 2e 0 20 0 3 1 2 1 3 1 5 0 d 0 2 0 8 0 1u 0 5 1 9 0 8 0 t 0 5 0 6 0 2 2 8 0 9h 1 85",
      "1 jj e 6 0 g un w 5 7 5w 8 0 i 1 8 0 3 0 6 4 1r w 2 33 1a 2 f 1 b 3 3 8v w g 1n 4 2 cv 17 5x",
      "18 3 2 5b 1t 67 8 0 5 0 3 0 g 0 5i 1 h 14 25 3 b 3 3 ls 1x 23 1q 5d 5 0 s 0 3 0 2 1 2 0 b 0",
      "5 0 2 0 2 5 2 3 2 0 2 0 2 0 4 0 3 0 2 1 2 0 2 0 2 0 2 0 2 0 3 0 2 1 5 0 8 0 5 0 5 0 2 0 b 0",
      "i 4 4 0 6 0 i 1f 3 7h 19 3 2t b g 1 g 0 g 0 12 9 4v 1j u c 19 3 a 6 3 d 7 49 re 2 i 2 e 2 63",
      "5 d 3 2 e d 3 1l 7 b 5 15 7 v 1 d 3 3 d a 12 9l 7 f 1 e 2 c 2 1m 0 2 3 h 1 d 3 b 6 44 0 2w",
      "sk wyp v 3dr 1 a82 e hb 1wh f3 15t 3t8 4 6k1 f5vk 2 t 2p 3j 6p 47bj"])]

end RuleBench.Pattern

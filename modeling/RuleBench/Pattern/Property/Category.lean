import RuleBench.Text.CodeSet

set_option autoImplicit false

/-!
# General categories

The code points of each two-letter general category.  Unassigned code points are those of no other
category.
-/

namespace RuleBench.Pattern

/-- The names of each category, without blanks, hyphens and capitals. -/
def categoryNames : List (String × List String) :=
  [("C", ["c", "other"]),
   ("Cc", ["cc", "control", "cntrl"]),
   ("Cf", ["cf", "format"]),
   ("Cn", ["cn", "unassigned"]),
   ("Co", ["co", "privateuse"]),
   ("Cs", ["cs", "surrogate"]),
   ("L", ["l", "letter"]),
   ("LC", ["lc", "casedletter"]),
   ("Ll", ["ll", "lowercaseletter"]),
   ("Lm", ["lm", "modifierletter"]),
   ("Lo", ["lo", "otherletter"]),
   ("Lt", ["lt", "titlecaseletter"]),
   ("Lu", ["lu", "uppercaseletter"]),
   ("M", ["m", "mark", "combiningmark"]),
   ("Mc", ["mc", "spacingmark"]),
   ("Me", ["me", "enclosingmark"]),
   ("Mn", ["mn", "nonspacingmark"]),
   ("N", ["n", "number"]),
   ("Nd", ["nd", "decimalnumber", "digit"]),
   ("Nl", ["nl", "letternumber"]),
   ("No", ["no", "othernumber"]),
   ("P", ["p", "punctuation", "punct"]),
   ("Pc", ["pc", "connectorpunctuation"]),
   ("Pd", ["pd", "dashpunctuation"]),
   ("Pe", ["pe", "closepunctuation"]),
   ("Pf", ["pf", "finalpunctuation"]),
   ("Pi", ["pi", "initialpunctuation"]),
   ("Po", ["po", "otherpunctuation"]),
   ("Ps", ["ps", "openpunctuation"]),
   ("S", ["s", "symbol"]),
   ("Sc", ["sc", "currencysymbol"]),
   ("Sk", ["sk", "modifiersymbol"]),
   ("Sm", ["sm", "mathsymbol"]),
   ("So", ["so", "othersymbol"]),
   ("Z", ["z", "separator"]),
   ("Zl", ["zl", "lineseparator"]),
   ("Zp", ["zp", "paragraphseparator"]),
   ("Zs", ["zs", "spaceseparator"])]

/-- Packed runs of each category that is not made up of others. -/
def categoryCode : List (String × List String) :=
  [("Cc",
     ["0 v 2o w"]),
   ("Cf",
     ["4t 0 11v 5 n 0 5d 0 1e 0 ap 1 29 0 2zw 0 1kt 4 r 4 1e 4 2 9 17yo 0 6y 2 3b6 0 g 0 6zn f qxt",
      "3 440 7 h407 0 v 2n"]),
   ("Co",
     ["188w 4xr jpc1 1ekd 3 1ekd"]),
   ("Ll",
     ["2p p 1n 0 16 n 2 7 2 0 2 0 2 0 2 0 2 0 2 0 2 0 2 0 2 0 2 0 2 0 2 0 2 0 2 0 2 0 2 0 2 0 2 0 2",
      "0 2 0 2 0 2 0 2 0 2 0 2 0 2 0 2 0 2 1 2 0 2 0 2 0 2 0 2 0 2 0 2 0 2 1 2 0 2 0 2 0 2 0 2 0 2",
      "0 2 0 2 0 2 0 2 0 2 0 2 0 2 0 2 0 2 0 2 0 2 0 2 0 2 0 2 0 2 0 2 0 2 0 3 0 2 0 2 2 3 0 2 0 3",
      "0 4 1 5 0 3 0 4 2 3 0 3 0 2 0 2 0 3 0 2 1 2 0 3 0 4 0 2 0 3 1 3 2 7 0 3 0 3 0 2 0 2 0 2 0 2",
      "0 2 0 2 0 2 0 2 1 2 0 2 0 2 0 2 0 2 0 2 0 2 0 2 0 2 1 3 0 2 0 4 0 2 0 2 0 2 0 2 0 2 0 2 0 2",
      "0 2 0 2 0 2 0 2 0 2 0 2 0 2 0 2 0 2 0 2 0 2 0 2 0 2 0 2 0 2 0 2 0 2 0 2 0 2 0 2 0 2 0 2 6 3",
      "0 3 1 2 0 5 0 2 0 2 0 2 0 2 1w 3 p 5e 0 2 0 4 0 4 2 j 0 s y 2 1 4 2 2 0 2 0 2 0 2 0 2 0 2 0",
      "2 0 2 0 2 0 2 0 2 0 2 4 2 0 3 0 3 1 1g 1b 2 0 2 0 2 0 2 0 2 0 2 0 2 0 2 0 2 0 2 0 2 0 2 0 2",
      "0 2 0 2 0 2 0 2 0 a 0 2 0 2 0 2 0 2 0 2 0 2 0 2 0 2 0 2 0 2 0 2 0 2 0 2 0 2 0 2 0 2 0 2 0 2",
      "0 2 0 2 0 2 0 2 0 2 0 2 0 2 0 2 0 3 0 2 0 2 0 2 0 2 0 2 0 2 1 2 0 2 0 2 0 2 0 2 0 2 0 2 0 2",
      "0 2 0 2 0 2 0 2 0 2 0 2 0 2 0 2 0 2 0 2 0 2 0 2 0 2 0 2 0 2 0 2 0 2 0 2 0 2 0 2 0 2 0 2 0 2",
      "0 2 0 2 0 2 0 2 0 2 0 2 0 2 0 2 0 2 0 2 0 2 0 2 0 2 0 2 0 2 0 2 0 2 0 1d 14 288 16 3 2 l5 5",
      "1oj 8 2 0 3a 17 1s c 2 x 2v 0 2 0 2 0 2 0 2 0 2 0 2 0 2 0 2 0 2 0 2 0 2 0 2 0 2 0 2 0 2 0 2",
      "0 2 0 2 0 2 0 2 0 2 0 2 0 2 0 2 0 2 0 2 0 2 0 2 0 2 0 2 0 2 0 2 0 2 0 2 0 2 0 2 0 2 0 2 0 2",
      "0 2 0 2 0 2 0 2 0 2 0 2 0 2 0 2 0 2 0 2 0 2 0 2 0 2 0 2 0 2 0 2 0 2 0 2 0 2 0 2 0 2 0 2 0 2",
      "0 2 0 2 0 2 0 2 0 2 0 2 0 2 0 2 0 2 0 2 0 2 0 2 8 2 0 2 0 2 0 2 0 2 0 2 0 2 0 2 0 2 0 2 0 2",
      "0 2 0 2 0 2 0 2 0 2 0 2 0 2 0 2 0 2 0 2 0 2 0 2 0 2 0 2 0 2 0 2 0 2 0 2 0 2 0 2 0 2 0 2 0 2",
      "0 2 0 2 0 2 0 2 0 2 0 2 0 2 0 2 0 2 0 2 0 2 0 2 0 2 0 2 0 2 8 9 5 b 7 9 7 9 5 b 7 9 7 9 d 3",
      "7 9 7 9 7 9 4 2 1 7 0 4 2 2 1 9 3 3 1 9 7 b 2 2 1 7n 0 4 1 4 0 s 0 5 0 5 0 3 1 9 3 5 0 1i 0",
      "23w 1b 2 0 4 1 2 0 2 0 2 0 5 0 2 1 2 5 6 0 2 0 2 0 2 0 2 0 2 0 2 0 2 0 2 0 2 0 2 0 2 0 2 0 2",
      "0 2 0 2 0 2 0 2 0 2 0 2 0 2 0 2 0 2 0 2 0 2 0 2 0 2 0 2 0 2 0 2 0 2 0 2 0 2 0 2 0 2 0 2 0 2",
      "0 2 0 2 0 2 0 2 0 2 0 2 0 2 0 2 0 2 0 2 0 2 0 2 0 2 1 8 0 2 0 5 0 d 11 2 0 6 0 nx0 0 2 0 2 0",
      "2 0 2 0 2 0 2 0 2 0 2 0 2 0 2 0 2 0 2 0 2 0 2 0 2 0 2 0 2 0 2 0 2 0 2 0 2 0 2 0 k 0 2 0 2 0",
      "2 0 2 0 2 0 2 0 2 0 2 0 2 0 2 0 2 0 2 0 2 0 3s 0 2 0 2 0 2 0 2 0 2 0 2 2 2 0 2 0 2 0 2 0 2 0",
      "2 0 2 0 2 0 2 0 2 0 2 0 2 0 2 0 2 0 2 0 2 0 2 0 2 0 2 0 2 0 2 0 2 0 2 0 2 0 2 0 2 0 2 0 2 0",
      "2 0 2 0 2 0 2 7 2 0 2 0 3 0 2 0 2 0 2 0 2 0 5 0 2 0 3 0 2 2 2 0 2 0 2 0 2 0 2 0 2 0 2 0 2 0",
      "2 0 2 0 6 0 6 0 2 0 2 0 2 0 2 0 2 0 2 0 2 0 5 0 2 0 3 0 4 0 2 0 2 0 2 0 2 0 2 0 r 0 4 0 mu",
      "16 6 8 8 27 fnl 6 d 4 tm p y6 13 3t z 4c a 2 e 2 6 2 1 1dw 1e 3i l 27v v gw1 v k2j p r 6 2 h",
      "r p r 3 2 0 2 6 2 a r p r p r p r p r p r p r p r p r r t o 2 5 r o 2 5 r o 2 5 r o 2 5 r o",
      "2 5 2 0 1f9 9 2 j 7 5 1yw x"]),
   ("Lm",
     ["j4 h 5 b f 4 8 0 2 0 3q 0 6 0 db 0 6f 0 4l 1 7i 1 5 0 w 0 a 0 4 0 4h 0 4o 0 yd 0 3k 0 fq 0",
      "1cr 0 30 0 h0 0 cx 5 4v 1q e 0 z 10 j6 0 e 0 h c 2cg 1 6q 0 5c 0 d2 0 18 4 6 0 2q 1 2m 2 lxz",
      "0 yr 5 7j 0 37 0 t 1 3e 8 29 0 o 0 2y 2 4 1 d2 0 n 0 3u 0 31 0 m 1 2w 3 a 0 glj 0 1a 1 1k1 5",
      "2 15 2 8 13o 0 x 0 ij5 3 e5 2 15 1 fb c 1t 1 2 0 cnh 3 2 6 2 1 9iq 1p 5m 6 q6 0 v4 0"]),
   ("Lo",
     ["4q 0 g 0 75 0 5 3 5t 1 mz q 5 3 1a v 2 9 10 1 2 2q 2 0 p 1 b 2 3 0 h 0 2 t u 2g c 0 p w m l",
      "17 o 8 a 6 n 2 5 i 14 1o 1h 4 0 j 0 8 9 h e 5 7 3 1 3 l 2 6 2 0 4 3 4 0 h 0 e 1 2 2 f 1 b 0",
      "9 5 5 1 3 l 2 6 2 1 2 1 2 1 w 3 2 0 k 2 h 8 2 2 2 l 2 6 2 1 2 4 4 0 j 0 g 1 o 0 c 7 3 1 3 l",
      "2 6 2 1 2 4 4 0 v 1 2 2 g 0 i 0 2 5 4 2 2 3 4 1 2 0 2 1 4 1 4 2 4 b n 0 1h 7 2 2 2 m 2 f 4 0",
      "r 2 3 0 3 1 v 0 5 7 2 2 2 m 2 9 2 4 4 0 w 1 2 1 g 1 i 8 2 2 2 14 3 0 h 0 6 2 9 2 p 5 6 h 4 n",
      "2 8 2 0 3 6 1n 1b 2 1 d 5 1o 1 2 0 2 4 2 n 2 0 2 9 2 1 a 0 3 4 o 3 x 0 1s 7 2 z s 4 38 16 l",
      "0 h 5 5 3 4 0 4 1 8 2 5 c d 0 36 94 2 3 3 6 2 0 2 3 3 14 2 3 3 w 2 3 3 6 2 0 2 3 3 e 2 1k 2",
      "3 3 1u 12 f 36 h7 3 g 2 p 6 22 7 7 8 h e i f h f c 2 2 g 1f 15 0 1w y 2 1g 8 4 3 x 2 0 6 1x",
      "b u 1e t 3 4 c 17 5 p 1j m a 1g 4x 1a i 7 1j t e 1 b 17 r z 16 2 b t 36 3 2 5 2 1 4 0 u3 3",
      "2d4 1j p m a 6 2 6 2 6 2 6 2 6 2 6 2 6 2 6 fc 0 1i 0 5 2d 9 0 2 2h 5 0 6 16 2 2l i v 1d f e9",
      "533 1t g7o 2 vq 1w 13 9 7f 5 f b 1 1v 0 1e 1x 4q 0 2w 0 4 6 2 2 2 3 2 m u 1f f 1d 1r 5 4 0 2",
      "1 c r b m q s 8 1a 1a 4 3 8 b 4 2 14 o 2 2 7 l f 2 5 4 0 4 1d 2 0 4 1 3 4 3 0 2 0 p 1 4 a 8",
      "0 f 5 3 5 3 5 a 6 2 6 42 y u 8mb d m 5 1c 6it a5 3 2x 1w 0 2 9 2 c 2 4 2 0 2 1 2 1 2 2z y a2",
      "j 1r 3 1h 15 b 39 4 2 3q 2y 9 2 18 3 u 4 5 3 5 3 5 3 2 10 b 2 p 2 i 2 1 2 e 3 d z 3e au s 4",
      "1c 1c v e j 2 7 7 11 b t 3 z 5 7 3l 25 2r 13 9 1f 2l 1f d 8m a l b 7 49 5 3 0 2 17 2 1 4 0 3",
      "m b m a u 1u i 2 1 b l b p 1z 1j 7 1 1t 0 g 3 2 2 2 s 17 s 4 s 10 7 2 r s 1h b l b i e h 33",
      "20 54 z 13 3 2 0 8h 15 7 1 h 2 1o s b 0 9 l 17 h 1b k s m d 1g 1m 1 3 0 e 18 x o r z u 0 3 0",
      "9 y 4 0 d 1b f 3 m 0 2 0 10 h 2 o k 1 1s 6 2 0 2 3 2 e 2 9 8 1a 13 7 3 1 3 l 2 6 2 1 2 4 4 0",
      "j 0 d 4 v 9 2 0 3 0 2 11 2 0 q 0 2 0 19 1g j 3 l 2 v 1b l 1 2 0 55 1a 16 3 11 1b l 0 1o 16 e",
      "0 20 q 12 6 56 17 5w 7 3 0 3 7 2 1 2 n g 0 2 0 2n 7 3 12 h 0 2 0 t 0 b 13 8 0 m 0 c 19 k 0 j",
      "20 5k w w 8 2 10 i 0 1e t 35 6 2 1 2 11 m 0 q 5 2 1 2 v f 0 94 i g 0 2 c 2 x 3h 0 28 pl 6f",
      "5f 219 2o g tr i 5 q 32y 6 g6 5a2 t 1cz fs 8 u i 26 i t j 1b 1g k 6 i c4 13 ba 22 6 0 4w 4qf",
      "9 yd 16 9 6wo 82 g 0 u 2 3 0 f 3 9 az 1s5 2y 6 c 4 8 8 9 6sx 0 dy 18 y 0 8y t j 17 dh q 6e t",
      "3 0 ds 6 2 3 2 1 2 e 2 5g 118 3 2 q 2 1 2 0 3 0 2 9 2 3 2 0 2 0 7 0 5 0 2 0 2 0 2 2 2 1 2 0",
      "3 0 2 0 2 0 2 0 2 0 2 1 2 0 3 3 2 6 2 3 2 3 2 0 2 9 2 g 6 2 2 4 2 g 3et wyn x 37d 7 65 3 4g1",
      "f 5rk g h9 1wj f1 15v 3t6 6 38f"]),
   ("Lt",
     ["cl 0 3 0 3 0 13 0 5ue 7 9 7 9 7 d 0 g 0 1c 0"]),
   ("Lu",
     ["1t p 2u m 2 6 y 0 2 0 2 0 2 0 2 0 2 0 2 0 2 0 2 0 2 0 2 0 2 0 2 0 2 0 2 0 2 0 2 0 2 0 2 0 2",
      "0 2 0 2 0 2 0 2 0 2 0 2 0 2 0 2 0 3 0 2 0 2 0 2 0 2 0 2 0 2 0 2 0 3 0 2 0 2 0 2 0 2 0 2 0 2",
      "0 2 0 2 0 2 0 2 0 2 0 2 0 2 0 2 0 2 0 2 0 2 0 2 0 2 0 2 0 2 0 2 0 2 1 2 0 2 0 4 1 2 0 2 1 2",
      "2 3 3 2 1 2 2 4 1 2 1 2 0 2 0 2 1 2 0 3 0 2 1 2 2 2 0 2 1 4 0 8 0 3 0 3 0 3 0 2 0 2 0 2 0 2",
      "0 2 0 2 0 2 0 3 0 2 0 2 0 2 0 2 0 2 0 2 0 2 0 2 0 3 0 3 0 2 2 2 0 2 0 2 0 2 0 2 0 2 0 2 0 2",
      "0 2 0 2 0 2 0 2 0 2 0 2 0 2 0 2 0 2 0 2 0 2 0 2 0 2 0 2 0 2 0 2 0 2 0 2 0 2 0 2 0 2 0 8 1 2",
      "1 3 0 2 3 2 0 2 0 2 0 2 0 82 0 2 0 4 0 9 0 7 0 2 2 2 0 2 1 2 g 2 8 10 0 3 2 4 0 2 0 2 0 2 0",
      "2 0 2 0 2 0 2 0 2 0 2 0 2 0 2 0 6 0 3 0 2 1 3 1e 1d 0 2 0 2 0 2 0 2 0 2 0 2 0 2 0 2 0 2 0 2",
      "0 2 0 2 0 2 0 2 0 2 0 2 0 a 0 2 0 2 0 2 0 2 0 2 0 2 0 2 0 2 0 2 0 2 0 2 0 2 0 2 0 2 0 2 0 2",
      "0 2 0 2 0 2 0 2 0 2 0 2 0 2 0 2 0 2 0 2 0 2 1 2 0 2 0 2 0 2 0 2 0 2 0 3 0 2 0 2 0 2 0 2 0 2",
      "0 2 0 2 0 2 0 2 0 2 0 2 0 2 0 2 0 2 0 2 0 2 0 2 0 2 0 2 0 2 0 2 0 2 0 2 0 2 0 2 0 2 0 2 0 2",
      "0 2 0 2 0 2 0 2 0 2 0 2 0 2 0 2 0 2 0 2 0 2 0 2 0 2 0 2 0 2 0 2 0 2 0 2 0 2 0 3 11 28a 11 2",
      "0 6 0 k3 2d 1p0 0 7 16 3 2 8x 0 2 0 2 0 2 0 2 0 2 0 2 0 2 0 2 0 2 0 2 0 2 0 2 0 2 0 2 0 2 0",
      "2 0 2 0 2 0 2 0 2 0 2 0 2 0 2 0 2 0 2 0 2 0 2 0 2 0 2 0 2 0 2 0 2 0 2 0 2 0 2 0 2 0 2 0 2 0",
      "2 0 2 0 2 0 2 0 2 0 2 0 2 0 2 0 2 0 2 0 2 0 2 0 2 0 2 0 2 0 2 0 2 0 2 0 2 0 2 0 2 0 2 0 2 0",
      "2 0 2 0 2 0 2 0 2 0 2 0 2 0 2 0 2 0 2 0 2 0 2 0 2 0 a 0 2 0 2 0 2 0 2 0 2 0 2 0 2 0 2 0 2 0",
      "2 0 2 0 2 0 2 0 2 0 2 0 2 0 2 0 2 0 2 0 2 0 2 0 2 0 2 0 2 0 2 0 2 0 2 0 2 0 2 0 2 0 2 0 2 0",
      "2 0 2 0 2 0 2 0 2 0 2 0 2 0 2 0 2 0 2 0 2 0 2 0 2 0 2 0 2 0 2 0 a 7 9 5 b 7 9 7 9 5 c 0 2 0",
      "2 0 2 0 9 7 21 3 d 3 d 3 d 4 c 3 7b 0 5 0 4 2 3 2 3 0 4 4 7 0 2 0 2 0 2 3 3 3 b 1 6 0 1q 0",
      "22l 1b 1d 0 2 2 3 0 2 0 2 0 2 3 2 0 3 0 9 2 2 0 2 0 2 0 2 0 2 0 2 0 2 0 2 0 2 0 2 0 2 0 2 0",
      "2 0 2 0 2 0 2 0 2 0 2 0 2 0 2 0 2 0 2 0 2 0 2 0 2 0 2 0 2 0 2 0 2 0 2 0 2 0 2 0 2 0 2 0 2 0",
      "2 0 2 0 2 0 2 0 2 0 2 0 2 0 2 0 2 0 2 0 2 0 2 0 2 0 2 0 9 0 2 0 5 0 nym 0 2 0 2 0 2 0 2 0 2",
      "0 2 0 2 0 2 0 2 0 2 0 2 0 2 0 2 0 2 0 2 0 2 0 2 0 2 0 2 0 2 0 2 0 2 0 k 0 2 0 2 0 2 0 2 0 2",
      "0 2 0 2 0 2 0 2 0 2 0 2 0 2 0 2 0 3s 0 2 0 2 0 2 0 2 0 2 0 2 0 4 0 2 0 2 0 2 0 2 0 2 0 2 0 2",
      "0 2 0 2 0 2 0 2 0 2 0 2 0 2 0 2 0 2 0 2 0 2 0 2 0 2 0 2 0 2 0 2 0 2 0 2 0 2 0 2 0 2 0 2 0 2",
      "0 b 0 2 0 2 1 2 0 2 0 2 0 2 0 5 0 2 0 3 0 2 0 4 0 2 0 2 0 2 0 2 0 2 0 2 0 2 0 2 0 2 0 2 4 2",
      "4 2 0 2 0 2 0 2 0 2 0 2 0 2 0 2 3 2 0 2 1 4 0 6 0 2 0 2 0 2 0 p 0 h7w p xy 13 3t z 4d a 2 e",
      "2 6 2 1 1d7 1e 4e l 27v v gw1 v k2p p r p r p r 0 2 1 3 0 3 1 3 3 2 7 r p r 1 2 3 3 7 2 6 s",
      "1 2 3 2 4 2 0 4 6 s p r p r p r p r p r p v o y o y o y o y o y 0 3ee x"]),
   ("Mc",
     ["1s3 0 1k 0 3 2 9 3 2 1 1f 1 1n 2 7 1 3 1 b 0 18 0 1n 2 1v 0 1n 2 9 0 2 1 1i 1 1n 0 2 0 7 1 3",
      "1 b 0 2v 1 2 1 4 2 2 2 b 0 16 2 1q 3 1q 1 1n 0 2 4 3 1 2 1 a 1 t 0 f 1 1n 2 6 2 2 2 b 0 17 1",
      "24 2 7 7 j 1 97 1 1s 0 4s 1 5 0 7 0 3 1 q 1 b 2 3 6 m 1 3 5 3 0 b 2 1a1 0 v 0 3m 0 8 7 2 1",
      "9n 3 3 2 5 1 2 5 69 1 1n 0 2 0 a 0 2 1 9 5 42 0 1d 0 6 0 2 4 2 1 1q 0 v 0 5 1 3 0 1p 0 3 2 2",
      "0 4 1 1d 7 9 1 4s 0 m 0 3sn 1 np0 1 3 0 2h 1 1f f 3z 1 1c 0 1d 1 5 1 3 2 33 1 3 1 p 0 1a 0 2",
      "0 32 0 3 1 6 0 6m 1 2 1 2 1 2 0 jro 0 2 0 3k 0 1a 2 5 1 38 0 p 1 1o 0 1d 2 a 1 e 0 2m 2 4 1",
      "2 0 4r 2 w 1 1n 1 2 3 3 1 3 2 a 0 b 1 2d 2 8 0 3 0 2 3 2 1 2 0 2u 2 9 1 4 0 2z 2 7 0 2 3 3 0",
      "6m 2 7 3 3 0 36 2 9 1 2 0 32 0 2 1 7 0 2w 0 2 1 5 0 7a 2 a 0 6w 5 2 1 5 0 3 0 2 0 3z 2 9 3 5",
      "0 2d 0 u 1 1r 0 bc 0 f 0 2z 0 8 0 3 0 5y 4 5 1 2 0 9r 1 d 0 1d 1 9 1 2 0 d0p 2 2sl 1i 2x 1",
      "j90 1 7 5"]),
   ("Me",
     ["w8 1 4dx 0 17j 3 2 2 qdo 2"]),
   ("Mn",
     ["lc 33 7o 4 7e 18 2 0 2 1 2 1 2 0 21 a 1d k h 0 2u 6 3 5 3 1 2 3 10 0 v q 2k a 1n 8 a 0 p 3 2",
      "8 2 2 2 4 18 2 1o 8 17 n 2 v 1k 0 2 0 5 7 5 0 4 6 b 1 u 0 1n 0 5 3 9 0 l 1 r 0 3 1 1m 0 5 1",
      "5 1 3 2 4 0 v 1 4 0 c 1 1m 0 5 4 2 1 5 0 l 1 n 5 2 0 1n 0 3 0 2 3 9 0 8 1 c 1 v 0 1q 0 d 0",
      "1f 0 4 0 1k 0 2 2 6 2 2 3 8 1 c 1 u 0 1n 0 3 0 7 0 6 1 l 1 t 1 1m 1 5 3 9 0 l 1 u 0 21 0 8 2",
      "2 0 2j 0 3 6 d 7 2r 0 3 8 c 6 22 1 s 0 2 0 2 0 1k d 2 4 2 1 6 a 2 z a 0 2v 3 2 5 2 1 3 1 q 1",
      "5 2 h 3 e 0 3 1 7 0 g 0 jk 2 qb 2 u 1 v 1 v 1 1t 1 2 6 9 0 3 a a 0 1a 2 2 0 3a 1 z 0 3b 2 5",
      "1 a 0 7 2 64 1 3 0 1n 0 2 6 2 0 2 0 3 7 7 9 3 0 1d d 2 f 1e 3 1d 0 2 4 2 0 6 0 15 8 d 1 x 3",
      "3 1 2 2 1l 0 2 1 4 0 2 2 1n 7 3 1 49 2 2 c 2 6 5 0 7 0 4 1 5j 1r k1 c 5 0 4 b 2db 2 3y 0 2p",
      "v ff 3 30 1 n9x 0 5 9 x 1 29 1 7l 0 4 0 5 0 q 1 6 0 48 1 r h e 0 13 7 q a 1b 2 1d 0 3 3 3 1",
      "14 0 1w 5 3 1 3 1 d 0 9 0 1c 0 1g 0 2 2 3 1 6 1 2 0 17 1 9 0 6n 0 3 0 5 0 fn5 0 ki f h f r2",
      "0 6b 0 46 4 1af 2 2 1 6 3 15 2 5 0 4m 1 fy 3 1u 4 8u 1 28 3 1z a 1e 3 3g 0 1j e 16 0 3 1 b 2",
      "1e 3 3 1 8 0 1q 2 11 4 2 7 1r 0 d 1 1h 8 b 3 3 0 2o 2 3 0 2 1 7 0 3 0 4e 0 4 7 m 1 1m 1 4 0",
      "12 6 4 4 1z 5 e 0 2 0 2 0 f 1 2e 7 3 2 2 0 o 0 2d 5 2 0 5 1 2 1 6n 3 7 1 2 1 s 1 2e 7 3 0 2",
      "1 2z 0 2 0 3 5 2 0 2u 0 2 0 3 3 2 4 78 8 2 1 75 1 2 0 5 0 41 3 3 1 5 0 x 9 15 5 3 3 9 0 a 5",
      "3 2 1b c 2 1 bb 6 2 5 2 0 2b l 3 6 2 1 2 1 3f 5 4 0 2 1 2 6 2 0 21 1 4 0 2 0 9o 1 c 1 1h 4 6",
      "0 2 0 o 0 44m 0 7 e 8uh b 4 2 1xd 4 1o 6 t5 0 1s 3 2a 0 f5l 1 3mq 19 3 m f5 2 i 7 3 6 v 3 45",
      "2 1j0 1i 5 1d 9 0 f 0 n 4 2 e 11t 6 2 g 3 6 2 1 2 4 2t 0 4h 6 ag 0 1q 3 e5 3 73 1 kh 6 32 6",
      "gzhy 6n"]),
   ("Nd",
     ["1c 9 17r 9 3r 9 5j 9 bh 9 3b 9 3b 9 3b 9 3b 9 3b 9 3b 9 3b 9 3b 9 3b 9 2p 9 3b 9 1z 9 7r 9",
      "1z 9 1fr 9 13 9 8d 9 3l 9 4n 9 7 9 53 9 2f 9 3r 9 7 9 r7r 9 iv 9 13 9 5j 9 n 9 2f 9 bb 9 gev",
      "9 13b 9 1on 9 7 9 m5 9 3l 9 1p 9 41 9 7r 9 9j 9 3b 9 af 9 2v 9 7 j 25 9 br 9 2v 9 if 9 2f 9",
      "6v 9 1z 9 br 9 d07 9 1t3 9 2f 9 3r 9 ev 9 iuv 9 251 1d 1tt 9 br 9 dz 9 6w 9 nq 9 3o7 9"]),
   ("Nl",
     ["4j2 2 228 y 3 3 2v3 0 q 8 f 2 nfw 9 hu9 1g ct 0 9 0 3r 4 6cr 32"]),
   ("No",
     ["4y 1 6 0 3 2 1ti 5 ah 5 3d 2 3q 6 62 6 i 8 c2 9 ty j vo 9 dd 0 1au 0 4 5 7 9 5j f 16 0 k7 1n",
      "27 l hj t 12i 0 wl 3 3v 9 v 7 2 e x 9 14 e n75 5 hjm 18 1u 3 i 1 9i q 11 3 111 7 q 6 14 8 24",
      "4 n 5 4h 1 3 f 3 19 1t 8 1h 1 v 2 24 4 2x 7 p 7 16 6 97 5 9t u 4f 9 17 3 35 6 3r j ak j 11i",
      "1 bz 8 o8 i no k ex3 6 m7 m jsa j d j 31 o 47j 8 pu 1m 2 2 2 3 25 18 2 e qr c"]),
   ("Pc",
     ["2n 0 6ao 1 k 0 17tr 1 p 2 6o 0"]),
   ("Pd",
     ["19 0 125 0 1g 0 2te 0 sm 0 1l6 5 2rm 0 3 0 w 1 5 0 t 0 cf 0 k 0 34 0 14lt 1 12 0 b 0 4q 0",
      "2u9 0 8v 0"]),
   ("Pe",
     ["15 0 1g 0 w 0 2wu 0 2 0 1gf 0 1wq 0 1k 0 g 0 hn 0 2 0 v 0 u7 0 2 0 2 0 2 0 2 0 2 0 2 0 29 0",
      "x 0 2 0 2 0 2 0 2 0 b9 0 2 0 2 0 2 0 2 0 2 0 2 0 2 0 2 0 2 0 2 0 1t 0 2 0 y 0 ti 0 2 0 2 0 2",
      "0 19 0 2 0 2 0 2 0 bx 0 2 0 2 0 2 0 2 0 4 0 2 0 2 0 2 0 3 1 14in 0 62 0 u 0 2 0 2 0 2 0 2 0",
      "2 0 2 0 2 0 4 0 i 0 2 0 2 0 4r 0 1g 0 w 0 3 0 3 0"]),
   ("Pf",
     ["57 0 672 0 4 0 t 0 2q1 0 2 0 5 0 3 0 g 0 4 0"]),
   ("Pi",
     ["4r 0 67h 0 3 1 3 0 q 0 2q1 0 2 0 5 0 3 0 g 0 4 0"]),
   ("Po",
     ["x 2 2 2 3 0 2 0 2 1 b 1 4 1 s 0 1x 0 6 0 f 1 8 0 jj 0 9 0 cz 5 16 0 1j 0 3 0 3 0 19 1 l 1 2",
      "1 e 0 2 2 23 3 2v 0 18 d 6i 2 1j e w 0 7a 1 b 0 3x 0 3d 0 3e 0 av 0 d 0 a8 0 2j 0 b 1 4p e 2",
      "0 35 0 23 4 5 1 34 5 4s 0 h1 8 li 0 3h 2 20 1 4e 2 2 2 12 5 2 3 8q 1 61 1 3l 6 2 5 4h 1 b 6",
      "t 2 3h 3 1o 4 1r 1 1t 7 c 0 n7 1 9 7 9 8 3 3 3 2 4 a 2 0 2 9 2hn 3 2 1 35 0 40 1 5 2 3 0 3 8",
      "2 1 2 0 3 1 b 4 2 9 3 3 2 0 2 c 3 2 bx 2 1m 0 5a 0 mwz 1 7i 2 2s 0 b 0 38 5 al 3 2f 1 15 2 2",
      "0 1e 1 1c 0 2q c h 1 3h 3 3j 1 h 1 6y 0 g85 6 3 0 n 0 l 1 3 3 4 2 2 3 8 2 7 0 2 1 46 2 2 2 3",
      "0 2 0 2 1 b 1 4 1 s 0 11 0 3 1 bf 2 il 0 1d 0 bj 0 ko 0 5k 0 w 0 7l 8 13 0 35 6 1v 6 2i 3 qh",
      "4 19 3 5a 6 32 1 2 3 3j 3 1d 1 28 3 5 0 e 0 2 2 2h 5 30 0 8b 1 2 1 37 4 b 1 2 0 2x 0 6z m 2y",
      "2 t c 25 0 3n 2 71 0 7d 2 4c 0 2l 7 2c 2 2 4 2m 9 60 0 2o 4 17 1 hy 1 23 c 4w 0 vl 4 29p 1",
      "bjw 1 3q 0 1u 4 9 0 fd 2 88 3 94 0 f5p 0 5wo 4 29g 0 nz 1"]),
   ("Ps",
     ["14 0 1f 0 w 0 2wv 0 2 0 1gf 0 1vj 0 4 0 13 0 1k 0 g 0 hn 0 2 0 v 0 u7 0 2 0 2 0 2 0 2 0 2 0",
      "2 0 29 0 x 0 2 0 2 0 2 0 2 0 b9 0 2 0 2 0 2 0 2 0 2 0 2 0 2 0 2 0 2 0 2 0 1t 0 2 0 y 0 ti 0",
      "2 0 2 0 2 0 q 0 j 0 2 0 2 0 2 0 bx 0 2 0 2 0 2 0 2 0 4 0 2 0 2 0 2 0 3 0 14iq 0 60 0 u 0 2 0",
      "2 0 2 0 2 0 2 0 2 0 2 0 4 0 i 0 2 0 2 0 4r 0 1f 0 w 0 4 0 3 0"]),
   ("Sc",
     ["10 0 3i 3 yy 0 3g 0 dv 1 dv 1 8 0 6u 0 7c 0 g6 0 1wc 0 1qd w qrc 0 gxw 0 31 0 4b 0 64 1 4 1",
      "6bb 3 12jj 0 1wx 0"]),
   ("Sk",
     ["2m 0 2 0 20 0 7 0 5 0 4 0 ei 3 d d 6 6 2 0 2 g 3a 0 f 1 zn 0 4l1 0 2 2 c 2 e 2 e 2 e 1 3a5 1",
      "ndw m a 1 2w 1 r5 0 f 1 fuv g os 0 2 0 4j 0 1c7s 4"]),
   ("Sm",
     ["17 0 h 2 1q 0 2 0 1a 0 5 0 12 0 w 0 lb 0 eo 2 56k 0 e 0 14 2 e 2 3w 0 14 4 7 0 1x 4 6 1 5 0",
      "3 0 3 0 8 0 w 1 3 0 2 0 w 7f x 1 2j 0 v o 15 5 d2 0 a 0 1j 7 34 0 9d 4 3 u b f 75 3m n 1q 5",
      "v 3 75 1d k 3 5 1525 0 mx 0 2 2 4l 0 h 2 1q 0 2 0 3o 0 7 3 2oy 1 13qq 0 q 0 w 0 q 0 w 0 q 0",
      "w 0 q 0 w 0 q 0 4kt 1"]),
   ("So",
     ["4m 0 3 0 5 0 2 0 r6 0 7f 1 3k 1 5r 0 b 0 k 1 6w 0 ec 0 ae 0 3n 5 2 0 3p 0 5s 0 16 0 aw 2 g 0",
      "2 2 3 5 l 0 2 0 2 0 3q 7 2 5 2 1 6 3 5i 1 kx 9 k4 0 k3 0 4e x 9u 9 a 8 138 1 2 3 2 1 b 0 2 1",
      "7 5 2 0 2 0 2 0 5 0 c 1 f 0 2 1 2 0 1n 1 a 4 3 3 2 1 2 1 2 6 2 u 3 1 2 0 2 u 7h 7 5 j 3 6 3",
      "28 2 t q 13 7 1z n a 2a 25 n 52 2 8 2 1h 9 32 2 6v 19 17 1t 73 e9 1b m 1 7 12 3 v 2 2w 6e 5",
      "9y 1 1b p 2 2g d 5x r f 5 0 e 1 d 0 m 1 7 1 9d 1 5 9 x 11 a 0 h u c t 9 0 g v b 12 g 8v 535",
      "1r h3l 1i o2 3 b 1 2 0 fy 2 gcn f 3k 0 1a 2 dh 0 4 0 5 1 e 1 8q 8 1m g 3 2 2 c 4 0 1c 18 1a3",
      "1 gg 0 2gn 0 1p2 7 5 g evf 3 6 0 g2f 0 31g 6n h c3 4d 37 1p 6t b 12 3 1n 6 2 n 1 8 t 5 1o m",
      "1t 4 0 57 2e x6 e7 1k 3 1f 7 2 d 2 1 1c9 0 28t 0 3m 0 k2 17 5 2r d e 3 e 2 e 2 10 o 4g 1l s",
      "e 17 5 8 8 1 f 5 4b 6y 6 k7 5 g 4 c 4 3a 5 2m 7 b 5 0 g b 5 1j 9 9 7 13 9 t 3 b 5 1 1r 9f d",
      "d 3 c 4 9 6 1j 8 e 3 a 7 8 8 42 2 2j"]),
   ("Zl",
     ["6co 0"]),
   ("Zp",
     ["6cp 0"]),
   ("Zs",
     ["w 0 3k 0 4bk 0 1vk a 11 0 1c 0 335 0"])]

end RuleBench.Pattern

import RuleBench.Text.CodeSet

set_option autoImplicit false

/-!
# Properties that a code point has or has not
-/

namespace RuleBench.Pattern

/-- Packed runs of each property. -/
def binaryCode : List (String × List String) :=
  [("ASCII_Hex_Digit",
     ["1c 9 8 5 r 5"]),
   ("Alphabetic",
     ["1t p 7 p 1c 0 b 0 5 0 6 m 2 u 2 cp 5 b f 4 8 0 2 0 2f 0 u h 2 1 3 3 2 0 7 0 2 2 2 0 2 j 2 2a",
      "2 3u 9 4l 2 11 3 0 7 14 14 d 2 0 2 1 2 1 2 0 9 q 5 3 u a 6 1j 2 6 f 2t 2 7 5 7 5 2 b 2 3 0 h",
      "1b e 2s p w a 1 5 0 6 n 3 i k o 8 a 6 n 2 5 9 0 9 15 b b 4 6 7 23 2 f 2 2 5 e e i 2 7 3 1 3",
      "l 2 6 2 0 4 3 4 7 3 1 3 1 2 0 9 0 5 1 2 4 d 1 b 0 5 2 2 5 5 1 3 l 2 6 2 1 2 1 2 1 5 4 5 1 3",
      "1 5 0 8 3 2 0 i 5 c 2 2 8 2 2 2 l 2 6 2 1 2 4 4 8 2 2 2 1 4 0 g 3 m 3 5 2 2 7 3 1 3 l 2 6 2",
      "1 2 4 4 7 3 1 3 1 a 1 5 1 2 4 e 0 h 1 2 5 4 2 2 3 4 1 2 0 2 1 4 1 4 2 4 b 5 4 4 2 2 2 4 0 7",
      "0 15 c 2 2 2 m 2 f 4 7 2 2 2 2 9 1 2 2 3 0 3 3 t 3 2 7 2 2 2 m 2 9 2 4 4 7 2 2 2 2 9 1 7 1 2",
      "3 e 2 d c 2 2 2 14 3 7 2 2 2 2 2 0 6 3 8 4 n 5 2 2 2 h 4 n 2 8 2 0 3 6 9 5 2 0 2 7 j 1 e 1l",
      "6 6 7 0 1g 1 2 0 2 4 2 n 2 0 2 i 2 2 3 4 2 0 7 0 f 3 x 0 1s 7 2 z 5 i 5 f 2 z 1w 1i 2 0 3 4",
      "h 1r b 3 3 11 2 0 6 0 3 16 2 98 2 3 3 6 2 0 2 3 3 14 2 3 3 w 2 3 3 6 2 0 2 3 3 e 2 1k 2 3 3",
      "1u 12 f h 2d 3 5 4 h7 3 g 2 p 6 22 4 a 8 j c k d j d c 2 2 2 1 d 1f 3 i f 0 5 0 1w 2g 8 16 6",
      "1x b u 2 b 5 8 o t 3 4 c 17 5 p 1j r 5 1q 3 j 1f 0 o 1 c 2 1e 1f 2 e 2 7 1g 15 3 3 b 17 2 a",
      "f 1i n 2 b z 3 a 6 16 3 2 16 3 2 5 2 1 4 0 6 5b k x c 7p 3 5 3 11 3 5 3 7 2 0 2 0 2 0 2 u 3",
      "1g 2 6 2 0 4 2 2 6 4 3 3 5 5 c 6 2 2 6 39 0 e 0 h c 2u 0 5 0 3 9 2 0 4 4 7 0 2 0 2 0 2 3 2 a",
      "3 3 6 4 5 0 i 14 mm 1f 1ef 6c 7 3 4 1 d 11 2 0 6 0 3 1j 8 0 h m a 6 2 6 2 6 2 6 2 6 2 6 2 6",
      "2 6 2 v 1c 0 d2 2 q 8 8 4 3 4 5 2d 7 2 2 2h 2 3 6 16 2 2l i v 1d f e9 533 1t h3g 1w 19 3 7g",
      "4 f b 1 l 1a 6 7 4 34 14 8 3 2u 3 1u 3 1 2 0 2 7 m j 2 w p 1f d 1v 2 0 19 5 4 0 2 2 b w 6 y",
      "e s 4 1e 2 b g 0 h f b 4 2 1i a d j m 4 1w 2 0 2 0 p 2 3 f 3 3 c 5 3 5 3 5 a 6 2 6 2 16 2 d",
      "7 3e m 8mb d m 5 1c 6it a5 3 2x 13 6 d 4 6 b 2 c 2 4 2 0 2 1 2 1 2 2z y a2 j 1r 3 1h 15 b 39",
      "4 2 3q 11 p 7 p c 2g 4 5 3 5 3 5 3 2 10 b 2 p 2 i 2 1 2 e 3 d z 3e 1y 1g 7g s 4 1c 1c v e t",
      "6 16 6 t 3 z 5 7 2 4 17 4d j z 5 z 5 13 9 1f d a 2 e 2 6 2 1 2 a 2 e 2 6 2 1 4 1f d 8m a l b",
      "7 p 5 2 15 2 8 1y 5 3 0 2 17 2 1 4 0 3 m b m a u 1u i 2 1 b l b p 1z 1j 7 1 1t 3 2 1 6 7 2 2",
      "2 s 17 s 4 s 10 7 2 r s 1h b l b i e h 33 20 1k 1e e 1e e 13 z r 4 0 6 m 6z 15 2 1 4 1 h 2",
      "1k 0 4 s b 0 9 l 17 h 1b k s m a 1x 18 4 b 1k a 0 e o o 1e i 3 9 y 4 0 a 1r 2 3 a 1 b 0 2 0",
      "10 h 2 x 3 0 7 3 1r 6 2 0 2 3 2 e 2 9 8 1k o 3 2 7 3 1 3 l 2 6 2 1 2 4 4 7 3 1 3 1 4 0 7 0 6",
      "6 t 9 2 0 3 0 2 11 2 9 2 0 3 0 2 3 2 1 4 0 2 0 19 1t 2 2 2 3 l 2 v 1t 3 1 2 0 55 1h 3 6 q 5",
      "z 1q 2 0 4 0 1o 1h 3 0 20 q 3 d m 6 56 1k 2w 1r w 7 3 0 3 7 2 1 2 t 2 1 3 1 3 3 2m 7 3 19 3",
      "5 2 0 2 1 s 1e 3 9 i 1z 6 0 j 20 5k w w 8 2 18 2 6 2 0 1e t 3 l 2 d 22 6 2 1 2 17 4 0 2 1 2",
      "2 2 0 3 1 p 5 2 1 2 10 2 1 2 3 2 0 94 m a g 2 14 4 2 34 0 28 pl 2v 32 i 5f 219 2o g tr i 5 q",
      "32y 6 g6 5a2 1a 1ci fs 8 u i 26 i t j 1b h 3 w k 6 i c1 18 5w 1r 3l 22 5 1k 8 g 1t 1 2 0 d 1",
      "f 4qf 9 yd 16 9 6w8 3 2 6 2 1 2 82 g 0 u 2 3 0 f 3 9 az 1s5 2y 6 c 4 8 8 9 5 0 4ma 2c 2 1y 2",
      "1 3 0 3 1 3 3 2 b 2 0 2 6 2 1s 2 3 3 7 2 6 2 r 2 3 2 4 2 0 4 6 2 9f 3 o 2 o 2 u 2 o 2 u 2 o",
      "2 u 2 o 2 u 2 o 2 7 1f9 u 7 5 5y 6 2 g 3 6 2 1 2 4 6 1p y 0 35 18 b 6 h 0 8y t j 17 dh r 6d",
      "t 3 0 ds 6 2 3 2 1 2 e 2 5g 1o 1v 4 0 4 0 xh 3 2 q 2 1 2 0 3 0 2 9 2 3 2 0 2 0 7 0 5 0 2 0 2",
      "0 2 2 2 1 2 0 3 0 2 0 2 0 2 0 2 0 2 1 2 0 3 3 2 6 2 3 2 3 2 0 2 9 2 g 6 2 2 4 2 g hh p 7 p 7",
      "p 2uv wyn x 37d 7 65 3 4g1 f 5rk g h9 1wj f1 15v 3t6 6 38f"]),
   ("Bidi_Control",
     ["17g 0 54i 1 r 4 1k 3"]),
   ("Bidi_Mirrored",
     ["14 1 j 0 2 0 t 0 2 0 u 0 2 0 1a 0 g 0 2v3 3 1ge 1 1wd 1 b 1 1j 1 f 1 4y 0 5d 3 4 5 4 0 4 1 4",
      "3 2 3 2 0 2 0 5 8 6 0 2 h 6 3 a 1 2 0 2 7 2 v 3 3 6 0 a 1 3 i 6 1 a 4 3 1 5 n 3 f 9 3 l 1 8",
      "1 u6 d 23 0 3 3 2 1 2 2 6 3 6 2 4 d b8 l 3 5 2 d 9 0 8 5 4 0 5 4 2 1 3 4 5 0 2 2 3 1 b 5 3 1",
      "d i 2 3 3 0 2 0 3 0 2 3 6 1 7 2 p 1 c 1 5 3 2 1 3 1 5 16 3 7 2 13 6 0 2 0 4 4 6 2 5 0 4 4 2",
      "0 75 0 ec 3 4 1 2 1 f 1 3 9 18 7 bw 9 3 7 14qm 5 6 1 4j 1 j 0 2 0 t 0 2 0 u 0 2 0 2 1 2 1",
      "16k8 0 1m 0 1m 0 1m 0 1m 0"]),
   ("Case_Ignorable",
     ["13 0 7 0 c 0 10 0 2 0 20 0 5 0 2 0 5 0 3 1 e0 5b 5 1 5 0 a 1 2 0 70 6 5s 0 6 0 1e 18 2 0 2 1",
      "2 1 2 0 19 0 c 5 b a 2 0 10 0 b k h 0 2u 7 2 9 2 3 y 0 2 0 v q 2k a 1n a 5 0 3 0 p n 18 2 19",
      "0 8 1 6 8 16 1l 1k 0 2 0 5 7 5 0 4 6 b 1 e 0 g 0 1n 0 5 3 9 0 l 1 r 0 3 1 1m 0 5 1 5 1 3 2 4",
      "0 v 1 4 0 c 1 1m 0 5 4 2 1 5 0 l 1 n 5 2 0 1n 0 3 0 2 3 9 0 8 1 c 1 v 0 1q 0 d 0 1f 0 4 0 1k",
      "0 2 2 6 2 2 3 8 1 c 1 u 0 1n 0 3 0 7 0 6 1 l 1 t 1 1m 1 5 3 9 0 l 1 u 0 21 0 8 2 2 0 2j 0 3",
      "6 c 8 2r 0 3 8 a 0 2 6 22 1 s 0 2 0 2 0 1k d 2 4 2 1 6 a 2 z a 0 2v 3 2 5 2 1 3 1 q 1 5 2 h",
      "3 e 0 3 1 7 0 g 0 2n 0 gx 2 qb 2 u 1 v 1 v 1 1t 1 2 6 9 0 3 a 4 0 6 0 1a 4 1g 0 1u 1 z 0 3b",
      "2 5 1 a 0 7 2 64 1 3 0 1n 0 2 6 2 0 2 0 3 7 7 9 3 0 14 0 9 u 1e 3 1d 0 2 4 2 0 6 0 15 8 d 1",
      "x 3 3 1 2 2 1l 0 2 1 4 0 2 2 1n 7 3 1 1t 5 2b 2 2 c 2 6 5 0 7 0 4 1 1f 1q e 0 z 2s ce 0 2 2",
      "c 2 e 2 e 2 e 1 d 4 9 1 b 0 3 0 3 4 1e 4 2 9 2 0 e 0 h c 1g w 2a4 1 36 2 3i 0 g 0 2p v 1c 0",
      "d2 0 11 3 4 4 6 0 2m 5 2m 2 lxz 0 yr 5 7j 0 2r 3 2 9 2 0 t 3 29 1 f x 27 0 o 2 2w 2 4 1 9 0",
      "4 0 5 0 q 1 6 0 48 1 r h e 0 13 7 q a 1b 2 1d 0 3 3 3 1 i 0 m 1 1v 5 3 1 3 1 d 0 9 0 10 0 c",
      "0 1g 0 2 2 3 1 6 1 2 0 s 0 f 1 6 1 2 0 2t 4 a 2 3e 0 3 0 5 0 fn5 0 44 g fy f 4 0 d f z 0 3 0",
      "4q 0 8 0 7 0 c 0 10 0 2 0 1c 0 1a 1 1w 0 m 2 ea 0 6b 0 46 4 sm 5 2 15 2 8 g7 2 2 1 6 3 15 2",
      "5 0 4m 1 fy 3 13 0 r 4 2 0 8s 1 28 3 1z a 1e 3 3g 0 1j e 16 0 3 1 b 2 1e 3 3 1 3 0 5 0 b 0",
      "1f 2 11 4 2 7 1r 0 d 1 1h 8 b 3 3 0 2o 2 3 0 2 1 7 0 3 0 4e 0 4 7 m 1 1m 1 4 0 12 6 4 4 1z 5",
      "e 0 2 0 2 0 f 1 2e 7 3 2 2 0 o 0 2d 5 2 0 5 1 2 1 6n 3 7 1 2 1 s 1 2e 7 3 0 2 1 2z 0 2 0 3 5",
      "2 0 2u 0 2 0 3 3 2 4 78 8 2 1 75 1 2 0 5 0 41 3 3 1 5 0 x 9 15 5 3 3 9 0 a 5 3 2 1b c 2 1 bb",
      "6 2 5 2 0 2b l 3 6 2 1 2 1 3f 5 4 0 2 1 2 6 2 0 21 1 4 0 2 0 9o 1 c 1 1h 4 6 0 2 0 o 0 446 g",
      "7 e 8uh b 4 2 1xd 4 1o 6 a 3 e5 2 15 1 df 0 1s g 1t 1 2 1 cng 3 2 6 2 1 2hr 1 2 3 3ml 19 3 m",
      "f5 2 a f 3 6 v 3 45 2 1j0 1i 5 1d 9 0 f 0 n 4 2 e 11t 6 2 g 3 6 2 1 2 4 6 1p y 0 4h d a9 0",
      "1q 3 e4 4 73 1 kh 6 32 7 240 4 gx6q 0 v 2n 3l 6n"]),
   ("Cased",
     ["1t p 7 p 1c 0 b 0 5 0 6 m 2 u 2 5e 2 3 5 5r 3 y 8 1 v 4 2p 0 17 3 3 1 3 3 2 0 7 0 2 2 2 0 2",
      "j 2 2a 2 3u 9 4l 2 11 a 14 26w 11 2 0 6 0 3 16 2 3 ip 2d 3 5 1oj a 6 16 3 2 1t 5b 1t 7p 3 5",
      "3 11 3 5 3 7 2 0 2 0 2 0 2 u 3 1g 2 6 2 0 4 2 2 6 4 3 3 5 5 c 6 2 2 6 39 0 e 0 h c 2u 0 5 0",
      "3 9 2 0 4 4 7 0 2 0 2 0 2 3 2 5 5 0 3 3 6 4 5 0 i v 4 1 mq 1f 1ef 6c 7 3 4 1 d 11 2 0 6 0",
      "nwz 19 j t 3p 2t 4 3 2 1p 3 1 2 0 2 7 m 4 2 2 mu 16 2 d 7 27 fnl 6 d 4 sq p 7 p x2 27 2p z 5",
      "z 39 a 2 e 2 6 2 1 2 a 2 e 2 6 2 1 ck 0 3 2 2 15 2 8 xy 1e e 1e 2m l b l 26z 1r gv5 1r k1t",
      "2c 2 1y 2 1 3 0 3 1 3 3 2 b 2 0 2 6 2 1s 2 3 3 7 2 6 2 r 2 3 2 4 2 0 4 6 2 9f 3 o 2 o 2 u 2",
      "o 2 u 2 o 2 u 2 o 2 u 2 o 2 7 1f9 9 2 j 7 5 7a 1p 1oz 1v 1kd p 7 p 7 p"]),
   ("Changes_When_Casefolded",
     ["1t p 2j 0 b m 2 7 x 0 2 0 2 0 2 0 2 0 2 0 2 0 2 0 2 0 2 0 2 0 2 0 2 0 2 0 2 0 2 0 2 0 2 0 2",
      "0 2 0 2 0 2 0 2 0 2 0 2 0 2 0 2 0 2 0 3 0 2 0 2 0 2 0 2 0 2 0 2 0 2 0 2 1 2 0 2 0 2 0 2 0 2",
      "0 2 0 2 0 2 0 2 0 2 0 2 0 2 0 2 0 2 0 2 0 2 0 2 0 2 0 2 0 2 0 2 0 2 0 2 1 2 0 2 0 2 0 2 1 2",
      "0 2 1 2 2 3 3 2 1 2 2 4 1 2 1 2 0 2 0 2 1 2 0 3 0 2 1 2 2 2 0 2 1 4 0 8 1 2 1 2 1 2 0 2 0 2",
      "0 2 0 2 0 2 0 2 0 2 0 3 0 2 0 2 0 2 0 2 0 2 0 2 0 2 0 2 0 3 1 2 0 2 2 2 0 2 0 2 0 2 0 2 0 2",
      "0 2 0 2 0 2 0 2 0 2 0 2 0 2 0 2 0 2 0 2 0 2 0 2 0 2 0 2 0 2 0 2 0 2 0 2 0 2 0 2 0 2 0 2 0 2",
      "0 8 1 2 1 3 0 2 3 2 0 2 0 2 0 2 0 6v 0 17 0 2 0 4 0 9 0 7 0 2 2 2 0 2 1 2 g 2 8 n 0 d 2 4 1",
      "2 0 2 0 2 0 2 0 2 0 2 0 2 0 2 0 2 0 2 0 2 0 2 0 2 1 3 1 2 0 2 1 3 1e 1d 0 2 0 2 0 2 0 2 0 2",
      "0 2 0 2 0 2 0 2 0 2 0 2 0 2 0 2 0 2 0 2 0 2 0 a 0 2 0 2 0 2 0 2 0 2 0 2 0 2 0 2 0 2 0 2 0 2",
      "0 2 0 2 0 2 0 2 0 2 0 2 0 2 0 2 0 2 0 2 0 2 0 2 0 2 0 2 0 2 0 2 1 2 0 2 0 2 0 2 0 2 0 2 0 3",
      "0 2 0 2 0 2 0 2 0 2 0 2 0 2 0 2 0 2 0 2 0 2 0 2 0 2 0 2 0 2 0 2 0 2 0 2 0 2 0 2 0 2 0 2 0 2",
      "0 2 0 2 0 2 0 2 0 2 0 2 0 2 0 2 0 2 0 2 0 2 0 2 0 2 0 2 0 2 0 2 0 2 0 2 0 2 0 2 0 2 0 2 0 2",
      "0 2 0 3 11 1d 0 26x 11 2 0 6 0 mj 5 1oj 9 7 16 3 2 8x 0 2 0 2 0 2 0 2 0 2 0 2 0 2 0 2 0 2 0",
      "2 0 2 0 2 0 2 0 2 0 2 0 2 0 2 0 2 0 2 0 2 0 2 0 2 0 2 0 2 0 2 0 2 0 2 0 2 0 2 0 2 0 2 0 2 0",
      "2 0 2 0 2 0 2 0 2 0 2 0 2 0 2 0 2 0 2 0 2 0 2 0 2 0 2 0 2 0 2 0 2 0 2 0 2 0 2 0 2 0 2 0 2 0",
      "2 0 2 0 2 0 2 0 2 0 2 0 2 0 2 0 2 0 2 0 2 0 2 0 2 0 2 0 2 0 2 0 2 0 2 0 2 0 6 1 3 0 2 0 2 0",
      "2 0 2 0 2 0 2 0 2 0 2 0 2 0 2 0 2 0 2 0 2 0 2 0 2 0 2 0 2 0 2 0 2 0 2 0 2 0 2 0 2 0 2 0 2 0",
      "2 0 2 0 2 0 2 0 2 0 2 0 2 0 2 0 2 0 2 0 2 0 2 0 2 0 2 0 2 0 2 0 2 0 2 0 2 0 2 0 2 0 2 0 2 0",
      "a 7 9 5 b 7 9 7 9 5 c 0 2 0 2 0 2 0 9 7 h 1b 3 2 3 5 6 2 3 5 c 3 d 4 6 2 3 5 8a 0 4 1 7 0 1a",
      "f k 0 mr p 1f5 1b 1d 0 2 2 3 0 2 0 2 0 2 3 2 0 3 0 9 2 2 0 2 0 2 0 2 0 2 0 2 0 2 0 2 0 2 0 2",
      "0 2 0 2 0 2 0 2 0 2 0 2 0 2 0 2 0 2 0 2 0 2 0 2 0 2 0 2 0 2 0 2 0 2 0 2 0 2 0 2 0 2 0 2 0 2",
      "0 2 0 2 0 2 0 2 0 2 0 2 0 2 0 2 0 2 0 2 0 2 0 2 0 2 0 2 0 2 0 2 0 9 0 2 0 5 0 nym 0 2 0 2 0",
      "2 0 2 0 2 0 2 0 2 0 2 0 2 0 2 0 2 0 2 0 2 0 2 0 2 0 2 0 2 0 2 0 2 0 2 0 2 0 2 0 k 0 2 0 2 0",
      "2 0 2 0 2 0 2 0 2 0 2 0 2 0 2 0 2 0 2 0 2 0 3s 0 2 0 2 0 2 0 2 0 2 0 2 0 4 0 2 0 2 0 2 0 2 0",
      "2 0 2 0 2 0 2 0 2 0 2 0 2 0 2 0 2 0 2 0 2 0 2 0 2 0 2 0 2 0 2 0 2 0 2 0 2 0 2 0 2 0 2 0 2 0",
      "2 0 2 0 2 0 b 0 2 0 2 1 2 0 2 0 2 0 2 0 5 0 2 0 3 0 2 0 4 0 2 0 2 0 2 0 2 0 2 0 2 0 2 0 2 0",
      "2 0 2 4 2 4 2 0 2 0 2 0 2 0 2 0 2 0 2 0 2 3 2 0 2 1 4 0 6 0 2 0 2 0 2 0 p 0 or 27 fnl 6 d 4",
      "sq p xy 13 3t z 4d a 2 e 2 6 2 1 1d7 1e 4e l 27v v gw1 v o81 x"]),
   ("Changes_When_Casemapped",
     ["1t p 7 p 1n 0 b m 2 u 2 1r 2 2b 2 r 3 d 3 1 2 0 5 2k 2 h 7 q 2 1 2 0 2 1 4 1 2 3 2 4 3 0 2 1",
      "3 0 8 0 3 0 2 1 4 5 6 0 b 1 4n 0 17 3 3 1 4 2 2 0 7 0 2 2 2 0 2 j 2 1a 4 w 2 4 2 3o 9 4l 2",
      "11 b 12 26x 11 2 0 6 0 3 16 3 2 ip 2d 3 5 1oj a 6 16 3 2 56 0 4 0 h 0 36 4b 3 0 2 39 3 5 3",
      "11 3 5 3 7 2 0 2 0 2 0 2 u 3 1g 2 6 2 0 4 2 2 6 4 3 3 5 5 c 6 2 2 6 8a 0 4 1 7 0 s 0 i v 4 1",
      "mq 1f 1ef 34 2 1 2 1 8 2t 8 3 4 1 d 11 2 0 6 0 nwz 19 j r 3r d 3 1p a e 4 2 3 4 2 o 2 t 3 1",
      "2 0 2 7 p 1 nx 0 t 27 fnl 6 d 4 sq p 7 p x2 27 2p z 5 z 39 a 2 e 2 6 2 1 2 a 2 e 2 6 2 1 1c4",
      "1e e 1e 2m l b l 26z 1r gv5 1r o75 1v"]),
   ("Changes_When_Lowercased",
     ["1t p 2u m 2 6 y 0 2 0 2 0 2 0 2 0 2 0 2 0 2 0 2 0 2 0 2 0 2 0 2 0 2 0 2 0 2 0 2 0 2 0 2 0 2",
      "0 2 0 2 0 2 0 2 0 2 0 2 0 2 0 2 0 3 0 2 0 2 0 2 0 2 0 2 0 2 0 2 0 3 0 2 0 2 0 2 0 2 0 2 0 2",
      "0 2 0 2 0 2 0 2 0 2 0 2 0 2 0 2 0 2 0 2 0 2 0 2 0 2 0 2 0 2 0 2 0 2 1 2 0 2 0 4 1 2 0 2 1 2",
      "2 3 3 2 1 2 2 4 1 2 1 2 0 2 0 2 1 2 0 3 0 2 1 2 2 2 0 2 1 4 0 8 1 2 1 2 1 2 0 2 0 2 0 2 0 2",
      "0 2 0 2 0 2 0 3 0 2 0 2 0 2 0 2 0 2 0 2 0 2 0 2 0 3 1 2 0 2 2 2 0 2 0 2 0 2 0 2 0 2 0 2 0 2",
      "0 2 0 2 0 2 0 2 0 2 0 2 0 2 0 2 0 2 0 2 0 2 0 2 0 2 0 2 0 2 0 2 0 2 0 2 0 2 0 2 0 2 0 8 1 2",
      "1 3 0 2 3 2 0 2 0 2 0 2 0 82 0 2 0 4 0 9 0 7 0 2 2 2 0 2 1 2 g 2 8 10 0 9 0 2 0 2 0 2 0 2 0",
      "2 0 2 0 2 0 2 0 2 0 2 0 2 0 6 0 3 0 2 1 3 1e 1d 0 2 0 2 0 2 0 2 0 2 0 2 0 2 0 2 0 2 0 2 0 2",
      "0 2 0 2 0 2 0 2 0 2 0 a 0 2 0 2 0 2 0 2 0 2 0 2 0 2 0 2 0 2 0 2 0 2 0 2 0 2 0 2 0 2 0 2 0 2",
      "0 2 0 2 0 2 0 2 0 2 0 2 0 2 0 2 0 2 0 2 1 2 0 2 0 2 0 2 0 2 0 2 0 3 0 2 0 2 0 2 0 2 0 2 0 2",
      "0 2 0 2 0 2 0 2 0 2 0 2 0 2 0 2 0 2 0 2 0 2 0 2 0 2 0 2 0 2 0 2 0 2 0 2 0 2 0 2 0 2 0 2 0 2",
      "0 2 0 2 0 2 0 2 0 2 0 2 0 2 0 2 0 2 0 2 0 2 0 2 0 2 0 2 0 2 0 2 0 2 0 2 0 3 11 28a 11 2 0 6",
      "0 k3 2d 1p0 0 7 16 3 2 8x 0 2 0 2 0 2 0 2 0 2 0 2 0 2 0 2 0 2 0 2 0 2 0 2 0 2 0 2 0 2 0 2 0",
      "2 0 2 0 2 0 2 0 2 0 2 0 2 0 2 0 2 0 2 0 2 0 2 0 2 0 2 0 2 0 2 0 2 0 2 0 2 0 2 0 2 0 2 0 2 0",
      "2 0 2 0 2 0 2 0 2 0 2 0 2 0 2 0 2 0 2 0 2 0 2 0 2 0 2 0 2 0 2 0 2 0 2 0 2 0 2 0 2 0 2 0 2 0",
      "2 0 2 0 2 0 2 0 2 0 2 0 2 0 2 0 2 0 2 0 2 0 2 0 a 0 2 0 2 0 2 0 2 0 2 0 2 0 2 0 2 0 2 0 2 0",
      "2 0 2 0 2 0 2 0 2 0 2 0 2 0 2 0 2 0 2 0 2 0 2 0 2 0 2 0 2 0 2 0 2 0 2 0 2 0 2 0 2 0 2 0 2 0",
      "2 0 2 0 2 0 2 0 2 0 2 0 2 0 2 0 2 0 2 0 2 0 2 0 2 0 2 0 2 0 a 7 9 5 b 7 9 7 9 5 c 0 2 0 2 0",
      "2 0 9 7 p 7 9 7 9 7 9 4 c 4 c 3 d 4 c 4 8a 0 4 1 7 0 1a f k 0 mr p 1f5 1b 1d 0 2 2 3 0 2 0 2",
      "0 2 3 2 0 3 0 9 2 2 0 2 0 2 0 2 0 2 0 2 0 2 0 2 0 2 0 2 0 2 0 2 0 2 0 2 0 2 0 2 0 2 0 2 0 2",
      "0 2 0 2 0 2 0 2 0 2 0 2 0 2 0 2 0 2 0 2 0 2 0 2 0 2 0 2 0 2 0 2 0 2 0 2 0 2 0 2 0 2 0 2 0 2",
      "0 2 0 2 0 2 0 2 0 2 0 2 0 2 0 9 0 2 0 5 0 nym 0 2 0 2 0 2 0 2 0 2 0 2 0 2 0 2 0 2 0 2 0 2 0",
      "2 0 2 0 2 0 2 0 2 0 2 0 2 0 2 0 2 0 2 0 2 0 k 0 2 0 2 0 2 0 2 0 2 0 2 0 2 0 2 0 2 0 2 0 2 0",
      "2 0 2 0 3s 0 2 0 2 0 2 0 2 0 2 0 2 0 4 0 2 0 2 0 2 0 2 0 2 0 2 0 2 0 2 0 2 0 2 0 2 0 2 0 2 0",
      "2 0 2 0 2 0 2 0 2 0 2 0 2 0 2 0 2 0 2 0 2 0 2 0 2 0 2 0 2 0 2 0 2 0 b 0 2 0 2 1 2 0 2 0 2 0",
      "2 0 5 0 2 0 3 0 2 0 4 0 2 0 2 0 2 0 2 0 2 0 2 0 2 0 2 0 2 0 2 4 2 4 2 0 2 0 2 0 2 0 2 0 2 0",
      "2 0 2 3 2 0 2 1 4 0 6 0 2 0 2 0 2 0 p 0 h7w p xy 13 3t z 4d a 2 e 2 6 2 1 1d7 1e 4e l 27v v",
      "gw1 v o81 x"]),
   ("Changes_When_Titlecased",
     ["2p p 1n 0 16 n 2 7 2 0 2 0 2 0 2 0 2 0 2 0 2 0 2 0 2 0 2 0 2 0 2 0 2 0 2 0 2 0 2 0 2 0 2 0 2",
      "0 2 0 2 0 2 0 2 0 2 0 2 0 2 0 2 0 2 0 3 0 2 0 2 0 2 0 2 0 2 0 2 0 2 1 2 0 2 0 2 0 2 0 2 0 2",
      "0 2 0 2 0 2 0 2 0 2 0 2 0 2 0 2 0 2 0 2 0 2 0 2 0 2 0 2 0 2 0 2 0 2 0 3 0 2 0 2 2 3 0 2 0 3",
      "0 4 0 6 0 3 0 4 2 3 0 3 0 2 0 2 0 3 0 5 0 3 0 4 0 2 0 3 0 4 0 2 0 5 0 2 1 2 1 2 0 2 0 2 0 2",
      "0 2 0 2 0 2 0 2 0 2 1 2 0 2 0 2 0 2 0 2 0 2 0 2 0 2 0 2 2 2 0 2 0 4 0 2 0 2 0 2 0 2 0 2 0 2",
      "0 2 0 2 0 2 0 2 0 2 0 2 0 2 0 2 0 2 0 2 0 2 0 2 0 2 0 4 0 2 0 2 0 2 0 2 0 2 0 2 0 2 0 2 0 9",
      "0 3 1 2 0 5 0 2 0 2 0 2 0 2 5 2 1 2 0 2 1 4 1 2 3 2 4 3 0 2 1 3 0 8 0 3 0 2 1 4 5 6 0 b 1 4n",
      "0 18 0 2 0 4 0 4 2 j 0 s y 2 1 4 2 2 0 2 0 2 0 2 0 2 0 2 0 2 0 2 0 2 0 2 0 2 0 2 4 2 0 3 0 3",
      "0 1h 1b 2 0 2 0 2 0 2 0 2 0 2 0 2 0 2 0 2 0 2 0 2 0 2 0 2 0 2 0 2 0 2 0 2 0 a 0 2 0 2 0 2 0",
      "2 0 2 0 2 0 2 0 2 0 2 0 2 0 2 0 2 0 2 0 2 0 2 0 2 0 2 0 2 0 2 0 2 0 2 0 2 0 2 0 2 0 2 0 2 0",
      "3 0 2 0 2 0 2 0 2 0 2 0 2 1 2 0 2 0 2 0 2 0 2 0 2 0 2 0 2 0 2 0 2 0 2 0 2 0 2 0 2 0 2 0 2 0",
      "2 0 2 0 2 0 2 0 2 0 2 0 2 0 2 0 2 0 2 0 2 0 2 0 2 0 2 0 2 0 2 0 2 0 2 0 2 0 2 0 2 0 2 0 2 0",
      "2 0 2 0 2 0 2 0 2 0 2 0 2 0 2 0 2 0 1e 12 2up 5 1oj 8 2 0 6n 0 4 0 h 0 37 0 2 0 2 0 2 0 2 0",
      "2 0 2 0 2 0 2 0 2 0 2 0 2 0 2 0 2 0 2 0 2 0 2 0 2 0 2 0 2 0 2 0 2 0 2 0 2 0 2 0 2 0 2 0 2 0",
      "2 0 2 0 2 0 2 0 2 0 2 0 2 0 2 0 2 0 2 0 2 0 2 0 2 0 2 0 2 0 2 0 2 0 2 0 2 0 2 0 2 0 2 0 2 0",
      "2 0 2 0 2 0 2 0 2 0 2 0 2 0 2 0 2 0 2 0 2 0 2 0 2 0 2 0 2 0 2 0 2 0 2 0 2 0 2 0 2 0 2 0 2 0",
      "2 6 6 0 2 0 2 0 2 0 2 0 2 0 2 0 2 0 2 0 2 0 2 0 2 0 2 0 2 0 2 0 2 0 2 0 2 0 2 0 2 0 2 0 2 0",
      "2 0 2 0 2 0 2 0 2 0 2 0 2 0 2 0 2 0 2 0 2 0 2 0 2 0 2 0 2 0 2 0 2 0 2 0 2 0 2 0 2 0 2 0 2 0",
      "2 0 2 0 2 8 9 5 b 7 9 7 9 5 b 7 9 7 9 d 3 7 9 7 9 7 9 4 2 1 7 0 4 2 2 1 9 3 3 1 9 7 b 2 2 1",
      "9j 0 y f 5 0 ng p 1fr 1b 2 0 4 1 2 0 2 0 2 0 7 0 3 0 b 0 2 0 2 0 2 0 2 0 2 0 2 0 2 0 2 0 2 0",
      "2 0 2 0 2 0 2 0 2 0 2 0 2 0 2 0 2 0 2 0 2 0 2 0 2 0 2 0 2 0 2 0 2 0 2 0 2 0 2 0 2 0 2 0 2 0",
      "2 0 2 0 2 0 2 0 2 0 2 0 2 0 2 0 2 0 2 0 2 0 2 0 2 0 2 0 2 0 2 0 2 0 9 0 2 0 5 0 d 11 2 0 6 0",
      "nx0 0 2 0 2 0 2 0 2 0 2 0 2 0 2 0 2 0 2 0 2 0 2 0 2 0 2 0 2 0 2 0 2 0 2 0 2 0 2 0 2 0 2 0 2",
      "0 k 0 2 0 2 0 2 0 2 0 2 0 2 0 2 0 2 0 2 0 2 0 2 0 2 0 2 0 3s 0 2 0 2 0 2 0 2 0 2 0 2 0 4 0 2",
      "0 2 0 2 0 2 0 2 0 2 0 2 0 2 0 2 0 2 0 2 0 2 0 2 0 2 0 2 0 2 0 2 0 2 0 2 0 2 0 2 0 2 0 2 0 2",
      "0 2 0 2 0 2 0 2 0 2 0 2 0 b 0 2 0 3 0 2 0 2 0 2 0 2 0 5 0 5 0 2 1 3 0 2 0 2 0 2 0 2 0 2 0 2",
      "0 2 0 2 0 2 0 c 0 2 0 2 0 2 0 2 0 2 0 2 0 2 0 5 0 2 0 3 0 4 0 2 0 2 0 2 0 2 0 2 0 r 0 nx 0 t",
      "27 fnl 6 d 4 tm p y6 13 3t z 4c a 2 e 2 6 2 1 1dw 1e 3i l 27v v gw1 v o83 x"]),
   ("Changes_When_Uppercased",
     ["2p p 1n 0 16 n 2 7 2 0 2 0 2 0 2 0 2 0 2 0 2 0 2 0 2 0 2 0 2 0 2 0 2 0 2 0 2 0 2 0 2 0 2 0 2",
      "0 2 0 2 0 2 0 2 0 2 0 2 0 2 0 2 0 2 0 3 0 2 0 2 0 2 0 2 0 2 0 2 0 2 1 2 0 2 0 2 0 2 0 2 0 2",
      "0 2 0 2 0 2 0 2 0 2 0 2 0 2 0 2 0 2 0 2 0 2 0 2 0 2 0 2 0 2 0 2 0 2 0 3 0 2 0 2 2 3 0 2 0 3",
      "0 4 0 6 0 3 0 4 2 3 0 3 0 2 0 2 0 3 0 5 0 3 0 4 0 2 0 3 0 4 0 2 0 6 1 2 1 2 1 2 0 2 0 2 0 2",
      "0 2 0 2 0 2 0 2 1 2 0 2 0 2 0 2 0 2 0 2 0 2 0 2 0 2 1 2 1 2 0 4 0 2 0 2 0 2 0 2 0 2 0 2 0 2",
      "0 2 0 2 0 2 0 2 0 2 0 2 0 2 0 2 0 2 0 2 0 2 0 2 0 4 0 2 0 2 0 2 0 2 0 2 0 2 0 2 0 2 0 9 0 3",
      "1 2 0 5 0 2 0 2 0 2 0 2 5 2 1 2 0 2 1 4 1 2 3 2 4 3 0 2 1 3 0 8 0 3 0 2 1 4 5 6 0 b 1 4n 0",
      "18 0 2 0 4 0 4 2 j 0 s y 2 1 4 2 2 0 2 0 2 0 2 0 2 0 2 0 2 0 2 0 2 0 2 0 2 0 2 4 2 0 3 0 3 0",
      "1h 1b 2 0 2 0 2 0 2 0 2 0 2 0 2 0 2 0 2 0 2 0 2 0 2 0 2 0 2 0 2 0 2 0 2 0 a 0 2 0 2 0 2 0 2",
      "0 2 0 2 0 2 0 2 0 2 0 2 0 2 0 2 0 2 0 2 0 2 0 2 0 2 0 2 0 2 0 2 0 2 0 2 0 2 0 2 0 2 0 2 0 3",
      "0 2 0 2 0 2 0 2 0 2 0 2 1 2 0 2 0 2 0 2 0 2 0 2 0 2 0 2 0 2 0 2 0 2 0 2 0 2 0 2 0 2 0 2 0 2",
      "0 2 0 2 0 2 0 2 0 2 0 2 0 2 0 2 0 2 0 2 0 2 0 2 0 2 0 2 0 2 0 2 0 2 0 2 0 2 0 2 0 2 0 2 0 2",
      "0 2 0 2 0 2 0 2 0 2 0 2 0 2 0 2 0 1e 12 289 16 3 2 l5 5 1oj 8 2 0 6n 0 4 0 h 0 37 0 2 0 2 0",
      "2 0 2 0 2 0 2 0 2 0 2 0 2 0 2 0 2 0 2 0 2 0 2 0 2 0 2 0 2 0 2 0 2 0 2 0 2 0 2 0 2 0 2 0 2 0",
      "2 0 2 0 2 0 2 0 2 0 2 0 2 0 2 0 2 0 2 0 2 0 2 0 2 0 2 0 2 0 2 0 2 0 2 0 2 0 2 0 2 0 2 0 2 0",
      "2 0 2 0 2 0 2 0 2 0 2 0 2 0 2 0 2 0 2 0 2 0 2 0 2 0 2 0 2 0 2 0 2 0 2 0 2 0 2 0 2 0 2 0 2 0",
      "2 0 2 0 2 6 6 0 2 0 2 0 2 0 2 0 2 0 2 0 2 0 2 0 2 0 2 0 2 0 2 0 2 0 2 0 2 0 2 0 2 0 2 0 2 0",
      "2 0 2 0 2 0 2 0 2 0 2 0 2 0 2 0 2 0 2 0 2 0 2 0 2 0 2 0 2 0 2 0 2 0 2 0 2 0 2 0 2 0 2 0 2 0",
      "2 0 2 0 2 0 2 0 2 8 9 5 b 7 9 7 9 5 b 7 9 7 9 d 3 1g 2 1 5 0 2 0 4 2 2 1 5 0 4 3 3 1 9 7 b 2",
      "2 1 5 0 9e 0 y f 5 0 ng p 1fr 1b 2 0 4 1 2 0 2 0 2 0 7 0 3 0 b 0 2 0 2 0 2 0 2 0 2 0 2 0 2 0",
      "2 0 2 0 2 0 2 0 2 0 2 0 2 0 2 0 2 0 2 0 2 0 2 0 2 0 2 0 2 0 2 0 2 0 2 0 2 0 2 0 2 0 2 0 2 0",
      "2 0 2 0 2 0 2 0 2 0 2 0 2 0 2 0 2 0 2 0 2 0 2 0 2 0 2 0 2 0 2 0 2 0 2 0 2 0 9 0 2 0 5 0 d 11",
      "2 0 6 0 nx0 0 2 0 2 0 2 0 2 0 2 0 2 0 2 0 2 0 2 0 2 0 2 0 2 0 2 0 2 0 2 0 2 0 2 0 2 0 2 0 2",
      "0 2 0 2 0 k 0 2 0 2 0 2 0 2 0 2 0 2 0 2 0 2 0 2 0 2 0 2 0 2 0 2 0 3s 0 2 0 2 0 2 0 2 0 2 0 2",
      "0 4 0 2 0 2 0 2 0 2 0 2 0 2 0 2 0 2 0 2 0 2 0 2 0 2 0 2 0 2 0 2 0 2 0 2 0 2 0 2 0 2 0 2 0 2",
      "0 2 0 2 0 2 0 2 0 2 0 2 0 2 0 2 0 b 0 2 0 3 0 2 0 2 0 2 0 2 0 5 0 5 0 2 1 3 0 2 0 2 0 2 0 2",
      "0 2 0 2 0 2 0 2 0 2 0 c 0 2 0 2 0 2 0 2 0 2 0 2 0 2 0 5 0 2 0 3 0 4 0 2 0 2 0 2 0 2 0 2 0 r",
      "0 nx 0 t 27 fnl 6 d 4 tm p y6 13 3t z 4c a 2 e 2 6 2 1 1dw 1e 3i l 27v v gw1 v o83 x"]),
   ("Dash",
     ["19 0 125 0 1g 0 2te 0 sm 0 1l6 5 1q 0 14 0 g 0 av 0 2dh 0 3 0 w 1 5 0 t 0 cf 0 k 0 34 0 14lt",
      "1 12 0 b 0 4q 0 2u9 0 8v 0"]),
   ("Default_Ignorable_Code_Point",
     ["4t 0 iq 0 jx 0 283 1 190 1 2e 4 1ks 4 r 4 1e f 3cl 0 14f0 f 6o 0 4h 0 28 8 119k 3 440 7 h406",
      "35r"]),
   ("Deprecated",
     ["95 0 10q 0 1s4 0 2 0 1m2 1 1qe 5 je 1 jh07 0"]),
   ("Diacritic",
     ["2m 0 2 0 20 0 7 0 5 0 3 1 e0 4e 2 7 6 5 i 1 5 0 a 1 72 4 5u 0 1k 18 2 0 2 1 2 1 2 0 3o 7 5 1",
      "3r 1 5 1 4 2 1w q 2k a 1n a z 1 3j 7 16 9 h r 1q 0 h 0 4 3 t 0 23 0 h 0 33 0 h 0 33 0 h 0 1c",
      "2 1p 0 h 0 8 0 3c 0 33 0 h 0 33 0 h 0 32 1 h 0 3h 0 34 0 d 5 2 0 30 0 e 4 24 1 s 0 2 0 2 0 5",
      "1 1v 2 2 1 1r 0 35 0 2 1 15 1 5 4 q 6 2 0 b 1 jm 2 qd 1 v 0 45 a a 0 9o 2 85 0 l 7 3 0 1d e",
      "3 a 2x 0 g 0 13 8 1j 1 1n 0 c 1 1v 1 1t 5 2b o 5 0 7 0 3 2 1f 1q 1d z 6 b 12 a ce 0 2 2 c 2",
      "e 2 e 2 e 1 2k1 2 8u 0 e3 5 2y 3 2o 0 n77 0 d 1 2 0 t 1 2b 1 f x 2v 2 32 1 d 0 12 0 48 0 s h",
      "1m 3 11 0 2o 0 d 0 11 0 46 2 1u 3 1g 0 2t 4 a 2 3l 1 fn5 0 le f 7j 0 2 0 1c 0 1a 1 1w 0 l9 0",
      "ww 5 2 15 2 8 hq 2 5 0 4m 1 fw 5 13 0 r 4 b4 2 1z a 1e 3 5d 0 16 0 21 1 3d 1 1r 0 25 0 a 2",
      "2x 1 4z 1 29 1 h 0 p 6 4 4 2i 2 2 1 e 1 2o 0 4 0 3g 1 70 1 3j 0 3b 1 38 0 7i 1 77 1 5 0 4d 0",
      "2c 0 j 0 2a 0 bq 0 77 0 2 1 2a 0 bu 1 o 0 44t e 8uy 0 1xd 4 1o 6 fp 1 f7 g 29 1 cn3 3 2 6 2",
      "1 64i 19 3 m f5 2 4 5 9 7 3 6 v 3 2v7 1p 5f 6 ag 0 1q 3 lb 1 kh 6 32 2 2 2"]),
   ("Emoji",
     ["z 0 7 0 6 9 34 0 5 0 68e 0 d 0 61 0 n 0 2j 5 g 1 a8 1 d 0 4n 0 q a 5 2 5k 0 6g 1 b 0 a 0 1n",
      "3 2 4 a 0 3 0 3 1 3 0 5 0 3 0 2 1 3 0 4 0 4 1 9 2 6 0 2 0 6 b c 1 3 0 2 1 2 0 j 0 3 1 j 5 2",
      "0 2 1 4 1 6 0 3 1 5 1 c 1 6 1 3 0 6 1 2 0 2 1 l 1 6 5 2 3 3 0 5 0 3 0 3 5 2 0 3 0 2 0 2 0 7",
      "0 4 0 7 0 b 1 g 0 3 0 5 0 2 0 5 2 2 0 c 1 1d 2 a 0 f 0 f 0 ad 1 cw 2 k 1 1g 0 5 0 yj 0 d 0",
      "gq 0 2 0 2fzf 0 5n 0 4h 1 d 1 f 0 3 9 24 p 2 1 o 0 l 0 3 8 m 1 4v x 3 33 3 1 2 2 3 2a 3 2 2",
      "7a 2 1q c 5 2 n 8 1 3 7 d 0 3 3 3 0 5 1 e 1 3 0 9 1 a 0 6 2 d 2 9 2 3 0 2 0 5 0 7 0 4 0 7 2d",
      "1d 1x 6 7 3 2 5 9 4 0 2 1 4 0 3 9 6c b 5 0 7w 1a 2 9 2 54 35 c 4 9 6 1j 8 e 3 a 7 8"]),
   ("Emoji_Component",
     ["z 0 7 0 6 9 6ac 0 5y 0 17os 0 1c5z p e4 4 14h 3 gw31 2n"]),
   ("Emoji_Modifier",
     ["2qrf 4"]),
   ("Emoji_Modifier_Base",
     ["7j1 0 64 0 h 3 2iyg 0 1p 2 3 0 3 2 3a 1 3 a m i 4 0 5 2 2 2 8 0 2 0 p 0 5m 1 5 0 m 0 5 1 4v",
      "2 4 4 2c 0 h 2 a 0 c 0 g0 0 3 0 9 7 7 0 a 9 3 2 1l 0 1q 1 2 1 2 0 i 2 2 c 6e 2 17 8"]),
   ("Emoji_Presentation",
     ["6xm 1 5q 3 4 0 3 0 ei 1 m 1 1f b 18 0 k 0 e 0 9 1 i 1 6 1 9 0 6 0 m 0 8 1 2 0 5 0 3 0 8 0 5",
      "1 t 0 10 0 2 0 5 2 2 0 1q 2 p 0 f 0 nw 1 1g 0 5 0 2hf3 0 5n 0 5b 0 3 9 24 p 2 0 p 0 l 0 3 4",
      "2 2 m 1 4v w d 8 2 1x 2 l d 16 5 4 d g 4 0 4 1y 2 0 2 56 3 1q e 3 2 n j 0 r 1 e 0 2f 2c 1d",
      "1x 7 0 4 2 3 2 5 3 c 1 8 8 6c b 5 0 7w 1a 2 9 2 54 35 c 4 9 6 1j 8 e 3 a 7 8"]),
   ("Extended_Pictographic",
     ["4p 0 5 0 68e 0 d 0 61 0 n 0 2j 5 g 1 a8 1 d 0 4n 0 q a 5 2 5k 0 6g 1 b 0 a 0 1n 3 2 4 a 0 3",
      "0 3 1 3 0 5 0 3 0 2 1 3 0 4 0 4 1 9 2 6 0 2 0 6 b c 1 3 0 2 1 2 0 j 0 3 1 j 5 2 0 2 1 4 1 6",
      "0 3 1 5 1 c 1 6 1 3 0 6 1 2 0 2 1 l 1 6 5 2 3 3 0 5 0 3 0 3 5 2 0 3 0 2 0 2 0 7 0 4 0 7 0 b",
      "1 g 0 3 0 5 0 2 0 5 2 2 0 c 1 1d 2 a 0 f 0 f 0 ad 1 cw 2 k 1 1g 0 5 0 yj 0 d 0 gq 0 2 0 2fzf",
      "0 14 3 2t b g 1 g 0 f 1 12 9 35 1 d 1 f 0 3 9 k 1j s e b 0 l 0 3 8 2 3 a m 7 57 3 33 3 1 2 2",
      "3 2a 3 2 2 3 6 71 2 1q c 5 2 n 8 1 3 7 d 0 3 3 3 0 5 1 e 1 3 0 9 1 a 0 6 2 d 2 9 2 3 0 2 0 5",
      "0 7 0 4 0 7 2d 1d 1x 6 7 3 2 2 c 4 0 2 5 3 c 63 11 d 3 1l 7 b 5 15 7 v 1 d 3 3 d a 12 d 1a 2",
      "9 2 54 2h 7 f r 2 2 2 1k 2 3 2 r 2 3 2 f 75 sd"]),
   ("Extender",
     ["53 0 ex 1 of 0 ca 0 hj 0 3u 0 2i 0 kx 0 3k 0 1tw 0 1l 0 h0 0 b3 0 1x 0 3uy 0 18 4 2w 1 2m 2",
      "lxz 0 16f 0 qr 0 n 0 3u 0 31 0 m 1 gos 0 1ld 1 158 0 s 0 5 0 y0 0 86 0 39 1 dv 2 y8 0 fxm 1",
      "wt 1 2 0 me1 1 xe 0 np 2"]),
   ("Grapheme_Base",
     ["w 2m y c 2 gh 35 7 3 5 5 6 2 0 2 j 2 67 8 4l 2 11 3 1d 3 2 1b 0 2 0 3 0 3 0 a q 5 5 i 9 c 0",
      "2 19 m f 2 2s 9 0 7 1 3 0 5 v 3 0 2 t u 2g c 0 f 16 a 6 4 n 5 0 a 0 4 0 8 e 2 o 6 0 2 a 6 u",
      "i 15 1m 1i 2 0 2 3 9 3 2 2 8 9 3 s 2 1 2 7 3 1 3 l 2 6 2 0 4 3 4 0 2 1 7 1 3 1 2 0 e 1 2 2 5",
      "n 6 0 2 5 5 1 3 l 2 6 2 1 2 1 2 1 5 2 p 3 2 0 8 9 3 2 2 0 d 0 2 8 2 2 2 l 2 6 2 1 2 4 4 3 9",
      "0 2 1 4 0 g 1 5 b 8 0 9 1 2 7 3 1 3 l 2 6 2 1 2 4 4 0 3 0 7 1 3 1 g 1 2 2 5 h c 0 2 5 4 2 2",
      "3 4 1 2 0 2 1 4 1 4 2 4 b 6 0 2 1 4 2 2 2 4 0 m k 7 2 2 7 2 2 2 m 2 f 4 0 4 3 k 2 3 0 3 1 5",
      "9 8 9 2 a 2 2 2 m 2 9 2 4 4 1 3 0 2 1 p 1 2 1 5 9 2 2 f a 2 2 2 14 3 0 2 1 6 2 2 2 2 1 5 2 2",
      "9 5 p 3 1 2 h 4 n 2 8 2 0 3 6 a 1 7 6 8 9 3 2 d 1b 2 1 c 7 9 c 12 1 2 0 2 4 2 n 2 0 2 9 2 1",
      "a 0 3 4 2 0 a 9 3 3 x n 3 q 2 0 2 0 2 d 2 z j 0 6 0 3 4 1e 7 2 5 2 c 12 18 5 0 7 0 3 1 3 o 3",
      "3 4 f 5 c 2 1 3 5 2 e 2 13 2 0 6 0 3 ag 2 3 3 6 2 0 2 3 3 14 2 3 3 w 2 3 3 6 2 0 2 3 3 e 2",
      "1k 2 3 3 1u 6 s 4 p 7 2d 3 5 3 ik 4 2g 8 h e i 4 1 a h f c 2 2 g 1f 3 0 8 7 2 1 c 8 4 9 7 9",
      "7 a 6 9 7 2g 8 4 3 x 2 0 6 1x b u 5 3 3 2 5 1 2 5 8 0 4 15 3 4 c 17 5 p 7 a 4 1k 3 1 4 1j 2",
      "0 a 0 2 1 9 5 e 9 7 9 7 d 2f 1b b 3 4 7 2 s a b 3 v 5 1 7 1j 2 0 3 2 2 0 e 1b 9 1 6 e 4 1p 6",
      "16 3 a c 0 e 0 8 3 2 5 2 2 3 0 6 5b 1t 7p 3 5 3 11 3 5 3 7 2 0 2 0 2 0 2 u 3 1g 2 e 2 d 3 5",
      "2 i 3 2 2 8 2 a 6 n 8 1c h 1 3 q 2 c 4 w 1s 3v 5 ih n a m 1eb 3 v 2 9j 4 1 6 18 2 0 6 0 3 1j",
      "8 1 g m a 6 2 6 2 6 2 6 2 6 2 6 2 6 2 6 y 2l z p 2 2g d 5x r 1l 7 f 2 2d 5 2s 6 16 2 2l 2 2d",
      "a 1b 2 mlo 4 1i a 9n l 1a 5 0 b v 3 27 3 5 9 5p 3 1 2 0 2 7 m f 2 2 2 3 2 o 3 4 5 9 7 1j 9",
      "1v b b p c 2 11 9 o c 0 d t 7 1b 2 1 5 1 3 1 2 c 2 a 5 6 2 o 2 14 7 1 3 1 c 2 2 7 2 0 3 9 3",
      "v 2 1e 2 0 4 1 3 4 3 0 2 0 p g 3 7 c 5 3 5 3 5 a 6 2 6 2 1n 5 38 2 1 2 3 4 9 7 8mb d m 5 1c",
      "6it a5 3 2x 13 6 d 4 6 0 2 n 2 4 2 0 2 1 2 1 2 3g h cc 3 1h 8 0 x f h 9 n y 2 i 2 3 5 4 2 3q",
      "5 4c 3 u 4 5 3 5 3 5 3 2 4 6 2 6 e 1 3 b 2 p 2 i 2 1 2 e 3 d z 3e 6 2 5 18 4 2f 2 c 4 0 1c",
      "18 3o s 4 1c h q 5 z a t 6 11 b t 2 10 5 d 17 4d 3 9 7 z 5 z 5 13 9 1f c b 2 e 2 6 2 1 2 a 2",
      "e 2 6 2 1 4 1f d 8m a l b 7 p 5 2 15 2 8 1y 5 3 0 2 17 2 1 4 0 3 m 2 1z 9 8 1d i 2 1 6 w 4 q",
      "6 0 1t 1j 5 j 3 1a g 3 2 2 2 s b 8 8 8 8 1r x 10 7 b a 1h 4 s 3 q 6 p 8 3 d 6 29 20 1k 1e e",
      "1e 8 15 d 9 7 11 9 n 9 1 5t u 2 15 4 0 3 1 h 2 1o 13 9 l c 8 n h 5 3 13 r l m a 0 2 1h g 6 5",
      "t 2 1 3 0 d 1c 5 1 3 1 2 3 f o 8 9 a z 6 0 a h 9 y 2 2 c 1f a 0 2 7 5 1 2 f 2 j c h 2 r 4 1",
      "5 5 2 1 1s 6 2 0 2 3 2 e 2 a 7 1a 2 2 e 9 9 1 2 7 3 1 3 l 2 6 2 1 2 4 4 0 2 0 2 3 3 1 3 1 4",
      "0 d 6 t 9 2 0 3 0 2 11 2 0 2 1 g 0 2 1 4 0 2 2 2 1 14 1j 9 1 4 0 2 k 2 0 2 2 v 1b 2 1 7 0 2",
      "1 2 0 3 0 3 3 9 9 4n 1a 2 1 7 3 3 0 3 q 11 1e 9 1 2 0 3 3 c 9 7 c k 16 2 0 2 1 9 1 7 9 7 j t",
      "q 4 0 2 1 5 0 a m 56 1a a 0 3 0 2t 2a d 7 3 0 3 7 2 1 2 n 2 4 2 1 7 3 2 2 a 9 1z 7 3 15 9 3",
      "2 3 s 0 b 13 7 1 5 7 a 0 7 1 4 19 e 0 3 8 e 20 8 9 53 x f 9 7 8 2 11 f 0 2 5 b s 4 v q 0 8 0",
      "3 0 24 6 2 1 2 11 m 0 a 9 7 5 2 1 2 10 5 1 2 0 2 0 8 9 8n i 3 3 a e 2 z 9 1 4 m 2f 0 g 1d e",
      "pm 2v 32 2 4 c 5f 219 2q e tr i 5 q 32y 6 g6 5a2 t d 2 4 9 1c7 fs 8 u 2 9 5 28 2 9 7 t 8 0 b",
      "1b 8 e b 9 2 6 2 k 6 i c1 1l 5j 2i 2u 22 6 1j c c 1t 3 t 4qf 9 yd 16 9 6w8 3 2 6 2 1 2 82 g",
      "0 u 2 3 0 f 3 9 az 1s5 2y 6 c 4 8 8 9 3 0 3 0 31d 6x 7 c3 4d 37 1p 6t b 12 3 1n 6 2 n 1 8 t",
      "5 1o m 1t 4 0 3f j d j d 2e a o 3s 2c 2 1y 2 1 3 0 3 1 3 3 2 b 2 0 2 6 2 1s 2 3 3 7 2 6 2 r",
      "2 3 2 4 2 0 4 6 2 9f 3 83 3 fl 1k 3 1f 7 2 d 2 6 vp u 7 5 7a 1p 43 18 b 6 3 9 5 1 8x t j 17",
      "5 9 6 0 cx r 5 9 5z t 3 a 5 0 dd 6 2 3 2 1 2 e 2 5g 3 8 1d 1v 8 0 5 9 5 1 lu 1v 25 1o 5f 3 2",
      "q 2 1 2 0 3 0 2 9 2 3 2 0 2 0 7 0 5 0 2 0 2 0 2 2 2 1 2 0 3 0 2 0 2 0 2 0 2 0 2 1 2 0 3 3 2",
      "6 2 3 2 3 2 0 2 9 2 g 6 2 2 4 2 g 1h 1 7j 17 5 2r d e 3 e 2 e 2 10 b 4t 1l s e 17 5 8 8 1 f",
      "5 4b rb 5 g 4 c 4 3a 5 2m 7 b 5 0 g b 5 1j 9 9 7 13 9 t 3 b 5 1 1r 9f d d 3 c 4 9 6 1j 8 e 3",
      "a 7 8 8 42 2 2t sn wyn x 37d 7 65 3 4g1 f 5rk g h9 1wj f1 15v 3t6 6 38f"]),
   ("Grapheme_Extend",
     ["lc 33 7o 6 7c 18 2 0 2 1 2 1 2 0 21 a 1d k h 0 2u 6 3 5 3 1 2 3 10 0 v q 2k a 1n 8 a 0 p 3 2",
      "8 2 2 2 4 18 2 1o 8 17 n 2 v 1k 0 2 0 5 7 5 0 4 6 b 1 u 0 1n 0 2 0 3 3 9 0 a 0 b 1 r 0 3 1",
      "1m 0 5 1 5 1 3 2 4 0 v 1 4 0 c 1 1m 0 5 4 2 1 5 0 l 1 n 5 2 0 1n 0 2 1 2 3 9 0 8 2 b 1 v 0",
      "1o 0 2 0 d 0 a 0 15 0 4 0 1k 0 2 2 6 2 2 3 8 1 c 1 u 0 1n 0 3 1 2 0 4 2 2 3 8 1 c 1 t 1 1m 1",
      "2 0 3 3 9 0 a 0 b 1 u 0 21 0 5 0 3 2 2 0 9 0 2a 0 3 6 d 7 2r 0 3 8 c 6 22 1 s 0 2 0 2 0 1k d",
      "2 4 2 1 6 a 2 z a 0 2v 3 2 5 2 1 3 1 q 1 5 2 h 3 e 0 3 1 7 0 g 0 jk 2 qb 3 t 2 u 1 v 1 1t 1",
      "2 6 9 0 3 a a 0 1a 2 2 0 3a 1 z 0 3b 2 5 1 a 0 7 2 64 1 3 0 1n 0 2 6 2 0 2 0 3 7 7 9 3 0 1d",
      "u 1e 3 1d 9 5 2 13 8 d 1 x 3 3 5 1l 0 2 1 4 0 2 4 1l 7 3 1 49 2 2 c 2 6 5 0 7 0 4 1 5j 1r el",
      "0 5g w 2db 2 3y 0 2p v ff 5 2y 1 n9x 3 2 9 x 1 29 1 7l 0 4 0 5 0 q 1 6 0 48 1 r h e 0 13 7 q",
      "a 2 0 19 2 1d 0 3 3 3 1 3 0 11 0 1w 5 3 1 3 1 d 0 9 0 1c 0 1g 0 2 2 3 1 6 1 2 0 17 1 9 0 6n",
      "0 3 0 5 0 fn5 0 ki f h f a7 1 gu 0 6b 0 46 4 1af 2 2 1 6 3 15 2 5 0 4m 1 fy 3 1u 4 8u 1 28 3",
      "1z a 1e 3 3g 0 1j e 16 0 3 1 b 2 1e 3 3 1 8 0 1q 2 11 4 2 7 1r 0 d 1 1h 8 2 0 9 3 3 0 2o 2 3",
      "3 7 0 3 0 4e 0 4 7 m 1 1m 1 2 0 2 0 d 0 a 0 f 6 4 4 1w 0 3 5 2 0 3 0 2 2 5 2 2 0 f 1 2e 7 3",
      "2 2 0 o 0 2a 0 3 5 2 0 3 0 2 1 2 1 6k 0 3 3 7 1 2 1 s 1 2e 7 3 0 2 1 2z 0 2 0 3 7 2u 0 2 0 3",
      "3 2 4 78 8 2 1 6u 0 b 3 5 0 41 3 3 1 5 0 x 9 15 5 3 3 9 0 a 5 3 2 1b c 2 1 bb 6 2 5 2 0 2b l",
      "3 6 2 1 2 1 3f 5 4 0 2 1 2 6 2 0 21 1 4 0 2 0 9o 1 c 1 1h 4 6 2 o 0 44m 0 7 e 8uh b 4 2 1xd",
      "4 1o 6 t5 0 1s 3 2a 0 c 1 f58 1 3mq 19 3 m f3 4 4 5 9 7 3 6 v 3 45 2 1j0 1i 5 1d 9 0 f 0 n 4",
      "2 e 11t 6 2 g 3 6 2 1 2 4 2t 0 4h 6 ag 0 1q 3 e5 3 73 1 kh 6 32 6 gzbq 2n 3l 6n"]),
   ("Hex_Digit",
     ["1c 9 8 5 r 5 1eay 9 8 5 r 5"]),
   ("Hyphen",
     ["19 0 3k 0 yl 0 3ng 0 1l6 1 2rq 0 kk 0 14ko 0 4q 0 2g 0"]),
   ("IDS_Binary_Operator",
     ["9gw 1 3 9 du 0"]),
   ("IDS_Trinary_Operator",
     ["9gy 1"]),
   ("ID_Continue",
     ["1c 9 8 p 5 0 2 p 1c 0 b 0 2 0 3 0 6 m 2 u 2 cp 5 b f 4 8 0 2 0 i 38 2 1 3 3 2 0 7 4 2 0 2 j",
      "2 2a 2 3u 2 4 3 4l 2 11 3 0 7 14 9 18 2 0 2 1 2 1 2 0 9 q 5 3 u a 6 21 5 2t 2 7 3 9 2 i 3 0",
      "h 1m 3 2s f 1h 5 0 3 0 3 19 j r 5 a 6 n 2 5 9 22 2 3k 3 9 2 i 2 7 3 1 3 l 2 6 2 0 4 3 3 8 3",
      "1 3 3 9 0 5 1 2 4 3 b b 0 2 0 3 2 2 5 5 1 3 l 2 6 2 1 2 1 2 1 3 0 2 4 5 1 3 2 4 0 8 3 2 0 8",
      "f c 2 2 8 2 2 2 l 2 6 2 1 2 4 3 9 2 2 2 2 3 0 g 3 3 9 a 6 2 2 2 7 3 1 3 l 2 6 2 1 2 4 3 8 3",
      "1 3 2 8 2 5 1 2 4 3 9 2 0 h 1 2 5 4 2 2 3 4 1 2 0 2 1 4 1 4 2 4 b 5 4 4 2 2 3 3 0 7 0 f 9 h",
      "c 2 2 2 m 2 f 3 8 2 2 2 3 8 1 2 2 3 0 3 3 3 9 h 3 2 7 2 2 2 m 2 9 2 4 3 8 2 2 2 3 8 1 7 1 2",
      "3 3 9 2 2 d c 2 2 2 1e 2 2 2 4 6 3 8 4 3 9 b 5 2 2 2 h 4 n 2 8 2 0 3 6 4 0 5 5 2 0 2 7 7 9 3",
      "1 e 1l 6 e 2 9 14 1 2 0 2 4 2 n 2 0 2 m 3 4 2 0 2 6 2 9 3 3 x 0 o 1 7 9 c 0 2 0 2 0 5 9 2 z",
      "5 j 2 h 2 z a 0 1m 21 7 25 3 11 2 0 6 0 3 16 2 98 2 3 3 6 2 0 2 3 3 14 2 3 3 w 2 3 3 6 2 0 2",
      "3 3 e 2 1k 2 3 3 1u 3 2 a 8 f f h 2d 3 5 4 h7 3 g 2 p 6 22 4 a 8 l a l c j d c 2 2 2 1 d 2b",
      "4 0 5 1 3 9 y 2 2 a 7 2g 8 16 6 1x b u 2 b 5 b b 13 3 4 c 17 5 p 7 a 12 r 5 1q 2 s 3 a 7 9 e",
      "0 9 d 2 f 1e 24 4 9 i 8 d 37 d 1j 9 9 4 1c 3 a 6 16 3 2 h 2 2 12 6 et 3 5 3 11 3 5 3 7 2 0 2",
      "0 2 0 2 u 3 1g 2 6 2 0 4 2 2 6 4 3 3 5 5 c 6 2 2 6 g 1 1e 1 k 0 t 0 e 0 h c 1g c 5 0 4 b i 0",
      "5 0 3 9 2 0 3 5 7 0 2 0 2 0 2 f 3 3 6 4 5 0 i 14 22g 6c 7 8 d 11 2 0 6 0 3 1j 8 0 g n a 6 2",
      "6 2 6 2 6 2 6 2 6 2 6 2 6 2 v ee 2 q e 2 4 3 4 5 2d 3 6 2 2m 6 16 2 2l i v 1d f e9 533 1t",
      "h3g 1w 19 3 7g 4 r l 1b 5 9 2 36 12 8 3 2u 3 1u 3 1 2 0 2 7 m 1h 5 0 k 1f d 1x b 9 7 n 4 0 2",
      "1c 3 z d s 4 1s f a 7 u 2 1i a d 3 9 7 m 4 20 p 2 3 f 3 4 b 5 3 5 3 5 a 6 2 6 2 16 2 d 7 3e",
      "2 1 3 9 7 8mb d m 5 1c 6it a5 3 2x 13 6 d 4 6 b 2 c 2 4 2 0 2 1 2 1 2 2z y a2 j 1r 3 1h 15 b",
      "5 f h f 4 1 p 2 x 4 2 3q k 9 8 p 5 0 2 p b 2h 4 5 3 5 3 5 3 2 10 b 2 p 2 i 2 1 2 e 3 d z 3e",
      "1y 1g 3t 0 3n s 4 1c g 0 w v e t 6 16 6 t 3 z 5 7 2 4 17 4d 3 9 7 z 5 z 5 13 9 1f d a 2 e 2",
      "6 2 1 2 a 2 e 2 6 2 1 4 1f d 8m a l b 7 p 5 2 15 2 8 1y 5 3 0 2 17 2 1 4 0 3 m b m a u 1u i",
      "2 1 b l b p 1z 1j 7 1 1t 3 2 1 6 7 2 2 2 s 3 2 5 0 x s 4 s 10 7 2 t q 1h b l b i e h 33 20",
      "1k 1e e 1e e 13 9 9 7 11 4 4 2 m 6z 15 2 1 4 1 h 2 1k w b 0 9 w w l 17 k s m a 1y w f a 1n 8",
      "0 e o 8 9 7 1g 2 9 5 3 9 z 3 0 a 1w 5 3 2 c 2 0 10 h 2 10 7 3 1r 6 2 0 2 3 2 e 2 9 8 1m 6 9",
      "7 3 2 7 3 1 3 l 2 6 2 1 2 4 2 9 3 1 3 2 3 0 7 0 6 6 3 6 4 4 c 9 2 0 3 0 2 11 2 9 2 0 3 0 2 3",
      "2 7 e 1 u 22 6 9 5 3 v 1x 2 0 9 9 4n 1h 3 8 o 5 z 1s 4 0 c 9 13 1k 8 9 7 j t q 3 e 5 9 7 6",
      "56 1m 2u 21 m 7 3 0 3 7 2 1 2 t 2 1 3 8 d 9 1z 7 3 19 3 7 2 1 s 1q 9 0 9 21 4 0 j 20 5k w g",
      "9 7 8 2 18 2 8 g 9 p t 3 l 2 d 22 6 2 1 2 17 4 0 2 1 2 8 9 9 7 5 2 1 2 10 2 1 2 5 8 9 8n m a",
      "g 2 14 4 4 e a 2e 0 28 pl 2v 32 i 5f 219 2o g tr h l b 32y 6 g6 5a2 1l 1c7 fs 8 u 2 9 7 26 2",
      "9 7 t 3 4 c 1i a 3 d 9 a k 6 i c1 18 4 9 5j 1r 3l 22 5 1k 8 g 1t 1 2 1 c 1 f 4qf 9 yd 16 9",
      "6w8 3 2 6 2 1 2 82 g 0 u 2 3 0 f 3 9 az 1s5 2y 6 c 4 8 8 9 4 1 382 9 ef 19 3 m f3 4 4 5 9 7",
      "3 6 v 3 45 2 cc 2c 2 1y 2 1 3 0 3 1 3 3 2 b 2 0 2 6 2 1s 2 3 3 7 2 6 2 r 2 3 2 4 2 0 4 6 2",
      "9f 3 o 2 o 2 u 2 o 2 u 2 o 2 u 2 o 2 u 2 o 2 7 3 1d e9 1i 5 1d 9 0 f 0 n 4 2 e up u 7 5 5y 6",
      "2 g 3 6 2 1 2 4 6 1p y 0 35 18 4 d 3 9 5 0 8y u i 1l d3 15 5z 16 di 6 2 3 2 1 2 e 2 5g c 6",
      "16 23 5 9 x3 3 2 q 2 1 2 0 3 0 2 9 2 3 2 0 2 0 7 0 5 0 2 0 2 0 2 2 2 1 2 0 3 0 2 0 2 0 2 0 2",
      "0 2 1 2 0 3 3 2 6 2 3 2 3 2 0 2 9 2 g 6 2 2 4 2 g 2lx 9 sn wyn x 37d 7 65 3 4g1 f 5rk g h9",
      "1wj f1 15v 3t6 6 38f f9e9 6n"]),
   ("ID_Start",
     ["1t p 7 p 1c 0 b 0 5 0 6 m 2 u 2 cp 5 b f 4 8 0 2 0 3m 4 2 1 3 3 2 0 7 0 2 2 2 0 2 j 2 2a 2",
      "3u 9 4l 2 11 3 0 7 14 20 q 5 3 1a 16 10 1 2 2q 2 0 g 1 8 1 b 2 3 0 h 0 2 t u 2g c 0 p w a 1",
      "5 0 6 l 5 0 a 0 4 0 o o 8 a 6 n 2 5 i 15 1n 1h 4 0 j 0 8 9 g f 5 7 3 1 3 l 2 6 2 0 4 3 4 0 h",
      "0 e 1 2 2 f 1 b 0 9 5 5 1 3 l 2 6 2 1 2 1 2 1 w 3 2 0 k 2 h 8 2 2 2 l 2 6 2 1 2 4 4 0 j 0 g",
      "1 o 0 c 7 3 1 3 l 2 6 2 1 2 4 4 0 v 1 2 2 g 0 i 0 2 5 4 2 2 3 4 1 2 0 2 1 4 1 4 2 4 b n 0 1h",
      "7 2 2 2 m 2 f 4 0 r 2 3 0 3 1 v 0 5 7 2 2 2 m 2 9 2 4 4 0 w 1 2 1 g 1 i 8 2 2 2 14 3 0 h 0 6",
      "2 9 2 p 5 6 h 4 n 2 8 2 0 3 6 1n 1b 2 1 d 6 1n 1 2 0 2 4 2 n 2 0 2 9 2 1 a 0 3 4 2 0 m 3 x 0",
      "1s 7 2 z s 4 38 16 l 0 h 5 5 3 4 0 4 1 8 2 5 c d 0 i 11 2 0 6 0 3 16 2 98 2 3 3 6 2 0 2 3 3",
      "14 2 3 3 w 2 3 3 6 2 0 2 3 3 e 2 1k 2 3 3 1u 12 f h 2d 3 5 4 h7 3 g 2 p 6 22 4 a 8 h e i f h",
      "f c 2 2 g 1f 10 0 5 0 1w 2g 8 14 2 0 6 1x b u 1e t 3 4 c 17 5 p 1j m a 1g 2b 0 2m 1a i 7 1j",
      "t e 1 b 17 r z 16 2 b z 3 a 6 16 3 2 16 3 2 5 2 1 4 0 6 5b 1t 7p 3 5 3 11 3 5 3 7 2 0 2 0 2",
      "0 2 u 3 1g 2 6 2 0 4 2 2 6 4 3 3 5 5 c 6 2 2 6 39 0 e 0 h c 2u 0 5 0 3 9 2 0 3 5 7 0 2 0 2 0",
      "2 f 3 3 6 4 5 0 i 14 22g 6c 7 3 4 1 d 11 2 0 6 0 3 1j 8 0 h m a 6 2 6 2 6 2 6 2 6 2 6 2 6 2",
      "6 fb 2 q 8 8 4 3 4 5 2d 5 4 2 2h 2 3 6 16 2 2l i v 1d f e9 533 1t h3g 1w 19 3 7g 4 f b 1 l",
      "1a h u 3 27 14 8 3 2u 3 1u 3 1 2 0 2 7 m f 2 2 2 3 2 m u 1f f 1d 1r 5 4 0 2 1 c r b m q s 8",
      "1a t 0 h 4 2 9 b 4 2 14 o 2 2 7 l m 4 0 4 1d 2 0 4 1 3 4 3 0 2 0 p 2 3 a 8 2 d 5 3 5 3 5 a 6",
      "2 6 2 16 2 d 7 36 u 8mb d m 5 1c 6it a5 3 2x 13 6 d 4 6 0 2 9 2 c 2 4 2 0 2 1 2 1 2 2z y a2",
      "j 1r 3 1h 15 b 39 4 2 3q 11 p 7 p c 2g 4 5 3 5 3 5 3 2 10 b 2 p 2 i 2 1 2 e 3 d z 3e 1y 1g",
      "7g s 4 1c 1c v e t 6 11 b t 3 z 5 7 2 4 17 4d j z 5 z 5 13 9 1f d a 2 e 2 6 2 1 2 a 2 e 2 6",
      "2 1 4 1f d 8m a l b 7 p 5 2 15 2 8 1y 5 3 0 2 17 2 1 4 0 3 m b m a u 1u i 2 1 b l b p 1z 1j",
      "7 1 1t 0 g 3 2 2 2 s 17 s 4 s 10 7 2 r s 1h b l b i e h 33 20 1k 1e e 1e e z 13 r a m 6z 15",
      "7 1 h 2 1o s b 0 9 l 17 h 1b k s m d 1g 1m 1 3 0 e 18 x o r z u 0 3 0 9 y 4 0 d 1b f 3 m 0 2",
      "0 10 h 2 o k 1 1s 6 2 0 2 3 2 e 2 9 8 1a 13 7 3 1 3 l 2 6 2 1 2 4 4 0 j 0 d 4 v 9 2 0 3 0 2",
      "11 2 0 q 0 2 0 19 1g j 3 l 2 v 1b l 1 2 0 55 1a 16 3 11 1b l 0 1o 16 e 0 20 q 12 6 56 17 39",
      "1r w 7 3 0 3 7 2 1 2 n g 0 2 0 2n 7 3 12 h 0 2 0 t 0 b 13 8 0 m 0 c 19 k 0 j 20 5k w w 8 2",
      "10 i 0 1e t 35 6 2 1 2 11 m 0 q 5 2 1 2 v f 0 94 i g 0 2 c 2 x 3h 0 28 pl 2v 32 i 5f 219 2o",
      "g tr i 5 q 32y 6 g6 5a2 t 1cz fs 8 u i 26 i t j 1b h 3 w k 6 i c1 18 5w 1r 3l 22 6 0 1v c 1t",
      "1 2 0 t 4qf 9 yd 16 9 6w8 3 2 6 2 1 2 82 g 0 u 2 3 0 f 3 9 az 1s5 2y 6 c 4 8 8 9 4mf 2c 2 1y",
      "2 1 3 0 3 1 3 3 2 b 2 0 2 6 2 1s 2 3 3 7 2 6 2 r 2 3 2 4 2 0 4 6 2 9f 3 o 2 o 2 u 2 o 2 u 2",
      "o 2 u 2 o 2 u 2 o 2 7 1f9 u 7 5 7a 1p 43 18 b 6 h 0 8y t j 17 dh r 6d t 3 0 ds 6 2 3 2 1 2 e",
      "2 5g 1o 1v 8 0 xh 3 2 q 2 1 2 0 3 0 2 9 2 3 2 0 2 0 7 0 5 0 2 0 2 0 2 2 2 1 2 0 3 0 2 0 2 0",
      "2 0 2 0 2 1 2 0 3 3 2 6 2 3 2 3 2 0 2 9 2 g 6 2 2 4 2 g 3et wyn x 37d 7 65 3 4g1 f 5rk g h9",
      "1wj f1 15v 3t6 6 38f"]),
   ("Ideographic",
     ["9hi 1 q 8 f 2 qu 533 1t g73 hkx a5 3 2x n4b 0 s 4qf 9 yd 16 9 76w az f7p wyn x 37d 7 65 3",
      "4g1 f 5rk g h9 1wj f1 15v 3t6 6 38f"]),
   ("Join_Control",
     ["6bw 1"]),
   ("Logical_Order_Exception",
     ["2tc 4 3g 4 25t 2 3 0 smz 1 3 0 2 1"]),
   ("Lowercase",
     ["2p p 1c 0 b 0 5 0 11 n 2 7 2 0 2 0 2 0 2 0 2 0 2 0 2 0 2 0 2 0 2 0 2 0 2 0 2 0 2 0 2 0 2 0 2",
      "0 2 0 2 0 2 0 2 0 2 0 2 0 2 0 2 0 2 0 2 0 2 1 2 0 2 0 2 0 2 0 2 0 2 0 2 0 2 1 2 0 2 0 2 0 2",
      "0 2 0 2 0 2 0 2 0 2 0 2 0 2 0 2 0 2 0 2 0 2 0 2 0 2 0 2 0 2 0 2 0 2 0 2 0 2 0 3 0 2 0 2 2 3",
      "0 2 0 3 0 4 1 5 0 3 0 4 2 3 0 3 0 2 0 2 0 3 0 2 1 2 0 3 0 4 0 2 0 3 1 3 2 7 0 3 0 3 0 2 0 2",
      "0 2 0 2 0 2 0 2 0 2 0 2 1 2 0 2 0 2 0 2 0 2 0 2 0 2 0 2 0 2 1 3 0 2 0 4 0 2 0 2 0 2 0 2 0 2",
      "0 2 0 2 0 2 0 2 0 2 0 2 0 2 0 2 0 2 0 2 0 2 0 2 0 2 0 2 0 2 0 2 0 2 0 2 0 2 0 2 0 2 0 2 0 2",
      "0 2 6 3 0 3 1 2 0 5 0 2 0 2 0 2 0 2 1w 3 y 8 1 v 4 2p 0 18 0 2 0 4 0 3 3 j 0 s y 2 1 4 2 2 0",
      "2 0 2 0 2 0 2 0 2 0 2 0 2 0 2 0 2 0 2 0 2 4 2 0 3 0 3 1 1g 1b 2 0 2 0 2 0 2 0 2 0 2 0 2 0 2",
      "0 2 0 2 0 2 0 2 0 2 0 2 0 2 0 2 0 2 0 a 0 2 0 2 0 2 0 2 0 2 0 2 0 2 0 2 0 2 0 2 0 2 0 2 0 2",
      "0 2 0 2 0 2 0 2 0 2 0 2 0 2 0 2 0 2 0 2 0 2 0 2 0 2 0 3 0 2 0 2 0 2 0 2 0 2 0 2 1 2 0 2 0 2",
      "0 2 0 2 0 2 0 2 0 2 0 2 0 2 0 2 0 2 0 2 0 2 0 2 0 2 0 2 0 2 0 2 0 2 0 2 0 2 0 2 0 2 0 2 0 2",
      "0 2 0 2 0 2 0 2 0 2 0 2 0 2 0 2 0 2 0 2 0 2 0 2 0 2 0 2 0 2 0 2 0 2 0 2 0 2 0 2 0 2 0 2 0 1d",
      "14 288 16 2 3 l5 5 1oj 8 2 0 3a 5b 1u 0 2 0 2 0 2 0 2 0 2 0 2 0 2 0 2 0 2 0 2 0 2 0 2 0 2 0",
      "2 0 2 0 2 0 2 0 2 0 2 0 2 0 2 0 2 0 2 0 2 0 2 0 2 0 2 0 2 0 2 0 2 0 2 0 2 0 2 0 2 0 2 0 2 0",
      "2 0 2 0 2 0 2 0 2 0 2 0 2 0 2 0 2 0 2 0 2 0 2 0 2 0 2 0 2 0 2 0 2 0 2 0 2 0 2 0 2 0 2 0 2 0",
      "2 0 2 0 2 0 2 0 2 0 2 0 2 0 2 0 2 0 2 0 2 0 2 0 2 0 2 0 2 8 2 0 2 0 2 0 2 0 2 0 2 0 2 0 2 0",
      "2 0 2 0 2 0 2 0 2 0 2 0 2 0 2 0 2 0 2 0 2 0 2 0 2 0 2 0 2 0 2 0 2 0 2 0 2 0 2 0 2 0 2 0 2 0",
      "2 0 2 0 2 0 2 0 2 0 2 0 2 0 2 0 2 0 2 0 2 0 2 0 2 0 2 0 2 0 2 0 2 0 2 8 9 5 b 7 9 7 9 5 b 7",
      "9 7 9 d 3 7 9 7 9 7 9 4 2 1 7 0 4 2 2 1 9 3 3 1 9 7 b 2 2 1 3e 0 e 0 h c 32 0 4 1 4 0 s 0 5",
      "0 5 0 3 1 9 3 5 0 y f 5 0 ng p 1fr 1b 2 0 4 1 2 0 2 0 2 0 5 0 2 1 2 7 4 0 2 0 2 0 2 0 2 0 2",
      "0 2 0 2 0 2 0 2 0 2 0 2 0 2 0 2 0 2 0 2 0 2 0 2 0 2 0 2 0 2 0 2 0 2 0 2 0 2 0 2 0 2 0 2 0 2",
      "0 2 0 2 0 2 0 2 0 2 0 2 0 2 0 2 0 2 0 2 0 2 0 2 0 2 0 2 0 2 0 2 0 2 0 2 0 2 0 2 0 2 1 8 0 2",
      "0 5 0 d 11 2 0 6 0 nx0 0 2 0 2 0 2 0 2 0 2 0 2 0 2 0 2 0 2 0 2 0 2 0 2 0 2 0 2 0 2 0 2 0 2 0",
      "2 0 2 0 2 0 2 0 2 0 k 0 2 0 2 0 2 0 2 0 2 0 2 0 2 0 2 0 2 0 2 0 2 0 2 0 2 2 3q 0 2 0 2 0 2 0",
      "2 0 2 0 2 2 2 0 2 0 2 0 2 0 2 0 2 0 2 0 2 0 2 0 2 0 2 0 2 0 2 0 2 0 2 0 2 0 2 0 2 0 2 0 2 0",
      "2 0 2 0 2 0 2 0 2 0 2 0 2 0 2 0 2 0 2 0 2 9 2 0 2 0 3 0 2 0 2 0 2 0 2 0 5 0 2 0 3 0 2 2 2 0",
      "2 0 2 0 2 0 2 0 2 0 2 0 2 0 2 0 2 0 6 0 6 0 2 0 2 0 2 0 2 0 2 0 2 0 2 0 5 0 2 0 3 0 4 0 2 0",
      "2 0 2 0 2 0 2 0 n 2 2 0 2 2 mu 16 2 d 7 27 fnl 6 d 4 tm p y6 13 3t z 4c a 2 e 2 6 2 1 ck 0 3",
      "2 2 15 2 8 zq 1e 3i l 27v v gw1 v k2j p r 6 2 h r p r 3 2 0 2 6 2 a r p r p r p r p r p r p",
      "r p r p r r t o 2 5 r o 2 5 r o 2 5 r o 2 5 r o 2 5 2 0 1f9 9 2 j 7 5 7a 1p 1px x"]),
   ("Math",
     ["17 0 h 2 w 0 u 0 2 0 1a 0 5 0 12 0 w 0 k9 2 3 0 r 1 3 2 eo 2 55a 0 s 2 c 0 4 0 e 0 f 3 m 4 c",
      "4 1u c 5 0 4 1 5 4 j 0 5 0 3 9 2 0 3 5 7 0 4 1 3 1 2 2 2 5 4 d 2 0 1x n 2 5 2 1 5 1 5 v 2 0",
      "7 1 f 7f 9 3 l 1 2j 0 v q 2 0 p 0 c 6 ce 1 d 9 5 5 5 1 3 1 4 4 f 0 2 0 3 5 c 7 6 1 1m 0 2 0",
      "u 3 a 2 9d 1r 75 e7 1d k 3 5 1525 0 mw 5 2 0 4j 0 h 2 u 0 2 0 u 0 2 0 3o 0 7 3 2oy 1 1375 2c",
      "2 1y 2 1 3 0 3 1 3 3 2 b 2 0 2 6 2 1s 2 3 3 7 2 6 2 r 2 3 2 4 2 0 4 6 2 9f 3 83 3 1d 4ch 3 2",
      "q 2 1 2 0 3 0 2 9 2 3 2 0 2 0 7 0 5 0 2 0 2 0 2 2 2 1 2 0 3 0 2 0 2 0 2 0 2 0 2 1 2 0 3 3 2",
      "6 2 3 2 3 2 0 2 9 2 g 6 2 2 4 2 g 1h 1"]),
   ("Noncharacter_Code_Point",
     ["1e4w v en 1 1ekf 1 1ekf 1 1ekf 1 1ekf 1 1ekf 1 1ekf 1 1ekf 1 1ekf 1 1ekf 1 1ekf 1 1ekf 1",
      "1ekf 1 1ekf 1 1ekf 1 1ekf 1 1ekf 1"]),
   ("Pattern_Syntax",
     ["x e b 6 r 3 2 0 r 3 z 6 2 0 2 1 2 0 2 1 5 0 5 0 4 0 o 0 w 0 655 n 9 e 3 i 2 9 8i jz 4h hh v",
      "sh 2 2w e9 3j aq 2 5 o g 0 14i6 1 7a 1"]),
   ("Pattern_White_Space",
     ["9 4 j 0 2t 0 689 1 p 1"]),
   ("Prepended_Concatenation_Mark",
     ["16o 5 60 0 1e 0 ap 1 29 0 1g4b 0 g 0"]),
   ("Quotation_Mark",
     ["y 0 5 0 3o 0 g 0 671 7 q 1 2rs 0 cq 3 e 2 14pu 3 5a 0 5 0 2j 1"]),
   ("Radical",
     ["96o p 2 2g d 5x"]),
   ("Regional_Indicator",
     ["2qcm p"]),
   ("Sentence_Terminal",
     ["x 0 d 0 h 0 11m 0 44 2 51 0 18 2 6v 0 1q 0 2 0 4 1 86 1 1d1 1 lz 0 5 1 li 0 5j 1 4e 1 1a 0 6",
      "0 8r 1 9v 3 4j 1 b 1 3 1 u 2 58 1 1u 1 px 0 o 1 a 2 2i8 2 8j 0 e 0 n 1 by 0 n3x 0 7j 1 6c 0",
      "4 0 an 1 2f 1 2o 0 49 1 44 2 41 1 6y 0 g87 0 3 1 1o 0 4 1 4q 0 d 0 h 0 1u 0 25x 1 zi 4 19 3",
      "5a 1 3a 3 3k 2 3m 1 7 0 h 1 2h 1 2 1 31 0 8b 1 3a 1 ae 1 6 e 2y 1 6y 2 ee 0 2 0 70 1 2g 1 bp",
      "1 j9 1 23 1 eui 1 3q 0 1u 1 c 0 fe 1 89 0 fev 0 5wp 0"]),
   ("Soft_Dotted",
     ["2x 1 5h 0 7u 0 v 0 1h 0 l 0 8x 0 2r 0 2 0 4y2 0 1g 0 e 0 4 0 3p 0 4e 0 bq 0 5z 1 27n 0 2bom",
      "1 1f 1 1f 1 1f 1 1f 1 1f 1 1f 1 1f 1 1f 1 1f 1 1f 1 1f 1 1f 1 1on 0 8i 1 r 0"]),
   ("Terminal_Punctuation",
     ["x 0 b 0 2 0 c 1 4 0 n3 0 9 0 ea 0 1m 0 21 0 f 0 2 2 51 0 18 a 2 0 6k 1 1j 5 2 7 w 0 7a 1 z9",
      "1 4t 0 5 5 8o 1 ly 7 li 0 3h 2 20 1 4e 2 4 0 14 3 3 1 8r 1 9v 3 4j 1 b 1 2 2 u 2 58 4 1r 1",
      "px 0 o 1 a 2 2i8 2 8j 0 e 0 5 0 b 0 2 1 4 1 bx 1 n3w 1 7i 2 6c 4 an 1 2f 1 2o 0 48 2 44 2 3k",
      "0 h 1 6y 0 g87 0 3 1 1m 2 2 3 4q 0 b 0 2 0 c 1 4 0 1u 0 3 0 u3 0 1d 0 w7 0 5k 0 8n 1 49 5 1x",
      "5 2i 3 qh 4 19 3 5a 6 35 3 3k 2 3m 1 7 0 h 1 2h 4 31 0 8b 1 3a 2 d 1 9z 3 4 e 2y 1 6y 2 ee 0",
      "2 0 70 1 2g 1 5 1 bj 2 1a 0 hy 1 23 1 10s 4 dtm 1 3q 0 1u 2 b 0 fe 1 88 1 fev 0 5wo 3"]),
   ("Unified_Ideograph",
     ["a9s 533 1t g73 hsf 1 2 0 2 1 b 0 2 0 2 1 3 2 1fpz wyn x 37d 7 65 3 4g1 f 5rk g h9 3hf 3t6 6",
      "38f"]),
   ("Uppercase",
     ["1t p 2u m 2 6 y 0 2 0 2 0 2 0 2 0 2 0 2 0 2 0 2 0 2 0 2 0 2 0 2 0 2 0 2 0 2 0 2 0 2 0 2 0 2",
      "0 2 0 2 0 2 0 2 0 2 0 2 0 2 0 2 0 3 0 2 0 2 0 2 0 2 0 2 0 2 0 2 0 3 0 2 0 2 0 2 0 2 0 2 0 2",
      "0 2 0 2 0 2 0 2 0 2 0 2 0 2 0 2 0 2 0 2 0 2 0 2 0 2 0 2 0 2 0 2 0 2 1 2 0 2 0 4 1 2 0 2 1 2",
      "2 3 3 2 1 2 2 4 1 2 1 2 0 2 0 2 1 2 0 3 0 2 1 2 2 2 0 2 1 4 0 8 0 3 0 3 0 3 0 2 0 2 0 2 0 2",
      "0 2 0 2 0 2 0 3 0 2 0 2 0 2 0 2 0 2 0 2 0 2 0 2 0 3 0 3 0 2 2 2 0 2 0 2 0 2 0 2 0 2 0 2 0 2",
      "0 2 0 2 0 2 0 2 0 2 0 2 0 2 0 2 0 2 0 2 0 2 0 2 0 2 0 2 0 2 0 2 0 2 0 2 0 2 0 2 0 2 0 8 1 2",
      "1 3 0 2 3 2 0 2 0 2 0 2 0 82 0 2 0 4 0 9 0 7 0 2 2 2 0 2 1 2 g 2 8 10 0 3 2 4 0 2 0 2 0 2 0",
      "2 0 2 0 2 0 2 0 2 0 2 0 2 0 2 0 6 0 3 0 2 1 3 1e 1d 0 2 0 2 0 2 0 2 0 2 0 2 0 2 0 2 0 2 0 2",
      "0 2 0 2 0 2 0 2 0 2 0 2 0 a 0 2 0 2 0 2 0 2 0 2 0 2 0 2 0 2 0 2 0 2 0 2 0 2 0 2 0 2 0 2 0 2",
      "0 2 0 2 0 2 0 2 0 2 0 2 0 2 0 2 0 2 0 2 0 2 1 2 0 2 0 2 0 2 0 2 0 2 0 3 0 2 0 2 0 2 0 2 0 2",
      "0 2 0 2 0 2 0 2 0 2 0 2 0 2 0 2 0 2 0 2 0 2 0 2 0 2 0 2 0 2 0 2 0 2 0 2 0 2 0 2 0 2 0 2 0 2",
      "0 2 0 2 0 2 0 2 0 2 0 2 0 2 0 2 0 2 0 2 0 2 0 2 0 2 0 2 0 2 0 2 0 2 0 2 0 2 0 3 11 28a 11 2",
      "0 6 0 k3 2d 1p0 0 7 16 3 2 8x 0 2 0 2 0 2 0 2 0 2 0 2 0 2 0 2 0 2 0 2 0 2 0 2 0 2 0 2 0 2 0",
      "2 0 2 0 2 0 2 0 2 0 2 0 2 0 2 0 2 0 2 0 2 0 2 0 2 0 2 0 2 0 2 0 2 0 2 0 2 0 2 0 2 0 2 0 2 0",
      "2 0 2 0 2 0 2 0 2 0 2 0 2 0 2 0 2 0 2 0 2 0 2 0 2 0 2 0 2 0 2 0 2 0 2 0 2 0 2 0 2 0 2 0 2 0",
      "2 0 2 0 2 0 2 0 2 0 2 0 2 0 2 0 2 0 2 0 2 0 2 0 2 0 a 0 2 0 2 0 2 0 2 0 2 0 2 0 2 0 2 0 2 0",
      "2 0 2 0 2 0 2 0 2 0 2 0 2 0 2 0 2 0 2 0 2 0 2 0 2 0 2 0 2 0 2 0 2 0 2 0 2 0 2 0 2 0 2 0 2 0",
      "2 0 2 0 2 0 2 0 2 0 2 0 2 0 2 0 2 0 2 0 2 0 2 0 2 0 2 0 2 0 2 0 a 7 9 5 b 7 9 7 9 5 c 0 2 0",
      "2 0 2 0 9 7 21 3 d 3 d 3 d 4 c 3 7b 0 5 0 4 2 3 2 3 0 4 4 7 0 2 0 2 0 2 3 3 3 b 1 6 0 r f k",
      "0 mr p 1f5 1b 1d 0 2 2 3 0 2 0 2 0 2 3 2 0 3 0 9 2 2 0 2 0 2 0 2 0 2 0 2 0 2 0 2 0 2 0 2 0 2",
      "0 2 0 2 0 2 0 2 0 2 0 2 0 2 0 2 0 2 0 2 0 2 0 2 0 2 0 2 0 2 0 2 0 2 0 2 0 2 0 2 0 2 0 2 0 2",
      "0 2 0 2 0 2 0 2 0 2 0 2 0 2 0 2 0 2 0 2 0 2 0 2 0 2 0 2 0 2 0 9 0 2 0 5 0 nym 0 2 0 2 0 2 0",
      "2 0 2 0 2 0 2 0 2 0 2 0 2 0 2 0 2 0 2 0 2 0 2 0 2 0 2 0 2 0 2 0 2 0 2 0 2 0 k 0 2 0 2 0 2 0",
      "2 0 2 0 2 0 2 0 2 0 2 0 2 0 2 0 2 0 2 0 3s 0 2 0 2 0 2 0 2 0 2 0 2 0 4 0 2 0 2 0 2 0 2 0 2 0",
      "2 0 2 0 2 0 2 0 2 0 2 0 2 0 2 0 2 0 2 0 2 0 2 0 2 0 2 0 2 0 2 0 2 0 2 0 2 0 2 0 2 0 2 0 2 0",
      "2 0 2 0 b 0 2 0 2 1 2 0 2 0 2 0 2 0 5 0 2 0 3 0 2 0 4 0 2 0 2 0 2 0 2 0 2 0 2 0 2 0 2 0 2 0",
      "2 4 2 4 2 0 2 0 2 0 2 0 2 0 2 0 2 0 2 3 2 0 2 1 4 0 6 0 2 0 2 0 2 0 p 0 h7w p xy 13 3t z 4d",
      "a 2 e 2 6 2 1 1d7 1e 4e l 27v v gw1 v k2p p r p r p r 0 2 1 3 0 3 1 3 3 2 7 r p r 1 2 3 3 7",
      "2 6 s 1 2 3 2 4 2 0 4 6 s p r p r p r p r p r p v o y o y o y o y o y 0 3ee x 1lb p 7 p 7 p"]),
   ("Variation_Selector",
     ["4qz 2 2 0 19f5 f i9yp 6n"]),
   ("White_Space",
     ["9 4 j 0 2t 0 r 0 4bk 0 1vk a u 1 6 0 1c 0 335 0"]),
   ("XID_Continue",
     ["1c 9 8 p 5 0 2 p 1c 0 b 0 2 0 3 0 6 m 2 u 2 cp 5 b f 4 8 0 2 0 i 38 2 1 4 2 2 0 7 4 2 0 2 j",
      "2 2a 2 3u 2 4 3 4l 2 11 3 0 7 14 9 18 2 0 2 1 2 1 2 0 9 q 5 3 u a 6 21 5 2t 2 7 3 9 2 i 3 0",
      "h 1m 3 2s f 1h 5 0 3 0 3 19 j r 5 a 6 n 2 5 9 22 2 3k 3 9 2 i 2 7 3 1 3 l 2 6 2 0 4 3 3 8 3",
      "1 3 3 9 0 5 1 2 4 3 b b 0 2 0 3 2 2 5 5 1 3 l 2 6 2 1 2 1 2 1 3 0 2 4 5 1 3 2 4 0 8 3 2 0 8",
      "f c 2 2 8 2 2 2 l 2 6 2 1 2 4 3 9 2 2 2 2 3 0 g 3 3 9 a 6 2 2 2 7 3 1 3 l 2 6 2 1 2 4 3 8 3",
      "1 3 2 8 2 5 1 2 4 3 9 2 0 h 1 2 5 4 2 2 3 4 1 2 0 2 1 4 1 4 2 4 b 5 4 4 2 2 3 3 0 7 0 f 9 h",
      "c 2 2 2 m 2 f 3 8 2 2 2 3 8 1 2 2 3 0 3 3 3 9 h 3 2 7 2 2 2 m 2 9 2 4 3 8 2 2 2 3 8 1 7 1 2",
      "3 3 9 2 2 d c 2 2 2 1e 2 2 2 4 6 3 8 4 3 9 b 5 2 2 2 h 4 n 2 8 2 0 3 6 4 0 5 5 2 0 2 7 7 9 3",
      "1 e 1l 6 e 2 9 14 1 2 0 2 4 2 n 2 0 2 m 3 4 2 0 2 6 2 9 3 3 x 0 o 1 7 9 c 0 2 0 2 0 5 9 2 z",
      "5 j 2 h 2 z a 0 1m 21 7 25 3 11 2 0 6 0 3 16 2 98 2 3 3 6 2 0 2 3 3 14 2 3 3 w 2 3 3 6 2 0 2",
      "3 3 e 2 1k 2 3 3 1u 3 2 a 8 f f h 2d 3 5 4 h7 3 g 2 p 6 22 4 a 8 l a l c j d c 2 2 2 1 d 2b",
      "4 0 5 1 3 9 y 2 2 a 7 2g 8 16 6 1x b u 2 b 5 b b 13 3 4 c 17 5 p 7 a 12 r 5 1q 2 s 3 a 7 9 e",
      "0 9 d 2 f 1e 24 4 9 i 8 d 37 d 1j 9 9 4 1c 3 a 6 16 3 2 h 2 2 12 6 et 3 5 3 11 3 5 3 7 2 0 2",
      "0 2 0 2 u 3 1g 2 6 2 0 4 2 2 6 4 3 3 5 5 c 6 2 2 6 g 1 1e 1 k 0 t 0 e 0 h c 1g c 5 0 4 b i 0",
      "5 0 3 9 2 0 3 5 7 0 2 0 2 0 2 f 3 3 6 4 5 0 i 14 22g 6c 7 8 d 11 2 0 6 0 3 1j 8 0 g n a 6 2",
      "6 2 6 2 6 2 6 2 6 2 6 2 6 2 v ee 2 q e 2 4 3 4 5 2d 3 1 3 2 2 2m 6 16 2 2l i v 1d f e9 533",
      "1t h3g 1w 19 3 7g 4 r l 1b 5 9 2 36 12 8 3 2u 3 1u 3 1 2 0 2 7 m 1h 5 0 k 1f d 1x b 9 7 n 4",
      "0 2 1c 3 z d s 4 1s f a 7 u 2 1i a d 3 9 7 m 4 20 p 2 3 f 3 4 b 5 3 5 3 5 a 6 2 6 2 16 2 d 7",
      "3e 2 1 3 9 7 8mb d m 5 1c 6it a5 3 2x 13 6 d 4 6 b 2 c 2 4 2 0 2 1 2 1 2 2z y 3u 7 61 j 1r 3",
      "1h 15 9 7 f h f 4 1 p 2 y 0 2 0 4 0 2 0 2 0 2 0 2 3h k 9 8 p 5 0 2 p b 2h 4 5 3 5 3 5 3 2 10",
      "b 2 p 2 i 2 1 2 e 3 d z 3e 1y 1g 3t 0 3n s 4 1c g 0 w v e t 6 16 6 t 3 z 5 7 2 4 17 4d 3 9 7",
      "z 5 z 5 13 9 1f d a 2 e 2 6 2 1 2 a 2 e 2 6 2 1 4 1f d 8m a l b 7 p 5 2 15 2 8 1y 5 3 0 2 17",
      "2 1 4 0 3 m b m a u 1u i 2 1 b l b p 1z 1j 7 1 1t 3 2 1 6 7 2 2 2 s 3 2 5 0 x s 4 s 10 7 2 t",
      "q 1h b l b i e h 33 20 1k 1e e 1e e 13 9 9 7 11 4 4 2 m 6z 15 2 1 4 1 h 2 1k w b 0 9 w w l",
      "17 k s m a 1y w f a 1n 8 0 e o 8 9 7 1g 2 9 5 3 9 z 3 0 a 1w 5 3 2 c 2 0 10 h 2 10 7 3 1r 6",
      "2 0 2 3 2 e 2 9 8 1m 6 9 7 3 2 7 3 1 3 l 2 6 2 1 2 4 2 9 3 1 3 2 3 0 7 0 6 6 3 6 4 4 c 9 2 0",
      "3 0 2 11 2 9 2 0 3 0 2 3 2 7 e 1 u 22 6 9 5 3 v 1x 2 0 9 9 4n 1h 3 8 o 5 z 1s 4 0 c 9 13 1k",
      "8 9 7 j t q 3 e 5 9 7 6 56 1m 2u 21 m 7 3 0 3 7 2 1 2 t 2 1 3 8 d 9 1z 7 3 19 3 7 2 1 s 1q 9",
      "0 9 21 4 0 j 20 5k w g 9 7 8 2 18 2 8 g 9 p t 3 l 2 d 22 6 2 1 2 17 4 0 2 1 2 8 9 9 7 5 2 1",
      "2 10 2 1 2 5 8 9 8n m a g 2 14 4 4 e a 2e 0 28 pl 2v 32 i 5f 219 2o g tr h l b 32y 6 g6 5a2",
      "1l 1c7 fs 8 u 2 9 7 26 2 9 7 t 3 4 c 1i a 3 d 9 a k 6 i c1 18 4 9 5j 1r 3l 22 5 1k 8 g 1t 1",
      "2 1 c 1 f 4qf 9 yd 16 9 6w8 3 2 6 2 1 2 82 g 0 u 2 3 0 f 3 9 az 1s5 2y 6 c 4 8 8 9 4 1 382 9",
      "ef 19 3 m f3 4 4 5 9 7 3 6 v 3 45 2 cc 2c 2 1y 2 1 3 0 3 1 3 3 2 b 2 0 2 6 2 1s 2 3 3 7 2 6",
      "2 r 2 3 2 4 2 0 4 6 2 9f 3 o 2 o 2 u 2 o 2 u 2 o 2 u 2 o 2 u 2 o 2 7 3 1d e9 1i 5 1d 9 0 f 0",
      "n 4 2 e up u 7 5 5y 6 2 g 3 6 2 1 2 4 6 1p y 0 35 18 4 d 3 9 5 0 8y u i 1l d3 15 5z 16 di 6",
      "2 3 2 1 2 e 2 5g c 6 16 23 5 9 x3 3 2 q 2 1 2 0 3 0 2 9 2 3 2 0 2 0 7 0 5 0 2 0 2 0 2 2 2 1",
      "2 0 3 0 2 0 2 0 2 0 2 0 2 1 2 0 3 3 2 6 2 3 2 3 2 0 2 9 2 g 6 2 2 4 2 g 2lx 9 sn wyn x 37d 7",
      "65 3 4g1 f 5rk g h9 1wj f1 15v 3t6 6 38f f9e9 6n"]),
   ("XID_Start",
     ["1t p 7 p 1c 0 b 0 5 0 6 m 2 u 2 cp 5 b f 4 8 0 2 0 3m 4 2 1 4 2 2 0 7 0 2 2 2 0 2 j 2 2a 2",
      "3u 9 4l 2 11 3 0 7 14 20 q 5 3 1a 16 10 1 2 2q 2 0 g 1 8 1 b 2 3 0 h 0 2 t u 2g c 0 p w a 1",
      "5 0 6 l 5 0 a 0 4 0 o o 8 a 6 n 2 5 i 15 1n 1h 4 0 j 0 8 9 g f 5 7 3 1 3 l 2 6 2 0 4 3 4 0 h",
      "0 e 1 2 2 f 1 b 0 9 5 5 1 3 l 2 6 2 1 2 1 2 1 w 3 2 0 k 2 h 8 2 2 2 l 2 6 2 1 2 4 4 0 j 0 g",
      "1 o 0 c 7 3 1 3 l 2 6 2 1 2 4 4 0 v 1 2 2 g 0 i 0 2 5 4 2 2 3 4 1 2 0 2 1 4 1 4 2 4 b n 0 1h",
      "7 2 2 2 m 2 f 4 0 r 2 3 0 3 1 v 0 5 7 2 2 2 m 2 9 2 4 4 0 w 1 2 1 g 1 i 8 2 2 2 14 3 0 h 0 6",
      "2 9 2 p 5 6 h 4 n 2 8 2 0 3 6 1n 1b 2 0 e 6 1n 1 2 0 2 4 2 n 2 0 2 9 2 0 b 0 3 4 2 0 m 3 x 0",
      "1s 7 2 z s 4 38 16 l 0 h 5 5 3 4 0 4 1 8 2 5 c d 0 i 11 2 0 6 0 3 16 2 98 2 3 3 6 2 0 2 3 3",
      "14 2 3 3 w 2 3 3 6 2 0 2 3 3 e 2 1k 2 3 3 1u 12 f h 2d 3 5 4 h7 3 g 2 p 6 22 4 a 8 h e i f h",
      "f c 2 2 g 1f 10 0 5 0 1w 2g 8 14 2 0 6 1x b u 1e t 3 4 c 17 5 p 1j m a 1g 2b 0 2m 1a i 7 1j",
      "t e 1 b 17 r z 16 2 b z 3 a 6 16 3 2 16 3 2 5 2 1 4 0 6 5b 1t 7p 3 5 3 11 3 5 3 7 2 0 2 0 2",
      "0 2 u 3 1g 2 6 2 0 4 2 2 6 4 3 3 5 5 c 6 2 2 6 39 0 e 0 h c 2u 0 5 0 3 9 2 0 3 5 7 0 2 0 2 0",
      "2 f 3 3 6 4 5 0 i 14 22g 6c 7 3 4 1 d 11 2 0 6 0 3 1j 8 0 h m a 6 2 6 2 6 2 6 2 6 2 6 2 6 2",
      "6 fb 2 q 8 8 4 3 4 5 2d 7 2 2 2h 2 3 6 16 2 2l i v 1d f e9 533 1t h3g 1w 19 3 7g 4 f b 1 l",
      "1a h u 3 27 14 8 3 2u 3 1u 3 1 2 0 2 7 m f 2 2 2 3 2 m u 1f f 1d 1r 5 4 0 2 1 c r b m q s 8",
      "1a t 0 h 4 2 9 b 4 2 14 o 2 2 7 l m 4 0 4 1d 2 0 4 1 3 4 3 0 2 0 p 2 3 a 8 2 d 5 3 5 3 5 a 6",
      "2 6 2 16 2 d 7 36 u 8mb d m 5 1c 6it a5 3 2x 13 6 d 4 6 0 2 9 2 c 2 4 2 0 2 1 2 1 2 2z y 3u",
      "7 61 j 1r 3 1h 15 9 3c 0 2 0 4 0 2 0 2 0 2 0 2 3h 11 p 7 p c 1j 3 u 4 5 3 5 3 5 3 2 10 b 2 p",
      "2 i 2 1 2 e 3 d z 3e 1y 1g 7g s 4 1c 1c v e t 6 11 b t 3 z 5 7 2 4 17 4d j z 5 z 5 13 9 1f d",
      "a 2 e 2 6 2 1 2 a 2 e 2 6 2 1 4 1f d 8m a l b 7 p 5 2 15 2 8 1y 5 3 0 2 17 2 1 4 0 3 m b m a",
      "u 1u i 2 1 b l b p 1z 1j 7 1 1t 0 g 3 2 2 2 s 17 s 4 s 10 7 2 r s 1h b l b i e h 33 20 1k 1e",
      "e 1e e z 13 r a m 6z 15 7 1 h 2 1o s b 0 9 l 17 h 1b k s m d 1g 1m 1 3 0 e 18 x o r z u 0 3",
      "0 9 y 4 0 d 1b f 3 m 0 2 0 10 h 2 o k 1 1s 6 2 0 2 3 2 e 2 9 8 1a 13 7 3 1 3 l 2 6 2 1 2 4 4",
      "0 j 0 d 4 v 9 2 0 3 0 2 11 2 0 q 0 2 0 19 1g j 3 l 2 v 1b l 1 2 0 55 1a 16 3 11 1b l 0 1o 16",
      "e 0 20 q 12 6 56 17 39 1r w 7 3 0 3 7 2 1 2 n g 0 2 0 2n 7 3 12 h 0 2 0 t 0 b 13 8 0 m 0 c",
      "19 k 0 j 20 5k w w 8 2 10 i 0 1e t 35 6 2 1 2 11 m 0 q 5 2 1 2 v f 0 94 i g 0 2 c 2 x 3h 0",
      "28 pl 2v 32 i 5f 219 2o g tr i 5 q 32y 6 g6 5a2 t 1cz fs 8 u i 26 i t j 1b h 3 w k 6 i c1 18",
      "5w 1r 3l 22 6 0 1v c 1t 1 2 0 t 4qf 9 yd 16 9 6w8 3 2 6 2 1 2 82 g 0 u 2 3 0 f 3 9 az 1s5 2y",
      "6 c 4 8 8 9 4mf 2c 2 1y 2 1 3 0 3 1 3 3 2 b 2 0 2 6 2 1s 2 3 3 7 2 6 2 r 2 3 2 4 2 0 4 6 2",
      "9f 3 o 2 o 2 u 2 o 2 u 2 o 2 u 2 o 2 u 2 o 2 7 1f9 u 7 5 7a 1p 43 18 b 6 h 0 8y t j 17 dh r",
      "6d t 3 0 ds 6 2 3 2 1 2 e 2 5g 1o 1v 8 0 xh 3 2 q 2 1 2 0 3 0 2 9 2 3 2 0 2 0 7 0 5 0 2 0 2",
      "0 2 2 2 1 2 0 3 0 2 0 2 0 2 0 2 0 2 1 2 0 3 3 2 6 2 3 2 3 2 0 2 9 2 g 6 2 2 4 2 g 3et wyn x",
      "37d 7 65 3 4g1 f 5rk g h9 1wj f1 15v 3t6 6 38f"])]

end RuleBench.Pattern

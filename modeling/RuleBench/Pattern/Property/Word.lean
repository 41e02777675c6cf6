import RuleBench.Text.CodeSet

set_option autoImplicit false

/-!
# Word characters and digits

Word characters are letters, marks, decimal digits, connecting punctuation and the two joiners.
-/

namespace RuleBench.Pattern

open Text

def wordSet : CodeSet := CodeSet.ofCode
  ["1c 9 8 p 5 0 2 p 1c 0 b 0 5 0 6 m 2 u 2 cp 5 b f 4 8 0 2 0 i 38 2 1 3 3 2 0 7 0 2 2 2 0 2 j",
   "2 2a 2 3u 2 4s 2 11 3 0 7 14 9 18 2 0 2 1 2 1 2 0 9 q 5 3 u a 6 21 5 2t 2 7 3 9 2 i 3 0 h 1m",
   "3 2s f 1h 5 0 3 0 3 19 j r 5 a 6 n 2 5 9 22 2 3k 3 9 2 i 2 7 3 1 3 l 2 6 2 0 4 3 3 8 3 1 3 3",
   "9 0 5 1 2 4 3 b b 0 2 0 3 2 2 5 5 1 3 l 2 6 2 1 2 1 2 1 3 0 2 4 5 1 3 2 4 0 8 3 2 0 8 f c 2",
   "2 8 2 2 2 l 2 6 2 1 2 4 3 9 2 2 2 2 3 0 g 3 3 9 a 6 2 2 2 7 3 1 3 l 2 6 2 1 2 4 3 8 3 1 3 2",
   "8 2 5 1 2 4 3 9 2 0 h 1 2 5 4 2 2 3 4 1 2 0 2 1 4 1 4 2 4 b 5 4 4 2 2 3 3 0 7 0 f 9 h c 2 2",
   "2 m 2 f 3 8 2 2 2 3 8 1 2 2 3 0 3 3 3 9 h 3 2 7 2 2 2 m 2 9 2 4 3 8 2 2 2 3 8 1 7 1 2 3 3 9",
   "2 2 d c 2 2 2 1e 2 2 2 4 6 3 8 4 3 9 b 5 2 2 2 h 4 n 2 8 2 0 3 6 4 0 5 5 2 0 2 7 7 9 3 1 e",
   "1l 6 e 2 9 14 1 2 0 2 4 2 n 2 0 2 m 3 4 2 0 2 6 2 9 3 3 x 0 o 1 7 9 c 0 2 0 2 0 5 9 2 z 5 j",
   "2 h 2 z a 0 1m 21 7 25 3 11 2 0 6 0 3 16 2 98 2 3 3 6 2 0 2 3 3 14 2 3 3 w 2 3 3 6 2 0 2 3 3",
   "e 2 1k 2 3 3 1u 3 2 x f h 2d 3 5 4 h7 3 g 2 p 6 22 4 a 8 l a l c j d c 2 2 2 1 d 2b 4 0 5 1",
   "3 9 y 2 2 a 7 2g 8 16 6 1x b u 2 b 5 b b 13 3 4 c 17 5 p 7 9 13 r 5 1q 2 s 3 a 7 9 e 0 9 u",
   "1e 24 4 9 i 8 d 37 d 1j 9 9 4 1c 3 a 6 16 3 2 h 2 2 12 6 et 3 5 3 11 3 5 3 7 2 0 2 0 2 0 2 u",
   "3 1g 2 6 2 0 4 2 2 6 4 3 3 5 5 c 6 2 2 6 g 1 1e 1 k 0 t 0 e 0 h c 1g w i 0 5 0 3 9 2 0 4 4 7",
   "0 2 0 2 0 2 3 2 a 3 3 6 4 5 0 i 14 mm 1f 1ef 6c 7 8 d 11 2 0 6 0 3 1j 8 0 g n a 6 2 6 2 6 2",
   "6 2 6 2 6 2 6 2 6 2 v 1c 0 d2 2 q e 2 4 3 4 5 2d 3 1 3 2 2 2h 2 3 6 16 2 2l i v 1d f e9 533",
   "1t h3g 1w 19 3 7g 4 r l 1e 2 9 2 36 12 8 3 2u 3 1u 3 1 2 0 2 7 m 1h 5 0 k 1f d 1x b 9 7 n 4",
   "0 2 1c 3 z d s 4 1s f a 7 u 2 1i a d 3 9 7 m 4 20 p 2 3 f 3 4 b 5 3 5 3 5 a 6 2 6 2 16 2 d 7",
   "3e 2 1 3 9 7 8mb d m 5 1c 6it a5 3 2x 13 6 d 4 6 b 2 c 2 4 2 0 2 1 2 1 2 2z y a2 j 1r 3 1h",
   "15 b 5 f h f 4 1 p 2 x 4 2 3q k 9 8 p 5 0 2 p c 2g 4 5 3 5 3 5 3 2 10 b 2 p 2 i 2 1 2 e 3 d",
   "z 3e 1y 1g 3t 0 3n s 4 1c g 0 w v e t 6 16 6 t 3 z 5 7 2 4 17 4d 3 9 7 z 5 z 5 13 9 1f d a 2",
   "e 2 6 2 1 2 a 2 e 2 6 2 1 4 1f d 8m a l b 7 p 5 2 15 2 8 1y 5 3 0 2 17 2 1 4 0 3 m b m a u",
   "1u i 2 1 b l b p 1z 1j 7 1 1t 3 2 1 6 7 2 2 2 s 3 2 5 0 x s 4 s 10 7 2 t q 1h b l b i e h 33",
   "20 1k 1e e 1e e 13 9 9 7 11 4 4 2 m 6z 15 2 1 4 1 h 2 1k w b 0 9 w w l 17 k s m a 1y w f a",
   "1n 8 0 e o 8 9 7 1g 2 9 5 3 9 z 3 0 a 1w 5 3 2 c 2 0 10 h 2 10 7 3 1r 6 2 0 2 3 2 e 2 9 8 1m",
   "6 9 7 3 2 7 3 1 3 l 2 6 2 1 2 4 2 9 3 1 3 2 3 0 7 0 6 6 3 6 4 4 c 9 2 0 3 0 2 11 2 9 2 0 3 0",
   "2 3 2 7 e 1 u 22 6 9 5 3 v 1x 2 0 9 9 4n 1h 3 8 o 5 z 1s 4 0 c 9 13 1k 8 9 7 j t q 3 e 5 9 7",
   "6 56 1m 2u 21 m 7 3 0 3 7 2 1 2 t 2 1 3 8 d 9 1z 7 3 19 3 7 2 1 s 1q 9 0 9 21 4 0 j 20 5k w",
   "g 9 7 8 2 18 2 8 g 9 p t 3 l 2 d 22 6 2 1 2 17 4 0 2 1 2 8 9 9 7 5 2 1 2 10 2 1 2 5 8 9 8n m",
   "a g 2 14 4 4 e a 2e 0 28 pl 2v 32 i 5f 219 2o g tr h l b 32y 6 g6 5a2 1l 1c7 fs 8 u 2 9 7 26",
   "2 9 7 t 3 4 c 1i a 3 d 9 a k 6 i c1 18 4 9 5j 1r 3l 22 5 1k 8 g 1t 1 2 1 c 1 f 4qf 9 yd 16 9",
   "6w8 3 2 6 2 1 2 82 g 0 u 2 3 0 f 3 9 az 1s5 2y 6 c 4 8 8 9 4 1 382 9 ef 19 3 m f3 4 4 5 9 7",
   "3 6 v 3 45 2 cc 2c 2 1y 2 1 3 0 3 1 3 3 2 b 2 0 2 6 2 1s 2 3 3 7 2 6 2 r 2 3 2 4 2 0 4 6 2",
   "9f 3 o 2 o 2 u 2 o 2 u 2 o 2 u 2 o 2 u 2 o 2 7 3 1d e9 1i 5 1d 9 0 f 0 n 4 2 e up u 7 5 5y 6",
   "2 g 3 6 2 1 2 4 6 1p y 0 35 18 4 d 3 9 5 0 8y u i 1l d3 15 5z 16 di 6 2 3 2 1 2 e 2 5g c 6",
   "16 23 5 9 x3 3 2 q 2 1 2 0 3 0 2 9 2 3 2 0 2 0 7 0 5 0 2 0 2 0 2 2 2 1 2 0 3 0 2 0 2 0 2 0 2",
   "0 2 1 2 0 3 3 2 6 2 3 2 3 2 0 2 9 2 g 6 2 2 4 2 g hh p 7 p 7 p 21z 9 sn wyn x 37d 7 65 3 4g1",
   "f 5rk g h9 1wj f1 15v 3t6 6 38f f9e9 6n"]

def digitSet : CodeSet := CodeSet.ofCode
  ["1c 9 17r 9 3r 9 5j 9 bh 9 3b 9 3b 9 3b 9 3b 9 3b 9 3b 9 3b 9 3b 9 3b 9 2p 9 3b 9 1z 9 7r 9",
   "1z 9 1fr 9 13 9 8d 9 3l 9 4n 9 7 9 53 9 2f 9 3r 9 7 9 r7r 9 iv 9 13 9 5j 9 n 9 2f 9 bb 9 gev",
   "9 13b 9 1on 9 7 9 m5 9 3l 9 1p 9 41 9 7r 9 9j 9 3b 9 af 9 2v 9 7 j 25 9 br 9 2v 9 if 9 2f 9",
   "6v 9 1z 9 br 9 d07 9 1t3 9 2f 9 3r 9 ev 9 iuv 9 251 1d 1tt 9 br 9 dz 9 6w 9 nq 9 3o7 9"]

def asciiWordSet : CodeSet := [(0x30, 0x39), (0x41, 0x5A), (0x5F, 0x5F), (0x61, 0x7A)]

def asciiDigitSet : CodeSet := [(0x30, 0x39)]

def asciiSpaceSet : CodeSet := [(0x09, 0x0D), (0x20, 0x20)]

end RuleBench.Pattern

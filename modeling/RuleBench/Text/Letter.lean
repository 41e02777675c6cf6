import RuleBench.Text.CodeSet

set_option autoImplicit false

/-!
# Letters and digits

The characters a name may be made of: Unicode letters (`Alphabetic`) and numerals of every kind
(`Nd`, `Nl`, `No`).  The ASCII part is decided by comparison alone, so that statements about
operators and keywords never look into a table.
-/

namespace RuleBench.Text

def asciiLetter (c : Char) : Bool :=
  ('a' ≤ c && c ≤ 'z') || ('A' ≤ c && c ≤ 'Z')

def asciiDigit (c : Char) : Bool := '0' ≤ c && c ≤ '9'

def asciiHexDigit (c : Char) : Bool :=
  asciiDigit c || ('a' ≤ c && c ≤ 'f') || ('A' ≤ c && c ≤ 'F')

/-- Letters outside ASCII. -/
def letterTable : CodeSet := CodeSet.ofCode
  ["4q 0 b 0 5 0 6 m 2 u 2 cp 5 b f 4 8 0 2 0 2f 0 u h 2 1 3 3 2 0 7 0 2 2 2 0 2 j 2 2a 2 3u 9",
   "4l 2 11 3 0 7 14 14 d 2 0 2 1 2 1 2 0 9 q 5 3 u a 6 1j 2 6 f 2t 2 7 5 7 5 2 b 2 3 0 h 1b e",
   "2s p w a 1 5 0 6 n 3 i k o 8 a 6 n 2 5 9 0 9 15 b b 4 6 7 23 2 f 2 2 5 e e i 2 7 3 1 3 l 2 6",
   "2 0 4 3 4 7 3 1 3 1 2 0 9 0 5 1 2 4 d 1 b 0 5 2 2 5 5 1 3 l 2 6 2 1 2 1 2 1 5 4 5 1 3 1 5 0",
   "8 3 2 0 i 5 c 2 2 8 2 2 2 l 2 6 2 1 2 4 4 8 2 2 2 1 4 0 g 3 m 3 5 2 2 7 3 1 3 l 2 6 2 1 2 4",
   "4 7 3 1 3 1 a 1 5 1 2 4 e 0 h 1 2 5 4 2 2 3 4 1 2 0 2 1 4 1 4 2 4 b 5 4 4 2 2 2 4 0 7 0 15 c",
   "2 2 2 m 2 f 4 7 2 2 2 2 9 1 2 2 3 0 3 3 t 3 2 7 2 2 2 m 2 9 2 4 4 7 2 2 2 2 9 1 7 1 2 3 e 2",
   "d c 2 2 2 14 3 7 2 2 2 2 2 0 6 3 8 4 n 5 2 2 2 h 4 n 2 8 2 0 3 6 9 5 2 0 2 7 j 1 e 1l 6 6 7",
   "0 1g 1 2 0 2 4 2 n 2 0 2 i 2 2 3 4 2 0 7 0 f 3 x 0 1s 7 2 z 5 i 5 f 2 z 1w 1i 2 0 3 4 h 1r b",
   "3 3 11 2 0 6 0 3 16 2 98 2 3 3 6 2 0 2 3 3 14 2 3 3 w 2 3 3 6 2 0 2 3 3 e 2 1k 2 3 3 1u 12 f",
   "h 2d 3 5 4 h7 3 g 2 p 6 22 4 a 8 j c k d j d c 2 2 2 1 d 1f 3 i f 0 5 0 1w 2g 8 16 6 1x b u",
   "2 b 5 8 o t 3 4 c 17 5 p 1j r 5 1q 3 j 1f 0 o 1 c 2 1e 1f 2 e 2 7 1g 15 3 3 b 17 2 a f 1i n",
   "2 b z 3 a 6 16 3 2 16 3 2 5 2 1 4 0 6 5b k x c 7p 3 5 3 11 3 5 3 7 2 0 2 0 2 0 2 u 3 1g 2 6",
   "2 0 4 2 2 6 4 3 3 5 5 c 6 2 2 6 39 0 e 0 h c 2u 0 5 0 3 9 2 0 4 4 7 0 2 0 2 0 2 3 2 a 3 3 6",
   "4 5 0 i 14 mm 1f 1ef 6c 7 3 4 1 d 11 2 0 6 0 3 1j 8 0 h m a 6 2 6 2 6 2 6 2 6 2 6 2 6 2 6 2",
   "v 1c 0 d2 2 q 8 8 4 3 4 5 2d 7 2 2 2h 2 3 6 16 2 2l i v 1d f e9 533 1t h3g 1w 19 3 7g 4 f b",
   "1 l 1a 6 7 4 34 14 8 3 2u 3 1u 3 1 2 0 2 7 m j 2 w p 1f d 1v 2 0 19 5 4 0 2 2 b w 6 y e s 4",
   "1e 2 b g 0 h f b 4 2 1i a d j m 4 1w 2 0 2 0 p 2 3 f 3 3 c 5 3 5 3 5 a 6 2 6 2 16 2 d 7 3e m",
   "8mb d m 5 1c 6it a5 3 2x 13 6 d 4 6 b 2 c 2 4 2 0 2 1 2 1 2 2z y a2 j 1r 3 1h 15 b 39 4 2 3q",
   "11 p 7 p c 2g 4 5 3 5 3 5 3 2 10 b 2 p 2 i 2 1 2 e 3 d z 3e 1y 1g 7g s 4 1c 1c v e t 6 16 6",
   "t 3 z 5 7 2 4 17 4d j z 5 z 5 13 9 1f d a 2 e 2 6 2 1 2 a 2 e 2 6 2 1 4 1f d 8m a l b 7 p 5",
   "2 15 2 8 1y 5 3 0 2 17 2 1 4 0 3 m b m a u 1u i 2 1 b l b p 1z 1j 7 1 1t 3 2 1 6 7 2 2 2 s",
   "17 s 4 s 10 7 2 r s 1h b l b i e h 33 20 1k 1e e 1e e 13 z r 4 0 6 m 6z 15 2 1 4 1 h 2 1k 0",
   "4 s b 0 9 l 17 h 1b k s m a 1x 18 4 b 1k a 0 e o o 1e i 3 9 y 4 0 a 1r 2 3 a 1 b 0 2 0 10 h",
   "2 x 3 0 7 3 1r 6 2 0 2 3 2 e 2 9 8 1k o 3 2 7 3 1 3 l 2 6 2 1 2 4 4 7 3 1 3 1 4 0 7 0 6 6 t",
   "9 2 0 3 0 2 11 2 9 2 0 3 0 2 3 2 1 4 0 2 0 19 1t 2 2 2 3 l 2 v 1t 3 1 2 0 55 1h 3 6 q 5 z 1q",
   "2 0 4 0 1o 1h 3 0 20 q 3 d m 6 56 1k 2w 1r w 7 3 0 3 7 2 1 2 t 2 1 3 1 3 3 2m 7 3 19 3 5 2 0",
   "2 1 s 1e 3 9 i 1z 6 0 j 20 5k w w 8 2 18 2 6 2 0 1e t 3 l 2 d 22 6 2 1 2 17 4 0 2 1 2 2 2 0",
   "3 1 p 5 2 1 2 10 2 1 2 3 2 0 94 m a g 2 14 4 2 34 0 28 pl 2v 32 i 5f 219 2o g tr i 5 q 32y 6",
   "g6 5a2 1a 1ci fs 8 u i 26 i t j 1b h 3 w k 6 i c1 18 5w 1r 3l 22 5 1k 8 g 1t 1 2 0 d 1 f 4qf",
   "9 yd 16 9 6w8 3 2 6 2 1 2 82 g 0 u 2 3 0 f 3 9 az 1s5 2y 6 c 4 8 8 9 5 0 4ma 2c 2 1y 2 1 3 0",
   "3 1 3 3 2 b 2 0 2 6 2 1s 2 3 3 7 2 6 2 r 2 3 2 4 2 0 4 6 2 9f 3 o 2 o 2 u 2 o 2 u 2 o 2 u 2",
   "o 2 u 2 o 2 7 1f9 u 7 5 5y 6 2 g 3 6 2 1 2 4 6 1p y 0 35 18 b 6 h 0 8y t j 17 dh r 6d t 3 0",
   "ds 6 2 3 2 1 2 e 2 5g 1o 1v 4 0 4 0 xh 3 2 q 2 1 2 0 3 0 2 9 2 3 2 0 2 0 7 0 5 0 2 0 2 0 2 2",
   "2 1 2 0 3 0 2 0 2 0 2 0 2 0 2 1 2 0 3 3 2 6 2 3 2 3 2 0 2 9 2 g 6 2 2 4 2 g hh p 7 p 7 p 2uv",
   "wyn x 37d 7 65 3 4g1 f 5rk g h9 1wj f1 15v 3t6 6 38f"]

/-- Numerals outside ASCII. -/
def numeralTable : CodeSet := CodeSet.ofCode
  ["4y 1 6 0 3 2 142 9 3r 9 5j 9 bh 9 3b 9 5 5 31 9 3b 9 3b 9 3 5 33 c 38 9 9 6 2w 9 2x 6 8 i 32",
   "9 2p 9 3b 9 1z j 7h 9 1z 9 k0 j oi 2 6o 9 7 9 n 9 8d 9 3l a 4m 9 7 9 53 9 2f 9 3r 9 7 9 t3 0",
   "4 5 7 9 5j 1e 3 4 k7 1n 27 l hj t 12i 0 lm 0 q 8 f 2 9k 3 3v 9 v 7 2 e x 9 14 e msh 9 59 9",
   "8x 5 4b 9 13 9 5j 9 n 9 2f 9 bb 9 gev 9 dq 18 d 1k i 1 9i q 11 3 u 0 9 0 3r 4 5n 9 q7 7 q 6",
   "14 8 24 4 n 5 4h 1 3 f 3 19 1t 8 1h 1 v 2 24 4 2x 7 p 7 16 6 97 5 1d 9 7 9 7r u 4f 9 17 3 35",
   "6 3r t 3l 9 1p 9 41 9 8 j 70 9 9j 9 3b 9 af 9 2v 9 7 j 25 b bp i 2m 9 if 9 2f s 6c 9 1z 9 br",
   "9 2v k to 32 c02 9 1t3 9 2f 9 3r 9 2 6 en 9 7b m imy 9 153 j d j 31 o uu 1d 1tt 9 br 9 dz 9",
   "6w 9 jx 8 3l 9 m0 1m 2 2 2 3 25 18 2 e qr c 25g 9"]

def isLetter (c : Char) : Bool :=
  if c.toNat < 128 then asciiLetter c else letterTable.contains c.toNat

def isNumeral (c : Char) : Bool :=
  if c.toNat < 128 then asciiDigit c else numeralTable.contains c.toNat

def isLetterOrNumeral (c : Char) : Bool := isLetter c || isNumeral c

end RuleBench.Text

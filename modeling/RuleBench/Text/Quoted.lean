import RuleBench.Text.CodeSet

set_option autoImplicit false

/-!
# Quoted text

Text between double quotes on one line: what cannot be seen by itself (controls, format characters,
blanks other than the space, unassigned code points, marks that extend the character before them)
is written as an escape.
-/

namespace RuleBench.Text

/-- Code points outside ASCII without a visible form: `Cc Cf Cs Co Cn Zl Zp Zs`. -/
def invisibleTable : CodeSet := CodeSet.ofCode
  ["3k w d 0 jv 1 7 3 8 0 2 0 l 0 b2 0 13 1 1f 1 4 0 1k 7 s 3 7 g n 0 5d 0 1d 1 1o 1 2u d 1o 1",
   "1e 1 g 0 t 1 2 0 c 4 w 7 24 0 4i 0 9 1 3 1 n 0 8 0 2 2 5 1 a 1 3 1 5 7 2 3 3 0 6 1 q 1 4 0 7",
   "3 3 1 n 0 8 0 3 0 3 0 3 1 2 0 6 3 3 1 4 2 2 6 5 0 2 6 i 9 4 0 a 0 4 0 n 0 8 0 3 0 6 1 b 0 4",
   "0 4 1 2 e 5 1 d 6 8 0 4 0 9 1 3 1 n 0 8 0 3 0 6 1 a 1 3 1 4 6 4 3 3 0 6 1 j 9 3 0 7 2 4 0 5",
   "2 3 0 2 0 3 2 3 2 4 2 d 3 6 2 4 0 5 1 2 5 2 d m 4 e 0 4 0 o 0 h 1 a 0 4 0 5 6 3 0 4 1 2 1 5",
   "1 b 6 n 0 4 0 o 0 b 0 6 1 a 0 4 0 5 6 3 5 3 0 5 1 b 0 4 b e 0 4 0 1g 0 4 0 7 3 h 1 r 0 4 0 j",
   "2 p 0 a 0 2 1 8 2 2 3 7 0 2 0 9 5 b 1 4 b 1n 3 u 10 3 0 2 0 6 0 p 0 2 0 o 1 6 0 2 0 8 0 b 1",
   "5 v 21 0 11 3 14 0 11 0 g 0 e 10 5j 0 2 4 2 1 ai 0 5 1 8 0 2 0 5 1 16 0 5 1 y 0 5 1 8 0 2 0",
   "5 1 g 0 1m 0 5 1 1w 1 x 2 r 5 2f 1 7 1 ht 0 t 2 2i 6 n 8 p 8 l b e 0 4 0 3 b 2n 1 b 5 b 5 f",
   "0 c 5 2i 6 18 4 1z 9 w 0 d 3 d 3 2 2 17 1 6 a 19 3 r 5 c 2 1r 1 1u 0 u 1 c 5 b 5 f 1 w 1c 26",
   "0 4n 7 1p 2 g 2 1r 4 18 1 c 7 18 4 ev 1 7 1 13 1 7 1 9 0 2 0 2 0 2 0 w 1 1i 0 g 0 f 1 7 0 k",
   "1 4 0 a g p 7 1c g 3 1 s 0 e 2 y e y e 3x 3 ij l c k 1ed 1 x 0 9q 4 1a 0 2 4 2 1 1l 6 3 d p",
   "8 8 0 8 0 8 0 8 0 8 0 8 0 8 0 8 0 3j x r 0 2i b 5z p h 0 1s 0 2f 1 2w 4 18 0 2n 0 2f 8 1d 0",
   "mlq 2 1k 8 9p j 55 7 5r 1 3 0 2 0 9 k 1o 2 b 5 1l 7 1z 7 d 5 39 a v 2 27 0 c 3 y 0 1k 8 f 1",
   "b 1 2w n t 9 7 1 7 1 7 8 8 0 8 0 1p 3 3j 1 b 5 8md b o 3 1e 3 1kx 4xr a7 1 2z 11 8 b 6 4 r 0",
   "6 0 2 0 3 0 3 0 3i f ce 1 1j 6 2 v 17 5 1g 0 k 0 5 3 6 0 3s 3 5b 2 7 1 7 1 7 1 4 2 8 0 8 c 3",
   "1 d 0 r 0 k 0 3 0 g 1 f x 3g 4 4 3 1a 2 2h 0 e 2 2 1a 1b 3l u 2 1e e t 3 11 8 v 4 18 4 v 0",
   "12 3 f 15 4f 1 b 5 11 3 11 3 15 7 1h a d 0 g 0 8 0 3 0 c 0 g 0 8 0 3 2 1h b 8o 8 n 9 9 n 7 0",
   "17 0 a 1w 7 1 2 0 19 0 3 2 2 1 o 0 21 7 a 1b k 0 3 4 y 2 s 4 2 1r 1l 3 l 1 1f 0 3 4 9 0 4 0",
   "u 1 4 3 b 6 a 6 1t v 14 3 d 8 1j 2 u 1 s 4 r 6 5 b 8 27 22 1i 1g c 1g 6 1b 7 b 5 13 2 u 7 3",
   "5r w 0 17 0 4 1 3 f 4 1i 19 7 17 l r 11 t j o 8 27 3 11 8 1r 0 6 c q 6 b 5 1i 0 j 7 14 8 2p",
   "0 l a j 0 1c 1p 8 0 2 0 5 0 g 0 c 5 1o 4 b 5 5 0 9 1 3 1 n 0 8 0 3 0 6 0 b 1 3 1 4 1 2 5 2 4",
   "8 1 8 2 6 a b 0 2 1 2 0 13 0 b 0 2 1 2 0 5 0 b 0 3 7 3 s 2l 0 6 t 21 7 b 4l 1j 1 13 x 1y a b",
   "5 e i 1n 5 b 5 l r s 1 g 3 o 54 1p 2r 2c b 9 1 2 1 9 0 3 0 v 0 3 1 d 8 b 1x 9 1 1b 1 c q 21",
   "7 2c c 22 6 b 51 z d b 5 a 0 1a 0 f 9 u 2 x 1 n 0 f 20 8 0 3 0 19 2 2 0 3 0 a 7 b 5 7 0 3 0",
   "12 0 3 0 7 6 b 8l q 6 i 0 16 2 u 2c 2 e 1f c po 2t 34 0 6 a 5h 217 2s c tt f n 9 330 4 g8",
   "5a0 1n 1c5 fu 6 w 0 b 3 2a 0 b 5 v 1 7 9 1z 9 b 0 8 0 m 4 k bz 1n 5h 2k 2s 24 3 1m 6 i 1r 6",
   "a 3 d 4qh 7 yf 14 b 6w6 5 0 8 0 3 0 84 e 2 s 4 1 2 d 5 7 b1 1s3 30 4 e 2 a 6 b 1 5 31b 6z 5",
   "c5 23 1b 1 o 8 39 1n 6v 9 14 1 23 7 35 k 1z 3d l b l b 2g 8 q 3q 2e 0 20 0 3 1 2 1 3 1 5 0 d",
   "0 2 0 8 0 1u 0 5 1 9 0 8 0 t 0 5 0 6 0 2 2 8 0 9h 1 85 1 jj e 6 0 g un w 5 7 5w 8 0 i 1 8 0",
   "3 0 6 4 1r w 2 33 1a 2 f 1 b 3 3 8v w g 1n 4 2 cv 17 5x 18 3 2 db 8 0 5 0 3 0 g 0 5i 1 h 14",
   "25 3 b 3 3 ls 1x 23 1q 5d 5 0 s 0 3 0 2 1 2 0 b 0 5 0 2 0 2 5 2 3 2 0 2 0 2 0 4 0 3 0 2 1 2",
   "0 2 0 2 0 2 0 2 0 3 0 2 1 5 0 8 0 5 0 5 0 2 0 b 0 i 4 4 0 6 0 i 1f 3 7h 19 3 2t b g 1 g 0 g",
   "0 12 9 4v 1j u c 19 3 a 6 3 d 7 49 rd 3 i 2 e 2 3c 3 2o 5 d 3 2 e d 3 1l 7 b 5 15 7 v 1 d 3",
   "3 1p 9h b f 1 e 2 b 4 1l 6 g 1 c 5 a 6 44 0 2v sl wyp v 37f 5 67 1 4g3 d 5rm e hb 1wh f3 15t",
   "3t8 4 38h f9e7 6p 47bj"]

/-- Code points that join the character before them: `Grapheme_Extend`. -/
def extendingTable : CodeSet := CodeSet.ofCode
  ["lc 33 7o 6 7c 18 2 0 2 1 2 1 2 0 21 a 1d k h 0 2u 6 3 5 3 1 2 3 10 0 v q 2k a 1n 8 a 0 p 3 2",
   "8 2 2 2 4 18 2 1o 8 17 n 2 v 1k 0 2 0 5 7 5 0 4 6 b 1 u 0 1n 0 2 0 3 3 9 0 a 0 b 1 r 0 3 1",
   "1m 0 5 1 5 1 3 2 4 0 v 1 4 0 c 1 1m 0 5 4 2 1 5 0 l 1 n 5 2 0 1n 0 2 1 2 3 9 0 8 2 b 1 v 0",
   "1o 0 2 0 d 0 a 0 15 0 4 0 1k 0 2 2 6 2 2 3 8 1 c 1 u 0 1n 0 3 1 2 0 4 2 2 3 8 1 c 1 t 1 1m 1",
   "2 0 3 3 9 0 a 0 b 1 u 0 21 0 5 0 3 2 2 0 9 0 2a 0 3 6 d 7 2r 0 3 8 c 6 22 1 s 0 2 0 2 0 1k d",
   "2 4 2 1 6 a 2 z a 0 2v 3 2 5 2 1 3 1 q 1 5 2 h 3 e 0 3 1 7 0 g 0 jk 2 qb 3 t 2 u 1 v 1 1t 1",
   "2 6 9 0 3 a a 0 1a 2 2 0 3a 1 z 0 3b 2 5 1 a 0 7 2 64 1 3 0 1n 0 2 6 2 0 2 0 3 7 7 9 3 0 1d",
   "u 1e 3 1d 9 5 2 13 8 d 1 x 3 3 5 1l 0 2 1 4 0 2 4 1l 7 3 1 49 2 2 c 2 6 5 0 7 0 4 1 5j 1r el",
   "0 5g w 2db 2 3y 0 2p v ff 5 2y 1 n9x 3 2 9 x 1 29 1 7l 0 4 0 5 0 q 1 6 0 48 1 r h e 0 13 7 q",
   "a 2 0 19 2 1d 0 3 3 3 1 3 0 11 0 1w 5 3 1 3 1 d 0 9 0 1c 0 1g 0 2 2 3 1 6 1 2 0 17 1 9 0 6n",
   "0 3 0 5 0 fn5 0 ki f h f a7 1 gu 0 6b 0 46 4 1af 2 2 1 6 3 15 2 5 0 4m 1 fy 3 1u 4 8u 1 28 3",
   "1z a 1e 3 3g 0 1j e 16 0 3 1 b 2 1e 3 3 1 8 0 1q 2 11 4 2 7 1r 0 d 1 1h 8 2 0 9 3 3 0 2o 2 3",
   "3 7 0 3 0 4e 0 4 7 m 1 1m 1 2 0 2 0 d 0 a 0 f 6 4 4 1w 0 3 5 2 0 3 0 2 2 5 2 2 0 f 1 2e 7 3",
   "2 2 0 o 0 2a 0 3 5 2 0 3 0 2 1 2 1 6k 0 3 3 7 1 2 1 s 1 2e 7 3 0 2 1 2z 0 2 0 3 7 2u 0 2 0 3",
   "3 2 4 78 8 2 1 6u 0 b 3 5 0 41 3 3 1 5 0 x 9 15 5 3 3 9 0 a 5 3 2 1b c 2 1 bb 6 2 5 2 0 2b l",
   "3 6 2 1 2 1 3f 5 4 0 2 1 2 6 2 0 21 1 4 0 2 0 9o 1 c 1 1h 4 6 2 o 0 44m 0 7 e 8uh b 4 2 1xd",
   "4 1o 6 t5 0 1s 3 2a 0 c 1 f58 1 3mq 19 3 m f3 4 4 5 9 7 3 6 v 3 45 2 1j0 1i 5 1d 9 0 f 0 n 4",
   "2 e 11t 6 2 g 3 6 2 1 2 4 2t 0 4h 6 ag 0 1q 3 e5 3 73 1 kh 6 32 6 gzbq 2n 3l 6n"]

def isPlain (c : Char) : Bool :=
  if c.toNat < 128 then 32 ≤ c.toNat && c.toNat < 127
  else !invisibleTable.contains c.toNat && !extendingTable.contains c.toNat

/-- The digits of a code point, in lower-case hexadecimal and without leading zeros. -/
def hexDigits (n : Nat) : List Char := Nat.toDigits 16 n

def quotedChar (c : Char) : List Char :=
  match c with
  | '\x00' => ['\\', '0']
  | '\t' => ['\\', 't']
  | '\r' => ['\\', 'r']
  | '\n' => ['\\', 'n']
  | '\\' => ['\\', '\\']
  | '"' => ['\\', '"']
  | c => if isPlain c then [c] else ['\\', 'u', '\x7b'] ++ hexDigits c.toNat ++ ['\x7d']

def quotedChars (s : List Char) : List Char := '"' :: s.flatMap quotedChar ++ ['"']

def quoted (s : String) : String := String.ofList (quotedChars s.toList)

end RuleBench.Text

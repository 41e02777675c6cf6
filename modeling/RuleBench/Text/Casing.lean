import RuleBench.Text.CodeSet

set_option autoImplicit false

/-!
# Upper and lower case

The full case mappings of Unicode that depend on no language.  A character may become several; a
capital sigma that ends a word becomes the final form of the small one.
-/

namespace RuleBench.Text

/-- A run of letters whose other case lies at one distance: `start`, then every `step`-th code
point, `count` of them. -/
structure CaseRun where
  start : Nat
  count : Nat
  step : Nat
  shift : Int

namespace CaseRun

def maps (r : CaseRun) (n : Nat) : Bool :=
  r.start ≤ n && n < r.start + r.count * r.step && (n - r.start) % r.step == 0

/-- Reads runs of four numbers each; starts are written as gaps. -/
def collect (start : Nat) : List Int → List CaseRun
  | gap :: count :: step :: shift :: more =>
    ⟨start + gap.toNat, count.toNat, step.toNat, shift⟩ :: collect (start + gap.toNat) more
  | _ => []

def ofCode (code : List String) : List CaseRun := collect 0 (packedNumbers code)

end CaseRun

/-- Letters outside ASCII with a single upper-case letter. -/
def upperRuns : List CaseRun := CaseRun.ofCode
  ["51 1 1 kn 17 n 1 -w o 7 1 -w 7 1 1 3d 2 o 2 -1 1c 1 1 -6g 2 3 2 -1 7 8 2 -1 h n 2 -1 1b 3 2",
   "-1 5 1 1 -8c 1 1 1 5f 3 2 2 -1 5 1 1 -1 4 1 1 -1 6 1 1 -1 3 1 1 2p 4 1 1 -1 1 1 1 4j 1 1 1",
   "wu9 3 1 1 3m 3 3 2 -1 7 1 1 -1 5 1 1 -1 3 1 1 -1 4 2 2 -1 5 1 1 -1 4 1 1 -1 2 1 1 1k 6 1 1",
   "-1 1 1 1 -2 2 1 1 -1 1 1 1 -2 2 1 1 -1 1 1 1 -2 2 8 2 -1 f 1 1 -27 2 9 2 -1 j 1 1 -1 1 1 1",
   "-2 2 1 1 -1 4 k 2 -1 16 9 2 -1 p 1 1 -1 3 2 1 8cf 3 1 1 -1 5 5 2 -1 9 1 1 8bj 1 1 1 8bg 1 1",
   "1 8bi 1 1 1 -5u 1 1 1 -5q 2 2 1 -5p 3 1 1 -5m 2 1 1 -5n 1 1 1 wnj 4 1 1 -5p 1 1 1 wnf 2 1 1",
   "-5r 1 1 1 wo7 1 1 1 wmg 1 1 1 wn8 2 1 1 -5t 1 1 1 -5v 1 1 1 wn8 1 1 1 8af 1 1 1 wn5 3 1 1",
   "-5v 2 1 1 8al 1 1 1 -5x 3 1 1 -5y 8 1 1 89z 3 1 1 -62 2 1 1 wn7 1 1 1 -62 4 1 1 wmi 1 1 1",
   "-62 1 1 1 -1x 1 2 1 -61 2 1 1 -1z 6 1 1 -63 b 1 1 wlx 1 1 1 wlu 4n 1 1 2c 18 2 2 -1 6 1 1 -1",
   "4 3 1 3m 1d 1 1 -12 1 3 1 -11 4 h 1 -w h 1 1 -v 1 9 1 -w 9 1 1 -1s 1 2 1 -1r 3 1 1 -1q 1 1 1",
   "-1l 4 1 1 -1b 1 1 1 -1i 1 1 1 -8 2 c 2 -1 n 1 1 -2e 1 1 1 -28 1 1 1 7 1 1 1 -38 2 1 1 -2o 3",
   "1 1 -1 3 1 1 -1 1h w 1 -w w g 1 -28 h h 2 -1 16 r 2 -1 1j 7 2 -1 d 1 1 -f 2 1c 2 -1 40 12 1",
   "-1c 29b 17 1 2bk 19 3 1 2bk l7 6 1 -8 1oo 1 1 -4tq 1 1 1 -4tp 1 1 1 -4tg 1 2 1 -4te 2 1 1",
   "-4tf 1 1 1 -4t8 1 1 1 -4rp 1 1 1 r7m 2 1 1 -1 6n 1 1 r9g 4 1 1 2xy h 1 1 raw 37 23 2 -1 4a 1",
   "1 -1n 6 1c 2 -1 2n 8 1 8 g 6 1 8 g 8 1 8 g 8 1 8 g 6 1 8 h 4 2 8 f 8 1 8 g 2 1 22 2 4 1 2e 4",
   "2 1 2s 2 2 1 3k 2 2 1 34 2 2 1 3i 1g 2 1 8 e 1 1 -5k5 i 2 1 8 g 2 1 8 5 1 1 7 a1 1 1 -s y g",
   "1 -g k 1 1 -1 ng q 1 -q 1gg 1c 1 -1c 1d 1 1 -1 4 1 1 -8bv 1 1 1 -8bs 2 3 2 -1 b 1 1 -1 3 1 1",
   "-1 b 1e 2 -1 2z 2 2 -1 7 1 1 -1 d 12 1 -5ls 13 1 1 -5ls 6 1 1 -5ls nx0 n 2 -1 1s e 2 -1 4i 7",
   "2 -1 g v 2 -1 1z 2 2 -1 5 5 2 -1 d 1 1 -1 5 2 2 -1 3 1 1 1c 3 a 2 -1 u 8 2 -1 j 2 2 -1 5 1 1",
   "-1 4 1 1 -1 6 3 2 -1 v 1 1 -1 nx 1 1 -ps t 28 1 -tzk gk1 q 1 -w yv 14 1 -14 4w 10 1 -14 5b b",
   "1 -13 c f 1 -13 g 7 1 -13 8 2 1 -13 1dx 1f 1 -1s 4w m 1 -w 28g w 1 -w gww w 1 -w o8y y 1 -y"]

/-- Letters outside ASCII with a single lower-case letter. -/
def lowerRuns : List CaseRun := CaseRun.ofCode
  ["5c n 1 w o 7 1 w 14 o 2 1 1e 3 2 1 7 8 2 1 h n 2 1 1a 1 1 -3d 1 3 2 1 8 1 1 5u 1 2 2 1 4 1 1",
   "5q 1 1 1 1 2 2 1 5p 2 1 1 1 3 1 1 27 1 1 1 5m 1 1 1 5n 1 1 1 1 2 1 1 5p 1 1 1 5r 2 1 1 5v 1",
   "1 1 5t 1 1 1 1 4 1 1 5v 1 1 1 5x 2 1 1 5y 1 3 2 1 6 1 1 62 1 1 1 1 2 1 1 62 3 1 1 1 2 1 1 62",
   "1 1 1 1 2 2 1 61 2 2 2 1 4 1 1 63 1 1 1 1 4 1 1 1 8 1 1 2 1 1 1 1 2 1 1 2 1 1 1 1 2 1 1 2 1",
   "9 2 1 j 9 2 1 j 1 1 2 1 2 2 1 4 1 1 -2p 1 1 1 -1k 1 k 2 1 14 1 1 -3m 2 9 2 1 o 1 1 8bv 1 1 1",
   "1 2 1 1 -4j 1 1 1 8bs 3 1 1 1 2 1 1 -5f 1 1 1 1x 1 1 1 1z 1 5 2 1 8a 2 2 1 6 1 1 1 9 1 1 38",
   "7 1 1 12 2 3 1 11 4 1 1 1s 2 2 1 1r 3 h 1 w i 9 1 w 18 1 1 8 9 c 2 1 s 1 1 -1o 3 1 1 1 2 1 1",
   "-7 1 1 1 1 3 3 1 -3m 3 g 1 28 g w 1 w 28 h 2 1 16 r 2 1 1i 1 1 f 1 7 2 1 f 1c 2 1 2p 12 1 1c",
   "29b 12 1 5ls 13 1 1 5ls 6 1 1 5ls k3 28 1 tzk 28 6 1 8 1p5 1 1 1 7 17 1 -2bk 19 3 1 -2bk 8z",
   "23 2 1 4e 1 1 -5vj 2 1c 2 1 2w 8 1 -8 g 6 1 -8 g 8 1 -8 g 8 1 -8 g 6 1 -8 h 4 2 -8 f 8 1 -8",
   "w 8 1 -8 g 8 1 -8 g 8 1 -8 g 2 1 -8 2 2 1 -22 2 1 1 -9 c 4 1 -2e 4 1 1 -9 c 2 1 -8 2 2 1 -2s",
   "e 2 1 -8 2 2 1 -34 2 1 1 -7 c 2 1 -3k 2 2 1 -3i 2 1 1 -9 8a 1 1 -5st 4 1 1 -6gv 1 1 1 -6di 7",
   "1 1 s 1a g 1 g z 1 1 1 mr q 1 q 1fu 1c 1 1c 2o 1 1 1 2 1 1 -8af 1 1 1 -2xy 1 1 1 -89z 3 3 2",
   "1 6 1 1 -8bg 1 1 1 -8al 1 1 1 -8bj 1 1 1 -8bi 2 1 1 1 3 1 1 1 9 2 1 -8cf 2 1e 2 1 2z 2 2 1 7",
   "1 1 1 nym n 2 1 1s e 2 1 4i 7 2 1 g v 2 1 1z 2 2 1 4 1 1 -r9g 1 5 2 1 d 1 1 1 2 1 1 -wmg 3 2",
   "2 1 6 a 2 1 k 1 1 -wn8 1 1 1 -wnj 1 1 1 -wnf 1 1 1 -wn5 1 1 1 -wn8 2 1 1 -wlu 1 1 1 -wmi 1 1",
   "1 -wlx 1 1 1 ps 1 8 2 1 g 1 1 -1c 1 1 1 -wn7 1 1 1 -raw 1 2 2 1 4 1 1 -wo7 1 1 1 1 4 1 1 1 6",
   "3 2 1 6 1 1 -wu9 p 1 1 1 h7w q 1 w yn 14 1 14 4w 10 1 14 5c b 1 13 c f 1 13 g 7 1 13 8 2 1",
   "13 1d8 1f 1 1s 5s m 1 w 28g w 1 w gww w 1 w o8w y 1 y"]

/-- Characters whose upper-case form has several. -/
def upperExpansions : List (Nat × List Nat) :=
  [(0xDF, [0x53, 0x53]), (0x149, [0x2BC, 0x4E]), (0x1F0, [0x4A, 0x30C]), (0x390, [0x399, 0x308, 0x301]),
   (0x3B0, [0x3A5, 0x308, 0x301]), (0x587, [0x535, 0x552]), (0x1E96, [0x48, 0x331]),
   (0x1E97, [0x54, 0x308]), (0x1E98, [0x57, 0x30A]), (0x1E99, [0x59, 0x30A]),
   (0x1E9A, [0x41, 0x2BE]), (0x1F50, [0x3A5, 0x313]), (0x1F52, [0x3A5, 0x313, 0x300]),
   (0x1F54, [0x3A5, 0x313, 0x301]), (0x1F56, [0x3A5, 0x313, 0x342]), (0x1F80, [0x1F08, 0x399]),
   (0x1F81, [0x1F09, 0x399]), (0x1F82, [0x1F0A, 0x399]), (0x1F83, [0x1F0B, 0x399]),
   (0x1F84, [0x1F0C, 0x399]), (0x1F85, [0x1F0D, 0x399]), (0x1F86, [0x1F0E, 0x399]),
   (0x1F87, [0x1F0F, 0x399]), (0x1F88, [0x1F08, 0x399]), (0x1F89, [0x1F09, 0x399]),
   (0x1F8A, [0x1F0A, 0x399]), (0x1F8B, [0x1F0B, 0x399]), (0x1F8C, [0x1F0C, 0x399]),
   (0x1F8D, [0x1F0D, 0x399]), (0x1F8E, [0x1F0E, 0x399]), (0x1F8F, [0x1F0F, 0x399]),
   (0x1F90, [0x1F28, 0x399]), (0x1F91, [0x1F29, 0x399]), (0x1F92, [0x1F2A, 0x399]),
   (0x1F93, [0x1F2B, 0x399]), (0x1F94, [0x1F2C, 0x399]), (0x1F95, [0x1F2D, 0x399]),
   (0x1F96, [0x1F2E, 0x399]), (0x1F97, [0x1F2F, 0x399]), (0x1F98, [0x1F28, 0x399]),
   (0x1F99, [0x1F29, 0x399]), (0x1F9A, [0x1F2A, 0x399]), (0x1F9B, [0x1F2B, 0x399]),
   (0x1F9C, [0x1F2C, 0x399]), (0x1F9D, [0x1F2D, 0x399]), (0x1F9E, [0x1F2E, 0x399]),
   (0x1F9F, [0x1F2F, 0x399]), (0x1FA0, [0x1F68, 0x399]), (0x1FA1, [0x1F69, 0x399]),
   (0x1FA2, [0x1F6A, 0x399]), (0x1FA3, [0x1F6B, 0x399]), (0x1FA4, [0x1F6C, 0x399]),
   (0x1FA5, [0x1F6D, 0x399]), (0x1FA6, [0x1F6E, 0x399]), (0x1FA7, [0x1F6F, 0x399]),
   (0x1FA8, [0x1F68, 0x399]), (0x1FA9, [0x1F69, 0x399]), (0x1FAA, [0x1F6A, 0x399]),
   (0x1FAB, [0x1F6B, 0x399]), (0x1FAC, [0x1F6C, 0x399]), (0x1FAD, [0x1F6D, 0x399]),
   (0x1FAE, [0x1F6E, 0x399]), (0x1FAF, [0x1F6F, 0x399]), (0x1FB2, [0x1FBA, 0x399]),
   (0x1FB3, [0x391, 0x399]), (0x1FB4, [0x386, 0x399]), (0x1FB6, [0x391, 0x342]),
   (0x1FB7, [0x391, 0x342, 0x399]), (0x1FBC, [0x391, 0x399]), (0x1FC2, [0x1FCA, 0x399]),
   (0x1FC3, [0x397, 0x399]), (0x1FC4, [0x389, 0x399]), (0x1FC6, [0x397, 0x342]),
   (0x1FC7, [0x397, 0x342, 0x399]), (0x1FCC, [0x397, 0x399]), (0x1FD2, [0x399, 0x308, 0x300]),
   (0x1FD3, [0x399, 0x308, 0x301]), (0x1FD6, [0x399, 0x342]), (0x1FD7, [0x399, 0x308, 0x342]),
   (0x1FE2, [0x3A5, 0x308, 0x300]), (0x1FE3, [0x3A5, 0x308, 0x301]), (0x1FE4, [0x3A1, 0x313]),
   (0x1FE6, [0x3A5, 0x342]), (0x1FE7, [0x3A5, 0x308, 0x342]), (0x1FF2, [0x1FFA, 0x399]),
   (0x1FF3, [0x3A9, 0x399]), (0x1FF4, [0x38F, 0x399]), (0x1FF6, [0x3A9, 0x342]),
   (0x1FF7, [0x3A9, 0x342, 0x399]), (0x1FFC, [0x3A9, 0x399]), (0xFB00, [0x46, 0x46]),
   (0xFB01, [0x46, 0x49]), (0xFB02, [0x46, 0x4C]), (0xFB03, [0x46, 0x46, 0x49]),
   (0xFB04, [0x46, 0x46, 0x4C]), (0xFB05, [0x53, 0x54]), (0xFB06, [0x53, 0x54]),
   (0xFB13, [0x544, 0x546]), (0xFB14, [0x544, 0x535]), (0xFB15, [0x544, 0x53B]),
   (0xFB16, [0x54E, 0x546]), (0xFB17, [0x544, 0x53D])]

/-- Characters whose lower-case form has several. -/
def lowerExpansions : List (Nat × List Nat) :=
  [(0x130, [0x69, 0x307])]

/-- Characters that have case: `Cased`. -/
def casedTable : CodeSet := CodeSet.ofCode
  ["1t p 7 p 1c 0 b 0 5 0 6 m 2 u 2 5e 2 3 5 5r 3 y 8 1 v 4 2p 0 17 3 3 1 3 3 2 0 7 0 2 2 2 0 2",
   "j 2 2a 2 3u 9 4l 2 11 a 14 26w 11 2 0 6 0 3 16 2 3 ip 2d 3 5 1oj a 6 16 3 2 1t 5b 1t 7p 3 5",
   "3 11 3 5 3 7 2 0 2 0 2 0 2 u 3 1g 2 6 2 0 4 2 2 6 4 3 3 5 5 c 6 2 2 6 39 0 e 0 h c 2u 0 5 0",
   "3 9 2 0 4 4 7 0 2 0 2 0 2 3 2 5 5 0 3 3 6 4 5 0 i v 4 1 mq 1f 1ef 6c 7 3 4 1 d 11 2 0 6 0",
   "nwz 19 j t 3p 2t 4 3 2 1p 3 1 2 0 2 7 m 4 2 2 mu 16 2 d 7 27 fnl 6 d 4 sq p 7 p x2 27 2p z 5",
   "z 39 a 2 e 2 6 2 1 2 a 2 e 2 6 2 1 ck 0 3 2 2 15 2 8 xy 1e e 1e 2m l b l 26z 1r gv5 1r k1t",
   "2c 2 1y 2 1 3 0 3 1 3 3 2 b 2 0 2 6 2 1s 2 3 3 7 2 6 2 r 2 3 2 4 2 0 4 6 2 9f 3 o 2 o 2 u 2",
   "o 2 u 2 o 2 u 2 o 2 u 2 o 2 7 1f9 9 2 j 7 5 7a 1p 1oz 1v 1kd p 7 p 7 p"]

/-- Characters that are skipped when looking for the end of a word: `Case_Ignorable`. -/
def caseIgnorableTable : CodeSet := CodeSet.ofCode
  ["13 0 7 0 c 0 10 0 2 0 20 0 5 0 2 0 5 0 3 1 e0 5b 5 1 5 0 a 1 2 0 70 6 5s 0 6 0 1e 18 2 0 2 1",
   "2 1 2 0 19 0 c 5 b a 2 0 10 0 b k h 0 2u 7 2 9 2 3 y 0 2 0 v q 2k a 1n a 5 0 3 0 p n 18 2 19",
   "0 8 1 6 8 16 1l 1k 0 2 0 5 7 5 0 4 6 b 1 e 0 g 0 1n 0 5 3 9 0 l 1 r 0 3 1 1m 0 5 1 5 1 3 2 4",
   "0 v 1 4 0 c 1 1m 0 5 4 2 1 5 0 l 1 n 5 2 0 1n 0 3 0 2 3 9 0 8 1 c 1 v 0 1q 0 d 0 1f 0 4 0 1k",
   "0 2 2 6 2 2 3 8 1 c 1 u 0 1n 0 3 0 7 0 6 1 l 1 t 1 1m 1 5 3 9 0 l 1 u 0 21 0 8 2 2 0 2j 0 3",
   "6 c 8 2r 0 3 8 a 0 2 6 22 1 s 0 2 0 2 0 1k d 2 4 2 1 6 a 2 z a 0 2v 3 2 5 2 1 3 1 q 1 5 2 h",
   "3 e 0 3 1 7 0 g 0 2n 0 gx 2 qb 2 u 1 v 1 v 1 1t 1 2 6 9 0 3 a 4 0 6 0 1a 4 1g 0 1u 1 z 0 3b",
   "2 5 1 a 0 7 2 64 1 3 0 1n 0 2 6 2 0 2 0 3 7 7 9 3 0 14 0 9 u 1e 3 1d 0 2 4 2 0 6 0 15 8 d 1",
   "x 3 3 1 2 2 1l 0 2 1 4 0 2 2 1n 7 3 1 1t 5 2b 2 2 c 2 6 5 0 7 0 4 1 1f 1q e 0 z 2s ce 0 2 2",
   "c 2 e 2 e 2 e 1 d 4 9 1 b 0 3 0 3 4 1e 4 2 9 2 0 e 0 h c 1g w 2a4 1 36 2 3i 0 g 0 2p v 1c 0",
   "d2 0 11 3 4 4 6 0 2m 5 2m 2 lxz 0 yr 5 7j 0 2r 3 2 9 2 0 t 3 29 1 f x 27 0 o 2 2w 2 4 1 9 0",
   "4 0 5 0 q 1 6 0 48 1 r h e 0 13 7 q a 1b 2 1d 0 3 3 3 1 i 0 m 1 1v 5 3 1 3 1 d 0 9 0 10 0 c",
   "0 1g 0 2 2 3 1 6 1 2 0 s 0 f 1 6 1 2 0 2t 4 a 2 3e 0 3 0 5 0 fn5 0 44 g fy f 4 0 d f z 0 3 0",
   "4q 0 8 0 7 0 c 0 10 0 2 0 1c 0 1a 1 1w 0 m 2 ea 0 6b 0 46 4 sm 5 2 15 2 8 g7 2 2 1 6 3 15 2",
   "5 0 4m 1 fy 3 13 0 r 4 2 0 8s 1 28 3 1z a 1e 3 3g 0 1j e 16 0 3 1 b 2 1e 3 3 1 3 0 5 0 b 0",
   "1f 2 11 4 2 7 1r 0 d 1 1h 8 b 3 3 0 2o 2 3 0 2 1 7 0 3 0 4e 0 4 7 m 1 1m 1 4 0 12 6 4 4 1z 5",
   "e 0 2 0 2 0 f 1 2e 7 3 2 2 0 o 0 2d 5 2 0 5 1 2 1 6n 3 7 1 2 1 s 1 2e 7 3 0 2 1 2z 0 2 0 3 5",
   "2 0 2u 0 2 0 3 3 2 4 78 8 2 1 75 1 2 0 5 0 41 3 3 1 5 0 x 9 15 5 3 3 9 0 a 5 3 2 1b c 2 1 bb",
   "6 2 5 2 0 2b l 3 6 2 1 2 1 3f 5 4 0 2 1 2 6 2 0 21 1 4 0 2 0 9o 1 c 1 1h 4 6 0 2 0 o 0 446 g",
   "7 e 8uh b 4 2 1xd 4 1o 6 a 3 e5 2 15 1 df 0 1s g 1t 1 2 1 cng 3 2 6 2 1 2hr 1 2 3 3ml 19 3 m",
   "f5 2 a f 3 6 v 3 45 2 1j0 1i 5 1d 9 0 f 0 n 4 2 e 11t 6 2 g 3 6 2 1 2 4 6 1p y 0 4h d a9 0",
   "1q 3 e4 4 73 1 kh 6 32 7 240 4 gx6q 0 v 2n 3l 6n"]

def shifted (runs : List CaseRun) (expansions : List (Nat × List Nat)) (c : Char) : List Char :=
  match expansions.find? (fun e => e.1 == c.toNat) with
  | some e => e.2.map Char.ofNat
  | none =>
    match runs.find? (fun r => r.maps c.toNat) with
    | some r => [Char.ofNat (c.toNat + r.shift).toNat]
    | none => [c]

def upperChar (c : Char) : List Char :=
  if c.toNat < 128 then [c.toUpper] else shifted upperRuns upperExpansions c

def lowerChar (c : Char) : List Char :=
  if c.toNat < 128 then [c.toLower] else shifted lowerRuns lowerExpansions c

/-- Whether the first character that is not ignorable has case. -/
def meetsCased (s : List Char) : Bool :=
  match s.dropWhile (fun c => caseIgnorableTable.contains c.toNat) with
  | c :: _ => casedTable.contains c.toNat
  | [] => false

def upper (s : List Char) : List Char := s.flatMap upperChar

/-- `before` holds what has been passed, nearest first. -/
def lowerFrom (before : List Char) : List Char → List Char
  | [] => []
  | c :: rest =>
    (if c = 'Σ' then [if meetsCased before && !meetsCased rest then 'ς' else 'σ'] else lowerChar c)
      ++ lowerFrom (c :: before) rest

def lower (s : List Char) : List Char := lowerFrom [] s

/-- Equality of ASCII letters without regard to case; other characters are compared as they are. -/
def sameLetter (a b : Char) : Bool := a.toLower == b.toLower

/-- `sameLetter` at every place. -/
def sameLetters : List Char → List Char → Bool
  | [], [] => true
  | a :: s, b :: t => sameLetter a b && sameLetters s t
  | _, _ => false

end RuleBench.Text

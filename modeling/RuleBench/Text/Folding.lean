import RuleBench.Text.Casing

set_option autoImplicit false

/-!
# Case folding

Which characters differ by case alone, one character for one.
-/

namespace RuleBench.Text

/-- Pairs of characters that differ by case, as runs of pairs at one distance. -/
def foldRuns : List CaseRun := CaseRun.ofCode
  ["1t q 1 w a 1 1 6hr 8 1 1 8c o 1 1 6gv 8 1 1 7g 1u 1 1 kn 0 1 1 lj b n 1 w 5 1 1 6ee j 7 1 w",
   "7 1 1 5vj 6 1 1 6di q 1 1 3d 1 o 2 1 1e 3 2 1 7 8 2 1 h n 2 1 1b 3 2 1 7 1 1 5f 1 1 1 5u 1 2",
   "2 1 4 1 1 5q 1 1 1 1 2 2 1 5p 2 1 1 1 3 1 1 27 1 1 1 5m 1 1 1 5n 1 1 1 1 2 1 1 5p 1 1 1 5r 1",
   "1 1 2p 1 1 1 5v 1 1 1 5t 1 1 1 1 2 1 1 4j 1 1 1 wu9 1 1 1 5v 1 1 1 5x 1 1 1 3m 1 1 1 5y 1 3",
   "2 1 6 1 1 62 1 1 1 1 2 1 1 62 3 1 1 1 2 1 1 62 1 1 1 1 2 2 1 61 2 2 2 1 4 1 1 63 1 1 1 1 4 1",
   "1 1 3 1 1 1k 5 2 1 1 0 1 1 2 3 2 1 1 0 1 1 2 3 2 1 1 0 1 1 2 3 8 2 1 h 9 2 1 j 2 1 1 0 1 1 2",
   "3 1 1 1 4 k 2 1 16 9 2 1 o 1 1 8bv 1 1 1 1 3 1 1 8bs 1 2 1 8cf 2 1 1 1 3 1 1 1x 1 1 1 1z 1 5",
   "2 1 a 1 1 8bj 1 1 1 8bg 1 1 1 8bi a 1 1 wnj 5 1 1 wnf 3 1 1 wo7 1 1 1 wmg 1 1 1 wn8 4 1 1",
   "wn8 1 1 1 8af 1 1 1 wn5 5 1 1 8al c 1 1 89z 5 1 1 wn7 5 1 1 wmi m 1 1 wlx 1 1 1 wlu 4n 1 1",
   "2c 0 1 1 38 0 1 1 5mh 17 2 2 1 6 1 1 1 5 3 1 3m 4 1 1 38 7 1 1 12 2 3 1 11 4 1 1 1s 2 2 1 1r",
   "2 1 1 5kz 1 h 1 w 1 1 1 1q 3 1 1 2o 3 1 1 1l 0 1 1 2k 1 1 1 5k5 1 1 1 2e 6 1 1 1i 1 1 1 28 2",
   "1 1 v 0 9 1 w 3 1 1 1b 3 1 1 5tp 7 1 1 5kj 2 1 1 u 3 1 1 1s 3 1 1 p 0 1 1 1o 1 1 1 5j9 1 1 1",
   "1i 6 1 1 m 1 1 1 1c 1 1 1 1 4 1 1 f 3 1 1 5st 6 1 1 8 2 1 1 z 7 c 2 1 q 1 1 7 5 1 1 1 3 1 1",
   "1 6 g 1 28 g w 1 w 2 1 1 4tq 2 1 1 4tp a 1 1 4tg 3 2 1 4te 1 1 1 4tf 8 1 1 4t8 8 1 1 4su 2 1",
   "1 4st a 1 1 4sk 3 2 1 4si 1 1 1 4sj 8 1 1 4sc m h 2 1 2 1 1 4rp 1 1 1 4ro 13 r 2 1 1i 1 1 f",
   "1 7 2 1 f 1c 2 1 2p 12 1 1c 29b 12 1 5ls 13 1 1 5ls 6 1 1 5ls 3 17 1 2bk 19 3 1 2bk ir 28 1",
   "tzk 28 6 1 8 1p0 1 1 1 4 1 1 r7m 0 1 1 r7n 1 1 1 1 6o 1 1 r9g 4 1 1 2xy h 1 1 raw 36 23 2 1",
   "2o 1 1 1n 1 1 1 1m 1r 1c 2 1 2o 8 1 8 g 6 1 8 g 8 1 8 g 8 1 8 g 6 1 8 h 4 2 8 f 8 1 8 g 2 1",
   "22 2 4 1 2e 4 2 1 2s 2 2 1 3k 2 2 1 34 2 2 1 3i 4 8 1 8 g 8 1 8 g 8 1 8 g 2 1 8 3 1 1 9 g 1",
   "1 9 d 2 1 8 g 2 1 8 5 1 1 7 e 1 1 9 8v 1 1 s 1a g 1 g z 1 1 1 mr q 1 q 1fu 1c 1 1c 2o 1 1 1",
   "7 3 2 1 b 1 1 1 3 1 1 1 b 1e 2 1 2z 2 2 1 7 1 1 1 nym n 2 1 1s e 2 1 4i 7 2 1 g v 2 1 1z 2 2",
   "1 5 5 2 1 d 1 1 1 5 2 2 1 4 1 1 1c 2 a 2 1 t 1 1 ps 1 8 2 1 j 2 2 1 5 1 1 1 4 1 1 1 6 3 2 1",
   "v 1 1 1 geo 1 1 1 t8 q 1 w yn 14 1 14 4w 10 1 14 5c j 2 13 1 5 2 13 c 7 2 13 g 3 2 13 8 1 1",
   "13 1d7 1f 1 1s 5s m 1 w 28g w 1 w gww w 1 w o8w y 1 y"]

/-- The pairs of a run. -/
def CaseRun.pairs (r : CaseRun) : List (Nat × Nat) :=
  (List.range r.count).map fun k =>
    (r.start + k * r.step, (r.start + k * r.step + r.shift).toNat)

def foldPairs : List (Nat × Nat) := foldRuns.flatMap CaseRun.pairs

/-- Adds to a set all characters that differ from one of it by case alone; pairs beyond `last` do
not count. -/
def foldCase (last : Nat) (s : CodeSet) : CodeSet :=
  s ++ foldPairs.flatMap fun p =>
    if last < p.1 || last < p.2 then []
    else
      (if s.contains p.1 then [(p.2, p.2)] else []) ++ (if s.contains p.2 then [(p.1, p.1)] else [])

end RuleBench.Text

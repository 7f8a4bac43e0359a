/-!
# Binary properties

The characters with a binary property, version 16 of the character database.
Each entry gives the names, in small letters and without separators, and the code points as
alternating decimal numbers: the distance from the last code point of the range before, and the
number of further code points in the range. The numbers go on from text to text.
-/

namespace Catalog.Unicode

/-- The binary properties. -/
def properties : List (List String × List String) :=
  [ (["asciihexdigit", "ahex"],
      ["48 9 8 5 27 5"])
  , (["alphabetic", "alpha"],
      ["65 25 7 25 48 0 11 0 5 0 6 22 2 30 2 457 5 11 15 4 8 0 2 0 87 0 30 17 2 1 3 3 2 0 7 0 2",
      "2 2 0 2 19 2 82 2 138 9 165 2 37 3 0 7 40 40 13 2 0 2 1 2 1 2 0 9 26 5 3 30 10 6 55 2 6",
      "15 101 2 7 5 7 5 2 11 2 3 0 17 47 14 100 25 32 10 1 5 0 6 23 3 18 20 24 8 10 6 23 2 5 9",
      "0 9 41 11 11 4 6 7 75 2 15 2 2 5 14 14 18 2 7 3 1 3 21 2 6 2 0 4 3 4 7 3 1 3 1 2 0 9 0",
      "5 1 2 4 13 1 11 0 5 2 2 5 5 1 3 21 2 6 2 1 2 1 2 1 5 4 5 1 3 1 5 0 8 3 2 0 18 5 12 2 2",
      "8 2 2 2 21 2 6 2 1 2 4 4 8 2 2 2 1 4 0 16 3 22 3 5 2 2 7 3 1 3 21 2 6 2 1 2 4 4 7 3 1 3",
      "1 10 1 5 1 2 4 14 0 17 1 2 5 4 2 2 3 4 1 2 0 2 1 4 1 4 2 4 11 5 4 4 2 2 2 4 0 7 0 41 12",
      "2 2 2 22 2 15 4 7 2 2 2 2 9 1 2 2 3 0 3 3 29 3 2 7 2 2 2 22 2 9 2 4 4 7 2 2 2 2 9 1 7 1",
      "2 3 14 2 13 12 2 2 2 40 3 7 2 2 2 2 2 0 6 3 8 4 23 5 2 2 2 17 4 23 2 8 2 0 3 6 9 5 2 0",
      "2 7 19 1 14 57 6 6 7 0 52 1 2 0 2 4 2 23 2 0 2 18 2 2 3 4 2 0 7 0 15 3 33 0 64 7 2 35 5",
      "18 5 15 2 35 68 54 2 0 3 4 17 63 11 3 3 37 2 0 6 0 3 42 2 332 2 3 3 6 2 0 2 3 3 40 2 3",
      "3 32 2 3 3 6 2 0 2 3 3 14 2 56 2 3 3 66 38 15 17 85 3 5 4 619 3 16 2 25 6 74 4 10 8 19",
      "12 20 13 19 13 12 2 2 2 1 13 51 3 18 15 0 5 0 68 88 8 42 6 69 11 30 2 11 5 8 24 29 3 4",
      "12 43 5 25 55 27 5 62 3 19 51 0 24 1 12 2 50 51 2 14 2 7 52 41 3 3 11 43 2 10 15 54 23",
      "2 11 35 3 10 6 42 3 2 42 3 2 5 2 1 4 0 6 191 20 33 12 277 3 5 3 37 3 5 3 7 2 0 2 0 2 0",
      "2 30 3 52 2 6 2 0 4 2 2 6 4 3 3 5 5 12 6 2 2 6 117 0 14 0 17 12 102 0 5 0 3 9 2 0 4 4 7",
      "0 2 0 2 0 2 3 2 10 3 3 6 4 5 0 18 40 814 51 1815 228 7 3 4 1 13 37 2 0 6 0 3 55 8 0 17",
      "22 10 6 2 6 2 6 2 6 2 6 2 6 2 6 2 6 2 31 48 0 470 2 26 8 8 4 3 4 5 85 7 2 2 89 2 3 6 42",
      "2 93 18 31 49 15 513 6591 65 22156 68 45 3 268 4 15 11 1 21 46 6 7 4 112 40 8 3 102 3",
      "66 3 1 2 0 2 7 22 19 2 32 25 51 13 67 2 0 45 5 4 0 2 2 11 32 6 34 14 28 4 50 2 11 16 0",
      "17 15 11 4 2 54 10 13 19 22 4 68 2 0 2 0 25 2 3 15 3 3 12 5 3 5 3 5 10 6 2 6 2 42 2 13",
      "7 122 22 11171 13 22 5 48 8453 365 3 105 39 6 13 4 6 11 2 12 2 4 2 0 2 1 2 1 2 107 34",
      "362 19 63 3 53 41 11 117 4 2 134 37 25 7 25 12 88 4 5 3 5 3 5 3 2 36 11 2 25 2 18 2 1 2",
      "14 3 13 35 122 70 52 268 28 4 48 48 31 14 29 6 42 6 29 3 35 5 7 2 4 43 157 19 35 5 35 5",
      "39 9 51 13 10 2 14 2 6 2 1 2 10 2 14 2 6 2 1 4 51 13 310 10 21 11 7 25 5 2 41 2 8 70 5",
      "3 0 2 43 2 1 4 0 3 22 11 22 10 30 66 18 2 1 11 21 11 25 71 55 7 1 65 3 2 1 6 7 2 2 2 28",
      "43 28 4 28 36 7 2 27 28 53 11 21 11 18 14 17 111 72 56 50 14 50 14 39 35 27 4 0 6 22",
      "251 41 2 1 4 1 17 2 56 0 4 28 11 0 9 21 43 17 47 20 28 22 10 69 44 4 11 56 10 0 14 24",
      "24 50 18 3 9 34 4 0 10 63 2 3 10 1 11 0 2 0 36 17 2 33 3 0 7 3 63 6 2 0 2 3 2 14 2 9 8",
      "56 24 3 2 7 3 1 3 21 2 6 2 1 2 4 4 7 3 1 3 1 4 0 7 0 6 6 29 9 2 0 3 0 2 37 2 9 2 0 3 0",
      "2 3 2 1 4 0 2 0 45 65 2 2 2 3 21 2 31 65 3 1 2 0 185 53 3 6 26 5 35 62 2 0 4 0 60 53 3",
      "0 72 26 3 13 22 6 186 56 104 63 32 7 3 0 3 7 2 1 2 29 2 1 3 1 3 3 94 7 3 45 3 5 2 0 2 1",
      "28 50 3 9 18 71 6 0 19 72 200 32 32 8 2 44 2 6 2 0 50 29 3 21 2 13 74 6 2 1 2 43 4 0 2",
      "1 2 2 2 0 3 1 25 5 2 1 2 36 2 1 2 3 2 0 328 22 10 16 2 40 4 2 112 0 80 921 103 110 18",
      "195 2637 96 16 1071 18 5 26 3994 6 582 6842 46 1746 568 8 30 18 78 18 29 19 47 17 3 32",
      "20 6 18 433 44 212 63 129 74 5 56 8 16 65 1 2 0 13 1 15 6135 9 1237 42 9 8936 3 2 6 2 1",
      "2 290 16 0 30 2 3 0 15 3 9 395 2309 106 6 12 4 8 8 9 5 0 5986 84 2 70 2 1 3 0 3 1 3 3 2",
      "11 2 0 2 6 2 64 2 3 3 7 2 6 2 27 2 3 2 4 2 0 4 6 2 339 3 24 2 24 2 30 2 24 2 30 2 24 2",
      "30 2 24 2 30 2 24 2 7 1845 30 7 5 214 6 2 16 3 6 2 1 2 4 6 61 34 0 113 44 11 6 17 0 322",
      "29 19 43 485 27 229 29 3 0 496 6 2 3 2 1 2 14 2 196 60 67 4 0 4 0 1205 3 2 26 2 1 2 0 3",
      "0 2 9 2 3 2 0 2 0 7 0 5 0 2 0 2 0 2 2 2 1 2 0 3 0 2 0 2 0 2 0 2 0 2 1 2 0 3 3 2 6 2 3 2",
      "3 2 0 2 9 2 16 6 2 2 4 2 16 629 25 7 25 7 25 3703 42719 33 4153 7 221 3 5761 15 7472 16",
      "621 2467 541 1507 4938 6 4191"])
  , (["bidicontrol", "bidic"],
      ["1564 0 6642 1 27 4 56 3"])
  , (["bidimirrored", "bidim"],
      ["40 1 19 0 2 0 29 0 2 0 30 0 2 0 46 0 16 0 3711 3 1886 1 2461 1 11 1 55 1 15 1 178 0 193",
      "3 4 5 4 0 4 1 4 3 2 3 2 0 2 0 5 8 6 0 2 17 6 3 10 1 2 0 2 7 2 31 3 3 6 0 10 1 3 18 6 1",
      "10 4 3 1 5 23 3 15 9 3 21 1 8 1 1086 13 75 0 3 3 2 1 2 2 6 3 6 2 4 13 404 21 3 5 2 13 9",
      "0 8 5 4 0 5 4 2 1 3 4 5 0 2 2 3 1 11 5 3 1 13 18 2 3 3 0 2 0 3 0 2 3 6 1 7 2 25 1 12 1",
      "5 3 2 1 3 1 5 42 3 7 2 39 6 0 2 0 4 4 6 2 5 0 4 4 2 0 257 0 516 3 4 1 2 1 15 1 3 9 44 7",
      "428 9 3 7 52798 5 6 1 163 1 19 0 2 0 29 0 2 0 30 0 2 0 2 1 2 1 55160 0 58 0 58 0 58 0",
      "58 0"])
  , (["caseignorable", "ci"],
      ["39 0 7 0 12 0 36 0 2 0 72 0 5 0 2 0 5 0 3 1 504 191 5 1 5 0 10 1 2 0 252 6 208 0 6 0 50",
      "44 2 0 2 1 2 1 2 0 45 0 12 5 11 10 2 0 36 0 11 20 17 0 102 7 2 9 2 3 34 0 2 0 31 26 92",
      "10 59 10 5 0 3 0 25 23 44 2 45 0 8 1 6 8 42 57 56 0 2 0 5 7 5 0 4 6 11 1 14 0 16 0 59 0",
      "5 3 9 0 21 1 27 0 3 1 58 0 5 1 5 1 3 2 4 0 31 1 4 0 12 1 58 0 5 4 2 1 5 0 21 1 23 5 2 0",
      "59 0 3 0 2 3 9 0 8 1 12 1 31 0 62 0 13 0 51 0 4 0 56 0 2 2 6 2 2 3 8 1 12 1 30 0 59 0 3",
      "0 7 0 6 1 21 1 29 1 58 1 5 3 9 0 21 1 30 0 73 0 8 2 2 0 91 0 3 6 12 8 99 0 3 8 10 0 2 6",
      "74 1 28 0 2 0 2 0 56 13 2 4 2 1 6 10 2 35 10 0 103 3 2 5 2 1 3 1 26 1 5 2 17 3 14 0 3 1",
      "7 0 16 0 95 0 609 2 947 2 30 1 31 1 31 1 65 1 2 6 9 0 3 10 4 0 6 0 46 4 52 0 66 1 35 0",
      "119 2 5 1 10 0 7 2 220 1 3 0 59 0 2 6 2 0 2 0 3 7 7 9 3 0 40 0 9 30 50 3 49 0 2 4 2 0 6",
      "0 41 8 13 1 33 3 3 1 2 2 57 0 2 1 4 0 2 2 59 7 3 1 65 5 83 2 2 12 2 6 5 0 7 0 4 1 51 62",
      "14 0 35 100 446 0 2 2 12 2 14 2 14 2 14 1 13 4 9 1 11 0 3 0 3 4 50 4 2 9 2 0 14 0 17 12",
      "52 32 2956 1 114 2 126 0 16 0 97 31 48 0 470 0 37 3 4 4 6 0 94 5 94 2 28439 0 1251 5",
      "271 0 99 3 2 9 2 0 29 3 81 1 15 33 79 0 24 2 104 2 4 1 9 0 4 0 5 0 26 1 6 0 152 1 27 17",
      "14 0 39 7 26 10 47 2 49 0 3 3 3 1 18 0 22 1 67 5 3 1 3 1 13 0 9 0 36 0 12 0 52 0 2 2 3",
      "1 6 1 2 0 28 0 15 1 6 1 2 0 101 4 10 2 122 0 3 0 5 0 20273 0 148 16 574 15 4 0 13 15 35",
      "0 3 0 170 0 8 0 7 0 12 0 36 0 2 0 48 0 46 1 68 0 22 2 514 0 227 0 150 4 1030 5 2 41 2 8",
      "583 2 2 1 6 3 41 2 5 0 166 1 574 3 39 0 27 4 2 0 316 1 80 3 71 10 50 3 124 0 55 14 42 0",
      "3 1 11 2 50 3 3 1 3 0 5 0 11 0 51 2 37 4 2 7 63 0 13 1 53 8 11 3 3 0 96 2 3 0 2 1 7 0 3",
      "0 158 0 4 7 22 1 58 1 4 0 38 6 4 4 71 5 14 0 2 0 2 0 15 1 86 7 3 2 2 0 24 0 85 5 2 0 5",
      "1 2 1 239 3 7 1 2 1 28 1 86 7 3 0 2 1 107 0 2 0 3 5 2 0 102 0 2 0 3 3 2 4 260 8 2 1 257",
      "1 2 0 5 0 145 3 3 1 5 0 33 9 41 5 3 3 9 0 10 5 3 2 47 12 2 1 407 6 2 5 2 0 83 21 3 6 2",
      "1 2 1 123 5 4 0 2 1 2 6 2 0 73 1 4 0 2 0 348 1 12 1 53 4 6 0 2 0 24 0 5334 16 7 14",
      "11465 11 4 2 2497 4 60 6 10 3 509 2 41 1 483 0 64 16 65 1 2 1 16396 3 2 6 2 1 3231 1 2",
      "3 4701 45 3 22 545 2 10 15 3 6 31 3 149 2 1980 54 5 49 9 0 15 0 23 4 2 14 1361 6 2 16 3",
      "6 2 1 2 4 6 61 34 0 161 13 369 0 62 3 508 4 255 1 737 6 110 7 2736 4 789506 0 31 95 129",
      "239"])
  , (["cased"],
      ["65 25 7 25 48 0 11 0 5 0 6 22 2 30 2 194 2 3 5 207 3 34 8 1 31 4 97 0 43 3 3 1 3 3 2 0",
      "7 0 2 2 2 0 2 19 2 82 2 138 9 165 2 37 10 40 2840 37 2 0 6 0 3 42 2 3 673 85 3 5 2179",
      "10 6 42 3 2 65 191 65 277 3 5 3 37 3 5 3 7 2 0 2 0 2 0 2 30 3 52 2 6 2 0 4 2 2 6 4 3 3",
      "5 5 12 6 2 2 6 117 0 14 0 17 12 102 0 5 0 3 9 2 0 4 4 7 0 2 0 2 0 2 3 2 5 5 0 3 3 6 4 5",
      "0 18 31 4 1 818 51 1815 228 7 3 4 1 13 37 2 0 6 0 30995 45 19 29 133 101 4 3 2 61 3 1 2",
      "0 2 7 22 4 2 2 822 42 2 13 7 79 20289 6 13 4 1034 25 7 25 1190 79 97 35 5 35 117 10 2",
      "14 2 6 2 1 2 10 2 14 2 6 2 1 452 0 3 2 2 41 2 8 1222 50 14 50 94 21 11 21 2843 63 21857",
      "63 25985 84 2 70 2 1 3 0 3 1 3 3 2 11 2 0 2 6 2 64 2 3 3 7 2 6 2 27 2 3 2 4 2 0 4 6 2",
      "339 3 24 2 24 2 30 2 24 2 30 2 24 2 30 2 24 2 30 2 24 2 7 1845 9 2 19 7 5 262 61 2195",
      "67 2029 25 7 25 7 25"])
  , (["changeswhencasefolded", "cwcf"],
      ["65 25 91 0 11 22 2 7 33 0 2 0 2 0 2 0 2 0 2 0 2 0 2 0 2 0 2 0 2 0 2 0 2 0 2 0 2 0 2 0 2",
      "0 2 0 2 0 2 0 2 0 2 0 2 0 2 0 2 0 2 0 2 0 2 0 3 0 2 0 2 0 2 0 2 0 2 0 2 0 2 0 2 1 2 0 2",
      "0 2 0 2 0 2 0 2 0 2 0 2 0 2 0 2 0 2 0 2 0 2 0 2 0 2 0 2 0 2 0 2 0 2 0 2 0 2 0 2 0 2 1 2",
      "0 2 0 2 0 2 1 2 0 2 1 2 2 3 3 2 1 2 2 4 1 2 1 2 0 2 0 2 1 2 0 3 0 2 1 2 2 2 0 2 1 4 0 8",
      "1 2 1 2 1 2 0 2 0 2 0 2 0 2 0 2 0 2 0 2 0 3 0 2 0 2 0 2 0 2 0 2 0 2 0 2 0 2 0 3 1 2 0 2",
      "2 2 0 2 0 2 0 2 0 2 0 2 0 2 0 2 0 2 0 2 0 2 0 2 0 2 0 2 0 2 0 2 0 2 0 2 0 2 0 2 0 2 0 2",
      "0 2 0 2 0 2 0 2 0 2 0 2 0 2 0 8 1 2 1 3 0 2 3 2 0 2 0 2 0 2 0 247 0 43 0 2 0 4 0 9 0 7",
      "0 2 2 2 0 2 1 2 16 2 8 23 0 13 2 4 1 2 0 2 0 2 0 2 0 2 0 2 0 2 0 2 0 2 0 2 0 2 0 2 0 2",
      "1 3 1 2 0 2 1 3 50 49 0 2 0 2 0 2 0 2 0 2 0 2 0 2 0 2 0 2 0 2 0 2 0 2 0 2 0 2 0 2 0 2 0",
      "10 0 2 0 2 0 2 0 2 0 2 0 2 0 2 0 2 0 2 0 2 0 2 0 2 0 2 0 2 0 2 0 2 0 2 0 2 0 2 0 2 0 2",
      "0 2 0 2 0 2 0 2 0 2 0 2 1 2 0 2 0 2 0 2 0 2 0 2 0 3 0 2 0 2 0 2 0 2 0 2 0 2 0 2 0 2 0 2",
      "0 2 0 2 0 2 0 2 0 2 0 2 0 2 0 2 0 2 0 2 0 2 0 2 0 2 0 2 0 2 0 2 0 2 0 2 0 2 0 2 0 2 0 2",
      "0 2 0 2 0 2 0 2 0 2 0 2 0 2 0 2 0 2 0 2 0 2 0 2 0 2 0 2 0 2 0 2 0 3 37 49 0 2841 37 2 0",
      "6 0 811 5 2179 9 7 42 3 2 321 0 2 0 2 0 2 0 2 0 2 0 2 0 2 0 2 0 2 0 2 0 2 0 2 0 2 0 2 0",
      "2 0 2 0 2 0 2 0 2 0 2 0 2 0 2 0 2 0 2 0 2 0 2 0 2 0 2 0 2 0 2 0 2 0 2 0 2 0 2 0 2 0 2 0",
      "2 0 2 0 2 0 2 0 2 0 2 0 2 0 2 0 2 0 2 0 2 0 2 0 2 0 2 0 2 0 2 0 2 0 2 0 2 0 2 0 2 0 2 0",
      "2 0 2 0 2 0 2 0 2 0 2 0 2 0 2 0 2 0 2 0 2 0 2 0 2 0 2 0 2 0 2 0 6 1 3 0 2 0 2 0 2 0 2 0",
      "2 0 2 0 2 0 2 0 2 0 2 0 2 0 2 0 2 0 2 0 2 0 2 0 2 0 2 0 2 0 2 0 2 0 2 0 2 0 2 0 2 0 2 0",
      "2 0 2 0 2 0 2 0 2 0 2 0 2 0 2 0 2 0 2 0 2 0 2 0 2 0 2 0 2 0 2 0 2 0 2 0 2 0 2 0 2 0 2 0",
      "10 7 9 5 11 7 9 7 9 5 12 0 2 0 2 0 2 0 9 7 17 47 3 2 3 5 6 2 3 5 12 3 13 4 6 2 3 5 298",
      "0 4 1 7 0 46 15 20 0 819 25 1841 47 49 0 2 2 3 0 2 0 2 0 2 3 2 0 3 0 9 2 2 0 2 0 2 0 2",
      "0 2 0 2 0 2 0 2 0 2 0 2 0 2 0 2 0 2 0 2 0 2 0 2 0 2 0 2 0 2 0 2 0 2 0 2 0 2 0 2 0 2 0 2",
      "0 2 0 2 0 2 0 2 0 2 0 2 0 2 0 2 0 2 0 2 0 2 0 2 0 2 0 2 0 2 0 2 0 2 0 2 0 2 0 2 0 2 0 2",
      "0 2 0 9 0 2 0 5 0 31054 0 2 0 2 0 2 0 2 0 2 0 2 0 2 0 2 0 2 0 2 0 2 0 2 0 2 0 2 0 2 0 2",
      "0 2 0 2 0 2 0 2 0 2 0 2 0 20 0 2 0 2 0 2 0 2 0 2 0 2 0 2 0 2 0 2 0 2 0 2 0 2 0 2 0 136",
      "0 2 0 2 0 2 0 2 0 2 0 2 0 4 0 2 0 2 0 2 0 2 0 2 0 2 0 2 0 2 0 2 0 2 0 2 0 2 0 2 0 2 0 2",
      "0 2 0 2 0 2 0 2 0 2 0 2 0 2 0 2 0 2 0 2 0 2 0 2 0 2 0 2 0 2 0 11 0 2 0 2 1 2 0 2 0 2 0",
      "2 0 5 0 2 0 3 0 2 0 4 0 2 0 2 0 2 0 2 0 2 0 2 0 2 0 2 0 2 0 2 4 2 4 2 0 2 0 2 0 2 0 2 0",
      "2 0 2 0 2 3 2 0 2 1 4 0 6 0 2 0 2 0 2 0 25 0 891 79 20289 6 13 4 1034 25 1222 39 137 35",
      "157 10 2 14 2 6 2 1 1771 50 158 21 2875 31 21889 31 31393 33"])
  , (["changeswhencasemapped", "cwcm"],
      ["65 25 7 25 59 0 11 22 2 30 2 63 2 83 2 27 3 13 3 1 2 0 5 92 2 17 7 26 2 1 2 0 2 1 4 1 2",
      "3 2 4 3 0 2 1 3 0 8 0 3 0 2 1 4 5 6 0 11 1 167 0 43 3 3 1 4 2 2 0 7 0 2 2 2 0 2 19 2 46",
      "4 32 2 4 2 132 9 165 2 37 11 38 2841 37 2 0 6 0 3 42 3 2 673 85 3 5 2179 10 6 42 3 2",
      "186 0 4 0 17 0 114 155 3 0 2 117 3 5 3 37 3 5 3 7 2 0 2 0 2 0 2 30 3 52 2 6 2 0 4 2 2 6",
      "4 3 3 5 5 12 6 2 2 6 298 0 4 1 7 0 28 0 18 31 4 1 818 51 1815 112 2 1 2 1 8 101 8 3 4 1",
      "13 37 2 0 6 0 30995 45 19 27 135 13 3 61 10 14 4 2 3 4 2 24 2 29 3 1 2 0 2 7 25 1 861 0",
      "29 79 20289 6 13 4 1034 25 7 25 1190 79 97 35 5 35 117 10 2 14 2 6 2 1 2 10 2 14 2 6 2",
      "1 1732 50 14 50 94 21 11 21 2843 63 21857 63 31361 67"])
  , (["changeswhenlowercased", "cwl"],
      ["65 25 102 22 2 6 34 0 2 0 2 0 2 0 2 0 2 0 2 0 2 0 2 0 2 0 2 0 2 0 2 0 2 0 2 0 2 0 2 0 2",
      "0 2 0 2 0 2 0 2 0 2 0 2 0 2 0 2 0 2 0 2 0 3 0 2 0 2 0 2 0 2 0 2 0 2 0 2 0 3 0 2 0 2 0 2",
      "0 2 0 2 0 2 0 2 0 2 0 2 0 2 0 2 0 2 0 2 0 2 0 2 0 2 0 2 0 2 0 2 0 2 0 2 0 2 0 2 1 2 0 2",
      "0 4 1 2 0 2 1 2 2 3 3 2 1 2 2 4 1 2 1 2 0 2 0 2 1 2 0 3 0 2 1 2 2 2 0 2 1 4 0 8 1 2 1 2",
      "1 2 0 2 0 2 0 2 0 2 0 2 0 2 0 2 0 3 0 2 0 2 0 2 0 2 0 2 0 2 0 2 0 2 0 3 1 2 0 2 2 2 0 2",
      "0 2 0 2 0 2 0 2 0 2 0 2 0 2 0 2 0 2 0 2 0 2 0 2 0 2 0 2 0 2 0 2 0 2 0 2 0 2 0 2 0 2 0 2",
      "0 2 0 2 0 2 0 2 0 2 0 8 1 2 1 3 0 2 3 2 0 2 0 2 0 2 0 290 0 2 0 4 0 9 0 7 0 2 2 2 0 2 1",
      "2 16 2 8 36 0 9 0 2 0 2 0 2 0 2 0 2 0 2 0 2 0 2 0 2 0 2 0 2 0 6 0 3 0 2 1 3 50 49 0 2 0",
      "2 0 2 0 2 0 2 0 2 0 2 0 2 0 2 0 2 0 2 0 2 0 2 0 2 0 2 0 2 0 10 0 2 0 2 0 2 0 2 0 2 0 2",
      "0 2 0 2 0 2 0 2 0 2 0 2 0 2 0 2 0 2 0 2 0 2 0 2 0 2 0 2 0 2 0 2 0 2 0 2 0 2 0 2 0 2 1 2",
      "0 2 0 2 0 2 0 2 0 2 0 3 0 2 0 2 0 2 0 2 0 2 0 2 0 2 0 2 0 2 0 2 0 2 0 2 0 2 0 2 0 2 0 2",
      "0 2 0 2 0 2 0 2 0 2 0 2 0 2 0 2 0 2 0 2 0 2 0 2 0 2 0 2 0 2 0 2 0 2 0 2 0 2 0 2 0 2 0 2",
      "0 2 0 2 0 2 0 2 0 2 0 2 0 2 0 2 0 2 0 3 37 2890 37 2 0 6 0 723 85 2196 0 7 42 3 2 321 0",
      "2 0 2 0 2 0 2 0 2 0 2 0 2 0 2 0 2 0 2 0 2 0 2 0 2 0 2 0 2 0 2 0 2 0 2 0 2 0 2 0 2 0 2 0",
      "2 0 2 0 2 0 2 0 2 0 2 0 2 0 2 0 2 0 2 0 2 0 2 0 2 0 2 0 2 0 2 0 2 0 2 0 2 0 2 0 2 0 2 0",
      "2 0 2 0 2 0 2 0 2 0 2 0 2 0 2 0 2 0 2 0 2 0 2 0 2 0 2 0 2 0 2 0 2 0 2 0 2 0 2 0 2 0 2 0",
      "2 0 2 0 2 0 2 0 2 0 2 0 2 0 2 0 10 0 2 0 2 0 2 0 2 0 2 0 2 0 2 0 2 0 2 0 2 0 2 0 2 0 2",
      "0 2 0 2 0 2 0 2 0 2 0 2 0 2 0 2 0 2 0 2 0 2 0 2 0 2 0 2 0 2 0 2 0 2 0 2 0 2 0 2 0 2 0 2",
      "0 2 0 2 0 2 0 2 0 2 0 2 0 2 0 2 0 2 0 2 0 2 0 2 0 2 0 10 7 9 5 11 7 9 7 9 5 12 0 2 0 2",
      "0 2 0 9 7 25 7 9 7 9 7 9 4 12 4 12 3 13 4 12 4 298 0 4 1 7 0 46 15 20 0 819 25 1841 47",
      "49 0 2 2 3 0 2 0 2 0 2 3 2 0 3 0 9 2 2 0 2 0 2 0 2 0 2 0 2 0 2 0 2 0 2 0 2 0 2 0 2 0 2",
      "0 2 0 2 0 2 0 2 0 2 0 2 0 2 0 2 0 2 0 2 0 2 0 2 0 2 0 2 0 2 0 2 0 2 0 2 0 2 0 2 0 2 0 2",
      "0 2 0 2 0 2 0 2 0 2 0 2 0 2 0 2 0 2 0 2 0 2 0 2 0 2 0 2 0 9 0 2 0 5 0 31054 0 2 0 2 0 2",
      "0 2 0 2 0 2 0 2 0 2 0 2 0 2 0 2 0 2 0 2 0 2 0 2 0 2 0 2 0 2 0 2 0 2 0 2 0 2 0 20 0 2 0",
      "2 0 2 0 2 0 2 0 2 0 2 0 2 0 2 0 2 0 2 0 2 0 2 0 136 0 2 0 2 0 2 0 2 0 2 0 2 0 4 0 2 0 2",
      "0 2 0 2 0 2 0 2 0 2 0 2 0 2 0 2 0 2 0 2 0 2 0 2 0 2 0 2 0 2 0 2 0 2 0 2 0 2 0 2 0 2 0 2",
      "0 2 0 2 0 2 0 2 0 2 0 2 0 11 0 2 0 2 1 2 0 2 0 2 0 2 0 5 0 2 0 3 0 2 0 4 0 2 0 2 0 2 0",
      "2 0 2 0 2 0 2 0 2 0 2 0 2 4 2 4 2 0 2 0 2 0 2 0 2 0 2 0 2 0 2 3 2 0 2 1 4 0 6 0 2 0 2 0",
      "2 0 25 0 22316 25 1222 39 137 35 157 10 2 14 2 6 2 1 1771 50 158 21 2875 31 21889 31",
      "31393 33"])
  , (["changeswhentitlecased", "cwt"],
      ["97 25 59 0 42 23 2 7 2 0 2 0 2 0 2 0 2 0 2 0 2 0 2 0 2 0 2 0 2 0 2 0 2 0 2 0 2 0 2 0 2",
      "0 2 0 2 0 2 0 2 0 2 0 2 0 2 0 2 0 2 0 2 0 2 0 3 0 2 0 2 0 2 0 2 0 2 0 2 0 2 1 2 0 2 0 2",
      "0 2 0 2 0 2 0 2 0 2 0 2 0 2 0 2 0 2 0 2 0 2 0 2 0 2 0 2 0 2 0 2 0 2 0 2 0 2 0 2 0 3 0 2",
      "0 2 2 3 0 2 0 3 0 4 0 6 0 3 0 4 2 3 0 3 0 2 0 2 0 3 0 5 0 3 0 4 0 2 0 3 0 4 0 2 0 5 0 2",
      "1 2 1 2 0 2 0 2 0 2 0 2 0 2 0 2 0 2 0 2 1 2 0 2 0 2 0 2 0 2 0 2 0 2 0 2 0 2 2 2 0 2 0 4",
      "0 2 0 2 0 2 0 2 0 2 0 2 0 2 0 2 0 2 0 2 0 2 0 2 0 2 0 2 0 2 0 2 0 2 0 2 0 2 0 4 0 2 0 2",
      "0 2 0 2 0 2 0 2 0 2 0 2 0 9 0 3 1 2 0 5 0 2 0 2 0 2 0 2 5 2 1 2 0 2 1 4 1 2 3 2 4 3 0 2",
      "1 3 0 8 0 3 0 2 1 4 5 6 0 11 1 167 0 44 0 2 0 4 0 4 2 19 0 28 34 2 1 4 2 2 0 2 0 2 0 2",
      "0 2 0 2 0 2 0 2 0 2 0 2 0 2 0 2 4 2 0 3 0 3 0 53 47 2 0 2 0 2 0 2 0 2 0 2 0 2 0 2 0 2 0",
      "2 0 2 0 2 0 2 0 2 0 2 0 2 0 2 0 10 0 2 0 2 0 2 0 2 0 2 0 2 0 2 0 2 0 2 0 2 0 2 0 2 0 2",
      "0 2 0 2 0 2 0 2 0 2 0 2 0 2 0 2 0 2 0 2 0 2 0 2 0 2 0 3 0 2 0 2 0 2 0 2 0 2 0 2 1 2 0 2",
      "0 2 0 2 0 2 0 2 0 2 0 2 0 2 0 2 0 2 0 2 0 2 0 2 0 2 0 2 0 2 0 2 0 2 0 2 0 2 0 2 0 2 0 2",
      "0 2 0 2 0 2 0 2 0 2 0 2 0 2 0 2 0 2 0 2 0 2 0 2 0 2 0 2 0 2 0 2 0 2 0 2 0 2 0 2 0 2 0 2",
      "0 2 0 2 0 50 38 3697 5 2179 8 2 0 239 0 4 0 17 0 115 0 2 0 2 0 2 0 2 0 2 0 2 0 2 0 2 0",
      "2 0 2 0 2 0 2 0 2 0 2 0 2 0 2 0 2 0 2 0 2 0 2 0 2 0 2 0 2 0 2 0 2 0 2 0 2 0 2 0 2 0 2 0",
      "2 0 2 0 2 0 2 0 2 0 2 0 2 0 2 0 2 0 2 0 2 0 2 0 2 0 2 0 2 0 2 0 2 0 2 0 2 0 2 0 2 0 2 0",
      "2 0 2 0 2 0 2 0 2 0 2 0 2 0 2 0 2 0 2 0 2 0 2 0 2 0 2 0 2 0 2 0 2 0 2 0 2 0 2 0 2 0 2 6",
      "6 0 2 0 2 0 2 0 2 0 2 0 2 0 2 0 2 0 2 0 2 0 2 0 2 0 2 0 2 0 2 0 2 0 2 0 2 0 2 0 2 0 2 0",
      "2 0 2 0 2 0 2 0 2 0 2 0 2 0 2 0 2 0 2 0 2 0 2 0 2 0 2 0 2 0 2 0 2 0 2 0 2 0 2 0 2 0 2 0",
      "2 0 2 0 2 0 2 8 9 5 11 7 9 7 9 5 11 7 9 7 9 13 3 7 9 7 9 7 9 4 2 1 7 0 4 2 2 1 9 3 3 1",
      "9 7 11 2 2 1 343 0 34 15 5 0 844 25 1863 47 2 0 4 1 2 0 2 0 2 0 7 0 3 0 11 0 2 0 2 0 2",
      "0 2 0 2 0 2 0 2 0 2 0 2 0 2 0 2 0 2 0 2 0 2 0 2 0 2 0 2 0 2 0 2 0 2 0 2 0 2 0 2 0 2 0 2",
      "0 2 0 2 0 2 0 2 0 2 0 2 0 2 0 2 0 2 0 2 0 2 0 2 0 2 0 2 0 2 0 2 0 2 0 2 0 2 0 2 0 2 0 2",
      "0 2 0 2 0 9 0 2 0 5 0 13 37 2 0 6 0 30996 0 2 0 2 0 2 0 2 0 2 0 2 0 2 0 2 0 2 0 2 0 2 0",
      "2 0 2 0 2 0 2 0 2 0 2 0 2 0 2 0 2 0 2 0 2 0 20 0 2 0 2 0 2 0 2 0 2 0 2 0 2 0 2 0 2 0 2",
      "0 2 0 2 0 2 0 136 0 2 0 2 0 2 0 2 0 2 0 2 0 4 0 2 0 2 0 2 0 2 0 2 0 2 0 2 0 2 0 2 0 2 0",
      "2 0 2 0 2 0 2 0 2 0 2 0 2 0 2 0 2 0 2 0 2 0 2 0 2 0 2 0 2 0 2 0 2 0 2 0 2 0 2 0 11 0 2",
      "0 3 0 2 0 2 0 2 0 2 0 5 0 5 0 2 1 3 0 2 0 2 0 2 0 2 0 2 0 2 0 2 0 2 0 2 0 12 0 2 0 2 0",
      "2 0 2 0 2 0 2 0 2 0 5 0 2 0 3 0 4 0 2 0 2 0 2 0 2 0 2 0 27 0 861 0 29 79 20289 6 13 4",
      "1066 25 1230 39 137 35 156 10 2 14 2 6 2 1 1796 50 126 21 2875 31 21889 31 31395 33"])
  , (["changeswhenuppercased", "cwu"],
      ["97 25 59 0 42 23 2 7 2 0 2 0 2 0 2 0 2 0 2 0 2 0 2 0 2 0 2 0 2 0 2 0 2 0 2 0 2 0 2 0 2",
      "0 2 0 2 0 2 0 2 0 2 0 2 0 2 0 2 0 2 0 2 0 2 0 3 0 2 0 2 0 2 0 2 0 2 0 2 0 2 1 2 0 2 0 2",
      "0 2 0 2 0 2 0 2 0 2 0 2 0 2 0 2 0 2 0 2 0 2 0 2 0 2 0 2 0 2 0 2 0 2 0 2 0 2 0 2 0 3 0 2",
      "0 2 2 3 0 2 0 3 0 4 0 6 0 3 0 4 2 3 0 3 0 2 0 2 0 3 0 5 0 3 0 4 0 2 0 3 0 4 0 2 0 6 1 2",
      "1 2 1 2 0 2 0 2 0 2 0 2 0 2 0 2 0 2 1 2 0 2 0 2 0 2 0 2 0 2 0 2 0 2 0 2 1 2 1 2 0 4 0 2",
      "0 2 0 2 0 2 0 2 0 2 0 2 0 2 0 2 0 2 0 2 0 2 0 2 0 2 0 2 0 2 0 2 0 2 0 2 0 4 0 2 0 2 0 2",
      "0 2 0 2 0 2 0 2 0 2 0 9 0 3 1 2 0 5 0 2 0 2 0 2 0 2 5 2 1 2 0 2 1 4 1 2 3 2 4 3 0 2 1 3",
      "0 8 0 3 0 2 1 4 5 6 0 11 1 167 0 44 0 2 0 4 0 4 2 19 0 28 34 2 1 4 2 2 0 2 0 2 0 2 0 2",
      "0 2 0 2 0 2 0 2 0 2 0 2 0 2 4 2 0 3 0 3 0 53 47 2 0 2 0 2 0 2 0 2 0 2 0 2 0 2 0 2 0 2 0",
      "2 0 2 0 2 0 2 0 2 0 2 0 2 0 10 0 2 0 2 0 2 0 2 0 2 0 2 0 2 0 2 0 2 0 2 0 2 0 2 0 2 0 2",
      "0 2 0 2 0 2 0 2 0 2 0 2 0 2 0 2 0 2 0 2 0 2 0 2 0 3 0 2 0 2 0 2 0 2 0 2 0 2 1 2 0 2 0 2",
      "0 2 0 2 0 2 0 2 0 2 0 2 0 2 0 2 0 2 0 2 0 2 0 2 0 2 0 2 0 2 0 2 0 2 0 2 0 2 0 2 0 2 0 2",
      "0 2 0 2 0 2 0 2 0 2 0 2 0 2 0 2 0 2 0 2 0 2 0 2 0 2 0 2 0 2 0 2 0 2 0 2 0 2 0 2 0 2 0 2",
      "0 2 0 50 38 2889 42 3 2 761 5 2179 8 2 0 239 0 4 0 17 0 115 0 2 0 2 0 2 0 2 0 2 0 2 0 2",
      "0 2 0 2 0 2 0 2 0 2 0 2 0 2 0 2 0 2 0 2 0 2 0 2 0 2 0 2 0 2 0 2 0 2 0 2 0 2 0 2 0 2 0 2",
      "0 2 0 2 0 2 0 2 0 2 0 2 0 2 0 2 0 2 0 2 0 2 0 2 0 2 0 2 0 2 0 2 0 2 0 2 0 2 0 2 0 2 0 2",
      "0 2 0 2 0 2 0 2 0 2 0 2 0 2 0 2 0 2 0 2 0 2 0 2 0 2 0 2 0 2 0 2 0 2 0 2 0 2 0 2 0 2 0 2",
      "0 2 6 6 0 2 0 2 0 2 0 2 0 2 0 2 0 2 0 2 0 2 0 2 0 2 0 2 0 2 0 2 0 2 0 2 0 2 0 2 0 2 0 2",
      "0 2 0 2 0 2 0 2 0 2 0 2 0 2 0 2 0 2 0 2 0 2 0 2 0 2 0 2 0 2 0 2 0 2 0 2 0 2 0 2 0 2 0 2",
      "0 2 0 2 0 2 0 2 0 2 8 9 5 11 7 9 7 9 5 11 7 9 7 9 13 3 52 2 1 5 0 2 0 4 2 2 1 5 0 4 3 3",
      "1 9 7 11 2 2 1 5 0 338 0 34 15 5 0 844 25 1863 47 2 0 4 1 2 0 2 0 2 0 7 0 3 0 11 0 2 0",
      "2 0 2 0 2 0 2 0 2 0 2 0 2 0 2 0 2 0 2 0 2 0 2 0 2 0 2 0 2 0 2 0 2 0 2 0 2 0 2 0 2 0 2 0",
      "2 0 2 0 2 0 2 0 2 0 2 0 2 0 2 0 2 0 2 0 2 0 2 0 2 0 2 0 2 0 2 0 2 0 2 0 2 0 2 0 2 0 2 0",
      "2 0 2 0 2 0 2 0 9 0 2 0 5 0 13 37 2 0 6 0 30996 0 2 0 2 0 2 0 2 0 2 0 2 0 2 0 2 0 2 0 2",
      "0 2 0 2 0 2 0 2 0 2 0 2 0 2 0 2 0 2 0 2 0 2 0 2 0 20 0 2 0 2 0 2 0 2 0 2 0 2 0 2 0 2 0",
      "2 0 2 0 2 0 2 0 2 0 136 0 2 0 2 0 2 0 2 0 2 0 2 0 4 0 2 0 2 0 2 0 2 0 2 0 2 0 2 0 2 0 2",
      "0 2 0 2 0 2 0 2 0 2 0 2 0 2 0 2 0 2 0 2 0 2 0 2 0 2 0 2 0 2 0 2 0 2 0 2 0 2 0 2 0 2 0",
      "11 0 2 0 3 0 2 0 2 0 2 0 2 0 5 0 5 0 2 1 3 0 2 0 2 0 2 0 2 0 2 0 2 0 2 0 2 0 2 0 12 0 2",
      "0 2 0 2 0 2 0 2 0 2 0 2 0 5 0 2 0 3 0 4 0 2 0 2 0 2 0 2 0 2 0 27 0 861 0 29 79 20289 6",
      "13 4 1066 25 1230 39 137 35 156 10 2 14 2 6 2 1 1796 50 126 21 2875 31 21889 31 31395",
      "33"])
  , (["dash"],
      ["45 0 1373 0 52 0 3650 0 1030 0 2058 5 62 0 40 0 16 0 391 0 3077 0 3 0 32 1 5 0 29 0 447",
      "0 20 0 112 0 52625 1 38 0 11 0 170 0 3681 0 319 0"])
  , (["defaultignorablecodepoint", "di"],
      ["173 0 674 0 717 0 2883 1 1620 1 86 4 2044 4 27 4 50 15 4341 0 52380 15 240 0 161 0 80 8",
      "48296 3 5328 7 798342 4095"])
  , (["deprecated", "dep"],
      ["329 0 1322 0 2308 0 2 0 2090 1 2246 5 698 1 908503 0"])
  , (["diacritic", "dia"],
      ["94 0 2 0 72 0 7 0 5 0 3 1 504 158 2 7 6 5 18 1 5 0 10 1 254 4 210 0 56 44 2 0 2 1 2 1 2",
      "0 132 7 5 1 135 1 5 1 4 2 68 26 92 10 59 10 35 1 127 7 42 9 17 27 62 0 17 0 4 3 29 0 75",
      "0 17 0 111 0 17 0 111 0 17 0 48 2 61 0 17 0 8 0 120 0 111 0 17 0 111 0 17 0 110 1 17 0",
      "125 0 112 0 13 5 2 0 108 0 14 4 76 1 28 0 2 0 2 0 5 1 67 2 2 1 63 0 113 0 2 1 41 1 5 4",
      "26 6 2 0 11 1 706 2 949 1 31 0 149 10 10 0 348 2 293 0 21 7 3 0 49 14 3 10 105 0 16 0",
      "39 8 55 1 59 0 12 1 67 1 65 5 83 24 5 0 7 0 3 2 51 62 49 35 6 11 38 10 446 0 2 2 12 2",
      "14 2 14 2 14 1 3313 2 318 0 507 5 106 3 96 0 30067 0 13 1 2 0 29 1 83 1 15 33 103 2 110",
      "1 13 0 38 0 152 0 28 17 58 3 37 0 96 0 13 0 37 0 150 2 66 3 52 0 101 4 10 2 129 1 20273",
      "0 770 15 271 0 2 0 48 0 46 1 68 0 765 0 1184 5 2 41 2 8 638 2 5 0 166 1 572 5 39 0 27 4",
      "400 2 71 10 50 3 193 0 42 0 73 1 121 1 63 0 77 0 10 2 105 1 179 1 81 1 17 0 25 6 4 4 90",
      "2 2 1 14 1 96 0 4 0 124 1 252 1 127 0 119 1 116 0 270 1 259 1 5 0 157 0 84 0 19 0 82 0",
      "422 0 259 0 2 1 82 0 426 1 24 0 5357 14 11482 0 2497 4 60 6 565 1 547 16 81 1 16383 3 2",
      "6 2 1 7938 45 3 22 545 2 4 5 9 7 3 6 31 3 3715 61 195 6 376 0 62 3 767 1 737 6 110 2 2",
      "2"])
  , (["emoji"],
      ["35 0 7 0 6 9 112 0 5 0 8078 0 13 0 217 0 23 0 91 5 16 1 368 1 13 0 167 0 26 10 5 2 200",
      "0 232 1 11 0 10 0 59 3 2 4 10 0 3 0 3 1 3 0 5 0 3 0 2 1 3 0 4 0 4 1 9 2 6 0 2 0 6 11 12",
      "1 3 0 2 1 2 0 19 0 3 1 19 5 2 0 2 1 4 1 6 0 3 1 5 1 12 1 6 1 3 0 6 1 2 0 2 1 21 1 6 5 2",
      "3 3 0 5 0 3 0 3 5 2 0 3 0 2 0 2 0 7 0 4 0 7 0 11 1 16 0 3 0 5 0 2 0 5 2 2 0 12 1 49 2",
      "10 0 15 0 15 0 373 1 464 2 20 1 52 0 5 0 1243 0 13 0 602 0 2 0 114027 0 203 0 161 1 13",
      "1 15 0 3 9 76 25 2 1 24 0 21 0 3 8 22 1 175 33 3 111 3 1 2 2 3 82 3 2 2 262 2 62 12 5 2",
      "23 8 1 3 7 13 0 3 3 3 0 5 1 14 1 3 0 9 1 10 0 6 2 13 2 9 2 3 0 2 0 5 0 7 0 4 0 7 85 49",
      "69 6 7 3 2 5 9 4 0 2 1 4 0 3 9 228 11 5 0 284 46 2 9 2 184 113 12 4 9 6 55 8 14 3 10 7",
      "8"])
  , (["emojicomponent", "ecomp"],
      ["35 0 7 0 6 9 8148 0 214 0 56620 0 62423 25 508 4 1457 3 788077 95"])
  , (["emojimodifier", "emod"],
      ["127995 4"])
  , (["emojimodifierbase", "ebase"],
      ["9757 0 220 0 17 3 117880 0 61 2 3 0 3 2 118 1 3 10 22 18 4 0 5 2 2 2 8 0 2 0 25 0 202 1",
      "5 0 22 0 5 1 175 2 4 4 84 0 17 2 10 0 12 0 576 0 3 0 9 7 7 0 10 9 3 2 57 0 62 1 2 1 2 0",
      "18 2 2 12 230 2 43 8"])
  , (["emojipresentation", "epres"],
      ["8986 1 206 3 4 0 3 0 522 1 22 1 51 11 44 0 20 0 14 0 9 1 18 1 6 1 9 0 6 0 22 0 8 1 2 0",
      "5 0 3 0 8 0 5 1 29 0 36 0 2 0 5 2 2 0 62 2 25 0 15 0 860 1 52 0 5 0 115887 0 203 0 191",
      "0 3 9 76 25 2 0 25 0 21 0 3 4 2 2 22 1 175 32 13 8 2 69 2 21 13 42 5 4 13 16 4 0 4 70 2",
      "0 2 186 3 62 14 3 2 23 19 0 27 1 14 0 87 84 49 69 7 0 4 2 3 2 5 3 12 1 8 8 228 11 5 0",
      "284 46 2 9 2 184 113 12 4 9 6 55 8 14 3 10 7 8"])
  , (["extendedpictographic", "extpict"],
      ["169 0 5 0 8078 0 13 0 217 0 23 0 91 5 16 1 368 1 13 0 167 0 26 10 5 2 200 0 232 1 11 0",
      "10 0 59 3 2 4 10 0 3 0 3 1 3 0 5 0 3 0 2 1 3 0 4 0 4 1 9 2 6 0 2 0 6 11 12 1 3 0 2 1 2",
      "0 19 0 3 1 19 5 2 0 2 1 4 1 6 0 3 1 5 1 12 1 6 1 3 0 6 1 2 0 2 1 21 1 6 5 2 3 3 0 5 0 3",
      "0 3 5 2 0 3 0 2 0 2 0 7 0 4 0 7 0 11 1 16 0 3 0 5 0 2 0 5 2 2 0 12 1 49 2 10 0 15 0 15",
      "0 373 1 464 2 20 1 52 0 5 0 1243 0 13 0 602 0 2 0 114027 0 40 3 101 11 16 1 16 0 15 1",
      "38 9 113 1 13 1 15 0 3 9 20 55 28 14 11 0 21 0 3 8 2 3 10 22 7 187 3 111 3 1 2 2 3 82 3",
      "2 2 3 6 253 2 62 12 5 2 23 8 1 3 7 13 0 3 3 3 0 5 1 14 1 3 0 9 1 10 0 6 2 13 2 9 2 3 0",
      "2 0 5 0 7 0 4 0 7 85 49 69 6 7 3 2 2 12 4 0 2 5 3 12 219 37 13 3 57 7 11 5 41 7 31 1 13",
      "3 3 13 10 38 13 46 2 9 2 184 89 7 15 27 2 2 2 56 2 3 2 27 2 3 2 15 257 1021"])
  , (["extender", "ext"],
      ["183 0 537 1 879 0 442 0 631 0 138 0 90 0 753 0 128 0 2372 0 57 0 612 0 399 0 69 0 5002",
      "0 44 4 104 1 94 2 28439 0 1527 0 963 0 23 0 138 0 109 0 22 1 21628 0 2065 1 1484 0 28 0",
      "5 0 1224 0 294 0 117 1 499 2 1232 0 20650 1 1181 1 2 0 29017 1 1202 0 853 2"])
  , (["graphemebase", "grbase"],
      ["32 94 34 12 2 593 113 7 3 5 5 6 2 0 2 19 2 223 8 165 2 37 3 49 3 2 47 0 2 0 3 0 3 0 10",
      "26 5 5 18 9 12 0 2 45 22 15 2 100 9 0 7 1 3 0 5 31 3 0 2 29 30 88 12 0 15 42 10 6 4 23",
      "5 0 10 0 4 0 8 14 2 24 6 0 2 10 6 30 18 41 58 54 2 0 2 3 9 3 2 2 8 9 3 28 2 1 2 7 3 1 3",
      "21 2 6 2 0 4 3 4 0 2 1 7 1 3 1 2 0 14 1 2 2 5 23 6 0 2 5 5 1 3 21 2 6 2 1 2 1 2 1 5 2",
      "25 3 2 0 8 9 3 2 2 0 13 0 2 8 2 2 2 21 2 6 2 1 2 4 4 3 9 0 2 1 4 0 16 1 5 11 8 0 9 1 2",
      "7 3 1 3 21 2 6 2 1 2 4 4 0 3 0 7 1 3 1 16 1 2 2 5 17 12 0 2 5 4 2 2 3 4 1 2 0 2 1 4 1 4",
      "2 4 11 6 0 2 1 4 2 2 2 4 0 22 20 7 2 2 7 2 2 2 22 2 15 4 0 4 3 20 2 3 0 3 1 5 9 8 9 2",
      "10 2 2 2 22 2 9 2 4 4 1 3 0 2 1 25 1 2 1 5 9 2 2 15 10 2 2 2 40 3 0 2 1 6 2 2 2 2 1 5 2",
      "2 9 5 25 3 1 2 17 4 23 2 8 2 0 3 6 10 1 7 6 8 9 3 2 13 47 2 1 12 7 9 12 38 1 2 0 2 4 2",
      "23 2 0 2 9 2 1 10 0 3 4 2 0 10 9 3 3 33 23 3 26 2 0 2 0 2 13 2 35 19 0 6 0 3 4 50 7 2 5",
      "2 12 38 44 5 0 7 0 3 1 3 24 3 3 4 15 5 12 2 1 3 5 2 14 2 39 2 0 6 0 3 376 2 3 3 6 2 0 2",
      "3 3 40 2 3 3 32 2 3 3 6 2 0 2 3 3 14 2 56 2 3 3 66 6 28 4 25 7 85 3 5 3 668 4 88 8 17",
      "14 18 4 1 10 17 15 12 2 2 16 51 3 0 8 7 2 1 12 8 4 9 7 9 7 10 6 9 7 88 8 4 3 33 2 0 6",
      "69 11 30 5 3 3 2 5 1 2 5 8 0 4 41 3 4 12 43 5 25 7 10 4 56 3 1 4 55 2 0 10 0 2 1 9 5 14",
      "9 7 9 7 13 87 47 11 3 4 7 2 28 10 11 3 31 5 1 7 55 2 0 3 2 2 0 14 47 9 1 6 14 4 61 6 42",
      "3 10 12 0 14 0 8 3 2 5 2 2 3 0 6 191 65 277 3 5 3 37 3 5 3 7 2 0 2 0 2 0 2 30 3 52 2 14",
      "2 13 3 5 2 18 3 2 2 8 2 10 6 23 8 48 17 1 3 26 2 12 4 32 64 139 5 665 23 10 22 1811 3",
      "31 2 343 4 1 6 44 2 0 6 0 3 55 8 1 16 22 10 6 2 6 2 6 2 6 2 6 2 6 2 6 2 6 34 93 35 25 2",
      "88 13 213 27 57 7 15 2 85 5 100 6 42 2 93 2 85 10 47 2 29292 4 54 10 347 21 46 5 0 11",
      "31 3 79 3 5 9 205 3 1 2 0 2 7 22 15 2 2 2 3 2 24 3 4 5 9 7 55 9 67 11 11 25 12 2 37 9",
      "24 12 0 13 29 7 47 2 1 5 1 3 1 2 12 2 10 5 6 2 24 2 40 7 1 3 1 12 2 2 7 2 0 3 9 3 31 2",
      "50 2 0 4 1 3 4 3 0 2 0 25 16 3 7 12 5 3 5 3 5 10 6 2 6 2 59 5 116 2 1 2 3 4 9 7 11171",
      "13 22 5 48 8453 365 3 105 39 6 13 4 6 0 2 23 2 4 2 0 2 1 2 1 2 124 17 444 3 53 8 0 33",
      "15 17 9 23 34 2 18 2 3 5 4 2 134 5 156 3 30 4 5 3 5 3 5 3 2 4 6 2 6 14 1 3 11 2 25 2 18",
      "2 1 2 14 3 13 35 122 6 2 5 44 4 87 2 12 4 0 48 44 132 28 4 48 17 26 5 35 10 29 6 37 11",
      "29 2 36 5 13 43 157 3 9 7 35 5 35 5 39 9 51 12 11 2 14 2 6 2 1 2 10 2 14 2 6 2 1 4 51",
      "13 310 10 21 11 7 25 5 2 41 2 8 70 5 3 0 2 43 2 1 4 0 3 22 2 71 9 8 49 18 2 1 6 32 4 26",
      "6 0 65 55 5 19 3 46 16 3 2 2 2 28 11 8 8 8 8 63 33 36 7 11 10 53 4 28 3 26 6 25 8 3 13",
      "6 81 72 56 50 14 50 8 41 13 9 7 37 9 23 9 1 209 30 2 41 4 0 3 1 17 2 60 39 9 21 12 8 23",
      "17 5 3 39 27 21 22 10 0 2 53 16 6 5 29 2 1 3 0 13 48 5 1 3 1 2 3 15 24 8 9 10 35 6 0 10",
      "17 9 34 2 2 12 51 10 0 2 7 5 1 2 15 2 19 12 17 2 27 4 1 5 5 2 1 64 6 2 0 2 3 2 14 2 10",
      "7 46 2 2 14 9 9 1 2 7 3 1 3 21 2 6 2 1 2 4 4 0 2 0 2 3 3 1 3 1 4 0 13 6 29 9 2 0 3 0 2",
      "37 2 0 2 1 16 0 2 1 4 0 2 2 2 1 40 55 9 1 4 0 2 20 2 0 2 2 31 47 2 1 7 0 2 1 2 0 3 0 3",
      "3 9 9 167 46 2 1 7 3 3 0 3 26 37 50 9 1 2 0 3 3 12 9 7 12 20 42 2 0 2 1 9 1 7 9 7 19 29",
      "26 4 0 2 1 5 0 10 22 186 46 10 0 3 0 101 82 13 7 3 0 3 7 2 1 2 23 2 4 2 1 7 3 2 2 10 9",
      "71 7 3 41 9 3 2 3 28 0 11 39 7 1 5 7 10 0 7 1 4 45 14 0 3 8 14 72 8 9 183 33 15 9 7 8 2",
      "37 15 0 2 5 11 28 4 31 26 0 8 0 3 0 76 6 2 1 2 37 22 0 10 9 7 5 2 1 2 36 5 1 2 0 2 0 8",
      "9 311 18 3 3 10 14 2 35 9 1 4 22 87 0 16 49 14 922 103 110 2 4 12 195 2637 98 14 1071",
      "18 5 26 3994 6 582 6842 29 13 2 4 9 1735 568 8 30 2 9 5 80 2 9 7 29 8 0 11 47 8 14 11 9",
      "2 6 2 20 6 18 433 57 199 90 102 74 6 55 12 12 65 3 29 6135 9 1237 42 9 8936 3 2 6 2 1 2",
      "290 16 0 30 2 3 0 15 3 9 395 2309 106 6 12 4 8 8 9 3 0 3 0 3937 249 7 435 157 115 61",
      "245 11 38 3 59 6 2 23 1 8 29 5 60 22 65 4 0 123 19 13 19 13 86 10 24 136 84 2 70 2 1 3",
      "0 3 1 3 3 2 11 2 0 2 6 2 64 2 3 3 7 2 6 2 27 2 3 2 4 2 0 4 6 2 339 3 291 3 561 56 3 51",
      "7 2 13 2 6 1141 30 7 5 262 61 147 44 11 6 3 9 5 1 321 29 19 43 5 9 6 0 465 27 5 9 215",
      "29 3 10 5 0 481 6 2 3 2 1 2 14 2 196 3 8 49 67 8 0 5 9 5 1 786 67 77 60 195 3 2 26 2 1",
      "2 0 3 0 2 9 2 3 2 0 2 0 7 0 5 0 2 0 2 0 2 2 2 1 2 0 3 0 2 0 2 0 2 0 2 0 2 1 2 0 3 3 2 6",
      "2 3 2 3 2 0 2 9 2 16 6 2 2 4 2 16 53 1 271 43 5 99 13 14 3 14 2 14 2 36 11 173 57 28 14",
      "43 5 8 8 1 15 5 155 983 5 16 4 12 4 118 5 94 7 11 5 0 16 11 5 55 9 9 7 39 9 29 3 11 5 1",
      "63 339 13 13 3 12 4 9 6 55 8 14 3 10 7 8 8 146 2 101 1031 42719 33 4153 7 221 3 5761 15",
      "7472 16 621 2467 541 1507 4938 6 4191"])
  , (["graphemeextend", "grext"],
      ["768 111 276 6 264 44 2 0 2 1 2 1 2 0 73 10 49 20 17 0 102 6 3 5 3 1 2 3 36 0 31 26 92",
      "10 59 8 10 0 25 3 2 8 2 2 2 4 44 2 60 8 43 23 2 31 56 0 2 0 5 7 5 0 4 6 11 1 30 0 59 0",
      "2 0 3 3 9 0 10 0 11 1 27 0 3 1 58 0 5 1 5 1 3 2 4 0 31 1 4 0 12 1 58 0 5 4 2 1 5 0 21 1",
      "23 5 2 0 59 0 2 1 2 3 9 0 8 2 11 1 31 0 60 0 2 0 13 0 10 0 41 0 4 0 56 0 2 2 6 2 2 3 8",
      "1 12 1 30 0 59 0 3 1 2 0 4 2 2 3 8 1 12 1 29 1 58 1 2 0 3 3 9 0 10 0 11 1 30 0 73 0 5 0",
      "3 2 2 0 9 0 82 0 3 6 13 7 99 0 3 8 12 6 74 1 28 0 2 0 2 0 56 13 2 4 2 1 6 10 2 35 10 0",
      "103 3 2 5 2 1 3 1 26 1 5 2 17 3 14 0 3 1 7 0 16 0 704 2 947 3 29 2 30 1 31 1 65 1 2 6 9",
      "0 3 10 10 0 46 2 2 0 118 1 35 0 119 2 5 1 10 0 7 2 220 1 3 0 59 0 2 6 2 0 2 0 3 7 7 9 3",
      "0 49 30 50 3 49 9 5 2 39 8 13 1 33 3 3 5 57 0 2 1 4 0 2 4 57 7 3 1 153 2 2 12 2 6 5 0 7",
      "0 4 1 199 63 525 0 196 32 3071 2 142 0 97 31 555 5 106 1 30165 3 2 9 33 1 81 1 273 0 4",
      "0 5 0 26 1 6 0 152 1 27 17 14 0 39 7 26 10 2 0 45 2 49 0 3 3 3 1 3 0 37 0 68 5 3 1 3 1",
      "13 0 9 0 48 0 52 0 2 2 3 1 6 1 2 0 43 1 9 0 239 0 3 0 5 0 20273 0 738 15 17 15 367 1",
      "606 0 227 0 150 4 1671 2 2 1 6 3 41 2 5 0 166 1 574 3 66 4 318 1 80 3 71 10 50 3 124 0",
      "55 14 42 0 3 1 11 2 50 3 3 1 8 0 62 2 37 4 2 7 63 0 13 1 53 8 2 0 9 3 3 0 96 2 3 3 7 0",
      "3 0 158 0 4 7 22 1 58 1 2 0 2 0 13 0 10 0 15 6 4 4 68 0 3 5 2 0 3 0 2 2 5 2 2 0 15 1 86",
      "7 3 2 2 0 24 0 82 0 3 5 2 0 3 0 2 1 2 1 236 0 3 3 7 1 2 1 28 1 86 7 3 0 2 1 107 0 2 0 3",
      "7 102 0 2 0 3 3 2 4 260 8 2 1 246 0 11 3 5 0 145 3 3 1 5 0 33 9 41 5 3 3 9 0 10 5 3 2",
      "47 12 2 1 407 6 2 5 2 0 83 21 3 6 2 1 2 1 123 5 4 0 2 1 2 6 2 0 73 1 4 0 2 0 348 1 12 1",
      "53 4 6 2 24 0 5350 0 7 14 11465 11 4 2 2497 4 60 6 1049 0 64 3 82 0 12 1 19628 1 4706",
      "45 3 22 543 4 4 5 9 7 3 6 31 3 149 2 1980 54 5 49 9 0 15 0 23 4 2 14 1361 6 2 16 3 6 2",
      "1 2 4 101 0 161 6 376 0 62 3 509 3 255 1 737 6 110 6 792278 95 129 239"])
  , (["hexdigit", "hex"],
      ["48 9 8 5 27 5 65194 9 8 5 27 5"])
  , (["idsbinaryoperator", "idsb"],
      ["12272 1 3 9 498 0"])
  , (["idstrinaryoperator", "idst"],
      ["12274 1"])
  , (["idcontinue", "idc"],
      ["48 9 8 25 5 0 2 25 48 0 11 0 2 0 3 0 6 22 2 30 2 457 5 11 15 4 8 0 2 0 18 116 2 1 3 3 2",
      "0 7 4 2 0 2 19 2 82 2 138 2 4 3 165 2 37 3 0 7 40 9 44 2 0 2 1 2 1 2 0 9 26 5 3 30 10 6",
      "73 5 101 2 7 3 9 2 18 3 0 17 58 3 100 15 53 5 0 3 0 3 45 19 27 5 10 6 23 2 5 9 74 2 128",
      "3 9 2 18 2 7 3 1 3 21 2 6 2 0 4 3 3 8 3 1 3 3 9 0 5 1 2 4 3 11 11 0 2 0 3 2 2 5 5 1 3",
      "21 2 6 2 1 2 1 2 1 3 0 2 4 5 1 3 2 4 0 8 3 2 0 8 15 12 2 2 8 2 2 2 21 2 6 2 1 2 4 3 9 2",
      "2 2 2 3 0 16 3 3 9 10 6 2 2 2 7 3 1 3 21 2 6 2 1 2 4 3 8 3 1 3 2 8 2 5 1 2 4 3 9 2 0 17",
      "1 2 5 4 2 2 3 4 1 2 0 2 1 4 1 4 2 4 11 5 4 4 2 2 3 3 0 7 0 15 9 17 12 2 2 2 22 2 15 3 8",
      "2 2 2 3 8 1 2 2 3 0 3 3 3 9 17 3 2 7 2 2 2 22 2 9 2 4 3 8 2 2 2 3 8 1 7 1 2 3 3 9 2 2",
      "13 12 2 2 2 50 2 2 2 4 6 3 8 4 3 9 11 5 2 2 2 17 4 23 2 8 2 0 3 6 4 0 5 5 2 0 2 7 7 9 3",
      "1 14 57 6 14 2 9 40 1 2 0 2 4 2 23 2 0 2 22 3 4 2 0 2 6 2 9 3 3 33 0 24 1 7 9 12 0 2 0",
      "2 0 5 9 2 35 5 19 2 17 2 35 10 0 58 73 7 77 3 37 2 0 6 0 3 42 2 332 2 3 3 6 2 0 2 3 3",
      "40 2 3 3 32 2 3 3 6 2 0 2 3 3 14 2 56 2 3 3 66 3 2 10 8 15 15 17 85 3 5 4 619 3 16 2 25",
      "6 74 4 10 8 21 10 21 12 19 13 12 2 2 2 1 13 83 4 0 5 1 3 9 34 2 2 10 7 88 8 42 6 69 11",
      "30 2 11 5 11 11 39 3 4 12 43 5 25 7 10 38 27 5 62 2 28 3 10 7 9 14 0 9 13 2 15 50 76 4",
      "9 18 8 13 115 13 55 9 9 4 48 3 10 6 42 3 2 17 2 2 38 6 533 3 5 3 37 3 5 3 7 2 0 2 0 2 0",
      "2 30 3 52 2 6 2 0 4 2 2 6 4 3 3 5 5 12 6 2 2 6 16 1 50 1 20 0 29 0 14 0 17 12 52 12 5 0",
      "4 11 18 0 5 0 3 9 2 0 3 5 7 0 2 0 2 0 2 15 3 3 6 4 5 0 18 40 2680 228 7 8 13 37 2 0 6 0",
      "3 55 8 0 16 23 10 6 2 6 2 6 2 6 2 6 2 6 2 6 2 6 2 31 518 2 26 14 2 4 3 4 5 85 3 6 2 94",
      "6 42 2 93 18 31 49 15 513 6591 65 22156 68 45 3 268 4 27 21 47 5 9 2 114 38 8 3 102 3",
      "66 3 1 2 0 2 7 22 53 5 0 20 51 13 69 11 9 7 23 4 0 2 48 3 35 13 28 4 64 15 10 7 30 2 54",
      "10 13 3 9 7 22 4 72 25 2 3 15 3 4 11 5 3 5 3 5 10 6 2 6 2 42 2 13 7 122 2 1 3 9 7 11171",
      "13 22 5 48 8453 365 3 105 39 6 13 4 6 11 2 12 2 4 2 0 2 1 2 1 2 107 34 362 19 63 3 53",
      "41 11 5 15 17 15 4 1 25 2 33 4 2 134 20 9 8 25 5 0 2 25 11 89 4 5 3 5 3 5 3 2 36 11 2",
      "25 2 18 2 1 2 14 3 13 35 122 70 52 137 0 131 28 4 48 16 0 32 31 14 29 6 42 6 29 3 35 5",
      "7 2 4 43 157 3 9 7 35 5 35 5 39 9 51 13 10 2 14 2 6 2 1 2 10 2 14 2 6 2 1 4 51 13 310",
      "10 21 11 7 25 5 2 41 2 8 70 5 3 0 2 43 2 1 4 0 3 22 11 22 10 30 66 18 2 1 11 21 11 25",
      "71 55 7 1 65 3 2 1 6 7 2 2 2 28 3 2 5 0 33 28 4 28 36 7 2 29 26 53 11 21 11 18 14 17",
      "111 72 56 50 14 50 14 39 9 9 7 37 4 4 2 22 251 41 2 1 4 1 17 2 56 32 11 0 9 32 32 21 43",
      "20 28 22 10 70 32 15 10 59 8 0 14 24 8 9 7 52 2 9 5 3 9 35 3 0 10 68 5 3 2 12 2 0 36 17",
      "2 36 7 3 63 6 2 0 2 3 2 14 2 9 8 58 6 9 7 3 2 7 3 1 3 21 2 6 2 1 2 4 2 9 3 1 3 2 3 0 7",
      "0 6 6 3 6 4 4 12 9 2 0 3 0 2 37 2 9 2 0 3 0 2 3 2 7 14 1 30 74 6 9 5 3 31 69 2 0 9 9",
      "167 53 3 8 24 5 35 64 4 0 12 9 39 56 8 9 7 19 29 26 3 14 5 9 7 6 186 58 102 73 22 7 3 0",
      "3 7 2 1 2 29 2 1 3 8 13 9 71 7 3 45 3 7 2 1 28 62 9 0 9 73 4 0 19 72 200 32 16 9 7 8 2",
      "44 2 8 16 9 25 29 3 21 2 13 74 6 2 1 2 43 4 0 2 1 2 8 9 9 7 5 2 1 2 36 2 1 2 5 8 9 311",
      "22 10 16 2 40 4 4 14 10 86 0 80 921 103 110 18 195 2637 96 16 1071 17 21 11 3994 6 582",
      "6842 57 1735 568 8 30 2 9 7 78 2 9 7 29 3 4 12 54 10 3 13 9 10 20 6 18 433 44 4 9 199",
      "63 129 74 5 56 8 16 65 1 2 1 12 1 15 6135 9 1237 42 9 8936 3 2 6 2 1 2 290 16 0 30 2 3",
      "0 15 3 9 395 2309 106 6 12 4 8 8 9 4 1 4178 9 519 45 3 22 543 4 4 5 9 7 3 6 31 3 149 2",
      "444 84 2 70 2 1 3 0 3 1 3 3 2 11 2 0 2 6 2 64 2 3 3 7 2 6 2 27 2 3 2 4 2 0 4 6 2 339 3",
      "24 2 24 2 30 2 24 2 30 2 24 2 30 2 24 2 30 2 24 2 7 3 49 513 54 5 49 9 0 15 0 23 4 2 14",
      "1105 30 7 5 214 6 2 16 3 6 2 1 2 4 6 61 34 0 113 44 4 13 3 9 5 0 322 30 18 57 471 41",
      "215 42 486 6 2 3 2 1 2 14 2 196 12 6 42 75 5 9 1191 3 2 26 2 1 2 0 3 0 2 9 2 3 2 0 2 0",
      "7 0 5 0 2 0 2 0 2 2 2 1 2 0 3 0 2 0 2 0 2 0 2 0 2 1 2 0 3 3 2 6 2 3 2 3 2 0 2 9 2 16 6",
      "2 2 4 2 16 3381 9 1031 42719 33 4153 7 221 3 5761 15 7472 16 621 2467 541 1507 4938 6",
      "4191 712017 239"])
  , (["idstart", "ids"],
      ["65 25 7 25 48 0 11 0 5 0 6 22 2 30 2 457 5 11 15 4 8 0 2 0 130 4 2 1 3 3 2 0 7 0 2 2 2",
      "0 2 19 2 82 2 138 9 165 2 37 3 0 7 40 72 26 5 3 46 42 36 1 2 98 2 0 16 1 8 1 11 2 3 0",
      "17 0 2 29 30 88 12 0 25 32 10 1 5 0 6 21 5 0 10 0 4 0 24 24 8 10 6 23 2 5 18 41 59 53 4",
      "0 19 0 8 9 16 15 5 7 3 1 3 21 2 6 2 0 4 3 4 0 17 0 14 1 2 2 15 1 11 0 9 5 5 1 3 21 2 6",
      "2 1 2 1 2 1 32 3 2 0 20 2 17 8 2 2 2 21 2 6 2 1 2 4 4 0 19 0 16 1 24 0 12 7 3 1 3 21 2",
      "6 2 1 2 4 4 0 31 1 2 2 16 0 18 0 2 5 4 2 2 3 4 1 2 0 2 1 4 1 4 2 4 11 23 0 53 7 2 2 2",
      "22 2 15 4 0 27 2 3 0 3 1 31 0 5 7 2 2 2 22 2 9 2 4 4 0 32 1 2 1 16 1 18 8 2 2 2 40 3 0",
      "17 0 6 2 9 2 25 5 6 17 4 23 2 8 2 0 3 6 59 47 2 1 13 6 59 1 2 0 2 4 2 23 2 0 2 9 2 1 10",
      "0 3 4 2 0 22 3 33 0 64 7 2 35 28 4 116 42 21 0 17 5 5 3 4 0 4 1 8 2 5 12 13 0 18 37 2 0",
      "6 0 3 42 2 332 2 3 3 6 2 0 2 3 3 40 2 3 3 32 2 3 3 6 2 0 2 3 3 14 2 56 2 3 3 66 38 15",
      "17 85 3 5 4 619 3 16 2 25 6 74 4 10 8 17 14 18 15 17 15 12 2 2 16 51 36 0 5 0 68 88 8",
      "40 2 0 6 69 11 30 50 29 3 4 12 43 5 25 55 22 10 52 83 0 94 46 18 7 55 29 14 1 11 43 27",
      "35 42 2 11 35 3 10 6 42 3 2 42 3 2 5 2 1 4 0 6 191 65 277 3 5 3 37 3 5 3 7 2 0 2 0 2 0",
      "2 30 3 52 2 6 2 0 4 2 2 6 4 3 3 5 5 12 6 2 2 6 117 0 14 0 17 12 102 0 5 0 3 9 2 0 3 5 7",
      "0 2 0 2 0 2 15 3 3 6 4 5 0 18 40 2680 228 7 3 4 1 13 37 2 0 6 0 3 55 8 0 17 22 10 6 2 6",
      "2 6 2 6 2 6 2 6 2 6 2 6 551 2 26 8 8 4 3 4 5 85 5 4 2 89 2 3 6 42 2 93 18 31 49 15 513",
      "6591 65 22156 68 45 3 268 4 15 11 1 21 46 17 30 3 79 40 8 3 102 3 66 3 1 2 0 2 7 22 15",
      "2 2 2 3 2 22 30 51 15 49 63 5 4 0 2 1 12 27 11 22 26 28 8 46 29 0 17 4 2 9 11 4 2 40 24",
      "2 2 7 21 22 4 0 4 49 2 0 4 1 3 4 3 0 2 0 25 2 3 10 8 2 13 5 3 5 3 5 10 6 2 6 2 42 2 13",
      "7 114 30 11171 13 22 5 48 8453 365 3 105 39 6 13 4 6 0 2 9 2 12 2 4 2 0 2 1 2 1 2 107",
      "34 362 19 63 3 53 41 11 117 4 2 134 37 25 7 25 12 88 4 5 3 5 3 5 3 2 36 11 2 25 2 18 2",
      "1 2 14 3 13 35 122 70 52 268 28 4 48 48 31 14 29 6 37 11 29 3 35 5 7 2 4 43 157 19 35 5",
      "35 5 39 9 51 13 10 2 14 2 6 2 1 2 10 2 14 2 6 2 1 4 51 13 310 10 21 11 7 25 5 2 41 2 8",
      "70 5 3 0 2 43 2 1 4 0 3 22 11 22 10 30 66 18 2 1 11 21 11 25 71 55 7 1 65 0 16 3 2 2 2",
      "28 43 28 4 28 36 7 2 27 28 53 11 21 11 18 14 17 111 72 56 50 14 50 14 35 39 27 10 22",
      "251 41 7 1 17 2 60 28 11 0 9 21 43 17 47 20 28 22 13 52 58 1 3 0 14 44 33 24 27 35 30 0",
      "3 0 9 34 4 0 13 47 15 3 22 0 2 0 36 17 2 24 20 1 64 6 2 0 2 3 2 14 2 9 8 46 39 7 3 1 3",
      "21 2 6 2 1 2 4 4 0 19 0 13 4 31 9 2 0 3 0 2 37 2 0 26 0 2 0 45 52 19 3 21 2 31 47 21 1",
      "2 0 185 46 42 3 37 47 21 0 60 42 14 0 72 26 38 6 186 43 117 63 32 7 3 0 3 7 2 1 2 23 16",
      "0 2 0 95 7 3 38 17 0 2 0 29 0 11 39 8 0 22 0 12 45 20 0 19 72 200 32 32 8 2 36 18 0 50",
      "29 113 6 2 1 2 37 22 0 26 5 2 1 2 31 15 0 328 18 16 0 2 12 2 33 125 0 80 921 103 110 18",
      "195 2637 96 16 1071 18 5 26 3994 6 582 6842 29 1763 568 8 30 18 78 18 29 19 47 17 3 32",
      "20 6 18 433 44 212 63 129 74 6 0 67 12 65 1 2 0 29 6135 9 1237 42 9 8936 3 2 6 2 1 2",
      "290 16 0 30 2 3 0 15 3 9 395 2309 106 6 12 4 8 8 9 5991 84 2 70 2 1 3 0 3 1 3 3 2 11 2",
      "0 2 6 2 64 2 3 3 7 2 6 2 27 2 3 2 4 2 0 4 6 2 339 3 24 2 24 2 30 2 24 2 30 2 24 2 30 2",
      "24 2 30 2 24 2 7 1845 30 7 5 262 61 147 44 11 6 17 0 322 29 19 43 485 27 229 29 3 0 496",
      "6 2 3 2 1 2 14 2 196 60 67 8 0 1205 3 2 26 2 1 2 0 3 0 2 9 2 3 2 0 2 0 7 0 5 0 2 0 2 0",
      "2 2 2 1 2 0 3 0 2 0 2 0 2 0 2 0 2 1 2 0 3 3 2 6 2 3 2 3 2 0 2 9 2 16 6 2 2 4 2 16 4421",
      "42719 33 4153 7 221 3 5761 15 7472 16 621 2467 541 1507 4938 6 4191"])
  , (["ideographic", "ideo"],
      ["12294 1 26 8 15 2 966 6591 65 20991 22785 365 3 105 29963 0 28 6135 9 1237 42 9 9320",
      "395 19717 42719 33 4153 7 221 3 5761 15 7472 16 621 2467 541 1507 4938 6 4191"])
  , (["joincontrol", "joinc"],
      ["8204 1"])
  , (["logicalorderexception", "loe"],
      ["3648 4 124 4 2801 2 3 0 37115 1 3 0 2 1"])
  , (["lowercase", "lower"],
      ["97 25 48 0 11 0 5 0 37 23 2 7 2 0 2 0 2 0 2 0 2 0 2 0 2 0 2 0 2 0 2 0 2 0 2 0 2 0 2 0 2",
      "0 2 0 2 0 2 0 2 0 2 0 2 0 2 0 2 0 2 0 2 0 2 0 2 0 2 1 2 0 2 0 2 0 2 0 2 0 2 0 2 0 2 1 2",
      "0 2 0 2 0 2 0 2 0 2 0 2 0 2 0 2 0 2 0 2 0 2 0 2 0 2 0 2 0 2 0 2 0 2 0 2 0 2 0 2 0 2 0 2",
      "0 3 0 2 0 2 2 3 0 2 0 3 0 4 1 5 0 3 0 4 2 3 0 3 0 2 0 2 0 3 0 2 1 2 0 3 0 4 0 2 0 3 1 3",
      "2 7 0 3 0 3 0 2 0 2 0 2 0 2 0 2 0 2 0 2 0 2 1 2 0 2 0 2 0 2 0 2 0 2 0 2 0 2 0 2 1 3 0 2",
      "0 4 0 2 0 2 0 2 0 2 0 2 0 2 0 2 0 2 0 2 0 2 0 2 0 2 0 2 0 2 0 2 0 2 0 2 0 2 0 2 0 2 0 2",
      "0 2 0 2 0 2 0 2 0 2 0 2 0 2 0 2 6 3 0 3 1 2 0 5 0 2 0 2 0 2 0 2 68 3 34 8 1 31 4 97 0",
      "44 0 2 0 4 0 3 3 19 0 28 34 2 1 4 2 2 0 2 0 2 0 2 0 2 0 2 0 2 0 2 0 2 0 2 0 2 0 2 4 2 0",
      "3 0 3 1 52 47 2 0 2 0 2 0 2 0 2 0 2 0 2 0 2 0 2 0 2 0 2 0 2 0 2 0 2 0 2 0 2 0 2 0 10 0",
      "2 0 2 0 2 0 2 0 2 0 2 0 2 0 2 0 2 0 2 0 2 0 2 0 2 0 2 0 2 0 2 0 2 0 2 0 2 0 2 0 2 0 2 0",
      "2 0 2 0 2 0 2 0 3 0 2 0 2 0 2 0 2 0 2 0 2 1 2 0 2 0 2 0 2 0 2 0 2 0 2 0 2 0 2 0 2 0 2 0",
      "2 0 2 0 2 0 2 0 2 0 2 0 2 0 2 0 2 0 2 0 2 0 2 0 2 0 2 0 2 0 2 0 2 0 2 0 2 0 2 0 2 0 2 0",
      "2 0 2 0 2 0 2 0 2 0 2 0 2 0 2 0 2 0 2 0 2 0 2 0 2 0 2 0 2 0 49 40 2888 42 2 3 761 5",
      "2179 8 2 0 118 191 66 0 2 0 2 0 2 0 2 0 2 0 2 0 2 0 2 0 2 0 2 0 2 0 2 0 2 0 2 0 2 0 2 0",
      "2 0 2 0 2 0 2 0 2 0 2 0 2 0 2 0 2 0 2 0 2 0 2 0 2 0 2 0 2 0 2 0 2 0 2 0 2 0 2 0 2 0 2 0",
      "2 0 2 0 2 0 2 0 2 0 2 0 2 0 2 0 2 0 2 0 2 0 2 0 2 0 2 0 2 0 2 0 2 0 2 0 2 0 2 0 2 0 2 0",
      "2 0 2 0 2 0 2 0 2 0 2 0 2 0 2 0 2 0 2 0 2 0 2 0 2 0 2 8 2 0 2 0 2 0 2 0 2 0 2 0 2 0 2 0",
      "2 0 2 0 2 0 2 0 2 0 2 0 2 0 2 0 2 0 2 0 2 0 2 0 2 0 2 0 2 0 2 0 2 0 2 0 2 0 2 0 2 0 2 0",
      "2 0 2 0 2 0 2 0 2 0 2 0 2 0 2 0 2 0 2 0 2 0 2 0 2 0 2 0 2 0 2 0 2 0 2 0 2 8 9 5 11 7 9",
      "7 9 5 11 7 9 7 9 13 3 7 9 7 9 7 9 4 2 1 7 0 4 2 2 1 9 3 3 1 9 7 11 2 2 1 122 0 14 0 17",
      "12 110 0 4 1 4 0 28 0 5 0 5 0 3 1 9 3 5 0 34 15 5 0 844 25 1863 47 2 0 4 1 2 0 2 0 2 0",
      "5 0 2 1 2 7 4 0 2 0 2 0 2 0 2 0 2 0 2 0 2 0 2 0 2 0 2 0 2 0 2 0 2 0 2 0 2 0 2 0 2 0 2 0",
      "2 0 2 0 2 0 2 0 2 0 2 0 2 0 2 0 2 0 2 0 2 0 2 0 2 0 2 0 2 0 2 0 2 0 2 0 2 0 2 0 2 0 2 0",
      "2 0 2 0 2 0 2 0 2 0 2 0 2 0 2 0 2 1 8 0 2 0 5 0 13 37 2 0 6 0 30996 0 2 0 2 0 2 0 2 0 2",
      "0 2 0 2 0 2 0 2 0 2 0 2 0 2 0 2 0 2 0 2 0 2 0 2 0 2 0 2 0 2 0 2 0 2 0 20 0 2 0 2 0 2 0",
      "2 0 2 0 2 0 2 0 2 0 2 0 2 0 2 0 2 0 2 2 134 0 2 0 2 0 2 0 2 0 2 0 2 2 2 0 2 0 2 0 2 0 2",
      "0 2 0 2 0 2 0 2 0 2 0 2 0 2 0 2 0 2 0 2 0 2 0 2 0 2 0 2 0 2 0 2 0 2 0 2 0 2 0 2 0 2 0 2",
      "0 2 0 2 0 2 0 2 9 2 0 2 0 3 0 2 0 2 0 2 0 2 0 5 0 2 0 3 0 2 2 2 0 2 0 2 0 2 0 2 0 2 0 2",
      "0 2 0 2 0 2 0 6 0 6 0 2 0 2 0 2 0 2 0 2 0 2 0 2 0 5 0 2 0 3 0 4 0 2 0 2 0 2 0 2 0 2 0",
      "23 2 2 0 2 2 822 42 2 13 7 79 20289 6 13 4 1066 25 1230 39 137 35 156 10 2 14 2 6 2 1",
      "452 0 3 2 2 41 2 8 1286 50 126 21 2875 31 21889 31 26011 25 27 6 2 17 27 25 27 3 2 0 2",
      "6 2 10 27 25 27 25 27 25 27 25 27 25 27 25 27 25 27 25 27 27 29 24 2 5 27 24 2 5 27 24",
      "2 5 27 24 2 5 27 24 2 5 2 0 1845 9 2 19 7 5 262 61 2229 33"])
  , (["math"],
      ["43 0 17 2 32 0 30 0 2 0 46 0 5 0 38 0 32 0 729 2 3 0 27 1 3 2 528 2 6670 0 28 2 12 0 4",
      "0 14 0 15 3 22 4 12 4 66 12 5 0 4 1 5 4 19 0 5 0 3 9 2 0 3 5 7 0 4 1 3 1 2 2 2 5 4 13 2",
      "0 69 23 2 5 2 1 5 1 5 31 2 0 7 1 15 267 9 3 21 1 91 0 31 26 2 0 25 0 12 6 446 1 13 9 5",
      "5 5 1 3 1 4 4 15 0 2 0 3 5 12 7 6 1 58 0 2 0 30 3 10 2 337 63 257 511 49 20 3 5 53213 0",
      "824 5 2 0 163 0 17 2 30 0 2 0 30 0 2 0 132 0 7 3 3490 1 50801 84 2 70 2 1 3 0 3 1 3 3 2",
      "11 2 0 2 6 2 64 2 3 3 7 2 6 2 27 2 3 2 4 2 0 4 6 2 339 3 291 3 49 5633 3 2 26 2 1 2 0 3",
      "0 2 9 2 3 2 0 2 0 7 0 5 0 2 0 2 0 2 2 2 1 2 0 3 0 2 0 2 0 2 0 2 0 2 1 2 0 3 3 2 6 2 3 2",
      "3 2 0 2 9 2 16 6 2 2 4 2 16 53 1"])
  , (["noncharactercodepoint", "nchar"],
      ["64976 31 527 1 65535 1 65535 1 65535 1 65535 1 65535 1 65535 1 65535 1 65535 1 65535 1",
      "65535 1 65535 1 65535 1 65535 1 65535 1 65535 1 65535 1"])
  , (["patternsyntax", "patsyn"],
      ["33 14 11 6 27 3 2 0 27 3 35 6 2 0 2 1 2 0 2 1 5 0 5 0 4 0 24 0 32 0 7961 23 9 14 3 18 2",
      "9 306 719 161 629 31 1025 2 104 513 127 386 2 5 24 16 0 52494 1 262 1"])
  , (["patternwhitespace", "patws"],
      ["9 4 19 0 101 0 8073 1 25 1"])
  , (["quotationmark", "qmark"],
      ["34 0 5 0 132 0 16 0 8029 7 26 1 3592 0 458 3 14 2 52770 3 190 0 5 0 91 1"])
  , (["radical"],
      ["11904 25 2 88 13 213"])
  , (["regionalindicator", "ri"],
      ["127462 25"])
  , (["sentenceterminal", "sterm"],
      ["33 0 13 0 17 0 1354 0 148 2 181 0 44 2 247 0 62 0 2 0 4 1 294 1 1765 1 791 0 5 1 774 0",
      "199 1 158 1 46 0 6 0 315 1 355 3 163 1 11 1 3 1 30 2 188 1 66 1 933 0 24 1 10 2 3248 2",
      "307 0 14 0 23 1 430 0 29949 0 271 1 228 0 4 0 383 1 87 1 96 0 153 1 148 2 145 1 250 0",
      "21031 0 3 1 60 0 4 1 170 0 13 0 17 0 66 0 2805 1 1278 4 45 3 190 1 118 3 128 2 130 1 7",
      "0 17 1 89 1 2 1 109 0 299 1 118 1 374 1 6 14 106 1 250 2 518 0 2 0 252 1 88 1 421 1 693",
      "1 75 1 19242 1 134 0 66 1 12 0 554 1 297 0 19975 0 7657 0"])
  , (["softdotted", "sd"],
      ["105 1 197 0 282 0 31 0 53 0 21 0 321 0 99 0 2 0 6410 0 52 0 14 0 4 0 133 0 158 0 422 0",
      "215 1 2867 0 108454 1 51 1 51 1 51 1 51 1 51 1 51 1 51 1 51 1 51 1 51 1 51 1 51 1 2183",
      "0 306 1 27 0"])
  , (["terminalpunctuation", "term"],
      ["33 0 11 0 2 0 12 1 4 0 831 0 9 0 514 0 58 0 73 0 15 0 2 2 181 0 44 10 2 0 236 1 55 5 2",
      "7 32 0 262 1 1269 1 173 0 5 5 312 1 790 7 774 0 125 2 72 1 158 2 4 0 40 3 3 1 315 1 355",
      "3 163 1 11 1 2 2 30 2 188 4 63 1 933 0 24 1 10 2 3248 2 307 0 14 0 5 0 11 0 2 1 4 1 429",
      "1 29948 1 270 2 228 4 383 1 87 1 96 0 152 2 148 2 128 0 17 1 250 0 21031 0 3 1 58 2 2 3",
      "170 0 11 0 2 0 12 1 4 0 66 0 3 0 1083 0 49 0 1159 0 200 0 311 1 153 5 69 5 90 3 953 4",
      "45 3 190 6 113 3 128 2 130 1 7 0 17 1 89 4 109 0 299 1 118 2 13 1 359 3 4 14 106 1 250",
      "2 518 0 2 0 252 1 88 1 5 1 415 2 46 0 646 1 75 1 1324 4 17914 1 134 0 66 2 11 0 554 1",
      "296 1 19975 0 7656 3"])
  , (["unifiedideograph", "uideo"],
      ["13312 6591 65 20991 23055 1 2 0 2 1 11 0 2 0 2 1 3 2 67031 42719 33 4153 7 221 3 5761",
      "15 7472 16 621 4515 4938 6 4191"])
  , (["uppercase", "upper"],
      ["65 25 102 22 2 6 34 0 2 0 2 0 2 0 2 0 2 0 2 0 2 0 2 0 2 0 2 0 2 0 2 0 2 0 2 0 2 0 2 0 2",
      "0 2 0 2 0 2 0 2 0 2 0 2 0 2 0 2 0 2 0 2 0 3 0 2 0 2 0 2 0 2 0 2 0 2 0 2 0 3 0 2 0 2 0 2",
      "0 2 0 2 0 2 0 2 0 2 0 2 0 2 0 2 0 2 0 2 0 2 0 2 0 2 0 2 0 2 0 2 0 2 0 2 0 2 0 2 1 2 0 2",
      "0 4 1 2 0 2 1 2 2 3 3 2 1 2 2 4 1 2 1 2 0 2 0 2 1 2 0 3 0 2 1 2 2 2 0 2 1 4 0 8 0 3 0 3",
      "0 3 0 2 0 2 0 2 0 2 0 2 0 2 0 2 0 3 0 2 0 2 0 2 0 2 0 2 0 2 0 2 0 2 0 3 0 3 0 2 2 2 0 2",
      "0 2 0 2 0 2 0 2 0 2 0 2 0 2 0 2 0 2 0 2 0 2 0 2 0 2 0 2 0 2 0 2 0 2 0 2 0 2 0 2 0 2 0 2",
      "0 2 0 2 0 2 0 2 0 2 0 8 1 2 1 3 0 2 3 2 0 2 0 2 0 2 0 290 0 2 0 4 0 9 0 7 0 2 2 2 0 2 1",
      "2 16 2 8 36 0 3 2 4 0 2 0 2 0 2 0 2 0 2 0 2 0 2 0 2 0 2 0 2 0 2 0 6 0 3 0 2 1 3 50 49 0",
      "2 0 2 0 2 0 2 0 2 0 2 0 2 0 2 0 2 0 2 0 2 0 2 0 2 0 2 0 2 0 2 0 10 0 2 0 2 0 2 0 2 0 2",
      "0 2 0 2 0 2 0 2 0 2 0 2 0 2 0 2 0 2 0 2 0 2 0 2 0 2 0 2 0 2 0 2 0 2 0 2 0 2 0 2 0 2 0 2",
      "1 2 0 2 0 2 0 2 0 2 0 2 0 3 0 2 0 2 0 2 0 2 0 2 0 2 0 2 0 2 0 2 0 2 0 2 0 2 0 2 0 2 0 2",
      "0 2 0 2 0 2 0 2 0 2 0 2 0 2 0 2 0 2 0 2 0 2 0 2 0 2 0 2 0 2 0 2 0 2 0 2 0 2 0 2 0 2 0 2",
      "0 2 0 2 0 2 0 2 0 2 0 2 0 2 0 2 0 2 0 2 0 3 37 2890 37 2 0 6 0 723 85 2196 0 7 42 3 2",
      "321 0 2 0 2 0 2 0 2 0 2 0 2 0 2 0 2 0 2 0 2 0 2 0 2 0 2 0 2 0 2 0 2 0 2 0 2 0 2 0 2 0 2",
      "0 2 0 2 0 2 0 2 0 2 0 2 0 2 0 2 0 2 0 2 0 2 0 2 0 2 0 2 0 2 0 2 0 2 0 2 0 2 0 2 0 2 0 2",
      "0 2 0 2 0 2 0 2 0 2 0 2 0 2 0 2 0 2 0 2 0 2 0 2 0 2 0 2 0 2 0 2 0 2 0 2 0 2 0 2 0 2 0 2",
      "0 2 0 2 0 2 0 2 0 2 0 2 0 2 0 2 0 2 0 10 0 2 0 2 0 2 0 2 0 2 0 2 0 2 0 2 0 2 0 2 0 2 0",
      "2 0 2 0 2 0 2 0 2 0 2 0 2 0 2 0 2 0 2 0 2 0 2 0 2 0 2 0 2 0 2 0 2 0 2 0 2 0 2 0 2 0 2 0",
      "2 0 2 0 2 0 2 0 2 0 2 0 2 0 2 0 2 0 2 0 2 0 2 0 2 0 2 0 2 0 10 7 9 5 11 7 9 7 9 5 12 0",
      "2 0 2 0 2 0 9 7 73 3 13 3 13 3 13 4 12 3 263 0 5 0 4 2 3 2 3 0 4 4 7 0 2 0 2 0 2 3 3 3",
      "11 1 6 0 27 15 20 0 819 25 1841 47 49 0 2 2 3 0 2 0 2 0 2 3 2 0 3 0 9 2 2 0 2 0 2 0 2 0",
      "2 0 2 0 2 0 2 0 2 0 2 0 2 0 2 0 2 0 2 0 2 0 2 0 2 0 2 0 2 0 2 0 2 0 2 0 2 0 2 0 2 0 2 0",
      "2 0 2 0 2 0 2 0 2 0 2 0 2 0 2 0 2 0 2 0 2 0 2 0 2 0 2 0 2 0 2 0 2 0 2 0 2 0 2 0 2 0 2 0",
      "2 0 9 0 2 0 5 0 31054 0 2 0 2 0 2 0 2 0 2 0 2 0 2 0 2 0 2 0 2 0 2 0 2 0 2 0 2 0 2 0 2 0",
      "2 0 2 0 2 0 2 0 2 0 2 0 20 0 2 0 2 0 2 0 2 0 2 0 2 0 2 0 2 0 2 0 2 0 2 0 2 0 2 0 136 0",
      "2 0 2 0 2 0 2 0 2 0 2 0 4 0 2 0 2 0 2 0 2 0 2 0 2 0 2 0 2 0 2 0 2 0 2 0 2 0 2 0 2 0 2 0",
      "2 0 2 0 2 0 2 0 2 0 2 0 2 0 2 0 2 0 2 0 2 0 2 0 2 0 2 0 2 0 11 0 2 0 2 1 2 0 2 0 2 0 2",
      "0 5 0 2 0 3 0 2 0 4 0 2 0 2 0 2 0 2 0 2 0 2 0 2 0 2 0 2 0 2 4 2 4 2 0 2 0 2 0 2 0 2 0 2",
      "0 2 0 2 3 2 0 2 1 4 0 6 0 2 0 2 0 2 0 25 0 22316 25 1222 39 137 35 157 10 2 14 2 6 2 1",
      "1771 50 158 21 2875 31 21889 31 26017 25 27 25 27 25 27 0 2 1 3 0 3 1 3 3 2 7 27 25 27",
      "1 2 3 3 7 2 6 28 1 2 3 2 4 2 0 4 6 28 25 27 25 27 25 27 25 27 25 27 25 31 24 34 24 34",
      "24 34 24 34 24 34 0 4406 33 2063 25 7 25 7 25"])
  , (["variationselector", "vs"],
      ["6155 2 2 0 58865 15 852721 239"])
  , (["whitespace", "wspace", "space"],
      ["9 4 19 0 101 0 27 0 5600 0 2432 10 30 1 6 0 48 0 4001 0"])
  , (["xidcontinue", "xidc"],
      ["48 9 8 25 5 0 2 25 48 0 11 0 2 0 3 0 6 22 2 30 2 457 5 11 15 4 8 0 2 0 18 116 2 1 4 2 2",
      "0 7 4 2 0 2 19 2 82 2 138 2 4 3 165 2 37 3 0 7 40 9 44 2 0 2 1 2 1 2 0 9 26 5 3 30 10 6",
      "73 5 101 2 7 3 9 2 18 3 0 17 58 3 100 15 53 5 0 3 0 3 45 19 27 5 10 6 23 2 5 9 74 2 128",
      "3 9 2 18 2 7 3 1 3 21 2 6 2 0 4 3 3 8 3 1 3 3 9 0 5 1 2 4 3 11 11 0 2 0 3 2 2 5 5 1 3",
      "21 2 6 2 1 2 1 2 1 3 0 2 4 5 1 3 2 4 0 8 3 2 0 8 15 12 2 2 8 2 2 2 21 2 6 2 1 2 4 3 9 2",
      "2 2 2 3 0 16 3 3 9 10 6 2 2 2 7 3 1 3 21 2 6 2 1 2 4 3 8 3 1 3 2 8 2 5 1 2 4 3 9 2 0 17",
      "1 2 5 4 2 2 3 4 1 2 0 2 1 4 1 4 2 4 11 5 4 4 2 2 3 3 0 7 0 15 9 17 12 2 2 2 22 2 15 3 8",
      "2 2 2 3 8 1 2 2 3 0 3 3 3 9 17 3 2 7 2 2 2 22 2 9 2 4 3 8 2 2 2 3 8 1 7 1 2 3 3 9 2 2",
      "13 12 2 2 2 50 2 2 2 4 6 3 8 4 3 9 11 5 2 2 2 17 4 23 2 8 2 0 3 6 4 0 5 5 2 0 2 7 7 9 3",
      "1 14 57 6 14 2 9 40 1 2 0 2 4 2 23 2 0 2 22 3 4 2 0 2 6 2 9 3 3 33 0 24 1 7 9 12 0 2 0",
      "2 0 5 9 2 35 5 19 2 17 2 35 10 0 58 73 7 77 3 37 2 0 6 0 3 42 2 332 2 3 3 6 2 0 2 3 3",
      "40 2 3 3 32 2 3 3 6 2 0 2 3 3 14 2 56 2 3 3 66 3 2 10 8 15 15 17 85 3 5 4 619 3 16 2 25",
      "6 74 4 10 8 21 10 21 12 19 13 12 2 2 2 1 13 83 4 0 5 1 3 9 34 2 2 10 7 88 8 42 6 69 11",
      "30 2 11 5 11 11 39 3 4 12 43 5 25 7 10 38 27 5 62 2 28 3 10 7 9 14 0 9 13 2 15 50 76 4",
      "9 18 8 13 115 13 55 9 9 4 48 3 10 6 42 3 2 17 2 2 38 6 533 3 5 3 37 3 5 3 7 2 0 2 0 2 0",
      "2 30 3 52 2 6 2 0 4 2 2 6 4 3 3 5 5 12 6 2 2 6 16 1 50 1 20 0 29 0 14 0 17 12 52 12 5 0",
      "4 11 18 0 5 0 3 9 2 0 3 5 7 0 2 0 2 0 2 15 3 3 6 4 5 0 18 40 2680 228 7 8 13 37 2 0 6 0",
      "3 55 8 0 16 23 10 6 2 6 2 6 2 6 2 6 2 6 2 6 2 6 2 31 518 2 26 14 2 4 3 4 5 85 3 1 3 2 2",
      "94 6 42 2 93 18 31 49 15 513 6591 65 22156 68 45 3 268 4 27 21 47 5 9 2 114 38 8 3 102",
      "3 66 3 1 2 0 2 7 22 53 5 0 20 51 13 69 11 9 7 23 4 0 2 48 3 35 13 28 4 64 15 10 7 30 2",
      "54 10 13 3 9 7 22 4 72 25 2 3 15 3 4 11 5 3 5 3 5 10 6 2 6 2 42 2 13 7 122 2 1 3 9 7",
      "11171 13 22 5 48 8453 365 3 105 39 6 13 4 6 11 2 12 2 4 2 0 2 1 2 1 2 107 34 138 7 217",
      "19 63 3 53 41 9 7 15 17 15 4 1 25 2 34 0 2 0 4 0 2 0 2 0 2 0 2 125 20 9 8 25 5 0 2 25",
      "11 89 4 5 3 5 3 5 3 2 36 11 2 25 2 18 2 1 2 14 3 13 35 122 70 52 137 0 131 28 4 48 16 0",
      "32 31 14 29 6 42 6 29 3 35 5 7 2 4 43 157 3 9 7 35 5 35 5 39 9 51 13 10 2 14 2 6 2 1 2",
      "10 2 14 2 6 2 1 4 51 13 310 10 21 11 7 25 5 2 41 2 8 70 5 3 0 2 43 2 1 4 0 3 22 11 22",
      "10 30 66 18 2 1 11 21 11 25 71 55 7 1 65 3 2 1 6 7 2 2 2 28 3 2 5 0 33 28 4 28 36 7 2",
      "29 26 53 11 21 11 18 14 17 111 72 56 50 14 50 14 39 9 9 7 37 4 4 2 22 251 41 2 1 4 1 17",
      "2 56 32 11 0 9 32 32 21 43 20 28 22 10 70 32 15 10 59 8 0 14 24 8 9 7 52 2 9 5 3 9 35 3",
      "0 10 68 5 3 2 12 2 0 36 17 2 36 7 3 63 6 2 0 2 3 2 14 2 9 8 58 6 9 7 3 2 7 3 1 3 21 2 6",
      "2 1 2 4 2 9 3 1 3 2 3 0 7 0 6 6 3 6 4 4 12 9 2 0 3 0 2 37 2 9 2 0 3 0 2 3 2 7 14 1 30",
      "74 6 9 5 3 31 69 2 0 9 9 167 53 3 8 24 5 35 64 4 0 12 9 39 56 8 9 7 19 29 26 3 14 5 9 7",
      "6 186 58 102 73 22 7 3 0 3 7 2 1 2 29 2 1 3 8 13 9 71 7 3 45 3 7 2 1 28 62 9 0 9 73 4 0",
      "19 72 200 32 16 9 7 8 2 44 2 8 16 9 25 29 3 21 2 13 74 6 2 1 2 43 4 0 2 1 2 8 9 9 7 5 2",
      "1 2 36 2 1 2 5 8 9 311 22 10 16 2 40 4 4 14 10 86 0 80 921 103 110 18 195 2637 96 16",
      "1071 17 21 11 3994 6 582 6842 57 1735 568 8 30 2 9 7 78 2 9 7 29 3 4 12 54 10 3 13 9 10",
      "20 6 18 433 44 4 9 199 63 129 74 5 56 8 16 65 1 2 1 12 1 15 6135 9 1237 42 9 8936 3 2 6",
      "2 1 2 290 16 0 30 2 3 0 15 3 9 395 2309 106 6 12 4 8 8 9 4 1 4178 9 519 45 3 22 543 4 4",
      "5 9 7 3 6 31 3 149 2 444 84 2 70 2 1 3 0 3 1 3 3 2 11 2 0 2 6 2 64 2 3 3 7 2 6 2 27 2 3",
      "2 4 2 0 4 6 2 339 3 24 2 24 2 30 2 24 2 30 2 24 2 30 2 24 2 30 2 24 2 7 3 49 513 54 5",
      "49 9 0 15 0 23 4 2 14 1105 30 7 5 214 6 2 16 3 6 2 1 2 4 6 61 34 0 113 44 4 13 3 9 5 0",
      "322 30 18 57 471 41 215 42 486 6 2 3 2 1 2 14 2 196 12 6 42 75 5 9 1191 3 2 26 2 1 2 0",
      "3 0 2 9 2 3 2 0 2 0 7 0 5 0 2 0 2 0 2 2 2 1 2 0 3 0 2 0 2 0 2 0 2 0 2 1 2 0 3 3 2 6 2 3",
      "2 3 2 0 2 9 2 16 6 2 2 4 2 16 3381 9 1031 42719 33 4153 7 221 3 5761 15 7472 16 621",
      "2467 541 1507 4938 6 4191 712017 239"])
  , (["xidstart", "xids"],
      ["65 25 7 25 48 0 11 0 5 0 6 22 2 30 2 457 5 11 15 4 8 0 2 0 130 4 2 1 4 2 2 0 7 0 2 2 2",
      "0 2 19 2 82 2 138 9 165 2 37 3 0 7 40 72 26 5 3 46 42 36 1 2 98 2 0 16 1 8 1 11 2 3 0",
      "17 0 2 29 30 88 12 0 25 32 10 1 5 0 6 21 5 0 10 0 4 0 24 24 8 10 6 23 2 5 18 41 59 53 4",
      "0 19 0 8 9 16 15 5 7 3 1 3 21 2 6 2 0 4 3 4 0 17 0 14 1 2 2 15 1 11 0 9 5 5 1 3 21 2 6",
      "2 1 2 1 2 1 32 3 2 0 20 2 17 8 2 2 2 21 2 6 2 1 2 4 4 0 19 0 16 1 24 0 12 7 3 1 3 21 2",
      "6 2 1 2 4 4 0 31 1 2 2 16 0 18 0 2 5 4 2 2 3 4 1 2 0 2 1 4 1 4 2 4 11 23 0 53 7 2 2 2",
      "22 2 15 4 0 27 2 3 0 3 1 31 0 5 7 2 2 2 22 2 9 2 4 4 0 32 1 2 1 16 1 18 8 2 2 2 40 3 0",
      "17 0 6 2 9 2 25 5 6 17 4 23 2 8 2 0 3 6 59 47 2 0 14 6 59 1 2 0 2 4 2 23 2 0 2 9 2 0 11",
      "0 3 4 2 0 22 3 33 0 64 7 2 35 28 4 116 42 21 0 17 5 5 3 4 0 4 1 8 2 5 12 13 0 18 37 2 0",
      "6 0 3 42 2 332 2 3 3 6 2 0 2 3 3 40 2 3 3 32 2 3 3 6 2 0 2 3 3 14 2 56 2 3 3 66 38 15",
      "17 85 3 5 4 619 3 16 2 25 6 74 4 10 8 17 14 18 15 17 15 12 2 2 16 51 36 0 5 0 68 88 8",
      "40 2 0 6 69 11 30 50 29 3 4 12 43 5 25 55 22 10 52 83 0 94 46 18 7 55 29 14 1 11 43 27",
      "35 42 2 11 35 3 10 6 42 3 2 42 3 2 5 2 1 4 0 6 191 65 277 3 5 3 37 3 5 3 7 2 0 2 0 2 0",
      "2 30 3 52 2 6 2 0 4 2 2 6 4 3 3 5 5 12 6 2 2 6 117 0 14 0 17 12 102 0 5 0 3 9 2 0 3 5 7",
      "0 2 0 2 0 2 15 3 3 6 4 5 0 18 40 2680 228 7 3 4 1 13 37 2 0 6 0 3 55 8 0 17 22 10 6 2 6",
      "2 6 2 6 2 6 2 6 2 6 2 6 551 2 26 8 8 4 3 4 5 85 7 2 2 89 2 3 6 42 2 93 18 31 49 15 513",
      "6591 65 22156 68 45 3 268 4 15 11 1 21 46 17 30 3 79 40 8 3 102 3 66 3 1 2 0 2 7 22 15",
      "2 2 2 3 2 22 30 51 15 49 63 5 4 0 2 1 12 27 11 22 26 28 8 46 29 0 17 4 2 9 11 4 2 40 24",
      "2 2 7 21 22 4 0 4 49 2 0 4 1 3 4 3 0 2 0 25 2 3 10 8 2 13 5 3 5 3 5 10 6 2 6 2 42 2 13",
      "7 114 30 11171 13 22 5 48 8453 365 3 105 39 6 13 4 6 0 2 9 2 12 2 4 2 0 2 1 2 1 2 107",
      "34 138 7 217 19 63 3 53 41 9 120 0 2 0 4 0 2 0 2 0 2 0 2 125 37 25 7 25 12 55 3 30 4 5",
      "3 5 3 5 3 2 36 11 2 25 2 18 2 1 2 14 3 13 35 122 70 52 268 28 4 48 48 31 14 29 6 37 11",
      "29 3 35 5 7 2 4 43 157 19 35 5 35 5 39 9 51 13 10 2 14 2 6 2 1 2 10 2 14 2 6 2 1 4 51",
      "13 310 10 21 11 7 25 5 2 41 2 8 70 5 3 0 2 43 2 1 4 0 3 22 11 22 10 30 66 18 2 1 11 21",
      "11 25 71 55 7 1 65 0 16 3 2 2 2 28 43 28 4 28 36 7 2 27 28 53 11 21 11 18 14 17 111 72",
      "56 50 14 50 14 35 39 27 10 22 251 41 7 1 17 2 60 28 11 0 9 21 43 17 47 20 28 22 13 52",
      "58 1 3 0 14 44 33 24 27 35 30 0 3 0 9 34 4 0 13 47 15 3 22 0 2 0 36 17 2 24 20 1 64 6 2",
      "0 2 3 2 14 2 9 8 46 39 7 3 1 3 21 2 6 2 1 2 4 4 0 19 0 13 4 31 9 2 0 3 0 2 37 2 0 26 0",
      "2 0 45 52 19 3 21 2 31 47 21 1 2 0 185 46 42 3 37 47 21 0 60 42 14 0 72 26 38 6 186 43",
      "117 63 32 7 3 0 3 7 2 1 2 23 16 0 2 0 95 7 3 38 17 0 2 0 29 0 11 39 8 0 22 0 12 45 20 0",
      "19 72 200 32 32 8 2 36 18 0 50 29 113 6 2 1 2 37 22 0 26 5 2 1 2 31 15 0 328 18 16 0 2",
      "12 2 33 125 0 80 921 103 110 18 195 2637 96 16 1071 18 5 26 3994 6 582 6842 29 1763 568",
      "8 30 18 78 18 29 19 47 17 3 32 20 6 18 433 44 212 63 129 74 6 0 67 12 65 1 2 0 29 6135",
      "9 1237 42 9 8936 3 2 6 2 1 2 290 16 0 30 2 3 0 15 3 9 395 2309 106 6 12 4 8 8 9 5991 84",
      "2 70 2 1 3 0 3 1 3 3 2 11 2 0 2 6 2 64 2 3 3 7 2 6 2 27 2 3 2 4 2 0 4 6 2 339 3 24 2 24",
      "2 30 2 24 2 30 2 24 2 30 2 24 2 30 2 24 2 7 1845 30 7 5 262 61 147 44 11 6 17 0 322 29",
      "19 43 485 27 229 29 3 0 496 6 2 3 2 1 2 14 2 196 60 67 8 0 1205 3 2 26 2 1 2 0 3 0 2 9",
      "2 3 2 0 2 0 7 0 5 0 2 0 2 0 2 2 2 1 2 0 3 0 2 0 2 0 2 0 2 0 2 1 2 0 3 3 2 6 2 3 2 3 2 0",
      "2 9 2 16 6 2 2 4 2 16 4421 42719 33 4153 7 221 3 5761 15 7472 16 621 2467 541 1507 4938",
      "6 4191"]) ]

end Catalog.Unicode

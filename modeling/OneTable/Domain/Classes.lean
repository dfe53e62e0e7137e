import OneTable.Text.Classes
import OneTable.Text.Table

/-!
# Classes of characters in domains

Marks, the directions in which characters are written and the sides on which letters join their
neighbours. Only characters that a domain holds are told apart.
-/

namespace OneTable.Domain

/-- The mark takes no room of its own. -/
def isNonspacing (c : Char) : Bool := Text.inClass Text.markBounds c

def spacingMarkBounds : List Nat := Text.boundaries
  "903 904 93b 93c 93e 941 949 94d 94e 950 982 985 9be 9c1 9c7 9cd 9d7 9e0 a03 a05 a3e a41 a83 a85
  abe ac1 ac9 acd b02 b05 b3e b3f b40 b41 b47 b4d b57 b5f bbe bc0 bc1 bcd bd7 be6 c01 c04 c41 c46
  c82 c84 cbe cbf cc0 cc6 cc7 ccc cd5 cdc cf3 d00 d02 d04 d3e d41 d46 d4d d57 d58 d82 d85 dcf dd2
  dd8 de6 df2 df4 f3e f40 f7f f80 102b 102d 1031 1032 1038 1039 103b 103d 1056 1058 1062 1065
  1067 106e 1083 1085 1087 108d 108f 1090 109a 109d 1715 171f 1734 1735 17b6 17b7 17be 17c6 17c7
  17c9 1923 1927 1929 1932 1933 1939 1a19 1a1b 1a55 1a56 1a57 1a58 1a61 1a62 1a63 1a65 1a6d 1a73
  1b04 1b05 1b35 1b36 1b3b 1b3c 1b3d 1b42 1b43 1b45 1b82 1b83 1ba1 1ba2 1ba6 1ba8 1baa 1bab 1be7
  1be8 1bea 1bed 1bee 1bef 1bf2 1bfc 1c24 1c2c 1c34 1c36 1ce1 1ce2 1cf7 1cf8 302e 3030 a823 a825
  a827 a828 a880 a882 a8b4 a8c4 a952 a95f a983 a984 a9b4 a9b6 a9ba a9bc a9be a9c1 aa2f aa31 aa33
  aa35 aa4d aa50 aa7b aa7c aa7d aa7e aaeb aaec aaee aaf0 aaf5 aaf6 abe3 abe5 abe6 abe8 abe9 abeb
  abec abed 11000 11001 11002 11003 11082 11083 110b0 110b3 110b7 110b9 1112c 1112d 11145 11147
  11182 11183 111b3 111b6 111bf 111c1 111ce 111cf 1122c 1122f 11232 11234 11235 11236 112e0 112e3
  11302 11305 1133e 11340 11341 11350 11357 1135d 11362 11366 113b8 113bb 113c2 113ce 113cf 113d0
  11435 11438 11440 11442 11445 11446 114b0 114b3 114b9 114ba 114bb 114bf 114c1 114c2 115af 115b2
  115b8 115bc 115be 115bf 11630 11633 1163b 1163d 1163e 1163f 116ac 116ad 116ae 116b0 116b6 116b7
  1171e 1171f 11720 11722 11726 11727 1182c 1182f 11838 11839 11930 1193b 1193d 1193e 11940 11941
  11942 11943 119d1 119d4 119dc 119e0 119e4 11a00 11a39 11a3a 11a57 11a59 11a97 11a98 11b61 11b62
  11b65 11b66 11b67 11bc0 11c2f 11c30 11c3e 11c3f 11ca9 11caa 11cb1 11cb2 11cb4 11cb5 11d8a 11d90
  11d93 11d95 11d96 11d97 11ef5 11ef7 11f03 11f04 11f34 11f36 11f3e 11f40 11f41 11f42 1612a 1612d
  16f51 16f8f 16ff0 16ff2 1d165 1d167 1d16d 1d17b"

def isMark (c : Char) : Bool := isNonspacing c || Text.isWithin spacingMarkBounds c.toNat

/-! ### Directions -/

inductive Direction
  | left
  | right
  /-- A digit of the numbers that go with Arabic. -/
  | arabicDigit
  | digit
  | neutral
  /-- It is written in the direction of the character before it. -/
  | mark
deriving DecidableEq, Repr

/-- From each code point on: 0 from left to right, 1 from right to left, 2 an Arabic digit, 3
another digit, 4 neutral. -/
def directionSteps : List (Nat × Nat) := Text.steps
  "a1:4 df:0 f7:4 f8:0 2b9:4 2bb:0 2c2:4 2d0:0 2d2:4 2ee:0 2ef:4 371:0 375:4 377:0 3f6:4 3f8:0
  58a:4 5be:1 606:4 608:1 609:4 60b:1 60c:4 60d:1 60e:4 61b:1 660:2 66a:4 66b:2 66d:1 6de:4 6e5:1
  6e9:4 6ee:1 6f0:3 6fa:1 7f6:4 7fa:1 903:0 9f2:4 9f4:0 9fb:4 9fc:0 af1:4 af9:0 bf3:4 c01:0 c78:4
  c7f:0 e3f:4 e40:0 f3a:4 f3e:0 1390:4 13a0:0 1400:4 1401:0 169b:4 16a0:0 17db:4 17dc:0 17f0:4
  1810:0 1940:4 1946:0 19de:4 1a00:0 200c:4 214e:0 218a:4 2336:0 237b:4 2395:0 2396:4 26ac:0
  26ad:4 2800:0 2900:4 2c30:0 2ce5:4 2cec:0 2cf9:4 2d00:0 2e00:4 3005:0 3008:4 3021:0 3030:4
  3031:0 3037:4 303b:0 303d:4 3041:0 30a0:4 30a1:0 30fb:4 30fc:0 31c0:4 31f0:0 4dc0:4 4e00:0
  a490:4 a4d0:0 a60d:4 a610:0 a673:4 a681:0 a700:4 a723:0 a788:4 a789:0 a828:4 a830:0 a838:4
  a840:0 a874:4 a880:0 ab6a:4 abc0:0 fbb2:1 fbc3:4 fe73:1 10000:0 10101:4 10102:0 10140:4 1018d:0
  10190:4 101d0:0 102e1:3 10300:0 10800:1 1091f:4 10920:1 10b39:4 10b40:1 10d30:2 10d40:1 10d6e:4
  10d6f:1 10e60:2 10e80:1 10ed0:4 10f00:1 11000:0 11052:4 11066:0 11660:4 11680:0 11fd5:4 11fff:0
  16fe2:4 16fe3:0 1cc00:4 1cf50:0 1d1e9:4 1d2c0:0 1d300:4 1d360:0 1e2ff:4 1e4d0:0 1e800:1 1eef0:4
  1f150:0 1f16d:4 1f170:0 1f1ad:4 1f1e6:0 1f260:4 20000:0"

/-- Marks that are written from left to right all the same. -/
def directedMarks : List Nat := [0xcbf, 0xcc6, 0x11a07, 0x11a08, 0x11c3f]

def Direction.of (c : Char) : Direction :=
  if c.toNat < 0x80 then if c.isAlpha then .left else if c.isDigit then .digit else .neutral
  else if isNonspacing c && !directedMarks.contains c.toNat then .mark
  else match Text.stepAt directionSteps c.toNat with
    | 0 => .left
    | 1 => .right
    | 2 => .arabicDigit
    | 3 => .digit
    | _ => .neutral

/-! ### Joining -/

/-- From each code point on: 0 a letter that joins no neighbour, 1 both, 2 the next, 3 the one
before. -/
def joiningSteps : List (Nat × Nat) := Text.steps
  "620:1 621:0 622:3 626:1 627:3 628:1 629:3 62a:1 62f:3 633:1 640:0 641:1 648:3 649:1 660:0 66e:1
  671:3 674:0 679:1 688:3 69a:1 6c0:3 6c1:1 6c3:3 6cc:1 6cd:3 6ce:1 6cf:3 6d0:1 6d2:3 6d4:0 6d5:3
  6de:0 6ee:3 6f0:0 6fa:1 6fd:0 6ff:1 700:0 710:3 712:1 715:3 71a:1 71e:3 71f:1 728:3 729:1 72a:3
  72b:1 72c:3 72d:1 72f:3 74e:1 759:3 75c:1 76b:3 76d:1 771:3 772:1 773:3 775:1 778:3 77a:1 780:0
  7ca:1 7f4:0 840:3 841:1 846:3 848:1 849:3 84a:1 854:3 855:1 856:3 85e:0 860:1 861:0 862:1 866:0
  867:3 868:1 869:3 883:0 886:1 887:0 889:1 88e:3 88f:1 8aa:3 8ad:0 8ae:3 8af:1 8b1:3 8b3:1 8b9:3
  8ba:1 8c9:0 1807:1 1808:0 1820:1 1880:0 1887:1 18b0:0 a840:1 a872:2 a873:0 10ac0:1 10ac5:3
  10ac6:0 10ac7:3 10ac8:0 10ac9:3 10acb:0 10acd:2 10ace:3 10ad3:1 10ad7:2 10ad8:1 10add:3 10ade:1
  10ae1:3 10ae2:0 10ae4:3 10aeb:1 10aef:3 10af0:0 10b80:1 10b81:3 10b82:1 10b83:3 10b86:1 10b89:3
  10b8a:1 10b8c:3 10b8d:1 10b8e:3 10b90:1 10b91:3 10b99:0 10ba9:3 10bad:1 10baf:0 10d00:2 10d01:1
  10d22:3 10d23:1 10d30:0 10ec2:3 10ec3:1 10ec5:0 10ec6:1 10ed0:0 10f30:1 10f33:3 10f34:1 10f45:0
  10f51:1 10f54:3 10f55:0 10f70:1 10f74:3 10f76:1 10f86:0 10fb0:1 10fb1:0 10fb2:1 10fb4:3 10fb7:0
  10fb8:1 10fb9:3 10fbb:1 10fbd:3 10fbe:1 10fc0:0 10fc1:1 10fc2:3 10fc4:1 10fc5:0 10fc9:3 10fca:1
  10fcb:2 10fe0:0 1e922:1 1e94b:0"

def joinsNext (c : Char) : Bool :=
  let joining := Text.stepAt joiningSteps c.toNat
  joining == 1 || joining == 2

def joinsPrevious (c : Char) : Bool :=
  let joining := Text.stepAt joiningSteps c.toNat
  joining == 1 || joining == 3

end OneTable.Domain

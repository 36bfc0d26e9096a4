import Codebook.Text.CharTable

/-!
# Lower case

`lower` maps every character to its lower-case form, one by one, with the two exceptions of the
character standard: a dotted capital I becomes two characters, and a capital sigma becomes a final
sigma where it ends a word.
-/

namespace Codebook.Text

/-- The runs that numbers write, two for each. The first is a hundred times how many code points stand
between the run before and this one, and how many letters it has after its first. The second is four
times what to add for the lower-case letter; two more stands for a sign, and one more for a run of every
second code point. -/
def runsFrom (next : Nat) : List Nat → List (Nat × Nat × Nat × Int)
  | place :: change :: ns =>
    let first := next + place / 100
    let step := change % 2 + 1
    let last := first + place % 100 * step
    let amount : Int := change / 4
    (first, last, step, if change / 2 % 2 == 0 then amount else -amount) :: runsFrom (last + 1) ns
  | _ => []

/-- Upper-case letters beyond ASCII by runs: from, to, step, and what to add for the lower-case
letter. -/
def lowerRuns : Array (Nat × Nat × Nat × Int) := List.toArray <| runsFrom 128 [
  6422, 128, 106, 128, 3323, 5, 302, 5, 207, 5, 222, 5, 100, 486, 2, 5, 300, 840, 1, 5, 100, 824, 0,
  4, 101, 820, 0, 4, 200, 316, 0, 808, 0, 812, 0, 4, 100, 820, 0, 828, 100, 844, 0, 836, 0, 4, 300,
  844, 0, 852, 100, 856, 2, 5, 100, 872, 0, 4, 100, 872, 200, 4, 100, 872, 0, 4, 101, 868, 1, 5,
  100, 876, 0, 4, 300, 4, 700, 8, 0, 4, 100, 8, 0, 4, 100, 8, 8, 5, 208, 5, 200, 8, 1, 5, 100, 390,
  0, 226, 19, 5, 100, 522, 108, 5, 700, 43180, 0, 4, 100, 654, 0, 43168, 200, 4, 100, 782, 0, 276,
  0, 284, 4, 5, 28901, 5, 300, 4, 800, 464, 600, 152, 102, 148, 100, 256, 101, 252, 116, 128, 108,
  128, 3500, 32, 811, 5, 500, 242, 200, 4, 100, 30, 0, 4, 202, 522, 15, 320, 31, 128, 4816, 5, 926,
  5, 100, 60, 6, 5, 247, 5, 237, 192, 288937, 29056, 100, 29056, 500, 29056, 72279, 155456, 5, 32,
  220242, 12034, 202, 12034, 32074, 5, 900, 30462, 147, 5, 907, 34, 805, 34, 1007, 34, 807, 34, 805,
  34, 1103, 35, 807, 34, 2407, 34, 807, 34, 807, 34, 801, 34, 1, 298, 0, 38, 1103, 346, 0, 38, 1101,
  34, 1, 402, 1201, 34, 1, 450, 0, 30, 1101, 514, 1, 506, 0, 38, 29700, 30070, 300, 33534, 0, 33050,
  600, 112, 4515, 64, 1900, 4, 81825, 104, 184047, 192, 4800, 4, 100, 42974, 0, 15258, 0, 42910,
  202, 5, 100, 43122, 0, 42998, 0, 43134, 0, 43130, 100, 4, 200, 4, 801, 43262, 49, 5, 801, 5, 400,
  4, 3105322, 5, 1913, 5, 13506, 5, 330, 5, 1001, 5, 100, 141330, 4, 5, 400, 4, 100, 169122, 201, 5,
  309, 5, 100, 169234, 0, 169278, 0, 169262, 0, 169222, 0, 169234, 100, 169034, 0, 169130, 0,
  169046, 0, 3712, 7, 5, 100, 194, 0, 169230, 0, 141538, 1, 5, 600, 4, 501, 5, 2800, 4, 2231525,
  128, 122139, 160, 13635, 160, 15610, 156, 114, 156, 106, 156, 101, 156, 177050, 256, 305331, 128,
  2188831, 128, 3139233, 136]

/-- Characters beyond ASCII that case mapping looks through: marks, modifiers, apostrophes. -/
def caseIgnorable : CharTable := .ofLengths "
X040104021lCe?41409110fO6eO050b5b010111110b00;5::10S0:D@0c=71913Q010NJc3:b>:4020HG[2b007167Yb=b;0104
74036:1=0?0b>04380D1J021b=041412230N130;1b=0441140D1F510b>020138071;1N0bA0<0b6030b;012521371;1M0b>02
06051D1L1b=14380D1M0bL07210c2026;8c:0289015bN1K01010b;=14115:1S90c>3151121I142@3=02160?0c60nT2vF2M1N
1N1bD116802:3050b14b70bE1R0cN2419062e[120b>0161010276920W08Nb53b40141050X8<1P32112b<0113012b>721bD5b
V21<16406031b6bB=0Rc<k5012;2=2=2=1<481:02024b541910=0@<b7Pcp71cI2cU0?0c8Ob30kM0T33450c55c52yw>0bcB5g
60c:31910L3bT1>QbR0G2c?231803040I150dC1JA=0V7I:b22b402321A0E1bF52121<080S0;0b7012215110K0>15110c<492
cQ02040rsP0d?@n1?30<?R020dU07060;0S010b30b11bG0E2lM0f60dA4xA51Y18n:21153X240dQ1n13iS1dE:b53cS0b:>Y02
1:2b53212040:0b62T417bB0<1b88:320c72201160dL037E1b=130U634eC72210G0bX5104111fB36111K1bY72011cB010251
0c=22314fW811fT11040d<32140P9X523809522b2<11j:61510bVE261111cR530111610bL13010hW1etG8mg?4b?693xG0bC@
bD111oiK31611cvB113ecTb12Fm@29?26N3d@2bs[b:4b580>0F41>beX61@261114fY=i@0bA3bi86cE7ck74baod=0Nc7cXfC"

/-- Characters beyond ASCII that have case. -/
def casedLetter : CharTable := .ofLengths "
Z0:0405F1N1eB134eO1Je@32132106012101C1bV1d68dQ1U9XcmGU10502Z22p<bY25bxF87Z22bD[bC<1Qc=g=252U25271010
101N2b81610321633254<5216fY040291034601010131540235440AO31sIb7bp:cS2c>6331<U1050bbcBb1BKd2bQ1F331b>5
11014K130sMZ587bSrt46<4xEI6Ibb1bSc8S4ScL:1>16111:1>1611bn?b6=b6cpYbCtcPbCwsHbX1bJ112021231;10161bD13
27161K131410361hO2H1H1N1H1N1H1N1H1N1H17bpX91CcfEbGbu4I6I6I"

/-- Characters that do not count when the end of a word is looked for. -/
def isCaseIgnorable (c : Char) : Bool :=
  if c.toNat < 128 then c == '\x27' || c == '.' || c == ':' || c == '^' || c == '\x60'
  else caseIgnorable.contains c

/-- Letters that have case. -/
def isCased (c : Char) : Bool :=
  if c.toNat < 128 then c.isAlpha else casedLetter.contains c

/-- The lower-case form of one character, the two exceptions apart. -/
def lowerChar (c : Char) : Char :=
  if c.toNat < 128 then c.toLower
  else
    match lowerRuns.find? fun r =>
      r.1 ≤ c.toNat && c.toNat ≤ r.2.1 && (c.toNat - r.1) % r.2.2.1 == 0 with
    | some r => Char.ofNat (Int.toNat (c.toNat + r.2.2.2))
    | none => c

/-- The first character that counts, if any, has case. -/
def casedAfter (cs : List Char) : Bool :=
  match cs.dropWhile isCaseIgnorable with
  | c :: _ => isCased c
  | [] => false

/-- Lower case of a text whose preceding characters are `before`, nearest first. -/
def lowerFrom (before : List Char) : List Char → List Char
  | [] => []
  | c :: cs =>
    let out :=
      if c == '\u03a3' then
        if casedAfter before && !casedAfter cs then ['\u03c2'] else ['\u03c3']
      else if c == '\u0130' then ['i', '\u0307']
      else [lowerChar c]
    out ++ lowerFrom (c :: before) cs

/-- The lower-case form of a text. -/
def lower (s : String) : String :=
  String.ofList (lowerFrom [] s.toList)

end Codebook.Text

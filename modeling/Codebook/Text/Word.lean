import Codebook.Text.CharTable

/-!
# Word characters

A word character is a letter, a digit or numeral of any script, or the underscore. Docstring entries
name their parameters by runs of word characters, and patterns speak of them as one class.
-/

namespace Codebook.Text

/-- The letters, digits and numerals beyond ASCII. -/
def letterOrNumeral : CharTable := .ofLengths "
Z0711031121F1N1kA4;>47010cY41123106012101C1bV1d68dQ1U206XbKJ43b1ZE9411c:10?17>20@01MMc0;0>Z91405E409
030GH7:5G15AYb>b930B079491?47212E16103330@0=1124;252085412E16111111O3107922@8121E16111430B0?14990;72
12E16111430N1124916;015321331101131323;F0E<B7121F1?30J2202149861047121F191430O1114911A8121X20@052194
B155A3G181026O9Ab311<699W110141G1019119024109923P0OC<71SK4cKZD:65433031724<<0196U10502Z1hH132610132X
132P132610132>1b<132bF>C3?@bY253o32@1I5bN3:7A=B>A><12?b7S0403969F96c0742Q105bI:NWW24;[4I6:UF9b8[969=
0c5b2A739YM=b;JSL93b4287Z22Y31511305e?bDg=252U25271010101N2b81610321633254<5216cK1255:6<c=0402910346
01010131:2354401b=qFb?bREo>MzPf86331902U10502b;70@F9616161616161616bT0kM2I874244bY621c1135Z1c533:Ob4
?P9N71>P9W>h<ftSbDtjHbGb12g43KDb2@N2bSW82c>2bC511014H?12131F=5:b7>b5L9H530111U:FIL7b2L:641H1XG217496
F303b51031242010H22:72<5252596161Z1=6cJ=96jtW<F4b4hk4i=2cAV6<450191<141011111cCQi:BbC2b9X;cL41d2C97I
6I;c035252522S;1I1B111>2=RcR<b0<b<A1fHL3b4@J4S9M5U:M2S4714ZdI296S4S4W8b7<:1>16111:1>1611bGh29E:7H51Y
18bI5201[11302F2N2U88b4B115P4IbJb;4C2b2?3121L:8GN1OP71K64@b9:E2J5IG6bTbLb;b6=b67Y<9gNN1Y61bRW8E;3KAb
2KDF<b8JM1120=b0PH799S?940208R30<b3>3;:104C;A1HbX610131>197b2A9;7212E16111430B0<4dJb8B35952Nb3D11089
dRb2Y3Tb3D0;9VZ=079b:JE;46e9[cLbV<72027111G?010>9bJ72V@010L0:W70E0;b1C0BbLf[81TA0?L5McH6111UE0996511
1O>079h2Be=0?D[uYc>cFAeCchXc8?y>do1n:ho9mX7N196bR196MBb3@3<9161D5BpLbZcAbN50bF<bD110LfjC8bc5Z8hv3316
111gJb12A38i[caDcB5<3879ezJCcDHd3bX1bJ112021231;10161bD1327161K131410361hO2H1H1N1H1N1H1N1H1N1H172b5b
oPNkYb0:62940h=MB[49bcF613111>1eD28b4bG7049r[b>1213bPb01>eB31J11102019131010604010101211102010101010
11102316131310191@52141@n8<cl?9xBbliWPdq@7f12faY>gnTcsGm=bi:ei:"

/-- The decimal digits beyond ASCII. -/
def decimalDigit : CharTable := .ofLengths "
bi89d29eF9j@9cN9cN9cN9cN9cN9cN9cN9cN9cN9c89cN9bJ9g>9bJ9bq>9V9gT9cX9dR969e69bZ9d2969bevJ9pB9V9eF9F9bZ
9j:9spB9bg69bxJ9sD9cX9b@9d<9g>9hR9cN9iF9c>9c>9jJ9c>9r:9fJ9bJ9re>9bZ9d29yh0b5cbT9jJ9bkV9ee69"

/-- A decimal digit of any script. -/
def isDecimal (c : Char) : Bool :=
  c.isDigit || (128 ≤ c.toNat && decimalDigit.contains c)

/-- Letters and numerals of any script. -/
def isLetterOrNumeral (c : Char) : Bool :=
  c.isAlphanum || (128 ≤ c.toNat && letterOrNumeral.contains c)

/-- A letter, a numeral or the underscore. -/
def isWord (c : Char) : Bool :=
  c == '_' || isLetterOrNumeral c

end Codebook.Text

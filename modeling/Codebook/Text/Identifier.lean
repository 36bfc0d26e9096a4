import Codebook.Text.CharTable

/-!
# Identifiers

An identifier starts with a letter or an underscore and continues with letters, digits, marks and
connectors, in the sense of the identifier properties of the character standard.
-/

namespace Codebook.Text

/-- The characters beyond ASCII that may start an identifier. -/
def identifierStart : CharTable := .ofLengths "
Z0:0405F1N1kA4;>47010cY41132106012101C1bV1d68dQ1U206XbKJ43b1ZS11c:10?171:220@01MMc0;0HP91405E409030G
H7:5G15AYb>b930B079??47212E16103330@0=112>1:085412E16111111O310C2@8121E16111430B0?1G0;7212E16111430N
112?0A015321331101131323;F0b87121F1?30J22021N047121F191430O111?1A8121X20@05282H55A3G181026b>b310=6b>
110141G101910:02410E3P0bC71SK4cKZD0@5433031724<<0AU10502Z1hH132610132X132P132610132>1b<132bFU?@bY253
o32@1I5bN3:7A=B>A><12?b7S040bGc07X105bI:Nb5M24;[4Ib:F9b8bV0c5b2A7b:M=1:[JSY2:S287Z22Y31511305e?bDg=2
52U25271010101N2b81610321633254<5216cL0=0@<c=0402910256010101?235440AXciWf86331<U10502b;70@F96161616
16161616mF2I874244bY621c1135Z1c5AOb4?lLftSbDtjHbGb12g43?:1Db2@N2bSW82c>2bC511014H?12131FMb7>b5bB5301
1;K:FIL7b2L0@419:41XG217DF303b51031242010H22:72<5252596161Z1=6cJMjtW<F4b4hk4i=2cAV6<450191<141011111
cCQd66eYBbC2b9X9cO010301010101cUTI6I;b;2N35252522S;1I1B111>2=RcRbIb8g3L3b4b3O=M5U:M2S4714ZdIBS4S4W8b
7<:1>16111:1>1611bGh29E:7H51Y18bI5201[11302F:F9NbEB11:E:IbJb;61bD0?3121LZL3LS71KKb9:E:B=AcFbLb;b6=b6
=ShXY61bRL:08EZAb2DKF<b8b=120=b0PHJSM0208R30<b3>3E010SA1HbX610131>197b2V7212E16111430B0<4dJb8B3D2Nb3
D110e8b2Y3Tb3D0b?Z=0bKJU6e9[cLbCO72027111G?010c672V@010L0:W70E0;b1C0BbLf[81TA0b5McH6111UE0I5111O>0hC
Be=0bSuYc>cFAeCchXc8?y>do1n:ho9mX7NAbRAMBb3@3OD5BpLbCcXbN50bF<bD110LfjC8bc5Z8hv3316111gJb12A38i[caDc
B5<3879fg6bX1bJ112021231;10161bD1327161K131410361hO2H1H1N1H1N1H1N1H1N1H17bpXNkYb0:6@0h=MB[bcT613111>
1eDb?bG70bb@31J1110201913101060401010121110201010101011102316131310191@52141@dwDbliWPdq@7f12faY>gnTc
sGm=bi:ei:"

/-- The characters beyond ASCII that may stand in an identifier, but not at its start. -/
def identifierOnlyInside : CharTable := .ofLengths "
b;0n<cGG0fO4g1b010111110bL:b4N60c=625211329G0NJc3:?9Q890H3181214[2b@7ZG1Pb:21A16:129A2b<016212290:12
9>022b<014412230D;30;2b<0171212D129:512b<016212272:129B0b?4321390>9@4b;016121371;129A2b<016121371;12
9@3b;116121390:129A2bJ04510176921bA017<719b[019;529bB169;0101041b5C115:1S90c<C19<342122633=;1>p[298v
43L2M1N1bDO9029Q21:d;0cN;4;:9cX:b@4b=91L2:69F=1?b54b3@;9A8<2N<29b0=b4C8969cN21D406022eFbCn31C0cS<403
;crR2d90c8OmJ5cA1bahQ9bI049P1bT1g803040G440bW1b6A:96A=:L7I<b03b3=?9;0:9b3=<08129Q2b6012215110Y451f@7
1129rsD0qQ?@?31H2e@9U0c61nQ0f60dA4gM9bf321153X240dQ1n1389iA1dE:b53cR2b9>O:21:3b1:70b1962T=1951b00<2b
4=831;bV;60dL;5963b;116212290:12634e@A9940bUC<9eU628K1bV@?9bU<89bW>49fF>dQ9bJ511231011<9cO62630L9X61
3809:b2?j9717@9b<E1=cR53011161089b44111489hE3qwQ9bZ9V4b?6I9x101b:73bU0;1re31ecYb12Fm>4358726N3d@2bg9
b5lLb:4b580>0F41>beX61@261114fY699i40bA=bhZ6cE659ee69bamoNfC"

/-- Characters that may start an identifier. -/
def isIdentifierStart (c : Char) : Bool :=
  c == '_' || c.isAlpha || (128 ≤ c.toNat && identifierStart.contains c)

/-- Characters that may stand in an identifier after its first character. -/
def isIdentifierRest (c : Char) : Bool :=
  c == '_' || c.isAlphanum ||
    (128 ≤ c.toNat && (identifierStart.contains c || identifierOnlyInside.contains c))

/-- A whole identifier. -/
def isIdentifier : List Char → Bool
  | [] => false
  | c :: cs => isIdentifierStart c && cs.all isIdentifierRest

end Codebook.Text

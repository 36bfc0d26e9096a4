/-!
# What characters decompose into

The characters of identifiers that have a decomposition, and the marks among them. A table has entries
for characters one after the other; a dash stands before some of them, with how many characters are
left out and, for an entry that is for more than one, how many more it is for. Numbers are written in
`tableDigits`, with two digits for those below 4080 and with three for others. Line ends mean nothing.
-/

namespace Codebook.Text

/-- The digits that numbers are written with. -/
def tableDigits : List Char :=
  "ABCDEFGHIJKLMNOPQRSTUVWXYZabcdefghijklmnopqrstuvwxyz0123456789!#$%&()*+,.:<=>?@[]^_|~".toList

/-- Decompositions of one step. After a slash stand entries of two characters that compose the
character again, and after an apostrophe those of capital letters, each of which an entry for the small
letter follows. After a semicolon stand entries of one character, and after a backquote the characters
of one entry, which do not compose again. A range of characters goes with a range that starts with the
one given. -/
def decompositionTable : String := "
-CA;BM-AK;LV-AE;Ba-AF/A%JDA%JEA%JFA%JGA%JLA%JN-AB/A(JqA*JDA*JEA*JFA*JLA:JDA:JEA:JFA:JL-AB/A@JGA[JDA[
JEA[JFA[JGA[JL-AC/BAJDBAJEBAJFBAJLBEJE-AC/BMJDBMJEBMJFBMJGBMJLBMJN-AB/BOJqBQJDBQJEBQJFBQJLBUJDBUJEBU
JFBUJL-AB/BZJGBaJDBaJEBaJFBaJGBaJL-AC/BgJDBgJEBgJFBgJLBkJE-AB/BkJL'A%JHA%JJA%JrA(JEA(JFA(JKA(JPA)JP-
AC'A*JHA*JJA*JKA*JrA*JPA,JFA,JJA,JKA,JqA.JF-AC'A:JGA:JHA:JJA:Jr/A:JK-AB`A:A<`BUBV'A<JFA=Jq-AB'A>JEA>
JqA>JP`A>CN`BXCN-AC'A@JEA@JqA@JP`IUBZ-AC'A[JHA[JJA[JO-AC'A_JEA_JqA_JPA|JEA|JFA|JqA|JPA~JqA~JP-AC'BAJ
GBAJHBAJJBAJNBAJOBAJrBCJFBEJF/BEJL'BFJEBFJKBFJP;Be-Ag'A[Je-AN'BAJe-AT`A)Ep`A)Eq`BPEq`A>A<`A>BV`BXBV`
A@A<`A@BV`BZBV'A%JPA:JPA[JPBAJPCyJHCyJECyJPCyJD-AB'CaJH/GoJHGpJH'CcJH-AC'A,JPA=JPA[Jr/F%JHF&JHFOJPH#
JPBVJP`A)BF`A)Bl`BPBl'A,JE-AC'A@JDCbJECcJECuJEA%JSA%JUA*JSA*JUA:JSA:JUA[JSA[JUA_JSA_JUBAJSBAJUA|JpA~
Jp-AC'A.JP-AG'A%JKA*JqCsJHCrJHA[JK/GwJHGxJH'BEJH-Bn;BTHTBVBdHmHoHuBiBk-An;HQBXBeBjH&-BGAB;JD-AB;JW`J
LJE-Av;IR-AR/K#JE;CN/K(JEK*JEK,JE-AB/K?JE-AB/K|JELCJELjJE-AZ/K,JLK|JLLKJELOJELQJELSJELkJE-AZ/LSJLLeJ
LLYJELeJELiJE-AB;LLLRK|/LrJELrJL;LfLZ-AZ;LT-AAAB;La-AB;K+LO-AD;K^-AG/MZJDMZJL-AB/MXJE-AD/MKJL-AE/MeJ
EMcJDMnJJ-AK/McJJ-Af/M8JJ-AW/M5JDM5JL-AB/M3JE-AD/NFJL-AE/M!JEM8JDM,JJ-AX/NjJSNkJS-A:'MaJJ-AN'MUJJMUJ
L-AC'MZJJ-AC/OyJLOzJL'MaJLMbJL-AC'McJHMcJLMiJL-AC/O&JLO(JL'MxJLMnJHMnJLMnJOMrJL-AC'MvJL-B4`QVQy-B*/S
tTEStTFS@TFStTGS]TF-A@`StTl`S@Tl`UjTl`S]Tl-A,/UxTF-AB/UdTF-AQ/UuTF-HC/bxb*-AH/b5b*-AC/b8b*-Aj`beb*`b
fb*`bgb*`blb*`bqb*`brb*`b0b*`b4b*-BW/dmdddmd2-AP`dAdb`dBdb-AB`dOdb-A|`e8e+-AC`e&e+-Ai`ege+`ehe+`eme+
-AC`e1e+-C#/h_iM-AC/h_h:h_iN-AP`hsh,`hth,-A2/i.j4-A1/jnjfjojfjnj4-Bm/k_lN-Bi/mhm3-AG/mom3mom4-AB/mom
kmsm3-Bp/n|n=n~n=n|oP-B4/p8pt-AB/p8pyp#ptp8p&-A~`rGq$-Bq`sxsW-Ao`sPr_`sPsF-BQ`t^vc-AJ`uGvc-AE`uLvc-A
E`uQvc-AE`uVvc-AM`t[va-AJ`urus-AB`uruu`vXu6`vXu7`vYu6`vYu7-AH`uru6-AR`u>vc-AJ`vBvc-AE`vGvc-AE`vLvc-A
E`vQvc-AM`u<va-BX/wA1wA!-Cr;wC&-eT/whgwh]-AB/whiwh]-AB/whkwh]-AB/whmwh]-AB/whowh]-AD/whswh]-Ao/wiAwh
]-AB/wiCwh]-AC/wiEwh]wiFwh]-AB/wiIwh]-F#;A%CcA&-ABAB;A)E6-AAAH;A,-AB;A[GkA]A_-AAAB;A~BCBM-AAAB;G_wnf
BN-AAAB;BPHG-AAAB;HIBS-AB;BWBYD>BaHB-AAAB;wnzBb-AAAB;Bfwn6HcBhwn&-AAAC;LL-AAAB;LfBUBd-AAAB;Bg-AAAB;L
LLa-AAAB;Lf-AN;M%-Ai;G~BOHCC+HJBRHMHOHS-AAAC;HVwo(H<Hawo?H>HeHd-AAAD;HfHl-AAAB;HvFC-AAAB;H2wn5-AAAB;
H4Bl-AAAC;H9LR-A$'A%JoA&JKA&JmA&J0CdJEA)JKA)JmA)J0A)JqA)Jw/DTJDDUJDDTJEDUJE'A*JwA*Jz/GqJJGrJJ'A+JKA,
JHA.JKA.JmA.JLA.JqA.JxA:JzClJEA=JEA=JmA=J0A>Jm/wq~JHwrAJH'A>J0A>JwA?JEA?JKA?JmA@JKA@JmA@J0A@JwCrJECr
JL/D?JDD@JDD?JED@JE'A]JEA]JKA_JKA_Jm/wrjJHwrkJH'A_J0A|JKA|Jm/EGJKEHJKEMJKENJKwrrJKwrsJK'A~JKA~JmA~J0
A~JwBAJnBAJzBAJw/EUJEEVJEEWJLEXJL'BBJGBBJmBCJDBCJEBCJLBCJKBCJmBDJKBDJLBEJKBFJFBFJmBFJ0/BTJ0BfJLBiJNB
kJN`BMIW/ErJK-AE'A%JmA%JMCYJECYJDCYJMCYJG/wsUJFwsVJFDDJEDEJEDDJDDEJDDDJMDEJMDDJGDEJGwsUJJwsVJJ'A*JmA
*JMA*JGCgJECgJDCgJMCgJG/wssJFwstJF'A:JMA:JmA[JmA[JMCqJECqJDCqJMCqJG/ws$JFws%JFE>JEE?JEE>JDE?JDE>JME?
JME>JGE?JGE>JmE?Jm'BAJmBAJM/FGJEFHJEFGJDFHJDFGJMFHJMFGJGFHJGFGJmFHJm'BEJDBEJmBEJMBEJG-AG/LKJWLKJXwtf
JDwtgJDwtfJEwtgJEwtfJ*wtgJ*K#JWK#JXwtnJDwtoJDwtnJEwtoJEwtnJ*wtoJ*LOJWLOJXwtvJDwtwJDwtvJEwtwJE-AC/K(J
WK(JXwt3JDwt4JDwt3JEwt4JE-AC/LQJWLQJXwt#JDwt$JDwt#JEwt$JEwt#J*wt$J*K*JWK*JXwt,JDwt.JDwt,JEwt.JEwt,J*
wt.J*LSJWLSJXwt[JDwt]JDwt[JEwt]JEwt[J*wt]J*K,JWK,JXwuCJDwuDJDwuCJEwuDJEwuCJ*wuDJ*LYJWLYJXwuKJDwuLJDw
uKJEwuLJE-AC/K?JWK?JXwuSJDwuTJDwuSJEwuTJE-AC/LeJWLeJXwuaJDwubJDwuaJEwubJEwuaJ*wubJ*-AB/K|JX-AB/wujJD
-AB/wujJE-AB/wujJ*LiJWLiJXwuqJDwurJDwuqJEwurJEwuqJ*wurJ*LCJWLCJXwuyJDwuzJDwuyJEwuzJEwuyJ*wuzJ*LKJD;L
F/LOJD;LG/LQJD;LH/LSJD;LI/LYJD;Ll/LeJD;Lm/LiJD;Ln-AC/wtfJ.wtgJ.wthJ.wtiJ.wtjJ.wtkJ.wtlJ.wtmJ.wtnJ.wt
oJ.wtpJ.wtqJ.wtrJ.wtsJ.wttJ.wtuJ.wt#J.wt$J.wt%J.wt&J.wt(J.wt)J.wt*J.wt+J.wt,J.wt.J.wt:J.wt<J.wt=J.wt
>J.wt?J.wt@J.wuqJ.wurJ.wusJ.wutJ.wuuJ.wuvJ.wuwJ.wuxJ.wuyJ.wuzJ.wu0J.wu1J.wu2J.wu3J.wu4J.wu5J.LKJJLKJ
Hwu6J.LKJ.LFJ.-AB/LKJ*wvrJ.K#JJK#JHK#JD;K0/K#J.-AB;LS-AD/wu!J.LQJ.LHJ.-AB/LQJ*wv7J.K(JD;K2/K*JD;K3/K
*J.-AD/LSJJLSJHLjJD;K!-AC/LSJ*LjJ*K,JJK,JHK,JD;K4-AE/LeJJLeJHLkJD;LJ/LaJWLaJXLeJ*LkJ*K|JJK|JHK|JD;K8
/K[JX-AF/wu+J.LiJ.LnJ.-AB/LiJ*wwWJ.K?JD;K6/LCJD;K9/LCJ.-Bf;BU-AN;BZ-AQ;BMBQBaBjHGBT-AAAD;BWBb-AAAB;B
e-BQ;A(-AE;E8-AC;BSA.A.A.BTDoA:A:A>BX-AB;A@-ADAC;A]A_A_-AG;BF-AB;LC-AB;BF-AB;A=Cb-AAAB;A&-AB;BQ-AAAB
;A*-AB;A?Ba-AAAD;RrBU-AC;LZLMK%K@-AF;A)-AAAB;BP-AAAB;BU-AW;A:`A:A:`A:A:A:`A:BB;BB`BBA:`BBA:A:`BBA:A:
A:`A:BD;BD`BDA:`BDA:A:;A>-AAAB;A(A?BU`BUBU`BUBUBU`BUBh;Bh`BhBU`BhBUBU`BhBUBUBU`BUBj;Bj`BjBU`BjBUBU;B
X-AAAB;BOBY-hH;BVBB-C,;xD5-Ig;yg#-AAAB;yg&-AR/xMmxNf-AB/xMoxNf-AB/xMqxNf-AB/xMsxNf-AB/xMuxNf-AB/xMwx
Nf-AB/xMyxNf-AB/xM0xNf-AB/xM2xNf-AB/xM4xNf-AB/xM6xNf-AB/xM8xNf-AC/xM#xNf-AB/xM%xNf-AB/xM(xNf-AG/xM<x
NfxM<xNg-AB/xM?xNfxM?xNg-AB/xM]xNfxM]xNg-AB/xM|xNfxM|xNg-AB/xNBxNfxNBxNg-AW/xMhxNf-AJ/xNjxNf`xNOxNQ-
AM/xNxxNf-AB/xNzxNf-AB/xN1xNf-AB/xN3xNf-AB/xN5xNf-AB/xN7xNf-AB/xN9xNf-AB/xN#xNf-AB/xN%xNf-AB/xN(xNf-
AB/xN*xNf-AB/xN,xNf-AC/xN<xNf-AB/xN>xNf-AB/xN@xNf-AG/xOAxNfxOAxNg-AB/xODxNfxODxNg-AB/xOGxNfxOGxNg-AB
/xOJxNfxOJxNg-AB/xOMxNfxOMxNg-AW/xNsxNf-AC/xOgxNfxOhxNfxOixNfxOjxNf-AD/xOuxNf`xN5xN@-AxAB;wDRwFRwDT-
AAAB;wFT-AAAC;wDU-AAAF;wFXwDr-AAAC;wDXwDy-AAAJ;wDa-AAAU;wEdwEc-AAAB;wDl-AAAB;wFuwFzwF1wF6wF!wF$wDtwF
)wF+-AAAB;wDuwDx-AAAB;wDzwD4wD6-AAAE;wD8wD(wD,wD^wEDwEI-AAAB;wGD-AAAC;wET-AAAB;wE$wE)-AAAB;wE?wE]wFF
wFI-zxt;M@M]-Co;1fX-Bs;A(A+A^-AD;DnD~-KQ;1ek1q4HY1q|-AJ;H6-yP5;0iqzHG0qE0kAze$yRryi51H81H8yzA0zOynyy
y>y?Dz11z^F0Qb0U&0Ys0vgzQXzZzzk<zt_0KX0x^0=2ySmyhezTazo40QJ1DSy#DziG0O|0Z(y[s0DF0V_y(pzHpzatzra0wKyV
rycJyfxzApzS!zotz3Jz_s0P30Q40no0(f0]L1C(z8Fz!@z=e0I?02&1Ee0eMyx4y)Oz,yz|~zpqz8(0j[0&5yxxy8UzQozb.zfp
z<Cz?L0$3yflz~Mycuycez$%z=80Jg0%M0gMy[yzQX0e0yRyy6(y,dzs]zy7ygVz9fyWPy+JyRGzY5zCzz:<yiXywMz3j0Kj0d1z
Vm0s$zX<y]M0GTy_EzywyS_ybQycbzL#z:P0E,0eI0zMyf.yj%yziy(=zDrziZz9@0!(0?F1E21FYye(zGtzU40r,y&oy=,y?Ny~
~zf9zmQzv|z#)z>dz|*0rL0Me0uJ03zydUye=ylSzk50X=0d1y(oy,Ay^0zVaz,Qzs!yTzyr]y6(y$Yy,nztmzvzz^az|c00c0&4
0(10+GyVwz#o0y+0%[y:&ySqyZry6<y7+zC~zQXzn$z1O0Ms0vN1HtzF)0$ayexzI4zKGzaEzeLzuozykz75z:40+>ybUy?70%Py
Xmy!hzcD0rPy*$y<]zKqzs]0%dydmyjOy8XzEkzILzMRzY_zulz0Dz]@0YD0YV0zJ0&kyg9zepyjczn&zwN0Pr0%60_:1E!zI~zb
50DVz&+z(+z.PzqzzkK0f5yTP0HPyd3ydEy(Fy[2z.|y52zZ2zGb0rg0Wq0$50aVy(yya8yoW-AC;ywI-AB;zFw-AC;ycwzr.z2%
z!Lz!tz!0z#J0((z.7z^9-AB;0P(-AB;0eu-AC;0ue0w5-AD;0.z0.$0:X1B_0wa0%@yV|yZ4ya:yfcyf3yg[yn.ypHyqUyv(yxB
y8Wy8gy.<y=fy=*y>~zCKzD.zF?zL(za6zczzf8zm1zo.zu%z8Kz!Nz!Yz!Xz!fz!lz!s-AAAB;z#Hz%Qz%^z*8z>dz>yz?Vz],z
_w0Da0E^0E^0Kx0Y)0ag0e30fa0kL0k$0s+0ue0&l0*&0+py.r(]z0D*-AC;yRfycHybPyVlya%ybnyfayf?yn.ynAyn)yo4ywIy
xMyy.yzDy2Sy4uy(xy(4y*ey+Ny:5y=Fy<Uy=*y=Xy>~y?%y_oy|ry~MzCRzFwzHpzHtzITzU6zVmzaEze<ze6zf8zi5zm1z5fzo
_zqizr.zv7zxmzyGz0!z0$z2%z2_z3Wz4Xz4Nz8*z&sz*8z,?z<uz>dz]Tz_w0Hr0Je0UB0Zg0aQ0ag0d<0eu0eB0e30e00ej0fa
0gW0k$0rd0vD0yr01J0%T0&l0((0*e0*&0*@0+p0[D1H8(Af(AZ(jLxuux8Dx8k)p.):v+F~1G41Hu-Am`BRBR`BRBU`BRBX`BRB
RBU`BRBRBX`ErBf`BeBf-AM`QkQm`QkQV`QkQb`QuQm`QkQd-AF`R0RP-AB`R?RS;R9Rr-AAAB;Ru-AAAC;R2R(R*-AB`R)Rc`R)
Rd`4c*Rc`4c*Rd`RrRS`RrRT`RrRX`RsRX`RtRX`RuRX`RvRX`RwRX`RxRX-AB`RzRX`R0RX`R1RX`R2RX`R3RX-AB`R5RX-AB`R
7RX`R8RX-AB`R!RX`R#RX-AB`R%RX`R&RX`R(RX`R)RX`R*RX`RwRU`RsRa`R2Ra`R#Ra`RrR3;TiTiTsTsTsTsTvTvTvTvTxTxT
xTxTrTrTrTrTwTwTwTwTqTqTqTqUAUAUAUAUCUCUCUCT1T1T1T1T0T0T0T0T3T3T3-AAAB;T3T4T4T4T!T!T9T9T#T#T5T5T:T:T
&T&UFUFUFUFULULULULUPUPUPUPUNUNUNUNUW-AAAB;UWUXUXUXUc-AAAB;UcUdUdUdUaUaUaUaUu-AAAB;UuUv-Ah;UJUJUJUJU
jUjUiUiUkUkToUnUnUhUhUlUlUsUsUsUsS[S[`SsSt`SsSt`SsUx`SsUx`SsS@`SsS@`SsUj`SsUj`SsUi`SsUi`SsUk`SsUk`Ss
Us`SsUs`SsUs`SsS[`SsS[`SsS[;UoUoUoUo`SsSy`SsSz`SsS=`SsS[`SsS]`SuSy`SuSz`SuS0`SuS=`SuS[`SuS]`SwSy`SwS
z`SwS0`SwS=`SwS[`SwS]`SxSy`SxS=`SxS[`SxS]`SySz`SyS=`SzSy`SzS=`S0Sy`S0Sz`S0S=`S5Sy`S5Sz`S5S0`S5S=`S7S
z`S7S=`S8Sy`S8Sz`S8S0`S8S=`S9Sz`S9S=`S!S=`S#Sy`S#S=`S$Sy`S$S=`S,Sy`S,Sz`S,S0`S,S=`S,S[`S,S]`S.Sz`S.S
=`S.S[`S.S]`S:St`S:Sy`S:Sz`S:S0`S:S<`S:S=`S:S[`S:S]`S<Sy`S<Sz`S<S0`S<S=`S<S[`S<S]`S=Sy`S=Sz`S=S0`S=S
=`S=S[`S=S]`S>Sy`S>Sz`S>S0`S>S=`S>S[`S>S]`S?Sy`S?S=`S?S[`S?S]`S]Sy`S]Sz`S]S0`S]S=`S]S[`S]S]`S2Th`S3T
h`S[Th-AG`SsS3`SsS4`SsS=`SsS>`SsS[`SsS]`SuS3`SuS4`SuS=`SuS>`SuS[`SuS]`SwS3`SwS4`SwS=`SwS>`SwS[`SwS]`
SxS3`SxS4`SxS=`SxS>`SxS[`SxS]`S,S[`S,S]`S.S[`S.S]`S:St`S:S<`S:S=`S:S[`S:S]`S<S=`S<S[`S<S]`S=St`S=S=`
S>S3`S>S4`S>S=`S>S>`S>S[`S>S]`S[Th`S]S3`S]S4`S]S=`S]S>`S]S[`S]S]`SsSy`SsSz`SsS0`SsS=`SsS?`SuSy`SuSz`
SuS0`SuS=`SuS?`SwSy`SwSz`SwS0`SwS=`SwS?`SxS=`SySz`SyS=`SzSy`SzS=`S0Sy`S0S=`S5Sy`S5Sz`S5S0`S5S=`S7Sz`
S7S0`S7S=`S8Sy`S8Sz`S8S0`S8S=`S9Sz`S!S=`S#Sy`S#S=`S$Sy`S$S=`S,Sy`S,Sz`S,S0`S,S=`S.Sz`S.S=`S:Sy`S:Sz`
S:S0`S:S<`S:S=`S<Sy`S<Sz`S<S0`S<S=`S<S?`S=Sy`S=Sz`S=S0`S=S=`S>Sy`S>Sz`S>S0`S>S=`S>S?`S?Sy`S?S=`S?Th`
S]Sy`S]Sz`S]S0`S]S=`S]S?`SsS=`SsS?`SuS=`SuS?`SwS=`SwS?`SxS=`SxS?`S5S=`S5S?`S6S=`S6S?`S:S<`S:S=`S<S=`
S>S=`S>S?`S]S=`S]S?`S+S~TC`S+TATC`S+TBTC`S9S[`S9S]`S#S[`S#S]`S$S[`S$S]`S5S[`S5S]`S6S[`S6S]`SzS[`SzS]
`SyS[`SyS]`S0S[`S0S]`S7S[`S7S]`S8S[`S8S]`S6Sy`S6Sz`S6S0`S6S=`S6S3`S5S3`S7S3`S8S3`S9S[`S9S]`S#S[`S#S]
`S$S[`S$S]`S5S[`S5S]`S6S[`S6S]`SzS[`SzS]`SyS[`SyS]`S0S[`S0S]`S7S[`S7S]`S8S[`S8S]`S6Sy`S6Sz`S6S0`S6S=
`S6S3`S5S3`S7S3`S8S3`S6Sy`S6Sz`S6S0`S6S=`S5S?`S6S?`S9S=`S5Sy`S5Sz`S5S0`S6Sy`S6Sz`S6S0`S9S=`S!S=`StS^
`StS^-AS`SwSyS=`SwSzSy`SwSzSy`SwSzS=`SwS0S=`SwS=Sy`SwS=Sz`SwS=S0`SyS=Sz`SyS=Sz`SzS=S]`SzS=S[`S5SzSy`
S5SySz`S5SyS[`S5S=Sz`S5S=Sz`S5S=Sy`S5S=S=`S5S=S=`S7SzSz`S7SzSz`S7S=S=`S6SzS=`S6SzS=`S6SyS]`S6S=S0`S6
S=S0`S6S=S=`S6S=S=`S8SzS[`S8S0S=`S8S0S=`S9S=Sz`S9S=Sz`S9S=S=`S9S=S]`S#SyS=`S#S=S=`S#S=S=`S#S=S[`S$S=
S=`S$S=S]`S$S=S[`S,S0S=`S,S0S=`S.S=Sz`S.S=S=`S<SzS=`S<SzS]`S<SzS[`S<SySy`S<SySy`S<S0S=`S<S0S=`S<S=Sz
`S<S=Sz`S=SzSy`S=SzS=`S=SzS]`S=SySz`S=SyS=`S=S0Sy`S=S0S=-AC`S=SyS0`S?S=Sy`S?S=S=`S>SzS=`S>SzS[`S>SyS
=`S>SyS=`S>SyS[`S>S=S]`S>S=S[`S]S=S=`S]S=S=`SuS0S]`SwSyS]`SwSyS[`SwS0S]`SwS0S[`SwS=S]`SwS=S[`SyS=S]`
SySzS[`SyS=S[`S5S0S[`S7SzS]`S6SzS]`S8SzS]`S<SyS]`S<S=S]`S]SzS]`S]SyS]`S]S=S]`S=S=S]`S.S=S]`S>SzS]`S.
S=Sz`S<SzS=`S#S=S]`S:S=S]`S>SySz`S=S0S]`S<SyS=`S:S=S=`S<SyS=`S>SySz`SySzS]`SzSyS]`S=SyS]`S,S=S]`SuSz
S]`S:S=S=`S#SyS=`S7S=S=`S5S0S]`S>SyS]-Ao`S7S<Uu`S.S<Uu`StS<S<S?`StS:SuS3`S=SzS=S1`S7S<S#S=`S3S5S@S<`
S#S<S]S?`S@S5S<S=`S7S<S[-A5;BKBK-AY;BKBKBK-Ah`S+S^-AF`S+S~-AB`S+TA-AB`S+TB-AB`S+TC-AB`S+TD-AAAB;Sn-A
AAB;So-AAAB;Sp-AAAB;Sq-AAAB;SrSsSs-AAAB;Ss-AAAB;StSuSu-AAAB;Su-AAAB;SvSwSw-AAAB;SwSxSx-AAAB;SxSySy-A
AAB;SySzSz-AAAB;SzS0S0-AAAB;S0-AAAB;S1-AAAB;S2-AAAB;S3-AAAB;S4S5S5-AAAB;S5S6S6-AAAB;S6S7S7-AAAB;S7S8
S8-AAAB;S8S9S9-AAAB;S9S!S!-AAAB;S!S#S#-AAAB;S#S$S$S$S,S,S,-AAAB;S,S.S.-AAAB;S.S:S:-AAAB;S:S<S<-AAAB;
S<S=S=-AAAB;S=S>S>-AAAB;S>S?S?-AAAB;S?-AAAB;S@-AAAB;S[S]S]S]`S<So`S<So`S<Sp`S<Sp`S<Sr`S<Sr`S<St`S<St
-ATAJ;Aw-AHAZ;A%-AE;BK-ABAZ;BM-AL;xOjxNnxNpxNrxNtxNvxOUxOWxOYxN:xOtxNoxNqxNsxNu-AAAB;xNwxNzxN1xN3xN5
xN7xN9xN#xN%xN(xN*xN,xN<xN>xN@-AAAF;xN]xODxOGxOJxOM-AAAE;xOPxOVxOX-AAAF;xOZxOgxOk-AAAB;xNfxP$-AAAd;x
PN-ADAF;xPr-ACAF;xPx-ACAF;xP3-ACAC;xP9-XBAB;IoC8H+HA-AB;H]1rSH_H^-AAAB;HDwpEHFHLIBHRHPHNH.DoH:HUHx-A
AAB;ICHZ$i61f2Hb$i7H7$i8C@-AAAB;HjBcHn$i!-AAAB;HqHtIAH|1rTH~H1xA.-AB;H8-AAAB;H@H*-AAAC;FX$i$$i~-a9/5
IA5Ih-AB/5IC5Ih-AO/5IM5Ih-Bt/5J(5J55J)5J5-Gd/5QG5P_5QG5QW-Ea/5Uk5Ul5Uk5Ub-AB/5Uk5Uo-C^/5Xk5Xb5Xl5Xb-
Kq/5h[5h<-2EtAZ;A%-AAAZ;BM-AAAZ;A%-AAAG;BM-ABAR;BU-AAAZ;A%-AAAZ;BMA%-ABAB;A(-AC;A,-ACAB;A<-ACAD;A@-A
BAH;A|-AAAD;BM-AB;BR-ABAG;BT-ABAK;Bb-AAAZ;A%-AAAZ;BM-AAAB;A%-ABAD;A)-ACAH;A<-ABAG;A|-ABAZ;BM-AAAB;A%
-ABAD;A)-ABAE;A:-AB;A[-ADAG;A|-ABAZ;BM-AAAZ;A%-AAAZ;BM-AAAZ;A%-AAAZ;BM-AAAZ;A%-AAAZ;BM-AAAZ;A%-AAAZ;
BM-AAAZ;A%-AAAZ;BM-AAAZ;A%-AAAZ;BMDyG5-ACAQ;K#L?-AAAG;K^-ABAY;LK-AB;L@LqL:LuL<Lv-AAAQ;K#L?-AAAG;K^-A
BAY;LK-AB;L@LqL:LuL<Lv-AAAQ;K#L?-AAAG;K^-ABAY;LK-AB;L@LqL:LuL<Lv-AAAQ;K#L?-AAAG;K^-ABAY;LK-AB;L@LqL:
LuL<Lv-AAAQ;K#L?-AAAG;K^-ABAY;LK-AB;L@LqL:LuL<Lv-AAAB;L1-ACAJ;Aw-AAAJ;Aw-AAAJ;Aw-AAAJ;Aw-AAAJ;Aw-wSW
AB;StSyS1-AB;S@S4SzS9S]-AAAD;S:S5S#S,S7S.S3S6-AAAB;SwS0S2S8S!S$TfUWT_Tg-AB;SuSy-AB;S?-AC;Sz-AB;S]-AA
AD;S:S5S#S,S7S.-AB;S6-AAAB;SwS0-AB;S8-AB;S$-AG;Sy-AE;Sz-AB;S]-AB;S<-AB;S>S5S#-AB;S7S.-AB;S6-AC;S0-AB
;S8-AB;S$-AB;UW-AB;Tg-AB;SuSy-AB;S?-AC;SzS9S]S:-ABAB;S=S5S#S,S7S.-AB;S6-AAAB;SwS0-AB;S8S!S$Tf-AB;T_-
ABAB;StSyS1-AAAB;S?S4SzS9S]-ABAC;S<S5S#S,S7S.S3S6-AAAB;SwS0S2S8S!S$-AF;SuSyS1-AB;S@S4SzS9S]-ABAC;S<S
5S#S,S7S.S3S6-AAAB;SwS0S2S8S!S$-n%AJ;Aw-4fD;yR2yRxyR6%0lyVFyV|yWLyW_yYgyY#yZ4yZgxZo%(&ya:ya]ybLybe%$
jxZ(ybOyb0%$_yb!yb=yTbyb|ycH+#eyc,ydAxaUyd4yd(yeayefxa<yfayfcyf3yf?-AAAB;ygDygVyg,yg[yhDyhcyhmyhoyho
yho%[4zj2yieyiz%|byi#yi*yjFyk.yj3yj,ykSyk>yl=ymQym|ynOynvynvyn)yoByoJyoYysYypHysZyp_yqgydEyx,yumyu>y
vQyt4yv1yv0yxF&a]yx=yx]yyKyyeyymyzR&gW&hDy0+y1gy1sy0yy2Wxglxgzy4Oy4)y4)&p5y6fy60y6(y6[&t1y7Gy7Ny*Iy7
pxiOy8Sy8gy9dy8#&2Ey!=&2Gy#hy#ey#v-AAAB;y$#xkSy%Gy%xy%+y&dxk*&$^xlKy(Py(Sy(Vy(p,f4y)I&+B&+B0Duy)sy)s
xmA(f&*D!y*Xy*gxmcy*[y+ty+3y,Ey.3xnexnAy.<&]_y:oy<~y=Dy=Fy=Dy=xy=*y>Uy>Gy>Ry>$y>~y?Dy?dy?oy@Vy[Uy[3y
^J(I5y]=y]Ky^hy^8y_.(Lfy|xy_py_NxqTy~jy~4zACy~xxq^zCKzCn(X8zD:zHKzFFxs~zF?xs(xsfyb5yb8zHSzGDz~ux,dzH
pzHtzHzzIbzIQ(i@xtvzKNzI&zLQzL((k@zL>zKyzNoxuuzOBzPNzP~zST(rxzS+xv~zT3(x3zUVxw1zUzzVL-AAAB;zVm(3f&zq
(43zXQ(9]zYszY6zXpzZuzaBza6zaEzasza7za.(#IzZ>zc.zdyxzbze6ze2()SzcSzgz(*<(+lzh2zi~zi5zi2x0pzjQzj(zj9z
ke%$szmM(@_znO(_+zo*zo_zpY)E]zp.zqI)Ip)LJzs(zs~x3$ztZx3>x3>zvRzvmzv7zv[zw#x5Fzx))XvzyJ)Y2zy7&%Yz0x)h
.)iK)j%x78x7.z3W)l+)l*)mX)mx-AAAB;z3$z3%z4Xx8kz5Dx8xx9s)vez7cz8Fz8*x!k)1pz!l)2.)3ez#Jz$Qx#bz%Qz%az%f
)#t)(E)(Ez(Ux%))+Jz*&z**x&U).0z.[x(4z:Qz:Lz:o)^9z<2x))z=*z>rz?Zx*i*E3*FBx*,*G!z][*H@z^Vz_lz_w*M%*N1z
|2*PQz|+(h#x,Zz~z0Avx,[0BVy3Q*VR*Vf(ie(in0Du0Dx0sux:F0FU0FO0FgyfG0F00F20F$0GU*f~0GT0G=0H80Ix0G^0I%0J
W0Kx0Hs0I@0I]0JL*i[*mw*k)x=b0Mh0Mj0M+*5$0N#*r.x=?x=^*tj*w*x>G0Qs0Q40Q(0Q*0Rw0RP0S$0SU0UB0TF0T.0UOx?d
0VU0V0x?#0W!0W%*%10YL0YSx@m0YuxZ**.p*<3x]Fx]O0dr0ej0gW0i3*~n0j40j@0k|0mF+HG%:O0nE0m<0np%=!0qO0rd+bF+
bg0vl0wt0w?+fN0xC00g-AAAB;02V01P05405~+tz0!hyD00!?+yHyEw0&Fy$Q0(Q+9u+$EyGOyGW0*j+*=yG_+,t0*@0*@0+X+<
@0.myIp0:Y0<%0=H0=(yKa,Gj0[D0_y0~*yNbyN61BF,XcyN*,X|,bI,c21FFyO@1F(1F.1F[1GE1GL1Gw,m|"

/-- The combining classes of marks, which say in which order marks stand. -/
def markTable : String := "
-JDAU;C8C!-AAAD;CyC!Cu-AAAE;Cy-AAAB;Cg-AAAD;Cy-AAAB;Cg-AAAK;Cy-AAAE;AB-AAAD;Cy-AAAH;C8C+C8-AAAC;Cy-A
AAC;C8-AAAB;Cy-ABAC;C8-AAAD;CyC8C!-AAAB;CyC8C#-AAAB;C$C#-AAAB;C$C#-AAAM;C8-DUAE;C8-DK;Cy-AAAD;C8Cy-A
AAC;C8C0Cy-AAAF;C8-AAAF;Cy-AAAB;C8Cy-AAAB;C8C0C6C8AKALAMANAOAPAQARAS-AAAB;ATAUAVAW-AB;AX-AB;AYAZ-AB;
C8Cy-AB;AS-A.AH;C8AeAfAg-Aw;AbAcAdAeAfAgAhAi-AAAB;C8-AAAB;Cy-AAAE;C8Cy-AAAB;C8Cy-AQ;Aj-BQAG;C8-ACAD;
C8CyC8-ACAB;C8-AB;Cy-AAAB;C8Cy-Aj;Ak-Ae;C8Cy-AAAB;C8Cy-AAAB;C8-AAAC;CyC8-AAAB;CyC8Cy-AAAC;C8CyC8CyC8
CyC8Cy-AAAB;C8-B=AG;C8CyC8-AJ;Cy-AYAD;C8-ABAI;C8-ABAC;C8-ABAE;C8-ArAC;Cy-A8;C8-AAAC;Cy-AAAD;C8-AqAE;
C8-AAAE;Cy-AAAN;C8-AB;Cy-AAAB;C8Cy-AAAB;C8Cy-AAAC;C8-AAAC;CyAbAcAd-AAAC;C8Cy-AAAB;C8-AAAB;Cy-AAAE;C8
-A8;AH-AQ;AJ-AD;C8Cy-AAAB;C8-BS;AH-AQ;AJ-Aw;C8-A9;AH-AQ;AJ-BZ;AH-AQ;AJ-BZ;AH-AQ;AJ-Bq;AJ-BZ;AH-AQ;AJ
-AH;A~BG-BQ;AH-AQ;AJ-BYAB;AJ-AQ;AJ-Bn;AJ-BYAB;BSAJ-ANAD;BW-BXAB;BhAJ-ANAD;Bl-A>AB;Cy-Ab;Cy-AB;Cy-AB;
Cu-A3;BsBt-AB;Bv-AFAD;Bt-AC;Bt-ABAB;C8AJ-ABAB;C8-A!;Cy-Bb;AH-ABAB;AJ-A_;Cy-InAC;C8-LNAB;AJ-Ae;AJ-B.;
AJ-AK;C8-Ch;C6-B6;C0C8Cy-Cx;C8Cy-A,;AJ-AUAH;C8-AC;Cy-AwAE;C8-AAAF;Cy-AAAB;C8Cy-ABAB;Cy-AAAB;C8-AAAB;
Cy-AAAE;C8Cy-AAAD;C8-BQ;AH-AP;AJ-Am;C8Cy-AAAG;C8-A2AB;AJ-A6;AH-ALAB;AJ-A(;AH-B(AC;C8-AB;AB-AAAE;Cy-A
AAB;C8-AAAD;CyC8-ABAG;AB-AE;Cy-AG;C8-ADAB;C8-CcAB;C8Cy-AAAG;C8Cy-AAAB;C8C$CsCyCg-AAAk;C8C!-AAAB;C6Cy
CwC8C#CyC8Cy-IoAB;C8-AAAB;AB-AAAD;C8-AAAC;AB-AAAB;C8-AE;C8-ADAB;ABC8CyC8-AAAB;AB-AAAD;CyC8-kKAC;C8-B
4;AJ-BLAf;C8-Gs;CwC6C!C0-AAAB;C2-BUAB;AI-zz<;C8-AEAJ;C8-AgAB;C8-A]AB;C8-DV;AJ-Al;AJ-B&;AJ-AbAR;C8-A5
AC;Cy-Al;AJ-BK;AH-AM;AJ-C*;C8-ABAB;C8Cy-ACAB;C8-AFAB;C8-AB;C8-A0;AJ-C>;AJ-yUq;Aa-JEAG;C8-AAAG;Cy-AAA
B;C8-Lm;Cy-C4;Cy-B$AE;C8-T(;Cy-AB;C8-Ao;C8ABCy-AE;AJ-B];C8Cy-G#AD;C8-EvAB;C8-B)AB;Cy-AAAC;C8CyC8-AAA
D;Cy-Ax;C8CyC8Cy-CW;AJ-Ap;AJ-AO;AJ-A5;AJAH-A*AC;C8-AwAB;AJ-A!;AH-A>;AJ-AJ;AH-BV;AJAH-CI;AHAJ-A]AB;AH
-AQ;AJ-AYAG;C8-ADAE;C8-Cj;AJ-AD;AH-AX;C8-BO;AJAH-C^;AJAH-Bp;AJ-Bh;AJAH-Be;AJ-DO;AJAH-DDAB;AJ-AE;AH-B
,;AJ-A|;AJ-AS;AJ-A^;AJ-E^;AJ-DD;AH-ABAB;AJ-A^;AJ-yO]AE;AB-A7AG;C8-OTAB;AG-yM@;AB-wOwAB;Cu-AAAC;AB-AD
;C4-AAAE;Cu-AIAH;Cy-ACAE;C8-AAAB;Cy-AeAD;C8-B#AC;C8-peAG;C8-ABAQ;C8-ACAG;C8-ABAB;C8-ABAE;C8-DGAG;C8-
Ej;C8-A9AD;C8-R7AG;Cy-BYAF;C8AH"

end Codebook.Text

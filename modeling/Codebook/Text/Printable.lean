import Codebook.Text.CharTable

/-!
# Printable characters

Quoted text shows a character as itself only if it is printable: it is assigned, it is no control,
format or private-use character, and of the separators only the plain space counts.
-/

namespace Codebook.Text

/-- The characters beyond ASCII that are not printable. -/
def unprintable : CharTable := .ofLengths "
0P<0q:1637010D0j10V1b6130b;7K36@F0e@0b41b?1c==b?1b51?0L110;4O8bN0dM08121F0701241912147132051I1306321
F07020202110532132164016A9309030F0702051:030311>41<670308121F0702051912136332051B9206230422010222232
<3523041151=E4=030G0@190304620311141:6F030G0:051903046252041:02<=030b703063@1J030B2H090117213601085:
13;b>3MT201050H010G1501061:14ObL0T3W0T0?0=TeF01411iI041701041Y041Q041701041?0b=041bG1P2J5bZ161oH0L2c
16F8H8D;=0302;c61:5:5>0;5c16[4bJ9O0<3<312Z15:b03J5;2bB1bE0M1;5:5>1Ob4bQ2b30cL7b@2?2b@6[1;7[4m6161V16
180101010O1b90?0>160C1309@H7b3@21K0=2Q>Q>d83p3H;Dbp81P0hY4b101411b<62=H87070707070707070cVQJ0c1;eVI<
4bC0bZ1c?4[0c60bX;b30zpQ2b;8hXCe87eK420105Gb?2:5b<7bJ7<5cL:N2bR0;3Q0b;8>1:1c?GL96161687070b@3cV1:5jt
X;G3b53buHfpCi>1cBU7;54J050102020cU?k51b:61OZ5b70C04350d33e>261616132707<21<0J0C020?1>QcS433b12c00=2
1b2b2cYM2b5>L3T8N4[4N0U3>YdJ1:5T3T3X7b8:<0?07020;0?0702bFh38F98G60Z09bH6110b002211G0bL79b3C024Q2K41b
Cb<3D1b60248030M133:696bDOW3<8b:2M1K4J64;7bSbMb:b7<b76b27:gMO0Z0312bQX7ZEJULCG8bR3T8bB05<I6:5b90B7W8
c80D:B0b0bD701040?0;5b?4:5408121F0702050:12131151471725d6c405MbL7:dQb:1VQbI::5=Bb>5:b9K1?3Ge8b@c;bW;
81118020N021<8:bI81b21;JbL7bW<bMfZ90b10>9M2P1F0>bL7020b02102097:56020U02066:h1Ie61>b6<u[c=cG05:eDchW
c;<y?do0n;ho8mY6O0:3bU0:5N169bJ9:070E4CpKc3c<bO3b=6AbC5:2=fjD7bc6Y9hv2407020gKb03@47j0caCcC4=296:14e
cWb21G8cLb?fJ9W1bN7cHDbJdED;b[8Id2bY0bK021112140<01070bE0418070L040501270hP1gL1pZ>50?z3Of470A170205e
Tb12>1:32h;O@b>41bc?704020?0eE1@XbP3:32rTbHbObAeA40K0201110:0401015131010103020111010101010201140704
04010:0A43050Ab72g5b03c<;?1?0?0U9dZb;M<b03962=6dEw@4@2=2cL;c16<31><3b<7:5X7N12bQhP;>1525278M2;469:58
778d?0b;T:xAbliXOdqA6f21faZ=gnUcsFm>bi9ei;ycbHfDgpl3"

/-- Characters that quoted text shows as themselves. -/
def isPrintable (c : Char) : Bool :=
  if c.toNat < 128 then 32 ≤ c.toNat && c.toNat < 127 else !unprintable.contains c

end Codebook.Text

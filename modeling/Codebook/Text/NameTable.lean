/-!
# The names of characters

The names of all characters whose names follow no rule, in the order of their code points. A small
letter starts a name and says how many words it shares with the start of the name before it (`a` for
none, `b` for one and so on); the words that differ follow. `+` stands for the name before with the
next number at its end, `*` for the name before with the next letter after its number, and `/` for the
name before with `SMALL` for `CAPITAL`. The code point is the one after that of the name before, unless
`=` says how much higher it is.

The longer of the two tables is put together from pieces. The first pieces are single characters,
the most frequent ones in front, and each other piece is two earlier ones joined. Pieces are written
by their numbers: the smallest numbers as one digit, the others as two. Line ends mean nothing.
-/

namespace Codebook.Text

/-- The digits that pieces are written with. -/
def pieceDigits : List Char :=
  "ABCDEFGHIJKLMNOPQRSTUVWXYZabcdefghijklmnopqrstuvwxyz0123456789!#$%&()*+,.:;<=>?@[]^_|~/'`".toList

/-- The numbers below this one are written as one digit. -/
def shortNumbers : Nat := 20

/-- The pieces of one character. -/
def letterPieces : List Char :=
  "AcESdUTOI HLDPMaKGRb*+-/0123456789=BCFJNQVWXYZefghijl".toList

/-- The other pieces, each by two numbers: how far its first part stands behind that of the piece
before, where the first piece follows on the last one so far, and the number of its second part,
counted from that of the piece before if the first part is the same. -/
def pieceTable : String := "
ABAAAAAAAAAAABAAAAAAAAAAAAABAAAAADAEADADAAAAABAAAAAAAAAAAAAAAAAABDACADACACAAAAAQAAAAAAAAAAAAAAAAAAA
ABBABAAABACAAAAAAABAAAAAAAAAAACANAAABAAAAAAAAAAAAAAAABAAAAAAAAAABABAAAAAEAAACACANAFADBAACACAEAAABAB
AAAAAQAAAAAAAAAAAAAAAAAAAABBABAAABAAADABAAABAAAAADAMAAACAAACACAABAAAAAABABAAAAAAAAAEAGATABABBBABAAA
AAAACABABAAABAAAAADAMAAAAABAAAAAAAAAAABBAAAAAAAAAABAAABABAAABACAAADANAAABAAACAAAAAAAABDAMASAAAAAAAA
ABAAABBAAAAAABACAAAAAUJABAAAAAAAAAABAABACABAAAAABAUFAGBAAAAAACABAAAAACACAUJAAAABAAAAAAEAAAAAAAAAUOB
AABACABAAAAAHAGAAAJAFACABBDAKAUAAAAAAEBAABAEACALAQACAABAABAGAAAGARADAEBAAAAAACABAAAIAEAUBABBAACAGAU
EAAAAABACBUABUAAABDAJAKAAAAAIAGCUEAGAAAABJAFAIABAAAAAAAAABAABBACAEALACAAABAAAAAAAAAAAAAMAABBAHALACA
BABAAAAAAAAAAAMBCAGAOAAACAAAAAAAAAABJAOAAAAAAAAAAAAAAAAAAABBJAFAIAAAAABABAAAABJAFAFACAAACABAAAABUEA
AADADACBJAOAAACBAABAJAMAAAAAAAAAAAAAAAAABAAAABAABABAAABAAAAAFACAFABAIAIABBAAAAAACAAAAAAABAFATAHBAAA
AAACABAAACADACASBAABABAAABAAAUJAHBAAAAAACABAAAAACACABAEANABAAACABABBAADAABAAAAAABAAABAAAUPACBAABAEA
KAUABBAAAFAAAFBAAAAAABAAABAAAAAEAAACADAQAEABAABAAAAAACABAAAAAAAULABAABAABAAACADAAAAAAAAABAAAAAQAAAC
ACAAAAAABDACAEABAAACAAARACAAACaEUhACAUFAJAAAAAAAAAAAAABABAUSAMACAAAU6AWTAUsABACAUpABBWkACAUKABAGABA
BAAAQABAAAWVAUfBUjAMAUDAAAAABAFAAABAUcAAAAABANAUFAUCADAUsAV3AUuACBVIAUiACABAUGACAUJABAU2AWPAULBU0AU
MAUpAUMAU%AEABABAJAAAV7AABUiAUVAGABABATAUKAIAOALAULAUeAAAIATAV8BU1ABACADAAAJACABACAAARADAEAURAHAUOA
DAUAAUNAUrABAAAAAAACAVkBU.ADAFAAABAUBAUfASABATAWkAUeASBU3AUAAUuAUMAUFATAUbAUUAWBBUhAWuABAAACAUKABBU
3AGAAAU9ABAUgBU3ACADAUQAAAUkAUQACARABBV+AURARASAAAUyAGAWCBU1ABAGAJADAUDAOAUTANAUEAUCAU>ABAABU1ABAUY
AURAUjAUCAUpBWnAUXAAAWeBU2AUeAUdADAUcAUoAUfBU0ACAU@ADAUhAU@ABABBU1ABAEAUTAUHAUKAULACACATAUAAU!BWIAU
!BX$BX$AAAABXhAUUAQDX?AUvBYTAAAAAJAAAKBX?AUFAPAAAKBYBAUVDYPAUjBY5BX?BX[AGBU3AUYAU>ASAUKAABU3AVJATAU
hACAAAUqABADBU1AU6AUTAAAUAAUBAAABAX6ANCU8AU=ABAGAUDAGATBU2AU#AUaAYEBU3AEAUTAUUAUjATAU[AW1BU6ABAVgAB
AAAEAGBU=BU3AGAURAUjAIAEAU@ABAW0BVLBVJABAFAAAQAUOACAURAW.AUyBW|AFGDACAFAAACAAAVFAEAUeADAUJAULAUJAEA
V`AUKAFBBACAVsAVABJAAAUjAV|AGAUtBGAHACAVoAVcAV8AUNBEAU$AU@BBACAEAAAEAUnAULAHAUwAUEAUYBBACANDBAAABAD
AAABADAUKAAAUMAUSAUyAMAUEAPAUDAAADACASAFBBAHAFBBAFAU'AU#BBAAABAXBAEAV!CUwAUSAEBAAFABADABAAAAAAASARA
RAVgAVCAWeEAAGAW#BKAVwCAAAABAAABACACAEAUWAU8AUEARAFAU&AFABAUVAWWBEBACBBBACADAUuAV0AWgAUVCABUPCCAHAU
gAV]ABABBIABBAAV!CAAU1BFAUwBAABAEAAAXnBCAFAU~BIABAWFAUVABAUaAABHAACHAV!AUlBHAACAAEAUbCAABAV$AUNBABC
AAACAFAUaAVXAUJAXIBGABAAAAAEAU,AVoBCAAACAAAGACAVKAUJAUMAU|AAAV7BAAAACAEAAAEAUUAU+AKAU=ABBDBEAU9BCAB
AEAWJAUiAW|BBAHAWkBEAIAWXABDJBBACAEAFAV_AUHAU2DKCBACABACAHAU>AUOAUTAAAU,AWFBFBVLAU`CBAUtBCAU]BKBCCB
ACAGAU1AY4CGACABAAACACAU]AUyAU,APACBJCBAAAFAAAUmAUWADAVBAU/ABAAAABCAEABABACACAUlAUyAUgAOAU&AWfALACB
DAEAWGBAABACACAAAUaAVrAUCAEFVLBCAWeCUJAAAWIATAV*AUSBKAUgAV_ABBIBHADBAAHAU=BVxBCCAABAWYBUFAX2BKDRAV0
AUlAU,BFBVOBFCCACAVAAUcAUPBABDABAAAJAAAU%AV'BBAHAAAEBDAXBAMAAAV7BBAHAVnAU]BBAV;AU|AW2BLAUkAVMAXQBBA
CAEAUhAUfAWTBEAEAU~BV6AQBKAX@BBAAACADAUJAUrADAY7CW;BQBBACADADAEAWKAUkAWCCBACBFCEAEAAACAAABAAAAAVTAT
AUoAAAHAWkAPALAU3BDAGBJABAAACACAU]ALAUPAU3AUEANAWcCAABAEBJADABACAW>AULAV<AGBCAGABACABABAU:AU]AUiAUE
AEASAV8AUJAFAGBWPBAAAAAAEABAFAUUAFAMAUIACAHAEAJAU^AU]ABDCAEAU]AU)ABACAGAJALBBAHAW_CDACAGACAAAVmBBAC
BQAW=ANAAAV7AU+BGALAVIAUiAXIAUIBAAAAHAAAECAAHAWHAPAUbAEBBAVBAHAV7BCAU0AUSAVEAGAUqDCAFAAAFABAUBAUAAU
AAVpAEAU!CW;BQBGACAV.AUgABAABBAAAAAAABACAFABABAU#ABABAEAEAJAAAWACVGBBAVEBBAWVEDAMAAAU%BBADAV4AAAFAA
AFAU|AW2BCAAAFAAAV@AU.BFACAFABAVpAUMAU|AV8BAAAAHAAAUfAUgBV<CMAW5BCAU|BAADADAU[BKAGAWMANAKAUYBUQAV)C
JAGAU+BJBBABAAADAAACAEAU*AU6AU.AUbCBBUhBXgCUSBCAV%AUpAFAIABABCUwBU3AU@AUSAUVAOBWnCCAEAJAXYCAAU4CBAC
AFAAACADAEAUJAV+ADAURAWqABCAAAACAFAAAGAUYAEAUOAFAVkABAQCBACAAADABAGAV+AIAVDBBACABAXAADAUJAV[AUfECCX
ICWsBBABAAABACAEACAVKAV;ARAVWAQBAAAAAAAACACACACABAUkAWKAWkBBAU~AYZBBABACAAAJAUHAVhAQAU>AV(AHAUJBBAC
ABAGAAACAXXAVyAUCAGCAAUgAUpCFADBBACAEADAVMABAV^CDAFABADACAW4AJAWEBBAPBGACAV6AHAFAU!AEAW$BAACANAUdAU
xAEAX&ADARAQCAAUjAWOFDAFABABAEAW!AUhAV<AUDBKAVMBDAOAUbAGAOAV~BDAHAGAVGAAAU]AXLBBAAAPAWLAUoAWeCAAAAA
AFBAABACACAUuAU+CBACABACADAEAU.AUFAU+AUFAOAEBMABADAUQAUjAV9AUWAV@BHABAVQABAUAAQBBADAVVAU5AXLARBBAJA
EAW)AUiFAAECDCNAV2ABBAAGBABWQAUVDEAIACABAVLALAURAX7BU*AV|AW<CAAAACAUfAEFBAJAGAUzAV_BJAIAUzAUaCCCIDB
ABAAAEABACACAU1AVXAEAHAUPAIAMAVyAULAAAECBAAAAAFAAAAAVQAVkAHAV]ABBBALAAAW?BDAHABAVJAUfAUCAW<AGBCAAAC
AGAVOAVbAUhAVnAUUGVJAUmHX$BX%BBAX#AACU3CUBAXsBEDUFODBZKFYfAAAKBYrNYrUmPCBACAKADAUGAUVBBACAKBBANBTBP
EPDBABAAABAFAEAAAU1AV.AMAUaAVsBCAIAGAV4AHAUPAUIAQBQBBAEAEAAAFAVKAUgBLAUKAV3AX0BGAXtDAABAEEJCEABAEAB
ACABAW4CBAHABADAU;AVJAUdBDAJAEAY.CHAFAAADAUDAZICAABACABAAAUbALAUUAVGALAU@AWCBJAFBKBUQBV_AXCCKBW=AWv
BHADAGAVvAUGAXYBDANAAAVJAVZABAW6BCAEAUeAHAACIAV`AKBWlBEAEBEANAEAU(AX~BQBW|BWnDQBBAHAEACAUyAHAVXAU)C
SAVEAUvCGACAIAV6AEAUCBXgAIAV3ARAGCICAAGAJAUSAW,CCBCAFBACAAHEAABAFAUiAEAUPAVPBDAOCBACABACABAGAW!ADAU
lBQCLAAAVOAU?BAACAAAW=AUhBJBUWBBACAUcAULAX^AU@AOBBABAAASAU7ABAX#BBAQAV+DKAZtCEDBACABACAAAUWBDBBAIAH
AU$AU;AICBABAABBAKBBACAEAZoCXMCBAGAZ*CUTDUZBBACAIADAWVCSAW&AUhBU^EAABAFAU=CWuEAAJAWeBACLAaRBIBIABBC
BUsAV)BU!BSAUrCabBFAV$AUlCWsDWpBUbFaoCUbAV[l~e;AUMAWHAV:AVjBa(AVDAeZAUFBc0AUYAU:AVqAU~AV$AWPBcwAVCA
XMALAIAUEAU)AQAUHATAUzAU@AWRAXnBj_AFAURAUNAU[AIAX3Bc=AarBdAAYxAU.BiwAVfAABc>AX5AcHAU^AV6Bf6AV2ADACA
WgAUIALAU$AVmAUSAW2ANAPAUHBc#AX+AV/AVgAUUBk[AU,AacBfUAUQAVQBdIAV;AZ2Bd8AU>AU4AW&AWOBrRBe0AWWAX+AUZA
DAVNBg^AXgAUgAU9AURAULAV>BjIAU[BhTAa$CgMAVwAEAbRAABjNAU+AbHEpwJg:AXaAVfAUkAUFAY!BcjAUoAX&AWZAUtAMAF
AUXAUTAUcAU#AV/AACcYBbmAAAbHAWEAUlCehAbBACAXFBcMAWlAUaAZ$AU8Cl6AVKCmEAUOAJAV=AV]Cf6Bf6EazAX8AWwAZyA
WmAWBAUHCorBhYAVuAV_AYcGeJAY2AYeCc8Ae/Ec$AULAX3AUnAczEo1AVZBjZCcuAf~KfRAV?AauDfBAZ(BrUBljAUkDlCAVtD
brAdcGidBbFAXwCqmAU=BjYDhPBldFe.AViDjnCb^AVlAZqAVyAaVEb7AIAIAAAVoHgAAXnAU~AZbEiPBevAU@BfxBq&EkhAY7E
fRAV&BbgAWeAa7Bk>BbfEdDDlVCbKAeYGf*Cc1Br~Bo:AGCl8Bn3Bp?AU9Db1AfUCc'BqYBnQDd|CciAbXAYRCb>AbAAZyDeEAZ
`Be]AdzAVXCb4AY)AFAYFAUgCd1AaMBfcAVtFcDAeKBq$En3AEDk!AX[AHBrEDm>Ce]EbNEcMAg%Cg(AXbAXlBdJAfMAV,Fo#Bf
XBcVAj<FcqAWSAglFqpCb0AUfAUMAV*AYOAUVAU8AVEAU9AVaAXOCg:AUAAZZAUFBchAYoAXCAMBksCi%Ce^AaKAU<FoHAUPCjV
AZhJc[AanAYXBdwAX7Ad?BhuAa]BfxBk#Fm4AV?Cc/AY8CgnBc$AgMCl|ACFblAVhAZ+AXSChCAU%AY]Bc)AfzAW:DfwAZUAXxC
d=BnoBi]DnqBqeIi9CmzDklBb9AbOAYuCg5Bk`GkuHf0AX#Cb[AZcAc!ARAU&Ci/AVHBg/AUZAd/BmkCc4AjvDcPCm%BkcAMBo`
FpjAACldCdQAf`VAmuBj?Ck&AUeBe(AUdAX<Bm5DimMe]BglAUTBg/Fe&AdGDg>AZwAUNBkqAURCk%CcxAh)IhZAepJa3BfmFe1
EkVBciAg5CcqDqPBeEBbYCa6Ak4ABAPBhrLcBAZeAW(DcsAg;CnfBqDPoqGhPAYFDsrLeXBf8AZ8EflCs!IlOBWsCa5Cl_GhZBV
uAXYAVpBl|Hs2EBAMAY@CLAACGCBFV^Bj!ADEWABmIBGBGAHAUYEewEXTHABhcAVkEGAjTCllBUvAi|BUFBlSCNDZ=GEAUOAVmA
X0LjhDpDBm3ADBqOBRCj#HEAAADAVwAOAe.CW|BmMBb=CEAV~BJAisCq@BCAZwCocBUQAfOAcGBUjIjOHJHJBSEFKjfDGAV*ABA
DACDDBJAMAg#Ca`AZ5BYPBVBCq]DRBCGZVAd3BW;AZeAiHFqaBDAW?BXMBdGBJAqdBGCV_AmlBV5AjrFUWHaRAl/EFAVyAQCOAZ
zAlyBVEAdoAEAWEBOCZWCZZEWaCQEXnDdPBpjAABaAUFGCl6DJAckAhsCV[AhCAb2ChdABAECAAU/AMAguDjnAV'CkwDGAjTAUo
AABWcAceABAdzDUbEi#EY@GGBV1BVAAfzEBFj%BMBUPAJBn`AW,Nd$AV=DbyBcDAAEVTCDAVYAc<Bl_AaKBl_Bl_BUhAd=DKCii
CemCa5CeqLh;Cl|EERn]CXIAWWAiCEl6AWCEW6ACBcSBXwCRBjlBUpDJBAAU9AZ+BhrHb[FEAUVIVbAVIAmbFJBUhAPBWlAi<FZ
&AlvAAABDCAU|ChDFUCAWmBBACAVBAVsAj2DrsBq]Bc&FXeCc~EZ2Ab)BrCBBGlwDVLFXHMl0JrtACIZ:BUCDZ_GY[CkGFX`Gme
CX[JsODWdCRIc$Bg@Dc2Gj`BkcEU|DW?GlgCEFk4CIAUhAeSBUbKmtIlvBh_RXfCVgCmWBUJAnyDW:BBCV;FqoCnoASDNAEBjNB
DBGAV<EUmGUNClyChEAUzJFHQCU/CfKFcKHU_UCJBNDndBf6AXaHq=BBEfxLk&AAOUIDj(CW+BPKi|CPAUDAU:BBAUZAf7DlpBX
IBDFj,Fj.BJAdJEW]AkABgnAX.BW4DJAFAe%AU9DVfBV7AZ8CJCJBJBn~CXLBV5GNDl.Bk.BGAFAV;Ah)BCAU[ABABAJAJBV%DU
VAdQAh3ACDnWUCqXEJJV5Cd(DJAMAljEACdGJnXDk&BrlFnwBfVBcjDWQCWnBj,AbJCZWDj]AABmEAVBDj~Bj@CJAW8Am)Ch)CE
JKBRFWLCWHOg/BlsBABEAjaAc/Dd/FiFBGAV<BnEDV5BEIleCV]CVPBBANAmpCRAABZ]AWoBkPEUbBdvESAW9AavDPAY[CZ&Ee~
AdvBWFGZ5BZ$DaKAdOAYfBMAW]FJBDAFAFBV9BZ,AX=AdHAYZBZCAY!Bd~DXPCGAV>Eo5ESDWrCBACBm<Dj5DJAMBVBDVLDb<CW
nAi]CW@Aj|BkbCUEBCAU|FXuBVgBjZHV_JhHEjzBd`BJAX!Db=CXNBUmBGAV*AFAhRCBAHAFADACBJKABJAFAg9Bg'DV<AZ2AbJ
AWLCJAFCqMEDAVXAh$AHCW,Aj2DUwCJBc&CUoAewAZ,AXmBWQBECVGBVGBJBh9AZXGXQCGAe%AUACXeGDAZYAXEAcbGluCJAe,B
jzBV^ABAhPAUFBh+CZRDVCBJBbTEZRFJBOAr,DrMCQENAUeCJBe_Bp?CFCV#Ac/AXzDaBCqTFV_DUQDUwAk?Gm]FjnFXCBWCBhG
Be|DXeHREJGYABbqCmoCmqDUCAUmCW4Bg>EqTDXLBU/CXyCVLGV]GCBhfDPAlqBjfATCnIBg9BV9Bl6CV^ClsBGAV*ABADABAAA
CBk(BEAEAUQDpgBdPAACUABdNAgBAACpkBBCUAAXsUECAhUCZCDZHAj&CHAHAkHDDCGAk.CafDq~Eb;Bm4CXoCrRIUuAY`AY)AU
NAgcBUWAh*CqqDWcBVDBW~AdqHl2ELAW&AZcAi?ADDn3Bl6AV`AHFZXAb|Bl,CqyCWdDVDHAAe(BJAFBh`DW'CGACAEABAW`Agy
BJAURAi(AUSCUjAi]Ci,BhrBmbBTCEAECWLPVnCVGAfyPOAjyDECV?ADACCGACAj>BJNpBBVRAf2ACCdAAf?BVBAiDBjzCV]BWX
AZ1DW+Db<AZSDJCUsDg>CfgDXLAkzCayId'IMADAW)FZ_AlzUEU1Gr`Jb+AjtBWbAX1DVSCV:CajBn[BagOV;hus@AUuAX$AU^A
U1AVQAUtAQAVIAUVAU<By[AXjBtRAW,AUQAU:AU#AXQAV|ALAVfAFBy(AUKAUWAVdAUXAUFASAPAU0AUfAUcAUaAU&Bs(AV7AYB
Dw0BtPAXhANAVuAVmAAABAU'ADAUoAUBAUyAUSAUKADATAU[Ev|Ab|AUPCy$AUSAX1AUtAU<BtYDy$AW5AV[AUVAUhC4~BwCAXR
AU?AUbAUxAU=AUWABAUaN2xAV.B48B0GCu5AUyAd(DwgAX7CwABwBBy$AWpAW4B0jAVBAU:AU2AUiAU&B5MF6QH4OC1rDvlAcbI
uECybHy(AYODy5E5@D2lNs)I5$QygCuFAe(E4gB3oG2kAWKEx!AabG2tAUtD48M2dEubN1sAPAU[C0ZDv]Aa2BxfB53AUQE0XCv
uDy(Dv6Cu/Ac;Eu%FwTAWQL5.D4JHs(CzyEs(B2KCxuAPAU&AX$AXICyeAaCB47FwgFwkBwKKv0L3]DuzC23FtWFxhIs~JvsAct
AVrBy3EwgJ1)BzLJtQJtMAbqAVxAVhB0mI4~AAH0HQ15ByjACAW'AWZU+tCHv'I2WF2iD4)UIvMQvYUFzoMutF2uB4VJ2vKx,Fz
:U1s)AZIGv/SvpG2rMy$ItxAa!AAOuBO3<Nv%ByuUAtHFs|NvkCxVO18R4~U6zSQw&GuqFupKz=IylEvqAYbL0[GxbKuMAfWI4I
CvrUf0/Fy*AViAYQUHx_M2iJu&UZv8E3CJ2`C5yB2EUQ1*NwyJtNB2vCuFKu(AJJy:Ub2qUGwLG3(AVGUcyhMt,B53Bu|AUyEts
AV!E2[AV8G1yRytM1tG1]C1>AU?AUqB2'O0?Gy,QvxAZjDy7QwDFwHB3EKy#AZ=G6DG3sUVv;IzIABL1bCv3H11AX%F3^DxFAZ;
LvjQwTAAJ0`L3>UW1wFtXAWdQwRUEwRAUAE0fCw;BtZAU+Bu'AVSDv>G37CwzGv3Ct,GuEFv1F1qRwHPxZKviBy;GzACwrP4pBx
4UNv[AchDy4S0rP1EC1+Cv%E5;G1FEt@UJ3qKu.UAt8HxALzUDytBzdKu#G4SK36BubNynR6gMxbP5aUCv5UBy$Dv#AZwN4uUXx
$GwFL2LD6jFWaBJAFEUGABFmIBpSCGAV=ADAhHBl6Bq;BGACBh8Af8AUZDhcBt2Dl^DCAg:AACUCIDCg>AUhBx3AUNHUCBy$AaM
BPB2uBXfC0^FUTC2(BmNDXwAlZBtZBKAWuEb7CtXDUCEn?BUCCb7DiUCqmDUaCDBe]ApACDBg>BXmFpjB4/DVkCTDBAHAUQFXwA
lVEVGCW,Aj2ABACAcuAZ3EJFUCJJDUPDglHKAl.BrGC4tDh;AX?Bj(EV+Bw[BZ[Cy4BBAHAFADAVJAk0Aa[ALCsFBIAljBh6Br7
CdsEJCUCFl6CUCCUnBWACo(KWeBkhBV~BVaBUCBOBXLMo3BJBz6Ed5BiEKJHJAp8CGLJAWkDV_AhvDUCCUYAZpAHCJBn|Cl6BQB
WwChFBBDieDjYGWPDe.ChdAV!AHDBAHAFADAWdAUrAUMAl#BVDEilBW,AjyCJAURBU_AIBPADAUGFXwAlVCTCe]CJAWkACAhlAV
NBCAVQEf0DW5KU|BnQBrRBjDFj+Ce]CmJEd&CKAWuFJDJAMDf0CnIBo2By4Dq,EVWAf<ABAEBnWDq,DzLCJAWkAFGBFVLCl2DOA
XBBXIFxVGV@CwbBgqEz/GJBlsBWYCuuGi|Cw=G6fCUZFlREAFz)BnADg%CVgBoUPaFBV_Bm5CyrDVyHW+J2dOJBm7AikBJD5+Dh
gCUeAs#DmEAmvBb:AZoAl(Bi#BjqAn+AACmbAgQAZ=BwXFk9BqsCWQAmlBtZDVbBV<BZTCUDAUDAs&Kd?EoWAb,BUDCJCUCGm6E
gMFJAdiBwjBi:Bl2AddBVBDhUBVWDGEZ/G53Bh&UBz<CecDp$AGBo9Dz~Hw1BVDBtLHQBPBfBG0+CZeAiYB33KPADAUGEUCAVPJ
2JBAAUgCZ/CW4EtoBb8Rj8BhEBVdDVmEb*BxtBDBV[AhaGt0DxfEVjKUCBb8HUmF4+CypB0xGl6Gs@Ek.AAB4VDm?CEAKAHAUDA
v6C1lCr'B4SFBCq>Ev5BfyBy4BuXCaFCECUbD38AAAWKCq9BW5AECVYDDEcIBHAdjB2'HVVBkHBVVBfwG1]AAFj_AU5AX4BUYCt
kDUCAuzCVqEorDVbEZcCjLDwSB5'Do:BVWAbzBi5Ag*AU@BtxDV=BV6AWKGzzBDHwHBWQBpdC21CJBBAtXFU^DJEk%EJBjqDUCE
adHj*BJAWlBhIBVDCU'Bj1AbqBzTBJCi=BrXAV+B2`AUvAU:UFUCAUEAWlBu5AYHAPAVCAW^CjQAp5BMDseABCUqDhKFaBCLBm3
Bk&AABUQBcqBoNBqSGt`BJGmYAa<CWYDBAHAFADBdABw[EpBADBl(B53DrQUBXjLj_Ap&CUCCUCBjqDTAUHAs&DjQAXXAWlAjsC
zsE0fAW.I4/BpiJWQDmvAf]D0WDPEUDAtBBaBDZyDe]MjzDQA0$LZ/AHBhPBg>Cj@AprBzwBnWAkSAUNMn]Fx3AUNB0'BnzB49F
q2FV?ADBm5CtmDUbCeFAh9BUqAeOARC2~DADUbIAAWUeO$uAUNAVmB!PAQAUuAUIAVQAV<AUPAUmB$uB8UAU5AVsAEAVPAVrAU%
AVfB!5ASAUfAVQAU+AV:AFAUTB7AAZZB6:AZpB$uB$uB96AAAUJAU/AMABAUgAV3AEAVUAUgB$uB$uB8UB&^B9HB!gAIAUOAUaA
UfAU6AXeE!MAVGAX7AAAHAU0D&dAVUAUjF6#E%SB%SE91AZBAUbB9eAWKC$uC$uD$uC#ZANAWNB#nAUlAUkAU3AU<AU=B%?C%?H
$[F$uH$1J7CH6<E![F8^R$fH%bC$uUG#_I&~H$?AU3C#;I7kC!SQ&eUA8OF$uN7_B(eD(%N7>E8^AUQL6|UR8IC&1F66I!@O8cL
$6I!?AU&E8^AUQJ$_U$%SUy!GUJ7CJ!7ADC!#E8EAYeAV(I%5UH$?N!xUq7*Ux86AVnUL7/UN$NG8jJ8wUG$_UF$uUK$uM$uUC7
'J#sH%~Uh$uUf(eUH$uJ$uVN$~J#gADG7JAZkM#xT$FUL#]UW#6C7*UG6.G$uUM$%B7ZUa#CAXfUR!fD$rD$tH&aAAM!hAU&AYD
L#aF!6AUMAXfUY$uD$NO(eUA9XO7?H$uJ$ZAUAF$uD7BO6[S$uI$|Ui7jI&JD7kR7AUh$uUb$uUQ&gB%cN78B7GI7/D&yU17DT8
@AU'F!iAWiQ$uB$uG(OUE$uUB&aB$uUD&yM$jF9UUQ$uI!QUP7AUB$uN&mUM%4H%cUA6qF#)UJ)XM#)M8'H!~B!_E!mC$uB!uD$
QS6^AZgADQ$uI6!T6^Uc8NUD9jL&pC8iJ7pC7NL!~AVSD8VD6|UP!~I7GUy#ET#|G$uC$uB$uP6^UC$HC&2UA(eF8UD8zAU3AAA
ZtAAB(+E$%E8UUI7qB72B8TUT7bG$YUK!oF!bK&bE&aK7TB(eB8OF72H8SAYHJ#yAYID$uUG8XI7MC6|D&|AU:UK#nD!CP(>D8B
J#)S#CN#gH!~N&#M)XD7cK9GH)LJ#1ACH6[F#fAU5F!]L#PL8TK$jB7BJ!]B!pB)kO6vK6)AUaB)5B$aUK$jUP&[O&yK(6G9mAZ
uAAC8+Aa)UA#4UI8SC$BH!=UI$3F9IUB7|H7xF9*RV=Bu+ItwBmEC4GEJAwPDsLAq'BhUHU!Ag=CAEVnF$uCRBJDTB#YCp;FECB
ANADHJEu(AJDtwBJEV_Gs`F(6CJAv/ChsAvMAV!AUcABCHItZGUmAeKBi8BfyF&NHlXEUXA()BUCDVoDVdC)gCX(BmTIBBPFiID
UYB!~DBACAKADAXHCf6A4(B7dCPAUKA6xADAFG9(BXeC#5DVbE(3AUmB#iBoNDxIC3NAf~BUQAV+Aj>AHAYIAIAdnAY6AZ&DCAU
|IlBEW_CUCBs5Ez2CpzB8?CcyDTA7EAU?AX[ATB#6BZ6CVdE)ZUDBBo2B&/M8UIBBZ|H59Bq9Dt~AaOAhuAUxAVqC2.HVVDwUCU
CAlVIOB96HWLAdSDUDBUSBUDC4*BVdBDAVUAt8BXHB9:D(7C$aF2LHnBEo.BVdB(eQ1oCf6AbIAWzCU'EacB6iCQFd<DtmAg[B1
XKk4C8iE4DCm7IJAFFMAW(BVWCUCAusB!PId?CgpE#eBaMDYcAAD8>AV!AUcAYDEPBEAOA$aB2zDUXAZlBfhEWlAj`FUVAADnGD
n~DV[A0RAY*AX!AWzAAAUkAU:B9fAX:AW+Bx3AUNCPADAv/AeqCl+Ck$DjzBnUB(eB1ADpyBe9BiHEk(By(AYOB9SB&yFBBy$AZ
=CEBVYBzcAe=BleC$$AXEIUDCPADAUGA6zHW1BW+A2SD#iIUbAAA5~AUxC(eB3YAU*C#aIb;AbHAUWAWnAU#AXdAZpAV'AOAUBA
VCAV$AUvAUCAULAVjAYbAAABAV:AUkAIAXzBZ:BfkAjcAdpD$mB#bCoHFIAWRB3KCABUCCnWAj9Ac2AX?Bj6A0jB(eCUCDZ]BwM
CUCB2HDOC6<DJD2[AV8G8`CSAtbCWeD6;CbxBfQCY@CUFAX)AAAAAALuGB3xG(wB4.Q0iCPJj*EW^DwTFVjDc7Bz?Bz>Cl_Bl_C
x@C7.ByLG6vDt~E6[B)3IgzCV^BwHBteNpHDaYA85IJAFADBs_AfyAapDBACHt~AaOAABVVA5IN$YCq9ETHreEPBuFBfzCJBJB8
MGiZFi7AoIB4.B&RCUqAeOADBxaAb:AUTAa`CzDCJB##D7jEUCBV!AqRAeVD4.EhyB3ZEUDHEB!~Ii2D!_Bm9AW^AMAYCAcKIa6
EW]AkCDi@Q)ML(eDKJ0fE#3H3xF!~AX^B2`CJCsYcr+wAUBAUFADADAVwAXID.OAU6AU&F*SAWBAUqAKAUDAUmAV(AHAAAU$B,u
D+vC*:AURAUlAHAZ#E,:AU0AUGAV=AU!AUGAU#D.iI=NB=NB=NE*hD:SB<tC=#D+*B=YB;CAUpUI*8S*hC*hO*&UY*)S*iP*PUm
;)K,)D:UUQ:aUi=8U;=NO*dAUFUv;,C+gUH;kWp,cO:qU|;dN:rUi,GU8*pR:!B*(P*PE*PUm:>U=+?U7>NUx:RU/+4K<CE:^C;
rVH*OM+lU=*iUl<CN)/AOABN:ZM,mUH.jL:WK=MI*MU+)<F)7VX:NP;dC;dF:JAU`H;dC;dM*MH.7UX;fUH.0UM+@UD.@E)!AGE
*~J)9UE*GUA;EE+QB;dUM*`AVaAX(Uc*:G)@J;rU1.%N:dUX,mUH+FUO.EB=vAAAAUn+LAAUb:eD;oAVMAU)AQALT:rUj=2I+OU
r<lD,oUF;sUm+>UR)*UE:]UU=wAAT<WO=eH>QF.RD,CS):B<mB>TC;UR.RUE.,D,^AV0AVdAV%K*NK*>UJ.RI,GR+.H.:F:4D)*
E:eD:&AUqAWpC:?E=!UA+bUe;rL=cUv;rUG:$UH)*B.sE.sVc*6Ug<*B.7UA,iT,GF*JE:XUG,;Ud+PB;jUH=2P,tUC=>Q*pAUL
AURAUlAHUo=qR+xD.KAV,AUeAU?AVAART,!F<XUJ<,T;BAWlC;sH.,Ut.yU5+/T=>D*7UX:uD*:Q;tB+OUb;&G:cD.RS)XGb?LZ
_MUaACBAAPAeTBUaC5LE83H:5CAA%ED(fAHDCAU|P!pDk^Ao]AdoB58DUdB6PL)pBUXCAB,iD&aB5FAUYGTBewIUFB2ZEZsF$lC
ECZ?B>cB63Dk4Ad*AstC!:Bo8B)zE%MBurCw(JJEe'MVVBVVBVVCwUB&5MUDF,iBW.Hu5Ak&AAAbuEUmL4SDbSC1vHW4F:9BV4I
)_BUVCuiCEASAtBCweK&6F$qB$qD,^MJBjEB0^H;/AAI6^IUaCx3AUNCBA$sD3(D)XFanBf6B0^H$qKi7BJG$oN)DB3%Pb)E$uE
k^Ao]AdoBcQAdVB53BtnJ!pBw9Q4.FtZC0iC)qF!=BcfAaHBe]CU'BV^E=)F#tF(cC3zAjzAV.EPD)qC01E1@H6[FuHAjGKUDPJ
AFEPBW5CTG&]CEA#>GUoI*RHtZB72Hg<Bl+UA=nKTIBKUDKkICtgBUDA)4BPA6+CBAY>BmbArZDUDDm8B0`CUDBUDAtBBUDCUDB
mbAv|Bk^AlTB1MBUDBUDBt]EsfBPA7BJ)qB)XCmbBilDlsEt7Cs0D;ePJC$jF4QB%EBl|C*MBV3FjmB6^AZgB(dBy6H.1Dh%Ar!
AUCAYyAc!HEHpdHX*Ah*As_AX^AbLB2`AUUPqxG2`AVHC(SCm9FW,Dv+EUaZC>4E>|B>qE@@AU3AQE@HB?/B?;AUCAAAVcAVVE>
yAU(AUbAV8E>!AWON?IK?WUW^NF]7U'[SUP>^UH]SUC>nR@RK@UWq?lUa[iVu[ZVc]nWo@aU%?SUJ?vUJ>4V7]zUe^SVV>oAAO>
pU8[#R[>I>yU1>pAWYUI@RUh>oAWZV#>pK^NM@/U%[.U[?HAU0V^@6UA]eI[gB[SUT]HF?gUT]vO><U*?CUI[gVw[rUf?+VM[gH
]xABUO[QB?fUe[YUZ]eUI@,C]tAU6Uf]lUP[KK]CUP^SUC?*N[gR]xUv^aH[?J^ZUS^CUM[OUs@cUt[qH^jH[yM>wL]hG]ID>_U
X@<Vm[kC[5UK[yUK]7T^FU1]tUq^RU&@jUA??J>jAUFU5]BM>nE?.UQ?zUb[LUa]jUS]jE^fUY?sK]jC?bAQG]jK?sG['UA]lUt
[$Vk]6M?`B?VUw@ZVt@/U)^dC)|Bl2BUJAAAAAX_CBAUYACA@4JUVD(wC(wB0iAv5B=KDwHAe!BFCAABAAABAAAAAAABAAAAAEA
AAQAAACACABAAAz7AdcAa!AKARACAAAUWAULAUrB:)ABLUbFiaB8.QUbC#3G@2ABC8SD06BEAUVIZ:H<bIUcCcdGwHC#/C)wD[[
AUZDiSCflUA*4IrGHEUCEBUrJ:,M,hFUDBUDBUDAv^F#FHu,F?^BBF)?D.OJ&NBknEjND]OPr'C5]D(eCUaEX*NYZB7JK=GDCF)
bBUfBUfQy9At^G#dF[NH]vULh%B]zUA6uJUDHEQn|O5*J)XW*|~J^^B^:D_2B|UAAAAAAAAAAAAAAAAAAAAAAAAAAAFAAABAAAC
AAUF_CAU%U?_#U2__UE_TU@^wL_TVr^,bF_KVj_XWe_LAAUt|/UH|`V_^zAWQV]^@Uq~BB^zAVZXT^zUo_AXm~QVW_(J|2Vf_vU
6_.AAACACU(_,ATH__V)~VUF_LVJ|5UF^xXz^uU9^1UC^#J~OUc|zXb_^UL~LQ~LUY_eUS_eUm_eI_eK^/UA_wUU|yV#_QM|_L_
BVh_uU2|IV!^&Vm_DUD|CUG|HU)_xUm_VUMlREBA_`I0iAv5BJE$=AV8AbQUCujI63AdkCsdC4tD:DB:DAUWAajN_oDq+J4*C$O
F=2B<:PEC?OH+KT?sI(_BoKAtvI79AqQDVfUB)UAhOB]3B#DB#DAmfP^]B&2AkIB&2D^QIBC=fB7EIUDDBBnzP#pB%>E<kB9mB]
MD@iB9:EbaVr~|W0/7WD/QZz/aaT~*Ub/=H~5Y;~5j'/zUo/>B~dW&~5T/wWI/OWV~4L/rU./DV]~&Y^~eUz/[V|/oU(~!N/pB/
pAAVF/1U=/FC/AUR~:K~1I/tVo~/Uo^HOWqB+sE5`G_CB/kC3,B<kUCVnCi7AYmCi7AYmD&uAbkE/^BsFC_JHBN?[C/qCs7D5+D
XCCBC>oAakBUaCx&Id.AhSJnzAVjD?:C]IC?#C|+V*'vU+'6W7'lg<'2O'vW>'Yky'9H'xVh'8Yr//V./'Y~'XZW'%V:'KX''cW
R'VH'ZUl'uUe@DAb^K7,F=HE~'B((CBF?]Ij@D0iE9'CY[A@[B>oAajD[OD^YBEHBA>4D?DB,!CC4Y`OACb%'>F'~U@'=Wr'(X=
`QhD',VZ':Ud'.F';Uc`JNp4KCC'$B'MB_CAWsB'1BZsC'KBY[B[NC5_C6[E:uAX|E^bB/;DZ/UO`fS`XV+`lW8`Wn7`lyO`Vfi
`gUg`ZC`dU#~dD))E^'F/pF=2+*`9d[`zYj`5W`UOBCAVEBp3CY@B[#BtIB'GF~#`p`$M`(UD_qEUOC^NB^(D^xB`AZA`>,r`=V
W`]eyY6`[`_N_L/t`'"

/-- The names of characters, written in pieces. -/
def nameTable : String := "
Y@UEoiAqX<OP?+.~P3&$Z!F$Z:HP&FP?=7L^B]v!IPuHP=^P*qP62P(5Tk!Tj@T1[Tq9Tq+TbaTs^T!5TrWPuGXY0<P(d$Z=qP=
Y$Z,MP[7^4'>^2P</in@ZP]4P%q,+^3'>7H.sP;b7L.sP13Y@UGPd+5T$f$W<OPuE$ZNkU$Z!e$ZeG$Z!cp+P7$$Z;NPqgaE2u$
ZZcc(l3WLMwD$TP,&3%_YrN$ck53QPXwRIhuVB$Zy/PwuC$Zn^UCzD$c+uj@T1[P,]XZId2$ZXGLuD$Z<>Xbu~w,7*k:XLVhF3r
WLMwD$TP.q3%_YZ)Lo8*^98tKB&!Vd$W,M^4)7`FDUb)KVkbI<(E)+'r*D'rg&*s&r*C`FVd|%^4H[*)`'r*u&Ltq:uh*SXHVY)
7`FDUb)KVkbI<(E)+'r*D'rg&*s&r*C`FVd3?$Z@IH[*)`'r*u&LtqV2@8|o%4|o)T|o<Z|h]:|h|]|h]@|h]/|d]/|d[+|p%4|
p)T|p;K|p<Z|V]/|e|]|e$u)T|e]@|e]'|b|]|b[+|s&t|s%4|s)T|s<Z|s9_:u9^I[JIUS^#US|][I]'VqXu|c]:|c]'|c]/|c
<#nW~p[+|i]:|i]'|i]/acpH37&F|VZ1~y%4|r)T|r(zUD[JHC~s]:|f]'|f]/|W]:|W|]|W]'|W]/|Y]'|Y]/|Y[+|q&t|q%4|
q)T|q)K~x(z~x<Z|j|]|k|]|t;OUZ]:|l]@|l]/vaDVt,t|g<tapWHp+~lk.ba^#&*Vu]%|Uq=zeMVo<tapWHp+UD)[31>!$=gt
qwE2HbJ]%|e<2RfU:uW$>!2pI[*Q]%E*Qp+VnAXUnH,b>!!=c%],:u*s3h)G|r$%&utq~mI^#N]%*daE|Yk.j@~iVc*d$=goJm;
:u*B$8mb|Y]%|Y/z)`tq~ky[Vz<2UY]%|l[+|VaRUa$<UD*wjN*dj_,b|Yk.q+UD*d$W@yU@sXBtx9FB8XuMBUqZ&kaSJuMB<~u
M|dUZ<&Vo,u(eUZ<&:uW`<&|cZm*Q.8US:uLUS|iZm*s.8US:uZ4|U]/|a]/|Z]/|X]/|q;P%4|q;P0j~x;PqSWQ~x;P%!)[C|o
;P%4|o9_,U|U)+%4|e[+|e]/[I]/|r<Z|r$M,U|VaR]/Vw<&|dUZVo,u(eUZ:uW`|e]:|bZ:WjV0sXVx<z~w)KJ9L~hC]:|Z[,0
j~w>E|o]!|p>E|p]!|s>E|s]!|r>E|r]!|f<4%!|f$u]!|q>E|q]!|W$wkpwR~l$wkpwR^#Z`Xp~o]/|i<3)G:uM<5|ZF^#UZ]%
|o;K|V]'|r;P%4|r13,U|r;K|r9_,U|t%4Vn<5Vx<5Vm<5E;JVoZH3.VyN6`|o0`Vu[+|c$up+Vm@#:uD]~V3]~>!#R~t[*Fl+)
[Z(C[+>!US[+|W4V>*JjN:u>*JjN|f[+|k[+)[Uk0Q)[0S<2&*Vu<5Vo<rUb3K$=gtqw*w3K2HU~<`CUc#n3Kzm<`U~;J[*R<27
*R^!R:uR0Vo;Vbtq)[W7K<2KhH<2I[*lb^!I:uL<#&u5LUb^FVnhV)[O*y3hm8Vp<2UT],Ub^F^!UT:u5GH^!HC:uzm2KblI)[S
*y3hm8Uc3KS];UbjNUb5()^S$u5(^!X3$WS:uD<2gr;J[,3Kbce%$=grgo<5)[V?G/zFl+E6;Vz]&d|am^!UY:uUZ_8Ub5gEhV*
w5g*d#RU)l`aGXne]6Nq=qOcQB$W#RBhxGxbZQZGmy9F#()XUP:uzm2HC^!R<taZ:uUS~Z!=Q^!L:u>**d@y)&@y:uW`..MhV..
W`6`<5VmD..Ggo..GUQ6`<5VvhH..LD..LaQ3.*dZGmye]n3qbh#gFtxe]n3qbh#]Z*P5(umjN/lK*w3KZmS)[S*y3K)X$WSV0V
2By~B(xB!=uHB&F)&uHB.oB,%B#R)&#RBy$#66u#6B+tB3(#6B]4Xbfk_E;bBy/B,]B,+6n;bEy/E,+E,]B=SB2[=SB#cW~.oE,
%B1fB(1B!IBzD$Z5UP9_P)KP$M8f&s3%,]_EdJyt3J#l72#(R0VLVlV1)^#RB<M11p;(al+a|M.,cl.,<L11p;sS:k(;eEXo:k(
;r622V+AtDAjX6t&F6n3(#6E+tEy$#66+#6Vs22$%,+6),+Ua,]6n13B4yuG05(aBhM(a05%pBhM%pf?W>B2Hh+W>6ny$#3!g,+
T,]T]4T13Ty/Tk?3t5UT9_T;NT+<T)K7P,]X8fkT;b]J;b6],+T=ZT<gT!=5o&I5o&I$=5o&I5o0i)C,+$o,],sjQ$o)F,s0s&I
tqT,%$o1f$o(1$o!I$ozD$Y#Yw4e[sfmb$o^F$o9]T;N$o4?#Y5o#YUQu~T$MT;b$o80#Y$W3%fhK$oqSk&#Y]4$o5U$o<g$o&v
Ty/$o%r3%%r14=!1O]yTm?]yT1O$g=!m?$g=!.o$o$W80#Y65#YVWUvi1$oZ]&I!p137Pk?3tzN.F0k.F%#((U*HzVB:lJysB?H
T80&I=q$o3%;b,s0s#YrR14&IW8XO9r&I,>.*%k;=*:;=t,VCU'5:7R<AT,%.*ZcSn~ATUX,s;`7R;`Ef6+twRB(R.*9_J)C;g$
o3%4?#Y7m]J5UwRB5UBy/E5M13B<gB[3$o@IAeRIeVFs2aZadagaYUaUVal.=>TKg4^###DfTUDX!i%Uq$ats$tDcP>!XCONW(L
y43+UDY[T?H8p$=@t3#@t$=3#9>:a,M|kWEp9ysT:lJys|m<qWBX4rOjeWX|Vy[]#g4]#+%yspz2L<qWBpz.&ystH)7ys:u+%]W
ys>!`uY@~3Uk+%:lE.&:l:u0Q]#6v]#g4]#lb]#.&]WysE`u69Dlp~3Uk+%:lE.&:lE2L]#.&ystH)7ys*gXeI:ap@:a,nT.&mb
:Y0kf6mb:Y;Pmb:an=:a>~XeI:a=|Qkj:u##Qkj*dVZlp:uVZlp*d3+:u3+*ekj:uQkj*dDfT:uDfTP!f>Th+I^#ZcI^$W6I~ok
r~rfzWX~jmh~qCIUD.=4k:adJ:a9>:a(eZ`G*g,nTm&jV6v:a$=m&jV6v8N|WW8UD*g@t(eDU3UDTdJ,t:a)X$=@t3#@t$=3#9>
:Z83>TWZ<zEWdVoq^Rq^*;WZbibHZ~W:XxDh6UC*;cKWbq^Lq^rfEtPVqq^I<zE1PV6Msla$<JWZE6dEWb1Pv~&UkKE=oVKtJGD
,lKqq=+io94bfsMZ_:ua$<JWZE6dEWb1Pv~&UkKE=oVKtJGD,lKqq=+io94bfsMr'WZ<zEWdVoq^Rq^*;WZbibHZ~W:XxDh6UC*
;cKWbq^Lq^rfEtPVqq^I<zE1PV6Msj|ZoM^#r`~zC^#=`~z=`~t2x~z7c^$Va^#c2^#ZfV<~n6a~n6a<4,+~kQ~s2E2K~moM$uV
]GW:~mG^$kjUDT&2DwH[EV]Gm(w4Uq8KB3wJNZuFn~Uhy@JNZuFn~edHc@jsB#C&2D$X!N$Z83>T1PI<r^#hmD94~iS<s~rK)+V
!tQ~rW6[+|eW6~Y|lK'NUZ'NXe][[IA@$^$A[+|gewQWjWvA~iUT][[JhGo(^#XE~Y>!#$JmA|VD][|Y'N9YF^#9YF[+|bA][[J
jVGVW~uK'Nqm@$~jKmA>!#$l;^##$l;][*dntWOKXe|lK)+)T[IA]%|VL<r~i*smb~i*sjN^$W4XeDh6l;~iO<rUDEntWOKXe|o
)T|o]s[JUoWZ~n)+)T|Wqw~jqw|[|lW6|[|lC|[>!#$JW`C~n$u%4|s]s|r]s>!5GH^#5GH|[|p]s|q%4|q]s|q(z~uW6|[|eK'
NsGF|[|eW6[,mb~oA]%|bA[+~BW]^$knM~+UZ~+W`~+L~+UT~+D~+GZl/haM~iL]%|cmA|fmA|kUi^#Z9^#r=|UW,iuXe~iL~Y|
VUT~Y>!N'NVcK)7/DVL],~qaUW6~qqm~iL][p0#0>Tf+dqVrlhnGhCicEg)g#WCsllzVnIZ>V1g)qNQhEmVq[XpUriPg)c$EsQd
,Eh;Z*iPAbjKVwmSo,VWKiViCZ>iLW7ZUV2IZ>yWiJW7HW7q3Y[~f,%T&FTg[W4VaD.<]8uHT,M|S]Zf+f+dqVrlhnGhCicEg)g
#WCsllzVnIZ>V1g)qNQhEmVq[XpUriPg)c$EsQd,Eh;Z*iPAbjKVwmSo,VWKiViCZ>iLW7ZUV2IZ>yWiJW7HW7q3B(nhCW3IZ>)
)sR,b+FT3Qp6)J#0C1rcL$Z%n#0C1rcL$Z#0cuO$eW6qKUWJ72JU/ZsKV<f;RWGf>Lh+m4gcUUVKJZ9b7VrUrWGf[XEl_Xwr7gc
SZ9U)ewV<gZV]Z%V>Z+Xvo$grOV,MfQo$h*aAOU>UwZuaBnxBjWlKUoXnW_LenseBUmZsW!W4Zdo2XNZsW54TAo2oIo4XfZdmoM
fga7Urn_jWlKUoUUg4rCsGUpWwhGZ`oUHm1WfFZ|W]mdaPrP.[XLDkw;94Eh+Z$f^GU2l#RWGEw3VyAn~VVW9SWoU&hhgeVFWGB
w3U>An~VVmYfSW4hhwZZ$Z%Z#p/VVwtten'Woa^V>R/gXLd:T4Eo//gnrVMT4Eh>thBbZth/gDk4nrV,.[#/nZy*nW/gd)JW4Zd
o1T4EZ9n~VbZ9b7Y/[GchgEGu.x~g5mIZ$Z%UZ01Kg5G0)6oc:9Ng=z0oHa^O6o^?z0n6C6oyoByogTZbpE02GU5p9sOJ:&(naA
MniJ3%Z$Z(Z$UVJsO6)sO/go$goBo$h*aAOY`P0e.~$]fsKTq!rQ7BVG$]U2l_VUXVUm>6(<&H[>qecXWET5!w`0edBP[>n3Job
W,$X,6$ZU2RcYI$Z0d$sW@V>9*TXFCytryVW$dy5XPDo*hZLfDmWJ0Il]D0~B0IJUj0~f`Kn~i1UpJ0IBo]JfDmWJU3cbjHl/W.
D:tjEE(n+h+=sFiclw5vBtvBt78n*d(>&XG.<%e_B.<,M*eewoeJsFB2<B[sJ&J[/+d[/+h2<wR>h[/e'U.g*U`cSSp/ebg*mRq
~f^W5o5x~f]e>pCgclwhi03f=x/BjEgcKs*u:U*C+::~=3B*r$u<eUb:|Ub=4TvwVA*dq3Bd:9NBoKgQk9mRz9=jgZKT5wT#GT#
LT5vTtvTt7T1I8mTw(K.*[/#Y+Te'T$Wtv.[rSJXpFrhTaSfZQU8>463UV6[E[(6[E9]T$=tvT5v$u&(Tx22<$n[>`XVD0e;TnT
XLL9*T&2D9*T5+4Ghs*d9^p^d:U%[uBe'l]Dmq#nx2.S7w3N2<aVchUaz9)`[/3N2<W3g*Gg*V>mRp=W5>]4@=4J9/VVNg*CmRZ
CmR++.SUa9w!p0gZ7U`BMsF>e=5b_g*qmmRnoL,24@9]ul63jEa?l/Bnol/BW^L,2=4J9/Vj>VgDKgA|LUa4@9]89UV$p9]?w:|
U<U`?M>V?L9]?w=3um=4+j:_Ua=5+w=4,S=59^q3>fnaoZMwR7vZ&K>f=3U)CmR+c+@=5XfmRVieyc:+k4@9_U=R+k=3f')]pdB
raU`f'$u:_f/U`f'$u=5+=63UVUa+@=47w,L9]VrKV+rCSrS>g4@=5mKJW_fqewOyFqmK<8B+:sF6[VrHe|#n[/V>W!n`p/UoRH
e>+dpdU*IxDb'b'V4sKQIxDsK+d:|Brt*r>hjN89Z%+d9_BC>h=3Ep+o`*w.S+F[GC:t(nVUM$u+==jUa+c+==jE_CEmtJe'Eq~
E&8EhiT0[AsBThs1*XxZHg.KWrUP:t#TsgEV!4.pIfz1bsgE9^mNtfo5EoK|Hy(hiB3Nw(Bz9sFB3NsFErST(.VUUSW@KT0;#dy
(tA6(tAT#T3NtA$uq*g>#c8py(oK*dM*7<e?M<eP~;`fP,@h+*(9],39],k9]$]l1W9J:HEn#4DJc$*d+:<eXY6YJ0[!EX5i!y+
[abWy+[aDi!%vpf%vT=>uGxIWuQVOg>y#)CDi!%vWuXfZ;M6@pf%vWuQVOg>)Cdxb>uFX6ffm0ZyHp>ikXMV[p>ik!yqbY@|S[G
W+n;D+uUqAn;p[U+Ute@o8h,Zxx~e&B9^W@mrW!pZB(Wa(BtoGg&o8h,ZxU]FMW7mIw=mtUrKa|OgRf;OQe&6oVWOXej!U_XE)&
N!3Z9n;pZ&SB3~y4UPKg&Rl'e@crmrKTNj9W46]5M3!TUZZ9n:6]5M3!TSp%A.+3#UZmtUo=<Efzi2X6p%A.+Kp%UxU|UjUo3!T
U|UjA.+SZ:W4X9g^l3nWTZ#Vch*Z_TXxQosW4Tj_!p39=lT=4E#Y2OJ3r0h#YoQUQTp+XwXhY[*dDWKMy4silyo1XIVvVD,@ZC*
P&9=<W?$p9]tZ=4Ua&9@>t~Uff6:~:_?w[($p63Z%++:~&9@>t~,2:'wRtZ63jEUa[(wR?M0`?L>V,S:~&9(++[&J]p>f:_Ua&9
@>5MXf+:+@=4Uc@>5M+^9_7v,L:_89jEUbZ%+=p+?M]pUa.S?L]p>e_rwRUef6&(?L_rtZ&(?M_rtZ&(>e_r6]+h`qUd1_0g*r$
u`qUe1_0fUe575M+d`qUd1_0gsFl+o`$u`qUe1_0g++'j57t~?L'j57&J<e+k:|Pj9f0(emBh*%HrSFf`a2azLW4%HXeU2V4e[Z
dU?AU5V4oKV4ZaU2V4crUqifmBW+UtihAU2ihZs%HhiFa?%HaK%HV<%HsCXC%HZk%Hql%HjhUhKmBo1ejAUqFgcA03idAUrcbW@
UrcbGb/Hs*Fu:V4Z9U2FgVU5FTfn5)AfnA5)IZG5)CCp=5)V)F5)HWNHH5)CZC5)VQZCUY5)WNH5)HfoAq)8m*dZsAZAPUTXgJ`
XC[GBbFk/Fs+Ha?XrAbZrHU.enU&a5eouqo=SupXra4eeAx^rDZ<m)WAOeqa6elgXr/riW2Hm)WAZorDq[qqXuT!g1P(aE%pE)B
B3hwv3>jqE(aE%pE)BBxn8K.:3%9_T(aJ&FT%pJ&F>5HWFMbRhDXrUuFdEVLxJT]8W+ZkriceY[TMf3Z_ceTW_Skk$ajGU3$cUt
fbb7@`W+ZbqHU+Ac#x~e#WqU.azeNBlWV]b&itXeU2a=p(a|OgRU%l2Ae#lwZfBb+UrWqU>FZbpZf>ZtV<U2.[lwIZ2UqU2BHZY
W.h9Bwt~fCc19rZ'G.[Cc19rZ'G>43hgsEk?3ha03ha0a0k?3hAvaUkA~f1P^u1PAvaV6F~fI>43hlObhDtM.[ZuZ#W@AY[/gZu
Z#MazU2VUU4Bfzg=ZBV4UmXLUlf<WqZ_UqAA|S/gXMW:cqJUUWchXaPZ9a7Ib+gcVKU&i.BffAU3idk4oBZae#a+AUlp0t3+(l/
Z9BU0BUvBfJUpBimbRUhU9BlWUmV=UuhXUuBe>fQftUja<BfMUjaLU4BUwBewBe#W^h+rhf|Ms*X4ZjS8I.<xw8K.<?1Y[^7p0D
6Y*NOe/AmtJrcq[xrjCrhVxrhVtl|o,nAiEmqVXAp!,@+h9E5vUb9p5v8!,x7n,xUa9Et7Ub^Iau2E9_au2v$>Uby$$>Ub$>$p+
@9E9p5v?w4.,x?w9E^ItZ9_Ub9p5v!]4@4.,x!]4@9E^I!]pdau2v2<Uby$2<TvwC*Qk?hyqx2<akU6E:_*dv!sFT5C3r$>T4y$
>*d,L[(>e[(wR>d9]Ua=3U*C+::'$o!pjNp1N2E(<&IXGAhx7B6[Y|:t6VUqUCZnaLy(6VlKXLAXXlgUqAsqDmQTw(l]AZpUPX5
[ucUo1VXUjT(vw(T2[w(6~w(*dZC|L$p[/,J:|>d:|Bq3]?=5+c9],13%p;+^=5,P:_tZ.SUe9_?Mm;B+dnauclwXymjsAsF6ne
',2=3+j=3f'$u$W0`B9Yz9sd$u<e6[,S=3+k9]Bd:]?rO390gZC>xoK6]XE>xoK6]>]63V>K6]pC,urS6],P:_tZ63rS6]Aq=ze
q3Ed:ErSU)C|LU&C|LBji|LU&qm|LU*U`C|L,k=5Aq=ze+c=5,J=47w+=_r6]c~UR8p*rB3N*riXKl+o`$u:_E6VVUKicKT3Z$>
J=l8m$o3Z#g5M$>6/*I$o63y(z93N6VAX1SV)h`h_Ed:E,Lt76n,Lt7B3N6Ve&UCj)e:aVVgVUUSMf.Z2ZxDURsnQb9UUWmakU4
ZaEq!rQ7Bg~61DU2W4TnfNFjf0[AsBT!=tv$o5hJ5vBtvBt7B5wB#GB#L7O2a0g:|s.6]2a5M:_s.$o2H5wB#GB#L:td~T5v$u4
>9_Tt7<77N<A7R<A7N;`7R;`7P4.<A*ynW7R<A<uTtv<u.[)>rSJXpFrhPW]d>fWI$Y$W=Z^)*d1PUh~LVnB%(U_1PU_u[%(WA1
PWA`ya~_I;VL^`>4b`HHC`WE%(U~1PgsEe<%(WC1PWC^*>4N;WU~U6dLThxhn61ybE73T,+T,]>4%(3hU~btFFC*dZ9U*Kl_XpK
utW/crU,l_ZaU]r/''^8`&|R$[3N!9nW*d%(Uhb'Hb'U6BbsFbsn`Z:XzJnoU^l_2`r/Xqa5ZkB#RBW/nFZMAXahHfBArg$[UQ]
7`e0#B`?o_a=p7Vc8'W4`zp5U~Unp5^**emFUoV<Y/~6p9(eS4xpyaHUh`<(eXu<#(6Uay*(6T@WDcPT!ewae.J^dk.wmj*Jj,W
]Zwc(e.a@Zwc(e.JyPTlIl`TRf57B~A|RX50n7Bp6c^XNXhI$YUrUuWwl1IgFrYB)3>`,gFY^BC0#`@?hBuVa)U%elY[$^i(p1,
:%NFFY^EyIp5H^*p7b1UmY~*eKl_XpKutSo_U;AY~`(V]NXGX4noQTWjITV&ATVEJWQot$[Z_Qew|Rp#RFZkXuV]_7')Tz8%(C>
`ghTz8%(H>``??hB`#E%(bQbfe<%(cFE^*Y[dLdn*d`<<D$a45wHY~*dsi$]tMB1IBw(W51|nauS6]#guS6]j|#guS6[p0krZ__
7`e0#B`??hB`#p5U~Unp5^*Y~Bk?3tUn>q~6p9(eS4xpyaHUh`<lIl`*dZ:+E98tKB=6k.%V)@K6r%VDp#vx$Y=n>`,gFp7<HHs
+e9Ap7xpa)U<a)U=r/jhp7rhU&Ap7rHZ5enp74Q;VL^`p9,:%NFFY]/QY[dLY|~6ZA`(]KB/)TMU8$azB$aZ~Uw$aW]qH$ad1W|
G$aev0f$a45$a.~p!jWV%F$Y!g=Z6[^))#=m'lpy<HH`@;VL^``z/`Y~T.ZX4I>q>`GDz?SSXup4ZsXefZtiW.p4`n`>UM=B+E(
5wZH^.tI52H^.tF52H^.6$52H^.tI_)tF_)6$_)$[GFV#FPXerhnH61!9=Z^)*!'lpy<HH`@!RnApy`#/`Y~T.ZX4I>qY|*dZsX
efZtim$Zapy`n`>UG$['eAY=XZe/Amt$Y!g=m^)~AB~LVnpy<HH`0a~_I;VL^`U&jh$[]t6Q#k6Q&Q/7/`*dnaXwXI$[nxp9(eq
pW=FJOV2iEL~6+Ek.k;;rUC0myOtV51Ig%1_!5WZ1<v&tVb)j!1_v&WZ1<zuKT=|cM`<]KB/)+E98tKB=6k.%V)@K6r%VVfMe*(
>(eqpW=FJZ5Vx#~Vqp0bZl/A$b<E&Nr/)3Z_>`00A00Uiz(UiCz(Iz(IIz(Fz(FFz(WjFz(WjFFz(WfFz(WfFFz(Cz(CCz(Unz(
Hz(HHz(UleEZsp7#yQ,~Q,|R,~R00Q0uZsUjIQZ_r/D0wJR,|UQ,~UQ,|US,~Zkz(V<UqFq]ZsUjIQZ_r'VUZ7HWKUoZsUuVaQZ
_r/D0wWz,|V@,~V@,|W/,~noz(!LZsz(D0wJW/,|G,~G,|M,~M00M0ud&a+a)U%0wJM,|N,~N,|UP,~ZBz(O00AofWw00Z_z(dB
a+a)BM0uLf)Zsp4Z$z(V<UqFq]D00!LD00M0uD00K00!LL00ZaeEZsY]$[UqUCW+c=Ap9,:euxNiJGjtUiW@xNE3*UiW@xNiJGj
tWaxNE3*WaxNiJGjtXCAxNpz3*XCAxNpzXmCjhxNVqHogZ$E3*XgogZ$VqHogJW]ovHogZ$JW4UoeuxNUb3*euxNatf)V$WcjCR
f)V$IjhY|Tm]W!`fY[>43*XmCjhxNaff)V$Ijh/gc=noW;Z_pxj9We!hWvWFXek|mXo1lQKFe$XhZ:lQKk$XuXh0oral@FgLWxc
YiPl2iP0oDWFDHgLWxKb'Z`W322nXqlnFjkXCjHf]WFj*VxfzzBHblFj9b~Hl>ZtnXW]QBjkV<kCmXV_i|Vml~fvj$Z1gQW0V4Z
FWwUnOe;XFJn>U)mXXIi|gOWyedmXNcYgOWyftNmXVUOn:Ha_cSU]WFZ_QgBJXxUhpJW:Jm`a>U@Hl]hDDWFhZUkXxh7FUhmXKc
OW:JqnmoWF0omXZwXhV$U)UneEZwk_fZcRoCcYUCUue#VUo.a0fSlOlNU~FCgzFV4n=UTV_Fp9!e8NWwUpGT!hWufZJU~Ag0Unc
SWhFa,XLlgW+Ia=QQmGZ_WAXLWqUtWJBXLlVIQcboCVEVmmVb]iPe,r&j*j9o1b$Io5lWZ_XLQQftd8Rc#`(!hJfzQcYXhigW8X
NGY@YxW+H[AkE8WpzjGp30Ml_raU:Hu*qlU%WFjGp3fBUSKeqHu*?)rha[U&kC8WEjGu*crgQU.kDkD8WgOJjGU)mXjGgOwKu*t
'oUsNW:Jm`pzm+Gpyr[DfuQpXJ1NhaHwKB8Wu*nBWAmXjGT0:D>4UkoCQfva0fSlOcKEaHbgFF$[NfB6P>4oCQk*hm,:W:VxZ`Y
[>4gslSf&Unp1XgJLa)7OoCVEEj$iCVuAb8AT%*.<ZxXqUplV`^UHX6Hl?a_*eKoPRWCZ7cFX@V]p@UT>^WI.[RjZJ:CJb@Z3Aj
fU#UCi$SrEWwZPW~OU$RjZ.(cSB9&:CJOcocS#*:CWuc[cSB5e:CJXIi:h*W~n_:C.(l(W~n_DZJV92%UPVei::CU.QUxl*Xo:C
B26D;(.(B34jZ.(Wwhsf>W[rjD2%tPR2%rjD.(2%dIl;ZyDNi|D2%X0sAzL2%5eUCW`FM*HJXM6'dvU+jZ.(Tm,HkA$bW4M*HVn
W4R*HX4hz9?61Dc~JRzeUCqr*HEdRZ'W~XCVlMk>Gh,RD$[SnRMotJRZVRafrjVjRbUErFJRZVRafrjVYMotJSnRrF`&B2[`REs
g.[UPDW^D*HBrZDWwaNZ1W0sRUZmo5eUCW`FM*HWwskJXPRl,BrZDWwaNZ1WuRks#SgKcVkCVUJX)KpJRV%*HJXtcHXtUjBf8Xh
f8XtcHXtUj$[Z_S6=VVn`6=D*e^Oa)B?C/:O=dMsigX]gVc8'l_eeDhXd#VBUC55o*QXeU,XuY^'5bfCg0HH$[SZlh&Fl@AcXU,
rEWwZPM>4$=WsII$^sRUZmsZsUonFDrDLMU3.[l/f3BntV7)8LZV*HgYZ1*HBLqVb+l,BO5rU+Xxl,JSXtl2VYoGJSXtl2VV$WO
5r!X61LqVb+l,Vp5rE$WO5r))@uZkpz?)?BMK~aGDz`W`Abil|r(siicEUCUk!t1ND#vUkQDhYd#VBUC55Z:amU!o_TQFJXxWvK
a.skJXPRl,X8f4Lwj$Y2`ZCe$3oZCe$dvXoGVIioZEZHUCqlL>5MXzW<p~SnXSZlU)Urn/RMftSnXSZlJX0sAzLU)Ki:XCgQSWw
V:rjVbzbLafbUJzbLahskJzbLp161SnRrFJSnRMotafbU.[UPVeUxl*XoRIcVWFX0eEBOriXQaAXoRIcVWFX0eEBrjD.(B9&ZJn
HSZ7l6:CJOcocS#*ZJnHSZ7l6:CWuc[cSP)JD6F$Z%nD6F$Z)JD6FwH<uVd%nD6FwH<uVdV]p@Zy(<m03>OqlZy#SU&o?l6OqlZ
y#SY@YxOz&[A^Ox<riU=?C'RUW#rnBehfxUh$Qiic&JU_WAUl>4GfFa0=KU~e<c&JcNWCC.*61&O9]B.yUjUm>/4aZ_s1Z:aZA*
dzPVU`(61(m7$B7$>5m=j7B5njXBU2kqc$jzg=XnZxj7*dh*U%hX=G#~>4^Jx&*dc&l@x[ZMx?>/c&J4aZsasU#W+*dDR*9h*>4
DR*9CF7O(<DR*9Ke&WtXfJXIH*d!sJN+Jj9arZ:>4!sJN+JCFUcFC$[!sJN+JjqxP*da'1rJN+JrhUbUYZ:atW%^uXnZB7ClQAs
BJcAV:CC*dvR!OUkqNsariVo0Bn:Vvuyj(W4>/vR4aZ:>4vRa1VT&Jz0UY$[vR12vZUJUBVucBZVW<12aWOn:ytjq*dXxoCntAi
|Wy)8XxoCntAi|JGk;UJTvR`f$[Q2=jqX+vZUH>4Unb;Jf.I>5vRk,#[19$,>TfvdpVrfvMk$hEd^V3hEb7ElyQfvmpVpfvZsSE
k$nvV3l`iKgtfvjJEi]n:SVql`VrcYVyUw1SquVufvZpLVuWfEqrV1fvuPEKesmJW9U~r<l`EW8bQEaGY_VkVLY[[GZtdpU+ftM
k9hDd^U^hDb7a<f|ZtmpBc#U=UwBk9nvU^l`f`geftjJBi[n:Xvo1XvXpftZ9S02quU:ftZpLgHLBqrU[ftuPf^U_mIKk'r:l`U
(b'ZfU]ZtVAWmWY!=c]s*T!E9*_E$,ZsSP$,(eAhD(PBmyUq$Z(TqovM.>.?B=y^XB!&B9a.BB!(/R#m.>uT#+=0,W@kuTu(@Y;
w4%)$?y,X7M#)uT#).H1F#I,`<G.H&c#)!%<G,Z,Z82#)$E#I$$!P?y!&B,`6puT6p&z1A4%6pt5B&c6p#I7M6p!%6p2j6puJ6p
826p$+1A$E1A$$1A#FqpGFbL1FqpGFbL!%B:61F:6!%Bcx1F&_7M)(&z&_t5)(t0)(1F&_cx9a2j)(uJ)(82)($E&_$$%Ju;UC2
jgIWcFbLuJgIWcFbL!(B:6uJB:6!(9OUC$+82UC#FqpGFbL82B:682B<=?y$$s_#F,z*#=09bUCuJ#+#F1&4%BxhTZn84xhBuo6
WgdWAU_sIsEH08U_b'sNFU@bM6SsKCV4sPWYUxWAUxF09H09sNCWMWACWMV4CWMCFgZWMHgZWMV4WMbMWMU_WMsEWMWAWMF0!0!
CgbZ~HgbHgbWYV(UhV(erV(CWMCieUCsEV(FgaAgabMeHCgasIeHsEeHFgaWYCV(V4CV(CFU]WkFa;Aa;r/WkHa;Fa;CFa;0b0b
0cbM0cV40cIu(0bUxCF09FgZWMr/WMr/WMZ_VHZo84.>7M*#9b#+uJ#+#F=z)*@kt5_+.C<Y$$)A#E.1#)1F9a.B/RQ![4%*#,`
#+.?UC=09b!Y#m$E1&7M6q@YQ![.CuT)*?'1&;v@Y#K@k#K.C#I.C#I#F)A!P?z!%)*cx.C$+)A,z)$7M)$4%)$t0)$1F#K!%6l
!Y#K82)$;w,X4%#)$$#I;wt0B,`6p&z1A4%B&cBcx1F&_7M)(s_.>2j)($+%JgZD&_1F%J!Y<=?y$$;uuTB;u4%B;ut5B;ut0B,
z*#uT*#t0*#82*#$+Q![;vuTP0*N^+l_cbmdmBmPmImUW8Ax^m$m@Lazm2Bm1m(Lr&Kl_KcbKmdKmBKmPKmIKmUKKr&4PV4oaXL
Aa^C%TOr*sZDaNU%aPU%aKeaaMgeaMU%aOU%aSUho=FgCf`Uho`B42U,r*eaidk_azVWgegekBr*l_h,f<k_mBh+Cf?f@f<r&Z9
U>FgUU>Aa7bFUUCgTgTa7r+U>d'UUr)UUr>UUr@U>Ka7cbUUmdUUmBUUmPUUmIUUKcFU>Kr+U>W%IU>W%Aa7mlCU>mlp4p,FgFU
.azp=gEU.b|r&Z$U?V4Z+U?Aa8bFrtZ*U?r&GebifWYV<ebyFgfkCr&ZPU:FgHU:azZRbBbBHU:r&UXa9V4Z[U[Aa9bFZ@U[HU[
Ha9r+U[d'UXr)UXr>UXr@U=Au=cJazZubDyDZ6z'brsPrieqbFZ7bDsNZ7r&#Qe4Wba0bGg0r&Qeeigk|azQbFoykEHeer+U*d'
Qr)Qr>Qr@BXleeUXigZ[BXlazXlbFXlU_XlcFBXlr+BXld'Xlr)Xlr>Xlr@gVgWBd'r)r>r:r[Z<edl`aGXne]e4Wba0bGgvpys
ZshIgca!CbEbEb/r&siU^cbskU^mBsjyEaRb/W%ussKsPsCsHsEsNZ`uqnUW|a?ecbFW]a[BMUWz~V4W/WYnoembFW/ggW_BW/r
&ZkU<V4ZpU<Aa5bFZlU<HU<r&o9ihk~azRbFo%kFHefr+U+d'Rr)Rr>Rr@U+o9RihRk~XmefRbFRo%RkFRr)j9f]ifmdj9ejyFK
gikCW%eoeoV4qpgIazqmCgKgLgIUWz@Ncbn=U)mBNmPn<U)mUNW%z;z;ifVaBb+z;yFDgfDkCViebsZGaNU&aPU&aKebaMgfaMU
&aOU&aOa4a4FgPU;azZcbCbCHU;r&NedV4n(XCedbFn6kDr&Sr/XWa4Z_Y[T!gt%!zf6z8.ZBz8.ZB?1,AT6Ts[C+FxJ:sTc75x
uGT,MT!E9*T`S`p;s,6Y]X5;):JOr&Od'Or>O?oUPr&UPd'UPr>UP?oURr&URd'URr>UR?oNr&Nd'Nr>NZ;TGv>(<aAaMV?nQg6
XzQXzQE1PXzQXzQiGZaV?QVLe$qpSg6W9Mg6nQCV~W9Mg6c<GY|opXyXfC@`B0$Z%o6XeBo%k~kFihZ%l_mImdmUcbW$x^m1m@m
(m$LZ%4PU_oaoUXNBrCKrHUpU=bDcJHu=Z%rkU>bsrmU>ixZ#V4Z#Z%haf;U%k_kBidZ%nFGecgfggIf[a[BnUMZ%MmoGmob=U&
m@Gm(Gm$GLZ%GDz;gfVaU&DkCDifDZ%r&6SZ<gWU@Z%r/sEsPsNsKUYZ%XVY[:uZ~V2cKHiYV2Z(XVp6dvUry4D;(Vb3QBU_s$v
@WA+U+VbGWYun?p6S;dd'?5uZ?qr[?rr^UTuuWer^?mr&?n=Ir)e;86UWB#R6o0jEzME=D4>9o4>.oE4>(zUa1P>YVY<>E1P^hE
n^E(1BhDlwk9ftn6s$n(NcMNkD+UN+VKbGmdNened?pNr:N?GNd'N?5NuZN?qNr[N?rNr^N?mNr&N?nNr)86Nr)XD;dXD!dW5Gg
fs$V]f[WYGkC+UG+VW]CiGU&ebazG?pj?U&?GGd'G?5GuZG?qj]G?rj@kC?mV/eb?nG=IGr)V=jiU&V]BjjBjhBoys$Qk|cMQkE
+UXgkEeeazQ?pQr:Q?GXkk|?5QuZQ?qXkkE?rQr^Q?mXkee?nQ=IQr)QBXkU%kPKX(W+Z&aBQg)QIW7XgW7XeKU:bBs$ZVgHWYZ
UU:+UqfU:a3Aa3?pUQr:UQ?GUQd'UQ?5UQuZUQ?qUQr[UQ?rUQr^UQ?mUQr&UQ?nUQ=IUQr)ZQD0zV_x`Os$oaOcMoUO+UOcC4P
azO?pOr:O?GOd'O?5OuZO?qOr[O?rOr^O?mOr&O?nO=IOr)OB;dOBOW5e:nrzeOU%0zOU=bDs$ZxU=IcJb~+UZwb~a6Aa6?pZ6b
D?mZ6a6?nUT=IUTxzB!dZ1U=W5m1Ls$m@LcMm(L+Um+x^LazL?pLr:L?GLd'L?5LuZL?qLr[L?rLr^L?mLr&L?nLr)LB;dLB4aL
f;U%s$Dk_cMDkB+UDcChaazD?ph@U%?GVik_?5DuZD?qVikB?rDr^D?mDr*?nD=IDr)VVe:nrzeVVViBt`q!Wua_WBC7UVeU=uu
WeDXkVlX:VlNr(VZr(Ver(Vhr*mIh.f<IIf@f@Hf>f>eh?pDmlf<?GVcd'Vc?5VcuZVc?qVcr[Vc?rVcr^Vc?mVcr*K?nVcr)Vc
gZgYe;sPaAWYsNUY+UZ`WA6WAU]?pUYr:UY?GUYd'UY?5UYuZUY?qUYr[UY?rUYr^UY?mUYr&UY?nUY=IUYr)Z|ZGdu7UZ|;dsD
0zsPo'S7Uo';dm1Ss$XzgCIgBgBWA;dm(o=az;dmoS?nSr)Xv;dXv4aSU;bCs$ZfgPIgOgOHU;a4Aa4?nURr)Zbj#U=.]gicJ.]
If]IcJ.]cMj$f]cCj9f]Aej?nV_r)j!V@mIV@mdV@mUV@Kz_U&sEGsPV'kCr/d)U5IQJmJmeW9WbmVW8HtJKa0KgRU5iuW5KQU>
s$UUIgUIgTgTHU>a7Aa7U&LmIGLmdGLmUGtt;dXwiMXyVseps$Z1cJRcMraBrab~o6rZepa~RU%0zh+h'IiBh'UhZ<HMD.]0&j$
Ej(j!LmdLKcMLmULmattLmBLKf].]0&V_IWbj$VmKcDj(j9e1W5UnZ+W;QWwBt`q!JU~lSUkr<eAZ<V0AveWbZwVxAiJVqlQkJe
a0zmJmemVl_!dRccRmVo(Eo(gxmeRl|XxVsHiLiLCiMXuiWV0WCr<r?eAr(W%V6W%WCmlEKr?KeAW%e1ccj$VmmJj#0&j(Gb,jj
VmGguGyGV]VmjCNipbjbjCbkEXCENVrV6RWCRgxbGRWbXmVqccXhkJmJXhbGQmeo4QQV6QQkJXfVqQbGQQlQovQVxbwHvebGZxV
xe2V6XOVpgwyHlPAiYibZ~iXCV2cKa%id0zZnB!dZoEq^ZlCVwk_0zZpB!dq[ZqV6ZqHVwq^ZqbGZqIVwq[W.iDVnU~m2Em[mqM
W.VoW:VoW,Vom2Vom[MmqLccLmVLmJLKbGLmeLl|GLccGLmVGLmJGLKyGLmeGLl|GW.VmW:VmLguLyGm[GmqaNV3kOV3bGaPicV
3E9&UZbiFbiHbiCbibGW`WbMsaDioWCDgtbGh7Ukh,iBiAiAgyI6!W7GDV6GDWCGDguDyGVaVmhYqniPHiPu]bImeqqV@DV6V@D
WCV@DguGDyGGVaVmb+gII$X*qU>e;rZcJZ1cJZ1cMZ5Rb~rab~rZa~RazZ<HMD.]r?V_eAGW%IWbV_Z<VmW%cDV_r(V_Z:A69j!
t`q!W2PWKl'wIC.<(eZClYa>WaU;a`ZtVUWfU=Ik9Fe&a?Wjf[Z5bBWGLU:CWjV=XNlwRWLb$XnUre>hwWmU,FWaBUnLOBWQZti
+CAcrcsWdcrcsCU0W4csWLBFWfm0Z5BWmlwCUtcYqoW=U)ClYTxdg/(>$=xdg/4Sp8dE+(q3FWyCHW!ZcWyU?Bi.aQi:V4sUZ|U
Wf]FpWU9JV_V&VbGtqBg%fuFaQUhWBJWAU1cRUiVhB=/HhnWA+rHhnWAWAb'k9XuInXXuMcWWgJSf|V+a3hDXeV+WvU+BhHU+CZ
FJXtZdJRBo8gWZ4HW2sXW2f^RW+aQKf^VFW<W5=/W4RfFW5+rW4RfFW5ZsFW|aQZ7W~ZsFW~Zt+rZsFW~Zt3!UCZtWaU9JlJlIJ
k/q_fxUSU+g|=/UwJer+rUwcRIr.CHW5n3j$JXEWLj%XDUqRWrJCWGW&U%WTWfWFVVh5g.=/bXWuB+rbXWuU:U^f[r.jxJV'SJV
=+rV'SJV=W[p?QfsZyZCWLUQWwZkSQfxUPB+rUPZkSQfxUPB3!X)B2IXDU`r.U`JU_c#ZsaQy'OB=/XLMSJOB+rXLMSJOa=V$U9
JmuFJm,SJLB3!UCLa<RZ:aL22W@XmaQW@g_W[Hj)fxg8g.WAa`BWdSU:Z;WLj!qPZQZRUqZQVZft=/sU+rsUWlCcecqUCsUUUU[
8o>yT#JJ>yT#l>yX4SW+V%:aGZ+XLW^S:ap>Rj$S:a(ff<s+ZiU3QVbZPVeg7HVjWaaWW*U1aVCVhY~PjIAm,'SO;+/BlN$[6QX
CXNMXFMY<T=|XuPcYV+HH'SO;+/BlN$[XCXNMXFW'n=m^c6C8P>y7P>yY<XaFW9M'SO;+/BlNpxjIdpZ:'Sn_Z_pymor*a)>4lN
pxXhoI[Az[QkEmUraU:eoa3HgLU=sNMz_eckCj$a~kCejebkCKb~b|z@NkDmUoUsNXyBm(Z*f<egkBelx^Z9T(JJz8Z9Z!Z9AVy
IVyIIiUiUQiUFiUFZ(X2VsaHVnZ/LaHVyU~Z9IVyHWFkAJ2cVyUlTz8WnmMhLf!az61x.cKEaHbgbxFUkb`r'WZbfese<cD*6Zx
XemfgAUpXNQU]FV$e?Ac6GijV5Iowftb]WafMdpV[ZQdFe#V[f5XhIe#osfnV=UpDnFVUXWWJWua+r/Z+XzfQZUhHU.e:XLDe#o
1Ztp+WqHWBftZPOZvUQJn+QFFW5W,QJV[b|CaHe>XIZsVEcTftXgWIFV7T!e8NJpVL$[f#QXuW4Df9BUmj9dv`^UL>5W,QJe,QW
ucHoOaINcNZCWsZEcHNo;ac4voOaI7GNcN7GZCWs7GZEWQY|omraLy4qIAT0:D?(xIT)iVfV[nXDk53QX5IZC>^ZFi_fm4SVGTy
`wYB*qX!WjV%FxKJ6G18heu`J2b1[Tz79*xKJ6G18heu`tk`>UL[GB0$b'Fu@rC0op$Na7z]n_mohal_Gecz/uso*r&ZaU*z[b+
gcf^a!o*ttskgIWYV[nX3hz7wHyUV6b`bt0pp&XCVye3e2uwnGqqq[b+Er'r(oqRa0W4a%Ia&WXbieaIZCJU~lOZ/Fgz0poqXmt
JXCh'uwnGq[ZaVra0W4e1hYsaSa0qqsiBy`Jv~o,ZaV3Keo)7&(Y~B&C&NJk<)3Jk<W@n`jBp)UtU!$WFp)Uta.Uqb1Ua1_ZBW.
Mf.UaWsQa:XmaiU!jhaYj9abMa:ZssqabU!cyn:aXDU!sianf.W5V[nX&Cb!siBy`J&CRcarZavU#UScaGb!W/cab!craoDU#ZZ
U#siUbsZ&C2[V;r/y`J&Ct'&CW@o7o6y`J&CLW4p!dvUry4D;(VbWVBf%Af%d/U)WVU)f%NZ<Z|Gf%Qf%Xkf%Of%ZwZ|d&a=sDH
sDf%VcWVf>sDW%WVU]WVgYZ|dBU=d':.cJuZ:.IcJr[:.b~r^:.cCSr>Sd'SuZSr[Sr^Sr&8;NVmVqVuiIVlh'Ba'1rW2B!sW26
o634>4ynZS7US?pm+VnAejr:GW%z_r:V@maV@mBGLmlU&LmaD0zDmliBWCK+VRUWV6W]ZuJXngxa0Rr*0zZnV4!dUSr&ZCU5g/W
]ZuJLagB!dtxfCp#m_ZEJz7UC!d3c*e^Ox<eEU&ejecz>/or*K8'l_XtftGo_>4uxyIEcDe8gv;Yr'o,Z:p9.8oqrc&NVm0BXCE
n|o,L)8XNQXIdCRU*g[KdCRU%UxIY^Bm+Y]T]8,M`&PjMm5(fAV1a&Re1DuvUY#wmqw1e2UkZaVzAtJZ9VqKz`ZsVkEWbbGg)V6
cDWCbtU~AbtUnp512dQY`zFJjMm%(e3NUU74UU75XeayU#Z174XeayU#Z175b+aoU#eFy(b+aoU#eF3Nb!j9aw74b!j9aw75XCa
rcaO74XCarcaO75ZaUbZ$aq74ZaUbZ$aq75caMf:74caMf:75QZ$ayUV74QZ$ayUV75DF74DFAY^E,:z81OhIUbAU#IWtV;FV;V
TAVTHUbHU#FVTAaJAAaJFaJHaJHAaJFCaJWqE(ez0Z.Z1s!OUbQeZZD114SpmY|E'Lgul'J3,k!Y]E61W+VSW+VNPXhoI8NJNe:
XLDe#4cw>n+w>p]w>xSw>No;J,y4c,yn+,yp],yxS$*J<|4c<|n+<|p]<|xS<|No;Jw>GV7VQUje#4cpTn+pTp]pTxSpTNo;J+'
4c+'n++'p]+'xS4#J(`4c(`n+(`p](`xS(`No;cXUQXaV%Wngq(fz^epQedur4PN8/rHSx;z'UQ;*upUhK/bg0UiY[dMnAZ:T0[
7$PjMj9O*N3NXeaecZXlA67QU!XlU!o4rc3NZPail|y(ZPsnail|riiKjC3NSe:iF67Xuj(dAA6(b9j(y(b9j(UTuy3Ncyn:eW6
7cyZasve2A67r'3Nr'o,SbtmqLbtr(3Nh*aXVUsnaZUknAVk67l|lOlRbxbGcDLeszPDa3=84aSU#cgmsygJW+I76oCQf8W+IU:
=8z0Z174N75Se:tey(cyOa.U!Da)76VUQkW,:U!oCVUV`a1GfFx:cNbvFFCz+WWHA$pWVeRAVScEUnaYl'JAWsHA6]61oCQ0pjq
pmVqKFhGGk;YQUBiKJKs%oCDfSXhFCZ2m%otU3p4!gUQ^HnZKkw'LCY|f]UtJ'LCY|76UWcIRV0cIRZ:UuVlU6fvXfWTEW8Z/W_
QXLI)^49dAUkoCZ_XOQVqAfvXeU3QbxVUGXefvVUGXeU3QbxmGVuAfzp6!g(v]4T;NUCpdT:VT+[#4%enWTUXUCZ]#YUW2w9[T2
H(<#Y3%2H(<#Y3m_S$ohzZ1_S$o$7U|]J$7gn&I$7gn5M=!@IUW$p!=UW,s<:6^y97R<:6^)C?=wR6@7R<:wRJ)C657dD.*.~.*
$W3%fhK.*!I]J!IJ=lT%e,]^99%RauapY[UGonm'hd61V9FJSWlg@zfU:VJVEByLZ1gFVUK[GotUk1pBIotUk1pBV$fZE1pf`cW
cy1pa=Jm#U!1pBVEfZBUnotUhWJfZE1pf|E(?efe3Ho*xpUkW+ZPBq[q_eqebUomrIQVpV&nH(?ecAcTSnHu1dAU!>OUoo;p(Bj
KU6ece2UrbrenEore>p&XfXU0oO;+eaUoVUXmVlUs#q)8XwXwQU3>41pEV9V:DfbVlV$V:WfV7iKcWNU#1pEmsm#U#1pVmAm`ag
Ccy1pagCns1pbjXEV`1pX4Mg_UrVF*eU2wJU*W8GwJU&aPSwJBVKwJU?CwJgcLwJBUjZ'XuwJB##USriY]`(Nf4dMXLW@Tz#FX8
fbQJXCOi|XeW5VaQWYnvCdCdMc$hHT4d.5Mk)Vo0@coRiFZ1aXV&0pnmiF0@W]i|iFl2Vof8XnW]E!gV>XnKePW]XKQg[V9aeg[
LWsZlRWKa,Qg[F*QZlRWKa,Qg[L*DZlRWKa,dqW]afk)E4;2^2HnVUbW@RUazmGV$apUuEy%2^2Hnyari|Uazmn>QarW.QUa2Hn
.TcxjtceygdMXLnHceygp0Di_U3gq61cxZ~ZRQBnyW+Z_Xvnyd`Ur*dekV4erWAgdiga7z^x;utZ7+fa4a8urO;+upUXel>/XCc
(RQe@Nf9Qo,cxaAQF>4nyKV9V6cxUYi&cxeu0@cxkcRENfRNg6cxCV9Ci|$[XCXLUiW56P>/nrfzfxXLakA*el_DZ_`(&Q*dXwV
4W,V4t'z0QVponjH@`B[telB[tl_t3I3vKurotHWwenB[tXCBrCt3I3vrCr&[tr&XCc?QW2z][tRa5uqo*[to*n_[tn_DkPmMZy
V<gQSj.ZyGup[thXt3I3vDus[tr/rZx^[tLeqa3a6nFXUekF$[V[OXG>4U~XCc?QJgsU~lQUwWFlSotWFWCV:52[tVU>/Z1EKdM
ramrTcxk)WQU3Y/>5dsW^JrDXMV>QbkZsSZFo+VwFW^LEnykaV|W,Nql[AeeL%|mo=F#sedLz@ZaU;mop,mo4PL=dr/4tl_KLa8
uph*gXA;Yr'S^ua0lScDV6bxC>/QVpVnVxENVsVmErjZ2MkJfz$[dABuSY]/gGUxpOBZ7g7V_Z`WIJGUxpOU:VGX:z;mbWxVGX:
z;mb`>UI*dV@z_emAPWGWxKtU`6mqe$UvE0pe@La0AUuVkAZms%AU6VnlOVYIW7WnZ/IdDV6V*EFMEFZ5EFZ/LgsNEVBMEhEVGd
DWCWEV?WNEWSEHW5oPV@FnoRU+AUpW+UoV@FnoUvBOV(XmUpW+UoV@FnoUvgALazn:ffazUpfJ>ycTZPUr6)XNZPfL83.8#Trum
?UCm8Rg>MbK#2HV0lfU|VmfFV>E1|m8Rg>GgufF(Pame$V+duZzg>V$Y~P$,OGU5XxW;J>Ta,dpafa,McHbSd^anbSGa,Wnaea,
mpada,ZsX3cHnvanl`agUisnZ8jJeTsvUwael`afKa,Z9X3h>Uaquaia,ZpLaiWfail`ala,uPaZUiaZVSW9CakVSl`aZcAZfam
Z8VAWmWs!=Ra,a(Y[aVbS(PUamyUq$ci_U3gq>yWwl1FJbVr'nym?Ec3rEUkqRo,W,FJ7#UkXeJ7#UknH7#a$Uo7#AY/P%F11ot
h*rCh*o*NdCo1$^IKVcrrAgYZnS%FXPMm'8MA7OZ_ZnS%FUvc~Z$jf=*Uk=*UkQe:XeJ=*a3u$wRgYZnS%FQe:XeJ=*UoDqvVBg
|3$8MUhy18Meee:XeJ73B9]B:_B=3gCR%FQewoeJ=*Uhe:SZ$%F=*)8)38MUkyb)&)3JybB)3J73)&)3J73B)3Jyb<rE73<rB&N
Jf3X0WIFo4ZBW9X0WIV$2;XLRWIFo1*wjNf[X2UuU(VPI553h&O3h&OSj*R6'&O&NJV)W4r`HcTo1B0Y)3B490Y)37O%(&I61'e
UhAjwo;A7O)K6t)K$[3%&NJf3X0WIFo1p!3T]Af.C]ZUi^!5GUPs2aWV_aW]Z2HVSI^!rBaa,tadUa$=Z8WW&*:u)>WW&*UaH[*
!=HC^!WD:u9oWC=DH^!XK$=X3!=X3V`F:u)>V:9'sfV:!=O^!d|aneQW56NW+X2Z1CfCn*fws*.=]AR0W3U6icdc2P83]AVA/mU
kesZD5GUPvb$=gx^v)^UTbhWDENVsvXUW#(A)[Uk0Q)[AbHvbDqwE2HC)[2Hgx)[lQVpE0@WC&*E9oWC=DWCNvX)>F)[OVzh_Vt
g!%#R&G%#n=iPIP3T~GWsSeUUV.=~G)RdJ!v^3FbH]^M]^UR]^O]^UT]^N]^S<#&u5(tZ$%&rD]^G]^UZ]^!=R_E83VL^39%RVm
*PDb]Xf&$>TI,t))lb[*N,tB>TF,t)).&0`Vt@!M@!UR@!R@!Q@!L@!O@!*s<;N@!S@!D@!go@!*t<;UX@!UZ@!A/z0Q/zM<ttZ
jNEC/z2HC/z<`C/zDqw/zI/z&*/zgo/zF/zhV_8/l!=0QVu*w5gEg&<`bJE;J[*7*R)[W7I[*2p)XWt,bVw~ZL_8Ub<;)XLVp]&
O];Vx],Ub^FE)XUTE5GWCn=Vl<2grG@!Fl+E6;E)XFVz]&Z(UZ*w^FUb5gEhVEv7*U3#,+B,]X5rJ$oDvhh9.<y/UC0jTzMUCy/
Ty/UCzMT&Ky/TzMUC&KzMT&KzMUC0j^9S$o5UUCy/Ty/UC5U7P;%&I$M.*7m$olJ#Yi:&Iil&I@I!l2HUo&JUiaVWWU5aiWxu~U
a9%XAg8afB]AR<FQaaB]ALas<FZt]AUTau<FScXGi_AeS3hDanUa0RZOp@aXqwUaURaa<4$%13Ua*C3m_SacaWDW*)`3m_SakaV
@8UaH@8UaF@8T1f.*4o6^4,y9T9_6@X#lf$W80#Y9]6@TnOC=x3%<g$o,>,s<A7R#6tZ3(;`^4)74?t~~t]@|g]>|g]=|h<(J9L
~q]@|d]>|d]=|d]'|d/<|p%6%!|p%60j~i/<|p&v~i<(tZ)T>!UR]@|e$u%4|b]@|b]>|b|[|b]'|b$u5UwR~n$u&v~n@8J9L^$
]:[I]>[I]=|c]>|c]?%4|c]=|c/<>!O]:>!O]@>!O]>|i]@|i]>|i]=|i/<|r149L~y14f6]s|r%6%!|r%60j^#N]:>!N]@|f]@
|f]>|f]?%4|f]=|W]@|W]>|W<0tZ;K|W<&tZ;K|W]?;K|Y]@|Y]>|Y]=|Y/<|q;NwR~x&v~k/<|q149L~x%6]s>!*t&t>!*t;I|
j<z^#UW]:|j|[|j]@|j]>>!UX]@>!UX|[|t;K|l|]|l]>|l]=EK<6Vm@8V0$u)KE*u)KE)7.ovaD<8Uc>GUc3N0`|Wl`XHD:u31
|o;I|o[0/!0j~w]3%!/![0/!&t/!;I/90j~w)U%!/9[0/9&t/9;I|p;I|p[0|p&t/#0jUD/#%!/#[0/#&t/#;I|s[0|s;I|r;I|
r[0/&0j~y]3%!/&[0/&&t/&;I/%0j~y#D%!/%[0/%&t/%;I|q;I|q[0/$0j~x#D%!/$[0/$&t/$;I|t%!|t;I|t[0|t&t>!w*X:
VAh:W=^#w*X:VAh:UV^#*um;UD.=.80Q`s0Q`r6v`G|Vy[`G:ug4`sg4`rlb`slb`r2L`G>!2L`G:u6;`Hp1>T.&3wY@ul6GY@U
dk^Y@Ud@=2K`s2K`r0Q]|6v]|g4]|lb]|2L]|6;]|2K]_p50Q<y``|m<y`K`a`hg4<y``|VV<<y`K`a`h2K<y``|ZoM<y`K`a`h
0Q$u?4~'Ub|1~#?Aul?H|m$u|(k^Ub?[TXgzVT?[Ty@T((T]W@=g4$u~'Ub|1~#?Aul?H|Vy[]|g4]_Ub?[T%06GE2h@=+%?4]W
6GUdk^Y[*3Ub]W((>!+%|(k^p13wtZ6GE2h@=.&?4]W6GUd2hdJ<y7tE.&((Ub]W((>!.&|(2hdJ$u3wT]W6GEk^T6GY[:u2K$u
~'Ub|1~#?Aul?H>!2L]|2K]_Ub?[Tk^T3wp0hGrnPVCJrnPVL$f*%1|n3UC*%q9X)CX1*%baX)CX1*%5%$f>y$fv!s[VDmC$fsg
Jz!s[bDHZ25:B5:P=V(=.p(=3QPZwZ25Tl63QP5%J3yhG3yVCJ3y^g7K;bT%qy98P?+4*8P?+D24y)Y,?,3O<'Y,?+y$3%?+4.3
%?+3%y)Y,?,3O<'Y,?+303%30)S%d)S2am0362CJm036=>&V3Q!z4Fm'9*P!E9*P=VVCZC8a.pVCZC8aXFXHwyIv>53Umj5P=Vk
?XznP.pk?XznP7gJd+5T$fn3JobW,$a,6$Zy~P(xP%ey~*Zy~T(xT%ey~PqSg9D24,&0s?,.q_YXwZcdCqV(=3%<OP=&P99vtjy
!hJjy5elxVG184F!yOP3QJ)SZiAuFwO^2$urqLP@Z$urqL7K,MP6EJ<OP#[18,MPjx8F61g9$=XGLuD$Z#a+W5QT+`)Sy(]v$=D
0<PzkV!Pj_;gVbe[Xsg>)1P,DzD$cUWi|J3y$WvtjyxjJ>y.;1__BP)uy~P57_BP5+_BPj__BP)i.;3!8Tyzkc*V)iVd4b*/s[V
D6V5:Pq518Us*~c*r8IduJ1$VW3^Tn^p0=V$R.p$R5&hzZ1J$RXFXHwyIv>$RWnW9qHWusT%bViUsn.PU1V]Z$jdsT%bViUsn.c
*W9qHJ0e55h*n.PU1V]Z$jV0e55h*n.PZs1!3,h*n2PZwOwD3,h*n2w,7*sg^9IY[Tq9Tq+TbaTs^T!5TrWT!ITzDT=q/y^9Z0+
TsgTk!Tj@T1[Tq9Tq+TbaTs^T!5TrWT!ITzDT=q/yp03T~GAeRHalaXqwaZae6gaceSGp8CV&WM!e$ZuG$ZUQXxaMWjH$ZZihNW
ySa*$ZW;Xu$ZobL$ZZsWjA$Zn2g4$Z45$ZZ<UTwHzFl)UUVA$ZMk)$ZCV&H$ZQIN$ZGV%XzQ$ZM40$Zo$y'c1Z7$Zn2H$ZRFfZZ
x$ZUlhwL$ZKX2UVZxA$ZZRW|$ZW;UVpBV[i;HWa$cn2obH$Zb)Xn$Zl1y445$Zb.QlKJW;Xu$ZrPcq7B$Zc#Um$ZXxdu$ZLfb$Z
qHZUWn$cWIwHdn*U,$.*.n.*3h;bJ=!1P;bJ=!?J;?*p;?y$;?4.;?@e*p@e?J@e=4T>VTvBbZR*IB!,B(3B#g)PT%k;?vBDl6D
zpBc;qQB7=J(+:&^G=!@QJ=!a+FcL:a%evtnWX#lf80&I[lJ=!3h3$$g=!'pubVf'nubD7N;=4.;=;g6[dnPAZYcBj8PUrMpAhk
1zbWq/P~cUQPwuU'qWVain#dm':bApBWPXbAnHV+APCV9g/dxVZfwPVhpKm7wuU'ZaKdCW6WcP7*63R*gK^EKP~cKPn]qxdxVZf
wB&?XGP:LI^EIP:LLUDPLWwl+:Z~cZ0ZvoIH$c2Ew|3>qgUY4::LNP~cNU>P:LS^ESP~cSPc7vU18jHVDpAc5hghhZ+qV(=&nh5
Z0b>nN4S$ZryDWlm7~cUZPcBZR$ZHKO$Z$WHKOwH^EUZ*W%#.8lbPXfLd^$ZfzhzO$Z:LUP^EUQPgllgjX:Z7*63C*gbC*W)XZh
:LO8pHPe':ZZCG:ZRlj:Zws:ZWn53!zD2D49)XUUPd4h4WfC$Z^m63n(RfU*gRfUU)ITxqbUO!0!=@_RVn*Z@_L*W@_aD^m.MMU
DbfIVwPc8n3j`3s!=:HPn3$ZUujsheVeU0*W63Zh.6VUn`lVZyD2DZ)Lo8*^k.!#KiSV_VmhFW71>B9uVVk.zuW5j_zuKD6rd9j
;57d91<yOK07ba1<!66r!6D07!6VV!$!6DXc8^ZvOu/Jk:S+3`N:@2Azw?V?~+$8fS+3`REyiu|E1'U~%>|75+]z+$PS+3+$WxJ
M07=1,6)&?V^3$=UQPS+3h%Le*53Bzxa`nE53E=1+#&2PZ)Lo8*^sgJ1>D*W3,j]1[Y^>0@1@4@3;^;];_;~?6;|@2,i0`^50`>
0x1@4x1@29v@19v@49v@39v@2,i1o[61o[l!`*:<B>2<B>1<BP9f,i5C>0?8^5mbP[mm;^5m;P%kx1#1,i0`>17mJ@1,ij18=Vj
;X[1j18=Vj;X[6#eJ;M[1#eJ::?Jjo+m@0jo+m;_;:6'p+>0]66~[3J7^?J.J@0.J@2_e7=Vj;M/J!WVj::/M7=Vj;M/L!WVj::
[36~[l>z_4+[@2;;[5:m*::m+`:m+[:m+W(Q6~+`(Q>2(Q6~+W(Q|M,tP=U,t|N,t|M>z(w|N>1(wP=UP9f(w*a3%;~(w*`3%;|
(w>0%e@4%e@2%W@4%W@1u5]<>1u5]<>03z@13z@43z@33z@2]6>2]6>07j@17j@47j@37j@17j<BEk&w7V<L*y^gUc;cB(wUak&
w7V<L>27j#8wb*a;:J;7);;:J;79f7j#34.?7#h+[_4*:#31_[3Vd[m>Y^5>YP%k,i>YP[m@Q^5@QP%k,i@Q>0&,@4&,;^&,#35
2e^P5nzAP;Se_j.U'VPWaGVf$5VPWaV|0;hcc*d1zAPZsdtP&Tt6fx&T8f&TP%.4XP$5ziJev4X8f%.4XP0[c8WPPxq%3X8H%3T
bUO!0zD$ZzDUCHX1!IPnan^P3?wOPhjzDP;g>s4?:T5Q>s65w`qeJw`5!w`c8n!1!jm:V7L0rP0rP(]0roimMtX0rc,r!Vd$5nn
nP(9JjmrR(9Jjm;HTkt=%P1k=$3%=$%e=$%+=$bV5x=$r3V#U'=$*p(DT%+=$?J%+=$j.VKkqXaVJUlhgXuV]HPc8n!19nazDPV
PZRVXPXnkk%bc8n!19W8XOj#b<P.G*Z&s<fsmPbZCl^VDZ=Ce&>wrR&szDJ&sUjaCc4b<,=rRUjaCc4b<,=]5&aT5SU1GF,=Zu2
m]5rPJU1GF,=,>t6,>P0T0_+5%e&sfF&b^SXnkkyz0P^S3=VLqV$|Pu2fqgnj,m_WcPXnkkyz,=]5=rj,$SP$Ste]5&buGJ&ZP&
ZwXP4?l0&aT&bqipAc5MVbjmgllgGgp0]fz1bjmhsJ&ZP31J&b&aJqMW]zyIk((]ZNP6Eg>&b,KPI#HjmrRI#HjmDyzGnE^S=_+
5^L+5=_2d&b^L2d&b=_5S&b^L5S&bXNZWJ_&P$|t6=pV[T_&c.2m=_UT+4>9W0+5=_^|^L^|Zu2m=_rPJ=pV[>9W0^|=_ks=Y^6
ks(dc.2m=_rPJ=Y>9l?SJ(dPy^D8eVd%1+4:n+5%1^|DvsVb^|$5y^U%vsojvLw,vLt6Al$vLBs/vLoj^[w,^[c.2mAl$vLW0+4
B!)tfUT+5yMtf#n,Kw,vL$u,KPt4hcT?0T1k65$ST93WPTv`?ST93?STqQTqc*Xn^TzDT1$3?wOTna8BT4?8BT;gJ8BT&ZT3y!:
n^TzDT1$na:T)F7HjQP(1P1fPUjhh19XOnOVdb@VDq8ZRVd_9@b_h3%@b$5c8Z&t6b@VD$5q8qXZuXmjf_h3%@b%1#'pDs(:n#'
pD!0]FWPP%..wV!P]F?SP%.]F+593WPP$SPt4n'P3DGy4dxZnRe*n~XzZ^26qPAjYUXktUTf7rP7L,_fhT%cxq;HBWLT=%T1k(3
>sna:Ths>s3?Jj2VdqEjyy$5<e]zrJ_z4.5<e]zrJ_zy$_z4._z$=14&ZP5hJ;GBf73%yMT!)T=%T1kXGb_54P0_f6(9Jjm(d](
=Y](6LXNZWJ_%>3=r=Y^6^VP^VE=YEy^VYDvsVd$5y^!/U%vs!/t665v`?SB93?S8g$Ste,KT93k4ks,K>3_m^L_m%1_mDvsVb_
mrR]FWPP$5ziJev.wV!t6]F?SP$5ziJev]Fks0^*V&VXPM3r=>&Vi74.!A&V3(4.!A&V&T<3^hE/Z63&T$u/Z&T<8E2f8f&T<1P
&T<9tF^hVdziD<3^hB/Z63ziD$u/ZziD<18fziD<1P>,p*J4X1Kc,fRjZ$Z>?#3mWhg+tP3(;/c8q/cQP3~NVJj7Px23sy$5f7L
5f7H5,7L5,P=EuN7NuNP9puN7NuN*ZrN$c5~(hfhXYVFzAXYu`P&nw|364DJ$TPZ+VOW@V<$m(.26gl$Z!=rN$ZZ:b_P.WPjoy$
#e7R;7$'y$#e7R;79o=$=D=$q?Z0DobVD+tJ=Cj_^gVdWH18o0VGAhd1z4:Z]l0Uo!TJqG8]P[=P.q,^PVGAhd1zy9PdqeNU'pd
PZZcnMSWlcLPfFAt:X)XyZfm7DsTb^PV[Ge]dEkPPwxh9JkyWnootXjFhBLkhZUV+jZZFXwXbcBjZbZQPUsW<q51!.5WkZCfSbc
lKJrn1Y0^str!Ua(3UaZoV`;8#ghqLVSZoV?Dmvl+E)Pl+1YDLez)PUa(d>.E+Wd>U~+`d>C1Y~H[3E#g)PE(1>t31Wuj01Y3(q
SCV`33(1WzWEE*:d>C1Y*:u5E1fJ2fEnRDj01Yi7qSU/abg,1fWzWEE+[d>C1Y+[u5iUWEC>t31>t(3>tZoG>t#g<SV!l*U'ZoG
iUHjVrnE#ghs1YuGE1fJ;OnR;OhsJ;OZoV^;O#g;Ondl*g(j0Ey9l*g(j0E14;O^L;O5op+EnR&raPLMgtj0J&rD0<>trnJrR0^
Ua6EE3(5e&ri75e&r2pdJtHUk0Q>t6v>tlb>t2K>t0Qt6,E7L,_+[7mJ#3DmWLnQg>&+Pp_:Z;b<#nWc*hhjz:b2TFkRvtm':Zn
j2TFkRvtm':Zg[W4VaD:bWI4D:Z]L#d;bPvC:Z]PJc;:ZmLO:Z#i^g$urNZWT8:ndP!c;!rPV_x3#3i_H:ZoYVZfp:ZW(hugmD:
Z2IuKb0t^NiuKUCkA:aLUCkA:Znrh#X)i1UCndt^NV7:Znrh#X)i1UCV!t^NV7:Zwyl.ShL.5)fXYk3Z:SVIq5jz:ZUsW<q51!.
5rnPnTXLL9*Jc;:Zc7Z+kRNfYZuUXV^NfYtyV^Dzp:bm0SWuzp:Z?=*K3J#>k9%s7L<:*K3J#>k9%s^2*K#eE#>k$y*_'*K#eE#
>k$y*;7y$.s*K3K$%4JE%sP.sJ<K4..s*K3K$%4JE%sP(DJ<K=>3r<K<Qks%u.sJ7$7Rks%t.sJ7$PbUO!zjlT$/Pjl:eP$/:e6
&jl:eP4z.5$/7H!pdrJ3s4.!pdrJ3s=>Dze3uUFB3uYO3uULB3uUNPtxWab^8NJ3o;ajo)D$'4<#n;8_3;81e@<;8!p#n8.E_38
.E1e@<8.E;ax0_3x01e@<x09~=<E1e=<E;ajoy9Ub$'y98gq!P8l:ZCq/:Z;bJ<KXMyze]5UT3h2d1OT1P2dm?T3h&?1OVfj_1O
D6~m?ErAVBTb]hlTvyhlTc1V<hlPa`j%Rt:XcFhgjo^B$'^Bjo.sP$'.sPjo|5P$'|58ib>XEaPV#PdqeNU'4?#n#hhw2urLPq:
rLPU1l.dCV|g+ZTStX=%PnTOe]VPc5hL60$&.q@O,&@O>[@O?Y@O.q3%:*;cT,&3%:*;cT.q:*3%]uUqfdl<qytAZ:b_Pj2Sl<q
y.W<veCXoDf7#a4b,&8.B.q8.B|0B?Y%c3%]u;4wZtAT#g52w|W'Nk[:aHZ2HZj:aWQ:aDm2N:ZWNhhryJhT:Z.6ZvW=Bhs1*mN
l2aYVPV=&XV`!<8dBVLrmX2BU1Qd,m6XnBp_B5KcwU_=>V<p's(B3rZcg=!pV<p's(B55Zcg=qSXzfX8lf<WmGtdElwW@jDcnQJ
U|qQggVNludxb[W<.LU=C8jU1Qd,m6XnBbdqvZwilWgm10[!<8dwUBzgB0[4ZBbWhvV7gdDqQbCWfC9*Bc'V!9*Bw|M9*Bi~9*B
s[ggg+jYdtUTQ:Z&+P.6ZuUW3qnOCjV)fBbWhvFjV)fY?APWOSJmbTuLT54T$W54T5LWwi@W,TqEJjsX7zTJdpQJItxWm8IX4Oc
B1*5pTnKTqbV[oIJAZYcBV^7h7P)PY?Yx#i`S_~BzvByPB[!C1t$GP^A`S_~BzvByPB[!C1t$GP3,k![aj@[a1[[aq9[aq+[aba
[as^[a!5[a5^*qP]K[au|[a2B*qTj<ja[a59[azv[ayP[as^ja[a!8[arWja[a$G*_P^A@I'K*X'@<F'KT(5?F.|u|E1'U~1=s>
59EzvEyPvWjaE!81Xs>$G7K#i`TB]K?F(5PdrJcueCR7(^k^l>a)03o=T^k=T^l=T>a=T)03o>X^k>X^l>X>a>X)03o;LB3(>B2
~E=:(q;LB3o9~y!3(.a2~E.V(q9~y!3o&ii7>B2~E=:(q&i3o1ey!i7.a2~E.V(q1ey!3o;a4+!p>B=,=:3((r=:i7.b=:(r>Bi
7=,>B3(=.;a4+3o;ay!!p.a=,[`(r.Vi7.b.V(r.ai7=,.a3(=.;ay!3o9~==?>3((s[`(r(p=>2~E@;(s.a3(_$3(=.9~^l1e=
=?>i7(s.Vi73ni7(p=>2~E@;(s.ai7_$i7=.1e^l;a==?>!p(s.V!p.b(p=>=,(V3(=>(r(Vi7=>.b@;3ny$i7=:3((si7[`3ny
$3(=:i7(s3(.Vi7(r(pi7=>=,(p3(=>(U4..a!p_$!p=.;a^l(0^k(0^l(0>a(0)03%=<E)0nd:c/v<k;LBnd:c'k9~y!V!:c/v
<k&iV!:c'k1ey!@]/v<k;a4+@]'k;ay!nd:c'Q9~==V!:c'Q1e==@]'Q;a^l0a;LUcy9Ua1ey9Uc4,!A<R9m6@Ub,!J4<uOEy#i
64,ndB2`y#i64,ndB3o%i2`4,1e2`ndB2`%i3o4,1e3ond*Y9;Py*[yB6DwUT_a9;T_p=7T@wPq4wU7H@wT=7T_p9;T_a;BB!6w
U7L9;P3oh*nP>QMffl(nP_67L[yP)ty*y!)C#/y#9K%iy*)D4<<R9K%h4+4,9Ky9uly*4:;4P.`)%;zVV^M!,8g@zq*B!pq*BWL
j$Rv>uOW4b_Jq*B<Qjk%uq*6+jk%tq*B!AuOW4b_Jq*$&63;mDoF<p!T8i!T$&!p!T8i!p!T$&(9v:8i(9v:$&|08i|0$&V!|wV
!|x.q:).q:+4*|w4*|x.q!H7j.q!H#a?Y:)?Y:+nd|wnd|x,&:),&:+y9|wy9|x,&!H7j,&!H;6:oB^M(3Pq(hTP=~#h3##h;!!
pq*Xai1DhT$&#h#f/|By*9:B#/9:6+)t#ZfFqC<Q)tt`7H@s4.@s$U5QT:B#/.U:By*.U:B<Q@[7R@[P%u@[7N@[*Y.TPy*.T$&
%u8.By$:&<Q8.6u:))S!,/|B<Q;RB%u;RP]L!pZGDVJ1(3t|0](|0].6+9:P3Z#h]L<Q)s%t6AG8!)s<R6AGT;!<Q)s%t6AG8!)
s<R6AV|<Q:&4.%c%t:)4Z<p4b;m4ZwP<p4ZwP$m%u:+DF*sdBbbW:FW'%ZPs]c#XbkkGw.!_./P(oPV_vtDjnOokPAh?3>ZwnPw
v3>ZwnPdxZnZ3198C$&&o7j&o5Jdr)%5pV1P)=%Z$uo@JMpPVdKkXZCryfY7jVcWK8Hw.l*R8HXYl'pU*Z49q.o[(X)S#a?@T@c
8i?@T?QT@cT3(>NXYQi1tZuOZFZubbAtN$Zo]HU1j7$ZZGHKU9fc$ZZPW^ZRinU3XhPWLj$MWU8TqpJdJP#lk4W:So@U_q_V5e?
OPhstZ%=Xcu760PUrIl(QV]P2>tZDltm7n5C:ZsSeERPb]%92/a=XfgPSgivtBz#BuaBOy3ByCudtfcrSXL8iq?)rT645y#a645
y7jDF*sdBvSD7~cUk(mp7~cUk(oIqdaDxe$ZyCoE$ZZnXG1qVUtQPV&f2c.NGV+VDn@jmfbgpV<i.Vdt%IXba*g'W,HPZ+X0HPW
;qJXYqiXGinVURWcjJIinqQXzuIPAroIinXGVhU|:p||V=nz<^||V=nzX5nw,q3EwGT(3wG$&uC,qDnwwG$&3EwGT(3,quCwGPK
kXDtyRVd)vP;iXaCfRW~;iVf%VtmVdoQUQJq:$aZsb.Uq$dl`N$Zx3D6Y8TyAD6Y8Ti^6KJw~m`:Zw~3v.6kAX+J^0YB^0YP^0Y
b^0Yk^0Yw^0Y5N3RVYRhIlsOe+WXLD$&i^6KJw~m`:Zw~m!tz:Z3]IfGUCw~m!tz:Zn3c#hLtz$ZuduL:ZW|U'q24'8i;!na4,&
($&;!7jna4,j_7j38PoY%9eERU]Wnc,%9zQW30om3hhW3lyeERBzQW3Wn8iq<$&q<P2>tZXGqya*mZPuOg?6TVds`tfUiVhV9Us
IinDqPgpe?XUWlPxjPXnfes`tfmMOgpUmWI:Zq,FX1MVIW;Vd9z./P1_m'Dl:ryRl64,y9XdUwrX$Z3Nr3jIC$Z(vxe$aoE$Z26
m>g>xetZoE$ZoEtZxe$a,bwHEf6oEtZxe$Z!poE,t$Z=>oE,t$Z4b:AT;58p:Bn`XzfX60c,Z*SZR:ZV+n`pVW~3]rK1K:bWPd!
XcV+Co[i;c.F1qZRpAPntmpPZnZwPZ&VZAPqpS+9oXJW;m]KXYVPj0PhmDVPj0PrmZ3V+Z^VWbcIrnXujYDHZYg/5I5C5I!:o07
jcui)GVbc#Bt!$&cui)GVbc#U*23s]c#$xs]okWwU`l1l<FW'o@$&s]c#PV_#'dzFMtZo@*W7jVcWK8HTt`l*R8H:otg!,P7ece
gpnffpW~qSPHn=V*KinXGqyqSWuW;nmPmLXM*B7juO*X7ecegpqllxPrOvAP:Fk;!qr,yv$&j|!qr,yv8ij|!qr,yv$&y$ceU'o
IXn8iy$ceU'oIXnPMXzrwDcl$Z2`7j?Y%cy$zmvAP!:)=._tg:Atg;4$&b@qypAyzjfy$vApmPAhzZwOtX.6V&f27J#f[,:|P%z
P4;mFg>26LU1g>%zPy%mFg>26LU1g>%zP$W%z$&#lk&h.VAW'h>jkVcdIVDqnSZWXbUjb=PW9DjnlsVajYRa`$xKV)*cmFm3olX
H.6m~1.C8hP%ZJk&Rt:Xcy3Pq<tgmYVDZcdKXYUnLxU6557#eVdVeIg'luVeAjY@S5Ib)V|%DdpQ:ZmND11zMZ_SM:ZZdg.NV#N
Xbi78EJ;mq<J@z$%#aVZpYC$&VUZcj`7)D*YdtnN7)D$&7)Vdy*dtnN7)D8i7)Vf2`,EP&n3f$ZjFU'MScQP%'#<4yq$GT2_Z+Z
TWLaB2_Z=I1(2_%uy>LPy>LP<Ry>L8iZxZI#aZxZI,E7J,EP?0JZ^2`?0JZ^5JZ^2`5JZ^9z,,2`,,+2uO7J+2uOP.X:?.X9z.X
XLLV>VW8ThstfW@Z+W'57]U;gT)O~72`57)O~757uC~7#a)khs8i)khsoiffm3Phxhn9z./*X./P+2#a+p#d./P9z#a+o9zt`!_
?E:?+o]v+2]v6wDw9;gT(*taB?Eh%>I.4pIIy+wTJ+o.4pIIy+wT!_2B>IyPJ4G]v~U+2~U2`~Uh%XEGfEMwTtZ7j%BC$&%BC8i
%BVD6wNg4Lm!9z#a%BC*X+2.4+o]Uc6udJ]v!!VDG2vb]q7Ie*!!C7JqmUVdGJ!!Coiffm72`DnvQm7)O~76w]Uc8XEnCJ]v2`6
w]Uc8XEnCJ]v#l(=:?#f[n#l(=%uMpPUC@o<RMpPUC@o%u@o<R@o#a,M>u7j,M>v<O>u;6JzD8UZ^2`<O:Z3o]u4b]u2`;c8o'J
B/w7P'JB/wTcl8P/w6t/wP5khtJ!E$Y<d<O>v(X<O>v#a3F492`#a(X)Sq.o[3F49q.o[(X)S4b?=>v4.<:>v!l?=J$O6u<:>v[
=>v.q,^J<d,&0s?*<b.q0s?*<b[=>v.q,^>u3oy$|5>v4.|5>u4by$.sJ$O@m>unmp(l>:q~~U~]KT#i).~~U~]KX!C:q).3,'y
ao0|!5s#VS]K7JeBC7Y[5!ITzD$a3?$d!@_5>WcuUR1(4E~Kt:UCV]Nn7[4:(~K:([43z:(~K3z:([4#a[41|W~+y+`;'$/7Z[3
mN$&[3mN7J#a5k+[f6[3E*:f6[4bce%#a~KdxZPZ&UC(*J[44;?P[4y%?P[4p<~g[4xk~g~Ky*@d[5#/@d[4!ny*@d[45hJm;P!
n#/@d[4#i2`7j[4UWmfVIxdCpF[3$(xdCpF);_5>W2`t`UCxdCpF);#1[3B>W7[X.UwZCW~~K:QcYoz[4Z;ctt]g>~KZ;ctt]g>
[42I9z[43%5hJm;P1_wxh9e]0r8i8:%,$j7j%c>HP2HyMT!)7HD7Wp*J341q4.D7Wp*J341qWL])P^GNpH3>yMw,hjNpH3>62P]
t#n^j*/.lP3h3?P*/._P!:;HBWL:o$u#cMthPfy](&TJ2J:O%u#e](<Q#e](y$kPg/rA7LkPg/rAPq4tdg/rAP3Z1fT(17H9M3%
!>W,EjQTt4n'P3h)F7NjQP1f$u#g&H3eU'!B=>Xxm77jdxZPZ&X(InS(3)]+Wj4Ua+`j4T65#n+Wj4E+`j4P*/,8!,:j.`8S7N,
^7R,^7N@N7R@N7N~`7R~`7N!l^C!l^B*:)u@3)u#3?JXmNn7#g@0XmNn7#g#34.,i#in^P3h+W_5%k#4+W(wT+`(wT=UT+W<BT+
`<BT+W3%<BT+`3%<BB%W#3qJWfm5XCG1rWwceQ=NUB=NUG%SUH=NUH=O=NYF%SUI=NUI=P=NYG%SYT=NYT=OUI=NdW%SUJ=NUJ=
Q=NYH%SYU=NYU=OUJ=NdX%SYf=NYf=PUJ=NdZ%Sde=Nde=OYf=Nps%S>$UK=R=NYI%SYV=NYV=O>$dY%SYg=NYg=P>$da%Sdf=N
df=OYg=Npt%SYr=NYr=Q>$db%Sdg=Ndg=OYr=Npu%Sdi=Ndi=PYr=Npv%Spw=Npw=Odi=Nt|%S>%*lYJ=NYJ%SYW=NYW=O>%YF*
lYh=NYh=P>%YG*lYT>%YT*ldW>%dW*lYs=NYs=Q>%YH*lYU>%YU*ldX>%dX*lYf>%Yf*ldZ>%dZ*lde>%de*lps>%ps*lY3=NY3
=R>%YI*lYV>%YV*ldY>%dY*lYg>%Yg*lda>%da*ldf>%df*lpt>%pt*lYr>%Yr*ldb>%db*ldg>%dg*lpu>%pu*ldi>%di*lpv>
%pv*lpw>%pw*lt|>%t|*l>&*mYK=NYK%SYX=NYX=O>&YF*mYi=NYi=P>&YG*mYT>&YT*mdW>&dW*mYt=NYt=Q>&YH*mYU>&YU*m
dX>&dX*mYf>&Yf*mdZ>&dZ*mde>&de*mps>&ps*mY4=NY4=R>&YI*mYV>&YV*mdY>&dY*mYg>&Yg*mda>&da*mdf>&df*mpt>&p
t*mYr>&Yr*mdb>&db*mdg>&dg*mpu>&pu*mdi>&di*mpv>&pv*mpw>&pw*mt|>&t|*m>'+HYJ>&YJ*mYW>&YW*mYF>'YF+HYh>&
Yh*mYG>'YG+HYT>'YT+HdW>'dW+HYs>&Ys*mYH>'YH+HYU>'YU+HdX>'dX+HYf>'Yf+HdZ>'dZ+Hde>'de+Hps>'ps+HY3>&Y3*
mYI>'YI+HYV>'YV+HdY>'dY+HYg>'Yg+Hda>'da+Hdf>'df+Hpt>'pt+HYr>'Yr+Hdb>'db+Hdg>'dg+Hpu>'pu+Hdi>'di+Hpv
>'pv+Hpw>'pw+Ht|>'t|Y%>2@q^t@Q|M@$|N@$P=U@$>29x<B|M!`+`(w!`[1^j[W^hT%e@3%e@2(0@4(0@2=T@4=T#49x=T#4,
i3#ht>z]6>1]6^5jN@$Ub@QT@qjN[M0`Uc@QP[lt]P[3t]|Mt]|Nt]>0;:J;6>2;:J;6>0<BJjk;6>2<BJjk;6*af6);;~f6D!?
;|?8TyA?8*`?8Tx3?8*a#7)n;~#7);?6#7D!?;|#7)m#3.lJ7e._P._J7e.l*`;<>W)n;<);#3._J7e>W.lJ7e);#3)n;<)m;|;
<>Wx1;[wynE4:;[+`&47=DUb9/VV+[&48=DUb;X4;tC0a*p#3y%tC~>jo~>$'~>jo0a*p,izDB?J,in^P%u+n*p#4y$+n|2?Jzm
#g@0zm#g@4,h1P+W|?1P[41P[36^[l^5n^$n[m4Ot~>2;@Z^%k;@63#h*:9x#8$j#hy$5Fi7)I3((QB3()Ii7(QP9g4.(2,$By$
(2.n7H5Fi7)Ii7(QP9g4.(2.n7H5F3()I3((QP9gy$(2,$P'm7^'o7^/J4.7^/L4.7^'nJ7^'pJ7^/Jy$7^/Ly$7^'mq>2('oq>
2(/J4*!`/L4*!`'n!`'p!`/Jy9!`/Ly9!``E'nP/J,9/J4:'o0i'pP/L,9/L4:`E/MFXK3(0i'pP'o0i/KFXK3(0i'nP`E3hMez
3(t~6'3y'o0i3hMez3(t~6'3y/J,9/L4:/L,9/J4:4.(w$u#TmNP^T[4[^+`|?.G>2,h.GE,>|O[l>0;@(d/e[4,4[4+W;@yMP!
)6^[l7HZf1M7Lq(J1oi7q(J1o3(q(J1o_9341q>,DNkWkAwXP,8.s7L7j.sP,8^B4.7j^B>,y$v`7d6uv`7dBy$ds3>7d6uds3>
7d^2<9P@Z<9^2]$jo_']$$';7?;]$$'_']$jo;7y$,^](4.,^](y$0a(d:i0a^L7d7Ky$0a=Y:j0a(d:h#a|57L#a|5P3#Zcre*
V7mJ3s(]&My97L0s6H*B!,P(]4.0r](,_D6/P0k0roimMtX&My#V!*W0r*Z0rP,_#`*Z,_#`P2OJ&M1dP(],_2HfdJVL3>l0;[1
e4*Ugy9Uf;LUgy9Uf)EV!Uf%iV!Uf)EndUf%ind*Z0;hcP0;hc<17,#g0h4.#20hy$;>;!^g*X;cT(9/8>HP#g!B^gtZ9o!B;c*
cs/Whn8g>Z^#if4UQ3gVI493?$Zi7;@#h#i7j5QT5QT_&P;!63#g1z4+j_^hVb1z4:!:.lwOT._wOT;g8p;9!,Pj_5;!,Vd:*9_
B#`XY,V:*DhAVbe%$/7L8:0iy$%cy$8:8z]u]t8z4.%cqEjs/|$&qEjyj2D/|8i.W$&.W7H>+7L>+7H3%>+7L3%>+c*5njV:VPj
s6~:VP:Vl>Xmjf#n]u(tVLnSt4n'8g#nzhi,Mtd3sWn%<VbUjPh,Zjm5=X=qtZDy8(9*y14&HI#Hjkfy8O(9PRW,WlKtaQPj.XO
MaGUtWlP?Y8.].6+9:P;6$u3(#4=~;!3(#3;5$u3(#3VGXyX15G.`T;4T7j(3T;6T:AT;5PXxLVInOU8VBP^G:T62<1P^G#n^jZ
GXo62|TD7Kn^P%en^P,&5k,^P.q5k,^Pj6Pc(aDxq#ina8BB4O8BB158BT1j8B<uUan^T65=%J8BB1j:Tj_;HJ8BBks:Txq15:T
XOW^W:Jj_bUPbUn~I*>=$)u(D>szyU'3]J=$(D]<X4ryfXucwOPuKV9!zq519?J25S!03r25S!z#npIfz1bXCj%Aw'n9U~+nXCj
%Aw'n9bDkXIZ3W.3>j,n9VD(DJAw'Uo4E:Trk1rIk&(D>s(D$u[m3Jj2D$X=%Bi^k92fB#`PrAP3Zy$8::T>,Dqmn/qh4Dbkn.E
c8q/Ik(!I,u#g0h]46[E140h9]E&vE+Tj^#a%czD$Y#n5o0h9]E7f38E4&38P!Itg%j*I6+.TPUVu`te#l=X|%<8E#`P9WJ%3$u
$'zlXYoB>w|%tg%j*I6+.T*X|%$u]4P|%tg3%#h#i3?$Z!I,VzDwH,V|%,V26WdS>w4*2^26WdS>w>,pDA1!qh4DPUtUqXmO!zk
sZU=X=%](.DzD$X2fP=%<1B;HP.D;GT0i=%P=%6^1k1j0ip+6^=%P=%6^p+6^1k1j8zf65;#n1k=%J8zf65;#n=%Pzm.DDhAVf=
%$vhAD7K65=%B1kzm.DDhAvQDoB>w;H<8TWL<87K;HBktj_(EZTl6;HEktDW:4L3ZWLBf7;GJ2e7F;HTfy<#htTWL<#htTf6@zn
KTks@znKTfy<42fE<S3%#`8fZ&C<9P;G<42fUa#`P>,W_XLl0f4pAyzjzU,u%f4pAyz19^U9]PI#H#n9_P%e^g<4^t%e>YP.G<8
E4&38P7&JzDJ7&ooRXxhF<8P&Z$u]v,>$u]4P]50_+5^T!IP!I6^=qP^T.G7KuGJ0^Pj_dxVWZS1)=qVd1_dxVWZS1)=qVd^U:|
tZ:_P=p#n>V>3#n;#^6#n;#>3#n,M6[^6#n,M6[|P/f|P])/f])|P<8/f<8|P<8J4*/f<86@>3ks;.C^6ks;.C>3fy<l,K^6fy<
l,K>3f6rR;.C^6f6rR;.C|O]D6^=Y/e]D6^(d|O7&!//e7&!/|O7&6^=Y/e7&6^(d|O^L0i]D/e=_0i]D>3[@6^^L[@^6[@6^=_
[@XYy8^V>.Ua(d])>.])P.f^V>.X5y8^VUb=YP7&te_%T0i=_0i=q>j6^=q7KZuDjf_%B(d<9^62e7F(dT8z(d>3zmZN2*^6zmZ
N2*>3zmqM5j[@^6zmqM5j[@XYoFg/j*P3YSJj*XYoFg/j*J+53YSJj*J+5^UZEONaB&H%1?_=q:n?_=qP%1?_,K:n?_,KP=W=q]
X=qP=W,K]X,KP=W,>]X,>P=WrR,>]XrR,>7Ky^VfDvsVdyM](!)](yM$u!I$n!)$u!I$nyM$u|%$n!)$u|%$nbW^[<8w,^[<8?e
=q?&=q?e.G?&.G?e,>?&,>?e,K?&,K8gy$&+J8B7R&+>szmyMT!)pfhj+4T!)J+5,4!)P!)6^yMP,4yMP!)6^!)T8zyMBf65;qM
3x#nyMP&TJ2J;MXGb_54$uV>U'jlP!<6KJ=%P5423ZwUT54231Py$jQT(1T1fP>H$vP]t%e@b_h?<]t3%?<_h3%?<3h3xq>6@J4
Xtf3%)zP1P(1<1T1f<9E0i1P(17K(1T1fT0`l?G$Z$=3$;prN$Z$5nnM)+$=ZuRs(wOP;b$u#g=lP(1$u#f$n(9$u^hB.GP_9ds
fmpDs()]^hxIJ8BX!glg>_%P.fDy8=_+4>jJ+5y1$gdsfmpD!03Z_9:T3%62>s7j]uxq7j]u)n7j;|7j?67j;|7j;^7j@2#a@1#
a@3#a#3)n#a;|#a?6#a;|#a;^#a;]#a@4,ij19/Vj:O[mj19/Vj:O65#n9o#Z=D#Z<R;RB%t;RP(3/|B9o#Z=Dt`P3!<p3Z;m3Y
<p,N;m,N!,$&%y8i%yX6hS+9KhSk(=>#aKhS+93Z;94b(38i4b(3$&4b=~4b(h#a63(3B=~63(h#a=>g;Nhg7j=>g;Nhg#a!pg;
Nhg7j!pg;Nhgy$?7#h1_[lD7H,i#in^P3h+W%W@2@q^t@QEq>l+B=T#4,i3#htEjN@$Ub@QT@qjN[M0`Uc@QT;@Z^x1;[wynEy9
P^T[lP$;[^+W|?$;,>>2;@=YE!)>0)u@4)u#3$;[^[4[36^$;,>P[^+W|?,>E$;.G>2,h$;.G>1:(7mJ#31O8O5=#4)Q6x#37j4
b+p63hs8i63+p.q%y8i.q%y7J3Z;9WS*7WSe]2zT;!;#T;9#i)=Dy85=?8g>mNP)Q6x?8g>1oDy85=,i=>1o)Q6x,i=>1ozcJ;[
+[j:J5=a'V|1PzcJ;[+[j:J5=a'G>0:(@1:(@4:(@3:(;^:(;]:(;_:(;~:(?6:(;|:(@2]i@1]i@4]i@3]i@0:(.J#3?J:(.J@
2_|>z_|>2_|>1_|p6)m_|TyA_|*`_|Tx3_|P_:_i_._i_@_i_=_i=>jPo0!pjPo0+W:(;;+`:(@1:(_4+[:(@4:(;;+W:(@3:(_
4*::(@2]k*:]k+`]k+[]k+W]2@1]2@4]2@3]2#3?J:(4.F7W#1$'F7W#1y$F7W#1joF7W#38l6@T4*zF3ry9T4:57#eJu5VbuK3
vf4UQ3gC>2#au5p0.6kAJUog+ZTdGWlVd1|W~+y+W[]4;3p*:[]+y+`[]y%3p+[[[#a+W[]*:[]+`[]+[[[_=(j8=DUc;X_.(j8
=DUc;X_:(j:O_@(j:O_:(j;M_@(j;M#a5k+[f6~H[3B*:f6~H[3B8=?9#1!W?9#1+Wf6+[#1+`f6+[#3pck&#23(y#4+i7y#4+y
$i54.i5y$nd6und>z7j<B$u^gP+ttgUo!TJqG2e7F.`VVf6;4Vf;4Vd@f3oZ^#iUXTt/Z^;4$qMT(3$qM*W#a%yP=>#aWOjI+9W
OjIk*4b|0$qW[?Y8:#cW[,&8:#cW[.q8:#cMc.NGV+U')fPjo@s$'@s.c#aqbNP49.c#aqbN8i)kqbNP497j)kqbN8g4DJ$TPFr
eSjOV'$Zc'i7(=n@jk55:^Bq+P!<n@jmy_VGc6APAhwCAPW(RWZAPNmYinrLin7joXl#ciAP;6JWQ8Tb@U'3ooXJfaAPqcWgHPW
4nMPaMinQdGWBPfNW=k(UrXMV[VdZ)Ldvinn8CWgk(%jwT!_4.9:!_hs/|>0|>D>z|>D>2|>D>1|>VdVGlJ55k+j@PhfZsPXxVX
y4Ahz9?.5Z+RWnj0VxWSWfCiUWnj0EdsWSWfgthFUvk$b?nTm7^U:V$ni~VB:ZVWnxjX:Z(v60Pnrhk60*Z4.0rPmTVhKXwIp?J
XCV5C:ZR3Wyt>TU9V6ZEQ^<H5ZDb,6bCbiVAkOOLq[Isl9&I6cMq_r94lLq`q^4iyJWbWQipQcGE!U:7E&jV6Hb,NgyjKvOxCh;
sGF&hWbDXGnQaBl|?t*yjN@pE7cE.NvdEI6ah'jFWlEb[QV7UjjtUk3Se*4ibIUlMe*ZWXzZ+:uU9V6ZEQ^<H5ZDb,6bCbiVAkO
OLq[Isl9&I6cMq_r94lLq`q^4iyJWbWQipQcGE!U:7E&jV6Hb,NgyjKvOxCh;sGF&hWbDXGnQaBl|?t*yjN@pE7cE.NvdEI6ah'
jFWlEb[QV7UjjtUk3Se*4ibIUlMe*ZWXzZ+^4L<4p+~p]^N[*S<r:uA[*G@#|b][[I][|l][|mVp]&U!0Q:u*t4.mb|j]%Vz<5>
!2[KUDEjNwmn=E)+rNZW)[S<rE*Cy(4?2z^!!=VH~GUS/mUV^4D]~V3]~P!f>TUqZa^#Z+W@~rfU~qUqW@~iWZ~jWD^#aKV<~oU
mC~lW6j#~nAb1^$UsA~pUlW+^#XP^#Zx^$Va~m^#XG~sH~jlg~lUl~kA^#Zf^$W9^#c2~mWD/je'~0a('dCWZ/jorA/jZx'dZx~
0HWD~jfT~u46l)I~0h+I~0go~hXhXPOlsXhCI/jmZI~0mZI~0mA|c7WmA|vW6I~0W4G~0c]RWX~0MZk~0Dmh/iWumh/il@I/iJr
j/il]FUD>5XeIa|cXU)WeSkBV<V&kHV<FcXU*W9cXf<lgWulg|h^Hh+I'dc]RWXUDT!gZx6]tDWcilUjn3EciWa|gHmClsXhCIU
DY_T&)*_EwyJ,MEWnwyJ,MEryhd3@[d+FTXOSXIH9?3@P$,.8fvdpVrfvMk$hEd^V3hEb7ElyQfvmpVpfvZsSEk$nvV3l`iKgtf
vjJEi]n:SVql`VrcYVyUw1SquVufvZpLVuWfEqrV1fvuPEKesmJW9U~r<l`EW8bQEaGY_VkVLp6V]d!UvK*N6WUPgYUPKgYRgYX
pW5p?p?JU1UrVCaBZ_USgYUSgYMgYcsZ_W/gYW/KgZZ|Z_ZbZ_QB@~QgYXhW5sBgESp?JU1UrVCaBsBB@~W5sBW5sCZ_o2@~o2Z
_UUB@~UUU]IgYaRBUpUv4qZ_aRB@~aRgYLgYOgYZt@~XsV20oZ_XDsKZ_SgYSSgYXpB@~XpBU8g/Z_XpgYDgYVXgYVcgYb&e&gY
ZWgYGb&U5gYUWgYZ|Z_aLb8VAW,XMGW3U9gYaUgZU]HY~~fmye[aK=xVW3^7BZAT*oJ5:P0*N^+W:Aa_AgBeaHehHa2HebHa3Ha
6HeqHUh#QHa!HecHemHa5HejHeoHedW8edHefRr&Xqd'Xqr>XqZ;UOegegidDk_VUegbFVXgeDcFBZYa3ZSU:ZVU:ZPa3ZRbBqU
ZYcFa/a!shaPa/azaUbFaUbEaOpyqza3qnU:qpU:qla3qmbBqmBqzcFU>r/UUsKUUsPUUsCUUsHUUsEUUx8Qr/QsKQsPQsCQsHQ
sEQx8UXr/UXsKUXsPUXsCUXsHUXsEUXx8XtefsKXtk~sCRsHRsEXtcF[E(eUP<J6dEoq&UkKE&WCtJGD,lKqlvdECVgV>VkEWZV
oq_Z(oYt,JV$V2e$sM*?Uk=`E7cE*?7c7L0r+)7Bg|3!+)7Bg'y9+):ibW9X:h3!+):i3!+):f4y26n9)9VGT3#26n9)9g'3#;n
7Bg'y$;n:i;n:f4y!,7H4yH8d:i4yH8d:fVBWckre]ZUzVP!EWBP54g>!EWB*Z54g>!EWBPKeLneVZHm73#WNCm)>1a*WLA>za*
WLAP3#.q0r7K2OJ3QP$W=&P3[UPzTP3Q@8P14#n)K7Hy(nxw%C:iy(nxw%C:f13<8Et~7H]t#nrqL7L]t#nrqLPjo%j:jmE:f$'
%j:jmE:h)>F:i)>F:h3%^B4.3%^B/SP2a&?39>yP!:57_BP5+na(=$=,M*V&s4?4F.zJ<>*WuHP4ynWxJ*WD0<PnLVG<xRFfc6u
RFfc*W309o7$$Zj|VCJ3y1|VCJ3yDb)v;ls*q*Vh%38Xd2w;bP5bV9V#7K3Q*ZuH7Ky)<'Y,?+nK<xV!tQ7KDvhh9.;$Wy(4o)]
4o6[Py(4o)%nW7KDjQg>uHP3#62P%e30oLVNe]uHP!Eil(=Ni'ilg+Z$Gil(=uIlKJryhd3@P#lXCV@*u4.uOp+Ey$uOp+Pjx8F
61)Xg9oLVNe]]8,M^2,tP@Z,t^2]<P@Z]<P9o?=6u^B=D?=6u^B2OJ3QY@UHXbUSQJ4zpGe#d0ZjBvNJ&=3~k9drU&fpU*rVJ2X
nnZs1#e>632XmtU'=9U%rJBj=fJDZwiu2X(X2XmFf`NpyqoQgei[oXa@e&a_j.gHZ+W;ftuaJ2Xq&U_NU6J2X&d2[ywJGdEQBqj
a[RU<UrbAWG1*dzj!hTBtDlX2XZBXUcCh3Q>=h3QU=g7=9a^Vcf?bPo;BCr:kexYJ2XXMe#XOSjJBc~hn&=v4Bdzj+Bx32X>(Db
F&dtqBtq>=6ziAW=Bq!>=qSV=&dZ:LQgVLQJ2XZVj'>(Rke3h2X>(m?VrUmU_O2E2Xo@U.W.C>=Ga+g>m0j.Em9Ez#VvW?BCe%&
=>(Ce#mN>=mZDbAk+XpWBG>=q(VtWjMEhZV=&dUWmHGiXLcl>=ZiWK>>hP>=hP>>v2>=v2>>%w>(%wyq>>yq>=yqpxQfzZ[J4zk
+3qnZDmvBvNB3Jj]W;W[c#Bm8VVvC.03(drU:k?BWlgffpB&+U*rVU)k[U@SfMDXFk94.&+U(I3>vBDi<jgnnZs1#e>d0ZjBc9Z
$V>BUva(B4eBvBDi<yBVhmYUwU+WCDclW?BhP22ZGRU@klgIlcgBWPa<ZWu)x_bBWLNDgec8itOy3gCryB6UBk!heZbb.dpBMX2
B1Pj=fJ3#d0ZjB3hVZSleBj_2]f@kWqEU%ZwitZJWab=U%GbP3Ef^Lp?Ma[WLBmFU.zTf`XDvUGa]Nn3BU7U_!,gQjTi[Df%oXB
ywBmzBtAa@e&U@CfNZtnXrNBqhnvbCi+dyZthpfQuagPSbBcfU;Aj.6tZ?2[ywJGdEQU%cmbC0oqja[RU)SWPkUU<UrCa^ckf[m
1h@g5W;ZcBV5bCWZLW[qD1*dzj!DltrLB3#b)GU@mfgeQlwniBhTU%Na`B#1VZk+tDlWGo~U+o@U:U5geb7MU.fVHgCqUh3QU<U
wU=g5h+bPxdg|kefyU)clBa`BxYa^e#c(Ihuf;W>BUwScQa_SjJBjrbsv,bAHe#tAn.U:WGWLU+o+VVv4a<VWZTU.m+MgVLQJvB
Di<dzj+Br;jTbFtqB6zU?fEZ|ZCftXGRBp)o$f?W=gAW[dEgOkWZFMZ|qSV=qHjZa_SrXgVLQgHj'eCggWaj5FlKU?ldo%kem?U
+UmU_OkUU%W+rt1PjNg>ZGSW[o@U.LbsZ=k)Bq2Bm0j.U&a+g>m0j.Bm2QBtBBm9Bz#U;W?BCe#mNU;o<dAjUWLDbAk+Ge^BmCg
PXpjTU1XzZfxZeCbBUlLMdGU+W8hoq(gFSW[hZGa@g|UWmHjUg[gZW=k@obm4B#ZVCqLleX2U;XyRU&pYHW[MpLf`b$WBgdd@Bv
2B%wyqU;W.V>Y?ZI;DW]vU18!h6@Jjk4,0ijkt~Ey$+xf64,0i+xf6t~Eq4JbVt:EbVw'q>6[Ubt~Uby9Ub#/y9Uc)Dy*y#2eWg
p9s[C?(c,jj.;%Dl1V5b]fCb7Mfc:Z;D@BdzbZR.<.|sg7H,^7L,^7H@N7L@N7H#e:i#e:h7j#e:i7j#e:h;3:i;3:f4C(=Rg4.
;y$|57L|57H.':i.':h~`7L~`7H.`:i.`:fx13y$=(xJ?+(xJ?+y((xJ?+4C(<5ymGaRWD$t'7P;DwnJ.F)B.<:k(>vC9((=2|8
Pna.F3%na11(=x23y!pQf0pGe%4S)][8E(<#/mE)][8*KmEE(<y*mE*X4C(=]rJ3rZcVB9*:ZmGaRWD$t:[1?*V;D@AXLDF.;3]
J7z)9P;D6G18$TT2[q*wIbQP$1.YUhA#(WYI#(ie#(gd#(WAkEz]Qk~k|ih1aXnU*kFkButVaU^k_Fu?bEgeb/kCuqV]a]#(Gif
V4nUGgggfHa[BrHIu=yDKurXCU(IgFBn(cbp~NV43AU)U_Kb|kDWA(:XN%T636W#(sKsK63sN,Q42#(r&r&d'r:r[ZtZ)#(ovCp
6!g_U[8f;OWk[8P_U[8ThmUC[8P$1@B6N@B3.W3krP_U3%3QP$).YUhA#(WYI#(ie#(gd#(WAkEz]Qk~k|ih1aXnU*kFkButVaU
^k_Fu?bEgeb/kCuqV]a]#(GifV4nUGgggfHa[BrHIu=yDKurXCU(IgFBn(cbp~NV43AU)U_Kb|kDWA(:XN%T636W#(sKsK63sN,
Q42#(r&r&d'r:r[ZtZ)#(ovCU?a8WYrtZ*T<>P_Uc8m?9U(=$)@B6N@B3.WvWEHp!ZFXFXOZe*NUPU)BOU;BW[b$BLU+U*U(U<U
>U[U^KgIf<U,U^U:U%BUhWAgdW5e;CWYUlBWDB0l0ohHBg|WYV4IV4Z%Z1U+ZtIW5H<8a~p0(T(e.>7M*#9b#+uJ#+#F=y=z)*@
kt5_+.C<Y$$)A#E.1B!&#)1F9a.BB!(/Ruo6WgdWAU_sIsEH08U_b'sNFU@bM6SsKCV4sPITxh*ds_uT#+=09b!Y)AQ![.C?'#I
.Ccx.C,z)$t0)$1Ft5!Y!P,X7M#).H,`<G.H,Z$E!P?y!&B,`6puT6p&z&c6puJBcx9a2jB%JgZD&_1F%J!Y!P$$s_#F,z0!0!C
gbIgasIeHsEeHWY0bfiUip0;Da+H7?cnt#(;$;(;k.(;j_(;1_(;57(;jo(;$%(;$'(;5&(;vN.:1>.:5!(;2/.:a`j%(;y'(=Z
FXFXOZe*Np~aPU<k~V4bFbRs+WQZtWjBa+a<ZtV+ZtWhBrbs*ZtUlZ5BfQWIBk)a<Z5Tz0(eNVmVqEK*dXpBLW5aTTz0(eR*dRU
WBXkBb'UpXbUSQ;pGU@RU[RU.UXRBViU(aUBW)RU(n0aSRU%aSRBW)jUaUn0NUWRU(aSU(aUaLZtW5VVXDDXDW[W)U(RU%aLVia
LhoDRU)W[NaLGZtDaUBViRBW&UWRBW)aURU)RU>px$).YQV6h7V6V[VxFtJmeccmJmVXNiKiMXxiLVsHP^A(T.?B^XB.B/R7McR
uTcR1%cR4%cRt5cRt0cRh8cR2jcRuJcR82cRw?XhcR$DcR$#cR#EcRuJJFTQkqfx!hJHZlk$WFKFp19!J`NjgoXgPo'uaU@HHMa
^Ge>yBDi[VZk2f^rtDWOWZj'rEgeXEZVe>d!a*WXLgJc~GFwjx|SgAN43b#e^U%GFMsDi9r8U_vCc9vKDkQqUe^cIqUZchqZ$LB
w_heZbXwfq*X9!J6EU*l5So8jgDqoWGU*WEH>6yk8E$lv&[f1=[f51[fzu[fyO[f!#[f!5+N$m3]rK1K<h.|$GJ`RB&6^dq+T(T
.?B^XB.B/R7McRuTcR1%cR4%cRt5cRt0cRh8cR2jcRuJcR82cRw?XhcR$DcR$#cR#EJATQkqfx!hWxl'XgVwFCFIT(T2jJFPQkq
fxVZf5SM:Z#i9!J`NjgoXgPo'uaU@HHMa^Ge>yBDi[VZk2f^rtDWOWZj'rEgeXEZVe>d!a*WXLgJc~GFwjx|Sf;d1V=oEBxeU%b
0fpBVPqWciV=tyV=Umb)jzBWcVCBw_qgZ|qipIBmiB#cBclBy!4+oLZVZugAm|Ik9VZFMsDi9r8U_vCc9vKDkQqUe^cIqUrUG>6
1?l%|+U_)b`RBzuaD]rJ.6ZkZvUwaIZcZJFUwaIn`ZWaVc9LadAaIZnZuUaZnW?aVV%V5V`VWNV>XUCX3WOV[p?ajWSVCp?abVJ
VCp?8gKRTVGRTVNPm_IjfW;U0WfcL<h$)z|kEeek|1aXgBhak_idgekCebWYGifgfb~a6Iu=yDl_mdcbmImU(:XN%Tr/sK,Q42g
Xd'r:Z<8gCo.rECcWIZ:X4XCUmHX4XxKFATU3XEAX4UwFTIrXFTWnV]TFk*U|V$FFW_TCVEAATk#FTHWIFTQe=ITotAjjTotkrI
To8k*c]XLTRWiATRlzITQZ'XzITc|b1ATQWjHTQWjWKFo;FTQWjkkCjnFTQIdHAjjTc^UtFTc^UtV7k*c<FaMWjHTc<Hk!TXfU|
FTXgdEATXgWHHX5Unc<FX5f4WhFX5IpdFX5hKX5hFHTW@UjFTnMITW_XxTb;X!U3HX!HjjX6UnGFdMUjhFHdMUmFX7AUwVGFTXG
UjFjnFTXGc<FTXGXgX7WjFX6FfZW/HX6FIWcHX7V5DsGFX6FdAX6VEV7AUwFTn2HTc1IW9TmMV7FTc1DFTXEVRIX7Cg4Tn%V[X7
WLV7HX6k*c5W_X6HWLFX6Hk*XLIc<HTOe=FTXLKW4Tn`V$FTc#DUYk*ocV&k*oeToeZBUwFToMToMb;TXMCjnFTZ_UrHTZ_UwFT
Z'U3TpXjnFTXzXuTpKIITXxV)i.TXwXNTdCjpUTX#Umjm]rJ.63HJsgUb'yao0|!5s#VTb)Ubu|Ub1'VTj<1u59Ubzvs71us^1u
!8s#C1u$G*zk=$Ij@*z&7$Iq98gKXCTW@X4FTp+TWSTNUQTMOB!.qeMTIFTCo.rEU'W6lHWbDZ`Fr(V<WaZ`V6XMWrITqin!s(d
MJUtNVfZst<ATXLTXeTQUPTXUTXrTqPTQqPTNURX!URt<ZbRTXRTQRTW)TQW)TOW)TRW)TGW)t<LTOLTMLTQLX9OX!Ot<OTOOX8
OTQOTO*'X8*'T*'TQ*'TOw+MX8w+MTw+MTQw+MTO6~Vj66dMTc?TOXCTRXCTSfJ2dVj66TNDX!Dt<VfOVfNUVX!UVt<UVTXVTQU
VTXVJoMTNUWTZ6t<UWTOUWTXkTOUWJoMTQJHKOTXQHKOX4OX7UUTZYX8MX86~QRX8HTMUPTXtX6AX6NTWnTQQTQXQ5bUqTQGTLO
TLUTTm,TLUXTXUwPTobTXOLTXITNOTNNOTNSX5SX5UVX#UPTUV6~OX46~OP]rJ.6W@aB'yao0|!5s#VTb)Ubu|Ub1'VTj<1u59U
bzvs71us^1u!8s#C1u$G*zk=$Ij@*z&7$I58$Iq+*zba*zs^*z!5*zrWUb1?Ub&5k:65o7doUQX@KVPA%9j,zn1)2/EpHN1)yBn
lWlV9j`e%j,ZCRWnrXU]kPKZdW<q7W?gVIj5gJZgWlV=j,fdZ|9=10#(jG22b?Ur22n5geb7MhqW=U;VAcl1KBzPn8VWs~a_nMj
'hFKV5WXDOgOLcl226UJ2UMVJU8g=u2fqgJGg[wjgF1(&$c~qUDn[G1(A3]B8la<ZwZRreBzPjG224eJ#eVVzPc7c5nQa*giU'A
ZNDOe]uaVum`l6q&Ca<ZgFVLqUW^Ss(gAb?e#zPNk[Bc8c/VXa?SXf5|k4j,3nj,ZaobZ|8CBWN9Za@Ly6a*ggC%<a<%<B5T&$5
mjkXMg5Xmj.l610U)iml67=BWHc7s~Bj,Z;W=gAr3tNBj,ZPV9MdGVkXyV5l6V_vtiJC4LhqW=JOy3a@rxWHzABj,n`SueXLleZ
tU0i_a*giCl]ZzVGg~RhFm5z#VwWVkRW+Xfa]D3~Ik9m_lVjza<rKJb@j!63c7c5nQa*U_U2jZJ)YgEq8U')YY^YDX@aA>^lWl7
WYcOlElGk'lFe#f$UhfMi0ixizkWk]WAkghRCgWgFGgFZ?ZGgFczlEZGhRZGbAlFp(U.f$p,Aczi0ZEb|izZFV=drU.b|HczhRZ
CgEczitZEZ?p~ZEczi>qAU.eIZNZ?ZNBZNczsWZNXvNlWNl7n(NcONlGn)U)lFNe#Nf$NenXDNi0NixNizNkWNk]NkDkgNitNi`
NV4Ni5Ni>c3U)eINeMNZ|NeKNsWNsUZMlWZMl7ZMWYZMcOZMlEZMlGZMk'ZMlFZMe#ZMf$ZMa2ZBczZEk]ZMixZMizZMkWZMk]Z
Mb|ZFczZCZ?ZMbAZCczp/BZMi`ZMV4ZMi5ZMi>ZMi+ZMeIZMeMZMZ|ZMeKUTqHU=ZGz$cJZGc0ZGCz$IbDZGs:p(U=ZBz$a6ZBc
0ZFb$ZFz$b~ZFc0p/U=ZEz$brZEc0qAz$i+UTZNb$ZNz$Z|UTZNc0ZNSz$sUKXPjUXPr_oaKXPn0OlGKOk'KOlFKn~U(XLr_n_K
n'U(oOr_oOU(oOn0XOjUXOr_oUKXOn0XNjUXNr_XNU(XNn0Oi>KOi+KXWr_XWU(XWn0OsWKOsUOlWOl7oaOcOOlGOk'OlFn~BOf
$4PfMOiyOi0oOBOizOkWOk]oUOkgOVPx`OitOi`OijXDOi>Oi+OeIOeMXWBXWNgPV=d#gPgPXDZaGU;f$ZaU;fMZeZ?ZegOXDZd
GU;i`ZdU;i5URi>ZdSU;eIUReMURZ|UReKZ+b%l7Z+U?cOZ+Cb%lGZ+CU?lFZ$b%f$Z$U?fMZ*b%k]Z*U?kgZ&Z?Z&XDZ)b%i`Z
)U?i5UVi>Z)XvZ,b%eMZ,U?eKUVsWZ,XvMlWMl7W|a]XDMlGW|gglFMe#Mf$nFnIBMi0MixnZMk]W_a[XDMhRMggbPMitMi`nUM
i5Mi>Mi+GlWGl7V]f[XDGlGjsf[bPGe#Gf$GebfMGiyGi0GixGizGkWGk]GkCkgb*U&gfbPGitGi`Gifi5Gi>b.BW/lWW/l7W/W
YW/cOW/lGW/k'W/lFnoV=noZ?W/emfMW/i0W/ixW/izMnZW/k]W/WAW/kgW/hRW/ggMbPW/itW/i`MnUW/i5W/i>W/i+rYb$Ml7
rYBrYc0MlGrYbDW@b$W@eDnFZzAc0nZZzk]Zzb~W_c0W]eDMbDMs:W^b$W^eDnUZzi5Zzi>Zzi+W#lWW#l7W#WYW#cOW#lEW#lG
W#k'W#lFW#e#W#f$KrCW#fMW#i0W#ixW#kWW#k]W#kgW#hRW#U_W#bPW#itZxb$IeDcJIc0lGZxbDIs:f$rHAc0i0Zvb~izrNgQ
eDb~kgZueDbDs:Fb$V.u=i5ZvSeDi+Km]U(W;r_m@Km^U(LlGKLk'KLlFKmrU(W+r_moKW+n0Li0KLixKLizKW:r_m(KW:n0W,r
_m1KW,n0W.jUW.r_m$KW.n0Li>KLi+KW?jUW?r_W?U(W?n0LsWKLsUm]BLl7m@m^BLlELlGLk'LlFmra=Z?moLfMLiyLi0LixLi
zm*BLk]m(LkgLhRm1LbPLitLi`m$Li5Li>Li+LeILeMW?BLeKLsWLsURlWRl7Rk~cORlERlGRk'RlFRe#Rf$o9fMRiyRi0RixRi
zRkWRk]RkFkgRg5RhRo%bPRitRi`Rihi5Ri>c^U*lWQl7Qk|cOQlGQk'QlFQe#Qf$QeefMQi0QixQizQkWQk]QkEkgQg5QhRoyb
PQitQi`Qigi5Qi>c<U+RlWXql7Xqk~RlGXqk'XqlFXqe#Xqf$Ro9RfMXqiyXqi0XqixXqizXqkWXqk]XqkFRkgXqg5XqhRRo%Rb
PXqitXqi`XqihRi5Xqi>Xqi+XRlGXRk'XRe#XRf$Oo6XRfMXRi0XRixXRizXRkWXRk]XRWAXRkgXRhRXRU_XRbPXRitXRi`XRV4
XRi5XRi>XRi+W&lWW&l7W&WYW&cOW&lEW&lGW&k'W&lFW&e#W&f$W&UhW&fMW&iyW&i0W&ixW&izW&kWW&k]W&WAW&kgW&hRW&U
_W&s:RlGZ1IgklFrZb$XmeDo6rZc0RiyZ1i0Z1ixrab$Rk]raBrac0XneDRgkbPmfU(lGW9Cf^jUf$Keln0iyKi0KixKizW8jUk
]mUW8n0hRmIW6NgVGgVUX08NgWWUgWHgWkgZ<Z?r[Z<NU@hRr:Z;XDaPb(l7aPU^cOaPhRaPbElFaKb(f$sZsbU^i0aNb/izaOb
(k]aOU^kgaMZ?aMU^bPaNb(i`shi5UZi>aNXvaTb(eMaTU^eKUZsWaTSgHb#l7ZVgHNgHCb#lGZVbBlFqOU:f$ZPBqQU:i0ZSHU
:izZUb#k]ZUBqgU:hRqUZRXDZSb#i`ZSBqcU:i>qdBZZb#eMZZU:eKUQsWZZSa/lWaUl7aUIa/cOaUlEaUlGaUk'aUlFaUe#aUf
$aUa!sba/k]aUb/aONa/hRaUbEaMNa/i`aUFa/i5aUi>aUi+aUeIaUeMaUZ|aUeKaUsWaUsUUTaPb$aPz%cJaPc0aPCz%IbDaPs
:aKb$aKz%a6sbU=aNHz%Fb~aOz%Hc0aMz%bDaNz%braNc0aNSz%i+UTaTb$aTz%Z|UTaTc0aTSz%sUDlWh$Dk_cODlGh0U%lFVU
jTf$hafMDi0DixDizDkWDk]DkBkgDhRDgebPDitDi`Didi5Di>bVU%eIDeMDsDeKDsWDsUVXlWDh$VXk_Van1lGVXk'Dh0n1e#V
Xf$VXegAn1kWVXk]VXkBDHn1hRVXgeVWn1itVXi`VXidDFn1eIVXeMVXsDDeKVXsWVXsUsib(Kf$siU^KfMaRi0aRixaRizaRkW
aRk]aRb/Kkgsjb(KhRsjU^KbPaRitaRi`aRV4aRi5aRi>aRi+aReIaReMaRZ|aReKaRsWaRsUqlb#Kf$qlgIfMqnkWqnk]qnHgI
izqob#Kk]qogLNgKb#KhRqmgKNgIi`qngIi5ZWi>qnSgIeIZWeMZWZ|ZWeKZWsWZWsUSSf$So=Si0SSixSSkWSSk]SXyU,pPgDG
gDUXgDgDXDSSitSSi`SpJSpKU,Si>SSi+dKV=dKZ?dKU,SeKSSsWdKSU=Xub$XueDSa6Xuc0XyeDSb~pPU=Xwb$XweDSbDSs:Xx
b$XxeDSbrpKU=XxSeDXxSU=X2b$X2eDX2U=X2c0X2SeDX2Sf>jTKf$h*f>Nf<i0h,kBKizVckWVcWUf@f@Nf?jTKhRh+f?XDh,j
TKi`h,f<i5Vci>h,Sf<eIVceMVcsDW(Nf<sWVcsUSe#Sf$o=fMSi0SixSizSkWSk]XygBXDShRo'SbPSitSi`pJpKU,i>Si+SeI
SeMX2U,eKSsWSsUZpGU<l7ZpU<cOZpg5ZphRZpCU<lFZnkWZnk]ZnHU<izZoGU<k]ZoU<kgZnGU<i`ZnU<i5USi>ZnSU<eIUSeM
USZ|USeKUSsWUSaEgUGgUUXgUgUNgUU/gUVPgUCgUbPZ#kWZ#k]Z#WAZ#WHgTGgTUXgTgTXDZ#GU>i`Z#U>i5UUi>Z#SU>eIUUe
MUUZ|UUeKUUsWUUsUZqlWZql7ZqWYZqcOZqlEZqlGZqk'ZqlFZqi0ZqixZqizZqkWZqk]ZqWAZqkgZqitZqi`ZqV4Zqi5Zqi>Zq
i+ZqeIZqeMZqZ|ZqeKrgb$Zpr|cJZpc0Zpg5rgCr|k'rgs:ZnHr|ixZ4kWZ4Hr|b~Zoc0Znr|brZnc0ZnSr|i+Z4eIZ4eMZ4Z|Z
4eKZ4sWZ4sUrjb$aAeDsPrjc0aAg5rjhRrjbDaAs:Z'k]Z7ixZ7izZ7kWZ7k]Z7b~Z`c0Z'b$Z'eDsKZ7i5Z[GU[l7Z[U[cOZ[g
5Z[hRZ[CU[lFUXi0UXixUXkWUXk]UXHU[kgUXeIUXeMUXZ|UXeKUXsWUXsUaAb&l7sPaAXDaACb&lGaACU]lFZ'Hb&i0Z'HU]iz
Z`b&k]sNZ`XDZ'b&i`sKZ'NU]i>Z'XvaHb&eMaHU]eKUYsWaHSY]T4zUUkWm@QlWrjXDZZn1k~RkgRbPoaW&lWLsUZMitOkgsNN
itW&ixGe#o6aNNU:eIW/i+qAU+RixZ7kgGV4kgZqFb(kWNeIKoUaAb%i+VcZ|Z&NgcU<b~aNXDZqZ|RkWZqk'r[nUh,XvLk'ZZU
:izZVn0UXkgh*b(V&f@NgKa/lEUTZGU_XfY<PW;DF*Np$Nz@Mz=z]Qz[ZkU:eoz?GDz<Uhn_rCLup87rZf^U[UhKl_ZagXVcusR
l_uogdV4WYkGbsFW5b'11OsAV]ErDXFVpsAZZa.HajU!ZlF/guHB*qPZ$I>^bFChDmPr>Z;hDXEbAmPp=BXUbFQNbFXRp=U+p=U
;bFZ&gfyFmPMmPMKmPm2gAggbFZzbFVWgemPaMbEmPZRCU<bFrfU_sHXfgkRbFXnCa^bDbFZ7CgjlwmdKlwd'eCU)IU.mdZGBXU
k|n(Oo)Bo)gPU?If[f]WYMmdMKmdm@Xza]U=Mk_k_mdaPBskgHU<cJZpU]k|cJXqk~WYOcJcJsPUhftrZZtl_cY08ZtNa2Kurof
U*NeecxBXRp$Xra4a8%]l_MKl_moSuqZzupVcutaRx;a6USusQeeftrbz]n_rHr/cCHk9mar^Z<k9XFb|maZFWAXUcCQNcCOXrc
CXrcCq6U?cCV[kCmaMmaMKmam+gBHa[b~W_kBcCDmaaOb/maqfU<cCZ4cCZ`kEcCrbcCRcCXOb~cCZ7HkGi[cbKV+gWgWZtNFU.
cbp~ogU*NV4XRp~Rp~ZdU?ififcbMcbMKcbm$pJnUZzididcbshcbZSU<brZnU]igbrXqihiju=sKWAk9raZtmUKk9r[Z<ZtNb|
mUZFBXUkEXFBOXrkFZFBXrk9ZeU?kCkCmUMmUMKmUm(Xya[U=MkBkBKb/b/mUZUU<b~ZoU]kEb~XqkFWAOb~b~sNgdZtZ1hDmIK
hDr:Z;ZtNbA3ABXUU_QXEU*c1BXRZCU+ZCU+dqU;U_rtGgiggmIMKmIm1o'MbDW]f;f?U^yEqUZlBrfgZU*gkRgkRhDo%hDObDb
DsEZ1B(g?(T,MX5;)ZzHm5ZaEoqDHH>5ZchHU*ChHU&22ZxIU.0oZaebazM0oW_k)U*i|Bjra[UCHU<k)`(D;)ZzHm5n|W_Y?UJ
P83>TaMOW?A~qaMW:/hW`C~nkV~qq_UV^#oYt,JV$~tXyfK2K^#ZuvksG^#sG)`p<JsG~zr`/hZ'~zA^#zm=`~tcinSsL~zzm=`
^#aG/hGVW~jk5W]~jk5VA~jk5VC^#4f1bH~tWnWO1bH^#3%4f1bHUD*dt4WO1bH[EUVUZOg5yk!N$X#C!N$X&2J!N$cLU5WQls;
g[E(e*;WZEcKlR=+io94tHUh4oU)AsGWJP834odMsGWJ|dr=|dUZr=|lml~uqm~qaUC~lC~Y|Yr=|Yh@~lVXC~lqm~or=|Wml^#
3%H~u46JHUD_E83(PVl94[E(eVKE*?ConXNO@`f|BigV4bFSyFerb~sPWYLengCIgCbFm2bFXMCyFazZzazZ4UiOBOU%Fijf<cM
Vaf?i`VWi`QsHXfb$bqu=ZnerZ`UUf<FU]V,gYU=h*U*Ci`XEi`rfbDGbFNbsUWbsXEbCbFpJm$oaZxgAi`SerQhDZ1XkAhDrbe
pehkDbqU;FgOOgXrCm@n(LWRU*WAXUhDdCa^Ztn_Gk|WYoUofebg5c?BjgUTGFidUtp$ZaUterXgZ)igWKW8OT!g(<QWRZzk$GF
XkhKVfZ4UiOW;+FxIxJ8nT,MY/_Equgq11sSn.x)n.x*DmGx)DmGx*Z#x)Z#x*Xxx)pJ<M@M3N@Mod@My(@M<L@M<M_g3N_god_
gy(_g<L_g<M@,3N@,od@,y(@,<L@,na;cVlmvE^gB%u#eJ0rB4yi7u5E3(u5E<OE$W<O6n$W<OBhxDvQ(aUa%p^4CXtc49?e'~i
Xtc49?a(~ohH~lUZ~lpAWfW:~uFUmpaH~uFUmpa*CuHUD^!URaX|UA~hH~hF~hUV~h*t^g~hUY/hUQ<u^$[+[I@#^$[,>G^#!cL
~p$u3N0`~ym?]y~ym;~mH^#N,tJ&%/DN<vFpZ^#N$vrmSpDJjN^#UU,tJ&%/DUU@#~scXGi_A~si$XyGi_A^#*t>G^#Z,^#r8Wi
kYlsUZ~ltq[+|Ytq,tJ&%/Dd@M~iG~nD~uWQUD_Ein@IMi#Li#XNc%i#pL^!pL:uGi#V#|nM~vUR~vR)[9%R^#!=L~vS~vD~vGU
D_Ey(]4BuGB1P=q^4hZjuW:^#!=K:uL_8tZ5L*dbZH9?nW|i][|h$up+UDUb<;*P$8mb|g<vFpZ^#UR[+>!6MV$JUi^#6MV$JHC
^#6MV$JFC~r|@[I|@|i|@|f|@|W|@|b<2<`U~7*RE[D7,)XI^!UU>!!=QaYVw~Zqtp@~moM~x0`^##QA^##QI^##QF~mLMtilKJ
H~hZ1cmf0UW~u@!D<2UZ@!M$u1O]y~j$u1O]yUDY_>!zm9%RUDpz3%Gtqp2UWsX>!$%VhWEh&~jWiXOWgWuUDdo/mUQVvVy^4$=
2[KUDTCXGt,+()>I/mK,t#((nHVD3T]A!=OTCXGt,+($=URacE$WOEWem?Uk##OXYUYm*WerFXz@`EI76Mr8rsA))V6gv76W4Df
3))QkJmVRWCXpH:I))ZUiPWCZoVwmVjjVmj$VoW_VoMmVV[VmmVW_VomVZwEXFblWCZFVtmVXOVsHiDVsXyVlWCmU,:U!WsFeRc
CXFCb^7BxO76:FW4Df3p85=wC*^98ugE&!DtI%V88K6$%VVV6D.:(,35(;@WZ#f4j`4SY|Pn:RVgns(fz[o6=F#s%^O=dr&8763
#tVc#rz|HU>a9a4efo6CC;Yr(Z_*dV@z_ema6rC:Fr/r6Cwmh*B6Nl_AtDAjfZa;YXuTs/d#g>(eXu*d=Z8o+;7P+;7Q2%3%h*M
Y/XYUlo+Kb>$Y=n/I<P#,BHs+'~[#BnA>/W4UwF'58&E_QB=ZY/^8`~!gW]d>fWWe`6e4Q0BXCiKVzI76&QPW]d>fWI$Y!9=ZB=
ZJ6Q3%=ZJ6Q=ZJj^1^&QU)imXGXeT+ATqSU/T9<=BTZkl0WI[GUY>4U8PXesBJW;J`6!Oa&R#usaxrUkKG%/e2UkMuyo,r'mqr(
j(2;EqNUkb`WbcCz8btgzbGkCk.XJWHccqPeFXJWHcb61UQeAVcZ_PXwZkZ1[A_XOx;equp4t6Xl_ofBrba6MeqZkB/b79e8CV6
CA>/Z1VxVsEKT6PY`,AP(TqovM1&t56q,W1F1&uJ)*@ks_@k?'s_?'t5_+!&)*!P?z.CuJ)*$+#K7M)$&z#Kh8<G$E#I$+#I;v&
c)(4%)(;vuJUC;v$E<=#F;u9a,zp8Zkd>gq61Nf9rba3CqRa=Z_SU@cPeE[GBWeXed'v@V4nsZRXwQBrZJLg+V`o+Z:W|B#.oqD
exVpvqR9Bxp9BZkU=sAOvqq]>Or/jhE(?emUk>OUoOvqG9BnG>Oed9BUP9B4Qo,Uvi|x^r*AcTSnG(?#q)8ZRqRJjWF>4jJi|Vm
kcRiWW.swW;QVlV$V:c$W^V?V<m`iGX0UoOi,bjXEG>/XfSg6c1RQe@qRXuTnyQk*y$XwdCRc]7RXwdCRc]dMnHf5XDXLMr/W.K
i+z#V4nyQe#m`hXLi|VaBUrVFVkW]RU)lHW,KT!=XCnHXGheU`p1nydARXfN`>UJdMnHjxjDGV#U/U|BlHZ2lHZ0Oz&*NvRXpAi
Px[rhVtK)8vRDU6~fvRXwW^*~*d&lrieWszRcZZkUaUScZnoabMcZrhT&l'LC*d&lnAabU!craha.W4p0qlO[BV4#.Q=gZ1bsxp
KeoKa5x<UTKFbDKa6KUS=eZvbDemenU)N=fObsn_ZM;*eg/Bx.WbClRHg0e<e8FC>/!tZ:Y<*dz0QVriQ>/z0Z1*dz0ZWVmVxEN
V2EdDVlD>/z0XXK`^UH/gtDe>tw.2B%etwXZz&[A2=XmE5aUSx[?)crVx#vKl|Za~fQ2=XwW^*~*e2=UXAiciKT9@Wv2=Hf&UUU
TEKO>5Unb;J#[jzEk,j@[GWck&S)8XCH7CjqB&ljqX,aYk;UJ*dDmlJntAi|WxcZh*PjMZ+g7(ey(Q$JQ7`Xh$JXh7`XhK$JXhK
7`R$JR7`ra6(ra67ZU6(ZU67qo6(qo67D$JD7`Z7$JZ77`M$JM7`G$JG7`j$6(j$67Zw6(Zw67ZF6(ZF67N$JN7`XI$JXI7`Ze6
(Ze67O$JO7`Z`6(Z`67S$JS7`L$JL7`Z*6(Z*67K$JK7`$JWAoCQ0oz8a0lNgzgvBoCXhlWz8WXEFCUkFUkAbtf&fvfQ11oCVEs
3hHaYcdDk)doB.5Qk$Zv0@DfSmXW8lQHWeXgIXZCU/CIcSZ~Q*Ng0qq?)rh6!hX,:cNbyAUnaVV:AUlgKIo1ZtUpf8Xhb1OBArg
U%;).kB6V.kB,:)3B6Pp#0*N^+V@cbV@mdGj9z_yFj#U&j$p4W/cbW/mdMcremmPW/mIW/W8p4W`V4W`WYW`azW`bFW`ggaOY<B
qzl_qzcbqzmdqzmBqzmPqzmIqzKcFU.p,p~ZMWYZMazZMbFZMbAZFp0@I5G0QVkJ<'DqwEt`(eU~5Ggs<vFpZEcilJURE7*R~Z*
Q<fsmUb3%$%&u$%4>O~ZUT~ZhH~Zt`(eH*y0`E&*[*$Wb`!=HC,tUc^hUaWF2IHUc,bVljxpKJS^!S$u)G:uS$xmFW,6)SVs~Z3
%S~Z7*S*y4>5C3rgr)`1P)GahUw$u1P)GEFI)[FlN],iPI*wy()HUcy$DhAV1$uy()Haqk>y$m8Uef6y()HUe#nDhAE*u1P)Gom
3<J5U$u<gT.YK0@*Q<fsm*0&rF],^3VUo1W3e$*?U~&*U~V8E$W0Q.=]A2K^3W`'FGD'F!=S<#13/l!=UWBy$jQB)FY^opXyXfC
<mAyUV6Z(XmVqe3gxWbRWCRV6RZ(l|mJmemVccW$EmqW,VnIiDVnV6LZ(n|OgwlPWCoSUkW#e7KveWbZwVxbwZ(rkiUU~rmiUHi
UFiUZ(hYVYVWEh7WCDioZ(MuwMguCiGiCVoWCW^VoZ(MmqGmqb=Vmm[GW:VmW.VmLZ(b+VmDguVaVmDWCGDV6GDd[Ukr<eAZ<iW
V0Z(Z_XZCU/CIcSZ~Q[AWJVlfSW+lPWcEN0BqpLiCLVqmWiQWDVmmWV0AcK0pKV$Ei]IblfSUmWqe3WJVwl'iKWbp&ZpLiGLVrm
WVomWVtl'VqWJJ%oW+We%oOlX%ons%orD%ojuJ%oraFJ%oWey&V#B,:WQAXKWnAXKfsXKeGUsaXcBUseTAXKqmWnUss4RgKIXhC
WYLi$WqVEBUsV+JWqVEp4`fY@ZMY6(TZn84WMsIWMWMIgbAgbUigbbMV(sIV(WkIgaereHWACV(UhCV(bMCV(gdV(Ha;Z_UCHa;
Z_Ca;sIWksEWkWMIa;sNWksKWkWY0cUh0cCp9Zo84#m4%#+82u(=y1&,W,W1F1&,`6quJ6q826q<Ys_@kQ![;v)A$+)A#K#F)A#
I?'#I$$)A%J)*,zUC;w4%)$uT)$s_uTu(t5)$#I1F#K,Z.H)A$$#It5B!&<G.H,Z826pt56p!Pt0u(,`u(1A&zh8!Y1AuJ6p826
p$E1A#Fcx&cBcx1A!Pt0gZD&_t5gZD&_#FuJX)lAu;UC!&B!(B<=1F<=$DY@YRUJP3T63(nZjVvWbZgVvZfVvZgvaVbV?VZpx#0
63(nc$Jd,eOW*lziVJd,VphGZ@Kp!W6qKUW*NsO$uW9SWoT4EZnW]WMDcxlKW1fbXe*faAMniJsOJsOJw3*d]PJ01eBU'e'EwsE
mJc:Ewk69oHVsgrV<Z%]PJ!If<I*sh>thaXl0nWUawttZh>thUcbZthB+hw3UaZ9n~Vjn'WogEG<wu.]*ws]*K)+n'WoU?U5]*U
Zf*]+U&U/]*sO]*z0c:]*c:]*wk]+a^O]+gR<wu&Xh]+6oXE]*XE]+Byo]*UUWP]*pE]*h>]*GU5]*Z$*tmYfQZC*Bo/+ko/U))
+o/*fe'JwkP,@e'l]DW+/5gE'&N'&ZC'+ji'+V>'+V@'&UV'&XE'+MsF'vZ7'&b_'&b_C'+nol//cW@l//cW^L/cnoL/cZlK/cS
pC/cXf'+RU2'vRF'&ra'&rSJXpFrh/5U,rS'v+:sFJ|.VrHUq'4[_(_VoHfqewXMC'4[_(_gZKl+o`'4#n.S|J%?>59_E5M:~5M
&9=lUa(++[0f7w)j=lB_h5M]p7vpd#(jEJ=lgVDms0fY?UF*dZ1'vF/cHC/cZ'/c)`.S|HZ&/cQIxDHC/5iY/5BC'vFlki:XeaK
XhWvIxD=j>pUd(_*f_]e'|KUi|Kd~|KF|KHC|KZ'|KC>o*5Ue.OBFlki:QIxD_]=j>oUg%?Ug.O*d*r'4[_(_*f_]q~|J^~UdoK
|J=j|JsF>o?N`4>]`4G+:q~`d,J'*>eq~'2B+_~.'*?L'i'2+j'*,3'i'2>d'*gc*PoK>o,Sq~'2,kq~'2>f`4+c'*Ua`I+ke'|
I'i|Imt`d+=`4+^`4,L`4+:q~`d,P`4j)$v/YpC$v/Y=j$v/Y1I$u#G|I#L|I5v|Itv|It7|ID/Y_]?iUdsd@'?bUdrS@'^QUd?
s?N`k>]`kG+:`k,H'1+c/2+ke'@/mt/W'1+=_D'1+^e'@/?b>g`k=j$v[u*M>h'_/2Ua['_HUd^/UdQ^/Ud_CUd^'?N`7B>]`7U
&+:_CB/NUa_C>e'hB+_'h?L`i+j'Z_C,3`i>d^/gc*P_C,S'h,k'h>f`iB+c^/Ua_C+k'^mt^z_C,1`7B+^`i>g`7B+:'haX[u>
p>h`7Ua['?cUd?W?N/VB>]/VU&+:/V?L/V,//V+kmt[C?c,1?c>g/V>h/VB1I$u5v[Ctv[Ct7*O>d`I,S`I,k`I?L`I,/`J++`J
,J`J+_`I+j`I,3`I,/'i'3_F?L_F+j_F,3_F>d/2,S/2,k/2?L/2,/'1++'1,J'1+_/2+j/2,3/2,/q~@/l~@/o5/W?i?L?i+j?
i,3?i,/`i?L^',/^'>d_C?Lq~[Cl~[Co5*O,/q~[Cl~[Co5*O>d?cgc*P?cB+h5w*MUb,oPkve*?=7R^B0e(nXumhKFJ0OBo]J0
OFJU3W*U3Ka1U3KFXXU3KV#a1U3KV+rChZL0OFJ0Jl]UCAe[W50JJ=L0JXQ=L0JXLUo=L0JJ%OUmFW2=LZ#MnfUoVaSXuW5hZLf
DKFJ0Jl]Ae[W6Cl]UC0~Be/W4Uo=LGfnfZXel]UCV<AUqazXumhKi$0OB>],J~(++q~|`~1,e~(+^_HUc^/UcQ^/B,J'O>e+^/,
?L++~,/N~2'OUc_HUc~)+j++~&Ua_>,/++~)Ua_[Ua+^Q~&Uc~),3++_`+_~)>d'O~1Uc?s,S,J_D+^~)Uc^Q,k_>Uc/,>f+_~)
B+c+^l~*MUc?b,1++?bUc/,Ua,J_HUd%?,e~)Ua'OB+^++'aUc?sUa/N~1,e'aY[Ua,JQ^/B+:+^'a>g++_C~2,J~)~2+^/,>h+
^~)?NQ_<B>]_[~2Q_<~2+^/,B,J_?Ua++_`+^^Q?L+_^Q+j_<,/_<,3_<,1_[Ua_?>h_<Ua_[Ua_?B+^_?B+c_?>g_<B+c+^^/,
1++_C,S_?+k_?>g/NB+^Q_<,1,J_C+k_>,1,J?b>g,Jl~*MB,J_<>e_[B+^_[>f_??N_<+k+^_C,S,J_C+j+^_C?LQ_<>g_[Y~B
hZAUtFKFJe/Zsa)UFU%fDJFhkevXgdAlstAwH|HZ9msFhkevXgdAlstAwH|HfDK|HUup+|HXOKfUM|HhZUt|Ho+WDL|H0I|HZ:0
~|HDfD|HhZLfDmWJ0Il]0~U<fDZkW+W:FmWPXzUq$Z0e(nZGDOldW!AX1XutnJAX1XuW6VCBbWW4fsKFl]JV<AUqazU9aKl]Wze
^Y?X@N43]TuHUa]qUb*qaikcaX0<Ua<OUa,M7n.']V.'JqJQZRV`=>0:DY|*U(n%j.37P14%j6+mETy/J%j.3Tzjl6y/*f%j_R1
4%j_Ry/J%j_Rzjl6y/$o83V]GW:J%j6+mEPN43]T2CJm0nQaWXQnKePJMezy(m'Uax2y(m'7n<:8!<:7n.s8!.s7n|58!|57n;3
]V;3:gy$@N8!@N7n,^8!,^7n#e]V#e:g,8#e]V7j#e:fVWDfRth8iVWDfRthPN43]T?;Ua@ZP3z99#c3r99x2993%x2993z%q#c
3r%qx2%q63uHT]q+FY@:sT,MT]8VCJnK/y@l@m7N|57R|5T.~T:HT;gT!IT=^T(d$a=Y@5Y@/8.h;T[7Y^P0e5w>oTvwC*Q5w.*
#G>oTjNWyo<zAT#L>op15v/3Ttv/3Tt7/3T1I/38m/3*d2<|H[sJ|.Ua2<J|.B+d2<J|.B+h2<wR>o*4>h2<J|.Uc.OUc(_Be'/
cUP'&V>W!n`p/A/5E[&|Bf]'&q~'vl~'vo5/dx~/cj)/cpC/csd/chi/d03/df=/dx/'vjE'vaKK'va('vt)'vq3'vd:'vc:'vm
t'voK'vrS'v'+d~/c/U%?gZK/d*f+=[sJ?|*5Uc.S|Kt~>o*5Ub,oUb%?p6sgJz!d+5TwIbQPq4z!]8?,.~T.h;T:HT&F/yT;gT
!IxJT=^+FT62`(uG8nT(d@5>9$a,MT[7T'@T?;/8@ZT]4T%r,+^9'K@lT;b@mT13T,8^C7j^BmEz!;D*q7N#e:j#e8ST]qT$)<>
))Z<7,U!IeUCeVeFZ'amWWGFT_Uc8m?9U(>$)(euxg0ovlQFiJVqWChYh7iogtWCjKWbb,GguHVxa&WbZvveHtJmeccmJmVn|Ol
PV6OgwWCr'sMZ`iKiMXxiLVsWCr(Zt[8f;OWk[8T(Txh))7MEs_7MVq![h8EuTE#muJE#m#EE1%Es_1%E4%)~7M)~t5)~t0)~h8
)~$D)~$#)~#EEt5Et0E!&E#Ih8Eh8E!%E2jEuJE!(E82Ew?o3$DE$#E#EY]VkEesr'Z_gsWCCp5Z~HiXbhr(Z:gvCp5Z`bgZ;WC
r<eAZ'p5CV6sQIp8q4z!uE$aNkU$arN$ay/T!cp+TeG$aZ<UT$emEz!537()zT[lT*:_5+[#4;4T:Ap#26y+Ja+H7?a*mZf;3^B
jZc(e.PWNq/cW4NzAJ!hPXw4NzAJ!hp6y+Ww>^ZKX=Je6YXJg3YKJlUYzJkNX[JisUEX?Me6YfJMg3X<JMlUX_JMkNYmJMisYsW
ze6YgWzbQboYVWzkNUKYkZnboY$Wve6YeWvg3Y3WvlUY8WvkNY(WvisY&cSboX^JOg3djOlUX|cUboYFcTboUEYwZsboYGl>boY
RW0lUYnl?boYqW0isUEYPNe6ULYBNg3YYJNlUdUNkNYlJNisX~JZ9boY%JUUg3YEJUUlUYSJUUcFboYyJSe6YJcWboYoJSlUUEY
BSkNYIJSisdcDe6X>l#boYdWulUX]WukNYtWuisYuJGe6UEYbGg3YWJGlUUEYkGkNUKY,GisYpl]boULYkr<ZKYcW2lUdhZ<pzZ
KdVsaZKY!JaMpzZKYDJaOboYHJAprUIYPUyboY)JAisY9JMr<ZKY.JMZ<boYiJZ6e6YLJNFprY0JNGg3Y#JXuprddSUyboY4cXp
rY2JV<prdlj?bodmj@p4.5ZKX/UBboUGprYTboYhboYjboYrboUKYQboULUNboUMYCboUMUKboY*Y@YO+&X[UEJc#iOYBZ<c#iO
YbW]VGiOYk0]MiOUJURcSXwiOUJXQVZe^IWQiOUKURJVOCiOUKXQo;iOULURl)UCRHUmiOULXQKVIRHUmiOUMURWuWTiOUMXQZF
UwiOUNURJqjiOUNXQp'LiNYDW2mHGiNYEl+LVQiNUGYBkbZ&iNYFWuXGZRiNYHJZZn3ik+XX]Y5orHiNYKWvfsXgB+&X^UEJHWf
iNdceCbHX^X`+XX^YPUwCXCiNYUJoIWY+&X_UEWwdGaMiNYdJRWGMiNUIUGiNYfW2HWGiNYgiNYliNYmJtqiNYnpi+XX|Ywb.HX
`+&X|Y7iNYul<V_iNYyUBiNY0Jo8zAiNUKYPfdkQiNY14/iNdjzBiNY!iNY#JywiNY$4/iNY*UBiNdmmLXMGbpYDJq!VZHWGbpY
HWwe&GV)bpYRWuNa`bpdcu5bpYSbpddD6TbpYTbpYVbpYcJudg>5tGbpYdJ5tGbpdh5tGWyo;bHYGYPudbpYfUBB+XYGY5W|NV>
B+&YGUMUBbpYmX&bpYpJMfabpYqpkVzU|heWwX|UJahYDUE)MdQahUGYEUBahUGYIdQahYHUEahYRUJp!UiXnfx.zJm'EnWT,Ep
9.|`N`p?VBj_;s1_;s@g?~h%;s!$;s@iB5^;s+$B+06r=157=15+=1h%=1!$=16w=15^=1,6B$GJ=11?J=151+PBzx=1yO+PB@v
6kj`=15]+PY]X#6w5CJi~B5&yNBvNJyNB1>JyNB5!yNTMX2J([5&yNTW;rmW~([5&yNT([vNJyNB1>JyN.=AuNKWQlsUmyt98ug
ab40E5*%>5+;rUa=2?]5+<Tyk<Tzx<T+#<T5+#C<T+$J<T5+&2J$AVjD7>b)*]zxD7>?V*]5+;r*]+$*],6*]zx&2*]ykOZsVVm
MUii$k.n?j>Zt&3k+3D8Fk+CXGW@1ij]&3j]ZZdCAlsj_M40VVCXGW@1ij_M40VVb[s<y45*GbS]RB3D8FjgXMVXVLy4jg&3yi1
@b[s<y4zuaI]RB3D8Fzw&3%>|71_;sCXGW@1i5+;sb[s<@+1:@+qSUYVZ@+ZsUX@+&3+$6,=1nOXIls5+OZsVVhwGy4zxOZsVf2
ZwHUa]RT9u)<&!)<Z~Uw$a$A$aM40$aHqD$aj_H?j1_H?j57H?j5+H?jXMb?V>)<Qr`W8Vb5C$am]Xu$acBQWX$aZ@hp)<faU0C
$aUwkQA$azLXL$ab^UPW;k&5C$asg$a98$dWnV5HWg$awCjz$ZZwXPDXL$eXyy'DvF)<V+ZVA$dVCV+ZVA$dVPGV9A$aMlinel#
UXGV9A$dWfIrk$aMVLfbF)<rmZsXzV5$dChuV]F)<W^c5W|F)<A)<uEV&WXL$ZUjZVA8Np8%#.5V<FJdJY[UEPn:WaV[Vbnj$Yw
7b]fvn@oGJmNVmAjjHg>mNEqQj7iPlcV0klEmLOg6XmV+b=GiCfZEu5EqEh'WZLMEuCEc#U1m3En~Gk2VlU6VnWgVtHkkS0pqSN
vAJn]U~Mkbi#qhZDDm`VuWGV#UTEp=W9ru1KEtqEW9MbHi1Vbm8Vue$o;ECUvW,VoWSguV+Z7VtbGn]U'ywEd^U~nuaEV5EpNCj
iVnWfZ/WUJp<VvW.GgxSe+EhwIrK7,U7U~x2dpME!g.KY~UHPW?ZV+iUhbAU.W5RBW[IU@U^f]U<U*U>BLBOU=BOOa~BV4XDQQU
,U%U&U&V=0lKU[p8qS,7edX`W[LBFFV4XvLW[AX`UUU.BOBWAMX`jTKf<pqU:X+UMBbrZteDU&GX`n1Bk/FFFigU*X`ZzBFihU+
pqjTGX`Z1BcMUQUCYYU&V=FFFX`SXvXUBOZLpiLMX`CX`FFFUHdnP!fCcwV^&2D.:`T>i`v`2Y^Pkf2n(ea$CiJiHu^aMEmJj#E
v~&UgrkKiAVqV6=oVEVYn<VqmJVKEVGVYqmEIlNV6U|DU=i%e]k,5*yizuUYY<))Z~ErPj.ZyGDgtkPmMZyGhgRkY+(UpDa2e=Q
ftRIp$W@RVVUnW$ikZ9WjV_o*IFZkf^RLf]IFj!CWaU*V5n_muikc#rHUlj;q_Bi.VVNe=V_o*5_XuWgeaUlWfU&CIUWVVeCZkU
;UncbllUWVVW%e=BkYe>5^;rp!kfn3O+(fvqAVre<W_IbfaRHIbiW8IicjCW`lVElQWJU~LbOc$HbKVLb`Z*HIbjbOSbOVaWbV<
lRqmX2iBHIh'qoHcKX2iZV6v(VKtJGVaV6ryiZ&hEWZiYEr'WX*Ukfn3O+(a,W_WsaKGa:VLcAVaIp!V%fbb<@`LXCgEGefUtLz
[31U(HU@b/g4U(kVU&0)f~023Ua^OBcrLgRu?UtXes*U)Ff=U_d<Uho+l_j*rCt)U&WAWYidDFp16V3@Pkf3~y461uxovV6Re3F
V1UkqNq[ZpEjKFiFiGVoV6j(NuyUR0BZvVpe2lPV6r'Z$Er9o,XxVnuvsa1NhYW4Y^VkF4wMa0Ul4wW@ApoUl4wW@UpAV1h*U8e
&WqAiFW(AAimiFW(AAimpop*a$FV#lKB6V3@>i2Y,5;rY@ZInMVGg7>T3hIz*Kz,1PIz*Kz,f&WTiWiXU~KbjbHyGbGW]u]CVwb
GQf&Rf&VKVzbGg&j#gsDV3bGgrsjgsSE&U0@HWbVO:u3hIz*Kz,1PIz*Kz,f&WTiWiXU~KbjbHyGbGW]u]CVwbGQf&Rf&VKVzbG
g&j#gsDV3bGgrsjgsSE&U0@HWbVOXYKU5,7XEbPGkWQltU;yFmiU%kBi<qnSZWgZUhKi|gFUPa@fJXmRBd]f]VQU^cC4Yo'Znct
U@b'KUxl_W:W=a|XMBWmBVFRBewBUrWAk9Z<WGBkPBUpgBUwgRBCe#UvU_IqUi5HUuBHHaMBHWfBAr:Ao'WLBe=BVGXvUwdBBa`
BcIgZUWPWBOf9@`chU.eba5a9z[W]VAU,uph.lwcrU:f,Ra4a7AU2f|U2a=ftXPlwZvi[z9KusUh0$azbFHH`^Y6WBfX>TUke<a
(h|qJEqqU`qqgslyl|Kr'v~U`ovr'L9CWCHlyXCEU`N#ujCU`jKhYU`GDz`crbgr(4pl|sasip9.8Uke<a(h|qJEqqU`qqgslyl
|Kr'v~U`ovr'L9CWCHlyXCEU`N#ujCU`jKhYU`GDz`crbgr(4pl|sasiY^PVAp%+ia2bBbBmIMbDMggmICk/ZcBo%ZlU(gjZlU*
U_m1W=Cx`ZuBrHZlBkDCU>CgAgDf;f?U&giU_V4rtZ@U]U^yEo(U+l'n_XhCY/XbUlZPh6JUqdp,7UqGVtg6RlhMe$CZDaKSLEC
aGEskLVmUjiPAV2WTMV3l|WjZDh;ceEWnr'Z@aGVoeEEqSVwKWUVqAdDaAV?KVQGVyf&AWLiPWVEqtZZf&Of!Z9SEd,UQbiZ_Z/
h*QVwAaGEk$V'f&ZaObif&qlV?c1VrKVQVYSe$DVQQVzVQUZiCZ=iBZ/IZ>EZZU6VuAaGV2U8MyWVqIUWY`gH7?(=Z+V_QV,We>
Tx?VtbIu]iHMmJbObJgxa)tJKl|lOq^q^oqmqnAVpCveq^kKVyAiLpzDgyguguKgzruZ@Y@iabQ:ux?VtbIu]iHMmJbObJgxa)t
JKl|lOq^q^oqmqnAVpCveq^kKVyAiLpzDgyguguKgzruZ@Y@iaCY]UIPy+JA$YU0pp8sh/X^h/X~t?YDt?YEURh/YEOt?UGUGUR
h/UGUGOt?YFOt?YIX&VkUEYKUPh/YLX&h/YTh/YWpkh/Yezah/Yo4/h/UKUJX&h/UKUNt?ULYQh/Y#xMh/Y)X&VkX[UEX+UEUGy
TX/yTYDVkX]UEZDU0X]YCyTUHUFAUAVkX^UFUQyTY1yTY9yTY&yTUMUMyTY:VkYRUFzaEUyX>AX$dQEUyX^AX$>S)M8sVkYcUE;
1UF;1UG;1UH;1UI;1UJ;1UK;1UL;1UM;1UN;2UE;2UF;2UG;2UH;2UI;2UJ;2UK;2UL;2UM#XYlUFt[h]X=t[h]X|t>YDt>YF4/
t>YT4/h]Yfh]Yh8sh]Yuh]UKYQX&h]Y4)Mt[h]Y:t>Y;X&h]UNUMh^X;pkh^UEUKh^X=)Mh^YIdQh^YTh^YWUBh^Ych^UIYCdQh
^YiUBh^Ym#WY<h~X?Ah~YBUPh~YPMh~YbCh~YkURh~YwKh~Y5ZmUzX=Wv1RJL&fYBLUG&fYPLUH&fYbLUI&fYwLUKEUzX[W2EUz
dUUXVkY9YBZ/UzX^J2KVkY9YbU0ZDUzX|WwZDUzdVW/EUzYIJVQaHEUzYSWzCY'VkY&UEzado/l)XazD+u=StKJ=S#(es)XZDUP
<tpzW`6`*y^FUc5gVohV..M<rUbmbuljN)^U~zm<`bJhH..o;VbtqE)XRVr<2)XR<2K[*)XW7KhH<2;J[,3KLD..LUZ..[DE)X[
DVn_8tZ5LVnhV*w^F)[aJ#n5LEH[*)Xb`zm2KVy)[S];Uef6^FVs<rUb5(E)XSVmUQ6`<5VmD6`*y^FVmgo..G/z*t4.mbpz)XZ
|@y)&@ygFmy9FBtx9FB8XuMBUqZ&kaSJuMB<~uM_8#(D<5Y]YxZZc9WE>^Uh0$Zkp4ZopyXeBoyk|kEFx^m1m@m(m$4PU_oaoUX
NBrHbDcJb~V4XCBn6WYNkDV4o=CgCgBBpJhagek_kBifebgfWYGkCFgX6SZ<pyUXa9Cp7aKp4aOPWhn3Ie]fZXL+(=iL9RvgEKg
&G'ff*E$9d<W7+|py7$$X.|&>,5|8^cPntXWdCC*N,<%R=;Gg%@(6o^?N]wpE&ST,&q,V&k*.qq,FdG>6|69laDZsp(Ui+iz00F
0Fz0p[B!b%Rz0mI=;Gg%z0x7x7z0w=w=z0$2$2z0oHa^O6o^?N]wpE6oh>&SY/>6?UX8XxZV55.|q9>6q+B_/Y[X@W4tO*N,<x~
g8UCpEB(Wf,toGg%@(:=f,N;hKY@&SY_>6k!06_/PXIHVLWl,7AW>gEV=XmOLa@LjUCgVFgcWYKg5G0)9NW[oHgRf;OQs*U)s=C
gTZbpNK02V<F>6k+_/Bj]1[Y]T.zPW?M,7a2U+BW[U_Z%WYZ|QBLBOU=BWAXvVXU&BFU;U>U%U&V=0lW?a~U:Y_T%d4SY]X@oIH
IytW90>XI+(AyUr'UWx@ApoN9CZsX,veCpoo,Xupomqo4KKuvVUpoVWVqAVyuwV<poGguCpoV[iFB.5Z+MZmZ+MUSX,Tqdh#@`y
Ur'r(p&N9CZuE4uo4KKuv##hYVWVqAVyuwGguHiFY^*$u|J&&2ZB9@JSOV?WhZt.|`RE'!UYp5`/^cE`C_W@v)@~F[g+#=2+z=2
.I^Z@x5+@xh%@x!$@x@iJ^a#C&2*$k.1`tF&&1_&&57&&5+&&h%&&!$&&6w&&5^&&yk1`Vdo1pNKV_*@/b=GpzgvY_B.Z$[3%4?
5M=n*e%|Ka)U:z/a)B?C'R,asZl_QQeiV_eiGa8W4Y[$[p+6]ZPb1B9]p96PT3,?U>6:[/)[dY~/gnZ63#fB#fB%=l+Bc#o7fQm
*iktw.2Bm'DY~Pkf6xfj,7KVSwkW*Kg8swXXd<W*d~soIZ8pEahg8sqUWsnGsxKs4aeKg8snMW6snXMQW*ZcaVchaVaGabW4MW6
afljUawsW*XpU8Z8Gg8anU8Z8crm4W*sOW*j9UWaYKg&.|k<%>ZvoIls$TT5=fj,7mKaaAXXl~swCXXd:akU6aWVgYMpCahU`aY
U`aWDX+aeU2UarSujsnXACVgYZq3aVchaVWnabUrafCVCabe|t)sqW*sdaYKe|sFaYmKanUpE.|k<GbS$GY@X@c#IqlC+i0Fp[U
.toRljU+Klj%R3B$[FM*dUZ01aR01US01USK&RGg%%KUXAn;o1n;$2croGKf]fRcsoH]nA01NbC]wUXWHKU>W8n;pE02Dh>Bb8|
S6[Et~p9.|k!06_//ghsBq,FdG6tnW$ynZnW$ynZnZ&(B3rxhY<PU5gl+iunAWAAAWAftAfterAbFu@Hs+$Q1aZ@U[sEUXrto%o
%mIqUZlU&giggggmIjiU)bCbAbAKgkgksEZ1rtZuU=sEZ5Cx`KXMU]sEsErto'm1DbEgeKyEVcsEVXmIW6Y]|SPj6J/S8f/SP3Z
/ST2a&?39>yTj_pdVb&@4?>yTk.4?&?pdVb>yc*vU1!3]K,7=iL9RvgEKg&G'ff*E$9d<W7+|Y[|A,5/+dMKLU5*@=iL9R7VpEv
gEKg&G~9UCd<K+sw6W6&gY_|A,5/+PNhZjZJXCKLU5*@=iL9R7VpEvgEK~9UCd<K+sw6W6&gY~B7$.:!=7$.:)j#nuOUbnWY>|A
,5?VY^X@kfb.Q+(2NA[VaVC6%I*.WsC6%WWHC*.b`2NU0[VUP.$CUP[VCUP.$R[VR.$VF[VVF.$M[VM.$VBeQ*.VR.$UY[VUY.$
VQ[VVQ.$VE[VVE6%HVE*.HVE.$L[VL.$VAaWLV`CXXa,AVL[VhE2NhF*.hF6%CZ3*.CZ36%CZ7*.VLaI0p2NhH[V0@2NCXKHXKW
leO*.VJ.$UU[VZ!2NWo*.Wo6%WR*.WR.$S[VS.$VGaVVjUiVjew[VVc6%go*.go.$G[VG.$U/[Vg62NWEahewY[UMX6i|fbfx>T
f.U!CZOAXUeOePUQeOVjCXAfyeRzkhWhWURaWRaWXtaWmncNCZrVEaVQeTQaWLaWW?aWXXbSCZ7z.rTLD5RcA+BcAHChWXKg[aW
X31PVGaWVjU|UZaWV`hFaWV'eOKz+rTLD5Rbv+BbvVNeQeQVjhF7Wh5Z8V5Y=<Ff.U!CZOAXUeOePUQeOVjCXAfyeRzkhWhWURa
WRaWXtaWmncNCZrVEaVQeTQaWLaWW?aWXXbSCZ7z.rTLD5RcA+BcAHChWXKg[aWX31PVGaWVjU|UZaWV`hFaWV'eOKz+rTLD5Rb
v+BbvVNeQeQVjhF7Wh5Z8V5Y~>ik,5*yi%>/+PcYWmIcXmjsA(euyNuwjhEq[qNl|o4ZaiFEnpo,So,UZ#uoqXmVn9Cr(QWnrDr
(r'QWnrDr'rcriVzUhz8uxgvB(<VUQlyrDXhHrh76l`ZBKf&jEAmqb7e1UjVaY/`%X]Y6pLWe`S`p?VBj_;s1_;s@g?~h%;s!$;
s@iB5^;r[dE6DE1>B9uDp0Z~aPM*@VAWmgEBn6mIj#f;gHOgIWhgIW9OU(Ka9Ax~gcLB4xgcU<ealwh>f=x/U&a!gdaGU[W6aGU
;a8Uk]RBd:f~U*KU2f'x_a|OgRBV#Bz9k@VOf^Z|Z`V=U/p1!g2<.:w(.<3Q)9Y[*d+=9_U]WE@96[Y]ZhkfDWKM,70D69%`69p
[VrljEmJz03CvgEK~9iR69d)~C#]f*E:Ff*E$9z0VUMW6~CEpE7VwsK&g69b8~C|A5*[:?V*$2ZB(n0ywsKY/XYWKM,7,<B=;@(
]nN!3pEUCf*&SU;g%m3KT(JJh>T!g9]B:_x'6]:|B5j0h5M+<E5M3hmbwRgAh:5M0`$o.|k+_//gj_;cD*y38B;!nZj_#fD<uVV
.T<uY?Y6kfFUYXpi:(e%`VrljUCKg&d~vg69K'f$9+|Vngo)#+@t~E:|7v>yl+tFp+Vj38E)iDY@Y6qoo+O,70F63,<%R3BB5gg
>z9UZ&R@(]nXEBpE&S>6?UB_/Y?UJPVAaCA+(,<%R=;Gg%@(]nN]wpE&S*fUZ0ysOKY<PqJKXP_7B'eA/I`+BnB90JLnAs0a:rh
>4Aa$W4V@Ic8W.J=K^Jx&8%UlT6P^8/gnZ3%nZ3q%=l+Bm*V5p9.|`N`p/)`(6190J6P*d90J1PVTH>490J1PCUcH*d90JnAY<>
65:PXelYI_7*d[%<I/aMKeml_S'R[#/6[SBuS|RTVLi%s($a.~,A7P7$.<?x>4=GY'T.~6[p6DkwDWIc1R*NVUW7jEVtUpVuUpi
FW7XmW7XLW7rZW7W+W7ZsW7Z$W7XCW7sBiKW7l~VqUpVwUpVxsBh|Cg)IW7FW7HW7g)XLCY~`%Y6qlQXL_7[Gz|XeeemBXmefmB
rZa3azqla5Aa5mBrieiAz_aznoemmBrhebazj9ecazcra6AenedmBZBa2mBXLAU]sCsCSazLazr)VUel^uUklOlRbx79e8HITH.
<Ul.<6PTXLU8Z_a)`&,A^8T,M*dLW4^ua0CI*dZ$AY/PoDZkZx[BiikE=gUQz/_V/:n_4tUV#rSS)8uS|R,A*fVcXzY<XYl`UrA
_7/I`1^`'5@n6Q&QB'eAdL^8|RX5C3^X50n.<61uSTz78<.<vHJ1Pz8(>DFb>.<,:N;WC$[$W=Z`(VEUt=BT9<X82T6.wH,Apmp
0bZl/Uo##`T>i`v/+Y`PXhHUSQ*@unWYV4<I%|o9l_%Ea5Zkpy?C2:%]emMz>rG%_p,l_O;*#rnA>4%N79*6&O6QuSB1I^8T.z,
A7P7$7B|R$]tMY]UGXZV9b7*@z|Qz[XmpyXpa)U:z/a5Zkpy?CMem|:z@ZBpyt'O;*#rS4x,AY|PXhb1Z:M*@[%<I%|o9l_%Ea5
US_VnFSSem|:%_p,l_O;*eh#q)8&N/6*6uSB6PY_`~RdAj9$Y!g=m^)`eC0#`@?hB[#p0!gdsW^$nRdAj9$YUT'=p5yIp5H^*Y[
dLY|~6Y_$[n@V<~A6)&O`n*URdAj9J>F/~p7(eUkQ0Br9XCY~UQzFA/H<P<I=gZ1epKa3z/a5Kz'K+g@DrHl_N=f4PKus4xx^tt
r*K8'/'x&@n6P^)U=&kl_z0&NdLX5WgMW9^8xJT+A|R`(3$$s(,354Sp1lxVGjz$d0n7B~A$['eAY?ZhjxKFjDArg/I`+'5bf1P
791PWC*6=ZB@.uSB&QTRd>R|RdLY/`>UzXY6</H`+/7Y[@n=ZB@.uS*!^8X5C3^thBp+T.kpnT&XG7B,A$u8,tZF7W$ODUc3#=b
dBvQ3#%=DUd3%%=DUd%e%=D6)pd*ydBD)]3%=b%e=b)u=bVWNGV!m5=b#fvQdBDUcj_vBbVU|Uc57vBbVU|*d1|#g:FWYj|#g:F
WscM:FF>4:FjBFY@UHomW|/H`+BnA'5@n@.0Yzf^8|R$[KFZ$Y``~c&Rkbfx|!49qIA7P|!%e|!?k@P49?k<c@P$WqIA)]@PViW
jW<qIA)]<c@P!=ViWjW<?k3%$OY?UIPjHS*@[%`VuV#rSS)8=n/6[SBuST=|o1|RY|`>YWPUpWI[Az[rZU=ebUh:FGed%^Oa5eo
ejUh4tDeqelBuqMKz]:Fo9Ka2Kx<:FZBY[>/4aW+s13ll6S^uUk=KU~U6bhe<Ut$[QInCY^`(]KB$G$]4V7$B7$U,V9Un>5Z+*d
UQ+g2:UhnAY'Ac+c~*N[%`V[#U,Xu/7@n@.uS|RY_UJXdUwf8ZVjt>TrZf.akWsZ'amAamWWcNbyCeVfzszXgePaIZ'ZrV*ePZ8
HMXAjis4Rabf.V`UtahV:NV:KWqWWmYWWmZX3l`aXDbyDcNZ+sN.8rZf.akWsZ'amAamWWcNbyCeVfzszXgePaIZ'ZrV*ePZ8HM
XAjis4Rabf.V`UtahV:NV:KWqWWmYWWmZX3l`aXDbyDcNZ+sN`f>i`PUYY>BWIc,Z&VbUui.@`E=KCp5Hp5@uZkpzxrV<pz!C?B
MK~ar'UY!tZ$6!D#vnAicB,:x:IIz+bQaVWsHY[:IE=ZEl/fw7xc7d#g>xn$X4ar/9&o*4ao*61uS.2B+AB&XG7BY<`%YhPZsrY
rFfb/HVsSp4`V[#BnBSXu/7Y[@n@.&Q*!T9<>4N;WCY?UQPaKZsZBaKS8Q(eUh,:WsbvFeRcAWWUnaVV:$=Wb.Z))@uq[?)?BMK
~aGDz`W`Abil|siicEUCUk!tZ$6!D#vQVXA6o*o.:616PE=Z*w$OE%(#n$OE&NE)3U:woUC9&(eSa3woUCz0(eZ_s1cgZ$B9&+;
#*+;B4S.(h'Ur6)h*MvatPRB9&(ty,+;#*(ty,+;BbW5:Y/XYWVWIZF@`>4lNgzg0b`e<e8=GaaB.Z*e/a/:O=d]g[#U*VX)8'e
AX8woUC9&(e4u1NATz0*o$YRaeajRabajahadagaasoeSUC)8=nT?1pf5:7Q.(f>W[3$2%n@V<T+;$uoXtZDV+tZ%eZgfRUeZgf
RUcDV+TjZOwD4SpmY=XbfsMy4D;(VbZsGjuIQJmeW9WbmVW8HtJW4Ah'Xzh'XzIh'Xyh'XyHh'o,VcXueaNgen(DNkBXCPXCFWx
l0W4F*NcyQU!cgXLabAanU!Z$ajXmaZAszo1snahU!ZPsqaYcZZssvAs1ZaaicZAeRIeVjBU!IU!z0NUbQapx,LUbUWawRUbZ/4
&=tk,D0nJ#RE4&=uD0nJ#Rl=e|=tk=m?(NXPMUCwnJjqE#RJ6HV?XPMUCwnJ=uy)7f=tk,#REy)7f=u#Rl=UqdnUMXaW4IQDV$I
/Hvcpy`V[#/7aaY@@n=ZB@.&Q^8T.zT+ApmY'`(.|`N`B5]UYT;rVbi~7Bp8n`qmZy+;.[h*M*ez[o6=F#s%^O=dr&]gVc#rAY[
;Y!OUk!oq[Z7#wM%/uyn|GDz`Msar(siicpz!tVc#v^uAuxgv$[&O=ZY]AolVUo;JRHrY@`E=KbQEe<cFEe8@uUSx[?)?BMK~a!
tZ$6!D#vnAVqVXa%xro*,:x:IIz+=GY]aWp2AWscFaVF:IE)3EuSEzfEl/fw7xXwn:f`UCotAY/`%Y6c_ZkmsRHrY@`E%NFFpzy
IpzcDe8r'UVx@l|n|ovK#wmqR0AnGMK0B5aG1mnAVwx[!Crcw1AtJo,hX,:x:cNjBFp2CVSUnp2cEUl:IE.yWIY~`%X^Y6XLXeV
US[Az^edurO8/UTx;eq;*upATfzQ/bgvdMDh4dpRT0[7$Y'UMPW;DF*NUYW4dnPvx*^k.1|;rUC0mv&tVk;;rUC0myOtV!5tV%U
q9V_E51tV&5vN6r!5Ig8VY%Uq91<v&tV%VpmVmhFW7!66rv&Ig8VYyP1<zuW76DtKpmB=6ndVhA3vzrWvIWrK$^VAU:VNWcV4AA
siUuQiesiQQijFZ)siQQigi.ZxU)e:QQijQc<i^f|U1V4cxfQc5U?fZUuftXCfZOU*FskBrxIX#g7UQi3Z$jz$aMX2Wxi3Z$jz$
aceM$dUqV^cx$aGo]1!d1W|G$X.~TqddCG$af6HW/$dc1G$aGkVL$al0n8VWs~$djJ&0$dy5XNj)l8Z$XeWqfZAY=/g&XV|ZSZu
I5561A.!p:+ZcZlnW+4qzKoRsnRBAX`U06#ewYMy.zKRe|+ZcZ9$liZ8wisogoUa)')'F68U08uxQafU38v[9h*YZ1lBfJUu6#s
;YMh.G7yt(Be@15e|W|OYM#OcZXeMYZQI6eimBUqft0FAn`.#Bfv2dfv1_j2VY4OrFUo$Lfx4OrFU#!.fumIUslwfZM6#c<BffU
0BAhZX`ewV3InHylQfnJ%aeyGi*2dGi*Gi*2dGi*nuUb2dewUd7eey2dey2dewBewX`ewc[Bp,fJp*YOZBl`X`ZBL6&ZBLBxQBp
;p+AX`ZG.!o8Ua9#U.7<ZEJU0Ubi]7ep~p'V%6&p'V%U.i+qAX`nFW@RVqI.A7yoBUbAn`UbxQUbZGatU$4OoBatWtc|YNRFXBc
aWjUc4OLV;osaqU#W.Uc4OoBYNW.OawVT+]nuaoWt1lUbF8yc|YNima?Oa?XvMfZYQa]a]UPa]O.#a]OX`Mlyoue]FJzIJniBni
BM7<W^EzI1UBMV)6#0%W^ZLBnVBnVb2W^W5coBcoUHEzKzJcoUIBW^SX`C6#nu6&U'd)6~d)BC8u7yK7yMU!o8adWshZ6eV4VBl
wCc|BVABhE15c]YNymXM7;hE$LhE!.VGhDs;X`0%s<6#A7uW+LUd15Le|a,p:y.zIUczKcazK9$oue~66aeFYZcgW+L6|Le|W;a
ajBYMb2Xm68Xm8u7yM7yKU$KU$lnU08v7AV<ZOa,ezew8yRe|p:p+7ASa.V&7uXuabAststO6|h+abV)aWL7ucgVL7r+Z[oafWs
RIUI7uU!c|8yDV:K7yL)'goYMl/7ucgW97AW;aZV)YM9$lK7AK)'ezosUa4nQWg7uLe|QFYP4Oa,W+[9XPs4Ub2dd)acU!hZsnX
3h+7ub.soIXAbU7oeUFM7uM7<XmX`c[A7;c[efUrE_dU+e@o!_dBo7fQRfQc]Bc]YA%ac]YA7ec]X`o8Bo8YORewfto&Gly15c<
U+I6#VSF7;Rk~IUI6&RIUI7;RIUIU+WgWhBc|YAzJc|*k7yln+ZlnL)'lnNefWae>t(7;t(6#p:1lEyjf/7;RihF8uos7r9$d)s
nL7AGV%YAzJRFM6#7yc<aeV&6&RFW~wpf/Lf/O.#f/Xvc^ULf/dEf/Simf^EylzJl/U(I6#ezewYMp:niafUraeWns46eV4cbKV
)8ua,Ke|4nW;DW*b2KV9X`WbUhIUPBWglh2dWgWhJqAUb!.WiBWiIiGZDXz6&lm1L6~1LJFM6~FM68Wf6#c]8vBWfX`lh&w7;lh
$Llh!.liZtlwWjBlKf|.!Ur7uQFYZewYMp:xQahUwahWss;YMgoUGszRe|[o7uh*YP4OU!RWsc|YMt(7AVUSav48#ORV:c^ULUa
lnIXXossyQWgaaWsW.sw7uW^UcRIUcV>adI7ud)FUZajCs46iFsnsnX3h*6eh.MsoV:h5aXFKV&sqX3jBYMb3V#i$15cyimank|
AYA7eXeX`QU0f|MYCX&6&XeMUJf|Q6#9#f|L6#p)7;XeLf|OX`XeOUIBoue@,wF6~,w7<oue],wF6~,wig0%QI6#p:jBW[QWgU*
lwQWae>QlKU*I1C6&QI1CU*7<[bYBQF6~[bX`QFYQE.xU*FULU*V968c=Bc<E$Lc<U*imFX`XkFUHX/x^wi6#A7uM7yKU$o8UcL
e|e|a,eyaPnHymp:ZGabUwePszo8afFM7uRb3cZKe|*|d)Ua9$Wh7uKU$W.syQWnaeFYZQV97uW97AU!wiaalKaaV:W.Lsw7ubS
oRajVSh+7AbUsolV7At(7As;UGUdymh,YN4Oh,YMbUsqR7oaYC7A7yD)'ZsUaF7uU$)'jB8yezb3imE!.LfW.#7ubUEzK2dW+4q
zIl)a=Kh,a=L6#W+Lx_6#c<7upJm@W;LB3kX`LlKa>6#p)a>8ue|p:goYNym+Z*|p:WhaeUrYC7uewsyL7yezwi[9Zus3aXI7Ae
zVaQ8yZEaYV%YAyl7eW.YA$LW.YA661Ua>YOwp6&wpE$Lwp1Ua>Ka>La>O6&W.OUb.jBn|&w68XLX`XLW5n`BoBBoBX`XMa^VVo
ac(BO7<OijR68OV+bWBXNX0FX`oR.!c<anA6&oR7r7yZs7;oRBoR*kA7uW|st68rHAX`rFUk$V6#h,Jyl$LrFa6fWBrEW0Fjum$
rEBrEX`Zu.!FM1UU=I6#bDIX`ZxO6#[o7Ac]8vgSW@8ua,ew7uezRFM,R+ZZus4soC7uUoU3UcewUd4OezF8yezimU=WaUvu=FU
FUFgRVnfW6|o8asewaoUqUc2dd)JLfW6|De~imE%ad)7;d)aqfW6~LfWgRFUZbe8xewc[UbZGUbnVatFXB9#UbXeMUHaqAawVTh
3UyUbFYAQI.AZGUcV4NenW[cxU)fMN0%XG.!U0ahWsZEeRWsIZOjBYA7en(n*Wi6#Qe|b3sa$Ln*WiBo=U0U,v[haUvW0Fjum$V
UR.!W^abFZOcZosaeV&aaV#adIs4snLsoWgsqZOFYMFZOFXXFX3im6&VUR68hZE,wewpqfzApqUwf>f>*kU!p:#OZusoFYMb.Ua
F7uehAUKf>UPUKf>SpqmJK7<h+Jo!_dapU06~jP.jf?RUNf?Zth+Vcf<0%h+Vcmtf<Wg.!Whf<lh15a.e|p'V%stZ8o8UaWiWtz
KQimFYMW.LadV%snLf<lzRB1LE%a1LJqA6~qAf<lVf<7<$Wh,f<FpqKV)i+Va68h5Bh5UI6&h5Ybh,pqIQpqWfUyU%7<Didb2DF
MpqFKi+bUU%FoBU%i+bVUNBjC;g6#W9adI68GU06&jPZx6~ZxJni6~3;!.jI6#ZGafFM6eh,aYV%YMb21lBjJU&C68V]Eyjf[Lf
[SE&w6&jxatfK_dU&ifV%X`GV$U&V#Bb.6&b.JaK6~sZV6RFMEFJ7<FJns2dns.jaoi:2dbVUbFJ$=2dFJ$<BFX`V)BFMVqimF8
up:OWs)')'FUfzIEzI1UUa15p)BFnVBi#15wi,RW@soAYZieXUlwV#i#154nXCBi]zJV&7;V&1UBV&8u7yKU$ZsaVLaZa:FZ8FY
N4OewUcZGBV&UIBV&WYV&IYOi..!ewc[ahAX3coszRe|[oafV:cZlnIXXlKsyW.XXc(acA6eh5UIaYjB7ARb38)Bvp6#ieVc.!Q
V:c<7oBimZ?imX`imV#Z?V7V$WYFUZ*koue>FshUkyl!:15c<gcRgcOZ?aMX`aP6&aPU^IYOaPp|fnJyjU^WiU^WrX`shFUJ6#a
!V)i+aNOf|XHCmtWcU_U06|d)BU08xUhAn`6|QV%a?XoQI.AF8yoBa?RYOni7Ah,BMV)6|h+Bs<6|Rb3h+U+A8xfx4Oos7Af.Vc
X`XnUGX`RWiU(imf|6|fuKVSewYZ#ORb3[bYMW.XXcyh,LaYjBSX`,wRIa>YBh+h=6|p)6#go8yLe|h,a^VcBoRYP15sZZsUIgS
gSUNgSW@8xZBLafcJFdU|/n2KYB;gBn*pqUv6|9#f[X`i$15XMBFJFY_ULX!i%ls61j_ew6$ewE57ew6,ewEh%ew#^ew)@Jewvf
ew6$3;573;5+3;h%3;!$3;6w3;5^3;57F6,V6h%F#^V66wFvfFtI4rj_4r1_4r574r5+4rh%4r!$4r6w4r5^4rk.o&FtFo&F6$o
&V657o&F6,o&V6j@(M1[2$YN.xEq9(Mq+(Mba(Ms^(M!5(MrW(Mk!(Lj@(L1[2$V;.xEq9(Lq+(Lh*S8xo77AniUdc(tIqAFtFq
AF6$qAV;.xE57qAF6,qAF6$]GgoX~UcgoYEE57]G3kUc3kUIUc3kJAUdZDh%]GewUN#^]GIc(UHUcliZyAUdZD6w]GV5DFUcV5D
FUHvf]GI3kUcI3kYQUcI3kJAtF9A1_9A579A5+9Ah%9Ak.dpYAj_dpYA1_dpYA57dpYN.x6,dpYN.xVxWiWgUtlyZxRWgAgrk.g
oCUHtFgoCUHtI1>J3;9uVb3;5+yOKVb3;k.1>>rJUk9uVb]GUk+!Jez6DJewEkfUjDsVfxk.yOKUc6DE98Jc^ugJc^ECmtIjVk.
1>Ua9uVj51aI%>57F>r6,F>rEh%F>r#^F>r)@JF>rvfF>rp1>y$YkfUjDsVfx6V3@E!puGE!AuGaYXzuGUarnuGY`$[U06|d)Jy
mh,X`fK150%p)6|niJyjU.Al`8xU0YMZxana2F6~ZE6|ZsX`nH&wa?R6|c<a]O6|lnFJFJFa]O8xb2nV6|fuKVSewUbe%y9stZ8
coaWdIUGszRWsc|YBzK#OcZKWs9$4nc<aeimFYN4O4n3XYDaaUt7rc<aaFK7A#OoBswVjXPajIsu6eh2zJC8xc<acfMs;YBZ?go
YB7e0%s<l)h=6|ewUbKWt9#aqU#Le~XMasU|aoF6#DihA8xZBl`YMW|XQzKnV6|9#Uc4nCdCsz4q4OW|UcZuaZ7yU!QimF8y4nm
t7rc<aaFW*oRajC7uCUGUcRWsh.OanWrX`c[Uo|/o&Gl015ihlK6|t(J7et(f/8x9#f/M7At(J&wf^JyjJzJ[b6~[bf|6|ZEaeU
!FJFJjBXv,waN6~aN6sUEYO3XYE6sYH6sYR6sYlUB6sY06sdk2d3XdkzJ3XY&6sY(6~3XY(6sUNX`mwX^UEs,X_UG!1X[!1X'UB
!1YH!1YK!1YX!1UKUJUBs,YTYOmwYTY7s,YXYQs,YYUE!2Yd!2Yj6#RV:ln[2UHUc~JF8yZB!2Yl!2Ys!2Y8!2UMUH!2Y.!2UNY
C!2UNUJs,YqUEs,YyUMs,YzUL6#ezp:y.zIJzKQFYZcgjJaYVSFYM8)s,UKYVs,Y1UM6#MV)szWiWtzKZxUa+]~Jh+h:4OQWs8)
s,ULYGs,Y!UNa>YBzI6|ew6#niaZe|nu7u~J1la|7AaKULBoR6~oR6|RU$osgSW@8xW|XQzK#ORV9aZWsQgoYM3XYladez+]nuU
aF7uV:vpU%UvJzI6|l|15bSh+Je%y97of>Ywyjf?6~h+E4OKV)YMrEYMVUXvh,8ynV6|ZxaW8xfth2&wB1l7AVURU&i$15+Z1_n
iBV&YB$V6#b2i.6|MfZYZmwY2UMaaFYOaKULU^F6~aN7AVUXvaNYk151_niJyjY<UIW'ZZc8UCc(HU3$bOppt=UEUI4/gMX]UPt
=X|gMUFULgMX'gMYEgMYF%&UHYQ%&YegMYgt=Yj%&YtxMgMY24/t=ULYvt=Y%#Wt=Y;8sUBgNX<dQgNX]gNX_U:OYRUFUBY=PCX
tNGy4W90>XIJA!ZdO7Spj#WdP7SUB4])M4/UBU.!ZpkU:5BX$7S4/$_Mpp4~)Mpj#V8szYdP4[zY#W4[BCpp4~X%4~X%pj7SzZB
CUEYVpiUR5A8sdP7S8_zZX%4~ph4|piRppxLdOt@8rzZ8_X%zZdPzapiKppxLpiI!Zt@4^UBU*ppzaBL5Bt@piO5AUAdP4~X&4[
pj4^zY#VdPUA4~pkU=pp)MdO4~7S4]t[U=L!Z8sdPdQU=Fpp8rX%4~t@BH5At@dOpg4|4/4^4^4^UA4_X$#WdOUBU)5AdP4/U>p
p$_S5BdO4~zZ#WU%5Bt@7SUApj8rUA8rt[$_GppdPt@4]xL#WX&4^BFppxLUA)MX%zZpj8sU?5A4[X%xLUA4|dO7S4[dNpjxLX%
4]#VU@ppdPzZX%#VX%zZUBU[pp4_zYU]5AzaU^5BdNdO4^4~4[UB4[BAAppzZUA)M4/UBpy!p5:B=>5:a<hhV^e%johsV`$'hsV
`joVLXA$'VLW[&]6>05VWRzABhMVWRzAZAUQUMPfsV[Ly4W90>XIJApp8r)MUA#WUAdPt@dO)M4|)M#WUB4]4]X$dOdPX$4_xL8
_8_>S>S4_xLdPt[4^7S>S7S)MzZxLxL8_)Mt@piUyYSAX$4|)M4~xL#V8_UBBAYXYPo.ksXzBAYXUHApj$_AYYYP!5BUyY;#Wpi
AYdUEWwVFl09@.:AYdUEUohM9@.:AYdUF>S4~4~>S4/BAYlUF)M#WY@UFZBonXNO*N4MAl@Qbut1Eo)CU'd8Ec5Jt1J4Ko)CVT4
Kp&ZsUot1h'FVLh,g#lVJt1VxaKJt1Eh>nHnsrgEc5JnsrgJ4Ko)CCUc4Kp&oAUPo)yGFcSCofiQfzV6oAZ&jAc#DyXXVCyYRfS
VWFric%GWRc11VXfV7Zza&Ql1WbDFF1WFVLaMi#W+Nf!m4WvivjFJOZae2UiXfi6nrKes4sSesXCOh*gwk&rdyZUTaNZyXMV7EF
W3V,W0es4s4sVxjFW0Ga0VahYXRp%e2CV+ZoOZzCV,VpHWINV,Ec:Ukns3aVOa&nH3aCr(Ng6oAQc1VxIoqNi6GbqNVnbqNVlHZ
4fSjcCFUWhJUirjVqg$W@ArdyZQV8Z!XOkkV7h'i#LkpbJWjWbXyOVqXFZ!DWREn'Jn)g61LetjFiBUUW0h,GW3i#rjV^c&RXfy
aXCfiVxXefiEV+XjHZ>iThJAgmEZ4fSofrjEZ7g#CyYVlWEEXCAc%h.yHUic%sQXed;h;Z&U~LbwhEZsZ!ofUUB4MZHUTh,g#FJ
oAo)bGh0gtg7b,m<z3ofcSg+U~QWZg@Z~V&esoffiVqfSXEgocKU2FJ3aCr(mtW0h,V^ric%jsCl)V8d;W^JZ4a0o(F4sObkV?G
FW0h0gyg7Z4f!h+bqUUb,t1JV>yaXUlXofUug$sRz3XfV!V,Eo(i)VL1VZ~jAW+fsU~nvi#Z&V#1Wl1WeXVWHiTCFJogV0yZVUX
fyXGs%XMV,iTFWRuigwZfZ_Z!DbtXUCV&lPk%Is>riVCesNi|s%XMiurdg6ZcjAogWRVvCC1VAg@n/rfyYa:ZnZ9Em4iTs%UTDh
JUkQWoiQWIB4MUQl@QbuoAp&UTsaZ'OV0fzQFWRiThEZzCbqo`1Wf!XpfiVpp=Xfg6Xrf(ErjSJOc?SU4Jw)UTGFJOqHVpZCi#n
*Is>ZzHogEofAWxU0p*VIyw1Vh+bqNVrW4N1VQf!Z'cTWIetaMi#ogbKVWyYVpqHiXV,VqnxZ!Qa0Ds?rYnGV<ewetZnVMiCjDZ
'gtyZrbyYJriOVzs?UTfufsZ!n/XfbqXzVxV<AiTFk$W+NVpZGpVhJRp%f!d*i|p&jcs?rbi#ZdbKW]ivDa&h*Z!ZEZ1VzCbqNh
Jp?esSbwZkg@mtiCGbqNVxDFkXrac%ZlCbGXfGiTV6XLgmEogAg@W.VqivZkc%RWIiWNiTFCg$DHc%yiQV8NW0XefiVxDi]ZzfS
n/UTh0U~Z_a&nIh'FVMEhcd8VpZGEoAp&ofrj1VDs?XUs?Xfi#ofUoNltg6Z'Z<d;ZljAXPyHyXh.Z!t8cfeWV]RbtrZd;f!W;Z
!c6Ec1Vmg54MW~ogWCZ:NErgEt1ErgbGW;bGrfivh+CiTAUtetZ_OV0yY1Wi]h+bKRor1VUiGw)jciAyXZ4UsVlbtQg6Z_VCOes
QV8OVlUsVpZcivMs?oEVGlPCV7VlCyaeGErfbqO1VkXogetRXfV&Wbb,XpAA1WZ~bJCFZcyZZzyHXrWPi#W,bqNVxMk$c&lPXrC
i]NFV7Vpo)yHZeVnFc%h0CNEofUkXkAg$UYg#CyYVlWEiYZ<Z!QbLiKg@V>CCC1WCyaOZcFeth0U/1VNbkNbjV7etZ'U~m4iTs%
OZfbGrbZ:hEZ'WIEnuiYWHVxMfSz3DyXc=iTs?Z1QIyGV8V?w)QFd;bUVmCi]XLCrfGiTUsVnbLiTV8c%VcivZnVME4sVqV6dCJ
WGMVmesV[d;sQXzWbm2yHCCyHVlbxXNh'IIiAjAQZ~bKioccd*CbjbKIiBZ!NV,VpZ*NiDZ!dCcTZWiCVxGbxofUos^Vlf!ZaUh
4MCW0nIVmHk$XUbLVnUsVzWIiDk$Na0DWIiKd;h,WHVxcoENyXjGiQovXEV.iWWCDbGrdyZNs%V[kJV8NiDc%h.bGraNEoA1Ws?
rad;h,U~XzXRp&rfjAXEg@VUa&Rc^esXRp&o(V.1WCbqc%ZkVCm[n'iDWEiTCCbGrYZ!V<hGz3hcENi#ZzAUoDk3rLiTbqh*U'r
iOV2IbGo(i]GyXZ~yXXFVmV#esXfyXDyYVmCyaZ&yXZ;jALs%NV6V<f!XpAUtetXni,V7iAyaOXrhJp=VxaKd;XgOEXrg#i#QFg
6Z_NErjWxm0ryV2WcVpZcV,ErYf!n)VMiYVMVnCbqOVvbtXrs?Z1Qi6Qg6XLC1WAUtWbo(GVva&Gi#XEV7iXi#rdyXrjJ$|VxaN
Z!XFk$XPbGZdg$esOyX4sVvFJlPr9NFU41Wi#QV7bkg$jFiXyZrbi6nsXEWHLbJFWxe^VvWIErfU~e1WRbhWbLf!nsn@o:Vma0V
<d;W@UoXWJmWDgyWoiXjAZ1yXUYyYV2WRJh[c(Raik?iYZ!UYi]Qs?Ns?rfU'CXFZWENFCiWbJbGZ&U~W.VpWbSs?SetRyZrZiB
iBZ!ZdcWoGZ/ZsbkiDZ!XgVphJe2f!V>V6QlPk$yiZaZ!XpWIB4MURWve4QV6bGSyGetsQmqXzWbpVgwCCyGa0Zza0Z4Ag@OVlb
xh.Wbh7s?QZ~U~Qg$yXZvEZ4yXZ`Z!h,V2a&h;Ns?d*CiWU~NbGSbwWbSs?QVL1WZ:hErbAiBENyXZeOEr(m[W:Z!XgVpdqVshJ
e2WCofe1g6c?VlUtp&Z)VMY~XZXy*NGepWYsNXPOU.uqedmdo1If^Ha?IgIigCAerWGBoAgSU)As+WASkBmdj#UhCAgXU_Xga=Z
tLelIgCU&VEY@`>UJ^8PygVU*NHaLWOBWRBk]U9BU1BU4Bf$UVaLUVZQUVUUU?Z?VRBVJBVMBhRWrBWlBWoBl7FaLV*BV,Bi`U6
aLU6ZQU6UUBU6Z?FWrBFWlBFWoBFl7z0Z1B3hFhR1PFVREU6Z?FVJBFVRBFVMBFhRFIFaLFIV*BFIV,BFIi`OaLOZQOUUBOZ?Qz
[Repup6XNeq%^Oa6elx^KG8/Sa6Keha3z;efl_Kjhf]a9a4z>qlgcY@`~p%VUW1Up*NbRv~DbJe2ZCV2IgxUpVoW9lQXCW7ZoEW
%UpEr(aOVrZEVoWCZREFUWV6V[Ep&Z)iXlyXCV0AnpUkv(V6bGU~Ip4!g(aE%pEodjqEy)odjqE3O%pB*qp#XCKU6W!KOk>z8Xf
Cp|CCr2Ip|Ir2Ulp|Ulr2Fp|Fr2Cp|Cr2Unp|Unr2HHp|HHr2U6p|U6r2FAp|FAr2Hp|Hr2WXp|WXr2Ap|U5EXkp|UWr2AAp|AU
5B*oW1Abwb+V6Le8W4bwW+FiKbwXeFVyW4FV2e8KLe8Oe8qlbwqlV6W#e8XJW4bwj9bwe8e8UXe8ZPV4(<ZVXQGV)aXWWXfVjo1
UVaXFUtaZWIsqV#76r5j$XXGh*ZHZRCZDZVOl;g@r5V_WXZOZcg@UXZ~VCW0GZ[UVagcdGWSeWIZDr5VWVNVpCCUSWuFU0Er5UT
XxUkIZHZ_OV1UlVYZVXQGDWScXRY'`%X`]KVY;rVY,6VY!NE#C!NEykZGLwrEb]Lwrpy61r5cjV1Z`WCKm[1>X(GfXKm[aSUSJj
9ZmKd(VxUUWiV1IU0VxGFZmU5VmUXW6CUSWxCVNVpCCUSJGVWCZDjLm)VpV5VuWhJW4lJW.DW0V[RW0V[RaiFUtJGVcHHZrGUXU
WZ.ZWUWUVacV)JMU6ZOUTpAJV[DY_U:ce$YtPCZrZ~VFaaWaaaUlZrUXZ`HrBcEKU6ZrXNAVjj$Zrb+ZOn:ZOo1ZOl'UaZ$ZrZa
ZrZ_ZrGViZOXkXXUVUWUSY@UPX@oGVKUnMdIJ>TOVlEd[VkV]FV3VqNENVmVrVvElQEa%EbHVubgsMLVyEKNEZ7V1VoEHbKVsbh
AcK:uOVlEd[VkV]FV3VqNENVmVrVvElQEa%EbHVubgsMLVyEKNEZ7V1VoEHbKVsbhAcK`(.|_~BzvByPB[!CjaT3,k.]RBj_]R6
r]R?(>5UnZ$T#[18HKY_YxXPAH*NNursRNedmo4Pl_##Oa4a8a8UR8/sRGjKeiema6a6l_sRrhB##rHrHUTl_moLr/ttLW(ebtt
MttGLW(ecLW(eez]sRQa7a7Repepl_##rZf^U[efl_XpKz;hXMaUz'Kz<ecsiBsRGh;MsigA)eGh*f<ega!Ka!Vcz;z?sRGhaut
UZhXaUAa/hX##aUa!aTAa/D6XUpU(l_ZJk_sPW`sPGgfVWU,V>p961*o8<l+*dxn8K$[AtDs(gA)er6l2VktDs(>4Uka0UpW7fv
0pv(Z<V0bfhE0@HVQElOUkcIEI0pWdEWZEIlOV6l2bgFUkFfvF0pbxFbOi|V2EsQesUigsSSE#TVGSEg~#Tg~e<bOe8HbwiQEV8
RiYWbWKEHg~UVUWEWiECUkIk)EFIY~7O4+jo4+0g#Y(e12t[gA)ejqpmvZUIX&vZUMY]X@ygiu@AZvh,J@Akfqugqmb.:@AXhIb
7$j7*xhY`PZ+U/rEgq:FXwA3>(<ZPajKU8Y[ZjZh$)(ec(ZsZy12X&Y@vZY7ExnIsfjqxPp2Gk;Y7py##VD$1=|Z~PKhFUnc]A@
`4`Uxr[IxOBFxPBCdTdQBH4`XexP$_QUxoyI)NQF+GXf4'U*H4`QWMQk_A)NVa4'U%F)NVWxPU%H+GV<xOf[+GGFxOU&V(GkCCp
n$_V[4'Bb:o*Zspn$_Zx+GZxUCGbDF4`Zu4'U=VIXggQxPf^xP$_W9+GKF4`W6+GW8)NXL+GXP+GXNxOa^pma^UC4PH4'gYxP09
sNZ'xOU]H4'f`xOgC+GXx4'gAxOgB4'gVxPU@IxPU@CxOU@H+GZ2OV(XOpmP$1=|UWFP$)=|sQZ~iWY@VD$1.YeAr<Z<Y?UGP$)
.YeAr<Z<VxY<UNUNPW^XJWV+iW5Z?XDV=ZbQBLU.BW[Z%RU,U)W0BW~DU;W0U*JOU,Wuf]U%wqcscsQQU%wqUSU(LBLW5SW5OU=
U<U%BXQZtZyOU<JOU%WzBO<uU=<uU<<uUa392ztZ0gD<u7vXQVVZyDU<WuBh&BXQZyVVZyXQDU<JXQVVDWzWuU<Wu<uVxaXU%JV
`SEXKXvV^VYSWuU@U@KU@JXvDW0VpU*JSWuU+JSWuU%WvagBeawqk@HUhWAAWDBk/k'1PWYFWYbFDwqU`gBc#y4k_wqbF3hWYsE
V4CFU[UWBFW0B3hV4Skly4ieW5DwqV4HHW5k@WDgXr[d'Z;IU@k@xnJFbhWbedVGd.JfvfQDwqhEfvk9%GOY_TU2d#6@J^iod^i
4.^iy(>Zod>Z3N>Z9EVWdvV?=VVWdvV?yghFEjNEU'3KWe3KyghLmbp73N&L2v0jEzMvazMEnWE;8m'Ex0)zY~6n&L2v0jEzMva
zMEnWE;8m'Ex0)zEu5Y[$[*CuOTV_lt*Nheu`7P4S/gquHWJ*_P1O2^53e%(e2eNU:2TFl62eXD3(hpXDi7hpNY?YHW'UZrEbRa
B!g(<R2M?3*E?3*Eb+jD96R2MuU*EuU*EDXwMZu*E*T*E4I*ExyH*E*T;F4I;FxyH;FR2M?3*F?3*Fb+jD97R2MuU*FuU*FDXwM
Zu*F*T*F4I*FxyH*F*T9,974I9,97xyH9,97b+V<;EE*T;EVltOrO*TE4I;EaXtOZwExyH;EE*TtbZ5WCR2MxykOW:Ek$SU5ZwE
&xZFSaKr'b1SoqXFMryGoqW:OovV!xoQfqoqaMZ*QVlXgp&SU9VWoqzGJk&y9p4Gv>Su%(<Oo|ZwaorvW:appArvm((<aKnQx#W
]Ogld@Z7JaKnQx#WEDhCoqXFMqlh.C*w>YiPewQU!n9xoWNLfqXgVlWLWOW(Al?x#V[ZWoqy=V[qpU_e,quXo!pkkV=(<5kkkV?
zGBy*Gv>Su%$TTc9UZZsQ8<JwndTiGXwuFWym^EzGVsWKY<X!bLU'c@V$iCXhZ|nxQm]BMZ$W1l;LZvBt$ZWgcZwsjQBtAWchYV
bWOKXgOBn3Cr4oq[er/tAIb+$vWLWOW(Al?aRXegKnDVZQenLXeB)5r/RHcjqpQWwWLaTiCXhZ/Oo|Z7VlrvW?VmpArvW?U?XuX
hIsA%2r'Oo|xo|']1%2eFOo|d&U!D)xb?D6Ir/.gr/$=qssLGXea@SqHhXo1obHgIewQedHMqlh.geXeOVQb+JOo|xo|'17r/W]
Ogld@Z7Jt$ZWU%XeOVQb+J]1)?#N~E]1&x%xd&Uo%2eFD)x[eeF;xeam.mfIgtJ)6icc@V[gtJzHOBzGgBRgPGeeHZNLa!OVQGh
aV<Gr'Vb)6aexFXX)6JWezHXXzHXQWe)6icc@V<eFVb)6VlcXRWIabZ)OsA6ZaCWs)6JWeXFMqlh.VCBn9QV9WrOsDV<GsA[er/
hxms%2r'Oo|Zw&x%7Ukn9F<<E<<E~E#N<<E#N~E17sANV7xo%xxo%xZw%7Uk%xZw<<E%xd&Uo;xUk%xZw<<J;xUkzSd&A?%r'zS
H<<?%r'zSxozSH<<*w.gr'zSH%7U!<<a^qpQEw!Z7E#NZ*Z/#Nw!Z7E#N+IZ7Bhxmsy2Ht*xoy2H<<Ey2HhxLd&UhWBHoq|'c@V
$WSAsA)?]1D)x[er/hxmsc@V$WSAeF<<UazSd&A?%8|H<<?%8|Zs8|H<<*y.g8|H%7U#<<Uay2QeeFq$n_HdtXgBW^nFZuOQenV
$Y[W'ZNUZfwl34d.5y@iFDbNE((Ev?J7!WQ6hErsbNJ7!WQ6hVqe&IhqVlaEn~IQWbnxQm]IQcKXFQpWWa6hVqXwXLhqVkn2WF7
!k$VPWF7!k$jeWXVq0?jC&ED6hEbdVNn|V_lVEkbR?Tt&?Ty[iPUtIckVze&Z/Wa?TQhK?ZQ0?jD<CDU7lgjCnvWlKk$VZU5pNJ
fNW]Z[Ukv?We<CrsbNWe<CfNnQ?ZfN1,Vqmpn|SVNn|XGUj?ZV]rFn|fsyzKv_VWv_yRn/#!cHXMjDVZU5XyV6WVdAWa?Z1,VnV
CHWbMZ`Eb]UkjbCo,Qw]AjCAn2WFVPWFrMzt<Clid6Ho,yy?TXeGf#Jyyk$XEmpyry]yrQk%VNn|qoSVN?ZXuNv_(!?ZnxQm]tU
<CIqlMlyZsZsbjV<Dn|Qk%VNn/e^WCyyk&e^WChwXqWan~e3dGV_Wan~UkWa2VkbR2Vv?l>kKV<hqVq$KNg4VZWJ$KQw]WJ$KXE
mpb;l>9y7@U3:`U3HV2y@E&EVbrM&EWebdnMoWrMeLSXylQw]WVn!Xyk$VAU2dGiPUtIm[ocdGJWak$rsbNl>HbkUj4Ry]G2VWI
Uqk$f4XfZwn|W?Rv_nxQm]tUrM(!4RCjZk&(!n|QUYLv_f4XfZwQUYLv_yy2VVEhxNyryR4RDaEn|qoSVN4RCXEo$n|VWWa4RZ[
dGWvmpn|yyHy]yry]V[W?Rv_yyHW?Rv_yyH(!n|y]V[(!n|yyHyRn|y]V[yRn|t&H%XfgH%XCjZk&fgH%XWVdAWa4R1,V]DoWU|
WWVPWC1,JUsW:i]j+WvUnJfNj+VqUmf#Dn|VLW_d8k$UYZcZyowaVZwVlGU5pNVqmpn/U3HiGn[J<CQw]Uo#!cHe^WWrMfNnQ4R
An[iGn[VmpYm[vyn[VqHzVVnCWhn/VLWB!'WDabZ`!'cHb]WQ!'cHjbfk!'cHliVWWB!'WDEt&WQ2.U3WWnvglWic$k&fbhuU#W
]Z[AiGt&cHnvglWic$k&fbhuUoowUcU3HUbW]Z[e1Xzt&k$fgk$lineX0k$neX0k$UvWKItiWefgWsfgHjZWsfgIswb]AswDWst
&Wst&HjZWsn9Wet&lPfasVUoc8*<e^Wec8*<MVQjZH&ee^WeMVQjZH&eb]*<b]5#UavzV[1HDaqVFC*<m8C*<n>RWd1HVYWaUuW
XJjWkRWlmhGkI&EWejWkRWlmhGkIZarKWBlJvy5#UaoY5#st5#VpfasVUorsUY&ec8V[rsUY&en>RWdVbvzV[1HVYRWLV_ock&Z
yUsLcBeYXJcBEVLUwZ[VbXeWeztZ*V6lid8k$lid6WLk$zt#!k&MVQjZWDJWlmWstAb;tUXCawfsajAH&eneb;tUW|aXQLlrJne
b;k&W|stAb;tUQVTaOawWeowUcU3WWXLW+Qk&qvn/W|5#UcoY5#VvKGkwVeLlrtjn/rrWaEztVeLlrtjn/bdU2WsZuZsZwEqvUo
aTRWBaem]cHDXCGmeztIW3ZcDlJvz16cHVLfdWQWdVbf4q#AV2ZcDlJb]16k$W|gmVbb]16cHvz16cHAn[JMZ`J9|oY%8jbCo.9
|W|%8VPJ9|b]%8WJjkncXejCUYZcDlJAn[JMZ`J9|oY%8jbCo.9|W|%8VPJ9|b]%8WJjkncXejCRVLtUW|gmDamZcVaVYneVZkb
JAn[JocSWtoMW;6hUaj+CkIh4fulJj+CWBeY1Gb]1Gvyh!V:UwVWWBeY1Gb]1Gvyh!FiGzLn/XqiGURV[XqWBJHioG2yffjwWFc
yZ*FszW|aeVSaOajlQ0?7@XMD:`XMD9y7@XeG:`owVqmpn/owEt&WQ2.owp#4d608P!a3%!az0!a$;z0!a3z!a1P!ay$pGUm$X4
.pGUm$XpGe%38x~l#XsWAnHqQkBVFZwU:HnFpGAjf5%4`ZcSn~Uk5M5V.:ZPCyLBqJqU7dBk!.^Bj@.^B1[.^Bq9.^Bq+.^Bba.
^BbaX(G4?ZiU/xVBq9X(G4?ZiU/xVU+wVUaWEGf#JUqb!5DUQwVU;wVUaWEGf#JUqb!5DMpLwVpmp4#JJ([w_3$2$NEq:Bq:J1d
U=UmFo[1df>SXH1dB6D6_h*SXKq:Bqhc&Jj2U:iuj2BWEGf#JUqjC5DZ#wCgmn/UqjC5Dt46?UWmYC6?2[w_6D6?!66?%V6?&5v
N6?%U5!w_+#$I!66?UX#ABn^#AB#gUX#AB!,#A$z*v8.#AJV!<+y9<+4*<+nd<+i74*$zUc#ZoX#A$z*v8.UCt:#AJnd$0#Z<:#
AU?HWg#ABrQmNwTU=i1#AU:wo#A$z*v5UU@mYCtmB2[rQB)vB;iB%VtmB&5vNtmB%U5!rQB+#$I;i)#htVlc7ZWXnhbJhtEb?XO
W:4`z1g>b?XOW:4`!gUlRzA!znWEq<xP05ZCfQhMZCUt05jsBhMjs05DLi+hMDW.S05w%U_hMw%C)#72VlyfWCyjV[VlyfWah!E
n`qOWCn`qOWMDyfWC72X(yfHiDi<UwXEXqWXjk1d)#W_WcEpYVvm^VlOa`EdqM6)jrbt%ejrbsdIq8aKZzkBFqHb/U)cIHa^aUW
A51U_zqW_a@zqMkFc`CtmwOajHwOU&XvtQB$WtQBtQwOEi5$O!~4't[f^V!Ghqc)U=Cdqhqc)B0[hqc)BwuCwO)#3(qEEi7qEEl
`c&WlVlZsXHXGaUIqOkDVBe]4SEi7(;2[XEW@L.:RLlIfyWF1d)%z1rIDa?ONEe^BXLZ[n_m?Uh5XBhm5X$zE#ZzEE#ZhmzE$zE
#ZZdVU$zE#Zm?Uo(%jDpAV?*[jDw_5X6?hm5X6?zE6?hmzE6?Gg[il(%Gi$ZSXQc8wjU'(%GU$*[GU$(%jDW|c(tNX+E*[Gi$ZS
XQc8wjU'(%GU$*[V<UdW|c(tN4`d2l7c/RkrfxUQwVVvwVB65UPU?Wjo6XFW@Gikd0r8U%dvcqikd0c!ikjnZSLikn!pIV5VvLV
PikDdvcqilq,UXikjnZSLilpAFc6ikn2l$Ni'WaU*WZd>WxwVE0[4J69rQiLZVV<1)4SV0mYCtmtKtmE)vJhtJndUci6;iJhtJn
dUci6q:$XDkrU*HdGY?Yx%#xw+*604')MX&:MYlpkTlxb@zAUq+*60pm:MUIUB:MY7:MUFUFdQ:MUFY7UB:MYFpk:MYLUB:MYS:
MYVpk:MUIYC:MYf:MYhza*U%#4db]hlEvyhlEc1V<hl.=4dW,WhXLY/ZIOf)$tsgB`N_~BzvByPB[!CjapxoY%9yCW|%92/nEyB
KFy'yBa`V_nE2/EKV#ftyCvy%9#cBq4*Ia|Sg=p+pVXvXfCn.wPgJb>pVj'UjuEB8CU.zT29a@ZcZTcQrLtenfjnjza]ryXnreU
]kPKZdLrLa<%<Bc1U/Ss(gAfqgJb6V=9=p<gVWc22q7cl22Urd>qUpDCAvKVaDb7qUa'CU<WVgJb)jzBVLW]U5kQBW^jsDgIfzU
_nTh#rLBt/pAWGtNBcwt!Bm8IWQu<CrLU*lxKcOXmj.22hxZ1j!c3cLBq4rLgADlereBcfteXOnOgADc5VWU+Hl6jkXMg5CZ3cB
jZVVVZHrtc/UmrLBVL3YzAU)Um1rgCGFe>UR3nrrGrLteZ:Dj5gJVZa*Z|4Yo'C1rcLBi~Z|W|c(lKzABzm4ef/fcVBrLU+e&C4
?lwXLVX22U1ZSXNwjBVCp_lKzABnYGgVb_BbZt!a<rKB8Yi<MffCrXa]OO22VPW4V51#rya*geGkjXnB2?rLB)Yu<i<ZaWfi<Uv
c~Z$jzBqhn[a*U_2UryXna]q@i3U|x|FpdgOhul2Y<XbcB1(XyW~i~J~~gfVLVb~~VD;DG0P(<^dq+PG0P(<k+q+Y~UMP*/,Y'>
`UT.M'>#(,0pz:U/FTt/.M`mT:La)VuVop5Rp5q'p5UT%YY@*)ia#(x>VopzURpz>|pzNVy|zTt/:L`mX9XuQb.J)Xa$Y@#|p55
.iI%YY@*)V2Y@`UT~ca$Y@#|pz8GVppzHY]*)V2Y@`UTt/ZiUub.J)X`mT@_'>`UB,Y`mB.M`mBt/.M?KK7sQ8#H^=89?KK7sQ8
#H^=ToYs[U')X'>`UT2n639^WsUSY[T,Y`uE,n~3a6Adt#(`u69Dlp~3Uh;Se>6v:X,nB4k:Xn=:XdJ:X>~.M`uE,n~3a6Adt#(
`u69Dlp~3Uh;Se>6v:X,nB4k:Xn=:XdJ:X>~t/.M~=C_0F|$,n^KD8LVxAdt7,~=C_0F|$z0Dlp^KD8LE;Se@6v:Y,nE4k:Yn=:
YdJ:Y>~).,Y~=C_0F|$,n^KD8LVxAdt7,~=C_0F|$z0Dlp^KD8LE;Se@6v:Y,nE4k:Yn=:YdJ:YXG:Y.M0QUbp@atfUUb31Ub6v
UbaMb!Cb!v7UblbUb4kUb3UasV;ZvayWt2LarWtdJUb,naolpapAV;6;arKWtqparDWt2KajAdt890QUbp@atfUUb31Ub6vUbaM
b!Cb!v7UblbUb4kUb3UasV;ZvayWt2LarWtdJUbz0DlpaolpapAV;6;arKWtqparDWt2KUa;Se|6v8NUa,nsxns60svI8NagmX6
0su:a,Y3+UDp4`fT^m`fT).`fBt/'LVHoYs[U'`fXYcPZ=I1(K0mq$V^21:321]b21]c21]d21:121]e(B:3(B]e$B#'(BB27^r
EqcXEME3PaaWT:327mjC]e(I:3(I]e=)zcUa^rVj3PEi7<?E3P.)i6$%%:Ub(B*0zcavV!XEXB3Pai46]fuOVB]e$%zc6~21B(B
6~w*E$%v6]f_O=)9Y<UahhLv6!|Ua<UaZl2g?c7fK<WEi7<?J<WUd%:E3P.)i7<WE$%i7Dc7fK<VUa$BqcXEXB#fXBmbCXB3PB$
B=C(I!|B=)%:J<WUd%:UdzcB<@mbg>(G=(mbg>$%i6$%%:J3PJ<Wai46J<W*xJ<VavV!n7<VB<@qcn7(G=(qcn7$%i5<@#i27V!
Uc3PB=(0rMtd.)V!Ubl0$%FXK#i$%i6<@%:J3PUb0rMtdUb0rW[<@0rW~kS27V!UduOCXB(G=(mbg><?:0J,IahhFUa3P*xaon[
G]aJ,I*L]e,I*LwS]d,I*L:0J|=BmQJ|=B|=tkwSBmQJ|=tkwSB|=wSBmQJ|=wSB|=J<V]b|=Ubki]d|=Jki]c|=:0J|=J3PUc<
WUcrOv6:0B=C3[d4l2VVmQB]9mQJ]9<UE!kU%n[V^@CE#cUa<WUczcE3j]aB]9>)<V:xJ5iFC:x]bki:vi52H]9]92H>)>)2H<V
B<V:2buki:2FC8q#f:we>]9>)<V]dkiE<V:yCu)B2H]9]92H>)>)<WJGkTl621E=C$%pd8q0r]e^e]fpd]d^e:1^e]d_f^ewSUb
%:]d^e*L]e(mndagINn?!|avV&Z&XAHj.D*IMEi5$B#'=':3=']c=':1=']e(m^rEzcVmkTgnv6Ev6]d(m_O(m(H]d(m(H:1(m=
(=(kPUc_O>A:3>A]d>A:1>A]e=)3j]f3j]d=)3jBpd:1=)_f=)#l3j]f#l_f4?nd]d4?3(=(mb6>:14?3(<@27uO]e4?i6^rE3j
:3)L]c)L:1)L]e4?w**xUa^rVY21Ev6:xJ4?_O.P:3.P:2bu.PJWQ:xJ.PtdUbWnUbvt]b.P]d.P:1.PtdUa_f$%nd]dw*]e$%V
!:3$%V!]e$%^rEi7<W:x.)_O<@3jE3jE)L:3<[:2bu<[JWQ]b<[]d<[:1<[tdUbIZ83j:3<[wS]aJ<[*LUcDle:xJ<[*LtdUcWn
Ub%:]d273P]e@C]d@C]e@CJ$B(6Uc%:UczcUb(BUbZFj%zcUb27mjVS!kJ21!|UczcUambUa5ibv.t2z]aJ=(.t2z]e=(.tvtUa
#f]b(HUaki]d=(kiuiU~v6aXoF:1=(kPUaly_Ov6EmQEtC(6*xahhFE!kE=C(IUa$%4@)LE#'j@(O6&j@(OE#'1_z1Vj,I6&57^
rD:zV=mQTGkT/CTc~DN/CX5b]Xf/CTxY/CTSV)/CTbV5x60VV$|X55/U'3Y$hu)$i3Z#J#(#Jf;Z#hKUqX9m/J3Y$hu)$i3Z#J#
(#Jf;Z#hKUqX55/CWym/J:El2*bUCmjU'9f3YaXoFVlhOhKe>3(DhOhKe>9f]Q3YaooFBtCjktC7)D[Fz1l:b6G_,z1l:b6G*b:
4$h!|/?[UB3$!|/X[huOB%e9Y!M/X[hdqM/.#e|,E4!B5p/.dr/.7m/.n4D|,Tb>rx:5@X'<B_k'<f>t!BfdJtDUq$hUa3$Uay1
*bUC!AAd/|,E3YhoV[ubD|,E3Yho=CAd//?VmHubD/?*b[K$h!|/?[UB3$!|/X[huOB%e9Y!M/XJ!M[hdqW[#e/.5pBdr/.7m/.
n4D|,Tb>rx[L_k'<B@X'<f>t![F5j6D/?tKUC#f/?E1|6D*I<of_N/.m;|,7,3$6m5j3$<ox+Uay1<ox+B5jj:!|B5kuO,rT@X$
i3$B:EC[Fh*t!B5j=]04=]s.J=]6m=]T@X8P=]6t=]B]Q=][F5j=?04=?s.J=?6m=?T@X8P=?6t=?B]Q=?[Fx1!ANe&<ox+_,5j
=@<n04=@$j>D(u63y1x+Jy1s.J=@wP<i3Y<i63>D3$6m=@<nT_k8P=@6t=@B]Q=@_,5j=[<n04=[$j>D(u%e63y1Uc3Zy1s.J=[
wP<i3Y<i63>D3$6m=[<nT_k8P=[6t=[B]Q=[_,qdZ&|,E3YVZEqhdsVB04DoFs.wP6mDrJVloFE3YT_k$i3$B:El2_,h*t#(9[F
fd*IwP$h7p$h893$7pJ~_fd*IJ3MwbwP<j4Z<j3Y<j633$Uc4b3$Uc3Z3$[FUWxB#gxk<i~_UWxB#g3Mwb<j3$[Fz1*ID$hUa~_
z1*IVb3Mwb<j3$TMaGUtls#6wPE3YU;UjjTclBb)vKLU7g=h4V9b7CWDD|CBC6LkYg/j2Bc~W^UqTmNgCOB!M:4!|iCLV=!M[K!
|B!M:42*B!M[K2*B!M*IT5xwyIk&4Dl?hd!kJjuj5Ubi7ksndUejuj5t;5YVb9Yi6ZuvjEndTMXwUtaBhT5YD9.JndEnd9.EV!9
.VxCvkV!X9kqmN9.gJb6GU@%%t;VbkiU%5/g=zlt;WwcnQ$hE#Jt;Vb2[kiU@lfkiB2[zlU@le5|!Mt;JeCQt;mvgni5ndU;W.j
ipd;0:4!|//;0[K!|//;0:42*M;0[K2*M;0:5uKm`TqmVEVbNFZjg=ZuvjU%i@VBTb)hdqmVEVbmiEw*EclTa`VfZwVW9.gJb6G
U@zWm3U@llm3Te=Wwcl29U%i@l6lwUPy(634!VVDi@$j4!Vf5VJWnl/gdUXl/VH4eJzl9.E!kEdxb6jTobC*,EkiBq?UT*,EkiB
2H;8!k*,EWSe|UW%%amAZ>E!Tak%%amU6Ztt9E!k*,Bb)VWE!kVli@VBTm^Vb8@10Tm^Jy*2dvmB#/2dtsT4eJ#eDU@zWm3$hE3
$TjrbuDj429WyUwBm/l6m^VVj1=Cm^VYGkTl62zy7j!2zy7j%pDU7g=oZVbUva(hrqmVEB#dDj429E2zJ4eTV>g%!MBk&jrbv!M
Em^Vj!MgFjVm^D[FZkUW_,ZkUWX!VJQTmCTVPZVV>zAX5mWL35mgDc6U~4DDX#0Hg(mWL35mgoZT)lg(mWL35mgoZX5mWL35ju&
0l]WaGTjnDH:59Yhxb_B5kdqMTjnDH[LGd`j5T#/ZFMaBju&0JmgrAGVfm_ZHqhdss(B3d4'UBTz1T3f:5s[VH3f[Ls[VH3fJK!
5BeBj!W]Nj!mNl>ZXBjnDWAm_UPVbngWcD?(:sT<:dnTq*8<dTdQp14!8<dT#WY]Ym^3ZcZ16`$uGpa)^7*R^!!=R:u$=Q^![D:
uLhV/z!=*u5L)^0@!=S];tZ^FVm<ttZ^F*d<~uM_8:ugo<4p+um5g)[G<5*d$W#R<5BhxGxbUQ<5#()X!=Q:u*Q5(VohV6`@![D
tZ<;hH@!!=S@!S$u5(tZ<;Ggo6`@!hV@!MhV'FI[,^FEH/zGgo'FUQ/zD<5Y=UG*UR3Wb<@`aNVtV$^<H5ZDb,6bbQV3VCLq[Is
l9&I6cMq_r94lLq`q^4iyJWbWQipQcGE!U:7E&jFp5VcjKvOxCh;sGF&hIpz?tY@@pE7cE.NvdY>YxrjUuhHJNFfqbuKc&R*NXL
aYDa:b9b9cZZsala:XeaiU!cgVUana:ZPajb+aeU!Ma:eFUTSU!Z$ajGUXU!GUXAeWs1Z9ama:Z9acAaleFUTcyMLa:Ncgl~adc
gn>szSSf.Uax:Fz.hWCakY]vZUPvZOvZUSvZUVvZDvZRvZME61523~WQapmjUb3fUbU3Whe~wEV>qJV>alUWJUXUWVl;)(gp5'L
CY^E9@JriZm#iZPY?YdPV[jk(eNa28/Qz]n_rHRupqlB6XZkf^B4tWY)VWYIV4)VIV4ii)VgdWA)VbMWAer)Ver)8)BY?UGXda*
mX(eazurUQuqRusn:x^rGz=a4uph*U<utr&Z$f|BWAUlf`BOz[l_gjrZBV4W=Kz;ebo*k)BA0o0o22k9hDAftriBFhDaAK7OGi5
GV!ZxU*Hk|Hlz`>UKX!c_wHY]CX@0*N^+KKr/KKsKKKsPKKsCKKsHKKsEKKx8c^fXKKr&KKd'KKr>Kmlpyc^fXOeAOZ;bQVyeAU
Ur?UUr<UPeAUPr?XklQr?XkgxeARr?Rr<UReAURr?NeANZ;bQPc$nNQIosFI>^OppWvlTUEYBoqOX;YPQiqUKYkQyHX>YkQg1Y#
WvtSYiWvkMdkQFe5UEYbeAOX;Ykr(OX;YwUWirYIW2Cg2X/W2g2X_W2tSYfW2kMY;W2FlPX_YPZ;lTYzW2r9XSYjW2Z$bnYYW2r
uXSX<Jc(bmX=cSuQX>cTuQYuJc$bmY;cUuRYpcTAuRY*cTCuQX[WwlTdUp&XSX]WwirYlWwyHX>Y5UP0(YPZFkMYXWwkLX^JlTX
_Je5X|JirUKYPC0(UEJg2UKYktTYhJkMYWJyKdcIuRYUJlyOX'YkAuRY%JCuQX'WulTYDWue5YEWuirY0l#g2X~l#bnYVWutSdk
DkMUNYwVae5YHJLlTYIJLe5YJJLiqUMYbm2bmdjLg1YpJLtTYoJLkMX[6'Lg1X~JMlTdVMe5X/JMiqY*JW]g2Y&JMtTY(JMkLUG
YBGlTYFJGe5YGJGiqdmV>g1YqJG0(YbGtSUKY,GkLYKWzlTYLWze5YRWzirYsWzCg2X^Wzg2YyWztSUKYPZobnULYk3hZobmdcs
QXSYSW3e5ddsMXTX>W3Cg1Y&W3g2YdW3tTYEW3kLYTWylTYUWye5YVWyiqY%WyyHX<YkZcbnddq6bmUMUMWykMUNY5Zde2X[X?Z
auQYWW0IuQYXW0AuQYYW0FuRdVZuuRUKY,ZwuRY#JKlTYdJl|OX/YwKiqYcJKyHX>YwKg1dhKtTYcJmVOX=YPW6yKYKJW8HiqYo
JW9uRYRJcYbmdlKFuQYnJKhJX'YPW8uQYgJKFAuQY.l[lTUIYPrbe5UMYBrbirX|l[Cg2Ygl[g2Yrl[tTYDl[kMYul[a0XTYJl[
Fe5UMYw(k0(Yw(ktTUMYP(kkMYqJRIbndUXmbnY4JRirY.JXng2Y2JRFyKY3JRFfvOX/YbZ1CuQYsl@HuRY$l@FAuQY4JNlTUNY
,Ne5YlJNiqY(JXEg1YmJN0(YBNtSY2JNkMYfJXUlTY0JofbnUGYBogbmYhJXUyHX/UMJXUyHX<YBXUg2ULYBXUtTY!JXUkMdlog
irYz6'XU0(Yk3hXUtTdh3hXUkMYSWvNlTUNYBc?bmY!WvNiqYeWvXE0(UMWvNg2X]WvNtTYtWvNkMYGJo)bmYrJXrAbnYiJXriq
UNYPXrC0(Y5Xrg1Y9JXrtSY8JXrkMY9Jo,XTYFJrYbnYLW0nGXTYHW0MirdmZzCg2X'W0Mg1Y3W0MtSY1W0MkMYnW0q[OX'YBZ4
irYjJrfg2YTJZ4tTUMYBr9XTY)W1AbnYmW1irdjZ&g1Y)W1g2YeW1tSY$W1kMY1JrjuQYtJriuRY8W0Z'uQUNUMW0eGbmYyJZ7W
Qp4`T)#.|jaVjb)Vj;rVj&2Vj,6Vj#C&2Vj!NY@APUrmtJ>Te[URiFe[Vns%XPlhp&bZrjWqmJNbHmJo,bJUklScrV23CiREc:V
2e4Zplhqtl|Z9Ad5Ukxrbw2;E4pZCicLVqXFh'A:ue[URiFe[Vns%XPlhp&bZrjWqmJNbHmJo,bJUklScrV23CiREc:V2e4Zplh
qtl|Z9Ad5Ukxrbw2;E4pZCicLVqXFh'AX4Llv(gTz8(gT?1T2<T*o8<Tt%e**o8<TuSTxn8K7BY^`&p99&<OB,MY[X]PwCWuWqU
4J.|`RE`v`/^cE`C_W@v)@~F[gW+o3W+QcYa=Xh.:.|otWLEotWLfvc7d#g>__U_(,nQ*$98ugE=6@W.|:F2b,6B:FW+Xh7BY]W
'Hjjy'DWqU4J.|`RE`v`/^cE`C_W@v)@~F+PBn`Se)B:F.|j~&#[$VSGbS@gspJ;rUa+0Ua,6*$2ZspV_Y`UHP0e*/e'gEW5q~x
~pyz9sdf^W5jEgZK9NBoKgQk9his*Bq3f=Bd:gAK03U&g*mRo5Bj)x/gcKu:B9^p^5>q3Ez4B9&5OpzmKp5l~pzsFEc:VnfS?aE
5zEz41TGg)G3GpzW@Mpzt)Y|BjNg>q~Y^El~pzsFpzmtpz)oY@h`Ez4iAVLp5o5pzW@Mpzt)pz9^rSp2z4BhxGxb5OpzmKp5l~E
jEiXW7c:pz?aE5zEz41TGg)G3GpzW@MicW7t)E9^ZCKp2q3pym;g>e'E5OiFLEmSd~iclyl~EjEiXKpzmtE?aE5zEd:iLK1TGg)
G3GEj)iFMicW7t)Y_B^m5OiFLpzd~iclyl~EjEiXKpzmtE?aE5zEd:iLK1TGg)G3GEj)iFMicW7t)Y[UJB8BJ+^++vwg,++W@Ld
nZhXLKUSk>j0JyAz#B6xz#Bx3z#B5=z#BpF%wzR%w7j%wk.[vj_[v1_[v57[v5+[vh%[v!$[v6w[v5^[vk.&:j_&:1_&:57&:5+
&:h%&:!$&:6w&:5^&:k.[wj_[w1_[w57[w5+[wh%[w!$[w6w[w5^[wn@OBWLqpMU.fVHgIX2DfwW6XNOU%tyRBbUoIBUlGV#Zte
CjZU<WJg|p<Y^c+c(WFj0J=>p<B^fUE_;UF_;UG_;UH_;UI_;UJ_;UK[pJp<B)zdS~IUF~IUG~IUH~IUI~IUJ~IUKdSxMpxn>ue
5dp<BAqV&.j_&.1_&.57&.5+&.h%&.!$&.6w&.5^&.yk&.xm&.Q5@&.5`&.t#2PDp4AqV;Aj_;A1_;A57;A5+;Ah%;A!$;A6w;A
5^;Ayk;Axm;AQ5@;A5`;At#;ApFZoXfSpyAqV[xj_[x1_[x57[x5+[xh%[x!$[x6w[x5^[xyk[xxm[xQ5@[x5`[xt#[x#aZoXfS
pyAqV&;j_&;1_&;57&;5+&;h%&;!$&;6w&;5^&;yk&;xm&;Q5@&;5`&;t#&;7jZoQg|q6LU&pLNxP)Mp#(5*_BuHTk!$sj@$s1[
$sq9$sq+$sba$ss^$s!5$s5^uHPnmp(J#i).(5X!C:q).(5*Xsg$vmvT?J#43&$Y#n2eWgJ)PP^A'@P|5g>@JD*X2n@JUQauX8M
X#UZPqgUYy9:Z!:'@TW$TXVX5MX5VfNNUVX#UQ?F@J?KK7sQ8#H^=P4yOUQ$aOM$aOS<hZYX8$u2eWgJ)PX6Fy'5%[n@J?KK7sQ
8#H^=Xb46l>8j!:@JN[nWlU)upU0U@UQ8gMUSP!:UQLTqfLxKTWgX!VOX!RTWJX5WBTi7#n]8UVVf1_MTvNWuzpTj_QT57QT6wQ
T5+4Ek!T!$4Ek!T$Ij_4Ej@TyOaBNT+#$GJN^9MX6UQX6MSX6WkpATm)Dm3VfDW$TFKMTr4olVeJ6U8NY[UNPXwRIv>$T8N*N'K
8g$1W8XeP!:$)XgQkBAY=X8USQJi^xf;CY0UIZD;CYvYs|DUHZYT$)W]X8USQJi^xf;CYaY+|DY:A>mY*CUH|DUNYL|GAUI|EY0
UE|FX]UF|EYuUN|DYGM|DURY+|DX/M|EYvUE|DYEM|FMUIUG|FYmUR>mY+AUN|DUMURUE|DUIYY|EURX_|EYLUJ|EYUUJ|GX;|G
X>>mY.UIA|DW]UK|GUGM|DUHURUH|EYRUL>mUMMY8|EYHUH|FUNY(|FUzA|DYcUM|ECY&|EY8UN|EY8UM|FYoUH|DYJUG|DYvUK
>mY:UIMY^P|5g>UQUSQJi^xf;CY3UGUQ>:YaX>>:YaY+>:YvY*>:Y8UPUN>:Y0Yo>:Y#MUL>:YnW/>:UKYqULY~*X9!JUrd>jIU
_U1ZRNGZAP#T.6ZdVnFiBvih,fzr~ZPIY/ZIq0Lk:ZeXqaDzm%ZP5@#nhsDokpWC6~Oy3DokpWCXbcLDqQU'e%W^Veokhj2d$~V
do@qEP80e%rUV|ual^VDr3dvHPobQaBd/Pa`j%RW:ZCJCFpPVIAq=ZPBfRXzZPVVUjIUxUlhwW;APRLWN)+oIWgcIDzFJ|9UXl6
%=J?d5&6DJ|9UXl6RIZMkR?dq4J|95|RIZMkR?dmp7~J|95|%=J?d%=JoXzF^>5&6D^>mp7~^>q4^>DF*s5yRcll2!_VcHHj5!_
j.Okk1q#aMpPm48iDi[#n63dzb2ZCKl1l<b3#no@PdzFM$uo@Bs]B(oU&kvUrHXcWKPz#Wwcl9)KkXW_RPb6HPqApXHPxaZvV|V
WVBm`PCryzRywPnTW^kRywP3[ywXbU1GinKkXXENn3PGFm^opdKWwm)DWIPpNVDW9ZGDqbokxjXam)DWIPa`tfXLWrCgCqXmMZI
57m9l<ryoln?Jm9XcfEZym9Pm9WyW.ji4?l0z#PoRXyWIPV[n~HPUlp?RWnVDc~n2XZVAk(uaXMckPygs;VDW,c&PdpfsPc6Cu3
PpFu3PzRu3PXEfen5KopSpVVdhwUWp?X2Pl'qARhBcmCtfXGaUAXZCe%k&UPk:XFV9b^Jm8PSluUQo~VGT5IqfozXzqXqdX2tZX
zqXhpUtl6qELoiAo(V@IP5WZihNJq=gpXyUj1yZ;g7NkVjmW@raPHW]Z0DimIPq=g?KXzONPq(JqR)+ViWjW<nMcPXYk5luznOP
h*r0IqXluznOc+i)ZvV|qfQWZPqoZUmrC2(dvMaDW:Lm^WHXbFhsW'Kk!aBNkZ1O5czcWFqGXF1*50qft!P54tZQrVPV>Aqc$xm
Fm7VUXfWwWEb=tZqcXdl3#PXbk2jNJ#PPb[NtXMzWPp=ScTRXbcnt#p=ScTRDonqMZFV@m754tZQrV$un>jYZFV@L)+XF7FqiQP
XFNuIP4=Z=Usn7N43V|ZGSV_W@aB5cZkZXUCWMce1rXbKpWGOevywPq1g/ZWpWGXLvSC6UvSC6UWunvQLg')OP(8Nv+ooZcGjt5
Ib7fnjDywXb46Jq<VdNl3W]qi!0%DnbbbUwXHhxfRSPz#JqpXMomk&Z+VOl6ZRXwc&aDDqoWGWuUmqsPc~W^!zqQP(X#nj12Uy9
XaWDrl1*xjVdobWcfm4WSg^354=4d8]$uZkZXVdVZFW|WFXPuNKk:wnWuW;36dxb[W<XjWNVdZCfRW~Ah?3>(|Vfwv3>(|VdZfL
OWyo;gpUr8dJj4U/bbUwWDheJmZhgZcSpWJudPpOLg/ZUs&Pq(l6n9CtZq(XZIuNKk:XOZ+U'ZPoIAXbWnVCAPmNXIk:faIhrnt
u_joKe(uKilb)V|j4g9dyNn3JxVPn353l6faVdr!WFRfRPwyJmfXYm*cS5uZGW=IfcVdRfRJW|VDqEm`Xcy*n>ueqSMVd(|P#JJ
(|VdDU7WHKk:Rb0fe4d8]Pb@ONg9Z+kbZ04dVhkqPdE5|1L*BDewPGbRlJc`rlG!^VeItZDc>ZFkZp%XfGp.tZW8WHoprlpFq<P
s]xVg'dErKPbVURhBn!GVb4Wb[XIaDmZhdc`23fRXzzeq!5IXxRqMq!5Ih[oIXd6wLWm1qRHW>g'c`l6XOjnq0W,TqSXbSltg7p
(!^r3LVQ5IZfVAW~Kk2VQWuj4!^luKk2VQWuj4tZNi@PGfpJGbRlJXCnq!^s]JqQn7Oy3XbfTZ1XaCfq$u%ZP$~l:9ZP?XbbcLD
qQVDnQCcmV^?XXbmpDtX$~PnMVGGTWaLf7Zs1!nvQXYV<W|V#P?X*co8W]Z0Hq@U'$~P%D4BHq@VDCFpPCfx4BHq@VDW8DNlZPd
pQPe!n~g>V>nCcS5uW8jWPW:rwW8jWood@WZreWujnVDDqoWGP8YzAWujnVDzraDWrUuAsAce1rP%DZPVZm7CFpPCfxZPDb=8iN
bRfw$&NbRfwXdAuX7jq<T#aq<PpNu_#apNu_W+p>onMc(b;Jc`rlGtZh,Gb=ZUqyqEtZ#3UtNmZAPVCcG8<WyWcUZXCyzQJkAX+
X,!;YQX&PSe(oVhgWUPuaWwFZjUqHPqjPv4PW,WHfcPSU0qHXbe(y<k(d2ZUW|m7UWl/VDDrIXYrJPmZhgo;PRHe(h+CNPzCXyW
B1qqpZXVLc+RPXGRXaHfeg+w#PWOjlintDfCmTXaV%PfwPKk!UYp=PW+MaBp=b=Pq(Pb[NtXq(Xaclq(PyqPW4b_l65sZBqM5sx
kUCzsZBqM5sZGSW'c1RFWnPXgUqAPXFHMm7MXyoGfmZPXMLonZTSy4ZPXMLc+Ln=Z0oVhd5yqj7Dv47DSU0qH7D,By<k&5yDXFF
1(UWl/VDmZhd5yc&c;7DW_R7DXGR7DZiWK7Dl'hu7DZ<W>7DZCUw7DNf57DXGRl?hgNU6JtyGbbW9NOV+QPhUPhTPa`PZwhg4eP
jrFC8ii7^pT3(^p7N^p7R^pPq$jf+,Z:uX+,WJJ+,v6VbV!$and$Zdy7F2]$Z2H2]$ZuDUTw:VbKe(hT;yZuZXjyV~1LV|ZlfuP
MpAVdQIoYXaIQlzw:Dl<j+Pc3hgmFp*PNkTXZful*VDe&m4Wll*VD3OmQg?W8Cw:h&f5LX7HWEVdq!tyGVdZEhrl01Bu_ZEVZDt
g1Bu_ZFaDc|LPc#w:XcAobaDy'f6Z<y'9=2]Pj_c$J9=2]X#kkZy9=2]P4AHq@VGw:$uZEZ5aBa`VdZJlf#nZ&WfP@SUPckW~mC
ol*sRFUoXGcSkCV&dpPWG35c#X#klonZNoo9ZJ6Ug'tyZRVXP%DHc/TRk1Z0XpWBGonqMfzVAPvHjZpAb]e]e[VLPe[hGc&huPW
hNXYQi1c*53!znMQJ($RFfcDc#PMa*g'm^hqqyrItilKP5xXLVXfYmCZSV|p+p?tiVDDsVZ1VDXGW=Pt9.;W:rw3cPpdPXnXQVZ
k:t9XaWDrlV|ZUV!L)+3FZ;8aZCA1(3F!c3Fj_3EDoiff3v3FRdHl63F(X#n#3UPm%3FzR3FZ~Ly(3Fc3n?J3F(X#n4=Xwr3uX3
EVd(XW]qi!0(3l(N)+Ath6/P>?3op'ZI0q:ZZFXUXYm2n.:bWGW;h9:ZDNmvl61Q:ZMpPm4PnK:ZXGm5k4XFHXcLVPg>ZGZRNVd
MWraT:Z6zJ)OPj$i)V^)O8ixjP#Cn%GD:Zc&VQJp*P!eJVPqlZ1C7J3&$Zd1MlXqSW'dpQrQ$ueG$X3&$XCV&H$XNkU$Zc&C*ue
CRbbl`*B*:yxtZeG$cCe(3~v>qhNF1qZJIVKZPhgc(InjPq.NNx9QPWHv5njPMUVW'xg!j2Hxg!jXCXn<5TzsV!Xb0EfeV>AX1H
ZjWx0Efe5d21Pqr*B*:yxB+[yxonSJqrV|d0NxVPNimc6Pw'Nimc6Ptzd0NP9YXxLg'%dXxLg'qF(<GU0Vdm6o$PrQqF*cW]qiA
1)ZUryPzmqFP2HqFPzRqFXam%qFP8DqFPqFVdrEU'p)XnXYd2W=PoHHP^WPXCo$XcU7cS5uVUGg;jVfwbRAPNi?UQJUrMpAVbW:
FMDn4g'qmC4?oMXIk:kPdrJGdBc*drJb>aDcwQfYVIXLWf:ZI7i#<vEWH)++[;>zmXLWf+btsg>q<E4yq<P2HXLWf+b4yq<Etsg
>q<Pn#qG4CtqzFDtzom$`k+#n[3Je%y9PZ+qJ18XOnPXO$`k.WPZhrOXO$`k!VdfwbR)7p+bbfRXu*cZgewPr!WFZPoIAPjer8I
k(o]HPr!WOUjDu_ZfLXQc8q/ktn!GfpJhuCHPNdBg/ZCUrVdGd`jf[3bb(i+`f6+W.Ju5DUd#n#ik.=!9/?9.J#5?J9/?9.J#5y
(ZJ2urL:Z3NZJ2urL:ZDn4g/#n%*;qDn4VG*ck.!+C6r!+gpp(jZaD>?n@RP,&XLXsWmue#PP.qXLXsWmue#PPm>$uWnQJc1Pzm
m>$uo0o0m>P2Hm>Pp_*c%*;qqF(=cnQ:Zo]WF5PPp<$u+W;>hM#n+W;>*><O<x4.;>DH*>+`;>jo#n*:;>rOk.#'!8:Zc;qQJb)
c*Niu.63T)X3cDUDE7hD7+VY3T3cvSVD>?jnZWXdShNP2>PZvGtZqDV|W8qoPXGVZWGXZId2vTjevTd3VZe]5Ih%4Ghs<#nWP%D
.6ZCRWnrKP8,JVCduO$&655P8i655PP3ZpF#fxH;98D(3xH(38f8D(3xH(3P>[+~?Y+~>[63+~?Y63+~%u:?#h<R:?#h#i#lw8V
D#lw8)+mEUC#g#Yw8VD!ny$+m#n&87R+m#n&8P.64SVbqlN1q7j.X2`.XqWb<8TWI:ZW_rwk4n5VDXefnombcVDyRWKFVDc$WLA
*P5^UPzTgpqELtfW(RIbNXbm>J5xk.$Pj_$P1_$P57$P5+$Ph%$P!$$P6w$P5^$Pyk$Pu|J$P2B$Pk;1@j|1@1|1@q97Xq+7Xba
7Xs^7X!57XrW7Xb)7Xu|7X1'VI1?7LDn4g|#nk.!+C6$!+gpp'Ltq*c!+gppdl6p_PqFXbfym7c#jW4Jl<qy#aVei1tZuOZFZuV
drOn*U1aDmYVDy'l0ZEVarLwGJLVNlVj5XYW,iwksDNaDMffWuV+;yDXGnQX#CZIZoUYhqqyy'Ma*23y$2^^WP^W$uNfY4.2^^W
8iGkT11&o#aGkT11&o&nk&jok4XOW]OXbmtDmTcU$`k:p<tf#<DjGn7#<vEWH)+(oXcLue#<c16~DjGn7#<cnoztzd0ND$&Nimc
6P%ty>LBp.4Ec1U;y3Jc1U)a(GxYU:dBk(y$Z=I1(2_!=WJJ+,@V%@n>Z~M*Z@V%@n>Z~MTv6VbV!$Xnd$aZ+ZTWLaBmFT+.$%z
1JvGW]W'@V3]J=C$%f6pd(O8i3((+y$(SP)>7j?@B@cT#a?@B@c$&y$^p7R^pP)>7j?QB3(>NT#a?QB3(>N$&i7^pT3(^pT3FnM
QjoqhNF1q8]Jfy%g1_Zuj@SozqhNFjZVdty1qNk2g7qPZSLe.$&2?l)W=Jq.NNx9Q8i2?l)W=Jq.NNx9QXYk5DmTJq.NNx9QPjF
U'qSb]ctXdtW8]Pk.5P%gj_5P%g1_5P%gGo~5Ikf3~v>qhNF1q2?JnfQXYzpPtyjZJWlk(ZaZ]Wlk(WHv5njJIdxc+ZSzA$ub*V
?f6XGZTi<XGZTi,Xco;)+XGZTi<j0VVfxZ^#a!j!j2H!j5d273@VfxgqGxgZPdsg90;rQU)UvU_NfLrQzXdMW'0;W_ZSzAzXzXD
c+ZSzAPNfYXCRgpZ:hpp%Qg9tDe]rQJXCMX80EUwJNfLnMQjoz#WTPc(liaMolZ[XPaMP2eNP*p)Ey$+m#5%*JZ^Wn%<Wyk%WuW
rC:ZW]%<Wyk%WuWrC:bWIc7s~Pkfo0pOm6UCi7ZuUWDtzPXCR)+#ib*V|VZk2JqrV|nLg/QrVPm^VdDn4l6mNtg1Bu_1_dBD6]5
My!4:y$6z8R4.6z8Rj_6zWwydP1_6zWwyd7Hj$i)G8R4.j$i)G8Ry$0q8R4.0q8RXOHM8R(ocUHMWwb5W,TXOHW'@f5HGT:KT+b
:KTt/:KT+bt/:KP3o,EP@ft/5pPr]LW~n'omV+V^ZdZpPV[QZ`JGk[XYV<Gbuk4W;p?V'P1BCjitfxlomZ_IPRdI)r)%.9P,GGa
`h)WzWV^;92V_Ubf6.9Uc*nUcG2uLaF%;El/WCtqVdeCt#q2^;.9P5xVUZ*F4?nOWlIkR50pDWZr0q2^;3E7WhUVlV+;yDXPSt#
q28[5yVPc7s~wm5yFrEV59T,G*nPc1h#7DdxZdD9TdxZei_9Tt99)5xj>eCXoUot9Pt9l6,G.9E%;P,GVZi@t^Jjrbvf6eCt#hT
ap2uLaF%;c,VUN4G5yr]Xz9TfzX27DNkP9)d39)3~Cry@rm+Qtfb]V#XIc,VUN4GqCpDIVN9Tq?)r$u92j&fzFlK9TZcUwZdL7D
Z;fm5yDm2NaB5yjx9TRXzc!9)W:FMnEd3@r92j&Kim9T,G92j%f6*nX5znc(RtgZcfeUjb;lK9TZgim9TDm2N9)MWraT7Dq2$x4
e*coLqTXLVePRdI5|^%.9P^%Ga`h)WzWVP64^%92GW*3E7WhUP^%Z=aBDobVDt9l6^%%;PXFF1(,Bd3l6,BZ;fm,BD3mnEq?)rT
645yFc2MVI3(5y,GpO3vhUgQJRHHW~Rgli<WJJRgli,P(#qEl6W]CXJaDVWVId+hQJzCmOUCd+hQJzCDn4UCd+hQJzCW4NNaB(#
o>l6k.2_(#o>l6ZFj%2]tgqWCqJjzTq?rX*cXFF1(q2gOLnS2]*a>JXY!?>JP)n>J*`>J*W)m>J+C>JT)n>JT);>J*a^qXY!?^q
P)n^q*`^q7J)m^q+C^qT)n^qT);^q*a>LXY!?>LP)n>L*`>L7J)m>L+C>LT)n>LT);>LPmYy(rqG8Q<cl0;4XYkdJrqG8Q<cl0;
4>04$*:4$+`4$+[4$7*(ng7<d7*(ng7<a(n2Hg7<d(n2Hg7<b:H>uViey:H>u).2`3%'JE/w6n3%/w7J=&>u).=&J<d).=&>u>b
62B</in,FP$;,FP4$mLIqg1qhpUtJW:qhHj7Po?r,qSP3ODXEg>Go@)%5Ql?hgGo@XZCb[P3oo?XYG!0b>OX8feqBH7iqBb[W=V
QqBZEDwLXZlzqBAogceqXq&U'hHWnVD()PH7i()PV<Z[PH7iV<Z[Pe!XOZGm7H7ie!XOZGm7Xwzn1!Z&KWlm7nOI6Lb@qyfaWlV
9AjfW:dKPb>ZTktoYo?8hJo?d/XYvhh9Jo?d/8hWxfpd/PUiXze]b>Od/P1KPdHxUDXEVBxU=>yvJ3m*VyvJ3moo9Z$Z()DcWr3
uX3mP%dq<Jk&n#c+ktrOvA$cXOt!:ZrODXOt!:ZNium]jZtgWcVb4N:ZnXrRm]jZ:ZXFGfpJua:ZZwZ2XFGfpJua:ZZGq0m7rOZ
Gq0m3XaIq0W;VZ8hWwIq0W;VZPw7b]U3PrOw7b]fuXbKlcdCJuO23c$D:ZZ<c$D:ZpAb[WIonZN:ZV[Wfg9ual<hcXYKk[onj&p
(KGV)PnrDn!Gl:b[LPqbV[OVdp*RfXdyWh7HW.XqfY:*;zVdc8W9qHVB<hWn53!zD2DZFUYD:Zc|LD:bkTtZmtNXYm24LU1qhXO
M!0VcH7Fp*Vdp_W8XHp_XaVBP(.r]1KPWOjIWQUq$cW87Fb[W=VQXYGV!APXCRHW@PKl1FJGg[m7KV7Pg+Z$jnp!n>UYRw'DW;n
PudP4?ZEWVP2>tZZ=hNPh.VAW'HWfJMpL4jd/Po?r,Go~4jJxU>[obWcfm0CVH0CC8p%'63%'rPj#UjG*i%'0CU'8Yi,X4SXzd^
Rp8VUGg;jYH7iq&U'hHWnCc,U|g.W:qhHj7PnrDhHg/1KXYqfjZ4jWuqf1qdvHVDDm6XcLueVUV*hBXeV>xVPe!JSlth*UWPNlt
i7b@qypOLg/VeUmCp8UqqmOtX.6rmd*VXCreEe=Eq&gsfaW7uaVkrk51WaVkrkcWRWXagVFIUxYMZ+V<VSZ+V<Cpod^Co8Ed^Co
8dTVli4SblIm)WHmMh&i4SE#aDi4SEoIqdaBs'n~VSs'n~CdTVuIrhp+EhZV?Zxb?VzIb]WGVzIb]WGpopUJhZV`hZGpoRWGMEh
3ryElrJkqUakqpod2qbtflriLRV9ilk4lrE5lJkqElrUC5lJkqE;l5lEd2qbtf5lavv+po5lJ0vWXV>E9V5lJ0vWXV>E;l9V5lE
ryngpWiCZykqVnCfKkqE0vaBkqE;l&P9V&P;l9V&Pd^C4qk4&PXwRV9ilk40vaJ0vaFYAXwRV9V5iLRV9V5dTUBVkLXem[UqQe[
pon`ZPVaV>EhZUCUtc&IU1VkSDVLWliLUqo8iLUqo8poUlpYWizAVtWaOiwkqEjJjJEjJjJpormqxm_bHWLU7VtWLU7dTVkLi#H
WfEtDWciCZ3b.gxi#Z:UXENWTnQEqPUXVmV7V'EqQiuXOSGFi#VhCNjZtfZoruZPW^ZRV5E8,EhspF8,iDnMjqVlHUsEFdIU~mZ
hdcoRVkh+VYNkXewU|VtSltENWTnQg>ZJltVkXLLRfShwGi$s/tbGV#aob>GV#pos'Os(Ec7ZVNlVV>iGhqW=iGDbXrunfbXZ&p
oc3WmZ/NFb?d4jzVuXxZVduVuXxZVdudTX&Ee?XUWlVte&tfn`aJZ$NkQDiLjnV?3HE5?W@aF5?zBtKJcuXXcBZRpx#a,&'B>['
B.q'B?Y'BD3mnE63#h4bt/:Bt/:B2`:B>b:B<N:B:AJ^M#hw'GflG<]wQVHD3mW?wP$m3m<*4Z<*t/.`7J.`P)2<*<N.`8i65=a
J,N!,7p$m65GflG<]J(3T,N(3T4b63(3:oJ=aJ,N(37pJ(3P(3JGflG<]J3eVH,N3eVH4b63=~3eU'^M(hv!,,3o,,4b,,t/,,6
Lt/%#uOT2`,,<N,,v!)=3o)=4b)=t/)=2`)=>b)=<N)=3o'E4b'Et/'E2`'E>b'E<N'E3m'D4Z'DqDM'D2~'D)2'D<Nba~53o'I
4b'It/'I2`'I>b'I3o1_^o1_>I1_^o1_4G?E3o57^o57>I57^o)k?E$;.c?E3o5+^n5+^oh%^nh%>Ih%4G?E4b6w^n6w>I>b6w^
n.4?E3o2B^n2B(*taE?E#i8.?F%c#i!,?F!,Y~P3Z8D;9Z~Ly(;9zR;9c3n?*IT)W;9pF!,xH!,T8D!,TZ~Ly(!,TzR!,Tc3n?w
QVH)W!,Y^7J=qdn>0|**:|*+`|*+[|*[m_j[W_j[6_j[1_j[m3Z]l[W3Z]l[63Z]l[13Z:,Y^>0|)*:|)+`|)+[|)[m[[[W[[[6
[[[1[[2`[m[][W[][6[][1[][m3Z[][W3Z[][63Z[][13Z[[_:7g~@7g~^7g~]7g~[4Z~@4Z~^4Z~]4Z~[qDM~@qDM~^qDM~]qD
M~[2~~@2~~^2~~]2~~[)2~@)2~^)2~])22&+W,.@1,.@4,.@3,.@2!:@1!:@4!:@3!:@2,C@1,C@4,C@3,C@2@G@1@G@4@G@3@G
@22`@12`@42`@32`u5Y/>0).@1).@4).@3).;_).;~).?6).;|).;^).;]).u5Y|Xdle7Y+W@L*:@L+`@L+[@L)m3m[~@L);3m[
|@L+W.r*:.r+`.r+[.r5=r;G[~.r6xa'G[|.r+W@T*:@T+`@T+[@T)m4Z[~@T);4Z[|@T+W@F*:@F+`@F+[@F)m2~[~@F);2~[|
@F+W@^*:@^+`@^+[@^)m)2[~@^);)2[|>b5Fu5Y/>0]l*:]l+`]l+[]l8=/G7=/G!W/G9//G[m;Z[W;Z[6;Z[1;Z2`#2h*URV^z
!k<9uVj2ZUb1>>0$/UC|4$'|3jo|4jo|3y%|44;|34;|4y%|3p<~g@4p<~g@2xk~g@4xk~g#37j#2h*URV^z!k<9uDp6;[*:j:J
5=r;V=+`&46xr;GY]Zh#i#l53C)+)iVj&(B53CVD%jJ;!)iVj&8Ua&(abkW#h9/Jzs3J!n3Jmb<uB!nmb](c6xbz1D8i3F)W3Fc
6quXo2_aPNn3UC4e7Dc&CaF4e7D,Gj.Okk1qrKM7DV_WnQ@rmNX.fyfYdFkX5yKV%R9)61k4j,tqbbfFXMJ2_4yp<tf2_%nq$V|
)Jq$V|2]W4XfP+.27f6w*(OWx46PWeW:rwZ`FJ+,,GqjZFaBKe(dzZ>7DZsV5CUm9TpO3v2U5,JW+i)23MXyWG9)W?9)5xntOXY
ZuVR@rk.hT5YJo>VBPRdI)r$vjJJhUtI3Zf6k.63hTP,Gz1Wxk?l6zmm^VdhhIkR,G60DWxk?l64e^;.9tZ2^ZUryl64eP,G92j
%Z*XPj5XYKk2g>,GVPXJH3>mNPc7XsfwW2klXaSa'V~ZcVB23ntOVbi710PheZfVDtyqXy'l0GV.VBHomj.WxKpWGXLVdVcXxRP
(#W_l6qSGudPZnXqm`XcCreSomnQZyc1Ge&ckXdpAb=SVduatiHPmF5InnZ1cSVeXdWfjfxjPMpL$uMpLDj4bbcnt#;yGb4Lg/#
PoiHk(RHe]ZuV|Xzq,P5&4NJ4WvNJ4NJ4W1>J4NJ4Wdrl6RW:Z&olSv3faVbi^53P5gl6VZk:W+uOg(j4!^Dk35IZguenjPd2lI
fwPU5WOUrHXbV*vnondxPNkVjmqSSkZp*FU/jV5WzRhZfLh*Ly(cxtf50VZFZjg>q:5WVFRP#PtfobQPXEU3V7VdQIUWWmSb0Pc
xqRgpW^OXJ2351V+U'qfQWZPjHCkSqGqoNDj4VdqE*QDXFk(qc$vb>UWXbHdxV7PqLZYkbPn)Pc7GaMLXbF1*XMe(DfyUWWlKXb
a+g>50m9aBc/VLolraomk&5cp*VA^;.9tZ1_3EVdZ_UW)r^;V>fe,G(8#D(8Ke#V+hPJhUtZx24ePk?mHG9TZiCVR9)d.Zkc,DR
FWa9T5x9=p<JGa`D*cn?A3>hUXYfbPW+ZHZUe(RWKRm3PW9t#ZFkZq:l*CXbXuZIW;k&5yDqiXGk(b.o0i^uI7DCUvm7W^qyp(X
Yl`QPWTLXcWU7Dp/jZZgaDW]g'RkrnAPLWrfcPSW9ZwZRpNXYKXzONXYrmW'c|U2Zc7DaMqJ7DW6ctW8RXYUlpPHW'V~SVPXbSl
tg9XerZXyHPnAXLPn5k2PW9NXFXFjGinnvSkZc`qfZ0LWNhuombcIjmXPd2ZConctSPViU3olOOkYc+W_XYm*KPWE1qWLfzFb7X
Yc=QXcmtl2HPWVhuXaCU5g'ZGDk(VWe_RFlfW_RPc8dsRl,VDVCcGJqhc5hLpFmCB5hJmCU.UqW[7jmCXak:m8Pq!Pv2w,mMHw,
Z+nAWnXYU2Cj`Z&VZPa`$umOl6UnM4jIsfuduLolZve]uduLXZhCU3tXfdTm8opgqZ;ctPqc5chZGl(Qg'ZCryfXqGo8cmPWQIk
(ZaW+ZcLXdU2q,Pp/1qt2MzWPluqeXab5m5V>APb[W=XYb73>($XjCC3v($W]U2J($,G4fm7UrV9V|qpLW'WG35UrV9GXaa`nS(
$@SmNDqSURTl0hpAXWcXWIX8m_dsRTl0m*il4DolXnXce=aDZ$On*VDoI($VAZhXnZxVDaOXUWZXao@P8D3FZGLm!qQXYqSZhRW
:Z&bbHe(Dk2VdpFRWmV^#<q&VJo~g'ZpRDU6JNFaUm54JPV>hrGV)VDXEb]JniPMrD3%mLWpPqhnrVdfnZSvSU'VPj5FlKg'V[W
GqGZJltolXsg9W.XqfYW:18ZFGb=oiHWGtfj=fLp.tfZ_SZ0VUZcj`c6PjXMaBZCfeqLWIonVeg9pOLtftzonStfDHUsoik)VDp
HINV|ZsaKSJUtFm4:;||V=nz]Y)c.v^D)c.v]m)c.v:p`[<^`[:;`[]Y[z.v^D[z.v]m[z.v8i.u#M!4[T$&.u#M!4[T8[.u#M!
4[T]Y+z$I.v^D+z$I.v]m+z$I.v:p`;<^`;:;`;]Y.IzvJ$3^D.IzvJ$3]m.IzvJ$38i^s$&^s8[^s8i^s^x$&^s^x8[^s^x:p5
[5'Q5[pSu,GX.2l<^5[5'Q5[pSu,GX.2lpxZ[fzUUWepFRhIe>t3dIBg+w#BmZVWB5tb#a+k9bXW|VGT#aRhIe>t3dIBg+w#BmZ
VWB5tb#a+k9bXW|VGp6p.U/l*gpk;4JJh[Db0XapVURVd1OVdV_k>Df5Lp8MpPJk7m+W'UrW6h#WwfyfYhpj$vTUXUCdBXbXxb_
p8Z`UCZ`PQIjYnxqnjYZFkkdARolRlsUWf7c6UmAc.D1(nbDY<Ppdg>n]g9uLPSU9ktU7Cc,sAmtNonZ4HXZIm]fmmLOg9U1qiW
|k(3hMpLXbHWnPqSNvAWuU6XYd1UWMSy6PW+M36mbXZWjSktz#WTPn@Z1hBVOl6ZuVBm7QrNXai@g9oVhdb>NPv2xYPmNVZk:n>
qSW'pUXZWjSks5IItxWm8IWxfcPy(p(jZaDl'VUp8ZgaDr]OPp=b=Xbk2XyfqPXFGjfn]V|Z<HW'xdg'm*inqie_0;ZuVZc.D*B
VFRDp!fsV[OtX3FLi|VdXEWHm5KV%R23c7XsfwJc#T($@SuDUTp#UPW.Cp?pVVdp_JXENn3PkbZ&Pq:5WjGe?Pd8W^VDV>fNV|X
FF4?W;rmW'ZCfuPZkSY|XZVAG9)hZV7@r2HhUtZ2^2d4eU)CCt#hTB!A4eP3#3r5yqHl6m^XaydY/P+.27z1tZ$BuOVB>22_+W2
_3[3(mFTi72_27(+e%j,Z+VOg'(X2]Y<PuAWuvFGpm[cUG+DUH[cUH+DYF[cYF+DUI[cUI+DYG[cYG+DYT[cYT+DdW[cdW+DUJ[
cUJ+DYH[cYH+DYU+DdX[cdX+DYf[cYf+DdZ[cdZ+Dde[cde+Dps[cps+DUK[cUK+DYI[cYI+DYV[cYV+DdY[cdY+DYg[cYg[cda
+Ddf[cdf+Dpt[cpt+DYr[cYr+Ddb[cdb+Ddg[cdg+Dpu[cpu+Ddi[cdi+Dpv[cpv+Dpw[cpw+Dt|P%t?2,(~O4<#//E)D[;7R|&
$%~P4<,(~P)D[<*0`Y~S_1,#~S9nJ)Cy$|&#d_1`Y/]J)D@%.)4:<R?2,(~O4<#//E)D[;7N|&$%~P4<,(~P)D[<*0`Y~S_1,#~
S9nJ)C4.|&#d_1`Y/]J)D@%.))C9M9K@*7H9K9M@*Pvm!]9K@*P%i#/9M@*T@)*Y@)7L@)Py*@)*V[ydTpkP=>[ydTpk7H_yB_6
P)E_6By*[y*Y_yP=>[yX+YUUM*Y;BT_a_p=7T@w7L;BT_a_p=7T@w7H@E4.@E#/@Ey*@E$U>Q#/9;J9K.U>PB$U>PJ9K9;p0y$.
U>PJ9M9;P,FJq*P$U,FJq*7J=>q**Y,!J4.q*7Rjk%tq*T9K%d9;7H9M%d9;P<Q%d>P7R%d>Q%u%d>P7N%d>QdrJcueCR7(!A_N
%h4<@%$qUb]EUa_N[;Ue]EUa@%@64*Ud_N4<_N%i$%]EUe)E/E9m@6%h,!@64<$%,#@6]Eau2v9n@6[;Ua(3E@<>YP#67W!H$U,
E7H2[dE5|c#7L2[dE5|c#P$U[1j1::[ltZ#/_y>2#7#/_y>1#74.[y>z#74.[y7H2[!j4.2[!jZ*InS,,4.2H!:nW+Y!AuOB$%]
EB(38i2`D0L$u;zD7H~?P$%~?7L~?[n,MXYj4J5%)%fdVbo>g=m05|y#4+#nMpAD8i>[qmUVdGY@YxVWRzAg>`XCY`UEYcUMPce
RFfXjIY?ZhjIwIVH]8?,.~T.h;T:HT&F/yT;gT!IxJT=^+FT62`(uG8nT(d@5>9$a,MT[7T'@T?;/8@ZT]4T%r,+^9'K@lT;b@m
T&szgJjI"

/-- Further names of characters, written out. -/
def aliasTable : String := "
=aNUL=aNULLaSOH=aSTART OF HEADINGcTEXT=aSTXaEND OF TEXT=aETXaEND OF TRANSMISSION=aEOTaENQ=aENQUIRY
aACK=aACKNOWLEDGEaALERT=aBELaBACKSPACE=aBSaCHARACTER TABULATION=aHORIZONTAL TABULATION=aHT=aTAB
aEND OF LINE=aEOL=aLF=aLINE FEED=aNEW LINE=aNLaLINE TABULATION=aVERTICAL TABULATION=aVTaFF=
aFORM FEEDaCARRIAGE RETURN=aCRaLOCKING-SHIFT ONE=aSHIFT OUT=aSOaLOCKING-SHIFT ZERO=aSHIFT IN=aSI
aDATA LINK ESCAPE=aDLEaDC1=aDEVICE CONTROL ONEaDC2=aDEVICE CONTROL TWOaDC3=aDEVICE CONTROL THREE
aDC4=aDEVICE CONTROL FOURaNAK=aNEGATIVE ACKNOWLEDGEaSYN=aSYNCHRONOUS IDLEaEND OF TRANSMISSION BLOCK
=aETBaCAN=aCANCELaEND OF MEDIUM=aEOMaSUB=aSUBSTITUTEaESC=aESCAPEaFILE SEPARATOR=aFS=
aINFORMATION SEPARATOR FOURaGROUP SEPARATOR=aGS=aINFORMATION SEPARATOR THREEcTWO=aRECORD SEPARATOR=
aRSaINFORMATION SEPARATOR ONE=aUNIT SEPARATOR=aUSaSP=5FaDEL=aDELETEaPAD=aPADDING CHARACTER
aHIGH OCTET PRESET=aHOPaBPH=aBREAK PERMITTED HEREaNBH=aNO BREAK HEREaIND=aINDEXaNEL=aNEXT LINEaSSA=
aSTART OF SELECTED AREAaEND OF SELECTED AREA=aESAaCHARACTER TABULATION SET=
aHORIZONTAL TABULATION SET=aHTSaCHARACTER TABULATION WITH JUSTIFICATION=
aHORIZONTAL TABULATION WITH JUSTIFICATION=aHTJaLINE TABULATION SET=aVERTICAL TABULATION SET=aVTS
aPARTIAL LINE DOWN=cFORWARD=aPLDaPARTIAL LINE BACKWARD=cUP=aPLUaREVERSE INDEX=bLINE FEED=aRI
aSINGLE SHIFT TWO=aSINGLE-SHIFT-2=aSS2aSINGLE SHIFT THREE=aSINGLE-SHIFT-3=aSS3aDCS=
aDEVICE CONTROL STRINGaPRIVATE USE ONE=bUSE-1=aPU1aPRIVATE USE TWO=bUSE-2=aPU2aSET TRANSMIT STATE=
aSTSaCANCEL CHARACTER=aCCHaMESSAGE WAITING=aMWaSPA=aSTART OF GUARDED AREA=cPROTECTED AREA
aEND OF GUARDED AREA=cPROTECTED AREA=aEPAaSOS=aSTART OF STRINGaSGC=
aSINGLE GRAPHIC CHARACTER INTRODUCERaSCI=aSINGLE CHARACTER INTRODUCERaCONTROL SEQUENCE INTRODUCER=
aCSIaST=aSTRING TERMINATORaOPERATING SYSTEM COMMAND=aOSCaPM=aPRIVACY MESSAGEaAPC=
aAPPLICATION PROGRAM COMMANDaNBSP=DaSHY=F5aLATIN CAPITAL LETTER GHAbSMALL LETTER GHA=1ACaCGJ=2CD
aALM=EDaSYRIAC SUBLINEAR COLON SKEWED LEFT=5D5aKANNADA LETTER LLLA=1BFaLAO LETTER FO FON=2dFAY=4cRO
=2cLO=12BaTIBETAN MARK BKA- SHOG GI MGO RGYAN=21CaHANGUL JONGSEONG YESIEUNG-KIYEOK
cYESIEUNG-SSANGKIYEOKcSSANGYESIEUNGcYESIEUNG-KHIEUKH=61CaFVS1aFVS2aFVS3aMVSaFVS4=7FCaZWSPaZWNJaZWJ
aLRMaRLM=1BaLREaRLEaPDFaLROaRLOaNNBSP=30aMMSPaWJ=6aLRIaRLIaFSIaPDI=AFaWEIERSTRASS ELLIPTIC FUNCTION
=330aMICR ON US SYMBOLbDASH SYMBOL=731aLEFTWARDS TRIANGLE-HEADED ARROW WITH DOUBLE VERTICAL STROKE
=2aRIGHTWARDS TRIANGLE-HEADED ARROW WITH DOUBLE VERTICAL STROKE=7499aYI SYLLABLE ITERATION MARK=A59
aMYANMAR LETTER KHAMTI LLA=5392aVS1+++++++++++++++=9
aPRESENTATION FORM FOR VERTICAL RIGHT WHITE LENTICULAR BRACKET=E7aBOM=aBYTE ORDER MARK=aZWNBSP=23D5
aCUNEIFORM SIGN NU11 TENUdOVER NU11 BUR OVER BUR=4B81aMEDEFAIDRIN CAPITAL LETTER HdNG=1F
bSMALL LETTER HdNG=418AaHENTAIGANA LETTER E-1=20C4
aBYZANTINE MUSICAL SYMBOL FTHORA SKLIRON CHROMA VASIS=C303BaVS17+++++++++++++++++++++++++++++++++++
+++++++++++++++++++++++++++++++++++++++++++++++++++++++++++++++++++++++++++++++++++++++++++++++++++
+++++++++++++++++++++++++++++++++++++++++++++++++++++++++++++++++++++++++++++++++++++++++++++++++++
++++++"

end Codebook.Text
